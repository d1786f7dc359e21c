/-
`VulkanDriver`: the tables of the caller's side and a render thread behind a
command channel.  The backend is a parameter; any of its calls may fail or
panic.  A caller waits for the reply to each of its requests, so a request is
taken as one exchange with the thread.
-/
import SherGraphics.Machine
import SherGraphics.VulkanTables

namespace SherGraphics

/-- Errors a backend can report to the adapter. -/
inductive BackendError where
  | unavailable (message : String)
  | deviceLost (message : String)
  | unsupported (message : String)
  | execution (message : String)
deriving DecidableEq, Repr

abbrev BackendResult := Except BackendError

def backendErrorToSher : BackendError → Error
  | .unavailable message => .device ("Vulkan unavailable: " ++ message)
  | .deviceLost message => .device ("Vulkan device lost: " ++ message)
  | .unsupported message =>
      .device ("Vulkan backend does not support this operation: " ++ message)
  | .execution message => .device ("Vulkan execution failed: " ++ message)

/-- How a backend call on the render thread ends. -/
inductive BackendOutcome where
  | returned (result : BackendResult Unit)
  | panicked
deriving DecidableEq

/-- The interface of the render thread to Vulkan.  `drop` is what its `Drop`
does, which the thread runs last. -/
class VulkanBackend (B : Type) where
  enumerateAdapters : B → BackendResult (List BackendAdapterInfo) × B
  execute : List DriverOp → B → BackendOutcome × B
  reset : B → BackendOutcome × B
  drop : B → B

/-- A call that the render thread makes. -/
inductive BackendCall where
  | execute (ops : List DriverOp)
  | reset
deriving DecidableEq, Repr

/-- Make the call. -/
def BackendCall.serve {B : Type} [VulkanBackend B] :
    BackendCall → B → BackendOutcome × B
  | .execute ops => VulkanBackend.execute ops
  | .reset => VulkanBackend.reset

/-- A backend that answers its calls of `execute` from a script, and accepts
everything once the script is over. -/
structure ScriptedBackend where
  adapters : List BackendAdapterInfo
  script : List BackendOutcome

instance : VulkanBackend ScriptedBackend where
  enumerateAdapters backend := (.ok backend.adapters, backend)
  execute _ops backend :=
    match backend.script with
    | [] => (.returned (.ok ()), backend)
    | outcome :: rest => (outcome, { backend with script := rest })
  reset backend := (.returned (.ok ()), backend)
  drop backend := backend

/-- A thread that stops first drops the requests it holds, and only then closes
its end of the channel and drops its backend. -/
inductive ThreadStatus where
  | running
  | stopping
  | stopped
deriving DecidableEq, Repr

/-- The render thread.  The backend of a stopped one has been dropped, and
nothing calls it. -/
structure RenderThread (B : Type) where
  status : ThreadStatus
  backend : B

/-- What a caller learns of its request. -/
inductive Response where
  | answered (result : BackendResult Unit)
  | dropped
  | notSent
deriving DecidableEq

namespace RenderThread

variable {B : Type} [VulkanBackend B]

/-- One request, from the send to the end of `recv`.  A panic ends the thread
and drops the reply sender. -/
def ask (serve : B → BackendOutcome × B) (thread : RenderThread B) :
    Response × RenderThread B :=
  match thread.status with
  | .running =>
      match serve thread.backend with
      | (.returned result, backend) =>
          (.answered result, ⟨.running, backend⟩)
      | (.panicked, backend) => (.dropped, ⟨.stopping, backend⟩)
  | .stopping => (.dropped, ⟨.stopped, VulkanBackend.drop thread.backend⟩)
  | .stopped => (.notSent, thread)

variable {serve : B → BackendOutcome × B} {thread : RenderThread B}

theorem ask_of_returned {result : BackendResult Unit} {backend : B}
    (hrunning : thread.status = .running)
    (hserved : serve thread.backend = (.returned result, backend)) :
    ask serve thread = (.answered result, ⟨.running, backend⟩) := by
  rw [ask, hrunning, hserved]

theorem ask_of_panicked {backend : B} (hrunning : thread.status = .running)
    (hserved : serve thread.backend = (.panicked, backend)) :
    ask serve thread = (.dropped, ⟨.stopping, backend⟩) := by
  rw [ask, hrunning, hserved]

theorem ask_of_stopping (hstopping : thread.status = .stopping) :
    ask serve thread =
      (.dropped, ⟨.stopped, VulkanBackend.drop thread.backend⟩) := by
  rw [ask, hstopping]

theorem ask_of_stopped (hstopped : thread.status = .stopped) :
    ask serve thread = (.notSent, thread) := by
  rw [ask, hstopped]

/-- A request is sent as long as the channel is open. -/
theorem ask_sent (serve : B → BackendOutcome × B)
    (hopen : thread.status ≠ .stopped) : (ask serve thread).1 ≠ .notSent := by
  cases hstatus : thread.status with
  | running =>
      cases hserved : serve thread.backend with
      | mk outcome backend =>
          cases outcome with
          | returned result =>
              rw [ask_of_returned hstatus hserved]
              simp
          | panicked =>
              rw [ask_of_panicked hstatus hserved]
              simp
  | stopping =>
      rw [ask_of_stopping hstatus]
      simp
  | stopped => exact absurd hstatus hopen

/-- A thread that does not run gives no answer and calls nothing; it drops its
backend if it still has it. -/
theorem ask_of_not_running (serve : B → BackendOutcome × B)
    (hdead : thread.status ≠ .running) :
    ∃ response backend, ask serve thread = (response, ⟨.stopped, backend⟩) ∧
      (response = .dropped ∧ thread.status = .stopping ∧
          backend = VulkanBackend.drop thread.backend ∨
        response = .notSent ∧ thread.status = .stopped ∧
          backend = thread.backend) := by
  cases hstatus : thread.status with
  | running => exact absurd hstatus hdead
  | stopping =>
      exact ⟨.dropped, _, ask_of_stopping hstatus, .inl ⟨rfl, rfl, rfl⟩⟩
  | stopped =>
      refine ⟨.notSent, _, ?_, .inr ⟨rfl, rfl, rfl⟩⟩
      rw [ask_of_stopped hstatus, ← hstatus]

end RenderThread

/-- Synchronous driver over a render thread. -/
structure VulkanDriver (B : Type) where
  tables : VulkanTables
  worker : RenderThread B

namespace VulkanDriver

variable {B : Type}

/-- Call a method of the tables. -/
def onTables {α : Type} (method : Method Error VulkanTables α) :
    Method Error (VulkanDriver B) α :=
  fun driver =>
    let (result, tables) := method driver.tables
    (result, { driver with tables })

theorem onTables_run {α : Type} {method : Method Error VulkanTables α}
    {driver : VulkanDriver B} {result : Result α} {tables : VulkanTables}
    (hrun : method driver.tables = (result, tables)) :
    onTables method driver = (result, ⟨tables, driver.worker⟩) := by
  rw [onTables, hrun]

def allocateVram (device : ObjectId) (size : Nat) (memoryClass : MemoryClass) :
    Method Error (VulkanDriver B × IdSource) GpuAllocation :=
  fun (driver, ids) =>
    let (result, tables, ids) :=
      VulkanTables.allocateVram device size memoryClass (driver.tables, ids)
    (result, { driver with tables }, ids)

def recordFault (device : ObjectId) (description : String)
    (driver : VulkanDriver B) : VulkanDriver B :=
  { driver with tables := driver.tables.recordFault device description }

/-- Send a request and wait for the reply; there is none when the sender of
the reply is dropped. -/
def request [VulkanBackend B] (serve : B → BackendOutcome × B) :
    Method Error (VulkanDriver B) (Option (BackendResult Unit)) :=
  fun driver =>
    let (response, worker) := driver.worker.ask serve
    match response with
    | .answered result => (.ok (some result), { driver with worker })
    | .dropped => (.ok none, { driver with worker })
    | .notSent =>
        (.error (.device "Vulkan render thread is not running"),
          { driver with worker })

/-- What `submit` makes of a reply. -/
def receiveSubmit (device : ObjectId) :
    Option (BackendResult Unit) → Method Error (VulkanDriver B) Unit
  | some (.ok ()) => pure ()
  | some (.error (.deviceLost message)) => do
      Method.change (recordFault device ("device lost: " ++ message))
      Method.fail (.device ("Vulkan device lost: " ++ message))
  | some (.error error) => Method.fail (backendErrorToSher error)
  | none => do
      let description := "Vulkan render thread stopped before replying"
      Method.change (recordFault device description)
      Method.fail (.device description)

/-- What `reset_device` makes of a reply. -/
def receiveReset (device : ObjectId) :
    Option (BackendResult Unit) → Method Error (VulkanDriver B) Unit
  | some (.ok ()) =>
      onTables (Method.change fun tables =>
        { tables with faults := tables.faults.erase device })
  | some (.error error) => Method.fail (backendErrorToSher error)
  | none =>
      Method.fail (.device
        "Vulkan render thread stopped before replying to reset")

/-- The driver that `with_backend` builds over a backend with these
adapters. -/
def start (adapters : List BackendAdapterInfo) (vramBytes : Nat)
    (ids : IdSource) (backend : B) : VulkanDriver B :=
  ⟨VulkanTables.new adapters vramBytes ids, .running, backend⟩

variable [VulkanBackend B]

/-- One device for each adapter of the backend, and a render thread, which the
operating system may fail to spawn. -/
def withBackend (backend : B) (vramBytes : Nat) (spawned : Except String Unit)
    (ids : IdSource) : Result (VulkanDriver B) × IdSource :=
  match VulkanBackend.enumerateAdapters backend with
  | (.error error, _) => (.error (backendErrorToSher error), ids)
  | (.ok [], _) =>
      (.error (.device "Vulkan backend reported no physical devices"), ids)
  | (.ok adapters, backend) =>
      let later := ids.advance adapters.length
      match spawned with
      | .error reason =>
          (.error (.device
            ("failed to spawn Vulkan render thread: " ++ reason)), later)
      | .ok () =>
          (.ok (start adapters vramBytes ids backend), later)

/-- A driver comes with the adapters its backend reported. -/
theorem withBackend_ok {backend : B} {vramBytes : Nat}
    {spawned : Except String Unit} {ids later : IdSource}
    {driver : VulkanDriver B}
    (hopened : withBackend backend vramBytes spawned ids =
      (.ok driver, later)) :
    ∃ adapters backend, driver = start adapters vramBytes ids backend ∧
      later = ids.advance adapters.length := by
  rw [withBackend] at hopened
  cases henumerated : VulkanBackend.enumerateAdapters backend with
  | mk result after =>
      rw [henumerated] at hopened
      rcases result with error | adapters
      · cases hopened
      · cases adapters with
        | nil => cases hopened
        | cons adapter rest =>
            cases spawned with
            | error reason => cases hopened
            | ok value =>
                cases hopened
                exact ⟨adapter :: rest, after, rfl, rfl⟩

/-- Refuse on a recorded fault, otherwise ask the render thread. -/
def enqueue (device : ObjectId) (ops : List DriverOp) :
    Method Error (VulkanDriver B) Unit := do
  let _ ← onTables (VulkanTables.knownDevice device)
  let faults ← Method.read fun driver => driver.tables.faults
  match faults.get device with
  | some fault =>
      Method.fail (.device ("device faulted at " ++
        SoftwareGpuDriver.hex fault.address ++ ": " ++ fault.description))
  | none => do
      let reply ← request (VulkanBackend.execute ops)
      receiveSubmit device reply

/-- The class is not looked at, and the caller's thread does not panic. -/
def submit (device : ObjectId) (_class : WorkloadClass)
    (ops : List DriverOp) (driver : VulkanDriver B) :
    Outcome × VulkanDriver B :=
  let (result, driver) := enqueue device ops driver
  (.returned result, driver)

def resetDevice (device : ObjectId) : Method Error (VulkanDriver B) Unit := do
  let _ ← onTables (VulkanTables.knownDevice device)
  let reply ← request VulkanBackend.reset
  receiveReset device reply

omit [VulkanBackend B] in
theorem allocateVram_advances (device : ObjectId) (size : Nat)
    (memoryClass : MemoryClass) (driver : VulkanDriver B) (ids : IdSource) :
    ids.Advances
      (allocateVram device size memoryClass (driver, ids)).2.2 := by
  change ids.Advances (VulkanTables.allocateVram device size memoryClass
    (driver.tables, ids)).2.2
  rcases VulkanTables.allocateVram_cases driver.tables ids device size
      memoryClass with ⟨available, -, -, -, hrun⟩ | ⟨error, hrun⟩
  · rw [hrun]
    exact ids.advance_advances 1
  · rw [hrun]
    exact .refl ids

instance : GpuDriver (VulkanDriver B) where
  probe driver := driver.tables.probe
  initializeDevice device := onTables (VulkanTables.initializeDevice device)
  allocateVram := allocateVram
  freeVram allocation := onTables (VulkanTables.freeVram allocation)
  mapDma allocation := onTables (VulkanTables.mapDma allocation)
  submit := submit
  faultStatus driver := driver.tables.faultStatus
  vramAvailable driver := driver.tables.available
  resetDevice := resetDevice
  markFaulted := recordFault
  allocateVram_advances := allocateVram_advances

instance : FreshAllocations (VulkanDriver B) where
  fresh gpu size memoryClass driver after ids later allocation hrun := by
    change allocateVram gpu size memoryClass (driver, ids) = _ at hrun
    rw [allocateVram] at hrun
    rcases VulkanTables.allocateVram_cases driver.tables ids gpu size
        memoryClass with ⟨available, -, -, -, hgranted⟩ | ⟨error, hrefused⟩
    · rw [hgranted] at hrun
      cases hrun
      exact ⟨ids.next_not_issued, ids.next_issued⟩
    · rw [hrefused] at hrun
      cases hrun

end VulkanDriver

/-! ### What `submit` and `reset_device` do -/

namespace Response

/-- The result of a submit that got this response. -/
def submitResult : Response → Result Unit
  | .answered (.ok ()) => .ok ()
  | .answered (.error error) => .error (backendErrorToSher error)
  | .dropped =>
      .error (.device "Vulkan render thread stopped before replying")
  | .notSent => .error (.device "Vulkan render thread is not running")

/-- The result of a reset that got this response. -/
def resetResult : Response → Result Unit
  | .answered (.ok ()) => .ok ()
  | .answered (.error error) => .error (backendErrorToSher error)
  | .dropped =>
      .error (.device "Vulkan render thread stopped before replying to reset")
  | .notSent => .error (.device "Vulkan render thread is not running")

/-- What a submit that got this response records for its device. -/
def lossRecorded : Response → Option String
  | .answered (.error (.deviceLost message)) =>
      some ("device lost: " ++ message)
  | .dropped => some "Vulkan render thread stopped before replying"
  | _ => none

end Response

namespace VulkanTables

/-- The tables after a submit that got a response. -/
def afterSubmit (tables : VulkanTables) (device : ObjectId)
    (response : Response) : VulkanTables :=
  match response.lossRecorded with
  | some description => tables.recordFault device description
  | none => tables

/-- The tables after a reset that got a response. -/
def afterReset (tables : VulkanTables) (device : ObjectId)
    (response : Response) : VulkanTables :=
  if response = .answered (.ok ()) then
    { tables with faults := tables.faults.erase device }
  else tables

end VulkanTables

namespace VulkanDriver

section Methods

variable {B : Type} [VulkanBackend B] {driver : VulkanDriver B}
  {device : ObjectId}

omit [VulkanBackend B] in
theorem knownDevice_run (hknown : driver.tables.Knows device) :
    ∃ info, onTables (VulkanTables.knownDevice device) driver =
      (.ok info, driver) := by
  obtain ⟨info, hfind⟩ := hknown
  refine ⟨info, ?_⟩
  rw [onTables, VulkanTables.knownDevice_of_known hfind]

theorem submit_of_unknown (hunknown : ¬ driver.tables.Knows device)
    (workload : WorkloadClass) (ops : List DriverOp) :
    submit device workload ops driver =
      (.returned (.error (.device "unknown GPU device")), driver) := by
  have hlookup : onTables (VulkanTables.knownDevice device) driver =
      (.error (.device "unknown GPU device"), driver) := by
    rw [onTables, VulkanTables.knownDevice_of_unknown hunknown]
  rw [submit, enqueue, Method.bind_of_error hlookup]

theorem submit_of_faulted {fault : GpuFault}
    (hknown : driver.tables.Knows device)
    (hfault : driver.tables.faults.get device = some fault)
    (workload : WorkloadClass) (ops : List DriverOp) :
    submit device workload ops driver =
      (.returned (.error (.device ("device faulted at " ++
        SoftwareGpuDriver.hex fault.address ++ ": " ++ fault.description))),
        driver) := by
  obtain ⟨info, hlookup⟩ := knownDevice_run hknown
  rw [submit, enqueue, Method.bind_of_ok hlookup, Method.read_bind, hfault]
  rfl

theorem submit_of_clear {response : Response} {worker : RenderThread B}
    {ops : List DriverOp} (hknown : driver.tables.Knows device)
    (hclear : driver.tables.faults.get device = none)
    (hasked : driver.worker.ask (VulkanBackend.execute ops) =
      (response, worker)) (workload : WorkloadClass) :
    submit device workload ops driver =
      (.returned response.submitResult,
        ⟨driver.tables.afterSubmit device response, worker⟩) := by
  obtain ⟨info, hlookup⟩ := knownDevice_run hknown
  rw [submit, enqueue, Method.bind_of_ok hlookup, Method.read_bind, hclear]
  dsimp only
  rw [Method.bind_run, request, hasked]
  rcases response with (error | value) | _ | _
  · cases error <;> rfl
  · rfl
  · rfl
  · rfl

theorem resetDevice_of_unknown (hunknown : ¬ driver.tables.Knows device) :
    resetDevice device driver =
      (.error (.device "unknown GPU device"), driver) := by
  have hlookup : onTables (VulkanTables.knownDevice device) driver =
      (.error (.device "unknown GPU device"), driver) := by
    rw [onTables, VulkanTables.knownDevice_of_unknown hunknown]
  rw [resetDevice, Method.bind_of_error hlookup]

theorem resetDevice_of_known {response : Response} {worker : RenderThread B}
    (hknown : driver.tables.Knows device)
    (hasked : driver.worker.ask VulkanBackend.reset = (response, worker)) :
    resetDevice device driver =
      (response.resetResult,
        ⟨driver.tables.afterReset device response, worker⟩) := by
  obtain ⟨info, hlookup⟩ := knownDevice_run hknown
  rw [resetDevice, Method.bind_of_ok hlookup, Method.bind_run, request,
    hasked]
  rcases response with (error | value) | _ | _
  · rfl
  · rfl
  · rfl
  · rfl

end Methods

/-! ### The driver among other threads -/

/-- A call of the driver, or something its render thread does by itself: it
stops between two requests, or a stopping one closes its channel and drops its
backend. -/
inductive Action where
  | call (call : DriverCall)
  | threadStops
  | channelCloses
deriving DecidableEq, Repr

def stopThread (driver : VulkanDriver B) : VulkanDriver B :=
  if driver.worker.status = .running then
    { driver with worker := ⟨.stopping, driver.worker.backend⟩ }
  else driver

def closeChannel [VulkanBackend B] (driver : VulkanDriver B) :
    VulkanDriver B :=
  if driver.worker.status = .stopping then
    { driver with
      worker := ⟨.stopped, VulkanBackend.drop driver.worker.backend⟩ }
  else driver

theorem stopThread_tables (driver : VulkanDriver B) :
    (stopThread driver).tables = driver.tables := by
  rw [stopThread]
  split <;> rfl

theorem closeChannel_tables [VulkanBackend B] (driver : VulkanDriver B) :
    (closeChannel driver).tables = driver.tables := by
  rw [closeChannel]
  split <;> rfl

/-- The driver as a machine; only a call is answered. -/
def act [VulkanBackend B] (world : VulkanDriver B × IdSource) :
    Action → Option DriverReply × (VulkanDriver B × IdSource)
  | .call call =>
      let (reply, world) := GpuDriver.call world call
      (some reply, world)
  | .threadStops => (none, stopThread world.1, world.2)
  | .channelCloses => (none, closeChannel world.1, world.2)

end VulkanDriver

end SherGraphics
