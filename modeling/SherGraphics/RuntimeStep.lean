/-
The runtime as one machine.  An operation is any public call of the runtime
with its arguments, a reply is whatever the call returns, and `step` performs
the call.  `Effect` says once what a call can do to the runtime; every
invariant of the development is derived from it.
-/
import SherGraphics.Machine
import SherGraphics.Runtime

namespace SherGraphics

/-- The value of a successful call. -/
inductive Reply where
  | unit
  | device (created : GraphicsDevice)
  | timeline (created : Timeline)
  | resource (created : Resource)
  | stream (created : CommandStream)
  | shader (created : ShaderModule)
  | pipeline (created : Pipeline)
  | value (current : Nat)
  | fault (status : Option GpuFault)
  | cursor (cursor : CursorState)
  | framebuffer (id : ObjectId)
  | vram (available : Nat)
deriving DecidableEq, Repr

/-- A call of the runtime with its arguments. -/
inductive Op (D : Type) where
  | createDevice (gpu : ObjectId) (caps : CapabilitySet)
  | createTimeline (device : ObjectId)
  | createResource (device : ObjectId) (kind : ResourceKind)
      (memoryClass : MemoryClass)
  | createCommandStream (device : ObjectId) (workload : WorkloadClass)
  | createShaderModule (device : ObjectId) (stage : ShaderStage)
      (ir : List UInt8)
  | createPipeline (device shader : ObjectId) (workload : WorkloadClass)
  | submit (queue : QueueHandle) (stream : CommandStream)
      (timeline : ObjectId) (signalValue : Nat)
  | timelineValue (timeline : ObjectId)
  | wait (timeline : ObjectId) (value : Nat)
  | freeResource (resource : ObjectId)
  | registerConnector (connector : Connector)
  | presentFrame (connector : ObjectId) (width height : UInt32)
  | setCursorImage (connector image : ObjectId)
  | setCursorPosition (connector : ObjectId) (x y : Int32)
  | showCursor (connector : ObjectId)
  | hideCursor (connector : ObjectId)
  | cursorState (connector : ObjectId)
  | deviceFault (device : ObjectId)
  | recoverDevice (device : ObjectId) (caps : CapabilitySet)
  | driverMut (caps : CapabilitySet) (use : DriverUse D Reply)

namespace Op

variable {D : Type}

/-- The operation does not borrow the driver. -/
def Sealed : Op D → Prop
  | .driverMut _ _ => False
  | _ => True

/-- A success of the operation adds, removes or changes a row of an object
table. -/
def Mutates : Op D → Prop
  | .createDevice _ _ | .createTimeline _ | .createResource _ _ _
  | .createShaderModule _ _ _ | .createPipeline _ _ _ | .submit _ _ _ _
  | .freeResource _ | .recoverDevice _ _ => True
  | _ => False

end Op

/-- An operation that does not borrow the driver. -/
abbrev SealedOp (D : Type) := { op : Op D // op.Sealed }

namespace GraphicsRuntime

section Perform

variable {D P : Type} [GpuDriver D] [GPUDriver P]

@[simp] def perform : Op D → Method Error (GraphicsRuntime D P) Reply
  | .createDevice gpu caps => Reply.device <$> createDevice gpu caps
  | .createTimeline device => Reply.timeline <$> createTimeline device
  | .createResource device kind memoryClass =>
      Reply.resource <$> createResource device kind memoryClass
  | .createCommandStream device workload =>
      Reply.stream <$> createCommandStream device workload
  | .createShaderModule device stage ir =>
      Reply.shader <$> createShaderModule device stage ir
  | .createPipeline device shader workload =>
      Reply.pipeline <$> createPipeline device shader workload
  | .submit queue stream timeline signalValue =>
      (fun _ => Reply.unit) <$> submit queue stream timeline signalValue
  | .timelineValue timeline => Reply.value <$> timelineValue timeline
  | .wait timeline value => (fun _ => Reply.unit) <$> wait timeline value
  | .freeResource resource =>
      (fun _ => Reply.unit) <$> freeResource resource
  | .registerConnector connector =>
      (fun _ => Reply.unit) <$> registerConnector connector
  | .presentFrame connector width height =>
      Reply.framebuffer <$> presentFrame connector width height
  | .setCursorImage connector image =>
      (fun _ => Reply.unit) <$> setCursorImage connector image
  | .setCursorPosition connector x y =>
      (fun _ => Reply.unit) <$> setCursorPosition connector x y
  | .showCursor connector => (fun _ => Reply.unit) <$> showCursor connector
  | .hideCursor connector => (fun _ => Reply.unit) <$> hideCursor connector
  | .cursorState connector => Reply.cursor <$> cursorState connector
  | .deviceFault device => Reply.fault <$> deviceFault device
  | .recoverDevice device caps =>
      (fun _ => Reply.unit) <$> recoverDevice device caps
  | .driverMut caps use => driverMut caps use

def step (runtime : GraphicsRuntime D P) (op : Op D) :
    Result Reply × GraphicsRuntime D P :=
  perform op runtime

/-- The machine without `driver_mut`. -/
def sealedStep (runtime : GraphicsRuntime D P) (op : SealedOp D) :
    Result Reply × GraphicsRuntime D P :=
  step runtime op.val

end Perform

/-- A step of the runtime as a trace records it. -/
abbrev RuntimeEvent (D P : Type) :=
  Event (GraphicsRuntime D P) (Op D) (Result Reply)

section Effects

variable {D P : Type}

/-- The rows an operation may add, remove or change. -/
structure ObjectTables where
  devices : Table ObjectId GraphicsDevice
  deviceCaps : Table ObjectId CapabilitySet
  resources : Table ObjectId Resource
  shaders : Table ObjectId ShaderModule
  pipelines : Table ObjectId Pipeline
  timelines : Table ObjectId Nat

def tables (runtime : GraphicsRuntime D P) : ObjectTables :=
  ⟨runtime.devices, runtime.deviceCaps, runtime.resources, runtime.shaders,
    runtime.pipelines, runtime.timelines⟩

variable [GpuDriver D]

/-- The driver received at most one call, and refused it. -/
inductive IdleCall : D → D → Prop
  | none (driver : D) : IdleCall driver driver
  | refusedInitialize (driver : D) (info : DeviceInfo) (error : Error)
      (hrefused : (GpuDriver.initializeDevice info driver).1 = .error error) :
      IdleCall driver (GpuDriver.initializeDevice info driver).2
  | refusedAllocation (driver : D) (ids : IdSource) (gpu : ObjectId)
      (size : Nat) (memoryClass : MemoryClass) (error : Error)
      (hrefused : (GpuDriver.allocateVram gpu size memoryClass
        (driver, ids)).1 = .error error) :
      IdleCall driver
        (GpuDriver.allocateVram gpu size memoryClass (driver, ids)).2.1
  | refusedSubmit (driver : D) (gpu : ObjectId) (workload : WorkloadClass)
      (ops : List DriverOp) (error : Error)
      (hrefused : (GpuDriver.submit gpu workload ops driver).1 =
        .returned (.error error)) :
      IdleCall driver (GpuDriver.submit gpu workload ops driver).2
  | refusedReset (driver : D) (gpu : ObjectId) (error : Error)
      (hrefused : (GpuDriver.resetDevice gpu driver).1 = .error error) :
      IdleCall driver (GpuDriver.resetDevice gpu driver).2

/-- Everything that `submit` asks of the runtime before it calls the driver,
for the GPU of the stream's context. -/
structure SubmitReady (runtime : GraphicsRuntime D P) (queue : QueueHandle)
    (stream : CommandStream) (timeline : ObjectId) (signalValue : Nat)
    (gpu : ObjectId) : Prop where
  class_eq : stream.targetClass = queue.workload
  granted : ∃ caps, runtime.deviceCaps.get stream.device = some caps ∧
    caps.hasCapability .gpuCommandSubmit = true
  context : ∃ found, runtime.devices.get stream.device = some found ∧
    found.gpu = gpu
  increases : ∃ current, runtime.timelines.get timeline = some current ∧
    current < signalValue
  valid : validateStream stream runtime.pipelines runtime.resources = .ok ()

/-- The device that `create_device` returns and registers. -/
def createdDevice (ids : IdSource) (gpu : ObjectId) : GraphicsDevice :=
  ⟨ids.next, gpu,
    [⟨(ids.advance 1).next, .graphics⟩, ⟨(ids.advance 2).next, .compute⟩,
      ⟨(ids.advance 3).next, .transfer⟩]⟩

/-- What one operation can do: leave the object tables alone, or change them
in one of the listed ways. -/
inductive Effect (runtime : GraphicsRuntime D P) :
    Op D → Result Reply → GraphicsRuntime D P → Prop
  | quiet {op : Op D} {answer : Result Reply} {after : GraphicsRuntime D P}
      (hanswer : IsOk answer → ¬ op.Mutates)
      (hsealed : op.Sealed)
      (htables : after.tables = runtime.tables)
      (hids : runtime.ids.Advances after.ids)
      (hdriver : IdleCall runtime.driver after.driver) :
      Effect runtime op answer after
  | borrowed {caps : CapabilitySet} {use : DriverUse D Reply}
      (hadmin : caps.hasCapability .gpuAdmin = true) :
      Effect runtime (.driverMut caps use)
        (use.run (runtime.driver, runtime.ids)).1
        { runtime with
          driver := (use.run (runtime.driver, runtime.ids)).2.1
          ids := (use.run (runtime.driver, runtime.ids)).2.2 }
  | notBorrowed {caps : CapabilitySet} {use : DriverUse D Reply}
      {error : Error} (hdenied : caps.hasCapability .gpuAdmin = false) :
      Effect runtime (.driverMut caps use) (.error error) runtime
  | createdDevice {gpu : ObjectId} {caps : CapabilitySet}
      {known : List DeviceInfo} {info : DeviceInfo}
      (hgranted : caps.hasCapability .gpuMemoryAlloc = true)
      (hprobe : GpuDriver.probe runtime.driver = .ok known)
      (hfind : known.find? (fun info => info.id = gpu) = some info) :
      Effect runtime (.createDevice gpu caps)
        (.ok (.device (createdDevice runtime.ids gpu)))
        { runtime with
          audit := runtime.audit.log gpu "create_device" true
          driver := (GpuDriver.initializeDevice info runtime.driver).2
          ids := runtime.ids.advance 4
          devices := runtime.devices.insert runtime.ids.next
            (GraphicsRuntime.createdDevice runtime.ids gpu)
          deviceCaps := runtime.deviceCaps.insert runtime.ids.next caps }
  | createdTimeline {id : ObjectId} {found : GraphicsDevice}
      (hcontext : runtime.devices.get id = some found) :
      Effect runtime (.createTimeline id)
        (.ok (.timeline ⟨runtime.ids.next, id, 0⟩))
        { runtime with
          ids := runtime.ids.advance 1
          timelines := runtime.timelines.insert runtime.ids.next 0 }
  | createdResource {id : ObjectId} {kind : ResourceKind}
      {memoryClass : MemoryClass} {found : GraphicsDevice}
      {allocation : GpuAllocation} {driver : D} {ids : IdSource}
      (hcontext : runtime.devices.get id = some found)
      (hallocated : GpuDriver.allocateVram found.gpu (resourceSize kind)
        memoryClass (runtime.driver, runtime.ids) =
          (.ok allocation, driver, ids)) :
      Effect runtime (.createResource id kind memoryClass)
        (.ok (.resource ⟨allocation.id, id, kind, memoryClass⟩))
        { runtime with
          driver
          ids
          resources := runtime.resources.insert allocation.id
            ⟨allocation.id, id, kind, memoryClass⟩ }
  | createdShader {id : ObjectId} {stage : ShaderStage} {ir : List UInt8}
      {found : GraphicsDevice}
      (hcontext : runtime.devices.get id = some found) :
      Effect runtime (.createShaderModule id stage ir)
        (.ok (.shader ⟨runtime.ids.next, id, stage, ir⟩))
        { runtime with
          ids := runtime.ids.advance 1
          shaders := runtime.shaders.insert runtime.ids.next
            ⟨runtime.ids.next, id, stage, ir⟩ }
  | createdPipeline {id shader : ObjectId} {workload : WorkloadClass}
      {found : GraphicsDevice} {source : ShaderModule}
      (hcontext : runtime.devices.get id = some found)
      (hshader : runtime.shaders.get shader = some source) :
      Effect runtime (.createPipeline id shader workload)
        (.ok (.pipeline ⟨runtime.ids.next, id, workload, shader⟩))
        { runtime with
          ids := runtime.ids.advance 1
          pipelines := runtime.pipelines.insert runtime.ids.next
            ⟨runtime.ids.next, id, workload, shader⟩ }
  | submitted {queue : QueueHandle} {stream : CommandStream}
      {timeline gpu : ObjectId} {signalValue : Nat} {driver : D}
      (hready : SubmitReady runtime queue stream timeline signalValue gpu)
      (haccepted : GpuDriver.submit gpu queue.workload
        (translateOps stream.ops) runtime.driver =
          (.returned (.ok ()), driver)) :
      Effect runtime (.submit queue stream timeline signalValue)
        (.ok .unit)
        { runtime with
          audit := runtime.audit.log stream.device "submit" true
          driver
          timelines := runtime.timelines.insert timeline signalValue }
  | panicked {queue : QueueHandle} {stream : CommandStream}
      {timeline gpu : ObjectId} {signalValue : Nat} {driver : D}
      {payload : PanicPayload}
      (hready : SubmitReady runtime queue stream timeline signalValue gpu)
      (hpanicked : GpuDriver.submit gpu queue.workload
        (translateOps stream.ops) runtime.driver =
          (.panicked payload, driver)) :
      Effect runtime (.submit queue stream timeline signalValue)
        (.error (.device
          ("driver panicked during submit: " ++ panicMessage payload)))
        { runtime with
          audit := runtime.audit.log stream.device "submit" true
          driver := GpuDriver.markFaulted gpu (panicMessage payload) driver }
  | freed {name : ObjectId} {row : Resource}
      (hrow : runtime.resources.get name = some row) :
      Effect runtime (.freeResource name)
        ((GpuDriver.freeVram name runtime.driver).1.map fun _ => .unit)
        { runtime with
          driver := (GpuDriver.freeVram name runtime.driver).2
          resources := runtime.resources.erase name }
  | recovered {id : ObjectId} {caps : CapabilitySet}
      {found : GraphicsDevice} {driver : D}
      (hadmin : caps.hasCapability .gpuAdmin = true)
      (hcontext : runtime.devices.get id = some found)
      (hreset : GpuDriver.resetDevice found.gpu runtime.driver =
        (.ok (), driver)) :
      Effect runtime (.recoverDevice id caps) (.ok .unit)
        (dropContext id { runtime with
          audit := runtime.audit.log id "recover_device" true
          driver })

end Effects

/-- The software driver is not changed by a call that it refuses. -/
theorem IdleCall.unchanged {driver later : SoftwareGpuDriver}
    (hidle : IdleCall driver later) : later = driver := by
  have hupdate : ∀ (gpu : ObjectId) (update : DeviceState → DeviceState)
      (error : Error),
      (SoftwareGpuDriver.updateState gpu update driver).1 = .error error →
        (SoftwareGpuDriver.updateState gpu update driver).2 = driver := by
    intro gpu update error hrefused
    cases hstate : driver.devices.get gpu with
    | none => rw [SoftwareGpuDriver.updateState_of_unknown hstate]
    | some state =>
        rw [SoftwareGpuDriver.updateState_of_known hstate] at hrefused
        cases hrefused
  cases hidle with
  | none => rfl
  | refusedInitialize info error hrefused => exact hupdate _ _ error hrefused
  | refusedAllocation ids gpu size memoryClass error hrefused =>
      rcases SoftwareGpuDriver.allocateVram_cases driver ids gpu size
        memoryClass with ⟨found, hfound, hfits, hrun⟩ | ⟨-, _, hrun⟩
      · have hanswer := congrArg Prod.fst hrun
        cases hrefused.symm.trans hanswer
      · exact congrArg (fun result => result.2.1) hrun
  | refusedSubmit gpu workload ops error hrefused =>
      exact SoftwareGpuDriver.submit_unchanged driver gpu workload ops
  | refusedReset gpu error hrefused => exact hupdate _ _ error hrefused

/-! ### What each call does -/

section Calls

variable {D P : Type} [GpuDriver D] (runtime : GraphicsRuntime D P)

/-- A refused call that changed at most the audit trail. -/
theorem Effect.refused {op : Op D} {error : Error} (hsealed : op.Sealed)
    (audit : AuditLog) :
    Effect runtime op (.error error) { runtime with audit } :=
  .quiet (fun hok => absurd hok (not_isOk_error error)) hsealed rfl
    (.refl _) (.none _)

/-- A call that only reads the runtime. -/
theorem Effect.observed {op : Op D} (hreads : ¬ op.Mutates)
    (hsealed : op.Sealed) (answer : Result Reply) :
    Effect runtime op answer runtime :=
  .quiet (fun _ => hreads) hsealed rfl (.refl _) (.none _)

/-- Everything but the presentation and the cursors is left alone. -/
theorem Effect.presented {op : Op D} {answer : Result Reply}
    {after : GraphicsRuntime D P} (hreads : ¬ op.Mutates)
    (hsealed : op.Sealed) (htables : after.tables = runtime.tables)
    (hids : after.ids = runtime.ids)
    (hdriver : after.driver = runtime.driver) :
    Effect runtime op answer after := by
  refine .quiet (fun _ => hreads) hsealed htables ?_ ?_
  · rw [hids]
    exact .refl _
  · rw [hdriver]
    exact .none _

theorem onPresentation_effect {α : Type} {op : Op D} (hreads : ¬ op.Mutates)
    (hsealed : op.Sealed) (reply : α → Reply)
    (method : Method Error (PresentationBridge P) α) :
    Effect runtime op ((reply <$> onPresentation method) runtime).1
      ((reply <$> onPresentation method) runtime).2 := by
  rw [Method.map_run]
  exact .presented runtime hreads hsealed rfl rfl rfl

section Submit

variable {queue : QueueHandle} {stream : CommandStream}
  {timeline gpu : ObjectId} {signalValue : Nat}

/-- A submission that reaches the driver does what the driver call does. -/
theorem submit_of_ready
    (hready : SubmitReady runtime queue stream timeline signalValue gpu) :
    submit queue stream timeline signalValue runtime =
      match submitToDriver gpu queue.workload (translateOps stream.ops)
          (runtime.audited stream.device "submit" true) with
      | (.ok _, sent) => (.ok (), { sent with
          timelines := sent.timelines.insert timeline signalValue })
      | (.error error, sent) => (.error error, sent) := by
  obtain ⟨caps, hcaps, hgranted⟩ := hready.granted
  obtain ⟨found, hcontext, hgpu⟩ := hready.context
  obtain ⟨current, hcurrent, hincreases⟩ := hready.increases
  have hcheck : requireCapability caps .gpuCommandSubmit = .ok () := by
    rw [requireCapability, if_pos hgranted]
  have hlive := device_of_live (runtime.audited stream.device "submit" true)
    hcontext
  rw [submit, Method.rejectIf_bind_of_neg _ _ _
      (not_not.mpr hready.class_eq),
    Method.read_bind, hcaps, Method.okOr_some_bind,
    Method.bind_of_ok (log_of_granted runtime _ _ hcheck), hcheck,
    Method.ofResult_ok_bind,
    Method.bind_of_ok hlive,
    Method.read_bind, audited_timelines, hcurrent, Method.okOr_some_bind,
    Method.rejectIf_bind_of_neg _ _ _ (Nat.not_le.mpr hincreases),
    Method.read_bind, Method.read_bind, audited_pipelines,
    audited_resources, hready.valid, Method.ofResult_ok_bind,
    Method.bind_run, hgpu]
  cases submitToDriver gpu queue.workload (translateOps stream.ops)
      (runtime.audited stream.device "submit" true) with
  | mk result sent =>
    cases result with
    | ok value => rfl
    | error error => rfl

theorem submit_of_accepted {driver : D}
    (hready : SubmitReady runtime queue stream timeline signalValue gpu)
    (haccepted : GpuDriver.submit gpu queue.workload
      (translateOps stream.ops) runtime.driver =
        (.returned (.ok ()), driver)) :
    submit queue stream timeline signalValue runtime =
      (.ok (), { runtime with
        audit := runtime.audit.log stream.device "submit" true
        driver
        timelines := runtime.timelines.insert timeline signalValue }) := by
  rw [submit_of_ready runtime hready, submitToDriver, audited_driver,
    haccepted]
  rfl

/-- A panic of the driver is contained. -/
theorem submit_of_panicked {driver : D} {payload : PanicPayload}
    (hready : SubmitReady runtime queue stream timeline signalValue gpu)
    (hpanicked : GpuDriver.submit gpu queue.workload
      (translateOps stream.ops) runtime.driver =
        (.panicked payload, driver)) :
    submit queue stream timeline signalValue runtime =
      (.error (.device
        ("driver panicked during submit: " ++ panicMessage payload)),
        { runtime with
          audit := runtime.audit.log stream.device "submit" true
          driver := GpuDriver.markFaulted gpu (panicMessage payload)
            driver }) := by
  rw [submit_of_ready runtime hready, submitToDriver, audited_driver,
    hpanicked]
  rfl

/-- A submission that fails a check leaves everything but the audit trail as
it was, and the driver is not called. -/
theorem submit_of_not_ready
    (hrefused : ∀ gpu,
      ¬ SubmitReady runtime queue stream timeline signalValue gpu) :
    ∃ error audit, submit queue stream timeline signalValue runtime =
      (.error error, { runtime with audit }) := by
  rw [submit]
  by_cases hclass : stream.targetClass = queue.workload
  swap
  · rw [Method.rejectIf_bind_of_pos _ _ _ hclass]
    exact ⟨_, _, rfl⟩
  rw [Method.rejectIf_bind_of_neg _ _ _ (not_not.mpr hclass),
    Method.read_bind]
  cases hcaps : runtime.deviceCaps.get stream.device with
  | none => exact ⟨_, _, rfl⟩
  | some caps =>
    rw [Method.okOr_some_bind]
    rcases requireCapability_cases caps .gpuCommandSubmit with
      ⟨hgranted, hcheck⟩ | ⟨hdenied, error, hcheck⟩
    swap
    · rw [Method.bind_of_ok (log_of_denied runtime _ _ hcheck), hcheck,
        Method.ofResult_error_bind]
      exact ⟨_, _, rfl⟩
    rw [Method.bind_of_ok (log_of_granted runtime _ _ hcheck), hcheck,
      Method.ofResult_ok_bind]
    let logged := runtime.audited stream.device "submit" true
    cases hcontext : runtime.devices.get stream.device with
    | none =>
      rw [Method.bind_of_error (device_of_unknown logged hcontext)]
      exact ⟨_, _, rfl⟩
    | some found =>
      rw [Method.bind_of_ok (device_of_live logged hcontext),
        Method.read_bind, audited_timelines]
      cases hcurrent : runtime.timelines.get timeline with
      | none => exact ⟨_, _, rfl⟩
      | some current =>
        rw [Method.okOr_some_bind]
        by_cases hstale : signalValue ≤ current
        · rw [Method.rejectIf_bind_of_pos _ _ _ hstale]
          exact ⟨_, _, rfl⟩
        rw [Method.rejectIf_bind_of_neg _ _ _ hstale, Method.read_bind,
          Method.read_bind, audited_pipelines, audited_resources]
        cases hvalid : validateStream stream runtime.pipelines
            runtime.resources with
        | error error => exact ⟨_, _, rfl⟩
        | ok value =>
          have hready : SubmitReady runtime queue stream timeline
              signalValue found.gpu :=
            { class_eq := hclass
              granted := ⟨caps, hcaps, hgranted⟩
              context := ⟨found, hcontext, rfl⟩
              increases := ⟨current, hcurrent, Nat.lt_of_not_ge hstale⟩
              valid := hvalid }
          exact absurd hready (hrefused found.gpu)

end Submit

/-- No call takes an identifier back. -/
theorem Effect.advances {runtime after : GraphicsRuntime D P} {op : Op D}
    {answer : Result Reply} (heffect : Effect runtime op answer after) :
    runtime.ids.Advances after.ids := by
  cases heffect with
  | quiet hanswer hsealed htables hids hdriver => exact hids
  | borrowed hadmin => exact DriverUse.advances _ _ _
  | notBorrowed hdenied => exact .refl _
  | createdDevice hgranted hprobe hfind => exact runtime.ids.advance_advances 4
  | createdTimeline hcontext => exact runtime.ids.advance_advances 1
  | @createdResource _ kind memoryClass found _ _ _ hcontext hallocated =>
      have hadvances := GpuDriver.allocateVram_advances found.gpu
        (resourceSize kind) memoryClass runtime.driver runtime.ids
      rw [hallocated] at hadvances
      exact hadvances
  | createdShader hcontext => exact runtime.ids.advance_advances 1
  | createdPipeline hcontext hshader => exact runtime.ids.advance_advances 1
  | submitted hready haccepted => exact .refl _
  | panicked hready hpanicked => exact .refl _
  | freed hrow => exact .refl _
  | recovered hadmin hcontext hreset => exact .refl _

/-- A resource that is filed after a step was filed before, or under an
identifier that the step has drawn. -/
theorem Effect.resource_origin [FreshAllocations D]
    {runtime after : GraphicsRuntime D P} {op : Op D} {answer : Result Reply}
    (heffect : Effect runtime op answer after) {name : ObjectId}
    {row : Resource} (hrow : after.resources.get name = some row) :
    runtime.resources.get name = some row ∨
      (¬ runtime.ids.Issued name ∧ after.ids.Issued name) := by
  cases heffect with
  | quiet hanswer hsealed htables hids hdriver =>
      have hresources : after.resources = runtime.resources :=
        congrArg ObjectTables.resources htables
      rw [hresources] at hrow
      exact Or.inl hrow
  | createdResource hcontext hallocated =>
      rcases Table.row_of_insert hrow with ⟨rfl, -⟩ | ⟨-, hrow⟩
      · exact Or.inr (FreshAllocations.fresh _ _ _ _ _ _ _ _ hallocated)
      · exact Or.inl hrow
  | freed hfreed => exact Or.inl (Table.row_of_erase hrow).2
  | recovered hadmin hcontext hreset =>
      exact Or.inl (Table.row_of_retain hrow).1
  | borrowed hadmin => exact Or.inl hrow
  | notBorrowed hdenied => exact Or.inl hrow
  | createdDevice hgranted hprobe hfind => exact Or.inl hrow
  | createdTimeline hcontext => exact Or.inl hrow
  | createdShader hcontext => exact Or.inl hrow
  | createdPipeline hcontext hshader => exact Or.inl hrow
  | submitted hready haccepted => exact Or.inl hrow
  | panicked hready hpanicked => exact Or.inl hrow

/-- An authorised recovery of a live context does what the reset of its GPU
does, and drops the context when that succeeded. -/
theorem recoverDevice_of_live {id : ObjectId} {caps : CapabilitySet}
    {found : GraphicsDevice}
    (hadmin : caps.hasCapability .gpuAdmin = true)
    (hcontext : runtime.devices.get id = some found) :
    recoverDevice id caps runtime =
      match GpuDriver.resetDevice found.gpu runtime.driver with
      | (.ok _, driver) => (.ok (), dropContext id { runtime with
          audit := runtime.audit.log id "recover_device" true
          driver })
      | (.error error, driver) => (.error error, { runtime with
          audit := runtime.audit.log id "recover_device" true
          driver }) := by
  have hcheck : requireCapability caps .gpuAdmin = .ok () := by
    rw [requireCapability, if_pos hadmin]
  have hlive := device_of_live (runtime.audited id "recover_device" true)
    hcontext
  rw [recoverDevice, Method.bind_of_ok (log_of_granted runtime _ _ hcheck),
    hcheck, Method.ofResult_ok_bind, Method.bind_of_ok hlive,
    Method.bind_run, onDriver, audited_driver]
  cases GpuDriver.resetDevice found.gpu runtime.driver with
  | mk result driver =>
    cases result with
    | ok value => rfl
    | error error => rfl

/-- A context is opened on every GPU that the driver finds and initializes. -/
theorem createDevice_of_found {gpu : ObjectId} {caps : CapabilitySet}
    {known : List DeviceInfo} {info : DeviceInfo} {value : Unit}
    (hgranted : caps.hasCapability .gpuMemoryAlloc = true)
    (hprobe : GpuDriver.probe runtime.driver = .ok known)
    (hfind : known.find? (fun info => info.id = gpu) = some info)
    (hinit : (GpuDriver.initializeDevice info runtime.driver).1 =
      .ok value) :
    (createDevice gpu caps runtime).1 =
      .ok (createdDevice runtime.ids gpu) := by
  have hcheck : requireCapability caps .gpuMemoryAlloc = .ok () := by
    rw [requireCapability, if_pos hgranted]
  rw [createDevice, Method.bind_of_ok (log_of_granted runtime _ _ hcheck),
    hcheck, Method.ofResult_ok_bind, Method.read_bind, audited_driver, hprobe,
    Method.ofResult_ok_bind, hfind, Method.okOr_some_bind, Method.bind_run,
    onDriver, audited_driver]
  cases hrun : GpuDriver.initializeDevice info runtime.driver with
  | mk result driver =>
      rw [hrun] at hinit
      cases hinit
      rfl

/-- A recovery without the capability leaves everything but the audit trail as
it was. -/
theorem recoverDevice_of_denied (id : ObjectId) {caps : CapabilitySet}
    (hdenied : caps.hasCapability .gpuAdmin = false) :
    ∃ error, recoverDevice id caps runtime =
      (.error error, runtime.audited id "recover_device" false) := by
  rcases requireCapability_cases caps .gpuAdmin with
    ⟨hgranted, hcheck⟩ | ⟨-, error, hcheck⟩
  · rw [hdenied] at hgranted
    cases hgranted
  · refine ⟨error, ?_⟩
    rw [recoverDevice, Method.bind_of_ok (log_of_denied runtime _ _ hcheck),
      hcheck, Method.ofResult_error_bind]

variable [GPUDriver P]

theorem createDevice_effect (gpu : ObjectId) (caps : CapabilitySet) :
    Effect runtime (.createDevice gpu caps)
      (step runtime (.createDevice gpu caps)).1
      (step runtime (.createDevice gpu caps)).2 := by
  rw [step, perform, Method.map_run, createDevice]
  rcases requireCapability_cases caps .gpuMemoryAlloc with
    ⟨hgranted, hcheck⟩ | ⟨hdenied, error, hcheck⟩
  · rw [Method.bind_of_ok (log_of_granted runtime _ _ hcheck), hcheck,
      Method.ofResult_ok_bind, Method.read_bind, audited_driver]
    cases hprobe : GpuDriver.probe runtime.driver with
    | error error =>
        rw [Method.ofResult_error_bind]
        exact .refused runtime (by exact trivial) _
    | ok known =>
        rw [Method.ofResult_ok_bind]
        cases hfind : known.find? (fun info => info.id = gpu) with
        | none =>
            rw [Method.okOr_none_bind]
            exact .refused runtime (by exact trivial) _
        | some info =>
            rw [Method.okOr_some_bind, Method.bind_run, onDriver,
              audited_driver]
            have hidle := IdleCall.refusedInitialize runtime.driver info
            have heffect := Effect.createdDevice hgranted hprobe hfind
            cases hinit : GpuDriver.initializeDevice info runtime.driver with
            | mk result driver =>
                rw [hinit] at hidle heffect
                cases result with
                | ok value => exact heffect
                | error error =>
                    exact .quiet (by simp [Except.map]) trivial rfl
                      (.refl _) (hidle error rfl)
  · rw [Method.bind_of_ok (log_of_denied runtime _ _ hcheck), hcheck,
      Method.ofResult_error_bind]
    exact .refused runtime (by exact trivial) _

theorem createTimeline_effect (id : ObjectId) :
    Effect runtime (.createTimeline id) (step runtime (.createTimeline id)).1
      (step runtime (.createTimeline id)).2 := by
  rw [step, perform, Method.map_run, createTimeline]
  cases hcontext : runtime.devices.get id with
  | none =>
      rw [Method.bind_of_error (device_of_unknown runtime hcontext)]
      exact .refused runtime (by exact trivial) _
  | some found =>
      rw [Method.bind_of_ok (device_of_live runtime hcontext)]
      exact .createdTimeline hcontext

theorem createResource_effect (id : ObjectId) (kind : ResourceKind)
    (memoryClass : MemoryClass) :
    Effect runtime (.createResource id kind memoryClass)
      (step runtime (.createResource id kind memoryClass)).1
      (step runtime (.createResource id kind memoryClass)).2 := by
  rw [step, perform, Method.map_run]
  cases hcontext : runtime.devices.get id with
  | none =>
      rw [createResource_of_unknown runtime hcontext]
      exact .refused runtime (by exact trivial) _
  | some found =>
      have hadvances := GpuDriver.allocateVram_advances found.gpu
        (resourceSize kind) memoryClass runtime.driver runtime.ids
      have hidle := IdleCall.refusedAllocation runtime.driver runtime.ids
        found.gpu (resourceSize kind) memoryClass
      cases hallocated : GpuDriver.allocateVram found.gpu (resourceSize kind)
          memoryClass (runtime.driver, runtime.ids) with
      | mk result world =>
          rw [hallocated] at hadvances hidle
          cases result with
          | ok allocation =>
              rw [createResource_of_granted runtime kind hcontext hallocated]
              exact .createdResource hcontext hallocated
          | error error =>
              rw [createResource_of_refused runtime kind hcontext hallocated]
              exact .quiet (by simp [Except.map]) trivial rfl hadvances
                (hidle error rfl)

theorem createCommandStream_effect (id : ObjectId) (workload : WorkloadClass) :
    Effect runtime (.createCommandStream id workload)
      (step runtime (.createCommandStream id workload)).1
      (step runtime (.createCommandStream id workload)).2 := by
  rw [step, perform, Method.map_run, createCommandStream]
  cases hcontext : runtime.devices.get id with
  | none =>
      rw [Method.bind_of_error (device_of_unknown runtime hcontext)]
      exact .refused runtime (by exact trivial) _
  | some found =>
      rw [Method.bind_of_ok (device_of_live runtime hcontext)]
      exact .quiet (fun _ hmutates => hmutates) trivial rfl
        (runtime.ids.advance_advances 1) (.none _)

theorem createShaderModule_effect (id : ObjectId) (stage : ShaderStage)
    (ir : List UInt8) :
    Effect runtime (.createShaderModule id stage ir)
      (step runtime (.createShaderModule id stage ir)).1
      (step runtime (.createShaderModule id stage ir)).2 := by
  rw [step, perform, Method.map_run, createShaderModule]
  cases hcontext : runtime.devices.get id with
  | none =>
      rw [Method.bind_of_error (device_of_unknown runtime hcontext)]
      exact .refused runtime (by exact trivial) _
  | some found =>
      rw [Method.bind_of_ok (device_of_live runtime hcontext)]
      exact .createdShader hcontext

theorem createPipeline_effect (id shader : ObjectId)
    (workload : WorkloadClass) :
    Effect runtime (.createPipeline id shader workload)
      (step runtime (.createPipeline id shader workload)).1
      (step runtime (.createPipeline id shader workload)).2 := by
  rw [step, perform, Method.map_run]
  cases hcontext : runtime.devices.get id with
  | none =>
      rw [createPipeline,
        Method.bind_of_error (device_of_unknown runtime hcontext)]
      exact .refused runtime (by exact trivial) _
  | some found =>
      cases hshader : runtime.shaders.get shader with
      | none =>
          rw [createPipeline,
            Method.bind_of_ok (device_of_live runtime hcontext),
            Method.read_bind, Method.rejectIf_bind_of_pos _ _ _
              (by simp [Table.contains, hshader])]
          exact .refused runtime (by exact trivial) _
      | some source =>
          rw [createPipeline_of_known runtime workload hcontext hshader]
          exact .createdPipeline hcontext hshader

theorem freeResource_effect (name : ObjectId) :
    Effect runtime (.freeResource name) (step runtime (.freeResource name)).1
      (step runtime (.freeResource name)).2 := by
  rw [step, perform, Method.map_run]
  cases hrow : runtime.resources.get name with
  | none =>
      rw [freeResource_of_unknown runtime hrow]
      exact .refused runtime (by exact trivial) _
  | some row =>
      rw [freeResource_of_known runtime hrow]
      exact .freed hrow

theorem recoverDevice_effect (id : ObjectId) (caps : CapabilitySet) :
    Effect runtime (.recoverDevice id caps)
      (step runtime (.recoverDevice id caps)).1
      (step runtime (.recoverDevice id caps)).2 := by
  rw [step, perform, Method.map_run]
  rcases requireCapability_cases caps .gpuAdmin with
    ⟨hadmin, hcheck⟩ | ⟨hdenied, error, hcheck⟩
  · cases hcontext : runtime.devices.get id with
    | none =>
        let logged := runtime.audited id "recover_device" true
        rw [recoverDevice,
          Method.bind_of_ok (log_of_granted runtime _ _ hcheck), hcheck,
          Method.ofResult_ok_bind,
          Method.bind_of_error (device_of_unknown logged hcontext)]
        exact .refused runtime (by exact trivial) _
    | some found =>
        rw [recoverDevice_of_live runtime hadmin hcontext]
        have hidle := IdleCall.refusedReset runtime.driver found.gpu
        cases hreset : GpuDriver.resetDevice found.gpu runtime.driver with
        | mk result driver =>
            rw [hreset] at hidle
            cases result with
            | ok value => exact .recovered hadmin hcontext hreset
            | error error =>
                exact .quiet (by simp [Except.map]) trivial rfl (.refl _)
                  (hidle error rfl)
  · rw [recoverDevice, Method.bind_of_ok (log_of_denied runtime _ _ hcheck),
      hcheck, Method.ofResult_error_bind]
    exact .refused runtime (by exact trivial) _

theorem driverMut_effect (caps : CapabilitySet)
    (use : DriverUse D Reply) :
    Effect runtime (.driverMut caps use)
      (step runtime (.driverMut caps use)).1
      (step runtime (.driverMut caps use)).2 := by
  rw [step, perform, driverMut]
  rcases requireCapability_cases caps .gpuAdmin with
    ⟨hadmin, hcheck⟩ | ⟨hdenied, error, hcheck⟩
  · rw [hcheck, Method.ofResult_ok_bind]
    exact .borrowed hadmin
  · rw [hcheck, Method.ofResult_error_bind]
    exact .notBorrowed hdenied

/-! ### Cursors, presentation and observers -/

theorem cursorMut_effect {op : Op D} (hreads : ¬ op.Mutates)
    (hsealed : op.Sealed) (connector : ObjectId)
    (update : CursorState → CursorState) :
    Effect runtime op
      (((fun _ => Reply.unit) <$> cursorMut connector update) runtime).1
      (((fun _ => Reply.unit) <$> cursorMut connector update) runtime).2 := by
  rw [Method.map_run, cursorMut, Method.read_bind]
  by_cases hknown : runtime.presentation.hasConnector connector = false
  · rw [Method.rejectIf_bind_of_pos _ _ _ hknown]
    exact .observed runtime hreads hsealed _
  · rw [Method.rejectIf_bind_of_neg _ _ _ hknown]
    exact .presented runtime hreads hsealed rfl rfl rfl

theorem setCursorImage_effect (connector image : ObjectId) :
    Effect runtime (.setCursorImage connector image)
      (step runtime (.setCursorImage connector image)).1
      (step runtime (.setCursorImage connector image)).2 := by
  rw [step, perform, Method.map_run, setCursorImage, Method.read_bind]
  cases hrow : runtime.resources.get image with
  | none =>
      rw [Method.okOr_none_bind]
      exact .observed runtime (by exact id) (by exact trivial) _
  | some row =>
      rw [Method.okOr_some_bind]
      by_cases himage : isImage row.kind = false
      · rw [Method.rejectIf_bind_of_pos _ _ _ himage]
        exact .observed runtime (by exact id) (by exact trivial) _
      · rw [Method.rejectIf_bind_of_neg _ _ _ himage, ← Method.map_run]
        exact cursorMut_effect runtime (by exact id) (by exact trivial)
          _ _

/-- A method that never changes the runtime. -/
theorem reader_effect {op : Op D} (hreads : ¬ op.Mutates)
    (hsealed : op.Sealed) (hperform : (step runtime op).2 = runtime) :
    Effect runtime op (step runtime op).1 (step runtime op).2 := by
  rw [hperform]
  exact .observed runtime hreads hsealed _

theorem cursorState_unchanged (connector : ObjectId) :
    (step runtime (.cursorState connector)).2 = runtime := by
  rw [step, perform, Method.map_run, cursorState, Method.read_bind]
  by_cases hknown : runtime.presentation.hasConnector connector = false
  · rw [Method.rejectIf_bind_of_pos _ _ _ hknown]
  · rw [Method.rejectIf_bind_of_neg _ _ _ hknown]
    rfl

theorem deviceFault_unchanged (id : ObjectId) :
    (step runtime (.deviceFault id)).2 = runtime := by
  rw [step, perform, Method.map_run, deviceFault]
  cases hcontext : runtime.devices.get id with
  | none => rw [Method.bind_of_error (device_of_unknown runtime hcontext)]
  | some found =>
      rw [Method.bind_of_ok (device_of_live runtime hcontext)]
      rfl

theorem timelineValue_unchanged (timeline : ObjectId) :
    (step runtime (.timelineValue timeline)).2 = runtime := by
  rw [step, perform, Method.map_run, timelineValue_run]

theorem wait_unchanged (timeline : ObjectId) (value : Nat) :
    (step runtime (.wait timeline value)).2 = runtime := by
  rw [step, perform, Method.map_run, wait, Method.bind_run, timelineValue_run]
  cases runtime.timelines.get timeline with
  | none => rfl
  | some current =>
      simp only [Method.rejectIf_run]
      by_cases hshort : current < value
      · rw [if_pos hshort]
      · rw [if_neg hshort]

theorem submit_effect (queue : QueueHandle) (stream : CommandStream)
    (timeline : ObjectId) (signalValue : Nat) :
    Effect runtime (.submit queue stream timeline signalValue)
      (step runtime (.submit queue stream timeline signalValue)).1
      (step runtime (.submit queue stream timeline signalValue)).2 := by
  rw [step, perform, Method.map_run]
  by_cases hready : ∃ gpu,
      SubmitReady runtime queue stream timeline signalValue gpu
  · obtain ⟨gpu, hready⟩ := hready
    rw [submit_of_ready runtime hready, submitToDriver, audited_driver]
    have hrefused := IdleCall.refusedSubmit runtime.driver gpu
      queue.workload (translateOps stream.ops)
    cases hsent : GpuDriver.submit gpu queue.workload
        (translateOps stream.ops) runtime.driver with
    | mk outcome driver =>
      rw [hsent] at hrefused
      cases outcome with
      | panicked payload => exact .panicked hready hsent
      | returned result =>
        cases result with
        | ok value => exact .submitted hready hsent
        | error error =>
            exact .quiet (by simp [Except.map]) trivial rfl (.refl _)
              (hrefused error rfl)
  · obtain ⟨error, audit, hrun⟩ :=
      submit_of_not_ready runtime (not_exists.mp hready)
    rw [hrun]
    exact .refused runtime (by exact trivial) audit

/-- Every call has one of the listed effects. -/
theorem step_effect (op : Op D) :
    Effect runtime op (step runtime op).1 (step runtime op).2 := by
  cases op with
  | createDevice gpu caps => exact createDevice_effect runtime gpu caps
  | createTimeline device => exact createTimeline_effect runtime device
  | createResource device kind memoryClass =>
      exact createResource_effect runtime device kind memoryClass
  | createCommandStream device workload =>
      exact createCommandStream_effect runtime device workload
  | createShaderModule device stage ir =>
      exact createShaderModule_effect runtime device stage ir
  | createPipeline device shader workload =>
      exact createPipeline_effect runtime device shader workload
  | submit queue stream timeline signalValue =>
      exact submit_effect runtime queue stream timeline signalValue
  | timelineValue timeline =>
      exact reader_effect runtime (by exact id) trivial
        (timelineValue_unchanged runtime timeline)
  | wait timeline value =>
      exact reader_effect runtime (by exact id) trivial
        (wait_unchanged runtime timeline value)
  | freeResource resource => exact freeResource_effect runtime resource
  | registerConnector connector =>
      exact onPresentation_effect runtime (by exact id)
        (by exact trivial) _ _
  | presentFrame connector width height =>
      exact onPresentation_effect runtime (by exact id)
        (by exact trivial) _ _
  | setCursorImage connector image =>
      exact setCursorImage_effect runtime connector image
  | setCursorPosition connector x y =>
      exact cursorMut_effect runtime (by exact id) (by exact trivial) _ _
  | showCursor connector =>
      exact cursorMut_effect runtime (by exact id) (by exact trivial) _ _
  | hideCursor connector =>
      exact cursorMut_effect runtime (by exact id) (by exact trivial) _ _
  | cursorState connector =>
      exact reader_effect runtime (by exact id) trivial
        (cursorState_unchanged runtime connector)
  | deviceFault device =>
      exact reader_effect runtime (by exact id) trivial
        (deviceFault_unchanged runtime device)
  | recoverDevice device caps =>
      exact recoverDevice_effect runtime device caps
  | driverMut caps use => exact driverMut_effect runtime caps use

end Calls

end GraphicsRuntime

end SherGraphics
