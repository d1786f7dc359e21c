/-
A driver together with the calls it has received.  The runtime is written for
every driver, so it runs over a recorded one as it is, and forgetting the
record gives back the run over the driver itself.
-/
import SherGraphics.MethodRelation
import SherGraphics.RuntimeStep

namespace SherGraphics

/-- A driver and the calls it has received, oldest first. -/
structure Recorded (D : Type) where
  driver : D
  calls : List DriverCall

namespace Recorded

variable {D : Type}

/-- Write down a call and make it. -/
def calling {α : Type} (call : DriverCall) (method : Method Error D α) :
    Method Error (Recorded D) α :=
  fun recorded =>
    let (result, driver) := method recorded.driver
    (result, ⟨driver, recorded.calls ++ [call]⟩)

variable [GpuDriver D]

def allocateVram (device : ObjectId) (size : Nat) (memoryClass : MemoryClass) :
    Method Error (Recorded D × IdSource) GpuAllocation :=
  fun (recorded, ids) =>
    let (result, driver, ids) :=
      GpuDriver.allocateVram device size memoryClass (recorded.driver, ids)
    (result, ⟨driver, recorded.calls ++
      [.allocateVram device size memoryClass]⟩, ids)

def submit (device : ObjectId) (workload : WorkloadClass)
    (ops : List DriverOp) (recorded : Recorded D) : Outcome × Recorded D :=
  let (outcome, driver) := GpuDriver.submit device workload ops recorded.driver
  (outcome, ⟨driver, recorded.calls ++ [.submit device workload ops]⟩)

instance : GpuDriver (Recorded D) where
  probe recorded := GpuDriver.probe recorded.driver
  initializeDevice device :=
    calling (.initializeDevice device) (GpuDriver.initializeDevice device)
  allocateVram := allocateVram
  freeVram allocation :=
    calling (.freeVram allocation) (GpuDriver.freeVram allocation)
  mapDma allocation := calling (.mapDma allocation) (GpuDriver.mapDma allocation)
  submit := submit
  faultStatus recorded := GpuDriver.faultStatus recorded.driver
  vramAvailable recorded := GpuDriver.vramAvailable recorded.driver
  resetDevice device :=
    calling (.resetDevice device) (GpuDriver.resetDevice device)
  markFaulted device description recorded :=
    ⟨GpuDriver.markFaulted device description recorded.driver,
      recorded.calls ++ [.markFaulted device description]⟩
  allocateVram_advances device size memoryClass recorded ids :=
    GpuDriver.allocateVram_advances device size memoryClass recorded.driver ids

/-- The same use of the driver, which leaves the record alone. -/
def use {α : Type} (use : DriverUse D α) : DriverUse (Recorded D) α where
  run := fun (recorded, ids) =>
    let (result, driver, ids) := use.run (recorded.driver, ids)
    (result, ⟨driver, recorded.calls⟩, ids)
  advances := fun recorded ids => use.advances recorded.driver ids

/-- The same operation over the recorded driver. -/
def op : Op D → Op (Recorded D)
  | .createDevice gpu caps => .createDevice gpu caps
  | .createTimeline device => .createTimeline device
  | .createResource device kind memoryClass =>
      .createResource device kind memoryClass
  | .createCommandStream device workload =>
      .createCommandStream device workload
  | .createShaderModule device stage ir => .createShaderModule device stage ir
  | .createPipeline device shader workload =>
      .createPipeline device shader workload
  | .submit queue stream timeline signalValue =>
      .submit queue stream timeline signalValue
  | .timelineValue timeline => .timelineValue timeline
  | .wait timeline value => .wait timeline value
  | .freeResource resource => .freeResource resource
  | .registerConnector connector => .registerConnector connector
  | .presentFrame connector width height =>
      .presentFrame connector width height
  | .setCursorImage connector image => .setCursorImage connector image
  | .setCursorPosition connector x y => .setCursorPosition connector x y
  | .showCursor connector => .showCursor connector
  | .hideCursor connector => .hideCursor connector
  | .cursorState connector => .cursorState connector
  | .deviceFault device => .deviceFault device
  | .recoverDevice device caps => .recoverDevice device caps
  | .driverMut caps use => .driverMut caps (Recorded.use use)

end Recorded

namespace GraphicsRuntime

variable {D P : Type}

/-- Forget the record. -/
def unrecorded (runtime : GraphicsRuntime (Recorded D) P) :
    GraphicsRuntime D P where
  driver := runtime.driver.driver
  devices := runtime.devices
  deviceCaps := runtime.deviceCaps
  resources := runtime.resources
  shaders := runtime.shaders
  pipelines := runtime.pipelines
  timelines := runtime.timelines
  presentation := runtime.presentation
  audit := runtime.audit
  cursors := runtime.cursors
  ids := runtime.ids

/-- Over the recorded driver a method does what it does over the driver. -/
abbrev Unrecords {α : Type}
    (left : Method Error (GraphicsRuntime (Recorded D) P) α)
    (right : Method Error (GraphicsRuntime D P) α) : Prop :=
  Method.Projects unrecorded left right

namespace Unrecords

open Method.Projects

theorem log (actor : ObjectId) (action : String) (authorized : Result Unit) :
    Unrecords (D := D) (P := P) (GraphicsRuntime.log actor action authorized)
      (GraphicsRuntime.log actor action authorized) :=
  change fun _ => rfl

theorem newId : Unrecords (D := D) (P := P) GraphicsRuntime.newId
    GraphicsRuntime.newId :=
  bind (read fun _ => rfl) fun _ => bind (change fun _ => rfl) fun _ => pure _

theorem device (id : ObjectId) :
    Unrecords (D := D) (P := P) (GraphicsRuntime.device id)
      (GraphicsRuntime.device id) :=
  bind (read fun _ => rfl) fun _ => okOr _ _

theorem onPresentation {α : Type}
    (method : Method Error (PresentationBridge P) α) :
    Unrecords (D := D) (GraphicsRuntime.onPresentation method)
      (GraphicsRuntime.onPresentation method) :=
  Method.projects_of_run fun _ => rfl

theorem onDriver {α : Type} (call : DriverCall) (method : Method Error D α) :
    Unrecords (P := P) (GraphicsRuntime.onDriver (Recorded.calling call method))
      (GraphicsRuntime.onDriver method) :=
  Method.projects_of_run fun _ => rfl

theorem createTimeline (id : ObjectId) :
    Unrecords (D := D) (P := P) (GraphicsRuntime.createTimeline id)
      (GraphicsRuntime.createTimeline id) :=
  bind (device id) fun _ => bind newId fun _ =>
    bind (change fun _ => rfl) fun _ => pure _

theorem createCommandStream (id : ObjectId) (workload : WorkloadClass) :
    Unrecords (D := D) (P := P)
      (GraphicsRuntime.createCommandStream id workload)
      (GraphicsRuntime.createCommandStream id workload) :=
  bind (device id) fun _ => bind newId fun _ => pure _

theorem createShaderModule (id : ObjectId) (stage : ShaderStage)
    (ir : List UInt8) :
    Unrecords (D := D) (P := P)
      (GraphicsRuntime.createShaderModule id stage ir)
      (GraphicsRuntime.createShaderModule id stage ir) :=
  bind (device id) fun _ => bind newId fun _ =>
    bind (change fun _ => rfl) fun _ => pure _

theorem createPipeline (id shader : ObjectId) (workload : WorkloadClass) :
    Unrecords (D := D) (P := P)
      (GraphicsRuntime.createPipeline id shader workload)
      (GraphicsRuntime.createPipeline id shader workload) :=
  bind (device id) fun _ => read_bind fun _ => bind (rejectIf _ _) fun _ =>
    bind newId fun _ => bind (change fun _ => rfl) fun _ => pure _

theorem timelineValue (timeline : ObjectId) :
    Unrecords (D := D) (P := P) (GraphicsRuntime.timelineValue timeline)
      (GraphicsRuntime.timelineValue timeline) :=
  read_bind fun _ => okOr _ _

theorem wait (timeline : ObjectId) (value : Nat) :
    Unrecords (D := D) (P := P) (GraphicsRuntime.wait timeline value)
      (GraphicsRuntime.wait timeline value) :=
  bind (timelineValue timeline) fun _ => rejectIf _ _

theorem driverMut {α : Type} (caps : CapabilitySet) (use : DriverUse D α) :
    Unrecords (D := D) (P := P)
      (GraphicsRuntime.driverMut caps (Recorded.use use))
      (GraphicsRuntime.driverMut caps use) :=
  bind (ofResult _) fun _ => Method.projects_of_run fun _ => rfl

section Cursors

variable [GPUDriver P]

theorem cursorMut (connector : ObjectId)
    (update : CursorState → CursorState) :
    Unrecords (D := D) (P := P) (GraphicsRuntime.cursorMut connector update)
      (GraphicsRuntime.cursorMut connector update) :=
  read_bind fun _ => bind (rejectIf _ _) fun _ => change fun _ => rfl

theorem setCursorImage (connector image : ObjectId) :
    Unrecords (D := D) (P := P)
      (GraphicsRuntime.setCursorImage connector image)
      (GraphicsRuntime.setCursorImage connector image) :=
  read_bind fun _ => bind (okOr _ _) fun _ => bind (rejectIf _ _) fun _ =>
    cursorMut _ _

theorem cursorState (connector : ObjectId) :
    Unrecords (D := D) (P := P) (GraphicsRuntime.cursorState connector)
      (GraphicsRuntime.cursorState connector) :=
  read_bind fun _ => bind (rejectIf _ _) fun _ => read fun _ => rfl

end Cursors

variable [GpuDriver D]

theorem createDevice (gpu : ObjectId) (caps : CapabilitySet) :
    Unrecords (D := D) (P := P) (GraphicsRuntime.createDevice gpu caps)
      (GraphicsRuntime.createDevice gpu caps) := by
  refine bind (log _ _ _) fun _ => ?_
  refine bind (ofResult _) fun _ => ?_
  refine read_bind fun _ => ?_
  refine bind (ofResult _) fun _ => ?_
  refine bind (okOr _ _) fun _ => ?_
  refine bind (onDriver _ _) fun _ => ?_
  refine bind newId fun _ => bind newId fun _ => ?_
  refine bind newId fun _ => bind newId fun _ => ?_
  exact bind (change fun _ => rfl) fun _ => pure _

theorem createResource (id : ObjectId) (kind : ResourceKind)
    (memoryClass : MemoryClass) :
    Unrecords (D := D) (P := P)
      (GraphicsRuntime.createResource id kind memoryClass)
      (GraphicsRuntime.createResource id kind memoryClass) :=
  bind (device id) fun _ => bind (Method.projects_of_run fun _ => rfl) fun _ =>
    bind (change fun _ => rfl) fun _ => pure _

theorem submitToDriver (gpu : ObjectId) (workload : WorkloadClass)
    (ops : List DriverOp) :
    Unrecords (D := D) (P := P)
      (GraphicsRuntime.submitToDriver gpu workload ops)
      (GraphicsRuntime.submitToDriver gpu workload ops) := by
  apply Method.projects_of_run
  intro runtime
  have hrecorded : GpuDriver.submit gpu workload ops runtime.driver =
      ((GpuDriver.submit gpu workload ops runtime.driver.driver).1,
        ⟨(GpuDriver.submit gpu workload ops runtime.driver.driver).2,
          runtime.driver.calls ++ [.submit gpu workload ops]⟩) := rfl
  rw [GraphicsRuntime.submitToDriver, GraphicsRuntime.submitToDriver,
    hrecorded, show runtime.unrecorded.driver = runtime.driver.driver from rfl]
  cases GpuDriver.submit gpu workload ops runtime.driver.driver with
  | mk outcome driver =>
      cases outcome with
      | returned result => rfl
      | panicked payload => rfl

theorem submit (queue : QueueHandle) (stream : CommandStream)
    (timeline : ObjectId) (signalValue : Nat) :
    Unrecords (D := D) (P := P)
      (GraphicsRuntime.submit queue stream timeline signalValue)
      (GraphicsRuntime.submit queue stream timeline signalValue) := by
  refine bind (rejectIf _ _) fun _ => ?_
  refine read_bind fun _ => bind (okOr _ _) fun _ => ?_
  refine bind (log _ _ _) fun _ => bind (ofResult _) fun _ => ?_
  refine bind (device _) fun _ => ?_
  refine read_bind fun _ => bind (okOr _ _) fun _ => ?_
  refine bind (rejectIf _ _) fun _ => ?_
  refine read_bind fun _ => read_bind fun _ => ?_
  refine bind (ofResult _) fun _ => ?_
  exact bind (submitToDriver _ _ _) fun _ => change fun _ => rfl

theorem freeResource (resource : ObjectId) :
    Unrecords (D := D) (P := P) (GraphicsRuntime.freeResource resource)
      (GraphicsRuntime.freeResource resource) :=
  read_bind fun _ => bind (okOr _ _) fun _ =>
    bind (change fun _ => rfl) fun _ => onDriver _ _

theorem deviceFault (id : ObjectId) :
    Unrecords (D := D) (P := P) (GraphicsRuntime.deviceFault id)
      (GraphicsRuntime.deviceFault id) :=
  bind (device id) fun _ => read_bind fun _ => ofResult _

theorem recoverDevice (id : ObjectId) (caps : CapabilitySet) :
    Unrecords (D := D) (P := P) (GraphicsRuntime.recoverDevice id caps)
      (GraphicsRuntime.recoverDevice id caps) :=
  bind (log _ _ _) fun _ => bind (ofResult _) fun _ => bind (device id)
    fun _ => bind (onDriver _ _) fun _ => change fun _ => rfl

variable [GPUDriver P]

theorem perform (op : Op D) :
    Unrecords (P := P) (GraphicsRuntime.perform (Recorded.op op))
      (GraphicsRuntime.perform op) := by
  cases op with
  | createDevice gpu caps => exact map _ (createDevice gpu caps)
  | createTimeline device => exact map _ (createTimeline device)
  | createResource device kind memoryClass =>
      exact map _ (createResource device kind memoryClass)
  | createCommandStream device workload =>
      exact map _ (createCommandStream device workload)
  | createShaderModule device stage ir =>
      exact map _ (createShaderModule device stage ir)
  | createPipeline device shader workload =>
      exact map _ (createPipeline device shader workload)
  | submit queue stream timeline signalValue =>
      exact map _ (submit queue stream timeline signalValue)
  | timelineValue timeline => exact map _ (timelineValue timeline)
  | wait timeline value => exact map _ (wait timeline value)
  | freeResource resource => exact map _ (freeResource resource)
  | registerConnector connector => exact map _ (onPresentation _)
  | presentFrame connector width height => exact map _ (onPresentation _)
  | setCursorImage connector image =>
      exact map _ (setCursorImage connector image)
  | setCursorPosition connector x y => exact map _ (cursorMut _ _)
  | showCursor connector => exact map _ (cursorMut _ _)
  | hideCursor connector => exact map _ (cursorMut _ _)
  | cursorState connector => exact map _ (cursorState connector)
  | deviceFault device => exact map _ (deviceFault device)
  | recoverDevice device caps => exact map _ (recoverDevice device caps)
  | driverMut caps use => exact driverMut caps use

end Unrecords

/-- A submission that passes every check reaches the driver, and is followed by
a report of a fault at most. -/
theorem submit_calls_of_ready [GpuDriver D]
    {before : GraphicsRuntime (Recorded D) P} {queue : QueueHandle}
    {stream : CommandStream} {timeline gpu : ObjectId} {signalValue : Nat}
    (hready : SubmitReady before queue stream timeline signalValue gpu) :
    ∃ rest,
      (submit queue stream timeline signalValue before).2.driver.calls =
        before.driver.calls ++
          .submit gpu queue.workload (translateOps stream.ops) :: rest ∧
      (rest = [] ∨ ∃ description, rest = [.markFaulted gpu description]) := by
  let call := DriverCall.submit gpu queue.workload (translateOps stream.ops)
  have hcalls : (GpuDriver.submit gpu queue.workload
      (translateOps stream.ops) before.driver).2.calls =
        before.driver.calls ++ [call] := rfl
  rw [submit_of_ready before hready, submitToDriver, audited_driver]
  cases hsent : GpuDriver.submit gpu queue.workload
      (translateOps stream.ops) before.driver with
  | mk outcome driver =>
    rw [hsent] at hcalls
    cases outcome with
    | panicked payload =>
        refine ⟨[.markFaulted gpu (panicMessage payload)], ?_, Or.inr ⟨_, rfl⟩⟩
        change driver.calls ++ [_] = _
        rw [hcalls, List.append_assoc]
        rfl
    | returned result =>
        cases result with
        | ok value => exact ⟨[], hcalls, Or.inl rfl⟩
        | error error => exact ⟨[], hcalls, Or.inl rfl⟩

/-- Recording the calls changes neither an answer nor anything else of the
runtime, in any run. -/
theorem unrecorded_run [GpuDriver D] [GPUDriver P]
    (runtime : GraphicsRuntime (Recorded D) P) (ops : List (Op D)) :
    unrecorded (Machine.run step runtime (ops.map Recorded.op)) =
        Machine.run step (unrecorded runtime) ops ∧
      Machine.answers step runtime (ops.map Recorded.op) =
        Machine.answers step (unrecorded runtime) ops := by
  induction ops generalizing runtime with
  | nil => exact ⟨rfl, rfl⟩
  | cons op rest ih =>
      have hstep : step (unrecorded runtime) op =
          ((step runtime (Recorded.op op)).1,
            unrecorded (step runtime (Recorded.op op)).2) :=
        (Unrecords.perform op).run runtime
      obtain ⟨hrun, hanswers⟩ := ih (step runtime (Recorded.op op)).2
      constructor
      · rw [List.map_cons, Machine.run, Machine.run, hrun, hstep]
      · rw [Machine.answers, Machine.answers, List.map_cons, Machine.trace,
          Machine.trace, List.map_cons, List.map_cons]
        rw [Machine.answers, Machine.answers] at hanswers
        simp only [Machine.event, hstep]
        rw [hanswers]

end GraphicsRuntime

end SherGraphics
