/-
`graphics_runtime`: the object tables, stream validation, command translation,
timeline synchronization, the presentation bridge and fault recovery, over an
arbitrary driver `D` and an arbitrary display `P`.  A method reads and changes
the runtime in the order of the source, so what an early return leaves behind
is what the source leaves behind.
-/
import SherGraphics.GpuAbstraction

namespace SherGraphics

def bytesPerPixel : PixelFormat → Nat
  | .rgba8Unorm | .bgra8Unorm => 4
  | .rgba16Float => 8
  | .depth32Float => 4

/-- A product of two 64-bit `usize` values in the release profile, which wraps.
A profile with overflow checks panics instead, before anything is changed. -/
def usizeMul (left right : Nat) : Nat := left * right % 2 ^ 64

def resourceSize : ResourceKind → Nat
  | .buffer size _ => size
  | .image width height depth format _ =>
      usizeMul (usizeMul (usizeMul width.toNat height.toNat) depth.toNat)
        (bytesPerPixel format)

/-- One iteration of the loop of `validate_stream`.  The loop state is the
pipeline bound so far. -/
def validateOp (device : ObjectId) (pipelines : Table ObjectId Pipeline)
    (resources : Table ObjectId Resource) (boundPipeline : Option ObjectId) :
    GraphicsOp → Result (Option ObjectId)
  | .bindPipeline pipelineId =>
      match pipelines.get pipelineId with
      | none => .error (.device "BindPipeline references unknown pipeline")
      | some pipeline =>
          if pipeline.device ≠ device then
            .error (.device
              "BindPipeline references a pipeline from a different device")
          else .ok (some pipelineId)
  | .bindResource _ resource =>
      match resources.get resource with
      | none => .error (.device "BindResource references unknown resource")
      | some res =>
          if res.device ≠ device then
            .error (.device
              "BindResource references a resource from a different device")
          else .ok boundPipeline
  | .draw _ _ | .dispatch _ _ _ =>
      if boundPipeline.isNone then
        .error (.device "Draw/Dispatch issued without a bound pipeline")
      else .ok boundPipeline
  | .copy src dst =>
      if !resources.contains src || !resources.contains dst then
        .error (.device "Copy references unknown resource")
      else .ok boundPipeline
  | .barrier => .ok boundPipeline

/-- The loop of `validate_stream`, from a given loop state. -/
def validateOps (device : ObjectId) (pipelines : Table ObjectId Pipeline)
    (resources : Table ObjectId Resource) :
    Option ObjectId → List GraphicsOp → Result Unit
  | _, [] => .ok ()
  | boundPipeline, op :: rest =>
      match validateOp device pipelines resources boundPipeline op with
      | .ok bound => validateOps device pipelines resources bound rest
      | .error error => .error error

def validateStream (stream : CommandStream)
    (pipelines : Table ObjectId Pipeline)
    (resources : Table ObjectId Resource) : Result Unit :=
  validateOps stream.device pipelines resources none stream.ops

def translateOps (ops : List GraphicsOp) : List DriverOp :=
  ops.filterMap fun op =>
    match op with
    | .draw vertexCount instanceCount => some (.draw vertexCount instanceCount)
    | .dispatch x y z => some (.dispatch x y z)
    | .copy src dst => some (.copy src dst)
    | .barrier => some .barrier
    | .bindPipeline _ | .bindResource _ _ => none

/-- Bridges the runtime's presentation intent to the display driver. -/
structure PresentationBridge (P : Type) where
  display : P

namespace PresentationBridge

variable {P : Type} [GPUDriver P]

def new (displayVramBytes : Nat) : PresentationBridge P :=
  ⟨GPUDriver.new displayVramBytes⟩

/-- Run a method of the display on the bridge. -/
def onDisplay {α : Type} (method : Method Error P α) :
    Method Error (PresentationBridge P) α :=
  fun bridge =>
    let (result, display) := method bridge.display
    (result, ⟨display⟩)

omit [GPUDriver P] in
theorem onDisplay_run {α : Type} {method : Method Error P α}
    {bridge : PresentationBridge P} {result : Result α} {display : P}
    (hrun : method bridge.display = (result, display)) :
    onDisplay method bridge = (result, ⟨display⟩) := by
  rw [onDisplay, hrun]

def registerConnector (connector : Connector) :
    Method Error (PresentationBridge P) Unit :=
  onDisplay (GPUDriver.registerConnector connector)

def hasConnector (bridge : PresentationBridge P) (connectorId : ObjectId) :
    Bool :=
  (GPUDriver.getConnector bridge.display connectorId).isSome

def present (connectorId : ObjectId) (width height : UInt32) :
    Method Error (PresentationBridge P) ObjectId := do
  let framebuffer ← onDisplay (GPUDriver.allocateFramebuffer width height)
  onDisplay (GPUDriver.pageFlip connectorId framebuffer.id)
  pure framebuffer.id

end PresentationBridge

structure CursorState where
  image : Option ObjectId := none
  position : Int32 × Int32 := (0, 0)
  visible : Bool := false
deriving DecidableEq, Repr

/-- The runtime.  The last field is the process-wide source of identifiers
that the runtime and its driver draw from. -/
structure GraphicsRuntime (D P : Type) where
  driver : D
  devices : Table ObjectId GraphicsDevice
  deviceCaps : Table ObjectId CapabilitySet
  resources : Table ObjectId Resource
  shaders : Table ObjectId ShaderModule
  pipelines : Table ObjectId Pipeline
  timelines : Table ObjectId Nat
  presentation : PresentationBridge P
  audit : AuditLog
  cursors : Table ObjectId CursorState
  ids : IdSource

/-- What the borrower of a driver does with it.  It may call anything on the
driver, so it may draw identifiers, but it cannot take any back. -/
structure DriverUse (D α : Type) where
  run : Method Error (D × IdSource) α
  advances : ∀ (driver : D) (ids : IdSource),
    ids.Advances (run (driver, ids)).2.2

/-- Best-effort extraction of a human-readable message from a panic payload. -/
def panicMessage : PanicPayload → String
  | .str message => message
  | .string message => message
  | .opaqueValue => "driver panicked with a non-string payload"

/-- A runtime over the reference driver. -/
abbrev SoftwareRuntime (P : Type) := GraphicsRuntime SoftwareGpuDriver P

namespace GraphicsRuntime

variable {D P : Type} [GpuDriver D] [GPUDriver P]

def new (driver : D) (presentationVramBytes : Nat) (ids : IdSource) :
    GraphicsRuntime D P where
  driver := driver
  devices := Table.empty
  deviceCaps := Table.empty
  resources := Table.empty
  shaders := Table.empty
  pipelines := Table.empty
  timelines := Table.empty
  presentation := PresentationBridge.new presentationVramBytes
  audit := AuditLog.default
  cursors := Table.empty
  ids := ids

/-- A runtime over a `SoftwareGpuDriver` built by `with_devices`. -/
def overSoftware (count vramBytesPerDevice presentationVramBytes : Nat)
    (ids : IdSource) : SoftwareRuntime P :=
  let (driver, ids) :=
    SoftwareGpuDriver.withDevices count vramBytesPerDevice ids
  new driver presentationVramBytes ids

/-- A small runtime to run examples on: its GPUs are numbered from zero. -/
def sample (count vramBytesPerDevice : Nat) : SoftwareRuntime BareDisplay :=
  overSoftware count vramBytesPerDevice 0 .sequential

/-- `self.audit.log(actor, action, authorized.is_ok())`. -/
def log (actor : ObjectId) (action : String) (authorized : Result Unit) :
    Method Error (GraphicsRuntime D P) Unit :=
  Method.change fun runtime =>
    { runtime with audit := runtime.audit.log actor action authorized.isOk }

/-- `ObjectId::new()`. -/
def newId : Method Error (GraphicsRuntime D P) ObjectId := do
  let ids ← Method.read GraphicsRuntime.ids
  Method.change fun runtime => { runtime with ids := runtime.ids.advance 1 }
  pure ids.next

/-- Call a method of the driver. -/
def onDriver {α : Type} (method : Method Error D α) :
    Method Error (GraphicsRuntime D P) α :=
  fun runtime =>
    let (result, driver) := method runtime.driver
    (result, { runtime with driver })

/-- Call a method of the driver that draws identifiers. -/
def onDriverAndIds {α : Type} (method : Method Error (D × IdSource) α) :
    Method Error (GraphicsRuntime D P) α :=
  fun runtime =>
    let (result, driver, ids) := method (runtime.driver, runtime.ids)
    (result, { runtime with driver, ids })

/-- Call a method of the presentation bridge. -/
def onPresentation {α : Type} (method : Method Error (PresentationBridge P) α) :
    Method Error (GraphicsRuntime D P) α :=
  fun runtime =>
    let (result, presentation) := method runtime.presentation
    (result, { runtime with presentation })

def device (id : ObjectId) :
    Method Error (GraphicsRuntime D P) GraphicsDevice := do
  let devices ← Method.read GraphicsRuntime.devices
  Method.okOr (devices.get id) (.device "unknown graphics device")

def freeResource (resource : ObjectId) :
    Method Error (GraphicsRuntime D P) Unit := do
  let resources ← Method.read GraphicsRuntime.resources
  let _ ← Method.okOr (resources.get resource) (.memory "unknown resource")
  Method.change fun runtime =>
    { runtime with resources := runtime.resources.erase resource }
  onDriver (GpuDriver.freeVram resource)

def registerConnector (connector : Connector) :
    Method Error (GraphicsRuntime D P) Unit :=
  onPresentation (PresentationBridge.registerConnector connector)

def presentFrame (connector : ObjectId) (width height : UInt32) :
    Method Error (GraphicsRuntime D P) ObjectId :=
  onPresentation (PresentationBridge.present connector width height)

/-- Change the cursor state of a connector, which is created with its default
when the connector has none yet. -/
def cursorMut (connector : ObjectId) (update : CursorState → CursorState) :
    Method Error (GraphicsRuntime D P) Unit := do
  let known ← Method.read fun runtime =>
    runtime.presentation.hasConnector connector
  Method.rejectIf (known = false) (.device "unknown presentation connector")
  Method.change fun runtime =>
    { runtime with
      cursors := runtime.cursors.insert connector
        (update ((runtime.cursors.get connector).getD {})) }

/-- `matches!(kind, ResourceKind::Image { .. })`. -/
def isImage : ResourceKind → Bool
  | .image _ _ _ _ _ => true
  | .buffer _ _ => false

def setCursorImage (connector image : ObjectId) :
    Method Error (GraphicsRuntime D P) Unit := do
  let resources ← Method.read GraphicsRuntime.resources
  let resource ← Method.okOr (resources.get image)
    (.device "unknown cursor image resource")
  Method.rejectIf (isImage resource.kind = false)
    (.device "cursor image resource must be an Image, not a Buffer")
  cursorMut connector fun cursor => { cursor with image := some image }

def setCursorPosition (connector : ObjectId) (x y : Int32) :
    Method Error (GraphicsRuntime D P) Unit :=
  cursorMut connector fun cursor => { cursor with position := (x, y) }

def showCursor (connector : ObjectId) :
    Method Error (GraphicsRuntime D P) Unit :=
  cursorMut connector fun cursor => { cursor with visible := true }

def hideCursor (connector : ObjectId) :
    Method Error (GraphicsRuntime D P) Unit :=
  cursorMut connector fun cursor => { cursor with visible := false }

def cursorState (connector : ObjectId) :
    Method Error (GraphicsRuntime D P) CursorState := do
  let known ← Method.read fun runtime =>
    runtime.presentation.hasConnector connector
  Method.rejectIf (known = false) (.device "unknown presentation connector")
  Method.read fun runtime => (runtime.cursors.get connector).getD {}

/-- The borrow of the driver that `driver_mut` returns, together with what the
caller does with it. -/
def driverMut {α : Type} (caps : CapabilitySet) (use : DriverUse D α) :
    Method Error (GraphicsRuntime D P) α := do
  Method.ofResult (requireCapability caps .gpuAdmin)
  onDriverAndIds use.run

def deviceFault (id : ObjectId) :
    Method Error (GraphicsRuntime D P) (Option GpuFault) := do
  let found ← device id
  let driver ← Method.read GraphicsRuntime.driver
  Method.ofResult (GpuDriver.faultStatus driver found.gpu)

/-- Forget a context and everything recorded under it. -/
def dropContext (id : ObjectId) (runtime : GraphicsRuntime D P) :
    GraphicsRuntime D P :=
  { runtime with
    devices := runtime.devices.erase id
    deviceCaps := runtime.deviceCaps.erase id
    resources := runtime.resources.retain fun _ row => row.device ≠ id
    shaders := runtime.shaders.retain fun _ row => row.device ≠ id
    pipelines := runtime.pipelines.retain fun _ row => row.device ≠ id }

def recoverDevice (id : ObjectId) (caps : CapabilitySet) :
    Method Error (GraphicsRuntime D P) Unit := do
  let authorized := requireCapability caps .gpuAdmin
  log id "recover_device" authorized
  Method.ofResult authorized
  let found ← device id
  onDriver (GpuDriver.resetDevice found.gpu)
  Method.change (dropContext id)

/-- A panic of the driver is caught, recorded as a fault of the GPU and turned
into an error. -/
def submitToDriver (gpu : ObjectId) (workload : WorkloadClass)
    (ops : List DriverOp) : Method Error (GraphicsRuntime D P) Unit :=
  fun runtime =>
    match GpuDriver.submit gpu workload ops runtime.driver with
    | (.returned result, driver) => (result, { runtime with driver })
    | (.panicked payload, driver) =>
        let description := panicMessage payload
        (.error (.device ("driver panicked during submit: " ++ description)),
          { runtime with
            driver := GpuDriver.markFaulted gpu description driver })

def createDevice (gpu : ObjectId) (caps : CapabilitySet) :
    Method Error (GraphicsRuntime D P) GraphicsDevice := do
  let authorized := requireCapability caps .gpuMemoryAlloc
  log gpu "create_device" authorized
  Method.ofResult authorized
  let driver ← Method.read GraphicsRuntime.driver
  let known ← Method.ofResult (GpuDriver.probe driver)
  let deviceInfo ← Method.okOr (known.find? fun info => info.id = gpu)
    (.device "GPU not found via driver probe")
  onDriver (GpuDriver.initializeDevice deviceInfo)
  let id ← newId
  let graphicsQueue ← newId
  let computeQueue ← newId
  let transferQueue ← newId
  let created : GraphicsDevice :=
    { id
      gpu
      queues :=
        [⟨graphicsQueue, .graphics⟩, ⟨computeQueue, .compute⟩,
          ⟨transferQueue, .transfer⟩] }
  Method.change fun runtime =>
    { runtime with
      devices := runtime.devices.insert created.id created
      deviceCaps := runtime.deviceCaps.insert created.id caps }
  pure created

def createTimeline (id : ObjectId) :
    Method Error (GraphicsRuntime D P) Timeline := do
  let _ ← device id
  let timelineId ← newId
  Method.change fun runtime =>
    { runtime with timelines := runtime.timelines.insert timelineId 0 }
  pure ⟨timelineId, id, 0⟩

def createResource (id : ObjectId) (kind : ResourceKind)
    (memoryClass : MemoryClass) :
    Method Error (GraphicsRuntime D P) Resource := do
  let found ← device id
  let allocation ← onDriverAndIds
    (GpuDriver.allocateVram found.gpu (resourceSize kind) memoryClass)
  let resource : Resource := ⟨allocation.id, id, kind, memoryClass⟩
  Method.change fun runtime =>
    { runtime with
      resources := runtime.resources.insert resource.id resource }
  pure resource

def createCommandStream (id : ObjectId) (workload : WorkloadClass) :
    Method Error (GraphicsRuntime D P) CommandStream := do
  let _ ← device id
  let streamId ← newId
  pure ⟨streamId, id, workload, []⟩

def createShaderModule (id : ObjectId) (stage : ShaderStage)
    (ir : List UInt8) : Method Error (GraphicsRuntime D P) ShaderModule := do
  let _ ← device id
  let moduleId ← newId
  let created : ShaderModule := ⟨moduleId, id, stage, ir⟩
  Method.change fun runtime =>
    { runtime with shaders := runtime.shaders.insert created.id created }
  pure created

/-- The shader has to be known; which context it belongs to is not asked. -/
def createPipeline (id shader : ObjectId) (workload : WorkloadClass) :
    Method Error (GraphicsRuntime D P) Pipeline := do
  let _ ← device id
  let shaders ← Method.read GraphicsRuntime.shaders
  Method.rejectIf (shaders.contains shader = false)
    (.device "unknown shader module")
  let pipelineId ← newId
  let created : Pipeline := ⟨pipelineId, id, workload, shader⟩
  Method.change fun runtime =>
    { runtime with pipelines := runtime.pipelines.insert created.id created }
  pure created

def submit (queue : QueueHandle) (stream : CommandStream)
    (timeline : ObjectId) (signalValue : Nat) :
    Method Error (GraphicsRuntime D P) Unit := do
  Method.rejectIf (stream.targetClass ≠ queue.workload)
    (.device "command stream workload class does not match queue")
  let deviceCaps ← Method.read GraphicsRuntime.deviceCaps
  let caps ← Method.okOr (deviceCaps.get stream.device)
    (.device "unknown graphics device")
  let authorized := requireCapability caps .gpuCommandSubmit
  log stream.device "submit" authorized
  Method.ofResult authorized
  let found ← device stream.device
  let timelines ← Method.read GraphicsRuntime.timelines
  let current ← Method.okOr (timelines.get timeline)
    (.device "unknown timeline")
  Method.rejectIf (signalValue ≤ current)
    (.device "timeline signal value must be strictly increasing")
  let pipelines ← Method.read GraphicsRuntime.pipelines
  let resources ← Method.read GraphicsRuntime.resources
  Method.ofResult (validateStream stream pipelines resources)
  submitToDriver found.gpu queue.workload (translateOps stream.ops)
  Method.change fun runtime =>
    { runtime with
      timelines := runtime.timelines.insert timeline signalValue }

def timelineValue (timeline : ObjectId) :
    Method Error (GraphicsRuntime D P) Nat := do
  let timelines ← Method.read GraphicsRuntime.timelines
  Method.okOr (timelines.get timeline) (.device "unknown timeline")

def wait (timeline : ObjectId) (value : Nat) :
    Method Error (GraphicsRuntime D P) Unit := do
  let current ← timelineValue timeline
  Method.rejectIf (current < value)
    (.device ("timeline not yet signaled: at " ++ toString current ++
      ", waiting for " ++ toString value))

end GraphicsRuntime

/-! ### The shared first steps of a call -/

namespace GraphicsRuntime

variable {D P : Type} (runtime : GraphicsRuntime D P)

theorem device_of_live {id : ObjectId} {found : GraphicsDevice}
    (hcontext : runtime.devices.get id = some found) :
    device id runtime = (.ok found, runtime) := by
  rw [device, Method.bind_run, Method.read_run]
  simp [hcontext]

theorem device_of_unknown {id : ObjectId}
    (hunknown : runtime.devices.get id = none) :
    device id runtime =
      (.error (.device "unknown graphics device"), runtime) := by
  rw [device, Method.bind_run, Method.read_run]
  simp [hunknown]

variable {runtime} in
theorem onDriverAndIds_run {α : Type} {method : Method Error (D × IdSource) α}
    {result : Result α} {driver : D} {ids : IdSource}
    (hrun : method (runtime.driver, runtime.ids) = (result, driver, ids)) :
    onDriverAndIds method runtime = (result, { runtime with driver, ids }) := by
  rw [onDriverAndIds, hrun]

/-- The runtime with one more event at the end of its audit trail. -/
def audited (actor : ObjectId) (action : String) (granted : Bool) :
    GraphicsRuntime D P :=
  { runtime with audit := runtime.audit.log actor action granted }

section Audited

variable (actor : ObjectId) (action : String) (granted : Bool)

@[simp] theorem audited_driver :
    (runtime.audited actor action granted).driver = runtime.driver := rfl

@[simp] theorem audited_devices :
    (runtime.audited actor action granted).devices = runtime.devices := rfl

@[simp] theorem audited_timelines :
    (runtime.audited actor action granted).timelines =
      runtime.timelines := rfl

@[simp] theorem audited_pipelines :
    (runtime.audited actor action granted).pipelines =
      runtime.pipelines := rfl

@[simp] theorem audited_resources :
    (runtime.audited actor action granted).resources =
      runtime.resources := rfl

end Audited

theorem log_of_granted (actor : ObjectId) (action : String)
    {authorized : Result Unit} (hgranted : authorized = .ok ()) :
    log actor action authorized runtime =
      (.ok (), runtime.audited actor action true) := by
  subst hgranted
  rfl

theorem log_of_denied (actor : ObjectId) (action : String)
    {authorized : Result Unit} {error : Error}
    (hdenied : authorized = .error error) :
    log actor action authorized runtime =
      (.ok (), runtime.audited actor action false) := by
  subst hdenied
  rfl

theorem timelineValue_run (timeline : ObjectId) :
    timelineValue timeline runtime =
      (match runtime.timelines.get timeline with
        | some current => .ok current
        | none => .error (.device "unknown timeline"), runtime) := by
  rw [timelineValue, Method.read_bind]
  cases runtime.timelines.get timeline with
  | none => rfl
  | some current => rfl

/-- The runtime after a successful `create_pipeline`. -/
def afterCreatePipeline (created : Pipeline) : GraphicsRuntime D P :=
  { runtime with
    ids := runtime.ids.advance 1
    pipelines := runtime.pipelines.insert created.id created }

theorem createPipeline_of_known {id shader : ObjectId}
    (workload : WorkloadClass) {found : GraphicsDevice}
    {source : ShaderModule} (hcontext : runtime.devices.get id = some found)
    (hshader : runtime.shaders.get shader = some source) :
    createPipeline id shader workload runtime =
      (.ok ⟨runtime.ids.next, id, workload, shader⟩,
        afterCreatePipeline runtime
          ⟨runtime.ids.next, id, workload, shader⟩) := by
  rw [createPipeline, Method.bind_of_ok (device_of_live runtime hcontext),
    Method.read_bind,
    Method.rejectIf_bind_of_neg _ _ _ (by simp [Table.contains, hshader])]
  rfl

/-! ### The calls on resources -/

section Resources

variable [GpuDriver D] {id : ObjectId}

theorem createResource_of_unknown (hunknown : runtime.devices.get id = none)
    (kind : ResourceKind) (memoryClass : MemoryClass) :
    createResource id kind memoryClass runtime =
      (.error (.device "unknown graphics device"), runtime) := by
  rw [createResource, Method.bind_of_error (device_of_unknown runtime hunknown)]

theorem createResource_of_granted {found : GraphicsDevice}
    (kind : ResourceKind) {memoryClass : MemoryClass}
    {allocation : GpuAllocation} {driver : D} {ids : IdSource}
    (hcontext : runtime.devices.get id = some found)
    (hgranted : GpuDriver.allocateVram found.gpu (resourceSize kind)
      memoryClass (runtime.driver, runtime.ids) =
        (.ok allocation, driver, ids)) :
    createResource id kind memoryClass runtime =
      (.ok ⟨allocation.id, id, kind, memoryClass⟩,
        { runtime with
          driver
          ids
          resources := runtime.resources.insert allocation.id
            ⟨allocation.id, id, kind, memoryClass⟩ }) := by
  rw [createResource, Method.bind_of_ok (device_of_live runtime hcontext),
    Method.bind_of_ok (onDriverAndIds_run hgranted)]
  rfl

theorem createResource_of_refused {found : GraphicsDevice}
    (kind : ResourceKind) {memoryClass : MemoryClass} {error : Error}
    {driver : D} {ids : IdSource}
    (hcontext : runtime.devices.get id = some found)
    (hrefused : GpuDriver.allocateVram found.gpu (resourceSize kind)
      memoryClass (runtime.driver, runtime.ids) =
        (.error error, driver, ids)) :
    createResource id kind memoryClass runtime =
      (.error error, { runtime with driver, ids }) := by
  rw [createResource, Method.bind_of_ok (device_of_live runtime hcontext),
    Method.bind_of_error (onDriverAndIds_run hrefused)]

theorem freeResource_of_unknown (hunknown : runtime.resources.get id = none) :
    freeResource id runtime =
      (.error (.memory "unknown resource"), runtime) := by
  rw [freeResource, Method.read_bind, hunknown, Method.okOr_none_bind]

/-- The row is removed before the driver is asked. -/
theorem freeResource_of_known {row : Resource}
    (hknown : runtime.resources.get id = some row) :
    freeResource id runtime =
      ((GpuDriver.freeVram id runtime.driver).1,
        { runtime with
          resources := runtime.resources.erase id
          driver := (GpuDriver.freeVram id runtime.driver).2 }) := by
  rw [freeResource, Method.read_bind, hknown, Method.okOr_some_bind,
    Method.change_bind]
  rfl

end Resources

variable {runtime}

theorem timelineValue_eq_ok {timeline : ObjectId} {value : Nat} :
    (timelineValue timeline runtime).1 = .ok value ↔
      runtime.timelines.get timeline = some value := by
  rw [timelineValue_run]
  cases runtime.timelines.get timeline with
  | none => simp
  | some current => simp

theorem wait_isOk {timeline : ObjectId} {value : Nat} :
    IsOk (wait timeline value runtime).1 ↔
      ∃ current, runtime.timelines.get timeline = some current ∧
        value ≤ current := by
  rw [wait, Method.bind_run, timelineValue_run]
  cases runtime.timelines.get timeline with
  | none => simp
  | some current =>
      simp only [Method.rejectIf_run]
      by_cases hshort : current < value
      · simp [hshort]
      · simp [hshort, Nat.not_lt.mp hshort]

end GraphicsRuntime

end SherGraphics
