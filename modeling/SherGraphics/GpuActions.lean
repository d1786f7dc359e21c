/-
Runs on several GPUs.  An action belongs to the GPU whose objects it names, or
only to the display.  Every identifier an action names or hands out can be
renamed, which is how two runs that draw different identifiers are compared.
-/
import SherGraphics.RuntimeStep

namespace SherGraphics

/-! ### Identifiers named, and renamed -/

def GraphicsOp.names : GraphicsOp → List ObjectId
  | .bindPipeline pipeline => [pipeline]
  | .bindResource _ resource => [resource]
  | .copy src dst => [src, dst]
  | .draw _ _ | .dispatch _ _ _ | .barrier => []

section Rename

variable (name : ObjectId → ObjectId)

def GraphicsOp.rename : GraphicsOp → GraphicsOp
  | .bindPipeline pipeline => .bindPipeline (name pipeline)
  | .bindResource binding resource => .bindResource binding (name resource)
  | .draw vertexCount instanceCount => .draw vertexCount instanceCount
  | .dispatch x y z => .dispatch x y z
  | .copy src dst => .copy (name src) (name dst)
  | .barrier => .barrier

def CommandStream.rename (stream : CommandStream) : CommandStream :=
  ⟨name stream.id, name stream.device, stream.targetClass,
    stream.ops.map (GraphicsOp.rename name)⟩

def QueueHandle.rename (queue : QueueHandle) : QueueHandle :=
  ⟨name queue.id, queue.workload⟩

/-- A GPU is not created during a run, and keeps its name. -/
def GraphicsDevice.rename (device : GraphicsDevice) : GraphicsDevice :=
  ⟨name device.id, device.gpu, device.queues.map (QueueHandle.rename name)⟩

def Reply.rename : Reply → Reply
  | .unit => .unit
  | .device created => .device (created.rename name)
  | .timeline created =>
      .timeline ⟨name created.id, name created.device, created.currentValue⟩
  | .resource created =>
      .resource ⟨name created.id, name created.device, created.kind,
        created.memoryClass⟩
  | .stream created => .stream (created.rename name)
  | .shader created =>
      .shader ⟨name created.id, name created.device, created.stage,
        created.ir⟩
  | .pipeline created =>
      .pipeline ⟨name created.id, name created.device, created.workload,
        name created.shader⟩
  | .value current => .value current
  | .fault status => .fault status
  | .cursor shown =>
      .cursor ⟨shown.image.map name, shown.position, shown.visible⟩
  | .framebuffer id => .framebuffer id
  | .vram available => .vram available

variable {D : Type}

/-- GPUs and connectors keep their names. -/
def Op.rename : Op D → Op D
  | .createDevice gpu caps => .createDevice gpu caps
  | .createTimeline device => .createTimeline (name device)
  | .createResource device kind memoryClass =>
      .createResource (name device) kind memoryClass
  | .createCommandStream device workload =>
      .createCommandStream (name device) workload
  | .createShaderModule device stage ir =>
      .createShaderModule (name device) stage ir
  | .createPipeline device shader workload =>
      .createPipeline (name device) (name shader) workload
  | .submit queue stream timeline signalValue =>
      .submit (queue.rename name) (stream.rename name) (name timeline)
        signalValue
  | .timelineValue timeline => .timelineValue (name timeline)
  | .wait timeline value => .wait (name timeline) value
  | .freeResource resource => .freeResource (name resource)
  | .setCursorImage connector image => .setCursorImage connector (name image)
  | .deviceFault device => .deviceFault (name device)
  | .recoverDevice device caps => .recoverDevice (name device) caps
  | op => op

end Rename

/-! ### GPUs under other names -/

section Gpus

variable (name : ObjectId → ObjectId)

def GpuFault.withGpu (fault : GpuFault) : GpuFault :=
  { fault with device := name fault.device }

def Reply.withGpus : Reply → Reply
  | .device created => .device { created with gpu := name created.gpu }
  | .fault status => .fault (status.map (GpuFault.withGpu name))
  | reply => reply

def Op.withGpus {D : Type} : Op D → Op D
  | .createDevice gpu caps => .createDevice (name gpu) caps
  | op => op

end Gpus

@[simp] theorem GpuFault.map_withGpu_id (status : Option GpuFault) :
    status.map (GpuFault.withGpu id) = status := by
  cases status <;> rfl

@[simp] theorem GpuFault.result_withGpu_id
    (result : Result (Option GpuFault)) :
    result.map (Option.map (GpuFault.withGpu id)) = result := by
  cases result with
  | ok status => exact congrArg Except.ok (map_withGpu_id status)
  | error error => rfl

@[simp] theorem Reply.withGpus_id (reply : Reply) :
    reply.withGpus id = reply := by
  cases reply with
  | fault status => exact congrArg Reply.fault (GpuFault.map_withGpu_id status)
  | _ => rfl

@[simp] theorem Op.withGpus_id {D : Type} (op : Op D) :
    op.withGpus id = op := by
  cases op <;> rfl

/-- All identifiers in a reply that a renaming takes elsewhere. -/
def Reply.names : Reply → List ObjectId
  | .device created => created.id :: created.queues.map QueueHandle.id
  | .timeline created => [created.id, created.device]
  | .resource created => [created.id, created.device]
  | .stream created =>
      created.id :: created.device :: created.ops.flatMap GraphicsOp.names
  | .shader created => [created.id, created.device]
  | .pipeline created => [created.id, created.device, created.shader]
  | .cursor shown => shown.image.toList
  | _ => []

/-- The context, timeline, resource, shader or pipeline a reply hands out. -/
def Reply.created : Reply → List ObjectId
  | .device created => [created.id]
  | .timeline created => [created.id]
  | .resource created => [created.id]
  | .shader created => [created.id]
  | .pipeline created => [created.id]
  | _ => []

def createdBy : Result Reply → List ObjectId
  | .ok reply => reply.created
  | .error _ => []

theorem Reply.created_subset_names (reply : Reply) :
    reply.created ⊆ reply.names := by
  cases reply <;> simp [Reply.created, Reply.names]

/-! ### Renamings that agree on the names -/

section Congr

variable {name name' : ObjectId → ObjectId}

theorem GraphicsOp.rename_congr {op : GraphicsOp}
    (hsame : ∀ id ∈ op.names, name id = name' id) :
    op.rename name = op.rename name' := by
  cases op <;> simp_all [GraphicsOp.names, GraphicsOp.rename]

theorem GraphicsOp.map_rename_congr {ops : List GraphicsOp}
    (hsame : ∀ id ∈ ops.flatMap GraphicsOp.names, name id = name' id) :
    ops.map (GraphicsOp.rename name) = ops.map (GraphicsOp.rename name') := by
  apply List.map_congr_left
  intro op hmem
  apply GraphicsOp.rename_congr
  intro id hid
  exact hsame id (List.mem_flatMap.mpr ⟨op, hmem, hid⟩)

theorem Reply.rename_congr {reply : Reply}
    (hsame : ∀ id ∈ reply.names, name id = name' id) :
    reply.rename name = reply.rename name' := by
  cases reply with
  | stream created =>
      obtain ⟨hid, hdevice, hops⟩ : name created.id = name' created.id ∧
          name created.device = name' created.device ∧
            ∀ id ∈ created.ops.flatMap GraphicsOp.names, name id = name' id := by
        simpa [Reply.names] using hsame
      simp [Reply.rename, CommandStream.rename, hid, hdevice,
        GraphicsOp.map_rename_congr hops]
  | device created =>
      obtain ⟨hid, hqueues⟩ : name created.id = name' created.id ∧
          ∀ queue ∈ created.queues, name queue.id = name' queue.id := by
        simpa [Reply.names] using hsame
      simpa [Reply.rename, GraphicsDevice.rename, QueueHandle.rename, hid]
        using hqueues
  | cursor shown =>
      obtain ⟨image, position, visible⟩ := shown
      cases image with
      | none => rfl
      | some id => simp_all [Reply.names, Reply.rename]
  | _ => simp_all [Reply.names, Reply.rename]

end Congr

namespace Op

variable {D : Type}

/-- The contexts, resources, shaders, pipelines and timelines that the
operation names. -/
def names : Op D → List ObjectId
  | .createTimeline device => [device]
  | .createResource device _ _ => [device]
  | .createCommandStream device _ => [device]
  | .createShaderModule device _ _ => [device]
  | .createPipeline device shader _ => [device, shader]
  | .submit _ stream timeline _ =>
      stream.device :: timeline :: stream.ops.flatMap GraphicsOp.names
  | .timelineValue timeline => [timeline]
  | .wait timeline _ => [timeline]
  | .freeResource resource => [resource]
  | .setCursorImage _ image => [image]
  | .deviceFault device => [device]
  | .recoverDevice device _ => [device]
  | _ => []

/-- The GPU that the operation opens a context on. -/
def target : Op D → Option ObjectId
  | .createDevice gpu _ => some gpu
  | _ => none

/-- The operation only concerns the display. -/
def onDisplay : Op D → Bool
  | .registerConnector _ | .presentFrame _ _ _ | .setCursorPosition _ _ _
  | .showCursor _ | .hideCursor _ | .cursorState _ => true
  | _ => false

/-- The operation only concerns objects of the runtime. -/
def onObjects : Op D → Bool
  | .driverMut _ _ => false
  | op => !op.onDisplay

/-- The operation concerns contexts, their objects and their GPUs alone: it is
a call of `GraphicsApi`, or frees a resource, or asks for or clears a fault. -/
def onApi : Op D → Bool
  | .setCursorImage _ _ => false
  | op => op.onObjects

/-- The operation opens a context on the GPU, or works on objects among the
given ones. -/
def WorksOn (gpu : ObjectId) (owned : List ObjectId) (op : Op D) : Prop :=
  op.onObjects = true ∧ (∀ opened ∈ op.target, opened = gpu) ∧
    ∀ id ∈ op.names, id ∈ owned

instance (gpu : ObjectId) (owned : List ObjectId) (op : Op D) :
    Decidable (op.WorksOn gpu owned) :=
  inferInstanceAs (Decidable (_ ∧ _ ∧ _))

end Op

/-! ### Actions -/

namespace SoftwareGpuDriver

/-- Break a GPU through the borrow of the driver. -/
def injection (gpu : ObjectId) (address : Nat) (description : String) :
    DriverUse SoftwareGpuDriver Reply where
  run := fun (driver, ids) =>
    (.ok .unit, injectFault gpu address description driver, ids)
  advances := fun _ ids => .refl ids

/-- Ask for the free bytes of a GPU through the borrow of the driver. -/
def vramQuery (gpu : ObjectId) : DriverUse SoftwareGpuDriver Reply where
  run := fun (driver, ids) =>
    ((vramAvailable driver gpu).map Reply.vram, driver, ids)
  advances := fun _ ids => .refl ids

end SoftwareGpuDriver

/-- A call on the objects of one GPU, a call on the display, or one of two uses
of the driver: breaking a GPU and asking for its free bytes. -/
inductive GpuAction where
  | call (gpu : ObjectId) (op : Op SoftwareGpuDriver)
  | display (op : Op SoftwareGpuDriver)
  | inject (gpu : ObjectId) (caps : CapabilitySet) (address : Nat)
      (description : String)
  | vramAvailable (gpu : ObjectId) (caps : CapabilitySet)

namespace GpuAction

/-- The GPU that the action belongs to. -/
def gpu : GpuAction → Option ObjectId
  | .call gpu _ => some gpu
  | .display _ => none
  | .inject gpu _ _ _ => some gpu
  | .vramAvailable gpu _ => some gpu

def toOp : GpuAction → Op SoftwareGpuDriver
  | .call _ op => op
  | .display op => op
  | .inject gpu caps address description =>
      .driverMut caps (SoftwareGpuDriver.injection gpu address description)
  | .vramAvailable gpu caps =>
      .driverMut caps (SoftwareGpuDriver.vramQuery gpu)

def rename (name : ObjectId → ObjectId) : GpuAction → GpuAction
  | .call gpu op => .call gpu (op.rename name)
  | action => action

/-- The action names only objects of its own GPU. -/
def NamesOwn (owned : ObjectId → List ObjectId) : GpuAction → Prop
  | .call gpu op => op.WorksOn gpu (owned gpu)
  | .display op => op.onDisplay = true
  | .inject _ _ _ _ | .vramAvailable _ _ => True

instance (owned : ObjectId → List ObjectId) (action : GpuAction) :
    Decidable (action.NamesOwn owned) :=
  match action with
  | .call gpu op => inferInstanceAs (Decidable (op.WorksOn gpu (owned gpu)))
  | .display op => inferInstanceAs (Decidable (op.onDisplay = true))
  | .inject _ _ _ _ | .vramAvailable _ _ => isTrue trivial

@[simp] theorem gpu_rename (name : ObjectId → ObjectId) (action : GpuAction) :
    (action.rename name).gpu = action.gpu := by
  cases action <;> rfl

end GpuAction

namespace GraphicsRuntime

variable {P : Type}

abbrev GpuEvent (P : Type) :=
  Event (SoftwareRuntime P) GpuAction (Result Reply)

def gpuStep [GPUDriver P] (runtime : SoftwareRuntime P) (action : GpuAction) :
    Result Reply × SoftwareRuntime P :=
  step runtime action.toOp

/-- The identifiers of the objects created so far for contexts of a GPU. -/
def createdFor (past : List (GpuEvent P)) (gpu : ObjectId) : List ObjectId :=
  past.flatMap fun e =>
    if e.action.gpu = some gpu then createdBy e.answer else []

/-- The step names only objects created for contexts of its own GPU. -/
def NamesOwn (past : List (GpuEvent P)) (e : GpuEvent P) : Prop :=
  e.action.NamesOwn (createdFor past)

instance (past : List (GpuEvent P)) (e : GpuEvent P) :
    Decidable (NamesOwn past e) :=
  inferInstanceAs (Decidable (e.action.NamesOwn (createdFor past)))

section Created

variable [GPUDriver P] {past : List (GpuEvent P)} {now : SoftwareRuntime P}
  {action : GpuAction} {gpu : ObjectId}

theorem createdFor_concat_of_on (hgpu : action.gpu = some gpu) :
    createdFor (past ++ [Machine.event gpuStep now action]) gpu =
      createdFor past gpu ++ createdBy (gpuStep now action).1 := by
  simp [createdFor, Machine.event, hgpu]

theorem createdFor_concat_of_off (hgpu : action.gpu ≠ some gpu) :
    createdFor (past ++ [Machine.event gpuStep now action]) gpu =
      createdFor past gpu := by
  simp [createdFor, Machine.event, hgpu]

end Created

/-- The answers of the actions on a GPU, in order. -/
def answersOn (gpu : ObjectId) (events : List (GpuEvent P)) :
    List (Result Reply) :=
  (events.filter fun e => e.action.gpu = some gpu).map Event.answer

theorem answersOn_cons_of_on [GPUDriver P] {now : SoftwareRuntime P}
    {action : GpuAction} {gpu : ObjectId} (hgpu : action.gpu = some gpu)
    (rest : List GpuAction) :
    answersOn gpu (Machine.trace gpuStep now (action :: rest)) =
      (gpuStep now action).1 ::
        answersOn gpu (Machine.trace gpuStep (gpuStep now action).2 rest) := by
  simp [answersOn, Machine.trace, Machine.event, hgpu]

theorem answersOn_cons_of_off [GPUDriver P] {now : SoftwareRuntime P}
    {action : GpuAction} {gpu : ObjectId} (hgpu : action.gpu ≠ some gpu)
    (rest : List GpuAction) :
    answersOn gpu (Machine.trace gpuStep now (action :: rest)) =
      answersOn gpu (Machine.trace gpuStep (gpuStep now action).2 rest) := by
  simp [answersOn, Machine.trace, Machine.event, hgpu]

/-- The actions that are left when all those on a GPU are deleted. -/
def without (gpu : ObjectId) (actions : List GpuAction) : List GpuAction :=
  actions.filter fun action => action.gpu ≠ some gpu

theorem without_cons_of_on {gpu : ObjectId} {action : GpuAction}
    (hgpu : action.gpu = some gpu) (rest : List GpuAction) :
    without gpu (action :: rest) = without gpu rest := by
  simp [without, hgpu]

theorem without_cons_of_off {gpu : ObjectId} {action : GpuAction}
    (hgpu : action.gpu ≠ some gpu) (rest : List GpuAction) :
    without gpu (action :: rest) = action :: without gpu rest := by
  simp [without, hgpu]

/-! ### Steps under another name -/

section Renamed

variable {name name' : ObjectId → ObjectId}

/-- Only the objects that a call names matter to it: the identifier of a queue
or of a stream is not looked at. -/
theorem perform_rename_congr {D : Type} [GpuDriver D] [GPUDriver P]
    {op : Op D} (hsame : ∀ id ∈ op.names, name id = name' id) :
    (perform (op.rename name) : Method Error (GraphicsRuntime D P) Reply) =
      perform (op.rename name') := by
  cases op with
  | submit queue stream timeline signalValue =>
      have hdevice := hsame stream.device (by simp [Op.names])
      have htimeline := hsame timeline (by simp [Op.names])
      have hops : stream.ops.map (GraphicsOp.rename name) =
          stream.ops.map (GraphicsOp.rename name') := by
        apply GraphicsOp.map_rename_congr
        intro id hid
        exact hsame id (List.mem_cons_of_mem _ (List.mem_cons_of_mem _ hid))
      simp only [Op.rename, CommandStream.rename, hdevice, htimeline, hops]
      rfl
  | createPipeline device shader workload =>
      have hdevice := hsame device (by simp [Op.names])
      have hshader := hsame shader (by simp [Op.names])
      simp only [Op.rename, hdevice, hshader]
  | _ => simp_all [Op.names, Op.rename]

theorem gpuStep_rename_congr [GPUDriver P] {action : GpuAction}
    {owned : ObjectId → List ObjectId} (hown : action.NamesOwn owned)
    (hsame : ∀ gpu, action.gpu = some gpu → ∀ id ∈ owned gpu,
      name id = name' id) (runtime : SoftwareRuntime P) :
    gpuStep runtime (action.rename name) =
      gpuStep runtime (action.rename name') := by
  cases action with
  | call gpu op =>
      have hnames : ∀ id ∈ op.names, name id = name' id :=
        fun id hid => hsame gpu rfl id (hown.2.2 id hid)
      exact congrFun (perform_rename_congr hnames) runtime
  | display op => rfl
  | inject gpu caps address description => rfl
  | vramAvailable gpu caps => rfl

end Renamed

end GraphicsRuntime

end SherGraphics
