/-
The application-facing object model of `graphics_api`: workload and memory
classes, resources, shaders, pipelines, command streams, queues, devices and
timelines, and the capability check in front of a privileged operation.
-/
import SherGraphics.KernelInterface

namespace SherGraphics

/-- Hardware workload classes. -/
inductive WorkloadClass where
  | graphics
  | compute
  | transfer
deriving DecidableEq, Repr

/-- GPU memory heap classes. -/
inductive MemoryClass where
  | deviceLocal
  | hostVisible
  | hostVisibleCached
  | deviceLocalHostVisible
deriving DecidableEq, Repr

inductive PixelFormat where
  | rgba8Unorm
  | bgra8Unorm
  | rgba16Float
  | depth32Float
deriving DecidableEq, Repr

structure BufferUsage where
  vertex : Bool := false
  index : Bool := false
  uniform : Bool := false
  storage : Bool := false
  transferSrc : Bool := false
  transferDst : Bool := false
deriving DecidableEq, Repr

structure ImageUsage where
  sampled : Bool := false
  storage : Bool := false
  colorAttachment : Bool := false
  depthAttachment : Bool := false
  transferSrc : Bool := false
  transferDst : Bool := false
deriving DecidableEq, Repr

/-- A buffer size is a `usize`; image dimensions are `u32`. -/
inductive ResourceKind where
  | buffer (size : Nat) (usage : BufferUsage)
  | image (width height depth : UInt32) (format : PixelFormat)
      (usage : ImageUsage)
deriving DecidableEq, Repr

structure Resource where
  id : ObjectId
  device : ObjectId
  kind : ResourceKind
  memoryClass : MemoryClass
deriving DecidableEq, Repr

inductive ShaderStage where
  | vertex
  | fragment
  | compute
deriving DecidableEq, Repr

structure ShaderModule where
  id : ObjectId
  device : ObjectId
  stage : ShaderStage
  ir : List UInt8
deriving DecidableEq, Repr

structure Pipeline where
  id : ObjectId
  device : ObjectId
  workload : WorkloadClass
  shader : ObjectId
deriving DecidableEq, Repr

/-- A single, portable, driver-independent command. -/
inductive GraphicsOp where
  | bindPipeline (pipeline : ObjectId)
  | bindResource (binding : UInt32) (resource : ObjectId)
  | draw (vertexCount instanceCount : UInt32)
  | dispatch (x y z : UInt32)
  | copy (src dst : ObjectId)
  | barrier
deriving DecidableEq, Repr

structure CommandStream where
  id : ObjectId
  device : ObjectId
  targetClass : WorkloadClass
  ops : List GraphicsOp
deriving DecidableEq, Repr

structure QueueHandle where
  id : ObjectId
  workload : WorkloadClass
deriving DecidableEq, Repr

structure GraphicsDevice where
  id : ObjectId
  gpu : ObjectId
  queues : List QueueHandle
deriving DecidableEq, Repr

/-- A monotonically increasing per-context counter; its values are `u64`. -/
structure Timeline where
  id : ObjectId
  device : ObjectId
  currentValue : Nat
deriving DecidableEq, Repr

/-- Checks that a capability set authorizes a GPU-facing operation. -/
def requireCapability (caps : CapabilitySet) (capability : Capability) :
    Result Unit :=
  if caps.hasCapability capability then .ok ()
  else .error (.security
    ("missing required capability: " ++ capability.debug))

/-- The check has two outcomes, and which one it is depends on the set's
answer for that capability alone. -/
theorem requireCapability_cases (caps : CapabilitySet)
    (capability : Capability) :
    (caps.hasCapability capability = true ∧
        requireCapability caps capability = .ok ()) ∨
      (caps.hasCapability capability = false ∧
        ∃ error, requireCapability caps capability = .error error) := by
  cases hcaps : caps.hasCapability capability with
  | true => exact Or.inl ⟨rfl, by simp [requireCapability, hcaps]⟩
  | false =>
      exact Or.inr ⟨rfl, _, by simp [requireCapability, hcaps]; rfl⟩

end SherGraphics
