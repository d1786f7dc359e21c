/-
A device as Vulkan describes it, and what it allows to be called.  Commands are
recorded first and take place once they are submitted, and what they wrote can
be read once their fence has been waited for.  Which objects are alive, and when
one may be destroyed, is told by the log of the calls and not by the state here.
Limits of the device and barriers to the host are left out.
-/
import SherGraphics.OffscreenReadback
import SherGraphics.RuleBook
import SherGraphics.Table

namespace SherGraphics

open VulkanContext

namespace AccessScope

/-- No access in any stage. -/
def nothing : AccessScope := ⟨0, 0⟩

/-- The scope has all that the other has. -/
def Covers (scope other : AccessScope) : Prop :=
  hasFlags scope.stages other.stages = true ∧
    hasFlags scope.accesses other.accesses = true

def union (scope other : AccessScope) : AccessScope :=
  ⟨scope.stages ||| other.stages, scope.accesses ||| other.accesses⟩

/-- There is a stage, and accesses by transfers come with theirs. -/
def Supported (scope : AccessScope) : Prop :=
  scope.stages ≠ 0 ∧
    (scope.accesses &&& (transferWrite.accesses ||| transferRead.accesses) ≠ 0 →
      hasFlags scope.stages transferWrite.stages = true)

instance (scope other : AccessScope) : Decidable (scope.Covers other) :=
  inferInstanceAs (Decidable (_ ∧ _))

instance (scope : AccessScope) : Decidable scope.Supported :=
  inferInstanceAs (Decidable (_ ∧ _))

end AccessScope

/-- `content` is the color that every texel has, where they are defined.
`pending` are the accesses that no barrier has followed, and `visible` those
that the last barrier was for. -/
structure ImageState where
  width : UInt32
  height : UInt32
  memory : Option (Handle .deviceMemory)
  layout : ImageLayout
  content : Option ClearColor
  pending : AccessScope
  visible : AccessScope

/-- An image that was just created. -/
def ImageState.fresh (width height : UInt32) : ImageState :=
  ⟨width, height, none, .undefined, none, .nothing, .nothing⟩

structure BufferState where
  size : UInt64
  memory : Option (Handle .deviceMemory)

/-- `mapped` is how much of the memory is mapped, and `bytes` what is defined
of its contents. -/
structure MemoryState where
  size : UInt64
  memoryType : Nat
  mapped : Option UInt64
  bytes : Nat → Option UInt8

inductive VkCommand where
  | pipelineBarrier (image : Handle .image) (oldLayout newLayout : ImageLayout)
      (source destination : AccessScope)
  | clearColorImage (image : Handle .image) (layout : ImageLayout)
      (color : ClearColor)
  | copyImageToBuffer (image : Handle .image) (layout : ImageLayout)
      (buffer : Handle .buffer) (width height : UInt32)

inductive CommandBufferState where
  | initial
  | recording (commands : List VkCommand)
  | executable (commands : List VkCommand)
  | invalid

inductive FenceState where
  | unsignaled
  | submitted
  | signaled

/-- All that the calls so far have come to.  `inFlight` are the fences of the
submissions that were not waited for. -/
structure Gpu where
  devices : Table (Handle .device) (PhysicalDevice × Nat)
  images : Table (Handle .image) ImageState
  buffers : Table (Handle .buffer) BufferState
  memories : Table (Handle .deviceMemory) MemoryState
  commandBuffers : Table (Handle .commandPool) CommandBufferState
  fences : Table (Handle .fence) FenceState
  inFlight : List (Handle .fence)

def Gpu.initial : Gpu :=
  ⟨.empty, .empty, .empty, .empty, .empty, .empty, []⟩

/-- The four bytes of a texel in the format of the image. -/
abbrev TexelFormat := ClearColor → Fin 4 → UInt8

/-- A byte of a picture that has one color everywhere. -/
def TexelFormat.byteAt (texel : TexelFormat) (color : ClearColor) (i : Nat) :
    UInt8 :=
  texel color (Fin.ofNat 4 i)

/-! ### Commands -/

namespace VkCommand

/-- The layouts are the ones the image is in, the image has memory, and a copy
lies within the image and the buffer.  A barrier waits for all that was done to
the image since the last one; a clear comes after a barrier that is for it and
nothing else, and a copy after one that is for it and no write. -/
def Allowed (gpu : Gpu) : VkCommand → Prop
  | .pipelineBarrier image oldLayout _ source destination =>
      source.Supported ∧ destination.Supported ∧
        ∃ state, gpu.images.get image = some state ∧
          state.memory.isSome = true ∧
          (oldLayout = .undefined ∨ state.layout = oldLayout) ∧
          source.Covers state.pending
  | .clearColorImage image layout _ =>
      ∃ state, gpu.images.get image = some state ∧ state.memory.isSome = true ∧
        state.layout = layout ∧ layout = .transferDstOptimal ∧
        state.visible.Covers transferWrite ∧ state.pending = .nothing
  | .copyImageToBuffer image layout buffer width height =>
      (∃ state, gpu.images.get image = some state ∧ state.memory.isSome = true ∧
        state.layout = layout ∧ layout = .transferSrcOptimal ∧
        width ≤ state.width ∧ height ≤ state.height ∧
        state.visible.Covers transferRead ∧
        state.pending.accesses &&& transferWrite.accesses = 0) ∧
      ∃ state, gpu.buffers.get buffer = some state ∧ state.memory.isSome = true ∧
        imageBytes width height ≤ state.size.toNat

/-- A transition from an undefined layout may discard what the image held. -/
def perform (texel : TexelFormat) (gpu : Gpu) : VkCommand → Gpu
  | .pipelineBarrier image oldLayout newLayout _ destination =>
      { gpu with images := gpu.images.modify image fun state =>
          { state with
            layout := newLayout
            content := if oldLayout = .undefined then none
              else state.content
            pending := .nothing
            visible := destination } }
  | .clearColorImage image _ color =>
      { gpu with images := gpu.images.modify image fun state =>
          { state with
            content := some color
            pending := state.pending.union transferWrite } }
  | .copyImageToBuffer image _ buffer width height =>
      match (gpu.buffers.get buffer).bind BufferState.memory with
      | none => gpu
      | some memory =>
          { gpu with
            images := gpu.images.modify image fun state =>
              { state with pending := state.pending.union transferRead }
            memories := gpu.memories.modify memory fun state =>
              { state with
                bytes := fun i =>
                  if i < imageBytes width height then
                    ((gpu.images.get image).bind ImageState.content).map
                      (texel.byteAt · i)
                  else state.bytes i } }

/-- Commands that take place one after the other. -/
def AllAllowed (texel : TexelFormat) (gpu : Gpu) : List VkCommand → Prop
  | [] => True
  | command :: rest => command.Allowed gpu ∧
      AllAllowed texel (command.perform texel gpu) rest

def performAll (texel : TexelFormat) (gpu : Gpu) (commands : List VkCommand) :
    Gpu :=
  commands.foldl (perform texel) gpu

end VkCommand

/-! ### Calls -/

namespace Gpu

/-- Add a command to the buffer that is being recorded. -/
def record (gpu : Gpu) (pool : Handle .commandPool) (command : VkCommand) : Gpu :=
  { gpu with commandBuffers := gpu.commandBuffers.modify pool fun
    | .recording commands => .recording (commands ++ [command])
    | other => other }

/-- The buffer is being recorded, for a queue that takes such commands. -/
def Records (outcomes : Outcomes) (gpu : Gpu) (device : Handle .device)
    (pool : Handle .commandPool) : Prop :=
  (∃ commands, gpu.commandBuffers.get pool = some (.recording commands)) ∧
    ∃ physical family flags, gpu.devices.get device = some (physical, family) ∧
      (outcomes.queueFamilies physical)[family]? = some flags ∧
      hasFlags flags graphicsAndTransfer = true

/-- The memory is of a type that the requirements list, and large enough. -/
def Suits (requirements : MemoryRequirements) (state : MemoryState) : Prop :=
  requirements.size ≤ state.size ∧
    (requirements.memoryTypeBits &&& (1 <<< UInt32.ofNat state.memoryType) !=
      0) = true

end Gpu

namespace VkCall

/-- The physical device was listed. -/
def Listed (outcomes : Outcomes) (physical : PhysicalDevice) : Prop :=
  ∃ listed, outcomes.physicalDevices = .ok listed ∧ physical ∈ listed

/-- The device has this extension. -/
def Advertised (outcomes : Outcomes) (extension : String) : Prop :=
  ∃ extensions, outcomes.deviceExtensions = .ok extensions ∧
    some extension ∈ extensions

/-- What Vulkan asks of a call, as far as it depends on the calls before it and
on what they returned.  What it asks of the objects that a call uses or destroys
is not in the state of the device, but in the log of the calls: see
`Lifetimes.Allowed` and `Permitted`. -/
def Allowed (outcomes : Outcomes) (texel : TexelFormat) (gpu : Gpu) :
    VkCall → Prop
  | .getPhysicalDeviceQueueFamilyProperties physical
  | .enumerateDeviceExtensionProperties physical _
  | .getPhysicalDeviceMemoryProperties physical => Listed outcomes physical
  | .createDevice physical family extensions _ =>
      Listed outcomes physical ∧
        family < (outcomes.queueFamilies physical).length ∧
        (∀ extension ∈ extensions, Advertised outcomes extension) ∧
        (Advertised outcomes portabilitySubset →
          portabilitySubset ∈ extensions)
  | .getDeviceQueue device family
  | .createCommandPool device family _ =>
      ∃ physical, gpu.devices.get device = some (physical, family)
  | .createImage _ width height _ => width ≠ 0 ∧ height ≠ 0
  | .createBuffer _ size _ => size ≠ 0
  | .allocateMemory device _ memoryType _ =>
      ∃ physical family, gpu.devices.get device = some (physical, family) ∧
        memoryType < (outcomes.memoryProperties physical).types.length
  | .bindImageMemory _ image memory _ =>
      ∃ state held, gpu.images.get image = some state ∧ state.memory = none ∧
        gpu.memories.get memory = some held ∧
        Gpu.Suits outcomes.imageRequirements held
  | .bindBufferMemory _ buffer memory _ =>
      ∃ state held, gpu.buffers.get buffer = some state ∧ state.memory = none ∧
        gpu.memories.get memory = some held ∧
        Gpu.Suits outcomes.bufferRequirements held
  | .beginCommandBuffer _ pool _ => gpu.commandBuffers.get pool = some .initial
  | .cmdPipelineBarrier device pool _ _ _ _ _
  | .cmdClearColorImage device pool _ _ _
  | .cmdCopyImageToBuffer device pool _ _ _ _ _ =>
      gpu.Records outcomes device pool
  | .endCommandBuffer _ pool _ =>
      ∃ commands, gpu.commandBuffers.get pool = some (.recording commands)
  | .queueSubmit _ pool fence _ =>
      gpu.fences.get fence = some .unsignaled ∧ ∃ commands,
        gpu.commandBuffers.get pool = some (.executable commands) ∧
        VkCommand.AllAllowed texel gpu commands
  | .waitForFences _ fence _ => gpu.fences.get fence = some .submitted
  | .mapMemory device memory size _ =>
      size ≠ 0 ∧ ∃ held physical family flags,
        gpu.memories.get memory = some held ∧ held.mapped = none ∧
        size ≤ held.size ∧ gpu.devices.get device = some (physical, family) ∧
        (outcomes.memoryProperties physical).types[held.memoryType]? =
          some flags ∧ hasFlags flags hostVisibleCoherent = true
  | .readMapped memory length =>
      gpu.inFlight = [] ∧ ∃ held size, gpu.memories.get memory = some held ∧
        held.mapped = some size ∧ length ≤ size.toNat
  | .unmapMemory _ memory =>
      ∃ held, gpu.memories.get memory = some held ∧ held.mapped.isSome = true
  | _ => True

/-- What comes of a call.  A recording that cannot be ended is lost. -/
def perform (texel : TexelFormat) (gpu : Gpu) : VkCall → Gpu
  | .createDevice physical family _ (.ok device) =>
      { gpu with devices := gpu.devices.insert device (physical, family) }
  | .createImage _ width height (.ok image) =>
      { gpu with
        images := gpu.images.insert image (.fresh width height) }
  | .allocateMemory _ size memoryType (.ok memory) =>
      { gpu with
        memories := gpu.memories.insert memory
          ⟨size, memoryType, none, fun _ => none⟩ }
  | .bindImageMemory _ image memory (.ok _) =>
      { gpu with images := gpu.images.modify image fun state =>
          { state with memory := some memory } }
  | .createBuffer _ size (.ok buffer) =>
      { gpu with buffers := gpu.buffers.insert buffer ⟨size, none⟩ }
  | .bindBufferMemory _ buffer memory (.ok _) =>
      { gpu with buffers := gpu.buffers.modify buffer fun state =>
          { state with memory := some memory } }
  | .allocateCommandBuffers _ pool (.ok _) =>
      { gpu with commandBuffers := gpu.commandBuffers.insert pool .initial }
  | .beginCommandBuffer _ pool (.ok _) =>
      { gpu with commandBuffers :=
          gpu.commandBuffers.insert pool (.recording []) }
  | .cmdPipelineBarrier _ pool image oldLayout newLayout source destination =>
      gpu.record pool
        (.pipelineBarrier image oldLayout newLayout source destination)
  | .cmdClearColorImage _ pool image layout color =>
      gpu.record pool (.clearColorImage image layout color)
  | .cmdCopyImageToBuffer _ pool image layout buffer width height =>
      gpu.record pool (.copyImageToBuffer image layout buffer width height)
  | .endCommandBuffer _ pool outcome =>
      { gpu with commandBuffers := gpu.commandBuffers.modify pool fun
          | .recording commands =>
              match outcome with
              | .ok _ => .executable commands
              | .error _ => .invalid
          | other => other }
  | .createFence _ (.ok fence) =>
      { gpu with fences := gpu.fences.insert fence .unsignaled }
  | .queueSubmit _ pool fence (.ok _) =>
      match gpu.commandBuffers.get pool with
      | some (.executable commands) =>
          let done := VkCommand.performAll texel gpu commands
          { done with
            commandBuffers := done.commandBuffers.insert pool .invalid
            fences := done.fences.insert fence .submitted
            inFlight := fence :: done.inFlight }
      | _ => gpu
  | .waitForFences _ fence (.ok _) =>
      { gpu with
        fences := gpu.fences.insert fence .signaled
        inFlight := gpu.inFlight.erase fence }
  | .mapMemory _ memory size (.ok _) =>
      { gpu with memories := gpu.memories.modify memory fun state =>
          { state with mapped := some size } }
  | .unmapMemory _ memory =>
      { gpu with memories := gpu.memories.modify memory fun state =>
          { state with mapped := none } }
  | _ => gpu

end VkCall

/-- The rules of a device that gives these answers. -/
def vulkanRules (outcomes : Outcomes) (texel : TexelFormat) :
    RuleBook Gpu VkCall where
  start := .initial
  perform := VkCall.perform texel
  Allowed := VkCall.Allowed outcomes texel

end SherGraphics
