/-
`render_clear_to_offscreen` of `vulkan_backend`.  Every Vulkan entry point it
calls is answered from a table of outcomes, and every call is written to a log
with its arguments.
-/
import Mathlib.Algebra.GroupWithZero.Nat
import SherGraphics.Lifetimes
import SherGraphics.MethodRules

namespace SherGraphics

/-- `vk::Result`. -/
structure VkResult where
  raw : Int32
deriving DecidableEq, Repr

def VkResult.errorDeviceLost : VkResult := ⟨-4⟩

inductive VulkanError where
  | loaderUnavailable (message : String)
  | vulkan (result : VkResult)
  | deviceLost (message : String)
  | noSuitableDevice (message : String)
  | invalidDimensions (width height : UInt32)
deriving DecidableEq, Repr

/-- `From<vk::Result>`.  The text of a code is not part of the repository. -/
def VulkanError.ofResult (text : VkResult → String) (result : VkResult) :
    VulkanError :=
  if result = .errorDeviceLost then .deviceLost (text result)
  else .vulkan result

/-- Why the rest of a function is not run. -/
inductive Stop where
  | failed (error : VulkanError)
  | panicked
deriving DecidableEq, Repr

/-- A panic is not an error that a caller sees. -/
def Stop.caught : Stop → Option VulkanError
  | .failed error => some error
  | .panicked => none

structure PhysicalDevice where
  raw : Nat
deriving DecidableEq, Repr

/-- What a call can create. -/
inductive VkKind where
  | device
  | image
  | buffer
  | deviceMemory
  | commandPool
  | fence
deriving DecidableEq, Repr

/-- The object that was created by the call at this position of the log. -/
structure Handle (kind : VkKind) where
  index : Nat
deriving DecidableEq, Repr

structure VkObject where
  kind : VkKind
  index : Nat
deriving DecidableEq, Repr

def Handle.object {kind : VkKind} (handle : Handle kind) : VkObject :=
  ⟨kind, handle.index⟩

inductive ImageLayout where
  | undefined
  | transferDstOptimal
  | transferSrcOptimal
deriving DecidableEq, Repr

/-- Stages of the pipeline, and kinds of access in them, as bit masks. -/
structure AccessScope where
  stages : UInt32
  accesses : UInt32
deriving DecidableEq, Repr

/-- The bits of four `f32`. -/
structure ClearColor where
  red : UInt32
  green : UInt32
  blue : UInt32
  alpha : UInt32
deriving DecidableEq, Repr

/-- A call with what it is given, and with the outcome where it can fail.  The
one command buffer is named by its pool, which it lives as long as.
`readMapped` is the copy out of the mapped memory, and no Vulkan call. -/
inductive VkCall where
  | enumeratePhysicalDevices (outcome : Except VkResult Unit)
  | getPhysicalDeviceQueueFamilyProperties (gpu : PhysicalDevice)
  | enumerateDeviceExtensionProperties (gpu : PhysicalDevice)
      (outcome : Except VkResult Unit)
  | createDevice (gpu : PhysicalDevice) (queueFamily : Nat)
      (extensions : List String) (outcome : Except VkResult (Handle .device))
  | getDeviceQueue (device : Handle .device) (queueFamily : Nat)
  | createImage (device : Handle .device) (width height : UInt32)
      (outcome : Except VkResult (Handle .image))
  | getImageMemoryRequirements (device : Handle .device)
      (image : Handle .image)
  | getPhysicalDeviceMemoryProperties (gpu : PhysicalDevice)
  | allocateMemory (device : Handle .device) (size : UInt64)
      (memoryType : Nat) (outcome : Except VkResult (Handle .deviceMemory))
  | bindImageMemory (device : Handle .device) (image : Handle .image)
      (memory : Handle .deviceMemory) (outcome : Except VkResult Unit)
  | createBuffer (device : Handle .device) (size : UInt64)
      (outcome : Except VkResult (Handle .buffer))
  | getBufferMemoryRequirements (device : Handle .device)
      (buffer : Handle .buffer)
  | bindBufferMemory (device : Handle .device) (buffer : Handle .buffer)
      (memory : Handle .deviceMemory) (outcome : Except VkResult Unit)
  | createCommandPool (device : Handle .device) (queueFamily : Nat)
      (outcome : Except VkResult (Handle .commandPool))
  | allocateCommandBuffers (device : Handle .device)
      (pool : Handle .commandPool) (outcome : Except VkResult Unit)
  | beginCommandBuffer (device : Handle .device) (pool : Handle .commandPool)
      (outcome : Except VkResult Unit)
  | cmdPipelineBarrier (device : Handle .device) (pool : Handle .commandPool)
      (image : Handle .image) (oldLayout newLayout : ImageLayout)
      (source destination : AccessScope)
  | cmdClearColorImage (device : Handle .device) (pool : Handle .commandPool)
      (image : Handle .image) (layout : ImageLayout) (color : ClearColor)
  | cmdCopyImageToBuffer (device : Handle .device)
      (pool : Handle .commandPool) (image : Handle .image)
      (layout : ImageLayout) (buffer : Handle .buffer) (width height : UInt32)
  | endCommandBuffer (device : Handle .device) (pool : Handle .commandPool)
      (outcome : Except VkResult Unit)
  | createFence (device : Handle .device)
      (outcome : Except VkResult (Handle .fence))
  | queueSubmit (device : Handle .device) (pool : Handle .commandPool)
      (fence : Handle .fence) (outcome : Except VkResult Unit)
  | waitForFences (device : Handle .device) (fence : Handle .fence)
      (outcome : Except VkResult Unit)
  | mapMemory (device : Handle .device) (memory : Handle .deviceMemory)
      (size : UInt64) (outcome : Except VkResult Unit)
  | readMapped (memory : Handle .deviceMemory) (length : Nat)
  | unmapMemory (device : Handle .device) (memory : Handle .deviceMemory)
  | destroyFence (device : Handle .device) (fence : Handle .fence)
  | destroyCommandPool (device : Handle .device) (pool : Handle .commandPool)
  | destroyBuffer (device : Handle .device) (buffer : Handle .buffer)
  | destroyImage (device : Handle .device) (image : Handle .image)
  | freeMemory (device : Handle .device) (memory : Handle .deviceMemory)
  | destroyDevice (device : Handle .device)
deriving DecidableEq, Repr

/-- `vk::MemoryRequirements`. -/
structure MemoryRequirements where
  size : UInt64
  memoryTypeBits : UInt32
deriving DecidableEq, Repr

/-- The property flags of the memory types, of which there are at most 32. -/
structure MemoryProperties where
  types : List UInt32
  count_le : types.length ≤ 32

/-- What the calls return.  Each of them is made at most once. -/
structure Outcomes where
  physicalDevices : Except VkResult (List PhysicalDevice)
  queueFamilies : PhysicalDevice → List UInt32
  deviceExtensions : Except VkResult (List (Option String))
  createDevice : Except VkResult Unit
  createImage : Except VkResult Unit
  imageRequirements : MemoryRequirements
  memoryProperties : PhysicalDevice → MemoryProperties
  allocateImageMemory : Except VkResult Unit
  bindImageMemory : Except VkResult Unit
  createBuffer : Except VkResult Unit
  bufferRequirements : MemoryRequirements
  allocateBufferMemory : Except VkResult Unit
  bindBufferMemory : Except VkResult Unit
  createCommandPool : Except VkResult Unit
  allocateCommandBuffers : Except VkResult Unit
  beginCommandBuffer : Except VkResult Unit
  endCommandBuffer : Except VkResult Unit
  createFence : Except VkResult Unit
  queueSubmit : Except VkResult Unit
  waitForFences : Except VkResult Unit
  mapMemory : Except VkResult Unit
  mappedByte : Nat → UInt8
  text : VkResult → String

namespace VulkanContext

/-- The function's state is the log of the calls it made. -/
abbrev Render := Method Stop (List VkCall)

def hasFlags (flags required : UInt32) : Bool := flags &&& required == required

/-- `QueueFlags::GRAPHICS | QueueFlags::TRANSFER`. -/
def graphicsAndTransfer : UInt32 := 1 ||| 4

/-- `MemoryPropertyFlags::DEVICE_LOCAL`. -/
def deviceLocal : UInt32 := 1

/-- `MemoryPropertyFlags::HOST_VISIBLE | MemoryPropertyFlags::HOST_COHERENT`. -/
def hostVisibleCoherent : UInt32 := 2 ||| 4

/-- Nothing before the commands, `PipelineStageFlags::TOP_OF_PIPE`. -/
def beforeAll : AccessScope := ⟨0x1, 0⟩

/-- `PipelineStageFlags::TRANSFER` and `AccessFlags::TRANSFER_WRITE`. -/
def transferWrite : AccessScope := ⟨0x1000, 0x1000⟩

/-- `PipelineStageFlags::TRANSFER` and `AccessFlags::TRANSFER_READ`. -/
def transferRead : AccessScope := ⟨0x1000, 0x800⟩

def portabilitySubset : String := "VK_KHR_portability_subset"

def findMemoryType (props : MemoryProperties) (typeBits required : UInt32) :
    Option Nat :=
  (List.range props.types.length).find? fun index =>
    typeBits &&& (1 <<< UInt32.ofNat index) != 0 &&
      hasFlags ((props.types[index]?).getD 0) required

/-- The dimensions and the product are `u64`, and wrap. -/
def bufferSize (width height : UInt32) : UInt64 :=
  width.toUInt64 * height.toUInt64 * 4

/-! ### Calling Vulkan -/

/-- A call that cannot fail. -/
def tell (call : VkCall) : Render Unit :=
  Method.change fun log => log ++ [call]

section Calls

variable (outcomes : Outcomes)

def stop (result : VkResult) : Stop :=
  .failed (.ofResult outcomes.text result)

/-- A call that may fail. -/
def ask {α : Type} (outcome : Except VkResult α)
    (call : Except VkResult Unit → VkCall) : Render α :=
  fun log =>
    (outcome.mapError (stop outcomes),
      log ++ [call (outcome.map fun _ => ())])

/-- A call that creates an object or fails. -/
def create {kind : VkKind} (outcome : Except VkResult Unit)
    (call : Except VkResult (Handle kind) → VkCall) : Render (Handle kind) :=
  fun log =>
    let made : Except VkResult (Handle kind) :=
      outcome.map fun _ => ⟨log.length⟩
    (made.mapError (stop outcomes), log ++ [call made])

end Calls

variable (outcomes : Outcomes) (device : Handle .device)

def destroyImage (image : Handle .image) : Render Unit :=
  tell (.destroyImage device image)

def destroyBuffer (buffer : Handle .buffer) : Render Unit :=
  tell (.destroyBuffer device buffer)

def freeMemory (memory : Handle .deviceMemory) : Render Unit :=
  tell (.freeMemory device memory)

def destroyCommandPool (pool : Handle .commandPool) : Render Unit :=
  tell (.destroyCommandPool device pool)

def cleanupImage (image : Handle .image) (memory : Handle .deviceMemory) :
    Render Unit := do
  destroyImage device image
  freeMemory device memory

def cleanupBuffer (buffer : Handle .buffer) (memory : Handle .deviceMemory) :
    Render Unit := do
  destroyBuffer device buffer
  freeMemory device memory

/-- A step of `render_clear_inner` whose failure is cleaned up after. -/
def orCleanUp {α : Type} (step : Render α) (cleanup : Render Unit) : Render α :=
  Method.onError Stop.caught step cleanup

/-! ### `render_clear_inner`, in its order -/

/-- The image and its memory. -/
def makeImage (gpu : PhysicalDevice) (width height : UInt32) :
    Render (Handle .image × Handle .deviceMemory) := do
  let image ← create outcomes outcomes.createImage
    (.createImage device width height)
  tell (.getImageMemoryRequirements device image)
  tell (.getPhysicalDeviceMemoryProperties gpu)
  let imageMemType ← orCleanUp
    (Method.okOr
      (findMemoryType (outcomes.memoryProperties gpu)
        outcomes.imageRequirements.memoryTypeBits deviceLocal)
      (.failed (.noSuitableDevice "no DEVICE_LOCAL memory type for image")))
    (destroyImage device image)
  let imageMemory ← orCleanUp
    (create outcomes outcomes.allocateImageMemory
      (.allocateMemory device outcomes.imageRequirements.size imageMemType))
    (destroyImage device image)
  orCleanUp
    (ask outcomes outcomes.bindImageMemory
      (.bindImageMemory device image imageMemory))
    (do
      freeMemory device imageMemory
      destroyImage device image)
  pure (image, imageMemory)

/-- The readback buffer. -/
def makeBuffer (width height : UInt32) (image : Handle .image)
    (imageMemory : Handle .deviceMemory) : Render (Handle .buffer) :=
  orCleanUp
    (create outcomes outcomes.createBuffer
      (.createBuffer device (bufferSize width height)))
    (cleanupImage device image imageMemory)

/-- The memory of the readback buffer. -/
def makeBufferMemory (gpu : PhysicalDevice) (image : Handle .image)
    (imageMemory : Handle .deviceMemory) (readbackBuffer : Handle .buffer) :
    Render (Handle .deviceMemory) := do
  tell (.getBufferMemoryRequirements device readbackBuffer)
  let bufferMemType ← orCleanUp
    (Method.okOr
      (findMemoryType (outcomes.memoryProperties gpu)
        outcomes.bufferRequirements.memoryTypeBits hostVisibleCoherent)
      (.failed (.noSuitableDevice
        "no HOST_VISIBLE|HOST_COHERENT memory type for readback buffer")))
    (do
      destroyBuffer device readbackBuffer
      cleanupImage device image imageMemory)
  let bufferMemory ← orCleanUp
    (create outcomes outcomes.allocateBufferMemory
      (.allocateMemory device outcomes.bufferRequirements.size bufferMemType))
    (do
      destroyBuffer device readbackBuffer
      cleanupImage device image imageMemory)
  orCleanUp
    (ask outcomes outcomes.bindBufferMemory
      (.bindBufferMemory device readbackBuffer bufferMemory))
    (do
      freeMemory device bufferMemory
      destroyBuffer device readbackBuffer
      cleanupImage device image imageMemory)
  pure bufferMemory

/-- What the command buffer does. -/
def recordCommands (pool : Handle .commandPool) (image : Handle .image)
    (readbackBuffer : Handle .buffer) (width height : UInt32)
    (color : ClearColor) : Render Unit := do
  ask outcomes outcomes.beginCommandBuffer (.beginCommandBuffer device pool)
  tell (.cmdPipelineBarrier device pool image .undefined .transferDstOptimal
    beforeAll transferWrite)
  tell (.cmdClearColorImage device pool image .transferDstOptimal color)
  tell (.cmdPipelineBarrier device pool image .transferDstOptimal
    .transferSrcOptimal transferWrite transferRead)
  tell (.cmdCopyImageToBuffer device pool image .transferSrcOptimal
    readbackBuffer width height)
  ask outcomes outcomes.endCommandBuffer (.endCommandBuffer device pool)

/-- What every failure from here on cleans up first. -/
def cleanupBoth (image : Handle .image) (imageMemory : Handle .deviceMemory)
    (readbackBuffer : Handle .buffer) (bufferMemory : Handle .deviceMemory) :
    Render Unit := do
  cleanupBuffer device readbackBuffer bufferMemory
  cleanupImage device image imageMemory

/-- The command pool, with the recorded commands. -/
def makeCommands (queueFamily : Nat) (width height : UInt32)
    (color : ClearColor) (image : Handle .image)
    (imageMemory : Handle .deviceMemory) (readbackBuffer : Handle .buffer)
    (bufferMemory : Handle .deviceMemory) : Render (Handle .commandPool) := do
  let commandPool ← orCleanUp
    (create outcomes outcomes.createCommandPool
      (.createCommandPool device queueFamily))
    (cleanupBoth device image imageMemory readbackBuffer bufferMemory)
  orCleanUp
    (ask outcomes outcomes.allocateCommandBuffers
      (.allocateCommandBuffers device commandPool))
    (do
      destroyCommandPool device commandPool
      cleanupBoth device image imageMemory readbackBuffer bufferMemory)
  orCleanUp
    (recordCommands outcomes device commandPool image readbackBuffer width
      height color)
    (do
      destroyCommandPool device commandPool
      cleanupBoth device image imageMemory readbackBuffer bufferMemory)
  pure commandPool

def makeFence (commandPool : Handle .commandPool) (image : Handle .image)
    (imageMemory : Handle .deviceMemory) (readbackBuffer : Handle .buffer)
    (bufferMemory : Handle .deviceMemory) : Render (Handle .fence) :=
  orCleanUp (create outcomes outcomes.createFence (.createFence device))
    (do
      destroyCommandPool device commandPool
      cleanupBoth device image imageMemory readbackBuffer bufferMemory)

/-- `slice::from_raw_parts(mapped_ptr, buffer_size).to_vec()`, which panics for
more than `isize::MAX` bytes. -/
def readMapped (bufferMemory : Handle .deviceMemory) (length : Nat) :
    Render (List UInt8) :=
  fun log =>
    (if length < 2 ^ 63 then .ok ((List.range length).map outcomes.mappedByte)
      else .error .panicked,
      log ++ [.readMapped bufferMemory length])

/-- Submit the commands, wait for them, and read what they wrote. -/
def submitAndRead (commandPool : Handle .commandPool) (fence : Handle .fence)
    (bufferMemory : Handle .deviceMemory) (width height : UInt32) :
    Render (List UInt8) := do
  ask outcomes outcomes.queueSubmit (.queueSubmit device commandPool fence)
  ask outcomes outcomes.waitForFences (.waitForFences device fence)
  ask outcomes outcomes.mapMemory
    (.mapMemory device bufferMemory (bufferSize width height))
  let bytes ← readMapped outcomes bufferMemory (bufferSize width height).toNat
  tell (.unmapMemory device bufferMemory)
  pure bytes

/-- What is destroyed last, whatever came of the submission. -/
def tearDown (image : Handle .image) (imageMemory : Handle .deviceMemory)
    (readbackBuffer : Handle .buffer) (bufferMemory : Handle .deviceMemory)
    (commandPool : Handle .commandPool) (fence : Handle .fence) :
    Render Unit := do
  tell (.destroyFence device fence)
  destroyCommandPool device commandPool
  cleanupBoth device image imageMemory readbackBuffer bufferMemory

/-- The last part: submit, read and tear down. -/
def finish (image : Handle .image) (imageMemory : Handle .deviceMemory)
    (readbackBuffer : Handle .buffer) (bufferMemory : Handle .deviceMemory)
    (commandPool : Handle .commandPool) (fence : Handle .fence)
    (width height : UInt32) : Render (List UInt8) := do
  let pixels ← Method.attempt Stop.caught
    (submitAndRead outcomes device commandPool fence bufferMemory width height)
  tearDown device image imageMemory readbackBuffer bufferMemory commandPool
    fence
  Method.ofResult (pixels.mapError .failed)

def renderClearInner (gpu : PhysicalDevice) (queueFamily : Nat)
    (width height : UInt32) (color : ClearColor) : Render (List UInt8) := do
  tell (.getDeviceQueue device queueFamily)
  let (image, imageMemory) ← makeImage outcomes device gpu width height
  let readbackBuffer ← makeBuffer outcomes device width height image imageMemory
  let bufferMemory ← makeBufferMemory outcomes device gpu image imageMemory
    readbackBuffer
  let commandPool ← makeCommands outcomes device queueFamily width height color
    image imageMemory readbackBuffer bufferMemory
  let fence ← makeFence outcomes device commandPool image imageMemory
    readbackBuffer bufferMemory
  finish outcomes device image imageMemory readbackBuffer bufferMemory
    commandPool fence width height

/-! ### `render_clear_to_offscreen` -/

/-- The first physical device and its first queue family for graphics and
transfers. -/
def chooseQueue : Render (PhysicalDevice × Nat) := do
  let physicalDevices ← ask outcomes outcomes.physicalDevices
    .enumeratePhysicalDevices
  let gpu ← Method.okOr physicalDevices.head?
    (.failed (.noSuitableDevice
      "vkEnumeratePhysicalDevices returned zero devices"))
  tell (.getPhysicalDeviceQueueFamilyProperties gpu)
  let queueFamily ← Method.okOr
    ((outcomes.queueFamilies gpu).findIdx? (hasFlags · graphicsAndTransfer))
    (.failed (.noSuitableDevice "no queue family supports GRAPHICS | TRANSFER"))
  pure (gpu, queueFamily)

def makeDevice (gpu : PhysicalDevice) (queueFamily : Nat) :
    Render (Handle .device) := do
  let deviceExtensions ← ask outcomes outcomes.deviceExtensions
    (.enumerateDeviceExtensionProperties gpu)
  let enabled := if some portabilitySubset ∈ deviceExtensions
    then [portabilitySubset] else []
  create outcomes outcomes.createDevice (.createDevice gpu queueFamily enabled)

def renderClearToOffscreen (width height : UInt32) (color : ClearColor) :
    Render (List UInt8) := do
  Method.rejectIf (width = 0 ∨ height = 0)
    (.failed (.invalidDimensions width height))
  let (gpu, queueFamily) ← chooseQueue outcomes
  let device ← makeDevice outcomes gpu queueFamily
  let result ← Method.attempt Stop.caught
    (renderClearInner outcomes device gpu queueFamily width height color)
  tell (.destroyDevice device)
  Method.ofResult (result.mapError .failed)

/-- A whole session: what it returns, and the calls it made. -/
def session (width height : UInt32) (color : ClearColor) :
    Except Stop (List UInt8) × List VkCall :=
  renderClearToOffscreen outcomes width height color []

end VulkanContext

end SherGraphics
