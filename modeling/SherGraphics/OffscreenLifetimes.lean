/-
The objects of an offscreen render.  Whatever the Vulkan calls return, each
object that the render creates is destroyed once, after its last use.
-/
import SherGraphics.OffscreenRender

namespace SherGraphics

/-! ### What each call does with objects -/

/-- The object of a successful creation. -/
def madeObject {kind : VkKind} (outcome : Except VkResult (Handle kind)) :
    Option VkObject :=
  match outcome with
  | .ok handle => some handle.object
  | .error _ => none

namespace VkCall

def uses : VkCall → List VkObject
  | .enumeratePhysicalDevices _
  | .getPhysicalDeviceQueueFamilyProperties _
  | .enumerateDeviceExtensionProperties _ _
  | .createDevice _ _ _ _
  | .getPhysicalDeviceMemoryProperties _ => []
  | .getDeviceQueue device _
  | .createImage device _ _ _
  | .allocateMemory device _ _ _
  | .createBuffer device _ _
  | .createCommandPool device _ _
  | .createFence device _
  | .destroyDevice device => [device.object]
  | .getImageMemoryRequirements device image
  | .destroyImage device image => [device.object, image.object]
  | .getBufferMemoryRequirements device buffer
  | .destroyBuffer device buffer => [device.object, buffer.object]
  | .bindImageMemory device image memory _ =>
      [device.object, image.object, memory.object]
  | .bindBufferMemory device buffer memory _ =>
      [device.object, buffer.object, memory.object]
  | .allocateCommandBuffers device pool _
  | .beginCommandBuffer device pool _
  | .endCommandBuffer device pool _
  | .destroyCommandPool device pool => [device.object, pool.object]
  | .cmdPipelineBarrier device pool image _ _ _ _
  | .cmdClearColorImage device pool image _ _ =>
      [device.object, pool.object, image.object]
  | .cmdCopyImageToBuffer device pool image _ buffer _ _ =>
      [device.object, pool.object, image.object, buffer.object]
  | .queueSubmit device pool fence _ =>
      [device.object, pool.object, fence.object]
  | .waitForFences device fence _
  | .destroyFence device fence => [device.object, fence.object]
  | .mapMemory device memory _ _
  | .unmapMemory device memory
  | .freeMemory device memory => [device.object, memory.object]
  | .readMapped memory _ => [memory.object]

def creates : VkCall → Option VkObject
  | .createDevice _ _ _ outcome => madeObject outcome
  | .createImage _ _ _ outcome => madeObject outcome
  | .allocateMemory _ _ _ outcome => madeObject outcome
  | .createBuffer _ _ outcome => madeObject outcome
  | .createCommandPool _ _ outcome => madeObject outcome
  | .createFence _ outcome => madeObject outcome
  | _ => none

def destroys : VkCall → Option VkObject
  | .destroyDevice device => some device.object
  | .destroyImage _ image => some image.object
  | .destroyBuffer _ buffer => some buffer.object
  | .freeMemory _ memory => some memory.object
  | .destroyCommandPool _ pool => some pool.object
  | .destroyFence _ fence => some fence.object
  | _ => none

def maps : VkCall → Option VkObject
  | .mapMemory _ memory _ (.ok _) => some memory.object
  | _ => none

def unmaps : VkCall → Option VkObject
  | .unmapMemory _ memory => some memory.object
  | _ => none

/-- All objects but the device itself are created from a device. -/
def parent : VkCall → Option VkObject
  | .createImage device _ _ _
  | .allocateMemory device _ _ _
  | .createBuffer device _ _
  | .createCommandPool device _ _
  | .createFence device _ => some device.object
  | _ => none

theorem kind_of_parent {call : VkCall} {source : VkObject}
    (hparent : call.parent = some source) : source.kind = .device := by
  cases call <;> simp [parent] at hparent <;> (rw [← hparent]; rfl)

end VkCall

instance : ObjectCalls VkCall VkObject where
  uses := VkCall.uses
  creates := VkCall.creates
  destroys := VkCall.destroys
  maps := VkCall.maps
  unmaps := VkCall.unmaps
  parent := VkCall.parent
  parent_uses call object hparent := by
    cases call <;> simp_all [VkCall.parent, VkCall.uses]
  destroys_uses call object hdestroys := by
    cases call <;> simp_all [VkCall.destroys, VkCall.uses]

namespace VulkanContext

open Lifetimes Method

/-- The log is lawful, these objects are alive and mapped, and no object has
the number of a call still to come. -/
structure Holds (live mapped : List VkObject) (log : List VkCall) : Prop where
  owns : Owns log live mapped
  numbered : ∀ object, Created log object → object.index < log.length

/-- The call neither creates, destroys, maps nor unmaps. -/
structure Idle (call : VkCall) : Prop where
  creates : call.creates = none
  destroys : call.destroys = none
  maps : call.maps = none
  unmaps : call.unmaps = none

namespace Holds

variable {live rest mapped : List VkObject} {log : List VkCall}
  {call : VkCall} {object : VkObject}

theorem perm (hholds : Holds live mapped log) (hperm : live.Perm rest) :
    Holds rest mapped log :=
  ⟨hholds.owns.perm hperm, hholds.numbered⟩

/-- A call that creates nothing numbers nothing. -/
theorem numbered_concat (hholds : Holds live mapped log)
    (hcreates : call.creates = none) :
    ∀ object, Created (log ++ [call]) object →
      object.index < (log ++ [call]).length := by
  intro object hcreated
  rw [created_concat] at hcreated
  have hold := hholds.numbered object
    (hcreated.resolve_right (by simp [ObjectCalls.creates, hcreates]))
  rw [List.length_append]
  omega

theorem use (hholds : Holds live mapped log) (hidle : Idle call)
    (huses : call.uses ⊆ live) : Holds live mapped (log ++ [call]) where
  owns := hholds.owns.use (fun _ hused => huses hused) hidle.creates
    hidle.destroys hidle.maps hidle.unmaps
  numbered := hholds.numbered_concat hidle.creates

theorem create (hholds : Holds live mapped log)
    (hcreates : call.creates = some object) (hindex : object.index = log.length)
    (huses : call.uses ⊆ live) (hdestroys : call.destroys = none)
    (hmaps : call.maps = none) (hunmaps : call.unmaps = none) :
    Holds (object :: live) mapped (log ++ [call]) where
  owns := by
    refine hholds.owns.create (fun _ hused => huses hused) hcreates ?_
      hdestroys hmaps hunmaps
    intro hcreated
    have hlt := hholds.numbered object hcreated
    omega
  numbered := by
    intro other hother
    rw [List.length_append]
    rcases created_concat.mp hother with hold | hnew
    · exact Nat.lt_add_right _ (hholds.numbered other hold)
    · have hsame : other = object :=
        Option.some.inj (hnew.symm.trans hcreates)
      simp [hsame, hindex]

theorem destroy (hholds : Holds (object :: rest) [] log)
    (hdestroys : call.destroys = some object)
    (huses : call.uses ⊆ object :: rest)
    (hchildless : object.kind ≠ .device ∨ rest = [])
    (hcreates : call.creates = none) (hmaps : call.maps = none)
    (hunmaps : call.unmaps = none) : Holds rest [] (log ++ [call]) where
  owns := by
    refine hholds.owns.destroy (fun _ hused => huses hused) hdestroys
      List.not_mem_nil ?_ hcreates hmaps hunmaps
    rintro child hchild hmem
    rcases hchildless with hkind | rfl
    · obtain ⟨source, -, -, hparent⟩ := hchild
      exact hkind (VkCall.kind_of_parent hparent)
    · rw [List.mem_singleton.mp hmem] at hchild
      exact hholds.owns.lawful.not_createdFrom_self object hchild
  numbered := hholds.numbered_concat hcreates

theorem map (hholds : Holds live mapped log)
    (hmaps : call.maps = some object) (huses : call.uses ⊆ live)
    (hcreates : call.creates = none) (hdestroys : call.destroys = none)
    (hunmaps : call.unmaps = none) :
    Holds live (object :: mapped) (log ++ [call]) where
  owns := hholds.owns.map (fun _ hused => huses hused) hmaps hcreates
    hdestroys hunmaps
  numbered := hholds.numbered_concat hcreates

theorem unmap (hholds : Holds live [object] log)
    (hunmaps : call.unmaps = some object) (huses : call.uses ⊆ live)
    (hcreates : call.creates = none) (hdestroys : call.destroys = none)
    (hmaps : call.maps = none) : Holds live [] (log ++ [call]) where
  owns := hholds.owns.unmap (fun _ hused => huses hused) hunmaps hcreates
    hdestroys hmaps
  numbered := hholds.numbered_concat hcreates

end Holds

/-! ### What each way of calling ensures -/

section Ways

variable {live rest mapped : List VkObject} {failed : List VkCall → Prop}
  {call : VkCall} {object : VkObject} (outcomes : Outcomes)

theorem ensures_tell (hidle : Idle call) (huses : call.uses ⊆ live) :
    Ensures Stop.caught (Holds live mapped) (tell call)
      (fun _ => Holds live mapped) failed :=
  Ensures.change fun _ hholds => hholds.use hidle huses

theorem ensures_destroy (hdestroys : call.destroys = some object)
    (huses : call.uses ⊆ object :: rest)
    (hchildless : object.kind ≠ .device ∨ rest = [])
    (hcreates : call.creates = none) (hmaps : call.maps = none)
    (hunmaps : call.unmaps = none) :
    Ensures Stop.caught (Holds (object :: rest) []) (tell call)
      (fun _ => Holds rest []) failed :=
  Ensures.change fun _ hholds =>
    hholds.destroy hdestroys huses hchildless hcreates hmaps hunmaps

theorem ensures_ask {α : Type} {outcome : Except VkResult α}
    {entry : Except VkResult Unit → VkCall}
    (hidle : ∀ outcome, Idle (entry outcome))
    (huses : ∀ outcome, (entry outcome).uses ⊆ live) :
    Ensures Stop.caught (Holds live mapped) (ask outcomes outcome entry)
      (fun _ => Holds live mapped) (Holds live mapped) := by
  intro log hholds
  cases outcome with
  | ok value => exact hholds.use (hidle _) (huses _)
  | error result => exact fun _ => hholds.use (hidle _) (huses _)

/-- A creation adds its object, or fails and adds none. -/
theorem ensures_create {kind : VkKind} {outcome : Except VkResult Unit}
    {entry : Except VkResult (Handle kind) → VkCall}
    (hcreates : ∀ outcome, (entry outcome).creates = madeObject outcome)
    (huses : ∀ outcome, (entry outcome).uses ⊆ live)
    (hdestroys : ∀ outcome, (entry outcome).destroys = none)
    (hmaps : ∀ outcome, (entry outcome).maps = none)
    (hunmaps : ∀ outcome, (entry outcome).unmaps = none) :
    Ensures Stop.caught (Holds live mapped) (create outcomes outcome entry)
      (fun handle => Holds (handle.object :: live) mapped)
      (Holds live mapped) := by
  intro log hholds
  cases outcome with
  | ok value =>
      exact hholds.create (hcreates _) rfl (huses _) (hdestroys _) (hmaps _)
        (hunmaps _)
  | error result =>
      exact fun _ => hholds.use
        ⟨hcreates _, hdestroys _, hmaps _, hunmaps _⟩ (huses _)

end Ways

/-! ### Cleaning up -/

section Cleanup

variable (failed : List VkCall → Prop) {device : Handle .device}
  {live rest mapped : List VkObject}

/-- The order of the live objects is of no account. -/
theorem ensures_reorder {α : Type} {method : Render α}
    {post : α → List VkCall → Prop} (hperm : live.Perm rest)
    (hensures : Ensures Stop.caught (Holds rest mapped) method post failed) :
    Ensures Stop.caught (Holds live mapped) method post failed :=
  hensures.weaken (fun _ hholds => hholds.perm hperm) (fun _ _ hpost => hpost)
    fun _ hfailed => hfailed

theorem ensures_destroyImage (image : Handle .image)
    (hdevice : device.object ∈ rest) :
    Ensures Stop.caught (Holds (image.object :: rest) [])
      (destroyImage device image) (fun _ => Holds rest []) failed := by
  refine ensures_destroy rfl ?_ (Or.inl nofun) rfl rfl rfl
  simp [VkCall.uses, hdevice]

theorem ensures_destroyBuffer (buffer : Handle .buffer)
    (hdevice : device.object ∈ rest) :
    Ensures Stop.caught (Holds (buffer.object :: rest) [])
      (destroyBuffer device buffer) (fun _ => Holds rest []) failed := by
  refine ensures_destroy rfl ?_ (Or.inl nofun) rfl rfl rfl
  simp [VkCall.uses, hdevice]

theorem ensures_freeMemory (memory : Handle .deviceMemory)
    (hdevice : device.object ∈ rest) :
    Ensures Stop.caught (Holds (memory.object :: rest) [])
      (freeMemory device memory) (fun _ => Holds rest []) failed := by
  refine ensures_destroy rfl ?_ (Or.inl nofun) rfl rfl rfl
  simp [VkCall.uses, hdevice]

theorem ensures_destroyCommandPool (pool : Handle .commandPool)
    (hdevice : device.object ∈ rest) :
    Ensures Stop.caught (Holds (pool.object :: rest) [])
      (destroyCommandPool device pool) (fun _ => Holds rest []) failed := by
  refine ensures_destroy rfl ?_ (Or.inl nofun) rfl rfl rfl
  simp [VkCall.uses, hdevice]

theorem ensures_cleanupImage (image : Handle .image)
    (memory : Handle .deviceMemory) (hdevice : device.object ∈ rest) :
    Ensures Stop.caught (Holds (memory.object :: image.object :: rest) [])
      (cleanupImage device image memory) (fun _ => Holds rest []) failed := by
  refine ensures_reorder failed (.swap _ _ _) ?_
  have himage := ensures_destroyImage failed image
    (List.mem_cons_of_mem memory.object hdevice)
  exact himage.bind fun _ => ensures_freeMemory failed memory hdevice

theorem ensures_cleanupBuffer (buffer : Handle .buffer)
    (memory : Handle .deviceMemory) (hdevice : device.object ∈ rest) :
    Ensures Stop.caught (Holds (memory.object :: buffer.object :: rest) [])
      (cleanupBuffer device buffer memory) (fun _ => Holds rest [])
      failed := by
  refine ensures_reorder failed (.swap _ _ _) ?_
  have hbuffer := ensures_destroyBuffer failed buffer
    (List.mem_cons_of_mem memory.object hdevice)
  exact hbuffer.bind fun _ => ensures_freeMemory failed memory hdevice

end Cleanup

/-! ### The parts of the render -/

section Parts

variable (outcomes : Outcomes) (device : Handle .device)
  (image : Handle .image) (imageMemory : Handle .deviceMemory)
  (readbackBuffer : Handle .buffer) (bufferMemory : Handle .deviceMemory)

/-- The image with its memory, and the device. -/
def imageObjects : List VkObject :=
  [imageMemory.object, image.object, device.object]

/-- The readback buffer with its memory, and all that was there before. -/
def bufferObjects : List VkObject :=
  bufferMemory.object :: readbackBuffer.object ::
    imageObjects device image imageMemory

theorem device_mem_imageObjects :
    device.object ∈ imageObjects device image imageMemory := by
  simp [imageObjects]

theorem device_mem_bufferObjects :
    device.object ∈ bufferObjects device image imageMemory readbackBuffer
      bufferMemory := by
  simp [bufferObjects, imageObjects]

theorem ensures_makeImage (gpu : PhysicalDevice) (width height : UInt32) :
    Ensures Stop.caught (Holds [device.object] [])
      (makeImage outcomes device gpu width height)
      (fun made => Holds (imageObjects device made.1 made.2) [])
      (Holds [device.object] []) := by
  have hdevice : device.object ∈ [device.object] := List.mem_singleton_self _
  refine (ensures_create outcomes (fun _ => rfl) (by simp [VkCall.uses])
    (fun _ => rfl) (fun _ => rfl) fun _ => rfl).bind fun image => ?_
  refine (ensures_tell ⟨rfl, rfl, rfl, rfl⟩
    (by simp [VkCall.uses])).bind fun _ => ?_
  refine (ensures_tell ⟨rfl, rfl, rfl, rfl⟩
    (by simp [VkCall.uses])).bind fun _ => ?_
  have hdestroy := ensures_destroyImage (Holds [device.object] []) image
    hdevice
  refine (Ensures.onError (Ensures.okOr (fun _ _ _ hholds => hholds)
    fun _ hholds => hholds) hdestroy).bind fun memoryType => ?_
  refine (Ensures.onError (ensures_create outcomes (fun _ => rfl)
    (by simp [VkCall.uses]) (fun _ => rfl) (fun _ => rfl) fun _ => rfl)
    hdestroy).bind fun imageMemory => ?_
  refine (Ensures.onError (ensures_ask outcomes
    (fun _ => ⟨rfl, rfl, rfl, rfl⟩) (by simp [VkCall.uses]))
    ((ensures_freeMemory _ imageMemory (by simp)).bind fun _ =>
      hdestroy)).bind fun _ => ?_
  exact Ensures.pure fun _ hholds => hholds

theorem ensures_makeBuffer (width height : UInt32) :
    Ensures Stop.caught (Holds (imageObjects device image imageMemory) [])
      (makeBuffer outcomes device width height image imageMemory)
      (fun readbackBuffer => Holds
        (readbackBuffer.object :: imageObjects device image imageMemory) [])
      (Holds [device.object] []) := by
  have hdevice := device_mem_imageObjects device image imageMemory
  have hclean := ensures_cleanupImage (Holds [device.object] []) image
    imageMemory (List.mem_singleton_self device.object)
  exact Ensures.onError (ensures_create outcomes (fun _ => rfl)
    (by simp [VkCall.uses, hdevice]) (fun _ => rfl) (fun _ => rfl)
    fun _ => rfl) hclean

theorem ensures_makeBufferMemory (gpu : PhysicalDevice) :
    Ensures Stop.caught
      (Holds (readbackBuffer.object :: imageObjects device image imageMemory)
        [])
      (makeBufferMemory outcomes device gpu image imageMemory readbackBuffer)
      (fun bufferMemory => Holds (bufferObjects device image imageMemory
        readbackBuffer bufferMemory) [])
      (Holds [device.object] []) := by
  have hdevice := device_mem_imageObjects device image imageMemory
  have hclean := ensures_cleanupImage (Holds [device.object] []) image
    imageMemory (List.mem_singleton_self device.object)
  refine (ensures_tell ⟨rfl, rfl, rfl, rfl⟩
    (by simp [VkCall.uses, hdevice])).bind fun _ => ?_
  have hdestroy := (ensures_destroyBuffer (Holds [device.object] [])
    readbackBuffer hdevice).bind fun _ => hclean
  refine (Ensures.onError (Ensures.okOr (fun _ _ _ hholds => hholds)
    fun _ hholds => hholds) hdestroy).bind fun memoryType => ?_
  refine (Ensures.onError (ensures_create outcomes (fun _ => rfl)
    (by simp [VkCall.uses, hdevice]) (fun _ => rfl) (fun _ => rfl)
    fun _ => rfl) hdestroy).bind fun bufferMemory => ?_
  refine (Ensures.onError (ensures_ask outcomes
    (fun _ => ⟨rfl, rfl, rfl, rfl⟩) (by simp [VkCall.uses, hdevice]))
    ((ensures_freeMemory _ bufferMemory (by simp [hdevice])).bind fun _ =>
      hdestroy)).bind fun _ => ?_
  exact Ensures.pure fun _ hholds => hholds

theorem ensures_cleanupBoth (failed : List VkCall → Prop) :
    Ensures Stop.caught
      (Holds (bufferObjects device image imageMemory readbackBuffer
        bufferMemory) [])
      (cleanupBoth device image imageMemory readbackBuffer bufferMemory)
      (fun _ => Holds [device.object] []) failed := by
  have hdevice := device_mem_imageObjects device image imageMemory
  have hbuffer := ensures_cleanupBuffer failed readbackBuffer bufferMemory
    hdevice
  exact hbuffer.bind fun _ =>
    ensures_cleanupImage failed image imageMemory (List.mem_singleton_self _)

/-- The pool goes before everything else. -/
theorem ensures_cleanupPool (failed : List VkCall → Prop)
    (commandPool : Handle .commandPool) :
    Ensures Stop.caught
      (Holds (commandPool.object :: bufferObjects device image imageMemory
        readbackBuffer bufferMemory) [])
      (do
        destroyCommandPool device commandPool
        cleanupBoth device image imageMemory readbackBuffer bufferMemory)
      (fun _ => Holds [device.object] []) failed := by
  have hdevice := device_mem_bufferObjects device image imageMemory
    readbackBuffer bufferMemory
  have hpool := ensures_destroyCommandPool failed commandPool hdevice
  exact hpool.bind fun _ => ensures_cleanupBoth device image imageMemory
    readbackBuffer bufferMemory failed

theorem ensures_recordCommands {live : List VkObject}
    (commandPool : Handle .commandPool) (width height : UInt32)
    (color : ClearColor) (hdevice : device.object ∈ live)
    (hpool : commandPool.object ∈ live) (himage : image.object ∈ live)
    (hbuffer : readbackBuffer.object ∈ live) :
    Ensures Stop.caught (Holds live [])
      (recordCommands outcomes device commandPool image readbackBuffer width
        height color) (fun _ => Holds live []) (Holds live []) := by
  have hask : ∀ {outcome : Except VkResult Unit}
      {entry : Except VkResult Unit → VkCall},
      (∀ outcome, Idle (entry outcome)) →
        (∀ outcome, (entry outcome).uses =
          [device.object, commandPool.object]) →
        Ensures Stop.caught (Holds live []) (ask outcomes outcome entry)
          (fun _ => Holds live []) (Holds live []) := by
    intro outcome entry hidle huses
    exact ensures_ask outcomes hidle (by simp [huses, hdevice, hpool])
  refine (hask (fun _ => ⟨rfl, rfl, rfl, rfl⟩) fun _ => rfl).bind fun _ => ?_
  refine (ensures_tell ⟨rfl, rfl, rfl, rfl⟩
    (by simp [VkCall.uses, hdevice, hpool, himage])).bind fun _ => ?_
  refine (ensures_tell ⟨rfl, rfl, rfl, rfl⟩
    (by simp [VkCall.uses, hdevice, hpool, himage])).bind fun _ => ?_
  refine (ensures_tell ⟨rfl, rfl, rfl, rfl⟩
    (by simp [VkCall.uses, hdevice, hpool, himage])).bind fun _ => ?_
  refine (ensures_tell ⟨rfl, rfl, rfl, rfl⟩
    (by simp [VkCall.uses, hdevice, hpool, himage, hbuffer])).bind fun _ => ?_
  exact hask (fun _ => ⟨rfl, rfl, rfl, rfl⟩) fun _ => rfl

/-- The pool and all that was there before. -/
def commandObjects (commandPool : Handle .commandPool) : List VkObject :=
  commandPool.object ::
    bufferObjects device image imageMemory readbackBuffer bufferMemory

theorem ensures_makeCommands (queueFamily : Nat) (width height : UInt32)
    (color : ClearColor) :
    Ensures Stop.caught
      (Holds (bufferObjects device image imageMemory readbackBuffer
        bufferMemory) [])
      (makeCommands outcomes device queueFamily width height color image
        imageMemory readbackBuffer bufferMemory)
      (fun commandPool => Holds (commandObjects device image imageMemory
        readbackBuffer bufferMemory commandPool) [])
      (Holds [device.object] []) := by
  have hdevice := device_mem_bufferObjects device image imageMemory
    readbackBuffer bufferMemory
  refine (Ensures.onError (ensures_create outcomes (fun _ => rfl)
    (by simp [VkCall.uses, hdevice]) (fun _ => rfl) (fun _ => rfl)
    fun _ => rfl) (ensures_cleanupBoth device image imageMemory readbackBuffer
      bufferMemory _)).bind fun commandPool => ?_
  have hclean := ensures_cleanupPool device image imageMemory readbackBuffer
    bufferMemory (Holds [device.object] []) commandPool
  refine (Ensures.onError (ensures_ask outcomes
    (fun _ => ⟨rfl, rfl, rfl, rfl⟩) (by simp [VkCall.uses, hdevice]))
    hclean).bind fun _ => ?_
  have hrecord := ensures_recordCommands outcomes device image readbackBuffer
    commandPool width height color (List.mem_cons_of_mem _ hdevice)
    List.mem_cons_self (by simp [bufferObjects, imageObjects])
    (by simp [bufferObjects])
  refine (Ensures.onError hrecord hclean).bind fun _ => ?_
  exact Ensures.pure fun _ hholds => hholds

theorem ensures_makeFence (commandPool : Handle .commandPool) :
    Ensures Stop.caught
      (Holds (commandObjects device image imageMemory readbackBuffer
        bufferMemory commandPool) [])
      (makeFence outcomes device commandPool image imageMemory readbackBuffer
        bufferMemory)
      (fun fence => Holds (fence.object :: commandObjects device image
        imageMemory readbackBuffer bufferMemory commandPool) [])
      (Holds [device.object] []) := by
  have hdevice := device_mem_bufferObjects device image imageMemory
    readbackBuffer bufferMemory
  exact Ensures.onError (ensures_create outcomes (fun _ => rfl)
    (by simp [VkCall.uses, commandObjects, hdevice]) (fun _ => rfl)
    (fun _ => rfl) fun _ => rfl)
    (ensures_cleanupPool device image imageMemory readbackBuffer bufferMemory
      _ commandPool)

/-- Copying out of mapped memory fails only by a panic. -/
theorem ensures_readMapped {live mapped : List VkObject}
    (failed : List VkCall → Prop) (memory : Handle .deviceMemory)
    (length : Nat) (hmemory : memory.object ∈ live) :
    Ensures Stop.caught (Holds live mapped) (readMapped outcomes memory length)
      (fun _ => Holds live mapped) failed := by
  intro log hholds
  have hread : Holds live mapped (log ++ [.readMapped memory length]) :=
    hholds.use ⟨rfl, rfl, rfl, rfl⟩ (by simpa [VkCall.uses] using hmemory)
  rw [readMapped]
  by_cases hsmall : length < 2 ^ 63
  · rw [if_pos hsmall]
    exact hread
  · rw [if_neg hsmall]
    intro hcaught
    cases hcaught

theorem ensures_submitAndRead {live : List VkObject}
    (commandPool : Handle .commandPool) (fence : Handle .fence)
    (width height : UInt32) (hdevice : device.object ∈ live)
    (hmemory : bufferMemory.object ∈ live)
    (hpool : commandPool.object ∈ live) (hfence : fence.object ∈ live) :
    Ensures Stop.caught (Holds live [])
      (submitAndRead outcomes device commandPool fence bufferMemory width
        height) (fun _ => Holds live []) (Holds live []) := by
  refine (ensures_ask outcomes (fun _ => ⟨rfl, rfl, rfl, rfl⟩)
    (by simp [VkCall.uses, hdevice, hpool, hfence])).bind fun _ => ?_
  refine (ensures_ask outcomes (fun _ => ⟨rfl, rfl, rfl, rfl⟩)
    (by simp [VkCall.uses, hdevice, hfence])).bind fun _ => ?_
  have huses : ∀ size outcome,
      (VkCall.mapMemory device bufferMemory size outcome).uses ⊆ live := by
    simp [VkCall.uses, hdevice, hmemory]
  have hmap : Ensures Stop.caught (Holds live [])
      (ask outcomes outcomes.mapMemory
        (.mapMemory device bufferMemory (bufferSize width height)))
      (fun _ => Holds live [bufferMemory.object]) (Holds live []) := by
    intro log hholds
    rw [ask]
    cases outcomes.mapMemory with
    | ok value => exact hholds.map rfl (huses _ _) rfl rfl rfl
    | error result =>
        exact fun _ => hholds.use ⟨rfl, rfl, rfl, rfl⟩ (huses _ _)
  refine hmap.bind fun _ => ?_
  refine (ensures_readMapped outcomes _ bufferMemory _ hmemory).bind
    fun bytes => ?_
  have hunmap : Ensures Stop.caught (Holds live [bufferMemory.object])
      (tell (.unmapMemory device bufferMemory)) (fun _ => Holds live [])
      (Holds live []) :=
    Ensures.change fun _ hholds => hholds.unmap rfl
      (by simp [VkCall.uses, hdevice, hmemory]) rfl rfl rfl
  exact hunmap.bind fun _ => Ensures.pure fun _ hholds => hholds

theorem ensures_tearDown (failed : List VkCall → Prop)
    (commandPool : Handle .commandPool) (fence : Handle .fence) :
    Ensures Stop.caught
      (Holds (fence.object :: commandObjects device image imageMemory
        readbackBuffer bufferMemory commandPool) [])
      (tearDown device image imageMemory readbackBuffer bufferMemory
        commandPool fence)
      (fun _ => Holds [device.object] []) failed := by
  have hdevice := device_mem_bufferObjects device image imageMemory
    readbackBuffer bufferMemory
  refine (ensures_destroy rfl (by simp [VkCall.uses, commandObjects, hdevice])
    (Or.inl (by simp [Handle.object])) rfl rfl rfl).bind fun _ => ?_
  exact ensures_cleanupPool device image imageMemory readbackBuffer
    bufferMemory failed commandPool

theorem ensures_finish (commandPool : Handle .commandPool)
    (fence : Handle .fence) (width height : UInt32) :
    Ensures Stop.caught
      (Holds (fence.object :: commandObjects device image imageMemory
        readbackBuffer bufferMemory commandPool) [])
      (finish outcomes device image imageMemory readbackBuffer bufferMemory
        commandPool fence width height)
      (fun _ => Holds [device.object] []) (Holds [device.object] []) := by
  have hdevice := device_mem_bufferObjects device image imageMemory
    readbackBuffer bufferMemory
  let all := fence.object :: commandObjects device image imageMemory
    readbackBuffer bufferMemory commandPool
  have hread : Ensures Stop.caught (Holds all [])
      (submitAndRead outcomes device commandPool fence bufferMemory width
        height) (fun _ => Holds all []) (Holds all []) :=
    ensures_submitAndRead outcomes device bufferMemory commandPool fence width
      height (by simp [all, commandObjects, hdevice])
      (by simp [all, commandObjects, bufferObjects])
      (by simp [all, commandObjects]) List.mem_cons_self
  have hpixels : Ensures Stop.caught (Holds all [])
      (attempt Stop.caught (submitAndRead outcomes device commandPool fence
        bufferMemory width height)) (fun _ => Holds all [])
      (Holds [device.object] []) :=
    Ensures.attempt (hread.weaken (fun _ hholds => hholds)
      (fun _ _ hholds => hholds) fun _ hholds _ => hholds)
  refine hpixels.bind fun pixels => ?_
  refine (ensures_tearDown device image imageMemory readbackBuffer
    bufferMemory _ commandPool fence).bind fun _ => ?_
  exact Ensures.ofResult (fun _ _ _ hholds => hholds) fun _ hholds => hholds

/-- The inner function leaves nothing but the device. -/
theorem ensures_renderClearInner (gpu : PhysicalDevice) (queueFamily : Nat)
    (width height : UInt32) (color : ClearColor) :
    Ensures Stop.caught (Holds [device.object] [])
      (renderClearInner outcomes device gpu queueFamily width height color)
      (fun _ => Holds [device.object] []) (Holds [device.object] []) := by
  refine (ensures_tell ⟨rfl, rfl, rfl, rfl⟩
    (by simp [VkCall.uses])).bind fun _ => ?_
  refine (ensures_makeImage outcomes device gpu width height).bind ?_
  rintro ⟨image, imageMemory⟩
  refine (ensures_makeBuffer outcomes device image imageMemory width
    height).bind fun readbackBuffer => ?_
  refine (ensures_makeBufferMemory outcomes device image imageMemory
    readbackBuffer gpu).bind fun bufferMemory => ?_
  refine (ensures_makeCommands outcomes device image imageMemory
    readbackBuffer bufferMemory queueFamily width height color).bind
    fun commandPool => ?_
  refine (ensures_makeFence outcomes device image imageMemory readbackBuffer
    bufferMemory commandPool).bind fun fence => ?_
  exact ensures_finish outcomes device image imageMemory readbackBuffer
    bufferMemory commandPool fence width height

theorem ensures_chooseQueue :
    Ensures Stop.caught (Holds [] []) (chooseQueue outcomes)
      (fun _ => Holds [] []) (Holds [] []) := by
  refine (ensures_ask outcomes (fun _ => ⟨rfl, rfl, rfl, rfl⟩)
    (by simp [VkCall.uses])).bind fun physicalDevices => ?_
  refine (Ensures.okOr (fun _ _ _ hholds => hholds)
    fun _ hholds => hholds).bind fun gpu => ?_
  refine (ensures_tell ⟨rfl, rfl, rfl, rfl⟩
    (by simp [VkCall.uses])).bind fun _ => ?_
  refine (Ensures.okOr (fun _ _ _ hholds => hholds)
    fun _ hholds => hholds).bind fun queueFamily => ?_
  exact Ensures.pure fun _ hholds => hholds

theorem ensures_makeDevice (gpu : PhysicalDevice) (queueFamily : Nat) :
    Ensures Stop.caught (Holds [] []) (makeDevice outcomes gpu queueFamily)
      (fun device => Holds [device.object] []) (Holds [] []) := by
  refine (ensures_ask outcomes (fun _ => ⟨rfl, rfl, rfl, rfl⟩)
    (by simp [VkCall.uses])).bind fun deviceExtensions => ?_
  exact ensures_create outcomes (fun _ => rfl) (by simp [VkCall.uses])
    (fun _ => rfl) (fun _ => rfl) fun _ => rfl

/-- The device goes last. -/
theorem ensures_renderClearToOffscreen (width height : UInt32)
    (color : ClearColor) :
    Ensures Stop.caught (Holds [] [])
      (renderClearToOffscreen outcomes width height color)
      (fun _ => Holds [] []) (Holds [] []) := by
  have hreject : Ensures Stop.caught (Holds [] [])
      (rejectIf (width = 0 ∨ height = 0)
        (.failed (.invalidDimensions width height)))
      (fun _ => Holds [] []) (Holds [] []) := by
    intro log hholds
    rw [rejectIf_run]
    by_cases hzero : width = 0 ∨ height = 0
    · rw [if_pos hzero]
      exact fun _ => hholds
    · rw [if_neg hzero]
      exact hholds
  refine hreject.bind fun _ => ?_
  refine (ensures_chooseQueue outcomes).bind ?_
  rintro ⟨gpu, queueFamily⟩
  refine (ensures_makeDevice outcomes gpu queueFamily).bind fun device => ?_
  have hinner := ensures_renderClearInner outcomes device gpu queueFamily width
    height color
  have hresult : Ensures Stop.caught (Holds [device.object] [])
      (attempt Stop.caught (renderClearInner outcomes device gpu queueFamily
        width height color)) (fun _ => Holds [device.object] [])
      (Holds [] []) :=
    Ensures.attempt (hinner.weaken (fun _ hholds => hholds)
      (fun _ _ hholds => hholds) fun _ hholds _ => hholds)
  refine hresult.bind fun result => ?_
  refine (ensures_destroy rfl (by simp [VkCall.uses]) (Or.inr rfl) rfl rfl
    rfl).bind fun _ => ?_
  exact Ensures.ofResult (fun _ _ _ hholds => hholds) fun _ hholds => hholds

end Parts

/-- Whatever the dimensions, the colour and the outcomes of the calls: when the
function returns, what it created was destroyed exactly once, no call used an
object before its creation or after its destruction, no memory was freed while
it was mapped, and the device went after all that was created from it. -/
theorem session_cleanedUp (outcomes : Outcomes) (width height : UInt32)
    (color : ClearColor)
    (hreturns : (session outcomes width height color).1 ≠ .error .panicked) :
    CleanedUp (session outcomes width height color).2 := by
  have hstart : Holds [] [] [] := ⟨owns_nil, by simp [Created]⟩
  have hended := ensures_renderClearToOffscreen outcomes width height color []
    hstart
  rw [session] at hreturns ⊢
  generalize renderClearToOffscreen outcomes width height color [] = ended
    at hended hreturns ⊢
  obtain ⟨result, log⟩ := ended
  cases result with
  | ok pixels => exact hended.owns.cleanedUp
  | error stop =>
      cases stop with
      | failed error => exact (hended rfl).owns.cleanedUp
      | panicked => exact absurd rfl hreturns

namespace OnePixel

/-- One device with one memory type for each use, and no call fails. -/
def healthy : Outcomes where
  physicalDevices := .ok [⟨0⟩]
  queueFamilies _ := [graphicsAndTransfer]
  deviceExtensions := .ok []
  createDevice := .ok ()
  createImage := .ok ()
  imageRequirements := ⟨4, 1⟩
  memoryProperties _ := ⟨[deviceLocal, hostVisibleCoherent], by decide⟩
  allocateImageMemory := .ok ()
  bindImageMemory := .ok ()
  createBuffer := .ok ()
  bufferRequirements := ⟨4, 2⟩
  allocateBufferMemory := .ok ()
  bindBufferMemory := .ok ()
  createCommandPool := .ok ()
  allocateCommandBuffers := .ok ()
  beginCommandBuffer := .ok ()
  endCommandBuffer := .ok ()
  createFence := .ok ()
  queueSubmit := .ok ()
  waitForFences := .ok ()
  mapMemory := .ok ()
  mappedByte _ := 255
  text _ := ""

/-- The submission is refused, after everything has been created. -/
def refused : Outcomes :=
  { healthy with queueSubmit := .error .errorDeviceLost }

theorem refused_cleanedUp :
    (session refused 1 1 ⟨0, 0, 0, 0⟩).1 = .error (.failed (.deviceLost "")) ∧
      CleanedUp (session refused 1 1 ⟨0, 0, 0, 0⟩).2 := by
  have hfails : (session refused 1 1 ⟨0, 0, 0, 0⟩).1 =
      .error (.failed (.deviceLost "")) := by decide
  refine ⟨hfails, session_cleanedUp refused 1 1 ⟨0, 0, 0, 0⟩ ?_⟩
  rw [hfails]
  exact nofun

end OnePixel

end VulkanContext

end SherGraphics
