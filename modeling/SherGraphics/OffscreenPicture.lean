/-
What an offscreen render returns: its commands take place when they are
submitted, and what it reads once they are done is the picture of one color.
-/
import SherGraphics.OffscreenUsage

namespace SherGraphics

namespace VulkanContext

open Method RuleBook

variable {outcomes : Outcomes} {texel : TexelFormat} {before : List VkCall}
  {device : Handle .device} {physical : PhysicalDevice} {queueFamily : Nat}
  {width height : UInt32} {color : ClearColor} {image : Handle .image}
  {imageMemory : Handle .deviceMemory} {readbackBuffer : Handle .buffer}
  {bufferMemory : Handle .deviceMemory} {commandPool : Handle .commandPool}
  {fence : Handle .fence}

/-- An image of this size, with this color in every texel. -/
def picture (texel : TexelFormat) (width height : UInt32)
    (color : ClearColor) : List UInt8 :=
  (List.range (imageBytes width height)).map (texel.byteAt color)

/-- A memory that starts with the picture. -/
def pictureBytes (texel : TexelFormat) (width height : UInt32)
    (color : ClearColor) (i : Nat) : Option UInt8 :=
  if i < imageBytes width height then some (texel.byteAt color i) else none

/-! ### The commands take place -/

section Submission

/-- The barriers name stages that there are, the first waits for nothing, and
the second for the clear. -/
theorem scopes_suit :
    beforeAll.Supported ∧ transferWrite.Supported ∧ transferRead.Supported ∧
      beforeAll.Covers .nothing ∧ transferWrite.Covers transferWrite ∧
      transferRead.Covers transferRead ∧
      AccessScope.nothing.union transferWrite = transferWrite ∧
      AccessScope.nothing.accesses &&& transferWrite.accesses = 0 := by
  decide

/-- What the recorded commands need is there, and this is what they do. -/
theorem performAll_renderCommands {gpu : Gpu}
    (himage : gpu.images.get image = some (blank width height imageMemory))
    (hbuffer : gpu.buffers.get readbackBuffer =
      some ⟨bufferSize width height, some bufferMemory⟩)
    (hsize : imageBytes width height ≤ (bufferSize width height).toNat) :
    VkCommand.AllAllowed texel gpu
        (renderCommands image readbackBuffer width height color) ∧
      ∃ images, VkCommand.performAll texel gpu
          (renderCommands image readbackBuffer width height color) =
        { gpu with
          images
          memories := gpu.memories.modify bufferMemory fun state =>
            { state with
              bytes := fun i =>
                if i < imageBytes width height then
                  some (texel.byteAt color i)
                else state.bytes i } } := by
  obtain ⟨hbefore, hwrite, hread, hnothing, hclear, hcopy, hcleared,
    hunwritten⟩ := scopes_suit
  constructor
  · simp [renderCommands, VkCommand.AllAllowed, VkCommand.Allowed,
      VkCommand.perform, Table.get_modify, himage, hbuffer, blank,
      ImageState.fresh, hsize, hbefore, hwrite, hread, hnothing, hclear, hcopy,
      hcleared, hunwritten]
  · simp [renderCommands, VkCommand.performAll, VkCommand.perform,
      Table.get_modify, himage, hbuffer, blank, ImageState.fresh]

/-- The picture is in the memory once the fence has been waited for. -/
structure InFlight (outcomes : Outcomes) (device : Handle .device)
    (physical : PhysicalDevice) (queueFamily : Nat)
    (memory : Handle .deviceMemory) (bytes : Nat → Option UInt8)
    (fence : Handle .fence) (gpu : Gpu) : Prop where
  device : gpu.devices.get device = some (physical, queueFamily)
  memory : ReadableMemory outcomes physical memory none bytes gpu
  submitted : gpu.fences.get fence = some .submitted
  inFlight : gpu.inFlight = [fence]

/-- Nothing is in flight, and this can be read from the memory. -/
structure Finished (outcomes : Outcomes) (device : Handle .device)
    (physical : PhysicalDevice) (queueFamily : Nat)
    (memory : Handle .deviceMemory) (mapped : Option UInt64)
    (bytes : Nat → Option UInt8) (gpu : Gpu) : Prop extends
    Opened device physical queueFamily gpu where
  memory : ReadableMemory outcomes physical memory mapped bytes gpu

theorem usage_queueSubmit (hfits : Fits outcomes width height) :
    Ensures some
      (At outcomes texel before (Prepared outcomes device physical queueFamily
        image (blank width height imageMemory) readbackBuffer
        ⟨bufferSize width height, some bufferMemory⟩ bufferMemory commandPool
        (.executable (renderCommands image readbackBuffer width height color))
        fence))
      (ask outcomes outcomes.queueSubmit
        (.queueSubmit device commandPool fence))
      (fun _ => At outcomes texel before (InFlight outcomes device physical
        queueFamily bufferMemory (pictureBytes texel width height color) fence))
      (Lawfully outcomes texel before) := by
  refine usage_request (fun gpu _ h => ?_) fun gpu h => ?_
  · obtain ⟨hallowed, -⟩ := performAll_renderCommands h.image h.buffer
      (Nat.le_of_eq hfits.size.symm)
    exact ⟨h.fence, _, h.commands, hallowed⟩
  · obtain ⟨-, images, hperformed⟩ := performAll_renderCommands h.image h.buffer
      (Nat.le_of_eq hfits.size.symm)
    obtain ⟨memoryType, flags, hmemory, hsuits⟩ := h.memory
    have hdone : VkCall.perform texel gpu
        (.queueSubmit device commandPool fence (.ok ())) =
          { gpu with
            images
            memories := gpu.memories.modify bufferMemory fun state =>
              { state with
                bytes := fun i =>
                  if i < imageBytes width height then
                    some (texel.byteAt color i)
                  else state.bytes i }
            commandBuffers := gpu.commandBuffers.insert commandPool .invalid
            fences := gpu.fences.insert fence .submitted
            inFlight := fence :: gpu.inFlight } := by
      rw [VkCall.perform, h.commands]
      dsimp only
      rw [hperformed]
    rw [hdone]
    refine ⟨h.device, ⟨memoryType, flags, ?_, hsuits⟩, ?_, ?_⟩
    · rw [Table.get_modify, if_pos rfl, hmemory]
      rfl
    · exact Table.get_insert_self ..
    · simp [h.idle]

theorem usage_waitForFences {bytes : Nat → Option UInt8} :
    Ensures some
      (At outcomes texel before (InFlight outcomes device physical queueFamily
        bufferMemory bytes fence))
      (ask outcomes outcomes.waitForFences (.waitForFences device fence))
      (fun _ => At outcomes texel before (Finished outcomes device physical
        queueFamily bufferMemory none bytes))
      (Lawfully outcomes texel before) := by
  refine usage_request (fun gpu _ h => h.submitted) fun gpu h => ?_
  exact ⟨⟨h.device, by simp [VkCall.perform, h.inFlight]⟩, h.memory⟩

theorem usage_mapMemory (hfits : Fits outcomes width height)
    (hsize : width ≠ 0 ∧ height ≠ 0) {bytes : Nat → Option UInt8} :
    Ensures some
      (At outcomes texel before (Finished outcomes device physical queueFamily
        bufferMemory none bytes))
      (ask outcomes outcomes.mapMemory
        (.mapMemory device bufferMemory (bufferSize width height)))
      (fun _ => At outcomes texel before (Finished outcomes device physical
        queueFamily bufferMemory (some (bufferSize width height)) bytes))
      (Lawfully outcomes texel before) := by
  refine usage_request (fun gpu _ h => ?_) fun gpu h => ?_
  · obtain ⟨memoryType, flags, hmemory, -, hflags, hcoherent⟩ := h.memory
    exact ⟨hfits.ne_zero hsize, _, physical, queueFamily, flags, hmemory, rfl,
      hfits.required, h.device, hflags, hcoherent⟩
  · obtain ⟨memoryType, flags, hmemory, hsuits⟩ := h.memory
    refine ⟨⟨h.device, h.idle⟩, memoryType, flags, ?_, hsuits⟩
    simp [VkCall.perform, Table.get_modify, hmemory]

end Submission

/-! ### What is read -/

section Reading

/-- A byte of mapped memory that is defined is read as it is. -/
def Coherent (outcomes : Outcomes) (texel : TexelFormat)
    (before log : List VkCall) : Prop :=
  ∀ calls memory length later,
    log = before ++ calls ++ .readMapped memory length :: later →
      ∀ held, ((vulkanRules outcomes texel).after calls).memories.get memory =
          some held →
        ∀ i < length, ∀ byte, held.bytes i = some byte →
          outcomes.mappedByte i = byte

theorem Coherent.shorten {log more : List VkCall}
    (hcoherent : Coherent outcomes texel before (log ++ more)) :
    Coherent outcomes texel before log := by
  intro calls memory length later hlog
  exact hcoherent calls memory length (later ++ more) (by simp [hlog])

/-- The pixels are those of the picture, if what was read is what is there. -/
def Shows (outcomes : Outcomes) (texel : TexelFormat) (before : List VkCall)
    (width height : UInt32) (color : ClearColor) (pixels : List UInt8)
    (log : List VkCall) : Prop :=
  Coherent outcomes texel before log →
    pixels = picture texel width height color

theorem Shows.append {pixels : List UInt8} {log : List VkCall}
    (hshows : Shows outcomes texel before width height color pixels log)
    (more : List VkCall) :
    Shows outcomes texel before width height color pixels (log ++ more) :=
  fun hcoherent => hshows hcoherent.shorten

theorem usage_readMapped (hfits : Fits outcomes width height) :
    Ensures some
      (At outcomes texel before (Finished outcomes device physical queueFamily
        bufferMemory (some (bufferSize width height))
        (pictureBytes texel width height color)))
      (readMapped outcomes bufferMemory (bufferSize width height).toNat)
      (fun pixels log =>
        Shows outcomes texel before width height color pixels log ∧
        At outcomes texel before (Finished outcomes device physical queueFamily
          bufferMemory (some (bufferSize width height))
          (pictureBytes texel width height color)) log)
      (Lawfully outcomes texel before) := by
  intro log hat
  have hread : At outcomes texel before (Finished outcomes device physical
      queueFamily bufferMemory (some (bufferSize width height))
      (pictureBytes texel width height color))
      (log ++ [.readMapped bufferMemory (bufferSize width height).toNat]) := by
    refine hat.take (fun gpu h => ?_) fun gpu h => h
    obtain ⟨memoryType, flags, hmemory, -⟩ := h.memory
    exact ⟨h.idle, _, _, hmemory, rfl, Nat.le_refl _⟩
  rw [readMapped]
  by_cases hlong : (bufferSize width height).toNat < 2 ^ 63
  · rw [if_pos hlong]
    refine ⟨fun hcoherent => ?_, hread⟩
    obtain ⟨calls, rfl, -, hfinished⟩ := hat
    obtain ⟨memoryType, flags, hmemory, -⟩ := hfinished.memory
    rw [picture, hfits.size]
    refine List.map_congr_left fun i hi => ?_
    have hlt : i < imageBytes width height := List.mem_range.mp hi
    exact hcoherent calls bufferMemory _ [] rfl _ hmemory i
      (by rw [hfits.size]; exact hlt) _ (if_pos hlt)
  · rw [if_neg hlong]
    exact fun _ => hread.lawfully

theorem usage_submitAndRead (hfits : Fits outcomes width height)
    (hsize : width ≠ 0 ∧ height ≠ 0) :
    Ensures some
      (At outcomes texel before (Prepared outcomes device physical queueFamily
        image (blank width height imageMemory) readbackBuffer
        ⟨bufferSize width height, some bufferMemory⟩ bufferMemory commandPool
        (.executable (renderCommands image readbackBuffer width height color))
        fence))
      (submitAndRead outcomes device commandPool fence bufferMemory width
        height)
      (fun pixels log =>
        Shows outcomes texel before width height color pixels log ∧
          Lawfully outcomes texel before log)
      (Lawfully outcomes texel before) := by
  refine (usage_queueSubmit hfits).bind fun _ => ?_
  refine usage_waitForFences.bind fun _ => ?_
  refine (usage_mapMemory hfits hsize).bind fun _ => ?_
  refine (usage_readMapped hfits).bind fun pixels => ?_
  intro log ⟨hshows, hat⟩
  refine ⟨hshows.append _, hat.take (fun gpu h => ?_) fun _ _ => trivial⟩
  obtain ⟨memoryType, flags, hmemory, -⟩ := h.memory
  exact ⟨_, hmemory, rfl⟩

/-- However a render ended, it kept the rules, and what it is to return is the
picture. -/
def Renders (outcomes : Outcomes) (texel : TexelFormat) (before : List VkCall)
    (width height : UInt32) (color : ClearColor)
    (result : Except VulkanError (List UInt8)) (log : List VkCall) : Prop :=
  Lawfully outcomes texel before log ∧ ∀ pixels, result = .ok pixels →
    Shows outcomes texel before width height color pixels log

variable {result : Except VulkanError (List UInt8)}

/-- Objects that are destroyed last change nothing about that. -/
theorem renders_cleanup {cleanup : Render Unit}
    (hwrites : Writes Destroying cleanup) :
    Ensures some
      (Renders outcomes texel before width height color result) cleanup
      (fun _ => Renders outcomes texel before width height color result)
      (Lawfully outcomes texel before) := by
  refine (hwrites.keeps fun log more hrenders hmore => ?_).weaken
    (fun _ hpre => hpre) (fun _ _ hpost => hpost) fun _ hfailed => hfailed.1
  exact ⟨hrenders.1.destroying hmore, fun pixels hok =>
    (hrenders.2 pixels hok).append more⟩

theorem renders_ofResult :
    Ensures some (Renders outcomes texel before width height color result)
      (Method.ofResult (result.mapError .failed) : Render (List UInt8))
      (fun pixels => Renders outcomes texel before width height color
        (.ok pixels))
      (Lawfully outcomes texel before) := by
  cases result with
  | ok pixels =>
      exact fun log hrenders => hrenders
  | error error => exact fun log hrenders _ => hrenders.1

theorem usage_finish (hfits : Fits outcomes width height)
    (hsize : width ≠ 0 ∧ height ≠ 0) :
    Ensures some
      (At outcomes texel before (Prepared outcomes device physical queueFamily
        image (blank width height imageMemory) readbackBuffer
        ⟨bufferSize width height, some bufferMemory⟩ bufferMemory commandPool
        (.executable (renderCommands image readbackBuffer width height color))
        fence))
      (finish outcomes device image imageMemory readbackBuffer bufferMemory
        commandPool fence width height)
      (fun pixels => Renders outcomes texel before width height color
        (.ok pixels))
      (Lawfully outcomes texel before) := by
  have hattempt : Ensures some
      (At outcomes texel before (Prepared outcomes device physical queueFamily
        image (blank width height imageMemory) readbackBuffer
        ⟨bufferSize width height, some bufferMemory⟩ bufferMemory commandPool
        (.executable (renderCommands image readbackBuffer width height color))
        fence))
      (Method.attempt Stop.caught (submitAndRead outcomes device commandPool
        fence bufferMemory width height))
      (Renders outcomes texel before width height color)
      (Lawfully outcomes texel before) := by
    refine Ensures.attempt_all ((usage_submitAndRead hfits hsize).weaken
      (fun _ hpre => hpre) (fun pixels log hpost => ?_) fun _ hfailed => hfailed)
      fun reason log hlawfully => ⟨hlawfully, nofun⟩
    refine ⟨hpost.2, ?_⟩
    rintro _ ⟨⟩
    exact hpost.1
  refine hattempt.bind fun result => ?_
  refine Ensures.bind (renders_cleanup ?_) fun _ => renders_ofResult
  have hfence : Writes Destroying (tell (.destroyFence device fence)) :=
    writes_tell rfl
  exact hfence.bind fun _ => destroys_cleanupPool

theorem usage_renderClearInner (hchosen : Chosen outcomes physical queueFamily)
    (hfits : Fits outcomes width height) (hsize : width ≠ 0 ∧ height ≠ 0) :
    Ensures some
      (At outcomes texel before (Opened device physical queueFamily))
      (renderClearInner outcomes device physical queueFamily width height color)
      (fun pixels => Renders outcomes texel before width height color
        (.ok pixels))
      (Lawfully outcomes texel before) := by
  refine Ensures.bind (usage_tell (fun gpu h => ⟨physical, h.device⟩)
    fun gpu h => h) fun _ => ?_
  refine (usage_makeImage hchosen hsize).bind ?_
  rintro ⟨image, imageMemory⟩
  refine (usage_makeBuffer hfits hsize).bind fun readbackBuffer => ?_
  refine usage_makeBufferMemory.bind fun bufferMemory => ?_
  refine (usage_makeCommands hchosen).bind fun commandPool => ?_
  refine usage_makeFence.bind fun fence => ?_
  exact usage_finish hfits hsize

/-- A render that may start after any calls keeps the rules however it ends, and
what it returns is the picture. -/
theorem usage_renderClearToOffscreen (hfits : Fits outcomes width height)
    (color : ClearColor) :
    Ensures some (fun log => log = before)
      (renderClearToOffscreen outcomes width height color)
      (fun pixels => Renders outcomes texel before width height color
        (.ok pixels))
      (Lawfully outcomes texel before) := by
  have hreject : Ensures some (fun log => log = before)
      (rejectIf (width = 0 ∨ height = 0)
        (.failed (.invalidDimensions width height)) : Render Unit)
      (fun _ log => (width ≠ 0 ∧ height ≠ 0) ∧
        At outcomes texel before (fun gpu => gpu.inFlight = []) log)
      (Lawfully outcomes texel before) := by
    rintro log rfl
    rw [rejectIf_run]
    by_cases hzero : width = 0 ∨ height = 0
    · rw [if_pos hzero]
      exact fun _ => reached_start trivial
    · rw [if_neg hzero]
      exact ⟨not_or.mp hzero, reached_start rfl⟩
  refine hreject.bind fun _ => Ensures.given fun hsize => ?_
  refine usage_chooseQueue.bind ?_
  rintro ⟨physical, queueFamily⟩
  refine Ensures.given fun hchosen => ?_
  refine (usage_makeDevice hchosen).bind fun device => ?_
  have hattempt : Ensures some
      (At outcomes texel before (Opened device physical queueFamily))
      (Method.attempt Stop.caught (renderClearInner outcomes device physical
        queueFamily width height color))
      (Renders outcomes texel before width height color)
      (Lawfully outcomes texel before) :=
    (usage_renderClearInner hchosen hfits hsize).attempt_all
      fun reason log hlawfully => ⟨hlawfully, nofun⟩
  refine hattempt.bind fun result => ?_
  have hdestroy : Writes Destroying (tell (.destroyDevice device)) :=
    writes_tell rfl
  exact (renders_cleanup hdestroy).bind fun _ => renders_ofResult

end Reading

/-! ### Renders of a context -/

section Context

variable (host : VulkanHost) (context : VulkanContext) {width height : UInt32}
  (color : ClearColor) (log : List ContextCall) (texel : TexelFormat)

/-- A render as its context makes it, after whatever calls. -/
theorem render_renders
    (hfits : Fits (renderOutcomes host log) width height) :
    ∃ result calls, context.render host width height color log =
        (result, log ++ calls.map (.onInstance context.vkInstance)) ∧
      renderClearToOffscreen (renderOutcomes host log) width height color
          (deviceCalls log) = (result, deviceCalls log ++ calls) ∧
      Lawfully (renderOutcomes host log) texel (deviceCalls log)
        (deviceCalls log ++ calls) ∧
      ∀ pixels, result = .ok pixels →
        Shows (renderOutcomes host log) texel (deviceCalls log) width height
          color pixels (deviceCalls log ++ calls) := by
  obtain ⟨result, calls, hrun, hrender, -⟩ :=
    render_run host context width height color log
  refine ⟨result, calls, hrender, hrun, ?_⟩
  have husage : Ensures some (fun past => past = deviceCalls log)
      (renderClearToOffscreen (renderOutcomes host log) width height color)
      (fun pixels => Renders (renderOutcomes host log) texel (deviceCalls log)
        width height color (.ok pixels))
      (Lawfully (renderOutcomes host log) texel (deviceCalls log)) :=
    usage_renderClearToOffscreen hfits color
  have hended := husage (deviceCalls log) rfl
  rw [hrun] at hended
  cases result with
  | ok pixels =>
      refine ⟨hended.1, ?_⟩
      rintro _ ⟨⟩
      exact hended.2 pixels rfl
  | error error => exact ⟨hended rfl, nofun⟩

/-- The pixels that a render returns are the picture that was asked for: if what
is read through a mapping is what the memory holds by then, every texel has the
clear color, and there are as many as the image has. -/
theorem picture_returned
    (hfits : Fits (renderOutcomes host log) width height)
    (hcoherent : Coherent (renderOutcomes host log) texel (deviceCalls log)
      (deviceCalls (context.render host width height color log).2))
    {pixels : List UInt8}
    (hok : (context.render host width height color log).1 = .ok pixels) :
    pixels = picture texel width height color := by
  obtain ⟨result, calls, hrender, -, -, hshows⟩ :=
    render_renders host context color log texel hfits
  rw [hrender] at hok hcoherent
  rw [deviceCalls_session] at hcoherent
  exact hshows pixels hok hcoherent

end Context

/-! ### Where the bytes of a memory come from -/

/-- Each byte that a memory holds is one of a texel. -/
def Drawn (texel : TexelFormat) (gpu : Gpu) : Prop :=
  ∀ memory held, gpu.memories.get memory = some held →
    ∀ i byte, held.bytes i = some byte → ∃ color part, texel color part = byte

section Drawn

variable {gpu : Gpu}

/-- Memory that is changed but for its bytes, or to hold those of texels. -/
theorem Drawn.modify (hdrawn : Drawn texel gpu)
    (changed : Handle .deviceMemory) {change : MemoryState → MemoryState}
    (hchange : ∀ state i byte, (change state).bytes i = some byte →
      state.bytes i = some byte ∨ ∃ color part, texel color part = byte) :
    Drawn texel
      { gpu with memories := gpu.memories.modify changed change } := by
  intro memory held hheld i byte hbyte
  rcases Table.row_of_modify hheld with ⟨-, state, hold, rfl⟩ | ⟨-, hold⟩
  · rcases hchange state i byte hbyte with hsame | hnew
    · exact hdrawn changed state hold i byte hsame
    · exact hnew
  · exact hdrawn memory held hold i byte hbyte

theorem Drawn.command (hdrawn : Drawn texel gpu) (command : VkCommand) :
    Drawn texel (command.perform texel gpu) := by
  cases command with
  | pipelineBarrier image oldLayout newLayout => exact hdrawn
  | clearColorImage image layout color => exact hdrawn
  | copyImageToBuffer image layout buffer width height =>
      rw [VkCommand.perform]
      split
      · exact hdrawn
      · refine hdrawn.modify _ fun state i byte hbyte => ?_
        dsimp only at hbyte
        split at hbyte
        · obtain ⟨color, -, hcolor⟩ := Option.map_eq_some_iff.mp hbyte
          exact Or.inr ⟨color, _, hcolor⟩
        · exact Or.inl hbyte

theorem Drawn.commands (hdrawn : Drawn texel gpu)
    (commands : List VkCommand) :
    Drawn texel (VkCommand.performAll texel gpu commands) := by
  induction commands generalizing gpu with
  | nil => exact hdrawn
  | cons first rest ih => exact ih (hdrawn.command first)

theorem Drawn.call (hdrawn : Drawn texel gpu) (call : VkCall) :
    Drawn texel (call.perform texel gpu) := by
  cases call with
  | allocateMemory device size memoryType outcome =>
      cases outcome with
      | error result => exact hdrawn
      | ok memory =>
          intro other held hheld i byte hbyte
          rcases Table.row_of_insert hheld with ⟨-, rfl⟩ | ⟨-, hold⟩
          · cases hbyte
          · exact hdrawn other held hold i byte hbyte
  | queueSubmit device pool fence outcome =>
      cases outcome with
      | error result => exact hdrawn
      | ok value =>
          rw [VkCall.perform]
          split
          · exact hdrawn.commands _
          · exact hdrawn
  | mapMemory device memory size outcome =>
      cases outcome with
      | error result => exact hdrawn
      | ok value => exact hdrawn.modify memory fun _ _ _ => Or.inl
  | unmapMemory device memory => exact hdrawn.modify memory fun _ _ _ => Or.inl
  | _ =>
      first
      | exact hdrawn
      | rename_i outcome
        cases outcome <;> exact hdrawn

theorem drawn_after (calls : List VkCall) :
    Drawn texel ((vulkanRules outcomes texel).after calls) := by
  induction calls using List.reverseRecOn with
  | nil => exact nofun
  | append_singleton past call ih =>
      rw [after_concat]
      exact ih.call call

end Drawn

/-! ### A machine that draws in white only -/

namespace WhitePixel

def host : VulkanHost where
  probes _ := ⟨.ok (), .ok [], .ok ()⟩
  enumerations _ := ⟨.ok [], fun _ => ⟨none, 0, 0, 0, 0, 0⟩⟩
  renders _ := OnePixel.healthy
  text _ := ""

/-- Whatever the color, all bytes are those of white. -/
def white : TexelFormat := fun _ _ => 255

def context : VulkanContext := ⟨⟨0⟩, ⟨2⟩⟩

theorem fits : Fits (renderOutcomes host []) 1 1 := ⟨by decide, by decide⟩

theorem white_returned : ∃ pixels,
    (context.render host 1 1 ⟨0, 0, 0, 0⟩ []).1 = .ok pixels ∧
      pixels = picture white 1 1 ⟨0, 0, 0, 0⟩ := by
  have hok : (context.render host 1 1 ⟨0, 0, 0, 0⟩ []).1 = .ok _ := rfl
  refine ⟨_, hok, picture_returned host context ⟨0, 0, 0, 0⟩ [] white fits
    ?_ hok⟩
  intro calls memory length later _ held hheld i _ byte hbyte
  obtain ⟨color, part, hbyte⟩ := drawn_after calls memory held hheld i byte hbyte
  exact hbyte

end WhitePixel

end VulkanContext

end SherGraphics
