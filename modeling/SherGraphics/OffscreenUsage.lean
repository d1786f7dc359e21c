/-
An offscreen render keeps the rules of the device that it runs on, and returns a
picture of the color that it was given.
-/
import SherGraphics.ContextLifetimes
import SherGraphics.VulkanRules

namespace SherGraphics

namespace VulkanContext

open Method RuleBook

/-- The image in the buffer has the size that is computed, and the memory that
is required for the buffer holds it. -/
structure Fits (outcomes : Outcomes) (width height : UInt32) : Prop where
  exact : imageBytes width height < 2 ^ 64
  required : bufferSize width height ≤ outcomes.bufferRequirements.size

variable {outcomes : Outcomes} {texel : TexelFormat} {before : List VkCall}

/-- The calls since `before` keep the rules, and this is known of the device
that they leave. -/
abbrev At (outcomes : Outcomes) (texel : TexelFormat) (before : List VkCall)
    (fact : Gpu → Prop) : List VkCall → Prop :=
  (vulkanRules outcomes texel).Reached before fact

/-- The rules were kept. -/
abbrev Lawfully (outcomes : Outcomes) (texel : TexelFormat)
    (before : List VkCall) : List VkCall → Prop :=
  At outcomes texel before fun _ => True

/-! ### One call -/

section Ways

variable {fact wanted : Gpu → Prop} {call : VkCall}

theorem At.lawfully {log : List VkCall}
    (hat : At outcomes texel before fact log) :
    Lawfully outcomes texel before log :=
  hat.mono fun _ _ => trivial

theorem usage_tell
    (hallowed : ∀ gpu, fact gpu → call.Allowed outcomes texel gpu)
    (htaken : ∀ gpu, fact gpu → wanted (call.perform texel gpu)) :
    Ensures some (At outcomes texel before fact) (tell call)
      (fun _ => At outcomes texel before wanted)
      (Lawfully outcomes texel before) :=
  fun _ hat => hat.take hallowed htaken

theorem usage_ask {α : Type} {outcome : Except VkResult α}
    {entry : Except VkResult Unit → VkCall}
    (hallowed : ∀ gpu answer, fact gpu →
      (entry answer).Allowed outcomes texel gpu)
    (htaken : ∀ gpu, fact gpu → wanted ((entry (.ok ())).perform texel gpu)) :
    Ensures some (At outcomes texel before fact) (ask outcomes outcome entry)
      (fun value log => outcome = .ok value ∧
        At outcomes texel before wanted log)
      (Lawfully outcomes texel before) := by
  intro log hat
  cases outcome with
  | ok value => exact ⟨rfl, hat.take (fun gpu => hallowed gpu _) htaken⟩
  | error result =>
      exact fun _ => hat.take (fun gpu => hallowed gpu _) fun _ _ => trivial

/-- A call whose value is not looked at. -/
theorem usage_request {outcome : Except VkResult Unit}
    {entry : Except VkResult Unit → VkCall}
    (hallowed : ∀ gpu answer, fact gpu →
      (entry answer).Allowed outcomes texel gpu)
    (htaken : ∀ gpu, fact gpu → wanted ((entry (.ok ())).perform texel gpu)) :
    Ensures some (At outcomes texel before fact) (ask outcomes outcome entry)
      (fun _ => At outcomes texel before wanted)
      (Lawfully outcomes texel before) :=
  (usage_ask hallowed htaken).weaken (fun _ hpre => hpre)
    (fun _ _ hpost => hpost.2) fun _ hfailed => hfailed

/-- A query that leaves the device as it was. -/
theorem usage_query {α : Type} {outcome : Except VkResult α}
    {entry : Except VkResult Unit → VkCall}
    (hallowed : ∀ gpu answer, (entry answer).Allowed outcomes texel gpu)
    (hsame : ∀ gpu, (entry (.ok ())).perform texel gpu = gpu) :
    Ensures some (At outcomes texel before fact) (ask outcomes outcome entry)
      (fun value log => outcome = .ok value ∧
        At outcomes texel before fact log)
      (Lawfully outcomes texel before) := by
  refine usage_ask (fun gpu answer _ => hallowed gpu answer) fun gpu hfact => ?_
  rw [hsame]
  exact hfact

theorem usage_lookup (hallowed : ∀ gpu, call.Allowed outcomes texel gpu)
    (hsame : ∀ gpu, call.perform texel gpu = gpu) :
    Ensures some (At outcomes texel before fact) (tell call)
      (fun _ => At outcomes texel before fact)
      (Lawfully outcomes texel before) := by
  refine usage_tell (fun gpu _ => hallowed gpu) fun gpu hfact => ?_
  rw [hsame]
  exact hfact

/-- A value that is found, or the end of the render. -/
theorem usage_okOr {α : Type} (value : Option α) (error : Stop) :
    Ensures some (At outcomes texel before fact)
      (Method.okOr value error : Render α)
      (fun found log => value = some found ∧
        At outcomes texel before fact log)
      (Lawfully outcomes texel before) :=
  Ensures.okOr (fun _ _ hfound hat => ⟨hfound, hat⟩) fun _ hat => hat.lawfully

theorem usage_create {kind : VkKind} {outcome : Except VkResult Unit}
    {entry : Except VkResult (Handle kind) → VkCall}
    {wanted : Handle kind → Gpu → Prop}
    (hallowed : ∀ gpu answer, fact gpu →
      (entry answer).Allowed outcomes texel gpu)
    (htaken : ∀ gpu handle, fact gpu →
      wanted handle ((entry (.ok handle)).perform texel gpu)) :
    Ensures some (At outcomes texel before fact)
      (create outcomes outcome entry)
      (fun handle => At outcomes texel before (wanted handle))
      (Lawfully outcomes texel before) := by
  intro log hat
  cases outcome with
  | ok value =>
      exact hat.take (fun gpu => hallowed gpu _) fun gpu => htaken gpu _
  | error result =>
      exact fun _ => hat.take (fun gpu => hallowed gpu _) fun _ _ => trivial

/-- The call destroys an object. -/
abbrev Destroying (call : VkCall) : Prop :=
  call.destroys.isSome = true

/-- Objects may be destroyed as far as these rules go. -/
theorem Lawfully.destroying {log more : List VkCall}
    (hlawfully : Lawfully outcomes texel before log)
    (hmore : ∀ call ∈ more, Destroying call) :
    Lawfully outcomes texel before (log ++ more) := by
  refine hlawfully.extend hmore fun call gpu hdestroys _ => ⟨?_, trivial⟩
  cases call <;> first
    | exact trivial
    | cases hdestroys

/-- A step that is cleaned up after. -/
theorem usage_orCleanUp {α : Type} {step : Render α} {cleanup : Render Unit}
    {pre : List VkCall → Prop} {post : α → List VkCall → Prop}
    (hstep : Ensures some pre step post (Lawfully outcomes texel before))
    (hwrites : Writes Destroying cleanup) :
    Ensures some pre (orCleanUp step cleanup) post
      (Lawfully outcomes texel before) :=
  hstep.onError_all
    (hwrites.keeps fun _ _ hlawfully => Lawfully.destroying hlawfully)

end Ways

/-! ### What is chosen -/

section Chosen

/-- The memory type is listed by the requirements and has the properties. -/
theorem findMemoryType_eq_some {props : MemoryProperties}
    {typeBits required : UInt32} {index : Nat}
    (hfound : findMemoryType props typeBits required = some index) :
    (typeBits &&& (1 <<< UInt32.ofNat index) != 0) = true ∧
      ∃ flags, props.types[index]? = some flags ∧
        hasFlags flags required = true := by
  have hindex := List.mem_range.mp (List.mem_of_find?_eq_some hfound)
  have htest := List.find?_some hfound
  rw [Bool.and_eq_true] at htest
  refine ⟨htest.1, props.types[index], List.getElem?_eq_getElem hindex, ?_⟩
  simpa [List.getElem?_eq_getElem hindex] using htest.2

variable {physical : PhysicalDevice} {queueFamily : Nat}

theorem Chosen.listed (hchosen : Chosen outcomes physical queueFamily) :
    VkCall.Listed outcomes physical := by
  obtain ⟨others, hdevices⟩ := hchosen.device
  exact ⟨_, hdevices, List.mem_cons_self⟩

/-- The queue family takes the commands of the render. -/
theorem Chosen.supports (hchosen : Chosen outcomes physical queueFamily) :
    ∃ flags, (outcomes.queueFamilies physical)[queueFamily]? = some flags ∧
      hasFlags flags graphicsAndTransfer = true := by
  obtain ⟨hlt, hflags, -⟩ := List.findIdx?_eq_some_iff_getElem.mp hchosen.family
  exact ⟨_, List.getElem?_eq_getElem hlt, hflags⟩

theorem usage_chooseQueue :
    Ensures some (At outcomes texel before fun gpu => gpu.inFlight = [])
      (chooseQueue outcomes)
      (fun chosen log => Chosen outcomes chosen.1 chosen.2 ∧
        At outcomes texel before (fun gpu => gpu.inFlight = []) log)
      (Lawfully outcomes texel before) := by
  refine Ensures.bind (usage_query (fun _ _ => trivial) fun _ => rfl)
    fun listed => Ensures.given fun hlisted => ?_
  refine (usage_okOr _ _).bind fun physical => Ensures.given fun hhead => ?_
  have hdevice : ∃ others, outcomes.physicalDevices = .ok (physical :: others) := by
    cases listed with
    | nil => cases hhead
    | cons first others =>
        cases hhead
        exact ⟨others, hlisted⟩
  obtain ⟨others, hdevices⟩ := hdevice
  refine Ensures.bind (usage_lookup
    (fun _ => ⟨_, hdevices, List.mem_cons_self⟩) fun _ => rfl) fun _ => ?_
  refine (usage_okOr _ _).bind fun family => Ensures.given fun hfamily => ?_
  exact Ensures.pure fun _ hat => ⟨⟨⟨others, hdevices⟩, hfamily⟩, hat⟩

end Chosen

/-! ### The parts of the render -/

section Parts

variable {device : Handle .device} {physical : PhysicalDevice}
  {queueFamily : Nat} {width height : UInt32} {color : ClearColor}
  {image : Handle .image} {imageMemory : Handle .deviceMemory}
  {readbackBuffer : Handle .buffer} {bufferMemory : Handle .deviceMemory}
  {commandPool : Handle .commandPool} {fence : Handle .fence}

/-- The device is open, and nothing is in flight. -/
structure Opened (device : Handle .device) (physical : PhysicalDevice)
    (queueFamily : Nat) (gpu : Gpu) : Prop where
  device : gpu.devices.get device = some (physical, queueFamily)
  idle : gpu.inFlight = []

theorem usage_makeDevice (hchosen : Chosen outcomes physical queueFamily) :
    Ensures some (At outcomes texel before fun gpu => gpu.inFlight = [])
      (makeDevice outcomes physical queueFamily)
      (fun device => At outcomes texel before
        (Opened device physical queueFamily))
      (Lawfully outcomes texel before) := by
  refine Ensures.bind (usage_query (fun _ _ => hchosen.listed) fun _ => rfl)
    fun extensions => Ensures.given fun hextensions => ?_
  refine usage_create (fun gpu answer _ => ?_) fun gpu handle hidle => ?_
  · obtain ⟨flags, hflags, -⟩ := hchosen.supports
    refine ⟨hchosen.listed, (List.getElem?_eq_some_iff.mp hflags).1, ?_, ?_⟩
    · intro extension hmem
      split at hmem
      · rename_i hsubset
        rw [List.mem_singleton.mp hmem]
        exact ⟨extensions, hextensions, hsubset⟩
      · cases hmem
    · rintro ⟨others, hothers, hsubset⟩
      cases hextensions.symm.trans hothers
      simp [hsubset]
  · exact ⟨Table.get_insert_self .., hidle⟩

/-- An image is in this state. -/
structure Imaged (device : Handle .device) (physical : PhysicalDevice)
    (queueFamily : Nat) (image : Handle .image) (state : ImageState)
    (gpu : Gpu) : Prop extends Opened device physical queueFamily gpu where
  image : gpu.images.get image = some state

/-- And a buffer in this one. -/
structure Buffered (device : Handle .device) (physical : PhysicalDevice)
    (queueFamily : Nat) (image : Handle .image) (state : ImageState)
    (buffer : Handle .buffer) (target : BufferState) (gpu : Gpu) : Prop extends
    Imaged device physical queueFamily image state gpu where
  buffer : gpu.buffers.get buffer = some target

/-- The memory is coherent, and suits the buffer. -/
def ReadableMemory (outcomes : Outcomes) (physical : PhysicalDevice)
    (memory : Handle .deviceMemory) (mapped : Option UInt64)
    (bytes : Nat → Option UInt8) (gpu : Gpu) : Prop :=
  ∃ memoryType flags,
    gpu.memories.get memory = some ⟨outcomes.bufferRequirements.size,
      memoryType, mapped, bytes⟩ ∧
    (outcomes.bufferRequirements.memoryTypeBits &&&
      (1 <<< UInt32.ofNat memoryType) != 0) = true ∧
    (outcomes.memoryProperties physical).types[memoryType]? = some flags ∧
    hasFlags flags hostVisibleCoherent = true

/-- And the memory that it can be read from. -/
structure Backed (outcomes : Outcomes) (device : Handle .device)
    (physical : PhysicalDevice) (queueFamily : Nat) (image : Handle .image)
    (state : ImageState) (buffer : Handle .buffer) (target : BufferState)
    (memory : Handle .deviceMemory) (gpu : Gpu) : Prop extends
    Buffered device physical queueFamily image state buffer target gpu where
  memory : ReadableMemory outcomes physical memory none (fun _ => none) gpu

/-- And a command buffer. -/
structure Commanded (outcomes : Outcomes) (device : Handle .device)
    (physical : PhysicalDevice) (queueFamily : Nat) (image : Handle .image)
    (state : ImageState) (buffer : Handle .buffer) (target : BufferState)
    (memory : Handle .deviceMemory) (pool : Handle .commandPool)
    (commands : CommandBufferState) (gpu : Gpu) : Prop extends
    Backed outcomes device physical queueFamily image state buffer target memory
      gpu where
  commands : gpu.commandBuffers.get pool = some commands

/-- The image as `makeImage` leaves it. -/
def blank (width height : UInt32) (imageMemory : Handle .deviceMemory) :
    ImageState :=
  { ImageState.fresh width height with memory := some imageMemory }

theorem usage_makeImage (hchosen : Chosen outcomes physical queueFamily)
    (hsize : width ≠ 0 ∧ height ≠ 0) :
    Ensures some (At outcomes texel before (Opened device physical queueFamily))
      (makeImage outcomes device physical width height)
      (fun made => At outcomes texel before
        (Imaged device physical queueFamily made.1
          (blank width height made.2)))
      (Lawfully outcomes texel before) := by
  have hcreate : Ensures some
      (At outcomes texel before (Opened device physical queueFamily))
      (create outcomes outcomes.createImage (.createImage device width height))
      (fun image => At outcomes texel before
        (Imaged device physical queueFamily image
          (.fresh width height)))
      (Lawfully outcomes texel before) :=
    usage_create (fun _ _ _ => hsize) fun gpu image hopened =>
      ⟨⟨hopened.device, hopened.idle⟩, Table.get_insert_self ..⟩
  refine hcreate.bind fun image => ?_
  refine Ensures.bind (usage_lookup (fun _ => trivial) fun _ => rfl)
    fun _ => ?_
  refine Ensures.bind (usage_lookup (fun _ => hchosen.listed) fun _ => rfl)
    fun _ => ?_
  have hdestroy : Writes Destroying (destroyImage device image) :=
    writes_tell rfl
  refine Ensures.bind (usage_orCleanUp (usage_okOr _ _) hdestroy)
    fun memoryType => Ensures.given fun hfound => ?_
  obtain ⟨hlisted, flags, hflags, -⟩ := findMemoryType_eq_some hfound
  have hallocate : Ensures some
      (At outcomes texel before (Imaged device physical queueFamily image
        (.fresh width height)))
      (create outcomes outcomes.allocateImageMemory (.allocateMemory device
        outcomes.imageRequirements.size memoryType))
      (fun imageMemory => At outcomes texel before fun gpu =>
        Imaged device physical queueFamily image
            (.fresh width height) gpu ∧
          gpu.memories.get imageMemory =
            some ⟨outcomes.imageRequirements.size, memoryType, none,
              fun _ => none⟩)
      (Lawfully outcomes texel before) := by
    refine usage_create (fun gpu _ himaged => ?_) fun gpu imageMemory himaged => ?_
    · exact ⟨physical, queueFamily, himaged.device,
        (List.getElem?_eq_some_iff.mp hflags).1⟩
    · exact ⟨⟨⟨himaged.device, himaged.idle⟩, himaged.image⟩,
        Table.get_insert_self ..⟩
  refine (usage_orCleanUp hallocate hdestroy).bind fun imageMemory => ?_
  have hbind : Ensures some
      (At outcomes texel before fun gpu =>
        Imaged device physical queueFamily image
            (.fresh width height) gpu ∧
          gpu.memories.get imageMemory =
            some ⟨outcomes.imageRequirements.size, memoryType, none,
              fun _ => none⟩)
      (ask outcomes outcomes.bindImageMemory
        (.bindImageMemory device image imageMemory))
      (fun _ => At outcomes texel before
        (Imaged device physical queueFamily image
          (blank width height imageMemory)))
      (Lawfully outcomes texel before) := by
    refine usage_request (fun gpu _ hfact => ?_) fun gpu hfact => ?_
    · exact ⟨_, _, hfact.1.image, rfl, hfact.2, UInt64.le_refl _, hlisted⟩
    · refine ⟨⟨hfact.1.device, hfact.1.idle⟩, ?_⟩
      simp [VkCall.perform, Table.get_modify, hfact.1.image, blank]
  have hfree : Writes Destroying (freeMemory device imageMemory) :=
    writes_tell rfl
  exact (usage_orCleanUp hbind (hfree.bind fun _ => hdestroy)).bind fun _ =>
    Ensures.pure fun _ hat => hat

/-- The size that is asked for is that of the image. -/
theorem Fits.size (hfits : Fits outcomes width height) :
    (bufferSize width height).toNat = imageBytes width height :=
  bufferSize_exact_iff.mpr hfits.exact

theorem Fits.ne_zero (hfits : Fits outcomes width height)
    (hsize : width ≠ 0 ∧ height ≠ 0) : bufferSize width height ≠ 0 := by
  intro hzero
  have himage := hfits.size
  rw [hzero] at himage
  have hwidth : width.toNat ≠ 0 := fun h => hsize.1 (UInt32.toNat_inj.mp h)
  have hheight : height.toNat ≠ 0 := fun h => hsize.2 (UInt32.toNat_inj.mp h)
  simp [imageBytes, hwidth, hheight] at himage

theorem destroys_cleanupImage :
    Writes Destroying (cleanupImage device image imageMemory) := by
  have hdestroy : Writes Destroying (destroyImage device image) :=
    writes_tell rfl
  exact hdestroy.bind fun _ => writes_tell rfl

theorem usage_makeBuffer (hfits : Fits outcomes width height)
    (hsize : width ≠ 0 ∧ height ≠ 0) {state : ImageState} :
    Ensures some
      (At outcomes texel before (Imaged device physical queueFamily image state))
      (makeBuffer outcomes device width height image imageMemory)
      (fun readbackBuffer => At outcomes texel before
        (Buffered device physical queueFamily image state readbackBuffer
          ⟨bufferSize width height, none⟩))
      (Lawfully outcomes texel before) := by
  refine usage_orCleanUp ?_ destroys_cleanupImage
  refine usage_create (fun _ _ _ => hfits.ne_zero hsize) fun gpu buffer h => ?_
  exact ⟨⟨⟨h.device, h.idle⟩, h.image⟩, Table.get_insert_self ..⟩

theorem destroys_cleanupBuffer :
    Writes Destroying (do
      destroyBuffer device readbackBuffer
      cleanupImage device image imageMemory) := by
  have hdestroy : Writes Destroying (destroyBuffer device readbackBuffer) :=
    writes_tell rfl
  exact hdestroy.bind fun _ => destroys_cleanupImage

theorem usage_makeBufferMemory {state : ImageState} {size : UInt64} :
    Ensures some
      (At outcomes texel before (Buffered device physical queueFamily image
        state readbackBuffer ⟨size, none⟩))
      (makeBufferMemory outcomes device physical image imageMemory
        readbackBuffer)
      (fun bufferMemory => At outcomes texel before
        (Backed outcomes device physical queueFamily image state readbackBuffer
          ⟨size, some bufferMemory⟩ bufferMemory))
      (Lawfully outcomes texel before) := by
  refine Ensures.bind (usage_lookup (fun _ => trivial) fun _ => rfl)
    fun _ => ?_
  refine Ensures.bind (usage_orCleanUp (usage_okOr _ _) destroys_cleanupBuffer)
    fun memoryType => Ensures.given fun hfound => ?_
  obtain ⟨hlisted, flags, hflags, hcoherent⟩ := findMemoryType_eq_some hfound
  have hallocate : Ensures some
      (At outcomes texel before (Buffered device physical queueFamily image
        state readbackBuffer ⟨size, none⟩))
      (create outcomes outcomes.allocateBufferMemory (.allocateMemory device
        outcomes.bufferRequirements.size memoryType))
      (fun bufferMemory => At outcomes texel before
        (Backed outcomes device physical queueFamily image state readbackBuffer
          ⟨size, none⟩ bufferMemory))
      (Lawfully outcomes texel before) := by
    refine usage_create (fun gpu _ h => ?_) fun gpu bufferMemory h => ?_
    · exact ⟨physical, queueFamily, h.device,
        (List.getElem?_eq_some_iff.mp hflags).1⟩
    · exact ⟨⟨⟨⟨h.device, h.idle⟩, h.image⟩, h.buffer⟩, memoryType, flags,
        Table.get_insert_self .., hlisted, hflags, hcoherent⟩
  refine (usage_orCleanUp hallocate destroys_cleanupBuffer).bind
    fun bufferMemory => ?_
  have hbind : Ensures some
      (At outcomes texel before
        (Backed outcomes device physical queueFamily image state readbackBuffer
          ⟨size, none⟩ bufferMemory))
      (ask outcomes outcomes.bindBufferMemory
        (.bindBufferMemory device readbackBuffer bufferMemory))
      (fun _ => At outcomes texel before
        (Backed outcomes device physical queueFamily image state readbackBuffer
          ⟨size, some bufferMemory⟩ bufferMemory))
      (Lawfully outcomes texel before) := by
    refine usage_request (fun gpu _ h => ?_) fun gpu h => ?_
    · obtain ⟨other, -, hmemory, hother, -⟩ := h.memory
      exact ⟨_, _, h.buffer, rfl, hmemory, UInt64.le_refl _, hother⟩
    · refine ⟨⟨⟨⟨h.device, h.idle⟩, h.image⟩, ?_⟩, h.memory⟩
      simp [VkCall.perform, Table.get_modify, h.buffer]
  have hfree : Writes Destroying (freeMemory device bufferMemory) :=
    writes_tell rfl
  exact (usage_orCleanUp hbind (hfree.bind fun _ =>
    destroys_cleanupBuffer)).bind fun _ => Ensures.pure fun _ hat => hat

/-! ### The commands -/

/-- What is recorded. -/
def renderCommands (image : Handle .image) (readbackBuffer : Handle .buffer)
    (width height : UInt32) (color : ClearColor) : List VkCommand :=
  [.pipelineBarrier image .undefined .transferDstOptimal beforeAll
      transferWrite,
    .clearColorImage image .transferDstOptimal color,
    .pipelineBarrier image .transferDstOptimal .transferSrcOptimal
      transferWrite transferRead,
    .copyImageToBuffer image .transferSrcOptimal readbackBuffer width height]

theorem Commanded.replace {state : ImageState} {target : BufferState}
    {old commands : CommandBufferState} {gpu : Gpu}
    {table : Table (Handle .commandPool) CommandBufferState}
    (h : Commanded outcomes device physical queueFamily image state
      readbackBuffer target bufferMemory commandPool old gpu)
    (hcommands : table.get commandPool = some commands) :
    Commanded outcomes device physical queueFamily image state readbackBuffer
      target bufferMemory commandPool commands
      { gpu with commandBuffers := table } :=
  ⟨⟨⟨⟨⟨h.device, h.idle⟩, h.image⟩, h.buffer⟩, h.memory⟩, hcommands⟩

section Commands

variable {state : ImageState} {target : BufferState}

/-- One command is recorded. -/
theorem usage_record (hchosen : Chosen outcomes physical queueFamily)
    {commands : List VkCommand} {call : VkCall} (command : VkCommand)
    (hallowed : ∀ gpu, call.Allowed outcomes texel gpu ↔
      gpu.Records outcomes device commandPool)
    (hrecords : ∀ gpu, call.perform texel gpu =
      gpu.record commandPool command) :
    Ensures some
      (At outcomes texel before (Commanded outcomes device physical queueFamily
        image state readbackBuffer target bufferMemory commandPool
        (.recording commands)))
      (tell call)
      (fun _ => At outcomes texel before (Commanded outcomes device physical
        queueFamily image state readbackBuffer target bufferMemory commandPool
        (.recording (commands ++ [command]))))
      (Lawfully outcomes texel before) := by
  refine usage_tell (fun gpu h => ?_) fun gpu h => ?_
  · obtain ⟨flags, hflags, hsupports⟩ := hchosen.supports
    rw [hallowed]
    exact ⟨⟨commands, h.commands⟩, physical, queueFamily, flags, h.device,
      hflags, hsupports⟩
  · rw [hrecords]
    exact h.replace (by simp [Table.get_modify, h.commands])

theorem usage_recordCommands (hchosen : Chosen outcomes physical queueFamily) :
    Ensures some
      (At outcomes texel before (Commanded outcomes device physical queueFamily
        image state readbackBuffer target bufferMemory commandPool .initial))
      (recordCommands outcomes device commandPool image readbackBuffer width
        height color)
      (fun _ => At outcomes texel before (Commanded outcomes device physical
        queueFamily image state readbackBuffer target bufferMemory commandPool
        (.executable (renderCommands image readbackBuffer width height color))))
      (Lawfully outcomes texel before) := by
  have hbegin : Ensures some
      (At outcomes texel before (Commanded outcomes device physical queueFamily
        image state readbackBuffer target bufferMemory commandPool .initial))
      (ask outcomes outcomes.beginCommandBuffer
        (.beginCommandBuffer device commandPool))
      (fun _ => At outcomes texel before (Commanded outcomes device physical
        queueFamily image state readbackBuffer target bufferMemory commandPool
        (.recording [])))
      (Lawfully outcomes texel before) :=
    usage_request (fun _ _ h => h.commands) fun _ h =>
      h.replace (Table.get_insert_self ..)
  refine hbegin.bind fun _ => ?_
  refine (usage_record hchosen _ (fun _ => Iff.rfl) fun _ => rfl).bind
    fun _ => ?_
  refine (usage_record hchosen _ (fun _ => Iff.rfl) fun _ => rfl).bind
    fun _ => ?_
  refine (usage_record hchosen _ (fun _ => Iff.rfl) fun _ => rfl).bind
    fun _ => ?_
  refine (usage_record hchosen _ (fun _ => Iff.rfl) fun _ => rfl).bind
    fun _ => ?_
  refine usage_request (fun _ _ h => ⟨_, h.commands⟩) fun gpu h => ?_
  exact h.replace (by simp [Table.get_modify, h.commands, renderCommands])

theorem destroys_cleanupBoth :
    Writes Destroying (cleanupBoth device image imageMemory readbackBuffer
      bufferMemory) := by
  have hbuffer : Writes Destroying (destroyBuffer device readbackBuffer) :=
    writes_tell rfl
  have hmemory : Writes Destroying (freeMemory device bufferMemory) :=
    writes_tell rfl
  exact (hbuffer.bind fun _ => hmemory).bind fun _ => destroys_cleanupImage

theorem destroys_cleanupPool :
    Writes Destroying (do
      destroyCommandPool device commandPool
      cleanupBoth device image imageMemory readbackBuffer bufferMemory) := by
  have hpool : Writes Destroying (destroyCommandPool device commandPool) :=
    writes_tell rfl
  exact hpool.bind fun _ => destroys_cleanupBoth

theorem usage_makeCommands (hchosen : Chosen outcomes physical queueFamily) :
    Ensures some
      (At outcomes texel before (Backed outcomes device physical queueFamily
        image state readbackBuffer target bufferMemory))
      (makeCommands outcomes device queueFamily width height color image
        imageMemory readbackBuffer bufferMemory)
      (fun commandPool => At outcomes texel before
        (Commanded outcomes device physical queueFamily image state
          readbackBuffer target bufferMemory commandPool
          (.executable
            (renderCommands image readbackBuffer width height color))))
      (Lawfully outcomes texel before) := by
  have hcreate : Ensures some
      (At outcomes texel before (Backed outcomes device physical queueFamily
        image state readbackBuffer target bufferMemory))
      (create outcomes outcomes.createCommandPool
        (.createCommandPool device queueFamily))
      (fun _ => At outcomes texel before (Backed outcomes device physical
        queueFamily image state readbackBuffer target bufferMemory))
      (Lawfully outcomes texel before) :=
    usage_create (fun _ _ h => ⟨physical, h.device⟩) fun _ _ h => h
  refine (usage_orCleanUp hcreate destroys_cleanupBoth).bind
    fun commandPool => ?_
  have hallocate : Ensures some
      (At outcomes texel before (Backed outcomes device physical queueFamily
        image state readbackBuffer target bufferMemory))
      (ask outcomes outcomes.allocateCommandBuffers
        (.allocateCommandBuffers device commandPool))
      (fun _ => At outcomes texel before (Commanded outcomes device physical
        queueFamily image state readbackBuffer target bufferMemory commandPool
        .initial))
      (Lawfully outcomes texel before) :=
    usage_request (fun _ _ _ => trivial) fun _ h =>
      ⟨⟨⟨⟨⟨h.device, h.idle⟩, h.image⟩, h.buffer⟩, h.memory⟩,
        Table.get_insert_self ..⟩
  refine (usage_orCleanUp hallocate destroys_cleanupPool).bind fun _ => ?_
  exact (usage_orCleanUp (usage_recordCommands hchosen)
    destroys_cleanupPool).bind fun _ => Ensures.pure fun _ hat => hat

/-- The commands are recorded, and the fence is there. -/
structure Prepared (outcomes : Outcomes) (device : Handle .device)
    (physical : PhysicalDevice) (queueFamily : Nat) (image : Handle .image)
    (state : ImageState) (buffer : Handle .buffer) (target : BufferState)
    (memory : Handle .deviceMemory) (pool : Handle .commandPool)
    (commands : CommandBufferState) (fence : Handle .fence) (gpu : Gpu) :
    Prop extends Commanded outcomes device physical queueFamily image state
      buffer target memory pool commands gpu where
  fence : gpu.fences.get fence = some .unsignaled

theorem usage_makeFence {commands : CommandBufferState} :
    Ensures some
      (At outcomes texel before (Commanded outcomes device physical queueFamily
        image state readbackBuffer target bufferMemory commandPool commands))
      (makeFence outcomes device commandPool image imageMemory readbackBuffer
        bufferMemory)
      (fun fence => At outcomes texel before (Prepared outcomes device physical
        queueFamily image state readbackBuffer target bufferMemory commandPool
        commands fence))
      (Lawfully outcomes texel before) := by
  refine usage_orCleanUp ?_ destroys_cleanupPool
  exact usage_create (fun _ _ _ => trivial) fun gpu fence h =>
    ⟨⟨⟨⟨⟨⟨h.device, h.idle⟩, h.image⟩, h.buffer⟩, h.memory⟩, h.commands⟩,
      Table.get_insert_self ..⟩

end Commands

end Parts

end VulkanContext

end SherGraphics
