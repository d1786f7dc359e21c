/-
The calls of an offscreen render, part by part: which calls a part makes,
whatever comes of them, and what it takes for the part to succeed.
-/
import SherGraphics.OffscreenRender

namespace SherGraphics

namespace VulkanContext

open Method

/-- The call sizes neither the buffer nor the copy, and has nothing to do with
submitted work. -/
def Plain : VkCall → Prop
  | .createBuffer _ _ _
  | .cmdCopyImageToBuffer _ _ _ _ _ _ _
  | .queueSubmit _ _ _ _
  | .waitForFences _ _ _
  | .mapMemory _ _ _ _
  | .readMapped _ _ => False
  | _ => True

/-- The call is plain, or asks for a buffer of the image's size. -/
def Requests (width height : UInt32) : VkCall → Prop
  | .createBuffer _ size _ => size = bufferSize width height
  | call => Plain call

/-- The call is plain, or copies the whole image into the buffer. -/
def Copies (readbackBuffer : Handle .buffer) (width height : UInt32) :
    VkCall → Prop
  | .cmdCopyImageToBuffer _ _ _ _ buffer columns rows =>
      buffer = readbackBuffer ∧ columns = width ∧ rows = height
  | call => Plain call

/-- The call reads that many bytes if any, and sizes neither the buffer nor the
copy. -/
def Reads (length : Nat) : VkCall → Prop
  | .createBuffer _ _ _
  | .cmdCopyImageToBuffer _ _ _ _ _ _ _ => False
  | .readMapped _ count => count = length
  | _ => True

theorem Plain.reads (length : Nat) (call : VkCall) (hplain : Plain call) :
    Reads length call := by
  cases call <;> first | exact trivial | exact False.elim hplain

theorem Plain.requests (width height : UInt32) (call : VkCall)
    (hplain : Plain call) : Requests width height call := by
  cases call <;> first | exact hplain | exact False.elim hplain

theorem Plain.copies (readbackBuffer : Handle .buffer) (width height : UInt32)
    (call : VkCall) (hplain : Plain call) :
    Copies readbackBuffer width height call := by
  cases call <;> first | exact hplain | exact False.elim hplain

/-! ### The ways of calling -/

section Ways

variable {allowed : VkCall → Prop} {call : VkCall} (outcomes : Outcomes)

theorem writes_tell (hallowed : allowed call) : Writes allowed (tell call) :=
  Writes.one (fun _ => rfl) fun _ => hallowed

theorem writes_ask {α : Type} {outcome : Except VkResult α}
    {entry : Except VkResult Unit → VkCall}
    (hallowed : ∀ outcome, allowed (entry outcome)) :
    Writes allowed (ask outcomes outcome entry) :=
  Writes.one (fun _ => rfl) fun _ => hallowed _

theorem writes_create {kind : VkKind} {outcome : Except VkResult Unit}
    {entry : Except VkResult (Handle kind) → VkCall}
    (hallowed : ∀ outcome, allowed (entry outcome)) :
    Writes allowed (create outcomes outcome entry) :=
  Writes.one (fun _ => rfl) fun log =>
    hallowed (outcome.map fun _ => ⟨log.length⟩)

theorem succeeds_tell (call : VkCall) : Succeeds True (tell call) :=
  Succeeds.change _

theorem succeeds_ask {α : Type} (outcome : Except VkResult α)
    (entry : Except VkResult Unit → VkCall) :
    Succeeds (∃ value, outcome = .ok value) (ask outcomes outcome entry) := by
  intro log
  cases outcome with
  | ok value => simp [ask, Except.mapError]
  | error result => simp [ask, Except.mapError]

theorem succeeds_create {kind : VkKind} (outcome : Except VkResult Unit)
    (entry : Except VkResult (Handle kind) → VkCall) :
    Succeeds (outcome = .ok ()) (create outcomes outcome entry) := by
  intro log
  cases outcome with
  | ok value => simp [create, Except.map, Except.mapError]
  | error result => simp [create, Except.map, Except.mapError]

theorem succeeds_request (outcome : Except VkResult Unit)
    (entry : Except VkResult Unit → VkCall) :
    Succeeds (outcome = .ok ()) (ask outcomes outcome entry) :=
  (succeeds_ask outcomes outcome entry).congr
    ⟨fun ⟨_, hok⟩ => hok, fun hok => ⟨(), hok⟩⟩

end Ways

/-! ### The calls that a part makes -/

section Calls

variable (outcomes : Outcomes) (device : Handle .device)
  (image : Handle .image) (imageMemory : Handle .deviceMemory)
  (readbackBuffer : Handle .buffer) (bufferMemory : Handle .deviceMemory)
  (commandPool : Handle .commandPool) (fence : Handle .fence)
  (gpu : PhysicalDevice) (queueFamily : Nat) (width height : UInt32)

theorem writes_cleanupImage :
    Writes Plain (cleanupImage device image imageMemory) :=
  (writes_tell trivial).bind fun _ => writes_tell trivial

theorem writes_cleanupBoth :
    Writes Plain (cleanupBoth device image imageMemory readbackBuffer
      bufferMemory) := by
  have hbuffer : Writes Plain (cleanupBuffer device readbackBuffer
      bufferMemory) := (writes_tell trivial).bind fun _ => writes_tell trivial
  exact hbuffer.bind fun _ => writes_cleanupImage device image imageMemory

theorem writes_cleanupPool :
    Writes Plain (do
      destroyCommandPool device commandPool
      cleanupBoth device image imageMemory readbackBuffer bufferMemory) :=
  (writes_tell trivial).bind fun _ =>
    writes_cleanupBoth device image imageMemory readbackBuffer bufferMemory

theorem writes_chooseQueue : Writes Plain (chooseQueue outcomes) := by
  refine (writes_ask outcomes fun _ => trivial).bind fun devices => ?_
  refine (Writes.okOr _ _).bind fun gpu => ?_
  refine (writes_tell trivial).bind fun _ => ?_
  exact (Writes.okOr _ _).bind fun queueFamily => Writes.pure _

theorem writes_makeDevice :
    Writes Plain (makeDevice outcomes gpu queueFamily) := by
  refine (writes_ask outcomes fun _ => trivial).bind fun extensions => ?_
  exact writes_create outcomes fun _ => trivial

theorem writes_makeImage :
    Writes Plain (makeImage outcomes device gpu width height) := by
  refine (writes_create outcomes fun _ => trivial).bind fun image => ?_
  refine (writes_tell trivial).bind fun _ => ?_
  refine (writes_tell trivial).bind fun _ => ?_
  have hdestroy : Writes Plain (destroyImage device image) :=
    writes_tell trivial
  refine (Writes.onError (Writes.okOr _ _) hdestroy).bind fun type => ?_
  refine (Writes.onError (writes_create outcomes fun _ => trivial)
    hdestroy).bind fun imageMemory => ?_
  have hfree : Writes Plain (do
      freeMemory device imageMemory
      destroyImage device image) := (writes_tell trivial).bind fun _ => hdestroy
  exact (Writes.onError (writes_ask outcomes fun _ => trivial) hfree).bind
    fun _ => Writes.pure _

theorem writes_makeBuffer :
    Writes (Requests width height)
      (makeBuffer outcomes device width height image imageMemory) :=
  Writes.onError (writes_create outcomes fun _ => rfl)
    ((writes_cleanupImage device image imageMemory).mono
      (Plain.requests width height))

theorem writes_makeBufferMemory :
    Writes Plain
      (makeBufferMemory outcomes device gpu image imageMemory
        readbackBuffer) := by
  refine (writes_tell trivial).bind fun _ => ?_
  have hdestroy : Writes Plain (do
      destroyBuffer device readbackBuffer
      cleanupImage device image imageMemory) :=
    (writes_tell trivial).bind fun _ =>
      writes_cleanupImage device image imageMemory
  refine (Writes.onError (Writes.okOr _ _) hdestroy).bind fun type => ?_
  refine (Writes.onError (writes_create outcomes fun _ => trivial)
    hdestroy).bind fun bufferMemory => ?_
  have hfree : Writes Plain (do
      freeMemory device bufferMemory
      destroyBuffer device readbackBuffer
      cleanupImage device image imageMemory) :=
    (writes_tell trivial).bind fun _ => hdestroy
  exact (Writes.onError (writes_ask outcomes fun _ => trivial) hfree).bind
    fun _ => Writes.pure _

theorem writes_recordCommands (color : ClearColor) :
    Writes (Copies readbackBuffer width height)
      (recordCommands outcomes device commandPool image readbackBuffer width
        height color) := by
  refine (writes_ask outcomes fun _ => trivial).bind fun _ => ?_
  refine (writes_tell trivial).bind fun _ => ?_
  refine (writes_tell trivial).bind fun _ => ?_
  refine (writes_tell trivial).bind fun _ => ?_
  refine (writes_tell ⟨rfl, rfl, rfl⟩).bind fun _ => ?_
  exact writes_ask outcomes fun _ => trivial

theorem writes_makeCommands (color : ClearColor) :
    Writes (Copies readbackBuffer width height)
      (makeCommands outcomes device queueFamily width height color image
        imageMemory readbackBuffer bufferMemory) := by
  have hclean := (writes_cleanupBoth device image imageMemory readbackBuffer
    bufferMemory).mono (Plain.copies readbackBuffer width height)
  refine (Writes.onError (writes_create outcomes fun _ => trivial)
    hclean).bind fun commandPool => ?_
  have hpool := (writes_cleanupPool device image imageMemory readbackBuffer
    bufferMemory commandPool).mono (Plain.copies readbackBuffer width height)
  refine (Writes.onError (writes_ask outcomes fun _ => trivial) hpool).bind
    fun _ => ?_
  exact (Writes.onError (writes_recordCommands outcomes device image
    readbackBuffer commandPool width height color) hpool).bind
    fun _ => Writes.pure _

theorem writes_makeFence :
    Writes Plain (makeFence outcomes device commandPool image imageMemory
      readbackBuffer bufferMemory) :=
  Writes.onError (writes_create outcomes fun _ => trivial)
    (writes_cleanupPool device image imageMemory readbackBuffer bufferMemory
      commandPool)

theorem writes_tearDown :
    Writes Plain (tearDown device image imageMemory readbackBuffer bufferMemory
      commandPool fence) :=
  (writes_tell trivial).bind fun _ => writes_cleanupPool device image
    imageMemory readbackBuffer bufferMemory commandPool

theorem writes_submitAndRead :
    Writes (Reads (bufferSize width height).toNat)
      (submitAndRead outcomes device commandPool fence bufferMemory width
        height) := by
  refine (writes_ask outcomes fun _ => trivial).bind fun _ => ?_
  refine (writes_ask outcomes fun _ => trivial).bind fun _ => ?_
  refine (writes_ask outcomes fun _ => trivial).bind fun _ => ?_
  have hread : Writes (Reads (bufferSize width height).toNat)
      (readMapped outcomes bufferMemory (bufferSize width height).toNat) :=
    Writes.one (fun _ => rfl) fun _ => rfl
  refine hread.bind fun bytes => ?_
  exact (writes_tell trivial).bind fun _ => Writes.pure _

theorem writes_finish :
    Writes (Reads (bufferSize width height).toNat)
      (finish outcomes device image imageMemory readbackBuffer bufferMemory
        commandPool fence width height) := by
  refine (writes_submitAndRead outcomes device bufferMemory commandPool fence
    width height).attempt.bind fun pixels => ?_
  refine ((writes_tearDown device image imageMemory readbackBuffer bufferMemory
    commandPool fence).mono (Plain.reads _)).bind fun _ => ?_
  exact Writes.ofResult _

end Calls

/-! ### What it takes for a part to succeed -/

section Conditions

variable (outcomes : Outcomes) (gpu : PhysicalDevice)

/-- These are the physical device and the queue family that are chosen. -/
structure Chosen (queueFamily : Nat) : Prop where
  device : ∃ others, outcomes.physicalDevices = .ok (gpu :: others)
  family : (outcomes.queueFamilies gpu).findIdx?
    (hasFlags · graphicsAndTransfer) = some queueFamily

/-- The device is created. -/
structure DeviceMade : Prop where
  extensions : ∃ names, outcomes.deviceExtensions = .ok names
  created : outcomes.createDevice = .ok ()

/-- The image is created and gets its memory. -/
structure ImageMade : Prop where
  created : outcomes.createImage = .ok ()
  memoryType : ∃ index, findMemoryType (outcomes.memoryProperties gpu)
    outcomes.imageRequirements.memoryTypeBits deviceLocal = some index
  allocated : outcomes.allocateImageMemory = .ok ()
  bound : outcomes.bindImageMemory = .ok ()

/-- The readback buffer gets its memory. -/
structure BufferMemoryMade : Prop where
  memoryType : ∃ index, findMemoryType (outcomes.memoryProperties gpu)
    outcomes.bufferRequirements.memoryTypeBits hostVisibleCoherent = some index
  allocated : outcomes.allocateBufferMemory = .ok ()
  bound : outcomes.bindBufferMemory = .ok ()

/-- The command pool is created, and the commands are recorded. -/
structure CommandsMade : Prop where
  created : outcomes.createCommandPool = .ok ()
  allocated : outcomes.allocateCommandBuffers = .ok ()
  begun : outcomes.beginCommandBuffer = .ok ()
  ended : outcomes.endCommandBuffer = .ok ()

variable {outcomes gpu}

theorem Chosen.unique {other : PhysicalDevice} {queueFamily index : Nat}
    (hchosen : Chosen outcomes gpu queueFamily)
    (hother : Chosen outcomes other index) : other = gpu := by
  obtain ⟨others, hfound⟩ := hchosen.device
  obtain ⟨rest, hagain⟩ := hother.device
  rw [hfound] at hagain
  cases hagain
  rfl

end Conditions

section Successes

variable (outcomes : Outcomes) (device : Handle .device)
  (image : Handle .image) (imageMemory : Handle .deviceMemory)
  (readbackBuffer : Handle .buffer) (bufferMemory : Handle .deviceMemory)
  (commandPool : Handle .commandPool) (gpu : PhysicalDevice)
  (queueFamily : Nat) (width height : UInt32)

/-- Only the first physical device and its first queue family are chosen. -/
theorem chooseQueue_chooses (caught : Stop → Option VulkanError)
    (pre : List VkCall → Prop) :
    Ensures caught pre (chooseQueue outcomes)
      (fun chosen _ => Chosen outcomes chosen.1 chosen.2) fun _ => True := by
  intro log _
  cases hfound : outcomes.physicalDevices with
  | error result =>
      simp [chooseQueue, ask, bind_run, hfound, Except.mapError]
  | ok devices =>
      cases devices with
      | nil =>
          simp [chooseQueue, ask, bind_run, hfound, Except.mapError]
      | cons gpu others =>
          cases hfamily : (outcomes.queueFamilies gpu).findIdx?
              (hasFlags · graphicsAndTransfer) with
          | none =>
              simp [chooseQueue, ask, bind_run, hfound, Except.mapError, tell,
                hfamily]
          | some queueFamily =>
              simpa [chooseQueue, ask, bind_run, hfound, Except.mapError, tell,
                hfamily] using ⟨⟨others, hfound⟩, hfamily⟩

theorem succeeds_chooseQueue :
    Succeeds (∃ gpu queueFamily, Chosen outcomes gpu queueFamily)
      (chooseQueue outcomes) := by
  intro log
  constructor
  · rintro ⟨chosen, changed, hrun⟩
    have hchosen := chooseQueue_chooses outcomes Stop.caught (fun _ => True)
      log trivial
    rw [hrun] at hchosen
    exact ⟨chosen.1, chosen.2, hchosen⟩
  · rintro ⟨gpu, queueFamily, ⟨others, hfound⟩, hfamily⟩
    refine ⟨(gpu, queueFamily), log ++ [.enumeratePhysicalDevices (.ok ())] ++
      [.getPhysicalDeviceQueueFamilyProperties gpu], ?_⟩
    simp [chooseQueue, ask, bind_run, hfound, Except.map, Except.mapError,
      tell, hfamily]

theorem succeeds_makeDevice :
    Succeeds (DeviceMade outcomes) (makeDevice outcomes gpu queueFamily) := by
  refine Succeeds.congr ((succeeds_ask outcomes _ _).bind fun extensions =>
    succeeds_create outcomes _ _) ?_
  constructor
  · rintro ⟨hextensions, hcreated⟩
    exact ⟨hextensions, hcreated⟩
  · rintro ⟨hextensions, hcreated⟩
    exact ⟨hextensions, hcreated⟩

theorem succeeds_makeImage :
    Succeeds (ImageMade outcomes gpu)
      (makeImage outcomes device gpu width height) := by
  refine Succeeds.congr ((succeeds_create outcomes _ _).bind fun image =>
    (succeeds_tell _).bind fun _ => (succeeds_tell _).bind fun _ =>
    ((Succeeds.okOr _ _).onError _).bind fun index =>
    ((succeeds_create outcomes _ _).onError _).bind fun imageMemory =>
    ((succeeds_request outcomes _ _).onError _).bind fun _ =>
      Succeeds.pure _) ?_
  constructor
  · rintro ⟨hcreated, -, -, htype, hallocated, hbound, -⟩
    exact ⟨hcreated, htype, hallocated, hbound⟩
  · rintro ⟨hcreated, htype, hallocated, hbound⟩
    exact ⟨hcreated, trivial, trivial, htype, hallocated, hbound, trivial⟩

theorem succeeds_makeBuffer :
    Succeeds (outcomes.createBuffer = .ok ())
      (makeBuffer outcomes device width height image imageMemory) :=
  (succeeds_create outcomes _ _).onError _

theorem succeeds_makeBufferMemory :
    Succeeds (BufferMemoryMade outcomes gpu)
      (makeBufferMemory outcomes device gpu image imageMemory
        readbackBuffer) := by
  refine Succeeds.congr ((succeeds_tell _).bind fun _ =>
    ((Succeeds.okOr _ _).onError _).bind fun index =>
    ((succeeds_create outcomes _ _).onError _).bind fun bufferMemory =>
    ((succeeds_request outcomes _ _).onError _).bind fun _ =>
      Succeeds.pure _) ?_
  constructor
  · rintro ⟨-, htype, hallocated, hbound, -⟩
    exact ⟨htype, hallocated, hbound⟩
  · rintro ⟨htype, hallocated, hbound⟩
    exact ⟨trivial, htype, hallocated, hbound, trivial⟩

theorem succeeds_makeCommands (color : ClearColor) :
    Succeeds (CommandsMade outcomes)
      (makeCommands outcomes device queueFamily width height color image
        imageMemory readbackBuffer bufferMemory) := by
  have hrecord : ∀ commandPool, Succeeds
      (outcomes.beginCommandBuffer = .ok () ∧
        outcomes.endCommandBuffer = .ok ())
      (recordCommands outcomes device commandPool image readbackBuffer width
        height color) := by
    intro commandPool
    refine Succeeds.congr ((succeeds_request outcomes _ _).bind fun _ =>
      (succeeds_tell _).bind fun _ => (succeeds_tell _).bind fun _ =>
      (succeeds_tell _).bind fun _ => (succeeds_tell _).bind fun _ =>
        succeeds_request outcomes _ _) ?_
    simp
  refine Succeeds.congr (((succeeds_create outcomes _ _).onError _).bind
    fun commandPool => ((succeeds_request outcomes _ _).onError _).bind
    fun _ => ((hrecord commandPool).onError _).bind fun _ =>
      Succeeds.pure _) ?_
  constructor
  · rintro ⟨hcreated, hallocated, ⟨hbegun, hended⟩, -⟩
    exact ⟨hcreated, hallocated, hbegun, hended⟩
  · rintro ⟨hcreated, hallocated, hbegun, hended⟩
    exact ⟨hcreated, hallocated, ⟨hbegun, hended⟩, trivial⟩

theorem succeeds_makeFence :
    Succeeds (outcomes.createFence = .ok ())
      (makeFence outcomes device commandPool image imageMemory readbackBuffer
        bufferMemory) :=
  (succeeds_create outcomes _ _).onError _

end Successes

/-! ### The whole render -/

section Whole

variable {outcomes : Outcomes} {width height : UInt32}

/-- The dimensions are admitted, and there is a device on which the rest is
so. -/
def OnDevice (outcomes : Outcomes) (width height : UInt32)
    (rest : PhysicalDevice → Prop) : Prop :=
  ¬ (width = 0 ∨ height = 0) ∧ ∃ gpu queueFamily,
    Chosen outcomes gpu queueFamily ∧ DeviceMade outcomes ∧ rest gpu

theorem onDevice_and {rest : PhysicalDevice → Prop} {more : Prop} :
    OnDevice outcomes width height rest ∧ more ↔
      OnDevice outcomes width height fun gpu => rest gpu ∧ more := by
  constructor
  · rintro ⟨⟨hsize, gpu, queueFamily, hchosen, hmade, hrest⟩, hmore⟩
    exact ⟨hsize, gpu, queueFamily, hchosen, hmade, hrest, hmore⟩
  · rintro ⟨hsize, gpu, queueFamily, hchosen, hmade, hrest, hmore⟩
    exact ⟨⟨hsize, gpu, queueFamily, hchosen, hmade, hrest⟩, hmore⟩

/-- The inner function breaks what a session breaks, as long as plain calls
keep what is sound and nothing repairs what is broken. -/
theorem renderClearToOffscreen_breaksIff {sound broken : List VkCall → Prop}
    {bad : PhysicalDevice → Prop} {color : ClearColor}
    (hsound : ∀ log more, sound log → (∀ call ∈ more, Plain call) →
      sound (log ++ more))
    (hbroken : ∀ log more, broken log → broken (log ++ more))
    (hinner : ∀ device gpu queueFamily,
      BreaksIff (bad gpu) sound broken sound
        (renderClearInner outcomes device gpu queueFamily width height color)) :
    BreaksIff (OnDevice outcomes width height bad) sound broken sound
      (renderClearToOffscreen outcomes width height color) := by
  have hdevice : ∀ gpu queueFamily,
      BreaksIff (DeviceMade outcomes ∧ bad gpu) sound broken sound (do
        let device ← makeDevice outcomes gpu queueFamily
        let result ← attempt Stop.caught (renderClearInner outcomes device gpu
          queueFamily width height color)
        tell (.destroyDevice device)
        Method.ofResult (result.mapError .failed)) := by
    intro gpu queueFamily
    refine BreaksIff.bind (succeeds_makeDevice outcomes gpu queueFamily)
      ((writes_makeDevice outcomes gpu queueFamily).keeps hsound)
      fun device => ?_
    have hlast : ∀ result : Except VulkanError (List UInt8), Writes Plain (do
        tell (.destroyDevice device)
        Method.ofResult (result.mapError Stop.failed)) := fun result =>
      (writes_tell trivial).bind fun _ => Writes.ofResult _
    exact (hinner device gpu queueFamily).attempt.bind_keeping
      (fun result _ hlog => (hlast result).kept_run
        (fun log more hold _ => hbroken log more hold) hlog)
      fun result _ hlog => (hlast result).kept_run hsound hlog
  have hwhole : BreaksIff (¬ (width = 0 ∨ height = 0) ∧
      (∃ gpu queueFamily, Chosen outcomes gpu queueFamily) ∧
      ∃ gpu queueFamily, Chosen outcomes gpu queueFamily ∧
        DeviceMade outcomes ∧ bad gpu) sound broken sound
      (renderClearToOffscreen outcomes width height color) := by
    refine BreaksIff.bind (Succeeds.rejectIf _ _)
      ((Writes.rejectIf _ _).keeps hsound) fun _ => ?_
    refine BreaksIff.bind (succeeds_chooseQueue outcomes)
      ((writes_chooseQueue outcomes).ensures
        (chooseQueue_chooses outcomes Stop.caught sound) hsound) ?_
    rintro ⟨gpu, queueFamily⟩
    refine BreaksIff.given fun hchosen => ?_
    refine (hdevice gpu queueFamily).congr ?_
    constructor
    · exact fun hbad => ⟨gpu, queueFamily, hchosen, hbad⟩
    · rintro ⟨other, index, hother, hbad⟩
      rwa [hchosen.unique hother] at hbad
  refine hwhole.congr ?_
  constructor
  · exact fun ⟨hsize, _, hrest⟩ => ⟨hsize, hrest⟩
  · rintro ⟨hsize, gpu, queueFamily, hchosen, hrest⟩
    exact ⟨hsize, ⟨gpu, queueFamily, hchosen⟩, gpu, queueFamily, hchosen,
      hrest⟩

end Whole

end VulkanContext

end SherGraphics
