/-
The readback buffer of an offscreen render.  The buffer, the copy into it and
the bytes that are returned have the size of the image, unless that size does
not fit 64 bits.
-/
import SherGraphics.OffscreenCalls
import SherGraphics.OffscreenLifetimes

namespace SherGraphics

namespace VulkanContext

open Method

/-- The size of the image in bytes, unbounded. -/
def imageBytes (width height : UInt32) : Nat :=
  width.toNat * height.toNat * 4

theorem toNat_bufferSize (width height : UInt32) :
    (bufferSize width height).toNat = imageBytes width height % 2 ^ 64 := by
  simp [bufferSize, imageBytes, UInt64.toNat_mul]

theorem bufferSize_exact_iff {width height : UInt32} :
    (bufferSize width height).toNat = imageBytes width height ↔
      imageBytes width height < 2 ^ 64 := by
  rw [toNat_bufferSize]
  omega

/-- A buffer that is created and the bytes that are read have the size of the
image, and a copy lies within the buffer that it writes to. -/
structure FitsImage (width height : UInt32) (before : List VkCall)
    (call : VkCall) : Prop where
  sized : ∀ device size outcome, call = .createBuffer device size outcome →
    size.toNat = imageBytes width height
  copied : ∀ device pool image layout buffer columns rows,
    call = .cmdCopyImageToBuffer device pool image layout buffer columns rows →
      ∃ owner size, .createBuffer owner size (.ok buffer) ∈ before ∧
        imageBytes columns rows ≤ size.toNat
  read : ∀ memory length, call = .readMapped memory length →
    length = imageBytes width height

def Fitting (width height : UInt32) (log : List VkCall) : Prop :=
  AtEach (FitsImage width height) log

/-- The calls of a session fit the image, and so does what it returns. -/
structure ReadsWholeImage (width height : UInt32)
    (ended : Except Stop (List UInt8) × List VkCall) : Prop where
  calls : Fitting width height ended.2
  pixels : ∀ bytes, ended.1 = .ok bytes →
    bytes.length = imageBytes width height

/-- The run gets as far as the readback buffer. -/
def BufferRequested (outcomes : Outcomes) (width height : UInt32) : Prop :=
  OnDevice outcomes width height (ImageMade outcomes)

section Fits

variable {width height : UInt32} {before : List VkCall} {call : VkCall}

theorem Plain.fits (hplain : Plain call) : FitsImage width height before call := by
  cases call <;> first
    | exact False.elim hplain
    | exact ⟨nofun, nofun, nofun⟩

theorem Requests.fits
    (hexact : (bufferSize width height).toNat = imageBytes width height)
    (hrequests : Requests width height call) :
    FitsImage width height before call := by
  cases call with
  | createBuffer device size outcome =>
      refine ⟨?_, nofun, nofun⟩
      rintro _ _ _ ⟨⟩
      rw [show size = bufferSize width height from hrequests]
      exact hexact
  | _ => exact Plain.fits hrequests

theorem Copies.fits {readbackBuffer : Handle .buffer} {device : Handle .device}
    (hexact : (bufferSize width height).toNat = imageBytes width height)
    (hcreated : .createBuffer device (bufferSize width height)
      (.ok readbackBuffer) ∈ before)
    (hcopies : Copies readbackBuffer width height call) :
    FitsImage width height before call := by
  cases call with
  | cmdCopyImageToBuffer device pool image layout buffer columns rows =>
      obtain ⟨rfl, rfl, rfl⟩ := hcopies
      refine ⟨nofun, ?_, nofun⟩
      rintro _ _ _ _ _ _ _ ⟨⟩
      exact ⟨_, _, hcreated, Nat.le_of_eq hexact.symm⟩
  | _ => exact Plain.fits hcopies

theorem Reads.fits (hreads : Reads (imageBytes width height) call) :
    FitsImage width height before call := by
  cases call with
  | readMapped memory length =>
      refine ⟨nofun, nofun, ?_⟩
      rintro _ _ ⟨⟩
      exact hreads
  | createBuffer device size outcome => exact False.elim hreads
  | cmdCopyImageToBuffer device pool image layout buffer columns rows =>
      exact False.elim hreads
  | _ => exact ⟨nofun, nofun, nofun⟩

theorem Fitting.extend {allowed : VkCall → Prop} {log more : List VkCall}
    (hfits : ∀ rest call, allowed call →
      FitsImage width height (log ++ rest) call)
    (hfitting : Fitting width height log) (hmore : ∀ call ∈ more, allowed call) :
    Fitting width height (log ++ more) :=
  AtEach.extend hfitting hmore fun rest call _ hcall => hfits rest call hcall

/-- A method that may rely on a call that is in the log. -/
theorem ensures_fitting {α : Type} {method : Render α} {allowed : VkCall → Prop}
    {made : VkCall} (hwrites : Writes allowed method)
    (hfits : ∀ before call, made ∈ before → allowed call →
      FitsImage width height before call) :
    Ensures some (fun log => Fitting width height log ∧ made ∈ log) method
      (fun _ log => Fitting width height log ∧ made ∈ log)
      (Fitting width height) := by
  refine (hwrites.keeps fun log more hlog hmore => ?_).weaken
    (fun _ hpre => hpre) (fun _ _ hpost => hpost) fun _ hfailed => hfailed.1
  have hmade : ∀ rest, made ∈ log ++ rest := fun rest =>
    List.mem_append_left rest hlog.2
  exact ⟨hlog.1.extend (fun rest call => hfits _ call (hmade rest)) hmore,
    hmade more⟩

end Fits

/-! ### From the buffer to the end -/

section AfterImage

variable (outcomes : Outcomes) (device : Handle .device)
  (gpu : PhysicalDevice) (queueFamily : Nat) (width height : UInt32)
  (color : ClearColor) (image : Handle .image)
  (imageMemory : Handle .deviceMemory)

/-- What is left of the inner function once the image has its memory. -/
def afterImage : Render (List UInt8) := do
  let readbackBuffer ← makeBuffer outcomes device width height image imageMemory
  let bufferMemory ← makeBufferMemory outcomes device gpu image imageMemory
    readbackBuffer
  let commandPool ← makeCommands outcomes device queueFamily width height color
    image imageMemory readbackBuffer bufferMemory
  let fence ← makeFence outcomes device commandPool image imageMemory
    readbackBuffer bufferMemory
  finish outcomes device image imageMemory readbackBuffer bufferMemory
    commandPool fence width height

theorem ensures_created {pre : List VkCall → Prop} {kind : VkKind}
    (outcome : Except VkResult Unit)
    (entry : Except VkResult (Handle kind) → VkCall) :
    Ensures Stop.caught pre (create outcomes outcome entry)
      (fun handle log => entry (.ok handle) ∈ log) fun _ => True := by
  intro log _
  cases outcome with
  | ok _ => exact List.mem_append_right log (List.mem_singleton_self _)
  | error result => exact fun _ => trivial

theorem makeBuffer_creates {pre : List VkCall → Prop} :
    Ensures Stop.caught pre
      (makeBuffer outcomes device width height image imageMemory)
      (fun readbackBuffer log => .createBuffer device (bufferSize width height)
        (.ok readbackBuffer) ∈ log)
      fun _ => True :=
  Ensures.onError (ensures_created outcomes _ _) (Ensures.trivial _)

/-- The buffer is requested, whatever comes of it. -/
theorem makeBuffer_requests (log : List VkCall) :
    ∃ outcome, .createBuffer device (bufferSize width height) outcome ∈
      (makeBuffer outcomes device width height image imageMemory log).2 := by
  cases hcreate : outcomes.createBuffer with
  | ok _ =>
      exact ⟨.ok ⟨log.length⟩, by simp [makeBuffer, orCleanUp, Method.onError,
        create, hcreate, Except.map, Except.mapError]⟩
  | error result =>
      exact ⟨.error result, by simp [makeBuffer, orCleanUp, Method.onError,
        create, hcreate, Except.map, Except.mapError, stop, Stop.caught,
        cleanupImage, destroyImage, freeMemory, tell, bind_run]⟩

theorem fitting_afterImage
    (hexact : (bufferSize width height).toNat = imageBytes width height) :
    Ensures some (Fitting width height)
      (afterImage outcomes device gpu queueFamily width height color image
        imageMemory)
      (fun _ => Fitting width height) (Fitting width height) := by
  have hbuffer := (writes_makeBuffer outcomes device image imageMemory width
    height).ensures (makeBuffer_creates outcomes device width height image
      imageMemory) fun log more hfitting hmore =>
        Fitting.extend (fun _ _ => Requests.fits hexact) hfitting hmore
  refine hbuffer.bind fun readbackBuffer => ?_
  refine (ensures_fitting (writes_makeBufferMemory outcomes device image
    imageMemory readbackBuffer gpu) fun _ _ _ => Plain.fits).bind
    fun bufferMemory => ?_
  refine (ensures_fitting (writes_makeCommands outcomes device image imageMemory
    readbackBuffer bufferMemory queueFamily width height color)
    fun _ _ => Copies.fits hexact).bind fun commandPool => ?_
  refine (ensures_fitting (writes_makeFence outcomes device image imageMemory
    readbackBuffer bufferMemory commandPool) fun _ _ _ => Plain.fits).bind
    fun fence => ?_
  have hfinish := writes_finish outcomes device image imageMemory readbackBuffer
    bufferMemory commandPool fence width height
  rw [hexact] at hfinish
  exact (ensures_fitting hfinish fun _ _ _ => Reads.fits).weaken
    (fun _ hpre => hpre) (fun _ _ hpost => hpost.1) fun _ hfailed => hfailed

/-- A buffer of another size is created first. -/
theorem misfitting_afterImage
    (hwraps : (bufferSize width height).toNat ≠ imageBytes width height)
    (log : List VkCall) :
    ¬ Fitting width height (afterImage outcomes device gpu queueFamily width
      height color image imageMemory log).2 := by
  obtain ⟨outcome, hmem⟩ := makeBuffer_requests outcomes device width height
    image imageMemory log
  have hlogged : .createBuffer device (bufferSize width height) outcome ∈
      (afterImage outcomes device gpu queueFamily width height color image
        imageMemory log).2 := by
    refine Writes.mem_bind (?_ : ∀ _, Writes (fun _ => True) _) hmem
    intro readbackBuffer
    refine ((writes_makeBufferMemory outcomes device image imageMemory
      readbackBuffer gpu).mono fun _ _ => trivial).bind fun bufferMemory => ?_
    refine ((writes_makeCommands outcomes device image imageMemory
      readbackBuffer bufferMemory queueFamily width height color).mono
      fun _ _ => trivial).bind fun commandPool => ?_
    refine ((writes_makeFence outcomes device image imageMemory readbackBuffer
      bufferMemory commandPool).mono fun _ _ => trivial).bind fun fence => ?_
    exact (writes_finish outcomes device image imageMemory readbackBuffer
      bufferMemory commandPool fence width height).mono fun _ _ => trivial
  intro hfitting
  obtain ⟨before, after, hsplit⟩ := List.append_of_mem hlogged
  exact hwraps ((hfitting _ _ _ hsplit).sized _ _ _ rfl)

end AfterImage

/-! ### The whole render -/

section Whole

variable (outcomes : Outcomes) (device : Handle .device)
  (gpu : PhysicalDevice) (queueFamily : Nat) (width height : UInt32)
  (color : ClearColor)

theorem renderClearInner_misfits :
    BreaksIff (ImageMade outcomes gpu ∧ ¬ imageBytes width height < 2 ^ 64)
      (Fitting width height) (fun log => ¬ Fitting width height log)
      (Fitting width height)
      (renderClearInner outcomes device gpu queueFamily width height color) := by
  have hplain : ∀ log more, Fitting width height log →
      (∀ call ∈ more, Plain call) → Fitting width height (log ++ more) :=
    fun _ _ => Fitting.extend fun _ _ => Plain.fits
  have hqueue : Writes Plain (tell (.getDeviceQueue device queueFamily)) :=
    writes_tell trivial
  refine (BreaksIff.bind (succeeds_tell _) (hqueue.keeps hplain)
    fun _ => ?_).congr (Iff.of_eq (true_and _))
  refine BreaksIff.bind (succeeds_makeImage outcomes device gpu width height)
    ((writes_makeImage outcomes device gpu width height).keeps hplain) ?_
  rintro ⟨image, imageMemory⟩
  refine BreaksIff.of_ensures (fun hwraps log _ => ?_) fun hfits => ?_
  · rw [← bufferSize_exact_iff] at hwraps
    exact misfitting_afterImage outcomes device gpu queueFamily width height
      color image imageMemory hwraps log
  · rw [not_not, ← bufferSize_exact_iff] at hfits
    exact fitting_afterImage outcomes device gpu queueFamily width height color
      image imageMemory hfits

theorem session_misfits :
    BreaksIff (BufferRequested outcomes width height ∧
        ¬ imageBytes width height < 2 ^ 64)
      (Fitting width height) (fun log => ¬ Fitting width height log)
      (Fitting width height)
      (renderClearToOffscreen outcomes width height color) :=
  (renderClearToOffscreen_breaksIff
    (fun _ _ => Fitting.extend fun _ _ => Plain.fits)
    (fun _ _ hmisfits hall => hmisfits hall.shorten)
    fun device gpu queueFamily => renderClearInner_misfits outcomes device gpu
      queueFamily width height color).congr onDevice_and.symm

/-- As many bytes are read as the buffer was to have. -/
theorem length_of_submitAndRead {commandPool : Handle .commandPool}
    {fence : Handle .fence} {bufferMemory : Handle .deviceMemory}
    {log changed : List VkCall} {bytes : List UInt8}
    (hrun : submitAndRead outcomes device commandPool fence bufferMemory width
      height log = (.ok bytes, changed)) :
    bytes.length = (bufferSize width height).toNat := by
  obtain ⟨_, _, -, hrun⟩ := ok_of_bind hrun
  obtain ⟨_, _, -, hrun⟩ := ok_of_bind hrun
  obtain ⟨_, _, -, hrun⟩ := ok_of_bind hrun
  obtain ⟨read, middle, hread, hrun⟩ := ok_of_bind hrun
  cases hrun
  rw [readMapped] at hread
  split at hread
  · cases hread
    simp
  · cases hread

theorem returned_of_renderClearInner {log changed : List VkCall}
    {bytes : List UInt8}
    (hrun : renderClearInner outcomes device gpu queueFamily width height color
      log = (.ok bytes, changed)) :
    ImageMade outcomes gpu ∧
      bytes.length = (bufferSize width height).toNat := by
  obtain ⟨_, _, -, hrun⟩ := ok_of_bind hrun
  obtain ⟨⟨image, imageMemory⟩, _, himage, hrun⟩ := ok_of_bind hrun
  obtain ⟨_, _, -, hrun⟩ := ok_of_bind hrun
  obtain ⟨_, _, -, hrun⟩ := ok_of_bind hrun
  obtain ⟨_, _, -, hrun⟩ := ok_of_bind hrun
  obtain ⟨_, _, -, hrun⟩ := ok_of_bind hrun
  obtain ⟨pixels, _, hpixels, hrun⟩ := ok_of_bind hrun
  obtain ⟨_, _, -, hrun⟩ := ok_of_bind hrun
  refine ⟨(succeeds_makeImage outcomes device gpu width height _).mp
    ⟨_, _, himage⟩, ?_⟩
  cases pixels with
  | error reason => cases hrun
  | ok read =>
      cases hrun
      exact length_of_submitAndRead outcomes device width height
        (ok_of_attempt hpixels)

theorem returned_of_session {bytes : List UInt8}
    (hok : (session outcomes width height color).1 = .ok bytes) :
    BufferRequested outcomes width height ∧
      bytes.length = (bufferSize width height).toNat := by
  have hrun : renderClearToOffscreen outcomes width height color [] =
      (.ok bytes, (session outcomes width height color).2) := by
    rw [← hok]
    rfl
  obtain ⟨_, admitted, hsize, hrun⟩ := ok_of_bind hrun
  obtain ⟨⟨gpu, queueFamily⟩, _, hchoose, hrun⟩ := ok_of_bind hrun
  obtain ⟨device, _, hdevice, hrun⟩ := ok_of_bind hrun
  obtain ⟨result, _, hresult, hrun⟩ := ok_of_bind hrun
  obtain ⟨_, _, -, hrun⟩ := ok_of_bind hrun
  cases result with
  | error reason => cases hrun
  | ok read =>
      cases hrun
      have hinner := returned_of_renderClearInner outcomes device gpu queueFamily
        width height color (ok_of_attempt hresult)
      have hchosen := chooseQueue_chooses outcomes Stop.caught (fun _ => True)
        admitted trivial
      rw [hchoose] at hchosen
      refine ⟨⟨(Succeeds.rejectIf _ _ _).mp ⟨_, _, hsize⟩, gpu, queueFamily,
        hchosen, ?_, hinner.1⟩, hinner.2⟩
      exact (succeeds_makeDevice outcomes gpu queueFamily _).mp ⟨_, _, hdevice⟩

/-- The buffer, the copy and the returned bytes have the size of the image,
unless that size does not fit 64 bits and a buffer is asked for. -/
theorem reads_whole_image_iff :
    ReadsWholeImage width height (session outcomes width height color) ↔
      (BufferRequested outcomes width height →
        imageBytes width height < 2 ^ 64) := by
  have hbreaks := session_misfits outcomes width height color [] atEach_nil
  constructor
  · intro hreads hrequested
    by_contra hwraps
    exact hbreaks.1 ⟨hrequested, hwraps⟩ hreads.calls
  · intro hfits
    refine ⟨hbreaks.2 fun ⟨hrequested, hwraps⟩ => hwraps (hfits hrequested), ?_⟩
    intro bytes hok
    obtain ⟨hrequested, hlength⟩ :=
      returned_of_session outcomes width height color hok
    rw [hlength]
    exact bufferSize_exact_iff.mpr (hfits hrequested)

end Whole

namespace HugeImage

/-- The size wraps to zero, and a successful render returns no pixels. -/
theorem no_pixels_returned :
    (session OnePixel.healthy 2147483648 2147483648 ⟨0, 0, 0, 0⟩).1 = .ok [] ∧
      ¬ ReadsWholeImage 2147483648 2147483648
        (session OnePixel.healthy 2147483648 2147483648 ⟨0, 0, 0, 0⟩) := by
  have hempty : (session OnePixel.healthy 2147483648 2147483648
      ⟨0, 0, 0, 0⟩).1 = .ok [] := by decide
  refine ⟨hempty, fun hreads => ?_⟩
  exact absurd (hreads.pixels [] hempty) (by decide)

end HugeImage

end VulkanContext

end SherGraphics
