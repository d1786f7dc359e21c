/-
Submitted work that is still pending while an offscreen render goes on, and
what the render destroys and reads in the meantime.  Only a wait that fails, on
a device that is not lost, leaves the work pending behind it.
-/
import SherGraphics.OffscreenCalls
import SherGraphics.OffscreenLifetimes

namespace SherGraphics

namespace VkCall

/-- The outcome that a call reports. -/
def reported : VkCall → Except VkResult Unit
  | .enumeratePhysicalDevices outcome
  | .enumerateDeviceExtensionProperties _ outcome
  | .bindImageMemory _ _ _ outcome
  | .bindBufferMemory _ _ _ outcome
  | .allocateCommandBuffers _ _ outcome
  | .beginCommandBuffer _ _ outcome
  | .endCommandBuffer _ _ outcome
  | .queueSubmit _ _ _ outcome
  | .waitForFences _ _ outcome
  | .mapMemory _ _ _ outcome => outcome
  | .createDevice _ _ _ outcome => outcome.map fun _ => ()
  | .createImage _ _ _ outcome => outcome.map fun _ => ()
  | .allocateMemory _ _ _ outcome => outcome.map fun _ => ()
  | .createBuffer _ _ outcome => outcome.map fun _ => ()
  | .createCommandPool _ _ outcome => outcome.map fun _ => ()
  | .createFence _ outcome => outcome.map fun _ => ()
  | _ => .ok ()

/-- The fence of a successful submission. -/
def submits : VkCall → Option (Handle .fence)
  | .queueSubmit _ _ fence (.ok _) => some fence
  | _ => none

/-- The fence of a successful wait. -/
def awaits : VkCall → Option (Handle .fence)
  | .waitForFences _ fence (.ok _) => some fence
  | _ => none

/-- The pool whose command buffer the call records into. -/
def recordsInto : VkCall → Option (Handle .commandPool)
  | .cmdPipelineBarrier _ pool _ _ _ _ _
  | .cmdClearColorImage _ pool _ _ _
  | .cmdCopyImageToBuffer _ pool _ _ _ _ _ => some pool
  | _ => none

/-- The image or buffer that is bound, and the memory it is bound to. -/
def binds : VkCall → Option (VkObject × VkObject)
  | .bindImageMemory _ image memory (.ok _) =>
      some (image.object, memory.object)
  | .bindBufferMemory _ buffer memory (.ok _) =>
      some (buffer.object, memory.object)
  | _ => none

end VkCall

namespace VulkanContext

open Method

section Pending

variable (before : List VkCall) (device : Handle .device)
  (pool : Handle .commandPool) (fence : Handle .fence)

/-- What a submission of the pool's commands refers to. -/
inductive RefersTo : VkObject → Prop
  | device : RefersTo device.object
  | pool : RefersTo pool.object
  | fence : RefersTo fence.object
  | recorded {call : VkCall} {object : VkObject} (hmem : call ∈ before)
      (hpool : call.recordsInto = some pool) (hused : object ∈ call.uses) :
      RefersTo object
  | bound {call : VkCall} {resource memory : VkObject} (hmem : call ∈ before)
      (hbinds : call.binds = some (resource, memory))
      (hresource : RefersTo resource) : RefersTo memory

/-- The call tells that the fence is signalled, or that the device is lost. -/
def Settles (call : VkCall) : Prop :=
  call.awaits = some fence ∨ call.reported = .error .errorDeviceLost

/-- A submission with the fence is pending. -/
def PendingOn (log : List VkCall) : Prop :=
  Ongoing (fun call => call.submits = some fence) (Settles fence) log

end Pending

/-- A submission that refers to the object is pending. -/
def InUse (log : List VkCall) (object : VkObject) : Prop :=
  ∃ before device pool fence after,
    log = before ++ .queueSubmit device pool fence (.ok ()) :: after ∧
      RefersTo before device pool fence object ∧
      ∀ later ∈ after, ¬ Settles fence later

/-- The commands of the pool copy into a buffer that is bound to the memory. -/
def CopiesInto (log : List VkCall) (pool : Handle .commandPool)
    (memory : Handle .deviceMemory) : Prop :=
  ∃ buffer,
    (∃ device image layout width height,
      .cmdCopyImageToBuffer device pool image layout buffer width height ∈
        log) ∧
    ∃ device, .bindBufferMemory device buffer memory (.ok ()) ∈ log

/-- A copy into the memory was submitted, and then waited for. -/
def CopyCompleted (log : List VkCall) (memory : Handle .deviceMemory) : Prop :=
  ∃ before device pool fence after,
    log = before ++ .queueSubmit device pool fence (.ok ()) :: after ∧
      CopiesInto before pool memory ∧
      .waitForFences device fence (.ok ()) ∈ after

/-- Nothing in use is destroyed, and mapped memory is read only when the copy
into it has completed. -/
structure Permitted (before : List VkCall) (call : VkCall) : Prop where
  unused : ∀ object, call.destroys = some object → ¬ InUse before object
  completed : ∀ memory length, call = .readMapped memory length →
    CopyCompleted before memory

def Undisturbed (log : List VkCall) : Prop := AtEach Permitted log

/-- So far nothing was disturbed, and no work is pending. -/
structure Settled (log : List VkCall) : Prop where
  undisturbed : Undisturbed log
  idle : ∀ fence, ¬ PendingOn fence log

theorem InUse.pendingOn {log : List VkCall} {object : VkObject}
    (huse : InUse log object) : ∃ fence, PendingOn fence log := by
  obtain ⟨before, device, pool, fence, after, rfl, -, hnone⟩ := huse
  exact ⟨fence, before, _, after, rfl, rfl, hnone⟩

theorem CopiesInto.append {log : List VkCall} {pool : Handle .commandPool}
    {memory : Handle .deviceMemory} (hcopies : CopiesInto log pool memory)
    (more : List VkCall) : CopiesInto (log ++ more) pool memory := by
  obtain ⟨buffer, ⟨device, image, layout, width, height, hcopy⟩, owner, hbind⟩ :=
    hcopies
  exact ⟨buffer, ⟨device, image, layout, width, height,
    List.mem_append_left more hcopy⟩, owner, List.mem_append_left more hbind⟩

theorem CopyCompleted.append {log : List VkCall}
    {memory : Handle .deviceMemory} (hcompleted : CopyCompleted log memory)
    (more : List VkCall) : CopyCompleted (log ++ more) memory := by
  obtain ⟨before, device, pool, fence, after, rfl, hcopies, hwait⟩ := hcompleted
  exact ⟨before, device, pool, fence, after ++ more, by simp, hcopies,
    List.mem_append_left more hwait⟩

theorem settled_nil : Settled [] :=
  ⟨atEach_nil, fun _ => not_ongoing_nil⟩

/-- Nothing is disturbed as long as nothing is submitted, and only memory whose
copy has completed is read. -/
theorem Settled.extend {log more : List VkCall} (hsettled : Settled log)
    (hquiet : ∀ call ∈ more, call.submits = none ∧
      ∀ memory length, call = .readMapped memory length →
        CopyCompleted log memory) : Settled (log ++ more) := by
  have hidle : ∀ rest, (∀ call ∈ rest, call.submits = none ∧
      ∀ memory length, call = .readMapped memory length →
        CopyCompleted log memory) → ∀ fence, ¬ PendingOn fence (log ++ rest) := by
    intro rest hrest fence
    refine ongoing_append_of_idle (fun call hmem => ?_) (hsettled.idle fence)
    simp [(hrest call hmem).1]
  refine ⟨hsettled.undisturbed.extend hquiet ?_, hidle more hquiet⟩
  intro rest call hrest hcall
  constructor
  · intro object hdestroys huse
    obtain ⟨fence, hpending⟩ := huse.pendingOn
    exact hidle rest hrest fence hpending
  · intro memory length hread
    exact (hcall.2 memory length hread).append rest

/-- The call neither submits work nor reads what work wrote. -/
def Quiet (call : VkCall) : Prop :=
  call.submits = none ∧ ∀ memory length, call ≠ .readMapped memory length

theorem Plain.quiet {call : VkCall} (hplain : Plain call) : Quiet call := by
  cases call <;> first
    | exact False.elim hplain
    | exact ⟨rfl, nofun⟩

theorem Requests.quiet {width height : UInt32} {call : VkCall}
    (hrequests : Requests width height call) : Quiet call := by
  cases call <;> first
    | exact Plain.quiet hrequests
    | exact ⟨rfl, nofun⟩

theorem Copies.quiet {readbackBuffer : Handle .buffer} {width height : UInt32}
    {call : VkCall} (hcopies : Copies readbackBuffer width height call) :
    Quiet call := by
  cases call <;> first
    | exact Plain.quiet hcopies
    | exact ⟨rfl, nofun⟩

theorem Settled.quiet {log more : List VkCall} (hsettled : Settled log)
    (hmore : ∀ call ∈ more, Quiet call) : Settled (log ++ more) := by
  refine hsettled.extend fun call hmem => ⟨(hmore call hmem).1, ?_⟩
  exact fun memory length heq => absurd heq ((hmore call hmem).2 memory length)

/-! ### From the submission to the end -/

section Submission

variable (outcomes : Outcomes) (device : Handle .device)
  (image : Handle .image) (imageMemory : Handle .deviceMemory)
  (readbackBuffer : Handle .buffer) (bufferMemory : Handle .deviceMemory)
  (commandPool : Handle .commandPool) (fence : Handle .fence)
  (width height : UInt32)

/-- The wait fails, and not because the device is lost. -/
def WaitStuck : Prop :=
  ∃ result, outcomes.waitForFences = .error result ∧
    result ≠ .errorDeviceLost

/-- Nothing is pending, and the commands for the copy are there. -/
def Ready (log : List VkCall) : Prop :=
  Settled log ∧ CopiesInto log commandPool bufferMemory

/-- The log with a submission that succeeded, and the wait for it. -/
def submitted (log : List VkCall) (outcome : Except VkResult Unit) :
    List VkCall :=
  log ++ [.queueSubmit device commandPool fence (.ok ())] ++
    [.waitForFences device fence outcome]

theorem inUse_of_stuck {log : List VkCall} {result : VkResult}
    (hresult : result ≠ .errorDeviceLost) :
    InUse (submitted device commandPool fence log (.error result))
      fence.object := by
  refine ⟨log, device, commandPool, fence, [.waitForFences device fence
    (.error result)], by simp [submitted], .fence, ?_⟩
  intro later hmem
  rw [List.mem_singleton.mp hmem]
  rintro (hawaits | hreported)
  · cases hawaits
  · exact hresult (Except.error.inj hreported)

/-- A wait that succeeds or loses the device leaves nothing pending. -/
theorem settled_submitted {log : List VkCall} {outcome : Except VkResult Unit}
    (hsettled : Settled log)
    (hsettles : Settles fence (.waitForFences device fence outcome)) :
    Settled (submitted device commandPool fence log outcome) := by
  have hsubmit : Undisturbed
      (log ++ [.queueSubmit device commandPool fence (.ok ())]) :=
    atEach_concat.mpr ⟨hsettled.undisturbed, nofun, nofun⟩
  refine ⟨atEach_concat.mpr ⟨hsubmit, nofun, nofun⟩, fun other hpending => ?_⟩
  rw [submitted, PendingOn, ongoing_concat, ongoing_concat] at hpending
  rcases hpending with hwait | ⟨hsame | ⟨hold, -⟩, hnot⟩
  · cases hwait
  · cases hsame
    exact hnot hsettles
  · exact hsettled.idle other hold

theorem copyCompleted_submitted {log : List VkCall}
    (hcopies : CopiesInto log commandPool bufferMemory) :
    CopyCompleted (submitted device commandPool fence log (.ok ()))
      bufferMemory :=
  ⟨log, device, commandPool, fence, [.waitForFences device fence (.ok ())],
    by simp [submitted], hcopies, List.mem_singleton_self _⟩

/-- Map the memory, read it and unmap it. -/
def readBack : Render (List UInt8) := do
  ask outcomes outcomes.mapMemory
    (.mapMemory device bufferMemory (bufferSize width height))
  let bytes ← readMapped outcomes bufferMemory (bufferSize width height).toNat
  tell (.unmapMemory device bufferMemory)
  pure bytes

theorem settled_readBack {log : List VkCall} (hsettled : Settled log)
    (hcompleted : CopyCompleted log bufferMemory) :
    Settled (readBack outcomes device bufferMemory width height log).2 := by
  let allowed (call : VkCall) : Prop := call.submits = none ∧
    ∀ memory length, call = .readMapped memory length →
      CopyCompleted log memory
  have hallowed : ∀ length, allowed (.readMapped bufferMemory length) := by
    refine fun length => ⟨rfl, ?_⟩
    rintro memory _ ⟨⟩
    exact hcompleted
  have hread : Writes allowed (readMapped outcomes bufferMemory
      (bufferSize width height).toNat) :=
    Writes.one (fun _ => rfl) fun _ => hallowed _
  have hwrites : Writes allowed
      (readBack outcomes device bufferMemory width height) := by
    refine (writes_ask outcomes fun _ => ⟨rfl, nofun⟩).bind fun _ => ?_
    refine hread.bind fun bytes => ?_
    exact (writes_tell ⟨rfl, nofun⟩).bind fun _ => Writes.pure _
  obtain ⟨more, hmore, hquiet⟩ := hwrites log
  rw [hmore]
  exact hsettled.extend hquiet

section Endings

variable {outcomes width height}

theorem submitAndRead_of_refused {result : VkResult} (log : List VkCall)
    (hsubmit : outcomes.queueSubmit = .error result) :
    submitAndRead outcomes device commandPool fence bufferMemory width height
        log =
      (.error (stop outcomes result),
        log ++ [.queueSubmit device commandPool fence (.error result)]) := by
  simp [submitAndRead, ask, bind_run, hsubmit, Except.map, Except.mapError]

theorem submitAndRead_of_failedWait {result : VkResult} (log : List VkCall)
    (hsubmit : outcomes.queueSubmit = .ok ())
    (hwait : outcomes.waitForFences = .error result) :
    submitAndRead outcomes device commandPool fence bufferMemory width height
        log =
      (.error (stop outcomes result),
        submitted device commandPool fence log (.error result)) := by
  simp [submitAndRead, submitted, ask, bind_run, hsubmit, hwait, Except.map,
    Except.mapError]

theorem submitAndRead_of_completed (log : List VkCall)
    (hsubmit : outcomes.queueSubmit = .ok ())
    (hwait : outcomes.waitForFences = .ok ()) :
    submitAndRead outcomes device commandPool fence bufferMemory width height
        log =
      readBack outcomes device bufferMemory width height
        (submitted device commandPool fence log (.ok ())) := by
  simp [submitAndRead, readBack, submitted, ask, bind_run, hsubmit, hwait,
    Except.map, Except.mapError]

end Endings

theorem submitAndRead_breaksIff :
    BreaksIff (outcomes.queueSubmit = .ok () ∧ WaitStuck outcomes)
      (Ready bufferMemory commandPool) (fun _ => True) Settled
      (submitAndRead outcomes device commandPool fence bufferMemory width
        height) := by
  rintro log ⟨hsettled, hcopies⟩
  refine ⟨fun _ => trivial, fun hgood => ?_⟩
  cases hsubmit : outcomes.queueSubmit with
  | error result =>
      rw [submitAndRead_of_refused device bufferMemory commandPool fence log
        hsubmit]
      refine hsettled.quiet fun call hmem => ?_
      rw [List.mem_singleton.mp hmem]
      exact ⟨rfl, nofun⟩
  | ok _ =>
      cases hwait : outcomes.waitForFences with
      | ok _ =>
          rw [submitAndRead_of_completed device bufferMemory commandPool fence
            log hsubmit hwait]
          refine settled_readBack outcomes device bufferMemory width height
            (settled_submitted device commandPool fence hsettled
              (Or.inl rfl)) ?_
          exact copyCompleted_submitted device bufferMemory commandPool fence
            hcopies
      | error result =>
          have hlost : result = .errorDeviceLost := by
            by_contra hother
            exact hgood ⟨hsubmit, result, hwait, hother⟩
          rw [submitAndRead_of_failedWait device bufferMemory commandPool fence
            log hsubmit hwait, hlost]
          exact settled_submitted device commandPool fence hsettled
            (Or.inr rfl)

/-- What is disturbed stays so. -/
theorem disturbed_of_writes {α : Type} {allowed : VkCall → Prop}
    {method : Render α} (hwrites : Writes allowed method) {log : List VkCall}
    (hdisturbed : ¬ Undisturbed log) : ¬ Undisturbed (method log).2 := by
  obtain ⟨more, hmore, -⟩ := hwrites log
  rw [hmore]
  exact fun hall => hdisturbed hall.shorten

/-- The fence is destroyed first, also when it is in use. -/
theorem disturbed_finish {log : List VkCall}
    (hsubmit : outcomes.queueSubmit = .ok ()) (hstuck : WaitStuck outcomes) :
    ¬ Undisturbed (finish outcomes device image imageMemory readbackBuffer
      bufferMemory commandPool fence width height log).2 := by
  obtain ⟨result, hwait, hresult⟩ := hstuck
  let pending := submitted device commandPool fence log (.error result)
  have hattempt : attempt Stop.caught (submitAndRead outcomes device commandPool
      fence bufferMemory width height) log =
      (.ok (.error (.ofResult outcomes.text result)), pending) := by
    rw [attempt, submitAndRead_of_failedWait device bufferMemory commandPool
      fence log hsubmit hwait]
    rfl
  let rest : Render (List UInt8) := do
    destroyCommandPool device commandPool
    cleanupBoth device image imageMemory readbackBuffer bufferMemory
    Method.ofResult ((.error (.ofResult outcomes.text result) :
      Except VulkanError (List UInt8)).mapError .failed)
  have hrun : finish outcomes device image imageMemory readbackBuffer
      bufferMemory commandPool fence width height log =
      rest (pending ++ [VkCall.destroyFence device fence]) :=
    bind_of_ok hattempt
  have hwrites : Writes Plain rest :=
    (writes_tell trivial).bind fun _ =>
      (writes_cleanupBoth device image imageMemory readbackBuffer
        bufferMemory).bind fun _ => Writes.ofResult _
  rw [hrun]
  refine disturbed_of_writes hwrites fun hall => ?_
  exact (atEach_concat.mp hall).2.unused _ rfl
    (inUse_of_stuck device commandPool fence hresult)

theorem finish_breaksIff :
    BreaksIff (outcomes.queueSubmit = .ok () ∧ WaitStuck outcomes)
      (Ready bufferMemory commandPool) (fun log => ¬ Undisturbed log) Settled
      (finish outcomes device image imageMemory readbackBuffer bufferMemory
        commandPool fence width height) := by
  intro log hready
  refine ⟨fun ⟨hsubmit, hstuck⟩ => disturbed_finish outcomes device image
    imageMemory readbackBuffer bufferMemory commandPool fence width height
    hsubmit hstuck, ?_⟩
  have hread : BreaksIff (outcomes.queueSubmit = .ok () ∧ WaitStuck outcomes)
      (Ready bufferMemory commandPool) (fun _ => True) Settled
      (attempt Stop.caught (submitAndRead outcomes device commandPool fence
        bufferMemory width height)) :=
    (submitAndRead_breaksIff outcomes device bufferMemory commandPool fence
      width height).attempt
  refine (hread.bind_keeping (fun _ _ _ => trivial) fun pixels log hsettled =>
    ?_) log hready |>.2
  have hwrites := (writes_tearDown device image imageMemory readbackBuffer
    bufferMemory commandPool fence).bind fun _ =>
      Writes.ofResult (pixels.mapError Stop.failed)
  exact (hwrites.mono fun _ => Plain.quiet).kept_run
    (fun _ _ hlog hmore => hlog.quiet hmore) hsettled

end Submission

/-! ### The whole render -/

section Whole

variable (outcomes : Outcomes) (device : Handle .device)
  (image : Handle .image) (imageMemory : Handle .deviceMemory)
  (readbackBuffer : Handle .buffer) (bufferMemory : Handle .deviceMemory)
  (gpu : PhysicalDevice) (queueFamily : Nat) (width height : UInt32)
  (color : ClearColor) {pre : List VkCall → Prop}

/-- What succeeds is in the log. -/
theorem ensures_asked (entry : Except VkResult Unit → VkCall)
    (outcome : Except VkResult Unit) :
    Ensures Stop.caught pre (ask outcomes outcome entry)
      (fun _ log => entry (.ok ()) ∈ log) fun _ => True := by
  intro log _
  cases outcome with
  | ok _ => exact List.mem_append_right log (List.mem_singleton_self _)
  | error result => exact fun _ => trivial

theorem makeBufferMemory_binds :
    Ensures Stop.caught pre
      (makeBufferMemory outcomes device gpu image imageMemory readbackBuffer)
      (fun bufferMemory log =>
        .bindBufferMemory device readbackBuffer bufferMemory (.ok ()) ∈ log)
      fun _ => True := by
  refine (Ensures.trivial _).bind fun _ => ?_
  refine (Ensures.trivial _).bind fun index => ?_
  refine (Ensures.trivial _).bind fun bufferMemory => ?_
  refine (Ensures.onError (ensures_asked outcomes
    (.bindBufferMemory device readbackBuffer bufferMemory) _)
    (Ensures.trivial _)).bind fun _ => ?_
  exact Ensures.pure fun _ hbound => hbound

theorem makeCommands_copies :
    Ensures Stop.caught pre
      (makeCommands outcomes device queueFamily width height color image
        imageMemory readbackBuffer bufferMemory)
      (fun commandPool log => .cmdCopyImageToBuffer device commandPool image
        .transferSrcOptimal readbackBuffer width height ∈ log)
      fun _ => True := by
  refine (Ensures.trivial _).bind fun commandPool => ?_
  refine (Ensures.trivial _).bind fun _ => ?_
  let copy : VkCall := .cmdCopyImageToBuffer device commandPool image
    .transferSrcOptimal readbackBuffer width height
  have hrecord : Ensures Stop.caught (fun _ => True)
      (recordCommands outcomes device commandPool image readbackBuffer width
        height color) (fun _ log => copy ∈ log) fun _ => True := by
    refine (Ensures.trivial _).bind fun _ => ?_
    refine (Ensures.trivial _).bind fun _ => ?_
    refine (Ensures.trivial _).bind fun _ => ?_
    refine (Ensures.trivial _).bind fun _ => ?_
    have hcopy : Ensures Stop.caught (fun _ => True) (tell copy)
        (fun _ log => copy ∈ log) fun _ => True :=
      Ensures.change fun log _ =>
        List.mem_append_right log (List.mem_singleton_self copy)
    refine hcopy.bind fun _ log hmem => ?_
    rw [ask]
    cases outcomes.endCommandBuffer with
    | ok _ => exact List.mem_append_left _ hmem
    | error result => exact fun _ => trivial
  refine (Ensures.onError hrecord (Ensures.trivial _)).bind fun _ => ?_
  exact Ensures.pure fun _ hcopied => hcopied

theorem ensures_settled {α : Type} {method : Render α}
    (hwrites : Writes Quiet method) :
    Ensures some Settled method (fun _ => Settled) Settled :=
  hwrites.keeps fun _ _ hsettled hmore => hsettled.quiet hmore

theorem ensures_ready (commandPool : Handle .commandPool) {α : Type}
    {method : Render α} (hwrites : Writes Quiet method) :
    Ensures some (Ready bufferMemory commandPool) method
      (fun _ => Ready bufferMemory commandPool) Settled :=
  (hwrites.keeps fun _ more hready hmore =>
    ⟨hready.1.quiet hmore, hready.2.append more⟩).weaken (fun _ hpre => hpre)
    (fun _ _ hpost => hpost) fun _ hfailed => hfailed.1

/-- The commands are recorded for a buffer that has its memory. -/
theorem makeCommands_ready :
    Ensures some
      (fun log => Settled log ∧
        .bindBufferMemory device readbackBuffer bufferMemory (.ok ()) ∈ log)
      (makeCommands outcomes device queueFamily width height color image
        imageMemory readbackBuffer bufferMemory)
      (fun commandPool => Ready bufferMemory commandPool) Settled := by
  let bound (log : List VkCall) : Prop := Settled log ∧
    .bindBufferMemory device readbackBuffer bufferMemory (.ok ()) ∈ log
  have hkept : ∀ log more, bound log →
      (∀ call ∈ more, Quiet call) → bound (log ++ more) :=
    fun _ more hpre hmore =>
      ⟨hpre.1.quiet hmore, List.mem_append_left more hpre.2⟩
  have hcommands := ((writes_makeCommands outcomes device image imageMemory
    readbackBuffer bufferMemory queueFamily width height color).mono
    fun _ => Copies.quiet).ensures
    (makeCommands_copies outcomes device image imageMemory readbackBuffer
      bufferMemory queueFamily width height color) hkept
  refine hcommands.weaken (fun _ hpre => hpre) ?_ fun _ hfailed => hfailed.1
  rintro commandPool log ⟨⟨hsettled, hbound⟩, hcopied⟩
  exact ⟨hsettled, readbackBuffer, ⟨device, image, .transferSrcOptimal, width,
    height, hcopied⟩, device, hbound⟩

/-- Everything up to the submission succeeds, and the submission as well. -/
structure WorkSubmitted : Prop where
  image : ImageMade outcomes gpu
  buffer : outcomes.createBuffer = .ok ()
  bufferMemory : BufferMemoryMade outcomes gpu
  commands : CommandsMade outcomes
  fence : outcomes.createFence = .ok ()
  submitted : outcomes.queueSubmit = .ok ()

theorem renderClearInner_breaksIff :
    BreaksIff (WorkSubmitted outcomes gpu ∧ WaitStuck outcomes) Settled
      (fun log => ¬ Undisturbed log) Settled
      (renderClearInner outcomes device gpu queueFamily width height
        color) := by
  have hrest : BreaksIff (True ∧ ImageMade outcomes gpu ∧
      outcomes.createBuffer = .ok () ∧ BufferMemoryMade outcomes gpu ∧
      CommandsMade outcomes ∧ outcomes.createFence = .ok () ∧
      outcomes.queueSubmit = .ok () ∧ WaitStuck outcomes) Settled (fun log => ¬ Undisturbed log) Settled
      (renderClearInner outcomes device gpu queueFamily width height
        color) := by
    refine BreaksIff.bind (succeeds_tell _)
      (ensures_settled (writes_tell ⟨rfl, nofun⟩)) fun _ => ?_
    refine BreaksIff.bind (succeeds_makeImage outcomes device gpu width height)
      (ensures_settled ((writes_makeImage outcomes device gpu width
        height).mono fun _ => Plain.quiet)) ?_
    rintro ⟨image, imageMemory⟩
    refine BreaksIff.bind (succeeds_makeBuffer outcomes device image imageMemory
      width height) (ensures_settled ((writes_makeBuffer outcomes device image
        imageMemory width height).mono fun _ => Requests.quiet))
      fun readbackBuffer => ?_
    refine BreaksIff.bind (succeeds_makeBufferMemory outcomes device image
      imageMemory readbackBuffer gpu) (((writes_makeBufferMemory outcomes device
        image imageMemory readbackBuffer gpu).mono fun _ => Plain.quiet).ensures
        (makeBufferMemory_binds outcomes device image imageMemory
          readbackBuffer gpu) fun _ _ hsettled hmore => hsettled.quiet hmore)
      fun bufferMemory => ?_
    refine BreaksIff.bind (succeeds_makeCommands outcomes device image
      imageMemory readbackBuffer bufferMemory queueFamily width height color)
      (makeCommands_ready outcomes device image imageMemory readbackBuffer
        bufferMemory queueFamily width height color) fun commandPool => ?_
    refine BreaksIff.bind (succeeds_makeFence outcomes device image imageMemory
      readbackBuffer bufferMemory commandPool)
      (ensures_ready bufferMemory commandPool
        ((writes_makeFence outcomes device image imageMemory readbackBuffer
          bufferMemory commandPool).mono fun _ => Plain.quiet))
      fun fence => ?_
    exact finish_breaksIff outcomes device image imageMemory readbackBuffer
      bufferMemory commandPool fence width height
  refine hrest.congr ?_
  constructor
  · rintro ⟨-, himage, hbuffer, hmemory, hcommands, hfence, hsubmit, hstuck⟩
    exact ⟨⟨himage, hbuffer, hmemory, hcommands, hfence, hsubmit⟩, hstuck⟩
  · rintro ⟨⟨himage, hbuffer, hmemory, hcommands, hfence, hsubmit⟩, hstuck⟩
    exact ⟨trivial, himage, hbuffer, hmemory, hcommands, hfence, hsubmit,
      hstuck⟩

/-- The run gets as far as submitted work. -/
def Submitted : Prop :=
  OnDevice outcomes width height (WorkSubmitted outcomes)

theorem session_breaksIff :
    BreaksIff (Submitted outcomes width height ∧ WaitStuck outcomes) Settled
      (fun log => ¬ Undisturbed log) Settled
      (renderClearToOffscreen outcomes width height color) := by
  refine (renderClearToOffscreen_breaksIff (fun _ _ hsettled hplain => ?_)
    (fun _ _ hdisturbed hall => hdisturbed hall.shorten)
    fun device gpu queueFamily => renderClearInner_breaksIff outcomes device gpu
      queueFamily width height color).congr onDevice_and.symm
  exact hsettled.quiet fun call hmem => (hplain call hmem).quiet

/-- Nothing in use is destroyed, and nothing is read too early, unless work is
submitted and the wait for it fails on a device that is not lost. -/
theorem undisturbed_iff :
    Undisturbed (session outcomes width height color).2 ↔
      ¬ (Submitted outcomes width height ∧ WaitStuck outcomes) := by
  have hbreaks := session_breaksIff outcomes width height color [] settled_nil
  constructor
  · exact fun hall hbad => hbreaks.1 hbad hall
  · exact fun hgood => (hbreaks.2 hgood).undisturbed

end Whole

namespace FailedWait

/-- The wait ends with `VK_ERROR_OUT_OF_HOST_MEMORY`. -/
def outOfMemory : Outcomes :=
  { OnePixel.healthy with waitForFences := .error ⟨-1⟩ }

theorem submitted : Submitted outOfMemory 1 1 := by
  refine ⟨by decide, ⟨0⟩, 0, ⟨⟨[], rfl⟩, rfl⟩, ⟨⟨[], rfl⟩, rfl⟩, ?_⟩
  exact {
    image := ⟨rfl, ⟨0, by decide⟩, rfl, rfl⟩
    buffer := rfl
    bufferMemory := ⟨⟨1, by decide⟩, rfl, rfl⟩
    commands := ⟨rfl, rfl, rfl, rfl⟩
    fence := rfl
    submitted := rfl }

/-- The fence, the pool and all memory go while the GPU works on them. -/
theorem pending_work_destroyed :
    ¬ Undisturbed (session outOfMemory 1 1 ⟨0, 0, 0, 0⟩).2 := by
  have hbreaks := session_breaksIff outOfMemory 1 1 ⟨0, 0, 0, 0⟩ []
    settled_nil
  exact hbreaks.1 ⟨submitted, ⟨-1⟩, rfl, by decide⟩

end FailedWait

end VulkanContext

end SherGraphics
