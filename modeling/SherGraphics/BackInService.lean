/-
No GPU is lost for good.  Whatever has happened to it, a few calls bring it to a
new context without a fault.  That context takes every stream that fits, unless
the driver is to panic once more, and then the same calls are made again.
-/
import SherGraphics.FaultLifecycle
import SherGraphics.TimelineHistory

namespace SherGraphics

namespace GraphicsRuntime

open Machine

section Repair

variable {P : Type}

/-- A runtime that knows the GPU, whatever has befallen it. -/
structure Sane (gpu : ObjectId) (now : FaultyRuntime P) : Prop where
  known : GpusKnown now
  timelines : TimelinesIssued now
  present : ∃ state, now.driver.software.devices.get gpu = some state

/-- A context of the GPU that may do everything. -/
structure OpenOn (gpu context : ObjectId) (now : FaultyRuntime P) : Prop where
  live : ∃ found, now.devices.get context = some found ∧ found.gpu = gpu
  granted : now.deviceCaps.get context = some .full

/-- The panics that are still to come are the same. -/
def SamePanics (before after : FaultyRuntime P) : Prop :=
  after.driver.schedule = before.driver.schedule ∧
    after.driver.submits = before.driver.submits

variable {now : FaultyRuntime P} {gpu context : ObjectId}

theorem SamePanics.trans {middle after : FaultyRuntime P}
    (hfirst : SamePanics now middle) (hsecond : SamePanics middle after) :
    SamePanics now after :=
  ⟨hsecond.1.trans hfirst.1, hsecond.2.trans hfirst.2⟩

variable [GPUDriver P]

theorem Sane.preserved (hsane : Sane gpu now) (op : FaultyOp) :
    Sane gpu (faultyStep now op).2 := by
  have heffect := step_effect now op.toOp
  refine ⟨hsane.known.preserved op heffect, hsane.timelines.preserved heffect,
    ?_⟩
  obtain ⟨state, hgpu⟩ := hsane.present
  obtain ⟨new, hnew, -⟩ := (heffect.onFaults op).sameInfos.after hgpu
  exact ⟨new, hnew⟩

/-- A context can be opened, whether the GPU is faulted or not. -/
theorem Sane.opens (hsane : Sane gpu now) :
    let after := (step now (.createDevice gpu .full)).2
    OpenOn gpu now.ids.next after ∧ SamePanics now after ∧
      faultOf after gpu = faultOf now gpu := by
  have hanswer : (step now (.createDevice gpu .full)).1 =
      .ok (.device (createdDevice now.ids gpu)) := by
    rw [step, perform, Method.map_run,
      hsane.known.createDevice_ok rfl hsane.present]
    rfl
  have heffect := step_effect now (.createDevice gpu .full)
  generalize (step now (.createDevice gpu .full)).1 = answer at hanswer heffect
  generalize (step now (.createDevice gpu .full)).2 = after at heffect
  subst hanswer
  cases heffect with
  | quiet hanswer hsealed htables hids hdriver =>
      exact absurd trivial (hanswer (isOk_ok _))
  | @createdDevice _ _ _ info hgranted hprobe hfind =>
      have hsame := SoftwareGpuDriver.initializeDevice_faultView
        now.driver.software info
      exact ⟨⟨⟨_, Table.get_insert_self _ _ _, rfl⟩,
        Table.get_insert_self _ _ _⟩, ⟨rfl, rfl⟩, hsame.recordedFault_eq gpu⟩

/-- A recovery leaves its GPU without a fault. -/
theorem OpenOn.recovers (hopen : OpenOn gpu context now) (hsane : Sane gpu now) :
    let after := (step now (.recoverDevice context .full)).2
    SamePanics now after ∧ faultOf after gpu = none := by
  obtain ⟨state, hgpu⟩ := hsane.present
  obtain ⟨found, hcontext, rfl⟩ := hopen.live
  have hadmin : CapabilitySet.full.hasCapability .gpuAdmin = true := rfl
  have hrun := recoverDevice_of_live now hadmin hcontext
  rw [PanickingDriver.resetDevice_of_known now.driver hgpu] at hrun
  rw [step, perform, Method.map_run, hrun]
  exact ⟨⟨rfl, rfl⟩, SoftwareGpuDriver.recordedFault_afterReset _ _⟩

/-- A timeline can be made on the context. -/
theorem OpenOn.timeline (hopen : OpenOn gpu context now) :
    let after := (step now (.createTimeline context)).2
    after.timelines.get now.ids.next = some 0 ∧ OpenOn gpu context after ∧
      after.driver = now.driver := by
  obtain ⟨found, hcontext, hgpu⟩ := hopen.live
  rw [step, perform, Method.map_run, createTimeline,
    Method.bind_of_ok (device_of_live now hcontext)]
  exact ⟨Table.get_insert_self _ _ _, ⟨⟨found, hcontext, hgpu⟩, hopen.granted⟩,
    rfl⟩

/-- The stream is one that the context takes. -/
structure Fits (context : ObjectId) (queue : QueueHandle)
    (stream : CommandStream) (now : FaultyRuntime P) : Prop where
  device : stream.device = context
  workload : stream.targetClass = queue.workload
  valid : validateStream stream now.pipelines now.resources = .ok ()

omit [GPUDriver P] in
theorem OpenOn.ready (hopen : OpenOn gpu context now) {queue : QueueHandle}
    {stream : CommandStream} (hfits : Fits context queue stream now)
    {timeline : ObjectId} {signalValue : Nat}
    (htimeline : now.timelines.get timeline = some 0)
    (hsignals : 0 < signalValue) :
    SubmitReady now queue stream timeline signalValue gpu where
  class_eq := hfits.workload
  granted := ⟨.full, by rw [hfits.device]; exact hopen.granted, rfl⟩
  context := by rw [hfits.device]; exact hopen.live
  increases := ⟨0, htimeline, hsignals⟩
  valid := hfits.valid

/-- A context takes every stream that fits, in every class of work. -/
def Takes (context timeline : ObjectId) (now : FaultyRuntime P) : Prop :=
  ∀ queue stream signalValue, Fits context queue stream now → 0 < signalValue →
    IsOk (step now (.submit queue stream timeline signalValue)).1

/-- Without a fault, and while the driver does not panic, it takes them. -/
theorem OpenOn.takes (hopen : OpenOn gpu context now) (hsane : Sane gpu now)
    (hclear : faultOf now gpu = none) {timeline : ObjectId}
    (htimeline : now.timelines.get timeline = some 0)
    (hquiet : now.driver.schedule now.driver.submits = none) :
    Takes context timeline now := by
  intro queue stream signalValue hfits hsignals
  obtain ⟨state, hgpu⟩ := hsane.present
  have hready := hopen.ready hfits htimeline hsignals
  have hdriver : GpuDriver.submit gpu queue.workload (translateOps stream.ops)
      now.driver = PanickingDriver.submit gpu queue.workload
        (translateOps stream.ops) now.driver := rfl
  rw [PanickingDriver.submit, hquiet,
    SoftwareGpuDriver.submit_of_clear _ hgpu hclear] at hdriver
  rw [step, perform, Method.map_run, submit_of_accepted now hready hdriver]
  exact isOk_ok _

/-- A submission of nothing. -/
def emptySubmit (context timeline : ObjectId) : Op PanickingDriver :=
  .submit ⟨context, .graphics⟩ ⟨context, context, .graphics, []⟩ timeline 1

/-- It uses up a panic of the driver. -/
theorem OpenOn.panics (hopen : OpenOn gpu context now) {timeline : ObjectId}
    (htimeline : now.timelines.get timeline = some 0) {payload : PanicPayload}
    (hpanics : now.driver.schedule now.driver.submits = some payload) :
    let after := (step now (emptySubmit context timeline)).2
    after.driver.schedule = now.driver.schedule ∧
      after.driver.submits = now.driver.submits + 1 := by
  have hfits : Fits context ⟨context, .graphics⟩
      ⟨context, context, .graphics, []⟩ now := ⟨rfl, rfl, rfl⟩
  have hready := hopen.ready hfits htimeline Nat.zero_lt_one
  have hdriver : GpuDriver.submit gpu .graphics [] now.driver =
      PanickingDriver.submit gpu .graphics [] now.driver := rfl
  rw [PanickingDriver.submit, hpanics] at hdriver
  rw [emptySubmit, step, perform, Method.map_run,
    submit_of_panicked now hready hdriver]
  exact ⟨rfl, rfl⟩

/-! ### One round of calls, and another -/

/-- The step is a call of the runtime, not something that befalls it. -/
def IsCall (op : FaultyOp) : Prop :=
  ∃ called, op = .call called

/-- A context of the GPU takes every stream that fits. -/
def Serves (gpu : ObjectId) (now : FaultyRuntime P) : Prop :=
  ∃ context timeline found, now.devices.get context = some found ∧
    found.gpu = gpu ∧ Takes context timeline now

section Round

variable {goal : FaultyRuntime P → Prop} {count : Nat}

/-- What can be reached from a state with a new context can be reached. -/
theorem Sane.afterOpening (hsane : Sane gpu now)
    (hnext : ∀ later context, Sane gpu later → OpenOn gpu context later →
      SamePanics now later → faultOf later gpu = faultOf now gpu →
        Within faultyStep IsCall goal count later) :
    Within faultyStep IsCall goal (count + 1) now := by
  let opening : FaultyOp := .call ⟨.createDevice gpu .full, trivial⟩
  obtain ⟨hopen, hsame, hfault⟩ := hsane.opens
  have hlater := hnext _ _ (hsane.preserved opening) hopen hsame hfault
  exact Within.before ⟨_, rfl⟩ hlater

theorem OpenOn.afterRecovery (hopen : OpenOn gpu context now)
    (hsane : Sane gpu now)
    (hnext : ∀ later, Sane gpu later → SamePanics now later →
      faultOf later gpu = none → Within faultyStep IsCall goal count later) :
    Within faultyStep IsCall goal (count + 1) now := by
  let recovery : FaultyOp := .call ⟨.recoverDevice context .full, trivial⟩
  obtain ⟨hsame, hclear⟩ := hopen.recovers hsane
  have hlater := hnext _ (hsane.preserved recovery) hsame hclear
  exact Within.before ⟨_, rfl⟩ hlater

theorem OpenOn.afterTimeline (hopen : OpenOn gpu context now)
    (hsane : Sane gpu now)
    (hnext : ∀ later timeline, Sane gpu later → OpenOn gpu context later →
      later.timelines.get timeline = some 0 → later.driver = now.driver →
        Within faultyStep IsCall goal count later) :
    Within faultyStep IsCall goal (count + 1) now := by
  let creation : FaultyOp := .call ⟨.createTimeline context, trivial⟩
  obtain ⟨htimeline, hstill, hdriver⟩ := hopen.timeline
  have hlater := hnext _ _ (hsane.preserved creation) hstill htimeline hdriver
  exact Within.before ⟨_, rfl⟩ hlater

/-- A context is opened and recovered, and another is opened with a timeline. -/
theorem Sane.round (hsane : Sane gpu now)
    (hnext : ∀ later context timeline, Sane gpu later →
      OpenOn gpu context later → faultOf later gpu = none →
        later.timelines.get timeline = some 0 → SamePanics now later →
          Within faultyStep IsCall goal count later) :
    Within faultyStep IsCall goal (count + 4) now := by
  apply hsane.afterOpening
  intro opened first hsane hfirst hsame _
  apply hfirst.afterRecovery hsane
  intro recovered hsane hrecovered hclear
  apply hsane.afterOpening
  intro reopened second hsane hsecond hreopened hfault
  apply hsecond.afterTimeline hsane
  intro last timeline hsane hopen htimeline hdriver
  refine hnext last second timeline hsane hopen ?_ htimeline ?_
  · rw [faultOf, hdriver]
    exact hfault.trans hclear
  · rw [SamePanics, hdriver]
    exact (hsame.trans hrecovered).trans hreopened

end Round

theorem OpenOn.serves (hopen : OpenOn gpu context now) (hsane : Sane gpu now)
    (hclear : faultOf now gpu = none) {timeline : ObjectId}
    (htimeline : now.timelines.get timeline = some 0)
    (hquiet : now.driver.schedule now.driver.submits = none) :
    Serves gpu now := by
  obtain ⟨found, hcontext, hgpu⟩ := hopen.live
  exact ⟨context, timeline, found, hcontext, hgpu,
    hopen.takes hsane hclear htimeline hquiet⟩

/-- After as many rounds as panics are to come, the GPU serves again. -/
theorem Sane.serves (hsane : Sane gpu now) {panics : Nat}
    (hquiet : now.driver.schedule (now.driver.submits + panics) = none) :
    Within faultyStep IsCall (Serves gpu) (5 * panics + 4) now := by
  induction panics generalizing now with
  | zero =>
      apply hsane.round
      intro later context timeline hsane hopen hclear htimeline hsame
      exact within_now (hopen.serves hsane hclear htimeline
        (by rw [hsame.1, hsame.2]; exact hquiet))
  | succ panics ih =>
      apply hsane.round
      intro later context timeline hsane hopen hclear htimeline hsame
      cases hpanics : later.driver.schedule later.driver.submits with
      | none =>
          exact within_now (hopen.serves hsane hclear htimeline hpanics)
      | some payload =>
          let submission : FaultyOp :=
            .call ⟨emptySubmit context timeline, trivial⟩
          obtain ⟨hschedule, hsubmits⟩ := hopen.panics htimeline hpanics
          have hlater : Within faultyStep IsCall (Serves gpu)
              (5 * panics + 4) (faultyStep later submission).2 := by
            apply ih (hsane.preserved submission)
            change (step later (emptySubmit context timeline)).2.driver.schedule
              ((step later (emptySubmit context timeline)).2.driver.submits +
                panics) = none
            rw [hschedule, hsubmits, hsame.1, hsame.2, Nat.add_right_comm]
            exact hquiet
          exact Within.before ⟨_, rfl⟩ hlater

/-! ### From every reachable state -/

theorem sane_start (count vramBytesPerDevice presentationVramBytes : Nat)
    (schedule : Nat → Option PanicPayload) (ids : IdSource)
    (hgpu : ∃ index < count, gpu = ids.draw (ids.drawn + index)) :
    Sane gpu (overPanicking count vramBytesPerDevice presentationVramBytes
      schedule ids : FaultyRuntime P) := by
  obtain ⟨index, hlt, rfl⟩ := hgpu
  exact
    { known := gpusKnown_start count _ _ schedule ids
      timelines := by simp [TimelinesIssued, overPanicking, new]
      present :=
        SoftwareGpuDriver.deviceTable_drawn ids vramBytesPerDevice hlt }

/-- In every reachable state, whatever was injected, recovered and caught on the
way, a GPU of the driver is at most so many calls from serving a context again:
five for each panic that is still to come, and four. -/
theorem every_gpu_recovers
    (count vramBytesPerDevice presentationVramBytes : Nat)
    (schedule : Nat → Option PanicPayload) (ids : IdSource)
    (ops : List FaultyOp) (panics : Nat)
    (hgpu : ∃ index < count, gpu = ids.draw (ids.drawn + index)) :
    let now := Machine.run faultyStep (overPanicking count vramBytesPerDevice
      presentationVramBytes schedule ids : FaultyRuntime P) ops
    now.driver.schedule (now.driver.submits + panics) = none →
      Within faultyStep IsCall (Serves gpu) (5 * panics + 4) now := by
  intro now hquiet
  have hsane : Sane gpu now :=
    Machine.run_invariant (Sane gpu)
      (sane_start count vramBytesPerDevice presentationVramBytes schedule ids
        hgpu)
      (fun now op hsane => hsane.preserved op) ops
  exact hsane.serves hquiet

namespace TwoPanics

/-- The driver panics at its first two submissions. -/
def schedule : Nat → Option PanicPayload
  | 0 | 1 => some .opaqueValue
  | _ + 2 => none

def start : FaultyRuntime BareDisplay :=
  overPanicking 1 1024 0 schedule .sequential

/-- A context is opened on GPU 0, which then breaks. -/
def opening : List FaultyOp :=
  [.call ⟨.createDevice ⟨0⟩ .full, trivial⟩,
    .inject .full ⟨0⟩ 64 "ring hang"]

/-- Both panics are still to come, so fourteen calls are enough. -/
theorem broken_gpu_recovers :
    Within faultyStep IsCall (Serves ⟨0⟩) 14
      (Machine.run faultyStep start opening) :=
  every_gpu_recovers 1 1024 0 schedule .sequential opening 2
    ⟨0, Nat.zero_lt_one, rfl⟩ rfl

end TwoPanics

end Repair

end GraphicsRuntime

end SherGraphics
