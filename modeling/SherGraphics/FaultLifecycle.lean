/-
The life of a fault.  A panic of the driver or the environment raises it,
every submission on its GPU is then refused and every query reports it, only
an authorised recovery on the GPU removes it, and contexts opened afterwards
are served until the next one is raised.
-/
import SherGraphics.FaultRecord

namespace SherGraphics

namespace GraphicsRuntime

variable {P : Type}

/-- A step of a run with an environment. -/
abbrev FaultyEvent (P : Type) :=
  Event (FaultyRuntime P) FaultyOp (Result Reply)

/-- The step as a step of the runtime. -/
def performed (e : FaultyEvent P) : RuntimeEvent PanickingDriver P :=
  ⟨e.before, e.action.toOp, e.answer, e.after⟩

/-- The step raises a fault of the GPU: it injects one, or the driver panics
on a submission to it. -/
def Raises (e : FaultyEvent P) (gpu : ObjectId) : Prop :=
  (∃ caps address description,
    e.action = .inject caps gpu address description ∧
      caps.hasCapability .gpuAdmin = true) ∨
    ∃ context payload, PanicsOn e.before e.action.toOp context gpu payload

/-- The step is an authorised recovery of a context of the GPU. -/
def Recovers (e : FaultyEvent P) (gpu : ObjectId) : Prop :=
  IsOk e.answer ∧ ∃ id caps found,
    e.action.toOp = .recoverDevice id caps ∧
      caps.hasCapability .gpuAdmin = true ∧
        e.before.devices.get id = some found ∧ found.gpu = gpu

/-- The GPU has been recovered, and no fault has been raised on it since. -/
def RecoveredSince (past : List (FaultyEvent P)) (gpu : ObjectId)
    (later : List (FaultyEvent P)) : Prop :=
  ∃ before recovery, past = before ++ recovery :: later ∧
    Recovers recovery gpu ∧ ∀ e ∈ later, ¬ Raises e gpu

/-- A submission that matches its queue, raises a known timeline and has a
valid stream. -/
structure WellFormedSubmit (runtime : FaultyRuntime P) (queue : QueueHandle)
    (stream : CommandStream) (timeline : ObjectId) (signalValue : Nat) :
    Prop where
  class_eq : stream.targetClass = queue.workload
  increases : ∃ current, runtime.timelines.get timeline = some current ∧
    current < signalValue
  valid : validateStream stream runtime.pipelines runtime.resources = .ok ()

/-- What every step of every run satisfies. -/
structure FaultLifecycle (past : List (FaultyEvent P)) (e : FaultyEvent P) :
    Prop where
  contained : ∀ context gpu payload,
    PanicsOn e.before e.action.toOp context gpu payload →
      ¬ IsOk e.answer ∧ e.after.timelines = e.before.timelines ∧
        faultOf e.after gpu = some ⟨gpu, 0, panicMessage payload⟩
  refused : ∀ queue stream timeline signalValue found fault,
    e.action.toOp = .submit queue stream timeline signalValue →
      e.before.devices.get stream.device = some found →
        faultOf e.before found.gpu = some fault →
          ¬ IsOk e.answer ∧ e.after.timelines = e.before.timelines
  reported : ∀ id found fault, e.action.toOp = .deviceFault id →
    e.before.devices.get id = some found →
      faultOf e.before found.gpu = some fault →
        e.answer = .ok (.fault (some fault))
  cleared : ∀ gpu fault, faultOf e.before gpu = some fault →
    faultOf e.after gpu = none → Recovers e gpu
  denied : ∀ id caps, e.action.toOp = .recoverDevice id caps →
    caps.hasCapability .gpuAdmin = false →
      ¬ IsOk e.answer ∧ e.after.driver = e.before.driver ∧
        e.after.tables = e.before.tables
  reopened : ∀ gpu later caps, RecoveredSince past gpu later →
    e.action.toOp = .createDevice gpu caps →
      caps.hasCapability .gpuMemoryAlloc = true → IsOk e.answer
  served : ∀ gpu later creation caps queue stream timeline signalValue,
    RecoveredSince past gpu later → creation ∈ later →
      OpensContext (performed creation) stream.device gpu caps →
        caps.hasCapability .gpuCommandSubmit = true →
          (∃ found, e.before.devices.get stream.device = some found) →
            e.action.toOp = .submit queue stream timeline signalValue →
              WellFormedSubmit e.before queue stream timeline signalValue →
                ¬ Raises e gpu → IsOk e.answer

/-- What the lifecycle needs of the history: a recovered GPU is known and
stays clear until a fault is raised, and contexts keep what they were opened
with. -/
structure LifecycleInvariant (past : List (FaultyEvent P))
    (now : FaultyRuntime P) : Prop where
  known : GpusKnown now
  opened : ∀ creation ∈ past, ∀ id gpu caps,
    OpensContext (performed creation) id gpu caps → OpenedAs now id gpu caps
  clear : ∀ gpu later, RecoveredSince past gpu later →
    faultOf now gpu = none ∧
      ∃ state, now.driver.software.devices.get gpu = some state

section Step

variable {past : List (FaultyEvent P)} {before after : FaultyRuntime P}
  {op : FaultyOp} {answer : Result Reply} {gpu : ObjectId}

/-- A GPU without a fault keeps none until one is raised. -/
theorem FaultEffect.stays_clear
    (heffect : FaultEffect before after op answer)
    (hclear : faultOf before gpu = none)
    (hquiet : ¬ Raises ⟨before, op, answer, after⟩ gpu) :
    faultOf after gpu = none := by
  cases heffect with
  | kept hrecover hsame =>
      rw [faultOf, hsame.recordedFault_eq]
      exact hclear
  | @injected caps other address description hadmin hsoftware =>
      have hne : gpu ≠ other := by
        rintro rfl
        exact hquiet (Or.inl ⟨_, _, _, rfl, hadmin⟩)
      rw [faultOf, hsoftware,
        SoftwareGpuDriver.recordedFault_injectFault_ne hne]
      exact hclear
  | @panicked op context other payload error hpanics hsoftware =>
      have hne : gpu ≠ other := by
        rintro rfl
        exact hquiet (Or.inr ⟨context, payload, hpanics⟩)
      rw [faultOf, hsoftware,
        SoftwareGpuDriver.recordedFault_injectFault_ne hne]
      exact hclear
  | @cleared op id caps found hop hadmin hcontext hsoftware =>
      rw [faultOf, hsoftware]
      by_cases heq : gpu = found.gpu
      · rw [heq, SoftwareGpuDriver.recordedFault_afterReset]
      · rw [SoftwareGpuDriver.recordedFault_afterReset_ne heq]
        exact hclear

/-- Only an authorised recovery on its GPU removes a fault. -/
theorem FaultEffect.cleared_by (heffect : FaultEffect before after op answer)
    {fault : GpuFault} (hfault : faultOf before gpu = some fault)
    (hclear : faultOf after gpu = none) :
    Recovers ⟨before, op, answer, after⟩ gpu := by
  cases heffect with
  | kept hrecover hsame =>
      rw [faultOf, hsame.recordedFault_eq] at hclear
      cases hfault.symm.trans hclear
  | @injected caps other address description hadmin hsoftware =>
      obtain ⟨new, hnew⟩ :=
        SoftwareGpuDriver.recordedFault_injectFault_isSome hfault other address
          description
      rw [faultOf, hsoftware, hnew] at hclear
      cases hclear
  | @panicked op context other payload error hpanics hsoftware =>
      obtain ⟨new, hnew⟩ :=
        SoftwareGpuDriver.recordedFault_injectFault_isSome hfault other 0
          (panicMessage payload)
      rw [faultOf, hsoftware, hnew] at hclear
      cases hclear
  | @cleared op id caps found hop hadmin hcontext hsoftware =>
      by_cases heq : gpu = found.gpu
      · exact ⟨⟨_, rfl⟩, id, caps, found, hop, hadmin, hcontext, heq.symm⟩
      · rw [faultOf, hsoftware,
          SoftwareGpuDriver.recordedFault_afterReset_ne heq] at hclear
        cases hfault.symm.trans hclear

/-- A recovery leaves its GPU without a fault. -/
theorem FaultEffect.clears (heffect : FaultEffect before after op answer)
    (hrecovers : Recovers ⟨before, op, answer, after⟩ gpu) :
    faultOf after gpu = none := by
  obtain ⟨hok, id, caps, found, hop, hadmin, hcontext, rfl⟩ := hrecovers
  cases heffect with
  | kept hrecover hsame => exact absurd hok (hrecover id caps hop)
  | injected hadmin' hsoftware => cases hop
  | panicked hpanics hsoftware => exact absurd hok (not_isOk_error _)
  | @cleared op other _ row hop' _ hcontext' hsoftware =>
      cases hop'.symm.trans hop
      cases hcontext'.symm.trans hcontext
      rw [faultOf, hsoftware, SoftwareGpuDriver.recordedFault_afterReset]

theorem recoveredSince_concat {e : FaultyEvent P}
    {later : List (FaultyEvent P)}
    (hrecovered : RecoveredSince (past ++ [e]) gpu later) :
    Recovers e gpu ∨ ¬ Raises e gpu ∧
      ∃ earlier, RecoveredSince past gpu earlier := by
  obtain ⟨first, recovery, hsplit, hrecovers, hquiet⟩ := hrecovered
  rcases List.cut_concat hsplit with ⟨-, rfl, -⟩ | ⟨middle, rfl, rfl⟩
  · exact Or.inl hrecovers
  · refine Or.inr ⟨hquiet _ (by simp), middle, first, recovery, rfl,
      hrecovers, ?_⟩
    intro earlier hmem
    exact hquiet earlier (by simp [hmem])

theorem LifecycleInvariant.preserved (hinvariant : LifecycleInvariant past before)
    (heffect : Effect before op.toOp answer after) :
    LifecycleInvariant (past ++ [⟨before, op, answer, after⟩]) after := by
  have hrecord := heffect.onFaults op
  refine ⟨hinvariant.known.preserved op heffect, ?_, ?_⟩
  · intro creation hmem id gpu caps hopens
    rcases List.mem_append.mp hmem with hpast | hlast
    · exact (hinvariant.opened creation hpast id gpu caps hopens).preserved
        heffect
    · rw [List.mem_singleton.mp hlast] at hopens
      exact hopens.openedAs heffect
  · intro gpu later hrecovered
    have hstill : (∃ state,
        before.driver.software.devices.get gpu = some state) →
          ∃ state, after.driver.software.devices.get gpu = some state := by
      rintro ⟨state, hgpu⟩
      obtain ⟨new, hnew, -⟩ := hrecord.sameInfos.after hgpu
      exact ⟨new, hnew⟩
    rcases recoveredSince_concat hrecovered with
      hrecovers | ⟨hquiet, earlier, hbefore⟩
    · refine ⟨hrecord.clears hrecovers, hstill ?_⟩
      obtain ⟨-, id, caps, found, -, -, hcontext, rfl⟩ := hrecovers
      exact hinvariant.known.known id found hcontext
    · obtain ⟨hclear, hgpu⟩ := hinvariant.clear gpu earlier hbefore
      exact ⟨hrecord.stays_clear hclear hquiet, hstill hgpu⟩

end Step

section Runs

variable [GPUDriver P] {past : List (FaultyEvent P)} {now : FaultyRuntime P}

theorem LifecycleInvariant.reopened (hinvariant : LifecycleInvariant past now)
    {gpu : ObjectId} {later : List (FaultyEvent P)} {caps : CapabilitySet}
    (hrecovered : RecoveredSince past gpu later)
    (hgranted : caps.hasCapability .gpuMemoryAlloc = true) :
    IsOk (step now (.createDevice gpu caps)).1 := by
  obtain ⟨-, state, hgpu⟩ := hinvariant.clear gpu later hrecovered
  obtain ⟨listed, info, hprobe, hfind, rfl⟩ :=
    hinvariant.known.probe_finds hgpu
  have hinit : (SoftwareGpuDriver.initializeDevice info
      now.driver.software).1 = .ok () := by
    rw [SoftwareGpuDriver.initializeDevice,
      SoftwareGpuDriver.updateState_of_known hgpu]
  have hcreated := createDevice_of_found now hgranted hprobe hfind hinit
  rw [step, perform, Method.map_run, hcreated]
  exact isOk_ok _

theorem LifecycleInvariant.served (hinvariant : LifecycleInvariant past now)
    {gpu timeline : ObjectId} {later : List (FaultyEvent P)}
    {creation : FaultyEvent P} {caps : CapabilitySet} {queue : QueueHandle}
    {stream : CommandStream} {signalValue : Nat} {found : GraphicsDevice}
    (hrecovered : RecoveredSince past gpu later) (hmem : creation ∈ later)
    (hopens : OpensContext (performed creation) stream.device gpu caps)
    (hgranted : caps.hasCapability .gpuCommandSubmit = true)
    (hcontext : now.devices.get stream.device = some found)
    (hwell : WellFormedSubmit now queue stream timeline signalValue)
    (hquiet : ∀ context payload, ¬ PanicsOn now
      (.submit queue stream timeline signalValue) context gpu payload) :
    IsOk (step now (.submit queue stream timeline signalValue)).1 := by
  obtain ⟨hclear, state, hgpu⟩ := hinvariant.clear gpu later hrecovered
  obtain ⟨first, recovery, rfl, -, -⟩ := hrecovered
  have hopened := hinvariant.opened creation (by simp [hmem]) _ _ _ hopens
  obtain ⟨hsame, hcaps⟩ := hopened.kept found hcontext
  have hready : SubmitReady now queue stream timeline signalValue gpu :=
    { class_eq := hwell.class_eq
      granted := ⟨caps, hcaps, hgranted⟩
      context := ⟨found, hcontext, hsame⟩
      increases := hwell.increases
      valid := hwell.valid }
  have hreturns : ∀ payload, (GpuDriver.submit gpu queue.workload
      (translateOps stream.ops) now.driver).1 ≠ .panicked payload := by
    intro payload hpanicked
    exact hquiet stream.device payload
      ⟨queue, stream, timeline, signalValue, rfl, rfl, hready, hpanicked⟩
  obtain ⟨driver, haccepted⟩ := accepted_of_clear hgpu hclear hreturns
  have hrun := submit_of_accepted now hready haccepted
  rw [step, perform, Method.map_run, hrun]
  exact isOk_ok _

theorem LifecycleInvariant.lifecycle (hinvariant : LifecycleInvariant past now)
    (op : FaultyOp) :
    FaultLifecycle past (Machine.event faultyStep now op) where
  contained := by
    intro context gpu payload hpanics
    exact hpanics.contained hinvariant.known
  refused := by
    intro queue stream timeline signalValue found fault hop hcontext hfault
    change op.toOp = _ at hop
    change ¬ IsOk (step now op.toOp).1 ∧
      (step now op.toOp).2.timelines = now.timelines
    rw [hop]
    apply submit_of_faultOf
    intro row hrow
    cases hcontext.symm.trans hrow
    exact ⟨fault, hfault⟩
  reported := by
    intro id found fault hop hcontext hfault
    change op.toOp = _ at hop
    change (step now op.toOp).1 = _
    rw [hop, step, perform, Method.map_run,
      deviceFault_of_live hinvariant.known hcontext]
    change faultOf now found.gpu = some fault at hfault
    rw [hfault]
    rfl
  cleared := by
    intro gpu fault hfault hclear
    exact ((step_effect now op.toOp).onFaults op).cleared_by hfault hclear
  denied := by
    intro id caps hop hdenied
    change op.toOp = _ at hop
    obtain ⟨error, hrun⟩ := recoverDevice_of_denied now id hdenied
    change ¬ IsOk (step now op.toOp).1 ∧
      (step now op.toOp).2.driver = now.driver ∧
        (step now op.toOp).2.tables = now.tables
    rw [hop, step, perform, Method.map_run, hrun]
    exact ⟨by simp [Except.map], rfl, rfl⟩
  reopened := by
    intro gpu later caps hrecovered hop hgranted
    change op.toOp = _ at hop
    change IsOk (step now op.toOp).1
    rw [hop]
    exact hinvariant.reopened hrecovered hgranted
  served := by
    intro gpu later creation caps queue stream timeline signalValue hrecovered
      hmem hopens hgranted hcontext hop hwell hquiet
    obtain ⟨found, hcontext⟩ := hcontext
    change op.toOp = _ at hop
    change IsOk (step now op.toOp).1
    rw [hop]
    refine hinvariant.served hrecovered hmem hopens hgranted hcontext hwell ?_
    intro context payload hpanics
    rw [← hop] at hpanics
    exact hquiet (Or.inr ⟨context, payload, hpanics⟩)

/-- Every step of every run over a driver that may panic, in an environment
that may break any GPU at any step. -/
theorem fault_lifecycle
    (count vramBytesPerDevice presentationVramBytes : Nat)
    (schedule : Nat → Option PanicPayload) (ids : IdSource)
    (ops : List FaultyOp) :
    Machine.Meets faultyStep
      (overPanicking count vramBytesPerDevice presentationVramBytes schedule
        ids : FaultyRuntime P) ops FaultLifecycle := by
  apply Machine.meets_of_prefixes
  intro first op later hops
  have hinvariant : LifecycleInvariant
      (Machine.trace faultyStep (overPanicking count vramBytesPerDevice
        presentationVramBytes schedule ids : FaultyRuntime P) first)
      (Machine.run faultyStep (overPanicking count vramBytesPerDevice
        presentationVramBytes schedule ids) first) := by
    apply Machine.history_invariant
    · refine ⟨gpusKnown_start count _ _ schedule ids, by simp, ?_⟩
      rintro gpu rest ⟨before, recovery, hsplit, -⟩
      simp at hsplit
    · intro past now op hpast
      exact hpast.preserved (step_effect now op.toOp)
  exact hinvariant.lifecycle op

end Runs

end GraphicsRuntime

end SherGraphics
