/-
Contexts that a panic of the driver has faulted.  The fault is recorded for
the GPU and `recover_device` clears it while dropping one context only, so
another faulted context of the same GPU is left without its fault.  Runs in
which recoveries never meet such a context keep every faulted context out.
-/
import SherGraphics.FaultRecord

namespace SherGraphics

namespace GraphicsRuntime

variable {P : Type}

/-- A step of a run without `driver_mut`. -/
abbrev SealedEvent (P : Type) :=
  Event (FaultyRuntime P) (SealedOp PanickingDriver) (Result Reply)

/-- A caught panic turned a submission on the context into a fault. -/
def Faulted (past : List (SealedEvent P)) (context : ObjectId) : Prop :=
  ∃ e ∈ past, ∃ gpu payload,
    PanicsOn e.before e.action.val context gpu payload

/-- The step is a submission on the context that succeeds. -/
def SubmitsOn (e : SealedEvent P) (context : ObjectId) : Prop :=
  (∃ queue stream timeline signalValue,
    e.action.val = .submit queue stream timeline signalValue ∧
      stream.device = context) ∧ IsOk e.answer

/-- No submission on a faulted context succeeds. -/
def NeverResumed (past : List (SealedEvent P)) (e : SealedEvent P) : Prop :=
  ∀ context, Faulted past context → ¬ SubmitsOn e context

/-- An authorised recovery of a live context finds no other faulted context on
its GPU. -/
def RecoversAlone (past : List (SealedEvent P)) (e : SealedEvent P) : Prop :=
  ∀ id caps found, e.action.val = .recoverDevice id caps →
    caps.hasCapability .gpuAdmin = true →
      e.before.devices.get id = some found →
        ∀ other row, e.before.devices.get other = some row →
          row.gpu = found.gpu → other ≠ id → ¬ Faulted past other

/-- The GPU of every faulted context that is still live carries a fault. -/
structure FaultedFenced (past : List (SealedEvent P))
    (now : FaultyRuntime P) : Prop where
  known : GpusKnown now
  issued : ∀ context, Faulted past context → now.ids.Issued context
  fenced : ∀ context found, Faulted past context →
    now.devices.get context = some found →
      ∃ fault, faultOf now found.gpu = some fault

section Step

variable {past : List (SealedEvent P)}

theorem faulted_concat {e : SealedEvent P} {context : ObjectId} :
    Faulted (past ++ [e]) context ↔
      Faulted past context ∨
        ∃ gpu payload, PanicsOn e.before e.action.val context gpu payload := by
  constructor
  · rintro ⟨earlier, hmem, hpanics⟩
    rcases List.mem_append.mp hmem with hpast | hlast
    · exact Or.inl ⟨earlier, hpast, hpanics⟩
    · rw [List.mem_singleton.mp hlast] at hpanics
      exact Or.inr hpanics
  · rintro (⟨earlier, hmem, hpanics⟩ | hpanics)
    · exact ⟨earlier, List.mem_append_left _ hmem, hpanics⟩
    · exact ⟨e, List.mem_append_right _ List.mem_cons_self, hpanics⟩

/-- A fault outlives every step that is not a recovery on its GPU. -/
theorem FaultedFenced.fault_kept {before after : FaultyRuntime P}
    {op : SealedOp PanickingDriver} {answer : Result Reply}
    (hfenced : FaultedFenced past before)
    (heffect : Effect before op.val answer after)
    (halone : RecoversAlone past ⟨before, op, answer, after⟩)
    {context : ObjectId} {found : GraphicsDevice}
    (hfaulted : Faulted past context)
    (hcontext : after.devices.get context = some found) :
    ∃ fault, faultOf after found.gpu = some fault := by
  have hbefore := heffect.context_before (hfenced.issued context hfaulted)
    hcontext
  obtain ⟨fault, hfault⟩ := hfenced.fenced context found hfaulted hbefore
  have hrecord := Effect.onFaults (.call op) heffect
  cases hrecord with
  | kept hrecover hsame =>
      exact ⟨fault, by rw [faultOf, hsame.recordedFault_eq]; exact hfault⟩
  | panicked hpanics hsoftware =>
      rw [faultOf, hsoftware]
      exact SoftwareGpuDriver.recordedFault_injectFault_isSome hfault _ _ _
  | @cleared _ id caps row hop hadmin hlive hsoftware =>
      have hother : context ≠ id := by
        rintro rfl
        rw [hop] at heffect
        have hclosed := heffect.closes hfenced.known.contexts ⟨_, rfl⟩
        rw [hclosed.absent] at hcontext
        cases hcontext
      have hgpu : found.gpu ≠ row.gpu := by
        intro heq
        exact halone id caps row hop hadmin hlive context found hbefore heq
          hother hfaulted
      refine ⟨fault, ?_⟩
      rw [faultOf, hsoftware,
        SoftwareGpuDriver.recordedFault_afterReset_ne hgpu]
      exact hfault

variable [GPUDriver P] {now : FaultyRuntime P}

theorem FaultedFenced.preserved (hfenced : FaultedFenced past now)
    (op : SealedOp PanickingDriver)
    (halone : RecoversAlone past (Machine.event sealedStep now op)) :
    FaultedFenced (past ++ [Machine.event sealedStep now op])
      (sealedStep now op).2 := by
  have heffect : Effect now op.val (sealedStep now op).1
      (sealedStep now op).2 := step_effect now op.val
  refine ⟨hfenced.known.preserved (.call op) heffect, ?_, ?_⟩
  · intro context hfaulted
    rcases faulted_concat.mp hfaulted with hold | ⟨gpu, payload, hpanics⟩
    · exact (hfenced.issued context hold).mono heffect.advances
    · obtain ⟨found, hcontext, -⟩ := hpanics.context
      exact (hfenced.known.contexts context found hcontext).mono
        heffect.advances
  · intro context found hfaulted hcontext
    rcases faulted_concat.mp hfaulted with hold | ⟨gpu, payload, hpanics⟩
    · exact hfenced.fault_kept heffect halone hold hcontext
    · obtain ⟨row, hlive, rfl⟩ := hpanics.context
      have hissued := hfenced.known.contexts context row hlive
      have hbefore := heffect.context_before hissued hcontext
      cases hlive.symm.trans hbefore
      exact ⟨_, (hpanics.contained hfenced.known).2.2⟩

/-- While the GPUs of the faulted contexts carry a fault, no submission on
them succeeds. -/
theorem FaultedFenced.neverResumed (hfenced : FaultedFenced past now)
    (op : SealedOp PanickingDriver) :
    NeverResumed past (Machine.event sealedStep now op) := by
  rintro context hfaulted
    ⟨⟨queue, stream, timeline, signalValue, hop, rfl⟩, hok⟩
  change op.val = _ at hop
  change IsOk (step now op.val).1 at hok
  rw [hop] at hok
  refine (submit_of_faultOf ?_).1 hok
  intro found hcontext
  exact hfenced.fenced _ found hfaulted hcontext

end Step

/-- In a run all of whose recoveries find no other faulted context on their
GPU, no faulted context is ever resumed. -/
theorem faulted_never_resumed [GPUDriver P]
    (count vramBytesPerDevice presentationVramBytes : Nat)
    (schedule : Nat → Option PanicPayload) (ids : IdSource)
    (ops : List (SealedOp PanickingDriver))
    (halone : Machine.Meets sealedStep
      (overPanicking count vramBytesPerDevice presentationVramBytes schedule
        ids : FaultyRuntime P) ops RecoversAlone) :
    Machine.Meets sealedStep
      (overPanicking count vramBytesPerDevice presentationVramBytes schedule
        ids : FaultyRuntime P) ops NeverResumed := by
  have hfenced : Machine.Throughout sealedStep _ ops FaultedFenced :=
    Machine.throughout_of_meets
      ⟨gpusKnown_start count _ _ schedule ids, by simp [Faulted],
        by simp [Faulted]⟩
      (fun past now op hnow hcond => hnow.preserved op hcond) halone
  apply Machine.meets_of_prefixes
  intro first op later hops
  exact (hfenced first (op :: later) hops).neverResumed op

namespace SharedFault

/-- Only the first call of `submit` panics. -/
def schedule : Nat → Option PanicPayload
  | 0 => some (.str "driver bug")
  | _ + 1 => none

def start : FaultyRuntime BareDisplay :=
  overPanicking 1 1024 0 schedule .sequential

/-- Context 1 submits an empty stream, which signals timeline 9. -/
def submission : SealedOp PanickingDriver :=
  ⟨.submit ⟨⟨2⟩, .graphics⟩ ⟨⟨10⟩, ⟨1⟩, .graphics, []⟩ ⟨9⟩ 1, trivial⟩

/-- Contexts 1 and 5 share GPU 0, and context 1 runs into the panic. -/
def opening : List (SealedOp PanickingDriver) :=
  [⟨.createDevice ⟨0⟩ .full, trivial⟩, ⟨.createDevice ⟨0⟩ .full, trivial⟩,
    ⟨.createTimeline ⟨1⟩, trivial⟩, submission]

/-- Recovering one of the two contexts clears the fault of their GPU. -/
def recovery (context : ObjectId) : SealedOp PanickingDriver :=
  ⟨.recoverDevice context .full, trivial⟩

theorem panicsOn_submission :
    PanicsOn (Machine.run sealedStep start (opening.take 3)) submission.val
      ⟨1⟩ ⟨0⟩ (.str "driver bug") := by
  refine ⟨_, _, _, _, rfl, rfl, ?_, rfl⟩
  exact
    { class_eq := rfl
      granted := ⟨_, rfl, rfl⟩
      context := ⟨_, rfl, rfl⟩
      increases := ⟨0, rfl, by decide⟩
      valid := rfl }

/-- After context 5 is recovered, context 1 submits again. -/
theorem faulted_never_resumed_fails :
    ¬ Machine.Meets sealedStep start
      (opening ++ [recovery ⟨5⟩, submission]) NeverResumed := by
  intro hmeets
  have hlast : Machine.Meets sealedStep start
      ((opening ++ [recovery ⟨5⟩]) ++ submission :: []) NeverResumed := hmeets
  apply hlast.at_step ⟨1⟩
  · exact ⟨_, List.mem_cons_of_mem _ (List.mem_cons_of_mem _
      (List.mem_cons_of_mem _ List.mem_cons_self)), _, _, panicsOn_submission⟩
  · exact ⟨⟨_, _, _, _, rfl, rfl⟩, ⟨.unit, rfl⟩⟩

/-- Only context 1 is faulted by the opening. -/
theorem not_faulted_opening {context : ObjectId} (hne : context ≠ ⟨1⟩) :
    ¬ Faulted (Machine.trace sealedStep start opening) context := by
  rintro ⟨e, hmem, _, _, queue, stream, timeline, signalValue, hop, hdevice, -⟩
  simp only [opening, Machine.trace, List.mem_cons, List.not_mem_nil,
    or_false] at hmem
  rcases hmem with rfl | rfl | rfl | rfl
  · cases hop
  · cases hop
  · cases hop
  · cases hop
    exact hne hdevice.symm

/-- A run that recovers the faulted context itself. -/
theorem faulted_never_resumed_alone :
    Machine.Meets sealedStep start
      (opening ++ [recovery ⟨1⟩] ++ [submission]) NeverResumed := by
  apply faulted_never_resumed
  have hother : ∀ past now op, (∀ id caps, op.val ≠ .recoverDevice id caps) →
      RecoversAlone past (Machine.event sealedStep (now : FaultyRuntime
        BareDisplay) op) :=
    fun _ _ _ hne id caps _ hop => absurd hop (hne id caps)
  refine Machine.meets_concat.mpr ⟨Machine.meets_concat.mpr ⟨?_, ?_⟩,
    hother _ _ submission (by simp [submission])⟩
  · apply Machine.meets_of_prefixes
    intro first op later hops
    have hmem : op ∈ opening := by simp [hops]
    apply hother
    simp only [opening, List.mem_cons, List.not_mem_nil, or_false] at hmem
    rcases hmem with rfl | rfl | rfl | rfl
    all_goals simp [submission]
  · intro id caps found hop hadmin hlive other row hrow hgpu hne
    cases hop
    exact not_faulted_opening hne

end SharedFault

end GraphicsRuntime

end SherGraphics
