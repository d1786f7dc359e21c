/-
Contexts over a whole run: a context is opened by one `create_device`, keeps
its GPU and its capability set while it lives, and never returns once
`recover_device` has dropped it.
-/
import SherGraphics.RuntimeStep

namespace SherGraphics

namespace GraphicsRuntime

section Effects

variable {D P : Type} [GpuDriver D] {runtime after : GraphicsRuntime D P}
  {op : Op D} {answer : Result Reply}

/-- What an operation does to the device and capability tables. -/
inductive ContextEffect (runtime after : GraphicsRuntime D P) :
    Op D → Result Reply → Prop
  | kept {op : Op D} {answer : Result Reply}
      (hrecover : ∀ id caps, op = .recoverDevice id caps → ¬ IsOk answer)
      (hdevices : after.devices = runtime.devices)
      (hcaps : after.deviceCaps = runtime.deviceCaps) :
      ContextEffect runtime after op answer
  | opened {gpu : ObjectId} {caps : CapabilitySet}
      (hgranted : caps.hasCapability .gpuMemoryAlloc = true)
      (hids : after.ids = runtime.ids.advance 4)
      (hdevices : after.devices = runtime.devices.insert runtime.ids.next
        (GraphicsRuntime.createdDevice runtime.ids gpu))
      (hcaps : after.deviceCaps =
        runtime.deviceCaps.insert runtime.ids.next caps) :
      ContextEffect runtime after (.createDevice gpu caps)
        (.ok (.device (GraphicsRuntime.createdDevice runtime.ids gpu)))
  | dropped {id : ObjectId} {caps : CapabilitySet} {found : GraphicsDevice}
      (hadmin : caps.hasCapability .gpuAdmin = true)
      (hcontext : runtime.devices.get id = some found)
      (hdevices : after.devices = runtime.devices.erase id)
      (hcaps : after.deviceCaps = runtime.deviceCaps.erase id) :
      ContextEffect runtime after (.recoverDevice id caps) (.ok .unit)

theorem Effect.onContexts (heffect : Effect runtime op answer after) :
    ContextEffect runtime after op answer := by
  cases heffect with
  | quiet hanswer hsealed htables hids hdriver =>
      refine .kept ?_ (congrArg ObjectTables.devices htables)
        (congrArg ObjectTables.deviceCaps htables)
      rintro id caps rfl hok
      exact hanswer hok trivial
  | createdDevice hgranted hprobe hfind => exact .opened hgranted rfl rfl rfl
  | recovered hadmin hcontext hreset =>
      exact .dropped hadmin hcontext rfl rfl
  | borrowed hadmin => exact .kept (by simp) rfl rfl
  | notBorrowed hdenied => exact .kept (by simp) rfl rfl
  | createdTimeline hcontext => exact .kept (by simp) rfl rfl
  | createdResource hcontext hallocated => exact .kept (by simp) rfl rfl
  | createdShader hcontext => exact .kept (by simp) rfl rfl
  | createdPipeline hcontext hshader => exact .kept (by simp) rfl rfl
  | submitted hready haccepted => exact .kept (by simp) rfl rfl
  | panicked hready hpanicked => exact .kept (by simp) rfl rfl
  | freed hrow => exact .kept (by simp) rfl rfl

end Effects

section Contexts

variable {D P : Type}

/-- Every context is stored under an identifier that was handed out. -/
def ContextsIssued (now : GraphicsRuntime D P) : Prop :=
  ∀ id found, now.devices.get id = some found → now.ids.Issued id

/-- The identifier belongs to no live context and never will. -/
structure Closed (now : GraphicsRuntime D P) (id : ObjectId) : Prop where
  issued : now.ids.Issued id
  absent : now.devices.get id = none

/-- The step opened a context on a GPU with a capability set. -/
def OpensContext (e : RuntimeEvent D P) (id gpu : ObjectId)
    (caps : CapabilitySet) : Prop :=
  e.action = .createDevice gpu caps ∧ ∃ created,
    e.answer = .ok (.device created) ∧ created.id = id ∧ created.gpu = gpu

/-- Every live context has the GPU and the capability set of the step that
opened it. -/
structure ContextHistory (past : List (RuntimeEvent D P))
    (now : GraphicsRuntime D P) : Prop where
  issued : ContextsIssued now
  opened : ∀ id found, now.devices.get id = some found →
    ∃ caps, now.deviceCaps.get id = some caps ∧
      ∃ e ∈ past, OpensContext e id found.gpu caps
  paired : ∀ id caps, now.deviceCaps.get id = some caps →
    ∃ found, now.devices.get id = some found

/-- The identifier was handed out to a context of the GPU with the capability
set, which may be gone since. -/
structure OpenedAs (now : GraphicsRuntime D P) (id gpu : ObjectId)
    (caps : CapabilitySet) : Prop where
  issued : now.ids.Issued id
  kept : ∀ found, now.devices.get id = some found →
    found.gpu = gpu ∧ now.deviceCaps.get id = some caps

theorem ContextsIssued.fresh {now : GraphicsRuntime D P}
    (hissued : ContextsIssued now) : now.devices.get now.ids.next = none := by
  rw [Option.eq_none_iff_forall_ne_some]
  intro found hrow
  exact now.ids.next_not_issued (hissued _ found hrow)

/-- A submission on a closed identifier is refused. -/
theorem Closed.not_submitReady {now : GraphicsRuntime D P}
    {id gpu timeline : ObjectId} (hclosed : Closed now id)
    {queue : QueueHandle} {stream : CommandStream} {signalValue : Nat}
    (hready : SubmitReady now queue stream timeline signalValue gpu) :
    stream.device ≠ id := by
  rintro rfl
  obtain ⟨found, hcontext, hgpu⟩ := hready.context
  rw [hclosed.absent] at hcontext
  cases hcontext

theorem ContextHistory.opened_mono {past : List (RuntimeEvent D P)}
    {id gpu : ObjectId} {caps : CapabilitySet} (e : RuntimeEvent D P)
    (hopened : ∃ earlier ∈ past, OpensContext earlier id gpu caps) :
    ∃ earlier ∈ past ++ [e], OpensContext earlier id gpu caps := by
  obtain ⟨earlier, hmem, hopens⟩ := hopened
  exact ⟨earlier, List.mem_append_left [e] hmem, hopens⟩

theorem contextHistory_new [GPUDriver P] (driver : D) (vramBytes : Nat)
    (ids : IdSource) :
    ContextHistory [] (new driver vramBytes ids : GraphicsRuntime D P) where
  issued := by simp [ContextsIssued, new]
  opened := by simp [new]
  paired := by simp [new]

variable [GpuDriver D] {past : List (RuntimeEvent D P)}
  {before after : GraphicsRuntime D P} {op : Op D} {answer : Result Reply}

/-- A context that is there after a step was there before, or is the one that
the step returned. -/
theorem Effect.context_origin {id : ObjectId} {found : GraphicsDevice}
    (heffect : Effect before op answer after)
    (hlive : after.devices.get id = some found) :
    before.devices.get id = some found ∨
      (id = before.ids.next ∧ after.ids.Issued id ∧
        ∃ gpu caps, op = .createDevice gpu caps ∧
          answer = .ok (.device found) ∧
            found = GraphicsRuntime.createdDevice before.ids gpu) := by
  cases heffect.onContexts with
  | kept hrecover hdevices hcaps =>
      rw [hdevices] at hlive
      exact Or.inl hlive
  | opened hgranted hids hdevices hcaps =>
      rw [hdevices] at hlive
      rcases Table.row_of_insert hlive with ⟨rfl, rfl⟩ | ⟨-, hlive⟩
      · have hissued : after.ids.Issued before.ids.next := by
          rw [hids]
          exact before.ids.draw_issued (by omega)
        exact Or.inr ⟨rfl, hissued, _, _, rfl, rfl, rfl⟩
      · exact Or.inl hlive
  | dropped hadmin hcontext hdevices hcaps =>
      rw [hdevices] at hlive
      exact Or.inl (Table.row_of_erase hlive).2

theorem ContextsIssued.preserved (hissued : ContextsIssued before)
    (heffect : Effect before op answer after) : ContextsIssued after := by
  intro id found hlive
  rcases heffect.context_origin hlive with hbefore | ⟨-, hnew, -⟩
  · exact (hissued id found hbefore).mono heffect.advances
  · exact hnew

/-- A step opens no context under an identifier handed out before it. -/
theorem Effect.context_before {id : ObjectId} {found : GraphicsDevice}
    (heffect : Effect before op answer after) (hissued : before.ids.Issued id)
    (hlive : after.devices.get id = some found) :
    before.devices.get id = some found := by
  rcases heffect.context_origin hlive with hbefore | ⟨rfl, -⟩
  · exact hbefore
  · exact absurd hissued before.ids.next_not_issued

/-- The context that a step returns is issued and filed in that step, with the
capability set that was presented. -/
theorem Effect.files_context {gpu : ObjectId} {caps : CapabilitySet}
    {created : GraphicsDevice} (heffect : Effect before op answer after)
    (hop : op = .createDevice gpu caps)
    (hanswer : answer = .ok (.device created)) :
    after.ids.Issued created.id ∧
      after.devices.get created.id = some created ∧
        after.deviceCaps.get created.id = some caps := by
  subst hop
  cases heffect with
  | quiet hquiet hsealed htables hids hdriver =>
      exact absurd trivial (hquiet ⟨_, hanswer⟩)
  | createdDevice hgranted hprobe hfind =>
      cases hanswer
      exact ⟨before.ids.draw_issued (by omega), Table.get_insert_self _ _ _,
        Table.get_insert_self _ _ _⟩

theorem OpensContext.openedAs {id gpu : ObjectId} {caps : CapabilitySet}
    (hopens : OpensContext ⟨before, op, answer, after⟩ id gpu caps)
    (heffect : Effect before op answer after) : OpenedAs after id gpu caps := by
  obtain ⟨hop, created, hanswer, rfl, rfl⟩ := hopens
  obtain ⟨hissued, hfiled, hcaps⟩ := heffect.files_context hop hanswer
  refine ⟨hissued, ?_⟩
  intro found hlive
  cases hfiled.symm.trans hlive
  exact ⟨rfl, hcaps⟩

theorem OpenedAs.preserved {id gpu : ObjectId} {caps : CapabilitySet}
    (hopened : OpenedAs before id gpu caps)
    (heffect : Effect before op answer after) : OpenedAs after id gpu caps := by
  refine ⟨hopened.issued.mono heffect.advances, ?_⟩
  intro found hrow
  have hbefore := heffect.context_before hopened.issued hrow
  obtain ⟨hgpu, hcaps⟩ := hopened.kept found hbefore
  refine ⟨hgpu, ?_⟩
  cases heffect.onContexts with
  | kept hrecover hdevices hkept => rw [hkept, hcaps]
  | opened hgranted hids hdevices hinserted =>
      have hne : id ≠ before.ids.next := by
        rintro rfl
        exact before.ids.next_not_issued hopened.issued
      rw [hinserted, Table.get_insert_ne _ _ hne, hcaps]
  | @dropped dropped _ _ hadmin hlive hdevices herased =>
      have hne : id ≠ dropped := by
        rintro rfl
        rw [hdevices, Table.get_erase_self] at hrow
        cases hrow
      rw [herased, Table.get_erase_ne _ hne, hcaps]

/-- A closed identifier stays closed, whatever is created later. -/
theorem Closed.preserved {id : ObjectId} (hclosed : Closed before id)
    (heffect : Effect before op answer after) : Closed after id := by
  refine ⟨hclosed.issued.mono heffect.advances, ?_⟩
  cases heffect.onContexts with
  | kept hrecover hdevices hcaps => rw [hdevices, hclosed.absent]
  | opened hgranted hids hdevices hcaps =>
      have hne : id ≠ before.ids.next := by
        rintro rfl
        exact before.ids.next_not_issued hclosed.issued
      rw [hdevices, Table.get_insert_ne _ _ hne, hclosed.absent]
  | @dropped dropped caps row hadmin hcontext hdevices hcaps =>
      rw [hdevices, Table.get_erase, hclosed.absent, ite_self]

theorem Closed.run [GPUDriver P] {id : ObjectId} (hclosed : Closed before id)
    (ops : List (Op D)) :
    Closed (Machine.run GraphicsRuntime.step before ops) id :=
  Machine.run_invariant (Closed · id) hclosed
    (fun now op hnow => hnow.preserved (step_effect now op)) ops

/-- A successful recovery closes its context. -/
theorem Effect.closes {id : ObjectId} {caps : CapabilitySet}
    (hissued : ContextsIssued before)
    (heffect : Effect before (.recoverDevice id caps) answer after)
    (hok : IsOk answer) : Closed after id := by
  have hadvances := heffect.advances
  cases heffect.onContexts with
  | kept hrecover hdevices hcaps => exact absurd hok (hrecover id caps rfl)
  | dropped hadmin hcontext hdevices hcaps =>
      refine ⟨(hissued id _ hcontext).mono hadvances, ?_⟩
      rw [hdevices, Table.get_erase_self]

theorem ContextHistory.extend (hhistory : ContextHistory past before)
    (heffect : Effect before op answer after) :
    ContextHistory (past ++ [⟨before, op, answer, after⟩]) after := by
  refine ⟨hhistory.issued.preserved heffect, ?_, ?_⟩
  · intro id found hrow
    cases heffect.onContexts with
    | kept hrecover hdevices hcaps =>
        rw [hdevices] at hrow
        obtain ⟨caps, hfound, hopened⟩ := hhistory.opened id found hrow
        exact ⟨caps, by rw [hcaps, hfound], opened_mono _ hopened⟩
    | @opened gpu caps hgranted hids hdevices hcaps =>
        rw [hdevices] at hrow
        rcases Table.row_of_insert hrow with ⟨heq, rfl⟩ | ⟨hne, hrow⟩
        · refine ⟨caps, by rw [hcaps, heq, Table.get_insert_self], _,
            List.mem_append_right past List.mem_cons_self, rfl,
            _, rfl, heq.symm, rfl⟩
        · obtain ⟨known, hfound, hopened⟩ := hhistory.opened id found hrow
          refine ⟨known, ?_, opened_mono _ hopened⟩
          rw [hcaps, Table.get_insert_ne _ _ hne, hfound]
    | @dropped dropped caps row hadmin hcontext hdevices hcaps =>
        rw [hdevices] at hrow
        obtain ⟨hne, hrow⟩ := Table.row_of_erase hrow
        obtain ⟨known, hfound, hopened⟩ := hhistory.opened id found hrow
        refine ⟨known, ?_, opened_mono _ hopened⟩
        rw [hcaps, Table.get_erase_ne _ hne, hfound]
  · intro id caps hrow
    cases heffect.onContexts with
    | kept hrecover hdevices hcaps =>
        rw [hcaps] at hrow
        rw [hdevices]
        exact hhistory.paired id caps hrow
    | opened hgranted hids hdevices hcaps =>
        rw [hcaps] at hrow
        rw [hdevices, Table.known_insert_iff]
        rcases Table.row_of_insert hrow with ⟨heq, -⟩ | ⟨-, hrow⟩
        · exact Or.inl heq
        · exact Or.inr (hhistory.paired id caps hrow)
    | @dropped dropped _ row hadmin hcontext hdevices hcaps =>
        rw [hcaps] at hrow
        obtain ⟨hne, hrow⟩ := Table.row_of_erase hrow
        rw [hdevices, Table.known_erase_iff]
        exact ⟨hne, hhistory.paired id caps hrow⟩

variable [GPUDriver P]

theorem contextHistory_run (driver : D) (vramBytes : Nat) (ids : IdSource)
    (ops : List (Op D)) :
    ContextHistory
      (Machine.trace step (new driver vramBytes ids : GraphicsRuntime D P) ops)
      (Machine.run step (new driver vramBytes ids) ops) :=
  Machine.history_invariant (contextHistory_new driver vramBytes ids)
    (fun _ now op hhistory => hhistory.extend (step_effect now op)) ops

end Contexts

end GraphicsRuntime

end SherGraphics
