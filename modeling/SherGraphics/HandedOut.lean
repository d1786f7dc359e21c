/-
Names are handed out once.  Whatever a run of the runtime's calls creates, and
whatever a borrowed driver draws in between, no two objects, queues or command
streams of the run have one name.
-/
import SherGraphics.StreamIsolation

namespace SherGraphics

namespace IdSource

/-- These names are drawn on the way to the later point of the source. -/
structure HandsOut (ids later : IdSource) (names : List ObjectId) : Prop where
  nodup : names.Nodup
  fresh : ∀ name ∈ names, ¬ ids.Issued name
  issued : ∀ name ∈ names, later.Issued name

theorem handsOut_nil (ids later : IdSource) : ids.HandsOut later [] :=
  ⟨List.nodup_nil, by simp, by simp⟩

theorem handsOut_one {ids later : IdSource} {name : ObjectId}
    (hfresh : ¬ ids.Issued name) (hissued : later.Issued name) :
    ids.HandsOut later [name] :=
  ⟨List.nodup_singleton name, by simpa using hfresh, by simpa using hissued⟩

theorem handsOut_advance (ids : IdSource) (count : Nat) :
    ids.HandsOut (ids.advance count)
      ((List.range count).map fun index => ids.draw (ids.drawn + index)) where
  nodup := by
    apply List.Nodup.map _ List.nodup_range
    intro index other heq
    have hsame := ids.draw_injective heq
    omega
  fresh := by
    simp only [List.mem_map]
    rintro name ⟨index, -, rfl⟩
    exact ids.draw_not_issued (Nat.le_add_right _ _)
  issued := by
    simp only [List.mem_map, List.mem_range]
    rintro name ⟨index, hlt, rfl⟩
    exact ids.draw_issued (Nat.add_lt_add_left hlt _)

theorem handsOut_next (ids : IdSource) :
    ids.HandsOut (ids.advance 1) [ids.next] :=
  ids.handsOut_advance 1

/-- Names that are drawn now differ from all that were issued. -/
theorem HandsOut.append {ids later : IdSource} {names more : List ObjectId}
    (hmore : ids.HandsOut later more) (hnodup : names.Nodup)
    (hissued : ∀ name ∈ names, ids.Issued name) : (names ++ more).Nodup := by
  apply hnodup.append hmore.nodup
  intro name hmem hnew
  exact hmore.fresh name hnew (hissued name hmem)

end IdSource

namespace GraphicsRuntime

section Names

variable {D P : Type}

/-- The names that a call hands out: those of the object that it created, and
of the queues of a context. -/
def handedOut : Op D → Result Reply → List ObjectId
  | .createDevice _ _, .ok (.device created) =>
      created.id :: created.queues.map QueueHandle.id
  | .createTimeline _, .ok (.timeline created) => [created.id]
  | .createResource _ _ _, .ok (.resource created) => [created.id]
  | .createCommandStream _ _, .ok (.stream created) => [created.id]
  | .createShaderModule _ _ _, .ok (.shader created) => [created.id]
  | .createPipeline _ _ _, .ok (.pipeline created) => [created.id]
  | _, _ => []

/-- All names of a run so far, oldest first. -/
def namesOf (past : List (RuntimeEvent D P)) : List ObjectId :=
  past.flatMap fun e => handedOut e.action e.answer

/-- The names of the past differ, and the source has drawn them. -/
structure NamesHistory (past : List (RuntimeEvent D P))
    (now : GraphicsRuntime D P) : Prop where
  nodup : (namesOf past).Nodup
  issued : ∀ name ∈ namesOf past, now.ids.Issued name

variable {op : Op D} {answer : Result Reply}

/-- A call that changes no table hands out no name, unless it makes a command
stream. -/
theorem handedOut_of_quiet (hanswer : IsOk answer → ¬ op.Mutates)
    (hstream : ∀ device workload, op ≠ .createCommandStream device workload) :
    handedOut op answer = [] := by
  cases answer with
  | error error => cases op <;> rfl
  | ok reply =>
      have hmutates := hanswer (isOk_ok reply)
      cases op with
      | createDevice gpu caps => exact absurd trivial hmutates
      | createTimeline device => exact absurd trivial hmutates
      | createResource device kind memoryClass => exact absurd trivial hmutates
      | createShaderModule device stage ir => exact absurd trivial hmutates
      | createPipeline device shader workload => exact absurd trivial hmutates
      | createCommandStream device workload =>
          exact absurd rfl (hstream device workload)
      | _ => rfl

variable [GpuDriver D] {before after : GraphicsRuntime D P}

theorem Effect.handsOut [FreshAllocations D]
    (heffect : Effect before op answer after)
    (hstream : ∀ device workload, op ≠ .createCommandStream device workload) :
    before.ids.HandsOut after.ids (handedOut op answer) := by
  cases heffect with
  | quiet hanswer hsealed htables hids hdriver =>
      rw [handedOut_of_quiet hanswer hstream]
      exact before.ids.handsOut_nil _
  | createdDevice hgranted hprobe hfind => exact before.ids.handsOut_advance 4
  | createdTimeline hcontext => exact before.ids.handsOut_next
  | createdResource hcontext hallocated =>
      obtain ⟨hfresh, hissued⟩ :=
        FreshAllocations.fresh _ _ _ _ _ _ _ _ hallocated
      exact IdSource.handsOut_one hfresh hissued
  | createdShader hcontext => exact before.ids.handsOut_next
  | createdPipeline hcontext hshader => exact before.ids.handsOut_next
  | borrowed hadmin => exact before.ids.handsOut_nil _
  | notBorrowed hdenied => exact before.ids.handsOut_nil _
  | submitted hready haccepted => exact before.ids.handsOut_nil _
  | panicked hready hpanicked => exact before.ids.handsOut_nil _
  | freed hrow => exact before.ids.handsOut_nil _
  | recovered hadmin hcontext hreset => exact before.ids.handsOut_nil _

variable [GPUDriver P]

theorem step_handsOut [FreshAllocations D] (now : GraphicsRuntime D P)
    (op : Op D) :
    now.ids.HandsOut (step now op).2.ids (handedOut op (step now op).1) := by
  by_cases hstream : ∃ device workload, op = .createCommandStream device workload
  · obtain ⟨device, workload, rfl⟩ := hstream
    rw [step, perform, Method.map_run, createCommandStream]
    cases hcontext : now.devices.get device with
    | none =>
        rw [Method.bind_of_error (device_of_unknown now hcontext)]
        exact now.ids.handsOut_nil _
    | some found =>
        rw [Method.bind_of_ok (device_of_live now hcontext)]
        exact now.ids.handsOut_next
  · apply (step_effect now op).handsOut
    rintro device workload rfl
    exact hstream ⟨device, workload, rfl⟩

theorem NamesHistory.extend [FreshAllocations D]
    {past : List (RuntimeEvent D P)} {now : GraphicsRuntime D P}
    (hhistory : NamesHistory past now) (op : Op D) :
    NamesHistory (past ++ [Machine.event step now op]) (step now op).2 := by
  have hnew := step_handsOut now op
  have hnames : namesOf (past ++ [Machine.event step now op]) =
      namesOf past ++ handedOut op (step now op).1 := by
    simp [namesOf, Machine.event]
  constructor
  · rw [hnames]
    exact hnew.append hhistory.nodup hhistory.issued
  · rw [hnames]
    intro name hmem
    rcases List.mem_append.mp hmem with hold | hmade
    · exact (hhistory.issued name hold).mono (step_effect now op).advances
    · exact hnew.issued name hmade

/-- Every object, queue and command stream that a run creates has a name of its
own. -/
theorem namesHistory_run [FreshAllocations D] (driver : D) (vramBytes : Nat)
    (ids : IdSource) (ops : List (Op D)) :
    NamesHistory
      (Machine.trace step (new driver vramBytes ids : GraphicsRuntime D P) ops)
      (Machine.run step (new driver vramBytes ids) ops) :=
  Machine.history_invariant ⟨by simp [namesOf], by simp [namesOf]⟩
    (fun _ _ op hhistory => hhistory.extend op) ops

end Names

end GraphicsRuntime

end SherGraphics
