/-
Lifetimes in a log of which some calls are calls of an inner log.  The objects
of the inner log are among those of the outer one, and live and die in both at
the same calls.
-/
import SherGraphics.Execution
import SherGraphics.Lifetimes

universe u v w x

theorem ongoing_filterMap {α : Type u} {β : Type v} (f : α → Option β)
    (begins ends : β → Prop) (past : List α) :
    Ongoing (fun e => ∃ inner, f e = some inner ∧ begins inner)
        (fun e => ∃ inner, f e = some inner ∧ ends inner) past ↔
      Ongoing begins ends (past.filterMap f) := by
  induction past using List.reverseRecOn with
  | nil => exact iff_of_false not_ongoing_nil not_ongoing_nil
  | append_singleton past e ih =>
      rw [ongoing_concat, ih, List.filterMap_concat]
      cases hinner : f e with
      | none => simp
      | some inner => simp [ongoing_concat]

namespace Lifetimes

open ObjectCalls

section Lifts

variable {C : Type u} {O : Type v} {C' : Type w} {O' : Type x}
  {call : C' → Option C} {object : O → O'} {outer : C' → Option O'}
  {inner : C → Option O}

/-- An inner call does to inner objects what it does in the inner log, and no
other call does it to an inner object. -/
structure Lifts (call : C' → Option C) (object : O → O')
    (outer : C' → Option O') (inner : C → Option O) : Prop where
  within : ∀ e e', call e = some e' → outer e = (inner e').map object
  without : ∀ e o, call e = none → outer e ≠ some (object o)

theorem Lifts.iff (hlifts : Lifts call object outer inner)
    (hinjective : Function.Injective object) (e : C') (o : O) :
    outer e = some (object o) ↔ ∃ e', call e = some e' ∧ inner e' = some o := by
  cases hcall : call e with
  | none => simp [hlifts.without e o hcall]
  | some e' =>
      rw [hlifts.within e e' hcall, Option.map_eq_some_iff]
      simp [hinjective.eq_iff]

theorem Lifts.avoids (hlifts : Lifts call object outer inner) {e : C'}
    {other : O'} (hcall : (call e).isSome) (hother : ∀ o, other ≠ object o) :
    outer e ≠ some other := by
  obtain ⟨e', he'⟩ := Option.isSome_iff_exists.mp hcall
  rw [hlifts.within e e' he', ne_eq, Option.map_eq_some_iff]
  rintro ⟨o, -, hsame⟩
  exact hother o hsame.symm

end Lifts

/-- The calls of one kind of log and their objects, within another kind. -/
structure Nested (C : Type u) (O : Type v) (C' : Type w) (O' : Type x)
    [ObjectCalls C O] [ObjectCalls C' O'] where
  call : C' → Option C
  object : O → O'
  injective : Function.Injective object
  creates : Lifts call object creates creates
  destroys : Lifts call object destroys destroys
  maps : Lifts call object maps maps
  unmaps : Lifts call object unmaps unmaps
  parent : ∀ e o, parent e = some (object o) →
    ∃ e', call e = some e' ∧ parent e' = some o

namespace Nested

variable {C : Type u} {O : Type v} {C' : Type w} {O' : Type x}
  [ObjectCalls C O] [ObjectCalls C' O'] (nested : Nested C O C' O')

/-- The inner log. -/
def inner (log : List C') : List C := log.filterMap nested.call

theorem alive_iff (log : List C') (o : O) :
    Alive log (nested.object o) ↔ Alive (nested.inner log) o := by
  rw [Alive, Alive, inner, ← ongoing_filterMap]
  simp only [nested.creates.iff nested.injective,
    nested.destroys.iff nested.injective]

theorem mapped_iff (log : List C') (o : O) :
    Mapped log (nested.object o) ↔ Mapped (nested.inner log) o := by
  rw [Mapped, Mapped, inner, ← ongoing_filterMap]
  simp only [nested.maps.iff nested.injective,
    nested.unmaps.iff nested.injective]

theorem created_iff (log : List C') (o : O) :
    Created log (nested.object o) ↔ Created (nested.inner log) o := by
  simp only [Created, inner, nested.creates.iff nested.injective,
    List.mem_filterMap]
  constructor
  · rintro ⟨e, hmem, e', hcall, hcreates⟩
    exact ⟨e', ⟨e, hmem, hcall⟩, hcreates⟩
  · rintro ⟨e', ⟨e, hmem, hcall⟩, hcreates⟩
    exact ⟨e, hmem, e', hcall, hcreates⟩

/-- What was created from an inner object is one. -/
theorem createdFrom {log : List C'} {o : O} {child : O'}
    (hchild : CreatedFrom log (nested.object o) child) :
    ∃ o', child = nested.object o' ∧
      CreatedFrom (nested.inner log) o o' := by
  obtain ⟨e, hmem, hcreates, hparent⟩ := hchild
  obtain ⟨e', hcall, hfrom⟩ := nested.parent e o hparent
  rw [nested.creates.within e e' hcall, Option.map_eq_some_iff] at hcreates
  obtain ⟨o', ho', rfl⟩ := hcreates
  exact ⟨o', rfl, e', List.mem_filterMap.mpr ⟨e, hmem, hcall⟩, ho', hfrom⟩

/-- What the inner log allows the outer one allows, if all that is used beside
inner objects is alive. -/
theorem allowed {before : List C'} {e : C'} {e' : C}
    (hcall : nested.call e = some e')
    (hallowed : Allowed (nested.inner before) e')
    (huses : ∀ other ∈ uses e, (∃ o ∈ uses e', other = nested.object o) ∨
      Alive before other) : Allowed before e where
  alive other hused := by
    rcases huses other hused with ⟨o, hmem, rfl⟩ | halive
    · exact (nested.alive_iff before o).mpr (hallowed.alive o hmem)
    · exact halive
  fresh other hcreates := by
    rw [nested.creates.within e e' hcall, Option.map_eq_some_iff] at hcreates
    obtain ⟨o, ho, rfl⟩ := hcreates
    rw [nested.created_iff]
    exact hallowed.fresh o ho
  unmapped other hdestroys := by
    rw [nested.destroys.within e e' hcall, Option.map_eq_some_iff] at hdestroys
    obtain ⟨o, ho, rfl⟩ := hdestroys
    rw [nested.mapped_iff]
    exact hallowed.unmapped o ho
  childless other child hdestroys hchild := by
    rw [nested.destroys.within e e' hcall, Option.map_eq_some_iff] at hdestroys
    obtain ⟨o, ho, rfl⟩ := hdestroys
    obtain ⟨o', rfl, hfrom⟩ := nested.createdFrom hchild
    rw [nested.alive_iff]
    exact hallowed.childless o o' ho hfrom

section Session

variable {log more : List C'} {live : List O'}

/-- Inner calls only. -/
def Within (more : List C') : Prop := ∀ e ∈ more, (nested.call e).isSome

/-- Inner calls let the other objects be. -/
theorem alive_of_within (hwithin : nested.Within more) {other : O'}
    (hother : ∀ o, other ≠ nested.object o) :
    Alive (log ++ more) other ↔ Alive log other := by
  induction more using List.reverseRecOn with
  | nil => rw [List.append_nil]
  | append_singleton rest e ih =>
      have hcall := hwithin e (by simp)
      rw [← List.append_assoc, Alive, ongoing_concat_of_idle]
      · exact ih fun later hmem => hwithin later (by simp [hmem])
      · exact nested.creates.avoids hcall hother
      · exact nested.destroys.avoids hcall hother

theorem held_of_within (hwithin : nested.Within more) {other : O'}
    (hother : ∀ o, other ≠ nested.object o) :
    Mapped (log ++ more) other ↔ Mapped log other := by
  induction more using List.reverseRecOn with
  | nil => rw [List.append_nil]
  | append_singleton rest e ih =>
      have hcall := hwithin e (by simp)
      rw [← List.append_assoc, Mapped, ongoing_concat_of_idle]
      · exact ih fun later hmem => hwithin later (by simp [hmem])
      · exact nested.maps.avoids hcall hother
      · exact nested.unmaps.avoids hcall hother

/-- A session of inner calls is lawful if it is so in the inner log and uses
live objects beside inner ones. -/
theorem lawful_of_within (hlawful : Lawful log)
    (hinner : Lawful (nested.inner (log ++ more)))
    (hwithin : nested.Within more)
    (huses : ∀ e ∈ more, ∀ e', nested.call e = some e' → ∀ other ∈ uses e,
      (∃ o ∈ uses e', other = nested.object o) ∨
        Alive log other ∧ ∀ o, other ≠ nested.object o) :
    Lawful (log ++ more) := by
  induction more using List.reverseRecOn with
  | nil => rwa [List.append_nil]
  | append_singleton rest e ih =>
      have hrest : nested.Within rest := fun later hmem =>
        hwithin later (by simp [hmem])
      obtain ⟨e', hcall⟩ :=
        Option.isSome_iff_exists.mp (hwithin e (by simp))
      rw [← List.append_assoc, inner, List.filterMap_concat, hcall] at hinner
      obtain ⟨hbefore, hallowed⟩ := atEach_concat.mp hinner
      rw [← List.append_assoc]
      refine atEach_concat.mpr ⟨?_, nested.allowed hcall hallowed ?_⟩
      · exact ih hbefore hrest fun later hmem =>
          huses later (List.mem_append_left _ hmem)
      · intro other hused
        rcases huses e (by simp) e' hcall other hused with
          hinside | ⟨halive, houtside⟩
        · exact Or.inl hinside
        · exact Or.inr ((nested.alive_of_within hrest houtside).mpr halive)

/-- A session that leaves no inner object behind leaves the others as they
were. -/
theorem owns_of_within (howns : Owns log live [])
    (hinner : Owns (nested.inner (log ++ more)) ([] : List O) [])
    (hwithin : nested.Within more)
    (houtside : ∀ other ∈ live, ∀ o, other ≠ nested.object o)
    (huses : ∀ e ∈ more, ∀ e', nested.call e = some e' → ∀ other ∈ uses e,
      (∃ o ∈ uses e', other = nested.object o) ∨ other ∈ live) :
    Owns (log ++ more) live [] where
  lawful := by
    refine nested.lawful_of_within howns.lawful hinner.lawful hwithin ?_
    intro e hmem e' hcall other hused
    rcases huses e hmem e' hcall other hused with hinside | hlive
    · exact Or.inl hinside
    · exact Or.inr ⟨(howns.alive other).mpr hlive, houtside other hlive⟩
  alive other := by
    by_cases hinside : ∃ o, other = nested.object o
    · obtain ⟨o, rfl⟩ := hinside
      rw [nested.alive_iff, hinner.alive]
      refine iff_of_false List.not_mem_nil fun hlive => ?_
      exact houtside _ hlive o rfl
    · rw [nested.alive_of_within hwithin fun o hsame => hinside ⟨o, hsame⟩]
      exact howns.alive other
  held other := by
    by_cases hinside : ∃ o, other = nested.object o
    · obtain ⟨o, rfl⟩ := hinside
      rw [nested.mapped_iff, hinner.held]
      simp
    · rw [nested.held_of_within hwithin fun o hsame => hinside ⟨o, hsame⟩]
      exact howns.held other
  nodup := howns.nodup

end Session

end Nested

end Lifetimes
