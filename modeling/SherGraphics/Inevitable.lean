/-
What no execution of a nondeterministic system can avoid: an event that comes
within a bounded number of steps, whichever steps are taken, and before which
the system is never stuck.
-/
import SherGraphics.Execution

universe u v w

variable {S : Type u} {A : Type v} {O : Type w}

/-- The system has a step to take, and after every step that is not the goal it
is nearer to the goal. -/
inductive Inevitable (step : S → A → O → S → Prop)
    (goal : Event S A O → Prop) : Nat → S → Prop
  | next {bound : Nat} {now : S}
      (hable : ∃ action answer after, step now action answer after)
      (hnearer : ∀ action answer after, step now action answer after →
        ¬ goal ⟨now, action, answer, after⟩ →
          Inevitable step goal bound after) :
      Inevitable step goal (bound + 1) now

namespace Inevitable

variable {step : S → A → O → S → Prop} {goal : Event S A O → Prop}
  {bound : Nat} {now last : S} {trace : List (Event S A O)}

/-- A rank that every step lowers bounds the number of steps. -/
theorem of_rank (kept : S → Prop) (rank : S → Nat)
    (hable : ∀ now, kept now →
      ∃ action answer after, step now action answer after)
    (hlower : ∀ now action answer after, kept now →
      step now action answer after → ¬ goal ⟨now, action, answer, after⟩ →
        kept after ∧ rank after < rank now)
    (hkept : kept now) (hrank : rank now < bound) :
    Inevitable step goal bound now := by
  induction bound generalizing now with
  | zero => exact absurd hrank (Nat.not_lt_zero _)
  | succ bound ih =>
      refine .next (hable now hkept) ?_
      intro action answer after hstep hnot
      obtain ⟨hafter, hlt⟩ := hlower now action answer after hkept hstep hnot
      exact ih hafter (by omega)

/-- An execution that has avoided the goal so far is that much nearer to it. -/
theorem after (hinevitable : Inevitable step goal bound now)
    (hrun : Execution step now trace last)
    (havoided : ∀ e ∈ trace, ¬ goal e) :
    ∃ left, trace.length + left = bound ∧ Inevitable step goal left last := by
  induction hrun with
  | nil => exact ⟨bound, Nat.zero_add bound, hinevitable⟩
  | @snoc past before next action answer hpast hstep ih =>
      obtain ⟨left, hlength, hleft⟩ := ih fun e hmem =>
        havoided e (List.mem_append_left _ hmem)
      have hlast := havoided ⟨before, action, answer, next⟩
        (List.mem_append_right _ List.mem_cons_self)
      cases hleft with
      | @next left _ _ hnearer =>
          refine ⟨left, ?_, hnearer action answer next hstep hlast⟩
          rw [List.length_append, List.length_singleton]
          omega

/-- Every execution has come to the goal, or is short and can go on. -/
theorem met_or_goes_on (hinevitable : Inevitable step goal bound now)
    (hrun : Execution step now trace last) :
    (∃ e ∈ trace, goal e) ∨ trace.length < bound ∧
      ∃ action answer next, step last action answer next := by
  by_cases hmet : ∃ e ∈ trace, goal e
  · exact Or.inl hmet
  · obtain ⟨left, hlength, hleft⟩ := hinevitable.after hrun
      fun e hmem hgoal => hmet ⟨e, hmem, hgoal⟩
    cases hleft with
    | next hable _ => exact Or.inr ⟨by omega, hable⟩

end Inevitable
