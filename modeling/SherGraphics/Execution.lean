/-
Executions of a nondeterministic system.  The system is a step relation, an
execution is any chain of its steps, and its trace keeps every step as an
event.
-/
import SherGraphics.Machine

universe u v w x y z r

theorem List.filterMap_concat {α : Type u} {β : Type v} (f : α → Option β)
    (past : List α) (e : α) :
    (past ++ [e]).filterMap f = past.filterMap f ++ (f e).toList := by
  rw [List.filterMap_append]
  cases hvalue : f e with
  | none => simp [hvalue]
  | some value => simp [hvalue]

variable {S : Type u} {A : Type v} {O : Type w}

/-- The steps taken from a start, oldest first, and the state they lead to. -/
inductive Execution (step : S → A → O → S → Prop) (start : S) :
    List (Event S A O) → S → Prop
  | nil : Execution step start [] start
  | snoc {past : List (Event S A O)} {now next : S} {action : A} {answer : O}
      (hpast : Execution step start past now)
      (hstep : step now action answer next) :
      Execution step start (past ++ [⟨now, action, answer, next⟩]) next

namespace Execution

variable {step : S → A → O → S → Prop} {start last : S}
  {trace : List (Event S A O)}

theorem one {action : A} {answer : O} (hstep : step start action answer last) :
    Execution step start [⟨start, action, answer, last⟩] last :=
  .snoc .nil hstep

theorem append {middle : S} {more : List (Event S A O)}
    (hfirst : Execution step start trace middle)
    (hmore : Execution step middle more last) :
    Execution step start (trace ++ more) last := by
  induction hmore with
  | nil => rwa [List.append_nil]
  | snoc hpast hstep ih =>
      rw [← List.append_assoc]
      exact .snoc ih hstep

/-- A system whose actions are restricted takes the same steps. -/
theorem restrict (allowed : A → Prop)
    (hallowed : ∀ e ∈ trace, allowed e.action)
    (hrun : Execution step start trace last) :
    Execution (fun now action answer next =>
      step now action answer next ∧ allowed action) start trace last := by
  induction hrun with
  | nil => exact .nil
  | snoc hpast htaken ih =>
      obtain ⟨hbefore, hlast⟩ := List.forall_mem_append.mp hallowed
      exact .snoc (ih hbefore) ⟨htaken, hlast _ List.mem_cons_self⟩

/-- What every step preserves holds at the end of every execution. -/
theorem invariant (kept : List (Event S A O) → S → Prop)
    (hinit : kept [] start)
    (hstep : ∀ past now action answer next, kept past now →
      step now action answer next →
        kept (past ++ [⟨now, action, answer, next⟩]) next)
    (hrun : Execution step start trace last) : kept trace last := by
  induction hrun with
  | nil => exact hinit
  | snoc hpast htaken ih => exact hstep _ _ _ _ _ ih htaken

/-- Every event of a trace is a step of the system. -/
theorem step_of_mem {e : Event S A O} (hrun : Execution step start trace last)
    (hmem : e ∈ trace) : step e.before e.action e.answer e.after := by
  induction hrun with
  | nil => cases hmem
  | snoc hpast htaken ih =>
      rcases List.mem_append.mp hmem with hold | hnew
      · exact ih hold
      · rw [List.mem_singleton.mp hnew]
        exact htaken

/-- A machine follows the system if it matches every step of it by allowed steps
of its own; an observer then sees the same of both. -/
theorem followed {T : Type x} {B : Type y} {Q : Type z} {R : Type r}
    {machine : T → B → Q × T} {start' : T} (allowed : B → Prop)
    (follows : S → T → Prop) (see : Event S A O → Option R)
    (seen : Event T B Q → Option R) (hstart : follows start start')
    (hstep : ∀ now now' action answer next, follows now now' →
      step now action answer next → ∃ actions,
        (∀ action ∈ actions, allowed action) ∧
          follows next (Machine.run machine now' actions) ∧
          (Machine.trace machine now' actions).filterMap seen =
            (see ⟨now, action, answer, next⟩).toList)
    (hrun : Execution step start trace last) :
    ∃ actions, (∀ action ∈ actions, allowed action) ∧
      follows last (Machine.run machine start' actions) ∧
        (Machine.trace machine start' actions).filterMap seen =
          trace.filterMap see := by
  induction hrun with
  | nil => exact ⟨[], by simp, hstart, rfl⟩
  | snoc hpast htaken ih =>
      obtain ⟨actions, hallowed, hfollows, hseen⟩ := ih
      obtain ⟨more, hmore, hnext, hsees⟩ := hstep _ _ _ _ _ hfollows htaken
      refine ⟨actions ++ more, ?_, ?_, ?_⟩
      · exact List.forall_mem_append.mpr ⟨hallowed, hmore⟩
      · rw [Machine.run_append]
        exact hnext
      · rw [Machine.trace_append, List.filterMap_append, hseen, hsees,
          List.filterMap_concat]

end Execution
