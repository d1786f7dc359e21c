/-
Logs that keep the rules of a machine.  The machine takes the entries of a log
one after the other, and its state decides which entries are allowed next.
-/
import SherGraphics.Ongoing

universe u v

/-- A machine, and the entries that it allows. -/
structure RuleBook (S : Type u) (C : Type v) where
  start : S
  perform : S → C → S
  Allowed : S → C → Prop

namespace RuleBook

variable {S : Type u} {C : Type v} (rules : RuleBook S C)

/-- The machine after a log. -/
def after (log : List C) : S :=
  log.foldl rules.perform rules.start

/-- Each entry of the log is allowed after those before it. -/
def Kept (log : List C) : Prop :=
  AtEach (fun before call => rules.Allowed (rules.after before) call) log

variable {rules}

theorem after_concat (log : List C) (call : C) :
    rules.after (log ++ [call]) = rules.perform (rules.after log) call := by
  simp [after]

theorem kept_concat {log : List C} {call : C} :
    rules.Kept (log ++ [call]) ↔
      rules.Kept log ∧ rules.Allowed (rules.after log) call :=
  atEach_concat

/-! ### Where the machine has come to -/

/-- The entries since `before` keep the rules, and take the machine to a state
with this fact. -/
def Reached (rules : RuleBook S C) (before : List C) (fact : S → Prop)
    (log : List C) : Prop :=
  ∃ calls, log = before ++ calls ∧ rules.Kept calls ∧ fact (rules.after calls)

variable {before log : List C} {fact wanted : S → Prop}

theorem reached_start (hstart : fact rules.start) :
    rules.Reached before fact before :=
  ⟨[], (List.append_nil before).symm, atEach_nil, hstart⟩

theorem Reached.mono (hreached : rules.Reached before fact log)
    (himp : ∀ state, fact state → wanted state) :
    rules.Reached before wanted log := by
  obtain ⟨calls, hlog, hkept, hfact⟩ := hreached
  exact ⟨calls, hlog, hkept, himp _ hfact⟩

/-- An entry that the fact allows takes the machine further. -/
theorem Reached.take {call : C} (hreached : rules.Reached before fact log)
    (hallowed : ∀ state, fact state → rules.Allowed state call)
    (htaken : ∀ state, fact state → wanted (rules.perform state call)) :
    rules.Reached before wanted (log ++ [call]) := by
  obtain ⟨calls, rfl, hkept, hfact⟩ := hreached
  refine ⟨calls ++ [call], List.append_assoc .., ?_, ?_⟩
  · exact kept_concat.mpr ⟨hkept, hallowed _ hfact⟩
  · rw [after_concat]
    exact htaken _ hfact

/-- Entries that are all allowed where the fact holds, and keep it. -/
theorem Reached.extend {allowed : C → Prop} {more : List C}
    (hreached : rules.Reached before fact log)
    (hmore : ∀ call ∈ more, allowed call)
    (hallowed : ∀ call state, allowed call → fact state →
      rules.Allowed state call ∧ fact (rules.perform state call)) :
    rules.Reached before fact (log ++ more) := by
  induction more using List.reverseRecOn with
  | nil => simpa using hreached
  | append_singleton rest last ih =>
      have hrest := ih fun call hmem => hmore call (List.mem_append_left _ hmem)
      have hlast : allowed last := hmore last (by simp)
      rw [← List.append_assoc]
      exact hrest.take (fun state hfact => (hallowed last state hlast hfact).1)
        fun state hfact => (hallowed last state hlast hfact).2

end RuleBook
