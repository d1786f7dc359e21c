/-
Deterministic machines with answers.  A machine is a total step function from
a state and an action to an answer and the next state.  A run is a list of
actions; its trace keeps every step with the state before and after it, so a
statement about a run can speak of what happened earlier in it.  The rules at
the end reduce a statement about all runs to one about a single step.
-/
import Mathlib.Data.List.Induction

universe u v w x y z

/-- One step of a run as an observer records it. -/
structure Event (S : Type u) (A : Type v) (O : Type w) where
  before : S
  action : A
  answer : O
  after : S

/-- A cut of a list that grows at its end: at the new entry or before it. -/
theorem List.cut_concat {α : Type u} {past before after : List α}
    {last e : α} (hsplit : past ++ [last] = before ++ e :: after) :
    (past = before ∧ last = e ∧ after = []) ∨
      ∃ middle, past = before ++ e :: middle ∧ after = middle ++ [last] := by
  rcases List.eq_nil_or_concat after with rfl | ⟨middle, final, rfl⟩
  · obtain ⟨hpast, hlast⟩ := List.append_inj' hsplit rfl
    exact Or.inl ⟨hpast, List.singleton_inj.mp hlast, rfl⟩
  · rw [List.concat_eq_append, ← List.cons_append,
      ← List.append_assoc] at hsplit
    obtain ⟨hpast, hlast⟩ := List.append_inj' hsplit rfl
    refine Or.inr ⟨middle, hpast, ?_⟩
    rw [List.concat_eq_append, List.singleton_inj.mp hlast]

namespace Machine

variable {S : Type u} {A : Type v} {O : Type w}

/-- The record of taking one action in one state. -/
def event (step : S → A → O × S) (state : S) (action : A) : Event S A O :=
  ⟨state, action, (step state action).1, (step state action).2⟩

def run (step : S → A → O × S) (state : S) : List A → S
  | [] => state
  | action :: rest => run step (step state action).2 rest

def trace (step : S → A → O × S) (state : S) : List A → List (Event S A O)
  | [] => []
  | action :: rest =>
      event step state action :: trace step (step state action).2 rest

/-- The answers alone, in order. -/
def answers (step : S → A → O × S) (state : S) (actions : List A) : List O :=
  (trace step state actions).map Event.answer

variable (step : S → A → O × S)

@[simp] theorem run_nil (state : S) : run step state [] = state := rfl

@[simp] theorem trace_nil (state : S) : trace step state [] = [] := rfl

theorem run_append (state : S) (first second : List A) :
    run step state (first ++ second) =
      run step (run step state first) second := by
  induction first generalizing state with
  | nil => rfl
  | cons action rest ih => exact ih (step state action).2

theorem trace_append (state : S) (first second : List A) :
    trace step state (first ++ second) =
      trace step state first ++ trace step (run step state first) second := by
  induction first generalizing state with
  | nil => rfl
  | cons action rest ih =>
      simp only [List.cons_append, trace, run]
      rw [ih]

theorem run_concat (state : S) (actions : List A) (action : A) :
    run step state (actions ++ [action]) =
      (step (run step state actions) action).2 := by
  rw [run_append]
  rfl

theorem trace_concat (state : S) (actions : List A) (action : A) :
    trace step state (actions ++ [action]) =
      trace step state actions ++
        [event step (run step state actions) action] := by
  rw [trace_append]
  rfl

/-- Every recorded event cuts the run in two: what led to it, and what came
after it. -/
theorem trace_split {state : S} {actions : List A}
    {past future : List (Event S A O)} {e : Event S A O}
    (hsplit : trace step state actions = past ++ e :: future) :
    ∃ first later, actions = first ++ e.action :: later ∧
      past = trace step state first ∧
      e = event step (run step state first) e.action ∧
      future = trace step e.after later := by
  induction actions generalizing state past with
  | nil => simp at hsplit
  | cons action rest ih =>
      cases past with
      | nil =>
          simp only [trace, List.nil_append, List.cons.injEq] at hsplit
          obtain ⟨rfl, rfl⟩ := hsplit
          exact ⟨[], rest, rfl, rfl, rfl, rfl⟩
      | cons head tail =>
          simp only [trace, List.cons_append, List.cons.injEq] at hsplit
          obtain ⟨rfl, htail⟩ := hsplit
          obtain ⟨first, later, rfl, rfl, he, rfl⟩ := ih htail
          exact ⟨action :: first, later, rfl, rfl, he, rfl⟩

theorem trace_split_of_append (state : S) (first later : List A) (action : A) :
    trace step state (first ++ action :: later) =
      trace step state first ++
        event step (run step state first) action ::
          trace step (step (run step state first) action).2 later := by
  rw [trace_append]
  rfl

theorem mem_trace {state : S} {actions : List A} {e : Event S A O}
    (hmem : e ∈ trace step state actions) :
    ∃ now, e = event step now e.action := by
  induction actions generalizing state with
  | nil => cases hmem
  | cons action rest ih =>
      rcases List.mem_cons.mp hmem with rfl | hrest
      · exact ⟨state, rfl⟩
      · exact ih hrest

/-- Two machines whose steps correspond are answered alike all along, and end
in corresponding states. -/
theorem lockstep {T : Type x} {B : Type y} {Q : Type z} {step : S → A → O × S}
    {other : T → B → Q × T} {related : S → T → Prop} {onAction : A → B}
    {onAnswer : O → Q}
    (hstep : ∀ state state' action, related state state' →
      (other state' (onAction action)).1 = onAnswer (step state action).1 ∧
        related (step state action).2 (other state' (onAction action)).2)
    {state : S} {state' : T} (hrelated : related state state')
    (actions : List A) :
    answers other state' (actions.map onAction) =
        (answers step state actions).map onAnswer ∧
      related (run step state actions)
        (run other state' (actions.map onAction)) := by
  induction actions generalizing state state' with
  | nil => exact ⟨rfl, hrelated⟩
  | cons action rest ih =>
      obtain ⟨hanswer, hafter⟩ := hstep state state' action hrelated
      obtain ⟨hanswers, hlast⟩ := ih hafter
      exact ⟨congrArg₂ List.cons hanswer hanswers, hlast⟩

/-- A property of the history and the state, at every point of a run. -/
def Throughout (state : S) (actions : List A)
    (property : List (Event S A O) → S → Prop) : Prop :=
  ∀ first later, actions = first ++ later →
    property (trace step state first) (run step state first)

/-- A condition on every step of a run, given the history before it. -/
def Meets (state : S) (actions : List A)
    (condition : List (Event S A O) → Event S A O → Prop) : Prop :=
  ∀ past e future, trace step state actions = past ++ e :: future →
    condition past e

section Rules

variable {step}
variable {state : S} {actions : List A}
variable {invariant property : List (Event S A O) → S → Prop}
variable {condition : List (Event S A O) → Event S A O → Prop}

theorem Throughout.last (hall : Throughout step state actions property) :
    property (trace step state actions) (run step state actions) :=
  hall actions [] (List.append_nil actions).symm

theorem Throughout.mono (hall : Throughout step state actions invariant)
    (himp : ∀ past now, invariant past now → property past now) :
    Throughout step state actions property :=
  fun first later hsplit => himp _ _ (hall first later hsplit)

theorem Meets.shorten {first later : List A}
    (hmeets : Meets step state (first ++ later) condition) :
    Meets step state first condition := by
  intro past e future hsplit
  apply hmeets past e (future ++ trace step (run step state first) later)
  rw [trace_append, hsplit, List.append_assoc, List.cons_append]

/-- The step that follows a prefix of the run meets the condition. -/
theorem Meets.at_step {first later : List A} {action : A}
    (hmeets : Meets step state (first ++ action :: later) condition) :
    condition (trace step state first)
      (event step (run step state first) action) :=
  hmeets _ _ _ (trace_split_of_append step state first later action)

theorem meets_of_prefixes
    (hall : ∀ first action later, actions = first ++ action :: later →
      condition (trace step state first)
        (event step (run step state first) action)) :
    Meets step state actions condition := by
  intro past e future hsplit
  obtain ⟨first, later, hactions, rfl, he, -⟩ := trace_split step hsplit
  rw [he]
  exact hall first e.action later hactions

/-- One step longer, a run has one more step to meet the condition. -/
theorem meets_concat {action : A} :
    Meets step state (actions ++ [action]) condition ↔
      Meets step state actions condition ∧
        condition (trace step state actions)
          (event step (run step state actions) action) := by
  constructor
  · intro hmeets
    exact ⟨hmeets.shorten, hmeets.at_step⟩
  · rintro ⟨hmeets, hlast⟩
    apply meets_of_prefixes
    intro first other later hsplit
    rcases List.cut_concat hsplit with ⟨rfl, rfl, rfl⟩ | ⟨middle, rfl, -⟩
    · exact hlast
    · exact hmeets.at_step

/-- The steps of a run are counted by the positions in its trace. -/
theorem meets_iff_at :
    Meets step state actions condition ↔
      ∀ index, ∀ hlt : index < (trace step state actions).length,
        condition ((trace step state actions).take index)
          (trace step state actions)[index] := by
  constructor
  · intro hmeets index hlt
    apply hmeets _ _ ((trace step state actions).drop (index + 1))
    rw [← List.drop_eq_getElem_cons hlt, List.take_append_drop]
  · intro hall past e future hsplit
    have hlt : past.length < (trace step state actions).length := by
      simp [hsplit]
    have hstep := hall past.length hlt
    simpa [hsplit] using hstep

/-- A decidable condition can be checked on a run. -/
instance [∀ past e, Decidable (condition past e)] :
    Decidable (Meets step state actions condition) :=
  decidable_of_iff' _ meets_iff_at

/-- Two conditions that agree on every step of the run are met together. -/
theorem meets_congr {other : List (Event S A O) → Event S A O → Prop}
    (hagree : ∀ first action,
      (condition (trace step state first)
          (event step (run step state first) action) ↔
        other (trace step state first)
          (event step (run step state first) action))) :
    Meets step state actions condition ↔ Meets step state actions other := by
  constructor
  · intro hmeets
    apply meets_of_prefixes
    rintro first action later rfl
    exact (hagree first action).mp hmeets.at_step
  · intro hmeets
    apply meets_of_prefixes
    rintro first action later rfl
    exact (hagree first action).mpr hmeets.at_step

/-- What one step preserves, a whole run preserves. -/
theorem run_invariant (kept : S → Prop) (hinit : kept state)
    (hstep : ∀ now action, kept now → kept (step now action).2)
    (actions : List A) : kept (run step state actions) := by
  induction actions generalizing state with
  | nil => exact hinit
  | cons action rest ih => exact ih (hstep state action hinit)

/-- The same for a property that also reads the history. -/
theorem history_invariant (hinit : invariant [] state)
    (hstep : ∀ past now action, invariant past now →
      invariant (past ++ [event step now action]) (step now action).2)
    (actions : List A) :
    invariant (trace step state actions) (run step state actions) := by
  induction actions using List.reverseRecOn with
  | nil => exact hinit
  | append_singleton first action ih =>
      rw [trace_concat, run_concat]
      exact hstep _ _ action ih

/-- A property that a step preserves whenever the step meets a condition holds
throughout every run all of whose steps meet it. -/
theorem throughout_of_meets (hinit : invariant [] state)
    (hstep : ∀ past now action, invariant past now →
      condition past (event step now action) →
        invariant (past ++ [event step now action]) (step now action).2)
    (hmeets : Meets step state actions condition) :
    Throughout step state actions invariant := by
  intro first later hactions
  subst hactions
  replace hmeets := hmeets.shorten
  induction first using List.reverseRecOn with
  | nil => exact hinit
  | append_singleton first action ih =>
      rw [trace_concat, run_concat]
      exact hstep _ _ action (ih hmeets.shorten) hmeets.at_step

/-- When a step keeps the property exactly if it meets the condition, a run
keeps the property exactly if all its steps meet the condition. -/
theorem throughout_iff_meets (hinit : invariant [] state)
    (hstep : ∀ past now action, invariant past now →
      (invariant (past ++ [event step now action]) (step now action).2 ↔
        condition past (event step now action))) :
    Throughout step state actions invariant ↔
      Meets step state actions condition := by
  constructor
  · intro hall
    apply meets_of_prefixes
    intro first action later hactions
    have hbefore := hall first (action :: later) hactions
    have hafter := hall (first ++ [action]) later (by simpa using hactions)
    rw [trace_concat, run_concat] at hafter
    exact (hstep _ _ action hbefore).mp hafter
  · exact throughout_of_meets hinit fun past now action hnow hcond =>
      (hstep past now action hnow).mpr hcond

end Rules

/-! ### What can be reached -/

section Within

variable {step} {state : S} {action : A} {allowed : A → Prop} {goal : S → Prop}
  {count : Nat}

variable (step) in
/-- At most so many allowed actions lead to a state that meets the goal. -/
def Within (allowed : A → Prop) (goal : S → Prop) (count : Nat) (state : S) :
    Prop :=
  ∃ actions, actions.length ≤ count ∧ (∀ action ∈ actions, allowed action) ∧
    goal (run step state actions)

theorem within_now (hgoal : goal state) : Within step allowed goal count state :=
  ⟨[], Nat.zero_le count, by simp, hgoal⟩

/-- One action that is allowed comes before the others. -/
theorem Within.before (hallowed : allowed action)
    (hlater : Within step allowed goal count (step state action).2) :
    Within step allowed goal (count + 1) state := by
  obtain ⟨actions, hlength, hall, hgoal⟩ := hlater
  refine ⟨action :: actions, by simpa using hlength, ?_, hgoal⟩
  intro other hmem
  rcases List.mem_cons.mp hmem with rfl | hrest
  · exact hallowed
  · exact hall other hrest

end Within

end Machine
