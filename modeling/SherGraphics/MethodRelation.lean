/-
Two methods side by side.  The receivers are related in a world, which may
grow while the methods run: a world says, for instance, which identifiers of
one side stand for which of the other.  The rules follow the constructors of
`Method`, so a proof about two methods follows their text.
-/
import Mathlib.Order.CompleteBooleanAlgebra
import Mathlib.Order.CompletePartialOrder
import SherGraphics.Method

universe u v w

/-- Two results that are related values or related errors. -/
inductive ResultRel {E F : Type u} {α β : Type v} (errors : E → F → Prop)
    (values : α → β → Prop) : Except E α → Except F β → Prop
  | ok {left : α} {right : β} (hvalues : values left right) :
      ResultRel errors values (.ok left) (.ok right)
  | error {left : E} {right : F} (herrors : errors left right) :
      ResultRel errors values (.error left) (.error right)

theorem ResultRel.mono {E F : Type u} {α β : Type v} {errors : E → F → Prop}
    {values weaker : α → β → Prop} {left : Except E α} {right : Except F β}
    (hresults : ResultRel errors values left right)
    (himp : ∀ first second, values first second → weaker first second) :
    ResultRel errors weaker left right := by
  cases hresults with
  | ok hvalues => exact .ok (himp _ _ hvalues)
  | error herrors => exact .error herrors

theorem ResultRel.map {E F : Type u} {α β γ δ : Type v}
    {errors : E → F → Prop} {values : α → β → Prop} {others : γ → δ → Prop}
    {left : Except E α} {right : Except F β} {change : α → γ} {other : β → δ}
    (hresults : ResultRel errors values left right)
    (hchange : ∀ first second, values first second →
      others (change first) (other second)) :
    ResultRel errors others (left.map change) (right.map other) := by
  cases hresults with
  | ok hvalues => exact .ok (hchange _ _ hvalues)
  | error herrors => exact .error herrors

/-- Guards that reject together, before related results. -/
theorem ResultRel.guard {E F : Type u} {α β : Type v} {errors : E → F → Prop}
    {values : α → β → Prop} {test check : Prop} [Decidable test]
    [Decidable check] {error : E} {other : F} {left : Except E α}
    {right : Except F β} (htests : test ↔ check) (herrors : errors error other)
    (hresults : ResultRel errors values left right) :
    ResultRel errors values (if test then .error error else left)
      (if check then .error other else right) := by
  by_cases htest : test
  · rw [if_pos htest, if_pos (htests.mp htest)]
    exact .error herrors
  · rw [if_neg htest, if_neg (mt htests.mpr htest)]
    exact hresults

/-- Equal errors and equal values make equal results. -/
theorem ResultRel.eq {E : Type u} {α : Type v} {left right : Except E α}
    (hresults : ResultRel (· = ·) (· = ·) left right) : left = right := by
  cases hresults with
  | ok hvalues => rw [hvalues]
  | error herrors => rw [herrors]

/-- Equal errors, and values of which one side is computed from the other. -/
theorem ResultRel.eq_map {E : Type u} {α β : Type v} {change : α → β}
    {left : Except E α} {right : Except E β}
    (hresults : ResultRel (· = ·) (fun first second => second = change first)
      left right) : right = left.map change := by
  cases hresults with
  | ok hvalues => rw [hvalues, Except.map]
  | error herrors => rw [herrors, Except.map]

namespace Method

variable {E F : Type u} {S T : Type v} {α β γ δ : Type w}
variable {W : Type u} [Preorder W]

/-- From receivers related in a world the two methods end in related results,
and leave receivers related, in some later world. -/
def Simulates (errors : E → F → Prop) (receivers : W → S → T → Prop)
    (world : W) (values : W → α → β → Prop) (left : Method E S α)
    (right : Method F T β) : Prop :=
  ∀ first second, receivers world first second → ∃ later, world ≤ later ∧
    ResultRel errors (values later) (left first).1 (right second).1 ∧
      receivers later (left first).2 (right second).2

namespace Simulates

variable {errors : E → F → Prop} {receivers : W → S → T → Prop} {world : W}
variable {values : W → α → β → Prop} {others : W → γ → δ → Prop}

theorem pure {left : α} {right : β} (hvalues : values world left right) :
    Simulates errors receivers world values (pure left : Method E S α)
      (pure right : Method F T β) :=
  fun _ _ hrelated => ⟨world, le_rfl, .ok hvalues, hrelated⟩

theorem fail {left : E} {right : F} (herrors : errors left right) :
    Simulates errors receivers world values (fail left : Method E S α)
      (fail right : Method F T β) :=
  fun _ _ hrelated => ⟨world, le_rfl, .error herrors, hrelated⟩

theorem ofResult {left : Except E α} {right : Except F β}
    (hresults : ResultRel errors (values world) left right) :
    Simulates errors receivers world values
      (ofResult left : Method E S α) (ofResult right : Method F T β) :=
  fun _ _ hrelated => ⟨world, le_rfl, hresults, hrelated⟩

theorem okOr {left : Option α} {right : Option β} {error : E} {other : F}
    (hoptions : Option.Rel (values world) left right)
    (herrors : errors error other) :
    Simulates errors receivers world values
      (okOr left error : Method E S α) (okOr right other : Method F T β) := by
  cases hoptions with
  | some hvalues => exact pure hvalues
  | none => exact fail herrors

theorem rejectIf {test check : Prop} [Decidable test] [Decidable check]
    {error : E} {other : F} {units : W → PUnit → PUnit → Prop}
    (hunits : units world ⟨⟩ ⟨⟩) (htests : test ↔ check)
    (herrors : errors error other) :
    Simulates errors receivers world units
      (rejectIf test error : Method E S PUnit)
      (rejectIf check other : Method F T PUnit) := by
  intro first second hrelated
  rw [rejectIf_run, rejectIf_run]
  by_cases htest : test
  · rw [if_pos htest, if_pos (htests.mp htest)]
    exact ⟨world, le_rfl, .error herrors, hrelated⟩
  · rw [if_neg htest, if_neg (mt htests.mpr htest)]
    exact ⟨world, le_rfl, .ok hunits, hrelated⟩

theorem read {view : S → α} {show' : T → β}
    (hviews : ∀ first second, receivers world first second →
      values world (view first) (show' second)) :
    Simulates errors receivers world values (read view : Method E S α)
      (read show' : Method F T β) :=
  fun first second hrelated =>
    ⟨world, le_rfl, .ok (hviews first second hrelated), hrelated⟩

/-- Two methods whose runs are known. -/
theorem of_runs {left : Method E S α} {right : Method F T β}
    (hruns : ∀ first second, receivers world first second →
      ∃ later result other changed changed',
        left first = (result, changed) ∧ right second = (other, changed') ∧
          world ≤ later ∧ ResultRel errors (values later) result other ∧
            receivers later changed changed') :
    Simulates errors receivers world values left right := by
  intro first second hrelated
  obtain ⟨later, result, other, changed, changed', hleft, hright, hle,
    hresults, hafter⟩ := hruns first second hrelated
  rw [hleft, hright]
  exact ⟨later, hle, hresults, hafter⟩

theorem change {update : S → S} {other : T → T}
    {units : W → PUnit → PUnit → Prop} (hunits : ∀ later, units later ⟨⟩ ⟨⟩)
    (hupdates : ∀ first second, receivers world first second →
      ∃ later, world ≤ later ∧ receivers later (update first) (other second)) :
    Simulates errors receivers world units
      (change update : Method E S PUnit)
      (change other : Method F T PUnit) := by
  intro first second hrelated
  obtain ⟨later, hle, hafter⟩ := hupdates first second hrelated
  exact ⟨later, hle, .ok (hunits later), hafter⟩

theorem bind {left : Method E S α} {right : Method F T β}
    {next : α → Method E S γ} {follow : β → Method F T δ}
    (hfirst : Simulates errors receivers world values left right)
    (hnext : ∀ later, world ≤ later → ∀ value other,
      values later value other →
        Simulates errors receivers later others (next value) (follow other)) :
    Simulates errors receivers world others (left >>= next)
      (right >>= follow) := by
  intro first second hrelated
  obtain ⟨middle, hmiddle, hresults, hbetween⟩ := hfirst first second hrelated
  rw [bind_run, bind_run]
  cases hleft : left first with
  | mk result changed =>
      cases hright : right second with
      | mk result' changed' =>
          rw [hleft, hright] at hresults hbetween
          cases hresults with
          | ok hvalues =>
              obtain ⟨later, hlater, hresults, hafter⟩ :=
                hnext middle hmiddle _ _ hvalues changed changed' hbetween
              exact ⟨later, hmiddle.trans hlater, hresults, hafter⟩
          | error herrors =>
              exact ⟨middle, hmiddle, .error herrors, hbetween⟩

theorem map {left : Method E S α} {right : Method F T β} {change : α → γ}
    {other : β → δ}
    (hmethods : Simulates errors receivers world values left right)
    (hchange : ∀ later, world ≤ later → ∀ value value',
      values later value value' →
        others later (change value) (other value')) :
    Simulates errors receivers world others (change <$> left)
      (other <$> right) := by
  intro first second hrelated
  obtain ⟨later, hlater, hresults, hafter⟩ := hmethods first second hrelated
  rw [map_run, map_run]
  exact ⟨later, hlater, hresults.map (hchange later hlater), hafter⟩

end Simulates

/-! ### One method seen through a projection of its receiver -/

section Projection

variable {view : S → T} {left : Method E S α} {right : Method E T α}

/-- The method does what the other does on what `view` shows of its
receiver. -/
abbrev Projects (view : S → T) (left : Method E S α)
    (right : Method E T α) : Prop :=
  Simulates (· = ·) (fun (_ : PUnit.{u + 1}) first second =>
    view first = second) ⟨⟩ (fun _ => (· = ·)) left right

theorem Projects.run (hprojects : Projects view left right) (receiver : S) :
    right (view receiver) = ((left receiver).1, view (left receiver).2) := by
  obtain ⟨_, _, hresults, hafter⟩ := hprojects receiver (view receiver) rfl
  exact Prod.ext hresults.eq.symm hafter.symm

theorem projects_of_run (hrun : ∀ receiver, right (view receiver) =
    ((left receiver).1, view (left receiver).2)) :
    Projects view left right := by
  rintro first _ rfl
  refine ⟨⟨⟩, le_rfl, ?_, by rw [hrun]⟩
  rw [hrun]
  cases (left first).1 with
  | ok value => exact .ok rfl
  | error error => exact .error rfl

namespace Projects

theorem pure (value : α) : Projects view (pure value : Method E S α)
    (pure value : Method E T α) :=
  Simulates.pure rfl

theorem ofResult (result : Except E α) :
    Projects view (ofResult result) (ofResult result) :=
  projects_of_run fun _ => rfl

theorem okOr (value : Option α) (error : E) :
    Projects view (okOr value error) (okOr value error) := by
  cases value with
  | some found => exact Simulates.pure rfl
  | none => exact Simulates.fail rfl

theorem rejectIf (test : Prop) [Decidable test] (error : E) :
    Projects view (rejectIf test error : Method E S PUnit)
      (rejectIf test error : Method E T PUnit) :=
  Simulates.rejectIf rfl Iff.rfl rfl

theorem read {look : S → α} {other : T → α}
    (hviews : ∀ receiver, look receiver = other (view receiver)) :
    Projects view (read look : Method E S α) (read other : Method E T α) :=
  projects_of_run fun receiver => by rw [read_run, read_run, hviews]

theorem change {update : S → S} {other : T → T}
    (hupdates : ∀ receiver, view (update receiver) = other (view receiver)) :
    Projects view (change update : Method E S PUnit)
      (change other : Method E T PUnit) :=
  projects_of_run fun receiver => by rw [change_run, change_run, hupdates]

theorem bind {next : α → Method E S β} {follow : α → Method E T β}
    (hfirst : Projects view left right)
    (hnext : ∀ value, Projects view (next value) (follow value)) :
    Projects view (left >>= next) (right >>= follow) := by
  refine Simulates.bind hfirst ?_
  rintro later _ value _ rfl
  exact hnext value

/-- What the two sides read off may have different types, as long as they go
on alike from it. -/
theorem read_bind {look : S → α} {other : T → γ} {next : α → Method E S β}
    {follow : γ → Method E T β}
    (hnext : ∀ receiver, Projects view (next (look receiver))
      (follow (other (view receiver)))) :
    Projects view (Method.read look >>= next)
      (Method.read other >>= follow) := by
  apply projects_of_run
  intro receiver
  rw [Method.read_bind, Method.read_bind]
  exact (hnext receiver).run receiver

theorem map (change : α → β) (hmethods : Projects view left right) :
    Projects view (change <$> left) (change <$> right) := by
  refine Simulates.map hmethods ?_
  rintro later _ value _ rfl
  rfl

end Projects

end Projection

end Method
