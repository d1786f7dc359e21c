/-
Fallible methods.  A method runs on a receiver, ends in a value or in an
error, and leaves the receiver in some state in either case: an early return
does not undo what was already changed.  The equations below let a proof run a
method step by step from what is known about the receiver.
-/
import Mathlib.Tactic.Basic

universe u v w

/-- A computation on a receiver of type `S` that may stop with an error. -/
def Method (E : Type u) (S : Type v) (α : Type w) : Type (max u v w) :=
  S → Except E α × S

namespace Method

variable {E : Type u} {S : Type v} {α β : Type w}

instance : Monad (Method E S) where
  pure value := fun receiver => (.ok value, receiver)
  bind first next := fun receiver =>
    match first receiver with
    | (.ok value, changed) => next value changed
    | (.error error, changed) => (.error error, changed)

/-- Stop with an error. -/
def fail (error : E) : Method E S α := fun receiver => (.error error, receiver)

/-- Continue with a value already computed, or stop with its error. -/
def ofResult (result : Except E α) : Method E S α :=
  fun receiver => (result, receiver)

/-- Continue with the value of an option, or stop with the given error. -/
def okOr (value : Option α) (error : E) : Method E S α :=
  match value with
  | some found => pure found
  | none => fail error

/-- Stop with the given error when a test holds. -/
def rejectIf (test : Prop) [Decidable test] (error : E) :
    Method E S PUnit :=
  if test then fail error else pure ⟨⟩

/-- Read something off the receiver. -/
def read (view : S → α) : Method E S α :=
  fun receiver => (.ok (view receiver), receiver)

/-- Change the receiver. -/
def change (update : S → S) : Method E S PUnit :=
  fun receiver => (.ok ⟨⟩, update receiver)

@[simp] theorem pure_run (value : α) (receiver : S) :
    (pure value : Method E S α) receiver = (.ok value, receiver) := rfl

@[simp] theorem fail_run (error : E) (receiver : S) :
    (fail error : Method E S α) receiver = (.error error, receiver) := rfl

@[simp] theorem ofResult_run (result : Except E α) (receiver : S) :
    (ofResult result : Method E S α) receiver = (result, receiver) := rfl

@[simp] theorem read_run (view : S → α) (receiver : S) :
    (read view : Method E S α) receiver = (.ok (view receiver), receiver) :=
  rfl

@[simp] theorem change_run (update : S → S) (receiver : S) :
    (change update : Method E S PUnit) receiver =
      (.ok ⟨⟩, update receiver) := rfl

@[simp] theorem okOr_some (value : α) (error : E) (receiver : S) :
    (okOr (some value) error : Method E S α) receiver =
      (.ok value, receiver) := rfl

@[simp] theorem okOr_none (error : E) (receiver : S) :
    (okOr none error : Method E S α) receiver = (.error error, receiver) := rfl

theorem rejectIf_run (test : Prop) [Decidable test] (error : E)
    (receiver : S) :
    (rejectIf test error : Method E S PUnit) receiver =
      if test then (.error error, receiver) else (.ok ⟨⟩, receiver) := by
  by_cases htest : test
  · simp [rejectIf, htest]
  · simp [rejectIf, htest]

theorem bind_run (first : Method E S α) (next : α → Method E S β)
    (receiver : S) :
    (first >>= next) receiver =
      match first receiver with
      | (.ok value, changed) => next value changed
      | (.error error, changed) => (.error error, changed) := rfl

theorem map_run (change : α → β) (method : Method E S α) (receiver : S) :
    (change <$> method) receiver =
      ((method receiver).1.map change, (method receiver).2) := by
  change (method >>= fun value => pure (change value)) receiver = _
  rw [bind_run]
  cases hrun : method receiver with
  | mk result changed =>
      cases result with
      | ok value => rfl
      | error error => rfl

theorem bind_of_ok {first : Method E S α} {next : α → Method E S β}
    {receiver changed : S} {value : α}
    (hfirst : first receiver = (.ok value, changed)) :
    (first >>= next) receiver = next value changed := by
  rw [bind_run, hfirst]

theorem bind_of_error {first : Method E S α} {next : α → Method E S β}
    {receiver changed : S} {error : E}
    (hfirst : first receiver = (.error error, changed)) :
    (first >>= next) receiver = (.error error, changed) := by
  rw [bind_run, hfirst]

/-! ### Running a method one step at a time -/

section Steps

variable (next : α → Method E S β) (receiver : S)

theorem read_bind (view : S → α) :
    (read view >>= next) receiver = next (view receiver) receiver := rfl

theorem okOr_some_bind (value : α) (error : E) :
    (okOr (some value) error >>= next) receiver = next value receiver := rfl

theorem okOr_none_bind (error : E) :
    (okOr none error >>= next) receiver = (.error error, receiver) := rfl

theorem ofResult_ok_bind (value : α) :
    (ofResult (.ok value) >>= next) receiver = next value receiver := rfl

theorem ofResult_error_bind (error : E) :
    (ofResult (.error error) >>= next) receiver =
      (.error error, receiver) := rfl

variable (next : PUnit → Method E S β)

theorem change_bind (update : S → S) :
    (change update >>= next) receiver = next ⟨⟩ (update receiver) := rfl

theorem rejectIf_bind_of_pos {test : Prop} [Decidable test] (error : E)
    (htest : test) :
    (rejectIf test error >>= next) receiver = (.error error, receiver) := by
  rw [bind_run, rejectIf_run, if_pos htest]

theorem rejectIf_bind_of_neg {test : Prop} [Decidable test] (error : E)
    (htest : ¬ test) :
    (rejectIf test error >>= next) receiver = next ⟨⟩ receiver := by
  rw [bind_run, rejectIf_run, if_neg htest]

end Steps

/-- What both parts of a method preserve, the method preserves. -/
theorem bind_preserves {kept : S → Prop} {first : Method E S α}
    {next : α → Method E S β}
    (hfirst : ∀ receiver, kept receiver → kept (first receiver).2)
    (hnext : ∀ value receiver, kept receiver → kept (next value receiver).2)
    (receiver : S) (hkept : kept receiver) :
    kept ((first >>= next) receiver).2 := by
  have hchanged := hfirst receiver hkept
  rw [bind_run]
  cases hrun : first receiver with
  | mk result changed =>
      rw [hrun] at hchanged
      cases result with
      | ok value => exact hnext value changed hchanged
      | error error => exact hchanged

/-! ### What a method leaves alone -/

section Keeps

variable {X : Type u} {view : S → X}

/-- Whatever the method does, it leaves what `view` shows of its receiver. -/
def Keeps (view : S → X) (method : Method E S α) : Prop :=
  ∀ receiver, view (method receiver).2 = view receiver

namespace Keeps

theorem pure (value : α) : Keeps view (pure value : Method E S α) :=
  fun _ => rfl

theorem fail (error : E) : Keeps view (fail error : Method E S α) :=
  fun _ => rfl

theorem ofResult (result : Except E α) :
    Keeps view (ofResult result : Method E S α) :=
  fun _ => rfl

theorem read (look : S → α) : Keeps view (read look : Method E S α) :=
  fun _ => rfl

theorem okOr (value : Option α) (error : E) :
    Keeps view (okOr value error : Method E S α) := by
  cases value with
  | none => exact fail error
  | some found => exact pure found

theorem rejectIf (test : Prop) [Decidable test] (error : E) :
    Keeps view (rejectIf test error : Method E S PUnit) := by
  intro receiver
  rw [rejectIf_run]
  by_cases htest : test
  · rw [if_pos htest]
  · rw [if_neg htest]

theorem change {update : S → S}
    (hupdate : ∀ receiver, view (update receiver) = view receiver) :
    Keeps view (change update : Method E S PUnit) :=
  hupdate

theorem bind {first : Method E S α} {next : α → Method E S β}
    (hfirst : Keeps view first) (hnext : ∀ value, Keeps view (next value)) :
    Keeps view (first >>= next) := by
  intro receiver
  have hchanged := hfirst receiver
  rw [bind_run]
  cases hrun : first receiver with
  | mk result changed =>
      rw [hrun] at hchanged
      cases result with
      | ok value => exact (hnext value changed).trans hchanged
      | error error => exact hchanged

theorem map {method : Method E S α} (hmethod : Keeps view method)
    (change : α → β) : Keeps view (change <$> method) := by
  intro receiver
  rw [map_run]
  exact hmethod receiver

end Keeps

end Keeps

end Method
