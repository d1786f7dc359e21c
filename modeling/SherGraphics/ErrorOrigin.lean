/-
Where the error of a method comes from.  The method writes its calls to a log,
and some entries of a log say that their call failed.  An error is that of the
first failed call, or one of the method's own when no call has failed.
-/
import SherGraphics.MethodRules

universe u v w

namespace Method

variable {E F : Type u} {C : Type v} {α β : Type u} {failure : C → Option E}
  {own : E → Prop} {caught : E → Option F}

/-- The error of the first failed call. -/
def firstFailure (failure : C → Option E) (log : List C) : Option E :=
  log.findSome? failure

theorem firstFailure_append_of_none {log more : List C}
    (hnone : firstFailure failure log = none) :
    firstFailure failure (log ++ more) = firstFailure failure more := by
  rw [firstFailure] at hnone
  rw [firstFailure, List.findSome?_append, hnone]
  rfl

theorem firstFailure_append_quiet {log more : List C}
    (hquiet : ∀ call ∈ more, failure call = none) :
    firstFailure failure (log ++ more) = firstFailure failure log := by
  rw [firstFailure, List.findSome?_append,
    List.findSome?_eq_none_iff.mpr hquiet, Option.or_none]
  rfl

/-- How a method ended, against the calls that it made. -/
def Accounts (failure : C → Option E) (own : E → Prop) (calls : List C) :
    Except E α → Prop
  | .ok _ => firstFailure failure calls = none
  | .error error => firstFailure failure calls = some error ∨
      firstFailure failure calls = none ∧ own error

/-- The method adds its calls to the log, and they account for its end. -/
def Attributed (failure : C → Option E) (own : E → Prop)
    (method : Method E (List C) α) : Prop :=
  ∀ log, ∃ calls, (method log).2 = log ++ calls ∧
    Accounts failure own calls (method log).1

/-- The method makes only calls that do not fail, and does not fail. -/
def Unfailing (failure : C → Option E) (method : Method E (List C) α) : Prop :=
  ∀ log, ∃ calls value, method log = (.ok value, log ++ calls) ∧
    ∀ call ∈ calls, failure call = none

namespace Unfailing

theorem one {method : Method E (List C) PUnit} {call : C}
    (hone : ∀ log, method log = (.ok ⟨⟩, log ++ [call]))
    (hcall : failure call = none) : Unfailing failure method :=
  fun log => ⟨[call], ⟨⟩, hone log, by simpa using hcall⟩

theorem bind {first : Method E (List C) α} {next : α → Method E (List C) β}
    (hfirst : Unfailing failure first)
    (hnext : ∀ value, Unfailing failure (next value)) :
    Unfailing failure (first >>= next) := by
  intro log
  obtain ⟨calls, value, hrun, hquiet⟩ := hfirst log
  obtain ⟨more, last, hlast, hrest⟩ := hnext value (log ++ calls)
  refine ⟨calls ++ more, last, ?_, ?_⟩
  · rw [bind_of_ok hrun, hlast, List.append_assoc]
  · intro call hmem
    exact (List.mem_append.mp hmem).elim (hquiet call) (hrest call)

end Unfailing

namespace Attributed

theorem pure (value : α) :
    Attributed failure own (Pure.pure value : Method E (List C) α) :=
  fun log => ⟨[], (List.append_nil log).symm, rfl⟩

theorem okOr (value : Option α) {error : E} (hown : own error) :
    Attributed failure own (okOr value error : Method E (List C) α) := by
  cases value with
  | none =>
      exact fun log => ⟨[], (List.append_nil log).symm, Or.inr ⟨rfl, hown⟩⟩
  | some found => exact pure found

theorem rejectIf (test : Prop) [Decidable test] {error : E}
    (hown : test → own error) :
    Attributed failure own (rejectIf test error : Method E (List C) PUnit) := by
  by_cases htest : test
  · rw [Method.rejectIf, if_pos htest]
    exact okOr none (hown htest)
  · rw [Method.rejectIf, if_neg htest]
    exact pure PUnit.unit

/-- A single call whose entry tells how it ended. -/
theorem one {method : Method E (List C) α}
    (hone : ∀ log, ∃ call, (method log).2 = log ++ [call] ∧
      match (method log).1 with
      | .ok _ => failure call = none
      | .error error => failure call = some error) :
    Attributed failure own method := by
  intro log
  obtain ⟨call, hrun, hcall⟩ := hone log
  refine ⟨[call], hrun, ?_⟩
  generalize (method log).1 = result at hcall ⊢
  cases result with
  | ok value => simpa [Accounts, firstFailure] using hcall
  | error error =>
      exact Or.inl (by simpa [firstFailure] using hcall)

theorem of_unfailing {method : Method E (List C) α}
    (hquiet : Unfailing failure method) : Attributed failure own method := by
  intro log
  obtain ⟨calls, value, hrun, hnone⟩ := hquiet log
  refine ⟨calls, by rw [hrun], ?_⟩
  rw [hrun]
  exact List.findSome?_eq_none_iff.mpr hnone

theorem bind {first : Method E (List C) α} {next : α → Method E (List C) β}
    (hfirst : Attributed failure own first)
    (hnext : ∀ value, Attributed failure own (next value)) :
    Attributed failure own (first >>= next) := by
  intro log
  obtain ⟨calls, hcalls, haccounts⟩ := hfirst log
  rw [bind_run]
  generalize first log = ended at hcalls haccounts ⊢
  obtain ⟨result, changed⟩ := ended
  cases result with
  | error error => exact ⟨calls, hcalls, haccounts⟩
  | ok value =>
      obtain ⟨more, hmore, hlast⟩ := hnext value changed
      refine ⟨calls ++ more, ?_, ?_⟩
      · change (next value changed).2 = _
        rw [hmore, show changed = log ++ calls from hcalls, List.append_assoc]
      · dsimp only
        generalize (next value changed).1 = result at hlast ⊢
        have hsame : firstFailure failure (calls ++ more) =
            firstFailure failure more := firstFailure_append_of_none haccounts
        cases result with
        | ok last => exact hsame.trans hlast
        | error error =>
            rw [Accounts, hsame]
            exact hlast

/-- What is cleaned up after an error does not change where it comes from. -/
theorem onError {body : Method E (List C) α}
    {cleanup : Method E (List C) PUnit} (hbody : Attributed failure own body)
    (hcleanup : Unfailing failure cleanup) :
    Attributed failure own (onError caught body cleanup) := by
  intro log
  obtain ⟨calls, hcalls, haccounts⟩ := hbody log
  rw [Method.onError]
  generalize body log = ended at hcalls haccounts ⊢
  obtain ⟨result, changed⟩ := ended
  cases result with
  | ok value => exact ⟨calls, hcalls, haccounts⟩
  | error error =>
      dsimp only
      by_cases hcaught : (caught error).isSome = true
      · obtain ⟨more, value, hrun, hquiet⟩ := hcleanup changed
        rw [if_pos hcaught, bind_of_ok hrun, fail_run]
        refine ⟨calls ++ more, ?_, ?_⟩
        · rw [show changed = log ++ calls from hcalls, List.append_assoc]
        · rw [Accounts, firstFailure_append_quiet hquiet]
          exact haccounts
      · rw [if_neg hcaught]
        exact ⟨calls, hcalls, haccounts⟩

/-- An error that is raised again after a cleanup comes from where it came
from. -/
theorem reraise {body : Method E (List C) α}
    {cleanup : Method E (List C) PUnit} {raise : F → E}
    (hbody : Attributed failure own body) (hcleanup : Unfailing failure cleanup)
    (hraise : ∀ error reason, caught error = some reason →
      raise reason = error) :
    Attributed failure own (do
      let result ← attempt caught body
      cleanup
      Method.ofResult (result.mapError raise)) := by
  intro log
  obtain ⟨calls, hcalls, haccounts⟩ := hbody log
  rw [bind_run, Method.attempt]
  generalize body log = ended at hcalls haccounts ⊢
  obtain ⟨result, changed⟩ := ended
  obtain ⟨more, value, hrun, hquiet⟩ := hcleanup changed
  have hall : changed ++ more = log ++ (calls ++ more) := by
    rw [show changed = log ++ calls from hcalls, List.append_assoc]
  have hsame : firstFailure failure (calls ++ more) =
      firstFailure failure calls := firstFailure_append_quiet hquiet
  cases result with
  | ok found =>
      dsimp only
      rw [bind_of_ok hrun]
      exact ⟨calls ++ more, hall, hsame.trans haccounts⟩
  | error error =>
      dsimp only
      cases hcaught : caught error with
      | none => exact ⟨calls, hcalls, haccounts⟩
      | some reason =>
          dsimp only
          rw [bind_of_ok hrun]
          refine ⟨calls ++ more, hall, ?_⟩
          change Accounts failure own _ (Except.error (raise reason))
          rw [Accounts, hsame, hraise error reason hcaught]
          exact haccounts

end Attributed

end Method
