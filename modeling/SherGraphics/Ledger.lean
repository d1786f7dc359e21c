/-
Pools and what is drawn from them.  A ledger keeps what remains in each pool
apart from the rows that were drawn, and a row names its pool and its amount.
In a balanced ledger the two agree, so that a debit within what remains never
underflows and a credit of a live row never exceeds the pool.
-/
import Mathlib.Logic.Function.Basic
import SherGraphics.Table

universe u v w

/-- What remains in each pool, and the rows drawn from the pools. -/
structure Ledger (A : Type u) (K : Type v) (V : Type w) where
  remaining : A → Option Nat
  live : Table K V

namespace Ledger

variable {A : Type u} {K : Type v} {V : Type w}
variable [DecidableEq A] [DecidableEq K]
variable (pool : V → A) (amount : V → Nat)

/-- What the live rows hold of a pool. -/
def held (ledger : Ledger A K V) (name : A) : Nat :=
  ledger.live.drawn pool amount name

/-- Draw a row from its pool. -/
def debit (ledger : Ledger A K V) (key : K) (row : V) : Ledger A K V where
  remaining := Function.update ledger.remaining (pool row)
    ((ledger.remaining (pool row)).map fun left => left - amount row)
  live := ledger.live.insert key row

/-- Give a row back to its pool. -/
def credit (ledger : Ledger A K V) (key : K) (row : V) : Ledger A K V where
  remaining := Function.update ledger.remaining (pool row)
    ((ledger.remaining (pool row)).map fun left => left + amount row)
  live := ledger.live.erase key

/-- In every pool, what remains and what is held make up the whole, and every
live row was drawn from a pool. -/
structure Balanced (whole : Nat) (ledger : Ledger A K V) : Prop where
  sum : ∀ name left, ledger.remaining name = some left →
    left + ledger.held pool amount name = whole
  pooled : ∀ key row, ledger.live.get key = some row →
    ∃ left, ledger.remaining (pool row) = some left

section Rules

variable {pool amount} {ledger : Ledger A K V} {whole left : Nat} {key : K}
  {row : V} {name : A}

theorem debit_remaining_self (hleft : ledger.remaining (pool row) = some left) :
    (ledger.debit pool amount key row).remaining (pool row) =
      some (left - amount row) :=
  (Function.update_self _ _ _).trans (by rw [hleft]; rfl)

theorem debit_remaining_ne (hne : name ≠ pool row) :
    (ledger.debit pool amount key row).remaining name =
      ledger.remaining name :=
  Function.update_of_ne hne _ _

theorem credit_remaining_self
    (hleft : ledger.remaining (pool row) = some left) :
    (ledger.credit pool amount key row).remaining (pool row) =
      some (left + amount row) :=
  (Function.update_self _ _ _).trans (by rw [hleft]; rfl)

theorem credit_remaining_ne (hne : name ≠ pool row) :
    (ledger.credit pool amount key row).remaining name =
      ledger.remaining name :=
  Function.update_of_ne hne _ _

namespace Balanced

/-- A live row fits back into its pool. -/
theorem credit_le (hbalanced : Balanced pool amount whole ledger)
    (hlive : ledger.live.get key = some row)
    (hleft : ledger.remaining (pool row) = some left) :
    left + amount row ≤ whole := by
  have hsum := hbalanced.sum _ _ hleft
  have hheld : amount row +
      (ledger.live.erase key).drawn pool amount (pool row) =
        ledger.held pool amount (pool row) :=
    Table.drawn_erase_self ledger.live pool amount hlive
  omega

/-- A debit within what remains, under a key of its own. -/
theorem debit (hbalanced : Balanced pool amount whole ledger)
    (hfresh : ledger.live.get key = none)
    (hleft : ledger.remaining (pool row) = some left)
    (hfits : amount row ≤ left) :
    Balanced pool amount whole (ledger.debit pool amount key row) where
  sum := by
    intro name found hfound
    by_cases heq : name = pool row
    · subst heq
      rw [debit_remaining_self hleft] at hfound
      cases hfound
      have hsum := hbalanced.sum _ _ hleft
      have hheld : (ledger.debit pool amount key row).held pool amount
          (pool row) = amount row + ledger.held pool amount (pool row) :=
        Table.drawn_insert_self ledger.live pool amount hfresh
      omega
    · rw [debit_remaining_ne heq] at hfound
      have hheld : (ledger.debit pool amount key row).held pool amount name =
          ledger.held pool amount name :=
        Table.drawn_insert_ne ledger.live pool amount hfresh (Ne.symm heq)
      rw [hheld]
      exact hbalanced.sum name found hfound
  pooled := by
    intro other found hfound
    have hpool : ∃ left, ledger.remaining (pool found) = some left := by
      rcases Table.row_of_insert hfound with ⟨-, rfl⟩ | ⟨-, hold⟩
      · exact ⟨left, hleft⟩
      · exact hbalanced.pooled other found hold
    obtain ⟨old, hold⟩ := hpool
    by_cases heq : pool found = pool row
    · rw [heq]
      exact ⟨_, debit_remaining_self hleft⟩
    · exact ⟨old, by rw [debit_remaining_ne heq, hold]⟩

/-- A credit of a live row. -/
theorem credit (hbalanced : Balanced pool amount whole ledger)
    (hlive : ledger.live.get key = some row) :
    Balanced pool amount whole (ledger.credit pool amount key row) where
  sum := by
    intro name found hfound
    by_cases heq : name = pool row
    · subst heq
      obtain ⟨left, hleft⟩ := hbalanced.pooled key row hlive
      rw [credit_remaining_self hleft] at hfound
      cases hfound
      have hsum := hbalanced.sum _ _ hleft
      have hheld : amount row + (ledger.credit pool amount key row).held pool
          amount (pool row) = ledger.held pool amount (pool row) :=
        Table.drawn_erase_self ledger.live pool amount hlive
      omega
    · rw [credit_remaining_ne heq] at hfound
      have hheld : (ledger.credit pool amount key row).held pool amount name =
          ledger.held pool amount name :=
        Table.drawn_erase_ne ledger.live pool amount hlive (Ne.symm heq)
      rw [hheld]
      exact hbalanced.sum name found hfound
  pooled := by
    intro other found hfound
    obtain ⟨old, hold⟩ := hbalanced.pooled other found
      (Table.row_of_erase hfound).2
    by_cases heq : pool found = pool row
    · rw [heq] at hold ⊢
      exact ⟨_, credit_remaining_self hold⟩
    · exact ⟨old, by rw [credit_remaining_ne heq, hold]⟩

end Balanced

end Rules

end Ledger
