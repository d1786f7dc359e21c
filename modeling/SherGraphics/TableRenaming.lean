/-
Tables of two runs under a renaming of their keys.  A renaming is a
permutation of all keys together with the keys it speaks of; it grows by one
pair of fresh keys at a time, and what it says of older keys never changes.
Two tables agree when the rows under corresponding keys do.
-/
import Mathlib.Logic.Equiv.Basic
import Mathlib.Order.Basic
import SherGraphics.Table

universe u v w

/-- A permutation of keys, and the keys on which it is meant. -/
structure Renaming (I : Type u) where
  perm : Equiv.Perm I
  covers : I → Prop

namespace Renaming

variable {I : Type u}

/-- A later renaming covers more keys and agrees on the earlier ones. -/
instance : Preorder (Renaming I) where
  le first second := ∀ key, first.covers key →
    second.covers key ∧ second.perm key = first.perm key
  le_refl _ _ hcovers := ⟨hcovers, rfl⟩
  le_trans _ _ _ hfirst hsecond key hcovers := by
    obtain ⟨hmiddle, heq⟩ := hfirst key hcovers
    obtain ⟨hlater, heq'⟩ := hsecond key hmiddle
    exact ⟨hlater, heq'.trans heq⟩

/-- The identity, meant on the given keys. -/
def refl (covers : I → Prop) : Renaming I := ⟨Equiv.refl I, covers⟩

/-- The permutation, meant on all keys. -/
def total (perm : Equiv.Perm I) : Renaming I := ⟨perm, fun _ => True⟩

section Order

variable {naming later : Renaming I} (hle : naming ≤ later) {key : I}
  (hcovers : naming.covers key)

include hle hcovers

theorem covers_of_le : later.covers key := (hle key hcovers).1

theorem perm_of_le : later.perm key = naming.perm key := (hle key hcovers).2

end Order

variable [DecidableEq I] (naming : Renaming I) (fresh fresh' : I)

/-- The renaming that also takes one key to another. -/
def cover : Renaming I where
  perm := naming.perm.trans (Equiv.swap (naming.perm fresh) fresh')
  covers key := key = fresh ∨ naming.covers key

@[simp] theorem cover_perm : (naming.cover fresh fresh').perm fresh = fresh' := by
  simp [cover]

variable {naming fresh fresh'}

/-- Between fresh keys, the older keys keep their names. -/
theorem le_cover (hfresh : ¬ naming.covers fresh)
    (hfresh' : ∀ key, naming.covers key → naming.perm key ≠ fresh') :
    naming ≤ naming.cover fresh fresh' := by
  intro key hcovers
  refine ⟨Or.inr hcovers, ?_⟩
  have hne : key ≠ fresh := by
    rintro rfl
    exact hfresh hcovers
  exact Equiv.swap_apply_of_ne_of_ne (naming.perm.injective.ne hne)
    (hfresh' key hcovers)

end Renaming

section Rows

variable {I : Type u} [DecidableEq I] {V : Type v} {W : Type w}
  (naming : Renaming I) (rel : V → W → Prop)

/-- The rows of two tables under corresponding keys are related. -/
def RowsAgree (left : Table I V) (right : Table I W) : Prop :=
  ∀ key, naming.covers key →
    Option.Rel rel (left.get key) (right.get (naming.perm key))

namespace RowsAgree

variable {naming rel} {left : Table I V} {right : Table I W} {key key' : I}

theorem empty : RowsAgree naming rel (Table.empty : Table I V)
    (Table.empty : Table I W) := by
  intro key _
  rw [Table.get_empty, Table.get_empty]
  exact .none

section Lookup

variable (hagree : RowsAgree naming rel left right)
  (hcovers : naming.covers key)

include hagree hcovers

theorem row (hkey : naming.perm key = key') :
    Option.Rel rel (left.get key) (right.get key') := by
  rw [← hkey]
  exact hagree key hcovers

theorem contains_eq :
    right.contains (naming.perm key) = left.contains key := by
  have hrows := hagree key hcovers
  rw [Table.contains, Table.contains]
  generalize left.get key = found at hrows ⊢
  generalize right.get (naming.perm key) = found' at hrows ⊢
  cases hrows with
  | none => rfl
  | some hrel => rfl

end Lookup

variable (hagree : RowsAgree naming rel left right)

include hagree

theorem insert {value : V} {value' : W} (hkey : naming.perm key = key')
    (hrel : rel value value') :
    RowsAgree naming rel (left.insert key value)
      (right.insert key' value') := by
  subst hkey
  intro other hother
  rw [Table.get_insert, Table.get_insert]
  by_cases heq : other = key
  · rw [if_pos heq, if_pos (congrArg naming.perm heq)]
    exact .some hrel
  · rw [if_neg heq, if_neg (naming.perm.injective.ne heq)]
    exact hagree other hother

/-- A row that is replaced on the left is changed in place on the right. -/
theorem insert_modify {value : V} {value' : W} {change : W → W}
    (hkey : naming.perm key = key') (hrow : right.get key' = some value')
    (hrel : rel value (change value')) :
    RowsAgree naming rel (left.insert key value)
      (right.modify key' change) := by
  subst hkey
  intro other hother
  rw [Table.get_insert, Table.get_modify]
  by_cases heq : other = key
  · rw [if_pos heq, if_pos (congrArg naming.perm heq), heq, hrow]
    exact .some hrel
  · rw [if_neg heq, if_neg (naming.perm.injective.ne heq)]
    exact hagree other hother

theorem modify_right {change : W → W}
    (hchange : ∀ value value', rel value value' → rel value (change value'))
    (key' : I) : RowsAgree naming rel left (right.modify key' change) := by
  intro other hother
  have hrows := hagree other hother
  rw [Table.get_modify]
  by_cases heq : naming.perm other = key'
  · rw [if_pos heq]
    generalize left.get other = found at hrows ⊢
    generalize right.get (naming.perm other) = found' at hrows ⊢
    cases hrows with
    | none => exact .none
    | some hrel => exact .some (hchange _ _ hrel)
  · rw [if_neg heq]
    exact hrows

theorem erase (hkey : naming.perm key = key') :
    RowsAgree naming rel (left.erase key) (right.erase key') := by
  subst hkey
  intro other hother
  rw [Table.get_erase, Table.get_erase]
  by_cases heq : other = key
  · rw [if_pos heq, if_pos (congrArg naming.perm heq)]
    exact .none
  · rw [if_neg heq, if_neg (naming.perm.injective.ne heq)]
    exact hagree other hother

theorem retain {keep : I → V → Bool} {keep' : I → W → Bool}
    (hkeep : ∀ key value value', naming.covers key → rel value value' →
      keep key value = keep' (naming.perm key) value') :
    RowsAgree naming rel (left.retain keep) (right.retain keep') := by
  intro other hcovers
  rw [Table.get_retain, Table.get_retain]
  have hrows := hagree other hcovers
  generalize left.get other = found at hrows ⊢
  generalize right.get (naming.perm other) = found' at hrows ⊢
  cases hrows with
  | none => exact .none
  | @some value value' hrel =>
      rw [Option.filter_some, Option.filter_some,
        hkeep other value value' hcovers hrel]
      cases keep' (naming.perm other) value' with
      | true => exact .some hrel
      | false => exact .none

end RowsAgree

end Rows

/-- The rows of two tables under corresponding keys are related, and both
tables have rows under issued keys only. -/
structure TableAgree {I : Type u} [DecidableEq I] {V : Type v} {W : Type w}
    (naming : Renaming I) (issued issued' : I → Prop) (rel : V → W → Prop)
    (left : Table I V) (right : Table I W) : Prop where
  rows : ∀ key, naming.covers key →
    Option.Rel rel (left.get key) (right.get (naming.perm key))
  leftIssued : ∀ key value, left.get key = some value → issued key
  rightIssued : ∀ key value, right.get key = some value → issued' key

namespace TableAgree

variable {I : Type u} [DecidableEq I] {V : Type v} {W : Type w}
variable {naming : Renaming I} {issued issued' : I → Prop}
variable {rel : V → W → Prop} {left : Table I V} {right : Table I W}

theorem empty : TableAgree naming issued issued' rel (Table.empty : Table I V)
    (Table.empty : Table I W) where
  rows := RowsAgree.empty
  leftIssued := by simp
  rightIssued := by simp

theorem absent_left (hagree : TableAgree naming issued issued' rel left right)
    {key : I} (hfresh : ¬ issued key) : left.get key = none := by
  rw [Option.eq_none_iff_forall_ne_some]
  intro value hrow
  exact hfresh (hagree.leftIssued key value hrow)

theorem absent_right
    (hagree : TableAgree naming issued issued' rel left right) {key : I}
    (hfresh : ¬ issued' key) : right.get key = none := by
  rw [Option.eq_none_iff_forall_ne_some]
  intro value hrow
  exact hfresh (hagree.rightIssued key value hrow)

theorem insert (hagree : TableAgree naming issued issued' rel left right)
    {key key' : I} {value : V} {value' : W} (hkey : naming.perm key = key')
    (hissued : issued key) (hissued' : issued' key')
    (hrel : rel value value') :
    TableAgree naming issued issued' rel (left.insert key value)
      (right.insert key' value') where
  rows := RowsAgree.insert hagree.rows hkey hrel
  leftIssued := by
    intro other found hrow
    rcases Table.row_of_insert hrow with ⟨rfl, -⟩ | ⟨-, hrow⟩
    · exact hissued
    · exact hagree.leftIssued other found hrow
  rightIssued := by
    intro other found hrow
    rcases Table.row_of_insert hrow with ⟨rfl, -⟩ | ⟨-, hrow⟩
    · exact hissued'
    · exact hagree.rightIssued other found hrow

theorem erase (hagree : TableAgree naming issued issued' rel left right)
    {key key' : I} (hkey : naming.perm key = key') :
    TableAgree naming issued issued' rel (left.erase key)
      (right.erase key') where
  rows := RowsAgree.erase hagree.rows hkey
  leftIssued := by
    intro other found hrow
    obtain ⟨-, hrow⟩ := Table.row_of_erase hrow
    exact hagree.leftIssued other found hrow
  rightIssued := by
    intro other found hrow
    obtain ⟨-, hrow⟩ := Table.row_of_erase hrow
    exact hagree.rightIssued other found hrow

theorem retain (hagree : TableAgree naming issued issued' rel left right)
    {keep : I → V → Bool} {keep' : I → W → Bool}
    (hkeep : ∀ key value value', naming.covers key → rel value value' →
      keep key value = keep' (naming.perm key) value') :
    TableAgree naming issued issued' rel (left.retain keep)
      (right.retain keep') where
  rows := RowsAgree.retain hagree.rows hkeep
  leftIssued key value hrow :=
    hagree.leftIssued key value (Table.row_of_retain hrow).1
  rightIssued key value hrow :=
    hagree.rightIssued key value (Table.row_of_retain hrow).1

/-- The left table may do what it likes outside the covered keys. -/
theorem left_changed
    (hagree : TableAgree naming issued issued' rel left right)
    {changed : Table I V} {later : I → Prop}
    (hsame : ∀ key, naming.covers key → changed.get key = left.get key)
    (hissued : ∀ key value, changed.get key = some value → later key) :
    TableAgree naming later issued' rel changed right where
  rows key hcovers := by
    rw [hsame key hcovers]
    exact hagree.rows key hcovers
  leftIssued := hissued
  rightIssued := hagree.rightIssued

theorem later_left (hagree : TableAgree naming issued issued' rel left right)
    {later : I → Prop} (hlater : ∀ key, issued key → later key) :
    TableAgree naming later issued' rel left right :=
  hagree.left_changed (fun _ _ => rfl) fun key value hrow =>
    hlater key (hagree.leftIssued key value hrow)

theorem insert_left (hagree : TableAgree naming issued issued' rel left right)
    {key : I} (value : V) (hcovers : ¬ naming.covers key)
    (hissued : issued key) :
    TableAgree naming issued issued' rel (left.insert key value) right := by
  apply hagree.left_changed
  · intro other hother
    apply Table.get_insert_ne
    intro heq
    exact hcovers (heq ▸ hother)
  · intro other found hrow
    rcases Table.row_of_insert hrow with ⟨rfl, -⟩ | ⟨-, hrow⟩
    · exact hissued
    · exact hagree.leftIssued other found hrow

theorem erase_left (hagree : TableAgree naming issued issued' rel left right)
    {key : I} (hcovers : ¬ naming.covers key) :
    TableAgree naming issued issued' rel (left.erase key) right := by
  apply hagree.left_changed
  · intro other hother
    apply Table.get_erase_ne
    intro heq
    exact hcovers (heq ▸ hother)
  · intro other found hrow
    obtain ⟨-, hrow⟩ := Table.row_of_erase hrow
    exact hagree.leftIssued other found hrow

theorem retain_left (hagree : TableAgree naming issued issued' rel left right)
    {keep : I → V → Bool}
    (hkeep : ∀ key value value', naming.covers key → rel value value' →
      keep key value = true) :
    TableAgree naming issued issued' rel (left.retain keep) right := by
  apply hagree.left_changed
  · intro key hcovers
    rw [Table.get_retain]
    have hrows := hagree.rows key hcovers
    generalize left.get key = found at hrows ⊢
    generalize right.get (naming.perm key) = found' at hrows
    cases hrows with
    | none => rfl
    | @some value value' hrel =>
        rw [Option.filter_some, if_pos (hkeep key value value' hcovers hrel)]
  · intro key value hrow
    exact hagree.leftIssued key value (Table.row_of_retain hrow).1

/-- Two tables still agree when a pair of fresh keys is covered. -/
theorem cover (hagree : TableAgree naming issued issued' rel left right)
    {fresh fresh' : I} {later later' : I → Prop} {rel' : V → W → Prop}
    (hle : naming ≤ naming.cover fresh fresh')
    (hfresh : ¬ issued fresh) (hfresh' : ¬ issued' fresh')
    (hlater : ∀ key, issued key → later key)
    (hlater' : ∀ key, issued' key → later' key)
    (hrel : ∀ value value', rel value value' → rel' value value') :
    TableAgree (naming.cover fresh fresh') later later' rel' left right where
  rows := by
    rintro key (rfl | hcovers)
    · rw [Renaming.cover_perm, hagree.absent_left hfresh,
        hagree.absent_right hfresh']
      exact .none
    · rw [Renaming.perm_of_le hle hcovers]
      have hrows := hagree.rows key hcovers
      generalize left.get key = found at hrows ⊢
      generalize right.get (naming.perm key) = found' at hrows ⊢
      cases hrows with
      | none => exact .none
      | some hvalues => exact .some (hrel _ _ hvalues)
  leftIssued key value hrow := hlater key (hagree.leftIssued key value hrow)
  rightIssued key value hrow := hlater' key (hagree.rightIssued key value hrow)

end TableAgree
