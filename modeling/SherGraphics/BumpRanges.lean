/-
Ranges that a counter lays end to end, as a bump allocator does.  A range may
be given up at any time; its room is not used again.
-/
import Mathlib.Order.Interval.Set.Disjoint
import Mathlib.Order.CompletePartialOrder
import Mathlib.Data.Set.Pairwise.Lattice

universe u

variable {A : Type u} {start size : A → Nat} {live kept : Set A} {top : Nat}

/-- The ranges lie below the counter, and no two of them meet. -/
structure BumpRanges (start size : A → Nat) (live : Set A) (top : Nat) :
    Prop where
  below : ∀ range ∈ live, start range + size range ≤ top
  disjoint : live.PairwiseDisjoint fun range =>
    Set.Ico (start range) (start range + size range)

namespace BumpRanges

theorem empty (start size : A → Nat) (top : Nat) :
    BumpRanges start size ∅ top where
  below := by simp
  disjoint := by simp

/-- Some ranges are given up. -/
theorem giveUp (hlaid : BumpRanges start size live top) (hkept : kept ⊆ live) :
    BumpRanges start size kept top where
  below range hrange := hlaid.below range (hkept hrange)
  disjoint := hlaid.disjoint.subset hkept

/-- One more range is laid where the counter stands. -/
theorem lay (hlaid : BumpRanges start size live top) {range : A}
    (hstart : start range = top) :
    BumpRanges start size (insert range live) (top + size range) where
  below := by
    rintro other (rfl | hold)
    · exact (congrArg (· + _) hstart).le
    · exact Nat.le_add_right_of_le (hlaid.below other hold)
  disjoint := by
    refine hlaid.disjoint.insert fun other hold _ => ?_
    have hbelow := hlaid.below other hold
    refine Set.disjoint_left.mpr fun address hnew hother => ?_
    have hlow := hnew.1
    have hhigh := hother.2
    omega

end BumpRanges
