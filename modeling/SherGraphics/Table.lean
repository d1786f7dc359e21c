/-
Finite tables keyed by a type with decidable equality, in the role a hash map
plays in a program: every lookup depends on the key alone, and no result
depends on the order of the rows.  The representation is Mathlib's `AList`;
what is added here is a non-dependent interface, row filtering, in-place
update, and the sum of a weight over all rows.
-/
import Mathlib.Algebra.BigOperators.Group.Finset.Basic
import Mathlib.Algebra.GroupWithZero.Nat
import Mathlib.Data.List.AList

universe u v w

/-- A finite map from keys to values with at most one row for each key. -/
def Table (K : Type u) (V : Type v) : Type (max u v) :=
  AList fun _ : K => V

namespace Table

variable {K : Type u} {V : Type v} {W : Type w}

def empty : Table K V := (∅ : AList fun _ : K => V)

/-- All values, in no order that a result may depend on. -/
def values (table : Table K V) : List V :=
  (AList.entries table).map Sigma.snd

/-- Keep only the rows that satisfy a test. -/
def retain (table : Table K V) (keep : K → V → Bool) : Table K V :=
  ⟨(AList.entries table).filter fun row => keep row.1 row.2,
    (AList.nodupKeys table).sublist List.filter_sublist⟩

/-- Rewrite every value in place. -/
def mapValues (table : Table K V) (change : K → V → W) : Table K W :=
  ⟨(AList.entries table).map fun row => ⟨row.1, change row.1 row.2⟩,
    (AList.nodupKeys table).map₂ change⟩

/-- The sum of a weight over all rows. -/
def total (table : Table K V) (weight : K → V → Nat) : Nat :=
  ((AList.entries table).map fun row => weight row.1 row.2).sum

variable [DecidableEq K]

def get (table : Table K V) (key : K) : Option V :=
  AList.lookup key table

def contains (table : Table K V) (key : K) : Bool :=
  (table.get key).isSome

def insert (table : Table K V) (key : K) (value : V) : Table K V :=
  AList.insert key value table

def erase (table : Table K V) (key : K) : Table K V :=
  AList.erase key table

/-- Update the value of one key in place; an absent key stays absent. -/
def modify (table : Table K V) (key : K) (change : V → V) : Table K V :=
  table.mapValues fun other value =>
    if other = key then change value else value

@[simp] theorem get_empty (key : K) : (empty : Table K V).get key = none :=
  AList.lookup_empty key

theorem get_insert (table : Table K V) (key other : K) (value : V) :
    (table.insert key value).get other =
      if other = key then some value else table.get other := by
  by_cases heq : other = key
  · subst heq
    simpa [insert, get] using AList.lookup_insert (b := value) table
  · rw [if_neg heq]
    exact AList.lookup_insert_ne (s := table) heq

@[simp] theorem get_insert_self (table : Table K V) (key : K) (value : V) :
    (table.insert key value).get key = some value := by
  rw [get_insert, if_pos rfl]

theorem get_insert_ne (table : Table K V) {key other : K} (value : V)
    (hne : other ≠ key) :
    (table.insert key value).get other = table.get other := by
  rw [get_insert, if_neg hne]

/-- A row found after an insertion is the new row or an old one. -/
theorem row_of_insert {table : Table K V} {key other : K} {value found : V}
    (hrow : (table.insert key value).get other = some found) :
    (other = key ∧ found = value) ∨
      (other ≠ key ∧ table.get other = some found) := by
  rw [get_insert] at hrow
  by_cases heq : other = key
  · rw [if_pos heq] at hrow
    exact Or.inl ⟨heq, (Option.some.inj hrow).symm⟩
  · rw [if_neg heq] at hrow
    exact Or.inr ⟨heq, hrow⟩

theorem known_insert_iff {table : Table K V} {key other : K} {value : V} :
    (∃ found, (table.insert key value).get other = some found) ↔
      other = key ∨ ∃ found, table.get other = some found := by
  rw [get_insert]
  by_cases heq : other = key
  · simp [heq]
  · simp [heq]

theorem get_erase (table : Table K V) (key other : K) :
    (table.erase key).get other =
      if other = key then none else table.get other := by
  by_cases heq : other = key
  · subst heq
    simpa [erase, get] using AList.lookup_erase other table
  · simpa [erase, get, heq] using AList.lookup_erase_ne (s := table) heq

@[simp] theorem get_erase_self (table : Table K V) (key : K) :
    (table.erase key).get key = none := by
  rw [get_erase, if_pos rfl]

theorem get_erase_ne (table : Table K V) {key other : K} (hne : other ≠ key) :
    (table.erase key).get other = table.get other := by
  rw [get_erase, if_neg hne]

/-- A row found after an erasure was there before, under another key. -/
theorem row_of_erase {table : Table K V} {key other : K} {found : V}
    (hrow : (table.erase key).get other = some found) :
    other ≠ key ∧ table.get other = some found := by
  rw [get_erase] at hrow
  by_cases heq : other = key
  · rw [if_pos heq] at hrow
    cases hrow
  · rw [if_neg heq] at hrow
    exact ⟨heq, hrow⟩

theorem known_erase_iff {table : Table K V} {key other : K} :
    (∃ found, (table.erase key).get other = some found) ↔
      other ≠ key ∧ ∃ found, table.get other = some found := by
  rw [get_erase]
  by_cases heq : other = key
  · simp [heq]
  · simp [heq]

/-- A row is present exactly when its key looks up its value. -/
theorem get_eq_some_iff (table : Table K V) (key : K) (value : V) :
    table.get key = some value ↔
      (⟨key, value⟩ : Sigma fun _ : K => V) ∈ AList.entries table := by
  exact AList.mem_lookup_iff (s := table)

theorem get_retain (table : Table K V) (keep : K → V → Bool) (key : K) :
    (table.retain keep).get key = (table.get key).filter (keep key) := by
  apply Option.ext
  intro value
  rw [get_eq_some_iff, Option.filter_eq_some_iff, get_eq_some_iff]
  simp [retain]

/-- A row found after a filter was there before, and passes the test. -/
theorem row_of_retain {table : Table K V} {keep : K → V → Bool} {key : K}
    {found : V} (hrow : (table.retain keep).get key = some found) :
    table.get key = some found ∧ keep key found = true := by
  rw [get_retain] at hrow
  exact Option.filter_eq_some_iff.mp hrow

theorem get_mapValues (table : Table K V) (change : K → V → W) (key : K) :
    (table.mapValues change).get key = (table.get key).map (change key) :=
  List.dlookup_map₂ key

theorem get_modify (table : Table K V) (key other : K) (change : V → V) :
    (table.modify key change).get other =
      if other = key then (table.get other).map change
      else table.get other := by
  rw [modify, get_mapValues]
  by_cases heq : other = key
  · simp [heq]
  · simp [heq]

theorem get_insert_update (table : Table K V) (key : K) (value : V) :
    (table.insert key value).get =
      Function.update table.get key (some value) := by
  funext other
  rw [get_insert, Function.update_apply]

/-- A view of all rows changes at one key when the row there is updated. -/
theorem map_get_modify (table : Table K V) (key : K) {change : V → V}
    {view : V → W} {viewed : W → W}
    (hview : ∀ value, view (change value) = viewed (view value)) :
    (fun other => ((table.modify key change).get other).map view) =
      Function.update (fun other => (table.get other).map view) key
        (((table.get key).map view).map viewed) := by
  funext other
  rw [get_modify, Function.update_apply]
  by_cases heq : other = key
  · simp [heq, Option.map_map, Function.comp_def, hview]
  · simp [heq]

/-- A row found after an update in place is the updated row or an old one. -/
theorem row_of_modify {table : Table K V} {key other : K} {change : V → V}
    {found : V} (hrow : (table.modify key change).get other = some found) :
    (other = key ∧ ∃ old, table.get key = some old ∧ change old = found) ∨
      (other ≠ key ∧ table.get other = some found) := by
  rw [get_modify] at hrow
  by_cases heq : other = key
  · rw [if_pos heq, heq, Option.map_eq_some_iff] at hrow
    exact Or.inl ⟨heq, hrow⟩
  · rw [if_neg heq] at hrow
    exact Or.inr ⟨heq, hrow⟩

@[simp] theorem contains_eq_true_iff (table : Table K V) (key : K) :
    table.contains key = true ↔ ∃ value, table.get key = some value := by
  rw [contains, Option.isSome_iff_exists]

theorem mem_values_iff (table : Table K V) (value : V) :
    value ∈ table.values ↔ ∃ key, table.get key = some value := by
  simp only [values, List.mem_map, get_eq_some_iff]
  constructor
  · rintro ⟨⟨key, found⟩, hrow, rfl⟩
    exact ⟨key, hrow⟩
  · rintro ⟨key, hrow⟩
    exact ⟨⟨key, value⟩, hrow, rfl⟩

/-! ### Sums over all rows -/

theorem total_insert (table : Table K V) {key : K} (value : V)
    (weight : K → V → Nat) (hfresh : table.get key = none) :
    (table.insert key value).total weight =
      weight key value + table.total weight := by
  have hentries := AList.entries_insert_of_notMem (b := value)
    (AList.lookup_eq_none.mp hfresh)
  simp only [total, insert, hentries, List.map_cons, List.sum_cons]

/-- Putting a removed row back gives the same rows in some order. -/
theorem insert_erase_perm (table : Table K V) {key : K} {value : V}
    (hrow : table.get key = some value) :
    (AList.entries ((table.erase key).insert key value)).Perm
      (AList.entries table) := by
  apply List.lookup_ext (AList.nodupKeys _) (AList.nodupKeys _)
  intro other found
  change ((table.erase key).insert key value).get other = some found ↔
    table.get other = some found
  rw [get_insert, get_erase]
  by_cases heq : other = key
  · simp [heq, hrow]
  · simp [heq]

theorem total_erase (table : Table K V) {key : K} {value : V}
    (weight : K → V → Nat) (hrow : table.get key = some value) :
    weight key value + (table.erase key).total weight =
      table.total weight := by
  rw [← total_insert (table.erase key) value weight (get_erase_self _ _)]
  exact ((insert_erase_perm table hrow).map _).sum_nat

/-- The weight that one key contributes, zero when it has no row. -/
def share (table : Table K V) (weight : K → V → Nat) (key : K) : Nat :=
  (table.get key).elim 0 (weight key)

def keySet (table : Table K V) : Finset K :=
  (AList.keys table).toFinset

theorem mem_keySet_iff (table : Table K V) (key : K) :
    key ∈ table.keySet ↔ ∃ value, table.get key = some value := by
  rw [keySet, List.mem_toFinset, ← Option.isSome_iff_exists]
  exact (AList.lookup_isSome (s := table)).symm

theorem share_eq_zero (table : Table K V) (weight : K → V → Nat) {key : K}
    (hkey : key ∉ table.keySet) : table.share weight key = 0 := by
  have hnone : table.get key = none := by
    rw [Option.eq_none_iff_forall_ne_some]
    intro value hrow
    exact hkey ((mem_keySet_iff table key).mpr ⟨value, hrow⟩)
  rw [share, hnone, Option.elim_none]

/-- The list sum is a sum over the set of keys, so it does not depend on the
order of the rows. -/
theorem total_eq_sum_share (table : Table K V) (weight : K → V → Nat) :
    table.total weight = ∑ key ∈ table.keySet, table.share weight key := by
  have hterm : ∀ row ∈ AList.entries table,
      table.share weight row.1 = weight row.1 row.2 := by
    intro row hrow
    rw [share, (get_eq_some_iff table row.1 row.2).mpr hrow, Option.elim_some]
  rw [keySet, List.sum_toFinset _ (AList.keys_nodup table)]
  change _ = (((AList.entries table).map Sigma.fst).map _).sum
  rw [List.map_map, total]
  congr 1
  apply List.map_congr_left
  intro row hrow
  exact (hterm row hrow).symm

/-- Two sums agree when every key contributes the same to both, whatever the
two tables store. -/
theorem total_eq_of_share (left : Table K V) (right : Table K W)
    (weight : K → V → Nat) (weight' : K → W → Nat)
    (hshare : ∀ key, left.share weight key = right.share weight' key) :
    left.total weight = right.total weight' := by
  rw [total_eq_sum_share, total_eq_sum_share,
    Finset.sum_subset Finset.subset_union_left
      (fun _ _ hkey => share_eq_zero left weight hkey),
    Finset.sum_subset Finset.subset_union_right
      (fun _ _ hkey => share_eq_zero right weight' hkey)]
  exact Finset.sum_congr rfl fun key _ => hshare key

/-- Only the weights of the rows that are there count. -/
theorem total_congr {table : Table K V} {weight weight' : K → V → Nat}
    (hsame : ∀ key value, table.get key = some value →
      weight key value = weight' key value) :
    table.total weight = table.total weight' := by
  apply total_eq_of_share
  intro key
  cases hrow : table.get key with
  | none => simp [share, hrow]
  | some value => simp [share, hrow, hsame key value hrow]

/-- The rows that stay and the rows that go make up the table. -/
theorem total_retain (table : Table K V) (keep : K → V → Bool)
    (weight : K → V → Nat) :
    (table.retain keep).total weight +
        table.total (fun key value => if keep key value then 0 else
          weight key value) =
      table.total weight := by
  have hstays : (table.retain keep).total weight =
      table.total fun key value => if keep key value then weight key value
        else 0 := by
    apply total_eq_of_share
    intro key
    simp only [share, get_retain]
    cases table.get key with
    | none => rfl
    | some value =>
        by_cases hkeep : keep key value
        · simp [Option.filter, hkeep]
        · simp [Option.filter, hkeep]
  rw [hstays, total, total, total, ← List.sum_map_add]
  congr 1
  apply List.map_congr_left
  intro row hrow
  by_cases hkeep : keep row.1 row.2
  · simp [hkeep]
  · simp [hkeep]

/-! ### Amounts drawn from pools -/

section Drawn

variable {A : Type w} [DecidableEq A]

/-- What the rows of a table draw from one pool, where each row names its pool
and its amount. -/
def drawn (table : Table K V) (pool : V → A) (amount : V → Nat) (name : A) :
    Nat :=
  table.total fun _ value => if pool value = name then amount value else 0

variable (table : Table K V) {key : K} {value : V} (pool : V → A)
  (amount : V → Nat)

theorem drawn_insert_self (hfresh : table.get key = none) :
    (table.insert key value).drawn pool amount (pool value) =
      amount value + table.drawn pool amount (pool value) := by
  rw [drawn, total_insert table value _ hfresh, if_pos rfl]
  rfl

theorem drawn_insert_ne (hfresh : table.get key = none) {name : A}
    (hne : pool value ≠ name) :
    (table.insert key value).drawn pool amount name =
      table.drawn pool amount name := by
  rw [drawn, total_insert table value _ hfresh, if_neg hne, Nat.zero_add]
  rfl

theorem drawn_erase_self (hrow : table.get key = some value) :
    amount value + (table.erase key).drawn pool amount (pool value) =
      table.drawn pool amount (pool value) := by
  have htotal := total_erase table
    (fun _ other => if pool other = pool value then amount other else 0) hrow
  rw [if_pos rfl] at htotal
  exact htotal

theorem drawn_erase_ne (hrow : table.get key = some value) {name : A}
    (hne : pool value ≠ name) :
    (table.erase key).drawn pool amount name =
      table.drawn pool amount name := by
  have htotal := total_erase table
    (fun _ other => if pool other = name then amount other else 0) hrow
  rw [if_neg hne, Nat.zero_add] at htotal
  exact htotal

end Drawn

/-! ### Rows created along a history -/

section Created

variable {E : Type w} {past : List E} {e : E} {creates : E → V → Prop}
  {before after : Table K V} {used later : K → Prop}

/-- What was created in the past agrees with what is filed under its name, and
goes on to do so as long as nothing is filed under a name that was used. -/
theorem created_agrees (name : V → K) (agrees : V → V → Prop)
    (hrefl : ∀ row, agrees row row)
    (hused : ∀ key, used key → later key)
    (hkept : ∀ key row, used key → after.get key = some row →
      before.get key = some row)
    (hfiled : ∀ row, creates e row →
      later (name row) ∧ after.get (name row) = some row)
    (hpast : ∀ old ∈ past, ∀ row, creates old row → used (name row) ∧
      ∀ found, before.get (name row) = some found → agrees found row) :
    ∀ old ∈ past ++ [e], ∀ row, creates old row → later (name row) ∧
      ∀ found, after.get (name row) = some found → agrees found row := by
  intro old hmem row hcreates
  rcases List.mem_append.mp hmem with hold | hlast
  · obtain ⟨hname, hagrees⟩ := hpast old hold row hcreates
    refine ⟨hused _ hname, ?_⟩
    intro found hfound
    exact hagrees found (hkept _ found hname hfound)
  · obtain rfl := List.mem_singleton.mp hlast
    obtain ⟨hname, hrow⟩ := hfiled row hcreates
    refine ⟨hname, ?_⟩
    intro found hfound
    cases hrow.symm.trans hfound
    exact hrefl row

end Created

end Table
