/-
Lifetimes of objects, told by a log of calls.  A call may create an object,
perhaps from a parent, use some, map or unmap one, and destroy one.  The rules
at the end say how one call changes what is alive and what is mapped.
-/
import SherGraphics.Ongoing

universe u v

/-- What a call does with objects.  The last two fields say that a parent and a
destroyed object are among the objects a call uses. -/
class ObjectCalls (C : Type u) (O : outParam (Type v)) where
  uses : C → List O
  creates : C → Option O
  destroys : C → Option O
  maps : C → Option O
  unmaps : C → Option O
  parent : C → Option O
  parent_uses : ∀ call object, parent call = some object → object ∈ uses call
  destroys_uses : ∀ call object, destroys call = some object →
    object ∈ uses call

namespace Lifetimes

open ObjectCalls

variable {C : Type u} {O : Type v} [ObjectCalls C O]

/-- The object was created and has not been destroyed since. -/
def Alive (log : List C) (object : O) : Prop :=
  Ongoing (fun call => creates call = some object)
    (fun call => destroys call = some object) log

def Mapped (log : List C) (object : O) : Prop :=
  Ongoing (fun call => maps call = some object)
    (fun call => unmaps call = some object) log

def Created (log : List C) (object : O) : Prop :=
  ∃ call ∈ log, creates call = some object

def CreatedFrom (log : List C) (source object : O) : Prop :=
  ∃ call ∈ log, creates call = some object ∧ parent call = some source

/-- A call uses live objects only, creates a new one, and destroys an object
that is not mapped and from which nothing alive was created. -/
structure Allowed (before : List C) (call : C) : Prop where
  alive : ∀ object ∈ uses call, Alive before object
  fresh : ∀ object, creates call = some object → ¬ Created before object
  unmapped : ∀ object, destroys call = some object → ¬ Mapped before object
  childless : ∀ object child, destroys call = some object →
    CreatedFrom before object child → ¬ Alive before child

def Lawful (log : List C) : Prop := AtEach Allowed log

theorem Alive.created {log : List C} {object : O} (halive : Alive log object) :
    Created log object := by
  obtain ⟨before, call, after, rfl, hcreates, -⟩ := halive
  exact ⟨call, by simp, hcreates⟩

theorem created_concat {log : List C} {call : C} {object : O} :
    Created (log ++ [call]) object ↔
      Created log object ∨ creates call = some object := by
  simp [Created, or_and_right, exists_or]

theorem CreatedFrom.append {log : List C} {source object : O}
    (hcreated : CreatedFrom log source object) (more : List C) :
    CreatedFrom (log ++ more) source object := by
  obtain ⟨call, hmem, hcreates, hparent⟩ := hcreated
  exact ⟨call, List.mem_append_left _ hmem, hcreates, hparent⟩

/-- A parent is there before its child. -/
theorem Lawful.not_createdFrom_self {log : List C} (hlawful : Lawful log)
    (object : O) : ¬ CreatedFrom log object object := by
  rintro ⟨call, hmem, hcreates, hparent⟩
  obtain ⟨before, after, hsplit⟩ := List.append_of_mem hmem
  have hallowed := hlawful before call after hsplit
  have halive := hallowed.alive object (parent_uses call object hparent)
  exact hallowed.fresh object hcreates halive.created

/-- An object is created once, and so from one parent. -/
theorem Lawful.parent_unique {log : List C} (hlawful : Lawful log)
    {first second child : O} (hfirst : CreatedFrom log first child)
    (hsecond : CreatedFrom log second child) : first = second := by
  obtain ⟨call, hmem, hcreates, hparent⟩ := hfirst
  obtain ⟨other, hother, hcreated, hfrom⟩ := hsecond
  obtain ⟨before, after, rfl⟩ := List.append_of_mem hmem
  have hfresh := (hlawful before call after rfl).fresh child hcreates
  rcases List.mem_append.mp hother with hbefore | hrest
  · exact absurd ⟨other, hbefore, hcreated⟩ hfresh
  · rcases List.mem_cons.mp hrest with rfl | hafter
    · exact Option.some.inj (hparent.symm.trans hfrom)
    · obtain ⟨middle, last, rfl⟩ := List.append_of_mem hafter
      have hlater := (hlawful (before ++ call :: middle) other last
        (by simp)).fresh child hcreated
      exact absurd ⟨call, by simp, hcreates⟩ hlater

/-! ### Exactly once -/

section Count

variable [DecidableEq O]

/-- How often an object is destroyed. -/
def destructions (log : List C) (object : O) : Nat :=
  log.countP fun call => destroys call = some object

theorem destructions_concat (log : List C) (call : C) (object : O) :
    destructions (log ++ [call]) object =
      destructions log object +
        if destroys call = some object then 1 else 0 := by
  by_cases hdestroys : destroys call = some object
  · simp [destructions, hdestroys]
  · simp [destructions, hdestroys]

/-- An object is not yet created, alive, or destroyed once. -/
inductive Fate (log : List C) (object : O) : Prop
  | unborn (hnever : ¬ Created log object)
      (hnone : destructions log object = 0)
  | alive (halive : Alive log object) (hnone : destructions log object = 0)
  | dead (hcreated : Created log object) (hdead : ¬ Alive log object)
      (honce : destructions log object = 1)

theorem Fate.extend {log : List C} {call : C} {object : O}
    (hfate : Fate log object) (hallowed : Allowed log call) :
    Fate (log ++ [call]) object := by
  have hkilled : destroys call = some object → Alive log object := fun hdies =>
    hallowed.alive object (destroys_uses call object hdies)
  have hcount := destructions_concat log call object
  cases hfate with
  | unborn hnever hnone =>
      have hspared : destroys call ≠ some object := fun hdies =>
        hnever (hkilled hdies).created
      rw [if_neg hspared, hnone] at hcount
      by_cases hborn : creates call = some object
      · exact .alive (ongoing_concat.mpr (Or.inl hborn)) hcount
      · refine .unborn ?_ hcount
        rw [created_concat]
        exact fun hcreated => hcreated.elim hnever hborn
  | alive halive hnone =>
      by_cases hdies : destroys call = some object
      · rw [if_pos hdies, hnone] at hcount
        refine .dead (created_concat.mpr (Or.inl halive.created)) ?_ hcount
        rw [Alive, ongoing_concat]
        rintro (hborn | ⟨-, hspared⟩)
        · exact hallowed.fresh object hborn halive.created
        · exact hspared hdies
      · rw [if_neg hdies, hnone] at hcount
        exact .alive (ongoing_concat.mpr (Or.inr ⟨halive, hdies⟩)) hcount
  | dead hcreated hdead honce =>
      have hspared : destroys call ≠ some object := fun hdies =>
        hdead (hkilled hdies)
      rw [if_neg hspared, honce] at hcount
      refine .dead (created_concat.mpr (Or.inl hcreated)) ?_ hcount
      rw [Alive, ongoing_concat]
      rintro (hborn | ⟨halive, -⟩)
      · exact hallowed.fresh object hborn hcreated
      · exact hdead halive

theorem Lawful.fate {log : List C} (hlawful : Lawful log) (object : O) :
    Fate log object := by
  induction log using List.reverseRecOn with
  | nil => exact .unborn (by simp [Created]) rfl
  | append_singleton log call ih =>
      obtain ⟨hbefore, hallowed⟩ := atEach_concat.mp hlawful
      exact (ih hbefore).extend hallowed

/-- What is created and not left alive is destroyed exactly once. -/
theorem Lawful.destroyed_once {log : List C} (hlawful : Lawful log)
    {object : O} (hcreated : Created log object)
    (hdead : ¬ Alive log object) : destructions log object = 1 := by
  cases hlawful.fate object with
  | unborn hnever hnone => exact absurd hcreated hnever
  | alive halive hnone => exact absurd halive hdead
  | dead _ _ honce => exact honce

/-- The log is lawful and all that was created in it was destroyed once. -/
structure CleanedUp (log : List C) : Prop where
  lawful : Lawful log
  once : ∀ object, Created log object → destructions log object = 1

end Count

/-! ### What is alive and what is mapped -/

/-- The log is lawful, and these are the live and the mapped objects. -/
structure Owns (log : List C) (live mapped : List O) : Prop where
  lawful : Lawful log
  alive : ∀ object, Alive log object ↔ object ∈ live
  held : ∀ object, Mapped log object ↔ object ∈ mapped
  nodup : live.Nodup

theorem owns_nil : Owns ([] : List C) ([] : List O) [] where
  lawful := atEach_nil
  alive object := by simp [Alive, not_ongoing_nil]
  held object := by simp [Mapped, not_ongoing_nil]
  nodup := List.nodup_nil

/-- Nothing is left behind. -/
theorem Owns.cleanedUp [DecidableEq O] {log : List C} {mapped : List O}
    (howns : Owns log [] mapped) : CleanedUp log where
  lawful := howns.lawful
  once object hcreated := by
    refine howns.lawful.destroyed_once hcreated fun halive => ?_
    exact List.not_mem_nil ((howns.alive object).mp halive)

namespace Owns

variable {log : List C} {call : C} {live rest mapped : List O} {object : O}

/-- The order of the live objects is of no account. -/
theorem perm (howns : Owns log live mapped) (hperm : live.Perm rest) :
    Owns log rest mapped where
  lawful := howns.lawful
  alive object := (howns.alive object).trans hperm.mem_iff
  held := howns.held
  nodup := hperm.nodup_iff.mp howns.nodup

/-- A call that creates nothing and destroys nothing is lawful on live
objects. -/
theorem lawful_concat (howns : Owns log live mapped)
    (huses : ∀ other ∈ uses call, other ∈ live)
    (hcreates : creates call = none) (hdestroys : destroys call = none) :
    Lawful (log ++ [call]) := by
  refine atEach_concat.mpr ⟨howns.lawful, ?_, ?_, ?_, ?_⟩
  · exact fun other hused => (howns.alive other).mpr (huses other hused)
  · simp [hcreates]
  · simp [hdestroys]
  · simp [hdestroys]

theorem alive_concat (howns : Owns log live mapped)
    (hcreates : creates call = none) (hdestroys : destroys call = none)
    (other : O) : Alive (log ++ [call]) other ↔ other ∈ live := by
  rw [← howns.alive, Alive, ongoing_concat]
  simp [hcreates, hdestroys, Alive]

theorem held_concat (howns : Owns log live mapped)
    (hmaps : maps call = none) (hunmaps : unmaps call = none) (other : O) :
    Mapped (log ++ [call]) other ↔ other ∈ mapped := by
  rw [← howns.held, Mapped, ongoing_concat]
  simp [hmaps, hunmaps, Mapped]

/-- A call that only uses live objects. -/
theorem use (howns : Owns log live mapped)
    (huses : ∀ object ∈ uses call, object ∈ live)
    (hcreates : creates call = none) (hdestroys : destroys call = none)
    (hmaps : maps call = none) (hunmaps : unmaps call = none) :
    Owns (log ++ [call]) live mapped where
  lawful := howns.lawful_concat huses hcreates hdestroys
  alive := howns.alive_concat hcreates hdestroys
  held := howns.held_concat hmaps hunmaps
  nodup := howns.nodup

/-- A call that creates a new object from live ones. -/
theorem create (howns : Owns log live mapped)
    (huses : ∀ object ∈ uses call, object ∈ live)
    (hcreates : creates call = some object)
    (hfresh : ¬ Created log object) (hdestroys : destroys call = none)
    (hmaps : maps call = none) (hunmaps : unmaps call = none) :
    Owns (log ++ [call]) (object :: live) mapped where
  lawful := by
    refine atEach_concat.mpr ⟨howns.lawful, ?_, ?_, ?_, ?_⟩
    · exact fun other hused => (howns.alive other).mpr (huses other hused)
    · intro other hother
      rw [hcreates] at hother
      cases hother
      exact hfresh
    · simp [hdestroys]
    · simp [hdestroys]
  alive other := by
    rw [List.mem_cons, ← howns.alive, Alive, ongoing_concat]
    simp [hcreates, hdestroys, Alive, eq_comm]
  held := howns.held_concat hmaps hunmaps
  nodup := by
    refine List.nodup_cons.mpr ⟨fun hmem => ?_, howns.nodup⟩
    exact hfresh ((howns.alive object).mpr hmem).created

/-- A call that destroys a live object. -/
theorem destroy (howns : Owns log (object :: rest) mapped)
    (huses : ∀ other ∈ uses call, other ∈ object :: rest)
    (hdestroys : destroys call = some object) (hunheld : object ∉ mapped)
    (hchildless : ∀ child, CreatedFrom log object child →
      child ∉ object :: rest)
    (hcreates : creates call = none) (hmaps : maps call = none)
    (hunmaps : unmaps call = none) : Owns (log ++ [call]) rest mapped where
  lawful := by
    refine atEach_concat.mpr ⟨howns.lawful, ?_, ?_, ?_, ?_⟩
    · exact fun other hused => (howns.alive other).mpr (huses other hused)
    · simp [hcreates]
    · intro other hother
      rw [hdestroys] at hother
      cases hother
      rw [howns.held]
      exact hunheld
    · intro other child hother hchild
      rw [hdestroys] at hother
      cases hother
      rw [howns.alive]
      exact hchildless child hchild
  alive other := by
    have hnew := (List.nodup_cons.mp howns.nodup).1
    rw [Alive, ongoing_concat, ← Alive, howns.alive, hcreates, hdestroys]
    constructor
    · rintro (hborn | ⟨hmem, hspared⟩)
      · cases hborn
      · refine (List.mem_cons.mp hmem).resolve_left fun heq => ?_
        exact hspared (by rw [heq])
    · intro hmem
      refine Or.inr ⟨List.mem_cons_of_mem _ hmem, fun heq => ?_⟩
      rw [Option.some.inj heq] at hnew
      exact hnew hmem
  held := howns.held_concat hmaps hunmaps
  nodup := (List.nodup_cons.mp howns.nodup).2

/-- A call that maps a live object. -/
theorem map (howns : Owns log live mapped)
    (huses : ∀ other ∈ uses call, other ∈ live)
    (hmaps : maps call = some object) (hcreates : creates call = none)
    (hdestroys : destroys call = none) (hunmaps : unmaps call = none) :
    Owns (log ++ [call]) live (object :: mapped) where
  lawful := howns.lawful_concat huses hcreates hdestroys
  alive := howns.alive_concat hcreates hdestroys
  held other := by
    rw [List.mem_cons, ← howns.held, Mapped, ongoing_concat]
    simp [hmaps, hunmaps, Mapped, eq_comm]
  nodup := howns.nodup

/-- A call that unmaps the only mapped object. -/
theorem unmap (howns : Owns log live [object])
    (huses : ∀ other ∈ uses call, other ∈ live)
    (hunmaps : unmaps call = some object) (hcreates : creates call = none)
    (hdestroys : destroys call = none) (hmaps : maps call = none) :
    Owns (log ++ [call]) live [] where
  lawful := howns.lawful_concat huses hcreates hdestroys
  alive := howns.alive_concat hcreates hdestroys
  held other := by
    rw [Mapped, ongoing_concat, ← Mapped, howns.held]
    simp [hmaps, hunmaps, eq_comm]
  nodup := howns.nodup

end Owns

end Lifetimes
