/-
Histories, as lists of events that grow at their end: what has begun in a
history and has not ended since, and what holds at each of its events.
-/
import SherGraphics.Machine

universe u

variable {α : Type u} {begins ends : α → Prop} {past : List α} {e : α}

/-- An event of the history begins it, and no later one ends it. -/
def Ongoing (begins ends : α → Prop) (past : List α) : Prop :=
  ∃ before e after, past = before ++ e :: after ∧ begins e ∧
    ∀ later ∈ after, ¬ ends later

theorem not_ongoing_nil : ¬ Ongoing begins ends [] := by
  simp [Ongoing]

/-- One event more begins it, or leaves it going on. -/
theorem ongoing_concat :
    Ongoing begins ends (past ++ [e]) ↔
      begins e ∨ Ongoing begins ends past ∧ ¬ ends e := by
  constructor
  · rintro ⟨before, first, after, hsplit, hbegins, hnone⟩
    rcases List.cut_concat hsplit with
      ⟨rfl, rfl, rfl⟩ | ⟨middle, rfl, rfl⟩
    · exact Or.inl hbegins
    · refine Or.inr ⟨⟨before, first, middle, rfl, hbegins, ?_⟩, ?_⟩
      · exact fun later hmem => hnone later (List.mem_append_left _ hmem)
      · exact hnone e (by simp)
  · rintro (hbegins | ⟨⟨before, first, after, rfl, hbegins, hnone⟩, hlast⟩)
    · exact ⟨past, e, [], rfl, hbegins, by simp⟩
    · refine ⟨before, first, after ++ [e], by simp, hbegins, ?_⟩
      intro later hmem
      rcases List.mem_append.mp hmem with hold | hnew
      · exact hnone later hold
      · rw [List.mem_singleton.mp hnew]
        exact hlast

/-- An event that neither begins nor ends it makes no difference. -/
theorem ongoing_concat_of_idle (hbegins : ¬ begins e) (hends : ¬ ends e) :
    Ongoing begins ends (past ++ [e]) ↔ Ongoing begins ends past := by
  simp [ongoing_concat, hbegins, hends]

/-- An event that ends nothing leaves nothing more to begin in what follows. -/
theorem ongoing_append_of_idle {more : List α}
    (hidle : ∀ later ∈ more, ¬ begins later)
    (hnone : ¬ Ongoing begins ends past) :
    ¬ Ongoing begins ends (past ++ more) := by
  induction more using List.reverseRecOn with
  | nil => simpa using hnone
  | append_singleton rest last ih =>
      rw [← List.append_assoc, ongoing_concat]
      rintro (hbegins | ⟨hongoing, -⟩)
      · exact hidle last (by simp) hbegins
      · exact ih (fun later hmem => hidle later (by simp [hmem])) hongoing

/-! ### What holds at each event -/

section AtEach

variable {condition other : List α → α → Prop} {more : List α}

/-- Every event meets the condition, given the history before it. -/
def AtEach (condition : List α → α → Prop) (log : List α) : Prop :=
  ∀ before e after, log = before ++ e :: after → condition before e

theorem atEach_nil : AtEach condition [] := by
  simp [AtEach]

theorem atEach_concat :
    AtEach condition (past ++ [e]) ↔
      AtEach condition past ∧ condition past e := by
  constructor
  · intro hall
    refine ⟨fun before first after hsplit => ?_, hall past e [] rfl⟩
    exact hall before first (after ++ [e]) (by simp [hsplit])
  · rintro ⟨hall, hlast⟩ before first after hsplit
    rcases List.cut_concat hsplit with
      ⟨rfl, rfl, rfl⟩ | ⟨middle, rfl, rfl⟩
    · exact hlast
    · exact hall before first middle rfl

/-- What holds at each event of a history held at each event so far. -/
theorem AtEach.shorten (hall : AtEach condition (past ++ more)) :
    AtEach condition past :=
  fun before first after hsplit =>
    hall before first (after ++ more) (by simp [hsplit])

/-- More events extend the history if each is fine after those before it. -/
theorem AtEach.extend {allowed : α → Prop} (hall : AtEach condition past)
    (hmore : ∀ later ∈ more, allowed later)
    (hfine : ∀ rest later, (∀ other ∈ rest, allowed other) → allowed later →
      condition (past ++ rest) later) : AtEach condition (past ++ more) := by
  induction more using List.reverseRecOn with
  | nil => simpa using hall
  | append_singleton rest last ih =>
      have hrest : ∀ other ∈ rest, allowed other := fun other hmem =>
        hmore other (List.mem_append_left _ hmem)
      rw [← List.append_assoc, atEach_concat]
      exact ⟨ih hrest, hfine rest last hrest (hmore last (by simp))⟩

theorem AtEach.mono (hall : AtEach condition past)
    (himp : ∀ before first, condition before first → other before first) :
    AtEach other past :=
  fun before first after hsplit => himp _ _ (hall before first after hsplit)

end AtEach

/-! ### What was written last -/

section LastWrite

universe v

variable {β : Type v} {writes : α → Option β}

/-- What the last event that writes something wrote. -/
def lastWrite (writes : α → Option β) (past : List α) : Option β :=
  (past.filterMap writes).getLast?

@[simp] theorem lastWrite_nil : lastWrite writes [] = none := rfl

/-- One event more writes over what was written before, or leaves it. -/
theorem lastWrite_concat :
    lastWrite writes (past ++ [e]) = (writes e).or (lastWrite writes past) := by
  cases hwrites : writes e with
  | none => simp [lastWrite, hwrites]
  | some value => simp [lastWrite, hwrites]

end LastWrite
