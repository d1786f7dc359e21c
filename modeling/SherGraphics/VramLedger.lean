/-
VRAM as a ledger.  `AccountsVram` says what a driver's calls do to the ledger
that can be read off its state; from that alone every world that starts in
balance stays in balance, and conserves the VRAM of each of its devices.
-/
import SherGraphics.GpuAbstraction
import SherGraphics.Ledger

namespace SherGraphics

/-- The bytes left on each device, and the allocations drawn from them. -/
abbrev VramLedger := Ledger ObjectId ObjectId GpuAllocation

namespace VramLedger

/-- What `vram_available` answers. -/
def available (ledger : VramLedger) (device : ObjectId) : Result Nat :=
  match ledger.remaining device with
  | some left => .ok left
  | none => .error (.device "unknown GPU device")

theorem available_of_remaining {ledger : VramLedger} {device : ObjectId}
    {left : Nat} (hleft : ledger.remaining device = some left) :
    ledger.available device = .ok left := by
  rw [available, hleft]

theorem available_of_absent {ledger : VramLedger} {device : ObjectId}
    (habsent : ledger.remaining device = none) :
    ledger.available device = .error (.device "unknown GPU device") := by
  rw [available, habsent]

theorem available_congr {ledger other : VramLedger} {device : ObjectId}
    (hsame : other.remaining device = ledger.remaining device) :
    other.available device = ledger.available device := by
  rw [available, available, hsame]

abbrev debit (ledger : VramLedger) (allocation : GpuAllocation) : VramLedger :=
  Ledger.debit GpuAllocation.device GpuAllocation.size ledger allocation.id
    allocation

abbrev credit (ledger : VramLedger) (name : ObjectId)
    (allocation : GpuAllocation) : VramLedger :=
  Ledger.credit GpuAllocation.device GpuAllocation.size ledger name allocation

abbrev Balanced (whole : Nat) (ledger : VramLedger) : Prop :=
  Ledger.Balanced GpuAllocation.device GpuAllocation.size whole ledger

end VramLedger

/-- The call is an allocation or a free. -/
def DriverCall.MovesVram : DriverCall → Prop
  | .allocateVram _ _ _ => True
  | .freeVram _ => True
  | _ => False

section Accounts

variable {D : Type} [GpuDriver D]

/-- `probe` reports the device. -/
def Probed (driver : D) (device : ObjectId) : Prop :=
  ∃ infos info, GpuDriver.probe driver = .ok infos ∧ info ∈ infos ∧
    info.id = device

variable (D) in
/-- A driver with a ledger.  `Sound` is what else its tables must satisfy for
the ledger to tell the truth. -/
class AccountsVram where
  ledger : D → VramLedger
  Sound : D → Prop
  probed_iff : ∀ driver device, Sound driver →
    (Probed driver device ↔ ∃ left,
      (ledger driver).remaining device = some left)
  available : ∀ driver device,
    GpuDriver.vramAvailable driver device = (ledger driver).available device
  allocates : ∀ driver (ids : IdSource) device size memoryClass left,
    Sound driver → (ledger driver).remaining device = some left →
      size ≤ left → ∃ address after,
        GpuDriver.allocateVram device size memoryClass (driver, ids) =
            (.ok ⟨ids.next, device, memoryClass, size, address⟩, after,
              ids.advance 1) ∧
          ledger after = (ledger driver).debit
            ⟨ids.next, device, memoryClass, size, address⟩
  refuses : ∀ driver (ids : IdSource) device size memoryClass,
    (∀ left, (ledger driver).remaining device = some left → left < size) →
      ∃ error, GpuDriver.allocateVram device size memoryClass (driver, ids) =
        (.error error, driver, ids)
  frees : ∀ driver name allocation left,
    (ledger driver).live.get name = some allocation →
      (ledger driver).remaining allocation.device = some left →
        ∃ after, GpuDriver.freeVram name driver = (.ok (), after) ∧
          ledger after = (ledger driver).credit name allocation
  unknown : ∀ driver name, (ledger driver).live.get name = none →
    ∃ error, GpuDriver.freeVram name driver = (.error error, driver)
  keeps : ∀ (world : D × IdSource) (call : DriverCall), ¬ call.MovesVram →
    ledger (GpuDriver.call world call).2.1 = ledger world.1 ∧
      (GpuDriver.call world call).2.2 = world.2
  sound : ∀ (world : D × IdSource) (call : DriverCall), Sound world.1 →
    Sound (GpuDriver.call world call).2.1

open AccountsVram (ledger Sound)

variable [AccountsVram D]

/-- The allocations that were handed out and not freed. -/
def liveAllocations (driver : D) : Table ObjectId GpuAllocation :=
  (ledger driver).live

/-- The sizes of the live allocations of a device, added up. -/
def liveBytes (driver : D) (device : ObjectId) : Nat :=
  (liveAllocations driver).drawn GpuAllocation.device GpuAllocation.size device

/-- The VRAM of every device is accounted for, and the calls that move it do
so in step with the live allocations. -/
structure ConservesVram (whole : Nat) (driver : D) (ids : IdSource) :
    Prop where
  balanced : ∀ device, Probed driver device → ∃ left,
    GpuDriver.vramAvailable driver device = .ok left ∧
      left + liveBytes driver device = whole
  allocates_iff : ∀ device size memoryClass, Probed driver device →
    (IsOk (GpuDriver.allocateVram device size memoryClass (driver, ids)).1 ↔
      size ≤ whole - liveBytes driver device)
  debits : ∀ device size memoryClass allocation after later,
    GpuDriver.allocateVram device size memoryClass (driver, ids) =
        (.ok allocation, after, later) →
      allocation.device = device ∧ allocation.size = size ∧
        (liveAllocations driver).get allocation.id = none ∧
        liveAllocations after =
          (liveAllocations driver).insert allocation.id allocation ∧
        (∃ left, GpuDriver.vramAvailable driver device = .ok left ∧
          size ≤ left ∧
            GpuDriver.vramAvailable after device = .ok (left - size)) ∧
        ∀ other, other ≠ device → GpuDriver.vramAvailable after other =
          GpuDriver.vramAvailable driver other
  frees_iff : ∀ name, IsOk (GpuDriver.freeVram name driver).1 ↔
    ∃ allocation, (liveAllocations driver).get name = some allocation
  credits : ∀ name allocation after,
    (liveAllocations driver).get name = some allocation →
      GpuDriver.freeVram name driver = (.ok (), after) →
        liveAllocations after = (liveAllocations driver).erase name ∧
        (∃ left, GpuDriver.vramAvailable driver allocation.device = .ok left ∧
          left + allocation.size ≤ whole ∧
            GpuDriver.vramAvailable after allocation.device =
              .ok (left + allocation.size)) ∧
        ∀ other, other ≠ allocation.device →
          GpuDriver.vramAvailable after other =
            GpuDriver.vramAvailable driver other
  refused_allocate : ∀ device size memoryClass,
    ¬ IsOk (GpuDriver.allocateVram device size memoryClass (driver, ids)).1 →
      (GpuDriver.allocateVram device size memoryClass (driver, ids)).2 =
        (driver, ids)
  refused_free : ∀ name, ¬ IsOk (GpuDriver.freeVram name driver).1 →
    (GpuDriver.freeVram name driver).2 = driver

/-- The books of a driver are in balance. -/
structure InBalance (whole : Nat) (driver : D) (ids : IdSource) : Prop where
  sound : Sound driver
  balanced : (ledger driver).Balanced whole
  issued : ∀ name allocation,
    (liveAllocations driver).get name = some allocation → ids.Issued name

namespace InBalance

variable {whole : Nat} {driver after : D} {ids later : IdSource}

/-- The ledger stays as it is. -/
theorem kept (hbooks : InBalance whole driver ids) (hsound : Sound after)
    (hledger : ledger after = ledger driver) : InBalance whole after ids where
  sound := hsound
  balanced := by
    rw [hledger]
    exact hbooks.balanced
  issued := by
    rw [liveAllocations, hledger]
    exact hbooks.issued

theorem fresh (hbooks : InBalance whole driver ids) :
    (liveAllocations driver).get ids.next = none := by
  rw [Option.eq_none_iff_forall_ne_some]
  intro allocation hlive
  exact ids.next_not_issued (hbooks.issued _ allocation hlive)

/-- What is left on the device decides an allocation. -/
theorem allocateVram_cases (hbooks : InBalance whole driver ids)
    (device : ObjectId) (size : Nat) (memoryClass : MemoryClass) :
    (∃ left address after, (ledger driver).remaining device = some left ∧
        size ≤ left ∧
        GpuDriver.allocateVram device size memoryClass (driver, ids) =
          (.ok ⟨ids.next, device, memoryClass, size, address⟩, after,
            ids.advance 1) ∧
        ledger after = (ledger driver).debit
          ⟨ids.next, device, memoryClass, size, address⟩) ∨
      ((∀ left, (ledger driver).remaining device = some left → left < size) ∧
        ∃ error, GpuDriver.allocateVram device size memoryClass
          (driver, ids) = (.error error, driver, ids)) := by
  by_cases hroom : ∃ left, (ledger driver).remaining device = some left ∧
      size ≤ left
  · obtain ⟨left, hleft, hfits⟩ := hroom
    obtain ⟨address, after, hrun, hafter⟩ := AccountsVram.allocates driver ids
      device size memoryClass left hbooks.sound hleft hfits
    exact Or.inl ⟨left, address, after, hleft, hfits, hrun, hafter⟩
  · have hshort : ∀ left, (ledger driver).remaining device = some left →
        left < size := by
      intro left hleft
      exact Nat.lt_of_not_le fun hfits => hroom ⟨left, hleft, hfits⟩
    exact Or.inr ⟨hshort,
      AccountsVram.refuses driver ids device size memoryClass hshort⟩

/-- A free succeeds on a live allocation and on nothing else. -/
theorem freeVram_cases (hbooks : InBalance whole driver ids)
    (name : ObjectId) :
    (∃ allocation left after,
        (liveAllocations driver).get name = some allocation ∧
        (ledger driver).remaining allocation.device = some left ∧
        GpuDriver.freeVram name driver = (.ok (), after) ∧
        ledger after = (ledger driver).credit name allocation) ∨
      ((liveAllocations driver).get name = none ∧
        ∃ error, GpuDriver.freeVram name driver = (.error error, driver)) := by
  cases hlive : (liveAllocations driver).get name with
  | none => exact Or.inr ⟨rfl, AccountsVram.unknown driver name hlive⟩
  | some allocation =>
      obtain ⟨left, hleft⟩ := hbooks.balanced.pooled name allocation hlive
      obtain ⟨after, hrun, hafter⟩ :=
        AccountsVram.frees driver name allocation left hlive hleft
      exact Or.inl ⟨allocation, left, after, rfl, hleft, hrun, hafter⟩

theorem debited (hbooks : InBalance whole driver ids)
    {allocation : GpuAllocation} {left : Nat} (hsound : Sound after)
    (hid : allocation.id = ids.next)
    (hleft : (ledger driver).remaining allocation.device = some left)
    (hfits : allocation.size ≤ left)
    (hafter : ledger after = (ledger driver).debit allocation) :
    InBalance whole after (ids.advance 1) where
  sound := hsound
  balanced := by
    rw [hafter]
    have hfresh := hbooks.fresh
    rw [← hid] at hfresh
    exact hbooks.balanced.debit hfresh hleft hfits
  issued := by
    intro name row hlive
    rw [liveAllocations, hafter] at hlive
    rcases Table.row_of_insert hlive with ⟨hname, -⟩ | ⟨-, hold⟩
    · rw [hname, hid]
      exact ids.next_issued
    · exact (hbooks.issued name row hold).mono (ids.advance_advances 1)

theorem credited (hbooks : InBalance whole driver ids)
    {name : ObjectId} {allocation : GpuAllocation} (hsound : Sound after)
    (hlive : (liveAllocations driver).get name = some allocation)
    (hafter : ledger after = (ledger driver).credit name allocation) :
    InBalance whole after ids where
  sound := hsound
  balanced := by
    rw [hafter]
    exact hbooks.balanced.credit hlive
  issued := by
    intro other row hrow
    rw [liveAllocations, hafter] at hrow
    exact hbooks.issued other row (Table.row_of_erase hrow).2

/-- Every call keeps the books in balance. -/
theorem call (hbooks : InBalance whole driver ids) (call : DriverCall) :
    InBalance whole (GpuDriver.call (driver, ids) call).2.1
      (GpuDriver.call (driver, ids) call).2.2 := by
  have hsound := AccountsVram.sound (driver, ids) call hbooks.sound
  by_cases hmoves : call.MovesVram
  · cases call with
    | allocateVram device size memoryClass =>
        rw [GpuDriver.call] at hsound ⊢
        rcases hbooks.allocateVram_cases device size memoryClass with
          ⟨left, address, later, hleft, hfits, hrun, hlater⟩ |
            ⟨-, error, hrun⟩
        · rw [hrun] at hsound ⊢
          exact hbooks.debited hsound rfl hleft hfits hlater
        · rw [hrun]
          exact hbooks
    | freeVram name =>
        rw [GpuDriver.call] at hsound ⊢
        rcases hbooks.freeVram_cases name with
          ⟨allocation, left, later, hlive, -, hrun, hlater⟩ |
            ⟨-, error, hrun⟩
        · rw [hrun] at hsound ⊢
          exact hbooks.credited hsound hlive hlater
        · rw [hrun]
          exact hbooks
    | initializeDevice _ => exact hmoves.elim
    | mapDma _ => exact hmoves.elim
    | submit _ _ _ => exact hmoves.elim
    | resetDevice _ => exact hmoves.elim
    | markFaulted _ _ => exact hmoves.elim
  · obtain ⟨hledger, hids⟩ := AccountsVram.keeps (driver, ids) call hmoves
    rw [hids]
    exact hbooks.kept hsound hledger

/-! ### Balanced books conserve VRAM -/

theorem remaining_of_probed (hbooks : InBalance whole driver ids)
    {device : ObjectId} (hprobed : Probed driver device) :
    ∃ left, (ledger driver).remaining device = some left ∧
      left + liveBytes driver device = whole := by
  obtain ⟨left, hleft⟩ :=
    (AccountsVram.probed_iff driver device hbooks.sound).mp hprobed
  exact ⟨left, hleft, hbooks.balanced.sum device left hleft⟩

theorem available_of_remaining {device : ObjectId} {left : Nat}
    (hleft : (ledger driver).remaining device = some left) :
    GpuDriver.vramAvailable driver device = .ok left := by
  rw [AccountsVram.available, VramLedger.available_of_remaining hleft]

theorem available_congr {device : ObjectId}
    (hsame : (ledger after).remaining device =
      (ledger driver).remaining device) :
    GpuDriver.vramAvailable after device =
      GpuDriver.vramAvailable driver device := by
  rw [AccountsVram.available, AccountsVram.available,
    VramLedger.available_congr hsame]

theorem debits (hbooks : InBalance whole driver ids) {device : ObjectId}
    {size : Nat} {memoryClass : MemoryClass} {allocation : GpuAllocation}
    (hrun : GpuDriver.allocateVram device size memoryClass (driver, ids) =
      (.ok allocation, after, later)) :
    allocation.device = device ∧ allocation.size = size ∧
      (liveAllocations driver).get allocation.id = none ∧
      liveAllocations after =
        (liveAllocations driver).insert allocation.id allocation ∧
      (∃ left, GpuDriver.vramAvailable driver device = .ok left ∧
        size ≤ left ∧
          GpuDriver.vramAvailable after device = .ok (left - size)) ∧
      ∀ other, other ≠ device → GpuDriver.vramAvailable after other =
        GpuDriver.vramAvailable driver other := by
  rcases hbooks.allocateVram_cases device size memoryClass with
    ⟨left, address, granted, hleft, hfits, hgranted, hledger⟩ |
      ⟨-, error, hrefused⟩
  · cases hgranted.symm.trans hrun
    refine ⟨rfl, rfl, hbooks.fresh, ?_, ?_, ?_⟩
    · rw [liveAllocations, hledger]
      rfl
    · refine ⟨left, available_of_remaining hleft, hfits, ?_⟩
      apply available_of_remaining
      rw [hledger]
      exact Ledger.debit_remaining_self hleft
    · intro other hne
      apply available_congr
      rw [hledger]
      exact Ledger.debit_remaining_ne hne
  · cases hrefused.symm.trans hrun

theorem credits (hbooks : InBalance whole driver ids) {name : ObjectId}
    {allocation : GpuAllocation}
    (hlive : (liveAllocations driver).get name = some allocation)
    (hrun : GpuDriver.freeVram name driver = (.ok (), after)) :
    liveAllocations after = (liveAllocations driver).erase name ∧
      (∃ left, GpuDriver.vramAvailable driver allocation.device = .ok left ∧
        left + allocation.size ≤ whole ∧
          GpuDriver.vramAvailable after allocation.device =
            .ok (left + allocation.size)) ∧
      ∀ other, other ≠ allocation.device →
        GpuDriver.vramAvailable after other =
          GpuDriver.vramAvailable driver other := by
  rcases hbooks.freeVram_cases name with
    ⟨found, left, freed, hfound, hleft, hfreed, hledger⟩ | ⟨hnone, -⟩
  · cases hlive.symm.trans hfound
    cases hfreed.symm.trans hrun
    refine ⟨?_, ?_, ?_⟩
    · rw [liveAllocations, hledger]
      rfl
    · refine ⟨left, available_of_remaining hleft,
        hbooks.balanced.credit_le hlive hleft, ?_⟩
      apply available_of_remaining
      rw [hledger]
      exact Ledger.credit_remaining_self hleft
    · intro other hne
      apply available_congr
      rw [hledger]
      exact Ledger.credit_remaining_ne hne
  · cases hlive.symm.trans hnone

theorem conserves (hbooks : InBalance whole driver ids) :
    ConservesVram whole driver ids where
  balanced := by
    intro device hprobed
    obtain ⟨left, hleft, hsum⟩ := hbooks.remaining_of_probed hprobed
    exact ⟨left, available_of_remaining hleft, hsum⟩
  allocates_iff := by
    intro device size memoryClass hprobed
    obtain ⟨left, hleft, hsum⟩ := hbooks.remaining_of_probed hprobed
    rcases hbooks.allocateVram_cases device size memoryClass with
      ⟨_, address, after, hsame, hfits, hrun, -⟩ | ⟨hshort, error, hrun⟩
    · rw [hrun]
      cases hleft.symm.trans hsame
      exact iff_of_true (isOk_ok _) (by omega)
    · rw [hrun]
      have hlt := hshort left hleft
      exact iff_of_false (not_isOk_error _) (by omega)
  debits := fun _ _ _ _ _ _ hrun => hbooks.debits hrun
  frees_iff := by
    intro name
    rcases hbooks.freeVram_cases name with
      ⟨allocation, left, after, hlive, -, hrun, -⟩ | ⟨hnone, error, hrun⟩
    · rw [hrun]
      exact iff_of_true (isOk_ok _) ⟨allocation, hlive⟩
    · rw [hrun, hnone]
      exact iff_of_false (not_isOk_error _) (by simp)
  credits := fun _ _ _ hlive hrun => hbooks.credits hlive hrun
  refused_allocate := by
    intro device size memoryClass hrefused
    rcases hbooks.allocateVram_cases device size memoryClass with
      ⟨_, address, after, -, -, hrun, -⟩ | ⟨-, error, hrun⟩
    · rw [hrun] at hrefused
      exact absurd (isOk_ok _) hrefused
    · rw [hrun]
  refused_free := by
    intro name hrefused
    rcases hbooks.freeVram_cases name with
      ⟨allocation, left, after, -, -, hrun, -⟩ | ⟨-, error, hrun⟩
    · rw [hrun] at hrefused
      exact absurd (isOk_ok _) hrefused
    · rw [hrun]

end InBalance

end Accounts

end SherGraphics
