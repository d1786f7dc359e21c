/-
Whether the device addresses of `VulkanDriver` stay inside the pool.  What is
left of the pool grows with every free and the address counter does not go
back, so they do exactly as long as the pool is allocated no more than once
over.
-/
import SherGraphics.VulkanAddresses

namespace SherGraphics

namespace VulkanDriver

variable {B : Type}

/-- An allocation lies inside the pool of its device. -/
def HandsOutInside (vramBytes : Nat) (e : DriverEvent B) : Prop :=
  ∀ allocation, HandsOut allocation e →
    allocation.deviceAddress + allocation.size ≤ vramBytes

/-- An allocation that there is room for is asked for only while the bytes ever
allocated on the device, freed or not, make up no more than its pool. -/
def AllocatesOnce (vramBytes : Nat) (past : List (DriverEvent B))
    (e : DriverEvent B) : Prop :=
  ∀ device size memoryClass left,
    e.action = .call (.allocateVram device size memoryClass) →
      e.before.1.tables.vramAvailable.get device = some left → size ≤ left →
        everAllocated device past + size ≤ vramBytes

/-- No more bytes of a device were ever allocated than its pool has. -/
def WithinPool (vramBytes : Nat) (past : List (DriverEvent B)) : Prop :=
  ∀ device, everAllocated device past ≤ vramBytes

theorem withinPool_concat {vramBytes : Nat} {past : List (DriverEvent B)}
    (hwithin : WithinPool vramBytes past) (e : DriverEvent B) :
    WithinPool vramBytes (past ++ [e]) ↔
      ∀ allocation, HandsOut allocation e →
        everAllocated allocation.device past + allocation.size ≤
          vramBytes := by
  constructor
  · intro hafter allocation hout
    have hdevice := hafter allocation.device
    rw [everAllocated_concat, bytesOn_of_handsOut hout, if_pos rfl] at hdevice
    exact hdevice
  · intro hall device
    rw [everAllocated_concat]
    by_cases hnone : ∀ allocation, ¬ HandsOut allocation e
    · rw [bytesOn_of_none hnone]
      exact hwithin device
    · simp only [not_forall, not_not] at hnone
      obtain ⟨allocation, hout⟩ := hnone
      rw [bytesOn_of_handsOut hout]
      by_cases hdevice : allocation.device = device
      · rw [if_pos hdevice, ← hdevice]
        exact hall allocation hout
      · rw [if_neg hdevice]
        exact hwithin device

variable [VulkanBackend B]

/-- The windows of `map_dma` lie inside the pool. -/
def WindowsInside (vramBytes : Nat) (now : VulkanDriver B) : Prop :=
  ∀ name mapping, (GpuDriver.mapDma name now).1 = .ok mapping →
    mapping.iova + mapping.size ≤ vramBytes

theorem AddressBook.windowsInside {vramBytes : Nat}
    {past : List (DriverEvent B)} {now : VulkanDriver B}
    (hbook : AddressBook past now.tables) (hbound : vramBytes < 2 ^ 64)
    (hwithin : WithinPool vramBytes past) : WindowsInside vramBytes now := by
  intro name mapping hmapped
  rw [mapDma_run] at hmapped
  cases hrow : now.tables.allocations.get name with
  | none => simp [hrow] at hmapped
  | some found =>
      rw [hrow] at hmapped
      cases hmapped
      have hid := hbook.named name found hrow
      have hlive := (hbook.live found).mpr (by rw [hid, hrow])
      have hdevice := hwithin found.device
      have hlaid := hbook.laid found.device (Nat.lt_of_le_of_lt hdevice hbound)
      exact Nat.le_trans (hlaid.below found ⟨hlive, rfl⟩) hdevice

section Step

variable {whole vramBytes : Nat} {past : List (DriverEvent B)}
  {world : VulkanDriver B × IdSource} {action : Action}

/-- A new allocation starts at the number of bytes ever allocated. -/
theorem AddressBook.handsOut_address
    (hbook : AddressBook past world.1.tables)
    (hbooks : InBalance whole world.1 world.2) {allocation : GpuAllocation}
    (hout : HandsOut allocation (Machine.event act world action)) :
    allocation.deviceAddress =
      everAllocated allocation.device past % 2 ^ 64 := by
  cases act_addressEffect world hbooks action with
  | kept hnone hfrees hallocations haddresses =>
      exact absurd hout (hnone allocation)
  | @allocated device size left memoryClass haction hpool hfits hgranted
      htables =>
      have hsame := hout.symm.trans hgranted
      cases hsame
      exact hbook.counter device
  | freed hlive hfree htables =>
      have hsame := hout.symm.trans hfree.2
      cases hsame

/-- What is asked for and fits is handed out. -/
theorem allocatesOnce_iff (hbooks : InBalance whole world.1 world.2) :
    AllocatesOnce vramBytes past (Machine.event act world action) ↔
      ∀ allocation, HandsOut allocation (Machine.event act world action) →
        everAllocated allocation.device past + allocation.size ≤
          vramBytes := by
  constructor
  · intro honce allocation hout
    cases act_addressEffect world hbooks action with
    | kept hnone hfrees hallocations haddresses =>
        exact absurd hout (hnone allocation)
    | @allocated device size left memoryClass haction hpool hfits hgranted
        htables =>
        have hsame := hout.symm.trans hgranted
        cases hsame
        exact honce device size memoryClass left haction hpool hfits
    | freed hlive hfree htables =>
        have hsame := hout.symm.trans hfree.2
        cases hsame
  · intro hall device size memoryClass left haction hpool hfits
    change action = _ at haction
    subst haction
    obtain ⟨driver, ids⟩ := world
    change driver.tables.vramAvailable.get device = some left at hpool
    have hknown : driver.tables.Knows device :=
      (hbooks.sound device).mpr ⟨left, hpool⟩
    let granted :=
      driver.tables.grantedAllocation ids device size memoryClass
    have hrun : VulkanTables.allocateVram device size memoryClass
        (driver.tables, ids) =
          (.ok granted, driver.tables.afterAllocate left granted,
            ids.advance 1) :=
      VulkanTables.allocateVram_of_fits hknown hpool hfits memoryClass
    refine hall granted ?_
    exact congrArg (fun result => some (DriverReply.allocation result.1)) hrun

/-- As long as the pool was allocated no more than once over, addresses tell
the bytes allocated. -/
theorem AddressBook.handsOutInside_iff
    (hbook : AddressBook past world.1.tables)
    (hbooks : InBalance whole world.1 world.2) (hbound : vramBytes < 2 ^ 64)
    (hwithin : WithinPool vramBytes past) :
    HandsOutInside vramBytes (Machine.event act world action) ↔
      ∀ allocation, HandsOut allocation (Machine.event act world action) →
        everAllocated allocation.device past + allocation.size ≤
          vramBytes := by
  refine forall₂_congr fun allocation hout => ?_
  have hdevice := hwithin allocation.device
  rw [hbook.handsOut_address hbooks hout,
    Nat.mod_eq_of_lt (Nat.lt_of_le_of_lt hdevice hbound)]

end Step

section Runs

variable {backend : B} {spawned : Except String Unit} {ids later : IdSource}
  {driver : VulkanDriver B}

/-- Two conditions on single steps that say, as long as the pool holds all that
was ever allocated, that it still does, are met by the same runs. -/
theorem withinPool_iff_meets {vramBytes pool : Nat}
    (hopened : withBackend backend vramBytes spawned ids =
      (.ok driver, later)) (actions : List Action)
    (condition : List (DriverEvent B) → DriverEvent B → Prop)
    (hstep : ∀ past world action, AddressBook past world.1.tables →
      InBalance vramBytes world.1 world.2 → WithinPool pool past →
        (condition past (Machine.event act world action) ↔
          WithinPool pool (past ++ [Machine.event act world action]))) :
    Machine.Throughout act (driver, later) actions
        (fun past _ => WithinPool pool past) ↔
      Machine.Meets act (driver, later) actions condition := by
  have hbook := addressBook_run hopened
  have hbooks := inBalance_run hopened
  have hsound : Machine.Throughout act (driver, later) actions
      (fun past now => (AddressBook past now.1.tables ∧
        InBalance vramBytes now.1 now.2) ∧ WithinPool pool past) ↔
        Machine.Meets act (driver, later) actions condition := by
    apply Machine.throughout_iff_meets
    · exact ⟨⟨hbook [], hbooks []⟩, fun device => Nat.zero_le _⟩
    · rintro past world action ⟨⟨hbook, hbooks⟩, hwithin⟩
      rw [hstep past world action hbook hbooks hwithin]
      exact and_iff_right ⟨hbook.extend hbooks action,
        inBalance_act world action hbooks⟩
  rw [← hsound]
  constructor
  · intro hall first rest hsplit
    exact ⟨⟨hbook first, hbooks first⟩, hall first rest hsplit⟩
  · exact fun hall => hall.mono fun _ _ hnow => hnow.2

/-- Whatever the size of the pool: every range that is handed out lies inside
it, and so does every window, in exactly the runs in which no device is ever
asked for more bytes, freed ones counted, than its pool has. -/
theorem addresses_inside_iff (vramBytes : UInt64)
    (hopened : withBackend backend vramBytes.toNat spawned ids =
      (.ok driver, later)) (actions : List Action) :
    (Machine.Meets act (driver, later) actions
          (fun _ e => HandsOutInside vramBytes.toNat e) ∧
        Machine.Throughout act (driver, later) actions
          (fun _ now => WindowsInside vramBytes.toNat now.1)) ↔
      Machine.Meets act (driver, later) actions
        (AllocatesOnce vramBytes.toNat) := by
  have hbound : vramBytes.toNat < 2 ^ 64 := vramBytes.toNat_lt
  have hinside := withinPool_iff_meets hopened actions
    (fun _ e => HandsOutInside vramBytes.toNat e)
    fun past world action hbook hbooks hwithin => by
      rw [withinPool_concat hwithin]
      exact hbook.handsOutInside_iff hbooks hbound hwithin
  have honce := withinPool_iff_meets hopened actions
    (AllocatesOnce vramBytes.toNat)
    fun past world action hbook hbooks hwithin => by
      rw [withinPool_concat hwithin]
      exact allocatesOnce_iff hbooks
  rw [← honce, ← hinside, and_iff_left_iff_imp]
  intro hall first rest hsplit
  exact (addressBook_run hopened first).windowsInside hbound
    (hall first rest hsplit)

end Runs

namespace ReusedPool

def backend : ScriptedBackend where
  adapters := [⟨"only", 1, 1⟩]
  script := []

def driver : VulkanDriver ScriptedBackend :=
  .start backend.adapters 1024 .sequential backend

def later : IdSource := IdSource.sequential.advance 1

theorem opened :
    withBackend backend 1024 (.ok ()) .sequential = (.ok driver, later) := rfl

/-- An allocation and its free. -/
def opening (size : Nat) : List Action :=
  [] ++ [.call (.allocateVram ⟨0⟩ size .deviceLocal)] ++ [.call (.freeVram ⟨1⟩)]

def again (size : Nat) : Action := .call (.allocateVram ⟨0⟩ size .deviceLocal)

theorem small_pool_reused :
    withBackend backend 1024 (.ok ()) .sequential = (.ok driver, later) ∧
      Machine.Meets act (driver, later) (opening 600 ++ [again 300])
        (fun _ e => HandsOutInside 1024 e) := by
  have hiff := addresses_inside_iff 1024 opened
    (opening 600 ++ [again 300])
  refine ⟨opened, (hiff.mpr ?_).1⟩
  rw [opening, Machine.meets_concat, Machine.meets_concat,
    Machine.meets_concat]
  refine ⟨⟨⟨Machine.meets_of_prefixes (by simp), ?_⟩, ?_⟩, ?_⟩
  · rintro device size memoryClass left ⟨⟩ hpool hfits
    decide
  · rintro device size memoryClass left haction hpool hfits
    cases haction
  · rintro device size memoryClass left ⟨⟩ hpool hfits
    decide

/-- A pool of 1024 bytes that was given back is allocated past its end. -/
theorem reused_pool_overrun :
    withBackend backend 1024 (.ok ()) .sequential = (.ok driver, later) ∧
      ¬ Machine.Meets act (driver, later) (opening 1000 ++ [again 1000])
        (fun _ e => HandsOutInside 1024 e) := by
  refine ⟨opened, fun hinside => ?_⟩
  have hpast := hinside.at_step ⟨⟨2⟩, ⟨0⟩, .deviceLocal, 1000, 1000⟩ rfl
  exact absurd hpast (by decide)

end ReusedPool

end VulkanDriver

end SherGraphics
