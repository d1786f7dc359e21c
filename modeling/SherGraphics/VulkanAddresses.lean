/-
Device addresses of `VulkanDriver`.  Each device has a counter that starts at 0
and moves on by the size of every allocation, whatever is freed, so it counts
the bytes ever allocated.
-/
import SherGraphics.AddressWindows
import SherGraphics.BumpRanges
import SherGraphics.Ongoing
import SherGraphics.VramConservation
import SherGraphics.VulkanLoss

namespace SherGraphics

namespace VulkanDriver

variable {B : Type}

/-! ### What a run tells of the allocations -/

def HandsOut (allocation : GpuAllocation) (e : DriverEvent B) : Prop :=
  e.answer = some (.allocation (.ok allocation))

def Frees (name : ObjectId) (e : DriverEvent B) : Prop :=
  e.action = .call (.freeVram name) ∧ e.answer = some (.done (.ok ()))

/-- The allocation was handed out and has not been freed since. -/
def Live (past : List (DriverEvent B)) (allocation : GpuAllocation) : Prop :=
  Ongoing (HandsOut allocation) (Frees allocation.id) past

/-- The bytes of a device that an event hands out. -/
def bytesOn (device : ObjectId) (e : DriverEvent B) : Nat :=
  match e.answer with
  | some (.allocation (.ok allocation)) =>
      if allocation.device = device then allocation.size else 0
  | _ => 0

/-- The bytes of a device that were ever handed out, freed or not. -/
def everAllocated (device : ObjectId) (past : List (DriverEvent B)) : Nat :=
  (past.map (bytesOn device)).sum

theorem everAllocated_concat (device : ObjectId) (past : List (DriverEvent B))
    (e : DriverEvent B) :
    everAllocated device (past ++ [e]) =
      everAllocated device past + bytesOn device e := by
  simp [everAllocated]

theorem bytesOn_of_handsOut {allocation : GpuAllocation} {e : DriverEvent B}
    (hout : HandsOut allocation e) (device : ObjectId) :
    bytesOn device e =
      if allocation.device = device then allocation.size else 0 := by
  rw [bytesOn, hout]

theorem bytesOn_of_none {e : DriverEvent B}
    (hnone : ∀ allocation, ¬ HandsOut allocation e) (device : ObjectId) :
    bytesOn device e = 0 := by
  rw [bytesOn]
  split
  · next allocation hanswer => exact absurd hanswer (hnone allocation)
  · rfl

/-! ### What one step does -/

/-- What a step does to the allocations and the address counters. -/
inductive AddressEffect (e : DriverEvent B) : Prop
  | kept (hnone : ∀ allocation, ¬ HandsOut allocation e)
      (hfrees : ∀ name, ¬ Frees name e)
      (hallocations : e.after.1.tables.allocations =
        e.before.1.tables.allocations)
      (haddresses : e.after.1.tables.nextAddress =
        e.before.1.tables.nextAddress)
  | allocated {device : ObjectId} {size left : Nat} {memoryClass : MemoryClass}
      (haction : e.action = .call (.allocateVram device size memoryClass))
      (hpool : e.before.1.tables.vramAvailable.get device = some left)
      (hfits : size ≤ left)
      (hout : HandsOut (e.before.1.tables.grantedAllocation e.before.2 device
        size memoryClass) e)
      (htables : e.after.1.tables = e.before.1.tables.afterAllocate left
        (e.before.1.tables.grantedAllocation e.before.2 device size
          memoryClass))
  | freed {name : ObjectId} {allocation : GpuAllocation} {left : Nat}
      (hlive : e.before.1.tables.allocations.get name = some allocation)
      (hfree : Frees name e)
      (htables : e.after.1.tables =
        e.before.1.tables.afterFree left allocation name)

section Step

variable [VulkanBackend B] {whole : Nat} (world : VulkanDriver B × IdSource)

/-- Only an allocation hands anything out, and only a free frees. -/
theorem addressEffect_of_idle {action : Action}
    (hmoves : ∀ call, action = .call call → ¬ call.MovesVram)
    (honly : VulkanTables.OnlyFaults world.1.tables
      (act world action).2.1.tables) :
    AddressEffect (Machine.event act world action) := by
  refine .kept ?_ ?_ ?_ ?_
  · intro allocation hout
    cases action with
    | call call =>
        cases call with
        | allocateVram _ _ _ => exact hmoves _ rfl trivial
        | _ => cases hout
    | threadStops => cases hout
    | channelCloses => cases hout
  · rintro name ⟨haction, -⟩
    exact hmoves (.freeVram name) haction trivial
  · change (act world action).2.1.tables.allocations = _
    rw [honly]
    rfl
  · change (act world action).2.1.tables.nextAddress = _
    rw [honly]
    rfl

theorem allocateVram_addressEffect (device : ObjectId) (size : Nat)
    (memoryClass : MemoryClass) :
    AddressEffect (Machine.event act world
      (.call (.allocateVram device size memoryClass))) := by
  obtain ⟨driver, ids⟩ := world
  have hact : act (driver, ids) (.call (.allocateVram device size
      memoryClass)) =
        (some (.allocation (VulkanTables.allocateVram device size memoryClass
            (driver.tables, ids)).1),
          ⟨(VulkanTables.allocateVram device size memoryClass
            (driver.tables, ids)).2.1, driver.worker⟩,
          (VulkanTables.allocateVram device size memoryClass
            (driver.tables, ids)).2.2) := rfl
  rw [Machine.event, hact]
  rcases VulkanTables.allocateVram_cases driver.tables ids device size
      memoryClass with ⟨left, -, hpool, hfits, hrun⟩ | ⟨error, hrun⟩
  · rw [hrun]
    exact .allocated rfl hpool hfits rfl rfl
  · rw [hrun]
    exact .kept (fun _ hout => nomatch hout) (fun _ hfree => nomatch hfree.1)
      rfl rfl

theorem freeVram_addressEffect (hbooks : InBalance whole world.1 world.2)
    (name : ObjectId) :
    AddressEffect (Machine.event act world (.call (.freeVram name))) := by
  obtain ⟨driver, ids⟩ := world
  have hact : act (driver, ids) (.call (.freeVram name)) =
      (some (.done (VulkanTables.freeVram name driver.tables).1),
        ⟨(VulkanTables.freeVram name driver.tables).2, driver.worker⟩,
        ids) := rfl
  rw [Machine.event, hact]
  cases hlive : driver.tables.allocations.get name with
  | none =>
      rw [VulkanTables.freeVram_of_unknown hlive]
      exact .kept (fun _ hout => nomatch hout) (fun _ hfree => nomatch hfree.2)
        rfl rfl
  | some allocation =>
      obtain ⟨left, hpool⟩ := hbooks.balanced.pooled name allocation hlive
      rw [VulkanTables.freeVram_of_live hlive hpool]
      exact .freed hlive ⟨rfl, rfl⟩ rfl

theorem act_addressEffect (hbooks : InBalance whole world.1 world.2)
    (action : Action) : AddressEffect (Machine.event act world action) := by
  cases action with
  | call call =>
      by_cases hmoves : call.MovesVram
      · cases call with
        | allocateVram device size memoryClass =>
            exact allocateVram_addressEffect world device size memoryClass
        | freeVram name => exact freeVram_addressEffect world hbooks name
        | _ => exact hmoves.elim
      · refine addressEffect_of_idle world ?_
          (call_onlyFaults world call hmoves)
        rintro _ ⟨⟩
        exact hmoves
  | threadStops =>
      refine addressEffect_of_idle world nofun ?_
      rw [act, stopThread_tables]
      exact .refl world.1.tables
  | channelCloses =>
      refine addressEffect_of_idle world nofun ?_
      rw [act, closeChannel_tables]
      exact .refl world.1.tables

end Step

/-! ### The counter and the live allocations -/

/-- The live allocations of a device. -/
def liveOn (past : List (DriverEvent B)) (device : ObjectId) :
    Set GpuAllocation :=
  { allocation | Live past allocation ∧ allocation.device = device }

/-- What the tables hold, in terms of the run so far. -/
structure AddressBook (past : List (DriverEvent B)) (tables : VulkanTables) :
    Prop where
  counter : ∀ device, (tables.nextAddress.get device).getD 0 =
    everAllocated device past % 2 ^ 64
  live : ∀ allocation, Live past allocation ↔
    tables.allocations.get allocation.id = some allocation
  named : ∀ name allocation, tables.allocations.get name = some allocation →
    allocation.id = name
  laid : ∀ device, everAllocated device past < 2 ^ 64 →
    BumpRanges GpuAllocation.deviceAddress GpuAllocation.size
      (liveOn past device) (everAllocated device past)

section Book

variable {past : List (DriverEvent B)} {e : DriverEvent B}

theorem everAllocated_of_none (device : ObjectId)
    (hnone : ∀ allocation, ¬ HandsOut allocation e) :
    everAllocated device (past ++ [e]) = everAllocated device past := by
  rw [everAllocated_concat, bytesOn_of_none hnone, Nat.add_zero]

theorem everAllocated_of_handsOut (device : ObjectId)
    {granted : GpuAllocation} (hout : HandsOut granted e) :
    everAllocated device (past ++ [e]) = everAllocated device past +
      if granted.device = device then granted.size else 0 := by
  rw [everAllocated_concat, bytesOn_of_handsOut hout]

theorem live_of_handsOut {granted : GpuAllocation}
    (hidle : ∀ name, ¬ Frees name e) (hout : HandsOut granted e)
    (other : GpuAllocation) :
    Live (past ++ [e]) other ↔ other = granted ∨ Live past other := by
  have hnew : HandsOut other e ↔ other = granted := by
    rw [HandsOut, show e.answer = _ from hout]
    simp [eq_comm]
  rw [Live, ongoing_concat, hnew]
  simp [hidle, Live]

theorem AddressBook.kept (hbook : AddressBook past e.before.1.tables)
    (hnone : ∀ allocation, ¬ HandsOut allocation e)
    (hfrees : ∀ name, ¬ Frees name e)
    (hallocations : e.after.1.tables.allocations =
      e.before.1.tables.allocations)
    (haddresses : e.after.1.tables.nextAddress =
      e.before.1.tables.nextAddress) :
    AddressBook (past ++ [e]) e.after.1.tables := by
  have hlive : ∀ allocation, Live (past ++ [e]) allocation ↔
      Live past allocation := fun allocation =>
    ongoing_concat_of_idle (hnone allocation) (hfrees allocation.id)
  have hbytes : ∀ device, everAllocated device (past ++ [e]) =
      everAllocated device past := fun device =>
    everAllocated_of_none device hnone
  have hsame : liveOn (past ++ [e]) = liveOn past := by
    funext device
    simp [liveOn, hlive]
  refine ⟨?_, ?_, ?_, ?_⟩
  · simpa [haddresses, hbytes] using hbook.counter
  · simpa [hallocations, hlive] using hbook.live
  · simpa [hallocations] using hbook.named
  · simpa [hsame, hbytes] using hbook.laid

theorem AddressBook.freed (hbook : AddressBook past e.before.1.tables)
    {name : ObjectId} {allocation : GpuAllocation} {left : Nat}
    (hfree : Frees name e)
    (htables : e.after.1.tables =
      e.before.1.tables.afterFree left allocation name) :
    AddressBook (past ++ [e]) e.after.1.tables := by
  have hnone : ∀ other, ¬ HandsOut other e := by
    intro other hout
    rw [HandsOut, hfree.2] at hout
    cases hout
  have hname : ∀ other, Frees other e ↔ other = name := by
    intro other
    constructor
    · intro hother
      have haction := hother.1.symm.trans hfree.1
      cases haction
      rfl
    · rintro rfl
      exact hfree
  have hlive : ∀ other, Live (past ++ [e]) other ↔
      Live past other ∧ other.id ≠ name := by
    intro other
    rw [Live, ongoing_concat, hname]
    simp [hnone, Live]
  have hbytes : ∀ device, everAllocated device (past ++ [e]) =
      everAllocated device past := fun device =>
    everAllocated_of_none device hnone
  rw [htables]
  refine ⟨?_, ?_, ?_, ?_⟩
  · simpa [VulkanTables.afterFree, hbytes] using hbook.counter
  · intro other
    rw [hlive, hbook.live, VulkanTables.afterFree, Table.get_erase]
    by_cases hother : other.id = name
    · simp [hother]
    · simp [hother]
  · intro other row hrow
    exact hbook.named other row (Table.row_of_erase hrow).2
  · intro device hbound
    rw [hbytes] at hbound ⊢
    refine (hbook.laid device hbound).giveUp ?_
    rintro other ⟨hother, hdevice⟩
    exact ⟨((hlive other).mp hother).1, hdevice⟩

/-- The new allocation starts where the counter stood. -/
theorem AddressBook.laid_allocated (hbook : AddressBook past e.before.1.tables)
    {granted : GpuAllocation}
    (haddress : granted.deviceAddress =
      (e.before.1.tables.nextAddress.get granted.device).getD 0)
    (hidle : ∀ name, ¬ Frees name e) (hout : HandsOut granted e)
    (device : ObjectId)
    (hbound : everAllocated device (past ++ [e]) < 2 ^ 64) :
    BumpRanges GpuAllocation.deviceAddress GpuAllocation.size
      (liveOn (past ++ [e]) device) (everAllocated device (past ++ [e])) := by
  rw [everAllocated_of_handsOut device hout] at hbound ⊢
  by_cases hdevice : granted.device = device
  · rw [if_pos hdevice] at hbound ⊢
    have hbefore : everAllocated device past < 2 ^ 64 := by omega
    have hstart : granted.deviceAddress = everAllocated device past := by
      rw [haddress, hdevice, hbook.counter, Nat.mod_eq_of_lt hbefore]
    refine ((hbook.laid device hbefore).lay hstart).giveUp ?_
    rintro other ⟨hother, howner⟩
    rcases (live_of_handsOut hidle hout other).mp hother with rfl | hold
    · exact Or.inl rfl
    · exact Or.inr ⟨hold, howner⟩
  · rw [if_neg hdevice, Nat.add_zero] at hbound ⊢
    refine (hbook.laid device hbound).giveUp ?_
    rintro other ⟨hother, howner⟩
    rcases (live_of_handsOut hidle hout other).mp hother with rfl | hold
    · exact absurd howner hdevice
    · exact ⟨hold, howner⟩

theorem AddressBook.allocated (hbook : AddressBook past e.before.1.tables)
    {granted : GpuAllocation} {left : Nat}
    (hfresh : e.before.1.tables.allocations.get granted.id = none)
    (haddress : granted.deviceAddress =
      (e.before.1.tables.nextAddress.get granted.device).getD 0)
    (hidle : ∀ name, ¬ Frees name e) (hout : HandsOut granted e)
    (htables : e.after.1.tables =
      e.before.1.tables.afterAllocate left granted) :
    AddressBook (past ++ [e]) e.after.1.tables := by
  rw [htables]
  refine ⟨?_, ?_, ?_, hbook.laid_allocated haddress hidle hout⟩
  · intro device
    rw [everAllocated_of_handsOut device hout, VulkanTables.afterAllocate,
      Table.get_insert]
    by_cases hdevice : device = granted.device
    · rw [if_pos hdevice, if_pos hdevice.symm, haddress, ← hdevice,
        Option.getD_some, hbook.counter, Nat.mod_add_mod]
    · rw [if_neg hdevice, if_neg (Ne.symm hdevice), Nat.add_zero]
      exact hbook.counter device
  · intro other
    rw [live_of_handsOut hidle hout, VulkanTables.afterAllocate,
      Table.get_insert, hbook.live]
    by_cases hother : other.id = granted.id
    · rw [if_pos hother, hother, hfresh]
      simp [eq_comm]
    · have hne : other ≠ granted := fun heq => hother (by rw [heq])
      simp [hother, hne]
  · intro name row hrow
    rcases Table.row_of_insert hrow with ⟨rfl, rfl⟩ | ⟨-, hold⟩
    · rfl
    · exact hbook.named name row hold

end Book

section Runs

variable [VulkanBackend B] {past : List (DriverEvent B)}

theorem AddressBook.extend {whole : Nat} {world : VulkanDriver B × IdSource}
    (hbooks : InBalance whole world.1 world.2)
    (hbook : AddressBook past world.1.tables) (action : Action) :
    AddressBook (past ++ [Machine.event act world action])
      (act world action).2.1.tables := by
  cases act_addressEffect world hbooks action with
  | kept hnone hfrees hallocations haddresses =>
      exact hbook.kept hnone hfrees hallocations haddresses
  | @allocated device size left memoryClass haction hpool hfits hout htables =>
      have hfresh : world.1.tables.allocations.get world.2.next = none := by
        cases hrow : world.1.tables.allocations.get world.2.next with
        | none => rfl
        | some row =>
            exact absurd (hbooks.issued _ row hrow) world.2.next_not_issued
      have hidle : ∀ name, ¬ Frees name (Machine.event act world action) := by
        rintro name ⟨hfree, -⟩
        cases haction.symm.trans hfree
      exact hbook.allocated (by exact hfresh) rfl hidle hout htables
  | freed hlive hfree htables => exact hbook.freed hfree htables

omit [VulkanBackend B] in
theorem addressBook_start (adapters : List BackendAdapterInfo)
    (vramBytes : Nat) (ids : IdSource) :
    AddressBook ([] : List (DriverEvent B))
      (VulkanTables.new adapters vramBytes ids) where
  counter device := by
    rw [VulkanTables.new, VulkanTables.perDevice_get]
    split <;> rfl
  live allocation := by
    simp [Live, not_ongoing_nil, VulkanTables.new]
  named name allocation hrow := by
    simp [VulkanTables.new] at hrow
  laid device _ := by
    refine (BumpRanges.empty _ _ _).giveUp ?_
    rintro allocation ⟨hlive, -⟩
    exact absurd hlive not_ongoing_nil

section Opened

variable {backend : B} {vramBytes : Nat} {spawned : Except String Unit}
  {ids later : IdSource} {driver : VulkanDriver B}

theorem addressBook_run
    (hopened : withBackend backend vramBytes spawned ids =
      (.ok driver, later)) (actions : List Action) :
    AddressBook (Machine.trace act (driver, later) actions)
      (Machine.run act (driver, later) actions).1.tables := by
  induction actions using List.reverseRecOn with
  | nil =>
      obtain ⟨adapters, backend, rfl, rfl⟩ := withBackend_ok hopened
      exact addressBook_start adapters vramBytes ids
  | append_singleton first action ih =>
      rw [Machine.trace_concat, Machine.run_concat]
      exact ih.extend (inBalance_run hopened first) action

/-! ### Aliasing -/

/-- No two live allocations of a device share an address. -/
def LiveDisjoint (past : List (DriverEvent B)) : Prop :=
  ∀ first second, Live past first → Live past second → first ≠ second →
    first.device = second.device →
      Disjoint first.addresses second.addresses

/-- `map_dma` gives a live allocation the range it was handed out with, and
fails for every other name. -/
def MapsLive (past : List (DriverEvent B)) (now : VulkanDriver B) : Prop :=
  (∀ allocation, Live past allocation →
    (GpuDriver.mapDma allocation.id now).1 =
      .ok ⟨allocation.id, allocation.deviceAddress, allocation.size⟩) ∧
  ∀ name, (∀ allocation, Live past allocation → allocation.id ≠ name) →
    ∃ error, (GpuDriver.mapDma name now).1 = .error error

theorem mapDma_run (now : VulkanDriver B) (name : ObjectId) :
    (GpuDriver.mapDma name now).1 =
      match now.tables.allocations.get name with
      | some found => .ok ⟨found.id, found.deviceAddress, found.size⟩
      | none => .error (.memory "unknown allocation") := by
  change (VulkanTables.mapDma name now.tables).1 = _
  rw [VulkanTables.mapDma, Method.read_bind]
  cases now.tables.allocations.get name with
  | none => rfl
  | some found => rfl

theorem AddressBook.mapsLive {now : VulkanDriver B}
    (hbook : AddressBook past now.tables) : MapsLive past now := by
  constructor
  · intro allocation hlive
    rw [mapDma_run, (hbook.live allocation).mp hlive]
  · intro name hnone
    rw [mapDma_run]
    cases hrow : now.tables.allocations.get name with
    | none => exact ⟨_, rfl⟩
    | some found =>
        have hid := hbook.named name found hrow
        have hlive := (hbook.live found).mpr (by rw [hid, hrow])
        exact absurd hid (hnone found hlive)

omit [VulkanBackend B] in
theorem AddressBook.liveDisjoint {tables : VulkanTables}
    (hbook : AddressBook past tables)
    (hbound : ∀ device, everAllocated device past < 2 ^ 64) :
    LiveDisjoint past := by
  intro first second hfirst hsecond hne hdevice
  have hlaid := hbook.laid second.device (hbound second.device)
  exact hlaid.disjoint ⟨hfirst, hdevice⟩ ⟨hsecond, rfl⟩ hne

omit [VulkanBackend B] in
theorem everAllocated_append_le (device : ObjectId)
    (past future : List (DriverEvent B)) :
    everAllocated device past ≤ everAllocated device (past ++ future) := by
  simp [everAllocated]

/-- As long as the bytes ever allocated on each device can be counted in 64
bits, no two live allocations of a device share an address, and `map_dma` knows
exactly the live allocations and their ranges. -/
theorem addresses_never_alias
    (hopened : withBackend backend vramBytes spawned ids =
      (.ok driver, later)) (actions : List Action)
    (hbound : ∀ device, everAllocated device
      (Machine.trace act (driver, later) actions) < 2 ^ 64) :
    Machine.Throughout act (driver, later) actions
      (fun past now => LiveDisjoint past ∧ MapsLive past now.1) := by
  rintro first rest rfl
  have hbook := addressBook_run hopened first
  refine ⟨hbook.liveDisjoint fun device => ?_, hbook.mapsLive⟩
  rw [Machine.trace_append] at hbound
  exact Nat.lt_of_le_of_lt (everAllocated_append_le device _ _)
    (hbound device)

end Opened

end Runs

namespace TwoCounters

def backend : ScriptedBackend where
  adapters := [⟨"first", 1, 1⟩, ⟨"second", 1, 2⟩]
  script := []

def driver : VulkanDriver ScriptedBackend :=
  .start backend.adapters 1024 .sequential backend

def later : IdSource := IdSource.sequential.advance 2

/-- An allocation on each of two GPUs, and one more on the first after its own
was freed. -/
def actions : List Action :=
  [.call (.allocateVram ⟨0⟩ 256 .deviceLocal),
    .call (.allocateVram ⟨1⟩ 100 .deviceLocal), .call (.freeVram ⟨2⟩),
    .call (.allocateVram ⟨0⟩ 512 .deviceLocal)]

theorem everAllocated_actions (device : ObjectId) :
    everAllocated device (Machine.trace act (driver, later) actions) =
      (if ⟨0⟩ = device then 256 else 0) +
        ((if ⟨1⟩ = device then 100 else 0) +
          (0 + ((if ⟨0⟩ = device then 512 else 0) + 0))) := by
  rfl

theorem two_counters_never_alias :
    withBackend backend 1024 (.ok ()) .sequential = (.ok driver, later) ∧
      Machine.Throughout act (driver, later) actions
        (fun past now => LiveDisjoint past ∧ MapsLive past now.1) := by
  have hopened : withBackend backend 1024 (.ok ()) .sequential =
      (.ok driver, later) := rfl
  refine ⟨hopened, addresses_never_alias hopened actions fun device => ?_⟩
  rw [everAllocated_actions]
  split <;> split <;> omega

end TwoCounters

end VulkanDriver

end SherGraphics
