/-
Device addresses of `SoftwareGpuDriver`.  A new allocation starts at the number
of bytes in use, which is the end of the occupied range only as long as frees
leave no gap behind.
-/
import Mathlib.Order.CompletePartialOrder
import Mathlib.Order.Interval.Set.Disjoint
import SherGraphics.VramPool

namespace SherGraphics

/-- The addresses an allocation occupies. -/
def GpuAllocation.addresses (allocation : GpuAllocation) : Set Nat :=
  Set.Ico allocation.deviceAddress
    (allocation.deviceAddress + allocation.size)

/-- The addresses a mapping gives a device access to. -/
def DmaMapping.window (mapping : DmaMapping) : Set Nat :=
  Set.Ico mapping.iova (mapping.iova + mapping.size)

/-- Two ranges are disjoint when one is empty or they lie side by side. -/
theorem disjoint_ranges_iff (start size other length : Nat) :
    Disjoint (Set.Ico start (start + size)) (Set.Ico other (other + length)) ↔
      start + size ≤ other ∨ other + length ≤ start ∨ size = 0 ∨
        length = 0 := by
  rw [Set.Ico_disjoint_Ico]
  omega

namespace SoftwareGpuDriver

/-- Two live allocations of one device share no address. -/
def NoAlias (driver : SoftwareGpuDriver) : Prop :=
  ∀ name other first second, driver.allocations.get name = some first →
    driver.allocations.get other = some second → name ≠ other →
      first.device = second.device →
        Disjoint first.addresses second.addresses

/-- The windows that `map_dma` returns for two live allocations of one device
share no address. -/
def WindowsDisjoint (driver : SoftwareGpuDriver) : Prop :=
  ∀ name other first second left right,
    driver.allocations.get name = some first →
      driver.allocations.get other = some second → name ≠ other →
        first.device = second.device →
          (mapDma name driver).1 = .ok left →
            (mapDma other driver).1 = .ok right →
              Disjoint left.window right.window

/-- A call on a driver as a trace records it. -/
abbrev PoolEvent := Event (SoftwareGpuDriver × IdSource) DriverCall DriverReply

/-- An allocation that fits is made only while every live allocation of the
device ends at or below the bytes in use, or starts past the new one; empty
allocations do not count. -/
def AllocatesClear (e : PoolEvent) : Prop :=
  ∀ device size memoryClass found,
    e.action = .allocateVram device size memoryClass →
      e.before.1.devices.get device = some found →
        size ≤ found.vramAvailable →
          ∀ name live, e.before.1.allocations.get name = some live →
            live.device = device →
              live.deviceAddress + live.size ≤
                  found.vramTotal - found.vramAvailable ∨
                found.vramTotal - found.vramAvailable + size ≤
                  live.deviceAddress ∨
                live.size = 0 ∨ size = 0

theorem mapDma_of_live {driver : SoftwareGpuDriver} {name : ObjectId}
    {allocation : GpuAllocation}
    (hlive : driver.allocations.get name = some allocation) :
    mapDma name driver =
      (.ok ⟨allocation.id, allocation.deviceAddress, allocation.size⟩,
        driver) := by
  rw [mapDma, Method.read_bind]
  simp [hlive, Method.bind_run]

theorem NoAlias.windowsDisjoint {driver : SoftwareGpuDriver}
    (hdisjoint : NoAlias driver) : WindowsDisjoint driver := by
  intro name other first second left right hfirst hsecond hne hdevice hleft
    hright
  rw [mapDma_of_live hfirst] at hleft
  rw [mapDma_of_live hsecond] at hright
  cases hleft
  cases hright
  exact hdisjoint name other first second hfirst hsecond hne hdevice

section Step

variable {vramBytesPerDevice : Nat} {before after : SoftwareGpuDriver × IdSource}
  {call : DriverCall} {reply : DriverReply}

/-- Fewer allocations alias no more. -/
theorem NoAlias.mono {driver later : SoftwareGpuDriver}
    (hdisjoint : NoAlias driver)
    (hrows : ∀ name row, later.allocations.get name = some row →
      driver.allocations.get name = some row) : NoAlias later := by
  intro name other first second hfirst hsecond
  exact hdisjoint name other first second (hrows name first hfirst)
    (hrows other second hsecond)

theorem NoAlias.preserved (hdisjoint : NoAlias before.1)
    (heffect : PoolEffect before after call reply)
    (hclear : AllocatesClear ⟨before, call, reply, after⟩) :
    NoAlias after.1 := by
  cases heffect with
  | kept hreply hsame hids =>
      refine hdisjoint.mono ?_
      intro name row hrow
      rwa [hsame.allocations] at hrow
  | @freed freed allocation hlive hafter =>
      rw [hafter]
      refine hdisjoint.mono ?_
      intro name row hrow
      change (before.1.allocations.erase freed).get name = some row at hrow
      exact (Table.row_of_erase hrow).2
  | @allocated device found size memoryClass hfound hfits hafter =>
      let granted :=
        grantedAllocation before.2 device found size memoryClass
      have hnew : ∀ name live,
          before.1.allocations.get name = some live → live.device = device →
            Disjoint granted.addresses live.addresses := by
        intro name live hlive hdevice
        have hgap := hclear device size memoryClass found rfl hfound hfits
          name live hlive hdevice
        refine (disjoint_ranges_iff _ _ _ _).mpr ?_
        change found.vramTotal - found.vramAvailable + size ≤ _ ∨
          _ ≤ found.vramTotal - found.vramAvailable ∨ size = 0 ∨ _
        omega
      intro name other first second hfirst hsecond hne hdevice
      rw [hafter] at hfirst hsecond
      change (before.1.allocations.insert before.2.next granted).get _ =
        some _ at hfirst hsecond
      rw [Table.get_insert] at hfirst hsecond
      by_cases hname : name = before.2.next
      · rw [if_pos hname] at hfirst
        rw [if_neg (hname ▸ Ne.symm hne)] at hsecond
        cases hfirst
        exact hnew other second hsecond hdevice.symm
      · rw [if_neg hname] at hfirst
        by_cases hother : other = before.2.next
        · rw [if_pos hother] at hsecond
          cases hsecond
          exact (hnew name first hfirst hdevice).symm
        · rw [if_neg hother] at hsecond
          exact hdisjoint name other first second hfirst hsecond hne hdevice

/-- An allocation that lands on a live one is in the table at once. -/
theorem allocatesClear_of_noAlias
    (hpool : WellPooled vramBytesPerDevice before.1 before.2)
    (hdisjoint : NoAlias (GpuDriver.call before call).2.1) :
    AllocatesClear (Machine.event GpuDriver.call before call) := by
  rintro device size memoryClass found rfl hfound hfits name live hlive hdevice
  change before.1.devices.get device = some found at hfound
  change before.1.allocations.get name = some live at hlive
  let granted := grantedAllocation before.2 device found size memoryClass
  have hafter : (GpuDriver.call before
      (.allocateVram device size memoryClass)).2.1.allocations =
        before.1.allocations.insert before.2.next granted := by
    have hrun : allocateVram device size memoryClass before =
        (.ok granted, before.1.afterAllocate granted, before.2.advance 1) :=
      allocateVram_of_fits hfound hfits memoryClass
    exact congrArg (fun result => result.2.1.allocations) hrun
  have hne : before.2.next ≠ name := by
    rintro rfl
    rw [hpool.fresh] at hlive
    cases hlive
  have hgap := hdisjoint before.2.next name granted live
    (by rw [hafter, Table.get_insert_self])
    (by rw [hafter, Table.get_insert_ne _ _ (Ne.symm hne), hlive])
    hne hdevice.symm
  have hranges := (disjoint_ranges_iff _ _ _ _).mp hgap
  change found.vramTotal - found.vramAvailable + size ≤ _ ∨
    _ ≤ found.vramTotal - found.vramAvailable ∨ size = 0 ∨ _ at hranges
  omega

end Step

/-- No two live allocations of a device alias, and no two of their windows, in
exactly the runs that allocate clear of what is live. -/
theorem allocations_disjoint_iff (count vramBytesPerDevice : Nat)
    (ids : IdSource) (calls : List DriverCall) :
    let start := withDevices count vramBytesPerDevice ids
    Machine.Throughout GpuDriver.call start calls
        (fun _ now => NoAlias now.1 ∧ WindowsDisjoint now.1) ↔
      Machine.Meets GpuDriver.call start calls
        (fun _ e => AllocatesClear e) := by
  intro start
  have hpool : ∀ first, WellPooled vramBytesPerDevice
      (Machine.run GpuDriver.call start first).1
      (Machine.run GpuDriver.call start first).2 :=
    wellPooled_run count vramBytesPerDevice ids
  have hboth : Machine.Throughout GpuDriver.call start calls
      (fun _ now => WellPooled vramBytesPerDevice now.1 now.2 ∧
        NoAlias now.1) ↔
        Machine.Meets GpuDriver.call start calls
          (fun _ e => AllocatesClear e) := by
    apply Machine.throughout_iff_meets
    · exact ⟨hpool [], by simp [NoAlias, start, withDevices]⟩
    · rintro past now call ⟨hnow, hdisjoint⟩
      have heffect := call_poolEffect hnow call
      constructor
      · rintro ⟨-, hafter⟩
        exact allocatesClear_of_noAlias hnow hafter
      · intro hclear
        exact ⟨hnow.preserved heffect, hdisjoint.preserved heffect hclear⟩
  rw [← hboth]
  constructor
  · intro hall first later hsplit
    exact ⟨hpool first, (hall first later hsplit).1⟩
  · intro hall first later hsplit
    have hdisjoint := (hall first later hsplit).2
    exact ⟨hdisjoint, hdisjoint.windowsDisjoint⟩

namespace OutOfOrderFree

/-- Allocate twice on GPU 0, free the first, and allocate again. -/
def calls : List DriverCall :=
  [.allocateVram ⟨0⟩ 256 .deviceLocal, .allocateVram ⟨0⟩ 256 .deviceLocal,
    .freeVram ⟨1⟩, .allocateVram ⟨0⟩ 256 .deviceLocal]

/-- The third allocation is given the addresses of the second. -/
theorem allocations_disjoint_fails :
    ¬ Machine.Throughout GpuDriver.call
        (withDevices 1 1024 .sequential) calls (fun _ now => NoAlias now.1) ∧
      ¬ Machine.Throughout GpuDriver.call
        (withDevices 1 1024 .sequential) calls
          (fun _ now => WindowsDisjoint now.1) := by
  let last := (Machine.run GpuDriver.call
    (withDevices 1 1024 .sequential) calls).1
  have hsecond : last.allocations.get ⟨2⟩ =
      some ⟨⟨2⟩, ⟨0⟩, .deviceLocal, 256, 256⟩ := by decide
  have hthird : last.allocations.get ⟨3⟩ =
      some ⟨⟨3⟩, ⟨0⟩, .deviceLocal, 256, 256⟩ := by decide
  have hmeet : ¬ Disjoint (Set.Ico 256 (256 + 256))
      (Set.Ico 256 (256 + 256)) := by
    rw [disjoint_ranges_iff]
    decide
  constructor
  · intro hall
    exact hmeet (hall.last ⟨2⟩ ⟨3⟩ _ _ hsecond hthird (by decide) rfl)
  · intro hall
    exact hmeet (hall.last ⟨2⟩ ⟨3⟩ _ _ ⟨⟨2⟩, 256, 256⟩ ⟨⟨3⟩, 256, 256⟩
      hsecond hthird (by decide) rfl (by decide) (by decide))

end OutOfOrderFree

end SoftwareGpuDriver

end SherGraphics
