/-
The VRAM pools of `SoftwareGpuDriver`.  A call changes a pool only by a
successful allocation or by a free; every other call keeps the allocations and
the byte counts, whatever it does to faults and flags.
-/
import SherGraphics.GpuAbstraction
import SherGraphics.Machine

namespace SherGraphics

/-- The byte counts of a device. -/
def DeviceState.pool (state : DeviceState) : Nat × Nat :=
  (state.vramTotal, state.vramAvailable)

namespace SoftwareGpuDriver

/-- The sizes of the live allocations of a device, added up. -/
def liveBytes (driver : SoftwareGpuDriver) (device : ObjectId) : Nat :=
  driver.allocations.drawn GpuAllocation.device GpuAllocation.size device

/-- The two drivers have the same allocations and byte counts. -/
structure SamePool (driver after : SoftwareGpuDriver) : Prop where
  allocations : after.allocations = driver.allocations
  pools : SameDevices DeviceState.pool driver after

theorem SamePool.refl (driver : SoftwareGpuDriver) : SamePool driver driver :=
  ⟨rfl, .refl driver⟩

/-! ### The calls that keep the pools -/

section Kept

variable (driver : SoftwareGpuDriver) (device : ObjectId)

theorem updateState_samePool (update : DeviceState → DeviceState)
    (hupdate : ∀ state, (update state).pool = state.pool) :
    SamePool driver (updateState device update driver).2 := by
  refine ⟨?_, updateState_sameDevices driver device hupdate⟩
  cases hdevice : driver.devices.get device with
  | none => rw [updateState_of_unknown hdevice]
  | some state => rw [updateState_of_known hdevice]

theorem initializeDevice_samePool (info : DeviceInfo) :
    SamePool driver (initializeDevice info driver).2 :=
  updateState_samePool driver info.id _ fun _ => rfl

theorem resetDevice_samePool : SamePool driver (resetDevice device driver).2 :=
  updateState_samePool driver device _ fun _ => rfl

theorem markFaulted_samePool (description : String) :
    SamePool driver (markFaulted device description driver) :=
  ⟨rfl, modify_sameDevices driver device fun _ => rfl⟩

theorem mapDma_unchanged (name : ObjectId) : (mapDma name driver).2 = driver := by
  rw [mapDma, Method.read_bind]
  cases hlive : driver.allocations.get name with
  | none => simp [hlive, Method.bind_run]
  | some allocation => simp [hlive, Method.bind_run]

end Kept

/-! ### Allocating and freeing -/

section Changed

variable {driver : SoftwareGpuDriver} {ids : IdSource} {device : ObjectId}

/-- What the byte counts and the allocations of a driver must satisfy. -/
structure WellPooled (vramBytesPerDevice : Nat) (driver : SoftwareGpuDriver)
    (ids : IdSource) : Prop where
  total : ∀ device state, driver.devices.get device = some state →
    state.vramTotal = vramBytesPerDevice
  balanced : ∀ device state, driver.devices.get device = some state →
    state.vramAvailable + driver.liveBytes device = state.vramTotal
  owned : ∀ name allocation, driver.allocations.get name = some allocation →
    allocation.id = name ∧
      ∃ state, driver.devices.get allocation.device = some state
  issued : ∀ name allocation, driver.allocations.get name = some allocation →
    ids.Issued name

namespace WellPooled

variable {vramBytesPerDevice : Nat} {later : IdSource}

theorem fresh (hpool : WellPooled vramBytesPerDevice driver ids) :
    driver.allocations.get ids.next = none := by
  rw [Option.eq_none_iff_forall_ne_some]
  intro allocation hlive
  exact ids.next_not_issued (hpool.issued _ allocation hlive)

theorem samePool {after : SoftwareGpuDriver}
    (hpool : WellPooled vramBytesPerDevice driver ids)
    (hsame : SamePool driver after) (hids : ids.Advances later) :
    WellPooled vramBytesPerDevice after later := by
  have hlive : ∀ device, after.liveBytes device = driver.liveBytes device := by
    intro device
    rw [liveBytes, liveBytes, hsame.allocations]
  refine ⟨?_, ?_, ?_, ?_⟩
  · intro device state hdevice
    obtain ⟨old, hold, hcounts⟩ := hsame.pools.before hdevice
    obtain ⟨htotal, -⟩ := Prod.mk.inj hcounts
    rw [← htotal]
    exact hpool.total device old hold
  · intro device state hdevice
    obtain ⟨old, hold, hcounts⟩ := hsame.pools.before hdevice
    obtain ⟨htotal, havailable⟩ := Prod.mk.inj hcounts
    rw [← htotal, ← havailable, hlive]
    exact hpool.balanced device old hold
  · intro name allocation hrow
    rw [hsame.allocations] at hrow
    obtain ⟨hid, old, hold⟩ := hpool.owned name allocation hrow
    obtain ⟨new, hnew, -⟩ := hsame.pools.after hold
    exact ⟨hid, new, hnew⟩
  · intro name allocation hrow
    rw [hsame.allocations] at hrow
    exact (hpool.issued name allocation hrow).mono hids

theorem allocated (hpool : WellPooled vramBytesPerDevice driver ids)
    {found : DeviceState} {size : Nat}
    (hfound : driver.devices.get device = some found)
    (hfits : size ≤ found.vramAvailable) (memoryClass : MemoryClass) :
    WellPooled vramBytesPerDevice
      (driver.afterAllocate
        (grantedAllocation ids device found size memoryClass))
      (ids.advance 1) := by
  let granted := grantedAllocation ids device found size memoryClass
  have hfresh := hpool.fresh
  have htotals : SameDevices DeviceState.vramTotal driver
      (driver.afterAllocate granted) :=
    modify_sameDevices driver device fun _ => rfl
  refine ⟨?_, ?_, ?_, ?_⟩
  · intro other state hother
    obtain ⟨old, hold, htotal⟩ := htotals.before hother
    rw [← htotal]
    exact hpool.total other old hold
  · intro other state hother
    rcases Table.row_of_modify hother with
      ⟨rfl, old, hold, rfl⟩ | ⟨hne, hold⟩
    · cases hfound.symm.trans hold
      have hbalance := hpool.balanced _ found hfound
      have hdrawn : (driver.afterAllocate granted).liveBytes other =
          size + driver.liveBytes other :=
        Table.drawn_insert_self driver.allocations _ _ hfresh
      change found.vramAvailable - size +
        (driver.afterAllocate granted).liveBytes other = found.vramTotal
      omega
    · have hdrawn : (driver.afterAllocate granted).liveBytes other =
          driver.liveBytes other :=
        Table.drawn_insert_ne driver.allocations _ _ hfresh (Ne.symm hne)
      rw [hdrawn]
      exact hpool.balanced other state hold
  · intro name allocation hrow
    rcases Table.row_of_insert hrow with ⟨heq, rfl⟩ | ⟨-, hrow⟩
    · obtain ⟨new, hnew, -⟩ := htotals.after hfound
      exact ⟨heq.symm, new, hnew⟩
    · obtain ⟨hid, old, hold⟩ := hpool.owned name allocation hrow
      obtain ⟨new, hnew, -⟩ := htotals.after hold
      exact ⟨hid, new, hnew⟩
  · intro name allocation hrow
    rcases Table.row_of_insert hrow with ⟨rfl, -⟩ | ⟨-, hrow⟩
    · exact ids.next_issued
    · exact (hpool.issued name allocation hrow).mono (ids.advance_advances 1)

theorem freed (hpool : WellPooled vramBytesPerDevice driver ids)
    {name : ObjectId} {allocation : GpuAllocation}
    (hlive : driver.allocations.get name = some allocation) :
    WellPooled vramBytesPerDevice (driver.afterFree allocation name) ids := by
  have htotals : SameDevices DeviceState.vramTotal driver
      (driver.afterFree allocation name) :=
    modify_sameDevices driver allocation.device fun _ => rfl
  refine ⟨?_, ?_, ?_, ?_⟩
  · intro other state hother
    obtain ⟨old, hold, htotal⟩ := htotals.before hother
    rw [← htotal]
    exact hpool.total other old hold
  · intro other state hother
    rcases Table.row_of_modify hother with
      ⟨rfl, old, hold, rfl⟩ | ⟨hne, hold⟩
    · have hbalance := hpool.balanced _ old hold
      have hdrawn : allocation.size +
          (driver.afterFree allocation name).liveBytes allocation.device =
            driver.liveBytes allocation.device :=
        Table.drawn_erase_self driver.allocations _ _ hlive
      change old.vramAvailable + allocation.size + _ = old.vramTotal
      omega
    · have hdrawn : (driver.afterFree allocation name).liveBytes other =
          driver.liveBytes other :=
        Table.drawn_erase_ne driver.allocations _ _ hlive (Ne.symm hne)
      rw [hdrawn]
      exact hpool.balanced other state hold
  · intro other row hrow
    obtain ⟨-, hrow⟩ := Table.row_of_erase hrow
    obtain ⟨hid, old, hold⟩ := hpool.owned other row hrow
    obtain ⟨new, hnew, -⟩ := htotals.after hold
    exact ⟨hid, new, hnew⟩
  · intro other row hrow
    exact hpool.issued other row (Table.row_of_erase hrow).2

/-- Freeing a live allocation succeeds. -/
theorem freeVram_live (hpool : WellPooled vramBytesPerDevice driver ids)
    {name : ObjectId} {allocation : GpuAllocation}
    (hlive : driver.allocations.get name = some allocation) :
    freeVram name driver = (.ok (), driver.afterFree allocation name) := by
  obtain ⟨-, found, hfound⟩ := hpool.owned name allocation hlive
  exact freeVram_of_live hlive hfound

end WellPooled

end Changed

/-! ### Runs of driver calls -/

theorem wellPooled_withDevices (count vramBytesPerDevice : Nat)
    (ids : IdSource) :
    WellPooled vramBytesPerDevice
      (withDevices count vramBytesPerDevice ids).1
      (withDevices count vramBytesPerDevice ids).2 where
  total := by
    intro device state hdevice
    obtain ⟨_, _, _, rfl⟩ := deviceTable_get ids _ count hdevice
    rfl
  balanced := by
    intro device state hdevice
    obtain ⟨_, _, _, rfl⟩ := deviceTable_get ids _ count hdevice
    rfl
  owned := by simp [withDevices]
  issued := by simp [withDevices]

/-- What a call of the driver does to its pools. -/
inductive PoolEffect (before after : SoftwareGpuDriver × IdSource) :
    DriverCall → DriverReply → Prop
  | kept {call : DriverCall} {reply : DriverReply}
      (hreply : ∀ allocation, reply ≠ .allocation (.ok allocation))
      (hsame : SamePool before.1 after.1) (hids : after.2 = before.2) :
      PoolEffect before after call reply
  | allocated {device : ObjectId} {found : DeviceState} {size : Nat}
      {memoryClass : MemoryClass}
      (hfound : before.1.devices.get device = some found)
      (hfits : size ≤ found.vramAvailable)
      (hafter : after = (before.1.afterAllocate
        (grantedAllocation before.2 device found size memoryClass),
          before.2.advance 1)) :
      PoolEffect before after (.allocateVram device size memoryClass)
        (.allocation
          (.ok (grantedAllocation before.2 device found size memoryClass)))
  | freed {name : ObjectId} {allocation : GpuAllocation}
      (hlive : before.1.allocations.get name = some allocation)
      (hafter : after = (before.1.afterFree allocation name, before.2)) :
      PoolEffect before after (.freeVram name) (.done (.ok ()))

theorem call_poolEffect {vramBytesPerDevice : Nat}
    {before : SoftwareGpuDriver × IdSource}
    (hpool : WellPooled vramBytesPerDevice before.1 before.2)
    (call : DriverCall) :
    PoolEffect before (GpuDriver.call before call).2 call
      (GpuDriver.call before call).1 := by
  obtain ⟨driver, ids⟩ := before
  cases call with
  | initializeDevice info =>
      exact .kept (by simp [GpuDriver.call])
        (initializeDevice_samePool driver info) rfl
  | allocateVram device size memoryClass =>
      rw [GpuDriver.call]
      change PoolEffect _ (allocateVram device size memoryClass
        (driver, ids)).2 _ (.allocation (allocateVram device size memoryClass
          (driver, ids)).1)
      rcases allocateVram_cases driver ids device size memoryClass with
        ⟨found, hfound, hfits, hrun⟩ | ⟨-, error, hrun⟩
      · rw [hrun]
        exact .allocated hfound hfits rfl
      · rw [hrun]
        exact .kept (by simp) (.refl driver) rfl
  | freeVram name =>
      change PoolEffect _ ((freeVram name driver).2, ids) _
        (.done (freeVram name driver).1)
      cases hlive : driver.allocations.get name with
      | none =>
          rw [freeVram_of_unknown hlive]
          exact .kept (by simp) (.refl driver) rfl
      | some allocation =>
          rw [hpool.freeVram_live hlive]
          exact .freed hlive rfl
  | mapDma name =>
      refine .kept (by simp [GpuDriver.call]) ?_ rfl
      change SamePool driver (mapDma name driver).2
      rw [mapDma_unchanged]
      exact .refl driver
  | submit device workload ops =>
      refine .kept (by simp [GpuDriver.call]) ?_ rfl
      change SamePool driver (submit device workload ops driver).2
      rw [submit_unchanged]
      exact .refl driver
  | resetDevice device =>
      exact .kept (by simp [GpuDriver.call])
        (resetDevice_samePool driver device) rfl
  | markFaulted device description =>
      exact .kept (by simp [GpuDriver.call])
        (markFaulted_samePool driver device description) rfl

theorem WellPooled.preserved {vramBytesPerDevice : Nat}
    {before after : SoftwareGpuDriver × IdSource} {call : DriverCall}
    {reply : DriverReply}
    (hpool : WellPooled vramBytesPerDevice before.1 before.2)
    (heffect : PoolEffect before after call reply) :
    WellPooled vramBytesPerDevice after.1 after.2 := by
  cases heffect with
  | kept hreply hsame hids =>
      rw [hids]
      exact hpool.samePool hsame (.refl _)
  | allocated hfound hfits hafter =>
      rw [hafter]
      exact hpool.allocated hfound hfits _
  | freed hlive hafter =>
      rw [hafter]
      exact hpool.freed hlive

theorem wellPooled_run (count vramBytesPerDevice : Nat) (ids : IdSource)
    (calls : List DriverCall) :
    let last := Machine.run GpuDriver.call
      (withDevices count vramBytesPerDevice ids) calls
    WellPooled vramBytesPerDevice last.1 last.2 :=
  Machine.run_invariant
    (fun world : SoftwareGpuDriver × IdSource =>
      WellPooled vramBytesPerDevice world.1 world.2)
    (wellPooled_withDevices count vramBytesPerDevice ids)
    (fun _ call hpool => hpool.preserved (call_poolEffect hpool call)) calls

end SoftwareGpuDriver

end SherGraphics
