/-
VRAM conservation in both drivers.  The software driver keeps a pool in each
of its device records and the Vulkan driver keeps the pools in a table of
their own; both are ledgers, and whatever befalls them between two calls
leaves the ledger alone.
-/
import SherGraphics.Machine
import SherGraphics.PanickingDriver
import SherGraphics.VramLedger
import SherGraphics.VulkanDriver

namespace SherGraphics

/-! ### The software driver -/

namespace SoftwareGpuDriver

/-- The pools are the fields of the device records. -/
def ledger (driver : SoftwareGpuDriver) : VramLedger where
  remaining device :=
    (driver.devices.get device).map DeviceState.vramAvailable
  live := driver.allocations

variable {driver after : SoftwareGpuDriver} {device : ObjectId} {left : Nat}

theorem remaining_eq_some
    (hleft : driver.ledger.remaining device = some left) :
    ∃ found, driver.devices.get device = some found ∧
      found.vramAvailable = left :=
  Option.map_eq_some_iff.mp hleft

theorem remaining_of_known {found : DeviceState}
    (hfound : driver.devices.get device = some found) :
    driver.ledger.remaining device = some found.vramAvailable := by
  change (driver.devices.get device).map _ = _
  rw [hfound]
  rfl

theorem SamePool.ledger_eq (hsame : SamePool driver after) :
    after.ledger = driver.ledger := by
  rw [ledger, ledger, hsame.allocations]
  congr 1
  funext device
  exact hsame.pools.map Prod.snd device

theorem afterAllocate_ledger (driver : SoftwareGpuDriver)
    (allocation : GpuAllocation) :
    (driver.afterAllocate allocation).ledger =
      driver.ledger.debit allocation := by
  rw [ledger, VramLedger.debit, Ledger.debit, afterAllocate]
  congr 1
  exact driver.devices.map_get_modify allocation.device fun _ => rfl

theorem afterFree_ledger (driver : SoftwareGpuDriver)
    (allocation : GpuAllocation) (name : ObjectId) :
    (driver.afterFree allocation name).ledger =
      driver.ledger.credit name allocation := by
  rw [ledger, VramLedger.credit, Ledger.credit, afterFree]
  congr 1
  exact driver.devices.map_get_modify allocation.device fun _ => rfl

theorem Keyed.probed_iff (hkeyed : driver.Keyed) (device : ObjectId) :
    Probed driver device ↔
      ∃ left, driver.ledger.remaining device = some left := by
  constructor
  · rintro ⟨infos, info, hprobe, hmem, rfl⟩
    cases hprobe
    obtain ⟨state, hvalue, rfl⟩ := List.mem_map.mp hmem
    obtain ⟨key, hkey⟩ := (Table.mem_values_iff _ state).mp hvalue
    rw [hkeyed key state hkey]
    exact ⟨_, remaining_of_known hkey⟩
  · rintro ⟨left, hleft⟩
    obtain ⟨found, hfound, -⟩ := remaining_eq_some hleft
    have hvalue : found ∈ driver.devices.values :=
      (Table.mem_values_iff _ found).mpr ⟨device, hfound⟩
    exact ⟨_, found.info, rfl, List.mem_map_of_mem hvalue,
      hkeyed device found hfound⟩

theorem vramAvailable_ledger (driver : SoftwareGpuDriver)
    (device : ObjectId) :
    vramAvailable driver device = driver.ledger.available device := by
  cases hfound : driver.devices.get device with
  | none =>
      have habsent : driver.ledger.remaining device = none :=
        Option.map_eq_none_iff.mpr hfound
      rw [vramAvailable, state_of_unknown hfound,
        VramLedger.available_of_absent habsent]
      rfl
  | some found =>
      rw [vramAvailable, state_of_known hfound,
        VramLedger.available_of_remaining (remaining_of_known hfound)]
      rfl

/-- Only an allocation and a free touch the pools. -/
theorem call_samePool (world : SoftwareGpuDriver × IdSource)
    (call : DriverCall) (hkept : ¬ call.MovesVram) :
    SamePool world.1 (GpuDriver.call world call).2.1 := by
  obtain ⟨driver, ids⟩ := world
  cases call with
  | initializeDevice info => exact initializeDevice_samePool driver info
  | allocateVram _ _ _ => exact absurd trivial hkept
  | freeVram _ => exact absurd trivial hkept
  | mapDma name =>
      change SamePool driver (mapDma name driver).2
      rw [mapDma_unchanged]
      exact .refl driver
  | submit device workload ops =>
      change SamePool driver (submit device workload ops driver).2
      rw [submit_unchanged]
      exact .refl driver
  | resetDevice device => exact resetDevice_samePool driver device
  | markFaulted device description =>
      exact markFaulted_samePool driver device description

/-- No call adds, drops or renames a device. -/
theorem call_sameInfos (world : SoftwareGpuDriver × IdSource)
    (call : DriverCall) :
    SameDevices DeviceState.info world.1 (GpuDriver.call world call).2.1 := by
  obtain ⟨driver, ids⟩ := world
  cases call with
  | initializeDevice info =>
      exact (initializeDevice_faultView driver info).map Prod.fst
  | allocateVram device size memoryClass =>
      exact (allocateVram_faultView driver ids device size memoryClass).map
        Prod.fst
  | freeVram name => exact (freeVram_faultView driver name).map Prod.fst
  | mapDma name =>
      change SameDevices _ driver (mapDma name driver).2
      rw [mapDma_unchanged]
      exact .refl driver
  | submit device workload ops =>
      change SameDevices _ driver (submit device workload ops driver).2
      rw [submit_unchanged]
      exact .refl driver
  | resetDevice device => exact updateState_sameDevices driver device fun _ => rfl
  | markFaulted device description =>
      exact modify_sameDevices driver device fun _ => rfl

theorem call_ids (world : SoftwareGpuDriver × IdSource) (call : DriverCall)
    (hkept : ¬ call.MovesVram) : (GpuDriver.call world call).2.2 = world.2 := by
  cases call with
  | allocateVram _ _ _ => exact absurd trivial hkept
  | _ => rfl

instance : AccountsVram SoftwareGpuDriver where
  ledger := ledger
  Sound := Keyed
  probed_iff _ device hkeyed := hkeyed.probed_iff device
  available := vramAvailable_ledger
  allocates := by
    intro driver ids device size memoryClass left _ hleft hfits
    obtain ⟨found, hfound, rfl⟩ := remaining_eq_some hleft
    exact ⟨_, _, allocateVram_of_fits hfound hfits memoryClass,
      afterAllocate_ledger driver _⟩
  refuses := by
    intro driver ids device size memoryClass hshort
    rcases allocateVram_cases driver ids device size memoryClass with
      ⟨found, hfound, hfits, -⟩ | ⟨-, hrefused⟩
    · have hlt := hshort _ (remaining_of_known hfound)
      omega
    · exact hrefused
  frees := by
    intro driver name allocation left hlive hleft
    obtain ⟨found, hfound, -⟩ := remaining_eq_some hleft
    exact ⟨_, freeVram_of_live hlive hfound,
      afterFree_ledger driver allocation name⟩
  unknown := fun _ _ hnone => ⟨_, freeVram_of_unknown hnone⟩
  keeps world call hkept :=
    ⟨(call_samePool world call hkept).ledger_eq, call_ids world call hkept⟩
  sound world call hkeyed := hkeyed.of_sameInfos (call_sameInfos world call)

/-- A call of the driver, or a fault that befalls one of its devices. -/
inductive Action where
  | call (call : DriverCall)
  | injectFault (device : ObjectId) (address : Nat) (description : String)
deriving DecidableEq, Repr

/-- The driver as a machine; only a call is answered. -/
def act (world : SoftwareGpuDriver × IdSource) :
    Action → Option DriverReply × (SoftwareGpuDriver × IdSource)
  | .call call =>
      let (reply, world) := GpuDriver.call world call
      (some reply, world)
  | .injectFault device address description =>
      (none, injectFault device address description world.1, world.2)

theorem inBalance_act {whole : Nat} (world : SoftwareGpuDriver × IdSource)
    (action : Action) (hbooks : InBalance whole world.1 world.2) :
    InBalance whole (act world action).2.1 (act world action).2.2 := by
  cases action with
  | call call => exact hbooks.call call
  | injectFault device address description =>
      have hsame : SamePool world.1
          (injectFault device address description world.1) :=
        ⟨rfl, modify_sameDevices world.1 device fun _ => rfl⟩
      apply hbooks.kept _ hsame.ledger_eq
      exact Keyed.of_sameInfos hbooks.sound
        (modify_sameDevices world.1 device fun _ => rfl)

theorem inBalance_withDevices (count vramBytesPerDevice : Nat)
    (ids : IdSource) :
    InBalance vramBytesPerDevice
      (withDevices count vramBytesPerDevice ids).1
      (withDevices count vramBytesPerDevice ids).2 where
  sound := keyed_withDevices count vramBytesPerDevice ids
  balanced :=
    { sum := by
        intro device left hleft
        obtain ⟨found, hfound, rfl⟩ := remaining_eq_some hleft
        obtain ⟨_, _, _, rfl⟩ := deviceTable_get ids _ count hfound
        rfl
      pooled := by
        intro name allocation hlive
        cases hlive }
  issued := by
    intro name allocation hlive
    cases hlive

theorem inBalance_run (count vramBytesPerDevice : Nat) (ids : IdSource)
    (actions : List Action) :
    let last := Machine.run act (withDevices count vramBytesPerDevice ids)
      actions
    InBalance vramBytesPerDevice last.1 last.2 :=
  Machine.run_invariant
    (fun world : SoftwareGpuDriver × IdSource =>
      InBalance vramBytesPerDevice world.1 world.2)
    (inBalance_withDevices count vramBytesPerDevice ids) inBalance_act actions

end SoftwareGpuDriver

/-! ### The Vulkan driver -/

namespace VulkanTables

variable {tables after : VulkanTables} {device : ObjectId} {left : Nat}

/-- The pools are a table of their own. -/
def ledger (tables : VulkanTables) : VramLedger where
  remaining := tables.vramAvailable.get
  live := tables.allocations

/-- The driver has a pool for each of its devices and for no other. -/
def Pooled (tables : VulkanTables) : Prop :=
  ∀ device, tables.Knows device ↔
    ∃ left, tables.vramAvailable.get device = some left

/-- The two have the same devices, pools and allocations. -/
structure SameBooks (tables after : VulkanTables) : Prop where
  devices : after.devices = tables.devices
  ledger : after.ledger = tables.ledger

theorem SameBooks.pooled (hsame : SameBooks tables after)
    (hpooled : tables.Pooled) : after.Pooled := by
  intro device
  have hpools : after.vramAvailable.get = tables.vramAvailable.get :=
    congrArg Ledger.remaining hsame.ledger
  rw [Knows, hsame.devices, hpools]
  exact hpooled device

/-- The second differs from the first at most in its faults. -/
def OnlyFaults (tables after : VulkanTables) : Prop :=
  after = { tables with faults := after.faults }

theorem OnlyFaults.refl (tables : VulkanTables) : OnlyFaults tables tables :=
  rfl

theorem OnlyFaults.sameBooks (honly : OnlyFaults tables after) :
    SameBooks tables after := by
  rw [honly]
  exact ⟨rfl, rfl⟩

theorem recordFault_onlyFaults (tables : VulkanTables) (device : ObjectId)
    (description : String) :
    OnlyFaults tables (tables.recordFault device description) := by
  by_cases hknown : tables.Knows device
  · rw [recordFault_of_known hknown]
    rfl
  · rw [recordFault_of_unknown hknown]
    exact .refl tables

theorem afterSubmit_onlyFaults (tables : VulkanTables) (device : ObjectId)
    (response : Response) :
    OnlyFaults tables (tables.afterSubmit device response) := by
  rw [afterSubmit]
  cases response.lossRecorded with
  | none => exact .refl tables
  | some description => exact recordFault_onlyFaults tables device description

theorem afterReset_onlyFaults (tables : VulkanTables) (device : ObjectId)
    (response : Response) :
    OnlyFaults tables (tables.afterReset device response) := by
  rw [afterReset]
  by_cases hok : response = .answered (.ok ())
  · rw [if_pos hok]
    rfl
  · rw [if_neg hok]
    exact .refl tables

theorem afterAllocate_ledger (tables : VulkanTables)
    (hpool : tables.vramAvailable.get device = some left)
    {allocation : GpuAllocation} (howner : allocation.device = device) :
    (tables.afterAllocate left allocation).ledger =
      tables.ledger.debit allocation := by
  subst howner
  rw [ledger, VramLedger.debit, Ledger.debit, afterAllocate]
  have hremaining : tables.ledger.remaining allocation.device = some left :=
    hpool
  rw [hremaining]
  congr 1
  exact Table.get_insert_update _ _ _

theorem afterFree_ledger (tables : VulkanTables)
    {allocation : GpuAllocation}
    (hpool : tables.vramAvailable.get allocation.device = some left)
    (name : ObjectId) :
    (tables.afterFree left allocation name).ledger =
      tables.ledger.credit name allocation := by
  rw [ledger, VramLedger.credit, Ledger.credit, afterFree]
  have hremaining : tables.ledger.remaining allocation.device = some left :=
    hpool
  rw [hremaining]
  congr 1
  exact Table.get_insert_update _ _ _

/-- Changing the pool of one device leaves the set of pools as it is. -/
theorem Pooled.insert (hpooled : tables.Pooled)
    (hpool : tables.vramAvailable.get device = some left)
    (hdevices : after.devices = tables.devices) {other : Nat}
    (hpools : after.vramAvailable =
      tables.vramAvailable.insert device other) : after.Pooled := by
  intro name
  rw [Knows, hdevices, hpools, Table.get_insert]
  by_cases heq : name = device
  · subst heq
    rw [if_pos rfl]
    exact iff_of_true ((hpooled name).mpr ⟨left, hpool⟩) ⟨other, rfl⟩
  · rw [if_neg heq]
    exact hpooled name

theorem mem_iff_knows (tables : VulkanTables) (device : ObjectId) :
    tables.Knows device ↔ ∃ info ∈ tables.devices, info.id = device := by
  rw [Knows, ← Option.isSome_iff_exists, List.find?_isSome]
  simp

/-- Inserting the value for one device after another. -/
theorem foldl_insert_get (value : Nat) (devices : List DeviceInfo)
    (table : Table ObjectId Nat) (device : ObjectId) :
    (devices.foldl (fun table info => table.insert info.id value) table).get
        device =
      if ∃ info ∈ devices, info.id = device then some value
      else table.get device := by
  induction devices generalizing table with
  | nil => simp
  | cons info rest ih =>
      rw [List.foldl_cons, ih, Table.get_insert]
      by_cases hrest : ∃ other ∈ rest, other.id = device
      · obtain ⟨other, hmem, hid⟩ := hrest
        rw [if_pos ⟨other, hmem, hid⟩,
          if_pos ⟨other, List.mem_cons_of_mem info hmem, hid⟩]
      · by_cases hinfo : device = info.id
        · rw [if_neg hrest, if_pos hinfo,
            if_pos ⟨info, List.mem_cons_self, hinfo.symm⟩]
        · rw [if_neg hrest, if_neg hinfo, if_neg]
          rintro ⟨other, hmem, hid⟩
          rcases List.mem_cons.mp hmem with rfl | hmem
          · exact hinfo hid.symm
          · exact hrest ⟨other, hmem, hid⟩

theorem perDevice_get (value : Nat) (devices : List DeviceInfo)
    (device : ObjectId) :
    (perDevice value devices).get device =
      if ∃ info ∈ devices, info.id = device then some value else none := by
  rw [perDevice, foldl_insert_get, Table.get_empty]

/-- A new driver starts with one full pool for each adapter. -/
theorem new_remaining {adapters : List BackendAdapterInfo} {vramBytes : Nat}
    {ids : IdSource}
    (hleft : (new adapters vramBytes ids).vramAvailable.get device =
      some left) : left = vramBytes := by
  rw [new, perDevice_get] at hleft
  by_cases hmem : ∃ info ∈ deviceInfos ids adapters, info.id = device
  · rw [if_pos hmem] at hleft
    exact (Option.some.inj hleft).symm
  · rw [if_neg hmem] at hleft
    cases hleft

theorem new_pooled (adapters : List BackendAdapterInfo) (vramBytes : Nat)
    (ids : IdSource) : (new adapters vramBytes ids).Pooled := by
  intro device
  rw [mem_iff_knows, new, perDevice_get]
  by_cases hmem : ∃ info ∈ deviceInfos ids adapters, info.id = device
  · rw [if_pos hmem]
    exact iff_of_true hmem ⟨vramBytes, rfl⟩
  · rw [if_neg hmem]
    exact iff_of_false hmem (by simp)

end VulkanTables

namespace VulkanDriver

variable {B : Type} [VulkanBackend B]

/-- A submit and a reset change no more than faults and the thread. -/
theorem submit_onlyFaults (driver : VulkanDriver B)
    (device : ObjectId) (workload : WorkloadClass) (ops : List DriverOp) :
    VulkanTables.OnlyFaults driver.tables
      (submit device workload ops driver).2.tables := by
  by_cases hknown : driver.tables.Knows device
  · cases hfault : driver.tables.faults.get device with
    | some fault =>
        rw [submit_of_faulted hknown hfault]
        exact .refl driver.tables
    | none =>
        rw [submit_of_clear hknown hfault rfl]
        exact VulkanTables.afterSubmit_onlyFaults driver.tables device _
  · rw [submit_of_unknown hknown]
    exact .refl driver.tables

theorem resetDevice_onlyFaults (driver : VulkanDriver B) (device : ObjectId) :
    VulkanTables.OnlyFaults driver.tables
      (resetDevice device driver).2.tables := by
  by_cases hknown : driver.tables.Knows device
  · rw [resetDevice_of_known hknown rfl]
    exact VulkanTables.afterReset_onlyFaults driver.tables device _
  · rw [resetDevice_of_unknown hknown]
    exact .refl driver.tables

/-- A call that moves no VRAM changes no table but the faults. -/
theorem call_onlyFaults (world : VulkanDriver B × IdSource)
    (call : DriverCall) (hkept : ¬ call.MovesVram) :
    VulkanTables.OnlyFaults world.1.tables
      (GpuDriver.call world call).2.1.tables := by
  obtain ⟨driver, ids⟩ := world
  cases call with
  | initializeDevice info =>
      change VulkanTables.OnlyFaults driver.tables
        (VulkanTables.initializeDevice info driver.tables).2
      rw [VulkanTables.initializeDevice_unchanged]
      exact .refl driver.tables
  | allocateVram _ _ _ => exact absurd trivial hkept
  | freeVram _ => exact absurd trivial hkept
  | mapDma name =>
      change VulkanTables.OnlyFaults driver.tables
        (VulkanTables.mapDma name driver.tables).2
      rw [VulkanTables.mapDma_unchanged]
      exact .refl driver.tables
  | submit device workload ops =>
      exact submit_onlyFaults driver device workload ops
  | resetDevice device => exact resetDevice_onlyFaults driver device
  | markFaulted device description =>
      exact VulkanTables.recordFault_onlyFaults driver.tables device
        description

theorem call_sameBooks (world : VulkanDriver B × IdSource)
    (call : DriverCall) (hkept : ¬ call.MovesVram) :
    VulkanTables.SameBooks world.1.tables
      (GpuDriver.call world call).2.1.tables :=
  (call_onlyFaults world call hkept).sameBooks

theorem call_ids (world : VulkanDriver B × IdSource) (call : DriverCall)
    (hkept : ¬ call.MovesVram) : (GpuDriver.call world call).2.2 = world.2 := by
  cases call with
  | allocateVram _ _ _ => exact absurd trivial hkept
  | _ => rfl

theorem call_pooled (world : VulkanDriver B × IdSource) (call : DriverCall)
    (hpooled : world.1.tables.Pooled) :
    (GpuDriver.call world call).2.1.tables.Pooled := by
  by_cases hmoves : call.MovesVram
  · obtain ⟨driver, ids⟩ := world
    cases call with
    | allocateVram device size memoryClass =>
        change (VulkanTables.allocateVram device size memoryClass
          (driver.tables, ids)).2.1.Pooled
        rcases VulkanTables.allocateVram_cases driver.tables ids device size
            memoryClass with ⟨left, -, hpool, -, hrun⟩ | ⟨error, hrun⟩
        · rw [hrun]
          exact hpooled.insert hpool rfl rfl
        · rw [hrun]
          exact hpooled
    | freeVram name =>
        change (VulkanTables.freeVram name driver.tables).2.Pooled
        cases hlive : driver.tables.allocations.get name with
        | none =>
            rw [VulkanTables.freeVram_of_unknown hlive]
            exact hpooled
        | some allocation =>
            cases hpool : driver.tables.vramAvailable.get
                allocation.device with
            | none =>
                rw [VulkanTables.freeVram_of_unpooled hlive hpool]
                exact hpooled
            | some left =>
                rw [VulkanTables.freeVram_of_live hlive hpool]
                exact hpooled.insert hpool rfl rfl
    | initializeDevice _ => exact hmoves.elim
    | mapDma _ => exact hmoves.elim
    | submit _ _ _ => exact hmoves.elim
    | resetDevice _ => exact hmoves.elim
    | markFaulted _ _ => exact hmoves.elim
  · exact (call_sameBooks world call hmoves).pooled hpooled

instance : AccountsVram (VulkanDriver B) where
  ledger driver := driver.tables.ledger
  Sound driver := driver.tables.Pooled
  probed_iff := by
    intro driver device hpooled
    change _ ↔ ∃ left, driver.tables.vramAvailable.get device = some left
    rw [← hpooled device, VulkanTables.mem_iff_knows]
    constructor
    · rintro ⟨infos, info, hprobe, hmem, hid⟩
      cases hprobe
      exact ⟨info, hmem, hid⟩
    · rintro ⟨info, hmem, hid⟩
      exact ⟨_, info, rfl, hmem, hid⟩
  available _ _ := rfl
  allocates := by
    intro driver ids device size memoryClass left hpooled hleft hfits
    have hknown := (hpooled device).mpr ⟨left, hleft⟩
    let granted := driver.tables.grantedAllocation ids device size memoryClass
    have hrun : VulkanTables.allocateVram device size memoryClass
        (driver.tables, ids) =
          (.ok granted, driver.tables.afterAllocate left granted,
            ids.advance 1) :=
      VulkanTables.allocateVram_of_fits hknown hleft hfits memoryClass
    refine ⟨granted.deviceAddress,
      { driver with tables := driver.tables.afterAllocate left granted }, ?_,
      VulkanTables.afterAllocate_ledger driver.tables hleft rfl⟩
    change allocateVram device size memoryClass (driver, ids) = _
    rw [allocateVram, hrun]
    rfl
  refuses := by
    intro driver ids device size memoryClass hshort
    change ∃ error, allocateVram device size memoryClass (driver, ids) = _
    rw [allocateVram]
    rcases VulkanTables.allocateVram_cases driver.tables ids device size
        memoryClass with ⟨left, -, hpool, hfits, -⟩ | ⟨error, hrun⟩
    · have hlt := hshort left hpool
      omega
    · rw [hrun]
      exact ⟨error, rfl⟩
  frees := by
    intro driver name allocation left hlive hleft
    refine ⟨{ driver with
      tables := driver.tables.afterFree left allocation name }, ?_,
      VulkanTables.afterFree_ledger driver.tables hleft name⟩
    change onTables (VulkanTables.freeVram name) driver = _
    rw [onTables, VulkanTables.freeVram_of_live hlive hleft]
  unknown := by
    intro driver name hnone
    refine ⟨.memory "unknown allocation", ?_⟩
    change onTables (VulkanTables.freeVram name) driver = _
    rw [onTables, VulkanTables.freeVram_of_unknown hnone]
  keeps world call hkept :=
    ⟨(call_sameBooks world call hkept).ledger, call_ids world call hkept⟩
  sound := call_pooled

/-- The render thread has no part in the books. -/
theorem inBalance_of_tables {whole : Nat} {driver after : VulkanDriver B}
    {ids : IdSource} (hbooks : InBalance whole driver ids)
    (htables : after.tables = driver.tables) :
    InBalance whole after ids := by
  have hsound : after.tables.Pooled := by
    rw [htables]
    exact hbooks.sound
  exact hbooks.kept hsound (congrArg VulkanTables.ledger htables)

theorem inBalance_act {whole : Nat} (world : VulkanDriver B × IdSource)
    (action : Action) (hbooks : InBalance whole world.1 world.2) :
    InBalance whole (act world action).2.1 (act world action).2.2 := by
  cases action with
  | call call => exact hbooks.call call
  | threadStops =>
      exact inBalance_of_tables hbooks (stopThread_tables world.1)
  | channelCloses =>
      exact inBalance_of_tables hbooks (closeChannel_tables world.1)

theorem inBalance_start (adapters : List BackendAdapterInfo)
    (vramBytes : Nat) (ids : IdSource) (backend : B) :
    InBalance vramBytes (start adapters vramBytes ids backend)
      (ids.advance adapters.length) where
  sound := VulkanTables.new_pooled adapters vramBytes ids
  balanced :=
    { sum := fun _ _ hleft => VulkanTables.new_remaining hleft
      pooled := by
        intro name allocation hlive
        cases hlive }
  issued := by
    intro name allocation hlive
    cases hlive

theorem inBalance_run {backend : B} {vramBytes : Nat}
    {spawned : Except String Unit} {ids later : IdSource}
    {driver : VulkanDriver B}
    (hopened : withBackend backend vramBytes spawned ids =
      (.ok driver, later)) (actions : List Action) :
    let last := Machine.run act (driver, later) actions
    InBalance vramBytes last.1 last.2 := by
  obtain ⟨adapters, backend, rfl, rfl⟩ := withBackend_ok hopened
  exact Machine.run_invariant
    (fun world : VulkanDriver B × IdSource =>
      InBalance vramBytes world.1 world.2)
    (inBalance_start adapters vramBytes ids backend) inBalance_act actions

end VulkanDriver

/-- Both drivers conserve the VRAM of each device in every reachable state. -/
theorem vram_conserved {B : Type} [VulkanBackend B] (vramBytes : Nat)
    (ids : IdSource) :
    (∀ (count : Nat) (actions : List SoftwareGpuDriver.Action),
      let last := Machine.run SoftwareGpuDriver.act
        (SoftwareGpuDriver.withDevices count vramBytes ids) actions
      ConservesVram vramBytes last.1 last.2) ∧
    ∀ (backend : B) (spawned : Except String Unit) (driver : VulkanDriver B)
      (later : IdSource) (actions : List VulkanDriver.Action),
      VulkanDriver.withBackend backend vramBytes spawned ids =
          (.ok driver, later) →
        let last := Machine.run VulkanDriver.act (driver, later) actions
        ConservesVram vramBytes last.1 last.2 := by
  constructor
  · intro count actions
    exact (SoftwareGpuDriver.inBalance_run count vramBytes ids
      actions).conserves
  · intro backend spawned driver later actions hopened
    exact (VulkanDriver.inBalance_run hopened actions).conserves

namespace SharedPool

/-- Two adapters, and a backend that loses the first of them. -/
def backend : ScriptedBackend where
  adapters := [⟨"first", 1, 1⟩, ⟨"second", 1, 2⟩]
  script := [.returned (.error (.deviceLost "gone"))]

def driver : VulkanDriver ScriptedBackend :=
  .start backend.adapters 1024 .sequential backend

/-- 600 bytes are taken on GPU 0 and 100 on GPU 1, GPU 0 is lost, and its
allocation is freed. -/
def actions : List VulkanDriver.Action :=
  [.call (.allocateVram ⟨0⟩ 600 .deviceLocal),
    .call (.allocateVram ⟨1⟩ 100 .deviceLocal),
    .call (.submit ⟨0⟩ .graphics [.barrier]), .threadStops,
    .call (.freeVram ⟨2⟩)]

theorem two_devices_conserved :
    let last := Machine.run VulkanDriver.act
      (driver, IdSource.sequential.advance 2) actions
    GpuDriver.vramAvailable last.1 ⟨0⟩ = .ok 1024 ∧
      GpuDriver.vramAvailable last.1 ⟨1⟩ = .ok 924 ∧
      ConservesVram 1024 last.1 last.2 :=
  ⟨by decide, by decide,
    (vram_conserved 1024 .sequential).2 backend (.ok ()) driver _ actions rfl⟩

end SharedPool

end SherGraphics
