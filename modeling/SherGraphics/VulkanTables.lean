/-
The tables that `VulkanDriver` keeps on its own side of the command channel:
its devices, its allocations, a pool and an address counter for each device,
and the recorded faults.  None of the methods here asks the render thread.
-/
import SherGraphics.GpuAbstraction

namespace SherGraphics

/-- Adapter data reported by the backend. -/
structure BackendAdapterInfo where
  name : String
  vendorId : Nat
  deviceId : Nat
deriving DecidableEq, Repr

/-- The fields of `VulkanDriver` but the channel and the thread behind it.  The
registers are left out: no method of the driver trait touches them. -/
structure VulkanTables where
  devices : List DeviceInfo
  allocations : Table ObjectId GpuAllocation
  vramAvailable : Table ObjectId Nat
  nextAddress : Table ObjectId Nat
  faults : Table ObjectId GpuFault

namespace VulkanTables

/-- The devices of `with_backend`, one for each adapter. -/
def deviceInfos (ids : IdSource) : List BackendAdapterInfo → List DeviceInfo
  | [] => []
  | adapter :: rest =>
      { id := ids.next
        name := adapter.name
        vendorId := adapter.vendorId
        deviceId := adapter.deviceId
        capabilities := ["graphics", "compute", "transfer", "vulkan"] } ::
          deviceInfos (ids.advance 1) rest

/-- `devices.iter().map(|device| (device.id, value)).collect()`. -/
def perDevice (value : Nat) (devices : List DeviceInfo) :
    Table ObjectId Nat :=
  devices.foldl (fun table info => table.insert info.id value) Table.empty

/-- The tables of a new driver for the given adapters. -/
def new (adapters : List BackendAdapterInfo) (vramBytes : Nat)
    (ids : IdSource) : VulkanTables where
  devices := deviceInfos ids adapters
  allocations := Table.empty
  vramAvailable := perDevice vramBytes (deviceInfos ids adapters)
  nextAddress := perDevice 0 (deviceInfos ids adapters)
  faults := Table.empty

def knownDevice (device : ObjectId) : Method Error VulkanTables DeviceInfo := do
  let devices ← Method.read VulkanTables.devices
  Method.okOr (devices.find? fun info => info.id = device)
    (.device "unknown GPU device")

/-- A fault of an unknown device is not recorded. -/
def recordFault (device : ObjectId) (description : String)
    (tables : VulkanTables) : VulkanTables :=
  match (knownDevice device tables).1 with
  | .ok _ =>
      { tables with
        faults := tables.faults.insert device ⟨device, 0, description⟩ }
  | .error _ => tables

def probe (tables : VulkanTables) : Result (List DeviceInfo) :=
  .ok tables.devices

def initializeDevice (device : DeviceInfo) : Method Error VulkanTables Unit := do
  let _ ← knownDevice device.id
  pure ()

/-- Run a method of the tables next to the source of identifiers. -/
def besideIds {α : Type} (method : Method Error VulkanTables α) :
    Method Error (VulkanTables × IdSource) α :=
  fun world =>
    let (result, tables) := method world.1
    (result, tables, world.2)

/-- The address counter is a `u64`, and wraps. -/
def allocateVram (device : ObjectId) (size : Nat) (memoryClass : MemoryClass) :
    Method Error (VulkanTables × IdSource) GpuAllocation := do
  let _ ← besideIds (knownDevice device)
  let pools ← Method.read fun world => world.1.vramAvailable
  let available ← Method.okOr (pools.get device) (.device "unknown GPU device")
  Method.rejectIf (available < size) (.memory "insufficient VRAM")
  let addresses ← Method.read fun world => world.1.nextAddress
  let next := (addresses.get device).getD 0
  let ids ← Method.read Prod.snd
  let allocation : GpuAllocation :=
    { id := ids.next
      device := device
      memoryClass := memoryClass
      size := size
      deviceAddress := next }
  Method.change fun world => (world.1, world.2.advance 1)
  besideIds (Method.change fun tables =>
    { tables with
      nextAddress := tables.nextAddress.insert device ((next + size) % 2 ^ 64)
      vramAvailable := tables.vramAvailable.insert device (available - size)
      allocations := tables.allocations.insert allocation.id allocation })
  pure allocation

def freeVram (allocation : ObjectId) : Method Error VulkanTables Unit := do
  let allocations ← Method.read VulkanTables.allocations
  let found ← Method.okOr (allocations.get allocation)
    (.memory "unknown allocation")
  Method.change fun tables =>
    { tables with allocations := tables.allocations.erase allocation }
  let pools ← Method.read VulkanTables.vramAvailable
  let available ← Method.okOr (pools.get found.device)
    (.device "unknown GPU device")
  Method.change fun tables =>
    { tables with
      vramAvailable :=
        tables.vramAvailable.insert found.device (available + found.size) }

def mapDma (allocation : ObjectId) : Method Error VulkanTables DmaMapping := do
  let allocations ← Method.read VulkanTables.allocations
  let found ← Method.okOr (allocations.get allocation)
    (.memory "unknown allocation")
  pure ⟨found.id, found.deviceAddress, found.size⟩

def faultStatus (tables : VulkanTables) (device : ObjectId) :
    Result (Option GpuFault) :=
  ((knownDevice device tables).1).map fun _ => tables.faults.get device

def available (tables : VulkanTables) (device : ObjectId) : Result Nat :=
  match tables.vramAvailable.get device with
  | some available => .ok available
  | none => .error (.device "unknown GPU device")

/-! ### What each method does -/

/-- The device is one of the driver's. -/
def Knows (tables : VulkanTables) (device : ObjectId) : Prop :=
  ∃ info, tables.devices.find? (fun info => info.id = device) = some info

theorem length_deviceInfos (adapters : List BackendAdapterInfo)
    (ids : IdSource) : (deviceInfos ids adapters).length = adapters.length := by
  induction adapters generalizing ids with
  | nil => rfl
  | cons adapter rest ih => exact congrArg (· + 1) (ih (ids.advance 1))

/-- The devices carry the identifiers drawn for them. -/
theorem mem_deviceInfos (adapters : List BackendAdapterInfo) (ids : IdSource)
    (device : ObjectId) :
    (∃ info ∈ deviceInfos ids adapters, info.id = device) ↔
      ∃ index < adapters.length, device = ids.draw (ids.drawn + index) := by
  induction adapters generalizing ids with
  | nil => simp [deviceInfos]
  | cons adapter rest ih =>
      constructor
      · rintro ⟨info, hmem, rfl⟩
        rcases List.mem_cons.mp hmem with rfl | hrest
        · exact ⟨0, by simp, rfl⟩
        · obtain ⟨index, hlt, hid⟩ := (ih _).mp ⟨info, hrest, rfl⟩
          rw [ids.draw_advance] at hid
          exact ⟨1 + index, by simp; omega, hid⟩
      · rintro ⟨index, hlt, rfl⟩
        rcases Nat.eq_zero_or_pos index with rfl | hpos
        · exact ⟨_, List.mem_cons_self, rfl⟩
        · have hlater : index - 1 < rest.length := by
            simp at hlt
            omega
          have hdraw := ids.draw_advance 1 (index - 1)
          rw [show 1 + (index - 1) = index by omega] at hdraw
          obtain ⟨info, hmem, hid⟩ := (ih (ids.advance 1)).mpr
            ⟨index - 1, hlater, hdraw.symm⟩
          exact ⟨info, List.mem_cons_of_mem _ hmem, hid⟩

section Methods

variable {tables : VulkanTables} {ids : IdSource} {device : ObjectId}

theorem knownDevice_of_known {info : DeviceInfo}
    (hknown : tables.devices.find? (fun info => info.id = device) =
      some info) : knownDevice device tables = (.ok info, tables) := by
  rw [knownDevice, Method.read_bind, hknown]
  rfl

theorem knownDevice_of_unknown (hunknown : ¬ tables.Knows device) :
    knownDevice device tables =
      (.error (.device "unknown GPU device"), tables) := by
  rw [knownDevice, Method.read_bind]
  cases hfind : tables.devices.find? (fun info => info.id = device) with
  | none => rfl
  | some info => exact absurd ⟨info, hfind⟩ hunknown

theorem recordFault_of_known (hknown : tables.Knows device)
    (description : String) :
    recordFault device description tables =
      { tables with
        faults := tables.faults.insert device ⟨device, 0, description⟩ } := by
  obtain ⟨info, hfind⟩ := hknown
  rw [recordFault, knownDevice_of_known hfind]

theorem recordFault_of_unknown (hunknown : ¬ tables.Knows device)
    (description : String) : recordFault device description tables = tables := by
  rw [recordFault, knownDevice_of_unknown hunknown]

theorem faultStatus_of_known (hknown : tables.Knows device) :
    faultStatus tables device = .ok (tables.faults.get device) := by
  obtain ⟨info, hfind⟩ := hknown
  rw [faultStatus, knownDevice_of_known hfind]
  rfl

theorem faultStatus_of_unknown (hunknown : ¬ tables.Knows device) :
    faultStatus tables device = .error (.device "unknown GPU device") := by
  rw [faultStatus, knownDevice_of_unknown hunknown]
  rfl

theorem initializeDevice_of_known {info : DeviceInfo}
    (hknown : tables.Knows info.id) :
    initializeDevice info tables = (.ok (), tables) := by
  obtain ⟨found, hfind⟩ := hknown
  rw [initializeDevice, Method.bind_of_ok (knownDevice_of_known hfind)]
  rfl

theorem initializeDevice_of_unknown {info : DeviceInfo}
    (hunknown : ¬ tables.Knows info.id) :
    initializeDevice info tables =
      (.error (.device "unknown GPU device"), tables) := by
  rw [initializeDevice, Method.bind_of_error (knownDevice_of_unknown hunknown)]

theorem initializeDevice_unchanged (info : DeviceInfo) :
    (initializeDevice info tables).2 = tables := by
  by_cases hknown : tables.Knows info.id
  · rw [initializeDevice_of_known hknown]
  · rw [initializeDevice_of_unknown hknown]

theorem mapDma_unchanged (name : ObjectId) :
    (mapDma name tables).2 = tables := by
  rw [mapDma, Method.read_bind]
  cases tables.allocations.get name with
  | none => rfl
  | some allocation => rfl

/-- The allocation that a successful `allocate_vram` returns. -/
def grantedAllocation (tables : VulkanTables) (ids : IdSource)
    (device : ObjectId) (size : Nat) (memoryClass : MemoryClass) :
    GpuAllocation :=
  ⟨ids.next, device, memoryClass, size,
    (tables.nextAddress.get device).getD 0⟩

/-- The tables after a successful `allocate_vram`. -/
def afterAllocate (tables : VulkanTables) (available : Nat)
    (allocation : GpuAllocation) : VulkanTables :=
  { tables with
    nextAddress := tables.nextAddress.insert allocation.device
      ((allocation.deviceAddress + allocation.size) % 2 ^ 64)
    vramAvailable := tables.vramAvailable.insert allocation.device
      (available - allocation.size)
    allocations := tables.allocations.insert allocation.id allocation }

/-- The tables after a successful `free_vram`. -/
def afterFree (tables : VulkanTables) (available : Nat)
    (allocation : GpuAllocation) (name : ObjectId) : VulkanTables :=
  { tables with
    allocations := tables.allocations.erase name
    vramAvailable := tables.vramAvailable.insert allocation.device
      (available + allocation.size) }

theorem allocateVram_of_fits {available size : Nat}
    (hknown : tables.Knows device)
    (hpool : tables.vramAvailable.get device = some available)
    (hfits : size ≤ available) (memoryClass : MemoryClass) :
    allocateVram device size memoryClass (tables, ids) =
      (.ok (grantedAllocation tables ids device size memoryClass),
        tables.afterAllocate available
          (grantedAllocation tables ids device size memoryClass),
        ids.advance 1) := by
  obtain ⟨info, hfind⟩ := hknown
  have hlookup : besideIds (knownDevice device) (tables, ids) =
      (.ok info, tables, ids) := by
    rw [besideIds, knownDevice_of_known hfind]
  rw [allocateVram, Method.bind_of_ok hlookup, Method.read_bind, hpool,
    Method.okOr_some_bind,
    Method.rejectIf_bind_of_neg _ _ _ (Nat.not_lt.mpr hfits)]
  rfl

theorem allocateVram_of_short {available size : Nat}
    (hknown : tables.Knows device)
    (hpool : tables.vramAvailable.get device = some available)
    (hshort : available < size) (memoryClass : MemoryClass) :
    allocateVram device size memoryClass (tables, ids) =
      (.error (.memory "insufficient VRAM"), tables, ids) := by
  obtain ⟨info, hfind⟩ := hknown
  have hlookup : besideIds (knownDevice device) (tables, ids) =
      (.ok info, tables, ids) := by
    rw [besideIds, knownDevice_of_known hfind]
  rw [allocateVram, Method.bind_of_ok hlookup, Method.read_bind, hpool,
    Method.okOr_some_bind, Method.rejectIf_bind_of_pos _ _ _ hshort]

theorem allocateVram_of_unpooled (hpool : tables.vramAvailable.get device = none)
    (size : Nat) (memoryClass : MemoryClass) :
    allocateVram device size memoryClass (tables, ids) =
      (.error (.device "unknown GPU device"), tables, ids) := by
  rw [allocateVram]
  by_cases hknown : tables.Knows device
  · obtain ⟨info, hfind⟩ := hknown
    have hlookup : besideIds (knownDevice device) (tables, ids) =
        (.ok info, tables, ids) := by
      rw [besideIds, knownDevice_of_known hfind]
    rw [Method.bind_of_ok hlookup, Method.read_bind, hpool,
      Method.okOr_none_bind]
  · apply Method.bind_of_error
    rw [besideIds, knownDevice_of_unknown hknown]

theorem allocateVram_of_unknown (hunknown : ¬ tables.Knows device)
    (size : Nat) (memoryClass : MemoryClass) :
    allocateVram device size memoryClass (tables, ids) =
      (.error (.device "unknown GPU device"), tables, ids) := by
  rw [allocateVram]
  apply Method.bind_of_error
  rw [besideIds, knownDevice_of_unknown hunknown]

/-- An allocation succeeds only on a known device whose pool has room for it;
a refused one changes nothing and draws no identifier. -/
theorem allocateVram_cases (tables : VulkanTables) (ids : IdSource)
    (device : ObjectId) (size : Nat) (memoryClass : MemoryClass) :
    (∃ available, tables.Knows device ∧
        tables.vramAvailable.get device = some available ∧
        size ≤ available ∧
        allocateVram device size memoryClass (tables, ids) =
          (.ok (grantedAllocation tables ids device size memoryClass),
            tables.afterAllocate available
              (grantedAllocation tables ids device size memoryClass),
            ids.advance 1)) ∨
      ∃ error, allocateVram device size memoryClass (tables, ids) =
        (.error error, tables, ids) := by
  by_cases hknown : tables.Knows device
  · cases hpool : tables.vramAvailable.get device with
    | none =>
        exact Or.inr ⟨_, allocateVram_of_unpooled hpool size memoryClass⟩
    | some available =>
        rcases Nat.lt_or_ge available size with hshort | hfits
        · exact Or.inr ⟨_, allocateVram_of_short hknown hpool hshort
            memoryClass⟩
        · exact Or.inl ⟨available, hknown, rfl, hfits,
            allocateVram_of_fits hknown hpool hfits memoryClass⟩
  · exact Or.inr ⟨_, allocateVram_of_unknown hknown size memoryClass⟩

theorem freeVram_of_unknown {name : ObjectId}
    (hunknown : tables.allocations.get name = none) :
    freeVram name tables =
      (.error (.memory "unknown allocation"), tables) := by
  rw [freeVram, Method.read_bind, hunknown, Method.okOr_none_bind]

/-- The allocation is removed before the owner is looked up. -/
theorem freeVram_of_unpooled {name : ObjectId} {allocation : GpuAllocation}
    (hlive : tables.allocations.get name = some allocation)
    (hpool : tables.vramAvailable.get allocation.device = none) :
    freeVram name tables =
      (.error (.device "unknown GPU device"),
        { tables with allocations := tables.allocations.erase name }) := by
  rw [freeVram, Method.read_bind, hlive, Method.okOr_some_bind,
    Method.change_bind, Method.read_bind, hpool, Method.okOr_none_bind]

theorem freeVram_of_live {name : ObjectId} {allocation : GpuAllocation}
    {available : Nat} (hlive : tables.allocations.get name = some allocation)
    (hpool : tables.vramAvailable.get allocation.device = some available) :
    freeVram name tables =
      (.ok (), tables.afterFree available allocation name) := by
  rw [freeVram, Method.read_bind, hlive, Method.okOr_some_bind,
    Method.change_bind, Method.read_bind, hpool, Method.okOr_some_bind]
  rfl

end Methods

end VulkanTables

end SherGraphics
