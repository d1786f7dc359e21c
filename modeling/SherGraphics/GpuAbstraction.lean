/-
The driver layer of `gpu_abstraction`: the `GpuDriver` trait and the
hardware-independent `SoftwareGpuDriver`.  A driver keeps its own tables of
devices and allocations; the runtime sees them through the trait alone.
-/
import SherGraphics.GraphicsApi

namespace SherGraphics

structure GpuAllocation where
  id : ObjectId
  device : ObjectId
  memoryClass : MemoryClass
  size : Nat
  deviceAddress : Nat
deriving DecidableEq, Repr

structure DmaMapping where
  allocation : ObjectId
  iova : Nat
  size : Nat
deriving DecidableEq, Repr

structure GpuFault where
  device : ObjectId
  address : Nat
  description : String
deriving DecidableEq, Repr

/-- A single driver-facing command, narrower than `GraphicsOp`. -/
inductive DriverOp where
  | draw (vertexCount instanceCount : UInt32)
  | dispatch (x y z : UInt32)
  | copy (src dst : ObjectId)
  | barrier
deriving DecidableEq, Repr

/-- The payload of a Rust panic, as far as `panic_message` inspects it. -/
inductive PanicPayload where
  | str (message : String)
  | string (message : String)
  | opaqueValue
deriving DecidableEq, Repr

/-- How a driver call that may panic ends. -/
inductive Outcome where
  | returned (result : Result Unit)
  | panicked (payload : PanicPayload)
deriving DecidableEq, Repr

/-- The driver trait.  `allocateVram` is the one method that hands out an
identifier it has just drawn, so it is the one that runs on the source of
identifiers too; the last field says that it only ever draws forward. -/
class GpuDriver (D : Type) where
  probe : D → Result (List DeviceInfo)
  initializeDevice : DeviceInfo → Method Error D Unit
  allocateVram : ObjectId → Nat → MemoryClass →
    Method Error (D × IdSource) GpuAllocation
  freeVram : ObjectId → Method Error D Unit
  mapDma : ObjectId → Method Error D DmaMapping
  submit : ObjectId → WorkloadClass → List DriverOp → D → Outcome × D
  faultStatus : D → ObjectId → Result (Option GpuFault)
  vramAvailable : D → ObjectId → Result Nat
  resetDevice : ObjectId → Method Error D Unit
  markFaulted : ObjectId → String → D → D
  allocateVram_advances : ∀ device size memoryClass driver
    (ids : IdSource),
    ids.Advances (allocateVram device size memoryClass (driver, ids)).2.2

/-- A successful allocation is named by an identifier that it has drawn. -/
class FreshAllocations (D : Type) [GpuDriver D] : Prop where
  fresh : ∀ (gpu : ObjectId) (size : Nat) (memoryClass : MemoryClass)
    (driver after : D) (ids later : IdSource) (allocation : GpuAllocation),
    GpuDriver.allocateVram gpu size memoryClass (driver, ids) =
        (.ok allocation, after, later) →
      ¬ ids.Issued allocation.id ∧ later.Issued allocation.id

/-- A call of a driver method that may change the driver. -/
inductive DriverCall where
  | initializeDevice (device : DeviceInfo)
  | allocateVram (device : ObjectId) (size : Nat) (memoryClass : MemoryClass)
  | freeVram (allocation : ObjectId)
  | mapDma (allocation : ObjectId)
  | submit (device : ObjectId) (workload : WorkloadClass)
      (ops : List DriverOp)
  | resetDevice (device : ObjectId)
  | markFaulted (device : ObjectId) (description : String)
deriving DecidableEq, Repr

/-- What a driver call returns. -/
inductive DriverReply where
  | done (result : Result Unit)
  | allocation (result : Result GpuAllocation)
  | mapping (result : Result DmaMapping)
  | outcome (outcome : Outcome)
  | marked
deriving DecidableEq, Repr

/-- A driver as a machine: one call on it, next to the source of
identifiers. -/
def GpuDriver.call {D : Type} [GpuDriver D] (world : D × IdSource) :
    DriverCall → DriverReply × (D × IdSource)
  | .initializeDevice device =>
      let (result, driver) := initializeDevice device world.1
      (.done result, driver, world.2)
  | .allocateVram device size memoryClass =>
      let (result, world) := allocateVram device size memoryClass world
      (.allocation result, world)
  | .freeVram allocation =>
      let (result, driver) := freeVram allocation world.1
      (.done result, driver, world.2)
  | .mapDma allocation =>
      let (result, driver) := mapDma allocation world.1
      (.mapping result, driver, world.2)
  | .submit device workload ops =>
      let (outcome, driver) := submit device workload ops world.1
      (.outcome outcome, driver, world.2)
  | .resetDevice device =>
      let (result, driver) := resetDevice device world.1
      (.done result, driver, world.2)
  | .markFaulted device description =>
      (.marked, markFaulted device description world.1, world.2)

structure DeviceState where
  info : DeviceInfo
  initialized : Bool
  vramTotal : Nat
  vramAvailable : Nat
  fault : Option GpuFault
deriving DecidableEq, Repr

/-- Reference, hardware-independent implementation. -/
structure SoftwareGpuDriver where
  devices : Table ObjectId DeviceState
  allocations : Table ObjectId GpuAllocation

namespace SoftwareGpuDriver

/-- The device that `with_devices` builds in its `index`-th iteration. -/
def syntheticDevice (id : ObjectId) (index vramBytesPerDevice : Nat) :
    DeviceState where
  info :=
    { id
      name := "SHER Software GPU " ++ toString index
      vendorId := 0
      deviceId := 0
      capabilities := ["graphics", "compute", "transfer"] }
  initialized := false
  vramTotal := vramBytesPerDevice
  vramAvailable := vramBytesPerDevice
  fault := none

/-- The device table of `with_devices`, one iteration after another. -/
def deviceTable (ids : IdSource) (vramBytesPerDevice : Nat) :
    Nat → Table ObjectId DeviceState
  | 0 => Table.empty
  | index + 1 =>
      let id := ids.draw (ids.drawn + index)
      (deviceTable ids vramBytesPerDevice index).insert id
        (syntheticDevice id index vramBytesPerDevice)

/-- `count` independent devices, each with its own pool.  The second component
is the source of identifiers after the `count` draws. -/
def withDevices (count vramBytesPerDevice : Nat) (ids : IdSource) :
    SoftwareGpuDriver × IdSource :=
  (⟨deviceTable ids vramBytesPerDevice count, Table.empty⟩,
    ids.advance count)

def injectFault (device : ObjectId) (address : Nat) (description : String)
    (driver : SoftwareGpuDriver) : SoftwareGpuDriver :=
  { driver with
    devices := driver.devices.modify device fun state =>
      { state with fault := some ⟨device, address, description⟩ } }

/-- `state` and `state_mut`: look a device up, or fail. -/
def state (device : ObjectId) : Method Error SoftwareGpuDriver DeviceState := do
  let driver ← Method.read id
  Method.okOr (driver.devices.get device) (.device "unknown GPU device")

/-- Change the state of one device in place. -/
def updateState (device : ObjectId) (update : DeviceState → DeviceState) :
    Method Error SoftwareGpuDriver Unit := do
  let _ ← state device
  Method.change fun driver =>
    { driver with devices := driver.devices.modify device update }

def probe (driver : SoftwareGpuDriver) : Result (List DeviceInfo) :=
  .ok (driver.devices.values.map DeviceState.info)

def initializeDevice (device : DeviceInfo) : Method Error SoftwareGpuDriver Unit :=
  updateState device.id fun state => { state with initialized := true }

/-- Run a method of the driver next to the source of identifiers. -/
def besideIds {α : Type} (method : Method Error SoftwareGpuDriver α) :
    Method Error (SoftwareGpuDriver × IdSource) α :=
  fun world =>
    let (result, driver) := method world.1
    (result, driver, world.2)

/-- The address of a new allocation is the number of bytes in use. -/
def allocateVram (device : ObjectId) (size : Nat) (memoryClass : MemoryClass) :
    Method Error (SoftwareGpuDriver × IdSource) GpuAllocation := do
  let found ← besideIds (state device)
  Method.rejectIf (found.vramAvailable < size) (.memory "insufficient VRAM")
  let ids ← Method.read Prod.snd
  let allocation : GpuAllocation :=
    { id := ids.next
      device := device
      memoryClass := memoryClass
      size := size
      deviceAddress := found.vramTotal - found.vramAvailable }
  Method.change fun world => (world.1, world.2.advance 1)
  besideIds (updateState device fun state =>
    { state with vramAvailable := state.vramAvailable - size })
  besideIds (Method.change fun driver =>
    { driver with
      allocations := driver.allocations.insert allocation.id allocation })
  pure allocation

def freeVram (allocation : ObjectId) : Method Error SoftwareGpuDriver Unit := do
  let driver ← Method.read id
  let found ← Method.okOr (driver.allocations.get allocation)
    (.memory "unknown allocation")
  Method.change fun driver =>
    { driver with allocations := driver.allocations.erase allocation }
  updateState found.device fun state =>
    { state with vramAvailable := state.vramAvailable + found.size }

def mapDma (allocation : ObjectId) :
    Method Error SoftwareGpuDriver DmaMapping := do
  let driver ← Method.read id
  let found ← Method.okOr (driver.allocations.get allocation)
    (.memory "unknown allocation")
  pure ⟨found.id, found.deviceAddress, found.size⟩

/-- The text `{:#x}` prints. -/
def hex (value : Nat) : String :=
  "0x" ++ String.ofList (Nat.toDigits 16 value)

/-- Reference driver: refuse on a recorded fault, otherwise accept. -/
def accept (device : ObjectId) : Method Error SoftwareGpuDriver Unit := do
  let found ← state device
  match found.fault with
  | some fault =>
      Method.fail (.device ("device faulted at " ++ hex fault.address ++
        ": " ++ fault.description))
  | none => pure ()

/-- The class and the operations are not looked at. -/
def submit (device : ObjectId) (_class : WorkloadClass)
    (_ops : List DriverOp) (driver : SoftwareGpuDriver) :
    Outcome × SoftwareGpuDriver :=
  let (result, driver) := accept device driver
  (.returned result, driver)

def faultStatus (driver : SoftwareGpuDriver) (device : ObjectId) :
    Result (Option GpuFault) :=
  ((state device driver).1).map DeviceState.fault

def vramAvailable (driver : SoftwareGpuDriver) (device : ObjectId) :
    Result Nat :=
  ((state device driver).1).map DeviceState.vramAvailable

def resetDevice (device : ObjectId) : Method Error SoftwareGpuDriver Unit :=
  updateState device fun state => { state with fault := none }

def markFaulted (device : ObjectId) (description : String)
    (driver : SoftwareGpuDriver) : SoftwareGpuDriver :=
  injectFault device 0 description driver

/-! ### What each method does -/

section Methods

variable {driver : SoftwareGpuDriver} {ids : IdSource} {device : ObjectId}

theorem state_of_known {found : DeviceState}
    (hfound : driver.devices.get device = some found) :
    state device driver = (.ok found, driver) := by
  rw [state, Method.bind_run, Method.read_run]
  simp [hfound]

theorem state_of_unknown (hunknown : driver.devices.get device = none) :
    state device driver = (.error (.device "unknown GPU device"), driver) := by
  rw [state, Method.bind_run, Method.read_run]
  simp [hunknown]

theorem updateState_of_known {found : DeviceState}
    (hfound : driver.devices.get device = some found)
    (update : DeviceState → DeviceState) :
    updateState device update driver =
      (.ok (),
        { driver with devices := driver.devices.modify device update }) := by
  rw [updateState, Method.bind_of_ok (state_of_known hfound)]
  rfl

theorem updateState_of_unknown (hunknown : driver.devices.get device = none)
    (update : DeviceState → DeviceState) :
    updateState device update driver =
      (.error (.device "unknown GPU device"), driver) := by
  rw [updateState, Method.bind_of_error (state_of_unknown hunknown)]

/-- The allocation that a successful `allocate_vram` returns. -/
def grantedAllocation (ids : IdSource) (device : ObjectId)
    (found : DeviceState) (size : Nat) (memoryClass : MemoryClass) :
    GpuAllocation :=
  ⟨ids.next, device, memoryClass, size, found.vramTotal - found.vramAvailable⟩

/-- The driver after a successful `allocate_vram`. -/
def afterAllocate (driver : SoftwareGpuDriver) (allocation : GpuAllocation) :
    SoftwareGpuDriver where
  devices := driver.devices.modify allocation.device fun state =>
    { state with vramAvailable := state.vramAvailable - allocation.size }
  allocations := driver.allocations.insert allocation.id allocation

/-- The driver after a successful `free_vram`. -/
def afterFree (driver : SoftwareGpuDriver) (allocation : GpuAllocation)
    (name : ObjectId) : SoftwareGpuDriver where
  devices := driver.devices.modify allocation.device fun state =>
    { state with vramAvailable := state.vramAvailable + allocation.size }
  allocations := driver.allocations.erase name

/-- The driver after a successful `reset_device`. -/
def afterReset (driver : SoftwareGpuDriver) (device : ObjectId) :
    SoftwareGpuDriver :=
  { driver with
    devices := driver.devices.modify device fun state =>
      { state with fault := none } }

theorem resetDevice_of_known {found : DeviceState}
    (hfound : driver.devices.get device = some found) :
    resetDevice device driver = (.ok (), driver.afterReset device) :=
  updateState_of_known hfound _

theorem allocateVram_of_fits {found : DeviceState} {size : Nat}
    (hfound : driver.devices.get device = some found)
    (hfits : size ≤ found.vramAvailable) (memoryClass : MemoryClass) :
    allocateVram device size memoryClass (driver, ids) =
      (.ok (grantedAllocation ids device found size memoryClass),
        driver.afterAllocate
          (grantedAllocation ids device found size memoryClass),
        ids.advance 1) := by
  have hstate : besideIds (state device) (driver, ids) =
      (.ok found, driver, ids) := by
    rw [besideIds, state_of_known hfound]
  have hupdate : ∀ update, besideIds (updateState device update)
      (driver, ids.advance 1) =
        (.ok (), { driver with
          devices := driver.devices.modify device update },
          ids.advance 1) := by
    intro update
    rw [besideIds, updateState_of_known hfound]
  rw [allocateVram, Method.bind_of_ok hstate, Method.bind_run,
    Method.rejectIf_run, if_neg (Nat.not_lt.mpr hfits)]
  simp only [Method.bind_run, Method.read_run, Method.change_run, hupdate]
  rfl

theorem allocateVram_of_unknown
    (hunknown : driver.devices.get device = none) (size : Nat)
    (memoryClass : MemoryClass) :
    allocateVram device size memoryClass (driver, ids) =
      (.error (.device "unknown GPU device"), driver, ids) := by
  rw [allocateVram]
  apply Method.bind_of_error
  rw [besideIds, state_of_unknown hunknown]

theorem allocateVram_of_short {found : DeviceState} {size : Nat}
    (hfound : driver.devices.get device = some found)
    (hshort : found.vramAvailable < size) (memoryClass : MemoryClass) :
    allocateVram device size memoryClass (driver, ids) =
      (.error (.memory "insufficient VRAM"), driver, ids) := by
  have hstate : besideIds (state device) (driver, ids) =
      (.ok found, driver, ids) := by
    rw [besideIds, state_of_known hfound]
  rw [allocateVram, Method.bind_of_ok hstate]
  apply Method.bind_of_error
  rw [Method.rejectIf_run, if_pos hshort]

/-- An allocation succeeds only on a known device with room for it; a refused
one changes nothing and draws no identifier. -/
theorem allocateVram_cases (driver : SoftwareGpuDriver) (ids : IdSource)
    (device : ObjectId) (size : Nat) (memoryClass : MemoryClass) :
    (∃ found, driver.devices.get device = some found ∧
        size ≤ found.vramAvailable ∧
        allocateVram device size memoryClass (driver, ids) =
          (.ok (grantedAllocation ids device found size memoryClass),
            driver.afterAllocate
              (grantedAllocation ids device found size memoryClass),
            ids.advance 1)) ∨
      ((∀ found, driver.devices.get device = some found →
          found.vramAvailable < size) ∧
        ∃ error, allocateVram device size memoryClass (driver, ids) =
          (.error error, driver, ids)) := by
  cases hfound : driver.devices.get device with
  | none =>
      exact Or.inr ⟨by simp,
        _, allocateVram_of_unknown hfound size memoryClass⟩
  | some found =>
      rcases Nat.lt_or_ge found.vramAvailable size with hshort | hfits
      · refine Or.inr ⟨?_, _, allocateVram_of_short hfound hshort memoryClass⟩
        rintro _ ⟨⟩
        exact hshort
      · exact Or.inl ⟨found, rfl, hfits,
          allocateVram_of_fits hfound hfits memoryClass⟩

theorem allocateVram_advances (device : ObjectId) (size : Nat)
    (memoryClass : MemoryClass) (driver : SoftwareGpuDriver)
    (ids : IdSource) :
    ids.Advances
      (allocateVram device size memoryClass (driver, ids)).2.2 := by
  rcases allocateVram_cases driver ids device size memoryClass with
    ⟨found, hfound, hfits, hrun⟩ | ⟨-, error, hrun⟩
  · rw [hrun]
    exact ids.advance_advances 1
  · rw [hrun]
    exact IdSource.Advances.refl ids

theorem freeVram_of_unknown {name : ObjectId}
    (hunknown : driver.allocations.get name = none) :
    freeVram name driver =
      (.error (.memory "unknown allocation"), driver) := by
  rw [freeVram, Method.bind_run, Method.read_run]
  simp [hunknown, Method.bind_run]

theorem freeVram_of_live {name : ObjectId} {allocation : GpuAllocation}
    {found : DeviceState}
    (hlive : driver.allocations.get name = some allocation)
    (hfound : driver.devices.get allocation.device = some found) :
    freeVram name driver = (.ok (), driver.afterFree allocation name) := by
  let erased : SoftwareGpuDriver :=
    { driver with allocations := driver.allocations.erase name }
  have herased : erased.devices.get allocation.device = some found := hfound
  rw [freeVram, Method.bind_run, Method.read_run]
  simp only [id, hlive, Method.bind_run, Method.okOr_some, Method.change_run]
  exact updateState_of_known herased _

/-- The allocation is removed before the owner is looked up. -/
theorem freeVram_of_orphan {name : ObjectId} {allocation : GpuAllocation}
    (hlive : driver.allocations.get name = some allocation)
    (hunknown : driver.devices.get allocation.device = none) :
    freeVram name driver =
      (.error (.device "unknown GPU device"),
        { driver with allocations := driver.allocations.erase name }) := by
  let erased : SoftwareGpuDriver :=
    { driver with allocations := driver.allocations.erase name }
  have herased : erased.devices.get allocation.device = none := hunknown
  rw [freeVram, Method.bind_run, Method.read_run]
  simp only [id, hlive, Method.bind_run, Method.okOr_some, Method.change_run]
  exact updateState_of_unknown herased _

end Methods

/-! ### What a call leaves alone -/

section SameDevices

variable {X : Type} {view : DeviceState → X}

/-- The two drivers have the same devices, which look the same through
`view`. -/
def SameDevices (view : DeviceState → X) (driver after : SoftwareGpuDriver) :
    Prop :=
  ∀ device, (after.devices.get device).map view =
    (driver.devices.get device).map view

namespace SameDevices

theorem refl (driver : SoftwareGpuDriver) : SameDevices view driver driver :=
  fun _ => rfl

variable {driver later : SoftwareGpuDriver} {device : ObjectId}
  {state : DeviceState}

theorem before (hsame : SameDevices view driver later)
    (hdevice : later.devices.get device = some state) :
    ∃ old, driver.devices.get device = some old ∧ view old = view state := by
  have hviews := hsame device
  rw [hdevice, Option.map_some] at hviews
  exact Option.map_eq_some_iff.mp hviews.symm

theorem after (hsame : SameDevices view driver later)
    (hdevice : driver.devices.get device = some state) :
    ∃ new, later.devices.get device = some new ∧ view new = view state := by
  have hviews := hsame device
  rw [hdevice, Option.map_some] at hviews
  exact Option.map_eq_some_iff.mp hviews

theorem map {Y : Type} (hsame : SameDevices view driver later)
    (coarsen : X → Y) :
    SameDevices (fun state => coarsen (view state)) driver later := by
  intro device
  have hviews := congrArg (Option.map coarsen) (hsame device)
  rw [Option.map_map, Option.map_map] at hviews
  exact hviews

end SameDevices

variable (driver : SoftwareGpuDriver) (device : ObjectId)
  {update : DeviceState → DeviceState}

theorem modify_sameDevices
    (hupdate : ∀ state, view (update state) = view state) :
    SameDevices view driver
      { driver with devices := driver.devices.modify device update } := by
  intro other
  rw [Table.get_modify]
  by_cases heq : other = device
  · rw [if_pos heq, Option.map_map]
    exact congrArg (Option.map · _) (funext hupdate)
  · rw [if_neg heq]

theorem updateState_sameDevices
    (hupdate : ∀ state, view (update state) = view state) :
    SameDevices view driver (updateState device update driver).2 := by
  cases hdevice : driver.devices.get device with
  | none =>
      rw [updateState_of_unknown hdevice]
      exact .refl driver
  | some state =>
      rw [updateState_of_known hdevice]
      exact modify_sameDevices driver device hupdate

theorem accept_unchanged : (accept device driver).2 = driver := by
  cases hdevice : driver.devices.get device with
  | none => rw [accept, Method.bind_of_error (state_of_unknown hdevice)]
  | some state =>
      rw [accept, Method.bind_of_ok (state_of_known hdevice)]
      cases state.fault with
      | none => rfl
      | some fault => rfl

theorem submit_unchanged (workload : WorkloadClass) (ops : List DriverOp) :
    (submit device workload ops driver).2 = driver :=
  accept_unchanged driver device

variable {driver device} in
theorem submit_driver_eq {later : SoftwareGpuDriver} {workload : WorkloadClass}
    {ops : List DriverOp} {outcome : Outcome}
    (hsent : submit device workload ops driver = (outcome, later)) :
    later = driver := by
  rw [← submit_unchanged driver device workload ops, hsent]

end SameDevices

/-! ### Devices under their own identifiers -/

theorem deviceTable_get (ids : IdSource) (vramBytesPerDevice count : Nat)
    {device : ObjectId} {state : DeviceState}
    (hdevice : (deviceTable ids vramBytesPerDevice count).get device =
      some state) :
    ∃ index < count, device = ids.draw (ids.drawn + index) ∧
      state = syntheticDevice device index vramBytesPerDevice := by
  induction count with
  | zero => simp [deviceTable] at hdevice
  | succ count ih =>
      rw [deviceTable] at hdevice
      rcases Table.row_of_insert hdevice with ⟨heq, rfl⟩ | ⟨-, hdevice⟩
      · exact ⟨count, Nat.lt_succ_self count, heq, by rw [heq]⟩
      · obtain ⟨index, hlt, hid, hstate⟩ := ih hdevice
        exact ⟨index, Nat.lt_succ_of_lt hlt, hid, hstate⟩

/-- There is a device under each of the identifiers drawn for them. -/
theorem deviceTable_drawn (ids : IdSource) (vramBytesPerDevice : Nat)
    {index count : Nat} (hlt : index < count) :
    ∃ state, (deviceTable ids vramBytesPerDevice count).get
      (ids.draw (ids.drawn + index)) = some state := by
  induction count with
  | zero => omega
  | succ count ih =>
      rw [deviceTable, Table.get_insert]
      by_cases heq : ids.draw (ids.drawn + index) = ids.draw (ids.drawn + count)
      · exact ⟨_, if_pos heq⟩
      · have hne : index ≠ count := by
          rintro rfl
          exact heq rfl
        rw [if_neg heq]
        exact ih (by omega)

/-- Every device is filed under its own identifier. -/
def Keyed (driver : SoftwareGpuDriver) : Prop :=
  ∀ device state, driver.devices.get device = some state →
    state.info.id = device

theorem keyed_withDevices (count vramBytesPerDevice : Nat) (ids : IdSource) :
    (withDevices count vramBytesPerDevice ids).1.Keyed := by
  intro device state hdevice
  obtain ⟨_, _, _, rfl⟩ := deviceTable_get ids _ count hdevice
  rfl

namespace Keyed

variable {driver later : SoftwareGpuDriver}

theorem of_sameInfos (hkeyed : driver.Keyed)
    (hsame : SameDevices DeviceState.info driver later) : later.Keyed := by
  intro device state hdevice
  obtain ⟨old, hold, hinfo⟩ := hsame.before hdevice
  rw [← hinfo]
  exact hkeyed device old hold

/-- What `probe` finds under an identifier is what the driver holds there. -/
theorem find_probed (hkeyed : driver.Keyed) (device : ObjectId) :
    (driver.devices.values.map DeviceState.info).find?
        (fun info => info.id = device) =
      (driver.devices.get device).map DeviceState.info := by
  have hrow : ∀ info, info ∈ driver.devices.values.map DeviceState.info →
      info.id = device → (driver.devices.get device).map DeviceState.info =
        some info := by
    intro info hmem hid
    obtain ⟨state, hvalue, rfl⟩ := List.mem_map.mp hmem
    obtain ⟨key, hkey⟩ := (Table.mem_values_iff _ state).mp hvalue
    rw [← hid, hkeyed key state hkey, hkey]
    rfl
  cases hfind : (driver.devices.values.map DeviceState.info).find?
      (fun info => info.id = device) with
  | some info =>
      have hid : info.id = device := by simpa using List.find?_some hfind
      exact (hrow info (List.mem_of_find?_eq_some hfind) hid).symm
  | none =>
      rw [List.find?_eq_none] at hfind
      cases hstate : driver.devices.get device with
      | none => rfl
      | some state =>
          have hvalue : state ∈ driver.devices.values :=
            (Table.mem_values_iff _ state).mpr ⟨device, hstate⟩
          have hid := hkeyed device state hstate
          exact absurd (by simpa using hid)
            (hfind _ (List.mem_map_of_mem hvalue))

end Keyed

instance : GpuDriver SoftwareGpuDriver where
  probe := probe
  initializeDevice := initializeDevice
  allocateVram := allocateVram
  freeVram := freeVram
  mapDma := mapDma
  submit := submit
  faultStatus := faultStatus
  vramAvailable := vramAvailable
  resetDevice := resetDevice
  markFaulted := markFaulted
  allocateVram_advances := allocateVram_advances

instance : FreshAllocations SoftwareGpuDriver where
  fresh gpu size memoryClass driver after ids later allocation hrun := by
    rcases allocateVram_cases driver ids gpu size memoryClass with
      ⟨found, hfound, hfits, hgranted⟩ | ⟨-, error, hrefused⟩
    · cases hgranted.symm.trans hrun
      exact ⟨ids.next_not_issued, ids.next_issued⟩
    · cases hrefused.symm.trans hrun

end SoftwareGpuDriver

end SherGraphics
