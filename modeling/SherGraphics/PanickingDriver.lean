/-
A `SoftwareGpuDriver` any of whose `submit` calls may panic, under a runtime
whose environment may also break a GPU at any step.  A fault is recorded for a
GPU, not for a context; `FaultEffect` says what one step does to the recorded
faults.
-/
import SherGraphics.ContextTable
import SherGraphics.VramPool

namespace SherGraphics

/-- The schedule says which calls of `submit` panic, counted from the first,
and with what payload. -/
structure PanickingDriver where
  software : SoftwareGpuDriver
  schedule : Nat → Option PanicPayload
  submits : Nat

namespace PanickingDriver

/-- Call a method of the software driver. -/
def onSoftware {α : Type} (method : Method Error SoftwareGpuDriver α) :
    Method Error PanickingDriver α :=
  fun driver =>
    let (result, software) := method driver.software
    (result, { driver with software })

def allocateVram (device : ObjectId) (size : Nat) (memoryClass : MemoryClass) :
    Method Error (PanickingDriver × IdSource) GpuAllocation :=
  fun (driver, ids) =>
    let (result, software, ids) :=
      SoftwareGpuDriver.allocateVram device size memoryClass
        (driver.software, ids)
    (result, { driver with software }, ids)

/-- A call that panics has changed nothing. -/
def submit (device : ObjectId) (workload : WorkloadClass)
    (ops : List DriverOp) (driver : PanickingDriver) :
    Outcome × PanickingDriver :=
  let counted := { driver with submits := driver.submits + 1 }
  match driver.schedule driver.submits with
  | some payload => (.panicked payload, counted)
  | none =>
      ((SoftwareGpuDriver.submit device workload ops driver.software).1,
        counted)

instance : GpuDriver PanickingDriver where
  probe driver := SoftwareGpuDriver.probe driver.software
  initializeDevice device :=
    onSoftware (SoftwareGpuDriver.initializeDevice device)
  allocateVram := allocateVram
  freeVram allocation := onSoftware (SoftwareGpuDriver.freeVram allocation)
  mapDma allocation := onSoftware (SoftwareGpuDriver.mapDma allocation)
  submit := submit
  faultStatus driver := SoftwareGpuDriver.faultStatus driver.software
  vramAvailable driver := SoftwareGpuDriver.vramAvailable driver.software
  resetDevice device := onSoftware (SoftwareGpuDriver.resetDevice device)
  markFaulted device description driver :=
    { driver with
      software :=
        SoftwareGpuDriver.markFaulted device description driver.software }
  allocateVram_advances device size memoryClass driver ids :=
    SoftwareGpuDriver.allocateVram_advances device size memoryClass
      driver.software ids

/-- `submit` counts its call and leaves the software driver alone. -/
theorem submit_software (driver : PanickingDriver) (gpu : ObjectId)
    (workload : WorkloadClass) (ops : List DriverOp) :
    (GpuDriver.submit gpu workload ops driver).2.software =
      driver.software := by
  change (submit gpu workload ops driver).2.software = _
  rw [submit]
  cases driver.schedule driver.submits with
  | none => rfl
  | some payload => rfl

theorem resetDevice_of_known (driver : PanickingDriver) {gpu : ObjectId}
    {state : DeviceState}
    (hgpu : driver.software.devices.get gpu = some state) :
    GpuDriver.resetDevice gpu driver =
      (.ok (), { driver with software := driver.software.afterReset gpu }) := by
  change onSoftware _ driver = _
  rw [onSoftware, SoftwareGpuDriver.resetDevice_of_known hgpu]

/-- The environment breaks a GPU. -/
def injection (gpu : ObjectId) (address : Nat) (description : String) :
    DriverUse PanickingDriver Reply where
  run := fun (driver, ids) =>
    (.ok .unit, { driver with
      software := SoftwareGpuDriver.injectFault gpu address description
        driver.software }, ids)
  advances := fun _ ids => .refl ids

end PanickingDriver

/-! ### The recorded faults -/

namespace SoftwareGpuDriver

/-- The fault recorded for a GPU. -/
def recordedFault (driver : SoftwareGpuDriver) (gpu : ObjectId) :
    Option GpuFault :=
  (driver.devices.get gpu).bind DeviceState.fault

/-- What the fault logic reads of a device. -/
def faultView (state : DeviceState) : DeviceInfo × Option GpuFault :=
  (state.info, state.fault)

variable {driver after : SoftwareGpuDriver} {gpu other : ObjectId}

theorem SameDevices.recordedFault_eq
    (hsame : SameDevices faultView driver after) (gpu : ObjectId) :
    after.recordedFault gpu = driver.recordedFault gpu := by
  have hviews := congrArg (Option.bind · Prod.snd) (hsame gpu)
  simp only [Option.bind_map] at hviews
  exact hviews

theorem recordedFault_injectFault {state : DeviceState}
    (hknown : driver.devices.get gpu = some state) (address : Nat)
    (description : String) :
    (injectFault gpu address description driver).recordedFault gpu =
      some ⟨gpu, address, description⟩ := by
  rw [recordedFault, injectFault, Table.get_modify, if_pos rfl, hknown]
  rfl

theorem recordedFault_injectFault_ne (hne : other ≠ gpu) (address : Nat)
    (description : String) :
    (injectFault gpu address description driver).recordedFault other =
      driver.recordedFault other := by
  rw [recordedFault, injectFault, Table.get_modify, if_neg hne]
  rfl

/-- An injection never removes a fault. -/
theorem recordedFault_injectFault_isSome {fault : GpuFault}
    (hfault : driver.recordedFault other = some fault) (gpu : ObjectId)
    (address : Nat) (description : String) :
    ∃ fault, (injectFault gpu address description driver).recordedFault other =
      some fault := by
  by_cases heq : other = gpu
  · subst heq
    obtain ⟨state, hknown, -⟩ := Option.bind_eq_some_iff.mp hfault
    exact ⟨_, recordedFault_injectFault hknown address description⟩
  · exact ⟨fault, by rw [recordedFault_injectFault_ne heq, hfault]⟩

theorem recordedFault_afterReset (driver : SoftwareGpuDriver)
    (gpu : ObjectId) : (driver.afterReset gpu).recordedFault gpu = none := by
  rw [recordedFault, afterReset, Table.get_modify, if_pos rfl]
  cases driver.devices.get gpu with
  | none => rfl
  | some state => rfl

theorem recordedFault_afterReset_ne (hne : other ≠ gpu) :
    (driver.afterReset gpu).recordedFault other =
      driver.recordedFault other := by
  rw [recordedFault, afterReset, Table.get_modify, if_neg hne]
  rfl

section Kept

variable (driver : SoftwareGpuDriver)

theorem initializeDevice_faultView (info : DeviceInfo) :
    SameDevices faultView driver (initializeDevice info driver).2 :=
  updateState_sameDevices driver info.id fun _ => rfl

theorem allocateVram_faultView (ids : IdSource) (device : ObjectId)
    (size : Nat) (memoryClass : MemoryClass) :
    SameDevices faultView driver
      (allocateVram device size memoryClass (driver, ids)).2.1 := by
  rcases allocateVram_cases driver ids device size memoryClass with
    ⟨found, hfound, hfits, hrun⟩ | ⟨hrefused, error, hrun⟩
  · rw [hrun]
    exact modify_sameDevices driver device fun _ => rfl
  · rw [hrun]
    exact .refl driver

theorem freeVram_faultView (name : ObjectId) :
    SameDevices faultView driver (freeVram name driver).2 := by
  cases hlive : driver.allocations.get name with
  | none =>
      rw [freeVram_of_unknown hlive]
      exact .refl driver
  | some allocation =>
      cases hfound : driver.devices.get allocation.device with
      | none =>
          rw [freeVram_of_orphan hlive hfound]
          exact .refl driver
      | some found =>
          rw [freeVram_of_live hlive hfound]
          exact modify_sameDevices driver allocation.device fun _ => rfl

theorem resetDevice_faultView {error : Error}
    (hrefused : (resetDevice gpu driver).1 = .error error) :
    SameDevices faultView driver (resetDevice gpu driver).2 := by
  cases hknown : driver.devices.get gpu with
  | none =>
      rw [resetDevice, updateState_of_unknown hknown]
      exact .refl driver
  | some state =>
      rw [resetDevice_of_known hknown] at hrefused
      cases hrefused

theorem resetDevice_of_ok {value : Unit}
    (haccepted : (resetDevice gpu driver).1 = .ok value) :
    (resetDevice gpu driver).2 = driver.afterReset gpu := by
  cases hknown : driver.devices.get gpu with
  | none =>
      rw [resetDevice, updateState_of_unknown hknown] at haccepted
      cases haccepted
  | some state => rw [resetDevice_of_known hknown]

/-- The reference driver refuses a faulted GPU. -/
theorem submit_of_faulted {fault : GpuFault}
    (hfault : driver.recordedFault gpu = some fault)
    (workload : WorkloadClass) (ops : List DriverOp) :
    ∃ error, submit gpu workload ops driver =
      (.returned (.error error), driver) := by
  obtain ⟨state, hknown, hrecorded⟩ := Option.bind_eq_some_iff.mp hfault
  rw [submit, accept, Method.bind_of_ok (state_of_known hknown), hrecorded]
  exact ⟨_, rfl⟩

/-- It accepts everything on a known GPU without a fault. -/
theorem submit_of_clear {state : DeviceState}
    (hknown : driver.devices.get gpu = some state)
    (hclear : driver.recordedFault gpu = none) (workload : WorkloadClass)
    (ops : List DriverOp) :
    submit gpu workload ops driver = (.returned (.ok ()), driver) := by
  have hrecorded : state.fault = none := by
    rw [recordedFault, hknown] at hclear
    exact hclear
  rw [submit, accept, Method.bind_of_ok (state_of_known hknown), hrecorded]
  rfl

theorem faultStatus_of_known {state : DeviceState}
    (hknown : driver.devices.get gpu = some state) :
    faultStatus driver gpu = .ok (driver.recordedFault gpu) := by
  rw [faultStatus, state_of_known hknown, recordedFault, hknown]
  rfl

end Kept

end SoftwareGpuDriver

end SherGraphics
