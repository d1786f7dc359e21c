/-
The store of a `VulkanDriver` against the store of a `SoftwareGpuDriver`: four
tables and a render thread on one side, one record for each device on the
other.  While the backend accepts everything the two drivers are
interchangeable.
-/
import SherGraphics.Interchange
import SherGraphics.VramConservation
import SherGraphics.VulkanFaults

namespace SherGraphics

/-! ### A backend that accepts everything -/

/-- Every call of `execute` and `reset` succeeds, whatever came before it. -/
def AlwaysSucceeds {B : Type} [VulkanBackend B] (backend : B) : Prop :=
  ∀ calls : List BackendCall,
    ∀ outcome ∈ Machine.answers (fun backend (call : BackendCall) =>
      call.serve backend) backend calls, outcome = .returned (.ok ())

namespace AlwaysSucceeds

variable {B : Type} [VulkanBackend B] {backend : B}

theorem serve (hsucceeds : AlwaysSucceeds backend) (call : BackendCall) :
    ∃ later, call.serve backend = (.returned (.ok ()), later) ∧
      AlwaysSucceeds later := by
  have hnow : (call.serve backend).1 = .returned (.ok ()) :=
    hsucceeds [call] _ List.mem_cons_self
  refine ⟨(call.serve backend).2, Prod.ext hnow rfl, ?_⟩
  intro calls outcome hmem
  exact hsucceeds (call :: calls) outcome (List.mem_cons_of_mem _ hmem)

/-- A running thread over such a backend answers and goes on. -/
theorem ask {thread : RenderThread B} (hrunning : thread.status = .running)
    (hsucceeds : AlwaysSucceeds thread.backend) (call : BackendCall) :
    ∃ later, thread.ask call.serve =
        (.answered (.ok ()), ⟨.running, later⟩) ∧ AlwaysSucceeds later := by
  obtain ⟨later, hserved, hlater⟩ := hsucceeds.serve call
  exact ⟨later, RenderThread.ask_of_returned hrunning hserved, hlater⟩

end AlwaysSucceeds

/-- A scripted backend accepts everything once its script is over. -/
theorem ScriptedBackend.alwaysSucceeds (adapters : List BackendAdapterInfo) :
    AlwaysSucceeds (⟨adapters, []⟩ : ScriptedBackend) := by
  intro calls
  induction calls with
  | nil => simp [Machine.answers]
  | cons call rest ih =>
      intro outcome hmem
      rcases List.mem_cons.mp hmem with hnow | hlater
      · cases call <;> exact hnow
      · cases call <;> exact ih outcome hlater

/-! ### Corresponding stores -/

/-- The fault in a device record is the one in the table of faults. -/
def FaultsMatch (name : ObjectId → ObjectId)
    (faults : Table ObjectId GpuFault)
    (devices : Table ObjectId DeviceState) : Prop :=
  ∀ gpu state, devices.get (name gpu) = some state →
    state.fault = (faults.get gpu).map (GpuFault.withGpu name)

theorem FaultsMatch.modify {name : Equiv.Perm ObjectId}
    {faults faults' : Table ObjectId GpuFault}
    {devices : Table ObjectId DeviceState} {gpu : ObjectId}
    {update : DeviceState → DeviceState}
    (hmatch : FaultsMatch name faults devices)
    (hothers : ∀ other, other ≠ gpu → faults'.get other = faults.get other)
    (hgpu : ∀ state, devices.get (name gpu) = some state →
      (update state).fault =
        (faults'.get gpu).map (GpuFault.withGpu name)) :
    FaultsMatch name faults' (devices.modify (name gpu) update) := by
  intro other state hrow
  rcases Table.row_of_modify hrow with ⟨heq, old, hold, rfl⟩ | ⟨hne, hold⟩
  · rw [name.injective heq]
    exact hgpu old hold
  · have hother : other ≠ gpu := fun heq => hne (congrArg name heq)
    rw [hothers other hother]
    exact hmatch other state hold

theorem FaultsMatch.modify_kept {name : Equiv.Perm ObjectId}
    {faults : Table ObjectId GpuFault} {devices : Table ObjectId DeviceState}
    {gpu : ObjectId} {update : DeviceState → DeviceState}
    (hmatch : FaultsMatch name faults devices)
    (hupdate : ∀ state, (update state).fault = state.fault) :
    FaultsMatch name faults (devices.modify (name gpu) update) := by
  apply hmatch.modify fun _ _ => rfl
  intro state hrow
  rw [hupdate]
  exact hmatch gpu state hrow

/-- The render thread is up, and each device record on the right says what the
tables on the left say.  Addresses are not compared. -/
structure StoreMatch {B : Type} [VulkanBackend B] (name : Equiv.Perm ObjectId)
    (vulkan : VulkanDriver B) (software : SoftwareGpuDriver) : Prop where
  running : vulkan.worker.status = .running
  accepts : AlwaysSucceeds vulkan.worker.backend
  pooled : vulkan.tables.Pooled
  keyed : software.Keyed
  pools : RowsAgree (.total name)
    (fun left state => state.vramAvailable = left)
    vulkan.tables.vramAvailable software.devices
  faults : FaultsMatch name vulkan.tables.faults software.devices
  allocations : RowsAgree (.total name)
    (fun one other => other.device = name one.device ∧ other.size = one.size)
    vulkan.tables.allocations software.allocations

namespace StoreMatch

variable {B : Type} [VulkanBackend B] {name : Equiv.Perm ObjectId}
  {vulkan : VulkanDriver B} {software : SoftwareGpuDriver} {gpu : ObjectId}

/-- A device known to one driver is known to the other, with the same pool. -/
theorem of_known (hmatch : StoreMatch name vulkan software)
    (hknown : vulkan.tables.Knows gpu) :
    ∃ state, software.devices.get (name gpu) = some state ∧
      vulkan.tables.vramAvailable.get gpu = some state.vramAvailable := by
  obtain ⟨left, hpool⟩ := (hmatch.pooled gpu).mp hknown
  have hrow := hmatch.pools gpu trivial
  change Option.Rel _ _ (software.devices.get (name gpu)) at hrow
  rw [hpool] at hrow
  generalize software.devices.get (name gpu) = found at hrow ⊢
  cases hrow with
  | some hsame => exact ⟨_, rfl, by rw [hpool, hsame]⟩

theorem of_unknown (hmatch : StoreMatch name vulkan software)
    (hunknown : ¬ vulkan.tables.Knows gpu) :
    software.devices.get (name gpu) = none ∧
      vulkan.tables.vramAvailable.get gpu = none := by
  have hpool : vulkan.tables.vramAvailable.get gpu = none := by
    rw [Option.eq_none_iff_forall_ne_some]
    intro left hpool
    exact hunknown ((hmatch.pooled gpu).mpr ⟨left, hpool⟩)
  have hrow := hmatch.pools gpu trivial
  change Option.Rel _ _ (software.devices.get (name gpu)) at hrow
  rw [hpool] at hrow
  generalize software.devices.get (name gpu) = found at hrow ⊢
  cases hrow with
  | none => exact ⟨rfl, hpool⟩

/-! ### Methods that only read -/

theorem probe (hmatch : StoreMatch name vulkan software) (gpu : ObjectId) :
    ∃ infos infos', GpuDriver.probe vulkan = .ok infos ∧
      GpuDriver.probe software = .ok infos' ∧
      Option.Rel (fun one other => one.id = gpu ∧ other.id = name gpu)
        (infos.find? fun info => info.id = gpu)
        (infos'.find? fun info => info.id = name gpu) := by
  refine ⟨_, _, rfl, rfl, ?_⟩
  rw [hmatch.keyed.find_probed]
  by_cases hknown : vulkan.tables.Knows gpu
  · obtain ⟨state, hstate, -⟩ := hmatch.of_known hknown
    obtain ⟨info, hfind⟩ := hknown
    have hid : info.id = gpu := by simpa using List.find?_some hfind
    rw [hfind, hstate]
    exact .some ⟨hid, hmatch.keyed _ state hstate⟩
  · have hfind : vulkan.tables.devices.find? (fun info => info.id = gpu) =
        none := by
      rw [Option.eq_none_iff_forall_ne_some]
      intro info hfind
      exact hknown ⟨info, hfind⟩
    rw [hfind, (hmatch.of_unknown hknown).1]
    exact .none

theorem faultStatus (hmatch : StoreMatch name vulkan software)
    (gpu : ObjectId) :
    SoftwareGpuDriver.faultStatus software (name gpu) =
      (VulkanTables.faultStatus vulkan.tables gpu).map
        (Option.map (GpuFault.withGpu name)) := by
  by_cases hknown : vulkan.tables.Knows gpu
  · obtain ⟨state, hstate, -⟩ := hmatch.of_known hknown
    rw [SoftwareGpuDriver.faultStatus, SoftwareGpuDriver.state_of_known hstate,
      VulkanTables.faultStatus_of_known hknown, Except.map, Except.map,
      hmatch.faults gpu state hstate]
  · rw [SoftwareGpuDriver.faultStatus,
      SoftwareGpuDriver.state_of_unknown (hmatch.of_unknown hknown).1,
      VulkanTables.faultStatus_of_unknown hknown]
    rfl

theorem vramAvailable (hmatch : StoreMatch name vulkan software)
    (gpu : ObjectId) :
    SoftwareGpuDriver.vramAvailable software (name gpu) =
      VulkanTables.available vulkan.tables gpu := by
  by_cases hknown : vulkan.tables.Knows gpu
  · obtain ⟨state, hstate, hpool⟩ := hmatch.of_known hknown
    rw [SoftwareGpuDriver.vramAvailable,
      SoftwareGpuDriver.state_of_known hstate, VulkanTables.available, hpool]
    rfl
  · obtain ⟨hstate, hpool⟩ := hmatch.of_unknown hknown
    rw [SoftwareGpuDriver.vramAvailable,
      SoftwareGpuDriver.state_of_unknown hstate, VulkanTables.available, hpool]
    rfl

/-! ### Faults and the render thread -/

/-- A device record may change where the tables have nothing to compare. -/
theorem modify (hmatch : StoreMatch name vulkan software)
    (update : DeviceState → DeviceState)
    (hinfo : ∀ state, (update state).info = state.info)
    (hpool : ∀ state, (update state).vramAvailable = state.vramAvailable)
    {worker : RenderThread B} {faults : Table ObjectId GpuFault}
    (hrunning : worker.status = .running)
    (haccepts : AlwaysSucceeds worker.backend)
    (hothers : ∀ other, other ≠ gpu →
      faults.get other = vulkan.tables.faults.get other)
    (hgpu : ∀ state, software.devices.get (name gpu) = some state →
      (update state).fault = (faults.get gpu).map (GpuFault.withGpu name)) :
    StoreMatch name ⟨{ vulkan.tables with faults }, worker⟩
      { software with
        devices := software.devices.modify (name gpu) update } where
  running := hrunning
  accepts := haccepts
  pooled := hmatch.pooled
  keyed := hmatch.keyed.of_sameInfos
    (SoftwareGpuDriver.modify_sameDevices software (name gpu) hinfo)
  pools := hmatch.pools.modify_right
    (fun _ state hsame => (hpool state).trans hsame) (name gpu)
  faults := hmatch.faults.modify hothers hgpu
  allocations := hmatch.allocations

theorem initializeDevice (hmatch : StoreMatch name vulkan software)
    {info info' : DeviceInfo} (hinfo : info'.id = name info.id) :
    Matched (StoreMatch name) (· = ·)
      (GpuDriver.initializeDevice info vulkan)
      (GpuDriver.initializeDevice info' software) := by
  change Matched _ _ (VulkanDriver.onTables _ vulkan)
    (SoftwareGpuDriver.updateState info'.id _ software)
  rw [hinfo]
  by_cases hknown : vulkan.tables.Knows info.id
  · obtain ⟨state, hstate, -⟩ := hmatch.of_known hknown
    rw [VulkanDriver.onTables_run (VulkanTables.initializeDevice_of_known
      hknown), SoftwareGpuDriver.updateState_of_known hstate]
    refine ⟨.ok rfl, ?_⟩
    exact hmatch.modify (fun state => { state with initialized := true })
      (fun _ => rfl) (fun _ => rfl) hmatch.running hmatch.accepts
      (fun _ _ => rfl) (hmatch.faults info.id)
  · have hstate := (hmatch.of_unknown hknown).1
    rw [VulkanDriver.onTables_run (VulkanTables.initializeDevice_of_unknown
      hknown), SoftwareGpuDriver.updateState_of_unknown hstate]
    exact ⟨.error rfl, hmatch⟩

theorem markFaulted (hmatch : StoreMatch name vulkan software)
    (gpu : ObjectId) (description : String) :
    StoreMatch name (GpuDriver.markFaulted gpu description vulkan)
      (GpuDriver.markFaulted (name gpu) description software) := by
  change StoreMatch name (VulkanDriver.recordFault gpu description vulkan)
    { software with devices := software.devices.modify (name gpu) _ }
  rw [VulkanDriver.recordFault]
  by_cases hknown : vulkan.tables.Knows gpu
  · rw [VulkanTables.recordFault_of_known hknown]
    apply hmatch.modify (fun state =>
        { state with fault := some ⟨name gpu, 0, description⟩ })
      (fun _ => rfl) (fun _ => rfl) hmatch.running hmatch.accepts
    · intro other hne
      exact Table.get_insert_ne _ _ hne
    · intro state hstate
      rw [Table.get_insert_self]
      rfl
  · have hunknown := (hmatch.of_unknown hknown).1
    rw [VulkanTables.recordFault_of_unknown hknown]
    apply hmatch.modify (fun state =>
        { state with fault := some ⟨name gpu, 0, description⟩ })
      (fun _ => rfl) (fun _ => rfl) hmatch.running hmatch.accepts
      fun _ _ => rfl
    intro state hstate
    rw [hunknown] at hstate
    cases hstate

theorem resetDevice (hmatch : StoreMatch name vulkan software)
    (gpu : ObjectId) :
    Matched (StoreMatch name) (· = ·) (GpuDriver.resetDevice gpu vulkan)
      (GpuDriver.resetDevice (name gpu) software) := by
  change Matched _ _ (VulkanDriver.resetDevice gpu vulkan)
    (SoftwareGpuDriver.resetDevice (name gpu) software)
  by_cases hknown : vulkan.tables.Knows gpu
  · obtain ⟨state, hstate, -⟩ := hmatch.of_known hknown
    obtain ⟨later, hasked, hlater⟩ := AlwaysSucceeds.ask hmatch.running
      hmatch.accepts .reset
    rw [VulkanDriver.resetDevice_of_known hknown hasked,
      SoftwareGpuDriver.resetDevice_of_known hstate,
      VulkanTables.afterReset_of_ok]
    refine ⟨.ok rfl, ?_⟩
    apply hmatch.modify (fun state => { state with fault := none })
      (fun _ => rfl) (fun _ => rfl) rfl hlater
    · intro other hne
      exact Table.get_erase_ne _ hne
    · intro state hstate
      rw [Table.get_erase_self]
      rfl
  · have hstate := (hmatch.of_unknown hknown).1
    rw [VulkanDriver.resetDevice_of_unknown hknown,
      SoftwareGpuDriver.resetDevice,
      SoftwareGpuDriver.updateState_of_unknown hstate]
    exact ⟨.error rfl, hmatch⟩

theorem submit (hmatch : StoreMatch name vulkan software) (gpu : ObjectId)
    (workload : WorkloadClass) (ops ops' : List DriverOp) :
    ∃ result after after',
      GpuDriver.submit gpu workload ops vulkan = (.returned result, after) ∧
      GpuDriver.submit (name gpu) workload ops' software =
        (.returned result, after') ∧
      StoreMatch name after after' := by
  change ∃ result after after',
    VulkanDriver.submit gpu workload ops vulkan = (.returned result, after) ∧
      SoftwareGpuDriver.submit (name gpu) workload ops' software =
        (.returned result, after') ∧ StoreMatch name after after'
  by_cases hknown : vulkan.tables.Knows gpu
  · obtain ⟨state, hstate, -⟩ := hmatch.of_known hknown
    have hfault := hmatch.faults gpu state hstate
    cases hrecorded : vulkan.tables.faults.get gpu with
    | some fault =>
        rw [hrecorded] at hfault
        refine ⟨_, _, _,
          VulkanDriver.submit_of_faulted hknown hrecorded workload ops, ?_,
          hmatch⟩
        rw [SoftwareGpuDriver.submit, SoftwareGpuDriver.accept,
          Method.bind_of_ok (SoftwareGpuDriver.state_of_known hstate), hfault]
        rfl
    | none =>
        rw [hrecorded] at hfault
        obtain ⟨later, hasked, hlater⟩ := AlwaysSucceeds.ask hmatch.running
          hmatch.accepts (.execute ops)
        refine ⟨_, _, software,
          VulkanDriver.submit_of_clear hknown hrecorded hasked workload, ?_,
          ?_⟩
        · rw [SoftwareGpuDriver.submit, SoftwareGpuDriver.accept,
            Method.bind_of_ok (SoftwareGpuDriver.state_of_known hstate),
            hfault]
          rfl
        · exact { hmatch with running := rfl, accepts := hlater }
  · have hstate := (hmatch.of_unknown hknown).1
    refine ⟨_, _, _, VulkanDriver.submit_of_unknown hknown workload ops, ?_,
      hmatch⟩
    rw [SoftwareGpuDriver.submit, SoftwareGpuDriver.accept,
      Method.bind_of_error (SoftwareGpuDriver.state_of_unknown hstate)]

/-! ### VRAM -/

/-- Both sides allocate, each under the identifier it has drawn. -/
theorem allocated (hmatch : StoreMatch name vulkan software)
    {ids ids' : IdSource} (hids : ids.DrawsAs name ids')
    {state : DeviceState} (hstate : software.devices.get (name gpu) = some state)
    (hpool : vulkan.tables.vramAvailable.get gpu = some state.vramAvailable)
    (size : Nat) (memoryClass : MemoryClass) :
    StoreMatch name
      ⟨vulkan.tables.afterAllocate state.vramAvailable
        (vulkan.tables.grantedAllocation ids gpu size memoryClass),
        vulkan.worker⟩
      (software.afterAllocate (SoftwareGpuDriver.grantedAllocation ids'
        (name gpu) state size memoryClass)) where
  running := hmatch.running
  accepts := hmatch.accepts
  pooled := hmatch.pooled.insert hpool rfl rfl
  keyed := hmatch.keyed.of_sameInfos
    (SoftwareGpuDriver.modify_sameDevices software (name gpu) fun _ => rfl)
  pools := hmatch.pools.insert_modify rfl hstate rfl
  faults := hmatch.faults.modify_kept fun _ => rfl
  allocations := hmatch.allocations.insert hids.next_eq.symm ⟨rfl, rfl⟩

theorem allocateVram (hmatch : StoreMatch name vulkan software)
    {ids ids' : IdSource} (hids : ids.DrawsAs name ids') (gpu : ObjectId)
    (size : Nat) (memoryClass : MemoryClass) :
    Matched
      (fun world other : _ × IdSource =>
        StoreMatch name world.1 other.1 ∧ world.2.DrawsAs name other.2)
      (fun one other : GpuAllocation => other.id = name one.id)
      (VulkanDriver.allocateVram gpu size memoryClass (vulkan, ids))
      (SoftwareGpuDriver.allocateVram (name gpu) size memoryClass
        (software, ids')) := by
  rw [VulkanDriver.allocateVram]
  by_cases hknown : vulkan.tables.Knows gpu
  · obtain ⟨state, hstate, hpool⟩ := hmatch.of_known hknown
    rcases Nat.lt_or_ge state.vramAvailable size with hshort | hfits
    · rw [VulkanTables.allocateVram_of_short hknown hpool hshort,
        SoftwareGpuDriver.allocateVram_of_short hstate hshort]
      exact ⟨.error rfl, hmatch, hids⟩
    · rw [VulkanTables.allocateVram_of_fits hknown hpool hfits,
        SoftwareGpuDriver.allocateVram_of_fits hstate hfits]
      exact ⟨.ok hids.next_eq,
        hmatch.allocated hids hstate hpool size memoryClass, hids.advance 1⟩
  · have hstate := (hmatch.of_unknown hknown).1
    rw [VulkanTables.allocateVram_of_unknown hknown,
      SoftwareGpuDriver.allocateVram_of_unknown hstate]
    exact ⟨.error rfl, hmatch, hids⟩

/-- Both sides give the bytes of an allocation back. -/
theorem freed (hmatch : StoreMatch name vulkan software)
    {allocation allocation' : GpuAllocation} (id : ObjectId)
    (hgpu : allocation'.device = name allocation.device)
    (hsize : allocation'.size = allocation.size) {state : DeviceState}
    (hstate : software.devices.get (name allocation.device) = some state)
    (hpool : vulkan.tables.vramAvailable.get allocation.device =
      some state.vramAvailable) :
    StoreMatch name
      ⟨vulkan.tables.afterFree state.vramAvailable allocation id,
        vulkan.worker⟩
      (software.afterFree allocation' (name id)) := by
  rw [SoftwareGpuDriver.afterFree, hgpu, hsize]
  exact
    { running := hmatch.running
      accepts := hmatch.accepts
      pooled := hmatch.pooled.insert hpool rfl rfl
      keyed := hmatch.keyed.of_sameInfos
        (SoftwareGpuDriver.modify_sameDevices software
          (name allocation.device) fun _ => rfl)
      pools := hmatch.pools.insert_modify rfl hstate rfl
      faults := hmatch.faults.modify_kept fun _ => rfl
      allocations := hmatch.allocations.erase rfl }

theorem freeVram (hmatch : StoreMatch name vulkan software)
    (id : ObjectId) :
    Matched (StoreMatch name) (· = ·)
      (VulkanDriver.onTables (VulkanTables.freeVram id) vulkan)
      (SoftwareGpuDriver.freeVram (name id) software) := by
  have hrow := hmatch.allocations.row trivial (rfl : name id = name id)
  cases hlive : vulkan.tables.allocations.get id with
  | none =>
      rw [hlive] at hrow
      generalize hfound : software.allocations.get (name id) = found at hrow
      cases hrow with
      | none =>
          rw [VulkanDriver.onTables_run
              (VulkanTables.freeVram_of_unknown hlive),
            SoftwareGpuDriver.freeVram_of_unknown hfound]
          exact ⟨.error rfl, hmatch⟩
  | some allocation =>
      rw [hlive] at hrow
      generalize hfound : software.allocations.get (name id) = found at hrow
      cases hrow with
      | @some _ allocation' hsame =>
          obtain ⟨hgpu, hsize⟩ := hsame
          by_cases hknown : vulkan.tables.Knows allocation.device
          · obtain ⟨state, hstate, hpool⟩ := hmatch.of_known hknown
            have hstate' := hstate
            rw [← hgpu] at hstate'
            rw [VulkanDriver.onTables_run
                (VulkanTables.freeVram_of_live hlive hpool),
              SoftwareGpuDriver.freeVram_of_live hfound hstate']
            exact ⟨.ok rfl, hmatch.freed id hgpu hsize hstate hpool⟩
          · obtain ⟨hstate, hpool⟩ := hmatch.of_unknown hknown
            rw [← hgpu] at hstate
            rw [VulkanDriver.onTables_run
                (VulkanTables.freeVram_of_unpooled hlive hpool),
              SoftwareGpuDriver.freeVram_of_orphan hfound hstate]
            exact ⟨.error rfl, { hmatch with
              allocations := hmatch.allocations.erase rfl }⟩

end StoreMatch

section Drivers

variable {B : Type} [VulkanBackend B]

/-- Over a backend that accepts everything, the drivers are interchangeable. -/
theorem stores_interchangeable (name : Equiv.Perm ObjectId) :
    Interchangeable name (StoreMatch (B := B) name) where
  probe hmatch := hmatch.probe
  initializeDevice hmatch _ _ hinfo := hmatch.initializeDevice hinfo
  allocateVram hmatch hids := hmatch.allocateVram hids
  freeVram hmatch := hmatch.freeVram
  submit hmatch := hmatch.submit
  faultStatus hmatch := hmatch.faultStatus
  vramAvailable hmatch := hmatch.vramAvailable
  resetDevice hmatch := hmatch.resetDevice
  markFaulted hmatch := hmatch.markFaulted

variable {name : Equiv.Perm ObjectId}

/-- A new pool on one side is a new device on the other. -/
theorem pools_start (adapters : List BackendAdapterInfo) (vramBytes : Nat)
    {ids ids' : IdSource} (hids : ids.DrawsAs name ids') :
    RowsAgree (.total name)
      (fun left (state : DeviceState) => state.vramAvailable = left)
      (VulkanTables.perDevice vramBytes
        (VulkanTables.deviceInfos ids adapters))
      (SoftwareGpuDriver.deviceTable ids' vramBytes adapters.length) := by
  intro gpu _
  change Option.Rel _ _ (Table.get _ (name gpu))
  rw [VulkanTables.perDevice_get]
  by_cases hdrawn : ∃ index < adapters.length,
      gpu = ids.draw (ids.drawn + index)
  · rw [if_pos ((VulkanTables.mem_deviceInfos _ _ _).mpr hdrawn)]
    obtain ⟨index, hlt, rfl⟩ := hdrawn
    rw [← hids index]
    obtain ⟨state, hstate⟩ := SoftwareGpuDriver.deviceTable_drawn ids'
      vramBytes hlt
    rw [hstate]
    obtain ⟨_, -, -, rfl⟩ := SoftwareGpuDriver.deviceTable_get ids' vramBytes
      adapters.length hstate
    exact .some rfl
  · rw [if_neg (mt (VulkanTables.mem_deviceInfos _ _ _).mp hdrawn)]
    cases hstate : (SoftwareGpuDriver.deviceTable ids' vramBytes
        adapters.length).get (name gpu) with
    | none => exact .none
    | some state =>
        obtain ⟨index, hlt, hid, -⟩ := SoftwareGpuDriver.deviceTable_get ids'
          vramBytes adapters.length hstate
        rw [hids index] at hid
        exact absurd ⟨index, hlt, name.injective hid⟩ hdrawn

theorem storeMatch_start (adapters : List BackendAdapterInfo)
    (vramBytes : Nat) {ids ids' : IdSource} (hids : ids.DrawsAs name ids')
    {backend : B} (haccepts : AlwaysSucceeds backend) :
    StoreMatch name (VulkanDriver.start adapters vramBytes ids backend)
      (SoftwareGpuDriver.withDevices adapters.length vramBytes ids').1 where
  running := rfl
  accepts := haccepts
  pooled := VulkanTables.new_pooled adapters vramBytes ids
  keyed := SoftwareGpuDriver.keyed_withDevices adapters.length vramBytes ids'
  pools := pools_start adapters vramBytes hids
  faults := by
    intro gpu state hstate
    obtain ⟨_, -, -, rfl⟩ := SoftwareGpuDriver.deviceTable_get ids' vramBytes
      adapters.length hstate
    rfl
  allocations := .empty

end Drivers

end SherGraphics
