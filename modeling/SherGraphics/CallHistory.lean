/-
What the history of a run says about the state that it has reached.  The driver
may panic at any submission and any GPU may break at any step; which GPUs are
broken, which objects are live, what every timeline has signalled and how many
bytes are left are all there to be read off the calls made so far and their
answers.
-/
import SherGraphics.FaultLifecycle
import SherGraphics.LiveObjects
import SherGraphics.MemoryBooks
import SherGraphics.TableIntegrity

namespace SherGraphics

/-! ### The books of a driver that may panic -/

namespace PanickingDriver

instance : FreshAllocations PanickingDriver where
  fresh gpu size memoryClass driver after ids later allocation hrun := by
    change allocateVram gpu size memoryClass (driver, ids) = _ at hrun
    rw [allocateVram] at hrun
    cases hsoftware : SoftwareGpuDriver.allocateVram gpu size memoryClass
        (driver.software, ids) with
    | mk result world =>
        rw [hsoftware] at hrun
        cases hrun
        exact FreshAllocations.fresh gpu size memoryClass driver.software _ ids
          _ allocation hsoftware

/-- The call as the software driver sees it, unless it is a submission. -/
theorem call_software (world : PanickingDriver × IdSource) (call : DriverCall)
    (hsubmit : ∀ device workload ops, call ≠ .submit device workload ops) :
    (GpuDriver.call world call).2.1.software =
        (GpuDriver.call (world.1.software, world.2) call).2.1 ∧
      (GpuDriver.call world call).2.2 =
        (GpuDriver.call (world.1.software, world.2) call).2.2 := by
  cases call with
  | submit device workload ops => exact absurd rfl (hsubmit _ _ _)
  | _ => exact ⟨rfl, rfl⟩

/-- The pools are those of the software driver. -/
instance : AccountsVram PanickingDriver where
  ledger driver := driver.software.ledger
  Sound driver := driver.software.Keyed
  probed_iff driver device := AccountsVram.probed_iff driver.software device
  available driver device := AccountsVram.available driver.software device
  allocates := by
    intro driver ids device size memoryClass left hsound hleft hfits
    obtain ⟨address, after, hrun, hledger⟩ := AccountsVram.allocates
      driver.software ids device size memoryClass left hsound hleft hfits
    refine ⟨address, { driver with software := after }, ?_, hledger⟩
    change SoftwareGpuDriver.allocateVram _ _ _ _ = _ at hrun
    change allocateVram device size memoryClass (driver, ids) = _
    rw [allocateVram, hrun]
  refuses := by
    intro driver ids device size memoryClass hshort
    obtain ⟨error, hrun⟩ := AccountsVram.refuses driver.software ids device
      size memoryClass hshort
    refine ⟨error, ?_⟩
    change SoftwareGpuDriver.allocateVram _ _ _ _ = _ at hrun
    change allocateVram device size memoryClass (driver, ids) = _
    rw [allocateVram, hrun]
  frees := by
    intro driver name allocation left hlive hleft
    obtain ⟨after, hrun, hledger⟩ := AccountsVram.frees driver.software name
      allocation left hlive hleft
    refine ⟨{ driver with software := after }, ?_, hledger⟩
    change SoftwareGpuDriver.freeVram _ _ = _ at hrun
    change onSoftware (SoftwareGpuDriver.freeVram name) driver = _
    rw [onSoftware, hrun]
  unknown := by
    intro driver name hnone
    obtain ⟨error, hrun⟩ := AccountsVram.unknown driver.software name hnone
    refine ⟨error, ?_⟩
    change SoftwareGpuDriver.freeVram _ _ = _ at hrun
    change onSoftware (SoftwareGpuDriver.freeVram name) driver = _
    rw [onSoftware, hrun]
  keeps := by
    intro world call hkept
    by_cases hsubmit : ∃ device workload ops, call = .submit device workload ops
    · obtain ⟨device, workload, ops, rfl⟩ := hsubmit
      have hsame := submit_software world.1 device workload ops
      exact ⟨congrArg SoftwareGpuDriver.ledger hsame, rfl⟩
    · obtain ⟨hsame, hids⟩ := call_software world call
        fun device workload ops hcall => hsubmit ⟨_, _, _, hcall⟩
      obtain ⟨hledger, hdrawn⟩ := AccountsVram.keeps
        (world.1.software, world.2) call hkept
      exact ⟨(congrArg SoftwareGpuDriver.ledger hsame).trans hledger,
        hids.trans hdrawn⟩
  sound := by
    intro world call hsound
    by_cases hsubmit : ∃ device workload ops, call = .submit device workload ops
    · obtain ⟨device, workload, ops, rfl⟩ := hsubmit
      have hsame := submit_software world.1 device workload ops
      change (GpuDriver.submit device workload ops world.1).2.software.Keyed
      rw [hsame]
      exact hsound
    · obtain ⟨hsame, -⟩ := call_software world call
        fun device workload ops hcall => hsubmit ⟨_, _, _, hcall⟩
      rw [hsame]
      exact AccountsVram.sound (world.1.software, world.2) call hsound

end PanickingDriver

namespace GraphicsRuntime

section History

variable {P : Type}

/-- A fault was raised on the GPU, which has not been recovered since. -/
def Broken (past : List (FaultyEvent P)) (gpu : ObjectId) : Prop :=
  Ongoing (Raises · gpu) (Recovers · gpu) past

/-- An injected fault moves no VRAM. -/
theorem keepsBooks_toOp (op : FaultyOp) : KeepsBooks op.toOp := by
  cases op with
  | call op => exact keepsBooks_of_sealed op.property
  | inject caps gpu address description =>
      intro driver ids
      have hsame : ∀ {X : Type} {view : DeviceState → X},
          (∀ state, view { state with fault := some ⟨gpu, address, description⟩ } =
            view state) →
            SoftwareGpuDriver.SameDevices view driver.software
              (SoftwareGpuDriver.injectFault gpu address description
                driver.software) :=
        fun hview => SoftwareGpuDriver.modify_sameDevices _ gpu hview
      have hpool : SoftwareGpuDriver.SamePool driver.software
          (SoftwareGpuDriver.injectFault gpu address description
            driver.software) :=
        ⟨rfl, hsame fun _ => rfl⟩
      exact ⟨hpool.ledger_eq,
        fun hkeyed => SoftwareGpuDriver.Keyed.of_sameInfos hkeyed
          (hsame fun _ => rfl)⟩

/-- The state that a run has reached is what its history says. -/
structure CallHistory (installed : ObjectId → Prop) (pool : Nat)
    (past : List (FaultyEvent P)) (now : FaultyRuntime P) : Prop where
  known : GpusKnown now
  present : ∀ gpu,
    (∃ state, now.driver.software.devices.get gpu = some state) ↔ installed gpu
  sound : TablesSound now
  objects : ObjectHistory (past.map performed) now
  timelines : TimelineHistory (past.map performed) now
  books : BooksHistory pool (past.map performed) now
  faults : ∀ gpu, installed gpu →
    ((∃ fault, faultOf now gpu = some fault) ↔ Broken past gpu)

variable {installed : ObjectId → Prop} {pool : Nat}
  {past : List (FaultyEvent P)} {now : FaultyRuntime P} {gpu : ObjectId}

section Step

variable [GPUDriver P]

/-- A fault that is raised is there. -/
theorem raises_breaks (hknown : GpusKnown now) (op : FaultyOp)
    (hraises : Raises (Machine.event faultyStep now op) gpu)
    (hgpu : ∃ state, now.driver.software.devices.get gpu = some state) :
    ∃ fault, faultOf (faultyStep now op).2 gpu = some fault := by
  rcases hraises with
    ⟨caps, address, description, hop, hadmin⟩ | ⟨context, payload, hpanics⟩
  · change op = _ at hop
    subst hop
    obtain ⟨state, hgpu⟩ := hgpu
    have hgranted : requireCapability caps .gpuAdmin = .ok () := by
      rw [requireCapability, if_pos hadmin]
    refine ⟨⟨gpu, address, description⟩, ?_⟩
    rw [faultyStep, FaultyOp.toOp, step, perform, driverMut, hgranted]
    exact SoftwareGpuDriver.recordedFault_injectFault hgpu address description
  · exact ⟨_, (hpanics.contained hknown).2.2⟩

/-- A GPU is broken after a step if the step raises a fault on it, or it was
broken and the step does not recover it. -/
theorem broken_step (hknown : GpusKnown now) (op : FaultyOp)
    (hgpu : ∃ state, now.driver.software.devices.get gpu = some state) :
    let e := Machine.event faultyStep now op
    (∃ fault, faultOf e.after gpu = some fault) ↔
      Raises e gpu ∨ (∃ fault, faultOf now gpu = some fault) ∧
        ¬ Recovers e gpu := by
  intro e
  have heffect : FaultEffect now e.after op e.answer :=
    (step_effect now op.toOp).onFaults op
  constructor
  · rintro ⟨fault, hfault⟩
    by_cases hraises : Raises e gpu
    · exact Or.inl hraises
    · refine Or.inr ⟨?_, ?_⟩
      · by_contra hclear
        have hnone : faultOf now gpu = none :=
          Option.eq_none_iff_forall_ne_some.mpr fun fault hsome =>
            hclear ⟨fault, hsome⟩
        cases (heffect.stays_clear hnone hraises).symm.trans hfault
      · intro hrecovers
        cases (heffect.clears hrecovers).symm.trans hfault
  · rintro (hraises | ⟨⟨fault, hfault⟩, hrecovers⟩)
    · exact raises_breaks hknown op hraises hgpu
    · by_contra hclear
      have hnone : faultOf e.after gpu = none :=
        Option.eq_none_iff_forall_ne_some.mpr fun fault hsome =>
          hclear ⟨fault, hsome⟩
      exact hrecovers (heffect.cleared_by hfault hnone)

theorem CallHistory.extend (hhistory : CallHistory installed pool past now)
    (op : FaultyOp) :
    CallHistory installed pool (past ++ [Machine.event faultyStep now op])
      (faultyStep now op).2 := by
  have heffect := step_effect now op.toOp
  have hinfos := (heffect.onFaults op).sameInfos
  have hcalls : (past ++ [Machine.event faultyStep now op]).map performed =
      past.map performed ++ [Machine.event step now op.toOp] := by
    rw [List.map_append]
    rfl
  constructor
  · exact hhistory.known.preserved op heffect
  · intro gpu
    rw [← hhistory.present gpu]
    constructor
    · rintro ⟨state, hafter⟩
      obtain ⟨old, hold, -⟩ := hinfos.before hafter
      exact ⟨old, hold⟩
    · rintro ⟨state, hbefore⟩
      obtain ⟨new, hnew, -⟩ := hinfos.after hbefore
      exact ⟨new, hnew⟩
  · exact hhistory.sound.preserved heffect
  · rw [hcalls]
    exact hhistory.objects.extend op.toOp
  · rw [hcalls]
    exact hhistory.timelines.extend heffect
  · rw [hcalls]
    exact hhistory.books.extend heffect (keepsBooks_toOp op)
  · intro gpu hinstalled
    have hstep := broken_step hhistory.known op ((hhistory.present gpu).mpr
      hinstalled)
    rw [Broken, ongoing_concat, ← Broken, ← hhistory.faults gpu hinstalled]
    exact hstep

/-! ### From the start -/

/-- The GPUs of a driver built by `with_devices`. -/
def InstalledBy (count : Nat) (ids : IdSource) (gpu : ObjectId) : Prop :=
  ∃ index < count, gpu = ids.draw (ids.drawn + index)

theorem callHistory_start (count vramBytesPerDevice presentationVramBytes : Nat)
    (schedule : Nat → Option PanicPayload) (ids : IdSource) :
    CallHistory (InstalledBy count ids) vramBytesPerDevice []
      (overPanicking count vramBytesPerDevice presentationVramBytes schedule
        ids : FaultyRuntime P) where
  known := gpusKnown_start count _ _ schedule ids
  present gpu := by
    constructor
    · rintro ⟨state, hgpu⟩
      obtain ⟨index, hlt, hid, -⟩ :=
        SoftwareGpuDriver.deviceTable_get ids vramBytesPerDevice count hgpu
      exact ⟨index, hlt, hid⟩
    · rintro ⟨index, hlt, rfl⟩
      exact SoftwareGpuDriver.deviceTable_drawn ids vramBytesPerDevice hlt
  sound := tablesSound_new _ _ _
  objects := objectHistory_new _ _ _
  timelines := timelineHistory_new _ _ _
  books := by
    let software := SoftwareGpuDriver.withDevices count vramBytesPerDevice ids
    let driver : PanickingDriver := ⟨software.1, schedule, 0⟩
    have hsoftware := SoftwareGpuDriver.inBalance_withDevices count
      vramBytesPerDevice ids
    have hbooks : InBalance vramBytesPerDevice driver software.2 :=
      ⟨hsoftware.sound, hsoftware.balanced, hsoftware.issued⟩
    exact booksHistory_new (P := P) hbooks rfl presentationVramBytes
  faults gpu hinstalled := by
    obtain ⟨index, hlt, rfl⟩ := hinstalled
    refine iff_of_false ?_ not_ongoing_nil
    rintro ⟨fault, hfault⟩
    obtain ⟨state, hstate, hrecorded⟩ := Option.bind_eq_some_iff.mp hfault
    obtain ⟨other, -, -, rfl⟩ :=
      SoftwareGpuDriver.deviceTable_get ids vramBytesPerDevice count hstate
    cases hrecorded

theorem callHistory_run (count vramBytesPerDevice presentationVramBytes : Nat)
    (schedule : Nat → Option PanicPayload) (ids : IdSource)
    (ops : List FaultyOp) :
    let start : FaultyRuntime P := overPanicking count vramBytesPerDevice
      presentationVramBytes schedule ids
    CallHistory (InstalledBy count ids) vramBytesPerDevice
      (Machine.trace faultyStep start ops) (Machine.run faultyStep start ops) :=
  Machine.history_invariant
    (callHistory_start (P := P) count _ _ schedule ids)
    (fun _ _ op hhistory => hhistory.extend op) ops

end Step

end History

end GraphicsRuntime

end SherGraphics
