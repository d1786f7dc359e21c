/-
The faults of a runtime over a driver that may panic.  The driver keeps one
fault for each GPU and the runtime any number of contexts on it; a step raises
a fault, clears one, or leaves all of them as they are.
-/
import SherGraphics.PanickingDriver

namespace SherGraphics

abbrev FaultyRuntime (P : Type) := GraphicsRuntime PanickingDriver P

/-- A call that does not borrow the driver, or a borrow that only breaks a
GPU. -/
inductive FaultyOp where
  | call (op : SealedOp PanickingDriver)
  | inject (caps : CapabilitySet) (gpu : ObjectId) (address : Nat)
      (description : String)

def FaultyOp.toOp : FaultyOp → Op PanickingDriver
  | .call op => op.val
  | .inject caps gpu address description =>
      .driverMut caps (PanickingDriver.injection gpu address description)

namespace GraphicsRuntime

open SoftwareGpuDriver (SameDevices faultView)

variable {P : Type}

/-- The runtime with an environment that may break GPUs. -/
def faultyStep [GPUDriver P] (runtime : FaultyRuntime P) (op : FaultyOp) :
    Result Reply × FaultyRuntime P :=
  step runtime op.toOp

/-- A runtime over a `SoftwareGpuDriver` built by `with_devices`, whose
`submit` panics on schedule. -/
def overPanicking [GPUDriver P]
    (count vramBytesPerDevice presentationVramBytes : Nat)
    (schedule : Nat → Option PanicPayload) (ids : IdSource) :
    FaultyRuntime P :=
  let (software, ids) :=
    SoftwareGpuDriver.withDevices count vramBytesPerDevice ids
  new ⟨software, schedule, 0⟩ presentationVramBytes ids

/-- The fault recorded for a GPU. -/
def faultOf (runtime : FaultyRuntime P) (gpu : ObjectId) : Option GpuFault :=
  runtime.driver.software.recordedFault gpu

/-- A submission passes the checks of `submit`, and the driver panics. -/
def PanicsOn (runtime : FaultyRuntime P) (op : Op PanickingDriver)
    (context gpu : ObjectId) (payload : PanicPayload) : Prop :=
  ∃ queue stream timeline signalValue,
    op = .submit queue stream timeline signalValue ∧
      stream.device = context ∧
        SubmitReady runtime queue stream timeline signalValue gpu ∧
          (GpuDriver.submit gpu queue.workload (translateOps stream.ops)
            runtime.driver).1 = .panicked payload

/-- What a step does to the recorded faults. -/
inductive FaultEffect (before after : FaultyRuntime P) :
    FaultyOp → Result Reply → Prop
  | kept {op : FaultyOp} {answer : Result Reply}
      (hrecover : ∀ id caps, op.toOp = .recoverDevice id caps → ¬ IsOk answer)
      (hsame : SameDevices faultView before.driver.software
        after.driver.software) :
      FaultEffect before after op answer
  | injected {caps : CapabilitySet} {gpu : ObjectId} {address : Nat}
      {description : String}
      (hadmin : caps.hasCapability .gpuAdmin = true)
      (hsoftware : after.driver.software = SoftwareGpuDriver.injectFault gpu
        address description before.driver.software) :
      FaultEffect before after (.inject caps gpu address description)
        (.ok .unit)
  | panicked {op : SealedOp PanickingDriver} {context gpu : ObjectId}
      {payload : PanicPayload} {error : Error}
      (hpanics : PanicsOn before op.val context gpu payload)
      (hsoftware : after.driver.software = SoftwareGpuDriver.injectFault gpu 0
        (panicMessage payload) before.driver.software) :
      FaultEffect before after (.call op) (.error error)
  | cleared {op : SealedOp PanickingDriver} {id : ObjectId}
      {caps : CapabilitySet} {found : GraphicsDevice}
      (hop : op.val = .recoverDevice id caps)
      (hadmin : caps.hasCapability .gpuAdmin = true)
      (hcontext : before.devices.get id = some found)
      (hsoftware : after.driver.software =
        before.driver.software.afterReset found.gpu) :
      FaultEffect before after (.call op) (.ok .unit)

section Effects

variable {before after : FaultyRuntime P} {op : FaultyOp}
  {answer : Result Reply}

theorem IdleCall.faultView {driver later : PanickingDriver}
    (hidle : IdleCall driver later) :
    SameDevices faultView driver.software later.software := by
  cases hidle with
  | none => exact .refl driver.software
  | refusedInitialize info error hrefused =>
      exact SoftwareGpuDriver.initializeDevice_faultView driver.software info
  | refusedAllocation ids gpu size memoryClass error hrefused =>
      exact SoftwareGpuDriver.allocateVram_faultView driver.software ids gpu
        size memoryClass
  | refusedSubmit gpu workload ops error hrefused =>
      rw [PanickingDriver.submit_software]
      exact .refl driver.software
  | refusedReset gpu error hrefused =>
      exact SoftwareGpuDriver.resetDevice_faultView driver.software hrefused

theorem Effect.onFaults (op : FaultyOp)
    (heffect : Effect before op.toOp answer after) :
    FaultEffect before after op answer := by
  cases op with
  | inject caps gpu address description =>
      cases heffect with
      | quiet hanswer hsealed htables hids hdriver => exact absurd hsealed id
      | borrowed hadmin => exact .injected hadmin rfl
      | notBorrowed hdenied => exact .kept (by simp [FaultyOp.toOp]) (.refl _)
  | call op =>
      obtain ⟨op, hsealed⟩ := op
      change Effect before op answer after at heffect
      cases heffect with
      | quiet hanswer _ htables hids hdriver =>
          refine .kept ?_ hdriver.faultView
          rintro id caps rfl hok
          exact hanswer hok trivial
      | borrowed hadmin => exact absurd hsealed id
      | notBorrowed hdenied => exact absurd hsealed id
      | @createdDevice gpu caps known info hgranted hprobe hfind =>
          exact .kept (by simp [FaultyOp.toOp])
            (SoftwareGpuDriver.initializeDevice_faultView
              before.driver.software info)
      | createdTimeline hcontext => exact .kept (by simp [FaultyOp.toOp]) (.refl _)
      | @createdResource id kind memoryClass found allocation driver ids
          hcontext hallocated =>
          have hview : SameDevices faultView before.driver.software
              (GpuDriver.allocateVram found.gpu (resourceSize kind)
                memoryClass (before.driver, before.ids)).2.1.software :=
            SoftwareGpuDriver.allocateVram_faultView _ _ _ _ _
          rw [hallocated] at hview
          exact .kept (by simp [FaultyOp.toOp]) hview
      | createdShader hcontext => exact .kept (by simp [FaultyOp.toOp]) (.refl _)
      | createdPipeline hcontext hshader => exact .kept (by simp [FaultyOp.toOp]) (.refl _)
      | @submitted queue stream timeline gpu value driver hready haccepted =>
          have hsoftware := PanickingDriver.submit_software before.driver gpu
            queue.workload (translateOps stream.ops)
          rw [haccepted] at hsoftware
          refine .kept (by simp [FaultyOp.toOp]) ?_
          change SameDevices faultView before.driver.software driver.software
          rw [hsoftware]
          exact .refl _
      | @panicked queue stream timeline gpu value driver payload hready
          hpanicked =>
          have hsoftware := PanickingDriver.submit_software before.driver gpu
            queue.workload (translateOps stream.ops)
          rw [hpanicked] at hsoftware
          have hpanics : PanicsOn before
              (.submit queue stream timeline value) stream.device gpu
              payload :=
            ⟨queue, stream, timeline, value, rfl, rfl, hready,
              congrArg Prod.fst hpanicked⟩
          refine .panicked hpanics ?_
          change SoftwareGpuDriver.markFaulted gpu (panicMessage payload)
            driver.software = _
          rw [hsoftware]
          rfl
      | @freed name row hrow =>
          exact .kept (by simp [FaultyOp.toOp])
            (SoftwareGpuDriver.freeVram_faultView before.driver.software name)
      | @recovered id caps found driver hadmin hcontext hreset =>
          have hdriver := congrArg (fun result => result.2.software) hreset
          have haccepted : (SoftwareGpuDriver.resetDevice found.gpu
              before.driver.software).1 = .ok () := congrArg Prod.fst hreset
          have hcleared := SoftwareGpuDriver.resetDevice_of_ok _ haccepted
          exact .cleared rfl hadmin hcontext (hdriver.symm.trans hcleared)

theorem FaultEffect.sameInfos (heffect : FaultEffect before after op answer) :
    SameDevices DeviceState.info before.driver.software
      after.driver.software := by
  cases heffect with
  | kept hrecover hsame => exact hsame.map Prod.fst
  | @injected caps gpu address description hadmin hsoftware =>
      rw [hsoftware]
      exact SoftwareGpuDriver.modify_sameDevices _ gpu fun _ => rfl
  | @panicked op context gpu payload error hpanics hsoftware =>
      rw [hsoftware]
      exact SoftwareGpuDriver.modify_sameDevices _ gpu fun _ => rfl
  | @cleared op id caps found hop hadmin hcontext hsoftware =>
      rw [hsoftware]
      exact SoftwareGpuDriver.modify_sameDevices _ found.gpu fun _ => rfl

end Effects

/-! ### Known GPUs -/

section Known

/-- The driver files every GPU under its own identifier and knows the GPU of
every context. -/
structure GpusKnown (now : FaultyRuntime P) : Prop where
  contexts : ContextsIssued now
  keyed : now.driver.software.Keyed
  known : ∀ id found, now.devices.get id = some found →
    ∃ state, now.driver.software.devices.get found.gpu = some state

variable {before after now : FaultyRuntime P} {op : FaultyOp}
  {answer : Result Reply}

/-- What `probe` finds under an identifier is the GPU of that identifier. -/
theorem GpusKnown.of_probe (hknown : GpusKnown now)
    {listed : List DeviceInfo} {info : DeviceInfo} {gpu : ObjectId}
    (hprobe : GpuDriver.probe now.driver = .ok listed)
    (hfind : listed.find? (fun info => info.id = gpu) = some info) :
    ∃ state, now.driver.software.devices.get gpu = some state := by
  cases hprobe
  rw [hknown.keyed.find_probed gpu, Option.map_eq_some_iff] at hfind
  obtain ⟨state, hgpu, -⟩ := hfind
  exact ⟨state, hgpu⟩

/-- Every GPU of the driver is found by `probe`. -/
theorem GpusKnown.probe_finds (hknown : GpusKnown now) {gpu : ObjectId}
    {state : DeviceState}
    (hgpu : now.driver.software.devices.get gpu = some state) :
    ∃ listed info, GpuDriver.probe now.driver = .ok listed ∧
      listed.find? (fun info => info.id = gpu) = some info ∧
        info.id = gpu := by
  have hfind := hknown.keyed.find_probed gpu
  rw [hgpu] at hfind
  exact ⟨_, state.info, rfl, hfind, hknown.keyed gpu state hgpu⟩

/-- A context can be opened on every GPU of the driver. -/
theorem GpusKnown.createDevice_ok (hknown : GpusKnown now) {gpu : ObjectId}
    {caps : CapabilitySet} (hgranted : caps.hasCapability .gpuMemoryAlloc = true)
    (hgpu : ∃ state, now.driver.software.devices.get gpu = some state) :
    (createDevice gpu caps now).1 = .ok (createdDevice now.ids gpu) := by
  obtain ⟨state, hgpu⟩ := hgpu
  obtain ⟨listed, info, hprobe, hfind, rfl⟩ := hknown.probe_finds hgpu
  have hinit : (SoftwareGpuDriver.initializeDevice info
      now.driver.software).1 = .ok () := by
    rw [SoftwareGpuDriver.initializeDevice,
      SoftwareGpuDriver.updateState_of_known hgpu]
  exact createDevice_of_found now hgranted hprobe hfind hinit

theorem GpusKnown.preserved (hknown : GpusKnown before) (op : FaultyOp)
    (heffect : Effect before op.toOp answer after) : GpusKnown after := by
  have hinfos := (heffect.onFaults op).sameInfos
  refine ⟨hknown.contexts.preserved heffect,
    hknown.keyed.of_sameInfos hinfos, ?_⟩
  intro id found hcontext
  have hstill : ∀ gpu,
      (∃ state, before.driver.software.devices.get gpu = some state) →
        ∃ state, after.driver.software.devices.get gpu = some state := by
    rintro gpu ⟨state, hgpu⟩
    obtain ⟨new, hnew, hinfo⟩ := hinfos.after hgpu
    exact ⟨new, hnew⟩
  apply hstill
  generalize op.toOp = performed at heffect
  cases heffect with
  | createdDevice hgranted hprobe hfind =>
      rcases Table.row_of_insert hcontext with ⟨-, rfl⟩ | ⟨-, hcontext⟩
      · exact hknown.of_probe hprobe hfind
      · exact hknown.known id found hcontext
  | quiet hanswer hsealed htables hids hdriver =>
      have hdevices : after.devices = before.devices :=
        congrArg ObjectTables.devices htables
      rw [hdevices] at hcontext
      exact hknown.known id found hcontext
  | @recovered dropped caps row driver hadmin hlive hreset =>
      change (before.devices.erase dropped).get id = some found at hcontext
      obtain ⟨-, hcontext⟩ := Table.row_of_erase hcontext
      exact hknown.known id found hcontext
  | _ => exact hknown.known id found hcontext

theorem gpusKnown_start [GPUDriver P]
    (count vramBytesPerDevice presentationVramBytes : Nat)
    (schedule : Nat → Option PanicPayload) (ids : IdSource) :
    GpusKnown (overPanicking count vramBytesPerDevice presentationVramBytes
      schedule ids : FaultyRuntime P) where
  contexts := by simp [ContextsIssued, overPanicking, new]
  keyed := SoftwareGpuDriver.keyed_withDevices count vramBytesPerDevice ids
  known := by simp [overPanicking, new]

end Known

/-! ### Submitting and the record -/

section Submit

variable {now : FaultyRuntime P}

theorem PanicsOn.context {op : Op PanickingDriver} {context gpu : ObjectId}
    {payload : PanicPayload} (hpanics : PanicsOn now op context gpu payload) :
    ∃ found, now.devices.get context = some found ∧ found.gpu = gpu := by
  obtain ⟨queue, stream, timeline, signalValue, -, rfl, hready, -⟩ := hpanics
  exact hready.context

/-- A faulted GPU accepts no submission. -/
theorem not_accepted_of_faulted {driver later : PanickingDriver}
    {gpu : ObjectId} {fault : GpuFault} {workload : WorkloadClass}
    {ops : List DriverOp}
    (hfault : driver.software.recordedFault gpu = some fault) :
    GpuDriver.submit gpu workload ops driver ≠
      (.returned (.ok ()), later) := by
  intro haccepted
  have houtcome := congrArg Prod.fst haccepted
  change (PanickingDriver.submit gpu workload ops driver).1 = _ at houtcome
  obtain ⟨error, hrefused⟩ := SoftwareGpuDriver.submit_of_faulted
    driver.software hfault workload ops
  rw [PanickingDriver.submit] at houtcome
  cases hschedule : driver.schedule driver.submits with
  | none =>
      simp only [hschedule, hrefused] at houtcome
      cases houtcome
  | some payload =>
      simp only [hschedule] at houtcome
      cases houtcome

/-- A GPU that is known and carries no fault accepts every submission during
which the driver does not panic. -/
theorem accepted_of_clear {driver : PanickingDriver} {gpu : ObjectId}
    {state : DeviceState}
    (hgpu : driver.software.devices.get gpu = some state)
    (hclear : driver.software.recordedFault gpu = none)
    {workload : WorkloadClass} {ops : List DriverOp}
    (hquiet : ∀ payload,
      (GpuDriver.submit gpu workload ops driver).1 ≠ .panicked payload) :
    ∃ later, GpuDriver.submit gpu workload ops driver =
      (.returned (.ok ()), later) := by
  change ∀ payload, (PanickingDriver.submit gpu workload ops driver).1 ≠ _
    at hquiet
  change ∃ later, PanickingDriver.submit gpu workload ops driver = _
  rw [PanickingDriver.submit] at hquiet ⊢
  cases hschedule : driver.schedule driver.submits with
  | none =>
      rw [SoftwareGpuDriver.submit_of_clear _ hgpu hclear]
      exact ⟨_, rfl⟩
  | some payload =>
      simp only [hschedule] at hquiet
      exact absurd rfl (hquiet payload)

/-- A context of a known GPU reports the recorded fault. -/
theorem deviceFault_of_live (hknown : GpusKnown now) {id : ObjectId}
    {found : GraphicsDevice} (hcontext : now.devices.get id = some found) :
    (deviceFault id now).1 = .ok (faultOf now found.gpu) := by
  obtain ⟨state, hstate⟩ := hknown.known id found hcontext
  rw [deviceFault, Method.bind_of_ok (device_of_live now hcontext),
    Method.read_bind, Method.ofResult_run]
  exact SoftwareGpuDriver.faultStatus_of_known _ hstate

variable [GPUDriver P]

/-- A panic of the driver ends in an error and a recorded fault, and no
timeline moves. -/
theorem PanicsOn.contained (hknown : GpusKnown now)
    {op : Op PanickingDriver} {context gpu : ObjectId}
    {payload : PanicPayload} (hpanics : PanicsOn now op context gpu payload) :
    ¬ IsOk (step now op).1 ∧ (step now op).2.timelines = now.timelines ∧
      faultOf (step now op).2 gpu =
        some ⟨gpu, 0, panicMessage payload⟩ := by
  obtain ⟨found, hcontext, hgpu⟩ := hpanics.context
  obtain ⟨state, hstate⟩ := hknown.known context found hcontext
  rw [hgpu] at hstate
  obtain ⟨queue, stream, timeline, signalValue, rfl, -, hready, houtcome⟩ :=
    hpanics
  have hsoftware := PanickingDriver.submit_software now.driver gpu
    queue.workload (translateOps stream.ops)
  have hrun := submit_of_panicked now hready (Prod.ext houtcome rfl)
  rw [step, perform, Method.map_run, hrun]
  refine ⟨by simp [Except.map], rfl, ?_⟩
  rw [← hsoftware] at hstate
  exact SoftwareGpuDriver.recordedFault_injectFault hstate 0 _

/-- A submission is refused when the GPU of its context, if that is live at
all, carries a fault. -/
theorem submit_of_faultOf {queue : QueueHandle} {stream : CommandStream}
    {timeline : ObjectId} {signalValue : Nat}
    (hfault : ∀ found, now.devices.get stream.device = some found →
      ∃ fault, faultOf now found.gpu = some fault) :
    ¬ IsOk (step now (.submit queue stream timeline signalValue)).1 ∧
      (step now (.submit queue stream timeline signalValue)).2.timelines =
        now.timelines := by
  have heffect := step_effect now (.submit queue stream timeline signalValue)
  generalize (step now (.submit queue stream timeline signalValue)).1 =
    answer at heffect
  generalize (step now (.submit queue stream timeline signalValue)).2 =
    after at heffect
  cases heffect with
  | quiet hanswer hsealed htables hids hdriver =>
      exact ⟨fun hok => hanswer hok trivial,
        congrArg ObjectTables.timelines htables⟩
  | submitted hready haccepted =>
      obtain ⟨found, hcontext, rfl⟩ := hready.context
      obtain ⟨fault, hrecorded⟩ := hfault found hcontext
      exact absurd haccepted (not_accepted_of_faulted hrecorded)
  | panicked hready hpanicked => exact ⟨not_isOk_error _, rfl⟩

end Submit

end GraphicsRuntime

end SherGraphics
