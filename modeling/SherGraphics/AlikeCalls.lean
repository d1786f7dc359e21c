/-
The agreement away from one GPU as a pairing of the two runtimes.  A call on
objects of another GPU has the same answer on both, up to the names of the
identifiers in it, and the runtimes still agree; so do they after a call on
the display.
-/
import SherGraphics.RuntimeAgreement

namespace SherGraphics

namespace GraphicsRuntime

open Method

variable {P : Type}

/-- The reply on one side is the reply on the other under its new names. -/
def ReplyAgree (naming : Renaming ObjectId) (reply reply' : Reply) : Prop :=
  (∀ id ∈ reply.names, naming.covers id) ∧ reply.rename naming.perm = reply'

/-! ### The laws of the pairing -/

section Laws

variable {away : ObjectId} {foreign : ObjectId → Prop}
  {naming : Renaming ObjectId} {left right : SoftwareRuntime P}

theorem Agree.sameRows (hagree : Agree away foreign naming left right) :
    SameRows (· ≠ away) id naming left right where
  devices := hagree.devices.rows
  deviceCaps := hagree.deviceCaps.rows
  resources := hagree.resources.rows
  shaders := hagree.shaders.rows
  pipelines := hagree.pipelines.rows
  timelines := hagree.timelines.rows

variable {id id' : ObjectId}

theorem Agree.issued_of (hagree : Agree away foreign naming left right)
    (hsame : SameContext naming id id') :
    left.ids.Issued id ∧ right.ids.Issued id' := by
  rw [← hsame.2]
  exact hagree.issued id hsame.1

/-- A new context is registered with its capability set on both sides. -/
theorem Agree.registered (hagree : Agree away foreign naming left right)
    {created created' : GraphicsDevice} (caps : CapabilitySet)
    (hnew : SameContext naming created.id created'.id)
    (hsame : created'.gpu = created.gpu) (hgpu : created.gpu ≠ away) :
    Agree away foreign naming
      { left with
        devices := left.devices.insert created.id created
        deviceCaps := left.deviceCaps.insert created.id caps }
      { right with
        devices := right.devices.insert created'.id created'
        deviceCaps := right.deviceCaps.insert created'.id caps } := by
  obtain ⟨hissued, hissued'⟩ := hagree.issued_of hnew
  refine { hagree with
    devices := hagree.devices.insert hnew.2 hissued hissued' ⟨hsame, hgpu⟩
    deviceCaps := hagree.deviceCaps.insert hnew.2 hissued hissued' rfl
    foreignContexts := ?_ }
  intro other found hforeign hrow
  have hne : other ≠ created.id := by
    rintro rfl
    exact hagree.foreignApart _ hforeign hnew.1
  rw [Table.get_insert_ne _ _ hne] at hrow
  exact hagree.foreignContexts other found hforeign hrow

/-- The context is dropped on both sides, with the rows of its objects. -/
theorem Agree.dropped {left right : SoftwareRuntime P}
    (hagree : Agree away foreign naming left right)
    (hid : SameContext naming id id') :
    Agree away foreign naming (dropContext id left)
      (dropContext id' right) := by
  have hresources : TableAgree naming _ _ _
      (left.resources.retain fun _ row => row.device ≠ id)
      (right.resources.retain fun _ row => row.device ≠ id') :=
    hagree.resources.retain fun _ _ _ _ hrel => hid.kept_eq hrel.1
  have hshaders : TableAgree naming _ _ _
      (left.shaders.retain fun _ row => row.device ≠ id)
      (right.shaders.retain fun _ row => row.device ≠ id') :=
    hagree.shaders.retain fun _ _ _ _ hrel => hid.kept_eq hrel
  have hpipelines : TableAgree naming _ _ _
      (left.pipelines.retain fun _ row => row.device ≠ id)
      (right.pipelines.retain fun _ row => row.device ≠ id') :=
    hagree.pipelines.retain fun _ _ _ _ hrel => hid.kept_eq hrel
  refine { hagree with
    devices := hagree.devices.erase hid.2
    deviceCaps := hagree.deviceCaps.erase hid.2
    resources := hresources
    shaders := hshaders
    pipelines := hpipelines
    foreignContexts := ?_ }
  intro other found hforeign hrow
  change (left.devices.erase id).get other = some found at hrow
  obtain ⟨-, hrow⟩ := Table.row_of_erase hrow
  exact hagree.foreignContexts other found hforeign hrow

/-- Both sides know the GPU or neither does. -/
theorem Agree.probed (hagree : Agree away foreign naming left right)
    {gpu : ObjectId} (hgpu : gpu ≠ away) :
    Option.Rel (fun one other : DeviceInfo => one.id = gpu ∧ other.id = gpu)
      ((left.driver.devices.values.map DeviceState.info).find?
        fun info => info.id = gpu)
      ((right.driver.devices.values.map DeviceState.info).find?
        fun info => info.id = gpu) := by
  rw [hagree.driver.keyed.find_probed gpu,
    hagree.driver.keyed'.find_probed gpu, hagree.driver.devices gpu hgpu]
  cases hstate : left.driver.devices.get gpu with
  | none => exact .none
  | some state =>
      have hid := hagree.driver.keyed gpu state hstate
      exact .some ⟨hid, hid⟩

theorem alike_initializeDevice {info info' : DeviceInfo}
    (hgpu : info.id ≠ away) (hsame : info'.id = info.id) :
    Alike (P := P) away foreign naming (fun _ => (· = ·))
      (onDriver (GpuDriver.initializeDevice info))
      (onDriver (GpuDriver.initializeDevice info')) := by
  have hupdate : Alike (P := P) away foreign naming (fun _ => (· = ·))
      (onDriver (SoftwareGpuDriver.updateState info.id fun state =>
        { state with initialized := true }))
      (onDriver (SoftwareGpuDriver.updateState info.id fun state =>
        { state with initialized := true })) :=
    alike_updateState hgpu fun _ => rfl
  change Alike _ _ _ _ _ (onDriver (SoftwareGpuDriver.updateState info'.id _))
  rw [hsame]
  exact hupdate

theorem Agree.faultStatus (hagree : Agree away foreign naming left right)
    {gpu : ObjectId} (hgpu : gpu ≠ away) :
    SoftwareGpuDriver.faultStatus right.driver gpu =
      SoftwareGpuDriver.faultStatus left.driver gpu := by
  have hdevice := hagree.driver.devices gpu hgpu
  cases hstate : left.driver.devices.get gpu with
  | none =>
      rw [SoftwareGpuDriver.faultStatus, SoftwareGpuDriver.faultStatus,
        SoftwareGpuDriver.state_of_unknown hstate,
        SoftwareGpuDriver.state_of_unknown (hdevice.trans hstate)]
  | some state =>
      rw [SoftwareGpuDriver.faultStatus, SoftwareGpuDriver.faultStatus,
        SoftwareGpuDriver.state_of_known hstate,
        SoftwareGpuDriver.state_of_known (hdevice.trans hstate)]

/-- The reference driver's answer depends on the state of the GPU alone. -/
theorem accept_of_same {left right : SoftwareGpuDriver} {gpu : ObjectId}
    (hsame : right.devices.get gpu = left.devices.get gpu) :
    (SoftwareGpuDriver.accept gpu right).1 =
      (SoftwareGpuDriver.accept gpu left).1 := by
  cases hstate : left.devices.get gpu with
  | none =>
      rw [SoftwareGpuDriver.accept, bind_of_error
          (SoftwareGpuDriver.state_of_unknown hstate), bind_of_error
          (SoftwareGpuDriver.state_of_unknown (hsame.trans hstate))]
  | some state =>
      rw [SoftwareGpuDriver.accept, bind_of_ok
          (SoftwareGpuDriver.state_of_known hstate), bind_of_ok
          (SoftwareGpuDriver.state_of_known (hsame.trans hstate))]
      cases state.fault with
      | none => rfl
      | some fault => rfl

theorem submitToDriver_software (runtime : SoftwareRuntime P)
    (gpu : ObjectId) (workload : WorkloadClass) (ops : List DriverOp) :
    submitToDriver gpu workload ops runtime =
      ((SoftwareGpuDriver.accept gpu runtime.driver).1, runtime) := by
  have hsent : GpuDriver.submit gpu workload ops runtime.driver =
      (.returned (SoftwareGpuDriver.accept gpu runtime.driver).1,
        runtime.driver) :=
    Prod.ext rfl (SoftwareGpuDriver.accept_unchanged runtime.driver gpu)
  rw [submitToDriver, hsent]

theorem alike_submitToDriver {gpu : ObjectId} (hgpu : gpu ≠ away)
    (workload : WorkloadClass) (ops ops' : List DriverOp) :
    Alike (P := P) away foreign naming (fun _ => (· = ·))
      (submitToDriver gpu workload ops) (submitToDriver gpu workload ops') := by
  apply Simulates.of_runs
  intro left right hagree
  have hanswer := accept_of_same (hagree.driver.devices gpu hgpu)
  refine ⟨naming, _, _, _, _, submitToDriver_software left gpu workload ops,
    submitToDriver_software right gpu workload ops', le_rfl, ?_, hagree⟩
  rw [hanswer]
  cases (SoftwareGpuDriver.accept gpu left.driver).1 with
  | ok value => exact .ok rfl
  | error error => exact .error rfl

end Laws

/-- The runtimes that agree on everything but a GPU.  GPUs keep their names. -/
def isolation (away : ObjectId) (foreign : ObjectId → Prop) :
    RuntimePairing SoftwareGpuDriver P where
  related := Agree away foreign
  compared := (· ≠ away)
  gpuName := id
  rows hagree := hagree.sameRows
  audited _ _ hagree := { hagree with }
  drawn hagree :=
    ⟨_, hagree.le_cover, ⟨Or.inl rfl, Renaming.cover_perm _ _ _⟩,
      hagree.draw⟩
  registered caps hagree hnew hsame hgpu :=
    hagree.registered caps hnew hsame hgpu
  signaled _ hagree htimeline := { hagree with
    timelines := hagree.timelines.insert htimeline.2
      (hagree.issued_of htimeline).1 (hagree.issued_of htimeline).2 rfl }
  resourceAdded hagree hnew hcontext hkind := { hagree with
    resources := hagree.resources.insert hnew.2 (hagree.issued_of hnew).1
      (hagree.issued_of hnew).2 ⟨hcontext, hkind⟩ }
  shaderAdded hagree hnew hcontext := { hagree with
    shaders := hagree.shaders.insert hnew.2 (hagree.issued_of hnew).1
      (hagree.issued_of hnew).2 hcontext }
  pipelineAdded hagree hnew hcontext := { hagree with
    pipelines := hagree.pipelines.insert hnew.2 (hagree.issued_of hnew).1
      (hagree.issued_of hnew).2 hcontext }
  resourceErased hagree hid := { hagree with
    resources := hagree.resources.erase hid.2 }
  dropped hagree hid := hagree.dropped hid
  probed hagree hgpu := ⟨_, _, rfl, rfl, hagree.probed hgpu⟩
  initializesDevice hgpu hsame := alike_initializeDevice hgpu hsame
  allocatesVram size memoryClass hgpu :=
    alike_allocateVram hgpu size memoryClass
  freesVram hid := alike_freeVram hid
  resetsDevice hgpu := alike_updateState hgpu fun _ => rfl
  submits workload ops ops' hgpu := alike_submitToDriver hgpu workload ops ops'
  faultStatus hagree hgpu :=
    (hagree.faultStatus hgpu).trans (GpuFault.result_withGpu_id _).symm

section Calls

variable {away : ObjectId} {foreign : ObjectId → Prop}
  {naming : Renaming ObjectId}

theorem isolation_sameReply {reply reply' : Reply} :
    (isolation (P := P) away foreign).SameReply naming reply reply' ↔
      ReplyAgree naming reply reply' := by
  change (_ ∧ (reply.rename naming.perm).withGpus id = reply') ↔ _
  rw [Reply.withGpus_id]
  rfl

/-! ### The display -/

theorem alike_onPresentation {α : Type}
    (method : Method Error (PresentationBridge P) α) :
    Alike (P := P) away foreign naming (fun _ => (· = ·))
      (onPresentation method) (onPresentation method) := by
  intro left right hagree
  refine ⟨naming, le_rfl, ?_, { hagree with presentation := ?_ }⟩
  · change ResultRel _ _ (method left.presentation).1
      (method right.presentation).1
    rw [hagree.presentation]
    cases (method left.presentation).1 with
    | ok value => exact .ok rfl
    | error error => exact .error rfl
  · change (method right.presentation).2 = (method left.presentation).2
    rw [hagree.presentation]

variable [GPUDriver P]

theorem alike_hasConnector (connector : ObjectId) :
    Alike (P := P) away foreign naming (fun _ => (· = ·))
      (read fun runtime => runtime.presentation.hasConnector connector)
      (read fun runtime => runtime.presentation.hasConnector connector) := by
  apply Simulates.read
  intro left right hagree
  rw [hagree.presentation]

/-- The cursors may differ, but not the connectors. -/
theorem alike_cursorMut (connector : ObjectId)
    (update update' : CursorState → CursorState) :
    Alike (P := P) away foreign naming (fun _ _ _ => True)
      (cursorMut connector update) (cursorMut connector update') := by
  refine Simulates.bind (alike_hasConnector connector) ?_
  rintro later hle known _ rfl
  refine Simulates.bind ((isolation away foreign).alike_rejectIf _ _) fun _ _ _ _ _ => ?_
  exact (isolation away foreign).alike_change fun _ _ hagree =>
    { hagree with }

theorem alike_setCursorImage {id id' : ObjectId}
    (hid : SameContext naming id id') (connector : ObjectId) :
    Alike (P := P) away foreign naming (fun _ _ _ => True)
      (setCursorImage connector id) (setCursorImage connector id') := by
  refine (isolation away foreign).alike_row hid
    (fun _ _ hagree => hagree.resources.rows) ?_
  rintro found found' ⟨-, hkind⟩
  rw [hkind]
  refine Simulates.bind ((isolation away foreign).alike_rejectIf _ _) fun _ _ _ _ _ => ?_
  exact alike_cursorMut connector _ _

theorem alike_cursorState (connector : ObjectId) :
    Alike (P := P) away foreign naming (fun _ _ _ => True)
      (cursorState connector) (cursorState connector) := by
  refine Simulates.bind (alike_hasConnector connector) ?_
  rintro later hle known _ rfl
  refine Simulates.bind ((isolation away foreign).alike_rejectIf _ _) fun _ _ _ _ _ => ?_
  exact Simulates.read fun _ _ _ => trivial

end Calls

end GraphicsRuntime

end SherGraphics
