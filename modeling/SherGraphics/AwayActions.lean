/-
Actions on the GPU that the agreement leaves out.  Only one of the two runtimes
takes them.  They touch rows of that GPU, which are not compared, and the
identifiers they draw become foreign, so the two runtimes still agree.
-/
import SherGraphics.RuntimeAgreement
import SherGraphics.RuntimeFrame

namespace SherGraphics

namespace GraphicsRuntime

open Method

variable {P : Type}

/-! ### The display -/

section Presentation

variable {D : Type}

/-- The method does not touch the presentation. -/
abbrev KeepsDisplay {α : Type} (method : Method Error (GraphicsRuntime D P) α) :
    Prop :=
  Keeps GraphicsRuntime.presentation method

/-- No call on objects touches the presentation. -/
theorem keepsDisplay_perform [GpuDriver D] [GPUDriver P] {op : Op D}
    (hobjects : op.onObjects = true) :
    KeepsDisplay (perform op : Method Error (GraphicsRuntime D P) Reply) := by
  apply step_keeps hides_presentation
  cases op with
  | registerConnector connector => cases hobjects
  | presentFrame connector width height => cases hobjects
  | _ => simp [Op.writes]

end Presentation

/-! ### One-sided changes -/

section Away

variable {away : ObjectId} {foreign : ObjectId → Prop}
  {naming : Renaming ObjectId} {left right : SoftwareRuntime P}

/-- Only the left side draws identifiers, and those become foreign. -/
theorem Agree.drawn_left (hagree : Agree away foreign naming left right)
    {created : List ObjectId} {ids : IdSource}
    (hadvances : left.ids.Advances ids)
    (hcreated : ∀ id ∈ created, ¬ left.ids.Issued id ∧ ids.Issued id) :
    Agree away (fun id => foreign id ∨ id ∈ created) naming
      { left with ids } right := by
  have hlater : ∀ id, left.ids.Issued id → ids.Issued id :=
    fun _ hissued => hissued.mono hadvances
  exact
    { issued := by
        intro id hcovers
        obtain ⟨hone, hother⟩ := hagree.issued id hcovers
        exact ⟨hlater id hone, hother⟩
      foreignIssued := by
        intro id hforeign
        rcases hforeign with hforeign | hnew
        · exact hlater id (hagree.foreignIssued id hforeign)
        · exact (hcreated id hnew).2
      foreignApart := by
        intro id hforeign hcovers
        rcases hforeign with hforeign | hnew
        · exact hagree.foreignApart id hforeign hcovers
        · exact (hcreated id hnew).1 (hagree.issued id hcovers).1
      foreignContexts := by
        intro id found hforeign hrow
        rcases hforeign with hforeign | hnew
        · exact hagree.foreignContexts id found hforeign hrow
        · exact absurd (hagree.devices.leftIssued id found hrow)
            (hcreated id hnew).1
      devices := hagree.devices.later_left hlater
      deviceCaps := hagree.deviceCaps.later_left hlater
      resources := hagree.resources.later_left hlater
      shaders := hagree.shaders.later_left hlater
      pipelines := hagree.pipelines.later_left hlater
      timelines := hagree.timelines.later_left hlater
      driver :=
        { devices := hagree.driver.devices
          keyed := hagree.driver.keyed
          keyed' := hagree.driver.keyed'
          allocations := hagree.driver.allocations.later_left hlater
          foreign := by
            intro id allocation hforeign hrow
            rcases hforeign with hforeign | hnew
            · exact hagree.driver.foreign id allocation hforeign hrow
            · exact absurd
                (hagree.driver.allocations.leftIssued id allocation hrow)
                (hcreated id hnew).1 }
      presentation := hagree.presentation }

/-- A step that creates nothing makes nothing foreign. -/
theorem Agree.nothing_created (hagree : Agree away foreign naming left right) :
    Agree away (fun id => foreign id ∨ id ∈ ([] : List ObjectId)) naming left
      right :=
  hagree.drawn_left (.refl _) (by simp)

/-- The agreement reads no more than these parts of the left side. -/
theorem Agree.same_left (hagree : Agree away foreign naming left right)
    {after : SoftwareRuntime P} (htables : after.tables = left.tables)
    (hids : after.ids = left.ids) (hdriver : after.driver = left.driver)
    (hdisplay : after.presentation = left.presentation) :
    Agree away foreign naming after right := by
  obtain ⟨driver, devices, deviceCaps, resources, shaders, pipelines,
    timelines, presentation, audit, cursors, ids⟩ := after
  simp only [tables, ObjectTables.mk.injEq] at htables
  obtain ⟨rfl, rfl, rfl, rfl, rfl, rfl⟩ := htables
  subst hids hdriver hdisplay
  exact { hagree with }

/-- One identifier is drawn for an object of the other GPU. -/
theorem Agree.drawn_one_left (hagree : Agree away foreign naming left right) :
    Agree away (fun id => foreign id ∨ id ∈ [left.ids.next]) naming
      { left with ids := left.ids.advance 1 } right := by
  apply hagree.drawn_left (left.ids.advance_advances 1)
  intro id hnew
  rw [List.mem_singleton.mp hnew]
  exact ⟨left.ids.next_not_issued, left.ids.next_issued⟩

theorem DriversAgree.modify_left {ids ids' : IdSource}
    {left right : SoftwareGpuDriver}
    (hagree : DriversAgree away foreign naming ids ids' left right)
    (update : DeviceState → DeviceState)
    (hinfo : ∀ state, (update state).info = state.info) :
    DriversAgree away foreign naming ids ids'
      { left with devices := left.devices.modify away update } right := by
  have hsame := SoftwareGpuDriver.modify_sameDevices left away hinfo
  refine { hagree with
    devices := ?_
    keyed := hagree.keyed.of_sameInfos hsame }
  intro gpu hne
  rw [Table.get_modify, if_neg hne]
  exact hagree.devices gpu hne

theorem DriversAgree.updateState_left {ids ids' : IdSource}
    {left right : SoftwareGpuDriver}
    (hagree : DriversAgree away foreign naming ids ids' left right)
    {update : DeviceState → DeviceState}
    (hinfo : ∀ state, (update state).info = state.info) :
    DriversAgree away foreign naming ids ids'
      (SoftwareGpuDriver.updateState away update left).2 right := by
  cases hstate : left.devices.get away with
  | none =>
      rw [SoftwareGpuDriver.updateState_of_unknown hstate]
      exact hagree
  | some state =>
      rw [SoftwareGpuDriver.updateState_of_known hstate]
      exact hagree.modify_left update hinfo

/-- Only the left side allocates, on the GPU that is left out. -/
theorem DriversAgree.allocate_left {ids ids' : IdSource}
    {left right : SoftwareGpuDriver}
    (hagree : DriversAgree away foreign naming ids ids' left right)
    {allocation : GpuAllocation} (hhome : allocation.device = away)
    (hissued : ids.Issued allocation.id)
    (hcovers : ¬ naming.covers allocation.id) :
    DriversAgree away foreign naming ids ids' (left.afterAllocate allocation)
      right := by
  subst hhome
  have hmodified := hagree.modify_left (fun state =>
    { state with vramAvailable := state.vramAvailable - allocation.size })
    fun _ => rfl
  refine ⟨hmodified.devices, hmodified.keyed, hmodified.keyed',
    hagree.allocations.insert_left _ hcovers hissued, ?_⟩
  intro id found hforeign hrow
  change (left.allocations.insert allocation.id allocation).get id =
    some found at hrow
  rcases Table.row_of_insert hrow with ⟨-, rfl⟩ | ⟨-, hrow⟩
  · rfl
  · exact hagree.foreign id found hforeign hrow

theorem DriversAgree.erase_left {ids ids' : IdSource}
    {left right : SoftwareGpuDriver}
    (hagree : DriversAgree away foreign naming ids ids' left right)
    {name : ObjectId} (hcovers : ¬ naming.covers name) :
    DriversAgree away foreign naming ids ids'
      { left with allocations := left.allocations.erase name } right := by
  refine { hagree with
    allocations := hagree.allocations.erase_left hcovers
    foreign := ?_ }
  intro id found hforeign hrow
  obtain ⟨-, hrow⟩ := Table.row_of_erase hrow
  exact hagree.foreign id found hforeign hrow

/-- A foreign allocation is freed on the left side alone. -/
theorem DriversAgree.freeVram_left {ids ids' : IdSource}
    {left right : SoftwareGpuDriver}
    (hagree : DriversAgree away foreign naming ids ids' left right)
    {name : ObjectId} (hforeign : foreign name)
    (hcovers : ¬ naming.covers name) :
    DriversAgree away foreign naming ids ids'
      (SoftwareGpuDriver.freeVram name left).2 right := by
  cases hlive : left.allocations.get name with
  | none =>
      rw [SoftwareGpuDriver.freeVram_of_unknown hlive]
      exact hagree
  | some allocation =>
      have herased := hagree.erase_left hcovers
      have hhome := hagree.foreign name allocation hforeign hlive
      cases hfound : left.devices.get allocation.device with
      | none =>
          rw [SoftwareGpuDriver.freeVram_of_orphan hlive hfound]
          exact herased
      | some found =>
          rw [SoftwareGpuDriver.freeVram_of_live hlive hfound,
            SoftwareGpuDriver.afterFree, hhome]
          exact herased.modify_left _ fun _ => rfl

/-- A foreign context is dropped on the left side alone. -/
theorem Agree.dropped_left (hagree : Agree away foreign naming left right)
    {id : ObjectId} (hcovers : ¬ naming.covers id) :
    Agree away foreign naming (dropContext id left) right := by
  have hkept : ∀ {one other : ObjectId}, SameContext naming one other →
      decide (one ≠ id) = true := by
    intro one other hsame
    apply decide_eq_true
    rintro rfl
    exact hcovers hsame.1
  refine { hagree with
    devices := hagree.devices.erase_left hcovers
    deviceCaps := hagree.deviceCaps.erase_left hcovers
    resources := hagree.resources.retain_left fun _ _ _ _ hrel =>
      hkept hrel.1
    shaders := hagree.shaders.retain_left fun _ _ _ _ hrel => hkept hrel
    pipelines := hagree.pipelines.retain_left fun _ _ _ _ hrel => hkept hrel
    foreignContexts := ?_ }
  intro other found hforeign hrow
  change (left.devices.erase id).get other = some found at hrow
  obtain ⟨-, hrow⟩ := Table.row_of_erase hrow
  exact hagree.foreignContexts other found hforeign hrow

/-- A context is opened on the left side alone. -/
theorem Agree.opened_left (hagree : Agree away foreign naming left right)
    {info : DeviceInfo} (hid : info.id = away) (caps : CapabilitySet)
    (audit : AuditLog) :
    Agree away (fun id => foreign id ∨ id ∈ [left.ids.next]) naming
      { left with
        audit
        driver := (SoftwareGpuDriver.initializeDevice info left.driver).2
        ids := left.ids.advance 4
        devices := left.devices.insert left.ids.next
          (createdDevice left.ids away)
        deviceCaps := left.deviceCaps.insert left.ids.next caps }
      right := by
  subst hid
  have hissued : (left.ids.advance 4).Issued left.ids.next :=
    left.ids.draw_issued (by omega)
  have hdrawn : Agree info.id (fun id => foreign id ∨ id ∈ [left.ids.next])
      naming { left with ids := left.ids.advance 4 } right := by
    apply hagree.drawn_left (left.ids.advance_advances 4)
    intro id hnew
    rw [List.mem_singleton.mp hnew]
    exact ⟨left.ids.next_not_issued, hissued⟩
  have hcovers := hdrawn.foreignApart left.ids.next (Or.inr (by simp))
  refine { hdrawn with
    devices := hdrawn.devices.insert_left _ hcovers hissued
    deviceCaps := hdrawn.deviceCaps.insert_left _ hcovers hissued
    driver := hdrawn.driver.updateState_left fun _ => rfl
    foreignContexts := ?_ }
  intro id found hforeign hrow
  rcases Table.row_of_insert hrow with ⟨-, rfl⟩ | ⟨-, hrow⟩
  · rfl
  · exact hdrawn.foreignContexts id found hforeign hrow

/-- A foreign resource is freed on the left side alone. -/
theorem Agree.freed_left (hagree : Agree away foreign naming left right)
    {name : ObjectId} (hforeign : foreign name) :
    Agree away foreign naming
      { left with
        driver := (SoftwareGpuDriver.freeVram name left.driver).2
        resources := left.resources.erase name }
      right := by
  have hcovers := hagree.foreignApart name hforeign
  exact { hagree with
    driver := hagree.driver.freeVram_left hforeign hcovers
    resources := hagree.resources.erase_left hcovers }

/-- A foreign context is recovered on the left side alone. -/
theorem Agree.recovered_left (hagree : Agree away foreign naming left right)
    {id : ObjectId} (hforeign : foreign id) (audit : AuditLog) :
    Agree away foreign naming
      (dropContext id { left with
        audit
        driver := (SoftwareGpuDriver.resetDevice away left.driver).2 })
      right := by
  have hcovers := hagree.foreignApart id hforeign
  have hreset : Agree away foreign naming
      { left with
        audit
        driver := (SoftwareGpuDriver.resetDevice away left.driver).2 }
      right :=
    { hagree with
      driver := hagree.driver.updateState_left fun _ => rfl }
  exact hreset.dropped_left hcovers

end Away

/-! ### Calls on one side -/

section Calls

variable {away : ObjectId} {foreign : ObjectId → Prop}
  {naming : Renaming ObjectId}

/-- A call that is no mutation hands out no object. -/
theorem createdBy_of_reads [GPUDriver P] {op : Op SoftwareGpuDriver}
    (hobjects : op.onObjects = true) (hreads : ¬ op.Mutates)
    (runtime : SoftwareRuntime P) : createdBy (step runtime op).1 = [] := by
  have hmap : ∀ {α : Type} (make : α → Reply)
      (method : Method Error (SoftwareRuntime P) α),
      (∀ value, (make value).created = []) →
        createdBy ((make <$> method) runtime).1 = [] := by
    intro α make method hmake
    rw [Method.map_run]
    cases method runtime with
    | mk result after =>
      cases result with
      | ok value => exact hmake value
      | error error => rfl
  cases op with
  | createCommandStream device workload => exact hmap _ _ fun _ => rfl
  | timelineValue timeline => exact hmap _ _ fun _ => rfl
  | wait timeline value => exact hmap _ _ fun _ => rfl
  | setCursorImage connector image => exact hmap _ _ fun _ => rfl
  | deviceFault device => exact hmap _ _ fun _ => rfl
  | registerConnector connector => cases hobjects
  | presentFrame connector width height => cases hobjects
  | setCursorPosition connector x y => cases hobjects
  | showCursor connector => cases hobjects
  | hideCursor connector => cases hobjects
  | cursorState connector => cases hobjects
  | driverMut caps use => cases hobjects
  | _ => exact absurd trivial hreads

/-- A call on objects of the GPU that is left out. -/
theorem Agree.step_left [GPUDriver P] {left right : SoftwareRuntime P}
    (hagree : Agree away foreign naming left right)
    {op : Op SoftwareGpuDriver} (hobjects : op.onObjects = true)
    (htarget : ∀ gpu ∈ op.target, gpu = away)
    (hnames : ∀ id ∈ op.names, foreign id) :
    Agree away (fun id => foreign id ∨ id ∈ createdBy (step left op).1) naming
      (step left op).2 right := by
  have hdisplay : (step left op).2.presentation = left.presentation :=
    keepsDisplay_perform hobjects left
  have hreads := fun hreads => createdBy_of_reads hobjects hreads left
  have heffect := step_effect left op
  generalize (step left op).1 = answer at *
  generalize (step left op).2 = after at *
  have hnext := hagree.drawn_one_left
  have hissued := left.ids.next_issued
  have hfresh := hnext.foreignApart left.ids.next (Or.inr (by simp))
  cases heffect with
  | quiet hanswer hsealed htables hids hdriver =>
      have hnothing : createdBy answer = [] := by
        cases answer with
        | ok reply => exact hreads (hanswer (isOk_ok reply))
        | error error => rfl
      have hdrawn : Agree away (fun id => foreign id ∨ id ∈ createdBy answer)
          naming { left with ids := after.ids } right :=
        hagree.drawn_left hids (by simp [hnothing])
      exact hdrawn.same_left htables rfl hdriver.unchanged hdisplay
  | borrowed hadmin => cases hobjects
  | notBorrowed hdenied => cases hobjects
  | @createdDevice gpu caps known info hgranted hprobe hfind =>
      have hhome : gpu = away := htarget gpu rfl
      have hid : info.id = gpu := by simpa using List.find?_some hfind
      subst hhome
      exact hagree.opened_left hid caps _
  | createdTimeline hcontext =>
      exact { hnext with
        timelines := hnext.timelines.insert_left _ hfresh hissued }
  | @createdResource id kind memoryClass found allocation driver ids hcontext
      hallocated =>
      have hforeign : foreign id := hnames id (by simp [Op.names])
      have hhome := hagree.foreignContexts id found hforeign hcontext
      rcases SoftwareGpuDriver.allocateVram_cases left.driver left.ids
        found.gpu (resourceSize kind) memoryClass with
        ⟨state, hstate, hfits, hrun⟩ | ⟨-, error, hrun⟩
      · cases hallocated.symm.trans hrun
        exact { hnext with
          driver := hnext.driver.allocate_left hhome hissued hfresh
          resources := hnext.resources.insert_left _ hfresh hissued }
      · cases hallocated.symm.trans hrun
  | createdShader hcontext =>
      exact { hnext with
        shaders := hnext.shaders.insert_left _ hfresh hissued }
  | createdPipeline hcontext hshader =>
      exact { hnext with
        pipelines := hnext.pipelines.insert_left _ hfresh hissued }
  | @submitted queue stream timeline gpu signalValue driver hready
      haccepted =>
      have hforeign : foreign timeline := hnames timeline (by simp [Op.names])
      have hsame : driver = left.driver :=
        SoftwareGpuDriver.submit_driver_eq haccepted
      subst hsame
      exact { hagree.nothing_created with
        timelines := hagree.timelines.insert_left _
          (hagree.foreignApart timeline hforeign)
          (hagree.foreignIssued timeline hforeign) }
  | panicked hready hpanicked =>
      have hreturned := congrArg Prod.fst hpanicked
      cases hreturned
  | @freed name row hrow =>
      have hforeign : foreign name := hnames name (by simp [Op.names])
      have hnothing : createdBy ((GpuDriver.freeVram name left.driver).1.map
          fun _ => Reply.unit) = [] := by
        cases (GpuDriver.freeVram name left.driver).1 with
        | ok value => rfl
        | error error => rfl
      rw [hnothing]
      exact (hagree.freed_left hforeign).nothing_created
  | @recovered id caps found driver hadmin hcontext hreset =>
      have hforeign : foreign id := hnames id (by simp [Op.names])
      rw [hagree.foreignContexts id found hforeign hcontext] at hreset
      have hafter := congrArg Prod.snd hreset
      subst hafter
      exact (hagree.recovered_left hforeign _).nothing_created

/-- Breaking the GPU that is left out. -/
theorem Agree.inject_left {left right : SoftwareRuntime P}
    (hagree : Agree away foreign naming left right) (address : Nat)
    (description : String) :
    Agree away foreign naming
      { left with
        driver := left.driver.injectFault away address description }
      right :=
  { hagree with driver := hagree.driver.modify_left _ fun _ => rfl }

/-- A use of the driver that creates nothing. -/
theorem Agree.driverMut_left {left right : SoftwareRuntime P}
    (hagree : Agree away foreign naming left right) (caps : CapabilitySet)
    {use : DriverUse SoftwareGpuDriver Reply}
    (hnothing : createdBy (use.run (left.driver, left.ids)).1 = [])
    (huse : Agree away foreign naming
      { left with
        driver := (use.run (left.driver, left.ids)).2.1
        ids := (use.run (left.driver, left.ids)).2.2 }
      right) :
    Agree away
      (fun id => foreign id ∨ id ∈ createdBy (driverMut caps use left).1)
      naming (driverMut caps use left).2 right := by
  rw [driverMut]
  rcases requireCapability_cases caps .gpuAdmin with
    ⟨hadmin, hcheck⟩ | ⟨hdenied, error, hcheck⟩
  · rw [hcheck, ofResult_ok_bind, onDriverAndIds, hnothing]
    exact huse.nothing_created
  · rw [hcheck, ofResult_error_bind]
    exact hagree.nothing_created

/-- An action on the GPU that is left out. -/
theorem Agree.gpuStep_left [GPUDriver P] {left right : SoftwareRuntime P}
    (hagree : Agree away foreign naming left right) {action : GpuAction}
    {owned : ObjectId → List ObjectId} (hgpu : action.gpu = some away)
    (hown : action.NamesOwn owned) (howned : ∀ id ∈ owned away, foreign id) :
    Agree away
      (fun id => foreign id ∨ id ∈ createdBy (gpuStep left action).1) naming
      (gpuStep left action).2 right := by
  cases action with
  | call gpu op =>
      cases hgpu
      obtain ⟨hobjects, htarget, hnames⟩ := hown
      apply hagree.step_left hobjects htarget
      intro id hid
      exact howned id (hnames id hid)
  | display op => cases hgpu
  | inject gpu caps address description =>
      cases hgpu
      exact hagree.driverMut_left caps rfl
        (hagree.inject_left address description)
  | vramAvailable gpu caps =>
      cases hgpu
      apply hagree.driverMut_left caps _ hagree
      change createdBy ((SoftwareGpuDriver.vramAvailable
        left.driver away).map Reply.vram) = []
      cases SoftwareGpuDriver.vramAvailable left.driver away with
      | ok available => rfl
      | error error => rfl

end Calls

end GraphicsRuntime

end SherGraphics
