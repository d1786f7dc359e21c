/-
Two runtimes side by side, one of which has served a GPU more than the other.
They agree on all other GPUs, up to the names of the identifiers drawn on the
way, and every call on objects of those GPUs keeps the agreement and is
answered alike.
-/
import SherGraphics.PanickingDriver
import SherGraphics.RuntimePairing

namespace SherGraphics

namespace GraphicsRuntime

variable {P : Type}

/-- The drivers agree on every GPU but `away`, and on the allocations there. -/
structure DriversAgree (away : ObjectId) (foreign : ObjectId → Prop)
    (naming : Renaming ObjectId) (ids ids' : IdSource)
    (left right : SoftwareGpuDriver) : Prop where
  devices : ∀ gpu, gpu ≠ away → right.devices.get gpu = left.devices.get gpu
  keyed : left.Keyed
  keyed' : right.Keyed
  allocations : TableAgree naming ids.Issued ids'.Issued
    (fun one other => other.device = one.device ∧ other.size = one.size ∧
      one.device ≠ away) left.allocations right.allocations
  foreign : ∀ id allocation, foreign id →
    left.allocations.get id = some allocation → allocation.device = away

/-- The runtimes agree on everything but the GPU `away`.  The foreign
identifiers are those of objects on that GPU. -/
structure Agree (away : ObjectId) (foreign : ObjectId → Prop)
    (naming : Renaming ObjectId) (left right : SoftwareRuntime P) : Prop where
  issued : ∀ id, naming.covers id →
    left.ids.Issued id ∧ right.ids.Issued (naming.perm id)
  foreignIssued : ∀ id, foreign id → left.ids.Issued id
  foreignApart : ∀ id, foreign id → ¬ naming.covers id
  foreignContexts : ∀ id found, foreign id →
    left.devices.get id = some found → found.gpu = away
  devices : TableAgree naming left.ids.Issued right.ids.Issued
    (fun one other => other.gpu = one.gpu ∧ one.gpu ≠ away)
    left.devices right.devices
  deviceCaps : TableAgree naming left.ids.Issued right.ids.Issued
    (fun one other => other = one) left.deviceCaps right.deviceCaps
  resources : TableAgree naming left.ids.Issued right.ids.Issued
    (fun one other => SameContext naming one.device other.device ∧
      other.kind = one.kind) left.resources right.resources
  shaders : TableAgree naming left.ids.Issued right.ids.Issued
    (fun one other => SameContext naming one.device other.device)
    left.shaders right.shaders
  pipelines : TableAgree naming left.ids.Issued right.ids.Issued
    (fun one other => SameContext naming one.device other.device)
    left.pipelines right.pipelines
  timelines : TableAgree naming left.ids.Issued right.ids.Issued
    (fun one other => other = one) left.timelines right.timelines
  driver : DriversAgree away foreign naming left.ids right.ids left.driver
    right.driver
  presentation : right.presentation = left.presentation

/-- The two methods are answered alike and keep the agreement. -/
abbrev Alike {α : Type} (away : ObjectId) (foreign : ObjectId → Prop)
    (naming : Renaming ObjectId) (values : Renaming ObjectId → α → α → Prop)
    (left right : Method Error (SoftwareRuntime P) α) : Prop :=
  Method.Simulates (· = ·) (Agree away foreign) naming values left right

section Updates

variable {away : ObjectId} {foreign : ObjectId → Prop}
  {naming : Renaming ObjectId} {left right : SoftwareRuntime P}

theorem Agree.le_cover (hagree : Agree away foreign naming left right) :
    naming ≤ naming.cover left.ids.next right.ids.next := by
  apply Renaming.le_cover
  · intro hcovers
    exact left.ids.next_not_issued (hagree.issued _ hcovers).1
  · intro id hcovers heq
    apply right.ids.next_not_issued
    rw [← heq]
    exact (hagree.issued id hcovers).2

/-- Both sides draw an identifier, and the two stand for each other. -/
theorem Agree.draw (hagree : Agree away foreign naming left right) :
    Agree away foreign (naming.cover left.ids.next right.ids.next)
      { left with ids := left.ids.advance 1 }
      { right with ids := right.ids.advance 1 } := by
  have hle := hagree.le_cover
  have hfresh := left.ids.next_not_issued
  have hfresh' := right.ids.next_not_issued
  have hlater : ∀ id, left.ids.Issued id → (left.ids.advance 1).Issued id :=
    fun _ hissued => hissued.mono (left.ids.advance_advances 1)
  have hlater' : ∀ id, right.ids.Issued id → (right.ids.advance 1).Issued id :=
    fun _ hissued => hissued.mono (right.ids.advance_advances 1)
  exact
    { issued := by
        rintro id (rfl | hcovers)
        · rw [Renaming.cover_perm]
          exact ⟨left.ids.next_issued, right.ids.next_issued⟩
        · rw [Renaming.perm_of_le hle hcovers]
          obtain ⟨hone, hother⟩ := hagree.issued id hcovers
          exact ⟨hlater id hone, hlater' _ hother⟩
      foreignIssued := fun id hforeign =>
        hlater id (hagree.foreignIssued id hforeign)
      foreignApart := by
        rintro id hforeign (rfl | hcovers)
        · exact hfresh (hagree.foreignIssued _ hforeign)
        · exact hagree.foreignApart id hforeign hcovers
      foreignContexts := hagree.foreignContexts
      devices := hagree.devices.cover hle hfresh hfresh' hlater hlater'
        fun _ _ hrel => hrel
      deviceCaps := hagree.deviceCaps.cover hle hfresh hfresh' hlater hlater'
        fun _ _ hrel => hrel
      resources := hagree.resources.cover hle hfresh hfresh' hlater hlater'
        fun _ _ hrel => ⟨hrel.1.mono hle, hrel.2⟩
      shaders := hagree.shaders.cover hle hfresh hfresh' hlater hlater'
        fun _ _ hrel => hrel.mono hle
      pipelines := hagree.pipelines.cover hle hfresh hfresh' hlater hlater'
        fun _ _ hrel => hrel.mono hle
      timelines := hagree.timelines.cover hle hfresh hfresh' hlater hlater'
        fun _ _ hrel => hrel
      driver :=
        { devices := hagree.driver.devices
          keyed := hagree.driver.keyed
          keyed' := hagree.driver.keyed'
          allocations := hagree.driver.allocations.cover hle hfresh hfresh'
            hlater hlater' fun _ _ hrel => hrel
          foreign := hagree.driver.foreign }
      presentation := hagree.presentation }

/-- Both sides change the same GPU in the same way. -/
theorem DriversAgree.modify {ids ids' : IdSource}
    {left right : SoftwareGpuDriver}
    (hagree : DriversAgree away foreign naming ids ids' left right)
    (gpu : ObjectId) (update : DeviceState → DeviceState)
    (hinfo : ∀ state, (update state).info = state.info) :
    DriversAgree away foreign naming ids ids'
      { left with devices := left.devices.modify gpu update }
      { right with devices := right.devices.modify gpu update } := by
  have hone := SoftwareGpuDriver.modify_sameDevices left gpu hinfo
  have hother := SoftwareGpuDriver.modify_sameDevices right gpu hinfo
  refine { hagree with
    devices := ?_
    keyed := hagree.keyed.of_sameInfos hone
    keyed' := hagree.keyed'.of_sameInfos hother }
  intro other hne
  rw [Table.get_modify, Table.get_modify, hagree.devices other hne]

theorem DriversAgree.updateState {ids ids' : IdSource}
    {left right : SoftwareGpuDriver}
    (hagree : DriversAgree away foreign naming ids ids' left right)
    {gpu : ObjectId}
    (hgpu : gpu ≠ away) {update : DeviceState → DeviceState}
    (hinfo : ∀ state, (update state).info = state.info) :
    (SoftwareGpuDriver.updateState gpu update left).1 =
        (SoftwareGpuDriver.updateState gpu update right).1 ∧
      DriversAgree away foreign naming ids ids'
        (SoftwareGpuDriver.updateState gpu update left).2
        (SoftwareGpuDriver.updateState gpu update right).2 := by
  have hdevice := hagree.devices gpu hgpu
  cases hleft : left.devices.get gpu with
  | none =>
      rw [SoftwareGpuDriver.updateState_of_unknown hleft,
        SoftwareGpuDriver.updateState_of_unknown (hdevice.trans hleft)]
      exact ⟨rfl, hagree⟩
  | some state =>
      rw [SoftwareGpuDriver.updateState_of_known hleft,
        SoftwareGpuDriver.updateState_of_known (hdevice.trans hleft)]
      exact ⟨rfl, hagree.modify gpu update hinfo⟩

end Updates

/-! ### Methods of the driver -/

section Shared

open Method

variable {α : Type} {away : ObjectId} {foreign : ObjectId → Prop}
  {naming : Renaming ObjectId}

/-- A method of the driver that both sides answer alike. -/
theorem alike_onDriver {method other : Method Error SoftwareGpuDriver α}
    (hmethod : ∀ left right : SoftwareRuntime P,
      Agree away foreign naming left right →
        (method left.driver).1 = (other right.driver).1 ∧
          Agree away foreign naming
            { left with driver := (method left.driver).2 }
            { right with driver := (other right.driver).2 }) :
    Alike (P := P) away foreign naming (fun _ => (· = ·)) (onDriver method)
      (onDriver other) := by
  intro left right hagree
  obtain ⟨hanswer, hafter⟩ := hmethod left right hagree
  refine ⟨naming, le_rfl, ?_, hafter⟩
  change ResultRel _ _ (method left.driver).1 (other right.driver).1
  rw [hanswer]
  cases (other right.driver).1 with
  | ok value => exact .ok rfl
  | error error => exact .error rfl

theorem alike_updateState {gpu : ObjectId} (hgpu : gpu ≠ away)
    {update : DeviceState → DeviceState}
    (hinfo : ∀ state, (update state).info = state.info) :
    Alike (P := P) away foreign naming (fun _ => (· = ·))
      (onDriver (SoftwareGpuDriver.updateState gpu update))
      (onDriver (SoftwareGpuDriver.updateState gpu update)) := by
  apply alike_onDriver
  intro left right hagree
  obtain ⟨hanswer, hdriver⟩ := hagree.driver.updateState hgpu hinfo
  exact ⟨hanswer, { hagree with driver := hdriver }⟩

/-- Both sides allocate, and the two allocations stand for each other. -/
theorem Agree.allocated {left right : SoftwareRuntime P}
    (hagree : Agree away foreign naming left right) {gpu : ObjectId}
    (hgpu : gpu ≠ away) (found : DeviceState) (size : Nat)
    (memoryClass : MemoryClass) :
    Agree away foreign (naming.cover left.ids.next right.ids.next)
      { left with
        driver := left.driver.afterAllocate
          (SoftwareGpuDriver.grantedAllocation left.ids gpu found size
            memoryClass)
        ids := left.ids.advance 1 }
      { right with
        driver := right.driver.afterAllocate
          (SoftwareGpuDriver.grantedAllocation right.ids gpu found size
            memoryClass)
        ids := right.ids.advance 1 } := by
  have hdrawn := hagree.draw
  have hmodified : DriversAgree away foreign _ _ _ _ _ :=
    hdrawn.driver.modify gpu (fun state =>
      { state with vramAvailable := state.vramAvailable - size }) fun _ => rfl
  refine { hdrawn with driver := { hmodified with
    allocations := ?_, foreign := ?_ } }
  · exact hdrawn.driver.allocations.insert (Renaming.cover_perm _ _ _)
      left.ids.next_issued right.ids.next_issued ⟨rfl, rfl, hgpu⟩
  · intro id allocation hforeign hrow
    have hne : id ≠ left.ids.next := by
      rintro rfl
      exact left.ids.next_not_issued (hagree.foreignIssued _ hforeign)
    change (left.driver.allocations.insert left.ids.next _).get id =
      some allocation at hrow
    rw [Table.get_insert_ne _ _ hne] at hrow
    exact hagree.driver.foreign id allocation hforeign hrow

theorem alike_allocateVram {gpu : ObjectId} (hgpu : gpu ≠ away) (size : Nat)
    (memoryClass : MemoryClass) :
    Alike (P := P) away foreign naming
      (fun later one other => SameContext later one.id other.id)
      (onDriverAndIds (GpuDriver.allocateVram gpu size memoryClass))
      (onDriverAndIds (GpuDriver.allocateVram gpu size memoryClass)) := by
  apply Simulates.of_runs
  intro left right hagree
  have hdevice := hagree.driver.devices gpu hgpu
  cases hfound : left.driver.devices.get gpu with
  | none =>
      rw [hfound] at hdevice
      exact ⟨naming, _, _, _, _,
        onDriverAndIds_run
          (SoftwareGpuDriver.allocateVram_of_unknown hfound size memoryClass),
        onDriverAndIds_run
          (SoftwareGpuDriver.allocateVram_of_unknown hdevice size memoryClass),
        le_rfl, .error rfl, hagree⟩
  | some found =>
      rw [hfound] at hdevice
      rcases Nat.lt_or_ge found.vramAvailable size with hshort | hfits
      · exact ⟨naming, _, _, _, _,
          onDriverAndIds_run (SoftwareGpuDriver.allocateVram_of_short hfound
            hshort memoryClass),
          onDriverAndIds_run (SoftwareGpuDriver.allocateVram_of_short hdevice
            hshort memoryClass),
          le_rfl, .error rfl, hagree⟩
      · exact ⟨_, _, _, _, _,
          onDriverAndIds_run (SoftwareGpuDriver.allocateVram_of_fits hfound
            hfits memoryClass),
          onDriverAndIds_run (SoftwareGpuDriver.allocateVram_of_fits hdevice
            hfits memoryClass),
          hagree.le_cover, .ok ⟨Or.inl rfl, Renaming.cover_perm _ _ _⟩,
          hagree.allocated hgpu found size memoryClass⟩

theorem DriversAgree.erase {ids ids' : IdSource}
    {left right : SoftwareGpuDriver}
    (hagree : DriversAgree away foreign naming ids ids' left right)
    (name : ObjectId) :
    DriversAgree away foreign naming ids ids'
      { left with allocations := left.allocations.erase name }
      { right with
        allocations := right.allocations.erase (naming.perm name) } := by
  refine { hagree with
    allocations := hagree.allocations.erase rfl, foreign := ?_ }
  intro id allocation hforeign hrow
  obtain ⟨-, hrow⟩ := Table.row_of_erase hrow
  exact hagree.foreign id allocation hforeign hrow

/-- The bytes of a freed allocation go back to the GPU on both sides. -/
theorem alike_freeVram {name name' : ObjectId}
    (hname : SameContext naming name name') :
    Alike (P := P) away foreign naming (fun _ => (· = ·))
      (onDriver (GpuDriver.freeVram name))
      (onDriver (GpuDriver.freeVram name')) := by
  obtain ⟨hcovers, rfl⟩ := hname
  apply alike_onDriver
  intro left right hagree
  change (SoftwareGpuDriver.freeVram name left.driver).1 =
      (SoftwareGpuDriver.freeVram (naming.perm name) right.driver).1 ∧
    Agree away foreign naming
      { left with driver := (SoftwareGpuDriver.freeVram name left.driver).2 }
      { right with driver := (SoftwareGpuDriver.freeVram (naming.perm name)
        right.driver).2 }
  have herased := hagree.driver.erase name
  have hrows := hagree.driver.allocations.rows name hcovers
  generalize hlive : left.driver.allocations.get name = row at hrows
  generalize hlive' : right.driver.allocations.get (naming.perm name) =
    row' at hrows
  cases hrows with
  | none =>
      rw [SoftwareGpuDriver.freeVram_of_unknown hlive,
        SoftwareGpuDriver.freeVram_of_unknown hlive']
      exact ⟨rfl, hagree⟩
  | @some allocation allocation' hrel =>
      obtain ⟨hgpu, hsize, hhome⟩ := hrel
      have hdevice : right.driver.devices.get allocation'.device =
          left.driver.devices.get allocation.device := by
        rw [hgpu]
        exact hagree.driver.devices allocation.device hhome
      cases hfound : left.driver.devices.get allocation.device with
      | none =>
          have hfound' := hdevice.trans hfound
          rw [SoftwareGpuDriver.freeVram_of_orphan hlive hfound,
            SoftwareGpuDriver.freeVram_of_orphan hlive' hfound']
          exact ⟨rfl, { hagree with driver := herased }⟩
      | some found =>
          have hfound' := hdevice.trans hfound
          rw [SoftwareGpuDriver.freeVram_of_live hlive hfound,
            SoftwareGpuDriver.freeVram_of_live hlive' hfound',
            SoftwareGpuDriver.afterFree, SoftwareGpuDriver.afterFree,
            hgpu, hsize]
          exact ⟨rfl, { hagree with
            driver := herased.modify allocation.device _ fun _ => rfl }⟩

end Shared

end GraphicsRuntime

end SherGraphics
