/-
What a failed call leaves behind.  Over a driver whose own failing calls touch
nothing but its fault record, a call of the runtime that answers with an error
leaves every table as it was, wherever it stopped.
-/
import SherGraphics.PanickingDriver
import SherGraphics.RuntimeFrame

namespace SherGraphics

/-- The operations that succeed or change no table.  `free_resource` is not
among them: it forgets the resource before it asks the driver. -/
def Op.AllOrNothing {D : Type} : Op D → Prop
  | .createDevice _ _ | .createTimeline _ | .createResource _ _ _
  | .createCommandStream _ _ | .createShaderModule _ _ _
  | .createPipeline _ _ _ | .submit _ _ _ _ | .recoverDevice _ _
  | .setCursorImage _ _ | .setCursorPosition _ _ _ | .showCursor _
  | .hideCursor _ => True
  | _ => False

/-- The failing calls of a driver, and the marking of a fault, leave alone what
`state` shows of it: everything but its fault record. -/
structure FailsCleanly {D X : Type} [GpuDriver D] (state : D → X) : Prop where
  initializeDevice : ∀ info driver error,
    (GpuDriver.initializeDevice info driver).1 = .error error →
      state (GpuDriver.initializeDevice info driver).2 = state driver
  allocateVram : ∀ gpu size memoryClass driver ids error,
    (GpuDriver.allocateVram gpu size memoryClass (driver, ids)).1 =
        .error error →
      state (GpuDriver.allocateVram gpu size memoryClass (driver, ids)).2.1 =
        state driver
  submit : ∀ gpu workload ops driver,
    (GpuDriver.submit gpu workload ops driver).1 ≠ .returned (.ok ()) →
      state (GpuDriver.submit gpu workload ops driver).2 = state driver
  resetDevice : ∀ gpu driver error,
    (GpuDriver.resetDevice gpu driver).1 = .error error →
      state (GpuDriver.resetDevice gpu driver).2 = state driver
  markFaulted : ∀ gpu description driver,
    state (GpuDriver.markFaulted gpu description driver) = state driver

namespace GraphicsRuntime

section Failures

variable {D P X : Type}

/-- Only the audit trail and the fault record of the driver may differ. -/
structure SameButTrail (state : D → X) (before after : GraphicsRuntime D P) :
    Prop where
  tables : after.tables = before.tables
  cursors : after.cursors = before.cursors
  presentation : after.presentation = before.presentation
  driver : state after.driver = state before.driver

/-- When the step fails it changes only the audit trail and the fault record
of the driver. -/
def FailsUnchanged (state : D → X) (e : RuntimeEvent D P) : Prop :=
  e.action.AllOrNothing → ¬ IsOk e.answer →
    SameButTrail state e.before e.after

/-! ### Cursors -/

variable (before : GraphicsRuntime D P) [GPUDriver P]

theorem cursorMut_failed (connector : ObjectId)
    (update : CursorState → CursorState)
    (hfails : ¬ IsOk (cursorMut connector update before).1) :
    (cursorMut connector update before).2 = before := by
  rw [cursorMut, Method.read_bind] at hfails ⊢
  by_cases hknown : before.presentation.hasConnector connector = false
  · rw [Method.rejectIf_bind_of_pos _ _ _ hknown]
  · rw [Method.rejectIf_bind_of_neg _ _ _ hknown] at hfails
    exact absurd ⟨_, rfl⟩ hfails

theorem setCursorImage_failed (connector image : ObjectId)
    (hfails : ¬ IsOk (setCursorImage connector image before).1) :
    (setCursorImage connector image before).2 = before := by
  rw [setCursorImage, Method.read_bind] at hfails ⊢
  cases hrow : before.resources.get image with
  | none => rw [Method.okOr_none_bind]
  | some row =>
      rw [hrow, Method.okOr_some_bind] at hfails
      rw [Method.okOr_some_bind]
      by_cases himage : isImage row.kind = false
      · rw [Method.rejectIf_bind_of_pos _ _ _ himage]
      · rw [Method.rejectIf_bind_of_neg _ _ _ himage] at hfails ⊢
        exact cursorMut_failed before connector _ hfails

variable [GpuDriver D]

theorem cursors_of_failed {op : Op D} (hop : op.AllOrNothing)
    (hfails : ¬ IsOk (step before op).1) :
    (step before op).2.cursors = before.cursors := by
  by_cases hwrites : .cursors ∈ op.writes
  · cases op with
    | setCursorImage connector image =>
        rw [step, perform, Method.map_run] at hfails ⊢
        exact congrArg GraphicsRuntime.cursors (setCursorImage_failed before
          connector image (mt isOk_map.mpr hfails))
    | setCursorPosition connector x y =>
        rw [step, perform, Method.map_run] at hfails ⊢
        exact congrArg GraphicsRuntime.cursors (cursorMut_failed before
          connector _ (mt isOk_map.mpr hfails))
    | showCursor connector =>
        rw [step, perform, Method.map_run] at hfails ⊢
        exact congrArg GraphicsRuntime.cursors (cursorMut_failed before
          connector _ (mt isOk_map.mpr hfails))
    | hideCursor connector =>
        rw [step, perform, Method.map_run] at hfails ⊢
        exact congrArg GraphicsRuntime.cursors (cursorMut_failed before
          connector _ (mt isOk_map.mpr hfails))
    | _ => simp [Op.writes] at hwrites
  · exact step_keeps hides_cursors hwrites before

/-! ### Tables and driver -/

variable {before} {state : D → X}

theorem IdleCall.state_eq (hclean : FailsCleanly state) {driver later : D}
    (hidle : IdleCall driver later) : state later = state driver := by
  cases hidle with
  | none => rfl
  | refusedInitialize info error hrefused =>
      exact hclean.initializeDevice info driver error hrefused
  | refusedAllocation ids gpu size memoryClass error hrefused =>
      exact hclean.allocateVram gpu size memoryClass driver ids error hrefused
  | refusedSubmit gpu workload ops error hrefused =>
      refine hclean.submit gpu workload ops driver ?_
      rw [hrefused]
      simp
  | refusedReset gpu error hrefused =>
      exact hclean.resetDevice gpu driver error hrefused

omit [GPUDriver P] in
theorem Effect.of_failed (hclean : FailsCleanly state) {op : Op D}
    {answer : Result Reply} {after : GraphicsRuntime D P}
    (heffect : Effect before op answer after) (hop : op.AllOrNothing)
    (hfails : ¬ IsOk answer) :
    after.tables = before.tables ∧
      state after.driver = state before.driver := by
  cases heffect with
  | quiet hanswer hsealed htables hids hdriver =>
      exact ⟨htables, hdriver.state_eq hclean⟩
  | @panicked queue stream timeline gpu signalValue driver payload hready
      hpanicked =>
      refine ⟨rfl, (hclean.markFaulted gpu _ driver).trans ?_⟩
      have hsubmit := hclean.submit gpu queue.workload
        (translateOps stream.ops) before.driver (by rw [hpanicked]; simp)
      rw [hpanicked] at hsubmit
      exact hsubmit
  | createdDevice hgranted hprobe hfind => exact absurd ⟨_, rfl⟩ hfails
  | createdTimeline hcontext => exact absurd ⟨_, rfl⟩ hfails
  | createdResource hcontext hallocated => exact absurd ⟨_, rfl⟩ hfails
  | createdShader hcontext => exact absurd ⟨_, rfl⟩ hfails
  | createdPipeline hcontext hshader => exact absurd ⟨_, rfl⟩ hfails
  | submitted hready haccepted => exact absurd ⟨_, rfl⟩ hfails
  | recovered hadmin hcontext hreset => exact absurd ⟨_, rfl⟩ hfails
  | borrowed hadmin => exact absurd hop id
  | notBorrowed hdenied => exact absurd hop id
  | freed hrow => exact absurd hop id

theorem step_failsUnchanged (hclean : FailsCleanly state)
    (before : GraphicsRuntime D P) (op : Op D) :
    FailsUnchanged state (Machine.event step before op) := by
  intro hop hfails
  obtain ⟨htables, hdriver⟩ := (step_effect before op).of_failed hclean hop
    hfails
  refine ⟨htables, cursors_of_failed before hop hfails, ?_, hdriver⟩
  refine step_keeps hides_presentation ?_ before
  cases op with
  | registerConnector connector => exact absurd hop id
  | presentFrame connector width height => exact absurd hop id
  | _ => simp [Op.writes]

/-- In every run over such a driver, a failed call changes nothing but the
audit trail and the fault record. -/
theorem failed_calls_change_nothing (hclean : FailsCleanly state) (driver : D)
    (vramBytes : Nat) (ids : IdSource) (ops : List (Op D)) :
    Machine.Meets step (new driver vramBytes ids : GraphicsRuntime D P) ops
      (fun _ e => FailsUnchanged state e) := by
  apply Machine.meets_of_prefixes
  intro first op later _
  exact step_failsUnchanged hclean _ op

end Failures

end GraphicsRuntime

/-! ### A driver that panics -/

namespace PanickingDriver

/-- A device without its fault. -/
def withoutFault (state : DeviceState) : DeviceState :=
  { state with fault := none }

/-- Everything but the faults. -/
def withoutFaults (driver : PanickingDriver) :
    Table ObjectId GpuAllocation × (ObjectId → Option DeviceState) :=
  (driver.software.allocations, fun gpu =>
    (driver.software.devices.get gpu).map withoutFault)

theorem failsCleanly : FailsCleanly withoutFaults where
  initializeDevice info driver error hrefused := by
    have hsoftware := (GraphicsRuntime.IdleCall.refusedInitialize
      driver.software info error hrefused).unchanged
    exact congrArg (fun software => withoutFaults { driver with software })
      hsoftware
  allocateVram gpu size memoryClass driver ids error hrefused := by
    have hsoftware := (GraphicsRuntime.IdleCall.refusedAllocation
      driver.software ids gpu size memoryClass error hrefused).unchanged
    exact congrArg (fun software => withoutFaults { driver with software })
      hsoftware
  submit gpu workload ops driver _ := by
    rw [withoutFaults, submit_software]
    rfl
  resetDevice gpu driver error hrefused := by
    have hsoftware := (GraphicsRuntime.IdleCall.refusedReset
      driver.software gpu error hrefused).unchanged
    exact congrArg (fun software => withoutFaults { driver with software })
      hsoftware
  markFaulted gpu description driver := by
    have hsame : SoftwareGpuDriver.SameDevices withoutFault driver.software
        (SoftwareGpuDriver.markFaulted gpu description driver.software) :=
      SoftwareGpuDriver.modify_sameDevices driver.software gpu fun _ => rfl
    exact Prod.ext rfl (funext hsame)

end PanickingDriver

namespace GraphicsRuntime

namespace ContainedPanic

/-- Every submission on GPU 0 panics. -/
def driver : PanickingDriver :=
  ⟨(SoftwareGpuDriver.withDevices 1 1024 .sequential).1,
    fun _ => some (.str "boom"), 0⟩

def ids : IdSource := (SoftwareGpuDriver.withDevices 1 1024 .sequential).2

/-- Context 1 submits an empty stream against timeline 5. -/
def ops : List (Op PanickingDriver) :=
  [.createDevice ⟨0⟩ .full, .createTimeline ⟨1⟩,
    .submit ⟨⟨3⟩, .compute⟩ ⟨⟨6⟩, ⟨1⟩, .compute, []⟩ ⟨5⟩ 1]

theorem panicked_submit_changes_nothing :
    let start : GraphicsRuntime PanickingDriver BareDisplay := new driver 0 ids
    (Machine.answers step start ops).getLast? =
        some (.error (.device "driver panicked during submit: boom")) ∧
      Machine.Meets step start ops
        (fun _ e => FailsUnchanged PanickingDriver.withoutFaults e) :=
  ⟨by decide, failed_calls_change_nothing PanickingDriver.failsCleanly driver
    0 ids ops⟩

end ContainedPanic

end GraphicsRuntime

end SherGraphics
