/-
What one `submit` does, seen from both ends: the checks and tables of the
runtime on one side, the calls that the driver receives on the other.
-/
import SherGraphics.ContextTable
import SherGraphics.RecordingDriver
import SherGraphics.StreamValidation

namespace SherGraphics

/-- Operations that select state for later ones and are not commands. -/
def GraphicsOp.isBinding : GraphicsOp → Bool
  | .bindPipeline _ | .bindResource _ _ => true
  | _ => false

/-- The driver command is the operation, with the same operands. -/
inductive CarriedOver : GraphicsOp → DriverOp → Prop
  | draw (vertexCount instanceCount : UInt32) :
      CarriedOver (.draw vertexCount instanceCount)
        (.draw vertexCount instanceCount)
  | dispatch (x y z : UInt32) : CarriedOver (.dispatch x y z) (.dispatch x y z)
  | copy (src dst : ObjectId) : CarriedOver (.copy src dst) (.copy src dst)
  | barrier : CarriedOver .barrier .barrier

/-- Translation drops the bindings and carries everything else over, in the
same order. -/
theorem translateOps_carriedOver (ops : List GraphicsOp) :
    List.Forall₂ CarriedOver (ops.filter fun op => !op.isBinding)
      (translateOps ops) := by
  induction ops with
  | nil => exact .nil
  | cons op rest ih =>
      cases op with
      | bindPipeline pipeline => exact ih
      | bindResource binding resource => exact ih
      | draw vertexCount instanceCount => exact .cons (.draw _ _) ih
      | dispatch x y z => exact .cons (.dispatch x y z) ih
      | copy src dst => exact .cons (.copy src dst) ih
      | barrier => exact .cons .barrier ih

namespace GraphicsRuntime

variable {D P : Type}

/-- What a submission must meet, with the capability set looked up in the step
that opened the context. -/
structure SubmitConditions (past : List (RuntimeEvent D P))
    (before : GraphicsRuntime D P) (queue : QueueHandle)
    (stream : CommandStream) (timeline : ObjectId) (signalValue : Nat) :
    Prop where
  class_eq : stream.targetClass = queue.workload
  context : ∃ found caps, before.devices.get stream.device = some found ∧
    (∃ e ∈ past, OpensContext e stream.device found.gpu caps) ∧
      caps.hasCapability .gpuCommandSubmit = true
  increases : ∃ current, before.timelines.get timeline = some current ∧
    current < signalValue
  valid : validateStream stream before.pipelines before.resources = .ok ()

/-- What a successful submission has done. -/
structure SubmittedExactly (before after : GraphicsRuntime (Recorded D) P)
    (queue : QueueHandle) (stream : CommandStream) (timeline : ObjectId)
    (signalValue : Nat) : Prop where
  called : ∃ found ops, before.devices.get stream.device = some found ∧
    List.Forall₂ CarriedOver (stream.ops.filter fun op => !op.isBinding) ops ∧
      after.driver.calls = before.driver.calls ++
        [.submit found.gpu queue.workload ops]
  signalled : after.timelines.get timeline = some signalValue
  others : ∀ other, other ≠ timeline →
    after.timelines.get other = before.timelines.get other
  devices : after.devices = before.devices
  deviceCaps : after.deviceCaps = before.deviceCaps
  resources : after.resources = before.resources
  shaders : after.shaders = before.shaders
  pipelines : after.pipelines = before.pipelines
  cursors : after.cursors = before.cursors
  audited : after.audit.events =
    before.audit.events ++ [⟨stream.device, "submit", true⟩]

variable {past : List (RuntimeEvent D P)} {before : GraphicsRuntime D P}
  {queue : QueueHandle} {stream : CommandStream} {timeline gpu : ObjectId}
  {signalValue : Nat}

theorem SubmitReady.conditions (hhistory : ContextHistory past before)
    (hready : SubmitReady before queue stream timeline signalValue gpu) :
    SubmitConditions past before queue stream timeline signalValue := by
  obtain ⟨found, hcontext, hgpu⟩ := hready.context
  obtain ⟨caps, hcaps, hgranted⟩ := hready.granted
  obtain ⟨opened, hopened, hopens⟩ := hhistory.opened _ found hcontext
  have hsame : caps = opened := Option.some.inj (hcaps.symm.trans hopened)
  subst hsame
  exact ⟨hready.class_eq, ⟨found, caps, hcontext, hopens, hgranted⟩,
    hready.increases, hready.valid⟩

variable [GpuDriver D]

/-- A submission that succeeds has passed every check, and the driver took
it. -/
theorem ready_of_submit_ok
    (hok : IsOk (submit queue stream timeline signalValue before).1) :
    ∃ gpu driver,
      SubmitReady before queue stream timeline signalValue gpu ∧
        GpuDriver.submit gpu queue.workload (translateOps stream.ops)
          before.driver = (.returned (.ok ()), driver) ∧
        (submit queue stream timeline signalValue before).2 =
          { before with
            audit := before.audit.log stream.device "submit" true
            driver
            timelines := before.timelines.insert timeline signalValue } := by
  by_cases hready : ∃ gpu,
      SubmitReady before queue stream timeline signalValue gpu
  · obtain ⟨gpu, hready⟩ := hready
    rw [submit_of_ready before hready, submitToDriver,
      audited_driver] at hok ⊢
    cases hsent : GpuDriver.submit gpu queue.workload
        (translateOps stream.ops) before.driver with
    | mk outcome driver =>
      rw [hsent] at hok
      cases outcome with
      | panicked payload => exact absurd hok (not_isOk_error _)
      | returned result =>
        cases result with
        | error error => exact absurd hok (not_isOk_error _)
        | ok value => exact ⟨gpu, driver, hready, hsent, rfl⟩
  · obtain ⟨error, audit, hrun⟩ :=
      submit_of_not_ready before (not_exists.mp hready)
    rw [hrun] at hok
    exact absurd hok (not_isOk_error error)

/-- A submission that fails a check does not reach the driver. -/
theorem submit_refused
    (hrefused : ∀ gpu,
      ¬ SubmitReady before queue stream timeline signalValue gpu) :
    ¬ IsOk (submit queue stream timeline signalValue before).1 ∧
      (submit queue stream timeline signalValue before).2.driver =
        before.driver := by
  obtain ⟨error, audit, hrun⟩ := submit_of_not_ready before hrefused
  rw [hrun]
  exact ⟨not_isOk_error error, rfl⟩

theorem submittedExactly_of_ok {before : GraphicsRuntime (Recorded D) P}
    (hok : IsOk (submit queue stream timeline signalValue before).1) :
    SubmittedExactly before
      (submit queue stream timeline signalValue before).2
      queue stream timeline signalValue := by
  obtain ⟨gpu, driver, hready, haccepted, hafter⟩ := ready_of_submit_ok hok
  obtain ⟨found, hcontext, rfl⟩ := hready.context
  have hcalls : driver.calls = before.driver.calls ++
      [.submit found.gpu queue.workload (translateOps stream.ops)] :=
    (congrArg (fun result => result.2.calls) haccepted).symm
  rw [hafter]
  refine ⟨?_, ?_, ?_, rfl, rfl, rfl, rfl, rfl, rfl, rfl⟩
  · exact ⟨found, _, hcontext, translateOps_carriedOver stream.ops, hcalls⟩
  · exact Table.get_insert_self _ _ _
  · intro other hne
    exact Table.get_insert_ne _ _ hne

/-- The exact effect of a submission, in every state that a runtime over any
driver reaches. -/
theorem submit_exact_effect [GPUDriver P] (driver : D) (vramBytes : Nat)
    (ids : IdSource) (ops : List (Op (Recorded D))) (queue : QueueHandle)
    (stream : CommandStream) (timeline : ObjectId) (signalValue : Nat) :
    let start : GraphicsRuntime (Recorded D) P := new ⟨driver, []⟩ vramBytes ids
    let past := Machine.trace step start ops
    let before := Machine.run step start ops
    let result := submit queue stream timeline signalValue before
    (IsOk result.1 →
        SubmitConditions past before queue stream timeline signalValue ∧
          SubmittedExactly before result.2 queue stream timeline
            signalValue) ∧
      (¬ SubmitConditions past before queue stream timeline signalValue →
        ¬ IsOk result.1 ∧ result.2.driver = before.driver) ∧
      ∀ found, before.devices.get stream.device = some found →
        (GpuDriver.submit found.gpu queue.workload (translateOps stream.ops)
            before.driver.driver).1 ≠ .returned (.ok ()) →
          ¬ IsOk result.1 := by
  intro start past before result
  have hhistory : ContextHistory past before :=
    contextHistory_run ⟨driver, []⟩ vramBytes ids ops
  refine ⟨?_, ?_, ?_⟩
  · intro hok
    obtain ⟨gpu, _, hready, -, -⟩ := ready_of_submit_ok hok
    exact ⟨hready.conditions hhistory, submittedExactly_of_ok hok⟩
  · intro hfails
    apply submit_refused
    intro gpu hready
    exact hfails (hready.conditions hhistory)
  · intro found hcontext hrefused hok
    obtain ⟨gpu, after, hready, haccepted, -⟩ := ready_of_submit_ok hok
    obtain ⟨other, hother, rfl⟩ := hready.context
    have hsame : found = other := Option.some.inj (hcontext.symm.trans hother)
    subst hsame
    exact hrefused (congrArg Prod.fst haccepted)

end GraphicsRuntime

end SherGraphics
