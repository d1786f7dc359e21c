/-
Whether the loss of the GPU or of the render thread shows as a fault.  A submit
learns of it in three ways: from a device-lost reply, from a dropped reply
channel, and from a closed command channel.  The first two are recorded for the
device; the third is not.
-/
import SherGraphics.VulkanFaults

namespace SherGraphics

/-- The response tells of a lost GPU or a lost render thread. -/
def Response.Lost : Response → Prop
  | .answered (.error (.deviceLost _)) => True
  | .dropped => True
  | .notSent => True
  | _ => False

/-- A loss is recorded, unless the request could not be sent. -/
theorem Response.Lost.recorded {response : Response} (hlost : response.Lost)
    (hsent : response ≠ .notSent) :
    ∃ description, response.lossRecorded = some description := by
  rcases response with (error | value) | _ | _
  · cases error with
    | deviceLost message => exact ⟨_, rfl⟩
    | _ => exact hlost.elim
  · exact hlost.elim
  · exact ⟨_, rfl⟩
  · exact absurd rfl hsent

namespace VulkanDriver

variable {B : Type} [VulkanBackend B]

abbrev DriverEvent (B : Type) :=
  Event (VulkanDriver B × IdSource) Action (Option DriverReply)

/-- A submit on a known device without a fault fails because the GPU or the
render thread is lost. -/
def LosesOn (device : ObjectId) (e : DriverEvent B) : Prop :=
  ∃ workload ops, e.action = .call (.submit device workload ops) ∧
    e.before.1.tables.Knows device ∧
    e.before.1.tables.faults.get device = none ∧
    (e.before.1.worker.ask (VulkanBackend.execute ops)).1.Lost

/-- A reset of the device succeeds. -/
def ResetsOn (device : ObjectId) (e : DriverEvent B) : Prop :=
  e.action = .call (.resetDevice device) ∧ e.answer = some (.done (.ok ()))

/-- A device that failed because of a loss reports a fault until it is
reset. -/
def LossVisible (past : List (DriverEvent B)) (now : VulkanDriver B) : Prop :=
  ∀ before e after device, past = before ++ e :: after → LosesOn device e →
    (∀ later ∈ after, ¬ ResetsOn device later) →
      ∃ fault, GpuDriver.faultStatus now device = .ok (some fault)

/-- A submit on a known device without a fault finds the command channel
open. -/
def FindsChannelOpen (e : DriverEvent B) : Prop :=
  ∀ device workload ops, e.action = .call (.submit device workload ops) →
    e.before.1.tables.Knows device →
      e.before.1.tables.faults.get device = none →
        e.before.1.worker.status ≠ .stopped

/-- The device is known and has a fault. -/
def Faulted (driver : VulkanDriver B) (device : ObjectId) : Prop :=
  driver.tables.Knows device ∧
    ∃ fault, driver.tables.faults.get device = some fault

theorem faulted_iff (driver : VulkanDriver B) (device : ObjectId) :
    (∃ fault, GpuDriver.faultStatus driver device = .ok (some fault)) ↔
      Faulted driver device := by
  constructor
  · rintro ⟨fault, hfault⟩
    obtain ⟨hknown, hrecorded⟩ := VulkanTables.faultStatus_eq_some.mp hfault
    exact ⟨hknown, fault, hrecorded⟩
  · rintro ⟨hknown, fault, hrecorded⟩
    exact ⟨fault, VulkanTables.faultStatus_eq_some.mpr ⟨hknown, hrecorded⟩⟩

/-- Only a successful reset of the device removes its fault. -/
theorem FaultEffect.keeps_faulted {before after : VulkanDriver B}
    {action : Action} {reply : Option DriverReply} {device : ObjectId}
    (heffect : FaultEffect before after action reply)
    (hfaulted : Faulted before device)
    (hreset : action = .call (.resetDevice device) →
      reply ≠ some (.done (.ok ()))) : Faulted after device := by
  refine ⟨(heffect.knows_iff device).mpr hfaulted.1, ?_⟩
  obtain ⟨-, fault, hfault⟩ := hfaulted
  cases heffect with
  | kept hidle hsame => exact ⟨fault, by rw [hsame.faults, hfault]⟩
  | @submitted other _ _ response _ hknown hclear hasked hafter =>
      rw [hafter]
      cases hlost : response.lossRecorded with
      | none =>
          rw [VulkanTables.afterSubmit_of_kept hlost]
          exact ⟨fault, hfault⟩
      | some description =>
          rw [VulkanTables.afterSubmit_of_lost hlost]
          exact VulkanTables.recordFault_keeps hfault other description
  | @reset other response _ hknown hasked hafter =>
      rw [hafter]
      by_cases hok : response = .answered (.ok ())
      · subst hok
        rw [VulkanTables.afterReset_of_ok]
        have hne : device ≠ other := by
          intro heq
          exact hreset (by rw [heq]) rfl
        exact ⟨fault, (Table.get_erase_ne _ hne).trans hfault⟩
      · rw [VulkanTables.afterReset_of_refused hok]
        exact ⟨fault, hfault⟩
  | @marked other description hknown hafter =>
      rw [hafter]
      exact VulkanTables.recordFault_keeps hfault other description
  | threadStopped hrunning hafter =>
      rw [hafter]
      exact ⟨fault, hfault⟩
  | channelClosed hstopping hafter =>
      rw [hafter]
      exact ⟨fault, hfault⟩

/-- A loss that is learnt over an open channel is recorded at once. -/
theorem faulted_of_loss {now : VulkanDriver B × IdSource} {action : Action}
    {device : ObjectId} (hloses : LosesOn device (Machine.event act now action))
    (hopen : FindsChannelOpen (Machine.event act now action)) :
    Faulted (act now action).2.1 device := by
  obtain ⟨workload, ops, hsubmit, hknown, hclear, hlost⟩ := hloses
  have hstatus := hopen device workload ops hsubmit hknown hclear
  change action = _ at hsubmit
  change now.1.tables.Knows device at hknown
  change now.1.tables.faults.get device = none at hclear
  change (now.1.worker.ask _).1.Lost at hlost
  change now.1.worker.status ≠ .stopped at hstatus
  have hsent := RenderThread.ask_sent (VulkanBackend.execute ops) hstatus
  cases hasked : now.1.worker.ask (VulkanBackend.execute ops) with
  | mk response worker =>
      rw [hasked] at hlost hsent
      obtain ⟨description, hrecorded⟩ := hlost.recorded hsent
      have hrun : (act now action).2.1 =
          ⟨now.1.tables.recordFault device description, worker⟩ := by
        rw [hsubmit]
        change (submit device workload ops now.1).2 = _
        rw [submit_of_clear hknown hclear hasked,
          VulkanTables.afterSubmit_of_lost hrecorded]
      rw [hrun]
      exact ⟨(VulkanTables.recordFault_knows _ _ _ _).mpr hknown, _,
        VulkanTables.recordFault_get hknown description⟩

/-- A loss that is learnt from a closed channel leaves the driver as it is. -/
theorem act_of_closed (now : VulkanDriver B × IdSource) {device : ObjectId}
    (workload : WorkloadClass) (ops : List DriverOp)
    (hknown : now.1.tables.Knows device)
    (hclear : now.1.tables.faults.get device = none)
    (hclosed : now.1.worker.status = .stopped) :
    LosesOn device (Machine.event act now
        (.call (.submit device workload ops))) ∧
      (act now (.call (.submit device workload ops))).2.1 = now.1 := by
  have hasked : now.1.worker.ask (VulkanBackend.execute ops) =
      (.notSent, now.1.worker) := RenderThread.ask_of_stopped hclosed
  constructor
  · refine ⟨workload, ops, rfl, hknown, hclear, ?_⟩
    change (now.1.worker.ask _).1.Lost
    rw [hasked]
    trivial
  · change (submit device workload ops now.1).2 = now.1
    rw [submit_of_clear hknown hclear hasked]
    rfl

theorem lossVisible_step {past : List (DriverEvent B)}
    {now : VulkanDriver B × IdSource} {action : Action}
    (hvisible : LossVisible past now.1) :
    LossVisible (past ++ [Machine.event act now action])
        (act now action).2.1 ↔
      FindsChannelOpen (Machine.event act now action) := by
  constructor
  · intro hafter device workload ops hsubmit hknown hclear hclosed
    change action = _ at hsubmit
    subst hsubmit
    obtain ⟨hloses, hsame⟩ :=
      act_of_closed now workload ops hknown hclear hclosed
    obtain ⟨fault, hfault⟩ := hafter past _ [] device rfl hloses (by simp)
    rw [hsame] at hfault
    obtain ⟨-, hrecorded⟩ := VulkanTables.faultStatus_eq_some.mp hfault
    cases hclear.symm.trans hrecorded
  · intro hopen before e after device hsplit hloses hunreset
    rw [faulted_iff]
    rcases List.cut_concat hsplit with ⟨-, rfl, -⟩ | ⟨middle, rfl, rfl⟩
    · exact faulted_of_loss hloses hopen
    · have hearlier : Faulted now.1 device := by
        rw [← faulted_iff]
        apply hvisible before e middle device rfl hloses
        intro later hmem
        exact hunreset later (by simp [hmem])
      have hlater := hunreset (Machine.event act now action) (by simp)
      exact (act_faultEffect now action).keeps_faulted hearlier
        fun haction hanswer => hlater ⟨haction, hanswer⟩

/-- Every loss shows as a fault in exactly the runs none of whose submits on a
known device without a fault finds the command channel closed. -/
theorem loss_visible_iff (start : VulkanDriver B × IdSource)
    (actions : List Action) :
    Machine.Throughout act start actions
        (fun past now => LossVisible past now.1) ↔
      Machine.Meets act start actions (fun _ e => FindsChannelOpen e) := by
  apply Machine.throughout_iff_meets
  · intro before e after device hsplit
    simp at hsplit
  · intro past now action hvisible
    exact lossVisible_step hvisible

namespace ClosedChannel

/-- Two adapters, and a backend whose first call of `execute` panics. -/
def backend : ScriptedBackend :=
  ⟨[⟨"first", 1, 1⟩, ⟨"second", 1, 2⟩], [.panicked]⟩

def world : VulkanDriver ScriptedBackend × IdSource :=
  (.start backend.adapters 1024 .sequential backend,
    IdSource.sequential.advance 2)

/-- GPU 0 takes the render thread down before GPU 1 is used. -/
def actions : List Action :=
  [.call (.submit ⟨0⟩ .graphics [.barrier]), .channelCloses,
    .call (.submit ⟨1⟩ .graphics [.barrier])]

/-- The submit on GPU 1 fails for want of the thread, and GPU 1 reports no
fault. -/
theorem loss_not_visible :
    withBackend backend 1024 (.ok ()) .sequential =
        (.ok world.1, world.2) ∧
      ((Machine.answers act world actions).getLast? =
        some (some (.outcome (.returned (.error
          (.device "Vulkan render thread is not running")))))) ∧
      ¬ Machine.Throughout act world actions
        (fun past now => LossVisible past now.1) := by
  refine ⟨rfl, by decide, ?_⟩
  intro hall
  let crash : List Action := actions.take 2
  obtain ⟨fault, hfault⟩ := hall.last (Machine.trace act world crash)
    (Machine.event act (Machine.run act world crash)
      (.call (.submit ⟨1⟩ .graphics [.barrier]))) [] ⟨1⟩ rfl
    ⟨.graphics, [.barrier], rfl, ⟨_, rfl⟩, by decide, trivial⟩ (by simp)
  have hnone : GpuDriver.faultStatus (Machine.run act world actions).1 ⟨1⟩ =
      .ok none := by decide
  cases hnone.symm.trans hfault

end ClosedChannel

end VulkanDriver

end SherGraphics
