/-
Whether a recorded fault of a `VulkanDriver` can be cleared.  A reset needs the
render thread, and a fault is also recorded when that thread dies, so a fault
is recoverable exactly as long as the thread runs.  The backend is observed: it
writes down the calls it receives.
-/
import SherGraphics.VulkanFaults

namespace SherGraphics

/-- A backend and the calls it has received, oldest first. -/
structure Observed (B : Type) where
  backend : B
  seen : List BackendCall

instance {B : Type} [VulkanBackend B] : VulkanBackend (Observed B) where
  enumerateAdapters observed :=
    let (result, backend) :=
      VulkanBackend.enumerateAdapters observed.backend
    (result, { observed with backend })
  execute ops observed :=
    let (outcome, backend) := VulkanBackend.execute ops observed.backend
    (outcome, ⟨backend, observed.seen ++ [.execute ops]⟩)
  reset observed :=
    let (outcome, backend) := VulkanBackend.reset observed.backend
    (outcome, ⟨backend, observed.seen ++ [.reset]⟩)
  drop observed :=
    { observed with backend := VulkanBackend.drop observed.backend }

namespace VulkanDriver

section Recoverable

variable {B : Type} [VulkanBackend B]

/-- Every recorded fault can be cleared by a reset, and the next submit on its
device reaches the backend. -/
def Recoverable (driver : VulkanDriver (Observed B)) : Prop :=
  ∀ device fault, GpuDriver.faultStatus driver device = .ok (some fault) →
    let (result, after) := GpuDriver.resetDevice device driver
    result = .ok () ∧ GpuDriver.faultStatus after device = .ok none ∧
      ∀ workload ops,
        (GpuDriver.submit device workload ops after).2.worker.backend.seen =
          after.worker.backend.seen ++ [.execute ops]

/-- The action does not leave a fault behind a render thread that has gone:
no submit on a known device without a fault meets a dying thread or kills it by
a panic, no fault is marked after it, and it does not stop over a fault. -/
def Survivable (driver : VulkanDriver (Observed B)) : Action → Prop
  | .call (.submit device _ ops) => driver.tables.Knows device →
      driver.tables.faults.get device = none →
        driver.worker.status ≠ .stopping ∧
          (driver.worker.status = .running →
            (VulkanBackend.execute ops driver.worker.backend.backend).1 ≠
              .panicked)
  | .call (.markFaulted device _) => driver.tables.Knows device →
      driver.worker.status = .running
  | .threadStops => driver.worker.status = .running →
      ∀ device, driver.tables.Knows device →
        driver.tables.faults.get device = none
  | _ => True

/-- The render thread runs, or no device has a fault. -/
def Serviced (driver : VulkanDriver (Observed B)) : Prop :=
  driver.worker.status = .running ∨
    ∀ device, driver.tables.Knows device →
      driver.tables.faults.get device = none

theorem ask_execute_seen {thread : RenderThread (Observed B)}
    (hrunning : thread.status = .running) (ops : List DriverOp) :
    (thread.ask (VulkanBackend.execute ops)).2.backend.seen =
      thread.backend.seen ++ [.execute ops] := by
  cases hserved : VulkanBackend.execute ops thread.backend with
  | mk outcome backend =>
      have hseen : backend.seen = thread.backend.seen ++ [.execute ops] :=
        (congrArg (fun served => served.2.seen) hserved).symm
      cases outcome with
      | returned result =>
          rw [RenderThread.ask_of_returned hrunning hserved]
          exact hseen
      | panicked =>
          rw [RenderThread.ask_of_panicked hrunning hserved]
          exact hseen

variable (hreset : ∀ backend : B,
  (VulkanBackend.reset backend).1 = .returned (.ok ()))

include hreset

theorem ask_reset {thread : RenderThread (Observed B)}
    (hrunning : thread.status = .running) :
    ∃ backend, thread.ask VulkanBackend.reset =
      (.answered (.ok ()), ⟨.running, backend⟩) := by
  cases hserved : VulkanBackend.reset thread.backend with
  | mk outcome backend =>
      have houtcome : outcome = .returned (.ok ()) := by
        have hback := hreset thread.backend.backend
        rw [← hback]
        exact (congrArg Prod.fst hserved).symm
      rw [houtcome] at hserved
      exact ⟨backend, RenderThread.ask_of_returned hrunning hserved⟩

/-- A running thread clears every fault. -/
theorem recoverable_of_running {driver : VulkanDriver (Observed B)}
    (hrunning : driver.worker.status = .running) : Recoverable driver := by
  intro device fault hfault
  obtain ⟨hknown, -⟩ := VulkanTables.faultStatus_eq_some.mp hfault
  obtain ⟨backend, hasked⟩ := ask_reset hreset hrunning
  let after : VulkanDriver (Observed B) :=
    ⟨{ driver.tables with faults := driver.tables.faults.erase device },
      .running, backend⟩
  have hknows : after.tables.Knows device := hknown
  have hclear : after.tables.faults.get device = none :=
    Table.get_erase_self _ _
  have hrun : GpuDriver.resetDevice device driver = (.ok (), after) := by
    change resetDevice device driver = _
    rw [resetDevice_of_known hknown hasked, VulkanTables.afterReset_of_ok]
    rfl
  rw [hrun]
  refine ⟨rfl, VulkanTables.faultStatus_eq_some.mpr ⟨hknows, hclear⟩, ?_⟩
  intro workload ops
  change (submit device workload ops after).2.worker.backend.seen = _
  rw [submit_of_clear hknows hclear rfl]
  have hstatus : after.worker.status = .running := rfl
  exact ask_execute_seen hstatus ops

omit hreset in
/-- Without the thread no reset succeeds. -/
theorem resetDevice_of_dead {driver : VulkanDriver (Observed B)}
    (hdead : driver.worker.status ≠ .running) (device : ObjectId) :
    (resetDevice device driver).1 ≠ .ok () := by
  by_cases hknown : driver.tables.Knows device
  · obtain ⟨response, backend, hasked, hcause⟩ :=
      RenderThread.ask_of_not_running VulkanBackend.reset hdead
    rw [resetDevice_of_known hknown hasked]
    rcases hcause with ⟨rfl, -⟩ | ⟨rfl, -⟩
    · simp [Response.resetResult]
    · simp [Response.resetResult]
  · rw [resetDevice_of_unknown hknown]
    simp

theorem recoverable_iff (driver : VulkanDriver (Observed B)) :
    Recoverable driver ↔ Serviced driver := by
  constructor
  · intro hrecoverable
    by_cases hrunning : driver.worker.status = .running
    · exact Or.inl hrunning
    · right
      intro device hknown
      rw [Option.eq_none_iff_forall_ne_some]
      intro fault hfault
      have hreported : GpuDriver.faultStatus driver device =
          .ok (some fault) :=
        VulkanTables.faultStatus_eq_some.mpr ⟨hknown, hfault⟩
      exact resetDevice_of_dead hrunning device
        (hrecoverable device fault hreported).1
  · rintro (hrunning | hclear)
    · exact recoverable_of_running hreset hrunning
    · intro device fault hfault
      obtain ⟨hknown, hrecorded⟩ := VulkanTables.faultStatus_eq_some.mp hfault
      rw [hclear device hknown] at hrecorded
      cases hrecorded

/-! ### What one action does to the service -/

omit [VulkanBackend B] hreset in
/-- A fault on a known device needs a running thread. -/
theorem serviced_of_faulted {driver : VulkanDriver (Observed B)}
    {device : ObjectId} {fault : GpuFault}
    (hknown : driver.tables.Knows device)
    (hfault : driver.tables.faults.get device = some fault) :
    Serviced driver ↔ driver.worker.status = .running := by
  constructor
  · rintro (hrunning | hclear)
    · exact hrunning
    · cases (hclear device hknown).symm.trans hfault
  · exact Or.inl

omit [VulkanBackend B] hreset in
theorem Serviced.congr {driver after : VulkanDriver (Observed B)}
    (hserviced : Serviced driver)
    (hdevices : after.tables.devices = driver.tables.devices)
    (hfaults : after.tables.faults = driver.tables.faults)
    (hstatus : driver.worker.status = .running →
      after.worker.status = .running) : Serviced after := by
  rcases hserviced with hrunning | hclear
  · exact Or.inl (hstatus hrunning)
  · right
    intro device hknown
    rw [VulkanTables.Knows, hdevices] at hknown
    rw [hfaults]
    exact hclear device hknown

omit hreset in
theorem Idle.survivable {driver : VulkanDriver (Observed B)}
    {action : Action} (hidle : driver.Idle action) :
    Survivable driver action := by
  cases action with
  | threadStops => exact fun hrunning => absurd hrunning hidle
  | channelCloses => trivial
  | call call =>
      cases call with
      | submit device workload ops =>
          intro hknown hclear
          obtain ⟨fault, hfault⟩ := hidle hknown
          cases hclear.symm.trans hfault
      | markFaulted device description =>
          exact fun hknown => absurd hknown hidle
      | _ => trivial

omit hreset in
theorem submit_serviced {before after : VulkanDriver (Observed B)}
    {device : ObjectId} {workload : WorkloadClass} {ops : List DriverOp}
    {response : Response} {worker : RenderThread (Observed B)}
    (hserviced : Serviced before) (hknown : before.tables.Knows device)
    (hclear : before.tables.faults.get device = none)
    (hasked : before.worker.ask (VulkanBackend.execute ops) =
      (response, worker))
    (hafter : after = ⟨before.tables.afterSubmit device response, worker⟩) :
    Serviced after ↔
      Survivable before (.call (.submit device workload ops)) := by
  have hcond : Survivable before (.call (.submit device workload ops)) ↔
      before.worker.status ≠ .stopping ∧ (before.worker.status = .running →
        (VulkanBackend.execute ops before.worker.backend.backend).1 ≠
          .panicked) :=
    ⟨fun hsurvives => hsurvives hknown hclear, fun hsurvives _ _ => hsurvives⟩
  have hdropped : response = .dropped → worker.status ≠ .running →
      ¬ Serviced after := by
    intro hresponse hdead hnow
    subst hresponse hafter
    have hknows := (VulkanTables.recordFault_knows before.tables device
      "Vulkan render thread stopped before replying" device).mpr hknown
    have hfault := VulkanTables.recordFault_get hknown
      "Vulkan render thread stopped before replying"
    exact hdead ((serviced_of_faulted hknows hfault).mp hnow)
  rw [hcond]
  cases hstatus : before.worker.status with
  | running =>
      cases hserved : VulkanBackend.execute ops before.worker.backend with
      | mk outcome backend =>
          have houtcome : (VulkanBackend.execute ops
              before.worker.backend.backend).1 = outcome :=
            congrArg Prod.fst hserved
          rw [houtcome]
          cases outcome with
          | returned result =>
              cases (RenderThread.ask_of_returned hstatus hserved).symm.trans
                hasked
              rw [hafter]
              exact iff_of_true (Or.inl rfl) ⟨by simp, by simp⟩
          | panicked =>
              cases (RenderThread.ask_of_panicked hstatus hserved).symm.trans
                hasked
              apply iff_of_false (hdropped rfl (by simp))
              rintro ⟨-, hreturns⟩
              exact hreturns rfl rfl
  | stopping =>
      cases (RenderThread.ask_of_stopping hstatus).symm.trans hasked
      exact iff_of_false (hdropped rfl (by simp)) fun hsurvives =>
        hsurvives.1 rfl
  | stopped =>
      cases (RenderThread.ask_of_stopped hstatus).symm.trans hasked
      rw [hafter]
      exact iff_of_true (hserviced.congr rfl rfl id) ⟨by simp, by simp⟩

theorem reset_serviced {before after : VulkanDriver (Observed B)}
    {device : ObjectId} {response : Response}
    {worker : RenderThread (Observed B)} (hserviced : Serviced before)
    (hasked : before.worker.ask VulkanBackend.reset = (response, worker))
    (hafter : after = ⟨before.tables.afterReset device response, worker⟩) :
    Serviced after := by
  by_cases hrunning : before.worker.status = .running
  · obtain ⟨backend, hanswered⟩ := ask_reset hreset hrunning
    cases hanswered.symm.trans hasked
    rw [hafter]
    exact Or.inl rfl
  · obtain ⟨refusal, backend, hrefused, hcause⟩ :=
      RenderThread.ask_of_not_running VulkanBackend.reset hrunning
    cases hrefused.symm.trans hasked
    have hnone : response ≠ .answered (.ok ()) := by
      rcases hcause with ⟨rfl, -⟩ | ⟨rfl, -⟩
      · simp
      · simp
    rw [hafter, VulkanTables.afterReset_of_refused hnone]
    exact hserviced.congr rfl rfl fun hrun => absurd hrun hrunning

theorem serviced_step {before after : VulkanDriver (Observed B)}
    {action : Action} {reply : Option DriverReply}
    (hserviced : Serviced before)
    (heffect : FaultEffect before after action reply) :
    Serviced after ↔ Survivable before action := by
  cases heffect with
  | kept hidle hsame =>
      have hstatus : before.worker.status = .running →
          after.worker.status = .running := by
        rw [hsame.worker]
        exact id
      exact iff_of_true
        (hserviced.congr hsame.devices hsame.faults hstatus) hidle.survivable
  | submitted hknown hclear hasked hafter =>
      exact submit_serviced hserviced hknown hclear hasked hafter
  | reset hknown hasked hafter =>
      exact iff_of_true (reset_serviced hreset hserviced hasked hafter) trivial
  | @marked device description hknown hafter =>
      have hcond : Survivable before (.call (.markFaulted device
          description)) ↔ before.worker.status = .running :=
        ⟨fun hsurvives => hsurvives hknown, fun hrunning _ => hrunning⟩
      have hknows := (VulkanTables.recordFault_knows before.tables device
        description device).mpr hknown
      have hfault := VulkanTables.recordFault_get hknown description
      rw [hcond, hafter]
      exact serviced_of_faulted hknows hfault
  | threadStopped hrunning hafter =>
      have hcond : Survivable before .threadStops ↔ ∀ device,
          before.tables.Knows device →
            before.tables.faults.get device = none :=
        ⟨fun hsurvives => hsurvives hrunning, fun hclear _ => hclear⟩
      rw [hcond, hafter]
      exact or_iff_right (by simp)
  | channelClosed hstopping hafter =>
      apply iff_of_true _ trivial
      rw [hafter]
      exact hserviced.congr rfl rfl fun hrunning => by
        rw [hstopping] at hrunning
        cases hrunning

/-- The faults of a driver are recoverable throughout exactly the runs that
leave no fault behind a render thread that has gone. -/
theorem faults_recoverable_iff {backend : B} {vramBytes : Nat}
    {spawned : Except String Unit} {ids later : IdSource}
    {driver : VulkanDriver (Observed B)}
    (hopened : withBackend (⟨backend, []⟩ : Observed B) vramBytes spawned ids =
      (.ok driver, later)) (actions : List Action) :
    Machine.Throughout act (driver, later) actions
        (fun _ now => Recoverable now.1) ↔
      Machine.Meets act (driver, later) actions
        (fun _ e => Survivable e.before.1 e.action) := by
  obtain ⟨adapters, observed, rfl, rfl⟩ := withBackend_ok hopened
  apply Machine.throughout_iff_meets
  · exact recoverable_of_running hreset rfl
  · intro past now action hnow
    have hserviced := (recoverable_iff hreset now.1).mp hnow
    rw [recoverable_iff hreset]
    exact serviced_step hreset hserviced (act_faultEffect now action)

end Recoverable

namespace PanickingExecute

/-- One adapter, and a backend whose first call of `execute` ends so. -/
def observed (outcome : BackendOutcome) : Observed ScriptedBackend :=
  ⟨⟨[⟨"adapter", 1, 1⟩], [outcome]⟩, []⟩

def world (outcome : BackendOutcome) :
    VulkanDriver (Observed ScriptedBackend) × IdSource :=
  (.start (observed outcome).backend.adapters 1024 .sequential
    (observed outcome), IdSource.sequential.advance 1)

/-- A draw that panics leaves a fault that no reset clears. -/
theorem fault_outlives_reset :
    withBackend (observed .panicked) 1024 (.ok ()) .sequential =
        (.ok (world .panicked).1, (world .panicked).2) ∧
      (∀ backend : ScriptedBackend,
        (VulkanBackend.reset backend).1 = .returned (.ok ())) ∧
      ¬ Machine.Throughout act (world .panicked)
        [.call (.submit ⟨0⟩ .graphics [.barrier])]
        (fun _ now => Recoverable now.1) := by
  refine ⟨rfl, fun _ => rfl, ?_⟩
  intro hall
  have hreset := (hall.last ⟨0⟩
    ⟨⟨0⟩, 0, "Vulkan render thread stopped before replying"⟩ (by decide)).1
  exact absurd hreset (by decide)

/-- A lost device is a fault that a reset clears. -/
theorem loss_recovered :
    let lost := BackendOutcome.returned (.error (.deviceLost "gone"))
    Machine.Throughout act (world lost)
      [.call (.submit ⟨0⟩ .graphics [.barrier]),
        .call (.resetDevice ⟨0⟩)]
      (fun _ now => Recoverable now.1) := by
  intro lost
  apply (faults_recoverable_iff (B := ScriptedBackend) (fun _ => rfl)
    (show withBackend (observed lost) 1024 (.ok ()) .sequential =
      (.ok (world lost).1, (world lost).2) from rfl) _).mpr
  apply Machine.meets_of_prefixes
  intro first action rest hsplit
  rcases first with _ | ⟨submit, _ | ⟨reset, first⟩⟩
  · obtain ⟨rfl, -⟩ := List.cons.inj hsplit
    exact fun _ _ => ⟨by decide, fun _ => by decide⟩
  · obtain ⟨rfl, hrest⟩ := List.cons.inj hsplit
    obtain ⟨rfl, -⟩ := List.cons.inj hrest
    trivial
  · simp at hsplit

end PanickingExecute

end VulkanDriver

end SherGraphics
