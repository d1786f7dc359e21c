/-
What one action does to the recorded faults of a `VulkanDriver` and to its
render thread.  Only four kinds of action touch either: a submit on a known
device without a fault, a reset of a known device, a fault marked on one, and
the thread going down by itself.
-/
import SherGraphics.VulkanDriver

namespace SherGraphics

namespace VulkanTables

variable {tables : VulkanTables} {device other : ObjectId}

theorem faultStatus_eq_some {found : Option GpuFault} :
    faultStatus tables device = .ok found ↔
      tables.Knows device ∧ tables.faults.get device = found := by
  by_cases hknown : tables.Knows device
  · rw [faultStatus_of_known hknown]
    simp [hknown]
  · rw [faultStatus_of_unknown hknown]
    simp [hknown]

theorem recordFault_devices (tables : VulkanTables) (device : ObjectId)
    (description : String) :
    (tables.recordFault device description).devices = tables.devices := by
  by_cases hknown : tables.Knows device
  · rw [recordFault_of_known hknown]
  · rw [recordFault_of_unknown hknown]

theorem recordFault_knows (tables : VulkanTables) (device : ObjectId)
    (description : String) (other : ObjectId) :
    (tables.recordFault device description).Knows other ↔
      tables.Knows other := by
  rw [Knows, recordFault_devices, Knows]

/-- A recorded fault never removes another. -/
theorem recordFault_keeps {fault : GpuFault}
    (hfault : tables.faults.get other = some fault) (device : ObjectId)
    (description : String) :
    ∃ kept, (tables.recordFault device description).faults.get other =
      some kept := by
  by_cases hknown : tables.Knows device
  · rw [recordFault_of_known hknown]
    by_cases heq : other = device
    · subst heq
      exact ⟨_, Table.get_insert_self _ _ _⟩
    · exact ⟨fault, by rw [Table.get_insert_ne _ _ heq, hfault]⟩
  · rw [recordFault_of_unknown hknown]
    exact ⟨fault, hfault⟩

theorem recordFault_get (hknown : tables.Knows device)
    (description : String) :
    (tables.recordFault device description).faults.get device =
      some ⟨device, 0, description⟩ := by
  rw [recordFault_of_known hknown]
  exact Table.get_insert_self _ _ _

theorem afterSubmit_of_lost {response : Response} {description : String}
    (hlost : response.lossRecorded = some description) :
    tables.afterSubmit device response =
      tables.recordFault device description := by
  rw [afterSubmit, hlost]

theorem afterSubmit_of_kept {response : Response}
    (hkept : response.lossRecorded = none) :
    tables.afterSubmit device response = tables := by
  rw [afterSubmit, hkept]

theorem afterSubmit_devices (tables : VulkanTables) (device : ObjectId)
    (response : Response) :
    (tables.afterSubmit device response).devices = tables.devices := by
  cases hlost : response.lossRecorded with
  | none => rw [afterSubmit_of_kept hlost]
  | some description =>
      rw [afterSubmit_of_lost hlost, recordFault_devices]

theorem afterReset_devices (tables : VulkanTables) (device : ObjectId)
    (response : Response) :
    (tables.afterReset device response).devices = tables.devices := by
  rw [afterReset]
  split <;> rfl

theorem afterReset_of_ok (tables : VulkanTables) (device : ObjectId) :
    tables.afterReset device (.answered (.ok ())) =
      { tables with faults := tables.faults.erase device } := by
  rw [afterReset, if_pos rfl]

theorem afterReset_of_refused {response : Response}
    (hrefused : response ≠ .answered (.ok ())) :
    tables.afterReset device response = tables := by
  rw [afterReset, if_neg hrefused]

end VulkanTables

namespace VulkanDriver

variable {B : Type}

/-- The action has nothing to do with the faults or the thread as they are. -/
def Idle (driver : VulkanDriver B) : Action → Prop
  | .call (.submit device _ _) => driver.tables.Knows device →
      ∃ fault, driver.tables.faults.get device = some fault
  | .call (.resetDevice device) => ¬ driver.tables.Knows device
  | .call (.markFaulted device _) => ¬ driver.tables.Knows device
  | .threadStops => driver.worker.status ≠ .running
  | .channelCloses => driver.worker.status ≠ .stopping
  | _ => True

/-- The two have the same devices, faults and render thread. -/
structure SameFaults (before after : VulkanDriver B) : Prop where
  devices : after.tables.devices = before.tables.devices
  faults : after.tables.faults = before.tables.faults
  worker : after.worker = before.worker

theorem SameFaults.refl (driver : VulkanDriver B) :
    SameFaults driver driver :=
  ⟨rfl, rfl, rfl⟩

theorem SameFaults.of_eq {driver after : VulkanDriver B}
    (hsame : after = driver) : SameFaults driver after := by
  rw [hsame]
  exact .refl driver

/-- What an action does to the faults and the thread. -/
inductive FaultEffect [VulkanBackend B] (before after : VulkanDriver B) :
    Action → Option DriverReply → Prop
  | kept {action : Action} {reply : Option DriverReply}
      (hidle : before.Idle action) (hsame : SameFaults before after) :
      FaultEffect before after action reply
  | submitted {device : ObjectId} {workload : WorkloadClass}
      {ops : List DriverOp} {response : Response} {worker : RenderThread B}
      (hknown : before.tables.Knows device)
      (hclear : before.tables.faults.get device = none)
      (hasked : before.worker.ask (VulkanBackend.execute ops) =
        (response, worker))
      (hafter : after = ⟨before.tables.afterSubmit device response, worker⟩) :
      FaultEffect before after (.call (.submit device workload ops))
        (some (.outcome (.returned response.submitResult)))
  | reset {device : ObjectId} {response : Response} {worker : RenderThread B}
      (hknown : before.tables.Knows device)
      (hasked : before.worker.ask VulkanBackend.reset = (response, worker))
      (hafter : after = ⟨before.tables.afterReset device response, worker⟩) :
      FaultEffect before after (.call (.resetDevice device))
        (some (.done response.resetResult))
  | marked {device : ObjectId} {description : String}
      (hknown : before.tables.Knows device)
      (hafter : after = recordFault device description before) :
      FaultEffect before after (.call (.markFaulted device description))
        (some .marked)
  | threadStopped (hrunning : before.worker.status = .running)
      (hafter : after =
        ⟨before.tables, .stopping, before.worker.backend⟩) :
      FaultEffect before after .threadStops none
  | channelClosed (hstopping : before.worker.status = .stopping)
      (hafter : after = ⟨before.tables, .stopped,
        VulkanBackend.drop before.worker.backend⟩) :
      FaultEffect before after .channelCloses none

theorem onTables_unchanged {α : Type} {driver : VulkanDriver B}
    {method : Method Error VulkanTables α}
    (hkeeps : (method driver.tables).2 = driver.tables) :
    (onTables method driver).2 = driver := by
  change { driver with tables := (method driver.tables).2 } = driver
  rw [hkeeps]

theorem allocateVram_sameFaults (driver : VulkanDriver B) (ids : IdSource)
    (device : ObjectId) (size : Nat) (memoryClass : MemoryClass) :
    SameFaults driver
      (allocateVram device size memoryClass (driver, ids)).2.1 := by
  rw [allocateVram]
  rcases VulkanTables.allocateVram_cases driver.tables ids device size
      memoryClass with ⟨left, -, -, -, hrun⟩ | ⟨error, hrun⟩
  · rw [hrun]
    exact ⟨rfl, rfl, rfl⟩
  · rw [hrun]
    exact ⟨rfl, rfl, rfl⟩

theorem freeVram_sameFaults (driver : VulkanDriver B) (name : ObjectId) :
    SameFaults driver (onTables (VulkanTables.freeVram name) driver).2 := by
  rw [onTables]
  cases hlive : driver.tables.allocations.get name with
  | none =>
      rw [VulkanTables.freeVram_of_unknown hlive]
      exact .refl driver
  | some allocation =>
      cases hpool : driver.tables.vramAvailable.get allocation.device with
      | none =>
          rw [VulkanTables.freeVram_of_unpooled hlive hpool]
          exact ⟨rfl, rfl, rfl⟩
      | some left =>
          rw [VulkanTables.freeVram_of_live hlive hpool]
          exact ⟨rfl, rfl, rfl⟩

theorem call_faultEffect [VulkanBackend B] (world : VulkanDriver B × IdSource)
    (call : DriverCall) :
    FaultEffect world.1 (GpuDriver.call world call).2.1 (.call call)
      (some (GpuDriver.call world call).1) := by
  obtain ⟨driver, ids⟩ := world
  cases call with
  | initializeDevice info =>
      have hidle : driver.Idle (.call (.initializeDevice info)) := trivial
      exact .kept hidle (.of_eq (onTables_unchanged
        (VulkanTables.initializeDevice_unchanged info)))
  | allocateVram device size memoryClass =>
      exact .kept trivial
        (allocateVram_sameFaults driver ids device size memoryClass)
  | freeVram name => exact .kept trivial (freeVram_sameFaults driver name)
  | mapDma name =>
      have hidle : driver.Idle (.call (.mapDma name)) := trivial
      exact .kept hidle (.of_eq (onTables_unchanged
        (VulkanTables.mapDma_unchanged name)))
  | submit device workload ops =>
      change FaultEffect driver (submit device workload ops driver).2 _
        (some (.outcome (submit device workload ops driver).1))
      by_cases hknown : driver.tables.Knows device
      · cases hfault : driver.tables.faults.get device with
        | some fault =>
            rw [submit_of_faulted hknown hfault]
            exact .kept (fun _ => ⟨fault, hfault⟩) (.refl driver)
        | none =>
            rw [submit_of_clear hknown hfault rfl]
            exact .submitted hknown hfault rfl rfl
      · rw [submit_of_unknown hknown]
        exact .kept (fun hno => absurd hno hknown) (.refl driver)
  | resetDevice device =>
      change FaultEffect driver (resetDevice device driver).2 _
        (some (.done (resetDevice device driver).1))
      by_cases hknown : driver.tables.Knows device
      · rw [resetDevice_of_known hknown rfl]
        exact .reset hknown rfl rfl
      · rw [resetDevice_of_unknown hknown]
        exact .kept hknown (.refl driver)
  | markFaulted device description =>
      change FaultEffect driver (recordFault device description driver) _ _
      by_cases hknown : driver.tables.Knows device
      · exact .marked hknown rfl
      · have hidle : driver.Idle (.call (.markFaulted device description)) :=
          hknown
        rw [recordFault, VulkanTables.recordFault_of_unknown hknown]
        exact .kept hidle (.refl driver)

theorem act_faultEffect [VulkanBackend B] (world : VulkanDriver B × IdSource)
    (action : Action) :
    FaultEffect world.1 (act world action).2.1 action (act world action).1 := by
  cases action with
  | call call => exact call_faultEffect world call
  | threadStops =>
      change FaultEffect world.1 (stopThread world.1) _ none
      rw [stopThread]
      by_cases hrunning : world.1.worker.status = .running
      · rw [if_pos hrunning]
        exact .threadStopped hrunning rfl
      · rw [if_neg hrunning]
        exact .kept hrunning (.refl world.1)
  | channelCloses =>
      change FaultEffect world.1 (closeChannel world.1) _ none
      rw [closeChannel]
      by_cases hstopping : world.1.worker.status = .stopping
      · rw [if_pos hstopping]
        exact .channelClosed hstopping rfl
      · rw [if_neg hstopping]
        exact .kept hstopping (.refl world.1)

namespace FaultEffect

variable [VulkanBackend B] {before after : VulkanDriver B} {action : Action}
  {reply : Option DriverReply}

theorem devices (heffect : FaultEffect before after action reply) :
    after.tables.devices = before.tables.devices := by
  cases heffect with
  | kept hidle hsame => exact hsame.devices
  | submitted hknown hclear hasked hafter =>
      rw [hafter]
      exact VulkanTables.afterSubmit_devices before.tables _ _
  | reset hknown hasked hafter =>
      rw [hafter]
      exact VulkanTables.afterReset_devices before.tables _ _
  | marked hknown hafter =>
      rw [hafter]
      exact VulkanTables.recordFault_devices before.tables _ _
  | threadStopped hrunning hafter => rw [hafter]
  | channelClosed hstopping hafter => rw [hafter]

/-- The devices of a driver never change. -/
theorem knows_iff (heffect : FaultEffect before after action reply)
    (device : ObjectId) :
    after.tables.Knows device ↔ before.tables.Knows device := by
  rw [VulkanTables.Knows, VulkanTables.Knows, heffect.devices]

end FaultEffect

end VulkanDriver

end SherGraphics
