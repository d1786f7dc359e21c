/-
The faults of a driver over the real Vulkan backend, against what Vulkan itself
reported.  A submission makes one offscreen render, and the fault it records is
that of a render whose first failed call found the device lost, or of a thread
that was not there to make one.
-/
import SherGraphics.RealVulkanLife
import SherGraphics.VulkanFaults

namespace SherGraphics

open VulkanContext

namespace RealVulkanBackend

/-- The error of a code is a lost device exactly for one code. -/
theorem mapVulkanError_deviceLost {text : VkResult → String} {code : VkResult}
    {message : String} :
    mapVulkanError text (.ofResult text code) = .deviceLost message ↔
      code = .errorDeviceLost ∧ text code = message := by
  rw [VulkanError.ofResult]
  by_cases hlost : code = .errorDeviceLost
  · simp [hlost, mapVulkanError]
  · simp [hlost, mapVulkanError]

/-- A submission makes calls on the instance, and tells of a lost device
exactly if that was the first that one of them reported. -/
theorem execute_lost (backend : RealVulkanBackend) (ops : List DriverOp) :
    ∃ result calls, RealVulkanBackend.execute ops backend =
        (.returned result, { backend with
          log := backend.log ++
            calls.map (.onInstance backend.context.vkInstance) }) ∧
      ((Response.answered result).lossRecorded.isSome ↔
        firstCode calls = some .errorDeviceLost) := by
  obtain ⟨result, calls, hrun, hcode, hnone⟩ := execute_run backend ops
  refine ⟨result, calls, hrun, ?_⟩
  have hrecorded : (Response.answered result).lossRecorded.isSome ↔
      ∃ message, result = .error (.deviceLost message) := by
    rcases result with error | value
    · cases error <;> simp [Response.lossRecorded]
    · simp [Response.lossRecorded]
  rw [hrecorded]
  cases hfirst : firstCode calls with
  | none =>
      refine iff_of_false ?_ nofun
      rintro ⟨message, hlost⟩
      obtain ⟨other, herror⟩ := hnone hfirst _ hlost
      cases herror
  | some code =>
      rw [hcode code hfirst, Option.some.injEq]
      constructor
      · rintro ⟨message, hlost⟩
        exact (mapVulkanError_deviceLost.mp (Except.error.inj hlost)).1
      · intro hlost
        exact ⟨_, congrArg Except.error
          (mapVulkanError_deviceLost.mpr ⟨hlost, rfl⟩)⟩

end RealVulkanBackend

theorem VulkanTables.recordFault_isSome {tables : VulkanTables}
    {other : ObjectId} (hknown : tables.Knows other) (description : String)
    (device : ObjectId) :
    ((tables.recordFault other description).faults.get device).isSome ↔
      device = other ∨ (tables.faults.get device).isSome := by
  rw [recordFault_of_known hknown]
  by_cases heq : device = other
  · simp [heq]
  · simp [heq, Table.get_insert_ne]

namespace VulkanDriver

/-- A step of the driver over the real backend, or of its thread. -/
abbrev RealEvent :=
  Event (VulkanDriver RealVulkanBackend × IdSource) Action (Option DriverReply)

/-- The calls on instances that were made in between. -/
def rendered (before after : VulkanDriver RealVulkanBackend) : List VkCall :=
  (deviceCalls after.worker.backend.log).drop
    (deviceCalls before.worker.backend.log).length

/-- A submission on the device. -/
def SubmitsOn (device : ObjectId) (e : RealEvent) : Prop :=
  ∃ workload ops, e.action = .call (.submit device workload ops)

/-- A submission on the device in which the first failed Vulkan call found the
GPU lost. -/
def LosesDevice (device : ObjectId) (e : RealEvent) : Prop :=
  SubmitsOn device e ∧
    firstCode (rendered e.before.1 e.after.1) = some .errorDeviceLost

/-- A submission on the device that a thread on its way out drops, as one that
failed to start does. -/
def LosesThread (device : ObjectId) (e : RealEvent) : Prop :=
  SubmitsOn device e ∧ e.before.1.worker.status = .stopping

def MarksDevice (device : ObjectId) (e : RealEvent) : Prop :=
  ∃ description, e.action = .call (.markFaulted device description)

def RepairsDevice (device : ObjectId) (e : RealEvent) : Prop :=
  e.action = .call (.resetDevice device) ∧ e.answer = some (.done (.ok ()))

/-- A fault of the device begins. -/
def BreaksDevice (device : ObjectId) (e : RealEvent) : Prop :=
  LosesDevice device e ∨ LosesThread device e ∨ MarksDevice device e

/-- What Vulkan reported, the thread gave up, or a panic that was contained has
left, is going on. -/
def FaultOngoing (device : ObjectId) (past : List RealEvent) : Prop :=
  Ongoing (BreaksDevice device) (RepairsDevice device) past

/-- The fault of the device is the one going on. -/
structure Watched (device : ObjectId) (past : List RealEvent)
    (now : VulkanDriver RealVulkanBackend × IdSource) : Prop where
  known : now.1.tables.Knows device
  faulted : (now.1.tables.faults.get device).isSome ↔ FaultOngoing device past

theorem rendered_of_log {before after : VulkanDriver RealVulkanBackend}
    {owner : VkInstance} {calls : List VkCall}
    (hlog : after.worker.backend.log =
      before.worker.backend.log ++ calls.map (.onInstance owner)) :
    rendered before after = calls := by
  rw [rendered, hlog, deviceCalls_session, List.drop_left]

variable {device : ObjectId} {past : List RealEvent} {e : RealEvent}

/-- A step that settles whether the device has a fault. -/
theorem Watched.settled (hwatched : Watched device past e.before)
    (hdevices : e.after.1.tables.devices = e.before.1.tables.devices)
    (hfaults : (e.after.1.tables.faults.get device).isSome ↔
      BreaksDevice device e ∨ (e.before.1.tables.faults.get device).isSome ∧
        ¬ RepairsDevice device e) :
    Watched device (past ++ [e]) e.after where
  known := by
    rw [VulkanTables.Knows, hdevices]
    exact hwatched.known
  faulted := by
    rw [hfaults, hwatched.faulted, FaultOngoing, FaultOngoing, ongoing_concat]

/-- A step that has nothing to do with the device. -/
theorem Watched.other (hwatched : Watched device past e.before)
    (hdevices : e.after.1.tables.devices = e.before.1.tables.devices)
    (hfaults : (e.after.1.tables.faults.get device).isSome ↔
      (e.before.1.tables.faults.get device).isSome)
    (hbreaks : ¬ BreaksDevice device e) (hrepairs : ¬ RepairsDevice device e) :
    Watched device (past ++ [e]) e.after :=
  hwatched.settled hdevices (by simp [hfaults, hbreaks, hrepairs])

/-- A submission on a device that has a fault changes nothing about it. -/
theorem Watched.refused (hwatched : Watched device past e.before)
    (hdevices : e.after.1.tables.devices = e.before.1.tables.devices)
    (hfault : (e.before.1.tables.faults.get device).isSome)
    (hkept : (e.after.1.tables.faults.get device).isSome)
    (hrepairs : ¬ RepairsDevice device e) :
    Watched device (past ++ [e]) e.after :=
  hwatched.settled hdevices (by simp [hfault, hkept, hrepairs])

/-- What a submission that was sent for records is what Vulkan reported, or
that the thread is going. -/
theorem recorded_iff {before : VulkanDriver RealVulkanBackend}
    {ops : List DriverOp} {response : Response}
    {worker : RenderThread RealVulkanBackend}
    (hasked : before.worker.ask (VulkanBackend.execute ops) =
      (response, worker)) (tables : VulkanTables) :
    response.lossRecorded.isSome ↔
      firstCode (rendered before ⟨tables, worker⟩) = some .errorDeviceLost ∨
        before.worker.status = .stopping := by
  cases hstatus : before.worker.status with
  | running =>
      obtain ⟨result, calls, hrun, hrecorded⟩ :=
        RealVulkanBackend.execute_lost before.worker.backend ops
      cases (RenderThread.ask_of_returned hstatus hrun).symm.trans hasked
      have hrendered : rendered before ⟨tables, .running, { before.worker.backend
          with log := before.worker.backend.log ++
            calls.map (.onInstance before.worker.backend.context.vkInstance) }⟩ =
          calls := rendered_of_log rfl
      rw [hrendered, hrecorded]
      simp
  | stopping =>
      cases (RenderThread.ask_of_stopping hstatus).symm.trans hasked
      simp [Response.lossRecorded]
  | stopped =>
      cases (RenderThread.ask_of_stopped hstatus).symm.trans hasked
      simp [Response.lossRecorded, rendered, firstCode]

/-- A reset takes the fault of its own device away, if it succeeds. -/
theorem repaired_iff {before : VulkanDriver RealVulkanBackend}
    {other : ObjectId} {response : Response} :
    ((before.tables.afterReset other response).faults.get device).isSome ↔
      (before.tables.faults.get device).isSome ∧
        ¬ (device = other ∧ response = .answered (.ok ())) := by
  by_cases hok : response = .answered (.ok ())
  · subst hok
    rw [VulkanTables.afterReset_of_ok]
    by_cases hsame : device = other
    · simp [hsame]
    · simp [hsame, Table.get_erase_ne]
  · rw [VulkanTables.afterReset_of_refused hok]
    simp [hok]

/-- One step of the driver or of its thread keeps the watch. -/
theorem Watched.step (hwatched : Watched device past e.before)
    (heffect : FaultEffect e.before.1 e.after.1 e.action e.answer) :
    Watched device (past ++ [e]) e.after := by
  obtain ⟨before, action, answer, after⟩ := e
  have hdevices := heffect.devices
  dsimp only at heffect hdevices
  cases heffect with
  | kept hidle hsame =>
      have hfaults : (after.1.tables.faults.get device).isSome ↔
          (before.1.tables.faults.get device).isSome := by
        rw [hsame.faults]
      by_cases hsubmits : SubmitsOn device ⟨before, action, answer, after⟩
      · obtain ⟨workload, ops, rfl⟩ := hsubmits
        obtain ⟨fault, hfault⟩ := hidle hwatched.known
        have hbefore : (before.1.tables.faults.get device).isSome := by
          rw [hfault]
          rfl
        exact hwatched.refused hdevices hbefore (hfaults.mpr hbefore)
          (by simp [RepairsDevice])
      · refine hwatched.other hdevices hfaults ?_ ?_
        · rintro (⟨hno, -⟩ | ⟨hno, -⟩ | ⟨description, rfl⟩)
          · exact hsubmits hno
          · exact hsubmits hno
          · exact hidle hwatched.known
        · rintro ⟨rfl, -⟩
          exact hidle hwatched.known
  | @submitted other workload ops response worker hknown hclear hasked hafter =>
      have hrecord : (after.1.tables.faults.get device).isSome ↔
          device = other ∧ response.lossRecorded.isSome ∨
            (before.1.tables.faults.get device).isSome := by
        rw [hafter]
        cases hlost : response.lossRecorded with
        | none =>
            rw [VulkanTables.afterSubmit_of_kept hlost]
            simp
        | some description =>
            rw [VulkanTables.afterSubmit_of_lost hlost,
              VulkanTables.recordFault_isSome hknown]
            simp
      refine hwatched.settled hdevices ?_
      rw [hrecord, recorded_iff hasked (before.1.tables.afterSubmit other
        response), ← hafter]
      have hsubmits : SubmitsOn device ⟨before, .call (.submit other workload
          ops), some (.outcome (.returned response.submitResult)), after⟩ ↔
            device = other := by
        constructor
        · rintro ⟨_, _, hsubmit⟩
          cases hsubmit
          rfl
        · rintro rfl
          exact ⟨workload, ops, rfl⟩
      simp [BreaksDevice, LosesDevice, LosesThread, MarksDevice, RepairsDevice,
        hsubmits, and_or_left]
  | @reset other response worker hknown hasked hafter =>
      have hrepairs : RepairsDevice device ⟨before, .call (.resetDevice other),
          some (.done response.resetResult), after⟩ ↔
            device = other ∧ response = .answered (.ok ()) := by
        rcases response with (error | value) | _ | _ <;>
          simp [RepairsDevice, Response.resetResult, eq_comm]
      refine hwatched.settled hdevices ?_
      rw [hrepairs, hafter, repaired_iff]
      simp [BreaksDevice, LosesDevice, LosesThread, SubmitsOn, MarksDevice]
  | @marked other description hknown hafter =>
      have hmarks : MarksDevice device ⟨before, .call (.markFaulted other
          description), some .marked, after⟩ ↔ device = other := by
        constructor
        · rintro ⟨_, hmarked⟩
          cases hmarked
          rfl
        · rintro rfl
          exact ⟨description, rfl⟩
      have hrecord : (after.1.tables.faults.get device).isSome ↔
          device = other ∨ (before.1.tables.faults.get device).isSome := by
        rw [hafter]
        exact VulkanTables.recordFault_isSome hknown description device
      refine hwatched.settled hdevices ?_
      simp [hrecord, BreaksDevice, LosesDevice, LosesThread, SubmitsOn, hmarks,
        RepairsDevice]
  | threadStopped hrunning hafter =>
      refine hwatched.other hdevices (by rw [hafter]) ?_ (by simp [RepairsDevice])
      simp [BreaksDevice, LosesDevice, LosesThread, SubmitsOn, MarksDevice]
  | channelClosed hstopping hafter =>
      refine hwatched.other hdevices (by rw [hafter]) ?_ (by simp [RepairsDevice])
      simp [BreaksDevice, LosesDevice, LosesThread, SubmitsOn, MarksDevice]

theorem new_start {host : VulkanHost} {vramBytes : Nat}
    {spawned : Except String Unit} {ids later : IdSource}
    {before log : List ContextCall} {driver : VulkanDriver RealVulkanBackend}
    (hopened : new host vramBytes spawned ids before =
      (.ok driver, later, log)) :
    ∃ adapters backend, driver = start adapters vramBytes ids backend := by
  rw [new] at hopened
  generalize RealVulkanBackend.openContext host before = ended at hopened
  obtain ⟨result, changed⟩ := ended
  cases result with
  | error error => cases hopened
  | ok backend =>
      dsimp only at hopened
      cases hwith : withBackend backend vramBytes spawned ids with
      | mk result after =>
          rw [hwith] at hopened
          cases result with
          | error error => cases hopened
          | ok made =>
              cases hopened
              obtain ⟨adapters, enumerated, hstart, -⟩ := withBackend_ok hwith
              exact ⟨adapters, enumerated, hstart⟩

/-- A device reports a fault exactly as long as there is a reason for one.  For
every run of calls on a driver of the real Vulkan, whatever Vulkan answers and
whether or not the render thread starts: fault_status tells of a fault exactly
if, since the last reset of the device that succeeded, there was a submission on
it whose first failed Vulkan call reported VK_ERROR_DEVICE_LOST or that the
thread dropped on its way out, or a fault was marked on it.  No other failure is
recorded as a fault, and no loss that Vulkan reported is missed. -/
theorem fault_iff_reported {host : VulkanHost} {vramBytes : Nat}
    {spawned : Except String Unit} {ids later : IdSource}
    {log : List ContextCall} {driver : VulkanDriver RealVulkanBackend}
    (hopened : new host vramBytes spawned ids [] = (.ok driver, later, log))
    {device : ObjectId} (hknown : driver.tables.Knows device)
    (actions : List Action) :
    (∃ fault, GpuDriver.faultStatus
        (Machine.run act (driver, later) actions).1 device =
          .ok (some fault)) ↔
      FaultOngoing device (Machine.trace act (driver, later) actions) := by
  have hstart : Watched device [] (driver, later) := by
    obtain ⟨adapters, backend, rfl⟩ := new_start hopened
    exact ⟨hknown, iff_of_false (by simp [start, VulkanTables.new])
      not_ongoing_nil⟩
  have hlast : Watched device
      (Machine.trace act (driver, later) actions)
      (Machine.run act (driver, later) actions) :=
    Machine.history_invariant hstart
      (fun past now action hnow => hnow.step (act_faultEffect now action))
      actions
  rw [← hlast.faulted, Option.isSome_iff_exists]
  refine exists_congr fun fault => ?_
  exact VulkanTables.faultStatus_eq_some.trans (and_iff_right hlast.known)

namespace LostGpu

/-- A machine whose GPU is lost whenever work is submitted. -/
def host : VulkanHost where
  probes _ := ⟨.ok (), .ok [], .ok ()⟩
  enumerations _ := ⟨.ok [⟨0⟩], fun _ => ⟨some "adapter", 1, 1, 2, 0, 0⟩⟩
  renders _ := VulkanContext.OnePixel.refused
  text _ := "lost"

def draw : Action := .call (.submit ⟨0⟩ .graphics [.draw 3 1])

/-- The fault of the lost device is traced back to what Vulkan reported, and
the one of a draw behind a thread that did not start to that. -/
theorem loss_reported : ∃ driver later log,
    new host 1024 (.ok ()) .sequential [] = (.ok driver, later, log) ∧
      FaultOngoing ⟨0⟩ (Machine.trace act (driver, later) [draw]) ∧
      FaultOngoing ⟨0⟩
        (Machine.trace act (driver, later) [.threadStops, draw]) := by
  have hopened : new host 1024 (.ok ()) .sequential [] = (.ok _, _, _) := rfl
  refine ⟨_, _, _, hopened, (fault_iff_reported hopened (by decide) _).mp ?_,
    (fault_iff_reported hopened (by decide) _).mp ?_⟩
  · exact ⟨⟨⟨0⟩, 0, "device lost: lost"⟩, by decide⟩
  · exact ⟨⟨⟨0⟩, 0, "Vulkan render thread stopped before replying"⟩,
      by decide⟩

end LostGpu

end VulkanDriver

end SherGraphics
