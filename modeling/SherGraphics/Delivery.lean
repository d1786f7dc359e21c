/-
What a runtime over the Vulkan driver has executed.  The backend writes down the
batches that it executed without an error, and the render thread may stop at any
time.
-/
import SherGraphics.RuntimeStep
import SherGraphics.VulkanFaults

namespace SherGraphics

/-- A backend and the batches of commands that it has executed without an error,
oldest first. -/
structure Executed (B : Type) where
  backend : B
  done : List (List DriverOp)

instance {B : Type} [VulkanBackend B] : VulkanBackend (Executed B) where
  enumerateAdapters executed :=
    let (result, backend) :=
      VulkanBackend.enumerateAdapters executed.backend
    (result, { executed with backend })
  execute ops executed :=
    let (outcome, backend) := VulkanBackend.execute ops executed.backend
    (outcome, ⟨backend, if outcome = .returned (.ok ()) then
      executed.done ++ [ops] else executed.done⟩)
  reset executed :=
    let (outcome, backend) := VulkanBackend.reset executed.backend
    (outcome, { executed with backend })
  drop executed :=
    { executed with backend := VulkanBackend.drop executed.backend }

@[simp] theorem Executed.drop_done {B : Type} [VulkanBackend B]
    (executed : Executed B) :
    (VulkanBackend.drop executed).done = executed.done :=
  rfl

namespace VulkanDriver

variable {B : Type}

/-- The batches that the backend has executed. -/
def done (driver : VulkanDriver (Executed B)) : List (List DriverOp) :=
  driver.worker.backend.done

variable [VulkanBackend B]

/-- A request for an execution adds the batch if it is answered without an
error, and nothing else. -/
theorem ask_execute_done (thread : RenderThread (Executed B))
    (ops : List DriverOp) :
    let (response, worker) := thread.ask (VulkanBackend.execute ops)
    worker.backend.done =
      if response = .answered (.ok ()) then thread.backend.done ++ [ops]
      else thread.backend.done := by
  have hexecute : ∀ served, VulkanBackend.execute ops thread.backend = served →
      served.2.done = if served.1 = .returned (.ok ()) then
        thread.backend.done ++ [ops] else thread.backend.done := by
    rintro _ rfl
    rfl
  by_cases hrunning : thread.status = .running
  · cases hserved : VulkanBackend.execute ops thread.backend with
    | mk outcome after =>
        have hdone := hexecute _ hserved
        cases outcome with
        | returned result =>
            rw [RenderThread.ask_of_returned hrunning hserved]
            simpa using hdone
        | panicked =>
            rw [RenderThread.ask_of_panicked hrunning hserved]
            simpa using hdone
  · obtain ⟨response, backend, hasked, hresponse⟩ :=
      RenderThread.ask_of_not_running (VulkanBackend.execute ops) hrunning
    rw [hasked]
    rcases hresponse with ⟨rfl, -, rfl⟩ | ⟨rfl, -, rfl⟩
    · simp
    · simp

/-- A request for a reset executes nothing. -/
theorem ask_reset_done (thread : RenderThread (Executed B)) :
    (thread.ask VulkanBackend.reset).2.backend.done = thread.backend.done := by
  have hreset : ∀ served, VulkanBackend.reset thread.backend = served →
      served.2.done = thread.backend.done := by
    rintro _ rfl
    rfl
  by_cases hrunning : thread.status = .running
  · cases hserved : VulkanBackend.reset thread.backend with
    | mk outcome after =>
        have hdone := hreset _ hserved
        cases outcome with
        | returned result =>
            rw [RenderThread.ask_of_returned hrunning hserved]
            exact hdone
        | panicked =>
            rw [RenderThread.ask_of_panicked hrunning hserved]
            exact hdone
  · obtain ⟨response, backend, hasked, hresponse⟩ :=
      RenderThread.ask_of_not_running VulkanBackend.reset hrunning
    rw [hasked]
    rcases hresponse with ⟨-, -, rfl⟩ | ⟨-, -, rfl⟩
    · rfl
    · rfl

theorem submitResult_eq_ok {response : Response} :
    response.submitResult = .ok () ↔ response = .answered (.ok ()) := by
  rcases response with (error | value) | _ | _ <;> simp [Response.submitResult]

/-- A submission is executed exactly if it is accepted. -/
theorem submit_done (driver : VulkanDriver (Executed B)) (device : ObjectId)
    (workload : WorkloadClass) (ops : List DriverOp) :
    ∃ result after, GpuDriver.submit device workload ops driver =
        (.returned result, after) ∧
      (result = .ok () → after.done = driver.done ++ [ops]) ∧
      (result ≠ .ok () → after.done = driver.done) := by
  by_cases hknown : driver.tables.Knows device
  · cases hfault : driver.tables.faults.get device with
    | some fault =>
        exact ⟨_, driver, submit_of_faulted hknown hfault workload ops,
          by simp⟩
    | none =>
        have hdone := ask_execute_done driver.worker ops
        cases hasked : driver.worker.ask (VulkanBackend.execute ops) with
        | mk response worker =>
            rw [hasked] at hdone
            refine ⟨_, _, submit_of_clear hknown hfault hasked workload, ?_, ?_⟩
            · intro hok
              exact hdone.trans (if_pos (submitResult_eq_ok.mp hok))
            · intro hfailed
              exact hdone.trans
                (if_neg fun hok => hfailed (submitResult_eq_ok.mpr hok))
  · exact ⟨_, driver, submit_of_unknown hknown workload ops, by simp⟩

theorem resetDevice_done (driver : VulkanDriver (Executed B))
    (device : ObjectId) :
    (GpuDriver.resetDevice device driver).2.done = driver.done := by
  change (resetDevice device driver).2.done = driver.done
  by_cases hknown : driver.tables.Knows device
  · have hdone := ask_reset_done driver.worker
    cases hasked : driver.worker.ask VulkanBackend.reset with
    | mk response worker =>
        rw [hasked] at hdone
        rw [resetDevice_of_known hknown hasked]
        exact hdone
  · rw [resetDevice_of_unknown hknown]

/-- A call that the driver refused executed nothing. -/
theorem done_of_idle {driver after : VulkanDriver (Executed B)}
    (hidle : GraphicsRuntime.IdleCall driver after) :
    after.done = driver.done := by
  cases hidle with
  | none => rfl
  | refusedInitialize info error hrefused => rfl
  | refusedAllocation ids gpu size memoryClass error hrefused => rfl
  | refusedSubmit gpu workload ops error hrefused =>
      obtain ⟨result, last, hrun, hdone⟩ := submit_done driver gpu workload ops
      rw [hrun] at hrefused ⊢
      cases hrefused
      exact hdone.2 nofun
  | refusedReset gpu error hrefused => exact resetDevice_done driver gpu

end VulkanDriver

namespace GraphicsRuntime

variable {B P : Type} [VulkanBackend B] [GPUDriver P]

/-- A call of the runtime that does not borrow the driver, or something that the
render thread does by itself. -/
inductive ThreadedAction (B : Type) where
  | call (op : SealedOp (VulkanDriver B))
  | threadStops
  | channelCloses

/-- The runtime and its render thread; only a call is answered. -/
def threadedStep (runtime : GraphicsRuntime (VulkanDriver B) P) :
    ThreadedAction B →
      Option (Result Reply) × GraphicsRuntime (VulkanDriver B) P
  | .call op =>
      let (answer, after) := sealedStep runtime op
      (some answer, after)
  | .threadStops =>
      (none, { runtime with driver := runtime.driver.stopThread })
  | .channelCloses =>
      (none, { runtime with driver := runtime.driver.closeChannel })

/-- The commands of a submission that was accepted. -/
def acceptedBatch :
    Event (GraphicsRuntime (VulkanDriver B) P) (ThreadedAction B)
      (Option (Result Reply)) → Option (List DriverOp)
  | ⟨_, .call ⟨.submit _ stream _ _, _⟩, some (.ok _), _⟩ =>
      some (translateOps stream.ops)
  | _ => none

omit [VulkanBackend B] [GPUDriver P] in
/-- A submission that is not answered with Ok is not accepted. -/
theorem acceptedBatch_of_quiet
    {runtime after : GraphicsRuntime (VulkanDriver B) P}
    {op : Op (VulkanDriver B)} {answer : Result Reply} (hsealed : op.Sealed)
    (hquiet : IsOk answer → ¬ op.Mutates) :
    acceptedBatch ⟨runtime, .call ⟨op, hsealed⟩, some answer, after⟩ = none := by
  cases op with
  | submit queue stream timeline signalValue =>
      cases answer with
      | ok reply => exact absurd trivial (hquiet ⟨reply, rfl⟩)
      | error error => rfl
  | _ => rfl

omit [GPUDriver P] in
/-- What a call of the runtime executes is what it accepts. -/
theorem done_call {runtime after : GraphicsRuntime (VulkanDriver (Executed B)) P}
    {op : Op (VulkanDriver (Executed B))} {answer : Result Reply}
    (hsealed : op.Sealed) (heffect : Effect runtime op answer after) :
    after.driver.done = runtime.driver.done ++ (acceptedBatch
      ⟨runtime, .call ⟨op, hsealed⟩, some answer, after⟩).toList := by
  cases heffect with
  | quiet hanswer _ htables hids hdriver =>
      rw [acceptedBatch_of_quiet hsealed hanswer,
        VulkanDriver.done_of_idle hdriver]
      exact (List.append_nil _).symm
  | borrowed hadmin => exact hsealed.elim
  | notBorrowed hdenied => exact hsealed.elim
  | @submitted queue stream timeline gpu signalValue driver hready haccepted =>
      obtain ⟨result, last, hrun, hdone, -⟩ := VulkanDriver.submit_done
        runtime.driver gpu queue.workload (translateOps stream.ops)
      cases hrun.symm.trans haccepted
      exact hdone rfl
  | @panicked queue stream timeline gpu signalValue driver payload hready
      hpanicked =>
      obtain ⟨result, last, hrun, -⟩ := VulkanDriver.submit_done
        runtime.driver gpu queue.workload (translateOps stream.ops)
      cases hrun.symm.trans hpanicked
  | @recovered id caps found driver hadmin hcontext hreset =>
      have hdone := VulkanDriver.resetDevice_done runtime.driver found.gpu
      rw [hreset] at hdone
      exact hdone.trans (List.append_nil _).symm
  | @createdResource id kind memoryClass found allocation driver ids hcontext
      hallocated =>
      have hdone : driver.done = runtime.driver.done :=
        (congrArg (fun run => run.2.1.done) hallocated).symm
      exact hdone.trans (List.append_nil _).symm
  | _ => exact (List.append_nil _).symm

/-- What a step executes is what it accepts. -/
theorem done_step
    (runtime : GraphicsRuntime (VulkanDriver (Executed B)) P)
    (action : ThreadedAction (Executed B)) :
    (threadedStep runtime action).2.driver.done = runtime.driver.done ++
      (acceptedBatch (Machine.event threadedStep runtime action)).toList := by
  cases action with
  | threadStops =>
      rw [threadedStep, VulkanDriver.stopThread]
      split <;> simp [acceptedBatch, Machine.event, VulkanDriver.done]
  | channelCloses =>
      rw [threadedStep, VulkanDriver.closeChannel]
      split <;> simp [acceptedBatch, Machine.event, VulkanDriver.done]
  | call op =>
      obtain ⟨op, hsealed⟩ := op
      exact done_call hsealed (step_effect runtime op)

/-- The GPU executes what the application was told was accepted, and nothing
else.  Over any backend, which may refuse, fail or panic at each call, and with
a render thread that may stop at any time: in every run the batches that were
executed without an error are the streams of the submissions that returned Ok,
as they are translated for the driver, in their order and each once. -/
theorem executes_what_it_accepts
    (start : GraphicsRuntime (VulkanDriver (Executed B)) P)
    (actions : List (ThreadedAction (Executed B))) :
    (Machine.run threadedStep start actions).driver.done =
      start.driver.done ++
        (Machine.trace threadedStep start actions).filterMap acceptedBatch := by
  induction actions using List.reverseRecOn with
  | nil => simp
  | append_singleton first action ih =>
      rw [Machine.run_concat, Machine.trace_concat, done_step, ih,
        List.filterMap_append, List.append_assoc]
      rfl

end GraphicsRuntime

end SherGraphics
