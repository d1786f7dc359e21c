/-
The DRM shim on a runtime that has other clients.  They open and recover
contexts, create and free resources and break GPUs between any two requests of
the shim.  What a request is answered is foretold by what all of them have done.
-/
import SherGraphics.DrmCompat
import SherGraphics.GrantedCalls

namespace SherGraphics

/-- A request to the shim, or a step of another client of its runtime. -/
inductive SharedOp where
  | request (request : DrmRequest)
  | other (op : FaultyOp)

inductive SharedAnswer where
  | response (response : Result DrmResponse)
  | reply (answer : Result Reply)

namespace DrmRequest

/-- The call of the runtime that serves the request. -/
def call : DrmRequest → Option (SealedOp PanickingDriver)
  | .gemCreate device size =>
      some ⟨.createResource device (.buffer size {}) .deviceLocal, trivial⟩
  | .gemClose handle => some ⟨.freeResource handle, trivial⟩
  | .primeHandleToFd _ | .modeGetResources => none

/-- What the runtime replied to that call. -/
def reply : DrmRequest → DrmResponse → Reply
  | .gemCreate device size, .gemHandle handle =>
      .resource ⟨handle, device, .buffer size {}, .deviceLocal⟩
  | _, _ => .unit

end DrmRequest

/-- The call that the runtime gets. -/
def SharedOp.call : SharedOp → Option FaultyOp
  | .request asked => asked.call.map .call
  | .other op => some op

namespace DrmCompatShim

open GraphicsRuntime

section Shared

variable {P : Type}

abbrev SharedEvent (P : Type) :=
  Event (FaultyRuntime P) SharedOp SharedAnswer

/-- The step as the runtime sees it, if it is called. -/
def heard (e : SharedEvent P) : Option (FaultyEvent P) :=
  match e.action, e.answer with
  | .request request, .response response =>
      request.call.map fun op =>
        ⟨e.before, .call op, response.map request.reply, e.after⟩
  | .other op, .reply answer => some ⟨e.before, op, answer, e.after⟩
  | _, _ => none

variable [GPUDriver P]

def sharedStep (now : FaultyRuntime P) :
    SharedOp → SharedAnswer × FaultyRuntime P
  | .request request =>
      let (response, now) := step now request
      (.response response, now)
  | .other op =>
      let (answer, now) := faultyStep now op
      (.reply answer, now)

/-- The request is served, as far as the record tells. -/
def Serves (pool : Nat) (past : List (FaultyEvent P)) : DrmRequest → Prop
  | .gemCreate device size => ∃ gpu caps, Opened past device gpu caps ∧
      FitsPool pool past gpu size
  | .gemClose handle =>
      ∃ created, created.id = handle ∧ Stands past (.resource created)
  | .primeHandleToFd _ | .modeGetResources => True

/-! ### One request -/

theorem gemCreate_calls (now : FaultyRuntime P) (device : ObjectId)
    (size : Nat) :
    GraphicsRuntime.step now
        (.createResource device (.buffer size {}) .deviceLocal) =
      ((step now (.gemCreate device size)).1.map
          (DrmRequest.gemCreate device size).reply,
        (step now (.gemCreate device size)).2) := by
  rw [GraphicsRuntime.step, perform, Method.map_run, step, handle]
  cases hcontext : now.devices.get device with
  | none =>
      have hrun := createResource_of_unknown now hcontext (.buffer size {})
        .deviceLocal
      rw [hrun, Method.bind_of_error hrun]
      rfl
  | some found =>
      cases hallocated : GpuDriver.allocateVram found.gpu
        (resourceSize (.buffer size {})) .deviceLocal (now.driver, now.ids) with
      | mk result world =>
          cases result with
          | error error =>
              have hrun := createResource_of_refused now (.buffer size {})
                hcontext hallocated
              rw [hrun, Method.bind_of_error hrun]
              rfl
          | ok allocation =>
              have hrun := createResource_of_granted now (.buffer size {})
                hcontext hallocated
              rw [hrun, Method.bind_of_ok hrun]
              rfl

theorem gemClose_calls (now : FaultyRuntime P) (handle : ObjectId) :
    GraphicsRuntime.step now (.freeResource handle) =
      ((step now (.gemClose handle)).1.map
          (DrmRequest.gemClose handle).reply,
        (step now (.gemClose handle)).2) := by
  rw [GraphicsRuntime.step, perform, Method.map_run, step,
    DrmCompatShim.handle, Method.bind_run]
  generalize freeResource handle now = ended
  obtain ⟨result, changed⟩ := ended
  cases result with
  | error error => rfl
  | ok value => rfl

/-- A request that is served by a call of the runtime does what the call does,
and is answered by what it replied. -/
theorem step_calls (now : FaultyRuntime P) {request : DrmRequest}
    {op : SealedOp PanickingDriver} (hcall : request.call = some op) :
    faultyStep now (.call op) =
      ((step now request).1.map request.reply, (step now request).2) := by
  cases request with
  | gemCreate device size =>
      cases hcall
      exact gemCreate_calls now device size
  | gemClose handle =>
      cases hcall
      exact gemClose_calls now handle
  | primeHandleToFd handle => cases hcall
  | modeGetResources => cases hcall

omit [GPUDriver P] in
/-- The other requests are answered without the runtime. -/
theorem step_of_no_call (now : FaultyRuntime P) {request : DrmRequest}
    (hcall : request.call = none) :
    (step now request).2 = now ∧ IsOk (step now request).1 := by
  cases request with
  | gemCreate device size => cases hcall
  | gemClose handle => cases hcall
  | primeHandleToFd handle => exact ⟨rfl, isOk_ok _⟩
  | modeGetResources => exact ⟨rfl, isOk_ok _⟩

theorem heard_of_call (now : FaultyRuntime P) {op : SharedOp} {call : FaultyOp}
    (hcall : op.call = some call) :
    heard (Machine.event sharedStep now op) =
        some (Machine.event faultyStep now call) ∧
      (sharedStep now op).2 = (faultyStep now call).2 := by
  cases op with
  | other op =>
      cases hcall
      exact ⟨rfl, rfl⟩
  | request request =>
      obtain ⟨sealed, hsealed, rfl⟩ := Option.map_eq_some_iff.mp hcall
      have hstep := step_calls now hsealed
      constructor
      · rw [Machine.event, Machine.event, hstep]
        change request.call.map _ = _
        rw [hsealed]
        rfl
      · rw [hstep]
        rfl

theorem heard_of_no_call (now : FaultyRuntime P) {op : SharedOp}
    (hcall : op.call = none) :
    heard (Machine.event sharedStep now op) = none ∧
      (sharedStep now op).2 = now := by
  cases op with
  | other op => cases hcall
  | request request =>
      have hnone : request.call = none := Option.map_eq_none_iff.mp hcall
      constructor
      · change request.call.map _ = _
        rw [hnone]
        rfl
      · exact (step_of_no_call now hnone).1

/-! ### Whole runs -/

/-- What the runtime hears of a run is a run of its own, to the same end. -/
theorem heard_run (start : FaultyRuntime P) (ops : List SharedOp) :
    (Machine.trace sharedStep start ops).filterMap heard =
        Machine.trace faultyStep start (ops.filterMap SharedOp.call) ∧
      Machine.run sharedStep start ops =
        Machine.run faultyStep start (ops.filterMap SharedOp.call) := by
  induction ops generalizing start with
  | nil => exact ⟨rfl, rfl⟩
  | cons op rest ih =>
      obtain ⟨htrace, hrun⟩ := ih (sharedStep start op).2
      cases hcall : op.call with
      | none =>
          obtain ⟨hheard, hsame⟩ := heard_of_no_call start hcall
          rw [hsame] at htrace hrun
          rw [Machine.trace, Machine.run, List.filterMap_cons_none hheard,
            List.filterMap_cons_none hcall, hsame]
          exact ⟨htrace, hrun⟩
      | some call =>
          obtain ⟨hheard, hsame⟩ := heard_of_call start hcall
          rw [hsame] at htrace hrun
          rw [Machine.trace, Machine.run, List.filterMap_cons_some hheard,
            List.filterMap_cons_some hcall, hsame, htrace, hrun]
          exact ⟨rfl, rfl⟩

theorem serves_iff {installed : ObjectId → Prop} {pool : Nat}
    {past : List (FaultyEvent P)} {now : FaultyRuntime P}
    (hhistory : CallHistory installed pool past now) (request : DrmRequest) :
    IsOk (step now request).1 ↔ Serves pool past request := by
  cases hcall : request.call with
  | none =>
      refine iff_of_true (step_of_no_call now hcall).2 ?_
      cases request with
      | gemCreate device size => cases hcall
      | gemClose handle => cases hcall
      | primeHandleToFd handle => trivial
      | modeGetResources => trivial
  | some op =>
      have hgranted := hhistory.granted (.call op)
      rw [step_calls now hcall, isOk_map] at hgranted
      rw [hgranted]
      cases request with
      | gemCreate device size =>
          cases hcall
          exact Iff.rfl
      | gemClose handle =>
          cases hcall
          exact Iff.rfl
      | primeHandleToFd handle => cases hcall
      | modeGetResources => cases hcall

/-- The clients of the shim and the other clients of its runtime meet on equal
terms.  In every run of their requests and calls, over a driver that may panic
and GPUs that may break, the runtime hears a run of its own, which ends where
theirs does; `GemCreate` succeeds exactly if by that record its context stands
and the bytes are left on the context's GPU, `GemClose` exactly if what the
handle names was created by any of the clients and stands, and every call of the
others exactly if the record grants it. -/
theorem shared_requests_foretold
    (count vramBytesPerDevice presentationVramBytes : Nat)
    (schedule : Nat → Option PanicPayload) (ids : IdSource)
    (ops : List SharedOp) :
    let start : FaultyRuntime P := overPanicking count vramBytesPerDevice
      presentationVramBytes schedule ids
    let past := (Machine.trace sharedStep start ops).filterMap heard
    let now := Machine.run sharedStep start ops
    past = Machine.trace faultyStep start (ops.filterMap SharedOp.call) ∧
      now = Machine.run faultyStep start (ops.filterMap SharedOp.call) ∧
      (∀ request, IsOk (step now request).1 ↔
        Serves vramBytesPerDevice past request) ∧
      ∀ op : FaultyOp, IsOk (faultyStep now op).1 ↔
        Granted (InstalledBy count ids) vramBytesPerDevice past (outlook now)
          op.toOp := by
  intro start past now
  obtain ⟨hpast, hnow⟩ := heard_run start ops
  have hhistory := callHistory_run (P := P) count vramBytesPerDevice
    presentationVramBytes schedule ids (ops.filterMap SharedOp.call)
  change CallHistory _ _ (Machine.trace faultyStep start _)
    (Machine.run faultyStep start _) at hhistory
  rw [← hpast, ← hnow] at hhistory
  exact ⟨hpast, hnow, serves_iff hhistory, hhistory.granted⟩

end Shared

end DrmCompatShim

end SherGraphics
