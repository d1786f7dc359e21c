/-
The audit trail over a whole run.  Every gate but one logs its decision before
it acts on it; `driver_mut` checks the capability and logs nothing.
-/
import SherGraphics.RuntimeFrame

namespace SherGraphics

/-- What a capability check decided: at which gate, about which object when it
was about one, and how. -/
structure Decision where
  gate : String
  subject : Option ObjectId
  granted : Bool
deriving DecidableEq, Repr

/-- The event records the decision. -/
structure Decision.RecordedBy (decision : Decision) (event : AuditEvent) :
    Prop where
  action : event.action = decision.gate
  result : event.result = decision.granted
  actor : ∀ id, decision.subject = some id → event.actor = id

namespace GraphicsRuntime

section Trail

variable {D P : Type}

/-- The decision that an operation takes in a state.  `submit` takes one only
for a stream of the class of the queue, on a context with a capability set. -/
def decision (before : GraphicsRuntime D P) : Op D → Option Decision
  | .createDevice gpu caps =>
      some ⟨"create_device", some gpu, caps.hasCapability .gpuMemoryAlloc⟩
  | .submit queue stream _ _ =>
      if stream.targetClass = queue.workload then
        (before.deviceCaps.get stream.device).map fun caps =>
          ⟨"submit", some stream.device,
            caps.hasCapability .gpuCommandSubmit⟩
      else none
  | .recoverDevice id caps =>
      some ⟨"recover_device", some id, caps.hasCapability .gpuAdmin⟩
  | .driverMut caps _ =>
      some ⟨"driver_mut", none, caps.hasCapability .gpuAdmin⟩
  | _ => none

/-- The step adds one event for its decision, and none when it takes none. -/
def RecordsDecision (e : RuntimeEvent D P) : Prop :=
  ∃ events, e.after.audit.events = e.before.audit.events ++ events ∧
    List.Forall₂ Decision.RecordedBy (decision e.before e.action).toList events

/-- The decisions of a run, in order. -/
def decisions (past : List (RuntimeEvent D P)) : List Decision :=
  past.filterMap fun e => decision e.before e.action

/-- Every step of the run is recorded, and the trail is the sequence of the
decisions of the run. -/
structure FullyAudited [GpuDriver D] [GPUDriver P]
    (start : GraphicsRuntime D P) (ops : List (Op D)) : Prop where
  steps : Machine.Meets step start ops (fun _ e => RecordsDecision e)
  trail : List.Forall₂ Decision.RecordedBy
    (decisions (Machine.trace step start ops))
    (Machine.run step start ops).audit.events

/-! ### One step -/

variable {before : GraphicsRuntime D P}

theorem RecordsDecision.of_unchanged {op : Op D} {answer : Result Reply}
    {after : GraphicsRuntime D P} (hnone : decision before op = none)
    (hkept : after.audit = before.audit) :
    RecordsDecision ⟨before, op, answer, after⟩ := by
  refine ⟨[], ?_, ?_⟩
  · rw [hkept, List.append_nil]
  · change List.Forall₂ _ (decision before op).toList []
    rw [hnone]
    exact .nil

theorem RecordsDecision.of_logged {op : Op D} {answer : Result Reply}
    {after : GraphicsRuntime D P} {actor : ObjectId} {action : String}
    {granted : Bool}
    (hdecision : decision before op = some ⟨action, some actor, granted⟩)
    (hlogged : after.audit = before.audit.log actor action granted) :
    RecordsDecision ⟨before, op, answer, after⟩ := by
  refine ⟨[⟨actor, action, granted⟩], ?_, ?_⟩
  · rw [hlogged]
    rfl
  · change List.Forall₂ _ (decision before op).toList _
    rw [hdecision]
    exact .cons ⟨rfl, rfl, fun id hid => Option.some.inj hid⟩ .nil

/-- The decision is logged before it is acted on, so what follows the log does
not matter. -/
theorem audit_of_logged {α : Type} (actor : ObjectId) (action : String)
    (caps : CapabilitySet) (capability : Capability)
    {rest : Method Error (GraphicsRuntime D P) α}
    (hrest : Method.Keeps GraphicsRuntime.audit rest)
    (before : GraphicsRuntime D P) :
    ((log actor action (requireCapability caps capability) >>=
      fun _ => rest) before).2.audit =
        before.audit.log actor action (caps.hasCapability capability) := by
  rcases requireCapability_cases caps capability with
    ⟨hgranted, hcheck⟩ | ⟨hdenied, error, hcheck⟩
  · rw [hgranted, Method.bind_of_ok (log_of_granted before _ _ hcheck)]
    exact hrest _
  · rw [hdenied, Method.bind_of_ok (log_of_denied before _ _ hcheck)]
    exact hrest _

variable [GpuDriver D] [GPUDriver P]

theorem createDevice_recorded (gpu : ObjectId) (caps : CapabilitySet) :
    RecordsDecision (Machine.event step before (.createDevice gpu caps)) := by
  obtain ⟨rest, hrest, hkeeps⟩ := createDevice_logs (D := D) (P := P)
    (hides_audit .driver (by simp)) (hides_audit .ids (by simp))
    (hides_audit .objects (by simp)) gpu caps
  refine .of_logged rfl ?_
  rw [step, perform, Method.map_run, hrest]
  exact audit_of_logged gpu _ caps _ hkeeps before

theorem recoverDevice_recorded (id : ObjectId) (caps : CapabilitySet) :
    RecordsDecision (Machine.event step before (.recoverDevice id caps)) := by
  obtain ⟨rest, hrest, hkeeps⟩ := recoverDevice_logs (D := D) (P := P)
    (hides_audit .driver (by simp)) (hides_audit .objects (by simp)) id caps
  refine .of_logged rfl ?_
  rw [step, perform, Method.map_run, hrest]
  exact audit_of_logged id _ caps _ hkeeps before

theorem submit_recorded (queue : QueueHandle) (stream : CommandStream)
    (timeline : ObjectId) (signalValue : Nat) :
    RecordsDecision (Machine.event step before
      (.submit queue stream timeline signalValue)) := by
  obtain ⟨rest, hrest, hkeeps⟩ := submit_logs (D := D) (P := P)
    (hides_audit .driver (by simp)) (hides_audit .objects (by simp)) queue
    stream timeline signalValue
  have hafter : (step before (.submit queue stream timeline signalValue)).2 =
      (submit queue stream timeline signalValue before).2 := by
    rw [step, perform, Method.map_run]
  by_cases hclass : stream.targetClass = queue.workload
  · cases hcaps : before.deviceCaps.get stream.device with
    | none =>
        refine .of_unchanged (by simp [decision, hcaps]) ?_
        rw [hafter, hrest,
          Method.rejectIf_bind_of_neg _ _ _ (not_not.mpr hclass),
          Method.read_bind, hcaps, Method.okOr_none_bind]
    | some caps =>
        have hdecision : decision before
            (.submit queue stream timeline signalValue : Op D) =
              some ⟨"submit", some stream.device,
                caps.hasCapability .gpuCommandSubmit⟩ := by
          simp [decision, hclass, hcaps]
        refine .of_logged hdecision ?_
        rw [hafter, hrest,
          Method.rejectIf_bind_of_neg _ _ _ (not_not.mpr hclass),
          Method.read_bind, hcaps, Method.okOr_some_bind]
        exact audit_of_logged stream.device _ caps _ (hkeeps caps) before
  · refine .of_unchanged (by simp [decision, hclass]) ?_
    rw [hafter, hrest, Method.rejectIf_bind_of_pos _ _ _ hclass]

/-- What a step of each operation does to the trail: `driver_mut` is the one
that does not record its decision. -/
theorem recorded_iff_sealed (op : Op D) :
    RecordsDecision (Machine.event step before op) ↔ op.Sealed := by
  by_cases hwrites : .audit ∈ op.writes
  · cases op with
    | createDevice gpu caps =>
        exact iff_of_true (createDevice_recorded gpu caps) trivial
    | submit queue stream timeline signalValue =>
        exact iff_of_true
          (submit_recorded queue stream timeline signalValue) trivial
    | recoverDevice id caps =>
        exact iff_of_true (recoverDevice_recorded id caps) trivial
    | _ => simp [Op.writes] at hwrites
  · have hkept : (step before op).2.audit = before.audit :=
      step_keeps hides_audit hwrites before
    cases op with
    | driverMut caps use =>
        refine iff_of_false ?_ id
        rintro ⟨events, hevents, hrecorded⟩
        change (step before _).2.audit.events =
          before.audit.events ++ events at hevents
        rw [hkept] at hevents
        have hnone : events = [] := by simpa using hevents
        subst hnone
        cases hrecorded
    | createDevice gpu caps => simp [Op.writes] at hwrites
    | submit queue stream timeline signalValue =>
        simp [Op.writes] at hwrites
    | recoverDevice id caps => simp [Op.writes] at hwrites
    | _ => exact iff_of_true (.of_unchanged rfl hkept) trivial

/-! ### A whole run -/

theorem trail_of_recorded {start : GraphicsRuntime D P} {ops : List (Op D)}
    (hempty : start.audit.events = [])
    (hrecorded : Machine.Meets step start ops (fun _ e => RecordsDecision e)) :
    List.Forall₂ Decision.RecordedBy
      (decisions (Machine.trace step start ops))
      (Machine.run step start ops).audit.events := by
  induction ops using List.reverseRecOn with
  | nil =>
      rw [Machine.run_nil, hempty]
      exact .nil
  | append_singleton first op ih =>
      rw [Machine.meets_concat] at hrecorded
      obtain ⟨hfirst, events, hevents, hlast⟩ := hrecorded
      rw [Machine.trace_concat, Machine.run_concat, decisions,
        List.filterMap_append]
      change (step (Machine.run step start first) op).2.audit.events = _
        at hevents
      rw [hevents]
      have hdecided : [Machine.event step (Machine.run step start first)
          op].filterMap (fun e => decision e.before e.action) =
            (decision (Machine.run step start first) op).toList := by
        cases hdecision : decision (Machine.run step start first) op with
        | none => simp [Machine.event, hdecision]
        | some taken => simp [Machine.event, hdecision]
      rw [hdecided]
      exact List.rel_append (ih hfirst) hlast

/-- A run over any driver is fully audited exactly when it never borrows the
driver. -/
theorem fully_audited_iff (driver : D) (vramBytes : Nat) (ids : IdSource)
    (ops : List (Op D)) :
    FullyAudited (new driver vramBytes ids : GraphicsRuntime D P) ops ↔
      ∀ op ∈ ops, op.Sealed := by
  constructor
  · rintro ⟨hsteps, -⟩ op hop
    obtain ⟨first, later, rfl⟩ := List.append_of_mem hop
    exact (recorded_iff_sealed op).mp hsteps.at_step
  · intro hsealed
    have hsteps : Machine.Meets step
        (new driver vramBytes ids : GraphicsRuntime D P) ops
          (fun _ e => RecordsDecision e) := by
      apply Machine.meets_of_prefixes
      rintro first op later rfl
      exact (recorded_iff_sealed op).mpr (hsealed op (by simp))
    exact ⟨hsteps, trail_of_recorded rfl hsteps⟩

end Trail

namespace SilentBorrow

/-- The borrower breaks GPU 0. -/
def use : DriverUse SoftwareGpuDriver Reply where
  run := fun (driver, ids) =>
    (.ok .unit, GpuDriver.markFaulted ⟨0⟩ "broken by its borrower" driver, ids)
  advances := fun _ ids => .refl ids

/-- A granted borrow leaves no event behind. -/
theorem not_fully_audited :
    ¬ FullyAudited (sample 1 1024) [.driverMut .full use] := by
  rintro ⟨-, htrail⟩
  cases htrail

end SilentBorrow

end GraphicsRuntime

end SherGraphics
