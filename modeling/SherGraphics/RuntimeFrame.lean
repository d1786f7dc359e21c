/-
Which parts of the runtime an operation may write.  A view of the runtime that
shows none of the parts an operation writes looks the same before and after
it, whatever the operation is called with and whether or not it succeeds.
-/
import SherGraphics.RuntimeStep

namespace SherGraphics

/-- The parts of a runtime that operations write separately.  The objects are
the six tables that `ObjectTables` lists. -/
inductive Part where
  | driver
  | objects
  | presentation
  | audit
  | cursors
  | ids
deriving DecidableEq

/-- The parts that an operation may write. -/
def Op.writes {D : Type} : Op D → List Part
  | .createDevice _ _ => [.audit, .driver, .ids, .objects]
  | .createResource _ _ _ => [.driver, .ids, .objects]
  | .createTimeline _ | .createShaderModule _ _ _ | .createPipeline _ _ _ =>
      [.ids, .objects]
  | .createCommandStream _ _ => [.ids]
  | .submit _ _ _ _ | .recoverDevice _ _ => [.audit, .driver, .objects]
  | .freeResource _ => [.driver, .objects]
  | .registerConnector _ | .presentFrame _ _ _ => [.presentation]
  | .setCursorImage _ _ | .setCursorPosition _ _ _ | .showCursor _
  | .hideCursor _ => [.cursors]
  | .driverMut _ _ => [.driver, .ids]
  | .timelineValue _ | .wait _ _ | .cursorState _ | .deviceFault _ => []

namespace GraphicsRuntime

variable {D P : Type} {X : Type}

/-- The view does not show the part. -/
def Hides (view : GraphicsRuntime D P → X) : Part → Prop
  | .driver => ∀ runtime driver, view { runtime with driver } = view runtime
  | .objects => ∀ runtime devices deviceCaps resources shaders pipelines
      timelines, view { runtime with
        devices, deviceCaps, resources, shaders, pipelines, timelines } =
          view runtime
  | .presentation => ∀ runtime presentation,
      view { runtime with presentation } = view runtime
  | .audit => ∀ runtime audit, view { runtime with audit } = view runtime
  | .cursors => ∀ runtime cursors, view { runtime with cursors } = view runtime
  | .ids => ∀ runtime ids, view { runtime with ids } = view runtime

theorem hides_driver (part : Part) (hpart : part ≠ .driver) :
    Hides (GraphicsRuntime.driver : GraphicsRuntime D P → D) part := by
  cases part with
  | driver => exact absurd rfl hpart
  | _ => intro runtime; intros; rfl

theorem hides_audit (part : Part) (hpart : part ≠ .audit) :
    Hides (GraphicsRuntime.audit : GraphicsRuntime D P → AuditLog) part := by
  cases part with
  | audit => exact absurd rfl hpart
  | _ => intro runtime; intros; rfl

theorem hides_presentation (part : Part) (hpart : part ≠ .presentation) :
    Hides (GraphicsRuntime.presentation :
      GraphicsRuntime D P → PresentationBridge P) part := by
  cases part with
  | presentation => exact absurd rfl hpart
  | _ => intro runtime; intros; rfl

theorem hides_cursors (part : Part) (hpart : part ≠ .cursors) :
    Hides (GraphicsRuntime.cursors :
      GraphicsRuntime D P → Table ObjectId CursorState) part := by
  cases part with
  | cursors => exact absurd rfl hpart
  | _ => intro runtime; intros; rfl

section Frame

open Method (Keeps)

variable {view : GraphicsRuntime D P → X}

theorem keeps_device (id : ObjectId) : Keeps view (device id) :=
  .bind (.read _) fun _ => .okOr _ _

theorem keeps_newId (hids : Hides view .ids) : Keeps view newId :=
  .bind (.read _) fun _ =>
    .bind (.change fun _ => hids _ _) fun _ => .pure _

theorem keeps_log (haudit : Hides view .audit) (actor : ObjectId)
    (action : String) (authorized : Result Unit) :
    Keeps view (log actor action authorized) :=
  .change fun _ => haudit _ _

theorem keeps_onDriver {α : Type} (hdriver : Hides view .driver)
    (method : Method Error D α) : Keeps view (onDriver method) :=
  fun _ => hdriver _ _

theorem keeps_onDriverAndIds {α : Type} (hdriver : Hides view .driver)
    (hids : Hides view .ids) (method : Method Error (D × IdSource) α) :
    Keeps view (onDriverAndIds method) := by
  intro runtime
  let drawn := (method (runtime.driver, runtime.ids)).2.2
  have hcalled := hdriver { runtime with ids := drawn }
    (method (runtime.driver, runtime.ids)).2.1
  exact hcalled.trans (hids runtime drawn)

theorem keeps_onPresentation {α : Type}
    (hpresentation : Hides view .presentation)
    (method : Method Error (PresentationBridge P) α) :
    Keeps view (onPresentation method) :=
  fun _ => hpresentation _ _

theorem keeps_cursorMut [GPUDriver P] (hcursors : Hides view .cursors)
    (connector : ObjectId) (update : CursorState → CursorState) :
    Keeps view (cursorMut connector update) :=
  .bind (.read _) fun _ => .bind (.rejectIf _ _) fun _ =>
    .change fun _ => hcursors _ _

variable [GpuDriver D]

theorem keeps_submitToDriver (hdriver : Hides view .driver) (gpu : ObjectId)
    (workload : WorkloadClass) (ops : List DriverOp) :
    Keeps view (submitToDriver gpu workload ops) := by
  intro runtime
  rw [submitToDriver]
  cases GpuDriver.submit gpu workload ops runtime.driver with
  | mk outcome driver =>
    cases outcome with
    | returned result => exact hdriver _ _
    | panicked payload => exact hdriver _ _

/-- `create_device` logs its decision and writes no audit event after that. -/
theorem createDevice_logs (hdriver : Hides view .driver)
    (hids : Hides view .ids) (hobjects : Hides view .objects)
    (gpu : ObjectId) (caps : CapabilitySet) :
    ∃ rest, createDevice gpu caps =
        (log gpu "create_device" (requireCapability caps .gpuMemoryAlloc) >>=
          fun _ => rest) ∧
      Keeps view rest := by
  refine ⟨_, rfl, ?_⟩
  refine .bind (.ofResult _) fun _ => .bind (.read _) fun _ => ?_
  refine .bind (.ofResult _) fun _ => .bind (.okOr _ _) fun _ => ?_
  refine .bind (keeps_onDriver hdriver _) fun _ => ?_
  refine .bind (keeps_newId hids) fun _ => .bind (keeps_newId hids) fun _ => ?_
  refine .bind (keeps_newId hids) fun _ => .bind (keeps_newId hids) fun _ => ?_
  exact .bind (.change fun _ => hobjects _ _ _ _ _ _ _) fun _ => .pure _

theorem recoverDevice_logs (hdriver : Hides view .driver)
    (hobjects : Hides view .objects) (id : ObjectId) (caps : CapabilitySet) :
    ∃ rest, recoverDevice id caps =
        (log id "recover_device" (requireCapability caps .gpuAdmin) >>=
          fun _ => rest) ∧
      Keeps view rest := by
  refine ⟨_, rfl, ?_⟩
  refine .bind (.ofResult _) fun _ => .bind (keeps_device _) fun _ => ?_
  refine .bind (keeps_onDriver hdriver _) fun _ => ?_
  exact .change fun _ => hobjects _ _ _ _ _ _ _

/-- `submit` takes its decision only for a stream of the class of the queue,
on a context whose capability set is on record. -/
theorem submit_logs (hdriver : Hides view .driver)
    (hobjects : Hides view .objects) (queue : QueueHandle)
    (stream : CommandStream) (timeline : ObjectId) (signalValue : Nat) :
    ∃ rest : CapabilitySet → Method Error (GraphicsRuntime D P) Unit,
      submit queue stream timeline signalValue = (do
        Method.rejectIf (stream.targetClass ≠ queue.workload)
          (.device "command stream workload class does not match queue")
        let deviceCaps ← Method.read GraphicsRuntime.deviceCaps
        let caps ← Method.okOr (deviceCaps.get stream.device)
          (.device "unknown graphics device")
        log stream.device "submit" (requireCapability caps .gpuCommandSubmit)
        rest caps) ∧
      ∀ caps, Keeps view (rest caps) := by
  refine ⟨_, rfl, fun caps => ?_⟩
  refine .bind (.ofResult _) fun _ => .bind (keeps_device _) fun _ => ?_
  refine .bind (.read _) fun _ => .bind (.okOr _ _) fun _ => ?_
  refine .bind (.rejectIf _ _) fun _ => .bind (.read _) fun _ => ?_
  refine .bind (.read _) fun _ => .bind (.ofResult _) fun _ => ?_
  exact .bind (keeps_submitToDriver hdriver _ _ _) fun _ =>
    .change fun _ => hobjects _ _ _ _ _ _ _

variable [GPUDriver P]

/-- An operation leaves alone every view that hides what it writes. -/
theorem keeps_perform {op : Op D}
    (hhides : ∀ part ∈ op.writes, Hides view part) :
    Keeps view (perform op) := by
  cases op with
  | createDevice gpu caps =>
      obtain ⟨rest, hrest, hkeeps⟩ := createDevice_logs
        (hhides .driver (by simp [Op.writes])) (hhides .ids (by simp [Op.writes]))
        (hhides .objects (by simp [Op.writes])) gpu caps
      rw [perform, hrest]
      exact .map (.bind (keeps_log (hhides .audit (by simp [Op.writes])) _ _ _)
        fun _ => hkeeps) _
  | createTimeline device =>
      have hids := hhides .ids (by simp [Op.writes])
      have hobjects := hhides .objects (by simp [Op.writes])
      refine .map (.bind (keeps_device _) fun _ => ?_) _
      refine .bind (keeps_newId hids) fun _ => ?_
      exact .bind (.change fun _ => hobjects _ _ _ _ _ _ _) fun _ => .pure _
  | createResource device kind memoryClass =>
      have hdriver := hhides .driver (by simp [Op.writes])
      have hids := hhides .ids (by simp [Op.writes])
      have hobjects := hhides .objects (by simp [Op.writes])
      refine .map (.bind (keeps_device _) fun _ => ?_) _
      refine .bind (keeps_onDriverAndIds hdriver hids _) fun _ => ?_
      exact .bind (.change fun _ => hobjects _ _ _ _ _ _ _) fun _ => .pure _
  | createCommandStream device workload =>
      have hids := hhides .ids (by simp [Op.writes])
      exact .map (.bind (keeps_device _) fun _ =>
        .bind (keeps_newId hids) fun _ => .pure _) _
  | createShaderModule device stage ir =>
      have hids := hhides .ids (by simp [Op.writes])
      have hobjects := hhides .objects (by simp [Op.writes])
      refine .map (.bind (keeps_device _) fun _ => ?_) _
      refine .bind (keeps_newId hids) fun _ => ?_
      exact .bind (.change fun _ => hobjects _ _ _ _ _ _ _) fun _ => .pure _
  | createPipeline device shader workload =>
      have hids := hhides .ids (by simp [Op.writes])
      have hobjects := hhides .objects (by simp [Op.writes])
      refine .map (.bind (keeps_device _) fun _ => ?_) _
      refine .bind (.read _) fun _ => .bind (.rejectIf _ _) fun _ => ?_
      refine .bind (keeps_newId hids) fun _ => ?_
      exact .bind (.change fun _ => hobjects _ _ _ _ _ _ _) fun _ => .pure _
  | submit queue stream timeline signalValue =>
      have haudit := hhides .audit (by simp [Op.writes])
      obtain ⟨rest, hrest, hkeeps⟩ := submit_logs
        (hhides .driver (by simp [Op.writes]))
        (hhides .objects (by simp [Op.writes])) queue stream timeline
        signalValue
      rw [perform, hrest]
      refine .map (.bind (.rejectIf _ _) fun _ => .bind (.read _) fun _ => ?_) _
      exact .bind (.okOr _ _) fun caps =>
        .bind (keeps_log haudit _ _ _) fun _ => hkeeps caps
  | timelineValue timeline =>
      exact .map (.bind (.read _) fun _ => .okOr _ _) _
  | wait timeline value =>
      refine .map (.bind ?_ fun _ => .rejectIf _ _) _
      exact .bind (.read _) fun _ => .okOr _ _
  | freeResource resource =>
      have hdriver := hhides .driver (by simp [Op.writes])
      have hobjects := hhides .objects (by simp [Op.writes])
      refine .map (.bind (.read _) fun _ => .bind (.okOr _ _) fun _ => ?_) _
      exact .bind (.change fun _ => hobjects _ _ _ _ _ _ _) fun _ =>
        keeps_onDriver hdriver _
  | registerConnector connector =>
      have hpresentation := hhides .presentation (by simp [Op.writes])
      exact .map (keeps_onPresentation hpresentation _) _
  | presentFrame connector width height =>
      have hpresentation := hhides .presentation (by simp [Op.writes])
      exact .map (keeps_onPresentation hpresentation _) _
  | setCursorImage connector image =>
      have hcursors := hhides .cursors (by simp [Op.writes])
      refine .map (.bind (.read _) fun _ => .bind (.okOr _ _) fun _ => ?_) _
      exact .bind (.rejectIf _ _) fun _ => keeps_cursorMut hcursors _ _
  | setCursorPosition connector x y =>
      have hcursors := hhides .cursors (by simp [Op.writes])
      exact .map (keeps_cursorMut hcursors _ _) _
  | showCursor connector =>
      have hcursors := hhides .cursors (by simp [Op.writes])
      exact .map (keeps_cursorMut hcursors _ _) _
  | hideCursor connector =>
      have hcursors := hhides .cursors (by simp [Op.writes])
      exact .map (keeps_cursorMut hcursors _ _) _
  | cursorState connector =>
      exact .map (.bind (.read _) fun _ => .bind (.rejectIf _ _) fun _ =>
        .read _) _
  | deviceFault device =>
      refine .map (.bind (keeps_device _) fun _ => ?_) _
      exact .bind (.read _) fun _ => .ofResult _
  | recoverDevice device caps =>
      obtain ⟨rest, hrest, hkeeps⟩ := recoverDevice_logs
        (hhides .driver (by simp [Op.writes]))
        (hhides .objects (by simp [Op.writes])) device caps
      rw [perform, hrest]
      exact .map (.bind (keeps_log (hhides .audit (by simp [Op.writes])) _ _ _)
        fun _ => hkeeps) _
  | driverMut caps use =>
      have hdriver := hhides .driver (by simp [Op.writes])
      have hids := hhides .ids (by simp [Op.writes])
      exact .bind (.ofResult _) fun _ => keeps_onDriverAndIds hdriver hids _

/-- A view of one part changes only in operations that write that part. -/
theorem step_keeps {part : Part}
    (hview : ∀ other, other ≠ part → Hides view other) {op : Op D}
    (hwrites : part ∉ op.writes) (runtime : GraphicsRuntime D P) :
    view (step runtime op).2 = view runtime := by
  refine keeps_perform (fun other hmem => hview other ?_) runtime
  rintro rfl
  exact hwrites hmem

end Frame

end GraphicsRuntime

end SherGraphics
