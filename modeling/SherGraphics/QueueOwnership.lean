/-
Queue handles and the contexts they were made for.  `create_device` returns a
handle for each workload class; `submit` compares the class of the handle it is
passed with that of the stream, and nothing reads the identifier of a handle.
-/
import SherGraphics.SubmitEffect

namespace SherGraphics

/-- The operation, with other identifiers in the queue handles. -/
def Op.withQueueIds {D : Type} (rename : ObjectId → ObjectId) :
    Op D → Op D
  | .submit queue stream timeline signalValue =>
      .submit ⟨rename queue.id, queue.workload⟩ stream timeline signalValue
  | op => op

namespace GraphicsRuntime

section Contexts

variable {D P : Type}

/-- The step returned a new context. -/
def ReturnsContext (e : RuntimeEvent D P) (created : GraphicsDevice) : Prop :=
  (∃ gpu caps, e.action = .createDevice gpu caps) ∧
    e.answer = .ok (.device created)

/-- The handle is one of those that a `create_device` of the past returned for
the context. -/
def OwnQueue (past : List (RuntimeEvent D P)) (device : ObjectId)
    (queue : QueueHandle) : Prop :=
  ∃ e ∈ past, ∃ created, ReturnsContext e created ∧ created.id = device ∧
    queue ∈ created.queues

/-- The context was recovered in the past. -/
def Recovered (past : List (RuntimeEvent D P)) (device : ObjectId) : Prop :=
  ∃ e ∈ past, (∃ caps, e.action = .recoverDevice device caps) ∧ IsOk e.answer

/-- There is one handle for each class. -/
def QueuesByClass (created : GraphicsDevice) : Prop :=
  ∃ graphics compute transfer, created.queues =
    [⟨graphics, .graphics⟩, ⟨compute, .compute⟩, ⟨transfer, .transfer⟩]

/-- The live contexts are those that were returned, as they were returned. -/
structure ContextsReturned (past : List (RuntimeEvent D P))
    (now : GraphicsRuntime D P) : Prop where
  returned : ∀ id found, now.devices.get id = some found →
    found.id = id ∧ QueuesByClass found ∧ ∃ e ∈ past, ReturnsContext e found
  recorded : ∀ e ∈ past, ∀ created, ReturnsContext e created →
    now.ids.Issued created.id ∧ ∀ found,
      now.devices.get created.id = some found → found = created

variable {past : List (RuntimeEvent D P)} {now : GraphicsRuntime D P}
  {queue : QueueHandle}

/-- The own queues of a live context are those in its row. -/
theorem ContextsReturned.ownQueue_iff (hreturned : ContextsReturned past now)
    {id : ObjectId} {found : GraphicsDevice}
    (hlive : now.devices.get id = some found) :
    OwnQueue past id queue ↔ queue ∈ found.queues := by
  constructor
  · rintro ⟨e, hmem, created, hreturns, rfl, hqueue⟩
    obtain ⟨-, hsame⟩ := hreturned.recorded e hmem created hreturns
    rwa [hsame found hlive]
  · intro hqueue
    obtain ⟨hid, -, e, hmem, hreturns⟩ := hreturned.returned id found hlive
    exact ⟨e, hmem, found, hreturns, hid, hqueue⟩

/-- Among the handles of a context, the class tells them apart. -/
theorem QueuesByClass.existsUnique {created : GraphicsDevice}
    (hqueues : QueuesByClass created) (workload : WorkloadClass) :
    ∃! own, own ∈ created.queues ∧ own.workload = workload := by
  obtain ⟨graphics, compute, transfer, hqueues⟩ := hqueues
  rw [hqueues]
  cases workload with
  | graphics => exact ⟨⟨graphics, .graphics⟩, by simp, by simp⟩
  | compute => exact ⟨⟨compute, .compute⟩, by simp, by simp⟩
  | transfer => exact ⟨⟨transfer, .transfer⟩, by simp, by simp⟩

variable [GpuDriver D] {before after : GraphicsRuntime D P} {op : Op D}
  {answer : Result Reply}

theorem ContextsReturned.extend (hreturned : ContextsReturned past before)
    (heffect : Effect before op answer after) :
    ContextsReturned (past ++ [⟨before, op, answer, after⟩]) after where
  returned := by
    intro id found hlive
    rcases heffect.context_origin hlive with hbefore |
      ⟨rfl, -, gpu, caps, hop, hanswer, rfl⟩
    · obtain ⟨hid, hqueues, e, hmem, hreturns⟩ :=
        hreturned.returned id found hbefore
      exact ⟨hid, hqueues, e, List.mem_append_left _ hmem, hreturns⟩
    · exact ⟨rfl, ⟨_, _, _, rfl⟩, _,
        List.mem_append_right past List.mem_cons_self, ⟨gpu, caps, hop⟩,
        hanswer⟩
  recorded := by
    apply Table.created_agrees GraphicsDevice.id Eq (fun _ => rfl)
      (fun _ hissued => hissued.mono heffect.advances) ?_ ?_ hreturned.recorded
    · intro id found hissued hlive
      exact heffect.context_before hissued hlive
    · rintro created ⟨⟨gpu, caps, hop⟩, hanswer⟩
      obtain ⟨hissued, hfiled, -⟩ := heffect.files_context hop hanswer
      exact ⟨hissued, hfiled⟩

variable [GPUDriver P]

theorem contextsReturned_run (driver : D) (vramBytes : Nat) (ids : IdSource)
    (ops : List (Op D)) :
    ContextsReturned
      (Machine.trace step (new driver vramBytes ids : GraphicsRuntime D P) ops)
      (Machine.run step (new driver vramBytes ids) ops) :=
  Machine.history_invariant ⟨by simp [new], by simp⟩
    (fun _ now op hreturned => hreturned.extend (step_effect now op)) ops

/-- A context that was recovered stays closed for the rest of the run. -/
theorem closed_of_recovered (driver : D) (vramBytes : Nat) (ids : IdSource)
    {ops : List (Op D)} {device : ObjectId} :
    let start : GraphicsRuntime D P := new driver vramBytes ids
    Recovered (Machine.trace step start ops) device →
      Closed (Machine.run step start ops) device := by
  rintro start ⟨e, hmem, ⟨caps, hop⟩, hok⟩
  obtain ⟨earlier, rest, hsplit⟩ := List.append_of_mem hmem
  obtain ⟨first, later, rfl, -, he, -⟩ := Machine.trace_split step hsplit
  rw [hop] at he ⊢
  rw [he] at hok
  have hissued := (contextHistory_run (P := P) driver vramBytes ids first).issued
  have heffect := step_effect (Machine.run step start first)
    (.recoverDevice device caps)
  rw [Machine.run_append]
  exact (heffect.closes hissued hok).run later

end Contexts

/-! ### Submissions -/

section Submissions

variable {D P : Type}

/-- A submission that succeeds was passed a queue of the stream's context. -/
def SubmitsToOwnQueue (past : List (RuntimeEvent D P))
    (e : RuntimeEvent D P) : Prop :=
  ∀ queue stream timeline signalValue,
    e.action = .submit queue stream timeline signalValue →
      IsOk e.answer → OwnQueue past stream.device queue

variable [GpuDriver D] {queue : QueueHandle}

/-- Of a handle, only the class counts. -/
theorem submit_ignores_id (queue : QueueHandle) (id : ObjectId)
    (stream : CommandStream) (timeline : ObjectId) (signalValue : Nat) :
    (submit ⟨id, queue.workload⟩ stream timeline signalValue :
        Method Error (GraphicsRuntime D P) Unit) =
      submit queue stream timeline signalValue := by
  rw [submit, submit]

/-- A handle of another class than the stream's is turned down at once. -/
theorem submit_of_other_class {stream : CommandStream}
    (hclass : stream.targetClass ≠ queue.workload) (timeline : ObjectId)
    (signalValue : Nat) (before : GraphicsRuntime D P) :
    submit queue stream timeline signalValue before =
      (.error (.device "command stream workload class does not match queue"),
        before) :=
  Method.rejectIf_bind_of_pos _ _ _ hclass

variable [GPUDriver P]

/-- A submission counts a queue by its class.  One that succeeds is on a context
that has exactly one handle of the class and was not recovered; that handle, and
any other of the class, would have done the same. -/
theorem queues_count_by_class (driver : D) (vramBytes : Nat) (ids : IdSource)
    (ops : List (Op D)) (queue : QueueHandle) (stream : CommandStream)
    (timeline : ObjectId) (signalValue : Nat) :
    let start : GraphicsRuntime D P := new driver vramBytes ids
    let past := Machine.trace step start ops
    let before := Machine.run step start ops
    let result := submit queue stream timeline signalValue before
    (IsOk result.1 →
        (∃! own, OwnQueue past stream.device own ∧
          own.workload = queue.workload) ∧
        ¬ Recovered past stream.device) ∧
      (∀ other : QueueHandle, other.workload = queue.workload →
        submit other stream timeline signalValue before = result) ∧
      (stream.targetClass ≠ queue.workload →
        result = (.error
          (.device "command stream workload class does not match queue"),
          before)) := by
  intro start past before result
  refine ⟨?_, ?_, ?_⟩
  · intro hok
    obtain ⟨gpu, -, hready, -, -⟩ := ready_of_submit_ok hok
    obtain ⟨found, hlive, -⟩ := hready.context
    have hreturned := contextsReturned_run (P := P) driver vramBytes ids ops
    obtain ⟨-, hqueues, -⟩ := hreturned.returned _ found hlive
    obtain ⟨own, ⟨hmem, hclass⟩, hunique⟩ :=
      hqueues.existsUnique queue.workload
    constructor
    · refine ⟨own, ⟨(hreturned.ownQueue_iff hlive).mpr hmem, hclass⟩, ?_⟩
      rintro other ⟨hown, hother⟩
      exact hunique other ⟨(hreturned.ownQueue_iff hlive).mp hown, hother⟩
    · intro hrecovered
      have hclosed := closed_of_recovered driver vramBytes ids hrecovered
      exact hclosed.not_submitReady hready rfl
  · rintro ⟨id, workload⟩ hclass
    obtain rfl : workload = queue.workload := hclass
    rw [submit_ignores_id]
  · intro hclass
    exact submit_of_other_class hclass timeline signalValue before

/-- The identifiers in queue handles have no effect on any run. -/
theorem queue_ids_ignored (rename : ObjectId → ObjectId)
    (start : GraphicsRuntime D P) (ops : List (Op D)) :
    Machine.answers step start (ops.map (Op.withQueueIds rename)) =
        Machine.answers step start ops ∧
      Machine.run step start (ops.map (Op.withQueueIds rename)) =
        Machine.run step start ops := by
  have hstep : ∀ (now : GraphicsRuntime D P) (op : Op D),
      step now (op.withQueueIds rename) = step now op := by
    intro now op
    cases op with
    | submit queue stream timeline signalValue =>
        rw [Op.withQueueIds, step, perform, submit_ignores_id, step, perform]
    | _ => rfl
  have hmatch : ∀ (now now' : GraphicsRuntime D P) (op : Op D), now = now' →
      (step now' (op.withQueueIds rename)).1 = id (step now op).1 ∧
        (step now op).2 = (step now' (op.withQueueIds rename)).2 := by
    rintro now _ op rfl
    rw [hstep]
    exact ⟨rfl, rfl⟩
  obtain ⟨hanswers, hlast⟩ := Machine.lockstep hmatch rfl ops
  rw [List.map_id] at hanswers
  exact ⟨hanswers, hlast.symm⟩

end Submissions

namespace StrayQueue

/-- Contexts 1 and 5 share GPU 0, with the graphics queues 2 and 6; timeline 9
belongs to context 5. -/
def opening : List (Op SoftwareGpuDriver) :=
  [.createDevice ⟨0⟩ .full, .createDevice ⟨0⟩ .full, .createTimeline ⟨5⟩]

/-- An empty stream of context 5, on the graphics queue with an identifier. -/
def submission (queue : Nat) : Op SoftwareGpuDriver :=
  .submit ⟨⟨queue⟩, .graphics⟩ ⟨⟨10⟩, ⟨5⟩, .graphics, []⟩ ⟨9⟩ 1

/-- Acceptance on any graphics queue but 6 breaks the rule. -/
theorem accepted_on_stray {first : List (Op SoftwareGpuDriver)} {queue : Nat}
    (hlive : (Machine.run step (sample 1 1024) first).devices.get ⟨5⟩ =
      some ⟨⟨5⟩, ⟨0⟩,
        [⟨⟨6⟩, .graphics⟩, ⟨⟨7⟩, .compute⟩, ⟨⟨8⟩, .transfer⟩]⟩)
    (haccepted : IsOk
      (step (Machine.run step (sample 1 1024) first) (submission queue)).1)
    (hstray : queue ≠ 6) :
    ¬ Machine.Meets step (sample 1 1024) (first ++ [submission queue])
      SubmitsToOwnQueue := by
  intro hmeets
  have hown := hmeets.at_step _ _ _ _ rfl haccepted
  have hreturned := contextsReturned_run (P := BareDisplay)
    (sample 1 1024).driver 0 (sample 1 1024).ids first
  have hmem := (hreturned.ownQueue_iff hlive).mp hown
  simp [hstray] at hmem

/-- The work of context 5 is accepted on the queue of context 1, also when
context 1 has been recovered, and on one that was never issued. -/
theorem queue_ownership_fails :
    ¬ Machine.Meets step (sample 1 1024) (opening ++ [submission 2])
        SubmitsToOwnQueue ∧
      ¬ Machine.Meets step (sample 1 1024)
        ((opening ++ [.recoverDevice ⟨1⟩ .full]) ++ [submission 2])
        SubmitsToOwnQueue ∧
      ¬ Machine.Meets step (sample 1 1024) (opening ++ [submission 99])
        SubmitsToOwnQueue := by
  refine ⟨?_, ?_, ?_⟩
  · exact accepted_on_stray (by decide) ⟨.unit, rfl⟩ (by decide)
  · exact accepted_on_stray (by decide) ⟨.unit, rfl⟩ (by decide)
  · exact accepted_on_stray (by decide) ⟨.unit, rfl⟩ (by decide)

end StrayQueue

end GraphicsRuntime

end SherGraphics
