/-
Whose memory a stream names.  Every resource row comes from a
`create_resource` for its context; `validate_stream` compares that context
with the stream's for a `BindResource` and not for the operands of a `Copy`.
-/
import SherGraphics.SubmitEffect

namespace SherGraphics

/-- The resources that an operation names. -/
def GraphicsOp.namedResources : GraphicsOp → List ObjectId
  | .bindResource _ resource => [resource]
  | .copy src dst => [src, dst]
  | _ => []

namespace GraphicsRuntime

section Effects

variable {D P : Type} [GpuDriver D] {runtime after : GraphicsRuntime D P}
  {op : Op D} {answer : Result Reply}

/-- What an operation does to the resource table. -/
inductive ResourceEffect (runtime after : GraphicsRuntime D P) :
    Op D → Result Reply → Prop
  | kept {op : Op D} {answer : Result Reply}
      (htable : after.resources = runtime.resources) :
      ResourceEffect runtime after op answer
  | created {device : ObjectId} {kind : ResourceKind}
      {memoryClass : MemoryClass} {row : Resource}
      (hrow : row.device = device)
      (htable : after.resources = runtime.resources.insert row.id row) :
      ResourceEffect runtime after (.createResource device kind memoryClass)
        (.ok (.resource row))
  | removed {op : Op D} {answer : Result Reply}
      (hrows : ∀ name row, after.resources.get name = some row →
        runtime.resources.get name = some row) :
      ResourceEffect runtime after op answer

theorem Effect.onResources (heffect : Effect runtime op answer after) :
    ResourceEffect runtime after op answer := by
  cases heffect with
  | quiet hanswer hsealed htables hids hdriver =>
      exact .kept (congrArg ObjectTables.resources htables)
  | createdResource hcontext hallocated => exact .created rfl rfl
  | @freed freed old hrow =>
      refine .removed ?_
      intro name row hget
      change (runtime.resources.erase freed).get name = some row at hget
      exact (Table.row_of_erase hget).2
  | recovered hadmin hcontext hreset =>
      refine .removed ?_
      intro name row hget
      exact (Table.row_of_retain hget).1
  | borrowed hadmin => exact .kept rfl
  | notBorrowed hdenied => exact .kept rfl
  | createdDevice hgranted hprobe hfind => exact .kept rfl
  | createdTimeline hcontext => exact .kept rfl
  | createdShader hcontext => exact .kept rfl
  | createdPipeline hcontext hshader => exact .kept rfl
  | submitted hready haccepted => exact .kept rfl
  | panicked hready hpanicked => exact .kept rfl

end Effects

section Resources

variable {D P : Type}

/-- The step created the resource for the context recorded in its row. -/
def CreatesResource (e : RuntimeEvent D P) (row : Resource) : Prop :=
  ∃ kind memoryClass,
    e.action = .createResource row.device kind memoryClass ∧
      e.answer = .ok (.resource row)

/-- The resource is live and was created for the context. -/
def ResourceOf (past : List (RuntimeEvent D P)) (now : GraphicsRuntime D P)
    (name device : ObjectId) : Prop :=
  ∃ row, now.resources.get name = some row ∧ row.device = device ∧
    ∃ e ∈ past, CreatesResource e row

/-- Every row of the resource table was created in the run. -/
def ResourcesCreated (past : List (RuntimeEvent D P))
    (now : GraphicsRuntime D P) : Prop :=
  ∀ name row, now.resources.get name = some row →
    ∃ e ∈ past, CreatesResource e row

variable {past : List (RuntimeEvent D P)}

theorem ResourcesCreated.resourceOf {now : GraphicsRuntime D P}
    (hcreated : ResourcesCreated past now) {name : ObjectId} {row : Resource}
    (hrow : now.resources.get name = some row) :
    ResourceOf past now name row.device :=
  ⟨row, hrow, rfl, hcreated name row hrow⟩

theorem ResourcesCreated.mono {before after : GraphicsRuntime D P}
    (hcreated : ResourcesCreated past before) (e : RuntimeEvent D P)
    (hrows : ∀ name row, after.resources.get name = some row →
      before.resources.get name = some row) :
    ResourcesCreated (past ++ [e]) after := by
  intro name row hrow
  obtain ⟨earlier, hmem, hcreates⟩ := hcreated name row (hrows name row hrow)
  exact ⟨earlier, List.mem_append_left [e] hmem, hcreates⟩

variable [GpuDriver D]

theorem ResourcesCreated.extend {before after : GraphicsRuntime D P}
    {op : Op D} {answer : Result Reply}
    (hcreated : ResourcesCreated past before)
    (heffect : Effect before op answer after) :
    ResourcesCreated (past ++ [⟨before, op, answer, after⟩]) after := by
  cases heffect.onResources with
  | kept htable =>
      exact hcreated.mono _ fun name row hrow => by rwa [htable] at hrow
  | removed hrows => exact hcreated.mono _ hrows
  | @created device kind memoryClass new hdevice htable =>
      intro name row hrow
      rw [htable] at hrow
      rcases Table.row_of_insert hrow with ⟨-, rfl⟩ | ⟨-, hrow⟩
      · subst hdevice
        exact ⟨_, List.mem_append_right past List.mem_cons_self, kind,
          memoryClass, rfl, rfl⟩
      · obtain ⟨earlier, hmem, hcreates⟩ := hcreated name row hrow
        exact ⟨earlier, List.mem_append_left _ hmem, hcreates⟩

theorem resourcesCreated_run [GPUDriver P] (driver : D) (vramBytes : Nat)
    (ids : IdSource) (ops : List (Op D)) :
    ResourcesCreated
      (Machine.trace step (new driver vramBytes ids : GraphicsRuntime D P) ops)
      (Machine.run step (new driver vramBytes ids) ops) :=
  Machine.history_invariant (by simp [ResourcesCreated, new])
    (fun _ now op hcreated => hcreated.extend (step_effect now op)) ops

end Resources

/-! ### Isolation of submissions -/

section Isolation

variable {D P : Type}

/-- The driver receives a submit call in this step. -/
def DriverReceives (e : RuntimeEvent (Recorded D) P) : Prop :=
  ∃ gpu workload ops, .submit gpu workload ops ∈
    e.after.driver.calls.drop e.before.driver.calls.length

/-- A submission that succeeds, or reaches the driver at all, names only live
resources created for the stream's context. -/
def SubmitsIsolated (past : List (RuntimeEvent (Recorded D) P))
    (e : RuntimeEvent (Recorded D) P) : Prop :=
  ∀ queue stream timeline signalValue,
    e.action = .submit queue stream timeline signalValue →
      IsOk e.answer ∨ DriverReceives e →
        ∀ op ∈ stream.ops, ∀ name ∈ op.namedResources,
          ResourceOf past e.before name stream.device

/-- In a submission that passes every check, the operands of a copy belong to
the stream's context. -/
def CopiesOwnResources (e : RuntimeEvent D P) : Prop :=
  ∀ queue stream timeline signalValue gpu,
    e.action = .submit queue stream timeline signalValue →
      SubmitReady e.before queue stream timeline signalValue gpu →
        ∀ src dst, .copy src dst ∈ stream.ops →
          ∀ row, e.before.resources.get src = some row ∨
            e.before.resources.get dst = some row →
              row.device = stream.device

variable [GpuDriver D] {past : List (RuntimeEvent (Recorded D) P)}
  {before : GraphicsRuntime (Recorded D) P} {queue : QueueHandle}
  {stream : CommandStream} {timeline gpu : ObjectId} {signalValue : Nat}
  [GPUDriver P]

theorem reaches_iff_ready :
    (IsOk (step before (.submit queue stream timeline signalValue)).1 ∨
        DriverReceives (Machine.event step before
          (.submit queue stream timeline signalValue))) ↔
      ∃ gpu, SubmitReady before queue stream timeline signalValue gpu := by
  have hanswer : (step before (.submit queue stream timeline signalValue)).1 =
      (submit queue stream timeline signalValue before).1.map
        fun _ => Reply.unit := by
    rw [step, perform, Method.map_run]
  have hafter : (Machine.event step before
      (.submit queue stream timeline signalValue)).after =
        (submit queue stream timeline signalValue before).2 := by
    change (step before _).2 = _
    rw [step, perform, Method.map_run]
  constructor
  · intro hreaches
    by_contra hrefused
    obtain ⟨hnot, hdriver⟩ := submit_refused (not_exists.mp hrefused)
    rcases hreaches with ⟨reply, hok⟩ | ⟨gpu, workload, ops, hcall⟩
    · rw [hanswer] at hok
      cases hrun : (submit queue stream timeline signalValue before).1 with
      | ok value => exact hnot ⟨value, hrun⟩
      | error error =>
          rw [hrun] at hok
          cases hok
    · rw [hafter, hdriver] at hcall
      simp [Machine.event] at hcall
  · rintro ⟨gpu, hready⟩
    obtain ⟨rest, hcalls, -⟩ := submit_calls_of_ready hready
    refine Or.inr ⟨gpu, queue.workload, translateOps stream.ops, ?_⟩
    rw [hafter, hcalls]
    simp [Machine.event]

/-- What the checks of `validate_stream` leave open is the context of the
operands of a copy. -/
theorem submitsIsolated_iff {op : Op (Recorded D)}
    (hcreated : ResourcesCreated past before) :
    SubmitsIsolated past (Machine.event step before op) ↔
      CopiesOwnResources (Machine.event step before op) := by
  constructor
  · rintro hisolated queue stream timeline signalValue gpu rfl hready src dst
      hcopy row hrow
    have howned := hisolated queue stream timeline signalValue rfl
      (reaches_iff_ready.mpr ⟨gpu, hready⟩) _ hcopy
    rcases hrow with hsrc | hdst
    · obtain ⟨found, hfound, hdevice, -⟩ := howned src (by
        simp [GraphicsOp.namedResources])
      cases hsrc.symm.trans hfound
      exact hdevice
    · obtain ⟨found, hfound, hdevice, -⟩ := howned dst (by
        simp [GraphicsOp.namedResources])
      cases hdst.symm.trans hfound
      exact hdevice
  · rintro hcopies queue stream timeline signalValue rfl hreaches op hop name
      hname
    obtain ⟨gpu, hready⟩ := reaches_iff_ready.mp hreaches
    obtain ⟨bound, hvalid⟩ := opValid_of_mem hready.valid hop
    cases op with
    | bindResource binding resource =>
        obtain rfl : name = resource := by
          simpa [GraphicsOp.namedResources] using hname
        obtain ⟨row, hrow, hdevice⟩ := hvalid
        rw [← hdevice]
        exact hcreated.resourceOf hrow
    | copy src dst =>
        obtain ⟨⟨source, hsource⟩, target, htarget⟩ := hvalid
        have hown := hcopies queue stream timeline signalValue gpu rfl hready
          src dst hop
        rcases List.mem_pair.mp hname with rfl | rfl
        · rw [← hown source (Or.inl hsource)]
          exact hcreated.resourceOf hsource
        · rw [← hown target (Or.inr htarget)]
          exact hcreated.resourceOf htarget
    | bindPipeline pipeline => cases hname
    | draw vertexCount instanceCount => cases hname
    | dispatch x y z => cases hname
    | barrier => cases hname

/-- Submissions are isolated in exactly the runs in which those that pass the
checks copy only between resources of their own context. -/
theorem submissions_isolated_iff (driver : D) (vramBytes : Nat)
    (ids : IdSource) (ops : List (Op (Recorded D))) :
    let start : GraphicsRuntime (Recorded D) P := new ⟨driver, []⟩ vramBytes ids
    Machine.Meets step start ops SubmitsIsolated ↔
      Machine.Meets step start ops (fun _ e => CopiesOwnResources e) := by
  intro start
  apply Machine.meets_congr
  intro first op
  exact submitsIsolated_iff
    (resourcesCreated_run ⟨driver, []⟩ vramBytes ids first)

end Isolation

namespace ForeignCopy

/-- Contexts 1 and 5 share GPU 0; resource 9 belongs to context 1, and resource
10 and timeline 11 to context 5. -/
def opening : List (Op (Recorded SoftwareGpuDriver)) :=
  [.createDevice ⟨0⟩ .full, .createDevice ⟨0⟩ .full,
    .createResource ⟨1⟩ (.buffer 64 {}) .deviceLocal,
    .createResource ⟨5⟩ (.buffer 64 {}) .deviceLocal, .createTimeline ⟨5⟩]

def stream : CommandStream :=
  ⟨⟨12⟩, ⟨5⟩, .transfer, [.copy ⟨9⟩ ⟨10⟩]⟩

def start : GraphicsRuntime (Recorded SoftwareGpuDriver) BareDisplay :=
  let (driver, ids) := SoftwareGpuDriver.withDevices 1 1024 .sequential
  new ⟨driver, []⟩ 0 ids

def ops : List (Op (Recorded SoftwareGpuDriver)) :=
  opening ++ [.submit ⟨⟨8⟩, .transfer⟩ stream ⟨11⟩ 1]

/-- A stream of context 5 that reads the buffer of context 1 is accepted. -/
theorem submissions_isolated_fails :
    ¬ Machine.Meets step start ops SubmitsIsolated := by
  intro hmeets
  have hisolated := hmeets.at_step
  obtain ⟨row, hrow, hdevice, -⟩ := hisolated _ stream _ _ rfl
    (Or.inl ⟨.unit, rfl⟩) _ List.mem_cons_self ⟨9⟩ List.mem_cons_self
  have hfound : (Machine.run step start opening).resources.get ⟨9⟩ =
      some ⟨⟨9⟩, ⟨1⟩, .buffer 64 {}, .deviceLocal⟩ := by decide
  cases hfound.symm.trans hrow
  cases hdevice

end ForeignCopy

end GraphicsRuntime

end SherGraphics
