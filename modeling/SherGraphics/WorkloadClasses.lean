/-
The class of the pipeline under each draw and dispatch.  `create_pipeline`
records a class in the row of the pipeline; the loop of `validate_stream` asks
of a draw or a dispatch only that some pipeline is bound.
-/
import SherGraphics.AcceptedStreams
import SherGraphics.Teardown

namespace SherGraphics

/-- The class of the pipeline that an operation has to run under. -/
def GraphicsOp.requiredClass : GraphicsOp → Option WorkloadClass
  | .draw _ _ => some .graphics
  | .dispatch _ _ _ => some .compute
  | _ => none

/-- The pipeline is the one that the operations bound most recently. -/
def LastBinds (ops : List GraphicsOp) (pipeline : ObjectId) : Prop :=
  ∃ front between, ops = front ++ .bindPipeline pipeline :: between ∧
    ∀ op ∈ between, ¬ op.BindsPipeline

/-- The class in the row of the bound pipeline. -/
def boundClass (pipelines : Table ObjectId Pipeline)
    (boundPipeline : Option ObjectId) : Option WorkloadClass :=
  boundPipeline.bind fun pipeline =>
    (pipelines.get pipeline).map Pipeline.workload

/-- The comparison that is absent from the loop of `validate_stream`, made over
the same bound pipeline. -/
def classesMatch (pipelines : Table ObjectId Pipeline)
    (boundPipeline : Option ObjectId) : List GraphicsOp → Bool
  | [] => true
  | op :: rest =>
      (op.requiredClass.all fun workload =>
          boundClass pipelines boundPipeline = some workload) &&
        classesMatch pipelines (boundAfter boundPipeline op) rest

section Positions

variable {pipelines : Table ObjectId Pipeline}
  {boundPipeline : Option ObjectId}

theorem boundAfter_of_not_binds {op : GraphicsOp} (hop : ¬ op.BindsPipeline) :
    boundAfter boundPipeline op = boundPipeline := by
  cases op with
  | bindPipeline pipeline => exact absurd trivial hop
  | _ => rfl

/-- Operations that bind nothing leave the bound pipeline as it was. -/
theorem foldl_boundAfter_of_not_binds {ops : List GraphicsOp}
    (hops : ∀ op ∈ ops, ¬ op.BindsPipeline) :
    ops.foldl boundAfter boundPipeline = boundPipeline := by
  induction ops generalizing boundPipeline with
  | nil => rfl
  | cons op rest ih =>
      simp only [List.forall_mem_cons] at hops
      rw [List.foldl_cons, boundAfter_of_not_binds hops.1, ih hops.2]

/-- The loop carries the pipeline bound most recently. -/
theorem lastBinds_iff (ops : List GraphicsOp) (pipeline : ObjectId) :
    LastBinds ops pipeline ↔ ops.foldl boundAfter none = some pipeline := by
  constructor
  · rintro ⟨front, between, rfl, hbetween⟩
    rw [List.foldl_append, List.foldl_cons,
      foldl_boundAfter_of_not_binds hbetween, boundAfter]
  · intro hbound
    induction ops using List.reverseRecOn with
    | nil => simp at hbound
    | append_singleton front op ih =>
        rw [List.foldl_append, List.foldl_cons, List.foldl_nil] at hbound
        by_cases hop : op.BindsPipeline
        · obtain ⟨other, rfl⟩ := (bindsPipeline_iff op).mp hop
          obtain rfl : other = pipeline := Option.some.inj hbound
          exact ⟨front, [], rfl, by simp⟩
        · rw [boundAfter_of_not_binds hop] at hbound
          obtain ⟨start, between, rfl, hbetween⟩ := ih hbound
          refine ⟨start, between ++ [op], by simp, ?_⟩
          simpa [or_imp, forall_and] using ⟨hbetween, hop⟩

/-- The comparison succeeds when every position finds the class it needs. -/
theorem classesMatch_iff (ops : List GraphicsOp) :
    classesMatch pipelines boundPipeline ops = true ↔
      ∀ earlier op later, ops = earlier ++ op :: later →
        ∀ workload, op.requiredClass = some workload →
          boundClass pipelines (earlier.foldl boundAfter boundPipeline) =
            some workload := by
  induction ops generalizing boundPipeline with
  | nil => simp [classesMatch]
  | cons head rest ih =>
      rw [classesMatch, Bool.and_eq_true, ih, List.forall_cut_cons
        fun earlier op => ∀ workload, op.requiredClass = some workload →
          boundClass pipelines (earlier.foldl boundAfter boundPipeline) =
            some workload]
      simp [Option.all_eq_true]

end Positions

namespace GraphicsRuntime

/-! ### Where the classes come from -/

section History

variable {D P : Type}

/-- A `create_pipeline` of the past returned the pipeline with the class. -/
def CreatedWithClass (past : List (RuntimeEvent D P)) (pipeline : ObjectId)
    (workload : WorkloadClass) : Prop :=
  ∃ e ∈ past, ∃ row, CreatesPipeline e row ∧ row.id = pipeline ∧
    row.workload = workload

/-- The rows of the pipeline table and the creations of the past record the
same classes. -/
structure PipelineClasses (past : List (RuntimeEvent D P))
    (now : GraphicsRuntime D P) : Prop where
  created : ∀ pipeline row, now.pipelines.get pipeline = some row →
    CreatedWithClass past pipeline row.workload
  recorded : ∀ e ∈ past, ∀ row, CreatesPipeline e row →
    now.ids.Issued row.id ∧ ∀ found, now.pipelines.get row.id = some found →
      found.workload = row.workload

variable {past : List (RuntimeEvent D P)} {now : GraphicsRuntime D P}
  {pipeline : ObjectId} {workload : WorkloadClass}

theorem CreatedWithClass.mono
    (hcreated : CreatedWithClass past pipeline workload)
    (later : List (RuntimeEvent D P)) :
    CreatedWithClass (past ++ later) pipeline workload := by
  obtain ⟨e, hmem, hcreates⟩ := hcreated
  exact ⟨e, List.mem_append_left later hmem, hcreates⟩

/-- For a pipeline in the table, the row tells how it was created. -/
theorem PipelineClasses.createdWithClass_iff {row : Pipeline}
    (hclasses : PipelineClasses past now)
    (hrow : now.pipelines.get pipeline = some row) :
    CreatedWithClass past pipeline workload ↔ row.workload = workload := by
  constructor
  · rintro ⟨e, hmem, made, hcreates, rfl, rfl⟩
    exact (hclasses.recorded e hmem made hcreates).2 row hrow
  · rintro rfl
    exact hclasses.created pipeline row hrow

variable [GpuDriver D] {before after : GraphicsRuntime D P} {op : Op D}
  {answer : Result Reply}

theorem PipelineClasses.extend (hclasses : PipelineClasses past before)
    (heffect : Effect before op answer after) :
    PipelineClasses (past ++ [⟨before, op, answer, after⟩]) after where
  created := by
    intro pipeline row hrow
    rcases heffect.pipeline_origin hrow with hbefore | ⟨-, hid, hcreates⟩
    · exact (hclasses.created pipeline row hbefore).mono _
    · exact ⟨_, List.mem_append_right past List.mem_cons_self, row, hcreates,
        hid, rfl⟩
  recorded := by
    apply Table.created_agrees Pipeline.id
      (fun found row => found.workload = row.workload) (fun _ => rfl)
      (fun _ hissued => hissued.mono heffect.advances) ?_ ?_ hclasses.recorded
    · intro name row hissued hrow
      exact heffect.pipeline_before hissued hrow
    · intro row hcreates
      exact hcreates.filed heffect

theorem pipelineClasses_run [GPUDriver P] (driver : D) (vramBytes : Nat)
    (ids : IdSource) (ops : List (Op D)) :
    PipelineClasses
      (Machine.trace step (new driver vramBytes ids : GraphicsRuntime D P) ops)
      (Machine.run step (new driver vramBytes ids) ops) := by
  refine Machine.history_invariant ?_
    (fun _ now op hclasses => hclasses.extend (step_effect now op)) ops
  constructor <;> simp [new]

end History

/-! ### Draws and dispatches that reach the driver -/

section Submissions

variable {D P : Type}

/-- In a submission that succeeds, or reaches the driver at all, the pipeline
bound most recently before a draw or a dispatch was created with the class that
this operation runs under. -/
def RespectsClasses (past : List (RuntimeEvent (Recorded D) P))
    (e : RuntimeEvent (Recorded D) P) : Prop :=
  ∀ queue stream timeline signalValue,
    e.action = .submit queue stream timeline signalValue →
      IsOk e.answer ∨ DriverReceives e →
        ∀ earlier op later, stream.ops = earlier ++ op :: later →
          ∀ workload, op.requiredClass = some workload →
            ∃ pipeline, LastBinds earlier pipeline ∧
              CreatedWithClass past pipeline workload

/-- A submission that passes every check passes the comparison of classes as
well. -/
def SubmitsMatch (e : RuntimeEvent D P) : Prop :=
  ∀ queue stream timeline signalValue gpu,
    e.action = .submit queue stream timeline signalValue →
      SubmitReady e.before queue stream timeline signalValue gpu →
        classesMatch e.before.pipelines none stream.ops = true

variable {past : List (RuntimeEvent D P)} {before : GraphicsRuntime D P}
  {stream : CommandStream}

/-- At one position of an accepted stream, the row of the bound pipeline has
the class exactly when its creation has. -/
theorem PipelineClasses.boundClass_iff (hclasses : PipelineClasses past before)
    (haccepted : validateStream stream before.pipelines before.resources =
      .ok ())
    {earlier rest : List GraphicsOp} (hsplit : stream.ops = earlier ++ rest)
    (workload : WorkloadClass) :
    boundClass before.pipelines (earlier.foldl boundAfter none) =
        some workload ↔
      ∃ pipeline, LastBinds earlier pipeline ∧
        CreatedWithClass past pipeline workload := by
  constructor
  · intro hbound
    obtain ⟨pipeline, hlast, hclass⟩ := Option.bind_eq_some_iff.mp hbound
    obtain ⟨row, hrow, hworkload⟩ := Option.map_eq_some_iff.mp hclass
    exact ⟨pipeline, (lastBinds_iff earlier pipeline).mpr hlast,
      (hclasses.createdWithClass_iff hrow).mpr hworkload⟩
  · rintro ⟨pipeline, hlast, hcreated⟩
    have hbinds : .bindPipeline pipeline ∈ stream.ops := by
      obtain ⟨front, between, rfl, -⟩ := hlast
      simp [hsplit]
    obtain ⟨bound, row, hrow, -⟩ := opValid_of_mem haccepted hbinds
    have hworkload := (hclasses.createdWithClass_iff hrow).mp hcreated
    rw [(lastBinds_iff earlier pipeline).mp hlast]
    simp [boundClass, hrow, hworkload]

variable [GpuDriver D] [GPUDriver P]
  {past : List (RuntimeEvent (Recorded D) P)}
  {before : GraphicsRuntime (Recorded D) P}

theorem respectsClasses_iff {op : Op (Recorded D)}
    (hclasses : PipelineClasses past before) :
    RespectsClasses past (Machine.event step before op) ↔
      SubmitsMatch (Machine.event step before op) := by
  constructor
  · rintro hrespects queue stream timeline signalValue gpu rfl hready
    have hpositions := hrespects queue stream timeline signalValue rfl
      (reaches_iff_ready.mpr ⟨gpu, hready⟩)
    rw [classesMatch_iff]
    intro earlier op later hsplit workload hrequired
    exact (hclasses.boundClass_iff hready.valid hsplit workload).mpr
      (hpositions earlier op later hsplit workload hrequired)
  · rintro hmatch queue stream timeline signalValue rfl hreaches
    obtain ⟨gpu, hready⟩ := reaches_iff_ready.mp hreaches
    have hpositions := (classesMatch_iff stream.ops).mp
      (hmatch queue stream timeline signalValue gpu rfl hready)
    intro earlier op later hsplit workload hrequired
    exact (hclasses.boundClass_iff hready.valid hsplit workload).mp
      (hpositions earlier op later hsplit workload hrequired)

/-- Draws and dispatches run under pipelines of their class in exactly the runs
whose submissions would also pass the comparison that is not made. -/
theorem classes_respected_iff (driver : D) (vramBytes : Nat) (ids : IdSource)
    (ops : List (Op (Recorded D))) :
    let start : GraphicsRuntime (Recorded D) P := new ⟨driver, []⟩ vramBytes ids
    Machine.Meets step start ops RespectsClasses ↔
      Machine.Meets step start ops (fun _ e => SubmitsMatch e) := by
  intro start
  apply Machine.meets_congr
  intro first op
  exact respectsClasses_iff
    (pipelineClasses_run ⟨driver, []⟩ vramBytes ids first)

end Submissions

namespace ComputeDraw

/-- Context 1 has the compute pipeline 6, made from shader 5, the graphics
pipeline 7 and timeline 8. -/
def opening : List (Op (Recorded SoftwareGpuDriver)) :=
  [.createDevice ⟨0⟩ .full, .createShaderModule ⟨1⟩ .vertex [],
    .createPipeline ⟨1⟩ ⟨5⟩ .compute, .createPipeline ⟨1⟩ ⟨5⟩ .graphics,
    .createTimeline ⟨1⟩]

/-- A draw under the graphics pipeline, and one more after the compute pipeline
has been bound in its place. -/
def stream : CommandStream :=
  ⟨⟨9⟩, ⟨1⟩, .graphics, [.bindPipeline ⟨7⟩, .draw 3 1, .bindPipeline ⟨6⟩,
    .draw 3 1]⟩

def start : GraphicsRuntime (Recorded SoftwareGpuDriver) BareDisplay :=
  let (driver, ids) := SoftwareGpuDriver.withDevices 1 1024 .sequential
  new ⟨driver, []⟩ 0 ids

def ops : List (Op (Recorded SoftwareGpuDriver)) :=
  opening ++ [.submit ⟨⟨2⟩, .graphics⟩ stream ⟨8⟩ 1]

/-- The second draw of the stream is accepted under the compute pipeline. -/
theorem classes_respected_fails :
    ¬ Machine.Meets step start ops RespectsClasses := by
  intro hmeets
  have hrespects := hmeets.at_step
  obtain ⟨pipeline, hlast, hcreated⟩ := hrespects _ stream _ _ rfl
    (Or.inl ⟨.unit, rfl⟩) [.bindPipeline ⟨7⟩, .draw 3 1, .bindPipeline ⟨6⟩]
    (.draw 3 1) [] rfl .graphics rfl
  rw [lastBinds_iff] at hlast
  obtain rfl : pipeline = ⟨6⟩ := (Option.some.inj hlast).symm
  have hrow : (Machine.run step start opening).pipelines.get ⟨6⟩ =
      some ⟨⟨6⟩, ⟨1⟩, .compute, ⟨5⟩⟩ := by decide
  have hclasses := pipelineClasses_run (P := BareDisplay) start.driver 0
    start.ids opening
  have hworkload := (hclasses.createdWithClass_iff hrow).mp hcreated
  cases hworkload

end ComputeDraw

end GraphicsRuntime

end SherGraphics
