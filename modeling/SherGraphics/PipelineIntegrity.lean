/-
Pipelines and the shaders they name.  `recover_device` removes both by their
device, so a pipeline and its shader go together only when they are of one
device, which `create_pipeline` does not ask.
-/
import SherGraphics.RuntimeStep
import SherGraphics.StreamValidation

namespace SherGraphics

namespace GraphicsRuntime

section Effects

variable {D P : Type} [GpuDriver D] {runtime after : GraphicsRuntime D P}
  {op : Op D} {answer : Result Reply}

/-- What an operation does to the shader and pipeline tables. -/
inductive PipelineEffect (runtime after : GraphicsRuntime D P) :
    Op D → Result Reply → Prop
  | kept {op : Op D} {answer : Result Reply}
      (hcreate : ∀ device shader workload,
        op = .createPipeline device shader workload → ¬ IsOk answer)
      (hshaders : after.shaders = runtime.shaders)
      (hpipelines : after.pipelines = runtime.pipelines) :
      PipelineEffect runtime after op answer
  | createdShader {device : ObjectId} {stage : ShaderStage} {ir : List UInt8}
      (hids : after.ids = runtime.ids.advance 1)
      (hshaders : after.shaders = runtime.shaders.insert runtime.ids.next
        ⟨runtime.ids.next, device, stage, ir⟩)
      (hpipelines : after.pipelines = runtime.pipelines) :
      PipelineEffect runtime after (.createShaderModule device stage ir)
        (.ok (.shader ⟨runtime.ids.next, device, stage, ir⟩))
  | createdPipeline {device shader : ObjectId} {workload : WorkloadClass}
      {found : GraphicsDevice} {source : ShaderModule}
      (hcontext : runtime.devices.get device = some found)
      (hshader : runtime.shaders.get shader = some source)
      (hshaders : after.shaders = runtime.shaders)
      (hpipelines : after.pipelines =
        runtime.pipelines.insert runtime.ids.next
          ⟨runtime.ids.next, device, workload, shader⟩) :
      PipelineEffect runtime after (.createPipeline device shader workload)
        (.ok (.pipeline ⟨runtime.ids.next, device, workload, shader⟩))
  | dropped {device : ObjectId} {caps : CapabilitySet}
      (hshaders : after.shaders =
        runtime.shaders.retain fun _ row => row.device ≠ device)
      (hpipelines : after.pipelines =
        runtime.pipelines.retain fun _ row => row.device ≠ device) :
      PipelineEffect runtime after (.recoverDevice device caps) (.ok .unit)

theorem Effect.onPipelines (heffect : Effect runtime op answer after) :
    PipelineEffect runtime after op answer := by
  cases heffect with
  | quiet hanswer hsealed htables hids hdriver =>
      refine .kept ?_ (congrArg ObjectTables.shaders htables)
        (congrArg ObjectTables.pipelines htables)
      rintro device shader workload rfl hok
      exact hanswer hok trivial
  | createdShader hcontext => exact .createdShader rfl rfl rfl
  | createdPipeline hcontext hshader =>
      exact .createdPipeline hcontext hshader rfl rfl
  | recovered hadmin hcontext hreset => exact .dropped rfl rfl
  | borrowed hadmin => exact .kept (by simp) rfl rfl
  | notBorrowed hdenied => exact .kept (by simp) rfl rfl
  | createdDevice hgranted hprobe hfind => exact .kept (by simp) rfl rfl
  | createdTimeline hcontext => exact .kept (by simp) rfl rfl
  | createdResource hcontext hallocated => exact .kept (by simp) rfl rfl
  | submitted hready haccepted => exact .kept (by simp) rfl rfl
  | panicked hready hpanicked => exact .kept (by simp) rfl rfl
  | freed hrow => exact .kept (by simp) rfl rfl

end Effects

section Integrity

variable {D P : Type}

/-- Every pipeline names a shader that is present and of its own device. -/
def PipelinesIntegral (now : GraphicsRuntime D P) : Prop :=
  ∀ pipeline row, now.pipelines.get pipeline = some row →
    ∃ source, now.shaders.get row.shader = some source ∧
      source.device = row.device

/-- Every pipeline that an accepted stream binds has its shader. -/
def BindsLiveShaders (now : GraphicsRuntime D P) : Prop :=
  ∀ stream, validateStream stream now.pipelines now.resources = .ok () →
    ∀ pipeline, .bindPipeline pipeline ∈ stream.ops →
      ∃ row source, now.pipelines.get pipeline = some row ∧
        now.shaders.get row.shader = some source

/-- Every shader is stored under an identifier that was handed out. -/
def ShadersIssued (now : GraphicsRuntime D P) : Prop :=
  ∀ shader row, now.shaders.get shader = some row → now.ids.Issued shader

/-- A pipeline is created on a live context only from a shader of that context
or from one that is not known. -/
def NamesOwnShader (e : RuntimeEvent D P) : Prop :=
  ∀ device shader workload found source,
    e.action = .createPipeline device shader workload →
      e.before.devices.get device = some found →
        e.before.shaders.get shader = some source → source.device = device

theorem PipelinesIntegral.bindsLiveShaders {now : GraphicsRuntime D P}
    (hintegral : PipelinesIntegral now) : BindsLiveShaders now := by
  intro stream haccepted pipeline hbind
  obtain ⟨bound, row, hrow, hdevice⟩ := opValid_of_mem haccepted hbind
  obtain ⟨source, hsource, hsame⟩ := hintegral pipeline row hrow
  exact ⟨row, source, hrow, hsource⟩

theorem ShadersIssued.fresh {now : GraphicsRuntime D P}
    (hissued : ShadersIssued now) : now.shaders.get now.ids.next = none := by
  rw [Option.eq_none_iff_forall_ne_some]
  intro row hrow
  exact now.ids.next_not_issued (hissued _ row hrow)

variable [GpuDriver D] {before after : GraphicsRuntime D P} {op : Op D}
  {answer : Result Reply}

theorem ShadersIssued.preserved (hissued : ShadersIssued before)
    (heffect : Effect before op answer after) : ShadersIssued after := by
  intro shader row hrow
  have hadvances := heffect.advances
  cases heffect.onPipelines with
  | kept hcreate hshaders hpipelines =>
      rw [hshaders] at hrow
      exact (hissued shader row hrow).mono hadvances
  | createdShader hids hshaders hpipelines =>
      rw [hshaders] at hrow
      rcases Table.row_of_insert hrow with ⟨rfl, -⟩ | ⟨-, hrow⟩
      · rw [hids]
        exact before.ids.next_issued
      · exact (hissued shader row hrow).mono hadvances
  | createdPipeline hcontext hshader hshaders hpipelines =>
      rw [hshaders] at hrow
      exact (hissued shader row hrow).mono hadvances
  | dropped hshaders hpipelines =>
      rw [hshaders] at hrow
      obtain ⟨hrow, -⟩ := Table.row_of_retain hrow
      exact (hissued shader row hrow).mono hadvances

theorem PipelinesIntegral.preserved (hissued : ShadersIssued before)
    (hintegral : PipelinesIntegral before)
    (heffect : Effect before op answer after)
    (hnames : NamesOwnShader ⟨before, op, answer, after⟩) :
    PipelinesIntegral after := by
  intro pipeline row hrow
  cases heffect.onPipelines with
  | kept hcreate hshaders hpipelines =>
      rw [hpipelines] at hrow
      rw [hshaders]
      exact hintegral pipeline row hrow
  | createdShader hids hshaders hpipelines =>
      rw [hpipelines] at hrow
      obtain ⟨source, hsource, hdevice⟩ := hintegral pipeline row hrow
      have hne : row.shader ≠ before.ids.next := by
        intro heq
        rw [heq, hissued.fresh] at hsource
        cases hsource
      exact ⟨source, by rw [hshaders, Table.get_insert_ne _ _ hne, hsource],
        hdevice⟩
  | @createdPipeline device shader workload found source hcontext hshader
      hshaders hpipelines =>
      rw [hpipelines] at hrow
      rw [hshaders]
      rcases Table.row_of_insert hrow with ⟨-, rfl⟩ | ⟨-, hrow⟩
      · exact ⟨source, hshader,
          hnames device shader workload found source rfl hcontext hshader⟩
      · exact hintegral pipeline row hrow
  | dropped hshaders hpipelines =>
      rw [hpipelines] at hrow
      obtain ⟨hrow, hkept⟩ := Table.row_of_retain hrow
      obtain ⟨source, hsource, hdevice⟩ := hintegral pipeline row hrow
      refine ⟨source, ?_, hdevice⟩
      rw [hshaders, Table.get_retain, hsource, Option.filter_some, hdevice,
        if_pos hkept]

/-- A pipeline created from a shader of another context is in the table at
once, so the step that created it breaks integrity. -/
theorem namesOwnShader_of_integral [GPUDriver P]
    (hintegral : PipelinesIntegral (step before op).2) :
    NamesOwnShader (Machine.event step before op) := by
  rintro device shader workload found source rfl hcontext hshader
  let created : Pipeline := ⟨before.ids.next, device, workload, shader⟩
  have hafter : (step before (.createPipeline device shader workload)).2 =
      afterCreatePipeline before created := by
    rw [step, perform, Method.map_run,
      createPipeline_of_known before workload hcontext hshader]
  rw [hafter] at hintegral
  obtain ⟨named, hnamed, hdevice⟩ := hintegral created.id created
    (Table.get_insert_self before.pipelines created.id created)
  have hsame : some source = some named := hshader.symm.trans hnamed
  cases hsame
  exact hdevice

variable [GPUDriver P]

theorem pipelinesIntegral_step (hissued : ShadersIssued before)
    (hintegral : PipelinesIntegral before) :
    PipelinesIntegral (step before op).2 ↔
      NamesOwnShader (Machine.event step before op) :=
  ⟨namesOwnShader_of_integral,
    hintegral.preserved hissued (step_effect before op)⟩

/-- Referential integrity holds throughout exactly the runs in which every
pipeline is created from a shader of its own context. -/
theorem pipelines_integral_iff (driver : D) (vramBytes : Nat) (ids : IdSource)
    (ops : List (Op D)) :
    let start : GraphicsRuntime D P := new driver vramBytes ids
    Machine.Throughout step start ops
        (fun _ now => PipelinesIntegral now ∧ BindsLiveShaders now) ↔
      Machine.Meets step start ops (fun _ e => NamesOwnShader e) := by
  intro start
  have hissued : ∀ first, ShadersIssued (Machine.run step start first) :=
    Machine.run_invariant ShadersIssued (by simp [ShadersIssued, start, new])
      (fun now op hnow => hnow.preserved (step_effect now op))
  have hboth : Machine.Throughout step start ops
      (fun _ now => ShadersIssued now ∧ PipelinesIntegral now) ↔
        Machine.Meets step start ops (fun _ e => NamesOwnShader e) := by
    apply Machine.throughout_iff_meets
    · exact ⟨hissued [], by simp [PipelinesIntegral, start, new]⟩
    · rintro past now op ⟨hnow, hintegral⟩
      rw [← pipelinesIntegral_step hnow hintegral,
        and_iff_right (hnow.preserved (step_effect now op))]
  rw [← hboth]
  constructor
  · intro hall first later hsplit
    exact ⟨hissued first, (hall first later hsplit).1⟩
  · intro hall first later hsplit
    have hintegral := (hall first later hsplit).2
    exact ⟨hintegral, hintegral.bindsLiveShaders⟩

end Integrity

namespace BorrowedShader

/-- Context 5 creates a pipeline from the shader of context 1, which is then
recovered. -/
def ops : List (Op SoftwareGpuDriver) :=
  [.createDevice ⟨0⟩ .full, .createDevice ⟨0⟩ .full,
    .createShaderModule ⟨1⟩ .vertex [], .createPipeline ⟨5⟩ ⟨9⟩ .graphics,
    .recoverDevice ⟨1⟩ .full]

def bound : CommandStream :=
  ⟨⟨11⟩, ⟨5⟩, .graphics, [.bindPipeline ⟨10⟩]⟩

/-- The pipeline of context 5 is still there and still accepted, and its shader
is gone. -/
theorem pipelines_integral_fails :
    ¬ Machine.Throughout step (sample 1 1024) ops
        (fun _ now => PipelinesIntegral now) ∧
      ¬ Machine.Throughout step (sample 1 1024) ops
        (fun _ now => BindsLiveShaders now) := by
  let last := Machine.run step (sample 1 1024) ops
  have hpipeline : last.pipelines.get ⟨10⟩ =
      some ⟨⟨10⟩, ⟨5⟩, .graphics, ⟨9⟩⟩ := by decide
  have hshader : last.shaders.get ⟨9⟩ = none := by decide
  have haccepted : validateStream bound last.pipelines last.resources =
      .ok () := by decide
  constructor
  · intro hall
    obtain ⟨source, hsource, -⟩ := hall.last ⟨10⟩ _ hpipeline
    rw [hshader] at hsource
    cases hsource
  · intro hall
    obtain ⟨row, source, hrow, hsource⟩ :=
      hall.last bound haccepted ⟨10⟩ List.mem_cons_self
    rw [hpipeline] at hrow
    cases hrow
    rw [hshader] at hsource
    cases hsource

end BorrowedShader

end GraphicsRuntime

end SherGraphics
