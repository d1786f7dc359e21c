/-
Recovery is a permanent teardown.  A context that was recovered, and every
resource and pipeline created on it, is gone for good: the handles that callers
still hold are refused by every operation, in every later state.  What carries
this is that an identifier is never handed out twice, by the runtime or by the
allocator of the driver.
-/
import SherGraphics.PipelineIntegrity
import SherGraphics.StreamIsolation
import SherGraphics.TableIntegrity

namespace SherGraphics

namespace GraphicsRuntime

section Retired

variable {D P : Type}

/-- The identifier names nothing in the table and never will. -/
structure Retired {V : Type} (table : GraphicsRuntime D P → Table ObjectId V)
    (now : GraphicsRuntime D P) (name : ObjectId) : Prop where
  issued : now.ids.Issued name
  absent : (table now).get name = none

/-- The step created the pipeline for the context recorded in its row. -/
def CreatesPipeline (e : RuntimeEvent D P) (row : Pipeline) : Prop :=
  e.action = .createPipeline row.device row.shader row.workload ∧
    e.answer = .ok (.pipeline row)

/-- A row under the name of something created earlier belongs to the same
context. -/
structure CreationHistory (past : List (RuntimeEvent D P))
    (now : GraphicsRuntime D P) : Prop where
  resources : ∀ e ∈ past, ∀ row, CreatesResource e row →
    now.ids.Issued row.id ∧ ∀ found, now.resources.get row.id = some found →
      found.device = row.device
  pipelines : ∀ e ∈ past, ∀ row, CreatesPipeline e row →
    now.ids.Issued row.id ∧ ∀ found, now.pipelines.get row.id = some found →
      found.device = row.device

variable [GpuDriver D] {before after : GraphicsRuntime D P} {op : Op D}
  {answer : Result Reply} {past : List (RuntimeEvent D P)} {name : ObjectId}

/-- A pipeline that is filed after a step was filed before, or is the one that
the step created. -/
theorem Effect.pipeline_origin (heffect : Effect before op answer after)
    {row : Pipeline} (hrow : after.pipelines.get name = some row) :
    before.pipelines.get name = some row ∨
      (name = before.ids.next ∧ row.id = name ∧
        CreatesPipeline ⟨before, op, answer, after⟩ row) := by
  cases heffect.onPipelines with
  | kept hcreate hshaders hpipelines =>
      rw [hpipelines] at hrow
      exact Or.inl hrow
  | createdShader hids hshaders hpipelines =>
      rw [hpipelines] at hrow
      exact Or.inl hrow
  | createdPipeline hcontext hshader hshaders hpipelines =>
      rw [hpipelines] at hrow
      rcases Table.row_of_insert hrow with ⟨rfl, rfl⟩ | ⟨-, hrow⟩
      · exact Or.inr ⟨rfl, rfl, rfl, rfl⟩
      · exact Or.inl hrow
  | dropped hshaders hpipelines =>
      rw [hpipelines] at hrow
      exact Or.inl (Table.row_of_retain hrow).1

/-- A step files no pipeline under an identifier handed out before it. -/
theorem Effect.pipeline_before (heffect : Effect before op answer after)
    (hissued : before.ids.Issued name) {row : Pipeline}
    (hrow : after.pipelines.get name = some row) :
    before.pipelines.get name = some row := by
  rcases heffect.pipeline_origin hrow with hbefore | ⟨rfl, -⟩
  · exact hbefore
  · exact absurd hissued before.ids.next_not_issued

/-- A step files no resource under an identifier handed out before it. -/
theorem Effect.resource_before [FreshAllocations D]
    (heffect : Effect before op answer after)
    (hissued : before.ids.Issued name) {row : Resource}
    (hrow : after.resources.get name = some row) :
    before.resources.get name = some row := by
  rcases heffect.resource_origin hrow with hbefore | ⟨hfresh, -⟩
  · exact hbefore
  · exact absurd hissued hfresh

theorem Retired.pipeline_preserved
    (hretired : Retired GraphicsRuntime.pipelines before name)
    (heffect : Effect before op answer after) :
    Retired GraphicsRuntime.pipelines after name := by
  refine ⟨hretired.issued.mono heffect.advances, ?_⟩
  rw [Option.eq_none_iff_forall_ne_some]
  intro row hrow
  cases (heffect.pipeline_before hretired.issued hrow).symm.trans
    hretired.absent

theorem Retired.resource_preserved [FreshAllocations D]
    (hretired : Retired GraphicsRuntime.resources before name)
    (heffect : Effect before op answer after) :
    Retired GraphicsRuntime.resources after name := by
  refine ⟨hretired.issued.mono heffect.advances, ?_⟩
  rw [Option.eq_none_iff_forall_ne_some]
  intro row hrow
  cases (heffect.resource_before hretired.issued hrow).symm.trans
    hretired.absent

/-- The pipeline that a step creates is issued and filed in that step. -/
theorem CreatesPipeline.filed {row : Pipeline}
    (hcreates : CreatesPipeline ⟨before, op, answer, after⟩ row)
    (heffect : Effect before op answer after) :
    after.ids.Issued row.id ∧ after.pipelines.get row.id = some row := by
  obtain ⟨id, device, workload, shader⟩ := row
  obtain ⟨hop, hanswer⟩ := hcreates
  change op = _ at hop
  change answer = _ at hanswer
  subst hop
  cases heffect with
  | quiet hquiet hsealed htables hids hdriver =>
      exact absurd trivial (hquiet ⟨_, hanswer⟩)
  | createdPipeline hcontext hshader =>
      cases hanswer
      exact ⟨before.ids.next_issued, Table.get_insert_self _ _ _⟩

theorem CreatesResource.filed [FreshAllocations D] {row : Resource}
    (hcreates : CreatesResource ⟨before, op, answer, after⟩ row)
    (heffect : Effect before op answer after) :
    after.ids.Issued row.id ∧ after.resources.get row.id = some row := by
  obtain ⟨id, device, kind', memoryClass'⟩ := row
  obtain ⟨kind, memoryClass, hop, hanswer⟩ := hcreates
  change op = _ at hop
  change answer = _ at hanswer
  subst hop
  cases heffect with
  | quiet hquiet hsealed htables hids hdriver =>
      exact absurd trivial (hquiet ⟨_, hanswer⟩)
  | createdResource hcontext hallocated =>
      cases hanswer
      obtain ⟨-, hissued⟩ := FreshAllocations.fresh _ _ _ _ _ _ _ _ hallocated
      exact ⟨hissued, Table.get_insert_self _ _ _⟩

theorem CreationHistory.extend [FreshAllocations D]
    (hhistory : CreationHistory past before)
    (heffect : Effect before op answer after) :
    CreationHistory (past ++ [⟨before, op, answer, after⟩]) after where
  resources := by
    apply Table.created_agrees Resource.id
      (fun found row => found.device = row.device) (fun _ => rfl)
      (fun _ hissued => hissued.mono heffect.advances) ?_ ?_ hhistory.resources
    · intro name row hissued hrow
      exact heffect.resource_before hissued hrow
    · intro row hcreates
      exact hcreates.filed heffect
  pipelines := by
    apply Table.created_agrees Pipeline.id
      (fun found row => found.device = row.device) (fun _ => rfl)
      (fun _ hissued => hissued.mono heffect.advances) ?_ ?_ hhistory.pipelines
    · intro name row hissued hrow
      exact heffect.pipeline_before hissued hrow
    · intro row hcreates
      exact hcreates.filed heffect

theorem creationHistory_run [FreshAllocations D] [GPUDriver P] (driver : D)
    (vramBytes : Nat) (ids : IdSource) (ops : List (Op D)) :
    CreationHistory
      (Machine.trace step (new driver vramBytes ids : GraphicsRuntime D P) ops)
      (Machine.run step (new driver vramBytes ids) ops) :=
  Machine.history_invariant ⟨by simp, by simp⟩
    (fun _ now op hhistory => hhistory.extend (step_effect now op)) ops

end Retired

/-! ### Stale handles -/

section Stale

variable {D P : Type}

/-- A resource or pipeline of the context is named by the operation. -/
def NamesObjectOf (past : List (RuntimeEvent D P)) (device : ObjectId) :
    GraphicsOp → Prop
  | .bindPipeline name => ∃ e ∈ past, ∃ row, CreatesPipeline e row ∧
      row.id = name ∧ row.device = device
  | op => ∃ name ∈ op.namedResources, ∃ e ∈ past, ∃ row,
      CreatesResource e row ∧ row.id = name ∧ row.device = device

/-- The operation is given the context, or something that was created on it in
the past. -/
inductive Stale (past : List (RuntimeEvent D P)) (device : ObjectId) :
    Op D → Prop
  | createTimeline : Stale past device (.createTimeline device)
  | createResource (kind : ResourceKind) (memoryClass : MemoryClass) :
      Stale past device (.createResource device kind memoryClass)
  | createCommandStream (workload : WorkloadClass) :
      Stale past device (.createCommandStream device workload)
  | createShaderModule (stage : ShaderStage) (ir : List UInt8) :
      Stale past device (.createShaderModule device stage ir)
  | createPipeline (shader : ObjectId) (workload : WorkloadClass) :
      Stale past device (.createPipeline device shader workload)
  | deviceFault : Stale past device (.deviceFault device)
  | recoverDevice (caps : CapabilitySet) :
      Stale past device (.recoverDevice device caps)
  | submit (queue : QueueHandle) (stream : CommandStream) (timeline : ObjectId)
      (signalValue : Nat) (hdevice : stream.device = device) :
      Stale past device (.submit queue stream timeline signalValue)
  | freeResource (e : RuntimeEvent D P) (row : Resource) (hmem : e ∈ past)
      (hcreates : CreatesResource e row) (hdevice : row.device = device) :
      Stale past device (.freeResource row.id)
  | submitNaming (queue : QueueHandle) (stream : CommandStream)
      (timeline : ObjectId) (signalValue : Nat) (op : GraphicsOp)
      (hop : op ∈ stream.ops) (hnames : NamesObjectOf past device op) :
      Stale past device (.submit queue stream timeline signalValue)

/-- The rows of all other contexts are the rows from before, and those of this
context are gone. -/
structure TearsDown (device : ObjectId) (before after : GraphicsRuntime D P) :
    Prop where
  devices : ∀ id, after.devices.get id =
    if id = device then none else before.devices.get id
  deviceCaps : ∀ id, after.deviceCaps.get id =
    if id = device then none else before.deviceCaps.get id
  resources : ∀ name, after.resources.get name =
    (before.resources.get name).filter fun row => row.device ≠ device
  shaders : ∀ name, after.shaders.get name =
    (before.shaders.get name).filter fun row => row.device ≠ device
  pipelines : ∀ name, after.pipelines.get name =
    (before.pipelines.get name).filter fun row => row.device ≠ device

/-- A context, with everything created on it, that is gone for good. -/
structure TornDown (past : List (RuntimeEvent D P)) (device : ObjectId)
    (now : GraphicsRuntime D P) : Prop where
  closed : Closed now device
  resources : ∀ e ∈ past, ∀ row, CreatesResource e row →
    row.device = device → Retired GraphicsRuntime.resources now row.id
  pipelines : ∀ e ∈ past, ∀ row, CreatesPipeline e row →
    row.device = device → Retired GraphicsRuntime.pipelines now row.id

variable [GpuDriver D] {before after : GraphicsRuntime D P} {op : Op D}
  {answer : Result Reply} {past : List (RuntimeEvent D P)} {device : ObjectId}

theorem Effect.tearsDown {caps : CapabilitySet}
    (heffect : Effect before (.recoverDevice device caps) answer after)
    (hok : IsOk answer) : TearsDown device before after := by
  cases heffect with
  | quiet hanswer hsealed htables hids hdriver =>
      exact absurd trivial (hanswer hok)
  | recovered hadmin hcontext hreset =>
      exact
        { devices := fun id => Table.get_erase _ _ _
          deviceCaps := fun id => Table.get_erase _ _ _
          resources := fun name => Table.get_retain _ _ _
          shaders := fun name => Table.get_retain _ _ _
          pipelines := fun name => Table.get_retain _ _ _ }

theorem TornDown.of_recovery {caps : CapabilitySet}
    (hcontexts : ContextsIssued before) (hhistory : CreationHistory past before)
    (heffect : Effect before (.recoverDevice device caps) answer after)
    (hok : IsOk answer) : TornDown past device after := by
  have hadvances := heffect.advances
  have htears := heffect.tearsDown hok
  refine ⟨heffect.closes hcontexts hok, ?_, ?_⟩
  · intro e hmem row hcreates hdevice
    obtain ⟨hissued, hsame⟩ := hhistory.resources e hmem row hcreates
    refine ⟨hissued.mono hadvances, ?_⟩
    rw [htears.resources, Option.filter_eq_none_iff]
    intro found hfound
    simp [hsame found hfound, hdevice]
  · intro e hmem row hcreates hdevice
    obtain ⟨hissued, hsame⟩ := hhistory.pipelines e hmem row hcreates
    refine ⟨hissued.mono hadvances, ?_⟩
    rw [htears.pipelines, Option.filter_eq_none_iff]
    intro found hfound
    simp [hsame found hfound, hdevice]

theorem TornDown.preserved [FreshAllocations D]
    (htorn : TornDown past device before)
    (heffect : Effect before op answer after) :
    TornDown past device after where
  closed := htorn.closed.preserved heffect
  resources e hmem row hcreates hdevice :=
    (htorn.resources e hmem row hcreates hdevice).resource_preserved heffect
  pipelines e hmem row hcreates hdevice :=
    (htorn.pipelines e hmem row hcreates hdevice).pipeline_preserved heffect

/-! ### Refusals -/

omit [GpuDriver D] in
/-- A stream that names something torn down is not accepted. -/
theorem TornDown.not_submitReady (htorn : TornDown past device before)
    {queue : QueueHandle} {stream : CommandStream} {timeline gpu : ObjectId}
    {signalValue : Nat} {op : GraphicsOp} (hop : op ∈ stream.ops)
    (hnames : NamesObjectOf past device op) :
    ¬ SubmitReady before queue stream timeline signalValue gpu := by
  intro hready
  obtain ⟨bound, hvalid⟩ := opValid_of_mem hready.valid hop
  have hresource : ∀ name ∈ op.namedResources, (∃ e ∈ past, ∃ row,
      CreatesResource e row ∧ row.id = name ∧ row.device = device) →
        before.resources.get name = none := by
    rintro name - ⟨e, hmem, row, hcreates, rfl, hdevice⟩
    exact (htorn.resources e hmem row hcreates hdevice).absent
  cases op with
  | bindPipeline name =>
      obtain ⟨e, hmem, row, hcreates, rfl, hdevice⟩ := hnames
      obtain ⟨found, hfound, -⟩ := hvalid
      cases hfound.symm.trans
        (htorn.pipelines e hmem row hcreates hdevice).absent
  | bindResource binding name =>
      obtain ⟨other, hother, hcreated⟩ := hnames
      obtain rfl := List.mem_singleton.mp hother
      obtain ⟨found, hfound, -⟩ := hvalid
      cases hfound.symm.trans (hresource other hother hcreated)
  | copy src dst =>
      obtain ⟨other, hother, hcreated⟩ := hnames
      have hnone := hresource other hother hcreated
      obtain ⟨⟨source, hsource⟩, target, htarget⟩ := hvalid
      rcases List.mem_pair.mp hother with rfl | rfl
      · cases hsource.symm.trans hnone
      · cases htarget.symm.trans hnone
  | draw vertexCount instanceCount =>
      obtain ⟨other, hother, -⟩ := hnames
      cases hother
  | dispatch x y z =>
      obtain ⟨other, hother, -⟩ := hnames
      cases hother
  | barrier =>
      obtain ⟨other, hother, -⟩ := hnames
      cases hother

omit [GpuDriver D] in
/-- A method that starts by looking up an unknown context fails. -/
theorem fails_of_unknown {α β : Type} {reply : α → β}
    {next : GraphicsDevice → Method Error (GraphicsRuntime D P) α}
    (hunknown : before.devices.get device = none) :
    ¬ IsOk ((reply <$> (GraphicsRuntime.device device >>= next)) before).1 := by
  rw [Method.map_run, Method.bind_of_error (device_of_unknown before hunknown)]
  exact not_isOk_error _

variable [GPUDriver P]

theorem TornDown.refuses (htorn : TornDown past device before)
    (hstale : Stale past device op) : ¬ IsOk (step before op).1 := by
  have hunknown := htorn.closed.absent
  cases hstale with
  | createTimeline => exact fails_of_unknown hunknown
  | createResource kind memoryClass => exact fails_of_unknown hunknown
  | createCommandStream workload => exact fails_of_unknown hunknown
  | createShaderModule stage ir => exact fails_of_unknown hunknown
  | createPipeline shader workload => exact fails_of_unknown hunknown
  | deviceFault => exact fails_of_unknown hunknown
  | recoverDevice caps =>
      intro hok
      have heffect := step_effect before (.recoverDevice device caps)
      generalize (step before (.recoverDevice device caps)).1 = answer at *
      generalize (step before (.recoverDevice device caps)).2 = after at *
      cases heffect with
      | quiet hanswer hsealed htables hids hdriver =>
          exact absurd trivial (hanswer hok)
      | recovered hadmin hcontext hreset =>
          cases hcontext.symm.trans hunknown
  | submit queue stream timeline signalValue hdevice =>
      rw [step, perform, Method.map_run]
      apply mt isOk_map.mp
      refine (submit_refused fun gpu hready => ?_).1
      exact htorn.closed.not_submitReady hready hdevice
  | freeResource e row hmem hcreates hdevice =>
      have hretired := htorn.resources e hmem row hcreates hdevice
      rw [step, perform, Method.map_run, freeResource, Method.read_bind,
        hretired.absent, Method.okOr_none_bind]
      exact not_isOk_error _
  | submitNaming queue stream timeline signalValue op hop hnames =>
      rw [step, perform, Method.map_run]
      apply mt isOk_map.mp
      exact (submit_refused fun gpu => htorn.not_submitReady hop hnames).1

/-- What a recovery that succeeds does, at once and for ever after. -/
def RecoveryIsFinal (past : List (RuntimeEvent D P)) (e : RuntimeEvent D P) :
    Prop :=
  ∀ device caps, e.action = .recoverDevice device caps → IsOk e.answer →
    TearsDown device e.before e.after ∧
      ∀ later op, Stale past device op →
        ¬ IsOk (step (Machine.run step e.after later) op).1

/-- In every reachable state the tables fit together, and every recovery on
the way there was final. -/
theorem tables_sound_and_recovery_final [FreshAllocations D] (driver : D)
    (vramBytes : Nat) (ids : IdSource) (ops : List (Op D)) :
    let start : GraphicsRuntime D P := new driver vramBytes ids
    TablesSound (Machine.run step start ops) ∧
      Machine.Meets step start ops RecoveryIsFinal := by
  intro start
  refine ⟨tablesSound_run driver vramBytes ids ops, ?_⟩
  apply Machine.meets_of_prefixes
  rintro first op rest - device caps rfl hok
  have heffect := step_effect (Machine.run step start first)
    (.recoverDevice device caps)
  have hcontexts := (contextHistory_run (P := P) driver vramBytes ids first).issued
  have hhistory := creationHistory_run (P := P) driver vramBytes ids first
  refine ⟨heffect.tearsDown hok, fun later op hstale => ?_⟩
  have htorn := Machine.run_invariant (TornDown (Machine.trace step start first)
    device) (TornDown.of_recovery hcontexts hhistory heffect hok)
    (fun now op htorn => htorn.preserved (step_effect now op)) later
  exact htorn.refuses hstale

end Stale

namespace StaleHandles

/-- Context 1 owns resource 5 and is recovered. -/
def ops : List (Op SoftwareGpuDriver) :=
  [.createDevice ⟨0⟩ .full, .createResource ⟨1⟩ (.buffer 64 {}) .deviceLocal,
    .recoverDevice ⟨1⟩ .full]

theorem recovery_of_one_context :
    let start := sample 1 1024
    (Machine.answers step start ops).getLast? = some (.ok .unit) ∧
      TablesSound (Machine.run step start ops) ∧
        Machine.Meets step start ops RecoveryIsFinal :=
  ⟨by decide, tables_sound_and_recovery_final _ 0 _ ops⟩

end StaleHandles

end GraphicsRuntime

end SherGraphics
