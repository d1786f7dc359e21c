/-
Two runtimes side by side, over the same type of driver.  A pairing says when
two runtimes correspond under a renaming of the objects, and its laws say what
the runtime's methods rely on: corresponding rows, table updates made on both
sides, and driver methods answered alike.  From the laws alone every call is
answered alike, whatever the drivers are.
-/
import SherGraphics.GpuActions
import SherGraphics.MethodRelation
import SherGraphics.TableRenaming

namespace SherGraphics

namespace GraphicsRuntime

open Method

/-- The context of one row corresponds to the context of the other. -/
def SameContext (naming : Renaming ObjectId) (left right : ObjectId) : Prop :=
  naming.covers left ∧ naming.perm left = right

theorem SameContext.mono {naming later : Renaming ObjectId}
    {id id' : ObjectId} (hsame : SameContext naming id id')
    (hle : naming ≤ later) : SameContext later id id' :=
  ⟨Renaming.covers_of_le hle hsame.1,
    (Renaming.perm_of_le hle hsame.1).trans hsame.2⟩

theorem SameContext.ne_iff {naming : Renaming ObjectId}
    {id id' other other' : ObjectId} (hid : SameContext naming id id')
    (hother : SameContext naming other other') :
    id' ≠ other' ↔ id ≠ other := by
  rw [← hid.2, ← hother.2]
  exact naming.perm.injective.ne_iff

/-- Dropping a context keeps corresponding rows on both sides. -/
theorem SameContext.kept_eq {naming : Renaming ObjectId}
    {id id' context context' : ObjectId} (hid : SameContext naming id id')
    (hcontext : SameContext naming context context') :
    decide (context ≠ id) = decide (context' ≠ id') :=
  decide_eq_decide.mpr (hcontext.ne_iff hid).symm

variable {D P : Type}

/-- Corresponding rows of the object tables.  Contexts are only compared on
some of the GPUs, and a GPU may go by another name on the right. -/
structure SameRows (compared : ObjectId → Prop)
    (gpuName : ObjectId → ObjectId) (naming : Renaming ObjectId)
    (left right : GraphicsRuntime D P) : Prop where
  devices : RowsAgree naming
    (fun one other => other.gpu = gpuName one.gpu ∧ compared one.gpu)
    left.devices right.devices
  deviceCaps : RowsAgree naming (fun one other => other = one)
    left.deviceCaps right.deviceCaps
  resources : RowsAgree naming
    (fun one other => SameContext naming one.device other.device ∧
      other.kind = one.kind) left.resources right.resources
  shaders : RowsAgree naming
    (fun one other => SameContext naming one.device other.device)
    left.shaders right.shaders
  pipelines : RowsAgree naming
    (fun one other => SameContext naming one.device other.device)
    left.pipelines right.pipelines
  timelines : RowsAgree naming (fun one other => other = one)
    left.timelines right.timelines

/-- A relation between runtimes that the calls of the runtime respect. -/
structure RuntimePairing (D P : Type) [GpuDriver D] where
  related : Renaming ObjectId → GraphicsRuntime D P → GraphicsRuntime D P →
    Prop
  compared : ObjectId → Prop
  gpuName : ObjectId → ObjectId
  rows : ∀ {naming left right}, related naming left right →
    SameRows compared gpuName naming left right
  /-- The audit trails may differ. -/
  audited : ∀ {naming left right} (audit audit' : AuditLog),
    related naming left right →
      related naming { left with audit } { right with audit := audit' }
  drawn : ∀ {naming left right}, related naming left right →
    ∃ later, naming ≤ later ∧
      SameContext later left.ids.next right.ids.next ∧
      related later { left with ids := left.ids.advance 1 }
        { right with ids := right.ids.advance 1 }
  registered : ∀ {naming left right} {one other : GraphicsDevice}
    (caps : CapabilitySet), related naming left right →
      SameContext naming one.id other.id →
      other.gpu = gpuName one.gpu → compared one.gpu →
      related naming
        { left with
          devices := left.devices.insert one.id one
          deviceCaps := left.deviceCaps.insert one.id caps }
        { right with
          devices := right.devices.insert other.id other
          deviceCaps := right.deviceCaps.insert other.id caps }
  signaled : ∀ {naming left right} {timeline timeline' : ObjectId}
    (value : Nat), related naming left right →
      SameContext naming timeline timeline' →
      related naming
        { left with timelines := left.timelines.insert timeline value }
        { right with timelines := right.timelines.insert timeline' value }
  resourceAdded : ∀ {naming left right} {one other : Resource},
    related naming left right → SameContext naming one.id other.id →
      SameContext naming one.device other.device → other.kind = one.kind →
      related naming
        { left with resources := left.resources.insert one.id one }
        { right with resources := right.resources.insert other.id other }
  shaderAdded : ∀ {naming left right} {one other : ShaderModule},
    related naming left right → SameContext naming one.id other.id →
      SameContext naming one.device other.device →
      related naming
        { left with shaders := left.shaders.insert one.id one }
        { right with shaders := right.shaders.insert other.id other }
  pipelineAdded : ∀ {naming left right} {one other : Pipeline},
    related naming left right → SameContext naming one.id other.id →
      SameContext naming one.device other.device →
      related naming
        { left with pipelines := left.pipelines.insert one.id one }
        { right with pipelines := right.pipelines.insert other.id other }
  resourceErased : ∀ {naming left right} {id id' : ObjectId},
    related naming left right → SameContext naming id id' →
      related naming { left with resources := left.resources.erase id }
        { right with resources := right.resources.erase id' }
  dropped : ∀ {naming left right} {id id' : ObjectId},
    related naming left right → SameContext naming id id' →
      related naming (dropContext id left) (dropContext id' right)
  /-- Both sides know the GPU or neither does. -/
  probed : ∀ {naming left right} {gpu : ObjectId},
    related naming left right → compared gpu → ∃ infos infos',
      GpuDriver.probe left.driver = .ok infos ∧
      GpuDriver.probe right.driver = .ok infos' ∧
      Option.Rel (fun one other => one.id = gpu ∧ other.id = gpuName gpu)
        (infos.find? fun info => info.id = gpu)
        (infos'.find? fun info => info.id = gpuName gpu)
  initializesDevice : ∀ {naming} {info info' : DeviceInfo},
    compared info.id → info'.id = gpuName info.id →
      Simulates (· = ·) related naming (fun _ => (· = ·))
        (onDriver (GpuDriver.initializeDevice info))
        (onDriver (GpuDriver.initializeDevice info'))
  allocatesVram : ∀ {naming} {gpu : ObjectId} (size : Nat)
    (memoryClass : MemoryClass), compared gpu →
      Simulates (· = ·) related naming
        (fun later one other => SameContext later one.id other.id)
        (onDriverAndIds (GpuDriver.allocateVram gpu size memoryClass))
        (onDriverAndIds
          (GpuDriver.allocateVram (gpuName gpu) size memoryClass))
  freesVram : ∀ {naming} {id id' : ObjectId}, SameContext naming id id' →
    Simulates (· = ·) related naming (fun _ => (· = ·))
      (onDriver (GpuDriver.freeVram id)) (onDriver (GpuDriver.freeVram id'))
  resetsDevice : ∀ {naming} {gpu : ObjectId}, compared gpu →
    Simulates (· = ·) related naming (fun _ => (· = ·))
      (onDriver (GpuDriver.resetDevice gpu))
      (onDriver (GpuDriver.resetDevice (gpuName gpu)))
  submits : ∀ {naming} {gpu : ObjectId} (workload : WorkloadClass)
    (ops ops' : List DriverOp), compared gpu →
      Simulates (· = ·) related naming (fun _ => (· = ·))
        (submitToDriver gpu workload ops)
        (submitToDriver (gpuName gpu) workload ops')
  faultStatus : ∀ {naming left right} {gpu : ObjectId},
    related naming left right → compared gpu →
      GpuDriver.faultStatus right.driver (gpuName gpu) =
        (GpuDriver.faultStatus left.driver gpu).map
          (Option.map (GpuFault.withGpu gpuName))

namespace RuntimePairing

section Calls

variable [GpuDriver D] (pairing : RuntimePairing D P)
  {naming : Renaming ObjectId} {id id' : ObjectId} {α β : Type}

/-- The two methods are answered alike and keep the runtimes related. -/
abbrev Alike (naming : Renaming ObjectId)
    (values : Renaming ObjectId → α → α → Prop)
    (left right : Method Error (GraphicsRuntime D P) α) : Prop :=
  Simulates (· = ·) pairing.related naming values left right

/-- The reply on one side is the reply on the other under its new names. -/
def SameReply (naming : Renaming ObjectId) (reply reply' : Reply) : Prop :=
  (∀ id ∈ reply.names, naming.covers id) ∧
    (reply.rename naming.perm).withGpus pairing.gpuName = reply'

/-! ### Steps that the calls share -/

theorem alike_ofResult (result : Result α) :
    pairing.Alike naming (fun _ => (· = ·)) (ofResult result)
      (ofResult result) := by
  apply Simulates.ofResult
  cases result with
  | ok value => exact .ok rfl
  | error error => exact .error rfl

theorem alike_change {update other : GraphicsRuntime D P → GraphicsRuntime D P}
    (hupdate : ∀ left right, pairing.related naming left right →
      pairing.related naming (update left) (other right)) :
    pairing.Alike naming (fun _ _ _ => True) (change update)
      (change other) :=
  Simulates.change (fun _ => trivial) fun left right hrelated =>
    ⟨naming, le_rfl, hupdate left right hrelated⟩

theorem alike_log (actor actor' : ObjectId) (action : String)
    (authorized : Result Unit) :
    pairing.Alike naming (fun _ _ _ => True) (log actor action authorized)
      (log actor' action authorized) :=
  pairing.alike_change fun _ _ hrelated => pairing.audited _ _ hrelated

theorem alike_rejectIf (test : Prop) [Decidable test] (error : Error) :
    pairing.Alike naming (fun _ _ _ => True) (rejectIf test error)
      (rejectIf test error) :=
  Simulates.rejectIf trivial Iff.rfl rfl

theorem alike_newId :
    pairing.Alike naming (fun later => SameContext later) newId newId := by
  intro left right hrelated
  obtain ⟨later, hle, hnew, hafter⟩ := pairing.drawn hrelated
  exact ⟨later, hle, .ok hnew, hafter⟩

/-- A row is looked up in a table in which both sides have such rows. -/
theorem alike_row {V : Type} {rel : V → V → Prop}
    {view : GraphicsRuntime D P → Table ObjectId V} {error : Error}
    {next follow : V → Method Error (GraphicsRuntime D P) β}
    {values : Renaming ObjectId → β → β → Prop}
    (hid : SameContext naming id id')
    (hrows : ∀ left right, pairing.related naming left right →
      RowsAgree naming rel (view left) (view right))
    (hnext : ∀ found found', rel found found' →
      pairing.Alike naming values (next found) (follow found')) :
    pairing.Alike naming values
      (read view >>= fun table => okOr (table.get id) error >>= next)
      (read view >>= fun table => okOr (table.get id') error >>= follow) := by
  intro left right hrelated
  have hrow := (hrows left right hrelated).row hid.1 hid.2
  rw [read_bind, read_bind]
  generalize (view left).get id = found at hrow ⊢
  generalize (view right).get id' = found' at hrow ⊢
  cases hrow with
  | none => exact ⟨naming, le_rfl, .error rfl, hrelated⟩
  | some hrel => exact hnext _ _ hrel left right hrelated

theorem alike_device (hid : SameContext naming id id') :
    pairing.Alike naming
      (fun _ one other =>
        other.gpu = pairing.gpuName one.gpu ∧ pairing.compared one.gpu)
      (device id) (device id') := by
  intro left right hrelated
  have hrow := (pairing.rows hrelated).devices.row hid.1 hid.2
  rw [device, device, read_bind, read_bind]
  generalize left.devices.get id = found at hrow ⊢
  generalize right.devices.get id' = found' at hrow ⊢
  cases hrow with
  | none => exact ⟨naming, le_rfl, .error rfl, hrelated⟩
  | some hrel => exact ⟨naming, le_rfl, .ok hrel, hrelated⟩

/-- The GPU is looked up among the probed ones. -/
theorem alike_probe {gpu : ObjectId} (hgpu : pairing.compared gpu)
    {error : Error}
    {next follow : DeviceInfo → Method Error (GraphicsRuntime D P) β}
    {values : Renaming ObjectId → β → β → Prop}
    (hnext : ∀ info info', info.id = gpu → info'.id = pairing.gpuName gpu →
      pairing.Alike naming values (next info) (follow info')) :
    pairing.Alike naming values
      (read GraphicsRuntime.driver >>= fun driver =>
        ofResult (GpuDriver.probe driver) >>= fun known =>
          okOr (known.find? fun info => info.id = gpu) error >>= next)
      (read GraphicsRuntime.driver >>= fun driver =>
        ofResult (GpuDriver.probe driver) >>= fun known =>
          okOr (known.find? fun info => info.id = pairing.gpuName gpu)
            error >>= follow) := by
  intro left right hrelated
  obtain ⟨infos, infos', hleft, hright, hfound⟩ :=
    pairing.probed hrelated hgpu
  rw [read_bind, read_bind, hleft, hright, ofResult_ok_bind,
    ofResult_ok_bind]
  generalize (infos.find? fun info => info.id = gpu) = found at hfound ⊢
  generalize (infos'.find? fun info => info.id = pairing.gpuName gpu) =
    found' at hfound ⊢
  cases hfound with
  | none => exact ⟨naming, le_rfl, .error rfl, hrelated⟩
  | some hinfos => exact hnext _ _ hinfos.1 hinfos.2 left right hrelated

/-! ### Creating objects -/

theorem alike_createDevice {gpu : ObjectId} (hgpu : pairing.compared gpu)
    (caps : CapabilitySet) :
    pairing.Alike naming
      (fun later one other =>
        pairing.SameReply later (.device one) (.device other))
      (createDevice gpu caps) (createDevice (pairing.gpuName gpu) caps) := by
  refine Simulates.bind (pairing.alike_log _ _ _ _) fun logged _ _ _ _ => ?_
  refine Simulates.bind (pairing.alike_ofResult _) fun _ _ _ _ _ => ?_
  apply pairing.alike_probe hgpu
  rintro info info' rfl hinfo'
  refine Simulates.bind (pairing.initializesDevice hgpu hinfo')
    fun _ _ _ _ _ => ?_
  refine Simulates.bind pairing.alike_newId fun first _ one one' hone => ?_
  refine Simulates.bind pairing.alike_newId
    fun second hsecond two two' htwo => ?_
  refine Simulates.bind pairing.alike_newId
    fun third hthird three three' hthree => ?_
  refine Simulates.bind pairing.alike_newId
    fun fourth hfourth four four' hfour => ?_
  have hone := ((hone.mono hsecond).mono hthird).mono hfourth
  refine Simulates.bind (pairing.alike_change fun left right hrelated =>
    pairing.registered caps hrelated hone rfl hgpu) fun last hlast _ _ _ => ?_
  have hone := hone.mono hlast
  have htwo := ((htwo.mono hthird).mono hfourth).mono hlast
  have hthree := (hthree.mono hfourth).mono hlast
  have hfour := hfour.mono hlast
  apply Simulates.pure
  constructor
  · simp [Reply.names, hone.1, htwo.1, hthree.1, hfour.1]
  · simp [Reply.rename, Reply.withGpus, GraphicsDevice.rename,
      QueueHandle.rename, hone.2, htwo.2, hthree.2, hfour.2]

theorem alike_createTimeline (hid : SameContext naming id id') :
    pairing.Alike naming
      (fun later one other =>
        pairing.SameReply later (.timeline one) (.timeline other))
      (createTimeline id) (createTimeline id') := by
  refine Simulates.bind (pairing.alike_device hid) fun later hle _ _ _ => ?_
  refine Simulates.bind pairing.alike_newId fun drawn hdrawn one other hnew => ?_
  have hcontext := hid.mono (hle.trans hdrawn)
  refine Simulates.bind (pairing.alike_change fun left right hrelated =>
    pairing.signaled 0 hrelated hnew) fun last hlast _ _ _ => ?_
  have hnew := hnew.mono hlast
  have hcontext := hcontext.mono hlast
  apply Simulates.pure
  constructor
  · simp [Reply.names, hnew.1, hcontext.1]
  · simp [Reply.rename, Reply.withGpus, hnew.2, hcontext.2]

theorem alike_createResource (hid : SameContext naming id id')
    (kind : ResourceKind) (memoryClass : MemoryClass) :
    pairing.Alike naming
      (fun later one other =>
        pairing.SameReply later (.resource one) (.resource other))
      (createResource id kind memoryClass)
      (createResource id' kind memoryClass) := by
  refine Simulates.bind (pairing.alike_device hid) ?_
  rintro later hle found found' ⟨hsame, hgpu⟩
  rw [hsame]
  refine Simulates.bind (pairing.allocatesVram _ memoryClass hgpu)
    fun drawn hdrawn one other hnew => ?_
  have hcontext := hid.mono (hle.trans hdrawn)
  refine Simulates.bind (pairing.alike_change fun left right hrelated =>
    pairing.resourceAdded hrelated hnew hcontext rfl)
    fun last hlast _ _ _ => ?_
  have hnew := hnew.mono hlast
  have hcontext := hcontext.mono hlast
  apply Simulates.pure
  constructor
  · simp [Reply.names, hnew.1, hcontext.1]
  · simp [Reply.rename, Reply.withGpus, hnew.2, hcontext.2]

theorem alike_createCommandStream (hid : SameContext naming id id')
    (workload : WorkloadClass) :
    pairing.Alike naming
      (fun later one other =>
        pairing.SameReply later (.stream one) (.stream other))
      (createCommandStream id workload)
      (createCommandStream id' workload) := by
  refine Simulates.bind (pairing.alike_device hid) fun later hle _ _ _ => ?_
  refine Simulates.bind pairing.alike_newId fun drawn hdrawn one other hnew => ?_
  have hcontext := hid.mono (hle.trans hdrawn)
  apply Simulates.pure
  constructor
  · simp [Reply.names, hnew.1, hcontext.1]
  · simp [Reply.rename, Reply.withGpus, CommandStream.rename, hnew.2,
      hcontext.2]

theorem alike_createShaderModule (hid : SameContext naming id id')
    (stage : ShaderStage) (ir : List UInt8) :
    pairing.Alike naming
      (fun later one other =>
        pairing.SameReply later (.shader one) (.shader other))
      (createShaderModule id stage ir)
      (createShaderModule id' stage ir) := by
  refine Simulates.bind (pairing.alike_device hid) fun later hle _ _ _ => ?_
  refine Simulates.bind pairing.alike_newId fun drawn hdrawn one other hnew => ?_
  have hcontext := hid.mono (hle.trans hdrawn)
  refine Simulates.bind (pairing.alike_change fun left right hrelated =>
    pairing.shaderAdded hrelated hnew hcontext) fun last hlast _ _ _ => ?_
  have hnew := hnew.mono hlast
  have hcontext := hcontext.mono hlast
  apply Simulates.pure
  constructor
  · simp [Reply.names, hnew.1, hcontext.1]
  · simp [Reply.rename, Reply.withGpus, hnew.2, hcontext.2]

theorem alike_createPipeline {shader shader' : ObjectId}
    (hid : SameContext naming id id')
    (hshader : SameContext naming shader shader') (workload : WorkloadClass) :
    pairing.Alike naming
      (fun later one other =>
        pairing.SameReply later (.pipeline one) (.pipeline other))
      (createPipeline id shader workload)
      (createPipeline id' shader' workload) := by
  refine Simulates.bind (pairing.alike_device hid) fun later hle _ _ _ => ?_
  have hshader := hshader.mono hle
  have hread : pairing.Alike later
      (fun _ table table' => table'.contains shader' = table.contains shader)
      (read GraphicsRuntime.shaders) (read GraphicsRuntime.shaders) := by
    apply Simulates.read
    intro left right hrelated
    rw [← hshader.2]
    exact (pairing.rows hrelated).shaders.contains_eq hshader.1
  refine Simulates.bind hread fun looked hlooked table table' htable => ?_
  rw [htable]
  refine Simulates.bind (pairing.alike_rejectIf _ _)
    fun known hknown _ _ _ => ?_
  refine Simulates.bind pairing.alike_newId fun drawn hdrawn one other hnew => ?_
  have hafter := (hlooked.trans hknown).trans hdrawn
  have hcontext := hid.mono (hle.trans hafter)
  have hsource := hshader.mono hafter
  refine Simulates.bind (pairing.alike_change fun left right hrelated =>
    pairing.pipelineAdded hrelated hnew hcontext) fun last hlast _ _ _ => ?_
  have hnew := hnew.mono hlast
  have hcontext := hcontext.mono hlast
  have hsource := hsource.mono hlast
  apply Simulates.pure
  constructor
  · simp [Reply.names, hnew.1, hcontext.1, hsource.1]
  · simp [Reply.rename, Reply.withGpus, hnew.2, hcontext.2, hsource.2]

/-! ### Freeing, faults, recovery and timelines -/

theorem alike_freeResource (hid : SameContext naming id id') :
    pairing.Alike naming (fun _ => (· = ·)) (freeResource id)
      (freeResource id') := by
  refine pairing.alike_row hid
    (fun _ _ hrelated => (pairing.rows hrelated).resources)
    fun found found' _ => ?_
  refine Simulates.bind (pairing.alike_change fun left right hrelated =>
    pairing.resourceErased hrelated hid) fun later hle _ _ _ => ?_
  exact pairing.freesVram (hid.mono hle)

theorem alike_deviceFault (hid : SameContext naming id id') :
    pairing.Alike naming
      (fun _ one other =>
        other = one.map (GpuFault.withGpu pairing.gpuName))
      (deviceFault id) (deviceFault id') := by
  refine Simulates.bind (pairing.alike_device hid) ?_
  rintro later hle found found' ⟨hsame, hgpu⟩
  intro left right hrelated
  have hstatus := pairing.faultStatus hrelated hgpu
  refine ⟨later, le_rfl, ?_, hrelated⟩
  change ResultRel _ _ (GpuDriver.faultStatus left.driver found.gpu)
    (GpuDriver.faultStatus right.driver found'.gpu)
  rw [hsame, hstatus]
  cases GpuDriver.faultStatus left.driver found.gpu with
  | ok status => exact .ok rfl
  | error error => exact .error rfl

theorem alike_recoverDevice (hid : SameContext naming id id')
    (caps : CapabilitySet) :
    pairing.Alike naming (fun _ _ _ => True) (recoverDevice id caps)
      (recoverDevice id' caps) := by
  refine Simulates.bind (pairing.alike_log _ _ _ _)
    fun logged hlogged _ _ _ => ?_
  refine Simulates.bind (pairing.alike_ofResult _) fun later hle _ _ _ => ?_
  have hid := hid.mono (hlogged.trans hle)
  refine Simulates.bind (pairing.alike_device hid) ?_
  rintro looked hlooked found found' ⟨hsame, hgpu⟩
  rw [hsame]
  refine Simulates.bind (pairing.resetsDevice hgpu)
    fun last hlast _ _ _ => ?_
  exact pairing.alike_change fun left right hrelated =>
    pairing.dropped hrelated ((hid.mono hlooked).mono hlast)

theorem alike_timelineValue (hid : SameContext naming id id') :
    pairing.Alike naming (fun _ => (· = ·)) (timelineValue id)
      (timelineValue id') := by
  intro left right hrelated
  have hrow := (pairing.rows hrelated).timelines.row hid.1 hid.2
  rw [timelineValue_run, timelineValue_run]
  generalize left.timelines.get id = found at hrow ⊢
  generalize right.timelines.get id' = found' at hrow ⊢
  cases hrow with
  | none => exact ⟨naming, le_rfl, .error rfl, hrelated⟩
  | some hrel => exact ⟨naming, le_rfl, .ok hrel.symm, hrelated⟩

theorem alike_wait (hid : SameContext naming id id') (value : Nat) :
    pairing.Alike naming (fun _ _ _ => True) (wait id value)
      (wait id' value) := by
  refine Simulates.bind (pairing.alike_timelineValue hid) ?_
  rintro later hle current _ rfl
  exact pairing.alike_rejectIf _ _

end Calls

end RuntimePairing

/-! ### Submissions -/

section Validation

variable {naming : Renaming ObjectId} {id id' : ObjectId}
  {pipelines pipelines' : Table ObjectId Pipeline}
  {resources resources' : Table ObjectId Resource}
  {name : ObjectId → ObjectId}
  (hpipelines : RowsAgree naming
    (fun one other => SameContext naming one.device other.device)
    pipelines pipelines')
  (hresources : RowsAgree naming
    (fun one other => SameContext naming one.device other.device ∧
      other.kind = one.kind) resources resources')
  (hid : SameContext naming id id')

include hpipelines hresources hid

/-- The renamed operation is judged like the operation. -/
theorem validateOp_alike {bound bound' : Option ObjectId} {op : GraphicsOp}
    (hbound : bound'.isNone = bound.isNone)
    (hnames : ∀ other ∈ op.names, SameContext naming other (name other)) :
    ResultRel (· = ·)
      (fun bound bound' : Option ObjectId => bound'.isNone = bound.isNone)
      (validateOp id pipelines resources bound op)
      (validateOp id' pipelines' resources' bound' (op.rename name)) := by
  cases op with
  | bindPipeline pipeline =>
      have hname := hnames pipeline (by simp [GraphicsOp.names])
      have hrows := hpipelines.row hname.1 hname.2
      simp only [validateOp, GraphicsOp.rename]
      generalize pipelines.get pipeline = found at hrows ⊢
      generalize pipelines'.get (name pipeline) = found' at hrows ⊢
      cases hrows with
      | none => exact .error rfl
      | @some row row' hrel =>
          exact .guard (hrel.ne_iff hid).symm rfl (.ok rfl)
  | bindResource binding resource =>
      have hname := hnames resource (by simp [GraphicsOp.names])
      have hrows := hresources.row hname.1 hname.2
      simp only [validateOp, GraphicsOp.rename]
      generalize resources.get resource = found at hrows ⊢
      generalize resources'.get (name resource) = found' at hrows ⊢
      cases hrows with
      | none => exact .error rfl
      | @some row row' hrel =>
          exact .guard (hrel.1.ne_iff hid).symm rfl (.ok hbound)
  | copy src dst =>
      have hsrc := hnames src (by simp [GraphicsOp.names])
      have hdst := hnames dst (by simp [GraphicsOp.names])
      simp only [validateOp, GraphicsOp.rename]
      rw [← hsrc.2, ← hdst.2, hresources.contains_eq hsrc.1,
        hresources.contains_eq hdst.1]
      exact .guard Iff.rfl rfl (.ok hbound)
  | draw vertexCount instanceCount =>
      simp only [validateOp, GraphicsOp.rename, hbound]
      exact .guard Iff.rfl rfl (.ok hbound)
  | dispatch x y z =>
      simp only [validateOp, GraphicsOp.rename, hbound]
      exact .guard Iff.rfl rfl (.ok hbound)
  | barrier => exact .ok hbound

theorem validateOps_alike {ops : List GraphicsOp}
    {bound bound' : Option ObjectId} (hbound : bound'.isNone = bound.isNone)
    (hnames : ∀ other ∈ ops.flatMap GraphicsOp.names,
      SameContext naming other (name other)) :
    validateOps id' pipelines' resources' bound'
        (ops.map (GraphicsOp.rename name)) =
      validateOps id pipelines resources bound ops := by
  induction ops generalizing bound bound' with
  | nil => rfl
  | cons op rest ih =>
      rw [List.flatMap_cons] at hnames
      have hop := validateOp_alike hpipelines hresources hid hbound
        fun other hother => hnames other (List.mem_append_left _ hother)
      have hrest := fun other hother =>
        hnames other (List.mem_append_right _ hother)
      simp only [List.map_cons, validateOps]
      generalize validateOp id pipelines resources bound op = result at hop ⊢
      generalize validateOp id' pipelines' resources' bound' (op.rename name) =
        result' at hop ⊢
      cases hop with
      | ok hafter => exact ih hafter hrest
      | error herrors => rw [herrors]

end Validation

namespace RuntimePairing

variable [GpuDriver D] (pairing : RuntimePairing D P)
  {naming : Renaming ObjectId}

section Submit

variable {queue queue' : QueueHandle} {stream stream' : CommandStream}
  {timeline timeline' : ObjectId} {name : ObjectId → ObjectId}

/-- Both sides check the stream against their own tables. -/
theorem alike_validateStream {β : Type}
    (hcontext : SameContext naming stream.device stream'.device)
    (hops : stream'.ops = stream.ops.map (GraphicsOp.rename name))
    (hnames : ∀ other ∈ stream.ops.flatMap GraphicsOp.names,
      SameContext naming other (name other))
    {next follow : Unit → Method Error (GraphicsRuntime D P) β}
    {values : Renaming ObjectId → β → β → Prop}
    (hnext : pairing.Alike naming values (next ()) (follow ())) :
    pairing.Alike naming values
      (read GraphicsRuntime.pipelines >>= fun pipelines =>
        read GraphicsRuntime.resources >>= fun resources =>
          ofResult (validateStream stream pipelines resources) >>= next)
      (read GraphicsRuntime.pipelines >>= fun pipelines =>
        read GraphicsRuntime.resources >>= fun resources =>
          ofResult (validateStream stream' pipelines resources) >>=
            follow) := by
  intro left right hrelated
  have hrows := pairing.rows hrelated
  have hvalid : validateStream stream' right.pipelines right.resources =
      validateStream stream left.pipelines left.resources := by
    rw [validateStream, validateStream, hops]
    exact validateOps_alike hrows.pipelines hrows.resources hcontext rfl
      hnames
  rw [read_bind, read_bind, read_bind, read_bind, hvalid]
  cases validateStream stream left.pipelines left.resources with
  | ok value => exact hnext left right hrelated
  | error error => exact ⟨naming, le_rfl, .error rfl, hrelated⟩

theorem alike_submit (hqueue : queue'.workload = queue.workload)
    (hclass : stream'.targetClass = stream.targetClass)
    (hcontext : SameContext naming stream.device stream'.device)
    (htimeline : SameContext naming timeline timeline')
    (hops : stream'.ops = stream.ops.map (GraphicsOp.rename name))
    (hnames : ∀ other ∈ stream.ops.flatMap GraphicsOp.names,
      SameContext naming other (name other)) (signalValue : Nat) :
    pairing.Alike naming (fun _ _ _ => True)
      (submit queue stream timeline signalValue)
      (submit queue' stream' timeline' signalValue) := by
  unfold submit
  rw [hqueue, hclass]
  refine Simulates.bind (pairing.alike_rejectIf _ _)
    fun first hfirst _ _ _ => ?_
  have hcontext := hcontext.mono hfirst
  refine pairing.alike_row hcontext
    (fun _ _ hrelated => (pairing.rows hrelated).deviceCaps) ?_
  rintro caps _ rfl
  refine Simulates.bind (pairing.alike_log _ _ _ _)
    fun second hsecond _ _ _ => ?_
  refine Simulates.bind (pairing.alike_ofResult _)
    fun third hthird _ _ _ => ?_
  have hcontext := (hcontext.mono hsecond).mono hthird
  refine Simulates.bind (pairing.alike_device hcontext) ?_
  rintro fourth hfourth found found' ⟨hsame, hgpu⟩
  rw [hsame]
  have hle := ((hfirst.trans hsecond).trans hthird).trans hfourth
  have htimeline := htimeline.mono hle
  refine pairing.alike_row htimeline
    (fun _ _ hrelated => (pairing.rows hrelated).timelines) ?_
  rintro current _ rfl
  refine Simulates.bind (pairing.alike_rejectIf _ _)
    fun fifth hfifth _ _ _ => ?_
  have hle := hle.trans hfifth
  refine pairing.alike_validateStream ((hcontext.mono hfourth).mono hfifth)
    hops (fun other hother => (hnames other hother).mono hle) ?_
  refine Simulates.bind (pairing.submits _ _ _ hgpu)
    fun last hlast _ _ _ => ?_
  have htimeline := (htimeline.mono hfifth).mono hlast
  exact pairing.alike_change fun left right hrelated =>
    pairing.signaled signalValue hrelated htimeline

end Submit

/-! ### All calls -/

/-- A reply that hands out no name. -/
theorem alike_unit {α : Type}
    {method other : Method Error (GraphicsRuntime D P) α}
    {values : Renaming ObjectId → α → α → Prop}
    (hmethods : pairing.Alike naming values method other) :
    pairing.Alike naming pairing.SameReply ((fun _ => Reply.unit) <$> method)
      ((fun _ => Reply.unit) <$> other) :=
  Simulates.map hmethods fun _ _ _ _ _ => ⟨by simp [Reply.names], rfl⟩

/-- A call on corresponding objects is answered alike. -/
theorem alike_perform [GPUDriver P] {name : ObjectId → ObjectId} {op : Op D}
    (hapi : op.onApi = true)
    (htarget : ∀ gpu ∈ op.target, pairing.compared gpu)
    (hnames : ∀ id ∈ op.names, SameContext naming id (name id)) :
    pairing.Alike naming pairing.SameReply (perform op)
      (perform ((op.rename name).withGpus pairing.gpuName)) := by
  cases op with
  | createDevice gpu caps =>
      exact Simulates.map (pairing.alike_createDevice (htarget gpu rfl) caps)
        fun _ _ _ _ hreply => hreply
  | createTimeline device =>
      have hdevice := hnames device (by simp [Op.names])
      exact Simulates.map (pairing.alike_createTimeline hdevice)
        fun _ _ _ _ hreply => hreply
  | createResource device kind memoryClass =>
      have hdevice := hnames device (by simp [Op.names])
      exact Simulates.map (pairing.alike_createResource hdevice kind
        memoryClass) fun _ _ _ _ hreply => hreply
  | createCommandStream device workload =>
      have hdevice := hnames device (by simp [Op.names])
      exact Simulates.map (pairing.alike_createCommandStream hdevice workload)
        fun _ _ _ _ hreply => hreply
  | createShaderModule device stage ir =>
      have hdevice := hnames device (by simp [Op.names])
      exact Simulates.map (pairing.alike_createShaderModule hdevice stage ir)
        fun _ _ _ _ hreply => hreply
  | createPipeline device shader workload =>
      have hdevice := hnames device (by simp [Op.names])
      have hshader := hnames shader (by simp [Op.names])
      exact Simulates.map (pairing.alike_createPipeline hdevice hshader
        workload) fun _ _ _ _ hreply => hreply
  | submit queue stream timeline signalValue =>
      have hcontext := hnames stream.device (by simp [Op.names])
      have htimeline := hnames timeline (by simp [Op.names])
      have hops : ∀ id ∈ stream.ops.flatMap GraphicsOp.names,
          SameContext naming id (name id) := by
        intro id hid
        exact hnames id (List.mem_cons_of_mem _ (List.mem_cons_of_mem _ hid))
      have hqueue : (queue.rename name).workload = queue.workload := rfl
      have hclass : (stream.rename name).targetClass = stream.targetClass := rfl
      exact pairing.alike_unit (pairing.alike_submit hqueue hclass hcontext
        htimeline rfl hops signalValue)
  | timelineValue timeline =>
      have htimeline := hnames timeline (by simp [Op.names])
      refine Simulates.map (pairing.alike_timelineValue htimeline) ?_
      rintro later hle current _ rfl
      exact ⟨by simp [Reply.names], rfl⟩
  | wait timeline value =>
      have htimeline := hnames timeline (by simp [Op.names])
      exact pairing.alike_unit (pairing.alike_wait htimeline value)
  | freeResource resource =>
      have hresource := hnames resource (by simp [Op.names])
      exact pairing.alike_unit (pairing.alike_freeResource hresource)
  | deviceFault device =>
      have hdevice := hnames device (by simp [Op.names])
      refine Simulates.map (pairing.alike_deviceFault hdevice) ?_
      rintro later hle status _ rfl
      exact ⟨by simp [Reply.names], rfl⟩
  | recoverDevice device caps =>
      have hdevice := hnames device (by simp [Op.names])
      exact pairing.alike_unit (pairing.alike_recoverDevice hdevice caps)
  | setCursorImage connector image => cases hapi
  | registerConnector connector => cases hapi
  | presentFrame connector width height => cases hapi
  | setCursorPosition connector x y => cases hapi
  | showCursor connector => cases hapi
  | hideCursor connector => cases hapi
  | cursorState connector => cases hapi
  | driverMut caps use => cases hapi

end RuntimePairing

end GraphicsRuntime

end SherGraphics
