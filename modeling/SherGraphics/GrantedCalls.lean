/-
Which calls are granted.  Whoever has followed a run can tell of each further
call whether it will succeed and what it will answer.  Nothing of the tables is
needed for it, only the steps so far, what the display is about to do and
whether the driver is about to panic.
-/
import SherGraphics.CallHistory
import SherGraphics.StreamValidation

namespace SherGraphics

namespace GraphicsRuntime

section Record

variable {P : Type}

/-- The object was created and has not ended since. -/
def Stands (past : List (FaultyEvent P)) (object : ApiObject) : Prop :=
  Ongoing (Creates object) (Ends object) (past.map performed)

/-- A context was opened on the GPU with the capabilities, and stands. -/
def Opened (past : List (FaultyEvent P)) (id gpu : ObjectId)
    (caps : CapabilitySet) : Prop :=
  ∃ created, created.id = id ∧ created.gpu = gpu ∧
    Stands past (.context created caps)

/-- The last value that was signalled on a timeline, which starts at zero. -/
def signalled (past : List (FaultyEvent P)) (timeline : ObjectId) : Nat :=
  (signals timeline (past.map performed)).getLast?.getD 0

/-- The bytes fit into what the resources of the past have left of a GPU. -/
def FitsPool (pool : Nat) (past : List (FaultyEvent P)) (gpu : ObjectId)
    (bytes : Nat) : Prop :=
  overall (drawnBy gpu) (past.map performed) + bytes ≤
    pool + overall (givenBackBy gpu) (past.map performed)

/-- What is asked of one operation of a stream of a context, where `bound` says
whether a pipeline was bound at an earlier position. -/
def OpFits (past : List (FaultyEvent P)) (device : ObjectId) (bound : Prop) :
    GraphicsOp → Prop
  | .bindPipeline pipeline => ∃ created, created.id = pipeline ∧
      Stands past (.pipeline created) ∧ created.device = device
  | .bindResource _ resource => ∃ created, created.id = resource ∧
      Stands past (.resource created) ∧ created.device = device
  | .draw _ _ | .dispatch _ _ _ => bound
  | .copy src dst =>
      (∃ created, created.id = src ∧ Stands past (.resource created)) ∧
        ∃ created, created.id = dst ∧ Stands past (.resource created)
  | .barrier => True

def StreamFits (past : List (FaultyEvent P)) (stream : CommandStream) : Prop :=
  ∀ earlier op later, stream.ops = earlier ++ op :: later →
    OpFits past stream.device (∃ previous ∈ earlier, previous.BindsPipeline) op

/-- What a call that succeeds answers.  Only the names of what it creates are
not settled by the record, and what the display shows. -/
def Reports (past : List (FaultyEvent P)) : Op PanickingDriver → Reply → Prop
  | .createDevice gpu _, reply => ∃ name queues,
      reply = .device ⟨name, gpu, queues⟩ ∧
        queues.map QueueHandle.workload = [.graphics, .compute, .transfer]
  | .createTimeline id, reply => ∃ name, reply = .timeline ⟨name, id, 0⟩
  | .createResource id kind memoryClass, reply =>
      ∃ name, reply = .resource ⟨name, id, kind, memoryClass⟩
  | .createCommandStream id workload, reply =>
      ∃ name, reply = .stream ⟨name, id, workload, []⟩
  | .createShaderModule id stage ir, reply =>
      ∃ name, reply = .shader ⟨name, id, stage, ir⟩
  | .createPipeline id shader workload, reply =>
      ∃ name, reply = .pipeline ⟨name, id, workload, shader⟩
  | .timelineValue timeline, reply =>
      reply = .value (signalled past timeline)
  | .deviceFault id, reply => ∃ status, reply = .fault status ∧
      ∀ gpu caps, Opened past id gpu caps →
        ((∃ fault, status = some fault) ↔ Broken past gpu)
  | .cursorState _, _ | .presentFrame _ _ _, _ | .driverMut _ _, _ => True
  | _, reply => reply = .unit

/-- What the driver and the display are about to do. -/
structure Outlook (P : Type) where
  panics : Prop
  display : P

variable [GPUDriver P]

/-- The display knows the connector. -/
def Outlook.Connected (outlook : Outlook P) (connector : ObjectId) : Prop :=
  (GPUDriver.getConnector outlook.display connector).isSome = true

/-- The call succeeds, as far as the record tells. -/
def Granted (installed : ObjectId → Prop) (pool : Nat)
    (past : List (FaultyEvent P)) (outlook : Outlook P) :
    Op PanickingDriver → Prop
  | .createDevice gpu caps =>
      caps.hasCapability .gpuMemoryAlloc = true ∧ installed gpu
  | .createTimeline id | .createCommandStream id _
  | .createShaderModule id _ _ | .deviceFault id =>
      ∃ gpu caps, Opened past id gpu caps
  | .createResource id kind _ => ∃ gpu caps, Opened past id gpu caps ∧
      FitsPool pool past gpu (resourceSize kind)
  | .createPipeline id shader _ => (∃ gpu caps, Opened past id gpu caps) ∧
      ∃ created, created.id = shader ∧ Stands past (.shader created)
  | .submit queue stream timeline signalValue =>
      stream.targetClass = queue.workload ∧
        (∃ gpu caps, Opened past stream.device gpu caps ∧
          caps.hasCapability .gpuCommandSubmit = true ∧ ¬ Broken past gpu) ∧
        Stands past (.timeline timeline) ∧
          signalled past timeline < signalValue ∧ StreamFits past stream ∧
            ¬ outlook.panics
  | .timelineValue timeline => Stands past (.timeline timeline)
  | .wait timeline value =>
      Stands past (.timeline timeline) ∧ value ≤ signalled past timeline
  | .freeResource name =>
      ∃ created, created.id = name ∧ Stands past (.resource created)
  | .setCursorImage connector image =>
      (∃ created, created.id = image ∧ Stands past (.resource created) ∧
        isImage created.kind = true) ∧ outlook.Connected connector
  | .setCursorPosition connector _ _ | .showCursor connector
  | .hideCursor connector | .cursorState connector =>
      outlook.Connected connector
  | .registerConnector connector =>
      IsOk (GPUDriver.registerConnector connector outlook.display).1
  | .presentFrame connector width height =>
      IsOk (PresentationBridge.present connector width height
        ⟨outlook.display⟩).1
  | .recoverDevice id caps => caps.hasCapability .gpuAdmin = true ∧
      ∃ gpu granted, Opened past id gpu granted
  | .driverMut caps _ => caps.hasCapability .gpuAdmin = true

/-! ### The record and the tables -/

section Tables

omit [GPUDriver P]

variable {installed : ObjectId → Prop} {pool : Nat}
  {past : List (FaultyEvent P)} {now : FaultyRuntime P}

namespace CallHistory

theorem opened_iff (hhistory : CallHistory installed pool past now)
    {id gpu : ObjectId} {caps : CapabilitySet} :
    Opened past id gpu caps ↔ ∃ found, now.devices.get id = some found ∧
      found.gpu = gpu ∧ now.deviceCaps.get id = some caps := by
  constructor
  · rintro ⟨created, rfl, rfl, hstands⟩
    obtain ⟨hcontext, hcaps⟩ := (hhistory.objects.live _).mpr hstands
    exact ⟨created, hcontext, rfl, hcaps⟩
  · rintro ⟨found, hcontext, rfl, hcaps⟩
    have hname : found.id = id := hhistory.sound.devices id found hcontext
    subst hname
    exact ⟨found, rfl, rfl, (hhistory.objects.live _).mp ⟨hcontext, hcaps⟩⟩

theorem context_iff (hhistory : CallHistory installed pool past now)
    {id : ObjectId} :
    (∃ gpu caps, Opened past id gpu caps) ↔
      ∃ found, now.devices.get id = some found := by
  constructor
  · rintro ⟨gpu, caps, hopened⟩
    obtain ⟨found, hcontext, -⟩ := hhistory.opened_iff.mp hopened
    exact ⟨found, hcontext⟩
  · rintro ⟨found, hcontext⟩
    obtain ⟨caps, hcaps⟩ := (hhistory.sound.paired id).mp ⟨found, hcontext⟩
    exact ⟨found.gpu, caps,
      hhistory.opened_iff.mpr ⟨found, hcontext, rfl, hcaps⟩⟩

theorem resource_iff (hhistory : CallHistory installed pool past now)
    {name : ObjectId} {wanted : Resource → Prop} :
    (∃ created, created.id = name ∧ Stands past (.resource created) ∧
      wanted created) ↔
        ∃ row, now.resources.get name = some row ∧ wanted row := by
  constructor
  · rintro ⟨created, rfl, hstands, hwanted⟩
    exact ⟨created, (hhistory.objects.live _).mpr hstands, hwanted⟩
  · rintro ⟨row, hrow, hwanted⟩
    have hname : row.id = name := hhistory.sound.resources name row hrow
    subst hname
    exact ⟨row, rfl, (hhistory.objects.live (.resource row)).mp hrow, hwanted⟩

theorem known_resource_iff (hhistory : CallHistory installed pool past now)
    {name : ObjectId} :
    (∃ created, created.id = name ∧ Stands past (.resource created)) ↔
      ∃ row, now.resources.get name = some row := by
  have hiff : (∃ created, created.id = name ∧
      Stands past (.resource created) ∧ True) ↔
        ∃ row, now.resources.get name = some row ∧ True :=
    hhistory.resource_iff
  simpa only [and_true] using hiff

theorem shader_iff (hhistory : CallHistory installed pool past now)
    {name : ObjectId} :
    (∃ created, created.id = name ∧ Stands past (.shader created)) ↔
      ∃ row, now.shaders.get name = some row := by
  constructor
  · rintro ⟨created, rfl, hstands⟩
    exact ⟨created, (hhistory.objects.live _).mpr hstands⟩
  · rintro ⟨row, hrow⟩
    have hname : row.id = name := hhistory.sound.shaders name row hrow
    subst hname
    exact ⟨row, rfl, (hhistory.objects.live (.shader row)).mp hrow⟩

theorem pipeline_iff (hhistory : CallHistory installed pool past now)
    {name device : ObjectId} :
    (∃ created, created.id = name ∧ Stands past (.pipeline created) ∧
      created.device = device) ↔
        ∃ row, now.pipelines.get name = some row ∧ row.device = device := by
  constructor
  · rintro ⟨created, rfl, hstands, hdevice⟩
    exact ⟨created, (hhistory.objects.live _).mpr hstands, hdevice⟩
  · rintro ⟨row, hrow, hdevice⟩
    have hname : row.id = name := hhistory.sound.pipelines name row hrow
    subst hname
    exact ⟨row, rfl, (hhistory.objects.live (.pipeline row)).mp hrow, hdevice⟩

theorem timeline_iff (hhistory : CallHistory installed pool past now)
    {timeline : ObjectId} :
    Stands past (.timeline timeline) ↔
      ∃ value, now.timelines.get timeline = some value :=
  (hhistory.objects.live (.timeline timeline)).symm

theorem signalled_eq (hhistory : CallHistory installed pool past now)
    {timeline : ObjectId} {value : Nat}
    (hrow : now.timelines.get timeline = some value) :
    signalled past timeline = value := by
  have hsignals := hhistory.timelines.rows timeline
  rw [hrow] at hsignals
  exact hsignals.latest.symm

/-- A timeline of the record, together with a bound on what it has signalled. -/
theorem timeline_at (hhistory : CallHistory installed pool past now)
    {timeline : ObjectId} {bound : Nat → Prop} :
    (Stands past (.timeline timeline) ∧ bound (signalled past timeline)) ↔
      ∃ current, now.timelines.get timeline = some current ∧
        bound current := by
  rw [hhistory.timeline_iff]
  constructor
  · rintro ⟨⟨current, hrow⟩, hbound⟩
    rw [hhistory.signalled_eq hrow] at hbound
    exact ⟨current, hrow, hbound⟩
  · rintro ⟨current, hrow, hbound⟩
    rw [hhistory.signalled_eq hrow]
    exact ⟨⟨current, hrow⟩, hbound⟩

theorem opFits_iff (hhistory : CallHistory installed pool past now)
    {device : ObjectId} {bound : Prop} (op : GraphicsOp) :
    OpFits past device bound op ↔
      OpValid device now.pipelines now.resources bound op := by
  cases op with
  | bindPipeline pipeline => exact hhistory.pipeline_iff
  | bindResource binding resource => exact hhistory.resource_iff
  | copy src dst =>
      exact and_congr hhistory.known_resource_iff hhistory.known_resource_iff
  | draw vertexCount instanceCount => exact Iff.rfl
  | dispatch x y z => exact Iff.rfl
  | barrier => exact Iff.rfl

theorem streamFits_iff (hhistory : CallHistory installed pool past now)
    (stream : CommandStream) :
    StreamFits past stream ↔
      validateStream stream now.pipelines now.resources = .ok () := by
  rw [validateStream_eq_ok_iff, StreamFits]
  apply forall_congr'
  intro earlier
  apply forall_congr'
  intro op
  apply forall_congr'
  intro later
  exact imp_congr_right fun _ => hhistory.opFits_iff op

end CallHistory

end Tables

/-! ### The calls one by one -/

section Calls

variable {installed : ObjectId → Prop} {pool : Nat}
  {past : List (FaultyEvent P)} {now : FaultyRuntime P}

/-- What is about to happen, as the runtime's driver and display stand. -/
def outlook (now : FaultyRuntime P) : Outlook P where
  panics := ∃ payload, now.driver.schedule now.driver.submits = some payload
  display := now.presentation.display

omit [GPUDriver P] in
/-- A call that asks for a live context and for nothing else. -/
theorem device_bind_isOk {α : Type} {id : ObjectId}
    {next : GraphicsDevice → Method Error (FaultyRuntime P) α}
    (hnext : ∀ found, now.devices.get id = some found →
      IsOk (next found now).1) :
    IsOk ((device id >>= next) now).1 ↔
      ∃ found, now.devices.get id = some found := by
  cases hcontext : now.devices.get id with
  | none =>
      rw [Method.bind_of_error (device_of_unknown now hcontext)]
      exact iff_of_false (not_isOk_error _) (by simp)
  | some found =>
      rw [Method.bind_of_ok (device_of_live now hcontext)]
      exact iff_of_true (hnext found hcontext) ⟨found, rfl⟩

/-- A call that asks for a connector of the display and for nothing else. -/
theorem connector_bind_isOk {α : Type} {connector : ObjectId}
    {next : Method Error (FaultyRuntime P) α} (hnext : IsOk (next now).1) :
    IsOk ((do
      let known ← Method.read fun runtime : FaultyRuntime P =>
        runtime.presentation.hasConnector connector
      Method.rejectIf (known = false)
        (.device "unknown presentation connector")
      next : Method Error (FaultyRuntime P) α) now).1 ↔
        (outlook now).Connected connector := by
  rw [Method.read_bind]
  cases hknown : now.presentation.hasConnector connector with
  | false =>
      rw [Method.rejectIf_bind_of_pos _ _ _ rfl]
      refine iff_of_false (not_isOk_error _) ?_
      intro hconnected
      cases hknown.symm.trans hconnected
  | true =>
      rw [Method.rejectIf_bind_of_neg _ _ _ Bool.noConfusion]
      exact iff_of_true hnext hknown

theorem cursorMut_isOk (connector : ObjectId)
    (update : CursorState → CursorState) :
    IsOk (cursorMut connector update now).1 ↔
      (outlook now).Connected connector :=
  connector_bind_isOk (isOk_ok _)

theorem cursorState_isOk (connector : ObjectId) :
    IsOk (cursorState connector now).1 ↔
      (outlook now).Connected connector :=
  connector_bind_isOk (isOk_ok _)

theorem setCursorImage_isOk (connector image : ObjectId) :
    IsOk (setCursorImage connector image now).1 ↔
      (∃ row, now.resources.get image = some row ∧ isImage row.kind = true) ∧
        (outlook now).Connected connector := by
  rw [setCursorImage, Method.read_bind]
  cases hrow : now.resources.get image with
  | none =>
      rw [Method.okOr_none_bind]
      exact iff_of_false (not_isOk_error _) (by simp)
  | some row =>
      rw [Method.okOr_some_bind]
      cases himage : isImage row.kind with
      | false =>
          rw [Method.rejectIf_bind_of_pos _ _ _ rfl]
          refine iff_of_false (not_isOk_error _) ?_
          rintro ⟨⟨other, hother, hkind⟩, -⟩
          cases hother
          cases himage.symm.trans hkind
      | true =>
          rw [Method.rejectIf_bind_of_neg _ _ _ Bool.noConfusion,
            cursorMut_isOk]
          exact (and_iff_right ⟨row, rfl, himage⟩).symm

omit [GPUDriver P] in
theorem unit_of_ok {α : Type} {method : Method Error (FaultyRuntime P) α}
    {reply : Reply}
    (hok : (((fun _ => Reply.unit) <$> method) now).1 = .ok reply) :
    reply = .unit := by
  rw [Method.map_run] at hok
  cases hresult : (method now).1 with
  | error error =>
      rw [hresult] at hok
      cases hok
  | ok value =>
      rw [hresult] at hok
      cases hok
      rfl

/-- A call that changes the tables answers with what was asked for. -/
theorem reports_of_mutates {op : Op PanickingDriver} {reply : Reply}
    (hmutates : op.Mutates) (hok : (step now op).1 = .ok reply) :
    Reports past op reply := by
  have heffect := step_effect now op
  generalize (step now op).1 = answer at hok heffect
  generalize (step now op).2 = after at heffect
  cases heffect with
  | quiet hanswer hsealed htables hids hdriver =>
      exact absurd hmutates (hanswer ⟨reply, hok⟩)
  | borrowed hadmin => exact absurd hmutates id
  | notBorrowed hdenied => exact absurd hmutates id
  | createdDevice hgranted hprobe hfind =>
      cases hok
      exact ⟨_, _, rfl, rfl⟩
  | createdTimeline hcontext =>
      cases hok
      exact ⟨_, rfl⟩
  | createdResource hcontext hallocated =>
      cases hok
      exact ⟨_, rfl⟩
  | createdShader hcontext =>
      cases hok
      exact ⟨_, rfl⟩
  | createdPipeline hcontext hshader =>
      cases hok
      exact ⟨_, rfl⟩
  | submitted hready haccepted =>
      cases hok
      rfl
  | panicked hready hpanicked => cases hok
  | @freed name row hrow =>
      cases hfreed : (GpuDriver.freeVram name now.driver).1 with
      | error error =>
          rw [hfreed] at hok
          cases hok
      | ok value =>
          rw [hfreed] at hok
          cases hok
          rfl
  | recovered hadmin hcontext hreset =>
      cases hok
      rfl

namespace CallHistory

variable (hhistory : CallHistory installed pool past now)

include hhistory

theorem createDevice_isOk (gpu : ObjectId) (caps : CapabilitySet) :
    IsOk (step now (.createDevice gpu caps)).1 ↔
      caps.hasCapability .gpuMemoryAlloc = true ∧ installed gpu := by
  constructor
  · intro hok
    have heffect := step_effect now (.createDevice gpu caps)
    generalize (step now (.createDevice gpu caps)).1 = answer at hok heffect
    generalize (step now (.createDevice gpu caps)).2 = after at heffect
    cases heffect with
    | quiet hanswer hsealed htables hids hdriver =>
        exact absurd trivial (hanswer hok)
    | createdDevice hgranted hprobe hfind =>
        exact ⟨hgranted, (hhistory.present gpu).mp
          (hhistory.known.of_probe hprobe hfind)⟩
  · rintro ⟨hgranted, hinstalled⟩
    have hgpu := (hhistory.present gpu).mpr hinstalled
    rw [step, perform, Method.map_run, isOk_map,
      hhistory.known.createDevice_ok hgranted hgpu]
    exact isOk_ok _

omit [GPUDriver P] in
theorem opened_at {id : ObjectId} {found : GraphicsDevice}
    (hcontext : now.devices.get id = some found) {wanted : ObjectId → Prop} :
    (∃ gpu caps, Opened past id gpu caps ∧ wanted gpu) ↔ wanted found.gpu := by
  constructor
  · rintro ⟨gpu, caps, hopened, hwanted⟩
    obtain ⟨row, hlive, rfl, -⟩ := hhistory.opened_iff.mp hopened
    cases hcontext.symm.trans hlive
    exact hwanted
  · intro hwanted
    obtain ⟨caps, hcaps⟩ := (hhistory.sound.paired id).mp ⟨found, hcontext⟩
    exact ⟨found.gpu, caps,
      hhistory.opened_iff.mpr ⟨found, hcontext, rfl, hcaps⟩, hwanted⟩

theorem createResource_isOk (id : ObjectId) (kind : ResourceKind)
    (memoryClass : MemoryClass) :
    IsOk (step now (.createResource id kind memoryClass)).1 ↔
      ∃ gpu caps, Opened past id gpu caps ∧
        FitsPool pool past gpu (resourceSize kind) := by
  rw [step, perform, Method.map_run, isOk_map]
  cases hcontext : now.devices.get id with
  | none =>
      rw [createResource_of_unknown now hcontext]
      refine iff_of_false (not_isOk_error _) ?_
      rintro ⟨gpu, caps, hopened, -⟩
      obtain ⟨found, hlive, -⟩ := hhistory.opened_iff.mp hopened
      cases hcontext.symm.trans hlive
  | some found =>
      obtain ⟨state, hgpu⟩ := hhistory.known.known id found hcontext
      obtain ⟨listed, info, hprobe, hfind, hid⟩ :=
        hhistory.known.probe_finds hgpu
      have hprobed : Probed now.driver found.gpu :=
        ⟨listed, info, hprobe, List.mem_of_find?_eq_some hfind, hid⟩
      obtain ⟨available, hpool⟩ := hhistory.books.accounted hprobed
      have hmoved := hpool.moved
      rw [hhistory.opened_at hcontext, FitsPool,
        hpool.grants id found kind memoryClass hcontext rfl]
      omega

theorem createPipeline_isOk (id shader : ObjectId) (workload : WorkloadClass) :
    IsOk (step now (.createPipeline id shader workload)).1 ↔
      (∃ gpu caps, Opened past id gpu caps) ∧
        ∃ created, created.id = shader ∧ Stands past (.shader created) := by
  rw [step, perform, Method.map_run, isOk_map, hhistory.context_iff,
    hhistory.shader_iff]
  constructor
  · intro hok
    rw [createPipeline] at hok
    cases hcontext : now.devices.get id with
    | none =>
        rw [Method.bind_of_error (device_of_unknown now hcontext)] at hok
        exact absurd hok (not_isOk_error _)
    | some found =>
        refine ⟨⟨found, rfl⟩, ?_⟩
        rw [Method.bind_of_ok (device_of_live now hcontext),
          Method.read_bind] at hok
        cases hshader : now.shaders.get shader with
        | some row => exact ⟨row, rfl⟩
        | none =>
            rw [Method.rejectIf_bind_of_pos _ _ _
              (by simp [Table.contains, hshader])] at hok
            exact absurd hok (not_isOk_error _)
  · rintro ⟨⟨found, hcontext⟩, source, hshader⟩
    rw [createPipeline_of_known now workload hcontext hshader]
    exact isOk_ok _

theorem submit_isOk (queue : QueueHandle) (stream : CommandStream)
    (timeline : ObjectId) (signalValue : Nat) :
    IsOk (step now (.submit queue stream timeline signalValue)).1 ↔
      Granted installed pool past (outlook now)
        (.submit queue stream timeline signalValue) := by
  rw [Granted, hhistory.streamFits_iff]
  constructor
  · intro hok
    have heffect := step_effect now (.submit queue stream timeline signalValue)
    generalize (step now (.submit queue stream timeline signalValue)).1 =
      answer at hok heffect
    generalize (step now (.submit queue stream timeline signalValue)).2 =
      after at heffect
    cases heffect with
    | quiet hanswer hsealed htables hids hdriver =>
        exact absurd trivial (hanswer hok)
    | panicked hready hpanicked => exact absurd hok (not_isOk_error _)
    | @submitted _ _ _ gpu _ driver hready haccepted =>
        obtain ⟨found, hcontext, rfl⟩ := hready.context
        obtain ⟨caps, hcaps, hgranted⟩ := hready.granted
        have hinstalled := (hhistory.present found.gpu).mp
          (hhistory.known.known _ found hcontext)
        have hraised := hhistory.timeline_at.mpr hready.increases
        refine ⟨hready.class_eq, ⟨found.gpu, caps, hhistory.opened_iff.mpr
          ⟨found, hcontext, rfl, hcaps⟩, hgranted, ?_⟩, hraised.1, hraised.2,
          hready.valid, ?_⟩
        · rw [← hhistory.faults _ hinstalled]
          rintro ⟨fault, hfault⟩
          exact not_accepted_of_faulted hfault haccepted
        · rintro ⟨payload, hpanics⟩
          have houtcome := congrArg Prod.fst haccepted
          change (PanickingDriver.submit _ _ _ now.driver).1 = _ at houtcome
          rw [PanickingDriver.submit, hpanics] at houtcome
          cases houtcome
  · rintro ⟨hclass, ⟨gpu, caps, hopened, hgranted, hsound⟩, hstands, hraises,
      hvalid, hquiet⟩
    obtain ⟨found, hcontext, rfl, hcaps⟩ := hhistory.opened_iff.mp hopened
    obtain ⟨state, hgpu⟩ := hhistory.known.known _ found hcontext
    have hready : SubmitReady now queue stream timeline signalValue found.gpu :=
      { class_eq := hclass
        granted := ⟨caps, hcaps, hgranted⟩
        context := ⟨found, hcontext, rfl⟩
        increases := hhistory.timeline_at.mp ⟨hstands, hraises⟩
        valid := hvalid }
    have hclear : faultOf now found.gpu = none := by
      rw [← hhistory.faults _ ((hhistory.present _).mp ⟨state, hgpu⟩)] at hsound
      exact Option.eq_none_iff_forall_ne_some.mpr fun fault hfault =>
        hsound ⟨fault, hfault⟩
    have hreturns : ∀ payload, (GpuDriver.submit found.gpu queue.workload
        (translateOps stream.ops) now.driver).1 ≠ .panicked payload := by
      intro payload hpanicked
      change (PanickingDriver.submit _ _ _ now.driver).1 = _ at hpanicked
      rw [PanickingDriver.submit] at hpanicked
      cases hschedule : now.driver.schedule now.driver.submits with
      | none =>
          rw [hschedule, SoftwareGpuDriver.submit_of_clear _ hgpu hclear]
            at hpanicked
          cases hpanicked
      | some other => exact hquiet ⟨other, hschedule⟩
    obtain ⟨driver, haccepted⟩ := accepted_of_clear hgpu hclear hreturns
    rw [step, perform, Method.map_run, isOk_map,
      submit_of_accepted now hready haccepted]
    exact isOk_ok _

theorem freeResource_isOk (name : ObjectId) :
    IsOk (step now (.freeResource name)).1 ↔
      ∃ created, created.id = name ∧ Stands past (.resource created) := by
  rw [step, perform, Method.map_run, isOk_map, hhistory.known_resource_iff]
  cases hrow : now.resources.get name with
  | none =>
      rw [freeResource_of_unknown now hrow]
      exact iff_of_false (not_isOk_error _) (by simp)
  | some row =>
      have hinvariant := hhistory.books.invariant
      obtain ⟨-, allocation, -, hlive, -⟩ := hinvariant.backed name row hrow
      rw [freeResource_of_known now hrow]
      refine iff_of_true ?_ ⟨row, rfl⟩
      rcases hinvariant.books.freeVram_cases name with
        ⟨other, left, after, -, -, hrun, -⟩ | ⟨hnone, -⟩
      · rw [hrun]
        exact isOk_ok _
      · cases hlive.symm.trans hnone

theorem recoverDevice_isOk (id : ObjectId) (caps : CapabilitySet) :
    IsOk (step now (.recoverDevice id caps)).1 ↔
      caps.hasCapability .gpuAdmin = true ∧
        ∃ gpu granted, Opened past id gpu granted := by
  rw [hhistory.context_iff]
  constructor
  · intro hok
    have heffect := step_effect now (.recoverDevice id caps)
    generalize (step now (.recoverDevice id caps)).1 = answer at hok heffect
    generalize (step now (.recoverDevice id caps)).2 = after at heffect
    cases heffect with
    | quiet hanswer hsealed htables hids hdriver =>
        exact absurd trivial (hanswer hok)
    | recovered hadmin hcontext hreset => exact ⟨hadmin, _, hcontext⟩
  · rintro ⟨hadmin, found, hcontext⟩
    obtain ⟨state, hgpu⟩ := hhistory.known.known id found hcontext
    have hrun := recoverDevice_of_live now hadmin hcontext
    rw [PanickingDriver.resetDevice_of_known now.driver hgpu] at hrun
    rw [step, perform, Method.map_run, isOk_map, hrun]
    exact isOk_ok _

/-- Every call succeeds exactly if it is granted. -/
theorem granted (op : FaultyOp) :
    IsOk (faultyStep now op).1 ↔
      Granted installed pool past (outlook now) op.toOp := by
  rw [faultyStep]
  cases op with
  | inject caps gpu address description =>
      rw [FaultyOp.toOp, step, perform, driverMut, Granted]
      rcases requireCapability_cases caps .gpuAdmin with
        ⟨hgranted, hcheck⟩ | ⟨hdenied, error, hcheck⟩
      · rw [hcheck, Method.ofResult_ok_bind]
        exact iff_of_true (isOk_ok _) hgranted
      · rw [hcheck, Method.ofResult_error_bind]
        refine iff_of_false (not_isOk_error _) ?_
        intro hgranted
        cases hdenied.symm.trans hgranted
  | call op =>
      obtain ⟨op, hsealed⟩ := op
      rw [FaultyOp.toOp]
      cases op with
      | createDevice gpu caps => exact hhistory.createDevice_isOk gpu caps
      | createResource id kind memoryClass =>
          exact hhistory.createResource_isOk id kind memoryClass
      | createPipeline id shader workload =>
          exact hhistory.createPipeline_isOk id shader workload
      | submit queue stream timeline signalValue =>
          exact hhistory.submit_isOk queue stream timeline signalValue
      | freeResource name => exact hhistory.freeResource_isOk name
      | recoverDevice id caps => exact hhistory.recoverDevice_isOk id caps
      | driverMut caps use => exact absurd hsealed id
      | createTimeline id =>
          rw [step, perform, Method.map_run, isOk_map, Granted,
            hhistory.context_iff, createTimeline]
          exact device_bind_isOk fun found hcontext => isOk_ok _
      | createCommandStream id workload =>
          rw [step, perform, Method.map_run, isOk_map, Granted,
            hhistory.context_iff, createCommandStream]
          exact device_bind_isOk fun found hcontext => isOk_ok _
      | createShaderModule id stage ir =>
          rw [step, perform, Method.map_run, isOk_map, Granted,
            hhistory.context_iff, createShaderModule]
          exact device_bind_isOk fun found hcontext => isOk_ok _
      | deviceFault id =>
          rw [step, perform, Method.map_run, isOk_map, Granted,
            hhistory.context_iff, deviceFault]
          apply device_bind_isOk
          intro found hcontext
          obtain ⟨state, hgpu⟩ := hhistory.known.known id found hcontext
          exact ⟨_, SoftwareGpuDriver.faultStatus_of_known _ hgpu⟩
      | timelineValue timeline =>
          rw [step, perform, Method.map_run, isOk_map, Granted,
            hhistory.timeline_iff]
          exact exists_congr fun value => timelineValue_eq_ok
      | wait timeline value =>
          rw [step, perform, Method.map_run, isOk_map, Granted, wait_isOk]
          exact hhistory.timeline_at.symm
      | setCursorImage connector image =>
          rw [step, perform, Method.map_run, isOk_map, Granted,
            setCursorImage_isOk, hhistory.resource_iff]
      | setCursorPosition connector x y =>
          rw [step, perform, Method.map_run, isOk_map, Granted]
          exact cursorMut_isOk connector _
      | showCursor connector =>
          rw [step, perform, Method.map_run, isOk_map, Granted]
          exact cursorMut_isOk connector _
      | hideCursor connector =>
          rw [step, perform, Method.map_run, isOk_map, Granted]
          exact cursorMut_isOk connector _
      | cursorState connector =>
          rw [step, perform, Method.map_run, isOk_map, Granted]
          exact cursorState_isOk connector
      | registerConnector connector =>
          rw [step, perform, Method.map_run, isOk_map, Granted]
          exact Iff.rfl
      | presentFrame connector width height =>
          rw [step, perform, Method.map_run, isOk_map, Granted]
          exact Iff.rfl

/-- Every call that succeeds answers what the record tells. -/
theorem reports (op : FaultyOp) {reply : Reply}
    (hok : (faultyStep now op).1 = .ok reply) :
    Reports past op.toOp reply := by
  rw [faultyStep] at hok
  cases op with
  | inject caps gpu address description => trivial
  | call op =>
      obtain ⟨op, hsealed⟩ := op
      rw [FaultyOp.toOp] at hok ⊢
      by_cases hmutates : op.Mutates
      · exact reports_of_mutates hmutates hok
      · cases op with
        | createCommandStream id workload =>
            rw [step, perform, Method.map_run, createCommandStream] at hok
            cases hcontext : now.devices.get id with
            | none =>
                rw [Method.bind_of_error (device_of_unknown now hcontext)]
                  at hok
                cases hok
            | some found =>
                rw [Method.bind_of_ok (device_of_live now hcontext)] at hok
                cases hok
                exact ⟨_, rfl⟩
        | deviceFault id =>
            rw [step, perform, Method.map_run] at hok
            cases hcontext : now.devices.get id with
            | none =>
                rw [deviceFault,
                  Method.bind_of_error (device_of_unknown now hcontext)] at hok
                cases hok
            | some found =>
                rw [deviceFault_of_live hhistory.known hcontext] at hok
                cases hok
                refine ⟨_, rfl, ?_⟩
                intro gpu caps hopened
                obtain ⟨row, hlive, rfl, -⟩ := hhistory.opened_iff.mp hopened
                cases hcontext.symm.trans hlive
                exact hhistory.faults _ ((hhistory.present _).mp
                  (hhistory.known.known id found hcontext))
        | timelineValue timeline =>
            rw [step, perform, Method.map_run, timelineValue_run] at hok
            cases hrow : now.timelines.get timeline with
            | none =>
                rw [hrow] at hok
                cases hok
            | some value =>
                rw [hrow] at hok
                cases hok
                exact congrArg Reply.value (hhistory.signalled_eq hrow).symm
        | wait timeline value => exact unit_of_ok hok
        | registerConnector connector => exact unit_of_ok hok
        | setCursorImage connector image => exact unit_of_ok hok
        | setCursorPosition connector x y => exact unit_of_ok hok
        | showCursor connector => exact unit_of_ok hok
        | hideCursor connector => exact unit_of_ok hok
        | cursorState connector => trivial
        | presentFrame connector width height => trivial
        | driverMut caps use => trivial
        | _ => exact absurd trivial hmutates

end CallHistory

end Calls

/-- In every run, over a driver that may panic and GPUs that may break, each
call succeeds exactly if the calls and answers before it grant it, and then
answers what they tell. -/
theorem calls_foretold
    (count vramBytesPerDevice presentationVramBytes : Nat)
    (schedule : Nat → Option PanicPayload) (ids : IdSource)
    (ops : List FaultyOp) (op : FaultyOp) :
    let start : FaultyRuntime P := overPanicking count vramBytesPerDevice
      presentationVramBytes schedule ids
    let past := Machine.trace faultyStep start ops
    let now := Machine.run faultyStep start ops
    (IsOk (faultyStep now op).1 ↔ Granted (InstalledBy count ids)
      vramBytesPerDevice past (outlook now) op.toOp) ∧
      ∀ reply, (faultyStep now op).1 = .ok reply →
        Reports past op.toOp reply := by
  intro start past now
  have hhistory := callHistory_run (P := P) count vramBytesPerDevice
    presentationVramBytes schedule ids ops
  exact ⟨hhistory.granted op, fun reply hok => hhistory.reports op hok⟩

end Record

end GraphicsRuntime

end SherGraphics
