/-
What the runtime holds is what the history says.  A context, timeline, resource,
shader or pipeline is in the tables, as it was when it was handed out, exactly
if the call that created it is in the past and no call has ended it since.  No
call ends a timeline.
-/
import SherGraphics.CursorImages
import SherGraphics.HandedOut
import SherGraphics.Ongoing
import SherGraphics.Teardown
import SherGraphics.TimelineHistory

namespace SherGraphics

/-- What an application creates, as it is handed out.  The table of timelines
keeps no more of a timeline than its name and its value. -/
inductive ApiObject where
  | context (created : GraphicsDevice) (caps : CapabilitySet)
  | timeline (id : ObjectId)
  | resource (created : Resource)
  | shader (created : ShaderModule)
  | pipeline (created : Pipeline)

/-- The context that takes the object with it when it is recovered. -/
def ApiObject.owner : ApiObject → Option ObjectId
  | .context created _ => some created.id
  | .timeline _ => none
  | .resource created => some created.device
  | .shader created => some created.device
  | .pipeline created => some created.device

namespace GraphicsRuntime

section Objects

variable {D P : Type}

/-- The object that a call creates. -/
def made : Op D → Result Reply → Option ApiObject
  | .createDevice _ caps, .ok (.device created) => some (.context created caps)
  | .createTimeline _, .ok (.timeline created) => some (.timeline created.id)
  | .createResource _ _ _, .ok (.resource created) => some (.resource created)
  | .createShaderModule _ _ _, .ok (.shader created) => some (.shader created)
  | .createPipeline _ _ _, .ok (.pipeline created) => some (.pipeline created)
  | _, _ => none

def Creates (object : ApiObject) (e : RuntimeEvent D P) : Prop :=
  made e.action e.answer = some object

/-- The call recovers the object's context, or frees the resource that it is:
a resource is gone even when the driver refuses to free it. -/
def Ends (object : ApiObject) (e : RuntimeEvent D P) : Prop :=
  (∃ device caps, e.action = .recoverDevice device caps ∧ IsOk e.answer ∧
    object.owner = some device) ∨
    ∃ row, object = .resource row ∧ e.action = .freeResource row.id

/-- The object is in its table, under its own name. -/
def Files (now : GraphicsRuntime D P) : ApiObject → Prop
  | .context created caps => now.devices.get created.id = some created ∧
      now.deviceCaps.get created.id = some caps
  | .timeline id => ∃ value, now.timelines.get id = some value
  | .resource created => now.resources.get created.id = some created
  | .shader created => now.shaders.get created.id = some created
  | .pipeline created => now.pipelines.get created.id = some created

/-- Every table is keyed by names that were handed out. -/
structure KeysIssued (now : GraphicsRuntime D P) : Prop where
  contexts : ContextsIssued now
  timelines : TimelinesIssued now
  resources : ResourcesIssued now
  shaders : ShadersIssued now
  pipelines : ∀ name row, now.pipelines.get name = some row →
    now.ids.Issued name

theorem KeysIssued.pipeline_fresh {now : GraphicsRuntime D P}
    (hissued : KeysIssued now) : now.pipelines.get now.ids.next = none := by
  rw [Option.eq_none_iff_forall_ne_some]
  intro row hrow
  exact now.ids.next_not_issued (hissued.pipelines _ row hrow)

theorem KeysIssued.resource_fresh {now : GraphicsRuntime D P}
    (hissued : KeysIssued now) {name : ObjectId}
    (hfresh : ¬ now.ids.Issued name) : now.resources.get name = none := by
  rw [Option.eq_none_iff_forall_ne_some]
  intro row hrow
  exact hfresh (hissued.resources name row hrow)

/-- A row filed under its own name, and under one that was free. -/
theorem filed_insert_iff {V : Type} {table : Table ObjectId V}
    (name : V → ObjectId) {key : ObjectId} {new row : V} (hkey : name new = key)
    (hfresh : table.get key = none) :
    (table.insert key new).get (name row) = some row ↔
      row = new ∨ table.get (name row) = some row := by
  rw [Table.get_insert]
  by_cases hname : name row = key
  · rw [if_pos hname, hname, hfresh]
    simp [eq_comm]
  · have hne : row ≠ new := by
      rintro rfl
      exact hname hkey
    simp [hname, hne]

/-- The tables hold what the past has created and not ended. -/
structure ObjectHistory (past : List (RuntimeEvent D P))
    (now : GraphicsRuntime D P) : Prop where
  issued : KeysIssued now
  live : ∀ object, Files now object ↔
    Ongoing (Creates object) (Ends object) past

variable {before after : GraphicsRuntime D P} {op : Op D}
  {answer : Result Reply}

/-! ### What one call does to the objects -/

theorem files_of_tables (htables : after.tables = before.tables)
    (object : ApiObject) : Files after object ↔ Files before object := by
  have hdevices := congrArg ObjectTables.devices htables
  have hcaps := congrArg ObjectTables.deviceCaps htables
  have hresources := congrArg ObjectTables.resources htables
  have hshaders := congrArg ObjectTables.shaders htables
  have hpipelines := congrArg ObjectTables.pipelines htables
  have htimelines := congrArg ObjectTables.timelines htables
  simp only [tables] at hdevices hcaps hresources hshaders hpipelines htimelines
  cases object with
  | context created caps => simp only [Files, hdevices, hcaps]
  | timeline id => simp only [Files, htimelines]
  | resource created => simp only [Files, hresources]
  | shader created => simp only [Files, hshaders]
  | pipeline created => simp only [Files, hpipelines]

theorem made_of_quiet (hanswer : IsOk answer → ¬ op.Mutates) :
    made op answer = none := by
  cases answer with
  | error error => cases op <;> rfl
  | ok reply =>
      have hmutates := hanswer (isOk_ok reply)
      cases op with
      | createDevice gpu caps => exact absurd trivial hmutates
      | createTimeline device => exact absurd trivial hmutates
      | createResource device kind memoryClass => exact absurd trivial hmutates
      | createShaderModule device stage ir => exact absurd trivial hmutates
      | createPipeline device shader workload => exact absurd trivial hmutates
      | _ => rfl

/-- The objects after a call are those it created and those it did not end. -/
def ChangesObjects (e : RuntimeEvent D P) : Prop :=
  ∀ object, Files e.after object ↔
    Creates object e ∨ Files e.before object ∧ ¬ Ends object e

/-- A call that creates one object and ends none. -/
theorem changesObjects_of_made {new : ApiObject}
    (hmade : made op answer = some new)
    (hends : ∀ object, ¬ Ends object (⟨before, op, answer, after⟩ :
      RuntimeEvent D P))
    (hfiles : ∀ object, Files after object ↔
      object = new ∨ Files before object) :
    ChangesObjects ⟨before, op, answer, after⟩ := by
  intro object
  rw [hfiles, Creates, hmade]
  simp [hends, eq_comm]

/-- A call that creates nothing. -/
theorem changesObjects_of_none (hmade : made op answer = none)
    (hfiles : ∀ object, Files after object ↔ Files before object ∧
      ¬ Ends object (⟨before, op, answer, after⟩ : RuntimeEvent D P)) :
    ChangesObjects ⟨before, op, answer, after⟩ := by
  intro object
  rw [hfiles, Creates, hmade]
  simp

/-- A call that creates nothing and ends nothing that was there. -/
theorem changesObjects_of_idle (hmade : made op answer = none)
    (hfiles : ∀ object, Files after object ↔ Files before object)
    (hends : ∀ object, Files before object →
      ¬ Ends object (⟨before, op, answer, after⟩ : RuntimeEvent D P)) :
    ChangesObjects ⟨before, op, answer, after⟩ := by
  apply changesObjects_of_none hmade
  intro object
  rw [hfiles]
  exact (and_iff_left_of_imp (hends object)).symm

variable [GpuDriver D]

theorem Effect.changesObjects [FreshAllocations D]
    (hissued : KeysIssued before) (heffect : Effect before op answer after)
    (hfreed : ∀ name, op = .freeResource name →
      after.resources.get name = none) :
    ChangesObjects ⟨before, op, answer, after⟩ := by
  cases heffect with
  | quiet hanswer hsealed htables hids hdriver =>
      apply changesObjects_of_idle (made_of_quiet hanswer)
        (files_of_tables htables)
      rintro object hfiled (⟨device, caps, hop, hok, -⟩ | ⟨row, rfl, hop⟩)
      · obtain rfl : op = .recoverDevice device caps := hop
        exact hanswer hok trivial
      · have hgone := hfreed row.id hop
        have hthere := (files_of_tables htables (.resource row)).mpr hfiled
        cases hthere.symm.trans hgone
  | borrowed hadmin =>
      apply changesObjects_of_idle rfl (fun _ => Iff.rfl)
      simp [Ends]
  | notBorrowed hdenied =>
      apply changesObjects_of_idle rfl (fun _ => Iff.rfl)
      simp [Ends]
  | @createdDevice gpu caps known info hgranted hprobe hfind =>
      apply changesObjects_of_made rfl
      · simp [Ends]
      · intro object
        cases object with
        | context created granted =>
            have hfresh := hissued.contexts.fresh
            by_cases hname : created.id = before.ids.next
            · simp [Files, hname, hfresh, eq_comm]
            · have hne : created ≠ GraphicsRuntime.createdDevice before.ids gpu :=
                fun heq => hname (congrArg GraphicsDevice.id heq)
              simp [Files, Table.get_insert, hname, hne]
        | _ => simp [Files]
  | createdTimeline hcontext =>
      apply changesObjects_of_made rfl
      · simp [Ends]
      · intro object
        cases object with
        | timeline id => simp [Files, Table.known_insert_iff]
        | _ => simp [Files]
  | createdResource hcontext hallocated =>
      obtain ⟨hfresh, -⟩ := FreshAllocations.fresh _ _ _ _ _ _ _ _ hallocated
      apply changesObjects_of_made rfl
      · simp [Ends]
      · intro object
        cases object with
        | resource created =>
            simp only [Files, ApiObject.resource.injEq]
            exact filed_insert_iff Resource.id rfl (hissued.resource_fresh hfresh)
        | _ => simp [Files]
  | createdShader hcontext =>
      apply changesObjects_of_made rfl
      · simp [Ends]
      · intro object
        cases object with
        | shader created =>
            simp only [Files, ApiObject.shader.injEq]
            exact filed_insert_iff ShaderModule.id rfl hissued.shaders.fresh
        | _ => simp [Files]
  | createdPipeline hcontext hshader =>
      apply changesObjects_of_made rfl
      · simp [Ends]
      · intro object
        cases object with
        | pipeline created =>
            simp only [Files, ApiObject.pipeline.injEq]
            exact filed_insert_iff Pipeline.id rfl hissued.pipeline_fresh
        | _ => simp [Files]
  | submitted hready haccepted =>
      apply changesObjects_of_idle rfl
      · intro object
        cases object with
        | timeline id =>
            obtain ⟨current, hcurrent, -⟩ := hready.increases
            simp only [Files, Table.known_insert_iff, or_iff_right_iff_imp]
            rintro rfl
            exact ⟨current, hcurrent⟩
        | _ => simp [Files]
      · simp [Ends]
  | panicked hready hpanicked =>
      apply changesObjects_of_idle rfl (fun _ => Iff.rfl)
      simp [Ends]
  | @freed name row hrow =>
      apply changesObjects_of_none
      · cases (GpuDriver.freeVram name before.driver).1 <;> rfl
      · intro object
        cases object with
        | resource created =>
            simp [Files, Ends, Table.get_erase, eq_comm, and_comm]
        | _ => simp [Files, Ends]
  | @recovered device _ _ _ hadmin hcontext hreset =>
      apply changesObjects_of_none rfl
      intro object
      cases object with
      | context created caps =>
          by_cases hname : created.id = device
          · simp [Files, Ends, dropContext, ApiObject.owner, hname]
          · simp [Files, Ends, dropContext, ApiObject.owner, Table.get_erase,
              hname]
      | timeline id => simp [Files, Ends, dropContext, ApiObject.owner]
      | _ =>
          simp [Files, Ends, dropContext, ApiObject.owner, Table.get_retain,
            Option.filter_eq_some_iff]

/-! ### What a run does -/

variable {past : List (RuntimeEvent D P)}

theorem KeysIssued.preserved [FreshAllocations D] (hissued : KeysIssued before)
    (heffect : Effect before op answer after) : KeysIssued after where
  contexts := hissued.contexts.preserved heffect
  timelines := hissued.timelines.preserved heffect
  resources := hissued.resources.preserved heffect
  shaders := hissued.shaders.preserved heffect
  pipelines := by
    intro name row hrow
    rcases heffect.pipeline_origin hrow with hbefore | ⟨rfl, hid, hcreates⟩
    · exact (hissued.pipelines name row hbefore).mono heffect.advances
    · have hfiled := hcreates.filed heffect
      rw [hid] at hfiled
      exact hfiled.1

variable [GPUDriver P]

omit [GpuDriver D] in
theorem keysIssued_new (driver : D) (vramBytes : Nat) (ids : IdSource) :
    KeysIssued (new driver vramBytes ids : GraphicsRuntime D P) where
  contexts := by simp [ContextsIssued, new]
  timelines := by simp [TimelinesIssued, new]
  resources := by simp [ResourcesIssued, new]
  shaders := by simp [ShadersIssued, new]
  pipelines := by simp [new]

omit [GpuDriver D] in
theorem not_files_new (driver : D) (vramBytes : Nat) (ids : IdSource)
    (object : ApiObject) :
    ¬ Files (new driver vramBytes ids : GraphicsRuntime D P) object := by
  cases object <;> simp [Files, new]

omit [GpuDriver D] in
theorem objectHistory_new (driver : D) (vramBytes : Nat) (ids : IdSource) :
    ObjectHistory [] (new driver vramBytes ids : GraphicsRuntime D P) where
  issued := keysIssued_new driver vramBytes ids
  live object :=
    iff_of_false (not_files_new driver vramBytes ids object) not_ongoing_nil

/-- A resource that is freed is gone, whatever the driver answers. -/
theorem freed_absent (now : GraphicsRuntime D P) {op : Op D} {name : ObjectId}
    (hop : op = .freeResource name) :
    (step now op).2.resources.get name = none := by
  subst hop
  have hdeletes : Deletes now name (.freeResource name) := rfl
  exact hdeletes.absent

theorem ObjectHistory.extend [FreshAllocations D]
    {now : GraphicsRuntime D P} (hhistory : ObjectHistory past now) (op : Op D) :
    ObjectHistory (past ++ [Machine.event step now op]) (step now op).2 := by
  have heffect := step_effect now op
  refine ⟨hhistory.issued.preserved heffect, fun object => ?_⟩
  have hchanges := heffect.changesObjects hhistory.issued fun name hop =>
    freed_absent now hop
  rw [ongoing_concat, ← hhistory.live]
  exact hchanges object

theorem objectHistory_run [FreshAllocations D] (driver : D) (vramBytes : Nat)
    (ids : IdSource) (ops : List (Op D)) :
    ObjectHistory
      (Machine.trace step (new driver vramBytes ids : GraphicsRuntime D P) ops)
      (Machine.run step (new driver vramBytes ids) ops) :=
  Machine.history_invariant (objectHistory_new driver vramBytes ids)
    (fun _ _ op hhistory => hhistory.extend op) ops

/-- The tables hold the objects that were created in the past and have not
ended since, as they were handed out and no others, and each has a name of its
own. -/
theorem live_objects_are_history [FreshAllocations D] (driver : D)
    (vramBytes : Nat) (ids : IdSource) (ops : List (Op D)) :
    let start : GraphicsRuntime D P := new driver vramBytes ids
    (∀ object, Files (Machine.run step start ops) object ↔
      Ongoing (Creates object) (Ends object) (Machine.trace step start ops)) ∧
      (namesOf (Machine.trace step start ops)).Nodup :=
  ⟨(objectHistory_run driver vramBytes ids ops).live,
    (namesHistory_run driver vramBytes ids ops).nodup⟩

end Objects

namespace TwoContexts

/-- A resource is freed, and a context is recovered with its shader. -/
def ops : List (Op SoftwareGpuDriver) :=
  [.createDevice ⟨0⟩ .full, .createDevice ⟨0⟩ .full,
    .createResource ⟨1⟩ (.buffer 64 {}) .deviceLocal,
    .createShaderModule ⟨5⟩ .vertex [], .freeResource ⟨9⟩,
    .recoverDevice ⟨5⟩ .full]

theorem first_context_is_left :
    (Machine.answers step (sample 1 1024) ops).getLast? = some (.ok .unit) ∧
      (∀ object, Files (Machine.run step (sample 1 1024) ops) object ↔
        Ongoing (Creates object) (Ends object)
          (Machine.trace step (sample 1 1024) ops)) ∧
        (namesOf (Machine.trace step (sample 1 1024) ops)).Nodup :=
  ⟨by decide, live_objects_are_history _ 0 _ ops⟩

end TwoContexts

end GraphicsRuntime

end SherGraphics
