/-
How the object tables of a runtime fit together: every row is filed under its
own identifier, and belongs to a context that is live.
-/
import SherGraphics.RuntimeStep

universe u v

namespace Table

variable {K : Type u} {V : Type v} {owner : V → K} {live : K → Prop}

/-- Every row is filed under the name that `name` reads off it. -/
def Filed [DecidableEq K] (table : Table K V) (name : V → K) : Prop :=
  ∀ key row, table.get key = some row → name row = key

/-- Every row belongs to something that is live. -/
def Owned [DecidableEq K] (table : Table K V) (owner : V → K)
    (live : K → Prop) : Prop :=
  ∀ key row, table.get key = some row → live (owner row)

variable [DecidableEq K] {table : Table K V} {name : V → K}

theorem filed_empty : Filed (empty : Table K V) name := by simp [Filed]

theorem owned_empty : Owned (empty : Table K V) owner live := by simp [Owned]

theorem Filed.insert (hfiled : Filed table name) (row : V) :
    Filed (table.insert (name row) row) name := by
  intro key found hrow
  rcases row_of_insert hrow with ⟨rfl, rfl⟩ | ⟨-, hrow⟩
  · rfl
  · exact hfiled key found hrow

theorem Filed.erase (hfiled : Filed table name) (key : K) :
    Filed (table.erase key) name :=
  fun other row hrow => hfiled other row (row_of_erase hrow).2

theorem Filed.retain (hfiled : Filed table name) (keep : K → V → Bool) :
    Filed (table.retain keep) name :=
  fun other row hrow => hfiled other row (row_of_retain hrow).1

theorem Owned.insert (howned : Owned table owner live) (key : K) {row : V}
    (hlive : live (owner row)) : Owned (table.insert key row) owner live := by
  intro other found hrow
  rcases row_of_insert hrow with ⟨-, rfl⟩ | ⟨-, hrow⟩
  · exact hlive
  · exact howned other found hrow

theorem Owned.erase (howned : Owned table owner live) (key : K) :
    Owned (table.erase key) owner live :=
  fun other row hrow => howned other row (row_of_erase hrow).2

theorem Owned.mono (howned : Owned table owner live) {later : K → Prop}
    (himp : ∀ key, live key → later key) : Owned table owner later :=
  fun key row hrow => himp _ (howned key row hrow)

/-- When one owner is dropped, its rows are dropped with it. -/
theorem Owned.retain (howned : Owned table owner live) {dropped : K}
    {later : K → Prop} (himp : ∀ key, key ≠ dropped → live key → later key) :
    Owned (table.retain fun _ row => owner row ≠ dropped) owner later := by
  intro key row hrow
  obtain ⟨hrow, hkept⟩ := row_of_retain hrow
  exact himp _ (by simpa using hkept) (howned key row hrow)

end Table

namespace SherGraphics

namespace GraphicsRuntime

variable {D P : Type}

/-- The identifier is that of a live context. -/
def Live (now : GraphicsRuntime D P) (id : ObjectId) : Prop :=
  ∃ found, now.devices.get id = some found

/-- The object tables fit together. -/
structure TablesSound (now : GraphicsRuntime D P) : Prop where
  paired : ∀ id, Live now id ↔ ∃ caps, now.deviceCaps.get id = some caps
  devices : now.devices.Filed GraphicsDevice.id
  resources : now.resources.Filed Resource.id
  shaders : now.shaders.Filed ShaderModule.id
  pipelines : now.pipelines.Filed Pipeline.id
  resourcesLive : now.resources.Owned Resource.device (Live now)
  shadersLive : now.shaders.Owned ShaderModule.device (Live now)
  pipelinesLive : now.pipelines.Owned Pipeline.device (Live now)

theorem tablesSound_new [GPUDriver P] (driver : D) (vramBytes : Nat)
    (ids : IdSource) :
    TablesSound (new driver vramBytes ids : GraphicsRuntime D P) where
  paired id := by simp [Live, new]
  devices := Table.filed_empty
  resources := Table.filed_empty
  shaders := Table.filed_empty
  pipelines := Table.filed_empty
  resourcesLive := Table.owned_empty
  shadersLive := Table.owned_empty
  pipelinesLive := Table.owned_empty

variable {before after : GraphicsRuntime D P}

/-- Only the tables count. -/
theorem TablesSound.of_tables (hsound : TablesSound before)
    (htables : after.tables = before.tables) : TablesSound after := by
  obtain ⟨hdevices, hcaps, hresources, hshaders, hpipelines, -⟩ :=
    ObjectTables.mk.inj htables
  have hlive : Live after = Live before := by
    funext id
    rw [Live, Live, hdevices]
  constructor
  · rw [hlive, hcaps]
    exact hsound.paired
  · rw [hdevices]
    exact hsound.devices
  · rw [hresources]
    exact hsound.resources
  · rw [hshaders]
    exact hsound.shaders
  · rw [hpipelines]
    exact hsound.pipelines
  · rw [hlive, hresources]
    exact hsound.resourcesLive
  · rw [hlive, hshaders]
    exact hsound.shadersLive
  · rw [hlive, hpipelines]
    exact hsound.pipelinesLive

variable [GpuDriver D] {op : Op D} {answer : Result Reply}

theorem TablesSound.preserved (hsound : TablesSound before)
    (heffect : Effect before op answer after) : TablesSound after := by
  cases heffect with
  | quiet hanswer hsealed htables hids hdriver =>
      exact hsound.of_tables htables
  | borrowed hadmin => exact hsound.of_tables rfl
  | notBorrowed hdenied => exact hsound
  | panicked hready hpanicked => exact hsound.of_tables rfl
  | createdTimeline hcontext => exact { hsound with }
  | submitted hready haccepted => exact { hsound with }
  | @createdDevice gpu caps known info hgranted hprobe hfind =>
      let created := GraphicsRuntime.createdDevice before.ids gpu
      have hopened : ∀ id, Live before id →
          ∃ found, (before.devices.insert before.ids.next created).get id =
            some found := by
        intro id hlive
        exact Table.known_insert_iff.mpr (Or.inr hlive)
      refine { hsound with
        paired := ?_
        devices := hsound.devices.insert created
        resourcesLive := hsound.resourcesLive.mono hopened
        shadersLive := hsound.shadersLive.mono hopened
        pipelinesLive := hsound.pipelinesLive.mono hopened }
      intro id
      change (∃ found, (before.devices.insert before.ids.next created).get id =
        some found) ↔ ∃ found, (before.deviceCaps.insert before.ids.next
          caps).get id = some found
      rw [Table.known_insert_iff, Table.known_insert_iff]
      exact or_congr_right (hsound.paired id)
  | @createdResource id kind memoryClass found allocation driver ids hcontext
      hallocated =>
      let created : Resource := ⟨allocation.id, id, kind, memoryClass⟩
      exact { hsound with
        resources := hsound.resources.insert created
        resourcesLive := hsound.resourcesLive.insert _ ⟨found, hcontext⟩ }
  | @createdShader id stage ir found hcontext =>
      let created : ShaderModule := ⟨before.ids.next, id, stage, ir⟩
      exact { hsound with
        shaders := hsound.shaders.insert created
        shadersLive := hsound.shadersLive.insert _ ⟨found, hcontext⟩ }
  | @createdPipeline id shader workload found source hcontext hshader =>
      let created : Pipeline := ⟨before.ids.next, id, workload, shader⟩
      exact { hsound with
        pipelines := hsound.pipelines.insert created
        pipelinesLive := hsound.pipelinesLive.insert _ ⟨found, hcontext⟩ }
  | @freed name row hrow =>
      exact { hsound with
        resources := hsound.resources.erase name
        resourcesLive := hsound.resourcesLive.erase name }
  | @recovered id caps found driver hadmin hcontext hreset =>
      have hkept : ∀ other, other ≠ id → Live before other →
          ∃ row, (before.devices.erase id).get other = some row := by
        intro other hne hlive
        exact Table.known_erase_iff.mpr ⟨hne, hlive⟩
      refine
        { paired := ?_
          devices := hsound.devices.erase id
          resources := hsound.resources.retain _
          shaders := hsound.shaders.retain _
          pipelines := hsound.pipelines.retain _
          resourcesLive := hsound.resourcesLive.retain hkept
          shadersLive := hsound.shadersLive.retain hkept
          pipelinesLive := hsound.pipelinesLive.retain hkept }
      intro other
      change (∃ row, (before.devices.erase id).get other = some row) ↔
        ∃ granted, (before.deviceCaps.erase id).get other = some granted
      rw [Table.known_erase_iff, Table.known_erase_iff]
      exact and_congr_right' (hsound.paired other)

theorem tablesSound_run [GPUDriver P] (driver : D) (vramBytes : Nat)
    (ids : IdSource) (ops : List (Op D)) :
    TablesSound
      (Machine.run step (new driver vramBytes ids : GraphicsRuntime D P) ops) :=
  Machine.run_invariant TablesSound (tablesSound_new driver vramBytes ids)
    (fun now op hsound => hsound.preserved (step_effect now op)) ops

end GraphicsRuntime

end SherGraphics
