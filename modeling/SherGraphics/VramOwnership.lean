/-
VRAM across the two layers.  The driver keeps a table of allocations and the
runtime a table of resources; an allocation stays reachable only as long as
its resource is registered, and `recover_device` removes resources without
freeing what backs them.
-/
import SherGraphics.ContextTable
import SherGraphics.VramPool

namespace SherGraphics

namespace GraphicsRuntime

open SoftwareGpuDriver (SamePool WellPooled grantedAllocation)

variable {P : Type}

section Effects

variable {before after : SoftwareRuntime P} {op : Op SoftwareGpuDriver}
  {answer : Result Reply}

/-- What a call other than `driver_mut` does to the pools and the resource
table. -/
inductive VramEffect (before after : SoftwareRuntime P) :
    Op SoftwareGpuDriver → Prop
  | kept {op : Op SoftwareGpuDriver}
      (hsame : SamePool before.driver after.driver)
      (hresources : after.resources = before.resources)
      (hdevices : after.devices = before.devices ∨ ∃ created,
        after.devices = before.devices.insert before.ids.next created) :
      VramEffect before after op
  | allocated {id : ObjectId} {kind : ResourceKind}
      {memoryClass : MemoryClass} {found : GraphicsDevice}
      {state : DeviceState} {allocation : GpuAllocation}
      (hallocation : allocation = grantedAllocation before.ids found.gpu state
        (resourceSize kind) memoryClass)
      (hcontext : before.devices.get id = some found)
      (hfound : before.driver.devices.get found.gpu = some state)
      (hfits : resourceSize kind ≤ state.vramAvailable)
      (hdriver : after.driver = before.driver.afterAllocate allocation)
      (hids : after.ids = before.ids.advance 1)
      (hresources : after.resources = before.resources.insert allocation.id
        ⟨allocation.id, id, kind, memoryClass⟩)
      (hdevices : after.devices = before.devices) :
      VramEffect before after (.createResource id kind memoryClass)
  | freed {name : ObjectId} {row : Resource}
      (hrow : before.resources.get name = some row)
      (hdriver : after.driver =
        (SoftwareGpuDriver.freeVram name before.driver).2)
      (hids : after.ids = before.ids)
      (hresources : after.resources = before.resources.erase name)
      (hdevices : after.devices = before.devices) :
      VramEffect before after (.freeResource name)
  | dropped {id : ObjectId} {caps : CapabilitySet} {found : GraphicsDevice}
      (hadmin : caps.hasCapability .gpuAdmin = true)
      (hcontext : before.devices.get id = some found)
      (hsame : SamePool before.driver after.driver)
      (hresources : after.resources =
        before.resources.retain fun _ row => row.device ≠ id)
      (hdevices : after.devices = before.devices.erase id) :
      VramEffect before after (.recoverDevice id caps)

theorem Effect.onVram (heffect : Effect before op answer after)
    (hsealed : op.Sealed) : VramEffect before after op := by
  cases heffect with
  | quiet hanswer hsealed htables hids hdriver =>
      exact .kept (by rw [hdriver.unchanged]; exact .refl _)
        (congrArg ObjectTables.resources htables)
        (Or.inl (congrArg ObjectTables.devices htables))
  | borrowed hadmin => exact absurd hsealed id
  | notBorrowed hdenied => exact absurd hsealed id
  | @createdDevice gpu caps known info hgranted hprobe hfind =>
      exact .kept
        (SoftwareGpuDriver.initializeDevice_samePool before.driver info) rfl
        (Or.inr ⟨_, rfl⟩)
  | createdTimeline hcontext => exact .kept (.refl _) rfl (Or.inl rfl)
  | @createdResource id kind memoryClass found allocation driver ids hcontext
      hallocated =>
      rcases SoftwareGpuDriver.allocateVram_cases before.driver before.ids
        found.gpu (resourceSize kind) memoryClass with
        ⟨state, hfound, hfits, hrun⟩ | ⟨-, _, hrun⟩
      · cases hallocated.symm.trans hrun
        exact .allocated rfl hcontext hfound hfits rfl rfl rfl rfl
      · cases hallocated.symm.trans hrun
  | createdShader hcontext => exact .kept (.refl _) rfl (Or.inl rfl)
  | createdPipeline hcontext hshader => exact .kept (.refl _) rfl (Or.inl rfl)
  | @submitted queue stream timeline gpu value driver hready haccepted =>
      have hdriver : driver = before.driver :=
        SoftwareGpuDriver.submit_driver_eq haccepted
      exact .kept (by rw [hdriver]; exact .refl _) rfl (Or.inl rfl)
  | @panicked queue stream timeline gpu value driver payload hready
      hpanicked =>
      have hdriver : driver = before.driver :=
        SoftwareGpuDriver.submit_driver_eq hpanicked
      subst hdriver
      exact .kept (SoftwareGpuDriver.markFaulted_samePool _ gpu _) rfl
        (Or.inl rfl)
  | freed hrow => exact .freed hrow rfl rfl rfl rfl
  | @recovered id caps found driver hadmin hcontext hreset =>
      have hdriver : driver = (SoftwareGpuDriver.resetDevice found.gpu
        before.driver).2 := (congrArg Prod.snd hreset).symm
      refine .dropped hadmin hcontext ?_ rfl rfl
      change SamePool before.driver driver
      rw [hdriver]
      exact SoftwareGpuDriver.resetDevice_samePool before.driver found.gpu

end Effects

/-- What holds of the two layers in every run, leak or not. -/
structure VramInvariant (vramBytesPerDevice : Nat)
    (now : SoftwareRuntime P) : Prop where
  pool : WellPooled vramBytesPerDevice now.driver now.ids
  contexts : ContextsIssued now
  backed : ∀ name row, now.resources.get name = some row →
    ∃ found allocation, now.devices.get row.device = some found ∧
      now.driver.allocations.get name = some allocation ∧
        allocation.device = found.gpu

/-- The driver's live allocations are the registered resources. -/
def LiveIdsMatch (now : SoftwareRuntime P) : Prop :=
  ∀ name, (∃ allocation, now.driver.allocations.get name = some allocation) ↔
    ∃ row, now.resources.get name = some row

/-- The allocation sizes of the resources registered for contexts on a GPU,
added up. -/
def registeredBytes (now : SoftwareRuntime P) (gpu : ObjectId) : Nat :=
  now.resources.total fun name row =>
    match now.devices.get row.device, now.driver.allocations.get name with
    | some found, some allocation =>
        if found.gpu = gpu then allocation.size else 0
    | _, _ => 0

/-- The bytes available on a GPU and those of its registered resources make up
the whole pool. -/
def VramAccounted (vramBytesPerDevice : Nat) (now : SoftwareRuntime P) : Prop :=
  ∀ gpu available,
    SoftwareGpuDriver.vramAvailable now.driver gpu = .ok available →
      available + registeredBytes now gpu = vramBytesPerDevice

/-- An authorised recovery of a live context finds no resource registered for
it. -/
def RecoversEmpty (e : Event (SoftwareRuntime P) (SealedOp SoftwareGpuDriver)
    (Result Reply)) : Prop :=
  ∀ id caps found, e.action.val = .recoverDevice id caps →
    caps.hasCapability .gpuAdmin = true →
      e.before.devices.get id = some found →
        ∀ name row, e.before.resources.get name = some row →
          row.device ≠ id

section Invariant

variable {vramBytesPerDevice : Nat} {before after now : SoftwareRuntime P}
  {op : Op SoftwareGpuDriver} {answer : Result Reply}

theorem VramInvariant.pool_preserved
    (hinvariant : VramInvariant vramBytesPerDevice before)
    (heffect : Effect before op answer after) (hsealed : op.Sealed) :
    WellPooled vramBytesPerDevice after.driver after.ids := by
  have hadvances := heffect.advances
  cases heffect.onVram hsealed with
  | kept hsame hresources hdevices =>
      exact hinvariant.pool.samePool hsame hadvances
  | allocated hallocation hcontext hfound hfits hdriver hids hresources =>
      rw [hdriver, hids, hallocation]
      exact hinvariant.pool.allocated hfound hfits _
  | freed hrow hdriver hids hresources hdevices =>
      obtain ⟨_, allocation, -, hlive, -⟩ := hinvariant.backed _ _ hrow
      rw [hdriver, hids, hinvariant.pool.freeVram_live hlive]
      exact hinvariant.pool.freed hlive
  | dropped hadmin hcontext hsame hresources hdevices =>
      exact hinvariant.pool.samePool hsame hadvances

theorem VramInvariant.backed_preserved
    (hinvariant : VramInvariant vramBytesPerDevice before)
    (heffect : Effect before op answer after) (hsealed : op.Sealed)
    (name : ObjectId) (row : Resource)
    (hrow : after.resources.get name = some row) :
    ∃ found allocation, after.devices.get row.device = some found ∧
      after.driver.allocations.get name = some allocation ∧
        allocation.device = found.gpu := by
  cases heffect.onVram hsealed with
  | kept hsame hresources hdevices =>
      rw [hresources] at hrow
      obtain ⟨found, allocation, hcontext, hlive, hgpu⟩ :=
        hinvariant.backed name row hrow
      refine ⟨found, allocation, ?_, by rw [hsame.allocations, hlive], hgpu⟩
      rcases hdevices with hkept | ⟨created, hcreated⟩
      · rw [hkept, hcontext]
      · have hne : row.device ≠ before.ids.next := by
          intro heq
          rw [heq, hinvariant.contexts.fresh] at hcontext
          cases hcontext
        rw [hcreated, Table.get_insert_ne _ _ hne, hcontext]
  | @allocated id kind memoryClass found state new hallocation hcontext hfound
      hfits hdriver hids hresources hdevices =>
      have hallocations : after.driver.allocations =
          before.driver.allocations.insert new.id new := by
        rw [hdriver]
        rfl
      rw [hresources] at hrow
      rw [hallocations, hdevices]
      rcases Table.row_of_insert hrow with ⟨rfl, rfl⟩ | ⟨hne, hrow⟩
      · exact ⟨found, new, hcontext, Table.get_insert_self _ _ _,
          by rw [hallocation]; rfl⟩
      · rw [Table.get_insert_ne _ _ hne]
        exact hinvariant.backed name row hrow
  | @freed freed old hold hdriver hids hresources hdevices =>
      rw [hresources] at hrow
      obtain ⟨hne, hrow⟩ := Table.row_of_erase hrow
      obtain ⟨_, allocation, -, hlive, -⟩ := hinvariant.backed _ _ hold
      have hallocations : after.driver.allocations =
          before.driver.allocations.erase freed := by
        rw [hdriver, hinvariant.pool.freeVram_live hlive]
        rfl
      rw [hallocations, hdevices, Table.get_erase_ne _ hne]
      exact hinvariant.backed name row hrow
  | @dropped id caps found hadmin hcontext hsame hresources hdevices =>
      rw [hresources] at hrow
      obtain ⟨hold, hother⟩ := Table.row_of_retain hrow
      have hne : row.device ≠ id := of_decide_eq_true hother
      rw [hsame.allocations, hdevices, Table.get_erase_ne _ hne]
      exact hinvariant.backed name row hold

theorem VramInvariant.preserved
    (hinvariant : VramInvariant vramBytesPerDevice before)
    (heffect : Effect before op answer after) (hsealed : op.Sealed) :
    VramInvariant vramBytesPerDevice after where
  pool := hinvariant.pool_preserved heffect hsealed
  contexts := hinvariant.contexts.preserved heffect
  backed := hinvariant.backed_preserved heffect hsealed

/-- When the two tables match, what the registered resources hold is what the
driver counts as live. -/
theorem VramInvariant.registeredBytes_eq
    (hinvariant : VramInvariant vramBytesPerDevice now)
    (hmatch : LiveIdsMatch now) (gpu : ObjectId) :
    registeredBytes now gpu = now.driver.liveBytes gpu := by
  rw [registeredBytes, SoftwareGpuDriver.liveBytes, Table.drawn]
  apply Table.total_eq_of_share
  intro name
  cases hrow : now.resources.get name with
  | none =>
      have hnone : now.driver.allocations.get name = none := by
        rw [Option.eq_none_iff_forall_ne_some]
        intro allocation hlive
        obtain ⟨row, hfound⟩ := (hmatch name).mp ⟨allocation, hlive⟩
        rw [hrow] at hfound
        cases hfound
      simp [Table.share, hrow, hnone]
  | some row =>
      obtain ⟨found, allocation, hcontext, hlive, hgpu⟩ :=
        hinvariant.backed name row hrow
      simp [Table.share, hrow, hcontext, hlive, hgpu]

theorem VramInvariant.accounted
    (hinvariant : VramInvariant vramBytesPerDevice now)
    (hmatch : LiveIdsMatch now) : VramAccounted vramBytesPerDevice now := by
  intro gpu available havailable
  rw [hinvariant.registeredBytes_eq hmatch gpu]
  rw [SoftwareGpuDriver.vramAvailable] at havailable
  cases hdevice : now.driver.devices.get gpu with
  | none =>
      rw [SoftwareGpuDriver.state_of_unknown hdevice] at havailable
      cases havailable
  | some state =>
      rw [SoftwareGpuDriver.state_of_known hdevice] at havailable
      cases havailable
      rw [hinvariant.pool.balanced gpu state hdevice,
        hinvariant.pool.total gpu state hdevice]

theorem LiveIdsMatch.preserved
    (hinvariant : VramInvariant vramBytesPerDevice before)
    (hmatch : LiveIdsMatch before)
    (heffect : Effect before op answer after) (hsealed : op.Sealed)
    (hempty : RecoversEmpty ⟨before, ⟨op, hsealed⟩, answer, after⟩) :
    LiveIdsMatch after := by
  intro name
  cases heffect.onVram hsealed with
  | kept hsame hresources hdevices =>
      rw [hsame.allocations, hresources]
      exact hmatch name
  | @allocated id kind memoryClass found state new hallocation hcontext hfound
      hfits hdriver hids hresources hdevices =>
      have hallocations : after.driver.allocations =
          before.driver.allocations.insert new.id new := by
        rw [hdriver]
        rfl
      rw [hallocations, hresources, Table.get_insert, Table.get_insert]
      by_cases heq : name = new.id
      · simp [heq]
      · rw [if_neg heq, if_neg heq]
        exact hmatch name
  | @freed freed old hold hdriver hids hresources hdevices =>
      obtain ⟨_, allocation, -, hlive, -⟩ := hinvariant.backed _ _ hold
      have hallocations : after.driver.allocations =
          before.driver.allocations.erase freed := by
        rw [hdriver, hinvariant.pool.freeVram_live hlive]
        rfl
      rw [hallocations, hresources, Table.get_erase, Table.get_erase]
      by_cases heq : name = freed
      · simp [heq]
      · rw [if_neg heq, if_neg heq]
        exact hmatch name
  | @dropped id caps found hadmin hcontext hsame hresources hdevices =>
      rw [hsame.allocations, hresources, Table.get_retain, hmatch name]
      constructor
      · rintro ⟨row, hrow⟩
        have hne := hempty id caps found rfl hadmin hcontext name row hrow
        exact ⟨row, by simp [hrow, hne]⟩
      · rintro ⟨row, hrow⟩
        exact ⟨row, (Option.filter_eq_some_iff.mp hrow).1⟩

variable [GPUDriver P]

/-- A recovery that drops a resource leaves its allocation behind. -/
theorem recoversEmpty_of_match {op : SealedOp SoftwareGpuDriver}
    (hinvariant : VramInvariant vramBytesPerDevice before)
    (hafter : LiveIdsMatch (sealedStep before op).2) :
    RecoversEmpty (Machine.event sealedStep before op) := by
  obtain ⟨op, hsealed⟩ := op
  rintro id caps found rfl hadmin hcontext name row hrow rfl
  change before.devices.get row.device = some found at hcontext
  change before.resources.get name = some row at hrow
  obtain ⟨other, allocation, hother, hlive, hgpu⟩ :=
    hinvariant.backed name row hrow
  cases hcontext.symm.trans hother
  obtain ⟨-, state, hstate⟩ := hinvariant.pool.owned name allocation hlive
  rw [hgpu] at hstate
  have hreset : GpuDriver.resetDevice found.gpu before.driver =
      (.ok (), before.driver.afterReset found.gpu) :=
    SoftwareGpuDriver.resetDevice_of_known hstate
  have hdropped : (step before (.recoverDevice row.device caps)).2 =
      dropContext row.device { before with
        audit := before.audit.log row.device "recover_device" true
        driver := before.driver.afterReset found.gpu } := by
    rw [step, perform, Method.map_run,
      recoverDevice_of_live before hadmin hcontext, hreset]
  change LiveIdsMatch (step before (.recoverDevice row.device caps)).2
    at hafter
  rw [hdropped] at hafter
  obtain ⟨kept, hkept⟩ := (hafter name).mp ⟨allocation, hlive⟩
  change (before.resources.retain _).get name = some kept at hkept
  obtain ⟨hsame, hother⟩ := Table.row_of_retain hkept
  cases hrow.symm.trans hsame
  exact of_decide_eq_true hother rfl

theorem vramInvariant_start (count vramBytesPerDevice
    presentationVramBytes : Nat) (ids : IdSource) :
    VramInvariant vramBytesPerDevice
      (overSoftware count vramBytesPerDevice presentationVramBytes ids :
        SoftwareRuntime P) where
  pool := SoftwareGpuDriver.wellPooled_withDevices count vramBytesPerDevice ids
  contexts := by simp [ContextsIssued, overSoftware, new]
  backed := by simp [overSoftware, new]

/-- No VRAM is lost in exactly the runs that recover a context only once its
resources are freed. -/
theorem vram_owned_iff (count vramBytesPerDevice presentationVramBytes : Nat)
    (ids : IdSource) (ops : List (SealedOp SoftwareGpuDriver)) :
    let start : SoftwareRuntime P :=
      overSoftware count vramBytesPerDevice presentationVramBytes ids
    Machine.Throughout sealedStep start ops (fun _ now =>
        LiveIdsMatch now ∧ VramAccounted vramBytesPerDevice now) ↔
      Machine.Meets sealedStep start ops (fun _ e => RecoversEmpty e) := by
  intro start
  have hinvariant : ∀ first, VramInvariant vramBytesPerDevice
      (Machine.run sealedStep start first) :=
    Machine.run_invariant (VramInvariant vramBytesPerDevice)
      (vramInvariant_start count _ _ ids)
      (fun now op hnow => hnow.preserved (step_effect now op.val) op.property)
  have hboth : Machine.Throughout sealedStep start ops
      (fun _ now => VramInvariant vramBytesPerDevice now ∧
        LiveIdsMatch now) ↔
        Machine.Meets sealedStep start ops (fun _ e => RecoversEmpty e) := by
    apply Machine.throughout_iff_meets
    · exact ⟨hinvariant [], by
        simp [LiveIdsMatch, start, overSoftware, new,
          SoftwareGpuDriver.withDevices]⟩
    · rintro past now op ⟨hnow, hmatch⟩
      have heffect := step_effect now op.val
      constructor
      · rintro ⟨-, hafter⟩
        exact recoversEmpty_of_match hnow hafter
      · intro hempty
        exact ⟨hnow.preserved heffect op.property,
          hmatch.preserved hnow heffect op.property hempty⟩
  rw [← hboth]
  constructor
  · intro hall first later hsplit
    exact ⟨hinvariant first, (hall first later hsplit).1⟩
  · intro hall first later hsplit
    obtain ⟨hnow, hmatch⟩ := hall first later hsplit
    exact ⟨hmatch, hnow.accounted hmatch⟩

end Invariant

namespace RecoveredOwner

/-- A context allocates 600 of the 1024 bytes of GPU 0 and is recovered. -/
def ops : List (SealedOp SoftwareGpuDriver) :=
  [⟨.createDevice ⟨0⟩ .full, trivial⟩,
    ⟨.createResource ⟨1⟩ (.buffer 600 {}) .deviceLocal, trivial⟩,
    ⟨.recoverDevice ⟨1⟩ .full, trivial⟩]

/-- The 600 bytes stay taken with no resource registered for them. -/
theorem vram_owned_fails :
    ¬ Machine.Throughout sealedStep (sample 1 1024) ops
        (fun _ now => LiveIdsMatch now) ∧
      ¬ Machine.Throughout sealedStep (sample 1 1024) ops
        (fun _ now => VramAccounted 1024 now) := by
  let last := Machine.run sealedStep (sample 1 1024) ops
  have hlive : last.driver.allocations.get ⟨5⟩ =
      some ⟨⟨5⟩, ⟨0⟩, .deviceLocal, 600, 0⟩ := by decide
  have hresource : last.resources.get ⟨5⟩ = none := by decide
  constructor
  · intro hall
    obtain ⟨row, hrow⟩ := (hall.last ⟨5⟩).mp ⟨_, hlive⟩
    cases hresource.symm.trans hrow
  · intro hall
    have hsum := hall.last ⟨0⟩ 424 (by decide)
    exact absurd hsum (by decide)

end RecoveredOwner

end GraphicsRuntime

end SherGraphics
