/-
Every byte of VRAM is somewhere.  Over any driver that keeps a ledger, what is
available on a GPU, what the registered resources take and what recoveries have
left behind make up the pool; and what was ever allocated there is what was
freed since and what is gone from the pool today.
-/
import SherGraphics.ContextTable
import SherGraphics.VramConservation

namespace SherGraphics

open AccountsVram (ledger Sound)

namespace InBalance

variable {D : Type} [GpuDriver D] [AccountsVram D] {whole : Nat} {driver : D}
  {ids later : IdSource}

theorem advances (hbooks : InBalance whole driver ids)
    (hadvances : ids.Advances later) : InBalance whole driver later where
  sound := hbooks.sound
  balanced := hbooks.balanced
  issued name allocation hlive :=
    (hbooks.issued name allocation hlive).mono hadvances

/-- The books as a call that moves no VRAM leaves them. -/
theorem afterCall (hbooks : InBalance whole driver ids) {after : D}
    (call : DriverCall) (hkept : ¬ call.MovesVram)
    (hafter : after = (GpuDriver.call (driver, ids) call).2.1) :
    ledger after = ledger driver ∧ InBalance whole after ids := by
  have hledger := (AccountsVram.keeps (driver, ids) call hkept).1
  have hsound := AccountsVram.sound (driver, ids) call hbooks.sound
  rw [hafter]
  exact ⟨hledger, hbooks.kept hsound hledger⟩

end InBalance

namespace GraphicsRuntime

section Books

variable {D P : Type}

/-- The bytes that a resource takes of a GPU: all of them, if its context is
one of that GPU. -/
def bytesOn (devices : Table ObjectId GraphicsDevice) (gpu : ObjectId)
    (row : Resource) : Nat :=
  match devices.get row.device with
  | some found => if found.gpu = gpu then resourceSize row.kind else 0
  | none => 0

/-- The bytes that the registered resources take of a GPU. -/
def registeredOn (now : GraphicsRuntime D P) (gpu : ObjectId) : Nat :=
  now.resources.total fun _ row => bytesOn now.devices gpu row

/-- The bytes of a GPU that a step allocates to a resource. -/
def drawnBy (gpu : ObjectId) (e : RuntimeEvent D P) : Nat :=
  match e.action, e.answer with
  | .createResource _ _ _, .ok (.resource created) =>
      bytesOn e.before.devices gpu created
  | _, _ => 0

/-- The bytes of a GPU that a step gives back with the resource it frees. -/
def givenBackBy (gpu : ObjectId) (e : RuntimeEvent D P) : Nat :=
  match e.action, e.answer with
  | .freeResource name, .ok _ =>
      ((e.before.resources.get name).map (bytesOn e.before.devices gpu)).getD 0
  | _, _ => 0

/-- The bytes of a GPU that a step leaves behind with the context it recovers:
those of all resources that were registered for it. -/
def lostBy (gpu : ObjectId) (e : RuntimeEvent D P) : Nat :=
  match e.action, e.answer with
  | .recoverDevice id _, .ok _ =>
      e.before.resources.total fun _ row =>
        if row.device = id then bytesOn e.before.devices gpu row else 0
  | _, _ => 0

/-- What the steps of a history come to. -/
def overall (bytes : RuntimeEvent D P → Nat) (past : List (RuntimeEvent D P)) :
    Nat :=
  (past.map bytes).sum

theorem overall_concat (bytes : RuntimeEvent D P → Nat)
    (past : List (RuntimeEvent D P)) (e : RuntimeEvent D P) :
    overall bytes (past ++ [e]) = overall bytes past + bytes e := by
  simp [overall]

/-- Calls that move bytes when they succeed. -/
def MovesBytes : Op D → Prop
  | .createResource _ _ _ | .freeResource _ | .recoverDevice _ _ => True
  | _ => False

variable [GpuDriver D] [AccountsVram D]

/-- A borrower of the driver leaves its ledger alone. -/
def KeepsBooks : Op D → Prop
  | .driverMut _ use => ∀ driver ids,
      ledger (use.run (driver, ids)).2.1 = ledger driver ∧
        (Sound driver → Sound (use.run (driver, ids)).2.1)
  | _ => True

theorem keepsBooks_of_sealed {op : Op D} (hsealed : op.Sealed) :
    KeepsBooks op := by
  cases op with
  | driverMut caps use => exact absurd hsealed id
  | _ => trivial

/-- The driver's books are in balance, and a registered resource is backed by
an allocation of its size on the GPU of its context. -/
structure BooksInvariant (whole : Nat) (now : GraphicsRuntime D P) : Prop where
  books : InBalance whole now.driver now.ids
  contexts : ContextsIssued now
  backed : ∀ name row, now.resources.get name = some row →
    ∃ found allocation, now.devices.get row.device = some found ∧
      (liveAllocations now.driver).get name = some allocation ∧
        allocation.device = found.gpu ∧ allocation.size = resourceSize row.kind

/-- What a call does to the ledger and to the resources. -/
inductive BooksEffect (before after : GraphicsRuntime D P) :
    Op D → Result Reply → Prop
  | kept {op : Op D} {answer : Result Reply}
      (hanswer : MovesBytes op → ¬ IsOk answer)
      (hledger : ledger after.driver = ledger before.driver)
      (hresources : after.resources = before.resources)
      (hdevices : after.devices = before.devices ∨ ∃ created,
        after.devices = before.devices.insert before.ids.next created) :
      BooksEffect before after op answer
  | drawn {id : ObjectId} {kind : ResourceKind} {memoryClass : MemoryClass}
      {found : GraphicsDevice} {allocation : GpuAllocation} {left : Nat}
      (hcontext : before.devices.get id = some found)
      (hid : allocation.id = before.ids.next)
      (hgpu : allocation.device = found.gpu)
      (hsize : allocation.size = resourceSize kind)
      (hleft : (ledger before.driver).remaining allocation.device = some left)
      (hfits : allocation.size ≤ left)
      (hledger : ledger after.driver =
        (ledger before.driver).debit allocation)
      (hresources : after.resources = before.resources.insert allocation.id
        ⟨allocation.id, id, kind, memoryClass⟩)
      (hdevices : after.devices = before.devices) :
      BooksEffect before after (.createResource id kind memoryClass)
        (.ok (.resource ⟨allocation.id, id, kind, memoryClass⟩))
  | returned {name : ObjectId} {row : Resource} {allocation : GpuAllocation}
      (hrow : before.resources.get name = some row)
      (hlive : (liveAllocations before.driver).get name = some allocation)
      (hledger : ledger after.driver =
        (ledger before.driver).credit name allocation)
      (hresources : after.resources = before.resources.erase name)
      (hdevices : after.devices = before.devices) :
      BooksEffect before after (.freeResource name) (.ok .unit)
  | dropped {id : ObjectId} {caps : CapabilitySet} {found : GraphicsDevice}
      (hcontext : before.devices.get id = some found)
      (hledger : ledger after.driver = ledger before.driver)
      (hresources : after.resources =
        before.resources.retain fun _ row => row.device ≠ id)
      (hdevices : after.devices = before.devices.erase id) :
      BooksEffect before after (.recoverDevice id caps) (.ok .unit)

variable {whole : Nat} {before after now : GraphicsRuntime D P} {op : Op D}
  {answer : Result Reply}

theorem IdleCall.books {driver later : D} {ids : IdSource}
    (hidle : IdleCall driver later) (hbooks : InBalance whole driver ids) :
    ledger later = ledger driver ∧ InBalance whole later ids := by
  cases hidle with
  | none => exact ⟨rfl, hbooks⟩
  | refusedInitialize info error hrefused =>
      exact hbooks.afterCall (.initializeDevice info) id rfl
  | refusedAllocation other gpu size memoryClass error hrefused =>
      by_cases hroom : ∃ left, (ledger driver).remaining gpu = some left ∧
          size ≤ left
      · obtain ⟨left, hleft, hfits⟩ := hroom
        obtain ⟨address, after, hrun, -⟩ := AccountsVram.allocates driver other
          gpu size memoryClass left hbooks.sound hleft hfits
        rw [hrun] at hrefused
        cases hrefused
      · obtain ⟨error, hrun⟩ := AccountsVram.refuses driver other gpu size
          memoryClass fun left hleft =>
            Nat.lt_of_not_le fun hfits => hroom ⟨left, hleft, hfits⟩
        rw [hrun]
        exact ⟨rfl, hbooks⟩
  | refusedSubmit gpu workload ops error hrefused =>
      exact hbooks.afterCall (.submit gpu workload ops) id rfl
  | refusedReset gpu error hrefused =>
      exact hbooks.afterCall (.resetDevice gpu) id rfl

/-- What a call does to the books, and that they stay in balance. -/
theorem Effect.onBooks (hinvariant : BooksInvariant whole before)
    (heffect : Effect before op answer after) (hkeeps : KeepsBooks op) :
    BooksEffect before after op answer ∧
      InBalance whole after.driver after.ids := by
  have hbooks := hinvariant.books
  have hadvances := heffect.advances
  cases heffect with
  | quiet hanswer hsealed htables hids hdriver =>
      obtain ⟨hledger, hafter⟩ := hdriver.books hbooks
      refine ⟨.kept ?_ hledger (congrArg ObjectTables.resources htables)
        (Or.inl (congrArg ObjectTables.devices htables)),
        hafter.advances hadvances⟩
      intro hmoves hok
      cases op with
      | createResource id kind memoryClass => exact hanswer hok trivial
      | freeResource name => exact hanswer hok trivial
      | recoverDevice id caps => exact hanswer hok trivial
      | _ => exact hmoves
  | @borrowed caps use hadmin =>
      obtain ⟨hledger, hsound⟩ := hkeeps before.driver before.ids
      refine ⟨.kept (fun hmoves => hmoves.elim) hledger rfl (Or.inl rfl), ?_⟩
      exact (hbooks.kept (hsound hbooks.sound) hledger).advances hadvances
  | notBorrowed hdenied =>
      exact ⟨.kept (fun hmoves => hmoves.elim) rfl rfl (Or.inl rfl), hbooks⟩
  | @createdDevice gpu caps known info hgranted hprobe hfind =>
      obtain ⟨hledger, hafter⟩ :=
        hbooks.afterCall (.initializeDevice info) id rfl
      exact ⟨.kept (fun hmoves => hmoves.elim) hledger rfl (Or.inr ⟨_, rfl⟩),
        hafter.advances hadvances⟩
  | createdTimeline hcontext =>
      exact ⟨.kept (fun hmoves => hmoves.elim) rfl rfl (Or.inl rfl),
        hbooks.advances hadvances⟩
  | @createdResource id kind memoryClass found allocation driver ids hcontext
      hallocated =>
      rcases hbooks.allocateVram_cases found.gpu (resourceSize kind)
        memoryClass with
        ⟨left, address, later, hleft, hfits, hrun, hledger⟩ | ⟨-, error, hrun⟩
      · cases hrun.symm.trans hallocated
        have hsound := AccountsVram.sound (before.driver, before.ids)
          (.allocateVram found.gpu (resourceSize kind) memoryClass)
          hbooks.sound
        rw [GpuDriver.call, hrun] at hsound
        exact ⟨.drawn hcontext rfl rfl rfl hleft hfits hledger rfl rfl,
          hbooks.debited hsound rfl hleft hfits hledger⟩
      · cases hrun.symm.trans hallocated
  | createdShader hcontext =>
      exact ⟨.kept (fun hmoves => hmoves.elim) rfl rfl (Or.inl rfl),
        hbooks.advances hadvances⟩
  | createdPipeline hcontext hshader =>
      exact ⟨.kept (fun hmoves => hmoves.elim) rfl rfl (Or.inl rfl),
        hbooks.advances hadvances⟩
  | @submitted queue stream timeline gpu value driver hready haccepted =>
      obtain ⟨hledger, hafter⟩ := hbooks.afterCall
        (.submit gpu queue.workload (translateOps stream.ops)) id
        (congrArg Prod.snd haccepted).symm
      exact ⟨.kept (fun hmoves => hmoves.elim) hledger rfl (Or.inl rfl),
        hafter⟩
  | @panicked queue stream timeline gpu value driver payload hready
      hpanicked =>
      obtain ⟨hledger, hafter⟩ := hbooks.afterCall
        (.submit gpu queue.workload (translateOps stream.ops)) id
        (congrArg Prod.snd hpanicked).symm
      obtain ⟨hmarked, hlast⟩ := hafter.afterCall
        (.markFaulted gpu (panicMessage payload)) id rfl
      exact ⟨.kept (fun hmoves => hmoves.elim) (hmarked.trans hledger) rfl
        (Or.inl rfl), hlast⟩
  | @freed name row hrow =>
      obtain ⟨_, allocation, -, hlive, -⟩ := hinvariant.backed _ _ hrow
      rcases hbooks.freeVram_cases name with
        ⟨other, left, later, hother, -, hrun, hledger⟩ | ⟨hnone, -⟩
      · have hsound := AccountsVram.sound (before.driver, before.ids)
          (.freeVram name) hbooks.sound
        rw [GpuDriver.call, hrun] at hsound
        rw [hrun]
        exact ⟨.returned hrow hother hledger rfl rfl,
          hbooks.credited hsound hother hledger⟩
      · cases hlive.symm.trans hnone
  | @recovered context caps found driver hadmin hcontext hreset =>
      obtain ⟨hledger, hafter⟩ := hbooks.afterCall (.resetDevice found.gpu) id
        (congrArg Prod.snd hreset).symm
      exact ⟨.dropped hcontext hledger rfl rfl, hafter⟩

/-! ### Backed resources -/

theorem BooksInvariant.backed_preserved
    (hinvariant : BooksInvariant whole before)
    (heffect : BooksEffect before after op answer) (name : ObjectId)
    (row : Resource) (hrow : after.resources.get name = some row) :
    ∃ found allocation, after.devices.get row.device = some found ∧
      (liveAllocations after.driver).get name = some allocation ∧
        allocation.device = found.gpu ∧
          allocation.size = resourceSize row.kind := by
  cases heffect with
  | kept hanswer hledger hresources hdevices =>
      rw [hresources] at hrow
      obtain ⟨found, allocation, hcontext, hlive, hbacks⟩ :=
        hinvariant.backed name row hrow
      refine ⟨found, allocation, ?_, ?_, hbacks⟩
      · rcases hdevices with hkept | ⟨created, hcreated⟩
        · rw [hkept, hcontext]
        · have hne : row.device ≠ before.ids.next := by
            intro heq
            rw [heq, hinvariant.contexts.fresh] at hcontext
            cases hcontext
          rw [hcreated, Table.get_insert_ne _ _ hne, hcontext]
      · rw [liveAllocations, hledger]
        exact hlive
  | @drawn id kind memoryClass found new left hcontext hid hgpu hsize hleft
      hfits hledger hresources hdevices =>
      have hallocations : liveAllocations after.driver =
          (liveAllocations before.driver).insert new.id new := by
        rw [liveAllocations, hledger]
        rfl
      rw [hresources] at hrow
      rw [hallocations, hdevices]
      rcases Table.row_of_insert hrow with ⟨rfl, rfl⟩ | ⟨hne, hrow⟩
      · exact ⟨found, new, hcontext, Table.get_insert_self _ _ _, hgpu, hsize⟩
      · rw [Table.get_insert_ne _ _ hne]
        exact hinvariant.backed name row hrow
  | @returned freed old allocation hold hlive hledger hresources hdevices =>
      have hallocations : liveAllocations after.driver =
          (liveAllocations before.driver).erase freed := by
        rw [liveAllocations, hledger]
        rfl
      rw [hresources] at hrow
      obtain ⟨hne, hrow⟩ := Table.row_of_erase hrow
      rw [hallocations, hdevices, Table.get_erase_ne _ hne]
      exact hinvariant.backed name row hrow
  | @dropped id caps found hcontext hledger hresources hdevices =>
      rw [hresources] at hrow
      obtain ⟨hold, hother⟩ := Table.row_of_retain hrow
      have hne : row.device ≠ id := of_decide_eq_true hother
      rw [hdevices, Table.get_erase_ne _ hne, liveAllocations, hledger]
      exact hinvariant.backed name row hold

theorem BooksInvariant.preserved (hinvariant : BooksInvariant whole before)
    (heffect : Effect before op answer after) (hkeeps : KeepsBooks op) :
    BooksInvariant whole after where
  books := (heffect.onBooks hinvariant hkeeps).2
  contexts := hinvariant.contexts.preserved heffect
  backed := hinvariant.backed_preserved (heffect.onBooks hinvariant hkeeps).1

/-! ### The bytes that a step moves -/

/-- The step moves no byte of a GPU's pool, draws some of them, gives some
back, or leaves some behind. -/
structure MovesOn (gpu : ObjectId) (e : RuntimeEvent D P) : Prop where
  registered : registeredOn e.after gpu + lostBy gpu e + givenBackBy gpu e =
    registeredOn e.before gpu + drawnBy gpu e
  live : liveBytes e.after.driver gpu + givenBackBy gpu e =
    liveBytes e.before.driver gpu + drawnBy gpu e

omit [GpuDriver D] [AccountsVram D] in
theorem movesNothing_of_refused (before after : GraphicsRuntime D P)
    (gpu : ObjectId) (hanswer : MovesBytes op → ¬ IsOk answer) :
    let e : RuntimeEvent D P := ⟨before, op, answer, after⟩
    drawnBy gpu e = 0 ∧ givenBackBy gpu e = 0 ∧ lostBy gpu e = 0 := by
  cases answer with
  | error error => cases op <;> exact ⟨rfl, rfl, rfl⟩
  | ok reply =>
      have hnot : ¬ MovesBytes op := fun hmoves => hanswer hmoves (isOk_ok _)
      cases op with
      | createResource id kind memoryClass => exact absurd trivial hnot
      | freeResource name => exact absurd trivial hnot
      | recoverDevice id caps => exact absurd trivial hnot
      | _ => exact ⟨rfl, rfl, rfl⟩

/-- A context that is opened takes no byte of any registered resource. -/
theorem BooksInvariant.bytesOn_opened (hinvariant : BooksInvariant whole before)
    {name gpu : ObjectId} {row : Resource} {created : GraphicsDevice}
    (hrow : before.resources.get name = some row) :
    bytesOn (before.devices.insert before.ids.next created) gpu row =
      bytesOn before.devices gpu row := by
  obtain ⟨found, -, hcontext, -⟩ := hinvariant.backed name row hrow
  have hne : row.device ≠ before.ids.next := by
    intro heq
    rw [heq, hinvariant.contexts.fresh] at hcontext
    cases hcontext
  rw [bytesOn, bytesOn, Table.get_insert_ne _ _ hne]

/-- A registered resource takes what its allocation takes. -/
theorem BooksInvariant.bytesOn_eq (hinvariant : BooksInvariant whole before)
    {name : ObjectId} {row : Resource} {allocation : GpuAllocation}
    (hrow : before.resources.get name = some row)
    (hlive : (liveAllocations before.driver).get name = some allocation)
    (gpu : ObjectId) :
    bytesOn before.devices gpu row =
      if allocation.device = gpu then allocation.size else 0 := by
  obtain ⟨found, other, hcontext, hother, hgpu, hsize⟩ :=
    hinvariant.backed name row hrow
  cases hother.symm.trans hlive
  simp only [bytesOn, hcontext, hgpu, hsize]

theorem BooksInvariant.resource_fresh
    (hinvariant : BooksInvariant whole before) :
    before.resources.get before.ids.next = none := by
  rw [Option.eq_none_iff_forall_ne_some]
  intro row hrow
  obtain ⟨-, allocation, -, hlive, -⟩ := hinvariant.backed _ row hrow
  rw [hinvariant.books.fresh] at hlive
  cases hlive

theorem BooksInvariant.movesOn (hinvariant : BooksInvariant whole before)
    (heffect : BooksEffect before after op answer) (gpu : ObjectId) :
    MovesOn gpu ⟨before, op, answer, after⟩ := by
  cases heffect with
  | kept hanswer hledger hresources hdevices =>
      obtain ⟨hdrawn, hgiven, hlost⟩ :=
        movesNothing_of_refused before after gpu hanswer
      have hregistered : registeredOn after gpu = registeredOn before gpu := by
        rw [registeredOn, registeredOn, hresources]
        apply Table.total_congr
        intro name row hrow
        rcases hdevices with hkept | ⟨created, hcreated⟩
        · rw [hkept]
        · rw [hcreated, hinvariant.bytesOn_opened hrow]
      constructor
      · rw [hdrawn, hgiven, hlost, hregistered]
      · rw [hdrawn, hgiven, liveBytes, liveBytes, liveAllocations,
          liveAllocations, hledger]
  | @drawn id kind memoryClass found new left hcontext hid hgpu hsize hleft
      hfits hledger hresources hdevices =>
      let created : Resource := ⟨new.id, id, kind, memoryClass⟩
      have hbytes : bytesOn before.devices gpu created =
          if new.device = gpu then new.size else 0 := by
        simp only [created, bytesOn, hcontext, hgpu, hsize]
      have hfree := hinvariant.resource_fresh
      have hfresh := hinvariant.books.fresh
      rw [← hid] at hfree hfresh
      have hallocations : liveAllocations after.driver =
          (liveAllocations before.driver).insert new.id new := by
        rw [liveAllocations, hledger]
        rfl
      constructor
      · change registeredOn after gpu + 0 + 0 =
          registeredOn before gpu + bytesOn before.devices gpu created
        rw [registeredOn, registeredOn, hresources, hdevices,
          Table.total_insert _ _ _ hfree]
        exact Nat.add_comm (bytesOn before.devices gpu created) _
      · change liveBytes after.driver gpu + 0 =
          liveBytes before.driver gpu + bytesOn before.devices gpu created
        rw [liveBytes, liveBytes, hallocations, Table.drawn,
          Table.total_insert _ _ _ hfresh, hbytes, Table.drawn]
        omega
  | @returned name row allocation hrow hlive hledger hresources hdevices =>
      have hbytes := hinvariant.bytesOn_eq hrow hlive gpu
      have hgiven : givenBackBy gpu (⟨before, .freeResource name, .ok .unit,
          after⟩ : RuntimeEvent D P) = bytesOn before.devices gpu row := by
        simp only [givenBackBy, hrow, Option.map_some, Option.getD_some]
      have hallocations : liveAllocations after.driver =
          (liveAllocations before.driver).erase name := by
        rw [liveAllocations, hledger]
        rfl
      constructor
      · have htotal := Table.total_erase before.resources
          (fun _ other => bytesOn before.devices gpu other) hrow
        change registeredOn after gpu + 0 + givenBackBy gpu _ =
          registeredOn before gpu + 0
        rw [hgiven, registeredOn, registeredOn, hresources, hdevices]
        omega
      · have htotal := Table.total_erase (liveAllocations before.driver)
          (fun _ other => if other.device = gpu then other.size else 0) hlive
        change liveBytes after.driver gpu + givenBackBy gpu _ =
          liveBytes before.driver gpu + 0
        rw [hgiven, hbytes, liveBytes, liveBytes, hallocations, Table.drawn,
          Table.drawn]
        omega
  | @dropped id caps found hcontext hledger hresources hdevices =>
      have hstays : registeredOn after gpu =
          (before.resources.retain fun _ row => row.device ≠ id).total
            fun _ row => bytesOn before.devices gpu row := by
        rw [registeredOn, hresources]
        apply Table.total_congr
        intro name row hrow
        obtain ⟨-, hother⟩ := Table.row_of_retain hrow
        have hne : row.device ≠ id := of_decide_eq_true hother
        rw [hdevices, bytesOn, bytesOn, Table.get_erase_ne _ hne]
      have htotal := Table.total_retain before.resources
        (fun _ row => row.device ≠ id)
        (fun _ row => bytesOn before.devices gpu row)
      simp only [decide_eq_true_eq, ite_not] at htotal
      constructor
      · change registeredOn after gpu + lostBy gpu _ + 0 =
          registeredOn before gpu + 0
        rw [hstays]
        exact htotal
      · rw [liveBytes, liveBytes, liveAllocations, liveAllocations, hledger]
        rfl

/-! ### Over a run -/

/-- The pools after a history: what the resources take and what was left behind
is what the driver counts as live, and so is what was drawn and not given
back. -/
structure BooksHistory (whole : Nat) (past : List (RuntimeEvent D P))
    (now : GraphicsRuntime D P) : Prop where
  invariant : BooksInvariant whole now
  registered : ∀ gpu, registeredOn now gpu + overall (lostBy gpu) past =
    liveBytes now.driver gpu
  drawn : ∀ gpu, liveBytes now.driver gpu + overall (givenBackBy gpu) past =
    overall (drawnBy gpu) past

variable {past : List (RuntimeEvent D P)}

theorem BooksHistory.extend (hhistory : BooksHistory whole past before)
    (heffect : Effect before op answer after) (hkeeps : KeepsBooks op) :
    BooksHistory whole (past ++ [⟨before, op, answer, after⟩]) after := by
  have hmoves := hhistory.invariant.movesOn
    (heffect.onBooks hhistory.invariant hkeeps).1
  refine ⟨hhistory.invariant.preserved heffect hkeeps, ?_, ?_⟩
  · intro gpu
    have hbefore := hhistory.registered gpu
    obtain ⟨hregistered, hlive⟩ := hmoves gpu
    dsimp only at hregistered hlive
    rw [overall_concat]
    omega
  · intro gpu
    have hbefore := hhistory.drawn gpu
    have hlive := (hmoves gpu).live
    dsimp only at hlive
    rw [overall_concat, overall_concat]
    omega

/-- The pool of a GPU: what is available, registered and left behind makes up
the whole of it, so does what is available after all that was drawn and given
back, and a resource is granted exactly while it fits. -/
structure PoolAccounted (whole : Nat) (past : List (RuntimeEvent D P))
    (now : GraphicsRuntime D P) (gpu : ObjectId) (available : Nat) : Prop where
  reported : GpuDriver.vramAvailable now.driver gpu = .ok available
  held : available + registeredOn now gpu + overall (lostBy gpu) past = whole
  moved : available + overall (drawnBy gpu) past =
    whole + overall (givenBackBy gpu) past
  grants : ∀ id found kind memoryClass, now.devices.get id = some found →
    found.gpu = gpu →
      (IsOk (createResource id kind memoryClass now).1 ↔
        resourceSize kind ≤ available)

/-- A resource is granted exactly if what it takes is still available. -/
theorem BooksHistory.createResource_iff
    (hhistory : BooksHistory whole past now) {id : ObjectId}
    {found : GraphicsDevice} {left : Nat}
    (hcontext : now.devices.get id = some found)
    (hleft : (ledger now.driver).remaining found.gpu = some left)
    (kind : ResourceKind) (memoryClass : MemoryClass) :
    IsOk (createResource id kind memoryClass now).1 ↔
      resourceSize kind ≤ left := by
  rcases hhistory.invariant.books.allocateVram_cases found.gpu
    (resourceSize kind) memoryClass with
    ⟨other, address, later, hother, hfits, hrun, -⟩ | ⟨hshort, error, hrun⟩
  · rw [createResource_of_granted now kind hcontext hrun]
    cases hother.symm.trans hleft
    exact iff_of_true (isOk_ok _) hfits
  · rw [createResource_of_refused now kind hcontext hrun]
    exact iff_of_false (not_isOk_error _) (Nat.not_le.mpr (hshort left hleft))

theorem BooksHistory.accounted (hhistory : BooksHistory whole past now)
    {gpu : ObjectId} (hprobed : Probed now.driver gpu) :
    ∃ available, PoolAccounted whole past now gpu available := by
  have hbooks := hhistory.invariant.books
  obtain ⟨left, hleft, hsum⟩ := hbooks.remaining_of_probed hprobed
  have hregistered := hhistory.registered gpu
  have hdrawn := hhistory.drawn gpu
  refine ⟨left, InBalance.available_of_remaining hleft, ?_, ?_, ?_⟩
  · omega
  · omega
  · rintro id found kind memoryClass hcontext rfl
    exact hhistory.createResource_iff hcontext hleft kind memoryClass

variable [GPUDriver P]

theorem booksHistory_new {driver : D} {ids : IdSource}
    (hbooks : InBalance whole driver ids)
    (hnone : liveAllocations driver = Table.empty)
    (presentationVramBytes : Nat) :
    BooksHistory whole []
      (new driver presentationVramBytes ids : GraphicsRuntime D P) := by
  have hzero : ∀ gpu, liveBytes driver gpu = 0 := by
    intro gpu
    rw [liveBytes, hnone]
    rfl
  constructor
  · exact ⟨hbooks, by simp [ContextsIssued, new], by simp [new]⟩
  · intro gpu
    exact (hzero gpu).symm
  · exact hzero

theorem BooksHistory.run {start : GraphicsRuntime D P}
    (hstart : BooksHistory whole [] start) (ops : List (Op D))
    (hkeeps : ∀ op ∈ ops, KeepsBooks op) :
    BooksHistory whole (Machine.trace step start ops)
      (Machine.run step start ops) := by
  induction ops using List.reverseRecOn with
  | nil => exact hstart
  | append_singleton first op ih =>
      rw [Machine.trace_concat, Machine.run_concat]
      have hfirst := ih fun other hmem =>
        hkeeps other (List.mem_append_left _ hmem)
      exact hfirst.extend (step_effect _ op) (hkeeps op (by simp))

/-- Every run from the start accounts for the pool of every GPU. -/
def AccountsForPools (whole : Nat) (start : GraphicsRuntime D P) : Prop :=
  ∀ ops : List (Op D), (∀ op ∈ ops, KeepsBooks op) → ∀ gpu,
    Probed (Machine.run step start ops).driver gpu →
      ∃ available, PoolAccounted whole (Machine.trace step start ops)
        (Machine.run step start ops) gpu available

theorem accountsForPools_new {driver : D} {ids : IdSource}
    (hbooks : InBalance whole driver ids)
    (hnone : liveAllocations driver = Table.empty)
    (presentationVramBytes : Nat) :
    AccountsForPools whole
      (new driver presentationVramBytes ids : GraphicsRuntime D P) := by
  intro ops hkeeps gpu hprobed
  have hstart := booksHistory_new hbooks hnone presentationVramBytes (P := P)
  exact (hstart.run ops hkeeps).accounted hprobed

end Books

/-- Over either driver, every byte of every GPU's pool is available, held by a
registered resource or left behind by a recovery, in every reachable state. -/
theorem every_byte_accounted {P B : Type} [GPUDriver P] [VulkanBackend B]
    (vramBytes presentationVramBytes : Nat) (ids : IdSource) :
    (∀ count, AccountsForPools vramBytes (overSoftware count vramBytes
      presentationVramBytes ids : SoftwareRuntime P)) ∧
      ∀ (backend : B) (spawned : Except String Unit) (driver : VulkanDriver B)
        (later : IdSource), VulkanDriver.withBackend backend vramBytes spawned
          ids = (.ok driver, later) →
        AccountsForPools vramBytes
          (new driver presentationVramBytes later :
            GraphicsRuntime (VulkanDriver B) P) := by
  constructor
  · intro count
    exact accountsForPools_new
      (SoftwareGpuDriver.inBalance_withDevices count vramBytes ids) rfl
      presentationVramBytes
  · intro backend spawned driver later hopened
    obtain ⟨adapters, backend, rfl, rfl⟩ := VulkanDriver.withBackend_ok hopened
    exact accountsForPools_new
      (VulkanDriver.inBalance_start adapters vramBytes ids backend) rfl
      presentationVramBytes

namespace LeftBehind

/-- A context takes 600 and 100 bytes, frees the 100 and is recovered. -/
def ops : List (Op SoftwareGpuDriver) :=
  [.createDevice ⟨0⟩ .full, .createResource ⟨1⟩ (.buffer 600 {}) .deviceLocal,
    .createResource ⟨1⟩ (.buffer 100 {}) .deviceLocal, .freeResource ⟨6⟩,
    .recoverDevice ⟨1⟩ .full]

theorem recovery_accounted :
    GpuDriver.vramAvailable (Machine.run step (sample 1 1024) ops).driver ⟨0⟩ =
        .ok 424 ∧
      overall (lostBy ⟨0⟩) (Machine.trace step (sample 1 1024) ops) = 600 ∧
      ∃ available, PoolAccounted 1024 (Machine.trace step (sample 1 1024) ops)
        (Machine.run step (sample 1 1024) ops) ⟨0⟩ available := by
  refine ⟨by decide, by decide, ?_⟩
  have hboth := every_byte_accounted (P := BareDisplay) (B := ScriptedBackend)
    1024 0 .sequential
  apply hboth.1 1 ops
  · simp [ops, KeepsBooks]
  · exact ⟨_, _, rfl, List.mem_cons_self, rfl⟩

end LeftBehind

end GraphicsRuntime

end SherGraphics
