/-
What the graphics crates use of the kernel's crates: object identifiers,
errors, capabilities, the audit trail, device descriptions and the display
driver.  Those crates are not part of the repository.  Each item here is a
parameter with the documented behaviour the graphics code relies on, and
carries only the fields the graphics code reads.
-/
import SherGraphics.Method
import SherGraphics.Table

namespace SherGraphics

/-- `sher_common::ObjectId`: an opaque name that is only ever compared. -/
structure ObjectId where
  raw : Nat
deriving DecidableEq, Repr

/-- The process-wide source behind `ObjectId::new`.  It is any sequence of
identifiers without a repetition, and a count of those already handed out; the
field is the assumption that an identifier is never returned twice. -/
structure IdSource where
  draw : Nat → ObjectId
  draw_injective : Function.Injective draw
  drawn : Nat

namespace IdSource

/-- The identifier that the next call of `ObjectId::new` returns. -/
def next (ids : IdSource) : ObjectId := ids.draw ids.drawn

def advance (ids : IdSource) (count : Nat) : IdSource :=
  { ids with drawn := ids.drawn + count }

theorem draw_advance (ids : IdSource) (count index : Nat) :
    (ids.advance count).draw ((ids.advance count).drawn + index) =
      ids.draw (ids.drawn + (count + index)) :=
  congrArg ids.draw (Nat.add_assoc ids.drawn count index)

/-- The identifier was handed out by an earlier call. -/
def Issued (ids : IdSource) (id : ObjectId) : Prop :=
  ∃ index < ids.drawn, ids.draw index = id

/-- A later point of the same source. -/
structure Advances (ids later : IdSource) : Prop where
  draw_eq : later.draw = ids.draw
  drawn_le : ids.drawn ≤ later.drawn

theorem Advances.refl (ids : IdSource) : ids.Advances ids :=
  ⟨rfl, Nat.le_refl _⟩

theorem Advances.trans {first second third : IdSource}
    (hfirst : first.Advances second) (hsecond : second.Advances third) :
    first.Advances third :=
  ⟨hsecond.draw_eq.trans hfirst.draw_eq,
    Nat.le_trans hfirst.drawn_le hsecond.drawn_le⟩

theorem advance_advances (ids : IdSource) (count : Nat) :
    ids.Advances (ids.advance count) :=
  ⟨rfl, Nat.le_add_right _ _⟩

theorem Issued.mono {ids later : IdSource} {id : ObjectId}
    (hissued : ids.Issued id) (hlater : ids.Advances later) :
    later.Issued id := by
  obtain ⟨index, hlt, rfl⟩ := hissued
  exact ⟨index, Nat.lt_of_lt_of_le hlt hlater.drawn_le,
    by rw [hlater.draw_eq]⟩

/-- An identifier still to be drawn was never handed out. -/
theorem draw_not_issued (ids : IdSource) {index : Nat}
    (hle : ids.drawn ≤ index) : ¬ ids.Issued (ids.draw index) := by
  rintro ⟨earlier, hlt, heq⟩
  have hsame := ids.draw_injective heq
  omega

theorem next_not_issued (ids : IdSource) : ¬ ids.Issued ids.next :=
  ids.draw_not_issued (Nat.le_refl _)

theorem draw_issued (ids : IdSource) {index count : Nat}
    (hlt : index < ids.drawn + count) :
    (ids.advance count).Issued (ids.draw index) :=
  ⟨index, hlt, rfl⟩

theorem next_issued (ids : IdSource) : (ids.advance 1).Issued ids.next :=
  ids.draw_issued (Nat.lt_succ_self _)

/-- The source that hands out consecutive numbers. -/
def sequential : IdSource where
  draw := ObjectId.mk
  draw_injective := fun _ _ heq => ObjectId.mk.inj heq
  drawn := 0

end IdSource

/-- `sher_common::Error`.  The graphics crates build the first three; the last
stands for the other errors that a driver may pass through. -/
inductive Error where
  | device (message : String)
  | memory (message : String)
  | security (message : String)
  | other (message : String)
deriving DecidableEq, Repr

/-- `sher_common::Result`. -/
abbrev Result (α : Type) := Except Error α

/-- The result is a value. -/
def IsOk {α : Type} (result : Result α) : Prop :=
  ∃ value, result = .ok value

@[simp] theorem isOk_ok {α : Type} (value : α) :
    IsOk (.ok value : Result α) := ⟨value, rfl⟩

@[simp] theorem not_isOk_error {α : Type} (error : Error) :
    ¬ IsOk (.error error : Result α) := by
  rintro ⟨value, heq⟩
  cases heq

theorem isOk_map {α β : Type} {change : α → β} {result : Result α} :
    IsOk (result.map change) ↔ IsOk result := by
  cases result with
  | ok value => exact iff_of_true (isOk_ok (change value)) (isOk_ok value)
  | error error =>
      exact iff_of_false (not_isOk_error error) (not_isOk_error error)

/-- `sher_common::Capability`. -/
inductive Capability where
  | gpuAdmin
  | gpuCommandSubmit
  | gpuMemoryAlloc
  | other (name : String)
deriving DecidableEq, Repr

/-- The text `{capability:?}` prints. -/
def Capability.debug : Capability → String
  | .gpuAdmin => "GpuAdmin"
  | .gpuCommandSubmit => "GpuCommandSubmit"
  | .gpuMemoryAlloc => "GpuMemoryAlloc"
  | .other name => name

/-- `sher_objectmodel::CapabilitySet`, known through `has_capability` alone,
which is a pure function of the set. -/
structure CapabilitySet where
  hasCapability : Capability → Bool

/-- The set granting exactly the listed capabilities. -/
def CapabilitySet.granting (granted : List Capability) : CapabilitySet :=
  ⟨fun capability => decide (capability ∈ granted)⟩

/-- A set that grants every capability the graphics code asks for. -/
def CapabilitySet.full : CapabilitySet :=
  .granting [.gpuAdmin, .gpuCommandSubmit, .gpuMemoryAlloc]

/-- `sher_security::audit::AuditEvent`. -/
structure AuditEvent where
  actor : ObjectId
  action : String
  result : Bool
deriving DecidableEq, Repr

/-- `sher_security::audit::AuditLog`. -/
structure AuditLog where
  events : List AuditEvent
deriving DecidableEq, Repr

namespace AuditLog

/-- `AuditLog::default`. -/
def default : AuditLog := ⟨[]⟩

/-- `AuditLog::log` appends one event and drops none. -/
def log (audit : AuditLog) (actor : ObjectId) (action : String)
    (result : Bool) : AuditLog :=
  ⟨audit.events ++ [⟨actor, action, result⟩]⟩

end AuditLog

/-- `hal::DeviceInfo`. -/
structure DeviceInfo where
  id : ObjectId
  name : String
  vendorId : Nat
  deviceId : Nat
  capabilities : List String
deriving DecidableEq, Repr

/-- `gpu_driver::Connector`. -/
structure Connector where
  id : ObjectId
deriving DecidableEq, Repr

/-- `gpu_driver::Framebuffer`. -/
structure Framebuffer where
  id : ObjectId
deriving DecidableEq, Repr

/-- `gpu_driver::GPUDriver`, the display driver behind the presentation
bridge. -/
class GPUDriver (P : Type) where
  new : Nat → P
  registerConnector : Connector → Method Error P Unit
  getConnector : P → ObjectId → Option Connector
  allocateFramebuffer : UInt32 → UInt32 → Method Error P Framebuffer
  pageFlip : ObjectId → ObjectId → Method Error P Unit

/-- A display with connectors and no pixels. -/
structure BareDisplay where
  connectors : Table ObjectId Connector

instance : GPUDriver BareDisplay where
  new _ := ⟨Table.empty⟩
  registerConnector connector :=
    Method.change fun display =>
      ⟨display.connectors.insert connector.id connector⟩
  getConnector display id := display.connectors.get id
  allocateFramebuffer _ _ := pure ⟨⟨0⟩⟩
  pageFlip connector _ := do
    let display ← Method.read id
    let _ ← Method.okOr (display.connectors.get connector)
      (.device "unknown connector")
    pure ()

end SherGraphics
