/-
The memory that a new resource reserves.  Its size is a product taken in 64
bits before the driver compares it with what is left, so the memory of an image
is reserved in full only if all its bytes can be counted in 64 bits.
-/
import SherGraphics.Runtime

namespace SherGraphics

/-- The number of bytes of a resource, however large. -/
def byteSize : ResourceKind → Nat
  | .buffer size _ => size
  | .image width height depth format _ =>
      width.toNat * height.toNat * depth.toNat * bytesPerPixel format

/-- The bytes can be counted in 64 bits; those of a buffer are given so. -/
def FitsUsize : ResourceKind → Prop
  | .buffer _ _ => True
  | .image width height depth format _ =>
      width.toNat * height.toNat * depth.toNat * bytesPerPixel format < 2 ^ 64

theorem resourceSize_image (width height depth : UInt32) (format : PixelFormat)
    (usage : ImageUsage) :
    resourceSize (.image width height depth format usage) =
      byteSize (.image width height depth format usage) % 2 ^ 64 := by
  simp only [resourceSize, byteSize, usizeMul, Nat.mod_mul_mod]

theorem resourceSize_eq_iff (kind : ResourceKind) :
    resourceSize kind = byteSize kind ↔ FitsUsize kind := by
  cases kind with
  | buffer size usage => simp [resourceSize, byteSize, FitsUsize]
  | image width height depth format usage =>
      rw [resourceSize_image, Nat.mod_eq_iff_lt (by decide)]
      rfl

namespace SoftwareGpuDriver

variable {driver : SoftwareGpuDriver} {gpu : ObjectId} {found : DeviceState}

theorem vramAvailable_of_known
    (hfound : driver.devices.get gpu = some found) :
    driver.vramAvailable gpu = .ok found.vramAvailable := by
  rw [vramAvailable, state_of_known hfound]
  rfl

/-- What a granted allocation leaves of the device. -/
theorem vramAvailable_afterAllocate
    (hfound : driver.devices.get gpu = some found) (ids : IdSource)
    (size : Nat) (memoryClass : MemoryClass) :
    (driver.afterAllocate (grantedAllocation ids gpu found size
        memoryClass)).vramAvailable gpu = .ok (found.vramAvailable - size) := by
  have hleft : (driver.afterAllocate (grantedAllocation ids gpu found size
      memoryClass)).devices.get gpu =
        some { found with vramAvailable := found.vramAvailable - size } := by
    simp [afterAllocate, grantedAllocation, Table.get_modify, hfound]
  exact vramAvailable_of_known hleft

end SoftwareGpuDriver

namespace GraphicsRuntime

variable {P : Type}

/-- A created resource took all its bytes from what the device of its context
had left, and a creation that failed changed nothing. -/
def Reserves (now : SoftwareRuntime P) (id : ObjectId) (kind : ResourceKind)
    (memoryClass : MemoryClass) : Prop :=
  match createResource id kind memoryClass now with
  | (.ok _, after) => ∃ context remaining,
      now.devices.get id = some context ∧
        now.driver.vramAvailable context.gpu = .ok remaining ∧
        byteSize kind ≤ remaining ∧
        after.driver.vramAvailable context.gpu =
          .ok (remaining - byteSize kind)
  | (.error _, after) => after = now

/-- The context is unknown, or so is its device, or the device has less left
than the computed size. -/
def CannotCreate (now : SoftwareRuntime P) (id : ObjectId)
    (kind : ResourceKind) : Prop :=
  ∀ context found, now.devices.get id = some context →
    now.driver.devices.get context.gpu = some found →
      found.vramAvailable < resourceSize kind

/-- The size is computed for a known context only, and then without an
overflow. -/
def SizedExactly (now : SoftwareRuntime P) (id : ObjectId)
    (kind : ResourceKind) : Prop :=
  ∀ context, now.devices.get id = some context →
    resourceSize kind = byteSize kind

section Reserves

variable {now : SoftwareRuntime P} {id : ObjectId}

theorem reserves_of_unknown (hunknown : now.devices.get id = none)
    (kind : ResourceKind) (memoryClass : MemoryClass) :
    Reserves now id kind memoryClass := by
  rw [Reserves, createResource_of_unknown now hunknown]

theorem reserves_of_refused {context : GraphicsDevice} {kind : ResourceKind}
    {memoryClass : MemoryClass} {error : Error}
    (hcontext : now.devices.get id = some context)
    (hrefused : GpuDriver.allocateVram context.gpu (resourceSize kind)
      memoryClass (now.driver, now.ids) = (.error error, now.driver, now.ids)) :
    Reserves now id kind memoryClass := by
  rw [Reserves, createResource_of_refused now kind hcontext hrefused]

/-- A granted resource reserves its bytes if they were counted right. -/
theorem reserves_of_granted {context : GraphicsDevice} {found : DeviceState}
    {kind : ResourceKind} {memoryClass : MemoryClass}
    (hcontext : now.devices.get id = some context)
    (hfound : now.driver.devices.get context.gpu = some found)
    (hroom : resourceSize kind ≤ found.vramAvailable)
    (hgranted : GpuDriver.allocateVram context.gpu (resourceSize kind)
      memoryClass (now.driver, now.ids) =
        (.ok (SoftwareGpuDriver.grantedAllocation now.ids context.gpu found
            (resourceSize kind) memoryClass),
          now.driver.afterAllocate (SoftwareGpuDriver.grantedAllocation now.ids
            context.gpu found (resourceSize kind) memoryClass),
          now.ids.advance 1)) :
    Reserves now id kind memoryClass ↔ FitsUsize kind := by
  have hbefore := SoftwareGpuDriver.vramAvailable_of_known hfound
  have hafter := SoftwareGpuDriver.vramAvailable_afterAllocate hfound now.ids
    (resourceSize kind) memoryClass
  rw [Reserves, createResource_of_granted now kind hcontext hgranted,
    ← resourceSize_eq_iff]
  constructor
  · rintro ⟨_, remaining, hsame, hremaining, hfits, hleft⟩
    rw [hcontext] at hsame
    cases hsame
    rw [hbefore] at hremaining
    cases hremaining
    have htaken : found.vramAvailable - resourceSize kind =
        found.vramAvailable - byteSize kind :=
      Except.ok.inj (hafter.symm.trans hleft)
    omega
  · intro hexact
    rw [hexact] at hroom hafter
    exact ⟨context, found.vramAvailable, hcontext, hbefore, hroom,
      hexact ▸ hafter⟩

/-- The reservation is right exactly if the bytes were counted right or the
creation is refused. -/
theorem reserves_iff (kind : ResourceKind) (memoryClass : MemoryClass) :
    Reserves now id kind memoryClass ↔
      CannotCreate now id kind ∨ FitsUsize kind := by
  cases hcontext : now.devices.get id with
  | none =>
      refine iff_of_true (reserves_of_unknown hcontext kind memoryClass) ?_
      refine Or.inl fun context found hknown => ?_
      rw [hcontext] at hknown
      cases hknown
  | some context =>
      rcases now.driver.allocateVram_cases now.ids context.gpu
        (resourceSize kind) memoryClass with
        ⟨found, hfound, hroom, hgranted⟩ | ⟨hshort, error, hrefused⟩
      · have hcreates : ¬ CannotCreate now id kind := fun hshort =>
          Nat.not_lt.mpr hroom (hshort context found hcontext hfound)
        rw [reserves_of_granted hcontext hfound hroom hgranted]
        simp [hcreates]
      · refine iff_of_true (reserves_of_refused hcontext hrefused) ?_
        refine Or.inl fun known found hknown hfound => ?_
        rw [hcontext] at hknown
        cases hknown
        exact hshort found hfound

theorem sizedExactly_iff (kind : ResourceKind) :
    SizedExactly now id kind ↔
      now.devices.get id = none ∨ FitsUsize kind := by
  rw [← resourceSize_eq_iff, SizedExactly]
  cases now.devices.get id with
  | none => simp
  | some context => simp

end Reserves

/-- In every state and for every resource: the call reserves the real size
exactly if the bytes of the resource can be counted in 64 bits or the creation
is refused anyway, and it also computes that size without an overflow exactly
if they can be counted so or the context is unknown. -/
theorem create_reserves_iff (now : SoftwareRuntime P) (id : ObjectId)
    (kind : ResourceKind) (memoryClass : MemoryClass) :
    (Reserves now id kind memoryClass ↔
        CannotCreate now id kind ∨ FitsUsize kind) ∧
      (Reserves now id kind memoryClass ∧ SizedExactly now id kind ↔
        now.devices.get id = none ∨ FitsUsize kind) := by
  refine ⟨reserves_iff kind memoryClass, ?_⟩
  rw [reserves_iff, sizedExactly_iff, and_iff_right_iff_imp]
  rintro (hunknown | hfits)
  · left
    simp [CannotCreate, hunknown]
  · exact Or.inr hfits

end GraphicsRuntime

namespace HugeImage

open GraphicsRuntime

/-- A context over one device of 1024 bytes. -/
def start : SoftwareRuntime BareDisplay :=
  (createDevice ⟨0⟩ .full (.sample 1 1024)).2

/-- 2 ^ 64 bytes. -/
def kind : ResourceKind :=
  .image 2147483648 2147483648 1 .rgba8Unorm {}

/-- An image far larger than the device is created and takes no memory. -/
theorem huge_image_created :
    (createResource ⟨1⟩ kind .deviceLocal start).1 =
        .ok ⟨⟨5⟩, ⟨1⟩, kind, .deviceLocal⟩ ∧
      ¬ Reserves start ⟨1⟩ kind .deviceLocal := by
  refine ⟨by decide, fun hreserves => ?_⟩
  have hlarge : ¬ FitsUsize kind := Nat.not_lt.mpr (by decide)
  have hshort := ((reserves_iff kind _).mp hreserves).resolve_right hlarge
  exact absurd (hshort _ _ rfl rfl) (Nat.not_lt_zero _)

end HugeImage

end SherGraphics
