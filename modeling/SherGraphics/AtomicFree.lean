/-
What a failed `free_resource` leaves behind.  The row of the resource is gone
before the driver is asked, so the call is all or nothing only where the driver
does not refuse a registered resource.
-/
import SherGraphics.DrmCompat

namespace SherGraphics

namespace GraphicsRuntime

section Drivers

variable {D P : Type} [GpuDriver D]

/-- The driver, asked to free this allocation, removes it and no other or
fails and stays as it was. -/
structure FreesCleanly (allocations : D → Table ObjectId GpuAllocation)
    (driver : D) (id : ObjectId) : Prop where
  freed : (GpuDriver.freeVram id driver).1 = .ok () →
    allocations (GpuDriver.freeVram id driver).2 =
      (allocations driver).erase id
  failed : ∀ error, (GpuDriver.freeVram id driver).1 = .error error →
    (GpuDriver.freeVram id driver).2 = driver

/-- A call that freed took exactly one registered resource and its allocation,
and one that failed took nothing. -/
def AllOrNothing {α : Type} (allocations : D → Table ObjectId GpuAllocation)
    (now : GraphicsRuntime D P) (id : ObjectId) :
    Result α × GraphicsRuntime D P → Prop
  | (.ok _, after) =>
      (∃ row, now.resources.get id = some row) ∧
        after.resources = now.resources.erase id ∧
        allocations after.driver = (allocations now.driver).erase id
  | (.error _, after) =>
      after.resources = now.resources ∧
        allocations after.driver = allocations now.driver

variable {allocations : D → Table ObjectId GpuAllocation}
  {now : GraphicsRuntime D P} {id : ObjectId}

/-- Closing a handle frees its resource and answers accordingly. -/
theorem gemClose_run :
    DrmCompatShim.step now (.gemClose id) =
      ((freeResource id now).1.map fun _ => .closed,
        (freeResource id now).2) := by
  rw [DrmCompatShim.step, DrmCompatShim.handle, Method.bind_run]
  obtain ⟨answer, after⟩ := freeResource id now
  cases answer with
  | ok freed => rfl
  | error error => rfl

/-- The shim's answer is all or nothing when the runtime's is. -/
theorem allOrNothing_gemClose
    (hfree : AllOrNothing allocations now id (freeResource id now)) :
    AllOrNothing allocations now id
      (DrmCompatShim.step now (.gemClose id)) := by
  rw [gemClose_run]
  generalize freeResource id now = ended at hfree ⊢
  obtain ⟨answer, after⟩ := ended
  cases answer with
  | ok freed => exact hfree
  | error error => exact hfree

theorem allOrNothing_of_unknown (hunknown : now.resources.get id = none) :
    AllOrNothing allocations now id (freeResource id now) := by
  rw [freeResource_of_unknown now hunknown]
  exact ⟨rfl, rfl⟩

theorem allOrNothing_of_freed (hclean : FreesCleanly allocations now.driver id)
    {row : Resource} (hknown : now.resources.get id = some row)
    (hfreed : (GpuDriver.freeVram id now.driver).1 = .ok ()) :
    AllOrNothing allocations now id (freeResource id now) := by
  rw [freeResource_of_known now hknown, hfreed]
  exact ⟨⟨row, hknown⟩, rfl, hclean.freed hfreed⟩

/-- A registered resource that the driver does not free is lost. -/
theorem not_allOrNothing_of_refused {row : Resource} {error : Error}
    (hknown : now.resources.get id = some row)
    (hrefused : (GpuDriver.freeVram id now.driver).1 = .error error) :
    ¬ AllOrNothing allocations now id (freeResource id now) := by
  rw [freeResource_of_known now hknown, hrefused]
  rintro ⟨hresources, -⟩
  have hkept : (now.resources.erase id).get id = some row := by
    rw [← hknown]
    exact congrArg (fun table => Table.get table id) hresources
  rw [Table.get_erase_self] at hkept
  cases hkept

/-- Over every driver that frees cleanly, in every state: freeing a resource,
and closing its handle, is all or nothing exactly if the resource is not
registered or the driver can free it. -/
theorem free_all_or_nothing_iff
    (hclean : FreesCleanly allocations now.driver id) :
    (AllOrNothing allocations now id (freeResource id now) ∧
        AllOrNothing allocations now id
          (DrmCompatShim.step now (.gemClose id))) ↔
      now.resources.get id = none ∨
        (GpuDriver.freeVram id now.driver).1 = .ok () := by
  have hfree : AllOrNothing allocations now id (freeResource id now) ↔
      now.resources.get id = none ∨
        (GpuDriver.freeVram id now.driver).1 = .ok () := by
    cases hknown : now.resources.get id with
    | none => exact iff_of_true (allOrNothing_of_unknown hknown) (Or.inl rfl)
    | some row =>
        cases hdriver : (GpuDriver.freeVram id now.driver).1 with
        | ok freed =>
            exact iff_of_true (allOrNothing_of_freed hclean hknown hdriver)
              (Or.inr rfl)
        | error error =>
            refine iff_of_false (not_allOrNothing_of_refused hknown hdriver) ?_
            simp
  rw [and_iff_left_of_imp allOrNothing_gemClose, hfree]

end Drivers

/-- The software driver frees cleanly what it gave to a device it has. -/
theorem software_freesCleanly {driver : SoftwareGpuDriver} {id : ObjectId}
    (howned : ∀ allocation, driver.allocations.get id = some allocation →
      ∃ found, driver.devices.get allocation.device = some found) :
    FreesCleanly SoftwareGpuDriver.allocations driver id := by
  cases hlive : driver.allocations.get id with
  | none =>
      have hrun : GpuDriver.freeVram id driver =
          (.error (.memory "unknown allocation"), driver) :=
        SoftwareGpuDriver.freeVram_of_unknown hlive
      exact ⟨by simp [hrun], by simp [hrun]⟩
  | some allocation =>
      obtain ⟨found, hfound⟩ := howned allocation hlive
      have hrun : GpuDriver.freeVram id driver =
          (.ok (), driver.afterFree allocation id) :=
        SoftwareGpuDriver.freeVram_of_live hlive hfound
      exact ⟨by simp [hrun, SoftwareGpuDriver.afterFree], by simp [hrun]⟩

end GraphicsRuntime

namespace LostResource

open GraphicsRuntime

/-- A context over one device, with a buffer of 64 bytes. -/
def start : SoftwareRuntime BareDisplay :=
  (createResource ⟨1⟩ (.buffer 64 {}) .deviceLocal
    (createDevice ⟨0⟩ .full (.sample 1 1024)).2).2

theorem start_freesCleanly :
    FreesCleanly SoftwareGpuDriver.allocations start.driver ⟨5⟩ := by
  apply software_freesCleanly
  intro allocation hlive
  cases hlive
  exact ⟨_, rfl⟩

theorem start_all_or_nothing :
    AllOrNothing SoftwareGpuDriver.allocations start ⟨5⟩
        (freeResource ⟨5⟩ start) ∧
      AllOrNothing SoftwareGpuDriver.allocations start ⟨5⟩
        (DrmCompatShim.step start (.gemClose ⟨5⟩)) :=
  (free_all_or_nothing_iff start_freesCleanly).mpr (Or.inr rfl)

/-- The borrower of the driver frees the buffer. -/
def use : DriverUse SoftwareGpuDriver Unit where
  run := fun (driver, ids) =>
    let (result, driver) := GpuDriver.freeVram ⟨5⟩ driver
    (result, driver, ids)
  advances := fun _ ids => .refl ids

def borrowed : SoftwareRuntime BareDisplay :=
  (driverMut .full use start).2

/-- The driver fails and keeps its state, and the row is lost. -/
theorem failed_free_forgets :
    FreesCleanly SoftwareGpuDriver.allocations borrowed.driver ⟨5⟩ ∧
      (freeResource ⟨5⟩ borrowed).1 =
        .error (.memory "unknown allocation") ∧
      ¬ AllOrNothing SoftwareGpuDriver.allocations borrowed ⟨5⟩
        (freeResource ⟨5⟩ borrowed) := by
  have hgone : borrowed.driver.allocations.get ⟨5⟩ = none := by decide
  have hrefused : (GpuDriver.freeVram ⟨5⟩ borrowed.driver).1 =
      .error (.memory "unknown allocation") := by decide
  refine ⟨?_, by decide, not_allOrNothing_of_refused rfl hrefused⟩
  apply software_freesCleanly
  intro allocation hlive
  rw [hgone] at hlive
  cases hlive

end LostResource

end SherGraphics
