/-
`FallbackDriver`: the Vulkan driver where there is one, and otherwise the
software driver with the reason why there is none.  Every method goes to the
driver that was selected.
-/
import SherGraphics.Runtime
import SherGraphics.VulkanDriver

namespace SherGraphics

/-- Explicit Vulkan-or-software selection. -/
inductive FallbackDriver (B : Type) where
  | vulkan (driver : VulkanDriver B)
  | software (driver : SoftwareGpuDriver) (reason : String)

namespace FallbackDriver

variable {B : Type}

/-- A Vulkan failure is not hidden: its text is kept next to the software
driver.  The first argument is `to_string` of an error. -/
def fromVulkanResult (toText : Error → String)
    (result : Result (VulkanDriver B)) (vramBytes : Nat) (ids : IdSource) :
    FallbackDriver B × IdSource :=
  match result with
  | .ok driver => (.vulkan driver, ids)
  | .error error =>
      let (driver, ids) := SoftwareGpuDriver.withDevices 1 vramBytes ids
      (.software driver (toText error), ids)

def isVulkan : FallbackDriver B → Bool
  | .vulkan _ => true
  | .software _ _ => false

def fallbackReason : FallbackDriver B → Option String
  | .vulkan _ => none
  | .software _ reason => some reason

variable [VulkanBackend B]

/-- A call that the selected driver serves. -/
def delegate {R : Type} (call : ∀ {D : Type} [GpuDriver D], D → R × D) :
    FallbackDriver B → R × FallbackDriver B
  | .vulkan driver =>
      let (reply, driver) := call driver
      (reply, .vulkan driver)
  | .software driver reason =>
      let (reply, driver) := call driver
      (reply, .software driver reason)

/-- A question that the selected driver answers. -/
def consult {R : Type} (ask : ∀ {D : Type} [GpuDriver D], D → R) :
    FallbackDriver B → R
  | .vulkan driver => ask driver
  | .software driver _ => ask driver

def allocateVram (device : ObjectId) (size : Nat) (memoryClass : MemoryClass) :
    Method Error (FallbackDriver B × IdSource) GpuAllocation :=
  fun (driver, ids) =>
    let ((result, ids), driver) := delegate (fun driver =>
      let (result, driver, ids) :=
        GpuDriver.allocateVram device size memoryClass (driver, ids)
      ((result, ids), driver)) driver
    (result, driver, ids)

theorem allocateVram_advances (device : ObjectId) (size : Nat)
    (memoryClass : MemoryClass) (driver : FallbackDriver B)
    (ids : IdSource) :
    ids.Advances
      (allocateVram device size memoryClass (driver, ids)).2.2 := by
  cases driver with
  | vulkan driver =>
      exact GpuDriver.allocateVram_advances device size memoryClass driver ids
  | software driver reason =>
      exact GpuDriver.allocateVram_advances device size memoryClass driver ids

instance : GpuDriver (FallbackDriver B) where
  probe := consult GpuDriver.probe
  initializeDevice device := delegate (GpuDriver.initializeDevice device)
  allocateVram := allocateVram
  freeVram allocation := delegate (GpuDriver.freeVram allocation)
  mapDma allocation := delegate (GpuDriver.mapDma allocation)
  submit device workload ops := delegate (GpuDriver.submit device workload ops)
  faultStatus := consult GpuDriver.faultStatus
  vramAvailable := consult GpuDriver.vramAvailable
  resetDevice device := delegate (GpuDriver.resetDevice device)
  markFaulted device description driver :=
    (delegate (fun driver =>
      ((), GpuDriver.markFaulted device description driver)) driver).2
  allocateVram_advances := allocateVram_advances

instance : FreshAllocations (FallbackDriver B) where
  fresh gpu size memoryClass driver after ids later allocation hrun := by
    cases driver with
    | vulkan driver =>
        apply FreshAllocations.fresh gpu size memoryClass driver
          (GpuDriver.allocateVram gpu size memoryClass (driver, ids)).2.1
        have hresult := congrArg Prod.fst hrun
        have hids := congrArg (fun world => world.2.2) hrun
        exact Prod.ext hresult (Prod.ext rfl hids)
    | software driver reason =>
        apply FreshAllocations.fresh gpu size memoryClass driver
          (GpuDriver.allocateVram gpu size memoryClass (driver, ids)).2.1
        have hresult := congrArg Prod.fst hrun
        have hids := congrArg (fun world => world.2.2) hrun
        exact Prod.ext hresult (Prod.ext rfl hids)

/-- No call turns to the other driver. -/
theorem call_selection (world : FallbackDriver B × IdSource)
    (call : DriverCall) :
    (GpuDriver.call world call).2.1.isVulkan = world.1.isVulkan ∧
      (GpuDriver.call world call).2.1.fallbackReason =
        world.1.fallbackReason := by
  obtain ⟨driver, ids⟩ := world
  cases driver with
  | vulkan driver => cases call <;> exact ⟨rfl, rfl⟩
  | software driver reason => cases call <;> exact ⟨rfl, rfl⟩

theorem run_selection (world : FallbackDriver B × IdSource)
    (calls : List DriverCall) :
    (Machine.run GpuDriver.call world calls).1.isVulkan = world.1.isVulkan ∧
      (Machine.run GpuDriver.call world calls).1.fallbackReason =
        world.1.fallbackReason := by
  refine Machine.run_invariant (fun now : FallbackDriver B × IdSource =>
    now.1.isVulkan = world.1.isVulkan ∧
      now.1.fallbackReason = world.1.fallbackReason) ⟨rfl, rfl⟩ ?_ calls
  intro now call hnow
  obtain ⟨hvulkan, hreason⟩ := call_selection now call
  exact ⟨hvulkan.trans hnow.1, hreason.trans hnow.2⟩

end FallbackDriver

end SherGraphics
