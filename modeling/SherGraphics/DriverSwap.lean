/-
A runtime over a `FallbackDriver` behaves the same whichever driver was
selected: one run over Vulkan and one over the software driver give the same
answers and the same errors at every step, in other names.
-/
import SherGraphics.FallbackDriver
import SherGraphics.StoreMatch

namespace SherGraphics

namespace FallbackDriver

variable {B : Type} [VulkanBackend B] {name : Equiv.Perm ObjectId}

/-- Vulkan was selected on the left and the software driver on the right, and
the two drivers correspond. -/
inductive Across (rel : VulkanDriver B → SoftwareGpuDriver → Prop) :
    FallbackDriver B → FallbackDriver B → Prop
  | intro {vulkan : VulkanDriver B} {software : SoftwareGpuDriver}
      (reason : String) (hrel : rel vulkan software) :
      Across rel (.vulkan vulkan) (.software software reason)

/-- The selection hands every call on, so it is interchangeable when the
drivers are. -/
theorem across_interchangeable
    {rel : VulkanDriver B → SoftwareGpuDriver → Prop}
    (hlaws : Interchangeable name rel) :
    Interchangeable name (Across rel) where
  probe := by
    rintro _ _ ⟨reason, hrel⟩ gpu
    exact hlaws.probe hrel gpu
  initializeDevice := by
    rintro _ _ ⟨reason, hrel⟩ info info' hinfo
    have hmatched := hlaws.initializeDevice hrel hinfo
    exact ⟨hmatched.answer, ⟨reason, hmatched.after⟩⟩
  allocateVram := by
    rintro _ _ ids ids' ⟨reason, hrel⟩ hids gpu size memoryClass
    have hmatched := hlaws.allocateVram hrel hids gpu size memoryClass
    exact ⟨hmatched.answer, ⟨reason, hmatched.after.1⟩, hmatched.after.2⟩
  freeVram := by
    rintro _ _ ⟨reason, hrel⟩ allocation
    have hmatched := hlaws.freeVram hrel allocation
    exact ⟨hmatched.answer, ⟨reason, hmatched.after⟩⟩
  submit := by
    rintro _ _ ⟨reason, hrel⟩ gpu workload ops ops'
    obtain ⟨result, after, after', hleft, hright, hafter⟩ :=
      hlaws.submit hrel gpu workload ops ops'
    refine ⟨result, .vulkan after, .software after' reason, ?_, ?_,
      ⟨reason, hafter⟩⟩
    · exact congrArg (fun run => (run.1, FallbackDriver.vulkan run.2)) hleft
    · exact congrArg (fun run => (run.1, FallbackDriver.software run.2 reason))
        hright
  faultStatus := by
    rintro _ _ ⟨reason, hrel⟩ gpu
    exact hlaws.faultStatus hrel gpu
  vramAvailable := by
    rintro _ _ ⟨reason, hrel⟩ gpu
    exact hlaws.vramAvailable hrel gpu
  resetDevice := by
    rintro _ _ ⟨reason, hrel⟩ gpu
    have hmatched := hlaws.resetDevice hrel gpu
    exact ⟨hmatched.answer, ⟨reason, hmatched.after⟩⟩
  markFaulted := by
    rintro _ _ ⟨reason, hrel⟩ gpu description
    exact ⟨reason, hlaws.markFaulted hrel gpu description⟩

end FallbackDriver

namespace GraphicsRuntime

variable {B P : Type} [VulkanBackend B] [GPUDriver P]
  {name : Equiv.Perm ObjectId} {ids ids' : IdSource}

/-- Two runtimes start alike, one over a new Vulkan driver and the other over
a new software driver with as many devices. -/
theorem swapped_start (hids : ids.DrawsAs name ids')
    (adapters : List BackendAdapterInfo) (vramBytes : Nat) {backend : B}
    (haccepts : AlwaysSucceeds backend) (reason : String)
    (presentationVramBytes : Nat) :
    Swapped name (FallbackDriver.Across (StoreMatch name))
      (new (P := P) (.vulkan (.start adapters vramBytes ids backend))
        presentationVramBytes (ids.advance adapters.length))
      (new (.software (SoftwareGpuDriver.withDevices adapters.length vramBytes
        ids').1 reason) presentationVramBytes
        (ids'.advance adapters.length)) := by
  apply swapped_new
  · exact ⟨reason, storeMatch_start adapters vramBytes hids haccepts⟩
  · exact hids.advance adapters.length

/-- Take any actions on contexts, their objects and their GPUs, with faults
marked in between.  Over a Vulkan driver whose backend accepts everything and
over a software driver with as many devices, every action has the same answer
or the same error, and afterwards every timeline, every fault and every pool is
the same, all in other names. -/
theorem drivers_interchangeable {backend : B} {vramBytes : Nat}
    {spawned : Except String Unit} {later : IdSource}
    {driver : VulkanDriver B}
    (hopened : VulkanDriver.withBackend backend vramBytes spawned ids =
      (.ok driver, later))
    (haccepts : AlwaysSucceeds driver.worker.backend)
    (hids : ids.DrawsAs name ids') (reason : String)
    (presentationVramBytes : Nat)
    (actions : List (ApiAction (FallbackDriver B))) :
    let (software, later') := SoftwareGpuDriver.withDevices
      driver.tables.devices.length vramBytes ids'
    let left : GraphicsRuntime (FallbackDriver B) P :=
      new (.vulkan driver) presentationVramBytes later
    let right : GraphicsRuntime (FallbackDriver B) P :=
      new (.software software reason) presentationVramBytes later'
    let renamed := actions.map (ApiAction.rename name)
    Machine.answers apiStep right renamed =
        (Machine.answers apiStep left actions).map
          (Except.map (Reply.renameAll name)) ∧
      SameObservations name (Machine.run apiStep left actions)
        (Machine.run apiStep right renamed) := by
  obtain ⟨adapters, opened, rfl, rfl⟩ := VulkanDriver.withBackend_ok hopened
  have hlength : (VulkanDriver.start adapters vramBytes ids
      opened).tables.devices.length = adapters.length :=
    VulkanTables.length_deviceInfos adapters ids
  rw [hlength]
  have hlaws := FallbackDriver.across_interchangeable
    (stores_interchangeable (B := B) name)
  have hstart := swapped_start (P := P) hids adapters vramBytes haccepts
    reason presentationVramBytes
  obtain ⟨hanswers, hlast⟩ := swapped_run hlaws hstart actions
  exact ⟨hanswers, swapped_observed hlaws hlast⟩

namespace OneAdapter

def adapter : BackendAdapterInfo := ⟨"GPU", 1, 2⟩

/-- The other process hands out the first two identifiers the other way
round. -/
def exchanged : Equiv.Perm ObjectId := Equiv.swap ⟨0⟩ ⟨1⟩

def others : IdSource where
  draw := exchanged ∘ ObjectId.mk
  draw_injective := exchanged.injective.comp IdSource.sequential.draw_injective
  drawn := 0

def driver : VulkanDriver ScriptedBackend :=
  .start [adapter] 64 .sequential ⟨[adapter], []⟩

/-- Open a context, break its GPU and ask for the fault. -/
def actions : List (ApiAction (FallbackDriver ScriptedBackend)) :=
  [.call (.createDevice ⟨0⟩ .full) rfl, .markFaulted ⟨0⟩ .full "hang",
    .call (.deviceFault ⟨1⟩) rfl]

def overVulkan : GraphicsRuntime (FallbackDriver ScriptedBackend) BareDisplay :=
  new (.vulkan driver) 0 (IdSource.sequential.advance 1)

def overSoftware :
    GraphicsRuntime (FallbackDriver ScriptedBackend) BareDisplay :=
  new (.software (SoftwareGpuDriver.withDevices 1 64 others).1 "no loader") 0
    (others.advance 1)

theorem answered_alike :
    Machine.answers apiStep overSoftware
          (actions.map (ApiAction.rename exchanged)) =
        (Machine.answers apiStep overVulkan actions).map
          (Except.map (Reply.renameAll exchanged)) ∧
      SameObservations exchanged (Machine.run apiStep overVulkan actions)
        (Machine.run apiStep overSoftware
          (actions.map (ApiAction.rename exchanged))) := by
  have hopened : VulkanDriver.withBackend (⟨[adapter], []⟩ : ScriptedBackend)
      64 (.ok ()) .sequential =
        (.ok driver, IdSource.sequential.advance 1) := rfl
  have hids : IdSource.sequential.DrawsAs exchanged others := fun _ => rfl
  exact drivers_interchangeable hopened (ScriptedBackend.alwaysSucceeds _) hids
    "no loader" 0 actions

end OneAdapter

/-! ### A runtime that looked for Vulkan -/

end GraphicsRuntime

end SherGraphics
