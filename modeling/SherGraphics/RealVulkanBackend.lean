/-
`RealVulkanBackend`, the drivers opened over it, and what they own.  A reset
makes the new context before it drops the old one, so a reset that fails leaves
the old one in use.
-/
import SherGraphics.ContextErrors
import SherGraphics.ContextLifetimes
import SherGraphics.FallbackDriver
import SherGraphics.RenderProtocol

namespace SherGraphics

/-- `map_vulkan_error`.  The first argument is `to_string` of a code. -/
def mapVulkanError (text : VkResult → String) : VulkanError → BackendError
  | .loaderUnavailable message => .unavailable message
  | .deviceLost message => .deviceLost message
  | .vulkan result => .execution (text result)
  | .noSuitableDevice message => .unavailable message
  | .invalidDimensions width height =>
      .execution ("invalid image dimensions " ++ toString width.toNat ++ "x" ++
        toString height.toNat)

/-- `BackendAdapterInfo` of an adapter. -/
def AdapterInfo.toBackend (adapter : AdapterInfo) : BackendAdapterInfo where
  name := adapter.name
  vendorId := adapter.vendorId.toNat
  deviceId := adapter.deviceId.toNat

/-- A context, on a machine whose Vulkan was called this far. -/
structure RealVulkanBackend where
  host : VulkanHost
  context : VulkanContext
  log : List ContextCall

namespace RealVulkanBackend

/-- `open`. -/
def openContext (host : VulkanHost) (log : List ContextCall) :
    BackendResult RealVulkanBackend × List ContextCall :=
  match VulkanContext.probe host log with
  | (.ok context, log) => (.ok ⟨host, context, log⟩, log)
  | (.error error, log) => (.error (mapVulkanError host.text error), log)

/-- Dropping the backend drops its context. -/
def drop (backend : RealVulkanBackend) : List ContextCall :=
  backend.context.drop backend.log

def enumerateAdapters (backend : RealVulkanBackend) :
    BackendResult (List BackendAdapterInfo) × RealVulkanBackend :=
  let (result, log) := backend.context.enumerateAdapters backend.host backend.log
  ((result.map fun adapters => adapters.map AdapterInfo.toBackend).mapError
    (mapVulkanError backend.host.text), { backend with log })

/-- Black, opaque. -/
def clearColor : ClearColor := ⟨0, 0, 0, 0x3f800000⟩

/-- The operations are not looked at: every submission is one offscreen render
of a pixel. -/
def execute (_ops : List DriverOp) (backend : RealVulkanBackend) :
    BackendOutcome × RealVulkanBackend :=
  let (result, log) :=
    backend.context.render backend.host 1 1 clearColor backend.log
  let outcome :=
    match result with
    | .ok _ => .returned (.ok ())
    | .error (.failed error) =>
        .returned (.error (mapVulkanError backend.host.text error))
    | .error .panicked => .panicked
  (outcome, { backend with log })

def reset (backend : RealVulkanBackend) : BackendOutcome × RealVulkanBackend :=
  match VulkanContext.probe backend.host backend.log with
  | (.ok context, log) =>
      (.returned (.ok ()),
        { backend with context, log := backend.context.drop log })
  | (.error error, log) =>
      (.returned (.error (mapVulkanError backend.host.text error)),
        { backend with log })

instance : VulkanBackend RealVulkanBackend where
  enumerateAdapters := enumerateAdapters
  execute := execute
  reset := reset
  drop backend := { backend with log := backend.drop }

end RealVulkanBackend

namespace VulkanDriver

/-- `VulkanDriver::new`, with the log of the Vulkan calls.  A backend that comes
to no driver is dropped. -/
def new (host : VulkanHost) (vramBytes : Nat) (spawned : Except String Unit)
    (ids : IdSource) (log : List ContextCall) :
    Result (VulkanDriver RealVulkanBackend) × IdSource × List ContextCall :=
  match RealVulkanBackend.openContext host log with
  | (.error error, log) => (.error (backendErrorToSher error), ids, log)
  | (.ok backend, _) =>
      match withBackend backend vramBytes spawned ids with
      | (.ok driver, later) => (.ok driver, later, driver.worker.backend.log)
      | (.error error, later) =>
          (.error error, later, backend.enumerateAdapters.2.drop)

end VulkanDriver

/-- `FallbackDriver::open`. -/
def FallbackDriver.openDriver (toText : Error → String) (host : VulkanHost)
    (vramBytes : Nat) (spawned : Except String Unit) (ids : IdSource)
    (log : List ContextCall) :
    FallbackDriver RealVulkanBackend × IdSource × List ContextCall :=
  let (result, ids, log) := VulkanDriver.new host vramBytes spawned ids log
  let (driver, ids) := fromVulkanResult toText result vramBytes ids
  (driver, ids, log)

namespace RealVulkanBackend

open Lifetimes VulkanContext

/-- The backend's context is all that the calls so far have left behind. -/
def Sound (backend : RealVulkanBackend) : Prop :=
  Leaves [] [backend.context] backend.log

variable {backend : RealVulkanBackend}

theorem Sound.drop (hsound : backend.Sound) : CleanedUp backend.drop :=
  (leaves_drop hsound).owns.cleanedUp

theorem openContext_sound (host : VulkanHost) {log : List ContextCall}
    (hleaves : Leaves [] [] log) :
    match openContext host log with
    | (.ok backend, changed) => backend.Sound ∧ backend.log = changed
    | (.error _, changed) => Leaves [] [] changed := by
  have hprobed := ensures_probe host log hleaves
  rw [openContext]
  generalize probe host log = ended at hprobed ⊢
  obtain ⟨result, changed⟩ := ended
  cases result with
  | ok context => exact ⟨hprobed, rfl⟩
  | error error => exact hprobed rfl

theorem Sound.enumerateAdapters (hsound : backend.Sound) :
    backend.enumerateAdapters.2.Sound := by
  have henumerated := ensures_enumerateAdapters backend.host
    List.mem_cons_self backend.log hsound
  rw [RealVulkanBackend.enumerateAdapters]
  generalize backend.context.enumerateAdapters backend.host backend.log = ended
    at henumerated ⊢
  obtain ⟨result, changed⟩ := ended
  cases result with
  | ok adapters => exact henumerated
  | error error => exact henumerated rfl

/-- A submission returns, and its first failed call decides how: a pixel can
always be read back, and is never of a zero dimension. -/
theorem execute_run (backend : RealVulkanBackend) (ops : List DriverOp) :
    ∃ result calls, RealVulkanBackend.execute ops backend =
        (.returned result, { backend with
          log := backend.log ++
            calls.map (.onInstance backend.context.vkInstance) }) ∧
      (∀ code, firstCode calls = some code → result =
        .error (mapVulkanError backend.host.text
          (.ofResult backend.host.text code))) ∧
      (firstCode calls = none → ∀ error, result = .error error →
        ∃ message, error = .unavailable message) := by
  obtain ⟨ended, calls, -, hrender, haccounts⟩ :=
    render_run backend.host backend.context 1 1 clearColor backend.log
  obtain ⟨hcode, hown⟩ := of_accounts haccounts
  rw [RealVulkanBackend.execute, hrender]
  cases ended with
  | ok pixels =>
      refine ⟨.ok (), calls, rfl, fun code hfirst => ?_, fun _ => nofun⟩
      exact absurd (hcode code hfirst) nofun
  | error stop =>
      cases stop with
      | panicked =>
          cases hfirst : firstCode calls with
          | none =>
              have hhuge : 2 ^ 63 ≤ (bufferSize 1 1).toNat := hown hfirst _ rfl
              exact absurd hhuge (by decide)
          | some code => exact absurd (hcode code hfirst) nofun
      | failed error =>
          refine ⟨_, calls, rfl, fun code hfirst => ?_, fun hnone => ?_⟩
          · rw [Stop.failed.inj (Except.error.inj (hcode code hfirst))]
          · have hcause := hown hnone _ rfl
            rintro other ⟨⟩
            cases error with
            | noSuitableDevice message => exact ⟨message, rfl⟩
            | invalidDimensions width height =>
                exact absurd hcause.2 (by decide)
            | _ => exact absurd hcause.1 nofun

theorem Sound.execute (hsound : backend.Sound) (ops : List DriverOp) :
    (RealVulkanBackend.execute ops backend).2.Sound := by
  have hrendered := ensures_render backend.host List.mem_cons_self 1 1
    clearColor backend.log hsound
  obtain ⟨result, calls, hrun, -, -⟩ := execute_run backend ops
  rw [RealVulkanBackend.execute] at hrun ⊢
  generalize backend.context.render backend.host 1 1 clearColor backend.log =
    ended at hrendered hrun ⊢
  obtain ⟨rendered, changed⟩ := ended
  cases rendered with
  | ok pixels => exact hrendered
  | error stop =>
      cases stop with
      | failed error => exact hrendered rfl
      | panicked => cases hrun

theorem Sound.reset (hsound : backend.Sound) : backend.reset.2.Sound := by
  have hprobed := ensures_probe backend.host backend.log hsound
  rw [RealVulkanBackend.reset]
  generalize probe backend.host backend.log = ended at hprobed ⊢
  obtain ⟨result, changed⟩ := ended
  cases result with
  | ok context => exact leaves_drop (hprobed.perm (.swap _ _ _))
  | error error => exact hprobed rfl

end RealVulkanBackend

end SherGraphics
