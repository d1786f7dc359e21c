/-
`FallbackDriver::open`: which driver is selected, and why.  The Vulkan driver is
taken where no Vulkan call failed, a device was found and the thread could be
spawned; otherwise the reason that is kept is that of the first failure, and
nothing of the attempt is left.
-/
import SherGraphics.RealVulkanLife

namespace SherGraphics

open Lifetimes

/-- The device whose properties are asked for. -/
def ContextCall.asked : ContextCall → Option PhysicalDevice
  | .getPhysicalDeviceProperties _ gpu => some gpu
  | _ => none

namespace VulkanContext

open Method

/-- The devices whose properties were asked for. -/
def devicesAsked (log : List ContextCall) : List PhysicalDevice :=
  log.filterMap ContextCall.asked

theorem devicesAsked_append (log more : List ContextCall) :
    devicesAsked (log ++ more) = devicesAsked log ++ devicesAsked more :=
  List.filterMap_append ..

section Probe

/-- The call asks for no device. -/
abbrev AsksNone (call : ContextCall) : Prop :=
  call.asked = none

theorem devicesAsked_of_none {log : List ContextCall}
    (hnone : ∀ call ∈ log, AsksNone call) : devicesAsked log = [] :=
  List.filterMap_eq_nil_iff.mpr hnone

theorem writes_loadEntry (outcome : Except String Unit) :
    Writes AsksNone (loadEntry outcome) := by
  intro log
  exact ⟨[_], rfl, by simp [AsksNone, ContextCall.asked]⟩

theorem writes_orUnload {α : Type} (entry : Entry) {step : Session α}
    (hstep : Writes AsksNone step) : Writes AsksNone (orUnload entry step) :=
  hstep.onError (.one (fun _ => rfl) fun _ => rfl)

theorem writes_read {α β : Type} (view : List ContextCall → α)
    {next : α → Session β} (hnext : ∀ value, Writes AsksNone (next value)) :
    Writes AsksNone (read view >>= next) :=
  fun log => hnext (view log) log

/-- A probe asks for no device. -/
theorem writes_probe (host : VulkanHost) :
    Writes AsksNone (probe host) := by
  refine writes_read _ fun outcomes => ?_
  refine (writes_loadEntry outcomes.load).bind fun entry => ?_
  refine (writes_orUnload entry (.one (fun _ => rfl) fun _ => rfl)).bind
    fun extensions => ?_
  refine (writes_orUnload entry ?_).bind fun made => .pure _
  exact fun log => ⟨[_], rfl, by simp [AsksNone, ContextCall.asked]⟩

end Probe

/-- An enumeration asks for each device that it lists. -/
theorem enumerateAdapters_asks (host : VulkanHost) (context : VulkanContext)
    (log : List ContextCall) {adapters : List AdapterInfo}
    {changed : List ContextCall}
    (hrun : context.enumerateAdapters host log = (.ok adapters, changed)) :
    (devicesAsked changed).length =
      (devicesAsked log).length + adapters.length := by
  rw [enumerateAdapters, bind_run] at hrun
  dsimp only [Method.read, perform] at hrun
  rw [bind_run] at hrun
  cases hlisted : (host.enumerations log.length).physicalDevices with
  | error result =>
      rw [hlisted] at hrun
      cases hrun
  | ok gpus =>
      rw [hlisted] at hrun
      cases hrun
      have hasked : devicesAsked (gpus.map fun gpu =>
          .getPhysicalDeviceProperties context.vkInstance gpu) = gpus := by
        rw [devicesAsked, List.filterMap_map]
        exact List.filterMap_some
      rw [devicesAsked_append, hasked, devicesAsked_append]
      simp [devicesAsked, ContextCall.asked]

end VulkanContext

namespace VulkanDriver

open VulkanContext Method

/-- A context that is dropped adds neither a failure nor a device. -/
theorem drop_explains (host : VulkanHost) (context : VulkanContext)
    (log : List ContextCall) :
    firstFailure (ContextCall.failure host.text) (context.drop log) =
        firstFailure (ContextCall.failure host.text) log ∧
      devicesAsked (context.drop log) = devicesAsked log := by
  constructor
  · refine firstFailure_append_quiet ?_
    simp [ContextCall.failure]
  · rw [VulkanContext.drop, devicesAsked_append]
    simp [devicesAsked, ContextCall.asked]

/-- The calls of a log tell how the opening that made them ended. -/
def Told (host : VulkanHost) (spawned : Except String Unit)
    (result : Result (VulkanDriver RealVulkanBackend))
    (log : List ContextCall) : Prop :=
  match firstFailure (ContextCall.failure host.text) log with
  | some error =>
      result = .error (backendErrorToSher (mapVulkanError host.text error))
  | none => (∃ driver, result = .ok driver) ↔
      devicesAsked log ≠ [] ∧ spawned = .ok ()

theorem Told.drop {host : VulkanHost} {spawned : Except String Unit}
    {result : Result (VulkanDriver RealVulkanBackend)} {log : List ContextCall}
    (htold : Told host spawned result log) (context : VulkanContext) :
    Told host spawned result (context.drop log) := by
  obtain ⟨hfailure, hasked⟩ := drop_explains host context log
  rw [Told, hfailure, hasked]
  exact htold

/-- The enumeration and the spawn that follow a probe which did not fail. -/
theorem withBackend_told (backend : RealVulkanBackend) (vramBytes : Nat)
    (spawned : Except String Unit) (ids : IdSource)
    (hquiet : firstFailure (ContextCall.failure backend.host.text)
      backend.log = none) (hnone : devicesAsked backend.log = []) :
    Told backend.host spawned (withBackend backend vramBytes spawned ids).1
      backend.enumerateAdapters.2.log := by
  have hblamed : Blamed backend.host
      (backend.context.enumerateAdapters backend.host) :=
    blamed_enumerateAdapters backend.context
  obtain ⟨calls, hcalls, haccounts⟩ := hblamed backend.log
  have hways := withBackend_cases backend vramBytes spawned ids
  rw [show (VulkanBackend.enumerateAdapters backend).1 =
    ((backend.context.enumerateAdapters backend.host backend.log).1.map
      fun adapters => adapters.map AdapterInfo.toBackend).mapError
        (mapVulkanError backend.host.text) from rfl] at hways
  change Told backend.host spawned _
    (backend.context.enumerateAdapters backend.host backend.log).2
  have hsame : firstFailure (ContextCall.failure backend.host.text)
      (backend.log ++ calls) =
        firstFailure (ContextCall.failure backend.host.text) calls :=
    firstFailure_append_of_none hquiet
  cases hended : backend.context.enumerateAdapters backend.host backend.log with
  | mk result changed =>
      rw [hended] at hcalls haccounts hways
      obtain rfl : changed = backend.log ++ calls := hcalls
      cases result with
      | error error =>
          rcases haccounts with hfailed | ⟨-, hown⟩
          · rw [Told, hsame, hfailed]
            rcases hways with ⟨other, hother, hend⟩ | ⟨hlisted, -⟩ |
              ⟨adapters, hlisted, -⟩
            · cases hother
              exact hend
            · cases hlisted
            · cases hlisted
          · exact hown.elim
      | ok listed =>
          have hcount := enumerateAdapters_asks _ _ _ hended
          rw [hnone, List.length_nil, Nat.zero_add] at hcount
          have hdevices : devicesAsked (backend.log ++ calls) ≠ [] ↔
              listed ≠ [] := by
            rw [← List.length_pos_iff, hcount, List.length_pos_iff]
          have hfailed : firstFailure (ContextCall.failure backend.host.text)
              (backend.log ++ calls) = none := hsame.trans haccounts
          rw [Told, hfailed]
          dsimp only
          rw [hdevices]
          rcases hways with ⟨error, herror, -⟩ | ⟨hlisted, hend⟩ |
            ⟨adapters, hlisted, hsome, hend⟩
          · cases herror
          · have hempty : listed = [] :=
              List.map_eq_nil_iff.mp (Except.ok.inj hlisted)
            rw [hend, hempty]
            simp
          · have hfull : listed ≠ [] := by
              rintro rfl
              exact hsome (Except.ok.inj hlisted).symm
            rw [hend]
            cases spawned with
            | error reason => simp
            | ok value => simp [hfull]

/-- What decides the end of an opening is in the log: the first failed call,
and the devices that were asked for. -/
theorem new_told (host : VulkanHost) (vramBytes : Nat)
    (spawned : Except String Unit) (ids : IdSource) :
    Told host spawned (new host vramBytes spawned ids []).1
      (new host vramBytes spawned ids []).2.2 := by
  have hblamed : Blamed host (probe host) := blamed_probe
  obtain ⟨calls, hcalls, haccounts⟩ := hblamed []
  obtain ⟨written, hwritten, hnone⟩ := writes_probe host []
  rw [new, RealVulkanBackend.openContext]
  generalize probe host [] = ended at hcalls haccounts hwritten ⊢
  obtain ⟨result, changed⟩ := ended
  obtain rfl : changed = calls := hcalls
  obtain rfl : changed = written := hwritten
  cases result with
  | error error =>
      rcases haccounts with hfailed | ⟨-, hown⟩
      · dsimp only
        rw [Told, hfailed]
      · exact hown.elim
  | ok context =>
      have htold := withBackend_told ⟨host, context, changed⟩ vramBytes spawned
        ids haccounts (devicesAsked_of_none hnone)
      dsimp only at htold ⊢
      cases hwith : withBackend (⟨host, context, changed⟩ : RealVulkanBackend)
          vramBytes spawned ids with
      | mk result later =>
          rw [hwith] at htold
          cases result with
          | error error => exact htold.drop _
          | ok driver =>
              have hbackend := withBackend_backend (congrArg Prod.fst hwith)
              dsimp only
              rw [hbackend]
              exact htold

end VulkanDriver

namespace FallbackDriver

open VulkanContext Method

/-- `open` takes Vulkan exactly where it can, and says why where it cannot.
Whatever a machine's Vulkan answers, and whatever calls are made of the driver
afterwards: where a Vulkan call of the opening failed the software driver was
selected, with the first such call's error for its reason; where none did, the
Vulkan driver was selected exactly if a device was listed and the thread could
be spawned.  With the software driver, nothing of Vulkan is left. -/
theorem open_explained (toText : Error → String) (host : VulkanHost)
    (vramBytes : Nat) (spawned : Except String Unit) (ids : IdSource)
    (calls : List DriverCall) :
    let (opened, later, log) :=
      openDriver toText host vramBytes spawned ids []
    let last := (Machine.run GpuDriver.call (opened, later) calls).1
    (match firstFailure (ContextCall.failure host.text) log with
      | some error => last.fallbackReason =
          some (toText (backendErrorToSher (mapVulkanError host.text error)))
      | none => last.isVulkan = true ↔
          devicesAsked log ≠ [] ∧ spawned = .ok ()) ∧
      (last.isVulkan = false → CleanedUp log) := by
  have htold := VulkanDriver.new_told host vramBytes spawned ids
  have hsound := VulkanDriver.new_sound host vramBytes spawned ids
  rw [openDriver]
  generalize VulkanDriver.new host vramBytes spawned ids [] = ended
    at htold hsound ⊢
  obtain ⟨result, later, log⟩ := ended
  dsimp only at htold hsound ⊢
  obtain ⟨hvulkan, hreason⟩ :=
    run_selection (fromVulkanResult toText result vramBytes later) calls
  rw [hvulkan, hreason]
  refine ⟨?_, ?_⟩
  · rw [VulkanDriver.Told] at htold
    cases hfirst : firstFailure (ContextCall.failure host.text) log with
    | some error =>
        rw [hfirst] at htold
        cases htold
        rfl
    | none =>
        rw [hfirst] at htold
        dsimp only at htold ⊢
        rw [← htold]
        cases result with
        | ok driver => simp [fromVulkanResult, isVulkan]
        | error error => simp [fromVulkanResult, isVulkan]
  · cases result with
    | ok driver =>
        intro hsoftware
        cases hsoftware
    | error error => exact fun _ => hsound

end FallbackDriver

end SherGraphics
