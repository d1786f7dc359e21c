/-
The errors of `VulkanContext`: an error of `probe` or `enumerate_adapters` is
that of the first call that failed, and there is one.
-/
import SherGraphics.OffscreenErrors
import SherGraphics.VulkanContext

namespace SherGraphics

/-- The error that a failed call stops its function with. -/
def ContextCall.failure (text : VkResult → String) :
    ContextCall → Option VulkanError
  | .loadEntry (.error message) => some (.loaderUnavailable message)
  | .enumerateInstanceExtensionProperties _ (.error result) =>
      some (.ofResult text result)
  | .createInstance _ _ _ (.error result) => some (.ofResult text result)
  | .onInstance _ call => call.code.map (.ofResult text)
  | _ => none

namespace VulkanContext

open Method

/-- A failed call accounts for every error of the function. -/
abbrev Blamed (host : VulkanHost) {α : Type} (method : Session α) : Prop :=
  Attributed (ContextCall.failure host.text) (fun _ => False) method

variable {host : VulkanHost}

theorem blamed_read {α β : Type} (view : List ContextCall → α)
    {next : α → Session β} (hnext : ∀ value, Blamed host (next value)) :
    Blamed host (read view >>= next) :=
  fun log => hnext (view log) log

theorem blamed_loadEntry (outcome : Except String Unit) :
    Blamed host (loadEntry outcome) := by
  refine .one fun log => ?_
  cases outcome with
  | ok value => exact ⟨_, rfl, rfl⟩
  | error message => exact ⟨_, rfl, rfl⟩

theorem blamed_orUnload {α : Type} (entry : Entry) {step : Session α}
    (hstep : Blamed host step) : Blamed host (orUnload entry step) :=
  hstep.onError (.one (fun _ => rfl) rfl)

theorem blamed_availableExtensions (entry : Entry)
    (outcome : Except VkResult (List (Option String))) :
    Blamed host (availableExtensions host entry outcome) := by
  refine .one fun log => ?_
  cases outcome with
  | ok extensions => exact ⟨_, rfl, rfl⟩
  | error result => exact ⟨_, rfl, rfl⟩

theorem blamed_createInstance (entry : Entry) (extensions : List String)
    (enumeratePortability : Bool) (outcome : Except VkResult Unit) :
    Blamed host
      (createInstance host entry extensions enumeratePortability outcome) := by
  refine .one fun log => ?_
  cases outcome with
  | ok value => exact ⟨_, rfl, rfl⟩
  | error result => exact ⟨_, rfl, rfl⟩

theorem blamed_probe : Blamed host (probe host) := by
  refine blamed_read _ fun outcomes => ?_
  refine (blamed_loadEntry outcomes.load).bind fun entry => ?_
  refine (blamed_orUnload entry (blamed_availableExtensions entry
    outcomes.instanceExtensions)).bind fun extensions => ?_
  refine (blamed_orUnload entry (blamed_createInstance entry _ _
    outcomes.createInstance)).bind fun made => ?_
  exact .pure _

theorem blamed_enumerateAdapters (context : VulkanContext) :
    Blamed host (context.enumerateAdapters host) := by
  refine blamed_read _ fun outcomes => ?_
  have hlist : Blamed host
      (perform (outcomes.physicalDevices.mapError (.ofResult host.text))
        (.onInstance context.vkInstance (.enumeratePhysicalDevices
          (outcomes.physicalDevices.map fun _ => ())))) := by
    refine .one fun log => ?_
    cases outcomes.physicalDevices with
    | ok gpus => exact ⟨_, rfl, rfl⟩
    | error result => exact ⟨_, rfl, rfl⟩
  refine hlist.bind fun gpus => .of_unfailing fun log => ?_
  refine ⟨_, _, rfl, fun call hcall => ?_⟩
  obtain ⟨gpu, -, rfl⟩ := List.mem_map.mp hcall
  rfl

end VulkanContext

end SherGraphics
