/-
The objects of `VulkanContext`: a library, an instance made with it, and the
objects of every render on that instance.  An instance is destroyed before its
library is unloaded, and after every device made from it.
-/
import SherGraphics.OffscreenErrors
import SherGraphics.VulkanContext

namespace SherGraphics

inductive ContextObject where
  | entry (entry : Entry)
  | vkInstance (vkInstance : VkInstance)
  | device (object : VkObject)
deriving DecidableEq, Repr

/-- The number of a library or an instance. -/
def ContextObject.number : ContextObject → Option Nat
  | .entry library => some library.index
  | .vkInstance made => some made.index
  | .device _ => none

/-! ### What each call does with objects -/

namespace ContextCall

def uses : ContextCall → List ContextObject
  | .loadEntry _ => []
  | .enumerateInstanceExtensionProperties entry _
  | .createInstance entry _ _ _
  | .unloadEntry entry => [.entry entry]
  | .onInstance owner call => .vkInstance owner :: call.uses.map .device
  | .getPhysicalDeviceProperties owner _
  | .destroyInstance owner => [.vkInstance owner]

def creates : ContextCall → Option ContextObject
  | .loadEntry (.ok entry) => some (.entry entry)
  | .createInstance _ _ _ (.ok made) => some (.vkInstance made)
  | .onInstance _ call => call.creates.map .device
  | _ => none

def destroys : ContextCall → Option ContextObject
  | .destroyInstance owner => some (.vkInstance owner)
  | .unloadEntry entry => some (.entry entry)
  | .onInstance _ call => call.destroys.map .device
  | _ => none

def maps : ContextCall → Option ContextObject
  | .onInstance _ call => call.maps.map .device
  | _ => none

def unmaps : ContextCall → Option ContextObject
  | .onInstance _ call => call.unmaps.map .device
  | _ => none

/-- A device is made from the instance, and what a device makes from the
device. -/
def parent : ContextCall → Option ContextObject
  | .createInstance entry _ _ _ => some (.entry entry)
  | .onInstance owner (.createDevice _ _ _ _) => some (.vkInstance owner)
  | .onInstance _ call => call.parent.map .device
  | _ => none

theorem parent_onInstance {owner : VkInstance} {call : VkCall}
    {object : ContextObject}
    (hparent : parent (.onInstance owner call) = some object) :
    object = .vkInstance owner ∨
      ∃ source, call.parent = some source ∧ object = .device source := by
  cases call <;> simp_all [parent, VkCall.parent, eq_comm]

theorem parent_uses (call : ContextCall) (object : ContextObject)
    (hparent : call.parent = some object) : object ∈ call.uses := by
  cases call with
  | onInstance owner call =>
      rcases parent_onInstance hparent with rfl | ⟨source, hsource, rfl⟩
      · exact List.mem_cons_self
      · have hused := ObjectCalls.parent_uses call source hsource
        exact List.mem_cons_of_mem _ (List.mem_map_of_mem hused)
  | _ => simp_all [parent, uses]

theorem destroys_uses (call : ContextCall) (object : ContextObject)
    (hdestroys : call.destroys = some object) : object ∈ call.uses := by
  cases call with
  | onInstance owner call =>
      rw [destroys, Option.map_eq_some_iff] at hdestroys
      obtain ⟨source, hsource, rfl⟩ := hdestroys
      have hused := ObjectCalls.destroys_uses call source hsource
      exact List.mem_cons_of_mem _ (List.mem_map_of_mem hused)
  | _ => simp_all [destroys, uses]

end ContextCall

instance : ObjectCalls ContextCall ContextObject where
  uses := ContextCall.uses
  creates := ContextCall.creates
  destroys := ContextCall.destroys
  maps := ContextCall.maps
  unmaps := ContextCall.unmaps
  parent := ContextCall.parent
  parent_uses := ContextCall.parent_uses
  destroys_uses := ContextCall.destroys_uses

/-- What is created from an instance is a device. -/
theorem ContextCall.device_of_parent {call : ContextCall} {made : VkInstance}
    {child : ContextObject} (hcreates : call.creates = some child)
    (hparent : call.parent = some (.vkInstance made)) :
    ∃ object, child = .device object := by
  cases call with
  | onInstance owner call =>
      rw [creates, Option.map_eq_some_iff] at hcreates
      obtain ⟨object, -, rfl⟩ := hcreates
      exact ⟨object, rfl⟩
  | _ => cases hparent

/-- What is created from a library is an instance. -/
theorem ContextCall.instance_of_parent {call : ContextCall} {library : Entry}
    {child : ContextObject} (hcreates : call.creates = some child)
    (hparent : call.parent = some (.entry library)) :
    ∃ made, child = .vkInstance made := by
  cases call with
  | createInstance _ _ _ outcome =>
      cases outcome with
      | ok made =>
          cases hcreates
          exact ⟨made, rfl⟩
      | error result => cases hcreates
  | onInstance owner call =>
      rcases parent_onInstance hparent with hsame | ⟨source, -, hsame⟩
      · cases hsame
      · cases hsame
  | _ => cases hparent

theorem ContextCall.of_vkCall {call : ContextCall} {inner : VkCall}
    (hcall : call.vkCall = some inner) :
    ∃ owner, call = .onInstance owner inner := by
  cases call with
  | onInstance owner call =>
      cases hcall
      exact ⟨owner, rfl⟩
  | _ => cases hcall

namespace VulkanContext

open Lifetimes Method

/-- The calls on instances, within all calls. -/
def onInstances : Nested VkCall VkObject ContextCall ContextObject where
  call := ContextCall.vkCall
  object := .device
  injective _ _ hsame := ContextObject.device.inj hsame
  creates := by
    constructor
    · intro call inner hcall
      obtain ⟨owner, rfl⟩ := ContextCall.of_vkCall hcall
      rfl
    · intro call object hcall hcreates
      cases call with
      | loadEntry outcome => cases outcome <;> cases hcreates
      | createInstance _ _ _ outcome => cases outcome <;> cases hcreates
      | onInstance => cases hcall
      | _ => cases hcreates
  destroys := by
    constructor
    · intro call inner hcall
      obtain ⟨owner, rfl⟩ := ContextCall.of_vkCall hcall
      rfl
    · intro call object hcall hdestroys
      cases call with
      | onInstance => cases hcall
      | _ => cases hdestroys
  maps := by
    constructor
    · intro call inner hcall
      obtain ⟨owner, rfl⟩ := ContextCall.of_vkCall hcall
      rfl
    · intro call object hcall hmaps
      cases call with
      | onInstance => cases hcall
      | _ => cases hmaps
  unmaps := by
    constructor
    · intro call inner hcall
      obtain ⟨owner, rfl⟩ := ContextCall.of_vkCall hcall
      rfl
    · intro call object hcall hunmaps
      cases call with
      | onInstance => cases hcall
      | _ => cases hunmaps
  parent call object hparent := by
    cases call with
    | onInstance owner call =>
        rcases ContextCall.parent_onInstance hparent with
          hsame | ⟨source, hsource, hsame⟩
        · cases hsame
        · cases hsame
          exact ⟨call, rfl, hsource⟩
    | _ => cases hparent

/-! ### What is left between two calls of the context -/

/-- What these contexts own. -/
def objects (contexts : List VulkanContext) : List ContextObject :=
  contexts.flatMap fun context =>
    [.vkInstance context.vkInstance, .entry context.entry]

/-- The log is lawful and left these libraries and contexts behind and nothing
else, and no object has the number of a call still to come. -/
structure Leaves (entries : List Entry) (contexts : List VulkanContext)
    (log : List ContextCall) : Prop where
  owns : Owns log (entries.map .entry ++ objects contexts) []
  made : ∀ context ∈ contexts,
    CreatedFrom log (.entry context.entry) (.vkInstance context.vkInstance)
  devices : Holds [] [] (deviceCalls log)
  numbered : ∀ object index, Created log object →
    object.number = some index → index < log.length

theorem leaves_nil : Leaves [] [] [] where
  owns := owns_nil
  made := nofun
  devices := ⟨owns_nil, by simp [deviceCalls, Created]⟩
  numbered := by simp [Created]

namespace Leaves

variable {entries : List Entry} {contexts rest : List VulkanContext}
  {log : List ContextCall} {call : ContextCall}

theorem perm (hleaves : Leaves entries contexts log)
    (hperm : contexts.Perm rest) : Leaves entries rest log where
  owns := hleaves.owns.perm ((hperm.flatMap_right _).append_left _)
  made context hmem := hleaves.made context (hperm.mem_iff.mpr hmem)
  devices := hleaves.devices
  numbered := hleaves.numbered

/-- A new library or instance has the number of its call. -/
theorem numbered_concat (hleaves : Leaves entries contexts log)
    (hnew : ∀ object index, call.creates = some object →
      object.number = some index → index = log.length)
    (object : ContextObject) (index : Nat)
    (hcreated : Created (log ++ [call]) object)
    (hnumber : object.number = some index) :
    index < (log ++ [call]).length := by
  rw [List.length_append, List.length_singleton]
  rcases created_concat.mp hcreated with hold | hcreates
  · have hlt := hleaves.numbered object index hold hnumber
    omega
  · have heq := hnew object index hcreates hnumber
    omega

theorem made_concat (hleaves : Leaves entries contexts log) :
    ∀ context ∈ contexts, CreatedFrom (log ++ [call]) (.entry context.entry)
      (.vkInstance context.vkInstance) :=
  fun context hmem => (hleaves.made context hmem).append [call]

theorem devices_concat (hleaves : Leaves entries contexts log)
    (hcall : call.vkCall = none) :
    Holds [] [] (deviceCalls (log ++ [call])) := by
  rw [deviceCalls, List.filterMap_concat, hcall, Option.toList_none,
    List.append_nil]
  exact hleaves.devices

/-- A call on the libraries and instances that are left. -/
theorem use (hleaves : Leaves entries contexts log)
    (huses : call.uses ⊆ entries.map .entry ++ objects contexts)
    (hcreates : call.creates = none) (hdestroys : call.destroys = none)
    (hmaps : call.maps = none) (hunmaps : call.unmaps = none)
    (hdevices : Holds [] [] (deviceCalls (log ++ [call]))) :
    Leaves entries contexts (log ++ [call]) where
  owns := hleaves.owns.use (fun _ hused => huses hused) hcreates hdestroys
    hmaps hunmaps
  made := hleaves.made_concat
  devices := hdevices
  numbered := hleaves.numbered_concat (by simp [hcreates])

theorem load (hleaves : Leaves [] contexts log) :
    Leaves [⟨log.length⟩] contexts
      (log ++ [.loadEntry (.ok ⟨log.length⟩)]) where
  owns := by
    refine hleaves.owns.create nofun rfl ?_ rfl rfl rfl
    intro hcreated
    exact Nat.lt_irrefl _
        (hleaves.numbered _ log.length hcreated rfl)
  made := hleaves.made_concat
  devices := hleaves.devices_concat rfl
  numbered := hleaves.numbered_concat (by
    rintro object index ⟨⟩ ⟨⟩
    rfl)

theorem create {entry : Entry} (hleaves : Leaves [entry] contexts log)
    (extensions : List String) (enumeratePortability : Bool) :
    Leaves [] (⟨entry, ⟨log.length⟩⟩ :: contexts)
      (log ++ [.createInstance entry extensions enumeratePortability
        (.ok ⟨log.length⟩)]) where
  owns := by
    refine hleaves.owns.create ?_ rfl ?_ rfl rfl rfl
    · intro object hused
      rw [List.mem_singleton.mp hused]
      exact List.mem_append_left _ List.mem_cons_self
    · intro hcreated
      exact Nat.lt_irrefl _
        (hleaves.numbered _ log.length hcreated rfl)
  made context hmem := by
    rcases List.mem_cons.mp hmem with rfl | hold
    · exact ⟨_, List.mem_append_right _ List.mem_cons_self, rfl, rfl⟩
    · exact hleaves.made_concat context hold
  devices := hleaves.devices_concat rfl
  numbered := hleaves.numbered_concat (by
    rintro object index ⟨⟩ ⟨⟩
    rfl)

/-- What is left are libraries and instances. -/
theorem not_device (object : VkObject) :
    .device object ∉ entries.map ContextObject.entry ++ objects contexts := by
  simp [objects]

/-- An instance goes once no device made from it is alive. -/
theorem destroy {context : VulkanContext}
    (hleaves : Leaves [] (context :: contexts) log) :
    Leaves [context.entry] contexts
      (log ++ [.destroyInstance context.vkInstance]) where
  owns := by
    refine hleaves.owns.destroy ?_ rfl List.not_mem_nil ?_ rfl rfl rfl
    · intro object hused
      rw [List.mem_singleton.mp hused]
      exact List.mem_cons_self
    · rintro child ⟨call, -, hcreates, hparent⟩
      obtain ⟨object, rfl⟩ := ContextCall.device_of_parent hcreates hparent
      have houter := @not_device [] (context :: contexts) object
      exact houter
  made other hmem := hleaves.made_concat other (List.mem_cons_of_mem _ hmem)
  devices := hleaves.devices_concat rfl
  numbered := hleaves.numbered_concat (by simp [ContextCall.creates])

/-- A library goes once no instance made from it is alive: each of those that
are left was made from the library of its own context. -/
theorem unload {entry : Entry} (hleaves : Leaves [entry] contexts log) :
    Leaves [] contexts (log ++ [.unloadEntry entry]) where
  owns := by
    refine hleaves.owns.destroy ?_ rfl List.not_mem_nil ?_ rfl rfl rfl
    · intro object hused
      rw [List.mem_singleton.mp hused]
      exact List.mem_cons_self
    · intro child hchild hmem
      obtain ⟨call, -, hcreates, hparent⟩ := id hchild
      obtain ⟨made, rfl⟩ := ContextCall.instance_of_parent hcreates hparent
      have hlive : .vkInstance made ∈ objects contexts :=
        (List.mem_cons.mp hmem).resolve_left nofun
      obtain ⟨context, hcontext, hmade⟩ := List.mem_flatMap.mp hlive
      have hsame : context.vkInstance = made := by
        simpa [eq_comm] using hmade
      have hown := hleaves.made context hcontext
      rw [hsame] at hown
      have hentry := hleaves.owns.lawful.parent_unique hchild hown
      have hnew := (List.nodup_cons.mp hleaves.owns.nodup).1
      refine hnew (List.mem_flatMap.mpr ⟨context, hcontext, ?_⟩)
      rw [hentry]
      simp
  made := hleaves.made_concat
  devices := hleaves.devices_concat rfl
  numbered := hleaves.numbered_concat (by simp [ContextCall.creates])

end Leaves

/-! ### What each function of the context leaves -/

section Functions

variable (host : VulkanHost) {contexts : List VulkanContext}

theorem ensures_loadEntry (outcome : Except String Unit) :
    Ensures some (Leaves [] contexts) (loadEntry outcome)
      (fun entry => Leaves [entry] contexts) (Leaves [] contexts) := by
  intro log hleaves
  cases outcome with
  | ok value => exact hleaves.load
  | error message =>
      exact fun _ => hleaves.use nofun rfl rfl rfl rfl
        (hleaves.devices_concat rfl)

theorem ensures_orUnload {α : Type} {entry : Entry} {step : Session α}
    {post : α → List ContextCall → Prop}
    (hstep : Ensures some (Leaves [entry] contexts) step post
      (Leaves [entry] contexts)) :
    Ensures some (Leaves [entry] contexts) (orUnload entry step) post
      (Leaves [] contexts) :=
  hstep.onError (Ensures.change fun _ hleaves => hleaves.unload)

theorem ensures_availableExtensions (entry : Entry)
    (outcome : Except VkResult (List (Option String))) :
    Ensures some (Leaves [entry] contexts)
      (availableExtensions host entry outcome)
      (fun _ => Leaves [entry] contexts) (Leaves [entry] contexts) := by
  have hasked : ∀ log, Leaves [entry] contexts log → ∀ outcome,
      Leaves [entry] contexts
        (log ++ [.enumerateInstanceExtensionProperties entry outcome]) := by
    intro log hleaves outcome
    refine hleaves.use ?_ rfl rfl rfl rfl (hleaves.devices_concat rfl)
    simp [ContextCall.uses]
  intro log hleaves
  cases outcome with
  | ok extensions => exact hasked log hleaves _
  | error result => exact fun _ => hasked log hleaves _

theorem ensures_createInstance (entry : Entry) (extensions : List String)
    (enumeratePortability : Bool) (outcome : Except VkResult Unit) :
    Ensures some (Leaves [entry] contexts)
      (createInstance host entry extensions enumeratePortability outcome)
      (fun made => Leaves [] (⟨entry, made⟩ :: contexts))
      (Leaves [entry] contexts) := by
  intro log hleaves
  cases outcome with
  | ok value => exact hleaves.create extensions enumeratePortability
  | error result =>
      refine fun _ => hleaves.use ?_ rfl rfl rfl rfl
        (hleaves.devices_concat rfl)
      simp [ContextCall.uses]

/-- A new context beside those that were there, or nothing new. -/
theorem ensures_probe :
    Ensures some (Leaves [] contexts) (probe host)
      (fun context => Leaves [] (context :: contexts))
      (Leaves [] contexts) := by
  refine Ensures.read_bind fun outcomes => ?_
  refine (ensures_loadEntry outcomes.load).bind fun entry => ?_
  refine (ensures_orUnload (ensures_availableExtensions host entry
    outcomes.instanceExtensions)).bind fun extensions => ?_
  refine (ensures_orUnload (ensures_createInstance host entry _ _
    outcomes.createInstance)).bind fun made => ?_
  exact Ensures.pure fun _ hleaves => hleaves

theorem leaves_drop {context : VulkanContext} {log : List ContextCall}
    (hleaves : Leaves [] (context :: contexts) log) :
    Leaves [] contexts (context.drop log) := by
  have hunloaded := hleaves.destroy.unload
  rwa [List.append_assoc] at hunloaded

theorem deviceCalls_session (log : List ContextCall) (owner : VkInstance)
    (calls : List VkCall) :
    deviceCalls (log ++ calls.map (.onInstance owner)) =
      deviceCalls log ++ calls := by
  have hcalls : ContextCall.vkCall ∘ ContextCall.onInstance owner = some := rfl
  rw [deviceCalls, List.filterMap_append, List.filterMap_map, hcalls,
    List.filterMap_some, ← deviceCalls]

variable {context : VulkanContext} {log : List ContextCall}

theorem instance_mem (hmem : context ∈ contexts) :
    .vkInstance context.vkInstance ∈ objects contexts :=
  List.mem_flatMap.mpr ⟨context, hmem, List.mem_cons_self⟩

/-- Calls on an instance that leave nothing behind. -/
theorem Leaves.session {calls : List VkCall}
    (hleaves : Leaves [] contexts log) (hmem : context ∈ contexts)
    (hcalls : Holds [] [] (deviceCalls log ++ calls)) :
    Leaves [] contexts
      (log ++ calls.map (.onInstance context.vkInstance)) where
  owns := by
    refine onInstances.owns_of_within hleaves.owns ?_ ?_ ?_ ?_
    · have howns := hcalls.owns
      rw [← deviceCalls_session log context.vkInstance] at howns
      exact howns
    · intro call hcall
      obtain ⟨inner, -, rfl⟩ := List.mem_map.mp hcall
      rfl
    · rintro other hother object rfl
      exact not_device object hother
    · intro call hcall inner hinner other hused
      obtain ⟨_, -, rfl⟩ := List.mem_map.mp hcall
      cases hinner
      rcases List.mem_cons.mp hused with rfl | hdevice
      · exact Or.inr (instance_mem hmem)
      · obtain ⟨object, hobject, rfl⟩ := List.mem_map.mp hdevice
        exact Or.inl ⟨object, hobject, rfl⟩
  made other hother := (hleaves.made other hother).append _
  devices := by
    rw [deviceCalls_session]
    exact hcalls
  numbered := by
    rintro object index ⟨call, hcall, hcreates⟩ hnumber
    rw [List.length_append]
    rcases List.mem_append.mp hcall with hold | hnew
    · have hlt := hleaves.numbered object index ⟨call, hold, hcreates⟩ hnumber
      omega
    · obtain ⟨inner, -, rfl⟩ := List.mem_map.mp hnew
      obtain ⟨made, -, rfl⟩ := Option.map_eq_some_iff.mp hcreates
      cases hnumber

theorem Leaves.query (hleaves : Leaves [] contexts log)
    (hmem : context ∈ contexts) (gpus : List PhysicalDevice) :
    Leaves [] contexts (log ++ gpus.map fun gpu =>
      .getPhysicalDeviceProperties context.vkInstance gpu) := by
  induction gpus generalizing log with
  | nil => simpa using hleaves
  | cons gpu rest ih =>
      have hfirst : Leaves [] contexts (log ++
          [.getPhysicalDeviceProperties context.vkInstance gpu]) := by
        refine hleaves.use ?_ rfl rfl rfl rfl (hleaves.devices_concat rfl)
        simpa [ContextCall.uses] using instance_mem hmem
      have hrest := ih hfirst
      rwa [List.append_assoc] at hrest

theorem ensures_enumerateAdapters (hmem : context ∈ contexts) :
    Ensures some (Leaves [] contexts) (context.enumerateAdapters host)
      (fun _ => Leaves [] contexts) (Leaves [] contexts) := by
  refine Ensures.read_bind fun outcomes => ?_
  have hasked : ∀ log, Leaves [] contexts log → ∀ outcome,
      Leaves [] contexts (log ++ [.onInstance context.vkInstance
        (.enumeratePhysicalDevices outcome)]) := by
    intro log hleaves outcome
    have hcalls : Holds [] []
        (deviceCalls log ++ [.enumeratePhysicalDevices outcome]) :=
      hleaves.devices.use ⟨rfl, rfl, rfl, rfl⟩ nofun
    exact hleaves.session hmem hcalls
  have hlist : Ensures some (Leaves [] contexts)
      (perform (outcomes.physicalDevices.mapError (.ofResult host.text))
        (.onInstance context.vkInstance (.enumeratePhysicalDevices
          (outcomes.physicalDevices.map fun _ => ()))))
      (fun _ => Leaves [] contexts) (Leaves [] contexts) := by
    intro log hleaves
    cases outcomes.physicalDevices with
    | ok gpus => exact hasked log hleaves _
    | error result => exact fun _ => hasked log hleaves _
  refine hlist.bind fun gpus => ?_
  exact fun log hleaves => hleaves.query hmem gpus

/-- A render adds its calls under its instance, and they account for its
end. -/
theorem render_run (context : VulkanContext) (width height : UInt32)
    (color : ClearColor) (log : List ContextCall) :
    ∃ result calls,
      renderClearToOffscreen (renderOutcomes host log) width height color
          (deviceCalls log) = (result, deviceCalls log ++ calls) ∧
        context.render host width height color log =
          (result, log ++ calls.map (.onInstance context.vkInstance)) ∧
        Accounts (VkCall.failure host.text) (OwnEnd width height) calls
          result := by
  have hexplained : Explained (renderOutcomes host log) width height
      (renderClearToOffscreen (renderOutcomes host log) width height color) :=
    explained_renderClearToOffscreen color
  obtain ⟨calls, hcalls, haccounts⟩ := hexplained (deviceCalls log)
  rw [render]
  generalize renderClearToOffscreen (renderOutcomes host log) width height color
    (deviceCalls log) = ended at hcalls haccounts ⊢
  obtain ⟨result, changed⟩ := ended
  cases hcalls
  exact ⟨result, calls, rfl, by simp, haccounts⟩

/-- Whatever comes of a render, it leaves the contexts as they were. -/
theorem ensures_render (hmem : context ∈ contexts) (width height : UInt32)
    (color : ClearColor) :
    Ensures Stop.caught (Leaves [] contexts)
      (context.render host width height color) (fun _ => Leaves [] contexts)
      (Leaves [] contexts) := by
  intro log hleaves
  obtain ⟨result, calls, hrun, hrender, -⟩ :=
    render_run host context width height color log
  have hended := ensures_renderClearToOffscreen (renderOutcomes host log) width
    height color (deviceCalls log) hleaves.devices
  rw [hrun] at hended
  rw [hrender]
  cases result with
  | ok pixels => exact hleaves.session hmem hended
  | error stop => exact fun hcaught => hleaves.session hmem (hended hcaught)

end Functions

end VulkanContext

end SherGraphics
