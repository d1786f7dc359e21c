/-
`VulkanContext` of `vulkan_backend`: the loaded library and the instance made
with it.  Each context renders on devices of its own, so the log of all calls
has the calls of every offscreen render in it, each under the instance that it
was made with.
-/
import SherGraphics.NestedLifetimes
import SherGraphics.OffscreenLifetimes
import SherGraphics.OffscreenCalls

namespace SherGraphics

/-- The Vulkan library that the call at this position of the log loaded. -/
structure Entry where
  index : Nat
deriving DecidableEq, Repr

/-- The `VkInstance` that the call at this position of the log created. -/
structure VkInstance where
  index : Nat
deriving DecidableEq, Repr

/-- A call, with the outcome where it can fail.  `unloadEntry` is the drop of
the last reference to the library. -/
inductive ContextCall where
  | loadEntry (outcome : Except String Entry)
  | enumerateInstanceExtensionProperties (entry : Entry)
      (outcome : Except VkResult Unit)
  | createInstance (entry : Entry) (extensions : List String)
      (enumeratePortability : Bool) (outcome : Except VkResult VkInstance)
  | onInstance (owner : VkInstance) (call : VkCall)
  | getPhysicalDeviceProperties (owner : VkInstance) (gpu : PhysicalDevice)
  | destroyInstance (owner : VkInstance)
  | unloadEntry (entry : Entry)
deriving DecidableEq, Repr

/-- The call on an instance, if it is one. -/
def ContextCall.vkCall : ContextCall → Option VkCall
  | .onInstance _ call => some call
  | _ => none

/-- What `probe` meets. -/
structure ProbeOutcomes where
  load : Except String Unit
  instanceExtensions : Except VkResult (List (Option String))
  createInstance : Except VkResult Unit

/-- `vk::PhysicalDeviceProperties`, with the name where it can be read. -/
structure PhysicalDeviceProperties where
  deviceName : Option String
  vendorId : UInt32
  deviceId : UInt32
  deviceType : Int32
  apiVersion : UInt32
  driverVersion : UInt32

/-- What `enumerate_adapters` meets. -/
structure AdapterOutcomes where
  physicalDevices : Except VkResult (List PhysicalDevice)
  properties : PhysicalDevice → PhysicalDeviceProperties

/-- A machine, by what its Vulkan answers to a function that is called when the
log has this length. -/
structure VulkanHost where
  probes : Nat → ProbeOutcomes
  enumerations : Nat → AdapterOutcomes
  renders : Nat → Outcomes
  text : VkResult → String

structure AdapterInfo where
  name : String
  vendorId : UInt32
  deviceId : UInt32
  deviceType : Int32
  apiVersion : UInt32 × UInt32 × UInt32
  driverVersion : UInt32
deriving DecidableEq, Repr

/-- Owns a `VkInstance`, and the library it was made with. -/
structure VulkanContext where
  entry : Entry
  vkInstance : VkInstance
deriving DecidableEq, Repr

namespace VulkanContext

/-- A function's state is the log of all calls made so far. -/
abbrev Session := Method VulkanError (List ContextCall)

def portabilityEnumeration : String := "VK_KHR_portability_enumeration"

/-- Make a call, and fail if it does. -/
def perform {α : Type} (outcome : Except VulkanError α) (call : ContextCall) :
    Session α :=
  fun log => (outcome, log ++ [call])

section Probe

variable (host : VulkanHost)

def loadEntry (outcome : Except String Unit) : Session Entry := do
  let index ← Method.read List.length
  let made := outcome.map fun _ => Entry.mk index
  perform (made.mapError .loaderUnavailable) (.loadEntry made)

/-- A failure drops the library. -/
def orUnload {α : Type} (entry : Entry) (step : Session α) : Session α :=
  Method.onError some step
    (Method.change fun log => log ++ [.unloadEntry entry])

def availableExtensions (entry : Entry)
    (outcome : Except VkResult (List (Option String))) :
    Session (List (Option String)) :=
  perform (outcome.mapError (.ofResult host.text))
    (.enumerateInstanceExtensionProperties entry (outcome.map fun _ => ()))

def createInstance (entry : Entry) (extensions : List String)
    (enumeratePortability : Bool) (outcome : Except VkResult Unit) :
    Session VkInstance := do
  let index ← Method.read List.length
  let made := outcome.map fun _ => VkInstance.mk index
  perform (made.mapError (.ofResult host.text))
    (.createInstance entry extensions enumeratePortability made)

/-- Load the library and create an instance, with the portability extension
where there is one. -/
def probe : Session VulkanContext := do
  let outcomes ← Method.read fun log => host.probes log.length
  let entry ← loadEntry outcomes.load
  let extensions ← orUnload entry
    (availableExtensions host entry outcomes.instanceExtensions)
  let portabilitySupported :=
    extensions.any fun extension => extension == some portabilityEnumeration
  let vkInstance ← orUnload entry
    (createInstance host entry
      (if portabilitySupported then [portabilityEnumeration] else [])
      portabilitySupported outcomes.createInstance)
  pure ⟨entry, vkInstance⟩

end Probe

/-- `Drop`: the instance, and then the library. -/
def drop (context : VulkanContext) (log : List ContextCall) :
    List ContextCall :=
  log ++ [.destroyInstance context.vkInstance, .unloadEntry context.entry]

/-- A context that could be made is dropped at once. -/
def available (host : VulkanHost) (log : List ContextCall) :
    Bool × List ContextCall :=
  match probe host log with
  | (.ok context, log) => (true, context.drop log)
  | (.error _, log) => (false, log)

def apiVersion (version : UInt32) : UInt32 × UInt32 × UInt32 :=
  ((version >>> 22) &&& 0x7f, (version >>> 12) &&& 0x3ff, version &&& 0xfff)

def adapterInfo (props : PhysicalDeviceProperties) : AdapterInfo where
  name := props.deviceName.getD "<unreadable device name>"
  vendorId := props.vendorId
  deviceId := props.deviceId
  deviceType := props.deviceType
  apiVersion := apiVersion props.apiVersion
  driverVersion := props.driverVersion

section Instance

variable (host : VulkanHost) (context : VulkanContext)

/-- One query for each physical device. -/
def enumerateAdapters : Session (List AdapterInfo) := do
  let outcomes ← Method.read fun log => host.enumerations log.length
  let physicalDevices ← perform
    (outcomes.physicalDevices.mapError (.ofResult host.text))
    (.onInstance context.vkInstance (.enumeratePhysicalDevices
      (outcomes.physicalDevices.map fun _ => ())))
  Method.change fun log => log ++ physicalDevices.map fun gpu =>
    .getPhysicalDeviceProperties context.vkInstance gpu
  pure (physicalDevices.map fun gpu => adapterInfo (outcomes.properties gpu))

/-- The calls made on instances, of all renders so far. -/
def deviceCalls (log : List ContextCall) : List VkCall :=
  log.filterMap ContextCall.vkCall

/-- What a render meets that starts with this log. -/
def renderOutcomes (log : List ContextCall) : Outcomes :=
  { host.renders log.length with text := host.text }

/-- A render, with its calls in the log of all calls. -/
def render (width height : UInt32) (color : ClearColor) :
    Method Stop (List ContextCall) (List UInt8) :=
  fun log =>
    let before := deviceCalls log
    let (result, calls) :=
      renderClearToOffscreen (renderOutcomes host log) width height color before
    (result, log ++ (calls.drop before.length).map
      (.onInstance context.vkInstance))

end Instance

end VulkanContext

end SherGraphics
