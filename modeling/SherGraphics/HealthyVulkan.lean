/-
Machines with one GPU, which can render a pixel, on which no Vulkan call fails.
Every render of one ends in pixels and every reset in a new context, so a
runtime that was opened over such a machine serves its calls as one that fell
back to the software driver, which has one GPU as well.
-/
import SherGraphics.DriverSwap
import SherGraphics.RealVulkanLife

namespace SherGraphics

namespace VulkanContext

open Method

/-- There is a device for the render, and no call of it fails. -/
structure Works (outcomes : Outcomes) : Prop where
  chosen : ∃ gpu queueFamily, Chosen outcomes gpu queueFamily ∧
    ImageMade outcomes gpu ∧ BufferMemoryMade outcomes gpu
  device : DeviceMade outcomes
  buffer : outcomes.createBuffer = .ok ()
  commands : CommandsMade outcomes
  fence : outcomes.createFence = .ok ()
  submitted : outcomes.queueSubmit = .ok ()
  waited : outcomes.waitForFences = .ok ()
  mapped : outcomes.mapMemory = .ok ()

section Renders

variable {outcomes : Outcomes} {device : Handle .device}
  {gpu : PhysicalDevice} {width height : UInt32} {color : ClearColor}

/-- An image whose bytes can be kept in a `Vec`. -/
def Readable (width height : UInt32) : Prop :=
  width ≠ 0 ∧ height ≠ 0 ∧ (bufferSize width height).toNat < 2 ^ 63

theorem ok_of_ask {α : Type} {outcome : Except VkResult α} {value : α}
    (hok : outcome = .ok value) (entry : Except VkResult Unit → VkCall)
    (log : List VkCall) :
    ∃ found changed, ask outcomes outcome entry log = (.ok found, changed) :=
  (succeeds_ask outcomes outcome entry log).mpr ⟨value, hok⟩

theorem Works.finishes (hworks : Works outcomes)
    (hreadable : Readable width height) (image : Handle .image)
    (imageMemory : Handle .deviceMemory) (readbackBuffer : Handle .buffer)
    (bufferMemory : Handle .deviceMemory) (commandPool : Handle .commandPool)
    (fence : Handle .fence) (log : List VkCall) :
    ∃ pixels changed, finish outcomes device image imageMemory readbackBuffer
      bufferMemory commandPool fence width height log =
        (.ok pixels, changed) := by
  have hread : ∃ bytes changed, submitAndRead outcomes device commandPool fence
      bufferMemory width height log = (.ok bytes, changed) := by
    refine ok_bind (ok_of_ask hworks.submitted _ _) fun _ _ => ?_
    refine ok_bind (ok_of_ask hworks.waited _ _) fun _ _ => ?_
    refine ok_bind (ok_of_ask hworks.mapped _ _) fun _ _ => ?_
    rw [bind_run, readMapped, if_pos hreadable.2.2]
    exact ⟨_, _, rfl⟩
  obtain ⟨bytes, changed, hread⟩ := hread
  rw [finish, bind_run, Method.attempt, hread]
  exact ⟨_, _, rfl⟩

theorem Works.rendersInner (hworks : Works outcomes)
    (hreadable : Readable width height) (himage : ImageMade outcomes gpu)
    (hmemory : BufferMemoryMade outcomes gpu) (queueFamily : Nat)
    (log : List VkCall) :
    ∃ pixels changed, renderClearInner outcomes device gpu queueFamily width
      height color log = (.ok pixels, changed) := by
  refine ok_bind ⟨_, _, rfl⟩ fun _ _ => ?_
  refine ok_bind ((succeeds_makeImage ..).mpr himage) fun made _ => ?_
  obtain ⟨image, imageMemory⟩ := made
  refine ok_bind ((succeeds_makeBuffer ..).mpr hworks.buffer) fun buffer _ => ?_
  refine ok_bind ((succeeds_makeBufferMemory ..).mpr hmemory)
    fun bufferMemory _ => ?_
  refine ok_bind ((succeeds_makeCommands ..).mpr hworks.commands)
    fun commandPool _ => ?_
  refine ok_bind ((succeeds_makeFence ..).mpr hworks.fence) fun fence after => ?_
  exact hworks.finishes hreadable image imageMemory buffer bufferMemory
    commandPool fence after

/-- A render ends in pixels, after whatever calls it starts. -/
theorem Works.renders (hworks : Works outcomes)
    (hreadable : Readable width height) (log : List VkCall) :
    ∃ pixels changed, renderClearToOffscreen outcomes width height color log =
      (.ok pixels, changed) := by
  have hadmitted : ¬ (width = 0 ∨ height = 0) :=
    not_or.mpr ⟨hreadable.1, hreadable.2.1⟩
  refine ok_bind ((Succeeds.rejectIf _ _ log).mpr hadmitted) fun _ start => ?_
  obtain ⟨gpu, queueFamily, hchosen, himage, hmemory⟩ := hworks.chosen
  have hchoose := chooseQueue_chooses outcomes Stop.caught (fun _ => True) start
    trivial
  obtain ⟨chosen, after, hrun⟩ := (succeeds_chooseQueue outcomes start).mpr
    ⟨gpu, queueFamily, hchosen⟩
  rw [hrun] at hchoose
  have hgpu : chosen.1 = gpu := hchosen.unique hchoose
  rw [bind_of_ok hrun]
  refine ok_bind ((succeeds_makeDevice ..).mpr hworks.device)
    fun device opened => ?_
  obtain ⟨pixels, changed, hinner⟩ := hworks.rendersInner hreadable himage
    hmemory chosen.2 opened
  rw [← hgpu] at hinner
  rw [bind_run, Method.attempt, hinner]
  exact ⟨_, _, rfl⟩

end Renders

end VulkanContext

/-- No Vulkan call of the machine fails, and it has one GPU, with a queue family
and memory types for a render. -/
structure VulkanHost.Healthy (host : VulkanHost) : Prop where
  loads : ∀ count, (host.probes count).load = .ok ()
  lists : ∀ count, ∃ extensions,
    (host.probes count).instanceExtensions = .ok extensions
  creates : ∀ count, (host.probes count).createInstance = .ok ()
  adapter : ∀ count, ∃ gpu,
    (host.enumerations count).physicalDevices = .ok [gpu]
  renders : ∀ log, VulkanContext.Works (VulkanContext.renderOutcomes host log)

namespace VulkanHost.Healthy

open Method VulkanContext

variable {host : VulkanHost}

/-- The probe comes to a context. -/
theorem probes (hhealthy : host.Healthy) (log : List ContextCall) :
    ∃ context changed, probe host log = (.ok context, changed) := by
  obtain ⟨extensions, hlists⟩ := hhealthy.lists log.length
  rw [probe, read_bind, hhealthy.loads, hlists, hhealthy.creates]
  refine ok_bind ⟨_, _, rfl⟩ fun entry _ => ?_
  refine ok_bind ⟨_, _, rfl⟩ fun found _ => ?_
  exact ok_bind ⟨_, _, rfl⟩ fun _ _ => ⟨_, _, rfl⟩

theorem enumerates (hhealthy : host.Healthy) (context : VulkanContext)
    (log : List ContextCall) :
    ∃ adapter changed, context.enumerateAdapters host log =
      (.ok [adapter], changed) := by
  obtain ⟨gpu, hgpu⟩ := hhealthy.adapter log.length
  rw [enumerateAdapters, read_bind, hgpu]
  exact ⟨_, _, rfl⟩

/-- A pixel can be rendered. -/
theorem executes (hhealthy : host.Healthy) (context : VulkanContext)
    (log : List ContextCall) :
    ∃ pixels changed, context.render host 1 1 RealVulkanBackend.clearColor log =
      (.ok pixels, changed) := by
  have hpixel : Readable 1 1 := ⟨by decide, by decide, by decide⟩
  obtain ⟨pixels, calls, hrun⟩ : ∃ pixels calls,
      renderClearToOffscreen (renderOutcomes host log) 1 1
        RealVulkanBackend.clearColor (deviceCalls log) = (.ok pixels, calls) :=
    (hhealthy.renders log).renders hpixel (deviceCalls log)
  rw [render, hrun]
  exact ⟨_, _, rfl⟩

/-- A backend of the machine accepts everything. -/
theorem serves (hhealthy : host.Healthy) (call : BackendCall)
    (backend : RealVulkanBackend) (hhost : backend.host = host) :
    ∃ later : RealVulkanBackend,
      call.serve backend = (.returned (.ok ()), later) ∧
        later.host = host := by
  subst hhost
  cases call with
  | execute ops =>
      obtain ⟨pixels, changed, hrun⟩ :=
        hhealthy.executes backend.context backend.log
      refine ⟨{ backend with log := changed }, ?_, rfl⟩
      change RealVulkanBackend.execute ops backend = _
      rw [RealVulkanBackend.execute, hrun]
  | reset =>
      obtain ⟨context, changed, hrun⟩ := hhealthy.probes backend.log
      refine ⟨{ backend with context, log := backend.context.drop changed }, ?_,
        rfl⟩
      change RealVulkanBackend.reset backend = _
      rw [RealVulkanBackend.reset, hrun]

theorem alwaysSucceeds (hhealthy : host.Healthy) (backend : RealVulkanBackend)
    (hhost : backend.host = host) : AlwaysSucceeds backend := by
  intro calls
  induction calls generalizing backend with
  | nil => exact nofun
  | cons call rest ih =>
      obtain ⟨later, hserved, hlater⟩ := hhealthy.serves call backend hhost
      intro outcome hmem
      rcases List.mem_cons.mp hmem with rfl | hrest
      · exact congrArg Prod.fst hserved
      · refine ih later hlater outcome ?_
        have hstep : (call.serve backend).2 = later := congrArg Prod.snd hserved
        rwa [← hstep]

/-- The driver is opened with its one device. -/
theorem opens (hhealthy : host.Healthy) (vramBytes : Nat) (ids : IdSource)
    (log : List ContextCall) :
    ∃ adapter backend changed,
      VulkanDriver.new host vramBytes (.ok ()) ids log =
        (.ok (.start [adapter] vramBytes ids backend), ids.advance 1,
          changed) ∧ AlwaysSucceeds backend := by
  obtain ⟨context, probed, hprobe⟩ := hhealthy.probes log
  obtain ⟨adapter, changed, hlisted⟩ := hhealthy.enumerates context probed
  refine ⟨adapter.toBackend, ⟨host, context, changed⟩, changed, ?_,
    hhealthy.alwaysSucceeds _ rfl⟩
  have hfound : VulkanBackend.enumerateAdapters
      (⟨host, context, probed⟩ : RealVulkanBackend) =
        (.ok [adapter.toBackend], ⟨host, context, changed⟩) := by
    change RealVulkanBackend.enumerateAdapters _ = _
    rw [RealVulkanBackend.enumerateAdapters, hlisted]
    rfl
  have hdriver : VulkanDriver.withBackend
      (⟨host, context, probed⟩ : RealVulkanBackend) vramBytes (.ok ()) ids =
        (.ok (.start [adapter.toBackend] vramBytes ids
          ⟨host, context, changed⟩), ids.advance 1) := by
    rw [VulkanDriver.withBackend, hfound]
    rfl
  rw [VulkanDriver.new, RealVulkanBackend.openContext, hprobe]
  dsimp only
  rw [hdriver]
  rfl

end VulkanHost.Healthy

namespace VulkanDriver

end VulkanDriver

namespace GraphicsRuntime

variable {P : Type} [GPUDriver P]

variable {host broken : VulkanHost} {ids ids' : IdSource}
  {log log' : List ContextCall} {vramBytes : Nat} {error : Error}

namespace OneAdapter

/-- Open a context, break its GPU and ask for the fault. -/
def requests : List (ApiAction (FallbackDriver RealVulkanBackend)) :=
  [.call (.createDevice ⟨0⟩ .full) rfl, .markFaulted ⟨0⟩ .full "hang",
    .call (.deviceFault ⟨1⟩) rfl]

end OneAdapter

end GraphicsRuntime

end SherGraphics
