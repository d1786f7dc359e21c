/-
The error of an offscreen render is the first that Vulkan reported, or says that
no device, queue or memory was suitable.  Nothing that is cleaned up on the way
out hides it.
-/
import SherGraphics.ErrorOrigin
import SherGraphics.OffscreenPending

namespace SherGraphics

/-- The code that a failed call reports. -/
def VkCall.code (call : VkCall) : Option VkResult :=
  match call.reported with
  | .ok _ => none
  | .error result => some result

/-- The error that a failed call stops the render with. -/
def VkCall.failure (text : VkResult → String) (call : VkCall) : Option Stop :=
  call.code.map fun result => .failed (.ofResult text result)

theorem VulkanError.ofResult_deviceLost {text : VkResult → String}
    {result : VkResult} {message : String} :
    ofResult text result = .deviceLost message ↔
      result = .errorDeviceLost ∧ text result = message := by
  rw [ofResult]
  by_cases hlost : result = .errorDeviceLost
  · simp [hlost]
  · simp [hlost]

namespace VulkanContext

open Method

/-- The ends of a render of this size that no failed call accounts for. -/
def OwnEnd (width height : UInt32) : Stop → Prop
  | .failed (.noSuitableDevice _) => True
  | .failed error => error = .invalidDimensions width height ∧
      (width = 0 ∨ height = 0)
  | .panicked => 2 ^ 63 ≤ (bufferSize width height).toNat

section Parts

/-- The calls account for the end of this part of a render. -/
abbrev Explained (outcomes : Outcomes) (width height : UInt32) {α : Type}
    (method : Render α) : Prop :=
  Attributed (VkCall.failure outcomes.text) (OwnEnd width height) method

abbrev Silent (outcomes : Outcomes) (method : Render Unit) : Prop :=
  Unfailing (VkCall.failure outcomes.text) method

variable {outcomes : Outcomes} {width height : UInt32}

theorem silent_tell {call : VkCall} (hcall : call.reported = .ok ()) :
    Silent outcomes (tell call) :=
  Unfailing.one (fun _ => rfl) (by simp [VkCall.failure, VkCall.code, hcall])

theorem explained_tell {call : VkCall} (hcall : call.reported = .ok ()) :
    Explained outcomes width height (tell call) :=
  .of_unfailing (silent_tell hcall)

theorem explained_ask {α : Type} {outcome : Except VkResult α}
    {entry : Except VkResult Unit → VkCall}
    (hentry : ∀ outcome, (entry outcome).reported = outcome) :
    Explained outcomes width height (ask outcomes outcome entry) := by
  refine .one fun log => ⟨_, rfl, ?_⟩
  cases outcome with
  | ok value =>
      simp [ask, VkCall.failure, VkCall.code, hentry, Except.map,
        Except.mapError]
  | error result =>
      simp [ask, VkCall.failure, VkCall.code, hentry, Except.map,
        Except.mapError, stop]

theorem explained_create {kind : VkKind} {outcome : Except VkResult Unit}
    {entry : Except VkResult (Handle kind) → VkCall}
    (hentry : ∀ outcome,
      (entry outcome).reported = outcome.map fun _ => ()) :
    Explained outcomes width height (create outcomes outcome entry) := by
  refine .one fun log => ⟨_, rfl, ?_⟩
  cases outcome with
  | ok value =>
      simp [create, VkCall.failure, VkCall.code, hentry, Except.map,
        Except.mapError]
  | error result =>
      simp [create, VkCall.failure, VkCall.code, hentry, Except.map,
        Except.mapError, stop]

variable (device : Handle .device) (image : Handle .image)
  (imageMemory : Handle .deviceMemory) (readbackBuffer : Handle .buffer)
  (bufferMemory : Handle .deviceMemory) (commandPool : Handle .commandPool)
  (fence : Handle .fence) (gpu : PhysicalDevice) (queueFamily : Nat)
  (color : ClearColor)

theorem silent_cleanupImage :
    Silent outcomes (cleanupImage device image imageMemory) :=
  (silent_tell rfl).bind fun _ => silent_tell rfl

theorem silent_cleanupBoth :
    Silent outcomes (cleanupBoth device image imageMemory readbackBuffer
      bufferMemory) := by
  have hbuffer : Silent outcomes (cleanupBuffer device readbackBuffer
      bufferMemory) := (silent_tell rfl).bind fun _ => silent_tell rfl
  exact hbuffer.bind fun _ => silent_cleanupImage device image imageMemory

theorem silent_cleanupPool :
    Silent outcomes (do
      destroyCommandPool device commandPool
      cleanupBoth device image imageMemory readbackBuffer bufferMemory) :=
  (silent_tell rfl).bind fun _ =>
    silent_cleanupBoth device image imageMemory readbackBuffer bufferMemory

/-- A failure that is cleaned up after. -/
theorem explained_orCleanUp {α : Type} {step : Render α}
    {cleanup : Render Unit} (hstep : Explained outcomes width height step)
    (hcleanup : Silent outcomes cleanup) :
    Explained outcomes width height (orCleanUp step cleanup) :=
  hstep.onError hcleanup

theorem explained_okOr {α : Type} (value : Option α) (message : String) :
    Explained outcomes width height
      (okOr value (Stop.failed (.noSuitableDevice message))) :=
  .okOr value trivial

theorem explained_makeImage :
    Explained outcomes width height (makeImage outcomes device gpu width height) := by
  refine (explained_create fun _ => rfl).bind fun image => ?_
  refine (explained_tell rfl).bind fun _ => ?_
  refine (explained_tell rfl).bind fun _ => ?_
  have hdestroy : Silent outcomes (destroyImage device image) :=
    silent_tell rfl
  refine (explained_orCleanUp (explained_okOr _ _) hdestroy).bind
    fun type => ?_
  refine (explained_orCleanUp (explained_create fun _ => rfl) hdestroy).bind
    fun imageMemory => ?_
  have hfree : Silent outcomes (do
      freeMemory device imageMemory
      destroyImage device image) := (silent_tell rfl).bind fun _ => hdestroy
  exact (explained_orCleanUp (explained_ask fun _ => rfl) hfree).bind
    fun _ => .pure _

theorem explained_makeBuffer :
    Explained outcomes width height
      (makeBuffer outcomes device width height image imageMemory) :=
  explained_orCleanUp (explained_create fun _ => rfl)
    (silent_cleanupImage device image imageMemory)

theorem explained_makeBufferMemory :
    Explained outcomes width height (makeBufferMemory outcomes device gpu image imageMemory
      readbackBuffer) := by
  refine (explained_tell rfl).bind fun _ => ?_
  have hdestroy : Silent outcomes (do
      destroyBuffer device readbackBuffer
      cleanupImage device image imageMemory) :=
    (silent_tell rfl).bind fun _ =>
      silent_cleanupImage device image imageMemory
  refine (explained_orCleanUp (explained_okOr _ _) hdestroy).bind
    fun type => ?_
  refine (explained_orCleanUp (explained_create fun _ => rfl) hdestroy).bind
    fun bufferMemory => ?_
  have hfree : Silent outcomes (do
      freeMemory device bufferMemory
      destroyBuffer device readbackBuffer
      cleanupImage device image imageMemory) :=
    (silent_tell rfl).bind fun _ => hdestroy
  exact (explained_orCleanUp (explained_ask fun _ => rfl) hfree).bind
    fun _ => .pure _

theorem explained_recordCommands :
    Explained outcomes width height (recordCommands outcomes device commandPool image
      readbackBuffer width height color) := by
  refine (explained_ask fun _ => rfl).bind fun _ => ?_
  refine (explained_tell rfl).bind fun _ => ?_
  refine (explained_tell rfl).bind fun _ => ?_
  refine (explained_tell rfl).bind fun _ => ?_
  refine (explained_tell rfl).bind fun _ => ?_
  exact explained_ask fun _ => rfl

theorem explained_makeCommands :
    Explained outcomes width height (makeCommands outcomes device queueFamily width height
      color image imageMemory readbackBuffer bufferMemory) := by
  have hclean : Silent outcomes (cleanupBoth device image imageMemory
      readbackBuffer bufferMemory) :=
    silent_cleanupBoth device image imageMemory readbackBuffer bufferMemory
  refine (explained_orCleanUp (explained_create fun _ => rfl) hclean).bind
    fun commandPool => ?_
  have hpool : Silent outcomes (do
      destroyCommandPool device commandPool
      cleanupBoth device image imageMemory readbackBuffer bufferMemory) :=
    silent_cleanupPool device image imageMemory readbackBuffer bufferMemory
      commandPool
  refine (explained_orCleanUp (explained_ask fun _ => rfl) hpool).bind
    fun _ => ?_
  exact (explained_orCleanUp (explained_recordCommands device image
    readbackBuffer commandPool color) hpool).bind
    fun _ => .pure _

theorem explained_makeFence :
    Explained outcomes width height (makeFence outcomes device commandPool image imageMemory
      readbackBuffer bufferMemory) :=
  explained_orCleanUp (explained_create fun _ => rfl)
    (silent_cleanupPool device image imageMemory readbackBuffer bufferMemory
      commandPool)

theorem explained_submitAndRead :
    Explained outcomes width height (submitAndRead outcomes device commandPool fence
      bufferMemory width height) := by
  refine (explained_ask fun _ => rfl).bind fun _ => ?_
  refine (explained_ask fun _ => rfl).bind fun _ => ?_
  refine (explained_ask fun _ => rfl).bind fun _ => ?_
  have hread : Explained outcomes width height (readMapped outcomes bufferMemory
      (bufferSize width height).toNat) := by
    intro log
    refine ⟨[.readMapped bufferMemory (bufferSize width height).toNat], rfl, ?_⟩
    rw [readMapped]
    by_cases hfits : (bufferSize width height).toNat < 2 ^ 63
    · rw [if_pos hfits]
      rfl
    · rw [if_neg hfits]
      exact Or.inr ⟨rfl, Nat.le_of_not_lt hfits⟩
  refine hread.bind fun bytes => ?_
  exact (explained_tell rfl).bind fun _ => .pure _

/-- A panic is not raised again, and an error is. -/
theorem raise_caught (stop : Stop) (error : VulkanError)
    (hcaught : stop.caught = some error) : Stop.failed error = stop := by
  cases stop with
  | failed other =>
      cases hcaught
      rfl
  | panicked => cases hcaught

theorem explained_finish :
    Explained outcomes width height (finish outcomes device image imageMemory readbackBuffer
      bufferMemory commandPool fence width height) := by
  have hclean : Silent outcomes (tearDown device image imageMemory
      readbackBuffer bufferMemory commandPool fence) :=
    (silent_tell rfl).bind fun _ => silent_cleanupPool device image imageMemory
      readbackBuffer bufferMemory commandPool
  exact (explained_submitAndRead device bufferMemory commandPool
    fence).reraise hclean raise_caught

theorem explained_renderClearInner :
    Explained outcomes width height (renderClearInner outcomes device gpu queueFamily width
      height color) := by
  refine (explained_tell rfl).bind fun _ => ?_
  refine (explained_makeImage device gpu).bind ?_
  rintro ⟨image, imageMemory⟩
  refine (explained_makeBuffer device image imageMemory).bind
    fun readbackBuffer => ?_
  refine (explained_makeBufferMemory device image imageMemory readbackBuffer
    gpu).bind fun bufferMemory => ?_
  refine (explained_makeCommands device image imageMemory readbackBuffer
    bufferMemory queueFamily color).bind fun commandPool => ?_
  refine (explained_makeFence device image imageMemory readbackBuffer
    bufferMemory commandPool).bind fun fence => ?_
  exact explained_finish device image imageMemory readbackBuffer bufferMemory
    commandPool fence

theorem explained_renderClearToOffscreen :
    Explained outcomes width height
      (renderClearToOffscreen outcomes width height color) := by
  refine (Attributed.rejectIf _ fun hzero => ⟨rfl, hzero⟩).bind fun _ => ?_
  have hchoose : Explained outcomes width height (chooseQueue outcomes) := by
    refine (explained_ask fun _ => rfl).bind fun devices => ?_
    refine (explained_okOr _ _).bind fun gpu => ?_
    refine (explained_tell rfl).bind fun _ => ?_
    exact (explained_okOr _ _).bind fun queueFamily => .pure _
  refine hchoose.bind ?_
  rintro ⟨gpu, queueFamily⟩
  have hdevice : Explained outcomes width height (makeDevice outcomes gpu queueFamily) :=
    (explained_ask fun _ => rfl).bind fun _ => explained_create fun _ => rfl
  refine hdevice.bind fun device => ?_
  exact (explained_renderClearInner device gpu queueFamily color).reraise
    (silent_tell rfl) raise_caught

end Parts

/-! ### Whole renders -/

/-- The code that the first failed call reported. -/
def firstCode (log : List VkCall) : Option VkResult :=
  log.findSome? VkCall.code

theorem firstFailure_eq (text : VkResult → String) (log : List VkCall) :
    firstFailure (VkCall.failure text) log =
      (firstCode log).map fun result => .failed (.ofResult text result) := by
  induction log with
  | nil => rfl
  | cons call rest ih =>
      rw [firstFailure] at ih
      rw [firstFailure, firstCode, List.findSome?_cons, List.findSome?_cons, ih,
        VkCall.failure]
      cases call.code with
      | none => rfl
      | some result => rfl

/-- What the first failed call reported decides how a render ends. -/
theorem of_accounts {text : VkResult → String} {width height : UInt32}
    {calls : List VkCall} {ended : Except Stop (List UInt8)}
    (haccounts : Accounts (VkCall.failure text) (OwnEnd width height) calls
      ended) :
    (∀ result, firstCode calls = some result →
        ended = .error (.failed (.ofResult text result))) ∧
      (firstCode calls = none →
        ∀ stop, ended = .error stop → OwnEnd width height stop) := by
  cases ended with
  | ok pixels =>
      rw [Accounts, firstFailure_eq, Option.map_eq_none_iff] at haccounts
      exact ⟨by simp [haccounts], fun _ _ hstop => by cases hstop⟩
  | error stop =>
      rw [Accounts, firstFailure_eq, Option.map_eq_some_iff,
        Option.map_eq_none_iff] at haccounts
      rcases haccounts with ⟨result, hfirst, rfl⟩ | ⟨hnone, hown⟩
      · refine ⟨fun other hother => ?_, by simp [hfirst]⟩
        rw [Option.some.inj (hfirst.symm.trans hother)]
      · refine ⟨by simp [hnone], ?_⟩
        rintro _ other ⟨⟩
        exact hown

/-- Whatever the dimensions, the colour and the outcomes of the calls: a render
in which a call failed ends in the error of the first that did, whatever was
cleaned up after it; one in which none did ends in its pixels, or finds no
suitable device, or has a dimension of zero, or panics over a buffer of 2^63
bytes or more.  So it reports a lost device exactly if the first failed call
did. -/
theorem first_failure_reported (outcomes : Outcomes) (width height : UInt32)
    (color : ClearColor) :
    let ended := (session outcomes width height color).1
    let calls := (session outcomes width height color).2
    (∀ result, firstCode calls = some result →
        ended = .error (.failed (.ofResult outcomes.text result))) ∧
      (firstCode calls = none →
        ∀ stop, ended = .error stop → OwnEnd width height stop) ∧
      ∀ message, ended = .error (.failed (.deviceLost message)) ↔
        firstCode calls = some .errorDeviceLost ∧
          outcomes.text .errorDeviceLost = message := by
  intro ended calls
  have hexplained : Explained outcomes width height
      (renderClearToOffscreen outcomes width height color) :=
    explained_renderClearToOffscreen color
  obtain ⟨made, hmade, haccounts⟩ := hexplained []
  have hcalls : calls = made := hmade
  obtain ⟨hcode, hown⟩ := of_accounts haccounts
  rw [hcalls]
  refine ⟨hcode, hown, fun message => ⟨fun hlost => ?_, ?_⟩⟩
  · cases hfirst : firstCode made with
    | none => exact absurd (hown hfirst _ hlost).1 nofun
    | some result =>
        have hsame := (hcode result hfirst).symm.trans hlost
        have herror := Stop.failed.inj (Except.error.inj hsame)
        obtain ⟨rfl, htext⟩ := VulkanError.ofResult_deviceLost.mp herror
        exact ⟨rfl, htext⟩
  · rintro ⟨hfirst, htext⟩
    have herror := VulkanError.ofResult_deviceLost.mpr ⟨rfl, htext⟩
    rw [← herror]
    exact hcode _ hfirst

end VulkanContext

end SherGraphics
