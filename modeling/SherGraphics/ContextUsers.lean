/-
Programs that use `vulkan_backend` directly.  They may hold any number of
contexts, ask any of them for anything in any order and drop each when they
like.  Whatever Vulkan answers, a context shares nothing with another and leaves
nothing behind.
-/
import SherGraphics.RealVulkanBackend

namespace SherGraphics

open VulkanContext

/-- The contexts that are held, and the log of all calls of Vulkan. -/
structure ContextUsers where
  held : List VulkanContext
  log : List ContextCall

inductive ContextUse where
  | probe
  | available
  | enumerateAdapters (context : VulkanContext)
  | renderClearToOffscreen (context : VulkanContext) (width height : UInt32)
      (color : ClearColor)
  | drop (context : VulkanContext)
deriving DecidableEq, Repr

inductive ContextAnswer where
  | opened (result : Except VulkanError VulkanContext)
  | available (answer : Bool)
  | adapters (result : Except VulkanError (List AdapterInfo))
  | pixels (result : Except Stop (List UInt8))
  | dropped
  | notHeld

namespace ContextUse

/-- The context that is used. -/
def context : ContextUse → Option VulkanContext
  | .enumerateAdapters context
  | .renderClearToOffscreen context _ _ _
  | .drop context => some context
  | .probe | .available => none

/-- The bytes of a picture that is asked for make a slice. -/
def Fits : ContextUse → Prop
  | .renderClearToOffscreen _ width height _ =>
      (bufferSize width height).toNat < 2 ^ 63
  | _ => True

end ContextUse

/-- The call is made on the library or the instance of the context. -/
def ContextCall.Touches (context : VulkanContext) (call : ContextCall) : Prop :=
  .vkInstance context.vkInstance ∈ call.uses ∨ .entry context.entry ∈ call.uses

namespace ContextUsers

variable (host : VulkanHost)

/-- Only a context that is held can be used. -/
def step (users : ContextUsers) : ContextUse → ContextAnswer × ContextUsers
  | .probe =>
      match probe host users.log with
      | (.ok context, log) =>
          (.opened (.ok context), ⟨context :: users.held, log⟩)
      | (.error error, log) => (.opened (.error error), ⟨users.held, log⟩)
  | .available =>
      let (answer, log) := available host users.log
      (.available answer, ⟨users.held, log⟩)
  | .enumerateAdapters context =>
      if context ∈ users.held then
        let (result, log) := context.enumerateAdapters host users.log
        (.adapters result, ⟨users.held, log⟩)
      else (.notHeld, users)
  | .renderClearToOffscreen context width height color =>
      if context ∈ users.held then
        let (result, log) := context.render host width height color users.log
        (.pixels result, ⟨users.held, log⟩)
      else (.notHeld, users)
  | .drop context =>
      if context ∈ users.held then
        (.dropped, ⟨users.held.erase context, context.drop users.log⟩)
      else (.notHeld, users)

/-- Drop the contexts, one after the other. -/
def dropAll (contexts : List VulkanContext) (log : List ContextCall) :
    List ContextCall :=
  contexts.foldl (fun log context => context.drop log) log

/-- The use made only calls on the context that was used; if it used none, on
none of those that were held. -/
def KeepsToItself (e : Event ContextUsers ContextUse ContextAnswer) : Prop :=
  ∃ calls, e.after.log = e.before.log ++ calls ∧
    ∀ call ∈ calls, ∀ context ∈ e.before.held, call.Touches context →
      e.action.context = some context

open Lifetimes

/-- The contexts that are held are all that is left behind. -/
def Sound (users : ContextUsers) : Prop :=
  Leaves [] users.held users.log

/-- A render panics only over a picture whose bytes make no slice. -/
theorem render_returns (context : VulkanContext) {width height : UInt32}
    (hfits : (bufferSize width height).toNat < 2 ^ 63) (color : ClearColor)
    (log : List ContextCall) :
    (context.render host width height color log).1 ≠ .error .panicked := by
  obtain ⟨result, calls, -, hrender, haccounts⟩ :=
    render_run host context width height color log
  obtain ⟨hcode, hown⟩ := of_accounts haccounts
  rw [hrender]
  rintro rfl
  cases hfirst : firstCode calls with
  | none =>
      have hhuge : 2 ^ 63 ≤ (bufferSize width height).toNat :=
        hown hfirst _ rfl
      omega
  | some code => exact absurd (hcode code hfirst) (by simp)

variable {host} {users : ContextUsers}

/-! ### Nothing is left behind -/

theorem Sound.drop (hsound : users.Sound) {context : VulkanContext}
    (hmem : context ∈ users.held) :
    Leaves [] (users.held.erase context) (context.drop users.log) :=
  leaves_drop (Leaves.perm hsound (List.perm_cons_erase hmem))

/-- Contexts may be dropped in any order. -/
theorem cleanedUp_dropAll {held order : List VulkanContext}
    {log : List ContextCall} (hleaves : Leaves [] held log)
    (horder : order.Perm held) : CleanedUp (dropAll order log) := by
  have hordered := hleaves.perm horder.symm
  clear hleaves horder
  induction order generalizing log with
  | nil => exact hordered.owns.cleanedUp
  | cons context rest ih => exact ih (leaves_drop hordered)

theorem Sound.probe (hsound : users.Sound) :
    (step host users .probe).2.Sound := by
  have hprobed := ensures_probe host users.log hsound
  rw [step]
  generalize VulkanContext.probe host users.log = ended at hprobed ⊢
  obtain ⟨result, changed⟩ := ended
  cases result with
  | ok context => exact hprobed
  | error error => exact hprobed rfl

theorem Sound.available (hsound : users.Sound) :
    (step host users .available).2.Sound := by
  have hprobed := ensures_probe host users.log hsound
  rw [step, VulkanContext.available]
  generalize VulkanContext.probe host users.log = ended at hprobed ⊢
  obtain ⟨result, changed⟩ := ended
  cases result with
  | ok context => exact leaves_drop hprobed
  | error error => exact hprobed rfl

theorem Sound.enumerateAdapters (hsound : users.Sound)
    {context : VulkanContext} (hmem : context ∈ users.held) :
    Leaves [] users.held
      (context.enumerateAdapters host users.log).2 := by
  have henumerated := ensures_enumerateAdapters host hmem users.log hsound
  generalize context.enumerateAdapters host users.log = ended at henumerated ⊢
  obtain ⟨result, changed⟩ := ended
  cases result with
  | ok adapters => exact henumerated
  | error error => exact henumerated rfl

theorem Sound.render (hsound : users.Sound) {context : VulkanContext}
    (hmem : context ∈ users.held) {width height : UInt32}
    (hfits : (bufferSize width height).toNat < 2 ^ 63) (color : ClearColor) :
    Leaves [] users.held
      (context.render host width height color users.log).2 := by
  have hrendered := ensures_render host hmem width height color users.log hsound
  have hreturns := render_returns host context hfits color users.log
  generalize context.render host width height color users.log = ended
    at hrendered hreturns ⊢
  obtain ⟨result, changed⟩ := ended
  cases result with
  | ok pixels => exact hrendered
  | error stop =>
      cases stop with
      | failed error => exact hrendered rfl
      | panicked => exact absurd rfl hreturns

theorem Sound.step (hsound : users.Sound) {use : ContextUse}
    (hfits : use.Fits) : (step host users use).2.Sound := by
  cases use with
  | probe => exact hsound.probe
  | available => exact hsound.available
  | enumerateAdapters context =>
      rw [ContextUsers.step]
      by_cases hmem : context ∈ users.held
      · rw [if_pos hmem]
        exact hsound.enumerateAdapters hmem
      · rw [if_neg hmem]
        exact hsound
  | renderClearToOffscreen context width height color =>
      rw [ContextUsers.step]
      by_cases hmem : context ∈ users.held
      · rw [if_pos hmem]
        exact hsound.render hmem hfits color
      · rw [if_neg hmem]
        exact hsound
  | drop context =>
      rw [ContextUsers.step]
      by_cases hmem : context ∈ users.held
      · rw [if_pos hmem]
        exact hsound.drop hmem
      · rw [if_neg hmem]
        exact hsound

/-! ### Nothing is shared -/

/-- The libraries and instances that the call uses are of this position of the
log or later. -/
def UsesLater (position : Nat) (call : ContextCall) : Prop :=
  ∀ object ∈ call.uses, ∀ number, object.number = some number →
    position ≤ number

/-- The log grew by calls on nothing that was there. -/
def GrownAside (log now : List ContextCall) : Prop :=
  ∃ calls, now = log ++ calls ∧ ∀ call ∈ calls, UsesLater log.length call

section Aside

variable {log now : List ContextCall} {call : ContextCall}

theorem grownAside_self (log : List ContextCall) : GrownAside log log :=
  ⟨[], by simp, by simp⟩

theorem GrownAside.concat (hgrown : GrownAside log now)
    (hlater : UsesLater log.length call) : GrownAside log (now ++ [call]) := by
  obtain ⟨calls, rfl, hall⟩ := hgrown
  refine ⟨calls ++ [call], by simp, ?_⟩
  exact List.forall_mem_append.mpr ⟨hall, by simpa using hlater⟩

theorem GrownAside.length_le (hgrown : GrownAside log now) :
    log.length ≤ now.length := by
  obtain ⟨calls, rfl, -⟩ := hgrown
  simp

theorem aside_loadEntry (outcome : Except String Unit) :
    Method.Ensures some (GrownAside log) (loadEntry outcome)
      (fun entry now => log.length ≤ entry.index ∧ GrownAside log now)
      (GrownAside log) := by
  intro now hgrown
  have hlater : ∀ made, UsesLater log.length (.loadEntry made) := by
    intro made object hused
    cases hused
  cases outcome with
  | ok value => exact ⟨hgrown.length_le, hgrown.concat (hlater _)⟩
  | error message => exact fun _ => hgrown.concat (hlater _)

section Entry

variable {entry : Entry}

theorem usesLater_entry (hentry : log.length ≤ entry.index)
    (huses : call.uses = [.entry entry]) :
    UsesLater log.length call := by
  intro object hused number hnumber
  rw [huses, List.mem_singleton] at hused
  subst hused
  cases hnumber
  exact hentry

theorem aside_orUnload {α : Type} (hentry : log.length ≤ entry.index)
    {made : Session α}
    {post : α → List ContextCall → Prop}
    (hmade : Method.Ensures some (GrownAside log) made post (GrownAside log)) :
    Method.Ensures some (GrownAside log) (orUnload entry made) post
      (GrownAside log) :=
  hmade.onError (Method.Ensures.change fun _ hgrown =>
    hgrown.concat (usesLater_entry hentry rfl))

theorem aside_availableExtensions (hentry : log.length ≤ entry.index)
    (host : VulkanHost)
    (outcome : Except VkResult (List (Option String))) :
    Method.Ensures some (GrownAside log)
      (availableExtensions host entry outcome) (fun _ => GrownAside log)
      (GrownAside log) := by
  intro now hgrown
  cases outcome with
  | ok extensions => exact hgrown.concat (usesLater_entry hentry rfl)
  | error result =>
      exact fun _ => hgrown.concat (usesLater_entry hentry rfl)

theorem aside_createInstance (hentry : log.length ≤ entry.index)
    (host : VulkanHost) (extensions : List String)
    (enumeratePortability : Bool) (outcome : Except VkResult Unit) :
    Method.Ensures some (GrownAside log)
      (createInstance host entry extensions enumeratePortability outcome)
      (fun made now => log.length ≤ made.index ∧ GrownAside log now)
      (GrownAside log) := by
  intro now hgrown
  cases outcome with
  | ok value =>
      exact ⟨hgrown.length_le, hgrown.concat (usesLater_entry hentry rfl)⟩
  | error result =>
      exact fun _ => hgrown.concat (usesLater_entry hentry rfl)

end Entry

/-- A probe uses only the library that it has loaded. -/
theorem aside_probe (host : VulkanHost) :
    Method.Ensures some (GrownAside log) (VulkanContext.probe host)
      (fun context now => (log.length ≤ context.entry.index ∧
        log.length ≤ context.vkInstance.index) ∧ GrownAside log now)
      (GrownAside log) := by
  refine Method.Ensures.read_bind fun outcomes => ?_
  refine (aside_loadEntry outcomes.load).bind fun entry => ?_
  refine .given fun hentry => ?_
  refine (aside_orUnload hentry (aside_availableExtensions hentry host
    outcomes.instanceExtensions)).bind fun extensions => ?_
  refine (aside_orUnload hentry (aside_createInstance hentry host _ _
    outcomes.createInstance)).bind fun made => ?_
  exact .pure fun now hmade => ⟨⟨hentry, hmade.1⟩, hmade.2⟩

end Aside

section Held

variable {contexts : List VulkanContext} {log : List ContextCall}
  {context other : VulkanContext}

/-- What is held was made before. -/
theorem held_lt (hleaves : Leaves [] contexts log)
    (hmem : context ∈ contexts) :
    context.vkInstance.index < log.length ∧
      context.entry.index < log.length := by
  have hcreated : ∀ object ∈ objects contexts, Created log object :=
    fun object hobject => ((hleaves.owns.alive object).mpr hobject).created
  have hown : ∀ object, object = .vkInstance context.vkInstance ∨
      object = .entry context.entry → object ∈ objects contexts := by
    intro object hobject
    refine List.mem_flatMap.mpr ⟨context, hmem, ?_⟩
    rcases hobject with rfl | rfl
    · exact List.mem_cons_self
    · exact List.mem_cons_of_mem _ List.mem_cons_self
  constructor
  · exact hleaves.numbered _ _ (hcreated _ (hown _ (.inl rfl))) rfl
  · exact hleaves.numbered _ _ (hcreated _ (hown _ (.inr rfl))) rfl

theorem not_touches_later (hleaves : Leaves [] contexts log)
    (hmem : context ∈ contexts) {call : ContextCall}
    (hlater : UsesLater log.length call) : ¬ call.Touches context := by
  obtain ⟨hinstance, hentry⟩ := held_lt hleaves hmem
  rintro (hused | hused)
  · exact absurd (hlater _ hused _ rfl) (Nat.not_le.mpr hinstance)
  · exact absurd (hlater _ hused _ rfl) (Nat.not_le.mpr hentry)

/-- Two contexts have neither an instance nor a library in common. -/
theorem held_unique (hleaves : Leaves [] contexts log)
    (hmem : context ∈ contexts) (hother : other ∈ contexts)
    (hsame : other.vkInstance = context.vkInstance ∨
      other.entry = context.entry) : other = context := by
  have hdisjoint := (List.nodup_flatMap.mp hleaves.owns.nodup).2
  have hsymmetric : Std.Symm (Function.onFun List.Disjoint
      fun context : VulkanContext => [ContextObject.vkInstance
        context.vkInstance, .entry context.entry]) :=
    ⟨fun _ _ hapart => hapart.symm⟩
  by_contra hdiffer
  have hapart := hdisjoint.forall hother hmem hdiffer
  rcases hsame with hinstance | hentry
  · exact hapart (a := .vkInstance other.vkInstance) (by simp)
      (by simp [hinstance])
  · exact hapart (a := .entry other.entry) (by simp) (by simp [hentry])

theorem touches_onInstance {owner : VkInstance} {call : VkCall}
    (htouches : (ContextCall.onInstance owner call).Touches other) :
    other.vkInstance = owner := by
  rcases htouches with hused | hused
  · rcases List.mem_cons.mp hused with hsame | hdevice
    · cases hsame
      rfl
    · obtain ⟨object, -, hobject⟩ := List.mem_map.mp hdevice
      cases hobject
  · rcases List.mem_cons.mp hused with hsame | hdevice
    · cases hsame
    · obtain ⟨object, -, hobject⟩ := List.mem_map.mp hdevice
      cases hobject

end Held

/-! ### One use -/

theorem keepsToItself_of_aside (hsound : users.Sound) {use : ContextUse}
    (hgrown : GrownAside users.log (step host users use).2.log) :
    KeepsToItself (Machine.event (step host) users use) := by
  obtain ⟨calls, hcalls, hlater⟩ := hgrown
  refine ⟨calls, hcalls, ?_⟩
  intro call hmem context hheld htouches
  exact absurd htouches (not_touches_later hsound hheld (hlater call hmem))

/-- A use of a context makes calls on that context alone. -/
theorem keepsToItself_of_own (hsound : users.Sound) {use : ContextUse}
    {context : VulkanContext} (huse : use.context = some context)
    (hheld : context ∈ users.held) (calls : List ContextCall)
    (hcalls : (step host users use).2.log = users.log ++ calls)
    (hown : ∀ call ∈ calls, ∀ other : VulkanContext, call.Touches other →
      other.vkInstance = context.vkInstance ∨ other.entry = context.entry) :
    KeepsToItself (Machine.event (step host) users use) := by
  refine ⟨calls, hcalls, ?_⟩
  intro call hmem other hother htouches
  have hsame : other = context :=
    held_unique hsound hheld hother (hown call hmem other htouches)
  rw [hsame]
  exact huse

theorem probe_keepsToItself (hsound : users.Sound) :
    KeepsToItself (Machine.event (step host) users .probe) := by
  refine keepsToItself_of_aside hsound ?_
  have haside := aside_probe host users.log (grownAside_self users.log)
  rw [step]
  generalize VulkanContext.probe host users.log = ended at haside ⊢
  obtain ⟨result, changed⟩ := ended
  cases result with
  | ok context => exact haside.2
  | error error => exact haside rfl

theorem available_keepsToItself (hsound : users.Sound) :
    KeepsToItself (Machine.event (step host) users .available) := by
  refine keepsToItself_of_aside hsound ?_
  have haside := aside_probe host users.log (grownAside_self users.log)
  rw [step, VulkanContext.available]
  generalize VulkanContext.probe host users.log = ended at haside ⊢
  obtain ⟨result, changed⟩ := ended
  cases result with
  | ok context =>
      obtain ⟨⟨hentry, hinstance⟩, hgrown⟩ := haside
      have hdestroyed : UsesLater users.log.length
          (.destroyInstance context.vkInstance) := by
        intro object hused number hnumber
        rw [List.mem_singleton.mp hused] at hnumber
        cases hnumber
        exact hinstance
      have hunloaded : UsesLater users.log.length
          (.unloadEntry context.entry) := usesLater_entry hentry rfl
      have hdropped := (hgrown.concat hdestroyed).concat hunloaded
      rw [List.append_assoc] at hdropped
      exact hdropped
  | error error => exact haside rfl

/-- The call touches no context but those with this instance. -/
def TouchesOnly (owner : VkInstance) (call : ContextCall) : Prop :=
  ∀ other : VulkanContext, call.Touches other → other.vkInstance = owner

theorem writes_enumerateAdapters (host : VulkanHost)
    (context : VulkanContext) :
    Method.Writes (TouchesOnly context.vkInstance)
      (context.enumerateAdapters host) := by
  have hproperties : ∀ gpu, TouchesOnly context.vkInstance
      (.getPhysicalDeviceProperties context.vkInstance gpu) := by
    intro gpu other htouches
    simpa [ContextCall.Touches, ContextCall.uses] using htouches
  have hlist : ∀ outcome, Method.Writes (TouchesOnly context.vkInstance)
      (perform (Except.mapError (VulkanError.ofResult host.text) outcome)
        (.onInstance context.vkInstance (.enumeratePhysicalDevices
          (outcome.map fun _ => ()))) : Session (List PhysicalDevice)) :=
    fun outcome => .one (fun _ => rfl) fun _ other => touches_onInstance
  intro log
  refine ((hlist (host.enumerations log.length).physicalDevices).bind
    fun gpus => ?_) log
  refine .bind (fun now => ⟨_, rfl, ?_⟩) fun _ => .pure _
  intro call hmem
  obtain ⟨gpu, -, rfl⟩ := List.mem_map.mp hmem
  exact hproperties gpu

theorem enumerateAdapters_keepsToItself (hsound : users.Sound)
    {context : VulkanContext} (hheld : context ∈ users.held) :
    KeepsToItself
      (Machine.event (step host) users (.enumerateAdapters context)) := by
  obtain ⟨calls, hcalls, hown⟩ := writes_enumerateAdapters host context users.log
  refine keepsToItself_of_own hsound rfl hheld calls ?_
    fun call hmem other htouches => .inl (hown call hmem other htouches)
  rw [step, if_pos hheld]
  exact hcalls

theorem render_keepsToItself (hsound : users.Sound) {context : VulkanContext}
    (hheld : context ∈ users.held) (width height : UInt32)
    (color : ClearColor) :
    KeepsToItself (Machine.event (step host) users
      (.renderClearToOffscreen context width height color)) := by
  obtain ⟨result, calls, -, hrender, -⟩ :=
    render_run host context width height color users.log
  refine keepsToItself_of_own hsound rfl hheld
    (calls.map (.onInstance context.vkInstance)) ?_ ?_
  · rw [step, if_pos hheld, hrender]
  · intro call hmem other htouches
    obtain ⟨inner, -, rfl⟩ := List.mem_map.mp hmem
    exact .inl (touches_onInstance htouches)

theorem drop_keepsToItself (hsound : users.Sound) {context : VulkanContext}
    (hheld : context ∈ users.held) :
    KeepsToItself (Machine.event (step host) users (.drop context)) := by
  refine keepsToItself_of_own hsound rfl hheld
    [.destroyInstance context.vkInstance, .unloadEntry context.entry] ?_ ?_
  · rw [step, if_pos hheld]
    rfl
  · intro call hmem other htouches
    rcases List.mem_pair.mp hmem with rfl | rfl
    · have hinstance : other.vkInstance = context.vkInstance := by
        simpa [ContextCall.Touches, ContextCall.uses] using htouches
      exact .inl hinstance
    · have hentry : other.entry = context.entry := by
        simpa [ContextCall.Touches, ContextCall.uses] using htouches
      exact .inr hentry

/-- A use of a context that is not held is no use. -/
theorem idle_keepsToItself {use : ContextUse}
    (hidle : (step host users use).2 = users) :
    KeepsToItself (Machine.event (step host) users use) := by
  refine ⟨[], ?_, by simp⟩
  rw [List.append_nil]
  exact congrArg ContextUsers.log hidle

theorem Sound.keepsToItself (hsound : users.Sound) (use : ContextUse) :
    KeepsToItself (Machine.event (ContextUsers.step host) users use) := by
  cases use with
  | probe => exact probe_keepsToItself hsound
  | available => exact available_keepsToItself hsound
  | enumerateAdapters context =>
      by_cases hheld : context ∈ users.held
      · exact enumerateAdapters_keepsToItself hsound hheld
      · exact idle_keepsToItself (by rw [ContextUsers.step, if_neg hheld])
  | renderClearToOffscreen context width height color =>
      by_cases hheld : context ∈ users.held
      · exact render_keepsToItself hsound hheld width height color
      · exact idle_keepsToItself (by rw [ContextUsers.step, if_neg hheld])
  | drop context =>
      by_cases hheld : context ∈ users.held
      · exact drop_keepsToItself hsound hheld
      · exact idle_keepsToItself (by rw [ContextUsers.step, if_neg hheld])

/-! ### Whole runs -/

theorem sound_run (host : VulkanHost) {uses : List ContextUse}
    (hfits : ∀ use ∈ uses, use.Fits) (hsound : users.Sound) :
    (Machine.run (step host) users uses).Sound := by
  induction uses generalizing users with
  | nil => exact hsound
  | cons use rest ih =>
      have hstep : (step host users use).2.Sound :=
        hsound.step (hfits use List.mem_cons_self)
      exact ih (fun other hmem => hfits other (List.mem_cons_of_mem _ hmem))
        hstep

/-- Users of contexts share nothing and leave nothing.  In every run of their
uses, whatever Vulkan answers, the instances and libraries of the contexts that
are held are all that is alive; dropped in any order, they leave a log in which
everything was destroyed once, after its last use and after what was made from
it; and no use makes a call on the instance or the library of a context that it
is not a use of. -/
theorem users_share_nothing (host : VulkanHost) (uses : List ContextUse)
    (hfits : ∀ use ∈ uses, use.Fits) :
    let now := Machine.run (step host) ⟨[], []⟩ uses
    Owns now.log (objects now.held) [] ∧
      (∀ order : List VulkanContext, order.Perm now.held →
        CleanedUp (dropAll order now.log)) ∧
      Machine.Meets (step host) ⟨[], []⟩ uses fun _ e => KeepsToItself e := by
  intro now
  have hstart : Sound ⟨[], []⟩ := leaves_nil
  have hsound : now.Sound := sound_run host hfits hstart
  refine ⟨hsound.owns, fun order horder => cleanedUp_dropAll hsound horder, ?_⟩
  apply Machine.meets_of_prefixes
  rintro first use later rfl
  have hbefore : ∀ other ∈ first, other.Fits := fun other hmem =>
    hfits other (List.mem_append_left _ hmem)
  exact (sound_run host hbefore hstart).keepsToItself use

namespace TwoContexts

/-- A machine whose GPU is lost whenever work is submitted. -/
def losing : VulkanHost where
  probes _ := ⟨.ok (), .ok [], .ok ()⟩
  enumerations _ := ⟨.ok [⟨0⟩], fun _ => ⟨some "adapter", 1, 1, 2, 0, 0⟩⟩
  renders _ := OnePixel.refused
  text _ := "lost"

/-- The first context is dropped after it has lost its device, and the second
goes on. -/
def uses : List ContextUse :=
  [.probe, .probe, .renderClearToOffscreen ⟨⟨0⟩, ⟨2⟩⟩ 1 1
      RealVulkanBackend.clearColor,
    .drop ⟨⟨0⟩, ⟨2⟩⟩, .enumerateAdapters ⟨⟨3⟩, ⟨5⟩⟩, .available]

theorem second_left : (Machine.run (step losing) ⟨[], []⟩ uses).held =
    [⟨⟨3⟩, ⟨5⟩⟩] := by
  decide

theorem second_goes_on :
    (∀ use ∈ uses, use.Fits) ∧
      Owns (Machine.run (step losing) ⟨[], []⟩ uses).log
        (objects [⟨⟨3⟩, ⟨5⟩⟩]) [] := by
  have hfits : ∀ use ∈ uses, use.Fits := by
    have hpixel : (bufferSize 1 1).toNat < 2 ^ 63 := by decide
    simpa [uses, ContextUse.Fits] using hpixel
  have howns := (users_share_nothing losing uses hfits).1
  rw [second_left] at howns
  exact ⟨hfits, howns⟩

end TwoContexts

end ContextUsers

end SherGraphics
