/-
Whole lives of a driver over the real Vulkan backend, from its opening through
every interleaving with its render thread.  The backend owns one library and one
instance at a time until the thread drops it, and it does not panic, so the
thread outlives every request.
-/
import SherGraphics.RealVulkanBackend
import SherGraphics.RenderProgress

namespace SherGraphics

open Lifetimes VulkanContext

/-! ### The backend behind the thread -/

namespace Worker

variable {B : Type}

/-- What is known of the backend while the thread has it, and once it was
dropped. -/
def Holds (kept gone : B → Prop) : Worker B → Prop
  | starting backend => kept backend
  | receiving backend => kept backend
  | serving backend _ => kept backend
  | leaving backend => kept backend
  | ended backend => gone backend

variable {kept gone : B → Prop} {worker : Worker B}

theorem Holds.of_left (hholds : worker.Holds kept gone) (hleft : ¬ worker.Ended) :
    kept worker.backend := by
  cases worker with
  | ended backend => exact absurd trivial hleft
  | _ => exact hholds

theorem Holds.of_ended (hholds : worker.Holds kept gone) (hended : worker.Ended) :
    gone worker.backend := by
  cases worker with
  | ended backend => exact hholds
  | _ => exact hended.elim

end Worker

namespace Protocol

section Backend

variable {B : Type} [VulkanBackend B] {kept gone : B → Prop}
  (hkept : ∀ (call : BackendCall) backend, kept backend →
    kept (call.serve backend).2)
  (hgone : ∀ backend, kept backend → gone (VulkanBackend.drop backend))

include hkept hgone

/-- The backend changes by the calls that the thread makes of it, and last by
its drop. -/
theorem holds_step {s next : Protocol B} {action : Action}
    {answer : Option DriverReply} (hholds : s.worker.Holds kept gone)
    (hstep : Step s action answer next) : next.worker.Holds kept gone := by
  cases hstep with
  | started hstarting =>
      rw [hstarting] at hholds
      exact hholds
  | failedToStart hstarting =>
      rw [hstarting] at hholds
      exact hholds
  | taken hreceiving =>
      rw [hreceiving] at hholds
      exact hholds
  | @served backend after command call reply result hserving hasks hserved =>
      rw [hserving] at hholds
      have hcalled := hkept call backend hholds
      rwa [hserved] at hcalled
  | @panicked backend after command call reply hserving hasks hserved =>
      rw [hserving] at hholds
      have hcalled := hkept call backend hholds
      rwa [hserved] at hcalled
  | shutDown hserving =>
      rw [hserving] at hholds
      exact hholds
  | closed hleaving =>
      rw [hleaving] at hholds
      exact hgone _ hholds
  | _ => exact hholds

theorem holds_run {tables : VulkanTables} {ids : IdSource} {backend : B}
    (hstart : kept backend) {trace : List (ProtocolEvent B)}
    {last : Protocol B}
    (hrun : Execution Step (start tables ids backend) trace last) :
    last.worker.Holds kept gone := by
  refine Execution.invariant
    (fun _ (now : Protocol B) => now.worker.Holds kept gone) ?_ ?_ hrun
  · exact hstart
  · intro past now action answer next hnow hstep
    exact holds_step hkept hgone hnow hstep

end Backend

end Protocol

namespace RealVulkanBackend

theorem Sound.serve {backend : RealVulkanBackend} (hsound : backend.Sound)
    (call : BackendCall) : (call.serve backend).2.Sound := by
  cases call with
  | execute ops => exact hsound.execute ops
  | reset => exact hsound.reset

/-- What is alive is the instance and the library of the context. -/
theorem Sound.owns {backend : RealVulkanBackend} (hsound : backend.Sound) :
    Owns backend.log [.vkInstance backend.context.vkInstance,
      .entry backend.context.entry] [] :=
  Leaves.owns hsound

/-- No call of the backend panics. -/
theorem serve_returns (call : BackendCall) (backend : RealVulkanBackend) :
    ∃ result, (call.serve backend).1 = .returned result := by
  cases call with
  | execute ops =>
      obtain ⟨result, calls, hrun, -⟩ := execute_run backend ops
      exact ⟨result, congrArg Prod.fst hrun⟩
  | reset =>
      change ∃ result, backend.reset.1 = .returned result
      rw [reset]
      generalize probe backend.host backend.log = ended
      obtain ⟨result, changed⟩ := ended
      cases result with
      | ok context => exact ⟨_, rfl⟩
      | error error => exact ⟨_, rfl⟩

end RealVulkanBackend

/-! ### Opening the driver -/

namespace VulkanDriver

/-- The ways in which `with_backend` ends. -/
theorem withBackend_cases {B : Type} [VulkanBackend B] (backend : B)
    (vramBytes : Nat) (spawned : Except String Unit) (ids : IdSource) :
    (∃ error, (VulkanBackend.enumerateAdapters backend).1 = .error error ∧
        (withBackend backend vramBytes spawned ids).1 =
          .error (backendErrorToSher error)) ∨
      (VulkanBackend.enumerateAdapters backend).1 = .ok [] ∧
        (withBackend backend vramBytes spawned ids).1 =
          .error (.device "Vulkan backend reported no physical devices") ∨
      ∃ adapters, (VulkanBackend.enumerateAdapters backend).1 = .ok adapters ∧
        adapters ≠ [] ∧
        (withBackend backend vramBytes spawned ids).1 =
          match spawned with
          | .error reason => .error (.device
              ("failed to spawn Vulkan render thread: " ++ reason))
          | .ok () => .ok (start adapters vramBytes ids
              (VulkanBackend.enumerateAdapters backend).2) := by
  rw [withBackend]
  generalize VulkanBackend.enumerateAdapters backend = ended
  obtain ⟨result, after⟩ := ended
  rcases result with error | adapters
  · exact Or.inl ⟨error, rfl, rfl⟩
  · cases adapters with
    | nil => exact Or.inr (Or.inl ⟨rfl, rfl⟩)
    | cons adapter rest =>
        refine Or.inr (Or.inr ⟨adapter :: rest, rfl, by simp, ?_⟩)
        cases spawned with
        | error reason => rfl
        | ok value => rfl

/-- A driver is opened over the backend as the enumeration left it. -/
theorem withBackend_backend {B : Type} [VulkanBackend B] {backend : B}
    {vramBytes : Nat} {spawned : Except String Unit} {ids : IdSource}
    {driver : VulkanDriver B}
    (hopened : (withBackend backend vramBytes spawned ids).1 = .ok driver) :
    driver.worker.backend = (VulkanBackend.enumerateAdapters backend).2 := by
  rcases withBackend_cases backend vramBytes spawned ids with
    ⟨error, -, hfailed⟩ | ⟨-, hnone⟩ | ⟨adapters, -, -, hspawned⟩
  · cases hfailed.symm.trans hopened
  · cases hnone.symm.trans hopened
  · rw [hspawned] at hopened
    cases spawned with
    | error reason => cases hopened
    | ok value =>
        cases hopened
        rfl

/-- A new driver has a backend that owns its context; what came to no driver
has cleaned up. -/
theorem new_sound (host : VulkanHost) (vramBytes : Nat)
    (spawned : Except String Unit) (ids : IdSource) :
    match new host vramBytes spawned ids [] with
    | (.ok driver, _, _) => driver.worker.backend.Sound
    | (.error _, _, log) => CleanedUp log := by
  have hopened := RealVulkanBackend.openContext_sound host leaves_nil
  rw [new]
  generalize RealVulkanBackend.openContext host [] = ended at hopened ⊢
  obtain ⟨result, changed⟩ := ended
  cases result with
  | error error => exact hopened.owns.cleanedUp
  | ok backend =>
      have hsound := hopened.1.enumerateAdapters
      dsimp only
      cases hwith : withBackend backend vramBytes spawned ids with
      | mk result later =>
          cases result with
          | error error => exact hsound.drop
          | ok driver =>
              have hbackend := withBackend_backend (congrArg Prod.fst hwith)
              dsimp only
              rw [hbackend]
              exact hsound

/-- Nothing that a driver of the real Vulkan takes is left behind.  For every
machine and whatever its Vulkan answers to each call: an opening that fails has
unloaded the library and destroyed the instance it got to, each once and in that
order; a driver that was opened owns one library and one instance in every state
of every interleaving in which its render thread has not ended, through every
submission, every device that is lost and every reset that succeeds or fails;
once the thread has ended, all that was ever created was destroyed once, after
its last use and after what was created from it; and from every state in which
the driver has been dropped, every continuation has come to that, or is of fewer
than five steps and not at its end. -/
theorem opened_leaves_nothing (host : VulkanHost) (vramBytes : Nat)
    (spawned : Except String Unit) (ids : IdSource) :
    match new host vramBytes spawned ids [] with
    | (.error _, _, log) => CleanedUp log
    | (.ok driver, later, _) => ∀ trace last,
        Execution Protocol.Step
            (Protocol.start driver.tables later driver.worker.backend)
            trace last →
          (¬ last.worker.Ended → Owns last.worker.backend.log
              [.vkInstance last.worker.backend.context.vkInstance,
                .entry last.worker.backend.context.entry] []) ∧
            (last.worker.Ended → CleanedUp last.worker.backend.log) ∧
            (last.client = .dropped → ∀ more final,
              Execution Protocol.Step last more final →
                CleanedUp final.worker.backend.log ∨ more.length < 5 ∧
                  ∃ action answer next,
                    Protocol.Step final action answer next) := by
  have hnew := new_sound host vramBytes spawned ids
  rcases hopened : new host vramBytes spawned ids [] with
    ⟨result, later, log⟩
  rw [hopened] at hnew
  cases result with
  | error error => exact hnew
  | ok driver =>
      have hstart : driver.worker.backend.Sound := hnew
      have hholds : ∀ {trace last}, Execution Protocol.Step
          (Protocol.start driver.tables later driver.worker.backend)
          trace last →
            last.worker.Holds RealVulkanBackend.Sound
              (fun backend => CleanedUp backend.log) :=
        Protocol.holds_run (fun call _ hsound => hsound.serve call)
          (fun _ hsound => hsound.drop) hstart
      intro trace last hrun
      refine ⟨fun hleft => ((hholds hrun).of_left hleft).owns, (hholds hrun).of_ended,
        ?_⟩
      intro hdropped more final hmore
      have habandoned : Protocol.Abandoned last :=
        ⟨Protocol.lively_run hrun, hdropped⟩
      exact (habandoned.ends hmore).imp_left (hholds (hrun.append hmore)).of_ended

end VulkanDriver

end SherGraphics
