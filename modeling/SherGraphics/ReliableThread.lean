/-
A render thread whose backend does not panic.  Once it has started it serves
every request that is sent until the driver is dropped, and each caller gets
what its own backend call returned.
-/
import SherGraphics.RealVulkanFaults

namespace SherGraphics

namespace Protocol

variable {B : Type}

/-- Every request that ended did so with what its own call returned. -/
def Faithful (made : List (BackendCall × BackendOutcome))
    (ended : List (Request × DriverReply)) : Prop :=
  ∀ (k : Nat) (request : Request) (reply : DriverReply),
    ended[k]? = some (request, reply) → ∃ result,
      made[k]? = some (request.call, .returned result) ∧
        reply = request.reply (request.result (.answered result))

section Lists

variable {made : List (BackendCall × BackendOutcome)}
  {ended : List (Request × DriverReply)}

theorem Faithful.makes (hfaithful : Faithful made ended)
    (more : List (BackendCall × BackendOutcome)) :
    Faithful (made ++ more) ended := by
  intro k request reply hended
  obtain ⟨result, hmade, hreply⟩ := hfaithful k request reply hended
  have hlt := (List.getElem?_eq_some_iff.mp hmade).1
  exact ⟨result, (List.getElem?_append_left hlt).trans hmade, hreply⟩

theorem Faithful.ends (hfaithful : Faithful made ended) {request : Request}
    {result : BackendResult Unit}
    (hlast : made[ended.length]? = some (request.call, .returned result)) :
    Faithful made (ended ++
      [(request, request.reply (request.result (.answered result)))]) := by
  intro k other reply hended
  rcases Nat.lt_trichotomy k ended.length with hlt | heq | hgt
  · rw [List.getElem?_append_left hlt] at hended
    exact hfaithful k other reply hended
  · subst heq
    rw [List.getElem?_concat_length] at hended
    cases hended
    exact ⟨result, hlast, rfl⟩
  · have hlong : (ended ++ [(request,
        request.reply (request.result (.answered result)))]).length ≤ k := by
      rw [List.length_append, List.length_singleton]
      omega
    rw [List.getElem?_eq_none hlong] at hended
    cases hended

end Lists

variable [VulkanBackend B] {s next : Protocol B} {action : Action}
  {answer : Option DriverReply} {begun : List Request}
  {made : List (BackendCall × BackendOutcome)}
  {ended : List (Request × DriverReply)}

/-- A thread that has started lives as long as the driver does. -/
theorem alive_step
    (hreturns : ∀ (call : BackendCall) (backend : B),
      ∃ result, (call.serve backend).1 = .returned result)
    (horderly : Orderly begun made ended s)
    (halive : s.client ≠ .dropped → s.worker.Alive)
    (hstarts : action ≠ .workerFailsToStart)
    (hstep : Step s action answer next) :
    next.client ≠ .dropped → next.worker.Alive := by
  intro hheld
  cases hstep with
  | refused => exact halive hheld
  | sent hidle => exact halive (by simp [hidle])
  | notSent => exact halive hheld
  | received hwaiting => exact halive (by simp [hwaiting])
  | calledTables hidle => exact halive (by simp [hidle])
  | droppedOpen => exact absurd rfl hheld
  | droppedClosed => exact absurd rfl hheld
  | started => trivial
  | failedToStart => exact absurd rfl hstarts
  | taken => trivial
  | served => trivial
  | @panicked backend after command call reply hserving hasks hserved =>
      obtain ⟨result, hreturned⟩ := hreturns call backend
      rw [hserved] at hreturned
      cases hreturned
  | shutDown hserving =>
      rcases horderly.phase_of_serving hserving with
        ⟨request, reply, hcommand, -⟩ | ⟨-, hdropped, -⟩
      · cases request <;> cases hcommand
      · exact absurd hdropped hheld
  | closed hleaving =>
      have hleft := halive hheld
      rw [hleaving] at hleft
      exact hleft.elim

/-- The request that ends is the one whose call was the last. -/
theorem faithful_step (horderly : Orderly begun made ended s)
    (halive : s.client ≠ .dropped → s.worker.Alive)
    (hfaithful : Faithful made ended) (hstep : Step s action answer next) :
    Faithful (made ++ (servedBy ⟨s, action, answer, next⟩).toList)
      (ended ++ (answeredBy ⟨s, action, answer, next⟩).toList) := by
  have hquiet : answeredBy ⟨s, action, answer, next⟩ = none →
      Faithful (made ++ (servedBy ⟨s, action, answer, next⟩).toList)
        (ended ++ (answeredBy ⟨s, action, answer, next⟩).toList) := by
    intro hnone
    rw [hnone, Option.toList_none, List.append_nil]
    exact hfaithful.makes _
  cases hstep with
  | refused hidle hrefused => exact hquiet (if_neg hrefused)
  | notSent hidle hadmitted hclosed =>
      exact absurd (halive (by simp [hidle])).listens hclosed
  | @received request reply channel learnt hwaiting hchannel hlearnt =>
      have hanswered : answeredBy (⟨s, .clientReceives,
          some (request.reply (request.result learnt)), { s with
            client := .idle
            tables := request.settle s.tables learnt }⟩ : ProtocolEvent B) =
          some (request, request.reply (request.result learnt)) := by
        simp only [answeredBy, hwaiting]
      have hserved : servedBy (⟨s, .clientReceives,
          some (request.reply (request.result learnt)), { s with
            client := .idle
            tables := request.settle s.tables learnt }⟩ : ProtocolEvent B) =
          none := rfl
      rw [hanswered, hserved, Option.toList_none, List.append_nil]
      cases horderly.phase with
      | @replied _ _ backend result hclient _ _ hsent _ _ hlast =>
          cases hclient.symm.trans hwaiting
          cases hsent.symm.trans hchannel
          cases hlearnt
          exact hfaithful.ends hlast
      | lost hclient _ _ _ hdead =>
          exact absurd (halive (by simp [hwaiting])) hdead
      | idle hclient => cases hclient.symm.trans hwaiting
      | dropped hclient => cases hclient.symm.trans hwaiting
      | queued hclient _ _ hpending =>
          cases hclient.symm.trans hwaiting
          cases hpending.symm.trans hchannel
          cases hlearnt
      | serving hclient _ _ hpending =>
          cases hclient.symm.trans hwaiting
          cases hpending.symm.trans hchannel
          cases hlearnt
  | _ => exact hquiet rfl

theorem reliable_run
    (hreturns : ∀ (call : BackendCall) (backend : B),
      ∃ result, (call.serve backend).1 = .returned result)
    {tables : VulkanTables} {ids : IdSource} {backend : B}
    {trace : List (ProtocolEvent B)} {last : Protocol B}
    (hrun : Execution Step (start tables ids backend) trace last)
    (hstarts : ∀ e ∈ trace, e.action ≠ .workerFailsToStart) :
    (last.client ≠ .dropped → last.worker.Alive) ∧
      Faithful (served trace) (answered trace) := by
  induction hrun with
  | nil => exact ⟨fun _ => trivial, fun k request reply hended => by cases hended⟩
  | @snoc past now next action answer hpast hstep ih =>
      obtain ⟨halive, hfaithful⟩ := ih fun e hmem =>
        hstarts e (List.mem_append_left _ hmem)
      have horderly := orderly_run hpast
      refine ⟨alive_step hreturns horderly halive ?_ hstep, ?_⟩
      · exact hstarts _ (List.mem_append_right _ List.mem_cons_self)
      · rw [served, answered, List.filterMap_concat, List.filterMap_concat]
        exact faithful_step horderly halive hfaithful hstep

/-- The render thread of the real Vulkan lets no request down.  In every
interleaving in which it starts, it is alive until the driver is dropped, and
the k-th request that ended did so with what the k-th call of the backend
returned: none ends because the thread was gone. -/
theorem real_requests_served {tables : VulkanTables} {ids : IdSource}
    {backend : RealVulkanBackend}
    {trace : List (ProtocolEvent RealVulkanBackend)}
    {last : Protocol RealVulkanBackend}
    (hrun : Execution Step (start tables ids backend) trace last)
    (hstarts : ∀ e ∈ trace, e.action ≠ .workerFailsToStart) :
    (last.client ≠ .dropped → last.worker.Alive) ∧
      Faithful (served trace) (answered trace) :=
  reliable_run RealVulkanBackend.serve_returns hrun hstarts

namespace LostRender

def backend : RealVulkanBackend :=
  ⟨VulkanDriver.LostGpu.host, ⟨⟨0⟩, ⟨2⟩⟩, []⟩

def fresh : Protocol RealVulkanBackend :=
  start (.new [⟨"adapter", 1, 1⟩] 1024 .sequential)
    (IdSource.sequential.advance 1) backend

def draw : Request := .submit ⟨0⟩ .graphics [.draw 3 1]

/-- The lost device is what the caller hears of, and the thread lives on. -/
theorem lost_render_heard : ∃ trace last,
    Execution Step fresh trace last ∧
      answered trace = [(draw, draw.reply
        (.error (.device "Vulkan device lost: lost")))] ∧
      last.worker.Alive ∧ Faithful (served trace) (answered trace) := by
  have hserved : (BackendCall.execute [.draw 3 1]).serve backend =
      (.returned (.error (.deviceLost "lost")),
        (RealVulkanBackend.execute [] backend).2) := by
    have houtcome : (RealVulkanBackend.execute [] backend).1 =
        .returned (.error (.deviceLost "lost")) := by decide
    exact Prod.ext houtcome rfl
  have hsent : Step fresh (.clientCalls draw) none _ :=
    .sent rfl (by decide) trivial
  have hrun : Execution Step fresh _ _ := .snoc .nil hsent
  replace hrun := hrun.snoc (.started rfl)
  replace hrun := hrun.snoc (.taken rfl rfl)
  replace hrun := hrun.snoc (.served rfl rfl hserved)
  replace hrun := hrun.snoc (.received rfl rfl rfl)
  obtain ⟨halive, hfaithful⟩ := real_requests_served hrun (by
    intro e hmem
    simp only [List.nil_append, List.cons_append, List.mem_cons,
      List.not_mem_nil, or_false] at hmem
    rcases hmem with rfl | rfl | rfl | rfl | rfl <;> exact nofun)
  exact ⟨_, _, hrun, rfl, halive nofun, hfaithful⟩

end LostRender

end Protocol

end SherGraphics
