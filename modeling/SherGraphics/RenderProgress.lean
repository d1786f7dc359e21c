/-
Every call of the driver returns, and so does dropping it.  While a caller
waits only the render thread can move, and each of its steps brings the reply
nearer; a dropped driver leaves the thread nothing but its last command.
-/
import SherGraphics.Inevitable
import SherGraphics.RenderOrder

namespace SherGraphics

namespace Worker

variable {B : Type}

/-- The thread will take another command. -/
def Awaits : Worker B → Prop
  | starting _ => True
  | receiving _ => True
  | _ => False

def Ended : Worker B → Prop
  | ended _ => True
  | _ => False

end Worker

namespace Protocol

variable {B : Type}

/-- How many steps the thread can still take for the commands it has. -/
def stepsLeft (s : Protocol B) : Nat :=
  match s.worker, s.queue with
  | .starting _, _ => 4
  | .receiving _, [] => 0
  | .receiving _, _ :: _ => 3
  | .serving _ _, _ => 2
  | .leaving _, _ => 1
  | .ended _, _ => 0

/-- Commands are queued for a thread that listens, and a thread that awaits a
command behind a dropped driver has one. -/
structure Heard (s : Protocol B) : Prop where
  listened : s.queue ≠ [] → s.worker.Listens
  told : s.client = .dropped → s.worker.Awaits → s.queue ≠ []

theorem Heard.start (tables : VulkanTables) (ids : IdSource) (backend : B) :
    Heard (start tables ids backend) where
  listened := by simp [Protocol.start]
  told := nofun

variable [VulkanBackend B] {s next : Protocol B} {action : Action}
  {answer : Option DriverReply} {begun : List Request}
  {made : List (BackendCall × BackendOutcome)}
  {ended : List (Request × DriverReply)}

theorem Heard.after_step (hheard : Heard s)
    (horderly : Orderly begun made ended s)
    (hstep : Step s action answer next) : Heard next := by
  cases hstep with
  | refused => exact hheard
  | sent hidle hadmitted hopen => exact ⟨fun _ => hopen, nofun⟩
  | notSent => exact hheard
  | received hwaiting hchannel hlearnt => exact ⟨hheard.listened, nofun⟩
  | calledTables hidle hcall => exact ⟨hheard.listened, hheard.told⟩
  | droppedOpen hidle hopen =>
      exact ⟨fun _ => hopen, fun _ _ => by simp⟩
  | droppedClosed hidle hclosed =>
      refine ⟨hheard.listened, fun _ hawaits => ?_⟩
      cases hworker : s.worker with
      | ended backend =>
          rw [hworker] at hawaits
          exact hawaits.elim
      | _ =>
          rw [hworker] at hclosed
          exact absurd trivial hclosed
  | started hstarting =>
      refine ⟨fun _ => trivial, fun hdropped _ => ?_⟩
      apply hheard.told hdropped
      rw [hstarting]
      trivial
  | failedToStart => exact ⟨fun _ => trivial, fun _ hawaits => hawaits.elim⟩
  | taken => exact ⟨fun _ => trivial, fun _ hawaits => hawaits.elim⟩
  | served hserving hasks hserved =>
      refine ⟨fun _ => trivial, fun hdropped _ => ?_⟩
      rcases horderly.phase_of_serving hserving with
        ⟨request, reply, -, hwaiting, -⟩ | ⟨hshutdown, -⟩
      · cases hdropped.symm.trans hwaiting
      · rw [hshutdown] at hasks
        cases hasks
  | panicked => exact ⟨fun _ => trivial, fun _ hawaits => hawaits.elim⟩
  | shutDown => exact ⟨fun _ => trivial, fun _ hawaits => hawaits.elim⟩
  | closed => exact ⟨fun hqueued => absurd rfl hqueued, nofun⟩

/-! ### The thread is never stuck -/

/-- A thread that listens can go on, unless it awaits a command and there is
none. -/
theorem thread_able (hlistens : s.worker.Listens)
    (hqueue : s.worker.Awaits → s.queue ≠ []) :
    ∃ action answer next, Step s action answer next := by
  cases hworker : s.worker with
  | starting backend => exact ⟨_, _, _, .started hworker⟩
  | receiving backend =>
      rw [hworker] at hqueue
      obtain ⟨command, rest, hcommands⟩ :=
        List.exists_cons_of_ne_nil (hqueue trivial)
      exact ⟨_, _, _, .taken hworker hcommands⟩
  | serving backend command =>
      cases hasks : command.asks with
      | none =>
          cases command with
          | shutdown => exact ⟨_, _, _, .shutDown hworker⟩
          | submit ops reply => cases hasks
          | reset reply => cases hasks
      | some asked =>
          cases hserved : asked.1.serve backend with
          | mk outcome after =>
              cases outcome with
              | returned result =>
                  exact ⟨_, _, _, .served hworker hasks hserved⟩
              | panicked => exact ⟨_, _, _, .panicked hworker hasks hserved⟩
  | leaving backend => exact ⟨_, _, _, .closed hworker⟩
  | ended backend =>
      rw [hworker] at hlistens
      exact hlistens.elim

theorem Heard.able_of_waiting (hheard : Heard s)
    (horderly : Orderly begun made ended s) {request : Request} {reply : Nat}
    (hwaiting : s.client = .waiting request reply) :
    ∃ action answer next, Step s action answer next := by
  cases horderly.phase with
  | idle hidle => cases hidle.symm.trans hwaiting
  | queued _ _ hqueue =>
      have hqueued : s.queue ≠ [] := by simp [hqueue]
      exact thread_able (hheard.listened hqueued) fun _ => hqueued
  | serving _ _ _ _ hserving =>
      refine thread_able ?_ ?_
      · rw [hserving]
        trivial
      · intro hawaits
        rw [hserving] at hawaits
        exact hawaits.elim
  | replied hclient _ _ hsent => exact ⟨_, _, _, .received hclient hsent rfl⟩
  | lost hclient _ _ hlost => exact ⟨_, _, _, .received hclient hlost rfl⟩
  | dropped hdropped => cases hdropped.symm.trans hwaiting

theorem Heard.able_of_dropped (hheard : Heard s)
    (hdropped : s.client = .dropped) (hleft : ¬ s.worker.Ended) :
    ∃ action answer next, Step s action answer next := by
  refine thread_able ?_ (hheard.told hdropped)
  cases hworker : s.worker with
  | ended backend =>
      rw [hworker] at hleft
      exact absurd trivial hleft
  | _ => trivial

/-! ### Each of its steps brings it nearer to the end -/

omit [VulkanBackend B] in
theorem stepsLeft_le_of_receiving {backend : B}
    (hreceiving : s.worker = .receiving backend) : s.stepsLeft ≤ 3 := by
  rw [stepsLeft, hreceiving]
  cases s.queue <;> simp

/-- While the driver is not idle, only the thread moves, and it has fewer steps
left each time. -/
theorem Orderly.lowers (horderly : Orderly begun made ended s)
    (hstep : Step s action answer next) (hbusy : s.client ≠ .idle)
    (hlearns : action ≠ .clientReceives) :
    next.client = s.client ∧ next.stepsLeft < s.stepsLeft := by
  cases hstep with
  | received => exact absurd rfl hlearns
  | started hstarting =>
      refine ⟨rfl, Nat.lt_of_le_of_lt (stepsLeft_le_of_receiving rfl) ?_⟩
      simp [stepsLeft, hstarting]
  | failedToStart hstarting => simp [stepsLeft, hstarting]
  | taken hreceiving hqueue => simp [stepsLeft, hreceiving, hqueue]
  | served hserving hasks hserved =>
      rcases horderly.phase_of_serving hserving with
        ⟨request, reply, -, -, -, hempty, -⟩ | ⟨hshutdown, -⟩
      · simp [stepsLeft, hserving, hempty]
      · rw [hshutdown] at hasks
        cases hasks
  | panicked hserving => simp [stepsLeft, hserving]
  | shutDown hserving => simp [stepsLeft, hserving]
  | closed hleaving => simp [stepsLeft, hleaving]
  | refused hidle => exact absurd hidle hbusy
  | sent hidle => exact absurd hidle hbusy
  | notSent hidle => exact absurd hidle hbusy
  | calledTables hidle => exact absurd hidle hbusy
  | droppedOpen hidle => exact absurd hidle hbusy
  | droppedClosed hidle => exact absurd hidle hbusy

omit [VulkanBackend B] in
theorem stepsLeft_of_ended (hended : s.worker.Ended) : s.stepsLeft = 0 := by
  cases hworker : s.worker with
  | ended backend => simp [stepsLeft, hworker]
  | _ =>
      rw [hworker] at hended
      exact hended.elim

omit [VulkanBackend B] in
theorem stepsLeft_le (s : Protocol B) : s.stepsLeft ≤ 4 := by
  rw [stepsLeft]
  split <;> omega

/-! ### Whole runs -/

/-- What holds in every state that the two sides reach. -/
structure Lively (s : Protocol B) : Prop where
  heard : Heard s
  orderly : ∃ begun made ended, Orderly begun made ended s

theorem Lively.after_step (hlively : Lively s)
    (hstep : Step s action answer next) : Lively next := by
  obtain ⟨begun, made, ended, horderly⟩ := hlively.orderly
  exact ⟨hlively.heard.after_step horderly hstep, _, _, _,
    horderly.after_step hstep⟩

theorem Lively.lowers (hlively : Lively s)
    (hstep : Step s action answer next) (hbusy : s.client ≠ .idle)
    (hlearns : action ≠ .clientReceives) :
    next.client = s.client ∧ next.stepsLeft < s.stepsLeft := by
  obtain ⟨begun, made, ended, horderly⟩ := hlively.orderly
  exact horderly.lowers hstep hbusy hlearns

theorem lively_run {tables : VulkanTables} {ids : IdSource} {backend : B}
    {trace : List (ProtocolEvent B)} {last : Protocol B}
    (hrun : Execution Step (start tables ids backend) trace last) :
    Lively last := by
  have horderly := orderly_run hrun
  refine ⟨?_, _, _, _, horderly⟩
  refine (Execution.invariant (fun _ now => Lively now) ?_ ?_ hrun).heard
  · exact ⟨Heard.start tables ids backend, _, _, _, orderly_run .nil⟩
  · intro past now action answer next hnow hstep
    exact hnow.after_step hstep

/-- What a waiting driver receives is the reply to its request. -/
theorem answeredBy_of_receives {request : Request} {reply : Nat}
    (hwaiting : s.client = .waiting request reply)
    (hstep : Step s .clientReceives answer next) :
    ∃ reply, answeredBy ⟨s, .clientReceives, answer, next⟩ =
      some (request, reply) := by
  cases hstep with
  | @received request reply channel learnt hclient hchannel hlearnt =>
      cases hwaiting.symm.trans hclient
      refine ⟨request.reply (request.result learnt), ?_⟩
      simp only [answeredBy, hwaiting]

theorem Lively.reply_inevitable (hlively : Lively s) {request : Request}
    {reply : Nat} (hwaiting : s.client = .waiting request reply) :
    Inevitable Step (fun e : ProtocolEvent B =>
      ∃ reply, answeredBy e = some (request, reply)) 5 s := by
  refine .of_rank (fun now => Lively now ∧ now.client = .waiting request reply)
    stepsLeft ?_ ?_ ⟨hlively, hwaiting⟩ (by have := stepsLeft_le s; omega)
  · rintro now ⟨hnow, hwaits⟩
    obtain ⟨begun, made, ended, horderly⟩ := hnow.orderly
    exact hnow.heard.able_of_waiting horderly hwaits
  · rintro now action answer after ⟨hnow, hwaits⟩ hstep hunanswered
    have hbusy : now.client ≠ .idle := by simp [hwaits]
    obtain ⟨hclient, hlt⟩ := hnow.lowers hstep hbusy fun hreceives => by
      subst hreceives
      exact hunanswered (answeredBy_of_receives hwaits hstep)
    exact ⟨⟨hnow.after_step hstep, hclient.trans hwaits⟩, hlt⟩

/-- Every call of the driver returns.  From every state of every run in which a
caller waits, every continuation has brought the reply to its request, or is of
fewer than five steps and not at its end. -/
theorem calls_return {tables : VulkanTables} {ids : IdSource} {backend : B}
    {trace more : List (ProtocolEvent B)} {last final : Protocol B}
    {request : Request} {reply : Nat}
    (hrun : Execution Step (start tables ids backend) trace last)
    (hwaiting : last.client = .waiting request reply)
    (hmore : Execution Step last more final) :
    (∃ e ∈ more, ∃ reply, answeredBy e = some (request, reply)) ∨
      more.length < 5 ∧ ∃ action answer next, Step final action answer next :=
  ((lively_run hrun).reply_inevitable hwaiting).met_or_goes_on hmore

namespace PanickedDraw

def backend : ScriptedBackend := ⟨[⟨"adapter", 1, 1⟩], [.panicked]⟩

def fresh : Protocol ScriptedBackend :=
  start (.new backend.adapters 1024 .sequential)
    (IdSource.sequential.advance 1) backend

def draw : Request := .submit ⟨0⟩ .graphics [.draw 3 1]

def waiting : Protocol ScriptedBackend :=
  { fresh with
    client := .waiting draw 0
    queue := [draw.command 0]
    replies := [.pending] }

/-- The backend panics at the draw, and the thread closes its channel before
the driver looks for the reply: five steps, after which it has returned. -/
theorem panicked_draw_returns : ∃ more final,
    Step fresh (.clientCalls draw) none waiting ∧
      Execution Step waiting more final ∧ more.length = 5 ∧
        ∃ e ∈ more, ∃ reply, answeredBy e = some (draw, reply) := by
  have hsent : Step fresh (.clientCalls draw) none waiting :=
    .sent rfl (by decide) trivial
  have hmore : Execution Step waiting _ _ := .snoc .nil (.started rfl)
  replace hmore := hmore.snoc (.taken rfl rfl)
  replace hmore := hmore.snoc (.panicked rfl rfl rfl)
  replace hmore := hmore.snoc (.closed rfl)
  replace hmore := hmore.snoc (.received rfl rfl rfl)
  refine ⟨_, _, hsent, hmore, rfl, ?_⟩
  have hrun : Execution Step fresh _ _ := .snoc .nil hsent
  rcases calls_return hrun rfl hmore with hreturned | ⟨hshort, -⟩
  · exact hreturned
  · exact absurd hshort (by decide)

end PanickedDraw

/-! ### Dropping the driver -/

/-- What a dropped driver leaves behind. -/
structure Abandoned (s : Protocol B) : Prop where
  lively : Lively s
  dropped : s.client = .dropped

/-- After the driver is gone only the thread moves, and it calls nothing. -/
theorem Abandoned.after_step (habandoned : Abandoned s)
    (hstep : Step s action answer next) :
    Abandoned next ∧ next.stepsLeft < s.stepsLeft ∧
      servedBy ⟨s, action, answer, next⟩ = none ∧ ¬ s.worker.Ended := by
  obtain ⟨hlively, hdropped⟩ := habandoned
  have hbusy : s.client ≠ .idle := by simp [hdropped]
  have hlearns : action ≠ .clientReceives := by
    rintro rfl
    cases hstep with
    | received hwaiting => cases hdropped.symm.trans hwaiting
  obtain ⟨hclient, hlt⟩ := hlively.lowers hstep hbusy hlearns
  have hquiet : servedBy ⟨s, action, answer, next⟩ = none := by
    obtain ⟨begun, made, ended, horderly⟩ := hlively.orderly
    have hshutdown : ∀ backend command, s.worker = .serving backend command →
        command.asks = none := by
      intro backend command hserving
      rcases horderly.phase_of_serving hserving with
        ⟨request, reply, -, hwaiting, -⟩ | ⟨hcommand, -⟩
      · cases hdropped.symm.trans hwaiting
      · rw [hcommand]
        rfl
    cases hstep with
    | served hserving hasks =>
        cases (hshutdown _ _ hserving).symm.trans hasks
    | panicked hserving hasks =>
        cases (hshutdown _ _ hserving).symm.trans hasks
    | _ => rfl
  refine ⟨⟨hlively.after_step hstep, hclient.trans hdropped⟩, hlt, hquiet, ?_⟩
  intro hended
  rw [stepsLeft_of_ended hended] at hlt
  exact Nat.not_lt_zero _ hlt

/-- A dropped driver that waits for its thread to end does not wait in vain. -/
theorem Abandoned.end_inevitable (habandoned : Abandoned s)
    (hleft : ¬ s.worker.Ended) :
    Inevitable Step (fun e : ProtocolEvent B => e.after.worker.Ended) 5 s := by
  refine .of_rank (fun now => Abandoned now ∧ ¬ now.worker.Ended) stepsLeft
    ?_ ?_ ⟨habandoned, hleft⟩ (by have := stepsLeft_le s; omega)
  · rintro now ⟨hnow, hrunning⟩
    exact hnow.lively.heard.able_of_dropped hnow.dropped hrunning
  · rintro now action answer after ⟨hnow, hrunning⟩ hstep hnot
    obtain ⟨hafter, hlt, -⟩ := hnow.after_step hstep
    exact ⟨⟨hafter, hnot⟩, hlt⟩

/-- Nothing is left to do once the thread behind a dropped driver has ended. -/
theorem Abandoned.last_step (habandoned : Abandoned s)
    {more : List (ProtocolEvent B)} {final : Protocol B}
    (hmore : Execution Step s more final) :
    Abandoned final ∧ served more = [] ∧
      (s.worker.Ended ∨ (∃ e ∈ more, e.after.worker.Ended) →
        final.worker.Ended) := by
  refine Execution.invariant (fun past now => Abandoned now ∧
    served past = [] ∧
      (s.worker.Ended ∨ (∃ e ∈ past, e.after.worker.Ended) →
        now.worker.Ended)) ?_ ?_ hmore
  · exact ⟨habandoned, rfl, fun hended => hended.resolve_right (by simp)⟩
  · rintro past now action answer after ⟨hnow, hserved, hlast⟩ hstep
    obtain ⟨hafter, -, hquiet, hrunning⟩ := hnow.after_step hstep
    refine ⟨hafter, ?_, ?_⟩
    · rw [served, List.filterMap_concat, hquiet, ← served, hserved]
      rfl
    · rintro (hended | ⟨e, hmem, hended⟩)
      · exact absurd (hlast (Or.inl hended)) hrunning
      · rcases List.mem_append.mp hmem with hold | hnew
        · exact absurd (hlast (Or.inr ⟨e, hold, hended⟩)) hrunning
        · rw [List.mem_singleton.mp hnew] at hended
          exact hended

/-- The thread ends, or still has a few steps to take. -/
theorem Abandoned.ends (habandoned : Abandoned s)
    {more : List (ProtocolEvent B)} {final : Protocol B}
    (hmore : Execution Step s more final) :
    final.worker.Ended ∨ more.length < 5 ∧
      ∃ action answer next, Step final action answer next := by
  obtain ⟨-, -, hlast⟩ := habandoned.last_step hmore
  by_cases hended : s.worker.Ended
  · exact Or.inl (hlast (Or.inl hended))
  · rcases (habandoned.end_inevitable hended).met_or_goes_on hmore with
      hends | hgoes
    · exact Or.inl (hlast (Or.inr hends))
    · exact Or.inr hgoes

/-- Dropping the driver ends the thread.  From every state of every run in
which the driver has been dropped, no continuation calls the backend again, and
each has ended the thread or is of fewer than five steps and not at its end. -/
theorem drop_ends_thread {tables : VulkanTables} {ids : IdSource} {backend : B}
    {trace more : List (ProtocolEvent B)} {last final : Protocol B}
    (hrun : Execution Step (start tables ids backend) trace last)
    (hdropped : last.client = .dropped)
    (hmore : Execution Step last more final) :
    served more = [] ∧ (final.worker.Ended ∨ more.length < 5 ∧
      ∃ action answer next, Step final action answer next) := by
  have habandoned : Abandoned last := ⟨lively_run hrun, hdropped⟩
  obtain ⟨-, hserved, -⟩ := habandoned.last_step hmore
  exact ⟨hserved, habandoned.ends hmore⟩

namespace DroppedAtOnce

def dropped : Protocol ScriptedBackend :=
  { PanickedDraw.fresh with client := .dropped, queue := [.shutdown] }

/-- A driver that is dropped before its thread has started. -/
theorem dropped_at_once : ∃ more final,
    Step PanickedDraw.fresh .clientDrops none dropped ∧
      Execution Step dropped more final ∧ more.length = 4 ∧ served more = [] ∧
        (final.worker.Ended ∨ more.length < 5 ∧
          ∃ action answer next, Step final action answer next) := by
  have hdrops : Step PanickedDraw.fresh .clientDrops none dropped :=
    .droppedOpen rfl trivial
  have hmore : Execution Step dropped _ _ := .snoc .nil (.started rfl)
  replace hmore := hmore.snoc (.taken rfl rfl)
  replace hmore := hmore.snoc (.shutDown rfl)
  replace hmore := hmore.snoc (.closed rfl)
  have hrun : Execution Step PanickedDraw.fresh _ _ := .snoc .nil hdrops
  exact ⟨_, _, hdrops, hmore, rfl, drop_ends_thread hrun rfl hmore⟩

end DroppedAtOnce

end Protocol

end SherGraphics
