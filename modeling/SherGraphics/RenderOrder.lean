/-
No request of the driver is lost, duplicated, reordered or crossed.  The driver
waits for each of its requests, so at any time one is on its way at most;
`Phase` says where it is, and what the backend has seen by then.
-/
import SherGraphics.RenderProtocol

namespace SherGraphics

namespace Protocol

variable {B : Type}

abbrev ProtocolEvent (B : Type) :=
  Event (Protocol B) Action (Option DriverReply)

/-! ### What an observer reads off a trace -/

/-- The submit on a known device without a fault, or the reset of a known
device, that begins with this event. -/
def admittedBy (e : ProtocolEvent B) : Option Request :=
  match e.action with
  | .clientCalls request =>
      if request.Admitted e.before.tables then some request else none
  | _ => none

/-- The backend call that this event makes, and how it ends. -/
def servedBy (e : ProtocolEvent B) : Option (BackendCall × BackendOutcome) :=
  match e.action with
  | .workerServes call outcome => some (call, outcome)
  | _ => none

/-- The admitted request that ends with this event, and its reply. -/
def answeredBy (e : ProtocolEvent B) : Option (Request × DriverReply) :=
  match e.action, e.before.client, e.answer with
  | .clientCalls request, _, some reply =>
      if request.Admitted e.before.tables then some (request, reply) else none
  | .clientReceives, .waiting request _, some reply => some (request, reply)
  | _, _, _ => none

def admitted (trace : List (ProtocolEvent B)) : List Request :=
  trace.filterMap admittedBy

def served (trace : List (ProtocolEvent B)) :
    List (BackendCall × BackendOutcome) :=
  trace.filterMap servedBy

def answered (trace : List (ProtocolEvent B)) :
    List (Request × DriverReply) :=
  trace.filterMap answeredBy

/-- The calls that the backend has seen. -/
def seen (trace : List (ProtocolEvent B)) : List BackendCall :=
  (served trace).map Prod.fst

/-! ### Where the request on its way is -/

/-- The requests in the queue and in the hands of the thread. -/
def inFlight (s : Protocol B) : Nat :=
  (s.queue.filter Command.isRequest).length +
    match s.worker with
    | .serving _ command => if command.isRequest then 1 else 0
    | _ => 0

/-- Where the driver and the thread are, against the requests that were
admitted, the calls that were served and the requests that were answered. -/
inductive Phase (begun : List Request)
    (made : List (BackendCall × BackendOutcome))
    (ended : List (Request × DriverReply)) (s : Protocol B) : Prop
  | idle (hclient : s.client = .idle) (hbegun : begun = ended.map Prod.fst)
      (hqueue : s.queue = []) (hworker : s.worker.Resting)
      (hmade : s.worker.Alive → made.length = ended.length)
  | queued {request : Request} {reply : Nat}
      (hclient : s.client = .waiting request reply)
      (hbegun : begun = ended.map Prod.fst ++ [request])
      (hqueue : s.queue = [request.command reply])
      (hchannel : s.replies[reply]? = some .pending)
      (hworker : s.worker.Resting)
      (hle : made.length ≤ ended.length)
      (hmade : s.worker.Alive → made.length = ended.length)
  | serving {request : Request} {reply : Nat} {backend : B}
      (hclient : s.client = .waiting request reply)
      (hbegun : begun = ended.map Prod.fst ++ [request])
      (hqueue : s.queue = [])
      (hchannel : s.replies[reply]? = some .pending)
      (hworker : s.worker = .serving backend (request.command reply))
      (hmade : made.length = ended.length)
  | replied {request : Request} {reply : Nat} {backend : B}
      {result : BackendResult Unit}
      (hclient : s.client = .waiting request reply)
      (hbegun : begun = ended.map Prod.fst ++ [request])
      (hqueue : s.queue = [])
      (hchannel : s.replies[reply]? = some (.sent result))
      (hworker : s.worker = .receiving backend)
      (hmade : made.length = ended.length + 1)
      (hlast : made[ended.length]? = some (request.call, .returned result))
  | lost {request : Request} {reply : Nat}
      (hclient : s.client = .waiting request reply)
      (hbegun : begun = ended.map Prod.fst ++ [request])
      (hqueue : s.queue = [])
      (hchannel : s.replies[reply]? = some .dropped)
      (hworker : ¬ s.worker.Alive)
      (hlost : made[ended.length]? ≠
        some (request.call, .returned (.ok ())))
  | dropped (hclient : s.client = .dropped)
      (hbegun : begun = ended.map Prod.fst)
      (hqueue : ∀ command ∈ s.queue, command = .shutdown)
      (hworker : ∀ backend command,
        s.worker = .serving backend command → command = .shutdown)
      (hmade : s.worker.Alive → made.length = ended.length)

/-- A request ended well exactly if its own call did. -/
def Honest (made : List (BackendCall × BackendOutcome))
    (ended : List (Request × DriverReply)) : Prop :=
  ∀ (k : Nat) (request : Request) (reply : DriverReply),
    ended[k]? = some (request, reply) →
      (reply = request.reply (.ok ()) ↔
        made[k]? = some (request.call, .returned (.ok ())))

/-- The backend has seen the begun requests in order, and no request ended
with the outcome of another. -/
structure Orderly (begun : List Request)
    (made : List (BackendCall × BackendOutcome))
    (ended : List (Request × DriverReply)) (s : Protocol B) : Prop where
  ordered : made.map Prod.fst <+: begun.map Request.call
  honest : Honest made ended
  phase : Phase begun made ended s

section Steps

variable {begun : List Request} {made : List (BackendCall × BackendOutcome)}
  {ended : List (Request × DriverReply)} {s next : Protocol B}

theorem Phase.of_idle (hphase : Phase begun made ended s)
    (hidle : s.client = .idle) :
    begun = ended.map Prod.fst ∧ s.queue = [] ∧ s.worker.Resting ∧
      (s.worker.Alive → made.length = ended.length) := by
  cases hphase with
  | idle _ hbegun hqueue hworker hmade =>
      exact ⟨hbegun, hqueue, hworker, hmade⟩
  | queued hclient => cases hclient.symm.trans hidle
  | serving hclient => cases hclient.symm.trans hidle
  | replied hclient => cases hclient.symm.trans hidle
  | lost hclient => cases hclient.symm.trans hidle
  | dropped hclient => cases hclient.symm.trans hidle

/-- What a waiting driver learns. -/
theorem Phase.of_learnt (hphase : Phase begun made ended s)
    {request : Request} {reply : Nat} {channel : ReplyChannel}
    {learnt : Response} (hwaiting : s.client = .waiting request reply)
    (hchannel : s.replies[reply]? = some channel)
    (hlearnt : response channel = some learnt) :
    begun = ended.map Prod.fst ++ [request] ∧ s.queue = [] ∧
      s.worker.Resting ∧
      (s.worker.Alive → made.length = ended.length + 1) ∧
      (request.reply (request.result learnt) = request.reply (.ok ()) ↔
        made[ended.length]? = some (request.call, .returned (.ok ()))) := by
  cases hphase with
  | idle hclient => cases hclient.symm.trans hwaiting
  | dropped hclient => cases hclient.symm.trans hwaiting
  | queued hclient _ _ hpending =>
      cases hclient.symm.trans hwaiting
      cases hpending.symm.trans hchannel
      cases hlearnt
  | serving hclient _ _ hpending =>
      cases hclient.symm.trans hwaiting
      cases hpending.symm.trans hchannel
      cases hlearnt
  | @replied _ _ backend result hclient hbegun hqueue hsent hworker hmade
      hlast =>
      cases hclient.symm.trans hwaiting
      cases hsent.symm.trans hchannel
      cases hlearnt
      refine ⟨hbegun, hqueue, ?_, fun _ => hmade, ?_⟩
      · intro _ _ hserving
        cases hworker.symm.trans hserving
      · rw [Request.reply_ok_iff, hlast]
        simp
  | lost hclient hbegun hqueue hdropped hworker hlost =>
      cases hclient.symm.trans hwaiting
      cases hdropped.symm.trans hchannel
      cases hlearnt
      refine ⟨hbegun, hqueue, ?_, fun halive => absurd halive hworker, ?_⟩
      · intro _ _ hserving
        rw [hserving] at hworker
        exact hworker trivial
      · rw [Request.reply_ok_iff]
        exact iff_of_false (by simp) hlost

theorem Honest.ends (hhonest : Honest made ended) {request : Request}
    {reply : DriverReply}
    (hreply : reply = request.reply (.ok ()) ↔
      made[ended.length]? = some (request.call, .returned (.ok ()))) :
    Honest made (ended ++ [(request, reply)]) := by
  intro k other answer hanswer
  rcases Nat.lt_or_ge k ended.length with hlt | hge
  · rw [List.getElem?_append_left hlt] at hanswer
    exact hhonest k other answer hanswer
  · rw [List.getElem?_append_right hge, List.getElem?_singleton] at hanswer
    by_cases hk : k - ended.length = 0
    · rw [if_pos hk] at hanswer
      cases hanswer
      have hlast : k = ended.length := by omega
      rw [hlast]
      exact hreply
    · rw [if_neg hk] at hanswer
      cases hanswer

theorem Honest.makes (hhonest : Honest made ended)
    (hmade : made.length = ended.length)
    (call : BackendCall × BackendOutcome) :
    Honest (made ++ [call]) ended := by
  intro k request reply hanswer
  have hlt : k < ended.length := (List.getElem?_eq_some_iff.mp hanswer).1
  rw [List.getElem?_append_left (by omega)]
  exact hhonest k request reply hanswer

namespace Orderly

theorem made_le (horderly : Orderly begun made ended s) :
    made.length ≤ begun.length := by
  have hle := horderly.ordered.length_le
  rw [List.length_map, List.length_map] at hle
  exact hle

/-- Nothing that the observer sees happens. -/
theorem quiet (horderly : Orderly begun made ended s)
    (hphase : Phase begun made ended next) : Orderly begun made ended next :=
  ⟨horderly.ordered, horderly.honest, hphase⟩

theorem begins (horderly : Orderly begun made ended s) (request : Request)
    (hphase : Phase (begun ++ [request]) made ended next) :
    Orderly (begun ++ [request]) made ended next where
  ordered := by
    rw [List.map_append]
    exact horderly.ordered.trans (List.prefix_append _ _)
  honest := horderly.honest
  phase := hphase

/-- The thread makes the call of the last request begun. -/
theorem makes {request : Request}
    (horderly : Orderly (ended.map Prod.fst ++ [request]) made ended s)
    (hmade : made.length = ended.length) (outcome : BackendOutcome)
    (hphase : Phase (ended.map Prod.fst ++ [request])
      (made ++ [(request.call, outcome)]) ended next) :
    Orderly (ended.map Prod.fst ++ [request])
      (made ++ [(request.call, outcome)]) ended next where
  ordered := by
    have hordered := horderly.ordered
    rw [List.map_append, List.map_append]
    rw [List.map_append] at hordered
    rcases List.prefix_concat_iff.mp hordered with hall | hshorter
    · have hlengths := congrArg List.length hall
      simp only [List.length_append, List.length_map,
        List.length_singleton] at hlengths
      omega
    · rw [hshorter.eq_of_length (by simp [hmade])]
      exact List.prefix_refl _
  honest := horderly.honest.makes hmade _
  phase := hphase

/-- The last request begun gets its reply. -/
theorem ends {request : Request} {reply : DriverReply}
    (horderly : Orderly (ended.map Prod.fst ++ [request]) made ended s)
    (hreply : reply = request.reply (.ok ()) ↔
      made[ended.length]? = some (request.call, .returned (.ok ())))
    (hphase : Phase (ended.map Prod.fst ++ [request]) made
      (ended ++ [(request, reply)]) next) :
    Orderly (ended.map Prod.fst ++ [request]) made
      (ended ++ [(request, reply)]) next :=
  ⟨horderly.ordered, horderly.honest.ends hreply, hphase⟩

/-- The lists after one more event. -/
abbrev After (begun : List Request)
    (made : List (BackendCall × BackendOutcome))
    (ended : List (Request × DriverReply)) (e : ProtocolEvent B) : Prop :=
  Orderly (begun ++ (admittedBy e).toList) (made ++ (servedBy e).toList)
    (ended ++ (answeredBy e).toList) e.after

/-- An event that begins, makes and ends nothing. -/
theorem after_quiet (horderly : Orderly begun made ended s)
    {e : ProtocolEvent B} (hbegins : admittedBy e = none)
    (hmakes : servedBy e = none) (hends : answeredBy e = none)
    (hphase : Phase begun made ended e.after) : After begun made ended e := by
  rw [After, hbegins, hmakes, hends]
  simp only [Option.toList_none, List.append_nil]
  exact horderly.quiet hphase

theorem after_refused (horderly : Orderly begun made ended s)
    {request : Request} (hrefused : ¬ request.Admitted s.tables)
    (answer : Option DriverReply) :
    After begun made ended ⟨s, .clientCalls request, answer, s⟩ := by
  have hbegins : admittedBy (⟨s, .clientCalls request, answer, s⟩ :
      ProtocolEvent B) = none := if_neg hrefused
  have hends : answeredBy (⟨s, .clientCalls request, answer, s⟩ :
      ProtocolEvent B) = none := by
    cases answer with
    | none => rfl
    | some reply => exact if_neg hrefused
  exact horderly.after_quiet hbegins rfl hends horderly.phase

theorem after_sent (horderly : Orderly begun made ended s)
    {request : Request} (hidle : s.client = .idle)
    (hadmitted : request.Admitted s.tables) :
    After begun made ended ⟨s, .clientCalls request, none,
      { s with
        client := .waiting request s.replies.length
        queue := s.queue ++ [request.command s.replies.length]
        replies := s.replies ++ [.pending] }⟩ := by
  obtain ⟨hbegun, hqueue, hworker, hmade⟩ := horderly.phase.of_idle hidle
  have hle := horderly.made_le
  rw [hbegun, List.length_map] at hle
  simp only [After, admittedBy, servedBy, answeredBy, if_pos hadmitted,
    Option.toList_none, Option.toList_some, List.append_nil]
  apply horderly.begins
  exact .queued rfl (by rw [hbegun]) (by rw [hqueue]; rfl)
    List.getElem?_concat_length hworker hle hmade

theorem after_notSent (horderly : Orderly begun made ended s)
    {request : Request} (hidle : s.client = .idle)
    (hadmitted : request.Admitted s.tables) (hclosed : ¬ s.worker.Listens) :
    After begun made ended ⟨s, .clientCalls request,
      some (request.reply (request.result .notSent)), s⟩ := by
  obtain ⟨hbegun, hqueue, hworker, hmade⟩ := horderly.phase.of_idle hidle
  have hle := horderly.made_le
  rw [hbegun, List.length_map] at hle
  have hdead : ¬ s.worker.Alive := fun halive => hclosed halive.listens
  simp only [After, admittedBy, servedBy, answeredBy, if_pos hadmitted,
    Option.toList_none, Option.toList_some, List.append_nil]
  subst hbegun
  refine ⟨horderly.ordered.trans ?_, horderly.honest.ends ?_,
    .idle hidle (by simp) hqueue hworker fun halive => absurd halive hdead⟩
  · rw [List.map_append]
    exact List.prefix_append _ _
  · rw [Request.reply_ok_iff, List.getElem?_eq_none hle]
    exact iff_of_false (by simp) (by simp)

theorem after_received (horderly : Orderly begun made ended s)
    {request : Request} {reply : Nat} {channel : ReplyChannel}
    {learnt : Response} (hwaiting : s.client = .waiting request reply)
    (hchannel : s.replies[reply]? = some channel)
    (hlearnt : response channel = some learnt) :
    After begun made ended ⟨s, .clientReceives,
      some (request.reply (request.result learnt)),
      { s with
        client := .idle
        tables := request.settle s.tables learnt }⟩ := by
  obtain ⟨hbegun, hqueue, hworker, hmade, hreply⟩ :=
    horderly.phase.of_learnt hwaiting hchannel hlearnt
  simp only [After, admittedBy, servedBy, answeredBy, hwaiting,
    Option.toList_none, Option.toList_some, List.append_nil]
  subst hbegun
  apply horderly.ends hreply
  refine .idle rfl (by simp) hqueue hworker ?_
  intro halive
  rw [hmade halive]
  simp

/-! ### The steps that begin and end no request -/

/-- An idle driver that stays so with the same thread and queue. -/
theorem phase_of_same (horderly : Orderly begun made ended s)
    (hidle : s.client = .idle) (hclient : next.client = .idle)
    (hqueue : next.queue = s.queue) (hworker : next.worker = s.worker) :
    Phase begun made ended next := by
  obtain ⟨hbegun, hempty, hresting, hmade⟩ := horderly.phase.of_idle hidle
  rw [← hworker] at hresting hmade
  exact .idle hclient hbegun (hqueue.trans hempty) hresting hmade

/-- A driver that is dropped has nothing on its way. -/
theorem phase_of_dropped (horderly : Orderly begun made ended s)
    (hidle : s.client = .idle) (hclient : next.client = .dropped)
    (hqueue : next.queue = s.queue ∨ next.queue = s.queue ++ [.shutdown])
    (hworker : next.worker = s.worker) : Phase begun made ended next := by
  obtain ⟨hbegun, hempty, hresting, hmade⟩ := horderly.phase.of_idle hidle
  rw [← hworker] at hresting hmade
  refine .dropped hclient hbegun ?_ ?_ hmade
  · intro command hmem
    rcases hqueue with hsame | hshutdown
    · rw [hsame, hempty] at hmem
      cases hmem
    · rw [hshutdown, hempty] at hmem
      exact List.mem_singleton.mp hmem
  · exact fun backend command hserving =>
      absurd hserving (hresting backend command)

/-- The thread has started, or has failed to. -/
theorem phase_of_starting (horderly : Orderly begun made ended s)
    {backend : B} (hstarting : s.worker = .starting backend)
    (hclient : next.client = s.client) (hqueue : next.queue = s.queue)
    (hreplies : next.replies = s.replies)
    (hworker : next.worker = .receiving backend ∨
      next.worker = .leaving backend) : Phase begun made ended next := by
  have halive : s.worker.Alive := by
    rw [hstarting]
    trivial
  have hresting : next.worker.Resting := by
    intro _ _ hserving
    rcases hworker with hreceiving | hleaving
    · cases hreceiving.symm.trans hserving
    · cases hleaving.symm.trans hserving
  cases horderly.phase with
  | idle hidle hbegun hempty _ hmade =>
      exact .idle (hclient.trans hidle) hbegun (hqueue.trans hempty) hresting
        fun _ => hmade halive
  | queued hwaiting hbegun hsingle hchannel _ hle hmade =>
      exact .queued (hclient.trans hwaiting) hbegun (hqueue.trans hsingle)
        (by rw [hreplies, hchannel]) hresting hle fun _ => hmade halive
  | serving _ _ _ _ hserving => cases hserving.symm.trans hstarting
  | replied _ _ _ _ hreceiving => cases hreceiving.symm.trans hstarting
  | lost _ _ _ _ hdead => exact absurd halive hdead
  | dropped hdropped hbegun hshutdown _ hmade =>
      refine .dropped (hclient.trans hdropped) hbegun ?_ ?_
        fun _ => hmade halive
      · rw [hqueue]
        exact hshutdown
      · exact fun backend command hserving =>
          absurd hserving (hresting backend command)

/-- The thread takes the first command of the queue. -/
theorem phase_of_taken (horderly : Orderly begun made ended s)
    {backend : B} {command : Command} {rest : List Command}
    (hreceiving : s.worker = .receiving backend)
    (hqueue : s.queue = command :: rest) :
    Phase begun made ended
      { s with queue := rest, worker := .serving backend command } := by
  have halive : s.worker.Alive := by
    rw [hreceiving]
    trivial
  cases horderly.phase with
  | idle _ _ hempty => cases hempty.symm.trans hqueue
  | queued hwaiting hbegun hsingle hchannel _ _ hmade =>
      cases hsingle.symm.trans hqueue
      exact .serving hwaiting hbegun rfl hchannel rfl (hmade halive)
  | serving _ _ _ _ hserving => cases hserving.symm.trans hreceiving
  | replied _ _ hempty => cases hempty.symm.trans hqueue
  | lost _ _ hempty => cases hempty.symm.trans hqueue
  | dropped hdropped hbegun hshutdown _ hmade =>
      rw [hqueue] at hshutdown
      refine .dropped hdropped hbegun ?_ ?_ fun _ => hmade halive
      · exact fun other hmem => hshutdown other (List.mem_cons_of_mem _ hmem)
      · rintro _ _ ⟨⟩
        exact hshutdown command List.mem_cons_self

/-- A command in the hands of the thread, with a request that waits for it or
behind a driver that is gone. -/
theorem phase_of_serving (horderly : Orderly begun made ended s)
    {backend : B} {command : Command}
    (hserving : s.worker = .serving backend command) :
    (∃ request reply, command = request.command reply ∧
        s.client = .waiting request reply ∧
        begun = ended.map Prod.fst ++ [request] ∧ s.queue = [] ∧
        s.replies[reply]? = some .pending ∧ made.length = ended.length) ∨
      command = .shutdown ∧ s.client = .dropped ∧
        begun = ended.map Prod.fst ∧
        (∀ other ∈ s.queue, other = Command.shutdown) ∧
        made.length = ended.length := by
  have halive : s.worker.Alive := by
    rw [hserving]
    trivial
  cases horderly.phase with
  | idle _ _ _ hresting => exact absurd hserving (hresting _ _)
  | queued _ _ _ _ hresting => exact absurd hserving (hresting _ _)
  | serving hwaiting hbegun hempty hchannel hworker hmade =>
      cases hworker.symm.trans hserving
      exact Or.inl ⟨_, _, rfl, hwaiting, hbegun, hempty, hchannel, hmade⟩
  | replied _ _ _ _ hreceiving => cases hreceiving.symm.trans hserving
  | lost _ _ _ _ hdead => exact absurd halive hdead
  | dropped hdropped hbegun hqueue hshutdown hmade =>
      exact Or.inr ⟨hshutdown backend command hserving, hdropped, hbegun,
        hqueue, hmade halive⟩

theorem after_served (horderly : Orderly begun made ended s)
    {backend : B} {command : Command} {call : BackendCall} {reply : Nat}
    (hserving : s.worker = .serving backend command)
    (hasks : command.asks = some (call, reply))
    {outcome : BackendOutcome} {channel : ReplyChannel} {worker : Worker B}
    (hend : (∃ result after, outcome = .returned result ∧
        channel = .sent result ∧ worker = .receiving after) ∨
      ∃ after, outcome = .panicked ∧ channel = .dropped ∧
        worker = .leaving after) :
    After begun made ended ⟨s, .workerServes call outcome, none,
      { s with replies := s.replies.set reply channel, worker }⟩ := by
  rcases horderly.phase_of_serving hserving with
    ⟨request, place, rfl, hwaiting, rfl, hempty, hpending, hmade⟩ |
      ⟨rfl, -⟩
  · cases (request.asks_command place).symm.trans hasks
    have hplace := set_reply hpending channel
    have hlast : (made ++ [(request.call, outcome)])[ended.length]? =
        some (request.call, outcome) := by
      rw [← hmade, List.getElem?_concat_length]
    simp only [After, admittedBy, servedBy, answeredBy, Option.toList_none,
      Option.toList_some, List.append_nil]
    apply horderly.makes hmade
    rcases hend with ⟨result, after, rfl, rfl, rfl⟩ | ⟨after, rfl, rfl, rfl⟩
    · exact .replied hwaiting rfl hempty hplace rfl (by simp [hmade]) hlast
    · refine .lost hwaiting rfl hempty hplace id ?_
      rw [hlast]
      simp
  · cases hasks

theorem phase_of_shutDown (horderly : Orderly begun made ended s)
    {backend : B} (hserving : s.worker = .serving backend .shutdown) :
    Phase begun made ended { s with worker := .leaving backend } := by
  rcases horderly.phase_of_serving hserving with
    ⟨request, reply, hcommand, -⟩ |
      ⟨-, hdropped, hbegun, hshutdown, hmade⟩
  · cases request <;> cases hcommand
  · exact .dropped hdropped hbegun hshutdown
      (fun _ _ hserves => by cases hserves) fun halive => halive.elim

theorem phase_of_closed [VulkanBackend B]
    (horderly : Orderly begun made ended s)
    {backend : B} (hleaving : s.worker = .leaving backend) :
    Phase begun made ended
      { s with
        queue := []
        replies := dropReplies s.queue s.replies
        worker := .ended (VulkanBackend.drop backend) } := by
  have hresting : Worker.Resting (.ended (VulkanBackend.drop backend)) := by
    intro _ _ hserving
    cases hserving
  cases horderly.phase with
  | idle hidle hbegun _ _ _ =>
      exact .idle hidle hbegun rfl hresting fun halive => halive.elim
  | @queued request reply hwaiting hbegun hsingle hchannel _ hle _ =>
      have hplace : (dropReplies s.queue s.replies)[reply]? =
          some .dropped := by
        rw [hsingle]
        exact dropReplies_command hchannel request
      refine .lost hwaiting hbegun rfl hplace id ?_
      rw [List.getElem?_eq_none hle]
      simp
  | serving _ _ _ _ hserving => cases hserving.symm.trans hleaving
  | replied _ _ _ _ hreceiving => cases hreceiving.symm.trans hleaving
  | @lost request reply hwaiting hbegun hempty hchannel _ hlost =>
      refine .lost hwaiting hbegun rfl ?_ id hlost
      rw [hempty]
      exact hchannel
  | dropped hdropped hbegun _ _ _ =>
      refine .dropped hdropped hbegun (by simp) ?_ fun halive => halive.elim
      exact fun _ _ hserving => by cases hserving

theorem after_step [VulkanBackend B] {action : Action}
    {answer : Option DriverReply} (horderly : Orderly begun made ended s)
    (hstep : Step s action answer next) :
    After begun made ended ⟨s, action, answer, next⟩ := by
  cases hstep with
  | refused hidle hrefused => exact horderly.after_refused hrefused _
  | sent hidle hadmitted hopen => exact horderly.after_sent hidle hadmitted
  | notSent hidle hadmitted hclosed =>
      exact horderly.after_notSent hidle hadmitted hclosed
  | received hwaiting hchannel hlearnt =>
      exact horderly.after_received hwaiting hchannel hlearnt
  | calledTables hidle hcall =>
      exact horderly.after_quiet rfl rfl rfl
        (horderly.phase_of_same hidle hidle rfl rfl)
  | droppedOpen hidle hopen =>
      exact horderly.after_quiet rfl rfl rfl
        (horderly.phase_of_dropped hidle rfl (.inr rfl) rfl)
  | droppedClosed hidle hclosed =>
      exact horderly.after_quiet rfl rfl rfl
        (horderly.phase_of_dropped hidle rfl (.inl rfl) rfl)
  | started hstarting =>
      exact horderly.after_quiet rfl rfl rfl
        (horderly.phase_of_starting hstarting rfl rfl rfl (.inl rfl))
  | failedToStart hstarting =>
      exact horderly.after_quiet rfl rfl rfl
        (horderly.phase_of_starting hstarting rfl rfl rfl (.inr rfl))
  | taken hreceiving hqueue =>
      exact horderly.after_quiet rfl rfl rfl
        (horderly.phase_of_taken hreceiving hqueue)
  | served hserving hasks hserved =>
      exact horderly.after_served hserving hasks
        (.inl ⟨_, _, rfl, rfl, rfl⟩)
  | panicked hserving hasks hserved =>
      exact horderly.after_served hserving hasks (.inr ⟨_, rfl, rfl, rfl⟩)
  | shutDown hserving =>
      exact horderly.after_quiet rfl rfl rfl
        (horderly.phase_of_shutDown hserving)
  | closed hleaving =>
      exact horderly.after_quiet rfl rfl rfl
        (horderly.phase_of_closed hleaving)

end Orderly

theorem Phase.inFlight_le (hphase : Phase begun made ended s) :
    s.inFlight ≤ 1 := by
  have hresting : s.worker.Resting →
      s.inFlight = (s.queue.filter Command.isRequest).length := by
    intro hrest
    rw [inFlight]
    cases hworker : s.worker with
    | serving backend command => exact absurd hworker (hrest _ _)
    | _ => rfl
  cases hphase with
  | idle _ _ hempty hworker _ =>
      rw [hresting hworker, hempty]
      exact Nat.zero_le 1
  | queued _ _ hsingle _ hworker _ _ =>
      rw [hresting hworker, hsingle]
      exact List.length_filter_le _ _
  | serving _ _ hempty _ hworker _ =>
      rw [inFlight, hempty, hworker]
      dsimp only
      split <;> simp
  | replied _ _ hempty _ hworker _ _ =>
      rw [inFlight, hempty, hworker]
      exact Nat.zero_le 1
  | lost _ _ hempty _ hdead _ =>
      rw [inFlight, hempty]
      cases hworker : s.worker with
      | serving backend command =>
          rw [hworker] at hdead
          exact absurd trivial hdead
      | _ => exact Nat.zero_le 1
  | dropped _ _ hshutdown hworker _ =>
      have hnone : s.queue.filter Command.isRequest = [] := by
        rw [List.filter_eq_nil_iff]
        intro command hmem
        rw [hshutdown command hmem]
        simp [Command.isRequest, Command.asks]
      rw [inFlight, hnone]
      cases hserving : s.worker with
      | serving backend command =>
          rw [hworker backend command hserving]
          exact Nat.zero_le 1
      | _ => exact Nat.zero_le 1

/-- The answered requests are the begun ones, in order, up to the one that is
waited for. -/
theorem Phase.ended_prefix (hphase : Phase begun made ended s) :
    ended.map Prod.fst <+: begun := by
  cases hphase with
  | idle _ hbegun => exact hbegun ▸ List.prefix_refl _
  | queued _ hbegun => exact hbegun ▸ List.prefix_append _ _
  | serving _ hbegun => exact hbegun ▸ List.prefix_append _ _
  | replied _ hbegun => exact hbegun ▸ List.prefix_append _ _
  | lost _ hbegun => exact hbegun ▸ List.prefix_append _ _
  | dropped _ hbegun => exact hbegun ▸ List.prefix_refl _

end Steps

/-! ### Whole runs -/

/-- The driver waits for a reply. -/
def Pending (s : Protocol B) : Prop :=
  ∃ request reply, s.client = .waiting request reply

theorem Phase.made_eq {begun : List Request}
    {made : List (BackendCall × BackendOutcome)}
    {ended : List (Request × DriverReply)} {s : Protocol B}
    (hphase : Phase begun made ended s) (halive : s.worker.Alive)
    (hquiet : ¬ Pending s) : made.length = begun.length := by
  cases hphase with
  | idle _ hbegun _ _ hmade =>
      rw [hmade halive, hbegun, List.length_map]
  | dropped _ hbegun _ _ hmade =>
      rw [hmade halive, hbegun, List.length_map]
  | queued hwaiting => exact absurd ⟨_, _, hwaiting⟩ hquiet
  | serving hwaiting => exact absurd ⟨_, _, hwaiting⟩ hquiet
  | replied hwaiting => exact absurd ⟨_, _, hwaiting⟩ hquiet
  | lost hwaiting => exact absurd ⟨_, _, hwaiting⟩ hquiet

section Runs

variable [VulkanBackend B] {tables : VulkanTables} {ids : IdSource}
  {backend : B} {trace : List (ProtocolEvent B)} {last : Protocol B}

theorem orderly_run
    (hrun : Execution Step (start tables ids backend) trace last) :
    Orderly (admitted trace) (served trace) (answered trace) last := by
  refine Execution.invariant (fun past now =>
    Orderly (admitted past) (served past) (answered past) now) ?_ ?_ hrun
  · refine ⟨List.prefix_refl _, ?_, ?_⟩
    · intro k request reply hnone
      cases hnone
    · refine .idle rfl rfl rfl ?_ fun _ => rfl
      intro _ _ hserving
      cases hserving
  · intro past now action answer next hnow hstep
    rw [admitted, served, answered, List.filterMap_concat,
      List.filterMap_concat, List.filterMap_concat]
    exact hnow.after_step hstep

end Runs

section ObservedRuns

variable [VulkanBackend B]

/-- What an observed backend has written down is what the thread has asked of
it. -/
theorem seen_logged {tables : VulkanTables} {ids : IdSource} {backend : B}
    {trace : List (ProtocolEvent (Observed B))} {last : Protocol (Observed B)}
    (hrun : Execution Step (start tables ids ⟨backend, []⟩) trace last) :
    last.worker.backend.seen = seen trace := by
  refine Execution.invariant (fun past (now : Protocol (Observed B)) =>
    now.worker.backend.seen = seen past) rfl ?_ hrun
  intro past now action answer next hnow hstep
  rw [seen, served, List.filterMap_concat, List.map_append]
  change _ = seen past ++ _
  rw [← hnow]
  cases hstep with
  | served hserving hasks hserved =>
      rw [hserving]
      exact BackendCall.serve_seen hserved
  | panicked hserving hasks hserved =>
      rw [hserving]
      exact BackendCall.serve_seen hserved
  | started hstarting =>
      rw [hstarting]
      exact (List.append_nil _).symm
  | failedToStart hstarting =>
      rw [hstarting]
      exact (List.append_nil _).symm
  | taken hreceiving hqueue =>
      rw [hreceiving]
      exact (List.append_nil _).symm
  | shutDown hserving =>
      rw [hserving]
      exact (List.append_nil _).symm
  | closed hleaving =>
      rw [hleaving]
      exact (List.append_nil _).symm
  | _ => exact (List.append_nil _).symm

/-- A submit on a faulted device fails at once and sends nothing. -/
theorem Step.of_faulted {s next : Protocol B} {action : Action}
    {answer : Option DriverReply} {device : ObjectId}
    {workload : WorkloadClass} {ops : List DriverOp} {fault : GpuFault}
    (hstep : Step s action answer next)
    (hcalls : action = .clientCalls (.submit device workload ops))
    (hfault : s.tables.faults.get device = some fault) :
    next = s ∧ ∃ error,
      answer = some (.outcome (.returned (.error error))) := by
  cases hstep with
  | refused hidle hrefused =>
      cases hcalls
      exact ⟨rfl, _, rfl⟩
  | sent hidle hadmitted hopen =>
      cases hcalls
      cases hadmitted.2.symm.trans hfault
  | notSent hidle hadmitted hclosed =>
      cases hcalls
      cases hadmitted.2.symm.trans hfault
  | _ => cases hcalls

/-- In every interleaving of the driver and its render thread, over every
backend: one request is in flight at most; the backend sees the admitted
requests in order, and all of them while the thread lives and nothing is
pending; a submit on a faulted device fails at once and sends nothing; and a
request that succeeds is the one whose own call returned well. -/
theorem requests_in_order {tables : VulkanTables} {ids : IdSource}
    {backend : B} {trace : List (ProtocolEvent (Observed B))}
    {last : Protocol (Observed B)}
    (hrun : Execution Step (start tables ids ⟨backend, []⟩) trace last) :
    last.inFlight ≤ 1 ∧
      last.worker.backend.seen <+: (admitted trace).map Request.call ∧
      (last.worker.Alive → ¬ Pending last →
        last.worker.backend.seen = (admitted trace).map Request.call) ∧
      (∀ e ∈ trace, ∀ device workload ops fault,
        e.action = .clientCalls (.submit device workload ops) →
          e.before.tables.faults.get device = some fault →
            e.after = e.before ∧ ∃ error,
              e.answer = some (.outcome (.returned (.error error)))) ∧
      (served trace).map Prod.fst = last.worker.backend.seen ∧
      ∀ (k : Nat) (request : Request),
        (answered trace)[k]? = some (request, request.reply (.ok ())) →
          (admitted trace)[k]? = some request ∧
            (served trace)[k]? = some (request.call, .returned (.ok ())) := by
  have horderly := orderly_run hrun
  have hseen := seen_logged hrun
  refine ⟨horderly.phase.inFlight_le, ?_, ?_, ?_, hseen.symm, ?_⟩
  · rw [hseen]
    exact horderly.ordered
  · intro halive hquiet
    rw [hseen]
    apply horderly.ordered.eq_of_length
    rw [List.length_map, List.length_map]
    exact horderly.phase.made_eq halive hquiet
  · intro e hmem device workload ops fault hcalls hfault
    exact (hrun.step_of_mem hmem).of_faulted hcalls hfault
  · intro k request hanswer
    have hrequest : ((answered trace).map Prod.fst)[k]? = some request := by
      rw [List.getElem?_map, hanswer]
      rfl
    have hlt := (List.getElem?_eq_some_iff.mp hrequest).1
    obtain ⟨rest, hrest⟩ := horderly.phase.ended_prefix
    rw [← hrest, List.getElem?_append_left hlt]
    exact ⟨hrequest, (horderly.honest k request _ hanswer).mp rfl⟩

end ObservedRuns

namespace LostAndReset

def lost : BackendOutcome := .returned (.error (.deviceLost "gone"))

def observed : Observed ScriptedBackend :=
  ⟨⟨[⟨"adapter", 1, 1⟩], [lost]⟩, []⟩

def tables : VulkanTables :=
  .new observed.backend.adapters 1024 .sequential

def draw : Request := .submit ⟨0⟩ .graphics [.draw 3 1]

def reset : Request := .reset ⟨0⟩

/-- A draw finds the device lost, the next one is refused for that, and a reset
behind them succeeds as its own call did. -/
theorem reset_answered : ∃ trace last,
    answered trace = [(draw, draw.reply (.error
        (.device "Vulkan device lost: gone"))), (reset, reset.reply (.ok ()))] ∧
      Execution Step
        (start tables (IdSource.sequential.advance 1) observed) trace last ∧
      last.inFlight ≤ 1 ∧
      last.worker.backend.seen = [.execute [.draw 3 1], .reset] ∧
      (served trace)[1]? = some (.reset, .returned (.ok ())) := by
  let fresh : Protocol (Observed ScriptedBackend) :=
    start tables (IdSource.sequential.advance 1) observed
  have hsent : Step fresh (.clientCalls draw) none _ :=
    .sent rfl (by decide) trivial
  have hrun : Execution Step fresh _ _ := .snoc .nil hsent
  replace hrun := hrun.snoc (.started rfl)
  replace hrun := hrun.snoc (.taken rfl rfl)
  replace hrun := hrun.snoc (.served rfl rfl rfl)
  replace hrun := hrun.snoc (.received rfl rfl rfl)
  replace hrun := hrun.snoc (show Step _ (.clientCalls draw) _ _ from
    .refused rfl (by decide))
  replace hrun := hrun.snoc (show Step _ (.clientCalls reset) _ _ from
    .sent rfl (by decide) trivial)
  replace hrun := hrun.snoc (.taken rfl rfl)
  replace hrun := hrun.snoc (.served rfl rfl rfl)
  replace hrun := hrun.snoc (.received rfl rfl rfl)
  obtain ⟨hflight, -, hall, -, -, hanswered⟩ := requests_in_order hrun
  refine ⟨_, _, rfl, hrun, hflight, hall trivial ?_, ?_⟩
  · rintro ⟨request, reply, hwaiting⟩
    cases hwaiting
  · exact (hanswered 1 reset rfl).2

end LostAndReset

end Protocol

end SherGraphics
