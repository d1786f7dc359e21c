/-
The driver and its render thread, step by step, against the driver that takes
each request as one exchange.  A request is exchanged when its reply is
received; until then the driver stays as it was before the request, and
`Follows` says what the exchange will bring.  Each step of the interleaving is
matched here by the exchanges that it completes.
-/
import SherGraphics.RenderOrder

namespace SherGraphics

namespace Request

/-- The request as a call of the driver. -/
def toCall : Request → DriverCall
  | .submit device workload ops => .submit device workload ops
  | .reset device => .resetDevice device

/-- A request that is not sent leaves the tables as they are. -/
theorem settle_notSent (request : Request) (tables : VulkanTables) :
    request.settle tables .notSent = tables := by
  cases request with
  | submit device workload ops => rfl
  | reset device =>
      rw [settle, VulkanTables.afterReset, if_neg (by simp)]

end Request

/-! ### Requests of the driver that exchanges them -/

namespace VulkanDriver

variable {B : Type} [VulkanBackend B] (driver : VulkanDriver B)
  {request : Request}

theorem call_of_refused (hrefused : ¬ request.Admitted driver.tables)
    (ids : IdSource) :
    GpuDriver.call (driver, ids) request.toCall =
      (request.reply (.error (request.refusal driver.tables)), driver, ids) := by
  cases request with
  | submit device workload ops =>
      by_cases hknown : driver.tables.Knows device
      · obtain ⟨info, hfind⟩ := id hknown
        cases hfault : driver.tables.faults.get device with
        | none => exact absurd ⟨hknown, hfault⟩ hrefused
        | some fault =>
            have hrun := submit_of_faulted hknown hfault workload ops
            change (DriverReply.outcome (submit device workload ops driver).1,
              (submit device workload ops driver).2, ids) = _
            rw [hrun, Request.refusal, hfind, hfault]
            rfl
      · have hnone : driver.tables.devices.find?
            (fun info => info.id = device) = none :=
          Option.eq_none_iff_forall_ne_some.mpr fun info hfind =>
            hknown ⟨info, hfind⟩
        have hrun := submit_of_unknown hknown workload ops
        change (DriverReply.outcome (submit device workload ops driver).1,
          (submit device workload ops driver).2, ids) = _
        rw [hrun, Request.refusal, hnone]
        rfl
  | reset device =>
      have hrun := resetDevice_of_unknown hrefused
      change (DriverReply.done (resetDevice device driver).1,
        (resetDevice device driver).2, ids) = _
      rw [hrun]
      rfl

theorem call_of_asked {learnt : Response} {worker : RenderThread B}
    (hadmitted : request.Admitted driver.tables)
    (hasked : driver.worker.ask request.call.serve = (learnt, worker))
    (ids : IdSource) :
    GpuDriver.call (driver, ids) request.toCall =
      (request.reply (request.result learnt),
        ⟨request.settle driver.tables learnt, worker⟩, ids) := by
  cases request with
  | submit device workload ops =>
      have hrun := submit_of_clear hadmitted.1 hadmitted.2 hasked workload
      change (DriverReply.outcome (submit device workload ops driver).1,
        (submit device workload ops driver).2, ids) = _
      rw [hrun]
      rfl
  | reset device =>
      have hrun := resetDevice_of_known hadmitted hasked
      change (DriverReply.done (resetDevice device driver).1,
        (resetDevice device driver).2, ids) = _
      rw [hrun]
      rfl

/-- The other calls are calls of the tables. -/
theorem call_of_tables {call : DriverCall} {reply : DriverReply}
    {tables : VulkanTables} {ids later : IdSource}
    (hcall : VulkanTables.call (driver.tables, ids) call =
      some (reply, tables, later)) :
    GpuDriver.call (driver, ids) call =
      (reply, ⟨tables, driver.worker⟩, later) := by
  cases call with
  | submit device workload ops => cases hcall
  | resetDevice device => cases hcall
  | allocateVram device size memoryClass =>
      rw [VulkanTables.call] at hcall
      cases hgranted : VulkanTables.allocateVram device size memoryClass
          (driver.tables, ids) with
      | mk result world =>
          have hrun : allocateVram device size memoryClass (driver, ids) =
              (result, ⟨world.1, driver.worker⟩, world.2) := by
            rw [allocateVram, hgranted]
          change (DriverReply.allocation
            (allocateVram device size memoryClass (driver, ids)).1,
            (allocateVram device size memoryClass (driver, ids)).2) = _
          rw [hgranted] at hcall
          cases hcall
          rw [hrun]
  | _ =>
      cases hcall
      rfl

end VulkanDriver

namespace Worker

variable {B : Type}

/-- The thread, as a request would find it. -/
def thread : Worker B → RenderThread B
  | starting backend => ⟨.running, backend⟩
  | receiving backend => ⟨.running, backend⟩
  | serving backend _ => ⟨.running, backend⟩
  | leaving backend => ⟨.stopping, backend⟩
  | ended backend => ⟨.stopped, backend⟩

theorem thread_stopped {worker : Worker B} (hclosed : ¬ worker.Listens) :
    worker.thread.status = .stopped := by
  cases worker with
  | ended _ => rfl
  | _ => exact absurd trivial hclosed

/-- The thread is where an exchange has left it, or has closed its channel
since. -/
inductive Since [VulkanBackend B] : RenderThread B → Worker B → Prop
  | receiving (backend : B) : Since ⟨.running, backend⟩ (.receiving backend)
  | leaving (backend : B) : Since ⟨.stopping, backend⟩ (.leaving backend)
  | ended (backend : B) : Since ⟨.stopped, backend⟩ (.ended backend)
  | closed (backend : B) :
      Since ⟨.stopping, backend⟩ (.ended (VulkanBackend.drop backend))

theorem Since.thread [VulkanBackend B] {left : RenderThread B}
    {worker : Worker B} (hsince : Since left worker) :
    worker.Resting ∧ (left = worker.thread ∨ ∃ backend,
      left = ⟨.stopping, backend⟩ ∧
        worker = .ended (VulkanBackend.drop backend)) := by
  cases hsince with
  | receiving backend => exact ⟨by simp [Resting], .inl rfl⟩
  | leaving backend => exact ⟨by simp [Resting], .inl rfl⟩
  | ended backend => exact ⟨by simp [Resting], .inl rfl⟩
  | closed backend => exact ⟨by simp [Resting], .inr ⟨backend, rfl, rfl⟩⟩

end Worker

namespace Protocol

variable {B : Type}

/-- The driver as it is between two requests. -/
def driver (s : Protocol B) : VulkanDriver B × IdSource :=
  (⟨s.tables, s.worker.thread⟩, s.ids)

/-- The driver that exchanges its requests is where the protocol is, or where
it was before the request that is on its way. -/
inductive Follows [VulkanBackend B] (s : Protocol B) :
    VulkanDriver B × IdSource → Prop
  | idle (hclient : s.client = .idle) (hqueue : s.queue = [])
      (hworker : s.worker.Resting) : Follows s s.driver
  | queued {request : Request} {reply : Nat}
      (hclient : s.client = .waiting request reply)
      (hadmitted : request.Admitted s.tables)
      (hqueue : s.queue = [request.command reply])
      (hchannel : s.replies[reply]? = some .pending)
      (hworker : s.worker.Resting) : Follows s s.driver
  | serving {request : Request} {reply : Nat} {backend : B}
      (hclient : s.client = .waiting request reply)
      (hadmitted : request.Admitted s.tables)
      (hqueue : s.queue = [])
      (hchannel : s.replies[reply]? = some .pending)
      (hworker : s.worker = .serving backend (request.command reply)) :
      Follows s s.driver
  | learnt {request : Request} {reply : Nat} {channel : ReplyChannel}
      {learnt : Response} {before after : RenderThread B}
      (hclient : s.client = .waiting request reply)
      (hadmitted : request.Admitted s.tables)
      (hqueue : s.queue = [])
      (hchannel : s.replies[reply]? = some channel)
      (hlearnt : response channel = some learnt)
      (hasked : before.ask request.call.serve = (learnt, after))
      (hworker : Worker.Since after s.worker) :
      Follows s (⟨s.tables, before⟩, s.ids)
  | dropped {world : VulkanDriver B × IdSource}
      (hclient : s.client = .dropped) : Follows s world

/-! ### What a caller sees -/

/-- The call of the driver that ends with this event, and its reply. -/
def endedBy (e : ProtocolEvent B) : Option (DriverCall × DriverReply) :=
  match e.action, e.before.client, e.answer with
  | .clientCalls request, _, some reply => some (request.toCall, reply)
  | .clientReceives, .waiting request _, some reply =>
      some (request.toCall, reply)
  | .clientCallsTables call, _, some reply => some (call, reply)
  | _, _, _ => none

/-- The call that is exchanged in this event, and its reply. -/
def exchangedBy (e : Event (VulkanDriver B × IdSource) VulkanDriver.Action
    (Option DriverReply)) : Option (DriverCall × DriverReply) :=
  match e.action, e.answer with
  | .call call, some reply => some (call, reply)
  | _, _ => none

section Steps

variable [VulkanBackend B] {s next : Protocol B}
  {world : VulkanDriver B × IdSource}

/-- The driver that exchanges its requests can match the event, and its thread
stops only where the thread fails to start. -/
def Exchanged (e : ProtocolEvent B) (world : VulkanDriver B × IdSource) :
    Prop :=
  ∃ actions,
    (∀ action ∈ actions, action = .threadStops →
      e.action = .workerFailsToStart) ∧
    Follows e.after (Machine.run VulkanDriver.act world actions) ∧
    (Machine.trace VulkanDriver.act world actions).filterMap exchangedBy =
      (endedBy e).toList

theorem Exchanged.quiet {e : ProtocolEvent B} (hends : endedBy e = none)
    (hfollows : Follows e.after world) : Exchanged e world :=
  ⟨[], by simp, hfollows, by rw [hends]; rfl⟩

theorem Exchanged.call {e : ProtocolEvent B} {call : DriverCall}
    {reply : DriverReply} {later : VulkanDriver B × IdSource}
    (hcall : GpuDriver.call world call = (reply, later))
    (hends : endedBy e = some (call, reply))
    (hfollows : Follows e.after later) : Exchanged e world := by
  have hact : VulkanDriver.act world (.call call) = (some reply, later) := by
    rw [VulkanDriver.act, hcall]
  refine ⟨[.call call], by simp, ?_, ?_⟩
  · rw [Machine.run, hact]
    exact hfollows
  · rw [Machine.trace, Machine.event, hact, hends]
    rfl

/-- The thread goes down between two requests. -/
theorem Exchanged.silent {e : ProtocolEvent B} {action : VulkanDriver.Action}
    {later : VulkanDriver B × IdSource}
    (hact : VulkanDriver.act world action = (none, later))
    (hstops : action = .threadStops → e.action = .workerFailsToStart)
    (hends : endedBy e = none) (hfollows : Follows e.after later) :
    Exchanged e world := by
  refine ⟨[action], by simpa using hstops, ?_, ?_⟩
  · rw [Machine.run, hact]
    exact hfollows
  · rw [Machine.trace, Machine.event, hact, hends]
    cases action <;> rfl

theorem Follows.of_idle (hfollows : Follows s world)
    (hidle : s.client = .idle) :
    world = s.driver ∧ s.queue = [] ∧ s.worker.Resting := by
  cases hfollows with
  | idle _ hqueue hworker => exact ⟨rfl, hqueue, hworker⟩
  | queued hclient => cases hclient.symm.trans hidle
  | serving hclient => cases hclient.symm.trans hidle
  | learnt hclient => cases hclient.symm.trans hidle
  | dropped hclient => cases hclient.symm.trans hidle

/-- What a waiting driver learns is what the exchange brings. -/
theorem Follows.of_learnt (hfollows : Follows s world) {request : Request}
    {reply : Nat} {channel : ReplyChannel} {learnt : Response}
    (hwaiting : s.client = .waiting request reply)
    (hchannel : s.replies[reply]? = some channel)
    (hlearnt : response channel = some learnt) :
    ∃ before after, world = (⟨s.tables, before⟩, s.ids) ∧
      request.Admitted s.tables ∧ s.queue = [] ∧
      before.ask request.call.serve = (learnt, after) ∧
      Worker.Since after s.worker := by
  cases hfollows with
  | idle hclient => cases hclient.symm.trans hwaiting
  | dropped hclient => cases hclient.symm.trans hwaiting
  | queued hclient _ _ hpending =>
      cases hclient.symm.trans hwaiting
      cases hpending.symm.trans hchannel
      cases hlearnt
  | serving hclient _ _ hpending =>
      cases hclient.symm.trans hwaiting
      cases hpending.symm.trans hchannel
      cases hlearnt
  | learnt hclient hadmitted hqueue hsent hknown hasked hworker =>
      cases hclient.symm.trans hwaiting
      cases hsent.symm.trans hchannel
      cases hknown.symm.trans hlearnt
      exact ⟨_, _, rfl, hadmitted, hqueue, hasked, hworker⟩

/-- A thread that has not started may turn into any that serves nothing. -/
theorem Follows.of_starting (hfollows : Follows s world) {backend : B}
    (hstarting : s.worker = .starting backend) {worker : Worker B}
    (hresting : worker.Resting) :
    s.client = .dropped ∨ world = s.driver ∧
      Follows { s with worker } ({ s with worker } : Protocol B).driver := by
  cases hfollows with
  | idle hclient hqueue _ => exact .inr ⟨rfl, .idle hclient hqueue hresting⟩
  | queued hclient hadmitted hqueue hchannel _ =>
      exact .inr ⟨rfl, .queued hclient hadmitted hqueue hchannel hresting⟩
  | serving _ _ _ _ hserving => cases hserving.symm.trans hstarting
  | learnt _ _ _ _ _ _ hsince =>
      rw [hstarting] at hsince
      cases hsince
  | dropped hclient => exact .inl hclient

/-! ### Steps of the driver -/

theorem exchanged_refused (hfollows : Follows s world) {request : Request}
    (hidle : s.client = .idle) (hrefused : ¬ request.Admitted s.tables) :
    Exchanged ⟨s, .clientCalls request,
      some (request.reply (.error (request.refusal s.tables))), s⟩ world := by
  obtain ⟨rfl, hqueue, hworker⟩ := hfollows.of_idle hidle
  have hcall := VulkanDriver.call_of_refused s.driver.1 hrefused s.ids
  exact .call hcall rfl hfollows

theorem exchanged_sent (hfollows : Follows s world) {request : Request}
    (hidle : s.client = .idle) (hadmitted : request.Admitted s.tables) :
    Exchanged ⟨s, .clientCalls request, none,
      { s with
        client := .waiting request s.replies.length
        queue := s.queue ++ [request.command s.replies.length]
        replies := s.replies ++ [.pending] }⟩ world := by
  obtain ⟨rfl, hqueue, hworker⟩ := hfollows.of_idle hidle
  apply Exchanged.quiet rfl
  exact .queued rfl hadmitted (by rw [hqueue]; rfl)
    List.getElem?_concat_length hworker

theorem exchanged_notSent (hfollows : Follows s world) {request : Request}
    (hidle : s.client = .idle) (hadmitted : request.Admitted s.tables)
    (hclosed : ¬ s.worker.Listens) :
    Exchanged ⟨s, .clientCalls request,
      some (request.reply (request.result .notSent)), s⟩ world := by
  obtain ⟨rfl, hqueue, hworker⟩ := hfollows.of_idle hidle
  have hasked : s.driver.1.worker.ask request.call.serve =
      (.notSent, s.worker.thread) :=
    RenderThread.ask_of_stopped (Worker.thread_stopped hclosed)
  have hcall := VulkanDriver.call_of_asked s.driver.1 hadmitted hasked s.ids
  rw [Request.settle_notSent] at hcall
  exact .call hcall rfl hfollows

/-- The request is exchanged now; a thread that has closed its channel since
does so after it. -/
theorem exchanged_received (hfollows : Follows s world) {request : Request}
    {reply : Nat} {channel : ReplyChannel} {learnt : Response}
    (hwaiting : s.client = .waiting request reply)
    (hchannel : s.replies[reply]? = some channel)
    (hlearnt : response channel = some learnt) :
    Exchanged ⟨s, .clientReceives,
      some (request.reply (request.result learnt)),
      { s with
        client := .idle
        tables := request.settle s.tables learnt }⟩ world := by
  obtain ⟨before, after, rfl, hadmitted, hqueue, hasked, hsince⟩ :=
    hfollows.of_learnt hwaiting hchannel hlearnt
  have hcall := VulkanDriver.call_of_asked ⟨s.tables, before⟩ hadmitted hasked
    s.ids
  have hends : endedBy (⟨s, .clientReceives,
      some (request.reply (request.result learnt)),
      { s with
        client := .idle
        tables := request.settle s.tables learnt }⟩ : ProtocolEvent B) =
        some (request.toCall, request.reply (request.result learnt)) := by
    rw [endedBy, hwaiting]
  obtain ⟨hresting, rfl | ⟨backend, rfl, hended⟩⟩ := hsince.thread
  · exact .call hcall hends (.idle rfl hqueue hresting)
  · have hact : VulkanDriver.act (⟨s.tables, before⟩, s.ids)
        (.call request.toCall) = (some (request.reply (request.result learnt)),
          ⟨request.settle s.tables learnt, .stopping, backend⟩, s.ids) := by
      rw [VulkanDriver.act, hcall]
    refine ⟨[.call request.toCall, .channelCloses], by simp, ?_, ?_⟩
    · rw [Machine.run, hact]
      have hlast : (VulkanDriver.act
          (⟨request.settle s.tables learnt, .stopping, backend⟩, s.ids)
            .channelCloses).2 =
          (⟨request.settle s.tables learnt, s.worker.thread⟩, s.ids) := by
        rw [hended]
        rfl
      change Follows _ (VulkanDriver.act _ _).2
      rw [hlast]
      exact .idle rfl hqueue hresting
    · rw [Machine.trace, Machine.event, hact, hends]
      rfl

/-! ### Steps of the render thread -/

theorem exchanged_started (hfollows : Follows s world) {backend : B}
    (hstarting : s.worker = .starting backend) :
    Exchanged ⟨s, .workerStarts, none,
      { s with worker := .receiving backend }⟩ world := by
  apply Exchanged.quiet rfl
  have hresting : (Worker.receiving backend).Resting := by
    simp [Worker.Resting]
  rcases hfollows.of_starting hstarting hresting with hdropped | ⟨rfl, hnext⟩
  · exact .dropped hdropped
  · have hsame : s.driver =
        ({ s with worker := .receiving backend } : Protocol B).driver := by
      rw [driver, hstarting]
      rfl
    rw [hsame]
    exact hnext

theorem exchanged_failedToStart (hfollows : Follows s world) {backend : B}
    (hstarting : s.worker = .starting backend) :
    Exchanged ⟨s, .workerFailsToStart, none,
      { s with worker := .leaving backend }⟩ world := by
  have hresting : (Worker.leaving backend).Resting := by
    simp [Worker.Resting]
  rcases hfollows.of_starting hstarting hresting with hdropped | ⟨rfl, hnext⟩
  · exact .quiet rfl (.dropped hdropped)
  · have hstops : VulkanDriver.act s.driver .threadStops = (none,
        ({ s with worker := .leaving backend } : Protocol B).driver) := by
      rw [driver, hstarting]
      rfl
    exact .silent hstops (fun _ => rfl) rfl hnext

theorem exchanged_taken (hfollows : Follows s world) {backend : B}
    {command : Command} {rest : List Command}
    (hreceiving : s.worker = .receiving backend)
    (hqueue : s.queue = command :: rest) :
    Exchanged ⟨s, .workerReceives, none,
      { s with queue := rest, worker := .serving backend command }⟩ world := by
  apply Exchanged.quiet rfl
  cases hfollows with
  | idle _ hempty => cases hempty.symm.trans hqueue
  | serving _ _ hempty => cases hempty.symm.trans hqueue
  | learnt _ _ hempty => cases hempty.symm.trans hqueue
  | dropped hclient => exact .dropped hclient
  | @queued request reply hclient hadmitted hsingle hchannel _ =>
      cases hsingle.symm.trans hqueue
      have hsame : s.driver = ({ s with
          queue := []
          worker := .serving backend (request.command reply) } :
            Protocol B).driver := by
        rw [driver, hreceiving]
        rfl
      rw [hsame]
      exact .serving hclient hadmitted rfl hchannel rfl

/-- The command that the thread serves is the request that is waited for. -/
theorem Follows.of_serving (hfollows : Follows s world) {backend : B}
    {command : Command} (hserving : s.worker = .serving backend command) :
    s.client = .dropped ∨ ∃ request reply, world = s.driver ∧
      s.client = .waiting request reply ∧ request.Admitted s.tables ∧
      s.queue = [] ∧ s.replies[reply]? = some .pending ∧
      command = request.command reply := by
  cases hfollows with
  | idle _ _ hresting => exact absurd hserving (hresting _ _)
  | queued _ _ _ _ hresting => exact absurd hserving (hresting _ _)
  | serving hclient hadmitted hqueue hchannel hworker =>
      cases hworker.symm.trans hserving
      exact .inr ⟨_, _, rfl, hclient, hadmitted, hqueue, hchannel, rfl⟩
  | learnt _ _ _ _ _ _ hsince =>
      rw [hserving] at hsince
      cases hsince
  | dropped hclient => exact .inl hclient

/-- A call of the backend decides what the driver will learn. -/
theorem exchanged_made (hfollows : Follows s world) {backend : B}
    {command : Command} {call : BackendCall} {reply : Nat}
    {outcome : BackendOutcome} {channel : ReplyChannel} {learnt : Response}
    {worker : Worker B} {left : RenderThread B}
    (hserving : s.worker = .serving backend command)
    (hasks : command.asks = some (call, reply))
    (hlearnt : response channel = some learnt)
    (hasked : RenderThread.ask call.serve ⟨.running, backend⟩ =
      (learnt, left)) (hsince : Worker.Since left worker) :
    Exchanged ⟨s, .workerServes call outcome, none,
      { s with replies := s.replies.set reply channel, worker }⟩ world := by
  apply Exchanged.quiet rfl
  rcases hfollows.of_serving hserving with hdropped |
    ⟨request, place, rfl, hclient, hadmitted, hqueue, hchannel, rfl⟩
  · exact .dropped hdropped
  · cases (request.asks_command place).symm.trans hasks
    have hplace := set_reply hchannel channel
    rw [driver, hserving]
    exact .learnt hclient hadmitted hqueue hplace hlearnt hasked hsince

theorem exchanged_shutDown (hfollows : Follows s world) {backend : B}
    (hserving : s.worker = .serving backend .shutdown) :
    Exchanged ⟨s, .workerShutsDown, none,
      { s with worker := .leaving backend }⟩ world := by
  apply Exchanged.quiet rfl
  rcases hfollows.of_serving hserving with hdropped |
    ⟨request, reply, -, -, -, -, -, hcommand⟩
  · exact .dropped hdropped
  · cases request <;> cases hcommand

theorem exchanged_closed (hfollows : Follows s world) {backend : B}
    (hleaving : s.worker = .leaving backend) :
    Exchanged ⟨s, .channelCloses, none,
      { s with
        queue := []
        replies := dropReplies s.queue s.replies
        worker := .ended (VulkanBackend.drop backend) }⟩ world := by
  have hresting : (Worker.ended (VulkanBackend.drop backend)).Resting := by
    simp [Worker.Resting]
  cases hfollows with
  | idle hclient _ _ =>
      have hcloses : VulkanDriver.act s.driver .channelCloses = (none,
          (⟨s.tables, .stopped, VulkanBackend.drop backend⟩, s.ids)) := by
        rw [driver, hleaving]
        rfl
      exact .silent hcloses (by simp) rfl (.idle hclient rfl hresting)
  | @queued request reply hclient hadmitted hsingle hchannel _ =>
      apply Exchanged.quiet rfl
      have hplace := dropReplies_command hchannel request
      rw [← hsingle] at hplace
      have hasked : s.worker.thread.ask request.call.serve =
          (.dropped, ⟨.stopped, VulkanBackend.drop backend⟩) := by
        rw [hleaving]
        rfl
      exact .learnt hclient hadmitted rfl hplace rfl hasked (.ended _)
  | serving _ _ _ _ hserving => cases hserving.symm.trans hleaving
  | @learnt request reply channel _ _ _ hclient hadmitted hempty hchannel
      hlearnt hasked hsince =>
      apply Exchanged.quiet rfl
      rw [hleaving] at hsince
      cases hsince
      have hplace : (dropReplies s.queue s.replies)[reply]? =
          some channel := by
        rw [hempty]
        exact hchannel
      exact .learnt hclient hadmitted rfl hplace hlearnt hasked
        (.closed backend)
  | dropped hclient => exact .quiet rfl (.dropped hclient)

theorem exchanged_step {action : Action} {answer : Option DriverReply}
    (hfollows : Follows s world) (hstep : Step s action answer next) :
    Exchanged ⟨s, action, answer, next⟩ world := by
  cases hstep with
  | refused hidle hrefused => exact exchanged_refused hfollows hidle hrefused
  | sent hidle hadmitted hopen => exact exchanged_sent hfollows hidle hadmitted
  | notSent hidle hadmitted hclosed =>
      exact exchanged_notSent hfollows hidle hadmitted hclosed
  | received hwaiting hchannel hlearnt =>
      exact exchanged_received hfollows hwaiting hchannel hlearnt
  | calledTables hidle hcall =>
      obtain ⟨rfl, hqueue, hworker⟩ := hfollows.of_idle hidle
      exact .call (VulkanDriver.call_of_tables s.driver.1 hcall) rfl
        (.idle hidle hqueue hworker)
  | droppedOpen hidle hopen => exact .quiet rfl (.dropped rfl)
  | droppedClosed hidle hclosed => exact .quiet rfl (.dropped rfl)
  | started hstarting => exact exchanged_started hfollows hstarting
  | failedToStart hstarting => exact exchanged_failedToStart hfollows hstarting
  | taken hreceiving hqueue => exact exchanged_taken hfollows hreceiving hqueue
  | served hserving hasks hserved =>
      exact exchanged_made hfollows hserving hasks rfl
        (RenderThread.ask_of_returned rfl hserved) (.receiving _)
  | panicked hserving hasks hserved =>
      exact exchanged_made hfollows hserving hasks rfl
        (RenderThread.ask_of_panicked rfl hserved) (.leaving _)
  | shutDown hserving => exact exchanged_shutDown hfollows hserving
  | closed hleaving => exact exchanged_closed hfollows hleaving

end Steps

end Protocol

end SherGraphics
