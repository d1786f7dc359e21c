/-
The driver that takes each request as one exchange leaves nothing out and adds
nothing.  What the callers see of an interleaving with the render thread is
what they see of a run of exchanges, on a thread that has started or failed to;
and every such run is what they see of some interleaving.
-/
import SherGraphics.RenderRefinement

namespace SherGraphics

namespace Protocol

variable {B : Type}

/-- Nothing is on its way, and the thread has started. -/
structure Settled (s : Protocol B) : Prop where
  client : s.client = .idle
  queue : s.queue = []
  started : ∀ backend, s.worker ≠ .starting backend
  resting : s.worker.Resting

variable [VulkanBackend B]

/-- Some steps of the two sides lead to a settled state in which the driver is
where an exchange has led it, and their callers see the same. -/
def Realizes (s : Protocol B)
    (e : Event (VulkanDriver B × IdSource) VulkanDriver.Action
      (Option DriverReply)) : Prop :=
  ∃ trace last, Execution Step s trace last ∧ Settled last ∧
    last.driver = e.after ∧ trace.filterMap endedBy = (exchangedBy e).toList

variable {s : Protocol B}

/-- One step answers the call. -/
theorem realizes_one {action : Action} {call : DriverCall}
    {reply : DriverReply} {last : Protocol B}
    (hstep : Step s action (some reply) last)
    (hends : endedBy ⟨s, action, some reply, last⟩ = some (call, reply))
    (hlast : Settled last)
    (hcall : GpuDriver.call s.driver call = (reply, last.driver)) :
    Realizes s (Machine.event VulkanDriver.act s.driver (.call call)) := by
  have hact : VulkanDriver.act s.driver (.call call) =
      (some reply, last.driver) := by
    rw [VulkanDriver.act, hcall]
  refine ⟨_, last, .one hstep, hlast, ?_, ?_⟩
  · rw [Machine.event, hact]
  · rw [Machine.event, hact, List.filterMap_cons, hends]
    rfl

/-- A request that is on its way is answered with what its reply channel
holds. -/
theorem realizes_request {request : Request} {trace : List (ProtocolEvent B)}
    {now : Protocol B} {reply : Nat} {channel : ReplyChannel}
    {learnt : Response} {after : RenderThread B}
    (hrun : Execution Step s trace now)
    (hquiet : trace.filterMap endedBy = [])
    (hwaiting : now.client = .waiting request reply)
    (hchannel : now.replies[reply]? = some channel)
    (hlearnt : response channel = some learnt)
    (hkept : now.tables = s.tables ∧ now.ids = s.ids ∧ now.queue = [])
    (hstarted : ∀ backend, now.worker ≠ .starting backend)
    (hresting : now.worker.Resting)
    (hadmitted : request.Admitted s.tables)
    (hasked : s.worker.thread.ask request.call.serve = (learnt, after))
    (hafter : now.worker.thread = after) :
    Realizes s (Machine.event VulkanDriver.act s.driver
      (.call request.toCall)) := by
  obtain ⟨htables, hids, hqueue⟩ := hkept
  have hcall := VulkanDriver.call_of_asked s.driver.1 hadmitted hasked s.ids
  have hact : VulkanDriver.act s.driver (.call request.toCall) =
      (some (request.reply (request.result learnt)),
        ⟨request.settle s.tables learnt, after⟩, s.ids) := by
    change (some (GpuDriver.call (s.driver.1, s.ids) request.toCall).1,
      (GpuDriver.call (s.driver.1, s.ids) request.toCall).2) = _
    rw [hcall]
    rfl
  have hreceived := Step.received hwaiting hchannel hlearnt
  refine ⟨_, _, .snoc hrun hreceived, ⟨rfl, hqueue, hstarted, hresting⟩, ?_, ?_⟩
  · rw [Machine.event, hact, driver, htables, hids, hafter]
  · rw [Machine.event, hact, List.filterMap_concat, hquiet, endedBy, hwaiting]
    rfl

/-- The thread takes the request, and its call of the backend decides what the
driver learns. -/
theorem realizes_made (hsettled : Settled s) {request : Request}
    (hadmitted : request.Admitted s.tables) {backend : B} {worker : Worker B}
    {outcome : BackendOutcome} {channel : ReplyChannel} {learnt : Response}
    (hreceiving : s.worker = .receiving backend)
    (hmakes : ∀ (now : Protocol B) reply,
      now.worker = .serving backend (request.command reply) →
        Step now (.workerServes request.call outcome) none
          { now with replies := now.replies.set reply channel, worker })
    (hlearnt : response channel = some learnt)
    (hasked : RenderThread.ask request.call.serve ⟨.running, backend⟩ =
      (learnt, worker.thread))
    (hstarted : ∀ backend, worker ≠ .starting backend)
    (hresting : worker.Resting) :
    Realizes s (Machine.event VulkanDriver.act s.driver
      (.call request.toCall)) := by
  have hlistens : s.worker.Listens := by
    rw [hreceiving]
    trivial
  have hthread : s.worker.thread = ⟨.running, backend⟩ := by
    rw [hreceiving]
    rfl
  have hsent := Step.sent hsettled.client hadmitted hlistens
  let waiting : Protocol B :=
    { s with
      client := .waiting request s.replies.length
      queue := s.queue ++ [request.command s.replies.length]
      replies := s.replies ++ [.pending] }
  have hqueue : waiting.queue = request.command s.replies.length :: [] := by
    simp [waiting, hsettled.queue]
  have htaken : Step waiting .workerReceives none _ :=
    .taken hreceiving hqueue
  have hmade := hmakes { waiting with
    queue := []
    worker := .serving backend (request.command s.replies.length) } _ rfl
  have hrun := ((Execution.one hsent).snoc htaken).snoc hmade
  have hpending : (s.replies ++ [.pending])[s.replies.length]? =
      some ReplyChannel.pending := List.getElem?_concat_length
  rw [← hthread] at hasked
  exact realizes_request hrun rfl rfl (set_reply hpending channel) hlearnt
    ⟨rfl, rfl, rfl⟩ hstarted hresting hadmitted hasked rfl

/-- The thread serves the request, or panics over it. -/
theorem realizes_served (hsettled : Settled s) {request : Request}
    (hadmitted : request.Admitted s.tables) {backend : B}
    (hreceiving : s.worker = .receiving backend) :
    Realizes s (Machine.event VulkanDriver.act s.driver
      (.call request.toCall)) := by
  have hasks := fun reply => request.asks_command reply
  cases hserved : request.call.serve backend with
  | mk outcome after =>
      cases outcome with
      | returned result =>
          have hasked : RenderThread.ask request.call.serve
              ⟨.running, backend⟩ = (.answered result, ⟨.running, after⟩) :=
            RenderThread.ask_of_returned rfl hserved
          exact realizes_made hsettled hadmitted hreceiving
            (fun now reply hserving => .served hserving (hasks reply) hserved)
            rfl hasked (by simp) (by simp [Worker.Resting])
      | panicked =>
          have hasked : RenderThread.ask request.call.serve
              ⟨.running, backend⟩ = (.dropped, ⟨.stopping, after⟩) :=
            RenderThread.ask_of_panicked rfl hserved
          exact realizes_made hsettled hadmitted hreceiving
            (fun now reply hserving => .panicked hserving (hasks reply) hserved)
            rfl hasked (by simp) (by simp [Worker.Resting])

/-- A thread on its way out drops the request. -/
theorem realizes_dropped (hsettled : Settled s) {request : Request}
    (hadmitted : request.Admitted s.tables) {backend : B}
    (hleaving : s.worker = .leaving backend) :
    Realizes s (Machine.event VulkanDriver.act s.driver
      (.call request.toCall)) := by
  have hlistens : s.worker.Listens := by
    rw [hleaving]
    trivial
  have hsent := Step.sent hsettled.client hadmitted hlistens
  have hpending : (s.replies ++ [.pending])[s.replies.length]? =
      some ReplyChannel.pending := List.getElem?_concat_length
  let waiting : Protocol B :=
    { s with
      client := .waiting request s.replies.length
      queue := s.queue ++ [request.command s.replies.length]
      replies := s.replies ++ [.pending] }
  have hqueue : waiting.queue = [request.command s.replies.length] := by
    simp [waiting, hsettled.queue]
  have hcloses : Step waiting .channelCloses none _ := .closed hleaving
  have hdropped := dropReplies_command hpending request
  rw [← hqueue] at hdropped
  have hrun := (Execution.one hsent).snoc hcloses
  have hasked : s.worker.thread.ask request.call.serve =
      (.dropped, ⟨.stopped, VulkanBackend.drop backend⟩) := by
    rw [hleaving]
    exact RenderThread.ask_of_stopping rfl
  exact realizes_request hrun rfl rfl hdropped rfl ⟨rfl, rfl, rfl⟩ (by simp)
    (by simp [Worker.Resting]) hadmitted hasked rfl

theorem realizes_sent (hsettled : Settled s) (request : Request) :
    Realizes s (Machine.event VulkanDriver.act s.driver
      (.call request.toCall)) := by
  by_cases hadmitted : request.Admitted s.tables
  · cases hworker : s.worker with
    | starting backend => exact absurd hworker (hsettled.started backend)
    | serving backend command =>
        exact absurd hworker (hsettled.resting backend command)
    | receiving backend => exact realizes_served hsettled hadmitted hworker
    | leaving backend => exact realizes_dropped hsettled hadmitted hworker
    | ended backend =>
        have hclosed : ¬ s.worker.Listens := by
          rw [hworker]
          exact id
        have hasked : s.worker.thread.ask request.call.serve =
            (.notSent, s.worker.thread) :=
          RenderThread.ask_of_stopped (Worker.thread_stopped hclosed)
        have hcall := VulkanDriver.call_of_asked s.driver.1 hadmitted hasked
          s.ids
        rw [Request.settle_notSent] at hcall
        exact realizes_one (.notSent hsettled.client hadmitted hclosed) rfl
          hsettled hcall
  · exact realizes_one (.refused hsettled.client hadmitted) rfl hsettled
      (VulkanDriver.call_of_refused s.driver.1 hadmitted s.ids)

theorem realizes_tables (hsettled : Settled s) {call : DriverCall}
    {reply : DriverReply} {tables : VulkanTables} {ids : IdSource}
    (hcall : VulkanTables.call (s.tables, s.ids) call =
      some (reply, tables, ids)) :
    Realizes s (Machine.event VulkanDriver.act s.driver (.call call)) :=
  realizes_one (.calledTables hsettled.client hcall) rfl
    ⟨hsettled.client, hsettled.queue, hsettled.started, hsettled.resting⟩
    (VulkanDriver.call_of_tables s.driver.1 hcall)

/-- A thread on its way out closes its channel; any other keeps it as it is. -/
theorem realizes_closed (hsettled : Settled s) :
    Realizes s (Machine.event VulkanDriver.act s.driver .channelCloses) := by
  cases hworker : s.worker with
  | leaving backend =>
      have hclosed : VulkanDriver.act s.driver .channelCloses =
          (none, ⟨s.tables, .stopped, VulkanBackend.drop backend⟩, s.ids) := by
        rw [driver, hworker]
        rfl
      refine ⟨_, _, .one (.closed hworker),
        ⟨hsettled.client, rfl, by simp, by simp [Worker.Resting]⟩, ?_, ?_⟩
      · rw [Machine.event, hclosed]
        rfl
      · rw [Machine.event, hclosed]
        rfl
  | _ =>
      have hkept : VulkanDriver.act s.driver .channelCloses =
          (none, s.driver) := by
        rw [driver, hworker]
        rfl
      refine ⟨[], s, .nil, hsettled, ?_, ?_⟩
      · rw [Machine.event, hkept]
      · rw [Machine.event, hkept]
        rfl

theorem realizes_action (hsettled : Settled s) {action : VulkanDriver.Action}
    (hstarted : action ≠ .threadStops) :
    Realizes s (Machine.event VulkanDriver.act s.driver action) := by
  cases action with
  | threadStops => exact absurd rfl hstarted
  | channelCloses => exact realizes_closed hsettled
  | call call =>
      cases call with
      | submit device workload ops =>
          exact realizes_sent hsettled (.submit device workload ops)
      | resetDevice device => exact realizes_sent hsettled (.reset device)
      | _ => exact realizes_tables hsettled rfl

/-- Some interleaving does what a run of exchanges does. -/
theorem realizes_run (hsettled : Settled s)
    {actions : List VulkanDriver.Action} (hstarted : .threadStops ∉ actions) :
    ∃ trace last, Execution Step s trace last ∧ last.client = .idle ∧
      last.driver = Machine.run VulkanDriver.act s.driver actions ∧
      trace.filterMap endedBy =
        (Machine.trace VulkanDriver.act s.driver actions).filterMap
          exchangedBy := by
  induction actions generalizing s with
  | nil => exact ⟨[], s, .nil, hsettled.client, rfl, rfl⟩
  | cons action rest ih =>
      rw [List.mem_cons, not_or] at hstarted
      obtain ⟨first, middle, hfirst, hmiddle, hreached, hseen⟩ :=
        realizes_action hsettled (Ne.symm hstarted.1)
      obtain ⟨later, last, hlater, hidle, hlast, hsees⟩ :=
        ih hmiddle hstarted.2
      have hafter : middle.driver =
          (VulkanDriver.act s.driver action).2 := hreached
      rw [hafter] at hlast hsees
      refine ⟨first ++ later, last, hfirst.append hlater, hidle, hlast, ?_⟩
      rw [List.filterMap_append, hseen, hsees, Machine.trace]
      cases hends : exchangedBy
        (Machine.event VulkanDriver.act s.driver action) with
      | none => rw [List.filterMap_cons_none hends]; rfl
      | some seen => rw [List.filterMap_cons_some hends]; rfl

/-! ### A thread that does not start -/

/-- A driver whose thread has failed to start. -/
def failed (tables : VulkanTables) (ids : IdSource) (backend : B) :
    Protocol B :=
  { start tables ids backend with worker := .leaving backend }

/-- The step does not need the thread to have started. -/
theorem starting_step {next : Protocol B} {action : Action}
    {answer : Option DriverReply} {backend : B}
    (hstep : Step s action answer next)
    (hstarting : next.worker = .starting backend) :
    s.worker = .starting backend ∧ action ≠ .workerFailsToStart ∧
      Step { s with worker := .leaving backend } action answer
        { next with worker := .leaving backend } := by
  cases hstep with
  | refused hidle hrefused =>
      exact ⟨hstarting, by simp, .refused hidle hrefused⟩
  | sent hidle hadmitted hopen =>
      exact ⟨hstarting, by simp, .sent hidle hadmitted trivial⟩
  | notSent hidle hadmitted hclosed =>
      rw [hstarting] at hclosed
      exact absurd trivial hclosed
  | received hwaiting hchannel hlearnt =>
      exact ⟨hstarting, by simp, .received hwaiting hchannel hlearnt⟩
  | calledTables hidle hcall =>
      exact ⟨hstarting, by simp, .calledTables hidle hcall⟩
  | droppedOpen hidle hopen =>
      exact ⟨hstarting, by simp, .droppedOpen hidle trivial⟩
  | droppedClosed hidle hclosed =>
      rw [hstarting] at hclosed
      exact absurd trivial hclosed
  | _ => cases hstarting

/-- What is done before the thread starts is done as well after it has failed
to. -/
theorem starting_run {tables : VulkanTables} {ids : IdSource}
    {backend first : B} {trace : List (ProtocolEvent B)} {last : Protocol B}
    (hrun : Execution Step (start tables ids first) trace last)
    (hstarting : last.worker = .starting backend) :
    ∃ other, Execution Step (failed tables ids first) other
        { last with worker := .leaving backend } ∧
      (∀ e ∈ other, e.action ≠ .workerFailsToStart) ∧
      other.filterMap endedBy = trace.filterMap endedBy := by
  induction hrun with
  | nil =>
      cases hstarting
      exact ⟨[], .nil, by simp, rfl⟩
  | @snoc past now next action answer hpast hstep ih =>
      obtain ⟨hnow, hstarts, hsame⟩ := starting_step hstep hstarting
      obtain ⟨other, hother, hall, hseen⟩ := ih hnow
      refine ⟨_, .snoc hother hsame, ?_, ?_⟩
      · exact List.forall_mem_append.mpr ⟨hall, by simpa using hstarts⟩
      · rw [List.filterMap_concat, List.filterMap_concat, hseen]
        rfl

/-- A thread that fails to start may as well have failed at once. -/
theorem fails_at_once {tables : VulkanTables} {ids : IdSource} {backend : B}
    {trace : List (ProtocolEvent B)} {last : Protocol B}
    (hrun : Execution Step (start tables ids backend) trace last) :
    ∃ first other, (first = start tables ids backend ∨
        first = failed tables ids backend) ∧
      Execution Step first other last ∧
      (∀ e ∈ other, e.action ≠ .workerFailsToStart) ∧
      other.filterMap endedBy = trace.filterMap endedBy := by
  induction hrun with
  | nil => exact ⟨_, [], .inl rfl, .nil, by simp, rfl⟩
  | @snoc past now next action answer hpast hstep ih =>
      by_cases hfails : action = .workerFailsToStart
      · subst hfails
        cases hstep with
        | failedToStart hstarting =>
            obtain ⟨other, hother, hall, hseen⟩ := starting_run hpast hstarting
            refine ⟨_, other, .inr rfl, hother, hall, ?_⟩
            rw [List.filterMap_concat, hseen]
            exact (List.append_nil _).symm
      · obtain ⟨first, other, hfirst, hother, hall, hseen⟩ := ih
        refine ⟨first, _, hfirst, .snoc hother hstep, ?_, ?_⟩
        · exact List.forall_mem_append.mpr ⟨hall, by simpa using hfails⟩
        · rw [List.filterMap_concat, List.filterMap_concat, hseen]

/-- A thread that does not fail to start stops in no exchange. -/
theorem exchanges_of_started {first last : Protocol B}
    {trace : List (ProtocolEvent B)} (hfirst : Follows first first.driver)
    (hrun : Execution Step first trace last)
    (hstarts : ∀ e ∈ trace, e.action ≠ .workerFailsToStart)
    (hidle : last.client = .idle) :
    ∃ actions, .threadStops ∉ actions ∧
      last.driver = Machine.run VulkanDriver.act first.driver actions ∧
      (Machine.trace VulkanDriver.act first.driver actions).filterMap
        exchangedBy = trace.filterMap endedBy := by
  obtain ⟨actions, hnever, hfollows, hseen⟩ := Execution.followed
    (fun action => action ≠ .threadStops) Follows endedBy exchangedBy hfirst
    (fun now world action answer next hnow htaken =>
      (exchanged_step hnow htaken.1).imp fun actions hmatches =>
        ⟨fun other hmem hstops => htaken.2 (hmatches.1 other hmem hstops),
          hmatches.2⟩)
    (hrun.restrict (fun action => action ≠ .workerFailsToStart) hstarts)
  exact ⟨actions, fun hmem => hnever _ hmem rfl, (hfollows.of_idle hidle).1.symm,
    hseen⟩

/-- The callers of `VulkanDriver` cannot tell that it has a render thread.  What
they see of the interleavings, call by call and reply by reply, and where the
driver is then, is exactly what the runs of exchanges bring on a thread that
has started or has failed to. -/
theorem interleavings_are_exchanges (tables : VulkanTables) (ids : IdSource)
    (backend : B) (calls : List (DriverCall × DriverReply))
    (world : VulkanDriver B × IdSource) :
    (∃ trace last, Execution Step (start tables ids backend) trace last ∧
        last.client = .idle ∧ last.driver = world ∧
        trace.filterMap endedBy = calls) ↔
      ∃ status, (status = .running ∨ status = .stopping) ∧
        ∃ actions, .threadStops ∉ actions ∧
          Machine.run VulkanDriver.act (⟨tables, status, backend⟩, ids)
            actions = world ∧
          (Machine.trace VulkanDriver.act (⟨tables, status, backend⟩, ids)
            actions).filterMap exchangedBy = calls := by
  constructor
  · rintro ⟨trace, last, hrun, hidle, rfl, rfl⟩
    obtain ⟨first, other, hfirst, hother, hstarts, hseen⟩ := fails_at_once hrun
    rw [← hseen]
    rcases hfirst with rfl | rfl
    · obtain ⟨actions, hnever, hlast, hsees⟩ := exchanges_of_started
        (.idle rfl rfl (by simp [start, Worker.Resting])) hother hstarts hidle
      exact ⟨.running, .inl rfl, actions, hnever, hlast.symm, hsees⟩
    · obtain ⟨actions, hnever, hlast, hsees⟩ := exchanges_of_started
        (.idle rfl rfl (by simp [failed, Worker.Resting])) hother hstarts hidle
      exact ⟨.stopping, .inr rfl, actions, hnever, hlast.symm, hsees⟩
  · rintro ⟨status, hstatus, actions, hnever, rfl, rfl⟩
    rcases hstatus with rfl | rfl
    · have hstarted : Step (start tables ids backend) .workerStarts none _ :=
        .started rfl
      have hsettled : Settled { start tables ids backend with
          worker := .receiving backend } :=
        ⟨rfl, rfl, by simp, by simp [Worker.Resting]⟩
      obtain ⟨trace, last, hrun, hidle, hlast, hseen⟩ :=
        realizes_run hsettled hnever
      exact ⟨_, last, (Execution.one hstarted).append hrun, hidle, hlast, hseen⟩
    · have hfailed : Step (start tables ids backend) .workerFailsToStart none _ :=
        .failedToStart rfl
      have hsettled : Settled (failed tables ids backend) :=
        ⟨rfl, rfl, by simp [failed], by simp [failed, Worker.Resting]⟩
      obtain ⟨trace, last, hrun, hidle, hlast, hseen⟩ :=
        realizes_run hsettled hnever
      exact ⟨_, last, (Execution.one hfailed).append hrun, hidle, hlast, hseen⟩

end Protocol

end SherGraphics
