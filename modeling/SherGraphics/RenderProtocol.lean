/-
The protocol between `VulkanDriver` and its render thread, one step of either
side at a time.  Commands travel through an unbounded queue, each with a reply
channel of its own; the thread may fail to start, and a panic in the backend
ends it while commands may still be on their way.
-/
import SherGraphics.Execution
import SherGraphics.VulkanRecovery

namespace SherGraphics

/-- A call of the driver that needs the render thread. -/
inductive Request where
  | submit (device : ObjectId) (workload : WorkloadClass)
      (ops : List DriverOp)
  | reset (device : ObjectId)
deriving DecidableEq, Repr

/-- A command, with the place of its reply channel among all those made. -/
inductive Command where
  | submit (ops : List DriverOp) (reply : Nat)
  | reset (reply : Nat)
  | shutdown
deriving DecidableEq, Repr

/-- A reply channel, as its receiver finds it. -/
inductive ReplyChannel where
  | pending
  | sent (result : BackendResult Unit)
  | dropped
deriving DecidableEq

/-- What the driver is doing. -/
inductive Client where
  | idle
  | waiting (request : Request) (reply : Nat)
  | dropped
deriving DecidableEq, Repr

/-- Where the render thread is in `run_worker`.  A leaving thread still holds
its end of the channel and its backend, which are dropped with its locals. -/
inductive Worker (B : Type) where
  | starting (backend : B)
  | receiving (backend : B)
  | serving (backend : B) (command : Command)
  | leaving (backend : B)
  | ended (backend : B)

structure Protocol (B : Type) where
  tables : VulkanTables
  ids : IdSource
  client : Client
  queue : List Command
  replies : List ReplyChannel
  worker : Worker B

namespace BackendCall

variable {B : Type} [VulkanBackend B]

/-- An observed backend writes the call down. -/
theorem serve_seen {call : BackendCall} {backend after : Observed B}
    {outcome : BackendOutcome}
    (hserved : call.serve backend = (outcome, after)) :
    after.seen = backend.seen ++ [call] := by
  cases call with
  | execute ops => exact (congrArg (fun served => served.2.seen) hserved).symm
  | reset => exact (congrArg (fun served => served.2.seen) hserved).symm

end BackendCall

namespace Command

/-- The backend call that the command asks for, and its reply channel. -/
def asks : Command → Option (BackendCall × Nat)
  | .submit ops reply => some (.execute ops, reply)
  | .reset reply => some (.reset, reply)
  | .shutdown => none

/-- The command carries a request. -/
def isRequest (command : Command) : Bool := command.asks.isSome

end Command

namespace Request

/-- The backend call that serves the request. -/
def call : Request → BackendCall
  | .submit _ _ ops => .execute ops
  | .reset _ => .reset

/-- The command that carries the request. -/
def command (reply : Nat) : Request → Command
  | .submit _ _ ops => .submit ops reply
  | .reset _ => .reset reply

theorem asks_command (request : Request) (reply : Nat) :
    (request.command reply).asks = some (request.call, reply) := by
  cases request <;> rfl

/-- The request is on a known device, and a submit on one without a fault. -/
def Admitted (tables : VulkanTables) : Request → Prop
  | .submit device _ _ =>
      tables.Knows device ∧ tables.faults.get device = none
  | .reset device => tables.Knows device

/-- What a request that is not admitted fails with. -/
def refusal (tables : VulkanTables) : Request → Error
  | .submit device _ _ =>
      match tables.devices.find? (fun info => info.id = device),
          tables.faults.get device with
      | some _, some fault => .device ("device faulted at " ++
          SoftwareGpuDriver.hex fault.address ++ ": " ++ fault.description)
      | _, _ => .device "unknown GPU device"
  | .reset _ => .device "unknown GPU device"

/-- The driver's reply to the request. -/
def reply (result : Result Unit) : Request → DriverReply
  | .submit _ _ _ => .outcome (.returned result)
  | .reset _ => .done result

/-- What the caller gets for a response. -/
def result (response : Response) : Request → Result Unit
  | .submit _ _ _ => response.submitResult
  | .reset _ => response.resetResult

/-- What the driver's tables become on a response. -/
def settle (tables : VulkanTables) (response : Response) :
    Request → VulkanTables
  | .submit device _ _ => tables.afterSubmit device response
  | .reset device => tables.afterReset device response

/-- Only an answer of the backend makes a request succeed. -/
theorem reply_ok_iff (request : Request) (response : Response) :
    request.reply (request.result response) = request.reply (.ok ()) ↔
      response = .answered (.ok ()) := by
  rcases response with (error | value) | _ | _
  · cases request <;>
      simp [reply, result, Response.submitResult, Response.resetResult]
  · exact iff_of_true (by cases request <;> rfl) rfl
  · cases request <;>
      simp [reply, result, Response.submitResult, Response.resetResult]
  · cases request <;>
      simp [reply, result, Response.submitResult, Response.resetResult]

end Request

instance (tables : VulkanTables) (device : ObjectId) :
    Decidable (tables.Knows device) :=
  decidable_of_iff _ Option.isSome_iff_exists

instance (tables : VulkanTables) (request : Request) :
    Decidable (request.Admitted tables) :=
  match request with
  | .submit device _ _ => inferInstanceAs (Decidable (tables.Knows device ∧
      tables.faults.get device = none))
  | .reset device => inferInstanceAs (Decidable (tables.Knows device))

/-- The calls that the driver serves from its own tables. -/
def VulkanTables.call (world : VulkanTables × IdSource) :
    DriverCall → Option (DriverReply × (VulkanTables × IdSource))
  | .initializeDevice device =>
      let (result, tables) := initializeDevice device world.1
      some (.done result, tables, world.2)
  | .allocateVram device size memoryClass =>
      let (result, world) := allocateVram device size memoryClass world
      some (.allocation result, world)
  | .freeVram allocation =>
      let (result, tables) := freeVram allocation world.1
      some (.done result, tables, world.2)
  | .mapDma allocation =>
      let (result, tables) := mapDma allocation world.1
      some (.mapping result, tables, world.2)
  | .markFaulted device description =>
      some (.marked, recordFault device description world.1, world.2)
  | .submit _ _ _ => none
  | .resetDevice _ => none

namespace Worker

variable {B : Type}

/-- The thread has not ended and is not about to. -/
def Alive : Worker B → Prop
  | starting _ => True
  | receiving _ => True
  | serving _ _ => True
  | leaving _ => False
  | ended _ => False

/-- The thread still holds its end of the channel. -/
def Listens : Worker B → Prop
  | ended _ => False
  | _ => True

theorem Alive.listens {worker : Worker B} (halive : worker.Alive) :
    worker.Listens := by
  cases worker with
  | ended _ => exact halive
  | _ => trivial

/-- The thread is not serving a command. -/
def Resting (worker : Worker B) : Prop :=
  ∀ backend command, worker ≠ .serving backend command

/-- The backend behind the thread; that of an ended one was dropped. -/
def backend : Worker B → B
  | starting backend => backend
  | receiving backend => backend
  | serving backend _ => backend
  | leaving backend => backend
  | ended backend => backend

end Worker

namespace Protocol

variable {B : Type}

/-- A driver whose thread has just been spawned. -/
def start (tables : VulkanTables) (ids : IdSource) (backend : B) :
    Protocol B where
  tables := tables
  ids := ids
  client := .idle
  queue := []
  replies := []
  worker := .starting backend

/-- What one side does. -/
inductive Action where
  | clientCalls (request : Request)
  | clientReceives
  | clientCallsTables (call : DriverCall)
  | clientDrops
  | workerStarts
  | workerFailsToStart
  | workerReceives
  | workerServes (call : BackendCall) (outcome : BackendOutcome)
  | workerShutsDown
  | channelCloses

/-- Drop the senders of the commands that are left in the queue. -/
def dropReplies (queue : List Command) (replies : List ReplyChannel) :
    List ReplyChannel :=
  queue.foldl (fun replies command =>
    match command.asks with
    | some (_, reply) => replies.set reply .dropped
    | none => replies) replies

theorem set_reply {replies : List ReplyChannel} {reply : Nat}
    {before : ReplyChannel} (hbefore : replies[reply]? = some before)
    (channel : ReplyChannel) :
    (replies.set reply channel)[reply]? = some channel :=
  List.getElem?_set_self (List.getElem?_eq_some_iff.mp hbefore).1

theorem dropReplies_command {replies : List ReplyChannel} {reply : Nat}
    {before : ReplyChannel} (hbefore : replies[reply]? = some before)
    (request : Request) :
    (dropReplies [request.command reply] replies)[reply]? =
      some .dropped := by
  rw [dropReplies, List.foldl_cons, List.foldl_nil, request.asks_command]
  exact set_reply hbefore .dropped

/-- What the receiver of a reply channel learns, once it learns something. -/
def response : ReplyChannel → Option Response
  | .pending => none
  | .sent result => some (.answered result)
  | .dropped => some .dropped

/-- The steps of the two sides.  A step that ends a call of the driver carries
its reply. -/
inductive Step [VulkanBackend B] :
    Protocol B → Action → Option DriverReply → Protocol B → Prop
  | refused {s : Protocol B} {request : Request}
      (hidle : s.client = .idle) (hrefused : ¬ request.Admitted s.tables) :
      Step s (.clientCalls request)
        (some (request.reply (.error (request.refusal s.tables)))) s
  | sent {s : Protocol B} {request : Request}
      (hidle : s.client = .idle) (hadmitted : request.Admitted s.tables)
      (hopen : s.worker.Listens) :
      Step s (.clientCalls request) none
        { s with
          client := .waiting request s.replies.length
          queue := s.queue ++ [request.command s.replies.length]
          replies := s.replies ++ [.pending] }
  | notSent {s : Protocol B} {request : Request}
      (hidle : s.client = .idle) (hadmitted : request.Admitted s.tables)
      (hclosed : ¬ s.worker.Listens) :
      Step s (.clientCalls request)
        (some (request.reply (request.result .notSent))) s
  | received {s : Protocol B} {request : Request} {reply : Nat}
      {channel : ReplyChannel} {learnt : Response}
      (hwaiting : s.client = .waiting request reply)
      (hchannel : s.replies[reply]? = some channel)
      (hlearnt : response channel = some learnt) :
      Step s .clientReceives (some (request.reply (request.result learnt)))
        { s with
          client := .idle
          tables := request.settle s.tables learnt }
  | calledTables {s : Protocol B} {call : DriverCall} {reply : DriverReply}
      {tables : VulkanTables} {ids : IdSource}
      (hidle : s.client = .idle)
      (hcall : VulkanTables.call (s.tables, s.ids) call =
        some (reply, tables, ids)) :
      Step s (.clientCallsTables call) (some reply) { s with tables, ids }
  | droppedOpen {s : Protocol B} (hidle : s.client = .idle)
      (hopen : s.worker.Listens) :
      Step s .clientDrops none
        { s with client := .dropped, queue := s.queue ++ [.shutdown] }
  | droppedClosed {s : Protocol B} (hidle : s.client = .idle)
      (hclosed : ¬ s.worker.Listens) :
      Step s .clientDrops none { s with client := .dropped }
  | started {s : Protocol B} {backend : B}
      (hstarting : s.worker = .starting backend) :
      Step s .workerStarts none { s with worker := .receiving backend }
  | failedToStart {s : Protocol B} {backend : B}
      (hstarting : s.worker = .starting backend) :
      Step s .workerFailsToStart none { s with worker := .leaving backend }
  | taken {s : Protocol B} {backend : B} {command : Command}
      {rest : List Command} (hreceiving : s.worker = .receiving backend)
      (hqueue : s.queue = command :: rest) :
      Step s .workerReceives none
        { s with queue := rest, worker := .serving backend command }
  | served {s : Protocol B} {backend after : B} {command : Command}
      {call : BackendCall} {reply : Nat} {result : BackendResult Unit}
      (hserving : s.worker = .serving backend command)
      (hasks : command.asks = some (call, reply))
      (hserved : call.serve backend = (.returned result, after)) :
      Step s (.workerServes call (.returned result)) none
        { s with
          replies := s.replies.set reply (.sent result)
          worker := .receiving after }
  | panicked {s : Protocol B} {backend after : B} {command : Command}
      {call : BackendCall} {reply : Nat}
      (hserving : s.worker = .serving backend command)
      (hasks : command.asks = some (call, reply))
      (hserved : call.serve backend = (.panicked, after)) :
      Step s (.workerServes call .panicked) none
        { s with
          replies := s.replies.set reply .dropped
          worker := .leaving after }
  | shutDown {s : Protocol B} {backend : B}
      (hserving : s.worker = .serving backend .shutdown) :
      Step s .workerShutsDown none { s with worker := .leaving backend }
  | closed {s : Protocol B} {backend : B}
      (hleaving : s.worker = .leaving backend) :
      Step s .channelCloses none
        { s with
          queue := []
          replies := dropReplies s.queue s.replies
          worker := .ended (VulkanBackend.drop backend) }

end Protocol

end SherGraphics
