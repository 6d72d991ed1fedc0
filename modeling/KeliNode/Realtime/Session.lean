import KeliNode.Realtime.Message
import KeliNode.Runner.Events

/-!
# A realtime worker and its sessions (`runner.rs`)

| here | there |
|---|---|
| `runtimeLoopEventForTask` | `runner.rs:1645` |
| `Worker`, `Worker.step` | `run_realtime_runtime_worker` (`runner.rs:1537`) |
| `Session`, `SessionPhase` | `serve_realtime_runtime_transport` (`:1551`) and `send_realtime_runtime_event` (`:1587`) between two awaits |
| `transcript` | what these two say on a connection, message by message |

A worker connects, serves the connection until it breaks and connects again.  It shares nothing with the runtime
loop but the channel the loop takes events from and the reply channel each event carries, so a step of it needs
no more than a `ChannelView`.
-/

namespace KeliNode

open Lib

/-- The event a task is turned into, with the topic and the message of its first receipt. -/
structure RuntimeEventRequest where
  kind : RuntimeLoopEventKind
  topic : Text
  queuedMessage : Text

def runtimeLoopEventForTask : RealtimeRuntimeTask → Option RuntimeEventRequest
  | .configCheck | .forceReload => some { kind := .reload, topic := "config", queuedMessage := "reload queued" }
  | .userSync => some { kind := .refreshUsers, topic := "users", queuedMessage := "user refresh queued" }
  | .ignore | .pong _ | .error _ | .helloAck => none

/-! ## Turns -/

/-- A message of the panel: when it was read and reported on, the reply channel made for it, and what became of
its event. -/
structure SessionTurn where
  message : RealtimeMessage
  taskTs : Int64
  receivedTs : Int64 := 0
  reportedTs : Int64 := 0
  channel : Option Nat := none
  delivery : EventDelivery := .dropped

namespace SessionTurn

variable (turn : SessionTurn)

def task : RealtimeRuntimeTask := realtimeRuntimeTask turn.message turn.taskTs

def request : Option RuntimeEventRequest := runtimeLoopEventForTask turn.task

/-- The receipt before the event is sent to the loop. -/
def received (request : RuntimeEventRequest) : RealtimeMessage :=
  buildRealtimeReceipt request.topic turn.message "received" request.queuedMessage turn.receivedTs

/-- The receipt after it. -/
def reported (request : RuntimeEventRequest) : RealtimeMessage :=
  buildRealtimeReceipt request.topic turn.message turn.delivery.receipt.1 turn.delivery.receipt.2 turn.reportedTs

/-- All that is sent on account of a message. -/
def answers : List RealtimeMessage :=
  match turn.task with
  | .pong pong => [pong]
  | _ => turn.request.toList.flatMap fun request => [turn.received request, turn.reported request]

end SessionTurn

/-- A whole session: the ping, then what each message is answered with. -/
def transcript (options : RealtimeOptions) (greetingTs : Int64) (turns : List SessionTurn) : List RealtimeMessage :=
  .ping options greetingTs none :: turns.flatMap SessionTurn.answers

/-! ## Sessions -/

/-- The await a session stands at. -/
inductive SessionPhase where
  | greeting
  | receiving
  | ponging (turn : SessionTurn) (pong : RealtimeMessage)
  | announcing (turn : SessionTurn) (request : RuntimeEventRequest)
  | pushing (turn : SessionTurn) (request : RuntimeEventRequest)
  | waiting (turn : SessionTurn) (request : RuntimeEventRequest) (channel : Nat)
  | reporting (turn : SessionTurn) (request : RuntimeEventRequest)

/-- The message that is being answered. -/
def SessionPhase.pending : SessionPhase → Option SessionTurn
  | .greeting | .receiving => none
  | .ponging turn _ | .announcing turn _ | .pushing turn _ | .waiting turn _ _ | .reporting turn _ => some turn

/-- A session: the messages that were answered, and all that was sent. -/
structure Session where
  greetingTs : Int64 := 0
  turns : List SessionTurn := []
  sent : List RealtimeMessage := []
  phase : SessionPhase := .greeting

/-- What a worker sees of the loop's channel: the number a new reply channel gets, whether the receiver is gone,
and what a reply channel holds. -/
structure ChannelView where
  next : Nat
  closed : Bool
  answer : Nat → Option EventDelivery

namespace Session

variable (session : Session)

/-- `transport.recv().await` gives a message. -/
def receive (message : RealtimeMessage) (ts : Int64) : Option Session :=
  match session.phase with
  | .receiving =>
    let turn : SessionTurn := { message, taskTs := ts }
    match turn.task with
    | .pong pong => some { session with phase := .ponging turn pong }
    | _ => match turn.request with
      | none => some { session with turns := session.turns ++ [turn] }
      | some request => some { session with phase := .announcing turn request }
  | _ => none

/-- `transport.send(..).await` goes through. -/
def send (options : RealtimeOptions) (ts : Int64) : Option Session :=
  match session.phase with
  | .greeting =>
    some { session with greetingTs := ts, sent := session.sent ++ [.ping options ts none], phase := .receiving }
  | .ponging turn pong =>
    some { session with turns := session.turns ++ [turn], sent := session.sent ++ [pong], phase := .receiving }
  | .announcing turn request =>
    let turn := { turn with receivedTs := ts }
    some { session with sent := session.sent ++ [turn.received request], phase := .pushing turn request }
  | .reporting turn request =>
    let turn := { turn with reportedTs := ts }
    some { session with
      turns := session.turns ++ [turn], sent := session.sent ++ [turn.reported request], phase := .receiving }
  | _ => none

/-- `sender.send(RuntimeLoopEvent::with_reply(..))`, which does not wait. -/
def push (view : ChannelView) : Option (Session × Option RuntimeLoopEvent) :=
  match session.phase with
  | .pushing turn request =>
    if view.closed then some ({ session with phase := .reporting { turn with delivery := .closed } request }, none)
    else
      some ({ session with phase := .waiting { turn with channel := some view.next } request view.next },
        some { kind := request.kind, reply := some view.next })
  | _ => none

/-- `result.await` returns. -/
def collect (view : ChannelView) : Option Session :=
  match session.phase with
  | .waiting turn request channel =>
    (view.answer channel).map fun delivery => { session with phase := .reporting { turn with delivery } request }
  | _ => none

/-- Whether the session stands at an await of the transport, which may fail or end there. -/
def atTransport : Bool :=
  match session.phase with
  | .greeting | .receiving | .ponging _ _ | .announcing _ _ | .reporting _ _ => true
  | .pushing _ _ | .waiting _ _ _ => false

end Session

/-! ## Workers -/

/-- A worker: the sessions that are over, and the one it serves. -/
structure Worker where
  past : List Session := []
  session : Option Session := none
  aborted : Bool := false

def Worker.sessions (worker : Worker) : List Session := worker.past ++ worker.session.toList

inductive WorkerLabel where
  | connect
  | receive (message : RealtimeMessage) (ts : Int64)
  | send (ts : Int64)
  | push
  | collect
  | disconnect
  | abort

def WorkerLabel.isAbort : WorkerLabel → Bool
  | .abort => true
  | _ => false

/-- The next step of a worker, with the event it puts into the channel. -/
def Worker.step (options : RealtimeOptions) (view : ChannelView) (worker : Worker) (label : WorkerLabel) :
    Option (Worker × Option RuntimeLoopEvent) :=
  if worker.aborted then none
  else match worker.session, label with
    | none, .connect => some ({ worker with session := some {} }, none)
    | some session, .receive message ts =>
      (session.receive message ts).map fun session => ({ worker with session := some session }, none)
    | some session, .send ts => (session.send options ts).map fun session => ({ worker with session := some session }, none)
    | some session, .push =>
      (session.push view).map fun (session, event) => ({ worker with session := some session }, event)
    | some session, .collect => (session.collect view).map fun session => ({ worker with session := some session }, none)
    | some session, .disconnect =>
      if session.atTransport then some ({ worker with past := worker.past ++ [session], session := none }, none) else none
    | _, .abort => some ({ past := worker.sessions, session := none, aborted := true }, none)
    | _, _ => none

end KeliNode
