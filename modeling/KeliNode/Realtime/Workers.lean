import Mathlib.Logic.Function.Basic
import KeliNode.Lib.Labels
import KeliNode.Realtime.Session

/-!
# The workers and the loop together (`runner.rs`, `main.rs`)

| here | there |
|---|---|
| `RealtimeSystem` | the tasks `run_agent_once` has running (`main.rs:487`), with the channel of `start_realtime_runtime_workers` (`runner.rs:1520`) |
| `RealtimeSystem.loopStep` | `run_runtime_loop_async_with_events` (`runner.rs:1766`) between two awaits, and the end of `run_agent_once` (`main.rs:535`) |
| `RealtimeSystem.step` | one step of either side |

The two sides take their steps in any order.  While the loop ticks or handles an event the workers go on, so what
an event waits for is in the order of the steps alone.  A shutdown drops the loop wherever it stands, with the
event in its hand; the receiver goes after that, with the events that are left in the channel.

`pushed` and `dropped` are kept for the statements: every event that was ever put into the channel, with the worker
that put it there, and the events that were dropped with their reply channels.
-/

namespace KeliNode

open Lib

/-- Where the loop stands. -/
inductive LoopPhase where
  | ticking
  | waiting
  | handling (event : RuntimeLoopEvent)
  | ended (result : Except Text RuntimeLoopExit)
  | shutDown

namespace LoopPhase

def live : LoopPhase → Bool
  | .ticking | .waiting | .handling _ => true
  | .ended _ | .shutDown => false

/-- The event in hand. -/
def current : LoopPhase → List RuntimeLoopEvent
  | .handling event => [event]
  | _ => []

end LoopPhase

/-- An event in the channel, and whose it is. -/
structure Pushed (ω : Type) where
  worker : ω
  event : RuntimeLoopEvent

structure RealtimeSystem (ω ι γ : Type) where
  workers : ω → Worker := fun _ => {}
  loop : EventLoop ι γ
  phase : LoopPhase := .ticking
  queue : List RuntimeLoopEvent := []
  closed : Bool := false
  pushed : List (Pushed ω) := []
  dropped : List RuntimeLoopEvent := []

inductive LoopLabel (ι γ : Type) where
  | tick (input : ι)
  | timeout
  | take
  | handle (input : ι)
  | shutdown (left : γ)
  | close

inductive SystemLabel (ω ι γ : Type) where
  | worker (w : ω) (label : WorkerLabel)
  | loop (label : LoopLabel ι γ)

namespace RealtimeSystem

section

variable {ω ι γ : Type} (callbacks : AsyncRuntimeLoopCallbacks ι γ) (options : RuntimeLoopOptions)

/-- What has become of the event with a reply channel, if anything yet. -/
def answer (s : RealtimeSystem ω ι γ) (channel : Nat) : Option EventDelivery :=
  match s.loop.replies.lookup channel with
  | some reply => some (.replied reply)
  | none => if s.dropped.any fun event => event.reply = some channel then some .dropped else none

def view (s : RealtimeSystem ω ι γ) : ChannelView := { next := s.pushed.length, closed := s.closed, answer := s.answer }

/-- Where the loop goes after a tick or an event. -/
def afterLoop (s : RealtimeSystem ω ι γ) (next : LoopPhase) :
    Option (Except Text RuntimeLoopExit) × EventLoop ι γ → RealtimeSystem ω ι γ
  | (some result, loop) => { s with loop, phase := .ended result }
  | (none, loop) => { s with loop, phase := next }

def loopStep (s : RealtimeSystem ω ι γ) (label : LoopLabel ι γ) : Option (RealtimeSystem ω ι γ) :=
  match s.phase, label with
  | .ticking, .tick input =>
    some (s.afterLoop (if options.tickInterval = 0 then .ticking else .waiting) (scheduledTick callbacks options input s.loop))
  | .waiting, .timeout => some { s with phase := .ticking }
  | .waiting, .take =>
    match s.queue with
    | [] => none
    | event :: queue => some { s with queue, phase := .handling event }
  | .handling event, .handle input =>
    some (s.afterLoop .ticking (waitForEvent callbacks options (some (event, input)) s.loop))
  | phase, .shutdown left =>
    if phase.live then
      some { s with
        loop := { s.loop with callbacks := left }, phase := .shutDown, dropped := s.dropped ++ phase.current }
    else none
  | phase, .close =>
    if phase.live || s.closed then none
    else some { s with closed := true, queue := [], dropped := s.dropped ++ s.queue }
  | _, _ => none

variable [DecidableEq ω] (realtime : ω → RealtimeOptions)

/-- The workers are aborted once the loop is over. -/
def workerStep (s : RealtimeSystem ω ι γ) (w : ω) (label : WorkerLabel) : Option (RealtimeSystem ω ι γ) :=
  if s.phase.live && label.isAbort then none
  else ((s.workers w).step (realtime w) s.view label).map fun (worker, event) =>
    { s with
      workers := Function.update s.workers w worker
      queue := s.queue ++ event.toList
      pushed := s.pushed ++ event.toList.map fun event => { worker := w, event } }

def step (s : RealtimeSystem ω ι γ) : SystemLabel ω ι γ → Option (RealtimeSystem ω ι γ)
  | .worker w label => s.workerStep realtime w label
  | .loop label => s.loopStep callbacks options label

/-- `start_realtime_runtime_workers` and the loop before its first tick. -/
def start (state : γ) : RealtimeSystem ω ι γ := { loop := { callbacks := state } }

/-- Some steps from the start, in an order the two sides allow. -/
def Reachable (state : γ) (s : RealtimeSystem ω ι γ) : Prop :=
  ∃ labels, runLabels (step callbacks options realtime) labels (start state) = some s

end

end RealtimeSystem

end KeliNode
