import KeliNode.Lib.Through
import KeliNode.Runner.Tick

/-!
# Realtime events in the runtime loop (`runner.rs`)

Between two ticks the loop waits for the tick interval or for an event.  An event asks for a reload or for a
refresh of the users; where it carries a reply channel, the answer goes back through it and becomes the receipt
the panel gets.

| here | there |
|---|---|
| `RuntimeLoopEvent` | `runner.rs:68` |
| `AsyncRuntimeLoopCallbacks` | `runner.rs:172` |
| `handleRuntimeLoopEvent` | `runner.rs:1832` |
| `runRuntimeLoopAsyncWithEvents` | `runner.rs:1766` |
| `panelRuntimeLoop` | `runner.rs:479` |

A run takes the outside as a list of turns: what the two callbacks are answered in the turn, and the event that
comes in before the interval is over, if one does.  A reply channel is known by a number.  The loop's state keeps
the events it received, each with the callbacks' state at that moment, and the replies it sent.
-/

namespace KeliNode

open Lib

/-! ## Signals -/

structure MachineReleaseAuth where
  machineId : Text := []
  machineToken : Text := []
  deriving DecidableEq

/-- `MachineUpgradeCommand` (`machine.rs:130`). -/
structure MachineUpgradeCommand where
  id : Text
  targetVersion : Text
  component : Text := []
  releaseSource : Text := []
  releaseBaseUrl : Text := []
  releaseAuth : MachineReleaseAuth := {}
  deriving DecidableEq

inductive RuntimeLoopSignal where
  | continue
  | reload
  | upgrade (command : MachineUpgradeCommand)
  deriving DecidableEq

structure RuntimePanelAction where
  reload : Bool := false
  upgrade : Option MachineUpgradeCommand := none

/-- `runtime_loop_signal` (`control.rs:942`). -/
def runtimeLoopSignal (action : RuntimePanelAction) : RuntimeLoopSignal :=
  match action.upgrade with
  | some upgrade => .upgrade upgrade
  | none => if action.reload then .reload else .continue

/-- `nonfatal_panel_status_report` (`runner.rs:685`). -/
def nonfatalPanelStatusReport (result : Except Text RuntimePanelAction) : RuntimePanelAction :=
  match result with
  | .ok action => action
  | .error _ => {}

/-! ## Events -/

inductive RuntimeLoopEventKind where
  | reload
  | refreshUsers
  deriving DecidableEq

structure RuntimeLoopEvent where
  kind : RuntimeLoopEventKind
  reply : Option Nat := none

structure RuntimeLoopEventReply where
  status : Text
  message : Text
  deriving DecidableEq

def RuntimeLoopEventReply.queued (message : Text) : RuntimeLoopEventReply := { status := "queued", message }

def RuntimeLoopEventReply.applied (message : Text) : RuntimeLoopEventReply := { status := "applied", message }

/-- The fields of `RuntimeTickOptions` (`control.rs:69`) that differ between ticks. -/
structure RuntimeTickOptions where
  reportToPanel : Bool
  usersByNodeTag : UsersByNodeTag

/-- The two calls on the state of the callbacks, given what the outside answers. -/
structure AsyncRuntimeLoopCallbacks (ι γ : Type) where
  refreshUsers : ι → γ → Except Text UsersByNodeTag × γ
  runTick : ι → RuntimeTickOptions → γ → Except Text RuntimeLoopSignal × γ

section

variable {ι γ : Type} (callbacks : AsyncRuntimeLoopCallbacks ι γ)

/-- What an event comes to: the signal for the loop and the reply, or the error for both. -/
def eventResult (input : ι) (kind : RuntimeLoopEventKind) (state : γ) :
    Except Text (RuntimeLoopSignal × RuntimeLoopEventReply) × γ :=
  match kind with
  | .reload => (.ok (.reload, .queued "reload queued"), state)
  | .refreshUsers =>
    match callbacks.refreshUsers input state with
    | (.error error, state) => (.error error, state)
    | (.ok usersByNodeTag, state) =>
      if usersByNodeTag.isEmpty then (.ok (.continue, .applied "user refresh no changes"), state)
      else match callbacks.runTick input { reportToPanel := false, usersByNodeTag } state with
        | (.ok signal, state) => (.ok (signal, .applied "user refresh applied"), state)
        | (.error error, state) => (.error error, state)

/-- `handle_runtime_loop_event` (`runner.rs:1832`): the signal, and what goes into the reply channel. -/
def handleRuntimeLoopEvent (input : ι) (event : RuntimeLoopEvent) (state : γ) :
    Except Text RuntimeLoopSignal × List (Nat × Except Text RuntimeLoopEventReply) × γ :=
  let (result, state) := eventResult callbacks input event.kind state
  (result.map (·.1), event.reply.toList.map fun channel => (channel, result.map (·.2)), state)

/-! ## The loop -/

/-- The fields of `RuntimeLoopOptions` (`runner.rs:46`) the loop decides on. -/
structure RuntimeLoopOptions where
  maxTicks : Option Nat := none
  tickInterval : Nat
  userRefreshInterval : Nat
  panelReportInterval : Nat

inductive RuntimeLoopExitReason where
  | maxTicks
  | shutdown
  | signal (signal : RuntimeLoopSignal)
  deriving DecidableEq

structure RuntimeLoopExit where
  ticks : Nat
  reason : RuntimeLoopExitReason
  deriving DecidableEq

/-- `should_run` (`runner.rs:2263`). -/
def shouldRun (tick interval : Nat) : Bool := decide (0 < interval) && tick % interval == 0

/-- One turn of the outside: the answers to the callbacks, and the event that ends the wait. -/
structure LoopTurn (ι : Type) where
  tick : ι
  event : Option (RuntimeLoopEvent × ι) := none

/-- An event the loop received, with the answers it is handled with and the state it is handled in. -/
structure HandledEvent (ι γ : Type) where
  event : RuntimeLoopEvent
  input : ι
  before : γ

structure EventLoop (ι γ : Type) where
  callbacks : γ
  ticks : Nat := 0
  handled : List (HandledEvent ι γ) := []
  replies : List (Nat × Except Text RuntimeLoopEventReply) := []

variable (options : RuntimeLoopOptions)

def reachedMaxTicks (ticks : Nat) : Bool := options.maxTicks.any fun maxTicks => decide (maxTicks ≤ ticks)

/-- The refresh and the tick of a turn: the loop ends, or goes on to wait. -/
def scheduledTick (input : ι) (loop : EventLoop ι γ) : Option (Except Text RuntimeLoopExit) × EventLoop ι γ :=
  if reachedMaxTicks options loop.ticks then (some (.ok { ticks := loop.ticks, reason := .maxTicks }), loop)
  else
    let ticks := loop.ticks + 1
    match (if shouldRun ticks options.userRefreshInterval then callbacks.refreshUsers input loop.callbacks
      else (.ok ∅, loop.callbacks)) with
    | (.error error, state) => (some (.error error), { loop with ticks, callbacks := state })
    | (.ok usersByNodeTag, state) =>
      let reportToPanel := shouldRun ticks options.panelReportInterval
      match callbacks.runTick input { reportToPanel, usersByNodeTag } state with
      | (.error error, state) => (some (.error error), { loop with ticks, callbacks := state })
      | (.ok signal, state) =>
        let loop := { loop with ticks, callbacks := state }
        if signal ≠ .continue then (some (.ok { ticks, reason := .signal signal }), loop)
        else if reachedMaxTicks options ticks then (some (.ok { ticks, reason := .maxTicks }), loop)
        else (none, loop)

/-- The wait of a turn, without an interval none at all. -/
def waitForEvent (event : Option (RuntimeLoopEvent × ι)) (loop : EventLoop ι γ) :
    Option (Except Text RuntimeLoopExit) × EventLoop ι γ :=
  if options.tickInterval = 0 then (none, loop)
  else match event with
    | none => (none, loop)
    | some (event, input) =>
      let (result, replies, state) := handleRuntimeLoopEvent callbacks input event loop.callbacks
      let loop := { loop with
        callbacks := state
        handled := loop.handled ++ [{ event, input, before := loop.callbacks }]
        replies := loop.replies ++ replies }
      match result with
      | .error error => (some (.error error), loop)
      | .ok signal =>
        if signal ≠ .continue then (some (.ok { ticks := loop.ticks, reason := .signal signal }), loop)
        else (none, loop)

def runTurn (turn : LoopTurn ι) (loop : EventLoop ι γ) : Option (Except Text RuntimeLoopExit) × EventLoop ι γ :=
  match scheduledTick callbacks options turn.tick loop with
  | (some exit, loop) => (some exit, loop)
  | (none, loop) => waitForEvent callbacks options turn.event loop

/-- `run_runtime_loop_async_with_events` (`runner.rs:1766`): how it ended, if it did within the turns. -/
def runRuntimeLoopAsyncWithEvents (turns : List (LoopTurn ι)) (state : γ) :
    Option (Except Text RuntimeLoopExit) × EventLoop ι γ :=
  loopUntil (runTurn callbacks options) turns { callbacks := state }

/-! ## Receipts -/

/-- What becomes of an event that is sent to the loop. -/
inductive EventDelivery where
  | closed
  | dropped
  | replied (reply : Except Text RuntimeLoopEventReply)

/-- The status and the message a reply is reported with. -/
def EventDelivery.receipt : EventDelivery → Text × Text
  | .closed => ("failed", "runtime event receiver closed")
  | .dropped => ("failed", "runtime event reply dropped")
  | .replied (.ok reply) => (reply.status, reply.message)
  | .replied (.error error) => ("failed", error)

/-- The reply of an event, whether or not somebody waits for it. -/
def HandledEvent.reply (handled : HandledEvent ι γ) : Except Text RuntimeLoopEventReply :=
  (eventResult callbacks handled.input handled.event.kind handled.before).1.map (·.2)

end

/-! ## The panel's callbacks -/

/-- What the outside answers in a turn; the core may exit by itself before the tick. -/
structure PanelTurn where
  panel : Text → PanelUsersAnswer
  coreExits : Bool := false
  answers : TickAnswers := {}
  action : Except Text RuntimePanelAction := .ok {}

/-- `PanelRuntimeLoop` as the callbacks of the loop. -/
def panelRuntimeLoop {ν σ : Type} [DecidableEq ν] (validate : InboundPlan → Except Text Unit) (env : ControlEnv ν σ) :
    AsyncRuntimeLoopCallbacks PanelTurn (RuntimeLoop ν σ) where
  refreshUsers turn loop :=
    let (users, userSync) := loadUsersByNodeTagFromPanelWithStateAndMode loop.plan .tagMarkers turn.panel loop.userSync
    (users, { loop with userSync })
  runTick turn options loop :=
    match runTick validate env turn.answers options.reportToPanel options.usersByNodeTag
        { loop with world := loop.world.afterExit turn.coreExits } with
    | (.error error, loop) => (.error error, loop)
    | (.ok (), loop) =>
      (.ok (if options.reportToPanel then runtimeLoopSignal (nonfatalPanelStatusReport turn.action) else .continue), loop)

end KeliNode
