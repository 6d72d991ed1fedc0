import KeliNode.Realtime.Delivery

/-!
# The loop among the workers (`runner.rs`)

Seen from the loop, any order of the steps is a run of `runRuntimeLoopAsyncWithEvents` that is given the events in
the order they were put into the channel (`loop_refines`): what is proved of that loop holds of it among the
workers.

A worker that waits for a reply waits for the events ahead of its own and no longer: `rank` counts the steps the
loop has left until it handled the event, and no step of a worker makes it larger (`waiting_bounded`).
-/

namespace KeliNode

open Lib

section

variable {ι γ : Type} {callbacks : AsyncRuntimeLoopCallbacks ι γ} {options : RuntimeLoopOptions}
  {turns : List (LoopTurn ι)} {state : γ} {loop ticked : EventLoop ι γ} {input : ι}

/-- The events a run is given. -/
def turnEvents (turns : List (LoopTurn ι)) : List RuntimeLoopEvent := turns.filterMap fun turn => turn.event.map (·.1)

theorem turnEvents_concat (turn : LoopTurn ι) :
    turnEvents (turns ++ [turn]) = turnEvents turns ++ (turn.event.map (·.1)).toList := by
  rw [turnEvents, turnEvents, List.filterMap_append]
  cases hevent : turn.event <;> simp [hevent]

theorem run_tick_exit {result : Except Text RuntimeLoopExit}
    (hrun : runRuntimeLoopAsyncWithEvents callbacks options turns state = (none, loop))
    (htick : scheduledTick callbacks options input loop = (some result, ticked)) :
    runRuntimeLoopAsyncWithEvents callbacks options (turns ++ [{ tick := input }]) state = (some result, ticked) := by
  rw [runRuntimeLoopAsyncWithEvents, loopUntil_concat hrun, runTurn]
  simp only [htick]

theorem run_tick_event (event : Option (RuntimeLoopEvent × ι))
    (hrun : runRuntimeLoopAsyncWithEvents callbacks options turns state = (none, loop))
    (htick : scheduledTick callbacks options input loop = (none, ticked)) :
    runRuntimeLoopAsyncWithEvents callbacks options (turns ++ [{ tick := input, event }]) state =
      waitForEvent callbacks options event ticked := by
  rw [runRuntimeLoopAsyncWithEvents, loopUntil_concat hrun, runTurn]
  simp only [htick]

theorem waitForEvent_none : waitForEvent callbacks options none loop = (none, loop) := by
  unfold waitForEvent
  split <;> rfl

theorem run_tick (hrun : runRuntimeLoopAsyncWithEvents callbacks options turns state = (none, loop))
    (htick : scheduledTick callbacks options input loop = (none, ticked)) :
    runRuntimeLoopAsyncWithEvents callbacks options (turns ++ [{ tick := input }]) state = (none, ticked) :=
  (run_tick_event none hrun htick).trans waitForEvent_none

end

/-- How the loop ended by itself. -/
def LoopPhase.result : LoopPhase → Option (Except Text RuntimeLoopExit)
  | .ended result => some result
  | _ => none

namespace RealtimeSystem

section

variable {ω ι γ : Type} (callbacks : AsyncRuntimeLoopCallbacks ι γ) (options : RuntimeLoopOptions) (state : γ)

/-! ## The loop as a run of its own -/

/-- The turns the loop has gone through.  In the middle of a turn it has ticked, and the event of the turn is not
there yet. -/
inductive LoopRun (s : RealtimeSystem ω ι γ) : Prop
  | between (turns : List (LoopTurn ι)) (hphase : s.phase = .ticking)
      (hrun : runRuntimeLoopAsyncWithEvents callbacks options turns state = (none, s.loop))
      (hevents : turnEvents turns = s.loop.handled.map (·.event))
  | within (turns : List (LoopTurn ι)) (input : ι) (loop : EventLoop ι γ)
      (hphase : s.phase = .waiting ∨ ∃ event, s.phase = .handling event)
      (hrun : runRuntimeLoopAsyncWithEvents callbacks options turns state = (none, loop))
      (htick : scheduledTick callbacks options input loop = (none, s.loop))
      (hevents : turnEvents turns = s.loop.handled.map (·.event))
  | ended (turns : List (LoopTurn ι)) (result : Except Text RuntimeLoopExit) (hphase : s.phase = .ended result)
      (hrun : runRuntimeLoopAsyncWithEvents callbacks options turns state = (some result, s.loop))
      (hevents : turnEvents turns = s.loop.handled.map (·.event))
  | shutDown (turns : List (LoopTurn ι)) (loop : EventLoop ι γ) (hphase : s.phase = .shutDown)
      (hrun : runRuntimeLoopAsyncWithEvents callbacks options turns state = (none, loop))
      (hleft : s.loop = { loop with callbacks := s.loop.callbacks })
      (hevents : turnEvents turns = s.loop.handled.map (·.event))

variable {callbacks options state} {s s' : RealtimeSystem ω ι γ}

theorem LoopRun.congr (h : LoopRun callbacks options state s) (hloop : s'.loop = s.loop) (hphase : s'.phase = s.phase) :
    LoopRun callbacks options state s' := by
  cases h with
  | between turns hat hrun hevents =>
    exact .between turns (hphase.trans hat) (by rw [hloop]; exact hrun) (by rw [hloop]; exact hevents)
  | within turns input loop hat hrun htick hevents =>
    exact .within turns input loop (by rw [hphase]; exact hat) hrun (by rw [hloop]; exact htick)
      (by rw [hloop]; exact hevents)
  | ended turns result hat hrun hevents =>
    exact .ended turns result (hphase.trans hat) (by rw [hloop]; exact hrun) (by rw [hloop]; exact hevents)
  | shutDown turns loop hat hrun hleft hevents =>
    exact .shutDown turns loop (hphase.trans hat) hrun (by rw [hloop]; exact hleft) (by rw [hloop]; exact hevents)

theorem tick_loopRun {input : ι} (h : LoopRun callbacks options state s) (hphase : s.phase = .ticking) :
    LoopRun callbacks options state (s.afterLoop (if options.tickInterval = 0 then .ticking else .waiting)
      (scheduledTick callbacks options input s.loop)) := by
  cases h with
  | between turns hat hrun hevents =>
    have hhandled := scheduledTick_handled callbacks options s.loop input
    cases htick : scheduledTick callbacks options input s.loop with
    | mk outcome loop =>
      rw [htick] at hhandled
      simp only at hhandled
      have hsame : turnEvents turns = loop.handled.map (·.event) := by rw [hhandled, hevents]
      have hafter : turnEvents (turns ++ [{ tick := input }]) = loop.handled.map (·.event) := by
        rw [turnEvents_concat, hsame]
        exact List.append_nil _
      cases outcome with
      | some result => exact .ended _ result rfl (run_tick_exit hrun htick) hafter
      | none =>
        by_cases hzero : options.tickInterval = 0
        · exact .between _ (by rw [if_pos hzero]; rfl) (run_tick hrun htick) hafter
        · exact .within turns input s.loop (.inl (by rw [if_neg hzero]; rfl)) hrun htick hsame
  | within turns input loop hat =>
    rw [hphase] at hat
    rcases hat with hat | ⟨event, hat⟩ <;> cases hat
  | ended turns result hat =>
    rw [hphase] at hat
    cases hat
  | shutDown turns loop hat =>
    rw [hphase] at hat
    cases hat

/-- In the middle of a turn, without the event of the turn. -/
theorem LoopRun.cases_within (h : LoopRun callbacks options state s)
    (hphase : s.phase = .waiting ∨ ∃ event, s.phase = .handling event) :
    ∃ turns input loop, runRuntimeLoopAsyncWithEvents callbacks options turns state = (none, loop) ∧
      scheduledTick callbacks options input loop = (none, s.loop) ∧
      turnEvents turns = s.loop.handled.map (·.event) := by
  cases h with
  | within turns input loop _ hrun htick hevents => exact ⟨turns, input, loop, hrun, htick, hevents⟩
  | between turns hat | ended turns result hat | shutDown turns loop hat =>
    rw [hat] at hphase
    rcases hphase with hphase | ⟨event, hphase⟩ <;> cases hphase

/-- Without what the current turn may still bring, a live loop is a run of its own. -/
theorem LoopRun.live (h : LoopRun callbacks options state s) (hlive : s.phase.live = true) :
    ∃ turns, runRuntimeLoopAsyncWithEvents callbacks options turns state = (none, s.loop) ∧
      turnEvents turns = s.loop.handled.map (·.event) := by
  cases h with
  | between turns _ hrun hevents => exact ⟨turns, hrun, hevents⟩
  | within turns input loop _ hrun htick hevents =>
    refine ⟨_, run_tick hrun htick, ?_⟩
    rw [turnEvents_concat, hevents]
    exact List.append_nil _
  | ended turns result hat | shutDown turns loop hat =>
    rw [hat] at hlive
    cases hlive

theorem loopStep_loopRun {label : LoopLabel ι γ} (hok : ChannelOk callbacks options s)
    (h : LoopRun callbacks options state s) (hstep : s.loopStep callbacks options label = some s') :
    LoopRun callbacks options state s' := by
  rcases loopStep_cases hstep with ⟨input, -, hphase, rfl⟩ | ⟨-, hphase, rfl⟩ | ⟨event, queue, -, hphase, -, rfl⟩ |
    ⟨event, input, -, hphase, rfl⟩ | ⟨left, -, hlive, rfl⟩ | ⟨-, hover, -, rfl⟩
  · exact tick_loopRun h hphase
  · obtain ⟨turns, hrun, hevents⟩ := h.live (by rw [hphase]; rfl)
    exact .between turns rfl hrun hevents
  · obtain ⟨turns, input, loop, hrun, htick, hevents⟩ := h.cases_within (.inl hphase)
    exact .within turns input loop (.inr ⟨event, rfl⟩) hrun htick hevents
  · obtain ⟨turns, turnInput, loop, hrun, htick, hevents⟩ := h.cases_within (.inr ⟨event, hphase⟩)
    have hinterval : options.tickInterval ≠ 0 := hok.waits (.inr (by rw [hphase]; exact List.cons_ne_nil _ _))
    have hhandled := waitForEvent_handled callbacks options s.loop input event hinterval
    have hturn := run_tick_event (some (event, input)) hrun htick
    have hafter : turnEvents (turns ++ [{ tick := turnInput, event := some (event, input) }]) =
        (waitForEvent callbacks options (some (event, input)) s.loop).2.handled.map (·.event) := by
      rw [turnEvents_concat, hevents, hhandled, List.map_append]
      rfl
    cases hwait : waitForEvent callbacks options (some (event, input)) s.loop with
    | mk outcome next =>
      rw [hwait] at hturn hafter
      cases outcome with
      | some result => exact .ended _ result rfl hturn hafter
      | none => exact .between _ rfl hturn hafter
  · obtain ⟨turns, hrun, hevents⟩ := h.live hlive
    exact .shutDown turns s.loop rfl hrun rfl hevents
  · exact h.congr rfl rfl

theorem ChannelOk.handled_events (hok : ChannelOk callbacks options s) :
    s.loop.handled.map (·.event) = (s.pushed.take s.loop.handled.length).map (·.event) := by
  have hlength : (s.loop.handled.map (·.event)).length = s.loop.handled.length := List.length_map _
  rw [List.map_take, hok.fifo, List.take_append_of_le_length (by rw [hlength]), ← hlength, List.take_length]

variable [DecidableEq ω] {realtime : ω → RealtimeOptions}

theorem reachable_loopRun (h : Reachable callbacks options realtime state s) : LoopRun callbacks options state s := by
  obtain ⟨labels, hrun⟩ := h
  have hstep : ∀ (s : RealtimeSystem ω ι γ) label s', ChannelOk callbacks options s ∧ LoopRun callbacks options state s →
      s.step callbacks options realtime label = some s' →
      ChannelOk callbacks options s' ∧ LoopRun callbacks options state s' := by
    intro s label s' hok hstep
    refine ⟨step_channelOk hok.1 hstep, ?_⟩
    cases label with
    | worker w label =>
      obtain ⟨worker, event, -, rfl⟩ := workerStep_cases hstep
      exact hok.2.congr rfl rfl
    | loop label => exact loopStep_loopRun hok.1 hok.2 hstep
  exact (runLabels_invariant hstep ⟨start_channelOk state, .between [] rfl rfl rfl⟩ hrun).2

/-- **The loop among the workers** is a run of the loop on its own: it is given the events in the order they were
put into the channel, it ends as the other one does, and it handles and answers the same.  Only a shutdown leaves the
callbacks elsewhere. -/
theorem loop_refines (h : Reachable callbacks options realtime state s) :
    ∃ turns loop, runRuntimeLoopAsyncWithEvents callbacks options turns state = (s.phase.result, loop) ∧
      s.loop = { loop with callbacks := s.loop.callbacks } ∧ (s.phase ≠ .shutDown → s.loop = loop) ∧
      turnEvents turns = (s.pushed.take s.loop.handled.length).map (·.event) := by
  have hhandled := (reachable_ok h).channel.handled_events
  have hrun := reachable_loopRun h
  cases hphase : s.phase with
  | ticking | waiting | handling event =>
    obtain ⟨turns, hrun, hevents⟩ := hrun.live (by rw [hphase]; rfl)
    exact ⟨turns, s.loop, hrun, rfl, fun _ => rfl, hevents.trans hhandled⟩
  | ended result =>
    cases hrun with
    | ended turns other hat hrun hevents =>
      rw [hphase] at hat
      cases hat
      exact ⟨turns, s.loop, hrun, rfl, fun _ => rfl, hevents.trans hhandled⟩
    | between turns hat | within turns input loop hat | shutDown turns loop hat =>
      rw [hphase] at hat
      rcases hat with hat | ⟨event, hat⟩ <;> cases hat
  | shutDown =>
    cases hrun with
    | shutDown turns loop _ hrun hleft hevents =>
      exact ⟨turns, loop, hrun, hleft, fun hne => absurd rfl hne, hevents.trans hhandled⟩
    | between turns hat | within turns input loop hat | ended turns result hat =>
      rw [hphase] at hat
      rcases hat with hat | ⟨event, hat⟩ <;> cases hat

/-! ## Waiting -/

end

end RealtimeSystem

/-- The steps of a turn that are left with the event of the turn still to be handled. -/
def LoopPhase.stepsLeft : LoopPhase → Nat
  | .ticking => 3
  | .waiting => 2
  | .handling _ => 1
  | .ended _ | .shutDown => 0

def LoopLabel.isTimeout {ι γ : Type} : LoopLabel ι γ → Bool
  | .timeout => true
  | _ => false

def SystemLabel.isLoop {ω ι γ : Type} : SystemLabel ω ι γ → Bool
  | .loop _ => true
  | .worker _ _ => false

def SystemLabel.isTimeout {ω ι γ : Type} : SystemLabel ω ι γ → Bool
  | .loop label => label.isTimeout
  | .worker _ _ => false

namespace RealtimeSystem

section

variable {ω ι γ : Type} {callbacks : AsyncRuntimeLoopCallbacks ι γ} {options : RuntimeLoopOptions}
  {s s' : RealtimeSystem ω ι γ} {channel : Nat}

/-- The steps the loop has left until it handled the event with the reply channel, when no interval is over before. -/
def rank (s : RealtimeSystem ω ι γ) (channel : Nat) : Nat :=
  3 * (channel - s.loop.handled.length) + s.phase.stepsLeft

/-- The loop goes on, and the event is not handled yet. -/
def Unanswered (channel : Nat) (s : RealtimeSystem ω ι γ) : Prop :=
  s.phase.live = true ∧ s.loop.handled.length ≤ channel

theorem loopStep_rank {label : LoopLabel ι γ} (hinterval : 0 < options.tickInterval)
    (h : s.loopStep callbacks options label = some s') (hlive : Unanswered channel s') :
    Unanswered channel s ∧ s'.rank channel + 1 ≤ s.rank channel + if label.isTimeout then 2 else 0 := by
  obtain ⟨hlive, hle⟩ := hlive
  rcases loopStep_cases h with ⟨input, rfl, hphase, rfl⟩ | ⟨rfl, hphase, rfl⟩ | ⟨event, queue, rfl, hphase, -, rfl⟩ |
    ⟨event, input, rfl, hphase, rfl⟩ | ⟨left, rfl, -, rfl⟩ | ⟨rfl, hover, -, rfl⟩
  · have hhandled := scheduledTick_handled callbacks options s.loop input
    cases htick : scheduledTick callbacks options input s.loop with
    | mk outcome loop =>
      rw [htick] at hhandled hlive hle
      cases outcome with
      | some result => cases hlive
      | none =>
        simp only [afterLoop] at hhandled hle ⊢
        rw [hhandled] at hle
        refine ⟨⟨by rw [hphase]; rfl, hle⟩, ?_⟩
        rw [rank, rank, hphase, hhandled, if_neg (by omega)]
        exact Nat.le_refl _
  · refine ⟨⟨by rw [hphase]; rfl, hle⟩, ?_⟩
    rw [rank, rank, hphase]
    exact Nat.le_refl _
  · refine ⟨⟨by rw [hphase]; rfl, hle⟩, ?_⟩
    rw [rank, rank, hphase]
    exact Nat.le_refl _
  · have hhandled := waitForEvent_handled callbacks options s.loop input event
      (Nat.pos_iff_ne_zero.1 hinterval)
    cases hwait : waitForEvent callbacks options (some (event, input)) s.loop with
    | mk outcome loop =>
      rw [hwait] at hhandled hlive hle
      cases outcome with
      | some result => cases hlive
      | none =>
        simp only [afterLoop] at hhandled hle ⊢
        rw [hhandled, List.length_append, List.length_singleton] at hle
        refine ⟨⟨by rw [hphase]; rfl, by omega⟩, ?_⟩
        rw [rank, rank, hphase, hhandled, List.length_append, List.length_singleton]
        simp only [LoopPhase.stepsLeft]
        omega
  · cases hlive
  · rw [hover] at hlive
    cases hlive

theorem step_rank [DecidableEq ω] {realtime : ω → RealtimeOptions} {label : SystemLabel ω ι γ}
    (hinterval : 0 < options.tickInterval) (h : s.step callbacks options realtime label = some s') (hlive : Unanswered channel s') :
    Unanswered channel s ∧
      s'.rank channel + (if label.isLoop then 1 else 0) ≤ s.rank channel + if label.isTimeout then 2 else 0 := by
  cases label with
  | loop label => exact loopStep_rank hinterval h hlive
  | worker w label =>
    obtain ⟨worker, event, -, rfl⟩ := workerStep_cases h
    exact ⟨hlive, Nat.le_refl _⟩

theorem pushed_le_of_step [DecidableEq ω] {realtime : ω → RealtimeOptions} {label : SystemLabel ω ι γ}
    (hok : ChannelOk callbacks options s) (h : s.step callbacks options realtime label = some s') :
    s.pushed.length ≤ s'.pushed.length := by
  cases label with
  | loop label => exact Nat.le_of_eq (congrArg List.length (later_of_loopStep hok h).2.2.symm)
  | worker w label =>
    obtain ⟨worker, event, -, rfl⟩ := workerStep_cases h
    simp

/-- The loop can go on towards an event that is in the channel. -/
theorem loopStep_enabled (hok : ChannelOk callbacks options s) (hchannel : channel < s.pushed.length)
    (hlive : Unanswered channel s) (input : ι) :
    ∃ label next, label.isTimeout = false ∧ s.loopStep callbacks options label = some next := by
  obtain ⟨hlive, hle⟩ := hlive
  cases hphase : s.phase with
  | ticking => exact ⟨.tick input, _, rfl, by simp only [loopStep, hphase]; rfl⟩
  | handling event => exact ⟨.handle input, _, rfl, by simp only [loopStep, hphase]; rfl⟩
  | waiting =>
    have hlength := congrArg List.length hok.fifo
    rw [hok.kept hlive, hphase] at hlength
    cases hqueue : s.queue with
    | nil =>
      rw [hqueue] at hlength
      simp [LoopPhase.current] at hlength
      omega
    | cons event queue => exact ⟨.take, { s with queue, phase := .handling event }, rfl, by simp only [loopStep, hphase, hqueue]⟩
  | ended result | shutDown =>
    rw [hphase] at hlive
    cases hlive

variable [DecidableEq ω] {realtime : ω → RealtimeOptions} {state : γ}

/-- **Bounded waiting**: after any further steps the loop is over, or the event has its reply, or the loop took no
more than three steps for each event up to this one and two for each time the interval was over, and it can go on. -/
theorem waiting_bounded (h : Reachable callbacks options realtime state s) (hinterval : 0 < options.tickInterval)
    (hchannel : channel < s.pushed.length) {labels : List (SystemLabel ω ι γ)}
    (hrun : runLabels (step callbacks options realtime) labels s = some s') (input : ι) :
    s'.phase.live = false ∨ (∃ reply, s'.answer channel = some (.replied reply)) ∨
      (labels.countP SystemLabel.isLoop ≤
          3 * (channel - s.loop.handled.length) + 2 + 2 * labels.countP SystemLabel.isTimeout ∧
        ∃ label next, label.isTimeout = false ∧ s'.loopStep callbacks options label = some next) := by
  have hkept : ∀ (s : RealtimeSystem ω ι γ) label s', ChannelOk callbacks options s ∧ channel < s.pushed.length →
      s.step callbacks options realtime label = some s' →
      ChannelOk callbacks options s' ∧ channel < s'.pushed.length :=
    fun s label s' hok hstep =>
      ⟨step_channelOk hok.1 hstep, Nat.lt_of_lt_of_le hok.2 (pushed_le_of_step hok.1 hstep)⟩
  obtain ⟨hok', hchannel'⟩ := runLabels_invariant hkept ⟨(reachable_ok h).channel, hchannel⟩ hrun
  by_cases hover : s'.phase.live = false
  · exact .inl hover
  have hlive : s'.phase.live = true := Bool.not_eq_false _ ▸ hover
  by_cases hhandled : channel < s'.loop.handled.length
  · exact .inr (.inl ⟨_, hok'.answer_handled (List.getElem?_eq_getElem hhandled)⟩)
  have hunanswered : Unanswered channel s' := ⟨hlive, Nat.not_lt.1 hhandled⟩
  refine .inr (.inr ⟨?_, loopStep_enabled hok' hchannel' hunanswered input⟩)
  have hpays : ∀ (s : RealtimeSystem ω ι γ) (label : SystemLabel ω ι γ) s',
      s.step callbacks options realtime label = some s' → Unanswered channel s' → Unanswered channel s ∧
        s'.rank channel + (if label.isLoop then 1 else 0) ≤ s.rank channel + if label.isTimeout then 2 else 0 :=
    fun s label s' hstep => step_rank hinterval hstep
  have hle := (runLabels_cost_le hpays hrun hunanswered).2
  rw [rank, rank] at hle
  have hbefore : s.phase.stepsLeft ≤ 3 := by cases s.phase <;> simp [LoopPhase.stepsLeft]
  have hafter : 1 ≤ s'.phase.stepsLeft := by
    cases hphase : s'.phase with
    | ticking | waiting | handling event => simp [LoopPhase.stepsLeft]
    | ended result | shutDown =>
      rw [hphase] at hlive
      cases hlive
  omega

end

/-! ## The refresh and the reload again -/

theorem loop_refines_twoWorkers :
    ∃ turns loop, runRuntimeLoopAsyncWithEvents idleCallbacks idleOptions turns () = (twoWorkers.phase.result, loop) ∧
      twoWorkers.loop = { loop with callbacks := twoWorkers.loop.callbacks } ∧
      (twoWorkers.phase ≠ .shutDown → twoWorkers.loop = loop) ∧
      turnEvents turns = (twoWorkers.pushed.take twoWorkers.loop.handled.length).map (·.event) :=
  loop_refines twoWorkers_reachable

/-- Both events are in the channel, and then the first one is handled. -/
def bothAsked : RealtimeSystem Bool Unit Unit :=
  (runLabels (step idleCallbacks idleOptions fun _ => {}) (twoWorkersLabels.take 11) (start ())).getD (start ())

theorem bothAsked_reachable : Reachable idleCallbacks idleOptions (fun _ : Bool => {}) () bothAsked :=
  ⟨twoWorkersLabels.take 11, rfl⟩

def firstTold : RealtimeSystem Bool Unit Unit :=
  (runLabels (step idleCallbacks idleOptions fun _ => {}) ((twoWorkersLabels.drop 11).take 4) bothAsked).getD (start ())

theorem waiting_bounded_firstTold :
    firstTold.phase.live = false ∨ (∃ reply, firstTold.answer 1 = some (.replied reply)) ∨
      (((twoWorkersLabels.drop 11).take 4).countP SystemLabel.isLoop ≤
          3 * (1 - bothAsked.loop.handled.length) + 2 +
            2 * ((twoWorkersLabels.drop 11).take 4).countP SystemLabel.isTimeout ∧
        ∃ label next, label.isTimeout = false ∧ firstTold.loopStep idleCallbacks idleOptions label = some next) :=
  waiting_bounded bothAsked_reachable (by decide) (by decide) rfl ()

end RealtimeSystem

end KeliNode
