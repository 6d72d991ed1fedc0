import KeliNode.Realtime.Workers
import KeliNode.Runner.Receipts

/-!
# The channel between the workers and the loop

Whatever the order of the steps, the events that were put into the channel are, in their order, those the loop
handled, those that were dropped, the one in hand and those still queued (`ChannelOk`).  An event is therefore
handled once at most, and while the loop runs none is dropped; its reply channel holds the reply of that one
handling (`answer_handled`).
-/

namespace KeliNode

open Lib

/-! ## Numbered replies -/

/-- Where the items are numbered from `n` on, a number is looked up to the item's reply. -/
theorem lookup_numbered {α β : Type} (number : α → Option Nat) (reply : α → β) {items : List α} {n : Nat}
    (hnumber : ∀ i item, items[i]? = some item → number item = some (n + i)) (i : Nat) :
    (items.filterMap fun item => (number item).map fun number => (number, reply item)).lookup (n + i) =
      items[i]?.map reply := by
  induction items generalizing n i with
  | nil => rfl
  | cons item items ih =>
    have hhead : number item = some n := hnumber 0 item rfl
    rw [List.filterMap_cons, hhead, Option.map_some]
    cases i with
    | zero => simp
    | succ i =>
      have hne : (n + (i + 1) == n) = false := by
        rw [beq_eq_false_iff_ne]
        omega
      have htail := ih (n := n + 1) (fun j item hitem => by
        rw [hnumber (j + 1) item hitem]
        congr 1
        omega) i
      rw [show n + 1 + i = n + (i + 1) by omega] at htail
      simp only [List.lookup_cons, hne, List.getElem?_cons_succ]
      exact htail

theorem getElem_of_isPrefix {α : Type} {xs ys : List α} (h : xs <+: ys) {i : Nat} {x : α} (hx : xs[i]? = some x) :
    ys[i]? = some x := by
  obtain ⟨rest, rfl⟩ := h
  rw [List.getElem?_append_left (List.getElem?_eq_some_iff.1 hx).1, hx]

namespace RealtimeSystem

section

variable {ω ι γ : Type} (callbacks : AsyncRuntimeLoopCallbacks ι γ) (options : RuntimeLoopOptions)

/-! ## The steps -/

section

variable {callbacks options} {s s' : RealtimeSystem ω ι γ}

/-- **All that the loop can do.** -/
theorem loopStep_cases {label : LoopLabel ι γ} (h : s.loopStep callbacks options label = some s') :
    (∃ input, label = .tick input ∧ s.phase = .ticking ∧
        s' = s.afterLoop (if options.tickInterval = 0 then .ticking else .waiting)
          (scheduledTick callbacks options input s.loop)) ∨
      (label = .timeout ∧ s.phase = .waiting ∧ s' = { s with phase := .ticking }) ∨
      (∃ event queue, label = .take ∧ s.phase = .waiting ∧ s.queue = event :: queue ∧
        s' = { s with queue, phase := .handling event }) ∨
      (∃ event input, label = .handle input ∧ s.phase = .handling event ∧
        s' = s.afterLoop .ticking (waitForEvent callbacks options (some (event, input)) s.loop)) ∨
      (∃ left, label = .shutdown left ∧ s.phase.live = true ∧
        s' = { s with
          loop := { s.loop with callbacks := left }, phase := .shutDown, dropped := s.dropped ++ s.phase.current }) ∨
      (label = .close ∧ s.phase.live = false ∧ s.closed = false ∧
        s' = { s with closed := true, queue := [], dropped := s.dropped ++ s.queue }) := by
  have hshutdown : ∀ left, s.loopStep callbacks options (.shutdown left) =
      if s.phase.live then some { s with
        loop := { s.loop with callbacks := left }, phase := .shutDown, dropped := s.dropped ++ s.phase.current }
      else none := by
    intro left
    unfold loopStep
    cases s.phase <;> rfl
  have hclose : s.loopStep callbacks options .close = if s.phase.live || s.closed then none
      else some { s with closed := true, queue := [], dropped := s.dropped ++ s.queue } := by
    unfold loopStep
    cases s.phase <;> rfl
  cases label with
  | tick input =>
    refine .inl ⟨input, rfl, ?_⟩
    cases hphase : s.phase <;> simp only [loopStep, hphase] at h <;> cases h
    exact ⟨rfl, rfl⟩
  | timeout =>
    refine .inr (.inl ⟨rfl, ?_⟩)
    cases hphase : s.phase <;> simp only [loopStep, hphase] at h <;> cases h
    exact ⟨rfl, rfl⟩
  | take =>
    refine .inr (.inr (.inl ?_))
    cases hphase : s.phase <;> simp only [loopStep, hphase] at h <;> try cases h
    cases hqueue : s.queue with
    | nil =>
      rw [hqueue] at h
      cases h
    | cons event queue =>
      rw [hqueue] at h
      cases h
      exact ⟨event, queue, rfl, rfl, rfl, rfl⟩
  | handle input =>
    refine .inr (.inr (.inr (.inl ?_)))
    cases hphase : s.phase <;> simp only [loopStep, hphase] at h <;> cases h
    exact ⟨_, input, rfl, rfl, rfl⟩
  | shutdown left =>
    rw [hshutdown] at h
    split at h
    · rename_i hlive
      cases h
      exact .inr (.inr (.inr (.inr (.inl ⟨left, rfl, hlive, rfl⟩))))
    · cases h
  | close =>
    rw [hclose] at h
    split at h
    · cases h
    · rename_i hcond
      cases h
      rw [Bool.not_eq_true, Bool.or_eq_false_iff] at hcond
      exact .inr (.inr (.inr (.inr (.inr ⟨rfl, hcond.1, hcond.2, rfl⟩))))

/-- **All that a worker can do** to the others: one event into the channel. -/
theorem workerStep_cases [DecidableEq ω] {realtime : ω → RealtimeOptions} {w : ω} {label : WorkerLabel}
    (h : s.workerStep realtime w label = some s') :
    ∃ worker event, (s.workers w).step (realtime w) s.view label = some (worker, event) ∧
      s' = { s with
        workers := Function.update s.workers w worker
        queue := s.queue ++ event.toList
        pushed := s.pushed ++ event.toList.map fun event => { worker := w, event } } := by
  unfold workerStep at h
  split at h
  · cases h
  · obtain ⟨⟨worker, event⟩, hstep, hs'⟩ := Option.map_eq_some_iff.1 h
    exact ⟨worker, event, hstep, hs'.symm⟩

/-- The event of a push carries the next number, and there is one only into an open channel. -/
theorem step_event {realtime : RealtimeOptions} {view : ChannelView} {worker worker' : Worker} {label : WorkerLabel}
    {event : RuntimeLoopEvent} (h : worker.step realtime view label = some (worker', some event)) :
    view.closed = false ∧ event.reply = some view.next := by
  unfold Worker.step at h
  split at h
  · cases h
  split at h
  · cases h
  · obtain ⟨session, -, heq⟩ := Option.map_eq_some_iff.1 h
    cases heq
  · obtain ⟨session, -, heq⟩ := Option.map_eq_some_iff.1 h
    cases heq
  · obtain ⟨⟨session', event'⟩, hpush, heq⟩ := Option.map_eq_some_iff.1 h
    cases heq
    unfold Session.push at hpush
    split at hpush
    · split at hpush
      · cases hpush
      · rename_i hopen
        cases hpush
        exact ⟨Bool.eq_false_iff.2 hopen, rfl⟩
    · cases hpush
  · obtain ⟨session, -, heq⟩ := Option.map_eq_some_iff.1 h
    cases heq
  · split at h <;> cases h
  · cases h
  · cases h

end

/-! ## What a turn of the loop records -/

section

variable (loop : EventLoop ι γ) (input : ι)

theorem scheduledTick_handled :
    (scheduledTick callbacks options input loop).2.handled = loop.handled := by
  unfold scheduledTick
  split
  · rfl
  · simp only
    split
    · rfl
    · split
      · rfl
      · split
        · rfl
        · split <;> rfl

theorem waitForEvent_handled (event : RuntimeLoopEvent) (hinterval : options.tickInterval ≠ 0) :
    (waitForEvent callbacks options (some (event, input)) loop).2.handled =
      loop.handled ++ [{ event, input, before := loop.callbacks }] := by
  unfold waitForEvent
  rw [if_neg hinterval]
  simp only
  split
  · rfl
  · split <;> rfl

end

/-! ## The invariant -/

/-- The events of the channel are all there, in the order they came in. -/
structure ChannelOk (s : RealtimeSystem ω ι γ) : Prop where
  fifo : s.pushed.map (·.event) = s.loop.handled.map (·.event) ++ (s.dropped ++ (s.phase.current ++ s.queue))
  numbered : ∀ i (pushed : Pushed ω), s.pushed[i]? = some pushed → pushed.event.reply = some i
  answered : Answered callbacks s.loop
  kept : s.phase.live = true → s.dropped = []
  closed : s.closed = true → s.phase.live = false ∧ s.queue = []
  waits : s.phase = .waiting ∨ s.phase.current ≠ [] → options.tickInterval ≠ 0

variable {callbacks options} {s s' : RealtimeSystem ω ι γ}

theorem afterLoop_channelOk {next : LoopPhase} {result : Option (Except Text RuntimeLoopExit) × EventLoop ι γ}
    (hok : ChannelOk callbacks options s) (hlive : s.phase.live = true) (hnext : next.current = [])
    (hhandled : result.2.handled.map (·.event) = s.loop.handled.map (·.event) ++ s.phase.current)
    (hanswered : Answered callbacks result.2)
    (hwaits : next = .waiting → options.tickInterval ≠ 0) : ChannelOk callbacks options (s.afterLoop next result) := by
  have hopen : s.closed ≠ true := fun hclosed => by
    rw [(hok.closed hclosed).1] at hlive
    cases hlive
  have hfifo : s.pushed.map (·.event) = result.2.handled.map (·.event) ++ (s.dropped ++ ([] ++ s.queue)) := by
    rw [hok.fifo, hhandled, hok.kept hlive]
    simp
  obtain ⟨exit, loop⟩ := result
  cases exit with
  | none =>
    exact
      { fifo := by rw [afterLoop, hnext]; exact hfifo
        numbered := hok.numbered
        answered := hanswered
        kept := fun _ => hok.kept hlive
        closed := fun hclosed => absurd hclosed hopen
        waits := by
          rintro (hwaiting | hcurrent)
          · exact hwaits hwaiting
          · exact absurd hnext hcurrent }
  | some result =>
    exact
      { fifo := hfifo
        numbered := hok.numbered
        answered := hanswered
        kept := fun hended => by cases hended
        closed := fun hclosed => absurd hclosed hopen
        waits := by
          rintro (hwaiting | hcurrent)
          · cases hwaiting
          · exact absurd rfl hcurrent }

theorem loopStep_channelOk {label : LoopLabel ι γ} (hok : ChannelOk callbacks options s)
    (h : s.loopStep callbacks options label = some s') : ChannelOk callbacks options s' := by
  rcases loopStep_cases h with ⟨input, -, hphase, rfl⟩ | ⟨-, hphase, rfl⟩ | ⟨event, queue, -, hphase, hqueue, rfl⟩ |
    ⟨event, input, -, hphase, rfl⟩ | ⟨left, -, hlive, rfl⟩ | ⟨-, hover, hopen, rfl⟩
  · refine afterLoop_channelOk hok (by rw [hphase]; rfl) (by split <;> rfl) ?_ (scheduledTick_answered hok.answered) ?_
    · rw [scheduledTick_handled, hphase]
      exact (List.append_nil _).symm
    · intro hwaiting hzero
      rw [if_pos hzero] at hwaiting
      cases hwaiting
  · have hfifo := hok.fifo
    rw [hphase] at hfifo
    exact
      { fifo := hfifo
        numbered := hok.numbered
        answered := hok.answered
        kept := fun _ => hok.kept (by rw [hphase]; rfl)
        closed := fun hclosed => by
          have hover := (hok.closed hclosed).1
          rw [hphase] at hover
          cases hover
        waits := by
          rintro (hwaiting | hcurrent)
          · cases hwaiting
          · exact absurd rfl hcurrent }
  · have hfifo := hok.fifo
    rw [hphase, hqueue] at hfifo
    exact
      { fifo := hfifo
        numbered := hok.numbered
        answered := hok.answered
        kept := fun _ => hok.kept (by rw [hphase]; rfl)
        closed := fun hclosed => by
          have hover := (hok.closed hclosed).1
          rw [hphase] at hover
          cases hover
        waits := fun _ => hok.waits (.inl hphase) }
  · have hinterval : options.tickInterval ≠ 0 := hok.waits (.inr (by rw [hphase]; exact List.cons_ne_nil _ _))
    refine afterLoop_channelOk hok (by rw [hphase]; rfl) rfl ?_ (waitForEvent_answered hok.answered) ?_
    · rw [waitForEvent_handled _ _ _ _ _ hinterval, hphase, List.map_append]
      rfl
    · rintro ⟨⟩
  · exact
      { fifo := by rw [hok.fifo, hok.kept hlive]; rfl
        numbered := hok.numbered
        answered := hok.answered
        kept := fun hended => by cases hended
        closed := fun hclosed => ⟨rfl, (hok.closed hclosed).2⟩
        waits := by
          rintro (hwaiting | hcurrent)
          · cases hwaiting
          · exact absurd rfl hcurrent }
  · have hcurrent : s.phase.current = [] := by
      cases hphase : s.phase with
      | handling event =>
        rw [hphase] at hover
        cases hover
      | ticking | waiting | ended | shutDown => rfl
    exact
      { fifo := by
          rw [hok.fifo]
          simp only [hcurrent, List.nil_append, List.append_nil]
        numbered := hok.numbered
        answered := hok.answered
        kept := fun hlive => by
          rw [hover] at hlive
          cases hlive
        closed := fun _ => ⟨hover, rfl⟩
        waits := hok.waits }

theorem workerStep_channelOk [DecidableEq ω] {realtime : ω → RealtimeOptions} {w : ω} {label : WorkerLabel}
    (hok : ChannelOk callbacks options s) (h : s.workerStep realtime w label = some s') :
    ChannelOk callbacks options s' := by
  obtain ⟨worker, event, hstep, rfl⟩ := workerStep_cases h
  cases event with
  | none =>
    refine { hok with fifo := ?_, numbered := ?_, closed := ?_ }
    · simpa using hok.fifo
    · simpa using hok.numbered
    · simpa using hok.closed
  | some event =>
    obtain ⟨hopen, hreply⟩ := step_event hstep
    refine { hok with fifo := ?_, numbered := ?_, closed := ?_ }
    · simp only [Option.toList_some, List.map_cons, List.map_nil, List.map_append, hok.fifo, List.append_assoc]
    · intro i pushed hpushed
      simp only [Option.toList_some, List.map_cons, List.map_nil] at hpushed
      by_cases hi : i < s.pushed.length
      · rw [List.getElem?_append_left hi] at hpushed
        exact hok.numbered i pushed hpushed
      · rw [List.getElem?_append_right (by omega), List.getElem?_singleton] at hpushed
        split at hpushed
        · rename_i hzero
          cases hpushed
          rw [show i = s.pushed.length by omega]
          exact hreply
        · cases hpushed
    · intro hclosed
      rw [show s.closed = s.view.closed from rfl, hopen] at hclosed
      cases hclosed

theorem start_channelOk (state : γ) : ChannelOk callbacks options (start (ω := ω) (ι := ι) state) where
  fifo := rfl
  numbered := fun i pushed hpushed => by simp [start] at hpushed
  answered := rfl
  kept := fun _ => rfl
  closed := fun hclosed => by cases hclosed
  waits := by
    rintro (hwaiting | hcurrent)
    · cases hwaiting
    · exact absurd rfl hcurrent

theorem step_channelOk [DecidableEq ω] {realtime : ω → RealtimeOptions} {label : SystemLabel ω ι γ}
    (hok : ChannelOk callbacks options s) (h : s.step callbacks options realtime label = some s') :
    ChannelOk callbacks options s' := by
  cases label with
  | worker w label => exact workerStep_channelOk hok h
  | loop label => exact loopStep_channelOk hok h

/-! ## Answers -/

/-- The events the loop handled are the first ones. -/
theorem ChannelOk.handled_event (hok : ChannelOk callbacks options s) {i : Nat} {handled : HandledEvent ι γ}
    (hhandled : s.loop.handled[i]? = some handled) :
    ∃ pushed, s.pushed[i]? = some pushed ∧ handled.event = pushed.event := by
  have hprefix : s.loop.handled.map (·.event) <+: s.pushed.map (·.event) := ⟨_, hok.fifo.symm⟩
  have hevent : (s.pushed.map (·.event))[i]? = some handled.event :=
    getElem_of_isPrefix hprefix (by rw [List.getElem?_map, hhandled]; rfl)
  rw [List.getElem?_map, Option.map_eq_some_iff] at hevent
  obtain ⟨pushed, hpushed, heq⟩ := hevent
  exact ⟨pushed, hpushed, heq.symm⟩

/-- A reply channel holds the reply of the one time its event was handled. -/
theorem ChannelOk.lookup_replies (hok : ChannelOk callbacks options s) (i : Nat) :
    s.loop.replies.lookup i = s.loop.handled[i]?.map (·.reply callbacks) := by
  have hnumber : ∀ j handled, s.loop.handled[j]? = some handled → handled.event.reply = some (0 + j) := by
    intro j handled hhandled
    obtain ⟨pushed, hpushed, heq⟩ := hok.handled_event hhandled
    rw [Nat.zero_add, heq]
    exact hok.numbered j pushed hpushed
  have hlookup := lookup_numbered (fun handled : HandledEvent ι γ => handled.event.reply) (·.reply callbacks) hnumber i
  rw [Nat.zero_add] at hlookup
  rw [show s.loop.replies = _ from hok.answered]
  exact hlookup

theorem ChannelOk.answer_handled (hok : ChannelOk callbacks options s) {i : Nat} {handled : HandledEvent ι γ}
    (hhandled : s.loop.handled[i]? = some handled) : s.answer i = some (.replied (handled.reply callbacks)) := by
  rw [answer, hok.lookup_replies, hhandled]
  rfl

/-- **An answer is true**: the event was handled with this reply, or it was dropped after the loop was over. -/
theorem ChannelOk.answer_cases (hok : ChannelOk callbacks options s) {i : Nat} {delivery : EventDelivery}
    (h : s.answer i = some delivery) :
    (∃ handled, s.loop.handled[i]? = some handled ∧ delivery = .replied (handled.reply callbacks)) ∨
      (delivery = .dropped ∧ s.loop.handled.length ≤ i ∧ s.phase.live = false) := by
  rw [answer, hok.lookup_replies] at h
  cases hhandled : s.loop.handled[i]? with
  | some handled =>
    rw [hhandled] at h
    cases h
    exact .inl ⟨handled, rfl, rfl⟩
  | none =>
    rw [hhandled, Option.map_none] at h
    simp only at h
    split at h
    · rename_i hany
      cases h
      obtain ⟨event, hevent, -⟩ := List.any_eq_true.1 hany
      refine .inr ⟨rfl, List.getElem?_eq_none_iff.1 hhandled, Bool.eq_false_iff.2 fun hlive => ?_⟩
      rw [hok.kept hlive] at hevent
      cases hevent
    · cases h

end

end RealtimeSystem

end KeliNode
