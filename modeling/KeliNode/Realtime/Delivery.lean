import KeliNode.Realtime.Channel

/-!
# What the sessions say (`runner.rs`)

In any order of the steps, a session sends its transcript up to the point it got to, and what the receipts of it
report is what became of the events (`sessions_truthful`).  The events a worker put into the channel are those of
its own messages, one for each (`events_conserved`).

`SessionOk` is the invariant of one session.  It only speaks of facts that later steps keep (`Later`), so the steps
of the others leave it alone.
-/

namespace KeliNode

open Lib

/-! ## Transcripts -/

section

variable {turn : SessionTurn} {request : RuntimeEventRequest}

theorem SessionTurn.answers_of_request (h : turn.request = some request) :
    turn.answers = [turn.received request, turn.reported request] := by
  rw [SessionTurn.answers, h]
  split
  · rename_i pong hpong
    rw [SessionTurn.request, hpong] at h
    cases h
  · rfl

theorem SessionTurn.answers_of_pong {pong : RealtimeMessage} (h : turn.task = .pong pong) : turn.answers = [pong] := by
  rw [SessionTurn.answers, h]

theorem SessionTurn.request_of_pong {pong : RealtimeMessage} (h : turn.task = .pong pong) : turn.request = none := by
  rw [SessionTurn.request, h]
  rfl

theorem SessionTurn.answers_of_none (hpong : ∀ pong, turn.task ≠ .pong pong) (h : turn.request = none) :
    turn.answers = [] := by
  rw [SessionTurn.answers, h]
  split
  · rename_i pong heq
    exact absurd heq (hpong pong)
  · rfl

theorem transcript_append (options : RealtimeOptions) (greetingTs : Int64) (turns more : List SessionTurn) :
    transcript options greetingTs (turns ++ more) =
      transcript options greetingTs turns ++ more.flatMap SessionTurn.answers := by
  rw [transcript, transcript, List.flatMap_append, List.cons_append]

end

namespace RealtimeSystem

section

variable {ω ι γ : Type} (callbacks : AsyncRuntimeLoopCallbacks ι γ) (options : RuntimeLoopOptions)

/-! ## What later steps keep -/

structure Later (s s' : RealtimeSystem ω ι γ) : Prop where
  pushed : s.pushed <+: s'.pushed
  handled : s.loop.handled <+: s'.loop.handled
  ended : s.phase.live = false → s'.phase.live = false ∧ s'.loop.handled = s.loop.handled
  closed : s.closed = true → s'.closed = true

/-- What is reported of a message of the worker is what became of it. -/
inductive Settled (s : RealtimeSystem ω ι γ) (w : ω) (turn : SessionTurn) : Prop
  | unasked (hrequest : turn.request = none) (hchannel : turn.channel = none)
  | replied {request : RuntimeEventRequest} {channel : Nat} {handled : HandledEvent ι γ}
      (hrequest : turn.request = some request) (hchannel : turn.channel = some channel)
      (hpushed : s.pushed[channel]? = some ⟨w, { kind := request.kind, reply := some channel }⟩)
      (hhandled : s.loop.handled[channel]? = some handled)
      (hevent : handled.event = { kind := request.kind, reply := some channel })
      (hdelivery : turn.delivery = .replied (handled.reply callbacks))
  | dropped {request : RuntimeEventRequest} {channel : Nat}
      (hrequest : turn.request = some request) (hchannel : turn.channel = some channel)
      (hpushed : s.pushed[channel]? = some ⟨w, { kind := request.kind, reply := some channel }⟩)
      (hunhandled : s.loop.handled.length ≤ channel) (hover : s.phase.live = false)
      (hdelivery : turn.delivery = .dropped)
  | closed {request : RuntimeEventRequest}
      (hrequest : turn.request = some request) (hchannel : turn.channel = none) (hclosed : s.closed = true)
      (hdelivery : turn.delivery = .closed)

/-- What a phase relies on. -/
def PhaseOk (s : RealtimeSystem ω ι γ) (w : ω) : SessionPhase → Prop
  | .greeting | .receiving => True
  | .ponging turn pong => turn.task = .pong pong ∧ turn.channel = none
  | .announcing turn request | .pushing turn request => turn.request = some request ∧ turn.channel = none
  | .waiting turn request channel =>
    turn.request = some request ∧ turn.channel = some channel ∧
      s.pushed[channel]? = some ⟨w, { kind := request.kind, reply := some channel }⟩
  | .reporting turn request => turn.request = some request ∧ Settled callbacks s w turn

end

end RealtimeSystem

/-- What a session has sent when it stands where it does. -/
def Session.said (options : RealtimeOptions) (session : Session) : List RealtimeMessage :=
  match session.phase with
  | .greeting => []
  | .receiving | .ponging _ _ | .announcing _ _ => transcript options session.greetingTs session.turns
  | .pushing turn request | .waiting turn request _ | .reporting turn request =>
    transcript options session.greetingTs session.turns ++ [turn.received request]

/-- The reply channels a session had made. -/
def Session.channels (session : Session) : List Nat :=
  session.turns.filterMap (·.channel) ++ (session.phase.pending.bind (·.channel)).toList

def Worker.channels (worker : Worker) : List Nat := worker.sessions.flatMap Session.channels

namespace RealtimeSystem

section

variable {ω ι γ : Type} (callbacks : AsyncRuntimeLoopCallbacks ι γ) (options : RuntimeLoopOptions)

structure SessionOk (realtime : RealtimeOptions) (s : RealtimeSystem ω ι γ) (w : ω) (session : Session) : Prop where
  greeting : session.phase = .greeting → session.turns = []
  said : session.sent = session.said realtime
  turns : ∀ turn ∈ session.turns, Settled callbacks s w turn
  phase : PhaseOk callbacks s w session.phase

/-! ## Later steps -/

section

variable {callbacks options} {s s' : RealtimeSystem ω ι γ} {w : ω}

theorem Later.refl (s : RealtimeSystem ω ι γ) : Later s s := ⟨List.prefix_rfl, List.prefix_rfl, fun h => ⟨h, rfl⟩, id⟩

theorem Settled.later {turn : SessionTurn} (h : Settled callbacks s w turn) (hlater : Later s s') :
    Settled callbacks s' w turn := by
  cases h with
  | unasked hrequest hchannel => exact .unasked hrequest hchannel
  | replied hrequest hchannel hpushed hhandled hevent hdelivery =>
    exact .replied hrequest hchannel (getElem_of_isPrefix hlater.pushed hpushed)
      (getElem_of_isPrefix hlater.handled hhandled) hevent hdelivery
  | dropped hrequest hchannel hpushed hunhandled hover hdelivery =>
    obtain ⟨hover', heq⟩ := hlater.ended hover
    exact .dropped hrequest hchannel (getElem_of_isPrefix hlater.pushed hpushed) (by rw [heq]; exact hunhandled) hover'
      hdelivery
  | closed hrequest hchannel hclosed hdelivery =>
    exact .closed hrequest hchannel (hlater.closed hclosed) hdelivery

theorem PhaseOk.later {phase : SessionPhase} (h : PhaseOk callbacks s w phase) (hlater : Later s s') :
    PhaseOk callbacks s' w phase := by
  cases phase with
  | greeting | receiving | ponging | announcing | pushing => exact h
  | waiting turn request channel => exact ⟨h.1, h.2.1, getElem_of_isPrefix hlater.pushed h.2.2⟩
  | reporting turn request => exact ⟨h.1, h.2.later hlater⟩

theorem SessionOk.later {realtime : RealtimeOptions} {session : Session} (h : SessionOk callbacks realtime s w session)
    (hlater : Later s s') : SessionOk callbacks realtime s' w session where
  greeting := h.greeting
  said := h.said
  turns := fun turn hturn => (h.turns turn hturn).later hlater
  phase := h.phase.later hlater

theorem later_of_loopStep {label : LoopLabel ι γ} (hok : ChannelOk callbacks options s)
    (h : s.loopStep callbacks options label = some s') : Later s s' ∧ s'.workers = s.workers ∧ s'.pushed = s.pushed := by
  have hafter : ∀ next (result : Option (Except Text RuntimeLoopExit) × EventLoop ι γ), s.phase.live = true →
      s.loop.handled <+: result.2.handled →
      Later s (s.afterLoop next result) ∧ (s.afterLoop next result).workers = s.workers ∧
        (s.afterLoop next result).pushed = s.pushed := by
    intro next result hlive hhandled
    have hover : s.phase.live ≠ false := by
      rw [hlive]
      decide
    obtain ⟨exit, loop⟩ := result
    cases exit with
    | none => exact ⟨⟨List.prefix_rfl, hhandled, fun h => absurd h hover, id⟩, rfl, rfl⟩
    | some exit => exact ⟨⟨List.prefix_rfl, hhandled, fun h => absurd h hover, id⟩, rfl, rfl⟩
  rcases loopStep_cases h with ⟨input, -, hphase, rfl⟩ | ⟨-, hphase, rfl⟩ | ⟨event, queue, -, hphase, -, rfl⟩ |
    ⟨event, input, -, hphase, rfl⟩ | ⟨left, -, hlive, rfl⟩ | ⟨-, hover, -, rfl⟩
  · exact hafter _ _ (by rw [hphase]; rfl) ⟨[], by rw [scheduledTick_handled, List.append_nil]⟩
  · exact ⟨⟨List.prefix_rfl, List.prefix_rfl, fun h => (by rw [hphase] at h; cases h), id⟩, rfl, rfl⟩
  · exact ⟨⟨List.prefix_rfl, List.prefix_rfl, fun h => (by rw [hphase] at h; cases h), id⟩, rfl, rfl⟩
  · refine hafter _ _ (by rw [hphase]; rfl) ?_
    rw [waitForEvent_handled _ _ _ _ _ (hok.waits (.inr (by rw [hphase]; exact List.cons_ne_nil _ _)))]
    exact List.prefix_append _ _
  · exact ⟨⟨List.prefix_rfl, List.prefix_rfl, fun _ => ⟨rfl, rfl⟩, id⟩, rfl, rfl⟩
  · exact ⟨⟨List.prefix_rfl, List.prefix_rfl, fun _ => ⟨hover, rfl⟩, fun _ => rfl⟩, rfl, rfl⟩

/-! ## One step of a session -/

theorem channels_singleton (turn : SessionTurn) : [turn].filterMap (·.channel) = turn.channel.toList := by
  cases hchannel : turn.channel <;> simp [hchannel]

variable {realtime : RealtimeOptions} {session session' : Session}

theorem receive_ok {message : RealtimeMessage} {ts : Int64} (h : SessionOk callbacks realtime s w session)
    (hstep : session.receive message ts = some session') :
    SessionOk callbacks realtime s w session' ∧ session'.channels = session.channels := by
  unfold Session.receive at hstep
  split at hstep
  · rename_i hphase
    have hsaid : session.sent = transcript realtime session.greetingTs session.turns := by
      rw [h.said, Session.said, hphase]
    simp only at hstep
    split at hstep
    · rename_i pong hpong
      cases hstep
      refine ⟨⟨fun hgreeting => (by cases hgreeting), hsaid, h.turns, hpong, rfl⟩, ?_⟩
      simp [Session.channels, hphase, SessionPhase.pending]
    · rename_i hpong
      split at hstep
      · rename_i hnone
        cases hstep
        refine ⟨⟨fun hgreeting => ?_, ?_, ?_, ?_⟩, ?_⟩
        · rw [hphase] at hgreeting
          cases hgreeting
        · rw [Session.said, hphase]
          simp only
          rw [transcript_append, List.flatMap_singleton, SessionTurn.answers_of_none hpong hnone, List.append_nil]
          exact hsaid
        · intro turn hturn
          rcases List.mem_append.1 hturn with hturn | hturn
          · exact h.turns turn hturn
          · rw [List.mem_singleton.1 hturn]
            exact .unasked hnone rfl
        · rw [hphase]
          trivial
        · simp [Session.channels, hphase, SessionPhase.pending]
      · rename_i request hrequest
        cases hstep
        refine ⟨⟨fun hgreeting => (by cases hgreeting), hsaid, h.turns, hrequest, rfl⟩, ?_⟩
        simp [Session.channels, hphase, SessionPhase.pending]
  · cases hstep

theorem send_ok {ts : Int64} (h : SessionOk callbacks realtime s w session)
    (hstep : session.send realtime ts = some session') :
    SessionOk callbacks realtime s w session' ∧ session'.channels = session.channels := by
  have hphaseOk := h.phase
  have hsaid := h.said
  -- the turn that was answered joins the others
  have hturns : ∀ turn, Settled callbacks s w turn → ∀ earlier ∈ session.turns ++ [turn], Settled callbacks s w earlier := by
    intro turn hturn earlier hearlier
    rcases List.mem_append.1 hearlier with hearlier | hearlier
    · exact h.turns earlier hearlier
    · rw [List.mem_singleton.1 hearlier]
      exact hturn
  unfold Session.send at hstep
  split at hstep
  · rename_i hphase
    cases hstep
    have hnone := h.greeting hphase
    rw [Session.said, hphase] at hsaid
    refine ⟨⟨fun hgreeting => (by cases hgreeting), ?_, h.turns, trivial⟩, ?_⟩
    · simp only [Session.said, hsaid, hnone, transcript, List.flatMap_nil, List.nil_append]
    · simp [Session.channels, hphase, SessionPhase.pending]
  · rename_i turn pong hphase
    cases hstep
    rw [hphase] at hphaseOk
    rw [Session.said, hphase] at hsaid
    refine ⟨⟨fun hgreeting => (by cases hgreeting), ?_, ?_, trivial⟩, ?_⟩
    · simp only [Session.said, hsaid]
      rw [transcript_append, List.flatMap_singleton, SessionTurn.answers_of_pong hphaseOk.1]
    · exact hturns turn (.unasked (SessionTurn.request_of_pong hphaseOk.1) hphaseOk.2)
    · simp [Session.channels, hphase, SessionPhase.pending, channels_singleton]
  · rename_i turn request hphase
    cases hstep
    rw [hphase] at hphaseOk
    rw [Session.said, hphase] at hsaid
    refine ⟨⟨fun hgreeting => (by cases hgreeting), ?_, h.turns, hphaseOk⟩, ?_⟩
    · simp only [Session.said, hsaid]
    · simp [Session.channels, hphase, SessionPhase.pending]
  · rename_i turn request hphase
    cases hstep
    rw [hphase] at hphaseOk
    rw [Session.said, hphase] at hsaid
    have hsettled : Settled callbacks s w { turn with reportedTs := ts } := by
      cases hphaseOk.2 with
      | unasked hrequest hchannel => exact .unasked hrequest hchannel
      | replied hrequest hchannel hpushed hhandled hevent hdelivery =>
        exact .replied hrequest hchannel hpushed hhandled hevent hdelivery
      | dropped hrequest hchannel hpushed hunhandled hover hdelivery =>
        exact .dropped hrequest hchannel hpushed hunhandled hover hdelivery
      | closed hrequest hchannel hclosed hdelivery => exact .closed hrequest hchannel hclosed hdelivery
    refine ⟨⟨fun hgreeting => (by cases hgreeting), ?_, hturns _ hsettled, trivial⟩, ?_⟩
    · have hrequest : SessionTurn.request { turn with reportedTs := ts } = some request := hphaseOk.1
      have hanswers := SessionTurn.answers_of_request hrequest
      simp only [Session.said, hsaid]
      rw [transcript_append, List.flatMap_singleton, hanswers, List.append_assoc]
      rfl
    · simp [Session.channels, hphase, SessionPhase.pending, channels_singleton]
  · cases hstep

theorem push_ok {event : Option RuntimeLoopEvent} (h : SessionOk callbacks realtime s w session) (hlater : Later s s')
    (hpushed : s'.pushed = s.pushed ++ event.toList.map fun event => { worker := w, event })
    (hstep : session.push s.view = some (session', event)) :
    SessionOk callbacks realtime s' w session' ∧
      session'.channels = session.channels ++ event.toList.filterMap (·.reply) := by
  have hphaseOk := h.phase
  have hsaid := h.said
  unfold Session.push at hstep
  split at hstep
  · rename_i turn request hphase
    rw [hphase] at hphaseOk
    rw [Session.said, hphase] at hsaid
    split at hstep
    · rename_i hclosed
      cases hstep
      refine ⟨⟨fun hgreeting => (by cases hgreeting), hsaid, (h.later hlater).turns, hphaseOk.1, ?_⟩, ?_⟩
      · exact .closed hphaseOk.1 hphaseOk.2 (hlater.closed hclosed) rfl
      · simp [Session.channels, hphase, SessionPhase.pending]
    · cases hstep
      refine ⟨⟨fun hgreeting => (by cases hgreeting), hsaid, (h.later hlater).turns, hphaseOk.1, rfl, ?_⟩, ?_⟩
      · rw [hpushed]
        simp [view]
      · simp [Session.channels, hphase, SessionPhase.pending, hphaseOk.2]
  · cases hstep

theorem collect_ok (hok : ChannelOk callbacks options s) (h : SessionOk callbacks realtime s w session)
    (hstep : session.collect s.view = some session') :
    SessionOk callbacks realtime s w session' ∧ session'.channels = session.channels := by
  have hphaseOk := h.phase
  have hsaid := h.said
  unfold Session.collect at hstep
  split at hstep
  · rename_i turn request channel hphase
    rw [hphase] at hphaseOk
    rw [Session.said, hphase] at hsaid
    obtain ⟨hrequest, hchannel, hpushed⟩ := hphaseOk
    obtain ⟨delivery, hanswer, rfl⟩ := Option.map_eq_some_iff.1 hstep
    refine ⟨⟨fun hgreeting => (by cases hgreeting), hsaid, h.turns, hrequest, ?_⟩, ?_⟩
    · rcases hok.answer_cases hanswer with ⟨handled, hhandled, rfl⟩ | ⟨rfl, hunhandled, hover⟩
      · obtain ⟨pushed, hpushed', hevent⟩ := hok.handled_event hhandled
        rw [hpushed] at hpushed'
        cases hpushed'
        exact .replied hrequest hchannel hpushed hhandled hevent rfl
      · exact .dropped hrequest hchannel hpushed hunhandled hover rfl
    · simp [Session.channels, hphase, SessionPhase.pending]
  · cases hstep

/-! ## One step of the system -/

/-- **What a step does to the sessions of its worker**: none of them changes, one is begun, or the current one goes
on. -/
theorem step_sessions {view : ChannelView} {worker worker' : Worker} {label : WorkerLabel}
    {event : Option RuntimeLoopEvent} (h : worker.step realtime view label = some (worker', event)) :
    (event = none ∧ (worker'.sessions = worker.sessions ∨ worker'.sessions = worker.sessions ++ [({} : Session)])) ∨
      ∃ session session', worker.sessions = worker.past ++ [session] ∧ worker'.sessions = worker.past ++ [session'] ∧
        ((event = none ∧ ∃ message ts, session.receive message ts = some session') ∨
          (event = none ∧ ∃ ts, session.send realtime ts = some session') ∨
          session.push view = some (session', event) ∨ (event = none ∧ session.collect view = some session')) := by
  unfold Worker.step at h
  split at h
  · cases h
  split at h
  · rename_i hnone
    cases h
    refine .inl ⟨rfl, .inr ?_⟩
    rw [Worker.sessions, Worker.sessions, hnone]
    simp
  · rename_i session message ts hsession
    obtain ⟨session', hmove, heq⟩ := Option.map_eq_some_iff.1 h
    cases heq
    exact .inr ⟨session, session', by rw [Worker.sessions, hsession]; rfl, rfl, .inl ⟨rfl, message, ts, hmove⟩⟩
  · rename_i session ts hsession
    obtain ⟨session', hmove, heq⟩ := Option.map_eq_some_iff.1 h
    cases heq
    exact .inr ⟨session, session', by rw [Worker.sessions, hsession]; rfl, rfl, .inr (.inl ⟨rfl, ts, hmove⟩)⟩
  · rename_i session hsession
    obtain ⟨⟨session', event'⟩, hmove, heq⟩ := Option.map_eq_some_iff.1 h
    cases heq
    exact .inr ⟨session, session', by rw [Worker.sessions, hsession]; rfl, rfl, .inr (.inr (.inl hmove))⟩
  · rename_i session hsession
    obtain ⟨session', hmove, heq⟩ := Option.map_eq_some_iff.1 h
    cases heq
    exact .inr ⟨session, session', by rw [Worker.sessions, hsession]; rfl, rfl, .inr (.inr (.inr ⟨rfl, hmove⟩))⟩
  · rename_i session hsession
    split at h
    · cases h
      refine .inl ⟨rfl, .inl ?_⟩
      rw [Worker.sessions, Worker.sessions, hsession]
      simp
    · cases h
  · cases h
    exact .inl ⟨rfl, .inl (List.append_nil _)⟩
  · cases h

theorem greeting_ok (s : RealtimeSystem ω ι γ) (w : ω) : SessionOk callbacks realtime s w ({} : Session) where
  greeting := fun _ => rfl
  said := rfl
  turns := fun turn hturn => by cases hturn
  phase := trivial

end

variable [DecidableEq ω] (realtime : ω → RealtimeOptions)

/-- The numbers of the events a worker put into the channel. -/
def channelsOf (s : RealtimeSystem ω ι γ) (w : ω) : List Nat :=
  s.pushed.filterMap fun pushed => if pushed.worker = w then pushed.event.reply else none

structure SystemOk (s : RealtimeSystem ω ι γ) : Prop where
  channel : ChannelOk callbacks options s
  sessions : ∀ w, ∀ session ∈ (s.workers w).sessions, SessionOk callbacks (realtime w) s w session
  channels : ∀ w, (s.workers w).channels = s.channelsOf w

variable {callbacks options realtime} {s s' : RealtimeSystem ω ι γ}

theorem workerStep_ok {w : ω} {label : WorkerLabel} (hok : SystemOk callbacks options realtime s)
    (h : s.workerStep realtime w label = some s') : SystemOk callbacks options realtime s' := by
  have hchannel := workerStep_channelOk hok.channel h
  obtain ⟨worker, event, hstep, heq⟩ := workerStep_cases h
  have hworkers : s'.workers = Function.update s.workers w worker := by rw [heq]
  have hpushed : s'.pushed = s.pushed ++ event.toList.map fun event => { worker := w, event } := by rw [heq]
  have hlater : Later s s' := by
    rw [heq]
    exact ⟨List.prefix_append _ _, List.prefix_rfl, fun hover => ⟨hover, rfl⟩, id⟩
  clear heq
  have hmine : (∀ session ∈ worker.sessions, SessionOk callbacks (realtime w) s' w session) ∧
      worker.channels = (s.workers w).channels ++ event.toList.filterMap (·.reply) := by
    have hsessions := hok.sessions w
    have hkept : ∀ session ∈ (s.workers w).sessions, SessionOk callbacks (realtime w) s' w session :=
      fun session hsession => (hsessions session hsession).later hlater
    rcases step_sessions hstep with ⟨rfl, heq | heq⟩ | ⟨session, session', hbefore, hafter, hmove⟩
    · rw [Worker.channels, heq]
      exact ⟨hkept, (List.append_nil _).symm⟩
    · rw [Worker.channels, heq, List.flatMap_append]
      refine ⟨fun session hsession => ?_, ?_⟩
      · rcases List.mem_append.1 hsession with hsession | hsession
        · exact hkept session hsession
        · rw [List.mem_singleton.1 hsession]
          exact greeting_ok _ w
      · rfl
    · have hsession : SessionOk callbacks (realtime w) s w session :=
        hsessions session (by rw [hbefore]; exact List.mem_append_right _ (List.mem_singleton_self session))
      have hnext : SessionOk callbacks (realtime w) s' w session' ∧
          session'.channels = session.channels ++ event.toList.filterMap (·.reply) := by
        rcases hmove with ⟨rfl, message, ts, hmove⟩ | ⟨rfl, ts, hmove⟩ | hmove | ⟨rfl, hmove⟩
        · obtain ⟨hnext, heq⟩ := receive_ok hsession hmove
          exact ⟨hnext.later hlater, by rw [heq]; exact (List.append_nil _).symm⟩
        · obtain ⟨hnext, heq⟩ := send_ok hsession hmove
          exact ⟨hnext.later hlater, by rw [heq]; exact (List.append_nil _).symm⟩
        · exact push_ok hsession hlater hpushed hmove
        · obtain ⟨hnext, heq⟩ := collect_ok hok.channel hsession hmove
          exact ⟨hnext.later hlater, by rw [heq]; exact (List.append_nil _).symm⟩
      constructor
      · intro other hother
        rw [hafter] at hother
        rcases List.mem_append.1 hother with hother | hother
        · exact hkept other (by rw [hbefore]; exact List.mem_append_left _ hother)
        · rw [List.mem_singleton.1 hother]
          exact hnext.1
      · rw [Worker.channels, Worker.channels, hafter, hbefore, List.flatMap_append, List.flatMap_append,
          List.flatMap_singleton, List.flatMap_singleton, hnext.2, List.append_assoc]
  constructor
  · exact hchannel
  · intro v session hsession
    rw [hworkers] at hsession
    by_cases hv : v = w
    · subst hv
      rw [Function.update_self] at hsession
      exact hmine.1 session hsession
    · rw [Function.update_of_ne hv] at hsession
      exact (hok.sessions v session hsession).later hlater
  · intro v
    rw [channelsOf, hpushed, hworkers, List.filterMap_append, List.filterMap_map]
    by_cases hv : v = w
    · subst hv
      rw [Function.update_self, hmine.2, hok.channels v, channelsOf]
      congr 1
      cases event <;> simp
    · rw [Function.update_of_ne hv, hok.channels v, channelsOf]
      cases event <;> simp [Ne.symm hv]

theorem loopStep_ok {label : LoopLabel ι γ} (hok : SystemOk callbacks options realtime s)
    (h : s.loopStep callbacks options label = some s') : SystemOk callbacks options realtime s' := by
  obtain ⟨hlater, hworkers, hpushed⟩ := later_of_loopStep hok.channel h
  refine ⟨loopStep_channelOk hok.channel h, fun w session hsession => ?_, fun w => ?_⟩
  · rw [hworkers] at hsession
    exact (hok.sessions w session hsession).later hlater
  · rw [hworkers, channelsOf, hpushed]
    exact hok.channels w

theorem reachable_ok {state : γ} (h : Reachable callbacks options realtime state s) :
    SystemOk callbacks options realtime s := by
  obtain ⟨labels, hrun⟩ := h
  refine runLabels_invariant (fun s label s' hok hstep => ?_) ?_ hrun
  · cases label with
    | worker w label => exact workerStep_ok hok hstep
    | loop label => exact loopStep_ok hok hstep
  · exact ⟨start_channelOk state, fun w session hsession => (by cases hsession), fun w => rfl⟩

/-! ## The results -/

/-- **No event is lost**, in any order of the steps: those that were put into the channel are, in their order, the
ones handled, the ones dropped, the one in hand and the ones queued; while the loop is live none was dropped; and a
worker put there one event for each reply channel its messages had made. -/
theorem events_conserved {state : γ} (h : Reachable callbacks options realtime state s) :
    s.pushed.map (·.event) = s.loop.handled.map (·.event) ++ (s.dropped ++ (s.phase.current ++ s.queue)) ∧
      (∀ i (pushed : Pushed ω), s.pushed[i]? = some pushed → pushed.event.reply = some i) ∧
      (s.phase.live = true → s.dropped = []) ∧ ∀ w, (s.workers w).channels = s.channelsOf w := by
  have hok := reachable_ok h
  exact ⟨hok.channel.fifo, hok.channel.numbered, hok.channel.kept, hok.channels⟩

end

/-! ## A refresh and a reload -/

/-- Callbacks that never have anything to do. -/
def idleCallbacks : AsyncRuntimeLoopCallbacks Unit Unit where
  refreshUsers _ state := (.ok ∅, state)
  runTick _ _ state := (.ok .continue, state)

def idleOptions : RuntimeLoopOptions where
  tickInterval := 60
  userRefreshInterval := 1
  panelReportInterval := 1

/-- Two workers, one of which is told of new users while the other one is told of a new configuration. -/
def twoWorkersLabels : List (SystemLabel Bool Unit Unit) :=
  [.worker true .connect, .worker false .connect, .worker true (.send 1), .loop (.tick ()), .worker false (.send 2),
    .worker true (.receive { messageType := "invalidate", topic := "users" } 3),
    .worker false (.receive { messageType := "invalidate", topic := "config" } 4),
    .worker false (.send 5), .worker true (.send 6), .worker true .push, .worker false .push,
    .loop .take, .loop (.handle ()), .worker true .collect, .loop (.tick ()), .worker true (.send 7), .loop .take,
    .loop (.shutdown ()), .worker false .collect, .worker false (.send 8), .worker true .abort, .loop .close]

def twoWorkers : RealtimeSystem Bool Unit Unit :=
  (runLabels (step idleCallbacks idleOptions fun _ => {}) twoWorkersLabels (start ())).getD (start ())

theorem twoWorkers_reachable : Reachable idleCallbacks idleOptions (fun _ : Bool => {}) () twoWorkers := by
  refine ⟨twoWorkersLabels, ?_⟩
  rfl

theorem events_conserved_twoWorkers :
    twoWorkers.pushed.map (·.event) =
        twoWorkers.loop.handled.map (·.event) ++ (twoWorkers.dropped ++ (twoWorkers.phase.current ++ twoWorkers.queue)) ∧
      (∀ i (pushed : Pushed Bool), twoWorkers.pushed[i]? = some pushed → pushed.event.reply = some i) ∧
      (twoWorkers.phase.live = true → twoWorkers.dropped = []) ∧
      ∀ w, (twoWorkers.workers w).channels = twoWorkers.channelsOf w :=
  events_conserved twoWorkers_reachable

end RealtimeSystem

end KeliNode
