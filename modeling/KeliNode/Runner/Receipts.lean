import KeliNode.Runner.Events
import KeliNode.Runner.Reach

/-!
# Truthful receipts

A refresh that an event asked for is answered `applied` whenever its tick returned `Ok`.  The tick does so when
every change was taken by the core, when a plan rebuilt with the changes was applied, and when the attempt was
deferred for a node the core has no inbound for.  A deferred change is not delivered, and a rebuild may drop the
changed node or leave the core with its old users.  `receipts_truthful`: every received event gets its one reply,
and the replies are true along every run whose answered refreshes do not meet these (`RefreshReaches`).
-/

namespace KeliNode

open Lib Std

/-! ## Delivered changes -/

/-- A refresh marks only tags of nodes, and they have an entry. -/
theorem marked_of_load {plan : RuntimeBootstrapPlan} {mode : UserRefreshPayloadMode} {answers : Text → PanelUsersAnswer}
    {nodes : List NodeInfo} {sync final : RuntimeUserSync} {users loaded : UsersByNodeTag} {tags : List Text}
    (hstart : ∀ tag, tag ∈ users → sync[tag]?.isSome = true ∧ tag ∈ tags)
    (h : loadUsersByNodeTag plan mode answers nodes sync users = (.ok loaded, final)) {tag : Text} (htag : tag ∈ loaded) :
    final[tag]?.isSome = true ∧ tag ∈ tags ++ nodes.map (·.tag) := by
  induction nodes generalizing sync users tags with
  | nil =>
    cases h
    obtain ⟨hsome, hmem⟩ := hstart tag htag
    exact ⟨hsome, List.mem_append_left _ hmem⟩
  | cons node nodes ih =>
    have hinsert : ∀ entry, ∀ tag, tag ∈ users →
        (sync.insert node.tag entry)[tag]?.isSome = true ∧ tag ∈ tags ++ [node.tag] := by
      intro entry tag hmem
      refine ⟨?_, List.mem_append_left _ (hstart tag hmem).2⟩
      rw [ExtTreeMap.getElem?_insert]
      split
      · rfl
      · exact (hstart tag hmem).1
    have hshift : tags ++ (node :: nodes).map (·.tag) = tags ++ [node.tag] ++ nodes.map (·.tag) := by simp
    rw [hshift]
    rw [loadUsersByNodeTag] at h
    split at h
    · exact ih (fun tag hmem => ⟨(hstart tag hmem).1, List.mem_append_left _ (hstart tag hmem).2⟩) h
    · split at h
      · cases h
      · simp only at h
        split at h
        · split at h
          · exact ih (hinsert _) h
          · cases h
        · rename_i entry hload
          refine ih (fun other hother => ?_) h
          by_cases heq : other = node.tag
          · subst heq
            rw [ExtTreeMap.getElem?_insert_self]
            exact ⟨rfl, by simp⟩
          · exact hinsert entry other ((mem_usersForTick_ne heq).1 hother)

section

variable {ν σ : Type} [DecidableEq ν] {validate : InboundPlan → Except Text Unit} {env : ControlEnv ν σ}
  {answers : TickAnswers} {users : UsersByNodeTag} {loop after : RuntimeLoop ν σ}

variable (validate answers users loop after) in
/-- The changes reached the core in a tick: the attempt was made and every node took its own, or the plan was
rebuilt and the core now holds the refreshed users of every changed node. -/
inductive Delivered : Prop
  | native {corePlan : CorePlan} (hmade : answers.running = none ∧ triesDeltas answers loop users.keys = true)
      (hplan : loop.plan.corePlan = some corePlan)
      (htook : Through (NodeTook answers loop.plan corePlan loop.userSync) users.keys loop.world after.world)
  | rebuilt {mid : RuntimeLoop ν σ}
      (hchanges : applyUserChanges validate answers false users loop = (.ok (.goOn false users.keys), mid))
      (hreached : ∀ tag ∈ users.keys, ∃ entry, loop.userSync[tag]? = some entry ∧
        UsersReached after.plan tag entry.state.users after.world.core)

variable (answers users loop) in
/-- The attempt is made, and every changed node takes its change. -/
def TakesAll : Prop :=
  (answers.running = none ∧ triesDeltas answers loop users.keys = true) ∧ ∃ corePlan world,
    loop.plan.corePlan = some corePlan ∧
      Through (NodeTook answers loop.plan corePlan loop.userSync) users.keys loop.world world

variable (env answers users loop) in
/-- What a tick relies on to bring its changes to the core: every node takes its own; or no node comes up that the
core lacks an inbound for, and a rebuild reaches the core. -/
def ChangesReach : Prop :=
  TakesAll answers users loop ∨ ¬ Defers answers loop users.keys ∧ RebuildReaches env answers loop users.keys

omit [DecidableEq ν] in
theorem takesAll_iff : TakesAll answers users loop ↔
    ∃ world, deltaOutcome answers users.keys loop = .ok (.applied, world) := by
  constructor
  · rintro ⟨hmade, corePlan, world, hplan, htook⟩
    exact ⟨world, deltaOutcome_applied_iff.2 ⟨hmade, corePlan, hplan, htook⟩⟩
  · rintro ⟨world, h⟩
    obtain ⟨hmade, corePlan, hplan, htook⟩ := deltaOutcome_applied_iff.1 h
    exact ⟨hmade, corePlan, world, hplan, htook⟩

omit [DecidableEq ν] in
/-- The changes of a tick that was asked for by an event: it ends with the attempt, or goes on with a rebuild. -/
theorem applyUserChanges_of_event (hsome : users.isEmpty = false) :
    applyUserChanges validate answers false users loop =
      match deltaOutcome answers users.keys loop with
      | .error error => (.error error, loop)
      | .ok (.applied, world) => (.ok .finished, { loop with
          world
          userIdLookup := syncRuntimeUserIdLookupFromState loop.userSync users.keys loop.userIdLookup
          userSync := clearLastChanges users.keys loop.userSync })
      | .ok (.deferred, world) => (.ok .finished, { loop with world })
      | .ok (.rebuild, world) =>
        match RuntimeLoop.rebuilt validate { loop with world }
          (userSyncUsersForRuntimeRebuild loop.plan loop.userSync users.keys users) with
        | .error error => (.error error, { loop with world })
        | .ok mid => (.ok (.goOn false users.keys), mid) := by
  rw [applyUserChanges, if_neg (by simp [hsome])]
  rfl

/-- **One tick** that was asked for by an event and returned `Ok`. -/
theorem delivered_of_reach (hsome : users.isEmpty = false)
    (hmarked : ∀ tag ∈ users.keys, loop.userSync[tag]?.isSome = true ∧ tag ∈ loop.plan.nodeInfos.map (·.tag))
    (hreach : ChangesReach env answers users loop)
    (h : runTick validate env answers false users loop = (.ok (), after)) :
    Delivered validate answers users loop after := by
  have hchanges := @applyUserChanges_of_event ν σ validate answers users loop hsome
  cases houtcome : deltaOutcome answers users.keys loop with
  | error error =>
    rw [houtcome] at hchanges
    rw [runTick, hchanges] at h
    cases h
  | ok found =>
    obtain ⟨outcome, world⟩ := found
    rw [houtcome] at hchanges
    cases outcome with
    | applied =>
      rw [runTick, hchanges] at h
      cases h
      obtain ⟨hmade, corePlan, hplan, htook⟩ := deltaOutcome_applied_iff.1 houtcome
      exact .native hmade hplan htook
    | deferred =>
      rcases hreach with htakes | ⟨hnot, -⟩
      · obtain ⟨_, happlied⟩ := takesAll_iff.1 htakes
        rw [houtcome] at happlied
        cases happlied
      · exact absurd (deltaOutcome_deferred_iff.1 ⟨world, houtcome⟩) hnot
    | rebuild =>
      have hreaches : RebuildReaches env answers loop users.keys := by
        rcases hreach with htakes | ⟨-, hreaches⟩
        · obtain ⟨_, happlied⟩ := takesAll_iff.1 htakes
          rw [houtcome] at happlied
          cases happlied
        · exact hreaches
      simp only at hchanges
      cases hrebuilt : RuntimeLoop.rebuilt validate { loop with world }
          (userSyncUsersForRuntimeRebuild loop.plan loop.userSync users.keys users) with
      | error error =>
        rw [hrebuilt] at hchanges
        rw [runTick, hchanges] at h
        cases h
      | ok mid =>
        rw [hrebuilt] at hchanges
        rw [runTick, hchanges] at h
        simp only at h
        cases hready : ensureKeliCoreRsRestartUsesLatestUsers validate answers mid with
        | error error => simp [hready] at h
        | ok ready =>
          simp only [hready, Bool.false_and] at h
          have hloop := rebuilt_ready hreaches.apart (fun tag htag => (hmarked tag htag).1)
            (deltaOutcome_keysKept houtcome) hrebuilt hready
          exact .rebuilt hchanges fun tag htag =>
            apply_reaches hreaches hloop ExtTreeMap.nodup_keys (fun tag htag => (hmarked tag htag).2) h htag

end

/-! ## One reply each -/

section

variable {ι γ : Type} (callbacks : AsyncRuntimeLoopCallbacks ι γ)

/-- The replies are those of the received events with a channel, one for each and in their order. -/
def Answered (loop : EventLoop ι γ) : Prop :=
  loop.replies = loop.handled.filterMap fun handled =>
    handled.event.reply.map fun channel => (channel, handled.reply callbacks)

variable {callbacks}

theorem scheduledTick_answered {options : RuntimeLoopOptions} {input : ι} {loop : EventLoop ι γ}
    (h : Answered callbacks loop) : Answered callbacks (scheduledTick callbacks options input loop).2 := by
  unfold scheduledTick
  split
  · exact h
  · simp only
    split
    · exact h
    · split
      · exact h
      · split
        · exact h
        · split <;> exact h

theorem waitForEvent_answered {options : RuntimeLoopOptions} {event : Option (RuntimeLoopEvent × ι)}
    {loop : EventLoop ι γ} (h : Answered callbacks loop) :
    Answered callbacks (waitForEvent callbacks options event loop).2 := by
  unfold waitForEvent
  split
  · exact h
  · split
    · exact h
    · rename_i event input
      have hnext : ∀ state, Answered callbacks { loop with
          callbacks := state
          handled := loop.handled ++ [{ event, input, before := loop.callbacks }]
          replies := loop.replies ++ (handleRuntimeLoopEvent callbacks input event loop.callbacks).2.1 } := by
        intro state
        simp only [Answered, List.filterMap_append]
        rw [show loop.replies = _ from h]
        congr 1
        obtain ⟨kind, reply⟩ := event
        cases reply <;> rfl
      simp only
      split
      · exact hnext _
      · split <;> exact hnext _

/-- **Every received event is answered**, whatever the callbacks do, also the one the loop ends with. -/
theorem run_answered (options : RuntimeLoopOptions) (turns : List (LoopTurn ι)) (state : γ) :
    Answered callbacks (runRuntimeLoopAsyncWithEvents callbacks options turns state).2 := by
  refine loopUntil_invariant (fun turn _ loop h => ?_) rfl
  have htick : Answered callbacks (scheduledTick callbacks options turn.tick loop).2 := scheduledTick_answered h
  unfold runTurn
  split
  · rename_i hrun
    rw [hrun] at htick
    exact htick
  · rename_i hrun
    rw [hrun] at htick
    exact waitForEvent_answered htick

end

/-! ## Receipts -/

section

variable {ν σ : Type} [DecidableEq ν] (validate : InboundPlan → Except Text Unit) (env : ControlEnv ν σ)
  (handled : HandledEvent PanelTurn (RuntimeLoop ν σ))

/-- What the refresh of an event loaded, and the loop its tick starts from. -/
def HandledEvent.refreshed : Except Text UsersByNodeTag × RuntimeLoop ν σ :=
  let (users, loop) := (panelRuntimeLoop validate env).refreshUsers handled.input handled.before
  (users, { loop with world := loop.world.afterExit handled.input.coreExits })

/-- The refresh of an event loaded no change, or its tick brought every change to the core. -/
inductive RefreshDelivered : Prop
  | unchanged {users : UsersByNodeTag} {loop : RuntimeLoop ν σ}
      (hrefresh : handled.refreshed validate env = (.ok users, loop)) (hnone : users.isEmpty = true)
  | delivered {users : UsersByNodeTag} {loop after : RuntimeLoop ν σ}
      (hrefresh : handled.refreshed validate env = (.ok users, loop))
      (htick : runTick validate env handled.input.answers false users loop = (.ok (), after))
      (hdelivered : Delivered validate handled.input.answers users loop after)

/-- Where the refresh of an event loads changes, they are such that its tick brings them to the core. -/
def RefreshReaches : Prop :=
  ∀ users loop, handled.refreshed validate env = (.ok users, loop) → users.isEmpty = false →
    ChangesReach env handled.input.answers users loop

/-- The status of the receipt the panel gets for the event. -/
def HandledEvent.status : Text :=
  (EventDelivery.replied (handled.reply (panelRuntimeLoop validate env))).receipt.1

variable {validate env handled}

/-- What the reply of a refresh is made of. -/
theorem status_of_refreshed (hkind : handled.event.kind = .refreshUsers) :
    handled.status validate env =
      match handled.refreshed validate env with
      | (.error _, _) => "failed"
      | (.ok users, loop) =>
        if users.isEmpty then "applied"
        else match (runTick validate env handled.input.answers false users loop).1 with
          | .error _ => "failed"
          | .ok () => "applied" := by
  unfold HandledEvent.status HandledEvent.reply eventResult HandledEvent.refreshed
  rw [hkind]
  simp only [panelRuntimeLoop]
  cases hload : loadUsersByNodeTagFromPanelWithStateAndMode handled.before.plan .tagMarkers handled.input.panel
      handled.before.userSync with
  | mk outcome sync =>
    cases outcome with
    | error error => rfl
    | ok users =>
      simp only
      cases users.isEmpty with
      | true => rfl
      | false =>
        simp only [Bool.false_eq_true, if_false]
        cases hrun : runTick validate env handled.input.answers false users
            { handled.before with
              userSync := sync
              world := handled.before.world.afterExit handled.input.coreExits } with
        | mk answer after => cases answer <;> rfl

/-- The changed tags of a refresh are those of nodes, and have entries. -/
theorem refreshed_marked {users : UsersByNodeTag} {loop : RuntimeLoop ν σ}
    (h : handled.refreshed validate env = (.ok users, loop)) {tag : Text} (htag : tag ∈ users.keys) :
    loop.userSync[tag]?.isSome = true ∧ tag ∈ loop.plan.nodeInfos.map (·.tag) := by
  unfold HandledEvent.refreshed at h
  simp only [panelRuntimeLoop] at h
  cases hload : loadUsersByNodeTagFromPanelWithStateAndMode handled.before.plan .tagMarkers handled.input.panel
      handled.before.userSync with
  | mk outcome sync =>
    rw [hload] at h
    cases h
    have hmarked := @marked_of_load _ _ _ _ _ _ _ _ [] (by simp) hload tag (ExtTreeMap.mem_keys.1 htag)
    exact hmarked

/-- **One refresh**: its receipt says `applied` only where it was delivered. -/
theorem delivered_of_applied (hkind : handled.event.kind = .refreshUsers) (hreach : RefreshReaches validate env handled)
    (happlied : handled.status validate env = "applied") : RefreshDelivered validate env handled := by
  have hfailed : ("failed" : Text) ≠ "applied" := by decide
  rw [status_of_refreshed hkind] at happlied
  cases hrefresh : handled.refreshed validate env with
  | mk outcome loop =>
    rw [hrefresh] at happlied
    cases outcome with
    | error error => exact absurd happlied hfailed
    | ok users =>
      cases hempty : users.isEmpty with
      | true => exact .unchanged hrefresh hempty
      | false =>
        simp only [hempty, Bool.false_eq_true, if_false] at happlied
        cases htick : runTick validate env handled.input.answers false users loop with
        | mk answer after =>
          rw [htick] at happlied
          cases answer with
          | error error => exact absurd happlied hfailed
          | ok _ =>
            exact .delivered hrefresh htick (delivered_of_reach hempty (fun tag => refreshed_marked hrefresh)
              (hreach users loop hrefresh hempty) htick)

variable (validate env) in
/-- The receipts of a run are true: every received event with a channel got its one reply, and a refresh whose
receipt says `applied` was delivered before. -/
structure TruthfulReceipts (loop : EventLoop PanelTurn (RuntimeLoop ν σ)) : Prop where
  answered : Answered (panelRuntimeLoop validate env) loop
  applied : ∀ handled ∈ loop.handled, handled.event.kind = .refreshUsers → handled.event.reply.isSome = true →
    handled.status validate env = "applied" → RefreshDelivered validate env handled

/-- **Truthful receipts**: along every run, of any events, panel answers and answers of the core, whose answered
refreshes reach the core where they load changes. -/
theorem receipts_truthful (validate : InboundPlan → Except Text Unit) (env : ControlEnv ν σ)
    (options : RuntimeLoopOptions) (turns : List (LoopTurn PanelTurn)) (start : RuntimeLoop ν σ)
    (hreach : ∀ handled ∈ (runRuntimeLoopAsyncWithEvents (panelRuntimeLoop validate env) options turns start).2.handled,
      handled.event.kind = .refreshUsers → handled.event.reply.isSome = true → RefreshReaches validate env handled) :
    TruthfulReceipts validate env
      (runRuntimeLoopAsyncWithEvents (panelRuntimeLoop validate env) options turns start).2 := by
  refine ⟨run_answered options turns start, fun handled hmem hkind hreply happlied => ?_⟩
  exact delivered_of_applied hkind (hreach handled hmem hkind hreply) happlied

end

/-! ## Two nodes -/

section

variable {ν σ : Type}

instance (answers : TickAnswers) (loop : RuntimeLoop ν σ) (tags : List Text) : Decidable (Defers answers loop tags) :=
  match houtcome : deltaOutcome answers tags loop with
  | .ok (.deferred, world) => isTrue (deltaOutcome_deferred_iff.1 ⟨world, houtcome⟩)
  | .ok (.applied, _) => isFalse fun h => by
    obtain ⟨_, hdeferred⟩ := deltaOutcome_deferred_iff.2 h
    rw [houtcome] at hdeferred
    cases hdeferred
  | .ok (.rebuild, _) => isFalse fun h => by
    obtain ⟨_, hdeferred⟩ := deltaOutcome_deferred_iff.2 h
    rw [houtcome] at hdeferred
    cases hdeferred
  | .error _ => isFalse fun h => by
    obtain ⟨_, hdeferred⟩ := deltaOutcome_deferred_iff.2 h
    rw [houtcome] at hdeferred
    cases hdeferred

instance (answers : TickAnswers) (users : UsersByNodeTag) (loop : RuntimeLoop ν σ) :
    Decidable (TakesAll answers users loop) :=
  match houtcome : deltaOutcome answers users.keys loop with
  | .ok (.applied, world) => isTrue (takesAll_iff.2 ⟨world, houtcome⟩)
  | .ok (.deferred, _) => isFalse fun h => by
    obtain ⟨_, happlied⟩ := takesAll_iff.1 h
    rw [houtcome] at happlied
    cases happlied
  | .ok (.rebuild, _) => isFalse fun h => by
    obtain ⟨_, happlied⟩ := takesAll_iff.1 h
    rw [houtcome] at happlied
    cases happlied
  | .error _ => isFalse fun h => by
    obtain ⟨_, happlied⟩ := takesAll_iff.1 h
    rw [houtcome] at happlied
    cases happlied

instance (env : ControlEnv ν σ) (answers : TickAnswers) (users : UsersByNodeTag) (loop : RuntimeLoop ν σ) :
    Decidable (ChangesReach env answers users loop) :=
  inferInstanceAs (Decidable (_ ∨ _ ∧ _))

instance [DecidableEq ν] (validate : InboundPlan → Except Text Unit) (env : ControlEnv ν σ)
    (handled : HandledEvent PanelTurn (RuntimeLoop ν σ)) : Decidable (RefreshReaches validate env handled) :=
  match hrefresh : handled.refreshed validate env with
  | (.error _, _) => isTrue fun _ _ heq => by rw [hrefresh] at heq; cases heq
  | (.ok users, loop) => decidable_of_iff (users.isEmpty = false → ChangesReach env handled.input.answers users loop)
    ⟨fun h _ _ heq => by rw [hrefresh] at heq; cases heq; exact h, fun h => h users loop hrefresh⟩

end

/-- A panel with a delta for each of two nodes; on the disk, the first has a user. -/
def panelAnswers (first second : UserDeltaBody) (tag : Text) : PanelUsersAnswer :=
  if tag = ("node-a" : Text) then { stored := { revision := 1, users := [userA] }, delta := .ok first }
  else { stored := { revision := 1 }, delta := .ok second }

/-- The loop of an agent that starts with these nodes and their users. -/
def receiptsRun (nodes : List NodeInfo) (users : List (Text × List UserInfo)) (turns : List (LoopTurn PanelTurn)) :
    EventLoop PanelTurn (RuntimeLoop (List (Text × Text × Nat)) Unit) :=
  (runRuntimeLoopAsyncWithEvents (panelRuntimeLoop acceptInbound listenEnv)
    { tickInterval := 1, userRefreshInterval := 1, panelReportInterval := 0 } turns (freshLoop true nodes users)).2

/-- The first node gets a second user, which the core takes.  Then the core exits, and an event brings the second node
its first user: the core is started from a rebuilt plan. -/
def bothWaysTurns : List (LoopTurn PanelTurn) :=
  [{ tick := { panel := panelAnswers { revision := 1 } { revision := 1 } }
     event := some ({ kind := .refreshUsers, reply := some 0 },
       { panel := panelAnswers { revision := 2, upsert := [userB] } { revision := 1 } }) },
    { tick := { panel := panelAnswers { revision := 2 } { revision := 1 } }
      event := some ({ kind := .refreshUsers, reply := some 1 },
        { panel := panelAnswers { revision := 2 } { revision := 2, upsert := [userA] }, coreExits := true }) }]

theorem receipts_truthful_both : TruthfulReceipts acceptInbound listenEnv
    (receiptsRun [trojanNode 1 "node-a" 443, vmessNode 2 "node-b" 8443] [("node-a", [userA])] bothWaysTurns) := by
  refine receipts_truthful acceptInbound listenEnv _ _ _ ?_
  decide +kernel

/-- The refresh loaded changes that its attempt did not deliver, and its tick returned `Ok` with a core that does not
hold the users of some changed tag. -/
def acknowledgesUndelivered {ν σ : Type} [DecidableEq ν] (validate : InboundPlan → Except Text Unit)
    (env : ControlEnv ν σ) (handled : HandledEvent PanelTurn (RuntimeLoop ν σ)) : Bool :=
  match handled.refreshed validate env with
  | (.error _, _) => false
  | (.ok users, loop) => !users.isEmpty && !decide (TakesAll handled.input.answers users loop) &&
    match runTick validate env handled.input.answers false users loop with
    | (.error _, _) => false
    | (.ok (), after) => users.keys.any fun tag => !(loop.userSync[tag]?).any fun entry =>
        decide (UsersReached after.plan tag entry.state.users after.world.core)

theorem undelivered_of_acknowledged {ν σ : Type} [DecidableEq ν] {validate : InboundPlan → Except Text Unit}
    {env : ControlEnv ν σ} {handled : HandledEvent PanelTurn (RuntimeLoop ν σ)}
    (h : acknowledgesUndelivered validate env handled = true) : ¬ RefreshDelivered validate env handled := by
  intro hrefresh
  unfold acknowledgesUndelivered at h
  cases hrefresh with
  | unchanged hrefresh hnone => simp [hrefresh, hnone] at h
  | @delivered users loop after hrefresh htick hdelivered =>
    simp only [hrefresh, htick, Bool.and_eq_true, Bool.not_eq_true', decide_eq_false_iff_not, List.any_eq_true,
      Option.any_eq_false] at h
    obtain ⟨⟨-, hnot⟩, tag, htag, hnever⟩ := h
    cases hdelivered with
    | native hmade hplan htook => exact hnot ⟨hmade, _, _, hplan, htook⟩
    | rebuilt hchanges hreached =>
      obtain ⟨entry, hentry, hholds⟩ := hreached tag htag
      exact hnever entry hentry hholds

/-- A refresh with a receipt that is not true. -/
theorem not_truthful {ν σ : Type} [DecidableEq ν] {validate : InboundPlan → Except Text Unit} {env : ControlEnv ν σ}
    {loop : EventLoop PanelTurn (RuntimeLoop ν σ)}
    (h : loop.handled.any (fun handled => handled.event.kind = .refreshUsers && handled.event.reply.isSome &&
      decide (handled.status validate env = "applied") && acknowledgesUndelivered validate env handled) = true) :
    ¬ TruthfulReceipts validate env loop := by
  intro htruthful
  obtain ⟨handled, hmem, hall⟩ := List.any_eq_true.1 h
  simp only [Bool.and_eq_true, decide_eq_true_eq] at hall
  obtain ⟨⟨⟨hkind, hreply⟩, hstatus⟩, hundelivered⟩ := hall
  exact undelivered_of_acknowledged hundelivered (htruthful.applied handled hmem hkind hreply hstatus)

/-- The core is started without an inbound for the first node, then an event brings that node its first user. -/
def firstUserTurns : List (LoopTurn PanelTurn) :=
  [{ tick := { panel := fun _ => { stored := { revision := 1 }, delta := .ok { revision := 1 } } }
     event := some ({ kind := .refreshUsers, reply := some 0 },
       { panel := fun tag => { delta := .ok (if tag = ("node-a" : Text) then { revision := 2, upsert := [userB] }
           else { revision := 1 }) } }) }]

/-- The core exits, and an event brings the second node its first user: the plan is rebuilt. -/
def rebuiltTurns : List (LoopTurn PanelTurn) :=
  [{ tick := { panel := panelAnswers { revision := 1 } { revision := 1 } }
     event := some ({ kind := .refreshUsers, reply := some 0 },
       { panel := panelAnswers { revision := 1 } { revision := 2, upsert := [userA] }, coreExits := true }) }]

/-- A user of the first node is added by a delta; then the panel has only a full list, with the first user alone, and
the calls after the rebuild fail. -/
def listRefusedTurns : List (LoopTurn PanelTurn) :=
  [{ tick := { panel := panelAnswers { revision := 1 } { revision := 1 } }
     event := some ({ kind := .refreshUsers, reply := some 0 },
       { panel := panelAnswers { revision := 2, upsert := [userB] } { revision := 1 } }) },
    { tick := { panel := panelAnswers { revision := 2 } { revision := 1 } }
      event := some ({ kind := .refreshUsers, reply := some 1 },
        { panel := fun tag =>
            if tag = ("node-a" : Text) then { delta := .error "404 not found", list := .ok (some [userA]) }
            else { delta := .ok { revision := 1 } }
          answers := { baselineClient := some "connection refused" } }) }]

/-- The event is answered `applied`: though the attempt was deferred and the user never sent; though the rebuild dropped
the changed node, whose port the first one has; and though the core went on with the deleted user. -/
theorem deferred_refresh_acknowledged :
    (¬ TruthfulReceipts acceptInbound listenEnv
        (receiptsRun [vmessNode 1 "node-a" 8443, trojanNode 2 "node-b" 443] [("node-b", [userA])] firstUserTurns) ∧
      (receiptsRun [vmessNode 1 "node-a" 8443, trojanNode 2 "node-b" 443] [("node-b", [userA])] firstUserTurns).replies =
        [(0, .ok (.applied "user refresh applied"))]) ∧
    ¬ TruthfulReceipts acceptInbound listenEnv
      (receiptsRun [trojanNode 1 "node-a" 443, vmessNode 2 "node-b" 443] [("node-a", [userA])] rebuiltTurns) ∧
    ¬ TruthfulReceipts acceptInbound listenEnv
      (receiptsRun [trojanNode 1 "node-a" 443] [("node-a", [userA])] listRefusedTurns) := by
  refine ⟨⟨not_truthful ?_, ?_⟩, not_truthful ?_, not_truthful ?_⟩
  · decide +kernel
  · decide +kernel
  · decide +kernel
  · decide +kernel

end KeliNode
