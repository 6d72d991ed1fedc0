import KeliNode.Runner.Reach

/-!
# The users the core accepted

A user that was deleted may still have traffic to bill.  `Accounted` keeps, beside the loop, every user that the
core accepted so far for an inbound, with the id it came with: what the core held after each call that it
acknowledged, the newest first (`turnWorlds`).

Where a turn goes well, the users it adds to this list are those of the sync state: `tick_traced` says of each world
of a tick that the core holds there no others but those it held before.
-/

namespace KeliNode

open Lib Std

/-! ## Accepted users -/

/-- A user of an inbound, and the id the core knows it by. -/
structure Acceptance where
  tag : Text
  uuid : Text
  id : Nat
  deriving DecidableEq

/-- The id a uuid was last accepted with, for an inbound. -/
def latestId (accepted : List Acceptance) (tag uuid : Text) : Option Nat :=
  (accepted.find? fun acceptance => acceptance.tag = tag ∧ acceptance.uuid = uuid).map (·.id)

section

variable {ν σ : Type}

/-- What the core holds. -/
def heldUsers (world : ControlWorld ν σ) : List Acceptance :=
  match world.core with
  | none => []
  | some core => core.inbounds.toList.flatMap fun inbound => inbound.2.users.toList.map fun user =>
      { tag := inbound.1, uuid := user.1, id := user.2.id }

theorem mem_heldUsers {world : ControlWorld ν σ} {held : Acceptance} : held ∈ heldUsers world ↔
    ∃ core inbound user, world.core = some core ∧ core.inbounds[held.tag]? = some inbound ∧
      inbound.users[held.uuid]? = some user ∧ user.id = held.id := by
  obtain ⟨tag, uuid, id⟩ := held
  unfold heldUsers
  cases hcore : world.core with
  | none => simp
  | some core =>
    simp only [List.mem_flatMap, List.mem_map, Prod.exists, ExtTreeMap.mem_toList_iff_getElem?_eq_some,
      Acceptance.mk.injEq, Option.some.injEq]
    constructor
    · rintro ⟨_, inbound, hinbound, _, user, huser, rfl, rfl, rfl⟩
      exact ⟨core, inbound, user, rfl, hinbound, huser, rfl⟩
    · rintro ⟨_, inbound, user, rfl, hinbound, huser, rfl⟩
      exact ⟨tag, inbound, hinbound, uuid, user, huser, rfl, rfl, rfl⟩

/-- The core holds one user under a uuid. -/
theorem heldUsers_unique {world : ControlWorld ν σ} {held other : Acceptance} (h : held ∈ heldUsers world)
    (hother : other ∈ heldUsers world) (htag : other.tag = held.tag) (huuid : other.uuid = held.uuid) :
    other.id = held.id := by
  obtain ⟨core, inbound, user, hcore, hinbound, huser, hid⟩ := mem_heldUsers.1 h
  obtain ⟨core', inbound', user', hcore', hinbound', huser', hid'⟩ := mem_heldUsers.1 hother
  rw [hcore, Option.some.injEq] at hcore'
  subst hcore'
  rw [htag, hinbound, Option.some.injEq] at hinbound'
  subst hinbound'
  rw [huuid, huser, Option.some.injEq] at huser'
  rw [← hid, ← hid', huser']

/-! ## The last id -/

variable {accepted : List Acceptance} {tag uuid : Text} {id : Nat}

/-- What is accepted again, under the id it had, changes nothing. -/
theorem latestId_append {more : List Acceptance}
    (hmore : ∀ user ∈ more, user.tag = tag → user.uuid = uuid → latestId accepted tag uuid = some user.id) :
    latestId (more ++ accepted) tag uuid = latestId accepted tag uuid := by
  induction more with
  | nil => rfl
  | cons first more ih =>
    obtain ⟨hfirst, hmore⟩ := List.forall_mem_cons.1 hmore
    have ih := ih hmore
    rw [List.cons_append]
    by_cases hsame : first.tag = tag ∧ first.uuid = uuid
    · rw [hfirst hsame.1 hsame.2, latestId, List.find?_cons_of_pos (by simpa using hsame), Option.map_some]
    · rw [← ih, latestId, List.find?_cons_of_neg (by simpa using hsame), latestId]

/-- What the core holds is what it accepted last. -/
theorem latestId_of_held {world : ControlWorld ν σ} {held : Acceptance} (h : held ∈ heldUsers world) :
    latestId (heldUsers world ++ accepted) held.tag held.uuid = some held.id := by
  unfold latestId
  cases hfind : (heldUsers world ++ accepted).find? fun acceptance =>
      acceptance.tag = held.tag ∧ acceptance.uuid = held.uuid with
  | none =>
    have hnot := List.find?_eq_none.1 hfind held (List.mem_append_left _ h)
    simp at hnot
  | some found =>
    rw [List.find?_append] at hfind
    cases hheld : (heldUsers world).find? fun acceptance =>
        acceptance.tag = held.tag ∧ acceptance.uuid = held.uuid with
    | none =>
      have hnot := List.find?_eq_none.1 hheld held h
      simp at hnot
    | some first =>
      rw [hheld, Option.some_or, Option.some.injEq] at hfind
      subst hfind
      have hsame := List.find?_some hheld
      rw [decide_eq_true_eq] at hsame
      rw [Option.map_some, heldUsers_unique h (List.mem_of_find?_eq_some hheld) hsame.1 hsame.2]

/-- The users that were accepted, when the core came through the worlds. -/
def acceptAll (worlds : List (ControlWorld ν σ)) (accepted : List Acceptance) : List Acceptance :=
  worlds.foldl (fun accepted world => heldUsers world ++ accepted) accepted

theorem latestId_acceptAll {worlds : List (ControlWorld ν σ)}
    (hworlds : ∀ world ∈ worlds, ∀ held ∈ heldUsers world, held.tag = tag → held.uuid = uuid →
      latestId accepted tag uuid = some held.id) :
    latestId (acceptAll worlds accepted) tag uuid = latestId accepted tag uuid := by
  unfold acceptAll
  induction worlds generalizing accepted with
  | nil => rfl
  | cons world worlds ih =>
    obtain ⟨hworld, hworlds⟩ := List.forall_mem_cons.1 hworlds
    have hsame := latestId_append hworld
    rw [List.foldl_cons, ih (by rw [hsame]; exact hworlds), hsame]

theorem acceptAll_concat (worlds : List (ControlWorld ν σ)) (world : ControlWorld ν σ) (accepted : List Acceptance) :
    acceptAll (worlds ++ [world]) accepted = heldUsers world ++ acceptAll worlds accepted := by
  rw [acceptAll, List.foldl_append]
  rfl

theorem latestId_isSome {user : Acceptance} (h : user ∈ accepted) : (latestId accepted user.tag user.uuid).isSome = true := by
  rw [latestId, Option.isSome_map, List.find?_isSome]
  exact ⟨user, h, by simp⟩

theorem mem_of_latestId (h : latestId accepted tag uuid = some id) : ⟨tag, uuid, id⟩ ∈ accepted := by
  unfold latestId at h
  obtain ⟨found, hfind, rfl⟩ := Option.map_eq_some_iff.1 h
  have hsame := List.find?_some hfind
  rw [decide_eq_true_eq] at hsame
  obtain ⟨rfl, rfl⟩ := hsame
  exact List.mem_of_find?_eq_some hfind

end

/-! ## The worlds of a turn -/

section

variable {ν σ : Type} (answers : TickAnswers) (plan : RuntimeBootstrapPlan)

/-- The worlds after the targets of a changed node: the core acknowledges one call of a target at most. -/
def nodeWorlds (corePlan : CorePlan) (syncState : RuntimeUserSync) (nodeTag : Text) (world : ControlWorld ν σ) :
    List (ControlWorld ν σ) :=
  match changeOf syncState nodeTag with
  | none => []
  | some (entry, change) =>
    visited (fun target world => [(applyUserDeltaToTarget answers plan entry change nodeTag target world).2])
      (applyUserDeltaToTarget answers plan entry change nodeTag) (keliCoreUserDeltaTargetTags corePlan nodeTag) world

/-- The worlds of the attempt, where it is made (`deltaOutcome`). -/
def attemptWorlds (nodeTags : List Text) (loop : RuntimeLoop ν σ) : List (ControlWorld ν σ) :=
  match loop.plan.corePlan with
  | none => []
  | some corePlan =>
    if answers.running.isNone && triesDeltas answers loop nodeTags then
      visited (nodeWorlds answers loop.plan corePlan loop.userSync)
        (applyUserDeltasToNode answers loop.plan corePlan loop.userSync) nodeTags loop.world
    else []

/-- The worlds after the full lists of a node (`sendSnapshots`). -/
def snapshotWorlds (entry : RuntimeUserSyncEntry) (deviceLimitFallback : Nat) :
    List Text → ControlWorld ν σ → List (ControlWorld ν σ)
  | [], _ => []
  | target :: targets, world =>
    match sendUserDelta (answers.baseline target) target
        (keliCoreUserFullSnapshotPayload entry deviceLimitFallback) world with
    | (.error _, _) => []
    | (.ok (), world) => world :: snapshotWorlds entry deviceLimitFallback targets world

/-- The worlds of the full lists after a rebuild (`establishBaseline`). -/
def baselineWorlds (corePlan : CorePlan) (syncState : RuntimeUserSync) :
    List Text → ControlWorld ν σ → List (ControlWorld ν σ)
  | [], _ => []
  | nodeTag :: nodeTags, world =>
    match syncState[nodeTag]? with
    | none => baselineWorlds corePlan syncState nodeTags world
    | some entry =>
      let deviceLimitFallback := keliCoreDeviceLimitFallbackForNode plan nodeTag
      let targets := keliCoreUserDeltaTargetTags corePlan nodeTag
      snapshotWorlds answers entry deviceLimitFallback targets world ++
        match sendSnapshots answers entry deviceLimitFallback targets world with
        | (false, _) => []
        | (true, world) => baselineWorlds corePlan syncState nodeTags world

variable (validate : InboundPlan → Except Text Unit) (env : ControlEnv ν σ) [DecidableEq ν]

/-- The worlds of `applyTickPlan`: the core loads the plan, or takes its routes, at most once. -/
def applyWorlds (deltaApplied : Bool) (baselineTags : List Text) (loop : RuntimeLoop ν σ) : List (ControlWorld ν σ) :=
  match applyRuntimePlan env answers.control loop.plan { keliCoreRsUserDeltaApplied := deltaApplied } loop.world with
  | (.error _, world) => [world]
  | (.ok _, world) =>
    match loop.plan.corePlan, answers.baselineClient with
    | some corePlan, none => world :: baselineWorlds answers loop.plan corePlan loop.userSync baselineTags world
    | _, _ => [world]

/-- The worlds of `runTick`. -/
def tickWorlds (reportToPanel : Bool) (usersByNodeTag : UsersByNodeTag) (loop : RuntimeLoop ν σ) :
    List (ControlWorld ν σ) :=
  let attempted := if usersByNodeTag.isEmpty then [] else attemptWorlds answers usersByNodeTag.keys loop
  match applyUserChanges validate answers reportToPanel usersByNodeTag loop with
  | (.ok (.goOn deltaApplied baselineTags), loop) =>
    match ensureKeliCoreRsRestartUsesLatestUsers validate answers loop with
    | .error _ => attempted
    | .ok loop =>
      if reportToPanel && !answers.panelClients then attempted
      else attempted ++ applyWorlds answers env deltaApplied baselineTags loop
  | _ => attempted

/-- The worlds of a turn after the calls that the core acknowledged, in their order. -/
def turnWorlds (step : LoopStep) (loop : RuntimeLoop ν σ) : List (ControlWorld ν σ) :=
  match step.before loop with
  | none => []
  | some (users, loop) =>
    if step.event && users.isEmpty then []
    else tickWorlds step.answers validate env step.reportToPanel users loop

/-- The loop, and the users that the core accepted so far: the newest first. -/
structure Accounted (ν σ : Type) where
  loop : RuntimeLoop ν σ
  accepted : List Acceptance

/-- A loop to start from: the core accepted what it holds. -/
def RuntimeLoop.accounted (loop : RuntimeLoop ν σ) : Accounted ν σ := { loop, accepted := acceptAll [loop.world] [] }

/-- A turn that returns `Ok`, with what the core accepted in it and holds after it. -/
def Accounted.step (before : Accounted ν σ) (step : LoopStep) : Option (Accounted ν σ) :=
  (loopStep validate env before.loop step).map fun loop =>
    { loop, accepted := acceptAll (turnWorlds validate env step before.loop ++ [loop.world]) before.accepted }

end

/-! ## Where they come from -/

/-- The user of a tag's entry. -/
def listedUser (sync : RuntimeUserSync) (tag uuid : Text) : Option UserInfo :=
  sync[tag]?.bind fun entry => userAt entry.state.users uuid

theorem listedUser_of_entry {sync : RuntimeUserSync} {tag : Text} {entry : RuntimeUserSyncEntry}
    (hentry : sync[tag]? = some entry) (uuid : Text) : listedUser sync tag uuid = userAt entry.state.users uuid := by
  rw [listedUser, hentry, Option.bind_some]

theorem listedUser_clearLastChanges (tags : List Text) (sync : RuntimeUserSync) (tag uuid : Text) :
    listedUser (clearLastChanges tags sync) tag uuid = listedUser sync tag uuid := by
  unfold listedUser
  rw [clearLastChanges_get]
  cases sync[tag]? with
  | none => rfl
  | some entry =>
    simp only [Option.map_some, Option.bind_some]
    split <;> rfl

/-- The uuids a payload brings to the core. -/
def KeliCoreUserDelta.uuids : KeliCoreUserDelta → List Text
  | .full users _ => users.map (·.uuid)
  | .incremental added updated _ _ _ => (added ++ updated).map (·.uuid)

section

variable {ν σ : Type}

theorem lastWith_uuid_mem {users : List CoreUser} {uuid : Text} {user : CoreUser}
    (h : lastWith (·.uuid) users uuid = some user) : uuid ∈ users.map (·.uuid) := by
  obtain ⟨hmem, rfl⟩ := lastWith_eq_some h
  exact List.mem_map_of_mem hmem

/-- A user of an inbound after a payload was there before or came with it. -/
theorem applyDelta_users {inbound after : CoreInbound} {delta : KeliCoreUserDelta}
    (h : inbound.applyDelta delta = .ok after) {uuid : Text} {user : CoreUser} (huser : after.users[uuid]? = some user) :
    uuid ∈ delta.uuids ∨ inbound.users[uuid]? = some user := by
  cases delta with
  | full users revision =>
    cases h
    rw [coreUsersOf_get] at huser
    exact .inl (lastWith_uuid_mem huser)
  | incremental added updated deleted base revision =>
    simp only [CoreInbound.applyDelta] at h
    split at h
    · cases h
      rw [coreUsers_put_get, coreUsers_put_get, coreUsers_drop_get] at huser
      simp only [KeliCoreUserDelta.uuids, List.map_append, List.mem_append]
      rcases Option.or_eq_some_iff.1 huser with hupdated | ⟨-, huser⟩
      · exact .inl (.inr (lastWith_uuid_mem hupdated))
      · rcases Option.or_eq_some_iff.1 huser with hadded | ⟨-, huser⟩
        · exact .inl (.inl (lastWith_uuid_mem hadded))
        · split at huser
          · cases huser
          · exact .inr huser
    · cases h

/-- The core holds no users but those of the sync state and those it held before. -/
def Traced (sync : RuntimeUserSync) (before world : ControlWorld ν σ) : Prop :=
  ∀ held ∈ heldUsers world, (listedUser sync held.tag held.uuid).isSome = true ∨ held ∈ heldUsers before

variable {sync : RuntimeUserSync} {before world : ControlWorld ν σ}

theorem Traced.refl (sync : RuntimeUserSync) (world : ControlWorld ν σ) : Traced sync world world :=
  fun _ h => .inr h

/-- **One call**: the core holds what it held before and what the payload brings to the target. -/
theorem sendUserDelta_traced {refused : Option Text} {tag : Text} {delta : KeliCoreUserDelta}
    (huuids : ∀ core, world.core = some core → tag ∈ core.inbounds →
      ∀ uuid ∈ delta.uuids, (listedUser sync tag uuid).isSome = true)
    (h : Traced sync before world) : Traced sync before (sendUserDelta refused tag delta world).2 := by
  cases hsend : sendUserDelta refused tag delta world with
  | mk outcome after =>
    cases outcome with
    | error error =>
      rw [sendUserDelta_error hsend]
      exact h
    | ok _ =>
      cases hcore : world.core with
      | none => cases refused <;> simp [sendUserDelta, hcore] at hsend
      | some core =>
        cases hinbound : core.inbounds[tag]? with
        | none => cases refused <;> simp [sendUserDelta, hcore, RunningCore.applyUserDelta, hinbound] at hsend
        | some inbound =>
          rcases sendUserDelta_cases hcore hinbound refused delta with
            ⟨error, -, hrefused⟩ | ⟨-, error, -, hrefused⟩ | ⟨-, taken, htaken, htook⟩
          · rw [hrefused] at hsend
            cases hsend
          · rw [hrefused] at hsend
            cases hsend
          · rw [htook] at hsend
            cases hsend
            intro held hheld
            obtain ⟨running, found, user, hrunning, hfound, huser, hid⟩ := mem_heldUsers.1 hheld
            cases hrunning
            by_cases hsame : held.tag = tag
            · rw [hsame, RunningCore.set_get_self, Option.some.injEq] at hfound
              subst hfound
              rcases applyDelta_users htaken huser with hmem | hold
              · left
                rw [hsame]
                exact huuids core hcore (ExtTreeMap.mem_iff_isSome_getElem?.2 (by rw [hinbound]; rfl)) _ hmem
              · exact h held (mem_heldUsers.2 ⟨core, inbound, user, hcore, hsame ▸ hinbound, hold, hid⟩)
            · rw [core.set_get_ne hsame] at hfound
              exact h held (mem_heldUsers.2 ⟨core, found, user, hcore, hfound, huser, hid⟩)

end

theorem userAt_isSome_iff {users : List UserInfo} {uuid : Text} :
    (userAt users uuid).isSome = true ↔ uuid ∈ users.map (·.uuid) := by
  rw [← contains_uuid_iff, List.contains_iff_mem]

theorem listed_of_mem {sync : RuntimeUserSync} {tag : Text} {entry : RuntimeUserSyncEntry}
    (hentry : sync[tag]? = some entry) {uuid : Text} (h : uuid ∈ entry.state.users.map (·.uuid)) :
    (listedUser sync tag uuid).isSome = true := by
  rw [listedUser_of_entry hentry, userAt_isSome_iff]
  exact h

theorem uuids_full (entry : RuntimeUserSyncEntry) (deviceLimitFallback : Nat) :
    (keliCoreUserFullSnapshotPayload entry deviceLimitFallback).uuids = entry.state.users.map (·.uuid) := by
  simp only [keliCoreUserFullSnapshotPayload, KeliCoreUserDelta.uuids, List.map_map]
  rfl

section

variable {ν σ : Type} {env : ControlEnv ν σ} {answers : TickAnswers} {loop : RuntimeLoop ν σ} {tags : List Text}

/-- A settled inbound holds the users of its entry. -/
theorem listed_of_settled {plan : RuntimeBootstrapPlan} {sync : RuntimeUserSync} {core : RunningCore ν} {tag : Text}
    (hsettled : Settled plan sync core tag) {inbound : CoreInbound} (hinbound : core.inbounds[tag]? = some inbound)
    {uuid : Text} {user : CoreUser} (huser : inbound.users[uuid]? = some user) :
    ∃ listed, listedUser sync tag uuid = some listed ∧ listed.id = user.id := by
  obtain ⟨entry, hentry, husers⟩ := hsettled inbound hinbound
  rw [husers, expectedUsers_get, Option.map_eq_some_iff] at huser
  obtain ⟨listed, hlisted, rfl⟩ := huser
  exact ⟨listed, (listedUser_of_entry hentry uuid).trans hlisted, rfl⟩

/-- The users of a change that a core with the inbound can take are in the sync state. -/
theorem Pending.change_listed (hpending : Pending env loop tags) {core : RunningCore ν} (hcore : loop.world.core = some core)
    {tag : Text} (htag : tag ∈ tags) (hmem : tag ∈ core.inbounds) {entry : RuntimeUserSyncEntry}
    {change : RuntimeUserDeltaChange} (hchange : changeOf loop.userSync tag = some (entry, change))
    (hfull : change.full = false) (deviceLimitFallback : Nat) :
    ∀ uuid ∈ (keliCoreUserDeltaPayload change deviceLimitFallback).uuids,
      (listedUser loop.userSync tag uuid).isSome = true := by
  obtain ⟨found, hentry, hlast⟩ := Option.bind_eq_some_iff.1 hchange
  obtain ⟨_, hlast, heq⟩ := Option.map_eq_some_iff.1 hlast
  cases heq
  obtain ⟨inbound, hinbound⟩ := Option.isSome_iff_exists.1 (ExtTreeMap.mem_iff_isSome_getElem?.1 hmem)
  have hleads := hpending.deliverable core hcore tag htag entry change hentry hlast hfull inbound hinbound
  intro uuid huuid
  have hsome := congrArg (fun users : CoreUsers => users[uuid]?.isSome) hleads
  simp only [coreUsers_put_get, expectedUsers_get, Option.isSome_or, Option.isSome_map] at hsome
  have hput : ∀ users : List UserInfo, uuid ∈ users.map (·.uuid) → (lastWith (·.uuid) (users.map
      (keliCoreUserDeltaUser (keliCoreDeviceLimitFallbackForNode loop.plan tag))) uuid).isSome = true := by
    intro users husers
    rw [← coreUsersOf_get, coreUsersOf_map_get (fun _ => rfl), Option.isSome_map, userAt_isSome_iff]
    exact husers
  have hmem : uuid ∈ change.diff.added.map (·.uuid) ∨ uuid ∈ change.diff.updated.map (·.uuid) := by
    simpa [keliCoreUserDeltaPayload, KeliCoreUserDelta.uuids, keliCoreUserDeltaUser] using huuid
  rw [listedUser_of_entry hentry, ← hsome]
  rcases hmem with hadded | hupdated
  · rw [hput _ hadded, Bool.true_or, Bool.or_true]
  · rw [hput _ hupdated, Bool.true_or]

/-- **One target** of a changed node. -/
theorem target_traced (hpending : Pending env loop tags) (htries : triesDeltas answers loop tags = true)
    {corePlan : CorePlan} (hplan : loop.plan.corePlan = some corePlan) {tag target : Text} (htag : tag ∈ tags)
    (htarget : target ∈ keliCoreUserDeltaTargetTags corePlan tag) {entry : RuntimeUserSyncEntry}
    {change : RuntimeUserDeltaChange} (hchange : changeOf loop.userSync tag = some (entry, change))
    {world : ControlWorld ν σ} (hworld : KeysKept loop.world world ∧ Traced loop.userSync loop.world world) :
    KeysKept loop.world (applyUserDeltaToTarget answers loop.plan entry change tag target world).2 ∧
      Traced loop.userSync loop.world (applyUserDeltaToTarget answers loop.plan entry change tag target world).2 := by
  obtain ⟨hkeys, htraced⟩ := hworld
  have hsame : target = tag := by
    rw [targetTags_eq (hpending.tagOk hpending.ok.built (List.Sublist.refl _) hplan htag)] at htarget
    split at htarget
    · simpa using htarget
    · cases htarget
  subst hsame
  obtain ⟨found, hentry, hlast⟩ := Option.bind_eq_some_iff.1 hchange
  obtain ⟨_, hlast, heq⟩ := Option.map_eq_some_iff.1 hlast
  cases heq
  have hfull : change.full = false := by
    have hdelta := List.all_eq_true.1 (triesDeltas_iff.1 htries).2.2.1 target htag
    simpa [hasDelta, hentry, hlast] using hdelta
  have hsends : ∀ (refused : Option Text) (delta : KeliCoreUserDelta),
      (∀ core, world.core = some core → target ∈ core.inbounds →
        ∀ uuid ∈ delta.uuids, (listedUser loop.userSync target uuid).isSome = true) →
      KeysKept loop.world (sendUserDelta refused target delta world).2 ∧
        Traced loop.userSync loop.world (sendUserDelta refused target delta world).2 :=
    fun refused delta huuids => ⟨hkeys.trans (sendUserDelta_keysKept ..), sendUserDelta_traced huuids htraced⟩
  refine @applyUserDeltaToTarget_invariant _ _ _ _ _ _ _ _ _ (fun world =>
    KeysKept loop.world world ∧ Traced loop.userSync loop.world world) ?_ ?_ ⟨hkeys, htraced⟩
  · refine hsends _ _ fun core hcore hmem => ?_
    obtain ⟨old, hold, hsameKeys⟩ := hkeys.keys core hcore
    exact hpending.change_listed hold htag ((hsameKeys target).1 hmem) hchange hfull _
  · refine hsends _ _ fun core _ _ uuid huuid => ?_
    rw [uuids_full] at huuid
    exact listed_of_mem hentry huuid

/-- **The attempt** of a tick. -/
theorem attempt_traced (hpending : Pending env loop tags) :
    (∀ world ∈ attemptWorlds answers tags loop, Traced loop.userSync loop.world world) ∧
      ∀ outcome world, deltaOutcome answers tags loop = .ok (outcome, world) →
        Traced loop.userSync loop.world world := by
  have hstart : KeysKept loop.world loop.world ∧ Traced loop.userSync loop.world loop.world :=
    ⟨KeysKept.refl _, Traced.refl _ _⟩
  have hnode : ∀ corePlan, loop.plan.corePlan = some corePlan → triesDeltas answers loop tags = true → ∀ tag ∈ tags,
      ∀ mid, (KeysKept loop.world mid ∧ Traced loop.userSync loop.world mid) →
        KeysKept loop.world (applyUserDeltasToNode answers loop.plan corePlan loop.userSync tag mid).2 ∧
          Traced loop.userSync loop.world
            (applyUserDeltasToNode answers loop.plan corePlan loop.userSync tag mid).2 := by
    intro corePlan hplan htries tag htag mid hmid
    refine @applyUserDeltasToNode_invariant _ _ _ _ _ _ _ (fun world =>
      KeysKept loop.world world ∧ Traced loop.userSync loop.world world) _ ?_ hmid
    exact fun entry change hchange target htarget world hworld =>
      target_traced hpending htries hplan htag htarget hchange hworld
  constructor
  · intro world hworld
    unfold attemptWorlds at hworld
    split at hworld
    · cases hworld
    · rename_i corePlan hplan
      split at hworld
      · rename_i hmade
        have htries := (Bool.and_eq_true_iff.1 hmade).2
        refine (visited_invariant (fun tag htag mid hmid => ?_) (hnode corePlan hplan htries) hstart world hworld).2
        unfold nodeWorlds
        split
        · exact fun _ h => by cases h
        · rename_i hchange
          refine visited_invariant (fun target htarget mid hmid => ?_) (fun target htarget mid hmid =>
            target_traced hpending htries hplan htag htarget hchange hmid) hmid
          intro after hafter
          rw [List.mem_singleton.1 hafter]
          exact target_traced hpending htries hplan htag htarget hchange hmid
      · cases hworld
  · exact fun outcome world h => (deltaOutcome_invariant hnode hstart h).2

end

section

variable {ν σ : Type} {answers : TickAnswers} {sync : RuntimeUserSync} {before world : ControlWorld ν σ}

/-- The full lists of one node. -/
theorem snapshots_traced {tag : Text} {entry : RuntimeUserSyncEntry} (hentry : sync[tag]? = some entry)
    {deviceLimitFallback : Nat} {targets : List Text} (htargets : ∀ target ∈ targets, target = tag)
    (h : Traced sync before world) :
    (∀ mid ∈ snapshotWorlds answers entry deviceLimitFallback targets world, Traced sync before mid) ∧
      Traced sync before (sendSnapshots answers entry deviceLimitFallback targets world).2 := by
  induction targets generalizing world with
  | nil => exact ⟨fun _ hmid => (by cases hmid), h⟩
  | cons target targets ih =>
    obtain ⟨rfl, htargets⟩ := List.forall_mem_cons.1 htargets
    have hsent : Traced sync before (sendUserDelta (answers.baseline target) target
        (keliCoreUserFullSnapshotPayload entry deviceLimitFallback) world).2 := by
      refine sendUserDelta_traced (fun core _ _ uuid huuid => ?_) h
      rw [uuids_full] at huuid
      exact listed_of_mem hentry huuid
    rw [snapshotWorlds, sendSnapshots]
    cases hsend : sendUserDelta (answers.baseline target) target
        (keliCoreUserFullSnapshotPayload entry deviceLimitFallback) world with
    | mk outcome mid =>
      rw [hsend] at hsent
      cases outcome with
      | error error => exact ⟨fun _ hmid => (by cases hmid), hsent⟩
      | ok _ =>
        obtain ⟨hworlds, hlast⟩ := ih htargets hsent
        exact ⟨List.forall_mem_cons.2 ⟨hsent, hworlds⟩, hlast⟩

/-- **The full lists** after a rebuild. -/
theorem baseline_traced {plan : RuntimeBootstrapPlan} {corePlan : CorePlan} {tags : List Text}
    (htags : ∀ tag ∈ tags, TagOk corePlan tag) (h : Traced sync before world) :
    ∀ mid ∈ baselineWorlds answers plan corePlan sync tags world, Traced sync before mid := by
  induction tags generalizing world with
  | nil => exact fun _ hmid => by cases hmid
  | cons tag tags ih =>
    obtain ⟨htag, htags⟩ := List.forall_mem_cons.1 htags
    rw [baselineWorlds]
    cases hentry : sync[tag]? with
    | none => exact ih htags h
    | some entry =>
      have htargets : ∀ target ∈ keliCoreUserDeltaTargetTags corePlan tag, target = tag := by
        intro target htarget
        rw [targetTags_eq htag] at htarget
        split at htarget
        · simpa using htarget
        · cases htarget
      obtain ⟨hworlds, hlast⟩ := @snapshots_traced ν σ answers sync before world tag entry hentry
        (keliCoreDeviceLimitFallbackForNode plan tag) _ htargets h
      simp only
      intro mid hmid
      rcases List.mem_append.1 hmid with hmid | hmid
      · exact hworlds mid hmid
      · split at hmid
        · cases hmid
        · rename_i hsend
          rw [hsend] at hlast
          exact ih htags hlast mid hmid

variable {loop : RuntimeLoop ν σ}

theorem traced_congr {sync' : RuntimeUserSync} (hsame : ∀ tag uuid, listedUser sync' tag uuid = listedUser sync tag uuid)
    (h : Traced sync before world) : Traced sync' before world := by
  intro held hheld
  rw [hsame]
  exact h held hheld

/-- **The plan is applied**. -/
theorem apply_traced (hnothing : ∀ core, world.core = some core → ∀ tag, NothingElse loop core tag)
    (h : Traced loop.userSync before loop.world) : Traced loop.userSync before world := by
  intro held hheld
  obtain ⟨core, inbound, user, hcore, hinbound, huser, hid⟩ := mem_heldUsers.1 hheld
  rcases hnothing core hcore held.tag with hsettled | hkept
  · obtain ⟨listed, hlisted, -⟩ := listed_of_settled hsettled hinbound huser
    exact .inl (by rw [hlisted]; rfl)
  · rcases hkept inbound hinbound with hempty | ⟨old, hold, hsame⟩
    · rw [hempty, ExtTreeMap.getElem?_empty] at huser
      cases huser
    · exact h held (mem_heldUsers.2 ⟨old, inbound, user, hold, hsame, huser, hid⟩)

variable {validate : InboundPlan → Except Text Unit} {env : ControlEnv ν σ} {reportToPanel : Bool}
  {users : UsersByNodeTag} {after : RuntimeLoop ν σ}

/-- What the changes of a tick leave of the world and of the sync state. -/
theorem applyUserChanges_frame {changes : UserChanges}
    (h : applyUserChanges validate answers reportToPanel users loop = (.ok changes, after)) :
    (after.world = loop.world ∨ ∃ outcome, deltaOutcome answers users.keys loop = .ok (outcome, after.world)) ∧
      ∀ tag uuid, listedUser after.userSync tag uuid = listedUser loop.userSync tag uuid := by
  unfold applyUserChanges at h
  split at h
  · cases h
    exact ⟨.inl rfl, fun _ _ => rfl⟩
  · simp only at h
    cases houtcome : deltaOutcome answers users.keys loop with
    | error error =>
      rw [houtcome] at h
      cases h
    | ok found =>
      obtain ⟨outcome, world⟩ := found
      rw [houtcome] at h
      cases outcome with
      | applied =>
        cases h
        exact ⟨.inr ⟨_, rfl⟩, listedUser_clearLastChanges _ _⟩
      | deferred =>
        cases h
        exact ⟨.inr ⟨_, rfl⟩, fun _ _ => rfl⟩
      | rebuild =>
        simp only at h
        split at h
        · cases h
        · rename_i rebuilt hrebuilt
          cases h
          unfold RuntimeLoop.rebuilt at hrebuilt
          obtain ⟨plan, -, rfl⟩ := map_eq_ok.1 hrebuilt
          exact ⟨.inr ⟨_, rfl⟩, fun _ _ => rfl⟩

theorem RestartStep.frame (h : RestartStep validate loop after) :
    after.world = loop.world ∧ after.userSync = loop.userSync := by
  cases h <;> exact ⟨rfl, rfl⟩

variable [DecidableEq ν]

theorem applyWorlds_traced {start : RuntimeLoop ν σ} {deltaApplied : Bool} {tags changed : List Text}
    (hbetween : Between env answers start deltaApplied tags loop)
    (hfresh : loop.world.core = none → PlanFresh loop.plan loop.userSync) (hgood : GoodTick env answers start changed)
    (hready : Traced loop.userSync before loop.world)
    (h : applyTickPlan env answers deltaApplied tags loop = (.ok (), after)) :
    ∀ mid ∈ applyWorlds answers env deltaApplied tags loop, Traced loop.userSync before mid := by
  unfold applyTickPlan at h
  unfold applyWorlds
  cases happly : applyRuntimePlan env answers.control loop.plan { keliCoreRsUserDeltaApplied := deltaApplied }
      loop.world with
  | mk outcome world =>
    rw [happly] at h
    cases outcome with
    | error error => cases h
    | ok result =>
      have hsettles := apply_settles hbetween hfresh (hbetween.listeners hgood) hgood.readable happly
      have hworld : Traced loop.userSync before world :=
        apply_traced (fun core hcore => (hsettles core hcore).2.2) hready
      simp only
      split
      · rename_i corePlan hplan _
        exact List.forall_mem_cons.2 ⟨hworld, baseline_traced (hbetween.tagOk corePlan hplan) hworld⟩
      · exact List.forall_mem_cons.2 ⟨hworld, fun _ hmid => by cases hmid⟩

/-- **A good tick**: the core comes to hold only users of the sync state. -/
theorem tick_traced (hpending : Pending env loop users.keys) (hgood : GoodTick env answers loop users.keys)
    (h : runTick validate env answers reportToPanel users loop = (.ok (), after)) :
    ∀ mid ∈ tickWorlds answers validate env reportToPanel users loop, Traced loop.userSync loop.world mid := by
  obtain ⟨hworlds, hlast⟩ := @attempt_traced ν σ env answers loop users.keys hpending
  have hattempted : ∀ mid ∈ (if users.isEmpty then [] else attemptWorlds answers users.keys loop),
      Traced loop.userSync loop.world mid := by
    split
    · exact fun _ hmid => by cases hmid
    · exact hworlds
  unfold runTick at h
  unfold tickWorlds
  simp only
  cases hchanges : applyUserChanges validate answers reportToPanel users loop with
  | mk outcome mid =>
    rw [hchanges] at h
    cases outcome with
    | error error => exact hattempted
    | ok changes =>
      cases changes with
      | finished => exact hattempted
      | goOn deltaApplied tags =>
        simp only at h ⊢
        cases hrestart : ensureKeliCoreRsRestartUsesLatestUsers validate answers mid with
        | error error => exact hattempted
        | ok ready =>
          simp only [hrestart] at h ⊢
          split at h
          · cases h
          · rename_i hclients
            rw [if_neg hclients]
            obtain ⟨hworld, hsync⟩ := applyUserChanges_frame hchanges
            have hrestarted := ensureRestart_cases hrestart
            obtain ⟨hsameWorld, hsameSync⟩ := hrestarted.frame
            rw [← hsameWorld] at hworld
            rw [← hsameSync] at hsync
            have hready : Traced ready.userSync loop.world ready.world := by
              refine traced_congr hsync ?_
              rcases hworld with hsame | ⟨outcome, houtcome⟩
              · rw [hsame]
                exact Traced.refl _ _
              · exact hlast outcome _ houtcome
            rcases changes_between hpending hgood (applyUserChanges_cases hpending hgood.refusals hchanges) with
              ⟨hfinished, -⟩ | ⟨_, _, hgoOn, hbetween, hlatest⟩
            · cases hfinished
            · cases hgoOn
              obtain ⟨hbetween, hfresh⟩ := restart_between hbetween hlatest hrestarted
              intro world hmem
              rcases List.mem_append.1 hmem with hmem | hmem
              · exact hattempted world hmem
              · refine traced_congr (fun tag uuid => (hsync tag uuid).symm) ?_
                exact applyWorlds_traced hbetween hfresh hgood hready h world hmem

end

end KeliNode
