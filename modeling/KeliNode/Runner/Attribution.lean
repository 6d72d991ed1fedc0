import KeliNode.Report.Partition
import KeliNode.Runner.Accepted

/-!
# Whose traffic it is

The core reports traffic by node tag and uuid; the loop's user id lookup turns the uuid into the panel's user id.
It is written where users reach the core: after deltas that were all applied, after a rebuild and before a
restart.  A uuid that it does not have is looked up in the plan's own users, which a delta leaves as they are.
`traffic_attributed` says that every user the core accepted so far is found in one of the two, under the id it was
last accepted with, along runs whose turns are good, do not defer what they partly delivered and lose no accepted
user (`AttributedTurn`).
-/

namespace KeliNode

open Lib Std

/-! ## The lookup -/

/-- The lookup has the ids of the users of the tag's entry. -/
def Knows (lookup : KeliCoreUserIdLookup) (sync : RuntimeUserSync) (tag : Text) : Prop :=
  ∀ entry, sync[tag]? = some entry → ∀ uuid user, userAt entry.state.users uuid = some user →
    lookup[tag]?.bind (·[uuid]?) = some user.id

theorem userIds_get (users : List UserInfo) (uuid : Text) :
    (userIds (users.map fun user => (user.uuid, user.id)))[uuid]? = (userAt users uuid).map (·.id) := by
  rw [userIds, getElem?_foldl_insert, ExtTreeMap.getElem?_empty, Option.or_none,
    lastWith_map (fun user : UserInfo => (user.uuid, user.id)) (fun _ => rfl), Option.map_map]
  rfl

theorem knows_of_ids {lookup : KeliCoreUserIdLookup} {sync : RuntimeUserSync} {tag : Text} {entry : RuntimeUserSyncEntry}
    (hentry : sync[tag]? = some entry)
    (hids : lookup[tag]? = some (userIds (entry.state.users.map fun user => (user.uuid, user.id)))) :
    Knows lookup sync tag := by
  intro found hfound uuid user huser
  rw [hentry, Option.some.injEq] at hfound
  subst hfound
  rw [hids, Option.bind_some, userIds_get, huser]
  rfl

/-- The lookup of a fresh plan knows the users of the entries. -/
theorem knows_of_fresh {plan : RuntimeBootstrapPlan} {sync : RuntimeUserSync} (hfresh : PlanFresh plan sync) {tag : Text}
    (htag : tag ∈ plannedTags plan) : Knows (runtimeUserIdLookupFromPlan plan) sync tag := by
  cases hplan : plan.corePlan with
  | none =>
    rw [plannedTags, hplan] at htag
    cases htag
  | some corePlan =>
    rw [plannedTags, hplan] at htag
    obtain ⟨inbound, hlast⟩ : ∃ inbound, lastWith (·.tag) corePlan.inbounds tag = some inbound := by
      rw [← Option.isSome_iff_exists, Option.isSome_iff_ne_none, Ne, lastWith_eq_none]
      obtain ⟨inbound, hinbound, rfl⟩ := List.mem_map.1 htag
      exact fun hnone => hnone inbound hinbound rfl
    obtain ⟨hinbound, rfl⟩ := lastWith_eq_some hlast
    obtain ⟨entry, hentry, husers⟩ := hfresh inbound (by rw [hplan]; exact hinbound)
    refine knows_of_ids hentry ?_
    have hids : inbound.users.map (fun user => (user.uuid, user.id)) =
        entry.state.users.map fun user => (user.uuid, user.id) := by
      have hmap := congrArg (List.map fun user : CoreUser => (user.uuid, user.id)) husers
      rwa [List.map_map, List.map_map] at hmap
    simp only [runtimeUserIdLookupFromPlan, hplan]
    rw [getElem?_foldl_insert (·.tag) (fun inbound : InboundPlan =>
      userIds (inbound.users.map fun user => (user.uuid, user.id))), hlast, Option.map_some, hids]
    rfl

/-- The lookup after a sync: the tags get the ids of their entries, the others keep theirs. -/
theorem syncLookup_get (sync : RuntimeUserSync) (tags : List Text) (lookup : KeliCoreUserIdLookup) (tag : Text) :
    (syncRuntimeUserIdLookupFromState sync tags lookup)[tag]? =
      match sync[tag]? with
      | some entry =>
        if tag ∈ tags then some (userIds (entry.state.users.map fun user => (user.uuid, user.id))) else lookup[tag]?
      | none => lookup[tag]? := by
  unfold syncRuntimeUserIdLookupFromState
  induction tags generalizing lookup with
  | nil => cases sync[tag]? <;> simp
  | cons other tags ih =>
    rw [List.foldl_cons, ih]
    by_cases hsame : tag = other
    · subst hsame
      cases sync[tag]? with
      | none => rfl
      | some entry => simp
    · cases sync[other]? with
      | none => cases sync[tag]? <;> simp [hsame]
      | some entry => cases sync[tag]? <;> simp [hsame, ExtTreeMap.getElem?_insert, Ne.symm hsame]

theorem knows_of_sync {sync : RuntimeUserSync} {tags : List Text} (hfound : ∀ tag ∈ tags, sync[tag]?.isSome = true)
    {lookup : KeliCoreUserIdLookup} {tag : Text} (hknows : tag ∉ tags → Knows lookup sync tag) :
    Knows (syncRuntimeUserIdLookupFromState sync tags lookup) sync tag := by
  by_cases htag : tag ∈ tags
  · obtain ⟨entry, hentry⟩ := Option.isSome_iff_exists.1 (hfound tag htag)
    refine knows_of_ids hentry ?_
    rw [syncLookup_get, hentry]
    simp only [htag, if_true]
  · intro entry hentry uuid user huser
    rw [syncLookup_get, hentry]
    simp only [htag, if_false]
    exact hknows htag entry hentry uuid user huser

theorem knows_of_sameUsers {lookup : KeliCoreUserIdLookup} {sync sync' : RuntimeUserSync} {tag : Text}
    (hsame : ∀ new, sync'[tag]? = some new → ∃ old, sync[tag]? = some old ∧
      SameUsers old.state.users new.state.users) (h : Knows lookup sync tag) : Knows lookup sync' tag := by
  intro new hnew uuid user huser
  obtain ⟨old, hold, hsame⟩ := hsame new hnew
  exact h old hold uuid user (by rw [← hsame uuid]; exact huser)

/-! ## Along a turn -/

section

variable {ν σ : Type}

/-- The lookup knows the users of every inbound of the plan. -/
def KnowsPlan (loop : RuntimeLoop ν σ) : Prop :=
  ∀ tag ∈ plannedTags loop.plan, Knows loop.userIdLookup loop.userSync tag

/-- Every changed tag has an inbound, or none has: a deferred attempt has then delivered nothing. -/
def NothingPartly (answers : TickAnswers) (loop : RuntimeLoop ν σ) (tags : List Text) : Prop :=
  loop.plan.resolved.continueOnError = true → triesDeltas answers loop tags = true →
    (∀ tag ∈ tags, tag ∈ plannedTags loop.plan) ∨ ∀ tag ∈ tags, tag ∉ plannedTags loop.plan

instance (answers : TickAnswers) (loop : RuntimeLoop ν σ) (tags : List Text) :
    Decidable (NothingPartly answers loop tags) :=
  inferInstanceAs (Decidable (_ → _ → _ ∨ _))

variable {validate : InboundPlan → Except Text Unit} {env : ControlEnv ν σ} {answers : TickAnswers}
  {reportToPanel : Bool} {users : UsersByNodeTag} {loop before after : RuntimeLoop ν σ} {changes : UserChanges}

/-- The tags a running core has have entries. -/
theorem entry_of_planned (hconverged : Converged env loop) {core : RunningCore ν} (hcore : loop.world.core = some core)
    {tag : Text} (htag : tag ∈ plannedTags loop.plan) : ∃ entry, loop.userSync[tag]? = some entry := by
  obtain ⟨corePlan, _, hplan, -, -, hkeys⟩ := hconverged.onFile core hcore
  rw [plannedTags, hplan] at htag
  obtain ⟨inbound, hinbound⟩ := Option.isSome_iff_exists.1 (ExtTreeMap.mem_iff_isSome_getElem?.1 ((hkeys tag).2 htag))
  obtain ⟨entry, hentry, -⟩ := hconverged.users core hcore tag inbound hinbound
  exact ⟨entry, hentry⟩

/-- A refresh leaves what is known of the tags it does not mark. -/
theorem refreshed_knows (hconverged : Converged env loop) (hrefreshed : RefreshedLoop loop before users)
    (hknows : ∀ core, loop.world.core = some core → KnowsPlan loop) {core : RunningCore ν}
    (hcore : before.world.core = some core) {tag : Text} (htag : tag ∈ plannedTags before.plan) (hnot : tag ∉ users.keys) :
    Knows before.userIdLookup before.userSync tag := by
  have hrunning : loop.world.core = some core := by
    obtain ⟨coreExits, hworld⟩ := hrefreshed.world
    rw [hworld] at hcore
    cases coreExits with
    | false => exact hcore
    | true => cases hcore
  rw [hrefreshed.plan] at htag
  rw [hrefreshed.userIdLookup]
  refine knows_of_sameUsers (fun new hnew => ?_) (hknows core hrunning tag htag)
  obtain ⟨old, hold⟩ := entry_of_planned hconverged hrunning htag
  obtain ⟨found, hfound, hsame⟩ := hrefreshed.same tag (fun hmem => hnot (ExtTreeMap.mem_keys.2 hmem)) old hold
  rw [hnew, Option.some.injEq] at hfound
  subst hfound
  exact ⟨old, hold, hsame⟩

/-- **After the changes** the lookup knows the plan's users again, if the core runs. -/
theorem changes_know (hpending : Pending env loop users.keys) (hgood : GoodTick env answers loop users.keys)
    (hpartly : NothingPartly answers loop users.keys)
    (hknows : ∀ core, loop.world.core = some core → ∀ tag ∈ plannedTags loop.plan, tag ∉ users.keys →
      Knows loop.userIdLookup loop.userSync tag)
    (h : ChangesStep validate answers reportToPanel users loop changes after) :
    ∀ core, after.world.core = some core → KnowsPlan after := by
  cases h with
  | none hnil =>
    intro core hcore tag htag
    exact hknows core hcore tag htag (by rw [hnil]; simp)
  | applied hplan hcore hdelivery =>
    intro _ _ tag htag
    have hsynced := knows_of_sync hpending.entries (hknows _ hcore tag htag)
    refine knows_of_sameUsers (fun new hnew => ?_) hsynced
    obtain ⟨old, hold, hstate⟩ := clearLastChanges_state users.keys hnew
    exact ⟨old, hold, by rw [hstate]; exact SameUsers.refl _⟩
  | deferred hplan hcore htries hdelivery =>
    intro _ _ tag htag
    refine hknows _ hcore tag htag fun hmem => ?_
    obtain ⟨hcontinue, passed, missing, rest, htags, hmissing, -⟩ := hdelivery.deferred rfl
    rcases hpartly hcontinue htries with hall | hnone
    · have hplanned := hall missing (by rw [htags]; simp)
      rw [plannedTags, hplan] at hplanned
      exact hmissing hplanned
    · exact hnone tag hmem htag
  | rebuilt hne hmay hworld hplan =>
    intro _ _ tag htag
    exact knows_of_fresh (between_of_rebuilt hpending hmay hworld hplan hgood ∅).2 htag

/-- **Before the plan is applied** it knows them in any case. -/
theorem restart_knows {deltaApplied : Bool} {tags : List Text}
    (hbetween : Between env answers before deltaApplied tags loop)
    (hlatest : loop.world.core = none → LatestOk loop.plan loop.userSync [])
    (hknows : ∀ core, loop.world.core = some core → KnowsPlan loop)
    (h : RestartStep validate loop after) : KnowsPlan after := by
  cases h with
  | running hcore => exact hknows _ hcore
  | unplanned hplan =>
    intro tag htag
    rw [plannedTags, hplan] at htag
    cases htag
  | noUsers hcore hempty =>
    intro tag htag entry hentry uuid user huser
    obtain ⟨built, hbuilt⟩ := hbetween.ok.built
    obtain ⟨inbound, hinbound, rfl⟩ := List.mem_map.1 htag
    obtain ⟨found, hfound, hnil, -⟩ := no_users_of_empty (hbuilt.nodup_tags hbetween.ok.tags.nodup) (hlatest hcore) hempty
      hinbound
    rw [hentry, Option.some.injEq] at hfound
    subst hfound
    rw [hnil] at huser
    cases huser
  | rebuilt hcore hcorePlan hplan =>
    intro tag htag
    have hrebuilt := rebuild_fresh hbetween.ok.built hbetween.ok.tags.nodup hbetween.ok.sync (by simp)
      (hlatest hcore) hplan
    exact knows_of_fresh hrebuilt.fresh htag

variable [DecidableEq ν]

theorem tick_knows (hpending : Pending env loop users.keys) (hgood : GoodTick env answers loop users.keys)
    (hpartly : NothingPartly answers loop users.keys)
    (hknows : ∀ core, loop.world.core = some core → ∀ tag ∈ plannedTags loop.plan, tag ∉ users.keys →
      Knows loop.userIdLookup loop.userSync tag)
    (h : TickStep validate env answers reportToPanel users loop after) :
    ∀ core, after.world.core = some core → KnowsPlan after := by
  cases h with
  | finished hchanges => exact changes_know hpending hgood hpartly hknows hchanges
  | applied hchanges hrestart happly =>
    have hmid := changes_know hpending hgood hpartly hknows hchanges
    rcases changes_between hpending hgood hchanges with ⟨hfinished, -⟩ | ⟨_, _, hgoOn, hbetween, hlatest⟩
    · cases hfinished
    · cases hgoOn
      intro _ _
      obtain ⟨hplan, hlookup, hsync⟩ := applyTickPlan_frame happly
      rw [KnowsPlan, hplan, hlookup, hsync]
      exact restart_knows hbetween hlatest hmid hrestart

/-! ## Records -/

omit [DecidableEq ν] in
theorem tagsApart_of_nodes (hok : LoopOk loop) {corePlan : CorePlan} (hplan : loop.plan.corePlan = some corePlan) :
    TagsApart corePlan := by
  obtain ⟨built, hbuilt⟩ := hok.built
  intro a ha b hb htag
  obtain ⟨nodeA, hnodeA, -, hofA⟩ := hbuilt.planned.inboundOf a (by rw [hplan]; exact ha)
  obtain ⟨nodeB, hnodeB, -, hofB⟩ := hbuilt.planned.inboundOf b (by rw [hplan]; exact hb)
  rcases htag with heq | ⟨port, -, -, hport⟩
  · exact heq
  · have hapart := hok.tags.apart nodeB hnodeB nodeA hnodeA
    rw [← hofA.tag, ← hofB.tag, hport] at hapart
    have hstarts : (b.tag ++ ("|port:" : Text)).isPrefixOf (b.tag ++ ("|port:" : Text) ++ port) = true :=
      List.isPrefixOf_iff_prefix.2 (List.prefix_append _ _)
    rw [hstarts] at hapart
    cases hapart

/-- The id of a uuid among the plan's own users of a tag. -/
def plannedId (plan : RuntimeBootstrapPlan) (tag uuid : Text) : Option Nat :=
  ((inboundsOf plan.corePlan).find? (·.tag = tag)).bind fun inbound =>
    (inbound.users.find? (·.uuid = uuid)).map (·.id)

/-- The id in the lookup. -/
def lookupId (lookup : KeliCoreUserIdLookup) (tag uuid : Text) : Option Nat :=
  lookup[tag]?.bind fun users => users[uuid]?

/-- The id a record without one of its own is given. -/
def resolvedId (loop : RuntimeLoop ν σ) (tag uuid : Text) : Option Nat :=
  (lookupId loop.userIdLookup tag uuid).or (plannedId loop.plan tag uuid)

omit [DecidableEq ν] in
/-- A record of an inbound's tag, with a uuid that is found. -/
theorem reportTarget_of_resolved (hok : LoopOk loop) {corePlan : CorePlan} (hplan : loop.plan.corePlan = some corePlan)
    {record : KeliCoreTrafficRecord} {uid : Nat} (hmem : record.nodeTag ∈ corePlan.inbounds.map (·.tag))
    (hid : record.userId = none) (hresolved : resolvedId loop record.nodeTag record.userUuid = some uid) :
    keliCoreRecordReportTarget corePlan record loop.userIdLookup = some (record.nodeTag, uid) := by
  have hapart := tagsApart_of_nodes hok hplan
  obtain ⟨inbound, hinbound, htag⟩ := List.mem_map.1 hmem
  have hsame : ∀ other ∈ corePlan.inbounds, other.tag = record.nodeTag → other = inbound := by
    intro other hother heq
    obtain ⟨built, hbuilt⟩ := hok.built
    have hnodup := hbuilt.nodup_tags hok.tags.nodup
    rw [hplan] at hnodup
    exact List.inj_on_of_nodup_map hnodup hother hinbound (heq.trans htag.symm)
  have hfind : corePlan.inbounds.find? (·.tag = record.nodeTag) = some inbound := by
    cases hfound : corePlan.inbounds.find? (·.tag = record.nodeTag) with
    | none =>
      have hnot := List.find?_eq_none.1 hfound inbound hinbound
      simp [htag] at hnot
    | some found =>
      have htagFound := List.find?_some hfound
      rw [decide_eq_true_eq] at htagFound
      rw [hsame found (List.mem_of_find?_eq_some hfound) htagFound]
  have huid : keliCoreRecordUid record loop.userIdLookup record.nodeTag inbound = some uid := by
    rw [← hresolved]
    simp only [keliCoreRecordUid, hid, Option.bind_none, Option.none_or, resolvedId, lookupId, plannedId, hplan,
      inboundsOf, Option.elim_some, hfind, Option.bind_some]
  cases htarget : keliCoreRecordReportTarget corePlan record loop.userIdLookup with
  | none =>
    have hnone := List.findSome?_eq_none_iff.1 htarget inbound hinbound
    rw [htag, normalizeKeliCoreRecordTag_eq_some.2 ⟨.inl rfl, rfl⟩, Option.bind_some, huid] at hnone
    cases hnone
  | some target =>
    obtain ⟨tag, found⟩ := target
    obtain ⟨other, hother, hhas, rfl, hfound⟩ := reportTarget_eq_some htarget
    have heq := (hasTag_unique hapart hother hinbound hhas (.inl htag.symm)).trans htag
    rw [heq, hsame other hother heq, huid, Option.some.injEq] at hfound
    rw [heq, hfound]

/-- Every record of an inbound of the plan and a user that the core accepted for it goes to the id the user was last
accepted with, under that tag. -/
def Attributed (s : Accounted ν σ) : Prop :=
  ∀ corePlan, s.loop.plan.corePlan = some corePlan → ∀ tag ∈ corePlan.inbounds.map (·.tag), ∀ uuid id,
    latestId s.accepted tag uuid = some id →
      ∀ record : KeliCoreTrafficRecord, record.nodeTag = tag → record.userUuid = uuid → record.userId = none →
        keliCoreRecordReportTarget corePlan record s.loop.userIdLookup = some (tag, id)

/-! ## Runs -/

/-- The tick leaves the plan as it is: the core runs, and the changes lead to no rebuild. -/
def leavesPlan (answers : TickAnswers) (loop : RuntimeLoop ν σ) (tags : List Text) : Bool :=
  loop.world.core.isSome && !mayRebuild answers loop tags

/-- No accepted user gets lost: it is in the sync state, or the plan stays and has it under its last id. -/
def KeepsAccepted (answers : TickAnswers) (loop : RuntimeLoop ν σ) (tags : List Text) (accepted : List Acceptance) :
    Prop :=
  ∀ user ∈ accepted, (listedUser loop.userSync user.tag user.uuid).isSome = true ∨
    leavesPlan answers loop tags = true ∧ (user.tag ∈ plannedTags loop.plan →
      plannedId loop.plan user.tag user.uuid = latestId accepted user.tag user.uuid)

instance (answers : TickAnswers) (loop : RuntimeLoop ν σ) (tags : List Text) (accepted : List Acceptance) :
    Decidable (KeepsAccepted answers loop tags accepted) :=
  inferInstanceAs (Decidable (∀ _ ∈ _, _ ∨ _ ∧ (_ → _)))

variable (env) in
/-- A good turn that does not defer what it partly delivered, and loses no accepted user. -/
structure AttributedTurn (s : Accounted ν σ) (step : LoopStep) : Prop where
  good : GoodTurn env s.loop step
  partly : ∀ before ∈ step.before s.loop, NothingPartly step.answers before.2 before.1.keys
  keeps : ∀ before ∈ step.before s.loop, KeepsAccepted step.answers before.2 before.1.keys s.accepted

instance (s : Accounted ν σ) (step : LoopStep) : Decidable (AttributedTurn env s step) :=
  decidable_of_iff (GoodTurn env s.loop step ∧
      (∀ before ∈ step.before s.loop, NothingPartly step.answers before.2 before.1.keys) ∧
      ∀ before ∈ step.before s.loop, KeepsAccepted step.answers before.2 before.1.keys s.accepted)
    ⟨fun h => ⟨h.1, h.2.1, h.2.2⟩, fun h => ⟨h.1, h.2, h.3⟩⟩

variable (env) in
/-- The loop between two turns, with a lookup that knows the users of a core that runs. -/
structure Attributable (loop : RuntimeLoop ν σ) : Prop where
  converged : Converged env loop
  knows : ∀ core, loop.world.core = some core → KnowsPlan loop

theorem turn_attributable {s : Accounted ν σ} {step : LoopStep} (hloop : Attributable env s.loop)
    (hgood : AttributedTurn env s step) (h : TurnStep validate env s.loop after step) : Attributable env after := by
  refine ⟨turn_converged hloop.converged hgood.good h, ?_⟩
  cases h with
  | skipped hbefore hnil =>
    intro core hcore tag htag
    have hrefreshed := before_refreshed hloop.converged.ok hgood.good.panel hbefore
    exact refreshed_knows hloop.converged hrefreshed hloop.knows hcore htag (by rw [hnil]; simp)
  | ticked hbefore htick =>
    have hrefreshed := before_refreshed hloop.converged.ok hgood.good.panel hbefore
    have hpending := before_pending hloop.converged hgood.good.panel hbefore
    have htickGood := hgood.good.tick _ hbefore
    exact tick_knows hpending htickGood (hgood.partly _ hbefore)
      (fun core hcore tag htag hnot => refreshed_knows hloop.converged hrefreshed hloop.knows hcore htag hnot)
      (runTick_cases hpending htickGood.refusals htick)

/-! ## Accepted users -/

omit [DecidableEq ν] in
theorem held_listed (hconverged : Converged env loop) {held : Acceptance} (h : held ∈ heldUsers loop.world) :
    ∃ listed, listedUser loop.userSync held.tag held.uuid = some listed ∧ listed.id = held.id := by
  obtain ⟨core, inbound, user, hcore, hinbound, huser, hid⟩ := mem_heldUsers.1 h
  rw [← hid]
  exact listed_of_settled (hconverged.users core hcore held.tag) hinbound huser

omit [DecidableEq ν] in
/-- A core that runs the plan holds the listed users of its tags. -/
theorem held_of_listed (hconverged : Converged env loop) (hrunning : loop.world.core.isSome = true) {tag uuid : Text}
    (htag : tag ∈ plannedTags loop.plan) {listed : UserInfo} (hlisted : listedUser loop.userSync tag uuid = some listed) :
    ⟨tag, uuid, listed.id⟩ ∈ heldUsers loop.world := by
  obtain ⟨core, hcore⟩ := Option.isSome_iff_exists.1 hrunning
  obtain ⟨corePlan, _, hplan, -, -, hkeys⟩ := hconverged.onFile core hcore
  rw [plannedTags, hplan] at htag
  obtain ⟨inbound, hinbound⟩ := Option.isSome_iff_exists.1 (ExtTreeMap.mem_iff_isSome_getElem?.1 ((hkeys tag).2 htag))
  obtain ⟨entry, hentry, husers⟩ := hconverged.users core hcore tag inbound hinbound
  rw [listedUser_of_entry hentry] at hlisted
  have hget := expectedUsers_get loop.plan tag entry uuid
  rw [hlisted, ← husers] at hget
  exact mem_heldUsers.2 ⟨core, inbound, _, hcore, hinbound, hget, rfl⟩

omit [DecidableEq ν] in
/-- What the core holds is found in the lookup. -/
theorem held_resolved (hloop : Attributable env loop) {held : Acceptance} (h : held ∈ heldUsers loop.world)
    (htag : held.tag ∈ plannedTags loop.plan) : resolvedId loop held.tag held.uuid = some held.id := by
  obtain ⟨listed, hlisted, hid⟩ := held_listed hloop.converged h
  obtain ⟨core, _, _, hcore, -⟩ := mem_heldUsers.1 h
  obtain ⟨entry, hentry, huser⟩ := Option.bind_eq_some_iff.1 hlisted
  rw [resolvedId, lookupId, hloop.knows core hcore held.tag htag entry hentry held.uuid listed huser, Option.some_or, hid]

/-! ## What a tick leaves -/

omit [DecidableEq ν] in
theorem ChangesStep.listed (h : ChangesStep validate answers reportToPanel users loop changes after) (tag uuid : Text) :
    listedUser after.userSync tag uuid = listedUser loop.userSync tag uuid := by
  cases h with
  | none => rfl
  | applied => exact listedUser_clearLastChanges ..
  | deferred => rfl
  | rebuilt => rfl

theorem TickStep.listed (h : TickStep validate env answers reportToPanel users loop after) (tag uuid : Text) :
    listedUser after.userSync tag uuid = listedUser loop.userSync tag uuid := by
  cases h with
  | finished hchanges => exact hchanges.listed tag uuid
  | applied hchanges hrestart happly =>
    rw [(applyTickPlan_frame happly).2.2, hrestart.frame.2]
    exact hchanges.listed tag uuid

omit [DecidableEq ν] in
theorem lookupId_sync (sync : RuntimeUserSync) (tags : List Text) (lookup : KeliCoreUserIdLookup) (tag uuid : Text) :
    lookupId (syncRuntimeUserIdLookupFromState sync tags lookup) tag uuid = lookupId lookup tag uuid ∨
      lookupId (syncRuntimeUserIdLookupFromState sync tags lookup) tag uuid = (listedUser sync tag uuid).map (·.id) := by
  unfold lookupId
  rw [syncLookup_get]
  cases hentry : sync[tag]? with
  | none => exact .inl rfl
  | some entry =>
    by_cases htag : tag ∈ tags
    · simp only [htag, if_true, Option.bind_some]
      rw [userIds_get, listedUser_of_entry hentry]
      exact .inr rfl
    · left
      simp only [htag, if_false]

omit [DecidableEq ν] in
/-- Without a rebuild the core goes on, the plan stays, and the lookup changes by the listed users only. -/
theorem ChangesStep.leaves (hleaves : leavesPlan answers loop users.keys = true)
    (h : ChangesStep validate answers reportToPanel users loop changes after) :
    after.world.core.isSome = true ∧ after.plan = loop.plan ∧ ∀ tag uuid,
      lookupId after.userIdLookup tag uuid = lookupId loop.userIdLookup tag uuid ∨
        lookupId after.userIdLookup tag uuid = (listedUser loop.userSync tag uuid).map (·.id) := by
  rw [leavesPlan, Bool.and_eq_true, Bool.not_eq_true'] at hleaves
  cases h with
  | none => exact ⟨hleaves.1, rfl, fun _ _ => .inl rfl⟩
  | applied => exact ⟨rfl, rfl, fun _ _ => lookupId_sync ..⟩
  | deferred => exact ⟨rfl, rfl, fun _ _ => .inl rfl⟩
  | rebuilt _ hmay =>
    rw [hleaves.2] at hmay
    cases hmay

theorem TickStep.leaves (hleaves : leavesPlan answers loop users.keys = true)
    (h : TickStep validate env answers reportToPanel users loop after) :
    after.plan = loop.plan ∧ ∀ tag uuid,
      lookupId after.userIdLookup tag uuid = lookupId loop.userIdLookup tag uuid ∨
        lookupId after.userIdLookup tag uuid = (listedUser loop.userSync tag uuid).map (·.id) := by
  cases h with
  | finished hchanges => exact (hchanges.leaves hleaves).2
  | @applied mid restarted _ _ hchanges hrestart happly =>
    obtain ⟨hrunning, hplan, hlookup⟩ := hchanges.leaves hleaves
    have hsame : restarted = mid := by
      cases hrestart with
      | running => rfl
      | unplanned => rfl
      | noUsers => rfl
      | rebuilt hcore =>
        rw [hcore] at hrunning
        cases hrunning
    obtain ⟨hsamePlan, hsameLookup, -⟩ := applyTickPlan_frame happly
    rw [hsamePlan, hsameLookup, hsame]
    exact ⟨hplan, hlookup⟩

/-- A plan that was applied runs. -/
theorem applyTickPlan_runs {start : RuntimeLoop ν σ} {deltaApplied : Bool} {tags changed : List Text}
    (hbetween : Between env answers start deltaApplied tags loop) (hgood : GoodTick env answers start changed)
    (h : applyTickPlan env answers deltaApplied tags loop = (.ok (), after)) {corePlan : CorePlan}
    (hplan : loop.plan.corePlan = some corePlan) : after.world.core.isSome = true := by
  have hstart : ({ keliCoreRsUserDeltaApplied := deltaApplied } : RuntimeControlOptions).startCore = true := rfl
  have hstep := applyRuntimePlan_cases env answers.control loop.plan hstart loop.world
  unfold applyTickPlan at h
  cases happly : applyRuntimePlan env answers.control loop.plan { keliCoreRsUserDeltaApplied := deltaApplied }
      loop.world with
  | mk outcome world =>
    rw [happly] at h hstep
    cases outcome with
    | error error => cases h
    | ok result =>
      have hcore : world.core.isSome = true := by
        generalize world.configFile = file at hstep
        generalize world.core = core at hstep ⊢
        cases hstep with
        | stopped hnone =>
          rw [hnone] at hplan
          cases hplan
        | noInbounds _ hreport hnone =>
          rw [reportPlanFor_corePlan hbetween.ok.built (hbetween.listeners hgood) hreport, hplan] at hnone
          cases hnone
        | processed _ _ _ _ _ hcoreStep => exact hcoreStep.isSome
      cases h
      obtain ⟨core, hcore⟩ := Option.isSome_iff_exists.1 hcore
      simp only [tryEstablishKeliCoreRsRevisionBaseline, hplan]
      split
      · obtain ⟨core', hrun, -⟩ := @baseline_each ν σ answers loop.plan corePlan loop.userSync tags
          (hbetween.tagOk corePlan hplan) world core hcore
        rename_i heq _
        cases heq
        rw [hrun]
        rfl
      · rw [hcore]
        rfl

omit [DecidableEq ν] in
theorem corePlan_of_planned {plan : RuntimeBootstrapPlan} {tag : Text} (h : tag ∈ plannedTags plan) :
    ∃ corePlan, plan.corePlan = some corePlan := by
  cases hplan : plan.corePlan with
  | none =>
    rw [plannedTags, hplan] at h
    cases h
  | some corePlan => exact ⟨corePlan, rfl⟩

/-- Where a tick leaves a plan with inbounds, the core runs. -/
theorem TickStep.runs (hpending : Pending env loop users.keys) (hgood : GoodTick env answers loop users.keys)
    (h : TickStep validate env answers reportToPanel users loop after) {tag : Text} (htag : tag ∈ plannedTags after.plan) :
    after.world.core.isSome = true := by
  cases h with
  | finished hchanges =>
    generalize hfinished : UserChanges.finished = changes at hchanges
    cases hchanges with
    | none => cases hfinished
    | applied => rfl
    | deferred => rfl
    | rebuilt => cases hfinished
  | applied hchanges hrestart happly =>
    rcases changes_between hpending hgood hchanges with ⟨hfinished, -⟩ | ⟨_, _, hgoOn, hbetween, hlatest⟩
    · cases hfinished
    · cases hgoOn
      obtain ⟨hbetween, -⟩ := restart_between hbetween hlatest hrestart
      rw [(applyTickPlan_frame happly).1] at htag
      obtain ⟨corePlan, hplan⟩ := corePlan_of_planned htag
      exact applyTickPlan_runs hbetween hgood happly hplan

/-! ## Turns -/

variable (env) in
/-- The loop between two turns, with what the core accepted: every accepted user is found under its last id. -/
structure Accountable (s : Accounted ν σ) : Prop where
  attributable : Attributable env s.loop
  held : ∀ held ∈ heldUsers s.loop.world, latestId s.accepted held.tag held.uuid = some held.id
  resolved : ∀ tag ∈ plannedTags s.loop.plan, ∀ uuid id, latestId s.accepted tag uuid = some id →
    resolvedId s.loop tag uuid = some id

omit [DecidableEq ν] in
theorem latestId_concat {worlds : List (ControlWorld ν σ)} {accepted : List Acceptance} {world : ControlWorld ν σ}
    {held : Acceptance} (h : held ∈ heldUsers world) :
    latestId (acceptAll (worlds ++ [world]) accepted) held.tag held.uuid = some held.id := by
  rw [acceptAll_concat]
  exact latestId_of_held h

omit [DecidableEq ν] in
theorem accountable_start (h : Attributable env loop) : Accountable env loop.accounted := by
  refine ⟨h, fun held hheld => @latestId_concat _ _ [] _ _ _ hheld, fun tag htag uuid id hlatest => ?_⟩
  have hheld : (⟨tag, uuid, id⟩ : Acceptance) ∈ heldUsers loop.world := by
    simpa [RuntimeLoop.accounted, acceptAll] using mem_of_latestId hlatest
  exact held_resolved h hheld htag

omit [DecidableEq ν] in
/-- The core after a refresh holds what it held before, or nothing. -/
theorem RefreshedLoop.held {before : RuntimeLoop ν σ} (h : RefreshedLoop loop before users) {held : Acceptance}
    (hheld : held ∈ heldUsers before.world) : held ∈ heldUsers loop.world := by
  obtain ⟨coreExits, hworld⟩ := h.world
  rw [hworld] at hheld
  cases coreExits with
  | false => exact hheld
  | true => cases hheld

/-- **A tick**: every accepted user is found, also those that are not in the sync state any more. -/
theorem tick_resolved {s : Accounted ν σ} (hs : Accountable env s) (hrefreshed : RefreshedLoop s.loop loop users)
    (hpending : Pending env loop users.keys) (hgood : GoodTick env answers loop users.keys)
    (hkeeps : KeepsAccepted answers loop users.keys s.accepted)
    (htick : runTick validate env answers reportToPanel users loop = (.ok (), after)) (hafter : Attributable env after)
    {tag uuid : Text} {id : Nat} (htag : tag ∈ plannedTags after.plan)
    (hlatest : latestId (acceptAll (tickWorlds answers validate env reportToPanel users loop ++ [after.world])
      s.accepted) tag uuid = some id) : resolvedId after tag uuid = some id := by
  have hstep := runTick_cases hpending hgood.refusals htick
  cases hlisted : listedUser loop.userSync tag uuid with
  | some listed =>
    have hheld := held_of_listed hafter.converged (hstep.runs hpending hgood htag) htag
      ((hstep.listed tag uuid).trans hlisted)
    rw [latestId_concat hheld, Option.some.injEq] at hlatest
    rw [← hlatest]
    exact held_resolved hafter hheld htag
  | none =>
    have htraced : ∀ world ∈ tickWorlds answers validate env reportToPanel users loop ++ [after.world],
        Traced loop.userSync loop.world world := by
      intro world hworld
      rcases List.mem_append.1 hworld with hworld | hworld
      · exact tick_traced hpending hgood htick world hworld
      · rw [List.mem_singleton.1 hworld]
        intro held hheld
        obtain ⟨found, hfound, -⟩ := held_listed hafter.converged hheld
        rw [hstep.listed] at hfound
        exact .inl (by rw [hfound]; rfl)
    -- the user was accepted before the tick, and the tick brings it no new id
    have hold : latestId s.accepted tag uuid = some id := by
      rw [← hlatest]
      refine (latestId_acceptAll fun world hworld held hheld htag huuid => ?_).symm
      subst htag huuid
      rcases htraced world hworld held hheld with hsome | hmem
      · rw [hlisted] at hsome
        cases hsome
      · exact hs.held held (hrefreshed.held hmem)
    rcases hkeeps _ (mem_of_latestId hold) with hsome | ⟨hleaves, hplanned⟩
    · rw [hlisted] at hsome
      cases hsome
    · obtain ⟨hplan, hlookup⟩ := hstep.leaves hleaves
      rw [hplan] at htag
      rw [hrefreshed.plan] at hplanned hplan htag
      have hbefore := hs.resolved tag htag uuid id hold
      rw [resolvedId, hplan]
      rcases hlookup tag uuid with hsame | hnew
      · rw [hsame, hrefreshed.userIdLookup]
        exact hbefore
      · rw [hnew, hlisted, Option.map_none, Option.none_or, hplanned htag, hold]

/-- **One turn**. -/
theorem turn_accountable {s t : Accounted ν σ} {step : LoopStep} (hs : Accountable env s)
    (hgood : AttributedTurn env s step) (h : s.step validate env step = some t) : Accountable env t := by
  obtain ⟨after, hafter, rfl⟩ := Option.map_eq_some_iff.1 h
  have hturn := loopStep_cases hafter
  have hnext := turn_attributable hs.attributable hgood hturn
  refine ⟨hnext, fun held hheld => latestId_concat hheld, fun tag htag uuid id hlatest => ?_⟩
  cases hturn with
  | @skipped users hbefore hnil hskip =>
    have hrefreshed := before_refreshed hs.attributable.converged.ok hgood.good.panel hbefore
    have hworlds : turnWorlds validate env step s.loop = [] := by
      simp only [turnWorlds, hbefore, hskip, if_true]
    rw [hworlds] at hlatest
    have hold : latestId s.accepted tag uuid = some id := by
      rw [← hlatest]
      refine (latestId_acceptAll fun world hworld held hheld htag huuid => ?_).symm
      subst htag huuid
      rw [List.nil_append, List.mem_singleton] at hworld
      rw [hworld] at hheld
      exact hs.held held (hrefreshed.held hheld)
    simp only at htag ⊢
    rw [hrefreshed.plan] at htag
    rw [resolvedId, hrefreshed.plan, hrefreshed.userIdLookup]
    exact hs.resolved tag htag uuid id hold
  | @ticked users before hbefore htick hskip =>
    have hrefreshed := before_refreshed hs.attributable.converged.ok hgood.good.panel hbefore
    have hpending := before_pending hs.attributable.converged hgood.good.panel hbefore
    have hworlds : turnWorlds validate env step s.loop =
        tickWorlds step.answers validate env step.reportToPanel users before := by
      simp only [turnWorlds, hbefore, hskip, Bool.false_eq_true, if_false]
    rw [hworlds] at hlatest
    exact tick_resolved hs hrefreshed hpending (hgood.good.tick _ hbefore) (hgood.keeps _ hbefore) htick hnext htag
      hlatest

omit [DecidableEq ν] in
theorem Accountable.attributed {s : Accounted ν σ} (h : Accountable env s) : Attributed s := by
  intro corePlan hplan tag htag uuid id hlatest record hnodeTag huuid hid
  subst hnodeTag huuid
  refine reportTarget_of_resolved h.attributable.converged.ok hplan htag hid (h.resolved _ ?_ _ _ hlatest)
  rw [plannedTags, hplan]
  exact htag

variable (validate env) in
/-- Where the turn returns `Ok`, the traffic of every user that the core accepted is attributed. -/
def TrafficFollows (s : Accounted ν σ) (step : LoopStep) : Prop :=
  ∀ after ∈ s.step validate env step, Attributed after

/-- **Billing attribution**: from a loop whose core, if it runs, is on the plan's file with the users of the sync
state, all of them known to the lookup, along every run of good turns that defer nothing they partly delivered and
lose no accepted user, of any panel answers and any answers of the core, each turn that returns `Ok` leaves every
record of a user that the core accepted so far for an inbound of the plan with that tag and the id the user was last
accepted with. -/
theorem traffic_attributed (validate : InboundPlan → Except Text Unit) (env : ControlEnv ν σ) (steps : List LoopStep)
    (loop : RuntimeLoop ν σ) (hstart : Attributable env loop)
    (hgood : Along (Accounted.step validate env) (AttributedTurn env) steps loop.accounted) :
    Along (Accounted.step validate env) (TrafficFollows validate env) steps loop.accounted := by
  refine Along.of_invariant (fun s step hs hturn => ?_) (accountable_start hstart) hgood
  have hnext : ∀ after, s.step validate env step = some after → Accountable env after :=
    fun after hafter => turn_accountable hs hturn hafter
  exact ⟨fun after hafter => (hnext after hafter).attributed, hnext⟩

end

/-! ## Two nodes, one without users -/

/-- The core starts, a user of the second node is added, the core exits and is started again, and the first user of
the node is deleted: the plan still has it. -/
def addThenDelete : List LoopStep :=
  addThenRestart ++ [{ panel := panelDeltas { revision := 1 } { revision := 3, deleted := [userA] } }]

theorem traffic_attributed_added :
    Along (Accounted.step acceptInbound listenEnv) (TrafficFollows acceptInbound listenEnv) addThenDelete
      (freshLoop true [vmessNode 1 "node-a" 8443, trojanNode 2 "node-b" 443] [("node-b", [userA])]).accounted := by
  refine traffic_attributed acceptInbound listenEnv _ _ ⟨freshLoop_converged ?_ ?_, fun _ h => (by cases h)⟩ ?_
  · decide +kernel
  · decide +kernel
  · decide +kernel

/-- Each user that was accepted for an inbound of the plan is found, by a record without traffic. -/
def findsUsers {ν σ : Type} (s : Accounted ν σ) : Bool :=
  s.loop.plan.corePlan.all fun corePlan => s.accepted.all fun user =>
    !(corePlan.inbounds.map (·.tag)).contains user.tag || keliCoreRecordReportTarget corePlan
      { nodeTag := user.tag, userUuid := user.uuid, upload := 0, download := 0 } s.loop.userIdLookup =
        (latestId s.accepted user.tag user.uuid).map fun id => (user.tag, id)

theorem findsUsers_of_attributed {ν σ : Type} {s : Accounted ν σ} (h : Attributed s) : findsUsers s = true := by
  unfold findsUsers
  cases hplan : s.loop.plan.corePlan with
  | none => rfl
  | some corePlan =>
    simp only [Option.all_some, List.all_eq_true, Bool.or_eq_true, Bool.not_eq_true', decide_eq_true_eq]
    intro user huser
    by_cases htag : user.tag ∈ corePlan.inbounds.map (·.tag)
    · right
      cases hlatest : latestId s.accepted user.tag user.uuid with
      | none => exact absurd (latestId_isSome huser) (by rw [hlatest]; simp)
      | some id => exact h corePlan hplan user.tag htag user.uuid id hlatest _ rfl rfl rfl
    · exact .inl (by simpa using htag)

/-- A panel with a delta for each of two nodes; on the disk, the first has a user. -/
def panelDeltasFirst (first second : UserDeltaBody) : Option (Text → PanelUsersAnswer) :=
  some fun tag =>
    if tag = ("node-a" : Text) then { stored := { revision := 1, users := [userA] }, delta := .ok first }
    else { stored := { revision := 1 }, delta := .ok second }

/-- A user is added to the first node; the second one, which has no inbound, changes in its revision only. -/
def addToFirst : List LoopStep :=
  [{ panel := panelDeltasFirst { revision := 1 } { revision := 1 } },
    { panel := panelDeltasFirst { revision := 2, upsert := [userB] } { revision := 2 } }]

/-- A user is added to the first node, and deleted with the next change. -/
def addAndDelete : List LoopStep :=
  [{ panel := panelDeltasFirst { revision := 1 } { revision := 1 } },
    { panel := panelDeltasFirst { revision := 2, upsert := [userB] } { revision := 1 } },
    { panel := panelDeltasFirst { revision := 3, deleted := [userB] } { revision := 1 } }]

/-- The new user is delivered to the first node, then the attempt is deferred at the second: the lookup is not
written, and the traffic of the user finds no id.  A user that is added and deleted by deltas is in neither the
lookup nor the plan, and its traffic finds no id either. -/
theorem traffic_unattributed :
    ¬ Along (Accounted.step acceptInbound listenEnv) (TrafficFollows acceptInbound listenEnv) addToFirst
      (freshLoop true [trojanNode 1 "node-a" 443, vmessNode 2 "node-b" 8443] [("node-a", [userA])]).accounted ∧
    ¬ Along (Accounted.step acceptInbound listenEnv) (TrafficFollows acceptInbound listenEnv) addAndDelete
      (freshLoop true [trojanNode 1 "node-a" 443, vmessNode 2 "node-b" 8443] [("node-a", [userA])]).accounted := by
  have hfinds : ∀ steps s, Along (Accounted.step acceptInbound listenEnv) (TrafficFollows acceptInbound listenEnv)
      steps s → Along (Accounted.step acceptInbound listenEnv)
        (fun s step => ∀ after ∈ s.step acceptInbound listenEnv step, findsUsers after = true) steps s :=
    fun steps s h => Along.imp (fun s step hturn after hafter => findsUsers_of_attributed (hturn after hafter)) h
  constructor
  · intro h
    have hfinds := hfinds _ _ h
    revert hfinds
    decide +kernel
  · intro h
    have hfinds := hfinds _ _ h
    revert hfinds
    decide +kernel

end KeliNode
