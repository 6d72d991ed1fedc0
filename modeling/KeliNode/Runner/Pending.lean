import KeliNode.Runner.Users

/-!
# What a refresh leaves to the tick

A refresh moves the sync entries ahead of the core and marks the tags a tick has to act on.  Nothing is lost
between the two (`refresh_spec`): an entry whose tag is not marked has the users it had, and where the entry of
a marked tag holds an incremental change, the diff of that change leads from the old users to the new ones.

Both depend on lists in which a uuid stands for one user (`PanelOk`): the diff is computed from the list, the
new state and the core's from a map.
-/

namespace KeliNode

open Lib Std

/-! ## Well-formed answers -/

instance (users : List UserInfo) : Decidable (UsersOk users) :=
  decidable_of_iff ((users.map (·.uuid)).Nodup ∧ ∀ user ∈ users, trim user.uuid = user.uuid ∧ user.uuid ≠ [])
    ⟨fun h => ⟨h.1, h.2⟩, fun h => ⟨h.nodup, h.clean⟩⟩

/-- The users a panel and the disk may answer with. -/
structure PanelOk (answer : PanelUsersAnswer) : Prop where
  stored : UsersOk answer.stored.users
  full : ∀ delta ∈ answer.delta.toOption, UsersOk delta.users
  upsert : ∀ delta ∈ answer.delta.toOption, ∀ user ∈ delta.upsert, trim user.uuid = user.uuid ∧ user.uuid ≠ []
  list : ∀ users ∈ answer.list.toOption, UsersOk (users.getD [])

instance (answer : PanelUsersAnswer) : Decidable (PanelOk answer) :=
  decidable_of_iff (UsersOk answer.stored.users ∧ (∀ delta ∈ answer.delta.toOption, UsersOk delta.users) ∧
      (∀ delta ∈ answer.delta.toOption, ∀ user ∈ delta.upsert, trim user.uuid = user.uuid ∧ user.uuid ≠ []) ∧
      ∀ users ∈ answer.list.toOption, UsersOk (users.getD []))
    ⟨fun h => ⟨h.1, h.2.1, h.2.2.1, h.2.2.2⟩, fun h => ⟨h.stored, h.full, h.upsert, h.list⟩⟩

/-! ## One node -/

/-- The lists hold the same user under every uuid. -/
def SameUsers (old new : List UserInfo) : Prop := ∀ uuid, userAt new uuid = userAt old uuid

/-- A core that holds the users of the old list and takes the diff holds those of the new list. -/
def DiffLeads (diff : UserListDiff) (old new : List UserInfo) : Prop :=
  ∀ f : UserInfo → CoreUser, (∀ user, (f user).uuid = user.uuid) →
    (((coreUsersOf (old.map f)).drop (diff.deleted.map (·.uuid))).put (diff.added.map f)).put (diff.updated.map f) =
      coreUsersOf (new.map f)

/-- A state that was loaded, and the change recorded for the core. -/
structure LoadStep (old new : List UserInfo) (lastChange : Option RuntimeUserDeltaChange) : Prop where
  ok : UsersOk new
  same : lastChange = none → SameUsers old new
  leads : ∀ change, lastChange = some change → change.full = false → DiffLeads change.diff old new

theorem SameUsers.refl (users : List UserInfo) : SameUsers users users := fun _ => rfl

theorem diffLeads_nil (users : List UserInfo) : DiffLeads {} users users := fun _ _ => rfl

theorem runtimeUserDeltaChange_none {full : Bool} {base revision : Int} {diff : UserListDiff}
    (h : runtimeUserDeltaChange full base revision diff = none) : userListDiffIsEmpty diff = true := by
  unfold runtimeUserDeltaChange at h
  split at h
  · rename_i hempty
    exact (Bool.and_eq_true_iff.1 hempty).1
  · cases h

theorem runtimeUserDeltaChange_some {full : Bool} {base revision : Int} {diff : UserListDiff}
    {change : RuntimeUserDeltaChange} (h : runtimeUserDeltaChange full base revision diff = some change) :
    change.full = full ∧ change.diff = diff := by
  unfold runtimeUserDeltaChange at h
  split at h
  · cases h
  · cases h
    exact ⟨rfl, rfl⟩

theorem applyPanelDelta_step {entry : RuntimeUserSyncEntry} {delta : UserDeltaBody} (native : Bool)
    (hold : UsersOk entry.state.users) (hfull : UsersOk delta.users)
    (hupsert : ∀ user ∈ delta.upsert, trim user.uuid = user.uuid ∧ user.uuid ≠ []) :
    LoadStep entry.state.users (applyPanelDelta entry delta native).state.users
      (applyPanelDelta entry delta native).lastChange := by
  unfold applyPanelDelta
  split
  · refine ⟨hold, fun _ => SameUsers.refl _, fun change hchange _ => ?_⟩
    simp only [applyRevisionOnlyUserDelta] at hchange ⊢
    split at hchange
    · rw [(runtimeUserDeltaChange_some hchange).2]
      exact diffLeads_nil _
    · cases hchange
  · simp only
    split
    · exact ⟨hold, fun _ => SameUsers.refl _, fun _ h => by cases h⟩
    · rename_i hsome
      simp only
      refine ⟨?_, fun hnone => absurd hnone (by simpa using hsome), fun change hchange hincremental => ?_⟩
      · unfold applyUserDeltaBodyOwned
        split
        · split
          · exact hold
          · exact hfull
        · split
          · exact hold
          · exact usersOk_next hold hupsert
      · obtain ⟨hkind, hdiff⟩ := runtimeUserDeltaChange_some hchange
        have hnot : delta.full = false := by rw [← hkind, hincremental]
        rw [hdiff]
        simp only [userDeltaBodyDiff, applyUserDeltaBodyOwned, hnot, Bool.false_eq_true, if_false]
        intro f hf
        rw [core_follows_delta hf hold.nodup]
        split
        · rename_i hempty
          simp only [Bool.and_eq_true, List.isEmpty_iff] at hempty
          -- nothing deleted and nothing upserted: the list is rebuilt from its map
          refine coreUsersOf_congr hf fun uuid => ?_
          rw [userAt_next, hempty.1, hempty.2]
          simp
        · rfl

theorem applyPanelList_step {entry : RuntimeUserSyncEntry} {users : Option (List UserInfo)}
    (hold : UsersOk entry.state.users) (hlist : UsersOk (users.getD [])) :
    LoadStep entry.state.users (applyPanelList entry users).state.users (applyPanelList entry users).lastChange := by
  simp only [applyPanelList, applyFullUserListOwned]
  refine ⟨?_, fun hnone => ?_, fun change hchange hincremental => ?_⟩
  · split
    · exact hold
    · exact hlist
  · have hempty := runtimeUserDeltaChange_none hnone
    split at hempty
    · rename_i hnil
      simp only [hnil, if_true]
      exact SameUsers.refl _
    · rename_i hne
      rw [if_neg hne]
      exact sameUsers_of_empty_diff hlist.nodup hempty
  · rw [(runtimeUserDeltaChange_some hchange).1] at hincremental
    cases hincremental

/-- The list request of a node, behind the entry that the delta request left. -/
theorem listAnswer_cases (entry entry' : RuntimeUserSyncEntry) {config : NodeConfig} {after : RuntimeUserSyncEntry} {answer : PanelUsersAnswer}
    {outcome : Except Text Unit} (hanswer : PanelOk answer) (hold : UsersOk entry.state.users)
    (hstate : entry'.state = entry.state)
    (hrun : (match answer.list with
      | .error error => (.error (loadUsersError "list" config error), entry')
      | .ok users => (.ok (), applyPanelList entry' users)) = (outcome, after)) :
    (outcome = .ok () ∧ LoadStep entry.state.users after.state.users after.lastChange) ∨
      ((∃ error, outcome = .error error) ∧ after.state = entry.state) := by
  cases hanswered : answer.list with
  | error error =>
    rw [hanswered] at hrun
    cases hrun
    exact .inr ⟨⟨_, rfl⟩, hstate⟩
  | ok users =>
    rw [hanswered] at hrun
    cases hrun
    refine .inl ⟨rfl, ?_⟩
    rw [← hstate] at hold ⊢
    exact applyPanelList_step hold (hanswer.list users (by rw [hanswered]; rfl))

/-- **One node**: an answer that was taken moves the state, an error leaves it. -/
theorem loadUsersForNode_cases {config : NodeConfig} {entry after : RuntimeUserSyncEntry} {answer : PanelUsersAnswer}
    {native : Bool} {outcome : Except Text Unit} (hanswer : PanelOk answer) (hold : UsersOk entry.state.users)
    (h : loadUsersForNode config entry answer native = (outcome, after)) :
    (outcome = .ok () ∧ LoadStep entry.state.users after.state.users after.lastChange) ∨
      ((∃ error, outcome = .error error) ∧ after.state = entry.state) := by
  unfold loadUsersForNode at h
  by_cases hsupported : entry.deltaSupported = true
  · simp only [hsupported, if_true] at h
    cases hdelta : answer.delta with
    | ok delta =>
      rw [hdelta] at h
      cases h
      have hmem : delta ∈ answer.delta.toOption := by
        rw [hdelta]
        rfl
      exact .inl ⟨rfl, applyPanelDelta_step native hold (hanswer.full delta hmem) (hanswer.upsert delta hmem)⟩
    | error error =>
      simp only [hdelta] at h
      split at h
      · exact listAnswer_cases entry { entry with deltaSupported := false } hanswer hold rfl h
      · cases h
        exact .inr ⟨⟨_, rfl⟩, rfl⟩
  · simp only [hsupported] at h
    exact listAnswer_cases entry entry hanswer hold rfl h

/-! ## The nodes of a plan -/

/-- Every entry holds a well-formed list. -/
def SyncOk (sync : RuntimeUserSync) : Prop :=
  ∀ (tag : Text) (entry : RuntimeUserSyncEntry), sync[tag]? = some entry → UsersOk entry.state.users

/-- What a refresh leaves of an entry, where it had one, and whether it marks the tag. -/
structure Refreshed (old new : Option RuntimeUserSyncEntry) (marked : Prop) : Prop where
  ok : ∀ entry, new = some entry → UsersOk entry.state.users
  found : marked → new.isSome = true
  same : ¬ marked → ∀ before, old = some before →
    ∃ after, new = some after ∧ SameUsers before.state.users after.state.users
  leads : marked → ∀ before after change, old = some before → new = some after → after.lastChange = some change →
    change.full = false → DiffLeads change.diff before.state.users after.state.users

theorem refreshed_of_kept {entry : Option RuntimeUserSyncEntry} {marked : Prop}
    (hok : ∀ found, entry = some found → UsersOk found.state.users) (hmarked : ¬ marked) :
    Refreshed entry entry marked :=
  ⟨hok, fun h => absurd h hmarked, fun _ before hbefore => ⟨before, hbefore, SameUsers.refl _⟩,
    fun h => absurd h hmarked⟩

/-- An entry that is loaded, from the one it had or from the stored state. -/
theorem refreshed_of_load {old : Option RuntimeUserSyncEntry} {stored after : RuntimeUserSyncEntry} {marked : Prop}
    (hload : LoadStep (old.getD stored).state.users after.state.users after.lastChange)
    (hmarked : after.lastChange ≠ none → marked) : Refreshed old (some after) marked := by
  refine ⟨fun _ h => ?_, fun _ => rfl, fun hnot before hbefore => ?_, fun _ before _ change hbefore hafter => ?_⟩
  · cases h
    exact hload.ok
  · subst hbefore
    exact ⟨after, rfl, hload.same (by_contra fun hne => hnot (hmarked hne))⟩
  · subst hbefore
    cases hafter
    exact hload.leads change

theorem mem_usersForTick_ne {plan : RuntimeBootstrapPlan} {mode : UserRefreshPayloadMode} {tag other : Text}
    {entry : RuntimeUserSyncEntry} {users : UsersByNodeTag} (hne : other ≠ tag) :
    other ∈ usersForTick plan mode tag entry users ↔ other ∈ users := by
  unfold usersForTick
  split
  · simp [Ne.symm hne]
  · split
    · simp [Ne.symm hne]
    · rfl

theorem mem_usersForTick_of_change {plan : RuntimeBootstrapPlan} {mode : UserRefreshPayloadMode} {tag : Text}
    {entry : RuntimeUserSyncEntry} {users : UsersByNodeTag} (hchange : entry.lastChange ≠ none) :
    tag ∈ usersForTick plan mode tag entry users := by
  unfold usersForTick
  rw [if_pos (Option.isSome_iff_ne_none.2 hchange)]
  simp

section

variable {plan : RuntimeBootstrapPlan} {mode : UserRefreshPayloadMode} {answers : Text → PanelUsersAnswer}

/-- One node of the loop: its entry is loaded or kept, and nothing else is touched. -/
structure NodeLoaded (node : NodeInfo) (sync sync' : RuntimeUserSync) (users users' : UsersByNodeTag) : Prop where
  own : Refreshed sync[node.tag]? sync'[node.tag]? (node.tag ∈ users')
  others : ∀ tag, tag ≠ node.tag → sync'[tag]? = sync[tag]? ∧ (tag ∈ users' ↔ tag ∈ users)

theorem nodeLoaded_kept {node : NodeInfo} {sync : RuntimeUserSync} {users : UsersByNodeTag}
    (hok : SyncOk sync) (hfresh : node.tag ∉ users) :
    NodeLoaded node sync sync users users :=
  ⟨refreshed_of_kept (hok node.tag) hfresh, fun _ _ => ⟨rfl, Iff.rfl⟩⟩

theorem getElem?_insert_ne {sync : RuntimeUserSync} {tag other : Text} (hne : other ≠ tag)
    (entry : RuntimeUserSyncEntry) : (sync.insert tag entry)[other]? = sync[other]? := by
  simp [ExtTreeMap.getElem?_insert, Ne.symm hne]

/-- The loop over the nodes takes the first node as `NodeLoaded` says, and goes on with the others. -/
theorem loadUsersByNodeTag_cons {node : NodeInfo} {nodes : List NodeInfo} {sync final : RuntimeUserSync}
    {users loaded : UsersByNodeTag} (hanswer : PanelOk (answers node.tag))
    (hok : SyncOk sync) (hfresh : node.tag ∉ users)
    (h : loadUsersByNodeTag plan mode answers (node :: nodes) sync users = (.ok loaded, final)) :
    ∃ sync' users', NodeLoaded node sync sync' users users' ∧
      loadUsersByNodeTag plan mode answers nodes sync' users' = (.ok loaded, final) := by
  rw [loadUsersByNodeTag] at h
  cases hconfig : nodeConfigForInfo plan.resolved node.id node.tag with
  | none =>
    rw [hconfig] at h
    exact ⟨sync, users, nodeLoaded_kept hok hfresh, h⟩
  | some config =>
    simp only [hconfig] at h
    cases hclient : (answers node.tag).client with
    | some error => simp [hclient] at h
    | none =>
      simp only [hclient] at h
      have hgetD : sync.getD node.tag { state := (answers node.tag).stored } =
          sync[node.tag]?.getD { state := (answers node.tag).stored } := by
        rw [ExtTreeMap.getD_eq_getD_getElem?]
      have hold : UsersOk (sync.getD node.tag { state := (answers node.tag).stored }).state.users := by
        rw [hgetD]
        cases hentry : sync[node.tag]? with
        | none => exact hanswer.stored
        | some entry => exact hok node.tag entry hentry
      cases hload : loadUsersForNode config (sync.getD node.tag { state := (answers node.tag).stored })
          (answers node.tag) plan.corePlan.isSome with
      | mk outcome after =>
        simp only [hload] at h
        rcases loadUsersForNode_cases hanswer hold hload with ⟨rfl, hstep⟩ | ⟨⟨error, rfl⟩, hstate⟩
        · refine ⟨_, _, ⟨?_, fun tag hne => ⟨getElem?_insert_ne hne after, mem_usersForTick_ne hne⟩⟩, h⟩
          rw [ExtTreeMap.getElem?_insert_self]
          rw [hgetD] at hstep
          exact refreshed_of_load hstep mem_usersForTick_of_change
        · simp only at h
          split at h
          · refine ⟨_, _, ⟨?_, fun tag hne => ⟨getElem?_insert_ne hne after, Iff.rfl⟩⟩, h⟩
            rw [ExtTreeMap.getElem?_insert_self]
            refine ⟨fun _ hafter => ?_, fun hmem => absurd hmem hfresh, fun _ before hbefore => ?_,
              fun hmem => absurd hmem hfresh⟩
            · cases hafter
              rw [hstate]
              exact hold
            · rw [hgetD, hbefore] at hstate
              exact ⟨after, rfl, by rw [hstate]; exact SameUsers.refl _⟩
          · cases h

/-- **A refresh**: every tag is refreshed or kept, and only tags of nodes are marked. -/
theorem loadUsersByNodeTag_spec {nodes : List NodeInfo} {sync final : RuntimeUserSync} {users loaded : UsersByNodeTag}
    (hnodup : (nodes.map (·.tag)).Nodup) (hanswers : ∀ node ∈ nodes, PanelOk (answers node.tag))
    (hok : SyncOk sync)
    (hfresh : ∀ node ∈ nodes, node.tag ∉ users)
    (h : loadUsersByNodeTag plan mode answers nodes sync users = (.ok loaded, final)) (tag : Text) :
    (tag ∈ nodes.map (·.tag) → Refreshed sync[tag]? final[tag]? (tag ∈ loaded)) ∧
      (tag ∉ nodes.map (·.tag) → final[tag]? = sync[tag]? ∧ (tag ∈ loaded ↔ tag ∈ users)) := by
  induction nodes generalizing sync users with
  | nil =>
    cases h
    exact ⟨fun hmem => (by cases hmem), fun _ => ⟨rfl, Iff.rfl⟩⟩
  | cons node nodes ih =>
    rw [List.map_cons, List.nodup_cons] at hnodup
    obtain ⟨sync', users', hnode, hrest⟩ := loadUsersByNodeTag_cons (hanswers node List.mem_cons_self) hok
      (hfresh node List.mem_cons_self) h
    have hok' : SyncOk sync' := by
      intro tag entry hentry
      by_cases htag : tag = node.tag
      · subst htag
        exact hnode.own.ok entry hentry
      · rw [(hnode.others tag htag).1] at hentry
        exact hok tag entry hentry
    have hfresh' : ∀ other ∈ nodes, other.tag ∉ users' := by
      intro other hother hmem
      have hne : other.tag ≠ node.tag := fun heq => hnodup.1 (heq ▸ List.mem_map_of_mem hother)
      exact hfresh other (List.mem_cons_of_mem _ hother) ((hnode.others other.tag hne).2.1 hmem)
    obtain ⟨hin, hout⟩ := ih hnodup.2 (fun other hother => hanswers other (List.mem_cons_of_mem _ hother)) hok' hfresh'
      hrest
    by_cases htag : tag = node.tag
    · subst htag
      obtain ⟨hfinal, hloaded⟩ := hout hnodup.1
      refine ⟨fun _ => ?_, fun hnot => absurd List.mem_cons_self hnot⟩
      rw [hfinal, propext hloaded]
      exact hnode.own
    · obtain ⟨hsync, husers⟩ := hnode.others tag htag
      rw [hsync] at hin hout
      refine ⟨fun hmem => hin ((List.mem_cons.1 hmem).resolve_left htag), fun hnot => ?_⟩
      obtain ⟨hfinal, hloaded⟩ := hout fun hmem => hnot (List.mem_cons_of_mem _ hmem)
      exact ⟨hfinal, hloaded.trans husers⟩

end

end KeliNode
