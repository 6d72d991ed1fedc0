import KeliNode.Runner.Deliver
import KeliNode.Runner.Rebuild

/-!
# Plans with the users of the sync state

A rebuild reads the sync entries of the changed tags and of the plan's inbounds (`rebuildUsers_of_changed`,
`rebuildUsers_of_planned`), except that an inbound whose entry has no users keeps its own.  Where it has none
either (`LatestOk`), the rebuilt plan holds for each inbound what its entry holds (`rebuild_fresh`).
-/

namespace KeliNode

open Lib Std

/-! ## The users a rebuild reads -/

section

variable {plan : RuntimeBootstrapPlan} {sync : RuntimeUserSync}

theorem foldl_latest_of_not_mem {tag : Text} {inbounds : List InboundPlan}
    (hnot : tag ∉ inbounds.map (·.tag)) (users : UsersByNodeTag) :
    (inbounds.foldl (fun users inbound =>
      let latest := latestUsersForInbound sync inbound
      if latest.isEmpty then users else users.insert inbound.tag latest) users).getD tag [] = users.getD tag [] := by
  induction inbounds generalizing users with
  | nil => rfl
  | cons inbound inbounds ih =>
    rw [List.map_cons, List.mem_cons, not_or] at hnot
    rw [List.foldl_cons, ih hnot.2]
    simp only
    split
    · rfl
    · rw [getD_insert, if_neg (Ne.symm hnot.1)]

theorem foldl_latest_of_mem {inbound : InboundPlan} {inbounds : List InboundPlan}
    (hnodup : (inbounds.map (·.tag)).Nodup) (hmem : inbound ∈ inbounds) {users : UsersByNodeTag}
    (hnone : users.getD inbound.tag [] = []) :
    (inbounds.foldl (fun users inbound =>
      let latest := latestUsersForInbound sync inbound
      if latest.isEmpty then users else users.insert inbound.tag latest) users).getD inbound.tag [] =
        latestUsersForInbound sync inbound := by
  induction inbounds generalizing users with
  | nil => cases hmem
  | cons head inbounds ih =>
    rw [List.map_cons, List.nodup_cons] at hnodup
    rw [List.foldl_cons]
    rcases List.mem_cons.1 hmem with rfl | hmem
    · rw [foldl_latest_of_not_mem hnodup.1]
      simp only
      split
      · rename_i hempty
        rw [hnone, List.isEmpty_iff.1 hempty]
      · rw [getD_insert, if_pos rfl]
    · have hne : head.tag ≠ inbound.tag := fun heq => hnodup.1 (heq ▸ List.mem_map_of_mem hmem)
      refine ih hnodup.2 hmem ?_
      simp only
      split
      · exact hnone
      · rw [getD_insert, if_neg hne, hnone]

theorem latestUsers_of_mem {inbound : InboundPlan} (hnodup : ((inboundsOf plan.corePlan).map (·.tag)).Nodup)
    (hmem : inbound ∈ inboundsOf plan.corePlan) :
    (latestUsersByNodeTagForCorePlan plan sync).getD inbound.tag [] = latestUsersForInbound sync inbound := by
  unfold latestUsersByNodeTagForCorePlan
  cases hplan : plan.corePlan with
  | none =>
    rw [hplan] at hmem
    cases hmem
  | some corePlan =>
    rw [hplan] at hmem hnodup
    exact foldl_latest_of_mem hnodup hmem (by simp)

theorem latestUsers_of_not_mem {tag : Text} (hnot : tag ∉ (inboundsOf plan.corePlan).map (·.tag)) :
    (latestUsersByNodeTagForCorePlan plan sync).getD tag [] = [] := by
  unfold latestUsersByNodeTagForCorePlan
  cases hplan : plan.corePlan with
  | none => simp
  | some corePlan =>
    rw [hplan] at hnot
    exact (foldl_latest_of_not_mem hnot ∅).trans (by simp)

theorem userSyncUsersForTags_of_not_mem {tag : Text} {tags : List Text} (hnot : tag ∉ tags)
    (fallback users : UsersByNodeTag) :
    (userSyncUsersForTags sync tags fallback users).getD tag [] = users.getD tag [] := by
  unfold userSyncUsersForTags
  induction tags generalizing users with
  | nil => rfl
  | cons other tags ih =>
    rw [List.mem_cons, not_or] at hnot
    rw [List.foldl_cons, ih hnot.2]
    split
    · rw [getD_insert, if_neg (Ne.symm hnot.1)]
    · split
      · rw [getD_insert, if_neg (Ne.symm hnot.1)]
      · rfl

/-- A restart reads what a rebuild without changed tags reads. -/
theorem latestUsers_eq_rebuildUsers :
    latestUsersByNodeTagForCorePlan plan sync = userSyncUsersForRuntimeRebuild plan sync [] ∅ := rfl

/-- What a rebuild for some changed tags reads is up to date: every inbound of another tag has an entry, and has no
users itself where the entry has none. -/
def LatestOk (plan : RuntimeBootstrapPlan) (sync : RuntimeUserSync) (tags : List Text) : Prop :=
  ∀ inbound ∈ inboundsOf plan.corePlan, inbound.tag ∉ tags →
    sync[inbound.tag]?.any (fun entry => !entry.state.users.isEmpty || inbound.users.isEmpty) = true

instance (plan : RuntimeBootstrapPlan) (sync : RuntimeUserSync) (tags : List Text) :
    Decidable (LatestOk plan sync tags) :=
  inferInstanceAs (Decidable (∀ inbound ∈ _, _))

theorem rebuildUsers_of_changed {tags : List Text} {tag : Text} (hmem : tag ∈ tags) {entry : RuntimeUserSyncEntry}
    (hentry : sync[tag]? = some entry) (fallback : UsersByNodeTag) :
    (userSyncUsersForRuntimeRebuild plan sync tags fallback).getD tag [] = entry.state.users := by
  rw [userSyncUsersForRuntimeRebuild, foldl_userSync sync fallback hentry, if_pos hmem]

theorem rebuildUsers_of_planned {tags : List Text} {inbound : InboundPlan}
    (hnodup : ((inboundsOf plan.corePlan).map (·.tag)).Nodup) (hmem : inbound ∈ inboundsOf plan.corePlan)
    (hnot : inbound.tag ∉ tags) (hlatest : LatestOk plan sync tags) (fallback : UsersByNodeTag) :
    ∃ entry, sync[inbound.tag]? = some entry ∧
      (userSyncUsersForRuntimeRebuild plan sync tags fallback).getD inbound.tag [] = entry.state.users := by
  have hany := hlatest inbound hmem hnot
  rw [userSyncUsersForRuntimeRebuild, userSyncUsersForTags_of_not_mem hnot, latestUsers_of_mem hnodup hmem,
    latestUsersForInbound]
  cases hentry : sync[inbound.tag]? with
  | none => simp [hentry] at hany
  | some entry =>
    refine ⟨entry, rfl, ?_⟩
    simp only [hentry, Option.any_some, Bool.or_eq_true, Bool.not_eq_true'] at hany
    simp only
    split
    · rename_i hempty
      have hnone : inbound.users = [] := by simpa [hempty] using hany
      rw [inboundUserInfos, hnone, List.isEmpty_iff.1 hempty]
      rfl
    · rfl

theorem rebuildUsers_of_other {tags : List Text} {tag : Text} (hnot : tag ∉ tags)
    (hplans : tag ∉ (inboundsOf plan.corePlan).map (·.tag)) (fallback : UsersByNodeTag) :
    (userSyncUsersForRuntimeRebuild plan sync tags fallback).getD tag [] = [] := by
  rw [userSyncUsersForRuntimeRebuild, userSyncUsersForTags_of_not_mem hnot, latestUsers_of_not_mem hplans]

end

/-! ## Fresh plans -/

/-- The plan holds for each inbound what its entry holds. -/
def PlanFresh (plan : RuntimeBootstrapPlan) (sync : RuntimeUserSync) : Prop :=
  ∀ inbound ∈ inboundsOf plan.corePlan, ∃ entry, sync[inbound.tag]? = some entry ∧
    inbound.users.map renderKeliCoreRsUser =
      entry.state.users.map (keliCoreUserDeltaUser (keliCoreDeviceLimitFallbackForNode plan inbound.tag))

/-- Users without blank or padded uuids are planned as they are. -/
theorem plannedUsers_render (node : NodeInfo) {users : List UserInfo}
    (hclean : ∀ user ∈ users, trim user.uuid = user.uuid ∧ user.uuid ≠ []) :
    (plannedUsers node users).map renderKeliCoreRsUser =
      users.map (keliCoreUserDeltaUser (nodeDeviceLimitFallback node)) := by
  have hall : users.filter (fun user => !(trim user.uuid).isEmpty) = users := by
    rw [List.filter_eq_self]
    intro user huser
    obtain ⟨htrim, hne⟩ := hclean user huser
    simp [htrim, hne]
  rw [plannedUsers, inboundUsers, hall, List.map_map, List.map_map]
  refine List.map_congr_left fun user huser => ?_
  simp [renderKeliCoreRsUser, inboundUserPlan, keliCoreUserDeltaUser, (hclean user huser).1]

theorem find?_node_of_mem {nodes : List NodeInfo} (hnodup : (nodes.map (·.tag)).Nodup) {node : NodeInfo}
    (hmem : node ∈ nodes) : nodes.find? (·.tag = node.tag) = some node := by
  induction nodes with
  | nil => cases hmem
  | cons head nodes ih =>
    rw [List.map_cons, List.nodup_cons] at hnodup
    rcases List.mem_cons.1 hmem with rfl | hmem
    · simp
    · have hne : head.tag ≠ node.tag := fun heq => hnodup.1 (heq ▸ List.mem_map_of_mem hmem)
      rw [List.find?_cons_of_neg (by simpa using hne), ih hnodup.2 hmem]

theorem fallback_of_mem {plan : RuntimeBootstrapPlan} (hnodup : (plan.nodeInfos.map (·.tag)).Nodup) {node : NodeInfo}
    (hmem : node ∈ plan.nodeInfos) : keliCoreDeviceLimitFallbackForNode plan node.tag = nodeDeviceLimitFallback node := by
  rw [keliCoreDeviceLimitFallbackForNode, find?_node_of_mem hnodup hmem]
  rfl

/-- What a rebuild leaves: a plan of some of the nodes, with the users of the entries. -/
structure RebuiltFrom (plan rebuilt : RuntimeBootstrapPlan) (sync : RuntimeUserSync) (tags : List Text) : Prop where
  built : ∃ users, BuiltWith users rebuilt
  resolved : rebuilt.resolved = plan.resolved
  nodes : rebuilt.nodeInfos.Sublist plan.nodeInfos
  fresh : PlanFresh rebuilt sync
  planned : ∀ inbound ∈ inboundsOf rebuilt.corePlan,
    inbound.tag ∈ (inboundsOf plan.corePlan).map (·.tag) ∨ inbound.tag ∈ tags
  fallback : ∀ inbound ∈ inboundsOf rebuilt.corePlan,
    keliCoreDeviceLimitFallbackForNode rebuilt inbound.tag = keliCoreDeviceLimitFallbackForNode plan inbound.tag

theorem BuiltWith.nodup_tags {users : UsersByNodeTag} {plan : RuntimeBootstrapPlan} (h : BuiltWith users plan)
    (hnodup : (plan.nodeInfos.map (·.tag)).Nodup) : ((inboundsOf plan.corePlan).map (·.tag)).Nodup :=
  h.planned.tags.nodup hnodup

/-- **A rebuild is fresh**, where it finds the latest users. -/
theorem rebuild_fresh {validate : InboundPlan → Except Text Unit} {plan rebuilt : RuntimeBootstrapPlan}
    {sync : RuntimeUserSync} {tags : List Text} {fallback : UsersByNodeTag} (hbuilt : ∃ users, BuiltWith users plan)
    (hnodup : (plan.nodeInfos.map (·.tag)).Nodup) (hsync : SyncOk sync)
    (htags : ∀ tag ∈ tags, sync[tag]?.isSome = true) (hlatest : LatestOk plan sync tags)
    (h : rebuildRuntimePlanWithUsers validate plan (userSyncUsersForRuntimeRebuild plan sync tags fallback) =
      .ok rebuilt) : RebuiltFrom plan rebuilt sync tags := by
  obtain ⟨old, hold⟩ := hbuilt
  obtain ⟨hnew, hresolved, hsub⟩ := rebuild_builtWith h
  have hplannedTags := hold.nodup_tags hnodup
  have hnodup' : (rebuilt.nodeInfos.map (·.tag)).Nodup := (hsub.map _).nodup hnodup
  have hplanned : ∀ inbound ∈ inboundsOf rebuilt.corePlan,
      inbound.tag ∈ (inboundsOf plan.corePlan).map (·.tag) ∨ inbound.tag ∈ tags := by
    intro inbound hinbound
    obtain ⟨node, hnode, hplans, hof⟩ := hnew.planned.inboundOf inbound hinbound
    by_contra hnot
    rw [not_or] at hnot
    have hnone := @rebuildUsers_of_other plan sync tags inbound.tag hnot.2 hnot.1 fallback
    -- without users only a protocol that needs none is planned, and the old plan had it already
    have hold' : plansNode old node = true := by
      simp only [plansNode, nodeHasKeliCoreRsUsers, ← hof.tag, hnone, List.any_nil, Bool.or_false] at hplans
      simp [plansNode, hplans]
    obtain ⟨found, hfound, htag⟩ := hold.planned.complete node (hsub.subset hnode) hold'
    exact hnot.1 (hof.tag ▸ htag ▸ List.mem_map_of_mem hfound)
  refine ⟨⟨_, hnew⟩, hresolved, hsub, fun inbound hinbound => ?_, hplanned, fun inbound hinbound => ?_⟩
  · obtain ⟨node, hnode, -, hof⟩ := hnew.planned.inboundOf inbound hinbound
    obtain ⟨entry, hentry, husers⟩ : ∃ entry, sync[inbound.tag]? = some entry ∧
        (userSyncUsersForRuntimeRebuild plan sync tags fallback).getD inbound.tag [] = entry.state.users := by
      by_cases hmem : inbound.tag ∈ tags
      · obtain ⟨entry, hentry⟩ := Option.isSome_iff_exists.1 (htags _ hmem)
        exact ⟨entry, hentry, rebuildUsers_of_changed hmem hentry fallback⟩
      · obtain ⟨found, hfound, htag⟩ := List.mem_map.1 ((hplanned inbound hinbound).resolve_right hmem)
        rw [← htag] at hmem ⊢
        exact rebuildUsers_of_planned hplannedTags hfound hmem hlatest fallback
    refine ⟨entry, hentry, ?_⟩
    rw [hof.users, ← hof.tag, husers, hof.tag, fallback_of_mem hnodup' hnode]
    exact plannedUsers_render node (hsync _ entry hentry).clean
  · obtain ⟨node, hnode, -, hof⟩ := hnew.planned.inboundOf inbound hinbound
    rw [hof.tag, fallback_of_mem hnodup' hnode, fallback_of_mem hnodup (hsub.subset hnode)]

/-- A fresh plan is up to date for the next rebuild. -/
theorem PlanFresh.latestOk {plan : RuntimeBootstrapPlan} {sync : RuntimeUserSync} (h : PlanFresh plan sync)
    (tags : List Text) : LatestOk plan sync tags := by
  intro inbound hinbound _
  obtain ⟨entry, hentry, husers⟩ := h inbound hinbound
  rw [hentry, Option.any_some, Bool.or_eq_true, Bool.not_eq_true']
  cases hempty : entry.state.users.isEmpty with
  | false => exact .inl rfl
  | true =>
    rw [List.isEmpty_iff.1 hempty, List.map_nil, List.map_eq_nil_iff] at husers
    exact .inr (by rw [husers]; rfl)

end KeliNode
