import KeliNode.Runtime.Plan
import KeliNode.User.Diff

/-!
# Loading the users of the nodes (`runner.rs`)

A refresh asks the panel for each node of the plan in turn: for a delta since the revision it knows, or, where
the panel has no deltas, for the full list.  It leaves the node's users in its sync entry, together with the
change that led to them, and returns the tags a tick has to act on.

| here | there |
|---|---|
| `loadUsersForNode` | `runner.rs:1994` |
| `loadUsersByNodeTagFromPanelWithStateAndMode` | `runner.rs:1912` |
| `runtimePlanNeedsCachedUsers` | `runner.rs:1973` |
| `latestUsersByNodeTagForCorePlan` | `runner.rs:1404` |
| `userSyncUsersForRuntimeRebuild` | `runner.rs:2126` |

The panel's answers are data.  Saving an entry to disk changes nothing the loop reads again, and sharing equal
lists between entries does not show in their values; both are left out.
-/

namespace KeliNode

open Lib

structure RuntimeUserDeltaChange where
  full : Bool
  baseRevision : Int
  revision : Int
  diff : UserListDiff
  deriving DecidableEq

/-- `RuntimeUserSyncEntry` (`runner.rs:207`), without the path of its file. -/
structure RuntimeUserSyncEntry where
  state : UserSyncState
  deltaSupported : Bool := true
  lastChange : Option RuntimeUserDeltaChange := none
  deriving DecidableEq

abbrev RuntimeUserSync := BTreeMap Text RuntimeUserSyncEntry

/-- What the panel and the disk answer for one node. -/
structure PanelUsersAnswer where
  client : Option Text := none
  stored : UserSyncState := {}
  delta : Except Text UserDeltaBody
  list : Except Text (Option (List UserInfo)) := .ok none

inductive UserRefreshPayloadMode where
  | fullSnapshots
  | tagMarkers
  deriving DecidableEq

/-! ## One node -/

/-- `user_delta_not_supported` (`runner.rs:2247`). -/
def userDeltaNotSupported (error : Text) : Bool :=
  let error := asciiLower error
  containsText "404" error || containsText "405" error || containsText "not found" error ||
    containsText "method not allowed" error

/-- `runtime_user_delta_change` (`runner.rs:2086`). -/
def runtimeUserDeltaChange (full : Bool) (baseRevision revision : Int) (diff : UserListDiff) :
    Option RuntimeUserDeltaChange :=
  if userListDiffIsEmpty diff && baseRevision = revision then none
  else some { full, baseRevision, revision, diff }

/-- `user_delta_body_is_revision_only` (`runner.rs:2107`). -/
def userDeltaBodyIsRevisionOnly (delta : UserDeltaBody) : Bool :=
  !delta.full && delta.deleted.isEmpty && delta.upsert.isEmpty

/-- `apply_revision_only_user_delta` (`runner.rs:2069`). -/
def applyRevisionOnlyUserDelta (entry : RuntimeUserSyncEntry) (revision : Int) (nativeCoreDeltaEnabled : Bool) :
    RuntimeUserSyncEntry :=
  { entry with
    state := { entry.state with revision }
    lastChange :=
      if nativeCoreDeltaEnabled then runtimeUserDeltaChange false entry.state.revision revision {} else none }

/-- The delta branch of `load_users_for_node`. -/
def applyPanelDelta (entry : RuntimeUserSyncEntry) (delta : UserDeltaBody) (nativeCoreDeltaEnabled : Bool) :
    RuntimeUserSyncEntry :=
  if userDeltaBodyIsRevisionOnly delta && !entry.state.users.isEmpty then
    applyRevisionOnlyUserDelta entry delta.revision nativeCoreDeltaEnabled
  else
    let change := runtimeUserDeltaChange delta.full entry.state.revision delta.revision (userDeltaBodyDiff entry.state delta)
    if change.isNone then
      { entry with state := { entry.state with revision := delta.revision }, lastChange := none }
    else { entry with state := (applyUserDeltaBodyOwned entry.state delta).state, lastChange := change }

/-- The full-list branch of `load_users_for_node`. -/
def applyPanelList (entry : RuntimeUserSyncEntry) (users : Option (List UserInfo)) : RuntimeUserSyncEntry :=
  let result := applyFullUserListOwned entry.state (users.getD [])
  { entry with
    state := result.state
    lastChange := runtimeUserDeltaChange true entry.state.revision entry.state.revision result.diff }

def loadUsersError (what : Text) (config : NodeConfig) (error : Text) : Text :=
  "get user " ++ what ++ " [" ++ trimEndMatches (· = '/') config.url ++ "-" ++ decimal config.nodeId ++ "] error: " ++
    error

/-- `load_users_for_node` (`runner.rs:1994`). -/
def loadUsersForNode (config : NodeConfig) (entry : RuntimeUserSyncEntry) (answer : PanelUsersAnswer)
    (nativeCoreDeltaEnabled : Bool) : Except Text Unit × RuntimeUserSyncEntry :=
  let loadList (entry : RuntimeUserSyncEntry) : Except Text Unit × RuntimeUserSyncEntry :=
    match answer.list with
    | .error error => (.error (loadUsersError "list" config error), entry)
    | .ok users => (.ok (), applyPanelList entry users)
  if entry.deltaSupported then
    match answer.delta with
    | .ok delta => (.ok (), applyPanelDelta entry delta nativeCoreDeltaEnabled)
    | .error error =>
      if userDeltaNotSupported error then loadList { entry with deltaSupported := false }
      else (.error (loadUsersError "delta" config error), entry)
  else loadList entry

/-! ## The nodes of a plan -/

/-- `runtime_plan_needs_cached_users` (`runner.rs:1973`). -/
def runtimePlanNeedsCachedUsers (plan : RuntimeBootstrapPlan) (nodeTag : Text) (entry : RuntimeUserSyncEntry) : Bool :=
  if entry.state.users.isEmpty then false
  else match plan.corePlan.bind fun corePlan => corePlan.inbounds.find? (·.tag = nodeTag) with
    | some inbound => inbound.users.isEmpty
    | none => plan.nodeInfos.any (·.tag = nodeTag)

/-- What the refresh hands to the tick for a node that was loaded. -/
def usersForTick (plan : RuntimeBootstrapPlan) (mode : UserRefreshPayloadMode) (tag : Text)
    (entry : RuntimeUserSyncEntry) (usersByTag : UsersByNodeTag) : UsersByNodeTag :=
  if entry.lastChange.isSome then
    usersByTag.insert tag (match mode with
      | .fullSnapshots => entry.state.users
      | .tagMarkers => [])
  else if runtimePlanNeedsCachedUsers plan tag entry then usersByTag.insert tag entry.state.users
  else usersByTag

/-- `load_users_by_node_tag_from_panel_with_state_and_mode` (`runner.rs:1912`), over the nodes still to load. -/
def loadUsersByNodeTag (plan : RuntimeBootstrapPlan) (mode : UserRefreshPayloadMode)
    (answers : Text → PanelUsersAnswer) : List NodeInfo → RuntimeUserSync → UsersByNodeTag →
    Except Text UsersByNodeTag × RuntimeUserSync
  | [], syncState, usersByTag => (.ok usersByTag, syncState)
  | node :: nodes, syncState, usersByTag =>
    match nodeConfigForInfo plan.resolved node.id node.tag with
    | none => loadUsersByNodeTag plan mode answers nodes syncState usersByTag
    | some config =>
      match (answers node.tag).client with
      | some error => (.error error, syncState)
      | none =>
        let entry := syncState.getD node.tag { state := (answers node.tag).stored }
        match loadUsersForNode config entry (answers node.tag) plan.corePlan.isSome with
        | (.error error, entry) =>
          if plan.resolved.continueOnError then
            loadUsersByNodeTag plan mode answers nodes (syncState.insert node.tag entry) usersByTag
          else (.error error, syncState.insert node.tag entry)
        | (.ok (), entry) =>
          loadUsersByNodeTag plan mode answers nodes (syncState.insert node.tag entry)
            (usersForTick plan mode node.tag entry usersByTag)

def loadUsersByNodeTagFromPanelWithStateAndMode (plan : RuntimeBootstrapPlan) (mode : UserRefreshPayloadMode)
    (answers : Text → PanelUsersAnswer) (syncState : RuntimeUserSync) : Except Text UsersByNodeTag × RuntimeUserSync :=
  loadUsersByNodeTag plan mode answers plan.nodeInfos syncState ∅

/-! ## The users of a rebuild -/

/-- The users of an inbound as panel users. -/
def inboundUserInfos (inbound : InboundPlan) : List UserInfo :=
  inbound.users.map fun user =>
    { id := user.id, uuid := user.uuid, speedLimit := user.speedLimit, deviceLimit := user.deviceLimit }

/-- The users an inbound is rebuilt with: those of its sync entry, or its own where the entry has none. -/
def latestUsersForInbound (syncState : RuntimeUserSync) (inbound : InboundPlan) : List UserInfo :=
  match syncState[inbound.tag]? with
  | some entry => if entry.state.users.isEmpty then inboundUserInfos inbound else entry.state.users
  | none => inboundUserInfos inbound

/-- `latest_users_by_node_tag_for_core_plan` (`runner.rs:1404`). -/
def latestUsersByNodeTagForCorePlan (plan : RuntimeBootstrapPlan) (syncState : RuntimeUserSync) : UsersByNodeTag :=
  match plan.corePlan with
  | none => ∅
  | some corePlan => corePlan.inbounds.foldl (fun users inbound =>
      let latest := latestUsersForInbound syncState inbound
      if latest.isEmpty then users else users.insert inbound.tag latest) ∅

/-- `user_sync_users_for_tags` (`runner.rs:2111`), extending a map as `user_sync_users_for_runtime_rebuild` does. -/
def userSyncUsersForTags (syncState : RuntimeUserSync) (tags : List Text) (fallback users : UsersByNodeTag) :
    UsersByNodeTag :=
  tags.foldl (fun users tag =>
    match syncState[tag]? with
    | some entry => users.insert tag entry.state.users
    | none => match fallback[tag]? with
      | some own => users.insert tag own
      | none => users) users

/-- `user_sync_users_for_runtime_rebuild` (`runner.rs:2126`). -/
def userSyncUsersForRuntimeRebuild (plan : RuntimeBootstrapPlan) (syncState : RuntimeUserSync) (tags : List Text)
    (fallback : UsersByNodeTag) : UsersByNodeTag :=
  userSyncUsersForTags syncState tags fallback (latestUsersByNodeTagForCorePlan plan syncState)

end KeliNode
