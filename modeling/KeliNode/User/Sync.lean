import KeliNode.Core.Running
import KeliNode.Lib.KeyedFold

/-!
# User lists and deltas (`user.rs`)

The agent keeps the users of a node as a list and takes the panel's changes as full lists or as deltas: the
deleted and the upserted users since a revision.

| here | there |
|---|---|
| `applyUserDelta`, `compareUserList` | `user.rs:105`, `:137` |
| `applyUserDeltaBodyOwned`, `userDeltaBodyDiff` | `user.rs:185`, `:218` |
| `applyFullUserListOwned` | `user.rs:245` |
| `compareIncrementalDelta` | `user.rs:266` |

The state and the diff the core is sent are computed by different functions: `applyUserDelta` gives the new
list, `compareIncrementalDelta` the diff.  `core_follows_delta` says that a core which held the old list and
takes the diff holds the new one.
-/

namespace KeliNode

open Lib Std

structure UserListDiff where
  deleted : List UserInfo := []
  added : List UserInfo := []
  updated : List UserInfo := []
  deriving DecidableEq

structure UserDeltaApplyResult where
  next : List UserInfo := []
  deletedApplied : List UserInfo := []
  added : List UserInfo := []
  updated : List UserInfo := []

/-- `UserSyncState` (`user.rs:84`), without the time of the last save. -/
structure UserSyncState where
  revision : Int := 0
  users : List UserInfo := []
  deriving DecidableEq

structure UserSyncStepResult where
  state : UserSyncState
  diff : UserListDiff

/-- `user_changed` (`user.rs:311`). -/
def userChanged (old new : UserInfo) : Bool :=
  old.id ≠ new.id || old.speedLimit ≠ new.speedLimit || old.deviceLimit ≠ new.deviceLimit

/-- `user_refs_by_uuid` and `user_delta_entries_by_uuid` (`user.rs:297`, `:304`). -/
def userRefsByUuid (users : List UserInfo) : BTreeMap Text UserInfo :=
  users.foldl (fun byUuid user => byUuid.insert user.uuid user) ∅

/-- One deleted user. -/
def deleteUser (state : BTreeMap Text UserInfo × List UserInfo) (user : UserInfo) :
    BTreeMap Text UserInfo × List UserInfo :=
  match state.1[user.uuid]? with
  | some old => (state.1.erase user.uuid, state.2 ++ [old])
  | none => state

/-- One upserted user. -/
def upsertUser (state : BTreeMap Text UserInfo × List UserInfo × List UserInfo) (user : UserInfo) :
    BTreeMap Text UserInfo × List UserInfo × List UserInfo :=
  let (byUuid, added, updated) := state
  match byUuid[user.uuid]? with
  | some old => (byUuid.insert user.uuid user, added, if userChanged old user then updated ++ [user] else updated)
  | none => (byUuid.insert user.uuid user, added ++ [user], updated)

/-- `apply_user_delta` (`user.rs:105`). -/
def applyUserDelta (old deleted upsert : List UserInfo) : UserDeltaApplyResult :=
  let (byUuid, deletedApplied) := deleted.foldl deleteUser (userRefsByUuid old, [])
  let (byUuid, added, updated) := upsert.foldl upsertUser (byUuid, [], [])
  { next := byUuid.toList.map Prod.snd, deletedApplied, added, updated }

/-- One user of the new list. -/
def compareUser (state : BTreeMap Text UserInfo × UserListDiff) (user : UserInfo) :
    BTreeMap Text UserInfo × UserListDiff :=
  let (oldMap, diff) := state
  match oldMap[user.uuid]? with
  | none => (oldMap, { diff with added := diff.added ++ [user] })
  | some old =>
    (oldMap.erase user.uuid, if userChanged old user then { diff with updated := diff.updated ++ [user] } else diff)

/-- `compare_user_list` (`user.rs:137`). -/
def compareUserList (old new : List UserInfo) : UserListDiff :=
  let (oldMap, diff) := new.foldl compareUser (userRefsByUuid old, {})
  { diff with deleted := oldMap.toList.map Prod.snd }

/-- One user of the old list. -/
def compareOldUser (deleted : List UserInfo) (state : BTreeMap Text UserInfo × UserListDiff) (old : UserInfo) :
    BTreeMap Text UserInfo × UserListDiff :=
  let (upsertMap, diff) := state
  if (deleted.map (·.uuid)).contains old.uuid then (upsertMap, { diff with deleted := diff.deleted ++ [old] })
  else match upsertMap[old.uuid]? with
    | none => (upsertMap, diff)
    | some new =>
      (upsertMap.erase old.uuid, if userChanged old new then { diff with updated := diff.updated ++ [new] } else diff)

/-- `compare_incremental_delta` (`user.rs:266`). -/
def compareIncrementalDelta (old deleted upsert : List UserInfo) : UserListDiff :=
  let (upsertMap, diff) := old.foldl (compareOldUser deleted) (userRefsByUuid upsert, {})
  { diff with added := upsertMap.toList.map Prod.snd }

/-- `apply_user_delta_body_owned` (`user.rs:185`): an empty full list changes the revision only. -/
def applyUserDeltaBodyOwned (state : UserSyncState) (delta : UserDeltaBody) : UserSyncStepResult :=
  let next := { state with revision := delta.revision }
  if delta.full then
    if delta.users.isEmpty then { state := next, diff := {} }
    else { state := { next with users := delta.users }, diff := compareUserList state.users delta.users }
  else if delta.deleted.isEmpty && delta.upsert.isEmpty then { state := next, diff := {} }
  else
    let applied := applyUserDelta state.users delta.deleted delta.upsert
    { state := { next with users := applied.next }
      diff := { deleted := applied.deletedApplied, added := applied.added, updated := applied.updated } }

/-- `user_delta_body_diff` (`user.rs:218`). -/
def userDeltaBodyDiff (state : UserSyncState) (delta : UserDeltaBody) : UserListDiff :=
  if delta.full then if delta.users.isEmpty then {} else compareUserList state.users delta.users
  else compareIncrementalDelta state.users delta.deleted delta.upsert

/-- `apply_full_user_list_owned` (`user.rs:245`). -/
def applyFullUserListOwned (state : UserSyncState) (users : List UserInfo) : UserSyncStepResult :=
  if users.isEmpty then { state, diff := {} }
  else { state := { state with users }, diff := compareUserList state.users users }

/-- `user_list_diff_is_empty` (`runner.rs:2103`). -/
def userListDiffIsEmpty (diff : UserListDiff) : Bool :=
  diff.deleted.isEmpty && diff.added.isEmpty && diff.updated.isEmpty

end KeliNode
