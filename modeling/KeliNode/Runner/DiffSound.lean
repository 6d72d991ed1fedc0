import KeliNode.Runner.Tick

/-!
# What is sent and what is stored (`user.rs`, `runner.rs`)

The runtime sends the core the diff of `user_delta_body_diff` (`user.rs:218`) and stores the list of
`apply_user_delta_body_owned` (`user.rs:185`).  Over every state the two list operations can reach, the diff
leads from the stored list to the next one, whatever a delta deletes and upserts, also the same uuid twice
(`diffSound_of_run`).

| here | there |
|---|---|
| `SyncOp.apply` | `apply_full_user_list_owned`, `apply_user_delta_body_owned` |
| `UserListDiff.applyTo` | what the receiver of a diff does with it |
| `DiffSound.skip` | the early return of `load_users_for_node` (`runner.rs:1994`) |

Of the panel only this is assumed: a full list names each uuid once.
-/

namespace KeliNode

open Lib Std

/-- An answer of the panel: a full list, or a delta body. -/
inductive SyncOp where
  | fullList (users : List UserInfo)
  | delta (body : UserDeltaBody)

def SyncOp.apply (state : UserSyncState) : SyncOp → UserSyncState
  | .fullList users => (applyFullUserListOwned state users).state
  | .delta body => (applyUserDeltaBodyOwned state body).state

/-- A full list names each uuid once. -/
def SyncOp.NamesOnce : SyncOp → Prop
  | .fullList users => (users.map (·.uuid)).Nodup
  | .delta body => body.full = true → (body.users.map (·.uuid)).Nodup

/-- The state after a sequence of answers, from the empty one. -/
def syncRun (ops : List SyncOp) : UserSyncState := ops.foldl SyncOp.apply {}

/-- A uuid map after a diff: remove the deleted users, then insert the added and the updated ones. -/
def UserListDiff.applyTo (diff : UserListDiff) (byUuid : BTreeMap Text UserInfo) : BTreeMap Text UserInfo :=
  (diff.added ++ diff.updated).foldl (fun byUuid user => byUuid.insert user.uuid user)
    (diff.deleted.foldl (fun byUuid user => byUuid.erase user.uuid) byUuid)

/-- The change the runtime makes of an incremental delta. -/
def incrementalChange (state : UserSyncState) (delta : UserDeltaBody) : RuntimeUserDeltaChange :=
  { full := false
    baseRevision := state.revision
    revision := delta.revision
    diff := userDeltaBodyDiff state delta }

/-- The diff of a delta and the state after it agree. -/
structure DiffSound (state : UserSyncState) (delta : UserDeltaBody) : Prop where
  follows : (userDeltaBodyDiff state delta).applyTo (userRefsByUuid state.users) =
    userRefsByUuid (applyUserDeltaBodyOwned state delta).state.users
  apart : ∀ added ∈ (userDeltaBodyDiff state delta).added, ∀ updated ∈ (userDeltaBodyDiff state delta).updated,
    added.uuid ≠ updated.uuid
  quiet : userListDiffIsEmpty (userDeltaBodyDiff state delta) = true →
    userRefsByUuid (applyUserDeltaBodyOwned state delta).state.users = userRefsByUuid state.users
  core : ∀ (deviceLimitFallback : Nat) (inbound : CoreInbound), inbound.revision = state.revision →
    inbound.users = coreUsersOf (state.users.map (keliCoreUserDeltaUser deviceLimitFallback)) →
    inbound.applyDelta (keliCoreUserDeltaPayload (incrementalChange state delta) deviceLimitFallback) =
      .ok { revision := delta.revision
            users := coreUsersOf ((applyUserDeltaBodyOwned state delta).state.users.map
              (keliCoreUserDeltaUser deviceLimitFallback)) }
  skip : ∀ (entry : RuntimeUserSyncEntry) (native : Bool), entry.state = state →
    (applyPanelDelta entry delta native).state.revision = (applyUserDeltaBodyOwned state delta).state.revision ∧
      userRefsByUuid (applyPanelDelta entry delta native).state.users =
        userRefsByUuid (applyUserDeltaBodyOwned state delta).state.users

/-! ## The states a run reaches -/

theorem SyncOp.apply_nodup {state : UserSyncState} {op : SyncOp} (hop : op.NamesOnce)
    (hstate : (state.users.map (·.uuid)).Nodup) : ((op.apply state).users.map (·.uuid)).Nodup := by
  cases op with
  | fullList users =>
    simp only [SyncOp.apply, applyFullUserListOwned]
    split
    · exact hstate
    · exact hop
  | delta body =>
    simp only [SyncOp.apply, applyUserDeltaBodyOwned]
    split
    · rename_i hfull
      split
      · exact hstate
      · exact hop hfull
    · split
      · exact hstate
      · exact nodup_next ..

theorem foldl_apply_nodup {ops : List SyncOp} (hops : ∀ op ∈ ops, op.NamesOnce) {state : UserSyncState}
    (hstate : (state.users.map (·.uuid)).Nodup) : ((ops.foldl SyncOp.apply state).users.map (·.uuid)).Nodup := by
  induction ops generalizing state with
  | nil => exact hstate
  | cons op ops ih =>
    exact ih (fun op hop => hops op (List.mem_cons_of_mem _ hop)) (op.apply_nodup (hops op List.mem_cons_self) hstate)

/-! ## One delta -/

theorem applyTo_get (diff : UserListDiff) (byUuid : BTreeMap Text UserInfo) (uuid : Text) :
    (diff.applyTo byUuid)[uuid]? = (userAt diff.updated uuid).or ((userAt diff.added uuid).or
      (if (userAt diff.deleted uuid).isSome then none else byUuid[uuid]?)) := by
  rw [UserListDiff.applyTo, List.foldl_append, getElem?_foldl_insert, getElem?_foldl_insert, getElem?_foldl_erase,
    Option.map_id_fun', id_eq, id_eq]
  rfl

section

variable {state : UserSyncState} {delta : UserDeltaBody} (hincremental : delta.full = false)

include hincremental

theorem userDeltaBodyDiff_incremental :
    userDeltaBodyDiff state delta = compareIncrementalDelta state.users delta.deleted delta.upsert := by
  simp only [userDeltaBodyDiff, hincremental, Bool.false_eq_true, if_false]

/-- The state after a delta has the users of `applyUserDelta`, also where the code does not call it. -/
theorem userAt_applied (uuid : Text) :
    userAt (applyUserDeltaBodyOwned state delta).state.users uuid =
      userAt (applyUserDelta state.users delta.deleted delta.upsert).next uuid := by
  simp only [applyUserDeltaBodyOwned, hincremental, Bool.false_eq_true, if_false]
  split
  · rename_i hempty
    simp only [Bool.and_eq_true, List.isEmpty_iff] at hempty
    simp [userAt_next, hempty.1, hempty.2]
  · rfl

theorem applied_revision : (applyUserDeltaBodyOwned state delta).state.revision = delta.revision := by
  simp only [applyUserDeltaBodyOwned, hincremental, Bool.false_eq_true, if_false]
  split <;> rfl

theorem diff_follows (hstate : (state.users.map (·.uuid)).Nodup) :
    (userDeltaBodyDiff state delta).applyTo (userRefsByUuid state.users) =
      userRefsByUuid (applyUserDeltaBodyOwned state delta).state.users := by
  refine ExtTreeMap.ext_getElem? fun uuid => ?_
  rw [applyTo_get, userDeltaBodyDiff_incremental hincremental, userRefsByUuid_get, userRefsByUuid_get,
    userAt_applied hincremental, userAt_follows state.users delta.deleted delta.upsert hstate]

theorem diff_quiet (hstate : (state.users.map (·.uuid)).Nodup)
    (hempty : userListDiffIsEmpty (userDeltaBodyDiff state delta) = true) :
    userRefsByUuid (applyUserDeltaBodyOwned state delta).state.users = userRefsByUuid state.users := by
  rw [← diff_follows hincremental hstate]
  simp only [userListDiffIsEmpty, Bool.and_eq_true, List.isEmpty_iff] at hempty
  refine ExtTreeMap.ext_getElem? fun uuid => ?_
  rw [applyTo_get, hempty.1.1, hempty.1.2, hempty.2]
  simp

/-- A delta with nothing to delete or upsert, which is applied without looking at the list. -/
theorem applied_of_revisionOnly (honly : userDeltaBodyIsRevisionOnly delta = true) :
    (applyUserDeltaBodyOwned state delta).state.users = state.users := by
  simp only [userDeltaBodyIsRevisionOnly, Bool.and_eq_true] at honly
  simp [applyUserDeltaBodyOwned, hincremental, honly.1.2, honly.2]

theorem panelDelta_follows (hstate : (state.users.map (·.uuid)).Nodup) (entry : RuntimeUserSyncEntry) (native : Bool)
    (hentry : entry.state = state) :
    (applyPanelDelta entry delta native).state.revision = (applyUserDeltaBodyOwned state delta).state.revision ∧
      userRefsByUuid (applyPanelDelta entry delta native).state.users =
        userRefsByUuid (applyUserDeltaBodyOwned state delta).state.users := by
  subst hentry
  rw [applied_revision hincremental]
  unfold applyPanelDelta
  split
  · rename_i honly
    simp only [Bool.and_eq_true] at honly
    exact ⟨rfl, by rw [applied_of_revisionOnly hincremental honly.1]; rfl⟩
  · dsimp only
    split
    · rename_i hnone
      refine ⟨rfl, (diff_quiet hincremental hstate ?_).symm⟩
      simp only [runtimeUserDeltaChange, Option.isNone_iff_eq_none, ite_eq_left_iff] at hnone
      by_contra hdiff
      simp [hdiff] at hnone
    · exact ⟨applied_revision hincremental, rfl⟩

theorem diffSound_of_nodup (hstate : (state.users.map (·.uuid)).Nodup) : DiffSound state delta where
  follows := diff_follows hincremental hstate
  apart := by
    intro added hadded updated hupdated
    rw [userDeltaBodyDiff_incremental hincremental] at hadded hupdated
    exact diff_added_updated_apart _ _ _ hstate hadded hupdated
  quiet := diff_quiet hincremental hstate
  core := by
    intro deviceLimitFallback inbound hrevision husers
    have huuid : ∀ user, (keliCoreUserDeltaUser deviceLimitFallback user).uuid = user.uuid := fun _ => rfl
    simp only [keliCoreUserDeltaPayload, incrementalChange, CoreInbound.applyDelta, hrevision, if_true, husers,
      userDeltaBodyDiff_incremental hincremental, core_follows_delta huuid hstate]
    rw [coreUsersOf_congr huuid fun uuid => (userAt_applied hincremental uuid).symm]
  skip := panelDelta_follows hincremental hstate

end

/-- **What is sent is what is stored**: after any answers of a panel that names each uuid once in a full list, every
incremental delta is sound: its diff leads to the stored users in the agent's map and in the core, and an empty
diff may be skipped. -/
theorem diffSound_of_run (ops : List SyncOp) (hops : ∀ op ∈ ops, op.NamesOnce) (delta : UserDeltaBody)
    (hincremental : delta.full = false) : DiffSound (syncRun ops) delta := by
  have hstate : ((syncRun ops).users.map (·.uuid)).Nodup := foldl_apply_nodup hops List.nodup_nil
  exact diffSound_of_nodup hincremental hstate

/-- A full list of two users, then a delta that deletes and upserts the first one, the latter twice. -/
theorem diffSound_of_run_overlap :
    (∀ op ∈ [SyncOp.fullList [{ id := 1, uuid := "a" }, { id := 2, uuid := "b" }]], op.NamesOnce) ∧
      DiffSound (syncRun [.fullList [{ id := 1, uuid := "a" }, { id := 2, uuid := "b" }]])
        { revision := 4
          deleted := [{ id := 1, uuid := "a" }]
          upsert := [{ id := 1, uuid := "a", speedLimit := 5 }, { id := 3, uuid := "a" }] } := by
  have hops : ∀ op ∈ [SyncOp.fullList [{ id := 1, uuid := "a" }, { id := 2, uuid := "b" }]], op.NamesOnce := by
    simp only [List.mem_singleton, forall_eq, SyncOp.NamesOnce]
    decide
  exact ⟨hops, diffSound_of_run _ hops _ rfl⟩

end KeliNode
