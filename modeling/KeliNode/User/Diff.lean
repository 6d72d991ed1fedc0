import KeliNode.User.Sync

/-!
# A core that follows the deltas

What each list operation leaves under a uuid, and from it: a core that held the users of the old list and takes
the diff of a delta holds the users of the new list (`core_follows_delta`); a full list that shows no
difference has the users of the old one (`sameUsers_of_empty_diff`).
-/

namespace KeliNode

open Lib Std

/-! ## Lists by uuid -/

/-- The user a list holds under a uuid. -/
def userAt (users : List UserInfo) (uuid : Text) : Option UserInfo := lastWith (·.uuid) users uuid

@[simp] theorem userAt_nil (uuid : Text) : userAt [] uuid = none := rfl

theorem userAt_cons (user : UserInfo) (users : List UserInfo) (uuid : Text) :
    userAt (user :: users) uuid = (userAt users uuid).or (if user.uuid = uuid then some user else none) :=
  lastWith_cons ..

theorem userAt_eq_none {users : List UserInfo} {uuid : Text} :
    userAt users uuid = none ↔ ∀ user ∈ users, user.uuid ≠ uuid :=
  lastWith_eq_none

theorem uuid_of_userAt {users : List UserInfo} {uuid : Text} {user : UserInfo} (h : userAt users uuid = some user) :
    user.uuid = uuid :=
  (lastWith_eq_some h).2

theorem mem_of_userAt {users : List UserInfo} {uuid : Text} {user : UserInfo} (h : userAt users uuid = some user) :
    user ∈ users :=
  (lastWith_eq_some h).1

/-- A user list as the panel should send it: no uuid twice, no blank uuid, none with white space around it. -/
structure UsersOk (users : List UserInfo) : Prop where
  nodup : (users.map (·.uuid)).Nodup
  clean : ∀ user ∈ users, trim user.uuid = user.uuid ∧ user.uuid ≠ []

theorem userRefsByUuid_get (users : List UserInfo) (uuid : Text) :
    (userRefsByUuid users)[uuid]? = userAt users uuid := by
  simp only [userRefsByUuid, getElem?_foldl_insert, ExtTreeMap.getElem?_empty, Option.or_none, Option.map_id_fun',
    id_eq, userAt]

theorem user_eq_of_unchanged {old new : UserInfo} (huuid : old.uuid = new.uuid) (h : userChanged old new = false) :
    old = new := by
  cases old
  cases new
  simp only [userChanged, Bool.or_eq_false_iff, decide_eq_false_iff_not, not_not] at h
  simp_all

/-! ## The new list -/

theorem foldl_deleteUser_get (deleted : List UserInfo) (state : BTreeMap Text UserInfo × List UserInfo) (uuid : Text) :
    (deleted.foldl deleteUser state).1[uuid]? =
      if (userAt deleted uuid).isSome then none else state.1[uuid]? := by
  induction deleted generalizing state with
  | nil => simp
  | cons user deleted ih =>
    rw [List.foldl_cons, ih, userAt_cons]
    have hstep : (deleteUser state user).1[uuid]? = if user.uuid = uuid then none else state.1[uuid]? := by
      unfold deleteUser
      cases hget : state.1[user.uuid]? with
      | none => by_cases h : user.uuid = uuid <;> simp [h, ← hget]
      | some old => simp [ExtTreeMap.getElem?_erase]
    rw [hstep]
    cases userAt deleted uuid with
    | some found => simp
    | none => by_cases h : user.uuid = uuid <;> simp [h]

theorem foldl_upsertUser_get (upsert : List UserInfo)
    (state : BTreeMap Text UserInfo × List UserInfo × List UserInfo) (uuid : Text) :
    (upsert.foldl upsertUser state).1[uuid]? = (userAt upsert uuid).or state.1[uuid]? := by
  induction upsert generalizing state with
  | nil => simp
  | cons user upsert ih =>
    rw [List.foldl_cons, ih, userAt_cons]
    have hstep : (upsertUser state user).1 = state.1.insert user.uuid user := by
      unfold upsertUser
      cases hget : state.1[user.uuid]? <;> simp [hget]
    rw [hstep, ExtTreeMap.getElem?_insert]
    cases userAt upsert uuid with
    | some found => simp
    | none => by_cases h : user.uuid = uuid <;> simp [h]

/-- The map `applyUserDelta` reads its list from. -/
theorem applyUserDelta_next_eq (old deleted upsert : List UserInfo) :
    ∃ byUuid : BTreeMap Text UserInfo, (applyUserDelta old deleted upsert).next = byUuid.toList.map Prod.snd ∧
      ∀ uuid, byUuid[uuid]? = (userAt upsert uuid).or
        (if (userAt deleted uuid).isSome then none else userAt old uuid) := by
  refine ⟨_, rfl, fun uuid => ?_⟩
  rw [foldl_upsertUser_get, foldl_deleteUser_get, userRefsByUuid_get]

/-- **The new list**: the upserted user, else the old one unless it is deleted. -/
theorem userAt_next (old deleted upsert : List UserInfo) (uuid : Text) :
    userAt (applyUserDelta old deleted upsert).next uuid =
      (userAt upsert uuid).or (if (userAt deleted uuid).isSome then none else userAt old uuid) := by
  obtain ⟨byUuid, hnext, hget⟩ := applyUserDelta_next_eq old deleted upsert
  rw [hnext, ← hget]
  refine lastWith_values (fun key user hkey => ?_) uuid
  rw [hget] at hkey
  cases hupsert : userAt upsert key with
  | some found =>
    rw [hupsert] at hkey
    cases hkey
    exact uuid_of_userAt hupsert
  | none =>
    rw [hupsert, Option.none_or] at hkey
    split at hkey
    · cases hkey
    · exact uuid_of_userAt hkey

section

variable (old deleted upsert : List UserInfo)

/-- A user of the new list is an upserted or an old one, under its own uuid. -/
theorem applyUserDelta_next_from :
    ∃ byUuid : BTreeMap Text UserInfo, (applyUserDelta old deleted upsert).next = byUuid.toList.map Prod.snd ∧
      ∀ key user, byUuid[key]? = some user → user.uuid = key ∧ (user ∈ upsert ∨ user ∈ old) := by
  obtain ⟨byUuid, hnext, hget⟩ := applyUserDelta_next_eq old deleted upsert
  refine ⟨byUuid, hnext, fun key user hkey => ?_⟩
  rw [hget] at hkey
  cases hup : userAt upsert key with
  | some found =>
    rw [hup] at hkey
    cases hkey
    exact ⟨uuid_of_userAt hup, .inl (mem_of_userAt hup)⟩
  | none =>
    rw [hup, Option.none_or] at hkey
    split at hkey
    · cases hkey
    · exact ⟨uuid_of_userAt hkey, .inr (mem_of_userAt hkey)⟩

theorem nodup_next : ((applyUserDelta old deleted upsert).next.map (·.uuid)).Nodup := by
  obtain ⟨byUuid, hnext, hfrom⟩ := applyUserDelta_next_from old deleted upsert
  rw [hnext]
  exact nodup_values fun key user hkey => (hfrom key user hkey).1

end

theorem usersOk_next {old deleted upsert : List UserInfo} (hold : UsersOk old)
    (hupsert : ∀ user ∈ upsert, trim user.uuid = user.uuid ∧ user.uuid ≠ []) :
    UsersOk (applyUserDelta old deleted upsert).next := by
  refine ⟨nodup_next old deleted upsert, fun user huser => ?_⟩
  obtain ⟨byUuid, hnext, hfrom⟩ := applyUserDelta_next_from old deleted upsert
  rw [hnext] at huser
  obtain ⟨⟨key, _⟩, hmem, rfl⟩ := List.mem_map.1 huser
  rcases (hfrom key _ (ExtTreeMap.mem_toList_iff_getElem?_eq_some.1 hmem)).2 with hmem | hmem
  · exact hupsert _ hmem
  · exact hold.clean _ hmem

/-! ## The diff -/

/-- What the old user contributes to the updates. -/
def updateOf (deleted : List UserInfo) (upsertMap : BTreeMap Text UserInfo) (old : UserInfo) : Option UserInfo :=
  if (userAt deleted old.uuid).isSome then none else upsertMap[old.uuid]?.filter (userChanged old)

theorem contains_uuid_iff (deleted : List UserInfo) (uuid : Text) :
    (deleted.map (·.uuid)).contains uuid = (userAt deleted uuid).isSome := by
  cases h : userAt deleted uuid with
  | none =>
    have hnone := userAt_eq_none.1 h
    simpa [List.contains_iff_mem] using fun user huser heq => hnone user huser heq
  | some user =>
    obtain ⟨hmem, heq⟩ := lastWith_eq_some h
    simpa [List.contains_iff_mem] using ⟨user, hmem, heq⟩

/-- The fold over the old list, from any map and diff. -/
theorem foldl_compareOldUser (deleted old : List UserInfo) (upsertMap : BTreeMap Text UserInfo) (diff : UserListDiff)
    (hnodup : (old.map (·.uuid)).Nodup) :
    (∀ uuid, (old.foldl (compareOldUser deleted) (upsertMap, diff)).1[uuid]? =
        if (userAt old uuid).isSome ∧ (userAt deleted uuid).isSome = false then none else upsertMap[uuid]?) ∧
      (old.foldl (compareOldUser deleted) (upsertMap, diff)).2.deleted =
        diff.deleted ++ old.filter (fun user => (userAt deleted user.uuid).isSome) ∧
      (old.foldl (compareOldUser deleted) (upsertMap, diff)).2.updated =
        diff.updated ++ old.filterMap (updateOf deleted upsertMap) := by
  induction old generalizing upsertMap diff with
  | nil => simp
  | cons user old ih =>
    rw [List.map_cons, List.nodup_cons] at hnodup
    have hfresh : ∀ other ∈ old, user.uuid ≠ other.uuid := fun other hother heq =>
      hnodup.1 (heq ▸ List.mem_map_of_mem hother)
    rw [List.foldl_cons]
    by_cases hdeleted : (userAt deleted user.uuid).isSome = true
    · have hstep : compareOldUser deleted (upsertMap, diff) user =
          (upsertMap, { diff with deleted := diff.deleted ++ [user] }) := by
        simp only [compareOldUser, contains_uuid_iff, hdeleted, if_true]
      obtain ⟨hget, hdel, hupd⟩ := ih upsertMap { diff with deleted := diff.deleted ++ [user] } hnodup.2
      rw [hstep]
      refine ⟨fun uuid => ?_, ?_, ?_⟩
      · rw [hget, userAt_cons]
        by_cases huuid : user.uuid = uuid
        · subst huuid
          simp [hdeleted]
        · simp [huuid]
      · rw [hdel]
        simp [hdeleted]
      · rw [hupd]
        simp [updateOf, hdeleted]
    · simp only [Bool.not_eq_true] at hdeleted
      have hlater : old.filterMap (updateOf deleted (upsertMap.erase user.uuid)) =
          old.filterMap (updateOf deleted upsertMap) := by
        refine List.filterMap_congr fun other hother => ?_
        simp [updateOf, ExtTreeMap.getElem?_erase, hfresh other hother]
      cases hup : upsertMap[user.uuid]? with
      | none =>
        have hstep : compareOldUser deleted (upsertMap, diff) user = (upsertMap, diff) := by
          simp only [compareOldUser, contains_uuid_iff, hdeleted, hup]
          rfl
        obtain ⟨hget, hdel, hupd⟩ := ih upsertMap diff hnodup.2
        rw [hstep]
        refine ⟨fun uuid => ?_, ?_, ?_⟩
        · rw [hget, userAt_cons]
          by_cases huuid : user.uuid = uuid
          · subst huuid
            simp [hup]
          · simp [huuid]
        · rw [hdel]
          simp [hdeleted]
        · rw [hupd]
          simp [updateOf, hdeleted, hup]
      | some new =>
        have hstep : compareOldUser deleted (upsertMap, diff) user = (upsertMap.erase user.uuid,
            if userChanged user new then { diff with updated := diff.updated ++ [new] } else diff) := by
          simp only [compareOldUser, contains_uuid_iff, hdeleted, hup]
          rfl
        obtain ⟨hget, hdel, hupd⟩ := ih (upsertMap.erase user.uuid)
          (if userChanged user new then { diff with updated := diff.updated ++ [new] } else diff) hnodup.2
        rw [hstep]
        refine ⟨fun uuid => ?_, ?_, ?_⟩
        · rw [hget, userAt_cons, ExtTreeMap.getElem?_erase]
          by_cases huuid : user.uuid = uuid
          · subst huuid
            simp [hdeleted]
          · simp [huuid]
        · rw [hdel]
          by_cases hchanged : userChanged user new = true <;> simp [hchanged, hdeleted]
        · rw [hupd, hlater]
          by_cases hchanged : userChanged user new = true <;> simp [updateOf, hchanged, hdeleted, hup, Option.filter]

section

variable (old deleted upsert : List UserInfo) (hold : (old.map (·.uuid)).Nodup)

include hold

theorem userAt_diff_updated (uuid : Text) :
    userAt (compareIncrementalDelta old deleted upsert).updated uuid =
      (userAt old uuid).bind (updateOf deleted (userRefsByUuid upsert)) := by
  have hfold := (foldl_compareOldUser deleted old (userRefsByUuid upsert) {} hold).2.2
  simp only [compareIncrementalDelta, hfold, List.nil_append]
  refine lastWith_filterMap (fun user new hnew => ?_) hold uuid
  unfold updateOf at hnew
  split at hnew
  · cases hnew
  · rw [userRefsByUuid_get] at hnew
    exact uuid_of_userAt (Option.filter_eq_some_iff.1 hnew).1

theorem userAt_diff_deleted (uuid : Text) :
    userAt (compareIncrementalDelta old deleted upsert).deleted uuid =
      (userAt old uuid).filter fun user => (userAt deleted user.uuid).isSome := by
  have hfold := (foldl_compareOldUser deleted old (userRefsByUuid upsert) {} hold).2.1
  simp only [compareIncrementalDelta, hfold, List.nil_append]
  have hselect : old.filter (fun user => (userAt deleted user.uuid).isSome) =
      old.filterMap (Option.guard fun user => (userAt deleted user.uuid).isSome) := by
    rw [List.filterMap_eq_filter]
  have hbind : userAt (old.filterMap (Option.guard fun user => (userAt deleted user.uuid).isSome)) uuid =
      (userAt old uuid).bind (Option.guard fun user => (userAt deleted user.uuid).isSome) :=
    lastWith_filterMap (fun user new hnew => by rw [(Option.guard_eq_some_iff.1 hnew).1]) hold uuid
  rw [hselect, hbind]
  cases userAt old uuid <;> simp [Option.guard, Option.filter]

theorem userAt_diff_added (uuid : Text) :
    userAt (compareIncrementalDelta old deleted upsert).added uuid =
      if (userAt old uuid).isSome ∧ (userAt deleted uuid).isSome = false then none else userAt upsert uuid := by
  have hfold := (foldl_compareOldUser deleted old (userRefsByUuid upsert) {} hold).1
  simp only [compareIncrementalDelta]
  rw [userAt, lastWith_values (fun key user hkey => ?_), hfold, userRefsByUuid_get]
  rw [hfold] at hkey
  split at hkey
  · cases hkey
  · rw [userRefsByUuid_get] at hkey
    exact uuid_of_userAt hkey

/-- **The diff leads to the new list**: under every uuid, the update, else the added user, else the old one unless
the diff deletes it. -/
theorem userAt_follows (uuid : Text) :
    (userAt (compareIncrementalDelta old deleted upsert).updated uuid).or
        ((userAt (compareIncrementalDelta old deleted upsert).added uuid).or
          (if (userAt (compareIncrementalDelta old deleted upsert).deleted uuid).isSome then none
            else userAt old uuid)) =
      userAt (applyUserDelta old deleted upsert).next uuid := by
  rw [userAt_next, userAt_diff_updated old deleted upsert hold, userAt_diff_added old deleted upsert hold,
    userAt_diff_deleted old deleted upsert hold]
  cases hold' : userAt old uuid with
  | none => cases userAt upsert uuid <;> simp
  | some user =>
    have huuid := uuid_of_userAt hold'
    simp only [Option.bind_some, updateOf, huuid, userRefsByUuid_get, Option.isSome_some, true_and]
    cases hdel : (userAt deleted uuid).isSome with
    | true => cases userAt upsert uuid <;> simp [Option.filter, huuid, hdel]
    | false =>
      cases hup : userAt upsert uuid with
      | none => simp [Option.filter, huuid, hdel]
      | some new =>
        cases hchanged : userChanged user new with
        | true => simp [Option.filter, hchanged]
        | false =>
          have heq := user_eq_of_unchanged (huuid.trans (uuid_of_userAt hup).symm) hchanged
          subst heq
          simp [Option.filter, hchanged, huuid, hdel]

/-- An added user is not an old one that stays, an updated user is. -/
theorem diff_added_updated_apart {added updated : UserInfo}
    (hadded : added ∈ (compareIncrementalDelta old deleted upsert).added)
    (hupdated : updated ∈ (compareIncrementalDelta old deleted upsert).updated) : added.uuid ≠ updated.uuid := by
  intro heq
  have hadd := userAt_diff_added old deleted upsert hold updated.uuid
  have hupd := userAt_diff_updated old deleted upsert hold updated.uuid
  have hisAdded : (userAt (compareIncrementalDelta old deleted upsert).added updated.uuid).isSome = true := by
    rw [Option.isSome_iff_ne_none]
    exact fun hnone => userAt_eq_none.1 hnone added hadded heq
  have hisUpdated : (userAt (compareIncrementalDelta old deleted upsert).updated updated.uuid).isSome = true := by
    rw [Option.isSome_iff_ne_none]
    exact fun hnone => userAt_eq_none.1 hnone updated hupdated rfl
  rw [hupd] at hisUpdated
  cases hold' : userAt old updated.uuid with
  | none => simp [hold'] at hisUpdated
  | some user =>
    have huuid := uuid_of_userAt hold'
    have hkept : (userAt deleted updated.uuid).isSome = false := by
      cases hdel : (userAt deleted updated.uuid).isSome with
      | false => rfl
      | true => simp [hold', updateOf, huuid, hdel] at hisUpdated
    rw [hadd, if_pos ⟨by simp [hold'], hkept⟩] at hisAdded
    cases hisAdded

end

/-! ## The core -/

theorem coreUsers_put_get (users : CoreUsers) (more : List CoreUser) (uuid : Text) :
    (users.put more)[uuid]? = (lastWith (·.uuid) more uuid).or users[uuid]? := by
  simp only [CoreUsers.put, getElem?_foldl_insert, Option.map_id_fun', id_eq]

theorem coreUsers_drop_get (users : CoreUsers) (uuids : List Text) (uuid : Text) :
    (users.drop uuids)[uuid]? = if uuid ∈ uuids then none else users[uuid]? := by
  rw [CoreUsers.drop, getElem?_foldl_erase (fun uuid => uuid)]
  by_cases h : uuid ∈ uuids
  · have hsome : (lastWith (fun uuid => uuid) uuids uuid).isSome = true := by
      rw [Option.isSome_iff_ne_none]
      exact fun hnone => lastWith_eq_none.1 hnone uuid h rfl
    rw [if_pos hsome, if_pos h]
  · have hnone : lastWith (fun uuid => uuid) uuids uuid = none :=
      lastWith_eq_none.2 fun other hother heq => h (heq ▸ hother)
    rw [hnone, if_neg h]
    rfl

theorem coreUsersOf_get (users : List CoreUser) (uuid : Text) :
    (coreUsersOf users)[uuid]? = lastWith (·.uuid) users uuid := by
  rw [coreUsersOf, coreUsers_put_get, ExtTreeMap.getElem?_empty, Option.or_none]

section

variable {f : UserInfo → CoreUser} (hf : ∀ user, (f user).uuid = user.uuid)

include hf

theorem coreUsersOf_map_get (users : List UserInfo) (uuid : Text) :
    (coreUsersOf (users.map f))[uuid]? = (userAt users uuid).map f := by
  rw [coreUsersOf_get, lastWith_map f hf]
  rfl

/-- Lists with the same user under every uuid are the same to the core. -/
theorem coreUsersOf_congr {users others : List UserInfo} (h : ∀ uuid, userAt users uuid = userAt others uuid) :
    coreUsersOf (users.map f) = coreUsersOf (others.map f) := by
  refine ExtTreeMap.ext_getElem? fun uuid => ?_
  rw [coreUsersOf_map_get hf, coreUsersOf_map_get hf, h]

/-- **The core follows**: from the users of the old list, the diff of a delta leads to those of the new list. -/
theorem core_follows_delta {old : List UserInfo} (hold : (old.map (·.uuid)).Nodup) (deleted upsert : List UserInfo) :
    (((coreUsersOf (old.map f)).drop ((compareIncrementalDelta old deleted upsert).deleted.map (·.uuid))).put
        ((compareIncrementalDelta old deleted upsert).added.map f)).put
        ((compareIncrementalDelta old deleted upsert).updated.map f) =
      coreUsersOf ((applyUserDelta old deleted upsert).next.map f) := by
  refine ExtTreeMap.ext_getElem? fun uuid => ?_
  have hmem : uuid ∈ (compareIncrementalDelta old deleted upsert).deleted.map (·.uuid) ↔
      (userAt (compareIncrementalDelta old deleted upsert).deleted uuid).isSome = true := by
    rw [← contains_uuid_iff, List.contains_iff_mem]
  rw [coreUsers_put_get, coreUsers_put_get, coreUsers_drop_get, coreUsersOf_map_get hf, coreUsersOf_map_get hf,
    lastWith_map f hf, lastWith_map f hf, ← userAt_follows old deleted upsert hold]
  change ((userAt _ uuid).map f).or (((userAt _ uuid).map f).or _) = _
  simp only [hmem, Option.map_or]
  split <;> rfl

end

/-! ## Full lists -/

/-- The fold over the new list: what is left of the old map, and what each user of the list is taken for. -/
theorem foldl_compareUser (new : List UserInfo) (oldMap : BTreeMap Text UserInfo) (diff : UserListDiff)
    (hnodup : (new.map (·.uuid)).Nodup) :
    (∀ uuid, (new.foldl compareUser (oldMap, diff)).1[uuid]? =
        if (userAt new uuid).isSome then none else oldMap[uuid]?) ∧
      (new.foldl compareUser (oldMap, diff)).2.added =
        diff.added ++ new.filter (fun user => oldMap[user.uuid]?.isNone) ∧
      (new.foldl compareUser (oldMap, diff)).2.updated =
        diff.updated ++ new.filter (fun user => oldMap[user.uuid]?.any fun old => userChanged old user) := by
  induction new generalizing oldMap diff with
  | nil => simp
  | cons user new ih =>
    rw [List.map_cons, List.nodup_cons] at hnodup
    have hfresh : ∀ other ∈ new, user.uuid ≠ other.uuid := fun other hother heq =>
      hnodup.1 (heq ▸ List.mem_map_of_mem hother)
    rw [List.foldl_cons]
    cases hold : oldMap[user.uuid]? with
    | none =>
      have hstep : compareUser (oldMap, diff) user = (oldMap, { diff with added := diff.added ++ [user] }) := by
        simp only [compareUser, hold]
      obtain ⟨hget, hadded, hupdated⟩ := ih oldMap { diff with added := diff.added ++ [user] } hnodup.2
      rw [hstep]
      refine ⟨fun uuid => ?_, ?_, ?_⟩
      · rw [hget, userAt_cons]
        by_cases huuid : user.uuid = uuid
        · subst huuid
          simp [hold]
        · simp [huuid]
      · rw [hadded]
        simp [hold]
      · rw [hupdated]
        simp [hold]
    | some old =>
      have hstep : compareUser (oldMap, diff) user = (oldMap.erase user.uuid,
          if userChanged old user then { diff with updated := diff.updated ++ [user] } else diff) := by
        simp only [compareUser, hold]
      obtain ⟨hget, hadded, hupdated⟩ := ih (oldMap.erase user.uuid)
        (if userChanged old user then { diff with updated := diff.updated ++ [user] } else diff) hnodup.2
      -- the users behind have other uuids, so the erased entry is not theirs
      have hlater : ∀ other ∈ new, (oldMap.erase user.uuid)[other.uuid]? = oldMap[other.uuid]? := by
        intro other hother
        simp [ExtTreeMap.getElem?_erase, hfresh other hother]
      rw [hstep]
      refine ⟨fun uuid => ?_, ?_, ?_⟩
      · rw [hget, userAt_cons, ExtTreeMap.getElem?_erase]
        by_cases huuid : user.uuid = uuid
        · subst huuid
          simp
        · simp [huuid]
      · have hsame : new.filter (fun other => (oldMap.erase user.uuid)[other.uuid]?.isNone) =
            new.filter (fun other => oldMap[other.uuid]?.isNone) :=
          List.filter_congr fun other hother => by rw [hlater other hother]
        rw [hadded, hsame]
        cases hchanged : userChanged old user <;> simp [hold]
      · have hsame : new.filter (fun other => (oldMap.erase user.uuid)[other.uuid]?.any fun o => userChanged o other) =
            new.filter (fun other => oldMap[other.uuid]?.any fun o => userChanged o other) :=
          List.filter_congr fun other hother => by rw [hlater other hother]
        rw [hupdated, hsame]
        cases hchanged : userChanged old user <;> simp [hold, hchanged]

/-- **No difference**: a full list whose comparison is empty has the users of the old list. -/
theorem sameUsers_of_empty_diff {old new : List UserInfo} (hnew : (new.map (·.uuid)).Nodup)
    (hempty : userListDiffIsEmpty (compareUserList old new) = true) (uuid : Text) :
    userAt new uuid = userAt old uuid := by
  obtain ⟨hget, hadded, hupdated⟩ := foldl_compareUser new (userRefsByUuid old) {} hnew
  simp only [userListDiffIsEmpty, compareUserList, Bool.and_eq_true, List.isEmpty_iff, List.map_eq_nil_iff,
    ExtTreeMap.toList_eq_nil_iff] at hempty
  rw [hempty.1.2, List.nil_append] at hadded
  rw [hempty.2, List.nil_append] at hupdated
  cases hnewAt : userAt new uuid with
  | some user =>
    have huuid := uuid_of_userAt hnewAt
    have hpresent := List.filter_eq_nil_iff.1 hadded.symm user (mem_of_userAt hnewAt)
    have hsame := List.filter_eq_nil_iff.1 hupdated.symm user (mem_of_userAt hnewAt)
    rw [userRefsByUuid_get, huuid] at hpresent hsame
    cases hold : userAt old uuid with
    | none => simp [hold] at hpresent
    | some olduser =>
      have hunchanged : userChanged olduser user = false := by simpa [hold] using hsame
      rw [user_eq_of_unchanged ((uuid_of_userAt hold).trans huuid.symm) hunchanged]
  | none =>
    have hnone := hget uuid
    rw [hempty.1.1, ExtTreeMap.getElem?_empty, hnewAt, userRefsByUuid_get] at hnone
    simpa using hnone

end KeliNode
