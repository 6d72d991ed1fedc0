import KeliNode.Runner.DiffSound

/-!
# Laws of the list operations (`user.rs`)

The comparison of two lists names each change once and leads from the one to the other (`ListDiff`).  The list
behind a delta is in the order of the uuids and is known under every uuid (`applyUserDelta_next_eq`), so the same
delta again finds nothing to do (`applyUserDelta_again`): the repetition after a lost answer is harmless.
-/

namespace KeliNode

open Lib Std

/-- In the order of the uuids, each once. -/
def UuidIncreasing (users : List UserInfo) : Prop := users.Pairwise fun a b => compare a.uuid b.uuid = .lt

/-- A diff that says exactly what changes from one list to another. -/
structure ListDiff (old new : List UserInfo) (diff : UserListDiff) : Prop where
  deleted_iff : ∀ user, user ∈ diff.deleted ↔ user ∈ old ∧ ∀ other ∈ new, other.uuid ≠ user.uuid
  deleted_increasing : UuidIncreasing diff.deleted
  added_eq : diff.added = new.filter fun user => old.all fun other => other.uuid ≠ user.uuid
  updated_eq : diff.updated = new.filter fun user => old.any fun other => other.uuid = user.uuid && other ≠ user
  deleted_added : ∀ a ∈ diff.deleted, ∀ b ∈ diff.added, a.uuid ≠ b.uuid
  deleted_updated : ∀ a ∈ diff.deleted, ∀ b ∈ diff.updated, a.uuid ≠ b.uuid
  added_updated : ∀ a ∈ diff.added, ∀ b ∈ diff.updated, a.uuid ≠ b.uuid
  leads : diff.applyTo (userRefsByUuid old) = userRefsByUuid new

section

variable {old new : List UserInfo}

theorem isNone_userAt_eq (users : List UserInfo) (uuid : Text) :
    (userAt users uuid).isNone = users.all fun other => other.uuid ≠ uuid := by
  rw [Bool.eq_iff_iff, Option.isNone_iff_eq_none, userAt_eq_none, List.all_eq_true]
  simp

/-- Where the uuids are distinct, a user is the one under its uuid. -/
theorem userAt_eq_some_iff (hold : (old.map (·.uuid)).Nodup) {uuid : Text} {user : UserInfo} :
    userAt old uuid = some user ↔ user ∈ old ∧ user.uuid = uuid := by
  constructor
  · exact fun h => ⟨mem_of_userAt h, uuid_of_userAt h⟩
  · rintro ⟨hmem, rfl⟩
    exact lastWith_of_mem hold hmem

theorem userChanged_iff {a b : UserInfo} (huuid : a.uuid = b.uuid) : userChanged a b = true ↔ a ≠ b := by
  constructor
  · rintro hchanged rfl
    simp [userChanged] at hchanged
  · intro hne
    cases hchanged : userChanged a b with
    | true => rfl
    | false => exact absurd (user_eq_of_unchanged huuid hchanged) hne

/-- The updated users of a comparison are the ones that differ from the old user under their uuid. -/
theorem any_userChanged_eq (hold : (old.map (·.uuid)).Nodup) (user : UserInfo) :
    ((userAt old user.uuid).any fun other => userChanged other user) =
      old.any fun other => other.uuid = user.uuid && other ≠ user := by
  rw [Bool.eq_iff_iff, Option.any_eq_true_iff_get, List.any_eq_true]
  constructor
  · rintro ⟨hsome, hchanged⟩
    obtain ⟨hmem, huuid⟩ := (userAt_eq_some_iff hold).1 (Option.some_get hsome).symm
    refine ⟨_, hmem, ?_⟩
    simpa [huuid] using (userChanged_iff huuid).1 hchanged
  · rintro ⟨other, hmem, hother⟩
    simp only [Bool.and_eq_true, decide_eq_true_eq] at hother
    have hat := (userAt_eq_some_iff hold).2 ⟨hmem, hother.1⟩
    simp only [hat, Option.isSome_some, Option.get_some, exists_const]
    exact (userChanged_iff hother.1).2 hother.2

theorem compare_added (hnew : (new.map (·.uuid)).Nodup) :
    (compareUserList old new).added = new.filter fun user => old.all fun other => other.uuid ≠ user.uuid := by
  have hfold := (foldl_compareUser new (userRefsByUuid old) {} hnew).2.1
  simp only [compareUserList, hfold, List.nil_append, userRefsByUuid_get, isNone_userAt_eq]

section

variable (hold : (old.map (·.uuid)).Nodup) (hnew : (new.map (·.uuid)).Nodup)
include hold hnew

theorem compare_updated : (compareUserList old new).updated =
    new.filter fun user => old.any fun other => other.uuid = user.uuid && other ≠ user := by
  have hfold := (foldl_compareUser new (userRefsByUuid old) {} hnew).2.2
  simp only [compareUserList, hfold, List.nil_append, userRefsByUuid_get, any_userChanged_eq hold]

/-- The deleted users are the values of a map, each under its uuid. -/
theorem compare_deleted : ∃ left : BTreeMap Text UserInfo,
    (compareUserList old new).deleted = left.toList.map Prod.snd ∧
      ∀ uuid user, left[uuid]? = some user ↔ user.uuid = uuid ∧ user ∈ old ∧ ∀ other ∈ new, other.uuid ≠ uuid := by
  refine ⟨_, rfl, fun uuid user => ?_⟩
  rw [(foldl_compareUser new (userRefsByUuid old) {} hnew).1 uuid, userRefsByUuid_get]
  cases hat : userAt new uuid with
  | some other =>
    have hother := mem_of_userAt hat
    simp only [Option.isSome_some, if_true, reduceCtorEq, false_iff, not_and, not_forall]
    exact fun _ _ => ⟨other, hother, not_not.2 (uuid_of_userAt hat)⟩
  | none =>
    simp only [Option.isSome_none, Bool.false_eq_true, if_false, userAt_eq_some_iff hold]
    exact ⟨fun h => ⟨h.2, h.1, userAt_eq_none.1 hat⟩, fun h => ⟨h.2.1, h.1⟩⟩

theorem mem_compare_deleted {user : UserInfo} :
    user ∈ (compareUserList old new).deleted ↔ user ∈ old ∧ ∀ other ∈ new, other.uuid ≠ user.uuid := by
  obtain ⟨left, hdeleted, hleft⟩ := compare_deleted hold hnew
  rw [hdeleted, mem_values]
  constructor
  · rintro ⟨uuid, h⟩
    obtain ⟨rfl, hmem, hnone⟩ := (hleft _ _).1 h
    exact ⟨hmem, hnone⟩
  · exact fun h => ⟨user.uuid, (hleft _ _).2 ⟨rfl, h⟩⟩

theorem compare_deleted_increasing : UuidIncreasing (compareUserList old new).deleted := by
  obtain ⟨left, hdeleted, hleft⟩ := compare_deleted hold hnew
  rw [hdeleted]
  exact increasing_values fun uuid user h => ((hleft uuid user).1 h).1

/-- Under every uuid the diff has the new user, leaves the old one as it is, or deletes it. -/
theorem compare_leads (uuid : Text) :
    (userAt (compareUserList old new).updated uuid).or ((userAt (compareUserList old new).added uuid).or
      (if (userAt (compareUserList old new).deleted uuid).isSome then none else userAt old uuid)) =
      userAt new uuid := by
  have hfilter : ∀ p : UserInfo → Bool, userAt (new.filter p) uuid = (userAt new uuid).filter p := by
    intro p
    have hbind : userAt (new.filterMap (Option.guard p)) uuid = (userAt new uuid).bind (Option.guard p) :=
      lastWith_filterMap (fun user other hother => by rw [(Option.guard_eq_some_iff.1 hother).1]) hnew uuid
    rw [← List.filterMap_eq_filter, hbind]
    cases userAt new uuid <;> simp [Option.guard, Option.filter]
  rw [compare_added hnew, compare_updated hold hnew, hfilter, hfilter]
  cases hat : userAt new uuid with
  | none =>
    have hnone := userAt_eq_none.1 hat
    simp only [Option.filter_none, Option.none_or]
    cases hold' : userAt old uuid with
    | none => simp
    | some user =>
      have hdeleted : (userAt (compareUserList old new).deleted uuid).isSome = true := by
        obtain ⟨hmem, rfl⟩ := (userAt_eq_some_iff hold).1 hold'
        rw [Option.isSome_iff_ne_none]
        exact fun h => userAt_eq_none.1 h user ((mem_compare_deleted hold hnew).2 ⟨hmem, hnone⟩) rfl
      rw [if_pos hdeleted]
  | some user =>
    have huuid := uuid_of_userAt hat
    have hkept : userAt (compareUserList old new).deleted uuid = none := by
      rw [userAt_eq_none]
      intro other hother
      rw [← huuid]
      exact fun heq => ((mem_compare_deleted hold hnew).1 hother).2 user (mem_of_userAt hat) heq.symm
    rw [hkept, Option.filter_some, Option.filter_some, ← isNone_userAt_eq, ← any_userChanged_eq hold, huuid]
    cases hold' : userAt old uuid with
    | none => simp
    | some other =>
      cases hchanged : userChanged other user with
      | true => simp [hchanged]
      | false =>
        obtain rfl := user_eq_of_unchanged ((uuid_of_userAt hold').trans huuid.symm) hchanged
        simp [hchanged]

/-- **The comparison is exact.** -/
theorem compareUserList_listDiff : ListDiff old new (compareUserList old new) where
  deleted_iff user := mem_compare_deleted hold hnew
  deleted_increasing := compare_deleted_increasing hold hnew
  added_eq := compare_added hnew
  updated_eq := compare_updated hold hnew
  deleted_added a ha b hb heq := by
    rw [compare_added hnew] at hb
    exact ((mem_compare_deleted hold hnew).1 ha).2 b (List.mem_filter.1 hb).1 heq.symm
  deleted_updated a ha b hb heq := by
    rw [compare_updated hold hnew] at hb
    exact ((mem_compare_deleted hold hnew).1 ha).2 b (List.mem_filter.1 hb).1 heq.symm
  added_updated a ha b hb heq := by
    rw [compare_added hnew, List.mem_filter, List.all_eq_true] at ha
    rw [compare_updated hold hnew, List.mem_filter, List.any_eq_true] at hb
    obtain ⟨other, hother, hcond⟩ := hb.2
    simp only [Bool.and_eq_true, decide_eq_true_eq] at hcond
    exact of_decide_eq_true (ha.2 other hother) (hcond.1.trans heq.symm)
  leads := by
    refine ExtTreeMap.ext_getElem? fun uuid => ?_
    rw [applyTo_get, userRefsByUuid_get, userRefsByUuid_get, compare_leads hold hnew]

end

end

/-! ## The list behind a delta -/

theorem next_increasing (old deleted upsert : List UserInfo) :
    UuidIncreasing (applyUserDelta old deleted upsert).next := by
  obtain ⟨byUuid, hnext, hfrom⟩ := applyUserDelta_next_from old deleted upsert
  rw [hnext]
  exact increasing_values fun uuid user h => (hfrom uuid user h).1

/-- The same delta again finds nothing to do. -/
theorem applyUserDelta_again (old deleted upsert : List UserInfo) :
    (applyUserDelta (applyUserDelta old deleted upsert).next deleted upsert).next =
      (applyUserDelta old deleted upsert).next := by
  obtain ⟨once, hnext, honce⟩ := applyUserDelta_next_eq old deleted upsert
  obtain ⟨twice, hagain, htwice⟩ := applyUserDelta_next_eq (applyUserDelta old deleted upsert).next deleted upsert
  have hsame : twice = once := by
    refine ExtTreeMap.ext_getElem? fun uuid => ?_
    rw [htwice, honce, userAt_next]
    cases userAt upsert uuid with
    | some user => rfl
    | none => cases (userAt deleted uuid).isSome <;> rfl
  rw [hagain, hsame, hnext]

/-- **Diff and replay**: the comparison of lists with distinct uuids is exact and leads to the new list; the list
behind a delta is in order, holds the last upserted user under each uuid, else the last old one unless its uuid is
deleted, and is left by the same delta as it is. -/
theorem userList_laws (old new : List UserInfo) (hold : (old.map (·.uuid)).Nodup) (hnew : (new.map (·.uuid)).Nodup)
    (stored deleted upsert : List UserInfo) :
    ListDiff old new (compareUserList old new) ∧
    UuidIncreasing (applyUserDelta stored deleted upsert).next ∧
    (∀ uuid, userAt (applyUserDelta stored deleted upsert).next uuid =
      (userAt upsert uuid).or (if deleted.any (·.uuid = uuid) then none else userAt stored uuid)) ∧
    (applyUserDelta (applyUserDelta stored deleted upsert).next deleted upsert).next =
      (applyUserDelta stored deleted upsert).next := by
  refine ⟨compareUserList_listDiff hold hnew, next_increasing stored deleted upsert, fun uuid => ?_,
    applyUserDelta_again stored deleted upsert⟩
  have hany : (userAt deleted uuid).isSome = deleted.any (·.uuid = uuid) := by
    rw [← contains_uuid_iff, Bool.eq_iff_iff, List.contains_iff_mem, List.mem_map, List.any_eq_true]
    simp
  rw [userAt_next, hany]

def listBefore : List UserInfo :=
  [{ id := 1, uuid := "a" }, { id := 2, uuid := "b" }, { id := 3, uuid := "c" }]

def listAfter : List UserInfo :=
  [{ id := 4, uuid := "d" }, { id := 2, uuid := "b", deviceLimit := 1 }, { id := 1, uuid := "a" }]

theorem userList_laws_instance :
    (listBefore.map (·.uuid)).Nodup ∧ (listAfter.map (·.uuid)).Nodup ∧
    ListDiff listBefore listAfter (compareUserList listBefore listAfter) ∧
    (compareUserList listBefore listAfter).deleted.map (·.uuid) = [(("c" : String) : Text)] :=
  ⟨by decide, by decide, (userList_laws listBefore listAfter (by decide) (by decide) [] [] []).1, by decide +kernel⟩

end KeliNode
