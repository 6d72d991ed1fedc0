import KeliNode.Lib.Sharing
import KeliNode.Lib.Json
import KeliNode.Lib.Utf8
import KeliNode.Runner.Users
import KeliNode.Runtime.Build

/-!
# Shared user lists (`core.rs`, `runner.rs`)

The user lists of the nodes are kept once where they are equal: in the core plan and in the state of the user
sync.  The values are what the other modules speak of; here they stand at their allocations.

| here | there |
|---|---|
| `fnv1a64` | `core.rs:2942` |
| `inboundUserListFingerprint`, `shareIdenticalInboundUserLists` | `core.rs:310`, `:294` |
| `planUserLists`, `planUuids` | the user lists and the uuids of `CorePlan::from_nodes_with_users` (`core.rs:222`) |
| `userSnapshotFingerprint`, `shareUserSyncSnapshots` | `runner.rs:2212`, `:2193` |
| `userSyncSnapshotStats` | `runner.rs:2159` |

SHA-1 is a parameter; what is proved holds of any.
-/

namespace KeliNode

open Lib Std

/-! ## Fingerprints -/

/-- `to_le_bytes`. -/
def leBytes (width n : Nat) : Bytes := (List.range width).map fun i => UInt8.ofNat (n / 256 ^ i)

def fnv1a64 (bytes : Bytes) : UInt64 :=
  bytes.foldl (fun hash byte => (hash ^^^ byte.toUInt64) * 0x100000001b3) 0xcbf29ce484222325

/-- A text as the fingerprints take it, with its length first. -/
def textBytes (s : Text) : Bytes := leBytes 8 (utf8 s).length ++ utf8 s

def inboundUserListFingerprint (users : List InboundUserPlan) : UInt64 :=
  fnv1a64 (users.flatMap fun user => leBytes 4 user.id ++ textBytes user.uuid ++ textBytes user.email ++
    leBytes 4 user.speedLimit ++ leBytes 4 user.deviceLimit)

def userSnapshotFingerprint (sha1 : Bytes → Bytes) (users : List UserInfo) : Text :=
  (sha1 (leBytes 8 users.length ++ users.flatMap fun user => leBytes 4 user.id ++ textBytes user.uuid ++
    leBytes 4 user.speedLimit ++ leBytes 4 user.deviceLimit)).flatMap Json.hexByte

/-! ## The core plan -/

/-- The users of the inbounds, in the order of the inbounds. -/
def shareIdenticalInboundUserLists (lists : List (Shared (List InboundUserPlan))) : List (Shared (List InboundUserPlan)) :=
  shareAll (fun _ => true) inboundUserListFingerprint (∅ : BTreeMap UInt64 _) lists

/-- Values that were just built stand at allocations of their own. -/
def freshlyBuilt {α : Type} (values : List α) : List (Shared α) :=
  values.zipIdx.map fun (value, allocation) => { allocation, value }

/-- The user lists of a plan, shared before it is handed out. -/
def planUserLists (plan : CorePlan) : List (Shared (List InboundUserPlan)) :=
  shareIdenticalInboundUserLists (freshlyBuilt (plan.inbounds.map (·.users)))

/-- The uuids of the plan for the nodes, each interned when its user is built. -/
def planUuids (nodes : List NodeInfo) (usersByNodeTag : UsersByNodeTag) : List (Shared Text) :=
  internAll ({} : InternPool Text compare)
    (nodes.flatMap fun node => (inboundUsers node (usersByNodeTag.getD node.tag [])).map (·.uuid))

theorem value_freshlyBuilt {α : Type} (values : List α) : (freshlyBuilt values).map (·.value) = values := by
  rw [freshlyBuilt, List.map_map]
  exact List.zipIdx_map_fst 0 values

theorem coherent_freshlyBuilt {α : Type} (values : List α) : Coherent (freshlyBuilt values) := by
  intro x hx y hy heq
  obtain ⟨⟨v, i⟩, hv, rfl⟩ := List.mem_map.1 hx
  obtain ⟨⟨w, j⟩, hw, rfl⟩ := List.mem_map.1 hy
  rw [List.mem_zipIdx_iff_getElem?] at hv hw
  have hij : i = j := heq
  subst hij
  exact Option.some.inj (hv.symm.trans hw)

/-! ## The state of the user sync -/

def hasUsers (users : List UserInfo) : Bool := !users.isEmpty

/-- The users of the entries, in the order of their tags. -/
def shareUserSyncSnapshots (sha1 : Bytes → Bytes) (lists : List (Shared (List UserInfo))) : List (Shared (List UserInfo)) :=
  shareAll hasUsers (userSnapshotFingerprint sha1) (∅ : BTreeMap Text _) lists

/-- `usize::saturating_add`. -/
def saturate (n : Nat) : Nat := min n (2 ^ 64 - 1)

structure UserSyncSnapshotStats where
  entries : Nat := 0
  cachedUsers : Nat := 0
  uniqueSnapshots : Nat := 0
  sharedEntries : Nat := 0
  uniqueCachedUsers : Nat := 0
  sharedCachedUsers : Nat := 0
  deriving DecidableEq

/-- The locals of `user_sync_snapshot_stats`. -/
structure SnapshotCount where
  stats : UserSyncSnapshotStats := {}
  unique : BTreeMap Text (List (List UserInfo)) := ∅

def SnapshotCount.count (sha1 : Bytes → Bytes) (state : SnapshotCount) (users : List UserInfo) : SnapshotCount :=
  if users.isEmpty then state
  else
    let fingerprint := userSnapshotFingerprint sha1 users
    let bucket := state.unique.getD fingerprint []
    let stats := { state.stats with cachedUsers := saturate (state.stats.cachedUsers + users.length) }
    if bucket.contains users then
      { state with stats := { stats with
        sharedEntries := saturate (stats.sharedEntries + 1)
        sharedCachedUsers := saturate (stats.sharedCachedUsers + users.length) } }
    else
      { stats := { stats with
          uniqueSnapshots := saturate (stats.uniqueSnapshots + 1)
          uniqueCachedUsers := saturate (stats.uniqueCachedUsers + users.length) }
        unique := state.unique.insert fingerprint (bucket ++ [users]) }

def userSyncSnapshotStats (sha1 : Bytes → Bytes) (lists : List (List UserInfo)) : UserSyncSnapshotStats :=
  (lists.foldl (SnapshotCount.count sha1) { stats.entries := lists.length }).stats

/-! ## Counting -/

/-- How many users the lists have together. -/
def userTotal : List (List UserInfo) → Nat
  | [] => 0
  | users :: lists => users.length + userTotal lists

@[simp] theorem userTotal_append (lists more : List (List UserInfo)) :
    userTotal (lists ++ more) = userTotal lists + userTotal more := by
  induction lists with
  | nil => exact (Nat.zero_add _).symm
  | cons users lists ih => rw [List.cons_append, userTotal, ih, userTotal, Nat.add_assoc]

@[simp] theorem userTotal_singleton (users : List UserInfo) : userTotal [users] = users.length := rfl

/-- Saturating at each addition is saturating at the end. -/
theorem saturate_add (m n : Nat) : saturate (saturate m + n) = saturate (m + n) := by
  unfold saturate
  omega

/-- What was counted of the lists seen. -/
structure Counted (sha1 : Bytes → Bytes) (entries : Nat) (seen : List (List UserInfo)) (state : SnapshotCount) : Prop where
  stats : state.stats = {
    entries
    cachedUsers := saturate (userTotal seen)
    uniqueSnapshots := saturate (firsts seen).length
    sharedEntries := saturate (repeats seen).length
    uniqueCachedUsers := saturate (userTotal (firsts seen))
    sharedCachedUsers := saturate (userTotal (repeats seen)) }
  unique : ∀ users, users ∈ state.unique.getD (userSnapshotFingerprint sha1 users) [] ↔ users ∈ seen

/-- **Step lemma** for a list with users. -/
theorem Counted.count {sha1 : Bytes → Bytes} {entries : Nat} {seen : List (List UserInfo)} {state : SnapshotCount}
    {users : List UserInfo} (h : Counted sha1 entries seen state) (hsome : users.isEmpty = false) :
    Counted sha1 entries (seen ++ [users]) (state.count sha1 users) := by
  have hmem : (state.unique.getD (userSnapshotFingerprint sha1 users) []).contains users = true ↔ users ∈ seen := by
    rw [List.contains_iff_mem, h.unique]
  rw [SnapshotCount.count, hsome]
  simp only [Bool.false_eq_true, if_false]
  by_cases hold : users ∈ seen
  · rw [if_pos (hmem.2 hold)]
    constructor
    · simp only [h.stats, firsts_concat, repeats_concat, if_pos hold, userTotal_append, userTotal_singleton,
        List.length_append, List.length_singleton, saturate_add]
    · intro other
      rw [h.unique, List.mem_append, List.mem_singleton]
      refine ⟨.inl, ?_⟩
      rintro (hmem | rfl)
      · exact hmem
      · exact hold
  · rw [if_neg fun hcontains => hold (hmem.1 hcontains)]
    constructor
    · simp only [h.stats, firsts_concat, repeats_concat, if_neg hold, userTotal_append, userTotal_singleton,
        List.length_append, List.length_singleton, saturate_add]
    · intro other
      simp only [ExtTreeMap.getD_insert]
      rw [List.mem_append, List.mem_singleton]
      split
      · rename_i hsame
        rw [LawfulEqCmp.eq_of_compare hsame, List.mem_append, List.mem_singleton, h.unique]
      · rename_i hother
        rw [h.unique]
        refine ⟨.inl, ?_⟩
        rintro (hmem | rfl)
        · exact hmem
        · exact absurd ReflCmp.compare_self hother

/-- **Run lemma**: empty lists do not count. -/
theorem Counted.run {sha1 : Bytes → Bytes} {entries : Nat} {seen : List (List UserInfo)} {state : SnapshotCount}
    (h : Counted sha1 entries seen state) (lists : List (List UserInfo)) :
    Counted sha1 entries (seen ++ lists.filter hasUsers) (lists.foldl (SnapshotCount.count sha1) state) := by
  induction lists generalizing seen state with
  | nil =>
    rw [List.filter_nil, List.append_nil]
    exact h
  | cons users lists ih =>
    rw [List.foldl_cons, List.filter_cons]
    cases hempty : users.isEmpty with
    | true =>
      rw [SnapshotCount.count, hempty, hasUsers, hempty]
      exact ih h
    | false =>
      rw [hasUsers, hempty, Bool.not_false, if_pos rfl, List.append_cons]
      exact ih (h.count hempty)

theorem userSyncSnapshotStats_eq (sha1 : Bytes → Bytes) (lists : List (List UserInfo)) :
    userSyncSnapshotStats sha1 lists = {
      entries := lists.length
      cachedUsers := saturate (userTotal (lists.filter hasUsers))
      uniqueSnapshots := saturate (firsts (lists.filter hasUsers)).length
      sharedEntries := saturate (repeats (lists.filter hasUsers)).length
      uniqueCachedUsers := saturate (userTotal (firsts (lists.filter hasUsers)))
      sharedCachedUsers := saturate (userTotal (repeats (lists.filter hasUsers))) } := by
  have hstart : Counted sha1 lists.length [] { stats.entries := lists.length } := ⟨rfl, fun users => by simp⟩
  exact (hstart.run lists).stats

/-! ## The results -/

/-- **The sync state is shared** without a change to it: the entries have the users they had, two of them that have
any stand at one allocation just when they have the same, and the counts are those of the allocations. -/
theorem snapshots_shared (sha1 : Bytes → Bytes) (lists : List (Shared (List UserInfo))) (hlists : Coherent lists) :
    let shared := shareUserSyncSnapshots sha1 lists
    let kept := shared.filter fun users => hasUsers users.value
    let stats := userSyncSnapshotStats sha1 (lists.map (·.value))
    shared.map (·.value) = lists.map (·.value) ∧
      (∀ x ∈ shared, ∀ y ∈ shared, hasUsers x.value = true → (x.allocation = y.allocation ↔ x.value = y.value)) ∧
      stats.uniqueSnapshots = saturate (firsts (kept.map (·.allocation))).length ∧
      stats.sharedEntries = saturate (repeats (kept.map (·.allocation))).length ∧
      stats.uniqueCachedUsers = saturate (userTotal ((firsts kept).map (·.value))) ∧
      stats.sharedCachedUsers = saturate (userTotal ((repeats kept).map (·.value))) ∧
      stats.cachedUsers = saturate (userTotal (kept.map (·.value))) := by
  intro shared kept stats
  have hvalues : shared.map (·.value) = lists.map (·.value) := value_shareAll lists
  have hsharing : ∀ x ∈ shared, ∀ y ∈ shared, hasUsers x.value = true →
      (x.allocation = y.allocation ↔ x.value = y.value) :=
    fun x hx y hy hwanted => allocation_shareAll hlists hx hy hwanted
  have hkept : kept.map (·.value) = (lists.map (·.value)).filter hasUsers := by
    rw [← hvalues, List.filter_map]
    rfl
  -- either the allocation or the value tells the kept entries apart
  have hapart : ∀ x ∈ kept, ∀ y ∈ kept, x.value = y.value → x = y := by
    intro x hx y hy heq
    rw [List.mem_filter] at hx hy
    have hallocation := (hsharing x hx.1 y hy.1 hx.2).2 heq
    cases x
    cases y
    cases heq
    cases hallocation
    rfl
  have hapart' : ∀ x ∈ kept, ∀ y ∈ kept, x.allocation = y.allocation → x = y := by
    intro x hx y hy heq
    refine hapart x hx y hy ?_
    rw [List.mem_filter] at hx hy
    exact (hsharing x hx.1 y hy.1 hx.2).1 heq
  have hstats := userSyncSnapshotStats_eq sha1 (lists.map (·.value))
  rw [← hkept, ← map_firsts hapart, ← map_repeats hapart] at hstats
  refine ⟨hvalues, hsharing, ?_, ?_, ?_, ?_, ?_⟩
  · rw [← map_firsts hapart', List.length_map, show stats.uniqueSnapshots = _ from congrArg (·.uniqueSnapshots) hstats]
    simp only [List.length_map]
  · rw [← map_repeats hapart', List.length_map, show stats.sharedEntries = _ from congrArg (·.sharedEntries) hstats]
    simp only [List.length_map]
  · exact congrArg (·.uniqueCachedUsers) hstats
  · exact congrArg (·.sharedCachedUsers) hstats
  · exact congrArg (·.cachedUsers) hstats

def alice : UserInfo := { id := 7, uuid := "alice", deviceLimit := 2 }

/-- Three entries as they were loaded, two of them with the same user. -/
def loadedSnapshots : List (Shared (List UserInfo)) := [⟨0, [alice]⟩, ⟨1, []⟩, ⟨2, [alice]⟩]

/-- The digest of the one snapshot that is hashed here. -/
def aliceSha1 (_ : Bytes) : Bytes :=
  [28, 166, 237, 31, 31, 52, 176, 127, 240, 105, 117, 3,
    20, 56, 116, 48, 249, 204, 236, 183]

theorem snapshots_shared_alice :
    (shareUserSyncSnapshots aliceSha1 loadedSnapshots).map (·.value) = loadedSnapshots.map (·.value) ∧
      ∀ x ∈ shareUserSyncSnapshots aliceSha1 loadedSnapshots, ∀ y ∈ shareUserSyncSnapshots aliceSha1 loadedSnapshots,
        hasUsers x.value = true → (x.allocation = y.allocation ↔ x.value = y.value) :=
  have h := snapshots_shared aliceSha1 loadedSnapshots (by unfold Coherent loadedSnapshots; decide)
  ⟨h.1, h.2.1⟩

example : (shareUserSyncSnapshots aliceSha1 loadedSnapshots).map (·.allocation) = [0, 1, 0] := by decide +kernel

theorem uuids_of_planned {users : UsersByNodeTag} {nodes : List NodeInfo} {inbounds : List InboundPlan}
    (h : List.Forall₂ (InboundOf users) nodes inbounds) :
    (nodes.flatMap fun node => (inboundUsers node (users.getD node.tag [])).map (·.uuid)) =
      inbounds.flatMap fun inbound => inbound.users.map (·.uuid) := by
  induction h with
  | nil => rfl
  | cons hof _ ih =>
    rw [List.flatMap_cons, List.flatMap_cons, ih, hof.users, plannedUsers, List.map_map]
    rfl

/-- **The plan is shared** without a change to it: two inbounds stand at one user list just when their users are the
same, and two users of any inbounds at one uuid just when their uuids are. -/
theorem plan_shared {configPath : Text} {nodes : List NodeInfo} {users : UsersByNodeTag} {plan : CorePlan}
    (h : CorePlan.fromNodesWithUsers configPath nodes users = .ok plan) :
    (planUserLists plan).map (·.value) = plan.inbounds.map (·.users) ∧
      (∀ x ∈ planUserLists plan, ∀ y ∈ planUserLists plan, x.allocation = y.allocation ↔ x.value = y.value) ∧
      (planUuids nodes users).map (·.value) = plan.inbounds.flatMap (fun inbound => inbound.users.map (·.uuid)) ∧
      ∀ x ∈ planUuids nodes users, ∀ y ∈ planUuids nodes users, x.allocation = y.allocation ↔ x.value = y.value := by
  have hplanned := (fromNodesWithUsers_spec h).2
  refine ⟨?_, fun x hx y hy => ?_, ?_, fun x hx y hy => allocation_internAll hx hy⟩
  · rw [planUserLists, shareIdenticalInboundUserLists, value_shareAll, value_freshlyBuilt]
  · exact allocation_shareAll (coherent_freshlyBuilt _) hx hy rfl
  · rw [planUuids, value_internAll]
    exact uuids_of_planned hplanned

/-- Two SOCKS nodes of the same panel. -/
def socksNode (id : Nat) (tag : Text) : NodeInfo where
  id
  protocol := .socks
  tag
  common := { serverPort := 1080 }

def aliceOnBoth : UsersByNodeTag := ((∅ : UsersByNodeTag).insert "a".toList [alice]).insert "b".toList [alice]

theorem plan_shared_alice :
    ∃ plan, CorePlan.fromNodesWithUsers "config.json" [socksNode 1 "a", socksNode 2 "b"] aliceOnBoth = .ok plan ∧
      ∀ x ∈ planUserLists plan, ∀ y ∈ planUserLists plan, x.allocation = y.allocation ↔ x.value = y.value := by
  obtain ⟨plan, hplan⟩ := exists_ok (x := CorePlan.fromNodesWithUsers "config.json" [socksNode 1 "a", socksNode 2 "b"]
    aliceOnBoth) (by decide +kernel)
  exact ⟨plan, hplan, (plan_shared hplan).2.1⟩

end KeliNode
