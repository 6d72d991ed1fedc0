import KeliNode.Report.Partition
import Mathlib.Data.List.Induction
import Mathlib.Data.List.Sort
import Mathlib.Algebra.BigOperators.Group.List.Basic
import Mathlib.Algebra.Ring.Int.Defs

/-!
# What a snapshot says of one user

`merge_user_traffic` clamps each counter to `i64` and adds with saturation, one record at a time, and
`merge_online_ips` sorts the list again after each record.  Both have a closed form: nothing a record adds is
negative, so saturating at every step is clamping the sum once (`saturatingAdd_clamp`), and the list of addresses
is a strictly increasing one, which its members determine (`AddressUnion.unique`).  `SnapshotExact` is the
invariant of the loop, and since neither form reads the order of the records, no order matters.
-/

namespace KeliNode

open Lib

/-! ## Lists that stand for sets -/

section

variable {α : Type} [BEq α] [LawfulBEq α]

/-- The push of `merge_online_ips`. -/
def pushNew (entry : List α) (a : α) : List α := if entry.contains a then entry else entry ++ [a]

theorem nodup_pushNew {entry : List α} (h : entry.Nodup) (a : α) : (pushNew entry a).Nodup := by
  unfold pushNew
  by_cases ha : a ∈ entry
  · simpa [ha] using h
  · simp only [List.contains_iff_mem, ha, if_false]
    exact List.nodup_append.2 ⟨h, by simp, by
      intro x hx y hy hxy
      rw [List.mem_singleton.1 hy] at hxy
      exact ha (hxy ▸ hx)⟩

theorem mem_pushNew {entry : List α} {a b : α} : b ∈ pushNew entry a ↔ b ∈ entry ∨ b = a := by
  unfold pushNew
  by_cases ha : a ∈ entry
  · simp only [List.contains_iff_mem, ha, if_true]
    exact ⟨Or.inl, fun h => h.elim id fun hb => hb ▸ ha⟩
  · simp [ha]

theorem nodup_foldl_pushNew (values : List α) {entry : List α} (h : entry.Nodup) :
    (values.foldl pushNew entry).Nodup := by
  induction values generalizing entry with
  | nil => exact h
  | cons a values ih => exact ih (nodup_pushNew h a)

theorem mem_foldl_pushNew (values : List α) {entry : List α} {b : α} :
    b ∈ values.foldl pushNew entry ↔ b ∈ entry ∨ b ∈ values := by
  induction values generalizing entry with
  | nil => simp
  | cons a values ih => rw [List.foldl_cons, ih, mem_pushNew, List.mem_cons, or_assoc]

end

theorem nodup_of_increasing {entry : List Text} (h : entry.Pairwise fun a b => compare a b = .lt) : entry.Nodup := by
  refine h.imp ?_
  rintro a b hlt rfl
  have hself : compare a a = .eq := Std.ReflCmp.compare_self
  rw [hself] at hlt
  cases hlt

/-- Sorting a list without repeats makes it strictly increasing. -/
theorem increasing_mergeSort {entry : List Text} (h : entry.Nodup) :
    (entry.mergeSort fun a b => (compare a b).isLE).Pairwise fun a b => compare a b = .lt := by
  have hle : (entry.mergeSort fun a b => (compare a b).isLE).Pairwise fun a b => (compare a b).isLE = true := by
    apply List.pairwise_mergeSort
    · intro a b c hab hbc
      exact Std.TransCmp.isLE_trans hab hbc
    · intro a b
      have hswap : compare b a = (compare a b).swap := Std.OrientedCmp.eq_swap
      rw [hswap]
      cases compare a b <;> rfl
  have hne := (List.mergeSort_perm entry fun a b => (compare a b).isLE).nodup_iff.2 h
  refine (hle.and hne).imp ?_
  rintro a b ⟨hab, hneq⟩
  cases hcmp : compare a b with
  | lt => rfl
  | eq => exact absurd (Std.LawfulEqCmp.eq_of_compare hcmp) hneq
  | gt => simp [hcmp] at hab

/-! ## Totals -/

/-- What the counters of some records come to: each at most `i64::MAX`, and so the total. -/
def clampedTotal (bytes : List Nat) : Int := min i64Max (bytes.map u64ToI64).sum

theorem u64ToI64_nonneg (value : Nat) : 0 ≤ u64ToI64 value := by
  unfold u64ToI64 i64Max
  omega

theorem sum_u64ToI64_nonneg (bytes : List Nat) : 0 ≤ (bytes.map u64ToI64).sum := by
  induction bytes with
  | nil => simp
  | cons value bytes ih =>
    have := u64ToI64_nonneg value
    rw [List.map_cons, List.sum_cons]
    omega

/-- Saturation at every step is one clamp at the end, since a total only grows. -/
theorem saturatingAdd_clamp {total more : Int} (ht : 0 ≤ total) (hm : 0 ≤ more) :
    saturatingAdd (min i64Max total) more = min i64Max (total + more) := by
  unfold saturatingAdd i64Max
  omega

theorem clampedTotal_singleton (value : Nat) : clampedTotal [value] = u64ToI64 value := by
  simp only [clampedTotal, List.map_cons, List.map_nil, List.sum_cons, List.sum_nil]
  unfold u64ToI64
  omega

theorem clampedTotal_append (bytes : List Nat) (value : Nat) :
    clampedTotal (bytes ++ [value]) = saturatingAdd (clampedTotal bytes) (u64ToI64 value) := by
  unfold clampedTotal
  rw [saturatingAdd_clamp (sum_u64ToI64_nonneg bytes) (u64ToI64_nonneg value)]
  simp

theorem clampedTotal_perm {bytes bytes' : List Nat} (h : bytes.Perm bytes') :
    clampedTotal bytes = clampedTotal bytes' := by
  unfold clampedTotal
  rw [(h.map u64ToI64).sum_eq]

/-! ## The loop's invariant -/

/-- The records of a list that are one user's. -/
def recordsOf (uid : Nat) (records : List (KeliCoreTrafficRecord × Nat)) : List KeliCoreTrafficRecord :=
  (records.filter (·.2 = uid)).map (·.1)

@[simp]
theorem recordsOf_append_same (uid : Nat) (records : List (KeliCoreTrafficRecord × Nat))
    (record : KeliCoreTrafficRecord) :
    recordsOf uid (records ++ [(record, uid)]) = recordsOf uid records ++ [record] := by
  simp [recordsOf]

theorem recordsOf_append_other {uid other : Nat} (h : other ≠ uid) (records : List (KeliCoreTrafficRecord × Nat))
    (record : KeliCoreTrafficRecord) : recordsOf uid (records ++ [(record, other)]) = recordsOf uid records := by
  simp [recordsOf, h]

/-- A user's row: none without records, else the clamped totals. -/
def exactTraffic (uid : Nat) (records : List KeliCoreTrafficRecord) : Option UserTraffic :=
  if records = [] then none
  else some { uid, upload := clampedTotal (records.map (·.upload)), download := clampedTotal (records.map (·.download)) }

/-- The addresses of some records: absent if there is none, else strictly increasing. -/
def AddressUnion (records : List KeliCoreTrafficRecord) : Option (List Text) → Prop
  | none => ∀ record ∈ records, record.onlineIps = []
  | some ips => ips ≠ [] ∧ ips.Pairwise (fun a b => compare a b = .lt) ∧
      ∀ ip, ip ∈ ips ↔ ∃ record ∈ records, ip ∈ record.onlineIps

/-- The snapshot of some records, each with its user. -/
structure SnapshotExact (records : List (KeliCoreTrafficRecord × Nat)) (snapshot : NodeActivitySnapshot) : Prop where
  uid_once : (snapshot.traffic.map (·.uid)).Nodup
  traffic_eq : ∀ uid, snapshot.traffic.find? (·.uid = uid) = exactTraffic uid (recordsOf uid records)
  online_eq : ∀ uid, AddressUnion (recordsOf uid records) snapshot.online[uid]?

theorem map_uid_mergeUserTraffic (uid : Nat) (upload download : Int) (traffic : List UserTraffic) :
    (mergeUserTraffic uid upload download traffic).map (·.uid) = pushNew (traffic.map (·.uid)) uid := by
  induction traffic with
  | nil => rfl
  | cons item traffic ih =>
    rw [mergeUserTraffic]
    by_cases h : item.uid = uid
    · simp [h, pushNew]
    · rw [if_neg h, List.map_cons, ih]
      unfold pushNew
      by_cases hmem : uid ∈ traffic.map (·.uid)
      · simp only [List.contains_iff_mem, hmem, if_true, List.map_cons, List.mem_cons, or_true]
      · simp only [List.contains_iff_mem, hmem, if_false, List.map_cons, List.mem_cons, Ne.symm h, or_self,
          List.cons_append]

theorem find?_mergeUserTraffic_other {uid other : Nat} (h : uid ≠ other) (upload download : Int)
    (traffic : List UserTraffic) :
    (mergeUserTraffic uid upload download traffic).find? (·.uid = other) = traffic.find? (·.uid = other) := by
  induction traffic with
  | nil => simp [mergeUserTraffic, h]
  | cons item traffic ih =>
    rw [mergeUserTraffic]
    by_cases hitem : item.uid = uid
    · have hne : item.uid ≠ other := fun ho => h (hitem ▸ ho)
      simp [hitem, h]
    · rw [if_neg hitem, List.find?_cons, List.find?_cons, ih]

theorem find?_mergeUserTraffic_same (uid : Nat) (upload download : Int) (traffic : List UserTraffic) :
    (mergeUserTraffic uid upload download traffic).find? (·.uid = uid) =
      match traffic.find? (·.uid = uid) with
      | none => some { uid, upload, download }
      | some item => some { uid, upload := saturatingAdd item.upload upload,
                            download := saturatingAdd item.download download } := by
  induction traffic with
  | nil => simp [mergeUserTraffic]
  | cons item traffic ih =>
    rw [mergeUserTraffic]
    by_cases hitem : item.uid = uid
    · simp [hitem]
    · rw [if_neg hitem, List.find?_cons_of_neg (by simpa using hitem), List.find?_cons_of_neg (by simpa using hitem), ih]

/-- One more record of a user, in its row. -/
theorem exactTraffic_append (uid : Nat) (records : List KeliCoreTrafficRecord) (record : KeliCoreTrafficRecord) :
    exactTraffic uid (records ++ [record]) =
      match exactTraffic uid records with
      | none => some { uid, upload := u64ToI64 record.upload, download := u64ToI64 record.download }
      | some item => some { uid, upload := saturatingAdd item.upload (u64ToI64 record.upload),
                            download := saturatingAdd item.download (u64ToI64 record.download) } := by
  unfold exactTraffic
  by_cases h : records = []
  · subst h
    simp [clampedTotal_singleton]
  · simp [h, clampedTotal_append]

/-- One more record of a user, among its addresses. -/
theorem addressUnion_merge {online : OnlineMap} {uid : Nat} {records : List KeliCoreTrafficRecord}
    (record : KeliCoreTrafficRecord) (h : AddressUnion records online[uid]?) :
    AddressUnion (records ++ [record]) (mergeOnlineIps online uid record.onlineIps)[uid]? := by
  unfold mergeOnlineIps
  by_cases hempty : record.onlineIps = []
  · simp only [hempty, List.isEmpty_nil, if_true]
    cases honline : online[uid]? with
    | none =>
      rw [honline] at h
      intro r hr
      rcases List.mem_append.1 hr with hr | hr
      · exact h r hr
      · rw [List.mem_singleton.1 hr]
        exact hempty
    | some ips =>
      rw [honline] at h
      obtain ⟨hne, hsorted, hmem⟩ := h
      refine ⟨hne, hsorted, fun ip => (hmem ip).trans ?_⟩
      simp [or_and_right, exists_or, hempty]
  · rw [if_neg (by simpa using hempty), Std.ExtTreeMap.getElem?_insert_self]
    -- the entry before: no repeats, and the addresses of the records before
    have hentry : (online.getD uid []).Nodup ∧
        ∀ ip, ip ∈ online.getD uid [] ↔ ∃ r ∈ records, ip ∈ r.onlineIps := by
      rw [Std.ExtTreeMap.getD_eq_getD_getElem?]
      cases honline : online[uid]? with
      | none =>
        rw [honline] at h
        refine ⟨List.nodup_nil, fun ip => ⟨fun hip => absurd hip List.not_mem_nil, ?_⟩⟩
        rintro ⟨r, hr, hip⟩
        rw [h r hr] at hip
        exact absurd hip List.not_mem_nil
      | some ips =>
        rw [honline] at h
        exact ⟨nodup_of_increasing h.2.1, h.2.2⟩
    have hmem : ∀ ip, ip ∈ (record.onlineIps.foldl pushNew (online.getD uid [])).mergeSort
        (fun a b => (compare a b).isLE) ↔ ∃ r ∈ records ++ [record], ip ∈ r.onlineIps := by
      intro ip
      rw [List.mem_mergeSort, mem_foldl_pushNew, hentry.2]
      simp [or_and_right, exists_or]
    refine ⟨?_, increasing_mergeSort (nodup_foldl_pushNew _ hentry.1), hmem⟩
    obtain ⟨ip, hip⟩ := List.exists_mem_of_ne_nil _ hempty
    exact List.ne_nil_of_mem ((hmem ip).2 ⟨record, by simp, hip⟩)

theorem getElem?_mergeOnlineIps_other {online : OnlineMap} {uid other : Nat} (h : uid ≠ other) (ips : List Text) :
    (mergeOnlineIps online uid ips)[other]? = online[other]? := by
  unfold mergeOnlineIps
  split
  · rfl
  · rw [Std.ExtTreeMap.getElem?_insert, if_neg (by simpa using h)]

/-- One pass of the loop keeps the snapshot exact. -/
theorem SnapshotExact.add {records : List (KeliCoreTrafficRecord × Nat)} {snapshot : NodeActivitySnapshot}
    (h : SnapshotExact records snapshot) (record : KeliCoreTrafficRecord) (uid : Nat) :
    SnapshotExact (records ++ [(record, uid)]) (snapshot.add record uid) := by
  refine ⟨?_, fun other => ?_, fun other => ?_⟩
  · simp only [NodeActivitySnapshot.add, map_uid_mergeUserTraffic]
    exact nodup_pushNew h.uid_once uid
  · by_cases ho : uid = other
    · subst ho
      simp only [NodeActivitySnapshot.add, find?_mergeUserTraffic_same, recordsOf_append_same, exactTraffic_append,
        h.traffic_eq]
    · simp only [NodeActivitySnapshot.add, find?_mergeUserTraffic_other ho, recordsOf_append_other ho, h.traffic_eq]
  · by_cases ho : uid = other
    · subst ho
      rw [recordsOf_append_same]
      exact addressUnion_merge record (h.online_eq uid)
    · rw [recordsOf_append_other ho]
      simpa only [NodeActivitySnapshot.add, getElem?_mergeOnlineIps_other ho] using h.online_eq other

theorem snapshotExact_empty : SnapshotExact [] {} := by
  refine ⟨List.nodup_nil, fun uid => rfl, fun uid => ?_⟩
  simp [AddressUnion, recordsOf]

/-- The sum of any records is exact: the run lemma of the loop. -/
theorem snapshotExact_sumRecords (records : List (KeliCoreTrafficRecord × Nat)) :
    SnapshotExact records (sumRecords {} records) := by
  induction records using List.reverseRec with
  | nil => exact snapshotExact_empty
  | append_singleton records record ih =>
    have hstep : sumRecords {} (records ++ [record]) = (sumRecords {} records).add record.1 record.2 := by
      simp [sumRecords]
    rw [hstep]
    exact ih.add record.1 record.2

/-! ## No order matters -/

theorem exactTraffic_perm (uid : Nat) {records records' : List KeliCoreTrafficRecord} (h : records.Perm records') :
    exactTraffic uid records = exactTraffic uid records' := by
  unfold exactTraffic
  by_cases hnil : records = []
  · subst hnil
    rw [List.nil_perm.1 h]
  · have hnil' : records' ≠ [] := by
      rintro rfl
      exact hnil (List.perm_nil.1 h)
    rw [if_neg hnil, if_neg hnil', clampedTotal_perm (h.map _), clampedTotal_perm (h.map _)]

/-- The members of a strictly increasing list determine it. -/
theorem AddressUnion.unique {records records' : List KeliCoreTrafficRecord} (h : records.Perm records') :
    ∀ {ips ips' : Option (List Text)}, AddressUnion records ips → AddressUnion records' ips' → ips = ips'
  | none, none, _, _ => rfl
  | none, some ips', hips, hips' => by
    obtain ⟨ip, hip⟩ := List.exists_mem_of_ne_nil _ hips'.1
    obtain ⟨record, hr, hmem⟩ := (hips'.2.2 ip).1 hip
    rw [hips record (h.mem_iff.2 hr)] at hmem
    exact absurd hmem List.not_mem_nil
  | some ips, none, hips, hips' => by
    obtain ⟨ip, hip⟩ := List.exists_mem_of_ne_nil _ hips.1
    obtain ⟨record, hr, hmem⟩ := (hips.2.2 ip).1 hip
    rw [hips' record (h.mem_iff.1 hr)] at hmem
    exact absurd hmem List.not_mem_nil
  | some ips, some ips', hips, hips' => by
    have hmem : ∀ ip, ip ∈ ips ↔ ip ∈ ips' := by
      intro ip
      rw [hips.2.2, hips'.2.2]
      simp only [h.mem_iff]
    have hperm : ips.Perm ips' :=
      (List.perm_ext_iff_of_nodup (nodup_of_increasing hips.2.1) (nodup_of_increasing hips'.2.1)).2 hmem
    have hanti : ∀ a b, a ∈ ips → b ∈ ips' → compare a b = .lt → compare b a = .lt → a = b :=
      fun a b _ _ hab hba => absurd hba (Std.OrientedCmp.not_lt_of_lt hab)
    rw [List.Perm.eq_of_pairwise hanti hips.2.1 hips'.2.1 hperm]

/-! ## The snapshots of a cycle -/

/-- The records that the plan resolves to a tag and a user. -/
def resolvedTo (corePlan : CorePlan) (lookup : KeliCoreUserIdLookup) (records : List KeliCoreTrafficRecord)
    (tag : Text) (uid : Nat) : List KeliCoreTrafficRecord :=
  records.filter fun record => keliCoreRecordReportTarget corePlan record lookup = some (tag, uid)

theorem recordsOf_recordsFor (corePlan : CorePlan) (lookup : KeliCoreUserIdLookup)
    (records : List KeliCoreTrafficRecord) (tag : Text) (uid : Nat) :
    recordsOf uid (recordsFor corePlan lookup records tag) = resolvedTo corePlan lookup records tag uid := by
  induction records with
  | nil => rfl
  | cons record records ih =>
    unfold resolvedTo at ih ⊢
    by_cases h : ∃ other, keliCoreRecordReportTarget corePlan record lookup = some (tag, other)
    · obtain ⟨other, h⟩ := h
      rw [recordsFor_cons_some h]
      by_cases ho : other = uid
      · subst ho
        rw [List.filter_cons_of_pos (by simpa using h), ← ih]
        simp [recordsOf]
      · rw [List.filter_cons_of_neg (by simp [h, ho]), ← ih]
        simp [recordsOf, ho]
    · rw [recordsFor_cons_other fun other ho => h ⟨other, ho⟩, ih, List.filter_cons_of_neg]
      simpa using fun ho => h ⟨uid, ho⟩

theorem recordsFor_ne_nil {corePlan : CorePlan} {lookup : KeliCoreUserIdLookup} {records : List KeliCoreTrafficRecord}
    {tag : Text} : recordsFor corePlan lookup records tag ≠ [] ↔
      ∃ uid, ∃ record ∈ records, keliCoreRecordReportTarget corePlan record lookup = some (tag, uid) := by
  constructor
  · intro h
    obtain ⟨⟨record, uid⟩, hmem⟩ := List.exists_mem_of_ne_nil _ h
    have hof : record ∈ recordsOf uid (recordsFor corePlan lookup records tag) :=
      List.mem_map.2 ⟨(record, uid), List.mem_filter.2 ⟨hmem, by simp⟩, rfl⟩
    rw [recordsOf_recordsFor] at hof
    obtain ⟨hr, htarget⟩ := List.mem_filter.1 hof
    exact ⟨uid, record, hr, by simpa using htarget⟩
  · rintro ⟨uid, record, hr, htarget⟩
    exact List.ne_nil_of_mem (mem_recordsFor hr htarget)

/-- The row of a user in a tag's snapshot. -/
def ActivitySnapshots.trafficOf (snapshots : ActivitySnapshots) (tag : Text) (uid : Nat) : Option UserTraffic :=
  snapshots[tag]?.bind fun snapshot => snapshot.traffic.find? (·.uid = uid)

/-- The addresses of a user in a tag's snapshot. -/
def ActivitySnapshots.onlineOf (snapshots : ActivitySnapshots) (tag : Text) (uid : Nat) : Option (List Text) :=
  snapshots[tag]?.bind fun snapshot => snapshot.online[uid]?

theorem trafficOf_snapshots (corePlan : CorePlan) (records : List KeliCoreTrafficRecord)
    (lookup : KeliCoreUserIdLookup) (tag : Text) (uid : Nat) :
    (keliCoreTrafficSnapshotsWithUserLookup corePlan records lookup).trafficOf tag uid =
      exactTraffic uid (resolvedTo corePlan lookup records tag uid) := by
  unfold ActivitySnapshots.trafficOf
  rw [snapshots_spec, ← recordsOf_recordsFor]
  by_cases h : recordsFor corePlan lookup records tag = []
  · rw [if_pos h, h]
    rfl
  · rw [if_neg h]
    exact (snapshotExact_sumRecords _).traffic_eq uid

theorem onlineOf_snapshots (corePlan : CorePlan) (records : List KeliCoreTrafficRecord)
    (lookup : KeliCoreUserIdLookup) (tag : Text) (uid : Nat) :
    AddressUnion (resolvedTo corePlan lookup records tag uid)
      ((keliCoreTrafficSnapshotsWithUserLookup corePlan records lookup).onlineOf tag uid) := by
  unfold ActivitySnapshots.onlineOf
  rw [snapshots_spec, ← recordsOf_recordsFor]
  by_cases h : recordsFor corePlan lookup records tag = []
  · rw [if_pos h, h]
    simp [AddressUnion, recordsOf]
  · rw [if_neg h]
    exact (snapshotExact_sumRecords _).online_eq uid

/-- **Aggregation is exact**: a snapshot for each tag some record resolves to, each user once with the clamped
totals and the union of the addresses, whatever the order of the records. -/
theorem aggregation_exact (corePlan : CorePlan) (lookup : KeliCoreUserIdLookup)
    (records records' : List KeliCoreTrafficRecord) (hperm : records.Perm records') :
    let snapshots := keliCoreTrafficSnapshotsWithUserLookup corePlan records lookup
    let snapshots' := keliCoreTrafficSnapshotsWithUserLookup corePlan records' lookup
    (∀ tag, tag ∈ snapshots ↔
      ∃ uid, ∃ record ∈ records, keliCoreRecordReportTarget corePlan record lookup = some (tag, uid)) ∧
    (∀ (tag : Text) (snapshot : NodeActivitySnapshot), snapshots[tag]? = some snapshot → (snapshot.traffic.map (·.uid)).Nodup) ∧
    (∀ tag uid, snapshots.trafficOf tag uid = exactTraffic uid (resolvedTo corePlan lookup records tag uid)) ∧
    (∀ tag uid, AddressUnion (resolvedTo corePlan lookup records tag uid) (snapshots.onlineOf tag uid)) ∧
    ∀ tag uid, snapshots'.trafficOf tag uid = snapshots.trafficOf tag uid ∧
      snapshots'.onlineOf tag uid = snapshots.onlineOf tag uid := by
  intro snapshots snapshots'
  refine ⟨fun tag => ?_, fun tag snapshot h => ?_, trafficOf_snapshots corePlan records lookup,
    onlineOf_snapshots corePlan records lookup, fun tag uid => ?_⟩
  · rw [← recordsFor_ne_nil, Std.ExtTreeMap.mem_iff_isSome_getElem?, snapshots_spec]
    split <;> simp [*]
  · replace h := (snapshots_spec corePlan records lookup tag).symm.trans h
    split at h
    · cases h
    · rw [← Option.some.inj h]
      exact (snapshotExact_sumRecords _).uid_once
  · have hresolved : (resolvedTo corePlan lookup records' tag uid).Perm (resolvedTo corePlan lookup records tag uid) :=
      hperm.symm.filter _
    refine ⟨?_, AddressUnion.unique hresolved (onlineOf_snapshots _ _ _ _ _) (onlineOf_snapshots _ _ _ _ _)⟩
    rw [trafficOf_snapshots, trafficOf_snapshots, exactTraffic_perm uid hresolved]

/-- A record that fills the upload counter alone. -/
def fullRecord : KeliCoreTrafficRecord :=
  { nodeTag := "node-a", userUuid := "uuid-a", upload := 2 ^ 64 - 1, download := 2, onlineIps := ["10.0.0.2", "10.0.0.1"] }

def smallRecord : KeliCoreTrafficRecord :=
  { nodeTag := "node-a|port:2100", userUuid := "uuid-a", upload := 5, download := 1, onlineIps := ["10.0.0.2"] }

theorem aggregation_exact_swapped :
    let snapshots := keliCoreTrafficSnapshotsWithUserLookup oneUserPlan [fullRecord, smallRecord] ∅
    let snapshots' := keliCoreTrafficSnapshotsWithUserLookup oneUserPlan [smallRecord, fullRecord] ∅
    [fullRecord, smallRecord].Perm [smallRecord, fullRecord] ∧
    snapshots.trafficOf "node-a" 7 = some { uid := 7, upload := i64Max, download := 3 } ∧
    snapshots'.trafficOf "node-a" 7 = snapshots.trafficOf "node-a" 7 ∧
    snapshots'.onlineOf "node-a" 7 = snapshots.onlineOf "node-a" 7 := by
  have hperm : [fullRecord, smallRecord].Perm [smallRecord, fullRecord] := List.Perm.swap _ _ _
  obtain ⟨_, _, htraffic, _, hsame⟩ := aggregation_exact oneUserPlan ∅ _ _ hperm
  refine ⟨hperm, (htraffic _ _).trans ?_, hsame _ _⟩
  decide +kernel

end KeliNode
