import KeliNode.Report.Activity

/-!
# Where a record of a cycle goes

A snapshot is the sum of exactly the records whose report target is its tag (`snapshots_spec`), and a batch
makes one call for each target that has a snapshot (`batch_spec`).  Retention asks for the tag again, by a
different lookup; where no inbound tag is another one with a port suffix, the two lookups agree
(`reportTag_of_reportTarget`).  So a record whose user is known and whose node has one target is either in a
snapshot the panel took or among the records that are kept (`records_partitioned`); a record whose user is
unknown is in no snapshot.
-/

namespace KeliNode

open Lib

/-! ## Tags -/

theorem isPrefixOf?_eq_some {α : Type} [BEq α] [LawfulBEq α] : ∀ {xs ys zs : List α},
    List.isPrefixOf? xs ys = some zs ↔ ys = xs ++ zs
  | [], ys, zs => by simp [List.isPrefixOf?]
  | x :: xs, [], zs => by simp [List.isPrefixOf?]
  | x :: xs, y :: ys, zs => by
    simp only [List.isPrefixOf?, List.cons_append, List.cons.injEq]
    by_cases h : x = y
    · subst h
      simp [@isPrefixOf?_eq_some α _ _ xs ys zs]
    · simp [h, Ne.symm h]

/-- A record tag belongs to an inbound: it is the inbound's tag, perhaps with a port suffix. -/
def HasTag (recordTag inboundTag : Text) : Prop :=
  recordTag = inboundTag ∨
    ∃ port : Text, port ≠ [] ∧ (∀ c ∈ port, c.isDigit = true) ∧ recordTag = inboundTag ++ ("|port:" : Text) ++ port

theorem normalizeKeliCoreRecordTag_eq_some {recordTag inboundTag tag : Text} :
    normalizeKeliCoreRecordTag recordTag inboundTag = some tag ↔ HasTag recordTag inboundTag ∧ tag = inboundTag := by
  unfold normalizeKeliCoreRecordTag HasTag
  by_cases heq : recordTag = inboundTag
  · rw [if_pos heq, Option.some.injEq]
    exact ⟨fun h => ⟨Or.inl heq, h.symm⟩, fun h => h.2.symm⟩
  · rw [if_neg heq]
    constructor
    · intro h
      split at h
      · cases h
      · rename_i suffix hsuffix
        split at h
        · rename_i port hport
          rw [isPrefixOf?_eq_some] at hsuffix hport
          split at h
          · rename_i hdigits
            simp only [Bool.and_eq_true, Bool.not_eq_true', List.isEmpty_eq_false_iff, List.all_eq_true] at hdigits
            refine ⟨Or.inr ⟨port, hdigits.1, hdigits.2, ?_⟩, (Option.some.inj h).symm⟩
            rw [hsuffix, hport, List.append_assoc]
          · cases h
        · cases h
    · rintro ⟨h | ⟨port, hne, hdigits, hport⟩, rfl⟩
      · exact absurd h heq
      · have hsuffix : List.isPrefixOf? tag recordTag = some (("|port:" : Text) ++ port) := by
          rw [isPrefixOf?_eq_some, hport, List.append_assoc]
        have hdrop : List.isPrefixOf? ("|port:" : Text) (("|port:" : Text) ++ port) = some port :=
          isPrefixOf?_eq_some.2 rfl
        simp only [hsuffix, hdrop]
        rw [if_pos]
        simpa [hne] using hdigits

/-- No inbound tag of the plan is another one with a port suffix. -/
def TagsApart (corePlan : CorePlan) : Prop :=
  ∀ a ∈ corePlan.inbounds, ∀ b ∈ corePlan.inbounds, HasTag a.tag b.tag → a.tag = b.tag

/-- Digits cannot hide a port suffix, so a record tag is cut in one way only. -/
theorem portSuffix_inj {a b p q : Text} (hp : ∀ c ∈ p, c.isDigit = true) (hq : ∀ c ∈ q, c.isDigit = true)
    (h : a ++ ("|port:" : Text) ++ p = b ++ ("|port:" : Text) ++ q) : a = b := by
  have hcut : ∀ {x : Text}, (∀ c ∈ x, c.isDigit = true) → '|' ∉ (("port:" : Text) ++ x) := by
    intro x hx hmem
    rcases List.mem_append.1 hmem with hm | hm
    · exact absurd hm (by decide)
    · exact absurd (hx _ hm) (by decide)
  have hsplit : ∀ a p : Text, a ++ ("|port:" : Text) ++ p = a ++ '|' :: (("port:" : Text) ++ p) := by
    intro a p
    rw [List.append_assoc]
    rfl
  have hrev : (("port:" : Text) ++ p).reverse ++ '|' :: a.reverse = (("port:" : Text) ++ q).reverse ++ '|' :: b.reverse := by
    rw [hsplit, hsplit] at h
    have := congrArg List.reverse h
    simp only [List.reverse_append, List.reverse_cons, List.append_assoc, List.singleton_append] at this ⊢
    exact this
  have hfree : ∀ {x : Text}, (∀ c ∈ x, c.isDigit = true) → '|' ∉ (("port:" : Text) ++ x).reverse :=
    fun hx hm => hcut hx (List.mem_reverse.1 hm)
  exact List.reverse_injective (append_cons_inj (hfree hp) (hfree hq) hrev).2

/-- Where tags are apart, a record tag belongs to one inbound tag only. -/
theorem hasTag_unique {corePlan : CorePlan} (hapart : TagsApart corePlan) {recordTag : Text} {a b : InboundPlan}
    (ha : a ∈ corePlan.inbounds) (hb : b ∈ corePlan.inbounds) (hta : HasTag recordTag a.tag)
    (htb : HasTag recordTag b.tag) : a.tag = b.tag := by
  rcases hta with rfl | ⟨p, hp, hpd, rfl⟩
  · exact hapart a ha b hb htb
  · rcases htb with hb' | ⟨q, hq, hqd, heq⟩
    · have hba : HasTag b.tag a.tag := Or.inr ⟨p, hp, hpd, hb'.symm⟩
      exact (hapart b hb a ha hba).symm
    · exact portSuffix_inj hpd hqd heq

theorem reportTarget_eq_some {corePlan : CorePlan} {record : KeliCoreTrafficRecord} {lookup : KeliCoreUserIdLookup}
    {tag : Text} {uid : Nat} (h : keliCoreRecordReportTarget corePlan record lookup = some (tag, uid)) :
    ∃ inbound ∈ corePlan.inbounds, HasTag record.nodeTag inbound.tag ∧ tag = inbound.tag ∧
      keliCoreRecordUid record lookup tag inbound = some uid := by
  obtain ⟨inbound, hmem, hsome⟩ := List.exists_of_findSome?_eq_some h
  simp only [Option.bind_eq_some_iff, Option.map_eq_some_iff] at hsome
  obtain ⟨nodeTag, hnorm, uid', huid, heq⟩ := hsome
  obtain ⟨hhas, rfl⟩ := normalizeKeliCoreRecordTag_eq_some.1 hnorm
  obtain ⟨rfl, rfl⟩ := Prod.mk.inj heq
  exact ⟨inbound, hmem, hhas, rfl, huid⟩

theorem reportTag_eq_some {corePlan : CorePlan} {record : KeliCoreTrafficRecord} {tag : Text}
    (h : keliCoreRecordReportTag corePlan record = some tag) :
    ∃ inbound ∈ corePlan.inbounds, HasTag record.nodeTag inbound.tag ∧ tag = inbound.tag := by
  obtain ⟨inbound, hmem, hsome⟩ := List.exists_of_findSome?_eq_some h
  obtain ⟨hhas, rfl⟩ := normalizeKeliCoreRecordTag_eq_some.1 hsome
  exact ⟨inbound, hmem, hhas, rfl⟩

/-- **The two lookups agree** on a record that can be reported. -/
theorem reportTag_of_reportTarget {corePlan : CorePlan} (hapart : TagsApart corePlan)
    {record : KeliCoreTrafficRecord} {lookup : KeliCoreUserIdLookup} {tag : Text} {uid : Nat}
    (h : keliCoreRecordReportTarget corePlan record lookup = some (tag, uid)) :
    keliCoreRecordReportTag corePlan record = some tag := by
  obtain ⟨inbound, hmem, hhas, rfl, _⟩ := reportTarget_eq_some h
  cases htag : keliCoreRecordReportTag corePlan record with
  | none =>
    have hnone := List.findSome?_eq_none_iff.1 htag inbound hmem
    rw [normalizeKeliCoreRecordTag_eq_some.2 ⟨hhas, rfl⟩] at hnone
    cases hnone
  | some other =>
    obtain ⟨inbound', hmem', hhas', rfl⟩ := reportTag_eq_some htag
    rw [hasTag_unique hapart hmem' hmem hhas' hhas]

/-! ## Snapshots -/

/-- The records reported under a tag, each with its user id. -/
def recordsFor (corePlan : CorePlan) (lookup : KeliCoreUserIdLookup) (records : List KeliCoreTrafficRecord)
    (tag : Text) : List (KeliCoreTrafficRecord × Nat) :=
  records.filterMap fun record =>
    match keliCoreRecordReportTarget corePlan record lookup with
    | some (nodeTag, uid) => if nodeTag = tag then some (record, uid) else none
    | none => none

def sumRecords (snapshot : NodeActivitySnapshot) (records : List (KeliCoreTrafficRecord × Nat)) :
    NodeActivitySnapshot :=
  records.foldl (fun snapshot (record, uid) => snapshot.add record uid) snapshot

theorem recordsFor_cons_some {corePlan : CorePlan} {lookup : KeliCoreUserIdLookup} {record : KeliCoreTrafficRecord}
    {records : List KeliCoreTrafficRecord} {tag : Text} {uid : Nat}
    (h : keliCoreRecordReportTarget corePlan record lookup = some (tag, uid)) :
    recordsFor corePlan lookup (record :: records) tag = (record, uid) :: recordsFor corePlan lookup records tag := by
  simp [recordsFor, h]

theorem recordsFor_cons_other {corePlan : CorePlan} {lookup : KeliCoreUserIdLookup} {record : KeliCoreTrafficRecord}
    {records : List KeliCoreTrafficRecord} {tag : Text}
    (h : ∀ uid, keliCoreRecordReportTarget corePlan record lookup ≠ some (tag, uid)) :
    recordsFor corePlan lookup (record :: records) tag = recordsFor corePlan lookup records tag := by
  cases ht : keliCoreRecordReportTarget corePlan record lookup with
  | none => simp [recordsFor, ht]
  | some target =>
    have hne : target.1 ≠ tag := by
      rintro rfl
      exact h target.2 ht
    simp [recordsFor, ht, hne]

theorem mem_recordsFor {corePlan : CorePlan} {lookup : KeliCoreUserIdLookup} {record : KeliCoreTrafficRecord}
    {records : List KeliCoreTrafficRecord} {tag : Text} {uid : Nat} (hr : record ∈ records)
    (h : keliCoreRecordReportTarget corePlan record lookup = some (tag, uid)) :
    (record, uid) ∈ recordsFor corePlan lookup records tag := by
  refine List.mem_filterMap.2 ⟨record, hr, ?_⟩
  rw [h]
  exact if_pos rfl

/-- The loop adds to each tag's snapshot the records reported under that tag, in order. -/
theorem foldl_addRecord (corePlan : CorePlan) (lookup : KeliCoreUserIdLookup) (tag : Text)
    (records : List KeliCoreTrafficRecord) (snapshots : ActivitySnapshots) :
    (records.foldl (addRecord corePlan lookup) snapshots)[tag]? =
      if recordsFor corePlan lookup records tag = [] then snapshots[tag]?
      else some (sumRecords (snapshots.getD tag {}) (recordsFor corePlan lookup records tag)) := by
  induction records generalizing snapshots with
  | nil => simp [recordsFor]
  | cons record records ih =>
    rw [List.foldl_cons, ih]
    by_cases h : ∃ uid, keliCoreRecordReportTarget corePlan record lookup = some (tag, uid)
    · obtain ⟨uid, h⟩ := h
      have hadd : addRecord corePlan lookup snapshots record =
          snapshots.insert tag ((snapshots.getD tag {}).add record uid) := by
        simp only [addRecord, h]
      rw [recordsFor_cons_some h, hadd]
      by_cases hrest : recordsFor corePlan lookup records tag = []
      · simp [hrest, sumRecords]
      · simp [hrest, sumRecords]
    · have hother : ∀ uid, keliCoreRecordReportTarget corePlan record lookup ≠ some (tag, uid) :=
        fun uid hu => h ⟨uid, hu⟩
      have hadd : (addRecord corePlan lookup snapshots record)[tag]? = snapshots[tag]? ∧
          (addRecord corePlan lookup snapshots record).getD tag {} = snapshots.getD tag {} := by
        unfold addRecord
        cases ht : keliCoreRecordReportTarget corePlan record lookup with
        | none => exact ⟨rfl, rfl⟩
        | some target =>
          have hne : target.1 ≠ tag := by
            rintro rfl
            exact hother target.2 ht
          simp [Std.ExtTreeMap.getElem?_insert, Std.ExtTreeMap.getD_insert, hne]
      rw [recordsFor_cons_other hother, hadd.1, hadd.2]

/-- **Aggregation**: a tag's snapshot is the sum of exactly the records reported under it. -/
theorem snapshots_spec (corePlan : CorePlan) (records : List KeliCoreTrafficRecord) (lookup : KeliCoreUserIdLookup)
    (tag : Text) :
    (keliCoreTrafficSnapshotsWithUserLookup corePlan records lookup)[tag]? =
      if recordsFor corePlan lookup records tag = [] then none
      else some (sumRecords {} (recordsFor corePlan lookup records tag)) := by
  unfold keliCoreTrafficSnapshotsWithUserLookup
  rw [foldl_addRecord]
  simp

theorem mergeUserTraffic_ne_nil (uid : Nat) (upload download : Int) (traffic : List UserTraffic) :
    mergeUserTraffic uid upload download traffic ≠ [] := by
  cases traffic with
  | nil => simp [mergeUserTraffic]
  | cons item traffic =>
    rw [mergeUserTraffic]
    split <;> simp

theorem sumRecords_traffic_ne_nil {records : List (KeliCoreTrafficRecord × Nat)} (hne : records ≠ [])
    (snapshot : NodeActivitySnapshot) : (sumRecords snapshot records).traffic ≠ [] := by
  induction records generalizing snapshot with
  | nil => exact absurd rfl hne
  | cons record records ih =>
    by_cases hrest : records = []
    · subst hrest
      exact mergeUserTraffic_ne_nil _ _ _ _
    · exact ih hrest _

/-- A snapshot is there because some record is in it, so it is never empty. -/
theorem snapshot_traffic_ne_nil {corePlan : CorePlan} {records : List KeliCoreTrafficRecord}
    {lookup : KeliCoreUserIdLookup} {tag : Text} {snapshot : NodeActivitySnapshot}
    (h : (keliCoreTrafficSnapshotsWithUserLookup corePlan records lookup)[tag]? = some snapshot) :
    snapshot.traffic ≠ [] := by
  rw [snapshots_spec] at h
  split at h
  · cases h
  · rename_i hne
    rw [← Option.some.inj h]
    exact sumRecords_traffic_ne_nil hne _

theorem NodeActivitySnapshot.isEmpty_of_traffic {snapshot : NodeActivitySnapshot} (h : snapshot.traffic ≠ []) :
    snapshot.isEmpty = false := by
  simp [NodeActivitySnapshot.isEmpty, h]

/-! ## Calls -/

section

variable {σ : Type}

theorem reportLegacyOnline_skipped {sender : NodeActivitySender σ} {snapshot : NodeActivitySnapshot}
    {start report : NodeActivityReport} {s : σ} (hstart : start.skipped = false)
    (h : (reportLegacyOnline sender snapshot start s).1 = .ok report) : report.skipped = false := by
  unfold reportLegacyOnline at h
  split at h
  · rw [← Except.ok.inj h]
    exact hstart
  · split at h
    · cases h
    · rw [← Except.ok.inj h]
      exact hstart

/-- Only an empty snapshot is skipped. -/
theorem reportActivityToPanel_skipped {client : Except Text (NodeActivitySender σ)} {snapshot : NodeActivitySnapshot}
    {report : NodeActivityReport} {s : σ} (hne : snapshot.isEmpty = false)
    (h : (reportActivityToPanel client snapshot s).1 = .ok report) : report.skipped = false := by
  unfold reportActivityToPanel reportActivityWithFallback at h
  simp only [hne, Bool.false_eq_true, if_false] at h
  split at h
  · cases h
  · split at h
    · cases h
    · rw [← Except.ok.inj h]
    · split at h
      · exact reportLegacyOnline_skipped rfl h
      · split at h
        · cases h
        · exact reportLegacyOnline_skipped rfl h

/-- One call of the batch loop. -/
structure ReportCall where
  target : NodeActivityTarget
  snapshot : NodeActivitySnapshot
  answer : Except Text NodeActivityReport

def ReportCall.failure (call : ReportCall) : Option NodeActivityFailure :=
  match call.answer with
  | .ok _ => none
  | .error error => some { tag := call.target.tag, error }

/-- The panel took the snapshot: `Ok` with `skipped = false`. -/
def ReportCall.delivered (call : ReportCall) : Bool :=
  match call.answer with
  | .ok report => !report.skipped
  | .error _ => false

/-- A callback that also writes down its calls. -/
def recorded (reportOne : NodeActivityTarget → NodeActivitySnapshot → σ → Except Text NodeActivityReport × σ)
    (target : NodeActivityTarget) (snapshot : NodeActivitySnapshot) (s : σ × List ReportCall) :
    Except Text NodeActivityReport × (σ × List ReportCall) :=
  let (answer, outside) := reportOne target snapshot s.1
  (answer, outside, s.2 ++ [{ target, snapshot, answer }])

theorem record_failures (batch : NodeActivityBatchReport) (call : ReportCall) :
    (batch.record call.target.tag call.answer).failures = batch.failures ++ call.failure.toList := by
  unfold NodeActivityBatchReport.record ReportCall.failure
  cases call.answer with
  | ok report =>
    simp only
    split <;> simp
  | error error => simp

/-- What the batch loop did, from any batch and any calls before. -/
structure BatchRun (snapshots : ActivitySnapshots)
    (reportOne : NodeActivityTarget → NodeActivitySnapshot → σ → Except Text NodeActivityReport × σ)
    (targets : List NodeActivityTarget) (before after : NodeActivityBatchReport) (calls : List ReportCall) : Prop where
  targets_eq : calls.map (·.target) = targets.filter fun target => snapshots.contains target.tag
  snapshot_eq : ∀ call ∈ calls, snapshots[call.target.tag]? = some call.snapshot
  answer_eq : ∀ call ∈ calls, ∃ s, call.answer = (reportOne call.target call.snapshot s).1
  failures_eq : after.failures = before.failures ++ calls.filterMap ReportCall.failure

theorem batch_spec (snapshots : ActivitySnapshots)
    (reportOne : NodeActivityTarget → NodeActivitySnapshot → σ → Except Text NodeActivityReport × σ)
    (targets : List NodeActivityTarget) (batch : NodeActivityBatchReport) (s : σ) (earlier : List ReportCall) :
    ∃ calls,
      (reportActivityBatchWith snapshots (recorded reportOne) targets batch (s, earlier)).2.2 = earlier ++ calls ∧
      BatchRun snapshots reportOne targets batch
        (reportActivityBatchWith snapshots (recorded reportOne) targets batch (s, earlier)).1 calls ∧
      (reportActivityBatchWith snapshots (recorded reportOne) targets batch (s, earlier)).1 =
        (reportActivityBatchWith snapshots reportOne targets batch s).1 := by
  induction targets generalizing batch s earlier with
  | nil => exact ⟨[], by simp [reportActivityBatchWith], ⟨rfl, by simp, by simp, by simp [reportActivityBatchWith]⟩, rfl⟩
  | cons target targets ih =>
    simp only [reportActivityBatchWith]
    cases hsnap : snapshots[target.tag]? with
    | none =>
      obtain ⟨calls, hcalls, hrun, hsame⟩ := ih { batch with skipped := batch.skipped + 1 } s earlier
      refine ⟨calls, hcalls, ⟨?_, hrun.snapshot_eq, hrun.answer_eq, hrun.failures_eq⟩, hsame⟩
      have hnot : snapshots.contains target.tag = false := by
        rw [Std.ExtTreeMap.contains_eq_isSome_getElem?, hsnap]
        rfl
      rw [List.filter_cons_of_neg (by simp [hnot])]
      exact hrun.targets_eq
    | some snapshot =>
      have hyes : snapshots.contains target.tag = true := by
        rw [Std.ExtTreeMap.contains_eq_isSome_getElem?, hsnap]
        rfl
      let call : ReportCall := { target, snapshot, answer := (reportOne target snapshot s).1 }
      obtain ⟨calls, hcalls, hrun, hsame⟩ := ih (batch.record target.tag (reportOne target snapshot s).1)
        (reportOne target snapshot s).2 (earlier ++ [call])
      refine ⟨call :: calls, ?_, ⟨?_, ?_, ?_, ?_⟩, hsame⟩
      · simp only [recorded]
        rw [hcalls, List.append_assoc]
        rfl
      · rw [List.filter_cons_of_pos (by simpa using hyes), List.map_cons, hrun.targets_eq]
      · exact List.forall_mem_cons.2 ⟨hsnap, hrun.snapshot_eq⟩
      · exact List.forall_mem_cons.2 ⟨⟨s, rfl⟩, hrun.answer_eq⟩
      · have hstep := record_failures batch call
        refine hrun.failures_eq.trans ?_
        rw [hstep, List.append_assoc, List.filterMap_cons]
        cases call.failure <;> rfl

theorem mem_failedKeliCoreRecords {corePlan : CorePlan} {records : List KeliCoreTrafficRecord}
    {batch : NodeActivityBatchReport} {record : KeliCoreTrafficRecord} :
    record ∈ failedKeliCoreRecords corePlan records batch ↔
      record ∈ records ∧ ∃ tag, keliCoreRecordReportTag corePlan record = some tag ∧
        ∃ failure ∈ batch.failures, failure.tag = tag := by
  unfold failedKeliCoreRecords
  by_cases hnone : batch.failures = []
  · simp [hnone]
  · rw [if_neg (by simpa using hnone), List.mem_filter]
    refine and_congr_right fun _ => ?_
    cases keliCoreRecordReportTag corePlan record with
    | none => simp
    | some tag => simp [eq_comm, and_comm]

/-- What becomes of one record of a cycle. -/
structure RecordFate (corePlan : CorePlan) (lookup : KeliCoreUserIdLookup) (targets : List NodeActivityTarget)
    (calls : List ReportCall) (kept : List KeliCoreTrafficRecord) (record : KeliCoreTrafficRecord) : Prop where
  kept_iff : record ∈ kept ↔ ∃ call ∈ calls,
    keliCoreRecordReportTag corePlan record = some call.target.tag ∧ call.failure.isSome = true
  tags_agree : ∀ tag uid, keliCoreRecordReportTarget corePlan record lookup = some (tag, uid) →
    keliCoreRecordReportTag corePlan record = some tag
  /-- with a known user and one target, either delivered once or kept -/
  delivered_or_kept : ∀ tag uid, keliCoreRecordReportTarget corePlan record lookup = some (tag, uid) →
    (targets.filter (·.tag = tag)).length = 1 →
    ((calls.filter fun call => call.target.tag = tag && call.delivered).length = 1 ∧ record ∉ kept) ∨
    ((calls.filter fun call => call.target.tag = tag && call.delivered) = [] ∧ record ∈ kept)
  /-- without a target, neither -/
  no_target : ∀ tag uid, keliCoreRecordReportTarget corePlan record lookup = some (tag, uid) →
    (∀ target ∈ targets, target.tag ≠ tag) → (∀ call ∈ calls, call.target.tag ≠ tag) ∧ record ∉ kept

section

variable {corePlan : CorePlan} {lookup : KeliCoreUserIdLookup} {records : List KeliCoreTrafficRecord}
  {targets : List NodeActivityTarget} {client : NodeActivityTarget → Except Text (NodeActivitySender σ)}
  {after : NodeActivityBatchReport} {calls : List ReportCall}
  (hrun : BatchRun (keliCoreTrafficSnapshotsWithUserLookup corePlan records lookup)
    (fun target => reportActivityToPanel (client target)) targets {} after calls)
include hrun

theorem kept_iff_failed_call {record : KeliCoreTrafficRecord} (hr : record ∈ records) :
    record ∈ failedKeliCoreRecords corePlan records after ↔ ∃ call ∈ calls,
      keliCoreRecordReportTag corePlan record = some call.target.tag ∧ call.failure.isSome = true := by
  rw [mem_failedKeliCoreRecords, hrun.failures_eq]
  constructor
  · rintro ⟨_, tag, htag, failure, hf, rfl⟩
    obtain ⟨call, hc, hcall⟩ := List.mem_filterMap.1 (by simpa using hf)
    refine ⟨call, hc, ?_, by rw [hcall]; rfl⟩
    unfold ReportCall.failure at hcall
    split at hcall
    · cases hcall
    · rw [htag, ← Option.some.inj hcall]
  · rintro ⟨call, hc, htag, hfail⟩
    obtain ⟨failure, hfailure⟩ := Option.isSome_iff_exists.1 hfail
    refine ⟨hr, call.target.tag, htag, failure, by simpa using ⟨call, hc, hfailure⟩, ?_⟩
    unfold ReportCall.failure at hfailure
    split at hfailure
    · cases hfailure
    · rw [← Option.some.inj hfailure]

/-- A call either fails or delivers. -/
theorem delivered_iff_not_failure {call : ReportCall} (hc : call ∈ calls) :
    call.delivered = true ↔ call.failure.isSome = false := by
  obtain ⟨s, hs⟩ := hrun.answer_eq call hc
  have hne := NodeActivitySnapshot.isEmpty_of_traffic (snapshot_traffic_ne_nil (hrun.snapshot_eq call hc))
  unfold ReportCall.delivered ReportCall.failure
  cases hanswer : call.answer with
  | error error => simp
  | ok report =>
    rw [hanswer] at hs
    simp [reportActivityToPanel_skipped hne hs.symm]

/-- The calls under a tag that has a snapshot are one for each of its targets. -/
theorem calls_of_tag {tag : Text} (h : (keliCoreTrafficSnapshotsWithUserLookup corePlan records lookup).contains tag) :
    (calls.filter (·.target.tag = tag)).map (·.target) = targets.filter (·.tag = tag) := by
  have hfilter : ∀ (p : NodeActivityTarget → Bool) (xs : List ReportCall),
      (xs.filter fun call => p call.target).map (·.target) = (xs.map (·.target)).filter p := by
    intro p xs
    rw [List.filter_map]
    rfl
  rw [hfilter (fun target => decide (target.tag = tag)), hrun.targets_eq, List.filter_filter]
  refine List.filter_congr fun target _ => ?_
  by_cases ht : target.tag = tag
  · rw [ht, h, Bool.and_true]
  · simp [ht]

theorem delivered_or_kept {record : KeliCoreTrafficRecord} (hr : record ∈ records) {tag : Text} {uid : Nat}
    (htag : keliCoreRecordReportTag corePlan record = some tag)
    (htarget : keliCoreRecordReportTarget corePlan record lookup = some (tag, uid))
    (hone : (targets.filter (·.tag = tag)).length = 1) :
    ((calls.filter fun call => call.target.tag = tag && call.delivered).length = 1 ∧
      record ∉ failedKeliCoreRecords corePlan records after) ∨
    ((calls.filter fun call => call.target.tag = tag && call.delivered) = [] ∧
      record ∈ failedKeliCoreRecords corePlan records after) := by
  have hsnap : (keliCoreTrafficSnapshotsWithUserLookup corePlan records lookup).contains tag := by
    have hne : recordsFor corePlan lookup records tag ≠ [] :=
      List.ne_nil_of_mem (mem_recordsFor hr htarget)
    rw [Std.ExtTreeMap.contains_eq_isSome_getElem?, snapshots_spec, if_neg hne]
    rfl
  have hlen : (calls.filter (·.target.tag = tag)).length = 1 := by
    rw [← hone, ← calls_of_tag hrun hsnap, List.length_map]
  obtain ⟨call, hcall⟩ := List.length_eq_one_iff.1 hlen
  have hmem : ∀ c, (c ∈ calls ∧ c.target.tag = tag) ↔ c = call := by
    intro c
    have := congrArg (c ∈ ·) hcall
    simpa using this
  obtain ⟨hc, hctag⟩ := (hmem call).2 rfl
  have hkept : record ∈ failedKeliCoreRecords corePlan records after ↔ call.failure.isSome = true := by
    rw [kept_iff_failed_call hrun hr]
    constructor
    · rintro ⟨c, hcm, hct, hfail⟩
      rw [htag] at hct
      rwa [(hmem c).1 ⟨hcm, (Option.some.inj hct).symm⟩] at hfail
    · exact fun hfail => ⟨call, hc, by rw [htag, hctag], hfail⟩
  have hsent : (calls.filter fun call => call.target.tag = tag && call.delivered) =
      [call].filter ReportCall.delivered := by
    rw [← hcall, List.filter_filter]
    exact List.filter_congr fun c _ => Bool.and_comm _ _
  have hdeliver := delivered_iff_not_failure hrun hc
  rw [hsent, hkept]
  cases hfail : call.failure.isSome with
  | false => exact Or.inl ⟨by rw [List.filter_cons_of_pos (hdeliver.2 hfail)]; rfl, by simp⟩
  | true =>
    refine Or.inr ⟨?_, rfl⟩
    rw [List.filter_cons_of_neg (by simp [hdeliver, hfail])]
    rfl

end

/-- **Partition of a report cycle**: every snapshot is the sum of exactly the records reported under its tag,
and a record whose user is known and whose node has one target is delivered or kept, never both. -/
theorem records_partitioned (client : NodeActivityTarget → Except Text (NodeActivitySender σ)) (corePlan : CorePlan)
    (lookup : KeliCoreUserIdLookup) (records : List KeliCoreTrafficRecord) (targets : List NodeActivityTarget) (s : σ)
    (hapart : TagsApart corePlan) :
    let snapshots := keliCoreTrafficSnapshotsWithUserLookup corePlan records lookup
    let calls := (reportActivityBatchWith snapshots (recorded fun target => reportActivityToPanel (client target))
      targets {} (s, [])).2.2
    let kept := failedKeliCoreRecords corePlan records (reportActivityBatchToPanel client targets snapshots s).1
    (∀ tag, snapshots[tag]? =
      if recordsFor corePlan lookup records tag = [] then none
      else some (sumRecords {} (recordsFor corePlan lookup records tag))) ∧
    (∀ call ∈ calls, snapshots[call.target.tag]? = some call.snapshot) ∧
    ∀ record ∈ records, RecordFate corePlan lookup targets calls kept record := by
  intro snapshots calls kept
  obtain ⟨new, hnew, hrun, hsame⟩ := batch_spec snapshots (fun target => reportActivityToPanel (client target))
    targets {} s []
  have hcalls : calls = new := by simpa using hnew
  have hkept : kept = failedKeliCoreRecords corePlan records
      (reportActivityBatchWith snapshots (recorded fun target => reportActivityToPanel (client target)) targets {}
        (s, [])).1 := by
    rw [hsame]
    rfl
  refine ⟨snapshots_spec corePlan records lookup, ?_, ?_⟩
  · rw [hcalls]
    exact hrun.snapshot_eq
  · intro record hr
    rw [hcalls, hkept]
    refine ⟨kept_iff_failed_call hrun hr, fun tag uid => reportTag_of_reportTarget hapart, ?_, ?_⟩
    · intro tag uid htarget hone
      exact delivered_or_kept hrun hr (reportTag_of_reportTarget hapart htarget) htarget hone
    · intro tag uid htarget hnone
      have hno : ∀ call ∈ new, call.target.tag ≠ tag := by
        intro call hc
        have hmem : call.target ∈ targets.filter fun target => snapshots.contains target.tag := by
          rw [← hrun.targets_eq]
          exact List.mem_map_of_mem hc
        exact hnone _ (List.mem_filter.1 hmem).1
      refine ⟨hno, fun hk => ?_⟩
      obtain ⟨call, hc, htag, _⟩ := (kept_iff_failed_call hrun hr).1 hk
      rw [reportTag_of_reportTarget hapart htarget] at htag
      exact hno call hc (Option.some.inj htag).symm

end

/-- One inbound with one user. -/
def oneUserPlan : CorePlan where
  configPath := "/etc/keli/config.json"
  listenTags := ["node-a"]
  inbounds := [{ (default : InboundPlan) with tag := "node-a", users := [{ id := 7, uuid := "uuid-a" }] }]

/-- A panel that takes everything. -/
def acceptingSender : NodeActivitySender Unit where
  reportSnapshot _ _ s := (.ok true, s)
  reportUserTraffic _ s := (.ok (), s)
  reportOnlineUsers _ s := (.ok (), s)

def oneTarget : List NodeActivityTarget := [{ tag := "node-a", config := {} }]

def knownRecord : KeliCoreTrafficRecord := { nodeTag := "node-a|port:2100", userUuid := "uuid-a", upload := 10, download := 20 }

def unknownRecord : KeliCoreTrafficRecord := { nodeTag := "node-a", userUuid := "missing", upload := 1, download := 2 }

theorem tagsApart_oneUserPlan : TagsApart oneUserPlan := by
  intro a ha b hb _
  rw [List.mem_singleton.1 ha, List.mem_singleton.1 hb]

/-- Two inbounds with one user each. -/
def partedPlan : CorePlan where
  configPath := "/etc/keli/config.json"
  listenTags := ["node-a", "node-b"]
  inbounds := [{ (default : InboundPlan) with tag := "node-a", users := [{ id := 7, uuid := "uuid-a" }] },
    { (default : InboundPlan) with tag := "node-b", users := [{ id := 8, uuid := "uuid-b" }] }]

def twoTargets : List NodeActivityTarget := [{ tag := "node-a", config := {} }, { tag := "node-b", config := {} }]

/-- The second node has no panel client. -/
def halfClient (target : NodeActivityTarget) : Except Text (NodeActivitySender Unit) :=
  if target.tag = "node-a" then .ok acceptingSender else .error "connection refused"

def secondRecord : KeliCoreTrafficRecord := { nodeTag := "node-b", userUuid := "uuid-b", upload := 3, download := 4 }

theorem tagsApart_partedPlan : TagsApart partedPlan := by
  have hall : ∀ a ∈ partedPlan.inbounds, ∀ b ∈ partedPlan.inbounds,
      (normalizeKeliCoreRecordTag a.tag b.tag).isSome = true → a.tag = b.tag := by decide
  intro a ha b hb htag
  apply hall a ha b hb
  rw [normalizeKeliCoreRecordTag_eq_some.2 ⟨htag, rfl⟩]
  rfl

/-- One record of each node. -/
theorem records_partitioned_known : TagsApart partedPlan ∧
    ∀ record ∈ [knownRecord, secondRecord], RecordFate partedPlan ∅ twoTargets
      (reportActivityBatchWith (keliCoreTrafficSnapshotsWithUserLookup partedPlan [knownRecord, secondRecord] ∅)
        (recorded fun target => reportActivityToPanel (halfClient target)) twoTargets {} ((), [])).2.2
      (failedKeliCoreRecords partedPlan [knownRecord, secondRecord]
        (reportActivityBatchToPanel halfClient twoTargets
          (keliCoreTrafficSnapshotsWithUserLookup partedPlan [knownRecord, secondRecord] ∅) ()).1) record :=
  ⟨tagsApart_partedPlan,
    (records_partitioned halfClient partedPlan ∅ [knownRecord, secondRecord] twoTargets () tagsApart_partedPlan).2.2⟩

/-- A record of an unknown user is in no snapshot and is not kept either, though its node's report succeeds. -/
theorem unknown_record_dropped :
    let records := [knownRecord, unknownRecord]
    let snapshots := keliCoreTrafficSnapshotsWithUserLookup oneUserPlan records ∅
    let calls := (reportActivityBatchWith snapshots (recorded fun _ => reportActivityToPanel (.ok acceptingSender))
      oneTarget {} ((), [])).2.2
    calls.map (fun call => (call.target.tag, call.delivered, call.snapshot.traffic)) =
      [(("node-a" : Text), true, [(⟨7, 10, 20⟩ : UserTraffic)])] ∧
    keliCoreRecordReportTarget oneUserPlan unknownRecord ∅ = none ∧
    unknownRecord ∉ failedKeliCoreRecords oneUserPlan records
      (reportActivityBatchToPanel (fun _ => .ok acceptingSender) oneTarget snapshots ()).1 := by
  decide +kernel

end KeliNode
