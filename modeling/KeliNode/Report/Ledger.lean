import KeliNode.Report.Partition

/-!
# Traffic over whole runs

A run is any sequence of report cycles, against any panel, core and file system.  What crossed the boundary
is in the log of each cycle, and the ledger adds it up: what was drained, requeued, lost in a failed requeue,
folded as an exact duplicate, billed (carried by a request the panel accepted), and what a cycle that finished
is done with: the records it reported, and those it dropped because no panel is to have them.

`cycle_cases` says all a cycle can do.  From it, records are conserved (`spool_conserved`) in every run, and
nothing is billed twice (`billed_at_most_once`) in every run whose cycles are safe: no legacy traffic report
accepted before a failed online report, and no failed save after an accepted request.
-/

namespace KeliNode

open Lib

/-! ## The ledger -/

structure ReportCycle where
  plan : RuntimeBootstrapPlan
  userLookup : KeliCoreUserIdLookup

/-- The drained records that `append_unique_keli_core_records` skips. -/
def foldedDuplicates : List KeliCoreTrafficRecord → List KeliCoreTrafficRecord → List KeliCoreTrafficRecord
  | _, [] => []
  | records, record :: drained =>
    if records.contains record then record :: foldedDuplicates records drained
    else foldedDuplicates (records ++ [record]) drained

def ReportEvent.accepts (tag : Text) : ReportEvent → Bool
  | .accepted requestTag _ _ => requestTag = tag
  | _ => false

/-- The records a request carries: those of the spool that were aggregated under its tag. -/
def billedRecords (corePlan : CorePlan) (userLookup : KeliCoreUserIdLookup) : ReportEvent → List KeliCoreTrafficRecord
  | .accepted tag spool _ =>
    spool.filter fun record => (keliCoreRecordReportTarget corePlan record userLookup).map (·.1) = some tag
  | _ => []

structure Ledger where
  drained : List KeliCoreTrafficRecord := []
  requeued : List KeliCoreTrafficRecord := []
  lost : List KeliCoreTrafficRecord := []
  folded : List KeliCoreTrafficRecord := []
  reported : List KeliCoreTrafficRecord := []
  dropped : List KeliCoreTrafficRecord := []
  billed : List KeliCoreTrafficRecord := []

def ReportEvent.drainedRecords : ReportEvent → List KeliCoreTrafficRecord
  | .drained _ records => records
  | _ => []

def ReportEvent.requeuedRecords (ok : Bool) : ReportEvent → List KeliCoreTrafficRecord
  | .requeued records answer => if answer = ok then records else []
  | _ => []

def ReportEvent.foldedRecords : ReportEvent → List KeliCoreTrafficRecord
  | .drained spool records => foldedDuplicates spool records
  | _ => []

def ReportEvent.savedRecords : ReportEvent → Option (List KeliCoreTrafficRecord)
  | .spooled _ after => some after
  | _ => none

/-- The records a cycle reports on: what it saved before it sent anything. -/
def reportedOn (log : List ReportEvent) : List KeliCoreTrafficRecord := (log.findSome? (·.savedRecords)).getD []

/-- The record belongs to a node whose report failed. -/
def belongsToFailed (corePlan : CorePlan) (batch : NodeActivityBatchReport) (record : KeliCoreTrafficRecord) : Bool :=
  (keliCoreRecordReportTag corePlan record).any fun tag => batch.failures.any (·.tag = tag)

/-- A request under the tag of the record was accepted. -/
def carriedBy (corePlan : CorePlan) (userLookup : KeliCoreUserIdLookup) (log : List ReportEvent)
    (record : KeliCoreTrafficRecord) : Bool :=
  (keliCoreRecordReportTarget corePlan record userLookup).any fun target => log.any (·.accepts target.1)

/-- The records that a cycle that finished is done with; `carried` for those in an accepted request, or the others. -/
def ReportCycle.done (carried : Bool) (cycle : ReportCycle) (result : Except Text NodeActivityBatchReport)
    (log : List ReportEvent) : List KeliCoreTrafficRecord :=
  match cycle.plan.corePlan, result with
  | some corePlan, .ok batch => (reportedOn log).filter fun record =>
      !belongsToFailed corePlan batch record && carriedBy corePlan cycle.userLookup log record == carried
  | _, _ => []

def ReportCycle.billed (cycle : ReportCycle) (log : List ReportEvent) : List KeliCoreTrafficRecord :=
  match cycle.plan.corePlan with
  | none => []
  | some corePlan => log.flatMap (billedRecords corePlan cycle.userLookup)

/-- The ledger after one more cycle. -/
def Ledger.add (ledger : Ledger) (cycle : ReportCycle) (result : Except Text NodeActivityBatchReport)
    (log : List ReportEvent) : Ledger where
  drained := ledger.drained ++ log.flatMap ReportEvent.drainedRecords
  requeued := ledger.requeued ++ log.flatMap (ReportEvent.requeuedRecords true)
  lost := ledger.lost ++ log.flatMap (ReportEvent.requeuedRecords false)
  folded := ledger.folded ++ log.flatMap ReportEvent.foldedRecords
  reported := ledger.reported ++ cycle.done true result log
  dropped := ledger.dropped ++ cycle.done false result log
  billed := ledger.billed ++ cycle.billed log

section

variable {σ : Type} (env : ReportEnv σ)

/-- One cycle, with a log of its own. -/
def runCycle (cycle : ReportCycle) (world : ReportWorld σ) : Except Text NodeActivityBatchReport × ReportWorld σ :=
  reportKeliCoreActivityToPanelWithUserLookup env cycle.plan cycle.userLookup { world with log := [] }

def runCycles : List ReportCycle → ReportWorld σ → Ledger → ReportWorld σ × Ledger
  | [], world, ledger => (world, ledger)
  | cycle :: cycles, world, ledger =>
    runCycles cycles (runCycle env cycle world).2
      (ledger.add cycle (runCycle env cycle world).1 (runCycle env cycle world).2.log)

/-- `P` holds of every cycle of the run, its result and its log. -/
def AlongRun (P : ReportCycle → Except Text NodeActivityBatchReport → List ReportEvent → Prop) :
    List ReportCycle → ReportWorld σ → Prop
  | [], _ => True
  | cycle :: cycles, world =>
    P cycle (runCycle env cycle world).1 (runCycle env cycle world).2.log ∧
      AlongRun P cycles (runCycle env cycle world).2

end

/-! ## Appending -/

/-- The loop extends both lists by the same new records; the others are the folded ones. -/
theorem foldl_appendUnique (drained records appended : List KeliCoreTrafficRecord) :
    ∃ new, drained.foldl (fun (records, appended) record =>
        if records.contains record then (records, appended) else (records ++ [record], appended ++ [record]))
        (records, appended) = (records ++ new, appended ++ new) ∧
      ∀ v, new.count v + (foldedDuplicates records drained).count v = drained.count v := by
  induction drained generalizing records appended with
  | nil => exact ⟨[], by simp, by simp [foldedDuplicates]⟩
  | cons record drained ih =>
    by_cases h : records.contains record = true
    · obtain ⟨new, hnew, hcount⟩ := ih records appended
      refine ⟨new, by simp only [List.foldl_cons, h, if_true, hnew], fun v => ?_⟩
      have := hcount v
      simp only [foldedDuplicates, h, if_true, List.count_cons]
      omega
    · obtain ⟨new, hnew, hcount⟩ := ih (records ++ [record]) (appended ++ [record])
      refine ⟨record :: new, ?_, fun v => ?_⟩
      · simp only [List.foldl_cons, h, Bool.false_eq_true, if_false, hnew, List.append_assoc, List.singleton_append]
      · have := hcount v
        simp only [foldedDuplicates, h, Bool.false_eq_true, if_false, List.count_cons]
        omega

theorem appendUnique_spec (records drained : List KeliCoreTrafficRecord) :
    (appendUniqueKeliCoreRecords records drained).1 = records ++ (appendUniqueKeliCoreRecords records drained).2 ∧
    ∀ v, (appendUniqueKeliCoreRecords records drained).2.count v + (foldedDuplicates records drained).count v =
      drained.count v := by
  obtain ⟨new, hnew, hcount⟩ := foldl_appendUnique drained records []
  rw [appendUniqueKeliCoreRecords, hnew]
  exact ⟨rfl, hcount⟩

/-! ## What a cycle can do -/

section

variable {σ : Type}

@[simp] theorem ask_spool {α : Type} (call : σ → Except Text α × σ) (world : ReportWorld σ) :
    (world.ask call).2.spool = world.spool := rfl

@[simp] theorem ask_log {α : Type} (call : σ → Except Text α × σ) (world : ReportWorld σ) :
    (world.ask call).2.log = world.log := rfl

/-- The events of one call, by its answer. -/
inductive CallEvents (tag : Text) (spool : List KeliCoreTrafficRecord) (snapshot : NodeActivitySnapshot) :
    Except Text NodeActivityReport → List ReportEvent → Prop
  | refused (error : Text) : CallEvents tag spool snapshot (.error error) []
  | delivered (report : NodeActivityReport) :
    CallEvents tag spool snapshot (.ok report) [.accepted tag spool snapshot.traffic]
  | half (error : Text) :
    CallEvents tag spool snapshot (.error error) [.accepted tag spool snapshot.traffic, .onlineFailed tag]

theorem legacyOnline_events {tag : Text} {sender : NodeActivitySender σ} {snapshot : NodeActivitySnapshot}
    {report : NodeActivityReport} {world : ReportWorld σ} {earlier : List ReportEvent}
    {spool : List KeliCoreTrafficRecord} (hspool : world.spool = spool)
    (hlog : world.log = earlier ++ [.accepted tag spool snapshot.traffic]) :
    ∃ events, CallEvents tag spool snapshot (reportLegacyOnline (notedSender tag sender) snapshot report world).1 events ∧
      (reportLegacyOnline (notedSender tag sender) snapshot report world).2.spool = spool ∧
      (reportLegacyOnline (notedSender tag sender) snapshot report world).2.log = earlier ++ events := by
  unfold reportLegacyOnline
  split
  · exact ⟨_, .delivered _, hspool, hlog⟩
  · simp only [notedSender]
    rcases hcall : world.ask (sender.reportOnlineUsers snapshot.online) with ⟨answer, world'⟩
    have hw : world'.spool = world.spool ∧ world'.log = world.log := by
      rw [← show (world.ask (sender.reportOnlineUsers snapshot.online)).2 = world' by rw [hcall]]
      exact ⟨rfl, rfl⟩
    cases answer with
    | error error =>
      refine ⟨_, .half error, hw.1.trans hspool, ?_⟩
      simp [ReportWorld.note, hw.2, hlog]
    | ok u => exact ⟨_, .delivered _, hw.1.trans hspool, hw.2.trans hlog⟩

theorem reportSnapshot_noted (tag : Text) (sender : NodeActivitySender σ) (traffic : List UserTraffic)
    (online : OnlineMap) (world : ReportWorld σ) :
    (notedSender tag sender).reportSnapshot traffic online world =
      match world.ask (sender.reportSnapshot traffic online) with
      | (.ok true, world) => (.ok true, world.note (.accepted tag world.spool traffic))
      | other => other := rfl

/-- **One call** on a snapshot with traffic in it. -/
theorem call_events (tag : Text) (client : Except Text (NodeActivitySender σ)) {snapshot : NodeActivitySnapshot}
    (htraffic : snapshot.traffic ≠ []) (world : ReportWorld σ) :
    ∃ events,
      CallEvents tag world.spool snapshot (reportActivityToPanel (client.map (notedSender tag)) snapshot world).1 events ∧
      (reportActivityToPanel (client.map (notedSender tag)) snapshot world).2.spool = world.spool ∧
      (reportActivityToPanel (client.map (notedSender tag)) snapshot world).2.log = world.log ++ events := by
  have hempty := NodeActivitySnapshot.isEmpty_of_traffic htraffic
  have hnil : snapshot.traffic.isEmpty = false := by simpa using htraffic
  unfold reportActivityToPanel
  rw [hempty]
  cases client with
  | error error => exact ⟨[], .refused error, rfl, by simp [Except.map]⟩
  | ok sender =>
    simp only [Except.map, Bool.false_eq_true, if_false]
    unfold reportActivityWithFallback
    simp only [hempty, hnil, Bool.false_eq_true, if_false]
    rcases hsnapshot : world.ask (sender.reportSnapshot snapshot.traffic snapshot.online) with ⟨answer, world₁⟩
    have hw₁ : world₁ = (world.ask (sender.reportSnapshot snapshot.traffic snapshot.online)).2 := by rw [hsnapshot]
    rw [reportSnapshot_noted, hsnapshot]
    rcases answer with error | supported
    · exact ⟨[], .refused error, by simp [hw₁], by simp [hw₁]⟩
    cases supported with
    | true => exact ⟨_, .delivered _, by simp [hw₁, ReportWorld.note], by simp [hw₁, ReportWorld.note]⟩
    | false =>
      simp only
      rcases htraffic' : world₁.ask (sender.reportUserTraffic snapshot.traffic) with ⟨answer', world₂⟩
      have hw₂ : world₂ = (world₁.ask (sender.reportUserTraffic snapshot.traffic)).2 := by rw [htraffic']
      simp only [notedSender, htraffic']
      cases answer' with
      | error error => exact ⟨[], .refused error, by simp [hw₁, hw₂], by simp [hw₁, hw₂]⟩
      | ok u =>
        exact legacyOnline_events (by simp [ReportWorld.note, hw₁, hw₂]) (by simp [ReportWorld.note, hw₁, hw₂])

/-- The events of a batch: requests under the tags of its targets, each with the tag's snapshot, and one accepted
for every snapshot of a target that did not fail; with one target a tag, at most one a tag, and none for a failed
target unless its online report failed. -/
structure BatchEvents (snapshots : ActivitySnapshots) (targets : List NodeActivityTarget)
    (spool : List KeliCoreTrafficRecord) (failures : List NodeActivityFailure) (events : List ReportEvent) : Prop where
  known : ∀ event ∈ events, ∃ target ∈ targets,
    (∃ snapshot, snapshots[target.tag]? = some snapshot ∧ event = .accepted target.tag spool snapshot.traffic) ∨
    event = .onlineFailed target.tag
  failed : ∀ failure ∈ failures, ∃ target ∈ targets, target.tag = failure.tag
  delivered : ∀ target ∈ targets, target.tag ∈ snapshots →
    (∃ failure ∈ failures, failure.tag = target.tag) ∨ 0 < events.countP (·.accepts target.tag)
  once : (targets.map (·.tag)).Nodup → ∀ tag, events.countP (·.accepts tag) ≤ 1
  half : (targets.map (·.tag)).Nodup → ∀ failure ∈ failures, 0 < events.countP (·.accepts failure.tag) →
    .onlineFailed failure.tag ∈ events

section

variable {snapshots : ActivitySnapshots} {targets : List NodeActivityTarget} {spool : List KeliCoreTrafficRecord}
  {failures : List NodeActivityFailure} {events : List ReportEvent}

theorem BatchEvents.accepts_zero (h : BatchEvents snapshots targets spool failures events) (tag : Text)
    (htag : ∀ target ∈ targets, target.tag ≠ tag) : events.countP (·.accepts tag) = 0 := by
  rw [List.countP_eq_zero]
  intro event he haccepts
  obtain ⟨target, ht, ⟨snapshot, _, rfl⟩ | rfl⟩ := h.known event he
  · exact htag target ht (by simpa [ReportEvent.accepts] using haccepts)
  · simp [ReportEvent.accepts] at haccepts

theorem CallEvents.accepts_of_ne {tag other : Text} {snapshot : NodeActivitySnapshot}
    {answer : Except Text NodeActivityReport} {called : List ReportEvent}
    (h : CallEvents tag spool snapshot answer called) (hne : tag ≠ other) : called.countP (·.accepts other) = 0 := by
  cases h <;> simp [ReportEvent.accepts, hne]

theorem CallEvents.accepts_le {tag : Text} {snapshot : NodeActivitySnapshot}
    {answer : Except Text NodeActivityReport} {called : List ReportEvent}
    (h : CallEvents tag spool snapshot answer called) (other : Text) : called.countP (·.accepts other) ≤ 1 := by
  by_cases hne : tag = other
  · cases h <;> simp [ReportEvent.accepts, hne]
  · rw [h.accepts_of_ne hne]
    exact Nat.zero_le 1

/-- One more target in front. -/
theorem BatchEvents.cons (h : BatchEvents snapshots targets spool failures events) {target : NodeActivityTarget}
    {snapshot : NodeActivitySnapshot} (hsnap : snapshots[target.tag]? = some snapshot)
    {answer : Except Text NodeActivityReport} {called : List ReportEvent}
    (hcall : CallEvents target.tag spool snapshot answer called) :
    BatchEvents snapshots (target :: targets) spool
      ((ReportCall.mk target snapshot answer).failure.toList ++ failures) (called ++ events) where
  known := by
    intro event he
    rcases List.mem_append.1 he with he | he
    · refine ⟨target, List.mem_cons_self, ?_⟩
      cases hcall with
      | refused error => cases he
      | delivered report => exact Or.inl ⟨snapshot, hsnap, List.mem_singleton.1 he⟩
      | half error =>
        rcases List.mem_cons.1 he with rfl | he
        · exact Or.inl ⟨snapshot, hsnap, rfl⟩
        · exact Or.inr (List.mem_singleton.1 he)
    · obtain ⟨other, ho, hother⟩ := h.known event he
      exact ⟨other, List.mem_cons_of_mem _ ho, hother⟩
  failed := by
    intro failure hf
    rcases List.mem_append.1 hf with hf | hf
    · refine ⟨target, List.mem_cons_self, ?_⟩
      unfold ReportCall.failure at hf
      cases answer with
      | ok report => simp at hf
      | error error => simp at hf; rw [hf]
    · obtain ⟨other, ho, hother⟩ := h.failed failure hf
      exact ⟨other, List.mem_cons_of_mem _ ho, hother⟩
  delivered := by
    intro other ho hmem
    rcases List.mem_cons.1 ho with rfl | ho
    · cases hcall with
      | refused error => exact .inl ⟨⟨other.tag, error⟩, List.mem_append_left _ (by simp [ReportCall.failure]), rfl⟩
      | delivered report => exact .inr (by simp [ReportEvent.accepts])
      | half error => exact .inl ⟨⟨other.tag, error⟩, List.mem_append_left _ (by simp [ReportCall.failure]), rfl⟩
    · rcases h.delivered other ho hmem with ⟨failure, hf, htag⟩ | hpos
      · exact .inl ⟨failure, List.mem_append_right _ hf, htag⟩
      · exact .inr (by rw [List.countP_append]; omega)
  once := by
    intro hnodup tag
    rw [List.map_cons, List.nodup_cons] at hnodup
    rw [List.countP_append]
    by_cases htag : target.tag = tag
    · have hrest := h.accepts_zero tag fun other ho heq =>
        hnodup.1 (List.mem_map.2 ⟨other, ho, heq.trans htag.symm⟩)
      have hle := hcall.accepts_le tag
      omega
    · have hrest := h.once hnodup.2 tag
      have hzero := hcall.accepts_of_ne htag
      omega
  half := by
    intro hnodup failure hf hpos
    rw [List.map_cons, List.nodup_cons] at hnodup
    rw [List.countP_append] at hpos
    rcases List.mem_append.1 hf with hf | hf
    · unfold ReportCall.failure at hf
      cases hcall with
      | delivered report => simp at hf
      | refused error =>
        simp only [Option.toList_some, List.mem_singleton] at hf
        have hrest := h.accepts_zero failure.tag fun other ho heq =>
          hnodup.1 (List.mem_map.2 ⟨other, ho, by rw [heq, hf]⟩)
        simp only [List.countP_nil, hrest] at hpos
        omega
      | half error =>
        simp only [Option.toList_some, List.mem_singleton] at hf
        rw [hf]
        simp
    · obtain ⟨other, ho, hother⟩ := h.failed failure hf
      have hzero := hcall.accepts_of_ne fun heq => hnodup.1 (List.mem_map.2 ⟨other, ho, hother.trans heq.symm⟩)
      refine List.mem_append_right _ (h.half hnodup.2 failure hf ?_)
      omega

end

/-- **The batch loop**: it leaves the spool alone and makes its calls. -/
theorem batch_events (env : ReportEnv σ) {snapshots : ActivitySnapshots}
    (hsnaps : ∀ (tag : Text) (snapshot : NodeActivitySnapshot), snapshots[tag]? = some snapshot → snapshot.traffic ≠ [])
    (targets : List NodeActivityTarget) (batch : NodeActivityBatchReport) (world : ReportWorld σ) :
    ∃ failures events,
      (reportActivityBatchWith snapshots (fun target => reportActivityToPanel (env.clientFor target)) targets batch
        world).1.failures = batch.failures ++ failures ∧
      (reportActivityBatchWith snapshots (fun target => reportActivityToPanel (env.clientFor target)) targets batch
        world).2.spool = world.spool ∧
      (reportActivityBatchWith snapshots (fun target => reportActivityToPanel (env.clientFor target)) targets batch
        world).2.log = world.log ++ events ∧
      BatchEvents snapshots targets world.spool failures events := by
  induction targets generalizing batch world with
  | nil =>
    exact ⟨[], [], by simp [reportActivityBatchWith], rfl, by simp [reportActivityBatchWith],
      ⟨by simp, by simp, by simp, by simp, by simp⟩⟩
  | cons target targets ih =>
    simp only [reportActivityBatchWith]
    cases hsnap : snapshots[target.tag]? with
    | none =>
      obtain ⟨failures, events, hfail, hspool, hlog, h⟩ := ih { batch with skipped := batch.skipped + 1 } world
      refine ⟨failures, events, hfail, hspool, hlog, ⟨?_, ?_, ?_, ?_, ?_⟩⟩
      · intro event he
        obtain ⟨other, ho, hother⟩ := h.known event he
        exact ⟨other, List.mem_cons_of_mem _ ho, hother⟩
      · intro failure hf
        obtain ⟨other, ho, hother⟩ := h.failed failure hf
        exact ⟨other, List.mem_cons_of_mem _ ho, hother⟩
      · intro other ho hmem
        rcases List.mem_cons.1 ho with rfl | ho
        · rw [Std.ExtTreeMap.mem_iff_isSome_getElem?, hsnap] at hmem
          cases hmem
        · exact h.delivered other ho hmem
      · exact fun hnodup => h.once (List.nodup_cons.1 hnodup).2
      · exact fun hnodup => h.half (List.nodup_cons.1 hnodup).2
    | some snapshot =>
      obtain ⟨called, hcall, hspool₁, hlog₁⟩ := call_events target.tag (env.panelClient target.config)
        (hsnaps _ _ hsnap) world
      simp only [ReportEnv.clientFor] at ih ⊢
      rcases hone : reportActivityToPanel ((env.panelClient target.config).map (notedSender target.tag)) snapshot world
        with ⟨answer, world₁⟩
      rw [hone] at hcall hspool₁ hlog₁
      obtain ⟨failures, events, hfail, hspool, hlog, h⟩ := ih (batch.record target.tag answer) world₁
      have hrecord := record_failures batch (ReportCall.mk target snapshot answer)
      rw [hspool₁] at h
      refine ⟨_, _, ?_, hspool.trans hspool₁, ?_, h.cons hsnap hcall⟩
      · rw [hfail, ← List.append_assoc]
        exact congrArg (· ++ failures) hrecord
      · rw [hlog, hlog₁, List.append_assoc]

theorem save_cases (env : ReportEnv σ) (records : List KeliCoreTrafficRecord) (world : ReportWorld σ) :
    (∃ error after, savePendingKeliCoreTraffic env records world = (.error error, after) ∧
      after.spool = world.spool ∧ after.log = world.log ++ [.saveFailed]) ∨
    ∃ after, savePendingKeliCoreTraffic env records world = (.ok (), after) ∧
      after.spool = records ∧ after.log = world.log ++ [.spooled world.spool records] := by
  unfold savePendingKeliCoreTraffic
  rcases hask : world.ask env.saveSpool with ⟨answer, world'⟩
  have hw : world' = (world.ask env.saveSpool).2 := by rw [hask]
  cases answer with
  | error error => exact Or.inl ⟨error, _, rfl, by simp [ReportWorld.note, hw], by simp [ReportWorld.note, hw]⟩
  | ok u => exact Or.inr ⟨_, rfl, rfl, by simp [ReportWorld.note, hw]⟩

@[simp] theorem commitOnlineRecords_spool (env : ReportEnv σ) (records : List KeliCoreDeviceLimitOnlineRecord)
    (world : ReportWorld σ) : (commitOnlineRecords env records world).spool = world.spool := by
  unfold commitOnlineRecords
  split <;> rfl

@[simp] theorem commitOnlineRecords_log (env : ReportEnv σ) (records : List KeliCoreDeviceLimitOnlineRecord)
    (world : ReportWorld σ) : (commitOnlineRecords env records world).log = world.log := by
  unfold commitOnlineRecords
  split <;> rfl

/-- What the reporting step did with the spooled records. -/
structure Reported (cycle : ReportCycle) (corePlan : CorePlan) (records : List KeliCoreTrafficRecord)
    (batch : NodeActivityBatchReport) (events : List ReportEvent) : Prop where
  planned : cycle.plan.corePlan = some corePlan
  batched : BatchEvents (keliCoreTrafficSnapshotsWithUserLookup corePlan records cycle.userLookup)
    (runtimeActivityTargets cycle.plan) records batch.failures events

theorem reportSpooledRecords_cases (env : ReportEnv σ) (cycle : ReportCycle) {corePlan : CorePlan}
    (hplan : cycle.plan.corePlan = some corePlan) {records : List KeliCoreTrafficRecord} {world : ReportWorld σ}
    (hspool : world.spool = records) :
    ∃ batch events, Reported cycle corePlan records batch events ∧
      ((∃ after, reportSpooledRecords env cycle.plan corePlan cycle.userLookup records world = (.ok batch, after) ∧
          after.spool = failedKeliCoreRecords corePlan records batch ∧
          after.log = world.log ++ events ++ [.spooled records (failedKeliCoreRecords corePlan records batch)]) ∨
        ∃ error after, reportSpooledRecords env cycle.plan corePlan cycle.userLookup records world =
            (.error error, after) ∧
          after.spool = records ∧ after.log = world.log ++ events ++ [.saveFailed]) := by
  unfold reportSpooledRecords reportActivityBatchToPanel
  obtain ⟨failures, events, hfail, hspool₁, hlog₁, hbatch⟩ := batch_events env
    (fun tag snapshot => snapshot_traffic_ne_nil) (runtimeActivityTargets cycle.plan) {} world
  rcases hrun : reportActivityBatchWith (keliCoreTrafficSnapshotsWithUserLookup corePlan records cycle.userLookup)
    (fun target => reportActivityToPanel (env.clientFor target)) (runtimeActivityTargets cycle.plan) {} world
    with ⟨batch, world₁⟩
  rw [hrun] at hfail hspool₁ hlog₁
  simp only [List.nil_append] at hfail
  rw [← hfail, hspool] at hbatch
  simp only [hrun]
  generalize hcommit : commitOnlineRecords env _ world₁ = world₂
  have hworld₂ : world₂.spool = records ∧ world₂.log = world.log ++ events := by
    rw [← hcommit]
    exact ⟨(commitOnlineRecords_spool env _ world₁).trans (hspool₁.trans hspool),
      (commitOnlineRecords_log env _ world₁).trans hlog₁⟩
  refine ⟨batch, events, ⟨hplan, hbatch⟩, ?_⟩
  rcases save_cases env (failedKeliCoreRecords corePlan records batch) world₂ with
    ⟨error, after, hsave, hs, hl⟩ | ⟨after, hsave, hs, hl⟩
  · rw [hsave]
    exact Or.inr ⟨error, after, rfl, hs.trans hworld₂.1, by rw [hl, hworld₂.2]⟩
  · rw [hsave]
    exact Or.inl ⟨after, rfl, hs, by rw [hl, hworld₂.1, hworld₂.2]⟩

/-- All a cycle can do, seen from the spool and the log. -/
inductive CycleCase (cycle : ReportCycle) (before : List KeliCoreTrafficRecord) :
    Except Text NodeActivityBatchReport → List KeliCoreTrafficRecord → List ReportEvent → Prop
  /-- it ended before the drain was answered -/
  | quiet (result : Except Text NodeActivityBatchReport) (hresult : ∀ batch, result = .ok batch → batch = {}) :
    CycleCase cycle before result before []
  /-- there was nothing to report -/
  | empty (drained : List KeliCoreTrafficRecord) (hnone : (appendUniqueKeliCoreRecords before drained).1 = []) :
    CycleCase cycle before (.ok {}) before [.drained before drained]
  /-- the first save failed and the new records went back to the core -/
  | requeued (error : Text) (drained : List KeliCoreTrafficRecord) (ok : Bool) :
    CycleCase cycle before (.error error) before
      (.drained before drained :: .saveFailed ::
        if (appendUniqueKeliCoreRecords before drained).2.isEmpty then []
        else [.requeued (appendUniqueKeliCoreRecords before drained).2 ok])
  /-- everything was reported and what failed was kept -/
  | reported (drained : List KeliCoreTrafficRecord) (corePlan : CorePlan) (batch : NodeActivityBatchReport)
      (events : List ReportEvent)
      (h : Reported cycle corePlan (appendUniqueKeliCoreRecords before drained).1 batch events) :
    CycleCase cycle before (.ok batch)
      (failedKeliCoreRecords corePlan (appendUniqueKeliCoreRecords before drained).1 batch)
      (.drained before drained :: .spooled before (appendUniqueKeliCoreRecords before drained).1 :: events ++
        [.spooled (appendUniqueKeliCoreRecords before drained).1
          (failedKeliCoreRecords corePlan (appendUniqueKeliCoreRecords before drained).1 batch)])
  /-- everything was reported and the last save failed -/
  | unsaved (error : Text) (drained : List KeliCoreTrafficRecord) (corePlan : CorePlan)
      (batch : NodeActivityBatchReport) (events : List ReportEvent)
      (h : Reported cycle corePlan (appendUniqueKeliCoreRecords before drained).1 batch events) :
    CycleCase cycle before (.error error) (appendUniqueKeliCoreRecords before drained).1
      (.drained before drained :: .spooled before (appendUniqueKeliCoreRecords before drained).1 :: events ++
        [.saveFailed])

theorem requeue_case (env : ReportEnv σ) (cycle : ReportCycle) {before : List KeliCoreTrafficRecord}
    (drained : List KeliCoreTrafficRecord) (error : Text) {world : ReportWorld σ} (hspool : world.spool = before)
    (hlog : world.log = [.drained before drained, .saveFailed]) :
    let new := (appendUniqueKeliCoreRecords before drained).2
    let after := if new.isEmpty then world else requeueKeliCoreTraffic env new world
    CycleCase cycle before (.error error) after.spool after.log := by
  intro new after
  have hcase := @CycleCase.requeued cycle before error drained
  by_cases hnew : new.isEmpty = true
  · have hafter : after = world := if_pos hnew
    rw [hafter, hspool, hlog]
    have := hcase true
    rwa [if_pos hnew] at this
  · have hafter : after = requeueKeliCoreTraffic env new world := if_neg hnew
    rw [hafter]
    unfold requeueKeliCoreTraffic
    rcases hask : world.ask (env.requeueTraffic new) with ⟨answer, world'⟩
    have hw : world' = (world.ask (env.requeueTraffic new)).2 := by rw [hask]
    have := hcase answer.toBool
    rw [if_neg hnew] at this
    simp only [ReportWorld.note, hw, ask_spool, ask_log, hspool, hlog]
    exact this

theorem cycle_cases (env : ReportEnv σ) (cycle : ReportCycle) (world : ReportWorld σ) :
    CycleCase cycle world.spool (runCycle env cycle world).1 (runCycle env cycle world).2.spool
      (runCycle env cycle world).2.log := by
  unfold runCycle reportKeliCoreActivityToPanelWithUserLookup
  cases hplan : cycle.plan.corePlan with
  | none => exact .quiet _ fun batch h => (Except.ok.inj h).symm
  | some corePlan =>
    simp only
    rcases hclient : ReportWorld.ask (env.controlClient corePlan.configPath) { world with log := [] } with ⟨answer, world₁⟩
    have hw₁ : world₁.spool = world.spool ∧ world₁.log = [] := by
      rw [← show (ReportWorld.ask (env.controlClient corePlan.configPath) { world with log := [] }).2 = world₁ by rw [hclient]]
      exact ⟨rfl, rfl⟩
    cases answer with
    | error error =>
      simp only [hw₁.1, hw₁.2]
      exact .quiet _ (by simp)
    | ok u =>
      simp only [loadPendingKeliCoreTraffic]
      rcases hload : world₁.ask env.loadSpool with ⟨answer, world₂⟩
      have hw₂ : world₂.spool = world.spool ∧ world₂.log = [] := by
        rw [← show (world₁.ask env.loadSpool).2 = world₂ by rw [hload]]
        exact hw₁
      cases answer with
      | error error =>
        simp only [hw₂.1, hw₂.2]
        exact .quiet _ (by simp)
      | ok u =>
        simp only [drainKeliCoreTraffic]
        rcases hdrain : world₂.ask (env.drainTraffic (minimumReportBytes cycle.plan)) with ⟨answer, world₃⟩
        have hw₃ : world₃.spool = world.spool ∧ world₃.log = [] := by
          rw [← show (world₂.ask (env.drainTraffic (minimumReportBytes cycle.plan))).2 = world₃ by rw [hdrain]]
          exact hw₂
        cases answer with
        | error error =>
          simp only [hw₃.1, hw₃.2]
          exact .quiet _ (by simp)
        | ok drained =>
          -- from here on the drain stands in the log
          have hw₄ : (world₃.note (.drained world₃.spool drained)).spool = world.spool ∧
              (world₃.note (.drained world₃.spool drained)).log = [.drained world.spool drained] := by
            simp [ReportWorld.note, hw₃.1, hw₃.2]
          simp only [hw₂.1]
          generalize world₃.note (.drained world₃.spool drained) = world₄ at hw₄ ⊢
          split
          · rename_i hnone
            rw [hw₄.1, hw₄.2]
            exact .empty drained (by simpa using hnone)
          · unfold savePendingOrRequeueDrained
            rcases save_cases env (appendUniqueKeliCoreRecords world.spool drained).1 world₄ with
              ⟨error, after, hsave, hs, hl⟩ | ⟨after, hsave, hs, hl⟩
            · simp only [hsave]
              exact requeue_case env cycle drained error (hs.trans hw₄.1) (by rw [hl, hw₄.2]; rfl)
            · simp only [hsave]
              obtain ⟨batch, events, hreported, ⟨final, hfinal, hfs, hfl⟩ | ⟨error, final, hfinal, hfs, hfl⟩⟩ :=
                reportSpooledRecords_cases env cycle hplan hs
              · rw [hfinal]
                simp only [hfs, hfl, hl, hw₄.1, hw₄.2]
                exact .reported drained corePlan batch events hreported
              · rw [hfinal]
                simp only [hfs, hfl, hl, hw₄.1, hw₄.2]
                exact .unsaved error drained corePlan batch events hreported

/-! ## Conservation -/

/-- Only the drain and the saves of a cycle that reports move records; its calls do not. -/
theorem flatMap_reportedLog {cycle : ReportCycle} {corePlan : CorePlan} {records : List KeliCoreTrafficRecord}
    {batch : NodeActivityBatchReport} {events : List ReportEvent} (h : Reported cycle corePlan records batch events)
    (first second final : ReportEvent) {f : ReportEvent → List KeliCoreTrafficRecord}
    (haccepted : ∀ tag spool traffic, f (.accepted tag spool traffic) = [])
    (honline : ∀ tag, f (.onlineFailed tag) = []) :
    (first :: second :: events ++ [final]).flatMap f = f first ++ (f second ++ f final) := by
  have hevents : events.flatMap f = [] := by
    refine List.flatMap_eq_nil_iff.2 fun event he => ?_
    obtain ⟨target, _, ⟨snapshot, _, rfl⟩ | rfl⟩ := h.batched.known event he
    · exact haccepted _ _ _
    · exact honline _
  simp [hevents]

theorem count_filter_eq (p : KeliCoreTrafficRecord → Bool) (records : List KeliCoreTrafficRecord)
    (v : KeliCoreTrafficRecord) : (records.filter p).count v = if p v = true then records.count v else 0 := by
  split
  · rename_i hp
    exact List.count_filter hp
  · rename_i hp
    rw [List.count_eq_zero]
    exact fun hmem => hp (List.mem_filter.1 hmem).2

/-- What is kept are the records of the nodes that failed. -/
theorem failedKeliCoreRecords_eq (corePlan : CorePlan) (records : List KeliCoreTrafficRecord)
    (batch : NodeActivityBatchReport) :
    failedKeliCoreRecords corePlan records batch = records.filter (belongsToFailed corePlan batch) := by
  have hcontains : ∀ tag, (batch.failures.map (·.tag)).contains tag = batch.failures.any (·.tag = tag) := by
    intro tag
    rw [Bool.eq_iff_iff]
    simp
  unfold failedKeliCoreRecords
  split
  · rename_i hnone
    rw [List.isEmpty_iff] at hnone
    simp [belongsToFailed, hnone]
  · congr 1
    funext record
    unfold belongsToFailed
    cases keliCoreRecordReportTag corePlan record with
    | none => rfl
    | some tag => exact hcontains tag

theorem done_error (carried : Bool) (cycle : ReportCycle) (error : Text) (log : List ReportEvent) :
    cycle.done carried (.error error) log = [] := by
  unfold ReportCycle.done
  split
  · rename_i h
    cases h
  · rfl

theorem done_unsaved (carried : Bool) (cycle : ReportCycle) (result : Except Text NodeActivityBatchReport)
    (log : List ReportEvent) (h : reportedOn log = []) : cycle.done carried result log = [] := by
  unfold ReportCycle.done
  split
  · rw [h, List.filter_nil]
  · rfl

theorem reportedOn_saved (before drained records : List KeliCoreTrafficRecord) (rest : List ReportEvent) :
    reportedOn (.drained before drained :: .spooled before records :: rest) = records :=
  rfl

/-- The records a finished cycle had spooled are reported, dropped or kept. -/
theorem count_done {cycle : ReportCycle} {corePlan : CorePlan} (hplan : cycle.plan.corePlan = some corePlan)
    (batch : NodeActivityBatchReport) {log : List ReportEvent} {records : List KeliCoreTrafficRecord}
    (hrecords : reportedOn log = records) (v : KeliCoreTrafficRecord) :
    records.count v = (cycle.done true (.ok batch) log).count v + (cycle.done false (.ok batch) log).count v +
      (failedKeliCoreRecords corePlan records batch).count v := by
  simp only [ReportCycle.done, hplan, hrecords, failedKeliCoreRecords_eq, count_filter_eq]
  cases belongsToFailed corePlan batch v <;> cases carriedBy corePlan cycle.userLookup log v <;> simp

theorem count_failedKeliCoreRecords_le (corePlan : CorePlan) (records : List KeliCoreTrafficRecord)
    (batch : NodeActivityBatchReport) (v : KeliCoreTrafficRecord) :
    (failedKeliCoreRecords corePlan records batch).count v ≤ records.count v := by
  unfold failedKeliCoreRecords
  split
  · simp
  · exact List.filter_sublist.count_le v

/-- **One cycle conserves records**: what was there and what was drained is reported, dropped, spooled, requeued, lost
or folded. -/
theorem cycle_conserves {cycle : ReportCycle} {before after : List KeliCoreTrafficRecord}
    {result : Except Text NodeActivityBatchReport} {log : List ReportEvent}
    (h : CycleCase cycle before result after log) (v : KeliCoreTrafficRecord) :
    before.count v + (log.flatMap ReportEvent.drainedRecords).count v =
      (cycle.done true result log).count v + (cycle.done false result log).count v + after.count v +
        (log.flatMap (ReportEvent.requeuedRecords true)).count v +
        (log.flatMap (ReportEvent.requeuedRecords false)).count v +
        (log.flatMap ReportEvent.foldedRecords).count v := by
  cases h with
  | quiet result hresult => simp [done_unsaved _ cycle result [] rfl]
  | empty drained hnone =>
    obtain ⟨happend, hcount⟩ := appendUnique_spec before drained
    have hv := hcount v
    rw [hnone] at happend
    obtain ⟨_, hnew⟩ := List.append_eq_nil_iff.1 happend.symm
    simp only [hnew, List.count_nil] at hv
    simp only [done_unsaved _ cycle _ [.drained before drained] rfl, List.flatMap_cons, List.flatMap_nil,
      List.append_nil, ReportEvent.drainedRecords, ReportEvent.requeuedRecords, ReportEvent.foldedRecords, List.count_nil]
    omega
  | requeued error drained ok =>
    have hv := (appendUnique_spec before drained).2 v
    by_cases hnew : (appendUniqueKeliCoreRecords before drained).2.isEmpty = true
    · have hzero : (appendUniqueKeliCoreRecords before drained).2.count v = 0 := by
        rw [List.isEmpty_iff.1 hnew]
        rfl
      rw [if_pos hnew]
      simp only [done_error, List.flatMap_cons, List.flatMap_nil, List.append_nil, ReportEvent.drainedRecords,
        ReportEvent.requeuedRecords, ReportEvent.foldedRecords, List.count_nil]
      omega
    · rw [if_neg hnew]
      cases ok <;>
        simp only [done_error, List.flatMap_cons, List.flatMap_nil, List.append_nil, List.nil_append,
          ReportEvent.drainedRecords, ReportEvent.requeuedRecords, ReportEvent.foldedRecords, List.count_nil, if_true,
          Bool.false_eq_true, Bool.true_eq_false, if_false] <;>
        omega
  | reported drained corePlan batch events hreported =>
    obtain ⟨happend, hcount⟩ := appendUnique_spec before drained
    have hv := hcount v
    have hrecords : (appendUniqueKeliCoreRecords before drained).1.count v =
        before.count v + (appendUniqueKeliCoreRecords before drained).2.count v := by
      rw [happend, List.count_append]
    have hdone := count_done hreported.planned batch (reportedOn_saved before drained
      (appendUniqueKeliCoreRecords before drained).1 (events ++ [.spooled (appendUniqueKeliCoreRecords before drained).1
        (failedKeliCoreRecords corePlan (appendUniqueKeliCoreRecords before drained).1 batch)])) v
    repeat rw [flatMap_reportedLog hreported _ _ _ (fun _ _ _ => rfl) fun _ => rfl]
    simp only [ReportEvent.drainedRecords, ReportEvent.requeuedRecords, ReportEvent.foldedRecords, List.count_append,
      List.count_nil, List.cons_append] at hdone ⊢
    omega
  | unsaved error drained corePlan batch events hreported =>
    obtain ⟨happend, hcount⟩ := appendUnique_spec before drained
    have hv := hcount v
    have hrecords : (appendUniqueKeliCoreRecords before drained).1.count v =
        before.count v + (appendUniqueKeliCoreRecords before drained).2.count v := by
      rw [happend, List.count_append]
    repeat rw [flatMap_reportedLog hreported _ _ _ (fun _ _ _ => rfl) fun _ => rfl]
    simp only [done_error, ReportEvent.drainedRecords, ReportEvent.requeuedRecords, ReportEvent.foldedRecords,
      List.count_append, List.count_nil]
    omega

/-- The books balance: every record of the first spool or of a drain is accounted for once. -/
def Balanced (start spool : List KeliCoreTrafficRecord) (ledger : Ledger) : Prop :=
  ∀ v, start.count v + ledger.drained.count v = ledger.reported.count v + ledger.dropped.count v + spool.count v +
    ledger.requeued.count v + ledger.lost.count v + ledger.folded.count v

theorem balanced_run (env : ReportEnv σ) {start : List KeliCoreTrafficRecord} (cycles : List ReportCycle)
    {world : ReportWorld σ} {ledger : Ledger} (h : Balanced start world.spool ledger) :
    Balanced start (runCycles env cycles world ledger).1.spool (runCycles env cycles world ledger).2 := by
  induction cycles generalizing world ledger with
  | nil => exact h
  | cons cycle cycles ih =>
    refine ih fun v => ?_
    have hbefore := h v
    have hcycle := cycle_conserves (cycle_cases env cycle world) v
    simp only [Ledger.add, List.count_append]
    omega

def uploadBytes (records : List KeliCoreTrafficRecord) : Nat := (records.map (·.upload)).sum

def downloadBytes (records : List KeliCoreTrafficRecord) : Nat := (records.map (·.download)).sum

theorem Balanced.total {start spool : List KeliCoreTrafficRecord} {ledger : Ledger}
    (h : Balanced start spool ledger) (bytes : KeliCoreTrafficRecord → Nat) :
    (start.map bytes).sum + (ledger.drained.map bytes).sum =
      (ledger.reported.map bytes).sum + (ledger.dropped.map bytes).sum + (spool.map bytes).sum +
        (ledger.requeued.map bytes).sum + (ledger.folded.map bytes).sum + (ledger.lost.map bytes).sum := by
  have hperm : (start ++ ledger.drained).Perm
      (ledger.reported ++ (ledger.dropped ++ (spool ++ (ledger.requeued ++ (ledger.lost ++ ledger.folded))))) := by
    rw [List.perm_iff_count]
    intro v
    have := h v
    simp only [List.count_append]
    omega
  have hsum := (hperm.map bytes).sum_nat
  simp only [List.map_append, List.sum_append] at hsum
  omega

/-! ## Billing -/

/-- What a cycle must not meet: an online report that fails after the traffic was taken, a save that fails
after a request was accepted, and ambiguous tags. -/
structure CycleSafe (cycle : ReportCycle) (log : List ReportEvent) : Prop where
  atomic : ∀ tag spool traffic, .accepted tag spool traffic ∈ log → .onlineFailed tag ∉ log
  saved : ∀ tag spool traffic, .accepted tag spool traffic ∈ log → .saveFailed ∉ log
  distinct : ((runtimeActivityTargets cycle.plan).map (·.tag)).Nodup
  apart : ∀ corePlan, cycle.plan.corePlan = some corePlan → TagsApart corePlan

theorem count_billedRecords {corePlan : CorePlan} {lookup : KeliCoreUserIdLookup} {records : List KeliCoreTrafficRecord}
    {v : KeliCoreTrafficRecord} {events : List ReportEvent}
    (hspool : ∀ tag spool traffic, .accepted tag spool traffic ∈ events → spool = records) {target : Option Text}
    (htarget : (keliCoreRecordReportTarget corePlan v lookup).map (·.1) = target) :
    (events.flatMap (billedRecords corePlan lookup)).count v =
      (target.elim 0 fun tag => events.countP (·.accepts tag)) * records.count v := by
  induction events with
  | nil => cases target <;> simp
  | cons event events ih =>
    have ih := ih fun tag spool traffic hm => hspool tag spool traffic (List.mem_cons_of_mem _ hm)
    rw [List.flatMap_cons, List.count_append, ih]
    cases event with
    | accepted tag spool traffic =>
      rw [hspool tag spool traffic List.mem_cons_self, billedRecords]
      by_cases hv : target = some tag
      · subst hv
        rw [List.count_filter (by simp [htarget])]
        simp only [Option.elim_some, List.countP_cons, ReportEvent.accepts, decide_true, if_true]
        rw [Nat.add_mul, Nat.one_mul, Nat.add_comm]
      · have hzero : (records.filter fun record =>
            (keliCoreRecordReportTarget corePlan record lookup).map (·.1) = some tag).count v = 0 := by
          rw [List.count_eq_zero]
          intro hm
          have hm := (List.mem_filter.1 hm).2
          rw [decide_eq_true_eq, htarget] at hm
          exact hv hm
        rw [hzero, Nat.zero_add]
        cases target with
        | none => rfl
        | some other =>
          have hne : tag ≠ other := fun h => hv (by rw [h])
          simp [List.countP_cons, ReportEvent.accepts, hne]
    | drained spool records => cases target <;> simp [billedRecords, ReportEvent.accepts]
    | requeued records ok => cases target <;> simp [billedRecords, ReportEvent.accepts]
    | spooled before after => cases target <;> simp [billedRecords, ReportEvent.accepts]
    | saveFailed => cases target <;> simp [billedRecords, ReportEvent.accepts]
    | onlineFailed tag => cases target <;> simp [billedRecords, ReportEvent.accepts]

theorem exists_of_accepts {tag : Text} {events : List ReportEvent} (h : 0 < events.countP (·.accepts tag)) :
    ∃ spool traffic, .accepted tag spool traffic ∈ events := by
  obtain ⟨event, he, haccepts⟩ := List.countP_pos_iff.1 h
  cases event with
  | accepted requestTag spool traffic =>
    have hrequest : requestTag = tag := by simpa [ReportEvent.accepts] using haccepts
    subst hrequest
    exact ⟨spool, traffic, he⟩
  | drained spool records => cases haccepts
  | requeued records ok => cases haccepts
  | spooled before after => cases haccepts
  | saveFailed => cases haccepts
  | onlineFailed tag => cases haccepts

section

variable {cycle : ReportCycle} {corePlan : CorePlan} {records : List KeliCoreTrafficRecord}
  {batch : NodeActivityBatchReport} {events : List ReportEvent}
  (h : Reported cycle corePlan records batch events)
include h

theorem Reported.accepted_spool : ∀ tag spool traffic, .accepted tag spool traffic ∈ events → spool = records := by
  intro tag spool traffic hm
  obtain ⟨target, _, ⟨snapshot, _, heq⟩ | heq⟩ := h.batched.known _ hm
  · injection heq
  · cases heq

/-- The traffic of an accepted request is the sum of the records it is said to carry. -/
theorem Reported.accepted_traffic {tag : Text} {spool : List KeliCoreTrafficRecord} {traffic : List UserTraffic}
    (hm : .accepted tag spool traffic ∈ events) :
    traffic = (sumRecords {} (recordsFor corePlan cycle.userLookup spool tag)).traffic := by
  have hspool := h.accepted_spool tag spool traffic hm
  obtain ⟨target, _, ⟨snapshot, hsnap, heq⟩ | heq⟩ := h.batched.known _ hm
  · injection heq with htag _ htraffic
    rw [← htag, snapshots_spec] at hsnap
    split at hsnap
    · cases hsnap
    · rw [htraffic, ← Option.some.inj hsnap, hspool]
  · cases heq

/-- A tag that failed was not accepted. -/
theorem Reported.failed_not_accepted {log : List ReportEvent} (hsub : ∀ event ∈ events, event ∈ log)
    (hsafe : CycleSafe cycle log) {failure : NodeActivityFailure} (hf : failure ∈ batch.failures) :
    events.countP (·.accepts failure.tag) = 0 := by
  by_contra hne
  have hpos : 0 < events.countP (·.accepts failure.tag) := Nat.pos_of_ne_zero hne
  have hhalf := h.batched.half hsafe.distinct failure hf hpos
  obtain ⟨spool, traffic, hm⟩ := exists_of_accepts hpos
  exact hsafe.atomic _ spool traffic (hsub _ hm) (hsub _ hhalf)

/-- What was accepted is not kept, and it was accepted once. -/
theorem Reported.billed_add_kept_le {log : List ReportEvent} (hsub : ∀ event ∈ events, event ∈ log)
    (hsafe : CycleSafe cycle log) (v : KeliCoreTrafficRecord) :
    (events.flatMap (billedRecords corePlan cycle.userLookup)).count v +
      (failedKeliCoreRecords corePlan records batch).count v ≤ records.count v := by
  have hkept := count_failedKeliCoreRecords_le corePlan records batch v
  rw [count_billedRecords h.accepted_spool rfl]
  cases htarget : keliCoreRecordReportTarget corePlan v cycle.userLookup with
  | none => simpa using hkept
  | some target =>
    simp only [Option.map_some, Option.elim_some]
    have hone := h.batched.once hsafe.distinct target.1
    by_cases hzero : events.countP (·.accepts target.1) = 0
    · rw [hzero, Nat.zero_mul, Nat.zero_add]
      exact hkept
    · have hnot : (failedKeliCoreRecords corePlan records batch).count v = 0 := by
        rw [List.count_eq_zero]
        intro hm
        obtain ⟨_, tag, htag, failure, hf, hft⟩ := mem_failedKeliCoreRecords.1 hm
        rw [reportTag_of_reportTarget (hsafe.apart corePlan h.planned) htarget] at htag
        refine hzero ?_
        rw [Option.some.inj htag, ← hft]
        exact h.failed_not_accepted hsub hsafe hf
      have heq : events.countP (·.accepts target.1) = 1 := by omega
      rw [heq, hnot]
      omega

end

/-! ## Finished cycles -/

theorem flatMap_billed_reported {cycle : ReportCycle} {corePlan : CorePlan} (lookup : KeliCoreUserIdLookup)
    (before drained records kept : List KeliCoreTrafficRecord) (events : List ReportEvent)
    (hplan : cycle.plan.corePlan = some corePlan) (hlookup : cycle.userLookup = lookup) :
    cycle.billed (.drained before drained :: .spooled before records :: events ++ [.spooled records kept]) =
      events.flatMap (billedRecords corePlan lookup) := by
  simp [ReportCycle.billed, hplan, hlookup, billedRecords]

theorem accepted_reported (before drained records kept : List KeliCoreTrafficRecord) (events : List ReportEvent)
    (tag : Text) :
    (ReportEvent.drained before drained :: ReportEvent.spooled before records :: events ++
      [ReportEvent.spooled records kept]).any (·.accepts tag) = true ↔ 0 < events.countP (·.accepts tag) := by
  simp [ReportEvent.accepts, List.countP_pos_iff]

/-- What a finished cycle reports was carried by a request. -/
theorem cycle_reported_le {cycle : ReportCycle} {before after : List KeliCoreTrafficRecord}
    {result : Except Text NodeActivityBatchReport} {log : List ReportEvent}
    (h : CycleCase cycle before result after log) (v : KeliCoreTrafficRecord) :
    (cycle.done true result log).count v ≤ (cycle.billed log).count v := by
  cases h with
  | quiet result hresult => simp [done_unsaved _ cycle result [] rfl]
  | empty drained hnone => simp [done_unsaved _ cycle _ [.drained before drained] rfl]
  | requeued error drained ok => simp [done_error]
  | unsaved error drained corePlan batch events hreported => simp [done_error]
  | reported drained corePlan batch events hreported =>
    rw [flatMap_billed_reported cycle.userLookup _ _ _ _ _ hreported.planned rfl,
      count_billedRecords hreported.accepted_spool rfl]
    simp only [ReportCycle.done, hreported.planned, List.cons_append, reportedOn_saved, count_filter_eq]
    split
    · rename_i hdone
      rw [Bool.and_eq_true, beq_iff_eq] at hdone
      obtain ⟨target, htarget, hany⟩ := (Option.any_eq_true _ _).1 hdone.2
      rw [← List.cons_append, ← List.cons_append, accepted_reported] at hany
      rw [htarget]
      exact Nat.le_mul_of_pos_left _ hany
    · exact Nat.zero_le _

theorem reported_le_billed (env : ReportEnv σ) (cycles : List ReportCycle) (world : ReportWorld σ)
    (v : KeliCoreTrafficRecord) : (runCycles env cycles world {}).2.reported.count v ≤
      (runCycles env cycles world {}).2.billed.count v := by
  have hrun : ∀ (cycles : List ReportCycle) (world : ReportWorld σ) (ledger : Ledger),
      ledger.reported.count v ≤ ledger.billed.count v →
      (runCycles env cycles world ledger).2.reported.count v ≤ (runCycles env cycles world ledger).2.billed.count v := by
    intro cycles
    induction cycles with
    | nil => exact fun _ _ h => h
    | cons cycle cycles ih =>
      intro world ledger h
      refine ih _ _ ?_
      have hcycle := cycle_reported_le (cycle_cases env cycle world) v
      simp only [Ledger.add, List.count_append]
      omega
  exact hrun cycles world {} (Nat.le_refl _)

/-- What a finished cycle drops has no panel, or no user. -/
theorem cycle_dropped {cycle : ReportCycle} {before after : List KeliCoreTrafficRecord}
    {result : Except Text NodeActivityBatchReport} {log : List ReportEvent}
    (h : CycleCase cycle before result after log) {v : KeliCoreTrafficRecord} (hv : v ∈ cycle.done false result log) :
    ∃ corePlan, cycle.plan.corePlan = some corePlan ∧
      (TagsApart corePlan → ∀ tag uid, keliCoreRecordReportTarget corePlan v cycle.userLookup = some (tag, uid) →
        tag ∉ (runtimeActivityTargets cycle.plan).map (·.tag)) := by
  cases h with
  | quiet result hresult =>
    rw [done_unsaved _ cycle result [] rfl] at hv
    cases hv
  | empty drained hnone =>
    rw [done_unsaved _ cycle _ [.drained before drained] rfl] at hv
    cases hv
  | requeued error drained ok =>
    rw [done_error] at hv
    cases hv
  | unsaved error drained corePlan batch events hreported =>
    rw [done_error] at hv
    cases hv
  | reported drained corePlan batch events hreported =>
    refine ⟨corePlan, hreported.planned, fun hapart tag uid htarget hmem => ?_⟩
    simp only [ReportCycle.done, hreported.planned, List.cons_append, reportedOn_saved, List.mem_filter] at hv
    obtain ⟨hrecord, hdone⟩ := hv
    rw [Bool.and_eq_true, beq_iff_eq, carriedBy, htarget, Option.any_some, ← List.cons_append, ← List.cons_append]
      at hdone
    obtain ⟨target, htargets, rfl⟩ := List.mem_map.1 hmem
    have hsnapshot : target.tag ∈ keliCoreTrafficSnapshotsWithUserLookup corePlan
        (appendUniqueKeliCoreRecords before drained).1 cycle.userLookup := by
      rw [Std.ExtTreeMap.mem_iff_isSome_getElem?, snapshots_spec,
        if_neg (List.ne_nil_of_mem (mem_recordsFor hrecord htarget))]
      rfl
    rcases hreported.batched.delivered target htargets hsnapshot with ⟨failure, hf, htag⟩ | hpos
    · -- the record would have been kept
      have hkept : belongsToFailed corePlan batch v = true := by
        rw [belongsToFailed, reportTag_of_reportTarget hapart htarget]
        exact List.any_eq_true.2 ⟨failure, hf, decide_eq_true htag⟩
      rw [hkept] at hdone
      cases hdone.1
    · rw [(accepted_reported _ _ _ _ _ _).2 hpos] at hdone
      cases hdone.2

theorem dropped_unreportable (env : ReportEnv σ) (cycles : List ReportCycle) (world : ReportWorld σ) :
    ∀ v ∈ (runCycles env cycles world {}).2.dropped, ∃ cycle ∈ cycles, ∃ corePlan,
      cycle.plan.corePlan = some corePlan ∧
      (TagsApart corePlan → ∀ tag uid, keliCoreRecordReportTarget corePlan v cycle.userLookup = some (tag, uid) →
        tag ∉ (runtimeActivityTargets cycle.plan).map (·.tag)) := by
  have hrun : ∀ (rest : List ReportCycle) (world : ReportWorld σ) (ledger : Ledger), rest ⊆ cycles →
      ∀ v ∈ (runCycles env rest world ledger).2.dropped, v ∈ ledger.dropped ∨ ∃ cycle ∈ cycles, ∃ corePlan,
        cycle.plan.corePlan = some corePlan ∧
        (TagsApart corePlan → ∀ tag uid, keliCoreRecordReportTarget corePlan v cycle.userLookup = some (tag, uid) →
          tag ∉ (runtimeActivityTargets cycle.plan).map (·.tag)) := by
    intro rest
    induction rest with
    | nil => exact fun _ _ _ v hv => .inl hv
    | cons cycle rest ih =>
      intro world ledger hsub v hv
      rcases ih _ _ (fun other hother => hsub (List.mem_cons_of_mem _ hother)) v hv with hv | hv
      · rcases List.mem_append.1 hv with hv | hv
        · exact .inl hv
        · exact .inr ⟨cycle, hsub List.mem_cons_self, cycle_dropped (cycle_cases env cycle world) hv⟩
      · exact .inr hv
  exact fun v hv => (hrun cycles world {} (List.Subset.refl _) v hv).resolve_left List.not_mem_nil

/-- **Spool conservation**: in every run, the bytes in the spool at the start and the bytes drained are the bytes
reported by cycles that finished, the bytes these dropped, the bytes in the spool, the bytes requeued, the bytes of
folded duplicates and the bytes whose requeue failed.  What is reported was billed, and what is dropped resolves to
no user of a node that there is a panel for. -/
theorem spool_conserved (env : ReportEnv σ) (cycles : List ReportCycle) (world : ReportWorld σ) :
    let after := (runCycles env cycles world {}).1
    let ledger := (runCycles env cycles world {}).2
    uploadBytes world.spool + uploadBytes ledger.drained =
      uploadBytes ledger.reported + uploadBytes ledger.dropped + uploadBytes after.spool + uploadBytes ledger.requeued +
        uploadBytes ledger.folded + uploadBytes ledger.lost ∧
    downloadBytes world.spool + downloadBytes ledger.drained =
      downloadBytes ledger.reported + downloadBytes ledger.dropped + downloadBytes after.spool +
        downloadBytes ledger.requeued + downloadBytes ledger.folded + downloadBytes ledger.lost ∧
    (∀ v, ledger.reported.count v ≤ ledger.billed.count v) ∧
    ∀ v ∈ ledger.dropped, ∃ cycle ∈ cycles, ∃ corePlan, cycle.plan.corePlan = some corePlan ∧
      (TagsApart corePlan → ∀ tag uid, keliCoreRecordReportTarget corePlan v cycle.userLookup = some (tag, uid) →
        tag ∉ (runtimeActivityTargets cycle.plan).map (·.tag)) := by
  have hstart : Balanced world.spool world.spool {} := by
    intro v
    simp
  have h := balanced_run env cycles hstart
  exact ⟨h.total _, h.total _, reported_le_billed env cycles world, dropped_unreportable env cycles world⟩

/-- **One safe cycle**: no record is both billed and kept, and none is billed twice. -/
theorem cycle_bills {cycle : ReportCycle} {before after : List KeliCoreTrafficRecord}
    {result : Except Text NodeActivityBatchReport} {log : List ReportEvent}
    (h : CycleCase cycle before result after log) (hsafe : CycleSafe cycle log) (v : KeliCoreTrafficRecord) :
    (cycle.billed log).count v + after.count v + (log.flatMap (ReportEvent.requeuedRecords true)).count v ≤
      before.count v + (log.flatMap ReportEvent.drainedRecords).count v := by
  have hconserve := cycle_conserves h v
  cases h with
  | quiet result hresult =>
    unfold ReportCycle.billed
    split <;> simp
  | empty drained hnone =>
    have hbilled : cycle.billed [.drained before drained] = [] := by
      unfold ReportCycle.billed
      split <;> simp [billedRecords]
    rw [hbilled, List.count_nil]
    omega
  | requeued error drained ok =>
    have hbilled : cycle.billed (.drained before drained :: .saveFailed ::
        if (appendUniqueKeliCoreRecords before drained).2.isEmpty then []
        else [.requeued (appendUniqueKeliCoreRecords before drained).2 ok]) = [] := by
      unfold ReportCycle.billed
      split
      · rfl
      · split <;> simp [billedRecords]
    rw [hbilled, List.count_nil]
    omega
  | reported drained corePlan batch events hreported =>
    obtain ⟨happend, hcount⟩ := appendUnique_spec before drained
    have hv := hcount v
    have hsub := hreported.billed_add_kept_le (fun event he => by simp [he]) hsafe v
    have hrecords : (appendUniqueKeliCoreRecords before drained).1.count v =
        before.count v + (appendUniqueKeliCoreRecords before drained).2.count v := by
      rw [happend, List.count_append]
    simp only [ReportCycle.billed, hreported.planned]
    rw [flatMap_reportedLog (f := ReportEvent.drainedRecords) hreported _ _ _ (fun _ _ _ => rfl) fun _ => rfl,
      flatMap_reportedLog (f := ReportEvent.requeuedRecords true) hreported _ _ _ (fun _ _ _ => rfl) fun _ => rfl]
    simp only [List.flatMap_cons, List.flatMap_append, List.flatMap_nil, List.cons_append, billedRecords,
      ReportEvent.drainedRecords, ReportEvent.requeuedRecords, List.nil_append, List.append_nil, List.count_nil]
    omega
  | unsaved error drained corePlan batch events hreported =>
    have hnone : events.flatMap (billedRecords corePlan cycle.userLookup) = [] := by
      refine List.flatMap_eq_nil_iff.2 fun event he => ?_
      cases event with
      | accepted tag spool traffic => exact absurd (by simp) (hsafe.saved tag spool traffic (by simp [he]))
      | drained spool records => rfl
      | requeued records ok => rfl
      | spooled before after => rfl
      | saveFailed => rfl
      | onlineFailed tag => rfl
    have hbilled : cycle.billed (.drained before drained ::
        .spooled before (appendUniqueKeliCoreRecords before drained).1 :: events ++ [.saveFailed]) = [] := by
      simp only [ReportCycle.billed, hreported.planned]
      simp [billedRecords, hnone]
    rw [hbilled, List.count_nil]
    omega

theorem cycle_failed_not_accepted {cycle : ReportCycle} {before after : List KeliCoreTrafficRecord}
    {result : Except Text NodeActivityBatchReport} {log : List ReportEvent}
    (h : CycleCase cycle before result after log) (hsafe : CycleSafe cycle log) (batch : NodeActivityBatchReport)
    (hresult : result = .ok batch) :
    ∀ failure ∈ batch.failures, ∀ spool traffic, .accepted failure.tag spool traffic ∉ log := by
  intro failure hf spool traffic hm
  cases h with
  | quiet result hquiet =>
    rw [hquiet batch hresult] at hf
    cases hf
  | empty drained hnone =>
    rw [← Except.ok.inj hresult] at hf
    cases hf
  | requeued error drained ok => cases hresult
  | reported drained corePlan batch' events hreported =>
    obtain rfl := Except.ok.inj hresult
    have hzero := hreported.failed_not_accepted (fun event he => by simp [he]) hsafe hf
    have hmem : .accepted failure.tag spool traffic ∈ events := by simpa using hm
    exact List.countP_eq_zero.1 hzero _ hmem (by simp [ReportEvent.accepts])
  | unsaved error drained corePlan batch events hreported => cases hresult

/-- **Nothing is billed twice**: in a run of safe cycles, a record is carried by no more accepted requests
than it was drained (less the times it went back to the core), and no request under a failed tag was accepted. -/
theorem billed_at_most_once (env : ReportEnv σ) (cycles : List ReportCycle) (world : ReportWorld σ)
    (hsafe : AlongRun env (fun cycle _ log => CycleSafe cycle log) cycles world) :
    (∀ v, (runCycles env cycles world {}).2.billed.count v + (runCycles env cycles world {}).1.spool.count v +
        (runCycles env cycles world {}).2.requeued.count v ≤
      world.spool.count v + (runCycles env cycles world {}).2.drained.count v) ∧
    AlongRun env (fun _ result log => ∀ batch, result = .ok batch →
      ∀ failure ∈ batch.failures, ∀ spool traffic, .accepted failure.tag spool traffic ∉ log) cycles world := by
  have hrun : ∀ (cycles : List ReportCycle) (world : ReportWorld σ) (ledger : Ledger),
      AlongRun env (fun cycle _ log => CycleSafe cycle log) cycles world →
      ∀ v, (runCycles env cycles world ledger).2.billed.count v + (runCycles env cycles world ledger).1.spool.count v +
          (runCycles env cycles world ledger).2.requeued.count v + ledger.drained.count v ≤
        ledger.billed.count v + world.spool.count v + ledger.requeued.count v +
          (runCycles env cycles world ledger).2.drained.count v := by
    intro cycles
    induction cycles with
    | nil =>
      intro world ledger _ v
      exact Nat.le_refl _
    | cons cycle cycles ih =>
      intro world ledger hsafe v
      have hcycle := cycle_bills (cycle_cases env cycle world) hsafe.1 v
      have hrest := ih (runCycle env cycle world).2
        (ledger.add cycle (runCycle env cycle world).1 (runCycle env cycle world).2.log) hsafe.2 v
      simp only [Ledger.add, List.count_append] at hrest
      simp only [runCycles]
      simp only [Ledger.add]
      omega
  refine ⟨fun v => ?_, ?_⟩
  · have := hrun cycles world {} hsafe v
    simp only [List.count_nil] at this
    omega
  · clear hrun
    induction cycles generalizing world with
    | nil => trivial
    | cons cycle cycles ih =>
      exact ⟨cycle_failed_not_accepted (cycle_cases env cycle world) hsafe.1, ih _ hsafe.2⟩

end

/-! ## Three panels -/

/-- Everything works but perhaps the panel; the drains are scripted. -/
def scriptedEnv (sender : NodeActivitySender (List (List KeliCoreTrafficRecord))) :
    ReportEnv (List (List KeliCoreTrafficRecord)) where
  isIpAddr _ := true
  controlClient _ s := (.ok (), s)
  loadSpool s := (.ok (), s)
  saveSpool s := (.ok (), s)
  drainTraffic _ s := (.ok (s.headD []), s.tail)
  requeueTraffic records s := (.ok records.length, s)
  commitDeviceLimitReport _ s := (.ok (), s)
  panelClient _ := .ok sender

/-- A panel without the unified endpoint whose online endpoint fails. -/
def legacyPanelOnlineDown : NodeActivitySender (List (List KeliCoreTrafficRecord)) where
  reportSnapshot _ _ s := (.ok false, s)
  reportUserTraffic _ s := (.ok (), s)
  reportOnlineUsers _ s := (.error "alive endpoint unavailable", s)

def unreachablePanel : NodeActivitySender (List (List KeliCoreTrafficRecord)) where
  reportSnapshot _ _ s := (.error "connection refused", s)
  reportUserTraffic _ s := (.error "connection refused", s)
  reportOnlineUsers _ s := (.error "connection refused", s)

def oneNodeCycle : ReportCycle where
  plan := {
    resolved := { nodes := [{ nodeId := 1 }] }
    nodeInfos := [{ id := 1, protocol := .vless, tag := "node-a" }]
    nodeFailures := []
    corePlan := some oneUserPlan
    hy2PortForward := {}
    mieruPortForward := {}
    subscriptionProxyOnly := false }
  userLookup := ∅

def onlineRecord : KeliCoreTrafficRecord where
  nodeTag := "node-a"
  userUuid := "uuid-a"
  upload := 10
  download := 20
  onlineIps := ["198.51.100.7"]

def laterRecord : KeliCoreTrafficRecord where
  nodeTag := "node-a"
  userUuid := "uuid-a"
  upload := 1
  download := 2

/-- A panel that is down until the last drain. -/
def latePanel : NodeActivitySender (List (List KeliCoreTrafficRecord)) where
  reportSnapshot _ _ s := (if s.isEmpty then .ok true else .error "connection refused", s)
  reportUserTraffic _ s := (.error "connection refused", s)
  reportOnlineUsers _ s := (.error "connection refused", s)

/-- The first cycle keeps its record for the second. -/
def lateStart : ReportWorld (List (List KeliCoreTrafficRecord)) where
  spool := []
  outside := [[onlineRecord], [laterRecord]]

theorem billed_at_most_once_retained :
    AlongRun (scriptedEnv latePanel) (fun cycle _ log => CycleSafe cycle log) [oneNodeCycle, oneNodeCycle] lateStart ∧
    (runCycle (scriptedEnv latePanel) oneNodeCycle lateStart).2.spool = [onlineRecord] ∧
    (runCycles (scriptedEnv latePanel) [oneNodeCycle, oneNodeCycle] lateStart {}).2.billed =
      [onlineRecord, laterRecord] ∧
    (∀ v, (runCycles (scriptedEnv latePanel) [oneNodeCycle, oneNodeCycle] lateStart {}).2.billed.count v +
        (runCycles (scriptedEnv latePanel) [oneNodeCycle, oneNodeCycle] lateStart {}).1.spool.count v +
        (runCycles (scriptedEnv latePanel) [oneNodeCycle, oneNodeCycle] lateStart {}).2.requeued.count v ≤
      lateStart.spool.count v +
        (runCycles (scriptedEnv latePanel) [oneNodeCycle, oneNodeCycle] lateStart {}).2.drained.count v) ∧
    AlongRun (scriptedEnv latePanel) (fun _ result log => ∀ batch, result = .ok batch →
      ∀ failure ∈ batch.failures, ∀ spool traffic, .accepted failure.tag spool traffic ∉ log)
      [oneNodeCycle, oneNodeCycle] lateStart := by
  have hfirst : (runCycle (scriptedEnv latePanel) oneNodeCycle lateStart).2.log =
      [.drained [] [onlineRecord], .spooled [] [onlineRecord], .spooled [onlineRecord] [onlineRecord]] := by
    decide +kernel
  have hsecond : (runCycle (scriptedEnv latePanel) oneNodeCycle
      (runCycle (scriptedEnv latePanel) oneNodeCycle lateStart).2).2.log =
      [.drained [onlineRecord] [laterRecord], .spooled [onlineRecord] [onlineRecord, laterRecord],
        .accepted "node-a" [onlineRecord, laterRecord] [⟨7, 11, 22⟩], .spooled [onlineRecord, laterRecord] []] := by
    decide +kernel
  have hapart : ∀ corePlan, oneNodeCycle.plan.corePlan = some corePlan → TagsApart corePlan := by
    intro corePlan hplan
    obtain rfl := Option.some.inj hplan
    exact tagsApart_oneUserPlan
  have hsafe : AlongRun (scriptedEnv latePanel) (fun cycle _ log => CycleSafe cycle log)
      [oneNodeCycle, oneNodeCycle] lateStart := by
    refine ⟨⟨?_, ?_, by decide, hapart⟩, ⟨?_, ?_, by decide, hapart⟩, trivial⟩
    · simp [hfirst]
    · simp [hfirst]
    · simp [hsecond]
    · simp [hsecond]
  exact ⟨hsafe, by decide +kernel, by decide +kernel, billed_at_most_once (scriptedEnv latePanel) _ _ hsafe⟩

/-- The panel takes the traffic, the online report fails, and the next cycle sends the same record again. -/
theorem traffic_billed_twice :
    let ledger := (runCycles (scriptedEnv legacyPanelOnlineDown) [oneNodeCycle, oneNodeCycle]
      { spool := [], outside := [[onlineRecord]] } {}).2
    ledger.drained = [onlineRecord] ∧ ledger.requeued = [] ∧ ledger.billed = [onlineRecord, onlineRecord] := by
  decide +kernel

/-- A record equal to one still in the spool disappears. -/
theorem equal_record_folded :
    let out := runCycles (scriptedEnv unreachablePanel) [oneNodeCycle, oneNodeCycle]
      { spool := [], outside := [[onlineRecord], [onlineRecord]] } {}
    uploadBytes out.2.drained = 20 ∧
    uploadBytes out.2.reported + uploadBytes out.2.dropped + uploadBytes out.1.spool + uploadBytes out.2.requeued = 10 := by
  decide +kernel

end KeliNode
