import KeliNode.Runtime.Plan
import Mathlib.Algebra.Group.Int.Defs

/-!
# Reporting traffic to the panel (`report.rs`)

A report cycle takes the records left in the spool, drains new ones from the core, aggregates them into one
snapshot a node, sends each snapshot to the node's panel and keeps the records of the nodes that failed.

| here | there |
|---|---|
| `keliCoreRecordReportTarget`, `keliCoreRecordReportTag` | `report.rs:172`, `:199` |
| `keliCoreTrafficSnapshotsWithUserLookup` | `report.rs:147` |
| `reportActivityWithFallback`, `reportActivityBatchWith` | `report.rs:250`, `:283` |
| `appendUniqueKeliCoreRecords`, `savePendingOrRequeueDrained` | `report.rs:523`, `:538` |
| `reportKeliCoreActivityToPanelWithUserLookup` | `report.rs:379` |

The panel, the core's control socket and the file system are a `ReportEnv` over an arbitrary state, so that
every answer is possible.  The spool file is a list of records: `serde_json` reads back what it wrote, a
missing or empty file is the empty list, and a save that fails leaves the file as it was (the new content is
written beside it and renamed).  Every call that moves records across the agent's boundary is logged.
-/

namespace KeliNode

open Lib

/-! ## Records and snapshots -/

/-- `KeliCoreTrafficRecord` (`core_control.rs:114`). -/
structure KeliCoreTrafficRecord where
  nodeTag : Text
  userUuid : Text
  userId : Option Nat := none
  upload : Nat
  download : Nat
  onlineIps : List Text := []
  deriving DecidableEq, Repr

/-- `UserTraffic`, with `i64` counters. -/
structure UserTraffic where
  uid : Nat
  upload : Int
  download : Int
  deriving DecidableEq, Repr

abbrev OnlineMap := BTreeMap Nat (List Text)

structure NodeActivitySnapshot where
  traffic : List UserTraffic := []
  online : OnlineMap := ∅

def NodeActivitySnapshot.isEmpty (snapshot : NodeActivitySnapshot) : Bool :=
  snapshot.traffic.isEmpty && snapshot.online.isEmpty

structure NodeActivityTarget where
  tag : Text
  config : NodeConfig
  deriving DecidableEq

structure NodeActivityReport where
  skipped : Bool := false
  unified : Bool := false
  legacyTraffic : Bool := false
  legacyOnline : Bool := false
  deriving DecidableEq

structure NodeActivityFailure where
  tag : Text
  error : Text
  deriving DecidableEq

structure NodeActivityBatchReport where
  reported : Nat := 0
  skipped : Nat := 0
  failures : List NodeActivityFailure := []
  deriving DecidableEq

/-- `KeliCoreUserIdLookup`: user ids by node tag and uuid. -/
abbrev KeliCoreUserIdLookup := BTreeMap Text (BTreeMap Text Nat)

/-! ## Which node and user a record belongs to -/

/-- `normalize_keli_core_record_tag` (`report.rs:209`). -/
def normalizeKeliCoreRecordTag (recordTag inboundTag : Text) : Option Text :=
  if recordTag = inboundTag then some inboundTag
  else match List.isPrefixOf? inboundTag recordTag with
    | none => none
    | some suffix =>
      match List.isPrefixOf? ("|port:" : Text) suffix with
      | some port => if !port.isEmpty && port.all Char.isDigit then some inboundTag else none
      | none => none

/-- The user id of a record at an inbound: its own id, the runtime lookup, then the inbound's users. -/
def keliCoreRecordUid (record : KeliCoreTrafficRecord) (userLookup : KeliCoreUserIdLookup) (nodeTag : Text)
    (inbound : InboundPlan) : Option Nat :=
  let own := record.userId.bind fun id => if id < 2 ^ 32 then some id else none
  let known := own.or (userLookup[nodeTag]?.bind fun users => users[record.userUuid]?)
  known.or ((inbound.users.find? (·.uuid = record.userUuid)).map (·.id))

/-- `keli_core_record_report_target` (`report.rs:172`). -/
def keliCoreRecordReportTarget (corePlan : CorePlan) (record : KeliCoreTrafficRecord)
    (userLookup : KeliCoreUserIdLookup) : Option (Text × Nat) :=
  corePlan.inbounds.findSome? fun inbound =>
    (normalizeKeliCoreRecordTag record.nodeTag inbound.tag).bind fun nodeTag =>
      (keliCoreRecordUid record userLookup nodeTag inbound).map fun uid => (nodeTag, uid)

/-- `keli_core_record_report_tag` (`report.rs:199`). -/
def keliCoreRecordReportTag (corePlan : CorePlan) (record : KeliCoreTrafficRecord) : Option Text :=
  corePlan.inbounds.findSome? fun inbound => normalizeKeliCoreRecordTag record.nodeTag inbound.tag

/-! ## Aggregation -/

def i64Max : Int := 2 ^ 63 - 1

/-- `u64_to_i64` (`report.rs:246`). -/
def u64ToI64 (value : Nat) : Int := min value i64Max

/-- `i64::saturating_add`. -/
def saturatingAdd (a b : Int) : Int := max (-2 ^ 63) (min (a + b) i64Max)

/-- `merge_user_traffic` (`report.rs:220`): add to the user's first row, or append a row. -/
def mergeUserTraffic (uid : Nat) (upload download : Int) : List UserTraffic → List UserTraffic
  | [] => [{ uid, upload, download }]
  | item :: traffic =>
    if item.uid = uid then
      { item with upload := saturatingAdd item.upload upload, download := saturatingAdd item.download download } ::
        traffic
    else item :: mergeUserTraffic uid upload download traffic

/-- `merge_online_ips` (`report.rs:233`). -/
def mergeOnlineIps (online : OnlineMap) (uid : Nat) (ips : List Text) : OnlineMap :=
  if ips.isEmpty then online
  else
    let entry := ips.foldl (fun entry ip => if entry.contains ip then entry else entry ++ [ip]) (online.getD uid [])
    online.insert uid (entry.mergeSort fun a b => (compare a b).isLE)

/-- One record of one user, added to its node's snapshot. -/
def NodeActivitySnapshot.add (snapshot : NodeActivitySnapshot) (record : KeliCoreTrafficRecord) (uid : Nat) :
    NodeActivitySnapshot where
  traffic := mergeUserTraffic uid (u64ToI64 record.upload) (u64ToI64 record.download) snapshot.traffic
  online := mergeOnlineIps snapshot.online uid record.onlineIps

abbrev ActivitySnapshots := BTreeMap Text NodeActivitySnapshot

/-- One pass of the aggregation loop. -/
def addRecord (corePlan : CorePlan) (userLookup : KeliCoreUserIdLookup) (snapshots : ActivitySnapshots)
    (record : KeliCoreTrafficRecord) : ActivitySnapshots :=
  match keliCoreRecordReportTarget corePlan record userLookup with
  | none => snapshots
  | some (nodeTag, uid) => snapshots.insert nodeTag ((snapshots.getD nodeTag {}).add record uid)

/-- `keli_core_traffic_snapshots_with_user_lookup` (`report.rs:147`). -/
def keliCoreTrafficSnapshotsWithUserLookup (corePlan : CorePlan) (records : List KeliCoreTrafficRecord)
    (userLookup : KeliCoreUserIdLookup) : ActivitySnapshots :=
  records.foldl (addRecord corePlan userLookup) ∅

/-! ## Sending -/

/-- `NodeActivitySender`: a panel client; every call may change the state `σ`. -/
structure NodeActivitySender (σ : Type) where
  reportSnapshot : List UserTraffic → OnlineMap → σ → Except Text Bool × σ
  reportUserTraffic : List UserTraffic → σ → Except Text Unit × σ
  reportOnlineUsers : OnlineMap → σ → Except Text Unit × σ

section

variable {σ : Type}

/-- The second legacy call. -/
def reportLegacyOnline (sender : NodeActivitySender σ) (snapshot : NodeActivitySnapshot)
    (report : NodeActivityReport) (s : σ) : Except Text NodeActivityReport × σ :=
  if snapshot.online.isEmpty then (.ok report, s)
  else match sender.reportOnlineUsers snapshot.online s with
    | (.error error, s) => (.error error, s)
    | (.ok (), s) => (.ok { report with legacyOnline := true }, s)

/-- `report_activity_with_fallback` (`report.rs:250`). -/
def reportActivityWithFallback (sender : NodeActivitySender σ) (snapshot : NodeActivitySnapshot) (s : σ) :
    Except Text NodeActivityReport × σ :=
  if snapshot.isEmpty then (.ok { skipped := true }, s)
  else match sender.reportSnapshot snapshot.traffic snapshot.online s with
    | (.error error, s) => (.error error, s)
    | (.ok true, s) => (.ok { unified := true }, s)
    | (.ok false, s) =>
      if snapshot.traffic.isEmpty then reportLegacyOnline sender snapshot {} s
      else match sender.reportUserTraffic snapshot.traffic s with
        | (.error error, s) => (.error error, s)
        | (.ok (), s) => reportLegacyOnline sender snapshot { legacyTraffic := true } s

/-- `report_activity_to_panel` (`report.rs:309`): the same calls, once the client is built. -/
def reportActivityToPanel (client : Except Text (NodeActivitySender σ)) (snapshot : NodeActivitySnapshot) (s : σ) :
    Except Text NodeActivityReport × σ :=
  if snapshot.isEmpty then (.ok { skipped := true }, s)
  else match client with
    | .error error => (.error error, s)
    | .ok sender => reportActivityWithFallback sender snapshot s

/-- What the batch loop makes of one answer. -/
def NodeActivityBatchReport.record (batch : NodeActivityBatchReport) (tag : Text) :
    Except Text NodeActivityReport → NodeActivityBatchReport
  | .ok report =>
    if report.skipped then { batch with skipped := batch.skipped + 1 }
    else { batch with reported := batch.reported + 1 }
  | .error error => { batch with failures := batch.failures ++ [{ tag, error }] }

/-- `report_activity_batch_with` (`report.rs:283`). -/
def reportActivityBatchWith (snapshots : ActivitySnapshots)
    (reportOne : NodeActivityTarget → NodeActivitySnapshot → σ → Except Text NodeActivityReport × σ) :
    List NodeActivityTarget → NodeActivityBatchReport → σ → NodeActivityBatchReport × σ
  | [], batch, s => (batch, s)
  | target :: targets, batch, s =>
    match snapshots[target.tag]? with
    | none => reportActivityBatchWith snapshots reportOne targets { batch with skipped := batch.skipped + 1 } s
    | some snapshot =>
      let (answer, s) := reportOne target snapshot s
      reportActivityBatchWith snapshots reportOne targets (batch.record target.tag answer) s

/-- `report_activity_batch_to_panel` (`report.rs:351`). -/
def reportActivityBatchToPanel (client : NodeActivityTarget → Except Text (NodeActivitySender σ))
    (targets : List NodeActivityTarget) (snapshots : ActivitySnapshots) (s : σ) : NodeActivityBatchReport × σ :=
  reportActivityBatchWith snapshots (fun target => reportActivityToPanel (client target)) targets {} s

end

/-! ## What is kept -/

/-- `failed_keli_core_records` (`report.rs:115`). -/
def failedKeliCoreRecords (corePlan : CorePlan) (records : List KeliCoreTrafficRecord)
    (batch : NodeActivityBatchReport) : List KeliCoreTrafficRecord :=
  if batch.failures.isEmpty then []
  else records.filter fun record =>
    match keliCoreRecordReportTag corePlan record with
    | some tag => (batch.failures.map (·.tag)).contains tag
    | none => false

/-- `append_unique_keli_core_records` (`report.rs:523`): the records extended, and the new ones. -/
def appendUniqueKeliCoreRecords (records : List KeliCoreTrafficRecord) (drained : List KeliCoreTrafficRecord) :
    List KeliCoreTrafficRecord × List KeliCoreTrafficRecord :=
  drained.foldl (fun (records, appended) record =>
    if records.contains record then (records, appended) else (records ++ [record], appended ++ [record])) (records, [])

/-- `runtime_activity_targets` (`report.rs:556`). -/
def runtimeActivityTargets (plan : RuntimeBootstrapPlan) : List NodeActivityTarget :=
  plan.nodeInfos.filterMap fun node =>
    (nodeConfigForInfo plan.resolved node.id node.tag).map fun config => { tag := node.tag, config }

/-- `minimum_report_bytes` (`report.rs:570`). -/
def minimumReportBytes (plan : RuntimeBootstrapPlan) : Nat :=
  ((plan.nodeInfos.filterMap fun node => node.common.baseConfig.map (·.nodeReportMinTraffic)).max?).getD 0

structure KeliCoreDeviceLimitOnlineRecord where
  nodeTag : Text
  userId : Nat
  ip : Text
  deriving DecidableEq

/-- `device_limit_snapshot_target_tags` (`report.rs:469`). -/
def deviceLimitSnapshotTargetTags (corePlan : CorePlan) (nodeTag : Text) : List Text :=
  let tags := corePlan.inbounds.map (·.tag)
  tags.filter (· = nodeTag) ++ tags.filter fun tag => tag ≠ nodeTag && (nodeTag ++ "|port:").isPrefixOf tag

/-- `device_limit_online_records_from_successful_snapshots` (`report.rs:490`); `isIpAddr` is
`parse::<IpAddr>().is_ok()`. -/
def deviceLimitOnlineRecordsFromSuccessfulSnapshots (isIpAddr : Text → Bool) (corePlan : CorePlan)
    (snapshots : ActivitySnapshots) (batch : NodeActivityBatchReport) : List KeliCoreDeviceLimitOnlineRecord :=
  snapshots.toList.flatMap fun (nodeTag, snapshot) =>
    if (batch.failures.map (·.tag)).contains nodeTag then []
    else (deviceLimitSnapshotTargetTags corePlan nodeTag).flatMap fun targetTag =>
      snapshot.online.toList.flatMap fun (userId, ips) =>
        (ips.filter isIpAddr).map fun ip => { nodeTag := targetTag, userId, ip }

/-! ## The cycle -/

/-- Everything outside the agent: the panel, the core's control socket and the file system. -/
structure ReportEnv (σ : Type) where
  isIpAddr : Text → Bool
  controlClient : Text → σ → Except Text Unit × σ
  loadSpool : σ → Except Text Unit × σ
  saveSpool : σ → Except Text Unit × σ
  drainTraffic : Nat → σ → Except Text (List KeliCoreTrafficRecord) × σ
  requeueTraffic : List KeliCoreTrafficRecord → σ → Except Text Nat × σ
  commitDeviceLimitReport : List KeliCoreDeviceLimitOnlineRecord → σ → Except Text Unit × σ
  panelClient : NodeConfig → Except Text (NodeActivitySender σ)

/-- What crossed the agent's boundary.  The spool's content at the time stands beside the call. -/
inductive ReportEvent where
  | drained (spool records : List KeliCoreTrafficRecord)
  | requeued (records : List KeliCoreTrafficRecord) (ok : Bool)
  | spooled (before after : List KeliCoreTrafficRecord)
  | saveFailed
  | accepted (tag : Text) (spool : List KeliCoreTrafficRecord) (traffic : List UserTraffic)
  | onlineFailed (tag : Text)
  deriving DecidableEq

structure ReportWorld (σ : Type) where
  spool : List KeliCoreTrafficRecord
  log : List ReportEvent := []
  outside : σ

section

variable {σ : Type}

def ReportWorld.note (world : ReportWorld σ) (event : ReportEvent) : ReportWorld σ :=
  { world with log := world.log ++ [event] }

/-- A call to the outside that leaves the spool alone. -/
def ReportWorld.ask {α : Type} (call : σ → Except Text α × σ) (world : ReportWorld σ) :
    Except Text α × ReportWorld σ :=
  let (answer, outside) := call world.outside
  (answer, { world with outside })

/-- A panel client that notes the requests the panel accepts and the online reports it refuses. -/
def notedSender (tag : Text) (sender : NodeActivitySender σ) : NodeActivitySender (ReportWorld σ) where
  reportSnapshot traffic online world :=
    match world.ask (sender.reportSnapshot traffic online) with
    | (.ok true, world) => (.ok true, world.note (.accepted tag world.spool traffic))
    | other => other
  reportUserTraffic traffic world :=
    match world.ask (sender.reportUserTraffic traffic) with
    | (.ok (), world) => (.ok (), world.note (.accepted tag world.spool traffic))
    | other => other
  reportOnlineUsers online world :=
    match world.ask (sender.reportOnlineUsers online) with
    | (.error error, world) => (.error error, world.note (.onlineFailed tag))
    | other => other

variable (env : ReportEnv σ)

/-- The panel client of a target. -/
def ReportEnv.clientFor (target : NodeActivityTarget) : Except Text (NodeActivitySender (ReportWorld σ)) :=
  (env.panelClient target.config).map (notedSender target.tag)

/-- `load_pending_keli_core_traffic` (`report.rs:599`). -/
def loadPendingKeliCoreTraffic (world : ReportWorld σ) :
    Except Text (List KeliCoreTrafficRecord) × ReportWorld σ :=
  match world.ask env.loadSpool with
  | (.error error, world) => (.error error, world)
  | (.ok (), world) => (.ok world.spool, world)

/-- `save_pending_keli_core_traffic` (`report.rs:613`). -/
def savePendingKeliCoreTraffic (records : List KeliCoreTrafficRecord) (world : ReportWorld σ) :
    Except Text Unit × ReportWorld σ :=
  match world.ask env.saveSpool with
  | (.error error, world) => (.error error, world.note .saveFailed)
  | (.ok (), world) => (.ok (), { world.note (.spooled world.spool records) with spool := records })

def drainKeliCoreTraffic (minimumBytes : Nat) (world : ReportWorld σ) :
    Except Text (List KeliCoreTrafficRecord) × ReportWorld σ :=
  match world.ask (env.drainTraffic minimumBytes) with
  | (.ok records, world) => (.ok records, world.note (.drained world.spool records))
  | other => other

def requeueKeliCoreTraffic (records : List KeliCoreTrafficRecord) (world : ReportWorld σ) : ReportWorld σ :=
  match world.ask (env.requeueTraffic records) with
  | (answer, world) => world.note (.requeued records answer.toBool)

/-- `save_pending_or_requeue_drained` (`report.rs:538`): the requeue's own answer is ignored. -/
def savePendingOrRequeueDrained (records drained : List KeliCoreTrafficRecord) (world : ReportWorld σ) :
    Except Text Unit × ReportWorld σ :=
  match savePendingKeliCoreTraffic env records world with
  | (.error error, world) =>
    (.error error, if drained.isEmpty then world else requeueKeliCoreTraffic env drained world)
  | (.ok (), world) => (.ok (), world)

/-- The commit of the online records; a failure is only logged. -/
def commitOnlineRecords (records : List KeliCoreDeviceLimitOnlineRecord) (world : ReportWorld σ) : ReportWorld σ :=
  if records.isEmpty then world else (world.ask (env.commitDeviceLimitReport records)).2

/-- The reporting step: send the snapshots, commit the online records, keep what failed. -/
def reportSpooledRecords (plan : RuntimeBootstrapPlan) (corePlan : CorePlan) (userLookup : KeliCoreUserIdLookup)
    (records : List KeliCoreTrafficRecord) (world : ReportWorld σ) :
    Except Text NodeActivityBatchReport × ReportWorld σ :=
  let snapshots := keliCoreTrafficSnapshotsWithUserLookup corePlan records userLookup
  let (batch, world) := reportActivityBatchToPanel env.clientFor (runtimeActivityTargets plan) snapshots world
  let onlineRecords := deviceLimitOnlineRecordsFromSuccessfulSnapshots env.isIpAddr corePlan snapshots batch
  let world := commitOnlineRecords env onlineRecords world
  match savePendingKeliCoreTraffic env (failedKeliCoreRecords corePlan records batch) world with
  | (.error error, world) => (.error error, world)
  | (.ok (), world) => (.ok batch, world)

/-- `report_keli_core_activity_to_panel_with_user_lookup` (`report.rs:379`). -/
def reportKeliCoreActivityToPanelWithUserLookup (plan : RuntimeBootstrapPlan) (userLookup : KeliCoreUserIdLookup)
    (world : ReportWorld σ) : Except Text NodeActivityBatchReport × ReportWorld σ :=
  match plan.corePlan with
  | none => (.ok {}, world)
  | some corePlan =>
    match world.ask (env.controlClient corePlan.configPath) with
    | (.error error, world) => (.error error, world)
    | (.ok (), world) =>
      match loadPendingKeliCoreTraffic env world with
      | (.error error, world) => (.error error, world)
      | (.ok pending, world) =>
        match drainKeliCoreTraffic env (minimumReportBytes plan) world with
        | (.error error, world) => (.error error, world)
        | (.ok drained, world) =>
          let (records, drained) := appendUniqueKeliCoreRecords pending drained
          if records.isEmpty then (.ok {}, world)
          else match savePendingOrRequeueDrained env records drained world with
            | (.error error, world) => (.error error, world)
            | (.ok (), world) => reportSpooledRecords env plan corePlan userLookup records world

end

end KeliNode
