import KeliNode.Control.Converge
import KeliNode.Report.Activity
import KeliNode.Runner.Users

/-!
# One tick of the runtime loop (`runner.rs`)

A tick first brings user changes to the core: by deltas over the control socket where it can, by a rebuild of
the plan where it cannot.  Then it applies the plan, and after a rebuild sends the full user lists of the
changed nodes, so that the core and the agent agree on their revisions.

| here | there |
|---|---|
| `tryApplyKeliCoreRsUserDeltas` | `runner.rs:1016` |
| `tryEstablishKeliCoreRsRevisionBaseline` | `runner.rs:1200` |
| `ensureKeliCoreRsRestartUsesLatestUsers` | `runner.rs:1376` |
| `runTick` | `runner.rs:492` |
| `loopStep` | `runner.rs:1766`, `:1832` |

The answers of one tick are a `TickAnswers`: an `Option Text` is the error a call fails with.  A user delta
that is not refused this way is answered by the core itself (`RunningCore.applyUserDelta`).  Health, metrics,
device-limit snapshots, the report to the panel and the signal it brings read the loop's state only.
-/

namespace KeliNode

open Lib

/-! ## Payloads -/

/-- `keli_core_user_delta_user` (`runner.rs:1357`). -/
def keliCoreUserDeltaUser (deviceLimitFallback : Nat) (user : UserInfo) : CoreUser :=
  { id := user.id
    uuid := user.uuid
    speedLimit := user.speedLimit
    deviceLimit := effectiveDeviceLimit user.deviceLimit deviceLimitFallback }

/-- `keli_core_user_full_snapshot_payload` (`runner.rs:1312`). -/
def keliCoreUserFullSnapshotPayload (entry : RuntimeUserSyncEntry) (deviceLimitFallback : Nat) : KeliCoreUserDelta :=
  .full (entry.state.users.map (keliCoreUserDeltaUser deviceLimitFallback)) entry.state.revision

/-- `keli_core_user_delta_payload` (`runner.rs:1328`). -/
def keliCoreUserDeltaPayload (change : RuntimeUserDeltaChange) (deviceLimitFallback : Nat) : KeliCoreUserDelta :=
  .incremental (change.diff.added.map (keliCoreUserDeltaUser deviceLimitFallback))
    (change.diff.updated.map (keliCoreUserDeltaUser deviceLimitFallback)) (change.diff.deleted.map (·.uuid))
    change.baseRevision change.revision

/-- `keli_core_user_delta_requires_full_snapshot` (`runner.rs:1302`). -/
def keliCoreUserDeltaRequiresFullSnapshot (error : Text) : Bool :=
  containsText "revision mismatch" (asciiLower error) || containsText "full snapshot required" (asciiLower error)

/-- `keli_core_user_delta_missing_inbound` (`runner.rs:1307`). -/
def keliCoreUserDeltaMissingInbound (error : Text) : Bool :=
  containsText "unknown inbound" (asciiLower error) || containsText "inbound not found" (asciiLower error)

/-- `keli_core_user_delta_target_tags` (`runner.rs:1179`). -/
def keliCoreUserDeltaTargetTags (corePlan : CorePlan) (nodeTag : Text) : List Text :=
  let tags := corePlan.inbounds.map (·.tag)
  let targets := tags.filter (· = nodeTag)
  if targets.isEmpty then tags.filter fun tag => tag ≠ nodeTag && (nodeTag ++ "|port:").isPrefixOf tag else targets

/-- `keli_core_device_limit_fallback_for_node` (`runner.rs:1368`). -/
def keliCoreDeviceLimitFallbackForNode (plan : RuntimeBootstrapPlan) (nodeTag : Text) : Nat :=
  ((plan.nodeInfos.find? (·.tag = nodeTag)).map nodeDeviceLimitFallback).getD 0

/-! ## The loop's state -/

/-- The part of `PanelRuntimeLoop` (`runner.rs:383`) that ticks change, and the world they act on. -/
structure RuntimeLoop (ν σ : Type) where
  plan : RuntimeBootstrapPlan
  userSync : RuntimeUserSync := ∅
  userIdLookup : KeliCoreUserIdLookup := ∅
  world : ControlWorld ν σ

/-- The answers of one tick. -/
structure TickAnswers where
  running : Option Text := none
  deltaClient : Option Text := none
  delta : Text → Option Text := fun _ => none
  snapshot : Text → Option Text := fun _ => none
  restart : Option Text := none
  panelClients : Bool := true
  control : ControlAnswers := {}
  baselineClient : Option Text := none
  baseline : Text → Option Text := fun _ => none

inductive RuntimeUserDeltaApplyOutcome where
  | applied
  | deferred
  | rebuild
  deriving DecidableEq

/-! ## Deltas -/

section

variable {ν σ : Type}

/-- One `apply_user_delta` call, refused with an error or answered by the core. -/
def sendUserDelta (refused : Option Text) (tag : Text) (delta : KeliCoreUserDelta) (world : ControlWorld ν σ) :
    Except Text Unit × ControlWorld ν σ :=
  match refused, world.core with
  | some error, _ => (.error error, world)
  | none, none => (.error "connection refused", world)
  | none, some core =>
    match core.applyUserDelta tag delta with
    | .error error => (.error error, world)
    | .ok core => (.ok (), { world with core := some core })

variable (answers : TickAnswers)

/-- One target of one node: `none` goes on, `some` ends the whole attempt. -/
def applyUserDeltaToTarget (plan : RuntimeBootstrapPlan) (entry : RuntimeUserSyncEntry) (change : RuntimeUserDeltaChange)
    (nodeTag target : Text) (world : ControlWorld ν σ) :
    Option RuntimeUserDeltaApplyOutcome × ControlWorld ν σ :=
  let deviceLimitFallback := keliCoreDeviceLimitFallbackForNode plan nodeTag
  let failed (error : Text) : RuntimeUserDeltaApplyOutcome :=
    if plan.resolved.continueOnError && keliCoreUserDeltaMissingInbound error then .deferred else .rebuild
  match sendUserDelta (answers.delta target) target (keliCoreUserDeltaPayload change deviceLimitFallback) world with
  | (.ok (), world) => (none, world)
  | (.error error, world) =>
    if failed error = .deferred || !keliCoreUserDeltaRequiresFullSnapshot error then (some (failed error), world)
    else
      match sendUserDelta (answers.snapshot target) target
          (keliCoreUserFullSnapshotPayload entry deviceLimitFallback) world with
      | (.ok (), world) => (none, world)
      | (.error error, world) => (some (failed error), world)

/-- The targets of one node. -/
def applyUserDeltaToTargets (plan : RuntimeBootstrapPlan) (entry : RuntimeUserSyncEntry)
    (change : RuntimeUserDeltaChange) (nodeTag : Text) :
    List Text → ControlWorld ν σ → Option RuntimeUserDeltaApplyOutcome × ControlWorld ν σ
  | [], world => (none, world)
  | target :: targets, world =>
    match applyUserDeltaToTarget answers plan entry change nodeTag target world with
    | (some outcome, world) => (some outcome, world)
    | (none, world) => applyUserDeltaToTargets plan entry change nodeTag targets world

/-- The changed nodes, in the order of their tags. -/
def applyUserDeltasToNodes (plan : RuntimeBootstrapPlan) (corePlan : CorePlan) (syncState : RuntimeUserSync) :
    List Text → ControlWorld ν σ → RuntimeUserDeltaApplyOutcome × ControlWorld ν σ
  | [], world => (.applied, world)
  | nodeTag :: nodeTags, world =>
    match syncState[nodeTag]?.bind fun entry => entry.lastChange.map fun change => (entry, change) with
    | none => (.rebuild, world)
    | some (entry, change) =>
      match keliCoreUserDeltaTargetTags corePlan nodeTag with
      | [] => (if plan.resolved.continueOnError then .deferred else .rebuild, world)
      | targets =>
        match applyUserDeltaToTargets answers plan entry change nodeTag targets world with
        | (some outcome, world) => (outcome, world)
        | (none, world) => applyUserDeltasToNodes plan corePlan syncState nodeTags world

/-- Whether a changed node has a delta for the core: not where it was loaded in full or not changed at all. -/
def hasDelta (syncState : RuntimeUserSync) (nodeTag : Text) : Bool :=
  (syncState[nodeTag]?.bind (·.lastChange)).any (!·.full)

/-- `try_apply_keli_core_rs_user_deltas` (`runner.rs:1016`). -/
def tryApplyKeliCoreRsUserDeltas (plan : RuntimeBootstrapPlan) (syncState : RuntimeUserSync) (nodeTags : List Text)
    (world : ControlWorld ν σ) : RuntimeUserDeltaApplyOutcome × ControlWorld ν σ :=
  match plan.corePlan with
  | none => (.rebuild, world)
  | some corePlan =>
    if !nodeTags.all (hasDelta syncState) || answers.deltaClient.isSome then (.rebuild, world)
    else applyUserDeltasToNodes answers plan corePlan syncState nodeTags world

/-- The targets of one node, in the baseline: `false` ends it. -/
def sendSnapshots (entry : RuntimeUserSyncEntry) (deviceLimitFallback : Nat) :
    List Text → ControlWorld ν σ → Bool × ControlWorld ν σ
  | [], world => (true, world)
  | target :: targets, world =>
    match sendUserDelta (answers.baseline target) target
        (keliCoreUserFullSnapshotPayload entry deviceLimitFallback) world with
    | (.error _, world) => (false, world)
    | (.ok (), world) => sendSnapshots entry deviceLimitFallback targets world

def establishBaseline (plan : RuntimeBootstrapPlan) (corePlan : CorePlan) (syncState : RuntimeUserSync) :
    List Text → ControlWorld ν σ → ControlWorld ν σ
  | [], world => world
  | nodeTag :: nodeTags, world =>
    match syncState[nodeTag]? with
    | none => establishBaseline plan corePlan syncState nodeTags world
    | some entry =>
      match sendSnapshots answers entry (keliCoreDeviceLimitFallbackForNode plan nodeTag)
          (keliCoreUserDeltaTargetTags corePlan nodeTag) world with
      | (false, world) => world
      | (true, world) => establishBaseline plan corePlan syncState nodeTags world

/-- `try_establish_keli_core_rs_revision_baseline` (`runner.rs:1200`). -/
def tryEstablishKeliCoreRsRevisionBaseline (plan : RuntimeBootstrapPlan) (syncState : RuntimeUserSync)
    (nodeTags : List Text) (world : ControlWorld ν σ) : ControlWorld ν σ :=
  match plan.corePlan, answers.baselineClient with
  | some corePlan, none => establishBaseline answers plan corePlan syncState nodeTags world
  | _, _ => world

end

/-! ## The user id lookup -/

def userIds (users : List (Text × Nat)) : BTreeMap Text Nat :=
  users.foldl (fun ids user => ids.insert user.1 user.2) ∅

/-- `runtime_user_id_lookup_from_plan` (`runner.rs:1440`). -/
def runtimeUserIdLookupFromPlan (plan : RuntimeBootstrapPlan) : KeliCoreUserIdLookup :=
  match plan.corePlan with
  | none => ∅
  | some corePlan => corePlan.inbounds.foldl (fun lookup inbound =>
      lookup.insert inbound.tag (userIds (inbound.users.map fun user => (user.uuid, user.id)))) ∅

/-- `sync_runtime_user_id_lookup_from_state` (`runner.rs:1457`). -/
def syncRuntimeUserIdLookupFromState (syncState : RuntimeUserSync) (nodeTags : List Text)
    (lookup : KeliCoreUserIdLookup) : KeliCoreUserIdLookup :=
  nodeTags.foldl (fun lookup nodeTag =>
    match syncState[nodeTag]? with
    | none => lookup
    | some entry => lookup.insert nodeTag (userIds (entry.state.users.map fun user => (user.uuid, user.id)))) lookup

/-- The entries of the delivered changes. -/
def clearLastChanges (nodeTags : List Text) (syncState : RuntimeUserSync) : RuntimeUserSync :=
  nodeTags.foldl (fun syncState nodeTag =>
    match syncState[nodeTag]? with
    | none => syncState
    | some entry => syncState.insert nodeTag { entry with lastChange := none }) syncState

/-! ## The tick -/

section

variable {ν σ : Type} (validate : InboundPlan → Except Text Unit) (env : ControlEnv ν σ) (answers : TickAnswers)

/-- Where a tick stands after the user changes: done, or about to apply the plan. -/
inductive UserChanges where
  | finished
  | goOn (deltaApplied : Bool) (baselineTags : List Text)

/-- The plan rebuilt with the latest users, and the lookup that goes with it. -/
def RuntimeLoop.rebuilt (loop : RuntimeLoop ν σ) (users : UsersByNodeTag) : Except Text (RuntimeLoop ν σ) :=
  (rebuildRuntimePlanWithUsers validate loop.plan users).map fun plan =>
    { loop with plan, userIdLookup := runtimeUserIdLookupFromPlan plan }

/-- Whether the deltas can be tried: without a core plan the attempt itself asks for a rebuild. -/
def deltaOutcome (nodeTags : List Text) (loop : RuntimeLoop ν σ) :
    Except Text (RuntimeUserDeltaApplyOutcome × ControlWorld ν σ) :=
  match loop.plan.corePlan, coreStatus answers.running loop.world with
  | none, _ => .ok (tryApplyKeliCoreRsUserDeltas answers loop.plan loop.userSync nodeTags loop.world)
  | some _, .error error => .error error
  | some _, .ok false => .ok (.rebuild, loop.world)
  | some _, .ok true => .ok (tryApplyKeliCoreRsUserDeltas answers loop.plan loop.userSync nodeTags loop.world)

/-- The first part of `run_tick`: what becomes of the user changes. -/
def applyUserChanges (reportToPanel : Bool) (usersByNodeTag : UsersByNodeTag) (loop : RuntimeLoop ν σ) :
    Except Text UserChanges × RuntimeLoop ν σ :=
  if usersByNodeTag.isEmpty then (.ok (.goOn false []), loop)
  else
    let nodeTags := usersByNodeTag.keys
    match deltaOutcome answers nodeTags loop with
    | .error error => (.error error, loop)
    | .ok (.applied, world) =>
      let loop := { loop with
        world
        userIdLookup := syncRuntimeUserIdLookupFromState loop.userSync nodeTags loop.userIdLookup
        userSync := clearLastChanges nodeTags loop.userSync }
      (.ok (if reportToPanel then .goOn true [] else .finished), loop)
    | .ok (.deferred, world) => (.ok (if reportToPanel then .goOn false [] else .finished), { loop with world })
    | .ok (.rebuild, world) =>
      let loop := { loop with world }
      match loop.rebuilt validate (userSyncUsersForRuntimeRebuild loop.plan loop.userSync nodeTags usersByNodeTag) with
      | .error error => (.error error, loop)
      | .ok loop => (.ok (.goOn false nodeTags), loop)

/-- `ensure_keli_core_rs_restart_uses_latest_users` (`runner.rs:1376`). -/
def ensureKeliCoreRsRestartUsesLatestUsers (loop : RuntimeLoop ν σ) : Except Text (RuntimeLoop ν σ) :=
  match loop.plan.corePlan, coreStatus answers.restart loop.world with
  | none, _ => .ok loop
  | some _, .error error => .error error
  | some _, .ok true => .ok loop
  | some _, .ok false =>
    let users := latestUsersByNodeTagForCorePlan loop.plan loop.userSync
    if users.isEmpty then .ok loop else loop.rebuilt validate users

variable [DecidableEq ν]

/-- The second part of `run_tick`: the plan is applied. -/
def applyTickPlan (deltaApplied : Bool) (baselineTags : List Text) (loop : RuntimeLoop ν σ) :
    Except Text Unit × RuntimeLoop ν σ :=
  match applyRuntimePlan env answers.control loop.plan { keliCoreRsUserDeltaApplied := deltaApplied } loop.world with
  | (.error error, world) => (.error error, { loop with world })
  | (.ok _, world) =>
    (.ok (), { loop with
      world := tryEstablishKeliCoreRsRevisionBaseline answers loop.plan loop.userSync baselineTags world })

/-- `PanelRuntimeLoop::run_tick` (`runner.rs:492`), with the control options of `main.rs`. -/
def runTick (reportToPanel : Bool) (usersByNodeTag : UsersByNodeTag) (loop : RuntimeLoop ν σ) :
    Except Text Unit × RuntimeLoop ν σ :=
  match applyUserChanges validate answers reportToPanel usersByNodeTag loop with
  | (.error error, loop) => (.error error, loop)
  | (.ok .finished, loop) => (.ok (), loop)
  | (.ok (.goOn deltaApplied baselineTags), loop) =>
    match ensureKeliCoreRsRestartUsesLatestUsers validate answers loop with
    | .error error => (.error error, loop)
    | .ok loop =>
      if reportToPanel && !answers.panelClients then
        (.error "runtime tick requested panel report without panel client", loop)
      else applyTickPlan env answers deltaApplied baselineTags loop

/-! ## The loop -/

/-- One turn of the loop: a refresh or none, then a tick.  A refresh asked for by an event brings no tick when
nothing changed.  The core may exit by itself in between. -/
structure LoopStep where
  panel : Option (Text → PanelUsersAnswer) := none
  event : Bool := false
  reportToPanel : Bool := false
  coreExits : Bool := false
  answers : TickAnswers := {}

/-- `refresh_users`: the loop with the new entries, and the tags to act on. -/
def LoopStep.refresh (step : LoopStep) (loop : RuntimeLoop ν σ) : Except Text UsersByNodeTag × RuntimeLoop ν σ :=
  match step.panel with
  | none => (.ok ∅, loop)
  | some panel =>
    let (users, userSync) := loadUsersByNodeTagFromPanelWithStateAndMode loop.plan .tagMarkers panel loop.userSync
    (users, { loop with userSync })

/-- The loop a tick starts from, and the users it gets; `none` where the refresh failed. -/
def LoopStep.before (step : LoopStep) (loop : RuntimeLoop ν σ) : Option (UsersByNodeTag × RuntimeLoop ν σ) :=
  match step.refresh loop with
  | (.error _, _) => none
  | (.ok users, loop) => some (users, { loop with world := loop.world.afterExit step.coreExits })

/-- A turn that returns `Ok`; the loop ends at the first one that does not. -/
def loopStep (loop : RuntimeLoop ν σ) (step : LoopStep) : Option (RuntimeLoop ν σ) :=
  (step.before loop).bind fun (users, loop) =>
    if step.event && users.isEmpty then some loop
    else match runTick validate env step.answers step.reportToPanel users loop with
      | (.ok (), loop) => some loop
      | (.error _, _) => none

end

end KeliNode
