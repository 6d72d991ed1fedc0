import KeliNode.Core.Plan
import KeliNode.PortForward.Iptables

/-!
# The runtime plan (`runtime.rs`)

From the resolved configuration, the panel's nodes and their users to the plan one tick applies: the core
plan, the nodes whose listeners do not collide, and the two port-forward statuses.

| here | there |
|---|---|
| `buildRuntimeBootstrapPlanWithUsers` | `runtime.rs:133` |
| `rebuildRuntimePlanWithUsers` | `runtime.rs:184` |
| `filterConflictingRuntimeListeners` | `runtime.rs:225` |
| `inboundBindsTcp`, `inboundBindsUdp` | `runtime.rs:340`, `:355` |

The bootstrap summary and the realtime options are functions of the configuration that nothing here
reads back, and are left out.
-/

namespace KeliNode

open Lib

/-! ## Configuration -/

/-- `NodeConfig` (`config.rs:176`). -/
structure NodeConfig where
  url : Text := []
  token : Text := []
  nodeId : Nat := 0
  machineId : Nat := 0
  timeout : Nat := 0
  configDir : Text := []
  deriving DecidableEq

/-- `ResolvedConfig` (`config.rs:229`), the fields the runtime plan reads. -/
structure ResolvedConfig where
  kernel : KernelConfig := {}
  continueOnError : Bool := false
  subscriptionProxyEnabled : Bool := false
  nodes : List NodeConfig := []
  deriving DecidableEq

/-- `NodeFailure` (`node.rs:20`). -/
structure NodeFailure where
  config : NodeConfig
  error : Text
  deriving DecidableEq

/-- `core_config_path` (`runtime.rs:196`), with `Path::join` on a relative file name. -/
def coreConfigPath (resolved : ResolvedConfig) : Text :=
  let dir := resolved.kernel.configDir
  if dir.isEmpty ∨ dir.getLast? = some '/' then dir ++ "config.json" else dir ++ "/config.json"

/-- `node_config_for_info` (`runtime.rs:200`). -/
def nodeConfigForInfo (resolved : ResolvedConfig) (nodeId : Nat) (tag : Text) : Option NodeConfig :=
  let exact := resolved.nodes.find? fun config =>
    config.nodeId = nodeId && ('[' :: trimEndMatches (· = '/') config.url ++ [']']).isPrefixOf tag
  if exact.isSome then exact
  else match resolved.nodes.filter (·.nodeId = nodeId) with
    | [first] => some first
    | _ => none

/-! ## Listeners -/

structure RuntimeListenerSpec where
  tag : Text
  protocol : Text
  network : Text
  listen : Text
  port : Nat
  deriving DecidableEq

/-- `normalize_runtime_listen` (`runtime.rs:380`). -/
def normalizeRuntimeListen (value : Text) : Text :=
  trimEndMatches (· = ']') (trimStartMatches (· = '[') (trim value))

/-- `is_wildcard_listen` (`runtime.rs:373`). -/
def isWildcardListen (value : Text) : Bool :=
  let listen := normalizeRuntimeListen value
  listen = "" || listen = "0.0.0.0" || listen = "::"

/-- `inbound_binds_tcp` (`runtime.rs:340`). -/
def inboundBindsTcp (inbound : InboundPlan) : Bool :=
  (["socks", "http", "vless", "vmess", "trojan", "shadowsocks", "anytls", "mieru", "naive"] : List Text).contains
    inbound.protocol

/-- `inbound_binds_udp` (`runtime.rs:355`). -/
def inboundBindsUdp (inbound : InboundPlan) : Bool :=
  (["hysteria", "hysteria2", "tuic"] : List Text).contains inbound.protocol ||
    (inbound.protocol = "shadowsocks" && containsText "udp" inbound.network)

/-- `runtime_listener_specs` (`runtime.rs:316`). -/
def runtimeListenerSpecs (inbound : InboundPlan) : List RuntimeListenerSpec :=
  let spec (network : Text) : RuntimeListenerSpec :=
    { tag := inbound.tag, protocol := inbound.protocol, network
      listen := normalizeRuntimeListen inbound.listen, port := inbound.port }
  (if inboundBindsTcp inbound then [spec "tcp"] else []) ++ (if inboundBindsUdp inbound then [spec "udp"] else [])

/-- `runtime_listener_specs_conflict` (`runtime.rs:360`). -/
def runtimeListenerSpecsConflict (existing next : RuntimeListenerSpec) : Bool :=
  existing.network = next.network && existing.port = next.port &&
    (existing.listen = next.listen || isWildcardListen existing.listen || isWildcardListen next.listen)

def listenerConflictError (spec existing : RuntimeListenerSpec) : Text :=
  "duplicate " ++ spec.network ++ " listen " ++ spec.listen ++ ":" ++ decimal spec.port ++ " for inbound " ++
    spec.tag ++ " (" ++ spec.protocol ++ ") conflicts with " ++ existing.tag ++ " (" ++ existing.protocol ++
    "); change one node server port or listen address"

/-- The inner loop: record the specs until one conflicts.  Specs recorded before the conflict stay. -/
def recordListenerSpecs (seen : List RuntimeListenerSpec) : List RuntimeListenerSpec →
    List RuntimeListenerSpec × Option Text
  | [] => (seen, none)
  | spec :: specs =>
    match seen.find? (runtimeListenerSpecsConflict · spec) with
    | some existing => (seen, some (listenerConflictError spec existing))
    | none => recordListenerSpecs (seen ++ [spec]) specs

structure ListenerScan where
  seen : List RuntimeListenerSpec := []
  skippedTags : List Text := []
  failures : List NodeFailure

/-- The outer loop over the inbounds. -/
def scanListeners (resolved : ResolvedConfig) (nodeInfos : List NodeInfo) (scan : ListenerScan) :
    List InboundPlan → Except Text ListenerScan
  | [] => .ok scan
  | inbound :: inbounds =>
    match recordListenerSpecs scan.seen (runtimeListenerSpecs inbound) with
    | (seen, none) => scanListeners resolved nodeInfos { scan with seen } inbounds
    | (seen, some error) =>
      if !resolved.continueOnError then .error error
      else
        let failures := match nodeInfos.find? (·.tag = inbound.tag) with
          | some node => scan.failures ++
              [{ config := (nodeConfigForInfo resolved node.id node.tag).getD { nodeId := node.id }, error }]
          | none => scan.failures
        scanListeners resolved nodeInfos { seen, skippedTags := scan.skippedTags ++ [inbound.tag], failures } inbounds

/-- `filter_conflicting_runtime_listeners` (`runtime.rs:225`): the surviving nodes, the failures and the
core plan without the inbounds that were skipped. -/
def filterConflictingRuntimeListeners (resolved : ResolvedConfig) (nodeInfos : List NodeInfo)
    (nodeFailures : List NodeFailure) (core : Option CorePlan) :
    Except Text (List NodeInfo × List NodeFailure × Option CorePlan) :=
  match core with
  | none => .ok (nodeInfos, nodeFailures, none)
  | some corePlan => do
    let scan ← scanListeners resolved nodeInfos { failures := nodeFailures } corePlan.inbounds
    if scan.skippedTags.isEmpty then .ok (nodeInfos, scan.failures, some corePlan)
    else
      let inbounds := corePlan.inbounds.filter fun inbound => !scan.skippedTags.contains inbound.tag
      let listenTags := corePlan.listenTags.filter fun tag => !scan.skippedTags.contains tag
      let core := if inbounds.isEmpty then none else some { corePlan with inbounds, listenTags }
      .ok (nodeInfos.filter fun node => !scan.skippedTags.contains node.tag, scan.failures, core)

/-! ## The plan -/

/-- `RuntimeBootstrapPlan` (`runtime.rs:33`). -/
structure RuntimeBootstrapPlan where
  resolved : ResolvedConfig
  nodeInfos : List NodeInfo
  nodeFailures : List NodeFailure
  corePlan : Option CorePlan
  hy2PortForward : HysteriaPortForwardStatus
  mieruPortForward : HysteriaPortForwardStatus
  subscriptionProxyOnly : Bool

section

variable (validate : InboundPlan → Except Text Unit)

/-- The core bundle of a node list: none without nodes. -/
def coreBundle (resolved : ResolvedConfig) (nodeInfos : List NodeInfo) (usersByNodeTag : UsersByNodeTag) :
    Except Text (Option CorePlan) :=
  if nodeInfos.isEmpty then .ok none
  else do
    coreKindFromName resolved.kernel.type
    splitCorePlansForNodesWithKind validate (coreConfigPath resolved) nodeInfos usersByNodeTag

/-- `build_runtime_bootstrap_plan_with_users` (`runtime.rs:133`). -/
def buildRuntimeBootstrapPlanWithUsers (resolved : ResolvedConfig) (nodeInfos : List NodeInfo)
    (nodeFailures : List NodeFailure) (usersByNodeTag : UsersByNodeTag) : Except Text RuntimeBootstrapPlan := do
  let subscriptionProxyOnly := nodeInfos.isEmpty && resolved.subscriptionProxyEnabled
  let core ← coreBundle validate resolved nodeInfos usersByNodeTag
  let core := core.map fun plan => plan.applyKernelDnsOptions resolved.kernel
  let (nodeInfos, nodeFailures, corePlan) ← filterConflictingRuntimeListeners resolved nodeInfos nodeFailures core
  let (hy2Rules, hy2Errors) := buildHysteriaPortForwardRules nodeInfos
  .ok {
    resolved, nodeInfos, nodeFailures, corePlan
    hy2PortForward := newHysteriaPortForwardStatus hy2Rules hy2Errors false
    mieruPortForward := newMieruPortForwardStatus nodeInfos false
    subscriptionProxyOnly }

/-- `build_runtime_bootstrap_plan` (`runtime.rs:125`). -/
def buildRuntimeBootstrapPlan (resolved : ResolvedConfig) (nodeInfos : List NodeInfo)
    (nodeFailures : List NodeFailure) : Except Text RuntimeBootstrapPlan :=
  buildRuntimeBootstrapPlanWithUsers validate resolved nodeInfos nodeFailures ∅

/-- `rebuild_runtime_plan_with_users` (`runtime.rs:184`). -/
def rebuildRuntimePlanWithUsers (plan : RuntimeBootstrapPlan) (usersByNodeTag : UsersByNodeTag) :
    Except Text RuntimeBootstrapPlan :=
  buildRuntimeBootstrapPlanWithUsers validate plan.resolved plan.nodeInfos plan.nodeFailures usersByNodeTag

end

end KeliNode
