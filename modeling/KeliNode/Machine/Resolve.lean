import KeliNode.Config.Resolve
import KeliNode.Lib.FirstWins

/-!
# Machine profiles (`machine.rs`, `runtime.rs`)

Each machine profile names a panel, which answers with the nodes of the machine and a subscription proxy.  The answers
are merged into a summary, and the summary into the resolved configuration, the earlier one first every time.

| here | there |
|---|---|
| `resolveMachineProfiles`, `ResolveState.resolveInput` | `machine.rs:239`, its loop |
| `Machine.mergeSubscriptionProxy` | `machine.rs:331` |
| `mergeRuntimeAgent` | `machine.rs:540` |
| `Runtime.mergeSubscriptionProxy`, `applyMachineSummary` | `runtime.rs:397`, `:388` |
| `machineProfileNodeConfigDir` | `machine.rs:444` |

The panel's `SubscriptionProxyConfig` has the fields of the one in `config.rs`, and is the same type here.  Of a
panel's node only the id is read.
-/

namespace KeliNode

open Lib

/-! ## Data -/

structure MachinePanelNode where
  id : Nat := 0

structure RealtimeBaseConfig where
  enabled : Bool := false
  url : Text := []
  pingInterval : Value := .null

structure MachineAgentConfig where
  subscriptionProxy : Option SubscriptionProxyConfig := none

/-- `MachineNodesResponse` (`machine.rs:39`), with `base_config.realtime` for `base_config`. -/
structure MachineNodesResponse where
  nodes : List MachinePanelNode := []
  realtime : Option RealtimeBaseConfig := none
  agent : Option MachineAgentConfig := none

structure MachineProfileRealtime where
  profile : Text
  machineId : Nat
  enabled : Bool
  url : Text
  pingInterval : Nat

structure MachineResolveResult where
  nodes : List NodeConfig := []
  agent : AgentConfig := {}
  realtime : Option MachineProfileRealtime := none

structure MachineProfileInput where
  profile : MachineProfileConfig := {}
  result : Except Text MachineNodesResponse

structure MachineResolveFailure where
  profile : Text
  machineId : Nat
  error : Text

structure MachineResolveSummary where
  nodes : List NodeConfig := []
  agent : AgentConfig := {}
  realtime : List MachineProfileRealtime := []
  failures : List MachineResolveFailure := []
  subscriptionProxyOnly : Bool := false

/-! ## Labels and directories -/

/-- `machine_profile_label` (`machine.rs:458`). -/
def machineProfileLabel (profile : MachineProfileConfig) : Text :=
  if trim profile.name ≠ [] then trim profile.name
  else if 0 < profile.machineId then "machine-" ++ decimal profile.machineId
  else trimTrailingSlashes profile.url

/-- The loop of `sanitize_machine_profile_name`. -/
def sanitizeChars (lastDash : Bool) : Text → Text
  | [] => []
  | c :: rest =>
    if c.isAlphanum || c = '.' || c = '_' || c = '-' then c :: sanitizeChars false rest
    else if lastDash then sanitizeChars true rest
    else '-' :: sanitizeChars true rest

/-- `sanitize_machine_profile_name` (`machine.rs:482`). -/
def sanitizeMachineProfileName (name : Text) : Text :=
  firstNonEmpty (trimMatches (· = '-') (sanitizeChars false (trim name))) "machine"

/-- The directory above those of the nodes. -/
def machineProfileRoot (profile : MachineProfileConfig) : Text :=
  if trim profile.configDir = [] then
    defaultConfigDir ++ "/" ++ sanitizeMachineProfileName (machineProfileLabel profile)
  else trimEndMatches (fun c => c = '/' || c = '\\') profile.configDir

/-- `machine_profile_node_config_dir` (`machine.rs:444`). -/
def machineProfileNodeConfigDir (profile : MachineProfileConfig) (nodeId : Nat) : Text :=
  machineProfileRoot profile ++ "/node-" ++ decimal nodeId

/-- `machine_realtime_interval_seconds` (`machine.rs:672`). -/
def machineRealtimeIntervalSeconds (value : Value) : Nat :=
  (value.asU64.or (value.asStr.bind fun text => parseUnsigned (2 ^ 64) (trim text))).getD 0

/-- `machine_profile_realtime` (`machine.rs:468`). -/
def machineProfileRealtime (profile : MachineProfileConfig) (response : MachineNodesResponse) :
    Option MachineProfileRealtime :=
  response.realtime.map fun realtime =>
    { profile := machineProfileLabel profile
      machineId := profile.machineId
      enabled := realtime.enabled
      url := trim realtime.url
      pingInterval := machineRealtimeIntervalSeconds realtime.pingInterval }

/-! ## The parts of a merge -/

/-- `fill_if_empty` (`machine.rs:511`, `runtime.rs:448`). -/
def fillIfEmpty (target value : Text) : Text := if trim target = [] then trim value else target

/-- `merge_subscription_proxy_zerossl` (`machine.rs:602`, `runtime.rs:435`). -/
def mergeSubscriptionProxyZerossl (target source : SubscriptionProxyZeroSslConfig) : SubscriptionProxyZeroSslConfig where
  status := fillIfEmpty target.status source.status
  certificateId := fillIfEmpty target.certificateId source.certificateId
  validationPath := fillIfEmpty target.validationPath source.validationPath
  validationContent := fillIfEmpty target.validationContent source.validationContent
  certificatePem := fillIfEmpty target.certificatePem source.certificatePem
  caBundlePem := fillIfEmpty target.caBundlePem source.caBundlePem
  expiresAt := fillIfEmpty target.expiresAt source.expiresAt

/-- What all three merges of enabled proxies do to the fields beside the profiles. -/
def fillSubscriptionProxy (target source : SubscriptionProxyConfig) : SubscriptionProxyConfig :=
  { target with
    httpsListen := fillIfEmpty target.httpsListen source.httpsListen
    httpListen := fillIfEmpty target.httpListen source.httpListen
    certFile := fillIfEmpty target.certFile source.certFile
    keyFile := fillIfEmpty target.keyFile source.keyFile
    certificateDomain := fillIfEmpty target.certificateDomain source.certificateDomain
    challengeDir := fillIfEmpty target.challengeDir source.challengeDir
    zerossl := mergeSubscriptionProxyZerossl target.zerossl source.zerossl
    maxResponseBytes := if target.maxResponseBytes = 0 then source.maxResponseBytes else target.maxResponseBytes }

/-- The test of the loops over subscription profiles. -/
def sameSite (existing profile : SubscriptionProxyProfile) : Bool := eqIgnoreCase existing.siteId profile.siteId

/-- The test of `website_proxy_profile_exists` (`machine.rs:529`). -/
def sameWebsite (existing profile : WebsiteProxyProfile) : Bool :=
  eqIgnoreCase existing.siteId profile.siteId &&
    decide (normalizeProxyPathPrefix existing.pathPrefix = normalizeProxyPathPrefix profile.pathPrefix)

/-! ## A panel's answer -/

/-- `split_once("://")`. -/
def splitScheme : Text → Option (Text × Text)
  | [] => none
  | c :: rest =>
    if ("://" : Text).isPrefixOf (c :: rest) then some ([], (c :: rest).drop 3)
    else (splitScheme rest).map (Prod.map (c :: ·) id)

/-- `valid_subscription_proxy_profile` (`machine.rs:660`). -/
def validSubscriptionProxyProfile (siteId upstreamBaseUrl : Text) : Bool :=
  let upstream := trimTrailingSlashes upstreamBaseUrl
  if (trim siteId).isEmpty || upstream.isEmpty then false
  else match splitScheme upstream with
    | none => false
    | some (scheme, rest) => !scheme.isEmpty && !(trimMatches (· = '/') rest).isEmpty

/-- The site that a row of the panel stands for. -/
def panelSiteId (profile : MachineProfileConfig) (siteId : Text) : Text :=
  sanitizeMachineProfileName (Config.firstNonEmpty (trim siteId) (machineProfileLabel profile))

def panelUpstream (profile : MachineProfileConfig) (upstreamBaseUrl : Text) : Text :=
  Config.firstNonEmpty (trimTrailingSlashes upstreamBaseUrl) (trimTrailingSlashes profile.url)

/-- A row of `profiles`, if it is valid. -/
def panelProfile (profile : MachineProfileConfig) (row : SubscriptionProxyProfile) : Option SubscriptionProxyProfile :=
  if validSubscriptionProxyProfile (panelSiteId profile row.siteId) (panelUpstream profile row.upstreamBaseUrl) then some
    { siteId := panelSiteId profile row.siteId
      upstreamBaseUrl := panelUpstream profile row.upstreamBaseUrl
      subscribePath := Config.firstNonEmpty (trimMatches (· = '/') row.subscribePath) "s" }
  else none

/-- A row of `website_profiles`, if it is valid. -/
def panelWebsite (profile : MachineProfileConfig) (row : WebsiteProxyProfile) : Option WebsiteProxyProfile :=
  if validSubscriptionProxyProfile (panelSiteId profile row.siteId) (panelUpstream profile row.upstreamBaseUrl) then some
    { siteId := panelSiteId profile row.siteId
      upstreamBaseUrl := panelUpstream profile row.upstreamBaseUrl
      pathPrefix := normalizeProxyPathPrefix row.pathPrefix }
  else none

/-- The rows of `profiles`, or the single site of the older form. -/
def subscriptionRows (source : SubscriptionProxyConfig) : List SubscriptionProxyProfile :=
  let hasExplicitLegacySubscription :=
    !(trim source.siteId).isEmpty || !(trim source.upstreamBaseUrl).isEmpty || !(trim source.subscribePath).isEmpty
  if source.profiles.isEmpty && (source.websiteProfiles.isEmpty || hasExplicitLegacySubscription) then
    [{ siteId := source.siteId, upstreamBaseUrl := source.upstreamBaseUrl, subscribePath := source.subscribePath }]
  else source.profiles

/-- The panel offers no proxy: neither the switch nor a list is set. -/
def offersNothing (source : SubscriptionProxyConfig) : Bool :=
  !source.enabled && source.profiles.isEmpty && source.websiteProfiles.isEmpty

/-- The valid subscription profiles of an answer. -/
def panelProfiles (profile : MachineProfileConfig) (source : SubscriptionProxyConfig) : List SubscriptionProxyProfile :=
  if offersNothing source then [] else (subscriptionRows source).filterMap (panelProfile profile)

def panelWebsites (profile : MachineProfileConfig) (source : SubscriptionProxyConfig) : List WebsiteProxyProfile :=
  if offersNothing source then [] else source.websiteProfiles.filterMap (panelWebsite profile)

/-- `merge_subscription_proxy` (`machine.rs:331`). -/
def Machine.mergeSubscriptionProxy (target : SubscriptionProxyConfig) (profile : MachineProfileConfig)
    (source : SubscriptionProxyConfig) : SubscriptionProxyConfig :=
  let subscriptionProfiles := panelProfiles profile source
  let websiteProfiles := panelWebsites profile source
  if subscriptionProfiles.isEmpty && websiteProfiles.isEmpty then target
  else
    let target :=
      if !target.enabled then
        { target with
          enabled := true
          httpsListen := trim source.httpsListen
          httpListen := trim source.httpListen
          certFile := trim source.certFile
          keyFile := trim source.keyFile
          certificateDomain := trim source.certificateDomain
          challengeDir := trim source.challengeDir
          zerossl := source.zerossl
          allowHttpFallback := source.allowHttpFallback
          maxResponseBytes := source.maxResponseBytes }
      else fillSubscriptionProxy target source
    { target with
      profiles := appendNew sameSite target.profiles subscriptionProfiles
      websiteProfiles := appendNew sameWebsite target.websiteProfiles websiteProfiles }

/-- `resolve_machine_profile_result` (`machine.rs:207`). -/
def resolveMachineProfileResult (profile : MachineProfileConfig) (response : MachineNodesResponse) :
    MachineResolveResult where
  nodes := (response.nodes.filter fun node => decide (0 < node.id)).map fun node =>
    { url := trimTrailingSlashes profile.url
      token := profile.token
      nodeId := node.id
      machineId := profile.machineId
      timeout := profile.timeout
      configDir := machineProfileNodeConfigDir profile node.id }
  agent := match response.agent.bind (·.subscriptionProxy) with
    | none => {}
    | some proxy => { subscriptionProxy := Machine.mergeSubscriptionProxy {} profile proxy }
  realtime := machineProfileRealtime profile response

/-! ## The summary -/

/-- The merge of `merge_runtime_agent` (`machine.rs:540`). -/
def mergeRuntimeProxy (target source : SubscriptionProxyConfig) : SubscriptionProxyConfig :=
  if !source.enabled then target
  else if !target.enabled then source
  else
    { fillSubscriptionProxy target source with
      profiles := appendNew sameSite target.profiles source.profiles
      websiteProfiles := appendNew sameWebsite target.websiteProfiles source.websiteProfiles }

def mergeRuntimeAgent (target source : AgentConfig) : AgentConfig where
  subscriptionProxy := mergeRuntimeProxy target.subscriptionProxy source.subscriptionProxy

/-- `machine_node_key` (`machine.rs:680`). -/
def Machine.machineNodeKey (node : NodeConfig) : Text :=
  trimTrailingSlashes node.url ++ "#" ++ decimal node.machineId ++ "#" ++ decimal node.nodeId

/-- `can_run_subscription_proxy_only` (`machine.rs:639`). -/
def canRunSubscriptionProxyOnly (agent : AgentConfig) : Bool :=
  let proxy := agent.subscriptionProxy
  proxy.enabled && (validSubscriptionProxyProfile proxy.siteId proxy.upstreamBaseUrl ||
    (proxy.profiles.any fun profile => validSubscriptionProxyProfile profile.siteId profile.upstreamBaseUrl) ||
    proxy.websiteProfiles.any fun profile => validSubscriptionProxyProfile profile.siteId profile.upstreamBaseUrl)

/-- The locals of `resolve_machine_profiles`. -/
structure ResolveState where
  summary : MachineResolveSummary := {}
  seenNodes : List Text := []
  successes : Nat := 0

namespace ResolveState

/-- A failure ends the resolution unless it is to continue. -/
def fail (continueOnError : Bool) (profile : MachineProfileConfig) (state : ResolveState) (error : Text) :
    Except Text ResolveState :=
  if !continueOnError then .error error
  else .ok { state with summary.failures := state.summary.failures ++
    [{ profile := machineProfileLabel profile, machineId := profile.machineId, error }] }

/-- A pass of the inner loop, over the nodes of one answer. -/
def addNode (continueOnError : Bool) (profile : MachineProfileConfig) (state : ResolveState) (node : NodeConfig) :
    Except Text ResolveState :=
  let key := Machine.machineNodeKey node
  if state.seenNodes.contains key then
    state.fail continueOnError profile ("duplicate machine profile node: " ++ key)
  else .ok { state with
    seenNodes := key :: state.seenNodes
    summary.nodes := state.summary.nodes ++ [node] }

/-- The summary with the agent and the realtime options of one answer. -/
def addAnswer (state : ResolveState) (resolved : MachineResolveResult) : ResolveState :=
  { state with
    successes := state.successes + 1
    summary.agent := mergeRuntimeAgent state.summary.agent resolved.agent
    summary.realtime := state.summary.realtime ++ resolved.realtime.toList }

/-- A pass of the outer loop. -/
def resolveInput (continueOnError : Bool) (state : ResolveState) (input : MachineProfileInput) :
    Except Text ResolveState :=
  match input.result with
  | .error error => state.fail continueOnError input.profile error
  | .ok response =>
    let resolved := resolveMachineProfileResult input.profile response
    resolved.nodes.foldlM (addNode continueOnError input.profile) (state.addAnswer resolved)

def finish (state : ResolveState) : Except Text MachineResolveSummary :=
  if state.summary.nodes.isEmpty then
    if decide (0 < state.successes) && canRunSubscriptionProxyOnly state.summary.agent then
      .ok { state.summary with subscriptionProxyOnly := true }
    else if 0 < state.successes then .ok state.summary
    else if !state.summary.failures.isEmpty then
      .error ("no machine nodes resolved: " ++
        join "; " (state.summary.failures.map fun failure => failure.profile ++ ": " ++ failure.error))
    else .error "no machine nodes resolved"
  else .ok state.summary

/-- Finishing changes nothing of the summary but what else may run on it. -/
theorem finish_eq_ok {state : ResolveState} {summary : MachineResolveSummary} (h : state.finish = .ok summary) :
    ∃ proxyOnly, summary = { state.summary with subscriptionProxyOnly := proxyOnly } := by
  rw [finish] at h
  split at h
  · split at h
    · cases h
      exact ⟨true, rfl⟩
    · split at h
      · cases h
        exact ⟨_, rfl⟩
      · split at h <;> cases h
  · cases h
    exact ⟨_, rfl⟩

end ResolveState

/-- `resolve_machine_profiles` (`machine.rs:239`). -/
def resolveMachineProfiles (inputs : List MachineProfileInput) (continueOnError : Bool) :
    Except Text MachineResolveSummary := do
  let state ← inputs.foldlM (ResolveState.resolveInput continueOnError) {}
  state.finish

/-! ## The agent's own configuration -/

/-- `merge_subscription_proxy` (`runtime.rs:397`). -/
def Runtime.mergeSubscriptionProxy (target source : SubscriptionProxyConfig) : SubscriptionProxyConfig :=
  if !source.enabled then target
  else if !target.enabled then source
  else
    { fillSubscriptionProxy target source with
      siteId := fillIfEmpty target.siteId source.siteId
      upstreamBaseUrl := fillIfEmpty target.upstreamBaseUrl source.upstreamBaseUrl
      subscribePath := fillIfEmpty target.subscribePath source.subscribePath
      allowHttpFallback := target.allowHttpFallback || source.allowHttpFallback
      profiles := appendNew sameSite target.profiles source.profiles }

/-- `apply_machine_summary` (`runtime.rs:388`). -/
def applyMachineSummary (resolved : Config.ResolvedConfig) (summary : MachineResolveSummary) : Config.ResolvedConfig :=
  { resolved with
    nodes := resolved.nodes ++ summary.nodes
    agent.subscriptionProxy :=
      Runtime.mergeSubscriptionProxy resolved.agent.subscriptionProxy summary.agent.subscriptionProxy }

end KeliNode
