import KeliNode.Config.Paths
import KeliNode.Node.Manager
import KeliNode.Proxy.Config

/-!
# The resolved configuration (`config.rs`)

What the operator wrote, with every blank filled in: nodes and machine profiles inherit the panel's URL, token and
timeout, directories are in normal form, and a proxy that lists profiles is enabled.

| here | there |
|---|---|
| `AppConfig.resolveRuntime` | `config.rs:290` |
| `normalizeSubscriptionProxy` | `config.rs:482` |

`core_command` and `log_level` are trimmed and handed on, and are left out.
-/

namespace KeliNode

open Lib

/-! ## Data -/

/-- `PanelConfig` (`config.rs:26`). -/
structure PanelConfig where
  url : Text := []
  token : Text := []
  nodeId : Nat := 0
  machineId : Nat := 0
  timeout : Nat := 0
  deriving DecidableEq

/-- `MachineProfileConfig` (`config.rs:82`). -/
structure MachineProfileConfig where
  name : Text := []
  url : Text := []
  token : Text := []
  machineId : Nat := 0
  timeout : Nat := 0
  configDir : Text := []
  deriving DecidableEq

structure MachineConfig where
  enabled : Bool := false
  continueOnError : Option Bool := none
  profiles : List MachineProfileConfig := []
  deriving DecidableEq

structure AgentConfig where
  subscriptionProxy : SubscriptionProxyConfig := {}
  deriving DecidableEq

/-- `AppConfig` (`config.rs:10`). -/
structure AppConfig where
  panel : PanelConfig := {}
  kernel : KernelConfig := {}
  realtime : RealtimeConfig := {}
  machine : MachineConfig := {}
  agent : AgentConfig := {}
  nodes : List NodeConfig := []
  deriving DecidableEq

structure ResolvedMachineConfig where
  enabled : Bool := false
  continueOnError : Bool := false
  profiles : List MachineProfileConfig := []
  deriving DecidableEq

/-- `ResolvedConfig` (`config.rs:229`), whole. -/
structure Config.ResolvedConfig where
  kernel : KernelConfig := {}
  realtime : RealtimeConfig := {}
  machine : ResolvedMachineConfig := {}
  agent : AgentConfig := {}
  nodes : List NodeConfig := []
  deriving DecidableEq

/-! ## Inheritance -/

/-- `first_non_empty` (`config.rs:547`), which trims what it takes. -/
def Config.firstNonEmpty (value fallback : Text) : Text := if trim value = [] then trim fallback else trim value

/-- `first_positive_u32` and `first_positive_u64` (`config.rs:555`, `:563`). -/
def firstPositive (value fallback : Nat) : Nat := if 0 < value then value else fallback

/-- `normalize_string_list` (`config.rs:535`). -/
def normalizeStringList (values : List Text) : List Text :=
  values.foldl (fun output value =>
    if trim value = [] ∨ output.contains (trim value) = true then output else output ++ [trim value]) []

/-- `normalize_optional_config_dir` (`config.rs:627`). -/
def normalizeOptionalConfigDir (path : Text) : Text := if trim path = [] then [] else normalizeConfigDir path

/-- `normalize_subscription_proxy_zerossl` (`config.rs:521`). -/
def normalizeSubscriptionProxyZerossl (src : SubscriptionProxyZeroSslConfig) : SubscriptionProxyZeroSslConfig where
  status := trim src.status
  certificateId := trim src.certificateId
  validationPath := trim src.validationPath
  validationContent := trim src.validationContent
  certificatePem := trim src.certificatePem
  caBundlePem := trim src.caBundlePem
  expiresAt := trim src.expiresAt

/-- `normalize_subscription_proxy` (`config.rs:482`). -/
def normalizeSubscriptionProxy (src : SubscriptionProxyConfig) : SubscriptionProxyConfig where
  enabled := src.enabled || !src.profiles.isEmpty || !src.websiteProfiles.isEmpty
  httpsListen := trim src.httpsListen
  httpListen := trim src.httpListen
  certFile := trim src.certFile
  keyFile := trim src.keyFile
  certificateDomain := trim src.certificateDomain
  challengeDir := trim src.challengeDir
  zerossl := normalizeSubscriptionProxyZerossl src.zerossl
  siteId := trim src.siteId
  upstreamBaseUrl := trimTrailingSlashes (trim src.upstreamBaseUrl)
  subscribePath := trimSubscriptionPath src.subscribePath
  allowHttpFallback := src.allowHttpFallback
  maxResponseBytes := src.maxResponseBytes
  profiles := src.profiles.map fun row =>
    { siteId := trim row.siteId
      upstreamBaseUrl := trimTrailingSlashes (trim row.upstreamBaseUrl)
      subscribePath := trimSubscriptionPath row.subscribePath }
  websiteProfiles := src.websiteProfiles.map fun row =>
    { siteId := trim row.siteId
      upstreamBaseUrl := trimTrailingSlashes (trim row.upstreamBaseUrl)
      pathPrefix := normalizeProxyPathPrefix row.pathPrefix }

/-! ## Resolution -/

/-- `machine_mode_enabled` (`config.rs:286`). -/
def AppConfig.machineModeEnabled (config : AppConfig) : Bool :=
  config.machine.enabled || !config.machine.profiles.isEmpty

/-- A pass of the loop over `machine.profiles`. -/
def PanelConfig.resolveProfile (panel : PanelConfig) (row : MachineProfileConfig) : Except Text MachineProfileConfig :=
  let apiHost := Config.firstNonEmpty (trim row.url) (trim panel.url)
  let token := Config.firstNonEmpty (trim row.token) (trim panel.token)
  let name := if trim row.name = [] ∧ 0 < row.machineId then "machine-" ++ decimal row.machineId else trim row.name
  if apiHost = [] ∨ token = [] ∨ row.machineId = 0 then
    .error "config v2 machine profiles require url, token and machine_id"
  else .ok
    { name
      url := apiHost
      token
      machineId := row.machineId
      timeout := firstPositive row.timeout panel.timeout
      configDir := normalizeOptionalConfigDir row.configDir }

/-- A pass of the loop over `nodes`. -/
def PanelConfig.resolveNode (panel : PanelConfig) (baseConfigDir : Text) (multiNode : Bool) (row : NodeConfig) :
    Except Text NodeConfig :=
  let apiHost := Config.firstNonEmpty (trim row.url) (trim panel.url)
  let token := Config.firstNonEmpty (trim row.token) (trim panel.token)
  if apiHost = [] ∨ token = [] ∨ row.nodeId = 0 then
    .error "config v2 nodes entries require node_id and inherit or define url/token"
  else .ok
    { url := apiHost
      token
      nodeId := row.nodeId
      machineId := firstPositive row.machineId panel.machineId
      timeout := firstPositive row.timeout panel.timeout
      configDir := resolveNodeConfigDir baseConfigDir row.configDir row.nodeId multiNode }

/-- The nodes of the configuration itself; those of machine profiles are the panels' to name. -/
def AppConfig.resolveNodes (config : AppConfig) (baseConfigDir : Text) : Except Text (List NodeConfig) :=
  let panel := config.panel
  if config.nodes = [] then
    if config.machine.profiles ≠ [] then .ok []
    else if trim panel.url = [] ∨ trim panel.token = [] ∨ panel.nodeId = 0 then
      .error "config v2 requires panel.url, panel.token and panel.node_id when nodes is empty"
    else .ok
      [{ url := trim panel.url
         token := trim panel.token
         nodeId := panel.nodeId
         machineId := panel.machineId
         timeout := panel.timeout
         configDir := baseConfigDir }]
  else config.nodes.mapM (panel.resolveNode baseConfigDir (decide (1 < config.nodes.length)))

/-- `resolve_runtime` (`config.rs:290`). -/
def AppConfig.resolveRuntime (config : AppConfig) : Except Text Config.ResolvedConfig := do
  let kernel := { config.kernel with
    type := trim config.kernel.type
    configDir := normalizeConfigDir config.kernel.configDir
    dnsServers := normalizeStringList config.kernel.dnsServers
    dnsPrivateIpAllowlist := normalizeStringList config.kernel.dnsPrivateIpAllowlist
    ipStrategy := trim config.kernel.ipStrategy }
  let profiles ← config.machine.profiles.mapM config.panel.resolveProfile
  let nodes ← config.resolveNodes kernel.configDir
  return {
    kernel
    realtime := { config.realtime with url := trim config.realtime.url }
    machine := {
      enabled := config.machineModeEnabled
      continueOnError := config.machine.continueOnError.getD config.machineModeEnabled
      profiles }
    agent := { subscriptionProxy := normalizeSubscriptionProxy config.agent.subscriptionProxy }
    nodes }

end KeliNode
