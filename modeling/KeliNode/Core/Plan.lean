import KeliNode.Panel.Types

/-!
# The core plan (`core.rs`)

From a panel node and its users to the inbound the native core is to run, and from a node list to the
core plan.  `validate_keli_core_rs_inbound` and the `native_capability` tables behind it decide only
whether an inbound is accepted; they enter as the parameter `validate`.

| here | there |
|---|---|
| `buildInboundPlanWithUsers` | `core.rs:3156` |
| `CorePlan.fromNodesWithUsers` | `core.rs:223` |
| `splitCorePlansForNodesWithKind` | `core.rs:351` |

Emails are stripped from every plan built from nodes (`strip_native_user_emails`), and the user-list and
uuid pools only share allocations, so neither shows in the values.
-/

namespace KeliNode

open Lib

/-! ## Plans -/

structure InboundUserPlan where
  id : Nat
  uuid : Text
  email : Text := []
  speedLimit : Nat := 0
  deviceLimit : Nat := 0
  deriving DecidableEq, Repr

structure RoutePlan where
  id : Nat
  action : Text
  matchRules : List Text
  actionValue : Option Text
  deriving DecidableEq

/-- `InboundPlan` (`core.rs:48`). -/
structure InboundPlan where
  tag : Text
  protocol : Text
  listen : Text
  port : Nat
  portRange : Text
  security : Text
  network : Text
  multiplexing : Text
  networkSettings : Value
  flow : Text
  cipher : Text
  serverKey : Text
  vlessDecryption : Text
  paddingScheme : List Text
  congestionControl : Text
  zeroRttHandshake : Bool
  upMbps : Nat
  downMbps : Nat
  obfs : Text
  obfsPassword : Text
  ignoreClientBandwidth : Bool
  alpn : List Text
  fallbackToIpv4 : Bool
  certFile : Text
  keyFile : Text
  rejectUnknownSni : Bool
  serverName : Text
  realityDest : Text
  realityXver : Nat
  realityPrivateKey : Text
  realityShortId : Text
  realityMldsa65Seed : Text
  users : List InboundUserPlan
  routes : List RoutePlan
  deriving Inhabited

structure CorePlanDnsOptions where
  servers : List Text := []
  queryStrategy : Text := []
  blockPrivateIps : Bool := false
  privateIpAllowlist : List Text := []
  deriving DecidableEq

/-- `CorePlan` (`core.rs:26`).  `CoreKind` has the one value `KeliCoreRs` and is left out. -/
structure CorePlan where
  configPath : Text
  listenTags : List Text
  inbounds : List InboundPlan
  dns : CorePlanDnsOptions := {}

/-- `KernelConfig`, the fields the plan reads. -/
structure KernelConfig where
  type : Text := []
  configDir : Text := []
  dnsServers : List Text := []
  dnsBlockPrivateIps : Bool := false
  dnsPrivateIpAllowlist : List Text := []
  ipStrategy : Text := []
  deriving DecidableEq

/-! ## One inbound -/

/-- `normalize_node_listen_ip` (`core.rs:3245`). -/
def normalizeNodeListenIp (raw : Text) : Text :=
  let listenIp := trim raw
  if listenIp.head? = some '[' ∧ listenIp.getLast? = some ']' then
    trimEndMatches (· = ']') (trimStartMatches (· = '[') listenIp)
  else listenIp

/-- `resolve_node_listen_ip` (`core.rs:3257`). -/
def resolveNodeListenIp (raw : Text) : Text :=
  firstNonEmpty (normalizeNodeListenIp raw) "0.0.0.0"

/-- `should_fallback_node_listen_ip` (`core.rs:3264`). -/
def shouldFallbackNodeListenIp (raw : Text) : Bool :=
  let ip := normalizeNodeListenIp raw
  ip = "" || ip = "0.0.0.0" || ip = "::"

/-- `resolve_tls_alpn` (`core.rs:3271`). -/
def resolveTlsAlpn (node : NodeInfo) : List Text :=
  let alpn := node.common.tlsSettings.alpn.foldl (fun alpn value =>
    let text := trim value
    if text.isEmpty || alpn.contains text then alpn else alpn ++ [text]) []
  if alpn.isEmpty && (node.protocol = .hysteria2 || node.protocol = .tuic) then ["h3"] else alpn

/-- `core_protocol_name` (`core.rs:3287`). -/
def coreProtocolName : Protocol → Text
  | .hysteria2 => "hysteria"
  | other => other.asStr

/-- `resolve_mieru_transport` (`core.rs:3322`). -/
def resolveMieruTransport (value : Text) : Except Text Text :=
  let transport := trim value
  if transport.isEmpty then .ok "TCP"
  else
    let transport := asciiUpper transport
    if transport = "TCP" ∨ transport = "UDP" then .ok transport
    else .error ("mieru transport " ++ transport ++ " is not supported")

/-- `core_network_name` (`core.rs:3294`). -/
def coreNetworkName (node : NodeInfo) : Except Text Text :=
  if !(trim node.common.network).isEmpty then .ok (trim node.common.network)
  else match node.protocol with
    | .trojan => .ok "tcp"
    | .hysteria2 => .ok "hysteria"
    | .tuic => .ok "tuic"
    | .mieru => resolveMieruTransport node.common.transport
    | _ => .ok []

/-- `resolve_node_port_range` (`core.rs:3308`). -/
def resolveNodePortRange (node : NodeInfo) : Text :=
  let ports := trim node.common.ports
  if !ports.isEmpty then ports
  else
    let port := trim node.common.port
    if port.contains '-' then port else []

/-- `security_name` (`core.rs:3337`). -/
def securityName : Security → Text
  | .none => "none"
  | .tls => "tls"
  | .reality => "reality"
  | .other value => "other-" ++ decimal value

/-- `panel_tls_cert_mode_disables_stream_tls` (`core.rs:3353`). -/
def panelTlsCertModeDisablesStreamTls (node : NodeInfo) : Bool :=
  if node.common.tls = 0 then false
  else if !(node.protocol = .vmess || node.protocol = .vless || node.protocol = .trojan) then false
  else
    let certMode := asciiLower (trim (match node.common.certInfo with
      | some cert => cert.certMode
      | none => node.common.tlsSettings.certMode))
    certMode = "" || certMode = "none"

/-- `inbound_security_name` (`core.rs:3346`). -/
def inboundSecurityName (node : NodeInfo) : Text :=
  if node.security = .tls && panelTlsCertModeDisablesStreamTls node then "none"
  else securityName node.security

/-- `resolve_vless_decryption` (`core.rs:3374`). -/
def resolveVlessDecryption (node : NodeInfo) : Except Text Text :=
  if node.protocol ≠ .vless then .ok []
  else
    let encryption := trim node.common.encryption
    if encryption.isEmpty then .ok "none"
    else if encryption = "mlkem768x25519plus" then
      let settings := node.common.encryptionSettings
      let padding := trim settings.serverPadding
      .ok (join ['.'] ([encryption, trim settings.mode, trim settings.ticket] ++
        (if padding.isEmpty then [] else [padding]) ++ [trim settings.privateKey]))
    else .error ("vless decryption method " ++ encryption ++ " is not support")

/-- `resolve_reality_dest` (`core.rs:3404`). -/
def resolveRealityDest (settings : TlsSettings) : Text :=
  let host := firstNonEmpty (trim settings.dest) (trim settings.serverName)
  let port := trim settings.serverPort
  if host.isEmpty || port.isEmpty then host
  else if host.contains ':' && host.head? ≠ some '[' then '[' :: host ++ "]:" ++ port
  else host ++ ":" ++ port

/-- `value_to_u64` (`core.rs:3416`). -/
def valueToU64 : Value → Nat
  | .posInt n => n
  | .string text => (parseUnsigned (2 ^ 64) (trim text)).getD 0
  | _ => 0

/-- `node_device_limit_fallback` (`core.rs:3454`). -/
def nodeDeviceLimitFallback (node : NodeInfo) : Nat :=
  match node.common.baseConfig with
  | some config => config.deviceLimitFallback
  | none => 0

/-- `effective_device_limit` (`core.rs:3462`). -/
def effectiveDeviceLimit (deviceLimit fallback : Nat) : Nat :=
  if 0 < deviceLimit then deviceLimit else fallback

/-- `inbound_user_plan` (`core.rs:3470`). -/
def inboundUserPlan (tag : Text) (user : UserInfo) (fallback : Nat) : InboundUserPlan :=
  let uuid := trim user.uuid
  { id := user.id
    email := tag ++ '|' :: uuid
    uuid
    speedLimit := user.speedLimit
    deviceLimit := effectiveDeviceLimit user.deviceLimit fallback }

/-- `route_plan` (`core.rs:3490`). -/
def routePlan (route : Route) : RoutePlan where
  id := route.id
  action := trim route.action
  matchRules := (route.matchRules.map trim).filter (!·.isEmpty)
  actionValue := route.actionValue.bind fun value =>
    let trimmed := trim value
    if trimmed.isEmpty then none else some trimmed

/-- The user list of an inbound: users with a blank uuid are left out. -/
def inboundUsers (node : NodeInfo) (users : List UserInfo) : List InboundUserPlan :=
  (users.filter fun user => !(trim user.uuid).isEmpty).map fun user =>
    inboundUserPlan node.tag user (nodeDeviceLimitFallback node)

/-- `build_inbound_plan_with_users` (`core.rs:3156`). -/
def buildInboundPlanWithUsers (node : NodeInfo) (users : List UserInfo) : Except Text InboundPlan :=
  if node.common.serverPort = 0 then .error ("node " ++ node.tag ++ " has empty server port")
  else do
    let cert := node.common.certInfo
    let network ← coreNetworkName node
    let vlessDecryption ← resolveVlessDecryption node
    .ok {
      tag := node.tag
      protocol := coreProtocolName node.protocol
      listen := resolveNodeListenIp node.common.listenIp
      port := node.common.serverPort
      portRange := resolveNodePortRange node
      security := inboundSecurityName node
      network
      multiplexing := trim node.common.multiplexing
      networkSettings := node.common.networkSettings
      flow := trim node.common.flow
      cipher := trim node.common.cipher
      serverKey := trim node.common.serverKey
      vlessDecryption
      paddingScheme := (node.common.paddingScheme.map trim).filter (!·.isEmpty)
      congestionControl := trim node.common.congestionControl
      zeroRttHandshake := node.common.zeroRttHandshake
      upMbps := node.common.upMbps
      downMbps := node.common.downMbps
      obfs := trim node.common.obfs
      obfsPassword := trim node.common.obfsPassword
      ignoreClientBandwidth := node.common.ignoreClientBandwidth
      alpn := resolveTlsAlpn node
      fallbackToIpv4 := shouldFallbackNodeListenIp node.common.listenIp
      certFile := (cert.map (·.certFile)).getD []
      keyFile := (cert.map (·.keyFile)).getD []
      rejectUnknownSni := (cert.map (·.rejectUnknownSni)).getD false
      serverName := (cert.map (·.certDomain)).getD
        (firstNonEmpty (trim node.common.tlsSettings.serverName) (trim node.common.serverName))
      realityDest := resolveRealityDest node.common.tlsSettings
      realityXver := valueToU64 node.common.tlsSettings.xver
      realityPrivateKey := trim node.common.tlsSettings.privateKey
      realityShortId := trim node.common.tlsSettings.shortId
      realityMldsa65Seed := trim node.common.tlsSettings.mldsa65Seed
      users := inboundUsers node users
      routes := (node.common.routes.map routePlan).filter (!·.action.isEmpty) }

/-! ## The core plan -/

/-- Users by node tag, as the panel loop hands them to the planner. -/
abbrev UsersByNodeTag := BTreeMap Text (List UserInfo)

/-- `strip_native_user_emails` (`core.rs:286`). -/
def stripNativeUserEmails (inbounds : List InboundPlan) : List InboundPlan :=
  inbounds.map fun inbound => { inbound with users := inbound.users.map fun user => { user with email := [] } }

/-- `CorePlan::from_nodes_with_users` (`core.rs:222`). -/
def CorePlan.fromNodesWithUsers (configPath : Text) (nodes : List NodeInfo) (usersByNodeTag : UsersByNodeTag) :
    Except Text CorePlan := do
  let inbounds ← nodes.mapM fun node => buildInboundPlanWithUsers node (usersByNodeTag.getD node.tag [])
  let inbounds := stripNativeUserEmails inbounds
  .ok { configPath, listenTags := inbounds.map (·.tag), inbounds }

/-- `keli_core_rs_query_strategy` (`core.rs:266`).  Only ASCII letters occur in the keys, and no other
character lowercases to one of theirs. -/
def keliCoreRsQueryStrategy (value : Text) : Text :=
  let key := asciiLower ((trim value).filter fun ch => ch ≠ '_' ∧ ch ≠ '-')
  if key = "asis" then "AsIs"
  else if key = "useip" then "UseIP"
  else if key = "useipv6" ∨ key = "ipv6" then "UseIPv6"
  else if key = "useipv4v6" ∨ key = "ipv4v6" then "UseIPv4v6"
  else if key = "useipv6v4" ∨ key = "ipv6v4" then "UseIPv6v4"
  else "UseIPv4"

/-- `CorePlan::apply_kernel_dns_options` (`core.rs:256`). -/
def CorePlan.applyKernelDnsOptions (plan : CorePlan) (kernel : KernelConfig) : CorePlan :=
  { plan with dns := {
      servers := kernel.dnsServers
      queryStrategy := keliCoreRsQueryStrategy kernel.ipStrategy
      blockPrivateIps := kernel.dnsBlockPrivateIps
      privateIpAllowlist := kernel.dnsPrivateIpAllowlist } }

/-- `core_kind_from_name` (`core.rs:324`): accepts the native core's names only. -/
def coreKindFromName (value : Text) : Except Text Unit :=
  let normalized := (asciiLower (trim value)).map fun c => if c = '_' then '-' else c
  if normalized = "" ∨ normalized = "keli-core-rs" ∨ normalized = "kelicore-rs" ∨ normalized = "kelicorers" then
    .ok ()
  else if normalized = "xray" ∨ normalized = "sing-box" ∨ normalized = "singbox" ∨ normalized = "mihomo" ∨
      normalized = "clash-meta" then
    .error "legacy external core types are no longer supported; use keli-core-rs"
  else .error ("unsupported core type " ++ normalized ++ "; use keli-core-rs")

/-- `keli_core_rs_protocol_requires_users` (`core.rs:414`). -/
def keliCoreRsProtocolRequiresUsers : Protocol → Bool
  | .vmess | .shadowsocks | .anytls | .mieru | .naive => true
  | _ => false

/-- `node_has_keli_core_rs_users` (`core.rs:425`). -/
def nodeHasKeliCoreRsUsers (nodeTag : Text) (usersByNodeTag : UsersByNodeTag) : Bool :=
  (usersByNodeTag.getD nodeTag []).any fun user => !(trim user.uuid).isEmpty

/-- `node_supported_by_keli_core_rs` (`core.rs:388`). -/
def nodeSupportedByKeliCoreRs (validate : InboundPlan → Except Text Unit) (configPath : Text) (node : NodeInfo)
    (usersByNodeTag : UsersByNodeTag) : Except Text Unit :=
  if keliCoreRsProtocolRequiresUsers node.protocol && !nodeHasKeliCoreRsUsers node.tag usersByNodeTag then
    .error ("keli-core-rs " ++ coreProtocolName node.protocol ++ " inbound " ++ node.tag ++
      " requires panel users before rendering")
  else do
    let probe ← CorePlan.fromNodesWithUsers configPath [node] usersByNodeTag
    probe.inbounds.forM validate

/-- The node loop of `split_core_plans_for_nodes_with_kind`: the nodes the native core is to run. -/
def keliCoreRsNodes (validate : InboundPlan → Except Text Unit) (configPath : Text)
    (usersByNodeTag : UsersByNodeTag) : List NodeInfo → Except Text (List NodeInfo)
  | [] => .ok []
  | node :: nodes =>
    if keliCoreRsProtocolRequiresUsers node.protocol && !nodeHasKeliCoreRsUsers node.tag usersByNodeTag then
      keliCoreRsNodes validate configPath usersByNodeTag nodes
    else do
      nodeSupportedByKeliCoreRs validate configPath node usersByNodeTag
      let rest ← keliCoreRsNodes validate configPath usersByNodeTag nodes
      .ok (node :: rest)

/-- `split_core_plans_for_nodes_with_kind` (`core.rs:351`). -/
def splitCorePlansForNodesWithKind (validate : InboundPlan → Except Text Unit) (configPath : Text)
    (nodes : List NodeInfo) (usersByNodeTag : UsersByNodeTag) : Except Text (Option CorePlan) := do
  let coreNodes ← keliCoreRsNodes validate configPath usersByNodeTag nodes
  if coreNodes.isEmpty then .ok none
  else do
    let plan ← CorePlan.fromNodesWithUsers configPath coreNodes usersByNodeTag
    .ok (some plan)

end KeliNode
