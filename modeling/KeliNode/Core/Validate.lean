import KeliNode.Core.Capability

/-!
# What the renderer accepts (`core.rs`)

`validate_keli_core_rs_inbound` and everything it calls: the fields a protocol may use, its transports, securities
and flows, and last the capability gate.

| here | there |
|---|---|
| `validateKeliCoreRsInbound` | `core.rs:1798` |
| `validateKeliCoreRsInboundCapability` | `core.rs:1853` |
| `validateKeliCoreRsProtocolScopedFields` | `core.rs:1974` |
| `validateKeliCoreRsPlainTcpInbound`, `…Naive…`, `…TcpOrWs…`, `…Tuic…`, `…Hysteria2…` | `core.rs:2017` to `:2380` |
| `keliCoreRsTransportNetwork` | `core.rs:2688` |
-/

namespace KeliNode

open Lib

/-! ## Helpers -/

/-- `return Err(..)` where a check fails. -/
def reject (bad : Bool) (message : Text) : Except Text Unit := if bad then .error message else .ok ()

/-- A check that is made only under a condition. -/
def checkIf (condition : Bool) (check : Except Text Unit) : Except Text Unit := if condition then check else .ok ()

/-- `matches!` on a string. -/
def oneOf (value : Text) (options : List String) : Bool := options.any fun option => value = option.toList

/-- `str::len`: the bytes of the UTF-8 text. -/
def byteLength (s : Text) : Nat := (s.map Char.utf8Size).sum

/-- `json_value_is_empty` (`core.rs:2485`). -/
def jsonValueIsEmpty : Value → Bool
  | .null => true
  | .object fields => fields.isEmpty
  | _ => false

def isString : Value → Bool
  | .string _ => true
  | _ => false

/-- `is_uuid_like` (`core.rs:2493`). -/
def isUuidLike (value : Text) : Bool :=
  let compact := (trim value).filter (· ≠ '-')
  byteLength compact = 32 && compact.all fun ch => (Json.hexDigitValue ch).isSome

/-- `is_keli_core_rs_shadowsocks_cipher` (`core.rs:2502`). -/
def isKeliCoreRsShadowsocksCipher (cipher : Text) : Bool :=
  oneOf ((asciiLower (trim cipher)).map fun ch => if ch = '_' then '-' else ch)
    ["aes-128-gcm", "aes-256-gcm", "chacha20-ietf-poly1305"]

/-- `is_keli_core_rs_quic_congestion_supported` (`core.rs:2307`). -/
def isKeliCoreRsQuicCongestionSupported (value : Text) : Bool :=
  oneOf ((asciiLower (trim value)).map fun ch => if ch = '-' || ch = ' ' then '_' else ch)
    ["", "cubic", "bbr", "new_reno", "newreno", "reno"]

/-- `keli_core_rs_transport_network` (`core.rs:2688`). -/
def keliCoreRsTransportNetwork (inbound : InboundPlan) : Text :=
  if inbound.protocol = "shadowsocks" && (trim inbound.network).isEmpty then "tcp,udp"
  else
    let network := asciiLower (firstNonEmpty (trim inbound.network) "tcp")
    if network = "websocket" then "ws"
    else if oneOf network ["http_upgrade", "http-upgrade", "httpupgrade"] then "httpupgrade"
    else if network = "gun" then "grpc"
    else network

section

variable (inbound : InboundPlan)

/-! ## Protocols -/

/-- `validate_keli_core_rs_protocol_scoped_fields` (`core.rs:1974`). -/
def validateKeliCoreRsProtocolScopedFields : Except Text Unit := do
  let protocol := inbound.protocol
  reject (protocol ≠ "shadowsocks" && !(trim inbound.cipher).isEmpty)
    ("keli-core-rs " ++ protocol ++ " does not support cipher on inbound " ++ inbound.tag)
  reject (protocol ≠ "anytls" && !inbound.paddingScheme.isEmpty)
    ("keli-core-rs " ++ protocol ++ " does not support paddingScheme on inbound " ++ inbound.tag)
  let hasHysteria2Options := 0 < inbound.upMbps || 0 < inbound.downMbps || inbound.ignoreClientBandwidth ||
    !(trim inbound.obfs).isEmpty || !(trim inbound.obfsPassword).isEmpty
  reject (protocol ≠ "hysteria" && hasHysteria2Options)
    ("keli-core-rs " ++ protocol ++ " does not support hysteria2 bandwidth/obfs options on inbound " ++ inbound.tag)
  reject (!(trim inbound.congestionControl).isEmpty && !oneOf protocol ["tuic", "hysteria"])
    ("keli-core-rs " ++ protocol ++ " does not support congestion_control on inbound " ++ inbound.tag)
  reject (protocol ≠ "tuic" && inbound.zeroRttHandshake)
    ("keli-core-rs " ++ protocol ++ " does not support tuic zero-rtt options on inbound " ++ inbound.tag)

/-- `validate_keli_core_rs_flow` (`core.rs:2134`). -/
def validateKeliCoreRsFlow (network : Text) : Except Text Unit := do
  let flow := trim inbound.flow
  if flow.isEmpty then .ok ()
  else do
    reject (inbound.protocol ≠ "vless")
      ("keli-core-rs " ++ inbound.protocol ++ " currently does not support flow " ++ inbound.flow ++ "; inbound " ++
        inbound.tag)
    reject (flow ≠ "xtls-rprx-vision")
      ("keli-core-rs vless currently supports only xtls-rprx-vision flow; inbound " ++ inbound.tag ++ " uses " ++
        inbound.flow)
    reject (network ≠ "tcp")
      ("keli-core-rs vless vision currently requires tcp transport; inbound " ++ inbound.tag ++ " uses " ++ network)
    reject (!oneOf inbound.security ["tls", "reality"])
      ("keli-core-rs vless vision currently requires tls or reality security; inbound " ++ inbound.tag ++ " uses " ++
        inbound.security)

/-- `validate_keli_core_rs_plain_tcp_inbound` (`core.rs:2017`). -/
def validateKeliCoreRsPlainTcpInbound : Except Text Unit := do
  let protocol := inbound.protocol
  let network := asciiLower (firstNonEmpty (trim inbound.network) "tcp")
  let networkSupported := if protocol = "shadowsocks" then oneOf network ["tcp", "tcp,udp"] else network = "tcp"
  let expected : Text := if protocol = "shadowsocks" then "tcp or tcp,udp" else "tcp"
  reject (!networkSupported)
    ("keli-core-rs " ++ protocol ++ " currently supports only " ++ expected ++ " transport; inbound " ++ inbound.tag ++
      " uses " ++ network)
  let more : Text := if protocol = "anytls" then "/tls" else ""
  reject (inbound.security ≠ "none" && !(protocol = "anytls" && inbound.security = "tls"))
    ("keli-core-rs " ++ protocol ++ " currently supports only security none" ++ more ++ "; inbound " ++ inbound.tag ++
      " uses " ++ inbound.security)
  reject (protocol ≠ "mieru" && !(trim inbound.portRange).isEmpty)
    ("keli-core-rs " ++ protocol ++ " currently supports only a single port; inbound " ++ inbound.tag ++
      " uses port range " ++ inbound.portRange)
  validateKeliCoreRsFlow inbound network
  reject (!jsonValueIsEmpty inbound.networkSettings)
    ("keli-core-rs " ++ protocol ++ " currently does not support transport settings on inbound " ++ inbound.tag)

/-- `validate_keli_core_rs_tls_inbound` (`core.rs:2213`). -/
def validateKeliCoreRsTlsInbound : Except Text Unit := do
  let protocol := inbound.protocol
  let network := keliCoreRsTransportNetwork inbound
  let supportsTransport := oneOf network ["tcp", "ws", "httpupgrade", "grpc"] || (protocol = "naive" && network = "quic")
  let expected : Text := if protocol = "naive" then "tcp/quic" else "tcp/ws/httpupgrade/grpc"
  reject (!supportsTransport)
    ("keli-core-rs " ++ protocol ++ " tls currently supports only " ++ expected ++ " transport; inbound " ++
      inbound.tag ++ " uses " ++ network)
  reject ((trim inbound.certFile).isEmpty || (trim inbound.keyFile).isEmpty)
    ("keli-core-rs " ++ protocol ++ " tls requires cert_file and key_file on inbound " ++ inbound.tag)
  reject (inbound.rejectUnknownSni && (trim inbound.serverName).isEmpty)
    ("keli-core-rs " ++ protocol ++ " reject_unknown_sni requires server_name on inbound " ++ inbound.tag)

/-- `validate_keli_core_rs_naive_inbound` (`core.rs:2060`). -/
def validateKeliCoreRsNaiveInbound : Except Text Unit := do
  let network := asciiLower (firstNonEmpty (trim inbound.network) "tcp")
  reject (!oneOf network ["tcp", "quic"])
    ("keli-core-rs naive currently supports only tcp or quic transport; inbound " ++ inbound.tag ++ " uses " ++ network)
  reject (inbound.security ≠ "tls")
    ("keli-core-rs naive currently requires tls security; inbound " ++ inbound.tag ++ " uses " ++ inbound.security)
  validateKeliCoreRsTlsInbound inbound
  reject (!(trim inbound.portRange).isEmpty)
    ("keli-core-rs naive currently supports only a single port; inbound " ++ inbound.tag ++ " uses port range " ++
      inbound.portRange)
  reject (!(trim inbound.flow).isEmpty)
    ("keli-core-rs naive does not support flow; inbound " ++ inbound.tag ++ " uses " ++ inbound.flow)
  reject (!jsonValueIsEmpty inbound.networkSettings)
    ("keli-core-rs naive currently does not support transport settings on inbound " ++ inbound.tag)

/-- `validate_keli_core_rs_reality_inbound` (`core.rs:2166`). -/
def validateKeliCoreRsRealityInbound : Except Text Unit := do
  let network := keliCoreRsTransportNetwork inbound
  reject (inbound.protocol ≠ "vless")
    ("keli-core-rs reality currently supports only vless; inbound " ++ inbound.tag ++ " uses " ++ inbound.protocol)
  reject (network ≠ "tcp")
    ("keli-core-rs vless reality currently requires tcp transport; inbound " ++ inbound.tag ++ " uses " ++ network)
  reject (trim inbound.serverName).isEmpty
    ("keli-core-rs vless reality requires server_name on inbound " ++ inbound.tag)
  reject (trim inbound.realityDest).isEmpty
    ("keli-core-rs vless reality requires dest on inbound " ++ inbound.tag)
  reject (trim inbound.realityPrivateKey).isEmpty
    ("keli-core-rs vless reality requires private_key on inbound " ++ inbound.tag)
  reject (trim inbound.realityShortId).isEmpty
    ("keli-core-rs vless reality requires short_id on inbound " ++ inbound.tag)
  reject (!(trim inbound.realityMldsa65Seed).isEmpty)
    ("keli-core-rs vless reality mldsa65Seed is not supported yet on inbound " ++ inbound.tag)

/-- `validate_keli_core_rs_http_transport_headers` (`core.rs:2418`). -/
def validateKeliCoreRsHttpTransportHeaders (network : Text) (headers : Value) : Except Text Unit :=
  match headers.asObject with
  | none => .error ("keli-core-rs " ++ network ++ " headers on inbound " ++ inbound.tag ++ " must be an object")
  | some headers => headers.forM fun (key, value) => do
    reject (!oneOf key ["Host", "host"])
      ("keli-core-rs " ++ network ++ " header " ++ key ++ " on inbound " ++ inbound.tag ++ " is not supported yet")
    reject (!isString value)
      ("keli-core-rs " ++ network ++ " header " ++ key ++ " on inbound " ++ inbound.tag ++ " must be a string")

/-- `validate_keli_core_rs_http_transport_settings` (`core.rs:2382`). -/
def validateKeliCoreRsHttpTransportSettings (network : Text) : Except Text Unit :=
  if jsonValueIsEmpty inbound.networkSettings then .ok ()
  else match inbound.networkSettings.asObject with
    | none => .error ("keli-core-rs " ++ network ++ " settings on inbound " ++ inbound.tag ++ " must be an object")
    | some settings => settings.forM fun (key, value) =>
      if oneOf key ["path", "Host", "host"] then
        reject (!isString value)
          ("keli-core-rs " ++ network ++ " setting " ++ key ++ " on inbound " ++ inbound.tag ++ " must be a string")
      else if key = "headers" then validateKeliCoreRsHttpTransportHeaders inbound network value
      else reject (!oneOf key ["ipaddress", "ipAddress", "ip_address"])
        ("keli-core-rs " ++ network ++ " setting " ++ key ++ " on inbound " ++ inbound.tag ++ " is not supported yet")

/-- `validate_keli_core_rs_grpc_transport_settings` (`core.rs:2446`). -/
def validateKeliCoreRsGrpcTransportSettings : Except Text Unit :=
  if jsonValueIsEmpty inbound.networkSettings then .ok ()
  else match inbound.networkSettings.asObject with
    | none => .error ("keli-core-rs grpc settings on inbound " ++ inbound.tag ++ " must be an object")
    | some settings => settings.forM fun (key, value) =>
      if oneOf key ["serviceName", "service_name"] then
        reject (!isString value)
          ("keli-core-rs grpc setting " ++ key ++ " on inbound " ++ inbound.tag ++ " must be a string")
      else if oneOf key ["multiMode", "multi_mode"] then
        reject (value.asBool.getD false)
          ("keli-core-rs grpc TunMulti is not supported yet on inbound " ++ inbound.tag)
      else .error ("keli-core-rs grpc setting " ++ key ++ " on inbound " ++ inbound.tag ++ " is not supported yet")

/-- `validate_keli_core_rs_tcp_or_ws_inbound` (`core.rs:2096`). -/
def validateKeliCoreRsTcpOrWsInbound : Except Text Unit := do
  let protocol := inbound.protocol
  let network := keliCoreRsTransportNetwork inbound
  reject (!oneOf network ["tcp", "ws", "httpupgrade", "grpc"])
    ("keli-core-rs " ++ protocol ++ " currently supports only tcp/ws/httpupgrade/grpc transport; inbound " ++
      inbound.tag ++ " uses " ++ network)
  reject (!oneOf inbound.security ["none", "tls", "reality"])
    ("keli-core-rs " ++ protocol ++ " currently supports only security none/tls/reality; inbound " ++ inbound.tag ++
      " uses " ++ inbound.security)
  checkIf (inbound.security = "reality") (validateKeliCoreRsRealityInbound inbound)
  checkIf (inbound.security = "tls") (validateKeliCoreRsTlsInbound inbound)
  validateKeliCoreRsFlow inbound network
  if network = "tcp" then
    reject (!jsonValueIsEmpty inbound.networkSettings)
      ("keli-core-rs " ++ protocol ++ " currently does not support transport settings on tcp inbound " ++ inbound.tag)
  else if network = "grpc" then validateKeliCoreRsGrpcTransportSettings inbound
  else validateKeliCoreRsHttpTransportSettings inbound network

/-- `validate_keli_core_rs_tuic_inbound` (`core.rs:2244`). -/
def validateKeliCoreRsTuicInbound : Except Text Unit := do
  reject (keliCoreRsTransportNetwork inbound ≠ "tuic")
    ("keli-core-rs tuic currently requires tuic transport; inbound " ++ inbound.tag ++ " uses " ++ inbound.network)
  reject (inbound.security ≠ "tls")
    ("keli-core-rs tuic currently requires tls security; inbound " ++ inbound.tag ++ " uses " ++ inbound.security)
  reject ((trim inbound.certFile).isEmpty || (trim inbound.keyFile).isEmpty)
    ("keli-core-rs tuic tls requires cert_file and key_file on inbound " ++ inbound.tag)
  reject (inbound.rejectUnknownSni && (trim inbound.serverName).isEmpty)
    ("keli-core-rs tuic reject_unknown_sni requires server_name on inbound " ++ inbound.tag)
  reject (!(trim inbound.flow).isEmpty)
    ("keli-core-rs tuic currently does not support flow " ++ inbound.flow ++ "; inbound " ++ inbound.tag)
  reject (!jsonValueIsEmpty inbound.networkSettings)
    ("keli-core-rs tuic currently does not support transport settings on inbound " ++ inbound.tag)
  let congestion := trim inbound.congestionControl
  reject (!congestion.isEmpty && !isKeliCoreRsQuicCongestionSupported congestion)
    ("keli-core-rs tuic congestion_control " ++ inbound.congestionControl ++ " is not supported on inbound " ++
      inbound.tag)
  reject inbound.zeroRttHandshake
    ("keli-core-rs tuic currently does not support zero-rtt on inbound " ++ inbound.tag)
  reject (inbound.users.any fun user => !isUuidLike user.uuid)
    ("keli-core-rs tuic currently requires UUID users on inbound " ++ inbound.tag)

/-- `validate_keli_core_rs_hysteria2_inbound` (`core.rs:2318`). -/
def validateKeliCoreRsHysteria2Inbound : Except Text Unit := do
  let network := keliCoreRsTransportNetwork inbound
  reject (!oneOf network ["hysteria", "hysteria2"])
    ("keli-core-rs hysteria2 currently requires hysteria transport; inbound " ++ inbound.tag ++ " uses " ++
      inbound.network)
  reject (inbound.security ≠ "tls")
    ("keli-core-rs hysteria2 currently requires tls security; inbound " ++ inbound.tag ++ " uses " ++ inbound.security)
  reject ((trim inbound.certFile).isEmpty || (trim inbound.keyFile).isEmpty)
    ("keli-core-rs hysteria2 tls requires cert_file and key_file on inbound " ++ inbound.tag)
  reject (inbound.rejectUnknownSni && (trim inbound.serverName).isEmpty)
    ("keli-core-rs hysteria2 reject_unknown_sni requires server_name on inbound " ++ inbound.tag)
  reject (!(trim inbound.flow).isEmpty)
    ("keli-core-rs hysteria2 currently does not support flow " ++ inbound.flow ++ "; inbound " ++ inbound.tag)
  reject (!jsonValueIsEmpty inbound.networkSettings)
    ("keli-core-rs hysteria2 currently does not support transport settings on inbound " ++ inbound.tag)
  let congestion := trim inbound.congestionControl
  reject (!congestion.isEmpty && !isKeliCoreRsQuicCongestionSupported congestion)
    ("keli-core-rs hysteria2 congestion_control " ++ inbound.congestionControl ++ " is not supported on inbound " ++
      inbound.tag)
  let obfs := trim inbound.obfs
  let obfsPassword := trim inbound.obfsPassword
  reject ((!obfs.isEmpty || !obfsPassword.isEmpty) && !eqIgnoreCase obfs "salamander")
    ("keli-core-rs hysteria2 only supports salamander obfs on inbound " ++ inbound.tag)
  reject ((!obfs.isEmpty || !obfsPassword.isEmpty) && byteLength obfsPassword < 4)
    ("keli-core-rs hysteria2 salamander obfs password must be at least 4 bytes on inbound " ++ inbound.tag)

/-! ## The capability gate -/

/-- `capability_protocol_for_inbound` (`core.rs:1897`). -/
def capabilityProtocolForInbound : Except Text NativeProtocol :=
  let protocol := inbound.protocol
  if protocol = "socks" then .ok .socks
  else if protocol = "http" then .ok .http
  else if protocol = "shadowsocks" then .ok .shadowsocks
  else if protocol = "vless" then .ok .vless
  else if protocol = "vmess" then .ok .vmess
  else if protocol = "trojan" then .ok .trojan
  else if protocol = "anytls" then .ok .anyTls
  else if oneOf protocol ["hysteria", "hysteria2"] then .ok .hysteria2
  else if protocol = "tuic" then .ok .tuic
  else if protocol = "naive" then .ok .naive
  else if protocol = "mieru" then .ok .mieru
  else .error ("keli-core-rs native capability gate cannot classify protocol " ++ protocol ++ " on inbound " ++
    inbound.tag)

/-- `capability_transport_for_inbound` (`core.rs:1917`). -/
def capabilityTransportForInbound : Except Text CapabilityTransport :=
  let network := keliCoreRsTransportNetwork inbound
  if inbound.protocol = "naive" && network = "tcp" then .ok .h2
  else if oneOf network ["tcp", "tcp,udp"] then .ok .tcp
  else if network = "udp" then .ok .udp
  else if network = "ws" then .ok .ws
  else if network = "httpupgrade" then .ok .httpUpgrade
  else if oneOf network ["h2", "http"] then .ok .h2
  else if network = "grpc" then .ok .grpc
  else if oneOf network ["quic", "hysteria", "hysteria2", "tuic"] then .ok .quic
  else .error ("keli-core-rs native capability gate cannot classify transport " ++ network ++ " on inbound " ++
    inbound.tag)

/-- `capability_security_for_inbound` (`core.rs:1939`). -/
def capabilitySecurityForInbound : Except Text CapabilitySecurity :=
  let security := inbound.security
  if security = "none" then .ok .none
  else if security = "tls" then .ok .tls
  else if security = "reality" then .ok .reality
  else .error ("keli-core-rs native capability gate cannot classify security " ++ security ++ " on inbound " ++
    inbound.tag)

/-- `capability_udp_mode_for_inbound` (`core.rs:1951`). -/
def capabilityUdpModeForInbound : UdpMode :=
  let protocol := inbound.protocol
  if protocol = "socks" then .udpAssociate
  else if oneOf protocol ["http", "naive"] then .none
  else if oneOf protocol ["shadowsocks", "hysteria", "hysteria2", "tuic"] then .nativeUdp
  else if protocol = "mieru" && keliCoreRsTransportNetwork inbound = "udp" then .nativeUdp
  else if oneOf protocol ["vless", "vmess", "trojan", "anytls", "mieru"] then .udpOverStream
  else .none

/-- `capability_user_model_for_inbound` (`core.rs:1962`). -/
def capabilityUserModelForInbound : Text :=
  let protocol := inbound.protocol
  if oneOf protocol ["socks", "http", "trojan", "anytls", "hysteria", "hysteria2"] then "password"
  else if oneOf protocol ["vless", "vmess"] then "uuid"
  else if protocol = "tuic" then "uuid_password"
  else if protocol = "naive" then "basic_auth"
  else if protocol = "mieru" then "username_password"
  else if protocol = "shadowsocks" then "password"
  else "none"

/-- `capability_key_for_inbound` (`core.rs:1884`). -/
def capabilityKeyForInbound : Except Text CapabilityKey := do
  let protocol ← capabilityProtocolForInbound inbound
  let transport ← capabilityTransportForInbound inbound
  let security ← capabilitySecurityForInbound inbound
  .ok {
    protocol
    direction := .inbound
    transport
    security
    udpMode := capabilityUdpModeForInbound inbound
    flow := firstNonEmpty (trim inbound.flow) "none"
    userModel := capabilityUserModelForInbound inbound
    routeOutbound := "per_inbound_routes" }

/-- `keli_core_rs_inbound_capability` (`core.rs:1838`). -/
def keliCoreRsInboundCapability : Except Text CapabilityEntry := do
  let key ← capabilityKeyForInbound inbound
  .ok ((lookupCapabilityEntry key).getD (unsupportedCapabilityEntry key
    ("keli-core-rs native renderer has no verified capability entry for inbound " ++ inbound.tag)))

/-- `validate_keli_core_rs_inbound_capability_with_canary_allow_list` (`core.rs:1858`). -/
def validateKeliCoreRsInboundCapability (allowList : Option Text) : Except Text Unit := do
  let entry ← keliCoreRsInboundCapability inbound
  match entry.decision with
  | .renderNative | .renderNativeWithWarning => .ok ()
  | .fallbackGo => .error entry.gateMessage
  | .reject _ => reject (!entryAllowedByExplicitCanaryAllowList entry allowList) entry.gateMessage

/-! ## The inbound -/

/-- The checks of the inbound's own protocol. -/
def validateKeliCoreRsProtocol : Except Text Unit :=
  let protocol := inbound.protocol
  if oneOf protocol ["socks", "http"] then validateKeliCoreRsPlainTcpInbound inbound
  else if protocol = "shadowsocks" then do
    validateKeliCoreRsPlainTcpInbound inbound
    reject (!isKeliCoreRsShadowsocksCipher inbound.cipher)
      ("keli-core-rs shadowsocks cipher " ++ inbound.cipher ++ " on inbound " ++ inbound.tag ++ " is not supported yet")
  else if protocol = "anytls" then do
    validateKeliCoreRsPlainTcpInbound inbound
    checkIf (inbound.security = "tls") (validateKeliCoreRsTlsInbound inbound)
  else if protocol = "mieru" then validateKeliCoreRsPlainTcpInbound inbound
  else if protocol = "naive" then validateKeliCoreRsNaiveInbound inbound
  else if oneOf protocol ["vless", "trojan", "vmess"] then validateKeliCoreRsTcpOrWsInbound inbound
  else if protocol = "tuic" then validateKeliCoreRsTuicInbound inbound
  else if protocol = "hysteria" then validateKeliCoreRsHysteria2Inbound inbound
  else .error ("keli-core-rs native renderer only supports socks/http/shadowsocks/vmess/vless/trojan/anytls/mieru tcp, " ++
    "naive h2/h3 tls, vmess/vless/trojan ws/httpupgrade/grpc, tuic tcp/udp relay, and hysteria2 tcp/udp relay today; " ++
    "inbound " ++ inbound.tag ++ " uses " ++ protocol)

/-- `validate_keli_core_rs_inbound` (`core.rs:1798`). -/
def validateKeliCoreRsInbound (allowList : Option Text) : Except Text Unit := do
  validateKeliCoreRsProtocolScopedFields inbound
  validateKeliCoreRsProtocol inbound
  validateKeliCoreRsInboundCapability inbound allowList

end

end KeliNode
