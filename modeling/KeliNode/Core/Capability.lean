import KeliNode.Core.Plan

/-!
# What the native core can run (`native_capability.rs`)

The matrix of verified combinations and the gate that reads it.  Of an entry only what the gate and its message
use is kept: the baseline texts, the lists of tests and evidence and the next action are printed elsewhere.

| here | there |
|---|---|
| `nativeCapabilityMatrix` | `native_capability.rs:332` |
| `lookupCapabilityEntry`, `unsupportedCapabilityEntry` | `:1236`, `:1242` |
| `entryAllowedByExplicitCanaryAllowList` | `:258` |
| `CapabilityEntry.gateMessage` | `:235` |

The allow list is the value of `KELI_NATIVE_CANARY_ALLOW`, if the variable is set.
-/

namespace KeliNode

open Lib

inductive NativeProtocol where
  | socks | http | shadowsocks | vless | vmess | trojan | anyTls | hysteria2 | tuic | naive | mieru | direct | dns | route
  deriving DecidableEq, Repr

def NativeProtocol.asStr : NativeProtocol → Text
  | .socks => "socks"
  | .http => "http"
  | .shadowsocks => "shadowsocks"
  | .vless => "vless"
  | .vmess => "vmess"
  | .trojan => "trojan"
  | .anyTls => "anytls"
  | .hysteria2 => "hysteria2"
  | .tuic => "tuic"
  | .naive => "naive"
  | .mieru => "mieru"
  | .direct => "direct"
  | .dns => "dns"
  | .route => "route"

inductive CapabilityDirection where
  | inbound | outbound
  deriving DecidableEq, Repr

def CapabilityDirection.asStr : CapabilityDirection → Text
  | .inbound => "inbound"
  | .outbound => "outbound"

inductive CapabilityTransport where
  | tcp | udp | ws | httpUpgrade | h2 | grpc | quic | oldQuic | direct
  deriving DecidableEq, Repr

def CapabilityTransport.asStr : CapabilityTransport → Text
  | .tcp => "tcp"
  | .udp => "udp"
  | .ws => "ws"
  | .httpUpgrade => "httpupgrade"
  | .h2 => "h2"
  | .grpc => "grpc"
  | .quic => "quic"
  | .oldQuic => "old_quic"
  | .direct => "direct"

inductive CapabilitySecurity where
  | none | tls | reality
  deriving DecidableEq, Repr

def CapabilitySecurity.asStr : CapabilitySecurity → Text
  | .none => "none"
  | .tls => "tls"
  | .reality => "reality"

inductive UdpMode where
  | none | nativeUdp | udpAssociate | udpOverStream
  deriving DecidableEq, Repr

def UdpMode.asStr : UdpMode → Text
  | .none => "none"
  | .nativeUdp => "native_udp"
  | .udpAssociate => "udp_associate"
  | .udpOverStream => "udp_over_stream"

inductive CapabilityStatus where
  | stable | usableNeedsSoak | canaryOnly | experimental | broken | unsupported
  deriving DecidableEq, Repr

def CapabilityStatus.asStr : CapabilityStatus → Text
  | .stable => "stable"
  | .usableNeedsSoak => "usable_needs_soak"
  | .canaryOnly => "canary_only"
  | .experimental => "experimental"
  | .broken => "broken"
  | .unsupported => "unsupported"

inductive RenderDecision where
  | renderNative
  | renderNativeWithWarning
  | fallbackGo
  | reject (reason : Text)
  deriving DecidableEq

def RenderDecision.asStr : RenderDecision → Text
  | .renderNative => "render_native"
  | .renderNativeWithWarning => "render_native_with_warning"
  | .fallbackGo => "fallback_go"
  | .reject _ => "reject"

def RenderDecision.reason : RenderDecision → Option Text
  | .reject reason => some reason
  | _ => none

inductive BaselineSource where
  | goLegacyBaseline | officialUpstreamBaseline | ecosystemInteropBaseline | mixed
  deriving DecidableEq, Repr

def BaselineSource.display : BaselineSource → Text
  | .goLegacyBaseline => "GoLegacyBaseline"
  | .officialUpstreamBaseline => "OfficialUpstreamBaseline"
  | .ecosystemInteropBaseline => "EcosystemInteropBaseline"
  | .mixed => "Mixed"

inductive EvidenceLevel where
  | unitOnly | localLoopback | officialClientInterop | thirdPartyClientInterop | soakTested | productionObserved
  deriving DecidableEq, Repr

def EvidenceLevel.display : EvidenceLevel → Text
  | .unitOnly => "UnitOnly"
  | .localLoopback => "LocalLoopback"
  | .officialClientInterop => "OfficialClientInterop"
  | .thirdPartyClientInterop => "ThirdPartyClientInterop"
  | .soakTested => "SoakTested"
  | .productionObserved => "ProductionObserved"

structure CapabilityKey where
  protocol : NativeProtocol
  direction : CapabilityDirection
  transport : CapabilityTransport
  security : CapabilitySecurity
  udpMode : UdpMode
  flow : Text
  userModel : Text
  routeOutbound : Text
  deriving DecidableEq

structure CapabilityEntry where
  key : CapabilityKey
  status : CapabilityStatus
  decision : RenderDecision
  baselineSource : BaselineSource
  evidenceLevel : EvidenceLevel
  reason : Text
  deriving DecidableEq

/-- `CapabilityKey::dimension_summary` (`native_capability.rs:202`). -/
def CapabilityKey.dimensionSummary (key : CapabilityKey) : Text :=
  "protocol=" ++ key.protocol.asStr ++ " direction=" ++ key.direction.asStr ++ " transport=" ++ key.transport.asStr ++
    " security=" ++ key.security.asStr ++ " udp_mode=" ++ key.udpMode.asStr ++ " flow=" ++ key.flow ++
    " user_model=" ++ key.userModel ++ " route_outbound=" ++ key.routeOutbound

/-- `CapabilityEntry::gate_message` (`native_capability.rs:235`). -/
def CapabilityEntry.gateMessage (entry : CapabilityEntry) : Text :=
  entry.key.dimensionSummary ++ " status=" ++ entry.status.asStr ++ " decision=" ++ entry.decision.asStr ++
    " baseline_source=" ++ entry.baselineSource.display ++ " evidence_level=" ++ entry.evidenceLevel.display ++
    " reason=" ++ entry.reason ++
    (match entry.decision.reason with
      | some reason => " decision_reason=" ++ reason
      | none => [])

/-! ## The canary allow list -/

/-- `canary_allow_tokens` (`native_capability.rs:279`). -/
def canaryAllowTokens (entry : CapabilityEntry) : List Text :=
  let protocol := entry.key.protocol.asStr
  let transport := entry.key.transport.asStr
  let security := entry.key.security.asStr
  if entry.key.security = .none then [protocol ++ "_" ++ transport]
  else [protocol ++ "_" ++ security ++ "_" ++ transport, protocol ++ "_" ++ transport ++ "_" ++ security]

/-- `normalize_canary_allow_token` (`native_capability.rs:294`). -/
def normalizeCanaryAllowToken (token : Text) : Text :=
  (trim token).map fun ch => if ch.isAlphanum then ch.toLower else '_'

/-- `char::is_ascii_whitespace`. -/
def isAsciiWhitespace (ch : Char) : Bool := ch = ' ' || ch = '\t' || ch = '\n' || ch = '\r' || ch = '\x0c'

/-- `entry_allowed_by_explicit_canary_allow_list` (`native_capability.rs:258`). -/
def entryAllowedByExplicitCanaryAllowList (entry : CapabilityEntry) (allowList : Option Text) : Bool :=
  if entry.status ≠ .canaryOnly then false
  else if entry.decision.reason.isNone then false
  else match allowList with
    | none => false
    | some allowList =>
      let tokens := canaryAllowTokens entry
      ((allowList.splitOnP fun ch => ch = ',' || ch = ';' || isAsciiWhitespace ch).map normalizeCanaryAllowToken).any
        fun token => !token.isEmpty && tokens.contains token

/-! ## The matrix -/

/-- `route_outbound_label` (`native_capability.rs:1361`). -/
def routeOutboundLabel : CapabilityDirection → Text
  | .inbound => "per_inbound_routes"
  | .outbound => "outbound"

section

variable (protocol : NativeProtocol) (direction : CapabilityDirection) (transport : CapabilityTransport)
  (security : CapabilitySecurity) (udpMode : UdpMode)

/-- `entry_with_flow` (`native_capability.rs:1312`). -/
def entryWithFlow (flow userModel : String) (status : CapabilityStatus) (decision : RenderDecision)
    (baselineSource : BaselineSource) (evidenceLevel : EvidenceLevel) (reason : String) : CapabilityEntry where
  key := { protocol, direction, transport, security, udpMode, flow, userModel
           routeOutbound := routeOutboundLabel direction }
  status := status
  decision := decision
  baselineSource := baselineSource
  evidenceLevel := evidenceLevel
  reason := reason

/-- `entry` (`native_capability.rs:1273`). -/
def entry (userModel : String) (status : CapabilityStatus) (decision : RenderDecision)
    (baselineSource : BaselineSource) (evidenceLevel : EvidenceLevel) (reason : String) : CapabilityEntry :=
  entryWithFlow protocol direction transport security udpMode "none" userModel status decision baselineSource
    evidenceLevel reason

end

/-- `native_capability_matrix` (`native_capability.rs:332`). -/
def nativeCapabilityMatrix : List CapabilityEntry :=
  [ entry .socks .inbound .tcp .none .udpAssociate "password"
      .usableNeedsSoak .renderNativeWithWarning .goLegacyBaseline .thirdPartyClientInterop
      "SOCKS TCP renders native and passed short sing-box interop but still needs soak",
    entry .http .inbound .tcp .none .none "password"
      .usableNeedsSoak .renderNativeWithWarning .goLegacyBaseline .thirdPartyClientInterop
      "HTTP proxy renders native and passed short sing-box interop but still needs soak",
    entry .shadowsocks .inbound .tcp .none .nativeUdp "password"
      .usableNeedsSoak .renderNativeWithWarning .goLegacyBaseline .thirdPartyClientInterop
      "AEAD TCP/UDP is native-rendered and passed short sing-box interop",
    entry .vless .inbound .tcp .tls .udpOverStream "uuid"
      .usableNeedsSoak .renderNativeWithWarning .goLegacyBaseline .thirdPartyClientInterop
      "VLESS TCP TLS passed short sing-box interop but still needs soak",
    entry .vless .inbound .tcp .none .udpOverStream "uuid"
      .usableNeedsSoak .renderNativeWithWarning .goLegacyBaseline .thirdPartyClientInterop
      "VLESS TCP native path passed short sing-box interop",
    entryWithFlow .vless .inbound .tcp .tls .udpOverStream "xtls-rprx-vision" "uuid"
      .canaryOnly .renderNativeWithWarning .goLegacyBaseline .thirdPartyClientInterop
      "VLESS TLS Vision passed short sing-box interop but remains canary-gated",
    entryWithFlow .vless .inbound .tcp .reality .udpOverStream "xtls-rprx-vision" "uuid"
      .canaryOnly .renderNativeWithWarning .mixed .thirdPartyClientInterop
      "REALITY Vision passed short sing-box interop but remains canary-gated",
    entry .vless .inbound .ws .none .udpOverStream "uuid"
      .canaryOnly .renderNativeWithWarning .goLegacyBaseline .thirdPartyClientInterop
      "VLESS WS passed short sing-box interop but needs soak",
    entry .vless .inbound .ws .tls .udpOverStream "uuid"
      .canaryOnly .renderNativeWithWarning .goLegacyBaseline .thirdPartyClientInterop
      "VLESS WS/TLS passed short sing-box interop but needs soak",
    entry .vless .inbound .httpUpgrade .none .udpOverStream "uuid"
      .canaryOnly .renderNativeWithWarning .goLegacyBaseline .thirdPartyClientInterop
      "VLESS HTTPUpgrade passed short sing-box interop but needs soak",
    entry .vless .inbound .httpUpgrade .tls .udpOverStream "uuid"
      .canaryOnly .renderNativeWithWarning .goLegacyBaseline .thirdPartyClientInterop
      "VLESS HTTPUpgrade TLS passed short sing-box interop but needs soak",
    entry .vless .inbound .grpc .none .udpOverStream "uuid"
      .canaryOnly .renderNativeWithWarning .goLegacyBaseline .thirdPartyClientInterop
      "VLESS gRPC passed short sing-box interop but needs soak",
    entry .vless .inbound .grpc .tls .udpOverStream "uuid"
      .canaryOnly .renderNativeWithWarning .goLegacyBaseline .thirdPartyClientInterop
      "VLESS gRPC TLS passed short sing-box interop but needs soak",
    entry .vmess .inbound .tcp .tls .udpOverStream "uuid"
      .canaryOnly .renderNativeWithWarning .goLegacyBaseline .thirdPartyClientInterop
      "VMess TLS passed short sing-box interop but remains canary-gated",
    entry .vmess .inbound .tcp .none .udpOverStream "uuid"
      .usableNeedsSoak .renderNativeWithWarning .goLegacyBaseline .thirdPartyClientInterop
      "VMess TCP native path passed short sing-box interop",
    entry .vmess .inbound .ws .none .udpOverStream "uuid"
      .canaryOnly .renderNativeWithWarning .goLegacyBaseline .thirdPartyClientInterop
      "VMess WS passed short sing-box interop but still needs soak",
    entry .vmess .inbound .ws .tls .udpOverStream "uuid"
      .canaryOnly .renderNativeWithWarning .goLegacyBaseline .thirdPartyClientInterop
      "VMess WS/TLS passed short sing-box interop but still needs soak",
    entry .vmess .inbound .httpUpgrade .none .udpOverStream "uuid"
      .canaryOnly .renderNativeWithWarning .goLegacyBaseline .thirdPartyClientInterop
      "VMess HTTPUpgrade passed short sing-box interop but still needs soak",
    entry .vmess .inbound .httpUpgrade .tls .udpOverStream "uuid"
      .canaryOnly .renderNativeWithWarning .goLegacyBaseline .thirdPartyClientInterop
      "VMess HTTPUpgrade TLS passed short sing-box interop but still needs soak",
    entry .vmess .inbound .grpc .none .udpOverStream "uuid"
      .canaryOnly .renderNativeWithWarning .goLegacyBaseline .thirdPartyClientInterop
      "VMess gRPC passed short sing-box interop but still needs soak",
    entry .vmess .inbound .grpc .tls .udpOverStream "uuid"
      .canaryOnly .renderNativeWithWarning .goLegacyBaseline .thirdPartyClientInterop
      "VMess gRPC TLS passed short sing-box interop but still needs soak",
    entry .trojan .inbound .tcp .none .udpOverStream "password"
      .usableNeedsSoak .renderNativeWithWarning .goLegacyBaseline .thirdPartyClientInterop
      "Trojan TCP passed short sing-box interop but is not yet stable",
    entry .trojan .inbound .tcp .tls .udpOverStream "password"
      .canaryOnly .renderNativeWithWarning .goLegacyBaseline .thirdPartyClientInterop
      "Trojan TLS passed short sing-box interop but remains canary-only",
    entry .trojan .inbound .ws .none .udpOverStream "password"
      .usableNeedsSoak .renderNativeWithWarning .goLegacyBaseline .productionObserved
      "Trojan WS passed sing-box interop and real Cloudflare/Sparkle playback on problem-node, but still needs soak",
    entry .trojan .inbound .ws .tls .udpOverStream "password"
      .usableNeedsSoak .renderNativeWithWarning .goLegacyBaseline .productionObserved
      "Trojan TLS WS passed sing-box interop and real Cloudflare/Sparkle playback on problem-node, but still needs soak",
    entry .trojan .inbound .grpc .none .udpOverStream "password"
      .canaryOnly (.reject "trojan grpc native inbound requires explicit canary gate and soak")
      .goLegacyBaseline .thirdPartyClientInterop
      "Trojan plain gRPC passed short sing-box interop but is not production-gated native yet",
    entry .trojan .inbound .grpc .tls .udpOverStream "password"
      .canaryOnly (.reject "trojan grpc native inbound requires explicit canary gate and soak")
      .goLegacyBaseline .thirdPartyClientInterop
      "Trojan gRPC passed short sing-box interop but is not production-gated native yet",
    entry .trojan .inbound .httpUpgrade .none .udpOverStream "password"
      .canaryOnly (.reject "trojan httpupgrade native inbound requires explicit canary gate and soak")
      .goLegacyBaseline .thirdPartyClientInterop
      "Trojan plain HTTPUpgrade passed short sing-box interop but is not production-gated native yet",
    entry .trojan .inbound .httpUpgrade .tls .udpOverStream "password"
      .canaryOnly (.reject "trojan httpupgrade native inbound requires explicit canary gate and soak")
      .goLegacyBaseline .thirdPartyClientInterop
      "Trojan HTTPUpgrade passed short sing-box interop but is not production-gated native yet",
    entry .anyTls .inbound .tcp .none .udpOverStream "password"
      .canaryOnly .renderNativeWithWarning .ecosystemInteropBaseline .thirdPartyClientInterop
      "AnyTLS plain listener is accepted for panel compatibility but canary-only",
    entry .anyTls .inbound .tcp .tls .udpOverStream "password"
      .canaryOnly .renderNativeWithWarning .ecosystemInteropBaseline .localLoopback
      "AnyTLS TLS passed short sing-box interop but remains canary-only",
    entry .hysteria2 .inbound .quic .tls .nativeUdp "password"
      .usableNeedsSoak .renderNativeWithWarning .mixed .thirdPartyClientInterop
      "HY2 TCP/UDP native path passed short sing-box QUIC interop",
    entry .tuic .inbound .quic .tls .nativeUdp "uuid_password"
      .usableNeedsSoak .renderNativeWithWarning .mixed .thirdPartyClientInterop
      "TUIC TCP/UDP native path passed short sing-box QUIC interop",
    entry .naive .inbound .h2 .tls .none "basic_auth"
      .canaryOnly .renderNativeWithWarning .officialUpstreamBaseline .officialClientInterop
      "Naive H2/TLS passed short official-client interop but cannot be Stable without soak",
    entry .naive .inbound .quic .tls .none "basic_auth"
      .canaryOnly .renderNativeWithWarning .officialUpstreamBaseline .localLoopback
      "Naive H3/QUIC remains canary until official-client certificate validation and soak pass",
    entry .mieru .inbound .tcp .none .udpOverStream "username_password"
      .canaryOnly .renderNativeWithWarning .officialUpstreamBaseline .officialClientInterop
      "Mieru TCP underlay passed short official-client interop but cannot be Stable without soak",
    entry .mieru .inbound .udp .none .nativeUdp "username_password"
      .unsupported (.reject "mieru udp underlay is not implemented in native core") .officialUpstreamBaseline .unitOnly
      "Mieru UDP underlay is explicitly unsupported",
    entry .direct .outbound .direct .none .nativeUdp "none"
      .usableNeedsSoak .renderNative .goLegacyBaseline .localLoopback
      "Direct outbound is the native default outbound",
    entry .dns .outbound .udp .none .nativeUdp "none"
      .usableNeedsSoak .renderNativeWithWarning .goLegacyBaseline .localLoopback
      "DNS UDP/tcp route rendering is partial but explicit",
    entry .route .inbound .direct .none .nativeUdp "none"
      .usableNeedsSoak .renderNativeWithWarning .goLegacyBaseline .localLoopback
      "Route/block/custom outbound rendering rejects unsupported options loudly" ]

/-- `capability_key_matches` (`native_capability.rs:1264`): the user model and the route label do not count. -/
def capabilityKeyMatches (matrixKey requested : CapabilityKey) : Bool :=
  matrixKey.protocol = requested.protocol && matrixKey.direction = requested.direction &&
    matrixKey.transport = requested.transport && matrixKey.security = requested.security &&
    matrixKey.udpMode = requested.udpMode && matrixKey.flow = requested.flow

/-- `lookup_capability_entry` (`native_capability.rs:1236`). -/
def lookupCapabilityEntry (key : CapabilityKey) : Option CapabilityEntry :=
  nativeCapabilityMatrix.find? fun entry => capabilityKeyMatches entry.key key

/-- `unsupported_capability_entry` (`native_capability.rs:1242`). -/
def unsupportedCapabilityEntry (key : CapabilityKey) (reason : Text) : CapabilityEntry :=
  { key, status := .unsupported, decision := .reject reason, baselineSource := .mixed, evidenceLevel := .unitOnly,
    reason }

end KeliNode
