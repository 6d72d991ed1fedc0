import KeliNode.Lib.Json

/-!
# The panel's data model (`panel/types.rs`)

What the panel hands to the agent: nodes with their protocol settings, and users.  Machine integers are
`Nat` (`Int` for the signed revision); every `u16` and `u32` of a node or a user comes out of serde's
typed deserialisation, so no operation here can overflow.
-/

namespace KeliNode

open Lib

/-- A `BTreeMap`: keys in ascending order, equal when they hold the same entries. -/
abbrev BTreeMap (κ α : Type) [Ord κ] := Std.ExtTreeMap κ α compare

/-- A `serde_json::Value`.  Numbers keep serde's three representations. -/
abbrev Value := Json

/-- `Protocol` (`types.rs:208`). -/
inductive Protocol where
  | vmess | vless | trojan | shadowsocks | hysteria2 | tuic | anytls | socks | http | naive | mieru
  deriving DecidableEq, Repr

/-- `Protocol::as_str` (`types.rs:344`). -/
def Protocol.asStr : Protocol → Text
  | .vmess => "vmess"
  | .vless => "vless"
  | .trojan => "trojan"
  | .shadowsocks => "shadowsocks"
  | .hysteria2 => "hysteria2"
  | .tuic => "tuic"
  | .anytls => "anytls"
  | .socks => "socks"
  | .http => "http"
  | .naive => "naive"
  | .mieru => "mieru"

/-- `Security` (`types.rs:223`). -/
inductive Security where
  | none
  | tls
  | reality
  | other (value : Nat)
  deriving DecidableEq, Repr

structure Route where
  id : Nat := 0
  matchRules : List Text := []
  action : Text := []
  actionValue : Option Text := none
  deriving DecidableEq

/-- The fields of `BaseConfig` the runtime plan reads. -/
structure BaseConfig where
  deviceLimitFallback : Nat := 0
  nodeReportMinTraffic : Nat := 0
  deriving DecidableEq

structure TlsSettings where
  serverName : Text := []
  alpn : List Text := []
  dest : Text := []
  serverPort : Text := []
  shortId : Text := []
  privateKey : Text := []
  mldsa65Seed : Text := []
  xver : Value := .null
  certMode : Text := []

/-- The fields of `CertInfo` the core plan reads. -/
structure CertInfo where
  certMode : Text := []
  certFile : Text := []
  keyFile : Text := []
  certDomain : Text := []
  rejectUnknownSni : Bool := false
  deriving DecidableEq

structure EncSettings where
  mode : Text := []
  ticket : Text := []
  serverPadding : Text := []
  privateKey : Text := []
  deriving DecidableEq

/-- `CommonNode` (`types.rs:23`).  A `PortValue` is the text it wraps. -/
structure CommonNode where
  listenIp : Text := []
  serverPort : Nat := 0
  port : Text := []
  ports : Text := []
  routes : List Route := []
  baseConfig : Option BaseConfig := none
  tls : Nat := 0
  tlsSettings : TlsSettings := {}
  certInfo : Option CertInfo := none
  network : Text := []
  transport : Text := []
  multiplexing : Text := []
  networkSettings : Value := .null
  encryption : Text := []
  encryptionSettings : EncSettings := {}
  serverName : Text := []
  flow : Text := []
  cipher : Text := []
  serverKey : Text := []
  congestionControl : Text := []
  zeroRttHandshake : Bool := false
  paddingScheme : List Text := []
  upMbps : Nat := 0
  downMbps : Nat := 0
  obfs : Text := []
  obfsPassword : Text := []
  ignoreClientBandwidth : Bool := false

/-- `NodeInfo` (`types.rs:11`). -/
structure NodeInfo where
  id : Nat
  protocol : Protocol
  security : Security := .none
  tag : Text
  common : CommonNode := {}

/-- `UserInfo` (`types.rs:231`). -/
structure UserInfo where
  id : Nat
  uuid : Text
  speedLimit : Nat := 0
  deviceLimit : Nat := 0
  deriving DecidableEq, Repr

/-- `UserDeltaBody` (`types.rs:247`): a full list, or the deleted and upserted users since the revision asked for. -/
structure UserDeltaBody where
  full : Bool := false
  revision : Int := 0
  users : List UserInfo := []
  deleted : List UserInfo := []
  upsert : List UserInfo := []
  deriving DecidableEq

/-- `first_non_empty`, the same helper in `types.rs`, `core.rs` and `port_forward.rs`. -/
def firstNonEmpty (value fallback : Text) : Text :=
  if value.isEmpty then fallback else value

/-! ## Strings -/

/-- `str::split_once`. -/
def splitOnce (sep : Char) (s : Text) : Option (Text × Text) :=
  if s.contains sep then some (s.takeWhile (· ≠ sep), (s.dropWhile (· ≠ sep)).drop 1) else none

/-- `str::contains`. -/
def containsText (needle : Text) : Text → Bool
  | [] => needle.isEmpty
  | c :: rest => needle.isPrefixOf (c :: rest) || containsText needle rest

end KeliNode
