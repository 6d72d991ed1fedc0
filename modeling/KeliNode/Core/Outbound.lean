import KeliNode.Core.Validate

/-!
# The outbound of a route (`core.rs`)

A `route`, `route_ip` or `default_out` carries its outbound as JSON text in `action_value`.  The text is parsed,
checked and turned into the outbound object the native core reads.

| here | there |
|---|---|
| `parseRouteOutbound` | `core.rs:683` |
| `keliCoreRsRouteOutbound` | `core.rs:707` |
| `keliCoreRsRouteOutboundStream` | `core.rs:824` |
| `keliCoreRsRouteOutboundEndpoint` | `core.rs:1070` |
| `validateXhttpStreamOneSettings`, `validateQuicSettings` | `core.rs:1209`, `:1282` |

`serde_json::from_str` is the parameter `fromStr`: the JSON value of a text, if it is one.
-/

namespace KeliNode

open Lib

/-! ## Reading JSON -/

/-- `is_empty_json` (`core.rs:1042`). -/
def isEmptyJson : Value → Bool
  | .null => true
  | .string value => (trim value).isEmpty
  | .array items => items.isEmpty
  | .object fields => fields.isEmpty
  | _ => false

/-- `.map(str::trim).filter(|value| !value.is_empty())`. -/
def trimmedText (value : Text) : Option Text := if (trim value).isEmpty then none else some (trim value)

/-- `outbound_string` (`core.rs:1160`). -/
def outboundString (value : Value) (key : String) : Option Text :=
  ((value.get key).bind Json.asStr).bind trimmedText

/-- `outbound_string_or_first_array` (`core.rs:1169`). -/
def outboundStringOrFirstArray (value : Value) (key : String) : Option Text :=
  (outboundString value key).or
    (((value.get key).bind Json.asArray).bind fun values => (values.head?.bind Json.asStr).bind trimmedText)

/-- `u16::try_from(..).ok()`. -/
def toU16 (n : Nat) : Option Nat := if n < 2 ^ 16 then some n else none

/-- `outbound_u16` (`core.rs:1182`). -/
def outboundU16 (value : Value) (key : String) : Option Nat :=
  ((value.get key).bind fun value =>
    value.asU64.or (value.asStr.bind fun text => parseUnsigned (2 ^ 64) (trim text))).bind toU16

/-- `outbound_string_array` (`core.rs:1193`). -/
def outboundStringArray (value : Value) (key : String) : List Text :=
  (((value.get key).bind Json.asArray).getD []).filterMap fun value => value.asStr.bind trimmedText

def ofOptionText : Option Text → Value
  | some text => .string text
  | none => .null

def ofOptionNat : Option Nat → Value
  | some n => .posInt n
  | none => .null

def ofTexts (texts : List Text) : Value := .array (texts.map .string)

/-! ## Stream settings -/

section

variable (inbound : InboundPlan) (tag : Text)

def outboundError (rest : Text) : Text :=
  "keli-core-rs route outbound " ++ tag ++ " on inbound " ++ inbound.tag ++ rest

/-- `validate_ignored_object_if_present` (`core.rs:1052`). -/
def validateIgnoredObjectIfPresent (key : Text) (value : Option Value) : Except Text Unit :=
  match value.filter (!isEmptyJson ·) with
  | none => .ok ()
  | some value => reject value.asObject.isNone (outboundError inbound tag (" " ++ key ++ " must be an object"))

/-- The `headers` of an `xhttp` transport. -/
def validateXhttpHeaders (network : Text) (settings : Value) : Except Text Unit :=
  match (settings.get "headers").filter (!isEmptyJson ·) with
  | none => .ok ()
  | some value => match value.asObject with
    | none => .error (outboundError inbound tag (" " ++ network ++ "Settings.headers must be an object"))
    | some headers => headers.forM fun (name, value) => do
      reject (trim name).isEmpty
        (outboundError inbound tag (" " ++ network ++ "Settings.headers contains an empty header name"))
      reject (!isString value && !isEmptyJson value)
        (outboundError inbound tag (" " ++ network ++ "Settings.headers." ++ name ++ " must be a string"))

/-- `validate_xhttp_stream_one_settings` (`core.rs:1209`). -/
def validateXhttpStreamOneSettings (network : Text) (settings : Value) : Except Text Unit :=
  match settings.asObject with
  | none => reject (!settings.isNull) (outboundError inbound tag (" " ++ network ++ " settings must be an object"))
  | some object => do
    object.forM fun (key, value) =>
      reject (!(oneOf key ["path", "host", "mode", "headers", "noGRPCHeader", "noGrpcHeader", "method",
          "uplinkHTTPMethod"] || isEmptyJson value))
        (outboundError inbound tag (" does not support " ++ network ++ "Settings." ++ key ++ " yet"))
    validateXhttpHeaders inbound tag network settings
    ["noGRPCHeader", "noGrpcHeader"].forM fun key =>
      match (settings.get key).filter (!isEmptyJson ·) with
      | none => .ok ()
      | some value => reject value.asBool.isNone
          (outboundError inbound tag (" " ++ network ++ "Settings." ++ key ++ " must be a boolean"))

/-- `validate_quic_settings` (`core.rs:1282`). -/
def validateQuicSettings (settings : Value) : Except Text Unit :=
  match settings.asObject with
  | none => reject (!settings.isNull) (outboundError inbound tag " quicSettings must be an object")
  | some object => do
    object.forM fun (key, value) =>
      reject (!(oneOf key ["security", "key", "header"] || isEmptyJson value))
        (outboundError inbound tag (" does not support quicSettings." ++ key ++ " yet"))
    let security := asciiLower ((outboundString settings "security").getD "none")
    reject (!oneOf security ["none", "aes-128-gcm", "aes128-gcm", "chacha20-poly1305", "chacha20-ietf-poly1305"])
      (outboundError inbound tag
        " supports only quicSettings.security none/aes-128-gcm/chacha20-poly1305 today")
    reject (security = "none" && ((outboundString settings "key").map fun value => !(trim value).isEmpty).getD false)
      (outboundError inbound tag " supports quicSettings.key only with encrypted quic security")
    match (settings.get "header").filter (!isEmptyJson ·) with
    | none => .ok ()
    | some header => match header.asObject with
      | none => .error (outboundError inbound tag " quicSettings.header must be an object")
      | some fields => do
        fields.forM fun (key, value) =>
          reject (!(key = "type" || isEmptyJson value))
            (outboundError inbound tag (" does not support quicSettings.header." ++ key ++ " yet"))
        reject (!eqIgnoreCase ((outboundString header "type").getD "none") "none")
          (outboundError inbound tag " supports quicSettings.header.type none only today")

/-- `normalize_xhttp_stream_one_path` (`core.rs:1358`). -/
def normalizeXhttpStreamOnePath (value : Text) : Text :=
  let value := trim value
  let query := (value.dropWhile (· ≠ '?')).drop 1
  let path := trim (value.takeWhile (· ≠ '?'))
  let path := if path.head? = some '/' then path else '/' :: path
  let path := if path.getLast? = some '/' then path else path ++ ['/']
  if query.isEmpty then path else path ++ '?' :: query

/-- `xhttp_stream_one_headers` (`core.rs:1377`), as an object. -/
def xhttpStreamOneHeaders (settings : Value) (path : Option Text) : Value :=
  let given := ((((settings.get "headers").filter (!isEmptyJson ·)).bind Json.asObject).getD []).filterMap
    fun (name, value) =>
      if eqIgnoreCase name "host" || isEmptyJson value then none
      else value.asStr.map fun value => (asciiLower (trim name), Json.string (trim value))
  let path := path.getD "/"
  let separator := if path.contains '?' then '&' else '?'
  let referer := ("https://keli.local" : Text) ++ path ++ separator :: "x_padding=" ++ List.replicate 128 'X'
  let noGrpcHeader := (((settings.get "noGRPCHeader").or (settings.get "noGrpcHeader")).bind Json.asBool).getD false
  let grpc : List (Text × Value) := if noGrpcHeader then [] else [("content-type", .string "application/grpc")]
  Json.ofFields (given ++ ("referer".toList, .string referer) :: grpc)

/-- The settings a network reads. -/
def transportSettingsKey (network : Text) : Option String :=
  if network = "ws" then some "wsSettings"
  else if network = "httpupgrade" then some "httpupgradeSettings"
  else if network = "grpc" then some "grpcSettings"
  else if oneOf network ["h2", "http"] then some "httpSettings"
  else if network = "xhttp" then some "xhttpSettings"
  else if network = "splithttp" then some "splithttpSettings"
  else if network = "quic" then some "quicSettings"
  else none

/-- The checks of `keli_core_rs_route_outbound_stream`, before anything is rendered. -/
def validateStreamSettings (outbound streamSettings : Value) (network security : Text) : Except Text Unit := do
  reject (!oneOf network ["tcp", "ws", "httpupgrade", "grpc", "h2", "http", "xhttp", "splithttp", "quic"])
    (outboundError inbound tag (" supports only tcp/ws/httpupgrade/grpc/h2/xhttp stream-one/quic today; network " ++
      network ++ " is not supported yet"))
  reject (!oneOf security ["none", "tls"])
    (outboundError inbound tag (" supports only security none/tls today; security " ++ security ++
      " is not supported yet"))
  (streamSettings.asObject.getD []).forM fun (key, value) =>
    reject (!(oneOf key ["network", "security", "sockopt", "mux"] || (security = "tls" && key = "tlsSettings") ||
        (transportSettingsKey network).any (key = ·.toList) || isEmptyJson value))
      (outboundError inbound tag (" does not support streamSettings." ++ key ++ " yet"))
  validateIgnoredObjectIfPresent inbound tag "sockopt" (streamSettings.get "sockopt")
  validateIgnoredObjectIfPresent inbound tag "mux" (streamSettings.get "mux")
  validateIgnoredObjectIfPresent inbound tag "mux" (outbound.get "mux")

/-- The checks of an `xhttp` or `quic` transport. -/
def validateTransportSettings (network security : Text) (settings : Value) : Except Text Unit := do
  checkIf (oneOf network ["xhttp", "splithttp"]) do
    validateXhttpStreamOneSettings inbound tag network settings
    reject (!eqIgnoreCase ((outboundString settings "mode").getD []) "stream-one")
      (outboundError inbound tag " supports xhttp only in stream-one mode today")
    reject (security ≠ "tls")
      (outboundError inbound tag " supports xhttp stream-one only with tls/h2 today")
  checkIf (network = "quic") (validateQuicSettings inbound tag settings)

/-- The transport object of a checked stream; none for plain tcp. -/
def renderOutboundTransport (network : Text) (settings : Value) : Option Value :=
  let xhttpStreamOne := oneOf network ["xhttp", "splithttp"]
  let hasPath := oneOf network ["ws", "httpupgrade", "h2", "http", "xhttp", "splithttp"]
  let host := (outboundStringOrFirstArray settings "host").or
    (((settings.get "headers").bind (outboundString · "Host")).or
      ((settings.get "headers").bind (outboundString · "host")))
  let serviceName := (outboundString settings "serviceName").or (outboundString settings "service_name")
  let method := (outboundString settings "method").or (outboundString settings "uplinkHTTPMethod")
  let path := if hasPath then (outboundString settings "path").map fun path =>
    if xhttpStreamOne then normalizeXhttpStreamOnePath path else path else none
  if network = "tcp" then none
  else some (Json.ofFields [
    ("network", .string (if xhttpStreamOne then "h2" else network)),
    ("path", ofOptionText path),
    ("host", ofOptionText (if hasPath then host else none)),
    ("service_name", ofOptionText (if network = "grpc" then serviceName else none)),
    ("method", ofOptionText (if xhttpStreamOne then some (method.getD "POST")
      else if oneOf network ["h2", "http"] then method else none)),
    ("headers", if xhttpStreamOne then xhttpStreamOneHeaders settings path else Json.ofFields []),
    ("quic_security", ofOptionText (if network = "quic" then some ((outboundString settings "security").getD "none")
      else none)),
    ("quic_key", ofOptionText (if network = "quic" then outboundString settings "key" else none)),
    ("quic_header_type", ofOptionText (if network = "quic" then
      some (((settings.get "header").bind (outboundString · "type")).getD "none") else none))])

/-- `keli_core_rs_route_outbound_stream` (`core.rs:824`): the `tls` and the `transport` of the outbound. -/
def keliCoreRsRouteOutboundStream (outbound : Value) : Except Text (Option Value × Option Value) :=
  match (outbound.get "streamSettings").filter (!·.isNull) with
  | none => .ok (none, none)
  | some streamSettings => do
    let network := (outboundString streamSettings "network").getD "tcp"
    let security := (outboundString streamSettings "security").getD "none"
    validateStreamSettings inbound tag outbound streamSettings network security
    let tlsSettings := (streamSettings.get "tlsSettings").getD .null
    let tls := if security = "tls" then some (Json.ofFields [
        ("server_name", ofOptionText (outboundString tlsSettings "serverName")),
        ("allow_insecure", .bool (((tlsSettings.get "allowInsecure").bind Json.asBool).getD false)),
        ("alpn", ofTexts (outboundStringArray tlsSettings "alpn"))])
      else none
    let settings := ((transportSettingsKey network).bind fun key => streamSettings.get key).getD .null
    validateTransportSettings inbound tag network security settings
    .ok (tls, renderOutboundTransport network settings)

/-! ## Endpoints -/

/-- The address, port, credentials, method and alter id of an outbound. -/
structure OutboundEndpoint where
  address : Option Text := none
  port : Option Nat := none
  username : Option Text := none
  password : Option Text := none
  method : Option Text := none
  alterId : Option Nat := none
  deriving DecidableEq

/-- `keli_core_rs_route_outbound_server_endpoint` (`core.rs:1419`). -/
def keliCoreRsRouteOutboundServerEndpoint (server : Value) : OutboundEndpoint :=
  let user := ((server.get "users").bind Json.asArray).bind List.head?
  let ofServer (keys : List String) : Option Text := keys.findSome? (outboundString server)
  let ofUser (keys : List String) : Option Text := keys.findSome? fun key => user.bind (outboundString · key)
  { address := outboundString server "address"
    port := ((server.get "port").bind Json.asU64).bind toU16
    username := (ofServer ["username", "user"]).or (ofUser ["user", "username", "id"])
    password := (ofServer ["password", "pass"]).or (ofUser ["pass", "password"])
    method := (ofServer ["method", "cipher", "security"]).or (ofUser ["method", "cipher", "security", "flow"])
    alterId := (["alter_id", "alterId"].findSome? (outboundU16 server)).or
      (["alter_id", "alterId"].findSome? fun key => user.bind (outboundU16 · key)) }

/-- `str::trim_matches(['[', ']'])`. -/
def trimBrackets (s : Text) : Text :=
  let bracket (ch : Char) : Bool := ch = '[' || ch = ']'
  trimEndMatches bracket (trimStartMatches bracket s)

def nonEmpty (s : Text) : Option Text := if s.isEmpty then none else some s

/-- `str::rsplit_once(':')`. -/
def rsplitColon (value : Text) : Option (Text × Text) :=
  let back := value.reverse
  if value.contains ':' then some (((back.dropWhile (· ≠ ':')).drop 1).reverse, (back.takeWhile (· ≠ ':')).reverse)
  else none

/-- The end of `parse_route_redirect_endpoint`: an address without brackets around it. -/
def parseRedirectPlain (value : Text) : Option Text × Option Nat :=
  match (rsplitColon value).bind fun (host, port) => (parseUnsigned (2 ^ 16) port).map fun port => (host, port) with
  | some (host, port) => (nonEmpty (trimBrackets (trim host)), some port)
  | none => (some (trimBrackets value), none)

/-- `parse_route_redirect_endpoint` (`core.rs:1461`). -/
def parseRouteRedirectEndpoint (value : Text) : Option Text × Option Nat :=
  match value with
  | '[' :: rest =>
    if rest.contains ']' then
      let port := (rest.dropWhile (· ≠ ']')).drop 1
      (nonEmpty (trim (rest.takeWhile (· ≠ ']'))),
        if port.head? = some ':' then parseUnsigned (2 ^ 16) port.tail else none)
    else parseRedirectPlain value
  | _ => parseRedirectPlain value

/-- `keli_core_rs_route_outbound_endpoint` (`core.rs:1070`). -/
def keliCoreRsRouteOutboundEndpoint (outbound : Value) : OutboundEndpoint :=
  let address := outboundString outbound "address"
  let port := ((outbound.get "port").bind Json.asU64).bind toU16
  if address.isSome || port.isSome then
    { address, port
      username := ["username", "user"].findSome? (outboundString outbound)
      password := ["password", "pass"].findSome? (outboundString outbound)
      method := ["method", "cipher"].findSome? (outboundString outbound)
      alterId := ["alter_id", "alterId"].findSome? (outboundU16 outbound) }
  else
    let settings := outbound.get "settings"
    match settings.bind (outboundString · "redirect") with
    | some redirect =>
      let (address, port) := parseRouteRedirectEndpoint redirect
      { address, port }
    | none =>
      let method := ["method", "cipher"].findSome? fun key => settings.bind (outboundString · key)
      let alterId := ["alter_id", "alterId"].findSome? fun key => settings.bind (outboundU16 · key)
      let firstServer (key : String) : Option Value :=
        ((settings.bind (·.get key)).bind Json.asArray).bind List.head?
      match (firstServer "servers").or (firstServer "vnext") with
      | some server =>
        let endpoint := keliCoreRsRouteOutboundServerEndpoint server
        { endpoint with method := endpoint.method.or method, alterId := endpoint.alterId.or alterId }
      | none => { method, alterId }

/-! ## The outbound -/

/-- `.as_deref().map(str::trim).map(str::is_empty).unwrap_or(true)`. -/
def isBlank (value : Option Text) : Bool := (value.map fun value => (trim value).isEmpty).getD true

/-- What a `vless` or `vmess` outbound must have. -/
def requireEndpoint (protocol : Text) (endpoint : OutboundEndpoint) : Except Text Unit := do
  reject (isBlank endpoint.address || endpoint.port.isNone)
    (outboundError inbound tag (" requires " ++ protocol ++ " address and port"))
  reject (isBlank endpoint.username)
    (outboundError inbound tag (" requires " ++ protocol ++ " users[0].id"))

/-- The flow of a `vless` outbound, which its endpoint has as the method. -/
def validateVlessFlow (method : Option Text) (tls transport : Option Value) : Except Text Unit :=
  if isBlank method then .ok ()
  else do
    let flow := trim (method.getD [])
    reject (flow ≠ "xtls-rprx-vision")
      (outboundError inbound tag (" supports only vless xtls-rprx-vision flow; flow " ++ flow ++
        " is not supported yet"))
    reject (tls.isNone || transport.isSome)
      (outboundError inbound tag " supports vless flow only on tcp tls")

def renderOutbound (protocol : Text) (endpoint : OutboundEndpoint) (tls transport : Option Value) : Value :=
  Json.ofFields [
    ("tag", .string tag),
    ("protocol", .string protocol),
    ("method", ofOptionText endpoint.method),
    ("alter_id", ofOptionNat endpoint.alterId),
    ("address", ofOptionText endpoint.address),
    ("port", ofOptionNat endpoint.port),
    ("username", ofOptionText endpoint.username),
    ("password", ofOptionText endpoint.password),
    ("tls", tls.getD .null),
    ("transport", transport.getD .null)]

/-- The stream of the protocols that have one. -/
def streamOfProtocol (protocol : Text) (outbound : Value) : Except Text (Option Value × Option Value) :=
  if oneOf protocol ["trojan", "vmess", "vless"] then keliCoreRsRouteOutboundStream inbound tag outbound
  else .ok (none, none)

/-- `keli_core_rs_route_outbound` (`core.rs:707`), of a parsed `action_value`. -/
def renderRouteOutbound (outbound : Value) : Except Text Value := do
  let protocol := asciiLower ((((outbound.get "protocol").bind Json.asStr).map trim).getD [])
  reject (!oneOf protocol ["freedom", "socks", "socks5", "http", "shadowsocks", "trojan", "vless", "vmess"])
    ("keli-core-rs route outbound " ++ tag ++ " protocol " ++ protocol ++ " on inbound " ++ inbound.tag ++
      " is not supported yet")
  let (tls, transport) ← streamOfProtocol inbound tag protocol outbound
  let endpoint := keliCoreRsRouteOutboundEndpoint outbound
  checkIf (oneOf protocol ["vless", "vmess"]) (requireEndpoint inbound tag protocol endpoint)
  checkIf (protocol = "vless") (validateVlessFlow inbound tag endpoint.method tls transport)
  .ok (renderOutbound tag protocol endpoint tls transport)

end

section

variable (fromStr : Text → Option Value)

/-- `parse_route_outbound` (`core.rs:683`): the tag, trimmed, and the parsed text. -/
def parseRouteOutbound (route : RoutePlan) : Option (Text × Value) := do
  let raw ← route.actionValue.bind trimmedText
  let outbound ← fromStr raw
  let tag ← outboundString outbound "tag"
  some (tag, outbound)

/-- `keli_core_rs_route_outbound_is_blackhole` (`core.rs:696`). -/
def keliCoreRsRouteOutboundIsBlackhole (route : RoutePlan) : Bool :=
  ((parseRouteOutbound fromStr route).bind fun (_, outbound) =>
    ((outbound.get "protocol").bind Json.asStr).map fun protocol =>
      eqIgnoreCase (trim protocol) "blackhole").getD false

/-- `keli_core_rs_route_outbound` (`core.rs:707`). -/
def keliCoreRsRouteOutbound (inbound : InboundPlan) (route : RoutePlan) : Except Text (Option (Text × Value)) :=
  match parseRouteOutbound fromStr route with
  | none => .ok none
  | some (tag, outbound) => (renderRouteOutbound inbound tag outbound).map fun rendered => some (tag, rendered)

end

end KeliNode
