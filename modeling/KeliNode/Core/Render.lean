import KeliNode.Core.Routes
import KeliNode.Lib.Denotes
import KeliNode.Lib.FileName

/-!
# The two renderers of the core configuration (`core.rs`)

`render_keli_core_rs_config` builds the configuration as a JSON tree, which is sent over the control socket;
`render_keli_core_rs_config_bytes` writes it member by member into the text of the file.

| here | there |
|---|---|
| `renderKeliCoreRsConfig` | `core.rs:462` |
| `renderKeliCoreRsInbound`, `renderKeliCoreRsInbounds` | `core.rs:2523`, `:2558` |
| `renderKeliCoreRsTls`, `renderKeliCoreRsTransport` | `core.rs:2577`, `:2615` |
| `renderKeliCoreRsConfigBytes` | `core.rs:2769` |
| `writeKeliCoreRsInbound`, `writeJsonField` | `core.rs:2820`, `:2898` |

`json!` inserts its members into a map one by one, as `Json.ofFields` does; `serde_json::to_writer` is a parameter
`print`.  Writing into a vector and encoding a value cannot fail.  The text stands for its UTF-8 bytes.
-/

namespace KeliNode

open Lib

/-! ## Parts -/

/-- `keli_core_rs_instance_id` (`core.rs:2513`). -/
def keliCoreRsInstanceId (plan : CorePlan) : Text :=
  ((lastComponent plan.configPath).bind fun (_, name) => trimmedText (fileStem name)).getD "kelinode-rs"

/-- `render_keli_core_rs_policy` (`core.rs:489`). -/
def renderKeliCoreRsPolicy : Value :=
  Json.ofFields [("handshake_secs", .posInt 60), ("connection_idle_secs", .posInt 300),
    ("uplink_only_secs", .posInt 1), ("downlink_only_secs", .posInt 1), ("buffer_size_kib", .posInt 128),
    ("sniffing_cache_millis", .posInt 200), ("connect_timeout_secs", .posInt 15)]

/-- `keli_core_rs_protocol_name` (`core.rs:2569`). -/
def keliCoreRsProtocolName (inbound : InboundPlan) : Text :=
  if inbound.protocol = "hysteria" then "hysteria2" else inbound.protocol

/-- `render_keli_core_rs_tls` (`core.rs:2577`). -/
def renderKeliCoreRsTls (inbound : InboundPlan) : Value :=
  if !oneOf inbound.security ["tls", "reality"] then .null
  else
    let reality := if inbound.security = "reality" then Json.ofFields [
        ("dest", .string inbound.realityDest),
        ("server_port", .null),
        ("private_key", .string inbound.realityPrivateKey),
        ("short_id", .string inbound.realityShortId),
        ("xver", .posInt inbound.realityXver),
        ("mldsa65_seed", if (trim inbound.realityMldsa65Seed).isEmpty then .null
          else .string inbound.realityMldsa65Seed)]
      else .null
    Json.ofFields [
      ("server_name", .string inbound.serverName),
      ("cert_file", if inbound.security = "tls" then .string inbound.certFile else .null),
      ("key_file", if inbound.security = "tls" then .string inbound.keyFile else .null),
      ("alpn", ofTexts inbound.alpn),
      ("reject_unknown_sni", .bool inbound.rejectUnknownSni),
      ("reality", reality)]

/-- `network_setting_string` (`core.rs:2719`): the first key that holds a string decides. -/
def networkSettingString (settings : Value) (keys : List String) : Option Text :=
  (keys.findSome? fun key => (settings.get key).bind Json.asStr).bind trimmedText

/-- `websocket_path_setting` (`core.rs:2703`). -/
def websocketPathSetting (settings : Value) : Option Text := networkSettingString settings ["path"]

/-- `websocket_host_setting` (`core.rs:2707`). -/
def websocketHostSetting (settings : Value) : Option Text :=
  (networkSettingString settings ["Host", "host"]).or
    ((settings.get "headers").bind (networkSettingString · ["Host", "host"]))

/-- `grpc_service_name_setting` (`core.rs:2715`). -/
def grpcServiceNameSetting (settings : Value) : Option Text :=
  networkSettingString settings ["serviceName", "service_name"]

/-- A member that is there only under a condition. -/
def fieldIf (present : Bool) (key : String) (value : Value) : List (Text × Value) :=
  if present then [(key, value)] else []

/-- `render_keli_core_rs_transport` (`core.rs:2615`). -/
def renderKeliCoreRsTransport (inbound : InboundPlan) : Value :=
  let network := keliCoreRsTransportNetwork inbound
  let websocket := oneOf network ["ws", "httpupgrade"]
  let hysteria : Bool := inbound.protocol = "hysteria"
  Json.ofFields ([
    ("network".toList, .string network),
    ("path".toList, if websocket then ofOptionText (websocketPathSetting inbound.networkSettings) else .null),
    ("host".toList, if websocket then ofOptionText (websocketHostSetting inbound.networkSettings) else .null),
    ("service_name".toList, if network = "grpc" then
      .string ((grpcServiceNameSetting inbound.networkSettings).getD "GunService") else .null),
    ("proxy_protocol".toList, .bool false)] ++
    fieldIf (hysteria && inbound.ignoreClientBandwidth) "ignore_client_bandwidth" (.bool true) ++
    fieldIf (hysteria && !inbound.ignoreClientBandwidth && 0 < inbound.upMbps) "up_mbps" (.posInt inbound.upMbps) ++
    fieldIf (hysteria && !inbound.ignoreClientBandwidth && 0 < inbound.downMbps) "down_mbps"
      (.posInt inbound.downMbps) ++
    fieldIf (hysteria && !(trim inbound.obfs).isEmpty) "obfs" (.string (trim inbound.obfs)) ++
    fieldIf (hysteria && !(trim inbound.obfsPassword).isEmpty) "obfs_password" (.string (trim inbound.obfsPassword)) ++
    fieldIf (oneOf inbound.protocol ["tuic", "hysteria"] && !(trim inbound.congestionControl).isEmpty)
      "congestion_control" (.string (trim inbound.congestionControl)))

/-- `render_keli_core_rs_user` (`core.rs:2727`), as JSON. -/
def keliCoreRsUserValue (user : InboundUserPlan) : Value :=
  Json.ofFields [("id", .posInt user.id), ("uuid", .string user.uuid), ("password", .null), ("email", .null),
    ("speed_limit", .posInt user.speedLimit), ("device_limit", .posInt user.deviceLimit)]

/-- The `cipher` of an inbound. -/
def cipherValue (inbound : InboundPlan) : Value :=
  if inbound.protocol = "shadowsocks" then .string inbound.cipher else .null

def sniffingValue : Value :=
  Json.ofFields [("enabled", .bool true), ("dest_override", ofTexts ["http", "tls"])]

def statsValue : Value := Json.ofFields [("enabled", .bool true), ("per_user", .bool true)]

/-- The outbound that is always there. -/
def directOutbound : Value :=
  Json.ofFields [("tag", .string "direct"), ("protocol", .string "freedom"), ("address", .null), ("port", .null)]

section

variable (fromStr : Text → Option Value) (allowList : Option Text)

/-- The first loop of both renderers: check the inbounds and collect their outbounds. -/
def collectOutbounds (plan : CorePlan) : Except Text (List Value) :=
  plan.inbounds.foldlM (fun outbounds inbound => do
    validateKeliCoreRsInbound inbound allowList
    collectKeliCoreRsRouteOutbounds fromStr inbound outbounds) [directOutbound]

/-! ## The tree -/

/-- `render_keli_core_rs_inbound` (`core.rs:2523`). -/
def renderKeliCoreRsInbound (inbound : InboundPlan) (includeUsers : Bool) : Except Text Value := do
  let routes ← renderKeliCoreRsRoutesForInbound fromStr inbound
  .ok (Json.ofFields [
    ("tag", .string inbound.tag),
    ("protocol", .string (keliCoreRsProtocolName inbound)),
    ("listen", .string inbound.listen),
    ("port", .posInt inbound.port),
    ("cipher", cipherValue inbound),
    ("flow", .string inbound.flow),
    ("padding_scheme", ofTexts inbound.paddingScheme),
    ("users", .array (if includeUsers then inbound.users.map keliCoreRsUserValue else [])),
    ("transport", renderKeliCoreRsTransport inbound),
    ("tls", renderKeliCoreRsTls inbound),
    ("sniffing", sniffingValue),
    ("routes", .array routes)])

/-- `render_keli_core_rs_inbounds` (`core.rs:2558`). -/
def renderKeliCoreRsInbounds (inbounds : List InboundPlan) (includeUsers : Bool) : Except Text (List Value) :=
  inbounds.mapM fun inbound => renderKeliCoreRsInbound fromStr inbound includeUsers

/-- `render_keli_core_rs_config` (`core.rs:462`). -/
def renderKeliCoreRsConfig (plan : CorePlan) (includeUsers : Bool) : Except Text Value := do
  let outbounds ← collectOutbounds fromStr allowList plan
  let dns ← renderKeliCoreRsDns plan
  let inbounds ← renderKeliCoreRsInbounds fromStr plan.inbounds includeUsers
  .ok (Json.ofFields [
    ("instance_id", .string (keliCoreRsInstanceId plan)),
    ("log_level", .string "info"),
    ("policy", renderKeliCoreRsPolicy),
    ("dns", dns),
    ("inbounds", .array inbounds),
    ("outbounds", .array outbounds),
    ("routes", .array []),
    ("stats", statsValue)])

/-! ## The bytes -/

variable (print : Value → Text)

/-- `write_json_field` (`core.rs:2898`): what it appends. -/
def writeJsonField (name : String) (value : Value) (first : Bool) : Text :=
  (if first then [] else [',']) ++ Json.printField name (print value)

/-- A `KeliCoreRsUserRef` (`core.rs:2760`), printed with its fields in the order of the struct. -/
def printUserRef (user : InboundUserPlan) : Text :=
  '{' :: join [','] (Json.printMembers [("id", print (.posInt user.id)), ("uuid", print (.string user.uuid)),
    ("password", print .null), ("email", print .null), ("speed_limit", print (.posInt user.speedLimit)),
    ("device_limit", print (.posInt user.deviceLimit))]) ++ ['}']

/-- The user loop of `write_keli_core_rs_inbound`, from the user at `index` on. -/
def writeUsers : Nat → List InboundUserPlan → Text
  | _, [] => []
  | index, user :: users => (if 0 < index then [','] else []) ++ printUserRef print user ++ writeUsers (index + 1) users

/-- `write_keli_core_rs_inbound` (`core.rs:2820`). -/
def writeKeliCoreRsInbound (inbound : InboundPlan) (includeUsers : Bool) : Except Text Text := do
  let content : Text := ['{'] ++ writeJsonField print "tag" (.string inbound.tag) true ++
    writeJsonField print "protocol" (.string (keliCoreRsProtocolName inbound)) false ++
    writeJsonField print "listen" (.string inbound.listen) false ++
    writeJsonField print "port" (.posInt inbound.port) false ++
    writeJsonField print "cipher" (cipherValue inbound) false ++
    writeJsonField print "flow" (.string inbound.flow) false ++
    writeJsonField print "padding_scheme" (ofTexts inbound.paddingScheme) false ++
    ",\"users\":[" ++ (if includeUsers then writeUsers print 0 inbound.users else []) ++ "]" ++
    writeJsonField print "transport" (renderKeliCoreRsTransport inbound) false ++
    writeJsonField print "tls" (renderKeliCoreRsTls inbound) false ++
    writeJsonField print "sniffing" sniffingValue false
  let routes ← renderKeliCoreRsRoutesForInbound fromStr inbound
  .ok (content ++ writeJsonField print "routes" (.array routes) false ++ ['}'])

/-- The inbound loop of `render_keli_core_rs_config_bytes`. -/
def writeInbounds (includeUsers : Bool) : Bool → List InboundPlan → Except Text Text
  | _, [] => .ok []
  | firstInbound, inbound :: inbounds => do
    let content ← writeKeliCoreRsInbound fromStr print inbound includeUsers
    let rest ← writeInbounds includeUsers false inbounds
    .ok ((if firstInbound then [] else [',']) ++ content ++ rest)

/-- `render_keli_core_rs_config_bytes` (`core.rs:2769`). -/
def renderKeliCoreRsConfigBytes (plan : CorePlan) (includeUsers : Bool) : Except Text Text := do
  let outbounds ← collectOutbounds fromStr allowList plan
  let content : Text := ['{'] ++ writeJsonField print "instance_id" (.string (keliCoreRsInstanceId plan)) true ++
    writeJsonField print "log_level" (.string "info") false ++
    writeJsonField print "policy" renderKeliCoreRsPolicy false
  let dns ← renderKeliCoreRsDns plan
  let content := content ++ writeJsonField print "dns" dns false ++ ",\"inbounds\":["
  let inbounds ← writeInbounds fromStr print includeUsers true plan.inbounds
  .ok (content ++ inbounds ++ "]" ++ writeJsonField print "outbounds" (.array outbounds) false ++
    writeJsonField print "routes" (.array []) false ++ writeJsonField print "stats" statsValue false ++ ['}', '\n'])

end

end KeliNode
