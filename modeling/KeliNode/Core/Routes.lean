import KeliNode.Core.Outbound

/-!
# Routes and DNS (`core.rs`)

The panel's routes of an inbound as the entries the native core matches in order, and the `dns` routes as name
servers.

| here | there |
|---|---|
| `renderKeliCoreRsRoute`, `renderKeliCoreRsRoutesForInbound` | `core.rs:522` |
| `renderKeliCoreRsDns` | `core.rs:611` |
| `keliCoreRsRouteTargets`, `keliCoreRsBlockRouteTargets` | `core.rs:1480`, `:1577` |
| `prefixedKeliCoreRs…RouteTargets` | `core.rs:1676`, `:1701`, `:1721` |
| `collectKeliCoreRsRouteOutbounds`, `pushKeliCoreRsOutboundOnce` | `core.rs:501`, `:673` |
| `parseIpAddr` | `IpAddr::from_str` |
-/

namespace KeliNode

open Lib

/-! ## IP addresses -/

inductive IpKind where
  | v4 | v6
  deriving DecidableEq, Repr

/-- `read_number`: at least one and at most `maxDigits` digits; what follows them. -/
def readNumber (digit : Char → Bool) (maxDigits : Nat) (ok : Text → Bool) (s : Text) : Option Text :=
  let digits := s.takeWhile digit
  if digits.isEmpty || maxDigits < digits.length || !ok digits then none else some (s.dropWhile digit)

def readGivenChar (c : Char) (s : Text) : Option Text := if s.head? = some c then some s.tail else none

/-- An octet: no leading zero, below 256. -/
def readOctet (s : Text) : Option Text :=
  readNumber Char.isDigit 3 (fun digits =>
    (digits.length = 1 || digits.head? ≠ some '0') && Nat.ofDigitChars 10 digits 0 < 256) s

/-- `read_ipv4_addr`. -/
def readIpv4Addr (s : Text) : Option Text := do
  let s ← readOctet s
  let s ← readGivenChar '.' s
  let s ← readOctet s
  let s ← readGivenChar '.' s
  let s ← readOctet s
  let s ← readGivenChar '.' s
  readOctet s

/-- `read_groups`, with the groups still wanted: how many there are now, whether the last two are an IPv4 address,
and what follows. -/
def readGroups : Nat → Nat → Text → Nat × Bool × Text
  | 0, count, s => (count, false, s)
  | left + 1, count, s =>
    let afterSeparator := if count = 0 then some s else readGivenChar ':' s
    match (if 0 < left then afterSeparator.bind readIpv4Addr else none) with
    | some rest => (count + 2, true, rest)
    | none =>
      match afterSeparator.bind (readNumber (fun c => (Json.hexDigitValue c).isSome) 4 fun _ => true) with
      | some rest => readGroups left (count + 1) rest
      | none => (count, false, s)

/-- `read_ipv6_addr`. -/
def readIpv6Addr (s : Text) : Option Text :=
  let (head, headIpv4, rest) := readGroups 8 0 s
  if head = 8 then some rest
  else if headIpv4 then none
  else do
    let rest ← readGivenChar ':' rest
    let rest ← readGivenChar ':' rest
    some (readGroups (8 - (head + 1)) 0 rest).2.2

/-- `IpAddr::from_str`. -/
def parseIpAddr (s : Text) : Option IpKind :=
  match readIpv4Addr s with
  | some rest => if rest.isEmpty then some .v4 else none
  | none => match readIpv6Addr s with
    | some rest => if rest.isEmpty then some .v6 else none
    | none => none

/-! ## Rules -/

/-- `is_keli_core_rs_ip_route_rule` (`core.rs:1741`). -/
def isKeliCoreRsIpRouteRule (rule : Text) : Bool :=
  let rule := trimBrackets (trim rule)
  let normalized := asciiLower rule
  if (Json.stripPrefix "ip:" normalized).any (("geoip:" : Text).isPrefixOf ·) || ("geoip:" : Text).isPrefixOf normalized
  then true
  else if (parseIpAddr rule).isSome then true
  else match splitOnce '/' rule with
    | none => false
    | some (ip, bits) =>
      match parseIpAddr (trim ip), parseUnsigned (2 ^ 8) (trim bits) with
      | some .v4, some bits => bits ≤ 32
      | some .v6, some bits => bits ≤ 128
      | _, _ => false

/-- `is_keli_core_rs_source_ip_route_rule` (`core.rs:1769`). -/
def isKeliCoreRsSourceIpRouteRule (rule : Text) : Bool :=
  let rule := trim rule
  if !("source_ip:" : Text).isPrefixOf (asciiLower rule) then false
  else
    let value := trim (rule.drop 10)
    isKeliCoreRsIpRouteRule ((Json.stripPrefix "ip:" value).getD value)

/-- `is_keli_core_rs_port_route_rule` (`core.rs:1779`). -/
def isKeliCoreRsPortRouteRule (rule : Text) : Bool :=
  (splitOn ',' rule).all fun item =>
    let item := trim item
    if item.isEmpty then false
    else match splitOnce '-' item with
      | some (first, last) =>
        match parseUnsigned (2 ^ 16) (trim first), parseUnsigned (2 ^ 16) (trim last) with
        | some first, some last => first ≤ last
        | _, _ => false
      | none => (parseUnsigned (2 ^ 16) item).isSome

/-- The rules with a scheme, and what must hold of the value after it. -/
def ruleSchemes : List (Text × (Text → Bool)) :=
  [("ip:", isKeliCoreRsIpRouteRule), ("port:", isKeliCoreRsPortRouteRule),
    ("network:", fun value => oneOf (trim value) ["tcp", "udp"]),
    ("domain:", fun value => !(trimStartMatches (· = '.') (trim value)).isEmpty),
    ("full:", fun value => !(trimBrackets (trim value)).isEmpty),
    ("keyword:", fun value => !(trim value).isEmpty), ("geoip:", fun value => !(trim value).isEmpty),
    ("geosite:", fun value => !(trim value).isEmpty), ("regexp:", fun value => !(trim value).isEmpty),
    ("protocol:", fun value => !(trim value).isEmpty)]

/-- The value of the first scheme a rule starts with, checked. -/
def schemeOk (normalized : Text) : Option Bool :=
  ruleSchemes.findSome? fun (scheme, ok) => (Json.stripPrefix scheme normalized).map ok

/-- One rule of a `route` or `block` route; `kind` is the word of the error texts, and the two differ in what they
do with a `source_ip:` rule. -/
def keliCoreRsTarget (kind : Text) (sourceIp : Text → Except Text Unit) (inbound : InboundPlan) (rule : Text) :
    Except Text Text := do
  let rule := trim rule
  reject rule.isEmpty ("keli-core-rs empty " ++ kind ++ " rule on inbound " ++ inbound.tag ++ " is not supported")
  reject (schemeOk (asciiLower rule) = some false)
    ("keli-core-rs " ++ kind ++ " rule " ++ rule ++ " on inbound " ++ inbound.tag ++ " is not supported yet")
  checkIf ((schemeOk (asciiLower rule)).isNone && ("source_ip:" : Text).isPrefixOf (asciiLower rule)) (sourceIp rule)
  .ok rule

/-- `keli_core_rs_route_targets` (`core.rs:1480`). -/
def keliCoreRsRouteTargets (inbound : InboundPlan) (route : RoutePlan) : Except Text (List Text) :=
  route.matchRules.mapM (keliCoreRsTarget "route" (fun rule =>
    .error ("keli-core-rs source_ip rule " ++ rule ++ " on inbound " ++ inbound.tag ++
      " is supported only by block action")) inbound)

/-- `keli_core_rs_block_route_targets` (`core.rs:1577`). -/
def keliCoreRsBlockRouteTargets (inbound : InboundPlan) (route : RoutePlan) : Except Text (List Text) :=
  route.matchRules.mapM (keliCoreRsTarget "block" (fun rule => reject (!isKeliCoreRsSourceIpRouteRule rule)
    ("keli-core-rs block rule " ++ rule ++ " on inbound " ++ inbound.tag ++ " is not supported yet")) inbound)

/-- `prefixed_keli_core_rs_ip_route_targets` (`core.rs:1676`). -/
def prefixedKeliCoreRsIpRouteTargets (inbound : InboundPlan) (route : RoutePlan) : Except Text (List Text) :=
  route.matchRules.mapM fun rule => do
    let rule := trim rule
    reject (!isKeliCoreRsIpRouteRule rule)
      ("keli-core-rs block_ip rule " ++ rule ++ " on inbound " ++ inbound.tag ++ " is not supported yet")
    let normalized := asciiLower rule
    .ok (if ("geoip:" : Text).isPrefixOf normalized || ("ip:geoip:" : Text).isPrefixOf normalized then rule
      else "ip:" ++ rule)

/-- `prefixed_keli_core_rs_protocol_route_targets` (`core.rs:1701`). -/
def prefixedKeliCoreRsProtocolRouteTargets (inbound : InboundPlan) (route : RoutePlan) : Except Text (List Text) :=
  route.matchRules.mapM fun rule => do
    let rule := trim rule
    reject rule.isEmpty ("keli-core-rs protocol rule on inbound " ++ inbound.tag ++ " is not supported yet")
    .ok ("protocol:" ++ rule)

/-- `prefixed_keli_core_rs_port_route_targets` (`core.rs:1721`). -/
def prefixedKeliCoreRsPortRouteTargets (inbound : InboundPlan) (route : RoutePlan) : Except Text (List Text) :=
  route.matchRules.mapM fun rule => do
    let rule := trim rule
    reject (!isKeliCoreRsPortRouteRule rule)
      ("keli-core-rs block_port rule " ++ rule ++ " on inbound " ++ inbound.tag ++ " is not supported yet")
    .ok ("port:" ++ rule)

/-! ## Routes -/

/-- The actions of the panel. -/
inductive RouteAction where
  | block | blockIp | blockPort | route | routeIp | defaultOut | protocol | dns | other
  deriving DecidableEq, Repr

/-- The action of a route, as the renderer matches it. -/
def routeAction (route : RoutePlan) : RouteAction :=
  if route.action = "block" then .block
  else if route.action = "block_ip" then .blockIp
  else if route.action = "block_port" then .blockPort
  else if route.action = "route" then .route
  else if route.action = "route_ip" then .routeIp
  else if route.action = "default_out" then .defaultOut
  else if route.action = "protocol" then .protocol
  else if route.action = "dns" then .dns
  else .other

def blockEntry (targets : List Text) : Value :=
  Json.ofFields [("targets", ofTexts targets), ("action", .string "block")]

def outboundEntry (targets : List Text) (tag : Text) (outbound : Value) : Value :=
  Json.ofFields [("targets", ofTexts targets), ("action", Json.ofFields [("outbound", .string tag)]),
    ("outbound", outbound)]

section

variable (fromStr : Text → Option Value)

/-- A `route`, `route_ip` or `default_out`, whose targets are computed only where there is an entry for them. -/
def renderOutboundRoute (inbound : InboundPlan) (route : RoutePlan) (targets : Except Text (List Text)) :
    Except Text (Option Value) :=
  if keliCoreRsRouteOutboundIsBlackhole fromStr route then targets.map fun targets => some (blockEntry targets)
  else do
    match ← keliCoreRsRouteOutbound fromStr inbound route with
    | some (tag, outbound) => targets.map fun targets => some (outboundEntry targets tag outbound)
    | none => .ok none

/-- One round of the loop of `render_keli_core_rs_routes_for_inbound`. -/
def renderKeliCoreRsRoute (inbound : InboundPlan) (route : RoutePlan) : Except Text (Option Value) :=
  if route.matchRules.isEmpty && routeAction route ≠ .defaultOut then .ok none
  else match routeAction route with
    | .block => (keliCoreRsBlockRouteTargets inbound route).map fun targets => some (blockEntry targets)
    | .blockIp => (prefixedKeliCoreRsIpRouteTargets inbound route).map fun targets => some (blockEntry targets)
    | .blockPort => (prefixedKeliCoreRsPortRouteTargets inbound route).map fun targets => some (blockEntry targets)
    | .route => renderOutboundRoute fromStr inbound route (keliCoreRsRouteTargets inbound route)
    | .routeIp => renderOutboundRoute fromStr inbound route (prefixedKeliCoreRsIpRouteTargets inbound route)
    | .defaultOut => renderOutboundRoute fromStr inbound route (.ok ["*"])
    | .protocol => (prefixedKeliCoreRsProtocolRouteTargets inbound route).map fun targets => some (blockEntry targets)
    | .dns => .ok none
    | .other => .error ("keli-core-rs route action " ++ route.action ++ " on inbound " ++ inbound.tag ++
        " is not supported yet")

/-- `render_keli_core_rs_routes_for_inbound` (`core.rs:522`). -/
def renderKeliCoreRsRoutesForInbound (inbound : InboundPlan) : Except Text (List Value) := do
  let entries ← inbound.routes.mapM (renderKeliCoreRsRoute fromStr inbound)
  .ok (entries.filterMap id)

/-! ## Outbounds -/

/-- `push_keli_core_rs_outbound_once` (`core.rs:673`). -/
def pushKeliCoreRsOutboundOnce (outbounds : List Value) (tag : Text) (outbound : Value) : List Value :=
  if outbounds.any fun item => ((item.get "tag").bind Json.asStr) = some tag then outbounds
  else outbounds ++ [outbound]

/-- One route of `collect_keli_core_rs_route_outbounds`. -/
def collectRouteOutbound (inbound : InboundPlan) (outbounds : List Value) (route : RoutePlan) :
    Except Text (List Value) :=
  if route.matchRules.isEmpty && routeAction route ≠ .defaultOut then .ok outbounds
  else if routeAction route ≠ .route && routeAction route ≠ .routeIp && routeAction route ≠ .defaultOut then
    .ok outbounds
  else if keliCoreRsRouteOutboundIsBlackhole fromStr route then .ok outbounds
  else do
    match ← keliCoreRsRouteOutbound fromStr inbound route with
    | some (tag, outbound) => .ok (pushKeliCoreRsOutboundOnce outbounds tag outbound)
    | none => .ok outbounds

/-- `collect_keli_core_rs_route_outbounds` (`core.rs:501`). -/
def collectKeliCoreRsRouteOutbounds (inbound : InboundPlan) (outbounds : List Value) : Except Text (List Value) :=
  inbound.routes.foldlM (collectRouteOutbound fromStr inbound) outbounds

end

/-! ## DNS -/

def addressEntry (address : Text) : Value := Json.ofFields [("address", .string address)]

/-- The name servers of the configuration, or the two built-in ones. -/
def configuredServers (plan : CorePlan) : List Value :=
  if plan.dns.servers.isEmpty then [addressEntry "1.1.1.1", addressEntry "8.8.8.8"]
  else plan.dns.servers.map addressEntry

/-- The name server of a `dns` route. -/
def renderDnsServer (inbound : InboundPlan) (route : RoutePlan) : Except Text (Option Value) :=
  if routeAction route ≠ .dns then .ok none
  else match route.actionValue.bind trimmedText with
    | none => .ok none
    | some address =>
      if route.matchRules.isEmpty then .ok (some (addressEntry address))
      else (keliCoreRsRouteTargets inbound route).map fun domains =>
        some (Json.ofFields [("address", .string address), ("domains", ofTexts domains)])

/-- The name servers of an inbound's `dns` routes. -/
def renderDnsServers (inbound : InboundPlan) : Except Text (List Value) := do
  let servers ← inbound.routes.mapM (renderDnsServer inbound)
  .ok (servers.filterMap id)

/-- `render_keli_core_rs_dns` (`core.rs:611`). -/
def renderKeliCoreRsDns (plan : CorePlan) : Except Text Value := do
  let servers ← plan.inbounds.mapM renderDnsServers
  .ok (Json.ofFields ([
    ("servers".toList, .array (configuredServers plan ++ servers.flatten)),
    ("query_strategy".toList, .string (keliCoreRsQueryStrategy plan.dns.queryStrategy))] ++
    (if plan.dns.blockPrivateIps then [("block_private_ips".toList, .bool true)] else []) ++
    (if plan.dns.privateIpAllowlist.isEmpty then []
      else [("private_ip_allowlist".toList, ofTexts plan.dns.privateIpAllowlist)])))

end KeliNode
