import KeliNode.Core.Render
import KeliNode.Lib.Except

/-!
# What becomes of one route

Every branch of `render_keli_core_rs_routes_for_inbound` (`core.rs:522`) and of `render_keli_core_rs_dns`
(`core.rs:611`), said once: a route is skipped, gets a block entry or an outbound entry, or is lost because its
`action_value` has no usable outbound (`renderRoute_cases`, `collectRoute_cases`, `renderDnsServer_cases`).
-/

namespace KeliNode

open Lib Lib.Json

/-! ## Kinds of routes -/

/-- A route that is sent to an outbound of its own. -/
def wantsOutbound (route : RoutePlan) : Bool :=
  match routeAction route with
  | .route | .routeIp => !route.matchRules.isEmpty
  | .defaultOut => true
  | _ => false

/-- A route that the rendered inbound has to have an entry for. -/
def wantsEntry (route : RoutePlan) : Bool :=
  match routeAction route with
  | .block | .blockIp | .blockPort | .protocol | .route | .routeIp => !route.matchRules.isEmpty
  | .defaultOut => true
  | .dns | .other => false

/-- A `dns` route for some domains. -/
def wantsDns (route : RoutePlan) : Bool := routeAction route = .dns && !route.matchRules.isEmpty

/-- The targets of a route with an entry, by its action. -/
def routeTargets (inbound : InboundPlan) (route : RoutePlan) : Except Text (List Text) :=
  match routeAction route with
  | .block => keliCoreRsBlockRouteTargets inbound route
  | .blockIp | .routeIp => prefixedKeliCoreRsIpRouteTargets inbound route
  | .blockPort => prefixedKeliCoreRsPortRouteTargets inbound route
  | .protocol => prefixedKeliCoreRsProtocolRouteTargets inbound route
  | .defaultOut => .ok ["*"]
  | _ => keliCoreRsRouteTargets inbound route

/-! ## Settings -/

/-- What an outbound is besides its tag. -/
structure OutboundSettings where
  protocol : Text
  endpoint : OutboundEndpoint
  tls : Option Value
  transport : Option Value

/-- The `tls` and the `transport` of an outbound's `streamSettings`. -/
def streamParts (outbound : Value) : Option Value × Option Value :=
  match (outbound.get "streamSettings").filter (!·.isNull) with
  | none => (none, none)
  | some streamSettings =>
    let network := (outboundString streamSettings "network").getD "tcp"
    let security := (outboundString streamSettings "security").getD "none"
    let tlsSettings := (streamSettings.get "tlsSettings").getD .null
    (if security = "tls" then some (ofFields [
        ("server_name", ofOptionText (outboundString tlsSettings "serverName")),
        ("allow_insecure", .bool (((tlsSettings.get "allowInsecure").bind asBool).getD false)),
        ("alpn", ofTexts (outboundStringArray tlsSettings "alpn"))])
      else none,
      renderOutboundTransport network
        (((transportSettingsKey network).bind fun key => streamSettings.get key).getD .null))

/-- The settings in the JSON of an outbound: protocol, server and credentials, and the stream of the protocols that
have one. -/
def outboundSettings (outbound : Value) : OutboundSettings :=
  let protocol := asciiLower ((((outbound.get "protocol").bind asStr).map trim).getD [])
  let stream := if oneOf protocol ["trojan", "vmess", "vless"] then streamParts outbound else (none, none)
  { protocol, endpoint := keliCoreRsRouteOutboundEndpoint outbound, tls := stream.1, transport := stream.2 }

section

variable {inbound : InboundPlan} {tag : Text} {outbound : Value}

theorem stream_eq {parts : Option Value × Option Value}
    (h : keliCoreRsRouteOutboundStream inbound tag outbound = .ok parts) : parts = streamParts outbound := by
  unfold keliCoreRsRouteOutboundStream at h
  unfold streamParts
  cases hstream : (outbound.get "streamSettings").filter (!·.isNull) with
  | none =>
    rw [hstream] at h
    cases h
    rfl
  | some streamSettings =>
    rw [hstream] at h
    obtain ⟨-, -, h⟩ := bind_eq_ok.1 h
    obtain ⟨-, -, h⟩ := bind_eq_ok.1 h
    cases h
    rfl

def renderSettings (tag : Text) (settings : OutboundSettings) : Value :=
  renderOutbound tag settings.protocol settings.endpoint settings.tls settings.transport

/-- A rendered outbound is its tag and its settings. -/
theorem renderRouteOutbound_eq {rendered : Value} (h : renderRouteOutbound inbound tag outbound = .ok rendered) :
    rendered = renderSettings tag (outboundSettings outbound) := by
  unfold renderRouteOutbound at h
  obtain ⟨-, -, h⟩ := bind_eq_ok.1 h
  obtain ⟨⟨tls, transport⟩, hstream, h⟩ := bind_eq_ok.1 h
  obtain ⟨-, -, h⟩ := bind_eq_ok.1 h
  obtain ⟨-, -, h⟩ := bind_eq_ok.1 h
  cases h
  have hparts : (tls, transport) = ((outboundSettings outbound).tls, (outboundSettings outbound).transport) := by
    unfold streamOfProtocol at hstream
    unfold outboundSettings
    split at hstream
    · rename_i hprotocol
      simp only [hprotocol, if_true]
      exact stream_eq hstream
    · rename_i hprotocol
      cases hstream
      simp only [hprotocol]
      rfl
  cases hparts
  rfl

end

/-! ## Steps -/

section

variable (fromStr : Text → Option Value) (inbound : InboundPlan) (route : RoutePlan)

/-- What one route leads to. -/
inductive RouteStep : Option Value → Prop where
  | skipped (hskip : wantsEntry route = false) : RouteStep none
  | block (hwants : wantsEntry route = true)
    (hblock : wantsOutbound route = true → keliCoreRsRouteOutboundIsBlackhole fromStr route = true)
    (targets : List Text) (htargets : routeTargets inbound route = .ok targets) : RouteStep (some (blockEntry targets))
  | outbound (hwants : wantsOutbound route = true) (hblock : keliCoreRsRouteOutboundIsBlackhole fromStr route = false)
    (tag : Text) (outbound : Value)
    (hrender : keliCoreRsRouteOutbound fromStr inbound route = .ok (some (tag, outbound)))
    (targets : List Text) (htargets : routeTargets inbound route = .ok targets) :
    RouteStep (some (outboundEntry targets tag outbound))
  | lost (hwants : wantsOutbound route = true) (hparse : parseRouteOutbound fromStr route = none) : RouteStep none

variable {fromStr inbound route}

theorem not_blackhole_of_parse (h : parseRouteOutbound fromStr route = none) :
    keliCoreRsRouteOutboundIsBlackhole fromStr route = false := by
  rw [keliCoreRsRouteOutboundIsBlackhole, h]
  rfl

theorem routeOutbound_none (h : keliCoreRsRouteOutbound fromStr inbound route = .ok none) :
    parseRouteOutbound fromStr route = none := by
  unfold keliCoreRsRouteOutbound at h
  split at h
  · assumption
  · obtain ⟨rendered, -, heq⟩ := map_eq_ok.1 h
    cases heq

theorem routeOutbound_some {tag : Text} {rendered : Value}
    (h : keliCoreRsRouteOutbound fromStr inbound route = .ok (some (tag, rendered))) :
    ∃ outbound, parseRouteOutbound fromStr route = some (tag, outbound) ∧
      rendered = renderSettings tag (outboundSettings outbound) := by
  unfold keliCoreRsRouteOutbound at h
  split at h
  · cases h
  · rename_i tag' outbound hparse
    obtain ⟨rendered', hrendered, heq⟩ := map_eq_ok.1 h
    cases heq
    exact ⟨outbound, hparse, renderRouteOutbound_eq hrendered⟩

/-- A block entry from the targets of the route. -/
theorem routeStep_block {entry : Option Value} (hwants : wantsEntry route = true) (hnot : wantsOutbound route = false)
    (h : ((routeTargets inbound route).map fun targets => some (blockEntry targets)) = .ok entry) :
    RouteStep fromStr inbound route entry := by
  obtain ⟨targets, htargets, rfl⟩ := map_eq_ok.1 h
  exact .block hwants (fun hout => by rw [hnot] at hout; cases hout) targets htargets

theorem wantsEntry_of_outbound (h : wantsOutbound route = true) : wantsEntry route = true := by
  unfold wantsOutbound at h
  unfold wantsEntry
  cases haction : routeAction route <;> simp_all

theorem routeStep_outbound {entry : Option Value} (hwants : wantsOutbound route = true)
    (h : renderOutboundRoute fromStr inbound route (routeTargets inbound route) = .ok entry) :
    RouteStep fromStr inbound route entry := by
  unfold renderOutboundRoute at h
  split at h
  · rename_i hblack
    obtain ⟨targets, htargets, rfl⟩ := map_eq_ok.1 h
    exact .block (wantsEntry_of_outbound hwants) (fun _ => hblack) targets htargets
  · rename_i hblack
    obtain ⟨found, hfound, h⟩ := bind_eq_ok.1 h
    cases found with
    | none =>
      cases h
      exact .lost hwants (routeOutbound_none hfound)
    | some pair =>
      obtain ⟨tag, outbound⟩ := pair
      obtain ⟨targets, htargets, rfl⟩ := map_eq_ok.1 h
      exact .outbound hwants (by simpa using hblack) tag outbound hfound targets htargets

/-- **One route**: everything the renderer can do with it. -/
theorem renderRoute_cases {entry : Option Value} (h : renderKeliCoreRsRoute fromStr inbound route = .ok entry) :
    RouteStep fromStr inbound route entry := by
  unfold renderKeliCoreRsRoute at h
  by_cases hrules : (route.matchRules.isEmpty && decide (routeAction route ≠ .defaultOut)) = true
  · rw [if_pos hrules] at h
    cases h
    simp only [Bool.and_eq_true, decide_eq_true_eq] at hrules
    refine .skipped ?_
    unfold wantsEntry
    cases haction : routeAction route <;> simp_all
  · rw [if_neg hrules] at h
    cases haction : routeAction route with
    | block | blockIp | blockPort | protocol =>
      refine routeStep_block ?_ ?_ ?_
      · simpa [wantsEntry, haction] using hrules
      · simp [wantsOutbound, haction]
      · simpa only [routeTargets, haction] using h
    | route | routeIp =>
      refine routeStep_outbound ?_ ?_
      · simpa [wantsOutbound, haction] using hrules
      · simpa only [routeTargets, haction] using h
    | defaultOut =>
      refine routeStep_outbound ?_ ?_
      · simp [wantsOutbound, haction]
      · simpa only [routeTargets, haction] using h
    | dns =>
      rw [haction] at h
      cases h
      exact .skipped (by simp [wantsEntry, haction])
    | other =>
      rw [haction] at h
      cases h

/-! ## The outbound list -/

/-- What one route does to the outbound list. -/
inductive CollectStep (fromStr : Text → Option Value) (inbound : InboundPlan) (route : RoutePlan)
    (outbounds : List Value) : List Value → Prop where
  | kept (hkept : wantsOutbound route = true → keliCoreRsRouteOutboundIsBlackhole fromStr route = false →
      parseRouteOutbound fromStr route = none) : CollectStep fromStr inbound route outbounds outbounds
  | pushed (hwants : wantsOutbound route = true) (hblock : keliCoreRsRouteOutboundIsBlackhole fromStr route = false)
    (tag : Text) (outbound : Value)
    (hrender : keliCoreRsRouteOutbound fromStr inbound route = .ok (some (tag, outbound))) :
    CollectStep fromStr inbound route outbounds (pushKeliCoreRsOutboundOnce outbounds tag outbound)

/-- The two conditions under which the collector passes over a route. -/
theorem wantsOutbound_eq_false (h : (route.matchRules.isEmpty && decide (routeAction route ≠ .defaultOut)) = true ∨
    (decide (routeAction route ≠ .route) && decide (routeAction route ≠ .routeIp) &&
      decide (routeAction route ≠ .defaultOut)) = true) : wantsOutbound route = false := by
  unfold wantsOutbound
  cases haction : routeAction route <;> simp_all

theorem wantsOutbound_eq_true (hrules : ¬(route.matchRules.isEmpty && decide (routeAction route ≠ .defaultOut)) = true)
    (haction : ¬(decide (routeAction route ≠ .route) && decide (routeAction route ≠ .routeIp) &&
      decide (routeAction route ≠ .defaultOut)) = true) : wantsOutbound route = true := by
  unfold wantsOutbound
  cases h : routeAction route <;> simp_all

theorem collectRoute_cases {outbounds outbounds' : List Value}
    (h : collectRouteOutbound fromStr inbound outbounds route = .ok outbounds') :
    CollectStep fromStr inbound route outbounds outbounds' := by
  unfold collectRouteOutbound at h
  split at h
  · rename_i hrules
    cases h
    refine .kept fun hwants => ?_
    rw [wantsOutbound_eq_false (.inl hrules)] at hwants
    cases hwants
  · rename_i hrules
    split at h
    · rename_i haction
      cases h
      refine .kept fun hwants => ?_
      rw [wantsOutbound_eq_false (.inr haction)] at hwants
      cases hwants
    · rename_i haction
      split at h
      · rename_i hblock
        cases h
        refine .kept fun _ hnot => ?_
        rw [hblock] at hnot
        cases hnot
      · rename_i hblock
        obtain ⟨found, hfound, h⟩ := bind_eq_ok.1 h
        cases found with
        | none =>
          cases h
          exact .kept fun _ _ => routeOutbound_none hfound
        | some pair =>
          obtain ⟨tag, outbound⟩ := pair
          cases h
          exact .pushed (wantsOutbound_eq_true hrules haction) (by simpa using hblock) tag outbound hfound

/-! ## Name servers -/

/-- What a `dns` route leads to; other routes to nothing. -/
inductive DnsStep (inbound : InboundPlan) (route : RoutePlan) : Option Value → Prop where
  | other (hother : routeAction route ≠ .dns) : DnsStep inbound route none
  | lost (hdns : routeAction route = .dns) (haddress : route.actionValue.bind trimmedText = none) :
    DnsStep inbound route none
  | all (hrules : route.matchRules = []) (address : Text) : DnsStep inbound route (some (addressEntry address))
  | domains (address : Text) (haddress : route.actionValue.bind trimmedText = some address) (targets : List Text)
    (htargets : keliCoreRsRouteTargets inbound route = .ok targets) :
    DnsStep inbound route (some (Json.ofFields [("address", .string address), ("domains", ofTexts targets)]))

theorem renderDnsServer_cases {server : Option Value} (h : renderDnsServer inbound route = .ok server) :
    DnsStep inbound route server := by
  unfold renderDnsServer at h
  split at h
  · cases h
    exact .other (by assumption)
  · rename_i hdns
    split at h
    · cases h
      exact .lost (by simpa using hdns) (by assumption)
    · rename_i address haddress
      split at h
      · rename_i hrules
        cases h
        exact .all (List.isEmpty_iff.1 hrules) address
      · obtain ⟨targets, htargets, rfl⟩ := map_eq_ok.1 h
        exact .domains address haddress targets htargets

end

end KeliNode
