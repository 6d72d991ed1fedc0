import KeliNode.Core.RouteSteps

/-!
# Which routes reach the core

`RoutesKept fromStr plan config`: every panel route that asks for an entry has one in the rendered configuration, in
its order, with one target for each rule; the entry blocks what the route blocks and sends the rest to the outbound in
its `action_value`.  Every `dns` route for some domains has its name server.  The renderer passes over a route whose
`action_value` it cannot use, so this holds exactly where no such route is in the plan (`routesKept_iff`).
-/

namespace KeliNode

open Lib Lib.Json

/-! ## What is asked of a rendered configuration -/

/-- The target of one rule, by the action of its route. -/
def ruleTarget (action : RouteAction) (rule : Text) : Text :=
  let rule := trim rule
  match action with
  | .blockIp | .routeIp =>
    if ("geoip:" : Text).isPrefixOf (asciiLower rule) || ("ip:geoip:" : Text).isPrefixOf (asciiLower rule) then rule
    else "ip:" ++ rule
  | .blockPort => "port:" ++ rule
  | .protocol => "protocol:" ++ rule
  | _ => rule

/-- One target for each rule; everything for a default route. -/
def expectedTargets (route : RoutePlan) : List Text :=
  if routeAction route = .defaultOut then ["*"] else route.matchRules.map (ruleTarget (routeAction route))

section

variable (fromStr : Text → Option Value)

/-- The JSON in the `action_value` of a route, and its tag. -/
def OutboundIn (route : RoutePlan) (tag : Text) (outbound : Value) : Prop :=
  ∃ raw text, route.actionValue = some raw ∧ trim raw ≠ [] ∧ fromStr (trim raw) = some outbound ∧
    outbound.get "tag" = some (.string text) ∧ trim text ≠ [] ∧ trim text = tag

/-- What a route matches is dropped: its action blocks, or its outbound is a black hole. -/
def Blocks (route : RoutePlan) : Prop :=
  wantsOutbound route = true → ∃ tag outbound protocol, OutboundIn fromStr route tag outbound ∧
    outbound.get "protocol" = some (.string protocol) ∧ asciiLower (trim protocol) = "blackhole"

/-- The entry of a route: its targets, and `block` or the outbound with its tag. -/
structure EntryOf (route : RoutePlan) (entry : Value) : Prop where
  targets : entry.get "targets" = some (ofTexts (expectedTargets route))
  blocked : Blocks fromStr route → entry.get "action" = some (.string "block") ∧ entry.get "outbound" = none
  sent : ¬Blocks fromStr route → ∃ tag outbound, OutboundIn fromStr route tag outbound ∧
    entry.get "action" = some (ofFields [("outbound", .string tag)]) ∧
    entry.get "outbound" = some (renderSettings tag (outboundSettings outbound))

end

/-- The name server of a `dns` route for some domains. -/
def ServerOf (route : RoutePlan) (server : Value) : Prop :=
  ∃ address, route.actionValue.bind trimmedText = some address ∧ server.get "address" = some (.string address) ∧
    server.get "domains" = some (ofTexts (route.matchRules.map trim))

/-- No route of the plan is missing in the configuration. -/
structure RoutesKept (fromStr : Text → Option Value) (plan : CorePlan) (config : Value) : Prop where
  entries : ∃ inbounds, config.get "inbounds" = some (.array inbounds) ∧
    List.Forall₂ (fun inbound rendered => ∃ routes, rendered.get "routes" = some (.array routes) ∧
      List.Forall₂ (EntryOf fromStr) (inbound.routes.filter wantsEntry) routes) plan.inbounds inbounds
  servers : ∃ servers, (config.get "dns").bind (get "servers") = some (.array servers) ∧
    ∀ inbound ∈ plan.inbounds, ∀ route ∈ inbound.routes, wantsDns route = true → ∃ server ∈ servers, ServerOf route server

/-- The `action_value` is a JSON text with a tag that is not blank. -/
def UsableOutbound (fromStr : Text → Option Value) (route : RoutePlan) : Prop :=
  ∃ raw outbound tag, route.actionValue = some raw ∧ fromStr (trim raw) = some outbound ∧
    outbound.get "tag" = some (.string tag) ∧ trim raw ≠ [] ∧ trim tag ≠ []

/-- The `action_value` is an address. -/
def UsableAddress (route : RoutePlan) : Prop := ∃ raw, route.actionValue = some raw ∧ trim raw ≠ []

theorem trimmedText_isSome {text : Text} : (trimmedText text).isSome = true ↔ trim text ≠ [] := by
  unfold trimmedText
  split
  · simp_all
  · simp_all

theorem trimmedText_eq_some {text found : Text} : trimmedText text = some found ↔ trim text ≠ [] ∧ trim text = found := by
  unfold trimmedText
  split
  · simp_all
  · simp_all

theorem usableAddress_iff {route : RoutePlan} :
    (route.actionValue.bind trimmedText).isSome = true ↔ UsableAddress route := by
  unfold UsableAddress
  cases route.actionValue with
  | none => simp
  | some raw => simp [trimmedText_isSome]

section

variable {fromStr : Text → Option Value} {inbound : InboundPlan} {route : RoutePlan}

theorem parseRouteOutbound_eq_some {tag : Text} {outbound : Value} :
    parseRouteOutbound fromStr route = some (tag, outbound) ↔ ∃ raw, route.actionValue.bind trimmedText = some raw ∧
      fromStr raw = some outbound ∧ outboundString outbound "tag" = some tag := by
  unfold parseRouteOutbound
  simp only [Option.bind_eq_bind, Option.bind_eq_some_iff, Option.some.injEq, Prod.mk.injEq]
  constructor
  · rintro ⟨raw, hraw, found, hfound, tag', htag, rfl, rfl⟩
    exact ⟨raw, hraw, hfound, htag⟩
  · rintro ⟨raw, hraw, hfound, htag⟩
    exact ⟨raw, hraw, outbound, hfound, tag, htag, rfl, rfl⟩

theorem asStr_eq_some {value : Value} {text : Text} : value.asStr = some text ↔ value = .string text := by
  cases value <;> simp [asStr]

theorem outboundString_eq_some {value : Value} {key : String} {found : Text} :
    outboundString value key = some found ↔ ∃ text, value.get key = some (.string text) ∧ trim text ≠ [] ∧
      trim text = found := by
  simp only [outboundString, Option.bind_eq_some_iff, trimmedText_eq_some]
  constructor
  · rintro ⟨text, ⟨value, hvalue, htext⟩, hfound⟩
    rw [asStr_eq_some.1 htext] at hvalue
    exact ⟨text, hvalue, hfound⟩
  · rintro ⟨text, hvalue, hfound⟩
    exact ⟨text, ⟨_, hvalue, rfl⟩, hfound⟩

theorem usableOutbound_iff : (parseRouteOutbound fromStr route).isSome = true ↔ UsableOutbound fromStr route := by
  rw [Option.isSome_iff_exists]
  constructor
  · rintro ⟨⟨tag, outbound⟩, h⟩
    obtain ⟨trimmed, hvalue, hparse, htag⟩ := parseRouteOutbound_eq_some.1 h
    obtain ⟨raw, hraw, htrimmed⟩ := Option.bind_eq_some_iff.1 hvalue
    obtain ⟨hne, rfl⟩ := trimmedText_eq_some.1 htrimmed
    obtain ⟨text, htext, hdark, -⟩ := outboundString_eq_some.1 htag
    exact ⟨raw, outbound, text, hraw, hparse, htext, hne, hdark⟩
  · rintro ⟨raw, outbound, text, hraw, hparse, htext, hne, hdark⟩
    refine ⟨(trim text, outbound), parseRouteOutbound_eq_some.2 ⟨trim raw, ?_, hparse, ?_⟩⟩
    · rw [hraw]
      exact trimmedText_eq_some.2 ⟨hne, rfl⟩
    · exact outboundString_eq_some.2 ⟨text, htext, hdark, rfl⟩

/-! ## Targets -/

theorem keliCoreRsTarget_eq {kind rule target : Text} {sourceIp : Text → Except Text Unit}
    (h : keliCoreRsTarget kind sourceIp inbound rule = .ok target) : target = trim rule := by
  obtain ⟨-, -, h⟩ := bind_eq_ok.1 h
  obtain ⟨-, -, h⟩ := bind_eq_ok.1 h
  obtain ⟨-, -, h⟩ := bind_eq_ok.1 h
  cases h
  rfl

theorem routeDomains_eq {targets : List Text} (h : keliCoreRsRouteTargets inbound route = .ok targets) :
    targets = route.matchRules.map trim :=
  eq_map_of_mapM_ok (fun _ _ => keliCoreRsTarget_eq) h

/-- The targets that are computed are the expected ones. -/
theorem routeTargets_eq {targets : List Text} (h : routeTargets inbound route = .ok targets) :
    targets = expectedTargets route := by
  unfold routeTargets at h
  unfold expectedTargets
  cases haction : routeAction route <;> rw [haction] at h
  case defaultOut =>
    cases h
    rfl
  case block | route | dns | other =>
    rw [if_neg (by simp)]
    exact eq_map_of_mapM_ok (fun _ _ => keliCoreRsTarget_eq) h
  case blockIp | blockPort | routeIp | protocol =>
    rw [if_neg (by simp)]
    refine eq_map_of_mapM_ok (fun rule target hrule => ?_) h
    obtain ⟨-, -, hrule⟩ := bind_eq_ok.1 hrule
    cases hrule
    rfl

/-! ## One inbound -/

theorem outboundIn_iff {tag : Text} {outbound : Value} :
    OutboundIn fromStr route tag outbound ↔ parseRouteOutbound fromStr route = some (tag, outbound) := by
  rw [parseRouteOutbound_eq_some]
  constructor
  · rintro ⟨raw, text, hraw, hne, hparse, htext, hdark, htag⟩
    refine ⟨trim raw, ?_, hparse, outboundString_eq_some.2 ⟨text, htext, hdark, htag⟩⟩
    rw [hraw]
    exact trimmedText_eq_some.2 ⟨hne, rfl⟩
  · rintro ⟨trimmed, hvalue, hparse, htag⟩
    obtain ⟨raw, hraw, htrimmed⟩ := Option.bind_eq_some_iff.1 hvalue
    obtain ⟨hne, rfl⟩ := trimmedText_eq_some.1 htrimmed
    obtain ⟨text, htext, hdark, htrim⟩ := outboundString_eq_some.1 htag
    exact ⟨raw, text, hraw, hne, hparse, htext, hdark, htrim⟩

/-- The renderer finds the black holes. -/
theorem isBlackhole_iff : keliCoreRsRouteOutboundIsBlackhole fromStr route = true ↔ ∃ tag outbound protocol,
    OutboundIn fromStr route tag outbound ∧ outbound.get "protocol" = some (.string protocol) ∧
      asciiLower (trim protocol) = "blackhole" := by
  have hlower : asciiLower "blackhole" = "blackhole" := by decide
  unfold keliCoreRsRouteOutboundIsBlackhole
  constructor
  · intro h
    cases hparse : parseRouteOutbound fromStr route with
    | none =>
      rw [hparse] at h
      cases h
    | some found =>
      obtain ⟨tag, outbound⟩ := found
      rw [hparse, Option.bind_some] at h
      dsimp only at h
      cases hprotocol : (outbound.get "protocol").bind asStr with
      | none =>
        rw [hprotocol] at h
        cases h
      | some protocol =>
        rw [hprotocol, Option.map_some, Option.getD_some, eqIgnoreCase, decide_eq_true_eq, hlower] at h
        obtain ⟨value, hvalue, htext⟩ := Option.bind_eq_some_iff.1 hprotocol
        rw [asStr_eq_some] at htext
        subst htext
        exact ⟨tag, outbound, protocol, outboundIn_iff.2 hparse, hvalue, h⟩
  · rintro ⟨tag, outbound, protocol, hin, hprotocol, hblack⟩
    rw [outboundIn_iff.1 hin, Option.bind_some]
    dsimp only
    rw [hprotocol, Option.bind_some, asStr, Option.map_some, Option.getD_some, eqIgnoreCase, decide_eq_true_eq, hlower]
    exact hblack

theorem entryOf_block {targets : List Text} (hblocks : Blocks fromStr route)
    (h : routeTargets inbound route = .ok targets) : EntryOf fromStr route (blockEntry targets) := by
  rw [routeTargets_eq h]
  refine ⟨?_, fun _ => ⟨?_, ?_⟩, fun hnot => absurd hblocks hnot⟩
  · exact get_ofFields_at ["targets", "action"] (by decide) rfl 0 rfl
  · exact get_ofFields_at ["targets", "action"] (by decide) rfl 1 rfl
  · rw [blockEntry, get_ofFields, lastWith_eq_none.2 (by simp)]
    rfl

theorem entryOf_outbound {targets : List Text} {tag : Text} {rendered : Value} (hblocks : ¬Blocks fromStr route)
    (hrender : keliCoreRsRouteOutbound fromStr inbound route = .ok (some (tag, rendered)))
    (h : routeTargets inbound route = .ok targets) : EntryOf fromStr route (outboundEntry targets tag rendered) := by
  obtain ⟨outbound, hparse, rfl⟩ := routeOutbound_some hrender
  rw [routeTargets_eq h]
  have hkeys : (["targets", "action", "outbound"].map String.toList).Nodup := by decide
  refine ⟨?_, fun hnot => absurd hnot hblocks, fun _ => ⟨tag, outbound, outboundIn_iff.2 hparse, ?_, ?_⟩⟩
  · exact get_ofFields_at _ hkeys rfl 0 rfl
  · exact get_ofFields_at _ hkeys rfl 1 rfl
  · exact get_ofFields_at _ hkeys rfl 2 rfl

/-- A rendered route has an entry only if it asks for one. -/
theorem wantsEntry_of_isSome {entry : Option Value} (h : RouteStep fromStr inbound route entry)
    (hsome : entry.isSome = true) : wantsEntry route = true := by
  cases h with
  | skipped => cases hsome
  | block hwants => exact hwants
  | outbound hwants => exact wantsEntry_of_outbound hwants
  | lost => cases hsome

/-- Where its outbound is usable, a route has an entry exactly if it asks for one. -/
theorem routeStep_entry {entry : Option Value} (h : RouteStep fromStr inbound route entry)
    (husable : wantsOutbound route = true → UsableOutbound fromStr route) :
    (wantsEntry route = false ∧ entry = none) ∨ ∃ value, wantsEntry route = true ∧ entry = some value ∧
      EntryOf fromStr route value := by
  cases h with
  | skipped hskip => exact .inl ⟨hskip, rfl⟩
  | block hwants hblock targets htargets =>
    exact .inr ⟨_, hwants, rfl, entryOf_block (fun hout => isBlackhole_iff.1 (hblock hout)) htargets⟩
  | outbound hwants hblock tag outbound hrender targets htargets =>
    have hnot : ¬Blocks fromStr route := by
      intro hblocks
      rw [isBlackhole_iff.2 (hblocks hwants)] at hblock
      cases hblock
    exact .inr ⟨_, wantsEntry_of_outbound hwants, rfl, entryOf_outbound hnot hrender htargets⟩
  | lost hwants hparse =>
    have hsome := usableOutbound_iff.2 (husable hwants)
    rw [hparse] at hsome
    cases hsome

theorem usable_of_entry {entry : Option Value} (h : RouteStep fromStr inbound route entry)
    (hsome : wantsEntry route = true → entry.isSome = true) (hwants : wantsOutbound route = true) :
    UsableOutbound fromStr route := by
  cases h with
  | skipped hskip =>
    rw [wantsEntry_of_outbound hwants] at hskip
    cases hskip
  | block hwants' hblock targets htargets =>
    refine usableOutbound_iff.1 ?_
    by_contra hnone
    rw [Option.not_isSome_iff_eq_none] at hnone
    have hnot := not_blackhole_of_parse hnone
    rw [hblock hwants] at hnot
    cases hnot
  | outbound hwants' hblock tag outbound hrender targets htargets =>
    refine usableOutbound_iff.1 ?_
    by_contra hnone
    rw [Option.not_isSome_iff_eq_none] at hnone
    rw [keliCoreRsRouteOutbound, hnone] at hrender
    cases hrender
  | lost hwants' hparse => cases hsome (wantsEntry_of_outbound hwants)

/-- **One inbound**: its routes are all there exactly if those with an outbound have a usable one. -/
theorem inboundRoutes_iff {routes : List Value} (h : renderKeliCoreRsRoutesForInbound fromStr inbound = .ok routes) :
    List.Forall₂ (EntryOf fromStr) (inbound.routes.filter wantsEntry) routes ↔
      ∀ route ∈ inbound.routes, wantsOutbound route = true → UsableOutbound fromStr route := by
  obtain ⟨found, hfound, h⟩ := bind_eq_ok.1 h
  cases h
  have hsteps := (forall₂_of_mapM_ok hfound).imp fun _ _ => renderRoute_cases
  constructor
  · intro hentries route hroute
    have hall := isSome_of_length (hsteps.imp fun _ _ => wantsEntry_of_isSome) hentries.length_eq
    have hboth := List.Forall₂.mp (fun _ _ hstep hsome hwants => usable_of_entry hstep hsome hwants) hsteps hall
    obtain ⟨entry, -, husable⟩ := exists_right_of_forall₂ hboth hroute
    exact husable
  · intro husable
    refine forall₂_filter_filterMap (((List.forall₂_and_left _ _).2 ⟨husable, hsteps⟩).imp ?_)
    exact fun route entry ⟨husable, hstep⟩ => routeStep_entry hstep husable

/-! ## Name servers -/

theorem wantsDns_iff : wantsDns route = true ↔ routeAction route = .dns ∧ route.matchRules ≠ [] := by
  simp [wantsDns]

/-- A `dns` route with an address has its name server among those of its inbound. -/
theorem serverOf_of_address {servers : List Value} (h : renderDnsServers inbound = .ok servers)
    (hroute : route ∈ inbound.routes) (hdns : wantsDns route = true) (haddress : UsableAddress route) :
    ∃ server ∈ servers, ServerOf route server := by
  obtain ⟨found, hfound, h⟩ := bind_eq_ok.1 h
  cases h
  obtain ⟨server, hserver, hstep⟩ := exists_right_of_forall₂ (forall₂_of_mapM_ok hfound) hroute
  obtain ⟨haction, hrules⟩ := wantsDns_iff.1 hdns
  cases renderDnsServer_cases hstep with
  | other hother => exact absurd haction hother
  | lost _ hnone =>
    have hsome := usableAddress_iff.2 haddress
    rw [hnone] at hsome
    cases hsome
  | all hempty => exact absurd hempty hrules
  | domains address haddress targets htargets =>
    refine ⟨_, List.mem_filterMap.2 ⟨_, hserver, rfl⟩, address, haddress, ?_, ?_⟩
    · exact get_ofFields_at ["address", "domains"] (by decide) rfl 0 rfl
    · rw [routeDomains_eq htargets]
      exact get_ofFields_at ["address", "domains"] (by decide) rfl 1 rfl

theorem usableAddress_of_server {server : Value} (h : ServerOf route server) : UsableAddress route := by
  obtain ⟨address, haddress, -⟩ := h
  exact usableAddress_iff.1 (by rw [haddress]; rfl)

/-- The `servers` member of the rendered DNS part. -/
theorem get_servers {plan : CorePlan} {dns : Value} (h : renderKeliCoreRsDns plan = .ok dns) :
    ∃ servers, plan.inbounds.mapM renderDnsServers = .ok servers ∧
      dns.get "servers" = some (.array (configuredServers plan ++ servers.flatten)) := by
  obtain ⟨servers, hservers, h⟩ := bind_eq_ok.1 h
  cases h
  refine ⟨servers, hservers, ?_⟩
  by_cases hblock : plan.dns.blockPrivateIps = true <;> by_cases hallow : plan.dns.privateIpAllowlist.isEmpty = true
  · rw [if_pos hblock, if_pos hallow]
    exact get_ofFields_at ["servers", "query_strategy", "block_private_ips"] (by decide) rfl 0 rfl
  · rw [if_pos hblock, if_neg hallow]
    exact get_ofFields_at ["servers", "query_strategy", "block_private_ips", "private_ip_allowlist"] (by decide) rfl 0
      rfl
  · rw [if_neg hblock, if_pos hallow]
    exact get_ofFields_at ["servers", "query_strategy"] (by decide) rfl 0 rfl
  · rw [if_neg hblock, if_neg hallow]
    exact get_ofFields_at ["servers", "query_strategy", "private_ip_allowlist"] (by decide) rfl 0 rfl

end

/-! ## The configuration -/

section

variable {fromStr : Text → Option Value} {allowList : Option Text} {plan : CorePlan} {config : Value}

/-- The members of a rendered configuration. -/
theorem config_members {includeUsers : Bool} (h : renderKeliCoreRsConfig fromStr allowList plan includeUsers = .ok config) :
    ∃ outbounds dns inbounds, collectOutbounds fromStr allowList plan = .ok outbounds ∧
      renderKeliCoreRsDns plan = .ok dns ∧ renderKeliCoreRsInbounds fromStr plan.inbounds includeUsers = .ok inbounds ∧
      config.get "outbounds" = some (.array outbounds) ∧ config.get "dns" = some dns ∧
      config.get "inbounds" = some (.array inbounds) := by
  obtain ⟨outbounds, houtbounds, h⟩ := bind_eq_ok.1 h
  obtain ⟨dns, hdns, h⟩ := bind_eq_ok.1 h
  obtain ⟨inbounds, hinbounds, h⟩ := bind_eq_ok.1 h
  cases h
  have hkeys : (["instance_id", "log_level", "policy", "dns", "inbounds", "outbounds", "routes", "stats"].map
      String.toList).Nodup := by decide
  refine ⟨outbounds, dns, inbounds, houtbounds, hdns, hinbounds, ?_, ?_, ?_⟩
  · exact get_ofFields_at _ hkeys rfl 5 rfl
  · exact get_ofFields_at _ hkeys rfl 3 rfl
  · exact get_ofFields_at _ hkeys rfl 4 rfl

theorem inbound_routes {inbound : InboundPlan} {includeUsers : Bool} {rendered : Value}
    (h : renderKeliCoreRsInbound fromStr inbound includeUsers = .ok rendered) :
    ∃ routes, renderKeliCoreRsRoutesForInbound fromStr inbound = .ok routes ∧
      rendered.get "routes" = some (.array routes) := by
  obtain ⟨routes, hroutes, h⟩ := bind_eq_ok.1 h
  cases h
  refine ⟨routes, hroutes, ?_⟩
  exact get_ofFields_at ["tag", "protocol", "listen", "port", "cipher", "flow", "padding_scheme", "users", "transport",
    "tls", "sniffing", "routes"] (by decide) rfl 11 rfl

/-- A route that asks for an outbound and is there has a usable one; likewise a `dns` route. -/
theorem usable_of_routesKept (h : renderKeliCoreRsConfig fromStr allowList plan true = .ok config)
    (hkept : RoutesKept fromStr plan config) {inbound : InboundPlan} (hinbound : inbound ∈ plan.inbounds) {route : RoutePlan}
    (hroute : route ∈ inbound.routes) :
    (wantsOutbound route = true → UsableOutbound fromStr route) ∧ (wantsDns route = true → UsableAddress route) := by
  obtain ⟨-, -, inbounds, -, -, hinbounds, -, -, hgetInbounds⟩ := config_members h
  obtain ⟨⟨inbounds', hget, hentries⟩, servers, -, hserver⟩ := hkept
  rw [hgetInbounds] at hget
  cases hget
  refine ⟨?_, fun hwants => ?_⟩
  · have hboth := List.Forall₂.mp (S := fun inbound _ => ∀ route ∈ inbound.routes, wantsOutbound route = true →
      UsableOutbound fromStr route) ?_ (forall₂_of_mapM_ok hinbounds) hentries
    · obtain ⟨_, -, husable⟩ := exists_right_of_forall₂ hboth hinbound
      exact husable route hroute
    · rintro inbound rendered hrendered ⟨routes, hget, hentries⟩
      obtain ⟨routes', hroutes, hget'⟩ := inbound_routes hrendered
      rw [hget'] at hget
      cases hget
      exact (inboundRoutes_iff hroutes).1 hentries
  · obtain ⟨server, -, hserver⟩ := hserver inbound hinbound route hroute hwants
    exact usableAddress_of_server hserver

theorem routesKept_of_usable (h : renderKeliCoreRsConfig fromStr allowList plan true = .ok config)
    (husable : ∀ inbound ∈ plan.inbounds, ∀ route ∈ inbound.routes,
      (wantsOutbound route = true → UsableOutbound fromStr route) ∧ (wantsDns route = true → UsableAddress route)) :
    RoutesKept fromStr plan config := by
  obtain ⟨-, dns, inbounds, -, hdns, hinbounds, -, hgetDns, hgetInbounds⟩ := config_members h
  obtain ⟨servers, hservers, hgetServers⟩ := get_servers hdns
  refine ⟨⟨inbounds, hgetInbounds, ?_⟩, configuredServers plan ++ servers.flatten, ?_, ?_⟩
  · refine ((List.forall₂_and_left _ _).2 ⟨husable, forall₂_of_mapM_ok hinbounds⟩).imp ?_
    rintro inbound rendered ⟨husable, hrendered⟩
    obtain ⟨routes, hroutes, hget⟩ := inbound_routes hrendered
    exact ⟨routes, hget, (inboundRoutes_iff hroutes).2 fun route hroute => (husable route hroute).1⟩
  · rw [hgetDns]
    exact hgetServers
  · intro inbound hinbound route hroute hwants
    obtain ⟨ofInbound, hofInbound, hrenders⟩ := exists_right_of_forall₂ (forall₂_of_mapM_ok hservers) hinbound
    obtain ⟨server, hserver, hof⟩ := serverOf_of_address hrenders hroute hwants
      ((husable inbound hinbound route hroute).2 hwants)
    exact ⟨server, List.mem_append_right _ (List.mem_flatten.2 ⟨ofInbound, hofInbound, hserver⟩), hof⟩

/-- **Dropped routes**, for every plan that renders: every route is there with its targets and what it does to them,
exactly if every route to an outbound has a usable outbound in its `action_value` and every `dns` route for some
domains an address. -/
theorem routesKept_iff (h : renderKeliCoreRsConfig fromStr allowList plan true = .ok config) :
    RoutesKept fromStr plan config ↔ ∀ inbound ∈ plan.inbounds, ∀ route ∈ inbound.routes,
      (wantsOutbound route = true → UsableOutbound fromStr route) ∧ (wantsDns route = true → UsableAddress route) :=
  ⟨fun hkept _ hinbound _ hroute => usable_of_routesKept h hkept hinbound hroute, routesKept_of_usable h⟩

end

/-- A plain SOCKS inbound. -/
def socksInbound (tag : Text) (port : Nat) (routes : List RoutePlan) : InboundPlan :=
  { (default : InboundPlan) with
    tag, protocol := "socks", listen := "0.0.0.0", port, security := "none", networkSettings := .null, routes }

/-- One SOCKS node with one route. -/
def oneRoutePlan (route : RoutePlan) : CorePlan where
  configPath := "/etc/keli/config.json"
  listenTags := ["node"]
  inbounds := [socksInbound "node" 1080 [route]]

/-- A route to a proxy is there. -/
theorem routesKept_iff_proxy : ∃ config, renderKeliCoreRsConfig Json.parse none (oneRoutePlan
      ⟨1, "route", ["domain:example.com"], some "\x7b\"tag\":\"proxy\",\"protocol\":\"socks\"\x7d".toList⟩) true = .ok config ∧
    RoutesKept Json.parse (oneRoutePlan
      ⟨1, "route", ["domain:example.com"], some "\x7b\"tag\":\"proxy\",\"protocol\":\"socks\"\x7d".toList⟩) config := by
  obtain ⟨config, hconfig⟩ := exists_ok (x := renderKeliCoreRsConfig Json.parse none (oneRoutePlan
    ⟨1, "route", ["domain:example.com"], some "\x7b\"tag\":\"proxy\",\"protocol\":\"socks\"\x7d".toList⟩) true)
    (by decide +kernel)
  refine ⟨config, hconfig, (routesKept_iff hconfig).2 ?_⟩
  intro inbound hinbound route hroute
  rcases List.mem_singleton.1 hinbound with rfl
  rcases List.mem_singleton.1 hroute with rfl
  exact ⟨fun _ => usableOutbound_iff.1 (by decide +kernel), fun hdns => absurd hdns (by decide)⟩

/-- A route without `action_value` vanishes: the plan renders, and the inbound has no entry for it. -/
theorem route_without_actionValue_dropped :
    ∃ config, renderKeliCoreRsConfig Json.parse none
        (oneRoutePlan ⟨1, "route", ["domain:example.com"], none⟩) true = .ok config ∧
      ¬RoutesKept Json.parse (oneRoutePlan ⟨1, "route", ["domain:example.com"], none⟩) config := by
  obtain ⟨config, hconfig⟩ := exists_ok (x := renderKeliCoreRsConfig Json.parse none
    (oneRoutePlan ⟨1, "route", ["domain:example.com"], none⟩) true) (by decide +kernel)
  refine ⟨config, hconfig, fun hkept => ?_⟩
  obtain ⟨raw, _, _, hraw, _⟩ := (usable_of_routesKept hconfig hkept List.mem_cons_self List.mem_cons_self).1 (by decide)
  cases hraw

end KeliNode
