import KeliNode.Core.RoutesKept
import Mathlib.Data.List.Nodup

/-!
# Tags of outbounds

The outbounds of all routes are collected into one list, where the first outbound with a tag stands for all of them
(`push_keli_core_rs_outbound_once`, `core.rs:673`), behind the built-in `direct`.  A rendered route names the tag and
carries its own outbound.  The two agree exactly where no route's outbound is tagged `direct` and outbounds with
one tag have one set of settings (`outboundsResolve_iff`).
-/

namespace KeliNode

open Lib Lib.Json

/-! ## What is asked of a rendered configuration -/

/-- The tag of an entry of the outbound list. -/
def tagOf (item : Value) : Option Text := (item.get "tag").bind asStr

/-- The outbound tag a rendered route names. -/
def outboundTag (entry : Value) : Option Text := ((entry.get "action").bind (get "outbound")).bind asStr

/-- Tags name one outbound each, and a route's tag names the outbound the route carries. -/
structure OutboundsResolve (config : Value) : Prop where
  resolves : ∃ outbounds inbounds, config.get "outbounds" = some (.array outbounds) ∧
    config.get "inbounds" = some (.array inbounds) ∧ (outbounds.map tagOf).Nodup ∧
    ∀ rendered ∈ inbounds, ∀ routes, rendered.get "routes" = some (.array routes) → ∀ entry ∈ routes, ∀ tag,
      outboundTag entry = some tag → ∃ item ∈ outbounds, tagOf item = some tag ∧ entry.get "outbound" = some item

/-! ## Settings -/

theorem ofOptionText_inj {a b : Option Text} (h : ofOptionText a = ofOptionText b) : a = b := by
  cases a <;> cases b <;> simp_all [ofOptionText]

theorem ofOptionNat_inj {a b : Option Nat} (h : ofOptionNat a = ofOptionNat b) : a = b := by
  cases a <;> cases b <;> simp_all [ofOptionNat]

theorem getD_null_inj {a b : Option Value} (ha : a ≠ some .null) (hb : b ≠ some .null)
    (h : a.getD .null = b.getD .null) : a = b := by
  cases a <;> cases b <;> simp_all

theorem ofFields_ne_null (fields : List (Text × Value)) : some (ofFields fields) ≠ some .null := by simp [ofFields]

theorem renderOutboundTransport_ne_null (network : Text) (settings : Value) :
    renderOutboundTransport network settings ≠ some .null := by
  unfold renderOutboundTransport
  dsimp only
  split
  · exact nofun
  · exact ofFields_ne_null _

theorem streamParts_ne_null (outbound : Value) :
    (streamParts outbound).1 ≠ some .null ∧ (streamParts outbound).2 ≠ some .null := by
  unfold streamParts
  split
  · exact ⟨nofun, nofun⟩
  · refine ⟨?_, renderOutboundTransport_ne_null _ _⟩
    dsimp only
    split
    · exact ofFields_ne_null _
    · exact nofun

theorem settings_ne_null (outbound : Value) :
    (outboundSettings outbound).tls ≠ some .null ∧ (outboundSettings outbound).transport ≠ some .null := by
  unfold outboundSettings
  dsimp only
  split
  · exact streamParts_ne_null outbound
  · exact ⟨nofun, nofun⟩

/-- The members of a rendered outbound. -/
theorem get_renderSettings (tag : Text) (settings : OutboundSettings) :
    (renderSettings tag settings).get "tag" = some (.string tag) ∧
    (renderSettings tag settings).get "protocol" = some (.string settings.protocol) ∧
    (renderSettings tag settings).get "method" = some (ofOptionText settings.endpoint.method) ∧
    (renderSettings tag settings).get "alter_id" = some (ofOptionNat settings.endpoint.alterId) ∧
    (renderSettings tag settings).get "address" = some (ofOptionText settings.endpoint.address) ∧
    (renderSettings tag settings).get "port" = some (ofOptionNat settings.endpoint.port) ∧
    (renderSettings tag settings).get "username" = some (ofOptionText settings.endpoint.username) ∧
    (renderSettings tag settings).get "password" = some (ofOptionText settings.endpoint.password) ∧
    (renderSettings tag settings).get "tls" = some (settings.tls.getD .null) ∧
    (renderSettings tag settings).get "transport" = some (settings.transport.getD .null) := by
  have hkeys : (["tag", "protocol", "method", "alter_id", "address", "port", "username", "password", "tls",
      "transport"].map String.toList).Nodup := by decide
  exact ⟨get_ofFields_at _ hkeys rfl 0 rfl, get_ofFields_at _ hkeys rfl 1 rfl, get_ofFields_at _ hkeys rfl 2 rfl,
    get_ofFields_at _ hkeys rfl 3 rfl, get_ofFields_at _ hkeys rfl 4 rfl, get_ofFields_at _ hkeys rfl 5 rfl,
    get_ofFields_at _ hkeys rfl 6 rfl, get_ofFields_at _ hkeys rfl 7 rfl, get_ofFields_at _ hkeys rfl 8 rfl,
    get_ofFields_at _ hkeys rfl 9 rfl⟩

/-- Different settings are rendered differently. -/
theorem renderSettings_inj {tag tag' : Text} {a b : Value}
    (h : renderSettings tag (outboundSettings a) = renderSettings tag' (outboundSettings b)) :
    outboundSettings a = outboundSettings b := by
  obtain ⟨-, hprotocol, hmethod, halter, haddress, hport, husername, hpassword, htls, htransport⟩ :=
    get_renderSettings tag (outboundSettings a)
  obtain ⟨-, hprotocol', hmethod', halter', haddress', hport', husername', hpassword', htls', htransport'⟩ :=
    get_renderSettings tag' (outboundSettings b)
  rw [h] at hprotocol hmethod halter haddress hport husername hpassword htls htransport
  obtain ⟨hna, hna'⟩ := settings_ne_null a
  obtain ⟨hnb, hnb'⟩ := settings_ne_null b
  generalize outboundSettings a = sa at *
  generalize outboundSettings b = sb at *
  obtain ⟨protocol, ⟨address, port, username, password, method, alterId⟩, tls, transport⟩ := sa
  obtain ⟨protocol', ⟨address', port', username', password', method', alterId'⟩, tls', transport'⟩ := sb
  have hp : protocol' = protocol := by simpa using hprotocol'.symm.trans hprotocol
  have hm := ofOptionText_inj (Option.some.inj (hmethod'.symm.trans hmethod))
  have hid := ofOptionNat_inj (Option.some.inj (halter'.symm.trans halter))
  have haddr := ofOptionText_inj (Option.some.inj (haddress'.symm.trans haddress))
  have hprt := ofOptionNat_inj (Option.some.inj (hport'.symm.trans hport))
  have huser := ofOptionText_inj (Option.some.inj (husername'.symm.trans husername))
  have hpass := ofOptionText_inj (Option.some.inj (hpassword'.symm.trans hpassword))
  have ht := getD_null_inj hnb hna (Option.some.inj (htls'.symm.trans htls))
  have htr := getD_null_inj hnb' hna' (Option.some.inj (htransport'.symm.trans htransport))
  dsimp only at hm hid haddr hprt huser hpass ht htr
  subst hp hm hid haddr hprt huser hpass ht htr
  rfl

theorem tagOf_renderSettings (tag : Text) (settings : OutboundSettings) :
    tagOf (renderSettings tag settings) = some tag := by
  rw [tagOf, (get_renderSettings tag settings).1]
  rfl

theorem tagOf_direct : tagOf directOutbound = some "direct".toList := by
  rw [tagOf, directOutbound, get_ofFields_at ["tag", "protocol", "address", "port"] (by decide) rfl 0 rfl]
  rfl

/-- The built-in outbound has fewer members than any rendered one. -/
theorem renderSettings_ne_direct (tag : Text) (settings : OutboundSettings) :
    renderSettings tag settings ≠ directOutbound := by
  intro h
  have hmethod := (get_renderSettings tag settings).2.2.1
  have hnone : directOutbound.get "method" = none := by
    rw [directOutbound, get_ofFields, lastWith_eq_none.2 (by decide)]
    rfl
  rw [h, hnone] at hmethod
  cases hmethod

/-! ## The list -/

section

variable {outbounds : List Value} {tag : Text} {outbound item : Value}

theorem nodup_push (h : (outbounds.map tagOf).Nodup) (htag : tagOf outbound = some tag) :
    ((pushKeliCoreRsOutboundOnce outbounds tag outbound).map tagOf).Nodup := by
  unfold pushKeliCoreRsOutboundOnce
  split
  · exact h
  · rename_i hnew
    rw [List.map_append, List.map_singleton, htag]
    refine List.nodup_append.2 ⟨h, by simp, ?_⟩
    intro found hfound new hnew' heq
    rcases List.mem_singleton.1 hnew' with rfl
    obtain ⟨item, hitem, rfl⟩ := List.mem_map.1 hfound
    exact hnew (List.any_eq_true.2 ⟨item, hitem, by simpa [tagOf] using heq⟩)

theorem mem_push (h : item ∈ pushKeliCoreRsOutboundOnce outbounds tag outbound) : item ∈ outbounds ∨ item = outbound := by
  unfold pushKeliCoreRsOutboundOnce at h
  split at h
  · exact .inl h
  · rcases List.mem_append.1 h with h | h
    · exact .inl h
    · exact .inr (List.mem_singleton.1 h)

theorem subset_push : outbounds ⊆ pushKeliCoreRsOutboundOnce outbounds tag outbound := by
  unfold pushKeliCoreRsOutboundOnce
  split
  · exact List.Subset.refl _
  · exact List.subset_append_left _ _

theorem tag_mem_push (htag : tagOf outbound = some tag) :
    some tag ∈ (pushKeliCoreRsOutboundOnce outbounds tag outbound).map tagOf := by
  unfold pushKeliCoreRsOutboundOnce
  split
  · rename_i hany
    obtain ⟨item, hitem, htagged⟩ := List.any_eq_true.1 hany
    exact List.mem_map.2 ⟨item, hitem, by simpa [tagOf] using htagged⟩
  · exact List.mem_map.2 ⟨outbound, List.mem_append_right _ List.mem_cons_self, htag⟩

end

section

variable (fromStr : Text → Option Value) (plan : CorePlan)

/-- A route of the plan goes to this outbound. -/
def OutboundRoute (tag : Text) (outbound : Value) : Prop :=
  ∃ inbound ∈ plan.inbounds, ∃ route ∈ inbound.routes, wantsOutbound route = true ∧
    keliCoreRsRouteOutboundIsBlackhole fromStr route = false ∧ parseRouteOutbound fromStr route = some (tag, outbound)

/-- No outbound of a route is tagged as the built-in one, and outbounds with one tag have the same settings. -/
def TagsClear : Prop :=
  ∀ tag outbound, OutboundRoute fromStr plan tag outbound → tag ≠ "direct" ∧
    ∀ outbound', OutboundRoute fromStr plan tag outbound' → outboundSettings outbound = outboundSettings outbound'

/-- What holds of the list while it is collected. -/
structure Collected (outbounds : List Value) : Prop where
  nodup : (outbounds.map tagOf).Nodup
  direct : directOutbound ∈ outbounds
  origin : ∀ item ∈ outbounds, item = directOutbound ∨ ∃ tag outbound, OutboundRoute fromStr plan tag outbound ∧
    item = renderSettings tag (outboundSettings outbound)

variable {fromStr plan} {allowList : Option Text} {outbounds : List Value}

theorem collected_step {inbound : InboundPlan} (hinbound : inbound ∈ plan.inbounds) {route : RoutePlan}
    (hroute : route ∈ inbound.routes) {outbounds' : List Value} (hcollected : Collected fromStr plan outbounds)
    (h : collectRouteOutbound fromStr inbound outbounds route = .ok outbounds') : Collected fromStr plan outbounds' := by
  cases collectRoute_cases h with
  | kept => exact hcollected
  | pushed hwants hblock tag rendered hrender =>
    obtain ⟨outbound, hparse, rfl⟩ := routeOutbound_some hrender
    refine ⟨nodup_push hcollected.nodup (tagOf_renderSettings _ _), subset_push hcollected.direct, ?_⟩
    intro item hitem
    rcases mem_push hitem with hitem | rfl
    · exact hcollected.origin item hitem
    · exact .inr ⟨tag, outbound, ⟨inbound, hinbound, route, hroute, hwants, hblock, hparse⟩, rfl⟩

theorem collected (h : collectOutbounds fromStr allowList plan = .ok outbounds) : Collected fromStr plan outbounds := by
  refine foldlM_invariant (Collected fromStr plan) ?_ ?_ h
  · intro outbounds hcollected inbound hinbound outbounds' hstep
    obtain ⟨-, -, hcollect⟩ := bind_eq_ok.1 hstep
    refine foldlM_invariant (Collected fromStr plan) ?_ hcollected hcollect
    exact fun outbounds hcollected route hroute outbounds' hstep => collected_step hinbound hroute hcollected hstep
  · refine ⟨by simp, List.mem_cons_self, fun item hitem => ?_⟩
    exact .inl (List.mem_singleton.1 hitem)

theorem tags_subset_step {inbound : InboundPlan} {route : RoutePlan} {outbounds' : List Value} {tag : Option Text}
    (hmem : tag ∈ outbounds.map tagOf) (h : collectRouteOutbound fromStr inbound outbounds route = .ok outbounds') :
    tag ∈ outbounds'.map tagOf := by
  cases collectRoute_cases h with
  | kept => exact hmem
  | pushed hwants hblock tag rendered hrender =>
    obtain ⟨item, hitem, rfl⟩ := List.mem_map.1 hmem
    exact List.mem_map.2 ⟨item, subset_push hitem, rfl⟩

/-- The tag of every route's outbound is in the list. -/
theorem tag_collected (h : collectOutbounds fromStr allowList plan = .ok outbounds) {tag : Text} {outbound : Value}
    (hroute : OutboundRoute fromStr plan tag outbound) : some tag ∈ outbounds.map tagOf := by
  obtain ⟨inbound, hinbound, route, hroute, hwants, hblock, hparse⟩ := hroute
  refine foldlM_establish (fun outbounds => some tag ∈ outbounds.map tagOf) hinbound ?_ ?_ h
  · intro outbounds outbounds' hstep
    obtain ⟨-, -, hcollect⟩ := bind_eq_ok.1 hstep
    refine foldlM_establish (fun outbounds => some tag ∈ outbounds.map tagOf) hroute ?_ ?_ hcollect
    · intro outbounds outbounds' hstep
      cases collectRoute_cases hstep with
      | kept hkept =>
        rw [hkept hwants hblock] at hparse
        cases hparse
      | pushed _ _ tag' rendered hrender =>
        obtain ⟨outbound', hparse', rfl⟩ := routeOutbound_some hrender
        rw [hparse] at hparse'
        cases hparse'
        exact tag_mem_push (tagOf_renderSettings _ _)
    · exact fun outbounds hmem route _ outbounds' hstep => tags_subset_step hmem hstep
  · intro outbounds hmem inbound _ outbounds' hstep
    obtain ⟨-, -, hcollect⟩ := bind_eq_ok.1 hstep
    refine foldlM_invariant (fun outbounds => some tag ∈ outbounds.map tagOf) ?_ hmem hcollect
    exact fun outbounds hmem route _ outbounds' hstep => tags_subset_step hmem hstep

/-! ## Rendered routes -/

theorem outboundTag_block (targets : List Text) : outboundTag (blockEntry targets) = none := by
  rw [outboundTag, blockEntry, get_ofFields_at ["targets", "action"] (by decide) rfl 1 rfl]
  rfl

theorem outboundTag_outbound (targets : List Text) (tag : Text) (outbound : Value) :
    outboundTag (outboundEntry targets tag outbound) = some tag ∧
      (outboundEntry targets tag outbound).get "outbound" = some outbound := by
  have hkeys : (["targets", "action", "outbound"].map String.toList).Nodup := by decide
  refine ⟨?_, get_ofFields_at _ hkeys rfl 2 rfl⟩
  rw [outboundTag, outboundEntry, get_ofFields_at _ hkeys rfl 1 rfl, Option.bind_some,
    get_ofFields_at ["outbound"] (by decide) rfl 0 rfl]
  rfl

variable {inbound : InboundPlan} {routes : List Value}

/-- An entry that names a tag carries the outbound of a route with that tag. -/
theorem entry_origin (hinbound : inbound ∈ plan.inbounds)
    (h : renderKeliCoreRsRoutesForInbound fromStr inbound = .ok routes) {entry : Value} (hentry : entry ∈ routes)
    {tag : Text} (htag : outboundTag entry = some tag) :
    ∃ outbound, OutboundRoute fromStr plan tag outbound ∧
      entry.get "outbound" = some (renderSettings tag (outboundSettings outbound)) := by
  obtain ⟨found, hfound, h⟩ := bind_eq_ok.1 h
  cases h
  obtain ⟨option, hoption, heq⟩ := List.mem_filterMap.1 hentry
  obtain ⟨route, hroute, hstep⟩ := exists_of_forall₂ (forall₂_of_mapM_ok hfound) hoption
  cases heq
  cases renderRoute_cases hstep with
  | block hwants hblock targets htargets =>
    rw [outboundTag_block] at htag
    cases htag
  | outbound hwants hblock tag' rendered hrender targets htargets =>
    obtain ⟨hnamed, hcarried⟩ := outboundTag_outbound targets tag' rendered
    rw [hnamed] at htag
    cases htag
    obtain ⟨outbound, hparse, rfl⟩ := routeOutbound_some hrender
    exact ⟨outbound, ⟨inbound, hinbound, route, hroute, hwants, hblock, hparse⟩, hcarried⟩

/-- A route to an outbound has an entry that names its tag and carries it. -/
theorem entry_of_route (h : renderKeliCoreRsRoutesForInbound fromStr inbound = .ok routes) {route : RoutePlan}
    (hroute : route ∈ inbound.routes) (hwants : wantsOutbound route = true)
    (hblock : keliCoreRsRouteOutboundIsBlackhole fromStr route = false) {tag : Text} {outbound : Value}
    (hparse : parseRouteOutbound fromStr route = some (tag, outbound)) :
    ∃ entry ∈ routes, outboundTag entry = some tag ∧
      entry.get "outbound" = some (renderSettings tag (outboundSettings outbound)) := by
  obtain ⟨found, hfound, h⟩ := bind_eq_ok.1 h
  cases h
  obtain ⟨entry, hentry, hstep⟩ := exists_right_of_forall₂ (forall₂_of_mapM_ok hfound) hroute
  cases renderRoute_cases hstep with
  | skipped hskip =>
    rw [wantsEntry_of_outbound hwants] at hskip
    cases hskip
  | block _ hblock' =>
    rw [hblock' hwants] at hblock
    cases hblock
  | outbound _ _ tag' rendered hrender targets htargets =>
    obtain ⟨outbound', hparse', rfl⟩ := routeOutbound_some hrender
    rw [hparse] at hparse'
    cases hparse'
    exact ⟨_, List.mem_filterMap.2 ⟨_, hentry, rfl⟩, outboundTag_outbound _ _ _⟩
  | lost _ hlost =>
    rw [hparse] at hlost
    cases hlost

/-! ## The configuration -/

variable {includeUsers : Bool} {config : Value}

/-- A route's outbound in a configuration whose tags resolve: the entry with its tag is the outbound itself. -/
theorem item_of_resolves (h : renderKeliCoreRsConfig fromStr allowList plan includeUsers = .ok config)
    (hresolves : OutboundsResolve config) :
    ∃ outbounds, Collected fromStr plan outbounds ∧ ∀ tag outbound, OutboundRoute fromStr plan tag outbound →
      renderSettings tag (outboundSettings outbound) ∈ outbounds := by
  obtain ⟨outbounds, -, inbounds, houtbounds, -, hinbounds, hgetOutbounds, -, hgetInbounds⟩ := config_members h
  obtain ⟨outbounds', inbounds', hget, hget', hnodup, hentries⟩ := hresolves.resolves
  rw [hgetOutbounds] at hget
  rw [hgetInbounds] at hget'
  cases hget
  cases hget'
  refine ⟨outbounds, collected houtbounds, ?_⟩
  rintro tag outbound ⟨inbound, hinbound, route, hroute, hwants, hblock, hparse⟩
  obtain ⟨rendered, hrendered, hrenders⟩ := exists_right_of_forall₂ (forall₂_of_mapM_ok hinbounds) hinbound
  obtain ⟨routes, hroutes, hgetRoutes⟩ := inbound_routes hrenders
  obtain ⟨entry, hentry, hnamed, hcarried⟩ := entry_of_route hroutes hroute hwants hblock hparse
  obtain ⟨item, hitem, -, hinline⟩ := hentries rendered hrendered routes hgetRoutes entry hentry tag hnamed
  rw [hcarried] at hinline
  cases hinline
  exact hitem

/-- Two entries of the list with one tag are one entry. -/
theorem Collected.eq_of_tag (h : Collected fromStr plan outbounds) {a b : Value} (ha : a ∈ outbounds) (hb : b ∈ outbounds)
    (htag : tagOf a = tagOf b) : a = b :=
  List.inj_on_of_nodup_map h.nodup ha hb htag

theorem tagsClear_of_resolves (h : renderKeliCoreRsConfig fromStr allowList plan includeUsers = .ok config)
    (hresolves : OutboundsResolve config) : TagsClear fromStr plan := by
  obtain ⟨outbounds, hcollected, hitems⟩ := item_of_resolves h hresolves
  intro tag outbound hroute
  have hitem := hitems tag outbound hroute
  refine ⟨?_, fun outbound' hroute' => ?_⟩
  · rintro rfl
    refine renderSettings_ne_direct _ _ (hcollected.eq_of_tag hitem hcollected.direct ?_)
    rw [tagOf_renderSettings, tagOf_direct]
  · have hitem' := hitems tag outbound' hroute'
    refine renderSettings_inj (hcollected.eq_of_tag hitem hitem' ?_)
    rw [tagOf_renderSettings, tagOf_renderSettings]

theorem resolves_of_tagsClear (h : renderKeliCoreRsConfig fromStr allowList plan includeUsers = .ok config)
    (hclear : TagsClear fromStr plan) : OutboundsResolve config := by
  obtain ⟨outbounds, -, inbounds, houtbounds, -, hinbounds, hgetOutbounds, -, hgetInbounds⟩ := config_members h
  have hcollected := collected houtbounds
  refine ⟨outbounds, inbounds, hgetOutbounds, hgetInbounds, hcollected.nodup, ?_⟩
  intro rendered hrendered routes hgetRoutes entry hentry tag hnamed
  obtain ⟨inbound, hinbound, hrenders⟩ := exists_of_forall₂ (forall₂_of_mapM_ok hinbounds) hrendered
  obtain ⟨routes', hroutes, hgetRoutes'⟩ := inbound_routes hrenders
  rw [hgetRoutes'] at hgetRoutes
  cases hgetRoutes
  obtain ⟨outbound, hroute, hcarried⟩ := entry_origin hinbound hroutes hentry hnamed
  obtain ⟨item, hitem, htagged⟩ := List.mem_map.1 (tag_collected houtbounds hroute)
  obtain ⟨hdirect, hsame⟩ := hclear tag outbound hroute
  refine ⟨item, hitem, htagged, ?_⟩
  rcases hcollected.origin item hitem with rfl | ⟨tag', outbound', hroute', rfl⟩
  · rw [tagOf_direct] at htagged
    exact absurd (Option.some.inj htagged).symm hdirect
  · rw [tagOf_renderSettings] at htagged
    cases htagged
    rw [hcarried, hsame outbound' hroute']

/-- **Outbound tags**, for every plan that renders: tags resolve to the outbound of each route exactly if no route's
outbound is tagged `direct` and routes with one tag have one set of settings. -/
theorem outboundsResolve_iff (h : renderKeliCoreRsConfig fromStr allowList plan includeUsers = .ok config) :
    OutboundsResolve config ↔ TagsClear fromStr plan :=
  ⟨tagsClear_of_resolves h, resolves_of_tagsClear h⟩

end

/-- A default route to a SOCKS proxy at an address. -/
def proxyRoute (address : String) : RoutePlan :=
  ⟨1, "default_out", [],
    some ("\x7b\"tag\":\"proxy\",\"protocol\":\"socks\",\"port\":1080,\"address\":\"".toList ++ address.toList ++ "\"\x7d".toList)⟩

/-- Two SOCKS nodes, each with a default route. -/
def twoNodePlan (first second : RoutePlan) : CorePlan where
  configPath := "/etc/keli/config.json"
  listenTags := ["first", "second"]
  inbounds := [socksInbound "first" 1081 [first], socksInbound "second" 1082 [second]]

theorem outboundRoute_twoNodePlan {first second : RoutePlan} {tag : Text} {outbound : Value}
    (hroutes : ∀ route ∈ [first, second], wantsOutbound route = true ∧
      keliCoreRsRouteOutboundIsBlackhole Json.parse route = false) :
    OutboundRoute Json.parse (twoNodePlan first second) tag outbound ↔
      parseRouteOutbound Json.parse first = some (tag, outbound) ∨
        parseRouteOutbound Json.parse second = some (tag, outbound) := by
  constructor
  · rintro ⟨inbound, hinbound, route, hroute, -, -, hparse⟩
    rcases List.mem_pair.1 hinbound with rfl | rfl
    · rcases List.mem_singleton.1 hroute with rfl
      exact .inl hparse
    · rcases List.mem_singleton.1 hroute with rfl
      exact .inr hparse
  · have hfirst := hroutes first (List.mem_pair.2 (.inl rfl))
    have hsecond := hroutes second (List.mem_pair.2 (.inr rfl))
    rintro (hparse | hparse)
    · exact ⟨socksInbound "first" 1081 [first], List.mem_pair.2 (.inl rfl), first, List.mem_cons_self, hfirst.1, hfirst.2,
        hparse⟩
    · exact ⟨socksInbound "second" 1082 [second], List.mem_pair.2 (.inr rfl), second, List.mem_cons_self, hsecond.1,
        hsecond.2, hparse⟩

/-- What the route to a proxy is parsed to. -/
theorem parse_proxyRoute : ∀ address ∈ ["192.0.2.1", "192.0.2.2"], wantsOutbound (proxyRoute address) = true ∧
    keliCoreRsRouteOutboundIsBlackhole Json.parse (proxyRoute address) = false ∧
    ((parseRouteOutbound Json.parse (proxyRoute address)).map fun (tag, outbound) =>
      (tag, (outboundSettings outbound).endpoint.address)) = some ("proxy".toList, some address.toList) := by
  decide +kernel

theorem proxyRoutes (address address' : String) (haddress : address ∈ ["192.0.2.1", "192.0.2.2"])
    (haddress' : address' ∈ ["192.0.2.1", "192.0.2.2"]) : ∀ route ∈ [proxyRoute address, proxyRoute address'],
      wantsOutbound route = true ∧ keliCoreRsRouteOutboundIsBlackhole Json.parse route = false := by
  intro route hroute
  rcases List.mem_pair.1 hroute with rfl | rfl
  · exact ⟨(parse_proxyRoute address haddress).1, (parse_proxyRoute address haddress).2.1⟩
  · exact ⟨(parse_proxyRoute address' haddress').1, (parse_proxyRoute address' haddress').2.1⟩

/-- Two nodes that go to one proxy share its entry. -/
theorem outboundsResolve_iff_shared :
    ∃ config, renderKeliCoreRsConfig Json.parse none (twoNodePlan (proxyRoute "192.0.2.1") (proxyRoute "192.0.2.1"))
      true = .ok config ∧ OutboundsResolve config := by
  obtain ⟨config, hconfig⟩ := exists_ok (x := renderKeliCoreRsConfig Json.parse none
    (twoNodePlan (proxyRoute "192.0.2.1") (proxyRoute "192.0.2.1")) true) (by decide +kernel)
  refine ⟨config, hconfig, (outboundsResolve_iff hconfig).2 fun tag outbound hroute => ?_⟩
  have hroutes := proxyRoutes "192.0.2.1" "192.0.2.1" (by simp) (by simp)
  have hparse := or_self_iff.1 ((outboundRoute_twoNodePlan hroutes).1 hroute)
  obtain ⟨-, -, htag⟩ := parse_proxyRoute "192.0.2.1" (by simp)
  rw [hparse] at htag
  refine ⟨?_, fun outbound' hroute' => ?_⟩
  · rintro rfl
    exact absurd (Prod.mk.inj (Option.some.inj htag)).1 (by decide)
  · have hparse' := or_self_iff.1 ((outboundRoute_twoNodePlan hroutes).1 hroute')
    rw [hparse] at hparse'
    rw [(Prod.mk.inj (Option.some.inj hparse')).2]

/-- Two nodes whose proxies have one tag and different addresses: the plan renders, and both tags name the first. -/
theorem outbounds_of_two_nodes_clash :
    ∃ config, renderKeliCoreRsConfig Json.parse none (twoNodePlan (proxyRoute "192.0.2.1") (proxyRoute "192.0.2.2"))
      true = .ok config ∧ ¬OutboundsResolve config := by
  obtain ⟨config, hconfig⟩ := exists_ok (x := renderKeliCoreRsConfig Json.parse none
    (twoNodePlan (proxyRoute "192.0.2.1") (proxyRoute "192.0.2.2")) true) (by decide +kernel)
  refine ⟨config, hconfig, fun hresolves => ?_⟩
  have hroutes := proxyRoutes "192.0.2.1" "192.0.2.2" (by simp) (by simp)
  obtain ⟨-, -, hfirst⟩ := parse_proxyRoute "192.0.2.1" (by simp)
  obtain ⟨-, -, hsecond⟩ := parse_proxyRoute "192.0.2.2" (by simp)
  obtain ⟨⟨tag, outbound⟩, hparse, hfirst⟩ := Option.map_eq_some_iff.1 hfirst
  obtain ⟨⟨tag', outbound'⟩, hparse', hsecond⟩ := Option.map_eq_some_iff.1 hsecond
  obtain ⟨rfl, haddress⟩ := Prod.mk.inj hfirst
  obtain ⟨rfl, haddress'⟩ := Prod.mk.inj hsecond
  have hclear := tagsClear_of_resolves hconfig hresolves
  have hsame := (hclear _ outbound ((outboundRoute_twoNodePlan hroutes).2 (.inl hparse))).2 outbound'
    ((outboundRoute_twoNodePlan hroutes).2 (.inr hparse'))
  rw [hsame, haddress'] at haddress
  exact absurd haddress (by decide)

end KeliNode
