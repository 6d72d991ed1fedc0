import KeliNode.Core.RouteSteps

/-!
# The renderers agree

The two renderers take the same fallible steps in the same order, and what the second writes denotes what the
first builds, member by member (`renderers_agree`).  The values that are printed whole (the policy, the DNS part,
transports, routes, outbounds) hold nothing of the panel's JSON but its strings and numbers, so printing and
parsing them gives them back.
-/

namespace KeliNode

open Lib Lib.Json

/-! ## Values that are printed whole -/

theorem canonical_ite {c : Prop} [Decidable c] {a b : Value} (ha : Canonical a) (hb : Canonical b) :
    Canonical (if c then a else b) := by
  split
  · exact ha
  · exact hb

theorem canonical_getD {value : Option Value} (h : ∀ v, value = some v → Canonical v) : Canonical (value.getD .null) := by
  cases value with
  | none => exact .null
  | some v => exact h v rfl

theorem canonical_ofOptionText (text : Option Text) : Canonical (ofOptionText text) := by
  cases text with
  | none => exact .null
  | some text => exact .string text

theorem canonical_ofOptionNat (n : Option Nat) : Canonical (ofOptionNat n) := by
  cases n with
  | none => exact .null
  | some n => exact .posInt n

theorem canonical_ofTexts (texts : List Text) : Canonical (ofTexts texts) := by
  refine .array fun item hitem => ?_
  obtain ⟨text, -, rfl⟩ := List.mem_map.1 hitem
  exact .string text

/-- An object of canonical members, given as a list of members. -/
theorem canonical_object {fields : List (Text × Value)} (h : fields.Forall fun field => Canonical field.2) :
    Canonical (ofFields fields) :=
  canonical_ofFields (List.forall_iff_forall_mem.1 h)

theorem canonical_policy : Canonical renderKeliCoreRsPolicy :=
  canonical_object ⟨.posInt _, .posInt _, .posInt _, .posInt _, .posInt _, .posInt _, .posInt _⟩

theorem canonical_sniffing : Canonical sniffingValue := canonical_object ⟨.bool _, canonical_ofTexts _⟩

theorem canonical_stats : Canonical statsValue := canonical_object ⟨.bool _, .bool _⟩

theorem canonical_directOutbound : Canonical directOutbound :=
  canonical_object ⟨.string _, .string _, .null, .null⟩

theorem canonical_cipher (inbound : InboundPlan) : Canonical (cipherValue inbound) := canonical_ite (.string _) .null

theorem canonical_tls (inbound : InboundPlan) : Canonical (renderKeliCoreRsTls inbound) := by
  refine canonical_ite .null (canonical_object ?_)
  exact ⟨.string _, canonical_ite (.string _) .null, canonical_ite (.string _) .null, canonical_ofTexts _, .bool _,
    canonical_ite (canonical_object ⟨.string _, .null, .string _, .string _, .posInt _, canonical_ite .null (.string _)⟩)
      .null⟩

theorem canonical_fieldIf {present : Bool} {key : String} {value : Value} (h : Canonical value) :
    ∀ field ∈ fieldIf present key value, Canonical field.2 := by
  intro field hfield
  cases present with
  | false => cases hfield
  | true =>
    rcases List.mem_singleton.1 hfield with rfl
    exact h

theorem canonical_transport (inbound : InboundPlan) : Canonical (renderKeliCoreRsTransport inbound) := by
  refine canonical_ofFields ?_
  simp only [List.forall_mem_append]
  refine ⟨⟨⟨⟨⟨⟨?_, ?_⟩, ?_⟩, ?_⟩, ?_⟩, ?_⟩, ?_⟩
  · refine List.forall_iff_forall_mem.1 ⟨.string _, ?_, ?_, ?_, .bool _⟩
    · exact canonical_ite (canonical_ofOptionText _) .null
    · exact canonical_ite (canonical_ofOptionText _) .null
    · exact canonical_ite (.string _) .null
  · exact canonical_fieldIf (.bool _)
  · exact canonical_fieldIf (.posInt _)
  · exact canonical_fieldIf (.posInt _)
  · exact canonical_fieldIf (.string _)
  · exact canonical_fieldIf (.string _)
  · exact canonical_fieldIf (.string _)

/-! ## Outbounds -/

theorem canonical_xhttpHeaders (settings : Value) (path : Option Text) :
    Canonical (xhttpStreamOneHeaders settings path) := by
  refine canonical_ofFields fun field hfield => ?_
  rcases List.mem_append.1 hfield with hgiven | hadded
  · obtain ⟨⟨name, value⟩, -, hsome⟩ := List.mem_filterMap.1 hgiven
    dsimp only at hsome
    split at hsome
    · cases hsome
    · obtain ⟨text, -, rfl⟩ := Option.map_eq_some_iff.1 hsome
      exact .string _
  · rcases List.mem_cons.1 hadded with rfl | hgrpc
    · exact .string _
    · split at hgrpc
      · cases hgrpc
      · rcases List.mem_singleton.1 hgrpc with rfl
        exact .string _

theorem canonical_outboundTransport {network : Text} {settings transport : Value}
    (h : renderOutboundTransport network settings = some transport) : Canonical transport := by
  unfold renderOutboundTransport at h
  dsimp only at h
  split at h
  · cases h
  · cases h
    refine canonical_object ⟨.string _, canonical_ofOptionText _, canonical_ofOptionText _, canonical_ofOptionText _,
      canonical_ofOptionText _, ?_, canonical_ofOptionText _, canonical_ofOptionText _, canonical_ofOptionText _⟩
    exact canonical_ite (canonical_xhttpHeaders _ _) (canonical_object trivial)

theorem canonical_stream {inbound : InboundPlan} {tag : Text} {outbound : Value} {tls transport : Option Value}
    (h : keliCoreRsRouteOutboundStream inbound tag outbound = .ok (tls, transport)) :
    (∀ v, tls = some v → Canonical v) ∧ ∀ v, transport = some v → Canonical v := by
  unfold keliCoreRsRouteOutboundStream at h
  split at h
  · cases h
    exact ⟨(by intro v hv; cases hv), (by intro v hv; cases hv)⟩
  · obtain ⟨-, -, h⟩ := bind_eq_ok.1 h
    obtain ⟨-, -, h⟩ := bind_eq_ok.1 h
    cases h
    refine ⟨fun v hv => ?_, fun v hv => canonical_outboundTransport hv⟩
    split at hv
    · cases hv
      exact canonical_object ⟨canonical_ofOptionText _, .bool _, canonical_ofTexts _⟩
    · cases hv

theorem canonical_outbound {inbound : InboundPlan} {tag : Text} {outbound rendered : Value}
    (h : renderRouteOutbound inbound tag outbound = .ok rendered) : Canonical rendered := by
  unfold renderRouteOutbound at h
  obtain ⟨-, -, h⟩ := bind_eq_ok.1 h
  obtain ⟨⟨tls, transport⟩, hstream, h⟩ := bind_eq_ok.1 h
  obtain ⟨-, -, h⟩ := bind_eq_ok.1 h
  obtain ⟨-, -, h⟩ := bind_eq_ok.1 h
  cases h
  have hparts : (∀ v, tls = some v → Canonical v) ∧ ∀ v, transport = some v → Canonical v := by
    unfold streamOfProtocol at hstream
    split at hstream
    · exact canonical_stream hstream
    · cases hstream
      exact ⟨(by intro v hv; cases hv), (by intro v hv; cases hv)⟩
  exact canonical_object ⟨.string _, .string _, canonical_ofOptionText _, canonical_ofOptionNat _,
    canonical_ofOptionText _, canonical_ofOptionNat _, canonical_ofOptionText _, canonical_ofOptionText _,
    canonical_getD hparts.1, canonical_getD hparts.2⟩

section

variable {fromStr : Text → Option Value}

theorem canonical_routeOutbound {inbound : InboundPlan} {route : RoutePlan} {tag : Text} {outbound : Value}
    (h : keliCoreRsRouteOutbound fromStr inbound route = .ok (some (tag, outbound))) : Canonical outbound := by
  unfold keliCoreRsRouteOutbound at h
  split at h
  · cases h
  · obtain ⟨rendered, hrendered, heq⟩ := map_eq_ok.1 h
    cases heq
    exact canonical_outbound hrendered

/-! ## Routes, name servers and the outbound list -/

theorem canonical_blockEntry (targets : List Text) : Canonical (blockEntry targets) :=
  canonical_object ⟨canonical_ofTexts _, .string _⟩

theorem canonical_routes {inbound : InboundPlan} {routes : List Value}
    (h : renderKeliCoreRsRoutesForInbound fromStr inbound = .ok routes) : ∀ entry ∈ routes, Canonical entry := by
  intro entry hentry
  obtain ⟨entries, hentries, h⟩ := bind_eq_ok.1 h
  cases h
  obtain ⟨found, hfound, heq⟩ := List.mem_filterMap.1 hentry
  obtain ⟨route, -, hroute⟩ := exists_of_forall₂ (forall₂_of_mapM_ok hentries) hfound
  cases heq
  cases renderRoute_cases hroute with
  | block hwants hblock targets htargets => exact canonical_blockEntry targets
  | outbound hwants hblock tag outbound hrender targets htargets =>
    exact canonical_object ⟨canonical_ofTexts _, canonical_object (.string _), canonical_routeOutbound hrender⟩

theorem canonical_addressEntry (address : Text) : Canonical (addressEntry address) := canonical_object (.string _)

theorem canonical_configuredServers (plan : CorePlan) : ∀ server ∈ configuredServers plan, Canonical server := by
  intro server hserver
  unfold configuredServers at hserver
  split at hserver
  · rcases List.mem_pair.1 hserver with rfl | rfl
    · exact canonical_addressEntry _
    · exact canonical_addressEntry _
  · obtain ⟨address, -, rfl⟩ := List.mem_map.1 hserver
    exact canonical_addressEntry _

theorem canonical_dnsServers {inbound : InboundPlan} {servers : List Value}
    (h : renderDnsServers inbound = .ok servers) : ∀ server ∈ servers, Canonical server := by
  intro server hserver
  obtain ⟨found, hfound, h⟩ := bind_eq_ok.1 h
  cases h
  obtain ⟨option, hoption, heq⟩ := List.mem_filterMap.1 hserver
  obtain ⟨route, -, hroute⟩ := exists_of_forall₂ (forall₂_of_mapM_ok hfound) hoption
  cases heq
  cases renderDnsServer_cases hroute with
  | all hrules address => exact canonical_addressEntry address
  | domains address haddress targets htargets => exact canonical_object ⟨.string _, canonical_ofTexts _⟩

theorem canonical_dns {plan : CorePlan} {dns : Value} (h : renderKeliCoreRsDns plan = .ok dns) : Canonical dns := by
  obtain ⟨servers, hservers, h⟩ := bind_eq_ok.1 h
  cases h
  refine canonical_ofFields ?_
  simp only [List.forall_mem_append, List.forall_mem_cons, List.not_mem_nil, false_implies, implies_true, and_true]
  refine ⟨⟨⟨.array ?_, .string _⟩, ?_⟩, ?_⟩
  · simp only [List.forall_mem_append]
    refine ⟨canonical_configuredServers plan, fun server hserver => ?_⟩
    obtain ⟨ofInbound, hofInbound, hserver⟩ := List.mem_flatten.1 hserver
    obtain ⟨inbound, -, hinbound⟩ := exists_of_forall₂ (forall₂_of_mapM_ok hservers) hofInbound
    exact canonical_dnsServers hinbound server hserver
  · split
    · exact List.forall_iff_forall_mem.1 (.bool true)
    · intro field hfield
      cases hfield
  · split
    · intro field hfield
      cases hfield
    · exact List.forall_iff_forall_mem.1 (canonical_ofTexts _)

theorem canonical_push {outbounds : List Value} {tag : Text} {outbound : Value}
    (h : ∀ item ∈ outbounds, Canonical item) (houtbound : Canonical outbound) :
    ∀ item ∈ pushKeliCoreRsOutboundOnce outbounds tag outbound, Canonical item := by
  unfold pushKeliCoreRsOutboundOnce
  split
  · exact h
  · exact List.forall_mem_append.2 ⟨h, List.forall_mem_singleton.2 houtbound⟩

theorem canonical_collectOutbounds {allowList : Option Text} {plan : CorePlan} {outbounds : List Value}
    (h : collectOutbounds fromStr allowList plan = .ok outbounds) : ∀ item ∈ outbounds, Canonical item := by
  refine foldlM_invariant (fun outbounds => ∀ item ∈ outbounds, Canonical item) ?_ ?_ h
  · intro outbounds houtbounds inbound _ outbounds' hstep
    obtain ⟨-, -, hcollect⟩ := bind_eq_ok.1 hstep
    refine foldlM_invariant (fun outbounds => ∀ item ∈ outbounds, Canonical item) ?_ houtbounds hcollect
    intro outbounds houtbounds route _ outbounds' hroute
    cases collectRoute_cases hroute with
    | kept => exact houtbounds
    | pushed hwants hblock tag outbound hrender => exact canonical_push houtbounds (canonical_routeOutbound hrender)
  · exact List.forall_mem_singleton.2 canonical_directOutbound

end

/-! ## Texts written piece by piece -/

/-- The first piece, then every other one behind a comma. -/
theorem join_comma_cons (text : Text) (texts : List Text) :
    join [','] (text :: texts) = text ++ texts.flatMap (',' :: ·) := by
  induction texts generalizing text with
  | nil => simp [join_singleton]
  | cons next texts ih =>
    rw [join_cons_cons, ih next, List.flatMap_cons]
    rfl

section

variable {print : Value → Text}

theorem writeJsonField_first (name : String) (value : Value) :
    writeJsonField print name value true = printField name (print value) := rfl

theorem writeJsonField_next (name : String) (value : Value) :
    writeJsonField print name value false = ',' :: printField name (print value) := rfl

theorem writeUsers_succ (index : Nat) (users : List InboundUserPlan) :
    writeUsers print (index + 1) users = (users.map (printUserRef print)).flatMap (',' :: ·) := by
  induction users generalizing index with
  | nil => rfl
  | cons user users ih =>
    rw [writeUsers, ih, if_pos (by omega), List.map_cons, List.flatMap_cons]
    rfl

theorem writeUsers_eq (users : List InboundUserPlan) :
    writeUsers print 0 users = join [','] (users.map (printUserRef print)) := by
  cases users with
  | nil => rfl
  | cons user users =>
    rw [writeUsers, writeUsers_succ, List.map_cons, join_comma_cons]
    rfl

variable (hprint : ∀ value, Canonical value → Denotes (print value) value)

include hprint

theorem denotes_userRef (user : InboundUserPlan) : Denotes (printUserRef print user) (keliCoreRsUserValue user) := by
  refine denotes_object ?_
  exact .cons ⟨rfl, hprint _ (.posInt _)⟩ <| .cons ⟨rfl, hprint _ (.string _)⟩ <| .cons ⟨rfl, hprint _ .null⟩ <|
    .cons ⟨rfl, hprint _ .null⟩ <| .cons ⟨rfl, hprint _ (.posInt _)⟩ <| .cons ⟨rfl, hprint _ (.posInt _)⟩ .nil

theorem denotes_users (users : List InboundUserPlan) (includeUsers : Bool) :
    Denotes ('[' :: (if includeUsers then writeUsers print 0 users else []) ++ [']'])
      (.array (if includeUsers then users.map keliCoreRsUserValue else [])) := by
  cases includeUsers with
  | false => exact denotes_array .nil
  | true =>
    rw [if_pos rfl, if_pos rfl, writeUsers_eq]
    refine denotes_array (List.forall₂_map_left_iff.2 (List.forall₂_map_right_iff.2 ?_))
    exact List.forall₂_same.2 fun user _ => denotes_userRef hprint user

end

/-- An object as it is written: the first member, and the others behind commas. -/
theorem denotes_members (name : String) (text : Text) (value : Value) (members : List (String × Text × Value))
    (hfirst : Denotes text value) (h : members.Forall fun (_, text, value) => Denotes text value) :
    Denotes ('{' :: (printField name text ++
        (members.flatMap fun (name, text, _) => ',' :: printField name text)) ++ ['}'])
      (ofFields ((name.toList, value) :: members.map fun (name, _, value) => (name.toList, value))) := by
  have hmembers : List.Forall₂ DenotesField (members.map fun (name, text, _) => (name.toList, text))
      (members.map fun (name, _, value) => (name.toList, value)) := by
    refine List.forall₂_map_left_iff.2 (List.forall₂_map_right_iff.2 (List.forall₂_same.2 fun member hmember => ?_))
    exact ⟨rfl, List.forall_iff_forall_mem.1 h member hmember⟩
  have hobject := denotes_object (.cons (⟨rfl, hfirst⟩ : DenotesField (name.toList, text) (name.toList, value)) hmembers)
  rw [printMembers_cons, join_comma_cons, printMembers, List.map_map, List.flatMap_map] at hobject
  exact hobject

/-! ## The two renderers -/

section

variable (fromStr : Text → Option Value) {print : Value → Text}
  (hprint : ∀ value, Canonical value → Denotes (print value) value)

include hprint

theorem inbound_agrees (inbound : InboundPlan) (includeUsers : Bool) :
    Agrees Denotes (renderKeliCoreRsInbound fromStr inbound includeUsers)
      (writeKeliCoreRsInbound fromStr print inbound includeUsers) := by
  refine (agrees_refl _).bind ?_
  rintro _ routes ⟨hroutes, rfl⟩
  refine ⟨_, rfl, ?_⟩
  have hobject := denotes_members "tag" _ (.string inbound.tag) [
    ("protocol", _, .string (keliCoreRsProtocolName inbound)),
    ("listen", _, .string inbound.listen),
    ("port", _, .posInt inbound.port),
    ("cipher", _, cipherValue inbound),
    ("flow", _, .string inbound.flow),
    ("padding_scheme", _, ofTexts inbound.paddingScheme),
    ("users", _, .array (if includeUsers then inbound.users.map keliCoreRsUserValue else [])),
    ("transport", _, renderKeliCoreRsTransport inbound),
    ("tls", _, renderKeliCoreRsTls inbound),
    ("sniffing", _, sniffingValue),
    ("routes", _, .array routes)]
    (hprint _ (.string _)) ⟨hprint _ (.string _), hprint _ (.string _), hprint _ (.posInt _),
      hprint _ (canonical_cipher _), hprint _ (.string _), hprint _ (canonical_ofTexts _), denotes_users hprint _ _,
      hprint _ (canonical_transport _), hprint _ (canonical_tls _), hprint _ canonical_sniffing,
      hprint _ (.array (canonical_routes hroutes))⟩
  have husers : (",\"users\":[" : Text) = ',' :: printString "users" ++ [':', '['] := rfl
  simpa [writeJsonField_first, writeJsonField_next, printField, husers] using hobject

/-- The inbound loop behind the first inbound: every text has a comma before it. -/
theorem laterInbounds_agree (includeUsers : Bool) (inbounds : List InboundPlan) :
    Agrees (fun text values => ∃ texts, text = texts.flatMap (',' :: ·) ∧ List.Forall₂ Denotes texts values)
      (renderKeliCoreRsInbounds fromStr inbounds includeUsers) (writeInbounds fromStr print includeUsers false inbounds) := by
  unfold renderKeliCoreRsInbounds
  induction inbounds with
  | nil => exact ⟨[], rfl, [], rfl, .nil⟩
  | cons inbound inbounds ih =>
    rw [List.mapM_cons, writeInbounds]
    refine (inbound_agrees fromStr hprint inbound includeUsers).bind fun value text hvalue => ih.bind ?_
    rintro values _ ⟨texts, rfl, htexts⟩
    exact ⟨_, rfl, text :: texts, rfl, .cons hvalue htexts⟩

theorem inbounds_agree (includeUsers : Bool) (inbounds : List InboundPlan) :
    Agrees (fun text values => Denotes ('[' :: text ++ [']']) (.array values))
      (renderKeliCoreRsInbounds fromStr inbounds includeUsers) (writeInbounds fromStr print includeUsers true inbounds) := by
  cases inbounds with
  | nil => exact ⟨_, rfl, denotes_array .nil⟩
  | cons inbound inbounds =>
    rw [renderKeliCoreRsInbounds, List.mapM_cons, writeInbounds]
    refine (inbound_agrees fromStr hprint inbound includeUsers).bind fun value text hvalue =>
      (laterInbounds_agree fromStr hprint includeUsers inbounds).bind ?_
    rintro values _ ⟨texts, rfl, htexts⟩
    refine ⟨_, rfl, ?_⟩
    have harray := denotes_array (.cons hvalue htexts)
    rw [join_comma_cons] at harray
    exact harray

theorem config_agrees (allowList : Option Text) (plan : CorePlan) (includeUsers : Bool) :
    Agrees (fun text value => ∃ document, text = document ++ ['\n'] ∧ Denotes document value)
      (renderKeliCoreRsConfig fromStr allowList plan includeUsers)
      (renderKeliCoreRsConfigBytes fromStr allowList print plan includeUsers) := by
  refine (agrees_refl _).bind ?_
  rintro _ outbounds ⟨houtbounds, rfl⟩
  refine (agrees_refl _).bind ?_
  rintro _ dns ⟨hdns, rfl⟩
  refine (inbounds_agree fromStr hprint includeUsers plan.inbounds).bind fun inbounds text hinbounds => ?_
  have hobject := denotes_members "instance_id" _ (.string (keliCoreRsInstanceId plan)) [
    ("log_level", _, .string "info"),
    ("policy", _, renderKeliCoreRsPolicy),
    ("dns", _, dns),
    ("inbounds", _, .array inbounds),
    ("outbounds", _, .array outbounds),
    ("routes", _, .array []),
    ("stats", _, statsValue)]
    (hprint _ (.string _)) ⟨hprint _ (.string _), hprint _ canonical_policy, hprint _ (canonical_dns hdns), hinbounds,
      hprint _ (.array (canonical_collectOutbounds houtbounds)), hprint _ (.array (by simp)),
      hprint _ canonical_stats⟩
  refine ⟨_, rfl, _, ?_, hobject⟩
  have hkey : (",\"inbounds\":[" : Text) = ',' :: printString "inbounds" ++ [':', '['] := rfl
  simp [writeJsonField_first, writeJsonField_next, printField, hkey]

end

/-- **The renderers agree**, for every plan and every faithful printer: they fail with the same error; or the bytes
are a JSON text for the value the tree renderer builds and a newline, and reading them gives that value back. -/
theorem renderers_agree (fromStr : Text → Option Value) (print : Value → Text)
    (hprint : ∀ value, Canonical value → Denotes (print value) value) (allowList : Option Text) (plan : CorePlan)
    (includeUsers : Bool) :
    match renderKeliCoreRsConfig fromStr allowList plan includeUsers with
    | .error e => renderKeliCoreRsConfigBytes fromStr allowList print plan includeUsers = .error e
    | .ok value => ∃ document,
        renderKeliCoreRsConfigBytes fromStr allowList print plan includeUsers = .ok (document ++ ['\n']) ∧
        Denotes document value ∧ Json.parse (document ++ ['\n']) = some value := by
  have hagrees := config_agrees fromStr hprint allowList plan includeUsers
  cases htree : renderKeliCoreRsConfig fromStr allowList plan includeUsers with
  | error e =>
    rw [htree] at hagrees
    exact hagrees
  | ok value =>
    rw [htree] at hagrees
    obtain ⟨_, hbytes, document, rfl, hdocument⟩ := hagrees
    exact ⟨document, hbytes, hdocument, parse_of_denotes hdocument⟩

/-- One inbound with a user. -/
def socksCorePlan : CorePlan where
  configPath := "/etc/keli/config.json"
  listenTags := ["node-a"]
  inbounds := [{ (default : InboundPlan) with
    tag := "node-a", protocol := "socks", listen := "0.0.0.0", port := 1080, network := "tcp", security := "none"
    users := [{ id := 7, uuid := "uuid-a", deviceLimit := 2 }] }]

theorem renderers_agree_printed : ∃ document value,
    renderKeliCoreRsConfig (fun _ => none) none socksCorePlan true = .ok value ∧
      renderKeliCoreRsConfigBytes (fun _ => none) none Json.print socksCorePlan true = .ok (document ++ ['\n']) ∧
      Json.parse (document ++ ['\n']) = some value := by
  have hagree := renderers_agree (fun _ => none) Json.print (fun _ => denotes_print) none socksCorePlan true
  have hok : (renderKeliCoreRsConfig (fun _ => none) none socksCorePlan true).isOk = true := by decide +kernel
  cases htree : renderKeliCoreRsConfig (fun _ => none) none socksCorePlan true with
  | error e =>
    rw [htree] at hok
    cases hok
  | ok value =>
    rw [htree] at hagree
    obtain ⟨document, hbytes, -, hparse⟩ := hagree
    exact ⟨document, value, rfl, hbytes, hparse⟩

end KeliNode
