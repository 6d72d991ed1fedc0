import KeliNode.PortForward.Safety
import KeliNode.Runtime.Plan

/-!
# Port forwarding across protocols

Both families redirect in the same PREROUTING chain, and all nodes share one port space, but each builder
looks only at the server ports and allocations of its own family.  So a rule may take the port another
node listens on, and the two families may take one port for different targets.  `noHijack_iff_portsApart` says
exactly when neither happens (`PortsApart`): a condition on the server ports and port expressions alone.
-/

namespace KeliNode

open Lib

/-- `inbound_binds_tcp` and `inbound_binds_udp` of the inbound a node is built into. -/
def nodeListensOn (q : Text) (info : NodeInfo) : Bool :=
  match buildInboundPlanWithUsers info [] with
  | .ok inbound => (q = "tcp" && inboundBindsTcp inbound) || (q = "udp" && inboundBindsUdp inbound)
  | .error _ => false

/-- The rules of both builders. -/
def allPortForwardRules (infos : List NodeInfo) : List PortForwardRule :=
  (buildHysteriaPortForwardRules infos).1 ++ (buildMieruPortForwardRules infos).1

/-- No rule takes a port a node listens on, and no two rules send one port to different targets.  Listening is what
`inbound_binds_tcp` and `inbound_binds_udp` say; the UDP socket that shadowsocks opens when its network is not given is
not among it (`specsKnow`). -/
structure NoHijack (infos : List NodeInfo) : Prop where
  listeners : ∀ rule ∈ allPortForwardRules infos, ∀ info ∈ infos, nodeListensOn rule.protocol info = true →
    rule.matcher.matchesPort info.common.serverPort = false
  targets : ∀ rule ∈ allPortForwardRules infos, ∀ other ∈ allPortForwardRules infos,
    rule.protocol = other.protocol → rule.targetPort ≠ other.targetPort →
    ∀ p, ¬(rule.matcher.matchesPort p = true ∧ other.matcher.matchesPort p = true)

/-- A node of the family, with a server port, names `p` in the port expression it forwards. -/
def NamesPort (member : NodeInfo → Prop) (external : NodeInfo → Text) (p : Nat) (info : NodeInfo) : Prop :=
  member info ∧ info.common.serverPort ≠ 0 ∧
    ∃ ports, portExpression (external info) = .ok ports ∧ covers ports p = true

/-- The first node of the list that names `p` has server port `t`. -/
def FirstNamed (member : NodeInfo → Prop) (external : NodeInfo → Text) (infos : List NodeInfo) (p t : Nat) : Prop :=
  ∃ before info after, infos = before ++ info :: after ∧ NamesPort member external p info ∧
    (∀ other ∈ before, ¬NamesPort member external p other) ∧ info.common.serverPort = t

def IsServerPort (member : NodeInfo → Prop) (infos : List NodeInfo) (p : Nat) : Prop :=
  ∃ info ∈ infos, member info ∧ info.common.serverPort = p

/-- The family forwards `p`: some node names it and it is no server port of the family. -/
def Forwards (member : NodeInfo → Prop) (external : NodeInfo → Text) (infos : List NodeInfo) (p : Nat) : Prop :=
  (∃ info ∈ infos, NamesPort member external p info) ∧ ¬IsServerPort member infos p

/-- The condition on ports: what a node listens on is forwarded by neither family, and where both families
forward a UDP port, the first nodes to name it have the same server port. -/
structure PortsApart (infos : List NodeInfo) : Prop where
  hysteria : ∀ info ∈ infos, nodeListensOn "udp" info = true →
    ¬Forwards isHysteria hysteriaExternalPort infos info.common.serverPort
  mieru : ∀ q, ∀ info ∈ infos, nodeListensOn q info = true →
    ¬Forwards (isMieru q) mieruExternalPort infos info.common.serverPort
  families : ∀ p, ¬IsServerPort isHysteria infos p → ¬IsServerPort (isMieru "udp") infos p →
    ∀ t t', FirstNamed isHysteria hysteriaExternalPort infos p t →
      FirstNamed (isMieru "udp") mieruExternalPort infos p t' → t = t'

/-! ## Owners in terms of nodes -/

section

variable {q : Text} {member : NodeInfo → Prop} {external : NodeInfo → Text}
  {request : NodeInfo → Option ForwardRequest}

theorem request_iff_names (hreq : RequestsOf q member external request)
    (hport : ∀ info r, request info = some r → info.common.serverPort ≠ 0) {info : NodeInfo} {p : Nat} :
    NamesPort member external p info ↔
      ∃ r, request info = some r ∧ r.protocol = q ∧ covers r.ports p = true := by
  constructor
  · rintro ⟨hm, hne, ports, hports, hp⟩
    exact ⟨_, hreq.complete info ports hm hne hports, rfl, hp⟩
  · rintro ⟨r, hr, hq, hp⟩
    obtain ⟨hm, _, hports⟩ := hreq.sound info r hr hq
    exact ⟨hm, hport info r hr, r.ports, hports, hp⟩

theorem portOwner_cons (r : ForwardRequest) (requests : List ForwardRequest) (q : Text) (p : Nat) :
    portOwner (r :: requests) q p =
      if r.protocol = q ∧ covers r.ports p = true then some r.targetPort else portOwner requests q p := by
  unfold portOwner firstOwner
  by_cases hq : r.protocol = q
  · rw [List.filter_cons_of_pos (by simpa using hq)]
    cases hp : covers r.ports p <;> simp [hq, hp]
  · rw [List.filter_cons_of_neg (by simpa using hq), if_neg fun h => hq h.1]

theorem firstNamed_cons_of_names {info : NodeInfo} {infos : List NodeInfo} {p t : Nat}
    (h : NamesPort member external p info) :
    FirstNamed member external (info :: infos) p t ↔ info.common.serverPort = t := by
  constructor
  · rintro ⟨before, first, after, heq, hnames, hbefore, ht⟩
    cases before with
    | nil =>
      obtain ⟨rfl, rfl⟩ := List.cons.inj heq
      exact ht
    | cons x before =>
      obtain ⟨rfl, _⟩ := List.cons.inj heq
      exact absurd h (hbefore _ List.mem_cons_self)
  · intro ht
    exact ⟨[], info, infos, rfl, h, by simp, ht⟩

theorem firstNamed_cons_of_not {info : NodeInfo} {infos : List NodeInfo} {p t : Nat}
    (h : ¬NamesPort member external p info) :
    FirstNamed member external (info :: infos) p t ↔ FirstNamed member external infos p t := by
  constructor
  · rintro ⟨before, first, after, heq, hnames, hbefore, ht⟩
    cases before with
    | nil =>
      obtain ⟨rfl, rfl⟩ := List.cons.inj heq
      exact absurd hnames h
    | cons x before =>
      obtain ⟨rfl, rfl⟩ := List.cons.inj heq
      exact ⟨before, first, after, rfl, hnames, fun other ho => hbefore other (List.mem_cons_of_mem _ ho), ht⟩
  · rintro ⟨before, first, after, rfl, hnames, hbefore, ht⟩
    exact ⟨info :: before, first, after, rfl, hnames, List.forall_mem_cons.2 ⟨h, hbefore⟩, ht⟩

/-- The owner of a port is the first node that names it. -/
theorem portOwner_iff_firstNamed (hreq : RequestsOf q member external request)
    (hport : ∀ info r, request info = some r → info.common.serverPort ≠ 0) (infos : List NodeInfo) (p t : Nat) :
    portOwner (infos.filterMap request) q p = some t ↔ FirstNamed member external infos p t := by
  induction infos with
  | nil => simp [portOwner, FirstNamed]
  | cons info infos ih =>
    have hnames := @request_iff_names _ _ _ _ hreq hport info p
    by_cases h : NamesPort member external p info
    · obtain ⟨r, hr, hq, hp⟩ := hnames.1 h
      rw [List.filterMap_cons_some hr, portOwner_cons, if_pos ⟨hq, hp⟩, firstNamed_cons_of_names h,
        (hreq.sound info r hr hq).2.1]
      simp
    · rw [firstNamed_cons_of_not h, ← ih]
      cases hr : request info with
      | none => rw [List.filterMap_cons_none hr]
      | some r => rw [List.filterMap_cons_some hr, portOwner_cons, if_neg fun hc => h (hnames.2 ⟨r, hr, hc⟩)]

theorem firstNamed_iff_exists {infos : List NodeInfo} {p : Nat} :
    (∃ t, FirstNamed member external infos p t) ↔ ∃ info ∈ infos, NamesPort member external p info := by
  induction infos with
  | nil => simp [FirstNamed]
  | cons info infos ih =>
    by_cases h : NamesPort member external p info
    · simp only [firstNamed_cons_of_names h, exists_eq', List.mem_cons, exists_eq_or_imp, h, true_or]
    · simp only [firstNamed_cons_of_not h, ih, List.mem_cons, exists_eq_or_imp, h, false_or]

/-- A family's rules in terms of its nodes. -/
theorem ruleFor_iff_firstNamed (hreq : RequestsOf q member external request)
    (hport : ∀ info r, request info = some r → info.common.serverPort ≠ 0) {infos : List NodeInfo}
    {rules : List PortForwardRule} {blocked : Text → Nat → Prop}
    (hblocked : ∀ p, blocked q p ↔ ∃ info ∈ infos, member info ∧ 0 < info.common.serverPort ∧
      info.common.serverPort = p)
    (hrules : ∀ t p, RuleFor rules q t p ↔ Granted blocked (infos.filterMap request) q t p) (t p : Nat) :
    RuleFor rules q t p ↔ ¬IsServerPort member infos p ∧ FirstNamed member external infos p t := by
  rw [hrules, Granted, portOwner_iff_firstNamed hreq hport, hblocked]
  refine and_congr_left fun hfirst => not_congr ⟨?_, ?_⟩
  · rintro ⟨info, hi, hm, _, hp⟩
    exact ⟨info, hi, hm, hp⟩
  · rintro ⟨info, hi, hm, hp⟩
    obtain ⟨_, named, _, _, ⟨_, _, ports, hports, hcov⟩, _, _⟩ := hfirst
    have hpos := portExpression_pos hports hcov
    exact ⟨info, hi, hm, by omega, hp⟩

end

/-! ## Both families -/

theorem hysteriaRequest_port {info : NodeInfo} {r : ForwardRequest} (h : hysteriaRequest info = some r) :
    info.common.serverPort ≠ 0 := by
  unfold hysteriaRequest at h
  split at h
  · rename_i hcond
    exact hcond.2
  · cases h

theorem mieruRequest_port {info : NodeInfo} {r : ForwardRequest} (h : mieruRequest info = some r) :
    info.common.serverPort ≠ 0 := by
  unfold mieruRequest at h
  split at h
  · rename_i hcond
    exact hcond.2
  · cases h

theorem hysteriaRules_iff (infos : List NodeInfo) (t p : Nat) :
    RuleFor (buildHysteriaPortForwardRules infos).1 "udp" t p ↔
      ¬IsServerPort isHysteria infos p ∧ FirstNamed isHysteria hysteriaExternalPort infos p t :=
  ruleFor_iff_firstNamed hysteria_requests (fun _ _ => hysteriaRequest_port) (fun _ => hysteriaServerPort_iff)
    (hysteriaRules_for infos) t p

theorem mieruRules_iff (infos : List NodeInfo) (q : Text) (t p : Nat) :
    RuleFor (buildMieruPortForwardRules infos).1 q t p ↔
      ¬IsServerPort (isMieru q) infos p ∧ FirstNamed (isMieru q) mieruExternalPort infos p t :=
  ruleFor_iff_firstNamed (mieru_requests q) (fun _ _ => mieruRequest_port) (fun _ => mieruServerPort_iff)
    (mieruRules_for infos q) t p

/-- The rules of both families for a port. -/
theorem allRules_iff (infos : List NodeInfo) (q : Text) (t p : Nat) :
    RuleFor (allPortForwardRules infos) q t p ↔
      (q = "udp" ∧ RuleFor (buildHysteriaPortForwardRules infos).1 "udp" t p) ∨
        RuleFor (buildMieruPortForwardRules infos).1 q t p := by
  have hknown := (hysteria_allotted infos).keyed.known
  simp only [RuleFor, allPortForwardRules, List.mem_append, or_and_right, exists_or]
  refine or_congr_left ⟨?_, ?_⟩
  · rintro ⟨rule, hr, rfl, ht, hp⟩
    exact ⟨hknown rule hr, rule, hr, hknown rule hr, ht, hp⟩
  · rintro ⟨rfl, h⟩
    exact h

theorem noHijack_iff_ruleFor (infos : List NodeInfo) :
    NoHijack infos ↔
      (∀ q, ∀ info ∈ infos, nodeListensOn q info = true →
        ∀ t, ¬RuleFor (allPortForwardRules infos) q t info.common.serverPort) ∧
      ∀ q t t' p, RuleFor (allPortForwardRules infos) q t p → RuleFor (allPortForwardRules infos) q t' p → t = t' := by
  constructor
  · intro h
    refine ⟨?_, ?_⟩
    · rintro q info hi hl t ⟨rule, hr, rfl, _, hp⟩
      rw [h.listeners rule hr info hi hl] at hp
      cases hp
    · rintro q t t' p ⟨rule, hr, hq, rfl, hp⟩ ⟨other, ho, hq', rfl, hp'⟩
      by_contra hne
      exact h.targets rule hr other ho (hq.trans hq'.symm) hne p ⟨hp, hp'⟩
  · rintro ⟨hlisten, htarget⟩
    refine ⟨?_, ?_⟩
    · intro rule hr info hi hl
      rw [← Bool.not_eq_true]
      exact fun hp => hlisten rule.protocol info hi hl rule.targetPort ⟨rule, hr, rfl, rfl, hp⟩
    · rintro rule hr other ho hq hne p ⟨hp, hp'⟩
      exact hne (htarget rule.protocol _ _ p ⟨rule, hr, rfl, rfl, hp⟩ ⟨other, ho, hq.symm, rfl, hp'⟩)

/-- **No cross-protocol hijack**, exactly when the ports are apart. -/
theorem noHijack_iff_portsApart (infos : List NodeInfo) : NoHijack infos ↔ PortsApart infos := by
  rw [noHijack_iff_ruleFor]
  simp only [allRules_iff, hysteriaRules_iff, mieruRules_iff]
  constructor
  · rintro ⟨hlisten, htarget⟩
    refine ⟨?_, ?_, ?_⟩
    · rintro info hi hl ⟨hnamed, hserver⟩
      obtain ⟨t, ht⟩ := firstNamed_iff_exists.2 hnamed
      exact hlisten "udp" info hi hl t (Or.inl ⟨rfl, hserver, ht⟩)
    · rintro q info hi hl ⟨hnamed, hserver⟩
      obtain ⟨t, ht⟩ := firstNamed_iff_exists.2 hnamed
      exact hlisten q info hi hl t (Or.inr ⟨hserver, ht⟩)
    · intro p hh hm t t' ht ht'
      exact htarget "udp" t t' p (Or.inl ⟨rfl, hh, ht⟩) (Or.inr ⟨hm, ht'⟩)
  · intro h
    have hhysteria : ∀ {p t t'}, FirstNamed isHysteria hysteriaExternalPort infos p t →
        FirstNamed isHysteria hysteriaExternalPort infos p t' → t = t' := by
      intro p t t' ht ht'
      rw [← portOwner_iff_firstNamed hysteria_requests fun _ _ => hysteriaRequest_port] at ht ht'
      exact Option.some.inj (ht.symm.trans ht')
    have hmieru : ∀ {q p t t'}, FirstNamed (isMieru q) mieruExternalPort infos p t →
        FirstNamed (isMieru q) mieruExternalPort infos p t' → t = t' := by
      intro q p t t' ht ht'
      rw [← portOwner_iff_firstNamed (mieru_requests q) fun _ _ => mieruRequest_port] at ht ht'
      exact Option.some.inj (ht.symm.trans ht')
    refine ⟨?_, ?_⟩
    · rintro q info hi hl t (⟨rfl, hserver, ht⟩ | ⟨hserver, ht⟩)
      · exact h.hysteria info hi hl ⟨firstNamed_iff_exists.1 ⟨t, ht⟩, hserver⟩
      · exact h.mieru q info hi hl ⟨firstNamed_iff_exists.1 ⟨t, ht⟩, hserver⟩
    · rintro q t t' p (⟨rfl, hh, ht⟩ | ⟨hm, ht⟩) (⟨hq, hh', ht'⟩ | ⟨hm', ht'⟩)
      · exact hhysteria ht ht'
      · exact h.families p hh hm' t t' ht ht'
      · subst hq
        exact (h.families p hh' hm t' t ht' ht).symm
      · exact hmieru ht ht'

/-- A Hysteria 2 node on 443 that forwards 30000-40000, and a TUIC node on 35000. -/
def overlappingNodes : List NodeInfo :=
  let certInfo : CertInfo := { certMode := "file", certFile := "/etc/keli/cert.pem", keyFile := "/etc/keli/key.pem" }
  [{ id := 1, protocol := .hysteria2, security := .tls, tag := "[https://panel.test]-hysteria2:1"
     common := { serverPort := 443, ports := "30000-40000", tls := 1, certInfo := some certInfo } },
   { id := 2, protocol := .tuic, security := .tls, tag := "[https://panel.test]-tuic:2"
     common := { serverPort := 35000, tls := 1, certInfo := some certInfo } }]

/-- Both nodes enter one runtime plan, and the first one's rule takes the second one's port. -/
theorem tuic_port_hijacked :
    (buildRuntimeBootstrapPlanWithUsers (fun _ => .ok ()) {} overlappingNodes [] ∅).map (·.nodeInfos) =
      .ok overlappingNodes ∧ ¬NoHijack overlappingNodes := by
  refine ⟨rfl, fun h => ?_⟩
  have hrule : ((allPortForwardRules overlappingNodes).any fun rule =>
      rule.protocol = "udp" && rule.matcher.matchesPort 35000) = true := by decide +kernel
  obtain ⟨rule, hr, hmatch⟩ := List.any_eq_true.1 hrule
  simp only [Bool.and_eq_true, decide_eq_true_eq] at hmatch
  have htuic : ∃ info ∈ overlappingNodes, nodeListensOn "udp" info = true ∧ info.common.serverPort = 35000 :=
    ⟨_, List.mem_cons_of_mem _ List.mem_cons_self, by decide, rfl⟩
  obtain ⟨info, hi, hl, hport⟩ := htuic
  have hspared := h.listeners rule hr info hi (by rw [hmatch.1]; exact hl)
  rw [hport, hmatch.2] at hspared
  cases hspared

end KeliNode
