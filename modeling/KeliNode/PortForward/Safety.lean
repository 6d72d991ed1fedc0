import KeliNode.PortForward.Owner

/-!
# Redirect safety of the port-forward rules

What the redirect table of one family must satisfy (`RedirectSafe`), proved of both builders from the
ownership reading: a rule never takes a port from another target or from a listener of the family, takes
only ports of its own nodes' expressions, and no port of an expression is lost.
-/

namespace KeliNode

open Lib

/-- **Redirect safety** of the rules of one family and protocol: `member` are its nodes, `external` the
port expression a node forwards. -/
structure RedirectSafe (infos : List NodeInfo) (member : NodeInfo → Prop) (external : NodeInfo → Text)
    (rules : List PortForwardRule) : Prop where
  /-- every matcher is a port, an interval or a list of at most 15 ports -/
  denotes : ∀ rule ∈ rules, rule.matcher.ports.isSome
  disjoint : ∀ rule ∈ rules, ∀ other ∈ rules, rule.targetPort ≠ other.targetPort →
    ∀ p, ¬(rule.matcher.matchesPort p = true ∧ other.matcher.matchesPort p = true)
  spares : ∀ rule ∈ rules, ∀ info ∈ infos, member info →
    rule.matcher.matchesPort info.common.serverPort = false
  sound : ∀ rule ∈ rules, ∀ p, rule.matcher.matchesPort p = true →
    ∃ info ∈ infos, member info ∧ info.common.serverPort = rule.targetPort ∧
      ∃ ports, portExpression (external info) = .ok ports ∧ covers ports p = true
  complete : ∀ before info after, infos = before ++ info :: after → member info →
    info.common.serverPort ≠ 0 → ∀ ports, portExpression (external info) = .ok ports →
    ∀ p, covers ports p = true → (∀ other ∈ infos, member other → other.common.serverPort ≠ p) →
      (∃ rule ∈ rules, rule.targetPort = info.common.serverPort ∧ rule.matcher.matchesPort p = true) ∨
      ∃ other ∈ before, member other ∧ other.common.serverPort ≠ info.common.serverPort ∧
        (∃ ports', portExpression (external other) = .ok ports' ∧ covers ports' p = true) ∧
        ∃ rule ∈ rules, rule.targetPort = other.common.serverPort ∧ rule.matcher.matchesPort p = true

/-- The requests of a family, read at protocol `q`. -/
structure RequestsOf (q : Text) (member : NodeInfo → Prop) (external : NodeInfo → Text)
    (request : NodeInfo → Option ForwardRequest) : Prop where
  sound : ∀ info r, request info = some r → r.protocol = q →
    member info ∧ r.targetPort = info.common.serverPort ∧ portExpression (external info) = .ok r.ports
  complete : ∀ info ports, member info → info.common.serverPort ≠ 0 →
    portExpression (external info) = .ok ports → request info = some ⟨q, info.common.serverPort, ports⟩

section

variable {infos : List NodeInfo} {q : Text} {member : NodeInfo → Prop} {external : NodeInfo → Text}
  {request : NodeInfo → Option ForwardRequest} {blocked : Text → Nat → Prop} {rules : List PortForwardRule}

/-- A granted port is in the expression of a node with the target as server port. -/
theorem granted_requested (hreq : RequestsOf q member external request) {t p : Nat}
    (h : Granted blocked (infos.filterMap request) q t p) :
    ∃ info ∈ infos, member info ∧ info.common.serverPort = t ∧
      ∃ ports, portExpression (external info) = .ok ports ∧ covers ports p = true := by
  obtain ⟨r, hr, hw, rfl⟩ := exists_of_firstOwner h.2
  obtain ⟨hr, hrq⟩ := List.mem_filter.1 hr
  obtain ⟨info, hi, hri⟩ := List.mem_filterMap.1 hr
  obtain ⟨hm, ht, hp⟩ := hreq.sound info r hri (by simpa using hrq)
  exact ⟨info, hi, hm, ht.symm, r.ports, hp, hw⟩

/-- A requested port is owned by the node or by an earlier one with another target. -/
theorem portOwner_of_request (hreq : RequestsOf q member external request) {before after : List NodeInfo}
    {info : NodeInfo} {ports : List PortForwardRange} {p : Nat} (hm : member info)
    (hne : info.common.serverPort ≠ 0) (hports : portExpression (external info) = .ok ports)
    (hp : covers ports p = true) :
    portOwner ((before ++ info :: after).filterMap request) q p = some info.common.serverPort ∨
    ∃ other ∈ before, member other ∧ other.common.serverPort ≠ info.common.serverPort ∧
      (∃ ports', portExpression (external other) = .ok ports' ∧ covers ports' p = true) ∧
      portOwner ((before ++ info :: after).filterMap request) q p = some other.common.serverPort := by
  have hr := hreq.complete info ports hm hne hports
  have hsplit : ((before ++ info :: after).filterMap request).filter (·.protocol = q) =
      (before.filterMap request).filter (·.protocol = q) ++
        ⟨q, info.common.serverPort, ports⟩ :: (after.filterMap request).filter (·.protocol = q) := by
    simp [List.filterMap_append, hr]
  unfold portOwner
  rw [hsplit]
  rcases firstOwner_of_wants (fun r p => covers r.ports p) ForwardRequest.targetPort _ ⟨q, info.common.serverPort, ports⟩ _ hp
    with h | ⟨r, hrmem, hw, hdiff, h⟩
  · exact Or.inl h
  · obtain ⟨hrmem, hrq⟩ := List.mem_filter.1 hrmem
    obtain ⟨other, ho, hro⟩ := List.mem_filterMap.1 hrmem
    obtain ⟨hmo, hto, hpo⟩ := hreq.sound other r hro (by simpa using hrq)
    exact Or.inr ⟨other, ho, hmo, by rwa [← hto], ⟨r.ports, hpo, hw⟩, by rw [← hto]; exact h⟩

/-- Rules that match exactly the granted ports are safe. -/
theorem redirectSafe_of_granted (hreq : RequestsOf q member external request)
    (hblocked : ∀ p, blocked q p ↔ ∃ info ∈ infos, member info ∧ 0 < info.common.serverPort ∧
      info.common.serverPort = p)
    (hproto : ∀ rule ∈ rules, rule.protocol = q) (hwf : ∀ rule ∈ rules, rule.matcher.WellFormed)
    (hrules : ∀ t p, RuleFor rules q t p ↔ Granted blocked (infos.filterMap request) q t p) :
    RedirectSafe infos member external rules := by
  have hgrant : ∀ rule ∈ rules, ∀ p, rule.matcher.matchesPort p = true →
      Granted blocked (infos.filterMap request) q rule.targetPort p :=
    fun rule hr p hp => (hrules _ _).1 ⟨rule, hr, hproto rule hr, rfl, hp⟩
  refine ⟨fun rule hr => (hwf rule hr).accepted, ?_, ?_, ?_, ?_⟩
  · rintro rule hr other ho hne p ⟨h₁, h₂⟩
    have ho₁ := (hgrant rule hr p h₁).2
    rw [(hgrant other ho p h₂).2] at ho₁
    exact hne (Option.some.inj ho₁).symm
  · intro rule hr info hi hm
    rw [← Bool.not_eq_true]
    intro hmatch
    have hg := hgrant rule hr _ hmatch
    obtain ⟨_, _, _, _, ports, hports, hcov⟩ := granted_requested hreq hg
    have hpos := portExpression_pos hports hcov
    exact hg.1 ((hblocked _).2 ⟨info, hi, hm, by omega, rfl⟩)
  · intro rule hr p hmatch
    exact granted_requested hreq (hgrant rule hr p hmatch)
  · intro before info after hsplit hm hne ports hports p hp hfree
    have hnb : ¬blocked q p := by
      intro hb
      obtain ⟨other, ho, hmo, _, hpo⟩ := (hblocked p).1 hb
      exact hfree other ho hmo hpo
    have hrule : ∀ t, portOwner (infos.filterMap request) q p = some t →
        ∃ rule ∈ rules, rule.targetPort = t ∧ rule.matcher.matchesPort p = true := by
      intro t ht
      obtain ⟨rule, hr, _, hrt, hrp⟩ := (hrules t p).2 ⟨hnb, ht⟩
      exact ⟨rule, hr, hrt, hrp⟩
    subst hsplit
    rcases portOwner_of_request hreq hm hne hports hp with h | ⟨other, ho, hmo, hdiff, hexpr, h⟩
    · exact Or.inl (hrule _ h)
    · exact Or.inr ⟨other, ho, hmo, hdiff, hexpr, hrule _ h⟩

end

/-! ## Hysteria 2 and Mieru -/

theorem forwardRequest_eq_some {protocol externalPort : Text} {targetPort : Nat} {r : ForwardRequest} :
    forwardRequest protocol targetPort externalPort = some r ↔
      ∃ ports, portExpression externalPort = .ok ports ∧ r = ⟨protocol, targetPort, ports⟩ := by
  unfold forwardRequest
  cases portExpression externalPort with
  | error e => simp
  | ok ports => simp [eq_comm]

def isHysteria (info : NodeInfo) : Prop := info.protocol = .hysteria2

/-- A Mieru node whose transport is `q`. -/
def isMieru (q : Text) (info : NodeInfo) : Prop :=
  info.protocol = .mieru ∧ mieruPortForwardProtocol info.common.transport = .ok q

theorem hysteria_requests : RequestsOf "udp" isHysteria hysteriaExternalPort hysteriaRequest where
  sound := by
    intro info r hr _
    unfold hysteriaRequest at hr
    split at hr
    · rename_i hcond
      obtain ⟨ports, hports, rfl⟩ := forwardRequest_eq_some.1 hr
      exact ⟨hcond.1, rfl, hports⟩
    · cases hr
  complete := by
    intro info ports hm hne hports
    unfold hysteriaRequest
    rw [if_pos ⟨hm, hne⟩, forwardRequest_eq_some]
    exact ⟨ports, hports, rfl⟩

theorem mieru_requests (q : Text) : RequestsOf q (isMieru q) mieruExternalPort mieruRequest where
  sound := by
    intro info r hr hq
    unfold mieruRequest at hr
    split at hr
    · rename_i hcond
      split at hr
      · rename_i protocol hproto
        obtain ⟨ports, hports, rfl⟩ := forwardRequest_eq_some.1 hr
        simp only at hq
        subst hq
        exact ⟨⟨hcond.1, hproto⟩, rfl, hports⟩
      · cases hr
    · cases hr
  complete := by
    intro info ports hm hne hports
    unfold mieruRequest
    rw [if_pos ⟨hm.1, hne⟩, hm.2]
    exact forwardRequest_eq_some.2 ⟨ports, hports, rfl⟩

theorem hysteriaRules_for (infos : List NodeInfo) (t p : Nat) :
    RuleFor (buildHysteriaPortForwardRules infos).1 "udp" t p ↔
      Granted (hysteriaServerPort infos) (infos.filterMap hysteriaRequest) "udp" t p :=
  (hysteria_allotted infos).rules _ t p

theorem mieruRules_for (infos : List NodeInfo) (q : Text) (t p : Nat) :
    RuleFor (buildMieruPortForwardRules infos).1 q t p ↔
      Granted (mieruServerPort infos) (infos.filterMap mieruRequest) q t p :=
  (mieru_allotted infos).rules q t p

theorem ruleFor_filter {rules : List PortForwardRule} {q : Text} {t p : Nat} :
    RuleFor (rules.filter (·.protocol = q)) q t p ↔ RuleFor rules q t p := by
  constructor
  · rintro ⟨rule, hr, h⟩
    exact ⟨rule, (List.mem_filter.1 hr).1, h⟩
  · rintro ⟨rule, hr, hq, h⟩
    exact ⟨rule, List.mem_filter.2 ⟨hr, by simpa using hq⟩, hq, h⟩

theorem hysteriaServerPort_iff {infos : List NodeInfo} {q : Text} {p : Nat} :
    hysteriaServerPort infos q p ↔
      ∃ info ∈ infos, isHysteria info ∧ 0 < info.common.serverPort ∧ info.common.serverPort = p := Iff.rfl

theorem mieruServerPort_iff {infos : List NodeInfo} {q : Text} {p : Nat} :
    mieruServerPort infos q p ↔
      ∃ info ∈ infos, isMieru q info ∧ 0 < info.common.serverPort ∧ info.common.serverPort = p := by
  unfold mieruServerPort isMieru
  refine exists_congr fun info => ?_
  tauto

/-- **NAT redirect safety within a family**: the Hysteria 2 rules, and for each L4 protocol the Mieru
rules, of any node list are redirect safe. -/
theorem portForwardRules_redirectSafe (infos : List NodeInfo) :
    RedirectSafe infos isHysteria hysteriaExternalPort (buildHysteriaPortForwardRules infos).1 ∧
    ∀ q, RedirectSafe infos (isMieru q) mieruExternalPort
      ((buildMieruPortForwardRules infos).1.filter (·.protocol = q)) := by
  refine ⟨?_, fun q => ?_⟩
  · have h := hysteria_allotted infos
    exact redirectSafe_of_granted hysteria_requests (fun p => hysteriaServerPort_iff) h.keyed.known
      h.keyed.wellFormed (hysteriaRules_for infos)
  · have h := mieru_allotted infos
    refine redirectSafe_of_granted (mieru_requests q) (fun p => mieruServerPort_iff) ?_ ?_ fun t p => ?_
    · intro rule hr
      simpa using (List.mem_filter.1 hr).2
    · intro rule hr
      exact h.keyed.wellFormed rule (List.mem_filter.1 hr).1
    · rw [ruleFor_filter]
      exact mieruRules_for infos q t p

end KeliNode
