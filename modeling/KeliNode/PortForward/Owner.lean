import KeliNode.Lib.FirstOwner
import KeliNode.PortForward.Ranges

/-!
# Who owns a forwarded port

The abstract reading of the two builders: every valid node of a family requests the ports of its
external expression, server ports of the family are off limits, and a port goes to the first node that
requests it (`Granted`).  The builders' folds refine that reading (`hysteria_allotted`,
`mieru_allotted`): the allocations recorded and the rules emitted match exactly the granted ports.
What a redirect table must satisfy within a family (`RedirectSafe`) is then a fact about first owners.
-/

namespace KeliNode

open Lib

/-! ## Requests and grants -/

/-- What a node asks its family to forward. -/
structure ForwardRequest where
  protocol : Text
  targetPort : Nat
  ports : List PortForwardRange

/-- The first request of protocol `q` that names `p`. -/
def portOwner (requests : List ForwardRequest) (q : Text) (p : Nat) : Option Nat :=
  firstOwner (fun r p => covers r.ports p) ForwardRequest.targetPort (requests.filter (·.protocol = q)) p

/-- Port `p` of protocol `q` is forwarded to `t`. -/
def Granted (blocked : Text → Nat → Prop) (requests : List ForwardRequest) (q : Text) (t p : Nat) : Prop :=
  ¬blocked q p ∧ portOwner requests q p = some t

variable {blocked : Text → Nat → Prop} {requests : List ForwardRequest}

theorem granted_nil {q : Text} {t p : Nat} : ¬Granted blocked [] q t p := by
  simp [Granted, portOwner]

/-- A new request is granted the ports that are not blocked and that no other target holds. -/
theorem granted_concat {r : ForwardRequest} {q : Text} {t p : Nat} :
    Granted blocked (requests ++ [r]) q t p ↔
      Granted blocked requests q t p ∨
        (r.protocol = q ∧ r.targetPort = t ∧ covers r.ports p = true ∧ ¬blocked q p ∧
          ∀ t', Granted blocked requests q t' p → t' = t) := by
  unfold Granted portOwner
  by_cases hq : r.protocol = q
  · rw [List.filter_append, List.filter_cons_of_pos (by simpa using hq), List.filter_nil,
      firstOwner_concat_eq_some]
    tauto
  · rw [List.filter_append, List.filter_cons_of_neg (by simpa using hq), List.filter_nil, List.append_nil]
    tauto

/-! ## What a builder's state holds -/

def RuleFor (rules : List PortForwardRule) (q : Text) (t p : Nat) : Prop :=
  ∃ rule ∈ rules, rule.protocol = q ∧ rule.targetPort = t ∧ rule.matcher.matchesPort p = true

def AllocatedFor (allocated : List AllocatedPortForwardRange) (q : Text) (t p : Nat) : Prop :=
  ∃ a ∈ allocated, a.protocol = q ∧ a.targetPort = t ∧ a.range.contains p = true

/-- Rules are of known protocols and the family's comment, and every key of `seen` belongs to one. -/
structure Keyed (family : ForwardFamily) (known : Text → Prop) (st : BuildState) : Prop where
  comment : ∀ rule ∈ st.rules, rule.comment = family.comment
  known : ∀ rule ∈ st.rules, known rule.protocol
  wellFormed : ∀ rule ∈ st.rules, rule.matcher.WellFormed
  seen : ∀ key ∈ st.seen, ∃ rule ∈ st.rules, family.key rule.protocol rule.targetPort rule.matcher.args = key

/-- The deduplication key tells rules of known protocols apart. -/
def KeyInjective (family : ForwardFamily) (known : Text → Prop) : Prop :=
  ∀ {q q' : Text} {t t' : Nat} {m m' : PortForwardMatcher}, known q → known q' → m.WellFormed → m'.WellFormed →
    family.key q t m.args = family.key q' t' m'.args → q = q' ∧ t = t' ∧ m.args = m'.args

/-- **The builder invariant**: allocations and rules are exactly the grants. -/
structure Allotted (family : ForwardFamily) (known : Text → Prop) (blocked : Text → Nat → Prop)
    (requests : List ForwardRequest) (st : BuildState) : Prop where
  keyed : Keyed family known st
  allocated : ∀ q t p, AllocatedFor st.allocated q t p ↔ Granted blocked requests q t p
  rules : ∀ q t p, RuleFor st.rules q t p ↔ Granted blocked requests q t p

theorem matchesPort_of_args {m m' : PortForwardMatcher} (h : m.args = m'.args) (p : Nat) :
    m.matchesPort p = m'.matchesPort p := by
  simp only [PortForwardMatcher.matchesPort, PortForwardMatcher.ports, h]

theorem ruleFor_concat {rules : List PortForwardRule} {rule : PortForwardRule} {q : Text} {t p : Nat} :
    RuleFor (rules ++ [rule]) q t p ↔ RuleFor rules q t p ∨
      (rule.protocol = q ∧ rule.targetPort = t ∧ rule.matcher.matchesPort p = true) := by
  simp only [RuleFor, List.mem_append, List.mem_singleton, or_and_right, exists_or, exists_eq_left]

section

variable {family : ForwardFamily} {known : Text → Prop} {protocol : Text} (targetPort : Nat)

/-- Emitting one matcher adds its ports to the rules' ports, also when its key was already seen. -/
theorem pushRule_spec (hkey : KeyInjective family known) (hp : known protocol) {st : BuildState}
    {m : PortForwardMatcher} (hm : m.WellFormed) (hk : Keyed family known st) :
    Keyed family known (pushRule family protocol targetPort st m) ∧
    (pushRule family protocol targetPort st m).allocated = st.allocated ∧
    ∀ q t p, RuleFor (pushRule family protocol targetPort st m).rules q t p ↔
      RuleFor st.rules q t p ∨ (protocol = q ∧ targetPort = t ∧ m.matchesPort p = true) := by
  unfold pushRule
  by_cases hs : family.key protocol targetPort m.args ∈ st.seen
  · -- The rule that owns the key has the same protocol, target and arguments.
    simp only [hs, if_true]
    refine ⟨hk, trivial, fun q t p => ⟨Or.inl, ?_⟩⟩
    rintro (h | ⟨rfl, rfl, h⟩)
    · exact h
    · obtain ⟨rule, hrule, hkeq⟩ := hk.seen _ hs
      obtain ⟨h₁, h₂, h₃⟩ := hkey (hk.known rule hrule) hp (hk.wellFormed rule hrule) hm hkeq
      exact ⟨rule, hrule, h₁, h₂, by rw [matchesPort_of_args h₃, h]⟩
  · simp only [hs, if_false]
    refine ⟨⟨?_, ?_, ?_, ?_⟩, trivial, fun q t p => ruleFor_concat⟩
    · intro rule hr
      rcases List.mem_append.1 hr with hr | hr
      · exact hk.comment rule hr
      · rw [List.mem_singleton.1 hr]
    · intro rule hr
      rcases List.mem_append.1 hr with hr | hr
      · exact hk.known rule hr
      · rw [List.mem_singleton.1 hr]
        exact hp
    · intro rule hr
      rcases List.mem_append.1 hr with hr | hr
      · exact hk.wellFormed rule hr
      · rw [List.mem_singleton.1 hr]
        exact hm
    · intro key hkey'
      rcases List.mem_cons.1 hkey' with rfl | hkey'
      · exact ⟨_, List.mem_append_right _ (List.mem_singleton.2 rfl), rfl⟩
      · obtain ⟨rule, hr, h⟩ := hk.seen key hkey'
        exact ⟨rule, List.mem_append_left _ hr, h⟩

theorem foldl_pushRule (hkey : KeyInjective family known) (hp : known protocol) :
    ∀ (matchers : List PortForwardMatcher) (st : BuildState), (∀ m ∈ matchers, m.WellFormed) →
      Keyed family known st →
      let out := matchers.foldl (pushRule family protocol targetPort) st
      Keyed family known out ∧ out.allocated = st.allocated ∧
        ∀ q t p, RuleFor out.rules q t p ↔
          RuleFor st.rules q t p ∨ (protocol = q ∧ targetPort = t ∧ anyMatches matchers p)
  | [], st, _, hk => by simpa [anyMatches] using hk
  | m :: matchers, st, hm, hk => by
    obtain ⟨hm₁, hms⟩ := List.forall_mem_cons.1 hm
    obtain ⟨hk₁, ha₁, hr₁⟩ := pushRule_spec targetPort hkey hp hm₁ hk
    obtain ⟨hk₂, ha₂, hr₂⟩ := foldl_pushRule hkey hp matchers _ hms hk₁
    refine ⟨hk₂, ha₂.trans ha₁, fun q t p => ?_⟩
    rw [List.foldl_cons, hr₂, hr₁]
    simp only [anyMatches, List.mem_cons, exists_eq_or_imp]
    tauto

/-- What survives both cuts is the new part of the grant. -/
theorem covers_trimmed {targetPorts : BTreeMap Nat Nat} (hports : ∀ p, p ∈ targetPorts ↔ blocked protocol p)
    (hown : blocked protocol targetPort) {st : BuildState} (h : Allotted family known blocked requests st)
    {ports ranges : List PortForwardRange} (hb : Bounded ranges)
    (hc : ∀ p, covers ranges p = true ↔ covers ports p = true ∧ p ≠ targetPort) :
    let left := trimAllocatedRangeConflicts (trimTargetPortConflicts ranges targetPort targetPorts) targetPort
      protocol st.allocated
    Bounded left ∧ ∀ p, covers left p = true ↔
      covers ports p = true ∧ ¬blocked protocol p ∧
        ∀ t', Granted blocked requests protocol t' p → t' = targetPort := by
  obtain ⟨hb₁, hc₁⟩ := covers_trimTargetPortConflicts hb targetPort targetPorts
  obtain ⟨hb₂, hc₂⟩ := covers_trimAllocatedRangeConflicts hb₁ targetPort protocol st.allocated
  refine ⟨hb₂, fun p => ?_⟩
  rw [hc₂, hc₁, hc]
  constructor
  · rintro ⟨⟨⟨hp, hne⟩, hsrv⟩, hall⟩
    refine ⟨hp, fun hblk => ?_, fun t' ht' => ?_⟩
    · exact hsrv p ((hports p).2 hblk) hne rfl
    · by_contra hne'
      obtain ⟨a, ha, hap, hat, hac⟩ := (h.allocated protocol t' p).2 ht'
      rw [hall a ha (by rwa [hat]) hap] at hac
      cases hac
  · rintro ⟨hp, hblk, hgr⟩
    refine ⟨⟨⟨hp, ?_⟩, fun port hport _ heq => ?_⟩, fun a ha hat hap => ?_⟩
    · rintro rfl
      exact hblk hown
    · exact hblk ((hports p).1 (heq ▸ hport))
    · rw [← Bool.not_eq_true]
      intro hac
      exact hat (hgr a.targetPort ((h.allocated protocol a.targetPort p).1 ⟨a, ha, hap, rfl, hac⟩))

/-- **One node**: the shared tail of the builders turns the node's expression into a request, when it
parses, and leaves allocations and rules alone when it does not. -/
theorem allocateExternalPort_spec (hkey : KeyInjective family known) (hp : known protocol)
    {targetPorts : BTreeMap Nat Nat} (hports : ∀ p, p ∈ targetPorts ↔ blocked protocol p)
    (hown : blocked protocol targetPort) (nodeId : Nat) (externalPort : Text) {st : BuildState}
    (h : Allotted family known blocked requests st) :
    Allotted family known blocked
      (requests ++ match portExpression externalPort with
        | .ok ports => [⟨protocol, targetPort, ports⟩]
        | .error _ => [])
      (allocateExternalPort family nodeId targetPort externalPort protocol targetPorts st) := by
  unfold allocateExternalPort
  cases hexpr : portExpression externalPort with
  | error e =>
    rw [parse_error hexpr, List.append_nil]
    exact ⟨⟨h.keyed.comment, h.keyed.known, h.keyed.wellFormed, h.keyed.seen⟩, h.allocated, h.rules⟩
  | ok ports =>
    obtain ⟨parsed, ranges, hparse, hb, hc⟩ := parse_ok targetPort hexpr
    obtain ⟨hb₂, hnew⟩ := covers_trimmed targetPort hports hown h hb hc
    rw [hparse]
    simp only
    generalize trimAllocatedRangeConflicts (trimTargetPortConflicts ranges targetPort targetPorts)
      targetPort protocol st.allocated = left at hb₂ hnew
    have hgranted : ∀ q t p, Granted blocked (requests ++ [⟨protocol, targetPort, ports⟩]) q t p ↔
        Granted blocked requests q t p ∨ (protocol = q ∧ targetPort = t ∧ covers left p = true) := by
      intro q t p
      rw [granted_concat, hnew]
      constructor
      · rintro (h | ⟨rfl, rfl, h₁, h₂, h₃⟩)
        · exact Or.inl h
        · exact Or.inr ⟨rfl, rfl, h₁, h₂, h₃⟩
      · rintro (h | ⟨rfl, rfl, h₁, h₂, h₃⟩)
        · exact Or.inl h
        · exact Or.inr ⟨rfl, rfl, h₁, h₂, h₃⟩
    -- With nothing left, the request changes no grant and the state keeps its rules.
    have hsame : (∀ p, covers left p = false) → ∀ errors,
        Allotted family known blocked (requests ++ [⟨protocol, targetPort, ports⟩]) { st with errors } := by
      intro hnone errors
      refine ⟨⟨h.keyed.comment, h.keyed.known, h.keyed.wellFormed, h.keyed.seen⟩, fun q t p => ?_, fun q t p => ?_⟩
      · rw [hgranted, hnone]
        simpa using h.allocated q t p
      · rw [hgranted, hnone]
        simpa using h.rules q t p
    split
    · rename_i hempty
      refine hsame (fun p => ?_) st.errors
      rw [← Bool.not_eq_true, hnew]
      rintro ⟨hp, hblk, _⟩
      have := (hc p).2 ⟨hp, fun heq => hblk (heq ▸ hown)⟩
      rw [List.isEmpty_iff.1 hempty] at this
      simp at this
    · split
      · rename_i hempty
        refine hsame (fun p => ?_) _
        rw [List.isEmpty_iff.1 hempty]
        rfl
      · obtain ⟨hwf, hmatch⟩ := portForwardMatchersFromRanges_spec hb₂
        obtain ⟨hk, ha, hr⟩ := foldl_pushRule targetPort hkey hp (portForwardMatchersFromRanges left)
          { st with allocated := st.allocated ++ left.map fun range => { nodeId, targetPort, protocol, range } }
          hwf ⟨h.keyed.comment, h.keyed.known, h.keyed.wellFormed, h.keyed.seen⟩
        refine ⟨hk, fun q t p => ?_, fun q t p => ?_⟩
        · rw [ha, hgranted, ← h.allocated q t p, covers_iff]
          simp only [AllocatedFor, List.mem_append, List.mem_map, or_and_right, exists_or,
            PortForwardRange.contains_iff]
          refine or_congr_right ⟨?_, ?_⟩
          · rintro ⟨_, ⟨range, hrange, rfl⟩, hq, ht, hin⟩
            exact ⟨hq, ht, range, hrange, hin⟩
          · rintro ⟨hq, ht, range, hrange, hin⟩
            exact ⟨_, ⟨range, hrange, rfl⟩, hq, ht, hin⟩
        · rw [hr, hgranted, ← hmatch p]
          exact or_congr_left (h.rules q t p)

end

/-! ## The two families -/

/-- A matcher's arguments joined with NUL can be read back. -/
theorem args_of_join {m m' : PortForwardMatcher} (hm : m.WellFormed) (hm' : m'.WellFormed)
    (h : join [Char.ofNat 0] m.args = join [Char.ofNat 0] m'.args) : m.args = m'.args :=
  join_inj hm.args_ne_nil hm'.args_ne_nil hm.args_free hm'.args_free h

theorem hysteriaFamily_key : KeyInjective hysteriaFamily (· = "udp") := by
  intro q q' t t' m m' hq hq' hm hm' h
  obtain ⟨ht, hargs⟩ := append_cons_inj (not_mem_decimal (by decide) t) (not_mem_decimal (by decide) t') h
  exact ⟨by rw [hq, hq'], decimal_inj ht, args_of_join hm hm' hargs⟩

/-- The protocols `mieru_port_forward_protocol` returns. -/
def TcpOrUdp (q : Text) : Prop := q = "tcp" ∨ q = "udp"

theorem TcpOrUdp.bar_not_mem {q : Text} (h : TcpOrUdp q) : '|' ∉ q := by
  rcases h with rfl | rfl <;> decide

theorem mieruPortForwardProtocol_ok {raw q : Text} (h : mieruPortForwardProtocol raw = .ok q) : TcpOrUdp q := by
  unfold mieruPortForwardProtocol at h
  simp only at h
  split at h
  · cases h; exact Or.inl rfl
  · split at h
    · cases h; exact Or.inl rfl
    · split at h
      · cases h; exact Or.inr rfl
      · cases h

theorem mieruFamily_key : KeyInjective mieruFamily TcpOrUdp := by
  intro q q' t t' m m' hq hq' hm hm' h
  obtain ⟨hqq, hrest⟩ := append_cons_inj hq.bar_not_mem hq'.bar_not_mem h
  obtain ⟨ht, hargs⟩ := append_cons_inj (not_mem_decimal (by decide) t) (not_mem_decimal (by decide) t') hrest
  exact ⟨hqq, decimal_inj ht, args_of_join hm hm' hargs⟩

/-- The request of a node whose expression parses. -/
def forwardRequest (protocol : Text) (targetPort : Nat) (externalPort : Text) : Option ForwardRequest :=
  match portExpression externalPort with
  | .ok ports => some { protocol, targetPort, ports }
  | .error _ => none

theorem forwardRequest_toList (protocol : Text) (targetPort : Nat) (externalPort : Text) :
    (forwardRequest protocol targetPort externalPort).toList =
      match portExpression externalPort with
      | .ok ports => [⟨protocol, targetPort, ports⟩]
      | .error _ => [] := by
  unfold forwardRequest
  cases portExpression externalPort <;> rfl

def hysteriaRequest (info : NodeInfo) : Option ForwardRequest :=
  if info.protocol = .hysteria2 ∧ info.common.serverPort ≠ 0 then
    forwardRequest "udp" info.common.serverPort (hysteriaExternalPort info)
  else none

def mieruRequest (info : NodeInfo) : Option ForwardRequest :=
  if info.protocol = .mieru ∧ info.common.serverPort ≠ 0 then
    match mieruPortForwardProtocol info.common.transport with
    | .ok protocol => forwardRequest protocol info.common.serverPort (mieruExternalPort info)
    | .error _ => none
  else none

/-- A Hysteria 2 node of the list has this server port. -/
def hysteriaServerPort (infos : List NodeInfo) (_ : Text) (p : Nat) : Prop :=
  ∃ info ∈ infos, info.protocol = .hysteria2 ∧ 0 < info.common.serverPort ∧ info.common.serverPort = p

/-- A Mieru node of the list with transport `q` has this server port. -/
def mieruServerPort (infos : List NodeInfo) (q : Text) (p : Nat) : Prop :=
  ∃ info ∈ infos, info.protocol = .mieru ∧ 0 < info.common.serverPort ∧
    mieruPortForwardProtocol info.common.transport = .ok q ∧ info.common.serverPort = p

theorem mem_collectHysteriaTargetPorts {infos : List NodeInfo} {q : Text} {p : Nat} :
    p ∈ collectHysteriaTargetPorts infos ↔ hysteriaServerPort infos q p := by
  simp only [collectHysteriaTargetPorts, hysteriaServerPort, Std.ExtTreeMap.mem_ofList,
    List.contains_iff_mem, List.mem_map, List.mem_filter, decide_eq_true_eq]
  constructor
  · rintro ⟨_, ⟨info, ⟨⟨hi, hp⟩, hpos⟩, rfl⟩, rfl⟩
    exact ⟨info, hi, hp, hpos, rfl⟩
  · rintro ⟨info, hi, hp, hpos, rfl⟩
    exact ⟨_, ⟨info, ⟨⟨hi, hp⟩, hpos⟩, rfl⟩, rfl⟩

theorem mem_collectMieruTargetPort {out : BTreeMap Text (BTreeMap Nat Nat)} {info : NodeInfo} {q : Text} {p : Nat} :
    p ∈ (collectMieruTargetPort out info).getD q ∅ ↔
      p ∈ out.getD q ∅ ∨ (info.protocol = .mieru ∧ 0 < info.common.serverPort ∧
        mieruPortForwardProtocol info.common.transport = .ok q ∧ info.common.serverPort = p) := by
  unfold collectMieruTargetPort
  by_cases hskip : info.protocol ≠ .mieru ∨ info.common.serverPort = 0
  · rw [if_pos hskip]
    refine ⟨Or.inl, ?_⟩
    rintro (h | ⟨hp, hpos, _⟩)
    · exact h
    · exact absurd hskip (by rw [not_or]; exact ⟨by simpa using hp, by omega⟩)
  · rw [if_neg hskip]
    rw [not_or, not_not] at hskip
    cases hq : mieruPortForwardProtocol info.common.transport with
    | error e => simp
    | ok protocol =>
      simp only [Std.ExtTreeMap.getD_insert, Std.compare_eq_iff_eq, Except.ok.injEq]
      by_cases heq : protocol = q
      · subst heq
        have hpos : 0 < info.common.serverPort := by omega
        simp only [if_true, Std.ExtTreeMap.mem_insert, Std.compare_eq_iff_eq, hskip.1, hpos, true_and]
        exact or_comm
      · simp only [heq, if_false, false_and, and_false, or_false]

theorem mem_collectMieruTargetPortsByProtocol {infos : List NodeInfo} {q : Text} {p : Nat} :
    p ∈ (collectMieruTargetPortsByProtocol infos).getD q ∅ ↔ mieruServerPort infos q p := by
  have hfold : ∀ (infos : List NodeInfo) (out : BTreeMap Text (BTreeMap Nat Nat)),
      p ∈ (infos.foldl collectMieruTargetPort out).getD q ∅ ↔ p ∈ out.getD q ∅ ∨ mieruServerPort infos q p := by
    intro infos
    induction infos with
    | nil => intro out; simp [mieruServerPort]
    | cons info infos ih =>
      intro out
      rw [List.foldl_cons, ih, mem_collectMieruTargetPort]
      simp only [mieruServerPort, List.mem_cons, exists_eq_or_imp]
      tauto
  rw [collectMieruTargetPortsByProtocol, hfold]
  simp

theorem Allotted.errors {family : ForwardFamily} {known : Text → Prop} {st : BuildState}
    (h : Allotted family known blocked requests st) (errors : List Text) :
    Allotted family known blocked requests { st with errors } :=
  ⟨⟨h.keyed.comment, h.keyed.known, h.keyed.wellFormed, h.keyed.seen⟩, h.allocated, h.rules⟩

/-- **Step**: the Hysteria 2 loop body serves the node's request. -/
theorem hysteriaStep_spec {infos : List NodeInfo} {info : NodeInfo} (hmem : info ∈ infos) {st : BuildState}
    (h : Allotted hysteriaFamily (· = "udp") (hysteriaServerPort infos) requests st) :
    Allotted hysteriaFamily (· = "udp") (hysteriaServerPort infos) (requests ++ (hysteriaRequest info).toList)
      (hysteriaStep (collectHysteriaTargetPorts infos) st info) := by
  unfold hysteriaStep hysteriaRequest
  by_cases hproto : info.protocol = .hysteria2
  · by_cases hzero : info.common.serverPort = 0
    · simp only [hproto, hzero, ne_eq, not_true_eq_false, if_false, and_false, if_true, Option.toList_none,
        List.append_nil]
      exact h.errors _
    · simp only [hproto, hzero, ne_eq, not_true_eq_false, not_false_eq_true, and_self, if_false, if_true]
      split
      · rename_i hempty
        rw [List.isEmpty_iff.1 hempty, forwardRequest_toList, portExpression_nil, List.append_nil]
        exact h
      · rw [forwardRequest_toList]
        exact allocateExternalPort_spec _ hysteriaFamily_key rfl (fun p => mem_collectHysteriaTargetPorts)
          ⟨info, hmem, hproto, by omega, rfl⟩ info.id (hysteriaExternalPort info) h
  · simp only [hproto, ne_eq, not_false_eq_true, if_true, false_and, if_false, Option.toList_none, List.append_nil]
    exact h

/-- **Step**: the Mieru loop body serves the node's request. -/
theorem mieruStep_spec {infos : List NodeInfo} {info : NodeInfo} (hmem : info ∈ infos) {st : BuildState}
    (h : Allotted mieruFamily TcpOrUdp (mieruServerPort infos) requests st) :
    Allotted mieruFamily TcpOrUdp (mieruServerPort infos) (requests ++ (mieruRequest info).toList)
      (mieruStep (collectMieruTargetPortsByProtocol infos) st info) := by
  unfold mieruStep mieruRequest
  by_cases hproto : info.protocol = .mieru
  · by_cases hzero : info.common.serverPort = 0
    · simp only [hproto, hzero, ne_eq, not_true_eq_false, if_false, and_false, if_true, Option.toList_none,
        List.append_nil]
      exact h.errors _
    · simp only [hproto, hzero, ne_eq, not_true_eq_false, not_false_eq_true, and_self, if_false, if_true]
      cases hq : mieruPortForwardProtocol info.common.transport with
      | error e =>
        simp only [Option.toList_none, List.append_nil]
        split
        · exact h
        · exact h.errors _
      | ok protocol =>
        simp only
        split
        · rename_i hempty
          rw [List.isEmpty_iff.1 hempty, forwardRequest_toList, portExpression_nil, List.append_nil]
          exact h
        · rw [forwardRequest_toList]
          exact allocateExternalPort_spec _ mieruFamily_key (mieruPortForwardProtocol_ok hq)
            (fun p => mem_collectMieruTargetPortsByProtocol) ⟨info, hmem, hproto, by omega, hq, rfl⟩
            info.id (mieruExternalPort info) h
  · simp only [hproto, ne_eq, not_false_eq_true, if_true, false_and, if_false, Option.toList_none, List.append_nil]
    exact h

theorem allotted_nil (family : ForwardFamily) (known : Text → Prop) (blocked : Text → Nat → Prop) :
    Allotted family known blocked [] {} where
  keyed := ⟨by simp, by simp, by simp, by simp⟩
  allocated := by simp [AllocatedFor, granted_nil]
  rules := by simp [RuleFor, granted_nil]

/-- **Run**: a loop body that serves one node's request serves every node's, in list order. -/
theorem foldl_allotted {family : ForwardFamily} {known : Text → Prop} {step : BuildState → NodeInfo → BuildState}
    {request : NodeInfo → Option ForwardRequest} {infos : List NodeInfo}
    (hstep : ∀ info ∈ infos, ∀ requests st, Allotted family known blocked requests st →
      Allotted family known blocked (requests ++ (request info).toList) (step st info)) :
    Allotted family known blocked (infos.filterMap request) (infos.foldl step {}) := by
  have hrun : ∀ (todo : List NodeInfo), (∀ info ∈ todo, info ∈ infos) → ∀ requests st,
      Allotted family known blocked requests st →
      Allotted family known blocked (requests ++ todo.filterMap request) (todo.foldl step st) := by
    intro todo
    induction todo with
    | nil => intro _ requests st h; simpa using h
    | cons info todo ih =>
      intro hsub requests st h
      have h₁ := hstep info (hsub info List.mem_cons_self) requests st h
      have h₂ := ih (fun i hi => hsub i (List.mem_cons_of_mem _ hi)) _ _ h₁
      rw [List.append_assoc] at h₂
      cases hreq : request info with
      | none => simpa [List.filterMap_cons, hreq] using h₂
      | some r => simpa [List.filterMap_cons, hreq] using h₂
  simpa using hrun infos (fun _ h => h) [] {} (allotted_nil family known blocked)

/-- **`build_hysteria_port_forward_rules` forwards exactly the granted ports.** -/
theorem hysteria_allotted (infos : List NodeInfo) :
    Allotted hysteriaFamily (· = "udp") (hysteriaServerPort infos) (infos.filterMap hysteriaRequest)
      (infos.foldl (hysteriaStep (collectHysteriaTargetPorts infos)) {}) :=
  foldl_allotted fun _ hmem _ _ h => hysteriaStep_spec hmem h

/-- **`build_mieru_port_forward_rules` forwards exactly the granted ports.** -/
theorem mieru_allotted (infos : List NodeInfo) :
    Allotted mieruFamily TcpOrUdp (mieruServerPort infos) (infos.filterMap mieruRequest)
      (infos.foldl (mieruStep (collectMieruTargetPortsByProtocol infos)) {}) :=
  foldl_allotted fun _ hmem _ _ h => mieruStep_spec hmem h

end KeliNode
