import KeliNode.Control.Apply
import KeliNode.Core.RoutesKept
import KeliNode.Runtime.Listeners

/-!
# Listener specs and sockets

Which sockets a rendered inbound makes the core bind, against the listener specs of the conflict filter
(`runtime.rs:316`) and of the availability probe (`control.rs:267`).  They are the same for every protocol but two
(`listenersAgree_iff`): the probe does not know `naive`, and the UDP socket of a `shadowsocks` node is seen only if
the panel's network has `udp` in it as it stands.
-/

namespace KeliNode

open Lib Lib.Json

/-! ## Sockets -/

/-- The L4 networks that a transport's network names. -/
def namedNetworks (network : Text) : List Text :=
  ((splitOn ',' network).map fun name => asciiLower (trim name)).filter fun name => oneOf name ["tcp", "udp"]

/-- The L4 networks the core binds for a protocol and a transport. -/
def socketNetworks (protocol : Text) (transport : Value) : List Text :=
  if oneOf protocol ["hysteria2", "tuic"] then ["udp"]
  else if oneOf protocol ["shadowsocks", "mieru"] then namedNetworks (((transport.get "network").bind asStr).getD [])
  else ["tcp"]

/-- The L4 networks the rendered inbound makes the core bind. -/
def boundNetworks (inbound : InboundPlan) : List Text :=
  socketNetworks (keliCoreRsProtocolName inbound) (renderKeliCoreRsTransport inbound)

/-- The L4 networks of an inbound of the rendered configuration. -/
def renderedNetworks (rendered : Value) : Option (List Text) :=
  ((rendered.get "protocol").bind asStr).bind fun protocol => (rendered.get "transport").map (socketNetworks protocol)

/-- Both lists of specs name the networks that are bound. -/
structure ListenersAgree (inbound : InboundPlan) : Prop where
  runtime : ∀ network, network ∈ (runtimeListenerSpecs inbound).map (·.network) ↔ network ∈ boundNetworks inbound
  control : ∀ network, network ∈ (controlListenerSpecs inbound).map (·.network) ↔ network ∈ boundNetworks inbound

/-- Two listen addresses are one, or one of them is every address. -/
def ListensOverlap (a b : Text) : Prop := a = b ∨ isWildcardListen a = true ∨ isWildcardListen b = true

/-- Two inbounds bind one socket: a network of both, one port, overlapping addresses.  The addresses are compared as
texts, as the code does, so that two spellings of one address are two. -/
def SocketsConflict (a b : InboundPlan) : Prop :=
  (∃ network, network ∈ boundNetworks a ∧ network ∈ boundNetworks b) ∧ a.port = b.port ∧
    ListensOverlap (normalizeRuntimeListen a.listen) (normalizeRuntimeListen b.listen)

/-- The nodes whose sockets the specs know. -/
def specsKnow (node : NodeInfo) : Bool :=
  node.protocol ≠ .naive && (node.protocol ≠ .shadowsocks || asciiLower (trim node.common.network) = "tcp" ||
    containsText "udp" (trim node.common.network))

/-! ## The rendered members -/

/-- Rendered or not yet rendered, an inbound binds the same networks. -/
theorem renderedNetworks_eq {fromStr : Text → Option Value} {inbound : InboundPlan} {includeUsers : Bool}
    {rendered : Value} (h : renderKeliCoreRsInbound fromStr inbound includeUsers = .ok rendered) :
    renderedNetworks rendered = some (boundNetworks inbound) := by
  obtain ⟨routes, -, h⟩ := bind_eq_ok.1 h
  cases h
  have hkeys : (["tag", "protocol", "listen", "port", "cipher", "flow", "padding_scheme", "users", "transport", "tls",
      "sniffing", "routes"].map String.toList).Nodup := by decide
  rw [renderedNetworks, get_ofFields_at _ hkeys rfl 1 rfl, get_ofFields_at _ hkeys rfl 8 rfl]
  rfl

theorem not_mem_fieldIf {present : Bool} {key : String} {value : Value} {name : Text} (hne : key.toList ≠ name) :
    ∀ field ∈ fieldIf present key value, field.1 ≠ name := by
  intro field hfield
  cases present with
  | false => cases hfield
  | true =>
    rcases List.mem_singleton.1 hfield with rfl
    exact hne

/-- The `network` of a rendered transport; the other members have other names. -/
theorem get_transport_network (inbound : InboundPlan) :
    (renderKeliCoreRsTransport inbound).get "network" = some (.string (keliCoreRsTransportNetwork inbound)) := by
  change (ofFields (_ ++ _ ++ _ ++ _ ++ _ ++ _ ++ _)).get "network" = _
  rw [get_ofFields_append (not_mem_fieldIf (by decide)), get_ofFields_append (not_mem_fieldIf (by decide)),
    get_ofFields_append (not_mem_fieldIf (by decide)), get_ofFields_append (not_mem_fieldIf (by decide)),
    get_ofFields_append (not_mem_fieldIf (by decide)), get_ofFields_append (not_mem_fieldIf (by decide))]
  exact get_ofFields_at ["network", "path", "host", "service_name", "proxy_protocol"] (by decide) rfl 0 rfl

/-! ## What the checks leave -/

section

variable {inbound : InboundPlan}

theorem of_reject_not {good : Bool} {message : Text} {u : Unit} (h : reject (!good) message = .ok u) : good = true := by
  cases good with
  | true => rfl
  | false => cases h

/-- A plain TCP inbound that is accepted has one of its protocol's networks. -/
theorem network_of_plainTcp (h : validateKeliCoreRsPlainTcpInbound inbound = .ok ()) :
    (if inbound.protocol = "shadowsocks" then oneOf (asciiLower (firstNonEmpty (trim inbound.network) "tcp"))
        ["tcp", "tcp,udp"]
      else decide (asciiLower (firstNonEmpty (trim inbound.network) "tcp") = "tcp")) = true := by
  obtain ⟨_, hnetwork, -⟩ := bind_eq_ok.1 h
  exact of_reject_not hnetwork

theorem validate_protocol {allowList : Option Text} (h : validateKeliCoreRsInbound inbound allowList = .ok ()) :
    validateKeliCoreRsProtocol inbound = .ok () := by
  obtain ⟨-, -, h⟩ := bind_eq_ok.1 h
  obtain ⟨_, hprotocol, -⟩ := bind_eq_ok.1 h
  exact hprotocol

theorem build_protocol_network {node : NodeInfo} {users : List UserInfo}
    (h : buildInboundPlanWithUsers node users = .ok inbound) :
    inbound.protocol = coreProtocolName node.protocol ∧ coreNetworkName node = .ok inbound.network := by
  unfold buildInboundPlanWithUsers at h
  split at h
  · cases h
  · obtain ⟨network, hnetwork, h⟩ := bind_eq_ok.1 h
    obtain ⟨decryption, -, h⟩ := bind_eq_ok.1 h
    cases h
    exact ⟨rfl, hnetwork⟩

/-! ## Networks of specs -/

theorem runtime_networks (inbound : InboundPlan) : (runtimeListenerSpecs inbound).map (·.network) =
    (if inboundBindsTcp inbound then ["tcp".toList] else []) ++ if inboundBindsUdp inbound then ["udp".toList] else [] := by
  unfold runtimeListenerSpecs
  cases inboundBindsTcp inbound <;> cases inboundBindsUdp inbound <;> rfl

theorem control_networks (inbound : InboundPlan) : (controlListenerSpecs inbound).map (·.network) =
    (if controlInboundBindsTcp inbound then ["tcp".toList] else []) ++
      if inboundBindsUdp inbound then ["udp".toList] else [] := by
  unfold controlListenerSpecs controlInboundBindsUdp
  cases controlInboundBindsTcp inbound <;> cases inboundBindsUdp inbound <;> rfl

/-- Everything the three tables say of a protocol but `shadowsocks` and `mieru`. -/
structure TableRow (inbound : InboundPlan) (runtime control bound : List Text) : Prop where
  runtime : (runtimeListenerSpecs inbound).map (·.network) = runtime
  control : (controlListenerSpecs inbound).map (·.network) = control
  bound : boundNetworks inbound = bound

theorem TableRow.agree {runtime control bound : List Text} (h : TableRow inbound runtime control bound)
    (hruntime : runtime = bound) (hcontrol : control = bound) : ListenersAgree inbound := by
  refine ⟨fun network => ?_, fun network => ?_⟩
  · rw [h.runtime, h.bound, hruntime]
  · rw [h.control, h.bound, hcontrol]

/-- A stream protocol: one TCP socket everywhere. -/
theorem row_of_stream (hprotocol : inbound.protocol ∈
    (["socks", "http", "vless", "vmess", "trojan", "anytls"].map String.toList)) :
    TableRow inbound ["tcp"] ["tcp"] ["tcp"] := by
  have hfacts : ∀ protocol ∈ (["socks", "http", "vless", "vmess", "trojan", "anytls"].map String.toList),
      (["socks", "http", "vless", "vmess", "trojan", "shadowsocks", "anytls", "mieru", "naive"] : List Text).contains
        protocol = true ∧
      (["socks", "http", "vless", "vmess", "trojan", "shadowsocks", "anytls", "mieru"] : List Text).contains
        protocol = true ∧
      (["hysteria", "hysteria2", "tuic"] : List Text).contains protocol = false ∧
      decide (protocol = "shadowsocks") = false ∧ protocol ≠ "hysteria" ∧
      oneOf protocol ["hysteria2", "tuic"] = false ∧ oneOf protocol ["shadowsocks", "mieru"] = false := by decide
  obtain ⟨hruntime, hcontrol, hudp, hshadowsocks, hhysteria, hquic, hnamed⟩ := hfacts _ hprotocol
  have hbindsUdp : inboundBindsUdp inbound = false := by rw [inboundBindsUdp, hudp, hshadowsocks]; rfl
  refine ⟨?_, ?_, ?_⟩
  · rw [runtime_networks, inboundBindsTcp, hruntime, hbindsUdp]
    rfl
  · rw [control_networks, controlInboundBindsTcp, hcontrol, hbindsUdp]
    rfl
  · rw [boundNetworks, socketNetworks, keliCoreRsProtocolName, if_neg hhysteria, hquic, hnamed]
    rfl

/-- `hysteria2` and `tuic`: one UDP socket everywhere. -/
theorem row_of_quic (hprotocol : inbound.protocol ∈ (["hysteria", "tuic"].map String.toList)) :
    TableRow inbound ["udp"] ["udp"] ["udp"] := by
  refine ⟨?_, ?_, ?_⟩ <;> rcases List.mem_pair.1 hprotocol with hprotocol | hprotocol
  · rw [runtime_networks, inboundBindsTcp, inboundBindsUdp, hprotocol]
    rfl
  · rw [runtime_networks, inboundBindsTcp, inboundBindsUdp, hprotocol]
    rfl
  · rw [control_networks, controlInboundBindsTcp, inboundBindsUdp, hprotocol]
    rfl
  · rw [control_networks, controlInboundBindsTcp, inboundBindsUdp, hprotocol]
    rfl
  · rw [boundNetworks, keliCoreRsProtocolName, hprotocol]
    rfl
  · rw [boundNetworks, keliCoreRsProtocolName, hprotocol]
    rfl

/-- `naive`: the probe has no socket for it. -/
theorem row_of_naive (hprotocol : inbound.protocol = "naive") : TableRow inbound ["tcp"] [] ["tcp"] := by
  refine ⟨?_, ?_, ?_⟩
  · rw [runtime_networks, inboundBindsTcp, inboundBindsUdp, hprotocol]
    rfl
  · rw [control_networks, controlInboundBindsTcp, inboundBindsUdp, hprotocol]
    rfl
  · rw [boundNetworks, keliCoreRsProtocolName, hprotocol]
    rfl

/-- `mieru`: only its TCP underlay is accepted. -/
theorem row_of_mieru (hprotocol : inbound.protocol = "mieru")
    (hnetwork : asciiLower (firstNonEmpty (trim inbound.network) "tcp") = "tcp") :
    TableRow inbound ["tcp"] ["tcp"] ["tcp"] := by
  refine ⟨?_, ?_, ?_⟩
  · rw [runtime_networks, inboundBindsTcp, inboundBindsUdp, hprotocol]
    rfl
  · rw [control_networks, controlInboundBindsTcp, inboundBindsUdp, hprotocol]
    rfl
  · have htransport : keliCoreRsTransportNetwork inbound = "tcp" := by
      rw [keliCoreRsTransportNetwork, hprotocol, hnetwork]
      rfl
    rw [boundNetworks, keliCoreRsProtocolName, hprotocol, socketNetworks, get_transport_network, htransport]
    rfl

/-- `shadowsocks`: TCP, and UDP as the specs and the renderer each read it. -/
theorem row_of_shadowsocks (hprotocol : inbound.protocol = "shadowsocks") :
    TableRow inbound ("tcp".toList :: if containsText "udp" inbound.network then ["udp".toList] else [])
      ("tcp".toList :: if containsText "udp" inbound.network then ["udp".toList] else [])
      (namedNetworks (keliCoreRsTransportNetwork inbound)) := by
  refine ⟨?_, ?_, ?_⟩
  · rw [runtime_networks, inboundBindsTcp, inboundBindsUdp, hprotocol]
    cases containsText "udp" inbound.network <;> rfl
  · rw [control_networks, controlInboundBindsTcp, inboundBindsUdp, hprotocol]
    cases containsText "udp" inbound.network <;> rfl
  · rw [boundNetworks, keliCoreRsProtocolName, hprotocol, socketNetworks, get_transport_network]
    rfl

/-! ## Shadowsocks -/

theorem containsText_map (f : Char → Char) {needle : Text} (hneedle : needle.map f = needle) {s : Text}
    (h : containsText needle s = true) : containsText needle (s.map f) = true := by
  induction s with
  | nil => exact h
  | cons c s ih =>
    rw [List.map_cons, containsText, Bool.or_eq_true]
    rw [containsText, Bool.or_eq_true] at h
    rcases h with h | h
    · refine .inl (List.isPrefixOf_iff_prefix.2 ?_)
      have hfront := (List.isPrefixOf_iff_prefix.1 h).map f
      rwa [hneedle, List.map_cons] at hfront
    · exact .inr (ih h)

theorem not_contains_udp {network : Text} (h : asciiLower network = "tcp") : containsText "udp" network = false := by
  cases hcontains : containsText "udp" network with
  | false => rfl
  | true =>
    have hlower := containsText_map Char.toLower (by decide) hcontains
    rw [← asciiLower, h] at hlower
    exact absurd hlower (by decide)

/-- The network of a `shadowsocks` inbound as it is rendered: both where the panel names none. -/
theorem shadowsocks_network (hprotocol : inbound.protocol = "shadowsocks")
    (hnetwork : oneOf (asciiLower (firstNonEmpty (trim inbound.network) "tcp")) ["tcp", "tcp,udp"] = true) :
    (trim inbound.network = [] ∧ keliCoreRsTransportNetwork inbound = "tcp,udp") ∨
      (asciiLower (trim inbound.network) = "tcp" ∧ keliCoreRsTransportNetwork inbound = "tcp") ∨
      (asciiLower (trim inbound.network) = "tcp,udp" ∧ keliCoreRsTransportNetwork inbound = "tcp,udp") := by
  by_cases hempty : trim inbound.network = []
  · exact .inl ⟨hempty, by rw [keliCoreRsTransportNetwork, hprotocol, hempty]; rfl⟩
  · have hfirst : firstNonEmpty (trim inbound.network) "tcp" = trim inbound.network := by
      rw [firstNonEmpty, if_neg (by simpa using hempty)]
    rw [hfirst] at hnetwork
    have hcases : asciiLower (trim inbound.network) = "tcp" ∨ asciiLower (trim inbound.network) = "tcp,udp" := by
      simpa only [oneOf, List.any_cons, List.any_nil, Bool.or_false, Bool.or_eq_true, decide_eq_true_eq] using hnetwork
    have hisEmpty : (trim inbound.network).isEmpty = false := by simpa using hempty
    rcases hcases with htcp | hboth
    · exact .inr (.inl ⟨htcp, by rw [keliCoreRsTransportNetwork, hprotocol, hisEmpty, hfirst, htcp]; rfl⟩)
    · exact .inr (.inr ⟨hboth, by rw [keliCoreRsTransportNetwork, hprotocol, hisEmpty, hfirst, hboth]; rfl⟩)

/-- The specs of a `shadowsocks` inbound know its sockets where its network is TCP alone or has `udp` in it. -/
theorem shadowsocks_agree_iff (hprotocol : inbound.protocol = "shadowsocks")
    (hnetwork : oneOf (asciiLower (firstNonEmpty (trim inbound.network) "tcp")) ["tcp", "tcp,udp"] = true)
    (htrim : trim inbound.network = inbound.network) :
    ListenersAgree inbound ↔ asciiLower inbound.network = "tcp" ∨ containsText "udp" inbound.network = true := by
  have hrow := row_of_shadowsocks hprotocol
  have hudp : ("udp".toList ∈ "tcp".toList :: if containsText "udp" inbound.network then ["udp".toList] else []) ↔
      containsText "udp" inbound.network = true := by
    cases containsText "udp" inbound.network <;> decide
  rcases shadowsocks_network hprotocol hnetwork with ⟨hempty, hboth⟩ | ⟨hlower, hone⟩ | ⟨hlower, hboth⟩
  · -- the renderer opens both sockets, the specs read the empty text
    rw [htrim] at hempty
    rw [hboth] at hrow
    refine ⟨fun hagree => ?_, fun h => ?_⟩
    · have hmem := (hagree.runtime "udp").2 (by rw [hrow.bound]; decide)
      rw [hrow.runtime, hudp] at hmem
      exact .inr hmem
    · rw [hempty] at h
      exact absurd h (by decide)
  · rw [htrim] at hlower
    rw [hone, not_contains_udp hlower] at hrow
    exact ⟨fun _ => .inl hlower, fun _ => hrow.agree (by decide) (by decide)⟩
  · rw [htrim] at hlower
    rw [hboth] at hrow
    refine ⟨fun hagree => ?_, fun h => ?_⟩
    · have hmem := (hagree.runtime "udp").2 (by rw [hrow.bound]; decide)
      rw [hrow.runtime, hudp] at hmem
      exact .inr hmem
    · rcases h with h | h
      · rw [hlower] at h
        exact absurd h (by decide)
      · rw [h] at hrow
        exact hrow.agree (by decide) (by decide)

/-! ## Nodes -/

variable {node : NodeInfo} {users : List UserInfo} {allowList : Option Text}

theorem naive_disagree (hprotocol : inbound.protocol = "naive") : ¬ListenersAgree inbound := by
  intro hagree
  have hrow := row_of_naive hprotocol
  have hmem := (hagree.control "tcp").2 (by rw [hrow.bound]; decide)
  rw [hrow.control] at hmem
  cases hmem

/-- The network of a `shadowsocks` node, trimmed. -/
theorem shadowsocks_build (hbuild : coreNetworkName node = .ok inbound.network) (hnode : node.protocol = .shadowsocks) :
    inbound.network = trim node.common.network := by
  rw [coreNetworkName] at hbuild
  split at hbuild
  · exact (Except.ok.inj hbuild).symm
  · rename_i hempty
    rw [hnode] at hbuild
    rw [← Except.ok.inj hbuild]
    simpa using hempty

/-- One node: its specs agree with its sockets exactly if they know them. -/
theorem agree_iff (hbuild : buildInboundPlanWithUsers node users = .ok inbound)
    (hvalid : validateKeliCoreRsInbound inbound allowList = .ok ()) :
    ListenersAgree inbound ↔ specsKnow node = true := by
  obtain ⟨hprotocol, hnetwork⟩ := build_protocol_network hbuild
  have hchecks := validate_protocol hvalid
  cases hnode : node.protocol <;> rw [hnode] at hprotocol
  case vmess | vless | trojan | anytls | socks | http =>
    have hknown : specsKnow node = true := by simp [specsKnow, hnode]
    exact iff_of_true ((row_of_stream (by rw [hprotocol]; decide)).agree rfl rfl) hknown
  case hysteria2 | tuic =>
    have hknown : specsKnow node = true := by simp [specsKnow, hnode]
    exact iff_of_true ((row_of_quic (by rw [hprotocol]; decide)).agree rfl rfl) hknown
  case naive => exact iff_of_false (naive_disagree hprotocol) (by simp [specsKnow, hnode])
  case mieru =>
    have hplain : validateKeliCoreRsPlainTcpInbound inbound = .ok () := by
      rw [validateKeliCoreRsProtocol, hprotocol] at hchecks
      exact hchecks
    have htcp := network_of_plainTcp hplain
    rw [if_neg (by rw [hprotocol]; decide), decide_eq_true_eq] at htcp
    have hknown : specsKnow node = true := by simp [specsKnow, hnode]
    exact iff_of_true ((row_of_mieru hprotocol htcp).agree rfl rfl) hknown
  case shadowsocks =>
    replace hprotocol : inbound.protocol = "shadowsocks" := hprotocol
    have hplain : validateKeliCoreRsPlainTcpInbound inbound = .ok () := by
      rw [validateKeliCoreRsProtocol, hprotocol] at hchecks
      obtain ⟨_, hplain, -⟩ := bind_eq_ok.1 hchecks
      exact hplain
    have hsupported := network_of_plainTcp hplain
    rw [if_pos hprotocol] at hsupported
    have htext := shadowsocks_build hnetwork hnode
    rw [shadowsocks_agree_iff hprotocol hsupported (by rw [htext, trim_trim]), htext]
    simp [specsKnow, hnode]

theorem spec_fields {spec : RuntimeListenerSpec} (h : spec ∈ runtimeListenerSpecs inbound) :
    spec.port = inbound.port ∧ spec.listen = normalizeRuntimeListen inbound.listen := by
  unfold runtimeListenerSpecs at h
  rcases List.mem_append.1 h with h | h <;> split at h
  case inl.isTrue | inr.isTrue =>
    rcases List.mem_singleton.1 h with rfl
    exact ⟨rfl, rfl⟩
  case inl.isFalse | inr.isFalse => cases h

theorem specs_conflict_iff {spec next : RuntimeListenerSpec} : runtimeListenerSpecsConflict spec next = true ↔
    spec.network = next.network ∧ spec.port = next.port ∧ ListensOverlap spec.listen next.listen := by
  simp only [runtimeListenerSpecsConflict, ListensOverlap, Bool.and_eq_true, Bool.or_eq_true, decide_eq_true_eq,
    and_assoc, or_assoc]

/-- Two inbounds whose specs agree with their sockets: the specs conflict exactly if the sockets do. -/
theorem conflict_iff {other : InboundPlan} (h : ListenersAgree inbound) (hother : ListenersAgree other) :
    SpecsConflict inbound other ↔ SocketsConflict inbound other := by
  constructor
  · rintro ⟨spec, hspec, next, hnext, hconflict⟩
    obtain ⟨hnetwork, hport, hlisten⟩ := specs_conflict_iff.1 hconflict
    obtain ⟨hspecPort, hspecListen⟩ := spec_fields hspec
    obtain ⟨hnextPort, hnextListen⟩ := spec_fields hnext
    rw [hspecPort, hnextPort] at hport
    rw [hspecListen, hnextListen] at hlisten
    refine ⟨⟨spec.network, (h.runtime _).1 (List.mem_map_of_mem hspec), ?_⟩, hport, hlisten⟩
    rw [hnetwork]
    exact (hother.runtime _).1 (List.mem_map_of_mem hnext)
  · rintro ⟨⟨network, hmine, htheirs⟩, hport, hlisten⟩
    obtain ⟨spec, hspec, hnetwork⟩ := List.mem_map.1 ((h.runtime _).2 hmine)
    obtain ⟨next, hnext, hnetwork'⟩ := List.mem_map.1 ((hother.runtime _).2 htheirs)
    obtain ⟨hspecPort, hspecListen⟩ := spec_fields hspec
    obtain ⟨hnextPort, hnextListen⟩ := spec_fields hnext
    refine ⟨spec, hspec, next, hnext, specs_conflict_iff.2 ⟨hnetwork.trans hnetwork'.symm, ?_, ?_⟩⟩
    · rw [hspecPort, hnextPort, hport]
    · rw [hspecListen, hnextListen]
      exact hlisten

/-- **Listener specs**, for every node whose inbound is built and accepted: both spec lists have the networks the
inbound binds, however it is rendered, exactly if the node is not `naive` and, for `shadowsocks`, its network is TCP
alone or has `udp` in it as it stands; between two such nodes the specs conflict exactly if the sockets do. -/
theorem listenersAgree_iff (hbuild : buildInboundPlanWithUsers node users = .ok inbound)
    (hvalid : validateKeliCoreRsInbound inbound allowList = .ok ()) :
    (ListenersAgree inbound ↔ specsKnow node = true) ∧
      (∀ fromStr includeUsers rendered, renderKeliCoreRsInbound fromStr inbound includeUsers = .ok rendered →
        renderedNetworks rendered = some (boundNetworks inbound)) ∧
      ∀ (otherNode : NodeInfo) (otherUsers : List UserInfo) (other : InboundPlan),
        buildInboundPlanWithUsers otherNode otherUsers = .ok other →
        validateKeliCoreRsInbound other allowList = .ok () → specsKnow node = true → specsKnow otherNode = true →
        (SpecsConflict inbound other ↔ SocketsConflict inbound other) := by
  refine ⟨agree_iff hbuild hvalid, fun _ _ _ hrender => renderedNetworks_eq hrender, ?_⟩
  intro otherNode otherUsers other hotherBuild hotherValid hknow hotherKnow
  exact conflict_iff ((agree_iff hbuild hvalid).2 hknow) ((agree_iff hotherBuild hotherValid).2 hotherKnow)

end

/-- A `shadowsocks` node with the given network. -/
def shadowsocksNode (network : Text) : NodeInfo where
  id := 1
  protocol := .shadowsocks
  tag := "node"
  common := { serverPort := 8388, network, cipher := "aes-128-gcm" }

/-- Build and accept the inbound of a node. -/
def acceptedInbound (node : NodeInfo) (users : List UserInfo) : Except Text InboundPlan := do
  let inbound ← buildInboundPlanWithUsers node users
  validateKeliCoreRsInbound inbound none
  .ok inbound

theorem acceptedInbound_spec {node : NodeInfo} {users : List UserInfo}
    (h : (acceptedInbound node users).toOption.isSome = true) :
    ∃ inbound, buildInboundPlanWithUsers node users = .ok inbound ∧ validateKeliCoreRsInbound inbound none = .ok () := by
  obtain ⟨_, h⟩ := exists_ok h
  obtain ⟨inbound, hbuild, h⟩ := bind_eq_ok.1 h
  obtain ⟨_, hvalid, -⟩ := bind_eq_ok.1 h
  exact ⟨inbound, hbuild, hvalid⟩

/-- A node that names both networks in lower case. -/
theorem listenersAgree_iff_both : ∃ inbound, buildInboundPlanWithUsers (shadowsocksNode "tcp,udp") [] = .ok inbound ∧
    validateKeliCoreRsInbound inbound none = .ok () ∧ ListenersAgree inbound := by
  obtain ⟨inbound, hbuild, hvalid⟩ := acceptedInbound_spec (show (acceptedInbound (shadowsocksNode "tcp,udp")
    []).toOption.isSome = true by decide +kernel)
  exact ⟨inbound, hbuild, hvalid, (listenersAgree_iff hbuild hvalid).1.2 (by decide)⟩

/-- A node without a network: it is rendered with both, and no spec has its UDP socket. -/
theorem shadowsocks_default_unseen :
    ∃ inbound, buildInboundPlanWithUsers (shadowsocksNode []) [] = .ok inbound ∧
      validateKeliCoreRsInbound inbound none = .ok () ∧ ¬ListenersAgree inbound := by
  obtain ⟨inbound, hbuild, hvalid⟩ := acceptedInbound_spec (show (acceptedInbound (shadowsocksNode [])
    []).toOption.isSome = true by decide +kernel)
  exact ⟨inbound, hbuild, hvalid, fun hagree => absurd ((agree_iff hbuild hvalid).1 hagree) (by decide)⟩

end KeliNode
