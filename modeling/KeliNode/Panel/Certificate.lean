import KeliNode.Config.Paths
import KeliNode.Panel.Types

/-!
# Certificate paths (`panel/types.rs`)

A node whose panel names no certificate gets the paths `{directory}/{protocol}{id}.cer` and `.key`.  The directory is
in normal form, and a protocol and an id can be told apart in the stem, so the path determines all three
(`defaultCertPath_inj`).

| here | there |
|---|---|
| `NodeInfo.fromCommonWithConfigDir` | `types.rs:271` |
| `buildCertInfo`, `defaultCertPath` | `types.rs:506` |

`dns_env` and `provider` are read by nothing in the model and left out, as are the two report intervals.
-/

namespace KeliNode

open Lib

/-- The fields of `TlsSettings` that only `build_cert_info` reads. -/
structure CertSettings where
  certFile : Text := []
  keyFile : Text := []
  rejectUnknownSni : Text := []
  deriving DecidableEq

/-- What a panel sends for a node: `CommonNode`, with the fields that only `from_common_with_config_dir` reads. -/
structure PanelCommon where
  protocol : Text := []
  common : CommonNode := {}
  certSettings : CertSettings := {}

def protocols : List Protocol :=
  [.vmess, .vless, .trojan, .shadowsocks, .hysteria2, .tuic, .anytls, .socks, .http, .naive, .mieru]

/-- `Protocol::parse` (`types.rs:311`). -/
def Protocol.parse (value : Text) : Option Protocol := protocols.find? (·.asStr = asciiLower (trim value))

/-- `Security::from_tls_value` (`types.rs:346`). -/
def Security.fromTlsValue : Nat → Security
  | 0 => .none
  | 1 => .tls
  | 2 => .reality
  | value => .other value

/-- The path of a file that the panel does not name. -/
def defaultCertPath (configDir : Text) (protocol : Protocol) (nodeId : Nat) (extension : Text) : Text :=
  trimEndMatches (· = '/') (normalizeConfigDir configDir) ++ '/' :: (protocol.asStr ++ decimal nodeId ++ '.' :: extension)

/-- `build_cert_info` (`types.rs:506`). -/
def buildCertInfo (panel : PanelCommon) (protocol : Protocol) (nodeId : Nat) (configDir : Text) : CertInfo where
  certMode := trim panel.common.tlsSettings.certMode
  certFile := firstNonEmpty (trim panel.certSettings.certFile) (defaultCertPath configDir protocol nodeId "cer")
  keyFile := firstNonEmpty (trim panel.certSettings.keyFile) (defaultCertPath configDir protocol nodeId "key")
  certDomain := trim panel.common.tlsSettings.serverName
  rejectUnknownSni := decide (trim panel.certSettings.rejectUnknownSni = "1")

/-- `from_common_with_config_dir` (`types.rs:271`). -/
def NodeInfo.fromCommonWithConfigDir (apiHost : Text) (nodeId : Nat) (configDir : Text) (panel : PanelCommon) :
    Except Text NodeInfo :=
  match Protocol.parse panel.protocol with
  | none => .error ("unsupported protocol: " ++ panel.protocol)
  | some protocol => .ok
    { id := nodeId
      protocol
      security := Security.fromTlsValue panel.common.tls
      tag := '[' :: trimEndMatches (· = '/') apiHost ++ "]-" ++ protocol.asStr ++ ":" ++ decimal nodeId
      common := { panel.common with certInfo := some (buildCertInfo panel protocol nodeId configDir) } }

/-- The panel names neither file. -/
structure PanelCommon.NoFiles (panel : PanelCommon) : Prop where
  certFile : trim panel.certSettings.certFile = []
  keyFile : trim panel.certSettings.keyFile = []

/-! ## The stem -/

theorem asStr_take_two_inj {p q : Protocol} (h : p.asStr.take 2 = q.asStr.take 2) : p = q := by
  cases p <;> cases q <;> first | rfl | exact absurd h (by decide)

theorem two_le_length_asStr (p : Protocol) : 2 ≤ p.asStr.length := by
  cases p <;> decide

theorem slash_not_mem_asStr (p : Protocol) : '/' ∉ p.asStr := by
  cases p <;> decide

/-- The protocol is known from its first two letters, and the id is the rest. -/
theorem stem_inj {p q : Protocol} {m n : Nat} (h : p.asStr ++ decimal m = q.asStr ++ decimal n) : p = q ∧ m = n := by
  have htake : ∀ (protocol : Protocol) (rest : Text), (protocol.asStr ++ rest).take 2 = protocol.asStr.take 2 :=
    fun protocol _ => List.take_append_of_le_length (two_le_length_asStr protocol)
  have hprotocol : p = q := by
    apply asStr_take_two_inj
    rw [← htake p (decimal m), h, htake]
  subst hprotocol
  exact ⟨rfl, decimal_inj (List.append_cancel_left h)⟩

/-! ## The path -/

/-- The last separator splits a text in one way. -/
theorem append_cons_inj_last {sep : Char} {a b x y : Text} (hx : sep ∉ x) (hy : sep ∉ y)
    (h : a ++ sep :: x = b ++ sep :: y) : a = b ∧ x = y := by
  have hreverse := congrArg List.reverse h
  rw [List.reverse_append, List.reverse_append, List.reverse_cons, List.reverse_cons, List.append_assoc,
    List.append_assoc] at hreverse
  obtain ⟨hxy, hab⟩ := append_cons_inj (mt List.mem_reverse.1 hx) (mt List.mem_reverse.1 hy) hreverse
  exact ⟨List.reverse_injective hab, List.reverse_injective hxy⟩

/-- **Paths determine their nodes**: the directory in normal form, the protocol and the id. -/
theorem defaultCertPath_inj {dir dir' extension : Text} {p q : Protocol} {m n : Nat} (hextension : '/' ∉ extension)
    (h : defaultCertPath dir p m extension = defaultCertPath dir' q n extension) :
    normalizeConfigDir dir = normalizeConfigDir dir' ∧ p = q ∧ m = n := by
  have hfile : ∀ (protocol : Protocol) (id : Nat), '/' ∉ protocol.asStr ++ decimal id ++ '.' :: extension := by
    intro protocol id
    rw [List.mem_append, List.mem_append, List.mem_cons]
    rintro ((hmem | hmem) | hdot | hmem)
    · exact slash_not_mem_asStr protocol hmem
    · exact not_mem_decimal (by decide) id hmem
    · exact absurd hdot (by decide)
    · exact hextension hmem
  obtain ⟨hdir, hfiles⟩ := append_cons_inj_last (hfile p m) (hfile q n) h
  exact ⟨eq_of_trimEndMatches (normalizeConfigDir_end dir) (normalizeConfigDir_end dir') hdir,
    stem_inj (List.append_cancel_right hfiles)⟩

/-- Only the directory in normal form counts. -/
theorem defaultCertPath_congr {dir dir' : Text} (h : normalizeConfigDir dir = normalizeConfigDir dir') (p : Protocol)
    (n : Nat) (extension : Text) : defaultCertPath dir p n extension = defaultCertPath dir' p n extension := by
  rw [defaultCertPath, defaultCertPath, h]

section

variable {panel : PanelCommon} {apiHost configDir : Text} {nodeId : Nat} {info : NodeInfo} {protocol : Protocol}

theorem fromCommon_eq_ok (h : NodeInfo.fromCommonWithConfigDir apiHost nodeId configDir panel = .ok info) :
    ∃ protocol, Protocol.parse panel.protocol = some protocol ∧
      info.common.certInfo = some (buildCertInfo panel protocol nodeId configDir) := by
  rw [NodeInfo.fromCommonWithConfigDir] at h
  cases hprotocol : Protocol.parse panel.protocol with
  | none =>
    rw [hprotocol] at h
    cases h
  | some protocol =>
    rw [hprotocol] at h
    cases h
    exact ⟨protocol, rfl, rfl⟩

theorem fromCommon_of_parse (h : Protocol.parse panel.protocol = some protocol) :
    ∃ info, NodeInfo.fromCommonWithConfigDir apiHost nodeId configDir panel = .ok info ∧
      info.common.certInfo = some (buildCertInfo panel protocol nodeId configDir) := by
  rw [NodeInfo.fromCommonWithConfigDir, h]
  exact ⟨_, rfl, rfl⟩

theorem certFile_of_noFiles (h : panel.NoFiles) :
    (buildCertInfo panel protocol nodeId configDir).certFile = defaultCertPath configDir protocol nodeId "cer" := by
  rw [buildCertInfo, firstNonEmpty, h.certFile]
  rfl

theorem keyFile_of_noFiles (h : panel.NoFiles) :
    (buildCertInfo panel protocol nodeId configDir).keyFile = defaultCertPath configDir protocol nodeId "key" := by
  rw [buildCertInfo, firstNonEmpty, h.keyFile]
  rfl

end

end KeliNode
