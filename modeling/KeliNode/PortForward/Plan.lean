import KeliNode.Panel.Types

/-!
# Port-forward planning (`port_forward.rs`)

From the panel's nodes to the NAT redirect rules of the two families that forward external ports to a
node's server port: Hysteria 2 (UDP only) and Mieru (TCP or UDP).

| here | there |
|---|---|
| `parsePortForwardMatchersAndRangesExcept` | `port_forward.rs:1485` |
| `subtractRange`, `trimTargetPortConflicts`, `trimAllocatedRangeConflicts` | `port_forward.rs:1658-1718` |
| `portForwardMatchersFromRanges` | `port_forward.rs:1720` |
| `buildHysteriaPortForwardRules` | `port_forward.rs:120` |
| `buildMieruPortForwardRules` | `port_forward.rs:197` |

Both builders run the same tail once a node's protocol is known (`allocateExternalPort`); what differs
between them is which of `port` and `ports` they prefer, Mieru's transport check, and the texts.
-/

namespace KeliNode

open Lib

def HYSTERIA_PORT_FORWARD_COMMENT : Text := "V2NODE-HY2"
def HYSTERIA_PORT_FORWARD_CHAIN : Text := "V2NODE-HY2"
def MIERU_PORT_FORWARD_COMMENT : Text := "V2NODE-MIERU"

structure PortForwardMatcher where
  args : List Text
  singlePort : Option Nat
  deriving DecidableEq

structure PortForwardRule where
  matcher : PortForwardMatcher
  targetPort : Nat
  protocol : Text
  comment : Text
  deriving DecidableEq

structure FirewallAllowRule where
  protocol : Text
  port : Nat
  comment : Text
  deriving DecidableEq

/-- `PortForwardRange`: the closed interval from `start` to `stop`. -/
structure PortForwardRange where
  start : Nat
  stop : Nat
  deriving DecidableEq

structure AllocatedPortForwardRange where
  nodeId : Nat
  targetPort : Nat
  protocol : Text
  range : PortForwardRange
  deriving DecidableEq

/-! ## Texts -/

def hexDigits (n : Nat) : Text := Nat.toDigits 16 n

/-- One character of Rust's `{:?}` on a string: quotes, backslashes and ASCII control characters are escaped.  Rust also
escapes the other characters that Unicode does not print, which are kept here. -/
def escapeDebug (c : Char) : Text :=
  if c = '"' then ['\\', '"']
  else if c = '\\' then ['\\', '\\']
  else if c = '\t' then ['\\', 't']
  else if c = '\r' then ['\\', 'r']
  else if c = '\n' then ['\\', 'n']
  else if c.toNat = 0 then ['\\', '0']
  else if c.toNat < 32 ∨ c.toNat = 127 then
    ['\\', 'u', Char.ofNat 0x7b] ++ hexDigits c.toNat ++ [Char.ofNat 0x7d]
  else [c]

def debugText (s : Text) : Text := '"' :: s.flatMap escapeDebug ++ ['"']

/-! ## Parsing a port expression -/

/-- `parse_port_number` (`port_forward.rs:1606`). -/
def parsePortNumber (token : Text) : Except Text Nat :=
  if token.isEmpty then .error "empty port"
  else match parseUnsigned (2 ^ 32) token with
    | none => .error ("invalid port " ++ debugText token)
    | some port =>
      if port = 0 ∨ port > 65535 then .error ("port out of range " ++ debugText token) else .ok port

/-- `parse_port_range` (`port_forward.rs:1592`). -/
def parsePortRange (token : Text) : Except Text (Nat × Nat) :=
  let separator := if token.contains '-' then '-' else ':'
  match splitOn separator token with
  | [first, last] => do
    let start ← parsePortNumber first
    let stop ← parsePortNumber last
    if start > stop then .error ("invalid reversed range " ++ debugText token) else .ok (start, stop)
  | _ => .error ("invalid range " ++ debugText token)

/-- The matcher `flush_singles` makes of one chunk of single ports. -/
def singlesMatcher (chunk : List Nat) : PortForwardMatcher :=
  match chunk with
  | [port] => { args := ["--dport", decimal port], singlePort := some port }
  | _ => { args := ["-m", "multiport", "--dports", join [','] (chunk.map decimal)], singlePort := none }

/-- The `while !singles.is_empty()` loop of `flush_singles`; every round drains at least one port. -/
def singlesMatchers : Nat → List Nat → List PortForwardMatcher
  | 0, _ => []
  | _, [] => []
  | fuel + 1, port :: ports =>
    singlesMatcher ((port :: ports).take 15) :: singlesMatchers fuel ((port :: ports).drop 15)

/-- `flush_singles` (`port_forward.rs:1539`). -/
def flushSingles (singles : List Nat) (matchers : List PortForwardMatcher) : List PortForwardMatcher :=
  matchers ++ singlesMatchers singles.length singles

/-- The matcher of a range with more than one port. -/
def rangeMatcher (range : PortForwardRange) : PortForwardMatcher :=
  { args := ["--dport", decimal range.start ++ ':' :: decimal range.stop], singlePort := none }

structure ParseState where
  matchers : List PortForwardMatcher := []
  ranges : List PortForwardRange := []
  singles : List Nat := []

/-- `add_single` (`port_forward.rs:1522`). -/
def addSingle (port excludedPort : Nat) (st : ParseState) : ParseState :=
  if port = excludedPort then st
  else { st with singles := st.singles ++ [port], ranges := st.ranges ++ [⟨port, port⟩] }

/-- The pieces `add_range` appends: the range with the excluded port cut out. -/
def rangePieces (start stop excludedPort : Nat) : List PortForwardRange :=
  if 0 < excludedPort ∧ start ≤ excludedPort ∧ excludedPort ≤ stop then
    (if start < excludedPort then [⟨start, excludedPort - 1⟩] else []) ++
    (if excludedPort < stop then [⟨excludedPort + 1, stop⟩] else [])
  else [⟨start, stop⟩]

/-- `add_range` (`port_forward.rs:1567`). -/
def addRange (start stop excludedPort : Nat) (st : ParseState) : ParseState :=
  let pieces := rangePieces start stop excludedPort
  { st with ranges := st.ranges ++ pieces, matchers := st.matchers ++ pieces.map rangeMatcher }

/-- One round of the token loop of `parse_port_forward_matchers_and_ranges_except`. -/
def addToken (excludedPort : Nat) (st : ParseState) (token : Text) : Except Text ParseState :=
  if token.isEmpty then .error "empty token"
  else if token.contains '-' || token.contains ':' then do
    let (start, stop) ← parsePortRange token
    if start = stop then .ok (addSingle start excludedPort st)
    else .ok (addRange start stop excludedPort
      { st with singles := [], matchers := flushSingles st.singles st.matchers })
  else do
    let port ← parsePortNumber token
    .ok (addSingle port excludedPort st)

/-- `raw.trim().replace(' ', "")`. -/
def cleanPortExpression (raw : Text) : Text := (trim raw).filter (· ≠ ' ')

/-- `parse_port_forward_matchers_and_ranges_except` (`port_forward.rs:1485`). -/
def parsePortForwardMatchersAndRangesExcept (raw : Text) (excludedPort : Nat) :
    Except Text (List PortForwardMatcher × List PortForwardRange) :=
  let cleaned := cleanPortExpression raw
  if cleaned.isEmpty then .error "empty port"
  else do
    let st ← (splitOn ',' cleaned).foldlM (addToken excludedPort) {}
    .ok (flushSingles st.singles st.matchers, st.ranges)

/-! ## Cutting ranges -/

/-- `PortForwardRange::overlaps`. -/
def PortForwardRange.overlaps (range other : PortForwardRange) : Bool :=
  decide (range.start ≤ other.stop) && decide (other.start ≤ range.stop)

/-- `u16::saturating_add(1)`. -/
def saturatingSucc16 (n : Nat) : Nat := min (n + 1) 65535

/-- The loop body of `subtract_range`: what is left of one range. -/
def subtractFrom (blocked range : PortForwardRange) : List PortForwardRange :=
  if !range.overlaps blocked then [range]
  else
    (if range.start < blocked.start then [⟨range.start, blocked.start - 1⟩] else []) ++
    (if blocked.stop < range.stop then [⟨saturatingSucc16 blocked.stop, range.stop⟩] else [])

/-- `subtract_range` (`port_forward.rs:1694`). -/
def subtractRange (ranges : List PortForwardRange) (blocked : PortForwardRange) : List PortForwardRange :=
  ranges.flatMap (subtractFrom blocked)

/-- `subtract_single_port` (`port_forward.rs:1684`). -/
def subtractSinglePort (ranges : List PortForwardRange) (port : Nat) : List PortForwardRange :=
  subtractRange ranges ⟨port, port⟩

/-- `trim_target_port_conflicts` (`port_forward.rs:1658`). -/
def trimTargetPortConflicts (ranges : List PortForwardRange) (targetPort : Nat)
    (targetPorts : BTreeMap Nat Nat) : List PortForwardRange :=
  targetPorts.keys.foldl (fun ranges port =>
    if port = targetPort then ranges else subtractSinglePort ranges port) ranges

/-- `trim_allocated_range_conflicts` (`port_forward.rs:1670`). -/
def trimAllocatedRangeConflicts (ranges : List PortForwardRange) (targetPort : Nat) (protocol : Text)
    (allocated : List AllocatedPortForwardRange) : List PortForwardRange :=
  allocated.foldl (fun ranges existing =>
    if existing.targetPort = targetPort ∨ existing.protocol ≠ protocol then ranges
    else subtractRange ranges existing.range) ranges

/-- One round of `port_forward_matchers_from_ranges`: single ports wait in `singles`, a wider range
flushes them first. -/
def addMatcherRange (acc : List PortForwardMatcher × List Nat) (range : PortForwardRange) :
    List PortForwardMatcher × List Nat :=
  if range.start = range.stop then (acc.1, acc.2 ++ [range.start])
  else (flushSingles acc.2 acc.1 ++ [rangeMatcher range], [])

/-- `port_forward_matchers_from_ranges` (`port_forward.rs:1720`). -/
def portForwardMatchersFromRanges (ranges : List PortForwardRange) : List PortForwardMatcher :=
  let acc := ranges.foldl addMatcherRange ([], [])
  flushSingles acc.2 acc.1

/-! ## The builders -/

/-- `collect_hysteria_target_ports` (`port_forward.rs:1619`). -/
def collectHysteriaTargetPorts (infos : List NodeInfo) : BTreeMap Nat Nat :=
  Std.ExtTreeMap.ofList
    (((infos.filter (·.protocol = .hysteria2)).filter (0 < ·.common.serverPort)).map fun info =>
      (info.common.serverPort, info.id))

/-- `mieru_port_forward_protocol` (`port_forward.rs:1646`). -/
def mieruPortForwardProtocol (raw : Text) : Except Text Text :=
  let value := trim raw
  if value.isEmpty then .ok "tcp"
  else
    let upper := asciiUpper value
    if upper = "TCP" then .ok "tcp"
    else if upper = "UDP" then .ok "udp"
    else .error ("unsupported transport " ++ upper)

/-- The loop body of `collect_mieru_target_ports_by_protocol`. -/
def collectMieruTargetPort (out : BTreeMap Text (BTreeMap Nat Nat)) (info : NodeInfo) :
    BTreeMap Text (BTreeMap Nat Nat) :=
  if info.protocol ≠ .mieru ∨ info.common.serverPort = 0 then out
  else match mieruPortForwardProtocol info.common.transport with
    | .error _ => out
    | .ok protocol =>
      out.insert protocol ((out.getD protocol ∅).insert info.common.serverPort info.id)

/-- `collect_mieru_target_ports_by_protocol` (`port_forward.rs:1628`). -/
def collectMieruTargetPortsByProtocol (infos : List NodeInfo) : BTreeMap Text (BTreeMap Nat Nat) :=
  infos.foldl collectMieruTargetPort ∅

/-- The four accumulators of a builder: `rules`, `errors`, `seen` and `allocated`. -/
structure BuildState where
  rules : List PortForwardRule := []
  errors : List Text := []
  seen : List Text := []
  allocated : List AllocatedPortForwardRange := []

/-- What the two builders fill in differently in the part they share. -/
structure ForwardFamily where
  label : Text
  comment : Text
  key : Text → Nat → List Text → Text

def hysteriaFamily : ForwardFamily where
  label := "HY2"
  comment := HYSTERIA_PORT_FORWARD_COMMENT
  key _ targetPort args := decimal targetPort ++ '|' :: join [Char.ofNat 0] args

def mieruFamily : ForwardFamily where
  label := "Mieru"
  comment := MIERU_PORT_FORWARD_COMMENT
  key protocol targetPort args :=
    protocol ++ '|' :: (decimal targetPort ++ '|' :: join [Char.ofNat 0] args)

/-- The inner loop of a builder: emit the matcher's rule unless its key was seen. -/
def pushRule (family : ForwardFamily) (protocol : Text) (targetPort : Nat) (st : BuildState)
    (matcher : PortForwardMatcher) : BuildState :=
  let key := family.key protocol targetPort matcher.args
  if key ∈ st.seen then st
  else { st with
    seen := key :: st.seen
    rules := st.rules ++ [{ matcher, targetPort, protocol, comment := family.comment }] }

/-- A builder's loop body from the parse on: cut the node's own port, every other server port of the
family and every earlier allocation out of its ranges, record what is left and emit its rules. -/
def allocateExternalPort (family : ForwardFamily) (nodeId targetPort : Nat) (externalPort protocol : Text)
    (targetPorts : BTreeMap Nat Nat) (st : BuildState) : BuildState :=
  match parsePortForwardMatchersAndRangesExcept externalPort targetPort with
  | .error error =>
    { st with errors := st.errors ++
      ["node " ++ decimal nodeId ++ " has invalid port " ++ debugText externalPort ++ ": " ++ error] }
  | .ok (_, ranges) =>
    if ranges.isEmpty then st
    else
      let ranges := trimTargetPortConflicts ranges targetPort targetPorts
      let ranges := trimAllocatedRangeConflicts ranges targetPort protocol st.allocated
      if ranges.isEmpty then
        { st with errors := st.errors ++
          ["node " ++ decimal nodeId ++ " port " ++ debugText externalPort ++
            " is fully covered by other " ++ family.label ++ " port-forward ranges"] }
      else
        let allocated := st.allocated ++ ranges.map fun range => { nodeId, targetPort, protocol, range }
        (portForwardMatchersFromRanges ranges).foldl (pushRule family protocol targetPort)
          { st with allocated }

def invalidServerPort (nodeId targetPort : Nat) : Text :=
  "node " ++ decimal nodeId ++ " has invalid server_port " ++ decimal targetPort

/-- The external port expression a Hysteria 2 node forwards: `port` before `ports`. -/
def hysteriaExternalPort (info : NodeInfo) : Text :=
  firstNonEmpty (trim info.common.port) (trim info.common.ports)

/-- The external port expression a Mieru node forwards: `ports` before `port`. -/
def mieruExternalPort (info : NodeInfo) : Text :=
  firstNonEmpty (trim info.common.ports) (trim info.common.port)

/-- The loop body of `build_hysteria_port_forward_rules`. -/
def hysteriaStep (targetPorts : BTreeMap Nat Nat) (st : BuildState) (info : NodeInfo) : BuildState :=
  if info.protocol ≠ .hysteria2 then st
  else
    let targetPort := info.common.serverPort
    if targetPort = 0 then { st with errors := st.errors ++ [invalidServerPort info.id targetPort] }
    else
      let externalPort := hysteriaExternalPort info
      if externalPort.isEmpty then st
      else allocateExternalPort hysteriaFamily info.id targetPort externalPort "udp" targetPorts st

/-- `build_hysteria_port_forward_rules` (`port_forward.rs:120`). -/
def buildHysteriaPortForwardRules (infos : List NodeInfo) : List PortForwardRule × List Text :=
  let st := infos.foldl (hysteriaStep (collectHysteriaTargetPorts infos)) {}
  (st.rules, st.errors)

/-- The loop body of `build_mieru_port_forward_rules`. -/
def mieruStep (targetPorts : BTreeMap Text (BTreeMap Nat Nat)) (st : BuildState) (info : NodeInfo) :
    BuildState :=
  if info.protocol ≠ .mieru then st
  else
    let targetPort := info.common.serverPort
    if targetPort = 0 then { st with errors := st.errors ++ [invalidServerPort info.id targetPort] }
    else
      let externalPort := mieruExternalPort info
      if externalPort.isEmpty then st
      else match mieruPortForwardProtocol info.common.transport with
        | .error error =>
          { st with errors := st.errors ++
            ["node " ++ decimal info.id ++ " has invalid Mieru transport: " ++ error] }
        | .ok protocol =>
          allocateExternalPort mieruFamily info.id targetPort externalPort protocol
            (targetPorts.getD protocol ∅) st

/-- `build_mieru_port_forward_rules` (`port_forward.rs:197`). -/
def buildMieruPortForwardRules (infos : List NodeInfo) : List PortForwardRule × List Text :=
  let st := infos.foldl (mieruStep (collectMieruTargetPortsByProtocol infos)) {}
  (st.rules, st.errors)

end KeliNode
