import KeliNode.PortForward.Plan

/-!
# Inspecting and repairing the firewall (`port_forward.rs`)

The agent reads `iptables -S` output, tells its own rules by their comment (and, for Hysteria 2, by a
jump to the legacy chain), compares them with the expected rules and, when they differ, deletes all of
its own rules and adds the expected ones.  Both families run the same comparison; they differ in the
comment, and Hysteria 2 also removes the legacy chain.

| here | there |
|---|---|
| `parseIptablesSpec`, `normalizePortForwardSpecFields` | `port_forward.rs:1268`, `:1304` |
| `inspectManagedSpecsWithComment` | `port_forward.rs:745` |
| `reconcilePortForwardCommandsWithAllowPorts`, `…ForComment` | `port_forward.rs:826`, `:890` |
| `repairHysteriaPortForward`, `repairMieruPortForward` | `port_forward.rs:345`, `:495` |

The operating system enters as a `PortForwardExecutor` over an arbitrary state.
-/

namespace KeliNode

open Lib

structure HysteriaPortForwardRuleSpec where
  protocol : Text
  matchRule : Text
  targetPort : Nat
  spec : Text
  deriving DecidableEq

structure HysteriaPortForwardToolStatus where
  tool : Text := []
  available : Bool := false
  current : List Text := []
  expected : List Text := []
  missing : List Text := []
  extra : List Text := []
  staleChain : Bool := false
  error : Text := []
  deriving DecidableEq

structure HysteriaPortForwardStatus where
  enabled : Bool := false
  runningAsRoot : Bool := false
  expectedRules : List HysteriaPortForwardRuleSpec := []
  tools : List HysteriaPortForwardToolStatus := []
  errors : List Text := []
  deriving DecidableEq

structure PortForwardCommand where
  tool : Text
  args : List Text
  deriving DecidableEq

/-- `PortForwardExecutor`: every call may change the state `σ`. -/
structure PortForwardExecutor (σ : Type) where
  isToolAvailable : Text → σ → Bool × σ
  commandOutput : PortForwardCommand → σ → Except Text Text × σ
  runCommand : PortForwardCommand → σ → Except Text Unit × σ
  runningAsRoot : σ → Bool

structure HysteriaPortForwardPlan where
  natRules : List PortForwardRule := []
  allowRules : List FirewallAllowRule := []
  errors : List Text := []

def HYSTERIA_PORT_FORWARD_TOOLS : List Text := ["iptables", "ip6tables"]

/-! ## The plans -/

/-- `build_hysteria_port_forward_plan` (`port_forward.rs:101`). -/
def buildHysteriaPortForwardPlan (infos : List NodeInfo) : HysteriaPortForwardPlan where
  natRules := (buildHysteriaPortForwardRules infos).1
  allowRules := (collectHysteriaTargetPorts infos).keys.map fun port =>
    { protocol := "udp", port, comment := HYSTERIA_PORT_FORWARD_COMMENT }
  errors := (buildHysteriaPortForwardRules infos).2

/-- The `filter_map` of `build_mieru_port_forward_plan`: one allow rule for each target. -/
def mieruAllowRules : List Text → List PortForwardRule → List FirewallAllowRule
  | _, [] => []
  | seen, rule :: rules =>
    let key := rule.protocol ++ '|' :: (decimal rule.targetPort ++ '|' :: rule.comment)
    if key ∈ seen then mieruAllowRules seen rules
    else { protocol := rule.protocol, port := rule.targetPort, comment := rule.comment } ::
      mieruAllowRules (key :: seen) rules

/-- `build_mieru_port_forward_plan` (`port_forward.rs:449`). -/
def buildMieruPortForwardPlan (infos : List NodeInfo) : HysteriaPortForwardPlan where
  natRules := (buildMieruPortForwardRules infos).1
  allowRules := mieruAllowRules [] (buildMieruPortForwardRules infos).1
  errors := (buildMieruPortForwardRules infos).2

/-! ## Rule specifications as text -/

/-- Rust's `str::lines`: split at newlines, drop a carriage return before one, no line after the last. -/
def lines (s : Text) : List Text :=
  let parts := splitOn '\n' s
  let parts := if parts.getLast? = some [] then parts.dropLast else parts
  parts.map fun line => if line.getLast? = some '\r' then line.dropLast else line

def isQuote (c : Char) : Bool := c = '"' || c = '\''

/-- `trim_matches(|value| value == '"' || value == '\'')`. -/
def trimQuotes (s : Text) : Text := trimEndMatches isQuote (trimStartMatches isQuote s)

structure SpecParser where
  fields : List Text := []
  builder : Text := []
  quote : Option Char := none

/-- One character of `parse_iptables_spec`. -/
def SpecParser.push (st : SpecParser) (c : Char) : SpecParser :=
  match st.quote with
  | some activeQuote =>
    if c = activeQuote then { st with quote := none } else { st with builder := st.builder ++ [c] }
  | none =>
    if isQuote c then { st with quote := some c }
    else if c = ' ' ∨ c = '\t' then
      if st.builder.isEmpty then st else { st with fields := st.fields ++ [st.builder], builder := [] }
    else { st with builder := st.builder ++ [c] }

def SpecParser.finish (st : SpecParser) : List Text :=
  if st.builder.isEmpty then st.fields else st.fields ++ [st.builder]

/-- `parse_iptables_spec` (`port_forward.rs:1268`). -/
def parseIptablesSpec (line : Text) : List Text := (line.foldl SpecParser.push {}).finish

/-- The loop of `normalize_port_forward_spec_fields`; `prev` is the field before the rest. -/
def normalizeFrom (prev : Option Text) : List Text → List Text
  | [] => []
  | [field] => [if prev = some "--comment" then trimQuotes field else field]
  | field :: next :: rest =>
    if field = "-m" ∧ (next = "udp" ∨ next = "tcp") then normalizeFrom (some next) rest
    else (if prev = some "--comment" then trimQuotes field else field) :: normalizeFrom (some field) (next :: rest)

/-- `normalize_port_forward_spec_fields` (`port_forward.rs:1304`). -/
def normalizePortForwardSpecFields (fields : List Text) : List Text := normalizeFrom none fields

/-- `port_forward_fields_key` (`port_forward.rs:1331`). -/
def portForwardFieldsKey (fields : List Text) : Text :=
  join [Char.ofNat 0] (normalizePortForwardSpecFields fields)

/-- Some two neighbouring fields satisfy `p`. -/
def anyPair (p : Text → Text → Bool) : List Text → Bool
  | a :: b :: rest => p a b || anyPair p (b :: rest)
  | _ => false

def isCommentPair (comment a b : Text) : Bool := a = "--comment" && trimQuotes b = comment

/-- `is_port_forward_rule_spec_with_comment` (`port_forward.rs:1223`). -/
def isPortForwardRuleSpecWithComment (fields : List Text) (comment : Text) : Bool :=
  match fields with
  | head :: chain :: rest =>
    decide (4 ≤ fields.length) && head = "-A" && chain = "PREROUTING" &&
      anyPair (fun a b => (comment = HYSTERIA_PORT_FORWARD_COMMENT && a = "-j" && b = HYSTERIA_PORT_FORWARD_CHAIN) ||
        isCommentPair comment a b) rest
  | _ => false

/-- `is_firewall_allow_rule_spec_with_comment` (`port_forward.rs:1244`). -/
def isFirewallAllowRuleSpecWithComment (fields : List Text) (comment : Text) : Bool :=
  match fields with
  | head :: chain :: rest =>
    decide (4 ≤ fields.length) && head = "-A" && chain = "INPUT" &&
      anyPair (isCommentPair comment) rest && anyPair (fun a b => a = "-j" && b = "ACCEPT") rest
  | _ => false

/-- The fields of a redirect rule after the chain name, as added and as expected. -/
def redirectFields (rule : PortForwardRule) : List Text :=
  let tail : List Text :=
    ["-m", "comment", "--comment", rule.comment, "-j", "REDIRECT", "--to-ports", decimal rule.targetPort]
  "-p" :: rule.protocol :: (rule.matcher.args ++ tail)

/-- The fields of an allow rule after the chain name, as added and as expected. -/
def allowFields (rule : FirewallAllowRule) : List Text :=
  ["-p", rule.protocol, "--dport", decimal rule.port, "-m", "comment", "--comment", rule.comment, "-j", "ACCEPT"]

/-- `expected_port_forward_spec_fields` (`port_forward.rs:1141`). -/
def expectedPortForwardSpecFields (rule : PortForwardRule) : List Text :=
  normalizePortForwardSpecFields ("-A" :: "PREROUTING" :: redirectFields rule)

/-- `expected_firewall_allow_spec_fields` (`port_forward.rs:1163`). -/
def expectedFirewallAllowSpecFields (rule : FirewallAllowRule) : List Text :=
  normalizePortForwardSpecFields ("-A" :: "INPUT" :: allowFields rule)

/-- `expected_hysteria_managed_specs` (`port_forward.rs:1129`). -/
def expectedHysteriaManagedSpecs (natRules : List PortForwardRule) (allowRules : List FirewallAllowRule) :
    List Text :=
  natRules.map (fun rule => join [' '] (expectedPortForwardSpecFields rule)) ++
    allowRules.map fun rule => join [' '] (expectedFirewallAllowSpecFields rule)

/-- `list_port_forward_specs_from_output_with_comment` (`port_forward.rs:1185`). -/
def listPortForwardSpecsFromOutputWithComment (output comment : Text) : List Text :=
  (lines output).filterMap fun line =>
    let fields := parseIptablesSpec (trim line)
    if isPortForwardRuleSpecWithComment fields comment then
      some (join [' '] (normalizePortForwardSpecFields fields))
    else none

/-- `list_firewall_allow_specs_from_output_with_comment` (`port_forward.rs:1203`). -/
def listFirewallAllowSpecsFromOutputWithComment (output comment : Text) : List Text :=
  (lines output).filterMap fun line =>
    let fields := parseIptablesSpec (trim line)
    if isFirewallAllowRuleSpecWithComment fields comment then
      some (join [' '] (normalizePortForwardSpecFields fields))
    else none

/-! ## Inspecting -/

/-- `describe_port_forward_rules` (`port_forward.rs:586`). -/
def describePortForwardRules (rules : List PortForwardRule) : List HysteriaPortForwardRuleSpec :=
  rules.map fun rule =>
    { protocol := rule.protocol
      matchRule := join [' '] rule.matcher.args
      targetPort := rule.targetPort
      spec := join [' '] (expectedPortForwardSpecFields rule) }

/-- `describe_hysteria_managed_rules` (`port_forward.rs:598`). -/
def describeHysteriaManagedRules (natRules : List PortForwardRule) (allowRules : List FirewallAllowRule) :
    List HysteriaPortForwardRuleSpec :=
  describePortForwardRules natRules ++ allowRules.map fun rule =>
    { protocol := rule.protocol
      matchRule := "INPUT --dport " ++ decimal rule.port
      targetPort := rule.port
      spec := join [' '] (expectedFirewallAllowSpecFields rule) }

/-- Specs by their normalised key, as both maps of `inspect_managed_specs_with_comment` are built. -/
def specsByKey (specs : List Text) : BTreeMap Text Text :=
  Std.ExtTreeMap.ofList (specs.map fun spec => (portForwardFieldsKey (parseIptablesSpec spec), spec))

/-- The specs of `left` whose key does not occur in `right`. -/
def specsOnlyIn (left right : BTreeMap Text Text) : List Text :=
  (left.toList.filter fun entry => !right.contains entry.1).map (·.2)

/-- `inspect_managed_specs_with_comment` (`port_forward.rs:745`). -/
def inspectManagedSpecsWithComment (tool : Text) (rules : List PortForwardRule)
    (allowRules : List FirewallAllowRule) (preroutingOutput inputOutput : Text) (staleChain : Bool)
    (comment : Text) : HysteriaPortForwardToolStatus :=
  let current := listPortForwardSpecsFromOutputWithComment preroutingOutput comment ++
    listFirewallAllowSpecsFromOutputWithComment inputOutput comment
  let expected := expectedHysteriaManagedSpecs rules allowRules
  let expectedKeys := specsByKey expected
  let currentKeys := specsByKey current
  { tool, available := true, current, expected
    missing := specsOnlyIn expectedKeys currentKeys
    extra := specsOnlyIn currentKeys expectedKeys
    staleChain, error := [] }

def preroutingCommand (tool : Text) : PortForwardCommand := { tool, args := ["-t", "nat", "-S", "PREROUTING"] }
def inputCommand (tool : Text) : PortForwardCommand := { tool, args := ["-S", "INPUT"] }
def chainCommand (tool : Text) : PortForwardCommand :=
  { tool, args := ["-t", "nat", "-S", HYSTERIA_PORT_FORWARD_CHAIN] }

section

variable {σ : Type} (executor : PortForwardExecutor σ)

/-- The part `inspect_port_forward_tool_with_allow_rules` and `…_with_comment` share: `chain` asks for the
legacy chain once both listings are read. -/
def inspectTool (chain : σ → Bool × σ) (tool : Text) (rules : List PortForwardRule)
    (allowRules : List FirewallAllowRule) (comment : Text) (s : σ) : HysteriaPortForwardToolStatus × σ :=
  let status : HysteriaPortForwardToolStatus :=
    { tool, expected := expectedHysteriaManagedSpecs rules allowRules }
  let (available, s) := executor.isToolAvailable tool s
  if !available then (status, s)
  else
    let (preroutingOutput, s) := executor.commandOutput (preroutingCommand tool) s
    match preroutingOutput with
    | .error error => ({ status with available := true, error }, s)
    | .ok preroutingOutput =>
      let (inputOutput, s) := executor.commandOutput (inputCommand tool) s
      match inputOutput with
      | .error error => ({ status with available := true, error }, s)
      | .ok inputOutput =>
        let (staleChain, s) := chain s
        (inspectManagedSpecsWithComment tool rules allowRules preroutingOutput inputOutput staleChain comment, s)

/-- `executor.command_output(&chain_command).is_ok()`. -/
def legacyChainExists (tool : Text) (s : σ) : Bool × σ :=
  let (output, s) := executor.commandOutput (chainCommand tool) s
  (output.toBool, s)

/-- `inspect_port_forward_tool_with_allow_rules` (`port_forward.rs:622`). -/
def inspectPortForwardToolWithAllowRules (tool : Text) (rules : List PortForwardRule)
    (allowRules : List FirewallAllowRule) (s : σ) : HysteriaPortForwardToolStatus × σ :=
  inspectTool executor (legacyChainExists executor tool) tool rules allowRules HYSTERIA_PORT_FORWARD_COMMENT s

/-- `inspect_port_forward_tool_with_comment` (`port_forward.rs:670`). -/
def inspectPortForwardToolWithComment (tool : Text) (rules : List PortForwardRule)
    (allowRules : List FirewallAllowRule) (comment : Text) (s : σ) : HysteriaPortForwardToolStatus × σ :=
  inspectTool executor (fun s => (false, s)) tool rules allowRules comment s

/-! ## Reconciling -/

/-- `delete_port_forward_commands_with_comment` (`port_forward.rs:1083`). -/
def deletePortForwardCommandsWithComment (tool preroutingOutput comment : Text) : List PortForwardCommand :=
  (lines preroutingOutput).filterMap fun line =>
    let fields := parseIptablesSpec (trim line)
    if isPortForwardRuleSpecWithComment fields comment then
      some { tool, args := "-t" :: "nat" :: "-D" :: fields.tail }
    else none

/-- `delete_firewall_allow_commands_with_comment` (`port_forward.rs:1107`). -/
def deleteFirewallAllowCommandsWithComment (tool inputOutput comment : Text) : List PortForwardCommand :=
  (lines inputOutput).filterMap fun line =>
    let fields := parseIptablesSpec (trim line)
    if isFirewallAllowRuleSpecWithComment fields comment then
      some { tool, args := "-D" :: fields.tail }
    else none

def addRedirectCommand (tool : Text) (rule : PortForwardRule) : PortForwardCommand :=
  { tool, args := "-t" :: "nat" :: "-A" :: "PREROUTING" :: redirectFields rule }

def addAllowCommand (tool : Text) (rule : FirewallAllowRule) : PortForwardCommand :=
  { tool, args := "-I" :: "INPUT" :: allowFields rule }

def removeChainCommands (tool : Text) : List PortForwardCommand :=
  [{ tool, args := ["-t", "nat", "-F", HYSTERIA_PORT_FORWARD_CHAIN] },
   { tool, args := ["-t", "nat", "-X", HYSTERIA_PORT_FORWARD_CHAIN] }]

/-- `reconcile_port_forward_commands_with_allow_ports` (`port_forward.rs:826`). -/
def reconcilePortForwardCommandsWithAllowPorts (tool : Text) (rules : List PortForwardRule)
    (allowRules : List FirewallAllowRule) (preroutingOutput inputOutput : Text) (chainExists : Bool) :
    List PortForwardCommand :=
  deletePortForwardCommandsWithComment tool preroutingOutput HYSTERIA_PORT_FORWARD_COMMENT ++
  deleteFirewallAllowCommandsWithComment tool inputOutput HYSTERIA_PORT_FORWARD_COMMENT ++
  (if chainExists then removeChainCommands tool else []) ++
  rules.map (addRedirectCommand tool) ++ allowRules.map (addAllowCommand tool)

/-- `reconcile_port_forward_commands_for_comment` (`port_forward.rs:890`). -/
def reconcilePortForwardCommandsForComment (tool : Text) (rules : List PortForwardRule)
    (allowRules : List FirewallAllowRule) (preroutingOutput inputOutput comment : Text) :
    List PortForwardCommand :=
  deletePortForwardCommandsWithComment tool preroutingOutput comment ++
  deleteFirewallAllowCommandsWithComment tool inputOutput comment ++
  rules.map (addRedirectCommand tool) ++ allowRules.map (addAllowCommand tool)

/-- `execute_port_forward_commands` (`port_forward.rs:1062`): stop at the first failure. -/
def executePortForwardCommands : List PortForwardCommand → σ → Except Text Unit × σ
  | [], s => (.ok (), s)
  | command :: commands, s =>
    match executor.runCommand command s with
    | (.error error, s) => (.error error, s)
    | (.ok (), s) => executePortForwardCommands commands s

/-- `executor.command_output(…).unwrap_or_default()`. -/
def outputOrEmpty (command : PortForwardCommand) (s : σ) : Text × σ :=
  match executor.commandOutput command s with
  | (.ok output, s) => (output, s)
  | (.error _, s) => ([], s)

/-- `execute_reconcile_port_forward_tool` (`port_forward.rs:981`). -/
def executeReconcilePortForwardTool (tool : Text) (rules : List PortForwardRule)
    (allowRules : List FirewallAllowRule) (s : σ) : Except Text Unit × σ :=
  let (preroutingOutput, s) := outputOrEmpty executor (preroutingCommand tool) s
  let (inputOutput, s) := outputOrEmpty executor (inputCommand tool) s
  let (chainExists, s) := legacyChainExists executor tool s
  executePortForwardCommands executor
    (reconcilePortForwardCommandsWithAllowPorts tool rules allowRules preroutingOutput inputOutput chainExists) s

/-- `execute_mieru_port_forward_tool` (`port_forward.rs:1038`). -/
def executeMieruPortForwardTool (tool : Text) (rules : List PortForwardRule)
    (allowRules : List FirewallAllowRule) (s : σ) : Except Text Unit × σ :=
  let (preroutingOutput, s) := outputOrEmpty executor (preroutingCommand tool) s
  let (inputOutput, s) := outputOrEmpty executor (inputCommand tool) s
  executePortForwardCommands executor
    (reconcilePortForwardCommandsForComment tool rules allowRules preroutingOutput inputOutput
      MIERU_PORT_FORWARD_COMMENT) s

/-! ## Repairing -/

/-- A tool's own part of `hysteria_port_forward_needs_repair`. -/
def HysteriaPortForwardToolStatus.needsRepair (status : HysteriaPortForwardToolStatus) : Bool :=
  status.error.isEmpty && (!status.missing.isEmpty || !status.extra.isEmpty || status.staleChain)

/-- `hysteria_port_forward_needs_repair` (`port_forward.rs:802`). -/
def hysteriaPortForwardNeedsRepair (status : HysteriaPortForwardStatus) : Bool :=
  status.tools.any fun tool => tool.available && tool.needsRepair

/-- What the two repair functions fill in differently. -/
structure RepairFamily (σ : Type) where
  label : Text
  inspect : Text → σ → HysteriaPortForwardToolStatus × σ
  reconcile : Text → σ → Except Text Unit × σ

/-- The tool loop of an unprivileged run: inspect every tool. -/
def inspectTools (inspect : Text → σ → HysteriaPortForwardToolStatus × σ) :
    List Text → HysteriaPortForwardStatus → σ → HysteriaPortForwardStatus × σ
  | [], status, s => (status, s)
  | tool :: tools, status, s =>
    let (toolStatus, s) := inspect tool s
    inspectTools inspect tools { status with tools := status.tools ++ [toolStatus] } s

/-- The tool loop of a privileged run: inspect, reconcile when needed, inspect again. -/
def repairTools (family : RepairFamily σ) :
    List Text → HysteriaPortForwardStatus → σ → HysteriaPortForwardStatus × σ
  | [], status, s => (status, s)
  | tool :: tools, status, s =>
    let (toolStatus, s) := family.inspect tool s
    if toolStatus.available && toolStatus.needsRepair then
      match family.reconcile tool s with
      | (.ok (), s) =>
        let (toolStatus, s) := family.inspect tool s
        repairTools family tools { status with tools := status.tools ++ [toolStatus] } s
      | (.error error, s) =>
        repairTools family tools
          { status with
            errors := status.errors ++ [tool ++ ": " ++ error]
            tools := status.tools ++ [{ toolStatus with error }] } s
    else repairTools family tools { status with tools := status.tools ++ [toolStatus] } s

/-- The body `repair_hysteria_port_forward` and `repair_mieru_port_forward` share. -/
def repairPortForward (family : RepairFamily σ) (plan : HysteriaPortForwardPlan)
    (status : HysteriaPortForwardStatus) (s : σ) : HysteriaPortForwardStatus × σ :=
  if !status.runningAsRoot then
    let (status, s) := inspectTools family.inspect HYSTERIA_PORT_FORWARD_TOOLS status s
    if !plan.natRules.isEmpty || !plan.allowRules.isEmpty || hysteriaPortForwardNeedsRepair status then
      ({ status with errors := status.errors ++ [family.label ++ " port forwarding repair requires root"] }, s)
    else (status, s)
  else repairTools family HYSTERIA_PORT_FORWARD_TOOLS status s

def hysteriaRepair (plan : HysteriaPortForwardPlan) : RepairFamily σ where
  label := "HY2"
  inspect tool s := inspectPortForwardToolWithAllowRules executor tool plan.natRules plan.allowRules s
  reconcile tool s := executeReconcilePortForwardTool executor tool plan.natRules plan.allowRules s

def mieruRepair (plan : HysteriaPortForwardPlan) : RepairFamily σ where
  label := "Mieru"
  inspect tool s := inspectPortForwardToolWithComment executor tool plan.natRules plan.allowRules
    MIERU_PORT_FORWARD_COMMENT s
  reconcile tool s := executeMieruPortForwardTool executor tool plan.natRules plan.allowRules s

/-- `new_hysteria_port_forward_status_from_plan` (`port_forward.rs:301`). -/
def newHysteriaPortForwardStatusFromPlan (plan : HysteriaPortForwardPlan) (runningAsRoot : Bool) :
    HysteriaPortForwardStatus where
  enabled := true
  runningAsRoot
  expectedRules := describeHysteriaManagedRules plan.natRules plan.allowRules
  errors := plan.errors

/-- `new_mieru_port_forward_status_from_plan` (`port_forward.rs:573`). -/
def newMieruPortForwardStatusFromPlan (plan : HysteriaPortForwardPlan) (runningAsRoot : Bool) :
    HysteriaPortForwardStatus where
  enabled := !plan.natRules.isEmpty
  runningAsRoot
  expectedRules := describeHysteriaManagedRules plan.natRules plan.allowRules
  errors := plan.errors

/-- `repair_hysteria_port_forward` (`port_forward.rs:345`). -/
def repairHysteriaPortForward (infos : List NodeInfo) (s : σ) : HysteriaPortForwardStatus × σ :=
  let plan := buildHysteriaPortForwardPlan infos
  repairPortForward (hysteriaRepair executor plan) plan
    (newHysteriaPortForwardStatusFromPlan plan (executor.runningAsRoot s)) s

/-- `repair_mieru_port_forward` (`port_forward.rs:495`). -/
def repairMieruPortForward (infos : List NodeInfo) (s : σ) : HysteriaPortForwardStatus × σ :=
  let plan := buildMieruPortForwardPlan infos
  repairPortForward (mieruRepair executor plan) plan
    (newMieruPortForwardStatusFromPlan plan (executor.runningAsRoot s)) s

/-- `inspect_hysteria_port_forward` (`port_forward.rs:325`). -/
def inspectHysteriaPortForward (infos : List NodeInfo) (s : σ) : HysteriaPortForwardStatus × σ :=
  let plan := buildHysteriaPortForwardPlan infos
  inspectTools (hysteriaRepair executor plan).inspect HYSTERIA_PORT_FORWARD_TOOLS
    (newHysteriaPortForwardStatusFromPlan plan (executor.runningAsRoot s)) s

/-- `inspect_mieru_port_forward` (`port_forward.rs:474`). -/
def inspectMieruPortForward (infos : List NodeInfo) (s : σ) : HysteriaPortForwardStatus × σ :=
  let plan := buildMieruPortForwardPlan infos
  inspectTools (mieruRepair executor plan).inspect HYSTERIA_PORT_FORWARD_TOOLS
    (newMieruPortForwardStatusFromPlan plan (executor.runningAsRoot s)) s

end

/-- `new_hysteria_port_forward_status` (`port_forward.rs:287`). -/
def newHysteriaPortForwardStatus (rules : List PortForwardRule) (errors : List Text) (runningAsRoot : Bool) :
    HysteriaPortForwardStatus where
  enabled := true
  runningAsRoot
  expectedRules := describePortForwardRules rules
  errors

/-- `new_mieru_port_forward_status` (`port_forward.rs:565`). -/
def newMieruPortForwardStatus (infos : List NodeInfo) (runningAsRoot : Bool) : HysteriaPortForwardStatus :=
  newMieruPortForwardStatusFromPlan (buildMieruPortForwardPlan infos) runningAsRoot

end KeliNode
