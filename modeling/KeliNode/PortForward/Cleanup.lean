import KeliNode.PortForward.Fixpoint

/-!
# Cleaning up undoes every repair (`port_forward.rs`)

At shutdown the agent takes its Hysteria 2 rules out of the firewall again: each tool is asked for its tables,
the rules the agent knows as its own are deleted, and the legacy chain with them.

| here | there |
|---|---|
| `setHysteriaPortForwardDisabled` | `port_forward.rs:314` |
| `inspectPortForwardTool` | `port_forward.rs:614` |
| `cleanupPortForwardCommandsWithFilter` | `port_forward.rs:969` |
| `executeCleanupPortForwardTool` | `port_forward.rs:1021` |
| `cleanupHysteriaPortForward` | `port_forward.rs:414` |

On a machine with both tools a cleanup is a repair for no nodes that issues its commands unasked
(`runAll_cleanup`).  So it undoes any history: after repairs of both families and cleanups in any order, one more
cleanup leaves no rule of the agent's Hysteria 2 family and no legacy chain, and where only that family was ever
repaired the tables are those the machine had at first, less what the agent would have cleaned up even then
(`cleanup_undoes_history`).
-/

namespace KeliNode

open Lib

/-- `set_hysteria_port_forward_disabled` (`port_forward.rs:314`). -/
def setHysteriaPortForwardDisabled (runningAsRoot : Bool) : HysteriaPortForwardStatus :=
  { enabled := false, runningAsRoot }

/-- `cleanup_port_forward_commands_with_filter` (`port_forward.rs:969`). -/
def cleanupPortForwardCommandsWithFilter (tool preroutingOutput inputOutput : Text) (chainExists : Bool) :
    List PortForwardCommand :=
  deletePortForwardCommandsWithComment tool preroutingOutput HYSTERIA_PORT_FORWARD_COMMENT ++
  deleteFirewallAllowCommandsWithComment tool inputOutput HYSTERIA_PORT_FORWARD_COMMENT ++
  (if chainExists then removeChainCommands tool else [])

section

variable {σ : Type} (executor : PortForwardExecutor σ)

/-- `inspect_port_forward_tool` (`port_forward.rs:614`). -/
def inspectPortForwardTool (tool : Text) (rules : List PortForwardRule) (s : σ) : HysteriaPortForwardToolStatus × σ :=
  inspectPortForwardToolWithAllowRules executor tool rules [] s

/-- `execute_cleanup_port_forward_tool` (`port_forward.rs:1021`). -/
def executeCleanupPortForwardTool (tool : Text) (s : σ) : Except Text Unit × σ :=
  let (preroutingOutput, s) := outputOrEmpty executor (preroutingCommand tool) s
  let (inputOutput, s) := outputOrEmpty executor (inputCommand tool) s
  let (chainExists, s) := legacyChainExists executor tool s
  executePortForwardCommands executor
    (cleanupPortForwardCommandsWithFilter tool preroutingOutput inputOutput chainExists) s

/-- The tool loop of a privileged cleanup: whatever the inspection says, an available tool is cleaned. -/
def cleanupTools : List Text → HysteriaPortForwardStatus → σ → HysteriaPortForwardStatus × σ
  | [], status, s => (status, s)
  | tool :: tools, status, s =>
    let (toolStatus, s) := inspectPortForwardToolWithAllowRules executor tool [] [] s
    if toolStatus.available then
      match executeCleanupPortForwardTool executor tool s with
      | (.ok (), s) =>
        let (toolStatus, s) := inspectPortForwardToolWithAllowRules executor tool [] [] s
        cleanupTools tools { status with tools := status.tools ++ [toolStatus] } s
      | (.error error, s) =>
        cleanupTools tools
          { status with
            errors := status.errors ++ [tool ++ ": " ++ error]
            tools := status.tools ++ [{ toolStatus with error }] } s
    else cleanupTools tools { status with tools := status.tools ++ [toolStatus] } s

/-- `cleanup_hysteria_port_forward` (`port_forward.rs:414`). -/
def cleanupHysteriaPortForward (s : σ) : HysteriaPortForwardStatus × σ :=
  let status := setHysteriaPortForwardDisabled (executor.runningAsRoot s)
  if !status.runningAsRoot then
    inspectTools (fun tool s => inspectPortForwardTool executor tool [] s) HYSTERIA_PORT_FORWARD_TOOLS
      { status with errors := status.errors ++ [("HY2 port forwarding cleanup requires root" : Text)] } s
  else cleanupTools executor HYSTERIA_PORT_FORWARD_TOOLS status s

end

/-! ## One tool -/

/-- The Hysteria 2 family of a machine without nodes. -/
def noNodes : ManagedFamily := hysteriaManaged []

/-- A table without the agent's Hysteria 2 rules and without the legacy chain. -/
def Firewall.stripped (fw : Firewall) : Firewall where
  prerouting := fw.prerouting.filter fun rule => !natManaged HYSTERIA_PORT_FORWARD_COMMENT rule
  input := fw.input.filter fun rule => !inputManaged HYSTERIA_PORT_FORWARD_COMMENT rule
  legacyChain := none

theorem reconciled_noNodes (fw : Firewall) :
    reconciled noNodes.comment noNodes.plan noNodes.removesChain fw = fw.stripped := by
  rw [reconciled, Firewall.stripped, show noNodes.plan.natRules = [] from rfl,
    show noNodes.plan.allowRules = [] from rfl, List.map_nil, List.map_nil, List.append_nil]
  rfl

/-- Two tables that differ in the agent's own rules only are the same once stripped. -/
theorem OthersKept.stripped_eq {before after : Firewall} (h : OthersKept HYSTERIA_PORT_FORWARD_COMMENT before after) :
    after.stripped = before.stripped := by
  rw [Firewall.stripped, Firewall.stripped, h.prerouting, h.input]

theorem stripped_stripped (fw : Firewall) : fw.stripped.stripped = fw.stripped := by
  simp only [Firewall.stripped, List.filter_filter, Bool.and_self]

section

variable (printer : Printer) (tool : Text) {fw : Firewall} (hok : FirewallOk fw)
  (hblank : NoBlankComment HYSTERIA_PORT_FORWARD_COMMENT fw)

/-- The commands of a cleanup are the repair commands for no nodes. -/
theorem cleanup_commands (fw : Firewall) :
    cleanupPortForwardCommandsWithFilter tool (printer.printChain "PREROUTING" fw.prerouting)
      (printer.printChain "INPUT" fw.input) fw.legacyChain.isSome = noNodes.commands printer tool fw := by
  rw [ManagedFamily.commands, show noNodes.plan.natRules = [] from rfl, show noNodes.plan.allowRules = [] from rfl,
    List.map_nil, List.map_nil, List.append_nil, List.append_nil]
  rfl

theorem executeCleanup_firewall (host : Host) :
    executeCleanupPortForwardTool (firewallExecutor printer) tool host =
      (.ok (), (noNodes.commands printer tool (host.tables tool)).foldl Host.run host) := by
  unfold executeCleanupPortForwardTool
  rw [legacyChainExists_firewall, ← executePortForwardCommands_firewall printer, ← cleanup_commands]
  rfl

theorem inspectForCleanup_firewall (host : Host) :
    inspectPortForwardToolWithAllowRules (firewallExecutor printer) tool [] [] host =
      (noNodes.inspection printer tool (host.tables tool), host) :=
  (hysteriaManaged_describes printer []).inspect tool host

include hok hblank

/-- **The commands of a cleanup** strip the tool's tables. -/
theorem runAll_cleanup : fw.runAll (noNodes.commands printer tool fw) = fw.stripped := by
  rw [runAll_commands printer noNodes tool hok hblank, reconciled_noNodes]

/-- Stripped tables need no command at all. -/
theorem cleanup_commands_eq_nil (h : fw.stripped = fw) : noNodes.commands printer tool fw = [] := by
  have hnat : fw.prerouting.filter (natManaged HYSTERIA_PORT_FORWARD_COMMENT) = [] := by
    rw [← h, Firewall.stripped, List.filter_filter]
    simp
  have hinput : fw.input.filter (inputManaged HYSTERIA_PORT_FORWARD_COMMENT) = [] := by
    rw [← h, Firewall.stripped, List.filter_filter]
    simp
  have hchain : fw.legacyChain = none := by rw [← h, Firewall.stripped]
  rw [← cleanup_commands, cleanupPortForwardCommandsWithFilter,
    deletePortForwardCommands_printChain printer commentOk_hysteria hok hblank,
    deleteFirewallAllowCommands_printChain printer commentOk_hysteria hok hblank, hnat, hinput, hchain]
  rfl

/-- What the agent reads of stripped tables is clean. -/
theorem inspection_stripped (h : fw.stripped = fw) :
    let status := noNodes.inspection printer tool fw
    status.available = true ∧ status.error = [] ∧ status.current = [] ∧ status.missing = [] ∧ status.extra = [] ∧
      status.staleChain = false := by
  have hrepaired := repaired_reconciled noNodes fw
  rw [reconciled_noNodes, h] at hrepaired
  obtain ⟨hmissing, hextra, hstale⟩ := (inspection_clean_iff printer noNodes tool hok hblank).2 hrepaired.clean
  refine ⟨rfl, rfl, ?_, hmissing, hextra, hstale⟩
  have hnat : fw.prerouting.filter (natManaged HYSTERIA_PORT_FORWARD_COMMENT) = [] := by
    rw [← h, Firewall.stripped, List.filter_filter]
    simp
  have hinput : fw.input.filter (inputManaged HYSTERIA_PORT_FORWARD_COMMENT) = [] := by
    rw [← h, Firewall.stripped, List.filter_filter]
    simp
  rw [ManagedFamily.inspection, inspectManagedSpecsWithComment]
  simp only [show noNodes.comment = HYSTERIA_PORT_FORWARD_COMMENT from rfl]
  rw [listPortForwardSpecs_printChain printer commentOk_hysteria hok hblank,
    listFirewallAllowSpecs_printChain printer commentOk_hysteria hok hblank, hnat, hinput]
  rfl

end

/-! ## Both tools -/

theorem firewallOk_stripped {fw : Firewall} (hok : FirewallOk fw) : FirewallOk fw.stripped where
  prerouting rule hr := hok.prerouting rule (List.mem_filter.1 hr).1
  input rule hr := hok.input rule (List.mem_filter.1 hr).1

theorem noBlankComment_stripped {comment : Text} {fw : Firewall} (hblank : NoBlankComment comment fw) :
    NoBlankComment comment fw.stripped where
  prerouting rule hr := hblank.prerouting rule (List.mem_filter.1 hr).1
  input rule hr := hblank.input rule (List.mem_filter.1 hr).1

section

variable (printer : Printer)

/-- The status of a tool with nothing left to clean. -/
def CleanStatus (status : HysteriaPortForwardToolStatus) : Prop :=
  status.available = true ∧ status.error = [] ∧ status.current = [] ∧ status.missing = [] ∧ status.extra = [] ∧
    status.staleChain = false

/-- **One tool of the loop**: its tables are stripped and reported clean, the others are left. -/
theorem cleanupTools_cons (tool : Text) (tools : List Text) (status : HysteriaPortForwardStatus) (host : Host)
    (hok : FirewallOk (host.tables tool)) (hblank : NoBlankComment HYSTERIA_PORT_FORWARD_COMMENT (host.tables tool)) :
    ∃ toolStatus host', cleanupTools (firewallExecutor printer) (tool :: tools) status host =
        cleanupTools (firewallExecutor printer) tools { status with tools := status.tools ++ [toolStatus] } host' ∧
      toolStatus.tool = tool ∧ CleanStatus toolStatus ∧
      host'.tables tool = (host.tables tool).stripped ∧ (∀ other, other ≠ tool → host'.tables other = host.tables other) ∧
      ((host.tables tool).stripped = host.tables tool → host' = host) := by
  have htool : ∀ command ∈ noNodes.commands printer tool (host.tables tool), command.tool = tool := by
    intro command hcommand
    rw [← cleanup_commands, cleanupPortForwardCommandsWithFilter,
      deletePortForwardCommands_printChain printer commentOk_hysteria hok hblank,
      deleteFirewallAllowCommands_printChain printer commentOk_hysteria hok hblank] at hcommand
    simp only [List.mem_append, List.mem_map, or_assoc] at hcommand
    rcases hcommand with ⟨_, _, rfl⟩ | ⟨_, _, rfl⟩ | hcommand
    · rfl
    · rfl
    · split at hcommand
      · simp only [removeChainCommands, List.mem_cons, List.not_mem_nil, or_false] at hcommand
        rcases hcommand with rfl | rfl <;> rfl
      · cases hcommand
  have hrun := foldl_hostRun tool _ host htool
  rw [runAll_cleanup printer tool hok hblank] at hrun
  have hclean := inspection_stripped printer tool (firewallOk_stripped hok) (noBlankComment_stripped hblank)
    (stripped_stripped _)
  refine ⟨noNodes.inspection printer tool (host.tables tool).stripped,
    (noNodes.commands printer tool (host.tables tool)).foldl Host.run host, ?_, rfl, hclean, ?_, ?_, ?_⟩
  · rw [cleanupTools, inspectForCleanup_firewall]
    simp only
    rw [if_pos (show (noNodes.inspection printer tool (host.tables tool)).available = true from rfl),
      executeCleanup_firewall]
    simp only
    rw [inspectForCleanup_firewall, hrun]
    simp only [Function.update_self]
  · rw [hrun]
    simp only [Function.update_self]
  · intro other hother
    rw [hrun]
    simp only [Function.update_of_ne hother]
  · intro h
    rw [cleanup_commands_eq_nil printer tool hok hblank h]
    rfl

/-- **The loop**: every tool's tables are stripped, every status is clean, nothing else changes. -/
theorem cleanupTools_spec : ∀ (tools : List Text) (_ : tools.Nodup) (status : HysteriaPortForwardStatus) (host : Host),
    (∀ tool ∈ tools, FirewallOk (host.tables tool) ∧
      NoBlankComment HYSTERIA_PORT_FORWARD_COMMENT (host.tables tool)) →
    ∃ statuses host', cleanupTools (firewallExecutor printer) tools status host =
        ({ status with tools := status.tools ++ statuses }, host') ∧
      statuses.map (·.tool) = tools ∧ (∀ toolStatus ∈ statuses, CleanStatus toolStatus) ∧
      (∀ tool ∈ tools, host'.tables tool = (host.tables tool).stripped) ∧
      (∀ tool ∉ tools, host'.tables tool = host.tables tool) ∧
      ((∀ tool ∈ tools, (host.tables tool).stripped = host.tables tool) → host' = host)
  | [], _, status, host, _ => ⟨[], host, by rw [List.append_nil]; rfl, rfl, by simp, by simp, fun _ _ => rfl, fun _ => rfl⟩
  | tool :: tools, hnodup, status, host, hok => by
    obtain ⟨hnot, hnodup⟩ := List.nodup_cons.1 hnodup
    obtain ⟨⟨htool, hblank⟩, hrest⟩ := List.forall_mem_cons.1 hok
    obtain ⟨toolStatus, mid, hstep, hname, hclean, hstripped, hothers, hsame⟩ :=
      cleanupTools_cons printer tool tools status host htool hblank
    have hkept : ∀ other ∈ tools, mid.tables other = host.tables other := by
      intro other hother
      exact hothers other fun h => hnot (h ▸ hother)
    obtain ⟨statuses, host', hrun, hnames, hcleans, hall, hout, hquiet⟩ :=
      cleanupTools_spec tools hnodup { status with tools := status.tools ++ [toolStatus] } mid fun other hother => by
        rw [hkept other hother]
        exact hrest other hother
    refine ⟨toolStatus :: statuses, host', ?_, ?_, ?_, ?_, ?_, ?_⟩
    · rw [hstep, hrun]
      simp only [List.append_assoc, List.singleton_append]
    · rw [List.map_cons, hname, hnames]
    · exact List.forall_mem_cons.2 ⟨hclean, hcleans⟩
    · refine List.forall_mem_cons.2 ⟨?_, fun other hother => ?_⟩
      · rw [hout tool hnot, hstripped]
      · rw [hall other hother, hkept other hother]
    · intro other hother
      rw [List.mem_cons, not_or] at hother
      rw [hout other hother.2, hothers other hother.1]
    · intro h
      obtain ⟨h₁, h₂⟩ := List.forall_mem_cons.1 h
      rw [hquiet fun other hother => by rw [hkept other hother]; exact h₂ other hother, hsame h₁]

end

/-! ## Any history -/

/-- What the agent does to a machine's firewall. -/
inductive HostOp where
  | repair (op : RepairOp)
  | cleanup

namespace HostOp

def run (op : HostOp) (printer : Printer) (host : Host) : Host :=
  match op with
  | repair op => (op.repair printer host).2
  | cleanup => (cleanupHysteriaPortForward (firewallExecutor printer) host).2

/-- The operation is not a repair of the Mieru family. -/
def hysteriaOnly : HostOp → Bool
  | repair (.mieru _) => false
  | _ => true

theorem run_cleanup (printer : Printer) (host : Host) :
    cleanup.run printer host = (cleanupHysteriaPortForward (firewallExecutor printer) host).2 := rfl

end HostOp

def runHostOps (printer : Printer) (ops : List HostOp) (host : Host) : Host :=
  ops.foldl (fun host op => op.run printer host) host

/-- The rules of one table that belong to neither family. -/
def foreignRules (managed : Text → FwRule → Bool) (rules : List FwRule) : List FwRule :=
  rules.filter fun rule => !managed HYSTERIA_PORT_FORWARD_COMMENT rule && !managed MIERU_PORT_FORWARD_COMMENT rule

/-- The rules of everybody but the agent are the same, in the same order. -/
structure ForeignKept (before after : Firewall) : Prop where
  prerouting : foreignRules natManaged after.prerouting = foreignRules natManaged before.prerouting
  input : foreignRules inputManaged after.input = foreignRules inputManaged before.input

theorem ForeignKept.trans {a b c : Firewall} (hab : ForeignKept a b) (hbc : ForeignKept b c) : ForeignKept a c :=
  ⟨hbc.prerouting.trans hab.prerouting, hbc.input.trans hab.input⟩

theorem foreignRules_eq (managed : Text → FwRule → Bool) (rules : List FwRule) :
    foreignRules managed rules = (rules.filter fun rule => !managed HYSTERIA_PORT_FORWARD_COMMENT rule).filter
      fun rule => !managed MIERU_PORT_FORWARD_COMMENT rule := by
  rw [List.filter_filter]
  exact List.filter_congr fun rule _ => Bool.and_comm _ _

theorem foreignRules_eq' (managed : Text → FwRule → Bool) (rules : List FwRule) :
    foreignRules managed rules = (rules.filter fun rule => !managed MIERU_PORT_FORWARD_COMMENT rule).filter
      fun rule => !managed HYSTERIA_PORT_FORWARD_COMMENT rule := by
  rw [List.filter_filter]
  rfl

theorem foreignKept_of_hysteria {before after : Firewall}
    (h : OthersKept HYSTERIA_PORT_FORWARD_COMMENT before after) : ForeignKept before after where
  prerouting := by rw [foreignRules_eq, foreignRules_eq, h.prerouting]
  input := by rw [foreignRules_eq, foreignRules_eq, h.input]

theorem foreignKept_of_mieru {before after : Firewall}
    (h : OthersKept MIERU_PORT_FORWARD_COMMENT before after) : ForeignKept before after where
  prerouting := by rw [foreignRules_eq', foreignRules_eq', h.prerouting]
  input := by rw [foreignRules_eq', foreignRules_eq', h.input]

theorem othersKept_stripped (fw : Firewall) : OthersKept HYSTERIA_PORT_FORWARD_COMMENT fw fw.stripped where
  prerouting := by simp only [Firewall.stripped, List.filter_filter, Bool.and_self]
  input := by simp only [Firewall.stripped, List.filter_filter, Bool.and_self]

section

variable (printer : Printer) {host : Host} (hok : HostOk host)
include hok

/-- **One cleanup**, on both tools. -/
theorem cleanup_spec :
    ∃ statuses, (cleanupHysteriaPortForward (firewallExecutor printer) host).1 =
        { enabled := false, runningAsRoot := true, tools := statuses } ∧
      statuses.map (·.tool) = HYSTERIA_PORT_FORWARD_TOOLS ∧ (∀ toolStatus ∈ statuses, CleanStatus toolStatus) ∧
      (∀ tool ∈ HYSTERIA_PORT_FORWARD_TOOLS,
        (cleanupHysteriaPortForward (firewallExecutor printer) host).2.tables tool = (host.tables tool).stripped) ∧
      (∀ tool ∉ HYSTERIA_PORT_FORWARD_TOOLS,
        (cleanupHysteriaPortForward (firewallExecutor printer) host).2.tables tool = host.tables tool) ∧
      ((∀ tool ∈ HYSTERIA_PORT_FORWARD_TOOLS, (host.tables tool).stripped = host.tables tool) →
        (cleanupHysteriaPortForward (firewallExecutor printer) host).2 = host) := by
  obtain ⟨statuses, host', hrun, hrest⟩ := cleanupTools_spec printer HYSTERIA_PORT_FORWARD_TOOLS (by decide)
    (setHysteriaPortForwardDisabled true) host fun tool htool => ⟨hok.tables tool htool, hok.hysteria tool htool⟩
  have hroot : (firewallExecutor printer).runningAsRoot host = true := rfl
  have heq : cleanupHysteriaPortForward (firewallExecutor printer) host =
      ({ enabled := false, runningAsRoot := true, tools := statuses }, host') := by
    rw [cleanupHysteriaPortForward, hroot]
    simp only [setHysteriaPortForwardDisabled, Bool.not_true, Bool.false_eq_true, if_false] at hrun ⊢
    rw [hrun, List.nil_append]
  rw [heq]
  exact ⟨statuses, rfl, hrest⟩

/-- What one operation owes the rules of others, and that the tables stay readable. -/
theorem HostOp.run_spec (op : HostOp) :
    HostOk (op.run printer host) ∧ (∀ tool, ForeignKept (host.tables tool) ((op.run printer host).tables tool)) ∧
      (op.hysteriaOnly = true → ∀ tool,
        OthersKept HYSTERIA_PORT_FORWARD_COMMENT (host.tables tool) ((op.run printer host).tables tool)) := by
  cases op with
  | repair op =>
    refine ⟨op.repair_hostOk printer hok, ?_, ?_⟩
    · intro tool
      have hothers := (op.repair_fixpoint printer hok).others_kept tool
      cases op with
      | hysteria infos => exact foreignKept_of_hysteria hothers
      | mieru infos => exact foreignKept_of_mieru hothers
    · intro honly tool
      cases op with
      | hysteria infos => exact ((RepairOp.hysteria infos).repair_fixpoint printer hok).others_kept tool
      | mieru infos => cases honly
  | cleanup =>
    obtain ⟨-, -, -, -, hstripped, hout, -⟩ := cleanup_spec printer hok
    have hothers : ∀ tool, OthersKept HYSTERIA_PORT_FORWARD_COMMENT (host.tables tool)
        ((HostOp.cleanup.run printer host).tables tool) := by
      intro tool
      by_cases htool : tool ∈ HYSTERIA_PORT_FORWARD_TOOLS
      · rw [HostOp.run, hstripped tool htool]
        exact othersKept_stripped _
      · rw [HostOp.run, hout tool htool]
        exact ⟨rfl, rfl⟩
    refine ⟨⟨?_, ?_, ?_⟩, fun tool => foreignKept_of_hysteria (hothers tool), fun _ => hothers⟩
    · intro tool htool
      rw [HostOp.run, hstripped tool htool]
      exact firewallOk_stripped (hok.tables tool htool)
    · intro tool htool
      rw [HostOp.run, hstripped tool htool]
      exact noBlankComment_stripped (hok.hysteria tool htool)
    · intro tool htool
      rw [HostOp.run, hstripped tool htool]
      exact noBlankComment_stripped (hok.mieru tool htool)

/-- **A run** of operations. -/
theorem runHostOps_spec (ops : List HostOp) :
    HostOk (runHostOps printer ops host) ∧
      (∀ tool, ForeignKept (host.tables tool) ((runHostOps printer ops host).tables tool)) ∧
      ((∀ op ∈ ops, op.hysteriaOnly = true) → ∀ tool,
        ((runHostOps printer ops host).tables tool).stripped = (host.tables tool).stripped) := by
  induction ops generalizing host with
  | nil => exact ⟨hok, fun _ => ⟨rfl, rfl⟩, fun _ _ => rfl⟩
  | cons op ops ih =>
    obtain ⟨hnext, hforeign, hothers⟩ := op.run_spec printer hok
    obtain ⟨hrun, hkept, hstripped⟩ := ih hnext
    refine ⟨hrun, fun tool => (hforeign tool).trans (hkept tool), fun honly tool => ?_⟩
    obtain ⟨hop, hops⟩ := List.forall_mem_cons.1 honly
    exact (hstripped hops tool).trans (hothers hop tool).stripped_eq

end

/-- What is promised of a cleanup that ends a history: `initial` is the machine before the history, `before` and
`after` are the machine before and after the cleanup. -/
structure HistoryUndone (printer : Printer) (ops : List HostOp) (initial before after : Host)
    (status : HysteriaPortForwardStatus) : Prop where
  foreign_kept : ∀ tool, ForeignKept (initial.tables tool) (after.tables tool)
  others_kept : ∀ tool, OthersKept HYSTERIA_PORT_FORWARD_COMMENT (before.tables tool) (after.tables tool)
  ours_gone : ∀ tool ∈ HYSTERIA_PORT_FORWARD_TOOLS,
    (∀ rule ∈ (after.tables tool).prerouting, natManaged HYSTERIA_PORT_FORWARD_COMMENT rule = false) ∧
    (∀ rule ∈ (after.tables tool).input, inputManaged HYSTERIA_PORT_FORWARD_COMMENT rule = false) ∧
    (after.tables tool).legacyChain = none
  mieru_kept : ∀ infos, ∀ tool ∈ HYSTERIA_PORT_FORWARD_TOOLS,
    RulesMatch MIERU_PORT_FORWARD_COMMENT (buildMieruPortForwardPlan infos) (before.tables tool) →
    RulesMatch MIERU_PORT_FORWARD_COMMENT (buildMieruPortForwardPlan infos) (after.tables tool)
  reported : status.errors = [] ∧ status.tools.map (·.tool) = HYSTERIA_PORT_FORWARD_TOOLS ∧
    ∀ toolStatus ∈ status.tools, CleanStatus toolStatus
  not_repeated : (cleanupHysteriaPortForward (firewallExecutor printer) after).2 = after
  restored : (∀ op ∈ ops, op.hysteriaOnly = true) → ∀ tool ∈ HYSTERIA_PORT_FORWARD_TOOLS,
    after.tables tool = (initial.tables tool).stripped

/-- **Cleanup**: it ends any history of repairs of both families and of cleanups with none of the agent's
Hysteria 2 rules left, every other rule where it stood, and nothing to do for a second cleanup. -/
theorem cleanup_undoes_history (printer : Printer) (host : Host) (hok : HostOk host) (ops : List HostOp) :
    HistoryUndone printer ops host (runHostOps printer ops host)
      (cleanupHysteriaPortForward (firewallExecutor printer) (runHostOps printer ops host)).2
      (cleanupHysteriaPortForward (firewallExecutor printer) (runHostOps printer ops host)).1 := by
  obtain ⟨hrun, hforeign, honly⟩ := runHostOps_spec printer hok ops
  obtain ⟨statuses, hstatus, hnames, hcleans, hstripped, hout, -⟩ := cleanup_spec printer hrun
  obtain ⟨hafter, hafterForeign, hafterOthers⟩ := HostOp.cleanup.run_spec printer hrun
  rw [HostOp.run_cleanup] at hafter hafterForeign hafterOthers
  refine ⟨?_, hafterOthers rfl, ?_, ?_, ?_, ?_, ?_⟩
  · exact fun tool => (hforeign tool).trans (hafterForeign tool)
  · intro tool htool
    rw [hstripped tool htool]
    refine ⟨fun rule hr => ?_, fun rule hr => ?_, rfl⟩
    · simpa using (List.mem_filter.1 hr).2
    · simpa using (List.mem_filter.1 hr).2
  · intro infos tool htool hmatch
    have hclean := (repaired_reconciled noNodes ((runHostOps printer ops host).tables tool)).clean.rules
    rw [reconciled_noNodes, ← hstripped tool htool] at hclean
    exact hmatch.beside (hafterOthers rfl tool) hclean (planOk_mieru infos) noNodes.plan_ok
      (show MIERU_PORT_FORWARD_COMMENT ≠ HYSTERIA_PORT_FORWARD_COMMENT by decide)
  · rw [hstatus]
    exact ⟨rfl, hnames, hcleans⟩
  · obtain ⟨-, -, -, -, -, -, hquiet⟩ := cleanup_spec printer hafter
    refine hquiet fun tool htool => ?_
    rw [hstripped tool htool, stripped_stripped]
  · intro h tool htool
    rw [hstripped tool htool, honly h tool]

theorem cleanup_undoes_history_used : HostOk (hostOf usedFirewall) ∧
    HistoryUndone plainPrinter [.repair (.hysteria []), .repair (.mieru [])] (hostOf usedFirewall)
      (runHostOps plainPrinter [.repair (.hysteria []), .repair (.mieru [])] (hostOf usedFirewall))
      (cleanupHysteriaPortForward (firewallExecutor plainPrinter)
        (runHostOps plainPrinter [.repair (.hysteria []), .repair (.mieru [])] (hostOf usedFirewall))).2
      (cleanupHysteriaPortForward (firewallExecutor plainPrinter)
        (runHostOps plainPrinter [.repair (.hysteria []), .repair (.mieru [])] (hostOf usedFirewall))).1 := by
  have hfw : FirewallOk usedFirewall := ⟨by decide, by decide⟩
  have hhysteria : NoBlankComment HYSTERIA_PORT_FORWARD_COMMENT usedFirewall := ⟨by decide, by decide⟩
  have hmieru : NoBlankComment MIERU_PORT_FORWARD_COMMENT usedFirewall := ⟨by decide, by decide⟩
  have hok : HostOk (hostOf usedFirewall) := ⟨fun _ _ => hfw, fun _ _ => hhysteria, fun _ _ => hmieru⟩
  exact ⟨hok, cleanup_undoes_history plainPrinter _ hok _⟩

end KeliNode
