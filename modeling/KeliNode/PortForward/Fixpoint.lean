import KeliNode.PortForward.Repair

/-!
# Repairing reaches a fixpoint and touches nothing else

On a machine with both tools, a repair of either family inspects each tool and reconciles it when needed.
One repair of one tool either does nothing, because nothing differs, or replaces the tool's table by the
reconciled one (`repairTool_spec`).  So after any repairs of both families in any order, one more repair
leaves the other rules alone, leaves the agent's rules exactly as planned, is reported clean by the next
inspection and is not repeated by the next repair (`repair_reaches_fixpoint`).

The one thing the agent cannot do is delete a rule of its own that carries an empty comment: its tokenizer
loses the empty field, and `-D` then names another rule (`repair_keeps_blank_comment`).
-/

namespace KeliNode

open Lib

/-! ## Running commands on a machine -/

theorem executePortForwardCommands_firewall (printer : Printer) : ∀ (commands : List PortForwardCommand) (host : Host),
    executePortForwardCommands (firewallExecutor printer) commands host = (.ok (), commands.foldl Host.run host)
  | [], _ => rfl
  | command :: commands, host => executePortForwardCommands_firewall printer commands (host.run command)

/-- Commands of one tool change the tables of that tool only. -/
theorem foldl_hostRun (tool : Text) : ∀ (commands : List PortForwardCommand) (host : Host),
    (∀ command ∈ commands, command.tool = tool) →
    commands.foldl Host.run host =
      { tables := Function.update host.tables tool ((host.tables tool).runAll commands)
        issued := host.issued ++ commands }
  | [], host, _ => by
    rw [show (host.tables tool).runAll [] = host.tables tool from rfl, Function.update_eq_self, List.append_nil]
    rfl
  | command :: commands, host, h => by
    obtain ⟨rfl, hrest⟩ := List.forall_mem_cons.1 h
    rw [List.foldl_cons, foldl_hostRun command.tool commands (host.run command) hrest]
    simp only [Host.run, Function.update_self, Function.update_idem, List.append_assoc, List.singleton_append]
    rfl

/-! ## The two families -/

/-- A family as the proofs need it: its comment, its plan, and whether it removes the legacy chain. -/
structure ManagedFamily where
  comment : Text
  plan : HysteriaPortForwardPlan
  removesChain : Bool
  comment_ok : CommentOk comment
  plan_ok : PlanOk comment plan

def hysteriaManaged (infos : List NodeInfo) : ManagedFamily where
  comment := HYSTERIA_PORT_FORWARD_COMMENT
  plan := buildHysteriaPortForwardPlan infos
  removesChain := true
  comment_ok := commentOk_hysteria
  plan_ok := planOk_hysteria infos

def mieruManaged (infos : List NodeInfo) : ManagedFamily where
  comment := MIERU_PORT_FORWARD_COMMENT
  plan := buildMieruPortForwardPlan infos
  removesChain := false
  comment_ok := commentOk_mieru
  plan_ok := planOk_mieru infos

def ManagedFamily.staleChain (family : ManagedFamily) (fw : Firewall) : Bool := family.removesChain && fw.legacyChain.isSome

/-- What inspecting a tool reports on a machine. -/
def ManagedFamily.inspection (family : ManagedFamily) (printer : Printer) (tool : Text) (fw : Firewall) :
    HysteriaPortForwardToolStatus :=
  inspectManagedSpecsWithComment tool family.plan.natRules family.plan.allowRules
    (printer.printChain "PREROUTING" fw.prerouting) (printer.printChain "INPUT" fw.input)
    (family.staleChain fw) family.comment

/-- The commands that reconcile a tool. -/
def ManagedFamily.commands (family : ManagedFamily) (printer : Printer) (tool : Text) (fw : Firewall) : List PortForwardCommand :=
  deletePortForwardCommandsWithComment tool (printer.printChain "PREROUTING" fw.prerouting) family.comment ++
  deleteFirewallAllowCommandsWithComment tool (printer.printChain "INPUT" fw.input) family.comment ++
  (if family.staleChain fw then removeChainCommands tool else []) ++
  family.plan.natRules.map (addRedirectCommand tool) ++ family.plan.allowRules.map (addAllowCommand tool)

/-- A repair that the family describes. -/
structure ManagedFamily.Describes (family : ManagedFamily) (printer : Printer) (repair : RepairFamily Host) : Prop where
  inspect : ∀ tool host, repair.inspect tool host = (family.inspection printer tool (host.tables tool), host)
  reconcile : ∀ tool host, repair.reconcile tool host =
    executePortForwardCommands (firewallExecutor printer) (family.commands printer tool (host.tables tool)) host

theorem list_chainCommand (tables : Firewall) (printer : Printer) (tool : Text) :
    tables.list printer (chainCommand tool).args =
      match tables.legacyChain with
      | some rules => .ok (printer.printChain HYSTERIA_PORT_FORWARD_CHAIN rules)
      | none => .error "No chain/target/match by that name." := rfl

theorem legacyChainExists_firewall (printer : Printer) (tool : Text) :
    legacyChainExists (firewallExecutor printer) tool = fun host => ((host.tables tool).legacyChain.isSome, host) := by
  funext host
  unfold legacyChainExists
  simp only [firewallExecutor]
  rw [show (chainCommand tool).tool = tool from rfl, list_chainCommand]
  cases (host.tables tool).legacyChain <;> rfl

theorem hysteriaManaged_describes (printer : Printer) (infos : List NodeInfo) :
    (hysteriaManaged infos).Describes printer
      (hysteriaRepair (firewallExecutor printer) (buildHysteriaPortForwardPlan infos)) where
  inspect tool host := by
    change inspectTool (firewallExecutor printer) (legacyChainExists (firewallExecutor printer) tool) tool _ _ _ host = _
    unfold inspectTool
    rw [legacyChainExists_firewall]
    rfl
  reconcile tool host := by
    change executeReconcilePortForwardTool (firewallExecutor printer) tool _ _ host = _
    unfold executeReconcilePortForwardTool
    rw [legacyChainExists_firewall]
    rfl

theorem mieruManaged_describes (printer : Printer) (infos : List NodeInfo) :
    (mieruManaged infos).Describes printer
      (mieruRepair (firewallExecutor printer) (buildMieruPortForwardPlan infos)) where
  inspect _ _ := rfl
  reconcile tool host := by
    change executeMieruPortForwardTool (firewallExecutor printer) tool _ _ host = _
    have hnone : ∀ xs ys zs ws : List PortForwardCommand, xs ++ ys ++ [] ++ zs ++ ws = xs ++ ys ++ zs ++ ws := by
      simp
    rw [ManagedFamily.commands, show (mieruManaged infos).staleChain (host.tables tool) = false from rfl, if_neg (by decide),
      hnone]
    rfl

/-! ## One tool -/

/-- Nothing differs: the family's rules are the planned ones and there is no chain to remove. -/
structure ManagedFamily.Clean (family : ManagedFamily) (fw : Firewall) : Prop where
  rules : RulesMatch family.comment family.plan fw
  chain : family.staleChain fw = false

/-- What one repair of one tool does to its tables. -/
structure ManagedFamily.Repaired (family : ManagedFamily) (before after : Firewall) : Prop where
  others : OthersKept family.comment before after
  clean : family.Clean after
  legacy : family.removesChain = false → after.legacyChain = before.legacyChain
  ok : FirewallOk before → FirewallOk after
  noBlank : ∀ comment, NoBlankComment comment before → NoBlankComment comment after

section

variable (printer : Printer) (family : ManagedFamily) (tool : Text) {fw : Firewall} (hok : FirewallOk fw)
  (hblank : NoBlankComment family.comment fw)
include hok hblank

theorem inspection_clean_iff :
    ((family.inspection printer tool fw).missing = [] ∧ (family.inspection printer tool fw).extra = [] ∧
      (family.inspection printer tool fw).staleChain = false) ↔ family.Clean fw := by
  have h := clean_iff printer family.comment_ok family.plan_ok hok hblank tool (family.staleChain fw)
  constructor
  · rintro ⟨hmissing, hextra, hchain⟩
    exact ⟨h.1 ⟨hmissing, hextra⟩, hchain⟩
  · rintro ⟨hrules, hchain⟩
    exact ⟨(h.2 hrules).1, (h.2 hrules).2, hchain⟩

theorem needsRepair_iff : (family.inspection printer tool fw).needsRepair = true ↔ ¬family.Clean fw := by
  rw [← inspection_clean_iff printer family tool hok hblank]
  have herror : (family.inspection printer tool fw).error = [] := rfl
  simp only [HysteriaPortForwardToolStatus.needsRepair, herror, List.isEmpty_nil, Bool.true_and, Bool.or_eq_true,
    Bool.not_eq_true', List.isEmpty_eq_false_iff, not_and_or, Bool.not_eq_false]
  exact or_assoc

theorem runAll_commands :
    fw.runAll (family.commands printer tool fw) = reconciled family.comment family.plan family.removesChain fw := by
  rw [ManagedFamily.commands, runAll_reconcile printer family.comment_ok family.plan_ok hok hblank]
  -- the chain commands are left out only when there is no chain
  unfold reconciled ManagedFamily.staleChain
  cases family.removesChain with
  | false => rfl
  | true => cases hchain : fw.legacyChain <;> rfl

end

theorem repaired_reconciled (family : ManagedFamily) (fw : Firewall) :
    family.Repaired fw (reconciled family.comment family.plan family.removesChain fw) where
  others := reconciled_others family.comment_ok family.plan_ok _ fw
  clean := by
    refine ⟨reconciled_match family.comment_ok family.plan_ok _ fw, ?_⟩
    unfold ManagedFamily.staleChain reconciled
    cases family.removesChain <;> rfl
  legacy h := by rw [reconciled, h]; rfl
  ok := reconciled_firewallOk family.plan_ok
  noBlank _ := reconciled_noBlankComment family.plan_ok

theorem repaired_self {family : ManagedFamily} {fw : Firewall} (h : family.Clean fw) : family.Repaired fw fw where
  others := ⟨rfl, rfl⟩
  clean := h
  legacy _ := rfl
  ok := id
  noBlank _ := id

/-! ## Both tools -/

section

variable {printer : Printer} {family : ManagedFamily} {repair : RepairFamily Host} (hd : family.Describes printer repair)
include hd

/-- One tool of the loop: its table is repaired, the others are left. -/
theorem repairTool_spec (tool : Text) (tools : List Text) (status : HysteriaPortForwardStatus) (host : Host)
    (hok : FirewallOk (host.tables tool)) (hblank : NoBlankComment family.comment (host.tables tool)) :
    ∃ status' host', repairTools repair (tool :: tools) status host = repairTools repair tools status' host' ∧
      family.Repaired (host.tables tool) (host'.tables tool) ∧
      (∀ other, other ≠ tool → host'.tables other = host.tables other) ∧
      (family.Clean (host.tables tool) → host' = host) := by
  have hneed := needsRepair_iff printer family tool hok hblank
  rw [repairTools]
  simp only [hd.inspect]
  by_cases hclean : family.Clean (host.tables tool)
  · have hno : ¬((family.inspection printer tool (host.tables tool)).available &&
        (family.inspection printer tool (host.tables tool)).needsRepair) = true := by
      simp only [Bool.and_eq_true, hneed]
      exact fun h => h.2 hclean
    rw [if_neg hno]
    exact ⟨_, host, rfl, repaired_self hclean, fun _ _ => rfl, fun _ => rfl⟩
  · have hyes : ((family.inspection printer tool (host.tables tool)).available &&
        (family.inspection printer tool (host.tables tool)).needsRepair) = true := by
      rw [hneed.2 hclean]
      rfl
    have htool : ∀ command ∈ family.commands printer tool (host.tables tool), command.tool = tool := by
      intro command hcommand
      simp only [ManagedFamily.commands, deletePortForwardCommands_printChain printer family.comment_ok hok hblank,
        deleteFirewallAllowCommands_printChain printer family.comment_ok hok hblank, List.mem_append, List.mem_map,
        or_assoc] at hcommand
      rcases hcommand with ⟨_, _, rfl⟩ | ⟨_, _, rfl⟩ | hcommand | ⟨_, _, rfl⟩ | ⟨_, _, rfl⟩
      · rfl
      · rfl
      · split at hcommand
        · simp only [removeChainCommands, List.mem_cons, List.not_mem_nil, or_false] at hcommand
          rcases hcommand with rfl | rfl <;> rfl
        · cases hcommand
      · rfl
      · rfl
    rw [if_pos hyes, hd.reconcile, executePortForwardCommands_firewall, foldl_hostRun tool _ _ htool,
      runAll_commands printer family tool hok hblank]
    refine ⟨_, _, rfl, ?_, ?_, fun h => absurd h hclean⟩
    · simp only [Function.update_self]
      exact repaired_reconciled family (host.tables tool)
    · intro other hother
      simp only [Function.update_of_ne hother]

/-- The whole loop. -/
theorem repairTools_spec : ∀ (tools : List Text) (_ : tools.Nodup) (status : HysteriaPortForwardStatus) (host : Host),
    (∀ tool ∈ tools, FirewallOk (host.tables tool) ∧ NoBlankComment family.comment (host.tables tool)) →
    (∀ tool ∈ tools, family.Repaired (host.tables tool) ((repairTools repair tools status host).2.tables tool)) ∧
    (∀ tool ∉ tools, (repairTools repair tools status host).2.tables tool = host.tables tool) ∧
    ((∀ tool ∈ tools, family.Clean (host.tables tool)) → (repairTools repair tools status host).2 = host)
  | [], _, _, _, _ => ⟨by simp, fun _ _ => rfl, fun _ => rfl⟩
  | tool :: tools, hnodup, status, host, hok => by
    obtain ⟨hnot, hnodup⟩ := List.nodup_cons.1 hnodup
    obtain ⟨⟨htool, hblank⟩, hrest⟩ := List.forall_mem_cons.1 hok
    obtain ⟨status', host', hstep, hfixed, hothers, hsame⟩ := repairTool_spec hd tool tools status host htool hblank
    have hkept : ∀ other ∈ tools, host'.tables other = host.tables other := by
      intro other hother
      exact hothers other fun h => hnot (h ▸ hother)
    obtain ⟨hall, hout, hclean⟩ := repairTools_spec tools hnodup status' host' fun other hother => by
      rw [hkept other hother]
      exact hrest other hother
    rw [hstep]
    refine ⟨List.forall_mem_cons.2 ⟨?_, ?_⟩, ?_, ?_⟩
    · rw [hout tool hnot]
      exact hfixed
    · intro other hother
      rw [← hkept other hother]
      exact hall other hother
    · intro other hother
      rw [List.mem_cons, not_or] at hother
      rw [hout other hother.2, hothers other hother.1]
    · intro h
      obtain ⟨h₁, h₂⟩ := List.forall_mem_cons.1 h
      rw [hclean fun other hother => by rw [hkept other hother]; exact h₂ other hother, hsame h₁]

theorem inspectTools_spec : ∀ (tools : List Text) (status : HysteriaPortForwardStatus) (host : Host),
    inspectTools repair.inspect tools status host =
      ({ status with
        tools := status.tools ++ tools.map (fun tool => family.inspection printer tool (host.tables tool)) }, host)
  | [], status, host => by simp [inspectTools]
  | tool :: tools, status, host => by
    rw [inspectTools, hd.inspect]
    simp only [inspectTools_spec tools, List.map_cons, List.append_assoc, List.singleton_append]

end

/-! ## Any order of repairs -/

inductive RepairOp where
  | hysteria (infos : List NodeInfo)
  | mieru (infos : List NodeInfo)

namespace RepairOp

def managed : RepairOp → ManagedFamily
  | hysteria infos => hysteriaManaged infos
  | mieru infos => mieruManaged infos

def repair (op : RepairOp) (printer : Printer) (host : Host) : HysteriaPortForwardStatus × Host :=
  match op with
  | hysteria infos => repairHysteriaPortForward (firewallExecutor printer) infos host
  | mieru infos => repairMieruPortForward (firewallExecutor printer) infos host

def inspect (op : RepairOp) (printer : Printer) (host : Host) : HysteriaPortForwardStatus × Host :=
  match op with
  | hysteria infos => inspectHysteriaPortForward (firewallExecutor printer) infos host
  | mieru infos => inspectMieruPortForward (firewallExecutor printer) infos host

theorem repair_eq (op : RepairOp) (printer : Printer) (host : Host) :
    ∃ repair status, op.managed.Describes printer repair ∧
      op.repair printer host = repairTools repair HYSTERIA_PORT_FORWARD_TOOLS status host := by
  have hroot : ∀ (family : RepairFamily Host) plan (status : HysteriaPortForwardStatus),
      status.runningAsRoot = true → repairPortForward family plan status host =
        repairTools family HYSTERIA_PORT_FORWARD_TOOLS status host := by
    intro family plan status hroot
    rw [repairPortForward, hroot]
    rfl
  cases op with
  | hysteria infos =>
    refine ⟨_, newHysteriaPortForwardStatusFromPlan (buildHysteriaPortForwardPlan infos) true,
      hysteriaManaged_describes printer infos, ?_⟩
    rw [repair, repairHysteriaPortForward]
    exact hroot _ _ _ rfl
  | mieru infos =>
    refine ⟨_, newMieruPortForwardStatusFromPlan (buildMieruPortForwardPlan infos) true,
      mieruManaged_describes printer infos, ?_⟩
    rw [repair, repairMieruPortForward]
    exact hroot _ _ _ rfl

theorem inspect_tools (op : RepairOp) (printer : Printer) (host : Host) :
    (op.inspect printer host).1.tools =
      HYSTERIA_PORT_FORWARD_TOOLS.map fun tool => op.managed.inspection printer tool (host.tables tool) := by
  cases op with
  | hysteria infos =>
    rw [inspect, inspectHysteriaPortForward, inspectTools_spec (hysteriaManaged_describes printer infos)]
    rfl
  | mieru infos =>
    rw [inspect, inspectMieruPortForward, inspectTools_spec (mieruManaged_describes printer infos)]
    rfl

end RepairOp

def runRepairs (printer : Printer) (ops : List RepairOp) (host : Host) : Host :=
  ops.foldl (fun host op => (op.repair printer host).2) host

/-- Tables iptables can print and the agent can read: neither family has a rule with an empty comment. -/
structure HostOk (host : Host) : Prop where
  tables : ∀ tool ∈ HYSTERIA_PORT_FORWARD_TOOLS, FirewallOk (host.tables tool)
  hysteria : ∀ tool ∈ HYSTERIA_PORT_FORWARD_TOOLS, NoBlankComment HYSTERIA_PORT_FORWARD_COMMENT (host.tables tool)
  mieru : ∀ tool ∈ HYSTERIA_PORT_FORWARD_TOOLS, NoBlankComment MIERU_PORT_FORWARD_COMMENT (host.tables tool)

/-- What is promised of a repair `op` that took the machine from `before` to `after`. -/
structure FixpointReached (printer : Printer) (op : RepairOp) (before after : Host) : Prop where
  others_kept : ∀ tool, OthersKept op.managed.comment (before.tables tool) (after.tables tool)
  rules_match : ∀ tool ∈ HYSTERIA_PORT_FORWARD_TOOLS,
    RulesMatch op.managed.comment op.managed.plan (after.tables tool)
  chain_gone : op.managed.removesChain = true → ∀ tool ∈ HYSTERIA_PORT_FORWARD_TOOLS,
    (after.tables tool).legacyChain = none
  chain_kept : op.managed.removesChain = false → ∀ tool,
    (after.tables tool).legacyChain = (before.tables tool).legacyChain
  inspected : (op.inspect printer after).1.tools.map (·.tool) = HYSTERIA_PORT_FORWARD_TOOLS ∧
    ∀ status ∈ (op.inspect printer after).1.tools,
      status.available = true ∧ status.error = [] ∧ status.missing = [] ∧ status.extra = [] ∧ status.staleChain = false
  not_repeated : (op.repair printer after).2 = after

namespace RepairOp

variable (printer : Printer) (op : RepairOp) {host : Host} (hok : HostOk host)
include hok

theorem noBlank : ∀ tool ∈ HYSTERIA_PORT_FORWARD_TOOLS,
    FirewallOk (host.tables tool) ∧ NoBlankComment op.managed.comment (host.tables tool) := by
  intro tool htool
  refine ⟨hok.tables tool htool, ?_⟩
  cases op with
  | hysteria infos => exact hok.hysteria tool htool
  | mieru infos => exact hok.mieru tool htool

/-- **One repair**, on both tools. -/
theorem repair_spec :
    (∀ tool ∈ HYSTERIA_PORT_FORWARD_TOOLS,
      op.managed.Repaired (host.tables tool) ((op.repair printer host).2.tables tool)) ∧
    (∀ tool ∉ HYSTERIA_PORT_FORWARD_TOOLS, (op.repair printer host).2.tables tool = host.tables tool) ∧
    ((∀ tool ∈ HYSTERIA_PORT_FORWARD_TOOLS, op.managed.Clean (host.tables tool)) →
      (op.repair printer host).2 = host) := by
  obtain ⟨repair, status, hd, heq⟩ := op.repair_eq printer host
  rw [heq]
  exact repairTools_spec hd _ (by decide) status host (op.noBlank hok)

theorem repair_hostOk : HostOk (op.repair printer host).2 := by
  obtain ⟨hrepaired, _, _⟩ := op.repair_spec printer hok
  refine ⟨?_, ?_, ?_⟩
  · exact fun tool htool => (hrepaired tool htool).ok (hok.tables tool htool)
  · exact fun tool htool => (hrepaired tool htool).noBlank _ (hok.hysteria tool htool)
  · exact fun tool htool => (hrepaired tool htool).noBlank _ (hok.mieru tool htool)

theorem repair_fixpoint : FixpointReached printer op host (op.repair printer host).2 := by
  obtain ⟨hrepaired, hout, _⟩ := op.repair_spec printer hok
  have hok' := op.repair_hostOk printer hok
  obtain ⟨_, _, hclean⟩ := op.repair_spec printer hok'
  refine ⟨?_, ?_, ?_, ?_, ⟨?_, ?_⟩, ?_⟩
  · intro tool
    by_cases htool : tool ∈ HYSTERIA_PORT_FORWARD_TOOLS
    · exact (hrepaired tool htool).others
    · rw [hout tool htool]
      exact ⟨rfl, rfl⟩
  · exact fun tool htool => (hrepaired tool htool).clean.rules
  · intro hremoves tool htool
    have hchain := (hrepaired tool htool).clean.chain
    rw [ManagedFamily.staleChain, hremoves, Bool.true_and] at hchain
    simpa using hchain
  · intro hkeeps tool
    by_cases htool : tool ∈ HYSTERIA_PORT_FORWARD_TOOLS
    · exact (hrepaired tool htool).legacy hkeeps
    · rw [hout tool htool]
  · rw [inspect_tools, List.map_map]
    rfl
  · intro status hstatus
    rw [inspect_tools] at hstatus
    obtain ⟨tool, htool, rfl⟩ := List.mem_map.1 hstatus
    obtain ⟨hfw, hblank⟩ := op.noBlank hok' tool htool
    exact ⟨rfl, rfl, (inspection_clean_iff printer op.managed tool hfw hblank).2 (hrepaired tool htool).clean⟩
  · exact hclean fun tool htool => (hrepaired tool htool).clean

end RepairOp

theorem runRepairs_hostOk (printer : Printer) (ops : List RepairOp) {host : Host} (hok : HostOk host) :
    HostOk (runRepairs printer ops host) := by
  induction ops generalizing host with
  | nil => exact hok
  | cons op ops ih => exact ih (op.repair_hostOk printer hok)

/-- The two repairs of an apply settle: repeated for the same nodes, they do nothing. -/
theorem repairs_settle (printer : Printer) (infos : List NodeInfo) {host : Host} (hok : HostOk host) :
    runRepairs printer [.hysteria infos, .mieru infos] (runRepairs printer [.hysteria infos, .mieru infos] host) =
      runRepairs printer [.hysteria infos, .mieru infos] host := by
  have hokHysteria := (RepairOp.hysteria infos).repair_hostOk printer hok
  obtain ⟨hhysteria, -, -⟩ := (RepairOp.hysteria infos).repair_spec printer hok
  obtain ⟨hmieru, -, -⟩ := (RepairOp.mieru infos).repair_spec printer hokHysteria
  have hagain : ((RepairOp.hysteria infos).repair printer (runRepairs printer [.hysteria infos, .mieru infos] host)).2 =
      runRepairs printer [.hysteria infos, .mieru infos] host := by
    refine ((RepairOp.hysteria infos).repair_spec printer (runRepairs_hostOk printer _ hok)).2.2
      fun tool htool => ⟨?_, ?_⟩
    · exact (hhysteria tool htool).clean.rules.beside (hmieru tool htool).others (hmieru tool htool).clean.rules
        (planOk_hysteria infos) (planOk_mieru infos)
        (show HYSTERIA_PORT_FORWARD_COMMENT ≠ MIERU_PORT_FORWARD_COMMENT by decide)
    · -- the second repair leaves the legacy chain as it is, gone
      have hchain := (hhysteria tool htool).clean.chain
      rwa [ManagedFamily.staleChain, ← (hmieru tool htool).legacy rfl] at hchain
  conv_lhs => rw [runRepairs, List.foldl_cons, hagain]
  exact ((RepairOp.mieru infos).repair_fixpoint printer hokHysteria).not_repeated

/-- **Fixpoint**: after any repairs of both families in any order, one more repair leaves the other rules
alone, leaves exactly the planned rules, is inspected clean and is not repeated; one of Hysteria 2 leaves no legacy
chain, and one of Mieru does not touch it. -/
theorem repair_reaches_fixpoint (printer : Printer) (host : Host) (hok : HostOk host) (ops : List RepairOp)
    (op : RepairOp) :
    FixpointReached printer op (runRepairs printer ops host) (op.repair printer (runRepairs printer ops host)).2 :=
  op.repair_fixpoint printer (runRepairs_hostOk printer ops hok)

/-- A printer that writes nothing out and quotes what it must. -/
def plainPrinter : Printer := ⟨fun _ => false, needsQuotes, fun _ h => h⟩

/-- A machine where both tools hold the same tables. -/
def hostOf (fw : Firewall) : Host := { tables := fun _ => fw }

/-- An operator's rule with a two-word comment, a leftover of the agent, and the legacy chain. -/
def usedFirewall : Firewall where
  prerouting :=
    [["-p", "tcp", "-m", "comment", "--comment", "web proxy", "-j", "REDIRECT", "--to-ports", "8080"],
     ["-m", "comment", "--comment", HYSTERIA_PORT_FORWARD_COMMENT, "-j", HYSTERIA_PORT_FORWARD_CHAIN]]
  legacyChain := some []

theorem repair_reaches_fixpoint_used : HostOk (hostOf usedFirewall) ∧
    FixpointReached plainPrinter (.hysteria []) (runRepairs plainPrinter [.mieru []] (hostOf usedFirewall))
      ((RepairOp.hysteria []).repair plainPrinter (runRepairs plainPrinter [.mieru []] (hostOf usedFirewall))).2 := by
  have hfw : FirewallOk usedFirewall := ⟨by decide, by decide⟩
  have hhysteria : NoBlankComment HYSTERIA_PORT_FORWARD_COMMENT usedFirewall := ⟨by decide, by decide⟩
  have hmieru : NoBlankComment MIERU_PORT_FORWARD_COMMENT usedFirewall := ⟨by decide, by decide⟩
  have hok : HostOk (hostOf usedFirewall) := ⟨fun _ _ => hfw, fun _ _ => hhysteria, fun _ _ => hmieru⟩
  exact ⟨hok, repair_reaches_fixpoint plainPrinter _ hok [.mieru []] (.hysteria [])⟩

/-- A jump to the legacy chain whose comment is empty. -/
def blankFirewall : Firewall where
  prerouting := [["-m", "comment", "--comment", "", "-j", HYSTERIA_PORT_FORWARD_CHAIN]]

/-- The agent recognises the rule, cannot name it, and tries again on every repair. -/
theorem repair_keeps_blank_comment :
    (∀ tool ∈ HYSTERIA_PORT_FORWARD_TOOLS, FirewallOk ((hostOf blankFirewall).tables tool)) ∧
    ¬FixpointReached plainPrinter (.hysteria []) (runRepairs plainPrinter [] (hostOf blankFirewall))
      ((RepairOp.hysteria []).repair plainPrinter (runRepairs plainPrinter [] (hostOf blankFirewall))).2 := by
  have hfw : FirewallOk blankFirewall := ⟨by decide, by decide⟩
  refine ⟨fun _ _ => hfw, fun h => ?_⟩
  have hissued := congrArg Host.issued h.not_repeated
  exact absurd hissued (by decide +kernel)

end KeliNode
