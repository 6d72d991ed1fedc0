import KeliNode.Machine.Merge
import KeliNode.Panel.Certificate

/-!
# Directories of nodes

A resolved node is the panel's own, an entry of `nodes`, or one that the panel of a machine profile names
(`NodeOrigin`), and its directory follows from what the configuration says there (`NodeOrigin.place`,
`PlacedNode.configDir_eq`).  Two nodes that share an id and a protocol have one certificate exactly when they meet in a
directory, as two entries of `nodes` do that set none, and two profiles with the same label.
-/

namespace KeliNode

open Lib

/-- The inputs of a resolution: each profile with what its panel answers. -/
def machineInputs (fetch : Nat → MachineProfileConfig → Except Text MachineNodesResponse)
    (profiles : List MachineProfileConfig) : List MachineProfileInput :=
  profiles.mapIdx fun i profile => { profile, result := fetch i profile }

/-- `resolve_runtime_with_machine_profiles` (`runtime.rs:108`). -/
def AppConfig.resolveRuntimeWithMachineProfiles (config : AppConfig)
    (fetch : Nat → MachineProfileConfig → Except Text MachineNodesResponse) : Except Text Config.ResolvedConfig := do
  let resolved ← config.resolveRuntime
  if resolved.machine.profiles = [] then return resolved
  let summary ← resolveMachineProfiles (machineInputs fetch resolved.machine.profiles) resolved.machine.continueOnError
  return applyMachineSummary resolved summary

/-! ## Origins -/

/-- Where a resolved node is named. -/
inductive NodeOrigin where
  | panel
  | row (entry : NodeConfig)
  | profile (entry : MachineProfileConfig)

/-- The directory of the nodes of profiles with the label. -/
def labelDirectory (label : Text) : Text := defaultConfigDir ++ "/" ++ sanitizeMachineProfileName label

/-- A directory of the configuration, and whether a node gets it or one of its own below. -/
structure NodePlace where
  root : Text
  below : Bool

/-- A node's directory at the place. -/
def NodePlace.directory (place : NodePlace) (nodeId : Nat) : Text :=
  if place.below then trimEndMatches (· = '/') place.root ++ "/node-" ++ decimal nodeId else place.root

namespace NodeOrigin

/-- The directory that the configuration sets itself; one whose normal form is blank counts as none. -/
def explicitDir : NodeOrigin → Option Text
  | .panel => none
  | .row entry => if trim entry.configDir = [] then none else some (normalizeConfigDir entry.configDir)
  | .profile entry =>
    if trim (normalizeOptionalConfigDir entry.configDir) = [] then none
    else some (normalizeOptionalConfigDir entry.configDir)

/-- Where the configuration puts the nodes from there: an entry of `nodes` at its own directory, or else below the
kernel's if there are several; the nodes of a machine profile below its directory, or else one named by its label. -/
def place (config : AppConfig) (origin : NodeOrigin) : NodePlace :=
  match origin with
  | .panel => ⟨normalizeConfigDir config.kernel.configDir, false⟩
  | .row entry =>
    match NodeOrigin.explicitDir (.row entry) with
    | some dir => ⟨dir, false⟩
    | none => ⟨normalizeConfigDir (normalizeConfigDir config.kernel.configDir), decide (1 < config.nodes.length)⟩
  | .profile entry =>
    match NodeOrigin.explicitDir (.profile entry) with
    | some dir => ⟨dir, true⟩
    | none => ⟨labelDirectory (machineProfileLabel entry), true⟩

/-- The node comes from there. -/
def Names (config : AppConfig) (fetch : Nat → MachineProfileConfig → Except Text MachineNodesResponse)
    (node : NodeConfig) (origin : NodeOrigin) : Prop :=
  match origin with
  | .panel => config.nodes = [] ∧ config.resolveNodes (normalizeConfigDir config.kernel.configDir) = .ok [node]
  | .row entry => entry ∈ config.nodes ∧
      config.panel.resolveNode (normalizeConfigDir config.kernel.configDir) (decide (1 < config.nodes.length)) entry =
        .ok node
  | .profile entry => entry ∈ config.machine.profiles ∧ ∃ machine, config.panel.resolveProfile entry = .ok machine ∧
      ∃ i response, fetch i machine = .ok response ∧ node ∈ (resolveMachineProfileResult machine response).nodes

end NodeOrigin

/-- A node of the resolved configuration, with its origin. -/
structure PlacedNode (config : AppConfig)
    (fetch : Nat → MachineProfileConfig → Except Text MachineNodesResponse) (nodes : List NodeConfig) where
  node : NodeConfig
  origin : NodeOrigin
  mem : node ∈ nodes
  names : origin.Names config fetch node

section

variable {config : AppConfig} {fetch : Nat → MachineProfileConfig → Except Text MachineNodesResponse}
  {nodes : List NodeConfig}

theorem trim_machineName {machineId : Nat} : trim (("machine-" : Text) ++ decimal machineId) = "machine-" ++ decimal machineId := by
  refine trim_eq_self (fun c hc => ?_) fun c hc => ?_
  · cases hc
    decide
  · rw [List.getLast?_append_of_ne_nil _ (decimal_ne_nil machineId)] at hc
    exact (isDigit_plain (isDigit_of_mem_decimal (List.mem_of_getLast? hc))).2

/-- A resolved profile has its label and the normal form of its directory. -/
theorem resolveProfile_eq_ok {panel : PanelConfig} {entry machine : MachineProfileConfig}
    (h : panel.resolveProfile entry = .ok machine) :
    machineProfileLabel machine = machineProfileLabel entry ∧
      machine.configDir = normalizeOptionalConfigDir entry.configDir := by
  rw [PanelConfig.resolveProfile] at h
  split at h
  · cases h
  · rename_i hfilled
    cases h
    have hid : 0 < entry.machineId := by
      simp only [not_or] at hfilled
      omega
    refine ⟨?_, rfl⟩
    simp only [machineProfileLabel]
    by_cases hname : trim entry.name = []
    · have hnamed : ("machine-" : Text) ++ decimal entry.machineId ≠ [] :=
        List.append_ne_nil_of_left_ne_nil (by decide) _
      simp only [hname, hid, and_self, if_true, trim_machineName, hnamed, not_false_eq_true, not_true_eq_false, if_false,
        ne_eq]
    · simp only [hname, false_and, if_false, trim_trim, ne_eq, not_false_eq_true, if_true]

theorem backslash_not_mem_normalizeConfigDir (path : Text) : '\\' ∉ normalizeConfigDir path := by
  rw [normalizeConfigDir]
  split
  · decide
  · obtain ⟨ups, names, -, hclean, hback, -⟩ := cleanPosixPath_tidy (trim path)
    rw [hclean]
    exact backslash_not_mem_printPath hback

/-! ## Labels -/

theorem mem_sanitizeChars {text : Text} {c : Char} {lastDash : Bool} (h : c ∈ sanitizeChars lastDash text) :
    c.isAlphanum = true ∨ c = '.' ∨ c = '_' ∨ c = '-' := by
  induction text generalizing lastDash with
  | nil => cases h
  | cons d text ih =>
    rw [sanitizeChars] at h
    split at h
    · rename_i hallowed
      rcases List.mem_cons.1 h with rfl | h
      · simpa [or_assoc] using hallowed
      · exact ih h
    · split at h
      · exact ih h
      · rcases List.mem_cons.1 h with rfl | h
        · exact .inr (.inr (.inr rfl))
        · exact ih h

/-- A sanitised name is a component of a path. -/
theorem sanitizeMachineProfileName_part (name : Text) :
    sanitizeMachineProfileName name ≠ [] ∧ '/' ∉ sanitizeMachineProfileName name ∧ '\\' ∉ sanitizeMachineProfileName name := by
  have hmem : ∀ c ∈ sanitizeMachineProfileName name, c ≠ '/' ∧ c ≠ '\\' := by
    intro c hc
    rw [sanitizeMachineProfileName, firstNonEmpty] at hc
    split at hc
    · have hmachine : ('/' ∉ "machine".toList) ∧ '\\' ∉ "machine".toList := by decide
      constructor <;> rintro rfl
      exacts [hmachine.1 hc, hmachine.2 hc]
    · have hallowed := mem_sanitizeChars (mem_of_mem_trimMatches hc)
      constructor <;> rintro rfl <;> revert hallowed <;> decide
  refine ⟨?_, fun hslash => (hmem _ hslash).1 rfl, fun hback => (hmem _ hback).2 rfl⟩
  rw [sanitizeMachineProfileName, firstNonEmpty]
  split
  · decide
  · rename_i hne
    simpa using hne

theorem trimEnd_labelDirectory (label : Text) :
    trimEndMatches (· = '/') (labelDirectory label) = labelDirectory label := by
  obtain ⟨hne, hslash, -⟩ := sanitizeMachineProfileName_part label
  refine trimEndMatches_eq_self fun c hc => decide_eq_false ?_
  rintro rfl
  rw [labelDirectory, List.getLast?_append_of_ne_nil _ hne] at hc
  exact hslash (List.mem_of_getLast? hc)

/-- A directory in normal form has no backslash to be trimmed. -/
theorem trimEnd_normalizeConfigDir (path : Text) :
    trimEndMatches (fun c => c = '/' || c = '\\') (normalizeConfigDir path) =
      trimEndMatches (· = '/') (normalizeConfigDir path) := by
  rcases normalizeConfigDir_end path with hroot | ⟨c, hlast, hslash⟩
  · rw [hroot]
    decide
  · have hback : c ≠ '\\' := by
      rintro rfl
      exact backslash_not_mem_normalizeConfigDir path (List.mem_of_getLast? hlast)
    rw [trimEndMatches_eq_self, trimEndMatches_eq_self]
    · intro d hd
      rw [hlast] at hd
      cases hd
      exact decide_eq_false hslash
    · intro d hd
      rw [hlast] at hd
      cases hd
      simp [hslash, hback]

/-- **Directories**: each is at the place of its origin. -/
theorem PlacedNode.configDir_eq (placed : PlacedNode config fetch nodes) :
    placed.node.configDir = (placed.origin.place config).directory placed.node.nodeId := by
  obtain ⟨node, origin, -, hnames⟩ := placed
  cases origin with
  | panel =>
    obtain ⟨hnodes, hresolve⟩ := hnames
    simp only [AppConfig.resolveNodes, hnodes, if_true] at hresolve
    split at hresolve
    · cases hresolve
    · split at hresolve
      · cases hresolve
      · cases hresolve
        rfl
  | row entry =>
    obtain ⟨-, hresolve⟩ := hnames
    simp only [PanelConfig.resolveNode] at hresolve
    split at hresolve
    · cases hresolve
    · cases hresolve
      simp only [NodeOrigin.place, NodeOrigin.explicitDir, resolveNodeConfigDir]
      by_cases hset : trim entry.configDir = []
      · simp only [hset, ne_eq, not_true_eq_false, if_false, if_true, NodePlace.directory, Config.joinPosixPath]
        split
        · simp [trimStartMatches]
        · rfl
      · simp only [hset, ne_eq, not_false_eq_true, if_true, if_false, NodePlace.directory, Bool.false_eq_true]
  | profile entry =>
    obtain ⟨-, machine, hmachine, -, response, -, hmem⟩ := hnames
    obtain ⟨panelNode, -, rfl⟩ := List.mem_map.1 hmem
    obtain ⟨hlabel, hdir⟩ := resolveProfile_eq_ok hmachine
    simp only [NodeOrigin.place, NodeOrigin.explicitDir, machineProfileNodeConfigDir, machineProfileRoot, hdir, hlabel]
    by_cases hset : trim (normalizeOptionalConfigDir entry.configDir) = []
    · simp only [hset, if_true, NodePlace.directory, trimEnd_labelDirectory]
      rfl
    · have hdir' : normalizeOptionalConfigDir entry.configDir = normalizeConfigDir entry.configDir := by
        refine if_neg fun hblank => hset ?_
        rw [normalizeOptionalConfigDir, if_pos hblank]
        rfl
      rw [hdir'] at hset ⊢
      simp only [hset, if_false, NodePlace.directory, if_true, trimEnd_normalizeConfigDir]

/-! ## Every node has an origin -/

/-- Each node is one that the panel of an input names. -/
def NamedBy (inputs : List MachineProfileInput) (node : NodeConfig) : Prop :=
  ∃ input ∈ inputs, ∃ response, input.result = .ok response ∧
    node ∈ (resolveMachineProfileResult input.profile response).nodes

theorem nodes_fail {continueOnError : Bool} {profile : MachineProfileConfig} {error : Text} {state state' : ResolveState}
    (h : state.fail continueOnError profile error = .ok state') : state'.summary.nodes = state.summary.nodes := by
  rw [ResolveState.fail] at h
  split at h <;> cases h
  rfl

/-- **Step lemma**: an input adds nodes of its own. -/
theorem namedBy_resolveInput {inputs : List MachineProfileInput} {input : MachineProfileInput} {continueOnError : Bool}
    {state state' : ResolveState} (hinput : input ∈ inputs) (hstate : ∀ node ∈ state.summary.nodes, NamedBy inputs node)
    (h : state.resolveInput continueOnError input = .ok state') : ∀ node ∈ state'.summary.nodes, NamedBy inputs node := by
  rw [ResolveState.resolveInput] at h
  cases hresult : input.result with
  | error error =>
    rw [hresult] at h
    rw [nodes_fail h]
    exact hstate
  | ok response =>
    rw [hresult] at h
    have hstart : ∀ node ∈ (state.addAnswer (resolveMachineProfileResult input.profile response)).summary.nodes,
        NamedBy inputs node := hstate
    refine foldlM_invariant (fun st : ResolveState => ∀ node ∈ st.summary.nodes, NamedBy inputs node)
      (fun middle hmiddle added hadded last hlast => ?_) hstart h
    simp only [ResolveState.addNode] at hlast
    split at hlast
    · rw [nodes_fail hlast]
      exact hmiddle
    · cases hlast
      intro other hother
      rcases List.mem_append.1 hother with hold | hnew
      · exact hmiddle other hold
      · rw [List.mem_singleton.1 hnew]
        exact ⟨input, hinput, response, hresult, hadded⟩

theorem namedBy_summary {inputs : List MachineProfileInput} {continueOnError : Bool}
    {summary : MachineResolveSummary} (h : resolveMachineProfiles inputs continueOnError = .ok summary) :
    ∀ node ∈ summary.nodes, NamedBy inputs node := by
  rw [resolveMachineProfiles, bind_eq_ok] at h
  obtain ⟨state, hstate, hfinish⟩ := h
  obtain ⟨proxyOnly, rfl⟩ := ResolveState.finish_eq_ok hfinish
  exact foldlM_invariant (fun st : ResolveState => ∀ node ∈ st.summary.nodes, NamedBy inputs node)
    (fun st hst input hinput st' hst' => namedBy_resolveInput hinput hst hst')
    (fun node hmem => absurd hmem List.not_mem_nil) hstate

theorem resolveRuntime_eq_ok {resolved : Config.ResolvedConfig} (h : config.resolveRuntime = .ok resolved) :
    config.machine.profiles.mapM config.panel.resolveProfile = .ok resolved.machine.profiles ∧
      config.resolveNodes (normalizeConfigDir config.kernel.configDir) = .ok resolved.nodes := by
  simp only [AppConfig.resolveRuntime, bind_eq_ok] at h
  obtain ⟨profiles, hprofiles, nodes, hnodes, h⟩ := h
  cases h
  exact ⟨hprofiles, hnodes⟩

/-- The nodes of the configuration itself. -/
theorem exists_origin_of_resolveNodes (h : config.resolveNodes (normalizeConfigDir config.kernel.configDir) = .ok nodes)
    {node : NodeConfig} (hnode : node ∈ nodes) : ∃ origin : NodeOrigin, origin.Names config fetch node := by
  by_cases hrows : config.nodes = []
  · refine ⟨.panel, hrows, ?_⟩
    simp only [AppConfig.resolveNodes, hrows, if_true] at h ⊢
    split at h
    · cases h
      cases hnode
    · rename_i hprofiles
      rw [if_neg hprofiles]
      split at h
      · cases h
      · rename_i hpanel
        cases h
        rw [if_neg hpanel, List.mem_singleton.1 hnode]
  · rw [AppConfig.resolveNodes, if_neg hrows] at h
    obtain ⟨entry, hentry, hresolve⟩ := exists_of_forall₂ (forall₂_of_mapM_ok h) hnode
    exact ⟨.row entry, hentry, hresolve⟩

/-- **Origins**: every node of the resolved configuration has one. -/
theorem exists_origin {resolved : Config.ResolvedConfig}
    (h : config.resolveRuntimeWithMachineProfiles fetch = .ok resolved) {node : NodeConfig} (hnode : node ∈ resolved.nodes) :
    ∃ origin : NodeOrigin, origin.Names config fetch node := by
  simp only [AppConfig.resolveRuntimeWithMachineProfiles, bind_eq_ok] at h
  obtain ⟨base, hbase, h⟩ := h
  obtain ⟨hprofiles, hnodes⟩ := resolveRuntime_eq_ok hbase
  split at h
  · cases h
    exact exists_origin_of_resolveNodes hnodes hnode
  · rw [bind_eq_ok] at h
    obtain ⟨summary, hsummary, h⟩ := h
    cases h
    rcases List.mem_append.1 hnode with hown | hpanel
    · exact exists_origin_of_resolveNodes hnodes hown
    · obtain ⟨input, hinput, response, hresult, hmem⟩ := namedBy_summary hsummary node hpanel
      obtain ⟨i, hi, rfl⟩ := List.mem_mapIdx.1 hinput
      obtain ⟨entry, hentry, hresolve⟩ := exists_of_forall₂ (forall₂_of_mapM_ok hprofiles) (List.getElem_mem hi)
      exact ⟨.profile entry, hentry, base.machine.profiles[i], hresolve, i, response, hresult, hmem⟩

end

/-! ## Where nodes meet -/

/-- Two nodes with the id get one directory: entries of `nodes` that set none, as there are several; nodes of machine
profiles that set none and have one label once sanitised; and otherwise nodes whose directories, as the configuration has
them, have one normal form. -/
def Meet (config : AppConfig) (nodeId : Nat) (left right : NodeOrigin) : Prop :=
  match left, right, left.explicitDir, right.explicitDir with
  | .row _, .row _, none, none => True
  | .profile a, .profile b, none, none =>
    sanitizeMachineProfileName (machineProfileLabel a) = sanitizeMachineProfileName (machineProfileLabel b)
  | _, _, _, _ =>
    normalizeConfigDir ((left.place config).directory nodeId) = normalizeConfigDir ((right.place config).directory nodeId)

/-- Where the directories of a label's nodes are. -/
theorem locate_labelDirectory (label : Text) (nodeId : Nat) :
    locate [] (normalizeConfigDir (labelDirectory label ++ "/node-" ++ decimal nodeId)) =
      enter ["etc", "kelinode"] (sanitizeMachineProfileName label) ++ [("node-" : Text) ++ decimal nodeId] := by
  obtain ⟨hne, hslash, hback⟩ := sanitizeMachineProfileName_part label
  have htrim : trim (labelDirectory label ++ "/node-" ++ decimal nodeId) =
      labelDirectory label ++ "/node-" ++ decimal nodeId := by
    refine trim_eq_self (fun c hc => ?_) fun c hc => ?_
    · cases hc
      decide
    · rw [List.getLast?_append_of_ne_nil _ (decimal_ne_nil nodeId)] at hc
      exact (isDigit_plain (isDigit_of_mem_decimal (List.mem_of_getLast? hc))).2
  have hforward : forwardSlashes (labelDirectory label ++ "/node-" ++ decimal nodeId) =
      labelDirectory label ++ "/node-" ++ decimal nodeId := by
    apply forwardSlashes_eq_self
    rw [labelDirectory]
    simp only [List.mem_append, not_or]
    exact ⟨⟨⟨⟨by decide, by decide⟩, hback⟩, by decide⟩, not_mem_decimal (by decide) nodeId⟩
  have hnonempty : labelDirectory label ++ ("/node-" : Text) ++ decimal nodeId ≠ [] :=
    List.append_ne_nil_of_right_ne_nil _ (decimal_ne_nil nodeId)
  have hroot : labelDirectory label ≠ [] := List.append_ne_nil_of_right_ne_nil _ hne
  obtain ⟨-, -, -, -, -, hlocate⟩ := cleanPosixPath_tidy (labelDirectory label ++ "/node-" ++ decimal nodeId)
  have hdefault : trimEndMatches (· = '/') defaultConfigDir = defaultConfigDir := by decide
  calc locate [] (normalizeConfigDir (labelDirectory label ++ "/node-" ++ decimal nodeId))
      = locate [] (labelDirectory label ++ "/node-" ++ decimal nodeId) := by
        rw [normalizeConfigDir]
        simp only [htrim]
        rw [if_neg hnonempty, hlocate, hforward]
    _ = locate [] (trimEndMatches (· = '/') (labelDirectory label) ++ "/" ++ (("node-" : Text) ++ decimal nodeId)) := by
        rw [trimEnd_labelDirectory]
        simp
    _ = locate [] (labelDirectory label) ++ [("node-" : Text) ++ decimal nodeId] := by
        rw [locate_join hroot, splitOn_of_slashFree (isName_node nodeId).slashFree, enterAll_singleton,
          enter_name (isName_node nodeId)]
    _ = enter ["etc", "kelinode"] (sanitizeMachineProfileName label) ++ [("node-" : Text) ++ decimal nodeId] := by
        have hlabel : locate [] (labelDirectory label) =
            enterAll (locate [] defaultConfigDir) (splitOn '/' (sanitizeMachineProfileName label)) := by
          rw [← locate_join (by decide), hdefault]
          rfl
        rw [hlabel, splitOn_of_slashFree hslash, enterAll_singleton]
        rfl

theorem enter_cases (dir : List Text) {part : Text} (h : part ≠ []) : (part = "." ∧ enter dir part = dir) ∨
    (part = ".." ∧ enter dir part = dir.dropLast) ∨ enter dir part = dir ++ [part] := by
  by_cases hdot : part = "."
  · exact .inl ⟨hdot, by rw [hdot, enter_dot]⟩
  · by_cases hup : part = ".."
    · exact .inr (.inl ⟨hup, by rw [hup, enter_up]⟩)
    · exact .inr (.inr (by rw [enter, if_neg (not_or.2 ⟨h, hdot⟩), if_neg hup]))

/-- Different components lead to different directories. -/
theorem enter_inj {dir : List Text} {first second : Text} (hdir : dir ≠ []) (hfirst : first ≠ []) (hsecond : second ≠ [])
    (h : enter dir first = enter dir second) : first = second := by
  have hpos := List.length_pos_iff.2 hdir
  have hlen := congrArg List.length h
  rcases enter_cases dir hfirst with ⟨hone, heq⟩ | ⟨hone, heq⟩ | heq <;>
    rcases enter_cases dir hsecond with ⟨htwo, heq'⟩ | ⟨htwo, heq'⟩ | heq' <;>
    rw [heq, heq'] at hlen <;> simp only [List.length_dropLast, List.length_append, List.length_singleton] at hlen
  case inr.inr.inr.inr =>
    rw [heq, heq'] at h
    exact List.singleton_injective (List.append_cancel_left h)
  all_goals first | omega | rw [hone, htwo]

/-- Nodes with one id share the directory of their labels exactly when these are one name. -/
theorem labelDirectory_inj {first second : Text} {nodeId : Nat} :
    normalizeConfigDir (labelDirectory first ++ "/node-" ++ decimal nodeId) =
        normalizeConfigDir (labelDirectory second ++ "/node-" ++ decimal nodeId) ↔
      sanitizeMachineProfileName first = sanitizeMachineProfileName second := by
  constructor
  · intro hdir
    have hlocate := congrArg (locate []) hdir
    rw [locate_labelDirectory, locate_labelDirectory] at hlocate
    exact enter_inj (by decide) (sanitizeMachineProfileName_part _).1 (sanitizeMachineProfileName_part _).1
      (List.append_cancel_right hlocate)
  · intro hlabel
    rw [labelDirectory, labelDirectory, hlabel]

section

variable {config : AppConfig} {fetch : Nat → MachineProfileConfig → Except Text MachineNodesResponse}
  {nodes : List NodeConfig} {left right : PlacedNode config fetch nodes}

/-- **Meeting** is having one directory in normal form. -/
theorem meet_iff (hid : left.node.nodeId = right.node.nodeId) :
    Meet config left.node.nodeId left.origin right.origin ↔
      normalizeConfigDir left.node.configDir = normalizeConfigDir right.node.configDir := by
  rw [left.configDir_eq, right.configDir_eq, ← hid]
  generalize left.origin = first
  generalize right.origin = second
  cases first with
  | panel => rfl
  | row a =>
    cases second with
    | panel => rfl
    | profile b => rfl
    | row b =>
      cases ha : NodeOrigin.explicitDir (.row a) with
      | some dir => simp only [Meet, ha]
      | none =>
        cases hb : NodeOrigin.explicitDir (.row b) with
        | some dir => simp only [Meet, ha, hb]
        | none => simp only [Meet, NodeOrigin.place, ha, hb]
  | profile a =>
    cases second with
    | panel => rfl
    | row b => rfl
    | profile b =>
      cases ha : NodeOrigin.explicitDir (.profile a) with
      | some dir => simp only [Meet, ha]
      | none =>
        cases hb : NodeOrigin.explicitDir (.profile b) with
        | some dir => simp only [Meet, ha, hb]
        | none =>
          simp only [Meet, NodeOrigin.place, ha, hb, NodePlace.directory, if_true, trimEnd_labelDirectory]
          exact labelDirectory_inj.symm

end

/-! ## Certificates -/

section

variable {config : AppConfig} {fetch : Nat → MachineProfileConfig → Except Text MachineNodesResponse}
  {nodes : List NodeConfig} (common : NodeConfig → PanelCommon) (left right : PlacedNode config fetch nodes)

def OtherPanel : Prop := trimTrailingSlashes left.node.url ≠ trimTrailingSlashes right.node.url

/-- The configuration sets both directories, to the same one. -/
def SameExplicitDirectory : Prop :=
  ∃ dir, left.origin.explicitDir = some dir ∧ right.origin.explicitDir = some dir

/-- Two nodes with default paths, which nobody asked to share a directory. -/
structure Distinct : Prop where
  other : OtherPanel left right ∨ left.node.nodeId ≠ right.node.nodeId
  leftFiles : (common left.node).NoFiles
  rightFiles : (common right.node).NoFiles
  notShared : ¬SameExplicitDirectory left right

/-- What the panel says of a node, read at its directory. -/
def infoOf (node : NodeConfig) : Except Text NodeInfo :=
  NodeInfo.fromCommonWithConfigDir node.url node.nodeId node.configDir (common node)

variable (config fetch nodes)

/-- Distinct nodes have distinct certificates and keys. -/
def CertificatesApart : Prop :=
  ∀ left right : PlacedNode config fetch nodes, Distinct common left right →
    ∀ leftInfo rightInfo leftCert rightCert, infoOf common left.node = .ok leftInfo →
      infoOf common right.node = .ok rightInfo → leftInfo.common.certInfo = some leftCert →
      rightInfo.common.certInfo = some rightCert →
      leftCert.certFile ≠ rightCert.certFile ∧ leftCert.keyFile ≠ rightCert.keyFile

/-- Two such nodes that only their directories can tell apart: one id and one protocol, on two panels. -/
structure AtRisk (left right : PlacedNode config fetch nodes) : Prop where
  other : OtherPanel left right
  id : left.node.nodeId = right.node.nodeId
  protocol : ∃ protocol, Protocol.parse (common left.node).protocol = some protocol ∧
    Protocol.parse (common right.node).protocol = some protocol
  leftFiles : (common left.node).NoFiles
  rightFiles : (common right.node).NoFiles
  notShared : ¬SameExplicitDirectory left right

/-- No such nodes meet in a directory. -/
def DirectoriesApart : Prop :=
  ∀ left right : PlacedNode config fetch nodes, AtRisk config fetch nodes common left right →
    ¬Meet config left.node.nodeId left.origin right.origin

variable {config fetch nodes}

theorem directoriesApart_of_certificatesApart (h : CertificatesApart config fetch nodes common) :
    DirectoriesApart config fetch nodes common := by
  intro left right hrisk hmeet
  obtain ⟨protocol, hleft, hright⟩ := hrisk.protocol
  rw [meet_iff hrisk.id] at hmeet
  have hdistinct : Distinct common left right :=
    ⟨.inl hrisk.other, hrisk.leftFiles, hrisk.rightFiles, hrisk.notShared⟩
  obtain ⟨leftInfo, hleftInfo, hleftCert⟩ := @fromCommon_of_parse (common left.node) left.node.url left.node.configDir
    left.node.nodeId protocol hleft
  obtain ⟨rightInfo, hrightInfo, hrightCert⟩ := @fromCommon_of_parse (common right.node) right.node.url
    right.node.configDir right.node.nodeId protocol hright
  apply (h left right hdistinct leftInfo rightInfo _ _ hleftInfo hrightInfo hleftCert hrightCert).1
  rw [certFile_of_noFiles hrisk.leftFiles, certFile_of_noFiles hrisk.rightFiles, hrisk.id]
  exact defaultCertPath_congr hmeet protocol _ _

theorem certificatesApart_of_directoriesApart (h : DirectoriesApart config fetch nodes common) :
    CertificatesApart config fetch nodes common := by
  intro left right hdistinct leftInfo rightInfo leftCert rightCert hleftInfo hrightInfo hleftCert hrightCert
  obtain ⟨leftProtocol, hleft, hleftBuilt⟩ := fromCommon_eq_ok hleftInfo
  obtain ⟨rightProtocol, hright, hrightBuilt⟩ := fromCommon_eq_ok hrightInfo
  rw [hleftBuilt] at hleftCert
  rw [hrightBuilt] at hrightCert
  cases hleftCert
  cases hrightCert
  -- Whatever the extension, one path is one directory, one protocol and one id.
  have hpath : ∀ extension : Text, '/' ∉ extension →
      defaultCertPath left.node.configDir leftProtocol left.node.nodeId extension ≠
        defaultCertPath right.node.configDir rightProtocol right.node.nodeId extension := by
    intro extension hextension hpath
    obtain ⟨hdirectory, rfl, hid⟩ := defaultCertPath_inj hextension hpath
    have hother : OtherPanel left right := hdistinct.other.resolve_right fun hne => hne hid
    exact h left right
      ⟨hother, hid, ⟨leftProtocol, hleft, hright⟩, hdistinct.leftFiles, hdistinct.rightFiles, hdistinct.notShared⟩
      ((meet_iff hid).2 hdirectory)
  rw [certFile_of_noFiles hdistinct.leftFiles, certFile_of_noFiles hdistinct.rightFiles,
    keyFile_of_noFiles hdistinct.leftFiles, keyFile_of_noFiles hdistinct.rightFiles]
  exact ⟨hpath "cer" (by decide), hpath "key" (by decide)⟩

end

/-- **Certificates**: the nodes have certificates of their own exactly when no two of two panels, with one id and one
protocol, meet in a directory. -/
theorem certificates_apart_iff {config : AppConfig}
    {fetch : Nat → MachineProfileConfig → Except Text MachineNodesResponse} {resolved : Config.ResolvedConfig}
    (h : config.resolveRuntimeWithMachineProfiles fetch = .ok resolved) (common : NodeConfig → PanelCommon) :
    (∀ node ∈ resolved.nodes, ∃ origin : NodeOrigin, origin.Names config fetch node) ∧
      (CertificatesApart config fetch resolved.nodes common ↔ DirectoriesApart config fetch resolved.nodes common) :=
  ⟨fun _ => exists_origin h, directoriesApart_of_certificatesApart common, certificatesApart_of_directoriesApart common⟩

/-! ## Two panels, one id -/

def sharedNode (url : Text) : NodeConfig where
  url := url
  token := "token"
  nodeId := 1

def sharedUrls : List Text := ["https://a.example", "https://b.example"]

/-- Two panels that both call their node 1, and no directories. -/
def sharedConfig : AppConfig where
  nodes := sharedUrls.map sharedNode

/-- As resolved. -/
def sharedPlaced (url : Text) : NodeConfig :=
  { sharedNode url with configDir := resolveNodeConfigDir (normalizeConfigDir []) [] 1 true }

def noAnswer (_ : Nat) (_ : MachineProfileConfig) : Except Text MachineNodesResponse := .error "unreachable"

theorem sharedConfig_resolves : ∃ resolved, sharedConfig.resolveRuntimeWithMachineProfiles noAnswer = .ok resolved ∧
    resolved.nodes = sharedUrls.map sharedPlaced := ⟨_, rfl, rfl⟩

theorem sharedConfig_names : ∀ url ∈ sharedUrls,
    (NodeOrigin.row (sharedNode url)).Names sharedConfig noAnswer (sharedPlaced url) := by
  intro url hurl
  refine ⟨List.mem_map_of_mem hurl, ?_⟩
  rw [sharedUrls, List.mem_pair] at hurl
  rcases hurl with rfl | rfl <;> rfl

def sharedAt (url : Text) (hurl : url ∈ sharedUrls) :
    PlacedNode sharedConfig noAnswer (sharedUrls.map sharedPlaced) where
  node := sharedPlaced url
  origin := .row (sharedNode url)
  mem := List.mem_map_of_mem hurl
  names := sharedConfig_names url hurl

theorem sharedAt_nodeId (url : Text) (hurl : url ∈ sharedUrls) : (sharedAt url hurl).node.nodeId = 1 := rfl

/-- Both nodes are given the same pair of files. -/
theorem certificate_shared_by_panels : ∃ resolved,
    sharedConfig.resolveRuntimeWithMachineProfiles noAnswer = .ok resolved ∧
      ¬CertificatesApart sharedConfig noAnswer resolved.nodes fun _ => { protocol := "vless" } := by
  obtain ⟨resolved, hresolved, hnodes⟩ := sharedConfig_resolves
  refine ⟨resolved, hresolved, fun h => ?_⟩
  rw [hnodes] at h
  have ha : ("https://a.example" : Text) ∈ sharedUrls := List.mem_cons_self
  have hb : ("https://b.example" : Text) ∈ sharedUrls := List.mem_cons_of_mem _ List.mem_cons_self
  have hurls : trimTrailingSlashes "https://a.example" ≠ trimTrailingSlashes "https://b.example" := by decide
  have hvless : Protocol.parse "vless" = some .vless := by decide
  have hunset : ∀ url hurl, (sharedAt url hurl).origin.explicitDir = none := fun _ _ => rfl
  have hrisk : AtRisk sharedConfig noAnswer (sharedUrls.map sharedPlaced) (fun _ => { protocol := "vless" })
      (sharedAt _ ha) (sharedAt _ hb) := by
    constructor
    case other => exact hurls
    case id => rw [sharedAt_nodeId, sharedAt_nodeId]
    case protocol => exact ⟨.vless, hvless, hvless⟩
    case leftFiles => exact ⟨rfl, rfl⟩
    case rightFiles => exact ⟨rfl, rfl⟩
    case notShared =>
      rintro ⟨dir, hdir, -⟩
      rw [hunset] at hdir
      cases hdir
  exact directoriesApart_of_certificatesApart _ h _ _ hrisk trivial

/-- The second node has a directory of its own. -/
def apartConfig : AppConfig where
  nodes := [sharedNode "https://a.example", { sharedNode "https://b.example" with configDir := "/srv/b" }]

theorem certificates_apart_of_two : ∃ resolved, apartConfig.resolveRuntimeWithMachineProfiles noAnswer = .ok resolved ∧
    CertificatesApart apartConfig noAnswer resolved.nodes fun _ => { protocol := "vless" } := by
  have hresolves : ∃ resolved, apartConfig.resolveRuntimeWithMachineProfiles noAnswer = .ok resolved ∧
      resolved.nodes = [sharedPlaced "https://a.example", { sharedNode "https://b.example" with configDir := "/srv/b" }] :=
    ⟨_, rfl, by decide +kernel⟩
  obtain ⟨resolved, hresolved, hnodes⟩ := hresolves
  refine ⟨resolved, hresolved, (certificates_apart_iff hresolved _).2.2 ?_⟩
  rw [hnodes]
  intro left right hrisk hmeet
  have hdir := (meet_iff hrisk.id).1 hmeet
  have hother := hrisk.other
  unfold OtherPanel at hother
  rcases List.mem_pair.1 left.mem with hleft | hleft <;> rcases List.mem_pair.1 right.mem with hright | hright <;>
    rw [hleft, hright] at hdir hother
  · exact hother rfl
  · exact absurd hdir (by decide +kernel)
  · exact absurd hdir (by decide +kernel)
  · exact hother rfl

end KeliNode
