import KeliNode.Lib.InTurn
import KeliNode.Machine.Directories

/-!
# Every named node is kept or reported (`machine.rs`)

The answers of the panels are read as one list of entries: a failed profile, or a node it names.  In turn, an entry
is kept, if it is a node and no entry before it has its key, or it is a failure (`verdict`).  A resolution that
continues on errors has exactly the kept ones for nodes and exactly the others for failures; one that does not ends
with the first failure, and without any it comes to the same (`resolve_verdicts`).
-/

namespace KeliNode

open Lib

/-! ## Entries and verdicts -/

abbrev MachineEntry : Type := MachineProfileConfig × Except Text NodeConfig

/-- The entries of a profile: its failure, or the nodes it names. -/
def MachineProfileInput.entries (input : MachineProfileInput) : List MachineEntry :=
  match input.result with
  | .error error => [(input.profile, .error error)]
  | .ok response => (resolveMachineProfileResult input.profile response).nodes.map fun node => (input.profile, .ok node)

def entries (inputs : List MachineProfileInput) : List MachineEntry := inputs.flatMap MachineProfileInput.entries

/-- The key of a node, of a failed profile none. -/
def entryKey (entry : MachineEntry) : Option Text := entry.2.toOption.map Machine.machineNodeKey

def machineFailure (profile : MachineProfileConfig) (error : Text) : MachineResolveFailure where
  profile := machineProfileLabel profile
  machineId := profile.machineId
  error

/-- What becomes of an entry, given the ones before it. -/
def verdict (earlier : List MachineEntry) (entry : MachineEntry) : NodeConfig ⊕ MachineResolveFailure :=
  match entry.2 with
  | .error error => .inr (machineFailure entry.1 error)
  | .ok node =>
    if (earlier.filterMap entryKey).contains (Machine.machineNodeKey node) then
      .inr (machineFailure entry.1 ("duplicate machine profile node: " ++ Machine.machineNodeKey node))
    else .inl node

def verdicts (inputs : List MachineProfileInput) : List (NodeConfig ⊕ MachineResolveFailure) :=
  inTurn verdict [] (entries inputs)

/-! ## The loops -/

/-- One entry of the two loops. -/
def ResolveState.addEntry (continueOnError : Bool) (state : ResolveState) (entry : MachineEntry) :
    Except Text ResolveState :=
  match entry.2 with
  | .error error => state.fail continueOnError entry.1 error
  | .ok node => state.addNode continueOnError entry.1 node

/-- What an answer changes besides the nodes. -/
def ResolveState.addInput (state : ResolveState) (input : MachineProfileInput) : ResolveState :=
  match input.result with
  | .error _ => state
  | .ok response => state.addAnswer (resolveMachineProfileResult input.profile response)

theorem resolveInput_eq (continueOnError : Bool) (state : ResolveState) (input : MachineProfileInput) :
    state.resolveInput continueOnError input =
      input.entries.foldlM (ResolveState.addEntry continueOnError) (state.addInput input) := by
  rw [ResolveState.resolveInput, MachineProfileInput.entries, ResolveState.addInput]
  cases input.result with
  | error error =>
    simp only [List.foldlM_cons, List.foldlM_nil, ResolveState.addEntry]
    exact (bind_pure _).symm
  | ok response =>
    simp only
    rw [List.foldlM_map]
    rfl

/-- The state after the entries, as far as they decide on it. -/
structure Decided (seen : List MachineEntry) (state : ResolveState) : Prop where
  nodes : state.summary.nodes = (inTurn verdict [] seen).filterMap Sum.getLeft?
  failures : state.summary.failures = (inTurn verdict [] seen).filterMap Sum.getRight?
  keys : ∀ key, key ∈ state.seenNodes ↔ key ∈ seen.filterMap entryKey

/-- How the loops stand after the entries: without an error, or, where they are not to continue, with that of the
first failure. -/
def Stands (continueOnError : Bool) (seen : List MachineEntry) : Except Text ResolveState → Prop
  | .ok state => Decided seen state ∧ (continueOnError = false → state.summary.failures = [])
  | .error error =>
    continueOnError = false ∧
      ∃ failure rest, (inTurn verdict [] seen).filterMap Sum.getRight? = failure :: rest ∧ failure.error = error

theorem Decided.addInput {seen : List MachineEntry} {state : ResolveState} (h : Decided seen state)
    (input : MachineProfileInput) : Decided seen (state.addInput input) := by
  rw [ResolveState.addInput]
  split <;> exact ⟨h.nodes, h.failures, h.keys⟩

theorem failures_addInput (state : ResolveState) (input : MachineProfileInput) :
    (state.addInput input).summary.failures = state.summary.failures := by
  rw [ResolveState.addInput]
  split <;> rfl

section

variable {continueOnError : Bool} {seen : List MachineEntry} {state : ResolveState}

/-- **Step lemma** for a failure. -/
theorem stands_fail {entry : MachineEntry} {error : Text} (h : Stands continueOnError seen (.ok state))
    (hverdict : verdict seen entry = .inr (machineFailure entry.1 error))
    (hkeys : ∀ key, key ∈ state.seenNodes ↔ key ∈ (seen ++ [entry]).filterMap entryKey) :
    Stands continueOnError (seen ++ [entry]) (state.fail continueOnError entry.1 error) := by
  obtain ⟨hdecided, hnone⟩ := h
  cases continueOnError with
  | true =>
    refine ⟨⟨?_, ?_, hkeys⟩, fun hfalse => by cases hfalse⟩
    · rw [inTurn_concat, hverdict, List.filterMap_append]
      exact hdecided.nodes.trans (List.append_nil _).symm
    · rw [inTurn_concat, hverdict, List.filterMap_append, ← hdecided.failures]
      rfl
  | false =>
    refine ⟨rfl, machineFailure entry.1 error, [], ?_, rfl⟩
    rw [inTurn_concat, hverdict, List.filterMap_append, ← hdecided.failures, hnone rfl]
    rfl

/-- **Step lemma**: one entry more. -/
theorem stands_addEntry (entry : MachineEntry) (h : Stands continueOnError seen (.ok state)) :
    Stands continueOnError (seen ++ [entry]) (state.addEntry continueOnError entry) := by
  obtain ⟨profile, result⟩ := entry
  obtain ⟨hdecided, hnone⟩ := h
  cases result with
  | error error =>
    refine stands_fail ⟨hdecided, hnone⟩ rfl fun key => ?_
    rw [List.filterMap_append]
    simp [entryKey, Except.toOption, hdecided.keys key]
  | ok node =>
    have hkeys := hdecided.keys (Machine.machineNodeKey node)
    have hkey : entryKey (profile, .ok node) = some (Machine.machineNodeKey node) := rfl
    simp only [ResolveState.addEntry, ResolveState.addNode]
    split
    · rename_i hold
      have hseen := hkeys.1 (List.contains_iff_mem.1 hold)
      refine stands_fail ⟨hdecided, hnone⟩ ?_ fun key => ?_
      · simp only [verdict]
        rw [if_pos (List.contains_iff_mem.2 hseen)]
      · rw [List.filterMap_append, List.filterMap_cons, hkey, hdecided.keys key]
        simp only [List.filterMap_nil, List.mem_append, List.mem_singleton]
        refine ⟨.inl, ?_⟩
        rintro (hmem | rfl)
        · exact hmem
        · exact hseen
    · rename_i hnew
      have hverdict : verdict seen (profile, .ok node) = .inl node := by
        simp only [verdict]
        rw [if_neg fun hseen => hnew (List.contains_iff_mem.2 (hkeys.2 (List.contains_iff_mem.1 hseen)))]
      refine ⟨⟨?_, ?_, fun key => ?_⟩, hnone⟩
      · rw [inTurn_concat, hverdict, List.filterMap_append, ← hdecided.nodes]
        rfl
      · rw [inTurn_concat, hverdict, List.filterMap_append, ← hdecided.failures]
        exact (List.append_nil _).symm
      · rw [List.filterMap_append, List.filterMap_cons, hkey]
        simp only [List.filterMap_nil, List.mem_cons, List.mem_append, List.not_mem_nil, or_false, hdecided.keys key]
        exact or_comm

theorem Stands.error_append {error : Text} (h : Stands continueOnError seen (.error error)) (more : List MachineEntry) :
    Stands continueOnError (seen ++ more) (.error error) := by
  obtain ⟨hstrict, failure, rest, hrights, herror⟩ := h
  refine ⟨hstrict, failure, rest ++ (inTurn verdict seen more).filterMap Sum.getRight?, ?_, herror⟩
  rw [inTurn_append, List.filterMap_append, hrights, List.nil_append]
  rfl

/-- **Run lemma** for the entries of one profile. -/
theorem stands_entries (more : List MachineEntry) (h : Stands continueOnError seen (.ok state)) :
    Stands continueOnError (seen ++ more) (more.foldlM (ResolveState.addEntry continueOnError) state) := by
  induction more generalizing seen state with
  | nil =>
    rw [List.append_nil]
    exact h
  | cons entry more ih =>
    have hstep := stands_addEntry entry h
    rw [List.append_cons, List.foldlM_cons]
    cases hentry : state.addEntry continueOnError entry with
    | error error =>
      rw [hentry] at hstep
      exact hstep.error_append more
    | ok middle =>
      rw [hentry] at hstep
      exact ih hstep

/-- **Run lemma** for all profiles. -/
theorem stands_inputs (inputs : List MachineProfileInput) (h : Stands continueOnError seen (.ok state)) :
    Stands continueOnError (seen ++ entries inputs) (inputs.foldlM (ResolveState.resolveInput continueOnError) state) := by
  induction inputs generalizing seen state with
  | nil =>
    rw [entries, List.flatMap_nil, List.append_nil]
    exact h
  | cons input inputs ih =>
    have hstart : Stands continueOnError seen (.ok (state.addInput input)) :=
      ⟨h.1.addInput input, by rw [failures_addInput]; exact h.2⟩
    have hstep := stands_entries input.entries hstart
    rw [← resolveInput_eq] at hstep
    rw [entries, List.flatMap_cons, ← List.append_assoc, List.foldlM_cons]
    cases hinput : state.resolveInput continueOnError input with
    | error error =>
      rw [hinput] at hstep
      exact hstep.error_append _
    | ok middle =>
      rw [hinput] at hstep
      exact ih hstep

end

theorem stands_resolve (inputs : List MachineProfileInput) (continueOnError : Bool) :
    Stands continueOnError (entries inputs) (inputs.foldlM (ResolveState.resolveInput continueOnError) {}) := by
  have hstart : Stands continueOnError [] (.ok {}) := ⟨⟨rfl, rfl, fun key => Iff.rfl⟩, fun _ => rfl⟩
  exact stands_inputs inputs hstart

/-! ## Strict and lenient resolution -/

section

variable {state state' : ResolveState}

theorem addEntry_lenient {entry : MachineEntry} (h : state.addEntry false entry = .ok state') :
    state.addEntry true entry = .ok state' := by
  obtain ⟨profile, result⟩ := entry
  cases result with
  | error error => cases h
  | ok node =>
    simp only [ResolveState.addEntry, ResolveState.addNode] at h ⊢
    split at h
    · cases h
    · rename_i hnew
      rw [if_neg hnew]
      exact h

theorem resolveInput_lenient {input : MachineProfileInput} (h : state.resolveInput false input = .ok state') :
    state.resolveInput true input = .ok state' := by
  rw [resolveInput_eq] at h ⊢
  exact foldlM_mono (fun _ _ _ => addEntry_lenient) h

end

/-! ## The kept nodes -/

def kept (inputs : List MachineProfileInput) : List NodeConfig := (verdicts inputs).filterMap Sum.getLeft?

def reported (inputs : List MachineProfileInput) : List MachineResolveFailure := (verdicts inputs).filterMap Sum.getRight?

/-- The kept nodes have the keys of all nodes, each of them once. -/
theorem kept_keys (seen : List MachineEntry) :
    (((inTurn verdict [] seen).filterMap Sum.getLeft?).map Machine.machineNodeKey).Nodup ∧
      ∀ key, key ∈ ((inTurn verdict [] seen).filterMap Sum.getLeft?).map Machine.machineNodeKey ↔
        key ∈ seen.filterMap entryKey := by
  induction seen using List.reverseRecOn with
  | nil => exact ⟨List.nodup_nil, fun key => Iff.rfl⟩
  | append_singleton seen entry ih =>
    obtain ⟨hnodup, hkeys⟩ := ih
    obtain ⟨profile, result⟩ := entry
    rw [inTurn_concat, List.filterMap_append, List.map_append, List.filterMap_append]
    cases result with
    | error error =>
      have hentry : [((profile, .error error) : MachineEntry)].filterMap entryKey = [] := rfl
      have hleft : [verdict seen (profile, .error error)].filterMap Sum.getLeft? = [] := rfl
      rw [hentry, hleft, List.map_nil, List.append_nil, List.append_nil]
      exact ⟨hnodup, hkeys⟩
    | ok node =>
      have hentry : [((profile, .ok node) : MachineEntry)].filterMap entryKey = [Machine.machineNodeKey node] := rfl
      rw [hentry]
      by_cases hold : Machine.machineNodeKey node ∈ seen.filterMap entryKey
      · have hleft : [verdict seen (profile, .ok node)].filterMap Sum.getLeft? = [] := by
          simp only [verdict, if_pos (List.contains_iff_mem.2 hold)]
          rfl
        rw [hleft, List.map_nil, List.append_nil]
        refine ⟨hnodup, fun key => ?_⟩
        rw [hkeys, List.mem_append, List.mem_singleton]
        refine ⟨.inl, ?_⟩
        rintro (hmem | rfl)
        · exact hmem
        · exact hold
      · have hleft : [verdict seen (profile, .ok node)].filterMap Sum.getLeft? = [node] := by
          simp only [verdict, if_neg fun hseen => hold (List.contains_iff_mem.1 hseen)]
          rfl
        rw [hleft, List.map_cons, List.map_nil]
        refine ⟨?_, fun key => ?_⟩
        · refine List.nodup_append.2 ⟨hnodup, List.nodup_singleton _, fun key hmem key' hmem' heq => ?_⟩
          rw [List.mem_singleton] at hmem'
          rw [heq, hmem', hkeys] at hmem
          exact hold hmem
        · rw [List.mem_append, List.mem_append, hkeys]

/-! ## The result -/

section

variable {inputs : List MachineProfileInput} {continueOnError : Bool} {summary : MachineResolveSummary}

theorem resolve_eq_ok (h : resolveMachineProfiles inputs continueOnError = .ok summary) :
    summary.nodes = kept inputs ∧ summary.failures = reported inputs := by
  have hstands := stands_resolve inputs continueOnError
  rw [resolveMachineProfiles, bind_eq_ok] at h
  obtain ⟨state, hstate, hfinish⟩ := h
  rw [hstate] at hstands
  obtain ⟨proxyOnly, rfl⟩ := ResolveState.finish_eq_ok hfinish
  exact ⟨hstands.1.nodes, hstands.1.failures⟩

theorem strict_of_reported {failure : MachineResolveFailure} {rest : List MachineResolveFailure}
    (h : reported inputs = failure :: rest) : resolveMachineProfiles inputs false = .error failure.error := by
  have hstands := stands_resolve inputs false
  rw [resolveMachineProfiles]
  cases hrun : inputs.foldlM (ResolveState.resolveInput false) {} with
  | ok state =>
    rw [hrun] at hstands
    have hnone := hstands.2 rfl
    rw [hstands.1.failures] at hnone
    rw [reported, verdicts, hnone] at h
    cases h
  | error error =>
    rw [hrun] at hstands
    obtain ⟨-, first, others, hfirst, rfl⟩ := hstands
    rw [reported, verdicts, hfirst] at h
    cases h
    rfl

theorem strict_eq_lenient (h : reported inputs = []) :
    resolveMachineProfiles inputs false = resolveMachineProfiles inputs true := by
  have hstands := stands_resolve inputs false
  rw [resolveMachineProfiles, resolveMachineProfiles]
  cases hrun : inputs.foldlM (ResolveState.resolveInput false) {} with
  | ok state => rw [foldlM_mono (fun _ _ _ => resolveInput_lenient) hrun]
  | error error =>
    rw [hrun] at hstands
    obtain ⟨-, first, others, hfirst, -⟩ := hstands
    rw [reported, verdicts, hfirst] at h
    cases h

end

/-! ## When a lenient resolution succeeds -/

def MachineProfileInput.answered (input : MachineProfileInput) : Prop := ∃ response, input.result = .ok response

theorem successes_addEntry {continueOnError : Bool} {state state' : ResolveState} {entry : MachineEntry}
    (h : state.addEntry continueOnError entry = .ok state') : state'.successes = state.successes := by
  have hfail : ∀ {profile error}, state.fail continueOnError profile error = .ok state' →
      state'.successes = state.successes := by
    intro profile error hfail
    rw [ResolveState.fail] at hfail
    split at hfail <;> cases hfail
    rfl
  obtain ⟨profile, result⟩ := entry
  cases result with
  | error error => exact hfail h
  | ok node =>
    simp only [ResolveState.addEntry, ResolveState.addNode] at h
    split at h
    · exact hfail h
    · cases h
      rfl

theorem successes_resolveInput {continueOnError : Bool} {state state' : ResolveState} {input : MachineProfileInput}
    (h : state.resolveInput continueOnError input = .ok state') :
    0 < state'.successes ↔ 0 < state.successes ∨ input.answered := by
  rw [resolveInput_eq] at h
  have hentries := foldlM_invariant (fun st : ResolveState => st.successes = (state.addInput input).successes)
    (fun st hst entry _ st' hst' => (successes_addEntry hst').trans hst) rfl h
  rw [hentries, ResolveState.addInput, MachineProfileInput.answered]
  cases input.result with
  | error error => simp
  | ok response => simp [ResolveState.addAnswer]

theorem successes_resolveInputs {continueOnError : Bool} {inputs : List MachineProfileInput} {state state' : ResolveState}
    (h : inputs.foldlM (ResolveState.resolveInput continueOnError) state = .ok state') :
    0 < state'.successes ↔ 0 < state.successes ∨ ∃ input ∈ inputs, input.answered := by
  induction inputs generalizing state with
  | nil =>
    cases h
    simp
  | cons input inputs ih =>
    rw [List.foldlM_cons, bind_eq_ok] at h
    obtain ⟨middle, hmiddle, h⟩ := h
    rw [ih h, successes_resolveInput hmiddle, List.exists_mem_cons_iff, or_assoc]

theorem finish_ok {state : ResolveState} (h : 0 < state.successes) : ∃ summary, state.finish = .ok summary := by
  rw [ResolveState.finish, if_pos h]
  split
  · split <;> exact ⟨_, rfl⟩
  · exact ⟨_, rfl⟩

theorem lenient_ok_iff {inputs : List MachineProfileInput} :
    (∃ summary, resolveMachineProfiles inputs true = .ok summary) ↔ ∃ input ∈ inputs, input.answered := by
  have hstands := stands_resolve inputs true
  constructor
  · rintro ⟨summary, h⟩
    by_contra hnone
    have hnodes : summary.nodes = [] := by
      rw [List.eq_nil_iff_forall_not_mem]
      intro node hnode
      obtain ⟨input, hinput, response, hresult, -⟩ := namedBy_summary h node hnode
      exact hnone ⟨input, hinput, response, hresult⟩
    rw [resolveMachineProfiles, bind_eq_ok] at h
    obtain ⟨state, hstate, hfinish⟩ := h
    have hzero : ¬ 0 < state.successes := fun hpos =>
      hnone (((successes_resolveInputs hstate).1 hpos).resolve_left (Nat.lt_irrefl 0))
    obtain ⟨proxyOnly, rfl⟩ := ResolveState.finish_eq_ok hfinish
    rw [ResolveState.finish, hnodes, decide_eq_false hzero, if_neg hzero] at hfinish
    simp only [List.isEmpty_nil, if_true, Bool.false_and, Bool.false_eq_true, if_false] at hfinish
    split at hfinish <;> cases hfinish
  · intro hanswered
    cases hrun : inputs.foldlM (ResolveState.resolveInput true) {} with
    | error error =>
      rw [hrun] at hstands
      obtain ⟨hstrict, -⟩ := hstands
      cases hstrict
    | ok state =>
      obtain ⟨summary, hsummary⟩ := finish_ok ((successes_resolveInputs hrun).2 (.inr hanswered))
      refine ⟨summary, ?_⟩
      rw [resolveMachineProfiles, bind_eq_ok]
      exact ⟨state, hrun, hsummary⟩

/-- **Kept or reported**: of all the entries in turn, a resolution has the kept nodes and reports the others, with the
key of every node once.  It succeeds, when it is to continue on errors, if any profile was answered; otherwise it ends
with the first failure, or is the same when there is none. -/
theorem resolve_verdicts (inputs : List MachineProfileInput) :
    (∀ continueOnError summary, resolveMachineProfiles inputs continueOnError = .ok summary →
        summary.nodes = kept inputs ∧ summary.failures = reported inputs) ∧
      ((kept inputs).map Machine.machineNodeKey).Nodup ∧
      (∀ key, key ∈ (kept inputs).map Machine.machineNodeKey ↔ key ∈ (entries inputs).filterMap entryKey) ∧
      (∀ failure rest, reported inputs = failure :: rest →
        resolveMachineProfiles inputs false = .error failure.error) ∧
      (reported inputs = [] → resolveMachineProfiles inputs false = resolveMachineProfiles inputs true) ∧
      ((∃ summary, resolveMachineProfiles inputs true = .ok summary) ↔ ∃ input ∈ inputs, input.answered) :=
  ⟨fun _ _ => resolve_eq_ok, (kept_keys _).1, (kept_keys _).2, fun _ _ => strict_of_reported, strict_eq_lenient,
    lenient_ok_iff⟩

end KeliNode
