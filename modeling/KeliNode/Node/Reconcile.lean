import KeliNode.Node.Manager
import KeliNode.Lib.Except
import KeliNode.Lib.KeyedFold

/-!
# What a reconcile does (`node.rs`)

A reconcile asks the loader once for the first config under each valid key (`firstConfigs`, `ask`) and puts in each
place the node that was loaded, else the runtime that was there (`expectedRuntimes`).  All of this rests on one
invariant of the manager: the keys of its runtimes are valid and distinct (`KeysOk`), which is what
`current_slots` checks (`currentSlots_eq_ok_iff`).  A reconcile keeps it.  A build does not bring it about: it asks
no config for its key, so a manager is repeatable exactly if the configs it was built from happen to have such keys
(`reconcile_repeatable_iff`).
-/

namespace KeliNode

open Lib Std

section

variable {Rest σ : Type}

/-! ## The invariant -/

def NodeRuntime.key (runtime : NodeRuntime Rest) : Text := machineNodeKey runtime.config

/-- Keys that are valid and distinct. -/
structure KeysOk (keys : List Text) : Prop where
  valid : ∀ key ∈ keys, key ≠ []
  distinct : keys.Nodup

theorem KeysOk.sublist {keys more : List Text} (h : KeysOk more) (hsub : keys.Sublist more) : KeysOk keys :=
  ⟨fun key hkey => h.valid key (hsub.subset hkey), hsub.nodup h.distinct⟩

section

variable {printConfig : NodeConfig → Text}

theorem addSlot_eq_ok_iff {current next : BTreeMap Text (NodeRuntime Rest)} {runtime : NodeRuntime Rest} :
    addSlot printConfig current runtime = .ok next ↔
      runtime.key ≠ [] ∧ runtime.key ∉ current ∧ next = current.insert runtime.key runtime := by
  unfold addSlot NodeRuntime.key
  simp only
  split
  · rename_i hkey
    simp [hkey]
  · rename_i hkey
    split
    · rename_i hcontains
      simp [ExtTreeMap.mem_iff_contains, hcontains]
    · rename_i hcontains
      rw [← ExtTreeMap.mem_iff_contains] at hcontains
      rw [Except.ok.injEq]
      exact ⟨fun h => ⟨hkey, hcontains, h.symm⟩, fun h => h.2.2.symm⟩

/-- The runtimes of a list, entered one by one into a map. -/
def slotsOf (runtimes : List (NodeRuntime Rest)) (current : BTreeMap Text (NodeRuntime Rest)) :
    BTreeMap Text (NodeRuntime Rest) :=
  runtimes.foldl (fun current runtime => current.insert runtime.key runtime) current

theorem foldlM_addSlot_eq_ok_iff {runtimes : List (NodeRuntime Rest)} {current next : BTreeMap Text (NodeRuntime Rest)} :
    runtimes.foldlM (addSlot printConfig) current = .ok next ↔
      KeysOk (runtimes.map NodeRuntime.key) ∧ (∀ runtime ∈ runtimes, runtime.key ∉ current) ∧
        next = slotsOf runtimes current := by
  induction runtimes generalizing current with
  | nil =>
    simp only [List.foldlM_nil, List.map_nil, List.not_mem_nil, slotsOf, List.foldl_nil]
    constructor
    · intro h
      exact ⟨⟨by simp, List.nodup_nil⟩, by simp, (Except.ok.inj h).symm⟩
    · rintro ⟨_, _, rfl⟩
      rfl
  | cons runtime runtimes ih =>
    rw [List.foldlM_cons, bind_eq_ok]
    constructor
    · rintro ⟨middle, hmiddle, hrest⟩
      obtain ⟨hkey, hfresh, rfl⟩ := addSlot_eq_ok_iff.1 hmiddle
      obtain ⟨hkeys, hothers, rfl⟩ := ih.1 hrest
      have hapart : ∀ other ∈ runtimes, other.key ≠ runtime.key ∧ other.key ∉ current := by
        intro other hother
        have := hothers other hother
        rw [ExtTreeMap.mem_insert, not_or] at this
        exact ⟨fun heq => this.1 (by simp [heq]), this.2⟩
      refine ⟨⟨?_, ?_⟩, ?_, rfl⟩
      · rw [List.map_cons, List.forall_mem_cons]
        exact ⟨hkey, hkeys.valid⟩
      · rw [List.map_cons, List.nodup_cons]
        refine ⟨fun hmem => ?_, hkeys.distinct⟩
        obtain ⟨other, hother, heq⟩ := List.mem_map.1 hmem
        exact (hapart other hother).1 heq
      · rw [List.forall_mem_cons]
        exact ⟨hfresh, fun other hother => (hapart other hother).2⟩
    · rintro ⟨hkeys, hfresh, rfl⟩
      rw [List.forall_mem_cons] at hfresh
      have hvalid := hkeys.valid
      have hdistinct := hkeys.distinct
      rw [List.map_cons, List.forall_mem_cons] at hvalid
      rw [List.map_cons, List.nodup_cons] at hdistinct
      refine ⟨_, addSlot_eq_ok_iff.2 ⟨hvalid.1, hfresh.1, rfl⟩, ih.2 ⟨⟨hvalid.2, hdistinct.2⟩, ?_, rfl⟩⟩
      intro other hother
      rw [ExtTreeMap.mem_insert, not_or]
      refine ⟨fun heq => ?_, hfresh.2 other hother⟩
      have hsame : runtime.key = other.key := by simpa using heq
      exact hdistinct.1 (hsame ▸ List.mem_map_of_mem hother)

/-- **What the manager checks of itself** is that its keys are valid and distinct. -/
theorem currentSlots_eq_ok_iff {manager : NodeManager Rest} {current : BTreeMap Text (NodeRuntime Rest)} :
    manager.currentSlots printConfig = .ok current ↔
      KeysOk (manager.runtimes.map NodeRuntime.key) ∧ current = slotsOf manager.runtimes ∅ := by
  rw [NodeManager.currentSlots, foldlM_addSlot_eq_ok_iff]
  simp

end

/-- The runtime a list holds under a key. -/
def slotAt (runtimes : List (NodeRuntime Rest)) (key : Text) : Option (NodeRuntime Rest) :=
  runtimes.find? (·.key = key)

theorem lastWith_eq_slotAt {runtimes : List (NodeRuntime Rest)} (h : (runtimes.map NodeRuntime.key).Nodup)
    (key : Text) : lastWith NodeRuntime.key runtimes key = slotAt runtimes key := by
  cases hat : slotAt runtimes key with
  | none =>
    rw [lastWith_eq_none]
    intro runtime hmem
    simpa using List.find?_eq_none.1 hat runtime hmem
  | some runtime =>
    have hmem := List.mem_of_find?_eq_some hat
    have hkey : runtime.key = key := by simpa using List.find?_some hat
    rw [← hkey]
    exact lastWith_of_mem h hmem

theorem getElem?_slotsOf {runtimes : List (NodeRuntime Rest)} (h : (runtimes.map NodeRuntime.key).Nodup) (key : Text) :
    (slotsOf runtimes ∅)[key]? = slotAt runtimes key := by
  have hget : (slotsOf runtimes ∅)[key]? = ((lastWith NodeRuntime.key runtimes key).map id).or (∅ : BTreeMap Text _)[key]? :=
    getElem?_foldl_insert NodeRuntime.key id runtimes ∅ key
  rw [hget, ExtTreeMap.getElem?_empty, Option.or_none, Option.map_id_fun, id_eq, lastWith_eq_slotAt h]

/-! ## The expected outcome -/

/-- The configs whose key is valid and has not been seen. -/
def firstConfigs (seen : List Text) : List NodeConfig → List NodeConfig
  | [] => []
  | config :: configs =>
    if machineNodeKey config = [] ∨ machineNodeKey config ∈ seen then firstConfigs seen configs
    else config :: firstConfigs (seen ++ [machineNodeKey config]) configs

/-- A loader, asked for one config after the other. -/
def ask (load : NodeConfig → σ → LoadAnswer Rest × σ) : List NodeConfig → σ → List (NodeConfig × LoadAnswer Rest)
  | [], _ => []
  | config :: configs, s => (config, (load config s).1) :: ask load configs (load config s).2

/-- The runtime of an answer that holds a node. -/
def loadedRuntime : NodeConfig × LoadAnswer Rest → Option (NodeRuntime Rest)
  | (config, .ok (some info)) => some { config, info }
  | _ => none

/-- The loaded node, else the previous runtime under the key, else nothing. -/
def expectedRuntime (previous : List (NodeRuntime Rest)) (answer : NodeConfig × LoadAnswer Rest) :
    Option (NodeRuntime Rest) :=
  (loadedRuntime answer).or (slotAt previous (machineNodeKey answer.1))

def expectedRuntimes (previous : List (NodeRuntime Rest)) (desired : List NodeConfig)
    (load : NodeConfig → σ → LoadAnswer Rest × σ) (s : σ) : List (NodeRuntime Rest) :=
  (ask load (firstConfigs [] desired) s).filterMap (expectedRuntime previous)

theorem key_of_loadedRuntime {answer : NodeConfig × LoadAnswer Rest} {runtime : NodeRuntime Rest}
    (h : loadedRuntime answer = some runtime) : runtime.key = machineNodeKey answer.1 := by
  unfold loadedRuntime at h
  split at h
  · rw [← Option.some.inj h]
    rfl
  · cases h

theorem key_of_slotAt {runtimes : List (NodeRuntime Rest)} {key : Text} {runtime : NodeRuntime Rest}
    (h : slotAt runtimes key = some runtime) : runtime.key = key := by
  simpa using List.find?_some h

theorem key_of_expectedRuntime {previous : List (NodeRuntime Rest)} {answer : NodeConfig × LoadAnswer Rest}
    {runtime : NodeRuntime Rest} (h : expectedRuntime previous answer = some runtime) :
    runtime.key = machineNodeKey answer.1 := by
  unfold expectedRuntime at h
  cases hloaded : loadedRuntime answer with
  | some loaded =>
    rw [hloaded, Option.some_or] at h
    rw [← Option.some.inj h]
    exact key_of_loadedRuntime hloaded
  | none =>
    rw [hloaded, Option.none_or] at h
    exact key_of_slotAt h

theorem map_fst_ask (load : NodeConfig → σ → LoadAnswer Rest × σ) (configs : List NodeConfig) (s : σ) :
    (ask load configs s).map Prod.fst = configs := by
  induction configs generalizing s with
  | nil => rfl
  | cons config configs ih => rw [ask, List.map_cons, ih]

theorem keysOk_firstConfigs (configs : List NodeConfig) : ∀ seen : List Text,
    KeysOk ((firstConfigs seen configs).map machineNodeKey) ∧
      ∀ config ∈ firstConfigs seen configs, machineNodeKey config ∉ seen := by
  induction configs with
  | nil => exact fun seen => ⟨⟨by simp [firstConfigs], List.nodup_nil⟩, by simp [firstConfigs]⟩
  | cons config configs ih =>
    intro seen
    rw [firstConfigs]
    split
    · exact ih seen
    · rename_i hnew
      rw [not_or] at hnew
      obtain ⟨hkeys, hunseen⟩ := ih (seen ++ [machineNodeKey config])
      have hapart : ∀ other ∈ firstConfigs (seen ++ [machineNodeKey config]) configs,
          machineNodeKey other ∉ seen ∧ machineNodeKey other ≠ machineNodeKey config := by
        intro other hother
        have := hunseen other hother
        rw [List.mem_append, List.mem_singleton, not_or] at this
        exact this
      refine ⟨⟨?_, ?_⟩, ?_⟩
      · rw [List.map_cons, List.forall_mem_cons]
        exact ⟨hnew.1, hkeys.valid⟩
      · rw [List.map_cons, List.nodup_cons]
        refine ⟨fun hmem => ?_, hkeys.distinct⟩
        obtain ⟨other, hother, heq⟩ := List.mem_map.1 hmem
        exact (hapart other hother).2 heq
      · rw [List.forall_mem_cons]
        exact ⟨hnew.2, fun other hother => (hapart other hother).1⟩

/-- The keys of the answers are the keys of the configs asked for. -/
theorem map_key_ask (load : NodeConfig → σ → LoadAnswer Rest × σ) (configs : List NodeConfig) (s : σ) :
    (ask load configs s).map (fun answer => machineNodeKey answer.1) = configs.map machineNodeKey := by
  calc (ask load configs s).map (fun answer => machineNodeKey answer.1)
      = ((ask load configs s).map Prod.fst).map machineNodeKey := by rw [List.map_map]; rfl
    _ = configs.map machineNodeKey := by rw [map_fst_ask]

theorem keysOk_ask (load : NodeConfig → σ → LoadAnswer Rest × σ) (desired : List NodeConfig) (s : σ) :
    KeysOk ((ask load (firstConfigs [] desired) s).map fun answer => machineNodeKey answer.1) := by
  rw [map_key_ask]
  exact (keysOk_firstConfigs desired []).1

/-- **The invariant is kept**: the expected runtimes have valid and distinct keys. -/
theorem keysOk_expectedRuntimes (previous : List (NodeRuntime Rest)) (desired : List NodeConfig)
    (load : NodeConfig → σ → LoadAnswer Rest × σ) (s : σ) :
    KeysOk ((expectedRuntimes previous desired load s).map NodeRuntime.key) := by
  have hsub : ∀ answers : List (NodeConfig × LoadAnswer Rest),
      ((answers.filterMap (expectedRuntime previous)).map NodeRuntime.key).Sublist
        (answers.map fun answer => machineNodeKey answer.1) := by
    intro answers
    induction answers with
    | nil => exact List.Sublist.refl _
    | cons answer answers ih =>
      cases h : expectedRuntime previous answer with
      | none =>
        rw [List.filterMap_cons_none h, List.map_cons]
        exact ih.cons _
      | some runtime =>
        rw [List.filterMap_cons_some h, List.map_cons, List.map_cons, key_of_expectedRuntime h]
        exact ih.cons_cons _
  exact (keysOk_ask load desired s).sublist (hsub _)

/-! ## The first loop -/

/-- The counts of a result that the first loop leaves alone. -/
structure Uncounted (result : ReconcileResult) : Prop where
  added : result.added = 0
  removed : result.removed = 0
  restarted : result.restarted = 0
  unchanged : result.unchanged = 0
  noReload : result.fullReloadRequired = false

theorem handleReconcileFailure_eq_ok {result result' : ReconcileResult} {config : NodeConfig} {error : Text}
    {options : NodeManagerOptions} (h : handleReconcileFailure result config error options = .ok result')
    (hresult : Uncounted result) : Uncounted result' := by
  unfold handleReconcileFailure at h
  split at h
  · rw [← Except.ok.inj h]
    exact ⟨hresult.added, hresult.removed, hresult.restarted, hresult.unchanged, hresult.noReload⟩
  · cases h

theorem handleReconcileFailure_eq_error {result : ReconcileResult} {config : NodeConfig} {error error' : Text}
    {options : NodeManagerOptions} (h : handleReconcileFailure result config error options = .error error') :
    options.continueOnError = false := by
  unfold handleReconcileFailure at h
  split at h
  · cases h
  · rename_i hstop
    exact Bool.eq_false_iff.2 hstop

/-- The candidates with the answer's node, if there is one. -/
def addLoaded (candidates : BTreeMap Text (NodeRuntime Rest)) (answer : NodeConfig × LoadAnswer Rest) :
    BTreeMap Text (NodeRuntime Rest) :=
  match loadedRuntime answer with
  | some runtime => candidates.insert runtime.key runtime
  | none => candidates

variable {load : NodeConfig → σ → LoadAnswer Rest × σ} {current : BTreeMap Text (NodeRuntime Rest)}
  {options : NodeManagerOptions}

theorem recordAnswer_eq_ok {scan scan' : ReconcileScan Rest} {config : NodeConfig} {answer : LoadAnswer Rest}
    (h : recordAnswer current options scan config (machineNodeKey config) answer = .ok scan')
    (hresult : Uncounted scan.result) :
    Uncounted scan'.result ∧ scan'.desiredKeys = scan.desiredKeys ∧ scan'.orderedKeys = scan.orderedKeys ∧
      scan'.candidates = addLoaded scan.candidates (config, answer) := by
  cases answer with
  | error error =>
    obtain ⟨result, hfail, rfl⟩ := map_eq_ok.1 h
    exact ⟨handleReconcileFailure_eq_ok hfail hresult, rfl, rfl, rfl⟩
  | ok found =>
    cases found with
    | some info =>
      rw [← Except.ok.inj h]
      exact ⟨hresult, rfl, rfl, rfl⟩
    | none =>
      simp only [recordAnswer] at h
      split at h
      · rw [← Except.ok.inj h]
        exact ⟨⟨hresult.added, hresult.removed, hresult.restarted, hresult.unchanged, hresult.noReload⟩, rfl, rfl, rfl⟩
      · obtain ⟨result, hfail, rfl⟩ := map_eq_ok.1 h
        exact ⟨handleReconcileFailure_eq_ok hfail hresult, rfl, rfl, rfl⟩

theorem reconcileConfig_eq_error {state : ReconcileScan Rest × σ} {config : NodeConfig} {error : Text}
    (h : reconcileConfig load current options state config = .error error) : options.continueOnError = false := by
  unfold reconcileConfig at h
  simp only at h
  split at h
  · exact handleReconcileFailure_eq_error (map_eq_error h)
  · split at h
    · exact handleReconcileFailure_eq_error (map_eq_error h)
    · replace h := map_eq_error h
      unfold recordAnswer at h
      split at h
      · cases h
      · split at h
        · cases h
        · exact handleReconcileFailure_eq_error (map_eq_error h)
      · exact handleReconcileFailure_eq_error (map_eq_error h)

/-- **Step lemma of the first loop**: a config without a new key is passed over, any other is asked for. -/
theorem reconcileConfig_eq_ok {scan scan' : ReconcileScan Rest} {s s' : σ} {config : NodeConfig}
    (h : reconcileConfig load current options (scan, s) config = .ok (scan', s')) (hresult : Uncounted scan.result) :
    Uncounted scan'.result ∧
    (if machineNodeKey config = [] ∨ machineNodeKey config ∈ scan.desiredKeys then
      s' = s ∧ scan'.desiredKeys = scan.desiredKeys ∧ scan'.orderedKeys = scan.orderedKeys ∧
        scan'.candidates = scan.candidates
    else
      s' = (load config s).2 ∧ scan'.desiredKeys = scan.desiredKeys ++ [machineNodeKey config] ∧
        scan'.orderedKeys = scan.orderedKeys ++ [machineNodeKey config] ∧
        scan'.candidates = addLoaded scan.candidates (config, (load config s).1)) := by
  unfold reconcileConfig at h
  simp only at h
  split at h
  · rename_i hempty
    obtain ⟨result, hfail, heq⟩ := map_eq_ok.1 h
    obtain ⟨rfl, rfl⟩ := Prod.mk.inj heq
    rw [if_pos (.inl hempty)]
    exact ⟨handleReconcileFailure_eq_ok hfail hresult, rfl, rfl, rfl, rfl⟩
  · rename_i hnonempty
    split at h
    · rename_i hseen
      obtain ⟨result, hfail, heq⟩ := map_eq_ok.1 h
      obtain ⟨rfl, rfl⟩ := Prod.mk.inj heq
      rw [if_pos (.inr (List.contains_iff_mem.1 hseen))]
      exact ⟨handleReconcileFailure_eq_ok hfail hresult, rfl, rfl, rfl, rfl⟩
    · rename_i hnew
      rw [List.contains_iff_mem] at hnew
      obtain ⟨scan'', hrecord, heq⟩ := map_eq_ok.1 h
      obtain ⟨rfl, rfl⟩ := Prod.mk.inj heq
      rw [if_neg (not_or.2 ⟨hnonempty, hnew⟩)]
      obtain ⟨huncounted, hdesired, hordered, hcandidates⟩ := recordAnswer_eq_ok hrecord hresult
      exact ⟨huncounted, rfl, hdesired, hordered, hcandidates⟩

/-- **Run lemma of the first loop.** -/
theorem foldlM_reconcileConfig {desired : List NodeConfig} {scan scan' : ReconcileScan Rest} {s s' : σ}
    (h : desired.foldlM (reconcileConfig load current options) (scan, s) = .ok (scan', s'))
    (hresult : Uncounted scan.result) (hkeys : scan.orderedKeys = scan.desiredKeys) :
    Uncounted scan'.result ∧ scan'.orderedKeys = scan'.desiredKeys ∧
      scan'.desiredKeys = scan.desiredKeys ++ (firstConfigs scan.desiredKeys desired).map machineNodeKey ∧
      scan'.candidates = (ask load (firstConfigs scan.desiredKeys desired) s).foldl addLoaded scan.candidates := by
  induction desired generalizing scan s with
  | nil =>
    obtain ⟨rfl, rfl⟩ := Prod.mk.inj (Except.ok.inj h)
    exact ⟨hresult, hkeys, by simp [firstConfigs], rfl⟩
  | cons config desired ih =>
    rw [List.foldlM_cons, bind_eq_ok] at h
    obtain ⟨⟨middle, s₁⟩, hstep, hrest⟩ := h
    obtain ⟨huncounted, hcases⟩ := reconcileConfig_eq_ok hstep hresult
    rw [firstConfigs]
    split at hcases
    · rename_i hskip
      obtain ⟨rfl, hdesired, hordered, hcandidates⟩ := hcases
      rw [if_pos hskip]
      have hrun := ih hrest huncounted (by rw [hordered, hdesired, hkeys])
      rwa [hdesired, hcandidates] at hrun
    · rename_i hnew
      obtain ⟨rfl, hdesired, hordered, hcandidates⟩ := hcases
      rw [if_neg hnew]
      have hrun := ih hrest huncounted (by rw [hordered, hdesired, hkeys])
      rw [hdesired, hcandidates] at hrun
      refine ⟨hrun.1, hrun.2.1, ?_, hrun.2.2.2⟩
      rw [hrun.2.2.1, List.append_assoc]
      rfl

/-! ## The second loop -/

section

variable {desired : List NodeConfig} {s : σ}

theorem getElem?_foldl_addLoaded (answers : List (NodeConfig × LoadAnswer Rest)) (key : Text) :
    (answers.foldl addLoaded ∅)[key]? = lastWith NodeRuntime.key (answers.filterMap loadedRuntime) key := by
  have hfold : answers.foldl addLoaded (∅ : BTreeMap Text (NodeRuntime Rest)) =
      (answers.filterMap loadedRuntime).foldl (fun candidates runtime => candidates.insert runtime.key runtime) ∅ := by
    rw [List.foldl_filterMap]
    congr 1
    funext candidates answer
    unfold addLoaded
    cases loadedRuntime answer <;> rfl
  have hget := getElem?_foldl_insert NodeRuntime.key id (answers.filterMap loadedRuntime)
    (∅ : BTreeMap Text (NodeRuntime Rest)) key
  rw [ExtTreeMap.getElem?_empty, Option.or_none, Option.map_id_fun, id_eq] at hget
  rw [hfold]
  exact hget

/-- The candidate under the key of an answer is the node of that answer. -/
theorem candidate_eq_loadedRuntime {answer : NodeConfig × LoadAnswer Rest}
    (h : answer ∈ ask load (firstConfigs [] desired) s) :
    ((ask load (firstConfigs [] desired) s).foldl addLoaded ∅)[machineNodeKey answer.1]? = loadedRuntime answer := by
  have hnodup := (keysOk_ask load desired s).distinct
  have hlast : lastWith (fun answer : NodeConfig × LoadAnswer Rest => machineNodeKey answer.1)
      (ask load (firstConfigs [] desired) s) (machineNodeKey answer.1) = some answer :=
    lastWith_of_mem hnodup h
  rw [getElem?_foldl_addLoaded, lastWith_filterMap (fun answer runtime => key_of_loadedRuntime) hnodup, hlast,
    Option.bind_some]

theorem candidates_isEmpty_iff (answers : List (NodeConfig × LoadAnswer Rest)) :
    (answers.foldl addLoaded (∅ : BTreeMap Text (NodeRuntime Rest))).isEmpty = true ↔
      answers.filterMap loadedRuntime = [] := by
  rw [ExtTreeMap.isEmpty_iff]
  constructor
  · intro hempty
    by_contra hne
    obtain ⟨runtime, hmem⟩ := List.exists_mem_of_ne_nil _ hne
    have hget := getElem?_foldl_addLoaded answers runtime.key
    rw [hempty, ExtTreeMap.getElem?_empty] at hget
    exact lastWith_eq_none.1 hget.symm runtime hmem rfl
  · intro hnone
    refine ExtTreeMap.ext_getElem? fun key => ?_
    rw [getElem?_foldl_addLoaded, hnone, lastWith_nil, ExtTreeMap.getElem?_empty]

variable [DecidableEq Rest]

/-- **Run lemma of the second loop**: a runtime for each key that has one, each counted once. -/
theorem foldl_placeKey (current candidates : BTreeMap Text (NodeRuntime Rest)) (keys : List Text)
    (next : List (NodeRuntime Rest)) (result : ReconcileResult) :
    let placed := keys.filterMap fun key => candidates[key]?.or current[key]?
    let after := keys.foldl (placeKey current candidates) (next, result)
    after.1 = next ++ placed ∧
      after.2.added + after.2.restarted + after.2.unchanged =
        result.added + result.restarted + result.unchanged + placed.length ∧
      after.2.removed = result.removed ∧ after.2.fullReloadRequired = result.fullReloadRequired ∧
      after.2.failures = result.failures := by
  induction keys generalizing next result with
  | nil => simp
  | cons key keys ih =>
    simp only [List.foldl_cons, placeKey]
    cases hcandidate : candidates[key]? with
    | none =>
      cases hcurrent : current[key]? with
      | none =>
        rw [List.filterMap_cons_none (by simp [hcandidate, hcurrent])]
        exact ih next result
      | some existing =>
        rw [List.filterMap_cons_some (by rw [hcandidate, hcurrent]; rfl)]
        obtain ⟨hnext, hcount, hrest⟩ := ih (next ++ [existing]) { result with unchanged := result.unchanged + 1 }
        refine ⟨by rw [hnext, List.append_assoc]; rfl, ?_, hrest⟩
        simp only [hcount, List.length_cons]
        omega
    | some candidate =>
      rw [List.filterMap_cons_some (by rw [hcandidate]; rfl)]
      cases hcurrent : current[key]? with
      | none =>
        obtain ⟨hnext, hcount, hrest⟩ := ih (next ++ [candidate]) { result with added := result.added + 1 }
        refine ⟨by simp only [hnext, List.append_assoc]; rfl, ?_, hrest⟩
        simp only [hcount, List.length_cons]
        omega
      | some existing =>
        by_cases heq : candidate = existing
        · subst heq
          simp only [if_true]
          obtain ⟨hnext, hcount, hrest⟩ := ih (next ++ [candidate]) { result with unchanged := result.unchanged + 1 }
          refine ⟨by rw [hnext, List.append_assoc]; rfl, ?_, hrest⟩
          simp only [hcount, List.length_cons]
          omega
        · simp only [heq, if_false]
          obtain ⟨hnext, hcount, hrest⟩ := ih (next ++ [candidate]) { result with restarted := result.restarted + 1 }
          refine ⟨by rw [hnext, List.append_assoc]; rfl, ?_, hrest⟩
          simp only [hcount, List.length_cons]
          omega

end

theorem mem_keys_firstConfigs {key : Text} (hkey : key ≠ []) (configs : List NodeConfig) : ∀ {seen : List Text},
    key ∉ seen → (key ∈ (firstConfigs seen configs).map machineNodeKey ↔ key ∈ configs.map machineNodeKey) := by
  induction configs with
  | nil => exact fun _ => Iff.rfl
  | cons config configs ih =>
    intro seen hseen
    rw [firstConfigs, List.map_cons, List.mem_cons]
    split
    · rename_i hskip
      have hne : key ≠ machineNodeKey config := by
        rintro rfl
        exact hskip.elim hkey hseen
      rw [ih hseen]
      exact ⟨.inr, fun h => h.resolve_left hne⟩
    · rw [List.map_cons, List.mem_cons]
      by_cases heq : key = machineNodeKey config
      · exact ⟨fun _ => .inl heq, fun _ => .inl heq⟩
      · rw [ih (by simp [hseen, heq])]

/-- The slots that no desired config names are the runtimes that none names. -/
theorem length_removed {previous : List (NodeRuntime Rest)} (h : KeysOk (previous.map NodeRuntime.key))
    (desired : List NodeConfig) :
    ((slotsOf previous ∅).keys.filter fun key => !((firstConfigs [] desired).map machineNodeKey).contains key).length =
      (previous.filter fun runtime => runtime.key ∉ desired.map machineNodeKey).length := by
  have hmem : ∀ key, key ∈ (slotsOf previous ∅).keys ↔ key ∈ previous.map NodeRuntime.key := by
    intro key
    rw [ExtTreeMap.mem_keys, ExtTreeMap.mem_iff_isSome_getElem?, getElem?_slotsOf h.distinct, slotAt,
      List.find?_isSome]
    simp
  have hperm : (slotsOf previous ∅).keys.Perm (previous.map NodeRuntime.key) :=
    (List.perm_ext_iff_of_nodup ExtTreeMap.nodup_keys h.distinct).2 hmem
  rw [(hperm.filter _).length_eq, List.filter_map, List.length_map]
  refine congrArg List.length (List.filter_congr fun runtime hruntime => ?_)
  have hkey := mem_keys_firstConfigs (h.valid _ (List.mem_map_of_mem hruntime)) desired List.not_mem_nil
  rw [Function.comp_apply, Bool.eq_iff_iff, Bool.not_eq_true', ← Bool.not_eq_true, List.contains_iff_mem, hkey,
    decide_eq_true_iff]

end

end KeliNode
