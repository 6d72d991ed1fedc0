import KeliNode.Node.Reconcile

/-!
# A manager that can always be reconciled (`node.rs`)

With valid and distinct keys, a reconcile does one of four things (`reconcile_cases`): it stops at a failure, it
records failures without a node, it asks for a full reload, or it brings about the expected runtimes; only the last
changes any.  So the keys stay as they are or become those of the expected runtimes, and no call fails on what the
manager holds.  Everything hangs on the build: `build_with_loader` and `build_from_panel` make a runtime of every
answer with a node (`buildWithLoader_runtimes`), also twice under one key.
-/

namespace KeliNode

open Lib Std

/-- One call of `reconcile_with_loader`. -/
structure ReconcileCall (Rest σ : Type) where
  desired : List NodeConfig
  realtime : RealtimeConfig := {}
  options : NodeManagerOptions := {}
  load : NodeConfig → σ → LoadAnswer Rest × σ
  start : σ

section

variable {Rest σ : Type} [DecidableEq Rest] {printConfig : NodeConfig → Text}

def ReconcileCall.run (printConfig : NodeConfig → Text) (call : ReconcileCall Rest σ) (manager : NodeManager Rest) :
    Except Text ReconcileResult × NodeManager Rest :=
  manager.reconcileWithLoader printConfig call.desired call.realtime call.options call.load call.start

/-- The manager after some calls. -/
def NodeManager.after (printConfig : NodeConfig → Text) (manager : NodeManager Rest)
    (calls : List (ReconcileCall Rest σ)) : NodeManager Rest :=
  calls.foldl (fun manager call => (call.run printConfig manager).2) manager

omit [DecidableEq Rest] in
/-- No node was loaded, but a failure was recorded and the call went on. -/
def ReconcileCall.OnlyFailures (call : ReconcileCall Rest σ) (result : ReconcileResult) : Prop :=
  (ask call.load (firstConfigs [] call.desired) call.start).filterMap loadedRuntime = [] ∧
    result.failures ≠ [] ∧ call.options.continueOnError = true

/-- What a call should do on a manager. -/
structure ReconcileOk (printConfig : NodeConfig → Text) (manager : NodeManager Rest) (call : ReconcileCall Rest σ) :
    Prop where
  keys : KeysOk (manager.runtimes.map NodeRuntime.key)
  slots : ∃ current, manager.currentSlots printConfig = .ok current
  error_stops : ∀ error, (call.run printConfig manager).1 = .error error → call.options.continueOnError = false
  error_keeps : ∀ error, (call.run printConfig manager).1 = .error error →
    (call.run printConfig manager).2.runtimes = manager.runtimes
  reload_keeps : ∀ result, (call.run printConfig manager).1 = .ok result → result.fullReloadRequired = true →
    (call.run printConfig manager).2.runtimes = manager.runtimes
  failures_keep : ∀ result, (call.run printConfig manager).1 = .ok result → call.OnlyFailures result →
    (call.run printConfig manager).2.runtimes = manager.runtimes
  reconciled : ∀ result, (call.run printConfig manager).1 = .ok result → result.fullReloadRequired = false →
    ¬call.OnlyFailures result →
    (call.run printConfig manager).2.runtimes =
        expectedRuntimes manager.runtimes call.desired call.load call.start ∧
      result.added + result.restarted + result.unchanged = (call.run printConfig manager).2.runtimes.length ∧
      result.removed = (manager.runtimes.filter fun runtime => runtime.key ∉ call.desired.map machineNodeKey).length

/-- **What a call does** on a manager with valid and distinct keys. -/
theorem reconcile_cases {manager : NodeManager Rest} (h : KeysOk (manager.runtimes.map NodeRuntime.key))
    (call : ReconcileCall Rest σ) :
    (∃ error, call.run printConfig manager = (.error error, manager) ∧ call.options.continueOnError = false) ∨
    (∃ result, call.run printConfig manager = (.ok result, { manager with failures := result.failures }) ∧
      result.fullReloadRequired = false ∧ call.OnlyFailures result) ∨
    (∃ result, call.run printConfig manager = (.ok result, manager) ∧ result.fullReloadRequired = true ∧
      ¬call.OnlyFailures result) ∨
    ∃ result next, call.run printConfig manager = (.ok result, next) ∧ result.fullReloadRequired = false ∧
      ¬call.OnlyFailures result ∧
      next.runtimes = expectedRuntimes manager.runtimes call.desired call.load call.start ∧
      result.added + result.restarted + result.unchanged = next.runtimes.length ∧
      result.removed =
        (manager.runtimes.filter fun runtime => runtime.key ∉ call.desired.map machineNodeKey).length := by
  have hslots : manager.currentSlots printConfig = .ok (slotsOf manager.runtimes ∅) := currentSlots_eq_ok_iff.2 ⟨h, rfl⟩
  unfold ReconcileCall.run NodeManager.reconcileWithLoader
  simp only [hslots]
  cases hscan : call.desired.foldlM (reconcileConfig call.load (slotsOf manager.runtimes ∅) call.options)
      ({}, call.start) with
  | error error =>
    obtain ⟨state, config, _, hstep⟩ := exists_of_foldlM_error hscan
    exact .inl ⟨error, rfl, reconcileConfig_eq_error hstep⟩
  | ok state =>
    obtain ⟨scan, s'⟩ := state
    obtain ⟨hcounts, hordered, hkeys, hcandidates⟩ :=
      foldlM_reconcileConfig hscan ⟨rfl, rfl, rfl, rfl, rfl⟩ rfl
    have honly : (scan.candidates.isEmpty && !scan.result.failures.isEmpty && call.options.continueOnError) = true ↔
        call.OnlyFailures scan.result := by
      rw [hcandidates]
      simp only [Bool.and_eq_true, Bool.not_eq_true', List.isEmpty_eq_false_iff, ReconcileCall.OnlyFailures,
        candidates_isEmpty_iff, and_assoc, ne_eq]
    right
    by_cases hearly : call.OnlyFailures scan.result
    · simp only [if_pos (honly.2 hearly)]
      exact .inl ⟨_, rfl, hcounts.noReload, hearly⟩
    · simp only [if_neg (honly.not.2 hearly)]
      right
      by_cases hreload : machineReconcileNeedsFullReload (slotsOf manager.runtimes ∅) scan.desiredKeys
          scan.candidates = true
      · simp only [if_pos hreload]
        exact .inl ⟨_, rfl, rfl, hearly⟩
      · simp only [if_neg hreload]
        right
        let answers := ask call.load (firstConfigs [] call.desired) call.start
        have hkeys' : scan.desiredKeys = (firstConfigs [] call.desired).map machineNodeKey := hkeys
        have hkeysAsked : scan.orderedKeys = answers.map fun answer => machineNodeKey answer.1 := by
          rw [hordered, hkeys', map_key_ask]
        have hplaced : scan.orderedKeys.filterMap
            (fun key => scan.candidates[key]?.or (slotsOf manager.runtimes ∅)[key]?) =
            expectedRuntimes manager.runtimes call.desired call.load call.start := by
          rw [hkeysAsked, List.filterMap_map, expectedRuntimes]
          refine List.filterMap_congr fun answer hanswer => ?_
          have hcandidate : scan.candidates[machineNodeKey answer.1]? = loadedRuntime answer := by
            rw [hcandidates]
            exact candidate_eq_loadedRuntime hanswer
          rw [Function.comp_apply, hcandidate, getElem?_slotsOf h.distinct, expectedRuntime]
        obtain ⟨hnext, hcount, hremoved, hnoReload, hfailures⟩ :=
          foldl_placeKey (slotsOf manager.runtimes ∅) scan.candidates scan.orderedKeys []
            { scan.result with removed := scan.result.removed +
                ((slotsOf manager.runtimes ∅).keys.filter fun key => !scan.desiredKeys.contains key).length }
        rw [hplaced, List.nil_append] at hnext
        refine ⟨_, _, rfl, hnoReload.trans hcounts.noReload, ?_, hnext, ?_, ?_⟩
        · intro hlate
          rw [ReconcileCall.OnlyFailures, hfailures] at hlate
          exact hearly hlate
        · refine (hcount.trans ?_).trans (congrArg List.length hnext).symm
          rw [hplaced]
          simp only [hcounts.added, hcounts.restarted, hcounts.unchanged, Nat.zero_add]
        · rw [hremoved, hcounts.removed, hkeys', length_removed h, Nat.zero_add]

/-- The next keys are the present ones or those of the expected runtimes. -/
theorem keysOk_after_call {manager : NodeManager Rest} (h : KeysOk (manager.runtimes.map NodeRuntime.key))
    (call : ReconcileCall Rest σ) :
    KeysOk ((call.run printConfig manager).2.runtimes.map NodeRuntime.key) := by
  obtain ⟨error, hrun, _⟩ | ⟨result, hrun, _⟩ | ⟨result, hrun, _⟩ | ⟨result, next, hrun, _, _, hnext, _⟩ :=
    @reconcile_cases _ _ _ printConfig _ h call
  · rw [hrun]
    exact h
  · rw [hrun]
    exact h
  · rw [hrun]
    exact h
  · rw [hrun, hnext]
    exact keysOk_expectedRuntimes _ _ _ _

theorem reconcileOk_of_keysOk {manager : NodeManager Rest} (h : KeysOk (manager.runtimes.map NodeRuntime.key))
    (call : ReconcileCall Rest σ) : ReconcileOk printConfig manager call := by
  have hslots : ∃ current, manager.currentSlots printConfig = .ok current := ⟨_, currentSlots_eq_ok_iff.2 ⟨h, rfl⟩⟩
  obtain ⟨error, hrun, hstop⟩ | ⟨result, hrun, hnoReload, honly⟩ | ⟨result, hrun, hreload, hnot⟩ |
      ⟨result, next, hrun, hnoReload, hnot, hnext, hcount, hremoved⟩ :=
    @reconcile_cases _ _ _ printConfig _ h call
  · refine ⟨h, hslots, fun _ _ => hstop, fun _ _ => by rw [hrun], ?_, ?_, ?_⟩ <;> intro result hresult <;>
      rw [hrun] at hresult <;> cases hresult
  · refine ⟨h, hslots, ?_, ?_, fun _ _ _ => by rw [hrun], fun _ _ _ => by rw [hrun], ?_⟩
    · intro error herror
      rw [hrun] at herror
      cases herror
    · intro error herror
      rw [hrun] at herror
      cases herror
    · intro result' hresult _ hnot
      rw [hrun] at hresult
      rw [← Except.ok.inj hresult] at hnot
      exact absurd honly hnot
  · refine ⟨h, hslots, ?_, ?_, fun _ _ _ => by rw [hrun], fun _ _ _ => by rw [hrun], ?_⟩
    · intro error herror
      rw [hrun] at herror
      cases herror
    · intro error herror
      rw [hrun] at herror
      cases herror
    · intro result' hresult hfalse _
      rw [hrun] at hresult
      rw [← Except.ok.inj hresult, hreload] at hfalse
      cases hfalse
  · refine ⟨h, hslots, ?_, ?_, ?_, ?_, ?_⟩
    · intro error herror
      rw [hrun] at herror
      cases herror
    · intro error herror
      rw [hrun] at herror
      cases herror
    · intro result' hresult htrue
      rw [hrun] at hresult
      rw [← Except.ok.inj hresult, hnoReload] at htrue
      cases htrue
    · intro result' hresult honly
      rw [hrun] at hresult
      rw [← Except.ok.inj hresult] at honly
      exact absurd honly hnot
    · intro result' hresult _ _
      rw [hrun] at hresult ⊢
      rw [← Except.ok.inj hresult]
      exact ⟨hnext, hcount, hremoved⟩

/-- **Run lemma**: valid and distinct keys last. -/
theorem keysOk_after {manager : NodeManager Rest} (h : KeysOk (manager.runtimes.map NodeRuntime.key))
    (calls : List (ReconcileCall Rest σ)) :
    KeysOk ((manager.after printConfig calls).runtimes.map NodeRuntime.key) := by
  induction calls generalizing manager with
  | nil => exact h
  | cons call calls ih => exact ih (keysOk_after_call h call)

end

/-! ## The build -/

section

variable {Rest σ : Type} {load : NodeConfig → σ → LoadAnswer Rest × σ} {options : NodeManagerOptions}

theorem buildConfig_runtimes {manager manager' : NodeManager Rest} {s s' : σ} {config : NodeConfig}
    (h : buildConfig load options (manager, s) config = .ok (manager', s')) :
    s' = (load config s).2 ∧
      manager'.runtimes = manager.runtimes ++ (loadedRuntime (config, (load config s).1)).toList := by
  unfold buildConfig at h
  simp only at h
  split at h
  · rename_i info hanswer
    obtain ⟨rfl, rfl⟩ := Prod.mk.inj (Except.ok.inj h)
    rw [hanswer]
    exact ⟨rfl, rfl⟩
  · rename_i hanswer
    split at h
    · obtain ⟨rfl, rfl⟩ := Prod.mk.inj (Except.ok.inj h)
      rw [hanswer]
      exact ⟨rfl, (List.append_nil _).symm⟩
    · cases h
  · rename_i error hanswer
    split at h
    · obtain ⟨rfl, rfl⟩ := Prod.mk.inj (Except.ok.inj h)
      rw [hanswer]
      exact ⟨rfl, (List.append_nil _).symm⟩
    · cases h

theorem foldlM_buildConfig_runtimes {nodes : List NodeConfig} {manager manager' : NodeManager Rest} {s s' : σ}
    (h : nodes.foldlM (buildConfig load options) (manager, s) = .ok (manager', s')) :
    manager'.runtimes = manager.runtimes ++ (ask load nodes s).filterMap loadedRuntime := by
  induction nodes generalizing manager s with
  | nil =>
    obtain ⟨rfl, rfl⟩ := Prod.mk.inj (Except.ok.inj h)
    exact (List.append_nil _).symm
  | cons config nodes ih =>
    rw [List.foldlM_cons, bind_eq_ok] at h
    obtain ⟨⟨middle, s₁⟩, hstep, hrest⟩ := h
    obtain ⟨rfl, hmiddle⟩ := buildConfig_runtimes hstep
    rw [ih hrest, hmiddle, ask, List.append_assoc]
    cases hloaded : loadedRuntime (config, (load config s).1) with
    | none =>
      rw [List.filterMap_cons_none hloaded]
      rfl
    | some runtime =>
      rw [List.filterMap_cons_some hloaded]
      rfl

/-- **A build** makes a runtime of every answer with a node. -/
theorem buildWithLoader_runtimes {nodes : List NodeConfig} {realtime : RealtimeConfig} {s : σ}
    {manager : NodeManager Rest} (h : buildWithLoader nodes realtime options load s = .ok manager) :
    manager.runtimes = (ask load nodes s).filterMap loadedRuntime := by
  unfold buildWithLoader at h
  obtain ⟨⟨built, s'⟩, hrun, hbuilt⟩ := bind_eq_ok.1 h
  rw [← Except.ok.inj hbuilt]
  exact foldlM_buildConfig_runtimes hrun

variable [DecidableEq Rest] {printConfig : NodeConfig → Text}

/-- **Reconcile is atomic and repeatable exactly if the build's keys are valid and distinct**: after any calls, any
call does what it should, if and only if the configs whose node the build loaded have such keys. -/
theorem reconcile_repeatable_iff {nodes : List NodeConfig} {realtime : RealtimeConfig} {s : σ}
    {manager : NodeManager Rest}
    (h : buildWithLoader nodes realtime options load s = .ok manager ∨
      buildFromPanel load nodes realtime options s = .ok manager) :
    (∀ (calls : List (ReconcileCall Rest σ)) (call : ReconcileCall Rest σ),
      ReconcileOk printConfig (manager.after printConfig calls) call) ↔
      KeysOk (((ask load nodes s).filterMap loadedRuntime).map NodeRuntime.key) := by
  have hbuilt : buildWithLoader nodes realtime options load s = .ok manager := h.elim id id
  rw [← buildWithLoader_runtimes hbuilt]
  constructor
  · intro hall
    exact (hall [] { desired := [], load, start := s }).keys
  · exact fun hkeys calls call => reconcileOk_of_keysOk (keysOk_after hkeys calls) call

end

/-! ## One key twice -/

def nodeConfig : NodeConfig where
  url := "https://panel"
  nodeId := 1

/-- A loader that knows every node. -/
def loadAny (_ : NodeConfig) (s : Unit) : LoadAnswer Unit × Unit := (.ok (some { rest := () }), s)

def nodeManager (runtimes : Nat) : NodeManager Unit where
  runtimes := List.replicate runtimes { config := nodeConfig, info := { rest := () } }

def sameNodes : ReconcileCall Unit Unit where
  desired := [nodeConfig]
  load := loadAny
  start := ()

theorem reconcile_repeatable_one :
    buildWithLoader [nodeConfig] {} {} loadAny () = .ok (nodeManager 1) ∧
    ReconcileOk (fun _ => []) ((nodeManager 1).after (fun _ => []) [sameNodes]) sameNodes := by
  have hbuilt : buildWithLoader [nodeConfig] {} {} loadAny () = .ok (nodeManager 1) := rfl
  have hkeys : KeysOk (((ask loadAny [nodeConfig] ()).filterMap loadedRuntime).map NodeRuntime.key) :=
    ⟨by decide, by decide⟩
  exact ⟨hbuilt, (reconcile_repeatable_iff (.inl hbuilt)).2 hkeys [sameNodes] sameNodes⟩

/-- A config that stands twice in the list is built twice, and no reconcile gets past the manager's own state. -/
theorem built_twice_never_reconciled :
    buildWithLoader [nodeConfig, nodeConfig] {} {} loadAny () = .ok (nodeManager 2) ∧
    ¬((nodeManager 2).runtimes.map NodeRuntime.key).Nodup ∧
    ((nodeManager 2).reconcileWithLoader (fun _ => []) [nodeConfig] {} { continueOnError := true } loadAny ()).1 =
      .error "duplicate current node config: https://panel#1" := by
  refine ⟨rfl, by decide, ?_⟩
  decide +kernel

end KeliNode
