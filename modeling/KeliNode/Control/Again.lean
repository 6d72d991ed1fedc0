import KeliNode.Control.Converge
import KeliNode.Lib.Except
import KeliNode.PortForward.Fixpoint

/-!
# Applying a plan again

A second `apply_runtime_plan` of the same plan, with nothing changed in between, finds its own file, its own core and its
own firewall rules (`apply_again_iff`).  The exception is a first call that found the core stopped and a listener taken:
it applied a plan without that inbound, and the second call, which no longer asks for the sockets, applies the plan as it
is.
-/

namespace KeliNode

open Lib

/-! ## Two calls -/

/-- A listener of the inbound cannot be bound. -/
def listenerHeld {ν σ : Type} (env : ControlEnv ν σ) (held : Text → Text → Option Text) (inbound : InboundPlan) : Bool :=
  (firstUnavailableListenerError env { bind := held } inbound).isSome

/-- Between two calls nothing changes: the same sockets are held, the core's status can be read as before, and nothing
fails in the second call. -/
structure NothingChanged (held : Text → Text → Option Text) (first second : ControlAnswers) : Prop where
  firstBind : first.bind = held
  bind : second.bind = held
  filterStatus : second.filterStatus = first.filterStatus
  filterSpec : second.filterSpec = none
  certificates : second.certificates = none
  configDir : second.configDir = none
  configReadable : second.configUnreadable = false
  writeFingerprint : second.writeFingerprint = none
  processSpec : second.processSpec = none
  start : second.start = none

section

variable {ν : Type} [DecidableEq ν]

/-- The second call changes nothing and reports what the first did: it does not ask for a reload or a hot apply, the core
stays, and no command changes the firewall. -/
structure NoOp (env : ControlEnv ν Host) (answers : ControlAnswers) (plan : RuntimeBootstrapPlan)
    (options : RuntimeControlOptions) (world : ControlWorld ν Host) (first : RuntimeApplyResult) : Prop where
  result : ∃ second, (applyRuntimePlan env answers plan options world).1 = .ok second ∧
    (∀ config, second.coreConfig = some config → config.changed = false) ∧
    second.reportPlan.nodeInfos = first.reportPlan.nodeInfos ∧
    second.reportPlan.nodeFailures = first.reportPlan.nodeFailures
  notAsked : ∀ reload routes config, applyRuntimePlan env { answers with reload, routes, config } plan options world =
    applyRuntimePlan env answers plan options world
  core : (applyRuntimePlan env answers plan options world).2.core = world.core
  firewall : (applyRuntimePlan env answers plan options world).2.firewall.issued = world.firewall.issued

/-- The first call takes an inbound out: errors do not stop it, it finds the core stopped, and a listener is held. -/
def TakesListener (env : ControlEnv ν Host) (held : Text → Text → Option Text) (answers : ControlAnswers)
    (plan : RuntimeBootstrapPlan) (world : ControlWorld ν Host) : Prop :=
  plan.resolved.continueOnError = true ∧ answers.filterStatus = none ∧ world.core.isSome = false ∧
    ∃ corePlan, plan.corePlan = some corePlan ∧ ∃ inbound ∈ corePlan.inbounds, listenerHeld env held inbound = true

/-! ## One call with a core plan -/

variable {env : ControlEnv ν Host} {answers : ControlAnswers} {plan : RuntimeBootstrapPlan}
  {options : RuntimeControlOptions} {world after : ControlWorld ν Host} {reportPlan : RuntimeBootstrapPlan}
  {corePlan : CorePlan} {result : RuntimeApplyResult}

/-- A call for a plan whose listeners leave no inbound. -/
theorem apply_without_core (hstart : options.startCore = true) (hplan : plan.corePlan ≠ none)
    (hreport : reportPlanFor env answers plan options world = .ok reportPlan) (hnone : reportPlan.corePlan = none) :
    applyRuntimePlan env answers plan options world =
      (.ok { coreConfig := none, coreProcess := none, reportPlan := (applyPortForward env reportPlan options world).1 },
        (applyPortForward env reportPlan options world).2) := by
  rcases stopUnmanaged_cases answers plan world with ⟨hno, -⟩ | ⟨-, hstop⟩
  · exact absurd hno hplan
  · simp only [applyRuntimePlan, hstart, if_true, hstop, hreport, hnone]

/-- A call that brings the core to a plan. -/
theorem apply_with_core (hstart : options.startCore = true) (hplan : plan.corePlan ≠ none)
    (hreport : reportPlanFor env answers plan options world = .ok reportPlan)
    (hsome : reportPlan.corePlan = some corePlan) :
    applyRuntimePlan env answers plan options world =
      match applyCorePlan env answers corePlan options world with
      | (.error message, world) => (.error message, world)
      | (.ok (writeResult, status), world) =>
        (.ok { coreConfig := some writeResult, coreProcess := status
               reportPlan := (applyPortForward env reportPlan options world).1 },
          (applyPortForward env reportPlan options world).2) := by
  rcases stopUnmanaged_cases answers plan world with ⟨hno, -⟩ | ⟨-, hstop⟩
  · exact absurd hno hplan
  · simp only [applyRuntimePlan, hstart, if_true, hstop, hreport, hsome]
    cases applyCorePlan env answers corePlan options world with
    | mk outcome world => cases outcome <;> rfl

/-- What the core's part of a successful call leaves: the plan's content in the file, and the firewall as it was. -/
theorem applyCorePlan_ok {writeResult : CoreConfigWriteResult} {status : Option ProcessStatus}
    (hstart : options.startCore = true)
    (h : applyCorePlan env answers corePlan options world = (.ok (writeResult, status), after)) :
    ∃ content, renderCoreConfig env corePlan true = .ok content ∧ after.configFile corePlan.configPath = some content ∧
      after.firewall = world.firewall ∧
      (writeResult.changed = false → world.configFile corePlan.configPath = some content) := by
  have hwrite := writeCoreConfig_cases env answers corePlan world
  rw [applyCorePlan] at h
  cases hwritten : writeCoreConfig env answers corePlan world with
  | mk outcome written =>
    rw [hwritten] at hwrite h
    cases hwrite with
    | refused => cases h
    | unrecorded hrender hfail => cases h
    | @written content result fingerprintFile hrender hsame hchanged =>
      obtain ⟨honly, -⟩ := applyCoreProcess_cases answers options
        { world with
          configFile := Function.update world.configFile corePlan.configPath (some content)
          fingerprintFile } (renders_of_ok hrender) (Function.update_self ..) result
      simp only [hstart, if_true] at h
      cases hprocess : applyCoreProcess env answers corePlan result options _ with
      | mk answer middle =>
        rw [hprocess] at honly h
        cases answer with
        | error message => cases h
        | ok status =>
          cases h
          refine ⟨content, hrender, ?_, honly.firewall, hsame⟩
          rw [honly.configFile]
          exact Function.update_self ..

omit [DecidableEq ν] in
/-- An unchanged file goes to a start, which leaves a running core alone. -/
theorem applyCoreProcess_unchanged {writeResult : CoreConfigWriteResult} (hspec : answers.processSpec = none)
    (hstart : answers.start = none) (hunchanged : writeResult.changed = false) (hcore : world.core.isSome = true) :
    applyCoreProcess env answers corePlan writeResult options world =
      (.ok { running := true, message := "running" }, world) := by
  rw [applyCoreProcess, hspec, hunchanged, startProcess, hstart]
  simp only [hcore, if_true, Bool.false_eq_true, if_false]

/-- A file that has the content is left. -/
theorem writeCoreConfig_again {content : CoreConfig ν} {held : Text → Text → Option Text} {first : ControlAnswers}
    (hnothing : NothingChanged held first answers) (hrender : renderCoreConfig env corePlan true = .ok content)
    (hfile : world.configFile corePlan.configPath = some content) :
    ∃ writeResult fingerprintFile, writeResult.changed = false ∧
      writeCoreConfig env answers corePlan world = (.ok writeResult, { world with fingerprintFile }) := by
  have hbytes : writeCoreConfigBytes answers corePlan.configPath content corePlan.inbounds.length world =
      (.ok { path := corePlan.configPath, inboundCount := corePlan.inbounds.length, changed := false }, world) := by
    simp [writeCoreConfigBytes, hnothing.configDir, hnothing.configReadable, hfile]
  simp only [writeCoreConfig, hnothing.certificates, hrender, hbytes, hnothing.writeFingerprint, Bool.false_or]
  generalize (if answers.fingerprintUnreadable = true then none else world.fingerprintFile corePlan.configPath) = previous
  cases previous with
  | none => exact ⟨_, _, rfl, rfl⟩
  | some fingerprint => exact ⟨_, world.fingerprintFile, rfl, rfl⟩

/-- The core's part of a call that finds the plan's content in the file and the core running: it leaves both, whatever
the answers to a reload or a hot apply would be. -/
theorem applyCorePlan_again {content : CoreConfig ν} {held : Text → Text → Option Text} {first : ControlAnswers}
    (hnothing : NothingChanged held first answers) (hstart : options.startCore = true)
    (hrender : renderCoreConfig env corePlan true = .ok content)
    (hfile : world.configFile corePlan.configPath = some content) (hcore : world.core.isSome = true) :
    ∃ writeResult fingerprintFile, writeResult.changed = false ∧ ∀ reload routes config,
      applyCorePlan env { answers with reload, routes, config } corePlan options world =
        (.ok (writeResult, some { running := true, message := "running" }), { world with fingerprintFile }) := by
  obtain ⟨writeResult, fingerprintFile, hunchanged, hwrite⟩ := writeCoreConfig_again hnothing hrender hfile
  refine ⟨writeResult, fingerprintFile, hunchanged, fun reload routes config => ?_⟩
  have hsame : writeCoreConfig env { answers with reload, routes, config } corePlan world =
      (.ok writeResult, { world with fingerprintFile }) := hwrite
  have hprocess : applyCoreProcess env { answers with reload, routes, config } corePlan writeResult options
      { world with fingerprintFile } =
        (.ok { running := true, message := "running" }, { world with fingerprintFile }) :=
    applyCoreProcess_unchanged hnothing.processSpec hnothing.start hunchanged hcore
  simp only [applyCorePlan, hsame, hstart, if_true, hprocess]

/-! ## The listener probe -/

variable {held : Text → Text → Option Text} {first second : ControlAnswers}

omit [DecidableEq ν] in
theorem firstUnavailable_eq (h : answers.bind = held) (inbound : InboundPlan) :
    firstUnavailableListenerError env answers inbound = firstUnavailableListenerError env { bind := held } inbound := by
  rw [firstUnavailableListenerError, firstUnavailableListenerError]
  refine congrArg (List.findSome? · _) (funext fun spec => ?_)
  rw [checkListenerAvailable, checkListenerAvailable, h]

/-- The inbounds that the probe takes out, with the errors. -/
def takenListeners (env : ControlEnv ν Host) (held : Text → Text → Option Text) (corePlan : CorePlan) : List (Text × Text) :=
  corePlan.inbounds.filterMap fun inbound =>
    (firstUnavailableListenerError env { bind := held } inbound).map fun error => (inbound.tag, error)

omit [DecidableEq ν] in
theorem takenListeners_eq (h : answers.bind = held) :
    (corePlan.inbounds.filterMap fun inbound =>
      (firstUnavailableListenerError env answers inbound).map fun error => (inbound.tag, error)) =
        takenListeners env held corePlan := by
  simp only [firstUnavailable_eq h, takenListeners]

omit [DecidableEq ν] in
theorem takenListeners_nil (h : ∀ inbound ∈ corePlan.inbounds, listenerHeld env held inbound = false) :
    takenListeners env held corePlan = [] := by
  refine List.filterMap_eq_nil_iff.2 fun inbound hinbound => ?_
  have hnone := h inbound hinbound
  rw [listenerHeld, Option.isSome_eq_false_iff, Option.isNone_iff_eq_none] at hnone
  rw [hnone]
  rfl

omit [DecidableEq ν] in
theorem runs_iff (error : Option Text) (world : ControlWorld ν Host) :
    (coreStatus error world).toOption.getD false = true ↔ error = none ∧ world.core.isSome = true := by
  cases error with
  | some message => exact iff_of_false nofun nofun
  | none => exact (and_iff_right rfl).symm

/-- What the filter leaves of a plan. -/
def filtered (env : ControlEnv ν Host) (held : Text → Text → Option Text) (corePlan : CorePlan)
    (plan : RuntimeBootstrapPlan) : CorePlan × RuntimeBootstrapPlan :=
  let skippedTags := (takenListeners env held corePlan).map (·.1)
  let failures := (takenListeners env held corePlan).filterMap fun (tag, error) =>
    (plan.nodeInfos.find? (·.tag = tag)).map fun node =>
      { config := (nodeConfigForInfo plan.resolved node.id node.tag).getD { nodeId := node.id }
        error : NodeFailure }
  ({ corePlan with
      inbounds := corePlan.inbounds.filter fun inbound => !skippedTags.contains inbound.tag
      listenTags := corePlan.listenTags.filter fun tag => !skippedTags.contains tag },
    { plan with
      nodeInfos := plan.nodeInfos.filter fun node => !skippedTags.contains node.tag
      nodeFailures := plan.nodeFailures ++ failures })

/-- The filter is to leave the plan as it is: errors are to stop the agent, the core runs, or no listener is held. -/
def LeavesPlan (env : ControlEnv ν Host) (held : Text → Text → Option Text) (answers : ControlAnswers)
    (corePlan : CorePlan) (plan : RuntimeBootstrapPlan) (world : ControlWorld ν Host) : Prop :=
  plan.resolved.continueOnError = false ∨ (answers.filterStatus = none ∧ world.core.isSome = true) ∨
    takenListeners env held corePlan = []

omit [DecidableEq ν] in
theorem filterUnavailable_leaves (hbind : answers.bind = held)
    (hspec : plan.resolved.continueOnError = true → answers.filterSpec = none)
    (h : LeavesPlan env held answers corePlan plan world) :
    filterUnavailableKeliCoreRsListeners env answers corePlan plan world = .ok (corePlan, plan) := by
  unfold filterUnavailableKeliCoreRsListeners
  cases hcontinue : plan.resolved.continueOnError with
  | false => rfl
  | true =>
    rw [hspec hcontinue]
    simp only [takenListeners_eq hbind, Bool.not_true, Bool.false_eq_true, if_false]
    rcases h with h | h | h
    · rw [hcontinue] at h
      cases h
    · rw [if_pos ((runs_iff _ _).2 h)]
    · simp only [h, List.isEmpty_nil, if_true, ite_self]

omit [DecidableEq ν] in
theorem filterUnavailable_takes (hbind : answers.bind = held)
    (hspec : plan.resolved.continueOnError = true → answers.filterSpec = none)
    (h : ¬LeavesPlan env held answers corePlan plan world) :
    filterUnavailableKeliCoreRsListeners env answers corePlan plan world = .ok (filtered env held corePlan plan) := by
  simp only [LeavesPlan, not_or, Bool.not_eq_false] at h
  obtain ⟨hcontinue, hstopped, htaken⟩ := h
  unfold filterUnavailableKeliCoreRsListeners
  rw [hspec hcontinue, hcontinue]
  simp only [takenListeners_eq hbind, Bool.not_true, Bool.false_eq_true, if_false]
  rw [if_neg (fun hruns => hstopped ((runs_iff _ _).1 hruns)), if_neg (by simpa using htaken)]
  rfl

/-! ## The second call -/

variable {printer : Printer}

variable (plan world) in
omit [DecidableEq ν] in
theorem applyPortForward_repairs (henv : env.executor = firewallExecutor printer)
    (hrepair : options.repairPortForward = true) :
    (applyPortForward env plan options world).2 = { world with
        firewall := runRepairs printer [.hysteria plan.nodeInfos, .mieru plan.nodeInfos] world.firewall } ∧
      (applyPortForward env plan options world).1.nodeInfos = plan.nodeInfos ∧
      (applyPortForward env plan options world).1.nodeFailures = plan.nodeFailures := by
  refine ⟨?_, rfl, rfl⟩
  simp only [applyPortForward, hrepair, if_true, henv, runRepairs, List.foldl_cons, List.foldl_nil, RepairOp.repair]

/-- What a second call makes of the plan the first call reported on: nothing changes, but perhaps for the fingerprint. -/
theorem apply_second (hstart : options.startCore = true) (hplan : plan.corePlan ≠ none)
    (hfirst : applyRuntimePlan env first plan options world = (.ok result, after)) (hcore : after.core.isSome = true)
    (hnothing : NothingChanged held first second)
    (hreport : reportPlanFor env first plan options world = .ok reportPlan)
    (hreport' : reportPlanFor env second plan options after = .ok reportPlan) :
    (∃ middle, middle.firewall = world.firewall ∧ after = (applyPortForward env reportPlan options middle).2 ∧
      result.reportPlan = (applyPortForward env reportPlan options middle).1) ∧
    ∃ coreConfig coreProcess fingerprintFile, (∀ config, coreConfig = some config → config.changed = false) ∧
      ∀ reload routes config, applyRuntimePlan env { second with reload, routes, config } plan options after =
        (.ok { coreConfig, coreProcess
               reportPlan := (applyPortForward env reportPlan options { after with fingerprintFile }).1 },
          (applyPortForward env reportPlan options { after with fingerprintFile }).2) := by
  have hreportWith : ∀ reload routes config,
      reportPlanFor env { second with reload, routes, config } plan options after = .ok reportPlan :=
    fun _ _ _ => hreport'
  cases hsome : reportPlan.corePlan with
  | none =>
    rw [apply_without_core hstart hplan hreport hsome] at hfirst
    cases hfirst
    refine ⟨⟨world, rfl, rfl, rfl⟩, none, none, (applyPortForward env reportPlan options world).2.fingerprintFile,
      nofun, fun reload routes config => ?_⟩
    exact apply_without_core hstart hplan (hreportWith reload routes config) hsome
  | some corePlan =>
    rw [apply_with_core hstart hplan hreport hsome] at hfirst
    cases hmiddle : applyCorePlan env first corePlan options world with
    | mk outcome middle =>
      rw [hmiddle] at hfirst
      cases outcome with
      | error message => cases hfirst
      | ok answer =>
        cases hfirst
        obtain ⟨content, hrender, hfile, hsame, -⟩ := applyCorePlan_ok hstart hmiddle
        obtain ⟨writeResult, fingerprintFile, hunchanged, hagain⟩ :=
          applyCorePlan_again hnothing hstart hrender
            (show (applyPortForward env reportPlan options middle).2.configFile corePlan.configPath = some content
              from hfile) hcore
        refine ⟨⟨middle, hsame, rfl, rfl⟩, some writeResult, some { running := true, message := "running" },
          fingerprintFile, ?_, fun reload routes config => ?_⟩
        · rintro _ ⟨⟩
          exact hunchanged
        · rw [apply_with_core hstart hplan (hreportWith reload routes config) hsome, hagain]

/-- A second call that reports on the plan the first reported on does nothing. -/
theorem noOp_of_same_report (henv : env.executor = firewallExecutor printer) (hstart : options.startCore = true)
    (hrepair : options.repairPortForward = true) (hfirewall : HostOk world.firewall) (hplan : plan.corePlan ≠ none)
    (hfirst : applyRuntimePlan env first plan options world = (.ok result, after)) (hcore : after.core.isSome = true)
    (hnothing : NothingChanged held first second)
    (hreport : reportPlanFor env first plan options world = .ok reportPlan)
    (hreport' : reportPlanFor env second plan options after = .ok reportPlan) :
    NoOp env second plan options after result := by
  obtain ⟨⟨middle, hsame, hafter, hresult⟩, coreConfig, coreProcess, fingerprintFile, hunchanged, hagain⟩ :=
    apply_second hstart hplan hfirst hcore hnothing hreport hreport'
  obtain ⟨hworld, hnodes, hfailures⟩ :=
    applyPortForward_repairs reportPlan { after with fingerprintFile } henv hrepair
  obtain ⟨hworldFirst, hnodesFirst, hfailuresFirst⟩ :=
    applyPortForward_repairs reportPlan middle henv hrepair
  have hfirewallAfter : after.firewall =
      runRepairs printer [.hysteria reportPlan.nodeInfos, .mieru reportPlan.nodeInfos] world.firewall := by
    rw [hafter, hworldFirst, hsame]
  have hself := hagain second.reload second.routes second.config
  refine ⟨⟨_, congrArg Prod.fst hself, hunchanged, ?_, ?_⟩, fun reload routes config => ?_, ?_, ?_⟩
  · rw [hresult, hnodesFirst]
    exact hnodes
  · rw [hresult, hfailuresFirst]
    exact hfailures
  · exact (hagain reload routes config).trans hself.symm
  · rw [hself, hworld]
  · rw [hself, hworld, hfirewallAfter]
    exact congrArg Host.issued (repairs_settle printer reportPlan.nodeInfos hfirewall)

/-! ## Whether both calls report on one plan -/

/-- The plan that is applied, once the filter is through. -/
def withCore (filtered : CorePlan × RuntimeBootstrapPlan) : RuntimeBootstrapPlan :=
  { filtered.2 with corePlan := if filtered.1.inbounds.isEmpty then none else some filtered.1 }

omit [DecidableEq ν] in
theorem reportPlanFor_eq (hstart : options.startCore = true) (hplan : plan.corePlan = some corePlan) :
    reportPlanFor env answers plan options world =
      (filterUnavailableKeliCoreRsListeners env answers corePlan plan world).map withCore := by
  simp only [reportPlanFor, hplan, hstart, if_true]
  cases filterUnavailableKeliCoreRsListeners env answers corePlan plan world <;> rfl

omit [DecidableEq ν] in
/-- A filter that went through could tell the process it asks for. -/
theorem filterSpec_of_ok {filtered : CorePlan × RuntimeBootstrapPlan}
    (h : filterUnavailableKeliCoreRsListeners env answers corePlan plan world = .ok filtered)
    (hcontinue : plan.resolved.continueOnError = true) : answers.filterSpec = none := by
  unfold filterUnavailableKeliCoreRsListeners at h
  rw [hcontinue] at h
  cases hspec : answers.filterSpec with
  | none => rfl
  | some message =>
    rw [hspec] at h
    cases h

/-- A call that leaves the core running had a core plan, and reported on some plan. -/
theorem report_of_ok (hstart : options.startCore = true)
    (h : applyRuntimePlan env answers plan options world = (.ok result, after)) (hcore : after.core.isSome = true) :
    ∃ corePlan filtered, plan.corePlan = some corePlan ∧
      filterUnavailableKeliCoreRsListeners env answers corePlan plan world = .ok filtered ∧
      reportPlanFor env answers plan options world = .ok (withCore filtered) := by
  cases hplan : plan.corePlan with
  | none =>
    rcases stopUnmanaged_cases answers plan world with ⟨-, ⟨message, hstop⟩ | hstop⟩ | ⟨hsome, -⟩
    · simp only [applyRuntimePlan, hstart, if_true, hstop] at h
      cases h
    · have hreport : reportPlanFor env answers plan options { world with core := none } = .ok plan := by
        simp only [reportPlanFor, hplan]
      simp only [applyRuntimePlan, hstart, if_true, hstop, hreport, hplan] at h
      cases h
      cases hcore
    · exact absurd hplan hsome
  | some corePlan =>
    have hreport : reportPlanFor env answers plan options world = _ := reportPlanFor_eq hstart hplan
    cases hfilter : filterUnavailableKeliCoreRsListeners env answers corePlan plan world with
    | ok filtered =>
      rw [hfilter] at hreport
      exact ⟨corePlan, filtered, rfl, hfilter, hreport⟩
    | error message =>
      rw [hfilter] at hreport
      rcases stopUnmanaged_cases answers plan world with ⟨hnone, -⟩ | ⟨-, hstop⟩
      · rw [hplan] at hnone
        cases hnone
      · simp only [applyRuntimePlan, hstart, if_true, hstop, hreport] at h
        cases h

omit [DecidableEq ν] in
theorem takes_iff (hplan : plan.corePlan = some corePlan) : TakesListener env held answers plan world ↔
    ¬LeavesPlan env held answers corePlan plan world ∧ answers.filterStatus = none := by
  simp only [LeavesPlan, not_or, Bool.not_eq_false, not_and, Bool.not_eq_true]
  constructor
  · rintro ⟨hcontinue, hstatus, hstopped, planned, hplanned, inbound, hinbound, hheld⟩
    rw [hplan] at hplanned
    cases hplanned
    refine ⟨⟨hcontinue, fun _ => hstopped, fun hnil => ?_⟩, hstatus⟩
    have hnone := List.filterMap_eq_nil_iff.1 hnil inbound hinbound
    rw [Option.map_eq_none_iff] at hnone
    rw [listenerHeld, hnone] at hheld
    cases hheld
  · rintro ⟨⟨hcontinue, hstopped, htaken⟩, hstatus⟩
    refine ⟨hcontinue, hstatus, hstopped hstatus, corePlan, hplan, ?_⟩
    by_contra hnone
    refine htaken (takenListeners_nil fun inbound hinbound => ?_)
    by_contra hheld
    exact hnone ⟨inbound, hinbound, by simpa using hheld⟩

theorem noOp_of_not_taken (henv : env.executor = firewallExecutor printer) (hstart : options.startCore = true)
    (hrepair : options.repairPortForward = true) (hfirewall : HostOk world.firewall)
    (hfirst : applyRuntimePlan env first plan options world = (.ok result, after)) (hcore : after.core.isSome = true)
    (hnothing : NothingChanged held first second) (h : ¬TakesListener env held first plan world) :
    NoOp env second plan options after result := by
  obtain ⟨corePlan, chosen, hplan, hfilter, hreport⟩ := report_of_ok hstart hfirst hcore
  refine noOp_of_same_report henv hstart hrepair hfirewall (by rw [hplan]; exact Option.some_ne_none _) hfirst hcore
    hnothing hreport ?_
  rw [reportPlanFor_eq hstart hplan]
  refine congrArg (Except.map withCore) (Eq.trans ?_ hfilter)
  have hspec := filterSpec_of_ok hfilter
  by_cases hleaves : LeavesPlan env held first corePlan plan world
  · have hleavesAgain : LeavesPlan env held second corePlan plan after := by
      rcases hleaves with hstops | ⟨hstatus, -⟩ | hnone
      · exact .inl hstops
      · exact .inr (.inl ⟨hnothing.filterStatus.trans hstatus, hcore⟩)
      · exact .inr (.inr hnone)
    rw [filterUnavailable_leaves hnothing.firstBind hspec hleaves,
      filterUnavailable_leaves hnothing.bind (fun _ => hnothing.filterSpec) hleavesAgain]
  · have hstatus : first.filterStatus ≠ none := fun hstatus => h ((takes_iff hplan).2 ⟨hleaves, hstatus⟩)
    have hleavesAgain : ¬LeavesPlan env held second corePlan plan after := by
      rintro (hstops | ⟨hreadable, -⟩ | hnone)
      · exact hleaves (.inl hstops)
      · exact hstatus (hnothing.filterStatus.symm.trans hreadable)
      · exact hleaves (.inr (.inr hnone))
    rw [filterUnavailable_takes hnothing.firstBind hspec hleaves,
      filterUnavailable_takes hnothing.bind (fun _ => hnothing.filterSpec) hleavesAgain]

omit [DecidableEq ν] in
/-- What the filter leaves has fewer inbounds. -/
theorem filtered_fewer {inbound : InboundPlan} (hinbound : inbound ∈ corePlan.inbounds)
    (hheld : listenerHeld env held inbound = true) :
    (filtered env held corePlan plan).1.inbounds.length < corePlan.inbounds.length := by
  refine List.length_filter_lt_length_iff_exists.2 ⟨inbound, hinbound, ?_⟩
  obtain ⟨error, herror⟩ := Option.isSome_iff_exists.1 hheld
  have hmem : (inbound.tag, error) ∈ takenListeners env held corePlan :=
    List.mem_filterMap.2 ⟨inbound, hinbound, by rw [herror]; rfl⟩
  simpa using ⟨error, hmem⟩

/-- What a call writes for the plan it reports on, if that has an inbound. -/
theorem written_of_ok {chosen : CorePlan × RuntimeBootstrapPlan} (hstart : options.startCore = true)
    (hplan : plan.corePlan ≠ none) (hreport : reportPlanFor env answers plan options world = .ok (withCore chosen))
    (h : applyRuntimePlan env answers plan options world = (.ok result, after)) :
    (chosen.1.inbounds = [] ∧ after.core = world.core) ∨
      ∃ content config, renderCoreConfig env chosen.1 true = .ok content ∧
        after.configFile chosen.1.configPath = some content ∧ result.coreConfig = some config ∧
        (config.changed = false → world.configFile chosen.1.configPath = some content) := by
  cases hempty : chosen.1.inbounds.isEmpty with
  | true =>
    have hnone : (withCore chosen).corePlan = none := by
      rw [withCore, hempty]
      rfl
    rw [apply_without_core hstart hplan hreport hnone] at h
    cases h
    exact .inl ⟨List.isEmpty_iff.1 hempty, rfl⟩
  | false =>
    have hsome : (withCore chosen).corePlan = some chosen.1 := by
      rw [withCore, hempty]
      rfl
    rw [apply_with_core hstart hplan hreport hsome] at h
    cases hmiddle : applyCorePlan env answers chosen.1 options world with
    | mk outcome middle =>
      rw [hmiddle] at h
      cases outcome with
      | error message => cases h
      | ok answer =>
        cases h
        obtain ⟨content, hrender, hfile, -, hsame⟩ := applyCorePlan_ok hstart hmiddle
        exact .inr ⟨content, answer.1, hrender, hfile, rfl, hsame⟩

omit [DecidableEq ν] in
theorem length_of_render {content : CoreConfig ν} (h : renderCoreConfig env corePlan true = .ok content) :
    content.inbounds.length = corePlan.inbounds.length := by
  rw [(renders_of_ok h).inbounds, renderedInbounds, List.length_map]

theorem not_noOp_of_taken (hstart : options.startCore = true)
    (hfirst : applyRuntimePlan env first plan options world = (.ok result, after)) (hcore : after.core.isSome = true)
    (hnothing : NothingChanged held first second) (h : TakesListener env held first plan world) :
    ¬NoOp env second plan options after result := by
  intro hnoop
  obtain ⟨corePlan, chosen, hplan, hfilter, hreport⟩ := report_of_ok hstart hfirst hcore
  have hplanned : plan.corePlan ≠ none := by
    rw [hplan]
    exact Option.some_ne_none _
  have hleaves := ((takes_iff hplan).1 h).1
  obtain ⟨-, hstatus, hstopped, planned, hplanned', inbound, hinbound, hheld⟩ := h
  rw [hplan] at hplanned'
  cases hplanned'
  rw [filterUnavailable_takes hnothing.firstBind (filterSpec_of_ok hfilter) hleaves] at hfilter
  cases hfilter
  -- the second call finds the core running and goes on with the whole plan
  have hreportAgain : reportPlanFor env second plan options after = .ok (withCore (corePlan, plan)) := by
    rw [reportPlanFor_eq hstart hplan, filterUnavailable_leaves hnothing.bind (fun _ => hnothing.filterSpec)
      (.inr (.inl ⟨hnothing.filterStatus.trans hstatus, hcore⟩))]
    rfl
  obtain ⟨secondResult, hsecond, hunchanged, -⟩ := hnoop.result
  rcases written_of_ok hstart hplanned hreport hfirst with ⟨-, hkept⟩ | ⟨content, -, hrender, hfile, -⟩
  · rw [hkept, hstopped] at hcore
    cases hcore
  rcases written_of_ok hstart hplanned hreportAgain (Prod.ext hsecond rfl) with
    ⟨hempty, -⟩ | ⟨contentAgain, config, hrenderAgain, -, hconfig, hsame⟩
  · rw [hempty] at hinbound
    cases hinbound
  have hcontents : content = contentAgain :=
    Option.some_inj.1 (hfile.symm.trans (hsame (hunchanged config hconfig)))
  have hfewer : (filtered env held corePlan plan).1.inbounds.length < corePlan.inbounds.length :=
    filtered_fewer hinbound hheld
  rw [← length_of_render hrender, ← length_of_render hrenderAgain, hcontents] at hfewer
  exact absurd hfewer (Nat.lt_irrefl _)

/-- **Applying a plan again**, for every plan and every state of file, core and firewall without rules that no repair can
delete: a second call with nothing changed is a no-op exactly if the first did not find the core stopped and take an
inbound out for a held listener. -/
theorem apply_again_iff (henv : env.executor = firewallExecutor printer) (hstart : options.startCore = true)
    (hrepair : options.repairPortForward = true) (hfirewall : HostOk world.firewall)
    (hfirst : applyRuntimePlan env first plan options world = (.ok result, after)) (hcore : after.core.isSome = true)
    (hnothing : NothingChanged held first second) :
    NoOp env second plan options after result ↔ ¬TakesListener env held first plan world :=
  ⟨fun hnoop htakes => not_noOp_of_taken hstart hfirst hcore hnothing htakes hnoop,
    noOp_of_not_taken henv hstart hrepair hfirewall hfirst hcore hnothing⟩

end

/-- A machine with both firewall tools and nothing in their tables. -/
def firewallEnv : ControlEnv (List (Text × Text × Nat)) Host := { listenEnv with executor := firewallExecutor plainPrinter }

def freshWorld : ControlWorld (List (Text × Text × Nat)) Host := { firewall := hostOf {} }

theorem hostOk_fresh : HostOk freshWorld.firewall where
  tables _ _ := ⟨nofun, nofun⟩
  hysteria _ _ := ⟨nofun, nofun⟩
  mieru _ _ := ⟨nofun, nofun⟩

/-- Two inbounds, where errors do not stop the agent. -/
def twoPortsPlan : RuntimeBootstrapPlan where
  resolved := { continueOnError := true }
  nodeInfos := [{ id := 1, protocol := .socks, tag := "first", common := { serverPort := 1080 } },
    { id := 2, protocol := .socks, tag := "second", common := { serverPort := 1081 } }]
  nodeFailures := []
  corePlan := some {
    configPath := "/etc/keli/config.json"
    listenTags := ["first", "second"]
    inbounds := [
      { (default : InboundPlan) with tag := "first", protocol := "socks", listen := "0.0.0.0", port := 1080 },
      { (default : InboundPlan) with tag := "second", protocol := "socks", listen := "0.0.0.0", port := 1081 }] }
  hy2PortForward := newHysteriaPortForwardStatus [] [] false
  mieruPortForward := newHysteriaPortForwardStatus [] [] false
  subscriptionProxyOnly := false

/-- Another program has a port. -/
def heldPort (port : Text) (_network addr : Text) : Option Text :=
  if port.isSuffixOf addr then some "address already in use" else none

theorem nothingChanged_same (held : Text → Text → Option Text) : NothingChanged held { bind := held } { bind := held } :=
  ⟨rfl, rfl, rfl, rfl, rfl, rfl, rfl, rfl, rfl, rfl⟩

/-- A call for the two inbounds, from scratch. -/
def firstCall (port : Text) : Except Text RuntimeApplyResult × ControlWorld (List (Text × Text × Nat)) Host :=
  applyRuntimePlan firewallEnv { bind := heldPort port } twoPortsPlan {} freshWorld

/-- Somebody has a port that the plan does not need. -/
theorem apply_again_iff_free : ∃ result, (firstCall "2080").1 = .ok result ∧ (firstCall "2080").2.core.isSome = true ∧
    NoOp firewallEnv { bind := heldPort "2080" } twoPortsPlan {} (firstCall "2080").2 result := by
  obtain ⟨result, hresult⟩ := exists_ok (show (firstCall "2080").1.toOption.isSome = true by decide +kernel)
  have hcore : (firstCall "2080").2.core.isSome = true := by decide +kernel
  refine ⟨result, hresult, hcore, ?_⟩
  refine (apply_again_iff rfl rfl rfl hostOk_fresh (Prod.ext hresult rfl) hcore (nothingChanged_same _)).2 ?_
  rintro ⟨-, -, -, corePlan, ⟨⟩, hheld⟩
  revert hheld
  decide +kernel

/-- Somebody has the second port: the first call applies the plan without it, the second one with it. -/
theorem held_port_forgotten : ∃ result, (firstCall "1081").1 = .ok result ∧ (firstCall "1081").2.core.isSome = true ∧
    NothingChanged (heldPort "1081") { bind := heldPort "1081" } { bind := heldPort "1081" } ∧
    HostOk freshWorld.firewall ∧
    ¬NoOp firewallEnv { bind := heldPort "1081" } twoPortsPlan {} (firstCall "1081").2 result := by
  obtain ⟨result, hresult⟩ := exists_ok (show (firstCall "1081").1.toOption.isSome = true by decide +kernel)
  have hcore : (firstCall "1081").2.core.isSome = true := by decide +kernel
  refine ⟨result, hresult, hcore, nothingChanged_same _, hostOk_fresh, ?_⟩
  refine not_noOp_of_taken rfl (Prod.ext hresult rfl) hcore (nothingChanged_same _) ⟨rfl, rfl, rfl, _, rfl, ?_⟩
  decide +kernel

end KeliNode
