import KeliNode.Control.Apply
import KeliNode.Lib.Run

/-!
# What an apply does to the core

The agent takes the file on disk for the record of what the core runs.  `CoreStep` and `ApplyStep` say once
what a call can do to the core and to the file; from them, a core that runs what its file says (users apart)
goes on doing so through every call that does not fall out between the file and the core
(`CallKeepsRecord`), and every call that returns `Ok` with a core plan leaves the core on that plan
(`config_converges`).
-/

namespace KeliNode

open Lib

section

variable {ν σ : Type}

/-! ## The steps -/

/-- What `applyCoreProcess` can do once the file holds `content`: whether it returns `Ok`, and the core after
it. -/
inductive CoreStep (answers : ControlAnswers) (options : RuntimeControlOptions) (content bare : CoreConfig ν)
    (changed : Bool) (core : Option (RunningCore ν)) : Bool → Option (RunningCore ν) → Prop
  | noSpec (h : answers.processSpec ≠ none) : CoreStep answers options content bare changed core false core
  | noStart (hsame : changed = false) : CoreStep answers options content bare changed core false core
  | rejected {reason : Text} (h : answers.config = .rejected reason) :
      CoreStep answers options content bare changed core false core
  | notStopped {message : Text} (h : answers.reload = .stopFailed message) :
      CoreStep answers options content bare changed core false core
  | notStarted : CoreStep answers options content bare changed core false none
  | kept (hchanged : changed = true) (hdelta : options.keliCoreRsUserDeltaApplied = true)
      (hstatus : answers.keptStatus = none) (hcore : core.isSome = true) :
      CoreStep answers options content bare changed core true core
  | running (hsame : changed = false) (hcore : core.isSome = true) :
      CoreStep answers options content bare changed core true core
  | loaded (h : changed = true ∨ core = none) : CoreStep answers options content bare changed core true
      (some (applyConfig answers.freshRevision content))
  | routed {before : RunningCore ν} {decision : Text} (hchanged : changed = true) (hcore : core = some before)
      (hanswer : answers.routes = .applied decision) : CoreStep answers options content bare changed core true
        (some (applyRoutes answers.freshRevision bare before))

/-- What an attempt over the control socket can do: change nothing (and go on, ask for a reload or be
rejected), or install. -/
inductive HotStep (answers : ControlAnswers) (options : RuntimeControlOptions) (world : ControlWorld ν σ)
    (content bare : CoreConfig ν) :
    Except HotApplyError (Option ProcessStatus) → ControlWorld ν σ → Prop
  | none : HotStep answers options world content bare (.ok none) world
  | fallback {error : HotApplyError} (h : error.fallbackReload = true) :
      HotStep answers options world content bare (.error error) world
  | rejected {error : HotApplyError} {reason : Text} (h : error.fallbackReload = false)
      (hanswer : answers.config = .rejected reason) :
      HotStep answers options world content bare (.error error) world
  | installed {status : ProcessStatus} {core : RunningCore ν}
      (h : CoreStep answers options content bare true world.core true (some core)) :
      HotStep answers options world content bare (.ok (some status)) { world with core := some core }

/-- The two configurations a plan renders to: with its users and without. -/
structure Renders (env : ControlEnv ν σ) (plan : CorePlan) (content bare : CoreConfig ν) : Prop where
  nonUser : env.renderNonUser plan = .ok content.nonUser
  bareNonUser : bare.nonUser = content.nonUser
  inbounds : content.inbounds = renderedInbounds plan true
  bareInbounds : bare.inbounds = renderedInbounds plan false

section

variable {env : ControlEnv ν σ} {plan : CorePlan} {content bare : CoreConfig ν}

theorem renders_of_ok (h : renderCoreConfig env plan true = .ok content) :
    Renders env plan content { content with inbounds := renderedInbounds plan false } := by
  cases hrender : env.renderNonUser plan with
  | error message => simp [renderCoreConfig, hrender, Except.map] at h
  | ok nonUser =>
    simp only [renderCoreConfig, hrender, Except.map, Except.ok.injEq] at h
    subst h
    exact ⟨hrender, rfl, rfl, rfl⟩

theorem Renders.withUsers (h : Renders env plan content bare) : renderCoreConfig env plan true = .ok content := by
  simp only [renderCoreConfig, h.nonUser, Except.map, ← h.inbounds]

theorem Renders.withoutUsers (h : Renders env plan content bare) : renderCoreConfig env plan false = .ok bare := by
  simp only [renderCoreConfig, h.nonUser, Except.map, ← h.bareInbounds, ← h.bareNonUser]

end

/-- Nothing but the core differs. -/
structure CoreOnly (before after : ControlWorld ν σ) : Prop where
  configFile : after.configFile = before.configFile
  fingerprintFile : after.fingerprintFile = before.fingerprintFile
  firewall : after.firewall = before.firewall

theorem CoreOnly.refl (world : ControlWorld ν σ) : CoreOnly world world := ⟨rfl, rfl, rfl⟩

theorem isSome_of_coreStatus {error : Option Text} {world : ControlWorld ν σ}
    (h : coreStatus error world = .ok true) : error = none ∧ world.core.isSome = true := by
  unfold coreStatus at h
  cases error with
  | some message => cases h
  | none => exact ⟨rfl, Except.ok.inj h⟩

section

variable {env : ControlEnv ν σ} (answers : ControlAnswers) (options : RuntimeControlOptions) {plan : CorePlan}
  {content bare : CoreConfig ν} (world : ControlWorld ν σ)

theorem reloadProcess_cases (hfile : world.configFile plan.configPath = some content) :
    CoreOnly world (reloadProcess answers plan.configPath world).2 ∧
      CoreStep answers options content bare true world.core (reloadProcess answers plan.configPath world).1.isOk
        (reloadProcess answers plan.configPath world).2.core := by
  unfold reloadProcess
  cases hreload : answers.reload with
  | stopFailed message => exact ⟨CoreOnly.refl _, .notStopped hreload⟩
  | startFailed message => exact ⟨⟨rfl, rfl, rfl⟩, .notStarted⟩
  | reloaded =>
    refine ⟨⟨rfl, rfl, rfl⟩, ?_⟩
    simp only [ControlWorld.loadCore, hfile, Option.map_some]
    exact .loaded (.inl rfl)

theorem startProcess_cases (hfile : world.configFile plan.configPath = some content) :
    CoreOnly world (startProcess answers plan.configPath world).2 ∧
      CoreStep answers options content bare false world.core (startProcess answers plan.configPath world).1.isOk
        (startProcess answers plan.configPath world).2.core := by
  unfold startProcess
  cases answers.start with
  | some message => exact ⟨CoreOnly.refl _, .noStart rfl⟩
  | none =>
    by_cases hcore : world.core.isSome = true
    · simp only [hcore, if_true]
      exact ⟨CoreOnly.refl _, .running rfl hcore⟩
    · simp only [hcore]
      refine ⟨⟨rfl, rfl, rfl⟩, ?_⟩
      simp only [ControlWorld.loadCore, hfile, Option.map_some]
      exact .loaded (.inr (by simpa using hcore))

theorem hotApplyConfig_cases (hrenders : Renders env plan content bare) :
    HotStep answers options world content bare (hotApplyConfig env answers plan world).1
      (hotApplyConfig env answers plan world).2 := by
  simp only [hotApplyConfig, hrenders.withUsers]
  cases hanswer : answers.config with
  | applied decision => exact .installed (.loaded (.inl rfl))
  | rejected reason => exact .rejected rfl hanswer
  | unexpected response => exact .fallback rfl
  | failed message => exact .fallback rfl

theorem hotApplyRoutes_cases (hrenders : Renders env plan content bare)
    (hcore : world.core.isSome = true) :
    HotStep answers options world content bare (hotApplyRoutes env answers plan world).1
      (hotApplyRoutes env answers plan world).2 := by
  simp only [hotApplyRoutes, hrenders.withoutUsers]
  cases hanswer : answers.routes with
  | applied decision =>
    obtain ⟨before, hbefore⟩ := Option.isSome_iff_exists.1 hcore
    simp only [hbefore, Option.map_some]
    exact .installed (.routed rfl hbefore hanswer)
  | rejected message => exact .none
  | failed message => exact .none
  | unexpected response => exact .fallback rfl

theorem tryHotApply_cases (hrenders : Renders env plan content bare) (routeConfigChanged : Bool) :
    HotStep answers options world content bare
      (tryHotApplyKeliCoreRsConfig env answers plan routeConfigChanged world).1
      (tryHotApplyKeliCoreRsConfig env answers plan routeConfigChanged world).2 := by
  unfold tryHotApplyKeliCoreRsConfig
  cases hstatus : coreStatus answers.hotStatus world with
  | error message => exact .fallback rfl
  | ok running =>
    cases running with
    | false => exact .none
    | true =>
      cases answers.controlClient with
      | some message => exact .fallback rfl
      | none =>
        cases routeConfigChanged with
        | false => exact hotApplyConfig_cases answers options world hrenders
        | true =>
          have hroutes := hotApplyRoutes_cases answers options world hrenders
            (isSome_of_coreStatus hstatus).2
          simp only [if_true]
          cases hrun : hotApplyRoutes env answers plan world with
          | mk outcome after =>
            rw [hrun] at hroutes
            cases hroutes with
            | none => exact hotApplyConfig_cases answers options after hrenders
            | fallback h => exact .fallback h
            | rejected h hanswer => exact .rejected h hanswer
            | installed h => exact .installed h

theorem hotApplyOrReload_cases (hrenders : Renders env plan content bare)
    (hfile : world.configFile plan.configPath = some content) (routeConfigChanged : Bool) :
    CoreOnly world (hotApplyOrReload env answers plan options routeConfigChanged world).2 ∧
      CoreStep answers options content bare true world.core
        (hotApplyOrReload env answers plan options routeConfigChanged world).1.isOk
        (hotApplyOrReload env answers plan options routeConfigChanged world).2.core := by
  have hreload := @reloadProcess_cases ν σ answers options plan content bare world hfile
  unfold hotApplyOrReload
  cases options.hotApplyKeliCoreRs with
  | false => exact hreload
  | true =>
    have htry := tryHotApply_cases answers options world
      hrenders routeConfigChanged
    simp only [if_true]
    cases hrun : tryHotApplyKeliCoreRsConfig env answers plan routeConfigChanged world with
    | mk outcome after =>
      rw [hrun] at htry
      cases htry with
      | none => exact hreload
      | fallback h =>
        simp only [h, if_true]
        cases hagain : reloadProcess answers plan.configPath after with
        | mk answer reloaded =>
          rw [hagain] at hreload
          cases answer <;> exact hreload
      | rejected h hanswer =>
        simp only [h]
        exact ⟨CoreOnly.refl _, .rejected hanswer⟩
      | installed h => exact ⟨⟨rfl, rfl, rfl⟩, h⟩

theorem applyCoreProcess_cases (hrenders : Renders env plan content bare)
    (hfile : world.configFile plan.configPath = some content) (writeResult : CoreConfigWriteResult) :
    CoreOnly world (applyCoreProcess env answers plan writeResult options world).2 ∧
      CoreStep answers options content bare writeResult.changed world.core
        (applyCoreProcess env answers plan writeResult options world).1.isOk
        (applyCoreProcess env answers plan writeResult options world).2.core := by
  unfold applyCoreProcess
  cases hspec : answers.processSpec with
  | some message => exact ⟨CoreOnly.refl _, .noSpec (by simp [hspec])⟩
  | none =>
    cases hchanged : writeResult.changed with
    | false => exact startProcess_cases answers options world hfile
    | true =>
      simp only [if_true]
      by_cases hkept : (options.keliCoreRsUserDeltaApplied &&
          (coreStatus answers.keptStatus world).toOption.getD false) = true
      · rw [if_pos hkept]
        simp only [Bool.and_eq_true] at hkept
        have hstatus : coreStatus answers.keptStatus world = .ok true := by
          cases h : coreStatus answers.keptStatus world with
          | error message => simp [h, Except.toOption] at hkept
          | ok running => simpa [h, Except.toOption] using hkept.2
        obtain ⟨hnone, hcore⟩ := isSome_of_coreStatus hstatus
        exact ⟨CoreOnly.refl _, .kept rfl hkept.1 hnone hcore⟩
      · rw [if_neg hkept]
        exact hotApplyOrReload_cases answers options world hrenders hfile _

end

theorem stopUnmanaged_cases (answers : ControlAnswers) (plan : RuntimeBootstrapPlan) (world : ControlWorld ν σ) :
    (plan.corePlan = none ∧ ((∃ message, stopUnmanagedCoreProcesses answers plan world = (.error message, world)) ∨
        stopUnmanagedCoreProcesses answers plan world = (.ok (), { world with core := none }))) ∨
      (plan.corePlan ≠ none ∧ stopUnmanagedCoreProcesses answers plan world = (.ok (), world)) := by
  unfold stopUnmanagedCoreProcesses
  cases plan.corePlan with
  | some corePlan => exact .inr ⟨by simp, rfl⟩
  | none =>
    cases answers.stop with
    | some message => exact .inl ⟨rfl, .inl ⟨message, rfl⟩⟩
    | none => exact .inl ⟨rfl, .inr rfl⟩

variable [DecidableEq ν]

/-- What `writeCoreConfig` can do: fail with the file as it was, fail after the file was replaced, or leave the
content in the file. -/
inductive WriteStep (env : ControlEnv ν σ) (answers : ControlAnswers) (plan : CorePlan) (world : ControlWorld ν σ) :
    Except Text CoreConfigWriteResult → ControlWorld ν σ → Prop
  | refused {message : Text} : WriteStep env answers plan world (.error message) world
  | unrecorded {content : CoreConfig ν} {message : Text} (hrender : renderCoreConfig env plan true = .ok content)
      (h : answers.writeFingerprint ≠ none) : WriteStep env answers plan world (.error message)
        { world with configFile := Function.update world.configFile plan.configPath (some content) }
  | written {content : CoreConfig ν} {result : CoreConfigWriteResult} {fingerprintFile : Text → Option Text}
      (hrender : renderCoreConfig env plan true = .ok content)
      (hsame : result.changed = false → world.configFile plan.configPath = some content)
      (hchanged : result.changed = true → answers.configUnreadable = true ∨
        world.configFile plan.configPath ≠ some content) :
      WriteStep env answers plan world (.ok result)
        { world with
          configFile := Function.update world.configFile plan.configPath (some content)
          fingerprintFile }

theorem writeCoreConfigBytes_cases (answers : ControlAnswers) (path : Text) (content : CoreConfig ν)
    (inboundCount : Nat) (world : ControlWorld ν σ) :
    (∃ message, writeCoreConfigBytes answers path content inboundCount world = (.error message, world)) ∨
      ∃ result, writeCoreConfigBytes answers path content inboundCount world =
          (.ok result, { world with configFile := Function.update world.configFile path (some content) }) ∧
        (result.changed = false → world.configFile path = some content) ∧
        (result.changed = true → answers.configUnreadable = true ∨ world.configFile path ≠ some content) := by
  unfold writeCoreConfigBytes
  cases answers.configDir with
  | some message => exact .inl ⟨message, rfl⟩
  | none =>
    by_cases hsame : (!answers.configUnreadable && world.configFile path = some content) = true
    · simp only [hsame, if_true]
      have hfile : world.configFile path = some content := by
        simpa using (Bool.and_eq_true_iff.1 hsame).2
      refine .inr ⟨{ path, inboundCount, changed := false }, ?_, fun _ => hfile, fun h => by cases h⟩
      rw [← hfile, Function.update_eq_self]
    · simp only [hsame]
      cases answers.tempConfig.or answers.replaceConfig with
      | some message => exact .inl ⟨message, rfl⟩
      | none =>
        refine .inr ⟨_, rfl, fun h => (by cases h), fun _ => ?_⟩
        cases hunreadable : answers.configUnreadable with
        | true => exact .inl rfl
        | false => exact .inr fun hfile => hsame (by simp [hunreadable, hfile])

theorem writeCoreConfig_cases (env : ControlEnv ν σ) (answers : ControlAnswers) (plan : CorePlan)
    (world : ControlWorld ν σ) :
    WriteStep env answers plan world (writeCoreConfig env answers plan world).1
      (writeCoreConfig env answers plan world).2 := by
  unfold writeCoreConfig
  cases answers.certificates with
  | some message => exact .refused
  | none =>
    cases hrender : renderCoreConfig env plan true with
    | error message => exact .refused
    | ok content =>
      simp only
      generalize (if answers.fingerprintUnreadable = true then none else world.fingerprintFile plan.configPath) =
        previous
      rcases writeCoreConfigBytes_cases answers plan.configPath content plan.inbounds.length world with
        ⟨message, hbytes⟩ | ⟨result, hbytes, hsame, hchanged⟩
      · simp only [hbytes]
        exact .refused
      · simp only [hbytes]
        by_cases hrecord : (result.changed || previous.isNone) = true
        · simp only [hrecord, if_true]
          cases hfingerprint : answers.writeFingerprint with
          | some message => exact .unrecorded hrender (by rw [hfingerprint]; exact Option.some_ne_none message)
          | none => exact .written hrender hsame hchanged
        · simp only [hrecord]
          exact .written hrender hsame hchanged

/-- What a call with `start_core` can do to the core and the configuration files. -/
inductive ApplyStep (env : ControlEnv ν σ) (answers : ControlAnswers) (plan : RuntimeBootstrapPlan)
    (options : RuntimeControlOptions) (world : ControlWorld ν σ) :
    Except Text RuntimeApplyResult → Option (RunningCore ν) → (Text → Option (CoreConfig ν)) → Prop
  | refused {message : Text} : ApplyStep env answers plan options world (.error message) world.core world.configFile
  | stopped {result : RuntimeApplyResult} (hplan : plan.corePlan = none) (hresult : result.reportPlan.corePlan = none) :
      ApplyStep env answers plan options world (.ok result) none world.configFile
  | noInbounds {result : RuntimeApplyResult} {reportPlan : RuntimeBootstrapPlan} (hplan : plan.corePlan ≠ none)
      (hreport : reportPlanFor env answers plan options world = .ok reportPlan) (hnone : reportPlan.corePlan = none)
      (hresult : result.reportPlan.corePlan = none) :
      ApplyStep env answers plan options world (.ok result) world.core world.configFile
  | unrecorded {reportPlan : RuntimeBootstrapPlan} {corePlan : CorePlan} {content bare : CoreConfig ν} {message : Text}
      (hreport : reportPlanFor env answers plan options world = .ok reportPlan)
      (hplan : reportPlan.corePlan = some corePlan) (hrenders : Renders env corePlan content bare)
      (h : answers.writeFingerprint ≠ none) :
      ApplyStep env answers plan options world (.error message) world.core
        (Function.update world.configFile corePlan.configPath (some content))
  | processed {reportPlan : RuntimeBootstrapPlan} {corePlan : CorePlan} {content bare : CoreConfig ν} {changed : Bool}
      {outcome : Except Text RuntimeApplyResult} {core : Option (RunningCore ν)}
      (hreport : reportPlanFor env answers plan options world = .ok reportPlan)
      (hplan : reportPlan.corePlan = some corePlan) (hrenders : Renders env corePlan content bare)
      (hsame : changed = false → world.configFile corePlan.configPath = some content)
      (hchanged : changed = true → answers.configUnreadable = true ∨
        world.configFile corePlan.configPath ≠ some content)
      (hstep : CoreStep answers options content bare changed world.core outcome.isOk core)
      (hresult : ∀ result, outcome = .ok result → result.reportPlan.corePlan = some corePlan) :
      ApplyStep env answers plan options world outcome core
        (Function.update world.configFile corePlan.configPath (some content))

/-- **One call**, in the four or five things it can do. -/
theorem applyRuntimePlan_cases (env : ControlEnv ν σ) (answers : ControlAnswers) (plan : RuntimeBootstrapPlan)
    {options : RuntimeControlOptions} (hstart : options.startCore = true) (world : ControlWorld ν σ) :
    ApplyStep env answers plan options world (applyRuntimePlan env answers plan options world).1
      (applyRuntimePlan env answers plan options world).2.core
      (applyRuntimePlan env answers plan options world).2.configFile := by
  unfold applyRuntimePlan
  simp only [hstart, if_true]
  rcases stopUnmanaged_cases answers plan world with ⟨hplan, ⟨message, hstop⟩ | hstop⟩ | ⟨hplan, hstop⟩
  · simp only [hstop]
    exact .refused
  · simp only [hstop]
    have hreport : reportPlanFor env answers plan options { world with core := none } = .ok plan := by
      simp only [reportPlanFor, hplan]
    simp only [hreport, hplan]
    exact .stopped hplan hplan
  · simp only [hstop]
    cases hreport : reportPlanFor env answers plan options world with
    | error message => exact .refused
    | ok reportPlan =>
      simp only
      cases hcore : reportPlan.corePlan with
      | none => exact .noInbounds hplan hreport hcore hcore
      | some corePlan =>
        simp only [applyCorePlan, hstart, if_true]
        have hwrite := writeCoreConfig_cases env answers corePlan world
        cases hwritten : writeCoreConfig env answers corePlan world with
        | mk outcome written =>
          rw [hwritten] at hwrite
          cases hwrite with
          | refused => exact .refused
          | unrecorded hrender h => exact .unrecorded hreport hcore (renders_of_ok hrender) h
          | @written content result fingerprintFile hrender hsame hchanged =>
            obtain ⟨honly, hstep⟩ := applyCoreProcess_cases answers options
              { world with
                configFile := Function.update world.configFile corePlan.configPath (some content)
                fingerprintFile } (renders_of_ok hrender) (Function.update_self ..) result
            simp only
            cases hprocess : applyCoreProcess env answers corePlan result options _ with
            | mk answer after =>
              rw [hprocess] at honly hstep
              have hfile : after.configFile = _ := honly.configFile
              cases answer with
              | error message =>
                rw [hfile]
                exact .processed hreport hcore (renders_of_ok hrender) hsame hchanged hstep (fun _ h => by cases h)
              | ok status =>
                simp only [applyPortForward, hfile]
                exact .processed hreport hcore (renders_of_ok hrender) hsame hchanged hstep
                  (fun _ h => by cases h; exact hcore)

/-! ## Runs -/

/-- A call of a run; the core may have exited by itself before it. -/
structure ApplyCall where
  plan : RuntimeBootstrapPlan
  options : RuntimeControlOptions := {}
  answers : ControlAnswers := {}
  coreExits : Bool := false

omit [DecidableEq ν] in
def ControlWorld.afterExit (world : ControlWorld ν σ) (coreExits : Bool) : ControlWorld ν σ :=
  if coreExits then { world with core := none } else world

def ApplyCall.run (env : ControlEnv ν σ) (world : ControlWorld ν σ) (call : ApplyCall) :
    Except Text RuntimeApplyResult × ControlWorld ν σ :=
  applyRuntimePlan env call.answers call.plan call.options (world.afterExit call.coreExits)

/-- A core that runs, runs the non-user part of the file. -/
def RecordKept (path : Text) (world : ControlWorld ν σ) : Prop :=
  ∀ core, world.core = some core → ∃ config, world.configFile path = some config ∧ core.nonUser = config.nonUser

/-- After the file is replaced the call goes on to the core, and the core takes the change or is stopped. -/
structure ReachesCore (options : RuntimeControlOptions) (answers : ControlAnswers) : Prop where
  recorded : answers.writeFingerprint = none
  spec : answers.processSpec = none
  notKept : options.keliCoreRsUserDeltaApplied = true → answers.keptStatus ≠ none
  notRejected : ∀ reason, answers.config ≠ .rejected reason
  stopped : ∀ message, answers.reload ≠ .stopFailed message

/-- The call is about the file at `path`, and where it changes the non-user part of the file under a running
core it reaches the core. -/
def CallKeepsRecord (env : ControlEnv ν σ) (path : Text) (world : ControlWorld ν σ) (call : ApplyCall) : Prop :=
  ∀ reportPlan corePlan,
    reportPlanFor env call.answers call.plan call.options (world.afterExit call.coreExits) = .ok reportPlan →
    reportPlan.corePlan = some corePlan →
    corePlan.configPath = path ∧
      ∀ core config nonUser, (world.afterExit call.coreExits).core = some core → world.configFile path = some config →
        env.renderNonUser corePlan = .ok nonUser → config.nonUser ≠ nonUser → ReachesCore call.options call.answers

/-- A call that returns `Ok` with a core plan leaves the core on the plan's configuration. -/
def OnPlan (env : ControlEnv ν σ) (world : ControlWorld ν σ) (call : ApplyCall) : Prop :=
  ∀ result corePlan, (call.run env world).1 = .ok result → result.reportPlan.corePlan = some corePlan →
    ∃ core, (call.run env world).2.core = some core ∧ env.renderNonUser corePlan = .ok core.nonUser

omit [DecidableEq ν] in
theorem afterExit_configFile (world : ControlWorld ν σ) (coreExits : Bool) :
    (world.afterExit coreExits).configFile = world.configFile := by
  cases coreExits <;> rfl

omit [DecidableEq ν] in
theorem RecordKept.afterExit {path : Text} {world : ControlWorld ν σ} (h : RecordKept path world) (coreExits : Bool) :
    RecordKept path (world.afterExit coreExits) := by
  cases coreExits with
  | false => exact h
  | true =>
    intro core hcore
    cases hcore

omit [DecidableEq ν] in
/-- Where the call returns `Ok`, the core runs. -/
theorem CoreStep.isSome {answers : ControlAnswers} {options : RuntimeControlOptions} {content bare : CoreConfig ν}
    {changed : Bool} {before after : Option (RunningCore ν)}
    (h : CoreStep answers options content bare changed before true after) : after.isSome = true := by
  cases h with
  | kept _ _ _ hcore => exact hcore
  | running _ hcore => exact hcore
  | loaded => rfl
  | routed => rfl

omit [DecidableEq ν] in
/-- The core after a step runs `content`, if the one before did or the step reached it. -/
theorem CoreStep.runs {answers : ControlAnswers} {options : RuntimeControlOptions} {content bare : CoreConfig ν}
    {changed ok : Bool} {before after : Option (RunningCore ν)} (hbare : bare.nonUser = content.nonUser)
    (hbefore : ∀ core, before = some core →
      core.nonUser = content.nonUser ∨ (changed = true ∧ ReachesCore options answers))
    (hstep : CoreStep answers options content bare changed before ok after) :
    ∀ core, after = some core → core.nonUser = content.nonUser := by
  have hsame : ¬ (changed = true ∧ ReachesCore options answers) →
      ∀ core, before = some core → core.nonUser = content.nonUser :=
    fun hnot core hcore => (hbefore core hcore).resolve_right hnot
  cases hstep with
  | noSpec h => exact hsame fun hreach => h hreach.2.spec
  | noStart h => exact hsame fun hreach => (by rw [h] at hreach; cases hreach.1)
  | rejected h => exact hsame fun hreach => hreach.2.notRejected _ h
  | notStopped h => exact hsame fun hreach => hreach.2.stopped _ h
  | notStarted => exact fun _ h => by cases h
  | kept _ hdelta hstatus _ => exact hsame fun hreach => hreach.2.notKept hdelta hstatus
  | running h _ => exact hsame fun hreach => (by rw [h] at hreach; cases hreach.1)
  | loaded _ => exact fun core h => (by cases h; rfl)
  | routed _ hcore _ => exact fun core h => (by cases h; exact hbare)

/-- **One call** of a run: the record is kept and an `Ok` means the core is on the plan. -/
theorem applyCall_keeps {env : ControlEnv ν σ} {path : Text} {world : ControlWorld ν σ} {call : ApplyCall}
    (hstart : call.options.startCore = true) (hrecord : RecordKept path world)
    (hkeeps : CallKeepsRecord env path world call) :
    RecordKept path (call.run env world).2 ∧ OnPlan env world call := by
  have hcases := applyRuntimePlan_cases env call.answers call.plan hstart (world.afterExit call.coreExits)
  replace hrecord := hrecord.afterExit call.coreExits
  simp only [RecordKept, OnPlan, ApplyCall.run]
  generalize applyRuntimePlan env call.answers call.plan call.options (world.afterExit call.coreExits) = outcome at *
  obtain ⟨answer, after⟩ := outcome
  generalize hcore : after.core = core at hcases
  generalize hfile : after.configFile = file at hcases
  cases hcases with
  | refused => exact ⟨hrecord, fun _ _ h => by cases h⟩
  | stopped hplan hresult =>
    refine ⟨fun core h => (by cases h), fun result corePlan hok hsome => ?_⟩
    cases hok
    rw [hresult] at hsome
    cases hsome
  | noInbounds hplan hreport hnone hresult =>
    refine ⟨hrecord, fun result corePlan hok hsome => ?_⟩
    cases hok
    rw [hresult] at hsome
    cases hsome
  | @unrecorded reportPlan corePlan content bare message hreport hplan hrenders h =>
    obtain ⟨rfl, hreach⟩ := hkeeps reportPlan corePlan hreport hplan
    refine ⟨fun core hcore => ⟨content, Function.update_self .., ?_⟩, fun _ _ h => by cases h⟩
    obtain ⟨config, hconfig, hruns⟩ := hrecord core hcore
    rw [afterExit_configFile] at hconfig
    by_contra hne
    rw [hruns] at hne
    exact h (hreach core config _ hcore hconfig hrenders.nonUser hne).recorded
  | @processed reportPlan corePlan content bare changed _ _ hreport hplan hrenders hsame _ hstep hresult =>
    obtain ⟨rfl, hreach⟩ := hkeeps reportPlan corePlan hreport hplan
    have hruns := hstep.runs hrenders.bareNonUser (fun running hcore => by
      obtain ⟨config, hconfig, hruns⟩ := hrecord running hcore
      by_cases hsome : config.nonUser = content.nonUser
      · exact .inl (hruns.trans hsome)
      · refine .inr ⟨?_, hreach running config _ hcore (afterExit_configFile world _ ▸ hconfig) hrenders.nonUser hsome⟩
        by_contra hchanged
        rw [hsame (by simpa using hchanged), Option.some.injEq] at hconfig
        exact hsome (by rw [hconfig]))
    refine ⟨fun running hrunning => ⟨content, Function.update_self .., hruns running hrunning⟩,
      fun result plan hok hsome => ?_⟩
    rw [hresult result hok] at hsome
    cases hsome
    subst hok
    obtain ⟨running, hrunning⟩ := Option.isSome_iff_exists.1 hstep.isSome
    exact ⟨running, hrunning, by rw [hruns running hrunning, hrenders.nonUser]⟩

/-- **Config convergence**: along every run of applies, of any plans, options and answers, that all keep the
record, each call that returns `Ok` with a core plan leaves the core running the non-user part of the
configuration rendered from that call's filtered core plan. -/
theorem config_converges (env : ControlEnv ν σ) (path : Text) (calls : List ApplyCall) (world : ControlWorld ν σ)
    (hrecord : RecordKept path world)
    (hcalls : Along (fun world call => some (call.run env world).2)
      (fun world call => call.options.startCore = true ∧ CallKeepsRecord env path world call) calls world) :
    Along (fun world call => some (call.run env world).2) (OnPlan env) calls world := by
  refine Along.of_invariant (fun world call hrecord hgood => ?_) hrecord hcalls
  obtain ⟨hkept, hplan⟩ := applyCall_keeps hgood.1 hrecord hgood.2
  exact ⟨hplan, fun _ hnext => by cases hnext; exact hkept⟩

instance (env : ControlEnv ν σ) (world : ControlWorld ν σ) (call : ApplyCall) : Decidable (OnPlan env world call) :=
  match hrun : call.run env world with
  | (.error _, _) => isTrue fun _ _ hok => by rw [hrun] at hok; cases hok
  | (.ok result, after) =>
    match hplan : result.reportPlan.corePlan with
    | none => isTrue fun _ _ hok hsome => by
        rw [hrun] at hok
        cases hok
        rw [hplan] at hsome
        cases hsome
    | some corePlan =>
      match hcore : after.core with
      | none => isFalse fun h => by
          obtain ⟨core, hsome, -⟩ := h result corePlan (by rw [hrun]) hplan
          rw [hrun] at hsome
          rw [hcore] at hsome
          cases hsome
      | some core =>
        match hrender : env.renderNonUser corePlan with
        | .error _ => isFalse fun h => by
            obtain ⟨_, -, hok⟩ := h result corePlan (by rw [hrun]) hplan
            rw [hrender] at hok
            cases hok
        | .ok nonUser => decidable_of_iff (nonUser = core.nonUser)
            ⟨fun heq result' plan' hok hsome => by
              rw [hrun] at hok
              cases hok
              rw [hplan] at hsome
              cases hsome
              exact ⟨core, by rw [hrun]; exact hcore, by rw [hrender, heq]⟩,
            fun h => by
              obtain ⟨core', hsome, hok⟩ := h result corePlan (by rw [hrun]) hplan
              rw [hrun] at hsome
              rw [hcore] at hsome
              cases hsome
              rw [hrender] at hok
              exact Except.ok.inj hok⟩

end

/-! ## One inbound on a port -/

/-- A machine without firewall tools; the non-user part is where each inbound listens. -/
def listenEnv : ControlEnv (List (Text × Text × Nat)) Unit where
  renderNonUser plan := .ok (plan.inbounds.map fun inbound => (inbound.tag, inbound.listen, inbound.port))
  fingerprint nonUser := nonUser.flatMap fun (tag, listen, port) => tag ++ listen ++ decimal port
  parseIpAddr _ := none
  executor := {
    isToolAvailable := fun _ s => (false, s)
    commandOutput := fun _ s => (.error [], s)
    runCommand := fun _ s => (.error [], s)
    runningAsRoot := fun _ => false }

def socksPlan (port : Nat) : RuntimeBootstrapPlan where
  resolved := {}
  nodeInfos := [{ id := 1, protocol := .socks, tag := "node-a", common := { serverPort := port } }]
  nodeFailures := []
  corePlan := some {
    configPath := "/etc/keli/config.json"
    listenTags := ["node-a"]
    inbounds := [{ (default : InboundPlan) with tag := "node-a", protocol := "socks", listen := "0.0.0.0", port }] }
  hy2PortForward := newHysteriaPortForwardStatus [] [] false
  mieruPortForward := newHysteriaPortForwardStatus [] [] false
  subscriptionProxyOnly := false

theorem config_converges_moved :
    RecordKept "/etc/keli/config.json" { firewall := (), core := none : ControlWorld (List (Text × Text × Nat)) Unit } ∧
    Along (fun world call => some (call.run listenEnv world).2) (OnPlan listenEnv)
      [{ plan := socksPlan 1080 }, { plan := socksPlan 1081 }] { firewall := () } := by
  have hstart : RecordKept "/etc/keli/config.json"
      { firewall := (), core := none : ControlWorld (List (Text × Text × Nat)) Unit } := by
    intro core hcore
    cases hcore
  have hcall : ∀ (world : ControlWorld (List (Text × Text × Nat)) Unit) (port : Nat),
      CallKeepsRecord listenEnv "/etc/keli/config.json" world { plan := socksPlan port } := by
    intro world port reportPlan corePlan hreport hplan
    cases hreport
    cases hplan
    refine ⟨rfl, fun _ _ _ _ _ _ _ => ⟨rfl, rfl, ?_, ?_, ?_⟩⟩ <;> simp
  exact ⟨hstart, config_converges listenEnv _ _ _ hstart
    ⟨⟨rfl, hcall _ _⟩, fun _ _ => ⟨⟨rfl, hcall _ _⟩, fun _ _ => trivial⟩⟩⟩

/-- The core refuses port 1081 and the call fails, but the file now says 1081: the next call finds it
unchanged and returns `Ok` with the core still on 1080.  A user delta in the same tick has the same effect. -/
theorem config_change_forgotten :
    ¬ Along (fun world call => some (call.run listenEnv world).2) (OnPlan listenEnv)
      [{ plan := socksPlan 1080 },
        { plan := socksPlan 1081, answers := { routes := .rejected "address in use", config := .rejected "address in use" } },
        { plan := socksPlan 1081 }] { firewall := () } ∧
    ¬ Along (fun world call => some (call.run listenEnv world).2) (OnPlan listenEnv)
      [{ plan := socksPlan 1080 }, { plan := socksPlan 1081, options := { keliCoreRsUserDeltaApplied := true } }]
      { firewall := () } := by
  decide +kernel

end KeliNode
