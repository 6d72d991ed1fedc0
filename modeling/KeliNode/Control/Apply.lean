import KeliNode.Core.Running
import KeliNode.Runtime.Plan
import Mathlib.Logic.Function.Basic

/-!
# Applying a runtime plan (`control.rs`)

One apply writes the core's configuration file, brings the core to it (by a start, a reload or the core's
control socket) and repairs the port forwarding.

| here | there |
|---|---|
| `writeCoreConfig`, `writeCoreConfigBytes` | `core.rs:2738`, `:3110` |
| `filterUnavailableKeliCoreRsListeners` | `control.rs:179` |
| `applyCoreProcess`, `tryHotApplyKeliCoreRsConfig` | `control.rs:608`, `:656` |
| `applyRuntimePlan` | `control.rs:95` |

Everything the operating system and the core answer during one call is a `ControlAnswers`: an `Option Text`
there is the error a step fails with, if it fails.  A file is what was last put in place at its path.  The
supervisor starts a core that is not running from the file, leaves a running one alone, and reloads by a stop
and a start, so a reload whose stop fails leaves the old core and one whose start fails leaves none.
-/

namespace KeliNode

open Lib

/-! ## Listeners -/

abbrev ControlListenerSpec := RuntimeListenerSpec

/-- `normalize_control_listen` (`control.rs:340`). -/
def normalizeControlListen (value : Text) : Text := normalizeRuntimeListen value

/-- `control_inbound_binds_tcp` (`control.rs:291`). -/
def controlInboundBindsTcp (inbound : InboundPlan) : Bool :=
  (["socks", "http", "vless", "vmess", "trojan", "shadowsocks", "anytls", "mieru"] : List Text).contains
    inbound.protocol

/-- `control_inbound_binds_udp` (`control.rs:298`). -/
def controlInboundBindsUdp (inbound : InboundPlan) : Bool := inboundBindsUdp inbound

/-- `control_listener_specs` (`control.rs:267`). -/
def controlListenerSpecs (inbound : InboundPlan) : List ControlListenerSpec :=
  let spec (network : Text) : ControlListenerSpec :=
    { tag := inbound.tag, protocol := inbound.protocol, network
      listen := normalizeControlListen inbound.listen, port := inbound.port }
  (if controlInboundBindsTcp inbound then [spec "tcp"] else []) ++
    (if controlInboundBindsUdp inbound then [spec "udp"] else [])

/-! ## The outside -/

/-- What a call takes from outside this module: the non-user part of the rendered configuration and the
fingerprint of its text, the printed form of a parsed address, and the firewall tools. -/
structure ControlEnv (ν σ : Type) where
  renderNonUser : CorePlan → Except Text ν
  fingerprint : ν → Text
  parseIpAddr : Text → Option Text
  executor : PortForwardExecutor σ

/-- The core's answer to `ApplyRoutes` or `ApplyConfig`. -/
inductive ApplyAnswer where
  | applied (decision : Text)
  | rejected (message : Text)
  | unexpected (response : Text)
  | failed (message : Text)
  deriving DecidableEq

inductive ReloadAnswer where
  | reloaded
  | stopFailed (message : Text)
  | startFailed (message : Text)
  deriving DecidableEq

/-- The answers of one call, in the order the code asks. -/
structure ControlAnswers where
  stop : Option Text := none
  filterSpec : Option Text := none
  filterStatus : Option Text := none
  bind : Text → Text → Option Text := fun _ _ => none
  certificates : Option Text := none
  fingerprintUnreadable : Bool := false
  configDir : Option Text := none
  configUnreadable : Bool := false
  tempConfig : Option Text := none
  replaceConfig : Option Text := none
  writeFingerprint : Option Text := none
  processSpec : Option Text := none
  keptStatus : Option Text := none
  hotStatus : Option Text := none
  controlClient : Option Text := none
  routes : ApplyAnswer := .applied []
  config : ApplyAnswer := .applied []
  reload : ReloadAnswer := .reloaded
  start : Option Text := none
  freshRevision : Text → Int := fun _ => 0

/-- The configuration and fingerprint files by the configuration's path, the core and the firewall. -/
structure ControlWorld (ν σ : Type) where
  configFile : Text → Option (CoreConfig ν) := fun _ => none
  fingerprintFile : Text → Option Text := fun _ => none
  core : Option (RunningCore ν) := none
  firewall : σ

/-- The fields of `RuntimeControlOptions` (`control.rs:35`) an apply decides on. -/
structure RuntimeControlOptions where
  startCore : Bool := true
  hotApplyKeliCoreRs : Bool := true
  keliCoreRsUserDeltaApplied : Bool := false
  repairPortForward : Bool := true

structure ProcessStatus where
  running : Bool
  message : Text
  deriving DecidableEq

/-- `CoreConfigWriteResult`, without the byte count. -/
structure CoreConfigWriteResult where
  path : Text
  inboundCount : Nat
  changed : Bool
  routeConfigChanged : Bool := false
  deriving DecidableEq

structure HotApplyError where
  message : Text
  fallbackReload : Bool

def HotApplyError.fallback (message : Text) : HotApplyError := { message, fallbackReload := true }

def HotApplyError.fatal (message : Text) : HotApplyError := { message, fallbackReload := false }

/-- `RuntimeApplyResult` (`control.rs:54`); the machine status is built from the plan it reports on. -/
structure RuntimeApplyResult where
  coreConfig : Option CoreConfigWriteResult
  coreProcess : Option ProcessStatus
  reportPlan : RuntimeBootstrapPlan

section

variable {ν σ : Type} (env : ControlEnv ν σ) (answers : ControlAnswers)

/-! ## Filtering -/

/-- `candidate_listener_addrs` (`control.rs:326`), as printed. -/
def candidateListenerAddrs (listen : Text) (port : Nat) : List Text :=
  let listen := normalizeControlListen listen
  if listen = "" ∨ listen = "0.0.0.0" ∨ listen = "::" then ["[::]:" ++ decimal port, "0.0.0.0:" ++ decimal port]
  else match env.parseIpAddr listen with
    | some host => [host ++ ':' :: decimal port]
    | none => []

/-- `check_listener_available` (`control.rs:303`): one address that binds is enough; otherwise the last error
is reported. -/
def checkListenerAvailable (spec : ControlListenerSpec) : Option Text :=
  let addrs := candidateListenerAddrs env spec.listen spec.port
  if addrs.any fun addr => (answers.bind spec.network addr).isNone then none
  else addrs.getLast?.bind fun addr => (answers.bind spec.network addr).map fun error =>
    spec.network ++ " listener " ++ addr ++ " for inbound " ++ spec.tag ++ " (" ++ spec.protocol ++
      ") is unavailable: " ++ error

/-- `first_unavailable_listener_error` (`control.rs:249`). -/
def firstUnavailableListenerError (inbound : InboundPlan) : Option Text :=
  (controlListenerSpecs inbound).findSome? (checkListenerAvailable env answers)

/-- `status`, asked of the core's process: an error, or whether it runs. -/
def coreStatus (error : Option Text) (world : ControlWorld ν σ) : Except Text Bool :=
  match error with
  | some message => .error message
  | none => .ok world.core.isSome

/-- `filter_unavailable_keli_core_rs_listeners` (`control.rs:179`). -/
def filterUnavailableKeliCoreRsListeners (corePlan : CorePlan) (reportPlan : RuntimeBootstrapPlan)
    (world : ControlWorld ν σ) : Except Text (CorePlan × RuntimeBootstrapPlan) :=
  if !reportPlan.resolved.continueOnError then .ok (corePlan, reportPlan)
  else match answers.filterSpec with
    | some message => .error message
    | none =>
      if (coreStatus answers.filterStatus world).toOption.getD false then .ok (corePlan, reportPlan)
      else
        let skipped := corePlan.inbounds.filterMap fun inbound =>
          (firstUnavailableListenerError env answers inbound).map fun error => (inbound.tag, error)
        if skipped.isEmpty then .ok (corePlan, reportPlan)
        else
          let skippedTags := skipped.map (·.1)
          let failures := skipped.filterMap fun (tag, error) =>
            (reportPlan.nodeInfos.find? (·.tag = tag)).map fun node =>
              { config := (nodeConfigForInfo reportPlan.resolved node.id node.tag).getD { nodeId := node.id }
                error : NodeFailure }
          .ok ({ corePlan with
                  inbounds := corePlan.inbounds.filter fun inbound => !skippedTags.contains inbound.tag
                  listenTags := corePlan.listenTags.filter fun tag => !skippedTags.contains tag },
            { reportPlan with
                nodeInfos := reportPlan.nodeInfos.filter fun node => !skippedTags.contains node.tag
                nodeFailures := reportPlan.nodeFailures ++ failures })

/-! ## The configuration file -/

/-- The inbounds of a rendered configuration. -/
def renderedInbounds (plan : CorePlan) (includeUsers : Bool) : List (Text × List CoreUser) :=
  plan.inbounds.map fun inbound => (inbound.tag, if includeUsers then inbound.users.map renderKeliCoreRsUser else [])

/-- `render_core_config` and `render_core_config_without_users` (`core.rs:450`, `:456`). -/
def renderCoreConfig (plan : CorePlan) (includeUsers : Bool) : Except Text (CoreConfig ν) :=
  (env.renderNonUser plan).map fun nonUser => { nonUser, inbounds := renderedInbounds plan includeUsers }

variable [DecidableEq ν]

/-- `write_core_config_bytes` (`core.rs:3110`): the file is replaced when it does not hold the content. -/
def writeCoreConfigBytes (path : Text) (content : CoreConfig ν) (inboundCount : Nat) (world : ControlWorld ν σ) :
    Except Text CoreConfigWriteResult × ControlWorld ν σ :=
  match answers.configDir with
  | some message => (.error message, world)
  | none =>
    if !answers.configUnreadable && world.configFile path = some content then
      (.ok { path, inboundCount, changed := false }, world)
    else match answers.tempConfig.or answers.replaceConfig with
      | some message => (.error message, world)
      | none => (.ok { path, inboundCount, changed := true },
          { world with configFile := Function.update world.configFile path (some content) })

/-- `write_core_config` (`core.rs:2738`). -/
def writeCoreConfig (plan : CorePlan) (world : ControlWorld ν σ) :
    Except Text CoreConfigWriteResult × ControlWorld ν σ :=
  match answers.certificates, renderCoreConfig env plan true with
  | some message, _ => (.error message, world)
  | none, .error message => (.error message, world)
  | none, .ok content =>
    let fingerprint := env.fingerprint content.nonUser
    let previous := if answers.fingerprintUnreadable then none else world.fingerprintFile plan.configPath
    let routeConfigChanged := previous.any (· ≠ fingerprint)
    match writeCoreConfigBytes answers plan.configPath content plan.inbounds.length world with
    | (.error message, world) => (.error message, world)
    | (.ok result, world) =>
      let result := { result with routeConfigChanged }
      if result.changed || previous.isNone then
        match answers.writeFingerprint with
        | some message => (.error message, world)
        | none => (.ok result,
            { world with fingerprintFile := Function.update world.fingerprintFile plan.configPath (some fingerprint) })
      else (.ok result, world)

/-! ## The process -/

/-- The core after a start from the file at `path`. -/
def ControlWorld.loadCore (world : ControlWorld ν σ) (path : Text) : ControlWorld ν σ :=
  { world with core := (world.configFile path).map (applyConfig answers.freshRevision) }

/-- `ProcessSupervisor::start`. -/
def startProcess (path : Text) (world : ControlWorld ν σ) : Except Text ProcessStatus × ControlWorld ν σ :=
  match answers.start with
  | some message => (.error message, world)
  | none =>
    if world.core.isSome then (.ok { running := true, message := "running" }, world)
    else (.ok { running := true, message := "running" }, world.loadCore answers path)

/-- `ProcessSupervisor::reload`. -/
def reloadProcess (path : Text) (world : ControlWorld ν σ) : Except Text ProcessStatus × ControlWorld ν σ :=
  match answers.reload with
  | .stopFailed message => (.error message, world)
  | .startFailed message => (.error message, { world with core := none })
  | .reloaded => (.ok { running := true, message := "running" }, world.loadCore answers path)

/-- The `ApplyRoutes` attempt: a refusal goes on to `ApplyConfig`. -/
def hotApplyRoutes (plan : CorePlan) (world : ControlWorld ν σ) :
    Except HotApplyError (Option ProcessStatus) × ControlWorld ν σ :=
  match renderCoreConfig env plan false with
  | .error message => (.error (.fatal message), world)
  | .ok config =>
    match answers.routes with
    | .applied decision =>
      (.ok (some { running := true, message := "hot applied keli-core-rs routes (" ++ decision ++ ")" }),
        { world with core := world.core.map (applyRoutes answers.freshRevision config) })
    | .rejected _ | .failed _ => (.ok none, world)
    | .unexpected response =>
      (.error (.fallback ("unexpected keli-core-rs route apply response: " ++ response)), world)

/-- The `ApplyConfig` attempt. -/
def hotApplyConfig (plan : CorePlan) (world : ControlWorld ν σ) :
    Except HotApplyError (Option ProcessStatus) × ControlWorld ν σ :=
  match renderCoreConfig env plan true with
  | .error message => (.error (.fatal message), world)
  | .ok config =>
    match answers.config with
    | .applied decision =>
      (.ok (some { running := true, message := "hot applied keli-core-rs config (" ++ decision ++ ")" }),
        { world with core := some (applyConfig answers.freshRevision config) })
    | .rejected message => (.error (.fatal ("keli-core-rs rejected hot config: " ++ message)), world)
    | .unexpected response => (.error (.fallback ("unexpected keli-core-rs apply response: " ++ response)), world)
    | .failed message => (.error (.fallback message), world)

/-- `try_hot_apply_keli_core_rs_config` (`control.rs:656`). -/
def tryHotApplyKeliCoreRsConfig (plan : CorePlan) (routeConfigChanged : Bool) (world : ControlWorld ν σ) :
    Except HotApplyError (Option ProcessStatus) × ControlWorld ν σ :=
  match coreStatus answers.hotStatus world, answers.controlClient with
  | .error message, _ => (.error (.fallback message), world)
  | .ok false, _ => (.ok none, world)
  | .ok true, some message => (.error (.fallback message), world)
  | .ok true, none =>
    match (if routeConfigChanged then hotApplyRoutes env answers plan world else (.ok none, world)) with
    | (.ok none, world) => hotApplyConfig env answers plan world
    | other => other

/-- What follows a changed file when the core was not kept running. -/
def hotApplyOrReload (plan : CorePlan) (options : RuntimeControlOptions) (routeConfigChanged : Bool)
    (world : ControlWorld ν σ) : Except Text ProcessStatus × ControlWorld ν σ :=
  if options.hotApplyKeliCoreRs then
    match tryHotApplyKeliCoreRsConfig env answers plan routeConfigChanged world with
    | (.ok (some status), world) => (.ok status, world)
    | (.ok none, world) => reloadProcess answers plan.configPath world
    | (.error error, world) =>
      if error.fallbackReload then
        match reloadProcess answers plan.configPath world with
        | (.ok status, world) =>
          (.ok { status with message := "reloaded after keli-core-rs hot apply failed: " ++ error.message }, world)
        | (.error message, world) => (.error message, world)
      else (.error error.message, world)
  else reloadProcess answers plan.configPath world

/-- `apply_core_process` (`control.rs:608`). -/
def applyCoreProcess (plan : CorePlan) (writeResult : CoreConfigWriteResult) (options : RuntimeControlOptions)
    (world : ControlWorld ν σ) : Except Text ProcessStatus × ControlWorld ν σ :=
  match answers.processSpec with
  | some message => (.error message, world)
  | none =>
    if writeResult.changed then
      -- an unreadable status counts as a core that is not running
      if options.keliCoreRsUserDeltaApplied && (coreStatus answers.keptStatus world).toOption.getD false then
        (.ok { running := true, message := "kept running after keli-core-rs user delta apply" }, world)
      else hotApplyOrReload env answers plan options writeResult.routeConfigChanged world
    else startProcess answers plan.configPath world

/-! ## The apply -/

/-- `stop_unmanaged_core_processes` (`control.rs:742`): without a core plan the core is stopped. -/
def stopUnmanagedCoreProcesses (plan : RuntimeBootstrapPlan) (world : ControlWorld ν σ) :
    Except Text Unit × ControlWorld ν σ :=
  match plan.corePlan, answers.stop with
  | some _, _ => (.ok (), world)
  | none, some message => (.error message, world)
  | none, none => (.ok (), { world with core := none })

/-- The plan that is applied and reported on. -/
def reportPlanFor (plan : RuntimeBootstrapPlan) (options : RuntimeControlOptions) (world : ControlWorld ν σ) :
    Except Text RuntimeBootstrapPlan :=
  match plan.corePlan with
  | none => .ok plan
  | some corePlan => do
    let (corePlan, reportPlan) ←
      if options.startCore then filterUnavailableKeliCoreRsListeners env answers corePlan plan world
      else .ok (corePlan, plan)
    .ok { reportPlan with corePlan := if corePlan.inbounds.isEmpty then none else some corePlan }

/-- The core's part of the apply. -/
def applyCorePlan (corePlan : CorePlan) (options : RuntimeControlOptions) (world : ControlWorld ν σ) :
    Except Text (CoreConfigWriteResult × Option ProcessStatus) × ControlWorld ν σ :=
  match writeCoreConfig env answers corePlan world with
  | (.error message, world) => (.error message, world)
  | (.ok writeResult, world) =>
    if options.startCore then
      match applyCoreProcess env answers corePlan writeResult options world with
      | (.error message, world) => (.error message, world)
      | (.ok status, world) => (.ok (writeResult, some status), world)
    else (.ok (writeResult, none), world)

/-- The port-forward part of the apply: the plan with the two statuses. -/
def applyPortForward (plan : RuntimeBootstrapPlan) (options : RuntimeControlOptions) (world : ControlWorld ν σ) :
    RuntimeBootstrapPlan × ControlWorld ν σ :=
  let (hy2PortForward, firewall) :=
    if options.repairPortForward then repairHysteriaPortForward env.executor plan.nodeInfos world.firewall
    else inspectHysteriaPortForward env.executor plan.nodeInfos world.firewall
  let (mieruPortForward, firewall) :=
    if options.repairPortForward then repairMieruPortForward env.executor plan.nodeInfos firewall
    else inspectMieruPortForward env.executor plan.nodeInfos firewall
  ({ plan with hy2PortForward, mieruPortForward }, { world with firewall })

/-- `apply_runtime_plan` (`control.rs:95`). -/
def applyRuntimePlan (plan : RuntimeBootstrapPlan) (options : RuntimeControlOptions) (world : ControlWorld ν σ) :
    Except Text RuntimeApplyResult × ControlWorld ν σ :=
  match (if options.startCore then stopUnmanagedCoreProcesses answers plan world else (.ok (), world)) with
  | (.error message, world) => (.error message, world)
  | (.ok (), world) =>
    match reportPlanFor env answers plan options world with
    | .error message => (.error message, world)
    | .ok reportPlan =>
      match reportPlan.corePlan with
      | none =>
        let (reportPlan, world) := applyPortForward env reportPlan options world
        (.ok { coreConfig := none, coreProcess := none, reportPlan }, world)
      | some corePlan =>
        match applyCorePlan env answers corePlan options world with
        | (.error message, world) => (.error message, world)
        | (.ok (writeResult, status), world) =>
          let (reportPlan, world) := applyPortForward env reportPlan options world
          (.ok { coreConfig := some writeResult, coreProcess := status, reportPlan }, world)

end

end KeliNode
