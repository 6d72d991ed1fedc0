import KeliNode.Lib.Except
import KeliNode.Upgrade.Script

/-!
# The upgrade manager

`UpgradeManager::request` (`upgrade.rs:91`) remembers the status of one command, the last one that it took.  A request is
refused, answered from that status, settled at once, or launched (`request_cases`).
-/

namespace KeliNode

open Lib

/-- `UpgradeStatus` (`upgrade.rs:14`). -/
structure UpgradeStatus where
  id : Text
  status : Text
  component : Text
  targetVersion : Text
  error : Text := []
  startedAt : Int
  finishedAt : Int := 0
  updatedAt : Int
  deriving DecidableEq

structure UpgradeManager where
  status : Option UpgradeStatus := none
  deriving DecidableEq

/-- One call of `request`; `launch` is what the executor would answer to a plan. -/
structure UpgradeCall where
  command : MachineUpgradeCommand
  currentVersion : Text
  now : Int
  launch : UpgradeLaunchPlan → Except Text Unit

/-- What a call leaves behind: the manager, the plan that was handed to the executor, the answer. -/
structure UpgradeOutcome where
  manager : UpgradeManager
  launched : Option UpgradeLaunchPlan := none
  result : Except Text (Option UpgradeStatus)

/-- `truncate_upgrade_error` (`upgrade.rs:529`). -/
def truncateUpgradeError (value : Text) : Text :=
  if byteLen (trim value) ≤ 1000 then trim value else (trim value).take 1000

def runningName : Text := "running"

def succeededName : Text := "succeeded"

def failedName : Text := "failed"

/-- The command of the stored status, which is not started again. -/
def UpgradeStatus.isTaken (status : UpgradeStatus) (id : Text) : Bool :=
  status.id = id && (status.status = runningName || status.status = succeededName)

/-- The status of a command that is started now. -/
def UpgradeCall.started (call : UpgradeCall) (component : UpgradeComponent) : UpgradeStatus where
  id := trim call.command.id
  status := runningName
  component := component.statusName
  targetVersion := trim call.command.targetVersion
  startedAt := call.now
  updatedAt := call.now

/-- `upgrade_launch_plan_for_component_with_source` (`upgrade.rs:188`), for a command. -/
def UpgradeCall.plan (toolExists : Text → Bool) (call : UpgradeCall) (component : UpgradeComponent) : UpgradeLaunchPlan :=
  releaseUpgradeLaunchPlanWithSource toolExists (trim call.command.targetVersion) component.releaseSpec
    (.fromCommand call.command)

/-- `UpgradeManager::request` (`upgrade.rs:91`). -/
def UpgradeManager.request (toolExists : Text → Bool) (manager : UpgradeManager) (call : UpgradeCall) : UpgradeOutcome :=
  let id := trim call.command.id
  let targetVersion := trim call.command.targetVersion
  match UpgradeComponent.fromCommandValue call.command.component with
  | .error error => { manager, result := .error error }
  | .ok component =>
    if id.isEmpty || !validKelinodeVersion targetVersion then { manager, result := .error "invalid upgrade command" }
    else match manager.status.filter (·.isTaken id) with
      | some status => { manager, result := .ok (some status) }
      | none =>
        let status := call.started component
        if component = .node && versionsEqual call.currentVersion targetVersion then
          let status := { status with status := succeededName, finishedAt := call.now }
          { manager := { status := some status }, result := .ok (some status) }
        else
          let plan := call.plan toolExists component
          let status := match call.launch plan with
            | .ok _ => status
            | .error error =>
              { status with status := failedName, error := truncateUpgradeError error, finishedAt := call.now }
          { manager := { status := some status }, launched := some plan, result := .ok (some status) }

/-- The command is one that `request` accepts. -/
structure UpgradeCall.Valid (call : UpgradeCall) (component : UpgradeComponent) : Prop where
  component : UpgradeComponent.fromCommandValue call.command.component = .ok component
  id : trim call.command.id ≠ []
  version : validKelinodeVersion (trim call.command.targetVersion) = true

/-- What a call that is launched leaves behind. -/
def UpgradeCall.afterLaunch (toolExists : Text → Bool) (call : UpgradeCall) (component : UpgradeComponent) : UpgradeStatus :=
  match call.launch (call.plan toolExists component) with
  | .ok _ => call.started component
  | .error error =>
    { call.started component with status := failedName, error := truncateUpgradeError error, finishedAt := call.now }

section

variable {toolExists : Text → Bool} {manager : UpgradeManager} {call : UpgradeCall}

theorem request_of_invalid (h : ∀ component, ¬ call.Valid component) :
    ∃ error, manager.request toolExists call = { manager, result := .error error } := by
  rw [UpgradeManager.request]
  cases hcomponent : UpgradeComponent.fromCommandValue call.command.component with
  | error error => exact ⟨error, rfl⟩
  | ok component =>
    by_cases hinvalid : ((trim call.command.id).isEmpty || !validKelinodeVersion (trim call.command.targetVersion)) = true
    · simp only [hinvalid, if_true]
      exact ⟨_, rfl⟩
    · simp only [Bool.or_eq_true, List.isEmpty_iff, Bool.not_eq_true', not_or, Bool.not_eq_false] at hinvalid
      exact absurd ⟨hcomponent, hinvalid.1, hinvalid.2⟩ (h component)

/-- What a valid request does. -/
theorem request_of_valid {component : UpgradeComponent} (h : call.Valid component) : manager.request toolExists call =
    match manager.status.filter (·.isTaken (trim call.command.id)) with
    | some status => { manager, result := .ok (some status) }
    | none =>
      if component = .node && versionsEqual call.currentVersion (trim call.command.targetVersion) then
        { manager := { status := some { call.started component with status := succeededName, finishedAt := call.now } }
          result := .ok (some { call.started component with status := succeededName, finishedAt := call.now }) }
      else
        { manager := { status := some (call.afterLaunch toolExists component) }
          launched := some (call.plan toolExists component)
          result := .ok (some (call.afterLaunch toolExists component)) } := by
  have hvalid : ((trim call.command.id).isEmpty || !validKelinodeVersion (trim call.command.targetVersion)) = false := by
    rw [Bool.or_eq_false_iff, List.isEmpty_eq_false_iff, h.version]
    exact ⟨h.id, rfl⟩
  rw [UpgradeManager.request, h.component]
  simp only [hvalid, Bool.false_eq_true, if_false]
  cases manager.status.filter (·.isTaken (trim call.command.id)) with
  | some status => rfl
  | none =>
    rw [UpgradeCall.afterLaunch]

/-- The four ways a request goes: it is refused, repeated, settled at once, or launched. -/
theorem request_cases :
    ((∀ component, ¬ call.Valid component) ∧
      ∃ error, manager.request toolExists call = { manager, result := .error error }) ∨
    ∃ component, call.Valid component ∧
      ((∃ status, manager.status = some status ∧ status.isTaken (trim call.command.id) = true ∧
        manager.request toolExists call = { manager, result := .ok (some status) }) ∨
      (manager.status.filter (·.isTaken (trim call.command.id)) = none ∧
        ((component = .node ∧ versionsEqual call.currentVersion (trim call.command.targetVersion) = true ∧
          ∃ status, status.id = trim call.command.id ∧ status.status = succeededName ∧
            manager.request toolExists call = { manager := { status := some status }, result := .ok (some status) }) ∨
        (¬ (component = .node ∧ versionsEqual call.currentVersion (trim call.command.targetVersion) = true) ∧
          manager.request toolExists call =
            { manager := { status := some (call.afterLaunch toolExists component) }
              launched := some (call.plan toolExists component)
              result := .ok (some (call.afterLaunch toolExists component)) })))) := by
  by_cases hvalid : ∃ component, call.Valid component
  · obtain ⟨component, hvalid⟩ := hvalid
    refine .inr ⟨component, hvalid, ?_⟩
    rw [request_of_valid hvalid]
    cases htaken : manager.status.filter (·.isTaken (trim call.command.id)) with
    | some status =>
      obtain ⟨hstored, htaken⟩ := Option.filter_eq_some_iff.1 htaken
      exact .inl ⟨status, hstored, htaken, rfl⟩
    | none =>
      refine .inr ⟨rfl, ?_⟩
      by_cases hcurrent : component = .node ∧ versionsEqual call.currentVersion (trim call.command.targetVersion) = true
      · have hsettled : (decide (component = .node) &&
            versionsEqual call.currentVersion (trim call.command.targetVersion)) = true := by
          rw [Bool.and_eq_true, decide_eq_true_eq]
          exact hcurrent
        exact .inl ⟨hcurrent.1, hcurrent.2, _, rfl, rfl, if_pos hsettled⟩
      · have hnew : ¬ (decide (component = .node) &&
            versionsEqual call.currentVersion (trim call.command.targetVersion)) = true := by
          rw [Bool.and_eq_true, decide_eq_true_eq]
          exact hcurrent
        exact .inr ⟨hcurrent, if_neg hnew⟩
  · exact .inl ⟨not_exists.1 hvalid, request_of_invalid (not_exists.1 hvalid)⟩

/-- When a plan is launched, and which. -/
theorem launched_eq_some {plan : UpgradeLaunchPlan} : (manager.request toolExists call).launched = some plan ↔
    ∃ component, call.Valid component ∧ manager.status.filter (·.isTaken (trim call.command.id)) = none ∧
      ¬ (component = .node ∧ versionsEqual call.currentVersion (trim call.command.targetVersion) = true) ∧
      plan = call.plan toolExists component := by
  constructor
  · intro h
    rcases @request_cases toolExists manager call with ⟨-, error, hrequest⟩ | ⟨component, hvalid, ⟨status, -, -, hrequest⟩ |
      ⟨htaken, ⟨-, -, status, -, -, hrequest⟩ | ⟨hcurrent, hrequest⟩⟩⟩ <;> rw [hrequest] at h
    · cases h
    · cases h
    · cases h
    · exact ⟨component, hvalid, htaken, hcurrent, (Option.some.inj h).symm⟩
  · rintro ⟨component, hvalid, htaken, hcurrent, rfl⟩
    rw [request_of_valid hvalid, htaken]
    simp only [Bool.and_eq_true, decide_eq_true_eq, if_neg hcurrent]

end

end KeliNode
