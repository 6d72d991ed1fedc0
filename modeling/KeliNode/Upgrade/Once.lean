import KeliNode.Lib.Run
import KeliNode.Upgrade.Manager

/-!
# An upgrade runs once

The manager knows a command by the id of the status it stores, and it stores one.  A repeated command is recognised for as
long as no other command came between; behind another one it is launched a second time.  An id that failed and was then
found to run its version is settled, so a later version under the same id is not launched.  `upgrade_once_iff` says that
these are the only two ways to fail.

The launches of a run are a record beside the manager, the last one first (`UpgradeHistory`).
-/

namespace KeliNode

open Lib

structure UpgradeHistory where
  manager : UpgradeManager := {}
  launches : List (Text × Bool) := []

/-- The executor took the plan. -/
def UpgradeCall.succeeds (call : UpgradeCall) (plan : UpgradeLaunchPlan) : Bool :=
  match call.launch plan with
  | .ok _ => true
  | .error _ => false

/-- One call of `request`, written down. -/
def UpgradeHistory.step (toolExists : Text → Bool) (history : UpgradeHistory) (call : UpgradeCall) : UpgradeHistory :=
  let outcome := history.manager.request toolExists call
  { manager := outcome.manager
    launches := match outcome.launched with
      | none => history.launches
      | some plan => (trim call.command.id, call.succeeds plan) :: history.launches }

/-- How the last launch of a command went. -/
def UpgradeHistory.last (history : UpgradeHistory) (id : Text) : Option Bool := history.launches.lookup id

/-- The command asks for the version that runs. -/
def UpgradeCall.IsCurrent (call : UpgradeCall) (component : UpgradeComponent) : Prop :=
  component = .node ∧ versionsEqual call.currentVersion (trim call.command.targetVersion) = true

/-- What is meant: a launch that succeeded is not repeated, a refusal changes nothing, and a launch that failed may be
repeated, where the version it asks for does not run already. -/
structure RunsOnce (toolExists : Text → Bool) (history : UpgradeHistory) (call : UpgradeCall) : Prop where
  once : (trim call.command.id, true) ∈ history.launches → (history.manager.request toolExists call).launched = none
  refused : (∀ component, ¬ call.Valid component) →
    ∃ error, history.manager.request toolExists call = { manager := history.manager, result := .error error }
  retried : ∀ component, call.Valid component → history.last (trim call.command.id) = some false →
    (history.manager.request toolExists call).launched = some (call.plan toolExists component) ∨ call.IsCurrent component

/-- A command that was launched is still the one whose status is stored, and one that failed was not settled since. -/
structure StillStored (history : UpgradeHistory) (call : UpgradeCall) : Prop where
  kept : ∀ component, call.Valid component → ¬ call.IsCurrent component → (trim call.command.id, true) ∈ history.launches →
    ∃ status, history.manager.status = some status ∧ status.id = trim call.command.id
  unsettled : ∀ component, call.Valid component → ¬ call.IsCurrent component →
    history.last (trim call.command.id) = some false →
    ∀ status, history.manager.status = some status → status.id = trim call.command.id → status.status ≠ succeededName

/-- The status of a command that was launched says so, and a status says that only of such a command. -/
structure StatusSound (history : UpgradeHistory) : Prop where
  taken : ∀ status, history.manager.status = some status → (status.id, true) ∈ history.launches →
    status.status = runningName ∨ status.status = succeededName
  running : ∀ status, history.manager.status = some status → status.status = runningName →
    history.last status.id = some true

section

variable {toolExists : Text → Bool} {history : UpgradeHistory} {call : UpgradeCall}

theorem names_differ_upgrade : failedName ≠ runningName ∧ failedName ≠ succeededName ∧ succeededName ≠ runningName := by
  decide

theorem afterLaunch_id {component : UpgradeComponent} : (call.afterLaunch toolExists component).id = trim call.command.id := by
  rw [UpgradeCall.afterLaunch]
  split <;> rfl

theorem afterLaunch_status {component : UpgradeComponent} : (call.afterLaunch toolExists component).status =
    if call.succeeds (call.plan toolExists component) then runningName else failedName := by
  rw [UpgradeCall.afterLaunch, UpgradeCall.succeeds]
  cases call.launch (call.plan toolExists component) <;> rfl

theorem not_taken {status : Option UpgradeStatus} {stored : UpgradeStatus} {id : Text}
    (h : status.filter (·.isTaken id) = none) (hstored : status = some stored) (hid : stored.id = id) :
    stored.status ≠ runningName ∧ stored.status ≠ succeededName := by
  rw [hstored, Option.filter_some] at h
  split at h
  · cases h
  · rename_i htaken
    simpa [UpgradeStatus.isTaken, hid] using htaken

/-- A condition of the call, and what it does to the record: the step lemma behind both directions. -/
theorem statusSound_step (hsound : StatusSound history) (hstored : StillStored history call) :
    StatusSound (history.step toolExists call) := by
  rcases @request_cases toolExists history.manager call with ⟨-, error, hrequest⟩ | ⟨component, hvalid,
    ⟨status, -, -, hrequest⟩ | ⟨htaken, ⟨-, -, status, hid, hstatus, hrequest⟩ | ⟨hcurrent, hrequest⟩⟩⟩
  · simp only [UpgradeHistory.step, hrequest]
    exact hsound
  · simp only [UpgradeHistory.step, hrequest]
    exact hsound
  · simp only [UpgradeHistory.step, hrequest]
    constructor
    · rintro stored hstored -
      obtain rfl := Option.some.inj hstored
      exact .inr hstatus
    · intro stored hstored hrunning
      obtain rfl := Option.some.inj hstored
      rw [hstatus] at hrunning
      exact absurd hrunning names_differ_upgrade.2.2
  · simp only [UpgradeHistory.step, hrequest]
    constructor
    · intro stored hstored' hlaunched
      obtain rfl := Option.some.inj hstored'
      rw [afterLaunch_status]
      rw [afterLaunch_id] at hlaunched
      rcases List.mem_cons.1 hlaunched with heq | hlaunched
      · rw [if_pos (Prod.mk.inj heq).2.symm]
        exact .inl rfl
      · -- the command would have been recognised
        obtain ⟨status, hstatus, hid⟩ := hstored.kept component hvalid hcurrent hlaunched
        obtain ⟨hrunning, hsucceeded⟩ := not_taken htaken hstatus hid
        rw [← hid] at hlaunched
        rcases hsound.taken status hstatus hlaunched with h | h
        · exact absurd h hrunning
        · exact absurd h hsucceeded
    · intro stored hstored' hrunning
      obtain rfl := Option.some.inj hstored'
      rw [afterLaunch_status] at hrunning
      split at hrunning
      · rename_i hsucceeds
        rw [UpgradeHistory.last, afterLaunch_id, List.lookup_cons_self, hsucceeds]
      · exact absurd hrunning names_differ_upgrade.1

/-- A request that is not answered from the stored status, and does not ask for the running version, is launched. -/
theorem launched_of_not_taken {component : UpgradeComponent} (hvalid : call.Valid component)
    (hcurrent : ¬ call.IsCurrent component)
    (hfree : ∀ status, history.manager.status = some status → status.isTaken (trim call.command.id) = false) :
    (history.manager.request toolExists call).launched = some (call.plan toolExists component) := by
  refine launched_eq_some.2 ⟨component, hvalid, ?_, hcurrent, rfl⟩
  rw [Option.filter_eq_none_iff]
  intro status hstatus
  rw [hfree status hstatus]
  exact Bool.false_ne_true

/-- A stored status of an id whose last launch failed answers for it exactly if it says `succeeded`. -/
theorem isTaken_of_failed (hsound : StatusSound history) {id : Text} (hfailed : history.last id = some false)
    {status : UpgradeStatus} (hstatus : history.manager.status = some status) :
    status.isTaken id = true ↔ status.id = id ∧ status.status = succeededName := by
  rw [UpgradeStatus.isTaken, Bool.and_eq_true, Bool.or_eq_true, decide_eq_true_eq, decide_eq_true_eq, decide_eq_true_eq]
  constructor
  · rintro ⟨hid, hrunning | hsucceeded⟩
    · have hlast := hsound.running status hstatus hrunning
      rw [hid, hfailed] at hlast
      cases hlast
    · exact ⟨hid, hsucceeded⟩
  · exact fun h => ⟨h.1, .inr h.2⟩

theorem stillStored_of_runsOnce (hsound : StatusSound history) (h : RunsOnce toolExists history call) :
    StillStored history call := by
  constructor
  · intro component hvalid hcurrent hlaunched
    by_contra hlost
    -- no stored status has the id, so the call is launched again
    have hfree : ∀ status, history.manager.status = some status → status.isTaken (trim call.command.id) = false := by
      intro status hstatus
      rw [Bool.eq_false_iff]
      intro htaken
      rw [UpgradeStatus.isTaken, Bool.and_eq_true, decide_eq_true_eq] at htaken
      exact hlost ⟨status, hstatus, htaken.1⟩
    have hnone := h.once hlaunched
    rw [launched_of_not_taken hvalid hcurrent hfree] at hnone
    cases hnone
  · intro component hvalid hcurrent hfailed status hstatus hid hsucceeded
    have htaken := (isTaken_of_failed hsound hfailed hstatus).2 ⟨hid, hsucceeded⟩
    rcases h.retried component hvalid hfailed with hlaunched | hcurrent'
    · obtain ⟨-, -, hfree, -, -⟩ := launched_eq_some.1 hlaunched
      rw [hstatus, Option.filter_some, if_pos htaken] at hfree
      cases hfree
    · exact hcurrent hcurrent'

theorem runsOnce_of_stillStored (hsound : StatusSound history) (h : StillStored history call) :
    RunsOnce toolExists history call := by
  constructor
  · intro hlaunched
    rw [Option.eq_none_iff_forall_ne_some]
    intro plan hplan
    obtain ⟨component, hvalid, htaken, hcurrent, -⟩ := launched_eq_some.1 hplan
    obtain ⟨status, hstatus, hid⟩ := h.kept component hvalid hcurrent hlaunched
    obtain ⟨hrunning, hsucceeded⟩ := not_taken htaken hstatus hid
    rw [← hid] at hlaunched
    rcases hsound.taken status hstatus hlaunched with h | h
    · exact hrunning h
    · exact hsucceeded h
  · exact fun hinvalid => request_of_invalid hinvalid
  · intro component hvalid hfailed
    by_cases hcurrent : call.IsCurrent component
    · exact .inr hcurrent
    · refine .inl (launched_of_not_taken hvalid hcurrent fun status hstatus => ?_)
      rw [Bool.eq_false_iff, ne_eq, isTaken_of_failed hsound hfailed hstatus]
      rintro ⟨hid, hsucceeded⟩
      exact h.unsettled component hvalid hcurrent hfailed status hstatus hid hsucceeded

end

/-- **At most once**, over every run: no launch that succeeded is repeated and every one that failed can be, exactly if every
command that was launched is still stored when it comes again and none that failed was settled since. -/
theorem upgrade_once_iff (toolExists : Text → Bool) (calls : List UpgradeCall) :
    Along (fun history call => some (history.step toolExists call)) (RunsOnce toolExists) calls {} ↔
      Along (fun history call => some (history.step toolExists call)) StillStored calls {} := by
  have hstart : StatusSound {} := by
    constructor
    · intro status h
      cases h
    · intro status h
      cases h
  have hnext : ∀ history call, StatusSound history → StillStored history call →
      ∀ after, some (history.step toolExists call) = some after → StatusSound after := by
    intro history call hsound hstored after hafter
    obtain rfl := Option.some.inj hafter
    exact statusSound_step hsound hstored
  constructor
  · refine Along.of_invariant (fun history call hsound hgood => ?_) hstart
    have hstored := stillStored_of_runsOnce hsound hgood
    exact ⟨hstored, hnext history call hsound hstored⟩
  · refine Along.of_invariant (fun history call hsound hgood => ?_) hstart
    exact ⟨runsOnce_of_stillStored hsound hgood, hnext history call hsound hgood⟩

/-! ## Two commands in turn -/

def namedCall (id : Text) : UpgradeCall where
  command := { id, targetVersion := "v2" }
  currentVersion := "v1"
  now := 0
  launch := fun _ => .ok ()

theorem valid_namedCall {id : Text} (hid : trim id ≠ []) : (namedCall id).Valid .node := by
  have hcomponent : UpgradeComponent.fromCommandValue [] = .ok .node := by decide +kernel
  have hversion : validKelinodeVersion (trim "v2") = true := by decide +kernel
  exact ⟨hcomponent, hid, hversion⟩

theorem launched_namedCall {toolExists : Text → Bool} {manager : UpgradeManager} {id : Text} (hid : trim id ≠ [])
    (hother : ∀ status, manager.status = some status → status.id ≠ trim id) :
    (manager.request toolExists (namedCall id)).launched = some ((namedCall id).plan toolExists .node) := by
  have hversion : versionsEqual "v1" (trim "v2") = false := by decide +kernel
  refine launched_eq_some.2 ⟨.node, valid_namedCall hid, ?_, ?_, rfl⟩
  · rw [Option.filter_eq_none_iff]
    intro status hstatus htaken
    rw [UpgradeStatus.isTaken, Bool.and_eq_true, decide_eq_true_eq] at htaken
    exact hother status hstatus htaken.1
  · rintro ⟨-, hcurrent⟩
    change versionsEqual "v1" (trim "v2") = true at hcurrent
    rw [hversion] at hcurrent
    cases hcurrent

theorem step_namedCall {toolExists : Text → Bool} {history : UpgradeHistory} {id : Text} (hid : trim id ≠ [])
    (hother : ∀ status, history.manager.status = some status → status.id ≠ trim id) :
    ∃ status, status.id = trim id ∧ history.step toolExists (namedCall id) =
      { manager := { status := some status }, launches := (trim id, true) :: history.launches } := by
  have hlaunched := @launched_namedCall toolExists history.manager id hid hother
  rcases @request_cases toolExists history.manager (namedCall id) with ⟨-, error, hrequest⟩ | ⟨component, -,
    ⟨status, -, -, hrequest⟩ | ⟨-, ⟨-, -, status, -, -, hrequest⟩ | ⟨-, hrequest⟩⟩⟩
  · rw [hrequest] at hlaunched
    cases hlaunched
  · rw [hrequest] at hlaunched
    cases hlaunched
  · rw [hrequest] at hlaunched
    cases hlaunched
  · refine ⟨(namedCall id).afterLaunch toolExists component, afterLaunch_id, ?_⟩
    simp only [UpgradeHistory.step, hrequest]
    rfl

/-- After `a`, `b` and `a` again, `a` was launched twice. -/
theorem launched_twice :
    ([namedCall "a", namedCall "b", namedCall "a"].foldl (UpgradeHistory.step fun _ => false) {}).launches =
      [(("a" : Text), true), (("b" : Text), true), (("a" : Text), true)] ∧
    ¬ Along (fun history call => some (history.step (fun _ => false) call)) (RunsOnce fun _ => false)
      [namedCall "a", namedCall "b", namedCall "a"] {} := by
  have ha : trim "a" = "a" := by decide +kernel
  have hb : trim "b" = "b" := by decide +kernel
  have hne : trim "a" ≠ [] ∧ trim "b" ≠ [] ∧ trim "a" ≠ trim "b" := by decide +kernel
  have hstart : ∀ status, ({} : UpgradeHistory).manager.status = some status → status.id ≠ trim "a" := by
    intro status hstatus
    cases hstatus
  obtain ⟨first, hfirst, hstep₁⟩ := @step_namedCall (fun _ => false) {} "a" hne.1 hstart
  have hbefore : ∀ status, some first = some status → status.id ≠ trim "b" := by
    rintro status heq
    cases heq
    rw [hfirst]
    exact hne.2.2
  obtain ⟨second, hsecond, hstep₂⟩ := @step_namedCall (fun _ => false)
    { manager := { status := some first }, launches := [(trim "a", true)] } "b" hne.2.1 hbefore
  have hother : ∀ status, some second = some status → status.id ≠ trim "a" := by
    rintro status heq
    cases heq
    rw [hsecond]
    exact hne.2.2.symm
  obtain ⟨third, -, hstep₃⟩ := @step_namedCall (fun _ => false)
    { manager := { status := some second }, launches := [(trim "b", true), (trim "a", true)] } "a" hne.1 hother
  constructor
  · rw [List.foldl_cons, List.foldl_cons, List.foldl_cons, List.foldl_nil, hstep₁, hstep₂, hstep₃, ha, hb]
  · intro h
    have honce := ((h.2 _ rfl).2 _ rfl).1.once
    rw [hstep₁, hstep₂] at honce
    have hnone := honce (List.mem_cons_of_mem _ List.mem_cons_self)
    rw [launched_namedCall hne.1 hother] at hnone
    cases hnone

/-- A command whose launch fails, its repetition once the version runs, and a later version under its id. -/
def settledCalls : List UpgradeCall :=
  [{ namedCall "a" with launch := fun _ => .error "exit 1" }, { namedCall "a" with currentVersion := "v2" },
    { namedCall "a" with command := { id := "a", targetVersion := "v3" }, currentVersion := "v2" }]

/-- The last launch of `a` failed, and `a` is not launched again. -/
example :
    (settledCalls.foldl (UpgradeHistory.step fun _ => false) {}).launches = [(("a" : Text), false)] := by
  decide +kernel

end KeliNode
