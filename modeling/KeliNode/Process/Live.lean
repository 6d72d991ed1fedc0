import KeliNode.Lib.Run
import KeliNode.Process.Supervisor

/-!
# Runs of the process supervisor

`Tracked` holds in every run: a child is a process of its name.  `Supervised` holds of a name as long as every stop
of it succeeded: a live process of the name is its child, and the status kept for a name without a child is not
`running`.  An operation on one name leaves the others alone (`Frame`), so the invariant of a name is carried
through any interleaving of operations on all names with processes that exit by themselves (`supervised_run`).

A stop that fails forgets the child but keeps the status of its start.  From then on the name counts as running,
whatever became of the process, and no start starts anything before the next stop (`failed_stop_sticks`).
-/

namespace KeliNode

open Lib

namespace Supervisor

/-- A process of the name that has not ended. -/
def Alive (world : SupervisorWorld) (name : Text) (handle : Nat) (process : OsProcess) : Prop :=
  world.processes[handle]? = some process ∧ process.exit = none ∧ process.spec.name = name

/-- Every child is a process of its name, and the status set when it was started is still there. -/
def Tracked (world : SupervisorWorld) : Prop :=
  ∀ (name : Text) (child : Child), world.children[name]? = some child →
    (∃ process : OsProcess, world.processes[child.handle]? = some process ∧ process.spec.name = name ∧ process.pid = child.pid) ∧
      world.statuses[name]? = some (ProcessStatus.running name child.pid)

/-- The live processes of the name are its child, and without a child the name is not said to be running. -/
structure Supervised (world : SupervisorWorld) (name : Text) : Prop where
  alive : ∀ handle process, Alive world name handle process → world.children[name]? = some ⟨handle, process.pid⟩
  quiet : world.children[name]? = none →
    ∀ status : ProcessStatus, world.statuses[name]? = some status → status.isRunning = false

/-- Nothing of the name has changed. -/
structure Frame (name : Text) (world world' : SupervisorWorld) : Prop where
  children : world'.children[name]? = world.children[name]?
  statuses : world'.statuses[name]? = world.statuses[name]?
  alive : ∀ handle process, Alive world' name handle process ↔ Alive world name handle process

/-! ## The parts of an operation -/

section

variable {world : SupervisorWorld} {name other : Text}

theorem children_forget : (world.forget name).children[other]? = if other = name then none else world.children[other]? := by
  by_cases h : other = name
  · simp [SupervisorWorld.forget, h]
  · simp [SupervisorWorld.forget, Std.ExtTreeMap.getElem?_erase, h, Ne.symm h]

theorem statuses_setStatus (status : ProcessStatus) :
    (world.setStatus status).statuses[other]? = if other = status.name then some status else world.statuses[other]? := by
  by_cases h : other = status.name
  · simp [SupervisorWorld.setStatus, h]
  · simp [SupervisorWorld.setStatus, Std.ExtTreeMap.getElem?_insert, h, Ne.symm h]

theorem processes_finish (handle i : Nat) (code : Option Int) :
    (world.finish handle code).processes[i]? =
      if handle = i then (world.processes[i]?).map (·.finish code) else world.processes[i]? := by
  rw [SupervisorWorld.finish, List.getElem?_modify]
  by_cases h : handle = i <;> simp [h]

/-- A process that ended is none of the live ones. -/
theorem alive_finish {handle i : Nat} {code : Option Int} {process : OsProcess} :
    Alive (world.finish handle code) name i process ↔ handle ≠ i ∧ Alive world name i process := by
  unfold Alive
  rw [processes_finish]
  by_cases h : handle = i
  · rw [if_pos h]
    refine ⟨?_, fun hne => absurd h hne.1⟩
    rintro ⟨hget, hexit, -⟩
    obtain ⟨process, -, rfl⟩ := Option.map_eq_some_iff.1 hget
    cases hexit
  · simp [h]

theorem Frame.trans {a b c : SupervisorWorld} (hab : Frame name a b) (hbc : Frame name b c) : Frame name a c where
  children := hbc.children.trans hab.children
  statuses := hbc.statuses.trans hab.statuses
  alive handle process := (hbc.alive handle process).trans (hab.alive handle process)

theorem Frame.rfl : Frame name world world := ⟨.refl _, .refl _, fun _ _ => .rfl⟩

theorem Frame.supervised {world' : SupervisorWorld} (hframe : Frame name world world') (h : Supervised world name) :
    Supervised world' name where
  alive handle process halive := by
    rw [hframe.children]
    exact h.alive handle process ((hframe.alive handle process).1 halive)
  quiet hnone := by
    rw [hframe.children] at hnone
    rw [hframe.statuses]
    exact h.quiet hnone

theorem frame_forget (hne : name ≠ other) : Frame name world (world.forget other) where
  children := by rw [children_forget, if_neg hne]
  statuses := .refl _
  alive _ _ := .rfl

theorem frame_setStatus {status : ProcessStatus} (hne : name ≠ status.name) : Frame name world (world.setStatus status) where
  children := .refl _
  statuses := by rw [statuses_setStatus, if_neg hne]
  alive _ _ := .rfl

theorem frame_finish {handle : Nat} {code : Option Int}
    (hne : ∀ process, world.processes[handle]? = some process → process.spec.name ≠ name) :
    Frame name world (world.finish handle code) where
  children := .refl _
  statuses := .refl _
  alive i process := by
    rw [alive_finish]
    refine and_iff_right_of_imp fun halive h => ?_
    exact hne process (h ▸ halive.1) halive.2.2

theorem tracked_forget (h : Tracked world) : Tracked (world.forget name) := by
  intro other child hchild
  rw [children_forget] at hchild
  by_cases heq : other = name
  · rw [if_pos heq] at hchild
    cases hchild
  · rw [if_neg heq] at hchild
    exact h other child hchild

theorem tracked_setStatus (h : Tracked world) {status : ProcessStatus} (hnone : world.children[status.name]? = none) :
    Tracked (world.setStatus status) := by
  intro other child hchild
  obtain ⟨hprocess, hstatus⟩ := h other child hchild
  refine ⟨hprocess, ?_⟩
  rw [statuses_setStatus, if_neg, hstatus]
  rintro rfl
  rw [show (world.setStatus status).children = world.children from rfl, hnone] at hchild
  cases hchild

theorem tracked_finish (h : Tracked world) (handle : Nat) (code : Option Int) : Tracked (world.finish handle code) := by
  intro other child hchild
  obtain ⟨⟨process, hget, hname, hpid⟩, hstatus⟩ := h other child hchild
  refine ⟨?_, hstatus⟩
  by_cases heq : handle = child.handle
  · exact ⟨process.finish code, by rw [processes_finish, if_pos heq, hget]; rfl, hname, hpid⟩
  · exact ⟨process, by rw [processes_finish, if_neg heq, hget], hname, hpid⟩

end

/-! ## One operation -/

/-- The world after a spawn. -/
def spawned (spec : ProcessSpec) (pid : Nat) (world : SupervisorWorld) : SupervisorWorld where
  processes := world.processes ++ [{ spec, pid }]
  children := world.children.insert spec.name { handle := world.processes.length, pid }
  statuses := world.statuses.insert spec.name (.running spec.name pid)

section

variable {answers : OsAnswers} {world : SupervisorWorld} {name : Text}

theorem children_spawned (spec : ProcessSpec) (pid : Nat) : (spawned spec pid world).children[name]? =
    if name = spec.name then some { handle := world.processes.length, pid } else world.children[name]? := by
  by_cases h : name = spec.name
  · simp [spawned, h]
  · simp [spawned, Std.ExtTreeMap.getElem?_insert, h, Ne.symm h]

theorem statuses_spawned (spec : ProcessSpec) (pid : Nat) : (spawned spec pid world).statuses[name]? =
    if name = spec.name then some (.running spec.name pid) else world.statuses[name]? := by
  by_cases h : name = spec.name
  · simp [spawned, h]
  · simp [spawned, Std.ExtTreeMap.getElem?_insert, h, Ne.symm h]

theorem alive_spawned {spec : ProcessSpec} {pid handle : Nat} {process : OsProcess} :
    Alive (spawned spec pid world) name handle process ↔ Alive world name handle process ∨
      (spec.name = name ∧ handle = world.processes.length ∧ process = { spec, pid }) := by
  have hget : (spawned spec pid world).processes[handle]? =
      if handle < world.processes.length then world.processes[handle]?
      else if handle = world.processes.length then some { spec, pid } else none := by
    rw [spawned, List.getElem?_append]
    by_cases hlt : handle < world.processes.length
    · rw [if_pos hlt, if_pos hlt]
    · rw [if_neg hlt, if_neg hlt, List.getElem?_singleton]
      exact if_congr (by omega) rfl rfl
  unfold Alive
  rw [hget]
  by_cases hlt : handle < world.processes.length
  · rw [if_pos hlt]
    refine ⟨.inl, fun h => h.resolve_right ?_⟩
    rintro ⟨-, rfl, -⟩
    omega
  · have hnone : world.processes[handle]? = none := List.getElem?_eq_none (by omega)
    rw [if_neg hlt, hnone]
    constructor
    · rintro ⟨hsome, hexit, hname⟩
      by_cases heq : handle = world.processes.length
      · rw [if_pos heq] at hsome
        cases hsome
        exact .inr ⟨hname, heq, rfl⟩
      · rw [if_neg heq] at hsome
        cases hsome
    · rintro (⟨hsome, -⟩ | ⟨hname, heq, rfl⟩)
      · cases hsome
      · exact ⟨by rw [if_pos heq], rfl, hname⟩

theorem tracked_spawned (h : Tracked world) (spec : ProcessSpec) (pid : Nat) : Tracked (spawned spec pid world) := by
  intro other child hchild
  rw [children_spawned] at hchild
  rw [statuses_spawned]
  by_cases heq : other = spec.name
  · rw [if_pos heq] at hchild
    cases hchild
    refine ⟨⟨{ spec, pid }, ?_, heq.symm, rfl⟩, by rw [if_pos heq, heq]⟩
    simp [spawned]
  · rw [if_neg heq] at hchild
    obtain ⟨⟨process, hget, hrest⟩, hstatus⟩ := h other child hchild
    refine ⟨⟨process, ?_, hrest⟩, by rw [if_neg heq, hstatus]⟩
    rw [spawned, List.getElem?_append_left (List.getElem?_eq_some_iff.1 hget).1, hget]

/-- **Inversion** of `start`: what its status call leaves, and the process it spawns where that is not running. -/
theorem start_cases (answers : OsAnswers) (world : SupervisorWorld) (spec : ProcessSpec) :
    ((start answers spec world).2 = (status answers spec.name world).2 ∧
      ((∃ error, (start answers spec world).1 = .error error) ∨
        ∃ current, current.isRunning = true ∧ (status answers spec.name world).1 = .ok current ∧
          (start answers spec world).1 = .ok current)) ∨
    ∃ current pid, current.isRunning = false ∧ (status answers spec.name world).1 = .ok current ∧
      start answers spec world =
        (.ok (.running spec.name pid), spawned spec pid (status answers spec.name world).2) := by
  unfold start
  rcases status answers spec.name world with ⟨result, mid⟩
  cases result with
  | error error => exact .inl ⟨rfl, .inl ⟨error, rfl⟩⟩
  | ok current =>
    cases hrunning : current.isRunning with
    | true => exact .inl ⟨by simp [hrunning], .inr ⟨current, hrunning, rfl, by simp [hrunning]⟩⟩
    | false =>
      cases answers.spawn with
      | error error => exact .inl ⟨by simp [hrunning], .inl ⟨_, by simp [hrunning]; rfl⟩⟩
      | ok pid => exact .inr ⟨current, pid, hrunning, rfl, by simp [hrunning, spawned]⟩

theorem reload_cases (world : SupervisorWorld) (stopAnswers startAnswers : OsAnswers) (spec : ProcessSpec) :
    (∃ error, (stop stopAnswers spec.name world).1 = .error error ∧
      reload stopAnswers startAnswers spec world = (.error error, (stop stopAnswers spec.name world).2)) ∨
    ∃ stopped, (stop stopAnswers spec.name world).1 = .ok stopped ∧
      reload stopAnswers startAnswers spec world = start startAnswers spec (stop stopAnswers spec.name world).2 := by
  unfold reload
  rcases stop stopAnswers spec.name world with ⟨result, mid⟩
  cases result with
  | error error => exact .inl ⟨error, rfl, rfl⟩
  | ok stopped => exact .inr ⟨stopped, rfl, rfl⟩

/-! ## Children stay processes of their name -/

theorem tracked_status (h : Tracked world) : Tracked (status answers name world).2 := by
  rcases status_cases answers name world with
    ⟨_, _, _, _, heq⟩ | ⟨_, _, _, _, heq⟩ | ⟨_, code, _, _, _, heq⟩ | ⟨_, heq⟩
  · rwa [heq]
  · rwa [heq]
  · rw [heq]
    exact tracked_setStatus (tracked_forget h) (by rw [children_forget]; exact if_pos rfl)
  · rwa [heq]

theorem tracked_start (h : Tracked world) (spec : ProcessSpec) : Tracked (start answers spec world).2 := by
  rcases start_cases answers world spec with ⟨heq, -⟩ | ⟨_, pid, -, -, heq⟩
  · rw [heq]
    exact tracked_status h
  · rw [heq]
    exact tracked_spawned (tracked_status h) spec pid

theorem tracked_stop (h : Tracked world) : Tracked (stop answers name world).2 := by
  have hforget : Tracked (world.forget name) := tracked_forget h
  have hnone : (world.forget name).children[name]? = none := by rw [children_forget, if_pos rfl]
  rcases stop_cases answers name world with
    ⟨hchild, status, hname, -, heq⟩ | ⟨child, -, -, _, heq | heq⟩ | ⟨_, _, _, _, heq⟩ |
      ⟨child, -, status, hname, -, ⟨-, heq⟩ | ⟨-, heq⟩⟩
  · rw [heq]
    exact tracked_setStatus h (by rw [hname, hchild])
  · rwa [heq]
  · rw [heq]
    exact tracked_finish hforget _ _
  · rwa [heq]
  · rw [heq]
    exact tracked_setStatus hforget (by rw [hname, hnone])
  · rw [heq]
    exact tracked_setStatus (tracked_finish hforget _ _) (by rw [hname]; exact hnone)

theorem tracked_reload {startAnswers : OsAnswers} (h : Tracked world) (spec : ProcessSpec) :
    Tracked (reload answers startAnswers spec world).2 := by
  rcases reload_cases world answers startAnswers spec with ⟨_, -, heq⟩ | ⟨_, -, heq⟩
  · rw [heq]
    exact tracked_stop h
  · rw [heq]
    exact tracked_start (tracked_stop h) spec

/-- **Every step** keeps the children processes of their names. -/
theorem tracked_run (h : Tracked world) (event : ProcessEvent) : Tracked (event.run world) := by
  cases event with
  | start answers spec => exact tracked_start h spec
  | reload stopAnswers startAnswers spec => exact tracked_reload h spec
  | stop answers name => exact tracked_stop h
  | status answers name => exact tracked_status h
  | exits handle code => exact tracked_finish h handle code

/-! ## Other names are left alone -/

section

variable {target : Text} (hne : name ≠ target)
include hne

theorem frame_status : Frame name world (status answers target world).2 := by
  rcases status_cases answers target world with
    ⟨_, _, _, _, heq⟩ | ⟨_, _, _, _, heq⟩ | ⟨_, code, _, _, _, heq⟩ | ⟨_, heq⟩
  · rw [heq]
    exact .rfl
  · rw [heq]
    exact .rfl
  · rw [heq]
    exact (frame_forget hne).trans (frame_setStatus hne)
  · rw [heq]
    exact .rfl

omit hne in
theorem frame_spawned {spec : ProcessSpec} (hne : name ≠ spec.name) (pid : Nat) :
    Frame name world (spawned spec pid world) where
  children := by rw [children_spawned, if_neg hne]
  statuses := by rw [statuses_spawned, if_neg hne]
  alive handle process := by
    rw [alive_spawned]
    exact or_iff_left fun h => hne h.1.symm

omit hne in
theorem frame_start {spec : ProcessSpec} (hne : name ≠ spec.name) : Frame name world (start answers spec world).2 := by
  rcases start_cases answers world spec with ⟨heq, -⟩ | ⟨_, pid, -, -, heq⟩
  · rw [heq]
    exact frame_status hne
  · rw [heq]
    exact (frame_status hne).trans (frame_spawned hne pid)

theorem frame_stop (ht : Tracked world) : Frame name world (stop answers target world).2 := by
  have hforget : Frame name world (world.forget target) := frame_forget hne
  -- the process of the stopped child is the target's
  have hfinish : ∀ child, world.children[target]? = some child →
      Frame name (world.forget target) ((world.forget target).finish child.handle answers.killedCode) := by
    intro child hchild
    obtain ⟨⟨process, hget, hname, -⟩, -⟩ := ht target child hchild
    refine frame_finish fun other hother => ?_
    rw [show (world.forget target).processes = world.processes from rfl, hget] at hother
    cases hother
    rw [hname]
    exact hne.symm
  rcases stop_cases answers target world with
    ⟨-, status, hname, -, heq⟩ | ⟨child, hchild, -, _, heq | heq⟩ | ⟨_, _, _, _, heq⟩ |
      ⟨child, hchild, status, hname, -, ⟨-, heq⟩ | ⟨-, heq⟩⟩
  · rw [heq]
    exact frame_setStatus (by rwa [hname])
  · rwa [heq]
  · rw [heq]
    exact hforget.trans (hfinish child hchild)
  · rwa [heq]
  · rw [heq]
    exact hforget.trans (frame_setStatus (by rwa [hname]))
  · rw [heq]
    exact (hforget.trans (hfinish child hchild)).trans (frame_setStatus (by rwa [hname]))

omit hne in
theorem frame_reload {startAnswers : OsAnswers} {spec : ProcessSpec} (hne : name ≠ spec.name) (ht : Tracked world) :
    Frame name world (reload answers startAnswers spec world).2 := by
  rcases reload_cases world answers startAnswers spec with ⟨_, -, heq⟩ | ⟨_, -, heq⟩
  · rw [heq]
    exact frame_stop hne ht
  · rw [heq]
    exact (frame_stop hne ht).trans (frame_start hne)

end

/-! ## The name itself -/

theorem not_alive_of_none (hs : Supervised world name) (hnone : world.children[name]? = none) (handle : Nat)
    (process : OsProcess) : ¬Alive world name handle process := by
  intro halive
  rw [hs.alive handle process halive] at hnone
  cases hnone

theorem not_alive_of_exit (hs : Supervised world name) {child : Child} {code : Option Int}
    (hchild : world.children[name]? = some child) (hexit : world.exitOf child = some code) (handle : Nat)
    (process : OsProcess) : ¬Alive world name handle process := by
  intro halive
  rw [hs.alive handle process halive] at hchild
  cases hchild
  rw [SupervisorWorld.exitOf, halive.1] at hexit
  have hnone : process.exit = some code := hexit
  rw [halive.2.1] at hnone
  cases hnone

/-- A child that has not exited is the live process of its name. -/
theorem alive_of_child (ht : Tracked world) {child : Child} (hchild : world.children[name]? = some child)
    (hexit : world.exitOf child = none) : ∃ process, Alive world name child.handle process ∧ process.pid = child.pid := by
  obtain ⟨⟨process, hget, hname, hpid⟩, -⟩ := ht name child hchild
  refine ⟨process, ⟨hget, ?_, hname⟩, hpid⟩
  rw [SupervisorWorld.exitOf, hget] at hexit
  exact hexit

theorem supervised_of_ended (hended : ∀ handle process, ¬Alive world name handle process)
    {status : ProcessStatus} (hstatus : world.statuses[name]? = some status) (hstill : status.isRunning = false) :
    Supervised world name where
  alive handle process halive := absurd halive (hended handle process)
  quiet _ other hother := by
    rw [hstatus] at hother
    cases hother
    exact hstill

/-- What `status` does to its name: the processes stay, and where it does not fail it says whether one lives. -/
theorem status_spec (answers : OsAnswers) (ht : Tracked world) (hs : Supervised world name) :
    Supervised (status answers name world).2 name ∧
      (status answers name world).2.processes = world.processes ∧
      ∀ current, (status answers name world).1 = .ok current →
        (current.isRunning = true ∧ ∃ handle process, Alive world name handle process ∧ current = .running name process.pid) ∨
        (current.isRunning = false ∧ (∀ handle process, ¬Alive world name handle process) ∧
          (status answers name world).2.children[name]? = none) := by
  rcases status_cases answers name world with
    ⟨_, _, _, _, heq⟩ | ⟨child, hchild, _, hexit, heq⟩ | ⟨child, code, hchild, _, hexit, heq⟩ | ⟨hnone, heq⟩
  · rw [heq]
    exact ⟨hs, rfl, fun _ h => by cases h⟩
  · rw [heq]
    obtain ⟨process, halive, hpid⟩ := alive_of_child ht hchild hexit
    refine ⟨hs, rfl, fun current h => ?_⟩
    cases h
    exact .inl ⟨rfl, child.handle, process, halive, by rw [hpid]⟩
  · have hended := not_alive_of_exit hs hchild hexit
    rw [heq]
    refine ⟨supervised_of_ended hended (statuses_setStatus _ |>.trans (if_pos rfl)) rfl, rfl, fun current h => ?_⟩
    cases h
    refine .inr ⟨rfl, hended, ?_⟩
    rw [show ∀ s, ((world.forget name).setStatus s).children = (world.forget name).children from fun _ => rfl,
      children_forget, if_pos rfl]
  · rw [heq]
    refine ⟨hs, rfl, fun current h => .inr ?_⟩
    have hcurrent : world.statuses.getD name (.stopped name "process was never started") = current := by
      simpa using h
    refine ⟨?_, not_alive_of_none hs hnone, hnone⟩
    rw [← hcurrent, Std.ExtTreeMap.getD_eq_getD_getElem?]
    cases hstatus : world.statuses[name]? with
    | none => rfl
    | some status => exact hs.quiet hnone status hstatus

/-- What `start` does to its name: where it does not fail one process of the name lives, the one that lived before or
a new one of the given spec. -/
theorem start_spec (ht : Tracked world) {spec : ProcessSpec} (hname : spec.name = name) (hs : Supervised world name) :
    Supervised (start answers spec world).2 name ∧
      ∀ current, (start answers spec world).1 = .ok current →
        ∃ handle process, Alive (start answers spec world).2 name handle process ∧
          current = .running name process.pid ∧ (Alive world name handle process ∨
            (∀ handle process, ¬Alive world name handle process) ∧ process.spec = spec) := by
  subst hname
  obtain ⟨hmid, hsame, hcurrent⟩ := status_spec answers ht hs
  have halive : ∀ handle process, Alive (status answers spec.name world).2 spec.name handle process ↔
      Alive world spec.name handle process := by
    intro handle process
    rw [Alive, hsame, Alive]
  rcases start_cases answers world spec with
    ⟨heq, ⟨_, herror⟩ | ⟨current, hrunning, hstatus, hok⟩⟩ | ⟨current, pid, hstill, hstatus, heq⟩
  · rw [heq, herror]
    exact ⟨hmid, fun _ h => by cases h⟩
  · rw [heq, hok]
    refine ⟨hmid, fun other h => ?_⟩
    cases h
    rcases hcurrent current hstatus with ⟨-, handle, process, hlives, hpid⟩ | ⟨hstill, -⟩
    · exact ⟨handle, process, (halive handle process).2 hlives, hpid, .inl hlives⟩
    · rw [hrunning] at hstill
      cases hstill
  · rw [heq]
    rcases hcurrent current hstatus with ⟨hrunning, -⟩ | ⟨-, hnone, hchild⟩
    · rw [hrunning] at hstill
      cases hstill
    · refine ⟨⟨?_, ?_⟩, fun other h => ?_⟩
      · intro handle process hlives
        rw [alive_spawned, halive] at hlives
        obtain ⟨-, rfl, rfl⟩ := hlives.resolve_left (hnone handle process)
        rw [children_spawned, if_pos rfl]
      · intro hgone
        rw [children_spawned, if_pos rfl] at hgone
        cases hgone
      · cases h
        refine ⟨_, { spec, pid }, alive_spawned.2 (.inr ⟨rfl, rfl, rfl⟩), rfl, .inr ⟨hnone, rfl⟩⟩

/-- What `stop` does to its name where it does not fail: no process of the name lives. -/
theorem stop_spec (hs : Supervised world name) {current : ProcessStatus}
    (hok : (stop answers name world).1 = .ok current) :
    Supervised (stop answers name world).2 name ∧ current.isRunning = false ∧
      ∀ handle process, ¬Alive (stop answers name world).2 name handle process := by
  rcases stop_cases answers name world with
    ⟨hchild, status, hname, hstill, heq⟩ | ⟨child, -, -, _, heq | heq⟩ | ⟨_, _, _, _, heq⟩ |
      ⟨child, hchild, status, hname, hstill, ⟨⟨code, hexit⟩, heq⟩ | ⟨hexit, heq⟩⟩
  · rw [heq] at hok ⊢
    cases hok
    have hended := not_alive_of_none hs hchild
    exact ⟨supervised_of_ended hended (statuses_setStatus _ |>.trans (if_pos hname.symm)) hstill, hstill, hended⟩
  · rw [heq] at hok
    cases hok
  · rw [heq] at hok
    cases hok
  · rw [heq] at hok
    cases hok
  · rw [heq] at hok ⊢
    cases hok
    have hended := not_alive_of_exit hs hchild hexit
    exact ⟨supervised_of_ended hended (statuses_setStatus _ |>.trans (if_pos hname.symm)) hstill, hstill, hended⟩
  · rw [heq] at hok ⊢
    cases hok
    have hended : ∀ handle process,
        ¬Alive ((world.forget name).finish child.handle answers.killedCode) name handle process := by
      intro handle process halive
      obtain ⟨hne, halive⟩ := alive_finish.1 halive
      have hsame := hs.alive handle process halive
      rw [hchild] at hsame
      cases hsame
      exact hne rfl
    exact ⟨supervised_of_ended hended (statuses_setStatus _ |>.trans (if_pos hname.symm)) hstill, hstill, hended⟩

end

/-! ## Runs -/

/-- A stop of the name that is part of the event succeeds. -/
def ProcessEvent.StopOk (name : Text) (world : SupervisorWorld) : ProcessEvent → Prop
  | stop answers target => target = name → ∃ status, (Supervisor.stop answers target world).1 = .ok status
  | reload stopAnswers _ spec => spec.name = name → ∃ status, (Supervisor.stop stopAnswers spec.name world).1 = .ok status
  | _ => True

/-- Every stop of the name in the run succeeds. -/
def StopsOk (name : Text) (events : List ProcessEvent) (world : SupervisorWorld) : Prop :=
  Along (fun world event => some (event.run world)) (fun world event => event.StopOk name world) events world

/-- **Every step** keeps a name supervised, unless it is a stop of it that fails. -/
theorem supervised_step {world : SupervisorWorld} {name : Text} (ht : Tracked world) (hs : Supervised world name)
    (event : ProcessEvent) (hok : event.StopOk name world) : Supervised (event.run world) name := by
  cases event with
  | start answers spec =>
    by_cases hname : spec.name = name
    · exact (start_spec ht hname hs).1
    · exact (frame_start (Ne.symm hname)).supervised hs
  | reload stopAnswers startAnswers spec =>
    by_cases hname : spec.name = name
    · subst hname
      obtain ⟨status, hstatus⟩ := hok rfl
      have hstopped := (stop_spec hs hstatus).1
      rw [ProcessEvent.run]
      rcases reload_cases world stopAnswers startAnswers spec with ⟨_, -, heq⟩ | ⟨_, -, heq⟩
      · rwa [heq]
      · rw [heq]
        exact (start_spec (tracked_stop ht) rfl hstopped).1
    · exact (frame_reload (Ne.symm hname) ht).supervised hs
  | stop answers target =>
    by_cases hname : target = name
    · subst hname
      obtain ⟨status, hstatus⟩ := hok rfl
      exact (stop_spec hs hstatus).1
    · exact (frame_stop (Ne.symm hname) ht).supervised hs
  | status answers target =>
    by_cases hname : target = name
    · subst hname
      exact (status_spec _ ht hs).1
    · exact (frame_status (Ne.symm hname)).supervised hs
  | exits handle code =>
    exact ⟨fun i process halive => hs.alive i process (alive_finish.1 halive).2, hs.quiet⟩

theorem tracked_runEvents {world : SupervisorWorld} (h : Tracked world) (events : List ProcessEvent) :
    Tracked (runEvents events world) := by
  induction events generalizing world with
  | nil => exact h
  | cons event events ih => exact ih (tracked_run h event)

/-- **A run** keeps a name supervised as long as its stops succeed. -/
theorem supervised_runEvents {world : SupervisorWorld} {name : Text} (ht : Tracked world) (hs : Supervised world name)
    (events : List ProcessEvent) (hok : StopsOk name events world) : Supervised (runEvents events world) name := by
  induction events generalizing world with
  | nil => exact hs
  | cons event events ih => exact ih (tracked_run ht event) (supervised_step ht hs event hok.1) (hok.2 _ rfl)

theorem tracked_empty : Tracked {} := by
  intro name child hchild
  cases hchild

theorem supervised_empty (name : Text) : Supervised {} name where
  alive handle process h := by cases h.1
  quiet _ status h := by cases h

/-- What the operations promise of a name. -/
structure Promises (world : SupervisorWorld) (name : Text) : Prop where
  one_alive : ∀ handle process handle' process', Alive world name handle process → Alive world name handle' process' →
    handle = handle'
  status_true : ∀ answers current, (status answers name world).1 = .ok current →
    (status answers name world).2.processes = world.processes ∧
    (current.isRunning = true ↔ ∃ handle process, Alive world name handle process) ∧
    ∀ handle process, Alive world name handle process → current = .running name process.pid
  start_one : ∀ answers spec current, spec.name = name → (start answers spec world).1 = .ok current →
    ∃ handle process, Alive (start answers spec world).2 name handle process ∧ current = .running name process.pid ∧
      (Alive world name handle process ∨ (∀ handle process, ¬Alive world name handle process) ∧ process.spec = spec)
  stop_none : ∀ answers current, (stop answers name world).1 = .ok current →
    current.isRunning = false ∧ ∀ handle process, ¬Alive (stop answers name world).2 name handle process
  reload_new : ∀ stopAnswers startAnswers spec current, spec.name = name →
    (reload stopAnswers startAnswers spec world).1 = .ok current →
    ∃ handle process, Alive (reload stopAnswers startAnswers spec world).2 name handle process ∧
      current = .running name process.pid ∧ process.spec = spec
  others_kept : ∀ other, other ≠ name → (∀ answers spec, spec.name = name → Frame other world (start answers spec world).2) ∧
    (∀ answers, Frame other world (stop answers name world).2) ∧ ∀ answers, Frame other world (status answers name world).2

/-- **Supervision**: after any interleaving of operations on all names with processes that exit by themselves, in
which every stop of the name succeeded, one process of the name lives at most, `status` says whether one does,
`start` leaves it or starts the first, `stop` leaves none and `reload` leaves one of the new spec. -/
theorem supervised_run (name : Text) (events : List ProcessEvent) (hok : StopsOk name events {}) :
    Promises (runEvents events {}) name := by
  have ht : Tracked (runEvents events {}) := tracked_runEvents tracked_empty events
  have hs : Supervised (runEvents events {}) name := supervised_runEvents tracked_empty (supervised_empty name) events hok
  have hone : ∀ handle process handle' process', Alive (runEvents events {}) name handle process →
      Alive (runEvents events {}) name handle' process' → handle = handle' ∧ process.pid = process'.pid := by
    intro handle process handle' process' h h'
    have hsame := (hs.alive handle process h).symm.trans (hs.alive handle' process' h')
    simpa using hsame
  constructor
  · exact fun handle process handle' process' h h' => (hone handle process handle' process' h h').1
  · intro answers current hcurrent
    obtain ⟨-, hsame, hspec⟩ := status_spec answers ht hs
    refine ⟨hsame, ?_⟩
    rcases hspec current hcurrent with ⟨hrunning, handle, process, halive, heq⟩ | ⟨hstill, hnone, -⟩
    · refine ⟨⟨fun _ => ⟨handle, process, halive⟩, fun _ => hrunning⟩, fun handle' process' halive' => ?_⟩
      rw [heq, (hone handle process handle' process' halive halive').2]
    · refine ⟨⟨fun h => ?_, ?_⟩, fun handle process halive => absurd halive (hnone handle process)⟩
      · rw [hstill] at h
        cases h
      · rintro ⟨handle, process, halive⟩
        exact absurd halive (hnone handle process)
  · exact fun answers spec current hname hcurrent => (start_spec ht hname hs).2 current hcurrent
  · exact fun answers current hcurrent => (stop_spec hs hcurrent).2
  · rintro stopAnswers startAnswers spec current rfl hcurrent
    rcases reload_cases (runEvents events {}) stopAnswers startAnswers spec with
      ⟨_, -, heq⟩ | ⟨stopped, hstopped, heq⟩
    · rw [heq] at hcurrent
      cases hcurrent
    · rw [heq] at hcurrent ⊢
      obtain ⟨hmid, -, hnone⟩ := stop_spec hs hstopped
      obtain ⟨handle, process, halive, hpid, hold | ⟨-, hspec⟩⟩ :=
        (start_spec (tracked_stop ht) rfl hmid).2 current hcurrent
      · exact absurd hold (hnone handle process)
      · exact ⟨handle, process, halive, hpid, hspec⟩
  · refine fun other hne => ⟨?_, ?_, ?_⟩
    · rintro answers spec rfl
      exact frame_start hne
    · exact fun answers => frame_stop hne ht
    · exact fun answers => frame_status hne

/-- A core that is started, exits by itself, is started again and stopped. -/
def coreSpec : ProcessSpec := { name := "core:keli-core-rs", command := "keli-core-rs" }

def coreEvents : List ProcessEvent :=
  [.start { spawn := .ok 41 } coreSpec, .exits 0 (some 1), .start { spawn := .ok 42 } coreSpec, .stop {} coreSpec.name,
    .start { spawn := .ok 43 } coreSpec]

theorem supervised_run_core : StopsOk coreSpec.name coreEvents {} ∧ Promises (runEvents coreEvents {}) coreSpec.name := by
  have hok : StopsOk coreSpec.name coreEvents {} := by
    refine ⟨trivial, fun _ h => ?_⟩
    cases h
    refine ⟨trivial, fun _ h => ?_⟩
    cases h
    refine ⟨trivial, fun _ h => ?_⟩
    cases h
    refine ⟨fun _ => ⟨.stopped coreSpec.name "stopped with code None", rfl⟩, fun _ h => ?_⟩
    cases h
    exact ⟨trivial, fun _ _ => trivial⟩
  exact ⟨hok, supervised_run coreSpec.name coreEvents hok⟩

/-! ## A stop that fails -/

/-- The event stops the name, at least as a part. -/
def ProcessEvent.Stops (name : Text) : ProcessEvent → Prop
  | stop _ target => target = name
  | reload _ _ spec => spec.name = name
  | _ => False

/-- The name has no child, and the status kept for it says that it is running. -/
structure Stuck (world : SupervisorWorld) (name : Text) (pid : Nat) : Prop where
  forgotten : world.children[name]? = none
  remembered : world.statuses[name]? = some (.running name pid)

section

variable {world : SupervisorWorld} {name : Text} {pid : Nat}

theorem stuck_of_failed_stop (ht : Tracked world) {answers : OsAnswers} {child : Child} {error : Text}
    (hchild : world.children[name]? = some child) (hfail : (stop answers name world).1 = .error error) :
    Stuck (stop answers name world).2 name child.pid := by
  have hnone : (world.forget name).children[name]? = none := by rw [children_forget, if_pos rfl]
  have hstatus : (world.forget name).statuses[name]? = some (.running name child.pid) := (ht name child hchild).2
  rcases stop_cases answers name world with
    ⟨hgone, -⟩ | ⟨_, -, -, _, heq | heq⟩ | ⟨_, _, _, _, heq⟩ | ⟨_, -, _, -, -, ⟨-, heq⟩ | ⟨-, heq⟩⟩
  · rw [hgone] at hchild
    cases hchild
  · rw [heq]
    exact ⟨hnone, hstatus⟩
  · rw [heq]
    exact ⟨hnone, hstatus⟩
  · rw [heq]
    exact ⟨hnone, hstatus⟩
  · rw [heq] at hfail
    cases hfail
  · rw [heq] at hfail
    cases hfail

theorem Stuck.status_eq (h : Stuck world name pid) (answers : OsAnswers) :
    status answers name world = (.ok (.running name pid), world) := by
  rw [Supervisor.status, h.forgotten]
  simp only [Std.ExtTreeMap.getD_eq_getD_getElem?, h.remembered, Option.getD_some]

theorem Stuck.start_eq {spec : ProcessSpec} (h : Stuck world spec.name pid) (answers : OsAnswers) :
    start answers spec world = (.ok (.running spec.name pid), world) := by
  rw [Supervisor.start, h.status_eq]
  rfl

/-- **Every step** but a stop of the name leaves it stuck. -/
theorem stuck_step (ht : Tracked world) (h : Stuck world name pid) (event : ProcessEvent) (hevent : ¬event.Stops name) :
    Stuck (event.run world) name pid := by
  have hframe : ∀ {world' : SupervisorWorld}, Frame name world world' → Stuck world' name pid := fun hframe =>
    ⟨hframe.children.trans h.forgotten, hframe.statuses.trans h.remembered⟩
  cases event with
  | start answers spec =>
    by_cases hname : spec.name = name
    · subst hname
      rw [ProcessEvent.run, h.start_eq]
      exact h
    · exact hframe (frame_start (Ne.symm hname))
  | reload stopAnswers startAnswers spec => exact hframe (frame_reload (Ne.symm hevent) ht)
  | stop answers target => exact hframe (frame_stop (Ne.symm hevent) ht)
  | status answers target =>
    by_cases hname : target = name
    · subst hname
      rw [ProcessEvent.run, h.status_eq]
      exact h
    · exact hframe (frame_status (Ne.symm hname))
  | exits handle code => exact ⟨h.forgotten, h.remembered⟩

theorem stuck_runEvents (ht : Tracked world) (h : Stuck world name pid) (events : List ProcessEvent)
    (hevents : ∀ event ∈ events, ¬event.Stops name) : Stuck (runEvents events world) name pid := by
  induction events generalizing world with
  | nil => exact h
  | cons event events ih =>
    obtain ⟨hevent, hrest⟩ := List.forall_mem_cons.1 hevents
    exact ih (tracked_run ht event) (stuck_step ht h event hevent) hrest

end

/-- **A failed stop sticks**: once a stop of a name with a child fails, in any run, every `status` and every `start`
of the name answers `running` with the old pid and starts nothing, whatever happens, up to the next stop of it. -/
theorem failed_stop_sticks (name : Text) (before : List ProcessEvent) (answers : OsAnswers) (child : Child)
    (error : Text) (hchild : (runEvents before {}).children[name]? = some child)
    (hfail : (stop answers name (runEvents before {})).1 = .error error) (after : List ProcessEvent)
    (hafter : ∀ event ∈ after, ¬event.Stops name) (later : OsAnswers) (spec : ProcessSpec) (hspec : spec.name = name) :
    status later name (runEvents after (stop answers name (runEvents before {})).2) =
      (.ok (.running name child.pid), runEvents after (stop answers name (runEvents before {})).2) ∧
    start later spec (runEvents after (stop answers name (runEvents before {})).2) =
      (.ok (.running name child.pid), runEvents after (stop answers name (runEvents before {})).2) := by
  subst hspec
  have ht : Tracked (runEvents before {}) := tracked_runEvents tracked_empty before
  have hstuck := stuck_runEvents (tracked_stop ht) (stuck_of_failed_stop ht hchild hfail) after hafter
  exact ⟨hstuck.status_eq later, hstuck.start_eq later⟩

theorem failed_stop_sticks_core :
    start { spawn := .ok 42 } coreSpec
      (runEvents [.exits 0 none] (stop { kill := some "permission denied" } coreSpec.name
        (runEvents [.start { spawn := .ok 41 } coreSpec] {})).2) =
      (.ok (.running coreSpec.name 41), runEvents [.exits 0 none] (stop { kill := some "permission denied" }
        coreSpec.name (runEvents [.start { spawn := .ok 41 } coreSpec] {})).2) := by
  refine (failed_stop_sticks coreSpec.name [.start { spawn := .ok 41 } coreSpec] { kill := some "permission denied" }
    ⟨0, 41⟩ ("stop process " ++ coreSpec.name ++ ": " ++ "permission denied") rfl rfl [.exits 0 none] ?_
    { spawn := .ok 42 } coreSpec rfl).2
  intro event hevent
  rw [List.mem_singleton] at hevent
  rw [hevent]
  exact id

end Supervisor

end KeliNode
