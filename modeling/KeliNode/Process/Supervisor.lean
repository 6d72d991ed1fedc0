import KeliNode.Panel.Types
import KeliNode.Runner.SameUsers

/-!
# The process supervisor (`process.rs`)

| here | there |
|---|---|
| `ProcessSpec`, `ProcessState`, `ProcessStatus` | `process.rs:18`, `:27`, `:34` |
| `SupervisorWorld` | `SystemProcessSupervisor`, `process.rs:54`, with the operating system's processes |
| `status`, `start`, `stop`, `reload` | `process.rs:206`, `:120`, `:156`, `:151` |

A child handle is the number of its process in the order of the spawns; the process keeps the spec it was started
from and, once it is over, its exit code.  A process may exit at any time.  The operating system may refuse a
call: `OsAnswers` holds the error texts of one operation's calls and the pid of a spawn.  The embedded core, a
build option that replaces the child process, is not modelled.
-/

namespace KeliNode

open Lib

namespace Supervisor

structure ProcessSpec where
  name : Text
  command : Text
  args : List Text := []
  workingDir : Option Text := none
  env : BTreeMap Text Text := ∅

inductive ProcessState where
  | running
  | stopped
  | exited (code : Option Int)
  deriving DecidableEq

structure ProcessStatus where
  name : Text
  pid : Option Nat
  state : ProcessState
  message : Text
  deriving DecidableEq

/-- `{:?}` on an exit code. -/
def debugCode : Option Int → Text
  | some code => "Some(" ++ signedText code ++ ")"
  | none => "None"

namespace ProcessStatus

/-- `ProcessStatus::running` (`process.rs:84`). -/
def running (name : Text) (pid : Nat) : ProcessStatus :=
  { name, pid := some pid, state := .running, message := "running" }

/-- `ProcessStatus::stopped` (`process.rs:93`). -/
def stopped (name message : Text) : ProcessStatus := { name, pid := none, state := .stopped, message }

/-- `ProcessStatus::exited` (`process.rs:102`). -/
def exited (name : Text) (code : Option Int) : ProcessStatus where
  name
  pid := none
  state := .exited code
  message := match code with
    | some value => "exited with code " ++ signedText value
    | none => "exited without code"

/-- `ProcessStatus::is_running` (`process.rs:114`). -/
def isRunning (status : ProcessStatus) : Bool := status.state = .running

@[simp] theorem isRunning_running (name : Text) (pid : Nat) : (running name pid).isRunning = true := rfl

@[simp] theorem isRunning_stopped (name message : Text) : (stopped name message).isRunning = false := rfl

@[simp] theorem isRunning_exited (name : Text) (code : Option Int) : (exited name code).isRunning = false := rfl

end ProcessStatus

/-! ## The operating system -/

structure OsProcess where
  spec : ProcessSpec
  pid : Nat
  exit : Option (Option Int) := none

/-- The process ends; one that is over keeps the code it ended with. -/
def OsProcess.finish (process : OsProcess) (code : Option Int) : OsProcess :=
  { process with exit := some (process.exit.getD code) }

/-- A `Child`: the handle and the pid it was spawned with. -/
structure Child where
  handle : Nat
  pid : Nat
  deriving DecidableEq

/-- What the operating system answers to the calls of one operation. -/
structure OsAnswers where
  tryWait : Option Text := none
  kill : Option Text := none
  wait : Option Text := none
  killedCode : Option Int := none
  spawn : Except Text Nat := .error "no such file or directory"

structure SupervisorWorld where
  processes : List OsProcess := []
  children : BTreeMap Text Child := ∅
  statuses : BTreeMap Text ProcessStatus := ∅

namespace SupervisorWorld

/-- The exit code of a child whose process is over. -/
def exitOf (world : SupervisorWorld) (child : Child) : Option (Option Int) :=
  world.processes[child.handle]?.bind (·.exit)

def finish (world : SupervisorWorld) (handle : Nat) (code : Option Int) : SupervisorWorld :=
  { world with processes := world.processes.modify handle (·.finish code) }

def setStatus (world : SupervisorWorld) (status : ProcessStatus) : SupervisorWorld :=
  { world with statuses := world.statuses.insert status.name status }

def forget (world : SupervisorWorld) (name : Text) : SupervisorWorld :=
  { world with children := world.children.erase name }

end SupervisorWorld

/-! ## The operations -/

section

variable (answers : OsAnswers)

/-- `status` (`process.rs:206`). -/
def status (name : Text) (world : SupervisorWorld) : Except Text ProcessStatus × SupervisorWorld :=
  match world.children[name]? with
  | some child =>
    match answers.tryWait with
    | some error => (.error ("inspect process " ++ name ++ ": " ++ error), world)
    | none =>
      match world.exitOf child with
      | some code => (.ok (.exited name code), (world.forget name).setStatus (.exited name code))
      | none => (.ok (.running name child.pid), world)
  | none => (.ok (world.statuses.getD name (.stopped name "process was never started")), world)

/-- `start` (`process.rs:120`): a name that is running is left alone. -/
def start (spec : ProcessSpec) (world : SupervisorWorld) : Except Text ProcessStatus × SupervisorWorld :=
  match status answers spec.name world with
  | (.error error, world) => (.error error, world)
  | (.ok current, world) =>
    if current.isRunning then (.ok current, world)
    else match answers.spawn with
      | .error error => (.error ("start process " ++ spec.name ++ ": " ++ error), world)
      | .ok pid =>
        let child : Child := { handle := world.processes.length, pid }
        (.ok (.running spec.name pid),
          { processes := world.processes ++ [{ spec, pid }]
            children := world.children.insert spec.name child
            statuses := world.statuses.insert spec.name (.running spec.name pid) })

/-- `stop` (`process.rs:156`): the child is forgotten before it is asked, so also where a call fails. -/
def stop (name : Text) (world : SupervisorWorld) : Except Text ProcessStatus × SupervisorWorld :=
  match world.children[name]? with
  | none => (.ok (.stopped name "process is not running"), world.setStatus (.stopped name "process is not running"))
  | some child =>
    let world := world.forget name
    match answers.tryWait with
    | some error => (.error ("inspect process " ++ name ++ " before stop: " ++ error), world)
    | none =>
      match world.exitOf child with
      | some code => (.ok (.exited name code), world.setStatus (.exited name code))
      | none =>
        match answers.kill with
        | some error => (.error ("stop process " ++ name ++ ": " ++ error), world)
        | none =>
          let world := world.finish child.handle answers.killedCode
          match answers.wait with
          | some error => (.error ("wait process " ++ name ++ ": " ++ error), world)
          | none =>
            let status := ProcessStatus.stopped name ("stopped with code " ++ debugCode answers.killedCode)
            (.ok status, world.setStatus status)

end

/-- `reload` (`process.rs:151`). -/
def reload (stopAnswers startAnswers : OsAnswers) (spec : ProcessSpec) (world : SupervisorWorld) :
    Except Text ProcessStatus × SupervisorWorld :=
  match stop stopAnswers spec.name world with
  | (.error error, world) => (.error error, world)
  | (.ok _, world) => start startAnswers spec world

/-! ## Runs -/

inductive ProcessEvent where
  | start (answers : OsAnswers) (spec : ProcessSpec)
  | reload (stopAnswers startAnswers : OsAnswers) (spec : ProcessSpec)
  | stop (answers : OsAnswers) (name : Text)
  | status (answers : OsAnswers) (name : Text)
  /-- A process exits by itself. -/
  | exits (handle : Nat) (code : Option Int)

def ProcessEvent.run (event : ProcessEvent) (world : SupervisorWorld) : SupervisorWorld :=
  match event with
  | start answers spec => (Supervisor.start answers spec world).2
  | reload stopAnswers startAnswers spec => (Supervisor.reload stopAnswers startAnswers spec world).2
  | stop answers name => (Supervisor.stop answers name world).2
  | status answers name => (Supervisor.status answers name world).2
  | exits handle code => world.finish handle code

def runEvents (events : List ProcessEvent) (world : SupervisorWorld) : SupervisorWorld :=
  events.foldl (fun world event => event.run world) world

/-! ## What one operation does -/

section

variable (answers : OsAnswers) (name : Text) (world : SupervisorWorld)

/-- **Inversion** of `status`. -/
theorem status_cases :
    (∃ child error, world.children[name]? = some child ∧ answers.tryWait = some error ∧
      status answers name world = (.error ("inspect process " ++ name ++ ": " ++ error), world)) ∨
    (∃ child, world.children[name]? = some child ∧ answers.tryWait = none ∧ world.exitOf child = none ∧
      status answers name world = (.ok (.running name child.pid), world)) ∨
    (∃ child code, world.children[name]? = some child ∧ answers.tryWait = none ∧ world.exitOf child = some code ∧
      status answers name world = (.ok (.exited name code), (world.forget name).setStatus (.exited name code))) ∨
    (world.children[name]? = none ∧ status answers name world =
      (.ok (world.statuses.getD name (.stopped name "process was never started")), world)) := by
  unfold status
  cases hchild : world.children[name]? with
  | none => exact .inr (.inr (.inr ⟨rfl, rfl⟩))
  | some child =>
    cases hwait : answers.tryWait with
    | some error => exact .inl ⟨child, error, rfl, rfl, rfl⟩
    | none =>
      cases hexit : world.exitOf child with
      | none => exact .inr (.inl ⟨child, rfl, rfl, hexit, by simp only [hexit]⟩)
      | some code => exact .inr (.inr (.inl ⟨child, code, rfl, rfl, hexit, by simp only [hexit]⟩))

/-- **Inversion** of `stop`: a stop that fails has forgotten the child; one that succeeds sets the status of a
name without a process. -/
theorem stop_cases :
    (world.children[name]? = none ∧ ∃ status, status.name = name ∧ status.isRunning = false ∧
      stop answers name world = (.ok status, world.setStatus status)) ∨
    (∃ child, world.children[name]? = some child ∧ world.exitOf child = none ∧
      ∃ error, stop answers name world = (.error error, world.forget name) ∨
        stop answers name world = (.error error, (world.forget name).finish child.handle answers.killedCode)) ∨
    (∃ child error, world.children[name]? = some child ∧ answers.tryWait = some error ∧
      stop answers name world = (.error ("inspect process " ++ name ++ " before stop: " ++ error), world.forget name)) ∨
    (∃ child, world.children[name]? = some child ∧ ∃ status, status.name = name ∧ status.isRunning = false ∧
      ((∃ code, world.exitOf child = some code) ∧
          stop answers name world = (.ok status, (world.forget name).setStatus status) ∨
        world.exitOf child = none ∧ stop answers name world =
          (.ok status, ((world.forget name).finish child.handle answers.killedCode).setStatus status))) := by
  unfold stop
  cases hchild : world.children[name]? with
  | none => exact .inl ⟨rfl, _, rfl, rfl, rfl⟩
  | some child =>
    have hforget : (world.forget name).exitOf child = world.exitOf child := rfl
    simp only [hforget]
    cases hwait : answers.tryWait with
    | some error => exact .inr (.inr (.inl ⟨child, error, rfl, rfl, rfl⟩))
    | none =>
      cases hexit : world.exitOf child with
      | some code => exact .inr (.inr (.inr ⟨child, rfl, _, rfl, rfl, .inl ⟨⟨code, hexit⟩, rfl⟩⟩))
      | none =>
        cases hkill : answers.kill with
        | some error => exact .inr (.inl ⟨child, rfl, hexit, _, .inl rfl⟩)
        | none =>
          cases hreap : answers.wait with
          | some error => exact .inr (.inl ⟨child, rfl, hexit, _, .inr rfl⟩)
          | none => exact .inr (.inr (.inr ⟨child, rfl, _, rfl, rfl, .inr ⟨hexit, rfl⟩⟩))

end

end Supervisor

end KeliNode
