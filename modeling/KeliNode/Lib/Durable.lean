import Mathlib.Logic.Function.Basic
import Mathlib.Data.List.Basic

/-!
# Files that are replaced at once

A program of `FileStep`s may come to an end anywhere: a call fails, or the process is killed.  `leave` is the disk
it leaves; of a write under way anything may be left at the path that is written.

A file is replaced by writing another one beside it and renaming that one over it.  Wherever this ends, the file is
the old one or the new one (`leave_replaceFile`), and no third file has changed (`leave_replaceFile_other`).
-/

namespace Lib

/-- The contents of the files that are there. -/
abbrev Files (Path Bytes : Type) := Path → Option Bytes

inductive FileStep (Path Bytes : Type) where
  | write (path : Path) (bytes : Bytes)
  | rename (source target : Path)
  | remove (path : Path)
  deriving DecidableEq

/-- Where a program ends: after how many steps, and what the step under way has left of a file it writes. -/
structure Cut (Bytes : Type) where
  after : Nat
  torn : Option Bytes
  deriving DecidableEq

section

variable {Path Bytes : Type} [DecidableEq Path]

def FileStep.run (files : Files Path Bytes) : FileStep Path Bytes → Files Path Bytes
  | .write path bytes => Function.update files path (some bytes)
  | .rename source target =>
    if (files source).isSome then Function.update (Function.update files source none) target (files source) else files
  | .remove path => Function.update files path none

/-- A step that is not brought to its end; renaming and removing are all or nothing. -/
def FileStep.tear (files : Files Path Bytes) (torn : Option Bytes) : FileStep Path Bytes → Files Path Bytes
  | .write path _ => Function.update files path torn
  | .rename _ _ => files
  | .remove _ => files

def leave : List (FileStep Path Bytes) → Cut Bytes → Files Path Bytes → Files Path Bytes
  | [], _, files => files
  | step :: _, ⟨0, torn⟩, files => step.tear files torn
  | step :: steps, ⟨after + 1, torn⟩, files => leave steps ⟨after, torn⟩ (step.run files)

def finish (steps : List (FileStep Path Bytes)) (files : Files Path Bytes) : Files Path Bytes :=
  steps.foldl FileStep.run files

def replaceFile (temporary path : Path) (bytes : Bytes) : List (FileStep Path Bytes) :=
  [.write temporary bytes, .rename temporary path]

/-- The paths a step may change. -/
def FileStep.touches : FileStep Path Bytes → List Path
  | .write path _ => [path]
  | .rename source target => [source, target]
  | .remove path => [path]

variable {files : Files Path Bytes} {steps more : List (FileStep Path Bytes)} {cut : Cut Bytes}

/-! ## Whole runs and cut ones -/

theorem leave_of_length_le (h : steps.length ≤ cut.after) : leave steps cut files = finish steps files := by
  induction steps generalizing files cut with
  | nil => rfl
  | cons step steps ih =>
    obtain ⟨after, torn⟩ := cut
    cases after with
    | zero => exact absurd h (by simp)
    | succ after => exact ih (Nat.le_of_succ_le_succ h)

/-! ## Files no step touches -/

variable {path other temporary : Path} {bytes : Bytes}

theorem run_other {step : FileStep Path Bytes} (h : other ∉ step.touches) : step.run files other = files other := by
  cases step with
  | write path bytes => exact Function.update_of_ne (by simpa [FileStep.touches] using h) _ _
  | rename source target =>
    simp only [FileStep.touches, List.mem_cons, List.not_mem_nil, or_false, not_or] at h
    rw [FileStep.run]
    split
    · rw [Function.update_of_ne h.2, Function.update_of_ne h.1]
    · rfl
  | remove path => exact Function.update_of_ne (by simpa [FileStep.touches] using h) _ _

theorem tear_other {step : FileStep Path Bytes} {torn : Option Bytes} (h : other ∉ step.touches) :
    step.tear files torn other = files other := by
  cases step with
  | write path bytes => exact Function.update_of_ne (by simpa [FileStep.touches] using h) _ _
  | rename source target => rfl
  | remove path => rfl

/-- **Frame**: wherever the program ends, a file that no step touches is as it was. -/
theorem leave_other (h : ∀ step ∈ steps, other ∉ step.touches) : leave steps cut files other = files other := by
  induction steps generalizing files cut with
  | nil => rfl
  | cons step steps ih =>
    rw [List.forall_mem_cons] at h
    obtain ⟨after, torn⟩ := cut
    cases after with
    | zero => exact tear_other h.1
    | succ after => exact (ih h.2).trans (run_other h.1)

/-! ## Replacing a file -/

theorem leave_replaceFile_other (htemporary : other ≠ temporary) (hpath : other ≠ path) :
    leave (replaceFile temporary path bytes) cut files other = files other := by
  apply leave_other
  intro step hstep
  rcases List.mem_pair.1 hstep with rfl | rfl
  · simpa [FileStep.touches] using htemporary
  · simpa [FileStep.touches] using ⟨htemporary, hpath⟩

theorem finish_replaceFile : finish (replaceFile temporary path bytes) files path = some bytes := by
  simp only [finish, replaceFile, List.foldl_cons, List.foldl_nil, FileStep.run, Function.update_self, Option.isSome_some,
    if_true]

/-- **All or nothing**: the file is the old one until the last step is done. -/
theorem leave_replaceFile (h : temporary ≠ path) :
    leave (replaceFile temporary path bytes) cut files path = if cut.after < 2 then files path else some bytes := by
  obtain ⟨after, torn⟩ := cut
  rcases after with _ | _ | after
  · exact Function.update_of_ne h.symm _ _
  · exact Function.update_of_ne h.symm _ _
  · rw [leave_of_length_le (by simp [replaceFile]), finish_replaceFile, if_neg (by simp)]

end

end Lib
