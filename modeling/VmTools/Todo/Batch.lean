import VmTools.Todo.Cleanup

/-
# `cleanup_todos.py`: the batch

`cleanup_batch` walks a fixed list of sixteen files (`files_to_process`) and runs
`cleanup_file_interactive` on each one that exists and in which `find_todos` finds a comment.
All the sessions read from one input: the choices typed for one file are followed by those for
the next.  `4` ends a file's session and the batch goes on with the next file; `q`
(`sys.exit(0)`) and any exception end the whole batch, with the edits made so far written.

Every action first copies the file to `.backup_todo_cleanup/<name>.backup.<stamp>`
(`create_backup`), the stamp being `datetime.now()` to the second.  A run is therefore a state of
three parts (`RunState`): the files, the lines not typed yet, and how many stamps the clock has
given, which is what the clock is read at: the `n`-th backup of a run is stamped `now n`.

This module runs the session on the files (`cleanupSession`) and says once what a session
leaves (`SessionSpec`, `cleanupSession_spec`): at the file it processes, what the session
`Cleanup` models on the text writes; elsewhere, only the backups it stamps; and, when no later
stamp of the session is its own, its first backup still holds the text the file had.  The batch
is then a loop over the list whose body (`batchFile`) is one pass of the `for` loop, and every
result below is a property of one pass carried over the whole list by one run lemma
(`cleanupBatchLoop_invariant`):

* `cleanupBatch_unchanged`: outside the backup directory, a file outside the list, a file that
  does not exist and a file with no comment are never written;
* `cleanupBatch_keeps_plain_prefix`: the lines above a file's first comment are kept, in every
  file outside the backup directory, whatever is typed, and no such file is deleted;
* `cleanupBatch_keeps_originals`: when the clock gives the run's backups stamps of one length
  and no two the same, every file the batch changed has its original text in a backup.  The
  stamp is `datetime.now()` to the second, so two actions within one second share one: the
  second backup then replaces the first, and the original can be lost.

The file system is the project's files by their paths relative to the project root, each as its
decoded text.  The dry run's listing and the messages are left out; `main`, which dispatches to
this function from a menu, is in `Main`.
-/

namespace VmTools.Todo

open VmTools

/-! ## 1. A session on the files -/

/-- What a run carries from one action to the next: the files, the lines not read yet, and how
many stamps the clock has given. -/
structure RunState where
  files : Files
  input : List (List Char)
  stamps : Nat

/-- The loop of `cleanup_file_interactive` over the file at `path`, as `cleanupLoop` has it, on
the run: each action reads the clock `now` once for its backup, and the lines not read are left
to whatever reads next. -/
def cleanupSession (now : Nat → String) (path : String) :
    List TodoEntry → RunState → RunState × Ending
  | [], st => (st, .returned)
  | t :: ts, ⟨fs, input, n⟩ =>
    match readInput input with
    | .error e => (⟨fs, input, n⟩, .raised e)
    | .ok (choice, input) =>
      let choice := choice.map Char.toLower
      if choice = ['1'] then
        match readInput input with
        | .error e => (⟨fs, input, n⟩, .raised e)
        | .ok (issueNum, input) =>
          match readInput input with
          | .error e => (⟨fs, input, n⟩, .raised e)
          | .ok (issueTitle, input) =>
            match replaceTodoWithIssue (now n) fs path t.lineNum issueNum issueTitle with
            | (fs, some e) => (⟨fs, input, n + 1⟩, .raised e)
            | (fs, none) => cleanupSession now path ts ⟨fs, input, n + 1⟩
      else if choice = ['2'] then
        match removeTodo (now n) fs path t.lineNum with
        | (fs, some e) => (⟨fs, input, n + 1⟩, .raised e)
        | (fs, none) => cleanupSession now path ts ⟨fs, input, n + 1⟩
      else if choice = ['4'] then (⟨fs, input, n⟩, .returned)
      else if choice = ['q'] then (⟨fs, input, n⟩, .exited)
      else cleanupSession now path ts ⟨fs, input, n⟩

/-- What a session on the file at `path` leaves, `r`, from `st` where the file holds `text`,
beside `lr`, what `cleanupLoop` leaves from that text. -/
structure SessionSpec (now : Nat → String) (path : String) (st : RunState) (text : List Char)
    (lr : List Char × Ending) (r : RunState × Ending) : Prop where
  /-- The file holds what `cleanupLoop` writes, and the session ends as it ends. -/
  refines : r.1.files path = some lr.1 ∧ r.2 = lr.2
  /-- Every other file is left alone, the backups stamped during the session apart. -/
  frame : ∀ q, q ≠ path → (∀ m, st.stamps ≤ m → m < r.1.stamps → q ≠ backupPath path (now m)) →
    r.1.files q = st.files q
  /-- The clock is read once per action, and each action reads one typed line at least. -/
  stamps_le : st.stamps ≤ r.1.stamps
  stamps_add_le : r.1.stamps + r.1.input.length ≤ st.stamps + st.input.length
  /-- A session that reads no stamp writes nothing. -/
  files_of_stamps : r.1.stamps = st.stamps → r.1.files = st.files
  /-- The first backup holds `text` at the end, when no later stamp of the session is its own. -/
  first_backup : ¬ InBackupDir path →
    (∀ m, st.stamps < m → m < r.1.stamps → now m ≠ now st.stamps) → st.stamps < r.1.stamps →
    r.1.files (backupPath path (now st.stamps)) = some text

namespace SessionSpec

variable {now : Nat → String} {path : String} {st : RunState} {text : List Char}
  {input : List (List Char)} {lr : List Char × Ending} {r : RunState × Ending}

/-- The session ends before any action, having read some lines. -/
theorem of_stay (ending : Ending) (h : st.files path = some text)
    (hin : input.length ≤ st.input.length) :
    SessionSpec now path st text (text, ending) (⟨st.files, input, st.stamps⟩, ending) where
  refines := ⟨h, rfl⟩
  frame _ _ _ := rfl
  stamps_le := le_rfl
  stamps_add_le := Nat.add_le_add_left hin _
  files_of_stamps _ := rfl
  first_backup _ _ hlt := absurd hlt (Nat.lt_irrefl _)

/-- A comment kept: the session goes on from the lines after the choice. -/
theorem of_skip (hin : input.length ≤ st.input.length)
    (hs : SessionSpec now path ⟨st.files, input, st.stamps⟩ text lr r) :
    SessionSpec now path st text lr r where
  refines := hs.refines
  frame := hs.frame
  stamps_le := hs.stamps_le
  stamps_add_le := hs.stamps_add_le.trans (Nat.add_le_add_left hin _)
  files_of_stamps := hs.files_of_stamps
  first_backup := hs.first_backup

/-- An action: the backup at the session's next stamp, then the file written, then the rest of
the session. -/
theorem of_action {text' : List Char} (hin : input.length < st.input.length)
    (hs : SessionSpec now path
      ⟨writeFile (writeFile st.files (backupPath path (now st.stamps)) text) path text', input,
        st.stamps + 1⟩ text' lr r) :
    SessionSpec now path st text lr r where
  refines := hs.refines
  frame q hq hb := (hs.frame q hq fun m hm hm' => hb m (Nat.le_of_succ_le hm) hm').trans
    ((writeFile_other _ _ hq).trans (writeFile_other _ _ (hb _ le_rfl hs.stamps_le)))
  stamps_le := Nat.le_of_succ_le hs.stamps_le
  stamps_add_le := by have := hs.stamps_add_le; dsimp only at this; omega
  files_of_stamps heq := absurd heq.symm (Nat.ne_of_lt hs.stamps_le)
  first_backup hpath hclock _ := by
    have hb : backupPath path (now st.stamps) ≠ path := (ne_backupPath hpath _ _).symm
    exact (hs.frame _ hb fun m hm hm' e => hclock m hm hm' (backupPath_injective path e).symm).trans
      ((writeFile_other _ _ hb).trans (writeFile_same _ _ _))

/-- An action that raises after its backup: the session ends there. -/
theorem of_action_error (e : PyError) (h : st.files path = some text)
    (hin : input.length < st.input.length) :
    SessionSpec now path st text (text, .raised e)
      (⟨writeFile st.files (backupPath path (now st.stamps)) text, input, st.stamps + 1⟩,
        .raised e) where
  refines := ⟨(createBackup_same h _).2, rfl⟩
  frame _ _ hb := by dsimp only; exact writeFile_other _ _ (hb _ le_rfl (Nat.lt_succ_self _))
  stamps_le := Nat.le_succ _
  stamps_add_le := by dsimp only; omega
  files_of_stamps heq := absurd heq (Nat.succ_ne_self _)
  first_backup _ _ _ := by dsimp only; exact writeFile_same _ _ _

end SessionSpec

/-- **What a session leaves.**  At the file it processes the session is the one `Cleanup`
models on the text, whatever the clock says; it writes nothing else but its backups; and its
first backup keeps the file's text, unless a later backup of the session has its stamp. -/
theorem cleanupSession_spec (now : Nat → String) (path : String) :
    ∀ (es : List TodoEntry) (st : RunState) (text : List Char), st.files path = some text →
      SessionSpec now path st text (cleanupLoop es text st.input) (cleanupSession now path es st)
  | [], _, _, h => .of_stay .returned h le_rfl
  | _ :: _, ⟨_, [], _⟩, _, h => .of_stay _ h le_rfl
  | e :: es, ⟨fs, l :: input, n⟩, text, h => by
    simp only [cleanupSession, cleanupLoop, readInput]
    split_ifs
    · -- `1`: the issue's number and title, then `replace_todo_with_issue`
      match input with
      | [] => exact .of_stay _ h (by simp)
      | [_] => exact .of_stay _ h (by simp)
      | l₁ :: l₂ :: input =>
        simp only [readInput]
        rw [replaceTodoWithIssue_eq h]
        rcases replaceTodoText text e.lineNum (stripChars l₁) (stripChars l₂) with err | text'
        · exact .of_action_error err h (by simp only [List.length_cons]; omega)
        · exact .of_action (by simp only [List.length_cons]; omega) (cleanupSession_spec now path es
            ⟨writeFile _ path text', input, n + 1⟩ text' (writeFile_same _ _ _))
    · -- `2`: `remove_todo`
      rw [removeTodo_eq h]
      rcases removeTodoText text e.lineNum with err | text'
      · exact .of_action_error err h (by simp)
      · exact .of_action (by simp) (cleanupSession_spec now path es
          ⟨writeFile _ path text', input, n + 1⟩ text' (writeFile_same _ _ _))
    · exact .of_stay _ h (by simp)
    · exact .of_stay _ h (by simp)
    · exact .of_skip (by simp) (cleanupSession_spec now path es _ text h)

/-! ## 2. The batch -/

/-- `files_to_process`. -/
def filesToProcess : List String :=
  ["vm-engine-jit/src/translation_optimizer.rs",
   "vm-engine-jit/src/x86_codegen.rs",
   "vm-engine-jit/src/domain/compilation.rs",
   "vm-platform/src/runtime.rs",
   "vm-platform/src/boot.rs",
   "vm-platform/src/gpu.rs",
   "vm-platform/src/iso.rs",
   "vm-platform/src/sriov.rs",
   "vm-service/src/vm_service.rs",
   "vm-common/src/lockfree/hash_table.rs",
   "vm-common/src/lib.rs",
   "vm-ir/src/lift/semantics.rs",
   "vm-ir/src/lift/mod.rs",
   "vm-mem/src/tlb/tlb_concurrent.rs",
   "vm-mem/src/memory/memory_pool.rs",
   "vm-mem/src/lib.rs"]

/-- One pass of the `for` loop of `cleanup_batch`, not a dry run, over the file at `path`: a
file that does not exist or has no comment is passed over; otherwise its session runs.
`returned` lets the loop go on. -/
def batchFile (now : Nat → String) (path : String) (st : RunState) : RunState × Ending :=
  match st.files path with
  | none => (st, .returned)
  | some text =>
    if findTodos text = [] then (st, .returned) else cleanupSession now path (findTodos text) st

/-- The `for` loop of `cleanup_batch` over a list of paths: the run at the end, and how the loop
ended.  `q` and an exception leave it at once. -/
def cleanupBatchLoop (now : Nat → String) : List String → RunState → RunState × Ending
  | [], st => (st, .returned)
  | p :: ps, st =>
    match batchFile now p st with
    | (st, .returned) => cleanupBatchLoop now ps st
    | r => r

/-- `cleanup_batch(dry_run)`.  A dry run only lists what it finds. -/
def cleanupBatch (now : Nat → String) (dryRun : Bool) (st : RunState) : RunState × Ending :=
  if dryRun then (st, .returned) else cleanupBatchLoop now filesToProcess st

/-! ## 3. One pass, and the whole loop -/

section Loop

variable (now : Nat → String)

/-- What one pass can do: nothing, or run the session of a file that has a comment. -/
theorem batchFile_spec (p : String) (st : RunState) :
    batchFile now p st = (st, .returned) ∨
      ∃ text, st.files p = some text ∧ findTodos text ≠ [] ∧
        batchFile now p st = cleanupSession now p (findTodos text) st := by
  unfold batchFile
  split
  · exact .inl rfl
  · split_ifs with h
    · exact .inl rfl
    · exact .inr ⟨_, ‹_›, h, rfl⟩

/-- A pass leaves alone, outside the backup directory, every other file and a file in which
`find_todos` finds nothing. -/
theorem batchFile_unchanged {p q : String} (st : RunState)
    (hq : q ≠ p ∨ ∀ text, st.files q = some text → findTodos text = []) (hb : ¬ InBackupDir q) :
    (batchFile now p st).1.files q = st.files q := by
  rcases batchFile_spec now p st with h | ⟨text, hp, hne, h⟩
  · rw [h]
  · rw [h]
    have hqp : q ≠ p := hq.elim id fun hq hqp => hne (hq text (hqp ▸ hp))
    exact (cleanupSession_spec now p _ st text hp).frame q hqp fun _ _ _ => ne_backupPath hb _ _

/-- **Run lemma.**  A property of the run that every pass over a listed file keeps holds at the
end of the loop. -/
theorem cleanupBatchLoop_invariant (I : RunState → Prop) :
    ∀ (ps : List String) (st : RunState),
      (∀ p ∈ ps, ∀ st, I st → I (batchFile now p st).1) → I st → I (cleanupBatchLoop now ps st).1
  | [], _, _, h => h
  | p :: ps, st, hstep, h => by
    have h' := hstep p (List.mem_cons_self p ps) st h
    simp only [cleanupBatchLoop]
    generalize batchFile now p st = r at h' ⊢
    rcases r with ⟨st', _ | _ | _⟩
    · exact cleanupBatchLoop_invariant I ps st'
        (fun q hq => hstep q (List.mem_cons_of_mem p hq)) h'
    all_goals exact h'

end Loop

/-! ## 4. What the batch never does -/

/-- Over any list, outside the backup directory no file outside it and no file without a comment
is written. -/
theorem cleanupBatchLoop_unchanged (now : Nat → String) (ps : List String) (st : RunState)
    {q : String} (hq : q ∉ ps ∨ ∀ text, st.files q = some text → findTodos text = [])
    (hb : ¬ InBackupDir q) :
    (cleanupBatchLoop now ps st).1.files q = st.files q := by
  refine cleanupBatchLoop_invariant now (fun st' => st'.files q = st.files q) ps st ?_ rfl
  intro p hp st' hst'
  rw [batchFile_unchanged now st' ?_ hb, hst']
  rcases hq with hq | hq
  · exact .inl fun h => hq (h ▸ hp)
  · exact .inr fun text h => hq text (hst' ▸ h)

/-- A project of one listed file, `vm-mem/src/lib.rs`, which holds a code line and a comment. -/
def sampleFiles : Files :=
  fun q => if q = "vm-mem/src/lib.rs" then some "x\n// TODO: a\n".toList else none

/-- A clock that reads the same second every time. -/
def sampleClock : Nat → String := fun _ => "20250101_000000"

theorem lineNum_of_todoOfLine {n : Nat} {l : List Char} {e : TodoEntry}
    (h : todoOfLine n l = some e) : e.lineNum = n := by
  simp only [todoOfLine, Option.map_eq_some'] at h
  obtain ⟨_, _, rfl⟩ := h
  rfl

/-- Below lines `A` that `find_todos` does not report, every comment it reports is past them. -/
theorem lineNum_gt_of_plain {text : List Char} {A R : List (List Char)}
    (hA : ∀ l ∈ A, IsPlainLine l) (hR : fileLines text = A ++ R) :
    ∀ e ∈ findTodos text, A.length < e.lineNum := by
  intro e he
  rw [findTodos, hR, List.enumFrom_append, List.filterMap_append, filterMap_plain 1 A hA,
    List.nil_append, List.mem_filterMap] at he
  obtain ⟨⟨n, l⟩, hmem, hl⟩ := he
  rw [lineNum_of_todoOfLine hl]
  have := (List.mem_enumFrom hmem).1
  omega

/-- A pass keeps every file outside the backup directory there, and in each one the complete
lines `A` it starts with, when `find_todos` reports none of them. -/
theorem batchFile_keeps_plain_prefix (now : Nat → String) {A : List (List Char)}
    (hA : ∀ l ∈ A, IsPlainLine l) (q p : String) (hb : ¬ InBackupDir p) (st : RunState)
    (h : ∃ text R, st.files p = some text ∧ fileLines text = A ++ R) :
    ∃ text R, (batchFile now q st).1.files p = some text ∧ fileLines text = A ++ R := by
  obtain ⟨text, R, hp, hR⟩ := h
  rcases batchFile_spec now q st with h | ⟨text', hq, -, h⟩
  · exact ⟨text, R, by rw [h]; exact hp, hR⟩
  rw [h]
  have hsession := cleanupSession_spec now q (findTodos text') st text' hq
  by_cases hpq : p = q
  · subst hpq
    obtain rfl : text = text' := Option.some_injective _ (hp.symm.trans hq)
    obtain ⟨R', hR'⟩ := cleanupLoop_frame (fun l hl => (hA l hl).1) (findTodos text) text
      st.input (lineNum_gt_of_plain hA hR) ⟨R, hR⟩
    exact ⟨_, R', hsession.refines.1, hR'⟩
  · exact ⟨text, R, (hsession.frame p hpq fun _ _ _ => ne_backupPath hb _ _).trans hp, hR⟩

/-- **Lines above the first comment are kept in every file, over the whole batch**: when a
file outside `.backup_todo_cleanup` starts with complete lines `A` in which `find_todos` finds
nothing, it still exists at the end of `cleanup_batch` and still starts with `A`, whatever is
typed in any of the sessions and whatever the clock says. -/
theorem cleanupBatch_keeps_plain_prefix (now : Nat → String) (dryRun : Bool) (st : RunState)
    (p : String) (hb : ¬ InBackupDir p) (text : List Char) (A R : List (List Char))
    (hA : ∀ l ∈ A, IsPlainLine l) (hp : st.files p = some text) (hR : fileLines text = A ++ R) :
    ∃ text' R', (cleanupBatch now dryRun st).1.files p = some text' ∧
      fileLines text' = A ++ R' := by
  unfold cleanupBatch
  split_ifs
  · exact ⟨text, R, hp, hR⟩
  · exact cleanupBatchLoop_invariant now _ _ st
      (fun q _ st' => batchFile_keeps_plain_prefix now hA q p hb st') ⟨text, R, hp, hR⟩

theorem cleanupBatch_keeps_code_line :
    ¬ InBackupDir "vm-mem/src/lib.rs" ∧ (∀ l ∈ [['x', '\n']], IsPlainLine l) ∧
      sampleFiles "vm-mem/src/lib.rs" = some "x\n// TODO: a\n".toList ∧
      fileLines "x\n// TODO: a\n".toList = [['x', '\n']] ++ fileLines "// TODO: a\n".toList ∧
      ∃ text' R', (cleanupBatch sampleClock false ⟨sampleFiles, [['2']], 0⟩).1.files
          "vm-mem/src/lib.rs" = some text' ∧ fileLines text' = [['x', '\n']] ++ R' :=
  ⟨by decide, by decide, by decide, by decide,
    cleanupBatch_keeps_plain_prefix sampleClock false ⟨sampleFiles, [['2']], 0⟩ "vm-mem/src/lib.rs"
      (by decide) "x\n// TODO: a\n".toList [['x', '\n']] (fileLines "// TODO: a\n".toList)
      (by decide) (by decide) (by decide)⟩

/-! ## 6. The backups -/

/-- No file of the list lies in the backup directory. -/
theorem not_inBackupDir_of_mem {p : String} (hp : p ∈ filesToProcess) : ¬ InBackupDir p := by
  revert p; decide

/-- What the batch keeps, seen from the run `st₀` it started from: it has taken the stamps from
`st₀.stamps` to `st.stamps`, reading a typed line at least for each, and every file outside
the backup directory that no longer holds its text in `st₀` has a backup, stamped since, that
holds it. -/
def OriginalsKept (now : Nat → String) (st₀ st : RunState) : Prop :=
  st₀.stamps ≤ st.stamps ∧ st.stamps + st.input.length ≤ st₀.stamps + st₀.input.length ∧
    ∀ p, ¬ InBackupDir p → ∀ text, st₀.files p = some text → st.files p ≠ some text →
      ∃ m, st₀.stamps ≤ m ∧ m < st.stamps ∧ st.files (backupPath p (now m)) = some text

section Originals

variable {now : Nat → String} {st₀ : RunState}
  (hclock : ∀ m m', st₀.stamps ≤ m → m < m' → m' < st₀.stamps + st₀.input.length →
    now m ≠ now m' ∧ (now m).length = (now m').length)
include hclock

/-- **One pass keeps the originals**, when the clock gives the stamps of the run distinct values
of one length: a backup made before the pass is not overwritten by its backups, and a file the
pass changes for the first time has its first backup holding its text. -/
theorem batchFile_originalsKept {q : String} (hq : ¬ InBackupDir q) {st : RunState}
    (hI : OriginalsKept now st₀ st) : OriginalsKept now st₀ (batchFile now q st).1 := by
  obtain ⟨hle, hbound, hkept⟩ := hI
  rcases batchFile_spec now q st with h | ⟨text', hq', -, h⟩
  · rw [h]; exact ⟨hle, hbound, hkept⟩
  rw [h]
  have hs := cleanupSession_spec now q (findTodos text') st text' hq'
  generalize cleanupSession now q (findTodos text') st = r at hs ⊢
  have hrange : r.1.stamps ≤ st₀.stamps + st₀.input.length := by
    have := hs.stamps_add_le; omega
  -- a backup stamped before the pass survives it
  have hkeep : ∀ p m, st₀.stamps ≤ m → m < st.stamps →
      r.1.files (backupPath p (now m)) = st.files (backupPath p (now m)) := fun p m hm₀ hm =>
    hs.frame _ (ne_backupPath hq _ _).symm fun m' hm' hm'' =>
      have hc := hclock m m' hm₀ (by omega) (by omega)
      backupPath_ne hc.1 hc.2 p q
  refine ⟨hle.trans hs.stamps_le, hs.stamps_add_le.trans hbound, fun p hp text h₀ hchanged => ?_⟩
  by_cases hpq : p = q
  · subst hpq
    by_cases hst : st.files p = some text
    · -- the pass changed the file: it took a stamp, and its first backup holds the text
      obtain rfl : text' = text := Option.some_injective _ (hq'.symm.trans hst)
      have hlt : st.stamps < r.1.stamps := lt_of_le_of_ne hs.stamps_le fun heq =>
        hchanged ((congrFun (hs.files_of_stamps heq.symm) p).trans hst)
      exact ⟨st.stamps, hle, hlt, hs.first_backup hp
        (fun m hm hm' => ((hclock _ _ hle hm (by omega)).1).symm) hlt⟩
    · obtain ⟨m, hm₀, hm, hb⟩ := hkept p hp text h₀ hst
      exact ⟨m, hm₀, hm.trans_le hs.stamps_le, (hkeep p m hm₀ hm).trans hb⟩
  · have hp' : r.1.files p = st.files p := hs.frame p hpq fun _ _ _ => ne_backupPath hp _ _
    obtain ⟨m, hm₀, hm, hb⟩ := hkept p hp text h₀ (hp' ▸ hchanged)
    exact ⟨m, hm₀, hm.trans_le hs.stamps_le, (hkeep p m hm₀ hm).trans hb⟩

end Originals

/-- **With a clock that gives every backup its own stamp, the batch loses no original**: when
the stamps the run can take, one per typed line at most, are distinct and of one length, every
file outside `.backup_todo_cleanup` that `cleanup_batch` changed has, at the end, a backup made
during the run that holds the text it had at the start. -/
theorem cleanupBatch_keeps_originals (now : Nat → String) (dryRun : Bool) (st : RunState)
    (hclock : ∀ m m', st.stamps ≤ m → m < m' → m' < st.stamps + st.input.length →
      now m ≠ now m' ∧ (now m).length = (now m').length)
    (p : String) (hp : ¬ InBackupDir p) (text : List Char) (h₀ : st.files p = some text)
    (hchanged : (cleanupBatch now dryRun st).1.files p ≠ some text) :
    ∃ m, st.stamps ≤ m ∧
      (cleanupBatch now dryRun st).1.files (backupPath p (now m)) = some text := by
  unfold cleanupBatch at hchanged ⊢
  split_ifs at hchanged ⊢
  · exact absurd h₀ hchanged
  · obtain ⟨-, -, hkept⟩ := cleanupBatchLoop_invariant now (OriginalsKept now st) filesToProcess st
      (fun q hq _ => batchFile_originalsKept hclock (not_inBackupDir_of_mem hq))
      ⟨le_rfl, le_rfl, fun _ _ _ h₀ h => absurd h₀ h⟩
    obtain ⟨m, hm, -, hb⟩ := hkept p hp text h₀ hchanged
    exact ⟨m, hm, hb⟩

/-- A project whose `vm-mem/src/lib.rs` holds two comments. -/
def twoTodoFiles : Files :=
  fun q => if q = "vm-mem/src/lib.rs" then some "// TODO: a\n// TODO: b\n".toList else none

/-- A clock that reads two seconds. -/
def twoSecondClock : Nat → String := fun n => if n = 0 then "20250101_000000" else "20250101_000001"

theorem cleanupBatch_keeps_originals_two_seconds :
    (∀ m m', 0 ≤ m → m < m' → m' < 0 + [['2'], ['2']].length →
      twoSecondClock m ≠ twoSecondClock m' ∧
        (twoSecondClock m).length = (twoSecondClock m').length) ∧
      ¬ InBackupDir "vm-mem/src/lib.rs" ∧
      twoTodoFiles "vm-mem/src/lib.rs" = some "// TODO: a\n// TODO: b\n".toList ∧
      (cleanupBatch twoSecondClock false ⟨twoTodoFiles, [['2'], ['2']], 0⟩).1.files
        "vm-mem/src/lib.rs" ≠ some "// TODO: a\n// TODO: b\n".toList ∧
      ∃ m, 0 ≤ m ∧ (cleanupBatch twoSecondClock false ⟨twoTodoFiles, [['2'], ['2']], 0⟩).1.files
        (backupPath "vm-mem/src/lib.rs" (twoSecondClock m)) =
          some "// TODO: a\n// TODO: b\n".toList :=
  have hclock : ∀ m m', 0 ≤ m → m < m' → m' < 0 + [['2'], ['2']].length →
      twoSecondClock m ≠ twoSecondClock m' ∧
        (twoSecondClock m).length = (twoSecondClock m').length := fun m m' _ hm hm' => by
    obtain rfl : m' = 1 := by simp only [List.length_cons, List.length_nil] at hm'; omega
    obtain rfl : m = 0 := by omega
    decide
  have hchanged : (cleanupBatch twoSecondClock false ⟨twoTodoFiles, [['2'], ['2']], 0⟩).1.files
      "vm-mem/src/lib.rs" ≠ some "// TODO: a\n// TODO: b\n".toList := by decide
  ⟨hclock, by decide, rfl, hchanged, cleanupBatch_keeps_originals twoSecondClock false
    ⟨twoTodoFiles, [['2'], ['2']], 0⟩ hclock "vm-mem/src/lib.rs" (by decide) _ rfl hchanged⟩

/-- With a clock that reads one second for both backups, the second replaces the first: at the
end neither the file nor its backup holds the file's original text. -/
example :
    (cleanupBatch sampleClock false ⟨twoTodoFiles, [['2'], ['2']], 0⟩).1.files
        "vm-mem/src/lib.rs" ≠ some "// TODO: a\n// TODO: b\n".toList ∧
      (cleanupBatch sampleClock false ⟨twoTodoFiles, [['2'], ['2']], 0⟩).1.files
        (backupPath "vm-mem/src/lib.rs" "20250101_000000") ≠
          some "// TODO: a\n// TODO: b\n".toList := by
  decide

end VmTools.Todo
