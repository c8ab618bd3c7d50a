import VmTools.Re

/-
# `cleanup_todos.py`: cleaning up one file

`cleanup_file_interactive` lists a file's TODO and FIXME comments with `find_todos`, then asks
for each one in turn what to do: `1` replaces the comment by an issue reference
(`replace_todo_with_issue`), `2` removes it (`remove_todo`), `3` keeps it, `4` leaves the
rest of the file alone, `q` quits.  Each action reads the file afresh, edits the line whose
number `find_todos` gave before the first action, and writes the file back.

Those numbers are never brought up to date, and two of the actions change the number of lines:

* `removeTodoText_comment_line`: `2` on a line that holds only the comment deletes the line;
* `replaceTodoText_comment_line`: `1` keeps the line's own newline after the reference,
  which ends in a newline already, so the file gains an empty line.

So every later action falls on another line than the comment it was asked for
(`cleanupFileInteractive_stale_line_numbers`).  What the session does keep is everything
above the first comment it is asked about (`cleanupFileInteractive_keeps_lines_above`): each
action edits its line or a later one, and the lines above it are written back as they were.

Each action first copies the file to `.backup_todo_cleanup/<name>.backup.<time>`
(`create_backup`), and a backup made with the same name and second replaces the earlier one.
The model has both levels: `replaceTodoWithIssue` and `removeTodo` act on the project's files,
backup included (`replaceTodoWithIssue_eq`, `removeTodo_eq`), and what they write back to the
file is `replaceTodoText` and `removeTodoText` of its text.  The session is stated on the text
of the file it processes (`cleanupFileInteractive`); `Batch` runs it on the files, backups and
all, and proves that the file it processes ends as `cleanupFileInteractive` says.

The model reads a file as text, its UTF-8 decoding taken as given, with the universal newlines
`open(path, 'r')` applies; the printed messages are left out.
-/

namespace VmTools.Todo

open VmTools VmTools.Re

/-! ## 1. The file as lines -/

/-- Universal newlines, as `open(path, 'r')` reads a file: `\r\n` and a lone `\r` are `\n`. -/
def translateNewlines : List Char → List Char
  | [] => []
  | '\r' :: '\n' :: s => '\n' :: translateNewlines s
  | '\r' :: s => '\n' :: translateNewlines s
  | c :: s => c :: translateNewlines s

/-- `f.readlines()`, also the lines `for line in f` goes through: each line keeps its newline,
and the last has none when the text does not end in one. -/
def readLines : List Char → List (List Char)
  | [] => []
  | c :: s =>
    if c = '\n' then ['\n'] :: readLines s
    else match readLines s with
      | [] => [[c]]
      | l :: ls => (c :: l) :: ls

/-- The lines of a file as the script reads them. -/
def fileLines (text : List Char) : List (List Char) := readLines (translateNewlines text)

/-! ## 2. The patterns and the three functions -/

/-- The words of the group `(TODO|FIXME)`. -/
def markers : List (List Char) := [['T', 'O', 'D', 'O'], ['F', 'I', 'X', 'M', 'E']]

theorem mem_markers {m : List Char} :
    m ∈ markers ↔ m = ['T', 'O', 'D', 'O'] ∨ m = ['F', 'I', 'X', 'M', 'E'] := by
  simp [markers]

/-- `r'//\s*(TODO|FIXME):\s*(.+?)$'`, the pattern `find_todos` searches for. -/
def todoPattern : List Item :=
  [.one (.char '/'), .one (.char '/'), .star .space, .alt markers, .one (.char ':'), .star .space,
    .lazyPlus .dot, .eol]

/-- `r'//\s*(TODO|FIXME):.*'`, the pattern `replace_todo_with_issue` replaces. -/
def replacePattern : List Item :=
  [.one (.char '/'), .one (.char '/'), .star .space, .alt markers, .one (.char ':'), .star .dot]

/-- `r'\s*//\s*(TODO|FIXME):.*\n?'`, the pattern `remove_todo` replaces. -/
def removePattern : List Item :=
  [.star .space, .one (.char '/'), .one (.char '/'), .star .space, .alt markers, .one (.char ':'),
    .star .dot, .opt (.char '\n')]

/-- An entry of the list `find_todos` returns: `(line_number, marker_type, content)`. -/
structure TodoEntry where
  lineNum : Nat
  marker : List Char
  content : List Char
  deriving DecidableEq, Repr

/-- The entry for line `n`, when the pattern is found in it: the marker, and the text after
it, stripped. -/
def todoOfLine (n : Nat) (line : List Char) : Option TodoEntry :=
  (search todoPattern line).map fun m => ⟨n, m.2.1.getD 0 [], stripChars (m.2.1.getD 1 [])⟩

/-- `find_todos(file_path)`, with the lines numbered from 1. -/
def findTodos (text : List Char) : List TodoEntry :=
  ((fileLines text).enumFrom 1).filterMap fun nl => todoOfLine nl.1 nl.2

/-- Where `lines[line_num - 1]` is in a list of `len` lines: Python counts `-1` from the end. -/
def lineIndex (lineNum len : Nat) : Nat := if lineNum = 0 then len - 1 else lineNum - 1

/-- `f'// See: Issue #{issue_num} - {issue_title}\n'`. -/
def issueReference (issueNum issueTitle : List Char) : List Char :=
  "// See: Issue #".toList ++ issueNum ++ " - ".toList ++ issueTitle ++ ['\n']

/-- What `replace_todo_with_issue(file_path, line_num, issue_num, issue_title)` writes back to
the file, from the text it reads (lines 77-89).  The reference is a template of `re.sub`, so a
backslash in the number or the title is read as an escape; a line number past the end leaves
the text as it is. -/
def replaceTodoText (text : List Char) (lineNum : Nat) (issueNum issueTitle : List Char) :
    Except PyError (List Char) :=
  let lines := fileLines text
  if lineNum ≤ lines.length then
    if lines = [] then .error .indexError
    else
      let i := lineIndex lineNum lines.length
      (reSub replacePattern (issueReference issueNum issueTitle) (lines.getD i [])).map
        fun line => (lines.set i line).flatten
  else .ok text

/-- What `remove_todo(file_path, line_num)` writes back to the file, from the text it reads
(lines 99-113): a line that, stripped, starts with `//` and holds `TODO` or `FIXME` anywhere is
deleted; on any other line the pattern is replaced by a newline.  A line number past the end
leaves the text as it is. -/
def removeTodoText (text : List Char) (lineNum : Nat) : Except PyError (List Char) :=
  let lines := fileLines text
  if lineNum ≤ lines.length then
    if lines = [] then .error .indexError
    else
      let i := lineIndex lineNum lines.length
      let line := stripChars (lines.getD i [])
      if ['/', '/'] <+: line ∧ (['T', 'O', 'D', 'O'] <:+: line ∨ ['F', 'I', 'X', 'M', 'E'] <:+: line) then
        .ok (lines.eraseIdx i).flatten
      else (reSub removePattern ['\n'] (lines.getD i [])).map fun line => (lines.set i line).flatten
  else .ok text

/-! ## 3. The files, and the backups -/

/-- The project's files by their paths relative to the project root: a file's text, or `none`
where there is no file. -/
abbrev Files := String → Option (List Char)

/-- Writing `text` to the file at `path`. -/
def writeFile (fs : Files) (path : String) (text : List Char) : Files :=
  fun q => if q = path then some text else fs q

@[simp] theorem writeFile_same (fs : Files) (p : String) (text : List Char) :
    writeFile fs p text p = some text := if_pos rfl

theorem writeFile_other (fs : Files) {p q : String} (text : List Char) (h : q ≠ p) :
    writeFile fs p text q = fs q := if_neg h

/-- `BACKUP_DIR`, relative to the project root. -/
def backupDir : String := ".backup_todo_cleanup"

/-- `file_path.name` for a normalised path: what follows its last `/`. -/
def fileName (path : String) : String := ⟨(path.data.reverse.takeWhile (· ≠ '/')).reverse⟩

/-- `BACKUP_DIR / f"{file_path.name}.backup.{stamp}"`, where `stamp` is what
`datetime.now().strftime('%Y%m%d_%H%M%S')` gives when `create_backup` runs. -/
def backupPath (path stamp : String) : String :=
  backupDir ++ "/" ++ fileName path ++ ".backup." ++ stamp

/-- A path under `BACKUP_DIR`. -/
def InBackupDir (q : String) : Prop := (backupDir ++ "/").data <+: q.data

instance : DecidablePred InBackupDir := fun q => inferInstanceAs (Decidable (_ <+: q.data))

theorem backupPath_inBackupDir (path stamp : String) : InBackupDir (backupPath path stamp) := by
  simp only [InBackupDir, backupPath, String.data_append, List.append_assoc]
  exact List.prefix_append _ _

/-- A file outside the backup directory is no backup. -/
theorem ne_backupPath {q : String} (hq : ¬ InBackupDir q) (path stamp : String) :
    q ≠ backupPath path stamp :=
  fun e => hq (e ▸ backupPath_inBackupDir path stamp)

/-- Backups of one file under two stamps are two files. -/
theorem backupPath_injective (path : String) {s t : String}
    (h : backupPath path s = backupPath path t) : s = t := by
  have h' := congrArg String.data h
  simp only [backupPath, String.data_append] at h'
  exact String.ext (List.append_cancel_left h')

/-- Under stamps of one length, backups under two stamps are two files, whichever files they
copy. -/
theorem backupPath_ne {s t : String} (hst : s ≠ t) (hl : s.length = t.length)
    (path path' : String) : backupPath path s ≠ backupPath path' t := by
  intro h
  have h' := congrArg String.data h
  simp only [backupPath, String.data_append] at h'
  exact hst (String.ext (List.append_inj' h' hl).2)

/-- `create_backup(file_path)` at the time `stamp`: `shutil.copy2` copies the file to its backup
path, replacing a backup of that name, and raises `FileNotFoundError` when there is no file.
(`BACKUP_DIR.mkdir` is left out: the model has no directories.) -/
def createBackup (stamp : String) (fs : Files) (path : String) : Except PyError Files :=
  match fs path with
  | some text => .ok (writeFile fs (backupPath path stamp) text)
  | none => .error .fileNotFoundError

/-- `replace_todo_with_issue(file_path, line_num, issue_num, issue_title)` at the time `stamp`:
the files it leaves and the exception it raises, if any.  The backup is made first and stays
when the edit raises. -/
def replaceTodoWithIssue (stamp : String) (fs : Files) (path : String) (lineNum : Nat)
    (issueNum issueTitle : List Char) : Files × Option PyError :=
  match createBackup stamp fs path with
  | .error e => (fs, some e)
  | .ok fs =>
    match fs path with
    | none => (fs, some .fileNotFoundError)
    | some text =>
      match replaceTodoText text lineNum issueNum issueTitle with
      | .error e => (fs, some e)
      | .ok text => (writeFile fs path text, none)

/-- `remove_todo(file_path, line_num)` at the time `stamp`, in the same way. -/
def removeTodo (stamp : String) (fs : Files) (path : String) (lineNum : Nat) :
    Files × Option PyError :=
  match createBackup stamp fs path with
  | .error e => (fs, some e)
  | .ok fs =>
    match fs path with
    | none => (fs, some .fileNotFoundError)
    | some text =>
      match removeTodoText text lineNum with
      | .error e => (fs, some e)
      | .ok text => (writeFile fs path text, none)

section Files

variable {fs : Files} {path : String} {text : List Char}

/-- The backup leaves the file itself as it was, even where its path is the backup's. -/
theorem createBackup_same (h : fs path = some text) (stamp : String) :
    createBackup stamp fs path = .ok (writeFile fs (backupPath path stamp) text) ∧
      writeFile fs (backupPath path stamp) text path = some text := by
  refine ⟨by simp [createBackup, h], ?_⟩
  by_cases hp : path = backupPath path stamp
  · exact if_pos hp
  · rw [writeFile_other _ _ hp, h]

/-- **What `replace_todo_with_issue` does to the files**: the backup of the file's text, then
the file holds what `replaceTodoText` gives, or, when that raises, what it held. -/
theorem replaceTodoWithIssue_eq (h : fs path = some text) (stamp : String) (lineNum : Nat)
    (issueNum issueTitle : List Char) :
    replaceTodoWithIssue stamp fs path lineNum issueNum issueTitle =
      match replaceTodoText text lineNum issueNum issueTitle with
      | .error e => (writeFile fs (backupPath path stamp) text, some e)
      | .ok text' => (writeFile (writeFile fs (backupPath path stamp) text) path text', none) := by
  obtain ⟨hb, hself⟩ := createBackup_same h stamp
  simp only [replaceTodoWithIssue, hb, hself]

/-- **What `remove_todo` does to the files**, in the same way. -/
theorem removeTodo_eq (h : fs path = some text) (stamp : String) (lineNum : Nat) :
    removeTodo stamp fs path lineNum =
      match removeTodoText text lineNum with
      | .error e => (writeFile fs (backupPath path stamp) text, some e)
      | .ok text' => (writeFile (writeFile fs (backupPath path stamp) text) path text', none) := by
  obtain ⟨hb, hself⟩ := createBackup_same h stamp
  simp only [removeTodo, hb, hself]

end Files

/-! ## 4. The session -/

/-- How `cleanup_file_interactive` ends. -/
inductive Ending where
  /-- It returns: every comment was handled, or `4` skipped the rest. -/
  | returned
  /-- `q`: `sys.exit(0)`. -/
  | exited
  /-- An exception: `EOFError` from `input()`, or one an action raised. -/
  | raised (e : PyError)
  deriving DecidableEq, Repr

/-- `input(...).strip()`: the next line typed, stripped; `EOFError` after the last. -/
def readInput : List (List Char) → Except PyError (List Char × List (List Char))
  | [] => .error .eofError
  | l :: ls => .ok (stripChars l, ls)

/-- The loop of `cleanup_file_interactive` over the entries of `find_todos`, on the text of the
file it processes, from that text and the lines not typed yet.  The choice is
`input().strip().lower()`: only `Q` lowers to `q`, so ASCII lowering decides the comparisons as
Python's does.  `3`, and any choice not listed, keeps the comment. -/
def cleanupLoop : List TodoEntry → List Char → List (List Char) → List Char × Ending
  | [], text, _ => (text, .returned)
  | t :: ts, text, input =>
    match readInput input with
    | .error e => (text, .raised e)
    | .ok (choice, input) =>
      let choice := choice.map Char.toLower
      if choice = ['1'] then
        match readInput input with
        | .error e => (text, .raised e)
        | .ok (issueNum, input) =>
          match readInput input with
          | .error e => (text, .raised e)
          | .ok (issueTitle, input) =>
            match replaceTodoText text t.lineNum issueNum issueTitle with
            | .error e => (text, .raised e)
            | .ok text => cleanupLoop ts text input
      else if choice = ['2'] then
        match removeTodoText text t.lineNum with
        | .error e => (text, .raised e)
        | .ok text => cleanupLoop ts text input
      else if choice = ['4'] then (text, .returned)
      else if choice = ['q'] then (text, .exited)
      else cleanupLoop ts text input

/-- `cleanup_file_interactive(file_path)` on a file that exists, given the lines the user
types: the file's text at the end, and how the call ended.  (The backups it writes on the way
are in `Batch.cleanupSession`.) -/
def cleanupFileInteractive (text : List Char) (input : List (List Char)) : List Char × Ending :=
  cleanupLoop (findTodos text) text input

/-! ## 5. Reading back what was written -/

/-- A line as `readlines` returns it from a text without carriage returns, the last one apart:
characters other than line breaks, then a newline. -/
def isLine (l : List Char) : Bool :=
  l.getLast? == some '\n' && l.dropLast.all fun c => c != '\n' && c != '\r'

theorem isLine_append {body : List Char} (hb : ∀ c ∈ body, c ≠ '\n' ∧ c ≠ '\r') :
    isLine (body ++ ['\n']) = true := by
  simpa [isLine] using hb

theorem eq_of_isLine {l : List Char} (h : isLine l = true) :
    ∃ body, l = body ++ ['\n'] ∧ ∀ c ∈ body, c ≠ '\n' ∧ c ≠ '\r' := by
  simp only [isLine, Bool.and_eq_true, beq_iff_eq, List.getLast?_eq_some_iff, List.all_eq_true,
    bne_iff_ne, ne_eq] at h
  obtain ⟨⟨body, rfl⟩, hb⟩ := h
  exact ⟨body, rfl, by simpa using hb⟩

theorem isLine_cons {c : Char} {l : List Char} (hc : c ≠ '\n' ∧ c ≠ '\r')
    (h : isLine l = true) :
    isLine (c :: l) = true := by
  obtain ⟨body, rfl, hb⟩ := eq_of_isLine h
  exact isLine_append (List.forall_mem_cons.mpr ⟨hc, hb⟩)

/-- Lines with one more line put among them. -/
theorem isLine_of_mem_append_cons {A B : List (List Char)} {x : List Char}
    (hA : ∀ l ∈ A, isLine l = true) (hx : isLine x = true) (hB : ∀ l ∈ B, isLine l = true) :
    ∀ l ∈ A ++ x :: B, isLine l = true :=
  List.forall_mem_append.mpr ⟨hA, List.forall_mem_cons.mpr ⟨hx, hB⟩⟩

theorem translateNewlines_no_cr (s : List Char) : '\r' ∉ translateNewlines s := by
  induction s using translateNewlines.induct with
  | case4 c s _ hc ih => simpa [translateNewlines, hc, Ne.symm hc] using ih
  | _ => simp_all [translateNewlines]

theorem translateNewlines_append {a : List Char} (ha : ∀ c ∈ a, c ≠ '\r') (s : List Char) :
    translateNewlines (a ++ s) = a ++ translateNewlines s := by
  induction a with
  | nil => rfl
  | cons c a ih =>
    have hc : c ≠ '\r' := ha c (List.mem_cons_self c a)
    simp [translateNewlines, hc, ih fun d hd => ha d (List.mem_cons_of_mem c hd)]

theorem readLines_append_line {body : List Char} (hb : '\n' ∉ body) (s : List Char) :
    readLines (body ++ '\n' :: s) = (body ++ ['\n']) :: readLines s := by
  induction body with
  | nil => simp [readLines]
  | cons c body ih =>
    have hc : c ≠ '\n' := fun e => hb (e ▸ List.mem_cons_self c body)
    rw [List.cons_append, readLines, if_neg hc, ih fun e => hb (List.mem_cons_of_mem c e)]
    rfl

theorem readLines_flatten_append (s : List Char) :
    ∀ ls : List (List Char), (∀ l ∈ ls, isLine l = true) →
      readLines (ls.flatten ++ s) = ls ++ readLines s
  | [], _ => rfl
  | l :: ls, h => by
    obtain ⟨body, rfl, hb⟩ := eq_of_isLine (h l (List.mem_cons_self l ls))
    rw [List.flatten_cons, List.append_assoc, List.append_assoc, List.singleton_append,
      readLines_append_line (fun e => (hb _ e).1 rfl),
      readLines_flatten_append s ls fun l' hl' => h l' (List.mem_cons_of_mem _ hl')]
    rfl

theorem no_cr_of_isLine {ls : List (List Char)} (h : ∀ l ∈ ls, isLine l = true) :
    ∀ c ∈ ls.flatten, c ≠ '\r' := by
  intro c hc hcr
  obtain ⟨l, hl, hcl⟩ := List.mem_flatten.mp hc
  obtain ⟨body, rfl, hb⟩ := eq_of_isLine (h l hl)
  rcases List.mem_append.mp hcl with hcb | hcn
  · exact (hb c hcb).2 hcr
  · simp_all

/-- **Lines written with `writelines` are read back as they were**, whatever follows them. -/
theorem fileLines_append {ls : List (List Char)} (h : ∀ l ∈ ls, isLine l = true)
    (s : List Char) :
    fileLines (ls.flatten ++ s) = ls ++ fileLines s := by
  rw [fileLines, translateNewlines_append (no_cr_of_isLine h), readLines_flatten_append _ _ h]
  rfl

theorem fileLines_flatten {ls : List (List Char)} (h : ∀ l ∈ ls, isLine l = true) :
    fileLines ls.flatten = ls := by
  simpa [fileLines, readLines, translateNewlines] using fileLines_append h []

/-- Every line the script reads but the last one ends in a newline. -/
theorem isLine_of_mem_dropLast :
    ∀ s : List Char, '\r' ∉ s → ∀ l ∈ (readLines s).dropLast, isLine l = true
  | [], _ => by simp [readLines]
  | c :: s, hs => by
    have hc : c ≠ '\r' := fun e => hs (e ▸ List.mem_cons_self c s)
    have ih := isLine_of_mem_dropLast s fun e => hs (List.mem_cons_of_mem c e)
    rw [readLines]
    split_ifs with hn
    · -- a newline is a line of its own
      subst hn
      rcases h : readLines s with _ | ⟨l, ls⟩
      · simp
      · rw [h] at ih
        rw [List.dropLast_cons₂]
        exact List.forall_mem_cons.mpr ⟨rfl, ih⟩
    · -- another character starts the first line
      rcases h : readLines s with _ | ⟨l, _ | ⟨l', ls⟩⟩
      · simp
      · simp
      · rw [h, List.dropLast_cons₂] at ih
        obtain ⟨hl, hls⟩ := List.forall_mem_cons.mp ih
        rw [List.dropLast_cons₂]
        exact List.forall_mem_cons.mpr ⟨isLine_cons ⟨hn, hc⟩ hl, hls⟩

/-! ## 6. A line that holds only a comment -/

/-- A line of a file that holds only the comment `// TODO: text` or `// FIXME: text`, indented
by spaces: the text is not empty, starts with a non-blank, and holds no line break. -/
structure CommentLine where
  indent : Nat
  marker : List Char
  text : List Char
  marker_mem : marker ∈ markers
  text_ne_nil : text ≠ []
  head_not_space : ∀ c ∈ text.head?, isSpace c = false
  no_break : ∀ c ∈ text, c ≠ '\n' ∧ c ≠ '\r'

theorem matchAt_alt_markers {m : List Char} (hm : m ∈ markers) (p : List Item) (s : List Char)
    (gs : List (List Char)) :
    matchAt (.alt markers :: p) (m ++ s) gs = matchAt p s (gs ++ [m]) := by
  rcases mem_markers.mp hm with rfl | rfl <;> simp [matchAt, altThen, markers, List.isPrefixOf]

theorem marker_head {m : List Char} (hm : m ∈ markers) (s : List Char) :
    ∀ c ∈ (m ++ s).head?, isSpace c = false := by
  rcases mem_markers.mp hm with rfl | rfl <;> rintro c ⟨⟩ <;> rfl

/-- `\s*` over one blank, before a part of the pattern that matches after it. -/
theorem matchAt_star_space_blank {p : List Item} {s : List Char} {gs : List (List Char)}
    {x : List (List Char) × List Char} (hs : ∀ c ∈ s.head?, isSpace c = false)
    (h : matchAt p s gs = some x) : matchAt (.star .space :: p) (' ' :: s) gs = some x := by
  have h' : starThen .space (fun r => matchAt p r gs) s = some x := by
    rw [starThen_stop hs]; exact h
  exact starThen_append h' [' '] (by decide)

/-- The three patterns start with `//` after blanks: none starts at a blank. -/
theorem matchAt_indent {p : List Item} (s : List Char) (n : Nat) :
    ∀ j < n, matchAt (.one (.char '/') :: p) ((List.replicate n ' ' ++ s).drop j) [] = none := by
  intro j hj
  rw [List.drop_append_of_le_length (by simp; omega), List.drop_replicate,
    show n - j = (n - j - 1) + 1 by omega, List.replicate_succ]
  rfl

namespace CommentLine

variable (t : CommentLine)

/-- The comment, from `//` to the end of the text. -/
def comment : List Char := ['/', '/', ' '] ++ t.marker ++ [':', ' '] ++ t.text

/-- The line as the file holds it. -/
def render : List Char := List.replicate t.indent ' ' ++ t.comment ++ ['\n']

theorem comment_newline :
    t.comment ++ ['\n'] = '/' :: '/' :: ' ' :: (t.marker ++ ':' :: ' ' :: (t.text ++ ['\n'])) := by
  simp [comment]

theorem text_head : ∀ c ∈ (t.text ++ ['\n']).head?, isSpace c = false := by
  rw [List.head?_append_of_ne_nil _ t.text_ne_nil]; exact t.head_not_space

theorem isLine_render : isLine t.render = true := by
  have hm : ∀ c ∈ t.marker, c ≠ '\n' ∧ c ≠ '\r' := by
    rcases mem_markers.mp t.marker_mem with h | h <;> rw [h] <;> decide
  refine isLine_append fun c hc => ?_
  simp only [comment, List.mem_append, List.mem_replicate, List.mem_cons, List.mem_singleton,
    List.not_mem_nil, or_false] at hc
  rcases hc with ⟨-, rfl⟩ | (((rfl | rfl | rfl) | hc) | rfl | rfl) | hc
  all_goals first | decide | exact hm c hc | exact t.no_break c hc

/-- `find_todos`'s pattern takes the marker and the whole text. -/
theorem matchAt_todoPattern :
    matchAt todoPattern (t.comment ++ ['\n']) [] = some ([t.marker, t.text], ['\n']) := by
  have hlazy := lazyThen_dot_eol (fun x => [t.marker] ++ [x]) t.text t.text_ne_nil
    fun h => (t.no_break _ h).1 rfl
  have htext : matchAt [.lazyPlus .dot, .eol] (t.text ++ ['\n']) [t.marker] =
      some ([t.marker, t.text], ['\n']) := by
    simpa [matchAt] using hlazy
  have halt := (matchAt_alt_markers t.marker_mem
    [.one (.char ':'), .star .space, .lazyPlus .dot, .eol] (':' :: ' ' :: (t.text ++ ['\n']))
    []).trans (matchAt_star_space_blank t.text_head htext)
  rw [comment_newline]
  exact matchAt_star_space_blank (marker_head t.marker_mem _) halt

/-- `replace_todo_with_issue`'s pattern runs from `//` to the newline. -/
theorem matchAt_replacePattern :
    matchAt replacePattern (t.comment ++ ['\n']) [] = some ([t.marker], ['\n']) := by
  have hstop :
      starThen .dot (fun r => matchAt [] r [t.marker]) ['\n'] = some ([t.marker], ['\n']) :=
    starThen_stop (by simp [Cls.test])
  have htext : starThen .dot (fun r => matchAt [] r [t.marker]) (' ' :: t.text ++ ['\n']) =
      some ([t.marker], ['\n']) := by
    refine starThen_append hstop (' ' :: t.text) fun c hc => ?_
    rcases List.mem_cons.mp hc with rfl | hc
    · rfl
    · simpa [Cls.test] using (t.no_break c hc).1
  have halt := (matchAt_alt_markers t.marker_mem [.one (.char ':'), .star .dot]
    (':' :: ' ' :: (t.text ++ ['\n'])) []).trans htext
  rw [comment_newline]
  exact matchAt_star_space_blank (marker_head t.marker_mem _) halt

/-- **`find_todos` reports a comment line** with its marker and its stripped text. -/
theorem todoOfLine_render (n : Nat) :
    todoOfLine n t.render = some ⟨n, t.marker, stripChars t.text⟩ := by
  have hsearch : search todoPattern t.render = some (t.indent, [t.marker, t.text], ['\n']) := by
    rw [search, render, List.append_assoc,
      searchFrom_append_of_none _ _ _
        (by simpa using matchAt_indent (t.comment ++ ['\n']) t.indent),
      searchFrom_of_matchAt t.matchAt_todoPattern, List.length_replicate, Nat.zero_add]
  simp [todoOfLine, hsearch]

/-- `replace_todo_with_issue`'s substitution on a comment line: the comment, up to the line's
newline, becomes the reference. -/
theorem reSub_replacePattern_render {ref : List Char} (href : '\\' ∉ ref) :
    reSub replacePattern ref t.render = .ok (List.replicate t.indent ' ' ++ ref ++ ['\n']) := by
  obtain ⟨rest, hrest⟩ : ∃ rest, t.comment ++ ['\n'] = '/' :: rest :=
    ⟨_, t.comment_newline⟩
  have hmatch : matchAt replacePattern ('/' :: rest) [] = some ([t.marker], ['\n']) :=
    hrest ▸ t.matchAt_replacePattern
  have hlen : 2 ≤ rest.length := by
    have := congrArg List.length hrest
    simp [comment] at this; omega
  have hfuel :
      t.render.length + 1 = (rest.length + 1 + 1) + (List.replicate t.indent ' ').length := by
    rw [render, List.append_assoc, hrest]; simp
    omega
  have htail : subScan replacePattern (ref.map .lit) (rest.length + 1) ['\n'] = ['\n'] := by
    obtain ⟨k, hk⟩ : ∃ k, rest.length = k + 2 := ⟨rest.length - 2, by omega⟩
    rw [hk]; rfl
  rw [reSub, parseTemplate_plain _ href]
  show Except.ok (subScan replacePattern (ref.map .lit) (t.render.length + 1) t.render) = _
  rw [hfuel, render, List.append_assoc, hrest,
    subScan_append_of_none _ _ _ (by simpa using matchAt_indent ('/' :: rest) t.indent),
    subScan_cons_of_match _ hmatch (by simp; omega), expand_lits, htail]
  simp

/-- Stripped, the line starts with `//` and holds its marker. -/
theorem strip_render :
    ['/', '/'] <+: stripChars t.render ∧
      (['T', 'O', 'D', 'O'] <:+: stripChars t.render ∨
        ['F', 'I', 'X', 'M', 'E'] <:+: stripChars t.render) := by
  obtain ⟨d, ds, hd⟩ := List.exists_cons_of_ne_nil t.text_ne_nil
  have hsplit : t.render = List.replicate t.indent ' ' ++ (['/', '/', ' '] ++ t.marker ++ [':']) ++
      (' ' :: (t.text ++ ['\n'])) := by simp [render, comment]
  have hpre : ['/', '/', ' '] ++ t.marker ++ [':'] <+: stripChars t.render := by
    rw [hsplit]
    refine stripChars_prefix (fun c hc => ?_) (fun c hc => ?_)
      ⟨d, ?_, t.head_not_space d (by simp [hd])⟩
    · rw [List.eq_of_mem_replicate hc]; rfl
    · simp at hc; rw [← hc]; rfl
    · simp [hd]
  refine ⟨(List.prefix_append ['/', '/'] (' ' :: (t.marker ++ [':']))).trans
    (by simpa using hpre), ?_⟩
  have hm : t.marker <:+: stripChars t.render := (List.infix_append _ _ _).trans hpre.isInfix
  rcases mem_markers.mp t.marker_mem with h | h <;> rw [h] at hm
  exacts [Or.inl hm, Or.inr hm]

end CommentLine

/-! ## 7. The actions on a file of lines -/

section Actions

variable (A B : List (List Char))

theorem getD_middle (x : List Char) : (A ++ x :: B).getD A.length [] = x := by
  rw [List.getD_eq_getElem?_getD, List.getElem?_append_right (le_refl _), Nat.sub_self]; simp

theorem lineIndex_succ (n len : Nat) : lineIndex (n + 1) len = n := rfl

/-- **`2` on a line that holds only a comment deletes the line.** -/
theorem removeTodoText_comment_line (t : CommentLine) (hA : ∀ l ∈ A, isLine l = true)
    (hB : ∀ l ∈ B, isLine l = true) :
    removeTodoText (A ++ t.render :: B).flatten (A.length + 1) = .ok (A ++ B).flatten := by
  have hlines := isLine_of_mem_append_cons hA t.isLine_render hB
  simp only [removeTodoText, fileLines_flatten hlines, lineIndex_succ, getD_middle]
  rw [if_pos (by simp), if_neg (by simp), if_pos t.strip_render,
    List.eraseIdx_append_of_length_le (le_refl _), Nat.sub_self, List.eraseIdx_cons_zero]

/-- `2` at a line below a prefix of the lines leaves that prefix: the file is kept, or written
as the prefix and the edited lines after it. -/
theorem removeTodoText_frame {text : List Char} {A R : List (List Char)} (h : fileLines text = A ++ R)
    {n : Nat} (hn : A.length < n) :
    removeTodoText text n = .ok text ∨ ∃ R', removeTodoText text n = .ok (A ++ R').flatten := by
  simp only [removeTodoText, h]
  by_cases hle : n ≤ (A ++ R).length
  · have hne : A ++ R ≠ [] := List.ne_nil_of_length_pos (by omega)
    have hi : lineIndex n (A ++ R).length = n - 1 := if_neg (by omega)
    have hAi : A.length ≤ n - 1 := by omega
    rw [if_pos hle, if_neg hne, hi]
    refine .inr ?_
    split
    · exact ⟨R.eraseIdx (n - 1 - A.length), by rw [List.eraseIdx_append_of_length_le hAi]⟩
    · rw [reSub, parseTemplate_plain _ (by decide)]
      exact ⟨R.set (n - 1 - A.length) _, by
        simp only [except_map_ok]; rw [List.set_append_right _ _ hAi]⟩
  · exact .inl (by rw [if_neg hle])

/-- `1` at a line below a prefix of the lines leaves that prefix, in the same way. -/
theorem replaceTodoText_frame {text text' : List Char} {A R : List (List Char)}
    (h : fileLines text = A ++ R) {n : Nat} (hn : A.length < n) {issueNum issueTitle : List Char}
    (hr : replaceTodoText text n issueNum issueTitle = .ok text') :
    text' = text ∨ ∃ R', text' = (A ++ R').flatten := by
  simp only [replaceTodoText, h] at hr
  by_cases hle : n ≤ (A ++ R).length
  · have hne : A ++ R ≠ [] := List.ne_nil_of_length_pos (by omega)
    have hi : lineIndex n (A ++ R).length = n - 1 := if_neg (by omega)
    have hAi : A.length ≤ n - 1 := by omega
    rw [if_pos hle, if_neg hne, hi] at hr
    cases hs : reSub replacePattern (issueReference issueNum issueTitle)
        ((A ++ R).getD (n - 1) []) with
    | error e => rw [hs] at hr; cases hr
    | ok line =>
      rw [hs, except_map_ok, Except.ok.injEq] at hr
      exact .inr ⟨R.set (n - 1 - A.length) line, by rw [← hr, List.set_append_right _ _ hAi]⟩
  · rw [if_neg hle] at hr
    exact .inl (Except.ok.inj hr).symm

/-- **`1` on a line that holds only a comment adds a line**: the reference ends in a newline,
and the line's own newline stays after it. -/
theorem replaceTodoText_comment_line (t : CommentLine) (hA : ∀ l ∈ A, isLine l = true)
    (hB : ∀ l ∈ B, isLine l = true) {issueNum issueTitle : List Char}
    (hnum : '\\' ∉ issueNum) (htitle : '\\' ∉ issueTitle) :
    replaceTodoText (A ++ t.render :: B).flatten (A.length + 1) issueNum issueTitle =
      .ok (A ++ (List.replicate t.indent ' ' ++ issueReference issueNum issueTitle) ::
        ['\n'] :: B).flatten := by
  have hlines := isLine_of_mem_append_cons hA t.isLine_render hB
  have href : '\\' ∉ issueReference issueNum issueTitle := by
    simp only [issueReference, List.mem_append, not_or]
    exact ⟨⟨⟨⟨by decide, hnum⟩, by decide⟩, htitle⟩, by decide⟩
  simp only [replaceTodoText, fileLines_flatten hlines, lineIndex_succ, getD_middle]
  rw [if_pos (by simp), if_neg (by simp), t.reSub_replacePattern_render href]
  simp only [except_map_ok]
  rw [List.set_append_right _ _ (le_refl _), Nat.sub_self, List.set_cons_zero]
  simp

end Actions

/-! ## 8. The session, comment by comment -/

section Session

/-- A line `find_todos` does not report, in a text without carriage returns. -/
def IsPlainLine (l : List Char) : Prop := isLine l = true ∧ search todoPattern l = none

instance : DecidablePred IsPlainLine := fun _ => inferInstanceAs (Decidable (_ ∧ _))

theorem filterMap_plain (n : Nat) : ∀ ls : List (List Char), (∀ l ∈ ls, IsPlainLine l) →
    (ls.enumFrom n).filterMap (fun nl => todoOfLine nl.1 nl.2) = []
  | [], _ => rfl
  | l :: ls, h => by
    have hl : todoOfLine n l = none := by simp [todoOfLine, (h l (List.mem_cons_self _ _)).2]
    simp only [List.enumFrom_cons, List.filterMap_cons, hl,
      filterMap_plain (n + 1) ls fun l' hl' => h l' (List.mem_cons_of_mem _ hl')]

theorem mem_of_mem_stripChars {c : Char} {s : List Char} (h : c ∈ stripChars s) : c ∈ s := by
  simp only [stripChars, List.mem_reverse] at h
  exact (List.dropWhile_sublist _).subset
    (List.mem_reverse.mp ((List.dropWhile_sublist _).subset h))

theorem cleanupLoop_remove {e : TodoEntry} {es : List TodoEntry} {text text' : List Char}
    {input : List (List Char)} (h : removeTodoText text e.lineNum = .ok text') :
    cleanupLoop (e :: es) text (['2'] :: input) = cleanupLoop es text' input := by
  simp [cleanupLoop, readInput, stripChars_singleton (show isSpace '2' = false from rfl), h]

theorem isLine_reference (n : Nat) {issueNum issueTitle : List Char}
    (h : ∀ c ∈ issueNum ++ issueTitle, c ≠ '\n' ∧ c ≠ '\r') :
    isLine (List.replicate n ' ' ++ issueReference issueNum issueTitle) = true := by
  have hsplit : List.replicate n ' ' ++ issueReference issueNum issueTitle =
      (List.replicate n ' ' ++ "// See: Issue #".toList ++ issueNum ++ " - ".toList ++
        issueTitle) ++ ['\n'] := by
    simp [issueReference]
  rw [hsplit]
  refine isLine_append fun c hc => ?_
  simp only [List.mem_append] at hc
  rcases hc with (((hc | hc) | hc) | hc) | hc
  · rw [List.eq_of_mem_replicate hc]; decide
  · revert c; decide
  · exact h c (List.mem_append_left _ hc)
  · revert c; decide
  · exact h c (List.mem_append_right _ hc)

theorem cleanupLoop_replace {e : TodoEntry} {es : List TodoEntry}
    {text text' issueNum issueTitle : List Char} {input : List (List Char)}
    (h : replaceTodoText text e.lineNum (stripChars issueNum) (stripChars issueTitle) =
      .ok text') :
    cleanupLoop (e :: es) text (['1'] :: issueNum :: issueTitle :: input) =
      cleanupLoop es text' input := by
  simp [cleanupLoop, readInput, stripChars_singleton (show isSpace '1' = false from rfl), h]

theorem cleanupLoop_keep (e : TodoEntry) (es : List TodoEntry) (text : List Char)
    (input : List (List Char)) :
    cleanupLoop (e :: es) text (['3'] :: input) = cleanupLoop es text input := by
  simp [cleanupLoop, readInput, stripChars_singleton (show isSpace '3' = false from rfl)]

/-- The lines `find_todos` does not report are lines. -/
theorem isLine_of_plain {pre mid post : List (List Char)}
    (h : ∀ l ∈ pre ++ mid ++ post, IsPlainLine l) :
    (∀ l ∈ pre, isLine l = true) ∧ (∀ l ∈ mid, isLine l = true) ∧
      ∀ l ∈ post, isLine l = true := by
  simp only [List.forall_mem_append] at h
  exact ⟨fun l hl => (h.1.1 l hl).1, fun l hl => (h.1.2 l hl).1, fun l hl => (h.2 l hl).1⟩

/-- The two comment lines of a file are the entries `find_todos` reports. -/
theorem findTodos_two (pre mid post : List (List Char))
    (h : ∀ l ∈ pre ++ mid ++ post, IsPlainLine l) (t₁ t₂ : CommentLine) :
    findTodos (pre ++ t₁.render :: mid ++ t₂.render :: post).flatten =
      [⟨pre.length + 1, t₁.marker, stripChars t₁.text⟩,
        ⟨pre.length + mid.length + 2, t₂.marker, stripChars t₂.text⟩] := by
  obtain ⟨hpre, hmid, hpost⟩ := isLine_of_plain h
  have hlines := isLine_of_mem_append_cons
    (isLine_of_mem_append_cons hpre t₁.isLine_render hmid) t₂.isLine_render hpost
  have hplain : ∀ ls ⊆ pre ++ mid ++ post, ∀ n,
      (ls.enumFrom n).filterMap (fun nl => todoOfLine nl.1 nl.2) = [] :=
    fun ls hls n => filterMap_plain n ls fun l hl => h l (hls hl)
  rw [findTodos, fileLines_flatten hlines]
  simp only [List.enumFrom_append, List.enumFrom_cons, List.filterMap_append, List.filterMap_cons,
    CommentLine.todoOfLine_render, hplain pre (by simp), hplain mid (by simp),
    hplain post (by simp)]
  simp; omega

/-- **The line numbers go stale.**  Take a file with two lines that hold only a comment, the
first at line `pre.length + 1` and the second at line `pre.length + mid.length + 2`, and no
other line `find_todos` reports.  Asked to remove both (`2`, `2`), the script deletes the first
line, then applies the second removal to the line that has moved up under the stale number:
the second comment stays where it is.  Asked to replace the first (`1`) and keep the second,
it writes the reference followed by an empty line, so the file gains a line. -/
theorem cleanupFileInteractive_stale_line_numbers (pre mid post : List (List Char))
    (hplain : ∀ l ∈ pre ++ mid ++ post, IsPlainLine l) (t₁ t₂ : CommentLine)
    (issueNum issueTitle : List Char) (hinput : ∀ c ∈ issueNum ++ issueTitle, c ≠ '\\' ∧ c ≠ '\n' ∧ c ≠ '\r') :
    findTodos (pre ++ t₁.render :: mid ++ t₂.render :: post).flatten =
        [⟨pre.length + 1, t₁.marker, stripChars t₁.text⟩,
          ⟨pre.length + mid.length + 2, t₂.marker, stripChars t₂.text⟩] ∧
      (∃ rest, cleanupFileInteractive (pre ++ t₁.render :: mid ++ t₂.render :: post).flatten
          [['2'], ['2']] = ((pre ++ mid ++ [t₂.render]).flatten ++ rest, .returned)) ∧
      fileLines (cleanupFileInteractive (pre ++ t₁.render :: mid ++ t₂.render :: post).flatten
          [['1'], issueNum, issueTitle, ['3']]).1 =
        pre ++ (List.replicate t₁.indent ' ' ++ issueReference (stripChars issueNum) (stripChars issueTitle)) ::
          ['\n'] :: mid ++ t₂.render :: post := by
  have hfind := findTodos_two pre mid post hplain t₁ t₂
  obtain ⟨hpre, hmid, hpost⟩ := isLine_of_plain hplain
  have hrest := isLine_of_mem_append_cons hmid t₂.isLine_render hpost
  have hassoc : pre ++ t₁.render :: mid ++ t₂.render :: post =
      pre ++ t₁.render :: (mid ++ t₂.render :: post) := by
    simp
  refine ⟨hfind, ?_, ?_⟩
  · -- `2`, `2`: the first comment line goes, the second removal lands below the second comment
    have h₁ := removeTodoText_comment_line pre (mid ++ t₂.render :: post) t₁ hpre hrest
    rw [← hassoc] at h₁
    have hlines : fileLines (pre ++ (mid ++ t₂.render :: post)).flatten =
        (pre ++ mid ++ [t₂.render]) ++ post := by
      rw [fileLines_flatten (List.forall_mem_append.mpr ⟨hpre, hrest⟩)]
      simp
    obtain ⟨rest, h₂⟩ : ∃ rest, removeTodoText (pre ++ (mid ++ t₂.render :: post)).flatten
        (pre.length + mid.length + 2) = .ok ((pre ++ mid ++ [t₂.render]).flatten ++ rest) := by
      rcases removeTodoText_frame hlines
        (show (pre ++ mid ++ [t₂.render]).length < pre.length + mid.length + 2 by simp; omega)
        with h | ⟨post', h⟩
      · exact ⟨post.flatten, by simpa using h⟩
      · exact ⟨post'.flatten, by simpa using h⟩
    refine ⟨rest, ?_⟩
    rw [cleanupFileInteractive, hfind, cleanupLoop_remove h₁, cleanupLoop_remove h₂]
    rfl
  · -- `1`, then `3`: the reference and an empty line stand where the first comment was
    have hstrip : ∀ c ∈ stripChars issueNum ++ stripChars issueTitle,
        c ≠ '\\' ∧ c ≠ '\n' ∧ c ≠ '\r' :=
      fun c hc => hinput c (List.mem_append.mpr
        ((List.mem_append.mp hc).imp mem_of_mem_stripChars mem_of_mem_stripChars))
    have h₁ := replaceTodoText_comment_line pre (mid ++ t₂.render :: post) t₁ hpre hrest
      (fun h => (hstrip _ (List.mem_append_left _ h)).1 rfl)
      (fun h => (hstrip _ (List.mem_append_right _ h)).1 rfl)
    rw [← hassoc] at h₁
    rw [cleanupFileInteractive, hfind, cleanupLoop_replace h₁, cleanupLoop_keep]
    show fileLines (pre ++ _ :: ['\n'] :: (mid ++ t₂.render :: post)).flatten = _
    rw [fileLines_flatten (isLine_of_mem_append_cons hpre
      (isLine_reference _ fun c hc => (hstrip c hc).2)
      (List.forall_mem_cons.mpr ⟨show isLine ['\n'] = true from rfl, hrest⟩))]
    simp

end Session

/-- `// TODO: a`. -/
def todoA : CommentLine := ⟨0, ['T', 'O', 'D', 'O'], ['a'], by decide, by decide, by decide, by decide⟩

/-- `// TODO: b`. -/
def todoB : CommentLine := ⟨0, ['T', 'O', 'D', 'O'], ['b'], by decide, by decide, by decide, by decide⟩

/-- The file `// TODO: a` `// TODO: b`, answered `2`, `2`, and then `1`, `7`, `t`, `3`. -/
theorem cleanupFileInteractive_two_todos :
    (∀ l ∈ ([] : List (List Char)) ++ [] ++ [], IsPlainLine l) ∧
      (∀ c ∈ ['7'] ++ ['t'], c ≠ '\\' ∧ c ≠ '\n' ∧ c ≠ '\r') ∧
      (findTodos ([] ++ todoA.render :: [] ++ todoB.render :: []).flatten =
          [⟨1, todoA.marker, stripChars todoA.text⟩, ⟨2, todoB.marker, stripChars todoB.text⟩] ∧
        (∃ rest, cleanupFileInteractive ([] ++ todoA.render :: [] ++ todoB.render :: []).flatten
            [['2'], ['2']] = (([] ++ [] ++ [todoB.render]).flatten ++ rest, .returned)) ∧
        fileLines (cleanupFileInteractive ([] ++ todoA.render :: [] ++ todoB.render :: []).flatten
            [['1'], ['7'], ['t'], ['3']]).1 =
          [] ++ (List.replicate todoA.indent ' ' ++ issueReference (stripChars ['7']) (stripChars ['t'])) ::
            ['\n'] :: [] ++ todoB.render :: []) :=
  ⟨by decide, by decide,
    cleanupFileInteractive_stale_line_numbers [] [] [] (by decide) todoA todoB ['7'] ['t']
      (by decide)⟩

/-! ## 9. What a session never touches -/

section Frame

/-- What one pass of the loop can do: end with the file as it is, or go on to the next entry
with the file kept, or as `remove_todo` or `replace_todo_with_issue` wrote it. -/
theorem cleanupLoop_cons (e : TodoEntry) (es : List TodoEntry) (text : List Char)
    (input : List (List Char)) :
    (∃ ending, cleanupLoop (e :: es) text input = (text, ending)) ∨
      ∃ text' input', cleanupLoop (e :: es) text input = cleanupLoop es text' input' ∧
        (text' = text ∨ removeTodoText text e.lineNum = .ok text' ∨
          ∃ issueNum issueTitle,
            replaceTodoText text e.lineNum issueNum issueTitle = .ok text') := by
  simp only [cleanupLoop]
  split
  · exact .inl ⟨_, rfl⟩
  · split_ifs
    · split
      · exact .inl ⟨_, rfl⟩
      · split
        · exact .inl ⟨_, rfl⟩
        · split
          · exact .inl ⟨_, rfl⟩
          · exact .inr ⟨_, _, rfl, .inr (.inr ⟨_, _, ‹_›⟩)⟩
    · split
      · exact .inl ⟨_, rfl⟩
      · exact .inr ⟨_, _, rfl, .inr (.inl ‹_›)⟩
    · exact .inl ⟨_, rfl⟩
    · exact .inl ⟨_, rfl⟩
    · exact .inr ⟨_, _, rfl, .inl rfl⟩

/-- A file written as lines that keep a prefix `A` is read back with `A` in front. -/
theorem fileLines_of_frame {A R : List (List Char)} (hA : ∀ l ∈ A, isLine l = true) :
    ∃ R', fileLines (A ++ R).flatten = A ++ R' :=
  ⟨fileLines R.flatten, by rw [List.flatten_append, fileLines_append hA]⟩

/-- **The loop keeps every line above the lines it is asked about.** -/
theorem cleanupLoop_frame {A : List (List Char)} (hA : ∀ l ∈ A, isLine l = true) :
    ∀ (es : List TodoEntry) (text : List Char) (input : List (List Char)),
      (∀ e ∈ es, A.length < e.lineNum) → (∃ R, fileLines text = A ++ R) →
      ∃ R, fileLines (cleanupLoop es text input).1 = A ++ R
  | [], _, _, _, hR => hR
  | e :: es, text, input, hes, ⟨R, hR⟩ => by
    have hn := hes e (List.mem_cons_self e es)
    have hes' := fun e' he' => hes e' (List.mem_cons_of_mem e he')
    rcases cleanupLoop_cons e es text input with ⟨ending, h⟩ | ⟨text', input', h, hstep⟩
    · exact ⟨R, by rw [h]; exact hR⟩
    · rw [h]
      refine cleanupLoop_frame hA es text' input' hes' ?_
      rcases hstep with rfl | hrem | ⟨issueNum, issueTitle, hrep⟩
      · exact ⟨R, hR⟩
      · rcases removeTodoText_frame hR hn with hkeep | ⟨R', hR'⟩
        · rw [hkeep] at hrem; cases hrem; exact ⟨R, hR⟩
        · rw [hR'] at hrem; cases hrem; exact fileLines_of_frame hA
      · rcases replaceTodoText_frame hR hn hrep with rfl | ⟨R', rfl⟩
        · exact ⟨R, hR⟩
        · exact fileLines_of_frame hA

/-- **Lines above the first reported comment are never changed**: whatever the user types, the
first `k` lines of the file, when `find_todos` reports no line among them and they are not all
of the file, are read back unchanged at the end. -/
theorem cleanupFileInteractive_keeps_lines_above (text : List Char) (input : List (List Char))
    (k : Nat) (hk : ∀ e ∈ findTodos text, k < e.lineNum) (hlen : k < (fileLines text).length) :
    (fileLines (cleanupFileInteractive text input).1).take k = (fileLines text).take k := by
  have hA : ∀ l ∈ (fileLines text).take k, isLine l = true := by
    intro l hl
    refine isLine_of_mem_dropLast _ (translateNewlines_no_cr text) l ?_
    rw [List.dropLast_eq_take]
    exact (List.take_prefix_take_left _ (show k ≤ (fileLines text).length - 1 by omega)).subset hl
  have hAlen : ((fileLines text).take k).length = k := List.length_take_of_le hlen.le
  obtain ⟨R, hR⟩ := cleanupLoop_frame hA (findTodos text) text input
    (fun e he => by rw [hAlen]; exact hk e he)
    ⟨(fileLines text).drop k, (List.take_append_drop k _).symm⟩
  rw [cleanupFileInteractive, hR, List.take_left' hAlen]

/-- A file of a code line and a comment line, `x` `// TODO: a`, with the comment removed. -/
theorem cleanupFileInteractive_keeps_code_line :
    (∀ e ∈ findTodos "x\n// TODO: a\n".toList, 1 < e.lineNum) ∧
      1 < (fileLines "x\n// TODO: a\n".toList).length ∧
      (fileLines (cleanupFileInteractive "x\n// TODO: a\n".toList [['2']]).1).take 1 =
        (fileLines "x\n// TODO: a\n".toList).take 1 :=
  ⟨by decide, by decide, cleanupFileInteractive_keeps_lines_above _ _ 1 (by decide) (by decide)⟩

end Frame

end VmTools.Todo
