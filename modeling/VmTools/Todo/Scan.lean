import Mathlib.Data.List.Perm.Basic
import Mathlib.Data.List.Dedup
import VmTools.Todo.Cleanup
import VmTools.Todo.Classify

/-
# `classify_todos.py`: the scan and the report

`scan_todos` walks the tree, reads every `.rs` and `.md` file outside the directories it skips,
and, for each line and each of the markers `TODO`, `FIXME`, `XXX`, `HACK`, `BUG` that the line
contains, searches it with `{marker}[:\s]*(.+)` under `re.IGNORECASE` and records the stripped
group under the priority `classify_priority` gives it.  `generate_report` prints a summary, and
then, for each priority, the entries file by file, files and entries each in sorted order.

* `scanLine_of_marker`: a marker followed by anything on its line is never missed.  The test is
  a substring test, so `BUG` is found inside `DEBUG`.
* `reportPieces_scanTodos_items`: every entry the scan collects is listed exactly once in the
  report.  Grouping by file (`flatMap_filter_key_perm`) and sorting lose and repeat nothing,
  and no entry has a priority outside the three the report prints.

The search is a backtracking matcher for this one pattern, written as `Re` writes its own: the
greedy run of colons and spaces is tried longest first, and `(.+)` must take one character.
How `re.IGNORECASE` compares a letter of the marker with a character of the line is a parameter
(`same`), as is `str.lower` (`lower`).  The walk of `os.walk('.')` is given as its list of
directories and file names, and each file by the text the loop reads from it: all of it, or
what was read before a decode error, which the `except` prints and passes over.  `todos`, a
dictionary from priorities to lists, is the list of entries in the order they were found, each
with its priority: `todos[p]` is the sublist of priority `p`.
-/

namespace VmTools.Todo

open VmTools
open scoped List

/-! ## 1. The search -/

/-- `(.+)` at the end of the pattern: at least one character other than a newline, and greedily
all that follow, up to a newline. -/
def dotPlus : List Char → Option (List Char)
  | [] => none
  | c :: s => if c = '\n' then none else some (c :: s.takeWhile (· != '\n'))

/-- `[:\s]*(.+)`: the greedy run of colons and spaces, longest first, then group 1. -/
def colonsThenRest : List Char → Option (List Char)
  | [] => none
  | c :: s => (if c == ':' || isSpace c then colonsThenRest s else none) <|> dotPlus (c :: s)

/-- `{marker}[:\s]*(.+)` at the start of a string, each letter of the marker compared by `same`:
group 1. -/
def matchMarker (same : Char → Char → Bool) : List Char → List Char → Option (List Char)
  | [], s => colonsThenRest s
  | _ :: _, [] => none
  | m :: ms, c :: s => if same m c then matchMarker same ms s else none

/-- `re.search(rf'{marker}[:\s]*(.+)', line, re.IGNORECASE).group(1)`: the match at the first
position where there is one. -/
def searchMarker (same : Char → Char → Bool) (marker : List Char) : List Char → Option (List Char)
  | [] => matchMarker same marker []
  | c :: s => matchMarker same marker (c :: s) <|> searchMarker same marker s

theorem colonsThenRest_isSome {c : Char} (hc : c ≠ '\n') (s : List Char) :
    (colonsThenRest (c :: s)).isSome :=
  Re.isSome_orElse (.inr (by simp [dotPlus, hc]))

theorem matchMarker_self {same : Char → Char → Bool} (hsame : ∀ c, same c c = true)
    {s : List Char} (hs : (colonsThenRest s).isSome) :
    ∀ m : List Char, (matchMarker same m (m ++ s)).isSome
  | [] => hs
  | c :: m => by simpa [matchMarker, hsame] using matchMarker_self hsame hs m

/-- The search finds a match wherever one starts. -/
theorem searchMarker_of_match (same : Char → Char → Bool) (marker : List Char) {s : List Char}
    (h : (matchMarker same marker s).isSome) :
    ∀ a : List Char, (searchMarker same marker (a ++ s)).isSome
  | [] => by
    cases s with
    | nil => exact h
    | cons c s => exact Re.isSome_orElse (.inl h)
  | c :: a => Re.isSome_orElse (.inr (searchMarker_of_match same marker h a))

/-! ## 2. The scan -/

/-- The markers, in the order `scan_todos` tries them. -/
def scanMarkers : List (List Char) := ["TODO", "FIXME", "XXX", "HACK", "BUG"].map String.toList

/-- One entry of a list of `todos`: `(file_path, line_num, marker, content)`. -/
structure ScanEntry where
  filePath : List Char
  lineNum : Nat
  marker : List Char
  content : List Char
  deriving DecidableEq, Repr

/-- The two inner loops of `scan_todos` over one line: for each marker the line contains (`marker
in line`, as written), the stripped group of the search, under its priority. -/
def scanLine (same : Char → Char → Bool) (lower : List Char → List Char) (filePath : List Char)
    (lineNum : Nat) (line : List Char) : List (List Char × ScanEntry) :=
  scanMarkers.filterMap fun marker =>
    if marker <:+: line then
      (searchMarker same marker line).map fun g =>
        (classifyPriority lower (stripChars g) filePath, ⟨filePath, lineNum, marker, stripChars g⟩)
    else none

/-- The loop over `enumerate(f, 1)`: the lines of a file read in text mode. -/
def scanFile (same : Char → Char → Bool) (lower : List Char → List Char)
    (filePath text : List Char) : List (List Char × ScanEntry) :=
  ((fileLines text).enumFrom 1).flatMap fun nl => scanLine same lower filePath nl.1 nl.2

/-- A directory is skipped when its path contains one of these. -/
def skippedDirs : List (List Char) := ["target", ".git", "node_modules"].map String.toList

/-- `scan_todos()`, over the directories of the walk (each path with its files' names) and the
text read from each file: the entries, in the order they were found, with their priorities. -/
def scanTodos (same : Char → Char → Bool) (lower : List Char → List Char)
    (walk : List (List Char × List (List Char))) (read : List Char → List Char) :
    List (List Char × ScanEntry) :=
  walk.flatMap fun d =>
    if skippedDirs.any fun skip => decide (skip <:+: d.1) then []
    else d.2.flatMap fun file =>
      if ".rs".toList <:+ file ∨ ".md".toList <:+ file then
        scanFile same lower (d.1 ++ '/' :: file) (read (d.1 ++ '/' :: file))
      else []

/-- **No marker is missed**: a line that holds one of the markers, as written, followed by a
character other than a newline gives an entry with that marker, whatever comes before it.  The
marker may sit inside a word: `BUG` inside `DEBUG`. -/
theorem scanLine_of_marker (same : Char → Char → Bool) (lower : List Char → List Char)
    (hsame : ∀ c, same c c = true) (filePath : List Char) (n : Nat) {m : List Char}
    (hm : m ∈ scanMarkers) (a b : List Char) {c : Char} (hc : c ≠ '\n') :
    ∃ content, (classifyPriority lower content filePath, ⟨filePath, n, m, content⟩) ∈
      scanLine same lower filePath n (a ++ m ++ c :: b) := by
  have hsearch := searchMarker_of_match same m (matchMarker_self hsame (colonsThenRest_isSome hc b) m) a
  obtain ⟨g, hg⟩ := Option.isSome_iff_exists.mp hsearch
  refine ⟨stripChars g, List.mem_filterMap.mpr ⟨m, hm, ?_⟩⟩
  rw [if_pos (List.infix_append a m (c :: b)), List.append_assoc, hg]
  rfl

theorem scanLine_of_marker_debug :
    (∀ c, (fun x y : Char => x.toLower == y.toLower) c c = true) ∧ "BUG".toList ∈ scanMarkers ∧
      ';' ≠ '\n' ∧
      ∃ content, (classifyPriority (List.map Char.toLower) content "./a.rs".toList,
          ⟨"./a.rs".toList, 3, "BUG".toList, content⟩) ∈
        scanLine (fun x y => x.toLower == y.toLower) (List.map Char.toLower) "./a.rs".toList 3
          ("x = DE".toList ++ "BUG".toList ++ ';' :: ['\n']) :=
  ⟨fun _ => beq_self_eq_true _, by decide, by decide,
    scanLine_of_marker (fun x y => x.toLower == y.toLower) (List.map Char.toLower)
      (fun _ => beq_self_eq_true _) "./a.rs".toList 3 (by decide) "x = DE".toList ['\n']
      (by decide)⟩

/-- Every entry has one of the three priorities. -/
theorem scanTodos_priority (same : Char → Char → Bool) (lower : List Char → List Char)
    (walk : List (List Char × List (List Char))) (read : List Char → List Char) :
    ∀ x ∈ scanTodos same lower walk read, x.1 ∈ ["high", "medium", "low"].map String.toList := by
  intro x hx
  obtain ⟨d, -, hd⟩ := List.mem_flatMap.mp hx
  split_ifs at hd
  · simp at hd
  obtain ⟨file, -, hf⟩ := List.mem_flatMap.mp hd
  split_ifs at hf
  · obtain ⟨_, -, hl⟩ := List.mem_flatMap.mp hf
    obtain ⟨marker, -, hm⟩ := List.mem_filterMap.mp hl
    split_ifs at hm
    obtain ⟨g, -, rfl⟩ := Option.map_eq_some'.mp hm
    exact classifyPriority_mem _ _ _
  · simp at hf

/-! ## 3. The report -/

/-- `(line_num, marker, content)`: what `by_file` keeps of an entry. -/
def ScanEntry.item (e : ScanEntry) : Nat × List Char × List Char := (e.lineNum, e.marker, e.content)

/-- Python's comparison of two strings: by code points, a prefix before what extends it. -/
def strCompare : List Char → List Char → Ordering
  | [], [] => .eq
  | [], _ :: _ => .lt
  | _ :: _, [] => .gt
  | c :: s, d :: t =>
    if c.toNat < d.toNat then .lt else if d.toNat < c.toNat then .gt else strCompare s t

/-- `a <= b` on two strings. -/
def strLe (a b : List Char) : Bool :=
  match strCompare a b with
  | .gt => false
  | _ => true

/-- `a <= b` on two `(line_num, marker, content)` tuples: lexicographically. -/
def itemLe (a b : Nat × List Char × List Char) : Bool :=
  if a.1 < b.1 then true
  else if b.1 < a.1 then false
  else match strCompare a.2.1 b.2.1 with
    | .lt => true
    | .gt => false
    | .eq => strLe a.2.2 b.2.2

/-- `todos.get(priority, [])`: the entries of one priority, in the order they were found. -/
def entriesOf (todos : List (List Char × ScanEntry)) (p : List Char) : List ScanEntry :=
  (todos.filter fun x => x.1 = p).map Prod.snd

/-- The line of one item, `f"- **行 {line_num}** [{marker}]: {content_display}\n"`, with the
content cut to 100 characters and `...`. -/
def renderItem (i : Nat × List Char × List Char) : List Char :=
  let contentDisplay := if i.2.2.length > 100 then i.2.2.take 100 ++ "...".toList else i.2.2
  "- **行 ".toList ++ (toString i.1).toList ++ "** [".toList ++ i.2.1 ++ "]: ".toList ++
    contentDisplay ++ ['\n']

/-- `f"\n## {priority.upper()}优先级标记 ({len(todos[priority])} 个)\n"`. -/
def sectionTitle (p : List Char) (n : Nat) : List Char :=
  "\n## ".toList ++ p.map Char.toUpper ++ "优先级标记 (".toList ++ (toString n).toList ++
    " 个)\n".toList

/-- `f"\n### {file_path}\n"`. -/
def fileTitle (f : List Char) : List Char := "\n### ".toList ++ f ++ ['\n']

/-- The part of the report for one priority: its title, then `sorted(by_file.keys())` and, under
each file, `sorted(by_file[file_path])`.  Nothing when the priority has no entry. -/
def prioritySection (todos : List (List Char × ScanEntry)) (p : List Char) : List (List Char) :=
  let items := entriesOf todos p
  if items = [] then []
  else
    sectionTitle p items.length ::
      ((items.map ScanEntry.filePath).dedup.mergeSort strLe).flatMap fun f =>
        fileTitle f ::
          (((items.filter fun e => e.filePath = f).map ScanEntry.item).mergeSort itemLe).map
            renderItem

/-- The priorities of the report, in its order. -/
def reportPriorities : List (List Char) := ["high", "medium", "low"].map String.toList

/-- The first pieces of `report`: the title, the date (what the shell command `date` printed)
and the summary.  The total, `sum(len(items) for items in todos.values())`, counts every
entry. -/
def reportSummary (date : List Char) (todos : List (List Char × ScanEntry)) : List (List Char) :=
  ["# TODO/FIXME标记分类报告\n".toList,
   "生成时间: ".toList ++ stripChars date ++ ['\n'],
   "\n## 统计摘要\n".toList,
   "- **总计**: ".toList ++ (toString todos.length).toList ++ " 个标记\n".toList,
   "- **高优先级**: ".toList ++ (toString (entriesOf todos "high".toList).length).toList ++
     " 个\n".toList,
   "- **中优先级**: ".toList ++ (toString (entriesOf todos "medium".toList).length).toList ++
     " 个\n".toList,
   "- **低优先级**: ".toList ++ (toString (entriesOf todos "low".toList).length).toList ++
     " 个\n".toList]

/-- The list `report` that `generate_report(todos)` joins. -/
def reportPieces (date : List Char) (todos : List (List Char × ScanEntry)) : List (List Char) :=
  reportSummary date todos ++ reportPriorities.flatMap (prioritySection todos)

/-- `generate_report(todos)`. -/
def generateReport (date : List Char) (todos : List (List Char × ScanEntry)) : List Char :=
  (reportPieces date todos).flatten

/-- The pieces of the report that list one item. -/
def isItemLine (piece : List Char) : Bool := "- **行 ".toList.isPrefixOf piece

theorem isItemLine_renderItem (i : Nat × List Char × List Char) : isItemLine (renderItem i) := by
  rw [isItemLine, List.isPrefixOf_iff_prefix, renderItem]
  simp only [List.append_assoc]
  exact List.prefix_append _ _

@[simp] theorem isItemLine_sectionTitle (p : List Char) (n : Nat) :
    isItemLine (sectionTitle p n) = false := rfl

@[simp] theorem isItemLine_fileTitle (f : List Char) : isItemLine (fileTitle f) = false := rfl

/-- The summary lists no item. -/
theorem reportSummary_items (date : List Char) (todos : List (List Char × ScanEntry)) :
    (reportSummary date todos).filter isItemLine = [] := rfl

/-- **Grouping by a key loses and repeats nothing**: over keys without repeats that cover every
element, the elements of each key in turn are the elements, up to order. -/
theorem flatMap_filter_key_perm {α β : Type} [DecidableEq β] (key : α → β) :
    ∀ (keys : List β) (l : List α), keys.Nodup → (∀ x ∈ l, key x ∈ keys) →
      (keys.flatMap fun k => l.filter fun x => key x = k).Perm l
  | [], l, _, h => by
    rw [List.eq_nil_iff_forall_not_mem.mpr fun x hx => List.not_mem_nil _ (h x hx)]
    rfl
  | k :: ks, l, hnd, h => by
    rw [List.nodup_cons] at hnd
    have hrest : (ks.flatMap fun k' => l.filter fun x => key x = k') =
        ks.flatMap fun k' => (l.filter fun x => !decide (key x = k)).filter fun x => key x = k' := by
      refine List.flatMap_congr fun k' hk' => ?_
      rw [List.filter_filter]
      refine List.filter_congr fun x _ => ?_
      by_cases hx : key x = k' <;> simp [hx, ne_of_mem_of_not_mem hk' hnd.1]
    rw [List.flatMap_cons, hrest]
    refine ((flatMap_filter_key_perm key ks _ hnd.2 fun x hx => ?_).append_left _).trans
      (List.filter_append_perm _ l)
    obtain ⟨hxl, hxk⟩ := List.mem_filter.mp hx
    exact (List.mem_cons.mp (h x hxl)).resolve_left (by simpa using hxk)

/-- A priority's section lists each of its entries once. -/
theorem prioritySection_items (todos : List (List Char × ScanEntry)) (p : List Char) :
    ((prioritySection todos p).filter isItemLine).Perm
      ((entriesOf todos p).map fun e => renderItem e.item) := by
  dsimp only [prioritySection]
  generalize entriesOf todos p = items
  split_ifs with h
  · simp [h]
  simp only [List.filter_cons, isItemLine_sectionTitle, isItemLine_fileTitle, List.filter_flatMap,
    Bool.false_eq_true, if_false]
  simp only [List.filter_map, Function.comp_def, isItemLine_renderItem, List.filter_true]
  -- sorting the items of a file, then sorting the files, then grouping by file
  refine (List.Perm.flatMap_left _ fun f _ => ((List.mergeSort_perm _ itemLe).map renderItem).trans
    (.of_eq (List.map_map _ _ _))).trans ?_
  refine ((List.mergeSort_perm _ _).flatMap_right _).trans ?_
  rw [← List.map_flatMap]
  exact (flatMap_filter_key_perm ScanEntry.filePath _ items (List.nodup_dedup _)
    fun x hx => List.mem_dedup.mpr (List.mem_map_of_mem _ hx)).map _

/-- Over entries whose priorities are the report's, the report lists each entry once. -/
theorem reportPieces_items (date : List Char) (todos : List (List Char × ScanEntry))
    (h : ∀ x ∈ todos, x.1 ∈ reportPriorities) :
    ((reportPieces date todos).filter isItemLine).Perm (todos.map fun x => renderItem x.2.item) := by
  rw [reportPieces, List.filter_append, reportSummary_items, List.nil_append, List.filter_flatMap]
  refine (List.Perm.flatMap_left _ fun p _ => prioritySection_items todos p).trans ?_
  simp only [entriesOf, List.map_map, ← List.map_flatMap]
  exact (flatMap_filter_key_perm Prod.fst reportPriorities todos (by decide) h).map _

/-- **The report lists every entry the scan finds exactly once**: for every tree, every text
read from its files and whatever `same` and `lower` are, the item lines of
`generate_report(scan_todos())` are the entries' lines, each once, up to order. -/
theorem reportPieces_scanTodos_items (same : Char → Char → Bool) (lower : List Char → List Char)
    (walk : List (List Char × List (List Char))) (read : List Char → List Char) (date : List Char) :
    ((reportPieces date (scanTodos same lower walk read)).filter isItemLine).Perm
      ((scanTodos same lower walk read).map fun x => renderItem x.2.item) :=
  reportPieces_items date _ (scanTodos_priority same lower walk read)

end VmTools.Todo
