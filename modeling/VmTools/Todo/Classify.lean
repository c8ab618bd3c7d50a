import Mathlib.Data.List.Infix

/-
# `classify_todos.py`: the priority of a TODO

`classify_priority` gives a TODO's text and its file a priority by keywords: a high keyword in
the text or in the path makes it `high`; otherwise a low keyword in the text makes it `low`, and
a medium keyword `medium`; otherwise the path decides.  Every test is `keyword in text`, a
substring test on the lowered strings.

Substrings reach further than words.  `io` is a high keyword, and it occurs inside the medium
keyword `documentation` and inside the low keyword `optional`, so neither of those two can ever
give its own priority (`classifyPriority_shadowed`): a TODO about documentation, or an optional
one, is `high`.

`str.lower` is Python's, on all of Unicode; the model takes it as a parameter `lower`, and the
results hold whatever it is.  `scan_todos`, which walks the directory tree and extracts the
TODOs with a case-insensitive pattern, and the report are in `Scan`.
-/

namespace VmTools.Todo

/-- `HIGH_PRIORITY_KEYWORDS`. -/
def highPriorityKeywords : List (List Char) :=
  ["core", "critical", "bug", "crash", "security", "memory leak",
   "race condition", "deadlock", "panic", "error", "fail", "broken",
   "fix", "implement", "missing", "incomplete", "not implemented",
   "jit", "aot", "gc", "mmu", "execution", "compilation", "runtime",
   "kvm", "hvf", "whpx", "accel", "device", "io", "interrupt"].map String.toList

/-- `MEDIUM_PRIORITY_KEYWORDS`. -/
def mediumPriorityKeywords : List (List Char) :=
  ["optimize", "performance", "improve", "enhance", "refactor",
   "cleanup", "documentation", "test", "coverage", "monitoring",
   "metrics", "logging", "config", "settings"].map String.toList

/-- `LOW_PRIORITY_KEYWORDS`. -/
def lowPriorityKeywords : List (List Char) :=
  ["nice to have", "future", "later", "optional", "enhancement",
   "polish", "ui", "ux", "cosmetic", "minor", "wait", "depends"].map String.toList

/-- `classify_priority(content, file_path)`, with `lower` for `str.lower`.  Each `for` loop that
returns at its first hit is an `any`. -/
def classifyPriority (lower : List Char → List Char) (content filePath : List Char) : List Char :=
  let contentLower := lower content
  let fileLower := lower filePath
  if highPriorityKeywords.any fun k => decide (k <:+: contentLower) || decide (k <:+: fileLower) then
    "high".toList
  else if lowPriorityKeywords.any fun k => decide (k <:+: contentLower) then "low".toList
  else if mediumPriorityKeywords.any fun k => decide (k <:+: contentLower) then "medium".toList
  else if (["test", "example", "bench", "doc"].map String.toList).any
      fun x => decide (x <:+: fileLower) then "low".toList
  else if (["core", "engine", "jit", "gc", "mmu", "accel"].map String.toList).any
      fun x => decide (x <:+: fileLower) then "high".toList
  else "medium".toList

/-- Every TODO gets one of the three priorities. -/
theorem classifyPriority_mem (lower : List Char → List Char) (content filePath : List Char) :
    classifyPriority lower content filePath ∈ ["high", "medium", "low"].map String.toList := by
  simp only [classifyPriority]
  split_ifs <;> decide

/-- A high keyword in the lowered text makes the TODO `high`, whatever follows. -/
theorem classifyPriority_of_high {lower : List Char → List Char} {content : List Char}
    (filePath : List Char) {k : List Char} (hk : k ∈ highPriorityKeywords)
    (h : k <:+: lower content) : classifyPriority lower content filePath = "high".toList :=
  if_pos (List.any_eq_true.mpr ⟨k, hk, by simp [h]⟩)

/-- **`documentation` and `optional` never decide**: a TODO whose lowered text contains the
medium keyword `documentation` or the low keyword `optional` is `high`, since both contain the
high keyword `io`. -/
theorem classifyPriority_shadowed (lower : List Char → List Char) (content filePath : List Char)
    (h : "documentation".toList <:+: lower content ∨ "optional".toList <:+: lower content) :
    classifyPriority lower content filePath = "high".toList := by
  have hio : "io".toList <:+: lower content := by
    rcases h with h | h
    · exact (show "io".toList <:+: "documentation".toList by decide).trans h
    · exact (show "io".toList <:+: "optional".toList by decide).trans h
  exact classifyPriority_of_high filePath (by decide) hio

theorem classifyPriority_shadowed_docs :
    ("documentation".toList <:+: List.map Char.toLower "Update Documentation".toList ∨
        "optional".toList <:+: List.map Char.toLower "Update Documentation".toList) ∧
      classifyPriority (List.map Char.toLower) "Update Documentation".toList "README.md".toList =
        "high".toList :=
  ⟨by decide, classifyPriority_shadowed _ _ _ (by decide)⟩

end VmTools.Todo
