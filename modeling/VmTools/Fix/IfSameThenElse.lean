import VmTools.Python

/-
# `fix_if_same_then_else.py`: two passes over the lines of a file

`fix_file` merges a Rust `if` / `else if` / `else` whose first two branches both give `None`.
It reads the file's lines and looks for a block of nine lines,

    let final_base = if mod_ == 0 && rm == 5 && !has_sib {
        None
    }
    else if mod_ == 0 && has_sib ... {
        None
    }
    else {
        base
    };

twice.  Each pass takes the first line that holds its trigger, runs the loop
`while j + 12 < len(lines)` from there to the first `j` where the nine checks pass
(`findBlock`), and puts the merged block, six strings, in the place of
`modified_lines[j + offset : j + offset + 9]` (`spliceAt`); the offset then goes down by 3.

The first pass scans the lines as read, from offset 0, so it cuts at the block's own position
(`fixPass_zero`).  The second pass scans the list the first one left, whose indices already
count the first replacement, and still adds the offset the first one left.  So the script is
right on a file with at most one block head (`fixFile_of_one_head`), and wrong on a file with
two blocks: a pass from offset `-3` cuts three lines early (`fixPass_of_block_shifted`).  It
removes the three lines above the second block and the first six lines of it, and leaves that
block's `else {`, `base`, `};` after the merged block (`fixFile_two_blocks`).

The model takes the list `readlines` returns and gives the list `writelines` writes.  The
merged block's first five strings have no newline, so in the file they run into one line; the
list keeps them apart, as the script does.  The prints are left out.
-/

namespace VmTools.Fix

open VmTools

/-! ## 1. The block, the loop and the two passes -/

/-- `'let final_base = if mod_ == 0 && rm == 5 && !has_sib'`: what the second pass looks for,
and what both passes ask of a block's first line. -/
def blockHead : List Char := "let final_base = if mod_ == 0 && rm == 5 && !has_sib".toList

/-- `'let final_base = if mod_ == 0 && rm == 5 && !has_sib {'`: the line the first pass starts
from. -/
def firstTrigger : List Char := "let final_base = if mod_ == 0 && rm == 5 && !has_sib \x7b".toList

/-- The nine checks the loop makes at `j`, on the lines `lines[j:]`. -/
def isBlock (rest : List (List Char)) : Bool :=
  decide (blockHead <:+: rest.getD 0 []) &&
    stripChars (rest.getD 1 []) == "None".toList &&
    stripChars (rest.getD 2 []) == "\x7d".toList &&
    decide ("else if mod_ == 0 && has_sib".toList <:+: rest.getD 3 []) &&
    stripChars (rest.getD 4 []) == "None".toList &&
    stripChars (rest.getD 5 []) == "\x7d".toList &&
    decide ("else \x7b".toList <:+: rest.getD 6 []) &&
    stripChars (rest.getD 7 []) == "base".toList &&
    stripChars (rest.getD 8 []) == "\x7d;".toList

/-- The merged block: five strings without a newline, then `'\n'`. -/
def replacement : List (List Char) :=
  [("                    let final_base = if mod_ == 0 && (rm == 5 && !has_sib || " ++
      "has_sib && (base.expect(\"Operation failed\") & 7) == 5) \x7b").toList,
    "                        None".toList,
    "                    \x7d else \x7b".toList,
    "                        base".toList,
    "                    \x7d;".toList,
    "\n".toList]

/-- The loop `while j + 12 < len(lines)`, at `j` with `rest = lines[j:]`: the first index from
`j` on where the nine checks pass.  It gives up when fewer than thirteen lines are left, so a
block among the last twelve lines is never found. -/
def findBlock : List (List Char) → Nat → Option Nat
  | [], _ => none
  | rest@(_ :: tl), j =>
    if 12 < rest.length then if isBlock rest then some j else findBlock tl (j + 1) else none

/-- `modified_lines[:start] + replacement + modified_lines[end:]` with `end = start + 9`. -/
def spliceAt (lines : List (List Char)) (start : Int) : List (List Char) :=
  lines.take (sliceIndex start lines.length) ++ replacement ++
    lines.drop (sliceIndex (start + 9) lines.length)

/-- One pass: the first line holding `trigger` (the `for` loop and its `break`), the `while`
loop from there, and the cut at `j + offset`.  Each pass scans a list and writes into a copy of
it, so the list it scans and the list it cuts are one. -/
def fixPass (trigger : List Char) (lines : List (List Char)) (offset : Int) :
    List (List Char) × Int :=
  match lines.findIdx? fun l => decide (trigger <:+: l) with
  | none => (lines, offset)
  | some i =>
    match findBlock (lines.drop i) i with
    | none => (lines, offset)
    | some j => (spliceAt lines (j + offset), offset + ((replacement.length : Int) - 9))

/-- `fix_file()` on the lines of the file: the first pass from `offset = 0`, then the second on
the list the first one left, from the offset it left. -/
def fixFile (lines : List (List Char)) : List (List Char) :=
  let (first, offset) := fixPass firstTrigger lines 0
  (fixPass blockHead first offset).1

/-- Nine lines the loop recognises as a block. -/
structure Block where
  lines : List (List Char)
  length_lines : lines.length = 9
  isBlock_lines : isBlock lines = true

/-! ## 2. The loop and the cut -/

theorem length_replacement : replacement.length = 6 := rfl

theorem blockHead_infix_firstTrigger : blockHead <:+: firstTrigger :=
  ⟨[], " \x7b".toList, rfl⟩

set_option maxRecDepth 8000 in
/-- No line of the merged block holds the block head. -/
theorem replacement_no_head : ∀ l ∈ replacement, ¬ blockHead <:+: l := by decide

/-- The checks read only a block's nine lines. -/
theorem isBlock_append {b : List (List Char)} (hb : b.length = 9) (rest : List (List Char)) :
    isBlock (b ++ rest) = isBlock b := by
  simp (disch := omega) only [isBlock, List.getD_eq_getElem?_getD, List.getElem?_append_left]

/-- A block's first line holds the block head. -/
theorem head_of_isBlock {rest : List (List Char)} (h : isBlock rest = true) :
    blockHead <:+: rest.getD 0 [] := by
  simp only [isBlock, Bool.and_eq_true, decide_eq_true_eq] at h
  exact h.1.1.1.1.1.1.1.1

/-- Where the checks pass with thirteen lines left, the loop stops at once. -/
theorem findBlock_of_isBlock {rest : List (List Char)} (j : Nat) (h : 12 < rest.length)
    (hb : isBlock rest = true) : findBlock rest j = some j := by
  cases rest with
  | nil => simp at h
  | cons l ls => rw [findBlock, if_pos h, if_pos hb]

/-- Where the loop stops, `d` lines on: thirteen lines are left there and the checks pass. -/
theorem findBlock_sound : ∀ {rest : List (List Char)} {j k : Nat}, findBlock rest j = some k →
    ∃ d, k = j + d ∧ 12 < (rest.drop d).length ∧ isBlock (rest.drop d) = true
  | [], _, _, h => by cases h
  | l :: ls, j, k, h => by
    rw [findBlock] at h
    split_ifs at h with h12 hb
    · cases h; exact ⟨0, rfl, h12, hb⟩
    · obtain ⟨d, rfl, hd, hbd⟩ := findBlock_sound h
      exact ⟨d + 1, by omega, hd, hbd⟩

/-- A cut at `j ≥ 0` inside the list replaces the nine lines from `j`. -/
theorem spliceAt_of_le {lines : List (List Char)} {j : Nat} (h : j + 9 ≤ lines.length) :
    spliceAt lines j = lines.take j ++ replacement ++ lines.drop (j + 9) := by
  rw [spliceAt, sliceIndex_of_le (by omega), show (j : Int) + 9 = ((j + 9 : Nat) : Int) by omega,
    sliceIndex_of_le h]

/-! ## 3. One pass -/

section Pass

variable {trigger : List Char}

/-- With no line holding the trigger, a pass changes nothing. -/
theorem fixPass_of_no_trigger {lines : List (List Char)} (h : ∀ l ∈ lines, ¬ trigger <:+: l)
    (offset : Int) : fixPass trigger lines offset = (lines, offset) := by
  rw [fixPass, List.findIdx?_eq_none_iff.mpr fun l hl => by simpa using h l hl]

/-- The trigger search passes over lines that do not hold the trigger. -/
theorem findIdx?_trigger {pre rest : List (List Char)} (hpre : ∀ l ∈ pre, ¬ trigger <:+: l)
    {l : List Char} (hl : trigger <:+: l) :
    (pre ++ l :: rest).findIdx? (fun l => decide (trigger <:+: l)) = some pre.length := by
  rw [List.findIdx?_append, List.findIdx?_eq_none_iff.mpr fun l hl => by simpa using hpre l hl,
    List.findIdx?_cons, if_pos (by simpa using hl)]
  simp

/-- **A pass at a block**: when the first line holding the trigger starts a block with four
more lines after it, the pass cuts at that line plus the offset, and lowers the offset by 3. -/
theorem fixPass_of_block {pre rest : List (List Char)} (b : Block) (offset : Int)
    (hpre : ∀ l ∈ pre, ¬ trigger <:+: l) (hhead : trigger <:+: b.lines.getD 0 [])
    (hrest : 4 ≤ rest.length) :
    fixPass trigger (pre ++ b.lines ++ rest) offset =
      (spliceAt (pre ++ b.lines ++ rest) (pre.length + offset), offset - 3) := by
  obtain ⟨l, ls, hb⟩ := List.exists_cons_of_length_pos
    (show 0 < b.lines.length by rw [b.length_lines]; omega)
  have hfind : (pre ++ b.lines ++ rest).findIdx? (fun l => decide (trigger <:+: l)) =
      some pre.length := by
    rw [List.append_assoc, hb, List.cons_append]
    exact findIdx?_trigger hpre (by simpa [hb] using hhead)
  have hblock : findBlock ((pre ++ b.lines ++ rest).drop pre.length) pre.length =
      some pre.length := by
    rw [List.append_assoc, List.drop_left]
    refine findBlock_of_isBlock _ (by simp [b.length_lines]; omega) ?_
    rw [isBlock_append b.length_lines]
    exact b.isBlock_lines
  rw [fixPass, hfind]
  simp only [hblock, length_replacement]
  congr 1

/-- A pass from offset 0 at a block replaces the block in place. -/
theorem fixPass_of_block_zero {pre rest : List (List Char)} (b : Block)
    (hpre : ∀ l ∈ pre, ¬ trigger <:+: l) (hhead : trigger <:+: b.lines.getD 0 [])
    (hrest : 4 ≤ rest.length) :
    fixPass trigger (pre ++ b.lines ++ rest) 0 = (pre ++ replacement ++ rest, -3) := by
  rw [fixPass_of_block b 0 hpre hhead hrest, Int.add_zero,
    spliceAt_of_le (by simp [b.length_lines]), List.append_assoc pre b.lines, List.take_left' rfl,
    List.drop_append, List.drop_left' b.length_lines]
  rfl

/-- **A pass from offset `-3` at a block cuts three lines early**: it removes the last three lines
before the block and the block's first six, and keeps the block's last three after the merged
block. -/
theorem fixPass_of_block_shifted {pre rest : List (List Char)} (b : Block)
    (hpre : ∀ l ∈ pre, ¬ trigger <:+: l) (hhead : trigger <:+: b.lines.getD 0 [])
    (hrest : 4 ≤ rest.length) (h3 : 3 ≤ pre.length) :
    fixPass trigger (pre ++ b.lines ++ rest) (-3) =
      (pre.take (pre.length - 3) ++ replacement ++ b.lines.drop 6 ++ rest, -6) := by
  rw [fixPass_of_block b (-3) hpre hhead hrest,
    show (pre.length : Int) + -3 = ((pre.length - 3 : Nat) : Int) by omega,
    spliceAt_of_le (by simp [b.length_lines]; omega),
    List.take_append_of_le_length (by simp; omega), List.take_append_of_le_length (by omega),
    List.drop_append_of_le_length (by simp [b.length_lines]),
    show pre.length - 3 + 9 = pre.length + 6 by omega, List.drop_append]
  simp only [List.append_assoc]
  rfl

/-- **A pass from offset 0 cuts in the right place**: it leaves the lines as they are, or
replaces the nine lines of a block it recognises at the block's own index, and leaves the
offset at `-3`. -/
theorem fixPass_zero (trigger : List Char) (lines : List (List Char)) :
    fixPass trigger lines 0 = (lines, 0) ∨
      ∃ j, j + 13 ≤ lines.length ∧ isBlock (lines.drop j) = true ∧
        fixPass trigger lines 0 = (lines.take j ++ replacement ++ lines.drop (j + 9), -3) := by
  rw [fixPass]
  cases lines.findIdx? fun l => decide (trigger <:+: l) with
  | none => exact .inl rfl
  | some i =>
    dsimp only
    cases hj : findBlock (lines.drop i) i with
    | none => exact .inl rfl
    | some j =>
      obtain ⟨d, rfl, h12, hb⟩ := findBlock_sound hj
      rw [List.drop_drop] at h12 hb
      have hlen : i + d + 13 ≤ lines.length := by rw [List.length_drop] at h12; omega
      refine .inr ⟨i + d, hlen, hb, ?_⟩
      dsimp only
      rw [Int.add_zero, spliceAt_of_le (by omega)]
      rfl

end Pass

/-! ## 4. The file -/

theorem fixFile_eq {lines first : List (List Char)} {offset : Int}
    (h : fixPass firstTrigger lines 0 = (first, offset)) :
    fixFile lines = (fixPass blockHead first offset).1 := by
  rw [fixFile, h]

/-- Cutting out the block at the file's only head line leaves no head line. -/
theorem no_head_after_cut {lines : List (List Char)} {j : Nat}
    (hone : lines.countP (fun l => decide (blockHead <:+: l)) ≤ 1) (hj : j + 13 ≤ lines.length)
    (hb : isBlock (lines.drop j) = true) :
    ∀ l ∈ lines.take j ++ replacement ++ lines.drop (j + 9), ¬ blockHead <:+: l := by
  obtain ⟨x, xs, hx⟩ := List.exists_cons_of_length_pos
    (show 0 < (lines.drop j).length by simp; omega)
  set p := fun l : List Char => decide (blockHead <:+: l)
  have hsum : lines.countP p =
      (lines.take j).countP p + ((lines.drop j).take 9).countP p + (lines.drop (j + 9)).countP p := by
    conv_lhs => rw [← List.take_append_drop j lines, ← List.take_append_drop 9 (lines.drop j)]
    rw [List.countP_append, List.countP_append, List.drop_drop, Nat.add_assoc]
  have hpos : 0 < ((lines.drop j).take 9).countP p :=
    List.countP_pos_iff.mpr ⟨x, by simp [hx], by simpa [p, hx] using head_of_isBlock hb⟩
  have htake := List.countP_eq_zero.mp (show (lines.take j).countP p = 0 by omega)
  have hdrop := List.countP_eq_zero.mp (show (lines.drop (j + 9)).countP p = 0 by omega)
  intro l hl
  simp only [List.mem_append] at hl
  rcases hl with (hl | hl) | hl
  · simpa [p] using htake l hl
  · exact replacement_no_head l hl
  · simpa [p] using hdrop l hl

/-- A block the loop recognises. -/
def sampleBlock : Block where
  lines :=
    ["    let final_base = if mod_ == 0 && rm == 5 && !has_sib \x7b\n".toList,
      "        None\n".toList, "    \x7d\n".toList,
      "    else if mod_ == 0 && has_sib && (base & 7) == 5 \x7b\n".toList,
      "        None\n".toList, "    \x7d\n".toList, "    else \x7b\n".toList,
      "        base\n".toList, "    \x7d;\n".toList]
  length_lines := rfl
  isBlock_lines := by decide

/-- **With at most one block head in the file, `fix_file` is right**: it gives the lines back as
they were, or replaces the nine lines of a block it recognises at the block's own index and
keeps every other line. -/
theorem fixFile_of_one_head (lines : List (List Char))
    (hone : lines.countP (fun l => decide (blockHead <:+: l)) ≤ 1) :
    fixFile lines = lines ∨
      ∃ j, j + 13 ≤ lines.length ∧ isBlock (lines.drop j) = true ∧
        fixFile lines = lines.take j ++ replacement ++ lines.drop (j + 9) := by
  rcases fixPass_zero firstTrigger lines with h₁ | ⟨j, hj, hb, h₁⟩
  · -- the first pass changes nothing, and the second runs from offset 0
    rw [fixFile_eq h₁]
    rcases fixPass_zero blockHead lines with h₂ | ⟨j, hj, hb, h₂⟩
    · exact .inl (by rw [h₂])
    · exact .inr ⟨j, hj, hb, by rw [h₂]⟩
  · -- the first pass cut out the only head line, so the second finds none
    refine .inr ⟨j, hj, hb, ?_⟩
    rw [fixFile_eq h₁, fixPass_of_no_trigger (no_head_after_cut hone hj hb)]

set_option maxRecDepth 8000 in
/-- One block and four empty lines: the file changes, so it is the block merged in place. -/
theorem fixFile_one_sample_block :
    (sampleBlock.lines ++ List.replicate 4 ['\n']).countP (fun l => decide (blockHead <:+: l)) ≤ 1 ∧
      fixFile (sampleBlock.lines ++ List.replicate 4 ['\n']) ≠
        sampleBlock.lines ++ List.replicate 4 ['\n'] ∧
      ∃ j, j + 13 ≤ (sampleBlock.lines ++ List.replicate 4 ['\n']).length ∧
        isBlock ((sampleBlock.lines ++ List.replicate 4 ['\n']).drop j) = true ∧
        fixFile (sampleBlock.lines ++ List.replicate 4 ['\n']) =
          (sampleBlock.lines ++ List.replicate 4 ['\n']).take j ++ replacement ++
            (sampleBlock.lines ++ List.replicate 4 ['\n']).drop (j + 9) :=
  have hne : fixFile (sampleBlock.lines ++ List.replicate 4 ['\n']) ≠
      sampleBlock.lines ++ List.replicate 4 ['\n'] := by decide
  ⟨by decide, hne, (fixFile_of_one_head _ (by decide)).resolve_left hne⟩

/-- The line `n` of `a ++ (b ++ c)`, for `n` inside `b`. -/
theorem getElem?_append_middle {a b c : List (List Char)} {n : Nat} (i : Nat) (hn : n = a.length + i)
    (hi : i < b.length) : (a ++ (b ++ c))[n]? = b[i]? := by
  subst hn
  rw [List.getElem?_append_right (by omega), Nat.add_sub_cancel_left,
    List.getElem?_append_left hi]

set_option maxRecDepth 8000 in
/-- The merged block's fourth line is not its first. -/
theorem replacement_three_ne_zero : replacement[3]? ≠ replacement[0]? := by decide

/-- **Two blocks: the second cut falls three lines early.**  Take lines `pre`, a block whose first
line holds the first pass's trigger, lines `mid`, a second block, and four lines or more, with
no block head in `pre` or `mid`.  The first pass replaces the first block in place and leaves
the offset at `-3`.  The second pass finds the second block in the list the first pass left, at
`pre.length + 6 + mid.length`, and still adds `-3`: it removes the last three lines before the
block and the block's first six lines, and keeps the block's last three lines after the merged
block.  So the result is never the file with both blocks replaced in place. -/
theorem fixFile_two_blocks (pre mid post : List (List Char)) (A B : Block)
    (hpre : ∀ l ∈ pre, ¬ blockHead <:+: l) (hmid : ∀ l ∈ mid, ¬ blockHead <:+: l)
    (hA : firstTrigger <:+: A.lines.getD 0 []) (hpost : 4 ≤ post.length) :
    fixFile (pre ++ A.lines ++ mid ++ B.lines ++ post) =
        (pre ++ replacement ++ mid).take (pre.length + mid.length + 3) ++ replacement ++
          B.lines.drop 6 ++ post ∧
      fixFile (pre ++ A.lines ++ mid ++ B.lines ++ post) ≠
        pre ++ replacement ++ mid ++ replacement ++ post := by
  -- the first pass: the first block, replaced in place
  have h₁ : fixPass firstTrigger (pre ++ A.lines ++ mid ++ B.lines ++ post) 0 =
      (pre ++ replacement ++ mid ++ B.lines ++ post, -3) := by
    rw [show pre ++ A.lines ++ mid ++ B.lines ++ post = pre ++ A.lines ++ (mid ++ B.lines ++ post)
      by simp only [List.append_assoc],
      fixPass_of_block_zero A (fun l hl h => hpre l hl (blockHead_infix_firstTrigger.trans h)) hA
        (by simp [B.length_lines]; omega)]
    simp only [List.append_assoc]
  -- the second pass: the second block, found at `pre.length + 6 + mid.length`, cut 3 lines early
  have hX : (pre ++ replacement ++ mid).length = pre.length + mid.length + 6 := by
    simp [length_replacement]; omega
  have h₂ := fixPass_of_block_shifted B
    (List.forall_mem_append.mpr ⟨List.forall_mem_append.mpr ⟨hpre, replacement_no_head⟩, hmid⟩)
    (head_of_isBlock B.isBlock_lines) hpost (by omega)
  rw [hX, show pre.length + mid.length + 6 - 3 = pre.length + mid.length + 3 by omega] at h₂
  have hout : fixFile (pre ++ A.lines ++ mid ++ B.lines ++ post) =
      (pre ++ replacement ++ mid).take (pre.length + mid.length + 3) ++ replacement ++
        B.lines.drop 6 ++ post := by
    rw [fixFile_eq h₁, h₂]
  -- line `pre.length + mid.length + 6` is the merged block's fourth line, where the file with
  -- both blocks replaced in place has its first
  have hleft : ((pre ++ replacement ++ mid).take (pre.length + mid.length + 3) ++ replacement ++
      B.lines.drop 6 ++ post)[pre.length + mid.length + 6]? = replacement[3]? := by
    simp only [List.append_assoc]
    exact getElem?_append_middle 3 (by simp [length_replacement]; omega) (by decide)
  have hright : (pre ++ replacement ++ mid ++ replacement ++ post)[pre.length + mid.length + 6]? =
      replacement[0]? := by
    rw [List.append_assoc (pre ++ replacement ++ mid)]
    exact getElem?_append_middle 0 (by rw [hX]) (by decide)
  refine ⟨hout, fun heq => replacement_three_ne_zero ?_⟩
  rw [← hleft, ← hright, ← hout, heq]

set_option maxRecDepth 8000 in
/-- The file of two such blocks and four empty lines. -/
theorem fixFile_two_sample_blocks :
    (∀ l ∈ ([] : List (List Char)), ¬ blockHead <:+: l) ∧
      (∀ l ∈ ([] : List (List Char)), ¬ blockHead <:+: l) ∧
      firstTrigger <:+: sampleBlock.lines.getD 0 [] ∧ 4 ≤ (List.replicate 4 ['\n']).length ∧
      (fixFile ([] ++ sampleBlock.lines ++ [] ++ sampleBlock.lines ++ List.replicate 4 ['\n']) =
          (([] : List (List Char)) ++ replacement ++ []).take (0 + 0 + 3) ++ replacement ++
            sampleBlock.lines.drop 6 ++ List.replicate 4 ['\n'] ∧
        fixFile ([] ++ sampleBlock.lines ++ [] ++ sampleBlock.lines ++ List.replicate 4 ['\n']) ≠
          [] ++ replacement ++ [] ++ replacement ++ List.replicate 4 ['\n']) :=
  ⟨by decide, by decide, by decide, by decide,
    fixFile_two_blocks [] [] (List.replicate 4 ['\n']) sampleBlock sampleBlock (by decide)
      (by decide) (by decide) (by decide)⟩

end VmTools.Fix
