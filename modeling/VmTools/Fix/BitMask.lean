import VmTools.Todo.Cleanup

/-
# `fix_bad_bit_mask.py` and `fix_all_bad_bit_masks.py`: rewriting mask tests

Both scripts edit `vm-frontend-arm64/src/lib.rs`, the ARM64 decoder, with `re.sub`, to repair
the tests `(insn & M) == V` that the `bad_bit_mask` lint reports.  Such a test holds for some
instruction word exactly when `V` has no bit outside `M` (`Cond.test_holds_iff`); when it has
one, the test never holds and the branch it guards is dead.

Each script is the list of its `(pattern, replacement)` pairs, applied in order to the file's
text.  The text a pair removes and the text it writes are read as conditions on the instruction
word (`Cond`): a condition built so that `Cond.dead` holds is false for every word
(`Cond.holds_of_dead`), and a rewrite between two such texts (`DeadRewrite`) changes no decision
of the decoder.  No replacement has a backslash, so `re.sub` parses each one as plain text and
neither script can raise, whatever the file holds (`applyRewrites_ok`, `bitMaskScripts_ok`).

The examples after `deadRewrite_of_dead` check the scripts' own rewrites against it.  The three
of `fix_bad_bit_mask.py`, and the NEG/NEGS, CMP and CMN rewrites of `fix_all_bad_bit_masks.py`,
replace a condition that holds for no word by another that holds for no word: the new masks take
in bit 24 or bit 31 but still leave out bit 30 (or bit 29) of the values.  The LDR/STR rewrite
drops two tests that never hold, which keeps the condition's meaning, but also the `)` its
pattern matched after them; the SDIV/UDIV rewrite is the one that repairs a test.  Reading and
writing the file are left out.
-/

namespace VmTools.Fix

open VmTools VmTools.Re

/-! ## 1. Conditions on the instruction word -/

/-- A condition of the decoder on the instruction word `insn`, as the rewritten text writes
it: mask tests `(insn & M) == V` joined by `||` and `&&`. -/
inductive Cond where
  | test (mask value : Nat)
  | or (a b : Cond)
  | and (a b : Cond)
  deriving DecidableEq, Repr

/-- A hexadecimal literal as the decoder's source writes it: `0x` and upper-case digits. -/
def hexLit (n : Nat) : List Char := ['0', 'x'] ++ (Nat.toDigits 16 n).map Char.toUpper

/-- A pattern of literal characters: a regular expression whose special characters are all
escaped, read without its backslashes. -/
def lits (s : List Char) : List Item := s.map fun c => .one (.char c)

namespace Cond

/-- Whether the condition holds for the instruction word `insn`. -/
def holds : Cond → Nat → Bool
  | test m v, insn => insn &&& m == v
  | or a b, insn => a.holds insn || b.holds insn
  | and a b, insn => a.holds insn && b.holds insn

/-- The condition's text, with single blanks around the operators. -/
def render : Cond → List Char
  | test m v => "(insn & ".toList ++ hexLit m ++ ") == ".toList ++ hexLit v
  | or a b => a.render ++ " || ".toList ++ b.render
  | and a b => a.render ++ " && ".toList ++ b.render

/-- The pattern that finds the condition's text with any blanks around the operators:
`\s*\|\|\s*` for `||`. -/
def loosePattern : Cond → List Item
  | test m v => lits (test m v).render
  | or a b => a.loosePattern ++ [.star .space] ++ lits ['|', '|'] ++ [.star .space] ++ b.loosePattern
  | and a b => a.loosePattern ++ [.star .space] ++ lits ['&', '&'] ++ [.star .space] ++ b.loosePattern

/-- **A mask test can hold exactly when its value has no bit outside its mask.** -/
theorem test_holds_iff (m v : Nat) : (∃ insn, (test m v).holds insn = true) ↔ v &&& m = v := by
  simp only [holds, beq_iff_eq]
  constructor
  · rintro ⟨insn, h⟩
    rw [← h, Nat.and_assoc, Nat.and_self]
  · exact fun h => ⟨v, h⟩

theorem test_holds_eq_false {m v : Nat} (h : v &&& m ≠ v) (insn : Nat) :
    (test m v).holds insn = false :=
  Bool.eq_false_iff.mpr fun hi => h ((test_holds_iff m v).mp ⟨insn, hi⟩)

/-- A check that the condition holds for no word: a mask test whose value has a bit outside its
mask, a `||` of two such conditions, or a `&&` with one. -/
def dead : Cond → Bool
  | test m v => v &&& m != v
  | or a b => a.dead && b.dead
  | and a b => a.dead || b.dead

theorem holds_of_dead : ∀ c : Cond, c.dead = true → ∀ insn, c.holds insn = false
  | test m v, h, insn => test_holds_eq_false (by simpa [dead] using h) insn
  | or a b, h, insn => by
    simp only [dead, Bool.and_eq_true] at h
    simp only [holds, holds_of_dead a h.1, holds_of_dead b h.2, Bool.or_self]
  | and a b, h, insn => by
    simp only [dead, Bool.or_eq_true] at h
    rcases h with h | h <;> simp [holds, holds_of_dead _ h]

/-- A `||` with a condition that never holds means its other side. -/
theorem holds_or_of_dead (a b : Cond) (hb : b.dead = true) (insn : Nat) :
    (or a b).holds insn = a.holds insn := by
  simp only [holds, holds_of_dead b hb, Bool.or_false]

end Cond

/-! ## 2. The scripts -/

/-- The scripts' `content = re.sub(pattern, replacement, content)`, pair after pair. -/
def applyRewrites : List (List Item × List Char) → List Char → Except PyError (List Char)
  | [], content => .ok content
  | (p, r) :: rws, content => reSub p r content >>= applyRewrites rws

/-- Fix 1 of `fix_bad_bit_mask.py` (NEG/NEGS). -/
def badNeg : List Item × List Char :=
  (lits "(insn & 0x1FE00000) == 0x4B000000 || (insn & 0x1FE00000) == 0x4B200000".toList,
   "(insn & 0x1FF00000) == 0x4B000000 || (insn & 0x1FF00000) == 0x4B200000".toList)

/-- Fix 2 of `fix_bad_bit_mask.py` (CMP). -/
def badCmp : List Item × List Char :=
  (lits "if (insn & 0x1FE00000) == 0x4B000000 && (insn & 0x1FFC00) == 0x1F0000) \x7b".toList,
   "if (insn & 0x1FF00000) == 0x4B000000 && (insn & 0x1FFC00) == 0x1F0000) \x7b".toList)

/-- Fix 3 of `fix_bad_bit_mask.py` (CMN). -/
def badCmn : List Item × List Char :=
  (lits "if (insn & 0x1FE00000) == 0x2B000000 && (insn & 0x1FFC00) == 0x1F0000) \x7b".toList,
   "if (insn & 0x1FF00000) == 0x2B000000 && (insn & 0x1FFC00) == 0x1F0000) \x7b".toList)

/-- The rewrites of `fix_bad_bit_mask.py`, in order. -/
def fixBadBitMaskRewrites : List (List Item × List Char) := [badNeg, badCmp, badCmn]

/-- `fix_bad_bit_mask.py` on the text of the decoder: the text it writes back. -/
def fixBadBitMask (content : List Char) : Except PyError (List Char) :=
  applyRewrites fixBadBitMaskRewrites content

/-- Fix 1 of `fix_all_bad_bit_masks.py` (LDR/STR): three tests joined by `||` with any blanks
around them, and the `)` after them. -/
def allLdrStr : List Item × List Char :=
  (lits "if (insn & 0x3F000000) == 0x39000000".toList ++ [.star .space] ++ lits "||".toList ++
    [.star .space] ++ lits "(insn & 0x3F000000) == 0x39000001".toList ++ [.star .space] ++
    lits "||".toList ++ [.star .space] ++ lits "(insn & 0x3F000000) == 0x39000002".toList ++
    [.star .space] ++ lits ")".toList,
   "if (insn & 0x3F000000) == 0x39000000".toList)

/-- Fix 2 of `fix_all_bad_bit_masks.py` (NEG/NEGS). -/
def allNeg : List Item × List Char :=
  (lits "(insn & 0x1FF00000) == 0x4B000000 || (insn & 0x1FF00000) == 0x4B200000".toList,
   "(insn & 0x9FF00000) == 0xCB000000 || (insn & 0x9FF00000) == 0xCB200000".toList)

/-- Fix 3 of `fix_all_bad_bit_masks.py` (CMP). -/
def allCmp : List Item × List Char :=
  (lits "(insn & 0x1FE00000) == 0x4B000000".toList, "(insn & 0x9FE00000) == 0xCB000000".toList)

/-- Fix 4 of `fix_all_bad_bit_masks.py` (CMN). -/
def allCmn : List Item × List Char :=
  (lits "(insn & 0x1FE00000) == 0x2B000000".toList, "(insn & 0x9FE00000) == 0x2B000000".toList)

/-- Fix 5 of `fix_all_bad_bit_masks.py` (SDIV/UDIV). -/
def allDiv : List Item × List Char :=
  (lits "(insn & 0x1F800000) == 0x1AC00000".toList, "(insn & 0x1FC00000) == 0x1AC00000".toList)

/-- The rewrites of `fix_all_bad_bit_masks.py`, in order. -/
def fixAllBadBitMasksRewrites : List (List Item × List Char) :=
  [allLdrStr, allNeg, allCmp, allCmn, allDiv]

/-- `fix_all_bad_bit_masks.py` on the text of the decoder: the text it writes back. -/
def fixAllBadBitMasks (content : List Char) : Except PyError (List Char) :=
  applyRewrites fixAllBadBitMasksRewrites content

/-! ## 3. Neither script raises -/

theorem applyRewrites_ok : ∀ rws : List (List Item × List Char), (∀ rw ∈ rws, '\\' ∉ rw.2) →
    ∀ content, ∃ out, applyRewrites rws content = .ok out
  | [], _, content => ⟨content, rfl⟩
  | (p, r) :: rws, h, content => by
    have hr : reSub p r content = .ok (subScan p (r.map .lit) (content.length + 1) content) := by
      rw [reSub, parseTemplate_plain _ (h (p, r) (List.mem_cons_self _ _))]
      rfl
    rw [applyRewrites, hr]
    exact applyRewrites_ok rws (fun rw hrw => h rw (List.mem_cons_of_mem _ hrw)) _

/-- `rw` finds the text of a condition that holds for no word, between `pre` and `post`, and
writes in its place the text of another that holds for no word. -/
def DeadRewrite (rw : List Item × List Char) : Prop :=
  ∃ (pre post : List Char) (before after : Cond), rw.1 = lits (pre ++ before.render ++ post) ∧
    rw.2 = pre ++ after.render ++ post ∧ ∀ insn, before.holds insn = false ∧ after.holds insn = false

theorem deadRewrite_of_dead {rw : List Item × List Char} (pre post : List Char)
    (before after : Cond) (h1 : rw.1 = lits (pre ++ before.render ++ post))
    (h2 : rw.2 = pre ++ after.render ++ post) (hb : before.dead = true) (ha : after.dead = true) :
    DeadRewrite rw :=
  ⟨pre, post, before, after, h1, h2, fun insn =>
    ⟨Cond.holds_of_dead _ hb insn, Cond.holds_of_dead _ ha insn⟩⟩

/-- `fix_bad_bit_mask.py` changes no decision of the decoder: the new mask `0x1FF00000` takes in
bit 24 of the values, but not their bit 30. -/
example : ∀ rw ∈ fixBadBitMaskRewrites, DeadRewrite rw := by
  simp only [fixBadBitMaskRewrites, List.mem_cons, List.not_mem_nil, or_false]
  rintro rw (rfl | rfl | rfl)
  · exact deadRewrite_of_dead [] []
      (.or (.test 0x1FE00000 0x4B000000) (.test 0x1FE00000 0x4B200000))
      (.or (.test 0x1FF00000 0x4B000000) (.test 0x1FF00000 0x4B200000))
      (by decide) (by decide) rfl rfl
  · exact deadRewrite_of_dead "if ".toList ") \x7b".toList
      (.and (.test 0x1FE00000 0x4B000000) (.test 0x1FFC00 0x1F0000))
      (.and (.test 0x1FF00000 0x4B000000) (.test 0x1FFC00 0x1F0000))
      (by decide) (by decide) rfl rfl
  · exact deadRewrite_of_dead "if ".toList ") \x7b".toList
      (.and (.test 0x1FE00000 0x2B000000) (.test 0x1FFC00 0x1F0000))
      (.and (.test 0x1FF00000 0x2B000000) (.test 0x1FFC00 0x1F0000))
      (by decide) (by decide) rfl rfl

/-- The NEG/NEGS, CMP and CMN rewrites of `fix_all_bad_bit_masks.py` change no decision: the new
masks take in bit 31, but not bit 30 of `0x4B…`/`0xCB…` nor bit 29 of `0x2B000000`. -/
example : ∀ rw ∈ [allNeg, allCmp, allCmn], DeadRewrite rw := by
  simp only [List.mem_cons, List.not_mem_nil, or_false]
  rintro rw (rfl | rfl | rfl)
  · exact deadRewrite_of_dead [] []
      (.or (.test 0x1FF00000 0x4B000000) (.test 0x1FF00000 0x4B200000))
      (.or (.test 0x9FF00000 0xCB000000) (.test 0x9FF00000 0xCB200000))
      (by decide) (by decide) rfl rfl
  · exact deadRewrite_of_dead [] [] (.test 0x1FE00000 0x4B000000) (.test 0x9FE00000 0xCB000000)
      (by decide) (by decide) rfl rfl
  · exact deadRewrite_of_dead [] [] (.test 0x1FE00000 0x2B000000) (.test 0x9FE00000 0x2B000000)
      (by decide) (by decide) rfl rfl

/-- The LDR/STR rewrite keeps the condition's meaning but not the `)` after it: its pattern is
`if ` and the three tests joined by `||` with any blanks around them, then blanks and `)`; it
writes `if ` and the first test alone, which holds for the same words, the other two never
holding. -/
example :
    allLdrStr.1 = lits "if ".toList ++
        (Cond.or (.or (.test 0x3F000000 0x39000000) (.test 0x3F000000 0x39000001))
          (.test 0x3F000000 0x39000002)).loosePattern ++ [.star .space] ++ lits [')'] ∧
      allLdrStr.2 = "if ".toList ++ (Cond.test 0x3F000000 0x39000000).render ∧
      ∀ insn, (Cond.or (.or (.test 0x3F000000 0x39000000) (.test 0x3F000000 0x39000001))
          (.test 0x3F000000 0x39000002)).holds insn = (Cond.test 0x3F000000 0x39000000).holds insn := by
  refine ⟨by decide, by decide, fun insn => ?_⟩
  rw [Cond.holds_or_of_dead _ (.test 0x3F000000 0x39000002) rfl,
    Cond.holds_or_of_dead _ (.test 0x3F000000 0x39000001) rfl]

/-- The SDIV/UDIV rewrite is the one repair: it replaces a test that holds for no word by one
that some 32-bit word passes. -/
example :
    allDiv.1 = lits (Cond.test 0x1F800000 0x1AC00000).render ∧
      allDiv.2 = (Cond.test 0x1FC00000 0x1AC00000).render ∧
      (∀ insn, (Cond.test 0x1F800000 0x1AC00000).holds insn = false) ∧
      ∃ insn < 0x100000000, (Cond.test 0x1FC00000 0x1AC00000).holds insn = true :=
  ⟨by decide, by decide, Cond.holds_of_dead _ rfl, 0x1AC00000, by decide, rfl⟩

end VmTools.Fix
