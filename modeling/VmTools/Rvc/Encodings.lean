import Mathlib.Data.Nat.Bitwise

/-
# `generate_c_encodings.py`: the compressed RISC-V encodings

`generate_c_encodings.py` builds the 16-bit words of seventeen compressed instructions from
their operands, as the expected values of the decoder's tests: each encoder checks its operands'
ranges (a `ValueError` otherwise), ORs the shifted fields together and keeps the low 16 bits.
What matters about an encoder is what its word still says about the operands.

Ten encoders share a register layout (`crWord`) and three an immediate layout (`ciWord`), whose
fields do not overlap: the word is their sum, and the operands can be read back from it:

* `crFields_encodeRegReg`: `C.ADD`, `C.MV`, `C.SUB`, `C.XOR`, `C.OR` and `C.AND` give back the
  function code and both registers, so no two of their operand pairs share a word;
* `ciImm_encodeCI`: `C.ADDI` and `C.LI` give back `rd` and the immediate, sign included;
* `ciImm_encodeCLui`: `C.LUI` accepts every immediate and keeps `⌊imm / 2^12⌋` wrapped into six
  signed bits: an immediate of more than 18 bits is not refused but silently cut.

In the stack and branch encoders, each laid out by its own code, fields overlap, and one word
stands for several operands:

* `encodeCLwsp_eq`: `C.LWSP` keeps `rd mod 16` (bit 4 falls on the `10` in bits 11:10) and
  bits 6:2 of the offset (bit 7 is dropped);
* `encodeCSwsp_eq`: `C.SWSP` keeps, of the offset, bit 4 and whether bit 2 or bit 5 is set;
* `encodeBranch_offset_collision`: `C.BEQZ` and `C.BNEZ` put bits 1 and 3 of the offset on one
  bit, so an offset `2 (mod 16)` and the offset six above it give one word.

Across encoders, `C.JR`, `C.JALR` and `C.EBREAK` are the words of `C.MV` and `C.ADD` with
`rs2 = x0`, as RISC-V has them (`encodeCJr_eq_encodeCMv`), but `C.LWSP`, whose function code is
that of `C.SLLI`, shares its words with it (`encodeCLwsp_eq_encodeCSlli`).

Python's integers have no width: `x >> k` is `⌊x / 2^k⌋` and `x & (2^k - 1)` is `x mod 2^k`,
negative `x` included, and the model writes them so where an operand can be negative.  The
messages of the `ValueError`s are modelled; `generate_test_encodings`, which prints, is not.
-/

namespace VmTools.Rvc

/-! ## 1. Fields -/

local instance orAssoc : Std.Associative (HOr.hOr : Nat → Nat → Nat) := ⟨Nat.or_assoc⟩
local instance orComm : Std.Commutative (HOr.hOr : Nat → Nat → Nat) := ⟨Nat.or_comm⟩

/-- Two fields that do not overlap: their OR is their sum. -/
theorem or_eq_add (i : Nat) {x y : Nat} (hx : x % 2 ^ i = 0) (hy : y < 2 ^ i) :
    x ||| y = x + y := by
  obtain ⟨a, rfl⟩ := Nat.dvd_of_mod_eq_zero hx
  exact (Nat.mul_add_lt_is_or hy a).symm

theorem mul_two_pow_or_eq_add (x i : Nat) {y : Nat} (hy : y < 2 ^ i) :
    x * 2 ^ i ||| y = x * 2 ^ i + y :=
  or_eq_add i (Nat.mul_mod_left _ _) hy

/-- A bit ORed onto a value of no higher bit: the value's own copy of the bit is lost. -/
theorem two_pow_or_of_lt {i y : Nat} (hy : y < 2 ^ (i + 1)) : 2 ^ i ||| y = 2 ^ i + y % 2 ^ i := by
  rw [← or_eq_add i (Nat.mod_self _) (Nat.mod_lt _ (Nat.two_pow_pos i))]
  apply Nat.eq_of_testBit_eq
  intro j
  simp only [Nat.testBit_or, Nat.testBit_mod_two_pow, Nat.testBit_two_pow]
  by_cases hij : i = j
  · simp [hij]
  · by_cases hji : j < i
    · simp [hij, hji]
    · have hj : y.testBit j = false :=
        Nat.testBit_lt_two_pow (lt_of_lt_of_le hy (Nat.pow_le_pow_right (by decide) (by omega)))
      simp [hij, hji, hj]

/-- Two fields at the same place: OR them before shifting. -/
theorem mul_two_pow_or (x y i : Nat) : x * 2 ^ i ||| y * 2 ^ i = (x ||| y) * 2 ^ i := by
  simp only [← Nat.shiftLeft_eq]
  apply Nat.eq_of_testBit_eq
  intro j
  simp only [Nat.testBit_or, Nat.testBit_shiftLeft, Bool.and_or_distrib_left]

/-- `x & m` for a mask of `k` ones above `j` zeros: bits `j + k - 1 .. j` of `x`, in place. -/
theorem and_mask (x j k : Nat) {m : Nat} (hm : m = (2 ^ k - 1) * 2 ^ j) :
    x &&& m = x / 2 ^ j % 2 ^ k * 2 ^ j := by
  subst hm
  apply Nat.eq_of_testBit_eq
  intro i
  rw [← Nat.shiftLeft_eq, ← Nat.shiftLeft_eq, ← Nat.shiftRight_eq_div_pow]
  simp only [Nat.testBit_and, Nat.testBit_shiftLeft, Nat.testBit_mod_two_pow,
    Nat.testBit_shiftRight, Nat.testBit_two_pow_sub_one]
  by_cases h : j ≤ i
  · simp [h, Nat.sub_add_cancel h, Bool.and_comm]
  · simp [h]

/-- `& 0xFFFF` keeps a word that fits in 16 bits. -/
theorem and_ffff {x : Nat} (hx : x < 65536) : x &&& 0xFFFF = x :=
  Nat.and_pow_two_sub_one_of_lt_two_pow (show x < 2 ^ 16 from hx)

/-! ## 2. The encoders -/

/-- The register layout: quadrant `10`, a function code `funct` already in place, `a` at bit 7
and `b` at bit 2, as `C.ADD`, `C.MV`, `C.JR`, `C.JALR`, `C.EBREAK`, `C.SLLI`, `C.SUB`,
`C.XOR`, `C.OR` and `C.AND` compute it. -/
def crWord (funct a b : Nat) : Nat :=
  (0b10 <<< 0 ||| funct ||| a <<< 7 ||| b <<< 2) &&& 0xFFFF

/-- The check and the word `C.ADD`, `C.MV`, `C.SUB`, `C.XOR`, `C.OR` and `C.AND` share: both
registers in `[0, 31]`, then the register layout with the instruction's function code. -/
def encodeRegReg (funct : Nat) (rd rs2 : Int) : Except String Nat :=
  if rd < 0 ∨ rd > 31 ∨ rs2 < 0 ∨ rs2 > 31 then
    .error ("Invalid registers: rd=" ++ toString rd ++ ", rs2=" ++ toString rs2)
  else .ok (crWord funct rd.toNat rs2.toNat)

/-- `encode_c_add(rd, rs2)`. -/
def encodeCAdd : Int → Int → Except String Nat := encodeRegReg (0b010 <<< 13)

/-- `encode_c_mv(rd, rs2)`. -/
def encodeCMv : Int → Int → Except String Nat := encodeRegReg (0b001 <<< 13)

/-- `encode_c_sub(rd, rs2)`. -/
def encodeCSub : Int → Int → Except String Nat := encodeRegReg (0b1000 <<< 12)

/-- `encode_c_xor(rd, rs2)`. -/
def encodeCXor : Int → Int → Except String Nat := encodeRegReg (0b1001 <<< 12)

/-- `encode_c_or(rd, rs2)`. -/
def encodeCOr : Int → Int → Except String Nat := encodeRegReg (0b1010 <<< 12)

/-- `encode_c_and(rd, rs2)`. -/
def encodeCAnd : Int → Int → Except String Nat := encodeRegReg (0b1011 <<< 12)

/-- The check and the word `C.JR` and `C.JALR` share: `rs1` in `[0, 31]`, then the register
layout with `0` for `rs2`. -/
def encodeOneReg (funct : Nat) (rs1 : Int) : Except String Nat :=
  if rs1 < 0 ∨ rs1 > 31 then .error ("Invalid register: rs1=" ++ toString rs1)
  else .ok (crWord funct rs1.toNat 0)

/-- `encode_c_jr(rs1)`. -/
def encodeCJr : Int → Except String Nat := encodeOneReg (0b001 <<< 13)

/-- `encode_c_jalr(rs1)`. -/
def encodeCJalr : Int → Except String Nat := encodeOneReg (0b010 <<< 13)

/-- `encode_c_ebreak()`. -/
def encodeCEbreak : Nat := crWord (0b010 <<< 13) 0 0

/-- `encode_c_slli(rd, shamt)`: the register layout with no function code. -/
def encodeCSlli (rd shamt : Int) : Except String Nat :=
  if rd < 0 ∨ rd > 31 then .error ("Invalid register: rd=" ++ toString rd)
  else if shamt < 0 ∨ shamt > 31 then .error ("Invalid shift amount: " ++ toString shamt)
  else .ok (crWord (0b000 <<< 13) rd.toNat shamt.toNat)

/-- The immediate layout: quadrant `01`, a function code `funct` in place, `rd` at bit 7, and a
six-bit immediate `u` with its low five bits at bit 2 and its top bit at bit 12. -/
def ciWord (funct rd u : Nat) : Nat :=
  (0b01 <<< 0 ||| funct ||| rd <<< 7 ||| (u &&& 0x1F) <<< 2 ||| (u >>> 5) <<< 12) &&& 0xFFFF

/-- The check and the word `C.ADDI` and `C.LI` share: `rd` in `[0, 31]` and the immediate in
`[-32, 31]`, kept as `imm & 0x3F`. -/
def encodeCI (funct : Nat) (rd imm : Int) : Except String Nat :=
  if rd < 0 ∨ rd > 31 then .error ("Invalid register: rd=" ++ toString rd)
  else if imm < -32 ∨ imm > 31 then .error ("Invalid immediate: " ++ toString imm)
  else .ok (ciWord funct rd.toNat (imm % 64).toNat)

/-- `encode_c_addi(rd, imm)`. -/
def encodeCAddi : Int → Int → Except String Nat := encodeCI (0b000 <<< 13)

/-- `encode_c_li(rd, imm)`. -/
def encodeCLi : Int → Int → Except String Nat := encodeCI (0b010 <<< 13)

/-- `encode_c_lui(rd, imm)`: `rd` is neither `x0` nor `x2`; the immediate is not checked, and
only `(imm >> 12) & 0x3F` is kept. -/
def encodeCLui (rd imm : Int) : Except String Nat :=
  if rd < 0 ∨ rd > 31 ∨ rd = 0 ∨ rd = 2 then .error ("Invalid register: rd=" ++ toString rd)
  else
    let immUpper := (imm / 4096 % 64).toNat
    let immUnsigned := immUpper &&& 0x3F
    .ok (ciWord (0b011 <<< 13) rd.toNat immUnsigned)

/-- `encode_c_lwsp(rd, imm)`: the offset's bits 7:2, `imm_bits`, laid out by pieces. -/
def encodeCLwsp (rd imm : Int) : Except String Nat :=
  if rd < 0 ∨ rd > 31 ∨ rd = 0 then .error ("Invalid register: rd=" ++ toString rd)
  else if imm < 0 ∨ imm > 255 ∨ imm % 4 ≠ 0 then .error ("Invalid immediate: " ++ toString imm)
  else
    let immBits := (imm / 4 % 64).toNat
    .ok ((0b10 <<< 0 ||| 0b000 <<< 13 ||| 0b10 <<< 10 ||| rd.toNat <<< 7 |||
      (immBits &&& 0x3) <<< 4 ||| (immBits &&& 0xC) <<< 0 ||| (immBits &&& 0x10) <<< 8) &&& 0xFFFF)

/-- `encode_c_swsp(rs2, imm)`. -/
def encodeCSwsp (rs2 imm : Int) : Except String Nat :=
  if rs2 < 0 ∨ rs2 > 31 then .error ("Invalid register: rs2=" ++ toString rs2)
  else if imm < 0 ∨ imm > 255 ∨ imm % 4 ≠ 0 then .error ("Invalid immediate: " ++ toString imm)
  else
    let immBits := (imm / 4 % 64).toNat
    .ok ((0b10 <<< 0 ||| 0b011 <<< 13 ||| 0b01 <<< 10 ||| rs2.toNat <<< 2 |||
      (immBits &&& 0x3) <<< 12 ||| (immBits &&& 0x4) <<< 7 ||| (immBits &&& 0x38) <<< 9) &&& 0xFFFF)

/-- The check and the word `C.BEQZ` and `C.BNEZ` share: `rs1` in `[0, 31]`, an even offset in
`[-256, 255]`, and its bits 8:1, `imm_bits`, laid out by pieces. -/
def encodeBranch (funct : Nat) (rs1 imm : Int) : Except String Nat :=
  if rs1 < 0 ∨ rs1 > 31 then .error ("Invalid register: rs1=" ++ toString rs1)
  else if imm < -256 ∨ imm > 255 ∨ imm % 2 ≠ 0 then
    .error ("Invalid immediate: " ++ toString imm)
  else
    let immBits := (imm / 2 % 256).toNat
    .ok ((0b01 <<< 0 ||| funct ||| rs1.toNat <<< 7 ||| (immBits &&& 0x1) <<< 12 |||
      (immBits &&& 0x6) <<< 10 ||| (immBits &&& 0x18) <<< 3 ||| (immBits &&& 0xE0) >>> 2) &&& 0xFFFF)

/-- `encode_c_beqz(rs1, imm)`. -/
def encodeCBeqz : Int → Int → Except String Nat := encodeBranch (0b110 <<< 13)

/-- `encode_c_bnez(rs1, imm)`. -/
def encodeCBnez : Int → Int → Except String Nat := encodeBranch (0b111 <<< 13)

/-! ## 3. The layouts without overlap -/

/-- The register layout is the sum of its fields. -/
theorem crWord_eq {funct a b : Nat} (hf : funct % 4096 = 0) (hf' : funct < 65536) (ha : a < 32)
    (hb : b < 32) : crWord funct a b = funct + a * 128 + b * 4 + 2 := by
  have h : 0b10 <<< 0 ||| funct ||| a <<< 7 ||| b <<< 2 =
      funct ||| (a * 2 ^ 7 ||| (b * 2 ^ 2 ||| 2)) := by
    simp only [Nat.shiftLeft_eq]; ac_rfl
  rw [crWord, h, or_eq_add 2 (Nat.mul_mod_left _ _) (by decide),
    or_eq_add 7 (Nat.mul_mod_left _ _) (by omega), or_eq_add 12 (by omega) (by omega),
    and_ffff (by omega)]
  omega

/-- The fields of a word in the register layout: the function code (bits 15:12), the
registers (bits 11:7 and 6:2) and the quadrant (bits 1:0). -/
def crFields (w : Nat) : Nat × Nat × Nat × Nat := (w / 4096 * 4096, w / 128 % 32, w / 4 % 32, w % 4)

theorem crFields_crWord {funct a b : Nat} (hf : funct % 4096 = 0) (hf' : funct < 65536)
    (ha : a < 32) (hb : b < 32) : crFields (crWord funct a b) = (funct, a, b, 2) := by
  rw [crWord_eq hf hf' ha hb, crFields, Prod.mk.injEq, Prod.mk.injEq, Prod.mk.injEq]
  omega

/-- **The register encoders can be read back**: a word that `C.ADD`, `C.MV`, `C.SUB`, `C.XOR`,
`C.OR` or `C.AND` returns gives back its function code and both registers.  So each of them
is one-to-one on its operands, and, their function codes differing in bits 15:12, no two of them
share a word. -/
theorem crFields_encodeRegReg (funct : Nat) (rd rs2 : Int) (w : Nat) (hf : funct % 4096 = 0)
    (hf' : funct < 65536) (h : encodeRegReg funct rd rs2 = .ok w) :
    crFields w = (funct, rd.toNat, rs2.toNat, 2) ∧ 0 ≤ rd ∧ rd ≤ 31 ∧ 0 ≤ rs2 ∧ rs2 ≤ 31 := by
  unfold encodeRegReg at h
  split_ifs at h with hr
  cases h
  exact ⟨crFields_crWord hf hf' (by omega) (by omega), by omega, by omega, by omega, by omega⟩

/-- `C.ADD x1, x2`. -/
example : encodeCAdd 1 2 = .ok 0x408a ∧ crFields 0x408a = (0x4000, 1, 2, 2) := ⟨rfl, rfl⟩

/-- **`C.JR`, `C.JALR` and `C.EBREAK` are the register words with `rs2 = x0`**: for a register in
range, `C.JR` returns the word of `C.MV` from `x0`, `C.JALR` that of `C.ADD` of `x0`, and
`C.EBREAK` that of `C.ADD x0, x0`.  As in RISC-V, a decoder tells them apart by `rs2 = 0`
only. -/
theorem encodeCJr_eq_encodeCMv (r : Int) (hr : 0 ≤ r ∧ r ≤ 31) :
    encodeCJr r = encodeCMv r 0 ∧ encodeCJalr r = encodeCAdd r 0 ∧
      Except.ok encodeCEbreak = encodeCAdd 0 0 := by
  simp only [encodeCJr, encodeCJalr, encodeCMv, encodeCAdd, encodeOneReg, encodeRegReg]
  rw [if_neg (by omega), if_neg (by omega), if_neg (by omega), if_neg (by omega)]
  exact ⟨rfl, rfl, rfl⟩

example : encodeCJr 5 = encodeCMv 5 0 ∧ encodeCJalr 5 = encodeCAdd 5 0 := ⟨rfl, rfl⟩

/-- The immediate layout is the sum of its fields. -/
theorem ciWord_eq {funct rd u : Nat} (hf : funct % 8192 = 0) (hf' : funct < 65536)
    (hrd : rd < 32) (hu : u < 64) :
    ciWord funct rd u = funct + u / 32 * 4096 + rd * 128 + u % 32 * 4 + 1 := by
  have h : 0b01 <<< 0 ||| funct ||| rd <<< 7 ||| (u &&& 0x1F) <<< 2 ||| (u >>> 5) <<< 12 =
      funct ||| (u / 2 ^ 5 * 2 ^ 12 ||| (rd * 2 ^ 7 ||| (u % 2 ^ 5 * 2 ^ 2 ||| 1))) := by
    rw [show (0x1F : Nat) = 2 ^ 5 - 1 from rfl, Nat.and_pow_two_sub_one_eq_mod,
      Nat.shiftRight_eq_div_pow]
    simp only [Nat.shiftLeft_eq, Nat.pow_zero]; ac_rfl
  rw [ciWord, h, or_eq_add 2 (Nat.mul_mod_left _ _) (by decide),
    or_eq_add 7 (Nat.mul_mod_left _ _) (by omega), or_eq_add 12 (Nat.mul_mod_left _ _) (by omega),
    or_eq_add 13 (by omega) (by omega), and_ffff (by omega)]
  omega

/-- The six-bit immediate of a word in the immediate layout, with its sign: bits 6:2 are its low
five bits and bit 12 its sign. -/
def ciImm (w : Nat) : Int :=
  let u := w / 4 % 32 + w / 4096 % 2 * 32
  if u < 32 then u else (u : Int) - 64

theorem ciImm_ciWord {funct rd u : Nat} (hf : funct % 8192 = 0) (hf' : funct < 65536)
    (hrd : rd < 32) (hu : u < 64) :
    ciImm (ciWord funct rd u) = if u < 32 then (u : Int) else (u : Int) - 64 := by
  have hu' : ciWord funct rd u / 4 % 32 + ciWord funct rd u / 4096 % 2 * 32 = u := by
    rw [ciWord_eq hf hf' hrd hu]; omega
  simp only [ciImm, hu']

theorem rd_ciWord {funct rd u : Nat} (hf : funct % 8192 = 0) (hf' : funct < 65536)
    (hrd : rd < 32) (hu : u < 64) : ciWord funct rd u / 128 % 32 = rd := by
  rw [ciWord_eq hf hf' hrd hu]; omega

/-- **`C.ADDI` and `C.LI` can be read back, sign included**: a word they return gives back
`rd` and the immediate, the six-bit field read as a signed number. -/
theorem ciImm_encodeCI (funct : Nat) (rd imm : Int) (w : Nat) (hf : funct % 8192 = 0)
    (hf' : funct < 65536) (h : encodeCI funct rd imm = .ok w) :
    ((w / 128 % 32 : Nat) : Int) = rd ∧ ciImm w = imm := by
  unfold encodeCI at h
  split_ifs at h with hr hi
  cases h
  have hu : (imm % 64).toNat < 64 := by omega
  rw [rd_ciWord hf hf' (by omega) hu, ciImm_ciWord hf hf' (by omega) hu]
  refine ⟨by omega, ?_⟩
  split_ifs <;> omega

/-- `C.ADDI x1, -4`. -/
example : encodeCAddi 1 (-4) = .ok 0x10f1 ∧ ciImm 0x10f1 = -4 := ⟨rfl, rfl⟩

/-- **`C.LUI` refuses no immediate and wraps it**: for every register it accepts and every
immediate, it returns a word that gives back `rd` and, as its signed six-bit field,
`⌊imm / 2^12⌋` wrapped into `[-32, 32)`. -/
theorem ciImm_encodeCLui (rd imm : Int) (hrd : 0 < rd ∧ rd ≤ 31 ∧ rd ≠ 2) :
    ∃ w, encodeCLui rd imm = .ok w ∧ ((w / 128 % 32 : Nat) : Int) = rd ∧
      ciImm w = (imm / 4096 + 32) % 64 - 32 := by
  have hu : (imm / 4096 % 64).toNat &&& 0x3F = (imm / 4096 % 64).toNat := by
    rw [show (0x3F : Nat) = 2 ^ 6 - 1 from rfl, Nat.and_pow_two_sub_one_eq_mod]; omega
  have hlt : (imm / 4096 % 64).toNat < 64 := by omega
  refine ⟨_, if_neg (by omega), ?_⟩
  dsimp only
  rw [hu, rd_ciWord (by decide) (by decide) (by omega) hlt,
    ciImm_ciWord (by decide) (by decide) (by omega) hlt]
  refine ⟨by omega, ?_⟩
  split_ifs <;> omega

theorem ciImm_encodeCLui_wraps :
    ((0 : Int) < 1 ∧ (1 : Int) ≤ 31 ∧ (1 : Int) ≠ 2) ∧
      ∃ w, encodeCLui 1 0x40000 = .ok w ∧ ((w / 128 % 32 : Nat) : Int) = 1 ∧
        ciImm w = ((0x40000 : Int) / 4096 + 32) % 64 - 32 :=
  ⟨by decide, ciImm_encodeCLui 1 0x40000 (by decide)⟩

/-! ## 4. The layouts with overlap -/

/-- The `C.LWSP` word as a sum: bit 4 of the register and bit 5 of `imm_bits` are lost. -/
theorem lwspWord_eq {r : Nat} (b : Nat) (hr : r < 32) :
    (0b10 <<< 0 ||| 0b000 <<< 13 ||| 0b10 <<< 10 ||| r <<< 7 ||| (b &&& 0x3) <<< 4 |||
      (b &&& 0xC) <<< 0 ||| (b &&& 0x10) <<< 8) &&& 0xFFFF =
      0x802 + r % 16 * 128 + b % 4 * 16 + b / 4 % 4 * 4 + b / 16 % 2 * 4096 := by
  have h : 0b10 <<< 0 ||| 0b000 <<< 13 ||| 0b10 <<< 10 ||| r <<< 7 ||| (b &&& 0x3) <<< 4 |||
      (b &&& 0xC) <<< 0 ||| (b &&& 0x10) <<< 8 =
      b / 2 ^ 4 % 2 ^ 1 * 2 ^ 4 * 2 ^ 8 ||| ((2 * 2 ^ 10 ||| r * 2 ^ 7) |||
        (b % 2 ^ 2 * 2 ^ 4 ||| (b / 2 ^ 2 % 2 ^ 2 * 2 ^ 2 ||| 2))) := by
    rw [and_mask b 2 2 (show 0xC = _ from rfl), and_mask b 4 1 (show 0x10 = _ from rfl),
      show (0x3 : Nat) = 2 ^ 2 - 1 from rfl, Nat.and_pow_two_sub_one_eq_mod]
    simp only [Nat.shiftLeft_eq, Nat.pow_zero, Nat.mul_one, Nat.zero_mul, Nat.or_zero]
    ac_rfl
  have hbit : 2 * 2 ^ 10 ||| r * 2 ^ 7 = (16 + r % 16) * 2 ^ 7 := by
    rw [show (2 * 2 ^ 10 : Nat) = 2 ^ 11 from rfl, two_pow_or_of_lt (by omega)]; omega
  rw [h, hbit, mul_two_pow_or_eq_add _ 2 (by decide), mul_two_pow_or_eq_add _ 4 (by omega),
    mul_two_pow_or_eq_add _ 7 (by omega),
    or_eq_add 12 (show b / 2 ^ 4 % 2 ^ 1 * 2 ^ 4 * 2 ^ 8 % 2 ^ 12 = 0 by omega) (by omega),
    and_ffff (by omega)]
  simp only [Nat.reducePow]
  omega

/-- **What a `C.LWSP` word keeps**: `rd mod 16`, bit 4 of `rd` falling on the `10` at bits
11:10, and bits 6:2 of the offset, bit 7 being dropped.  So `x1` and `x17`, and the offsets
`0` and `128`, give the same words. -/
theorem encodeCLwsp_eq (rd imm : Int) (hrd : 0 < rd ∧ rd ≤ 31)
    (himm : 0 ≤ imm ∧ imm ≤ 255 ∧ imm % 4 = 0) :
    encodeCLwsp rd imm = .ok (0x802 + rd.toNat % 16 * 128 + imm.toNat / 4 % 4 * 16 +
      imm.toNat / 16 % 4 * 4 + imm.toNat / 64 % 2 * 4096) := by
  rw [encodeCLwsp, if_neg (by omega), if_neg (by omega)]
  dsimp only
  have h4 : (imm / 4 % 64).toNat = imm.toNat / 4 := by omega
  rw [lwspWord_eq _ (by omega), h4, Nat.div_div_eq_div_mul, Nat.div_div_eq_div_mul]

/-- `x17` and `x1`, and the offsets `128` and `0`, give one word. -/
example : encodeCLwsp 17 128 = encodeCLwsp 1 0 := rfl

/-- **`C.LWSP` words are `C.SLLI` words**: a load into any register from an offset whose bit 6 is
clear gives the word of a shift, by an amount made of the offset's bits 5:2, of the register with
the same low four bits and bit 4 set.  Both function codes are `000`, and the `10` in bits 11:10
of `C.LWSP` falls on the register field of `C.SLLI`, so a decoder cannot tell the two apart. -/
theorem encodeCLwsp_eq_encodeCSlli (rd imm : Int) (hrd : 0 < rd ∧ rd ≤ 31)
    (himm : 0 ≤ imm ∧ imm ≤ 255 ∧ imm % 4 = 0) (h6 : imm / 64 % 2 = 0) :
    encodeCLwsp rd imm = encodeCSlli (16 + rd % 16) (imm / 4 % 4 * 4 + imm / 16 % 4) := by
  obtain ⟨r, rfl⟩ := Int.eq_ofNat_of_zero_le (Int.le_of_lt hrd.1)
  obtain ⟨n, rfl⟩ := Int.eq_ofNat_of_zero_le himm.1
  rw [encodeCLwsp, if_neg (by omega), if_neg (by omega), encodeCSlli, if_neg (by omega),
    if_neg (by omega)]
  dsimp only
  rw [show (n : Int) / 4 % 64 = ((n / 4 % 64 : Nat) : Int) by push_cast; rfl,
    show 16 + (r : Int) % 16 = ((16 + r % 16 : Nat) : Int) by push_cast; rfl,
    show (n : Int) / 4 % 4 * 4 + (n : Int) / 16 % 4 = ((n / 4 % 4 * 4 + n / 16 % 4 : Nat) : Int) by
      push_cast; rfl]
  simp only [Int.toNat_ofNat]
  rw [lwspWord_eq _ (by omega), crWord_eq (by decide) (by decide) (by omega) (by omega),
    Nat.zero_shiftLeft]
  congr 1
  omega

/-- `C.LWSP x1, 0(sp)` is `C.SLLI x17, 0`. -/
example : encodeCLwsp 1 0 = encodeCSlli 17 0 := rfl

/-- Bits 12 to 14 of a `C.SWSP` word: the function code `011` there absorbs two of the three
offset bits put on them. -/
theorem six_or : ∀ x < 4, ∀ y < 8, 6 ||| x ||| y = 6 + (x % 2 ||| y % 2) := by
  decide

/-- The `C.SWSP` word as a sum. -/
theorem swspWord_eq {r : Nat} (b : Nat) (hr : r < 32) :
    (0b10 <<< 0 ||| 0b011 <<< 13 ||| 0b01 <<< 10 ||| r <<< 2 ||| (b &&& 0x3) <<< 12 |||
      (b &&& 0x4) <<< 7 ||| (b &&& 0x38) <<< 9) &&& 0xFFFF =
      0x6402 + r * 4 + b / 4 % 2 * 512 + (b % 2 ||| b / 8 % 2) * 4096 := by
  have h : 0b10 <<< 0 ||| 0b011 <<< 13 ||| 0b01 <<< 10 ||| r <<< 2 ||| (b &&& 0x3) <<< 12 |||
      (b &&& 0x4) <<< 7 ||| (b &&& 0x38) <<< 9 =
      6 * 2 ^ 12 ||| b % 2 ^ 2 * 2 ^ 12 ||| b / 2 ^ 3 % 2 ^ 3 * 2 ^ 12 |||
        (1 * 2 ^ 10 ||| (b / 2 ^ 2 % 2 ^ 1 * 2 ^ 9 ||| (r * 2 ^ 2 ||| 2))) := by
    rw [and_mask b 0 2 (show 0x3 = _ from rfl), and_mask b 2 1 (show 0x4 = _ from rfl),
      and_mask b 3 3 (show 0x38 = _ from rfl)]
    simp only [Nat.shiftLeft_eq, Nat.pow_zero, Nat.div_one, Nat.mul_one]
    rw [show (0b011 * 2 ^ 13 : Nat) = 6 * 2 ^ 12 from rfl,
      show b / 2 ^ 2 % 2 ^ 1 * 2 ^ 2 * 2 ^ 7 = b / 2 ^ 2 % 2 ^ 1 * 2 ^ 9 by omega,
      show b / 2 ^ 3 % 2 ^ 3 * 2 ^ 3 * 2 ^ 9 = b / 2 ^ 3 % 2 ^ 3 * 2 ^ 12 by omega]
    ac_rfl
  have hx : b % 2 ^ 2 % 2 = b % 2 := by omega
  have hy : b / 2 ^ 3 % 2 ^ 3 % 2 = b / 8 % 2 := by omega
  have hc : (b % 2 ||| b / 8 % 2) < 2 ^ 1 :=
    Nat.or_lt_two_pow (Nat.mod_lt _ (by decide)) (Nat.mod_lt _ (by decide))
  rw [h, mul_two_pow_or, mul_two_pow_or, six_or _ (by omega) _ (by omega), hx, hy,
    mul_two_pow_or_eq_add _ 2 (by decide), mul_two_pow_or_eq_add _ 9 (by omega),
    mul_two_pow_or_eq_add _ 10 (by omega), mul_two_pow_or_eq_add _ 12 (by omega),
    and_ffff (by omega)]
  simp only [Nat.reducePow]
  omega

/-- **What a `C.SWSP` word keeps of the offset**: bit 4, and whether bit 2 or bit 5 is set; bits
3, 6 and 7 are lost.  Of the 64 offsets `encode_c_swsp` accepts, four words are made. -/
theorem encodeCSwsp_eq (rs2 imm : Int) (hrs2 : 0 ≤ rs2 ∧ rs2 ≤ 31)
    (himm : 0 ≤ imm ∧ imm ≤ 255 ∧ imm % 4 = 0) :
    encodeCSwsp rs2 imm = .ok (0x6402 + rs2.toNat * 4 + imm.toNat / 16 % 2 * 512 +
      (imm.toNat / 4 % 2 ||| imm.toNat / 32 % 2) * 4096) := by
  rw [encodeCSwsp, if_neg (by omega), if_neg (by omega)]
  dsimp only
  have h4 : (imm / 4 % 64).toNat = imm.toNat / 4 := by omega
  rw [swspWord_eq _ (by omega), h4, Nat.div_div_eq_div_mul, Nat.div_div_eq_div_mul]

/-- The offsets `4` and `32`, and `8` and `0`, give one word each. -/
example : encodeCSwsp 2 4 = encodeCSwsp 2 32 ∧ encodeCSwsp 2 8 = encodeCSwsp 2 0 := ⟨rfl, rfl⟩

/-- **Two branch offsets, one word**: `C.BEQZ` and `C.BNEZ` put bit 1 of the offset (bit 0 of
`imm_bits`) and bit 3 (bit 2 of `imm_bits`) both on bit 12, so an offset that is `2 mod 16`
and the offset six above it encode alike, for every register. -/
theorem encodeBranch_offset_collision (funct : Nat) (rs1 imm : Int) (hlo : -256 ≤ imm)
    (hhi : imm + 6 ≤ 255) (h16 : imm % 16 = 2) :
    encodeBranch funct rs1 (imm + 6) = encodeBranch funct rs1 imm := by
  unfold encodeBranch
  by_cases hrs : rs1 < 0 ∨ rs1 > 31
  · rw [if_pos hrs, if_pos hrs]
  rw [if_neg hrs, if_neg hrs, if_neg (by omega), if_neg (by omega)]
  dsimp only
  have hb : ((imm + 6) / 2 % 256).toNat = (imm / 2 % 256).toNat + 3 := by omega
  have h8 : (imm / 2 % 256).toNat % 8 = 1 := by omega
  rw [hb]
  generalize (imm / 2 % 256).toNat = b at h8 ⊢
  have e1 : (b + 3) &&& 0x1 = 0 := by rw [Nat.and_one_is_mod]; omega
  have e1' : b &&& 0x1 = 1 := by rw [Nat.and_one_is_mod]; omega
  have e6 : (b + 3) &&& 0x6 = 4 := by rw [and_mask _ 1 2 (show 0x6 = _ from rfl)]; omega
  have e6' : b &&& 0x6 = 0 := by rw [and_mask _ 1 2 (show 0x6 = _ from rfl)]; omega
  have e18 : (b + 3) &&& 0x18 = b &&& 0x18 := by
    rw [and_mask _ 3 2 (show 0x18 = _ from rfl), and_mask _ 3 2 (show 0x18 = _ from rfl)]; omega
  have eE0 : (b + 3) &&& 0xE0 = b &&& 0xE0 := by
    rw [and_mask _ 5 3 (show 0xE0 = _ from rfl), and_mask _ 5 3 (show 0xE0 = _ from rfl)]; omega
  rw [e1, e1', e6, e6', e18, eE0, show (4 : Nat) <<< 10 = 1 <<< 12 from rfl]
  simp only [Nat.zero_shiftLeft, Nat.or_zero]

/-- `C.BEQZ x9, 2` and `C.BEQZ x9, 8`. -/
example : encodeCBeqz 9 2 = encodeCBeqz 9 8 := rfl

end VmTools.Rvc
