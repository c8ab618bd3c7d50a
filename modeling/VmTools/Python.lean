import Mathlib.Data.List.Infix
import Mathlib.Data.List.Basic

/-
# The Python the scripts run on

`extract_kernel.py`, `scripts/cleanup_todos.py` and `fix_if_same_then_else.py` are short,
and nearly every line of them calls a Python primitive whose edge cases decide what they do:
slicing clamps instead of failing and counts a negative bound from the end, `b[i]` raises past
the end, `struct.unpack` insists on an exact buffer size, `.decode('ascii')` raises on a high
byte, `x % 0` raises, `input()` raises at the end of its input.  This file fixes each
primitive once, as Python 3 defines it, so the modules above it translate the scripts line by
line.

A call of the scripts ends in one of three ways, and `Outcome` keeps them apart: it returns,
it raises, or (for the one `while` loop that can spin, in `find_file_in_path`) it has not
ended within the fuel the model was given.  Total code is written in `Except PyError`, and
`Outcome.ofExcept` lifts it.
-/

namespace VmTools

/-! ## 1. Exceptions and outcomes -/

/-- The exceptions the modelled code raises on its own inputs. -/
inductive PyError where
  /-- `b[i]` past the end of `b`. -/
  | indexError
  /-- `struct.unpack` given a buffer whose size is not the format's. -/
  | structError
  /-- `.decode('ascii')` of a byte `≥ 0x80`. -/
  | unicodeDecodeError
  /-- `x % 0`. -/
  | zeroDivisionError
  /-- `None['is_dir']`. -/
  | typeError
  /-- `input()` after the last line of input. -/
  | eofError
  /-- `re.error`: a replacement template `re` cannot parse. -/
  | reError
  /-- `open` or `shutil.copy2` of a file that does not exist. -/
  | fileNotFoundError
  deriving DecidableEq, Repr

/-- How a call ends: it returns, it raises, or it has not ended within the fuel given. -/
inductive Outcome (α : Type) where
  | ret : α → Outcome α
  | raise : PyError → Outcome α
  | unfinished : Outcome α
  deriving DecidableEq, Repr

namespace Outcome

variable {α β : Type}

/-- Sequencing: an exception or an unfinished loop ends the rest of the call. -/
def bind : Outcome α → (α → Outcome β) → Outcome β
  | ret a, f => f a
  | raise e, _ => raise e
  | unfinished, _ => unfinished

instance : Monad Outcome where
  pure := ret
  bind := bind

/-- Total code run inside a call. -/
def ofExcept : Except PyError α → Outcome α
  | .ok a => ret a
  | .error e => raise e

@[simp] theorem pure_eq (a : α) : (pure a : Outcome α) = ret a := rfl

@[simp] theorem ret_bind (a : α) (f : α → Outcome β) : (ret a >>= f) = f a := rfl

@[simp] theorem raise_bind (e : PyError) (f : α → Outcome β) : (raise e >>= f) = raise e := rfl

@[simp] theorem unfinished_bind (f : α → Outcome β) : (unfinished >>= f) = unfinished := rfl

@[simp] theorem ofExcept_ok (a : α) : ofExcept (.ok a : Except PyError α) = ret a := rfl

@[simp] theorem ofExcept_error (e : PyError) : ofExcept (.error e : Except PyError α) = raise e :=
  rfl

end Outcome

section Except

variable {ε α β : Type}

@[simp] theorem except_ok_bind (a : α) (f : α → Except ε β) :
    ((Except.ok a : Except ε α) >>= f) = f a := rfl

@[simp] theorem except_error_bind (e : ε) (f : α → Except ε β) :
    ((Except.error e : Except ε α) >>= f) = Except.error e := rfl

@[simp] theorem except_pure (a : α) : (pure a : Except ε α) = Except.ok a := rfl

@[simp] theorem except_map_ok (f : α → β) (a : α) :
    (Except.ok a : Except ε α).map f = .ok (f a) :=
  rfl

@[simp] theorem except_map_error (f : α → β) (e : ε) :
    (Except.error e : Except ε α).map f = .error e := rfl

/-- Peel one step of an `Except` computation that returned. -/
theorem except_bind_eq_ok {x : Except ε α} {f : α → Except ε β} {b : β}
    (h : (x >>= f) = .ok b) : ∃ a, x = .ok a ∧ f a = .ok b := by
  cases x with
  | error e => cases h
  | ok a => exact ⟨a, rfl, h⟩

end Except

/-! ## 2. Bytes -/

/-- A Python `bytes` value. -/
abbrev Bytes := List UInt8

/-- `b[lo:hi]` for indices `≥ 0`: both ends are clamped to the buffer, and `hi ≤ lo` gives
the empty slice.  Slicing never raises. -/
def slice (b : Bytes) (lo hi : Nat) : Bytes := (b.drop lo).take (hi - lo)

/-- `b[i]` for an index `≥ 0`. -/
def getItem (b : Bytes) (i : Nat) : Except PyError UInt8 :=
  match b[i]? with
  | some x => .ok x
  | none => .error .indexError

/-- The natural number whose little-endian bytes are `b`. -/
def leNat : Bytes → Nat
  | [] => 0
  | x :: t => x.toNat + 256 * leNat t

/-- `struct.unpack('<I', b)[0]` (`size = 4`) and `struct.unpack('<H', b)[0]` (`size = 2`):
the buffer must hold exactly `size` bytes. -/
def structUnpack (size : Nat) (b : Bytes) : Except PyError Nat :=
  if b.length = size then .ok (leNat b) else .error .structError

/-- `b.decode('ascii')`. -/
def decodeAscii (b : Bytes) : Except PyError String :=
  if b.all (· < 128) then .ok ⟨b.map fun x => Char.ofNat x.toNat⟩ else .error .unicodeDecodeError

/-- Python's `a % b` on naturals. -/
def pyMod (a b : Nat) : Except PyError Nat :=
  if b = 0 then .error .zeroDivisionError else .ok (a % b)

/-- The least `p` with `needle` a prefix of `hay.drop p`. -/
def findIdx (hay needle : Bytes) : Option Nat :=
  if needle.isPrefixOf hay then some 0 else
    match hay with
    | [] => none
    | _ :: t => (findIdx t needle).map (· + 1)

/-- `hay.find(needle)`: the least offset of `needle` in `hay`, or `-1`. -/
def bytesFind (hay needle : Bytes) : Int :=
  match findIdx hay needle with
  | some p => p
  | none => -1

@[simp] theorem leNat_nil : leNat [] = 0 := rfl

@[simp] theorem leNat_cons (x : UInt8) (t : Bytes) : leNat (x :: t) = x.toNat + 256 * leNat t :=
  rfl

theorem length_slice (b : Bytes) (lo hi : Nat) :
    (slice b lo hi).length = min (hi - lo) (b.length - lo) := by
  simp [slice]

theorem slice_eq_take_drop (b : Bytes) (lo n : Nat) : slice b lo (lo + n) = (b.drop lo).take n := by
  simp [slice]

/-- Clamping: a slice inside the buffer has exactly the length asked for. -/
theorem length_slice_of_le {b : Bytes} {lo hi : Nat} (h : hi ≤ b.length) :
    (slice b lo hi).length = hi - lo := by
  rw [length_slice]; omega

theorem getElem?_slice (b : Bytes) (lo hi i : Nat) :
    (slice b lo hi)[i]? = if i < hi - lo then b[lo + i]? else none := by
  split_ifs with h
  · simp [slice, List.getElem?_take_of_lt h, List.getElem?_drop]
  · simp [slice, List.getElem?_eq_none, h]; omega

/-- A slice of a slice, when the inner one is asked for no more than the outer one holds. -/
theorem slice_slice (b : Bytes) {lo hi a c : Nat} (h : c ≤ hi - lo) :
    slice (slice b lo hi) a c = slice b (lo + a) (lo + c) := by
  simp only [slice, List.drop_take, List.take_take, List.drop_drop]
  congr 1; omega

theorem slice_append (b : Bytes) {lo mid hi : Nat} (h₁ : lo ≤ mid) (h₂ : mid ≤ hi) :
    slice b lo mid ++ slice b mid hi = slice b lo hi := by
  have h : hi - lo = (mid - lo) + (hi - mid) := by omega
  rw [slice, slice, slice, h, List.take_add, List.drop_drop]
  congr 3; omega

/-- Indexing past a prefix. -/
theorem getElem?_append_length (pre b : Bytes) (i : Nat) : (pre ++ b)[pre.length + i]? = b[i]? := by
  rw [List.getElem?_append_right (by omega), Nat.add_sub_cancel_left]

/-- Slicing past a prefix. -/
theorem slice_append_length (pre b : Bytes) (lo hi : Nat) :
    slice (pre ++ b) (pre.length + lo) (pre.length + hi) = slice b lo hi := by
  simp [slice, List.drop_append_eq_append_drop, Nat.add_sub_add_left,
    List.drop_eq_nil_of_le (show pre.length ≤ pre.length + lo by omega)]

theorem getItem_eq_ok_iff {b : Bytes} {i : Nat} {x : UInt8} :
    getItem b i = .ok x ↔ b[i]? = some x := by
  cases h : b[i]? <;> simp [getItem, h]

theorem getItem_of_lt {b : Bytes} {i : Nat} (h : i < b.length) : getItem b i = .ok b[i] := by
  simp [getItem, h]

theorem getItem_of_le {b : Bytes} {i : Nat} (h : b.length ≤ i) :
    getItem b i = .error .indexError := by
  simp [getItem, List.getElem?_eq_none h]

theorem structUnpack_eq_ok_iff {size : Nat} {b : Bytes} {n : Nat} :
    structUnpack size b = .ok n ↔ b.length = size ∧ leNat b = n := by
  unfold structUnpack
  split <;> simp_all

theorem decodeAscii_of_forall {b : Bytes} (h : ∀ x ∈ b, x < 128) :
    decodeAscii b = .ok ⟨b.map fun x => Char.ofNat x.toNat⟩ := by
  have : b.all (· < 128) = true := List.all_eq_true.mpr fun x hx => decide_eq_true (h x hx)
  simp [decodeAscii, this]

theorem decodeAscii_of_exists {b : Bytes} (h : ∃ x ∈ b, ¬ x < 128) :
    decodeAscii b = .error .unicodeDecodeError := by
  obtain ⟨x, hx, hlt⟩ := h
  have : b.all (· < 128) = false :=
    Bool.eq_false_iff.mpr fun hall => hlt (of_decide_eq_true (List.all_eq_true.mp hall x hx))
  simp [decodeAscii, this]

/-- A decode inside a computation: it raises on a non-ASCII byte, else goes on. -/
theorem decodeAscii_bind {α : Type} (b : Bytes) (f : String → Except PyError α) :
    (decodeAscii b >>= f) =
      if b.all (· < 128) then f ⟨b.map fun x => Char.ofNat x.toNat⟩
      else .error .unicodeDecodeError := by
  unfold decodeAscii; split <;> rfl

/-- An unpack inside a computation. -/
theorem structUnpack_bind {α : Type} (size : Nat) (b : Bytes) (f : Nat → Except PyError α) :
    (structUnpack size b >>= f) = if b.length = size then f (leNat b) else .error .structError := by
  unfold structUnpack; split <;> rfl

/-! ## 3. `bytes.find` -/

/-- What `findIdx` returns is an occurrence, and no earlier offset holds one. -/
theorem findIdx_some {needle : Bytes} :
    ∀ {hay : Bytes} {p : Nat}, findIdx hay needle = some p →
      needle <+: hay.drop p ∧ ∀ q < p, ¬ needle <+: hay.drop q := by
  intro hay
  induction hay with
  | nil =>
    intro p h
    rw [findIdx] at h
    split at h
    · cases h; exact ⟨List.isPrefixOf_iff_prefix.mp ‹_›, by simp⟩
    · cases h
  | cons x t ih =>
    intro p h
    rw [findIdx] at h
    split at h
    · cases h; exact ⟨List.isPrefixOf_iff_prefix.mp ‹_›, by simp⟩
    · rename_i hf
      obtain ⟨p', hp', rfl⟩ := Option.map_eq_some'.mp h
      obtain ⟨h1, h2⟩ := ih hp'
      refine ⟨by simpa using h1, fun q hq => ?_⟩
      cases q with
      | zero => exact fun hq' => hf (List.isPrefixOf_iff_prefix.mpr (by simpa using hq'))
      | succ q => simpa using h2 q (by omega)

/-- When `findIdx` finds nothing, there is no occurrence. -/
theorem findIdx_none {needle : Bytes} :
    ∀ {hay : Bytes}, findIdx hay needle = none → ∀ p, ¬ needle <+: hay.drop p := by
  intro hay
  induction hay with
  | nil =>
    intro h p hp
    rw [findIdx] at h
    split at h
    · cases h
    · rename_i hf; exact hf (List.isPrefixOf_iff_prefix.mpr (by simpa using hp))
  | cons x t ih =>
    intro h p hp
    rw [findIdx] at h
    split at h
    · cases h
    · rename_i hf
      cases p with
      | zero => exact hf (List.isPrefixOf_iff_prefix.mpr (by simpa using hp))
      | succ p => exact ih (Option.map_eq_none'.mp h) p (by simpa using hp)

theorem findIdx_eq_some_iff {needle hay : Bytes} {p : Nat} :
    findIdx hay needle = some p ↔
      needle <+: hay.drop p ∧ ∀ q < p, ¬ needle <+: hay.drop q := by
  refine ⟨findIdx_some, fun ⟨hp, hq⟩ => ?_⟩
  cases hf : findIdx hay needle with
  | none => exact absurd hp (findIdx_none hf p)
  | some p' =>
    obtain ⟨hp', hq'⟩ := findIdx_some hf
    rcases Nat.lt_trichotomy p' p with h | h | h
    · exact absurd hp' (hq p' h)
    · rw [h]
    · exact absurd hp (hq' p h)

/-- An occurrence of `needle` at `p`, in the terms of the source: `hay[p:p+len] == needle`. -/
theorem slice_eq_iff_prefix_drop {hay needle : Bytes} {p : Nat} :
    slice hay p (p + needle.length) = needle ↔ needle <+: hay.drop p := by
  rw [slice_eq_take_drop, List.prefix_iff_eq_take, eq_comm]

/-! ## 4. `str` -/

/-- `c.isspace()`: what `str.strip()` removes and what `\s` matches in a `str` pattern. -/
def isSpace (c : Char) : Bool :=
  let n := c.toNat
  (9 ≤ n && n ≤ 13) || (28 ≤ n && n ≤ 32) || n == 0x85 || n == 0xa0 || n == 0x1680 ||
    (0x2000 ≤ n && n ≤ 0x200a) || n == 0x2028 || n == 0x2029 || n == 0x202f || n == 0x205f ||
    n == 0x3000

/-- `s.strip()` on the characters of a string. -/
def stripChars (s : List Char) : List Char :=
  ((s.dropWhile isSpace).reverse.dropWhile isSpace).reverse

/-- `s.strip()`. -/
def strip (s : String) : String := ⟨stripChars s.data⟩

theorem stripChars_singleton {c : Char} (hc : isSpace c = false) : stripChars [c] = [c] := by
  simp [stripChars, hc]

/-- Stripping keeps a piece that starts with a non-blank, after blanks only and before a
non-blank somewhere: it is where the stripped string starts. -/
theorem stripChars_prefix {ws a b : List Char} (hws : ∀ c ∈ ws, isSpace c = true)
    (ha : ∀ c ∈ a.head?, isSpace c = false) (hb : ∃ c ∈ b, isSpace c = false) :
    a <+: stripChars (ws ++ a ++ b) := by
  cases a with
  | nil => exact List.nil_prefix
  | cons c a =>
    have hlead : (ws ++ (c :: a) ++ b).dropWhile isSpace = c :: a ++ b := by
      rw [List.append_assoc, List.dropWhile_append,
        if_pos (by simpa [List.dropWhile_eq_nil_iff] using hws), List.cons_append,
        List.dropWhile_cons_of_neg (by simp [ha c rfl])]
    have htrail : (b.reverse.dropWhile isSpace).isEmpty = false := by
      obtain ⟨d, hd, hds⟩ := hb
      rw [Bool.eq_false_iff, ne_eq, List.isEmpty_iff, List.dropWhile_eq_nil_iff]
      exact fun h => by simpa [hds] using h d (List.mem_reverse.mpr hd)
    rw [stripChars, hlead, List.reverse_append, List.dropWhile_append, htrail,
      if_neg Bool.false_ne_true, List.reverse_append, List.reverse_reverse]
    exact List.prefix_append _ _

/-! ## 5. Lists -/

/-- Where `a[:n]` and `a[n:]` cut a list of length `len`: a negative `n` counts from the end,
and the cut is clamped to `[0, len]`. -/
def sliceIndex (n : Int) (len : Nat) : Nat :=
  if n < 0 then (len + n).toNat else min n.toNat len

/-- A bound `≥ 0` inside the list cuts where it says. -/
theorem sliceIndex_of_le {n len : Nat} (h : n ≤ len) : sliceIndex n len = n := by
  rw [sliceIndex, if_neg (by omega)]
  simp [h]

end VmTools
