import VmTools.Python

/-
# `parse_directory_record`

The decoder reads the record length at offset 0, then the extended-attribute length, the
extent at `[2,6)`, the data length at `[10,14)`, the identifier length at 32, the identifier
at `[33, 33+len)`, and the flags byte at 25.  The two 32-bit fields are read as

    struct.unpack('<I', record_data[2:6] + b'\x00\x00\x00\x00')[0]

and `'<I'` takes a buffer of exactly four bytes.  Padding the slice with four zero bytes makes
the buffer four bytes long only when the slice is empty, so on every record with at least
three bytes the first `struct.unpack` raises `struct.error`.  With one or two bytes the
decoder raises `IndexError` first.  So:

* `parseDirectoryRecord_eq_none_iff`: it returns `None` exactly on an empty buffer or a zero
  first byte, as documented;
* `parseDirectoryRecord_cons`: on every other buffer it raises;
* `parseDirectoryRecord_ne_some`: it never returns a record at all;
* `parseDirectoryRecord_encode`: in particular on the standard ISO 9660 encoding of every
  entry, where it raises `struct.error`.
-/

namespace VmTools.Iso

/-! ## 1. The record and its decoder -/

/-- The dictionary `parse_directory_record` returns. -/
structure DirRecord where
  name : String
  extent : Nat
  length : Nat
  isDir : Bool
  record : Bytes
  deriving DecidableEq, Repr

/-- `parse_directory_record(record_data)`; `none` is `None`.  The name is stripped after
decoding, and `is_dir` is bit 1 of the flags byte. -/
def parseDirectoryRecord (recordData : Bytes) : Except PyError (Option DirRecord) :=
  match recordData with
  | [] => .ok none
  | length :: _ =>
    if length = 0 then .ok none else do
      let _extAttrLength ← getItem recordData 1
      let extentLocation ← structUnpack 4 (slice recordData 2 6 ++ [0, 0, 0, 0])
      let dataLength ← structUnpack 4 (slice recordData 10 14 ++ [0, 0, 0, 0])
      let nameLength ← getItem recordData 32
      let name ← decodeAscii (slice recordData 33 (33 + nameLength.toNat))
      let flags ← getItem recordData 25
      pure (some { name := strip name, extent := extentLocation, length := dataLength,
                   isDir := flags &&& 0x02 != 0, record := slice recordData 0 length.toNat })

/-! ## 2. What it returns -/

/-- **A nonzero first byte makes the decoder raise**: `IndexError` on a buffer of one or two
bytes, `struct.error` on every longer one. -/
theorem parseDirectoryRecord_cons {x : UInt8} (t : Bytes) (hx : x ≠ 0) :
    parseDirectoryRecord (x :: t) =
      .error (if t.length < 2 then .indexError else .structError) := by
  match t with
  | [] => simp [parseDirectoryRecord, hx, getItem]
  | [y] => simp [parseDirectoryRecord, hx, getItem, slice, structUnpack]
  | y :: z :: u =>
    have h : slice (x :: y :: z :: u) 2 6 ≠ [] := by simp [slice]
    simp [parseDirectoryRecord, hx, getItem, structUnpack, h, show ¬ u.length + 2 < 2 by omega]

/-- `None` exactly on an empty buffer or a zero first byte, the padding marker. -/
theorem parseDirectoryRecord_eq_none_iff (b : Bytes) :
    parseDirectoryRecord b = .ok none ↔ b = [] ∨ b.head? = some 0 := by
  match b with
  | [] => simp [parseDirectoryRecord]
  | x :: t =>
    by_cases hx : x = 0
    · simp [parseDirectoryRecord, hx]
    · simp [parseDirectoryRecord_cons t hx, hx]

/-- What the decoder returns, when it returns, is `None`. -/
theorem eq_none_of_parseDirectoryRecord {b : Bytes} {r : Option DirRecord}
    (h : parseDirectoryRecord b = .ok r) : r = none := by
  match b with
  | [] => simpa [parseDirectoryRecord, eq_comm] using h
  | x :: t =>
    by_cases hx : x = 0
    · simpa [parseDirectoryRecord, hx, eq_comm] using h
    · simp [parseDirectoryRecord_cons t hx] at h

/-- **The decoder never returns a record**: each buffer gives `None` or an exception. -/
theorem parseDirectoryRecord_ne_some (b : Bytes) (r : DirRecord) :
    parseDirectoryRecord b ≠ .ok (some r) :=
  fun h => nomatch eq_none_of_parseDirectoryRecord h

/-! ## 3. The standard encoding -/

/-- The `w` little-endian bytes of `n`. -/
def leBytes : Nat → Nat → Bytes
  | 0, _ => []
  | w + 1, n => UInt8.ofNat (n % 256) :: leBytes w (n / 256)

@[simp] theorem length_leBytes (w n : Nat) : (leBytes w n).length = w := by
  induction w generalizing n with
  | zero => rfl
  | succ w ih => simp [leBytes, ih]

/-- The ISO 9660 directory record of extent `e`, data length `l`, flags `f` and identifier
`n`: both 32-bit fields stored both-endian, the recording date (7 bytes at `[18,25)`) and
the unit size, gap and volume sequence number (6 bytes at `[26,32)`) given as `date` and
`unit`, and a zero pad byte after an identifier of even length. -/
def encodeDirectoryRecord (e l : Nat) (f : UInt8) (n : List Char) (date unit : Bytes) : Bytes :=
  let pad := if n.length % 2 = 0 then 1 else 0
  [UInt8.ofNat (33 + n.length + pad), 0] ++ leBytes 4 e ++ (leBytes 4 e).reverse ++
    leBytes 4 l ++ (leBytes 4 l).reverse ++ date ++ [f] ++ unit ++ [UInt8.ofNat n.length] ++
    n.map (fun c => UInt8.ofNat c.toNat) ++ List.replicate pad 0

/-- **Every standard record makes the decoder raise `struct.error`**, whatever its extent,
length, flags and identifier, as long as its length byte fits a byte. -/
theorem parseDirectoryRecord_encode (e l : Nat) (f : UInt8) (n : List Char) (date unit : Bytes)
    (hn : n.length ≤ 221) :
    parseDirectoryRecord (encodeDirectoryRecord e l f n date unit) = .error .structError := by
  have hx : UInt8.ofNat (33 + n.length + if n.length % 2 = 0 then 1 else 0) ≠ 0 := by
    intro h
    have h' := congrArg UInt8.toNat h
    rw [UInt8.toNat_ofNat_of_lt (by split_ifs <;> simp [UInt8.size] <;> omega)] at h'
    split_ifs at h' <;> simp at h'
  simp only [encodeDirectoryRecord, List.cons_append, List.singleton_append]
  rw [parseDirectoryRecord_cons _ hx, if_neg (by simp; omega)]

/-- The root directory of an image with block size 2048 at extent 18: the decoder raises. -/
theorem parseDirectoryRecord_encode_root :
    (['\x00'] : List Char).length ≤ 221 ∧
      parseDirectoryRecord (encodeDirectoryRecord 18 2048 2 ['\x00'] [0, 0, 0, 0, 0, 0, 0] [0, 0, 1, 0, 0, 1]) =
        .error .structError :=
  ⟨by decide, parseDirectoryRecord_encode 18 2048 2 ['\x00'] _ _ (by decide)⟩

end VmTools.Iso
