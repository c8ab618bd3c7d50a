import VmTools.Python

/-
# `parse_iso9660_primary_volume_descriptor`

The scanner starts at byte `0x8000` and reads one 2048-byte descriptor sector after another:
type `1` is the primary descriptor, whose fields it reads and returns, type `255` is the
set terminator, which ends the scan with `(None, None)`, and every other type (`0` boot
record, `2` supplementary, `3` partition, ...) falls through to the next sector.

The loop has no test for the end of the image.  Past the end, `descriptor` is the empty
slice and `descriptor[0]` raises `IndexError`; so the scan always ends, but it returns
`(None, None)` only at a terminator.  The primary branch raises as well when its identifier
bytes `[8,72)` are not ASCII, or when the image stops before byte 136 of the descriptor and
a `struct.unpack` gets a short buffer.

* `scanDescriptors_outcome`: whatever the image, the scan stops at the first sector whose
  type is `1` or `255` or that the image does not reach, and that sector alone decides the
  result;
* `parsePrimary_eq`: the primary branch in closed form;
* `parseIso9660PrimaryVolumeDescriptor_returns` and `parseIso9660PrimaryVolumeDescriptor_outcome`:
  the two readings of those facts that the rest of the development uses.
-/

namespace VmTools.Iso

/-! ## 1. The scanner -/

/-- The fields the primary branch reads, in source order.  The two identifiers are decoded
(and stripped, which cannot raise), the five integers unpacked; only the root record's bytes
and the logical block size are returned. -/
def parsePrimary (pvd : Bytes) : Except PyError (Bytes × Nat) := do
  let _systemId ← decodeAscii (slice pvd 8 40)
  let _volumeId ← decodeAscii (slice pvd 40 72)
  let _volumeSpaceSize ← structUnpack 4 (slice pvd 80 84)
  let _volumeSetSize ← structUnpack 2 (slice pvd 120 122)
  let _volumeSequenceNumber ← structUnpack 2 (slice pvd 124 126)
  let logicalBlockSize ← structUnpack 2 (slice pvd 128 130)
  let _pathTableSize ← structUnpack 4 (slice pvd 132 136)
  pure (slice pvd 156 190, logicalBlockSize)

/-- The `while True` loop from `offset` on.  Type `0` is `pass`, which falls through to
`offset += 2048` as every unlisted type does. -/
def scanDescriptors (iso : Bytes) (offset : Nat) : Except PyError (Option (Bytes × Nat)) :=
  match h : slice iso offset (offset + 2048) with
  | [] => .error .indexError
  | typeCode :: _ =>
    if typeCode = 1 then (parsePrimary (slice iso offset (offset + 2048))).map some
    else if typeCode = 255 then .ok none
    else scanDescriptors iso (offset + 2048)
termination_by (iso.drop offset).length
decreasing_by
  have : (slice iso offset (offset + 2048)).length ≠ 0 := by simp [h]
  rw [length_slice] at this
  simp only [List.length_drop]
  omega

/-- `parse_iso9660_primary_volume_descriptor(iso_data)`: `some (root, block size)` is the
tuple it returns, `none` is `(None, None)`. -/
def parseIso9660PrimaryVolumeDescriptor (iso : Bytes) : Except PyError (Option (Bytes × Nat)) :=
  scanDescriptors iso 0x8000

/-- The byte offset of the `k`-th descriptor sector. -/
def descriptorOffset (k : Nat) : Nat := 0x8000 + 2048 * k

/-- The type byte of the `k`-th descriptor sector, if the image reaches it. -/
def descriptorType (iso : Bytes) (k : Nat) : Option UInt8 := iso[descriptorOffset k]?

/-! ## 2. One step of the scan -/

/-- The loop's body, read off the image byte at `offset` rather than off the slice. -/
theorem scanDescriptors_eq (iso : Bytes) (offset : Nat) :
    scanDescriptors iso offset =
      match iso[offset]? with
      | none => .error .indexError
      | some t =>
        if t = 1 then (parsePrimary (slice iso offset (offset + 2048))).map some
        else if t = 255 then .ok none
        else scanDescriptors iso (offset + 2048) := by
  have hhead : iso[offset]? = (slice iso offset (offset + 2048)).head? := by
    simp [List.head?_eq_getElem?, getElem?_slice]
  rw [hhead, scanDescriptors]
  split <;> rename_i h <;> simp [h]

/-- **The scan, whatever the image.**  From `offset` on there is a first sector that is
primary, a terminator, or past the end; every sector before it has another type, and that
sector alone decides the result. -/
theorem scanDescriptors_outcome (iso : Bytes) (offset : Nat) :
    ∃ k, (∀ j < k, ∃ t, iso[offset + 2048 * j]? = some t ∧ t ≠ 1 ∧ t ≠ 255) ∧
      (iso[offset + 2048 * k]? = none ∧ scanDescriptors iso offset = .error .indexError ∨
       iso[offset + 2048 * k]? = some 255 ∧ scanDescriptors iso offset = .ok none ∨
       iso[offset + 2048 * k]? = some 1 ∧ scanDescriptors iso offset =
         (parsePrimary (slice iso (offset + 2048 * k) (offset + 2048 * k + 2048))).map some) := by
  generalize h : iso.length - offset = n
  induction n using Nat.strong_induction_on generalizing offset with
  | _ n ih =>
    rw [scanDescriptors_eq]
    cases ht : iso[offset]? with
    | none => exact ⟨0, by simp, .inl ⟨by simpa using ht, rfl⟩⟩
    | some t =>
      by_cases h1 : t = 1
      · subst h1; exact ⟨0, by simp, .inr (.inr ⟨by simpa using ht, by simp⟩)⟩
      by_cases h255 : t = 255
      · subst h255; exact ⟨0, by simp, .inr (.inl ⟨by simpa using ht, by simp⟩)⟩
      have hlt : offset < iso.length := (List.getElem?_eq_some_iff.mp ht).1
      obtain ⟨k, hbefore, hk⟩ :=
        ih (iso.length - (offset + 2048)) (by omega) (offset + 2048) rfl
      have hidx : ∀ j, offset + 2048 + 2048 * j = offset + 2048 * (j + 1) := fun j => by omega
      simp only [h1, h255, if_false, hidx] at hk ⊢
      refine ⟨k + 1, fun j hj => ?_, hk⟩
      cases j with
      | zero => exact ⟨t, by simpa using ht, h1, h255⟩
      | succ j => simpa [hidx] using hbefore j (by omega)

/-! ## 3. The primary branch -/

/-- **The primary branch in closed form**: it raises `UnicodeDecodeError` on a non-ASCII
identifier byte in `[8,72)`, `struct.error` when the descriptor stops before byte 136, and
otherwise returns the root record's bytes and the block size. -/
theorem parsePrimary_eq (d : Bytes) :
    parsePrimary d =
      if (slice d 8 72).all (· < 128) then
        if d.length < 136 then .error .structError
        else .ok (slice d 156 190, leNat (slice d 128 130))
      else .error .unicodeDecodeError := by
  rw [← slice_append d (show 8 ≤ 40 by omega) (show 40 ≤ 72 by omega), List.all_append]
  simp only [parsePrimary, decodeAscii_bind, structUnpack_bind, length_slice, Bool.and_eq_true]
  by_cases ha : (slice d 8 40).all (· < 128) = true
  · by_cases hb : (slice d 40 72).all (· < 128) = true
    · -- both identifiers decode: the unpacks fail exactly when a field runs past the end
      rw [if_pos ha, if_pos hb, if_pos (And.intro ha hb)]
      by_cases hl : d.length < 136
      · rw [if_pos hl]
        split_ifs <;> first | rfl | omega
      · rw [if_neg hl, if_pos (by omega), if_pos (by omega), if_pos (by omega), if_pos (by omega),
          if_pos (by omega)]
        rfl
    · rw [if_pos ha, if_neg hb, if_neg fun h => hb h.2]
  · rw [if_neg ha, if_neg fun h => ha h.1]

/-- The primary branch on the descriptor sector at `p`, in image coordinates. -/
theorem parsePrimary_slice (iso : Bytes) (p : Nat) :
    parsePrimary (slice iso p (p + 2048)) =
      if (slice iso (p + 8) (p + 72)).all (· < 128) then
        if iso.length < p + 136 then .error .structError
        else .ok (slice iso (p + 156) (p + 190), leNat (slice iso (p + 128) (p + 130)))
      else .error .unicodeDecodeError := by
  have hlen : (slice iso p (p + 2048)).length < 136 ↔ iso.length < p + 136 := by
    rw [length_slice]; omega
  simp only [parsePrimary_eq, hlen, slice_slice iso (show 72 ≤ p + 2048 - p by omega),
    slice_slice iso (show 190 ≤ p + 2048 - p by omega),
    slice_slice iso (show 130 ≤ p + 2048 - p by omega)]

/-! ## 4. What the scan returns -/

/-- **Whatever the image, the scan ends**, at `k`, the first descriptor sector that is a
primary descriptor, a terminator, or past the end of the image; every earlier sector has
some other type.  Past the end it raises `IndexError`, at a terminator it returns
`(None, None)`, and at a primary descriptor it raises on a non-ASCII identifier byte or on
a descriptor cut before byte 136, and otherwise returns the root record and block size. -/
theorem parseIso9660PrimaryVolumeDescriptor_outcome (iso : Bytes) :
    ∃ k, (∀ j < k, ∃ t, descriptorType iso j = some t ∧ t ≠ 1 ∧ t ≠ 255) ∧
      (descriptorType iso k = none ∧
          parseIso9660PrimaryVolumeDescriptor iso = .error .indexError ∨
        descriptorType iso k = some 255 ∧ parseIso9660PrimaryVolumeDescriptor iso = .ok none ∨
        descriptorType iso k = some 1 ∧ parseIso9660PrimaryVolumeDescriptor iso =
          if (slice iso (descriptorOffset k + 8) (descriptorOffset k + 72)).all (· < 128) then
            if iso.length < descriptorOffset k + 136 then .error .structError
            else .ok (some (slice iso (descriptorOffset k + 156) (descriptorOffset k + 190),
              leNat (slice iso (descriptorOffset k + 128) (descriptorOffset k + 130))))
          else .error .unicodeDecodeError) := by
  obtain ⟨k, hbefore, hk⟩ := scanDescriptors_outcome iso 0x8000
  refine ⟨k, hbefore, ?_⟩
  simp only [parseIso9660PrimaryVolumeDescriptor, descriptorType, descriptorOffset]
  rcases hk with hk | hk | ⟨ht, hk⟩
  · exact .inl hk
  · exact .inr (.inl hk)
  · refine .inr (.inr ⟨ht, ?_⟩)
    rw [hk, parsePrimary_slice]
    split_ifs <;> rfl

/-- Sectors of other types before the `k`-th are skipped. -/
theorem scanDescriptors_skip (iso : Bytes) (offset k : Nat)
    (hbefore : ∀ j < k, ∃ t, iso[offset + 2048 * j]? = some t ∧ t ≠ 1 ∧ t ≠ 255) :
    scanDescriptors iso offset = scanDescriptors iso (offset + 2048 * k) := by
  induction k generalizing offset with
  | zero => rfl
  | succ k ih =>
    obtain ⟨t, ht, h1, h255⟩ := hbefore 0 (Nat.succ_pos k)
    have hnext :
        ∀ j < k, ∃ t, iso[offset + 2048 + 2048 * j]? = some t ∧ t ≠ 1 ∧ t ≠ 255 :=
      fun j hj => by simpa [show offset + 2048 + 2048 * j = offset + 2048 * (j + 1) by omega]
        using hbefore (j + 1) (by omega)
    rw [Nat.mul_zero, Nat.add_zero] at ht
    rw [scanDescriptors_eq, ht]
    simp only [h1, h255, if_false]
    rw [ih (offset + 2048) hnext, show offset + 2048 + 2048 * k = offset + 2048 * (k + 1) by omega]

/-- At a primary descriptor reached after sectors of other types, the scan is the primary
branch there. -/
theorem parseIso9660PrimaryVolumeDescriptor_primary {iso : Bytes} {k : Nat}
    (hbefore : ∀ j < k, ∃ t, descriptorType iso j = some t ∧ t ≠ 1 ∧ t ≠ 255)
    (hk : descriptorType iso k = some 1) :
    parseIso9660PrimaryVolumeDescriptor iso =
      (parsePrimary (slice iso (descriptorOffset k) (descriptorOffset k + 2048))).map some := by
  rw [parseIso9660PrimaryVolumeDescriptor, scanDescriptors_skip iso 0x8000 k hbefore,
    scanDescriptors_eq]
  simp only [descriptorType, descriptorOffset] at hk
  simp [hk, descriptorOffset]

/-- The empty image: the scan indexes an empty descriptor. -/
theorem parseIso9660PrimaryVolumeDescriptor_empty :
    parseIso9660PrimaryVolumeDescriptor [] = .error .indexError := by
  rw [parseIso9660PrimaryVolumeDescriptor, scanDescriptors_eq]; rfl

/-- **A scan that returns** stopped at the first sector of type `1` or `255`, after sectors
of other types only: at a primary descriptor it returns that descriptor's bytes `[156,190)`
and the little-endian block size at `[128,130)`, and at a terminator `(None, None)`. -/
theorem parseIso9660PrimaryVolumeDescriptor_returns {iso : Bytes} {r : Option (Bytes × Nat)}
    (h : parseIso9660PrimaryVolumeDescriptor iso = .ok r) :
    ∃ k t, descriptorType iso k = some t ∧ (t = 1 ∨ t = 255) ∧
      (∀ j < k, ∃ t', descriptorType iso j = some t' ∧ t' ≠ 1 ∧ t' ≠ 255) ∧
      (t = 1 → r = some (slice iso (descriptorOffset k + 156) (descriptorOffset k + 190),
        leNat (slice iso (descriptorOffset k + 128) (descriptorOffset k + 130)))) ∧
      (t = 255 → r = none) := by
  obtain ⟨k, hbefore, hk⟩ := scanDescriptors_outcome iso 0x8000
  simp only [parseIso9660PrimaryVolumeDescriptor] at h
  rcases hk with ⟨-, hk⟩ | ⟨ht, hk⟩ | ⟨ht, hk⟩
  · rw [hk] at h; cases h
  · rw [hk] at h; cases h
    exact ⟨k, 255, ht, .inr rfl, hbefore, fun h => absurd h (by decide), fun _ => rfl⟩
  · rw [hk, parsePrimary_slice] at h
    refine ⟨k, 1, ht, .inl rfl, hbefore, fun _ => ?_, fun h => absurd h (by decide)⟩
    split_ifs at h <;> simp only [Except.map, Except.ok.injEq, reduceCtorEq] at h
    exact h.symm

/-- A boot record at `0x8000`, then a primary descriptor of zeros cut after its root record. -/
def bootThenPrimary : Bytes := List.replicate 0x8800 0 ++ ([1] ++ List.replicate 189 0)

/-- The theorem at two images: one holding only a terminator at `0x8000`, where the scan
returns `(None, None)`, and `bootThenPrimary`, where it skips the boot record and returns the
fields of the primary descriptor after it. -/
theorem parseIso9660PrimaryVolumeDescriptor_samples :
    (parseIso9660PrimaryVolumeDescriptor (List.replicate 0x8000 0 ++ [255]) = .ok none ∧
      ∃ k t, descriptorType (List.replicate 0x8000 0 ++ [255]) k = some t ∧ (t = 1 ∨ t = 255) ∧
        (∀ j < k, ∃ t', descriptorType (List.replicate 0x8000 0 ++ [255]) j = some t' ∧
          t' ≠ 1 ∧ t' ≠ 255) ∧
        (t = 1 → (none : Option (Bytes × Nat)) =
          some (slice (List.replicate 0x8000 0 ++ [255]) (descriptorOffset k + 156)
            (descriptorOffset k + 190), leNat (slice (List.replicate 0x8000 0 ++ [255])
              (descriptorOffset k + 128) (descriptorOffset k + 130)))) ∧
        (t = 255 → (none : Option (Bytes × Nat)) = none)) ∧
    (parseIso9660PrimaryVolumeDescriptor bootThenPrimary =
        .ok (some (slice bootThenPrimary (descriptorOffset 1 + 156) (descriptorOffset 1 + 190),
          leNat (slice bootThenPrimary (descriptorOffset 1 + 128) (descriptorOffset 1 + 130)))) ∧
      ∃ k t, descriptorType bootThenPrimary k = some t ∧ (t = 1 ∨ t = 255) ∧
        (∀ j < k, ∃ t', descriptorType bootThenPrimary j = some t' ∧ t' ≠ 1 ∧ t' ≠ 255) ∧
        (t = 1 → some (slice bootThenPrimary (descriptorOffset 1 + 156) (descriptorOffset 1 + 190),
            leNat (slice bootThenPrimary (descriptorOffset 1 + 128) (descriptorOffset 1 + 130))) =
          some (slice bootThenPrimary (descriptorOffset k + 156) (descriptorOffset k + 190),
            leNat (slice bootThenPrimary (descriptorOffset k + 128) (descriptorOffset k + 130)))) ∧
        (t = 255 → some (slice bootThenPrimary (descriptorOffset 1 + 156)
            (descriptorOffset 1 + 190), leNat (slice bootThenPrimary (descriptorOffset 1 + 128)
              (descriptorOffset 1 + 130))) = none)) := by
  have hterm :
      parseIso9660PrimaryVolumeDescriptor (List.replicate 0x8000 0 ++ [255]) = .ok none := by
    have hget : (List.replicate 0x8000 (0 : UInt8) ++ [255])[0x8000]? = some 255 := by
      rw [List.getElem?_append_right (by rw [List.length_replicate]), List.length_replicate,
        Nat.sub_self]
      rfl
    rw [parseIso9660PrimaryVolumeDescriptor, scanDescriptors_eq, hget]
    rfl
  have hpre : (List.replicate 0x8800 (0 : UInt8)).length = descriptorOffset 1 :=
    List.length_replicate _ _
  have hboot : descriptorType bootThenPrimary 0 = some 0 := by
    have hlt : descriptorOffset 0 < 0x8800 := by decide
    rw [descriptorType, bootThenPrimary,
      List.getElem?_append_left (by rw [List.length_replicate]; exact hlt), List.getElem?_replicate,
      if_pos hlt]
  have hprimary : descriptorType bootThenPrimary 1 = some 1 := by
    rw [descriptorType, bootThenPrimary, ← hpre, ← Nat.add_zero (List.length _),
      getElem?_append_length, List.singleton_append, List.getElem?_cons_zero]
  have hascii :
      (slice bootThenPrimary (descriptorOffset 1 + 8) (descriptorOffset 1 + 72)).all (· < 128) := by
    rw [bootThenPrimary, ← hpre, slice_append_length]
    decide
  have hlen : ¬ bootThenPrimary.length < descriptorOffset 1 + 136 := by
    rw [bootThenPrimary, List.length_append, List.length_replicate, List.length_append,
      List.length_replicate, descriptorOffset]
    decide
  have hskip : parseIso9660PrimaryVolumeDescriptor bootThenPrimary =
      .ok (some (slice bootThenPrimary (descriptorOffset 1 + 156) (descriptorOffset 1 + 190),
        leNat (slice bootThenPrimary (descriptorOffset 1 + 128) (descriptorOffset 1 + 130)))) := by
    rw [parseIso9660PrimaryVolumeDescriptor_primary
        (fun j hj => ⟨0, by rw [Nat.lt_one_iff.mp hj]; exact hboot, by decide, by decide⟩)
        hprimary,
      parsePrimary_slice, if_pos hascii, if_neg hlen]
    rfl
  exact ⟨⟨hterm, parseIso9660PrimaryVolumeDescriptor_returns hterm⟩,
    ⟨hskip, parseIso9660PrimaryVolumeDescriptor_returns hskip⟩⟩

end VmTools.Iso
