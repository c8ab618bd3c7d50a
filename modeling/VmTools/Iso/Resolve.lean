import VmTools.Iso.DirectoryRecord

/-
# `find_file_in_path` and `extract_file`

The resolver walks the path one component at a time.  For each component it reads the
current directory's extent, `iso_data[extent * block_size : extent * block_size + length]`,
and scans it with a `while` loop: a zero byte is padding, and moves `offset` to the next
multiple of `block_size`; a nonzero byte is a record length, and the record is decoded and
compared with the component.

The padding branch is

    sector_remainder = (block_size - (offset % block_size))
    if sector_remainder < block_size:
        offset += sector_remainder
    continue

and at an offset that is already a multiple of `block_size` the remainder is `block_size`
itself, the guard fails, and `continue` reads the same zero byte again: the loop never ends
(`scanStep_aligned_zero`, `scanDirectory_of_fixed`).  With `block_size = 0` the `%` raises
instead.  Every other pass moves `offset` forward (`scanStep_progress`), so a directory with
no zero byte on a sector boundary is scanned to the end (`scanDirectory_finishes`).

The loop is modelled as `scanStep`, one pass of its body, and `scanDirectory`, which runs
passes until the loop is left or the fuel is spent.  Slicing clamps: an extent that runs
past the end of the image is read short, without an error (`length_readExtent`).
-/

namespace VmTools.Iso

/-! ## 1. Reading an extent -/

/-- `iso_data[extent_offset:extent_offset + record['length']]` with
`extent_offset = record['extent'] * block_size`, as `find_file_in_path` (lines 90-91) and
`extract_file` (lines 124-125) both compute it. -/
def readExtent (iso : Bytes) (r : DirRecord) (blockSize : Nat) : Bytes :=
  slice iso (r.extent * blockSize) (r.extent * blockSize + r.length)

/-- What `extract_file` leaves behind: the bytes written to `path` (and returned), and the
byte count its message reports. -/
structure Extraction where
  path : String
  data : Bytes
  reported : Nat
  deriving DecidableEq, Repr

/-- `extract_file(iso_data, file_record, block_size, output_path)`. -/
def extractFile (iso : Bytes) (fileRecord : DirRecord) (blockSize : Nat) (outputPath : String) :
    Extraction :=
  { path := outputPath, data := readExtent iso fileRecord blockSize, reported := fileRecord.length }

/-- **Extent reads clamp.**  The read is the slice at `extent * block_size` of `length` bytes
when the image holds them all, and otherwise whatever part of it the image holds. -/
theorem length_readExtent (iso : Bytes) (r : DirRecord) (blockSize : Nat) :
    (readExtent iso r blockSize).length = min r.length (iso.length - r.extent * blockSize) := by
  simp [readExtent, length_slice]

/-! ## 2. One pass of the directory scan -/

/-- How one pass of the `while` loop ends. -/
inductive ScanStep where
  /-- The test `offset < len(dir_data)` fails. -/
  | exit
  /-- `found = True; break`. -/
  | found (entry : DirRecord)
  /-- The loop goes round again at this offset. -/
  | next (offset : Nat)
  deriving DecidableEq, Repr

/-- The body of the `while` loop at `offset`. -/
def scanStep (dirData : Bytes) (blockSize : Nat) (component : String) (offset : Nat) :
    Except PyError ScanStep :=
  match dirData[offset]? with
  | none => .ok .exit
  | some recordLength =>
    if recordLength = 0 then do
      let sectorRemainder := blockSize - (← pyMod offset blockSize)
      pure (.next (if sectorRemainder < blockSize then offset + sectorRemainder else offset))
    else do
      let entry ← parseDirectoryRecord (slice dirData offset (offset + recordLength.toNat))
      match entry with
      | some e => pure (if e.name = component then .found e else .next (offset + recordLength.toNat))
      | none => pure (.next (offset + recordLength.toNat))

/-- The `while` loop from `offset`, for at most `fuel` passes.  `some e` is `found` with
`current = e`, `none` is the loop left with `found = False`. -/
def scanDirectory (dirData : Bytes) (blockSize : Nat) (component : String) :
    Nat → Nat → Outcome (Option DirRecord)
  | 0, _ => .unfinished
  | fuel + 1, offset =>
    match scanStep dirData blockSize component offset with
    | .error e => .raise e
    | .ok .exit => .ret none
    | .ok (.found e) => .ret (some e)
    | .ok (.next o) => scanDirectory dirData blockSize component fuel o

/-- The `for component in path_components` loop from `current`, each directory scan given
`fuel` passes.  (`current_path` is only appended to, and is left out.) -/
def walkPath (fuel : Nat) (iso : Bytes) (blockSize : Nat) :
    DirRecord → List String → Outcome (Option DirRecord)
  | current, [] => .ret (some current)
  | current, component :: rest =>
    if !current.isDir then .ret none else do
      match ← scanDirectory (readExtent iso current blockSize) blockSize component fuel 0 with
      | none => .ret none
      | some entry => walkPath fuel iso blockSize entry rest

/-- `find_file_in_path(iso_data, root_record, block_size, path_components)`.  The root may be
`None`, as `main` passes whatever `parse_directory_record` returned; `None['is_dir']`
raises `TypeError`. -/
def findFileInPath (fuel : Nat) (iso : Bytes) (rootRecord : Option DirRecord) (blockSize : Nat)
    (pathComponents : List String) : Outcome (Option DirRecord) :=
  match pathComponents, rootRecord with
  | [], _ => .ret none
  | _ :: _, none => .raise .typeError
  | path, some root => walkPath fuel iso blockSize root path

/-! ## 3. What one pass does -/

section Step

variable {dirData : Bytes} {blockSize : Nat} {component : String} {offset : Nat}

/-- **A zero byte on a sector boundary is read again and again**: the pass ends where it
started. -/
theorem scanStep_aligned_zero (h0 : dirData[offset]? = some 0) (hbs : 0 < blockSize)
    (halign : offset % blockSize = 0) :
    scanStep dirData blockSize component offset = .ok (.next offset) := by
  simp [scanStep, h0, pyMod, Nat.pos_iff_ne_zero.mp hbs, halign]

/-- A zero byte inside a sector moves `offset` to the next multiple of `block_size`. -/
theorem scanStep_unaligned_zero (h0 : dirData[offset]? = some 0) (hbs : 0 < blockSize)
    (halign : offset % blockSize ≠ 0) :
    scanStep dirData blockSize component offset =
      .ok (.next (offset + (blockSize - offset % blockSize))) := by
  have hlt : blockSize - offset % blockSize < blockSize := by omega
  simp only [scanStep, h0, pyMod, if_neg (Nat.pos_iff_ne_zero.mp hbs), if_pos hlt, except_ok_bind,
    except_pure, if_pos rfl, if_true]

/-- With `block_size = 0`, a zero byte raises `ZeroDivisionError`. -/
theorem scanStep_zero_blockSize (h0 : dirData[offset]? = some 0) :
    scanStep dirData 0 component offset = .error .zeroDivisionError := by
  simp [scanStep, h0, pyMod]

/-- A nonzero byte is a record length, and decoding the record raises: `IndexError` on a
record cut to one or two bytes, `struct.error` on any longer one. -/
theorem scanStep_nonzero {x : UInt8} (hx : dirData[offset]? = some x) (hx0 : x ≠ 0) :
    scanStep dirData blockSize component offset =
      .error (if (slice dirData offset (offset + x.toNat)).length < 3 then .indexError
        else .structError) := by
  have hpos : 0 < x.toNat := Nat.pos_of_ne_zero fun h0 => hx0 (UInt8.toNat.inj (by simpa using h0))
  have hsl : slice dirData offset (offset + x.toNat) =
      x :: slice dirData (offset + 1) (offset + x.toNat) := by
    have hlt : offset < dirData.length := (List.getElem?_eq_some_iff.mp hx).1
    rw [← slice_append dirData (Nat.le_succ offset) (by omega)]
    simp [slice, List.take_one, List.drop_eq_getElem_cons hlt, (List.getElem?_eq_some_iff.mp hx).2]
  simp only [scanStep, hx, hx0, if_false, hsl, parseDirectoryRecord_cons _ hx0, except_error_bind,
    List.length_cons]
  split_ifs <;> first | rfl | omega

/-- **Every pass leaves the loop or moves forward, except on a zero byte at a sector
boundary**, where it stays put. -/
theorem scanStep_progress {o : Nat}
    (h : scanStep dirData blockSize component offset = .ok (.next o)) :
    offset < o ∨
      (o = offset ∧ dirData[offset]? = some 0 ∧ 0 < blockSize ∧ offset % blockSize = 0) := by
  cases hx : dirData[offset]? with
  | none => simp [scanStep, hx] at h
  | some x =>
    by_cases hx0 : x = 0
    · subst hx0
      rcases Nat.eq_zero_or_pos blockSize with hbs | hbs
      · subst hbs; simp [scanStep_zero_blockSize hx] at h
      by_cases halign : offset % blockSize = 0
      · rw [scanStep_aligned_zero hx hbs halign] at h
        cases h; exact .inr ⟨rfl, rfl, hbs, halign⟩
      · rw [scanStep_unaligned_zero hx hbs halign] at h
        cases h; have := Nat.mod_lt offset hbs; left; omega
    · -- a record: the pass moves past it
      have hpos : 0 < x.toNat :=
        Nat.pos_of_ne_zero fun h0 => hx0 (UInt8.toNat.inj (by simpa using h0))
      simp only [scanStep, hx, hx0, if_false] at h
      obtain ⟨r, -, hr⟩ := except_bind_eq_ok h
      left
      cases r with
      | none => cases hr; omega
      | some e =>
        simp only [except_pure, Except.ok.injEq] at hr
        split_ifs at hr; cases hr; omega

end Step

/-! ## 4. The loop -/

section Loop

variable {dirData : Bytes} {blockSize : Nat} {component : String}

/-- A pass that ends where it started makes the loop run for ever. -/
theorem scanDirectory_of_fixed {offset : Nat}
    (h : scanStep dirData blockSize component offset = .ok (.next offset)) :
    ∀ fuel, scanDirectory dirData blockSize component fuel offset = .unfinished
  | 0 => rfl
  | fuel + 1 => by rw [scanDirectory, h]; exact scanDirectory_of_fixed h fuel

/-- More fuel changes nothing once the loop has ended. -/
theorem scanDirectory_add_fuel {fuel : Nat} {offset : Nat}
    (h : scanDirectory dirData blockSize component fuel offset ≠ .unfinished) (k : Nat) :
    scanDirectory dirData blockSize component (fuel + k) offset =
      scanDirectory dirData blockSize component fuel offset := by
  induction fuel generalizing offset with
  | zero => exact absurd rfl h
  | succ fuel ih =>
    rw [show fuel + 1 + k = (fuel + k) + 1 by omega, scanDirectory, scanDirectory]
    split
    · rfl
    · rfl
    · rfl
    · rename_i o ho
      rw [scanDirectory, ho] at h
      exact ih h

/-- **A directory with no zero byte on a sector boundary is scanned to the end**: from any
offset, `len(dir_data) - offset + 1` passes are enough for the loop to return or raise. -/
theorem scanDirectory_finishes
    (hnz : ∀ o, dirData[o]? = some 0 → 0 < blockSize → o % blockSize ≠ 0) (offset : Nat) :
    scanDirectory dirData blockSize component (dirData.length - offset + 1) offset ≠ .unfinished := by
  generalize hn : dirData.length - offset = n
  induction n using Nat.strong_induction_on generalizing offset with
  | _ n ih =>
    rw [scanDirectory]
    split
    · simp
    · simp
    · simp
    · rename_i o ho
      rcases scanStep_progress ho with hlt | ⟨rfl, h0, hbs, halign⟩
      · by_cases hin : o < dirData.length
        · have := ih (dirData.length - o) (by omega) o rfl
          have hle : dirData.length - o + 1 ≤ n := by omega
          obtain ⟨k, hk⟩ := Nat.exists_eq_add_of_le hle
          rwa [hk, scanDirectory_add_fuel this]
        · cases n with
          | zero =>
            have : dirData[offset]? = none := List.getElem?_eq_none (by omega)
            simp [scanStep, this] at ho
          | succ n =>
            have hnone : dirData[o]? = none := List.getElem?_eq_none (by omega)
            simp [scanDirectory, scanStep, hnone]
      · exact absurd halign (hnz _ h0 hbs)

/-- A directory `[1, 0]` with block size 2, scanned from offset 1: its zero byte is inside a
sector, and the padding branch moves the scan to offset 2, the end. -/
theorem scanDirectory_finishes_unaligned :
    (∀ o, ([1, 0] : Bytes)[o]? = some (0 : UInt8) → 0 < 2 → o % 2 ≠ 0) ∧
      scanDirectory [1, 0] 2 "vmlinuz" ([1, 0].length - 1 + 1) 1 ≠ .unfinished := by
  have hnz : ∀ o, ([1, 0] : Bytes)[o]? = some (0 : UInt8) → 0 < 2 → o % 2 ≠ 0 := by
    rintro (_ | _ | o) h _ <;> simp_all
  exact ⟨hnz, scanDirectory_finishes hnz 1⟩

end Loop

/-! ## 5. The resolver -/

section Resolve

variable {fuel : Nat} {iso : Bytes} {blockSize : Nat}

@[simp] theorem findFileInPath_nil (root : Option DirRecord) :
    findFileInPath fuel iso root blockSize [] = .ret none := by
  cases root <;> rfl

@[simp] theorem findFileInPath_none (c : String) (cs : List String) :
    findFileInPath fuel iso none blockSize (c :: cs) = .raise .typeError := rfl

theorem findFileInPath_not_dir {root : DirRecord} (c : String) (cs : List String)
    (hdir : root.isDir = false) :
    findFileInPath fuel iso (some root) blockSize (c :: cs) = .ret none := by
  simp [findFileInPath, walkPath, hdir]

/-- One level of the walk: scan the root's extent for the first component. -/
theorem findFileInPath_dir {root : DirRecord} (c : String) (cs : List String)
    (hdir : root.isDir = true) :
    findFileInPath fuel iso (some root) blockSize (c :: cs) =
      (scanDirectory (readExtent iso root blockSize) blockSize c fuel 0 >>= fun
        | none => .ret none
        | some entry => walkPath fuel iso blockSize entry cs) := by
  simp [findFileInPath, walkPath, hdir]

/-- A first pass that raises makes the whole call raise. -/
theorem findFileInPath_of_scanStep_error {root : DirRecord} (c : String) (cs : List String)
    (hdir : root.isDir = true) {e : PyError}
    (h : scanStep (readExtent iso root blockSize) blockSize c 0 = .error e) :
    findFileInPath (fuel + 1) iso (some root) blockSize (c :: cs) = .raise e := by
  rw [findFileInPath_dir c cs hdir, scanDirectory, h]; rfl

/-- No pass ends in `found`: the record it would compare is never decoded. -/
theorem scanStep_ne_found (dirData : Bytes) (blockSize : Nat) (component : String)
    (offset : Nat) (e : DirRecord) :
    scanStep dirData blockSize component offset ≠ .ok (.found e) := by
  intro h
  unfold scanStep at h
  split at h
  · cases h
  · split_ifs at h
    · obtain ⟨_, -, h⟩ := except_bind_eq_ok h
      cases h
    · obtain ⟨r, hr, h⟩ := except_bind_eq_ok h
      rw [eq_none_of_parseDirectoryRecord hr] at h
      cases h

/-- So no scan of a directory returns an entry. -/
theorem scanDirectory_ne_some (dirData : Bytes) (blockSize : Nat) (component : String)
    (e : DirRecord) :
    ∀ fuel offset, scanDirectory dirData blockSize component fuel offset ≠ .ret (some e)
  | 0, _ => nofun
  | fuel + 1, offset => by
    rw [scanDirectory]
    split
    · nofun
    · nofun
    · exact absurd ‹_› (scanStep_ne_found _ _ _ _ _)
    · exact scanDirectory_ne_some dirData blockSize component e fuel _

/-- **`find_file_in_path` never resolves a path**: whatever the root, the image, the block size
and the fuel, a nonempty path gives no record.  It returns `None`, raises, or never ends. -/
theorem findFileInPath_ne_some (root : Option DirRecord) (c : String) (cs : List String)
    (e : DirRecord) : findFileInPath fuel iso root blockSize (c :: cs) ≠ .ret (some e) := by
  rcases root with _ | root
  · nofun
  cases hdir : root.isDir
  · rw [findFileInPath_not_dir c cs hdir]; nofun
  rw [findFileInPath_dir c cs hdir]
  cases h : scanDirectory (readExtent iso root blockSize) blockSize c fuel 0 with
  | ret r =>
    rcases r with _ | r
    · nofun
    · exact absurd h (scanDirectory_ne_some _ _ _ _ _ _)
  | raise => nofun
  | unfinished => nofun

/-- **The lookup `main` builds raises on every candidate**: the root it passes is whatever
`parse_directory_record` returned for the root record's bytes, which is `None` when it returns
at all, and `None['is_dir']` raises `TypeError`. -/
theorem findFileInPath_of_decoded_root {rootBytes : Bytes} {root : Option DirRecord}
    (hroot : parseDirectoryRecord rootBytes = .ok root) (c : String) (cs : List String) :
    findFileInPath fuel iso root blockSize (c :: cs) = .raise .typeError := by
  rw [eq_none_of_parseDirectoryRecord hroot]; rfl

/-- **`find_file_in_path` hangs on a zero byte at the start of a directory**: with any
positive block size, no amount of fuel lets the scan of that directory end. -/
theorem findFileInPath_aligned_zero_unfinished {root : DirRecord} (c : String) (cs : List String)
    (hdir : root.isDir = true) (hbs : 0 < blockSize)
    (h0 : (readExtent iso root blockSize)[0]? = some 0) :
    ∀ fuel, findFileInPath fuel iso (some root) blockSize (c :: cs) = .unfinished := by
  intro fuel
  rw [findFileInPath_dir c cs hdir,
    scanDirectory_of_fixed (scanStep_aligned_zero h0 hbs (Nat.zero_mod _))]
  rfl

/-- A one-byte image holding a zero, read as a directory of one byte at extent 0 with block
size 2048: the scan of `vmlinuz` never ends. -/
theorem findFileInPath_zero_sector_unfinished :
    (⟨"", 0, 1, true, []⟩ : DirRecord).isDir = true ∧ 0 < 2048 ∧
      (readExtent [0] ⟨"", 0, 1, true, []⟩ 2048)[0]? = some 0 ∧
      ∀ fuel, findFileInPath fuel [0] (some ⟨"", 0, 1, true, []⟩) 2048 ["vmlinuz"] = .unfinished :=
  ⟨rfl, by decide, rfl, findFileInPath_aligned_zero_unfinished "vmlinuz" [] rfl (by decide) rfl⟩

/-- The same directory with block size 0: the scan raises `ZeroDivisionError`, and the
call does not return "not found". -/
theorem findFileInPath_zero_blockSize_raises :
    findFileInPath 1 [0] (some ⟨"", 0, 1, true, []⟩) 0 ["vmlinuz"] = .raise .zeroDivisionError :=
  rfl

/-- A directory extent that lies wholly past the end of the image is read as empty and
scanned as an empty directory: "not found", and no error. -/
theorem findFileInPath_extent_past_end {root : DirRecord} (c : String) (cs : List String)
    (hdir : root.isDir = true) (hpast : iso.length ≤ root.extent * blockSize) :
    findFileInPath (fuel + 1) iso (some root) blockSize (c :: cs) = .ret none := by
  have hnil : readExtent iso root blockSize = [] := by
    simpa [readExtent, slice] using Or.inr hpast
  rw [findFileInPath_dir c cs hdir, hnil]
  rfl

end Resolve

/-! ## 6. `extract_file` -/

/-- **What `extract_file` writes is the clamped extent**: the slice at `extent * block_size`
of `length` bytes, shortened to what the image holds, while its message reports `length`.
The same clamped read is what `find_file_in_path` scans: a directory extent past the end of
the image is scanned as empty, and its component is "not found". -/
theorem extractFile_clamps (iso : Bytes) (r : DirRecord) (blockSize : Nat) (path : String) :
    (extractFile iso r blockSize path).data =
        slice iso (r.extent * blockSize) (r.extent * blockSize + r.length) ∧
      (extractFile iso r blockSize path).data.length =
        min r.length (iso.length - r.extent * blockSize) ∧
      (extractFile iso r blockSize path).reported = r.length ∧
      (r.isDir = true → iso.length ≤ r.extent * blockSize → ∀ fuel c cs,
        findFileInPath (fuel + 1) iso (some r) blockSize (c :: cs) = .ret none) :=
  ⟨rfl, length_readExtent iso r blockSize, rfl,
    fun hdir hpast _ c cs => findFileInPath_extent_past_end c cs hdir hpast⟩

/-- A five-byte file at extent 0 of a three-byte image: `extract_file` writes the three bytes
there are, reports five, and raises nothing. -/
theorem extractFile_short_image :
    extractFile [1, 2, 3] ⟨"vmlinuz", 0, 5, false, []⟩ 2048 "/tmp/debian_iso_extracted/vmlinuz" =
      ⟨"/tmp/debian_iso_extracted/vmlinuz", [1, 2, 3], 5⟩ := rfl

end VmTools.Iso
