import VmTools.Iso.VolumeDescriptor
import VmTools.Iso.Resolve

/-
# `main`: candidates, fallback, and what a run leaves behind

`main` scans for the primary descriptor, decodes its root record, tries four kernel paths
and three initrd paths with `find_file_in_path`, and falls back to a byte search for the
x86 kernel signature `b8 c0 07 8e` when no kernel path resolves.

The sequencing is sound by design: a candidate that returns `None` never stops the later
ones (`searchCandidates_of_returns`), the first resolving candidate is the one extracted,
and the fallback window starts at the first occurrence of the signature
(`mainTail_fallback`).  It is stated over any resolver (`mainTail`), because the resolver
`main` builds never returns.  `parse_directory_record` raises on every root record an ISO 9660
image carries (`DirectoryRecord.lean`), so on such an image `main` raises `struct.error`
before it tries a single path (`main_standard_root_raises`); where the decoder returns, it
returns `None`, and the first kernel candidate raises `TypeError`
(`findFileInPath_of_decoded_root`).  So on every image `main` writes nothing and never exits
0 (`main_never_writes`): neither the candidates' sequencing nor the fallback is ever reached
with a lookup that returns.
-/

namespace VmTools.Iso

/-! ## 1. The run -/

/-- `output_dir`. -/
def outputDir : String := "/tmp/debian_iso_extracted"

/-- `f'{output_dir}/vmlinuz'`. -/
def vmlinuzPath : String := outputDir ++ "/vmlinuz"

/-- `f'{output_dir}/initrd.gz'`. -/
def initrdPath : String := outputDir ++ "/initrd.gz"

/-- `possible_paths`. -/
def possiblePaths : List (List String) :=
  [["install.amd", "vmlinuz"], ["install", "vmlinuz"], ["boot", "vmlinuz"], ["isolinux", "vmlinuz"]]

/-- `possible_initrd`. -/
def possibleInitrd : List (List String) :=
  [["install.amd", "initrd.gz"], ["install", "initrd.gz"], ["boot", "initrd.gz"]]

/-- `kernel_magic`, the start of an x86 kernel. -/
def kernelMagic : Bytes := [0xb8, 0xc0, 0x07, 0x8e]

/-- What a run of `main` leaves behind: the files written, in order, and how it ended. -/
structure Run where
  written : List Extraction
  exit : Outcome Nat
  deriving DecidableEq, Repr

/-- `for path in paths: record = find_file_in_path(..., path); if record: break`, with the
record the loop leaves in its variable (`None` when no candidate resolves). -/
def searchCandidates (find : List String → Outcome (Option DirRecord)) :
    List (List String) → Outcome (Option DirRecord)
  | [] => .ret none
  | path :: rest => do
    match ← find path with
    | some r => pure (some r)
    | none => searchCandidates find rest

/-- The signature fallback (lines 175-186): `pos = iso_data.find(kernel_magic)`, and the
window `iso_data[pos:pos+20*1024*1024]` written as `vmlinuz` when `pos != -1`. -/
def kernelFallback (iso : Bytes) : Option Extraction :=
  let pos := bytesFind iso kernelMagic
  if pos ≠ -1 then
    let kernelData := slice iso pos.toNat (pos.toNat + 20 * 1024 * 1024)
    some { path := vmlinuzPath, data := kernelData, reported := kernelData.length }
  else none

/-- Lines 171-188: the `vmlinuz` written, by `extract_file` from the resolved record or from
the fallback window; `none` is the `return 1` when the signature is absent. -/
def obtainKernel (iso : Bytes) (blockSize : Nat) : Option DirRecord → Option Extraction
  | some r => some (extractFile iso r blockSize vmlinuzPath)
  | none => kernelFallback iso

/-- Lines 190-215, once the kernel `k` is written: the initrd candidates, and `return 0`. -/
def initrdStage (iso : Bytes) (blockSize : Nat) (find : List String → Outcome (Option DirRecord))
    (k : Extraction) : Run :=
  match searchCandidates find possibleInitrd with
  | .raise e => ⟨[k], .raise e⟩
  | .unfinished => ⟨[k], .unfinished⟩
  | .ret none => ⟨[k], .ret 0⟩
  | .ret (some r) => ⟨[k, extractFile iso r blockSize initrdPath], .ret 0⟩

/-- `main` once the root record is decoded (lines 154-215), with `find path` for
`find_file_in_path(iso_data, root_record, block_size, path)`. -/
def mainTail (iso : Bytes) (blockSize : Nat) (find : List String → Outcome (Option DirRecord)) :
    Run :=
  match searchCandidates find possiblePaths with
  | .raise e => ⟨[], .raise e⟩
  | .unfinished => ⟨[], .unfinished⟩
  | .ret kernelRecord =>
    match obtainKernel iso blockSize kernelRecord with
    | none => ⟨[], .ret 1⟩
    | some k => initrdStage iso blockSize find k

/-- `main()` on the image's bytes, each directory scan given `fuel` passes.  Reading the
image and creating the output directory are left out. -/
def main (fuel : Nat) (iso : Bytes) : Run :=
  match parseIso9660PrimaryVolumeDescriptor iso with
  | .error e => ⟨[], .raise e⟩
  | .ok none => ⟨[], .ret 1⟩
  | .ok (some (rootBytes, blockSize)) =>
    if rootBytes = [] then ⟨[], .ret 1⟩ else
    match parseDirectoryRecord rootBytes with
    | .error e => ⟨[], .raise e⟩
    | .ok rootRecord => mainTail iso blockSize (findFileInPath fuel iso rootRecord blockSize)

/-! ## 2. The candidate loop -/

section Candidates

variable {find : List String → Outcome (Option DirRecord)}

/-- The record a call resolves to, when it returns one. -/
def resolvedBy (find : List String → Outcome (Option DirRecord)) (p : List String) :
    Option DirRecord :=
  match find p with
  | .ret r => r
  | _ => none

/-- **Candidates are tried in list order, and `None` never stops the search**: when every call
returns, the loop leaves the record of the first candidate that resolves. -/
theorem searchCandidates_of_returns {paths : List (List String)}
    (h : ∀ p ∈ paths, ∃ r, find p = .ret r) :
    searchCandidates find paths = .ret (paths.findSome? (resolvedBy find)) := by
  induction paths with
  | nil => rfl
  | cons p rest ih =>
    obtain ⟨r, hr⟩ := h p (List.mem_cons_self _ _)
    cases r with
    | none =>
      simp [searchCandidates, hr, resolvedBy, List.findSome?_cons,
        ih fun q hq => h q (List.mem_cons_of_mem _ hq)]
    | some r => simp [searchCandidates, hr, resolvedBy, List.findSome?_cons]

/-- A call that raises, after candidates that all returned `None`, ends the search with its
exception. -/
theorem searchCandidates_of_raise {pre post : List (List String)} {p : List String} {e : PyError}
    (hpre : ∀ q ∈ pre, find q = .ret none) (hp : find p = .raise e) :
    searchCandidates find (pre ++ p :: post) = .raise e := by
  induction pre with
  | nil => simp [searchCandidates, hp]
  | cons q pre ih =>
    simp [searchCandidates, hpre q (List.mem_cons_self _ _),
      ih fun q' hq' => hpre q' (List.mem_cons_of_mem _ hq')]

end Candidates

/-! ## 3. The signature fallback -/

theorem slice_eq_kernelMagic_iff (iso : Bytes) (p : Nat) :
    slice iso p (p + 4) = kernelMagic ↔ kernelMagic <+: iso.drop p :=
  @slice_eq_iff_prefix_drop iso kernelMagic p

/-- No window is written exactly when the signature occurs nowhere. -/
theorem kernelFallback_eq_none_iff (iso : Bytes) :
    kernelFallback iso = none ↔ ∀ p, slice iso p (p + 4) ≠ kernelMagic := by
  simp only [slice_eq_kernelMagic_iff, ne_eq]
  unfold kernelFallback bytesFind
  cases h : findIdx iso kernelMagic with
  | none => simpa using findIdx_none h
  | some p =>
    refine ⟨fun h' => ?_, fun h' => absurd (findIdx_some h).1 (h' p)⟩
    have : (p : Int) ≠ -1 := by omega
    simp [this] at h'

/-- **The window starts at the first occurrence of the signature** and runs 20 MiB, or to the
end of the image. -/
theorem kernelFallback_window (iso : Bytes) {p : Nat} (hp : slice iso p (p + 4) = kernelMagic)
    (hfirst : ∀ q < p, slice iso q (q + 4) ≠ kernelMagic) :
    kernelFallback iso = some ⟨vmlinuzPath, slice iso p (p + 20 * 1024 * 1024),
      min (20 * 1024 * 1024) (iso.length - p)⟩ := by
  have hfind : findIdx iso kernelMagic = some p :=
    findIdx_eq_some_iff.mpr ⟨(slice_eq_kernelMagic_iff iso p).mp hp,
      fun q hq => mt (slice_eq_kernelMagic_iff iso q).mpr (hfirst q hq)⟩
  have hlen : (slice iso p (p + 20 * 1024 * 1024)).length =
      min (20 * 1024 * 1024) (iso.length - p) := by
    rw [length_slice]; omega
  simp only [kernelFallback, bytesFind, hfind, Int.toNat_ofNat, hlen]
  rw [if_pos (by omega)]

/-! ## 4. The run past the root record, for any resolver -/

section Tail

variable {iso : Bytes} {blockSize : Nat} {find : List String → Outcome (Option DirRecord)}

theorem resolvedBy_eq_some {p : List String} {r : DirRecord} :
    resolvedBy find p = some r ↔ find p = .ret (some r) := by
  unfold resolvedBy; split <;> simp_all

theorem obtainKernel_eq (r : Option DirRecord) :
    obtainKernel iso blockSize r =
      (r.map fun x => extractFile iso x blockSize vmlinuzPath).or (kernelFallback iso) := by
  cases r <;> rfl

/-- Once the kernel is written it is the run's first file, and the run does not return 1. -/
theorem initrdStage_written (k : Extraction) :
    (initrdStage iso blockSize find k).written.head? = some k ∧
      (initrdStage iso blockSize find k).exit ≠ .ret 1 := by
  unfold initrdStage
  split <;> simp

/-- What the spec says `main` writes once every call of `find_file_in_path` has returned:
`vmlinuz` from the first kernel candidate that resolves, or else the fallback window, then
`initrd.gz` from the first initrd candidate that resolves; `none` when there is no kernel. -/
def expectedWrites (iso : Bytes) (blockSize : Nat) (find : List String → Outcome (Option DirRecord)) :
    Option (List Extraction) :=
  (((possiblePaths.findSome? (resolvedBy find)).map fun r => extractFile iso r blockSize vmlinuzPath).or
      (kernelFallback iso)).map fun k =>
    k :: ((possibleInitrd.findSome? (resolvedBy find)).map fun r =>
      extractFile iso r blockSize initrdPath).toList

/-- **The sequencing, when every call returns**: `main` writes what the spec says and returns
0, or writes nothing and returns 1 when there is no kernel. -/
theorem mainTail_of_returns
    (h : ∀ p ∈ possiblePaths ++ possibleInitrd, ∃ r, find p = .ret r) :
    mainTail iso blockSize find =
      match expectedWrites iso blockSize find with
      | none => ⟨[], .ret 1⟩
      | some ws => ⟨ws, .ret 0⟩ := by
  have hk := searchCandidates_of_returns fun p hp => h p (List.mem_append_left _ hp)
  have hi := searchCandidates_of_returns fun p hp => h p (List.mem_append_right _ hp)
  rw [mainTail, hk]
  simp only [expectedWrites, ← obtainKernel_eq]
  cases obtainKernel iso blockSize (possiblePaths.findSome? (resolvedBy find)) with
  | none => rfl
  | some k =>
    simp only [initrdStage, hi, Option.map_some']
    cases possibleInitrd.findSome? (resolvedBy find) <;> rfl

/-- There is no kernel exactly when no kernel candidate resolves and the signature is absent. -/
theorem expectedWrites_eq_none_iff :
    expectedWrites iso blockSize find = none ↔
      (∀ p ∈ possiblePaths, ∀ r, find p ≠ .ret (some r)) ∧
        ∀ p, slice iso p (p + 4) ≠ kernelMagic := by
  simp only [expectedWrites, Option.map_eq_none', Option.or_eq_none, Option.map_eq_none',
    List.findSome?_eq_none_iff, kernelFallback_eq_none_iff]
  constructor
  · rintro ⟨h1, h2⟩
    refine ⟨fun p hp r hr => ?_, h2⟩
    have := h1 p hp
    rw [resolvedBy_eq_some.mpr hr] at this
    cases this
  · rintro ⟨h1, h2⟩
    refine ⟨fun p hp => ?_, h2⟩
    cases hr : resolvedBy find p with
    | none => rfl
    | some r => exact absurd (resolvedBy_eq_some.mp hr) (h1 p hp r)

/-- A kernel call that raises, after candidates that all returned `None`, ends `main` with
that exception, before any file is written and before any later candidate is tried. -/
theorem mainTail_of_raise {pre post : List (List String)} {p : List String} {e : PyError}
    (hsplit : possiblePaths = pre ++ p :: post) (hpre : ∀ q ∈ pre, find q = .ret none)
    (hp : find p = .raise e) : mainTail iso blockSize find = ⟨[], .raise e⟩ := by
  rw [mainTail, hsplit, searchCandidates_of_raise hpre hp]

/-- **The fallback step**: reached when every kernel candidate returns `None`, it writes
nothing and makes `main` return 1 exactly when the signature occurs nowhere, and otherwise
writes, as the run's first file, the window at the first occurrence, 20 MiB long or cut at
the end of the image. -/
theorem mainTail_fallback (hnone : ∀ p ∈ possiblePaths, find p = .ret none) :
    (mainTail iso blockSize find = ⟨[], .ret 1⟩ ↔ ∀ p, slice iso p (p + 4) ≠ kernelMagic) ∧
      ∀ p, slice iso p (p + 4) = kernelMagic → (∀ q < p, slice iso q (q + 4) ≠ kernelMagic) →
        (mainTail iso blockSize find).written.head? = some
          ⟨vmlinuzPath, slice iso p (p + 20 * 1024 * 1024), min (20 * 1024 * 1024) (iso.length - p)⟩ ∧
        (slice iso p (p + 20 * 1024 * 1024)).length = min (20 * 1024 * 1024) (iso.length - p) := by
  have hk : searchCandidates find possiblePaths = .ret none := by
    rw [searchCandidates_of_returns fun p hp => ⟨none, hnone p hp⟩,
      List.findSome?_eq_none_iff.mpr]
    intro p hp; simp [resolvedBy, hnone p hp]
  have htail : mainTail iso blockSize find =
      match kernelFallback iso with
      | none => ⟨[], .ret 1⟩
      | some k => initrdStage iso blockSize find k := by
    rw [mainTail, hk]; rfl
  refine ⟨?_, fun p hp hfirst => ⟨?_, by rw [length_slice]; omega⟩⟩
  · rw [htail, ← kernelFallback_eq_none_iff]
    cases kernelFallback iso with
    | none => simp
    | some k =>
      simp only [reduceCtorEq, iff_false]
      intro h
      have : (initrdStage iso blockSize find k).written.head? = some k := (initrdStage_written k).1
      rw [h] at this; cases this
  · rw [htail, kernelFallback_window iso hp hfirst]
    exact (initrdStage_written _).1

end Tail

/-! ## 5. `main` -/

section Main

variable {fuel : Nat} {iso : Bytes}

theorem main_of_pvd_error {e : PyError} (h : parseIso9660PrimaryVolumeDescriptor iso = .error e) :
    main fuel iso = ⟨[], .raise e⟩ := by
  unfold main; rw [h]

theorem main_of_pvd_none (h : parseIso9660PrimaryVolumeDescriptor iso = .ok none) :
    main fuel iso = ⟨[], .ret 1⟩ := by
  unfold main; rw [h]

theorem main_of_empty_root {blockSize : Nat}
    (h : parseIso9660PrimaryVolumeDescriptor iso = .ok (some ([], blockSize))) :
    main fuel iso = ⟨[], .ret 1⟩ := by
  unfold main; rw [h]; rfl

theorem main_of_root_error {rootBytes : Bytes} {blockSize : Nat} {e : PyError}
    (h : parseIso9660PrimaryVolumeDescriptor iso = .ok (some (rootBytes, blockSize)))
    (hne : rootBytes ≠ []) (hroot : parseDirectoryRecord rootBytes = .error e) :
    main fuel iso = ⟨[], .raise e⟩ := by
  simp only [main, h, hne, hroot, if_false]

theorem main_of_root {rootBytes : Bytes} {blockSize : Nat} {root : Option DirRecord}
    (h : parseIso9660PrimaryVolumeDescriptor iso = .ok (some (rootBytes, blockSize)))
    (hne : rootBytes ≠ []) (hroot : parseDirectoryRecord rootBytes = .ok root) :
    main fuel iso = mainTail iso blockSize (findFileInPath fuel iso root blockSize) := by
  simp only [main, h, hne, hroot, if_false]

end Main

/-- **What `main` does, by design.**  It returns 1, having written nothing, when the scan
finds a terminator first or an empty root record, and raises whatever the scan or the
decoding of the root record raises.  Past the root record, whatever `find_file_in_path`
returns: when every call returns, `main` writes `vmlinuz` from the first kernel candidate
that resolves or else the fallback window, then `initrd.gz` from the first initrd candidate
that resolves, and returns 0 exactly when some kernel candidate resolves or the signature
occurs (1 otherwise); a kernel call that raises after candidates that returned `None` ends
`main` with that exception. -/
theorem main_sequencing (fuel : Nat) (iso : Bytes) :
    (parseIso9660PrimaryVolumeDescriptor iso = .ok none → main fuel iso = ⟨[], .ret 1⟩) ∧
    (∀ blockSize, parseIso9660PrimaryVolumeDescriptor iso = .ok (some ([], blockSize)) →
      main fuel iso = ⟨[], .ret 1⟩) ∧
    (∀ e, parseIso9660PrimaryVolumeDescriptor iso = .error e → main fuel iso = ⟨[], .raise e⟩) ∧
    (∀ rootBytes blockSize, parseIso9660PrimaryVolumeDescriptor iso = .ok (some (rootBytes, blockSize)) →
      rootBytes ≠ [] →
      (∀ e, parseDirectoryRecord rootBytes = .error e → main fuel iso = ⟨[], .raise e⟩) ∧
      ∀ root, parseDirectoryRecord rootBytes = .ok root →
        main fuel iso = mainTail iso blockSize (findFileInPath fuel iso root blockSize)) ∧
    (∀ blockSize (find : List String → Outcome (Option DirRecord)),
      (∀ p ∈ possiblePaths ++ possibleInitrd, ∃ r, find p = .ret r) →
      mainTail iso blockSize find =
        (match expectedWrites iso blockSize find with
          | none => ⟨[], .ret 1⟩
          | some ws => ⟨ws, .ret 0⟩) ∧
      ((mainTail iso blockSize find).exit = .ret 0 ↔
        (∃ p ∈ possiblePaths, ∃ r, find p = .ret (some r)) ∨
          ∃ p, slice iso p (p + 4) = kernelMagic)) ∧
    (∀ blockSize (find : List String → Outcome (Option DirRecord)) pre p post e,
      possiblePaths = pre ++ p :: post → (∀ q ∈ pre, find q = .ret none) → find p = .raise e →
      mainTail iso blockSize find = ⟨[], .raise e⟩) := by
  refine ⟨main_of_pvd_none, fun _ => main_of_empty_root, fun _ => main_of_pvd_error,
    fun _ _ h hne => ⟨fun _ => main_of_root_error h hne, fun _ => main_of_root h hne⟩,
    fun blockSize find h => ⟨mainTail_of_returns h, ?_⟩,
    fun _ _ _ _ _ _ hsplit hpre hp => mainTail_of_raise hsplit hpre hp⟩
  rw [mainTail_of_returns h]
  have hnone : expectedWrites iso blockSize find = none ↔ _ := expectedWrites_eq_none_iff
  cases hw : expectedWrites iso blockSize find with
  | none =>
    obtain ⟨h1, h2⟩ := hnone.mp hw
    refine ⟨fun h0 => absurd h0 (by decide), ?_⟩
    rintro (⟨p, hp, r, hr⟩ | ⟨p, hp⟩)
    · exact absurd hr (h1 p hp r)
    · exact absurd hp (h2 p)
  | some ws =>
    refine ⟨fun _ => ?_, fun _ => rfl⟩
    by_contra hno
    simp only [not_or, not_exists, not_and] at hno
    exact absurd (hnone.mpr ⟨fun p hp r => hno.1 p hp r, hno.2⟩) (by simp [hw])

/-- One kernel candidate resolving, `install/vmlinuz`: the sequencing at an instance where
every call returns. -/
theorem main_sequencing_install :
    (∀ p ∈ possiblePaths ++ possibleInitrd, ∃ r,
      (fun p => .ret (if p = ["install", "vmlinuz"] then some ⟨"vmlinuz", 19, 1, false, []⟩ else none) :
        List String → Outcome (Option DirRecord)) p = .ret r) ∧
    mainTail [] 2048 (fun p => .ret (if p = ["install", "vmlinuz"] then
        some ⟨"vmlinuz", 19, 1, false, []⟩ else none)) =
      (match expectedWrites [] 2048 (fun p => .ret (if p = ["install", "vmlinuz"] then
          some ⟨"vmlinuz", 19, 1, false, []⟩ else none)) with
        | none => ⟨[], .ret 1⟩
        | some ws => ⟨ws, .ret 0⟩) ∧
    ((mainTail [] 2048 (fun p => .ret (if p = ["install", "vmlinuz"] then
        some ⟨"vmlinuz", 19, 1, false, []⟩ else none))).exit = .ret 0 ↔
      (∃ p ∈ possiblePaths, ∃ r, (fun p => .ret (if p = ["install", "vmlinuz"] then
          some ⟨"vmlinuz", 19, 1, false, []⟩ else none) : List String → Outcome (Option DirRecord)) p =
            .ret (some r)) ∨
        ∃ p, slice [] p (p + 4) = kernelMagic) :=
  have h : ∀ p ∈ possiblePaths ++ possibleInitrd, ∃ r,
      (fun p => .ret (if p = ["install", "vmlinuz"] then some ⟨"vmlinuz", 19, 1, false, []⟩ else none) :
        List String → Outcome (Option DirRecord)) p = .ret r := fun _ _ => ⟨_, rfl⟩
  ⟨h, (main_sequencing 0 []).2.2.2.2.1 2048 _ h⟩

/-- The empty image: the descriptor scan raises `IndexError`, so `main` neither returns 0
nor 1. -/
theorem main_empty_image : main 0 [] = ⟨[], .raise .indexError⟩ :=
  main_of_pvd_error (by rw [parseIso9660PrimaryVolumeDescriptor, scanDescriptors_eq]; rfl)

/-- **No exception of the resolver becomes "not found"**: whatever the scan of a directory
raises, the call raises; a zero byte read with block size 0 raises `ZeroDivisionError`; a first
record that the directory's end (or its own length byte) cuts to fewer than three bytes raises
`IndexError`; and a kernel call that raises, after candidates that returned `None`, ends `main`
with that exception, so the later candidates and the fallback are not tried. -/
theorem findFileInPath_malformed_raises :
    (∀ fuel iso (root : DirRecord) blockSize (c : String) cs e, root.isDir = true →
      scanDirectory (readExtent iso root blockSize) blockSize c fuel 0 = .raise e →
      findFileInPath fuel iso (some root) blockSize (c :: cs) = .raise e) ∧
    (∀ fuel iso (root : DirRecord) (c : String) cs, root.isDir = true →
      (readExtent iso root 0)[0]? = some 0 →
      findFileInPath (fuel + 1) iso (some root) 0 (c :: cs) = .raise .zeroDivisionError) ∧
    (∀ fuel iso (root : DirRecord) blockSize (c : String) cs (x : UInt8), root.isDir = true →
      (readExtent iso root blockSize)[0]? = some x → x ≠ 0 →
      (slice (readExtent iso root blockSize) 0 x.toNat).length < 3 →
      findFileInPath (fuel + 1) iso (some root) blockSize (c :: cs) = .raise .indexError) ∧
    (∀ iso blockSize (find : List String → Outcome (Option DirRecord)) pre p post e,
      possiblePaths = pre ++ p :: post → (∀ q ∈ pre, find q = .ret none) → find p = .raise e →
      mainTail iso blockSize find = ⟨[], .raise e⟩) :=
  ⟨fun _ _ _ _ c cs _ hdir h => by rw [findFileInPath_dir c cs hdir, h]; rfl,
    fun _ _ _ c cs hdir h0 =>
      findFileInPath_of_scanStep_error c cs hdir (scanStep_zero_blockSize h0),
    fun _ _ _ _ c cs _ hdir hx hx0 hshort => by
      rw [findFileInPath_of_scanStep_error c cs hdir (scanStep_nonzero hx hx0), Nat.zero_add,
        if_pos hshort],
    fun _ _ _ _ _ _ _ hsplit hpre hp => mainTail_of_raise hsplit hpre hp⟩

/-- A directory of one byte, `5`, at extent 0: its first record claims five bytes and the
directory ends after one. -/
theorem findFileInPath_malformed_raises_sample :
    (⟨"", 0, 1, true, []⟩ : DirRecord).isDir = true ∧
      (readExtent [5] ⟨"", 0, 1, true, []⟩ 2048)[0]? = some 5 ∧ (5 : UInt8) ≠ 0 ∧
      (slice (readExtent [5] ⟨"", 0, 1, true, []⟩ 2048) 0 (5 : UInt8).toNat).length < 3 ∧
      findFileInPath 1 [5] (some ⟨"", 0, 1, true, []⟩) 2048 ["vmlinuz"] = .raise .indexError :=
  ⟨rfl, rfl, by decide, by decide,
    findFileInPath_malformed_raises.2.2.1 0 [5] _ 2048 "vmlinuz" [] 5 rfl rfl (by decide)
      (by decide)⟩

/-! ## 6. Every ISO 9660 image -/

/-- **On every image with a primary descriptor, `main` raises `struct.error`.**  Take the
first descriptor sector of type 1, after sectors of other types, with ASCII identifiers and
its root record `[156,190)` in the image.  The scan returns that record's bytes, and when its
length byte is not zero (it is 34 for every root record ISO 9660 writes) the decoder raises,
so no path is ever looked up and nothing is extracted. -/
theorem main_standard_root_raises (fuel : Nat) (iso : Bytes) (k : Nat)
    (hbefore : ∀ j < k, ∃ t, descriptorType iso j = some t ∧ t ≠ 1 ∧ t ≠ 255)
    (hk : descriptorType iso k = some 1)
    (hascii : (slice iso (descriptorOffset k + 8) (descriptorOffset k + 72)).all (· < 128))
    (hlen : descriptorOffset k + 190 ≤ iso.length)
    (hroot : iso[descriptorOffset k + 156]? ≠ some 0) :
    parseIso9660PrimaryVolumeDescriptor iso =
        .ok (some (slice iso (descriptorOffset k + 156) (descriptorOffset k + 190),
          leNat (slice iso (descriptorOffset k + 128) (descriptorOffset k + 130)))) ∧
      parseDirectoryRecord (slice iso (descriptorOffset k + 156) (descriptorOffset k + 190)) =
        .error .structError ∧
      main fuel iso = ⟨[], .raise .structError⟩ := by
  have hpvd : parseIso9660PrimaryVolumeDescriptor iso =
      .ok (some (slice iso (descriptorOffset k + 156) (descriptorOffset k + 190),
        leNat (slice iso (descriptorOffset k + 128) (descriptorOffset k + 130)))) := by
    rw [parseIso9660PrimaryVolumeDescriptor_primary hbefore hk, parsePrimary_slice, if_pos hascii,
      if_neg (by omega)]
    rfl
  have hlen34 : (slice iso (descriptorOffset k + 156) (descriptorOffset k + 190)).length = 34 := by
    rw [length_slice_of_le hlen]; omega
  obtain ⟨x, t, hxt⟩ := List.exists_cons_of_length_pos
    (show 0 < (slice iso (descriptorOffset k + 156) (descriptorOffset k + 190)).length by omega)
  have hx : x ≠ 0 := by
    rintro rfl
    apply hroot
    have := getElem?_slice iso (descriptorOffset k + 156) (descriptorOffset k + 190) 0
    rw [hxt, if_pos (by omega)] at this
    simpa using this.symm
  have hdec :
      parseDirectoryRecord (slice iso (descriptorOffset k + 156) (descriptorOffset k + 190)) =
        .error .structError := by
    rw [hxt, parseDirectoryRecord_cons t hx, if_neg]
    rw [hxt] at hlen34
    simp at hlen34; omega
  exact ⟨hpvd, hdec, main_of_root_error hpvd (by rw [hxt]; simp) hdec⟩

/-- The system area: the sixteen sectors before the first volume descriptor. -/
def systemArea : Bytes := List.replicate 0x8000 0

theorem length_systemArea : systemArea.length = descriptorOffset 0 := List.length_replicate _ _

/-- The primary descriptor of the sample image: block size 2048, and a root directory of one
sector at extent 18. -/
def samplePvd : Bytes :=
  [1, 67, 68, 48, 48, 49, 1] ++ List.replicate 121 0 ++ [0, 8, 8, 0] ++ List.replicate 24 0 ++
    encodeDirectoryRecord 18 2048 2 ['\x00'] (List.replicate 7 0) [0, 0, 1, 0, 0, 1] ++
    List.replicate 1858 0

/-- Sectors 16 to 19 of the ISO 9660 image of the tree holding one file `A` with the byte
`0x2a`: primary descriptor, terminator, root directory (`.`, `..`, `A`) at sector 18, and the
file's data at sector 19. -/
def sampleSectors : Bytes :=
  samplePvd ++ ([255, 67, 68, 48, 48, 49, 1] ++ List.replicate 2041 0) ++
    (encodeDirectoryRecord 18 2048 2 ['\x00'] (List.replicate 7 0) [0, 0, 1, 0, 0, 1] ++
      encodeDirectoryRecord 18 2048 2 ['\x01'] (List.replicate 7 0) [0, 0, 1, 0, 0, 1] ++
      encodeDirectoryRecord 19 1 0 ['A'] (List.replicate 7 0) [0, 0, 1, 0, 0, 1] ++
      List.replicate 1946 0) ++
    ([42] ++ List.replicate 2047 0)

/-- The whole sample image. -/
def sampleImage : Bytes := systemArea ++ sampleSectors

/-- The sample image meets the hypotheses, and `main` raises `struct.error` on it. -/
theorem main_sample_image_raises :
    (∀ j < 0, ∃ t, descriptorType sampleImage j = some t ∧ t ≠ 1 ∧ t ≠ 255) ∧
      descriptorType sampleImage 0 = some 1 ∧
      (slice sampleImage (descriptorOffset 0 + 8) (descriptorOffset 0 + 72)).all (· < 128) ∧
      descriptorOffset 0 + 190 ≤ sampleImage.length ∧
      sampleImage[descriptorOffset 0 + 156]? ≠ some 0 ∧
      ∀ fuel, main fuel sampleImage = ⟨[], .raise .structError⟩ := by
  have hat : ∀ i, sampleImage[descriptorOffset 0 + i]? = sampleSectors[i]? := fun i => by
    rw [sampleImage, ← length_systemArea, getElem?_append_length]
  have htype : descriptorType sampleImage 0 = some 1 := by
    rw [descriptorType, ← Nat.add_zero (descriptorOffset 0), hat, ← List.head?_eq_getElem?]; rfl
  have hascii :
      (slice sampleImage (descriptorOffset 0 + 8) (descriptorOffset 0 + 72)).all (· < 128) := by
    rw [sampleImage, ← length_systemArea, slice_append_length]
    decide
  have hlen : descriptorOffset 0 + 190 ≤ sampleImage.length := by
    have h := List.length_pos.mpr (show sampleSectors.drop 189 ≠ [] by decide)
    rw [List.length_drop] at h
    rw [sampleImage, List.length_append, length_systemArea]
    omega
  have hroot : sampleImage[descriptorOffset 0 + 156]? ≠ some 0 := by
    rw [hat, ← List.head?_drop]; decide
  exact ⟨fun j hj => absurd hj (Nat.not_lt_zero j), htype, hascii, hlen, hroot,
    fun fuel => (main_standard_root_raises fuel sampleImage 0
      (fun j hj => absurd hj (Nat.not_lt_zero j)) htype hascii hlen hroot).2.2⟩

/-! ## 7. What a run leaves behind -/

/-- **`main` writes nothing and never exits 0**, on every image and with any fuel: it returns 1
or raises.  The scan and the root record's decoder end it before any lookup, or the decoder
returns `None` and the first kernel candidate raises `TypeError`; no candidate, and not the
signature fallback, is ever reached with a lookup that returns. -/
theorem main_never_writes (fuel : Nat) (iso : Bytes) :
    main fuel iso = ⟨[], .ret 1⟩ ∨ ∃ e, main fuel iso = ⟨[], .raise e⟩ := by
  rcases hp : parseIso9660PrimaryVolumeDescriptor iso with e | _ | ⟨rootBytes, blockSize⟩
  · exact .inr ⟨e, main_of_pvd_error hp⟩
  · exact .inl (main_of_pvd_none hp)
  by_cases hne : rootBytes = []
  · subst hne
    exact .inl (main_of_empty_root hp)
  rcases hr : parseDirectoryRecord rootBytes with e | root
  · exact .inr ⟨e, main_of_root_error hp hne hr⟩
  · refine .inr ⟨.typeError, ?_⟩
    rw [main_of_root hp hne hr]
    have hsplit : possiblePaths = [] ++ ["install.amd", "vmlinuz"] :: possiblePaths.tail := rfl
    exact mainTail_of_raise hsplit nofun (findFileInPath_of_decoded_root hr _ _)

/-- The sample image with the kernel signature as its first four bytes, in the system area. -/
def signatureImage : Bytes := kernelMagic ++ List.replicate (0x8000 - 4) 0 ++ sampleSectors

theorem main_signature_image_writes_nothing :
    slice signatureImage 0 4 = kernelMagic ∧
      ∀ fuel, main fuel signatureImage = ⟨[], .ret 1⟩ ∨
        ∃ e, main fuel signatureImage = ⟨[], .raise e⟩ :=
  ⟨rfl, fun fuel => main_never_writes fuel signatureImage⟩

end VmTools.Iso
