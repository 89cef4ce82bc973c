import Mathlib.Tactic.ByContra
import ChainRemote.Clipboard.ServFiles

/-!
# Ranges of files between the two sides

The side that pastes cuts an offset of 64 bits into two signed halves of 32 bits and sends a length
as a signed number of 32 bits; the side that copied puts them together again. Its casts extend the
sign, so a half or a length with the highest bit set becomes a number near the end of 64 bits.
-/

namespace ChainRemote.Clipboard

open Lib

/-- What `read_node` uses of a `FuseNode`. -/
structure FuseNode where
  connId : Int32
  streamId : Int32
  index : Nat
deriving DecidableEq

/-- The request of `read_node`. -/
def FuseNode.request (node : FuseNode) (offset : Int64) (size : UInt32) : ContentsRequest where
  streamId := node.streamId
  listIndex := Int32.ofNat node.index
  dwFlags := 2
  nPositionLow := (offset &&& 0xffffffff).toInt32
  nPositionHigh := (offset >>> 32).toInt32
  cbRequested := size.toInt32

/-- `as u64` keeps a number that is not negative and moves the others to the end of 64 bits. -/
theorem toNat_asU64 (n : Int32) :
    ((asU64 n).toNat : Int) = if 0 ≤ n.toInt then n.toInt else n.toInt + 18446744073709551616 := by
  have same : n.toInt64.toInt = n.toInt := Int32.toInt_toInt64 n
  have bits : (asU64 n).toNat = n.toInt64.toBitVec.toNat := rfl
  have signed := BitVec.toInt_eq_toNat_cond n.toInt64.toBitVec
  have bound := n.toInt64.toBitVec.isLt
  rw [Int64.toInt_toBitVec, same] at signed
  rw [bits]
  split at signed
  · rw [if_pos (by omega)]
    omega
  · rw [if_neg (by omega)]
    omega

/-- The bits of an offset that is not negative are its number. -/
theorem toNat_toBitVec_of_nonneg {offset : Int64} (positive : 0 ≤ offset.toInt) :
    (offset.toBitVec.toNat : Int) = offset.toInt := by
  have signed := BitVec.toInt_eq_toNat_cond offset.toBitVec
  have bound := offset.toBitVec.isLt
  rw [Int64.toInt_toBitVec] at signed
  split at signed
  · exact signed.symm
  · omega

section Request

variable (node : FuseNode) (offset : Int64) (size : UInt32)

/-- The upper half of an offset. -/
theorem toInt_nPositionHigh (positive : 0 ≤ offset.toInt) :
    (node.request offset size).nPositionHigh.toInt = offset.toInt / 4294967296 := by
  have bound : offset.toInt < 9223372036854775808 := offset.toInt_lt
  have shifted : (offset >>> 32).toInt = offset.toInt / 4294967296 := by
    rw [← Int64.toInt_toBitVec, Int64.toBitVec_shiftRight, BitVec.toInt_sshiftRight',
      Int64.toInt_toBitVec, Int.shiftRight_eq_div_pow]
    rfl
  show (offset >>> 32).toInt32.toInt = _
  rw [Int64.toInt_toInt32, shifted]
  apply Int.bmod_eq_of_le
  · omega
  · omega

/-- The lower half of an offset, as a signed number. -/
theorem toInt_nPositionLow (positive : 0 ≤ offset.toInt) :
    (node.request offset size).nPositionLow.toInt =
      if offset.toInt % 4294967296 < 2147483648 then offset.toInt % 4294967296
      else offset.toInt % 4294967296 - 4294967296 := by
  have bits := toNat_toBitVec_of_nonneg positive
  have masked : (offset &&& 0xffffffff).toBitVec.toNat = offset.toBitVec.toNat % 4294967296 := by
    rw [Int64.toBitVec_and, BitVec.toNat_and]
    exact Nat.and_two_pow_sub_one_eq_mod _ 32
  have low : (offset &&& 0xffffffff).toInt = offset.toInt % 4294967296 := by
    rw [← Int64.toInt_toBitVec, BitVec.toInt_eq_toNat_cond, masked, if_pos (by omega)]
    omega
  show (offset &&& 0xffffffff).toInt32.toInt = _
  rw [Int64.toInt_toInt32, low, Int.bmod_eq_emod]
  split
  · split
    · omega
    · omega
  · split
    · omega
    · omega

/-- A length, as a signed number. -/
theorem toInt_cbRequested :
    (node.request offset size).cbRequested.toInt =
      if size.toNat < 2147483648 then (size.toNat : Int) else size.toNat - 4294967296 := by
  have signed := BitVec.toInt_eq_toNat_cond size.toBitVec
  show size.toBitVec.toInt = _
  rw [signed, UInt32.toNat_toBitVec]
  split
  · rw [if_pos (by omega)]
  · rw [if_neg (by omega)]
    rfl

end Request

/-- Two halves put together, where the upper one has no more than 32 bits. -/
theorem toNat_shift_or {upper : UInt64} (small : upper.toNat < 4294967296) (lower : UInt64) :
    (upper <<< 32 ||| lower).toNat = upper.toNat * 4294967296 ||| lower.toNat := by
  have shift : upper.toNat <<< ((32 : UInt64).toNat % 64) = upper.toNat * 4294967296 :=
    Nat.shiftLeft_eq _ _
  rw [UInt64.toNat_or, UInt64.toNat_shiftLeft, shift, Nat.mod_eq_of_lt (by omega)]

/-- The offset that is put together again: the one that was cut, where its lower half has no
sign. -/
theorem toNat_joined (node : FuseNode) (offset : Int64) (size : UInt32)
    (positive : 0 ≤ offset.toInt) :
    asU64 (node.request offset size).nPositionHigh <<< 32 |||
        asU64 (node.request offset size).nPositionLow = offset.toUInt64 ↔
      offset.toInt % 4294967296 < 2147483648 := by
  have bound : offset.toInt < 9223372036854775808 := offset.toInt_lt
  have whole : (offset.toUInt64.toNat : Int) = offset.toInt := toNat_toBitVec_of_nonneg positive
  have high := toNat_asU64 (node.request offset size).nPositionHigh
  have low := toNat_asU64 (node.request offset size).nPositionLow
  rw [toInt_nPositionHigh node offset size positive, if_pos (by omega)] at high
  rw [toInt_nPositionLow node offset size positive] at low
  generalize asU64 (node.request offset size).nPositionHigh = upper at high
  generalize asU64 (node.request offset size).nPositionLow = lower at low
  have joined := toNat_shift_or (show upper.toNat < 4294967296 by omega) lower
  constructor
  · -- a lower half with a sign is longer than the whole offset
    intro same
    by_contra sign
    rw [if_neg sign, if_neg (by omega)] at low
    have above : lower.toNat ≤ (upper <<< 32 ||| lower).toNat := by
      rw [joined]
      exact Nat.right_le_or
    rw [same] at above
    omega
  · intro unsigned
    rw [if_pos unsigned, if_pos (by omega)] at low
    have small : lower.toNat < 2 ^ 32 := by omega
    have sum : upper.toNat * 4294967296 + lower.toNat =
        upper.toNat * 4294967296 ||| lower.toNat := by
      have shifted := Nat.shiftLeft_add_eq_or_of_lt small upper.toNat
      rwa [Nat.shiftLeft_eq] at shifted
    apply UInt64.toNat_inj.mp
    rw [joined]
    omega

/-- The length that arrives: the one that was asked for, where it has no sign. -/
theorem asU64_cbRequested (node : FuseNode) (offset : Int64) (size : UInt32) :
    asU64 (node.request offset size).cbRequested = size.toUInt64 ↔ size.toNat < 2147483648 := by
  have sent := toNat_asU64 (node.request offset size).cbRequested
  have bound := size.toNat_lt
  rw [toInt_cbRequested] at sent
  rw [← UInt64.toNat_inj, UInt32.toNat_toUInt64]
  constructor
  · intro same
    by_contra sign
    rw [if_neg sign, if_neg (by omega)] at sent
    omega
  · intro unsigned
    rw [if_pos unsigned, if_pos (by omega)] at sent
    omega

/-- A request arrives as it was made exactly where neither the lower half of its offset nor its
length has the highest bit. -/
theorem decode_request (node : FuseNode) (offset : Int64) (size : UInt32)
    (positive : 0 ≤ offset.toInt) :
    (node.request offset size).decode =
        .ok (.range node.streamId (asU64 (Int32.ofNat node.index)) offset.toUInt64
          size.toUInt64) ↔
      offset.toInt % 4294967296 < 2147483648 ∧ size.toNat < 2147483648 := by
  have decoded : (node.request offset size).decode =
      .ok (.range node.streamId (asU64 (Int32.ofNat node.index))
        (asU64 (node.request offset size).nPositionHigh <<< 32 |||
          asU64 (node.request offset size).nPositionLow)
        (asU64 (node.request offset size).cbRequested)) := rfl
  rw [decoded, Except.ok.injEq, FileContentsRequest.range.injEq,
    toNat_joined node offset size positive, asU64_cbRequested]
  simp only [true_and]

/-- No addition leaves 64 bits. -/
def Work.Exact (work : Work) : Prop :=
  ∀ addition ∈ work.additions, addition.1.toNat + addition.2.toNat < 18446744073709551616

/-- A request is served without an addition that overflows and without an allocation beyond the
size of the entry it names. -/
def ServedSafely (connId : Int32) (io : Io) (sent : ContentsRequest) (clip : ClipFiles) : Prop :=
  ∀ request, sent.decode = .ok request →
    let work := (clip.serveFileContents connId io request).work
    work.Exact ∧ ∀ n ∈ work.allocations,
      ∃ file, clip.fileList[(asU64 sent.listIndex).toNat]? = some file ∧
        n.toNat ≤ file.size.toNat

namespace ClipFiles

variable {clip : ClipFiles} {io : Io} {connId : Int32}

theorem hotReload_work (clip : ClipFiles) (io : Io) (fileIdx : UInt64) (response : ClipboardFile)
    (work : Work) :
    (clip.hotReload io fileIdx response work).work =
      { work with additions := work.additions ++ [(fileIdx, 1)] } := by
  unfold hotReload
  simp only
  split
  · rfl
  · rfl

/-- An index that is in the list has a successor. -/
theorem index_succ {fileIdx : UInt64} {file : LocalFile}
    (found : clip.fileList[fileIdx.toNat]? = some file) :
    fileIdx.toNat + (1 : UInt64).toNat < 18446744073709551616 := by
  have inside : fileIdx.toNat < clip.fileList.length := (List.getElem?_eq_some_iff.mp found).1
  have fits := clip.fits
  have bound : isizeMax + 1 < 18446744073709551616 := by decide
  show fileIdx.toNat + 1 < _
  omega

/-- What `read_exact_at` adds: the length of its buffer to the offset, if anything. -/
theorem readExactAt_additions (io : Io) (bufLen offset : UInt64) (file : LocalFile) :
    ∀ addition ∈ (file.readExactAt io bufLen offset).2.2.additions,
      addition = (offset, bufLen) := by
  unfold LocalFile.readExactAt
  split
  · exact nofun
  · split
    · exact nofun
    · split
      · exact nofun
      · split
        · exact nofun
        · intro addition inside
          exact List.mem_singleton.mp inside

/-- What is read stays in the file, where the sum of offset and length does. -/
theorem readSize_bound {offset length size : UInt64} (within : ¬ offset > size)
    (sum : offset.toNat + length.toNat < 18446744073709551616) :
    offset.toNat + (readSize offset length size).toNat ≤ size.toNat := by
  unfold readSize
  have within : offset.toNat ≤ size.toNat := UInt64.le_iff_toNat_le.mp (UInt64.not_lt.mp within)
  have added : (offset + length).toNat = offset.toNat + length.toNat := by
    rw [UInt64.toNat_add, Nat.mod_eq_of_lt sum]
  split
  · rw [UInt64.toNat_sub_of_le _ _ (UInt64.le_iff_toNat_le.mpr within)]
    omega
  · rename_i short
    have short : (offset + length).toNat ≤ size.toNat :=
      UInt64.le_iff_toNat_le.mp (UInt64.not_lt.mp short)
    omega

/-- What serving a range adds and allocates. -/
theorem serveRange_work (clip : ClipFiles) (connId : Int32) (io : Io) (streamId : Int32)
    (fileIdx offset length : UInt64) {file : LocalFile} (within : ¬ offset > file.size) :
    ∃ more, (clip.serveRange connId io streamId fileIdx offset length file).work =
        { additions := (offset, length) :: more
          allocations := [readSize offset length file.size] } ∧
      ∀ addition ∈ more,
        addition = (offset, readSize offset length file.size) ∨ addition = (fileIdx, 1) := by
  have reading := readExactAt_additions io (readSize offset length file.size) offset file
  unfold serveRange
  rw [if_neg within]
  simp only
  split
  · exact ⟨[], rfl, nofun⟩
  · split
    · exact ⟨_, rfl, fun addition listed => .inl (reading addition listed)⟩
    · rw [hotReload_work]
      refine ⟨_, rfl, ?_⟩
      intro addition listed
      rcases List.mem_append.mp listed with read | last
      · exact .inl (reading addition read)
      · exact .inr (List.mem_singleton.mp last)

end ClipFiles

/-- A request names the entry by the index that was sent. -/
theorem decode_index {sent : ContentsRequest} {streamId : Int32}
    {fileIdx offset length : UInt64}
    (decoded : sent.decode = .ok (.range streamId fileIdx offset length)) :
    fileIdx = asU64 sent.listIndex := by
  unfold ContentsRequest.decode at decoded
  split at decoded
  · cases decoded
  · split at decoded
    · have request := Except.ok.inj decoded
      injection request with _ index
      exact index.symm
    · cases decoded

/-- A request for a range adds its length to its offset; serving it is safe exactly where this sum
stays in 64 bits for every offset that is not behind the end of the file. -/
theorem servedSafely_iff (connId : Int32) (io : Io) (sent : ContentsRequest) (clip : ClipFiles) :
    ServedSafely connId io sent clip ↔
      ∀ streamId fileIdx offset length file,
        sent.decode = .ok (.range streamId fileIdx offset length) →
        clip.fileList[fileIdx.toNat]? = some file → offset ≤ file.size →
        offset.toNat + length.toNat < 18446744073709551616 := by
  constructor
  · intro safely streamId fileIdx offset length file decoded found within
    obtain ⟨exact, -⟩ := safely _ decoded
    obtain ⟨more, work, -⟩ :=
      clip.serveRange_work connId io streamId fileIdx offset length (UInt64.not_lt.mpr within)
    simp only [ClipFiles.serveFileContents, found, work, Work.Exact] at exact
    exact exact (offset, length) List.mem_cons_self
  · intro sums request decoded
    cases request with
    | size streamId fileIdx =>
      simp only [ClipFiles.serveFileContents]
      cases found : clip.fileList[fileIdx.toNat]? with
      | none => exact ⟨nofun, nofun⟩
      | some file =>
        simp only [ClipFiles.hotReload_work]
        refine ⟨?_, nofun⟩
        intro addition listed
        obtain rfl := List.mem_singleton.mp listed
        exact ClipFiles.index_succ found
    | range streamId fileIdx offset length =>
      simp only [ClipFiles.serveFileContents]
      cases found : clip.fileList[fileIdx.toNat]? with
      | none => exact ⟨nofun, nofun⟩
      | some file =>
        simp only
        by_cases within : offset > file.size
        · rw [ClipFiles.serveRange, if_pos within]
          exact ⟨nofun, nofun⟩
        · have sum := sums streamId fileIdx offset length file decoded found
            (UInt64.not_lt.mp within)
          have read := ClipFiles.readSize_bound within sum
          have index := decode_index decoded
          obtain ⟨more, work, others⟩ :=
            clip.serveRange_work connId io streamId fileIdx offset length within
          rw [work]
          constructor
          · intro addition listed
            rcases List.mem_cons.mp listed with rfl | later
            · exact sum
            · rcases others addition later with rfl | rfl
              · exact Nat.lt_of_le_of_lt read file.size.toNat_lt
              · exact ClipFiles.index_succ found
          · intro n listed
            obtain rfl := List.mem_singleton.mp listed
            exact ⟨file, by rw [← index, found], by omega⟩

/-- A request arrives as it was made exactly where neither the lower half of its offset nor its
length has the highest bit; and a request is served safely exactly where, if it is for a range of an
entry that begins in the file, its offset and its length add up in 64 bits. -/
theorem file_range_iff (node : FuseNode) (offset : Int64) (size : UInt32)
    (positive : 0 ≤ offset.toInt) (connId : Int32) (io : Io) (sent : ContentsRequest)
    (clip : ClipFiles) :
    ((node.request offset size).decode =
        .ok (.range node.streamId (asU64 (Int32.ofNat node.index)) offset.toUInt64
          size.toUInt64) ↔
      offset.toInt % 4294967296 < 2147483648 ∧ size.toNat < 2147483648) ∧
    (ServedSafely connId io sent clip ↔
      ∀ streamId fileIdx offset length file,
        sent.decode = .ok (.range streamId fileIdx offset length) →
        clip.fileList[fileIdx.toNat]? = some file → offset ≤ file.size →
        offset.toNat + length.toNat < 18446744073709551616) :=
  ⟨decode_request node offset size positive, servedSafely_iff connId io sent clip⟩

/-- A file of one byte. -/
def tiny : LocalFile where
  path := "/tmp/a"
  relativePath := "a"
  size := 1
  lastWriteTime := 0
  isDir := false
  perm := 33188

theorem tiny_fits : [tiny].length ≤ isizeMax := by decide

/-- A clipboard with that file. -/
def tinyClip : ClipFiles where
  files := ["/tmp/a"]
  fileList := [tiny]
  fits := tiny_fits

theorem first_block_exact :
    ((⟨1, 7, 0⟩ : FuseNode).request 0 65536).decode = .ok (.range 7 0 0 65536) ∧
      ServedSafely 1 ⟨true, true, some fun _ => 97, true⟩
        ((⟨1, 7, 0⟩ : FuseNode).request 0 65536) tinyClip := by
  have exact := file_range_iff ⟨1, 7, 0⟩ 0 65536 (by decide) 1
    ⟨true, true, some fun _ => 97, true⟩ ((⟨1, 7, 0⟩ : FuseNode).request 0 65536) tinyClip
  have decoded := exact.1.mpr (by decide)
  refine ⟨decoded, exact.2.mpr ?_⟩
  intro streamId fileIdx offset length file same _ _
  rw [decoded] at same
  obtain ⟨-, -, rfl, rfl⟩ := FileContentsRequest.range.inj (Except.ok.inj same)
  decide

/-- A request for -1 bytes behind the first one. -/
def negative : ContentsRequest where
  streamId := 7
  listIndex := 0
  dwFlags := 2
  nPositionLow := 1
  nPositionHigh := 0
  cbRequested := -1

/-- The block of 64 KiB at 2 GiB is asked for near the end of 64 bits; and a negative length makes
the sum overflow and the allocation as long as the length. -/
theorem file_range_fails :
    ((⟨1, 7, 0⟩ : FuseNode).request 2147483648 65536).decode =
        .ok (.range 7 0 18446744071562067968 65536) ∧
      ((⟨1, 7, 0⟩ : FuseNode).request 2147483648 65536).decode ≠
        .ok (.range 7 0 2147483648 65536) ∧
      (tinyClip.serveFileContents 1 ⟨true, true, none, true⟩
          (.range 7 0 1 18446744073709551615)).work =
        ⟨[(1, 18446744073709551615)], [18446744073709551615]⟩ ∧
      ¬ ServedSafely 1 ⟨true, true, none, true⟩ negative tinyClip := by
  have served : (tinyClip.serveFileContents 1 ⟨true, true, none, true⟩
      (.range 7 0 1 18446744073709551615)).work =
      ⟨[(1, 18446744073709551615)], [18446744073709551615]⟩ := by decide +kernel
  refine ⟨rfl, ?_, served, ?_⟩
  · intro same
    have request : FileContentsRequest.range 7 0 18446744071562067968 65536 =
        .range 7 0 2147483648 65536 := Except.ok.inj same
    revert request
    decide
  intro safely
  have decoded : negative.decode = .ok (.range 7 0 1 18446744073709551615) := rfl
  obtain ⟨exact, -⟩ := safely _ decoded
  rw [served] at exact
  exact absurd (exact _ List.mem_cons_self) (by decide)

end ChainRemote.Clipboard
