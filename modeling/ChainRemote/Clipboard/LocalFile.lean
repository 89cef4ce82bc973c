import ChainRemote.Lib.Utf16

/-!
# Files on the clipboard of this side

A copied file is described to the other side by a record of 592 bytes and read from the disk when
the other side asks for parts of it. What the disk does is an argument of the operations.
-/

namespace ChainRemote.Clipboard

open Lib

abbrev Bytes := List UInt8

/-- `CliprdrError`, as far as copied files raise it. -/
inductive CliprdrError
  | invalidRequest (description : String)
  | fileError (path : String)
  | conversionFailure
deriving DecidableEq, Repr

/-- `LocalFile`. -/
structure LocalFile where
  path : String
  /-- `path` without `relative_root`, or as it is where it is not below it. -/
  relativePath : String
  size : UInt64
  /-- `last_write_time`, in nanoseconds from 1970. -/
  lastWriteTime : Int
  isDir : Bool
  perm : UInt32
  readOnly : Bool := false
  hidden : Bool := false
  system : Bool := false
  archive : Bool := false
  normal : Bool := false
  /-- `handle` is there. -/
  handle : Bool := false
  offset : UInt64 := 0
deriving DecidableEq, Repr

/-- `FLAGS_FD_ATTRIBUTES`. -/
def flagsFdAttributes : UInt32 := 0x04

/-- `FLAGS_FD_SIZE`. -/
def flagsFdSize : UInt32 := 0x40

/-- `FLAGS_FD_LAST_WRITE`. -/
def flagsFdLastWrite : UInt32 := 0x20

/-- `FLAGS_FD_PROGRESSUI`. -/
def flagsFdProgressui : UInt32 := 0x4000

/-- `FLAGS_FD_UNIX_MODE`. -/
def flagsFdUnixMode : UInt32 := 0x08

/-- The flags in every record. -/
def sentFlags : UInt32 :=
  flagsFdSize ||| flagsFdLastWrite ||| flagsFdAttributes ||| flagsFdProgressui ||| flagsFdUnixMode

/-- `LDAP_EPOCH_DELTA`. -/
def ldapEpochDelta : UInt64 := 116444772610000000

/-- The length of the block of the name in a record. -/
def nameBlock : Nat := 520

namespace LocalFile

variable (file : LocalFile)

/-- The attributes in the record of a file. -/
def fileAttributes : UInt32 :=
  (if file.readOnly then 0x1 else 0) ||| (if file.hidden then 0x2 else 0) |||
    (if file.system then 0x4 else 0) ||| (if file.isDir then 0x10 else 0) |||
    (if file.archive then 0x20 else 0) ||| (if file.normal then 0x80 else 0)

/-- The time in the record of a file; one before 1970 counts as 1970. -/
def win32Time : UInt64 := UInt64.ofNat file.lastWriteTime.toNat / 100 + ldapEpochDelta

/-- The name in the record of a file. -/
def nameBytes : Bytes := unitBytes (encodeUtf16 file.relativePath.toList)

/-- `as_bin`; none where the name does not fit, which ends the process. -/
def asBin : Option Bytes :=
  let sizeHigh := file.size.toNat / 4294967296
  let sizeLow := file.size.toNat % 4294967296
  let name := file.nameBytes
  if name.length ≤ nameBlock then
    some (toLe 4 sentFlags.toNat ++ List.replicate 32 0 ++ toLe 4 file.fileAttributes.toNat ++
      List.replicate 12 0 ++ toLe 4 file.perm.toNat ++ toLe 8 file.win32Time.toNat ++
      toLe 4 sizeHigh ++ toLe 4 sizeLow ++ name ++ List.replicate (nameBlock - name.length) 0)
  else none

/-- The path that a file is sent under fits in its record. -/
def Fits : Prop :=
  (encodeUtf16 file.relativePath.toList).length ≤ 260

instance : Decidable file.Fits := inferInstanceAs (Decidable (_ ≤ _))

theorem length_nameBytes :
    file.nameBytes.length = 2 * (encodeUtf16 file.relativePath.toList).length :=
  length_unitBytes _

/-- A record is written exactly where the path fits, and has 592 bytes. -/
theorem asBin_fits :
    (file.Fits → ∃ record, file.asBin = some record ∧ record.length = 592) ∧
      (¬ file.Fits → file.asBin = none) := by
  have size := file.length_nameBytes
  have block : nameBlock = 520 := rfl
  constructor
  · intro fits
    have within : file.nameBytes.length ≤ nameBlock := by
      unfold Fits at fits
      omega
    refine ⟨_, if_pos within, ?_⟩
    simp only [List.length_append, length_toLe, List.length_replicate]
    omega
  · intro large
    have beyond : ¬ file.nameBytes.length ≤ nameBlock := by
      unfold Fits at large
      omega
    exact if_neg beyond

/-- `load_handle`, where the file can be opened or not. -/
def loadHandle (opens : Bool) : Except CliprdrError LocalFile :=
  if !file.isDir && !file.handle then
    if opens then .ok { file with handle := true } else .error (.fileError file.path)
  else .ok file

end LocalFile

/-- What the disk does during a request. -/
structure Io where
  /-- The file can be opened. -/
  opens : Bool
  /-- A seek succeeds. -/
  seeks : Bool
  /-- The bytes that a read gives, where it succeeds. -/
  reads : Option (Nat → UInt8)
  /-- The next file can be opened. -/
  opensNext : Bool

/-- Additions and allocations that were made on the way. -/
structure Work where
  additions : List (UInt64 × UInt64) := []
  allocations : List UInt64 := []
deriving DecidableEq, Repr

/-- `read_exact_at` into a buffer of some length. -/
def LocalFile.readExactAt (io : Io) (bufLen offset : UInt64) (file : LocalFile) :
    Except CliprdrError Bytes × LocalFile × Work :=
  match file.loadHandle io.opens with
  | .error e => (.error e, file, {})
  | .ok file =>
    if !file.handle then (.error (.fileError file.path), file, {})
    else if offset != file.offset && !io.seeks then (.error (.fileError file.path), file, {})
    else
      match io.reads with
      | none => (.error (.fileError file.path), file, {})
      | some byte =>
        let newOffset := offset + bufLen
        let file :=
          if newOffset ≥ file.size then { file with offset := 0, handle := false }
          else { file with offset := newOffset }
        (.ok ((List.range bufLen.toNat).map byte), file, { additions := [(offset, bufLen)] })

end ChainRemote.Clipboard
