import Mathlib.Data.List.DropRight
import Mathlib.Data.List.Forall2
import ChainRemote.Clipboard.ServFiles

/-!
# The list of copied files on the other side

The list is a number of entries and a record of 592 bytes for each. The side that pastes takes the
records apart again.
-/

namespace ChainRemote.Clipboard

open Lib

/-- `FileType`. -/
inductive FileType
  | file
  | directory
  | symlink
deriving DecidableEq, Repr

/-- `PERM_READ`. -/
def permRead : UInt16 := 0o444

/-- `PERM_RW`. -/
def permRw : UInt16 := 0o644

/-- `PERM_SELF_RO`. -/
def permSelfRo : UInt16 := 0o400

/-- `PERM_RWX`. -/
def permRwx : UInt16 := 0o755

/-- `FileDescription`; its times are in nanoseconds from 1970. -/
structure FileDescription where
  connId : Int32
  name : String
  kind : FileType
  atime : Nat
  lastModified : Nat
  lastMetadataChanged : Nat
  creationTime : Nat
  size : UInt64
  perm : UInt16
deriving DecidableEq, Repr

/-- Takes a little-endian number from bytes. -/
def getLe (width : Nat) (bytes : Bytes) : Nat × Bytes := (ofLe (bytes.take width), bytes.drop width)

/-- The name in the block of a record; none where it is no UTF-16. -/
def parseName (block : Bytes) : Option String := do
  let units ← bytesUnits block
  let text ← decodeUtf16 units
  let text := text.map fun c => if c = '\\' then '/' else c
  return String.ofList (text.rdropWhile (· = '\x00'))

/-- The name that the characters of a block are read as. -/
def blockName (text : List Char) : String :=
  String.ofList ((text.map fun c => if c = '\\' then '/' else c).rdropWhile (· = '\x00'))

theorem parseName_eq (block : Bytes) :
    parseName block = ((bytesUnits block).bind decodeUtf16).map blockName := by
  unfold parseName
  cases bytesUnits block with
  | none => rfl
  | some units =>
    show (decodeUtf16 units).bind _ = (decodeUtf16 units).map blockName
    cases decodeUtf16 units with
    | none => rfl
    | some text => rfl

/-- The time of a record. -/
def parseTime (flags : UInt32) (lastWriteTime : UInt64) : Nat :=
  if flags &&& flagsFdLastWrite ≠ 0 ∧ lastWriteTime ≥ ldapEpochDelta then
    ((lastWriteTime - ldapEpochDelta) * 100).toNat
  else 0

/-- The mode of a record. -/
def parsePerm (flags attributes : UInt32) (perm : UInt16) : UInt16 :=
  if flags &&& flagsFdUnixMode ≠ 0 then perm
  else if attributes = 0x80 then permRwx
  else if attributes &&& 0x01 ≠ 0 then permRead
  else if attributes &&& 0x02 ≠ 0 then permSelfRo
  else if attributes &&& 0x10 ≠ 0 then permRwx
  else permRw

/-- `parse_file_descriptor`: the description and the bytes after the record. -/
def parseFileDescriptor (bytes : Bytes) (connId : Int32) :
    Except CliprdrError (FileDescription × Bytes) :=
  let (flags, bytes) := getLe 4 bytes
  let bytes := bytes.drop 32
  let (attributes, bytes) := getLe 4 bytes
  let bytes := bytes.drop 12
  let (perm, bytes) := getLe 4 bytes
  let (lastWriteTime, bytes) := getLe 8 bytes
  let (fileSizeHigh, bytes) := getLe 4 bytes
  let (fileSizeLow, bytes) := getLe 4 bytes
  let block := bytes.take nameBlock
  let bytes := bytes.drop nameBlock
  let flags := UInt32.ofNat flags
  let attributes := UInt32.ofNat attributes
  match parseName block with
  | none => .error .conversionFailure
  | some name =>
    if flags &&& flagsFdAttributes = 0 then
      .error (.invalidRequest "file description must have valid attributes")
    else
      let lastModified := parseTime flags (UInt64.ofNat lastWriteTime)
      .ok ({
        connId
        name
        kind := if attributes &&& 0x10 ≠ 0 then .directory else .file
        atime := lastModified
        lastModified
        lastMetadataChanged := lastModified
        creationTime := lastModified
        size := (UInt64.ofNat fileSizeHigh <<< 32) + UInt64.ofNat fileSizeLow
        perm := parsePerm flags attributes (UInt16.ofNat perm) }, bytes)

/-- The loop of `parse_file_descriptors`. -/
def parseRecords (connId : Int32) : Nat → Bytes → Except CliprdrError (List FileDescription)
  | 0, _ => .ok []
  | count + 1, bytes => do
    let (desc, bytes) ← parseFileDescriptor bytes connId
    let files ← parseRecords connId count bytes
    return desc :: files

/-- `parse_file_descriptors`. -/
def parseFileDescriptors (fileDescriptorPdu : Bytes) (connId : Int32) :
    Except CliprdrError (List FileDescription) :=
  if fileDescriptorPdu.length < 4 then
    .error (.invalidRequest "file descriptor request with infficient length")
  else
    let (count, data) := getLe 4 fileDescriptorPdu
    if data.length = 0 ∧ count = 0 then .ok []
    else if data.length ≠ 592 * count then
      .error (.invalidRequest "file descriptor request with invalid length")
    else parseRecords connId count data

/-- The first moment of 2551, in nanoseconds from 1970. -/
def year2551 : Int := 18334598400000000000

/-- A file that a record can describe: its path is no longer than the block of the name, has no
backslash and no NUL at its end, and its time and mode fit. -/
structure Describable (file : LocalFile) : Prop where
  slashes : '\\' ∉ file.relativePath.toList
  named : file.relativePath ≠ ""
  ended : file.relativePath.toList.getLast? ≠ some '\x00'
  short : (encodeUtf16 file.relativePath.toList).length ≤ 260
  since : 0 ≤ file.lastWriteTime
  before : file.lastWriteTime < year2551
  mode : file.perm.toNat < 65536

/-- What the other side has to know of a file. -/
def LocalFile.describe (connId : Int32) (file : LocalFile) : FileDescription :=
  let time := file.lastWriteTime.toNat / 100 * 100
  { connId
    name := file.relativePath
    kind := if file.isDir then .directory else .file
    atime := time
    lastModified := time
    lastMetadataChanged := time
    creationTime := time
    size := file.size
    perm := UInt16.ofNat file.perm.toNat }

/-- A description has the path, the kind, the size, the mode and the time of a file, the time down
to 100 nanoseconds. -/
structure Describes (file : LocalFile) (desc : FileDescription) : Prop where
  name : desc.name = file.relativePath
  kind : desc.kind = .directory ↔ file.isDir = true
  size : desc.size = file.size
  perm : desc.perm.toNat = file.perm.toNat
  lastModified : (desc.lastModified : Int) = file.lastWriteTime / 100 * 100

theorem Describable.describes {file : LocalFile} (describable : Describable file)
    (connId : Int32) : Describes file (file.describe connId) := by
  refine ⟨rfl, ?_, rfl, ?_, ?_⟩
  · show (if file.isDir = true then FileType.directory else .file) = .directory ↔ _
    by_cases dir : file.isDir = true
    · rw [if_pos dir]
      exact ⟨fun _ => dir, fun _ => rfl⟩
    · rw [if_neg dir]
      exact ⟨nofun, fun is => absurd is dir⟩
  · exact UInt16.toNat_ofNat_of_lt' describable.mode
  · have since := describable.since
    show ((file.lastWriteTime.toNat / 100 * 100 : Nat) : Int) = _
    omega

theorem getLe_append (width n : Nat) (rest : Bytes) :
    getLe width (toLe width n ++ rest) = (n % 256 ^ width, rest) := by
  rw [getLe, List.take_left' (length_toLe width n), List.drop_left' (length_toLe width n),
    ofLe_toLe]

theorem drop_zeros (n : Nat) (rest : Bytes) : (List.replicate n 0 ++ rest).drop n = rest :=
  List.drop_left' List.length_replicate

/-- Padding is cut off. -/
theorem blockName_padded (text : List Char) (n : Nat) :
    blockName (text ++ List.replicate n '\x00') = blockName text := by
  have nul : (if '\x00' = '\\' then '/' else '\x00') = '\x00' := if_neg (by decide)
  unfold blockName
  rw [List.map_append, List.map_replicate, nul]
  congr 1
  induction n with
  | zero => rw [List.replicate_zero, List.append_nil]
  | succ n ih =>
    rw [List.replicate_succ', ← List.append_assoc, List.rdropWhile_concat_pos _ _ _ (by decide), ih]

/-- A text without backslashes that does not end in NUL is a name as it is. -/
theorem blockName_self {text : List Char} (slashes : '\\' ∉ text)
    (ended : text.getLast? ≠ some '\x00') : blockName text = String.ofList text := by
  have plain : (text.map fun c => if c = '\\' then '/' else c) = text := by
    rw [List.map_congr_left (g := id), List.map_id]
    intro c inside
    refine if_neg ?_
    rintro rfl
    exact slashes inside
  unfold blockName
  rw [plain, List.rdropWhile_eq_self_iff.mpr]
  intro some last
  rw [List.getLast?_eq_some_getLast some] at ended
  exact ended (congrArg Option.some (of_decide_eq_true last))

theorem word32 (n : UInt32) : UInt32.ofNat (n.toNat % 256 ^ 4) = n := by
  have fits : n.toNat % 256 ^ 4 = n.toNat := Nat.mod_eq_of_lt n.toNat_lt
  rw [fits, UInt32.ofNat_toNat]

theorem word64 (n : UInt64) : UInt64.ofNat (n.toNat % 256 ^ 8) = n := by
  have fits : n.toNat % 256 ^ 8 = n.toNat := Nat.mod_eq_of_lt n.toNat_lt
  rw [fits, UInt64.ofNat_toNat]

theorem mode_word (n : UInt32) : UInt16.ofNat (n.toNat % 256 ^ 4) = UInt16.ofNat n.toNat := by
  have fits : n.toNat % 256 ^ 4 = n.toNat := Nat.mod_eq_of_lt n.toNat_lt
  rw [fits]

/-- The description that the other side takes from the record of a file. -/
def LocalFile.sent (connId : Int32) (file : LocalFile) : FileDescription :=
  let time := parseTime sentFlags file.win32Time
  { connId
    name := blockName file.relativePath.toList
    kind := if file.isDir then .directory else .file
    atime := time
    lastModified := time
    lastMetadataChanged := time
    creationTime := time
    size := file.size
    perm := UInt16.ofNat file.perm.toNat }

section Fields

variable {file : LocalFile}

/-- The name is read back: the padding is units of zero, which are cut off. -/
theorem LocalFile.parseName_sent (file : LocalFile) :
    parseName (file.nameBytes ++ List.replicate (nameBlock - file.nameBytes.length) 0) =
      some (blockName file.relativePath.toList) := by
  have size := file.length_nameBytes
  have padding : nameBlock - file.nameBytes.length =
      2 * (260 - (encodeUtf16 file.relativePath.toList).length) := by
    rw [size]
    show 520 - _ = _
    omega
  have block : file.nameBytes ++ List.replicate (nameBlock - file.nameBytes.length) 0 =
      unitBytes (encodeUtf16 file.relativePath.toList ++
        List.replicate (260 - (encodeUtf16 file.relativePath.toList).length) 0) := by
    rw [unitBytes_append, unitBytes_zeros, ← padding]
    rfl
  rw [parseName_eq, block, bytesUnits_unitBytes, Option.bind_some, decodeUtf16_encode,
    decodeUtf16_zeros, Option.map_eq_map, Option.map_some, Option.map_some, blockName_padded]

/-- A file is described as a directory exactly if it is one. -/
theorem directory_flag (file : LocalFile) :
    file.fileAttributes &&& 0x10 ≠ 0 ↔ file.isDir = true := by
  have table : ∀ readOnly hidden system isDir archive normal : Bool,
      ((if readOnly then 0x1 else 0) ||| (if hidden then 0x2 else 0) |||
        (if system then 0x4 else 0) ||| (if isDir then 0x10 else 0) |||
        (if archive then 0x20 else 0) ||| (if normal then 0x80 else (0 : UInt32))) &&& 0x10 ≠ 0 ↔
      isDir = true := by decide
  exact table file.readOnly file.hidden file.system file.isDir file.archive file.normal

/-- The time is read back up to 100 nanoseconds. -/
theorem parseTime_win32Time (describable : Describable file) (flags : UInt32)
    (valid : flags &&& flagsFdLastWrite ≠ 0) :
    parseTime flags file.win32Time = file.lastWriteTime.toNat / 100 * 100 := by
  have before := describable.before
  have small : file.lastWriteTime.toNat < 18334598400000000000 := by
    have since := describable.since
    rw [year2551] at before
    omega
  have time : (UInt64.ofNat file.lastWriteTime.toNat).toNat = file.lastWriteTime.toNat :=
    UInt64.toNat_ofNat_of_lt' (by
      show _ < 18446744073709551616
      omega)
  have delta : ldapEpochDelta.toNat = 116444772610000000 := rfl
  have ticks : file.win32Time.toNat = file.lastWriteTime.toNat / 100 + 116444772610000000 := by
    rw [LocalFile.win32Time, UInt64.toNat_add, UInt64.toNat_div, time, delta]
    apply Nat.mod_eq_of_lt
    show file.lastWriteTime.toNat / 100 + 116444772610000000 < 18446744073709551616
    omega
  have late : ldapEpochDelta ≤ file.win32Time := by
    rw [UInt64.le_iff_toNat_le, ticks, delta]
    omega
  rw [parseTime, if_pos ⟨valid, late⟩, UInt64.toNat_mul, UInt64.toNat_sub_of_le _ _ late, ticks,
    delta, Nat.add_sub_cancel]
  apply Nat.mod_eq_of_lt
  show file.lastWriteTime.toNat / 100 * 100 < 18446744073709551616
  omega

/-- The two halves of a size. -/
theorem join_size (size : UInt64) :
    (UInt64.ofNat (size.toNat / 4294967296 % 256 ^ 4) <<< 32) +
      UInt64.ofNat (size.toNat % 4294967296 % 256 ^ 4) = size := by
  have bound : size.toNat < 18446744073709551616 := size.toNat_lt
  have high : (UInt64.ofNat (size.toNat / 4294967296 % 256 ^ 4)).toNat =
      size.toNat / 4294967296 := by
    rw [UInt64.toNat_ofNat_of_lt' (by show _ < 18446744073709551616; omega)]
    omega
  have low : (UInt64.ofNat (size.toNat % 4294967296 % 256 ^ 4)).toNat =
      size.toNat % 4294967296 := by
    rw [UInt64.toNat_ofNat_of_lt' (by show _ < 18446744073709551616; omega)]
    omega
  have shifted : (UInt64.ofNat (size.toNat / 4294967296 % 256 ^ 4) <<< 32).toNat =
      size.toNat / 4294967296 * 4294967296 := by
    rw [UInt64.toNat_shiftLeft, high]
    have shift : (size.toNat / 4294967296) <<< ((32 : UInt64).toNat % 64) =
        size.toNat / 4294967296 * 4294967296 := Nat.shiftLeft_eq _ _
    rw [shift]
    apply Nat.mod_eq_of_lt
    show _ < 18446744073709551616
    omega
  apply UInt64.toNat_inj.mp
  rw [UInt64.toNat_add, shifted, low]
  have whole : size.toNat / 4294967296 * 4294967296 + size.toNat % 4294967296 = size.toNat := by
    omega
  rw [whole]
  exact Nat.mod_eq_of_lt bound

/-- Reading a record gives what was sent of its file. -/
theorem parseFileDescriptor_sent {record : Bytes} (written : file.asBin = some record)
    (connId : Int32) (rest : Bytes) :
    parseFileDescriptor (record ++ rest) connId = .ok (file.sent connId, rest) := by
  have fits : file.Fits := by
    by_contra large
    rw [file.asBin_fits.2 large] at written
    cases written
  have size := file.length_nameBytes
  have within : file.nameBytes.length ≤ nameBlock := by
    unfold LocalFile.Fits at fits
    show _ ≤ 520
    omega
  have block : (file.nameBytes ++
      List.replicate (nameBlock - file.nameBytes.length) 0).length = nameBlock := by
    rw [List.length_append, List.length_replicate]
    omega
  have taken : ((file.nameBytes ++
      List.replicate (nameBlock - file.nameBytes.length) 0) ++ rest).take nameBlock = _ :=
    List.take_left' block
  have dropped : ((file.nameBytes ++
      List.replicate (nameBlock - file.nameBytes.length) 0) ++ rest).drop nameBlock = _ :=
    List.drop_left' block
  have shape := (if_pos within).symm.trans written
  obtain rfl := Option.some.inj shape
  rw [List.append_assoc] at taken dropped
  have attributes : ¬ sentFlags &&& flagsFdAttributes = 0 := by decide
  have unix : sentFlags &&& flagsFdUnixMode ≠ 0 := by decide
  simp only [List.append_assoc, parseFileDescriptor, getLe_append, drop_zeros, taken, dropped,
    file.parseName_sent, word32, word64, if_neg attributes, join_size, directory_flag, parsePerm,
    if_pos unix, mode_word, LocalFile.sent]

/-- Of a file that a record can describe its description is sent. -/
theorem Describable.sent (describable : Describable file) (connId : Int32) :
    file.sent connId = file.describe connId := by
  have name := blockName_self describable.slashes describable.ended
  have time := parseTime_win32Time describable sentFlags (by decide)
  unfold LocalFile.sent LocalFile.describe
  rw [name, time, String.ofList_toList]

end Fields

/-- The records of a list are read back one after another. -/
theorem parseRecords_sent (connId : Int32) {files : List LocalFile} {records : List Bytes}
    (written : files.mapM LocalFile.asBin = some records) :
    parseRecords connId files.length records.flatten =
      .ok (files.map (LocalFile.sent connId)) := by
  induction files generalizing records with
  | nil => rfl
  | cons file rest ih =>
    rw [List.mapM_cons] at written
    obtain ⟨record, first, written⟩ := Option.bind_eq_some_iff.mp written
    obtain ⟨others, later, written⟩ := Option.bind_eq_some_iff.mp written
    obtain rfl := Option.some.inj written
    rw [List.flatten_cons, List.length_cons, parseRecords,
      parseFileDescriptor_sent first connId others.flatten]
    show (do
      let files ← parseRecords connId rest.length others.flatten
      return file.sent connId :: files) = _
    rw [ih later]
    rfl

/-- What the other side does with a list: it goes on to the records if their number fits in the
count. -/
theorem parseFileDescriptors_eq (connId : Int32) {n : Nat} {records : Bytes}
    (size : records.length = 592 * n) :
    parseFileDescriptors (toLe 4 n ++ records) connId =
      if n < 4294967296 then parseRecords connId n records
      else .error (.invalidRequest "file descriptor request with invalid length") := by
  have long : ¬ (toLe 4 n ++ records).length < 4 := by
    rw [List.length_append, length_toLe]
    omega
  have head : getLe 4 (toLe 4 n ++ records) = (n % 4294967296, records) := getLe_append 4 n records
  rw [parseFileDescriptors, if_neg long, head]
  simp only [size]
  by_cases fits : n < 4294967296
  · rw [if_pos fits, Nat.mod_eq_of_lt fits]
    by_cases none : n = 0
    · rw [if_pos (by omega), none]
      rfl
    · rw [if_neg (by omega), if_neg (by omega)]
  · rw [if_neg fits, if_neg (by omega), if_pos (by omega)]

/-- What the other side reads of a list that was written. -/
theorem parseFileDescriptors_sent (connId : Int32) {files : List LocalFile} {pdu : Bytes}
    (written : buildFileListPdu files = some pdu) :
    parseFileDescriptors pdu connId =
      if files.length < 4294967296 then .ok (files.map (LocalFile.sent connId))
      else .error (.invalidRequest "file descriptor request with invalid length") := by
  obtain ⟨records, each, is⟩ := Option.bind_eq_some_iff.mp written
  obtain rfl := Option.some.inj is
  have all : ∀ file ∈ files, file.Fits := by
    by_contra large
    rw [(records_fit files).2 large] at each
    cases each
  obtain ⟨others, same, size⟩ := (records_fit files).1 all
  obtain rfl := Option.some.inj (each.symm.trans same)
  rw [parseFileDescriptors_eq connId size, parseRecords_sent connId each]

/-- A list of files that records can describe is written. -/
theorem buildFileListPdu_describable {files : List LocalFile}
    (describable : ∀ file ∈ files, Describable file) :
    ∃ pdu, buildFileListPdu files = some pdu := by
  obtain ⟨pdu, written, -⟩ :=
    (buildFileListPdu_fits files).1 fun file inside => (describable file inside).short
  exact ⟨pdu, written⟩

/-- The other side reads back every entry of a list of fewer than 2³² files. -/
theorem file_list_round_trip (connId : Int32) (files : List LocalFile)
    (describable : ∀ file ∈ files, Describable file) (count : files.length < 4294967296) :
    ∃ pdu descs, buildFileListPdu files = some pdu ∧
      parseFileDescriptors pdu connId = .ok descs ∧ List.Forall₂ Describes files descs := by
  obtain ⟨pdu, written⟩ := buildFileListPdu_describable describable
  refine ⟨pdu, files.map (LocalFile.sent connId), written, ?_, ?_⟩
  · rw [parseFileDescriptors_sent connId written, if_pos count]
  · rw [List.forall₂_map_right_iff, List.forall₂_same]
    intro file inside
    rw [(describable file inside).sent connId]
    exact (describable file inside).describes connId

/-- A file whose name has a character outside the basic plane. -/
def smiling : LocalFile where
  path := "/home/u/b/😀.txt"
  relativePath := "b/😀.txt"
  size := 4294967301
  lastWriteTime := 1700000000123456789
  isDir := false
  perm := 33188

theorem smiling_describable : Describable smiling :=
  ⟨by decide, by decide, by decide, by decide, by decide, by decide, by decide⟩

theorem smiling_round_trip :
    ∃ pdu descs, buildFileListPdu [smiling] = some pdu ∧
      parseFileDescriptors pdu 3 = .ok descs ∧ List.Forall₂ Describes [smiling] descs := by
  refine file_list_round_trip 3 [smiling] ?_ (by decide)
  intro file inside
  obtain rfl := List.mem_singleton.mp inside
  exact smiling_describable

/-- A list of 2³² files is refused. -/
theorem file_list_too_long :
    (∀ file ∈ List.replicate 4294967296 smiling, Describable file) ∧
      ∃ pdu, buildFileListPdu (List.replicate 4294967296 smiling) = some pdu ∧
        parseFileDescriptors pdu 3 =
          .error (.invalidRequest "file descriptor request with invalid length") := by
  have describable : ∀ file ∈ List.replicate 4294967296 smiling, Describable file := by
    intro file inside
    rw [List.eq_of_mem_replicate inside]
    exact smiling_describable
  obtain ⟨pdu, written⟩ := buildFileListPdu_describable describable
  refine ⟨describable, pdu, written, ?_⟩
  have long : ¬ (List.replicate 4294967296 smiling).length < 4294967296 := by
    rw [List.length_replicate]
    exact Nat.lt_irrefl _
  rw [parseFileDescriptors_sent 3 written, if_neg long]

end ChainRemote.Clipboard
