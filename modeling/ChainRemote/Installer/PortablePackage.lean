import ChainRemote.Lib.LittleEndian
import ChainRemote.Lib.Utf8
import Mathlib.Data.List.Basic

/-!
# The package of the portable program

`generate.py` writes the files of the program into one package, and `bin_reader.rs` takes them out
again. Neither side escapes anything: the table of files ends where the text `rustdesk` stands in
place of the length of a path. The reader indexes the bytes of the package, and `none` is a panic.
-/

namespace ChainRemote.Installer.PortablePackage

open Lib

/-- Bytes of a package. -/
abbrev Bytes := List UInt8

/-- A file of the package: an entry of the table that is written, and a `BinaryData` that is
read. -/
structure BinaryData where
  md5Code : Bytes
  raw : Bytes
  path : String
deriving DecidableEq, Repr

/-- `"rustdesk".encode()`. -/
def marker : Bytes := encodeUtf8 "rustdesk".toList

section Write

/-- `n.to_bytes(length=4, byteorder='big')`; `none` is `OverflowError`. -/
def toBytes (n : Nat) : Option Bytes :=
  if n < 256 ^ 4 then some (toLe 4 n).reverse else none

/-- What `write_package_metadata` writes for a file. -/
def writeEntry (file : BinaryData) : Option Bytes := do
  let path := encodeUtf8 file.path.toList
  let pathLength ← toBytes path.length
  let dataLength ← toBytes file.raw.length
  return pathLength ++ path ++ dataLength ++ file.raw ++ file.md5Code

/-- What it writes for the table. -/
def writeEntries : List BinaryData → Option Bytes
  | [] => some []
  | file :: table => do
    let entry ← writeEntry file
    let rest ← writeEntries table
    return entry ++ rest

/-- `write_package_metadata`. -/
def writePackageMetadata (md5Table : List BinaryData) (exe : String) : Option Bytes := do
  let entries ← writeEntries md5Table
  return marker ++ entries ++ marker ++ encodeUtf8 exe.toList

end Write

section Read

variable (data : Bytes)

/-- `&BIN_DATA[start..stop]`. -/
def slice (start stop : Nat) : Option Bytes :=
  if start ≤ stop ∧ stop ≤ data.length then some ((data.drop start).take (stop - start)) else none

/-- `u32::from_be_bytes` of four bytes. -/
def readU32 (start : Nat) : Option Nat := do
  let first ← data[start]?
  let second ← data[start + 1]?
  let third ← data[start + 2]?
  let fourth ← data[start + 3]?
  return ofLe [fourth, third, second, first]

/-- `String::from_utf8_lossy`. -/
def fromUtf8Lossy (bytes : Bytes) : String := String.ofList (decodeUtf8 bytes)

/-- The body of the loop of `BinaryReader::read`: the file that starts at `base`, and where the next
one starts. -/
def readEntry (base : Nat) : Option (BinaryData × Nat) := do
  let pathLength ← readU32 data base
  let offset := 4
  let path ← slice data (base + offset) (base + offset + pathLength)
  let offset := offset + pathLength
  let fileLength ← readU32 data (base + offset)
  let offset := offset + 4
  let raw ← slice data (base + offset) (base + offset + fileLength)
  let offset := offset + fileLength
  let md5 ← slice data (base + offset) (base + offset + 32)
  let offset := offset + 32
  return ({ md5Code := md5, raw, path := fromUtf8Lossy path }, base + offset)

variable {data}

theorem slice_eq_some {start stop : Nat} {bytes : Bytes}
    (cut : slice data start stop = some bytes) :
    stop ≤ data.length ∧ bytes = (data.drop start).take (stop - start) := by
  unfold slice at cut
  split at cut
  · rename_i inside
    exact ⟨inside.2, (Option.some.inj cut).symm⟩
  · cases cut

/-- A file that is read lies within the package, and the next one starts after it. -/
theorem readEntry_advances {base next : Nat} {file : BinaryData}
    (found : readEntry data base = some (file, next)) : base < next ∧ next ≤ data.length := by
  simp only [readEntry, Option.bind_eq_bind, Option.bind_eq_some_iff] at found
  obtain ⟨pathLength, -, path, -, fileLength, -, raw, -, md5, cut, same⟩ := found
  have inside := (slice_eq_some cut).1
  simp only [Option.pure_def, Option.some.injEq, Prod.mk.injEq] at same
  omega

variable (data)

/-- The loop of `BinaryReader::read`: the files from `base` on, and where the table ends. -/
def readFiles (base : Nat) : Option (List BinaryData × Nat) := do
  let iden ← slice data base (base + 8)
  if fromUtf8Lossy iden = "rustdesk" then return ([], base + 8)
  else
    match _found : readEntry data base with
    | none => none
    | some (file, next) =>
      let (files, stop) ← readFiles next
      return (file :: files, stop)
termination_by data.length - base
decreasing_by
  have advanced := readEntry_advances _found
  omega

/-- `BinaryReader::read`. -/
def read : Option (List BinaryData × String) := do
  if data.length ≤ 8 then none
  else
    let iden ← slice data 0 8
    if fromUtf8Lossy iden ≠ "rustdesk" then none
    else
      let (files, base) ← readFiles data 8
      let executable ← slice data base data.length
      return (files, fromUtf8Lossy executable)

end Read

section RoundTrip

variable {front back : Bytes}

/-- A part of a package is cut out of it. -/
theorem slice_part (front part back : Bytes) :
    slice (front ++ part ++ back) front.length (front.length + part.length) = some part := by
  have inside : front.length ≤ front.length + part.length ∧
      front.length + part.length ≤ (front ++ part ++ back).length := by
    simp only [List.length_append]
    omega
  rw [slice, if_pos inside, List.append_assoc, List.drop_left, Nat.add_sub_cancel_left,
    List.take_left]

/-- Four bytes of a package are a number. -/
theorem readU32_four (front back : Bytes) (first second third fourth : UInt8) :
    readU32 (front ++ [first, second, third, fourth] ++ back) front.length =
      some (ofLe [fourth, third, second, first]) := by
  have at' : ∀ i : Nat, (front ++ [first, second, third, fourth] ++ back)[front.length + i]? =
      ([first, second, third, fourth] ++ back)[i]? := by
    intro i
    rw [List.append_assoc, List.getElem?_append_right (by omega), Nat.add_sub_cancel_left]
  have four := at' 0
  rw [Nat.add_zero] at four
  simp only [readU32, four, at']
  rfl

/-- A length is read as it was written. -/
theorem readU32_part {n : Nat} {bytes : Bytes} (written : toBytes n = some bytes)
    (front back : Bytes) : readU32 (front ++ bytes ++ back) front.length = some n := by
  unfold toBytes at written
  split at written
  · rename_i fits
    cases written
    have read : ofLe (toLe 4 n) = n := ofLe_toLe_of_lt fits
    have four := readU32_four front back (UInt8.ofNat (n / 256 / 256 / 256))
      (UInt8.ofNat (n / 256 / 256)) (UInt8.ofNat (n / 256)) (UInt8.ofNat n)
    exact four.trans (congrArg some read)
  · cases written

/-- What is written for a length below `2 ^ 32`. -/
theorem toBytes_of_lt {n : Nat} (fits : n < 256 ^ 4) :
    toBytes n = some (toLe 4 n).reverse := if_pos fits

/-- The reader takes back what the writer wrote of a text. -/
theorem fromUtf8Lossy_encode (text : String) : fromUtf8Lossy (encodeUtf8 text.toList) = text := by
  rw [fromUtf8Lossy, decodeUtf8_encode, String.ofList_toList]

/-- A file that the package can hold. -/
structure Fits (file : BinaryData) : Prop where
  path : (encodeUtf8 file.path.toList).length < 2 ^ 30
  raw : file.raw.length < 2 ^ 32
  md5Code : file.md5Code.length = 32

/-- The bytes of a file that fits. -/
def entryBytes (file : BinaryData) : Bytes :=
  (toLe 4 (encodeUtf8 file.path.toList).length).reverse ++ encodeUtf8 file.path.toList ++
    (toLe 4 file.raw.length).reverse ++ file.raw ++ file.md5Code

theorem Fits.lengths {file : BinaryData} (fits : Fits file) :
    toBytes (encodeUtf8 file.path.toList).length =
        some (toLe 4 (encodeUtf8 file.path.toList).length).reverse ∧
      toBytes file.raw.length = some (toLe 4 file.raw.length).reverse := by
  have path := fits.path
  have raw := fits.raw
  exact ⟨toBytes_of_lt (by omega), toBytes_of_lt (by omega)⟩

theorem writeEntry_eq {file : BinaryData} (fits : Fits file) :
    writeEntry file = some (entryBytes file) := by
  simp only [writeEntry, fits.lengths.1, fits.lengths.2, Option.bind_eq_bind, Option.bind_some,
    Option.pure_def, entryBytes]

/-- A table of files that fit is written. -/
theorem writeEntries_eq {table : List BinaryData} (fits : ∀ file ∈ table, Fits file) :
    writeEntries table = some (table.flatMap entryBytes) := by
  induction table with
  | nil => rfl
  | cons file table ih =>
    have first := writeEntry_eq (fits file List.mem_cons_self)
    have rest := ih fun other inside => fits other (List.mem_cons_of_mem _ inside)
    simp only [writeEntries, first, rest, Option.bind_eq_bind, Option.bind_some, Option.pure_def,
      List.flatMap_cons]

/-- A file is read as it was written, wherever it stands. -/
theorem readEntry_part {file : BinaryData} (fits : Fits file) (front back : Bytes) :
    readEntry (front ++ entryBytes file ++ back) front.length =
      some (file, front.length + (entryBytes file).length) := by
  obtain ⟨pathWritten, rawWritten⟩ := fits.lengths
  -- The five parts of the file, and what stands before each.
  let pathLength := (toLe 4 (encodeUtf8 file.path.toList).length).reverse
  let path := encodeUtf8 file.path.toList
  let rawLength := (toLe 4 file.raw.length).reverse
  have four : pathLength.length = 4 ∧ rawLength.length = 4 := by
    simp [pathLength, rawLength]
  have shape : front ++ entryBytes file ++ back =
      front ++ pathLength ++ (path ++ rawLength ++ file.raw ++ file.md5Code ++ back) := by
    simp only [entryBytes, List.append_assoc, pathLength, path, rawLength]
  have first : readU32 (front ++ entryBytes file ++ back) front.length = some path.length := by
    rw [shape]
    exact readU32_part pathWritten _ _
  have second : slice (front ++ entryBytes file ++ back) (front.length + 4)
      (front.length + 4 + path.length) = some path := by
    have cut := slice_part (front ++ pathLength) path
      (rawLength ++ file.raw ++ file.md5Code ++ back)
    rw [List.length_append, four.1] at cut
    rw [shape]
    simpa only [List.append_assoc] using cut
  have third : readU32 (front ++ entryBytes file ++ back) (front.length + (4 + path.length)) =
      some file.raw.length := by
    have read := readU32_part rawWritten (front ++ pathLength ++ path)
      (file.raw ++ file.md5Code ++ back)
    rw [List.length_append, List.length_append, four.1, Nat.add_assoc] at read
    rw [shape]
    simpa only [List.append_assoc] using read
  have fourth : slice (front ++ entryBytes file ++ back) (front.length + (4 + path.length + 4))
      (front.length + (4 + path.length + 4) + file.raw.length) = some file.raw := by
    have cut := slice_part (front ++ pathLength ++ path ++ rawLength) file.raw
      (file.md5Code ++ back)
    rw [List.length_append, List.length_append, List.length_append, four.1, four.2,
      Nat.add_assoc front.length, Nat.add_assoc front.length] at cut
    rw [shape]
    simpa only [List.append_assoc] using cut
  have fifth : slice (front ++ entryBytes file ++ back)
      (front.length + (4 + path.length + 4 + file.raw.length))
      (front.length + (4 + path.length + 4 + file.raw.length) + 32) = some file.md5Code := by
    have cut := slice_part (front ++ pathLength ++ path ++ rawLength ++ file.raw) file.md5Code back
    rw [List.length_append, List.length_append, List.length_append, List.length_append, four.1,
      four.2, fits.md5Code, Nat.add_assoc front.length, Nat.add_assoc front.length,
      Nat.add_assoc front.length] at cut
    rw [shape]
    simpa only [List.append_assoc] using cut
  have whole : (entryBytes file).length =
      4 + path.length + 4 + file.raw.length + 32 := by
    simp only [entryBytes, List.length_append, List.length_reverse, length_toLe, fits.md5Code, path]
  simp only [readEntry, first, second, third, fourth, fifth, Option.bind_eq_bind, Option.bind_some,
    Option.pure_def, whole, path, fromUtf8Lossy_encode]

/-- Bytes that start like an ASCII character do not decode to a text that starts with another. -/
theorem fromUtf8Lossy_ne {byte : UInt8} {rest : Bytes} (small : byte.toNat < 64) :
    fromUtf8Lossy (byte :: rest) ≠ "rustdesk" := by
  intro same
  have start : startChar byte = ([Char.ofNat byte.toNat], none) := by
    rw [startChar, if_pos (by omega)]
  have decoded : decodeUtf8 (byte :: rest) = Char.ofNat byte.toNat :: decodeUtf8 rest := by
    rw [decodeUtf8, decodeFrom, start]
    rfl
  have chars := congrArg String.toList same
  rw [fromUtf8Lossy, String.toList_ofList, decoded] at chars
  have letter : Char.ofNat byte.toNat = 'r' := by
    have heads := congrArg List.head? chars
    exact Option.some.inj heads
  have others : ∀ n < 64, Char.ofNat n ≠ 'r' := by decide
  exact others byte.toNat small letter

/-- A file does not start like the end of the table: the length of a path is below `2 ^ 30`, and the
marker is a larger number. -/
theorem entryBytes_head {file : BinaryData} (fits : Fits file) :
    ∃ byte rest, entryBytes file = byte :: rest ∧ byte.toNat < 64 := by
  have short := fits.path
  let length := (encodeUtf8 file.path.toList).length
  refine ⟨UInt8.ofNat (length / 256 / 256 / 256), _, rfl, ?_⟩
  rw [UInt8.toNat_ofNat']
  have small : length < 2 ^ 30 := short
  omega

/-- The marker is read as itself. -/
theorem fromUtf8Lossy_marker : fromUtf8Lossy marker = "rustdesk" :=
  fromUtf8Lossy_encode "rustdesk"

theorem length_marker : marker.length = 8 := by decide

/-- The loop takes the files back and stops behind the marker. -/
theorem readFiles_part {table : List BinaryData} (fits : ∀ file ∈ table, Fits file)
    (front back : Bytes) :
    readFiles (front ++ table.flatMap entryBytes ++ marker ++ back) front.length =
      some (table, front.length + (table.flatMap entryBytes).length + 8) := by
  induction table generalizing front with
  | nil =>
    have iden := slice_part front marker back
    rw [length_marker] at iden
    rw [List.flatMap_nil, List.append_nil, readFiles, iden, Option.bind_eq_bind, Option.bind_some,
      if_pos fromUtf8Lossy_marker]
    rfl
  | cons file table ih =>
    have first := fits file List.mem_cons_self
    obtain ⟨byte, rest, starts, small⟩ := entryBytes_head first
    have whole : 8 ≤ (entryBytes file).length := by
      simp only [entryBytes, List.length_append, List.length_reverse, length_toLe]
      omega
    -- The eight bytes that are compared lie within the file.
    have iden : ∃ more, slice (front ++ (file :: table).flatMap entryBytes ++ marker ++ back)
        front.length (front.length + 8) = some (byte :: more) := by
      have cut := slice_part front ((entryBytes file).take 8)
        ((entryBytes file).drop 8 ++ table.flatMap entryBytes ++ marker ++ back)
      rw [List.length_take, Nat.min_eq_left whole] at cut
      refine ⟨rest.take 7, ?_⟩
      have shape : front ++ (file :: table).flatMap entryBytes ++ marker ++ back =
          front ++ (entryBytes file).take 8 ++
            ((entryBytes file).drop 8 ++ table.flatMap entryBytes ++ marker ++ back) := by
        conv_lhs => rw [List.flatMap_cons, ← List.take_append_drop 8 (entryBytes file)]
        simp only [List.append_assoc]
      rw [shape, cut, starts]
      rfl
    obtain ⟨more, iden⟩ := iden
    have entry : readEntry (front ++ (file :: table).flatMap entryBytes ++ marker ++ back)
        front.length = some (file, front.length + (entryBytes file).length) := by
      have found := readEntry_part first front (table.flatMap entryBytes ++ marker ++ back)
      simpa only [List.flatMap_cons, List.append_assoc] using found
    have others : readFiles (front ++ (file :: table).flatMap entryBytes ++ marker ++ back)
        (front.length + (entryBytes file).length) =
          some (table, front.length + (entryBytes file).length +
            (table.flatMap entryBytes).length + 8) := by
      have found := ih (fun other inside => fits other (List.mem_cons_of_mem _ inside))
        (front ++ entryBytes file)
      rw [List.length_append] at found
      simpa only [List.flatMap_cons, List.append_assoc] using found
    rw [readFiles, iden, Option.bind_eq_bind, Option.bind_some, if_neg (fromUtf8Lossy_ne small)]
    split
    · rename_i nothing
      rw [entry] at nothing
      cases nothing
    · rename_i file' next found
      rw [entry] at found
      cases found
      rw [others, List.flatMap_cons, List.length_append, ← Nat.add_assoc]
      rfl

/-- What is written for any table of files that fit and any executable is read back. -/
theorem read_writePackageMetadata {table : List BinaryData} (fits : ∀ file ∈ table, Fits file)
    (exe : String) :
    ∃ data, writePackageMetadata table exe = some data ∧ read data = some (table, exe) := by
  let entries := table.flatMap entryBytes
  let tail := encodeUtf8 exe.toList
  refine ⟨marker ++ entries ++ marker ++ tail, ?_, ?_⟩
  · simp only [writePackageMetadata, writeEntries_eq fits, Option.bind_eq_bind, Option.bind_some,
      Option.pure_def, entries, tail]
  · have long : ¬ (marker ++ entries ++ marker ++ tail).length ≤ 8 := by
      simp only [List.length_append, length_marker]
      omega
    have iden : slice (marker ++ entries ++ marker ++ tail) 0 8 = some marker := by
      have cut := slice_part [] marker (entries ++ marker ++ tail)
      rw [length_marker] at cut
      simpa only [List.nil_append, List.append_assoc, List.length_nil, Nat.zero_add] using cut
    have files := readFiles_part fits marker tail
    rw [length_marker] at files
    have rest : slice (marker ++ entries ++ marker ++ tail) (8 + entries.length + 8)
        (marker ++ entries ++ marker ++ tail).length = some tail := by
      have cut := slice_part (marker ++ entries ++ marker) tail []
      rw [List.append_nil, ← List.length_append, List.length_append, List.length_append,
        length_marker] at cut
      exact cut
    simp only [read, if_neg long, iden, Option.bind_eq_bind, Option.bind_some,
      fromUtf8Lossy_marker, ne_eq, not_true_eq_false, if_false]
    rw [files]
    simp only [Option.bind_some]
    rw [rest]
    simp only [Option.bind_some, Option.pure_def, tail, fromUtf8Lossy_encode]

/-- A file whose path and data spell the marker. -/
def rustdeskFile : BinaryData where
  md5Code := encodeUtf8 "d41d8cd98f00b204e9800998ecf8427e".toList
  raw := marker ++ marker
  path := "./rustdesk/rustdesk"

theorem read_writePackageMetadata_rustdesk :
    Fits rustdeskFile ∧ ∃ data,
      writePackageMetadata [rustdeskFile] "./rustdesk.exe" = some data ∧
        read data = some ([rustdeskFile], "./rustdesk.exe") := by
  have fits : Fits rustdeskFile :=
    ⟨by decide +kernel, by decide +kernel, by decide +kernel⟩
  refine ⟨fits, read_writePackageMetadata ?_ "./rustdesk.exe"⟩
  intro file inside
  rw [List.mem_singleton.mp inside]
  exact fits

end RoundTrip

end ChainRemote.Installer.PortablePackage
