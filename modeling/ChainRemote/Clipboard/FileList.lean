import Mathlib.Data.List.Nodup
import ChainRemote.Lib.UnixPath
import ChainRemote.Lib.Utf8
import ChainRemote.Clipboard.ServFiles

/-!
# The list of copied files

The list is made from the paths that were selected and everything below them. No path is listed
twice. An entry is sent under its path below the parent of the first selected path, or under its
whole path where it is not below it, and the record of an entry has room for 260 units of it.
-/

namespace ChainRemote.Clipboard

open Lib

/-- A path as the system has it. -/
abbrev Path := List UInt8

/-- `to_string_lossy`. -/
def toStringLossy (path : Path) : String := String.ofList (decodeUtf8 path)

/-- What `std::fs::metadata` tells. -/
structure Metadata where
  len : UInt64
  isDir : Bool
  /-- `modified`, in nanoseconds from 1970. -/
  modified : Option Int := none
  mode : UInt32
deriving DecidableEq, Repr

/-- A tree of files: what a path is, and the names in a directory. Each may fail to be read. -/
structure FileTree where
  metadata : Path → Option Metadata
  readDir : Path → Option (List (Option (List UInt8)))

/-- An entry of the list. -/
structure ListedFile where
  /-- `path`. -/
  place : Path
  file : LocalFile
deriving DecidableEq, Repr

/-- The path of an entry, however it is spelled. -/
def ListedFile.key (entry : ListedFile) : List (Component UInt8) := components entry.place

/-- The path that an entry is sent under. -/
def sentPath (relativeRoot : List (Component UInt8)) (path : Path) : Path :=
  (stripPrefix relativeRoot path).getD path

/-- A file with what is known of it. -/
def openedFile (relativeRoot : List (Component UInt8)) (path : Path) (mt : Metadata) : ListedFile :=
  let readOnly := mt.mode &&& 0o222 = 0
  let hidden := (toStringLossy path).toList.head? = some '.'
  { place := path
    file := {
      path := toStringLossy path
      relativePath := toStringLossy (sentPath relativeRoot path)
      size := mt.len
      lastWriteTime := mt.modified.getD 0
      isDir := mt.isDir
      perm := mt.mode
      readOnly
      hidden
      normal := !(mt.isDir || readOnly || hidden) } }

/-- `LocalFile::try_open`. -/
def tryOpen (tree : FileTree) (relativeRoot : List (Component UInt8)) (path : Path) :
    Except CliprdrError ListedFile :=
  match tree.metadata path with
  | none => .error (.fileError (toStringLossy path))
  | some mt => .ok (openedFile relativeRoot path mt)

/-- The list so far, and the paths that were visited. -/
structure Listing where
  fileList : List ListedFile := []
  visited : List (List (Component UInt8)) := []
deriving DecidableEq, Repr

variable (tree : FileTree) (relativeRoot : List (Component UInt8))

/-- The loop over the entries of a directory. -/
def listEntries (visit : Path → Listing → Option (Except CliprdrError Listing)) (path : Path) :
    List (Option (List UInt8)) → Listing → Option (Except CliprdrError Listing)
  | [], listing => some (.ok listing)
  | none :: _, _ => some (.error (.fileError (toStringLossy path)))
  | some name :: entries, listing =>
    match visit (joinPath path name) listing with
    | none => none
    | some (.error e) => some (.error e)
    | some (.ok listing) => listEntries visit path entries listing

/-- `constr_file_lst`; none where the depth does not suffice. -/
def constrFileLst : Nat → Path → Listing → Option (Except CliprdrError Listing)
  | 0, _, _ => none
  | depth + 1, path, listing =>
    if components path ∈ listing.visited then some (.ok listing)
    else
      match tryOpen tree relativeRoot path with
      | .error e => some (.error e)
      | .ok localFile =>
        let listing : Listing := {
          fileList := listing.fileList ++ [localFile]
          visited := listing.visited ++ [components path] }
        match tree.metadata path with
        | none => some (.error (.fileError (toStringLossy path)))
        | some mt =>
          if mt.isDir then
            match tree.readDir path with
            | none => some (.error (.fileError (toStringLossy path)))
            | some dir => listEntries (constrFileLst depth) path dir listing
          else some (.ok listing)

/-- The loop over the selected paths. -/
def listPaths (depth : Nat) : List Path → Listing → Option (Except CliprdrError Listing)
  | [], listing => some (.ok listing)
  | path :: paths, listing =>
    match constrFileLst tree relativeRoot depth path listing with
    | none => none
    | some (.error e) => some (.error e)
    | some (.ok listing) => listPaths depth paths listing

/-- `construct_file_list`; none where the depth does not suffice. -/
def constructFileList (depth : Nat) (paths : List Path) :
    Option (Except CliprdrError (List ListedFile)) :=
  match paths.head? with
  | none => some (.error (.invalidRequest "empty file list"))
  | some first =>
    match parentComponents first with
    | none => some (.error (.invalidRequest "empty parent"))
    | some relativeRoot =>
      (listPaths tree relativeRoot depth paths {}).map fun listed => listed.map Listing.fileList

/-- `construct_file_list` succeeds with a list. -/
def Constructs (paths : List Path) (files : List ListedFile) : Prop :=
  ∃ depth, constructFileList tree depth paths = some (.ok files)

/-- An entry that is a directory has all its entries among some paths. -/
def ListedFile.Complete (keys : List (List (Component UInt8))) (entry : ListedFile) : Prop :=
  entry.file.isDir = true → ∃ dir, tree.readDir entry.place = some dir ∧
    ∀ item ∈ dir, ∃ name, item = some name ∧ components (joinPath entry.place name) ∈ keys

/-- The paths visited are those listed, and no path is listed twice. -/
structure Listing.Consistent (listing : Listing) : Prop where
  same : listing.visited = listing.fileList.map ListedFile.key
  once : listing.visited.Nodup

/-- What a visit does to the list: it appends directories with all that is below them. -/
structure Listing.Grows (before after : Listing) : Prop where
  consistent : after.Consistent
  appends : ∃ added, after.fileList = before.fileList ++ added ∧
    ∀ entry ∈ added, entry.Complete tree after.visited

section Visits

variable {tree relativeRoot}

theorem ListedFile.Complete.mono {keys more : List (List (Component UInt8))} {entry : ListedFile}
    (complete : entry.Complete tree keys) (subset : keys ⊆ more) : entry.Complete tree more := by
  intro dir
  obtain ⟨items, read, all⟩ := complete dir
  refine ⟨items, read, ?_⟩
  intro item inside
  obtain ⟨name, is, listed⟩ := all item inside
  exact ⟨name, is, subset listed⟩

theorem Listing.Grows.visited {before after : Listing} (grows : before.Grows tree after)
    (consistent : before.Consistent) : before.visited ⊆ after.visited := by
  obtain ⟨added, list, -⟩ := grows.appends
  rw [grows.consistent.same, consistent.same, list, List.map_append]
  exact List.subset_append_left _ _

theorem Listing.Consistent.grows {listing : Listing} (consistent : listing.Consistent) :
    listing.Grows tree listing where
  consistent := consistent
  appends := ⟨[], (List.append_nil _).symm, by simp⟩

theorem Listing.Grows.trans {before middle after : Listing} (first : before.Grows tree middle)
    (second : middle.Grows tree after) : before.Grows tree after where
  consistent := second.consistent
  appends := by
    have subset := second.visited first.consistent
    obtain ⟨added, list, complete⟩ := first.appends
    obtain ⟨more, longer, others⟩ := second.appends
    refine ⟨added ++ more, by rw [longer, list, List.append_assoc], ?_⟩
    intro entry inside
    rcases List.mem_append.mp inside with early | late
    · exact (complete entry early).mono subset
    · exact others entry late

/-- A visit that succeeds has its path listed. -/
def Visits (tree : FileTree)
    (visit : Path → Listing → Option (Except CliprdrError Listing)) : Prop :=
  ∀ path before after, visit path before = some (.ok after) → before.Consistent →
    before.Grows tree after ∧ components path ∈ after.visited

theorem listEntries_grows {visit : Path → Listing → Option (Except CliprdrError Listing)}
    (visits : Visits tree visit) {path : Path} {items : List (Option (List UInt8))}
    {before after : Listing} (done : listEntries visit path items before = some (.ok after))
    (consistent : before.Consistent) :
    before.Grows tree after ∧
      ∀ item ∈ items, ∃ name, item = some name ∧
        components (joinPath path name) ∈ after.visited := by
  induction items generalizing before with
  | nil =>
    obtain rfl := Except.ok.inj (Option.some.inj done)
    exact ⟨consistent.grows, by simp⟩
  | cons item items ih =>
    cases item with
    | none => cases done
    | some name =>
      rw [listEntries] at done
      cases visited : visit (joinPath path name) before with
      | none =>
        rw [visited] at done
        cases done
      | some result =>
        rw [visited] at done
        cases result with
        | error e => cases done
        | ok middle =>
          obtain ⟨first, here⟩ := visits _ _ _ visited consistent
          obtain ⟨later, others⟩ := ih done first.consistent
          refine ⟨first.trans later, ?_⟩
          intro other inside
          rcases List.mem_cons.mp inside with rfl | rest
          · exact ⟨name, rfl, later.visited first.consistent here⟩
          · exact others other rest

/-- The list with one more entry. -/
theorem Listing.Consistent.push {listing : Listing} (consistent : listing.Consistent)
    {entry : ListedFile} (new : entry.key ∉ listing.visited) :
    Listing.Consistent {
      fileList := listing.fileList ++ [entry]
      visited := listing.visited ++ [entry.key] } where
  same := by rw [consistent.same, List.map_append, List.map_singleton]
  once := by
    refine List.nodup_append.mpr ⟨consistent.once, List.nodup_singleton _, ?_⟩
    intro key inside other is
    rw [List.mem_singleton.mp is]
    rintro rfl
    exact new inside

theorem constrFileLst_visits (depth : Nat) :
    Visits tree (constrFileLst tree relativeRoot depth) := by
  induction depth with
  | zero =>
    intro path before after done
    cases done
  | succ depth ih =>
    intro path before after done consistent
    rw [constrFileLst] at done
    split at done
    · rename_i seen
      obtain rfl := Except.ok.inj (Option.some.inj done)
      exact ⟨consistent.grows, seen⟩
    · rename_i new
      unfold tryOpen at done
      cases known : tree.metadata path with
      | none =>
        rw [known] at done
        cases done
      | some mt =>
        rw [known] at done
        dsimp only at done
        have key : (openedFile relativeRoot path mt).key = components path := rfl
        have pushed := @Listing.Consistent.push _ consistent (openedFile relativeRoot path mt) new
        rw [key] at pushed
        have here : components path ∈ before.visited ++ [components path] :=
          List.mem_append_right _ (List.mem_singleton_self _)
        split at done
        · rename_i dir
          cases read : tree.readDir path with
          | none =>
            rw [read] at done
            cases done
          | some items =>
            rw [read] at done
            obtain ⟨grows, below⟩ := listEntries_grows ih done pushed
            refine ⟨⟨grows.consistent, ?_⟩, grows.visited pushed here⟩
            obtain ⟨added, list, complete⟩ := grows.appends
            refine ⟨openedFile relativeRoot path mt :: added, ?_, ?_⟩
            · rw [list, List.append_assoc, List.singleton_append]
            · intro entry inside
              rcases List.mem_cons.mp inside with rfl | rest
              · intro _
                exact ⟨items, read, below⟩
              · exact complete entry rest
        · rename_i plain
          obtain rfl := Except.ok.inj (Option.some.inj done)
          refine ⟨⟨pushed, [openedFile relativeRoot path mt], rfl, ?_⟩, here⟩
          intro entry inside dir
          rw [List.mem_singleton.mp inside] at dir
          exact absurd dir plain

theorem listPaths_grows {depth : Nat} {paths : List Path} {before after : Listing}
    (done : listPaths tree relativeRoot depth paths before = some (.ok after))
    (consistent : before.Consistent) :
    before.Grows tree after ∧ ∀ path ∈ paths, components path ∈ after.visited := by
  induction paths generalizing before with
  | nil =>
    obtain rfl := Except.ok.inj (Option.some.inj done)
    exact ⟨consistent.grows, by simp⟩
  | cons path paths ih =>
    rw [listPaths] at done
    cases visited : constrFileLst tree relativeRoot depth path before with
    | none =>
      rw [visited] at done
      cases done
    | some result =>
      rw [visited] at done
      cases result with
      | error e => cases done
      | ok middle =>
        obtain ⟨first, here⟩ := constrFileLst_visits depth _ _ _ visited consistent
        obtain ⟨later, others⟩ := ih done first.consistent
        refine ⟨first.trans later, ?_⟩
        intro other inside
        rcases List.mem_cons.mp inside with rfl | rest
        · exact later.visited first.consistent here
        · exact others other rest

end Visits

/-- The selected paths and all that is below them are listed, each once. -/
structure Lists (paths : List Path) (files : List ListedFile) : Prop where
  once : (files.map ListedFile.key).Nodup
  selected : ∀ path ∈ paths, components path ∈ files.map ListedFile.key
  below : ∀ entry ∈ files, entry.Complete tree (files.map ListedFile.key)

variable {tree}

theorem Constructs.lists {paths : List Path} {files : List ListedFile}
    (done : Constructs tree paths files) : Lists tree paths files := by
  obtain ⟨depth, done⟩ := done
  unfold constructFileList at done
  cases first : paths.head? with
  | none =>
    rw [first] at done
    cases done
  | some path =>
    rw [first] at done
    dsimp only at done
    cases root : parentComponents path with
    | none =>
      rw [root] at done
      cases done
    | some relativeRoot =>
      rw [root] at done
      dsimp only at done
      cases listed : listPaths tree relativeRoot depth paths {} with
      | none =>
        rw [listed] at done
        cases done
      | some result =>
        rw [listed] at done
        cases result with
        | error e => cases done
        | ok listing =>
          obtain rfl := Except.ok.inj (Option.some.inj done)
          obtain ⟨grows, selected⟩ := listPaths_grows listed ⟨rfl, List.nodup_nil⟩
          obtain ⟨added, list, complete⟩ := grows.appends
          have same := grows.consistent.same
          refine ⟨?_, ?_, ?_⟩
          · rw [← same]
            exact grows.consistent.once
          · rw [← same]
            exact selected
          · rw [← same]
            intro entry inside
            rw [list] at inside
            exact complete entry inside

/-- The list of the selected paths is complete, and is written to so many bytes. -/
structure Announced (tree : FileTree) (paths : List Path) (files : List ListedFile) : Prop where
  lists : Lists tree paths files
  written : ∃ pdu, buildFileListPdu (files.map ListedFile.file) = some pdu ∧
    pdu.length = 4 + 592 * files.length

/-- A list is announced exactly if the path that each entry is sent under fits in its record. -/
theorem announced_iff {paths : List Path} {files : List ListedFile}
    (done : Constructs tree paths files) :
    Announced tree paths files ↔ ∀ entry ∈ files, entry.file.Fits := by
  have fit := buildFileListPdu_fits (files.map ListedFile.file)
  rw [List.length_map, List.forall_mem_map] at fit
  constructor
  · intro announced
    obtain ⟨pdu, written, -⟩ := announced.written
    by_contra large
    rw [fit.2 large] at written
    cases written
  · intro all
    exact ⟨done.lists, fit.1 all⟩

/-- The letters of a text that is in ASCII, as a path. -/
def plainPath (text : String) : Path := text.toList.map fun c => UInt8.ofNat c.toNat

/-- What is known of a directory. -/
def directoryMetadata : Metadata := { len := 4096, isDir := true, mode := 0o40755 }

/-- What is known of a file. -/
def fileMetadata : Metadata := { len := 3, isDir := false, mode := 0o100644 }

/-- A directory with one file in it. -/
def oneFileTree (directory file : Path) : FileTree where
  metadata path :=
    if path = directory then some directoryMetadata
    else if path = joinPath directory file then some fileMetadata
    else none
  readDir path := if path = directory then some [some file] else none

/-- A selected directory, and again the file in it. -/
theorem announced_notes :
    ∃ files, Constructs (oneFileTree (plainPath "/h/docs") (plainPath "a.txt"))
        [plainPath "/h/docs", plainPath "/h/docs/a.txt"] files ∧
      files.map (·.file.relativePath) = ["docs", "docs/a.txt"] ∧
      Announced (oneFileTree (plainPath "/h/docs") (plainPath "a.txt"))
        [plainPath "/h/docs", plainPath "/h/docs/a.txt"] files := by
  have done : Constructs (oneFileTree (plainPath "/h/docs") (plainPath "a.txt"))
      [plainPath "/h/docs", plainPath "/h/docs/a.txt"] _ := ⟨3, rfl⟩
  refine ⟨_, done, by decide +kernel, (announced_iff done).mpr ?_⟩
  decide +kernel

/-- The list of a directory with one file. -/
theorem oneFileTree_constructs {directory file : Path} {root : List (Component UInt8)}
    (above : parentComponents directory = some root)
    (apart : components (joinPath directory file) ≠ components directory) :
    Constructs (oneFileTree directory file) [directory]
      [openedFile root directory directoryMetadata,
        openedFile root (joinPath directory file) fileMetadata] := by
  have other : joinPath directory file ≠ directory := fun same => apart (congrArg components same)
  have known : (oneFileTree directory file).metadata directory = some directoryMetadata :=
    if_pos rfl
  have inside : (oneFileTree directory file).metadata (joinPath directory file) =
      some fileMetadata := by
    show (if joinPath directory file = directory then _ else _) = _
    rw [if_neg other, if_pos rfl]
  have read : (oneFileTree directory file).readDir directory = some [some file] := if_pos rfl
  refine ⟨2, ?_⟩
  simp [constructFileList, above, listPaths, constrFileLst, tryOpen, known, inside, read,
    listEntries, apart, directoryMetadata, fileMetadata, Except.map]

/-- A directory whose name has 200 letters. -/
def longDirectory : Path := plainPath "/h/" ++ List.replicate 200 100

/-- A file with a long name in it. -/
def longFile : Path := List.replicate 100 102

/-- What is listed of them. -/
def longEntries : List ListedFile :=
  [openedFile (components (plainPath "/h")) longDirectory directoryMetadata,
    openedFile (components (plainPath "/h")) (joinPath longDirectory longFile) fileMetadata]

/-- The path of the file below the selected directory has 301 units, and is not written. -/
theorem deep_path_crashes :
    Constructs (oneFileTree longDirectory longFile) [longDirectory] longEntries ∧
      buildFileListPdu (longEntries.map ListedFile.file) = none ∧
      ¬ Announced (oneFileTree longDirectory longFile) [longDirectory] longEntries := by
  have done : Constructs (oneFileTree longDirectory longFile) [longDirectory] longEntries :=
    oneFileTree_constructs (by decide +kernel) (by decide +kernel)
  have long : ¬ (openedFile (components (plainPath "/h")) (joinPath longDirectory longFile)
      fileMetadata).file.Fits := by
    unfold LocalFile.Fits openedFile toStringLossy
    dsimp only
    rw [String.toList_ofList]
    decide +kernel
  have crashes : buildFileListPdu (longEntries.map ListedFile.file) = none := by
    refine (buildFileListPdu_fits _).2 ?_
    intro all
    exact long (all _ (List.mem_cons_of_mem _ List.mem_cons_self))
  refine ⟨done, crashes, ?_⟩
  intro announced
  obtain ⟨pdu, written, -⟩ := announced.written
  rw [crashes] at written
  cases written

end ChainRemote.Clipboard
