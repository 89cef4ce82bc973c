import ChainRemote.Clipboard.FileList
import ChainRemote.Clipboard.FuseTree

/-!
# Reading a directory of pasted files

The entries of a directory are reported by their places, and an entry is opened by its name. Files
from different folders all belong to the root if their folders are not copied with them, and of
several entries with one name only the first can be opened.
-/

namespace ChainRemote.Clipboard

open Lib

/-- `MAX_NAME_LEN`. -/
def maxNameLen : Nat := 255

/-- The errors of requests. -/
inductive Errno
  | nameTooLong
  | noEntry
  | notDirectory
  | badHandle
deriving DecidableEq, Repr

/-- The bytes of a name. -/
def TreeNode.nameBytes (node : TreeNode) : Bytes := encodeUtf8 node.name.toList

/-- The entry of an inode. -/
def FuseFiles.entry? (server : FuseFiles) : Nat → Option TreeNode
  | 0 => none
  | index + 1 => server.files[index]?

/-- `lookup`: the attributes of an entry and the generation. -/
def FuseFiles.lookup (server : FuseFiles) (parent : Nat) (name : Bytes) :
    Except Errno (InodeAttributes × Nat) :=
  if name.length > maxNameLen then .error .nameTooLong
  else
    match server.entry? parent with
    | none => .error .noEntry
    | some parentEntry =>
      if parentEntry.attributes.kind ≠ .directory then .error .notDirectory
      else
        let found := parentEntry.children.findSome? fun inode =>
          (server.entry? inode).bind fun child =>
            if child.nameBytes = name then some child.attributes else none
        match found with
        | some attributes => .ok (attributes, server.generation)
        | none => .error .noEntry

/-- An entry that `readdir` reports. -/
structure DirEntry where
  ino : Nat
  offset : Nat
  kind : FileType
  name : Bytes
deriving DecidableEq, Repr

/-- The entries of the children of a directory. -/
def FuseFiles.childEntries (server : FuseFiles) (entry : TreeNode) :
    List (Nat × FileType × Bytes) :=
  entry.children.filterMap fun inode =>
    (server.entry? inode).map fun child => (inode, child.attributes.kind, child.nameBytes)

/-- All entries of a directory with their offsets. -/
def FuseFiles.dirEntries (server : FuseFiles) (ino : Nat) (entry : TreeNode) : List DirEntry :=
  let selfEntry := (ino, FileType.directory, encodeUtf8 ['.'])
  let parentEntry := entry.parent.map fun parent =>
    (parent, FileType.directory, encodeUtf8 ['.', '.'])
  let entries := selfEntry :: parentEntry.toList ++ server.childEntries entry
  entries.zipIdx.map fun (entry, i) => ⟨entry.1, i + 1, entry.2.1, entry.2.2⟩

/-- The loop that fills a reply; `full` tells whether an entry has no room behind others. -/
def fillReply (full : List DirEntry → DirEntry → Bool) :
    List DirEntry → List DirEntry → List DirEntry
  | reply, [] => reply
  | reply, entry :: entries =>
    if full reply entry then reply else fillReply full (reply ++ [entry]) entries

/-- `readdir`. -/
def FuseFiles.readdir (server : FuseFiles) (ino fh offset : Nat)
    (full : List DirEntry → DirEntry → Bool) : Except Errno (List DirEntry) :=
  match server.entry? ino with
  | none => .error .noEntry
  | some entry =>
    if fh ∉ entry.fileHandlers then .error .badHandle
    else if entry.attributes.kind ≠ .directory then .error .notDirectory
    else .ok (fillReply full [] ((server.dirEntries ino entry).drop offset))

/-- Where a reading goes on after a reply. -/
def nextOffset (offset : Nat) (reply : List DirEntry) : Nat :=
  (reply.getLast?.map DirEntry.offset).getD offset

/-- Calls of `readdir` that each go on after the last entry that was accepted: where they have come
to, and what they have reported. -/
inductive ReadChain (server : FuseFiles) (ino fh : Nat) : Nat → List DirEntry → Prop
  | start : ReadChain server ino fh 0 []
  | next {offset : Nat} {reported reply : List DirEntry}
      (full : List DirEntry → DirEntry → Bool) (chain : ReadChain server ino fh offset reported)
      (read : server.readdir ino fh offset full = .ok reply) :
      ReadChain server ino fh (nextOffset offset reply) (reported ++ reply)

/-- Every entry of a directory is opened by its name. -/
def FuseFiles.EntriesOpen (server : FuseFiles) : Prop :=
  ∀ ino entry, server.entry? ino = some entry → entry.attributes.kind = .directory →
    ∀ child ∈ server.childEntries entry, ∃ attributes,
      server.lookup ino child.2.2 = .ok (attributes, server.generation) ∧
        attributes.inode = child.1

/-- Reading a directory reports its first entries in order, and all of them as soon as nothing more
comes however much room there is; a directory has one entry for each child. -/
def FuseFiles.ChainsReport (server : FuseFiles) : Prop :=
  ∀ ino entry, server.entry? ino = some entry → entry.attributes.kind = .directory →
    (server.childEntries entry).map Prod.fst = entry.children ∧ entry.children.Nodup ∧
    ∀ fh offset reported, ReadChain server ino fh offset reported →
      reported <+: server.dirEntries ino entry ∧
        (server.readdir ino fh offset (fun _ _ => false) = .ok [] →
          reported = server.dirEntries ino entry)

/-- A node without its handles. -/
def TreeNode.closed (node : TreeNode) : TreeNode := { node with fileHandlers := [] }

/-- A server has a tree, and any handles open. -/
def FuseFiles.Serves (server : FuseFiles) (tree : List TreeNode) : Prop :=
  server.files.map TreeNode.closed = tree

/-- Files that belong to one directory have different names, and no name is too long. -/
structure Placeable (files : List FileDescription) : Prop where
  distinct : ∀ i j first second, i < j → files[i]? = some first → files[j]? = some second →
    parentOf (files.take i) first = parentOf (files.take j) second →
    fileName first.name.toList ≠ fileName second.name.toList
  short : ∀ file ∈ files, ∀ name, fileName file.name.toList = some name →
    (encodeUtf8 name).length ≤ maxNameLen

/-- Where an entry of a list belongs on the other side: the inode of its directory. -/
def landing (entries : List ListedFile) (index : Nat) (entry : ListedFile) : Nat :=
  parentOf ((entries.take index).map fun entry => entry.file.sent 0) (entry.file.sent 0)

/-- The name of an entry on the other side. -/
def sentName (entry : ListedFile) : Option (List Char) :=
  fileName (blockName entry.file.relativePath.toList).toList

/-- Different paths of a list that belong to one directory have different names, and no name is too
long. -/
structure Distinguishable (entries : List ListedFile) : Prop where
  distinct : ∀ i j first second, entries[i]? = some first → entries[j]? = some second →
    first.key ≠ second.key → landing entries i first = landing entries j second →
    sentName first ≠ sentName second
  short : ∀ entry ∈ entries, ∀ name, sentName entry = some name →
    (encodeUtf8 name).length ≤ maxNameLen

section Chains

variable {server : FuseFiles} {ino fh : Nat} {entry : TreeNode}

/-- A reply has the first entries that are left, and all of them if there is room. -/
theorem fillReply_take (full : List DirEntry → DirEntry → Bool) (reply entries : List DirEntry) :
    ∃ count, fillReply full reply entries = reply ++ entries.take count ∧
      count ≤ entries.length := by
  induction entries generalizing reply with
  | nil => exact ⟨0, (List.append_nil _).symm, Nat.le_refl _⟩
  | cons entry entries ih =>
    rw [fillReply]
    by_cases stops : full reply entry = true
    · exact ⟨0, by rw [if_pos stops, List.take_zero, List.append_nil], Nat.zero_le _⟩
    · obtain ⟨count, filled, bound⟩ := ih (reply ++ [entry])
      refine ⟨count + 1, ?_, Nat.succ_le_succ bound⟩
      rw [if_neg stops, filled, List.append_assoc, List.take_succ_cons, List.singleton_append]

theorem fillReply_room (reply entries : List DirEntry) :
    fillReply (fun _ _ => false) reply entries = reply ++ entries := by
  induction entries generalizing reply with
  | nil => exact (List.append_nil _).symm
  | cons entry entries ih =>
    rw [fillReply, if_neg Bool.false_ne_true, ih, ← List.append_cons]

theorem dirEntries_offset {index : Nat} {reported : DirEntry}
    (found : (server.dirEntries ino entry)[index]? = some reported) :
    reported.offset = index + 1 := by
  unfold FuseFiles.dirEntries at found
  rw [List.getElem?_map, List.getElem?_zipIdx, Option.map_map] at found
  obtain ⟨item, -, rfl⟩ := Option.map_eq_some_iff.mp found
  exact congrArg (· + 1) (Nat.zero_add index)

theorem readdir_ok {offset : Nat} {full : List DirEntry → DirEntry → Bool} {reply : List DirEntry}
    (there : server.entry? ino = some entry)
    (read : server.readdir ino fh offset full = .ok reply) :
    reply = fillReply full [] ((server.dirEntries ino entry).drop offset) := by
  unfold FuseFiles.readdir at read
  rw [there] at read
  dsimp only at read
  split at read
  · cases read
  · split at read
    · cases read
    · exact (Except.ok.inj read).symm

/-- Reading goes on behind what was accepted. -/
theorem nextOffset_take {offset count : Nat} (start : offset ≤ (server.dirEntries ino entry).length)
    (bound : count ≤ ((server.dirEntries ino entry).drop offset).length) :
    nextOffset offset (((server.dirEntries ino entry).drop offset).take count) =
      offset + count := by
  unfold nextOffset
  cases count with
  | zero => rfl
  | succ count =>
    have inside : offset + count < (server.dirEntries ino entry).length := by
      rw [List.length_drop] at bound
      omega
    have last : (((server.dirEntries ino entry).drop offset).take (count + 1)).getLast? =
        some (server.dirEntries ino entry)[offset + count] := by
      rw [List.getLast?_eq_getElem?, List.length_take, Nat.min_eq_left bound,
        List.getElem?_take_of_lt (by omega), List.getElem?_drop, Nat.add_sub_cancel]
      exact List.getElem?_eq_getElem inside
    rw [last]
    exact dirEntries_offset (List.getElem?_eq_getElem inside)

/-- A chain of calls has reported the entries up to where it has come. -/
theorem ReadChain.reported (there : server.entry? ino = some entry) {offset : Nat}
    {reported : List DirEntry} (chain : ReadChain server ino fh offset reported) :
    reported = (server.dirEntries ino entry).take offset ∧
      offset ≤ (server.dirEntries ino entry).length := by
  induction chain with
  | start => exact ⟨List.take_zero.symm, Nat.zero_le _⟩
  | @next offset reported reply full chain read ih =>
    obtain ⟨before, start⟩ := ih
    obtain ⟨count, filled, bound⟩ :=
      fillReply_take full [] ((server.dirEntries ino entry).drop offset)
    rw [readdir_ok there read, filled, List.nil_append, nextOffset_take start bound, before]
    rw [List.length_drop] at bound
    refine ⟨?_, by omega⟩
    rw [List.take_add]

theorem ReadChain.complete (there : server.entry? ino = some entry) {offset : Nat}
    {reported : List DirEntry} (chain : ReadChain server ino fh offset reported) :
    reported <+: server.dirEntries ino entry ∧
      (server.readdir ino fh offset (fun _ _ => false) = .ok [] →
        reported = server.dirEntries ino entry) := by
  obtain ⟨before, start⟩ := chain.reported there
  refine ⟨by rw [before]; exact List.take_prefix _ _, ?_⟩
  intro ended
  have nothing := readdir_ok there ended
  rw [fillReply_room, List.nil_append] at nothing
  have past := List.drop_eq_nil_iff.mp nothing.symm
  rw [before, List.take_of_length_le past]

end Chains

section Opening

variable {files : List FileDescription} {tree : List TreeNode} {server : FuseFiles}

/-- The handles of a tree make no difference to its shape. -/
theorem Built.serves (built : Built files tree) (serves : server.Serves tree) :
    Built files server.files := by
  have known : ∀ (index : Nat) (node : TreeNode), server.files[index]? = some node →
      tree[index]? = some node.closed := by
    intro index node found
    rw [← serves, List.getElem?_map, found]
    rfl
  constructor
  · rw [← built.size, ← serves, List.length_map]
  · intro node found
    exact built.root node.closed (known 0 node found)
  · intro index node found
    exact built.nodes index node.closed (known (index + 1) node found)
  · intro index node found
    exact built.children index node.closed (known index node found)

/-- The children of a node are nodes with the names of files. -/
theorem Built.childNode (built : Built files server.files) {ino inode : Nat} {entry : TreeNode}
    (there : server.entry? ino = some entry) :
    inode ∈ entry.children ↔ ∃ index file node name, files[index]? = some file ∧
      inode = index + 2 ∧ parentOf (files.take index) file = ino ∧
      server.entry? inode = some node ∧ node.attributes.inode = inode ∧
      fileName file.name.toList = some name ∧ node.nameBytes = encodeUtf8 name := by
  cases ino with
  | zero => cases there
  | succ place =>
    rw [built.children place entry there, mem_childInodes]
    constructor
    · rintro ⟨index, file, found, own, rfl⟩
      have below := (List.getElem?_eq_some_iff.mp found).1
      have size := built.size
      have inside : index + 1 < server.files.length := by omega
      have node := List.getElem?_eq_getElem inside
      obtain ⟨other, same, is, -, -, name, -⟩ := built.nodes index _ node
      obtain rfl := Option.some.inj (found.symm.trans same)
      exact ⟨index, file, _, _, found, rfl, own, node, is, name, rfl⟩
    · rintro ⟨index, file, node, name, found, rfl, own, -⟩
      exact ⟨index, file, found, own, rfl⟩

theorem mem_childEntries {entry : TreeNode} {child : Nat × FileType × Bytes} :
    child ∈ server.childEntries entry ↔ child.1 ∈ entry.children ∧
      ∃ node, server.entry? child.1 = some node ∧
        child.2 = (node.attributes.kind, node.nameBytes) := by
  unfold FuseFiles.childEntries
  rw [List.mem_filterMap]
  constructor
  · rintro ⟨inode, inside, is⟩
    obtain ⟨node, there, rfl⟩ := Option.map_eq_some_iff.mp is
    exact ⟨inside, node, there, rfl⟩
  · rintro ⟨inside, node, there, is⟩
    refine ⟨child.1, inside, ?_⟩
    rw [there, Option.map_some]
    exact congrArg (fun rest => some (child.1, rest)) is.symm

/-- What `lookup` of a name in a directory finds is a child with that name. -/
theorem lookup_ok {ino : Nat} {entry : TreeNode} {name : Bytes} {attributes : InodeAttributes}
    {generation : Nat} (there : server.entry? ino = some entry)
    (found : server.lookup ino name = .ok (attributes, generation)) :
    name.length ≤ maxNameLen ∧ ∃ inode node, inode ∈ entry.children ∧
      server.entry? inode = some node ∧ node.nameBytes = name ∧ node.attributes = attributes := by
  unfold FuseFiles.lookup at found
  by_cases long : name.length > maxNameLen
  · rw [if_pos long] at found
    cases found
  · rw [if_neg long, there] at found
    dsimp only at found
    split at found
    · cases found
    · split at found
      · rename_i attributes' search
        obtain ⟨rfl, -⟩ := Prod.mk.inj (Except.ok.inj found)
        obtain ⟨inode, inside, is⟩ := List.exists_of_findSome?_eq_some search
        obtain ⟨node, place, is⟩ := Option.bind_eq_some_iff.mp is
        split at is
        · rename_i same
          exact ⟨Nat.le_of_not_lt long, inode, node, inside, place, same, Option.some.inj is⟩
        · cases is
      · cases found

/-- A name of a child that is not too long is found. -/
theorem lookup_found {ino inode : Nat} {entry node : TreeNode}
    (there : server.entry? ino = some entry) (dir : entry.attributes.kind = .directory)
    (inside : inode ∈ entry.children) (place : server.entry? inode = some node)
    (short : node.nameBytes.length ≤ maxNameLen) :
    ∃ attributes, server.lookup ino node.nameBytes = .ok (attributes, server.generation) := by
  unfold FuseFiles.lookup
  rw [if_neg (Nat.not_lt.mpr short), there]
  dsimp only
  rw [if_neg (not_not.mpr dir)]
  split
  · exact ⟨_, rfl⟩
  · rename_i nothing
    have missing := List.findSome?_eq_none_iff.mp nothing inode inside
    rw [place, Option.bind_some, if_pos rfl] at missing
    cases missing

/-- The node of a file is a child of a directory. -/
theorem Built.placed (built : Built files server.files) {index : Nat} {file : FileDescription}
    (found : files[index]? = some file) :
    ∃ entry node name, server.entry? (parentOf (files.take index) file) = some entry ∧
      entry.attributes.kind = .directory ∧ index + 2 ∈ entry.children ∧
      server.entry? (index + 2) = some node ∧ fileName file.name.toList = some name ∧
      node.nameBytes = encodeUtf8 name := by
  obtain ⟨p, entry, -, there, own, -, dir⟩ := built.parent found
  have place : server.entry? (parentOf (files.take index) file) = some entry := by
    rw [own]
    exact there
  have inside : index + 2 ∈ entry.children := by
    rw [built.children p entry there]
    exact mem_childInodes.mpr ⟨index, file, found, own, rfl⟩
  obtain ⟨other, another, node, name, same, is, -, child, -, base, bytes⟩ :=
    (built.childNode place).mp inside
  obtain rfl : other = index := by omega
  obtain rfl := Option.some.inj (found.symm.trans same)
  exact ⟨entry, node, name, place, dir, inside, child, base, bytes⟩

theorem EntriesOpen.placeable (built : Built files server.files) (opens : server.EntriesOpen) :
    Placeable files where
  distinct := by
    intro i j first second before firstAt secondAt together same
    obtain ⟨entry, node, name, there, dir, inside, place, base, bytes⟩ := built.placed firstAt
    obtain ⟨entry', node', name', there', -, inside', place', base', bytes'⟩ :=
      built.placed secondAt
    rw [← together] at there'
    obtain rfl := Option.some.inj (there.symm.trans there')
    obtain rfl : name = name' := Option.some.inj (base.symm.trans (same.trans base'))
    obtain ⟨attributes, found, inode⟩ := opens _ entry there dir
      (i + 2, node.attributes.kind, node.nameBytes)
      (mem_childEntries.mpr ⟨inside, node, place, rfl⟩)
    obtain ⟨attributes', found', inode'⟩ := opens _ entry there dir
      (j + 2, node'.attributes.kind, node'.nameBytes)
      (mem_childEntries.mpr ⟨inside', node', place', rfl⟩)
    dsimp only at found found' inode inode'
    rw [bytes] at found
    rw [bytes', found] at found'
    obtain ⟨rfl, -⟩ := Prod.mk.inj (Except.ok.inj found')
    omega
  short := by
    intro file member name base
    obtain ⟨index, found⟩ := List.getElem?_of_mem member
    obtain ⟨entry, node, other, there, dir, inside, place, base', bytes⟩ := built.placed found
    obtain rfl : other = name := Option.some.inj (base'.symm.trans base)
    obtain ⟨attributes, opened, -⟩ := opens _ entry there dir
      (index + 2, node.attributes.kind, node.nameBytes)
      (mem_childEntries.mpr ⟨inside, node, place, rfl⟩)
    rw [← bytes]
    exact (lookup_ok there opened).1

theorem Placeable.entriesOpen (placeable : Placeable files) (built : Built files server.files) :
    server.EntriesOpen := by
  intro ino entry there dir child reported
  obtain ⟨inside, node, place, rest⟩ := mem_childEntries.mp reported
  obtain ⟨index, file, other, name, found, inode, own, same, -, base, bytes⟩ :=
    (built.childNode there).mp inside
  obtain rfl := Option.some.inj (place.symm.trans same)
  have short : node.nameBytes.length ≤ maxNameLen := by
    rw [bytes]
    exact placeable.short file (List.mem_of_getElem? found) name base
  obtain ⟨attributes, opened⟩ := lookup_found there dir inside place short
  rw [rest]
  refine ⟨attributes, opened, ?_⟩
  -- the child that is found has the same name, and there is no other one with it
  obtain ⟨-, inode', node', inside', place', named, is⟩ := lookup_ok there opened
  obtain ⟨index', file', other', name', found', inodeIs, own', same', inode'Is, base', bytes'⟩ :=
    (built.childNode there).mp inside'
  obtain rfl := Option.some.inj (place'.symm.trans same')
  have names : name' = name := by
    have decoded := congrArg decodeUtf8 (bytes'.symm.trans (named.trans bytes))
    rwa [decodeUtf8_encode, decodeUtf8_encode] at decoded
  subst names
  have single : index' = index := by
    rcases Nat.lt_trichotomy index' index with before | is | after
    · exact absurd (base'.trans base.symm)
        (placeable.distinct _ _ _ _ before found' found (own'.trans own.symm))
    · exact is
    · exact absurd (base.trans base'.symm)
        (placeable.distinct _ _ _ _ after found found' (own.trans own'.symm))
  rw [← is, inode'Is, inodeIs, single, inode]

/-- Reading a directory reports its entries, whatever the chain of calls. -/
theorem Built.chainsReport (built : Built files server.files) : server.ChainsReport := by
  intro ino entry there _
  refine ⟨?_, ?_, ?_⟩
  · unfold FuseFiles.childEntries
    rw [List.map_filterMap, List.filterMap_congr (g := some), List.filterMap_some]
    intro inode inside
    obtain ⟨-, -, node, -, -, -, -, place, -⟩ := (built.childNode there).mp inside
    rw [place]
    rfl
  · cases ino with
    | zero => cases there
    | succ index =>
      rw [built.children index entry there]
      exact nodup_childInodes files _
  · intro fh offset reported chain
    exact chain.complete there

end Opening

section Lists

variable {source : FileTree} {paths : List Path} {entries : List ListedFile}

theorem sent_name (connId : Int32) (file : LocalFile) :
    (file.sent connId).name = blockName file.relativePath.toList := rfl

theorem sent_kind (connId : Int32) (file : LocalFile) :
    (file.sent connId).kind = if file.isDir then .directory else .file := rfl

/-- Where a file belongs does not depend on the connection. -/
theorem parentOf_sent (connId : Int32) (earlier : List ListedFile) (entry : ListedFile) :
    parentOf (earlier.map fun entry => entry.file.sent connId) (entry.file.sent connId) =
      parentOf (earlier.map fun entry => entry.file.sent 0) (entry.file.sent 0) := by
  have same : directories (earlier.map fun entry => entry.file.sent connId) =
      directories (earlier.map fun entry => entry.file.sent 0) := by
    unfold directories
    rw [List.zipIdx_map, List.zipIdx_map, List.filterMap_map, List.filterMap_map]
    refine List.filterMap_congr ?_
    intro place _
    simp only [Function.comp_apply, Prod.map_fst, Prod.map_snd, id_eq, sent_name, sent_kind]
    rfl
  unfold parentOf
  rw [same, sent_name, sent_name]

theorem Lists.placeable_iff (lists : Lists source paths entries) (connId : Int32) :
    Placeable (entries.map fun entry => entry.file.sent connId) ↔ Distinguishable entries := by
  have placed : ∀ (index : Nat) (entry : ListedFile),
      parentOf ((entries.map fun entry => entry.file.sent connId).take index)
        (entry.file.sent connId) = landing entries index entry := by
    intro index entry
    rw [← List.map_take, parentOf_sent]
    rfl
  constructor
  · intro placeable
    refine ⟨?_, ?_⟩
    · intro i j first second firstAt secondAt other together same
      have firstSent : (entries.map fun entry => entry.file.sent connId)[i]? =
          some (first.file.sent connId) := by rw [List.getElem?_map, firstAt]; rfl
      have secondSent : (entries.map fun entry => entry.file.sent connId)[j]? =
          some (second.file.sent connId) := by rw [List.getElem?_map, secondAt]; rfl
      rw [← placed, ← placed] at together
      rcases Nat.lt_trichotomy i j with before | is | after
      · exact placeable.distinct i j _ _ before firstSent secondSent together same
      · subst is
        obtain rfl := Option.some.inj (firstAt.symm.trans secondAt)
        exact other rfl
      · exact placeable.distinct j i _ _ after secondSent firstSent together.symm same.symm
    · intro entry inside name base
      exact placeable.short _ (List.mem_map.mpr ⟨entry, inside, rfl⟩) name base
  · intro distinguishable
    refine ⟨?_, ?_⟩
    · intro i j firstSent secondSent before firstIs secondIs together same
      rw [List.getElem?_map] at firstIs secondIs
      obtain ⟨first, firstAt, rfl⟩ := Option.map_eq_some_iff.mp firstIs
      obtain ⟨second, secondAt, rfl⟩ := Option.map_eq_some_iff.mp secondIs
      rw [placed, placed] at together
      refine distinguishable.distinct i j first second firstAt secondAt ?_ together same
      -- no path is listed twice
      intro keys
      have inside := (List.getElem?_eq_some_iff.mp firstAt).1
      have equal : (entries.map ListedFile.key)[i]? = (entries.map ListedFile.key)[j]? := by
        rw [List.getElem?_map, List.getElem?_map, firstAt, secondAt, Option.map_some,
          Option.map_some, keys]
      have indices := (List.getElem?_inj (by rwa [List.length_map]) lists.once).mp equal
      omega
    · intro file inside name base
      obtain ⟨entry, listed, rfl⟩ := List.mem_map.mp inside
      exact distinguishable.short entry listed name base

end Lists

/-- Everything that is listed of selected paths can be opened exactly if the different paths that
belong to one directory have different names, and no name is too long. -/
theorem listed_opens_iff {source : FileTree} {paths : List Path} {entries : List ListedFile}
    {pdu : Bytes} {connId : Int32} {descs : List FileDescription} {chances : Nat → Chance}
    {tree : List TreeNode} {server : FuseFiles} (listed : Constructs source paths entries)
    (written : buildFileListPdu (entries.map ListedFile.file) = some pdu)
    (parsed : parseFileDescriptors pdu connId = .ok descs)
    (built : buildTree chances descs = .ok tree) (serves : server.Serves tree) :
    server.EntriesOpen ∧ server.ChainsReport ↔ Distinguishable entries := by
  have sent : descs = entries.map fun entry => entry.file.sent connId := by
    rw [parseFileDescriptors_sent connId written] at parsed
    split at parsed
    · obtain rfl := Except.ok.inj parsed
      exact List.map_map
    · cases parsed
  have shape := (buildTree_built built).serves serves
  rw [sent] at shape
  rw [← listed.lists.placeable_iff connId]
  constructor
  · intro both
    exact EntriesOpen.placeable shape both.1
  · intro placeable
    exact ⟨placeable.entriesOpen shape, shape.chainsReport⟩

/-- What is pasted of entries whose paths fit, if the tree can be built. -/
theorem pasted {entries : List ListedFile} (connId : Int32) (chances : Nat → Chance)
    (fits : ∀ entry ∈ entries, entry.file.Fits) (count : entries.length < 4294967296)
    (builds : (buildTree chances (entries.map fun entry => entry.file.sent connId)).isOk = true) :
    ∃ pdu tree, buildFileListPdu (entries.map ListedFile.file) = some pdu ∧
      parseFileDescriptors pdu connId = .ok (entries.map fun entry => entry.file.sent connId) ∧
      buildTree chances (entries.map fun entry => entry.file.sent connId) = .ok tree := by
  obtain ⟨pdu, written, -⟩ :=
    (buildFileListPdu_fits (entries.map ListedFile.file)).1 (List.forall_mem_map.mpr fits)
  have parsed := parseFileDescriptors_sent connId written
  rw [if_pos (by rwa [List.length_map]), List.map_map] at parsed
  cases built : buildTree chances (entries.map fun entry => entry.file.sent connId) with
  | error e =>
    rw [built] at builds
    cases builds
  | ok tree => exact ⟨pdu, tree, written, parsed, rfl⟩

/-- A directory and the file in it, as they are listed. -/
def docsEntries : List ListedFile :=
  [openedFile (components (plainPath "/h")) (plainPath "/h/docs") directoryMetadata,
    openedFile (components (plainPath "/h")) (joinPath (plainPath "/h/docs") (plainPath "a.txt"))
      fileMetadata]

theorem docsEntries_listed :
    Constructs (oneFileTree (plainPath "/h/docs") (plainPath "a.txt")) [plainPath "/h/docs"]
      docsEntries :=
  oneFileTree_constructs (by decide +kernel) (by decide +kernel)

/-- They belong to different directories. -/
theorem docsEntries_distinguishable : Distinguishable docsEntries where
  distinct := by
    intro i j first second firstAt secondAt other together
    have iBound := (List.getElem?_eq_some_iff.mp firstAt).1
    have jBound := (List.getElem?_eq_some_iff.mp secondAt).1
    have size : docsEntries.length = 2 := rfl
    have zero : docsEntries[0]?.map (landing docsEntries 0) = some 1 := by decide +kernel
    have one : docsEntries[1]?.map (landing docsEntries 1) = some 2 := by decide +kernel
    obtain rfl | rfl : i = 0 ∨ i = 1 := by omega
    · obtain rfl | rfl : j = 0 ∨ j = 1 := by omega
      · obtain rfl := Option.some.inj (firstAt.symm.trans secondAt)
        exact absurd rfl other
      · rw [firstAt, Option.map_some, together] at zero
        rw [secondAt, Option.map_some] at one
        cases zero.symm.trans one
    · obtain rfl | rfl : j = 0 ∨ j = 1 := by omega
      · rw [firstAt, Option.map_some, together] at one
        rw [secondAt, Option.map_some] at zero
        cases zero.symm.trans one
      · obtain rfl := Option.some.inj (firstAt.symm.trans secondAt)
        exact absurd rfl other
  short := by
    have all : ∀ entry ∈ docsEntries, (sentName entry).all
        (fun name => (encodeUtf8 name).length ≤ maxNameLen) = true := by decide +kernel
    intro entry inside name base
    have fits := all entry inside
    rw [base] at fits
    exact of_decide_eq_true fits

/-- Both can be opened, whatever their tree has of handles. -/
theorem docs_open :
    ∃ pdu descs tree, Constructs (oneFileTree (plainPath "/h/docs") (plainPath "a.txt"))
        [plainPath "/h/docs"] docsEntries ∧
      buildFileListPdu (docsEntries.map ListedFile.file) = some pdu ∧
      parseFileDescriptors pdu 1 = .ok descs ∧ buildTree (fun _ => ⟨7, 0⟩) descs = .ok tree ∧
      ∀ server : FuseFiles, server.Serves tree → server.EntriesOpen ∧ server.ChainsReport := by
  obtain ⟨pdu, tree, written, parsed, built⟩ :=
    @pasted docsEntries 1 (fun _ => ⟨7, 0⟩) (by decide +kernel) (by decide) (by decide +kernel)
  refine ⟨pdu, _, tree, docsEntries_listed, written, parsed, built, ?_⟩
  intro server serves
  exact (listed_opens_iff docsEntries_listed written parsed built serves).mpr
    docsEntries_distinguishable

/-- Two files of one name from different directories. -/
def twoSelections : FileTree where
  metadata path :=
    if path = plainPath "/a/x.txt" ∨ path = plainPath "/b/x.txt" then some fileMetadata else none
  readDir _ := none

/-- What is listed of them. -/
def twoEntries : List ListedFile :=
  [openedFile (components (plainPath "/a")) (plainPath "/a/x.txt") fileMetadata,
    openedFile (components (plainPath "/a")) (plainPath "/b/x.txt") fileMetadata]

/-- Both belong to the root, and one of them cannot be opened. -/
theorem same_name_lost :
    ∃ pdu descs tree,
      Constructs twoSelections [plainPath "/a/x.txt", plainPath "/b/x.txt"] twoEntries ∧
      buildFileListPdu (twoEntries.map ListedFile.file) = some pdu ∧
      parseFileDescriptors pdu 1 = .ok descs ∧ buildTree (fun _ => ⟨7, 0⟩) descs = .ok tree ∧
      ¬ (FuseFiles.mk tree 1).EntriesOpen := by
  have listed : Constructs twoSelections [plainPath "/a/x.txt", plainPath "/b/x.txt"] twoEntries :=
    ⟨1, by decide +kernel⟩
  obtain ⟨pdu, tree, written, parsed, built⟩ :=
    @pasted twoEntries 1 (fun _ => ⟨7, 0⟩) (by decide +kernel) (by decide) (by decide +kernel)
  refine ⟨pdu, _, tree, listed, written, parsed, built, ?_⟩
  intro opens
  have placeable := @EntriesOpen.placeable _ ⟨tree, 1⟩ (buildTree_built built) opens
  have together : landing twoEntries 0 (openedFile (components (plainPath "/a"))
      (plainPath "/a/x.txt") fileMetadata) =
    landing twoEntries 1 (openedFile (components (plainPath "/a"))
      (plainPath "/b/x.txt") fileMetadata) := by decide +kernel
  have same : sentName (openedFile (components (plainPath "/a")) (plainPath "/a/x.txt")
      fileMetadata) =
    sentName (openedFile (components (plainPath "/a")) (plainPath "/b/x.txt") fileMetadata) := by
    decide +kernel
  have distinguishable := (listed.lists.placeable_iff 1).mp placeable
  refine distinguishable.distinct 0 1 _ _ rfl rfl ?_ together same
  decide +kernel

end ChainRemote.Clipboard
