import Mathlib.Data.List.Nodup
import Mathlib.Logic.Relation
import ChainRemote.Lib.Maps
import ChainRemote.Lib.UnixPath
import ChainRemote.Clipboard.FileDescriptors

/-!
# The tree of pasted files

The descriptions that the other side sends become the nodes of a tree, in their order. The parent of
a node is the last directory before it with the path above its own, and the root where there is
none. Whatever paths are sent, the nodes are a tree: each but the root is a child of exactly one
directory that stands before it.
-/

namespace ChainRemote.Clipboard

open Lib

/-- `FUSE_ROOT_ID`. -/
def fuseRootId : Nat := 1

/-- `InodeAttributes`; its times are in nanoseconds from 1970. -/
structure InodeAttributes where
  inode : Nat
  size : UInt64
  lastAccessed : Nat
  lastModified : Nat
  lastMetadataChanged : Nat
  creationTime : Nat
  kind : FileType
  perm : UInt16
deriving DecidableEq, Repr

/-- `FuseNode`. -/
structure TreeNode where
  connId : Int32
  streamId : Int32
  /-- The place of the file in the list of the other side. -/
  index : Nat
  parent : Option Nat
  name : String
  attributes : InodeAttributes
  children : List Nat
  fileHandlers : List Nat := []
deriving DecidableEq, Repr

/-- What a node is made with that is not in its description: a random number and the time. -/
structure Chance where
  streamId : Int32
  now : Nat

namespace TreeNode

/-- `from_description`. -/
def fromDescription (chance : Chance) (inode : Nat) (desc : FileDescription) : TreeNode where
  connId := desc.connId
  streamId := chance.streamId
  index := inode - 2
  name := desc.name
  parent := none
  attributes := {
    inode
    size := desc.size
    lastModified := desc.lastModified
    lastMetadataChanged := desc.lastMetadataChanged
    creationTime := desc.creationTime
    lastAccessed := chance.now
    kind := desc.kind
    perm := desc.perm }
  children := []

/-- `new_root`. -/
def newRoot (chance : Chance) : TreeNode where
  connId := 0
  streamId := chance.streamId
  index := 0
  name := "/"
  parent := none
  attributes := {
    inode := fuseRootId
    size := 0
    lastAccessed := chance.now
    lastModified := chance.now
    lastMetadataChanged := chance.now
    creationTime := chance.now
    kind := .directory
    perm := permRwx }
  children := []

/-- `add_child`. -/
def addChild (inode : Nat) (node : TreeNode) : TreeNode :=
  { node with children := node.children ++ [inode] }

end TreeNode

/-- The components of a path in text. -/
abbrev Components := List (Component Char)

/-- The tree while it is built, and the directories by their paths. -/
structure Building where
  treeList : List TreeNode
  subRootMap : Components → Option Nat

/-- The paths of the root. -/
def rootMap : Components → Option Nat :=
  insertAll [(components ['/'], fuseRootId), (components [], fuseRootId)] fun _ => none

/-- The tree of the root alone. -/
def Building.start (chance : Chance) : Building where
  treeList := [.newRoot chance]
  subRootMap := rootMap

/-- The inode of the parent of a file. -/
def Building.parentInode (building : Building) (name : List Char) : Nat :=
  match parentComponents name with
  | some parent => (building.subRootMap parent).getD fuseRootId
  | none => fuseRootId

/-- The loop of `build_tree`, for one file. -/
def Building.addFile (chance : Chance) (building : Building) (file : FileDescription) :
    Except CliprdrError Building :=
  let name := file.name.toList
  let inode := building.treeList.length + fuseRootId
  let parentInode := building.parentInode name
  let treeList := building.treeList.modify (parentInode - 1) (.addChild inode)
  match fileName name with
  | none => .error (.fileError file.name)
  | some baseName =>
    let node := TreeNode.fromDescription chance inode { file with name := String.ofList baseName }
    .ok {
      treeList := treeList ++ [{ node with parent := some parentInode }]
      subRootMap :=
        if file.kind = .directory then
          Function.update building.subRootMap (components name) (some inode)
        else building.subRootMap }

/-- The loop of `build_tree`. -/
def Building.addFiles (chances : Nat → Chance) :
    Building → List FileDescription → Except CliprdrError Building
  | building, [] => .ok building
  | building, file :: files =>
    match building.addFile (chances building.treeList.length) file with
    | .error e => .error e
    | .ok building => addFiles chances building files

/-- `build_tree`. -/
def buildTree (chances : Nat → Chance) (files : List FileDescription) :
    Except CliprdrError (List TreeNode) :=
  Building.treeList <$> (Building.start (chances 0)).addFiles chances files

/-- What `FuseServer` serves. -/
structure FuseFiles where
  files : List TreeNode
  generation : Nat
deriving DecidableEq, Repr

/-- `load_file_list`. -/
def FuseFiles.loadFileList (chances : Nat → Chance) (server : FuseFiles)
    (files : List FileDescription) : Except CliprdrError Unit × FuseFiles :=
  match buildTree chances files with
  | .error e => (.error e, server)
  | .ok tree => (.ok (), { files := tree, generation := server.generation + 1 })

/-! ## Where the files of a list belong -/

/-- The directories of a list by their paths. -/
def directories (files : List FileDescription) : List (Components × Nat) :=
  files.zipIdx.filterMap fun (file, index) =>
    if file.kind = .directory then some (components file.name.toList, index + 2) else none

/-- The inode of the directory that a file belongs to, after others. -/
def parentOf (earlier : List FileDescription) (file : FileDescription) : Nat :=
  match parentComponents file.name.toList with
  | some parent => (lastValue parent (directories earlier)).getD fuseRootId
  | none => fuseRootId

/-- The inodes of the files of a list that belong to a directory. -/
def childInodes (files : List FileDescription) (parent : Nat) : List Nat :=
  ((List.range files.length).filter fun index =>
    files[index]?.any fun file => parentOf (files.take index) file = parent).map (· + 2)

section Lists

variable {files : List FileDescription} {file : FileDescription}

theorem directories_append :
    directories (files ++ [file]) = directories files ++
      if file.kind = .directory then [(components file.name.toList, files.length + 2)] else [] := by
  unfold directories
  rw [List.zipIdx_append, List.filterMap_append]
  by_cases dir : file.kind = .directory
  · simp [dir]
  · simp [dir]

theorem mem_directories {key : Components} {inode : Nat}
    (inside : (key, inode) ∈ directories files) :
    ∃ index file, files[index]? = some file ∧ file.kind = .directory ∧ inode = index + 2 := by
  obtain ⟨⟨file, index⟩, place, is⟩ := List.mem_filterMap.mp inside
  dsimp only at is
  split at is
  · rename_i dir
    obtain ⟨-, rfl⟩ := Prod.mk.inj (Option.some.inj is)
    refine ⟨index, file, ?_, dir, rfl⟩
    exact List.mk_mem_zipIdx_iff_getElem?.mp place
  · cases is

/-- A file belongs to the root or to a directory of the list. -/
theorem parentOf_cases (files : List FileDescription) (file : FileDescription) :
    parentOf files file = fuseRootId ∨
      ∃ index other, files[index]? = some other ∧ other.kind = .directory ∧
        parentOf files file = index + 2 := by
  unfold parentOf
  cases parentComponents file.name.toList with
  | none => exact .inl rfl
  | some parent =>
    dsimp only
    cases found : lastValue parent (directories files) with
    | none => exact .inl rfl
    | some inode =>
      right
      unfold lastValue at found
      obtain ⟨pair, last, rfl⟩ := Option.map_eq_some_iff.mp found
      have inside := (List.mem_filter.mp (List.mem_of_getLast? last)).1
      obtain ⟨index, other, place, dir, is⟩ := @mem_directories _ pair.1 pair.2 inside
      exact ⟨index, other, place, dir, is⟩

theorem getElem?_before {index : Nat} (below : index < files.length) :
    (files ++ [file])[index]? = files[index]? := List.getElem?_append_left below

theorem take_before {index : Nat} (below : index ≤ files.length) :
    (files ++ [file]).take index = files.take index := List.take_append_of_le_length below

theorem childInodes_append (parent : Nat) :
    childInodes (files ++ [file]) parent = childInodes files parent ++
      if parentOf files file = parent then [files.length + 2] else [] := by
  have early : (List.range files.length).filter (fun index => (files ++ [file])[index]?.any
      fun other => parentOf ((files ++ [file]).take index) other = parent) =
      (List.range files.length).filter fun index => files[index]?.any fun other =>
        parentOf (files.take index) other = parent := by
    refine List.filter_congr ?_
    intro index inside
    have below := List.mem_range.mp inside
    rw [getElem?_before below, take_before (Nat.le_of_lt below)]
  have late : (files ++ [file])[files.length]? = some file := List.getElem?_concat_length
  unfold childInodes
  rw [List.length_append, List.length_singleton, List.range_succ, List.filter_append,
    List.map_append, early, List.filter_singleton, late, take_before (Nat.le_refl _),
    List.take_length, Option.any_some]
  by_cases own : parentOf files file = parent
  · rw [if_pos own, decide_eq_true own]
    rfl
  · rw [if_neg own, decide_eq_false own]
    rfl

theorem mem_childInodes {parent inode : Nat} :
    inode ∈ childInodes files parent ↔ ∃ index file, files[index]? = some file ∧
      parentOf (files.take index) file = parent ∧ inode = index + 2 := by
  unfold childInodes
  rw [List.mem_map]
  constructor
  · rintro ⟨index, inside, rfl⟩
    obtain ⟨file, found, own⟩ := (Option.any_eq_true _ _).mp (List.mem_filter.mp inside).2
    exact ⟨index, file, found, of_decide_eq_true own, rfl⟩
  · rintro ⟨index, file, found, own, rfl⟩
    have below := (List.getElem?_eq_some_iff.mp found).1
    refine ⟨index, List.mem_filter.mpr ⟨List.mem_range.mpr below, ?_⟩, rfl⟩
    rw [found, Option.any_some]
    exact decide_eq_true own

theorem nodup_childInodes (files : List FileDescription) (parent : Nat) :
    (childInodes files parent).Nodup := by
  refine List.Nodup.map ?_ (List.Nodup.filter _ List.nodup_range)
  intro a b same
  exact Nat.add_right_cancel same

end Lists

/-- The nodes of a tree are the files of a list, in their order and where they belong. -/
structure Built (files : List FileDescription) (tree : List TreeNode) : Prop where
  size : tree.length = files.length + 1
  root : ∀ node, tree[0]? = some node → node.parent = none ∧
    node.attributes.inode = fuseRootId ∧ node.attributes.kind = .directory
  nodes : ∀ index node, tree[index + 1]? = some node → ∃ file, files[index]? = some file ∧
    node.attributes.inode = index + 2 ∧ node.index = index ∧ node.attributes.kind = file.kind ∧
    fileName file.name.toList = some node.name.toList ∧
    node.parent = some (parentOf (files.take index) file)
  children : ∀ index node, tree[index]? = some node →
    node.children = childInodes files (index + 1)

/-- The directories that are kept are those of the list. -/
structure Building.Follows (files : List FileDescription) (building : Building) : Prop where
  built : Built files building.treeList
  map : building.subRootMap = insertAll (directories files) rootMap

section Building

variable {files : List FileDescription} {building next : Building}

theorem Building.start_follows (chance : Chance) : (Building.start chance).Follows [] where
  built := {
    size := rfl
    root := by
      intro node found
      obtain rfl := Option.some.inj found
      exact ⟨rfl, rfl, rfl⟩
    nodes := by
      intro index node found
      cases found
    children := by
      intro index node found
      cases index with
      | zero =>
        obtain rfl := Option.some.inj found
        rfl
      | succ index => cases found }
  map := rfl

/-- The root is found for its own paths, and for those that were never entered. -/
theorem rootMap_getD (key : Components) : (rootMap key).getD fuseRootId = fuseRootId := by
  unfold rootMap
  rw [insertAll_apply]
  cases found : lastValue key [(components ['/'], fuseRootId), (components [], fuseRootId)] with
  | none => rfl
  | some inode =>
    unfold lastValue at found
    obtain ⟨pair, last, rfl⟩ := Option.map_eq_some_iff.mp found
    have inside := (List.mem_filter.mp (List.mem_of_getLast? last)).1
    rcases List.mem_cons.mp inside with rfl | other
    · rfl
    · rw [List.mem_singleton.mp other]
      rfl

/-- The parent that is looked up is where the file belongs. -/
theorem Building.Follows.parentInode (follows : building.Follows files) (file : FileDescription) :
    building.parentInode file.name.toList = parentOf files file := by
  unfold Building.parentInode parentOf
  cases parentComponents file.name.toList with
  | none => rfl
  | some parent =>
    dsimp only
    rw [follows.map, insertAll_apply]
    cases lastValue parent (directories files) with
    | none =>
      rw [Option.none_or, rootMap_getD]
      rfl
    | some inode => rfl

theorem parentOf_pos (files : List FileDescription) (file : FileDescription) :
    0 < parentOf files file := by
  rcases parentOf_cases files file with root | ⟨index, -, -, -, is⟩
  · rw [root]
    exact Nat.one_pos
  · omega

theorem parentOf_le (files : List FileDescription) (file : FileDescription) :
    parentOf files file ≤ files.length + 1 := by
  rcases parentOf_cases files file with root | ⟨index, other, there, -, is⟩
  · rw [root]
    exact Nat.succ_le_succ (Nat.zero_le _)
  · have below := (List.getElem?_eq_some_iff.mp there).1
    omega

/-- No file belongs to a node that comes later. -/
theorem childInodes_late {files : List FileDescription} {inode : Nat}
    (late : files.length < inode) : childInodes files (inode + 1) = [] := by
  refine List.eq_nil_iff_forall_not_mem.mpr ?_
  intro child inside
  obtain ⟨index, file, found, own, -⟩ := mem_childInodes.mp inside
  have below := (List.getElem?_eq_some_iff.mp found).1
  have bound := parentOf_le (files.take index) file
  have length : (files.take index).length ≤ index := List.length_take_le _ _
  omega

/-- A node of a tree after a node was added: one that was there, perhaps with one more child, or the
one that was added. -/
theorem added_node {tree : List TreeNode} {above inode index : Nat} {new found : TreeNode}
    (place : (tree.modify above (.addChild inode) ++ [new])[index]? = some found) :
    (∃ old, tree[index]? = some old ∧
      found = if above = index then old.addChild inode else old) ∨
    index = tree.length ∧ found = new := by
  by_cases below : index < tree.length
  · left
    rw [List.getElem?_append_left (by rwa [List.length_modify]), List.getElem?_modify] at place
    obtain ⟨old, there, rfl⟩ := Option.map_eq_some_iff.mp place
    refine ⟨old, there, ?_⟩
    split
    · rfl
    · rfl
  · right
    have length : (tree.modify above (.addChild inode)).length = tree.length :=
      List.length_modify _ _ _
    rw [List.getElem?_append_right (by omega), length] at place
    have first := (List.getElem?_eq_some_iff.mp place).1
    rw [List.length_singleton] at first
    have here : index = tree.length := by omega
    rw [here, Nat.sub_self] at place
    exact ⟨here, (Option.some.inj place).symm⟩

/-- A node for one more file. -/
theorem Built.push {tree : List TreeNode} (built : Built files tree) {file : FileDescription}
    {new : TreeNode} (inode : new.attributes.inode = files.length + 2)
    (place : new.index = files.length) (kind : new.attributes.kind = file.kind)
    (name : fileName file.name.toList = some new.name.toList)
    (parent : new.parent = some (parentOf files file)) (childless : new.children = []) :
    Built (files ++ [file])
      (tree.modify (parentOf files file - 1) (.addChild (files.length + 2)) ++ [new]) where
  size := by
    rw [List.length_append, List.length_modify, built.size, List.length_append,
      List.length_singleton]
    rfl
  root := by
    intro node found
    rcases added_node found with ⟨old, there, rfl⟩ | ⟨last, -⟩
    · have facts := built.root old there
      split
      · exact facts
      · exact facts
    · have size := built.size
      omega
  nodes := by
    intro index node found
    rcases added_node found with ⟨old, there, rfl⟩ | ⟨last, rfl⟩
    · obtain ⟨other, entry, facts⟩ := built.nodes index old there
      have below := (List.getElem?_eq_some_iff.mp entry).1
      refine ⟨other, by rw [getElem?_before below, entry], ?_⟩
      rw [take_before (Nat.le_of_lt below)]
      split
      · exact facts
      · exact facts
    · have here : index = files.length := by
        have size := built.size
        omega
      subst here
      refine ⟨file, List.getElem?_concat_length, inode, place, kind, name, ?_⟩
      rw [take_before (Nat.le_refl _), List.take_length]
      exact parent
  children := by
    intro index node found
    have positive := parentOf_pos files file
    rw [childInodes_append]
    rcases added_node found with ⟨old, there, rfl⟩ | ⟨last, rfl⟩
    · have before := built.children index old there
      by_cases own : parentOf files file = index + 1
      · rw [if_pos (by omega), if_pos own, ← before]
        rfl
      · rw [if_neg (by omega), if_neg own, List.append_nil, before]
    · have size := built.size
      have bound := parentOf_le files file
      rw [if_neg (by omega), List.append_nil, childInodes_late (by omega)]
      exact childless

theorem Building.Follows.addFile (follows : building.Follows files) {chance : Chance}
    {file : FileDescription} (added : building.addFile chance file = .ok next) :
    next.Follows (files ++ [file]) := by
  have belongs := follows.parentInode file
  have size := follows.built.size
  unfold Building.addFile at added
  dsimp only at added
  rw [belongs] at added
  cases named : fileName file.name.toList with
  | none =>
    rw [named] at added
    cases added
  | some baseName =>
    rw [named] at added
    obtain rfl := Except.ok.inj added
    have inode : building.treeList.length + fuseRootId = files.length + 2 := by
      rw [size]
      rfl
    constructor
    · dsimp only
      rw [inode]
      refine follows.built.push rfl rfl rfl ?_ rfl rfl
      rw [named]
      exact congrArg some String.toList_ofList.symm
    · dsimp only
      rw [inode, directories_append, follows.map]
      by_cases dir : file.kind = .directory
      · rw [if_pos dir, if_pos dir, insertAll, insertAll, List.foldl_append]
        rfl
      · rw [if_neg dir, if_neg dir, List.append_nil]

theorem Building.Follows.addFiles (follows : building.Follows files) {chances : Nat → Chance}
    {more : List FileDescription} (added : building.addFiles chances more = .ok next) :
    next.Follows (files ++ more) := by
  induction more generalizing building files with
  | nil =>
    obtain rfl := Except.ok.inj added
    rwa [List.append_nil]
  | cons file more ih =>
    rw [Building.addFiles] at added
    cases first : building.addFile (chances building.treeList.length) file with
    | error e =>
      rw [first] at added
      cases added
    | ok middle =>
      rw [first] at added
      rw [List.append_cons]
      exact ih (follows.addFile first) added

/-- A tree that is built has the files of its list where they belong. -/
theorem buildTree_built {chances : Nat → Chance} {files : List FileDescription}
    {tree : List TreeNode} (done : buildTree chances files = .ok tree) : Built files tree := by
  unfold buildTree at done
  cases added : (Building.start (chances 0)).addFiles chances files with
  | error e =>
    rw [added] at done
    cases done
  | ok building =>
    rw [added] at done
    obtain rfl := Except.ok.inj done
    exact ((Building.start_follows (chances 0)).addFiles added).built

end Building

/-! ## The shape of the tree -/

/-- A node lists an inode among its children. -/
def IsChild (tree : List TreeNode) (parent inode : Nat) : Prop :=
  ∃ index node, tree[index]? = some node ∧ parent = index + 1 ∧ inode ∈ node.children

/-- The nodes are a tree, one for each file of a list. -/
structure WellFormed (files : List FileDescription) (tree : List TreeNode) : Prop where
  size : tree.length = files.length + 1
  inode : ∀ k node, 1 ≤ k → tree[k]? = some node →
    node.attributes.inode = k + 1 ∧ node.index = k - 1
  name : ∀ k node, 1 ≤ k → tree[k]? = some node →
    ∃ file, files[k - 1]? = some file ∧ fileName file.name.toList = some node.name.toList
  parent : ∀ k node, 1 ≤ k → tree[k]? = some node →
    ∃ p above, p < k ∧ tree[p]? = some above ∧ node.parent = some above.attributes.inode ∧
      above.attributes.inode = p + 1 ∧ above.attributes.kind = .directory ∧
      ∀ q other, tree[q]? = some other → other.children.count (k + 1) = if q = p then 1 else 0
  /-- The children of a node are other nodes than the root. -/
  child : ∀ p inode, IsChild tree p inode → ∃ k node, 1 ≤ k ∧ tree[k]? = some node ∧ inode = k + 1
  reached : ∀ k node, tree[k]? = some node → Relation.ReflTransGen (IsChild tree) 1 (k + 1)
  acyclic : ∀ inode, ¬ Relation.TransGen (IsChild tree) inode inode

section Shape

variable {files : List FileDescription} {tree : List TreeNode}

/-- A child comes after its parent. -/
theorem Built.later (built : Built files tree) {parent inode : Nat}
    (child : IsChild tree parent inode) : parent < inode := by
  obtain ⟨index, node, found, rfl, inside⟩ := child
  rw [built.children index node found] at inside
  obtain ⟨place, file, entry, own, rfl⟩ := mem_childInodes.mp inside
  have bound := parentOf_le (files.take place) file
  have length : (files.take place).length ≤ place := List.length_take_le _ _
  omega

theorem Built.acyclic (built : Built files tree) (inode : Nat) :
    ¬ Relation.TransGen (IsChild tree) inode inode := by
  have later : ∀ a b, Relation.TransGen (IsChild tree) a b → a < b := by
    intro a b path
    induction path with
    | single edge => exact built.later edge
    | tail _ edge ih => exact Nat.lt_trans ih (built.later edge)
  intro cycle
  exact Nat.lt_irrefl _ (later _ _ cycle)

/-- The directory that a file belongs to. -/
theorem Built.parent (built : Built files tree) {index : Nat} {file : FileDescription}
    (entry : files[index]? = some file) :
    ∃ p above, p ≤ index ∧ tree[p]? = some above ∧ parentOf (files.take index) file = p + 1 ∧
      above.attributes.inode = p + 1 ∧ above.attributes.kind = .directory := by
  have below := (List.getElem?_eq_some_iff.mp entry).1
  have size := built.size
  rcases parentOf_cases (files.take index) file with root | ⟨place, other, there, dir, is⟩
  · have first : 0 < tree.length := by omega
    have found : tree[0]? = some tree[0] := List.getElem?_eq_getElem first
    obtain ⟨-, inode, kind⟩ := built.root _ found
    exact ⟨0, _, Nat.zero_le _, found, root, inode, kind⟩
  · have early := (List.getElem?_eq_some_iff.mp there).1
    have length : (files.take index).length ≤ index := List.length_take_le _ _
    have inside : place + 1 < tree.length := by omega
    have found : tree[place + 1]? = some tree[place + 1] := List.getElem?_eq_getElem inside
    obtain ⟨named, is', inode, -, kind, -⟩ := built.nodes place _ found
    rw [List.getElem?_take_of_lt (by omega)] at there
    obtain rfl := Option.some.inj (there.symm.trans is')
    exact ⟨place + 1, _, by omega, found, is, inode, kind.trans dir⟩

theorem Built.count (built : Built files tree) {index p q : Nat} {file : FileDescription}
    {other : TreeNode} (entry : files[index]? = some file)
    (own : parentOf (files.take index) file = p + 1) (found : tree[q]? = some other) :
    other.children.count (index + 2) = if q = p then 1 else 0 := by
  rw [built.children q other found]
  by_cases same : q = p
  · rw [if_pos same, same]
    exact List.count_eq_one_of_mem (nodup_childInodes files _)
      (mem_childInodes.mpr ⟨index, file, entry, own, rfl⟩)
  · rw [if_neg same, List.count_eq_zero]
    intro inside
    obtain ⟨place, another, there, belongs, is⟩ := mem_childInodes.mp inside
    obtain rfl : place = index := by omega
    obtain rfl := Option.some.inj (there.symm.trans entry)
    omega

theorem Built.reached (built : Built files tree) (k : Nat) (inside : k < tree.length) :
    Relation.ReflTransGen (IsChild tree) 1 (k + 1) := by
  induction k using Nat.strong_induction_on with
  | _ k ih =>
    cases k with
    | zero => exact .refl
    | succ index =>
      have size := built.size
      have entry : files[index]? = some files[index] := List.getElem?_eq_getElem (by omega)
      obtain ⟨p, above, before, found, own, -, -⟩ := built.parent entry
      have place := (List.getElem?_eq_some_iff.mp found).1
      refine (ih p (by omega) place).tail ⟨p, above, found, rfl, ?_⟩
      rw [built.children p above found]
      exact mem_childInodes.mpr ⟨index, _, entry, own, rfl⟩

theorem Built.wellFormed (built : Built files tree) : WellFormed files tree where
  size := built.size
  inode := by
    intro k node positive found
    obtain ⟨index, rfl⟩ := Nat.exists_eq_add_of_le' positive
    obtain ⟨file, -, inode, place, -⟩ := built.nodes index node found
    exact ⟨inode, place⟩
  name := by
    intro k node positive found
    obtain ⟨index, rfl⟩ := Nat.exists_eq_add_of_le' positive
    obtain ⟨file, entry, -, -, -, name, -⟩ := built.nodes index node found
    exact ⟨file, entry, name⟩
  parent := by
    intro k node positive found
    obtain ⟨index, rfl⟩ := Nat.exists_eq_add_of_le' positive
    obtain ⟨file, entry, -, -, -, -, belongs⟩ := built.nodes index node found
    obtain ⟨p, above, before, there, own, inode, kind⟩ := built.parent entry
    refine ⟨p, above, by omega, there, by rw [belongs, own, inode], inode, kind, ?_⟩
    intro q other place
    exact built.count entry own place
  child := by
    rintro p inode ⟨index, node, found, rfl, inside⟩
    rw [built.children index node found] at inside
    obtain ⟨place, file, entry, -, rfl⟩ := mem_childInodes.mp inside
    have below := (List.getElem?_eq_some_iff.mp entry).1
    have size := built.size
    have there : place + 1 < tree.length := by omega
    exact ⟨place + 1, _, by omega, List.getElem?_eq_getElem there, rfl⟩
  reached := by
    intro k node found
    exact built.reached k (List.getElem?_eq_some_iff.mp found).1
  acyclic := built.acyclic

end Shape

/-- A list is loaded as a well-formed tree under a new generation, or nothing changes. -/
theorem loadFileList_wellFormed (chances : Nat → Chance) (server : FuseFiles)
    (files : List FileDescription) :
    match buildTree chances files with
    | .ok tree => WellFormed files tree ∧ server.loadFileList chances files =
        (.ok (), { files := tree, generation := server.generation + 1 })
    | .error e => server.loadFileList chances files = (.error e, server) := by
  cases done : buildTree chances files with
  | error e =>
    unfold FuseFiles.loadFileList
    rw [done]
  | ok tree =>
    refine ⟨(buildTree_built done).wellFormed, ?_⟩
    unfold FuseFiles.loadFileList
    rw [done]

end ChainRemote.Clipboard
