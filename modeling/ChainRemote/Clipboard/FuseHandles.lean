import ChainRemote.Lib.BinarySearch
import ChainRemote.Clipboard.FuseLookup

/-!
# The handles of pasted files

Every node of the mounted tree has a vector of the handles that are open on it. The vectors are
searched by halves and never sorted: they are increasing because one counter numbers all handles and
new ones go to the end. A new list of files replaces the tree with all its handles, and the counter
goes on.
-/

namespace ChainRemote.Clipboard

open Lib

/-- `marked`; nothing ever sets `gc`. -/
def TreeNode.marked (_ : TreeNode) : Bool := false

/-- `add_handler`; its panic is behind the check that `open` and `opendir` make before it. -/
def TreeNode.addHandler (fh : Nat) (node : TreeNode) : TreeNode :=
  { node with fileHandlers := node.fileHandlers ++ [fh] }

/-- `have_handler`. -/
def TreeNode.haveHandler (handler : Nat) (node : TreeNode) : Bool :=
  (binarySearch node.fileHandlers handler).isOk

/-- `unregister_handler`; `none` is its only error. -/
def TreeNode.unregisterHandler (handler : Nat) (node : TreeNode) : Option TreeNode :=
  match binarySearch node.fileHandlers handler with
  | .error _ => none
  | .ok idx => some { node with fileHandlers := node.fileHandlers.eraseIdx idx }

/-- The errors of the calls that open and close. -/
inductive HandleErrno
  | noEntry
  | notDirectory
  /-- `ENFILE`, for what is no file. -/
  | notFile
  | busy
  | badHandle
deriving DecidableEq, Repr

/-- `FuseServer`, without the channel that reads use. -/
structure FuseServer where
  served : FuseFiles
  fileHandleCounter : Nat
deriving DecidableEq, Repr

namespace FuseServer

variable (server : FuseServer)

/-- `new`. -/
def new : FuseServer := ⟨⟨[], 0⟩, 0⟩

/-- The entry of an inode is another. -/
def put (ino : Nat) (node : TreeNode) : FuseServer :=
  { server with served := { server.served with files := server.served.files.set (ino - 1) node } }

/-- `init`. -/
def init (chance : Chance) : FuseServer :=
  if server.served.files.isEmpty then
    { server with served := { server.served with files := [.newRoot chance] } }
  else server

/-- `open` and `opendir`, which differ in the kind they ask for. The counter is one of 64 bits. -/
def openKind (kind : FileType) (other : HandleErrno) (ino : Nat) :
    Except HandleErrno Nat × FuseServer :=
  match server.served.entry? ino with
  | none => (.error .noEntry, server)
  | some entry =>
    if entry.attributes.kind ≠ kind then (.error other, server)
    else if entry.marked then (.error .busy, server)
    else
      let fh := server.fileHandleCounter
      (.ok fh, { server.put ino (entry.addHandler fh) with
        fileHandleCounter := (fh + 1) % 2 ^ 64 })

/-- `opendir`. -/
def opendir (ino : Nat) : Except HandleErrno Nat × FuseServer :=
  server.openKind .directory .notDirectory ino

/-- `open`. -/
def openFile (ino : Nat) : Except HandleErrno Nat × FuseServer :=
  server.openKind .file .notFile ino

/-- `release`. -/
def release (ino fh : Nat) : Except HandleErrno Unit × FuseServer :=
  match server.served.entry? ino with
  | none => (.error .noEntry, server)
  | some entry =>
    match entry.unregisterHandler fh with
    | none => (.error .badHandle, server)
    | some entry => (.ok (), server.put ino entry)

/-- `releasedir`; the result of `unregister_handler` is dropped. -/
def releasedir (ino fh : Nat) : Except HandleErrno Unit × FuseServer :=
  match server.served.entry? ino with
  | none => (.error .noEntry, server)
  | some entry =>
    if entry.attributes.kind ≠ .directory then (.error .notDirectory, server)
    else if entry.haveHandler fh then
      (.ok (), server.put ino ((entry.unregisterHandler fh).getD entry))
    else (.error .badHandle, server)

/-- `load_file_list`. -/
def loadFileList (chances : Nat → Chance) (files : List FileDescription) :
    Except CliprdrError Unit × FuseServer :=
  let (result, served) := server.served.loadFileList chances files
  (result, { server with served })

end FuseServer

/-- What is asked of the server. -/
inductive FuseRequest
  | init (chance : Chance)
  | lookup (parent : Nat) (name : Bytes)
  | opendir (ino : Nat)
  | openFile (ino : Nat)
  | release (ino fh : Nat)
  | releasedir (ino fh : Nat)
  | loadFileList (chances : Nat → Chance) (files : List FileDescription)

/-- What the server answers. -/
inductive FuseReply
  | initialized
  | found (result : Except Errno (InodeAttributes × Nat))
  | opened (result : Except HandleErrno Nat)
  | released (result : Except HandleErrno Unit)
  | loaded (result : Except CliprdrError Unit)

/-- One request. -/
def FuseServer.serve (server : FuseServer) : FuseRequest → FuseReply × FuseServer
  | .init chance => (.initialized, server.init chance)
  | .lookup parent name => (.found (server.served.lookup parent name), server)
  | .opendir ino => (.opened (server.opendir ino).1, (server.opendir ino).2)
  | .openFile ino => (.opened (server.openFile ino).1, (server.openFile ino).2)
  | .release ino fh => (.released (server.release ino fh).1, (server.release ino fh).2)
  | .releasedir ino fh => (.released (server.releasedir ino fh).1, (server.releasedir ino fh).2)
  | .loadFileList chances files =>
    (.loaded (server.loadFileList chances files).1, (server.loadFileList chances files).2)

/-- A request and its answer. -/
abbrev Served := FuseRequest × FuseReply

/-- Some requests from a new server on, with their answers, and the server after them. -/
inductive FuseRun : List Served → FuseServer → Prop
  | new : FuseRun [] .new
  | serve {log : List Served} {server : FuseServer} (request : FuseRequest)
      (before : FuseRun log server) :
      FuseRun (log ++ [(request, (server.serve request).1)]) (server.serve request).2

/-- A handle is returned by an open of a node. -/
def Opens (ino fh : Nat) (served : Served) : Prop :=
  served = (.openFile ino, .opened (.ok fh)) ∨ served = (.opendir ino, .opened (.ok fh))

/-- A handle of a node is released. -/
def Releases (ino fh : Nat) (served : Served) : Prop :=
  served = (.release ino fh, .released (.ok ())) ∨ served = (.releasedir ino fh, .released (.ok ()))

/-- The tree is replaced. -/
def Replaces (served : Served) : Prop :=
  ∃ chances files, served = (.loadFileList chances files, .loaded (.ok ()))

/-- A handle was returned by an open of a node of the current tree and has not been released. -/
def Held (log : List Served) (ino fh : Nat) : Prop :=
  ∃ before opening after, log = before ++ opening :: after ∧ Opens ino fh opening ∧
    ∀ later ∈ after, ¬ Replaces later ∧ ¬ Releases ino fh later

/-- Whether a handle was opened. -/
def isOpening : Served → Bool
  | (_, .opened (.ok _)) => true
  | _ => false

/-- The handles that were ever opened. -/
def opens (log : List Served) : Nat := log.countP isOpening

/-- A handle is in the vector of a node. -/
def FuseServer.Holds (server : FuseServer) (ino fh : Nat) : Prop :=
  ∃ node, server.served.entry? ino = some node ∧ fh ∈ node.fileHandlers

/-- An answer after which the handles are as before. -/
def FuseReply.Quiet : FuseReply → Prop
  | .opened (.ok _) => False
  | .released (.ok _) => False
  | .loaded (.ok _) => False
  | _ => True

/-- What a request does to the handles. -/
inductive Moves (server : FuseServer) : Served → FuseServer → Prop
  | quiet (request : FuseRequest) (reply : FuseReply) (same : reply.Quiet) :
      Moves server (request, reply) server
  | rooted (chance : Chance) (none : server.served.files = []) :
      Moves server (.init chance, .initialized)
        { server with served := { server.served with files := [.newRoot chance] } }
  | opened (request : FuseRequest) (ino : Nat) (entry : TreeNode)
      (there : server.served.entry? ino = some entry)
      (asked : request = .openFile ino ∨ request = .opendir ino) :
      Moves server (request, .opened (.ok server.fileHandleCounter))
        { server.put ino (entry.addHandler server.fileHandleCounter) with
          fileHandleCounter := (server.fileHandleCounter + 1) % 2 ^ 64 }
  | released (request : FuseRequest) (ino fh idx : Nat) (entry : TreeNode)
      (there : server.served.entry? ino = some entry)
      (found : binarySearch entry.fileHandlers fh = .ok idx)
      (asked : request = .release ino fh ∨ request = .releasedir ino fh) :
      Moves server (request, .released (.ok ()))
        (server.put ino { entry with fileHandlers := entry.fileHandlers.eraseIdx idx })
  | replaced (chances : Nat → Chance) (files : List FileDescription) (tree : List TreeNode)
      (generation : Nat) (built : buildTree chances files = .ok tree) :
      Moves server (.loadFileList chances files, .loaded (.ok ()))
        { server with served := ⟨tree, generation⟩ }

section Moves

variable {server : FuseServer}

theorem openKind_moves {request : FuseRequest} {kind : FileType} {other : HandleErrno} {ino : Nat}
    (asked : request = .openFile ino ∨ request = .opendir ino) :
    Moves server (request, .opened (server.openKind kind other ino).1)
      (server.openKind kind other ino).2 := by
  unfold FuseServer.openKind
  cases there : server.served.entry? ino with
  | none => exact .quiet _ _ trivial
  | some entry =>
    dsimp only
    by_cases kinds : entry.attributes.kind ≠ kind
    · rw [if_pos kinds]
      exact .quiet _ _ trivial
    · rw [if_neg kinds]
      exact .opened request ino entry there asked

theorem release_moves (ino fh : Nat) :
    Moves server (.release ino fh, .released (server.release ino fh).1)
      (server.release ino fh).2 := by
  unfold FuseServer.release
  cases there : server.served.entry? ino with
  | none => exact .quiet _ _ trivial
  | some entry =>
    dsimp only
    unfold TreeNode.unregisterHandler
    cases found : binarySearch entry.fileHandlers fh with
    | error place => exact .quiet _ _ trivial
    | ok idx => exact .released _ ino fh idx entry there found (.inl rfl)

theorem releasedir_moves (ino fh : Nat) :
    Moves server (.releasedir ino fh, .released (server.releasedir ino fh).1)
      (server.releasedir ino fh).2 := by
  unfold FuseServer.releasedir
  cases there : server.served.entry? ino with
  | none => exact .quiet _ _ trivial
  | some entry =>
    dsimp only
    by_cases kinds : entry.attributes.kind ≠ .directory
    · rw [if_pos kinds]
      exact .quiet _ _ trivial
    · rw [if_neg kinds]
      unfold TreeNode.haveHandler TreeNode.unregisterHandler
      cases found : binarySearch entry.fileHandlers fh with
      | error place => exact .quiet _ _ trivial
      | ok idx => exact .released _ ino fh idx entry there found (.inr rfl)

theorem loadFileList_moves (chances : Nat → Chance) (files : List FileDescription) :
    Moves server (.loadFileList chances files, .loaded (server.loadFileList chances files).1)
      (server.loadFileList chances files).2 := by
  unfold FuseServer.loadFileList FuseFiles.loadFileList
  cases built : buildTree chances files with
  | error e => exact .quiet _ _ trivial
  | ok tree => exact .replaced chances files tree _ built

/-- Every request is one of the moves. -/
theorem serve_moves (server : FuseServer) (request : FuseRequest) :
    Moves server (request, (server.serve request).1) (server.serve request).2 := by
  cases request with
  | init chance =>
    unfold FuseServer.serve FuseServer.init
    dsimp only
    by_cases none : server.served.files.isEmpty = true
    · rw [if_pos none]
      exact .rooted chance (List.isEmpty_iff.mp none)
    · rw [if_neg none]
      exact .quiet _ _ trivial
  | lookup parent name => exact .quiet _ _ trivial
  | opendir ino => exact openKind_moves (.inr rfl)
  | openFile ino => exact openKind_moves (.inl rfl)
  | release ino fh => exact release_moves ino fh
  | releasedir ino fh => exact releasedir_moves ino fh
  | loadFileList chances files => exact loadFileList_moves chances files

end Moves

section Log

variable {log : List Served} {served : Served} {ino fh : Nat}

/-- After one more request a handle is held if it was just opened, or was held and is not gone. -/
theorem held_append :
    Held (log ++ [served]) ino fh ↔
      Opens ino fh served ∨ Held log ino fh ∧ ¬ Replaces served ∧ ¬ Releases ino fh served := by
  constructor
  · rintro ⟨before, opening, after, split, opened, kept⟩
    rcases List.eq_nil_or_concat after with rfl | ⟨earlier, last, rfl⟩
    · obtain ⟨-, is⟩ := List.append_inj' split rfl
      rw [List.singleton_inj.mp is]
      exact .inl opened
    · rw [List.concat_eq_append] at split kept
      rw [← List.cons_append, ← List.append_assoc] at split
      obtain ⟨is, same⟩ := List.append_inj' split rfl
      rw [List.singleton_inj.mp same]
      refine .inr ⟨⟨before, opening, earlier, is, opened, ?_⟩, kept last (by simp)⟩
      intro later inside
      exact kept later (List.mem_append_left _ inside)
  · rintro (opened | ⟨⟨before, opening, after, rfl, opened, kept⟩, stays⟩)
    · exact ⟨log, served, [], rfl, opened, nofun⟩
    · refine ⟨before, opening, after ++ [served], by simp, opened, ?_⟩
      intro later inside
      rcases List.mem_append.mp inside with old | new
      · exact kept later old
      · rw [List.mem_singleton.mp new]
        exact stays

theorem opens_append : opens (log ++ [served]) = opens log + if isOpening served then 1 else 0 := by
  unfold opens
  rw [List.countP_append, List.countP_singleton]

/-- A request with a quiet answer leaves what is held. -/
theorem held_quiet {request : FuseRequest} {reply : FuseReply} (quiet : reply.Quiet) :
    Held (log ++ [(request, reply)]) ino fh ↔ Held log ino fh := by
  have opensNone : ¬ Opens ino fh (request, reply) := by
    rintro (is | is) <;> obtain ⟨-, rfl⟩ := Prod.mk.inj is <;> exact quiet
  have releasesNone : ¬ Releases ino fh (request, reply) := by
    rintro (is | is) <;> obtain ⟨-, rfl⟩ := Prod.mk.inj is <;> exact quiet
  have replacesNone : ¬ Replaces (request, reply) := by
    rintro ⟨chances, files, is⟩
    obtain ⟨-, rfl⟩ := Prod.mk.inj is
    exact quiet
  rw [held_append]
  exact ⟨fun held => held.elim (absurd · opensNone) And.left,
    fun held => .inr ⟨held, replacesNone, releasesNone⟩⟩

theorem opens_quiet {request : FuseRequest} {reply : FuseReply} (quiet : reply.Quiet) :
    opens (log ++ [(request, reply)]) = opens log := by
  have uncounted : isOpening (request, reply) = false := by
    unfold isOpening
    split
    · rename_i is
      obtain ⟨-, rfl⟩ := Prod.mk.inj is
      exact quiet.elim
    · rfl
  rw [opens_append, uncounted]
  rfl

end Log

section Server

variable {server : FuseServer} {ino other fh : Nat} {old new : TreeNode}

theorem entry_put (there : server.served.entry? ino = some old) :
    (server.put ino new).served.entry? other =
      if other = ino then some new else server.served.entry? other := by
  cases ino with
  | zero => cases there
  | succ index =>
    have inside : index < server.served.files.length := (List.getElem?_eq_some_iff.mp there).1
    cases other with
    | zero => rfl
    | succ place =>
      show (server.served.files.set index new)[place]? = _
      by_cases same : place = index
      · rw [same, if_pos rfl, List.getElem?_set_self inside]
      · rw [if_neg (by omega), List.getElem?_set_ne (Ne.symm same)]
        rfl

/-- After a node was replaced its own handles are those of the new one. -/
theorem holds_put (there : server.served.entry? ino = some old) :
    (server.put ino new).Holds other fh ↔
      if other = ino then fh ∈ new.fileHandlers else server.Holds other fh := by
  unfold FuseServer.Holds
  rw [entry_put there]
  by_cases same : other = ino
  · rw [if_pos same, if_pos same]
    exact ⟨fun ⟨node, is, inside⟩ => Option.some.inj is ▸ inside, fun inside => ⟨new, rfl, inside⟩⟩
  · rw [if_neg same, if_neg same]

theorem holds_own (there : server.served.entry? ino = some old) :
    server.Holds ino fh ↔ fh ∈ old.fileHandlers := by
  unfold FuseServer.Holds
  rw [there]
  exact ⟨fun ⟨node, is, inside⟩ => Option.some.inj is ▸ inside, fun inside => ⟨old, rfl, inside⟩⟩

end Server

/-! ## A new tree has no handles -/

/-- No node has a handle. -/
def Untouched (tree : List TreeNode) : Prop := ∀ node ∈ tree, node.fileHandlers = []

theorem Untouched.addFile {building next : Building} {chance : Chance} {file : FileDescription}
    (untouched : Untouched building.treeList) (added : building.addFile chance file = .ok next) :
    Untouched next.treeList := by
  unfold Building.addFile at added
  dsimp only at added
  cases name : fileName file.name.toList with
  | none =>
    rw [name] at added
    cases added
  | some baseName =>
    rw [name] at added
    obtain rfl := Except.ok.inj added
    intro node inside
    rcases List.mem_append.mp inside with earlier | new
    · obtain ⟨place, there⟩ := List.getElem?_of_mem earlier
      rw [List.getElem?_modify] at there
      obtain ⟨old, was, rfl⟩ := Option.map_eq_some_iff.mp there
      have before := untouched old (List.mem_of_getElem? was)
      split
      · exact before
      · exact before
    · rw [List.mem_singleton.mp new]
      rfl

theorem Untouched.addFiles {chances : Nat → Chance} {building next : Building}
    {files : List FileDescription} (untouched : Untouched building.treeList)
    (added : building.addFiles chances files = .ok next) : Untouched next.treeList := by
  induction files generalizing building with
  | nil =>
    obtain rfl := Except.ok.inj added
    exact untouched
  | cons file files ih =>
    rw [Building.addFiles] at added
    cases first : building.addFile (chances building.treeList.length) file with
    | error e =>
      rw [first] at added
      cases added
    | ok middle =>
      rw [first] at added
      exact ih (untouched.addFile first) added

theorem buildTree_untouched {chances : Nat → Chance} {files : List FileDescription}
    {tree : List TreeNode} (built : buildTree chances files = .ok tree) : Untouched tree := by
  unfold buildTree at built
  cases added : (Building.start (chances 0)).addFiles chances files with
  | error e =>
    rw [added] at built
    cases built
  | ok building =>
    rw [added] at built
    obtain rfl := Except.ok.inj built
    refine Untouched.addFiles ?_ added
    intro node inside
    rw [List.mem_singleton.mp inside]
    rfl

theorem Untouched.holds {server : FuseServer} (untouched : Untouched server.served.files)
    (ino fh : Nat) : ¬ server.Holds ino fh := by
  rintro ⟨node, there, inside⟩
  cases ino with
  | zero => cases there
  | succ index =>
    rw [untouched node (List.mem_of_getElem? there)] at inside
    cases inside

/-! ## The vectors stay sound -/

/-- The counter counts the opens, the vectors are increasing and below it, no handle is in two of
them, and they hold what is held. -/
structure Sound (log : List Served) (server : FuseServer) : Prop where
  counter : server.fileHandleCounter = opens log
  sorted : ∀ ino node, server.served.entry? ino = some node →
    node.fileHandlers.Pairwise (· < ·)
  below : ∀ ino fh, server.Holds ino fh → fh < server.fileHandleCounter
  apart : ∀ i j fh, server.Holds i fh → server.Holds j fh → i = j
  held : ∀ ino fh, Held log ino fh ↔ server.Holds ino fh

section Sound

variable {log : List Served} {server next : FuseServer} {served : Served}

/-- A tree without handles is sound as soon as nothing is held. -/
theorem Sound.untouched (untouched : Untouched server.served.files)
    (counter : server.fileHandleCounter = opens log) (none : ∀ ino fh, ¬ Held log ino fh) :
    Sound log server where
  counter := counter
  sorted := by
    intro ino node there
    cases ino with
    | zero => cases there
    | succ index =>
      rw [untouched node (List.mem_of_getElem? there)]
      exact .nil
  below ino fh holds := absurd holds (untouched.holds ino fh)
  apart i j fh holds := absurd holds (untouched.holds i fh)
  held ino fh := ⟨fun held => absurd held (none ino fh),
    fun holds => absurd holds (untouched.holds ino fh)⟩

theorem Sound.new : Sound [] .new := by
  refine Sound.untouched (fun node inside => absurd inside List.not_mem_nil) rfl ?_
  rintro ino fh ⟨before, opening, after, split, -⟩
  cases before with
  | nil => cases split
  | cons first before => cases split

theorem opens_asked {request : FuseRequest} {ino i fh f : Nat}
    (asked : request = .openFile ino ∨ request = .opendir ino) :
    Opens i f (request, .opened (.ok fh)) ↔ i = ino ∧ f = fh := by
  constructor
  · rintro (is | is)
    · obtain ⟨rfl, reply⟩ := Prod.mk.inj is
      rcases asked with same | same
      · cases same
        cases reply
        exact ⟨rfl, rfl⟩
      · cases same
    · obtain ⟨rfl, reply⟩ := Prod.mk.inj is
      rcases asked with same | same
      · cases same
      · cases same
        cases reply
        exact ⟨rfl, rfl⟩
  · rintro ⟨rfl, rfl⟩
    exact asked.imp (congrArg (·, _)) (congrArg (·, _))

theorem releases_asked {request : FuseRequest} {ino i fh f : Nat}
    (asked : request = .release ino fh ∨ request = .releasedir ino fh) :
    Releases i f (request, .released (.ok ())) ↔ i = ino ∧ f = fh := by
  constructor
  · rintro (is | is)
    · obtain ⟨rfl, -⟩ := Prod.mk.inj is
      rcases asked with same | same
      · cases same
        exact ⟨rfl, rfl⟩
      · cases same
    · obtain ⟨rfl, -⟩ := Prod.mk.inj is
      rcases asked with same | same
      · cases same
      · cases same
        exact ⟨rfl, rfl⟩
  · rintro ⟨rfl, rfl⟩
    exact asked.imp (congrArg (·, _)) (congrArg (·, _))

/-- A new handle is above all others, so it goes to the end of a vector. -/
theorem Sound.opened (sound : Sound log server) {request : FuseRequest} {ino : Nat}
    {entry : TreeNode} (there : server.served.entry? ino = some entry)
    (asked : request = .openFile ino ∨ request = .opendir ino)
    (few : opens (log ++ [(request, .opened (.ok server.fileHandleCounter))]) < 2 ^ 64) :
    Sound (log ++ [(request, .opened (.ok server.fileHandleCounter))])
      { server.put ino (entry.addHandler server.fileHandleCounter) with
        fileHandleCounter := (server.fileHandleCounter + 1) % 2 ^ 64 } := by
  have count : opens (log ++ [(request, .opened (.ok server.fileHandleCounter))]) =
      server.fileHandleCounter + 1 := by
    rw [opens_append, sound.counter]
    rfl
  have whole : (server.fileHandleCounter + 1) % 2 ^ 64 = server.fileHandleCounter + 1 :=
    Nat.mod_eq_of_lt (count ▸ few)
  rw [whole]
  generalize handle : server.fileHandleCounter = fh at *
  have holds : ∀ i f, FuseServer.Holds
      { server.put ino (entry.addHandler fh) with fileHandleCounter := fh + 1 } i f ↔
      i = ino ∧ f = fh ∨ server.Holds i f := by
    intro i f
    refine (holds_put there).trans ?_
    by_cases own : i = ino
    · rw [if_pos own, own, holds_own there]
      unfold TreeNode.addHandler
      rw [List.mem_append, List.mem_singleton, or_comm]
      exact or_congr_left ⟨fun is => ⟨rfl, is⟩, And.right⟩
    · rw [if_neg own]
      exact ⟨.inr, fun held => held.elim (absurd ·.1 own) id⟩
  have below : ∀ i f, server.Holds i f → f < fh := fun i f held => handle ▸ sound.below i f held
  refine ⟨count.symm, ?_, ?_, ?_, ?_⟩
  · intro i node found
    have now : (server.put ino (entry.addHandler fh)).served.entry? i = some node := found
    rw [entry_put there] at now
    by_cases own : i = ino
    · rw [if_pos own] at now
      obtain rfl := Option.some.inj now
      refine List.pairwise_append.mpr ⟨sound.sorted ino entry there, List.pairwise_singleton _ _, ?_⟩
      intro f inside last is
      rw [List.mem_singleton.mp is]
      exact below ino f ((holds_own there).mpr inside)
    · rw [if_neg own] at now
      exact sound.sorted i node now
  · intro i f held
    rcases (holds i f).mp held with ⟨-, rfl⟩ | old
    · exact Nat.lt_succ_self _
    · exact Nat.lt_succ_of_lt (below i f old)
  · intro i j f first second
    rcases (holds i f).mp first with ⟨rfl, rfl⟩ | old
    · rcases (holds j f).mp second with ⟨rfl, -⟩ | other
      · rfl
      · exact absurd (below j f other) (Nat.lt_irrefl _)
    · rcases (holds j f).mp second with ⟨rfl, rfl⟩ | other
      · exact absurd (below i f old) (Nat.lt_irrefl _)
      · exact sound.apart i j f old other
  · intro i f
    rw [held_append, holds i f, sound.held i f, opens_asked asked]
    refine or_congr_right (and_iff_left ⟨?_, ?_⟩)
    · rintro ⟨chances, files, is⟩
      cases is
    · rintro (is | is) <;> cases is

/-- A handle that is released was in the vector of its node, and the others stay. -/
theorem Sound.released (sound : Sound log server) {request : FuseRequest} {ino fh idx : Nat}
    {entry : TreeNode} (there : server.served.entry? ino = some entry)
    (found : binarySearch entry.fileHandlers fh = .ok idx)
    (asked : request = .release ino fh ∨ request = .releasedir ino fh) :
    Sound (log ++ [(request, .released (.ok ()))])
      (server.put ino { entry with fileHandlers := entry.fileHandlers.eraseIdx idx }) := by
  have sorted := sound.sorted ino entry there
  have holds : ∀ i f, (server.put ino
      { entry with fileHandlers := entry.fileHandlers.eraseIdx idx }).Holds i f ↔
      server.Holds i f ∧ ¬ (i = ino ∧ f = fh) := by
    intro i f
    rw [holds_put there]
    by_cases own : i = ino
    · rw [if_pos own, own, holds_own there, mem_taken sorted (binarySearch_holds found)]
      exact and_congr_right fun _ => not_congr ⟨fun is => ⟨rfl, is⟩, And.right⟩
    · rw [if_neg own]
      exact (and_iff_left fun is => own is.1).symm
  refine ⟨?_, ?_, ?_, ?_, ?_⟩
  · rw [opens_append]
    exact sound.counter
  · intro i node now
    rw [entry_put there] at now
    by_cases own : i = ino
    · rw [if_pos own] at now
      obtain rfl := Option.some.inj now
      exact sorted.eraseIdx idx
    · rw [if_neg own] at now
      exact sound.sorted i node now
  · intro i f held
    exact sound.below i f ((holds i f).mp held).1
  · intro i j f first second
    exact sound.apart i j f ((holds i f).mp first).1 ((holds j f).mp second).1
  · intro i f
    rw [held_append, holds i f, sound.held i f, releases_asked asked]
    constructor
    · rintro ((is | is) | ⟨held, -, stays⟩)
      · cases is
      · cases is
      · exact ⟨held, stays⟩
    · rintro ⟨held, stays⟩
      refine .inr ⟨held, ?_, stays⟩
      rintro ⟨chances, files, is⟩
      cases is

/-- What a request does keeps the vectors sound. -/
theorem Sound.step (sound : Sound log server) (moves : Moves server served next)
    (few : opens (log ++ [served]) < 2 ^ 64) : Sound (log ++ [served]) next := by
  cases moves with
  | quiet request reply same =>
    refine ⟨?_, sound.sorted, sound.below, sound.apart, ?_⟩
    · rw [opens_quiet same, sound.counter]
    · intro ino fh
      rw [held_quiet same, sound.held ino fh]
  | rooted chance none =>
    have quiet : FuseReply.initialized.Quiet := trivial
    refine Sound.untouched ?_ ?_ ?_
    · intro node inside
      rw [List.mem_singleton.mp inside]
      rfl
    · rw [opens_quiet quiet]
      exact sound.counter
    · intro ino fh
      rw [held_quiet quiet, sound.held ino fh]
      refine Untouched.holds ?_ ino fh
      rw [none]
      exact fun node inside => absurd inside List.not_mem_nil
  | opened request ino entry there asked => exact sound.opened there asked few
  | released request ino fh idx entry there found asked => exact sound.released there found asked
  | replaced chances files tree generation built =>
    refine Sound.untouched (buildTree_untouched built) ?_ ?_
    · rw [opens_append]
      exact sound.counter
    · intro ino fh
      rw [held_append]
      rintro ((is | is) | ⟨-, stays, -⟩)
      · cases is
      · cases is
      · exact stays ⟨chances, files, rfl⟩

theorem FuseRun.sound (run : FuseRun log server) (few : opens log < 2 ^ 64) : Sound log server := by
  induction run with
  | new => exact Sound.new
  | serve request before ih =>
    have fewer := opens_append ▸ few
    exact (ih (Nat.lt_of_le_of_lt (Nat.le_add_right _ _) fewer)).step (serve_moves _ request) few

end Sound

/-- The vectors of all nodes are increasing and apart, and the search in them finds exactly the
handles that are held. -/
theorem handles_sound {log : List Served} {server : FuseServer} (run : FuseRun log server)
    (few : opens log < 2 ^ 64) :
    (∀ ino node, server.served.entry? ino = some node → node.fileHandlers.Pairwise (· < ·)) ∧
    (∀ i j first second fh, server.served.entry? i = some first →
      server.served.entry? j = some second → fh ∈ first.fileHandlers → fh ∈ second.fileHandlers →
      i = j) ∧
    ∀ ino node fh, server.served.entry? ino = some node →
      (node.haveHandler fh = true ↔ Held log ino fh) := by
  have sound := run.sound few
  refine ⟨sound.sorted, ?_, ?_⟩
  · intro i j first second fh one other inFirst inSecond
    exact sound.apart i j fh ⟨first, one, inFirst⟩ ⟨second, other, inSecond⟩
  · intro ino node fh there
    rw [sound.held ino fh, holds_own there]
    exact binarySearch_mem (sound.sorted ino node there)

/-- A file named `a`. -/
def fileA : FileDescription where
  connId := 0
  name := "a"
  kind := .file
  atime := 0
  lastModified := 0
  lastMetadataChanged := 0
  creationTime := 0
  size := 0
  perm := permRead

/-- The directory is opened, a list comes, and its file is opened twice and released once. -/
theorem fileA_handles :
    ∃ log server, FuseRun log server ∧ ∃ node, server.served.entry? 2 = some node ∧
      node.fileHandlers = [2] ∧ Held log 2 2 ∧ ¬ Held log 2 1 ∧ ¬ Held log 2 0 := by
  have run := FuseRun.new
    |>.serve (.init ⟨0, 0⟩) |>.serve (.opendir 1) |>.serve (.loadFileList (fun _ => ⟨0, 0⟩) [fileA])
    |>.serve (.openFile 2) |>.serve (.openFile 2) |>.serve (.release 2 1)
  have handles := (handles_sound run (by decide +kernel)).2.2
  refine ⟨_, _, run, ?_⟩
  generalize server : (FuseServer.serve _ (.release 2 1)).2 = last at handles ⊢
  have vector : (last.served.entry? 2).map TreeNode.fileHandlers = some [2] := by
    rw [← server]
    decide +kernel
  obtain ⟨node, there, is⟩ := Option.map_eq_some_iff.mp vector
  have known : ∀ fh, node.haveHandler fh = true ↔ fh = 2 := by
    intro fh
    unfold TreeNode.haveHandler
    rw [is, binarySearch_mem (List.pairwise_singleton _ _), List.mem_singleton]
  refine ⟨node, there, is, ?_, ?_, ?_⟩
  · exact (handles 2 node 2 there).mp ((known 2).mpr rfl)
  · exact fun held => absurd ((known 1).mp ((handles 2 node 1 there).mpr held)) (by decide)
  · exact fun held => absurd ((known 0).mp ((handles 2 node 0 there).mpr held)) (by decide)

end ChainRemote.Clipboard
