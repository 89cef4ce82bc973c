import Mathlib.Data.List.Induction
import Mathlib.Logic.Function.Basic
import ChainRemote.Lib.Machine

/-!
# The connection records of the accounts of one PC

The list of recent sessions is read from the records in the folder `peers` of the PC. Where the
account that logs in is not the one that owns the folder, `reset_peers_if_account_changed` puts the
folder aside under a name made from the old owner and takes back the folder put aside for the new
one. Characters that are no letters or digits become underscores in that name, and the new owner is
written down whether the folders were moved or not.
-/

namespace ChainRemote.Hq.PeerStore

open Lib

/-- What `UserInfo` says about an account. -/
structure Account where
  tenantId : String
  email : String
deriving DecidableEq, Repr

/-- The text stored under `chainremote-peers-owner`. -/
def ownerOf (user : Account) : String := user.tenantId ++ "|" ++ user.email

/-- A file of the folder `peers`. -/
structure Peer where
  id : String
  toml : String
deriving DecidableEq, Repr

/-- The files of a directory. -/
abbrev Folder := List Peer

/-- A file is written; one of the same name is replaced. -/
def Folder.write (folder : Folder) (peer : Peer) : Folder :=
  folder.filter (fun other => other.id ≠ peer.id) ++ [peer]

/-- `peer_store_tag`. -/
def peerStoreTag (owner : String) : String :=
  String.ofList (owner.toList.map fun c => if c.isAlphanum then c else '_')

/-- The folder in use and those put aside, by name. -/
inductive Dir
  | live
  | aside (name : String)
deriving DecidableEq, Repr

/-- The directories that are there. -/
abbrev Dirs := Dir → Option Folder

/-- The files of a directory; a directory that is not there has none. -/
def content (dirs : Dirs) (dir : Dir) : Folder := (dirs dir).getD []

/-- What the system does to the operations of one swap. -/
structure Outcome where
  /-- The files that `remove_dir_all` leaves with their directory; none where it succeeds. -/
  left : Option (Peer → Bool) := none
  /-- The folder in use may be renamed. -/
  archives : Bool := true
  /-- The folder put aside may be renamed. -/
  restores : Bool := true
  /-- `create_dir_all` succeeds. -/
  creates : Bool := true

/-- `fs::remove_dir_all`. -/
def removeDirAll (left : Option (Peer → Bool)) (dir : Dir) (dirs : Dirs) : Dirs :=
  Function.update dirs dir (left.bind fun keeps => (dirs dir).map fun folder => folder.filter keeps)

/-- `fs::rename`: the target is absent or an empty directory. -/
def rename (allowed : Bool) (source target : Dir) (dirs : Dirs) : Option Dirs :=
  match dirs source with
  | none => none
  | some folder =>
    if allowed && (dirs target).all List.isEmpty then
      some (Function.update (Function.update dirs source none) target (some folder))
    else none

/-- `fs::create_dir_all`. -/
def createDirAll (allowed : Bool) (dir : Dir) (dirs : Dirs) : Dirs :=
  if allowed && (dirs dir).isNone then Function.update dirs dir (some []) else dirs

section Swap

variable (canon : String → String)

/-- The directory an owner's records are put aside in; `canon` is the name the file system finds
a directory by. -/
def archived (owner : String) : Dir := .aside (canon ("peers-" ++ peerStoreTag owner))

/-- The first part of `swap_peer_store`: the directories, and whether the second part follows. -/
def putAside (io : Outcome) (prev : String) (dirs : Dirs) : Dirs × Bool :=
  let prevDir := archived canon prev
  if (dirs .live).isSome then
    let cleared := if (dirs prevDir).isSome then removeDirAll io.left prevDir dirs else dirs
    match rename io.archives .live prevDir cleared with
    | none => (cleared, false)
    | some moved => (moved, true)
  else (dirs, true)

/-- The second part of `swap_peer_store`. -/
def takeBack (io : Outcome) (next : String) (dirs : Dirs) : Dirs :=
  let nextDir := archived canon next
  if (dirs nextDir).isSome then
    match rename io.restores nextDir .live dirs with
    | none => createDirAll io.creates .live dirs
    | some moved => moved
  else createDirAll io.creates .live dirs

/-- `swap_peer_store`. -/
def swapPeerStore (io : Outcome) (prev next : String) (dirs : Dirs) : Dirs :=
  match putAside canon io prev dirs with
  | (dirs, false) => dirs
  | (dirs, true) => takeBack canon io next dirs

/-- `reset_peers_if_account_changed`: the directories and the stored owner, which is empty where
none is stored. -/
def resetPeersIfAccountChanged (io : Outcome) (user : Account) (dirs : Dirs) (prev : String) :
    Dirs × String :=
  let owner := ownerOf user
  if prev = owner then (dirs, prev)
  else (if prev = "" then dirs else swapPeerStore canon io prev owner dirs, owner)

end Swap

/-- The directories, the stored owner, and what was written by whom. -/
structure State where
  dirs : Dirs
  owner : String
  /-- The account that logged in last. -/
  current : Option Account
  /-- The records in the order they were written; those of before the first login belong to the
  first account. -/
  written : List (Option Account × Peer)

/-- The records that were written under an account. -/
def recordsOf (who : Option Account) (written : List (Option Account × Peer)) : Folder :=
  (written.filter fun entry => entry.1 = who).foldl (fun folder entry => folder.write entry.2) []

/-- What nobody owns becomes the account's. -/
def adopt (user : Account) (written : List (Option Account × Peer)) :
    List (Option Account × Peer) :=
  written.map fun entry => (entry.1.or (some user), entry.2)

/-- What happens on the PC. -/
inductive Event
  | login (user : Account) (io : Outcome)
  /-- A connection is recorded in the folder in use. -/
  | record (peer : Peer)

/-- The state after an event. -/
def next (canon : String → String) (s : State) : Event → State
  | .login user io =>
    let (dirs, owner) := resetPeersIfAccountChanged canon io user s.dirs s.owner
    { dirs, owner, current := some user, written := adopt user s.written }
  | .record peer =>
    { s with
      dirs := Function.update s.dirs .live (some ((content s.dirs .live).write peer))
      written := s.written ++ [(s.current, peer)] }

/-- The PC, from before the first login. -/
def pc (canon : String → String) : Machine State Event where
  start s := s.owner = "" ∧ s.current = none ∧ (∀ entry ∈ s.written, entry.1 = none) ∧
    content s.dirs .live = recordsOf none s.written ∧ ∀ name, s.dirs (.aside name) = none
  step s e := some (next canon s e)

section Contents

variable {canon : String → String} {io : Outcome} {dirs : Dirs}

@[simp] theorem content_update (dirs : Dirs) (dir other : Dir) (folder : Option Folder) :
    content (Function.update dirs dir folder) other =
      if other = dir then folder.getD [] else content dirs other := by
  unfold content
  by_cases same : other = dir
  · rw [if_pos same, same, Function.update_self]
  · rw [if_neg same, Function.update_of_ne same]

theorem content_of_none {dir : Dir} (absent : dirs dir = none) : content dirs dir = [] := by
  unfold content
  rw [absent]
  rfl

/-- Removing an empty directory leaves every file. -/
theorem content_removeDirAll {left : Option (Peer → Bool)} {dir : Dir}
    (empty : content dirs dir = []) (other : Dir) :
    content (removeDirAll left dir dirs) other = content dirs other := by
  unfold removeDirAll
  rw [content_update]
  split
  · rename_i same
    subst same
    rw [empty]
    cases left with
    | none => rfl
    | some keeps =>
      unfold content at empty
      cases there : dirs other with
      | none => rfl
      | some folder =>
        rw [there] at empty
        have bare : folder = [] := empty
        subst bare
        rfl
  · rfl

/-- A directory without files does not stop a rename onto it. -/
theorem all_isEmpty {dir : Dir} (empty : content dirs dir = []) :
    (dirs dir).all List.isEmpty = true := by
  unfold content at empty
  cases there : dirs dir with
  | none => rfl
  | some folder =>
    rw [there] at empty
    have bare : folder = [] := empty
    subst bare
    rfl

/-- Where the target has no files, a rename fails only if the system refuses it. -/
theorem rename_cases (allowed : Bool) {source target : Dir} (there : (dirs source).isSome = true)
    (empty : content dirs target = []) :
    rename allowed source target dirs =
      if allowed then
        some (Function.update (Function.update dirs source none) target (dirs source))
      else none := by
  obtain ⟨folder, found⟩ := Option.isSome_iff_exists.mp there
  unfold rename
  rw [found, all_isEmpty empty, Bool.and_true]

/-- A new directory has no files. -/
theorem content_createDirAll {allowed : Bool} {dir : Dir} (other : Dir) :
    content (createDirAll allowed dir dirs) other = content dirs other := by
  unfold createDirAll
  split
  · rename_i creates
    have absent : dirs dir = none := by simpa using (Bool.and_eq_true_iff.mp creates).2
    rw [content_update]
    split
    · rename_i same
      rw [same, content_of_none absent]
      rfl
    · rfl
  · rfl

/-- The first part of a swap where the old owner has nothing put aside: the files are put aside,
or the system refuses and every file stays. -/
theorem putAside_cases (io : Outcome) {prev : String}
    (empty : content dirs (archived canon prev) = []) :
    (∃ moved, putAside canon io prev dirs = (moved, true) ∧ moved .live = none ∧
      content moved (archived canon prev) = content dirs .live ∧
      ∀ dir, dir ≠ .live → dir ≠ archived canon prev → content moved dir = content dirs dir) ∨
    (∃ stuck, putAside canon io prev dirs = (stuck, false) ∧ io.archives = false ∧
      (dirs .live).isSome = true ∧ ∀ dir, content stuck dir = content dirs dir) := by
  have apart : Dir.live ≠ archived canon prev := nofun
  cases there : (dirs .live).isSome with
  | false =>
    have absent : dirs .live = none := by simpa using there
    refine .inl ⟨dirs, ?_, absent, ?_, fun _ _ _ => rfl⟩
    · simp only [putAside, there, Bool.false_eq_true, if_false]
    · rw [empty, content_of_none absent]
  | true =>
    -- an empty directory of that name is removed first
    obtain ⟨cleared, isCleared, same, liveSame⟩ : ∃ cleared : Dirs,
        (if (dirs (archived canon prev)).isSome then
          removeDirAll io.left (archived canon prev) dirs else dirs) = cleared ∧
        (∀ dir, content cleared dir = content dirs dir) ∧ cleared .live = dirs .live := by
      split
      · exact ⟨_, rfl, content_removeDirAll empty, Function.update_of_ne apart _ _⟩
      · exact ⟨dirs, rfl, fun _ => rfl, rfl⟩
    have clearedThere : (cleared .live).isSome = true := by rw [liveSame, there]
    have clearedEmpty : content cleared (archived canon prev) = [] := (same _).trans empty
    have shape : putAside canon io prev dirs =
        match rename io.archives .live (archived canon prev) cleared with
        | none => (cleared, false)
        | some moved => (moved, true) := by
      simp only [putAside, there, if_true, isCleared]
    rw [shape, rename_cases io.archives clearedThere clearedEmpty]
    cases allowed : io.archives with
    | false => exact .inr ⟨cleared, rfl, rfl, rfl, same⟩
    | true =>
      refine .inl ⟨_, rfl, ?_, ?_, ?_⟩
      · rw [Function.update_of_ne apart, Function.update_self]
      · rw [content_update, if_pos rfl, liveSame]
        rfl
      · intro dir notLive notPrev
        rw [content_update, if_neg notPrev, content_update, if_neg notLive, same]

/-- The second part of a swap with no folder in use: the files put aside for the new owner are back
unless the system refuses, which changes nothing where there are none. -/
theorem takeBack_content (io : Outcome) {owner : String} (absent : dirs .live = none)
    (allowed : io.restores = true ∨ content dirs (archived canon owner) = []) :
    content (takeBack canon io owner dirs) .live = content dirs (archived canon owner) ∧
      content (takeBack canon io owner dirs) (archived canon owner) = [] ∧
      ∀ dir, dir ≠ .live → dir ≠ archived canon owner →
        content (takeBack canon io owner dirs) dir = content dirs dir := by
  have apart : Dir.live ≠ archived canon owner := nofun
  have nothing : content dirs .live = [] := content_of_none absent
  -- where the records are not moved there are none, and a new folder is as good
  have created : content dirs (archived canon owner) = [] →
      takeBack canon io owner dirs = createDirAll io.creates .live dirs →
      content (takeBack canon io owner dirs) .live = content dirs (archived canon owner) ∧
        content (takeBack canon io owner dirs) (archived canon owner) = [] ∧
        ∀ dir, dir ≠ .live → dir ≠ archived canon owner →
          content (takeBack canon io owner dirs) dir = content dirs dir := by
    intro empty shape
    rw [shape, content_createDirAll, content_createDirAll, nothing, empty]
    exact ⟨rfl, rfl, fun dir _ _ => content_createDirAll dir⟩
  cases there : (dirs (archived canon owner)).isSome with
  | false =>
    apply created
    · exact content_of_none (by simpa using there)
    · simp only [takeBack, there, Bool.false_eq_true, if_false]
  | true =>
    have renamed := rename_cases io.restores there nothing
    cases granted : io.restores with
    | false =>
      rw [granted] at renamed
      apply created
      · exact allowed.resolve_left (by rw [granted]; decide)
      · simp only [takeBack, there, if_true, granted, renamed, Bool.false_eq_true, if_false]
    | true =>
      rw [granted] at renamed
      have shape : takeBack canon io owner dirs =
          Function.update (Function.update dirs (archived canon owner) none) .live
            (dirs (archived canon owner)) := by
        simp only [takeBack, there, if_true, granted, renamed]
      rw [shape]
      refine ⟨?_, ?_, ?_⟩
      · rw [content_update, if_pos rfl]
        rfl
      · rw [content_update, if_neg apart.symm, content_update, if_pos rfl]
        rfl
      · intro dir notLive notOwner
        rw [content_update, if_neg notLive, content_update, if_neg notOwner]

/-- A swap exchanges the files of the folder in use with those put aside for the new owner. The
system may refuse where there is nothing to move. -/
theorem swap_content (io : Outcome) {prev owner : String}
    (empty : content dirs (archived canon prev) = [])
    (shared : archived canon prev = archived canon owner → content dirs .live = [])
    (archives : io.archives = true ∨ dirs .live = none ∨
      content dirs .live = [] ∧ content dirs (archived canon owner) = [])
    (restores : io.restores = true ∨ content dirs (archived canon owner) = []) :
    content (swapPeerStore canon io prev owner dirs) .live =
        content dirs (archived canon owner) ∧
      content (swapPeerStore canon io prev owner dirs) (archived canon prev) =
        content dirs .live ∧
      (archived canon owner ≠ archived canon prev →
        content (swapPeerStore canon io prev owner dirs) (archived canon owner) = []) ∧
      ∀ dir, dir ≠ .live → dir ≠ archived canon prev → dir ≠ archived canon owner →
        content (swapPeerStore canon io prev owner dirs) dir = content dirs dir := by
  rcases putAside_cases io empty with
    ⟨moved, shape, noLive, prevMoved, others⟩ | ⟨stuck, shape, refused, there, same⟩
  · have target : content moved (archived canon owner) = content dirs (archived canon owner) := by
      by_cases equal : archived canon owner = archived canon prev
      · rw [equal, prevMoved, shared equal.symm, empty]
      · exact others _ nofun equal
    have back := takeBack_content io noLive (restores.imp_right target.trans)
    have result : swapPeerStore canon io prev owner dirs = takeBack canon io owner moved := by
      simp only [swapPeerStore, shape]
    rw [result]
    refine ⟨back.1.trans target, ?_, fun _ => back.2.1, ?_⟩
    · by_cases equal : archived canon prev = archived canon owner
      · rw [equal, back.2.1, shared equal]
      · rw [back.2.2 (archived canon prev) nofun equal, prevMoved]
    · intro dir notLive notPrev notOwner
      rw [back.2.2 dir notLive notOwner, others dir notLive notPrev]
  · have result : swapPeerStore canon io prev owner dirs = stuck := by
      simp only [swapPeerStore, shape]
    obtain ⟨liveEmpty, ownerEmpty⟩ : content dirs .live = [] ∧
        content dirs (archived canon owner) = [] := by
      rcases archives with granted | absent | both
      · rw [refused] at granted
        cases granted
      · rw [absent] at there
        cases there
      · exact both
    rw [result]
    simp only [same, liveEmpty, ownerEmpty, empty, implies_true, and_self]

end Contents

section Records

variable {who : Option Account} {written : List (Option Account × Peer)}

theorem write_ne_nil (folder : Folder) (peer : Peer) : folder.write peer ≠ [] :=
  List.append_ne_nil_of_right_ne_nil _ (List.cons_ne_nil _ _)

/-- One more record is one more record of its account. -/
theorem recordsOf_append (entry : Option Account × Peer) :
    recordsOf who (written ++ [entry]) =
      if entry.1 = who then (recordsOf who written).write entry.2 else recordsOf who written := by
  unfold recordsOf
  rw [List.filter_append]
  by_cases own : entry.1 = who
  · rw [if_pos own, List.filter_cons_of_pos (by simpa using own), List.filter_nil,
      List.foldl_append]
    rfl
  · rw [if_neg own, List.filter_cons_of_neg (by simpa using own), List.filter_nil, List.append_nil]

/-- An account has no records where none was written under it. -/
theorem recordsOf_eq_nil : recordsOf who written = [] ↔ ∀ entry ∈ written, entry.1 ≠ who := by
  induction written using List.reverseRecOn with
  | nil => exact ⟨fun _ => nofun, fun _ => rfl⟩
  | append_singleton written last ih =>
    rw [recordsOf_append]
    constructor
    · intro empty entry inside
      split at empty
      · exact absurd empty (write_ne_nil _ _)
      · rename_i other
        rcases List.mem_append.mp inside with old | new
        · exact ih.mp empty entry old
        · rw [List.mem_singleton.mp new]
          exact other
    · intro others
      rw [if_neg (others last (List.mem_append_right _ (List.mem_singleton_self _)))]
      exact ih.mpr fun entry old => others entry (List.mem_append_left _ old)

/-- Where every record has an owner, none changes hands. -/
theorem adopt_of_owned {user : Account} (owned : ∀ entry ∈ written, entry.1 ≠ none) :
    adopt user written = written := by
  unfold adopt
  conv_rhs => rw [← List.map_id written]
  apply List.map_congr_left
  intro entry inside
  obtain ⟨account, named⟩ := Option.ne_none_iff_exists'.mp (owned entry inside)
  obtain ⟨owner, peer⟩ := entry
  simp only at named
  subst named
  rfl

/-- The records of before the first login are those of the first account. -/
theorem recordsOf_adopt {user : Account} (unowned : ∀ entry ∈ written, entry.1 = none) :
    recordsOf (some user) (adopt user written) = recordsOf none written := by
  induction written using List.reverseRecOn with
  | nil => rfl
  | append_singleton written last ih =>
    have lastFree := unowned last (List.mem_append_right _ (List.mem_singleton_self _))
    have rest := ih fun entry old => unowned entry (List.mem_append_left _ old)
    have shape : adopt user (written ++ [last]) = adopt user written ++ [(some user, last.2)] := by
      unfold adopt
      rw [List.map_append, List.map_singleton, lastFree]
      rfl
    rw [shape, recordsOf_append, recordsOf_append, if_pos rfl, if_pos lastFree, rest]

theorem adopt_owner {user : Account} (unowned : ∀ entry ∈ written, entry.1 = none) :
    ∀ entry ∈ adopt user written, entry.1 = some user := by
  intro entry inside
  obtain ⟨old, there, rfl⟩ := List.mem_map.mp inside
  rw [unowned old there]
  rfl

theorem ownerOf_ne (user : Account) : ownerOf user ≠ "" := by
  intro empty
  have length := congrArg String.length empty
  simp only [ownerOf, String.length_append] at length
  have bar : "|".length = 1 := rfl
  have none : "".length = 0 := rfl
  omega

end Records

/-- The folder in use has the records of the account that logged in last and no others, and no
record of any account is gone. -/
structure Follows (s : State) : Prop where
  own : content s.dirs .live = recordsOf s.current s.written
  whole : ∀ user, ∀ peer ∈ recordsOf (some user) s.written,
    ∃ dir folder, s.dirs dir = some folder ∧ peer ∈ folder

section Runs

variable (canon : String → String)

/-- The directory an account's records are put aside in. -/
def storeOf (user : Account) : Dir := archived canon (ownerOf user)

/-- No record was written under another account with the account's directory name. -/
def Clear (s : State) (user : Account) : Prop :=
  ∀ entry ∈ s.written, ∀ other ∈ entry.1, storeOf canon other = storeOf canon user → other = user

/-- The login meets no other account's records under its own directory name; and where the folders
are to be exchanged, the one in use can be put aside unless neither account has a record, and the
one put aside can be taken back unless the account has none. -/
def Smooth (s : State) : Event → Prop
  | .login user io =>
    Clear canon s user ∧
    (s.owner ≠ "" ∧ s.owner ≠ ownerOf user →
      ((s.dirs .live).isSome = true → io.archives = true ∨
        recordsOf s.current s.written = [] ∧ recordsOf (some user) s.written = []) ∧
      (io.restores = true ∨ recordsOf (some user) s.written = []))
  | .record _ => True

/-- Each account's records are in the folder in use or in its own directory, and no directory that
is put aside has others. -/
structure Held (s : State) : Prop where
  key : s.owner = (s.current.map ownerOf).getD ""
  live : content s.dirs .live = recordsOf s.current s.written
  aside : ∀ user, s.current ≠ some user → recordsOf (some user) s.written ≠ [] →
    content s.dirs (storeOf canon user) = recordsOf (some user) s.written
  bare : ∀ dir, dir ≠ .live → content s.dirs dir ≠ [] →
    ∃ user, s.current ≠ some user ∧ storeOf canon user = dir ∧
      recordsOf (some user) s.written ≠ []
  apart : ∀ a b, storeOf canon a = storeOf canon b → recordsOf (some a) s.written ≠ [] →
    (recordsOf (some b) s.written ≠ [] ∨ s.current = some b) → a = b
  owned : s.current ≠ none → ∀ entry ∈ s.written, entry.1 ≠ none
  unowned : s.current = none → ∀ entry ∈ s.written, entry.1 = none

variable {canon} {s : State}

theorem Held.start (started : (pc canon).start s) : Held canon s := by
  obtain ⟨noOwner, noAccount, unowned, live, noAside⟩ := started
  have none : ∀ user, recordsOf (some user) s.written = [] := by
    intro user
    refine recordsOf_eq_nil.mpr fun entry inside named => ?_
    rw [unowned entry inside] at named
    cases named
  refine ⟨?_, ?_, fun user _ some => absurd (none user) some, ?_, fun a _ _ some _ =>
    absurd (none a) some, fun some => absurd noAccount some, fun _ => unowned⟩
  · rw [noOwner, noAccount]
    rfl
  · rw [noAccount]
    exact live
  · intro dir notLive some
    cases dir with
    | live => exact absurd rfl notLive
    | aside name => exact absurd (content_of_none (noAside name)) some

theorem Held.record (held : Held canon s) (peer : Peer) :
    Held canon (next canon s (.record peer)) := by
  have same : ∀ who, s.current ≠ who → recordsOf who (s.written ++ [(s.current, peer)]) =
      recordsOf who s.written := fun who other => (recordsOf_append _).trans (if_neg other)
  have some_of_new : ∀ user, recordsOf (some user) (s.written ++ [(s.current, peer)]) ≠ [] →
      recordsOf (some user) s.written ≠ [] ∨ s.current = some user := by
    intro user nonempty
    by_cases mine : s.current = some user
    · exact .inr mine
    · exact .inl (same _ mine ▸ nonempty)
  have kept : ∀ dir, dir ≠ .live →
      content (next canon s (.record peer)).dirs dir = content s.dirs dir := by
    intro dir notLive
    exact (content_update _ _ _ _).trans (if_neg notLive)
  refine ⟨held.key, ?_, ?_, ?_, ?_, ?_, ?_⟩
  · show content (Function.update _ _ _) _ = recordsOf s.current (s.written ++ [(s.current, peer)])
    rw [content_update, if_pos rfl, recordsOf_append, if_pos rfl, ← held.live]
    rfl
  · intro user other nonempty
    show content _ _ = recordsOf (some user) (s.written ++ [(s.current, peer)])
    rw [kept (storeOf canon user) nofun, same _ other]
    exact held.aside user other (same _ other ▸ nonempty)
  · intro dir notLive nonempty
    rw [kept dir notLive] at nonempty
    obtain ⟨user, other, stored, some⟩ := held.bare dir notLive nonempty
    exact ⟨user, other, stored, (same _ other).symm ▸ some⟩
  · intro a b shared first second
    have second : recordsOf (some b) s.written ≠ [] ∨ s.current = some b :=
      second.elim (some_of_new b) .inr
    rcases some_of_new a first with old | mine
    · exact held.apart a b shared old second
    · rcases second with old | also
      · exact (held.apart b a shared.symm old (.inr mine)).symm
      · exact Option.some.inj (mine.symm.trans also)
  · intro someone entry inside
    rcases List.mem_append.mp inside with old | new
    · exact held.owned someone entry old
    · rw [List.mem_singleton.mp new]
      exact someone
  · intro nobody entry inside
    rcases List.mem_append.mp inside with old | new
    · exact held.unowned nobody entry old
    · rw [List.mem_singleton.mp new]
      exact nobody

/-- The state after a login that finds an owner: the records are held as before if the files are
in their places. -/
theorem Held.handOver {dirs : Dirs} {user : Account} (held : Held canon s)
    (someone : s.current ≠ none)
    (clear : Clear canon s user)
    (live : content dirs .live = recordsOf (some user) s.written)
    (aside : ∀ other, other ≠ user → recordsOf (some other) s.written ≠ [] →
      content dirs (storeOf canon other) = recordsOf (some other) s.written)
    (bare : ∀ dir, dir ≠ .live → content dirs dir ≠ [] →
      ∃ other, other ≠ user ∧ storeOf canon other = dir ∧
        recordsOf (some other) s.written ≠ []) :
    Held canon
      { dirs, owner := ownerOf user, current := some user, written := adopt user s.written } := by
  have owned := held.owned someone
  rw [adopt_of_owned owned]
  refine ⟨rfl, live, ?_, ?_, ?_, fun _ => owned, nofun⟩
  · intro other differs some
    exact aside other (fun same => differs (congrArg Option.some same.symm)) some
  · intro dir notLive some
    obtain ⟨other, differs, stored, records⟩ := bare dir notLive some
    exact ⟨other, fun same => differs (Option.some.inj same).symm, stored, records⟩
  · intro a b shared first second
    rcases second with records | same
    · exact held.apart a b shared first (.inl records)
    · obtain rfl : user = b := Option.some.inj same
      by_contra differs
      apply first
      refine recordsOf_eq_nil.mpr fun entry inside named => differs ?_
      exact clear entry inside a named shared

/-- Another account whose directory name is the account's own has no records. -/
theorem recordsOf_of_clear {user other : Account}
    (clear : Clear canon s user)
    (shared : storeOf canon other = storeOf canon user) (differs : other ≠ user) :
    recordsOf (some other) s.written = [] :=
  recordsOf_eq_nil.mpr fun entry inside named => differs (clear entry inside other named shared)

theorem Held.firstLogin (held : Held canon s) (nobody : s.current = none) (user : Account)
    (io : Outcome) : Held canon (next canon s (.login user io)) := by
  have noOwner : s.owner = "" := by
    rw [held.key, nobody]
    rfl
  have unowned := held.unowned nobody
  have shape : next canon s (.login user io) =
      { dirs := s.dirs, owner := ownerOf user, current := some user,
        written := adopt user s.written } := by
    simp only [next, resetPeersIfAccountChanged, noOwner, if_neg (ownerOf_ne user).symm, if_true]
  have others : ∀ other, recordsOf (some other) (adopt user s.written) ≠ [] → other = user := by
    intro other some
    by_contra differs
    apply some
    refine recordsOf_eq_nil.mpr fun entry inside named => differs ?_
    exact Option.some.inj (named.symm.trans (adopt_owner unowned entry inside))
  rw [shape]
  refine ⟨rfl, ?_, ?_, ?_, ?_, ?_, nofun⟩
  · show content s.dirs .live = recordsOf (some user) (adopt user s.written)
    rw [recordsOf_adopt unowned, held.live, nobody]
  · intro other differs some
    exact absurd (congrArg Option.some (others other some).symm) differs
  · intro dir notLive some
    obtain ⟨other, _, _, records⟩ := held.bare dir notLive some
    refine absurd (recordsOf_eq_nil.mpr fun entry inside named => ?_) records
    rw [unowned entry inside] at named
    cases named
  · intro a b _ first second
    rcases second with records | same
    · rw [others a first, others b records]
    · rw [others a first, Option.some.inj same]
  · intro _ entry inside absent
    rw [adopt_owner unowned entry inside] at absent
    cases absent

/-- A login under the stored owner moves nothing. -/
theorem Held.relogin (held : Held canon s) {user owner : Account} {io : Outcome}
    (was : s.current = some owner) (same : ownerOf owner = ownerOf user)
    (clear : Clear canon s user) : Held canon (next canon s (.login user io)) := by
  have someone : s.current ≠ none := by rw [was]; exact nofun
  have key : s.owner = ownerOf user := by
    rw [held.key, was]
    exact same
  have stored : storeOf canon owner = storeOf canon user := congrArg (archived canon) same
  have shape : next canon s (.login user io) =
      { dirs := s.dirs, owner := ownerOf user, current := some user,
        written := adopt user s.written } := by
    simp only [next, resetPeersIfAccountChanged, key, if_true]
  rw [shape]
  by_cases one : owner = user
  · subst one
    apply held.handOver someone clear
    · rw [held.live, was]
    · intro other differs some
      apply held.aside other _ some
      rw [was]
      exact fun equal => differs (Option.some.inj equal).symm
    · intro dir notLive some
      obtain ⟨other, differs, there, records⟩ := held.bare dir notLive some
      rw [was] at differs
      exact ⟨other, fun equal => differs (congrArg Option.some equal.symm), there, records⟩
  · -- two accounts under one owner text: neither has records
    have ownerNone : recordsOf (some owner) s.written = [] := recordsOf_of_clear clear stored one
    have userNone : recordsOf (some user) s.written = [] := by
      by_contra records
      exact one (held.apart user owner stored.symm records (.inr was)).symm
    apply held.handOver someone clear
    · rw [held.live, was, ownerNone, userNone]
    · intro other _ some
      apply held.aside other _ some
      rw [was]
      rintro equal
      rw [← Option.some.inj equal] at some
      exact some ownerNone
    · intro dir notLive some
      obtain ⟨other, _, there, records⟩ := held.bare dir notLive some
      exact ⟨other, fun equal => records (equal ▸ userNone), there, records⟩

/-- A login under another owner exchanges the folders. -/
theorem Held.switch (held : Held canon s) {user owner : Account} {io : Outcome}
    (was : s.current = some owner) (differ : ownerOf owner ≠ ownerOf user)
    (clear : Clear canon s user)
    (archives : (s.dirs .live).isSome = true → io.archives = true ∨
      recordsOf s.current s.written = [] ∧ recordsOf (some user) s.written = [])
    (restores : io.restores = true ∨ recordsOf (some user) s.written = []) :
    Held canon (next canon s (.login user io)) := by
  have someone : s.current ≠ none := by rw [was]; exact nofun
  have apart : owner ≠ user := fun equal => differ (congrArg ownerOf equal)
  have key : s.owner = ownerOf owner := by
    rw [held.key, was]
    rfl
  have shape : next canon s (.login user io) =
      { dirs := swapPeerStore canon io (ownerOf owner) (ownerOf user) s.dirs,
        owner := ownerOf user, current := some user, written := adopt user s.written } := by
    simp only [next, resetPeersIfAccountChanged, key, if_neg differ, if_neg (ownerOf_ne owner)]
  have liveIs : content s.dirs .live = recordsOf (some owner) s.written := by rw [held.live, was]
  have notCurrent : ∀ {other}, other ≠ owner → s.current ≠ some other := by
    intro other differs
    rw [was]
    exact fun equal => differs (Option.some.inj equal).symm
  -- the old owner has nothing put aside, and what the new one has is its own
  have prevEmpty : content s.dirs (storeOf canon owner) = [] := by
    by_contra some
    obtain ⟨other, differs, there, records⟩ := held.bare (storeOf canon owner) nofun some
    rw [held.apart other owner there records (.inr was)] at differs
    exact differs was
  have nextIs : content s.dirs (storeOf canon user) = recordsOf (some user) s.written := by
    by_cases none : recordsOf (some user) s.written = []
    · rw [none]
      by_contra some
      obtain ⟨other, _, there, records⟩ := held.bare (storeOf canon user) nofun some
      apply records
      by_cases equal : other = user
      · rw [equal, none]
      · exact recordsOf_of_clear clear there equal
    · exact held.aside user (notCurrent apart.symm) none
  have mayArchive : io.archives = true ∨ s.dirs .live = none ∨
      content s.dirs .live = [] ∧ content s.dirs (storeOf canon user) = [] := by
    cases there : s.dirs .live with
    | none => exact .inr (.inl rfl)
    | some folder =>
      rcases archives (by rw [there]; rfl) with granted | ⟨ownerNone, userNone⟩
      · exact .inl granted
      · exact .inr (.inr ⟨held.live.trans ownerNone, nextIs.trans userNone⟩)
  obtain ⟨live, prev, cleared, rest⟩ := swap_content io prevEmpty
    (fun shared => liveIs.trans (recordsOf_of_clear clear shared apart)) mayArchive
    (restores.imp_right nextIs.trans)
  rw [shape]
  apply held.handOver someone clear
  · exact live.trans nextIs
  · intro other differs records
    by_cases old : other = owner
    · rw [old]
      exact prev.trans liveIs
    · have notPrev : storeOf canon other ≠ storeOf canon owner := fun shared =>
        old (held.apart other owner shared records (.inr was))
      have notNext : storeOf canon other ≠ storeOf canon user := fun shared =>
        records (recordsOf_of_clear clear shared differs)
      exact (rest (storeOf canon other) nofun notPrev notNext).trans
        (held.aside other (notCurrent old) records)
  · intro dir notLive some
    by_cases atPrev : dir = storeOf canon owner
    · have moved : content _ dir = _ := (congrArg _ atPrev).trans (prev.trans liveIs)
      exact ⟨owner, apart, atPrev.symm, moved ▸ some⟩
    · by_cases atNext : dir = storeOf canon user
      · subst atNext
        exact absurd (cleared atPrev) some
      · have same := rest dir notLive atPrev atNext
        obtain ⟨other, _, there, records⟩ := held.bare dir notLive (same ▸ some)
        exact ⟨other, fun equal => atNext (equal ▸ there.symm), there, records⟩

theorem Held.login (held : Held canon s) {user : Account} {io : Outcome}
    (smooth : Smooth canon s (.login user io)) : Held canon (next canon s (.login user io)) := by
  obtain ⟨clear, moves⟩ := smooth
  cases was : s.current with
  | none => exact held.firstLogin was user io
  | some owner =>
    by_cases same : ownerOf owner = ownerOf user
    · exact held.relogin was same clear
    · have key : s.owner = ownerOf owner := by
        rw [held.key, was]
        rfl
      rw [key] at moves
      obtain ⟨archives, restores⟩ := moves ⟨ownerOf_ne owner, same⟩
      exact held.switch was same clear archives restores

theorem exists_of_content {dirs : Dirs} {dir : Dir} {peer : Peer}
    (inside : peer ∈ content dirs dir) : ∃ folder, dirs dir = some folder ∧ peer ∈ folder := by
  cases there : dirs dir with
  | none =>
    rw [content_of_none there] at inside
    cases inside
  | some folder =>
    refine ⟨folder, rfl, ?_⟩
    unfold content at inside
    rw [there] at inside
    exact inside

theorem Held.follows (held : Held canon s) : Follows s := by
  refine ⟨held.live, ?_⟩
  intro user peer inside
  by_cases current : s.current = some user
  · rw [← current, ← held.live] at inside
    exact ⟨.live, exists_of_content inside⟩
  · have records := List.ne_nil_of_mem inside
    rw [← held.aside user current records] at inside
    exact ⟨storeOf canon user, exists_of_content inside⟩

end Runs

/-- In every run whose logins meet no other account's records under their own directory name and
whose renames succeed where there is something to move, the folder in use has exactly the records
of the account that logged in last, and no record of any account is gone. -/
theorem records_follow (canon : String → String) (s : State)
    (reached : (pc canon).Reaches (Smooth canon) s) : Follows s := by
  have held : Held canon s := by
    apply reached.invariant (Held canon)
    · exact fun s started => Held.start started
    · intro s e t held smooth stepped
      obtain rfl := Option.some.inj stepped
      cases e with
      | login user io => exact held.login smooth
      | record peer => exact held.record peer
  exact held.follows

instance (canon : String → String) (s : State) (user : Account) :
    Decidable (Clear canon s user) :=
  inferInstanceAs (Decidable (∀ entry ∈ s.written, ∀ other ∈ entry.1, _ → _))

instance (canon : String → String) (s : State) (e : Event) : Decidable (Smooth canon s e) :=
  match e with
  | .login _ _ => inferInstanceAs (Decidable (_ ∧ (_ → _)))
  | .record _ => isTrue trivial

/-- A PC before the first login. -/
def unused : State where
  dirs := fun _ => none
  owner := ""
  current := none
  written := []

theorem unused_start (canon : String → String) : (pc canon).start unused :=
  ⟨rfl, rfl, List.forall_mem_nil _, rfl, fun _ => rfl⟩

/-- The first account connects somewhere, another one logs in and connects elsewhere, and the first
one comes back. -/
def takingTurns : List Event :=
  let first : Account := ⟨"7b1e", "kim@store.kr"⟩
  let second : Account := ⟨"9c2f", "lee@store.kr"⟩
  [.login first {}, .record ⟨"100", "first"⟩, .login second {}, .record ⟨"200", "second"⟩,
    .login first {}]

theorem turns_follow :
    content ((pc id).play (Smooth id) unused takingTurns).dirs .live = [⟨"100", "first"⟩] ∧
      Follows ((pc id).play (Smooth id) unused takingTurns) := by
  refine ⟨by decide +kernel, ?_⟩
  exact records_follow id _ ⟨unused, unused_start id, Machine.runs_play _ _ _ _⟩

/-- Two accounts of one company whose addresses differ in a character that becomes an underscore. -/
def lookalikes : List Event :=
  [.login ⟨"7b1e", "kim.lee@store.kr"⟩ {}, .record ⟨"100", "first"⟩,
    .login ⟨"7b1e", "kim_lee@store.kr"⟩ {}]

theorem records_stray : ∃ s, (pc id).Reaches Machine.free s ∧
    s.current = some ⟨"7b1e", "kim_lee@store.kr"⟩ ∧ recordsOf s.current s.written = [] ∧
      content s.dirs .live = recordsOf (some ⟨"7b1e", "kim.lee@store.kr"⟩) s.written ∧
      ¬ Follows s := by
  have run := (pc id).runs_play Machine.free unused lookalikes
  refine ⟨_, ⟨unused, unused_start id, run⟩, by decide +kernel, by decide +kernel,
    by decide +kernel, ?_⟩
  intro follows
  have own := follows.own
  revert own
  decide +kernel

end ChainRemote.Hq.PeerStore
