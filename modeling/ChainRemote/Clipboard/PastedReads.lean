import ChainRemote.Clipboard.ClipMessages
import ChainRemote.Clipboard.FileReads
import ChainRemote.Clipboard.FuseHandles
import ChainRemote.Clipboard.FuseRead

/-!
# Pasted files from one side to the other

The list of the files that one side has copied makes the tree that the other side mounts. A read of
a file of this tree is a request for a place of the list; the side that copied serves it from its
disk, and the reply goes to the read that waits. So what a program reads from a mounted file are the
bytes of the file that was copied under its name.
-/

namespace ChainRemote.Clipboard.PastedReads

open Lib

/-- What `read` uses of a node of the tree. -/
def readNode (node : TreeNode) : FuseNode := ⟨node.connId, node.streamId, node.index⟩

def readEntry (node : TreeNode) : FuseRead.Entry where
  node := readNode node
  isFile := node.attributes.kind = .file
  fileHandlers := node.fileHandlers
  marked := node.marked

/-- The mounted tree, the reads of it, and the side that copied. -/
structure State where
  fuse : FuseServer
  client : FuseRead.State
  server : FileReads.State

/-- The reads, over the nodes of the tree. -/
def State.reading (s : State) : FuseRead.State :=
  { s.client with files := s.fuse.served.files.map readEntry }

/-- What the side that copied does while it serves a request. -/
structure Env where
  connId : Int32
  metadata : String → Option UInt64
  disk : Disk
  opens : Bool := true
  seeks : Bool := true
  fails : Option Nat := none
  opensNext : Bool := true

/-- A request for a range, with what happens while it is served. -/
def Env.event (env : Env) (sent : ContentsRequest) : FileReads.Event where
  connId := env.connId
  streamId := sent.streamId
  fileIdx := asU64 sent.listIndex
  offset := asU64 sent.nPositionHigh <<< 32 ||| asU64 sent.nPositionLow
  length := asU64 sent.cbRequested
  opens := env.opens
  seeks := env.seeks
  fails := env.fails
  opensNext := env.opensNext

/-- What can happen. The calls of the mounted tree wait for the lock that a read holds. -/
inductive Event
  | openFile (ino : Nat)
  | release (ino fh : Nat)
  | read (ino fh : Nat) (offset : Int64) (size : UInt32) (sent : Bool)
  /-- The waiting read takes a reply; a request that it repeats is sent or not. -/
  | receive (sent : Bool)
  | timeout
  /-- A request comes to the other side and is served. -/
  | serve (index : Nat) (env : Env)

section Machine

variable (contents : Nat → Bytes)

/-- The bytes that a request is for. -/
def bytes (sent : ContentsRequest) : Bytes :=
  match sent.decode with
  | .ok (.range _ fileIdx offset length) =>
    ((contents fileIdx.toNat).drop offset.toNat).take length.toNat
  | _ => []

/-- `serve_clip_messages` for a request on the side that copied. -/
def State.serve (s : State) (sent : ContentsRequest) (env : Env) : List Message × FileReads.State :=
  let e := env.event sent
  let (messages, clip) := serveClipMessages env.metadata env.disk (s.server.io contents e)
    env.connId s.server.clip (.fileContentsRequest sent)
  (messages, { clip, position := s.server.placed contents e })

/-- `handle_file_content_response`, with the request that is answered. -/
def handleFileContentResponse (sent : ContentsRequest) : Clip → Option FuseRead.Reply
  | .fileContentsResponse msgFlags streamId requestedData =>
    some (.contents msgFlags streamId requestedData sent)
  | _ => none

/-- The replies that messages bring to the channel of the reads. -/
def replies (sent : ContentsRequest) (messages : List Message) : List FuseRead.Reply :=
  (messages.filterMap Message.arrives).filterMap (handleFileContentResponse sent)

/-- A call of the mounted tree; it waits while a read does. -/
def State.call (s : State) (fuse : FuseServer) : Option State :=
  match s.client.waiting with
  | some _ => none
  | none => some { s with fuse }

/-- A step of the reads. -/
def State.reads (s : State) (e : FuseRead.Event) : Option State :=
  (FuseRead.step (bytes contents) s.reading e).map fun client => { s with client }

def step (s : State) : Event → Option State
  | .openFile ino => s.call (s.fuse.openFile ino).2
  | .release ino fh => s.call (s.fuse.release ino fh).2
  | .read ino fh offset size sent => s.reads contents (.read ino fh offset size sent)
  | .receive sent => s.reads contents (.receive sent)
  | .timeout => s.reads contents .timeout
  | .serve index env =>
    match s.client.unanswered[index]? with
    | none => none
    | some sent =>
      let (messages, server) := s.serve contents sent env
      some { s with
        client := { s.client with
          unanswered := s.client.unanswered.eraseIdx index
          channel := s.client.channel ++ replies sent messages }
        server }

/-- One side has copied these files, and the other has just mounted the list it got of them. -/
structure Start (files : List LocalFile) (s : State) : Prop where
  copied : (FileReads.requests contents).start s.server
  listed : s.server.clip.fileList = files
  written : buildFileListPdu files = some s.server.clip.filesPdu
  few : files.length < 2147483648
  mounted : ∃ metadata disk io connId formatData descs chances before,
    exchanged metadata disk io connId s.server.clip getFormatList =
      [.formatDataResponse 1 formatData] ∧
    parseFileDescriptors formatData connId = .ok descs ∧
    FuseServer.loadFileList before chances descs = (.ok (), s.fuse)
  idle : s.client = { files := [] }

/-- The two sides after such a paste. -/
def pasting (files : List LocalFile) : Machine State Event where
  start := Start contents files
  step := step contents

end Machine

/-- An offset and a size that arrive as they are sent. -/
structure Modest (offset : Int64) (size : UInt32) : Prop where
  positive : 0 ≤ offset.toInt
  low : offset.toInt % 4294967296 < 2147483648
  short : size.toNat < 2147483648

/-- Reads are for ranges that arrive, each begins when no answer for another range of its file is on
the way, and the disk reads what it is asked for. -/
def Careful (s : State) : Event → Prop
  | .read ino fh offset size sent =>
    Modest offset size ∧ FuseRead.Settled s.reading (.read ino fh offset size sent)
  | .serve _ env => env.fails = none
  | _ => True

/-- A read returned the bytes of the file that its node stands for. -/
def Right (contents : Nat → Bytes) (files : List LocalFile) (s : State)
    (read : FuseRead.Returned) : Prop :=
  ∃ index file entry, files[index]? = some file ∧ file.isDir = false ∧
    s.fuse.served.files[index + 1]? = some entry ∧ read.node = readNode entry ∧
    fileName (blockName file.relativePath.toList).toList = some entry.name.toList ∧
    read.data = ((contents index).drop read.offset.toInt.toNat).take read.size.toNat

/-! ## The tree -/

/-- A node without its handles. -/
def bare (node : TreeNode) : TreeNode := { node with fileHandlers := [] }

/-- Two trees that differ in handles alone. -/
def SameTree (before after : List TreeNode) : Prop := before.map bare = after.map bare

/-- Reads use nothing of the handles of a node. -/
theorem readNode_eq {old new : TreeNode} (same : bare old = bare new) :
    readNode old = readNode new := by
  have nodes := congrArg readNode same
  exact nodes

section Tree

variable {before after : List TreeNode} {server : FuseServer}

/-- A node of one tree stands in the other. -/
theorem SameTree.find (same : SameTree before after) {index : Nat} {node : TreeNode}
    (found : after[index]? = some node) :
    ∃ old, before[index]? = some old ∧ bare old = bare node := by
  have mapped : (after.map bare)[index]? = some (bare node) := by
    rw [List.getElem?_map, found]
    rfl
  rw [← same, List.getElem?_map] at mapped
  exact Option.map_eq_some_iff.mp mapped

/-- The entry of an inode with other handles. -/
theorem SameTree.put {ino : Nat} {node new : TreeNode}
    (there : server.served.entry? ino = some node) (handles : bare new = bare node) :
    SameTree server.served.files (server.put ino new).served.files := by
  have place : server.served.files[ino - 1]? = some node := by
    unfold FuseFiles.entry? at there
    split at there
    · cases there
    · exact there
  have inside := (List.getElem?_eq_some_iff.mp place).1
  unfold SameTree FuseServer.put
  dsimp only
  rw [List.map_set, handles]
  apply List.ext_getElem?
  intro i
  rw [List.getElem?_set]
  split
  · rename_i own
    subst own
    rw [List.length_map, if_pos inside, List.getElem?_map, place]
    rfl
  · rfl

theorem SameTree.moves {request : FuseRequest} {reply : FuseReply} {next : FuseServer}
    (moves : Moves server (request, reply) next)
    (asked : (∃ ino, request = .openFile ino) ∨ ∃ ino fh, request = .release ino fh) :
    SameTree server.served.files next.served.files := by
  cases moves with
  | quiet => rfl
  | rooted chance none => rcases asked with ⟨_, other⟩ | ⟨_, _, other⟩ <;> cases other
  | opened _ ino entry there => exact SameTree.put there rfl
  | released _ ino fh idx entry there => exact SameTree.put there rfl
  | replaced chances files tree generation built =>
    rcases asked with ⟨_, other⟩ | ⟨_, _, other⟩ <;> cases other

end Tree

/-! ## What is asked for -/

/-- A read of a file of a tree, for a range that arrives. -/
structure Asked (tree : List TreeNode) (node : FuseNode) (offset : Int64) (size : UInt32) :
    Prop where
  placed : ∃ place entry, tree[place + 1]? = some entry ∧ entry.attributes.kind = .file ∧
    node = readNode entry
  modest : Modest offset size

/-- Everything that is on its way or done was asked for. -/
structure Asks (asked : FuseNode → Int64 → UInt32 → Prop) (s : FuseRead.State) : Prop where
  waiting : ∀ waiting ∈ s.waiting, asked waiting.node waiting.offset waiting.size
  unanswered : ∀ sent ∈ s.unanswered, ∃ node offset size, asked node offset size ∧
    sent = FuseNode.request node offset size
  returned : ∀ read ∈ s.returned, asked read.node read.offset read.size

section Asks

variable {asked : FuseNode → Int64 → UInt32 → Prop} {f : ContentsRequest → Bytes}
  {s t : FuseRead.State}

/-- One more request for something that is asked for. -/
theorem Asks.send (asks : Asks asked s) {node : FuseNode} {offset : Int64} {size : UInt32}
    (wanted : asked node offset size) :
    ∀ sent ∈ s.unanswered ++ [node.request offset size], ∃ node offset size,
      asked node offset size ∧ sent = FuseNode.request node offset size := by
  intro sent listed
  rcases List.mem_append.mp listed with old | new
  · exact asks.unanswered sent old
  · exact ⟨node, offset, size, wanted, List.mem_singleton.mp new⟩

theorem Asks.read (asks : Asks asked s) {ino fh : Nat} {offset : Int64} {size : UInt32}
    {sent : Bool} (wanted : ∀ node ∈ FuseRead.readable s.files ino fh, asked node offset size)
    (stepped : FuseRead.step f s (.read ino fh offset size sent) = some t) : Asks asked t := by
  simp only [FuseRead.step] at stepped
  split at stepped
  · cases stepped
  · split at stepped
    · rename_i node found
      split at stepped
      · obtain rfl := Option.some.inj stepped
        refine ⟨?_, asks.send (wanted node found), asks.returned⟩
        intro waiting is
        obtain rfl := Option.some.inj is
        exact wanted node found
      · obtain rfl := Option.some.inj stepped
        exact asks
    · obtain rfl := Option.some.inj stepped
      exact asks

theorem Asks.receive (asks : Asks asked s) {sent : Bool}
    (stepped : FuseRead.step f s (.receive sent) = some t) : Asks asked t := by
  simp only [FuseRead.step] at stepped
  split at stepped
  · rename_i waiting reply channel waits shape
    obtain rfl := Option.some.inj stepped
    have wanted := asks.waiting waiting waits
    unfold FuseRead.receive
    split
    · exact ⟨fun _ is => absurd is (Option.some_ne_none _).symm, asks.unanswered, asks.returned⟩
    · split
      · exact ⟨asks.waiting, asks.unanswered, asks.returned⟩
      · split
        · refine ⟨fun _ is => absurd is (Option.some_ne_none _).symm, asks.unanswered, ?_⟩
          intro read listed
          rcases List.mem_append.mp listed with old | new
          · exact asks.returned read old
          · obtain rfl := List.mem_singleton.mp new
            exact wanted
        · simp only
          split
          · exact ⟨fun _ is => absurd is (Option.some_ne_none _).symm, asks.unanswered,
              asks.returned⟩
          · refine ⟨?_, asks.send wanted, asks.returned⟩
            intro again is
            obtain rfl := Option.some.inj is
            exact wanted
  · cases stepped

theorem Asks.timeout (asks : Asks asked s) (stepped : FuseRead.step f s .timeout = some t) :
    Asks asked t := by
  simp only [FuseRead.step] at stepped
  split at stepped
  · obtain rfl := Option.some.inj stepped
    exact ⟨fun _ is => absurd is (Option.some_ne_none _).symm, asks.unanswered, asks.returned⟩
  · cases stepped

end Asks

/-! ## The side that copied -/

section Serve

variable {contents : Nat → Bytes} {s : State} {node : FuseNode} {offset : Int64} {size : UInt32}
  {env : Env}

/-- A request for such a range arrives as it was made. -/
theorem Modest.event (modest : Modest offset size) (node : FuseNode) (env : Env) :
    (env.event (node.request offset size)).offset = offset.toUInt64 ∧
      (env.event (node.request offset size)).length = size.toUInt64 := by
  constructor
  · exact (toNat_joined node offset size modest.positive).mpr modest.low
  · exact (asU64_cbRequested node offset size).mpr modest.short

theorem Modest.toNat_offset (modest : Modest offset size) :
    offset.toUInt64.toNat = offset.toInt.toNat ∧ offset.toUInt64.toNat < 9223372036854775808 := by
  have whole : (offset.toUInt64.toNat : Int) = offset.toInt :=
    toNat_toBitVec_of_nonneg modest.positive
  have bound : offset.toInt < 9223372036854775808 := offset.toInt_lt
  omega

theorem Modest.noOverflow (modest : Modest offset size) (node : FuseNode) (env : Env)
    (server : FileReads.State) :
    FileReads.NoOverflow server (env.event (node.request offset size)) := by
  obtain ⟨start, long⟩ := modest.event node env
  obtain ⟨-, bound⟩ := modest.toNat_offset
  have short := modest.short
  unfold FileReads.NoOverflow
  rw [start, long, UInt32.toNat_toUInt64]
  omega

/-- A request whose serving ends the process asks for more than a `Vec` holds. -/
theorem serve_aborted {server : FileReads.State} {e : FileReads.Event}
    (aborted : (server.serve contents e).outcome = .aborted) :
    ∃ file : LocalFile, ¬ e.offset > file.size ∧ (e.readSize file).toNat > isizeMax := by
  cases found : server.file? e with
  | none =>
    unfold FileReads.State.serve ClipFiles.serveFileContents at aborted
    unfold FileReads.State.file? at found
    dsimp only at aborted
    rw [found] at aborted
    cases aborted
  | some file =>
    rw [FileReads.serve_found found] at aborted
    unfold ClipFiles.serveRange at aborted
    split at aborted
    · cases aborted
    · rename_i within
      dsimp only at aborted
      split at aborted
      · rename_i large
        exact ⟨file, within, large⟩
      · split at aborted
        · cases aborted
        · unfold ClipFiles.hotReload at aborted
          dsimp only at aborted
          split at aborted
          · cases aborted
          · cases aborted

/-- A buffer is no longer than the length that is asked for. -/
theorem readSize_le {server : FileReads.State} {e : FileReads.Event}
    (sum : FileReads.NoOverflow server e) {file : LocalFile} (within : ¬ e.offset > file.size) :
    (e.readSize file).toNat ≤ e.length.toNat := by
  have added : (e.offset + e.length).toNat = e.offset.toNat + e.length.toNat := by
    rw [UInt64.toNat_add, Nat.mod_eq_of_lt sum]
  unfold FileReads.Event.readSize ClipFiles.readSize
  split
  · rename_i long
    have long : file.size.toNat < (e.offset + e.length).toNat := UInt64.lt_iff_toNat_lt.mp long
    have within : e.offset ≤ file.size := UInt64.not_lt.mp within
    rw [UInt64.toNat_sub_of_le _ _ within]
    omega
  · exact Nat.le_refl _

/-- The request of a read, as the side that copied takes it. -/
theorem decode_range (node : FuseNode) (offset : Int64) (size : UInt32) (env : Env) :
    (node.request offset size).decode =
      .ok (.range (node.request offset size).streamId
        (env.event (node.request offset size)).fileIdx
        (env.event (node.request offset size)).offset
        (env.event (node.request offset size)).length) := rfl

/-- Serving a request moves the copied files as a step of their machine does. -/
theorem serve_step (s : State) (node : FuseNode) (offset : Int64) (size : UInt32) (env : Env) :
    (FileReads.requests contents).step s.server (env.event (node.request offset size)) =
      some (s.serve contents (node.request offset size) env).2 := by
  obtain ⟨clip, -⟩ := readFileContents_arrives env.metadata env.disk
    (s.server.io contents (env.event (node.request offset size))) env.connId
    (decode_range node offset size env) s.server.clip
  refine congrArg some ?_
  unfold State.serve
  dsimp only
  rw [clip]
  rfl

/-- What arrives of an answer to a request. -/
theorem serve_arrives (s : State) (node : FuseNode) (offset : Int64) (size : UInt32) (env : Env) :
    (s.serve contents (node.request offset size) env).1.filterMap Message.arrives =
      match (s.server.serve contents (env.event (node.request offset size))).outcome with
      | .ok response => (clip2Msg env.metadata response.clip).arrives.toList
      | .error _ => [.fileContentsResponse 0x2 (node.request offset size).streamId []]
      | .aborted => [] :=
  (readFileContents_arrives env.metadata env.disk
    (s.server.io contents (env.event (node.request offset size))) env.connId
    (decode_range node offset size env) s.server.clip).2

/-- A request gets one reply, and if it is no failure it has the bytes that the request is for. -/
theorem serve_reply (sound : FileReads.AllSound contents s.server)
    (placed : FileReads.Placed s.server) (modest : Modest offset size) (node : FuseNode)
    (env : Env) :
    ∃ msgFlags requestedData,
      replies (node.request offset size)
          (s.serve contents (node.request offset size) env).1 =
        [.contents msgFlags (node.request offset size).streamId requestedData
          (node.request offset size)] ∧
      (FuseRead.succeeds msgFlags →
        requestedData = bytes contents (node.request offset size)) := by
  have sum := modest.noOverflow node env s.server
  unfold replies
  rw [serve_arrives]
  cases ended : (s.server.serve contents (env.event (node.request offset size))).outcome with
  | ok response =>
    obtain ⟨data, rfl, right⟩ := FileReads.answer_iff sound sum ended
    exact ⟨0x1, data, rfl, fun _ => right.mpr placed.inPlace⟩
  | error e => exact ⟨0x2, [], rfl, fun success => absurd success (by decide)⟩
  | aborted =>
    obtain ⟨file, within, large⟩ := serve_aborted ended
    have least := readSize_le sum within
    rw [(modest.event node env).2, UInt32.toNat_toUInt64] at least
    have short := modest.short
    have bound : isizeMax = 9223372036854775807 := rfl
    omega

end Serve

/-! ## Both sides -/

/-- Whatever the tree was built from, its nodes stand for the copied files, and everything that was
asked for was asked of one of them. -/
structure Held (contents : Nat → Bytes) (files : List LocalFile) (tree : List TreeNode)
    (s : State) : Prop where
  reads : FuseRead.Held (bytes contents) s.client
  sound : FileReads.AllSound contents s.server
  placed : FileReads.Placed s.server
  few : files.length < 2147483648
  built : ∃ connId, Built (files.map (LocalFile.sent connId)) tree
  same : SameTree tree s.fuse.served.files
  asks : Asks (Asked tree) s.client

section Runs

variable {contents : Nat → Bytes} {files : List LocalFile} {tree : List TreeNode} {s t : State}

/-- A list that is written is not empty. -/
theorem written_nonempty {formatData : Bytes} (written : buildFileListPdu files = some formatData) :
    formatData ≠ [] := by
  rintro rfl
  obtain ⟨records, -, is⟩ := Option.bind_eq_some_iff.mp written
  have length := congrArg List.length (Option.some.inj is)
  rw [List.length_append, length_toLe, List.length_nil] at length
  omega

theorem Held.start (started : Start contents files s) : ∃ tree, Held contents files tree s := by
  obtain ⟨copied, listed, written, few, mounted, idle⟩ := started
  obtain ⟨metadata, disk, io, connId, formatData, descs, chances, before, exchange, parsed,
    loaded⟩ := mounted
  rw [exchanged_getFormatList (written_nonempty written)] at exchange
  obtain rfl : s.server.clip.filesPdu = formatData :=
    (Clip.formatDataResponse.inj (List.cons.inj exchange).1).2
  rw [parseFileDescriptors_sent connId written, if_pos (by omega)] at parsed
  obtain rfl := Except.ok.inj parsed
  refine ⟨s.fuse.served.files, ?_, FileReads.allSound_start copied, ?_, few, ⟨connId, ?_⟩, rfl, ?_⟩
  · rw [idle]
    exact ⟨nofun, nofun, nofun⟩
  · intro index file found open_
    exact absurd ((copied index file found).1.symm.trans open_) (by decide)
  · unfold FuseServer.loadFileList FuseFiles.loadFileList at loaded
    cases done : buildTree chances (files.map (LocalFile.sent connId)) with
    | error e =>
      rw [done] at loaded
      cases (Prod.mk.inj loaded).1
    | ok tree =>
      rw [done] at loaded
      rw [← (Prod.mk.inj loaded).2]
      exact buildTree_built done
  · rw [idle]
    exact ⟨nofun, nofun, nofun⟩

/-- Reads use of their state nothing of the tree. -/
theorem reads_held (held : FuseRead.Held (bytes contents) s.client) :
    FuseRead.Held (bytes contents) s.reading :=
  ⟨held.correct, held.answers, held.alone⟩

/-- The node of a read that passes its checks is one of the tree. -/
theorem Held.readable (held : Held contents files tree s) {ino fh : Nat} {node : FuseNode}
    (found : FuseRead.readable s.reading.files ino fh = some node) :
    ∃ place entry, tree[place + 1]? = some entry ∧ entry.attributes.kind = .file ∧
      node = readNode entry := by
  cases ino with
  | zero => cases found
  | succ index =>
    unfold FuseRead.readable at found
    dsimp only at found
    cases there : s.reading.files[index]? with
    | none =>
      rw [there] at found
      cases found
    | some read =>
      rw [there] at found
      dsimp only at found
      split at found
      · rename_i checks
        obtain rfl := Option.some.inj found
        unfold State.reading at there
        rw [List.getElem?_map] at there
        obtain ⟨entry, inside, rfl⟩ := Option.map_eq_some_iff.mp there
        obtain ⟨old, stands, same⟩ := held.same.find inside
        have kind : old.attributes.kind = .file := by
          have kinds := congrArg (fun node : TreeNode => node.attributes.kind) same
          exact kinds.trans (of_decide_eq_true checks.2.1)
        have node := readNode_eq same
        cases index with
        | zero =>
          -- the root is a directory
          obtain ⟨connId, built⟩ := held.built
          rw [(built.root old stands).2.2] at kind
          cases kind
        | succ place => exact ⟨place, old, stands, kind, node.symm⟩
      · cases found

theorem Held.call (held : Held contents files tree s) {fuse : FuseServer}
    (same : SameTree s.fuse.served.files fuse.served.files) (called : s.call fuse = some t) :
    Held contents files tree t := by
  unfold State.call at called
  split at called
  · cases called
  · obtain rfl := Option.some.inj called
    exact { held with same := held.same.trans same }

/-- A step of the reads that keeps what they asked for. -/
theorem Held.read (held : Held contents files tree s) {e : FuseRead.Event}
    (settled : FuseRead.Settled s.reading e)
    (asks : ∀ client, FuseRead.step (bytes contents) s.reading e = some client →
      Asks (Asked tree) client)
    (stepped : s.reads contents e = some t) : Held contents files tree t := by
  unfold State.reads at stepped
  obtain ⟨client, moved, rfl⟩ := Option.map_eq_some_iff.mp stepped
  exact { held with
    reads := (reads_held held.reads).step settled moved
    asks := asks client moved }

theorem Held.serve (held : Held contents files tree s) {index : Nat} {env : Env}
    (reads : env.fails = none) (stepped : step contents s (.serve index env) = some t) :
    Held contents files tree t ∧ ∃ sent msgFlags requestedData,
      s.client.unanswered[index]? = some sent ∧
      t.client.channel =
        s.client.channel ++ [.contents msgFlags sent.streamId requestedData sent] := by
  simp only [step] at stepped
  cases found : s.client.unanswered[index]? with
  | none =>
    rw [found] at stepped
    cases stepped
  | some sent =>
    rw [found] at stepped
    obtain rfl := Option.some.inj stepped
    obtain ⟨node, offset, size, asked, rfl⟩ :=
      held.asks.unanswered sent (List.mem_of_getElem? found)
    obtain ⟨msgFlags, requestedData, reply, right⟩ :=
      serve_reply held.sound held.placed asked.modest node env
    have moved := @serve_step contents s node offset size env
    refine ⟨⟨?_, held.sound.step moved, ?_, held.few, held.built, held.same, ?_⟩,
      _, msgFlags, requestedData, rfl, ?_⟩
    · rw [reply]
      exact held.reads.answer found msgFlags right
    · exact held.placed.step held.sound (asked.modest.noOverflow node env s.server) reads moved
    · exact ⟨held.asks.waiting,
        fun sent listed => held.asks.unanswered sent (List.mem_of_mem_eraseIdx listed),
        held.asks.returned⟩
    · rw [reply]

theorem Held.step {e : Event} (held : Held contents files tree s) (careful : Careful s e)
    (stepped : step contents s e = some t) : Held contents files tree t := by
  have now : Asks (Asked tree) s.reading :=
    ⟨held.asks.waiting, held.asks.unanswered, held.asks.returned⟩
  cases e with
  | openFile ino =>
    exact held.call (SameTree.moves (openKind_moves (.inl rfl)) (.inl ⟨ino, rfl⟩)) stepped
  | release ino fh =>
    exact held.call (SameTree.moves (release_moves ino fh) (.inr ⟨ino, fh, rfl⟩)) stepped
  | read ino fh offset size sent =>
    refine held.read careful.2 ?_ stepped
    intro client moved
    refine now.read ?_ moved
    intro node found
    exact ⟨held.readable found, careful.1⟩
  | receive sent =>
    refine held.read (e := .receive sent) trivial ?_ stepped
    exact fun client moved => now.receive moved
  | timeout =>
    refine held.read (e := .timeout) trivial ?_ stepped
    exact fun client moved => now.timeout moved
  | serve index env => exact (held.serve careful stepped).1

/-- A small index is the same number as it is sent. -/
theorem toNat_index {index : Nat} (small : index < 2147483648) :
    (asU64 (Int32.ofNat index)).toNat = index := by
  have bits : (Int32.ofNat index).toInt = index := Int32.toInt_ofNat_of_lt small
  have sent := toNat_asU64 (Int32.ofNat index)
  rw [bits, if_pos (by omega)] at sent
  omega

theorem Held.right (held : Held contents files tree s) {read : FuseRead.Returned}
    (returned : read ∈ s.client.returned) : Right contents files s read := by
  have whole := held.reads.correct read returned
  obtain ⟨⟨place, old, stands, kind, node⟩, modest⟩ := held.asks.returned read returned
  obtain ⟨connId, built⟩ := held.built
  obtain ⟨desc, listed, -, index, kinds, name, -⟩ := built.nodes place old stands
  rw [List.getElem?_map] at listed
  obtain ⟨file, entry, rfl⟩ := Option.map_eq_some_iff.mp listed
  have back : SameTree s.fuse.served.files tree := held.same.symm
  obtain ⟨now, there, same⟩ := back.find stands
  refine ⟨place, file, now, entry, ?_, there, ?_, ?_, ?_⟩
  · rw [kind] at kinds
    unfold LocalFile.sent at kinds
    dsimp only at kinds
    split at kinds
    · cases kinds
    · rename_i plain
      exact Bool.eq_false_iff.mpr plain
  · rw [node]
    exact (readNode_eq same).symm
  · have names : (bare old).name = (bare now).name := congrArg TreeNode.name same.symm
    exact name.trans (congrArg (fun name : String => some name.toList) names)
  · have few := held.few
    have below := (List.getElem?_eq_some_iff.mp entry).1
    have decoded := (decode_request read.node read.offset read.size modest.positive).mpr
      ⟨modest.low, modest.short⟩
    have place : read.node.index = place := by
      rw [node]
      exact index
    unfold bytes at whole
    rw [decoded] at whole
    dsimp only at whole
    rw [whole, place, toNat_index (by omega), modest.toNat_offset.1, UInt32.toNat_toUInt64]

end Runs

/-- In every run of careful reads of pasted files, with replies that are late, lost to a timeout or
failures: every read that returns has the bytes, at its offset, of the copied file that its node is
named after, and every request that is served brings exactly one reply. -/
theorem pasted_reads (contents : Nat → Bytes) (files : List LocalFile) :
    (pasting contents files).Always Careful fun s e t =>
      (∀ read ∈ t.client.returned, Right contents files t read) ∧
      ∀ index env, e = .serve index env → ∃ sent msgFlags requestedData,
        s.client.unanswered[index]? = some sent ∧
        t.client.channel =
          s.client.channel ++ [.contents msgFlags sent.streamId requestedData sent] := by
  refine Machine.Always.of_invariant (fun s => ∃ tree, Held contents files tree s) ?_ ?_ ?_
  · exact fun s started => Held.start started
  · rintro s e t ⟨tree, held⟩ careful stepped
    exact ⟨tree, held.step careful stepped⟩
  · rintro s e t ⟨tree, held⟩ careful stepped
    constructor
    · exact fun read returned => (held.step careful stepped).right returned
    · rintro index env rfl
      exact (held.serve careful stepped).2

/-- A file of four bytes. -/
def note : LocalFile where
  path := "/home/note"
  relativePath := "note"
  size := 4
  lastWriteTime := 0
  isDir := false
  perm := 0o100644

theorem note_fits : [note].length ≤ isizeMax := by decide

/-- The side that copied it. -/
def noted : FileReads.State where
  clip := {
    fileList := [note]
    filesPdu := (buildFileListPdu [note]).getD []
    fits := note_fits }
  position := fun _ => 0

/-- The other side, which has mounted it. -/
def noteMounted : State where
  fuse := (FuseServer.new.loadFileList (fun _ => ⟨7, 0⟩) [note.sent 1]).2
  client := { files := [] }
  server := noted

/-- The disk of the side that copied. -/
def noteEnv : Env where
  connId := 1
  metadata := fun _ => none
  disk := ⟨fun _ => false, fun _ => true, fun _ => .ok ⟨[note], note_fits⟩⟩

example : Start (fun _ => [1, 2, 3, 4]) [note] noteMounted where
  copied := by
    intro index file found
    cases index with
    | zero =>
      obtain rfl := Option.some.inj found
      exact ⟨rfl, rfl, fun _ => rfl⟩
    | succ index => cases found
  listed := rfl
  written := by decide +kernel
  few := by decide
  mounted := by
    refine ⟨fun _ => none, noteEnv.disk, ⟨true, true, none, true⟩, 1, noted.clip.filesPdu,
      [note.sent 1], fun _ => ⟨7, 0⟩, .new, by decide +kernel, by decide +kernel, ?_⟩
    exact Prod.ext (by decide +kernel) rfl
  idle := rfl

example :
    ((pasting (fun _ => [1, 2, 3, 4]) [note]).play Machine.free noteMounted
      [.openFile 2, .read 2 0 1 2 true, .serve 0 noteEnv, .receive true]).client.returned.map
        FuseRead.Returned.data = [[2, 3]] := by decide +kernel

end ChainRemote.Clipboard.PastedReads
