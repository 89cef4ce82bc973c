import Mathlib.Data.List.Basic
import ChainRemote.Lib.Settling
import ChainRemote.Clipboard.MultiClipboards

/-!
# Clipboards kept alike

Every machine may serve sessions to its own desktop and view the desktops of others. A change of its
clipboard is noticed by its clipboard service and by its client loop; what they read is sent to the
sessions, and a received clipboard is put there by a thread of its own. What is put there carries
the owner's mark, and what carries it is not sent.

The library that reaches the clipboard is a parameter. It reads the last special data put there.
-/

namespace ChainRemote.Clipboard.Sync

open Lib MultiClipboards
open Server.TerminalReplay (Compression)

/-- `arboard::ClipboardFormat`. -/
inductive Arboard.ClipboardFormat
  | text
  | html
  | rtf
  | imageRgba
  | imagePng
  | imageSvg
  | fileUrl
  | special (name : List Char)
deriving DecidableEq

/-- `arboard::Clipboard` over what the system's clipboard holds. -/
structure Arboard (β : Type) where
  getFormats : β → List Arboard.ClipboardFormat → List ClipboardData
  setFormats : List ClipboardData → β
  special_read : ∀ data name d formats, Arboard.ClipboardFormat.special name ∈ formats →
    ClipboardData.special name d ∈ getFormats (setFormats (data ++ [.special name d])) formats

/-- The format that data is read as. -/
def isRead (formats : List Arboard.ClipboardFormat) : ClipboardData → Bool
  | .text _ => formats.contains .text
  | .html _ => formats.contains .html
  | .rtf _ => formats.contains .rtf
  | .image (.rgba ..) => formats.contains .imageRgba
  | .image (.png _) => formats.contains .imagePng
  | .image (.svg _) => formats.contains .imageSvg
  | .special name _ => formats.contains (.special name)
  | .fileUrl _ => formats.contains .fileUrl
  | .nothing => false

/-- A clipboard that is read as it was set. -/
instance : Inhabited (Arboard (List ClipboardData)) where
  default :=
    { getFormats := fun board formats => board.filter (isRead formats)
      setFormats := id
      special_read := fun data name d formats asked =>
        List.mem_filter.mpr ⟨List.mem_append_right _ (List.mem_singleton_self _),
          List.contains_iff_mem.mpr asked⟩ }

/-- `RUSTDESK_CLIPBOARD_OWNER_FORMAT`. -/
def rustdeskClipboardOwnerFormat : List Char := "dyn.com.rustdesk.owner".toList

/-- `CLIPBOARD_FORMAT_EXCEL_XML_SPREADSHEET`. -/
def clipboardFormatExcelXmlSpreadsheet : List Char := "XML Spreadsheet".toList

/-- `ClipboardSide`. -/
inductive ClipboardSide
  | host
  | client
deriving DecidableEq

namespace ClipboardSide

/-- The side at the other end. -/
def other : ClipboardSide → ClipboardSide
  | .host => .client
  | .client => .host

@[simp] theorem other_other (side : ClipboardSide) : side.other.other = side := by
  cases side <;> rfl

/-- `get_owner_data`. -/
def getOwnerData : ClipboardSide → Bytes
  | .host => [0b01]
  | .client => [0b10]

/-- `is_owner`, which takes the mark of either side for its own. -/
def isOwner (_ : ClipboardSide) (data : Bytes) : Bool :=
  match data with
  | [] => false
  | first :: _ => first &&& 0b11 != 0

@[simp] theorem isOwner_getOwnerData (side owner : ClipboardSide) :
    side.isOwner owner.getOwnerData = true := by
  cases owner <;> rfl

end ClipboardSide

section Context

variable {β : Type} (arboard : Arboard β) (zstd : Compression)
  /- The feature `unix-file-copy-paste`. -/
  (unixFileCopyPaste : Bool)

/-- `SUPPORTED_FORMATS`. -/
def supportedFormats : List Arboard.ClipboardFormat :=
  [.text, .html, .rtf, .imageRgba, .imagePng, .imageSvg] ++
    (if unixFileCopyPaste then [.fileUrl] else []) ++
    [.special clipboardFormatExcelXmlSpreadsheet, .special rustdeskClipboardOwnerFormat]

/-- `ClipboardContext::get_formats` where an attempt succeeds. -/
def getFormats (board : β) (formats : List Arboard.ClipboardFormat) : List ClipboardData :=
  (arboard.getFormats board formats).filter fun c => c != .nothing

/-- The test of the owner's mark in `get_formats_filter`. -/
def marksOwner (side : ClipboardSide) : ClipboardData → Bool
  | .special s d => s == rustdeskClipboardOwnerFormat && side.isOwner d
  | _ => false

/-- What `get_formats_filter` keeps. -/
def kept : ClipboardData → Bool
  | .special s _ => s != rustdeskClipboardOwnerFormat
  | .text text => !text.isEmpty
  | _ => true

/-- `get_formats_filter`. -/
def getFormatsFilter (board : β) (formats : List Arboard.ClipboardFormat) (side : ClipboardSide)
    (force : Bool) : List ClipboardData :=
  let data := getFormats arboard board formats
  if data.isEmpty then data
  else if !force && data.any (marksOwner side) then []
  else data.filter kept

/-- `ClipboardContext::get` where the formats are read. -/
def get (board : β) (side : ClipboardSide) (force : Bool) : List ClipboardData :=
  let data := getFormatsFilter arboard board (supportedFormats unixFileCopyPaste) side force
  if unixFileCopyPaste && data.any (· matches .fileUrl _) then [] else data

/-- The clipboards of the message of `check_clipboard` where the formats are read. -/
def checkClipboard (board : β) (side : ClipboardSide) (force : Bool) : Option (List Clipboard) :=
  let content := get arboard unixFileCopyPaste board side force
  if content.isEmpty then none else some (createMultiClipboards zstd content)

/-- `do_update_clipboard_` where the formats are set. -/
def doUpdateClipboard (toUpdateData : List ClipboardData) (side : ClipboardSide) : β :=
  arboard.setFormats
    (toUpdateData ++ [.special rustdeskClipboardOwnerFormat side.getOwnerData])

/-- `update_clipboard_`; `none` where there is nothing to put there. -/
def updateClipboard (multiClipboards : List Clipboard) (side : ClipboardSide) : Option β :=
  let toUpdateData := fromMultiClipboards zstd multiClipboards
  if toUpdateData.isEmpty then none else some (doUpdateClipboard arboard toUpdateData side)

/-- The clipboard carries the mark. -/
def owned (board : β) : Bool :=
  (getFormats arboard board (supportedFormats unixFileCopyPaste)).any (marksOwner .client)

variable {arboard zstd unixFileCopyPaste}

theorem marksOwner_side (side : ClipboardSide) : marksOwner side = marksOwner .client := by
  funext c
  cases c with
  | special s d => cases side <;> rfl
  | _ => rfl

/-- What was put on the clipboard by either side carries the mark. -/
theorem owned_update (data : List ClipboardData) (side : ClipboardSide) :
    owned arboard unixFileCopyPaste (doUpdateClipboard arboard data side) = true := by
  have asked : Arboard.ClipboardFormat.special rustdeskClipboardOwnerFormat ∈
      supportedFormats unixFileCopyPaste :=
    List.mem_append_right _ (List.mem_cons_of_mem _ (List.mem_cons_self ..))
  have read := arboard.special_read data _ side.getOwnerData _ asked
  refine List.any_eq_true.mpr ⟨_, List.mem_filter.mpr ⟨read, rfl⟩, ?_⟩
  simp only [marksOwner, BEq.rfl, Bool.true_and, ClipboardSide.isOwner_getOwnerData]

/-- Neither side finds anything on a clipboard that carries the mark. -/
theorem checkClipboard_owned {board : β} (marked : owned arboard unixFileCopyPaste board = true)
    (side : ClipboardSide) :
    checkClipboard arboard zstd unixFileCopyPaste board side false = none := by
  have nothing : getFormatsFilter arboard board (supportedFormats unixFileCopyPaste) side false =
      [] := by
    unfold getFormatsFilter
    dsimp only
    split
    · rename_i empty
      exact List.isEmpty_iff.mp empty
    · rw [marksOwner_side, if_pos]
      exact marked
  unfold checkClipboard get
  rw [nothing]
  simp only [List.any_nil, Bool.and_false, Bool.false_eq_true, if_false, List.isEmpty_nil, if_true]

/-- Without the mark all that is on the clipboard is read, as if by force. -/
theorem get_unmarked {board : β} (marked : owned arboard unixFileCopyPaste board = false)
    (side : ClipboardSide) :
    get arboard unixFileCopyPaste board side false =
      get arboard unixFileCopyPaste board .client true := by
  have same : getFormatsFilter arboard board (supportedFormats unixFileCopyPaste) side false =
      getFormatsFilter arboard board (supportedFormats unixFileCopyPaste) .client true := by
    have unmarked : (getFormats arboard board (supportedFormats unixFileCopyPaste)).any
        (marksOwner side) = false := by
      rw [marksOwner_side]
      exact marked
    unfold getFormatsFilter
    simp only [unmarked, Bool.and_false, Bool.not_true, Bool.false_and, Bool.false_eq_true,
      if_false]
  unfold get
  rw [same]

end Context

/-! ## The machines and their sessions -/

/-- Which machines there are and which sessions between them: who views whom, whether the peer at a
side supports several clipboards at once, and whether a machine runs both sides in one process. -/
structure Sessions (ι κ : Type) where
  viewer : κ → ι
  host : κ → ι
  supports : κ → ClipboardSide → Bool
  oneProcess : ι → Bool

variable {ι κ β : Type}

/-- The machine at a side of a session. -/
def Sessions.party (net : Sessions ι κ) (k : κ) : ClipboardSide → ι
  | .host => net.host k
  | .client => net.viewer k

/-- The process of a side of a machine, named after one of its sides. -/
def Sessions.process (net : Sessions ι κ) (m : ι) (side : ClipboardSide) : ClipboardSide :=
  if net.oneProcess m then .host else side

/-- What both ends of a session know of its clipboards. -/
structure Session where
  /-- The connection is subscribed to the host's clipboard service. -/
  subscribed : Bool
  /-- `clipboard` of the host's connection. -/
  clipboard : Bool
  /-- `disable_clipboard` of the viewer. -/
  disableClipboard : Bool
  serverClipboardEnabled : Bool
  serverKeyboardEnabled : Bool

/-- `is_text_clipboard_required`. -/
def Session.isTextClipboardRequired (session : Session) : Bool :=
  session.serverClipboardEnabled && session.serverKeyboardEnabled && !session.disableClipboard

/-- What one side reads goes into the session. -/
def Session.sends (session : Session) : ClipboardSide → Bool
  | .host => session.subscribed
  | .client => session.isTextClipboardRequired

/-- What arrives at one side is taken. -/
def Session.takes (session : Session) : ClipboardSide → Bool
  | .host => session.clipboard
  | .client => !session.disableClipboard

structure State (ι κ β : Type) where
  /-- What is on the clipboard of a machine. -/
  board : ι → β
  /-- A side of a machine is told of changes. -/
  listens : ι → ClipboardSide → Bool
  /-- The notices of changes that wait for a side. -/
  notices : ι → ClipboardSide → Nat
  /-- `CLIPBOARD_STATE.is_text_required`. -/
  isTextRequired : ι → Bool
  /-- `LAST_MULTI_CLIPBOARDS` of a process of a machine. -/
  last : ι → ClipboardSide → List Clipboard
  session : κ → Session
  /-- The messages on their way to a side of a session. -/
  queue : κ → ClipboardSide → List MultiClipboards.Message
  /-- The messages of new sessions that their tasks are about to send. -/
  initial : κ → List MultiClipboards.Message
  /-- The threads of `update_clipboard`, in any order. -/
  updates : ι → List (List Clipboard × ClipboardSide)
  /-- History: what was copied on a machine. -/
  copied : ι → List β
  /-- History: what a machine read by force for a new session. -/
  forced : ι → List β

/-- What can happen. `reads` and `sets` say whether the clipboard could be read or set; a client loop
that is told to stop does not read any more. -/
inductive Event (ι κ β : Type)
  /-- Some program copies on a machine. -/
  | copy (m : ι) (board : β)
  /-- A side starts to listen, with a channel of its own. -/
  | subscribe (m : ι) (side : ClipboardSide)
  /-- A side is told of no more changes. -/
  | unsubscribe (m : ι) (side : ClipboardSide)
  /-- A side of a machine handles a notice. -/
  | notice (m : ι) (side : ClipboardSide) (reads : Bool)
  /-- A side of a session receives a message. -/
  | receive (k : κ) (side : ClipboardSide)
  /-- A thread of `update_clipboard` runs. -/
  | update (m : ι) (i : Nat) (sets : Bool)
  /-- The viewer copies a screenshot to its clipboard. -/
  | screenshot (m : ι) (data : Bytes)
  /-- The viewer handles the peer info of a session with `sync_init_clipboard`. -/
  | connected (k : κ) (reads : Bool)
  /-- The task of a new session sends its message. -/
  | sendInitial (k : κ) (i : Nat)
  | setIsTextClipboardRequired (m : ι) (required : Bool)
  /-- A permission or an option of a session changes. -/
  | change (k : κ) (session : Session)
  /-- What is on its way in a session is lost. -/
  | close (k : κ)

section Step

variable [DecidableEq ι] [DecidableEq κ] (net : Sessions ι κ)

/-- The clipboard of a machine changes and its listeners are told. -/
def State.put (s : State ι κ β) (m : ι) (board : β) : State ι κ β :=
  { s with
    board := Function.update s.board m board
    notices := Function.update s.notices m fun side =>
      s.notices m side + if s.listens m side then 1 else 0 }

/-- What one side of a machine sends to all its sessions. -/
def State.send (s : State ι κ β) (m : ι) (side : ClipboardSide) (clipboards : List Clipboard) :
    State ι κ β :=
  { s with
    queue := fun k toward =>
      if toward = side.other ∧ net.party k side = m ∧ (s.session k).sends side then
        s.queue k toward ++ [outgoing (net.supports k toward) clipboards]
      else s.queue k toward }

/-- A process stores `LAST_MULTI_CLIPBOARDS`. -/
def State.store (s : State ι κ β) (m : ι) (side : ClipboardSide) (clipboards : List Clipboard) :
    State ι κ β :=
  { s with
    last := Function.update s.last m
      (Function.update (s.last m) (net.process m side) clipboards) }

/-- What a side does with what it found: the service sends it, the client loop where any session
requires it. -/
def State.found (s : State ι κ β) (m : ι) (side : ClipboardSide) (clipboards : List Clipboard) :
    State ι κ β :=
  let s := s.store net m side clipboards
  match side with
  | .host => s.send net m .host clipboards
  | .client => if s.isTextRequired m then s.send net m .client clipboards else s

/-- One notice less. -/
def State.noticed (s : State ι κ β) (m : ι) (side : ClipboardSide) (left : Nat) : State ι κ β :=
  { s with
    notices := Function.update s.notices m
      (Function.update (s.notices m) side left) }

/-- `get_current_clipboard_msg`: the message of what is stored. -/
def currentMsg (supports : Bool) (clipboards : List Clipboard) : Option MultiClipboards.Message :=
  if clipboards.isEmpty then none
  else if supports then some (.multiClipboards clipboards)
  else (firstText clipboards).map .clipboard

/-- The message for a new session is left to its task. -/
def State.spawnInitial (s : State ι κ β) (k : κ) : State ι κ β :=
  match currentMsg (net.supports k .host)
      (s.last (net.viewer k) (net.process (net.viewer k) .client)) with
  | some msg => { s with initial := Function.update s.initial k (s.initial k ++ [msg]) }
  | none => s

/-- What is on the clipboard of a viewer is stored for a new session. -/
def State.force (s : State ι κ β) (m : ι) (clipboards : List Clipboard) : State ι κ β :=
  { s.store net m .client clipboards with
    forced := Function.update s.forced m (s.board m :: s.forced m) }

variable (arboard : Arboard β) (zstd : Compression) (unixFileCopyPaste : Bool)

/-- What an event does; `none` where it cannot happen. -/
def step (s : State ι κ β) : Event ι κ β → Option (State ι κ β)
  | .copy m board =>
    some { s.put m board with copied := Function.update s.copied m (board :: s.copied m) }
  | .subscribe m side =>
    some { s with
      listens := Function.update s.listens m (Function.update (s.listens m) side true)
      notices := Function.update s.notices m (Function.update (s.notices m) side 0) }
  | .unsubscribe m side =>
    some { s with
      listens := Function.update s.listens m (Function.update (s.listens m) side false) }
  | .notice m side reads =>
    match s.notices m side with
    | left + 1 =>
      let s := s.noticed m side left
      match checkClipboard arboard zstd unixFileCopyPaste (s.board m) side false with
      | some clipboards => some (if reads then s.found net m side clipboards else s)
      | none => some s
    | 0 => none
  | .receive k side =>
    match s.queue k side with
    | msg :: rest =>
      let m := net.party k side
      some { s with
        queue := Function.update s.queue k (Function.update (s.queue k) side rest)
        updates :=
          if (s.session k).takes side then
            Function.update s.updates m (s.updates m ++ [(msg.clipboards, side)])
          else s.updates }
    | [] => none
  | .update m i sets =>
    match (s.updates m)[i]? with
    | some (multiClipboards, side) =>
      let s := { s with updates := Function.update s.updates m ((s.updates m).eraseIdx i) }
      match updateClipboard arboard zstd multiClipboards side with
      | some board => some (if sets then s.put m board else s)
      | none => some s
    | none => none
  | .screenshot m data =>
    let clips : List Clipboard := [{ compress := false, content := data, format := .imagePng }]
    some { s with updates := Function.update s.updates m (s.updates m ++ [(clips, .client)]) }
  | .connected k reads =>
    let m := net.viewer k
    if (s.last m (net.process m .client)).isEmpty then
      if reads then
        some ((s.force net m (createMultiClipboards zstd
          (get arboard unixFileCopyPaste (s.board m) .client true))).spawnInitial net k)
      else some s
    else some (s.spawnInitial net k)
  | .sendInitial k i =>
    match (s.initial k)[i]? with
    | some msg =>
      let s := { s with initial := Function.update s.initial k ((s.initial k).eraseIdx i) }
      some (if (s.session k).isTextClipboardRequired then
        { s with
          queue := Function.update s.queue k
            (Function.update (s.queue k) .host (s.queue k .host ++ [msg])) }
      else s)
    | none => none
  | .setIsTextClipboardRequired m required =>
    some { s with isTextRequired := Function.update s.isTextRequired m required }
  | .change k session => some { s with session := Function.update s.session k session }
  | .close k =>
    some { s with
      queue := Function.update s.queue k fun _ => []
      initial := Function.update s.initial k [] }

/-- Machines with clipboards of their own, of which nothing has been sent. -/
def sync : Machine (State ι κ β) (Event ι κ β) where
  start s := (∀ m, s.copied m = [s.board m]) ∧ (∀ m side, s.last m side = []) ∧
    (∀ k side, s.queue k side = []) ∧ (∀ k, s.initial k = []) ∧ (∀ m, s.updates m = []) ∧
    ∀ m, s.forced m = []
  step := step net arboard zstd unixFileCopyPaste

end Step

end ChainRemote.Clipboard.Sync
