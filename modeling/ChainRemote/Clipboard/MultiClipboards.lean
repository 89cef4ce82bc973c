import ChainRemote.Clipboard.LocalFile
import ChainRemote.Lib.Utf8
import ChainRemote.Server.TerminalReplay

/-!
# What is copied, as messages carry it

What a program has put on the clipboard is sent as one `Clipboard` for each format, compressed where
that is shorter, and put together again at the other end. A peer of an older version is sent the
first text alone.
-/

namespace ChainRemote.Clipboard.MultiClipboards

open Lib
open Server.TerminalReplay (Compression)

/-- `String::from_utf8`, which reads the encodings of texts and nothing else. -/
def fromUtf8 (bytes : Bytes) : Option (List Char) :=
  let text := decodeUtf8 bytes
  if encodeUtf8 text = bytes then some text else none

@[simp] theorem fromUtf8_encode (text : List Char) : fromUtf8 (encodeUtf8 text) = some text := by
  unfold fromUtf8
  rw [decodeUtf8_encode]
  exact if_pos rfl

/-- `arboard::ImageData`. -/
inductive ImageData
  | rgba (width height : BitVec 64) (bytes : Bytes)
  | png (bytes : Bytes)
  | svg (text : List Char)
deriving DecidableEq

/-- `bytes` of an image. -/
def ImageData.bytes : ImageData → Bytes
  | .rgba _ _ bytes => bytes
  | .png bytes => bytes
  | .svg text => encodeUtf8 text

/-- `arboard::ClipboardData`; `nothing` is its `None`. -/
inductive ClipboardData
  | text (s : List Char)
  | html (s : List Char)
  | rtf (s : List Char)
  | image (a : ImageData)
  | special (name : List Char) (d : Bytes)
  | fileUrl (urls : List (List Char))
  | nothing
deriving DecidableEq

/-- `message_proto::ClipboardFormat`; `unknown` is a number that is none of its values. -/
inductive ClipboardFormat
  | text
  | rtf
  | html
  | imageRgba
  | imagePng
  | imageSvg
  | special
  | unknown (value : BitVec 32)
deriving DecidableEq

/-- `message_proto::Clipboard`. -/
structure Clipboard where
  compress : Bool
  content : Bytes
  width : BitVec 32 := 0
  height : BitVec 32 := 0
  format : ClipboardFormat
  specialName : List Char := []
deriving DecidableEq

/-- The two messages that carry what was copied. -/
inductive Message
  | clipboard (cb : Clipboard)
  | multiClipboards (clipboards : List Clipboard)
deriving DecidableEq

/-- What a message hands to `update_clipboard`. -/
def Message.clipboards : Message → List Clipboard
  | .clipboard cb => [cb]
  | .multiClipboards clipboards => clipboards

variable (zstd : Compression)

/-- Compression makes the data shorter. -/
def Shortens (data : Bytes) : Prop := (zstd.compress data).length < data.length

instance (data : Bytes) : Decidable (Shortens zstd data) :=
  inferInstanceAs (Decidable ((zstd.compress data).length < data.length))

/-- The `compress` and the `content` of data that is sent `otherwise` where compression does not
shorten it. -/
def packed (data otherwise : Bytes) (format : ClipboardFormat) : Clipboard :=
  let compressed := zstd.compress data
  let compress := decide (compressed.length < data.length)
  { compress, content := if compress then compressed else otherwise, format }

/-- `plain_to_proto`. -/
def plainToProto (s : List Char) (format : ClipboardFormat) : Clipboard :=
  packed zstd (encodeUtf8 s) (encodeUtf8 s) format

/-- `image_to_proto`. -/
def imageToProto : ImageData → Clipboard
  | .rgba width height bytes =>
    { packed zstd bytes bytes .imageRgba with
      width := width.truncate 32
      height := height.truncate 32 }
  | .png png => { compress := false, content := png, format := .imagePng }
  | .svg text => packed zstd (ImageData.svg text).bytes (ImageData.svg text).bytes .imageSvg

/-- `special_to_proto`. Where compression does not shorten the data, the content is the name. -/
def specialToProto (d : Bytes) (s : List Char) : Clipboard :=
  { packed zstd d (encodeUtf8 s) .special with specialName := s }

/-- `clipboard_data_to_proto`. -/
def clipboardDataToProto : ClipboardData → Option Clipboard
  | .text s => some (plainToProto zstd s .text)
  | .rtf s => some (plainToProto zstd s .rtf)
  | .html s => some (plainToProto zstd s .html)
  | .image a => some (imageToProto zstd a)
  | .special s d => some (specialToProto zstd d s)
  | .fileUrl _ => none
  | .nothing => none

/-- `create_multi_clipboards`. -/
def createMultiClipboards (vecData : List ClipboardData) : List Clipboard :=
  vecData.filterMap (clipboardDataToProto zstd)

/-- The data of a `Clipboard`. -/
def Clipboard.data (clipboard : Clipboard) : Bytes :=
  if clipboard.compress then zstd.decompress clipboard.content else clipboard.content

/-- `from_clipboard`. -/
def fromClipboard (clipboard : Clipboard) : Option ClipboardData :=
  let data := clipboard.data zstd
  match clipboard.format with
  | .text => (fromUtf8 data).map .text
  | .rtf => (fromUtf8 data).map .rtf
  | .html => (fromUtf8 data).map .html
  | .imageRgba =>
    some (.image (.rgba (clipboard.width.signExtend 64) (clipboard.height.signExtend 64) data))
  | .imagePng => some (.image (.png data))
  | .imageSvg => some (.image (.svg ((fromUtf8 data).getD [])))
  | .special => some (.special clipboard.specialName data)
  | .unknown _ => none

/-- `from_multi_clipboards`. -/
def fromMultiClipboards (multiClipboards : List Clipboard) : List ClipboardData :=
  multiClipboards.filterMap (fromClipboard zstd)

/-- The first text among what is sent. -/
def firstText (clipboards : List Clipboard) : Option Clipboard :=
  clipboards.find? fun c => c.format == .text

/-- `get_msg_if_not_support_multi_clip`, for a peer that supports it or not. -/
def getMsgIfNotSupportMultiClip (supports : Bool) (clipboards : List Clipboard) : Option Message :=
  if supports then none else (firstText clipboards).map .clipboard

/-- What goes to a peer: its own message, or the one for all. -/
def outgoing (supports : Bool) (clipboards : List Clipboard) : Message :=
  (getMsgIfNotSupportMultiClip supports clipboards).getD (.multiClipboards clipboards)

/-! ## What arrives -/

/-- A `usize` sent as an `i32`. -/
def throughI32 (n : BitVec 64) : BitVec 64 := (n.truncate 32).signExtend 64

/-- What is read of data at the other end. -/
def ClipboardData.arrives : ClipboardData → Option ClipboardData
  | .text s => some (.text s)
  | .html s => some (.html s)
  | .rtf s => some (.rtf s)
  | .image (.rgba width height bytes) =>
    some (.image (.rgba (throughI32 width) (throughI32 height) bytes))
  | .image a => some (.image a)
  | .special name d => some (.special name (if Shortens zstd d then d else encodeUtf8 name))
  | .fileUrl _ => none
  | .nothing => none

/-- What a peer reads of all the data. -/
def received (supports : Bool) (vecData : List ClipboardData) : List ClipboardData :=
  match supports, vecData.find? fun d => d matches .text _ with
  | false, some text => [text]
  | _, _ => vecData.filterMap (ClipboardData.arrives zstd)

@[simp] theorem data_packed (data otherwise : Bytes) (format : ClipboardFormat) :
    (packed zstd data otherwise format).data zstd =
      if Shortens zstd data then data else otherwise := by
  unfold packed Clipboard.data
  by_cases shorter : Shortens zstd data
  · have less : (zstd.compress data).length < data.length := shorter
    simp only [less, decide_true, if_true, if_pos shorter]
    exact zstd.roundtrip data
  · have less : ¬(zstd.compress data).length < data.length := shorter
    simp only [less, decide_false, if_neg shorter, Bool.false_eq_true, if_false]

theorem data_plain (data : Bytes) (format : ClipboardFormat) :
    (packed zstd data data format).data zstd = data := by
  rw [data_packed, ite_self]

/-- Data that is sent and read is what arrives. -/
theorem fromClipboard_toProto (d : ClipboardData) :
    (clipboardDataToProto zstd d).bind (fromClipboard zstd) = d.arrives zstd := by
  have texts (s : List Char) (format : ClipboardFormat) :
      fromUtf8 ((plainToProto zstd s format).data zstd) = some s := by
    rw [plainToProto, data_plain, fromUtf8_encode]
  cases d with
  | text s => exact congrArg (Option.map ClipboardData.text) (texts s .text)
  | html s => exact congrArg (Option.map ClipboardData.html) (texts s .html)
  | rtf s => exact congrArg (Option.map ClipboardData.rtf) (texts s .rtf)
  | image a =>
    cases a with
    | rgba width height bytes =>
      have same := data_plain zstd bytes .imageRgba
      exact congrArg (fun data => some (ClipboardData.image
        (.rgba (throughI32 width) (throughI32 height) data))) same
    | png bytes => rfl
    | svg text =>
      have same : fromUtf8 ((imageToProto zstd (.svg text)).data zstd) = some text := by
        rw [imageToProto, data_plain, ImageData.bytes, fromUtf8_encode]
      exact congrArg (fun read => some (ClipboardData.image (.svg (read.getD [])))) same
  | special name d =>
    have same := data_packed zstd d (encodeUtf8 name) .special
    exact congrArg (fun data => some (ClipboardData.special name data)) same
  | fileUrl urls => rfl
  | nothing => rfl

/-- All that is sent and read is what arrives of each. -/
theorem from_create (vecData : List ClipboardData) :
    fromMultiClipboards zstd (createMultiClipboards zstd vecData) =
      vecData.filterMap (ClipboardData.arrives zstd) := by
  unfold fromMultiClipboards createMultiClipboards
  rw [List.filterMap_filterMap]
  exact congrArg (vecData.filterMap ·) (funext (fromClipboard_toProto zstd))

/-- The data that is sent as text is the text. -/
theorem isText_toProto (d : ClipboardData) :
    ((clipboardDataToProto zstd d).any fun c => c.format == .text) = (d matches .text _) := by
  cases d with
  | image a => cases a <;> rfl
  | _ => rfl

/-- The first text that is sent is the first text there is. -/
theorem firstText_create (vecData : List ClipboardData) :
    firstText (createMultiClipboards zstd vecData) =
      (vecData.find? fun d => d matches .text _).bind (clipboardDataToProto zstd) := by
  unfold firstText createMultiClipboards
  rw [List.find?_filterMap]
  simp only [isText_toProto]

/-- The first text, sent alone, arrives alone. -/
theorem from_firstText {vecData : List ClipboardData} {text : ClipboardData} {cb : Clipboard}
    (found : vecData.find? (fun d => d matches .text _) = some text)
    (sent : firstText (createMultiClipboards zstd vecData) = some cb) :
    fromMultiClipboards zstd [cb] = [text] := by
  rw [firstText_create, found] at sent
  have isText := List.find?_some found
  have read := fromClipboard_toProto zstd text
  rw [show clipboardDataToProto zstd text = some cb from sent] at read
  cases text with
  | text s =>
    have one : fromClipboard zstd cb = some (.text s) := read
    rw [fromMultiClipboards, List.filterMap_cons_some one, List.filterMap_nil]
  | _ => cases isText

/-- What goes to a peer is read there as it should be. -/
theorem from_outgoing (supports : Bool) (vecData : List ClipboardData) :
    fromMultiClipboards zstd (outgoing supports (createMultiClipboards zstd vecData)).clipboards =
      received zstd supports vecData := by
  cases supports with
  | true => exact from_create zstd vecData
  | false =>
    cases found : vecData.find? (fun d => d matches .text _) with
    | none =>
      have nothing : firstText (createMultiClipboards zstd vecData) = none := by
        rw [firstText_create, found, Option.bind_none]
      simp only [outgoing, getMsgIfNotSupportMultiClip, nothing, received, found,
        Bool.false_eq_true, if_false, Option.map_none, Option.getD_none, Message.clipboards]
      exact from_create zstd vecData
    | some text =>
      have isText := List.find?_some found
      obtain ⟨s, rfl⟩ : ∃ s, text = .text s := by
        cases text with
        | text s => exact ⟨s, rfl⟩
        | _ => cases isText
      have sent : firstText (createMultiClipboards zstd vecData) =
          some (plainToProto zstd s .text) := by
        rw [firstText_create, found]
        rfl
      simp only [outgoing, getMsgIfNotSupportMultiClip, sent, received, found,
        Bool.false_eq_true, if_false, Option.map_some, Option.getD_some, Message.clipboards]
      exact from_firstText zstd found sent

/-- Data that arrives as it is. -/
def Intact : ClipboardData → Prop
  | .text _ | .html _ | .rtf _ => True
  | .image (.rgba width height _) => throughI32 width = width ∧ throughI32 height = height
  | .image _ => True
  | .special name d => Shortens zstd d ∨ d = encodeUtf8 name
  | .fileUrl _ | .nothing => False

/-- Data arrives as it is exactly where it is no list of files, the sides of an image are small,
and special data can be shortened or is its own name. -/
theorem arrives_iff (d : ClipboardData) : d.arrives zstd = some d ↔ Intact zstd d := by
  cases d with
  | image a => cases a <;> simp [ClipboardData.arrives, Intact]
  | special name d =>
    simp only [ClipboardData.arrives, Intact, Option.some.injEq, ClipboardData.special.injEq,
      true_and]
    by_cases shorter : Shortens zstd d
    · simp [shorter]
    · simp [shorter, eq_comm]
  | _ => simp [ClipboardData.arrives, Intact]

end ChainRemote.Clipboard.MultiClipboards
