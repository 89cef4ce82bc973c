import ChainRemote.Clipboard.ServFiles

/-!
# Clipboard messages between the two sides

What one side has copied the other side learns and reads with messages. All of them arrive as they
were sent but two: a notification becomes a message box, and a list of files for the audit is not
handed on.
-/

namespace ChainRemote.Clipboard

open Lib

/-- `ClipboardFile`, with all that is sent. -/
inductive Clip
  | notifyCallback (type title text : String)
  | monitorReady
  | formatList (formatList : List (Int32 × String))
  | formatListResponse (msgFlags : Int32)
  | formatDataRequest (requestedFormatId : Int32)
  | formatDataResponse (msgFlags : Int32) (formatData : Bytes)
  | fileContentsRequest (sent : ContentsRequest)
  | fileContentsResponse (msgFlags streamId : Int32) (requestedData : Bytes)
  | tryEmpty
  | files (files : List (String × UInt64))
deriving DecidableEq

/-- What a request for contents is answered with, among all that is sent. -/
def ClipboardFile.clip : ClipboardFile → Clip
  | .fileContentsResponse msgFlags streamId requestedData =>
    .fileContentsResponse msgFlags streamId requestedData
  | .files listed => .files listed

/-- `cliprdr::Union`. -/
inductive Cliprdr
  | ready
  | formatList (formats : List (Int32 × String))
  | formatListResponse (msgFlags : Int32)
  | formatDataRequest (requestedFormatId : Int32)
  | formatDataResponse (msgFlags : Int32) (formatData : Bytes)
  | fileContentsRequest (sent : ContentsRequest)
  | fileContentsResponse (msgFlags streamId : Int32) (requestedData : Bytes)
  | tryEmpty
  | files (files : List (String × UInt64))
deriving DecidableEq

/-- `Message`, as far as `clip_2_msg` makes it. -/
inductive Message
  | messageBox (msgtype title text link : String)
  | cliprdr (union : Cliprdr)
deriving DecidableEq

/-- `clip_2_msg`; a listed file of no length is looked up on the disk. -/
def clip2Msg (metadata : String → Option UInt64) : Clip → Message
  | .notifyCallback type title text => .messageBox type title text ""
  | .monitorReady => .cliprdr .ready
  | .formatList formatList => .cliprdr (.formatList formatList)
  | .formatListResponse msgFlags => .cliprdr (.formatListResponse msgFlags)
  | .formatDataRequest requestedFormatId => .cliprdr (.formatDataRequest requestedFormatId)
  | .formatDataResponse msgFlags formatData => .cliprdr (.formatDataResponse msgFlags formatData)
  | .fileContentsRequest sent => .cliprdr (.fileContentsRequest sent)
  | .fileContentsResponse msgFlags streamId requestedData =>
    .cliprdr (.fileContentsResponse msgFlags streamId requestedData)
  | .tryEmpty => .cliprdr .tryEmpty
  | .files files =>
    .cliprdr (.files (files.filterMap fun (f, s) =>
      if s = 0 then (metadata f).map fun len => (f, len) else some (f, s)))

/-- `msg_2_clip`. -/
def msg2Clip : Cliprdr → Option Clip
  | .ready => some .monitorReady
  | .formatList formats => some (.formatList formats)
  | .formatListResponse msgFlags => some (.formatListResponse msgFlags)
  | .formatDataRequest requestedFormatId => some (.formatDataRequest requestedFormatId)
  | .formatDataResponse msgFlags formatData => some (.formatDataResponse msgFlags formatData)
  | .fileContentsRequest sent => some (.fileContentsRequest sent)
  | .fileContentsResponse msgFlags streamId requestedData =>
    some (.fileContentsResponse msgFlags streamId requestedData)
  | .tryEmpty => some .tryEmpty
  | .files _ => none

/-- What the other side takes from a message. -/
def Message.arrives : Message → Option Clip
  | .messageBox _ _ _ _ => none
  | .cliprdr union => msg2Clip union

/-- What is handed on to the other side. -/
def Clip.Crosses : Clip → Prop
  | .notifyCallback _ _ _ => False
  | .files _ => False
  | _ => True

/-- What crosses arrives as it was sent. -/
theorem Clip.Crosses.arrives {clip : Clip} (crosses : clip.Crosses)
    (metadata : String → Option UInt64) : (clip2Msg metadata clip).arrives = some clip := by
  cases clip with
  | notifyCallback type title text => exact crosses.elim
  | files files => exact crosses.elim
  | _ => rfl

/-- `FILEDESCRIPTOR_FORMAT_ID`. -/
def fileDescriptorFormatId : Int32 := 49334

/-- `FILEDESCRIPTORW_FORMAT_NAME`. -/
def fileDescriptorWFormatName : String := "FileGroupDescriptorW"

/-- `FILECONTENTS_FORMAT_ID`. -/
def fileContentsFormatId : Int32 := 49267

/-- `FILECONTENTS_FORMAT_NAME`. -/
def fileContentsFormatName : String := "FileContents"

/-- `get_format_list`; the map of formats is never changed. -/
def getFormatList : Clip :=
  .formatList [(fileDescriptorFormatId, fileDescriptorWFormatName),
    (fileContentsFormatId, fileContentsFormatName)]

/-- `msg_resp_format_data_failure`. -/
def msgRespFormatDataFailure (metadata : String → Option UInt64) : Message :=
  clip2Msg metadata (.formatDataResponse 0x2 [])

/-- `resp_file_contents_fail`. -/
def respFileContentsFail (metadata : String → Option UInt64) (streamId : Int32) : Message :=
  clip2Msg metadata (.fileContentsResponse 0x2 streamId [])

/-- The message for a result of `read_file_contents`. -/
def contentsMessage (metadata : String → Option UInt64) (streamId : Int32) :
    Except CliprdrError ClipboardFile → Message
  | .ok data => clip2Msg metadata data.clip
  | .error _ => respFileContentsFail metadata streamId

/-- `serve_clip_messages`: the messages that go back, and the copied files after it. -/
def serveClipMessages (metadata : String → Option UInt64) (disk : Disk) (io : Io) (connId : Int32)
    (copied : ClipFiles) : Clip → List Message × ClipFiles
  | .formatList formatList =>
    if formatList.any fun format => format.2 = fileContentsFormatName then
      match formatList.find? fun format => format.2 = fileDescriptorWFormatName with
      | some (fileDescriptorId, _) =>
        ([clip2Msg metadata (.formatDataRequest fileDescriptorId)], copied)
      | none => ([], copied)
    else ([], copied)
  | .formatDataRequest _ =>
    if copied.filesPdu.isEmpty then ([msgRespFormatDataFailure metadata], copied)
    else ([clip2Msg metadata (.formatDataResponse 1 copied.filesPdu)], copied)
  | .fileContentsRequest sent =>
    let (results, served) := readFileContents disk io connId sent copied
    (results.map (contentsMessage metadata sent.streamId), served.clip)
  | _ => ([], copied)

section Exchange

variable {metadata : String → Option UInt64} {disk : Disk} {io : Io} {connId : Int32}

/-- The descriptors that the pasting side gets for a format list: it asks for them, and the side
that copied sends its list. -/
def exchanged (metadata : String → Option UInt64) (disk : Disk) (io : Io) (connId : Int32)
    (copied : ClipFiles) (offered : Clip) : List Clip :=
  let asked := (serveClipMessages metadata disk io connId copied offered).1.filterMap
    Message.arrives
  asked.flatMap fun clip =>
    (serveClipMessages metadata disk io connId copied clip).1.filterMap Message.arrives

/-- The format list that is offered gets the list of the copied files, where there is one. -/
theorem exchanged_getFormatList {copied : ClipFiles} (listed : copied.filesPdu ≠ []) :
    exchanged metadata disk io connId copied getFormatList =
      [.formatDataResponse 1 copied.filesPdu] := by
  have asked : (serveClipMessages metadata disk io connId copied getFormatList).1.filterMap
      Message.arrives = [.formatDataRequest fileDescriptorFormatId] := by
    unfold serveClipMessages getFormatList
    simp [fileDescriptorWFormatName, fileContentsFormatName, clip2Msg, Message.arrives, msg2Clip]
  have sent : (serveClipMessages metadata disk io connId copied
      (.formatDataRequest fileDescriptorFormatId)).1 =
        [clip2Msg metadata (.formatDataResponse 1 copied.filesPdu)] := by
    have sent : ¬ copied.filesPdu.isEmpty = true := fun empty => listed (List.isEmpty_iff.mp empty)
    unfold serveClipMessages
    dsimp only
    rw [if_neg sent]
  unfold exchanged
  rw [asked]
  simp only [List.flatMap_cons, List.flatMap_nil, List.append_nil, sent]
  rfl

end Exchange

/-- Of the results of a request only the last one crosses: a list for the audit does not. -/
theorem readFileContents_arrives (metadata : String → Option UInt64) (disk : Disk) (io : Io)
    (connId : Int32) {sent : ContentsRequest} {request : FileContentsRequest}
    (decoded : sent.decode = .ok request) (copied : ClipFiles) :
    let served := copied.serveFileContents connId io request
    (serveClipMessages metadata disk io connId copied (.fileContentsRequest sent)).2 =
        served.clip ∧
      (serveClipMessages metadata disk io connId copied
          (.fileContentsRequest sent)).1.filterMap Message.arrives =
        match served.outcome with
        | .ok response => (clip2Msg metadata response.clip).arrives.toList
        | .error _ => [.fileContentsResponse 0x2 sent.streamId []]
        | .aborted => [] := by
  have audit : ∀ files, ((copied.getFilesForAudit disk request).toList.map
      (Except.ok (ε := CliprdrError))) = files →
      (files.map (contentsMessage metadata sent.streamId)).filterMap Message.arrives = [] := by
    rintro files rfl
    cases listed : copied.getFilesForAudit disk request with
    | none => rfl
    | some response =>
      have shape : ∃ files, response = .files files := by
        unfold ClipFiles.getFilesForAudit at listed
        split at listed
        · split at listed
          · dsimp only at listed
            split at listed
            · cases listed
            · exact ⟨_, (Option.some.inj listed).symm⟩
          · cases listed
        · cases listed
      obtain ⟨files, rfl⟩ := shape
      simp [contentsMessage, ClipboardFile.clip, clip2Msg, Message.arrives, msg2Clip]
  have quiet := audit _ rfl
  dsimp only
  unfold serveClipMessages readFileContents
  dsimp only
  rw [decoded]
  dsimp only
  cases ended : (copied.serveFileContents connId io request).outcome with
  | ok response =>
    dsimp only
    refine ⟨rfl, ?_⟩
    rw [List.map_append, List.filterMap_append, quiet, List.nil_append]
    cases arrival : (clip2Msg metadata response.clip).arrives with
    | none => simp [contentsMessage, arrival]
    | some clip => simp [contentsMessage, arrival]
  | error e =>
    dsimp only
    refine ⟨rfl, ?_⟩
    rw [List.map_append, List.filterMap_append, quiet, List.nil_append]
    rfl
  | aborted => exact ⟨rfl, rfl⟩

end ChainRemote.Clipboard
