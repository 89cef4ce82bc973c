import ChainRemote.Lib.Machine
import ChainRemote.Link.SecureConnection
import ChainRemote.Server.RestartGrace

/-!
# The record of failed direct connections

A peer that could not be reached directly gets a narrower window from then on. So that a peer is not
caught in it, `src/chainremote_direct.rs` lets the record lapse: after six hours one connection
ignores it. The time of the last judgement is in the peer's file, under a key of `ui_flutter`.

Each session has its own copy of the file, which it loads when it opens and whenever it saves. The
theorem is about sessions that follow one another, as two that are open at once may each let the
record lapse. `entries` is history.
-/

namespace ChainRemote.Link.DirectRetry

open Lib Agent Server SecureConnection

/-- `RETRY_AFTER_SECS`. -/
def retryAfterSecs : Nat := 6 * 60 * 60

/-- `KEY`. -/
def stampKey : String := "cr-direct-fail-at"

/-- `PeerConfig`, as far as the record goes. -/
structure PeerConfig where
  directFailures : Int
  uiFlutter : String → Option (List Char)

namespace PeerConfig

/-- `HashMap::insert` and `remove`. -/
def setUi (config : PeerConfig) (key : String) (value : Option (List Char)) : PeerConfig :=
  { config with uiFlutter := Function.update config.uiFlutter key value }

/-- `stamp`. -/
def stamp (config : PeerConfig) (now : Seconds) (keep : Bool) : PeerConfig :=
  config.setUi stampKey (if keep then some (Nat.toDigits 10 now.val) else none)

/-- The time of the stamp, where it can be read. -/
def stampedAt (config : PeerConfig) : Option Nat :=
  (config.uiFlutter stampKey).bind fun text =>
    let digits := withoutPlus text
    if isDigits digits && digitsValue digits < 2 ^ 64 then some (digitsValue digits) else none

/-- `is_retry_due`. -/
def isRetryDue (config : PeerConfig) (now : Seconds) : Bool :=
  match config.stampedAt with
  | none => true
  | some stamped => now.val < stamped || retryAfterSecs ≤ now.val - stamped

/-- `note_direct_retry`, of the file as it is. -/
def noteDirectRetry (config : PeerConfig) (now : Seconds) : PeerConfig := config.stamp now true

/-- `set_direct_failure`, of the file as it is. -/
def setDirectFailure (config : PeerConfig) (value : Int) (now : Seconds) : PeerConfig :=
  { config with directFailures := value }.stamp now (0 < value)

/-- `save_ui_flutter`, of the file as it is. -/
def saveUiFlutter (config : PeerConfig) (key : String) (value : List Char) : PeerConfig :=
  config.setUi key (if value = [] then none else some value)

end PeerConfig

/-- A judgement about the peer. -/
inductive Entry
  /-- The record lapsed for one connection. -/
  | retry (seconds : Nat)
  /-- The record was made. -/
  | failed (seconds : Nat)
  /-- The record was removed. -/
  | direct
deriving DecidableEq

/-- A peer's file and the sessions with their copies of it. -/
structure State where
  now : Seconds
  file : PeerConfig
  sessions : Nat → Option PeerConfig
  entries : List Entry

/-- What a session does; nothing is awaited within. -/
inductive Event
  | clock (now : Seconds)
  /-- `initialize`. -/
  | opens (id : Nat)
  | closes (id : Nat)
  /-- `connect` chooses its window. -/
  | connect (id : Nat) (request : Request)
  /-- `start` has its connection. -/
  | settle (id : Nat) (direct forceRelay : Bool)
  /-- `save_ui_flutter`. -/
  | saveUi (id : Nat) (key : String) (value : List Char)
  /-- `toggle_option` stores the copy as it is. -/
  | store (id : Nat)

namespace State

/-- A session saves the file: its copy is what it saved. -/
def save (s : State) (id : Nat) (config : PeerConfig) : State :=
  { s with file := config, sessions := Function.update s.sessions id (some config) }

/-- The part of `connect` about the record. -/
def connect (s : State) (id : Nat) (copy : PeerConfig) : State :=
  if 0 < copy.directFailures ∧ copy.isRetryDue s.now = true then
    { s.save id (s.file.noteDirectRetry s.now) with entries := .retry s.now :: s.entries }
  else s

/-- The part of `start` about the record. -/
def settle (s : State) (id : Nat) (copy : PeerConfig) (direct forceRelay : Bool) : State :=
  if forceRelay = false ∧ (copy.directFailures == 0) ≠ direct then
    { s.save id (s.file.setDirectFailure (if direct then 0 else 1) s.now) with
      entries := (if direct then .direct else .failed s.now) :: s.entries }
  else s

end State

/-- The request as `connect` sees it. -/
def seen (s : State) (copy : PeerConfig) (request : Request) : Request :=
  { request with directFailures := copy.directFailures, retryDue := copy.isRetryDue s.now }

/-- The step of an event; `none` where the session is not open. -/
def step (s : State) : Event → Option State
  | .clock now => some { s with now }
  | .opens id => some { s with sessions := Function.update s.sessions id (some s.file) }
  | .closes id => some { s with sessions := Function.update s.sessions id none }
  | .connect id _ => (s.sessions id).map (s.connect id)
  | .settle id direct forceRelay => (s.sessions id).map (s.settle id · direct forceRelay)
  | .saveUi id key value => (s.sessions id).map fun _ => s.save id (s.file.saveUiFlutter key value)
  | .store id => (s.sessions id).map fun copy => { s with file := copy }

/-- The sessions with a peer, whatever is in its file at first. -/
def viewer : Machine State Event where
  start s := s.sessions = (fun _ => none) ∧ s.entries = []
  step := step

/-- One session at a time; the clock does not go back, and nothing else uses the key. -/
def Orderly (s : State) : Event → Prop
  | .clock now => s.now ≤ now
  | .opens _ => ∀ id, s.sessions id = none
  | .saveUi _ key _ => key ≠ stampKey
  | _ => True

/-- How a judgement follows the one before. -/
def Follows : Entry → Entry → Prop
  | .retry later, .retry earlier | .retry later, .failed earlier =>
    earlier + retryAfterSecs ≤ later
  | .failed _, .direct | .direct, .retry _ | .direct, .failed _ => True
  | _, _ => False

/-- The file tells the last judgement. -/
def Tells (file : PeerConfig) (now : Seconds) : List Entry → Prop
  | .retry last :: _ | .failed last :: _ =>
    0 < file.directFailures ∧ file.stampedAt = some last ∧ last ≤ now.val
  | .direct :: _ => file.directFailures = 0
  | [] => True

/-- What orderly runs keep. -/
structure Sound (s : State) : Prop where
  fresh : ∀ id copy, s.sessions id = some copy → copy = s.file
  single : ∀ id other copy copy', s.sessions id = some copy → s.sessions other = some copy' →
    id = other
  tells : Tells s.file s.now s.entries
  chain : s.entries.IsChain Follows

/-- A stamp can be read back. -/
theorem stampedAt_stamp (config : PeerConfig) (now : Seconds) :
    (config.stamp now true).stampedAt = some now.val := by
  have digits := isDigits_toDigits now.val
  have fits : now.val < 2 ^ 64 := Nat.lt_trans now.isLt (by decide)
  unfold PeerConfig.stampedAt PeerConfig.stamp PeerConfig.setUi
  dsimp only
  rw [Function.update_self, if_pos rfl, Option.bind_some]
  rw [withoutPlus_of_isDigits digits, digits, digitsValue_toDigits, decide_eq_true fits]
  rfl

/-- Another key leaves the stamp alone. -/
theorem stampedAt_saveUiFlutter (config : PeerConfig) {key : String} (value : List Char)
    (other : key ≠ stampKey) : (config.saveUiFlutter key value).stampedAt = config.stampedAt := by
  unfold PeerConfig.stampedAt PeerConfig.saveUiFlutter PeerConfig.setUi
  dsimp only
  rw [Function.update_of_ne other.symm]

/-- A stamp of the past lapses after six hours. -/
theorem isRetryDue_iff {config : PeerConfig} {now : Seconds} {last : Nat}
    (stamped : config.stampedAt = some last) (past : last ≤ now.val) :
    config.isRetryDue now = true ↔ last + retryAfterSecs ≤ now.val := by
  unfold PeerConfig.isRetryDue
  rw [stamped]
  dsimp only
  rw [Bool.or_eq_true, decide_eq_true_eq, decide_eq_true_eq]
  omega

/-- The judgements tell the same of a file that keeps the record. -/
theorem Tells.keeps {file other : PeerConfig} {now later : Seconds} {entries : List Entry}
    (tells : Tells file now entries) (failures : other.directFailures = file.directFailures)
    (stamped : other.stampedAt = file.stampedAt) (forward : now ≤ later) :
    Tells other later entries := by
  have forward : now.val ≤ later.val := forward
  rcases entries with _ | ⟨last | last | _, rest⟩
  · trivial
  · exact ⟨failures ▸ tells.1, stamped ▸ tells.2.1, Nat.le_trans tells.2.2 forward⟩
  · exact ⟨failures ▸ tells.1, stamped ▸ tells.2.1, Nat.le_trans tells.2.2 forward⟩
  · exact failures.trans tells

/-- A retry follows a judgement that is six hours old. -/
theorem Tells.retry {file : PeerConfig} {now : Seconds} {entries : List Entry}
    (tells : Tells file now entries) (chain : entries.IsChain Follows)
    (failed : 0 < file.directFailures) (due : file.isRetryDue now = true) :
    (Entry.retry now :: entries).IsChain Follows := by
  rcases entries with _ | ⟨last | last | _, rest⟩
  · exact List.IsChain.singleton _
  · exact List.isChain_cons_cons.mpr ⟨(isRetryDue_iff tells.2.1 tells.2.2).mp due, chain⟩
  · exact List.isChain_cons_cons.mpr ⟨(isRetryDue_iff tells.2.1 tells.2.2).mp due, chain⟩
  · have none : file.directFailures = 0 := tells
    omega

/-- A record is made where there is none, and removed where there is one. -/
theorem Tells.settle {file : PeerConfig} {now : Seconds} {entries : List Entry} {direct : Bool}
    (tells : Tells file now entries) (chain : entries.IsChain Follows)
    (changes : (file.directFailures == 0) ≠ direct) :
    ((if direct then Entry.direct else .failed now) :: entries).IsChain Follows := by
  rcases entries with _ | ⟨last, rest⟩
  · exact List.IsChain.singleton _
  refine List.isChain_cons_cons.mpr ⟨?_, chain⟩
  have recorded : ∀ {d : Int}, 0 < d → (d == 0) = false :=
    fun positive => beq_false_of_ne (Int.ne_of_gt positive)
  cases last with
  | retry last =>
    rw [recorded tells.1] at changes
    cases direct
    · exact absurd rfl changes
    · trivial
  | failed last =>
    rw [recorded tells.1] at changes
    cases direct
    · exact absurd rfl changes
    · trivial
  | direct =>
    have none : file.directFailures = 0 := tells
    rw [none] at changes
    cases direct
    · trivial
    · exact absurd rfl changes

namespace Sound

/-- After a session saved the file, its copy is the only one. -/
theorem save {s : State} (sound : Sound s) {id : Nat} {copy config : PeerConfig}
    (mine : s.sessions id = some copy) {entries : List Entry}
    (tells : Tells config s.now entries) (chain : entries.IsChain Follows) :
    Sound { s.save id config with entries } := by
  have others : ∀ other copy', Function.update s.sessions id (some config) other = some copy' →
      other = id := by
    intro other copy' has
    by_cases same : other = id
    · exact same
    · rw [Function.update_of_ne same] at has
      exact sound.single other id copy' copy has mine
  refine ⟨?_, ?_, tells, chain⟩
  · intro other copy' has
    have same := others other copy' has
    change Function.update s.sessions id (some config) other = some copy' at has
    rw [same, Function.update_self] at has
    exact (Option.some.inj has).symm
  · intro one other _ _ has has'
    exact (others one _ has).trans (others other _ has').symm

/-- Every step of an orderly run leaves the file telling. -/
theorem step {s t : State} {e : Event} (sound : Sound s) (orderly : Orderly s e)
    (next : DirectRetry.step s e = some t) : Sound t := by
  cases e with
  | clock now =>
    cases next
    exact ⟨sound.fresh, sound.single, sound.tells.keeps rfl rfl orderly, sound.chain⟩
  | opens id =>
    cases next
    have mine : ∀ other copy, Function.update s.sessions id (some s.file) other = some copy →
        other = id ∧ copy = s.file := by
      intro other copy has
      by_cases same : other = id
      · rw [same, Function.update_self] at has
        exact ⟨same, (Option.some.inj has).symm⟩
      · rw [Function.update_of_ne same, orderly other] at has
        cases has
    exact ⟨fun other copy has => (mine other copy has).2,
      fun one other _ _ has has' => (mine one _ has).1.trans (mine other _ has').1.symm,
      sound.tells, sound.chain⟩
  | closes id =>
    cases next
    have before : ∀ other copy, Function.update s.sessions id none other = some copy →
        s.sessions other = some copy := by
      intro other copy has
      by_cases same : other = id
      · rw [same, Function.update_self] at has
        cases has
      · rwa [Function.update_of_ne same] at has
    exact ⟨fun other copy has => sound.fresh other copy (before other copy has),
      fun one other _ _ has has' => sound.single one other _ _ (before _ _ has) (before _ _ has'),
      sound.tells, sound.chain⟩
  | connect id request =>
    obtain ⟨copy, mine, rfl⟩ := Option.map_eq_some_iff.mp next
    unfold State.connect
    split_ifs with lapsed
    · rw [sound.fresh id copy mine] at lapsed
      have stamped : Tells (s.file.noteDirectRetry s.now) s.now (.retry s.now :: s.entries) :=
        ⟨lapsed.1, stampedAt_stamp _ _, Nat.le_refl _⟩
      exact sound.save mine stamped (sound.tells.retry sound.chain lapsed.1 lapsed.2)
    · exact sound
  | settle id direct forceRelay =>
    obtain ⟨copy, mine, rfl⟩ := Option.map_eq_some_iff.mp next
    unfold State.settle
    by_cases changes : forceRelay = false ∧ (copy.directFailures == 0) ≠ direct
    · rw [if_pos changes]
      rw [sound.fresh id copy mine] at changes
      have chain := sound.tells.settle sound.chain changes.2
      refine sound.save mine ?_ chain
      cases direct
      · exact ⟨Int.zero_lt_one, stampedAt_stamp _ _, Nat.le_refl _⟩
      · rfl
    · rw [if_neg changes]
      exact sound
  | saveUi id key value =>
    obtain ⟨copy, mine, rfl⟩ := Option.map_eq_some_iff.mp next
    exact sound.save mine
      (sound.tells.keeps rfl (stampedAt_saveUiFlutter _ _ orderly) (Fin.le_refl _)) sound.chain
  | store id =>
    obtain ⟨copy, mine, rfl⟩ := Option.map_eq_some_iff.mp next
    rw [sound.fresh id copy mine]
    exact sound

theorem initial {s : State} (begins : viewer.start s) : Sound s := by
  obtain ⟨none, nothing⟩ := begins
  refine ⟨?_, ?_, ?_, ?_⟩
  · intro id copy has
    rw [none] at has
    cases has
  · intro id other copy copy' has
    rw [none] at has
    cases has
  · rw [nothing]
    trivial
  · rw [nothing]
    exact List.IsChain.nil

end Sound

/-- Whether a judgement is old enough to be ignored. -/
def Entry.Lapsed (now : Seconds) : Entry → Prop
  | .retry last | .failed last => last + retryAfterSecs ≤ now.val
  | .direct => True

/-- A connection ignores the record exactly where the last judgement is old enough. -/
theorem Sound.failures {s : State} (sound : Sound s) {id : Nat} {copy : PeerConfig}
    (mine : s.sessions id = some copy) (request : Request) {last : Entry}
    (known : s.entries.head? = some last) :
    (seen s copy request).failures = 0 ↔ last.Lapsed s.now := by
  have tells := sound.tells
  rw [sound.fresh id copy mine]
  unfold Request.failures seen
  rcases entries : s.entries with _ | ⟨entry, rest⟩ <;> rw [entries] at known tells
  · cases known
  cases known
  have recorded : 0 < s.file.directFailures → ∀ seconds,
      (s.file.isRetryDue s.now = true ↔ seconds + retryAfterSecs ≤ s.now.val) →
      ((if 0 < s.file.directFailures ∧ s.file.isRetryDue s.now = true then 0
        else s.file.directFailures) = 0 ↔ seconds + retryAfterSecs ≤ s.now.val) := by
    intro positive seconds due
    rw [← due]
    split_ifs with lapsed
    · exact ⟨fun _ => lapsed.2, fun _ => rfl⟩
    · exact ⟨fun none => absurd none (Int.ne_of_gt positive),
        fun isDue => absurd ⟨positive, isDue⟩ lapsed⟩
  cases last with
  | retry seconds => exact recorded tells.1 seconds (isRetryDue_iff tells.2.1 tells.2.2)
  | failed seconds => exact recorded tells.1 seconds (isRetryDue_iff tells.2.1 tells.2.2)
  | direct =>
    have none : s.file.directFailures = 0 := tells
    rw [none]
    exact ⟨fun _ => trivial, fun _ => rfl⟩

/-- A record makes the window no wider, but beyond the widest there is. -/
theorem punchWindow_le (request : Request) (failures : Int) (due : Bool) :
    min { request with directFailures := failures, retryDue := due }.punchWindow directWindowMs ≤
      { request with directFailures := 0 }.punchWindow := by
  have full : { request with directFailures := 0 }.failures = 0 := by
    unfold Request.failures
    exact if_neg fun both => absurd both.1 (Int.lt_irrefl 0)
  unfold Request.punchWindow
  rw [full]
  simp only [Int.lt_irrefl, if_false, connectTimeout, directWindowMs]
  by_cases asymmetric : request.peerNatType = .asymmetric
  · simp only [if_pos asymmetric]
    split
    · split_ifs <;> omega
    · decide
    · split_ifs <;> omega
  · simp only [if_neg asymmetric]
    split_ifs <;> omega

/-- A record makes the window no wider. -/
theorem window_le (request : Request) (failures : Int) (due : Bool) :
    { request with directFailures := failures, retryDue := due }.window ≤
      { request with directFailures := 0 }.window := by
  have narrower := punchWindow_le request failures due
  unfold Request.window
  dsimp only
  split_ifs with alone relay
  · exact Nat.le_refl _
  · exact Nat.le_refl _
  · exact Nat.le_refl _
  · omega

/-- Between two connections that ignore the record of a peer six hours pass, or one reached it
directly; a connection ignores it exactly where the last judgement is that old, or was that the peer
is reached directly. The record never makes a window wider. -/
theorem retries_spaced : viewer.Always Orderly fun s e t =>
    t.entries.IsChain Follows ∧
    ∀ id request copy, e = .connect id request → s.sessions id = some copy →
      (∀ last, s.entries.head? = some last →
        ((seen s copy request).failures = 0 ↔ last.Lapsed s.now)) ∧
      (seen s copy request).window ≤ { request with directFailures := 0 }.window := by
  refine Machine.Always.of_invariant Sound (fun _ => Sound.initial)
    (fun _ _ _ before orderly next => before.step orderly next) ?_
  intro s e t before orderly next
  refine ⟨(before.step orderly next).chain, ?_⟩
  rintro id request copy rfl mine
  exact ⟨fun last known => before.failures mine request known, window_le request _ _⟩

/-- A peer that failed before there were stamps. -/
def old : State where
  now := 0
  file := { directFailures := 1, uiFlutter := fun _ => none }
  sessions := fun _ => none
  entries := []

-- Two sessions at once each ignore the record.
example (request : Request) :
    ([.opens 0, .opens 1, .connect 0 request, .connect 1 request].foldlM step old).map
      State.entries = some [.retry 0, .retry 0] := by
  rfl

end ChainRemote.Link.DirectRetry
