import Mathlib.Data.List.Count
import ChainRemote.Server.LoginThrottle
import ChainRemote.Server.Authorization

/-!
# The rotation of the temporary password

`validate_password` and `check_update_temporary_password` of `server/connection.rs`, over all
connections of a process. The count of the source belongs to the value it was last asked for; the
history says what it should be, the wrong attempts since the value was installed or last accepted.
-/

namespace ChainRemote.Server

open Lib Agent

/-- How a login request fares at the branches of `on_message` that ask for a password. -/
inductive Verdict
  /-- An earlier branch answers it. -/
  | unasked
  /-- `is_recent_session`. -/
  | recent
  /-- It has no password. -/
  | empty
  /-- `check_failure` refuses it. -/
  | refused
  /-- The temporary password is accepted. -/
  | temporary
  /-- Another password is accepted. -/
  | permanent
  /-- It is compared and found wrong. -/
  | wrong
deriving DecidableEq, Repr

/-- A login request comes to the branches that ask for a password. -/
def State.asksPassword (s : State) (w : World) (lr : LoginRequest) : Bool :=
  (w.errMsg = "" || w.errMsg = desktopSessionNotReady) && w.addressed lr.username &&
    !(s.fileTransfer && w.hasActiveRemoteSession lr.myId) &&
    !w.consumeRestartReconnectGrace lr.myId && !(isOpen w.now w.schedWindow).1 &&
    !decide (w.approveMode = .click ∧ w.allowLogonScreenPassword = false ∨
      w.approveMode = .both ∧ w.hasValidPassword = false)

/-- The branch that answers a login request. -/
def State.verdict (hash : Hash) (s : State) (w : World) (lr : LoginRequest) : Verdict :=
  if !s.asksPassword w lr then .unasked
  else if w.isRecentSession hash lr false then .recent
  else if lr.password = [] then .empty
  else if !w.checkFailure 0 then .refused
  else if w.temporaryEnabled && lr.validatePasswordPlain hash w.temporaryPassword then .temporary
  else if w.validatePassword hash lr w.allowLogonScreenPassword then .permanent
  else .wrong

/-- What the branches do to the connection. -/
theorem decideLogin_verdict {hash : Hash} {s : State} {w : World} {lr : LoginRequest}
    (asked : s.asksPassword w lr = true) :
    s.decideLogin hash w lr =
      match s.verdict hash w lr with
      | .recent => s.accept hash w lr [.recentSession]
      | .temporary | .permanent => s.accept hash w lr [.password]
      | .unasked | .refused => (s, true)
      | .empty | .wrong => (if w.errMsg = "" then { s with shown := some lr } else s, true) := by
  unfold State.verdict
  have here : (!s.asksPassword w lr) = false := by rw [asked]; rfl
  rw [here, if_neg Bool.false_ne_true]
  unfold State.asksPassword at asked
  simp only [Bool.and_eq_true, Bool.or_eq_true, decide_eq_true_eq, Bool.not_eq_true'] at asked
  obtain ⟨⟨⟨⟨⟨ready, addressed⟩, files⟩, grace⟩, scheduled⟩, click⟩ := asked
  have ready' : ¬ (w.errMsg ≠ "" ∧ w.errMsg ≠ desktopSessionNotReady) := by
    intro other
    rcases ready with empty | waiting
    · exact other.1 empty
    · exact other.2 waiting
  have click' := of_decide_eq_false click
  unfold State.decideLogin
  rw [if_neg ready', addressed, files, grace, scheduled, if_neg click']
  simp only [Bool.not_true, Bool.false_eq_true, if_false]
  by_cases recent : w.isRecentSession hash lr false = true
  · rw [if_pos recent, if_pos recent]
  rw [if_neg recent, if_neg recent]
  by_cases empty : lr.password = []
  · rw [if_pos empty, if_pos empty]
  rw [if_neg empty, if_neg empty]
  by_cases refused : (!w.checkFailure 0) = true
  · rw [if_pos refused, if_pos refused]
  rw [if_neg refused, if_neg refused]
  by_cases temporary :
      (w.temporaryEnabled && lr.validatePasswordPlain hash w.temporaryPassword) = true
  · have valid : w.validatePassword hash lr w.allowLogonScreenPassword = true := by
      unfold World.validatePassword
      rw [temporary, Bool.true_or]
    rw [if_pos temporary, if_pos valid]
  rw [if_neg temporary]
  by_cases valid : w.validatePassword hash lr w.allowLogonScreenPassword = true
  · rw [if_pos valid, if_pos valid]
  · rw [if_neg valid, if_neg valid]

end ChainRemote.Server

namespace ChainRemote.Server.TemporaryPassword

open Lib Agent

/-- `TEMPORARY_PASSWORD_FAILURES`. -/
structure Tracker where
  password : String
  failures : Nat
deriving DecidableEq, Repr

/-- `MAX_CONSECUTIVE_FAILURES`. -/
def maxConsecutiveFailures : Nat := 10

/-- `check_update_temporary_password`, where the next draw of `update_temporary_password` is
`draw`: the count, and the new password where it is rotated. -/
def checkUpdateTemporaryPassword (enabled : Bool) (current draw : String) (tracker : Tracker)
    (success : Bool) : Tracker × Option String :=
  if !enabled then (tracker, none)
  else if current = "" then (tracker, none)
  else
    let tracker := if tracker.password ≠ current then { password := current, failures := 0 }
      else tracker
    if success then ({ tracker with failures := 0 }, none)
    else
      let tracker := { tracker with failures := tracker.failures + 1 }
      if tracker.failures < maxConsecutiveFailures then (tracker, none)
      else ({ password := draw, failures := 0 }, some draw)

/-- What counts in the history of the temporary password. -/
inductive Mark
  /-- A password was compared and found wrong, while a temporary password was in use or not. -/
  | wrong (inUse : Bool)
  /-- `validate_password` accepted the temporary password. -/
  | presented
  /-- `update_temporary_password` installed a value. -/
  | installed
deriving DecidableEq, Repr

/-- What the connections of a process share, and the history, the newest first. -/
structure Process where
  temporaryPassword : String
  tracker : Tracker
  /-- `LOGIN_FAILURES[0]`. -/
  failures : LoginThrottle.Failures
  /-- `SESSIONS`. -/
  sessions : SessionKey → Option Session
  log : List Mark

/-- A login request on a connection, and what is read and drawn then. -/
structure Login where
  hash : Hash
  conn : State
  world : World
  lr : LoginRequest
  /-- The address of the peer. -/
  ip : String
  /-- Milliseconds since the epoch. -/
  millis : Nat
  /-- The next draw of `update_temporary_password`. -/
  draw : String

/-- What happens in a process. The modes are those of a login's world, so they may be switched
between any two. -/
inductive Event
  | login (login : Login)
  /-- `update_temporary_password`, after a connection or from the user's window. -/
  | update (draw : String)
  /-- Sessions time out, are closed, or are told of a second factor. -/
  | sessions (sessions : SessionKey → Option Session)

/-- The wrong attempts, made while a temporary password was in use, since it was installed or last
accepted. -/
def wrongSince (log : List Mark) : Nat :=
  (log.takeWhile fun m => m != .presented && m != .installed).count (.wrong true)

section Steps

-- `Ipv6Addr::from_str`
variable (fromStr : String → Option (BitVec 128))

/-- The world of a login, with what the process keeps. -/
def Process.world (s : Process) (login : Login) : World :=
  { login.world with
    temporaryPassword := s.temporaryPassword
    sessions := s.sessions
    checkFailure := fun i =>
      if i = 0 then (LoginThrottle.checkFailure fromStr s.failures login.ip login.millis).isOk
      else login.world.checkFailure i }

/-- The branch that answers a login. -/
def Process.verdict (s : Process) (login : Login) : Verdict :=
  login.conn.verdict login.hash (s.world fromStr login) login.lr

/-- A temporary password is in use. -/
def Process.inUse (s : Process) (login : Login) : Bool :=
  login.world.temporaryEnabled && s.temporaryPassword != ""

/-- `update_failure`, with the result of `check_failure`. -/
def Process.updateFailure (s : Process) (login : Login) (remove : Bool) : LoginThrottle.Failures :=
  match LoginThrottle.checkFailure fromStr s.failures login.ip login.millis with
  | .ok (failure, time) =>
    LoginThrottle.updateFailure fromStr s.failures login.ip failure time remove
  | .error _ => s.failures

/-- The password branches of `on_message`. -/
def Process.login (s : Process) (login : Login) : Process :=
  let checkUpdate := checkUpdateTemporaryPassword login.world.temporaryEnabled s.temporaryPassword
    login.draw s.tracker
  match s.verdict fromStr login with
  | .unasked | .recent | .empty | .refused => s
  | .temporary =>
    { s with
      tracker := (checkUpdate true).1
      failures := s.updateFailure fromStr login true
      -- `update_or_insert_session`
      sessions := Function.update s.sessions login.lr.key (some ⟨s.temporaryPassword, false⟩)
      log := .presented :: s.log }
  | .permanent => { s with failures := s.updateFailure fromStr login true }
  | .wrong =>
    { s with
      temporaryPassword := (checkUpdate false).2.getD s.temporaryPassword
      tracker := (checkUpdate false).1
      failures := s.updateFailure fromStr login false
      log := (checkUpdate false).2.toList.map (fun _ => .installed) ++
        .wrong (s.inUse login) :: s.log }

/-- One event. -/
def Process.step (s : Process) : Event → Option Process
  | .login login => some (s.login fromStr login)
  | .update draw => some { s with temporaryPassword := draw, log := .installed :: s.log }
  | .sessions sessions => some { s with sessions }

/-- A process, from its start. -/
def process : Machine Process Event where
  start s := s.tracker = ⟨"", 0⟩ ∧ s.failures = (fun _ => none) ∧ s.sessions = (fun _ => none) ∧
    s.log = []
  step := Process.step fromStr

end Steps

/-- The failures that count for a value. -/
def Tracker.countOf (tracker : Tracker) (current : String) : Nat :=
  if tracker.password = current then tracker.failures else 0

theorem inUse_iff {enabled : Bool} {current : String} :
    (enabled && current != "") = true ↔ enabled = true ∧ current ≠ "" := by
  rw [Bool.and_eq_true, bne_iff_ne]

/-- Without a temporary password nothing is counted. -/
theorem checkUpdate_unused {enabled : Bool} {current : String} (draw : String) (tracker : Tracker)
    (success : Bool) (unused : (enabled && current != "") = false) :
    checkUpdateTemporaryPassword enabled current draw tracker success = (tracker, none) := by
  unfold checkUpdateTemporaryPassword
  cases enabled with
  | false => rfl
  | true =>
    have empty : current = "" := by simpa using unused
    simp [empty]

/-- The temporary password is accepted. -/
theorem checkUpdate_presented {enabled : Bool} {current : String} (draw : String)
    (tracker : Tracker)
    (used : (enabled && current != "") = true) :
    checkUpdateTemporaryPassword enabled current draw tracker true = (⟨current, 0⟩, none) := by
  obtain ⟨rfl, nonempty⟩ := inUse_iff.mp used
  unfold checkUpdateTemporaryPassword
  by_cases same : tracker.password = current
  · simp [nonempty, same]
  · simp [nonempty, same]

/-- A wrong attempt, before the tenth. -/
theorem checkUpdate_counted {enabled : Bool} {current : String} (draw : String) {tracker : Tracker}
    (used : (enabled && current != "") = true) (few : tracker.countOf current < 9) :
    checkUpdateTemporaryPassword enabled current draw tracker false =
      (⟨current, tracker.countOf current + 1⟩, none) := by
  obtain ⟨rfl, nonempty⟩ := inUse_iff.mp used
  unfold Tracker.countOf at few ⊢
  unfold checkUpdateTemporaryPassword maxConsecutiveFailures
  by_cases same : tracker.password = current
  · rw [if_pos same] at few ⊢
    have below : tracker.failures + 1 < 10 := by omega
    simp [nonempty, same, below]
  · simp [nonempty, same]

/-- The tenth wrong attempt. -/
theorem checkUpdate_rotated {enabled : Bool} {current : String} (draw : String) {tracker : Tracker}
    (used : (enabled && current != "") = true) (many : 9 ≤ tracker.countOf current) :
    checkUpdateTemporaryPassword enabled current draw tracker false = (⟨draw, 0⟩, some draw) := by
  obtain ⟨rfl, nonempty⟩ := inUse_iff.mp used
  unfold Tracker.countOf at many
  unfold checkUpdateTemporaryPassword maxConsecutiveFailures
  by_cases same : tracker.password = current
  · rw [if_pos same] at many
    have reached : ¬ tracker.failures + 1 < 10 := by omega
    simp [nonempty, same, reached]
  · rw [if_neg same] at many
    omega

section Runs

variable {fromStr : String → Option (BitVec 128)} {s t : Process}

/-- A wrong attempt counts where a temporary password is in use. -/
theorem wrongSince_wrong (inUse : Bool) (log : List Mark) :
    wrongSince (.wrong inUse :: log) = wrongSince log + if inUse then 1 else 0 := by
  unfold wrongSince
  cases inUse with
  | false => simp
  | true => simp

theorem wrongSince_presented (log : List Mark) : wrongSince (.presented :: log) = 0 := rfl

theorem wrongSince_installed (log : List Mark) : wrongSince (.installed :: log) = 0 := rfl

/-- What every run keeps: the count of the source is at least that of the history, and both are
below ten. -/
structure Process.Sound (s : Process) : Prop where
  few : s.tracker.failures ≤ 9
  counted : wrongSince s.log ≤ s.tracker.countOf s.temporaryPassword

theorem Process.Sound.countOf_le (sound : s.Sound) (current : String) :
    s.tracker.countOf current ≤ 9 := by
  unfold Tracker.countOf
  split
  · exact sound.few
  · exact Nat.zero_le _

/-- The temporary password is accepted only while it is in use. -/
theorem inUse_of_temporary {login : Login} (verdict : s.verdict fromStr login = .temporary) :
    s.inUse login = true := by
  unfold Process.verdict State.verdict at verdict
  iterate 4
    split at verdict
    · cases verdict
  split at verdict
  · rename_i accepted
    obtain ⟨enabled, valid⟩ := Bool.and_eq_true_iff.mp accepted
    have nonempty := (Bool.and_eq_true_iff.mp valid).1
    unfold Process.inUse
    exact Bool.and_eq_true_iff.mpr ⟨enabled, nonempty⟩
  · split at verdict <;> cases verdict

/-- An accepted temporary password ends the count. -/
theorem login_presented {login : Login} (verdict : s.verdict fromStr login = .temporary) :
    (s.login fromStr login).temporaryPassword = s.temporaryPassword ∧
      (s.login fromStr login).tracker = ⟨s.temporaryPassword, 0⟩ ∧
      (s.login fromStr login).log = .presented :: s.log := by
  unfold Process.login
  rw [verdict]
  have checked := checkUpdate_presented login.draw s.tracker (inUse_of_temporary verdict)
  dsimp only
  rw [checked]
  exact ⟨rfl, rfl, rfl⟩

/-- A wrong attempt without a temporary password. -/
theorem login_unused {login : Login} (verdict : s.verdict fromStr login = .wrong)
    (unused : s.inUse login = false) :
    (s.login fromStr login).temporaryPassword = s.temporaryPassword ∧
      (s.login fromStr login).tracker = s.tracker ∧
      (s.login fromStr login).log = .wrong false :: s.log := by
  unfold Process.login
  rw [verdict]
  have checked := checkUpdate_unused login.draw s.tracker false unused
  dsimp only
  rw [checked, unused]
  exact ⟨rfl, rfl, rfl⟩

/-- A wrong attempt that is not the tenth. -/
theorem login_counted {login : Login} (verdict : s.verdict fromStr login = .wrong)
    (used : s.inUse login = true) (few : s.tracker.countOf s.temporaryPassword < 9) :
    (s.login fromStr login).temporaryPassword = s.temporaryPassword ∧
      (s.login fromStr login).tracker =
        ⟨s.temporaryPassword, s.tracker.countOf s.temporaryPassword + 1⟩ ∧
      (s.login fromStr login).log = .wrong true :: s.log := by
  unfold Process.login
  rw [verdict]
  have checked := checkUpdate_counted login.draw used few
  dsimp only
  rw [checked, used]
  exact ⟨rfl, rfl, rfl⟩

/-- The tenth wrong attempt. -/
theorem login_rotated {login : Login} (verdict : s.verdict fromStr login = .wrong)
    (used : s.inUse login = true) (many : 9 ≤ s.tracker.countOf s.temporaryPassword) :
    (s.login fromStr login).temporaryPassword = login.draw ∧
      (s.login fromStr login).tracker = ⟨login.draw, 0⟩ ∧
      (s.login fromStr login).log = .installed :: .wrong true :: s.log := by
  unfold Process.login
  rw [verdict]
  have checked := checkUpdate_rotated login.draw used many
  dsimp only
  rw [checked, used]
  exact ⟨rfl, rfl, rfl⟩

/-- A login that neither presents the temporary password nor is wrong. -/
theorem login_aside {login : Login} (presented : s.verdict fromStr login ≠ .temporary)
    (wrong : s.verdict fromStr login ≠ .wrong) :
    (s.login fromStr login).temporaryPassword = s.temporaryPassword ∧
      (s.login fromStr login).tracker = s.tracker ∧ (s.login fromStr login).log = s.log := by
  unfold Process.login
  cases verdict : s.verdict fromStr login with
  | unasked => exact ⟨rfl, rfl, rfl⟩
  | recent => exact ⟨rfl, rfl, rfl⟩
  | empty => exact ⟨rfl, rfl, rfl⟩
  | refused => exact ⟨rfl, rfl, rfl⟩
  | temporary => exact absurd verdict presented
  | permanent => exact ⟨rfl, rfl, rfl⟩
  | wrong => exact absurd verdict wrong

theorem Process.Sound.login (sound : s.Sound) (login : Login) : (s.login fromStr login).Sound := by
  by_cases presented : s.verdict fromStr login = .temporary
  · obtain ⟨-, tracker, log⟩ := login_presented presented
    constructor
    · rw [tracker]
      exact Nat.zero_le _
    · rw [log, wrongSince_presented]
      exact Nat.zero_le _
  by_cases wrong : s.verdict fromStr login = .wrong
  · by_cases used : s.inUse login = true
    · by_cases few : s.tracker.countOf s.temporaryPassword < 9
      · obtain ⟨password, tracker, log⟩ := login_counted wrong used few
        have counted := sound.counted
        constructor
        · rw [tracker]
          exact few
        · rw [password, tracker, log, wrongSince_wrong, if_pos rfl, Tracker.countOf, if_pos rfl]
          exact Nat.succ_le_succ counted
      · obtain ⟨-, tracker, log⟩ := login_rotated wrong used (Nat.not_lt.mp few)
        constructor
        · rw [tracker]
          exact Nat.zero_le _
        · rw [log, wrongSince_installed]
          exact Nat.zero_le _
    · obtain ⟨password, tracker, log⟩ := login_unused wrong (Bool.not_eq_true _ ▸ used)
      constructor
      · rw [tracker]
        exact sound.few
      · rw [password, tracker, log, wrongSince_wrong]
        exact sound.counted
  · obtain ⟨password, tracker, log⟩ := login_aside presented wrong
    constructor
    · rw [tracker]
      exact sound.few
    · rw [password, tracker, log]
      exact sound.counted

theorem Process.Sound.step {e : Event} (sound : s.Sound) (next : s.step fromStr e = some t) :
    t.Sound := by
  cases e with
  | login login =>
    cases next
    exact sound.login login
  | update draw =>
    cases next
    exact ⟨sound.few, Nat.zero_le _⟩
  | sessions sessions =>
    cases next
    exact ⟨sound.few, sound.counted⟩

theorem sound_of_reaches (reached : (process fromStr).Reaches Machine.free s) : s.Sound := by
  apply reached.invariant Process.Sound
  · rintro before ⟨tracker, -, -, log⟩
    constructor
    · rw [tracker]
      exact Nat.zero_le _
    · rw [log]
      exact Nat.zero_le _
  · exact fun _ _ _ sound _ next => sound.step next

end Runs

/-- In every run, a temporary password has seen at most nine wrong attempts, of those made while
one was in use, since it was installed or last accepted by `validate_password`; the tenth installs
the next draw, and accepting it ends the count. -/
theorem temporary_rotated (fromStr : String → Option (BitVec 128)) (s : Process)
    (reached : (process fromStr).Reaches Machine.free s) :
    wrongSince s.log ≤ 9 ∧ ∀ login,
      (s.verdict fromStr login = .wrong → s.inUse login = true → wrongSince s.log = 9 →
        (s.login fromStr login).temporaryPassword = login.draw ∧
          (s.login fromStr login).log = .installed :: .wrong true :: s.log) ∧
      (s.verdict fromStr login = .temporary →
        (s.login fromStr login).temporaryPassword = s.temporaryPassword ∧
          (s.login fromStr login).tracker = ⟨s.temporaryPassword, 0⟩) := by
  have sound := sound_of_reaches reached
  refine ⟨sound.counted.trans (sound.countOf_le _), fun login => ⟨?_, ?_⟩⟩
  · intro wrong used nine
    have many : 9 ≤ s.tracker.countOf s.temporaryPassword := nine ▸ sound.counted
    obtain ⟨password, -, log⟩ := login_rotated wrong used many
    exact ⟨password, log⟩
  · intro presented
    obtain ⟨password, tracker, -⟩ := login_presented presented
    exact ⟨password, tracker⟩

/-- A process with a temporary password. -/
def started : Process where
  temporaryPassword := "secret"
  tracker := ⟨"", 0⟩
  failures _ := none
  sessions _ := none
  log := []

theorem start_started : (process fun _ => none).start started := ⟨rfl, rfl, rfl, rfl⟩

/-- A login of a peer in a minute, from one address. -/
def attempt (world : World) (myId password : String) (minute : Nat) : Event :=
  .login {
    hash := plainHash
    conn := incoming
    world
    lr := loginOf myId .remote password
    ip := "192.0.2.1"
    millis := minute * 60000
    draw := "fresh" }

/-- The right password, then wrong ones in the minutes after it, and the tenth. -/
def rotated : Process :=
  (process fun _ => none).play Machine.free started
    (attempt quiet "hq1" "secret" 1 ::
      (List.range 9).map fun i => attempt quiet "hq2" "guess" (2 + i))

theorem temporary_rotated_tenth :
    (rotated.login (fun _ => none)
      ⟨plainHash, incoming, quiet, loginOf "hq2" .remote "guess", "192.0.2.1", 660000,
        "fresh"⟩).temporaryPassword = "fresh" := by
  have reached : (process fun _ => none).Reaches Machine.free rotated :=
    ⟨started, start_started, Machine.runs_play _ _ _ _⟩
  exact (((temporary_rotated _ rotated reached).2 _).1 (by decide +kernel) (by decide +kernel)
    (by decide +kernel)).1

/-- The right password, then eleven wrong ones after a switch to the permanent password. -/
def outlived : Process :=
  (process fun _ => none).play Machine.free started
    (attempt quiet "hq1" "secret" 1 ::
      (List.range 11).map fun i =>
        attempt { quiet with temporaryEnabled := false, permanentEnabled := true } "hq2" "guess"
          (2 + i))

/-- The right password, three wrong ones of another peer, and the right one again from the recent
session. -/
def reconnected : Process :=
  (process fun _ => none).play Machine.free started
    [attempt quiet "hq1" "secret" 1, attempt quiet "hq2" "guess" 2, attempt quiet "hq2" "guess" 3,
      attempt quiet "hq2" "guess" 4, attempt quiet "hq1" "secret" 5]

/-- A temporary password outlives wrong attempts that are made while it is not in use, and the
count a presentation from a recent session. -/
theorem temporary_outlived :
    (process fun _ => none).Reaches Machine.free outlived ∧
      outlived.temporaryPassword = "secret" ∧
      outlived.log = List.replicate 11 (.wrong false) ++ [.presented] ∧
      (process fun _ => none).Reaches Machine.free reconnected ∧
      reconnected.tracker = ⟨"secret", 3⟩ :=
  ⟨⟨started, start_started, Machine.runs_play _ _ _ _⟩, by decide +kernel, by decide +kernel,
    ⟨started, start_started, Machine.runs_play _ _ _ _⟩, by decide +kernel⟩

end ChainRemote.Server.TemporaryPassword
