import ChainRemote.Lib.Machine
import Mathlib.Algebra.Group.Nat.Defs

/-!
# The seat heartbeat of the headquarters app

`chainremote_auth.rs` keeps the token of the login and a counter of refused heartbeats in memory. A
third refusal is taken for an expired token. The counter starts again at a success only, neither at
a login nor at any other outcome, so the three refusals may lie apart.

`outcomes` and `failures` are history: the outcomes since the latest login, the newest first, and
the plain refusals since the last success.
-/

namespace ChainRemote.Hq.SeatHeartbeat

open Lib

/-- What `post_json` returns: an error, or the status code with the body. -/
inductive Answer
  | networkError
  | answered (status : Nat) (body : String)
deriving DecidableEq, Repr

/-- What `serde_json` reads from a body. -/
structure Bodies where
  /-- The token of a `TokenResponse`. -/
  tokenResponse : String → Option String
  /-- The token of an `OkBody`, empty where there is none. -/
  okBody : String → Option String
  /-- The flag of an `R`, false where there is none. -/
  revokedFlag : String → Option Bool

/-- `HeartbeatStatus`. -/
inductive HeartbeatStatus
  | ok
  | revoked
  | expired
  | error
deriving DecidableEq, Repr

/-- `TOKEN` and `EXPIRED_STREAK`. -/
structure Session where
  token : String
  expiredStreak : Nat
deriving DecidableEq, Repr

/-- `(200..300).contains(&status)`. -/
def isSuccess (status : Nat) : Bool := decide (200 ≤ status ∧ status < 300)

/-- `store`. -/
def store (token : String) (session : Session) : Session := { session with token := token }

/-- `logout`. -/
def logout (session : Session) : Session := { session with token := "" }

variable (bodies : Bodies)

/-- The token that a login or a takeover stores. -/
def issued : Answer → Option String
  | .answered status body => if isSuccess status then bodies.tokenResponse body else none
  | .networkError => none

/-- What a login or a takeover leaves. -/
def signIn (answer : Answer) (session : Session) : Session :=
  match issued bodies answer with
  | some token => store token session
  | none => session

/-- `login`. -/
def login (answer : Answer) (session : Session) : Session := signIn bodies answer session

/-- `takeover`. -/
def takeover (answer : Answer) (session : Session) : Session := signIn bodies answer session

/-- `heartbeat`. -/
def heartbeat (answer : Answer) (session : Session) : HeartbeatStatus × Session :=
  if session.token = "" then (.error, session)
  else
    match answer with
    | .networkError => (.error, session)
    | .answered status body =>
      if isSuccess status then
        let session := { session with expiredStreak := 0 }
        match bodies.okBody body with
        | some token => if token ≠ "" then (.ok, store token session) else (.ok, session)
        | none => (.ok, session)
      else if status = 401 then
        if bodies.revokedFlag body = some true then (.revoked, session)
        else
          let streak := (session.expiredStreak + 1) % 2 ^ 32
          (if 3 ≤ streak then .expired else .error, { session with expiredStreak := streak })
      else (.error, session)

/-- The outcome of a heartbeat. -/
inductive Outcome
  | success
  | networkError
  | revoked
  | plain
  | other
deriving DecidableEq, Repr

def outcome : Answer → Outcome
  | .networkError => .networkError
  | .answered status body =>
    if isSuccess status then .success
    else if status = 401 then
      if bodies.revokedFlag body = some true then .revoked else .plain
    else .other

/-- The token that comes with an answer. -/
def sent : Answer → Option String
  | .networkError => none
  | .answered _ body => (bodies.okBody body).filter fun token => decide (token ≠ "")

/-- A call of the module, with the answer of the server. -/
inductive Event
  | login (answer : Answer)
  | takeover (answer : Answer)
  | logout
  | heartbeat (answer : Answer)
deriving DecidableEq, Repr

/-- The session with its history. -/
structure World where
  session : Session
  outcomes : List Outcome
  failures : Nat
deriving DecidableEq, Repr

/-- The world after a login or a takeover. -/
def World.signedIn (w : World) (answer : Answer) (session : Session) : World :=
  match issued bodies answer with
  | some _ => { w with session := session, outcomes := [] }
  | none => { w with session := session }

/-- The plain refusals since the last success. -/
def World.failed (w : World) : Outcome → Nat
  | .success => 0
  | .plain => w.failures + 1
  | _ => w.failures

/-- A step. A heartbeat without a token asks nobody and has no outcome. -/
def step (w : World) : Event → Option World
  | .login answer => some (w.signedIn bodies answer (login bodies answer w.session))
  | .takeover answer => some (w.signedIn bodies answer (takeover bodies answer w.session))
  | .logout => some { w with session := logout w.session }
  | .heartbeat answer =>
    if w.session.token = "" then
      some { w with session := (heartbeat bodies answer w.session).2 }
    else
      some
        { session := (heartbeat bodies answer w.session).2
          outcomes := outcome bodies answer :: w.outcomes
          failures := w.failed (outcome bodies answer) }

/-- The module, from the start of the app. -/
def machine : Machine World Event where
  start w := w = { session := { token := "", expiredStreak := 0 }, outcomes := [], failures := 0 }
  step := step bodies

/-- A heartbeat that says expired is the third plain refusal in a row since the latest login. -/
def ExpiresRightly (w : World) (e : Event) (t : World) : Prop :=
  ∀ answer, e = .heartbeat answer → (heartbeat bodies answer w.session).1 = .expired →
    t.outcomes.take 3 = [.plain, .plain, .plain]

/-- A plain refusal that is at least the third since the last success, as a 32-bit counter counts
them, follows two plain refusals since the latest login. -/
def InARow (w : World) (e : Event) : Prop :=
  ∀ answer, e = .heartbeat answer → w.session.token ≠ "" → outcome bodies answer = .plain →
    3 ≤ (w.failures + 1) % 2 ^ 32 → w.outcomes.take 2 = [.plain, .plain]

section Runs

variable {bodies} {w t : World} {e : Event} {answer : Answer} {session : Session}

theorem heartbeat_signedOut (none : session.token = "") :
    heartbeat bodies answer session = (.error, session) := by
  unfold heartbeat
  rw [if_pos none]

/-- What a heartbeat with a token says and leaves, by its outcome. -/
theorem heartbeat_spec (signedIn : session.token ≠ "") :
    heartbeat bodies answer session =
      match outcome bodies answer with
      | .success =>
        (.ok, { token := (sent bodies answer).getD session.token, expiredStreak := 0 })
      | .plain =>
        (if 3 ≤ (session.expiredStreak + 1) % 2 ^ 32 then .expired else .error,
          { session with expiredStreak := (session.expiredStreak + 1) % 2 ^ 32 })
      | .revoked => (.revoked, session)
      | .networkError => (.error, session)
      | .other => (.error, session) := by
  unfold heartbeat
  rw [if_neg signedIn]
  cases answer with
  | networkError => rfl
  | answered status body =>
    simp only [outcome, sent]
    split
    · cases read : bodies.okBody body with
      | none => rfl
      | some token =>
        by_cases empty : token = ""
        · simp [empty, Option.filter]
        · simp [empty, Option.filter, store]
    · split
      · split
        · rfl
        · rfl
      · rfl

theorem outcome_revoked_iff :
    outcome bodies answer = .revoked ↔
      ∃ body, answer = .answered 401 body ∧ bodies.revokedFlag body = some true := by
  cases answer with
  | networkError => simp [outcome]
  | answered status body =>
    unfold outcome
    by_cases refused : status = 401
    · subst refused
      by_cases flag : bodies.revokedFlag body = some true
      · simp [flag, isSuccess]
      · simp [flag, isSuccess]
    · by_cases fine : isSuccess status = true
      · simp [fine, refused]
      · simp [fine, refused]

/-- The counter holds the plain refusals since the last success. -/
def Counts (w : World) : Prop := w.session.expiredStreak = w.failures % 2 ^ 32

theorem counts_signedIn (counts : Counts w) (answer : Answer) :
    Counts (w.signedIn bodies answer (signIn bodies answer w.session)) := by
  unfold World.signedIn signIn
  cases issued bodies answer with
  | some token => exact counts
  | none => exact counts

theorem counts_step (counts : Counts w) (next : step bodies w e = some t) : Counts t := by
  cases e with
  | login answer =>
    obtain rfl := Option.some.inj next
    exact counts_signedIn counts answer
  | takeover answer =>
    obtain rfl := Option.some.inj next
    exact counts_signedIn counts answer
  | logout =>
    obtain rfl := Option.some.inj next
    exact counts
  | heartbeat answer =>
    simp only [step] at next
    split at next
    · rename_i none
      obtain rfl := Option.some.inj next
      rw [heartbeat_signedOut none]
      exact counts
    · rename_i signedIn
      obtain rfl := Option.some.inj next
      rw [heartbeat_spec signedIn]
      have raised : (w.session.expiredStreak + 1) % 2 ^ 32 = (w.failures + 1) % 2 ^ 32 := by
        rw [counts, Nat.mod_add_mod]
      cases outcome bodies answer with
      | success => exact rfl
      | plain => exact raised
      | networkError => exact counts
      | revoked => exact counts
      | other => exact counts

theorem heartbeat_expired_iff :
    (heartbeat bodies answer session).1 = .expired ↔
      session.token ≠ "" ∧ outcome bodies answer = .plain ∧
        3 ≤ (session.expiredStreak + 1) % 2 ^ 32 := by
  by_cases none : session.token = ""
  · simp [heartbeat_signedOut none, none]
  · rw [heartbeat_spec none]
    cases outcome bodies answer with
    | plain =>
      by_cases third : 3 ≤ (session.expiredStreak + 1) % 2 ^ 32
      · exact iff_of_true (if_pos third) ⟨none, rfl, third⟩
      · refine iff_of_false ?_ fun all => third all.2.2
        dsimp only
        rw [if_neg third]
        exact nofun
    | success => simp
    | networkError => simp
    | revoked => simp
    | other => simp

/-- Revoked is said exactly on a refusal whose body says so. -/
theorem heartbeat_revoked_iff :
    (heartbeat bodies answer session).1 = .revoked ↔
      session.token ≠ "" ∧ ∃ body, answer = .answered 401 body ∧
        bodies.revokedFlag body = some true := by
  rw [← outcome_revoked_iff]
  by_cases none : session.token = ""
  · simp [heartbeat_signedOut none, none]
  · rw [heartbeat_spec none]
    cases outcome bodies answer with
    | plain =>
      dsimp only
      split <;> simp
    | success => simp
    | networkError => simp
    | revoked => simp [none]
    | other => simp

/-- A heartbeat says expired rightly exactly where it is one of three in a row. -/
theorem expiresRightly_iff (counts : Counts w) (next : step bodies w e = some t) :
    ExpiresRightly bodies w e t ↔ InARow bodies w e := by
  have streak : (w.session.expiredStreak + 1) % 2 ^ 32 = (w.failures + 1) % 2 ^ 32 := by
    rw [counts, Nat.mod_add_mod]
  have outcomes : ∀ answer, e = .heartbeat answer → w.session.token ≠ "" →
      t.outcomes = outcome bodies answer :: w.outcomes := by
    rintro answer rfl signedIn
    simp only [step, if_neg signedIn] at next
    obtain rfl := Option.some.inj next
    rfl
  constructor
  · intro right answer asked signedIn plain third
    have three := right answer asked
      (heartbeat_expired_iff.mpr ⟨signedIn, plain, by rw [streak]; exact third⟩)
    rw [outcomes answer asked signedIn, plain, List.take_succ_cons] at three
    exact (List.cons.inj three).2
  · intro inARow answer asked expired
    obtain ⟨signedIn, plain, third⟩ := heartbeat_expired_iff.mp expired
    rw [streak] at third
    rw [outcomes answer asked signedIn, plain, List.take_succ_cons,
      inARow answer asked signedIn plain third]

/-- In every run: a heartbeat says expired only as the third plain refusal in a row since the
latest login, if and only if each that is the third since the last success is one of three in a
row. It says revoked exactly on a refusal whose body says so, and after a success the token is the
one that was sent, or the one before. -/
theorem expiry_judgement (bodies : Bodies) :
    (machine bodies).Always Machine.free (fun w e t =>
      ExpiresRightly bodies w e t ↔ InARow bodies w e) ∧
    (machine bodies).Always (InARow bodies) (ExpiresRightly bodies) ∧
    (∀ answer session, (heartbeat bodies answer session).1 = .revoked ↔
      session.token ≠ "" ∧ ∃ body, answer = .answered 401 body ∧
        bodies.revokedFlag body = some true) ∧
    ∀ status body session, session.token ≠ "" → isSuccess status = true →
      (heartbeat bodies (.answered status body) session).2.token =
        (sent bodies (.answered status body)).getD session.token := by
  have counts : ∀ guard w, (machine bodies).Reaches guard w → Counts w := by
    intro guard w reached
    apply reached.invariant Counts
    · rintro s rfl
      rfl
    · exact fun s e t counts _ next => counts_step counts next
  refine ⟨?_, ?_, fun _ _ => heartbeat_revoked_iff, ?_⟩
  · exact fun w e t reached _ next => expiresRightly_iff (counts _ w reached) next
  · intro w e t reached inARow next
    exact (expiresRightly_iff (counts _ w reached) next).mpr inARow
  · intro status body session signedIn fine
    have success : outcome bodies (.answered status body) = .success := if_pos fine
    rw [heartbeat_spec signedIn, success]

/-- Bodies that are tokens, and refusals without a flag. -/
def plainBodies : Bodies where
  tokenResponse body := some body
  okBody _ := some ""
  revokedFlag _ := some false

/-- Two plain refusals, a new login, and before the next heartbeat. -/
def loggedInAgain : World :=
  (machine plainBodies).play Machine.free
    { session := { token := "", expiredStreak := 0 }, outcomes := [], failures := 0 }
    [.login (.answered 200 "first"), .heartbeat (.answered 401 ""), .heartbeat (.answered 401 ""),
      .login (.answered 200 "second")]

/-- The first refusal after a login is taken for an expired token. -/
theorem first_refusal_expires :
    (machine plainBodies).Reaches Machine.free loggedInAgain ∧
      (heartbeat plainBodies (.answered 401 "") loggedInAgain.session).1 = .expired ∧
      ∃ t, step plainBodies loggedInAgain (.heartbeat (.answered 401 "")) = some t ∧
        t.outcomes = [.plain] ∧
        ¬ ExpiresRightly plainBodies loggedInAgain (.heartbeat (.answered 401 "")) t := by
  have expired :
      (heartbeat plainBodies (.answered 401 "") loggedInAgain.session).1 = .expired := by
    decide +kernel
  refine ⟨⟨_, rfl, Machine.runs_play _ _ _ _⟩, expired, _, rfl, by decide +kernel, ?_⟩
  intro right
  have three := right _ rfl expired
  revert three
  decide +kernel

end Runs

end ChainRemote.Hq.SeatHeartbeat
