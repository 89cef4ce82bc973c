import ChainRemote.Lib.Machine
import ChainRemote.Lib.Rows

/-!
# Privacy mode

`privacy_mode.rs` keeps one implementation of privacy mode behind a lock, and the implementation
keeps the connection that holds it. `turn_on_privacy` looks at the implementation, and then, under
the lock again, switches the implementation if another one is asked for and turns it on; for an
implementation that takes long, a thread does so and the caller waits 7.5 seconds for it.

`held` of a call and `told` are history.
-/

namespace ChainRemote.Server.PrivacyMode

open Lib

/-- `INVALID_PRIVACY_MODE_CONN_ID`. -/
def invalidConnId : Int := 0

/-- `OCCUPIED`. -/
def occupied : String := "Privacy occupied by another one."

/-- `TURN_OFF_OTHER_ID`. -/
def turnOffOtherId : String := "Failed to turn off privacy mode that belongs to someone else."

/-- The milliseconds that a caller waits for the thread. -/
def waitMs : Nat := 7500

/-- What `turn_on_privacy` returns. -/
abbrev Answer := Option (Except String Bool)

/-- The answer is an error. -/
def Answer.failed : Answer → Bool
  | some (.error _) => true
  | _ => false

/-- An implementation of privacy mode. -/
structure Impl where
  implKey : String
  /-- `pre_conn_id`. -/
  preConnId : Int
deriving DecidableEq, Repr

namespace Impl

/-- `PrivacyMode::check_on_conn_id`. -/
def checkOnConnId (impl : Impl) (connId : Int) : Except String Bool :=
  if impl.preConnId = connId then .ok true
  else if impl.preConnId ≠ invalidConnId then .error occupied
  else .ok false

/-- `PrivacyMode::check_off_conn_id`. -/
def checkOffConnId (impl : Impl) (connId : Int) : Except String Unit :=
  if impl.preConnId ≠ invalidConnId ∧ connId ≠ invalidConnId ∧ impl.preConnId ≠ connId then
    .error turnOffOtherId
  else .ok ()

/-- `turn_on_privacy` of an implementation: the connection is kept when it succeeds. -/
def turnOnPrivacy (impl : Impl) (connId : Int) : Except String Bool → Impl
  | .ok true => { impl with preConnId := connId }
  | _ => impl

/-- `turn_off_privacy` of an implementation: the owner is checked first. -/
def turnOffPrivacy (impl : Impl) (connId : Int) (outcome : Except String Unit) : Impl :=
  match impl.checkOffConnId connId, outcome with
  | .ok _, .ok _ => { impl with preConnId := invalidConnId }
  | _, _ => impl

end Impl

/-- What does not change while the host runs. -/
structure Host where
  /-- The keys of `PRIVACY_MODE_CREATOR`. -/
  creators : List String
  /-- `DEFAULT_PRIVACY_MODE_IMPL`. -/
  defaultImpl : String

/-- What a call of `get_supported_impl` meets. -/
structure Settings where
  /-- The keys of `get_supported_privacy_mode_impl`. -/
  supported : List String
  /-- The option `privacy-mode-impl-key`. -/
  option : String

variable (host : Host)

/-- `get_supported_impl`. -/
def getSupportedImpl (settings : Settings) (implKey : String) : String :=
  if implKey ∈ settings.supported then implKey
  else if settings.option ∈ settings.supported then settings.option
  else host.defaultImpl

/-- `is_async_privacy_mode`; `async` is what the implementation says of itself. -/
def isAsyncPrivacyMode (mode : Option Impl) (async : Bool) : Bool :=
  match mode with
  | some _ => async
  | none => false

/-- The second half of `turn_on_privacy_sync`: switch to the implementation and turn it on. The
old implementation is cleared and dropped before the new one is tried. -/
def switchAndTurnOn (mode : Option Impl) (implKey : String) (connId : Int)
    (outcome : Except String Bool) : Answer × Option Impl :=
  let curImplKey := (mode.map Impl.implKey).getD ""
  if curImplKey ≠ implKey then
    if implKey ∈ host.creators then
      let created : Impl := { implKey := implKey, preConnId := invalidConnId }
      (some outcome, some (created.turnOnPrivacy connId outcome))
    else (some (.error ("Unsupported privacy mode: " ++ implKey)), mode)
  else
    match mode with
    | none => (none, none)
    | some impl => (some outcome, some (impl.turnOnPrivacy connId outcome))

/-- `turn_on_privacy_sync`: its answer, and what is behind the lock afterwards. -/
def turnOnPrivacySync (settings : Settings) (mode : Option Impl) (implKey : String) (connId : Int)
    (outcome : Except String Bool) : Answer × Option Impl :=
  let implKey := getSupportedImpl host settings implKey
  match mode with
  | none => switchAndTurnOn host mode implKey connId outcome
  | some impl =>
    match impl.checkOnConnId connId with
    | .ok true =>
      if impl.implKey = implKey then (some (.ok true), mode)
      else switchAndTurnOn host mode implKey connId outcome
    | .error message => (some (.error message), mode)
    | .ok false => switchAndTurnOn host mode implKey connId outcome

/-- `turn_off_privacy`. -/
def turnOffPrivacy (mode : Option Impl) (connId : Int) (outcome : Except String Unit) :
    Option Impl :=
  mode.map fun impl => impl.turnOffPrivacy connId outcome

/-- Where a call of `turn_on_privacy` is. -/
inductive Stage
  /-- Before the lock; with a deadline where the caller waits for a thread. -/
  | running (deadline : Option Nat)
  /-- The lock is released and the caller has not been answered. -/
  | finished (answer : Answer)
  /-- The wait is over and the thread goes on. -/
  | abandoned

/-- A call of `turn_on_privacy`. -/
structure Call where
  implKey : String
  connId : Int
  /-- The connection held privacy mode when it called. -/
  held : Bool
  stage : Stage

/-- A host with its calls in progress. -/
structure State where
  /-- `PRIVACY_MODE`. -/
  privacyMode : Option Impl
  calls : List Call
  /-- The time in milliseconds. -/
  now : Nat
  /-- The calls that were answered, newest first. -/
  told : List (Call × Answer)

namespace State

/-- `get_privacy_mode_conn_id`, with no connection where there is no implementation. -/
def preConnId (s : State) : Int := (s.privacyMode.map Impl.preConnId).getD invalidConnId

/-- The connection holds privacy mode. -/
def Holds (s : State) (connId : Int) : Prop := connId ≠ invalidConnId ∧ s.preConnId = connId

instance (s : State) (connId : Int) : Decidable (s.Holds connId) :=
  inferInstanceAs (Decidable (connId ≠ invalidConnId ∧ s.preConnId = connId))

end State

/-- What can happen next. -/
inductive Event
  /-- `turn_on_privacy` is called; `async` is `is_async_privacy_mode` of the implementation. -/
  | call (implKey : String) (connId : Int) (async : Bool)
  /-- A call runs `turn_on_privacy_sync`; `outcome` is what the implementation returns. -/
  | sync (i : Nat) (settings : Settings) (outcome : Except String Bool)
  /-- A call returns its answer. -/
  | answer (i : Nat)
  /-- The wait for a thread ends without an answer. -/
  | timeout (i : Nat)
  /-- `turn_off_privacy`. -/
  | turnOff (connId : Int) (outcome : Except String Unit)
  /-- `check_on_conn_id`. -/
  | check (connId : Int)
  /-- Time passes. -/
  | pass (ms : Nat)

/-- `turn_on_privacy_sync` of the call at `i`. -/
def State.sync (s : State) (i : Nat) (settings : Settings) (outcome : Except String Bool) :
    Option State :=
  match s.calls[i]? with
  | none => none
  | some call =>
    let after := turnOnPrivacySync host settings s.privacyMode call.implKey call.connId outcome
    match call.stage with
    | .running _ =>
      some { s with
        privacyMode := after.2
        calls := { call with stage := .finished after.1 } :: s.calls.eraseIdx i }
    | .abandoned => some { s with privacyMode := after.2, calls := s.calls.eraseIdx i }
    | .finished _ => none

/-- The call at `i` returns the answer that it has. -/
def State.answer (s : State) (i : Nat) : Option State :=
  match s.calls[i]? with
  | none => none
  | some call =>
    match call.stage with
    | .finished answer =>
      some { s with calls := s.calls.eraseIdx i, told := (call, answer) :: s.told }
    | _ => none

/-- The wait of the call at `i` is over: it answers with the text of that error. -/
def State.timeout (s : State) (i : Nat) : Option State :=
  match s.calls[i]? with
  | none => none
  | some call =>
    match call.stage with
    | .running (some deadline) =>
      if deadline ≤ s.now then
        some { s with
          calls := { call with stage := .abandoned } :: s.calls.eraseIdx i
          told := (call, some (.error "deadline has elapsed")) :: s.told }
      else none
    | _ => none

/-- One event. -/
def step (s : State) : Event → Option State
  | .call implKey connId async =>
    let deadline := if isAsyncPrivacyMode s.privacyMode async then some (s.now + waitMs) else none
    some { s with
      calls := { implKey := implKey, connId := connId, held := s.Holds connId,
                 stage := .running deadline } :: s.calls }
  | .sync i settings outcome => s.sync host i settings outcome
  | .answer i => s.answer i
  | .timeout i => s.timeout i
  | .turnOff connId outcome =>
    some { s with privacyMode := turnOffPrivacy s.privacyMode connId outcome }
  | .check _ => some s
  | .pass ms => some { s with now := s.now + ms }

/-- A host whose privacy mode is off. -/
def Started (s : State) : Prop := s.preConnId = invalidConnId ∧ s.calls = [] ∧ s.told = []

/-- The host. -/
def machine : Machine State Event := { start := Started, step := step host }

/-! ## What a call does -/

section

variable {host}
variable {settings : Settings} {mode : Option Impl} {implKey : String} {connId : Int}
  {outcome : Except String Bool}

/-- The connection behind the lock. -/
def connIdOf (mode : Option Impl) : Int := (mode.map Impl.preConnId).getD invalidConnId

/-- The two ways an implementation is left when it is turned on. -/
theorem Impl.turnOnPrivacy_cases (impl : Impl) (connId : Int) (outcome : Except String Bool) :
    impl.turnOnPrivacy connId outcome = impl ∨
      (outcome = .ok true ∧ (impl.turnOnPrivacy connId outcome).preConnId = connId) := by
  cases outcome with
  | error message => exact .inl rfl
  | ok on =>
    cases on with
    | false => exact .inl rfl
    | true => exact .inr ⟨rfl, rfl⟩

/-- A call leaves what is behind the lock, or leaves a new implementation that is off, or gives
privacy mode to its connection and says so. -/
def Effect (mode : Option Impl) (connId : Int) (after : Answer × Option Impl) : Prop :=
  after.2 = mode ∨
    (connIdOf after.2 = invalidConnId ∧ after.2.map Impl.implKey ≠ mode.map Impl.implKey ∧
      (connIdOf mode = invalidConnId ∨ connIdOf mode = connId)) ∨
    (after.1 = some (.ok true) ∧ connIdOf after.2 = connId ∧
      (connIdOf mode = invalidConnId ∨ connIdOf mode = connId))

/-- The second half has such an effect for a connection that is not shut out. -/
theorem switchAndTurnOn_effect
    (admitted : connIdOf mode = invalidConnId ∨ connIdOf mode = connId) :
    Effect mode connId (switchAndTurnOn host mode implKey connId outcome) := by
  simp only [switchAndTurnOn]
  split
  · rename_i other
    split
    · let created : Impl := { implKey := implKey, preConnId := invalidConnId }
      rcases created.turnOnPrivacy_cases connId outcome with off | ⟨succeeded, on⟩
      · refine .inr (.inl ⟨congrArg Impl.preConnId off, ?_, admitted⟩)
        intro same
        have named : (created.turnOnPrivacy connId outcome).implKey = implKey :=
          congrArg Impl.implKey off
        have key : mode.map Impl.implKey = some implKey := same.symm.trans (congrArg some named)
        exact other (by rw [key]; rfl)
      · exact .inr (.inr ⟨congrArg some succeeded, on, admitted⟩)
    · exact .inl rfl
  · split
    · exact .inl rfl
    · rename_i impl _
      rcases impl.turnOnPrivacy_cases connId outcome with off | ⟨succeeded, on⟩
      · exact .inl (congrArg some off)
      · exact .inr (.inr ⟨congrArg some succeeded, on, admitted⟩)

/-- What `turn_on_privacy_sync` can do. -/
theorem turnOnPrivacySync_effect :
    Effect mode connId (turnOnPrivacySync host settings mode implKey connId outcome) := by
  cases mode with
  | none => exact switchAndTurnOn_effect (.inl rfl)
  | some impl =>
    simp only [turnOnPrivacySync, Impl.checkOnConnId]
    by_cases own : impl.preConnId = connId
    · rw [if_pos own]
      simp only
      split
      · exact .inl rfl
      · exact switchAndTurnOn_effect (.inr own)
    · rw [if_neg own]
      by_cases free : impl.preConnId = invalidConnId
      · rw [if_neg (fun held => held free)]
        exact switchAndTurnOn_effect (.inl free)
      · rw [if_pos free]
        exact .inl rfl

/-- What `turn_off_privacy` can do. -/
theorem turnOffPrivacy_effect (mode : Option Impl) (connId : Int) (outcome : Except String Unit) :
    turnOffPrivacy mode connId outcome = mode ∨
      (connIdOf (turnOffPrivacy mode connId outcome) = invalidConnId ∧
        (connId = invalidConnId ∨ connIdOf mode = invalidConnId ∨ connIdOf mode = connId)) := by
  cases mode with
  | none => exact .inl rfl
  | some impl =>
    simp only [turnOffPrivacy, Option.map_some, Impl.turnOffPrivacy, Impl.checkOffConnId]
    by_cases foreign : impl.preConnId ≠ invalidConnId ∧ connId ≠ invalidConnId ∧
        impl.preConnId ≠ connId
    · rw [if_pos foreign]
      exact .inl rfl
    · rw [if_neg foreign]
      cases outcome with
      | error message => exact .inl rfl
      | ok _ =>
        refine .inr ⟨rfl, ?_⟩
        show connId = invalidConnId ∨ impl.preConnId = invalidConnId ∨ impl.preConnId = connId
        by_cases unowned : impl.preConnId = invalidConnId
        · exact .inr (.inl unowned)
        · by_cases host : connId = invalidConnId
          · exact .inl host
          · by_cases own : impl.preConnId = connId
            · exact .inr (.inr own)
            · exact absurd ⟨unowned, host, own⟩ foreign

end

end ChainRemote.Server.PrivacyMode
