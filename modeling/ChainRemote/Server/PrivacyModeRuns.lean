import ChainRemote.Server.PrivacyMode
import Mathlib.Tactic.ByContra

/-!
# Privacy mode tells what it did

Only a call of the connection itself, or a `turn_off_privacy` for no connection, takes privacy mode
from a connection. An error that a call finds leaves privacy mode as it was or, where another
implementation was put in its place, with nobody; an error that only the wait makes up says
nothing, as the thread goes on.
-/

namespace ChainRemote.Server.PrivacyMode

open Lib

variable {host : Host}

/-- The connection that an event acts for. -/
def State.caller (s : State) : Event → Option Int
  | .sync i _ _ => (s.calls[i]?).map Call.connId
  | .turnOff connId _ => some connId
  | _ => none

/-- At most one connection holds privacy mode. -/
def State.OneHolder (s : State) : Prop := ∀ c d, s.Holds c → s.Holds d → c = d

/-- A connection that no longer holds privacy mode called itself, or privacy mode was turned off
for no connection. -/
def LosesByItself (s : State) (e : Event) (t : State) : Prop :=
  ∀ c, s.Holds c → ¬ t.Holds c →
    s.caller e = some c ∨ s.caller e = some invalidConnId

/-- A call that finds an error does not give privacy mode to its connection, and takes it from its
connection only by putting another implementation in its place, which nobody holds. -/
def FailsAsFound (host : Host) (s : State) (e : Event) (t : State) : Prop :=
  ∀ i settings outcome call, e = .sync i settings outcome → s.calls[i]? = some call →
    (turnOnPrivacySync host settings s.privacyMode call.implKey call.connId outcome).1.failed →
      (¬ s.Holds call.connId → ¬ t.Holds call.connId) ∧
      (s.Holds call.connId → t.Holds call.connId ∨
        (t.privacyMode.map Impl.implKey ≠ s.privacyMode.map Impl.implKey ∧ ∀ d, ¬ t.Holds d))

/-- The last answer to a connection that has no call in progress: after an error it holds privacy
mode only if it did when it called. -/
def State.ToldTruly (c : Int) (s : State) : Prop :=
  (∀ call ∈ s.calls, call.connId ≠ c) → ∀ call answer,
    s.told.find? (fun told => told.1.connId == c) = some (call, answer) → answer.failed →
      s.Holds c → call.held = true

/-- The connection makes one call at a time, and no wait of its calls is cut off. -/
def Patient (c : Int) (s : State) : Event → Prop
  | .call _ connId _ => connId = c → ∀ call ∈ s.calls, call.connId ≠ c
  | .timeout i => ∀ call, s.calls[i]? = some call → call.connId ≠ c
  | _ => True

/-- What a call of the connection in progress knows. -/
def Call.Truthful (s : State) (call : Call) : Prop :=
  match call.stage with
  | .running _ => s.Holds call.connId → call.held = true
  | .finished answer => answer.failed → s.Holds call.connId → call.held = true
  | .abandoned => False

/-- What every run keeps in which the connection is patient. -/
structure Sound (c : Int) (s : State) : Prop where
  once : s.calls.countP (fun call => call.connId == c) ≤ 1
  calls : ∀ call ∈ s.calls, call.connId = c → call.Truthful s
  told : s.ToldTruly c

/-! ## One step -/

section

variable {s t : State} {e : Event} {c : Int}

/-- What a call that gets the lock does. -/
theorem sync_eq_some {i : Nat} {settings : Settings} {outcome : Except String Bool}
    (next : s.sync host i settings outcome = some t) :
    ∃ call, s.calls[i]? = some call ∧ t.told = s.told ∧
      t.privacyMode = (turnOnPrivacySync host settings s.privacyMode call.implKey call.connId
        outcome).2 ∧
      (((∃ deadline, call.stage = .running deadline) ∧
          t.calls = { call with stage := .finished (turnOnPrivacySync host settings s.privacyMode
            call.implKey call.connId outcome).1 } :: s.calls.eraseIdx i) ∨
        (call.stage = .abandoned ∧ t.calls = s.calls.eraseIdx i)) := by
  unfold State.sync at next
  split at next
  · cases next
  · rename_i call chosen
    simp only at next
    split at next
    · rename_i deadline running
      cases next
      exact ⟨call, chosen, rfl, rfl, .inl ⟨⟨deadline, running⟩, rfl⟩⟩
    · rename_i alone
      cases next
      exact ⟨call, chosen, rfl, rfl, .inr ⟨alone, rfl⟩⟩
    · cases next

/-- What a call that returns does. -/
theorem answer_eq_some {i : Nat} (next : s.answer i = some t) :
    ∃ call answer, s.calls[i]? = some call ∧ call.stage = .finished answer ∧
      t = { s with calls := s.calls.eraseIdx i, told := (call, answer) :: s.told } := by
  unfold State.answer at next
  split at next
  · cases next
  · rename_i call chosen
    split at next
    · rename_i answer finished
      cases next
      exact ⟨call, answer, chosen, finished, rfl⟩
    · cases next

/-- What the end of a wait does. -/
theorem timeout_eq_some {i : Nat} (next : s.timeout i = some t) :
    ∃ call answer, s.calls[i]? = some call ∧
      t = { s with calls := { call with stage := .abandoned } :: s.calls.eraseIdx i,
                   told := (call, answer) :: s.told } := by
  unfold State.timeout at next
  split at next
  · cases next
  · rename_i call chosen
    split at next
    · split at next
      · cases next
        exact ⟨call, _, chosen, rfl⟩
      · cases next
    · cases next

/-- A call takes privacy mode from nobody but its own connection. -/
theorem Effect.loses {connId : Int} {after : Answer × Option Impl}
    (effect : Effect s.privacyMode connId after) (here : t.privacyMode = after.2)
    (held : s.Holds c) (lost : ¬ t.Holds c) : connId = c := by
  have before : connIdOf s.privacyMode = c := held.2
  have valid : c ≠ invalidConnId := held.1
  have own : connIdOf s.privacyMode = invalidConnId ∨ connIdOf s.privacyMode = connId := by
    rcases effect with same | ⟨_, _, admitted⟩ | ⟨_, _, admitted⟩
    · have kept : t.privacyMode = s.privacyMode := here.trans same
      exact absurd ⟨valid, (congrArg connIdOf kept).trans before⟩ lost
    · exact admitted
    · exact admitted
  rcases own with nobody | own
  · exact absurd (before.symm.trans nobody) valid
  · exact own.symm.trans before

/-- A call gives privacy mode to nobody but its own connection, and says so. -/
theorem Effect.gains {connId : Int} {after : Answer × Option Impl}
    (effect : Effect s.privacyMode connId after) (here : t.privacyMode = after.2)
    (holds : t.Holds c) (before : ¬ s.Holds c) :
    connId = c ∧ after.1 = some (.ok true) := by
  have now : connIdOf after.2 = c := (congrArg connIdOf here).symm.trans holds.2
  rcases effect with same | ⟨off, _⟩ | ⟨succeeded, on, _⟩
  · exact absurd ⟨holds.1, (congrArg connIdOf same).symm.trans now⟩ before
  · exact absurd (now.symm.trans off) holds.1
  · exact ⟨on.symm.trans now, succeeded⟩

/-- Turning privacy mode off gives it to nobody. -/
theorem turnOff_gains {connId : Int} {outcome : Except String Unit}
    (holds : State.Holds { s with privacyMode := turnOffPrivacy s.privacyMode connId outcome } c) :
    s.Holds c := by
  rcases turnOffPrivacy_effect s.privacyMode connId outcome with same | ⟨off, _⟩
  · exact ⟨holds.1, (congrArg connIdOf same).symm.trans holds.2⟩
  · exact absurd (holds.2.symm.trans off) holds.1

/-- A step takes privacy mode from a connection only on its behalf or for no connection. -/
theorem step_loses (next : step host s e = some t) : LosesByItself s e t := by
  intro c held lost
  cases e with
  | call implKey connId async => cases next; exact absurd held lost
  | sync i settings outcome =>
    obtain ⟨call, chosen, _, here, _⟩ := sync_eq_some next
    have own : call.connId = c := turnOnPrivacySync_effect.loses here held lost
    refine .inl ?_
    show (s.calls[i]?).map Call.connId = some c
    rw [chosen, ← own]
    rfl
  | answer i =>
    obtain ⟨call, answer, _, _, same⟩ := answer_eq_some next
    rw [same] at lost
    exact absurd held lost
  | timeout i =>
    obtain ⟨call, answer, _, same⟩ := timeout_eq_some next
    rw [same] at lost
    exact absurd held lost
  | turnOff connId outcome =>
    cases next
    have before : connIdOf s.privacyMode = c := held.2
    rcases turnOffPrivacy_effect s.privacyMode connId outcome with same | ⟨_, admitted⟩
    · exact absurd ⟨held.1, (congrArg connIdOf same).trans before⟩ lost
    · rcases admitted with nobody | free | own
      · exact .inr (congrArg some nobody)
      · exact absurd (before.symm.trans free) held.1
      · exact .inl (congrArg some (own.symm.trans before))
  | check connId => cases next; exact absurd held lost
  | pass ms => cases next; exact absurd held lost

/-- A call that finds an error leaves privacy mode, or leaves a new implementation off. -/
theorem step_failsAsFound (next : step host s e = some t) : FailsAsFound host s e t := by
  intro i settings outcome call same chosen failed
  subst same
  obtain ⟨found, chosen', _, here, _⟩ := sync_eq_some next
  cases Option.some.inj (chosen.symm.trans chosen')
  have effect : Effect s.privacyMode call.connId (turnOnPrivacySync host settings s.privacyMode
    call.implKey call.connId outcome) := turnOnPrivacySync_effect
  constructor
  · intro before holds
    obtain ⟨_, succeeded⟩ := effect.gains here holds before
    rw [succeeded] at failed
    cases failed
  · intro held
    rcases effect with same | ⟨off, other, _⟩ | ⟨succeeded, _, _⟩
    · have kept : t.privacyMode = s.privacyMode := here.trans same
      exact .inl ⟨held.1, (congrArg connIdOf kept).trans held.2⟩
    · refine .inr ⟨by rw [here]; exact other, ?_⟩
      intro d holds
      have now : connIdOf t.privacyMode = d := holds.2
      rw [here, off] at now
      exact holds.1 now.symm
    · rw [succeeded] at failed
      cases failed

end

/-! ## A patient connection -/

section

variable {s t : State} {c : Int}

/-- A call knows as much where its connection has not gained privacy mode. -/
theorem Call.Truthful.mono {call : Call} (truthful : call.Truthful s)
    (gains : t.Holds call.connId → s.Holds call.connId) : call.Truthful t := by
  unfold Call.Truthful at truthful ⊢
  split at truthful
  · exact fun holds => truthful (gains holds)
  · exact fun failed holds => truthful failed (gains holds)
  · exact truthful

/-- What is not about the calls may change, unless the connection gains privacy mode. -/
theorem Sound.mono (sound : Sound c s) (calls : t.calls = s.calls) (told : t.told = s.told)
    (gains : t.Holds c → s.Holds c) : Sound c t where
  once := by rw [calls]; exact sound.once
  calls := by
    intro call inside own
    rw [calls] at inside
    exact (sound.calls call inside own).mono (by rw [own]; exact gains)
  told := by
    intro idle call answer latest failed holds
    rw [calls] at idle
    rw [told] at latest
    exact sound.told idle call answer latest failed (gains holds)

/-- The only call of the connection leaves none behind. -/
theorem Sound.others (sound : Sound c s) {i : Nat} {call : Call}
    (chosen : s.calls[i]? = some call) (own : call.connId = c) :
    ∀ other ∈ s.calls.eraseIdx i, other.connId ≠ c := by
  have all := (cons_eraseIdx_perm chosen).countP_eq (fun call => call.connId == c)
  have once := sound.once
  rw [List.countP_cons, if_pos (by simpa using own)] at all
  have none' : (s.calls.eraseIdx i).countP (fun call => call.connId == c) = 0 := by omega
  intro other inside same
  exact List.countP_eq_zero.mp none' other inside (by simpa using same)

/-- A call of another connection comes and goes. -/
theorem Sound.replace (sound : Sound c s) (more : List Call) {i : Nat} {call : Call}
    (chosen : s.calls[i]? = some call) (foreign : call.connId ≠ c)
    (others : ∀ other ∈ more, other.connId ≠ c) (calls : t.calls = more ++ s.calls.eraseIdx i)
    (told : t.told.find? (fun told => told.1.connId == c) =
      s.told.find? (fun told => told.1.connId == c))
    (gains : t.Holds c → s.Holds c) : Sound c t where
  once := by
    have none' : more.countP (fun call => call.connId == c) = 0 := by
      refine List.countP_eq_zero.mpr ?_
      intro other inside same
      exact others other inside (by simpa using same)
    have fewer : (s.calls.eraseIdx i).countP (fun call => call.connId == c) ≤
        s.calls.countP (fun call => call.connId == c) :=
      (List.eraseIdx_sublist s.calls i).countP_le
    have once := sound.once
    rw [calls, List.countP_append]
    omega
  calls := by
    intro other inside own
    rw [calls] at inside
    rcases List.mem_append.mp inside with new | old
    · exact absurd own (others other new)
    · exact (sound.calls other (List.mem_of_mem_eraseIdx old) own).mono (by rw [own]; exact gains)
  told := by
    intro idle last answer latest failed holds
    rw [told] at latest
    refine sound.told ?_ last answer latest failed (gains holds)
    intro other inside
    rcases List.mem_cons.mp ((cons_eraseIdx_perm chosen).mem_iff.mpr inside) with rfl | rest
    · exact foreign
    · exact idle other (by rw [calls]; exact List.mem_append_right more rest)

/-- A call of another connection that is answered is not the latest of this one. -/
theorem find?_told {told : List (Call × Answer)} {call : Call} (foreign : call.connId ≠ c)
    (answer : Answer) :
    ((call, answer) :: told).find? (fun told => told.1.connId == c) =
      told.find? (fun told => told.1.connId == c) := by
  rw [List.find?_cons_of_neg]
  simpa using foreign

/-- A new call. -/
theorem Sound.call (sound : Sound c s) {implKey : String} {connId : Int} {async : Bool}
    (admitted : Patient c s (.call implKey connId async))
    (next : step host s (.call implKey connId async) = some t) : Sound c t := by
  cases next
  refine { once := ?_, calls := ?_, told := ?_ }
  · have once := sound.once
    rw [List.countP_cons]
    by_cases own : connId = c
    · have none' : s.calls.countP (fun call => call.connId == c) = 0 := by
        refine List.countP_eq_zero.mpr ?_
        intro other inside same
        exact admitted own other inside (by simpa using same)
      have counted : (if (connId == c) = true then 1 else 0) = 1 := if_pos (by simpa using own)
      show s.calls.countP (fun call => call.connId == c) +
        (if (connId == c) = true then 1 else 0) ≤ 1
      omega
    · rw [if_neg (by simpa using own)]
      exact once
  · intro call inside own
    rcases List.mem_cons.mp inside with rfl | old
    · exact fun holds => decide_eq_true holds
    · exact sound.calls call old own
  · intro idle
    exact sound.told fun call inside => idle call (List.mem_cons_of_mem _ inside)

/-- A call that gets the lock. -/
theorem Sound.sync (sound : Sound c s) {i : Nat} {settings : Settings}
    {outcome : Except String Bool} (next : s.sync host i settings outcome = some t) :
    Sound c t := by
  obtain ⟨call, chosen, told, here, gone⟩ := sync_eq_some next
  by_cases own : call.connId = c
  · have others := sound.others chosen own
    have truthful := sound.calls call (List.mem_of_getElem? chosen) own
    rcases gone with ⟨⟨deadline, running⟩, calls⟩ | ⟨alone, _⟩
    · simp only [Call.Truthful, running] at truthful
      refine { once := ?_, calls := ?_, told := ?_ }
      · have none' : (s.calls.eraseIdx i).countP (fun call => call.connId == c) = 0 := by
          refine List.countP_eq_zero.mpr ?_
          intro other inside same
          exact others other inside (by simpa using same)
        rw [calls, List.countP_cons, none']
        split <;> omega
      · intro other inside same
        rw [calls] at inside
        rcases List.mem_cons.mp inside with rfl | old
        · intro failed holds
          by_cases held : s.Holds call.connId
          · exact truthful held
          · obtain ⟨_, succeeded⟩ := turnOnPrivacySync_effect.gains here holds held
            rw [succeeded] at failed
            cases failed
        · exact absurd same (others other old)
      · intro idle
        rw [calls] at idle
        have foreign := idle _ List.mem_cons_self
        exact absurd own foreign
    · simp only [Call.Truthful, alone] at truthful
  · have gains : t.Holds c → s.Holds c := by
      intro holds
      by_contra before
      exact own (turnOnPrivacySync_effect.gains here holds before).1
    have same := congrArg (List.find? fun told => told.1.connId == c) told
    rcases gone with ⟨_, calls⟩ | ⟨_, calls⟩
    · exact sound.replace [_] chosen own (by simpa using own) calls same gains
    · exact sound.replace [] chosen own (by simp) calls same gains

/-- A call that returns. -/
theorem Sound.answer (sound : Sound c s) {i : Nat} (next : s.answer i = some t) : Sound c t := by
  obtain ⟨call, answer, chosen, finished, rfl⟩ := answer_eq_some next
  by_cases own : call.connId = c
  · have others := sound.others chosen own
    have truthful := sound.calls call (List.mem_of_getElem? chosen) own
    simp only [Call.Truthful, finished, own] at truthful
    refine { once := ?_, calls := ?_, told := ?_ }
    · have fewer : (s.calls.eraseIdx i).countP (fun call => call.connId == c) ≤
          s.calls.countP (fun call => call.connId == c) :=
        (List.eraseIdx_sublist s.calls i).countP_le
      exact Nat.le_trans fewer sound.once
    · intro other inside same
      exact absurd same (others other inside)
    · intro _ last latest found failed holds
      rw [List.find?_cons_of_pos (by simpa using own)] at found
      cases found
      exact truthful failed holds
  · exact sound.replace [] chosen own (by simp) rfl (find?_told own answer) id

/-- A wait that ends. -/
theorem Sound.timeout (sound : Sound c s) {i : Nat} (admitted : Patient c s (.timeout i))
    (next : s.timeout i = some t) : Sound c t := by
  obtain ⟨call, answer, chosen, rfl⟩ := timeout_eq_some next
  have foreign : call.connId ≠ c := admitted call chosen
  exact sound.replace [_] chosen foreign (by simpa using foreign) rfl
    (find?_told foreign answer) id

/-- What one step of such a run keeps. -/
theorem Sound.step {e : Event} (sound : Sound c s) (admitted : Patient c s e)
    (next : step host s e = some t) : Sound c t := by
  cases e with
  | call implKey connId async => exact sound.call admitted next
  | sync i settings outcome => exact sound.sync next
  | answer i => exact sound.answer next
  | timeout i => exact sound.timeout admitted next
  | turnOff connId outcome => cases next; exact sound.mono rfl rfl turnOff_gains
  | check connId => cases next; exact sound
  | pass ms => cases next; exact sound.mono rfl rfl id

end

/-- In every run at most one connection holds privacy mode, no connection loses it through a call
of another one, and a call that finds an error leaves it as it was or, with another implementation
in its place, with nobody. A connection that makes one call at a time, and whose waits are not cut
off, holds privacy mode after an error only if it held it when it called. -/
theorem privacyMode_truthful (c : Int) :
    (machine host).Always Machine.free (fun s e t =>
      t.OneHolder ∧ LosesByItself s e t ∧ FailsAsFound host s e t) ∧
    (machine host).Always (Patient c) (fun _ _ t => t.ToldTruly c) := by
  constructor
  · intro s e t _ _ next
    refine ⟨?_, step_loses next, step_failsAsFound next⟩
    intro a b first second
    exact first.2.symm.trans second.2
  · refine Machine.Always.of_invariant (Sound c) ?_ ?_ ?_
    · intro s started
      obtain ⟨off, idle, silent⟩ := started
      refine { once := by rw [idle]; exact Nat.zero_le 1, calls := ?_, told := ?_ }
      · intro call inside
        rw [idle] at inside
        cases inside
      · intro _ call answer latest
        rw [silent] at latest
        cases latest
    · intro s e t sound admitted next
      exact sound.step admitted next
    · intro s e t sound admitted next
      exact (sound.step admitted next).told

/-- A host with two implementations. -/
def twoImpls : Host where
  creators := ["privacy_mode_impl_mag", "privacy_mode_impl_virtual_display"]
  defaultImpl := "privacy_mode_impl_mag"

/-- Both implementations are supported. -/
def bothSupported : Settings where
  supported := twoImpls.creators
  option := ""

/-- The host before the first call. -/
def switchedOff : State where
  privacyMode := some { implKey := "privacy_mode_impl_mag", preConnId := invalidConnId }
  calls := []
  now := 0
  told := []

/-- Connection 1001 turns privacy mode on and asks for the other implementation, which fails. -/
def failedSwitch : List Event :=
  [.call "privacy_mode_impl_mag" 1001 false, .sync 0 bothSupported (.ok true), .answer 0,
    .call "privacy_mode_impl_virtual_display" 1001 false,
    .sync 0 bothSupported (.error "no_need_privacy_mode_no_physical_displays_tip"), .answer 0]

/-- The thread of connection 1001 turns privacy mode on after the wait. -/
def lateThread : List Event :=
  [.call "privacy_mode_impl_virtual_display" 1001 true, .pass waitMs, .timeout 0,
    .sync 0 bothSupported (.ok true)]

/-- Connection 1001 held privacy mode when it called, was told of an error and holds it no more;
and it did not hold it, was told of an error and holds it all the same. -/
theorem privacyMode_untruthful :
    (∃ s, (machine twoImpls).Reaches Machine.free s ∧ s.calls.isEmpty ∧
      (s.told.head?.any fun told => told.2.failed && told.1.held) ∧ ¬ s.Holds 1001) ∧
    ∃ s, (machine twoImpls).Reaches Machine.free s ∧ s.calls.isEmpty ∧
      (s.told.head?.any fun told => told.2.failed && !told.1.held) ∧ s.Holds 1001 := by
  have started : (machine twoImpls).start switchedOff := ⟨rfl, rfl, rfl⟩
  constructor
  · exact ⟨_, ⟨switchedOff, started, Machine.runs_play _ _ switchedOff failedSwitch⟩,
      by decide +kernel, by decide +kernel, by decide +kernel⟩
  · exact ⟨_, ⟨switchedOff, started, Machine.runs_play _ _ switchedOff lateThread⟩,
      by decide +kernel, by decide +kernel, by decide +kernel⟩

end ChainRemote.Server.PrivacyMode
