import Mathlib.Logic.Function.Basic
import ChainRemote.Lib.Machine

/-!
# Input typed into a terminal

`terminal_model.dart` of the HQ app. What is typed before the terminal is open is kept in a buffer.
When the response comes that it is open, a loop sends the buffer, and waits after every input until
it is sent; what is typed meanwhile is sent at once.

A step is what runs between two points at which the event loop can run something else. `issued` are
the inputs in the order in which they were given to the session, and `typed` is history.
-/

namespace ChainRemote.Hq.TerminalInput

open Lib

/-- `TerminalModel`, as far as input uses it. -/
structure State where
  terminalOpened : Bool := false
  inputBuffer : List String := []
  /-- The calls of `_processBufferedInputAsync` that wait for a send, with what they send then. -/
  flush : Nat → Option (List String) := fun _ => none
  flushes : Nat := 0
  issued : List String := []
  typed : List String := []

/-- What happens. -/
inductive Event
  /-- Something is typed, for a peer that is Windows or not. -/
  | input (data : String) (isPeerWindows : Bool)
  | opened (success : Bool)
  | closed
  /-- A send that a flush waits for is complete. -/
  | sent (flush : Nat)

/-- What `_handleInput` makes of a newline. -/
def converted (isMobileOrWebMobile isPeerWindows : Bool) (data : String) : String :=
  if isMobileOrWebMobile && isPeerWindows && data == "\n" then "\r" else data

namespace State

variable (s : State)

/-- `_handleInput`. -/
def handleInput (data : String) : State :=
  let s := { s with typed := s.typed ++ [data] }
  if s.terminalOpened then { s with issued := s.issued ++ [data] }
  else { s with inputBuffer := s.inputBuffer ++ [data] }

/-- `_processBufferedInputAsync` up to its first wait. -/
def processBufferedInput : State :=
  let buffer := s.inputBuffer
  let s := { s with inputBuffer := [] }
  match buffer with
  | [] => s
  | data :: rest =>
    { s with
      issued := s.issued ++ [data]
      flush := Function.update s.flush s.flushes (some rest)
      flushes := s.flushes + 1 }

/-- `_handleTerminalOpened`. -/
def handleTerminalOpened (success : Bool) : State :=
  if success then { s with terminalOpened := true }.processBufferedInput else s

/-- `_handleTerminalClosed`. -/
def handleTerminalClosed : State := { s with terminalOpened := false }

/-- `_processBufferedInputAsync` from one wait to the next, or to its end. -/
def goOn (flush : Nat) : Option State :=
  match s.flush flush with
  | none => none
  | some [] => some { s with flush := Function.update s.flush flush none }
  | some (data :: rest) =>
    some { s with
      issued := s.issued ++ [data]
      flush := Function.update s.flush flush (some rest) }

end State

/-- The terminal of the app on a mobile device or another one. -/
def terminal (isMobileOrWebMobile : Bool) : Machine State Event where
  start s := s = {}
  step s
    | .input data isPeerWindows =>
      some (s.handleInput (converted isMobileOrWebMobile isPeerWindows data))
    | .opened success => some (s.handleTerminalOpened success)
    | .closed => some s.handleTerminalClosed
    | .sent flush => s.goOn flush

/-- What was given to the session is what was typed first, and all of it as soon as the terminal is
open and no flush is running. -/
def InOrder (s : State) : Prop :=
  s.issued <+: s.typed ∧
    (s.terminalOpened = true → (∀ flush, s.flush flush = none) → s.issued = s.typed)

/-- Every flush has sent all it had. -/
def Flushed (s : State) : Prop := ∀ flush rest, s.flush flush = some rest → rest = []

/-- Nothing is sent past the rest of a flush: no input is typed into the open terminal, and none is
flushed, before the flushes have sent all they had. -/
def Unhurried (s : State) : Event → Prop
  | .input _ _ => s.terminalOpened = true → Flushed s
  | .opened success => success = true → s.inputBuffer ≠ [] → Flushed s
  | _ => True

/-- At most one flush has something left, and this is what is left of all. -/
structure OneLeft (left : List String) (flush : Nat → Option (List String)) : Prop where
  rest : ∀ i rest, flush i = some rest → rest = [] ∨ rest = left
  one : ∀ i j first second, flush i = some first → flush j = some second → first ≠ [] →
    second ≠ [] → i = j
  waiting : left ≠ [] → ∃ i, flush i = some left

/-- What was typed is what was sent, what one flush has left, and the buffer. -/
structure Lined (left : List String) (s : State) : Prop where
  line : s.typed = s.issued ++ (left ++ s.inputBuffer)
  buffered : s.terminalOpened = true → s.inputBuffer = []
  oneLeft : OneLeft left s.flush
  fresh : ∀ i, s.flushes ≤ i → s.flush i = none

section Lined

variable {s t : State} {left rest : List String} {flush : Nat → Option (List String)} {own : Nat}

/-- Where no other flush has something left, one that is given a rest is the only one. -/
theorem OneLeft.update (others : ∀ i value, i ≠ own → flush i = some value → value = []) :
    OneLeft rest (Function.update flush own (some rest)) := by
  have cases : ∀ i value, Function.update flush own (some rest) i = some value →
      value ≠ [] → i = own ∧ value = rest := by
    intro i value now real
    by_cases same : i = own
    · rw [same, Function.update_self] at now
      exact ⟨same, (Option.some.inj now).symm⟩
    · rw [Function.update_of_ne same] at now
      exact absurd (others i value same now) real
  refine ⟨?_, ?_, fun _ => ⟨own, Function.update_self _ _ _⟩⟩
  · intro i value now
    by_cases none : value = []
    · exact .inl none
    · exact .inr (cases i value now none).2
  · intro i j first second one other real real'
    rw [(cases i first one real).1, (cases j second other real').1]

/-- A flush that ends had nothing left. -/
theorem OneLeft.ends (oneLeft : OneLeft left flush) (there : flush own = some []) :
    OneLeft left (Function.update flush own none) := by
  have kept : ∀ i value, Function.update flush own none i = some value →
      flush i = some value := by
    intro i value now
    by_cases same : i = own
    · rw [same, Function.update_self] at now
      cases now
    · rwa [Function.update_of_ne same] at now
  refine ⟨fun i value now => oneLeft.rest i value (kept i value now), ?_, ?_⟩
  · intro i j first second one other
    exact oneLeft.one i j first second (kept i first one) (kept j second other)
  · intro real
    obtain ⟨i, waits⟩ := oneLeft.waiting real
    refine ⟨i, ?_⟩
    rw [Function.update_of_ne, waits]
    rintro rfl
    exact real (Option.some.inj (waits.symm.trans there))

/-- Flushes that have sent all leave nothing. -/
theorem Lined.nothing (lined : Lined left s) (flushed : Flushed s) : left = [] := by
  by_contra some
  obtain ⟨i, there⟩ := lined.oneLeft.waiting some
  exact some (flushed i left there)

theorem Lined.inOrder (lined : Lined left s) : InOrder s := by
  refine ⟨⟨_, lined.line.symm⟩, ?_⟩
  intro opened idle
  have none : left = [] := lined.nothing fun i rest there => by
    rw [idle i] at there
    cases there
  rw [lined.line, none, lined.buffered opened, List.append_nil, List.append_nil]

theorem Lined.handleInput (lined : Lined left s) {data : String}
    (unhurried : s.terminalOpened = true → Flushed s) : Lined left (s.handleInput data) := by
  have line := lined.line
  unfold State.handleInput
  dsimp only
  by_cases opened : s.terminalOpened = true
  · rw [if_pos opened]
    have none := lined.nothing (unhurried opened)
    refine ⟨?_, lined.buffered, lined.oneLeft, lined.fresh⟩
    rw [none, lined.buffered opened] at line
    dsimp only
    rw [none, lined.buffered opened, line]
    simp
  · rw [if_neg opened]
    refine ⟨?_, fun is => absurd is opened, lined.oneLeft, lined.fresh⟩
    dsimp only
    rw [line, List.append_assoc, List.append_assoc]

/-- A flush starts where no other has something left. -/
theorem Lined.processBufferedInput (lined : Lined left s)
    (unhurried : s.inputBuffer ≠ [] → Flushed s) :
    ∃ left, Lined left { s with terminalOpened := true }.processBufferedInput := by
  have line := lined.line
  unfold State.processBufferedInput
  dsimp only
  cases buffer : s.inputBuffer with
  | nil =>
    rw [buffer] at line
    exact ⟨left, line, fun _ => rfl, lined.oneLeft, lined.fresh⟩
  | cons data rest =>
    have flushed := unhurried (by rw [buffer]; exact List.cons_ne_nil _ _)
    rw [lined.nothing flushed, buffer] at line
    refine ⟨rest, ?_, fun _ => rfl, OneLeft.update fun i value _ => flushed i value, ?_⟩
    · dsimp only
      rw [line, List.nil_append, List.append_nil, List.append_assoc, List.singleton_append]
    · intro i late
      have later : s.flushes + 1 ≤ i := late
      dsimp only
      rw [Function.update_of_ne (by omega)]
      exact lined.fresh i (by omega)

/-- A flush goes on with what it has left. -/
theorem Lined.goOn (lined : Lined left s) (next : s.goOn own = some t) :
    ∃ left, Lined left t := by
  have line := lined.line
  have fresh : ∀ rest value, s.flush own = some rest → ∀ i, s.flushes ≤ i →
      Function.update s.flush own value i = none := by
    intro rest value there i late
    have none := lined.fresh i late
    rw [Function.update_of_ne, none]
    rintro rfl
    cases there.symm.trans none
  unfold State.goOn at next
  split at next
  · cases next
  · rename_i there
    obtain rfl := Option.some.inj next
    exact ⟨left, line, lined.buffered, lined.oneLeft.ends there, fresh _ _ there⟩
  · rename_i data rest there
    obtain rfl := Option.some.inj next
    rcases lined.oneLeft.rest own _ there with none | is
    · cases none
    · refine ⟨rest, ?_, lined.buffered, OneLeft.update ?_, fresh _ _ there⟩
      · dsimp only
        rw [line, ← is, List.append_assoc, List.cons_append, List.singleton_append]
      · intro i value different now
        by_contra real
        exact different (lined.oneLeft.one i own value _ now there real (List.cons_ne_nil _ _))

end Lined

/-- Where nothing is sent past the rest of a flush, the inputs reach the session in the order in
which they were typed, and all of them once the terminal is open and flushed. -/
theorem typed_in_order {isMobileOrWebMobile : Bool} {s : State}
    (reached : (terminal isMobileOrWebMobile).Reaches Unhurried s) : InOrder s := by
  have lined : ∃ left, Lined left s := by
    refine reached.invariant (fun s => ∃ left, Lined left s) ?_ ?_
    · rintro s rfl
      exact ⟨[], rfl, fun _ => rfl, ⟨nofun, nofun, fun real => absurd rfl real⟩, fun _ _ => rfl⟩
    · rintro s e t ⟨left, lined⟩ unhurried next
      cases e with
      | input data isPeerWindows =>
        obtain rfl := Option.some.inj next
        exact ⟨left, lined.handleInput unhurried⟩
      | opened success =>
        obtain rfl := Option.some.inj next
        cases success with
        | false => exact ⟨left, lined⟩
        | true => exact lined.processBufferedInput (unhurried rfl)
      | closed =>
        obtain rfl := Option.some.inj next
        exact ⟨left, lined.line, nofun, lined.oneLeft, lined.fresh⟩
      | sent flush => exact lined.goOn next
  obtain ⟨left, lined⟩ := lined
  exact lined.inOrder

/-- Two inputs, the response, and a third input when the first two are sent. -/
theorem three_in_order :
    ∃ s, (terminal true).Reaches Unhurried s ∧ s.issued = ["a", "b", "\r"] ∧ InOrder s := by
  have run : (terminal true).Runs Unhurried {} _ := .step (.input "a" true) .refl nofun rfl
  have run : (terminal true).Runs Unhurried {} _ := .step (.input "b" true) run nofun rfl
  have run : (terminal true).Runs Unhurried {} _ := .step (.opened true) run nofun rfl
  have run : (terminal true).Runs Unhurried {} _ := .step (.sent 0) run trivial rfl
  have run : (terminal true).Runs Unhurried {} _ := .step (.input "\n" true) run (by
    intro _ i rest there
    cases i with
    | zero => exact (Option.some.inj there).symm
    | succ i => cases there) rfl
  have reached := show (terminal true).Reaches Unhurried _ from ⟨{}, rfl, run⟩
  exact ⟨_, reached, rfl, typed_in_order reached⟩

/-- Two inputs, the response, and a third input while the first one is sent: it is past the
second. -/
theorem third_past_second :
    ∃ s, (terminal false).Reaches Machine.free s ∧ s.typed = ["a", "b", "c"] ∧
      s.issued = ["a", "c"] ∧ ¬ InOrder s := by
  have run := Machine.runs_play (terminal false) Machine.free {}
    [.input "a" false, .input "b" false, .opened true, .input "c" false]
  refine ⟨_, ⟨{}, rfl, run⟩, rfl, rfl, ?_⟩
  intro inOrder
  have first : ["a", "c"] <+: ["a", "b", "c"] := inOrder.1
  exact absurd first (by decide)

end ChainRemote.Hq.TerminalInput
