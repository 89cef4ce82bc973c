import Mathlib.Logic.Function.Basic

/-!
# Database clients as programs of statements

A client reads the store, sends writes and branches on what comes back. Every statement,
a whole transaction included, runs at one moment; other clients may write between two
statements. `Prog` is such a client, `Exec` its run alone and `Par` its run among others.
A fault is an error that a statement may report without having run.

`Meets` is a rely/guarantee contract of a client, defined by recursion on its program:
whatever the others do within `rely`, each write is within `guar`, and `post` holds of
the last write and the result. `Exec.meets` and `Par.meets` turn a contract into a
statement about runs.
-/

namespace Lib

/-- A client of a store with states `σ`, writes `ω` that return a `ρ`, and errors `ε`. -/
inductive Prog (σ ω ρ ε α : Type)
  /-- Return a value. -/
  | ret (value : α)
  /-- Stop with an error. -/
  | throw (error : ε)
  /-- Look at the store; an error there is not caught. -/
  | read (next : σ → Prog σ ω ρ ε α)
  /-- Send a write and go on with what it returned, or with the error it reported. -/
  | write (stmt : ω) (next : ρ → Prog σ ω ρ ε α) (fail : ε → Prog σ ω ρ ε α)

/-- A write that was carried out, with the store right before and right after it. -/
structure Written (σ ω : Type) where
  stmt : ω
  before : σ
  after : σ

variable {σ ω ρ ε α β ι : Type} (act : ω → σ → Except ε (ρ × σ)) (fault : ε → Prop)

namespace Prog

/-- The run of a program that no other client and no fault disturbs. -/
def run : Prog σ ω ρ ε α → σ → σ × Except ε α
  | .ret value, s => (s, .ok value)
  | .throw error, s => (s, .error error)
  | .read next, s => run (next s) s
  | .write stmt next fail, s =>
    match act stmt s with
    | .ok (out, t) => run (next out) t
    | .error error => run (fail error) s

theorem run_read (next : σ → Prog σ ω ρ ε α) (s : σ) : (read next).run act s = (next s).run act s :=
  rfl

/-- A program that has come to its result. -/
def done : Except ε α → Prog σ ω ρ ε α
  | .ok value => .ret value
  | .error error => .throw error

/-- One statement of a program, with the write it carried out, if any. -/
inductive Step : Prog σ ω ρ ε α → σ → Option (Written σ ω) → Prog σ ω ρ ε α → σ → Prop
  /-- A read sees the store as it is. -/
  | read (next : σ → Prog σ ω ρ ε α) (s : σ) : Step (.read next) s none (next s) s
  /-- A read reports a fault. -/
  | readFault (next : σ → Prog σ ω ρ ε α) (s : σ) (error : ε) (faulty : fault error) :
      Step (.read next) s none (.throw error) s
  /-- A write is carried out. -/
  | write (stmt : ω) (next : ρ → Prog σ ω ρ ε α) (fail : ε → Prog σ ω ρ ε α) (s t : σ) (out : ρ)
      (accepted : act stmt s = .ok (out, t)) :
      Step (.write stmt next fail) s (some ⟨stmt, s, t⟩) (next out) t
  /-- The store refuses a write. -/
  | refused (stmt : ω) (next : ρ → Prog σ ω ρ ε α) (fail : ε → Prog σ ω ρ ε α) (s : σ) (error : ε)
      (refusal : act stmt s = .error error) : Step (.write stmt next fail) s none (fail error) s
  /-- A write reports a fault. -/
  | writeFault (stmt : ω) (next : ρ → Prog σ ω ρ ε α) (fail : ε → Prog σ ω ρ ε α) (s : σ)
      (error : ε) (faulty : fault error) : Step (.write stmt next fail) s none (fail error) s

/-- The run of a program alone: the writes carried out so far, in order, and what is left. -/
inductive Exec (p : Prog σ ω ρ ε α) (s : σ) :
    List (Written σ ω) → Prog σ ω ρ ε α → σ → Prop
  /-- Nothing has run. -/
  | refl : Exec p s [] p s
  /-- One more statement. -/
  | step {log : List (Written σ ω)} {q r : Prog σ ω ρ ε α} {t u : σ} {w : Option (Written σ ω)}
      (before : Exec p s log q t) (next : Step act fault q t w r u) :
      Exec p s (log ++ w.toList) r u

/-- The run of a program among others, with the program's own writes. -/
inductive Par [DecidableEq ι] (p : Prog σ ω ρ ε α) (others : ι → Prog σ ω ρ ε β) (s : σ) :
    List (Written σ ω) → Prog σ ω ρ ε α → (ι → Prog σ ω ρ ε β) → σ → Prop
  /-- Nothing has run. -/
  | refl : Par p others s [] p others s
  /-- One more statement of the program. -/
  | own {log : List (Written σ ω)} {q r : Prog σ ω ρ ε α} {rest : ι → Prog σ ω ρ ε β} {t u : σ}
      {w : Option (Written σ ω)} (before : Par p others s log q rest t)
      (next : Step act fault q t w r u) : Par p others s (log ++ w.toList) r rest u
  /-- One more statement of another client. -/
  | other {log : List (Written σ ω)} {q : Prog σ ω ρ ε α} {rest : ι → Prog σ ω ρ ε β} {t u : σ}
      {w : Option (Written σ ω)} {r : Prog σ ω ρ ε β} (i : ι) (before : Par p others s log q rest t)
      (next : Step act fault (rest i) t w r u) :
      Par p others s log q (Function.update rest i r) u

end Prog

/-- Every write that a program may send is allowed. -/
def Prog.Sends (allowed : ω → Prop) : Prog σ ω ρ ε α → Prop
  | .ret _ => True
  | .throw _ => True
  | .read next => ∀ s, Sends allowed (next s)
  | .write stmt next fail =>
    allowed stmt ∧ (∀ out, Sends allowed (next out)) ∧ ∀ error, Sends allowed (fail error)

/-- What every allowed write does to the store, an undisturbed run does. -/
theorem Prog.Sends.run {act : ω → σ → Except ε (ρ × σ)} {allowed : ω → Prop}
    {p : Prog σ ω ρ ε α} (sends : p.Sends allowed) (change : σ → σ → Prop)
    (refl : ∀ s, change s s) (trans : ∀ s t u, change s t → change t u → change s u)
    (each : ∀ stmt s out t, allowed stmt → act stmt s = .ok (out, t) → change s t) (s : σ) :
    change s (p.run act s).1 := by
  induction p generalizing s with
  | ret value => exact refl s
  | throw error => exact refl s
  | read next ih => exact ih s (sends s) s
  | write stmt next fail ihNext ihFail =>
    unfold Prog.run
    cases outcome : act stmt s with
    | ok done =>
      have first := each stmt s done.1 done.2 sends.1 outcome
      exact trans _ _ _ first (ihNext done.1 (sends.2.1 done.1) done.2)
    | error error => exact ihFail error (sends.2.2 error) s

/-- What a client relies on, what it guarantees and what it achieves. -/
structure Contract (σ ω ε α : Type) where
  /-- The changes other clients may make between two statements. -/
  rely : σ → σ → Prop
  /-- The writes the client itself makes. -/
  guar : Written σ ω → Prop
  /-- What holds of the client's last write and its result. -/
  post : Option (Written σ ω) → Except ε α → Prop
  /-- The others may do nothing. -/
  refl : ∀ s, rely s s
  /-- Two changes of the others are one. -/
  trans : ∀ {s t u}, rely s t → rely t u → rely s u

/-- A program meets a contract from a state, `last` being the last write before it. -/
def Meets (c : Contract σ ω ε α) : Prog σ ω ρ ε α → Option (Written σ ω) → σ → Prop
  | .ret value, last, _ => c.post last (.ok value)
  | .throw error, last, _ => c.post last (.error error)
  | .read next, last, s =>
    (∀ t, c.rely s t → Meets c (next t) last t) ∧ ∀ error, fault error → c.post last (.error error)
  | .write stmt next fail, last, s =>
    ∀ t, c.rely s t →
      (∀ out u, act stmt t = .ok (out, u) →
        c.guar ⟨stmt, t, u⟩ ∧ Meets c (next out) (some ⟨stmt, t, u⟩) u) ∧
      ∀ error, act stmt t = .error error ∨ fault error → Meets c (fail error) last t

variable {act fault} {c : Contract σ ω ε α}

/-- A contract survives what the others do. -/
theorem Meets.stable {p : Prog σ ω ρ ε α} {last : Option (Written σ ω)} {s t : σ}
    (meets : Meets act fault c p last s) (change : c.rely s t) : Meets act fault c p last t := by
  cases p with
  | ret value => exact meets
  | throw error => exact meets
  | read next => exact ⟨fun u later => meets.1 u (c.trans change later), meets.2⟩
  | write stmt next fail => exact fun u later => meets u (c.trans change later)

/-- At the end of a program a contract is its postcondition. -/
theorem Meets.post {result : Except ε α} {last : Option (Written σ ω)} {s : σ}
    (meets : Meets act fault c (.done result : Prog σ ω ρ ε α) last s) : c.post last result := by
  cases result with
  | ok value => exact meets
  | error error => exact meets

/-- A statement leaves the store alone, or the store after it is the one of its write. -/
theorem Prog.Step.written {p q : Prog σ ω ρ ε α} {w : Option (Written σ ω)} {s t : σ}
    (next : p.Step act fault s w q t) : (w = none ∧ t = s) ∨ ∃ stmt, w = some ⟨stmt, s, t⟩ := by
  cases next with
  | write stmt => exact .inr ⟨stmt, rfl⟩
  | read => exact .inl ⟨rfl, rfl⟩
  | readFault => exact .inl ⟨rfl, rfl⟩
  | refused => exact .inl ⟨rfl, rfl⟩
  | writeFault => exact .inl ⟨rfl, rfl⟩

/-- What holds of every write of a statement and of no change holds of the statement. -/
theorem Prog.Step.change {p q : Prog σ ω ρ ε α} {w : Option (Written σ ω)} {s t : σ}
    (next : p.Step act fault s w q t) (change : σ → σ → Prop) (refl : ∀ s, change s s)
    (each : ∀ entry ∈ w, change entry.before entry.after) : change s t := by
  rcases next.written with ⟨-, same⟩ | ⟨stmt, wrote⟩
  · rw [same]
    exact refl s
  · exact each _ wrote

/-- The last write once a statement has run. -/
def lastWrite (last : Option (Written σ ω)) (log : List (Written σ ω)) : Option (Written σ ω) :=
  log.getLast?.or last

theorem lastWrite_append (last : Option (Written σ ω)) (log : List (Written σ ω))
    (w : Option (Written σ ω)) :
    lastWrite last (log ++ w.toList) = w.or (lastWrite last log) := by
  cases w with
  | none => simp [lastWrite]
  | some w => simp [lastWrite]

/-- One statement stays within the guarantee and leaves a program that meets the contract. -/
theorem Meets.step {p q : Prog σ ω ρ ε α} {last w : Option (Written σ ω)} {s t : σ}
    (meets : Meets act fault c p last s) (next : p.Step act fault s w q t) :
    (∀ entry ∈ w, c.guar entry) ∧ Meets act fault c q (w.or last) t := by
  cases next with
  | read next => exact ⟨nofun, meets.1 _ (c.refl _)⟩
  | readFault _ _ error faulty => exact ⟨nofun, meets.2 error faulty⟩
  | write stmt _ _ _ _ out accepted =>
    have met := (meets s (c.refl s)).1 _ _ accepted
    refine ⟨fun entry inside => ?_, met.2⟩
    rw [← Option.some.inj inside]
    exact met.1
  | refused _ _ _ _ error refusal =>
    exact ⟨nofun, (meets s (c.refl s)).2 error (.inl refusal)⟩
  | writeFault _ _ _ _ error faulty =>
    exact ⟨nofun, (meets s (c.refl s)).2 error (.inr faulty)⟩

/-- A run alone keeps to the contract. -/
theorem Prog.Exec.meets {p q : Prog σ ω ρ ε α} {log : List (Written σ ω)} {s t : σ}
    (exec : p.Exec act fault s log q t) (meets : Meets act fault c p none s) :
    (∀ entry ∈ log, c.guar entry) ∧ Meets act fault c q (lastWrite none log) t := by
  induction exec with
  | refl => exact ⟨nofun, meets⟩
  | step before next ih =>
    have stepped := ih.2.step next
    rw [lastWrite_append]
    refine ⟨fun entry inside => ?_, stepped.2⟩
    rcases List.mem_append.mp inside with old | new
    · exact ih.1 entry old
    · exact stepped.1 entry (Option.mem_toList.mp new)

/-- What each write of a run alone does to the store, in one step. -/
theorem Prog.Exec.chain {p q : Prog σ ω ρ ε α} {log : List (Written σ ω)} {s t : σ}
    (exec : p.Exec act fault s log q t) (change : σ → σ → Prop) (refl : ∀ s, change s s)
    (trans : ∀ s t u, change s t → change t u → change s u)
    (each : ∀ entry ∈ log, change entry.before entry.after) : change s t := by
  induction exec with
  | refl => exact refl s
  | step before next ih =>
    have sofar := ih fun entry old => each entry (List.mem_append_left _ old)
    apply trans _ _ _ sofar
    apply next.change change refl
    intro entry new
    exact each entry (List.mem_append_right _ (Option.mem_toList.mpr new))

section Parallel

variable [DecidableEq ι] {d : ι → Contract σ ω ε β}

/-- A program keeps to its contract among others that keep to theirs, where each one's
guarantee is within what every other one relies on. -/
theorem Prog.Par.meets {p q : Prog σ ω ρ ε α} {others rest : ι → Prog σ ω ρ ε β}
    {log : List (Written σ ω)} {s t : σ} (par : p.Par act fault others s log q rest t)
    (mine : Meets act fault c p none s) (theirs : ∀ i, Meets act fault (d i) (others i) none s)
    (inward : ∀ i entry, (d i).guar entry → c.rely entry.before entry.after)
    (outward : ∀ i entry, c.guar entry → (d i).rely entry.before entry.after)
    (sideways : ∀ i j entry, i ≠ j → (d i).guar entry → (d j).rely entry.before entry.after) :
    Meets act fault c q (lastWrite none log) t ∧
      ∀ i, ∃ last, Meets act fault (d i) (rest i) last t := by
  induction par with
  | refl => exact ⟨mine, fun i => ⟨none, theirs i⟩⟩
  | own before next ih =>
    have stepped := ih.1.step next
    rw [lastWrite_append]
    refine ⟨stepped.2, fun i => ?_⟩
    obtain ⟨last, meets⟩ := ih.2 i
    exact ⟨last, meets.stable
      (next.change (d i).rely (d i).refl fun entry new => outward i entry (stepped.1 entry new))⟩
  | @other log q rest t u w r i before next ih =>
    obtain ⟨last, meets⟩ := ih.2 i
    have stepped := meets.step next
    refine ⟨ih.1.stable (next.change c.rely c.refl fun entry new =>
      inward i entry (stepped.1 entry new)), fun j => ?_⟩
    by_cases same : j = i
    · subst same
      exact ⟨w.or last, by rw [Function.update_self]; exact stepped.2⟩
    · obtain ⟨lastOther, meetsOther⟩ := ih.2 j
      refine ⟨lastOther, ?_⟩
      rw [Function.update_of_ne same]
      exact meetsOther.stable (next.change (d j).rely (d j).refl fun entry new =>
        sideways i j entry (Ne.symm same) (stepped.1 entry new))

end Parallel

/-- A statement before a run alone. -/
theorem Prog.Exec.head {p q r : Prog σ ω ρ ε α} {w : Option (Written σ ω)}
    {log : List (Written σ ω)} {s t u : σ} (first : p.Step act fault s w q t)
    (exec : q.Exec act fault t log r u) : p.Exec act fault s (w.toList ++ log) r u := by
  induction exec with
  | refl =>
    rw [List.append_nil]
    exact .step .refl first
  | step before next ih =>
    rw [← List.append_assoc]
    exact .step ih next

/-- The undisturbed run is a run alone. -/
theorem Prog.exec_run (p : Prog σ ω ρ ε α) (s : σ) :
    ∃ log, p.Exec act fault s log (.done (p.run act s).2) (p.run act s).1 := by
  induction p generalizing s with
  | ret value => exact ⟨[], .refl⟩
  | throw error => exact ⟨[], .refl⟩
  | read next ih =>
    obtain ⟨log, exec⟩ := ih s s
    exact ⟨_, .head (.read next s) exec⟩
  | write stmt next fail ihNext ihFail =>
    unfold Prog.run
    cases outcome : act stmt s with
    | ok done =>
      obtain ⟨log, exec⟩ := ihNext done.1 done.2
      exact ⟨_, .head (.write stmt next fail s done.2 done.1 outcome) exec⟩
    | error error =>
      obtain ⟨log, exec⟩ := ihFail error s
      exact ⟨_, .head (.refused stmt next fail s error outcome) exec⟩

section Weave

variable [DecidableEq ι] (act)

/-- The result of a program that has come to it. -/
def Prog.outcome : Prog σ ω ρ ε α → Option (Except ε α)
  | .ret value => some (.ok value)
  | .throw error => some (.error error)
  | _ => none

theorem Prog.eq_done {p : Prog σ ω ρ ε α} {result : Except ε α} (finished : p.outcome = some result) :
    p = .done result := by
  cases p with
  | ret value =>
    cases finished
    rfl
  | throw error =>
    cases finished
    rfl
  | read next => cases finished
  | write stmt next fail => cases finished

/-- The next statement of a program without faults. -/
def Prog.advance : Prog σ ω ρ ε α → σ → Option (Written σ ω) × Prog σ ω ρ ε α × σ
  | .read next, s => (none, next s, s)
  | .write stmt next fail, s =>
    match act stmt s with
    | .ok (out, t) => (some ⟨stmt, s, t⟩, next out, t)
    | .error error => (none, fail error, s)
  | p, s => (none, p, s)

theorem Prog.step_advance (p : Prog σ ω ρ ε α) (s : σ) (going : p.outcome = none) :
    p.Step act fault s (p.advance act s).1 (p.advance act s).2.1 (p.advance act s).2.2 := by
  cases p with
  | ret value => cases going
  | throw error => cases going
  | read next => exact .read next s
  | write stmt next fail =>
    cases outcome : act stmt s with
    | ok done =>
      simp only [Prog.advance, outcome]
      exact .write stmt next fail s done.2 done.1 outcome
    | error error =>
      simp only [Prog.advance, outcome]
      exact .refused stmt next fail s error outcome

/-- A program among others as a schedule runs them: `none` is the program's own turn. -/
def weave : List (Option ι) → Prog σ ω ρ ε α → (ι → Prog σ ω ρ ε β) → σ → List (Written σ ω) →
    Prog σ ω ρ ε α × (ι → Prog σ ω ρ ε β) × σ × List (Written σ ω)
  | [], p, others, s, log => (p, others, s, log)
  | none :: turns, p, others, s, log =>
    if p.outcome.isNone then
      let next := p.advance act s
      weave turns next.2.1 others next.2.2 (log ++ next.1.toList)
    else (p, others, s, log)
  | some i :: turns, p, others, s, log =>
    if (others i).outcome.isNone then
      let next := (others i).advance act s
      weave turns p (Function.update others i next.2.1) next.2.2 log
    else (p, others, s, log)

/-- A schedule that is carried out is a run among others. -/
theorem par_weave {p q : Prog σ ω ρ ε α} {others rest : ι → Prog σ ω ρ ε β}
    {log : List (Written σ ω)} {s t : σ} (par : p.Par act fault others s log q rest t)
    (turns : List (Option ι)) :
    p.Par act fault others s (weave act turns q rest t log).2.2.2 (weave act turns q rest t log).1
      (weave act turns q rest t log).2.1 (weave act turns q rest t log).2.2.1 := by
  induction turns generalizing q rest t log with
  | nil => exact par
  | cons turn turns ih =>
    cases turn with
    | none =>
      simp only [weave]
      split
      · rename_i going
        exact ih (.own par (q.step_advance act t (Option.isNone_iff_eq_none.mp going)))
      · exact par
    | some i =>
      simp only [weave]
      split
      · rename_i going
        exact ih (.other i par ((rest i).step_advance act t (Option.isNone_iff_eq_none.mp going)))
      · exact par

end Weave

end Lib
