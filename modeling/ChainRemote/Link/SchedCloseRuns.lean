import ChainRemote.Link.SchedClose

/-!
# Runs of the close request

The server empties the queue when a report differs from the end it has stored, so what a
request does depends on which reports are on their way. `Known` is the invariant of runs in
which the button is pressed only for windows the server knows: none of their requests is
lost. `Spared` is the invariant of runs in which approvals stay apart from unhandled
requests: none of their requests closes a later window. Both conditions are needed, and a
short run shows what happens without each.
-/

namespace ChainRemote.Link.SchedClose

open Lib Agent Panel

/-- The server knows the end of the window the agent holds, and every report on its way that
carries the window field says the same end. -/
def State.Agrees (s : State) : Prop :=
  ∃ w, s.file = some w ∧ s.row.schedOpenUntil = some (w.endAt * 1000) ∧
    ∀ report ∈ s.inFlight, report = none ∨ report = some w.endAt

/-- The close button is pressed only while no window is held, or while the server knows it. -/
def pressedWhenKnown (s : State) : Event → Prop
  | .request _ => s.file = none ∨ s.Agrees
  | _ => True

/-- A request the agent has not handled is queued, and the window it was aimed at is held. -/
def State.Pending (s : State) : Prop :=
  (∃ requestedAt, s.row.schedCloseRequestedAt = some requestedAt ∧ requestedAt ∉ s.handled) ∧
    s.held.isSome ∧ s.askedOf = s.held

/-- What the guarded runs keep: a pending request is aimed at a window the server knows. -/
structure Known (s : State) : Prop where
  /-- No stored end is zero. -/
  stored : s.row.schedOpenUntil ≠ some 0
  /-- A request is aimed at a window that was granted. -/
  aimed : ∀ window, s.askedOf = some window → window ≤ s.grants
  /-- The server knows the window of a pending request. -/
  agrees : s.Pending → s.Agrees

/-- A window step keeps the invariant. -/
theorem Known.window {s : State} (known : Known s) {file : Option SchedWindow}
    (same : SameEnd s.file file) : Known { s with file } where
  stored := known.stored
  aimed := known.aimed
  agrees := by
    rintro ⟨queued, held, aimed⟩
    cases file with
    | none => exact absurd held (by simp [State.held])
    | some v =>
      obtain ⟨w, before, ends⟩ := same.stored
      have holds : s.held = some s.grants := by simp [State.held, before]
      obtain ⟨u, stored, known, flights⟩ :=
        known.agrees ⟨queued, by rw [holds]; rfl, aimed.trans holds.symm⟩
      obtain rfl : w = u := Option.some.inj (before.symm.trans stored)
      rw [ends] at known flights
      exact ⟨v, rfl, known, flights⟩

/-- Recording a report keeps the invariant: a request that stays queued finds the stored end
as it was. -/
theorem Known.record {s : State} (known : Known s) {row : Customer}
    {waiting : Option Flight} {late : List (Option Int)}
    (nonzero : row.schedOpenUntil ≠ some 0)
    (queue : ∀ requestedAt, row.schedCloseRequestedAt = some requestedAt →
      row.schedOpenUntil = s.row.schedOpenUntil ∧ s.row.schedCloseRequestedAt = some requestedAt)
    (fewer : ∀ other ∈ { s with waiting, late }.inFlight, other ∈ s.inFlight) :
    Known { s with row, waiting, late } where
  stored := nonzero
  aimed := known.aimed
  agrees := by
    rintro ⟨⟨requestedAt, queued, unhandled⟩, held, aimed⟩
    obtain ⟨kept, before⟩ := queue requestedAt queued
    obtain ⟨w, file, stored, flights⟩ :=
      known.agrees ⟨⟨requestedAt, before, unhandled⟩, held, aimed⟩
    exact ⟨w, file, kept.trans stored, fun other sent => flights other (fewer other sent)⟩

/-- The first heartbeat-side steps: what is on its way comes from before or is the agent's. -/
theorem Known.flight {s : State} (known : Known s) {waiting : Option Flight}
    {late : List (Option Int)}
    (fewer : ∀ other ∈ { s with waiting, late }.inFlight, other = none ∨ other ∈ s.inFlight) :
    Known { s with waiting, late } where
  stored := known.stored
  aimed := known.aimed
  agrees := by
    intro pending
    obtain ⟨w, file, stored, flights⟩ := known.agrees pending
    refine ⟨w, file, stored, fun other sent => ?_⟩
    obtain absent | before := fewer other sent
    · exact .inl absent
    · exact flights other before

/-- Sending keeps the invariant: a regular report says the end of the window it leaves. -/
theorem Known.sending {s : State} (known : Known s) (idle : s.waiting = none) (t : Nat)
    (followUp : Bool) : Known (s.sending t followUp) := by
  cases followUp with
  | true =>
    refine known.flight fun other sent => ?_
    simpa [State.inFlight, idle] using sent
  | false =>
    have after := known.window (.of_file (status_file t s.file))
    refine ⟨after.stored, after.aimed, fun pending => ?_⟩
    obtain ⟨w, file, stored, flights⟩ := after.agrees pending
    refine ⟨w, file, stored, fun other sent => ?_⟩
    obtain rfl | late := List.mem_cons.mp sent
    · refine .inr ?_
      have reported : Agent.status t s.file = some w := file
      simp [schedReport, reported]
    · refine flights other ?_
      simp only [State.inFlight, idle]
      exact late

/-- Handling a response keeps the invariant: its request is not pending any more. -/
theorem Known.handling {s : State} (known : Known s) {requestedAt : Nat}
    (waiting : s.waiting = some (.answered (some requestedAt))) :
    Known (s.handling requestedAt) := by
  have after := known.window (.of_file (handleSchedClose_file requestedAt s.file s.done))
  refine ⟨after.stored, after.aimed, ?_⟩
  rintro ⟨⟨other, queued, unhandled⟩, held, aimed⟩
  obtain ⟨w, file, stored, flights⟩ :=
    after.agrees ⟨⟨other, queued, fun before => unhandled (.tail _ before)⟩, held, aimed⟩
  refine ⟨w, file, stored, fun report sent => flights report ?_⟩
  simp only [State.inFlight, waiting]
  exact sent

/-- Every admitted step keeps the invariant. -/
theorem Known.step {s t : State} {e : Event} (known : Known s) (admitted : pressedWhenKnown s e)
    (next : SchedClose.step s e = some t) : Known t := by
  cases e with
  | grant localNow start endAt hqNow label =>
    obtain rfl := Option.some.inj next
    refine ⟨known.stored, fun window aimed => Nat.le_succ_of_le (known.aimed window aimed), ?_⟩
    -- An earlier request is aimed at an earlier window.
    rintro ⟨-, held, aimed⟩
    have earlier : s.grants + 1 ≤ s.grants := known.aimed _ aimed
    omega
  | isOpen t =>
    obtain rfl := Option.some.inj next
    exact known.window (.of_file (isOpen_file t s.file))
  | status t =>
    obtain rfl := Option.some.inj next
    exact known.window (.of_file (status_file t s.file))
  | sessionStart =>
    obtain rfl := Option.some.inj next
    exact known.window (.inr (noteSessionStart_end s.file))
  | sessionEnd t =>
    obtain rfl := Option.some.inj next
    exact known.window (.inr (noteSessionEnd_end t s.file))
  | hqClose =>
    obtain rfl := Option.some.inj next
    exact known.window (.inl rfl)
  | send t followUp =>
    simp only [SchedClose.step] at next
    split at next
    · rename_i idle
      obtain rfl := Option.some.inj next
      exact known.sending idle t followUp
    · cases next
  | record now beat =>
    simp only [SchedClose.step] at next
    split at next
    · rename_i report waiting
      obtain rfl := Option.some.inj next
      refine known.record (recorded_nonzero now beat report known.stored)
        (fun _ queued => recorded_request queued) fun other sent => ?_
      simp only [State.inFlight, waiting]
      exact List.mem_cons_of_mem report sent
    · cases next
  | answer =>
    simp only [SchedClose.step] at next
    split at next
    · rename_i waiting
      obtain rfl := Option.some.inj next
      exact known.flight fun other sent => .inr (by simpa [State.inFlight, waiting] using sent)
    · cases next
  | deliver =>
    simp only [SchedClose.step] at next
    split at next
    · rename_i requestedAt waiting
      obtain rfl := Option.some.inj next
      exact known.handling waiting
    · rename_i waiting
      obtain rfl := Option.some.inj next
      exact known.flight fun other sent => .inr (by simpa [State.inFlight, waiting] using sent)
    · cases next
  | abandon =>
    simp only [SchedClose.step] at next
    split at next
    · rename_i waiting
      obtain rfl := Option.some.inj next
      exact known.flight fun other sent => .inr (by simpa [State.inFlight, waiting] using sent)
    · rename_i flight unsent waiting
      obtain rfl := Option.some.inj next
      refine known.flight fun other sent => .inr ?_
      cases flight <;> simp_all [State.inFlight]
    · cases next
  | recordLate i now beat =>
    simp only [SchedClose.step] at next
    split at next
    · rename_i report found
      obtain rfl := Option.some.inj next
      refine known.record (recorded_nonzero now beat report known.stored)
        (fun _ queued => recorded_request queued) fun other sent => ?_
      exact inFlight_eraseIdx sent
    · cases next
  | request now =>
    obtain rfl := Option.some.inj next
    refine ⟨known.stored, fun window aimed => ?_, ?_⟩
    · simp only [State.held] at aimed
      split at aimed <;> simp_all
    · rintro ⟨-, held, -⟩
      obtain unheld | ⟨w, file, stored, flights⟩ := admitted
      · simp [State.held, unheld] at held
      · exact ⟨w, file, stored, flights⟩

/-- A new agent and its row satisfy the invariant. -/
theorem known_fresh {s : State} (started : machine.start s) : Known s := by
  obtain ⟨row, closed, unasked, rfl⟩ := started
  refine ⟨by simp [fresh, closed], nofun, ?_⟩
  rintro ⟨-, held, -⟩
  cases held

/-- While the close button is pressed only for windows the server knows, no request is lost. -/
theorem closeRequest_never_lost (s : State) (e : Event) (t : State)
    (reached : machine.Reaches pressedWhenKnown s) (next : machine.step s e = some t) :
    NeverLost s e t := by
  have known : Known s :=
    reached.invariant Known (fun _ => known_fresh) (fun _ _ _ known => known.step)
  intro requestedAt queued cleared
  by_contra lost
  push Not at lost
  obtain ⟨unhandled, window, aimed, held⟩ := lost
  obtain ⟨w, file, stored, flights⟩ :=
    known.agrees ⟨⟨requestedAt, queued, unhandled⟩, by rw [held]; rfl, aimed.trans held.symm⟩
  obtain ⟨same, -⟩ | ⟨now, beat, report, sent, recorded, -⟩ | ⟨now, asked, -⟩ := step_row next
  · rw [same, queued] at cleared
    cases cleared
  · have kept := (recorded_same now beat stored known.stored (flights report sent)).2
    rw [recorded, kept, queued] at cleared
    cases cleared
  · rw [asked] at cleared
    cases cleared

/-- A row whose device never reported a window. -/
def unreportedRow : Customer := { id := 0, tenantId := 0, name := "store" }

/-- The button is pressed before the customer approves anything; the first report of the window
that is approved then empties the queue, and the request was aimed at no window. -/
theorem closeRequest_never_lost_before_grant : ∃ s t,
    machine.Reaches pressedWhenKnown s ∧ machine.step s (.record 1002000 {}) = some t ∧
      s.row.schedCloseRequestedAt = some 1000000 ∧ t.row.schedCloseRequestedAt = none ∧
      NeverLost s (.record 1002000 {}) t := by
  have start : machine.Runs pressedWhenKnown (fresh unreportedRow) (fresh unreportedRow) := .refl
  have pressed := start.step (Event.request 1000000) (Or.inl rfl) rfl
  have granted := pressed.step (Event.grant 1000 1000 2000 1000 "") trivial rfl
  have sent := granted.step (Event.send 1002 false) trivial rfl
  have reached : machine.Reaches pressedWhenKnown _ :=
    ⟨_, ⟨unreportedRow, rfl, rfl, rfl⟩, sent⟩
  exact ⟨_, _, reached, rfl, rfl, by decide +kernel, closeRequest_never_lost _ _ _ reached rfl⟩

/-- The customer approves, the dealer presses the button, and the first report leaves. -/
def beforeFirstReport : State :=
  machine.play Machine.free (fresh unreportedRow)
    [.grant 1000 1000 2000 1000 "", .request 1001000, .send 1002 false]

/-- Without the condition a request is lost: the first report of the window it was aimed at
differs from the stored null. -/
theorem closeRequest_lost_at_first_report : ¬ machine.Always Machine.free NeverLost := by
  intro kept
  have run : machine.Runs Machine.free (fresh unreportedRow) beforeFirstReport :=
    machine.runs_play _ _ _
  obtain handled | left := kept beforeFirstReport (.record 1002000 {}) _
    ⟨_, ⟨unreportedRow, rfl, rfl, rfl⟩, run⟩ trivial rfl 1001000 rfl (by decide +kernel)
  · cases handled
  · exact left 1 rfl rfl

/-- The heartbeat the agent waits for cannot bring back what the queue holds now: it has read
the queue already, or it carries an end that makes the server empty it. -/
def State.Harmless (s : State) : Prop :=
  match s.waiting with
  | none => True
  | some (.sent (some seconds)) => s.row.schedOpenUntil ≠ some (seconds * 1000)
  | some (.sent none) => False
  | some .recorded => False
  | some (.answered _) => True

/-- A request from before the latest grant is queued, and the agent's marker is not on it. -/
def State.Outdated (s : State) (requestedAt : Nat) : Prop :=
  s.row.schedCloseRequestedAt = some requestedAt ∧ s.done ≠ some requestedAt ∧
    requestedAt ∉ s.askedSince

/-- While a request the agent has not handled is queued or on its way back, the customer
approves only a window with another end than the stored one, and no heartbeat is under way that
would bring the request back. Until the new window is reported, no cleanup report goes out and
the clocks are close enough for the server to accept the report. -/
def approvedApart (s : State) : Event → Prop
  | .grant localNow start endAt hqNow label =>
    (∀ requestedAt, s.waiting = some (.answered (some requestedAt)) → s.done = some requestedAt) ∧
      ∀ requestedAt, s.row.schedCloseRequestedAt = some requestedAt →
        s.done = some requestedAt ∨
          s.row.schedOpenUntil ≠
            some ((Agent.grant localNow start endAt hqNow label).endAt * 1000) ∧ s.Harmless
  | .send _ followUp => followUp = true → s.file.isSome → ∀ requestedAt, ¬ s.Outdated requestedAt
  | .record now _ =>
    ∀ requestedAt seconds, s.file.isSome → s.Outdated requestedAt →
      s.waiting = some (.sent (some seconds)) → seconds * 1000 ≤ now + 25 * 3600 * 1000
  | _ => True

/-- What the guarded runs keep while a window is stored: no request from before its grant can
reach the agent unhandled. -/
structure Spared (s : State) : Prop where
  /-- Reports are not negative. -/
  reports : ∀ seconds, s.waiting = some (.sent (some seconds)) → 0 ≤ seconds
  /-- A response carries a request that is handled or newer than the window. -/
  response : s.file.isSome → ∀ requestedAt, s.waiting = some (.answered (some requestedAt)) →
    s.done = some requestedAt ∨ requestedAt ∈ s.askedSince
  /-- An outdated request is cleared by the next report before it is read. -/
  queue : ∀ w, s.file = some w → ∀ requestedAt,
    s.row.schedCloseRequestedAt = some requestedAt →
      s.done = some requestedAt ∨ requestedAt ∈ s.askedSince ∨
        s.row.schedOpenUntil ≠ some (w.endAt * 1000) ∧ s.Harmless

/-- A window step keeps the invariant. -/
theorem Spared.window {s : State} (spared : Spared s) {file : Option SchedWindow}
    (same : SameEnd s.file file) : Spared { s with file } := by
  cases file with
  | none => exact ⟨spared.reports, nofun, nofun⟩
  | some v =>
    obtain ⟨w, before, ends⟩ := same.stored
    refine ⟨spared.reports, fun _ => spared.response (by rw [before]; rfl), ?_⟩
    intro u file requestedAt queued
    obtain rfl := Option.some.inj file
    rw [← ends]
    exact spared.queue w before requestedAt queued

/-- Sending a regular heartbeat keeps the invariant: it reports the window it leaves. -/
theorem Spared.sendRegular {s : State} (spared : Spared s) (t : Nat) :
    Spared (s.sending t false) := by
  have after := spared.window (.of_file (status_file t s.file))
  refine ⟨?_, nofun, fun w file requestedAt queued => ?_⟩
  · rintro seconds sent
    obtain rfl : schedReport t s.file = seconds := by simpa [State.sending] using sent
    exact schedReport_nonneg (Int.natCast_nonneg t) s.file
  · refine (after.queue w file requestedAt queued).imp id (.imp id ?_)
    rintro ⟨other, -⟩
    have reported : Agent.status t s.file = some w := file
    refine ⟨other, ?_⟩
    simpa [State.sending, State.Harmless, schedReport, reported] using other

/-- Sending a cleanup report keeps the invariant where no queued request is outdated. -/
theorem Spared.sendFollowUp {s : State} (t : Nat)
    (current : s.file.isSome → ∀ requestedAt, ¬ s.Outdated requestedAt) :
    Spared (s.sending t true) := by
  refine ⟨nofun, nofun, fun w file requestedAt queued => ?_⟩
  by_contra outdated
  push Not at outdated
  have stored : s.file = some w := file
  exact current (by rw [stored]; rfl) requestedAt ⟨queued, outdated.1, outdated.2.1⟩

/-- Recording the awaited report keeps the invariant: it clears an outdated request. -/
theorem Spared.record {s : State} (spared : Spared s) (now : Nat) (beat : Beat)
    {report : Option Int} (waiting : s.waiting = some (.sent report))
    (bounded : ∀ requestedAt seconds, s.file.isSome → s.Outdated requestedAt →
      s.waiting = some (.sent (some seconds)) → seconds * 1000 ≤ now + 25 * 3600 * 1000)
    {row : Customer} (recorded : row = s.recorded now beat report) :
    Spared { s with row, waiting := some .recorded } := by
  refine ⟨nofun, nofun, fun w file requestedAt queued => ?_⟩
  have stored : s.file = some w := file
  rw [recorded] at queued
  obtain ⟨-, before⟩ := recorded_request queued
  by_contra unsafe'
  push Not at unsafe'
  have outdated : s.Outdated requestedAt := ⟨before, unsafe'.1, unsafe'.2.1⟩
  obtain done | since | ⟨-, harmless⟩ := spared.queue w stored requestedAt before
  · exact outdated.2.1 done
  · exact outdated.2.2 since
  · cases report with
    | none => simp [State.Harmless, waiting] at harmless
    | some seconds =>
      simp only [State.Harmless, waiting] at harmless
      have cleared := recorded_other now beat (spared.reports seconds waiting)
        (bounded requestedAt seconds (by rw [stored]; rfl) outdated waiting) harmless
      rw [cleared] at queued
      cases queued

/-- Recording a late report keeps the invariant: it leaves the row or empties the queue. -/
theorem Spared.recordLate {s : State} (spared : Spared s) {row : Customer}
    (late : List (Option Int))
    (queue : ∀ requestedAt, row.schedCloseRequestedAt = some requestedAt →
      row.schedOpenUntil = s.row.schedOpenUntil ∧ s.row.schedCloseRequestedAt = some requestedAt) :
    Spared { s with row, late } := by
  refine ⟨spared.reports, spared.response, fun w file requestedAt queued => ?_⟩
  obtain ⟨kept, before⟩ := queue requestedAt queued
  simpa only [State.Harmless, kept] using spared.queue w file requestedAt before

/-- The wait may end without a response. -/
theorem Spared.idle {s : State} (spared : Spared s) (late : List (Option Int)) :
    Spared { s with waiting := none, late } := by
  refine ⟨nofun, nofun, fun w file requestedAt queued => ?_⟩
  exact (spared.queue w file requestedAt queued).imp id (.imp id fun other => ⟨other.1, trivial⟩)

/-- Reading the queue keeps the invariant. -/
theorem Spared.answer {s : State} (spared : Spared s) (waiting : s.waiting = some .recorded) :
    Spared { s with waiting := some (.answered s.row.schedCloseRequestedAt) } := by
  have settled : ∀ w, s.file = some w → ∀ requestedAt,
      s.row.schedCloseRequestedAt = some requestedAt →
        s.done = some requestedAt ∨ requestedAt ∈ s.askedSince := by
    intro w file requestedAt queued
    obtain done | since | ⟨-, harmless⟩ := spared.queue w file requestedAt queued
    · exact .inl done
    · exact .inr since
    · simp [State.Harmless, waiting] at harmless
  refine ⟨nofun, fun stored requestedAt answered => ?_, fun w file requestedAt queued => ?_⟩
  · obtain ⟨w, file⟩ := Option.isSome_iff_exists.mp stored
    exact settled w file requestedAt (by simpa using answered)
  · exact (settled w file requestedAt queued).imp id .inl

/-- Handling a response keeps the invariant: the marker moves only when the window goes. -/
theorem Spared.handling {s : State} (spared : Spared s) (requestedAt : Nat) :
    Spared (s.handling requestedAt) := by
  by_cases repeated : s.done = some requestedAt
  · have after := spared.idle s.late
    have same : s.handling requestedAt =
        { s with waiting := none, handled := requestedAt :: s.handled } := by
      simp [State.handling, handleSchedClose, repeated]
    rw [same]
    exact ⟨after.reports, after.response, after.queue⟩
  · have gone : (s.handling requestedAt).file = none := by
      simp [State.handling, handleSchedClose, repeated]
    refine ⟨nofun, fun stored => ?_, fun w file => ?_⟩
    · rw [gone] at stored
      cases stored
    · rw [gone] at file
      cases file

/-- Every admitted step keeps the invariant. -/
theorem Spared.step {s t : State} {e : Event} (spared : Spared s) (admitted : approvedApart s e)
    (next : SchedClose.step s e = some t) : Spared t := by
  cases e with
  | grant localNow start endAt hqNow label =>
    obtain rfl := Option.some.inj next
    refine ⟨spared.reports, fun _ requestedAt answered => .inl (admitted.1 requestedAt answered),
      ?_⟩
    intro w file requestedAt queued
    obtain rfl := Option.some.inj file
    exact (admitted.2 requestedAt queued).imp id .inr
  | isOpen t =>
    obtain rfl := Option.some.inj next
    exact spared.window (.of_file (isOpen_file t s.file))
  | status t =>
    obtain rfl := Option.some.inj next
    exact spared.window (.of_file (status_file t s.file))
  | sessionStart =>
    obtain rfl := Option.some.inj next
    exact spared.window (.inr (noteSessionStart_end s.file))
  | sessionEnd t =>
    obtain rfl := Option.some.inj next
    exact spared.window (.inr (noteSessionEnd_end t s.file))
  | hqClose =>
    obtain rfl := Option.some.inj next
    exact spared.window (.inl rfl)
  | send t followUp =>
    simp only [SchedClose.step] at next
    split at next
    · obtain rfl := Option.some.inj next
      cases followUp with
      | true => exact Spared.sendFollowUp t (admitted rfl)
      | false => exact spared.sendRegular t
    · cases next
  | record now beat =>
    simp only [SchedClose.step] at next
    split at next
    · rename_i report waiting
      obtain rfl := Option.some.inj next
      exact spared.record now beat waiting admitted rfl
    · cases next
  | answer =>
    simp only [SchedClose.step] at next
    split at next
    · rename_i waiting
      obtain rfl := Option.some.inj next
      exact spared.answer waiting
    · cases next
  | deliver =>
    simp only [SchedClose.step] at next
    split at next
    · rename_i requestedAt waiting
      obtain rfl := Option.some.inj next
      exact spared.handling requestedAt
    · obtain rfl := Option.some.inj next
      exact spared.idle s.late
    · cases next
  | abandon =>
    simp only [SchedClose.step] at next
    split at next
    · obtain rfl := Option.some.inj next
      exact spared.idle _
    · obtain rfl := Option.some.inj next
      exact spared.idle s.late
    · cases next
  | recordLate i now beat =>
    simp only [SchedClose.step] at next
    split at next
    · rename_i report found
      obtain rfl := Option.some.inj next
      exact spared.recordLate _ fun _ queued => recorded_request queued
    · cases next
  | request now =>
    obtain rfl := Option.some.inj next
    refine ⟨spared.reports, fun stored requestedAt answered => ?_, ?_⟩
    · exact (spared.response stored requestedAt answered).imp id (.tail _)
    · intro w file requestedAt queued
      obtain rfl : now = requestedAt := by simpa [closeSet] using queued
      exact .inr (.inl (.head _))

/-- While approvals stay apart from unhandled requests, no request closes a later window. -/
theorem closeRequest_spares_later (s : State) (e : Event) (t : State)
    (reached : machine.Reaches approvedApart s) (next : machine.step s e = some t) :
    SparesLater s e t := by
  have spared : Spared s := by
    apply reached.invariant Spared
    · rintro _ ⟨row, closed, unasked, rfl⟩
      exact ⟨nofun, nofun, nofun⟩
    · exact fun _ _ _ spared => spared.step
  rintro rfl requestedAt waiting stored gone
  obtain done | since := spared.response stored requestedAt waiting
  · simp only [machine, SchedClose.step, waiting] at next
    obtain rfl := Option.some.inj next
    simp only [State.handling, handleSchedClose, done, if_true] at gone
    rw [gone] at stored
    cases stored
  · exact since

/-- A window is approved and reported, the dealer asks to close it, and the response to the
next report closes it. -/
theorem closeRequest_spares_later_closing : ∃ s t,
    machine.Reaches approvedApart s ∧ machine.step s .deliver = some t ∧
      s.waiting = some (.answered (some 1002000)) ∧ s.file.isSome ∧ t.file = none ∧
      SparesLater s .deliver t := by
  have start : machine.Runs approvedApart (fresh unreportedRow) (fresh unreportedRow) := .refl
  have granted := start.step (Event.grant 1000 1000 2000 1000 "")
    ⟨nofun, nofun⟩ rfl
  have sent := granted.step (Event.send 1001 false) (fun followUp => nomatch followUp) rfl
  have recorded := sent.step (Event.record 1001000 {})
    (fun _ _ _ outdated _ => nomatch outdated.1) rfl
  have answered := recorded.step Event.answer trivial rfl
  have delivered := answered.step Event.deliver trivial rfl
  have asked := delivered.step (Event.request 1002000) trivial rfl
  have sentAgain := asked.step (Event.send 1003 false) (fun followUp => nomatch followUp) rfl
  have recordedAgain := sentAgain.step (Event.record 1003000 {}) (by
      intro requestedAt _ _ outdated _
      have same : some 1002000 = some requestedAt := outdated.1
      cases same
      exact absurd List.mem_cons_self outdated.2.2) rfl
  have answeredAgain := recordedAgain.step Event.answer trivial rfl
  have reached : machine.Reaches approvedApart _ :=
    ⟨_, ⟨unreportedRow, rfl, rfl, rfl⟩, answeredAgain⟩
  exact ⟨_, _, reached, rfl, by decide +kernel, rfl, rfl,
    closeRequest_spares_later _ _ _ reached rfl⟩

/-- A window is approved and reported, the dealer asks to close it and the operator closes it,
and a window with the same end is approved, reported and answered. -/
def beforeStaleClose : State :=
  machine.play Machine.free (fresh unreportedRow)
    [.grant 1000 1000 2000 1000 "", .send 1001 false, .record 1001000 {}, .answer, .deliver,
      .request 1002000, .hqClose, .grant 1003 1003 2000 1003 "", .send 1004 false,
      .record 1004000 {}, .answer]

/-- Without the condition a request closes a later window: the new window ends when the closed
one did, so its report leaves the old request in the queue. -/
theorem closeRequest_closes_same_end : ¬ machine.Always Machine.free SparesLater := by
  intro spared
  have run : machine.Runs Machine.free (fresh unreportedRow) beforeStaleClose :=
    machine.runs_play _ _ _
  have since : 1002000 ∈ beforeStaleClose.askedSince :=
    spared beforeStaleClose .deliver _ ⟨_, ⟨unreportedRow, rfl, rfl, rfl⟩, run⟩ trivial rfl rfl
      1002000 (by decide +kernel) rfl rfl
  cases since

end ChainRemote.Link.SchedClose
