import ChainRemote.Panel.SupportSessions

/-!
# The end of a support session

Runs of the operations on support sessions with a clock that does not run backwards. All writers
but one keep an end that is there, and set none before the start. The panel's `endSession` sets the
end again. No writer sets `via_sched_window`, so the flag of a session stays as it was created.
-/

namespace ChainRemote.Panel.SupportSessions

open Lib

/-- The operations on support sessions. -/
inductive Op
  | startSession (input : StartInput) (seat : Option (Option String × Option String))
  /-- `POST /api/sessions/[id]/end`. -/
  | endReport (sessionId tenantId : Nat) (body : EndBody)
  /-- `endSession` of the panel. -/
  | panelEndSession (id tenantId : Nat) (form : EndForm)
  | closeOrphanSessions (tenantId : Nat) (seen : Nat → Option Int)
  | discardSessionSoft (sessionId tenantId : Nat)
  | restoreSession (sessionId tenantId : Nat)
  | updateSessionRecord (sessionId tenantId : Nat) (fields : SessionRecordFields)
  | createManualSession (input : ManualInput)
  /-- `POST /api/sessions/[id]/discard`. -/
  | discardSession (sessionId tenantId : Nat)

/-- Run an operation. -/
def Op.run (now : Int) (table : Table) : Op → Except Failure Table
  | .startSession input seat => (SupportSessions.startSession now table input seat).map Prod.snd
  | .endReport sessionId tenantId body => endSession now table sessionId tenantId body.fields
  | .panelEndSession id tenantId form => SupportSessions.panelEndSession now table id tenantId form
  | .closeOrphanSessions tenantId seen =>
    SupportSessions.closeOrphanSessions now table tenantId seen
  | .discardSessionSoft sessionId tenantId =>
    SupportSessions.discardSessionSoft now table sessionId tenantId
  | .restoreSession sessionId tenantId => SupportSessions.restoreSession table sessionId tenantId
  | .updateSessionRecord sessionId tenantId fields =>
    SupportSessions.updateSessionRecord table sessionId tenantId fields
  | .createManualSession input => SupportSessions.createManualSession now table input
  | .discardSession sessionId tenantId =>
    .ok (SupportSessions.discardSession table sessionId tenantId)

/-- The sessions of an end report that carries the flag. -/
def Op.reports (table : Table) : Op → List Nat
  | .endReport sessionId tenantId body =>
    if body.viaSchedWindow then
      (table.rows.filter (within sessionId tenantId)).map SupportSession.id
    else []
  | _ => []

/-- The table, the clock, and the sessions for which an accepted end report carried the flag. -/
structure State where
  table : Table
  now : Int
  reported : List Nat

/-- The state after an operation at a time; one that throws changes nothing. -/
def State.after (s : State) (now : Int) (op : Op) : State :=
  match op.run now s.table with
  | .ok table => { table, now, reported := op.reports s.table ++ s.reported }
  | .error _ => { s with now := now }

/-- An operation and the time of its statement. -/
structure Event where
  now : Int
  op : Op

/-- No row is ended before its start, and none that is open starts later than now. -/
def Sound (s : State) : Prop :=
  ∀ row ∈ s.table.rows, match row.endedAt with
    | some ended => row.startedAt ≤ ended
    | none => row.startedAt ≤ s.now

/-- The operations, from a sound table without flags. -/
def sessions : Machine State Event where
  start s := Sound s ∧ (∀ row ∈ s.table.rows, row.viaSchedWindow = false) ∧ s.reported = []
  step s event := if s.now ≤ event.now then some (s.after event.now event.op) else none

/-- The panel ends only sessions that are not ended yet. -/
def EndsOpen (s : State) (event : Event) : Prop :=
  match event.op with
  | .panelEndSession id tenantId _ =>
    ∀ row ∈ s.table.rows, within id tenantId row = true → row.endedAt = none
  | _ => True

/-- An update keeps the ends of the rows it selects, and ends none of them before its start. -/
def Steady (now : Int) (here : SupportSession → Bool) (set : SupportSession → SupportSession) :
    Prop :=
  ∀ row, here row = true →
    (∀ ended, row.endedAt = some ended → (set row).endedAt = some ended) ∧
      (row.endedAt = none → row.startedAt ≤ now →
        ∀ ended, (set row).endedAt = some ended → row.startedAt ≤ ended)

/-- What an operation that returns does to the rows. -/
inductive Effect (now : Int) (op : Op) (table after : Table) : Prop
  /-- Nothing. -/
  | same (rows : after.rows = table.rows) (nextId : after.nextId = table.nextId)
  /-- It updates rows. -/
  | update (here : SupportSession → Bool) (set : SupportSession → SupportSession)
      (rows : after.rows = updateWhere here set table.rows) (nextId : after.nextId = table.nextId)
      (keeps : Keeps set) (flag : ∀ row, (set row).viaSchedWindow = row.viaSchedWindow)
      (steady : Steady now here set ∨ ∃ id tenantId form,
        op = .panelEndSession id tenantId form ∧ here = within id tenantId ∧
          ∀ row, (set row).endedAt = some now)
  /-- It inserts a row. -/
  | insert (row : SupportSession) (rows : after.rows = row :: table.rows)
      (nextId : after.nextId = table.nextId + 1) (own : row.id = table.nextId)
      (flag : row.viaSchedWindow = false)
      (time : row.endedAt = none ∧ row.startedAt = now ∨
        ∃ ended, row.endedAt = some ended ∧ row.startedAt ≤ ended)
  /-- It deletes rows. -/
  | delete (here : SupportSession → Bool) (rows : after.rows = table.rows.filter here)
      (nextId : after.nextId = table.nextId)

section Operations

variable {now : Int} {table after : Table} {op : Op}

theorem update_ok {here : SupportSession → Bool} {set : SupportSession → SupportSession}
    (keeps : Keeps set) (done : table.update here set keeps = .ok after) :
    after.rows = updateWhere here set table.rows ∧ after.nextId = table.nextId := by
  unfold Table.update at done
  rw [require_bind_eq_ok] at done
  cases done.2
  exact ⟨rfl, rfl⟩

theorem insert_ok {row : SupportSession} {own : row.id = table.nextId}
    (done : table.insert row own = .ok after) :
    after.rows = row :: table.rows ∧ after.nextId = table.nextId + 1 := by
  unfold Table.insert at done
  split at done
  · cases done
    exact ⟨rfl, rfl⟩
  · cases done

/-- An end that is set once, to now. -/
theorem steady_getD (here : SupportSession → Bool) {set : SupportSession → SupportSession}
    (ended : ∀ row, (set row).endedAt = some (row.endedAt.getD now)) : Steady now here set := by
  intro row _
  rw [ended]
  constructor
  · intro time old
    rw [old]
    rfl
  · intro open' started time new
    rw [open'] at new
    obtain rfl := Option.some.inj new
    exact started

/-- An end that is not set. -/
theorem steady_same (here : SupportSession → Bool) {set : SupportSession → SupportSession}
    (ended : ∀ row, (set row).endedAt = row.endedAt) : Steady now here set := by
  intro row _
  rw [ended]
  refine ⟨fun _ old => old, fun open' _ time new => ?_⟩
  rw [open'] at new
  cases new

/-- The ends of orphans. -/
theorem steady_close (tenantId : Nat) (seen : Nat → Option Int) :
    Steady now (orphan now tenantId seen) (closeSet now seen) := by
  intro row hit
  constructor
  · intro time old
    simp [orphan, old] at hit
  · intro _ _ time new
    obtain rfl := Option.some.inj new
    exact Int.le_max_left _ _

/-- A start returns the open session, or opens one now. -/
theorem startSession_ok {input : StartInput} {seat : Option (Option String × Option String)}
    {pair : SupportSession × Table} (done : startSession now table input seat = .ok pair) :
    pair.2 = table ∨ pair.2.rows = input.row now table.nextId seat :: table.rows ∧
      pair.2.nextId = table.nextId + 1 := by
  unfold startSession at done
  split at done
  · cases done
    exact .inl rfl
  · rw [require_bind_eq_ok, returns_bind_iff] at done
    obtain ⟨-, after, inserted, same⟩ := done
    cases same
    exact .inr (insert_ok inserted)

/-- The panel's end sets the end to now. -/
theorem panelEndSession_ok {id tenantId : Nat} {form : EndForm}
    (done : panelEndSession now table id tenantId form = .ok after) :
    ∃ issueType resolution description,
      after.rows = updateWhere (within id tenantId)
        (endFormSet now issueType resolution description) table.rows ∧
        after.nextId = table.nextId := by
  unfold panelEndSession at done
  simp only [returns_bind_iff] at done
  obtain ⟨issueType, -, resolution, -, -, -, updated⟩ := done
  exact ⟨issueType, resolution, _, update_ok _ updated⟩

/-- A manual record is a row with both times. -/
theorem createManualSession_ok {input : ManualInput}
    (done : createManualSession now table input = .ok after) :
    ∃ customer startedAt endedAt, startedAt ≤ endedAt ∧
      after.rows = input.row table.nextId customer startedAt endedAt :: table.rows ∧
        after.nextId = table.nextId + 1 := by
  unfold createManualSession at done
  simp only [returns_bind_iff, require_eq_ok, exists_const] at done
  obtain ⟨-, -, startedAt, -, endedAt, -, order, -, -, customer, -, -, inserted⟩ := done
  exact ⟨customer, startedAt, endedAt, order, insert_ok inserted⟩

/-- Everything that an operation can do. -/
theorem run_effect (done : op.run now table = .ok after) : Effect now op table after := by
  cases op with
  | startSession input seat =>
    cases result : SupportSessions.startSession now table input seat with
    | error thrown =>
      simp only [Op.run, result] at done
      cases done
    | ok pair =>
      simp only [Op.run, result, Except.map, Except.ok.injEq] at done
      subst done
      rcases startSession_ok result with same | ⟨rows, nextId⟩
      · exact .same (by rw [same]) (by rw [same])
      · exact .insert _ rows nextId rfl rfl (.inl ⟨rfl, rfl⟩)
  | endReport sessionId tenantId body =>
    obtain ⟨rows, nextId⟩ := update_ok (body.fields.keeps now) done
    exact .update _ _ rows nextId (body.fields.keeps now) (fun _ => rfl)
      (.inl (steady_getD _ fun _ => rfl))
  | panelEndSession id tenantId form =>
    obtain ⟨issueType, resolution, description, rows, nextId⟩ := panelEndSession_ok done
    exact .update _ _ rows nextId (endFormSet_keeps now issueType resolution description)
      (fun _ => rfl) (.inr ⟨id, tenantId, form, rfl, rfl, fun _ => rfl⟩)
  | closeOrphanSessions tenantId seen =>
    obtain ⟨rows, nextId⟩ := update_ok (closeSet_keeps now seen) done
    exact .update _ _ rows nextId (closeSet_keeps now seen) (fun _ => rfl)
      (.inl (steady_close tenantId seen))
  | discardSessionSoft sessionId tenantId =>
    obtain ⟨rows, nextId⟩ := update_ok (discardSet_keeps now) done
    exact .update _ _ rows nextId (discardSet_keeps now) (fun _ => rfl)
      (.inl (steady_getD _ fun _ => rfl))
  | restoreSession sessionId tenantId =>
    obtain ⟨rows, nextId⟩ := update_ok restoreSet_keeps done
    exact .update _ _ rows nextId restoreSet_keeps (fun _ => rfl)
      (.inl (steady_same _ fun _ => rfl))
  | updateSessionRecord sessionId tenantId fields =>
    unfold Op.run updateSessionRecord at done
    rw [require_bind_eq_ok] at done
    obtain ⟨rows, nextId⟩ := update_ok fields.keeps done.2
    exact .update _ _ rows nextId fields.keeps (fun _ => rfl)
      (.inl (steady_same _ fun _ => rfl))
  | createManualSession input =>
    obtain ⟨customer, startedAt, endedAt, order, rows, nextId⟩ := createManualSession_ok done
    exact .insert _ rows nextId rfl rfl (.inr ⟨endedAt, rfl, order⟩)
  | discardSession sessionId tenantId =>
    cases done
    exact .delete _ rfl rfl

end Operations

section Steps

variable {s t : State} {event : Event}

/-- A step moves the clock on and runs the operation, or leaves the table. -/
theorem step_cases (next : sessions.step s event = some t) :
    s.now ≤ event.now ∧ t.now = event.now ∧
      (t.table = s.table ∧ t.reported = s.reported ∨
        event.op.run event.now s.table = .ok t.table ∧
          t.reported = event.op.reports s.table ++ s.reported) := by
  simp only [sessions, Option.ite_none_right_eq_some, Option.some.injEq] at next
  obtain ⟨later, rfl⟩ := next
  refine ⟨later, ?_⟩
  unfold State.after
  split
  · rename_i table done
    exact ⟨rfl, .inr ⟨done, rfl⟩⟩
  · exact ⟨rfl, .inl ⟨rfl, rfl⟩⟩

/-- An update that keeps ends keeps them also where the panel ends open sessions only. -/
theorem steady_of_endsOpen {here : SupportSession → Bool} {set : SupportSession → SupportSession}
    (guard : EndsOpen s event)
    (steady : Steady event.now here set ∨ ∃ id tenantId form,
      event.op = .panelEndSession id tenantId form ∧ here = within id tenantId ∧
        ∀ row, (set row).endedAt = some event.now) :
    ∀ row ∈ s.table.rows, here row = true →
      (∀ ended, row.endedAt = some ended → (set row).endedAt = some ended) ∧
        (row.endedAt = none → row.startedAt ≤ event.now →
          ∀ ended, (set row).endedAt = some ended → row.startedAt ≤ ended) := by
  intro row member hit
  rcases steady with steady | ⟨id, tenantId, form, panel, rfl, ends⟩
  · exact steady row hit
  · unfold EndsOpen at guard
    rw [panel] at guard
    have open' := guard row member hit
    constructor
    · intro ended old
      rw [open'] at old
      cases old
    · intro _ started ended new
      rw [ends] at new
      obtain rfl := Option.some.inj new
      exact started

/-- Ended sessions keep their end, and their keys are not drawn again. -/
structure Final (s t : State) : Prop where
  ends : ∀ row ∈ s.table.rows, ∀ ended, row.endedAt = some ended →
    ∀ later ∈ t.table.rows, later.id = row.id → later.endedAt = some ended
  keys : s.table.nextId ≤ t.table.nextId

theorem final_refl (s : State) : Final s s where
  ends := by
    intro row member ended old later inside same
    rw [eq_of_key s.table.valid.ids inside member same]
    exact old
  keys := Nat.le_refl _

/-- A guarded step after a run keeps the ends of its first state. -/
theorem final_step {r : State} (final : Final r s) (guard : EndsOpen s event)
    (next : sessions.step s event = some t) : Final r t := by
  obtain ⟨-, -, ⟨same, -⟩ | ⟨done, -⟩⟩ := step_cases next
  · refine ⟨?_, ?_⟩
    · rw [same]
      exact final.ends
    · rw [same]
      exact final.keys
  · cases run_effect done with
    | same rows nextId => exact ⟨rows ▸ final.ends, nextId ▸ final.keys⟩
    | update here set rows nextId keeps flag steady =>
      refine ⟨?_, nextId ▸ final.keys⟩
      rw [rows]
      intro row member ended old later inside same
      rcases mem_updateWhere.mp inside with ⟨before, known, hit, rfl⟩ | ⟨known, -⟩
      · have key := (keeps.id before).symm.trans same
        have kept := final.ends row member ended old before known key
        exact (steady_of_endsOpen guard steady before known hit).1 ended kept
      · exact final.ends row member ended old later known same
    | insert row rows nextId own flag time =>
      have keys := final.keys
      refine ⟨?_, by omega⟩
      rw [rows]
      intro first member ended old later inside same
      rcases List.mem_cons.mp inside with rfl | known
      · have below := r.table.valid.below first member
        omega
      · exact final.ends first member ended old later known same
    | delete here rows nextId =>
      refine ⟨?_, nextId ▸ final.keys⟩
      rw [rows]
      intro row member ended old later inside same
      exact final.ends row member ended old later (List.mem_of_mem_filter inside) same

/-- Rows that a step leaves stay sound as time passes. -/
theorem sound_later (sound : Sound s) {now : Int} (later : s.now ≤ now) :
    ∀ row ∈ s.table.rows, match row.endedAt with
      | some ended => row.startedAt ≤ ended
      | none => row.startedAt ≤ now := by
  intro row inside
  have own := sound row inside
  cases ended : row.endedAt with
  | some time => simpa [ended] using own
  | none =>
    simp only [ended] at own
    exact Int.le_trans own later

/-- A guarded step keeps every end behind its start. -/
theorem sound_step (sound : Sound s) (guard : EndsOpen s event)
    (next : sessions.step s event = some t) : Sound t := by
  obtain ⟨later, clock, ⟨same, -⟩ | ⟨done, -⟩⟩ := step_cases next
  · have kept := sound_later sound later
    unfold Sound
    rw [same, clock]
    exact kept
  · have kept := sound_later sound later
    rw [← clock] at kept
    unfold Sound
    cases run_effect done with
    | same rows nextId =>
      rw [rows]
      exact kept
    | update here set rows nextId keeps flag steady =>
      rw [rows]
      intro row inside
      rcases mem_updateWhere.mp inside with ⟨before, known, hit, rfl⟩ | ⟨known, -⟩
      · have steadily := steady_of_endsOpen guard steady before known hit
        have own := sound before known
        rw [keeps.startedAt]
        cases old : before.endedAt with
        | some time =>
          rw [steadily.1 time old]
          simpa [old] using own
        | none =>
          simp only [old] at own
          cases new : (set before).endedAt with
          | some time => exact steadily.2 old (Int.le_trans own later) time new
          | none =>
            rw [clock]
            exact Int.le_trans own later
      · exact kept row known
    | insert row rows nextId own flag time =>
      rw [rows]
      intro other inside
      rcases List.mem_cons.mp inside with rfl | known
      · rcases time with ⟨open', start⟩ | ⟨ended, set, order⟩
        · have begun : other.startedAt ≤ t.now := by omega
          rw [open']
          exact begun
        · rw [set]
          exact order
      · exact kept other known
    | delete here rows nextId =>
      rw [rows]
      intro row inside
      exact kept row (List.mem_of_mem_filter inside)

/-- A step sets no flag. -/
theorem flag_step (unset : ∀ row ∈ s.table.rows, row.viaSchedWindow = false)
    (next : sessions.step s event = some t) :
    ∀ row ∈ t.table.rows, row.viaSchedWindow = false := by
  obtain ⟨-, -, ⟨same, -⟩ | ⟨done, -⟩⟩ := step_cases next
  · rw [same]
    exact unset
  · cases run_effect done with
    | same rows nextId =>
      rw [rows]
      exact unset
    | update here set rows nextId keeps flag steady =>
      rw [rows]
      intro row inside
      rcases mem_updateWhere.mp inside with ⟨before, known, -, rfl⟩ | ⟨known, -⟩
      · rw [flag]
        exact unset before known
      · exact unset row known
    | insert row rows nextId own flag time =>
      rw [rows]
      intro other inside
      rcases List.mem_cons.mp inside with rfl | known
      · exact flag
      · exact unset other known
    | delete here rows nextId =>
      rw [rows]
      intro row inside
      exact unset row (List.mem_of_mem_filter inside)

end Steps

/-- In runs in which the panel ends open sessions only, an end that is recorded never changes and
is never before the start. -/
theorem ended_final (s t : State) (reached : sessions.Reaches EndsOpen s)
    (run : sessions.Runs EndsOpen s t) :
    (∀ row ∈ s.table.rows, ∀ ended, row.endedAt = some ended →
      ∀ later ∈ t.table.rows, later.id = row.id → later.endedAt = some ended) ∧
    ∀ row ∈ t.table.rows, ∀ ended, row.endedAt = some ended → row.startedAt ≤ ended := by
  constructor
  · have final : Final s t := run.invariant (Final s)
      (fun _ _ _ final guard next => final_step final guard next) (final_refl s)
    exact final.ends
  · intro row inside ended set
    have sound : Sound t := (reached.run run).invariant Sound (fun _ start => start.1)
      fun _ _ _ sound guard next => sound_step sound guard next
    have own := sound row inside
    rw [set] at own
    exact own

/-- No session yet. -/
def fresh : State where
  table := { rows := [], nextId := 1, valid := ⟨List.nodup_nil, List.forall_mem_nil _, .nil⟩ }
  now := 0
  reported := []

theorem fresh_starts : sessions.start fresh :=
  ⟨List.forall_mem_nil _, List.forall_mem_nil _, rfl⟩

/-- An operator connects, and the app reports the end; the agent had announced a window. -/
def visit : List Event :=
  [⟨1000, .startSession { tenantId := 1, operatorId := 1, customerId := 1, remoteId := none } none⟩,
    ⟨61000, .endReport 1 1 { viaSchedWindow := true }⟩]

/-- The state after it. -/
def visited : State := sessions.play Machine.free fresh visit

theorem visited_reached : sessions.Reaches Machine.free visited :=
  ⟨fresh, fresh_starts, Machine.runs_play sessions Machine.free fresh visit⟩

/-- The ends of the sessions of a state. -/
def State.ends (s : State) : List (Nat × Int × Option Int) :=
  s.table.rows.map fun row => (row.id, row.startedAt, row.endedAt)

/-- Under the guard the visit keeps its end when its text is saved, and after its discard. -/
theorem visited_final :
    (sessions.play Machine.free visited
        [⟨90000, .endReport 1 1 { contactName := some "Kim" }⟩,
          ⟨95000, .discardSessionSoft 1 1⟩]).ends = [(1, 1000, some 61000)] ∧
      ∀ t, sessions.Runs EndsOpen visited t → ∀ later ∈ t.table.rows, later.id = 1 →
        later.endedAt = some 61000 := by
  refine ⟨by decide +kernel, ?_⟩
  intro t run later inside same
  have guarded : sessions.Runs EndsOpen fresh visited := by
    refine .step (visit.get ⟨1, by decide⟩) (.step (visit.get ⟨0, by decide⟩) .refl trivial rfl)
      trivial ?_
    rfl
  have row : ∃ row ∈ visited.table.rows, row.id = 1 ∧ row.endedAt = some 61000 := by
    decide +kernel
  obtain ⟨row, member, key, ended⟩ := row
  have reached : sessions.Reaches EndsOpen visited := ⟨fresh, fresh_starts, guarded⟩
  exact (ended_final visited t reached run).1 row member 61000 ended later inside
    (same.trans key.symm)

/-- The panel ends a session that has ended. -/
def endAgain : List Event := [⟨3600000, .panelEndSession 1 1 {}⟩]

/-- A manual record may begin up to a minute from now, and the panel ends it now. -/
def endEarly : List Event :=
  [⟨0, .createManualSession
      { tenantId := 1, operatorId := 1, customer := some (some (1, none)), startedAt := some 60000,
        endedAt := some 60000, fields := { description := some (some "visit") } }⟩,
    ⟨1000, .panelEndSession 1 1 {}⟩]

/-- The panel's `endSession` moves an end that was recorded, and may set it before the start. -/
theorem endAgain_moves :
    (¬ ∀ s t, sessions.Reaches Machine.free s → sessions.Runs Machine.free s t →
      ∀ row ∈ s.table.rows, ∀ ended, row.endedAt = some ended →
        ∀ later ∈ t.table.rows, later.id = row.id → later.endedAt = some ended) ∧
    ¬ ∀ s t, sessions.Reaches Machine.free s → sessions.Runs Machine.free s t →
      ∀ row ∈ t.table.rows, ∀ ended, row.endedAt = some ended → row.startedAt ≤ ended := by
  constructor
  · intro final
    have moved : ∃ row ∈ visited.table.rows, row.endedAt = some 61000 ∧
        ∃ later ∈ (sessions.play Machine.free visited endAgain).table.rows,
          later.id = row.id ∧ later.endedAt = some 3600000 := by
      decide +kernel
    obtain ⟨row, member, ended, later, inside, same, new⟩ := moved
    have kept := final visited _ visited_reached
      (Machine.runs_play sessions Machine.free visited endAgain) row member 61000 ended later inside
      same
    rw [new] at kept
    exact absurd kept (by decide)
  · intro behind
    have early : ∃ row ∈ (sessions.play Machine.free fresh endEarly).table.rows,
        row.endedAt = some 1000 ∧ row.startedAt = 60000 := by
      decide +kernel
    obtain ⟨row, inside, ended, start⟩ := early
    have order := behind fresh _ ⟨fresh, fresh_starts, .refl⟩
      (Machine.runs_play sessions Machine.free fresh endEarly) row inside 1000 ended
    omega

/-- The flag of a session tells whether an accepted end report carried it. -/
def FlagTells (s : State) (row : SupportSession) : Prop :=
  (row.id ∈ s.reported → row.viaSchedWindow = true) ∧
    (row.id ∉ s.reported → row.viaSchedWindow = false)

/-- In every run the flag of a session tells what the end reports carried exactly if none of them
carried the flag. -/
theorem flagTells_iff (s : State) (reached : sessions.Reaches Machine.free s)
    (row : SupportSession) (inside : row ∈ s.table.rows) :
    FlagTells s row ↔ row.id ∉ s.reported := by
  have unset : row.viaSchedWindow = false :=
    reached.invariant (fun s => ∀ row ∈ s.table.rows, row.viaSchedWindow = false)
      (fun _ start => start.2.1) (fun _ _ _ unset _ next => flag_step unset next) row inside
  unfold FlagTells
  rw [unset]
  constructor
  · intro tells reported
    exact Bool.false_ne_true (tells.1 reported)
  · intro silent
    exact ⟨fun reported => absurd reported silent, fun _ => rfl⟩

/-- A start that nothing ended yet keeps a flag that tells. -/
theorem started_flagTells :
    ∃ row ∈ (sessions.play Machine.free fresh (visit.take 1)).table.rows,
      FlagTells (sessions.play Machine.free fresh (visit.take 1)) row := by
  have row : ∃ row ∈ (sessions.play Machine.free fresh (visit.take 1)).table.rows,
      row.id ∉ (sessions.play Machine.free fresh (visit.take 1)).reported := by
    decide +kernel
  obtain ⟨row, inside, silent⟩ := row
  refine ⟨row, inside, (flagTells_iff _ ?_ row inside).mpr silent⟩
  exact ⟨fresh, fresh_starts, Machine.runs_play sessions Machine.free fresh (visit.take 1)⟩

/-- The report of the visit carries the flag, and the session does not get it. -/
theorem visited_flag_lost :
    sessions.Reaches Machine.free visited ∧ visited.reported = [1] ∧
      ¬ ∀ row ∈ visited.table.rows, FlagTells visited row := by
  refine ⟨visited_reached, by decide +kernel, ?_⟩
  intro tells
  have row : ∃ row ∈ visited.table.rows,
      row.id ∈ visited.reported ∧ row.viaSchedWindow = false := by
    decide +kernel
  obtain ⟨row, inside, reported, unset⟩ := row
  have set := (tells row inside).1 reported
  rw [unset] at set
  cases set

end ChainRemote.Panel.SupportSessions
