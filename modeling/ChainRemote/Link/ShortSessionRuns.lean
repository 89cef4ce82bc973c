import ChainRemote.Link.ShortSessions
import Mathlib.Tactic.ByContra

/-!
# No long session is erased in a prompt run

A row that a window knows is not older than the window, unless the start found the open session of
an earlier one; so a discard of such a row that is handled within fifteen seconds of the opening of
its window deletes a row of less than fifteen seconds. A session that was left open is handed to the
next window, and the button of the notes deletes whatever the row has lasted.
-/

namespace ChainRemote.Link.ShortSessions

open Lib Hq.SessionRecords Panel.SupportSessions


/-- What every run keeps: a row is ended by now, or was closed as an orphan long after its
start; and a row that a window knows is not older than the window, unless it was reused. -/
structure Sound (s : State) : Prop where
  ended : ∀ row ∈ s.table.rows, ∀ ended, row.endedAt = some ended →
    ended ≤ s.now ∨ row.startedAt + graceMs < s.now
  opened : ∀ window ∈ s.windows, window.startMs ≤ s.now
  below : ∀ window ∈ s.windows, ∀ sessionId, window.sessionId = some sessionId →
    sessionId < s.table.nextId
  known : ∀ window ∈ s.windows, window.reused = false → ∀ sessionId,
    window.sessionId = some sessionId → ∀ row ∈ s.table.rows, row.id = sessionId →
      window.startMs ≤ row.startedAt

section

variable {s t : State} {i : Nat} {window : Window}

/-- A member of a list with one change. -/
theorem mem_modify {set : Window → Window} {other : Window}
    (inside : other ∈ s.windows.modify i set) :
    (∃ old, s.windows[i]? = some old ∧ set old = other) ∨ other ∈ s.windows := by
  obtain ⟨place, found⟩ := List.getElem?_of_mem inside
  rcases getElem?_modify_eq_some found with ⟨rfl, changed⟩ | ⟨-, here⟩
  · exact .inl changed
  · exact .inr (List.mem_of_getElem? here)

/-- A window changes, and neither its opening nor what it knows. -/
theorem Sound.change (sound : Sound s) (i : Nat) {set : Window → Window}
    (keeps : ∀ window, (set window).startMs = window.startMs ∧
      (set window).sessionId = window.sessionId ∧ (set window).reused = window.reused) :
    Sound (s.change i set) := by
  have back : ∀ window ∈ s.windows.modify i set, ∃ old ∈ s.windows,
      window.startMs = old.startMs ∧ window.sessionId = old.sessionId ∧
        window.reused = old.reused := by
    intro window inside
    rcases mem_modify inside with ⟨old, found, rfl⟩ | here
    · exact ⟨old, List.mem_of_getElem? found, keeps old⟩
    · exact ⟨window, here, rfl, rfl, rfl⟩
  refine { ended := sound.ended, opened := ?_, below := ?_, known := ?_ }
  · intro window inside
    obtain ⟨old, here, same, -⟩ := back window inside
    rw [same]
    exact sound.opened old here
  · intro window inside sessionId named
    obtain ⟨old, here, -, same, -⟩ := back window inside
    exact sound.below old here sessionId (same ▸ named)
  · intro window inside fresh sessionId named row member own
    obtain ⟨old, here, started, same, reused⟩ := back window inside
    rw [started]
    exact sound.known old here (reused ▸ fresh) sessionId (same ▸ named) row member own

/-- The panel updates rows. -/
theorem Sound.update (sound : Sound s) {here : SupportSession → Bool}
    {set : SupportSession → SupportSession} (keeps : Keeps set) {table : Table}
    (rows : table.rows = updateWhere here set s.table.rows) (nextId : table.nextId = s.table.nextId)
    (sets : ∀ row ∈ s.table.rows, here row = true → ∀ ended, (set row).endedAt = some ended →
      ended ≤ s.now ∨ row.startedAt + graceMs < s.now) : Sound { s with table := table } := by
  refine { ended := ?_, opened := sound.opened, below := ?_, known := ?_ }
  · intro row inside ended time
    rw [rows] at inside
    rcases mem_updateWhere.mp inside with ⟨old, member, hit, rfl⟩ | ⟨member, -⟩
    · rw [keeps.startedAt]
      exact sets old member hit ended time
    · exact sound.ended row member ended time
  · intro window inside sessionId named
    show sessionId < table.nextId
    rw [nextId]
    exact sound.below window inside sessionId named
  · intro window inside fresh sessionId named row member own
    rw [rows] at member
    rcases mem_updateWhere.mp member with ⟨old, stored, -, rfl⟩ | ⟨stored, -⟩
    · rw [keeps.startedAt]
      rw [keeps.id] at own
      exact sound.known window inside fresh sessionId named old stored own
    · exact sound.known window inside fresh sessionId named row stored own

/-- The panel deletes rows. -/
theorem Sound.delete (sound : Sound s) (here : SupportSession → Bool) :
    Sound { s with table := s.table.delete here } where
  ended := fun row inside => sound.ended row (List.mem_of_mem_filter inside)
  opened := sound.opened
  below := sound.below
  known := fun window inside fresh sessionId named row member =>
    sound.known window inside fresh sessionId named row (List.mem_of_mem_filter member)

/-- A discard that is handled. -/
theorem Sound.discarded (sound : Sound s) (window : Window) :
    Sound { s with table := s.discarded window } := by
  unfold State.discarded
  split
  · exact sound
  · exact sound.delete _

/-- An end that is handled. -/
theorem Sound.endReport (sound : Sound s) (window : Window) (body : EndBody) :
    Sound { s with table := s.ended window body } := by
  unfold State.ended
  split
  · exact sound
  · split
    · rename_i table done
      obtain ⟨rows, nextId⟩ := update_ok (body.fields.keeps s.now) done
      refine sound.update (body.fields.keeps s.now) rows nextId ?_
      intro row member _ ended time
      cases old : row.endedAt with
      | none =>
        have now : (s.now : Int) = ended := by simpa [EndSessionFields.set, old] using time
        exact .inl (by omega)
      | some before =>
        have same : before = ended := by simpa [EndSessionFields.set, old] using time
        rw [← same]
        exact sound.ended row member before old
    · exact sound

/-- The orphans are closed. -/
theorem Sound.closeOrphans (sound : Sound s) (tenantId : Nat) (seen : Nat → Option Int) :
    Sound (s.closeOrphans tenantId seen) := by
  unfold State.closeOrphans
  split
  · rename_i table done
    obtain ⟨rows, nextId⟩ := update_ok (closeSet_keeps s.now seen) done
    refine sound.update (closeSet_keeps s.now seen) rows nextId ?_
    intro row _ hit _ _
    simp only [orphan, Bool.and_eq_true, decide_eq_true_eq] at hit
    exact .inr (by omega)
  · exact sound

/-- What a start returns: an open session, or a new row of now. -/
theorem startSession_returns {now : Int} {table after : Table} {input : StartInput}
    {seat : Option (Option String × Option String)} {row : SupportSession}
    (done : startSession now table input seat = .ok (row, after)) :
    (table.rows.find? input.selects = some row ∧ after = table) ∨
      (row = input.row now table.nextId seat ∧ after.rows = row :: table.rows ∧
        after.nextId = table.nextId + 1) := by
  unfold startSession at done
  split at done
  · rename_i existing found
    cases done
    exact .inl ⟨found, rfl⟩
  · rw [require_bind_eq_ok, returns_bind_iff] at done
    obtain ⟨-, made, inserted, same⟩ := done
    cases same
    exact .inr ⟨rfl, insert_ok inserted⟩

/-- The panel inserts an open row. -/
theorem Sound.insert (sound : Sound s) {row : SupportSession} {table : Table}
    (rows : table.rows = row :: s.table.rows) (nextId : table.nextId = s.table.nextId + 1)
    (own : row.id = s.table.nextId) (live : row.endedAt = none) :
    Sound { s with table := table } := by
  refine { ended := ?_, opened := sound.opened, below := ?_, known := ?_ }
  · intro other inside ended time
    rw [rows] at inside
    rcases List.mem_cons.mp inside with rfl | old
    · rw [live] at time
      cases time
    · exact sound.ended other old ended time
  · intro window inside sessionId named
    have below := sound.below window inside sessionId named
    show sessionId < table.nextId
    omega
  · intro window inside fresh sessionId named other there same
    have below := sound.below window inside sessionId named
    rw [rows] at there
    rcases List.mem_cons.mp there with rfl | old
    · omega
    · exact sound.known window inside fresh sessionId named other old same

/-- A window takes a row as its session. -/
theorem Sound.adopt (sound : Sound s) (i : Nat) {row : SupportSession}
    (member : row ∈ s.table.rows) :
    Sound (s.change i fun window =>
      { window with
        sessionId := some row.id
        reused := decide (row.startedAt < window.startMs)
        phase := .running }) := by
  refine { ended := sound.ended, opened := ?_, below := ?_, known := ?_ }
  · intro other inside
    rcases mem_modify inside with ⟨old, here, rfl⟩ | here
    · exact sound.opened old (List.mem_of_getElem? here)
    · exact sound.opened other here
  · intro other inside sessionId named
    rcases mem_modify inside with ⟨old, -, rfl⟩ | here
    · obtain rfl := Option.some.inj named
      exact s.table.valid.below row member
    · exact sound.below other here sessionId named
  · intro other inside fresh sessionId named known there own
    rcases mem_modify inside with ⟨old, -, rfl⟩ | here
    · obtain rfl := Option.some.inj named
      rw [eq_of_key s.table.valid.ids there member own]
      have young : ¬ row.startedAt < old.startMs := of_decide_eq_false fresh
      exact Int.not_lt.mp young
    · exact sound.known other here fresh sessionId named known there own

/-- A start that the panel handles. -/
theorem Sound.started (sound : Sound s) {seat : Option (Option String × Option String)}
    (next : s.started i window seat = some t) : Sound t := by
  unfold State.started at next
  split at next
  · split at next
    · rename_i row table done
      obtain rfl := Option.some.inj next
      rcases startSession_returns done with ⟨existing, rfl⟩ | ⟨new, rows, nextId⟩
      · exact sound.adopt i (List.mem_of_find?_eq_some existing)
      · have inserted : Sound { s with table := table } :=
          sound.insert rows nextId (by rw [new]; rfl) (by rw [new]; rfl)
        have member : row ∈ table.rows := by
          rw [rows]
          exact List.mem_cons_self
        exact inserted.adopt i member
    · obtain rfl := Option.some.inj next
      exact sound.change i fun _ => ⟨rfl, rfl, rfl⟩
  · cases next

/-- A window opens. -/
theorem Sound.start (sound : Sound s) (input : StartInput) :
    Sound { s with windows := s.windows ++ [{ input := input, startMs := s.now }] } := by
  refine { ended := sound.ended, opened := ?_, below := ?_, known := ?_ }
  · intro window inside
    rcases List.mem_append.mp inside with old | new
    · exact sound.opened window old
    · rw [List.mem_singleton.mp new]
  · intro window inside sessionId named
    rcases List.mem_append.mp inside with old | new
    · exact sound.below window old sessionId named
    · rw [List.mem_singleton.mp new] at named
      cases named
  · intro window inside fresh sessionId named
    rcases List.mem_append.mp inside with old | new
    · exact sound.known window old fresh sessionId named
    · rw [List.mem_singleton.mp new] at named
      cases named

/-- Time passes. -/
theorem Sound.pass (sound : Sound s) (ms : Nat) : Sound { s with now := s.now + ms } where
  ended := by
    intro row inside ended time
    have before := sound.ended row inside ended time
    show ended ≤ ((s.now + ms : Nat) : Int) ∨ row.startedAt + graceMs < ((s.now + ms : Nat) : Int)
    omega
  opened := by
    intro window inside
    have before := sound.opened window inside
    show window.startMs ≤ s.now + ms
    omega
  below := sound.below
  known := sound.known

/-- Every step keeps it. -/
theorem Sound.step {e : Event} (sound : Sound s) (next : step s e = some t) : Sound t := by
  cases e with
  | start input => cases next; exact sound.start input
  | started i seat =>
    obtain ⟨window, found, next⟩ := Option.bind_eq_some_iff.mp next
    exact sound.started next
  | endAuto i =>
    obtain ⟨window, found, next⟩ := Option.bind_eq_some_iff.mp next
    unfold State.endAuto at next
    split at next
    · split at next
      · obtain rfl := Option.some.inj next
        exact sound.change i fun _ => ⟨rfl, rfl, rfl⟩
      · obtain rfl := Option.some.inj next
        exact sound.change i fun _ => ⟨rfl, rfl, rfl⟩
    · cases next
  | handled i body =>
    obtain ⟨window, found, next⟩ := Option.bind_eq_some_iff.mp next
    unfold State.handled at next
    split at next
    · obtain rfl := Option.some.inj next
      exact (sound.discarded window).change i fun _ => ⟨rfl, rfl, rfl⟩
    · obtain rfl := Option.some.inj next
      exact (sound.endReport window body).change i fun _ => ⟨rfl, rfl, rfl⟩
    · cases next
  | annotate i discard body =>
    obtain ⟨window, found, next⟩ := Option.bind_eq_some_iff.mp next
    unfold State.annotate at next
    split at next
    · obtain rfl := Option.some.inj next
      cases discard with
      | true => exact (sound.discarded window).change i fun _ => ⟨rfl, rfl, rfl⟩
      | false => exact (sound.endReport window body).change i fun _ => ⟨rfl, rfl, rfl⟩
    · cases next
  | dismiss i =>
    obtain ⟨window, found, next⟩ := Option.bind_eq_some_iff.mp next
    obtain ⟨-, same⟩ := Option.ite_none_right_eq_some.mp next
    obtain rfl := Option.some.inj same
    exact sound.change i fun _ => ⟨rfl, rfl, rfl⟩
  | closeOrphans tenantId seen => cases next; exact sound.closeOrphans tenantId seen
  | restart i =>
    obtain ⟨window, found, next⟩ := Option.bind_eq_some_iff.mp next
    obtain ⟨-, same⟩ := Option.ite_none_right_eq_some.mp next
    obtain rfl := Option.some.inj same
    exact sound.change i fun _ => ⟨rfl, rfl, rfl⟩
  | pass ms => cases next; exact sound.pass ms

/-- No row is gone. -/
def KeepsRows (before after : Table) : Prop :=
  ∀ row ∈ before.rows, ∃ other ∈ after.rows, other.id = row.id

theorem keepsRows_refl (table : Table) : KeepsRows table table :=
  fun row inside => ⟨row, inside, rfl⟩

/-- An update deletes nothing. -/
theorem keepsRows_update {table after : Table} {here : SupportSession → Bool}
    {set : SupportSession → SupportSession} (keeps : Keeps set)
    (done : table.update here set keeps = .ok after) : KeepsRows table after := by
  intro row inside
  have ids : after.rows.map SupportSession.id = table.rows.map SupportSession.id := by
    rw [(update_ok keeps done).1]
    exact map_updateWhere SupportSession.id keeps.id
  have named : row.id ∈ after.rows.map SupportSession.id := by
    rw [ids]
    exact List.mem_map_of_mem inside
  exact List.mem_map.mp named

/-- An end that is handled deletes nothing. -/
theorem keepsRows_ended (s : State) (window : Window) (body : EndBody) :
    KeepsRows s.table (s.ended window body) := by
  unfold State.ended
  split
  · exact keepsRows_refl _
  · split
    · rename_i done
      exact keepsRows_update _ done
    · exact keepsRows_refl _

/-- A step deletes nothing, or is a discard that is handled, or a refusal of the notes. -/
theorem step_keepsRows {e : Event} (next : step s e = some t) :
    KeepsRows s.table t.table ∨
      (∃ i body window, e = .handled i body ∧ s.windows[i]? = some window ∧
        window.phase = .posting true ∧ t.table = s.discarded window) ∨
      ∃ i body, e = .annotate i true body := by
  cases e with
  | start input => cases next; exact .inl (keepsRows_refl _)
  | started i seat =>
    obtain ⟨window, found, next⟩ := Option.bind_eq_some_iff.mp next
    unfold State.started at next
    split at next
    · split at next
      · rename_i row table done
        obtain rfl := Option.some.inj next
        refine .inl ?_
        intro old inside
        rcases startSession_returns done with ⟨-, rfl⟩ | ⟨-, rows, -⟩
        · exact ⟨old, inside, rfl⟩
        · refine ⟨old, ?_, rfl⟩
          show old ∈ table.rows
          rw [rows]
          exact List.mem_cons_of_mem row inside
      · obtain rfl := Option.some.inj next
        exact .inl (keepsRows_refl _)
    · cases next
  | endAuto i =>
    obtain ⟨window, found, next⟩ := Option.bind_eq_some_iff.mp next
    unfold State.endAuto at next
    split at next
    · split at next
      · obtain rfl := Option.some.inj next
        exact .inl (keepsRows_refl _)
      · obtain rfl := Option.some.inj next
        exact .inl (keepsRows_refl _)
    · cases next
  | handled i body =>
    obtain ⟨window, found, next⟩ := Option.bind_eq_some_iff.mp next
    unfold State.handled at next
    split at next
    · rename_i posting
      obtain rfl := Option.some.inj next
      exact .inr (.inl ⟨i, body, window, rfl, found, posting, rfl⟩)
    · obtain rfl := Option.some.inj next
      exact .inl (keepsRows_ended s window body)
    · cases next
  | annotate i discard body =>
    obtain ⟨window, found, next⟩ := Option.bind_eq_some_iff.mp next
    unfold State.annotate at next
    split at next
    · obtain rfl := Option.some.inj next
      cases discard with
      | true => exact .inr (.inr ⟨i, body, rfl⟩)
      | false => exact .inl (keepsRows_ended s window body)
    · cases next
  | dismiss i =>
    obtain ⟨window, found, next⟩ := Option.bind_eq_some_iff.mp next
    obtain ⟨-, same⟩ := Option.ite_none_right_eq_some.mp next
    obtain rfl := Option.some.inj same
    exact .inl (keepsRows_refl _)
  | closeOrphans tenantId seen =>
    cases next
    unfold State.closeOrphans
    split
    · rename_i done
      exact .inl (keepsRows_update _ done)
    · exact .inl (keepsRows_refl _)
  | restart i =>
    obtain ⟨window, found, next⟩ := Option.bind_eq_some_iff.mp next
    obtain ⟨-, same⟩ := Option.ite_none_right_eq_some.mp next
    obtain rfl := Option.some.inj same
    exact .inl (keepsRows_refl _)
  | pass ms => cases next; exact .inl (keepsRows_refl _)

/-- A row that a prompt discard deletes is short. -/
theorem Sound.discards (sound : Sound s) (inside : window ∈ s.windows)
    (fresh : window.reused = false) (prompt : s.now < window.startMs + minRecordSec * 1000)
    {row : SupportSession} (member : row ∈ s.table.rows)
    (gone : ∀ other ∈ (s.discarded window).rows, other.id ≠ row.id) :
    span s.now row < minRecordSec * 1000 := by
  unfold State.discarded at gone
  split at gone
  · exact absurd rfl (gone row member)
  · rename_i sessionId named
    have selected : within sessionId window.input.tenantId row = true := by
      by_contra other
      refine gone row (List.mem_filter.mpr ⟨member, ?_⟩) rfl
      rw [Bool.not_eq_true] at other
      rw [other]
      rfl
    have own : row.id = sessionId := by
      simp only [within, Bool.and_eq_true, beq_iff_eq] at selected
      exact selected.1
    have begun := sound.known window inside fresh sessionId named row member own
    simp only [minRecordSec] at prompt ⊢
    unfold span
    cases time : row.endedAt with
    | none =>
      show (s.now : Int) - row.startedAt < _
      omega
    | some ended =>
      have past := sound.ended row member ended time
      simp only [graceMs] at past
      show ended - row.startedAt < _
      omega

end

/-- In every run in which every discard is for a session that is not older than its window and is
handled within fifteen seconds of the opening of the window, and no notes are refused, no row of
fifteen seconds or more is deleted. -/
theorem sessions_spared (s t : State) (e : Event) (reached : machine.Reaches Prompt s)
    (guard : Prompt s e) (next : machine.step s e = some t) : ErasesShort s e t := by
  have sound : Sound s := by
    refine reached.invariant Sound ?_ fun _ _ _ sound _ next => sound.step next
    intro first ⟨windows, past⟩
    refine { ended := fun row inside ended time => .inl (past row inside ended time),
             opened := ?_, below := ?_, known := ?_ } <;>
    · intro window inside
      rw [windows] at inside
      cases inside
  intro row member gone
  rcases step_keepsRows next with kept | ⟨i, body, window, rfl, found, posting, same⟩ | refused
  · obtain ⟨other, inside, own⟩ := kept row member
    exact absurd own (gone other inside)
  · rw [same] at gone
    obtain ⟨fresh, prompt⟩ := guard window found posting
    exact sound.discards (List.mem_of_getElem? found) fresh prompt member gone
  · obtain ⟨i, body, rfl⟩ := refused
    cases guard

/-- An app without windows and a panel without sessions. -/
def quiet : State where
  windows := []
  table := Panel.SupportSessions.fresh.table
  now := 1000

/-- An operator connects to a store. -/
def toStore : StartInput where
  tenantId := 1
  operatorId := 1
  customerId := 1
  remoteId := some "100"

/-- A window of five seconds, whose discard is on its way. -/
def visited : State :=
  machine.play Machine.free quiet [.start toStore, .started 0 none, .pass 5000, .endAuto 0]

theorem visited_prompt : machine.Reaches Prompt visited :=
  ⟨quiet, ⟨rfl, List.forall_mem_nil _⟩, .step (.endAuto 0) (.step (.pass 5000) (.step
    (.started 0 none) (.step (.start toStore) .refl trivial rfl) trivial rfl) trivial rfl)
    trivial rfl⟩

/-- The discard deletes the row of five seconds. -/
theorem visited_spared : ∃ t, machine.step visited (.handled 0 {}) = some t ∧
    ErasesShort visited (.handled 0 {}) t ∧
      visited.table.rows.map (span visited.now) = [5000] ∧ t.table.rows = [] := by
  have prompt : Prompt visited (.handled 0 {}) := by
    intro window found _
    have all : ∀ window ∈ visited.windows,
        window.reused = false ∧ visited.now < window.startMs + minRecordSec * 1000 := by
      decide +kernel
    exact all window (List.mem_of_getElem? found)
  exact ⟨_, rfl, sessions_spared visited _ (.handled 0 {}) visited_prompt prompt rfl,
    by decide +kernel, by decide +kernel⟩

/-- The app restarts during a session, and an hour later a window of five seconds is closed. -/
def reused : List Event :=
  [.start toStore, .started 0 none, .restart 0, .pass 3600000, .start toStore, .started 1 none,
    .pass 5000, .endAuto 1]

/-- The notes of a session of a minute are asked for. -/
def annotated : List Event :=
  [.start toStore, .started 0 none, .pass 60000, .endAuto 0, .handled 0 {}]

/-- The event deletes a row of fifteen seconds or more. -/
def State.erases (s : State) (e : Event) : Bool :=
  (step s e).any fun t => s.table.rows.any fun row =>
    (t.table.rows.all fun other => other.id != row.id) && decide (15000 ≤ span s.now row)

/-- A session of an hour that a short window found open is erased, and so is one of a minute whose
notes are refused. -/
theorem sessions_erased :
    (∃ s, machine.Reaches Machine.free s ∧ s.erases (.handled 1 {})) ∧
      ∃ s, machine.Reaches Machine.free s ∧ s.erases (.annotate 0 true {}) := by
  have started : machine.start quiet := ⟨rfl, List.forall_mem_nil _⟩
  constructor
  · exact ⟨_, ⟨quiet, started, Machine.runs_play _ _ quiet reused⟩, by decide +kernel⟩
  · exact ⟨_, ⟨quiet, started, Machine.runs_play _ _ quiet annotated⟩, by decide +kernel⟩

end ChainRemote.Link.ShortSessions
