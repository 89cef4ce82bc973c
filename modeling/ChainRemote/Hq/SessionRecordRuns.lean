import ChainRemote.Hq.SessionRecords

/-!
# Every recorded session is closed

Where no window opens while the map still has a record of its peer, the map names every record whose
end has not run to its last line, so each end works on the record of its own window and takes its
own key out. A start that is given up has lost its session, and a key that a later window has put
over an earlier one is taken out by the earlier end.
-/

namespace ChainRemote.Hq.SessionRecords

open Lib

/-- What is known of a record at a place. -/
def Held (crRecs : String → Option Nat) (i : Nat) (rec : Rec) : Prop :=
  rec.sessionId = (if rec.arrived then rec.answer else "") ∧
    match rec.stage with
    | none =>
      crRecs rec.peerId = some i ∧ rec.disposed = false ∧ rec.recorded = false ∧ rec.closings = []
    | some (.resolving _) =>
      crRecs rec.peerId = some i ∧ rec.disposed = true ∧ rec.closings = []
    | some (.posting _) | some .notifying =>
      crRecs rec.peerId = some i ∧ rec.disposed = true ∧ rec.Closed
    | some .finished => rec.disposed = true ∧ rec.Closed

/-- What is known of every record. -/
def Tracked (s : State) : Prop := ∀ i rec, s.recs[i]? = some rec → Held s.crRecs i rec

section Steps

variable {s t : State} {i : Nat} {rec : Rec}

/-- A record stays held where the keys of its place stay. -/
theorem Held.mono {crRecs later : String → Option Nat} (held : Held crRecs i rec)
    (kept : ∀ peerId, crRecs peerId = some i → later peerId = some i) : Held later i rec := by
  obtain ⟨sid, known⟩ := held
  refine ⟨sid, ?_⟩
  split at known
  · exact ⟨kept _ known.1, known.2⟩
  · exact ⟨kept _ known.1, known.2⟩
  · exact ⟨kept _ known.1, known.2⟩
  · exact ⟨kept _ known.1, known.2⟩
  · exact known

/-- A record that its end has not left is in the map. -/
theorem Held.key {crRecs : String → Option Nat} (held : Held crRecs i rec)
    (going : rec.stage ≠ some .finished) : crRecs rec.peerId = some i := by
  have known := held.2
  split at known
  · exact known.1
  · exact known.1
  · exact known.1
  · exact known.1
  · rename_i finished
    exact absurd finished going

/-- One record changes, and perhaps its key. -/
theorem Tracked.modify (tracked : Tracked s) (found : s.recs[i]? = some rec) {set : Rec → Rec}
    {crRecs : String → Option Nat} (held : Held crRecs i (set rec))
    (kept : ∀ other, other ≠ i → ∀ peerId, s.crRecs peerId = some other →
      crRecs peerId = some other) :
    Tracked { s with recs := s.recs.modify i set, crRecs := crRecs } := by
  intro place changed inside
  rcases getElem?_modify_eq_some inside with ⟨rfl, old, here, rfl⟩ | ⟨away, here⟩
  · rw [found] at here
    obtain rfl := Option.some.inj here
    exact held
  · exact (tracked place changed here).mono (kept place away)

/-- One record changes and the map does not. -/
theorem Tracked.change (tracked : Tracked s) (found : s.recs[i]? = some rec) {set : Rec → Rec}
    (held : Held s.crRecs i (set rec)) : Tracked (s.change i set) :=
  tracked.modify found held fun _ _ _ same => same

/-- Taking out the key of a record leaves the keys of the others. -/
theorem keys_kept {crRecs : String → Option Nat} {peerId : String} (own : crRecs peerId = some i)
    {other : Nat} (away : other ≠ i) {key : String} (there : crRecs key = some other) :
    Function.update crRecs peerId none key = some other := by
  rw [Function.update_of_ne]
  · exact there
  · intro same
    rw [same, own] at there
    exact away (Option.some.inj there).symm

/-- The end of a record runs to its last line. -/
theorem Tracked.finish {named : Rec} (tracked : Tracked s) (found : s.recs[i]? = some named)
    (own : s.crRecs rec.peerId = some i) (disposed : named.disposed = true)
    (closed : named.Closed) : Tracked (s.finish i rec) := by
  refine tracked.modify found ⟨(tracked i named found).1, disposed, closed⟩ ?_
  intro other away peerId there
  exact keys_kept own away there

/-- The id of a record is resolved to what its start returns. -/
theorem Tracked.close {named : Rec} (tracked : Tracked s) (found : s.recs[i]? = some named)
    (own : s.crRecs rec.peerId = some i) (same : named.peerId = rec.peerId)
    (disposed : named.disposed = true) (fresh : named.closings = []) :
    Tracked (s.close i rec named.answer) := by
  unfold State.close
  split
  · rename_i none'
    refine tracked.finish found own disposed ?_
    rw [Rec.Closed, if_pos none']
    exact fresh
  · rename_i some'
    have key : s.crRecs named.peerId = some i := same ▸ own
    refine tracked.change found ⟨(tracked i named found).1, key, disposed, ?_⟩
    rw [Rec.Closed, if_neg some', fresh]
    exact ⟨_, rfl⟩

/-- A window opens. -/
theorem Tracked.start (tracked : Tracked s) {peerId : String} (answer : String)
    (absent : s.crRecs peerId = none) : Tracked (s.crSessionStart peerId answer) := by
  intro place rec found
  have found : (s.recs ++ [_])[place]? = some rec := found
  by_cases old : place < s.recs.length
  · rw [List.getElem?_append_left old] at found
    refine (tracked place rec found).mono ?_
    intro key there
    show Function.update s.crRecs peerId (some s.recs.length) key = some place
    rw [Function.update_of_ne]
    · exact there
    · intro same
      rw [same, absent] at there
      cases there
  · rw [List.getElem?_append_right (by omega)] at found
    obtain ⟨first, same⟩ := List.getElem?_eq_some_iff.mp found
    have last : place = s.recs.length := by
      simp only [List.length_singleton] at first
      omega
    subst last
    rw [List.getElem_singleton] at same
    subst same
    exact ⟨rfl, Function.update_self peerId _ s.crRecs, rfl, rfl, rfl⟩

/-- A window is disposed, and its end begins on its own record. -/
theorem dispose_eq (tracked : Tracked s) (found : s.recs[i]? = some rec)
    (next : s.dispose i rec = some t) :
    t = (s.change i fun rec =>
      { rec with disposed := true, recorded := true, stage := some (.resolving s.now) }) ∧
        rec.stage = none := by
  unfold State.dispose at next
  split at next
  · cases next
  · rename_i live
    obtain rfl := Option.some.inj next
    have held := (tracked i rec found).2
    split at held
    · rename_i idle
      obtain ⟨own, -, unrecorded, -⟩ := held
      refine ⟨?_, idle⟩
      have here : (s.recs.modify i fun rec => { rec with disposed := true })[i]? =
          some { rec with disposed := true } := by
        rw [List.getElem?_modify_eq, found]
        rfl
      unfold State.crSessionEndAuto
      have key : (s.change i fun rec => { rec with disposed := true }).crRecs rec.peerId =
          some i := own
      have open' : ((s.change i fun rec => { rec with disposed := true }).recs[i]?).any
          Rec.recorded = false := by
        show ((s.recs.modify i fun rec => { rec with disposed := true })[i]?).any Rec.recorded = _
        rw [here]
        exact unrecorded
      simp only [key, open']
      simp only [State.change, List.modify_modify_eq]
      rfl
    · exact absurd held.2.1 live
    · exact absurd held.2.1 live
    · exact absurd held.2.1 live
    · exact absurd held.1 live

/-- The id that `_resolveSid` returns is stored, and is what the start returns. -/
theorem Tracked.named (tracked : Tracked s) (found : s.recs[i]? = some rec) (sid : Rec → String)
    (named : sid rec = if rec.arrived then rec.answer else "") {since : Nat}
    (resolving : rec.stage = some (.resolving since)) :
    Tracked ((s.change i fun rec => { rec with sessionId := sid rec }).close i rec rec.answer) := by
  have known := (tracked i rec found).2
  simp only [resolving] at known
  have here : (s.recs.modify i fun rec => { rec with sessionId := sid rec })[i]? =
      some { rec with sessionId := sid rec } := by
    rw [List.getElem?_modify_eq, found]
    rfl
  have stored : Tracked (s.change i fun rec => { rec with sessionId := sid rec }) := by
    refine tracked.change found ⟨named, ?_⟩
    simp only [resolving]
    exact known
  have closed := stored.close here known.1 rfl known.2.1 known.2.2
  exact closed

/-- `_resolveSid` has the id. -/
theorem Tracked.resolve (tracked : Tracked s) (found : s.recs[i]? = some rec)
    (next : s.resolve i rec = some t) : Tracked t := by
  have held := tracked i rec found
  unfold State.resolve at next
  split at next
  · rename_i since resolving
    split at next
    · rename_i there
      obtain rfl := Option.some.inj next
      have sid := held.1
      have arrived : rec.arrived = true := by
        by_contra missing
        rw [if_neg missing] at sid
        exact there sid
      rw [if_pos arrived] at sid
      have known := held.2
      simp only [resolving] at known
      rw [sid]
      exact tracked.close found known.1 rfl known.2.1 known.2.2
    · split at next
      · rename_i arrived
        obtain rfl := Option.some.inj next
        exact tracked.named found Rec.answer (if_pos arrived).symm resolving
      · cases next
  · cases next

/-- `_resolveSid` gives up on a start without a session. -/
theorem Tracked.cutoff (tracked : Tracked s) (found : s.recs[i]? = some rec)
    (empty : rec.answer = "") (next : s.cutoff i rec = some t) : Tracked t := by
  unfold State.cutoff at next
  split at next
  · rename_i since resolving
    split at next
    · rename_i late
      obtain rfl := Option.some.inj next
      have sid := late.1.symm.trans (tracked i rec found).1
      have closed := tracked.named found (fun _ => "") sid resolving
      rw [empty] at closed
      exact closed
    · cases next
  · cases next

/-- Every admitted step keeps every record held. -/
theorem Tracked.step {e : Event} (tracked : Tracked s) (guard : Apart s e)
    (next : step s e = some t) : Tracked t := by
  cases e with
  | start peerId answer => cases next; exact tracked.start answer guard
  | reply i =>
    obtain ⟨rec, found, next⟩ := Option.bind_eq_some_iff.mp next
    unfold State.reply at next
    split at next
    · cases next
    · obtain rfl := Option.some.inj next
      exact tracked.change found ⟨rfl, (tracked i rec found).2⟩
  | dispose i =>
    obtain ⟨rec, found, next⟩ := Option.bind_eq_some_iff.mp next
    obtain ⟨rfl, idle⟩ := dispose_eq tracked found next
    have held := tracked i rec found
    have fresh := held.2
    simp only [idle] at fresh
    exact tracked.change found ⟨held.1, fresh.1, rfl, fresh.2.2.2⟩
  | resolve i =>
    obtain ⟨rec, found, next⟩ := Option.bind_eq_some_iff.mp next
    exact tracked.resolve found next
  | cutoff i =>
    obtain ⟨rec, found, next⟩ := Option.bind_eq_some_iff.mp next
    exact tracked.cutoff found (guard rec found) next
  | posted i =>
    obtain ⟨rec, found, next⟩ := Option.bind_eq_some_iff.mp next
    unfold State.posted at next
    have known := (tracked i rec found).2
    split at next
    · rename_i posting
      obtain rfl := Option.some.inj next
      simp only [posting] at known
      exact tracked.finish found known.1 known.2.1 known.2.2
    · rename_i posting
      obtain rfl := Option.some.inj next
      simp only [posting] at known
      exact tracked.change found ⟨(tracked i rec found).1, known⟩
    · cases next
  | notified i =>
    obtain ⟨rec, found, next⟩ := Option.bind_eq_some_iff.mp next
    unfold State.notified at next
    have known := (tracked i rec found).2
    split at next
    · rename_i notifying
      obtain rfl := Option.some.inj next
      simp only [notifying] at known
      exact tracked.finish found known.1 known.2.1 known.2.2
    · cases next
  | pass ms => cases next; exact tracked

/-- All that changes is the record at a place, and its key. -/
structure Local (i : Nat) (s t : State) : Prop where
  recs : ∀ other, other ≠ i → t.recs[other]? = s.recs[other]?
  keys : ∀ other, other ≠ i → ∀ peerId, s.crRecs peerId = some other →
    t.crRecs peerId = some other

theorem Local.trans {u : State} (first : Local i s t) (second : Local i t u) : Local i s u where
  recs := fun other away => (second.recs other away).trans (first.recs other away)
  keys := fun other away peerId there =>
    second.keys other away peerId (first.keys other away peerId there)

theorem local_change (set : Rec → Rec) : Local i s (s.change i set) where
  recs := fun _ away => List.getElem?_modify_ne _ _ (Ne.symm away)
  keys := fun _ _ _ there => there

theorem local_finish (own : s.crRecs rec.peerId = some i) : Local i s (s.finish i rec) where
  recs := fun _ away => List.getElem?_modify_ne _ _ (Ne.symm away)
  keys := fun _ away _ there => keys_kept own away there

theorem local_close (own : s.crRecs rec.peerId = some i) (sid : String) :
    Local i s (s.close i rec sid) := by
  unfold State.close
  split
  · exact local_finish own
  · exact local_change _

theorem local_named (set : Rec → Rec) (own : s.crRecs rec.peerId = some i) (sid : String) :
    Local i s ((s.change i set).close i rec sid) := by
  have named : (s.change i set).crRecs rec.peerId = some i := own
  exact (local_change set).trans (local_close named sid)

/-- The end of a window changes nothing but its own record and key. -/
theorem ends_locally {e : Event} (tracked : Tracked s) (ends : e.endOf = some i)
    (next : step s e = some t) : Local i s t := by
  cases e with
  | start peerId answer => cases ends
  | reply i => cases ends
  | pass ms => cases ends
  | dispose i =>
    cases ends
    obtain ⟨rec, found, next⟩ := Option.bind_eq_some_iff.mp next
    rw [(dispose_eq tracked found next).1]
    exact local_change _
  | resolve i =>
    cases ends
    obtain ⟨rec, found, next⟩ := Option.bind_eq_some_iff.mp next
    unfold State.resolve at next
    split at next
    · rename_i since resolving
      have own := (tracked i rec found).key (by rw [resolving]; exact nofun)
      split at next
      · obtain rfl := Option.some.inj next
        exact local_close own _
      · split at next
        · obtain rfl := Option.some.inj next
          exact local_named _ own _
        · cases next
    · cases next
  | cutoff i =>
    cases ends
    obtain ⟨rec, found, next⟩ := Option.bind_eq_some_iff.mp next
    unfold State.cutoff at next
    split at next
    · rename_i since resolving
      have own := (tracked i rec found).key (by rw [resolving]; exact nofun)
      split at next
      · obtain rfl := Option.some.inj next
        exact local_named _ own _
      · cases next
    · cases next
  | posted i =>
    cases ends
    obtain ⟨rec, found, next⟩ := Option.bind_eq_some_iff.mp next
    unfold State.posted at next
    split at next
    · rename_i posting
      have own := (tracked i rec found).key (by rw [posting]; exact nofun)
      obtain rfl := Option.some.inj next
      exact local_finish own
    · obtain rfl := Option.some.inj next
      exact local_change _
    · cases next
  | notified i =>
    cases ends
    obtain ⟨rec, found, next⟩ := Option.bind_eq_some_iff.mp next
    unfold State.notified at next
    split at next
    · rename_i notifying
      have own := (tracked i rec found).key (by rw [notifying]; exact nofun)
      obtain rfl := Option.some.inj next
      exact local_finish own
    · cases next

/-- Where every record is held, every settled one is closed. -/
theorem Tracked.allClosed (tracked : Tracked s) : s.AllClosed := by
  intro rec inside settled
  obtain ⟨i, found⟩ := List.getElem?_of_mem inside
  obtain ⟨disposed, -, idle | finished⟩ := settled
  · have known := (tracked i rec found).2
    simp only [idle] at known
    rw [known.2.1] at disposed
    cases disposed
  · have known := (tracked i rec found).2
    simp only [finished] at known
    exact known.2

end Steps

/-- In every run in which windows to one peer are apart and no session's start is given up, each
window's session is ended or discarded exactly once, and no end affects a later window. -/
theorem sessions_closed (s t : State) (e : Event) (reached : machine.Reaches Apart s)
    (guard : Apart s e) (next : machine.step s e = some t) :
    t.AllClosed ∧ SparesLater s e t := by
  have tracked : Tracked s := by
    refine reached.invariant Tracked ?_ fun _ _ _ tracked guard next => tracked.step guard next
    intro first ⟨now, launch⟩ i rec found
    rw [launch] at found
    cases found
  refine ⟨(tracked.step guard next).allClosed, ?_⟩
  intro i ends later after
  have here := ends_locally tracked ends next
  have away : later ≠ i := by omega
  exact ⟨here.recs later away, here.keys later away⟩

/-- A window was opened and disposed, and the discard of its session is on its way. -/
def visited : State :=
  machine.play Machine.free (launched 1) [.start "100" "a", .reply 0, .dispose 0, .resolve 0]

theorem visited_apart : machine.Reaches Apart visited :=
  ⟨launched 1, ⟨1, rfl⟩, .step (.resolve 0) (.step (.dispose 0) (.step (.reply 0)
    (.step (.start "100" "a") .refl rfl rfl) trivial rfl) trivial rfl) trivial rfl⟩

/-- The session of that window is discarded once. -/
theorem visited_closed : ∃ t, machine.step visited (.posted 0) = some t ∧
    t.AllClosed ∧ SparesLater visited (.posted 0) t ∧
      t.recs.map Rec.closings = [[{ sessionId := "a", discard := true }]] := by
  have closed := sessions_closed visited _ (.posted 0) visited_apart trivial rfl
  exact ⟨_, rfl, closed.1, closed.2, by decide +kernel⟩

/-- A window is disposed before the reply to its start, which takes longer than the wait. -/
def lateReply : List Event :=
  [.start "100" "a", .dispose 0, .pass resolveMs, .cutoff 0, .reply 0]

/-- A window opens while the end of an earlier one to the peer waits for its post. -/
def quickReconnect : List Event :=
  [.start "100" "a", .reply 0, .dispose 0, .resolve 0, .start "100" "b", .posted 0, .reply 1,
    .dispose 1]

/-- A settled session that was neither ended nor discarded. -/
def State.leaves (s : State) (sid : String) : Bool :=
  s.recs.any fun rec => decide (rec.answer = sid ∧ rec.disposed = true ∧ rec.arrived = true ∧
    (rec.stage = none ∨ rec.stage = some .finished) ∧ rec.closings = [])

/-- A late reply leaves its session open, and a quick reconnect leaves the second session open and
takes its key out. -/
theorem sessions_left_open :
    (∃ s, machine.Reaches Machine.free s ∧ s.leaves "a") ∧
      (∃ s, machine.Reaches Machine.free s ∧ s.leaves "b") ∧
      ∃ s, machine.Reaches Machine.free s ∧
        ¬ ∀ t, machine.step s (.posted 0) = some t → SparesLater s (.posted 0) t := by
  refine ⟨?_, ?_, ?_⟩
  · exact ⟨_, ⟨launched 1, ⟨1, rfl⟩, Machine.runs_play _ _ (launched 1) lateReply⟩,
      by decide +kernel⟩
  · exact ⟨_, ⟨launched 1, ⟨1, rfl⟩, Machine.runs_play _ _ (launched 1) quickReconnect⟩,
      by decide +kernel⟩
  · refine ⟨_, ⟨launched 1, ⟨1, rfl⟩, Machine.runs_play _ _ (launched 1)
      (quickReconnect.take 5)⟩, ?_⟩
    intro spares
    have kept := (spares _ rfl 0 rfl 1 (by decide)).2 "100" (by decide +kernel)
    revert kept
    decide +kernel

end ChainRemote.Hq.SessionRecords
