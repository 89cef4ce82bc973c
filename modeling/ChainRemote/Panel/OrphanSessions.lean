import Mathlib.Data.List.Forall2
import ChainRemote.Panel.SupportSessionRuns

/-!
# What the closing of orphans closes

`closeOrphanSessions` joins two tables by hand and runs in every read of the open sessions. Its one
statement closes exactly the sessions that were left behind, or throws where the generated column
`duration_sec` cannot hold how long one of them was open.
-/

namespace ChainRemote.Panel.SupportSessions

open Lib

/-- An open session that was left behind: it is older than the grace, and no seat of its operator
was seen within it, or it is older than a session can be. -/
structure LeftBehind (now : Int) (tenantId : Nat) (seen : Nat → Option Int)
    (row : SupportSession) : Prop where
  tenant : row.tenantId = tenantId
  open' : row.endedAt = none
  old : row.startedAt < now - graceMs
  left : (∀ operatorId ∈ row.operatorId, ∀ last ∈ seen operatorId, last ≤ now - graceMs) ∨
    row.startedAt < now - longestMs

/-- When the operator was last there, but not before the start. -/
def closingTime (now : Int) (seen : Nat → Option Int) (row : SupportSession) : Int :=
  max row.startedAt ((lastSeen seen row).getD now)

/-- The session was open for more seconds than `duration_sec` can hold. -/
def Overlong (now : Int) (seen : Nat → Option Int) (row : SupportSession) : Prop :=
  int4Max < seconds (closingTime now seen row - row.startedAt)

/-- What becomes of a row: a session that was left behind gets an end between its start and now, if
the seats were seen by now, and every other row stays as it is. -/
def ClosedOnly (now : Int) (tenantId : Nat) (seen : Nat → Option Int)
    (old new : SupportSession) : Prop :=
  (LeftBehind now tenantId seen old → ∃ ended, new = { old with endedAt := some ended } ∧
    old.startedAt ≤ ended ∧
      ((∀ operatorId ∈ old.operatorId, ∀ last ∈ seen operatorId, last ≤ now) → ended ≤ now)) ∧
    (¬ LeftBehind now tenantId seen old → new = old)

section Closing

variable {now : Int} {table after : Table} {tenantId : Nat} {seen : Nat → Option Int}
  {row : SupportSession}

/-- The seat of a session, by its operator. -/
theorem lastSeen_eq_some {last : Int} :
    lastSeen seen row = some last ↔ ∃ operatorId, row.operatorId = some operatorId ∧
      seen operatorId = some last := by
  unfold lastSeen
  exact Option.bind_eq_some_iff

/-- The statement selects the sessions that were left behind. -/
theorem orphan_iff : orphan now tenantId seen row = true ↔ LeftBehind now tenantId seen row := by
  have unseen : (!((lastSeen seen row).any fun t => decide (now - graceMs < t))) = true ↔
      ∀ operatorId ∈ row.operatorId, ∀ last ∈ seen operatorId, last ≤ now - graceMs := by
    constructor
    · intro none operatorId named last shown
      have found : lastSeen seen row = some last := lastSeen_eq_some.mpr ⟨operatorId, named, shown⟩
      rw [found] at none
      simpa using none
    · intro past
      cases found : lastSeen seen row with
      | none => rfl
      | some last =>
        obtain ⟨operatorId, named, shown⟩ := lastSeen_eq_some.mp found
        have early := past operatorId named last shown
        simpa using early
  unfold orphan
  rw [Bool.and_eq_true, Bool.and_eq_true, Bool.and_eq_true, Bool.or_eq_true, unseen, beq_iff_eq,
    Option.isNone_iff_eq_none, decide_eq_true_iff, decide_eq_true_iff]
  constructor
  · rintro ⟨⟨⟨tenant, open'⟩, old⟩, left⟩
    exact ⟨tenant, open', old, left⟩
  · intro behind
    exact ⟨⟨⟨behind.tenant, behind.open'⟩, behind.old⟩, behind.left⟩

/-- A closed session is not before its start, so only its length can be refused. -/
theorem durationFits_closeSet :
    (closeSet now seen row).durationFits = true ↔ ¬ Overlong now seen row := by
  have after : 0 ≤ closingTime now seen row - row.startedAt :=
    Int.sub_nonneg_of_le (Int.le_max_left _ _)
  have rounded : 0 ≤ seconds (closingTime now seen row - row.startedAt) := by
    unfold seconds
    rw [if_pos after]
    omega
  have small : int4Min ≤ seconds (closingTime now seen row - row.startedAt) :=
    Int.le_trans (by decide) rounded
  unfold Overlong
  rw [Int.not_lt]
  change (decide (int4Min ≤ seconds (closingTime now seen row - row.startedAt)) &&
    decide (seconds (closingTime now seen row - row.startedAt) ≤ int4Max)) = true ↔ _
  rw [Bool.and_eq_true, decide_eq_true_iff, decide_eq_true_iff]
  exact ⟨fun fits => fits.2, fun fits => ⟨small, fits⟩⟩

/-- The statement throws, and writes nothing, or closes its rows. -/
theorem closeOrphanSessions_cases :
    closeOrphanSessions now table tenantId seen = .error .database ∧
        (∃ row ∈ table.rows, LeftBehind now tenantId seen row ∧ Overlong now seen row) ∨
      (∃ after, closeOrphanSessions now table tenantId seen = .ok after ∧
          after.rows = updateWhere (orphan now tenantId seen) (closeSet now seen) table.rows ∧
          after.nextId = table.nextId) ∧
        ∀ row ∈ table.rows, LeftBehind now tenantId seen row → ¬ Overlong now seen row := by
  unfold closeOrphanSessions Table.update require
  by_cases fits : ∀ row ∈ table.rows, orphan now tenantId seen row →
      (closeSet now seen row).durationFits
  · rw [if_pos fits]
    refine .inr ⟨⟨_, rfl, rfl, rfl⟩, ?_⟩
    intro row inside behind
    exact durationFits_closeSet.mp (fits row inside (orphan_iff.mpr behind))
  · rw [if_neg fits]
    refine .inl ⟨rfl, ?_⟩
    by_contra none
    apply fits
    intro row inside selected
    apply durationFits_closeSet.mpr
    intro long
    exact none ⟨row, inside, orphan_iff.mp selected, long⟩

theorem closedOnly_row (now : Int) (tenantId : Nat) (seen : Nat → Option Int)
    (row : SupportSession) :
    ClosedOnly now tenantId seen row
      (if orphan now tenantId seen row then closeSet now seen row else row) := by
  constructor
  · intro behind
    rw [if_pos (orphan_iff.mpr behind)]
    refine ⟨closingTime now seen row, rfl, Int.le_max_left _ _, ?_⟩
    intro past
    have started : row.startedAt ≤ now := by
      have old := behind.old
      have grace : (0 : Int) ≤ graceMs := by decide
      omega
    have seenBy : (lastSeen seen row).getD now ≤ now := by
      cases found : lastSeen seen row with
      | none => exact Int.le_refl _
      | some last =>
        obtain ⟨operatorId, named, shown⟩ := lastSeen_eq_some.mp found
        exact past operatorId named last shown
    exact Int.max_le.mpr ⟨started, seenBy⟩
  · intro kept
    have miss : ¬ orphan now tenantId seen row = true := fun selected => kept (orphan_iff.mp selected)
    rw [if_neg miss]

/-- After the closing nothing is left behind. -/
theorem not_leftBehind_after
    (rows : after.rows = updateWhere (orphan now tenantId seen) (closeSet now seen) table.rows) :
    ∀ row ∈ after.rows, ¬ LeftBehind now tenantId seen row := by
  intro row inside behind
  rw [rows] at inside
  rcases mem_updateWhere.mp inside with ⟨old, -, -, rfl⟩ | ⟨-, miss⟩
  · cases behind.open'
  · rw [orphan_iff.mpr behind] at miss
    cases miss

/-- Where nothing is left behind, the closing changes nothing. -/
theorem closeOrphanSessions_idle (none : ∀ row ∈ table.rows, ¬ LeftBehind now tenantId seen row) :
    closeOrphanSessions now table tenantId seen = .ok table := by
  rcases @closeOrphanSessions_cases now table tenantId seen with
    ⟨-, row, inside, behind, -⟩ | ⟨⟨after, done, rows, nextId⟩, -⟩
  · exact absurd behind (none row inside)
  · rw [done]
    have same : after.rows = table.rows := by
      rw [rows]
      apply updateWhere_of_miss
      intro row inside
      have miss : ¬ orphan now tenantId seen row = true :=
        fun selected => none row inside (orphan_iff.mp selected)
      exact Bool.not_eq_true _ ▸ miss
    cases after
    cases table
    cases same
    cases nextId
    rfl

end Closing

/-- For every table, company and time: the closing throws exactly where a session that was left
behind was open for longer than `duration_sec` can hold. Otherwise it gives exactly the sessions
left behind an end, between their start and now, changes nothing else, and a second time changes
nothing. -/
theorem orphans_closed (now : Int) (table : Table) (tenantId : Nat) (seen : Nat → Option Int) :
    (closeOrphanSessions now table tenantId seen = .error .database ↔
      ∃ row ∈ table.rows, LeftBehind now tenantId seen row ∧ Overlong now seen row) ∧
    ((∀ row ∈ table.rows, LeftBehind now tenantId seen row → ¬ Overlong now seen row) →
      ∃ after, closeOrphanSessions now table tenantId seen = .ok after ∧
        List.Forall₂ (ClosedOnly now tenantId seen) table.rows after.rows ∧
        after.nextId = table.nextId ∧
        closeOrphanSessions now after tenantId seen = .ok after) := by
  rcases @closeOrphanSessions_cases now table tenantId seen with
    ⟨thrown, row, inside, behind, long⟩ | ⟨⟨after, done, rows, nextId⟩, fits⟩
  · constructor
    · exact ⟨fun _ => ⟨row, inside, behind, long⟩, fun _ => thrown⟩
    · intro fits
      exact absurd long (fits row inside behind)
  · constructor
    · constructor
      · intro thrown
        rw [done] at thrown
        cases thrown
      · rintro ⟨row, inside, behind, long⟩
        exact absurd long (fits row inside behind)
    · intro _
      refine ⟨after, done, ?_, nextId, closeOrphanSessions_idle (not_leftBehind_after rows)⟩
      rw [rows, updateWhere, List.forall₂_map_right_iff, List.forall₂_same]
      exact fun row _ => closedOnly_row now tenantId seen row

/-- A session of operator 7 that starts at a time. -/
def openSince (startedAt : Int) : SupportSession :=
  { id := 0, tenantId := 1, customerId := some 5, operatorId := some 7, startedAt }

/-- The table with this session. -/
def tableSince (startedAt : Int) : Table where
  rows := [openSince startedAt]
  nextId := 1
  valid := ⟨List.nodup_singleton _, by simp [openSince], List.pairwise_singleton _ _⟩

/-- The operator's seat was last seen after four minutes of ten. -/
theorem orphans_closed_tenMinutes :
    ∃ after, closeOrphanSessions 600000 (tableSince 0) 1 (fun _ => some 240000) = .ok after ∧
      List.Forall₂ (ClosedOnly 600000 1 fun _ => some 240000) (tableSince 0).rows after.rows ∧
      after.nextId = 1 ∧
      closeOrphanSessions 600000 after 1 (fun _ => some 240000) = .ok after := by
  apply (orphans_closed 600000 (tableSince 0) 1 fun _ => some 240000).2
  intro row inside _
  obtain rfl := List.mem_singleton.mp inside
  unfold Overlong
  decide

/-- A session that was left behind and was open for 2³¹ seconds is not closed. -/
theorem ancient_left_open :
    LeftBehind 2147483648000 1 (fun _ => none) (openSince 0) ∧
      closeOrphanSessions 2147483648000 (tableSince 0) 1 (fun _ => none) = .error .database :=
  ⟨⟨rfl, rfl, by decide, .inr (by decide)⟩, rfl⟩

end ChainRemote.Panel.SupportSessions
