import ChainRemote.Lib.Machine
import ChainRemote.Panel.Push

/-!
# The life cycle of a push

Any sequence of the functions on `pending_updates`, each with the customers and the clock of
its moment. A row is never deleted, its marks are set once, and rows of one batch belong to
one tenant, because a batch id is drawn by the call that inserts the batch.
-/

namespace ChainRemote.Panel.PushLifecycle

open Lib

/-- A call of one of the functions. -/
inductive Event
  | pushToCustomer (customers : List Customer) (now customerId : Nat) (asset : PushAsset)
      (opts : PushOptions) (ctx : PushContext)
  | pushBulk (customers : List Customer) (now : Nat) (agentMeta : Option AgentPushMeta)
      (asset : PushAsset) (opts : PushOptions) (ctx : PushContext) (allowStaging : Bool)
  | autoQueueIfBehind (now : Nat) (customer : Customer) (reportedVersion : String)
      (agentMeta : Option AgentPushMeta)
  | getPendingForAgent (customers : List Customer) (remoteId token : String)
  | markApplied (customers : List Customer) (now pushId : Nat) (remoteId token : String)
  | markFailed (customers : List Customer) (now pushId : Nat) (remoteId token reason : String)
  | cancelPush (now pushId tenantId : Nat)
  | cancelBulk (now bulkBatchId tenantId : Nat)

variable (hash : String → String)

/-- The table after a call. -/
def Event.after (t : PushTable) : Event → PushTable
  | .pushToCustomer customers now customerId asset opts ctx =>
    (Panel.pushToCustomer customers now customerId asset opts ctx t).1
  | .pushBulk customers now agentMeta asset opts ctx allowStaging =>
    (Panel.pushBulk customers now agentMeta asset opts ctx allowStaging t).1
  | .autoQueueIfBehind now customer reportedVersion agentMeta =>
    (Panel.autoQueueIfBehind now customer reportedVersion agentMeta t).1
  | .getPendingForAgent _ _ _ => t
  | .markApplied customers now pushId remoteId token =>
    (Panel.markApplied customers now hash pushId remoteId token t).1
  | .markFailed customers now pushId remoteId token reason =>
    (Panel.markFailed customers now hash pushId remoteId token reason t).1
  | .cancelPush now pushId tenantId => (Panel.cancelPush now pushId tenantId t).1
  | .cancelBulk now bulkBatchId tenantId => (Panel.cancelBulk now bulkBatchId tenantId t).1

/-- Batch ids are drawn once, each by a call for one tenant. -/
structure Batched (t : PushTable) : Prop where
  /-- A batch id not drawn yet is in no row. -/
  below : ∀ row ∈ t.rows, ∀ batch ∈ row.bulkBatchId, batch < t.nextId
  /-- The rows of a batch belong to one tenant. -/
  tenant : ∀ a ∈ t.rows, ∀ b ∈ t.rows, ∀ batch, a.bulkBatchId = some batch →
    b.bulkBatchId = some batch → a.tenantId = b.tenantId

/-- The queue under any sequence of calls, from any table with proper batches. -/
def queue : Machine PushTable Event where
  start := Batched
  step t e := some (e.after hash t)

/-- The same push later on: every mark it had it still has, with the same time. -/
structure Persists (row later : PendingUpdate) : Prop where
  id : later.id = row.id
  applied : ∀ time, row.appliedAt = some time → later.appliedAt = some time
  cancelled : ∀ time, row.cancelledAt = some time → later.cancelledAt = some time
  failed : ∀ time, row.failedAt = some time → later.failedAt = some time

/-- What a call does to the table, `batch` being the batch it inserts, for a tenant. -/
structure Evolves (batch : Option Nat) (tenantId : Nat) (s t : PushTable) : Prop where
  /-- Every row persists. -/
  kept : ∀ row ∈ s.rows, ∃ later ∈ t.rows, Persists row later
  /-- A row was there, or is in no batch, or in the new one. -/
  origin : ∀ row ∈ t.rows,
    (∃ old ∈ s.rows, old.bulkBatchId = row.bulkBatchId ∧ old.tenantId = row.tenantId) ∨
      row.bulkBatchId = none ∨ row.bulkBatchId = batch ∧ row.tenantId = tenantId
  /-- Ids are only drawn. -/
  drawn : s.nextId ≤ t.nextId

theorem Persists.refl (row : PendingUpdate) : Persists row row :=
  ⟨rfl, fun _ set => set, fun _ set => set, fun _ set => set⟩

theorem Persists.trans {a b c : PendingUpdate} (first : Persists a b) (second : Persists b c) :
    Persists a c where
  id := second.id.trans first.id
  applied time set := second.applied time (first.applied time set)
  cancelled time set := second.cancelled time (first.cancelled time set)
  failed time set := second.failed time (first.failed time set)

namespace Evolves

variable {batch : Option Nat} {tenantId : Nat} {s t u : PushTable}

theorem refl (s : PushTable) : Evolves batch tenantId s s where
  kept row inside := ⟨row, inside, Persists.refl row⟩
  origin row inside := .inl ⟨row, inside, rfl, rfl⟩
  drawn := Nat.le_refl _

theorem trans (first : Evolves batch tenantId s t) (second : Evolves batch tenantId t u) :
    Evolves batch tenantId s u where
  kept row inside := by
    obtain ⟨middle, there, early⟩ := first.kept row inside
    obtain ⟨later, last, late⟩ := second.kept middle there
    exact ⟨later, last, early.trans late⟩
  origin row inside := by
    rcases second.origin row inside with ⟨middle, there, sameBatch, sameTenant⟩ | new
    · rcases first.origin middle there with ⟨old, before, oldBatch, oldTenant⟩ | none | ⟨own, mine⟩
      · exact .inl ⟨old, before, oldBatch.trans sameBatch, oldTenant.trans sameTenant⟩
      · exact .inr (.inl (sameBatch.symm.trans none))
      · exact .inr (.inr ⟨sameBatch.symm.trans own, sameTenant.symm.trans mine⟩)
    · exact .inr new
  drawn := Nat.le_trans first.drawn second.drawn

/-- Drawing an id leaves the rows. -/
theorem draw (s : PushTable) : Evolves batch tenantId s s.draw where
  kept row inside := ⟨row, inside, Persists.refl row⟩
  origin row inside := .inl ⟨row, inside, rfl, rfl⟩
  drawn := Nat.le_succ _

/-- An update that sets marks where there are none. -/
theorem mark {here : PendingUpdate → Bool} {set : PendingUpdate → PendingUpdate}
    (marks : Marks set) (sets : ∀ row, here row = true → Persists row (set row))
    (keys : ∀ row, (set row).bulkBatchId = row.bulkBatchId ∧ (set row).tenantId = row.tenantId) :
    Evolves batch tenantId s (s.mark here set marks) where
  kept row inside := by
    by_cases hit : here row = true
    · exact ⟨set row, mem_updateWhere_of_hit inside hit, sets row hit⟩
    · have miss : here row = false := by simpa using hit
      exact ⟨row, mem_updateWhere_of_miss inside miss, Persists.refl row⟩
  origin row inside := by
    rcases mem_updateWhere.mp inside with ⟨old, before, -, rfl⟩ | ⟨before, -⟩
    · exact .inl ⟨old, before, (keys old).1.symm, (keys old).2.symm⟩
    · exact .inl ⟨row, before, rfl, rfl⟩
  drawn := Nat.le_refl _

/-- An inserted row is in no batch or in the new one. -/
theorem add {values : PendingUpdate} (stored : s.add values = some t)
    (own : values.bulkBatchId = none ∨ values.bulkBatchId = batch ∧ values.tenantId = tenantId) :
    Evolves batch tenantId s t := by
  unfold PushTable.add at stored
  dsimp only at stored
  split at stored
  · obtain rfl := Option.some.inj stored
    exact
      { kept := fun row inside => ⟨row, List.mem_append_left _ inside, Persists.refl row⟩
        origin := by
          intro row inside
          rcases List.mem_append.mp inside with old | new
          · exact .inl ⟨row, old, rfl, rfl⟩
          · rw [List.mem_singleton.mp new]
            exact .inr own
        drawn := Nat.le_succ _ }
  · cases stored

end Evolves

section Steps

variable {hash} {batch : Option Nat} {tenantId : Nat} {s t : PushTable}

/-- A push that waits is superseded or cancelled with the marks it has: none. -/
theorem persists_cancelSet (now : Nat) {row : PendingUpdate} (active : row.active = true) :
    Persists row (cancelSet now row) := by
  simp only [PendingUpdate.active, Bool.and_eq_true, Option.isNone_iff_eq_none] at active
  refine ⟨rfl, fun _ set => set, ?_, fun _ set => set⟩
  intro time set
  rw [active.1.2] at set
  cases set

/-- The rows of `INSERT … ON CONFLICT DO NOTHING`. -/
theorem Evolves.addNew {values : PendingUpdate}
    (own : values.bulkBatchId = none ∨ values.bulkBatchId = batch ∧ values.tenantId = tenantId) :
    Evolves batch tenantId s (s.addNew values) := by
  unfold PushTable.addNew
  cases stored : s.add values with
  | none => exact Evolves.refl s
  | some after => exact Evolves.add stored own

theorem Evolves.addAll {row : Nat → PendingUpdate}
    (own : ∀ c, (row c).bulkBatchId = batch ∧ (row c).tenantId = tenantId)
    (targets : List Customer) (s : PushTable) :
    Evolves batch tenantId s (addAll row targets s) := by
  unfold Panel.addAll
  induction targets generalizing s with
  | nil => exact Evolves.refl s
  | cons c targets ih =>
    rw [List.foldl_cons]
    exact (Evolves.addNew (.inr (own c.id))).trans (ih _)

theorem evolves_pushToCustomer (customers : List Customer) (now customerId : Nat)
    (asset : PushAsset) (opts : PushOptions) (ctx : PushContext) (s : PushTable) :
    Evolves none ctx.tenantId s (pushToCustomer customers now customerId asset opts ctx s).1 := by
  rcases pushToCustomer_cases customers now customerId asset opts ctx s with
    same | ⟨-, row, fits, stored⟩
  · rw [same]
    exact Evolves.refl s
  · apply Evolves.add stored
    rw [(PushAsset.columns_some fits customerId).2.2.2.2]
    exact .inl rfl

/-- A bulk push draws its batch id, also where its insert fails. -/
theorem evolves_pushBulk (customers : List Customer) (now : Nat) (agentMeta : Option AgentPushMeta)
    (asset : PushAsset) (opts : PushOptions) (ctx : PushContext) (allowStaging : Bool)
    (s : PushTable) :
    let after := (pushBulk customers now agentMeta asset opts ctx allowStaging s).1
    Evolves (some s.nextId) ctx.tenantId s after ∧ (after = s ∨ s.nextId < after.nextId) := by
  dsimp only
  have cancels : Evolves (some s.nextId) ctx.tenantId s.draw
      (s.draw.mark (isSuperseded customers ctx.tenantId) (cancelSet now)
        (marks_cancelSet now)) := by
    apply Evolves.mark
    · intro row hit
      simp only [isSuperseded, Bool.and_eq_true] at hit
      exact persists_cancelSet now hit.1.2
    · exact fun _ => ⟨rfl, rfl⟩
  have first := (Evolves.draw s).trans cancels
  rcases pushBulk_cases customers now agentMeta asset opts ctx allowStaging s with
    same | ⟨-, same | ⟨row, targets, fits, -, same⟩⟩
  · rw [same]
    exact ⟨Evolves.refl s, .inl rfl⟩
  · rw [same]
    exact ⟨first, .inr (Nat.lt_succ_self _)⟩
  · rw [same]
    have second : Evolves (some s.nextId) ctx.tenantId
        (s.draw.mark (isSuperseded customers ctx.tenantId) (cancelSet now) (marks_cancelSet now))
        (addAll row targets (s.draw.mark (isSuperseded customers ctx.tenantId) (cancelSet now)
          (marks_cancelSet now))) := by
      apply Evolves.addAll
      intro c
      rw [(PushAsset.columns_some fits c).2.2.2.2]
      exact ⟨rfl, rfl⟩
    exact ⟨first.trans second, .inr (Nat.lt_of_lt_of_le (Nat.lt_succ_self _) second.drawn)⟩

theorem evolves_autoQueueIfBehind (now : Nat) (customer : Customer) (reportedVersion : String)
    (agentMeta : Option AgentPushMeta) (s : PushTable) :
    Evolves none customer.tenantId s
      (autoQueueIfBehind now customer reportedVersion agentMeta s).1 := by
  rcases autoQueueIfBehind_cases now customer reportedVersion agentMeta s with
    same | ⟨m, row, after, -, -, -, fits, stored, same⟩
  · rw [same]
    exact Evolves.refl s
  · rw [same]
    apply Evolves.add stored
    rw [(PushAsset.columns_some fits customer.id).2.2.2.2]
    exact .inl rfl

theorem evolves_markApplied (customers : List Customer) (now pushId : Nat)
    (remoteId token : String) (s : PushTable) :
    Evolves none 0 s (markApplied customers now hash pushId remoteId token s).1 := by
  unfold markApplied
  split
  · apply Evolves.mark (marks_applySet now)
    · intro row hit
      simp only [Bool.and_eq_true, Option.isNone_iff_eq_none] at hit
      refine ⟨rfl, ?_, fun _ set => set, fun _ set => set⟩
      intro time set
      rw [hit.2] at set
      cases set
    · exact fun _ => ⟨rfl, rfl⟩
  · exact Evolves.refl s

theorem evolves_markFailed (customers : List Customer) (now pushId : Nat)
    (remoteId token reason : String) (s : PushTable) :
    Evolves none 0 s (markFailed customers now hash pushId remoteId token reason s).1 := by
  unfold markFailed
  split
  · apply Evolves.mark (marks_failSet now reason)
    · intro row hit
      simp only [Bool.and_eq_true, Option.isNone_iff_eq_none] at hit
      refine ⟨rfl, fun _ set => set, fun _ set => set, ?_⟩
      intro time set
      rw [hit.2] at set
      cases set
    · exact fun _ => ⟨rfl, rfl⟩
  · exact Evolves.refl s

/-- Cancelling rows that wait. -/
theorem evolves_cancel {here : PendingUpdate → Bool} (now : Nat)
    (waits : ∀ row, here row = true → row.active = true) (s : PushTable) :
    Evolves none 0 s (s.mark here (cancelSet now) (marks_cancelSet now)) := by
  apply Evolves.mark
  · intro row hit
    exact persists_cancelSet now (waits row hit)
  · exact fun _ => ⟨rfl, rfl⟩

/-- What any call does to the table; only a batch id it draws itself is new. -/
theorem evolves_after (e : Event) (s : PushTable) :
    ∃ batch tenantId, Evolves batch tenantId s (e.after hash s) ∧
      ∀ drawn ∈ batch,
        drawn = s.nextId ∧ (e.after hash s = s ∨ s.nextId < (e.after hash s).nextId) := by
  have noBatch : ∀ {P : Nat → Prop}, ∀ drawn ∈ (none : Option Nat), P drawn := by
    intro P drawn impossible
    cases impossible
  cases e with
  | pushToCustomer customers now customerId asset opts ctx =>
    exact ⟨none, _, evolves_pushToCustomer customers now customerId asset opts ctx s, noBatch⟩
  | pushBulk customers now agentMeta asset opts ctx allowStaging =>
    have bulk := evolves_pushBulk customers now agentMeta asset opts ctx allowStaging s
    refine ⟨some s.nextId, _, bulk.1, ?_⟩
    intro drawn same
    exact ⟨(Option.some.inj same).symm, bulk.2⟩
  | autoQueueIfBehind now customer reportedVersion agentMeta =>
    exact ⟨none, _, evolves_autoQueueIfBehind now customer reportedVersion agentMeta s, noBatch⟩
  | getPendingForAgent customers remoteId token => exact ⟨none, 0, Evolves.refl s, noBatch⟩
  | markApplied customers now pushId remoteId token =>
    exact ⟨none, 0, evolves_markApplied customers now pushId remoteId token s, noBatch⟩
  | markFailed customers now pushId remoteId token reason =>
    exact ⟨none, 0, evolves_markFailed customers now pushId remoteId token reason s, noBatch⟩
  | cancelPush now pushId tenantId =>
    refine ⟨none, 0, evolves_cancel now ?_ s, noBatch⟩
    intro row hit
    simp only [Bool.and_eq_true] at hit
    exact hit.2
  | cancelBulk now bulkBatchId tenantId =>
    refine ⟨none, 0, evolves_cancel now ?_ s, noBatch⟩
    intro row hit
    simp only [Bool.and_eq_true] at hit
    exact hit.2

/-- Every call keeps the batches proper. -/
theorem Batched.after (batched : Batched s) (e : Event) : Batched (e.after hash s) := by
  obtain ⟨batch, tenantId, evolves, fresh⟩ := @evolves_after hash e s
  rcases Classical.em (e.after hash s = s) with same | changed
  · rw [same]
    exact batched
  · have own : ∀ row ∈ (e.after hash s).rows, ∀ b, row.bulkBatchId = some b →
        (∃ old ∈ s.rows, old.bulkBatchId = some b ∧ old.tenantId = row.tenantId) ∨
          b = s.nextId ∧ s.nextId < (e.after hash s).nextId ∧ row.tenantId = tenantId := by
      intro row inside b named
      rcases evolves.origin row inside with ⟨old, before, sameBatch, tenant⟩ | none | ⟨new, mine⟩
      · exact .inl ⟨old, before, sameBatch.trans named, tenant⟩
      · cases none.symm.trans named
      · have drawn := fresh b (new.symm.trans named)
        exact .inr ⟨drawn.1, drawn.2.resolve_left changed, mine⟩
    constructor
    · intro row inside b named
      rcases own row inside b named with ⟨old, before, oldBatch, -⟩ | ⟨rfl, grows, -⟩
      · exact Nat.lt_of_lt_of_le (batched.below old before b oldBatch) evolves.drawn
      · exact grows
    · intro x xIn y yIn b xBatch yBatch
      rcases own x xIn b xBatch with ⟨xOld, xBefore, xSame, xTenant⟩ | ⟨xNew, -, xMine⟩
      · rcases own y yIn b yBatch with ⟨yOld, yBefore, ySame, yTenant⟩ | ⟨yNew, -, -⟩
        · rw [← xTenant, ← yTenant]
          exact batched.tenant xOld xBefore yOld yBefore b xSame ySame
        · have below := batched.below xOld xBefore b xSame
          omega
      · rcases own y yIn b yBatch with ⟨yOld, yBefore, ySame, -⟩ | ⟨-, -, yMine⟩
        · have below := batched.below yOld yBefore b ySame
          omega
        · exact xMine.trans yMine.symm

/-- The newest of some rows is one of them. -/
theorem newest_mem {rows : List PendingUpdate} {row : PendingUpdate}
    (found : newest rows = some row) : row ∈ rows := by
  induction rows generalizing row with
  | nil => cases found
  | cons first rest ih =>
    simp only [newest] at found
    split at found
    · obtain rfl := Option.some.inj found
      exact List.mem_cons_self
    · rename_i other later
      split at found
      · obtain rfl := Option.some.inj found
        exact List.mem_cons_self
      · obtain rfl := Option.some.inj found
        exact List.mem_cons_of_mem _ (ih later)

/-- A served push is in the table and has no mark. -/
theorem served_active {customers : List Customer} {remoteId token : String} {row : PendingUpdate}
    (served : getPendingForAgent customers hash remoteId token s = some row) :
    row ∈ s.rows ∧ row.active = true := by
  have member := List.mem_filter.mp (newest_mem served)
  simp only [Bool.and_eq_true] at member
  exact ⟨member.1, member.2.2⟩

/-- The three counted states exclude each other. -/
theorem counts_le_length (rows : List PendingUpdate) :
    (rows.countP fun row => row.appliedAt.isSome) +
        (rows.countP fun row => row.appliedAt.isNone && row.failedAt.isSome) +
        (rows.countP fun row =>
          row.appliedAt.isNone && row.failedAt.isNone && row.cancelledAt.isSome) ≤
      rows.length := by
  induction rows with
  | nil => exact Nat.le_refl 0
  | cons row rows ih =>
    simp only [List.countP_cons, List.length_cons]
    cases row.appliedAt with
    | some time => simp; omega
    | none =>
      cases row.failedAt with
      | some time => simp; omega
      | none =>
        cases row.cancelledAt with
        | some time => simp; omega
        | none => simp; omega

/-- The counts of a batch add up to its rows of the tenant. -/
theorem progress_total (bulkBatchId tenantId : Nat) (s : PushTable) :
    let progress := getBulkProgress bulkBatchId tenantId s
    progress.pending + progress.applied + progress.failed + progress.cancelled =
      (s.rows.filter fun row => row.bulkBatchId == some bulkBatchId && row.tenantId == tenantId).length := by
  have bound := counts_le_length (s.rows.filter fun row =>
    row.bulkBatchId == some bulkBatchId && row.tenantId == tenantId)
  simp only [getBulkProgress]
  omega

/-- The rows of a batch are its rows of the batch's tenant. -/
theorem Batched.rows_of_batch (batched : Batched s) {row : PendingUpdate} {bulkBatchId : Nat}
    (inside : row ∈ s.rows) (named : row.bulkBatchId = some bulkBatchId) :
    (s.rows.filter fun other =>
        other.bulkBatchId == some bulkBatchId && other.tenantId == row.tenantId) =
      s.rows.filter fun other => other.bulkBatchId == some bulkBatchId := by
  apply List.filter_congr
  intro other there
  cases same : other.bulkBatchId == some bulkBatchId with
  | false => rfl
  | true =>
    have tenant := batched.tenant other there row inside bulkBatchId (beq_iff_eq.mp same) named
    simp [tenant]

end Steps

/-- Over every sequence of calls: a mark once set stays with its time, a served push has no
mark, a customer has at most one push of a version without a mark, and the four counts of a
batch add up to its rows. -/
theorem push_lifecycle (hash : String → String) :
    (∀ s t, (queue hash).Reaches Machine.free s → (queue hash).Runs Machine.free s t →
      ∀ row ∈ s.rows, ∃ later ∈ t.rows, Persists row later) ∧
    ∀ s, (queue hash).Reaches Machine.free s →
      (∀ customers remoteId token row,
        getPendingForAgent customers hash remoteId token s = some row →
          row ∈ s.rows ∧ row.appliedAt = none ∧ row.cancelledAt = none ∧ row.failedAt = none) ∧
      (s.rows.Pairwise fun a b => ¬ a.Clash b) ∧
      ∀ row ∈ s.rows, ∀ bulkBatchId, row.bulkBatchId = some bulkBatchId →
        let progress := getBulkProgress bulkBatchId row.tenantId s
        progress.pending + progress.applied + progress.failed + progress.cancelled =
          s.rows.countP fun other => other.bulkBatchId == some bulkBatchId := by
  constructor
  · intro s t _ run row inside
    apply run.invariant fun u => ∃ later ∈ u.rows, Persists row later
    · rintro before e after ⟨middle, there, early⟩ _ next
      obtain rfl := Option.some.inj next
      obtain ⟨batch, tenantId, evolves, -⟩ := @evolves_after hash e before
      obtain ⟨later, last, late⟩ := evolves.kept middle there
      exact ⟨later, last, early.trans late⟩
    · exact ⟨row, inside, Persists.refl row⟩
  · intro s reached
    have batched : Batched s := by
      apply reached.invariant Batched (fun _ started => started)
      intro before e after batched _ next
      obtain rfl := Option.some.inj next
      exact batched.after e
    refine ⟨?_, s.valid.single, ?_⟩
    · intro customers remoteId token row served
      obtain ⟨inside, active⟩ := served_active served
      simp only [PendingUpdate.active, Bool.and_eq_true, Option.isNone_iff_eq_none] at active
      exact ⟨inside, active.1.1, active.1.2, active.2⟩
    · intro row inside bulkBatchId named
      have total := progress_total bulkBatchId row.tenantId s
      rw [batched.rows_of_batch inside named, ← List.countP_eq_length_filter] at total
      exact total

end ChainRemote.Panel.PushLifecycle
