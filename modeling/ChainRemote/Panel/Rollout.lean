import ChainRemote.Panel.PushLifecycle

/-!
# The automatic rollout

Any sequence of the functions on `pending_updates` from an empty table, each later than the
one before it. A row without `requested_by` was inserted by `autoQueueIfBehind`, which
decides by the newest row of the customer and target and by how many of these rows were
applied. Rows are never deleted, so the rows of the table are the rows ever inserted.
-/

namespace ChainRemote.Panel.Rollout

open Lib PushLifecycle

/-- The time of a call that may write. -/
def writesAt : Event → Option Nat
  | .pushToCustomer _ now _ _ _ _ => some now
  | .pushBulk _ now _ _ _ _ _ => some now
  | .autoQueueIfBehind now _ _ _ => some now
  | .getPendingForAgent _ _ _ => none
  | .markApplied _ now _ _ _ => some now
  | .markFailed _ now _ _ _ _ => some now
  | .cancelPush now _ _ => some now
  | .cancelBulk now _ _ => some now

/-- The queue and the time of its last call. -/
structure State where
  table : PushTable
  clock : Nat

variable (hash : String → String)

/-- The queue with a strictly increasing clock, from the empty table. -/
def rollout : Machine State Event where
  start s := s.table.rows = []
  step s e :=
    match writesAt e with
    | none => some s
    | some now => if s.clock < now then some ⟨e.after hash s.table, now⟩ else none

/-- Rows of one customer and one target. -/
def SameTarget (a b : PendingUpdate) : Prop :=
  a.customerId = b.customerId ∧ a.targetVersion = b.targetVersion

/-- Failure reports mark only rows of a kind. -/
def FailsOnly (may : PendingUpdate → Prop) (s : State) : Event → Prop
  | .markFailed customers _ pushId remoteId token _ =>
    ∀ row ∈ s.table.rows, row.id = pushId → isAgents customers hash remoteId token row = true →
      row.failedAt = none → may row
  | _ => True

/-- What one call may do to a row, `may` being the rows that failure reports mark. -/
inductive Marked (may : PendingUpdate → Prop) (now : Nat) (row : PendingUpdate) :
    PendingUpdate → Prop
  | same : Marked may now row row
  /-- `markApplied` sets only an empty `applied_at`. -/
  | applied (first : row.appliedAt = none) : Marked may now row (applySet now row)
  /-- `markFailed` sets only an empty `failed_at`, also on a row with other marks. -/
  | failed (reason : String) (first : row.failedAt = none) (allowed : may row) :
      Marked may now row (failSet now reason row)
  /-- Only a waiting row is cancelled. -/
  | cancelled (waits : row.active = true) : Marked may now row (cancelSet now row)

/-- The rows after a call: those before it, possibly marked, and new ones. -/
structure Extends (may : PendingUpdate → Prop) (now : Nat) (s t : PushTable)
    (fresh : List PendingUpdate) : Prop where
  rows : ∃ mark : PendingUpdate → PendingUpdate,
    t.rows = s.rows.map mark ++ fresh ∧ ∀ row ∈ s.rows, Marked may now row (mark row)
  /-- New rows carry the time of the call and no mark. -/
  new : ∀ row ∈ fresh, row.createdAt = now ∧ row.active = true

/-- `autoQueueIfBehind` found its customer and target free and inserted the row. -/
structure Queued (now customerId : Nat) (version : String) (s : PushTable)
    (row : PendingUpdate) : Prop where
  customer : row.customerId = customerId
  target : row.targetVersion = version
  automatic : row.requestedBy = none
  created : row.createdAt = now ∧ row.active = true
  /-- No push that a person requested waits. -/
  unpinned : ∀ old ∈ s.rows, old.customerId = customerId → old.requestedBy ≠ none →
    old.active = false
  /-- The newest row of the target is applied, and at most one of them is, or there is none. -/
  unsettled : isSettled (s.rows.filter fun old =>
    old.customerId == customerId && old.targetVersion == version) = false

section Effects

variable {hash} {may : PendingUpdate → Prop} {now : Nat} {s t : PushTable}

theorem Marked.keys {row later : PendingUpdate} (marked : Marked may now row later) :
    later.customerId = row.customerId ∧ later.targetVersion = row.targetVersion ∧
      later.requestedBy = row.requestedBy ∧ later.createdAt = row.createdAt := by
  cases marked <;> exact ⟨rfl, rfl, rfl, rfl⟩

/-- An applied row stays applied. -/
theorem Marked.keeps_applied {row later : PendingUpdate} (marked : Marked may now row later)
    (applied : row.appliedAt.isSome = true) : later.appliedAt.isSome = true := by
  cases marked with
  | applied first => rfl
  | same | failed | cancelled => exact applied

theorem Extends.refl (may : PendingUpdate → Prop) (now : Nat) (s : PushTable) :
    Extends may now s s [] where
  rows := ⟨id, by simp, fun row _ => .same⟩
  new := List.forall_mem_nil _

/-- An update that marks the selected rows. -/
theorem Extends.mark {here : PendingUpdate → Bool} {set : PendingUpdate → PendingUpdate}
    (marks : Marks set) (marked : ∀ row ∈ s.rows, here row = true → Marked may now row (set row)) :
    Extends may now s (s.mark here set marks) [] where
  rows := by
    refine ⟨fun row => if here row then set row else row, (List.append_nil _).symm, ?_⟩
    intro row inside
    dsimp only
    by_cases hit : here row = true
    · rw [if_pos hit]
      exact marked row inside hit
    · rw [if_neg hit]
      exact .same
  new := List.forall_mem_nil _

theorem Extends.add {values : PendingUpdate} (stored : s.add values = some t)
    (created : values.createdAt = now) (active : values.active = true) :
    Extends may now s t [{ values with id := s.nextId }] where
  rows := ⟨id, by rw [List.map_id, add_rows stored], fun row _ => .same⟩
  new := by
    intro row inside
    rw [List.mem_singleton.mp inside]
    exact ⟨created, active⟩

/-- More rows are inserted after a call has marked and inserted some. -/
theorem Extends.more {middle : PushTable} {first : List PendingUpdate}
    (before : Extends may now s middle first) {more : List PendingUpdate}
    (rows : t.rows = middle.rows ++ more)
    (new : ∀ row ∈ more, row.createdAt = now ∧ row.active = true) :
    Extends may now s t (first ++ more) where
  rows := by
    obtain ⟨mark, split, marked⟩ := before.rows
    exact ⟨mark, by rw [rows, split, List.append_assoc], marked⟩
  new := by
    intro row inside
    rcases List.mem_append.mp inside with early | late
    · exact before.new row early
    · exact new row late

/-- A push by a person inserts at most rows that name the person. -/
theorem extends_pushToCustomer (customers : List Customer) (customerId : Nat) (asset : PushAsset)
    (opts : PushOptions) (ctx : PushContext) (s : PushTable) :
    ∃ fresh, Extends may now s (pushToCustomer customers now customerId asset opts ctx s).1 fresh ∧
      ∀ row ∈ fresh, row.requestedBy = some ctx.requestedBy := by
  rcases pushToCustomer_cases customers now customerId asset opts ctx s with
    same | ⟨-, row, fits, stored⟩
  · rw [same]
    exact ⟨[], .refl may now s, List.forall_mem_nil _⟩
  · have new := columns_new fits customerId
    refine ⟨_, Extends.add stored new.1 new.2.1, ?_⟩
    intro row inside
    rw [List.mem_singleton.mp inside]
    exact new.2.2.1

theorem extends_pushBulk (customers : List Customer) (agentMeta : Option AgentPushMeta)
    (asset : PushAsset) (opts : PushOptions) (ctx : PushContext) (allowStaging : Bool)
    (s : PushTable) :
    ∃ fresh,
      Extends may now s (pushBulk customers now agentMeta asset opts ctx allowStaging s).1 fresh ∧
        ∀ row ∈ fresh, row.requestedBy = some ctx.requestedBy := by
  have cancels : Extends may now s.draw (s.draw.mark (isSuperseded customers ctx.tenantId)
      (cancelSet now) (marks_cancelSet now)) [] := by
    apply Extends.mark
    intro row _ hit
    simp only [isSuperseded, Bool.and_eq_true] at hit
    exact .cancelled hit.1.2
  have first : Extends may now s (s.draw.mark (isSuperseded customers ctx.tenantId)
      (cancelSet now) (marks_cancelSet now)) [] := ⟨cancels.rows, cancels.new⟩
  rcases pushBulk_cases customers now agentMeta asset opts ctx allowStaging s with
    same | ⟨-, same | ⟨row, targets, fits, -, same⟩⟩
  · rw [same]
    exact ⟨[], .refl may now s, List.forall_mem_nil _⟩
  · rw [same]
    exact ⟨[], first, List.forall_mem_nil _⟩
  · rw [same]
    obtain ⟨more, rows, own⟩ := addAll_rows row targets _
    have carries : ∀ new ∈ more, (new.createdAt = now ∧ new.active = true) ∧
        new.requestedBy = some ctx.requestedBy := by
      intro new inside
      obtain ⟨c, id, rfl⟩ := own new inside
      have columns := columns_new fits c
      exact ⟨⟨columns.1, columns.2.1⟩, columns.2.2.1⟩
    refine ⟨_, first.more rows fun new inside => (carries new inside).1, ?_⟩
    intro new inside
    exact (carries new inside).2

/-- An automatic push inserts one row, and only where its guards let it. -/
theorem queued_autoQueueIfBehind (customer : Customer) (reportedVersion : String)
    (agentMeta : Option AgentPushMeta) (s : PushTable) :
    let result := autoQueueIfBehind now customer reportedVersion agentMeta s
    result = (s, false) ∨ result.2 = true ∧ ∃ m row, agentMeta = some m ∧
      Queued now customer.id m.version s row ∧ result.1.rows = s.rows ++ [row] := by
  dsimp only
  rcases autoQueueIfBehind_cases now customer reportedVersion agentMeta s with
    same | ⟨m, row, after, published, unpinned, unsettled, fits, stored, same⟩
  · exact .inl same
  · rw [same]
    have new := columns_new fits customer.id
    refine .inr ⟨rfl, m, { row customer.id with id := s.nextId }, published, ?_, add_rows stored⟩
    refine ⟨new.2.2.2.1, new.2.2.2.2, new.2.2.1, ⟨new.1, new.2.1⟩, ?_, unsettled⟩
    intro old inside own requested
    have free := List.any_eq_false.mp unpinned old inside
    simp only [Bool.and_eq_true, beq_iff_eq, not_and, Bool.not_eq_true, and_imp] at free
    exact free own (Option.isSome_iff_ne_none.mpr requested)

theorem extends_markApplied (customers : List Customer) (pushId : Nat) (remoteId token : String)
    (s : PushTable) :
    Extends may now s (markApplied customers now hash pushId remoteId token s).1 [] := by
  unfold markApplied
  split
  · apply Extends.mark (marks_applySet now)
    intro row _ hit
    simp only [Bool.and_eq_true, Option.isNone_iff_eq_none] at hit
    exact .applied hit.2
  · exact .refl may now s

theorem extends_markFailed (customers : List Customer) (pushId : Nat)
    (remoteId token reason : String) (s : PushTable)
    (allowed : ∀ row ∈ s.rows, row.id = pushId →
      isAgents customers hash remoteId token row = true → row.failedAt = none → may row) :
    Extends may now s (markFailed customers now hash pushId remoteId token reason s).1 [] := by
  unfold markFailed
  split
  · rename_i owned
    obtain ⟨own, there, owns⟩ := List.any_eq_true.mp owned
    simp only [Bool.and_eq_true, beq_iff_eq] at owns
    apply Extends.mark (marks_failSet now reason)
    intro row inside hit
    simp only [Bool.and_eq_true, Option.isNone_iff_eq_none, beq_iff_eq] at hit
    have same : row = own := eq_of_key s.valid.ids inside there (hit.1.trans owns.1.symm)
    have agents : isAgents customers hash remoteId token row = true := by
      rw [same]
      exact owns.2
    exact .failed reason hit.2 (allowed row inside hit.1 agents hit.2)
  · exact .refl may now s

theorem extends_cancelPush (pushId tenantId : Nat) (s : PushTable) :
    Extends may now s (cancelPush now pushId tenantId s).1 [] := by
  apply Extends.mark (marks_cancelSet now)
  intro row _ hit
  simp only [Bool.and_eq_true] at hit
  exact .cancelled hit.2

theorem extends_cancelBulk (bulkBatchId tenantId : Nat) (s : PushTable) :
    Extends may now s (cancelBulk now bulkBatchId tenantId s).1 [] := by
  apply Extends.mark (marks_cancelSet now)
  intro row _ hit
  simp only [Bool.and_eq_true] at hit
  exact .cancelled hit.2

/-- What a call that writes does: it marks rows, and the rows it inserts are rows of a person or
one automatic row. -/
theorem effect_after {s : State} {e : Event} (writes : writesAt e = some now)
    (allowed : FailsOnly hash may s e) :
    ∃ fresh, Extends may now s.table (e.after hash s.table) fresh ∧
      ∀ row ∈ fresh, row.requestedBy ≠ none ∨
        ∃ customerId version, Queued now customerId version s.table row := by
  have byPerson : ∀ {t : PushTable} {requestedBy : Nat},
      (∃ fresh, Extends may now s.table t fresh ∧
        ∀ row ∈ fresh, row.requestedBy = some requestedBy) →
      ∃ fresh, Extends may now s.table t fresh ∧ ∀ row ∈ fresh, row.requestedBy ≠ none ∨
        ∃ customerId version, Queued now customerId version s.table row := by
    rintro t requestedBy ⟨fresh, extend, named⟩
    refine ⟨fresh, extend, ?_⟩
    intro row inside
    rw [named row inside]
    exact .inl (Option.some_ne_none _)
  have marksOnly : ∀ {t : PushTable}, Extends may now s.table t [] →
      ∃ fresh, Extends may now s.table t fresh ∧ ∀ row ∈ fresh, row.requestedBy ≠ none ∨
        ∃ customerId version, Queued now customerId version s.table row :=
    fun extend => ⟨[], extend, List.forall_mem_nil _⟩
  cases e with
  | getPendingForAgent customers remoteId token => cases writes
  | pushToCustomer customers time customerId asset opts ctx =>
    obtain rfl := Option.some.inj writes
    exact byPerson (extends_pushToCustomer customers customerId asset opts ctx s.table)
  | pushBulk customers time agentMeta asset opts ctx allowStaging =>
    obtain rfl := Option.some.inj writes
    exact byPerson (extends_pushBulk customers agentMeta asset opts ctx allowStaging s.table)
  | autoQueueIfBehind time customer reportedVersion agentMeta =>
    obtain rfl := Option.some.inj writes
    rcases @queued_autoQueueIfBehind time customer reportedVersion agentMeta s.table with
      refused | ⟨-, m, row, -, queued, rows⟩
    · apply marksOnly
      simp only [Event.after, refused]
      exact .refl may time s.table
    · refine ⟨[row], ⟨⟨id, by rw [List.map_id]; exact rows, fun row _ => .same⟩, ?_⟩, ?_⟩
      · intro new inside
        rw [List.mem_singleton.mp inside]
        exact queued.created
      · intro new inside
        rw [List.mem_singleton.mp inside]
        exact .inr ⟨customer.id, m.version, queued⟩
  | markApplied customers time pushId remoteId token =>
    obtain rfl := Option.some.inj writes
    exact marksOnly (extends_markApplied customers pushId remoteId token s.table)
  | markFailed customers time pushId remoteId token reason =>
    obtain rfl := Option.some.inj writes
    simp only [FailsOnly] at allowed
    exact marksOnly (extends_markFailed customers pushId remoteId token reason s.table allowed)
  | cancelPush time pushId tenantId =>
    obtain rfl := Option.some.inj writes
    exact marksOnly (extends_cancelPush pushId tenantId s.table)
  | cancelBulk time bulkBatchId tenantId =>
    obtain rfl := Option.some.inj writes
    exact marksOnly (extends_cancelBulk bulkBatchId tenantId s.table)

/-- A step reads, or writes at a later time. -/
theorem step_cases {s t : State} {e : Event} (next : (rollout hash).step s e = some t) :
    t = s ∨ ∃ now, writesAt e = some now ∧ s.clock < now ∧ t = ⟨e.after hash s.table, now⟩ := by
  simp only [rollout] at next
  split at next
  · exact .inl (Option.some.inj next).symm
  · rename_i now writes
    split at next
    · rename_i later
      exact .inr ⟨now, writes, later, (Option.some.inj next).symm⟩
    · cases next

variable {fresh : List PendingUpdate}

/-- A row after a call was there before it or is new. -/
theorem Extends.origin (extend : Extends may now s t fresh) {row : PendingUpdate}
    (inside : row ∈ t.rows) : (∃ old ∈ s.rows, Marked may now old row) ∨ row ∈ fresh := by
  obtain ⟨mark, rows, marked⟩ := extend.rows
  rw [rows] at inside
  rcases List.mem_append.mp inside with early | late
  · obtain ⟨old, before, rfl⟩ := List.mem_map.mp early
    exact .inl ⟨old, before, marked old before⟩
  · exact .inr late

/-- A row before a call is there after it. -/
theorem Extends.later (extend : Extends may now s t fresh) {old : PendingUpdate}
    (before : old ∈ s.rows) : ∃ row ∈ t.rows, Marked may now old row := by
  obtain ⟨mark, rows, marked⟩ := extend.rows
  refine ⟨mark old, ?_, marked old before⟩
  rw [rows]
  exact List.mem_append_left _ (List.mem_map_of_mem before)

/-- A row that is older than the call was there before it. -/
theorem Extends.old_of_created (extend : Extends may now s t fresh) {row : PendingUpdate}
    (inside : row ∈ t.rows) (older : row.createdAt < now) :
    ∃ old ∈ s.rows, Marked may now old row := by
  rcases extend.origin inside with old | new
  · exact old
  · have created := (extend.new row new).1
    omega

end Effects

/-- What the rows say about the order in which they were inserted. -/
structure Inv (rows : List PendingUpdate) (clock : Nat) : Prop where
  early : ∀ row ∈ rows, row.createdAt ≤ clock
  ordered : rows.Pairwise fun a b => SameTarget a b → a.createdAt < b.createdAt
  /-- An automatic row that is not the first of its target follows an applied one. -/
  applied : ∀ auto ∈ rows, auto.requestedBy = none → ∀ old ∈ rows, SameTarget old auto →
    old.createdAt < auto.createdAt → ∃ done ∈ rows, SameTarget done auto ∧
      done.createdAt < auto.createdAt ∧ done.appliedAt.isSome = true
  /-- What an automatic row follows is applied, or a person stepped in between. -/
  answered : ∀ auto ∈ rows, auto.requestedBy = none → ∀ old ∈ rows, SameTarget old auto →
    old.createdAt < auto.createdAt → old.appliedAt.isSome = true ∨
      ∃ human ∈ rows, SameTarget human auto ∧ human.requestedBy ≠ none ∧
        old.createdAt < human.createdAt ∧ human.createdAt < auto.createdAt
  /-- No target has three automatic rows. -/
  few : ∀ a ∈ rows, ∀ b ∈ rows, ∀ c ∈ rows, a.requestedBy = none → b.requestedBy = none →
    c.requestedBy = none → SameTarget a c → SameTarget b c → a.createdAt < b.createdAt →
    ¬ b.createdAt < c.createdAt

section Invariant

variable {may : PendingUpdate → Prop} {now clock : Nat} {s t : PushTable}
  {fresh rows : List PendingUpdate}

theorem Marked.sameTarget {a b a' b' : PendingUpdate} (first : Marked may now a a')
    (second : Marked may now b b') : SameTarget a' b' ↔ SameTarget a b := by
  unfold SameTarget
  rw [first.keys.1, first.keys.2.1, second.keys.1, second.keys.2.1]

/-- The newest row is not older than any other. -/
theorem newest_latest {row : PendingUpdate} (found : newest rows = some row) :
    ∀ other ∈ rows, other.createdAt ≤ row.createdAt := by
  induction rows generalizing row with
  | nil => cases found
  | cons first rest ih =>
    simp only [newest] at found
    intro other inside
    split at found
    · rename_i alone
      obtain rfl := Option.some.inj found
      cases rest with
      | nil =>
        rw [List.mem_singleton.mp inside]
      | cons second rest =>
        simp only [newest] at alone
        split at alone
        · cases alone
        · split at alone <;> cases alone
    · rename_i best later
      have below := ih later
      split at found
      · rename_i order
        obtain rfl := Option.some.inj found
        rcases List.mem_cons.mp inside with rfl | deeper
        · exact Nat.le_refl _
        · exact Nat.le_trans (below other deeper) order
      · rename_i order
        obtain rfl := Option.some.inj found
        rcases List.mem_cons.mp inside with rfl | deeper
        · omega
        · exact below other deeper

/-- Two different rows of a kind are counted twice. -/
theorem two_le_countP (p : PendingUpdate → Bool) {a b : PendingUpdate} (left : a ∈ rows)
    (right : b ∈ rows) (apart : a ≠ b) (first : p a = true) (second : p b = true) :
    2 ≤ rows.countP p := by
  rw [List.countP_eq_length_filter]
  have aKept : a ∈ rows.filter p := List.mem_filter.mpr ⟨left, first⟩
  have bKept : b ∈ rows.filter p := List.mem_filter.mpr ⟨right, second⟩
  match split : rows.filter p with
  | [] => rw [split] at aKept; cases aKept
  | [one] =>
    rw [split] at aKept bKept
    exact absurd ((List.mem_singleton.mp aKept).trans (List.mem_singleton.mp bKept).symm) apart
  | _ :: _ :: _ => exact Nat.le_add_left 2 _

/-- Where an automatic row was queued behind another row, the newest row of the target is the
only applied one. -/
theorem Queued.newest {customerId : Nat} {version : String} {row : PendingUpdate}
    (queued : Queued now customerId version s row) {old : PendingUpdate} (before : old ∈ s.rows)
    (same : SameTarget old row) :
    ∃ latest ∈ s.rows, SameTarget latest row ∧ latest.appliedAt.isSome = true ∧
      (∀ other ∈ s.rows, SameTarget other row → other.createdAt ≤ latest.createdAt) ∧
      ∀ other ∈ s.rows, SameTarget other row → other.appliedAt.isSome = true → other = latest := by
  have inTarget : ∀ other ∈ s.rows, SameTarget other row →
      other ∈ s.rows.filter fun old =>
        old.customerId == customerId && old.targetVersion == version := by
    intro other inside target
    apply List.mem_filter.mpr
    rw [← queued.customer, ← queued.target]
    simp [inside, target.1, target.2]
  have unsettled := queued.unsettled
  unfold isSettled at unsettled
  split at unsettled
  · rename_i empty
    have inside := inTarget old before same
    revert empty inside
    cases s.rows.filter fun old =>
        old.customerId == customerId && old.targetVersion == version with
    | nil => intro _ inside; cases inside
    | cons first rest =>
      intro empty _
      simp only [Panel.newest] at empty
      split at empty
      · cases empty
      · split at empty <;> cases empty
  · rename_i latest found
    simp only [Bool.or_eq_false_iff, Option.isNone_eq_false_iff, decide_eq_false_iff_not,
      Nat.not_le] at unsettled
    have member := List.mem_filter.mp (newest_mem found)
    simp only [Bool.and_eq_true, beq_iff_eq] at member
    have target : SameTarget latest row :=
      ⟨member.2.1.trans queued.customer.symm, member.2.2.trans queued.target.symm⟩
    refine ⟨latest, member.1, target, unsettled.1, ?_, ?_⟩
    · intro other inside own
      exact newest_latest found other (inTarget other inside own)
    · intro other inside own done
      by_contra apart
      have counted := two_le_countP (fun row => row.appliedAt.isSome)
        (inTarget other inside own) (newest_mem found) apart done unsettled.1
      omega

/-- Rows of one target with one time are one row. -/
theorem Inv.eq_of_created (inv : Inv rows clock) {a b : PendingUpdate} (left : a ∈ rows)
    (right : b ∈ rows) (same : SameTarget a b) (time : a.createdAt = b.createdAt) : a = b := by
  have forward : rows.Pairwise fun a b => SameTarget a b → a.createdAt = b.createdAt → a = b := by
    apply inv.ordered.imp
    intro a b order same time
    have earlier := order same
    omega
  have backward : rows.Pairwise fun a b => SameTarget b a → b.createdAt = a.createdAt → b = a := by
    apply inv.ordered.imp
    intro a b order same time
    have earlier := order ⟨same.1.symm, same.2.symm⟩
    omega
  exact forward.forall_of_forall_of_flip (fun _ _ _ _ => rfl) backward left right same time

/-- No row is newer than the call. -/
theorem Extends.early (extend : Extends may now s t fresh) (later : clock < now)
    (early : ∀ row ∈ s.rows, row.createdAt ≤ clock) : ∀ row ∈ t.rows, row.createdAt ≤ now := by
  intro row inside
  rcases extend.origin inside with ⟨old, before, marked⟩ | new
  · have time := early old before
    have kept := marked.keys.2.2.2
    omega
  · exact Nat.le_of_eq (extend.new row new).1

/-- The rows of one target stay ordered: two new ones of it would both wait. -/
theorem Extends.ordered (extend : Extends may now s t fresh) (later : clock < now)
    (early : ∀ row ∈ s.rows, row.createdAt ≤ clock)
    (ordered : s.rows.Pairwise fun a b => SameTarget a b → a.createdAt < b.createdAt) :
    t.rows.Pairwise fun a b => SameTarget a b → a.createdAt < b.createdAt := by
  obtain ⟨mark, rows, marked⟩ := extend.rows
  have single := t.valid.single
  rw [rows] at single ⊢
  apply List.pairwise_append.mpr
  refine ⟨?_, ?_, ?_⟩
  · apply List.pairwise_map.mpr
    apply ordered.imp_of_mem
    intro a b aIn bIn order same
    rw [(marked a aIn).keys.2.2.2, (marked b bIn).keys.2.2.2]
    exact order (((marked a aIn).sameTarget (marked b bIn)).mp same)
  · apply (List.pairwise_append.mp single).2.1.imp_of_mem
    intro a b aIn bIn apart same
    exact absurd ⟨(extend.new a aIn).2, (extend.new b bIn).2, same.1, same.2⟩ apart
  · intro a aIn b bIn _
    obtain ⟨old, before, rfl⟩ := List.mem_map.mp aIn
    have time := early old before
    rw [(marked old before).keys.2.2.2, (extend.new b bIn).1]
    omega

section Call

variable (inv : Inv s.rows clock) (later : clock < now) (extend : Extends may now s t fresh)
  (kinds : ∀ row ∈ fresh, row.requestedBy ≠ none ∨
    ∃ customerId version, Queued now customerId version s row)

include extend kinds in
/-- An automatic row is an old one, or the row that the call queued. -/
theorem automatic_origin {auto : PendingUpdate} (inside : auto ∈ t.rows)
    (unnamed : auto.requestedBy = none) :
    (∃ before ∈ s.rows, Marked may now before auto ∧ before.requestedBy = none) ∨
      ∃ customerId version, Queued now customerId version s auto := by
  rcases extend.origin inside with ⟨before, there, marked⟩ | new
  · exact .inl ⟨before, there, marked, marked.keys.2.2.1.symm.trans unnamed⟩
  · exact .inr ((kinds auto new).resolve_left (not_not_intro unnamed))

include inv later extend in
/-- A row older than another was there before the call. -/
theorem older_origin {row auto : PendingUpdate} (inside : row ∈ t.rows) (autoIn : auto ∈ t.rows)
    (order : row.createdAt < auto.createdAt) : ∃ before ∈ s.rows, Marked may now before row := by
  have limit := extend.early later inv.early auto autoIn
  exact extend.old_of_created inside (by omega)

include inv later extend kinds in
theorem applied_after {auto : PendingUpdate} (autoIn : auto ∈ t.rows)
    (unnamed : auto.requestedBy = none) {old : PendingUpdate} (oldIn : old ∈ t.rows)
    (same : SameTarget old auto) (order : old.createdAt < auto.createdAt) :
    ∃ done ∈ t.rows, SameTarget done auto ∧ done.createdAt < auto.createdAt ∧
      done.appliedAt.isSome = true := by
  obtain ⟨old', oldBefore, oldMarked⟩ := older_origin inv later extend oldIn autoIn order
  have oldTime := oldMarked.keys.2.2.2
  rcases automatic_origin extend kinds autoIn unnamed with
    ⟨auto', autoBefore, autoMarked, before⟩ | ⟨customerId, version, queued⟩
  · have autoTime := autoMarked.keys.2.2.2
    obtain ⟨done, doneIn, doneSame, doneOrder, doneApplied⟩ := inv.applied auto' autoBefore before
      old' oldBefore ((oldMarked.sameTarget autoMarked).mp same) (by omega)
    obtain ⟨after, afterIn, marked⟩ := extend.later doneIn
    have time := marked.keys.2.2.2
    exact ⟨after, afterIn, (marked.sameTarget autoMarked).mpr doneSame, by omega,
      marked.keeps_applied doneApplied⟩
  · have own := (oldMarked.sameTarget .same).mp same
    obtain ⟨latest, latestIn, latestSame, applied, -, -⟩ := queued.newest oldBefore own
    obtain ⟨after, afterIn, marked⟩ := extend.later latestIn
    have time := marked.keys.2.2.2
    have limit := inv.early latest latestIn
    have created := queued.created.1
    exact ⟨after, afterIn, (marked.sameTarget .same).mpr latestSame, by omega,
      marked.keeps_applied applied⟩

include inv in
/-- What a queued row follows is applied, or a person stepped in after it. -/
theorem Queued.answered {customerId : Nat} {version : String} {auto : PendingUpdate}
    (queued : Queued now customerId version s auto) {old : PendingUpdate} (before : old ∈ s.rows)
    (same : SameTarget old auto) : old.appliedAt.isSome = true ∨
      ∃ human ∈ s.rows, SameTarget human auto ∧ human.requestedBy ≠ none ∧
        old.createdAt < human.createdAt := by
  obtain ⟨latest, latestIn, latestSame, applied, newest, -⟩ := queued.newest before same
  have target : SameTarget old latest :=
    ⟨same.1.trans latestSame.1.symm, same.2.trans latestSame.2.symm⟩
  have order := newest old before same
  by_cases time : old.createdAt = latest.createdAt
  · rw [inv.eq_of_created before latestIn target time]
    exact .inl applied
  · by_cases unnamed : latest.requestedBy = none
    · rcases inv.answered latest latestIn unnamed old before target (by omega) with
        done | ⟨human, humanIn, humanSame, named, after, -⟩
      · exact .inl done
      · exact .inr ⟨human, humanIn,
          ⟨humanSame.1.trans latestSame.1, humanSame.2.trans latestSame.2⟩, named, after⟩
    · exact .inr ⟨latest, latestIn, latestSame, unnamed, by omega⟩

include inv later extend kinds in
theorem answered_after {auto : PendingUpdate} (autoIn : auto ∈ t.rows)
    (unnamed : auto.requestedBy = none) {old : PendingUpdate} (oldIn : old ∈ t.rows)
    (same : SameTarget old auto) (order : old.createdAt < auto.createdAt) :
    old.appliedAt.isSome = true ∨ ∃ human ∈ t.rows, SameTarget human auto ∧
      human.requestedBy ≠ none ∧ old.createdAt < human.createdAt ∧
        human.createdAt < auto.createdAt := by
  obtain ⟨old', oldBefore, oldMarked⟩ := older_origin inv later extend oldIn autoIn order
  have oldTime := oldMarked.keys.2.2.2
  rcases automatic_origin extend kinds autoIn unnamed with
    ⟨auto', autoBefore, autoMarked, before⟩ | ⟨customerId, version, queued⟩
  · have autoTime := autoMarked.keys.2.2.2
    rcases inv.answered auto' autoBefore before old' oldBefore
      ((oldMarked.sameTarget autoMarked).mp same) (by omega) with
      applied | ⟨human, humanIn, humanSame, named, after, until'⟩
    · exact .inl (oldMarked.keeps_applied applied)
    · obtain ⟨kept, keptIn, marked⟩ := extend.later humanIn
      have time := marked.keys.2.2.2
      refine .inr ⟨kept, keptIn, (marked.sameTarget autoMarked).mpr humanSame, ?_, by omega,
        by omega⟩
      rw [marked.keys.2.2.1]
      exact named
  · have own := (oldMarked.sameTarget .same).mp same
    rcases queued.answered inv oldBefore own with applied | ⟨human, humanIn, humanSame, named, after⟩
    · exact .inl (oldMarked.keeps_applied applied)
    · obtain ⟨kept, keptIn, marked⟩ := extend.later humanIn
      have time := marked.keys.2.2.2
      have limit := inv.early human humanIn
      have created := queued.created.1
      refine .inr ⟨kept, keptIn, (marked.sameTarget .same).mpr humanSame, ?_, by omega, by omega⟩
      rw [marked.keys.2.2.1]
      exact named

include inv later extend kinds in
/-- A third automatic row would follow two applied ones. -/
theorem few_after {a b c : PendingUpdate} (aIn : a ∈ t.rows) (bIn : b ∈ t.rows) (cIn : c ∈ t.rows)
    (aUnnamed : a.requestedBy = none) (bUnnamed : b.requestedBy = none)
    (cUnnamed : c.requestedBy = none) (ac : SameTarget a c) (bc : SameTarget b c)
    (first : a.createdAt < b.createdAt) (second : b.createdAt < c.createdAt) : False := by
  obtain ⟨a', aBefore, aMarked⟩ := older_origin inv later extend aIn bIn first
  obtain ⟨b', bBefore, bMarked⟩ := older_origin inv later extend bIn cIn second
  have aTime := aMarked.keys.2.2.2
  have bTime := bMarked.keys.2.2.2
  have aOld : a'.requestedBy = none := aMarked.keys.2.2.1.symm.trans aUnnamed
  have bOld : b'.requestedBy = none := bMarked.keys.2.2.1.symm.trans bUnnamed
  rcases automatic_origin extend kinds cIn cUnnamed with
    ⟨c', cBefore, cMarked, cOld⟩ | ⟨customerId, version, queued⟩
  · have cTime := cMarked.keys.2.2.2
    exact inv.few a' aBefore b' bBefore c' cBefore aOld bOld cOld
      ((aMarked.sameTarget cMarked).mp ac) ((bMarked.sameTarget cMarked).mp bc) (by omega) (by omega)
  · have aOwn := (aMarked.sameTarget .same).mp ac
    have bOwn := (bMarked.sameTarget .same).mp bc
    obtain ⟨done, doneIn, doneSame, doneOrder, doneApplied⟩ := inv.applied b' bBefore bOld a'
      aBefore ⟨aOwn.1.trans bOwn.1.symm, aOwn.2.trans bOwn.2.symm⟩ (by omega)
    have doneOwn : SameTarget done c := ⟨doneSame.1.trans bOwn.1, doneSame.2.trans bOwn.2⟩
    obtain ⟨latest, -, -, -, newest, only⟩ := queued.newest bBefore bOwn
    have same := only done doneIn doneOwn doneApplied
    have order := newest b' bBefore bOwn
    rw [same] at doneOrder
    omega

include inv later extend kinds in
/-- A call keeps the invariant. -/
theorem Inv.extends : Inv t.rows now where
  early := extend.early later inv.early
  ordered := extend.ordered later inv.early inv.ordered
  applied _ autoIn unnamed _ oldIn := applied_after inv later extend kinds autoIn unnamed oldIn
  answered _ autoIn unnamed _ oldIn := answered_after inv later extend kinds autoIn unnamed oldIn
  few _ aIn _ bIn _ cIn aUnnamed bUnnamed cUnnamed ac bc first second :=
    few_after inv later extend kinds aIn bIn cIn aUnnamed bUnnamed cUnnamed ac bc first second

end Call

/-- A target has at most two automatic rows. -/
theorem Inv.count (inv : Inv rows clock) (customerId : Nat) (version : String) :
    (rows.countP fun row => row.customerId == customerId && row.targetVersion == version &&
      row.requestedBy.isNone) ≤ 2 := by
  rw [List.countP_eq_length_filter]
  generalize kept : (rows.filter fun row => row.customerId == customerId &&
    row.targetVersion == version && row.requestedBy.isNone) = autos
  have member : ∀ row ∈ autos, row ∈ rows ∧ row.customerId = customerId ∧
      row.targetVersion = version ∧ row.requestedBy = none := by
    intro row inside
    rw [← kept] at inside
    simpa [and_assoc] using inside
  have target : ∀ a ∈ autos, ∀ b ∈ autos, SameTarget a b := by
    intro a aIn b bIn
    have aOwn := (member a aIn).2
    have bOwn := (member b bIn).2
    exact ⟨aOwn.1.trans bOwn.1.symm, aOwn.2.1.trans bOwn.2.1.symm⟩
  have order : autos.Pairwise fun a b => SameTarget a b → a.createdAt < b.createdAt := by
    rw [← kept]
    exact inv.ordered.filter _
  match autos, member, target, order with
  | [], _, _, _ => exact Nat.zero_le 2
  | [_], _, _, _ => exact Nat.le_succ 1
  | [_, _], _, _, _ => exact Nat.le_refl 2
  | a :: b :: c :: rest, member, target, order =>
    have aIn : a ∈ a :: b :: c :: rest := by simp
    have bIn : b ∈ a :: b :: c :: rest := by simp
    have cIn : c ∈ a :: b :: c :: rest := by simp
    have first := (List.pairwise_cons.mp order).1 b (by simp) (target a aIn b bIn)
    have second := (List.pairwise_cons.mp (List.pairwise_cons.mp order).2).1 c (by simp)
      (target b bIn c cIn)
    exact absurd second (inv.few a (member a aIn).1 b (member b bIn).1 c (member c cIn).1
      (member a aIn).2.2.2 (member b bIn).2.2.2 (member c cIn).2.2.2 (target a aIn c cIn)
      (target b bIn c cIn) first)

/-- When the marks of the rows were set: an applied row has its other marks from before. -/
structure Timed (rows : List PendingUpdate) (clock : Nat) : Prop where
  past : ∀ row ∈ rows, ∀ time, row.appliedAt = some time ∨ row.cancelledAt = some time ∨
    row.failedAt = some time → time ≤ clock
  last : ∀ row ∈ rows, ∀ applied, row.appliedAt = some applied → ∀ time,
    row.cancelledAt = some time ∨ row.failedAt = some time → time < applied

/-- The rows that a failure report may mark without contradicting an earlier report. -/
def Unapplied (row : PendingUpdate) : Prop := row.appliedAt = none

instance (row : PendingUpdate) : Decidable (Unapplied row) :=
  inferInstanceAs (Decidable (row.appliedAt = none))

instance (hash : String → String) (s : State) (e : Event) :
    Decidable (FailsOnly hash Unapplied s e) := by
  unfold FailsOnly
  split <;> infer_instance

/-- A call keeps the order of the marks where failure reports spare applied rows. -/
theorem Timed.extends (timed : Timed s.rows clock) (later : clock < now)
    (extend : Extends Unapplied now s t fresh) : Timed t.rows now := by
  have marks : ∀ row ∈ t.rows,
      (∀ time, row.appliedAt = some time ∨ row.cancelledAt = some time ∨
        row.failedAt = some time → time ≤ now) ∧
      ∀ applied, row.appliedAt = some applied → ∀ time,
        row.cancelledAt = some time ∨ row.failedAt = some time → time < applied := by
    intro row inside
    rcases extend.origin inside with ⟨old, before, marked⟩ | new
    · have past := timed.past old before
      have last := timed.last old before
      have early : ∀ time, old.appliedAt = some time ∨ old.cancelledAt = some time ∨
          old.failedAt = some time → time < now := by
        intro time set
        have bound := past time set
        omega
      cases marked with
      | same => exact ⟨fun time set => Nat.le_of_lt (early time set), last⟩
      | applied first =>
        refine ⟨?_, ?_⟩
        · rintro time (set | set)
          · exact Nat.le_of_eq (Option.some.inj set).symm
          · exact Nat.le_of_lt (early time (.inr set))
        · intro applied set time other
          obtain rfl := Option.some.inj set
          exact early time (.inr other)
      | failed reason first allowed =>
        refine ⟨?_, ?_⟩
        · rintro time (set | set | set)
          · exact Nat.le_of_lt (early time (.inl set))
          · exact Nat.le_of_lt (early time (.inr (.inl set)))
          · exact Nat.le_of_eq (Option.some.inj set).symm
        · intro applied set
          cases allowed.symm.trans set
      | cancelled waits =>
        simp only [PendingUpdate.active, Bool.and_eq_true, Option.isNone_iff_eq_none] at waits
        refine ⟨?_, ?_⟩
        · rintro time (set | set | set)
          · exact Nat.le_of_lt (early time (.inl set))
          · exact Nat.le_of_eq (Option.some.inj set).symm
          · exact Nat.le_of_lt (early time (.inr (.inr set)))
        · intro applied set
          cases waits.1.1.symm.trans set
    · have unmarked := (extend.new row new).2
      simp only [PendingUpdate.active, Bool.and_eq_true, Option.isNone_iff_eq_none] at unmarked
      simp [unmarked]
  exact ⟨fun row inside => (marks row inside).1, fun row inside => (marks row inside).2⟩

end Invariant

/-- The last thing that happened to the push is a cancellation or a failure. -/
def EndedBadly (row : PendingUpdate) : Prop :=
  ∃ time, (row.cancelledAt = some time ∨ row.failedAt = some time) ∧
    ∀ applied, row.appliedAt = some applied → applied < time

/-- A step inserts an automatic row. -/
structure Inserts (s t : State) (row : PendingUpdate) : Prop where
  there : row ∈ t.table.rows
  automatic : row.requestedBy = none
  new : ∀ old ∈ s.table.rows, old.id ≠ row.id

variable {hash}

/-- Every step keeps the order of the rows. -/
theorem inv_reaches {guard : State → Event → Prop} {s : State}
    (reached : (rollout hash).Reaches guard s) : Inv s.table.rows s.clock := by
  apply reached.invariant fun s => Inv s.table.rows s.clock
  · intro s started
    have empty : s.table.rows = [] := started
    rw [empty]
    exact ⟨by simp, .nil, by simp, by simp, by simp⟩
  · intro s e t inv _ next
    rcases step_cases next with rfl | ⟨now, writes, later, rfl⟩
    · exact inv
    · have allowed : FailsOnly hash (fun _ => True) s e := by
        cases e <;> simp [FailsOnly]
      obtain ⟨fresh, extend, kinds⟩ := effect_after writes allowed
      exact inv.extends later extend kinds

/-- Where failure reports spare applied rows, every step keeps the order of the marks. -/
theorem timed_reaches {s : State} (reached : (rollout hash).Reaches (FailsOnly hash Unapplied) s) :
    Timed s.table.rows s.clock := by
  apply reached.invariant fun s => Timed s.table.rows s.clock
  · intro s started
    have empty : s.table.rows = [] := started
    rw [empty]
    exact ⟨by simp, by simp⟩
  · intro s e t timed allowed next
    rcases step_cases next with rfl | ⟨now, writes, later, rfl⟩
    · exact timed
    · obtain ⟨fresh, extend, -⟩ := effect_after writes allowed
      exact timed.extends later extend

/-- An automatic row that a step inserts was queued by it. -/
theorem Inserts.queued {s t : State} {e : Event} {row : PendingUpdate} (inserts : Inserts s t row)
    (next : (rollout hash).step s e = some t) :
    Queued t.clock row.customerId row.targetVersion s.table row := by
  rcases step_cases next with rfl | ⟨now, writes, later, rfl⟩
  · exact absurd rfl (inserts.new row inserts.there)
  · have allowed : FailsOnly hash (fun _ => True) s e := by
      cases e <;> simp [FailsOnly]
    obtain ⟨fresh, extend, kinds⟩ := effect_after writes allowed
    rcases extend.origin inserts.there with ⟨old, before, marked⟩ | new
    · exfalso
      apply inserts.new old before
      cases marked <;> rfl
    · rcases kinds row new with named | ⟨customerId, version, queued⟩
      · exact absurd inserts.automatic named
      · have customer := queued.customer
        have target := queued.target
        subst customer target
        exact queued

/-- Over every run: a customer and target get at most two automatic rows, and none while a push
that a person requested waits. Where no failure report marks an applied push, none follows a
push that was last cancelled or failed, unless a person requested a newer one. -/
theorem rollout_bounded (hash : String → String) :
    (∀ s, (rollout hash).Reaches Machine.free s → ∀ customerId version,
      (s.table.rows.countP fun row => row.customerId == customerId &&
        row.targetVersion == version && row.requestedBy.isNone) ≤ 2) ∧
    ((rollout hash).Always Machine.free fun s _ t => ∀ row, Inserts s t row →
      ∀ old ∈ s.table.rows, old.customerId = row.customerId → old.requestedBy ≠ none →
        old.active = false) ∧
    (rollout hash).Always (FailsOnly hash Unapplied) fun s _ t => ∀ row, Inserts s t row →
      ∀ old ∈ s.table.rows, SameTarget old row → EndedBadly old →
        ∃ human ∈ s.table.rows, SameTarget human row ∧ human.requestedBy ≠ none ∧
          old.createdAt < human.createdAt := by
  refine ⟨?_, ?_, ?_⟩
  · intro s reached customerId version
    exact (inv_reaches reached).count customerId version
  · intro s e t _ _ next row inserts
    exact (inserts.queued next).unpinned
  · intro s e t reached _ next row inserts old before same ⟨time, mark, after⟩
    rcases (inserts.queued next).answered (inv_reaches reached) before same with applied | human
    · obtain ⟨done, set⟩ := Option.isSome_iff_exists.mp applied
      have last := (timed_reaches reached).last old before done set time mark
      have first := after done set
      omega
    · exact human

/-- The customer of the example runs. -/
def store : Customer :=
  { id := 1, tenantId := 1, name := "cafe", remoteId := some "100", heartbeatToken := some "token" }

/-- The published file of the example runs. -/
def release : AgentPushMeta :=
  { version := "1.1.0", url := "https://host/setup", sha256 := "ab", size := .finite 5
    autoRollout := true }

/-- The agent reports that it is behind. -/
def behindAt (now : Nat) : Event := .autoQueueIfBehind now store "1.0.0" (some release)

/-- The row that the report queues. -/
def autoRow (id now : Nat) : PendingUpdate :=
  { id, tenantId := 1, customerId := 1, targetVersion := "1.1.0", assetUrl := "https://host/setup"
    assetSha256 := "ab", assetSize := 5, windowStartHour := 0, windowEndHour := 24
    randomizeMaxSec := 3600, createdAt := now, updatedAt := now }

/-- The table that an insert stores, where the unique index admits the row. -/
theorem add_getD {t : PushTable} {values : PendingUpdate} (free : (t.add values).isSome = true) :
    t.add values = some ((t.add values).getD t) := by
  obtain ⟨u, stored⟩ := Option.isSome_iff_exists.mp free
  rw [stored]
  rfl

/-- The report inserts its row where no request of a person waits and the target is open. -/
theorem behindAt_inserts {s : State} {now : Nat} (later : s.clock < now)
    (unpinned : (s.table.rows.any fun row =>
      row.customerId == store.id && row.requestedBy.isSome && row.active) = false)
    (unsettled : isSettled (s.table.rows.filter fun row =>
      row.customerId == store.id && row.targetVersion == release.version) = false)
    (free : (s.table.add (autoRow 0 now)).isSome = true) :
    (rollout id).step s (behindAt now) =
        some ⟨(s.table.add (autoRow 0 now)).getD s.table, now⟩ ∧
      Inserts s ⟨(s.table.add (autoRow 0 now)).getD s.table, now⟩ (autoRow s.table.nextId now) := by
  have stored := add_getD free
  have target : versionNumbers release.version = [1, 1, 0] := by decide
  have reported : versionNumbers "1.0.0" = [1, 0, 0] := by decide
  have newer : isVersionNewer release.version "1.0.0" = true := by
    simp [isVersionNewer, target, reported, newerNumbers]
  have columns : PushAsset.columns
      ⟨release.version, release.url, release.sha256, release.size⟩ autoOptions store.tenantId none
        none now = some fun customerId => { autoRow 0 now with customerId } := rfl
  have told : (store.isInternal || jsTrim "1.0.0" == "") = false := by decide
  have own : { autoRow 0 now with customerId := store.id } = autoRow 0 now := rfl
  have after : (behindAt now).after id s.table = (s.table.add (autoRow 0 now)).getD s.table := by
    simp only [behindAt, Event.after, autoQueueIfBehind, newer, told, unpinned, unsettled, columns,
      own]
    rw [stored]
    rfl
  refine ⟨?_, ?_, rfl, ?_⟩
  · rw [← after]
    exact if_pos later
  · rw [add_rows stored]
    exact List.mem_append_right _ (List.mem_singleton.mpr rfl)
  · intro old inside
    exact Nat.ne_of_lt (s.table.valid.below old inside)

theorem noPushes_valid : PushValid [] 0 := ⟨.nil, List.forall_mem_nil _, .nil⟩

/-- The empty table. -/
def noPushes : PushTable := ⟨[], 0, noPushes_valid⟩

/-- The table with the first automatic row. -/
def firstQueued : PushTable := (noPushes.add (autoRow 0 1)).getD noPushes

theorem runs_firstQueued :
    (rollout id).Runs (FailsOnly id Unapplied) ⟨noPushes, 0⟩ ⟨firstQueued, 1⟩ :=
  .step (behindAt 1) .refl trivial
    (@behindAt_inserts ⟨noPushes, 0⟩ 1 (by decide) rfl rfl (by decide)).1

/-- The first automatic push is applied and then reported as failed. -/
def appliedThenFailed : State :=
  (rollout id).play Machine.free ⟨firstQueued, 1⟩
    [.markApplied [store] 2 0 "100" "token", .markFailed [store] 3 0 "100" "token" "x"]

/-- The automatic rollout follows a push that failed last with another one. -/
theorem appliedThenFailed_queued :
    (rollout id).Reaches Machine.free appliedThenFailed ∧ ∃ t row,
      (rollout id).step appliedThenFailed (behindAt 4) = some t ∧
        Inserts appliedThenFailed t row ∧ ∃ old ∈ appliedThenFailed.table.rows,
        SameTarget old row ∧ EndedBadly old ∧
        ∀ other ∈ appliedThenFailed.table.rows, other.requestedBy = none := by
  have rows : appliedThenFailed.table.rows =
      [failSet 3 "x" (applySet 2 (autoRow 0 1))] := by decide +kernel
  have inserts := @behindAt_inserts appliedThenFailed 4 (by decide +kernel)
    (by rw [rows]; decide) (by rw [rows]; decide) (by decide +kernel)
  refine ⟨⟨⟨noPushes, 0⟩, rfl, ?_⟩, _, _, inserts.1, inserts.2, ?_⟩
  · exact (runs_firstQueued.mono fun _ _ _ => trivial).trans (Machine.runs_play _ _ _ _)
  · rw [rows]
    refine ⟨_, List.mem_singleton.mpr rfl, ⟨rfl, rfl⟩, ⟨3, .inr rfl, ?_⟩, ?_⟩
    · intro applied set
      obtain rfl := Option.some.inj set
      decide
    · simp [failSet, applySet, autoRow]

/-- The first automatic push fails, and a person requests the target again, which is applied. -/
def failedThenRequested : State :=
  (rollout id).play (FailsOnly id Unapplied) ⟨firstQueued, 1⟩
    [.markFailed [store] 2 0 "100" "token" "x",
     .pushToCustomer [store] 3 1
       ⟨"1.1.0", "https://host/setup", String.ofList (List.replicate 64 'a'), .finite 5⟩ {} ⟨1, 7⟩,
     .markApplied [store] 4 1 "100" "token"]

/-- The automatic rollout follows the failed push again, after the request of a person. -/
theorem failedThenRequested_queued :
    (rollout id).Reaches (FailsOnly id Unapplied) failedThenRequested ∧ ∃ t row,
      (rollout id).step failedThenRequested (behindAt 5) = some t ∧
        Inserts failedThenRequested t row ∧ ∃ old ∈ failedThenRequested.table.rows,
        EndedBadly old ∧ ∃ human ∈ failedThenRequested.table.rows, SameTarget human row ∧
          human.requestedBy ≠ none ∧ old.createdAt < human.createdAt := by
  have first : failSet 2 "x" (autoRow 0 1) ∈ failedThenRequested.table.rows := by decide +kernel
  have inserts := @behindAt_inserts failedThenRequested 5 (by decide +kernel)
    (by decide +kernel) (by decide +kernel) (by decide +kernel)
  have reached : (rollout id).Reaches (FailsOnly id Unapplied) failedThenRequested :=
    ⟨⟨noPushes, 0⟩, rfl, runs_firstQueued.trans (Machine.runs_play _ _ _ _)⟩
  have ended : EndedBadly (failSet 2 "x" (autoRow 0 1)) := ⟨2, .inr rfl, nofun⟩
  refine ⟨reached, _, _, inserts.1, inserts.2, _, first, ended, ?_⟩
  exact (rollout_bounded id).2.2 failedThenRequested (behindAt 5) _ reached trivial inserts.1 _
    inserts.2 _ first ⟨rfl, rfl⟩ ended

end ChainRemote.Panel.Rollout
