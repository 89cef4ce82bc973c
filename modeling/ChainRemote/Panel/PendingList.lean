import ChainRemote.Lib.Query
import ChainRemote.Panel.Database
import ChainRemote.Panel.Rollout

/-!
# The push that the panel shows and the push that the agent gets

`listCustomersWithPending` of `lib/data/pending-updates.ts` keeps the first row of each customer in
an order that does not mention the push; `getPendingForAgent` takes the newest. They agree on a
device exactly where at most one push of its customer waits, which the unique index does not
promise: it admits one of each version.
-/

namespace ChainRemote.Panel.PendingList

open Lib PushLifecycle Rollout

/-- The columns of a push that the listing selects. -/
structure ListedPush where
  id : Nat
  targetVersion : String
  bulkBatchId : Option Nat
  createdAt : Nat
deriving DecidableEq, Repr

/-- The listed columns of a row. -/
def ListedPush.of (row : PendingUpdate) : ListedPush where
  id := row.id
  targetVersion := row.targetVersion
  bulkBatchId := row.bulkBatchId
  createdAt := row.createdAt

/-- An entry of the listing. -/
structure ListedCustomer where
  customer : Customer
  pendingUpdate : Option ListedPush

/-- The condition of the join. -/
def waitsFor (c : Customer) (row : PendingUpdate) : Bool := row.customerId == c.id && row.active

/-- The rows that the query of `listCustomersWithPending` joins. -/
def joinedRows (customers : List Customer) (tenantId : Nat) (t : PushTable) :
    List (Customer × Option PendingUpdate) :=
  (leftJoin waitsFor customers t.rows).filter fun r => r.1.tenantId == tenantId

/-- What the query may return: the joined rows by `updated_at`, those of one time in any order. -/
structure QueryResult (customers : List Customer) (tenantId : Nat) (t : PushTable)
    (rows : List (Customer × Option PendingUpdate)) : Prop where
  perm : rows.Perm (joinedRows customers tenantId t)
  ordered : rows.Pairwise fun a b => b.1.updatedAt ≤ a.1.updatedAt

/-- `r.customer.id`. -/
def customerIdOf (r : Customer × Option PendingUpdate) : Nat := r.1.id

/-- `listCustomersWithPending`, on the rows of its query. -/
def listCustomersWithPending (rows : List (Customer × Option PendingUpdate)) :
    List ListedCustomer :=
  (dedupe customerIdOf [] rows).map fun r =>
    { customer := r.1, pendingUpdate := r.2.map ListedPush.of }

/-- The pushes of a customer that wait. -/
def waiting (c : Customer) (t : PushTable) : List PendingUpdate := t.rows.filter (waitsFor c)

section Listing

variable (hash : String → String) (customers : List Customer) (tenantId : Nat) (t : PushTable)

/-- One entry for each customer of the tenant, with the push that the customer's device gets. -/
structure ShowsServed (entries : List ListedCustomer) : Prop where
  once : (entries.map fun e => e.customer.id).Nodup
  all : ∀ c, c ∈ entries.map ListedCustomer.customer ↔ c ∈ customers ∧ c.tenantId = tenantId
  served : ∀ e ∈ entries, ∀ remoteId token, remoteId ≠ "" →
    selects hash remoteId token e.customer = true →
    e.pendingUpdate.map ListedPush.id =
      (getPendingForAgent customers hash remoteId token t).map PendingUpdate.id

/-- A customer has a device that polls: an id that is not blank, and a token. -/
def HasDevice (c : Customer) : Prop :=
  ∃ remoteId token, remoteId ≠ "" ∧ selects hash remoteId token c = true

/-- Of every customer of the tenant with a device, at most one push waits. -/
def OneWaits : Prop :=
  ∀ c ∈ customers, c.tenantId = tenantId → HasDevice hash c → (waiting c t).length ≤ 1

end Listing

section Facts

variable {hash : String → String} {db : Db} {tenantId : Nat} {t : PushTable} {c : Customer}

theorem joinedRows_eq (customers : List Customer) :
    joinedRows customers tenantId t =
      leftJoin waitsFor (customers.filter fun c => c.tenantId == tenantId) t.rows :=
  filter_leftJoin waitsFor (fun c : Customer => c.tenantId == tenantId) customers t.rows

theorem nodup_joinedRows (db : Db) (tenantId : Nat) (t : PushTable) :
    (joinedRows db.customers tenantId t).Nodup := by
  have customers : db.customers.Nodup := List.Nodup.of_map _ db.valid.customerIds
  have rows : t.rows.Nodup := List.Nodup.of_map _ t.valid.ids
  exact (nodup_leftJoin customers rows).filter _

/-- The query has a result. -/
theorem queryResult_orderDesc (customers : List Customer) (tenantId : Nat) (t : PushTable) :
    QueryResult customers tenantId t
      (orderDesc (fun r => r.1.updatedAt) (joinedRows customers tenantId t)) :=
  ⟨perm_orderDesc _ _, pairwise_orderDesc _ _⟩

/-- The device of a customer is that of no other customer. -/
theorem isAgents_eq (inside : c ∈ db.customers) {remoteId token : String} (named : remoteId ≠ "")
    (own : selects hash remoteId token c = true) (row : PendingUpdate) :
    isAgents db.customers hash remoteId token row = (row.customerId == c.id) := by
  have ownId : c.remoteId = some remoteId := beq_iff_eq.mp (Bool.and_eq_true_iff.mp own).1
  unfold isAgents
  rw [Bool.eq_iff_iff, List.any_eq_true, beq_iff_eq]
  constructor
  · rintro ⟨other, there, matching⟩
    obtain ⟨same, selected⟩ := Bool.and_eq_true_iff.mp matching
    have otherId : other.remoteId = some remoteId :=
      beq_iff_eq.mp (Bool.and_eq_true_iff.mp selected).1
    rw [← db.eq_of_remoteId named there inside otherId ownId]
    exact (beq_iff_eq.mp same).symm
  · intro same
    exact ⟨c, inside, Bool.and_eq_true_iff.mpr ⟨beq_iff_eq.mpr same.symm, own⟩⟩

/-- A device gets the newest of the pushes that wait for its customer. -/
theorem getPendingForAgent_eq (inside : c ∈ db.customers) {remoteId token : String}
    (named : remoteId ≠ "") (own : selects hash remoteId token c = true) :
    getPendingForAgent db.customers hash remoteId token t = newest (waiting c t) := by
  unfold getPendingForAgent waiting waitsFor
  simp only [isAgents_eq inside named own]

theorem newest_isSome {rows : List PendingUpdate} (some : rows ≠ []) :
    ∃ row, newest rows = Option.some row := by
  cases rows with
  | nil => exact absurd rfl some
  | cons first rest =>
    unfold newest
    cases newest rest with
    | none => exact ⟨first, rfl⟩
    | some other =>
      dsimp only
      split
      · exact ⟨first, rfl⟩
      · exact ⟨other, rfl⟩

section Results

variable {rows : List (Customer × Option PendingUpdate)}

theorem QueryResult.mem_some (result : QueryResult db.customers tenantId t rows)
    {row : PendingUpdate} :
    (c, some row) ∈ rows ↔
      (c ∈ db.customers ∧ c.tenantId = tenantId) ∧ row ∈ waiting c t := by
  rw [result.perm.mem_iff, joinedRows_eq, mem_leftJoin_some, List.mem_filter, beq_iff_eq, waiting,
    List.mem_filter]

theorem QueryResult.fst_mem (result : QueryResult db.customers tenantId t rows)
    {r : Customer × Option PendingUpdate} (inside : r ∈ rows) :
    r.1 ∈ db.customers ∧ r.1.tenantId = tenantId := by
  rw [result.perm.mem_iff, joinedRows_eq] at inside
  have left := List.mem_filter.mp (fst_mem_of_mem_leftJoin inside)
  exact ⟨left.1, beq_iff_eq.mp left.2⟩

/-- Every customer of the tenant is listed. -/
theorem QueryResult.listed (result : QueryResult db.customers tenantId t rows)
    (inside : c ∈ db.customers) (mine : c.tenantId = tenantId) :
    ∃ pending, (c, pending) ∈ dedupe customerIdOf [] rows := by
  have left : c ∈ db.customers.filter fun c => c.tenantId == tenantId :=
    List.mem_filter.mpr ⟨inside, beq_iff_eq.mpr mine⟩
  obtain ⟨partner, joined⟩ := exists_mem_leftJoin waitsFor t.rows left
  rw [← joinedRows_eq, ← result.perm.mem_iff] at joined
  have found : ∃ r ∈ dedupe customerIdOf [] rows, customerIdOf r = c.id :=
    exists_mem_dedupe joined List.not_mem_nil
  obtain ⟨⟨other, pending⟩, kept, same⟩ := found
  have there := (result.fst_mem (dedupe_sublist.mem kept)).1
  obtain rfl := db.eq_of_id there inside same
  exact ⟨pending, kept⟩

theorem QueryResult.once (result : QueryResult db.customers tenantId t rows) :
    ((listCustomersWithPending rows).map fun e => e.customer.id).Nodup ∧
      ∀ c, c ∈ (listCustomersWithPending rows).map ListedCustomer.customer ↔
        c ∈ db.customers ∧ c.tenantId = tenantId := by
  unfold listCustomersWithPending
  constructor
  · rw [List.map_map]
    exact nodup_dedupe
  · intro c
    rw [List.map_map, List.mem_map]
    constructor
    · rintro ⟨r, kept, rfl⟩
      exact result.fst_mem (dedupe_sublist.mem kept)
    · rintro ⟨inside, mine⟩
      obtain ⟨pending, kept⟩ := result.listed inside mine
      exact ⟨_, kept, rfl⟩

/-- Where at most one push waits, the listing shows what the device gets. -/
theorem QueryResult.showsServed (result : QueryResult db.customers tenantId t rows)
    (one : OneWaits hash db.customers tenantId t) :
    ShowsServed hash db.customers tenantId t (listCustomersWithPending rows) := by
  refine ⟨result.once.1, result.once.2, ?_⟩
  intro e listed remoteId token named own
  obtain ⟨⟨c, pending⟩, kept, rfl⟩ := List.mem_map.mp listed
  have old := dedupe_sublist.mem kept
  have inside := result.fst_mem old
  have few := one c inside.1 inside.2 ⟨remoteId, token, named, own⟩
  rw [getPendingForAgent_eq inside.1 named own]
  cases pending with
  | none =>
    rw [result.perm.mem_iff, joinedRows_eq] at old
    have nothing : waiting c t = [] := filter_eq_nil_of_mem_leftJoin old
    rw [nothing]
    rfl
  | some row =>
    have waits := (result.mem_some.mp old).2
    have single : waiting c t = [row] := by
      cases pushes : waiting c t with
      | nil =>
        rw [pushes] at waits
        cases waits
      | cons first rest =>
        rw [pushes] at few waits
        obtain rfl := List.eq_nil_of_length_eq_zero (Nat.le_zero.mp (Nat.le_of_succ_le_succ few))
        rw [List.mem_singleton.mp waits]
    rw [single]
    rfl

end Results

/-- Where two pushes wait, some result of the query shows one that the device does not get. -/
theorem oneWaits_of_showsServed
    (shows : ∀ rows, QueryResult db.customers tenantId t rows →
      ShowsServed hash db.customers tenantId t (listCustomersWithPending rows)) :
    OneWaits hash db.customers tenantId t := by
  classical
  rintro c inside mine ⟨remoteId, token, named, own⟩
  by_contra many
  have nonempty : waiting c t ≠ [] := by
    intro nothing
    rw [nothing] at many
    exact many (Nat.zero_le _)
  obtain ⟨served, newest⟩ := newest_isSome nonempty
  have servedWaits := newest_mem newest
  have distinct : (waiting c t).Nodup := (List.Nodup.of_map _ t.valid.ids).filter _
  -- a push that waits and is not served
  obtain ⟨other, otherWaits, apart⟩ : ∃ other ∈ waiting c t, other ≠ served := by
    by_contra none
    have same : ∀ row ∈ waiting c t, row = served := by
      intro row waits
      by_contra differs
      exact none ⟨row, waits, differs⟩
    apply many
    cases pushes : waiting c t with
    | nil => exact Nat.zero_le _
    | cons first rest =>
      rw [pushes] at distinct same
      have alone : rest = [] := by
        apply List.eq_nil_iff_forall_not_mem.mpr
        intro row later
        have again : row = first :=
          (same row (List.mem_cons_of_mem _ later)).trans (same first List.mem_cons_self).symm
        exact (List.nodup_cons.mp distinct).1 (again ▸ later)
      rw [alone]
      exact Nat.le_refl _
  have pushOf : ∀ rows, QueryResult db.customers tenantId t rows → ∀ row ∈ waiting c t,
      (c, some row) ∈ dedupe customerIdOf [] rows → row = served := by
    intro rows result row waits kept
    have listed : (⟨c, some (.of row)⟩ : ListedCustomer) ∈ listCustomersWithPending rows :=
      List.mem_map.mpr ⟨_, kept, rfl⟩
    have equal := (shows rows result).served _ listed remoteId token named own
    rw [getPendingForAgent_eq inside named own, newest] at equal
    have ids : row.id = served.id := Option.some.inj equal
    exact eq_of_key t.valid.ids (List.mem_filter.mp waits).1 (List.mem_filter.mp servedWaits).1 ids
  have result := queryResult_orderDesc db.customers tenantId t
  generalize orderDesc (fun r => r.1.updatedAt) (joinedRows db.customers tenantId t) = rows at result
  obtain ⟨pending, kept⟩ := result.listed inside mine
  have old := dedupe_sublist.mem kept
  cases pending with
  | none =>
    rw [result.perm.mem_iff, joinedRows_eq] at old
    exact nonempty (filter_eq_nil_of_mem_leftJoin old)
  | some row =>
    have waits := (result.mem_some.mp old).2
    obtain rfl := pushOf rows result row waits kept
    -- the same rows, with the two pushes exchanged
    have first : (c, some row) ∈ rows := old
    have second : (c, some other) ∈ rows := result.mem_some.mpr ⟨⟨inside, mine⟩, otherWaits⟩
    have keeps : ∀ r, (Equiv.swap (c, some row) (c, some other) r).1 = r.1 := by
      intro r
      rw [Equiv.swap_apply_def]
      split
      · rename_i same
        rw [same]
      · split
        · rename_i same
          rw [same]
        · rfl
    have exchanged : QueryResult db.customers tenantId t
        (rows.map (Equiv.swap (c, some row) (c, some other))) := by
      have nodup : rows.Nodup := result.perm.nodup_iff.mpr (nodup_joinedRows db tenantId t)
      refine ⟨(perm_map_swap nodup first second).trans result.perm, ?_⟩
      apply List.pairwise_map.mpr
      apply result.ordered.imp
      intro a b later
      rw [keeps, keeps]
      exact later
    apply apart
    apply pushOf _ exchanged other otherWaits
    have same : ∀ r, customerIdOf (Equiv.swap (c, some row) (c, some other) r) = customerIdOf r :=
      fun r => congrArg Customer.id (keeps r)
    rw [dedupe_map same]
    exact List.mem_map.mpr ⟨_, kept, Equiv.swap_apply_left _ _⟩

end Facts

/-- The waiting pushes of a customer are of one version. -/
def OnlyVersion (customerId : Nat) (version : String) (t : PushTable) : Prop :=
  ∀ row ∈ t.rows, row.customerId = customerId → row.active = true → row.targetVersion = version

/-- Where a call inserts, every push that goes on waiting is of the same version. -/
def Lone (t : PushTable) : Event → Prop
  | .pushToCustomer _ _ customerId asset _ _ => OnlyVersion customerId asset.targetVersion t
  | .pushBulk customers _ _ asset _ ctx _ =>
    ∀ c ∈ customers, isEligible ctx.tenantId c = true → ∀ row ∈ t.rows, row.customerId = c.id →
      row.active = true → row.tenantId ≠ ctx.tenantId → row.targetVersion = asset.targetVersion
  | .autoQueueIfBehind _ customer _ agentMeta =>
    ∀ m ∈ agentMeta, OnlyVersion customer.id m.version t
  | _ => True

/-- At most one push of a customer waits. -/
def Single (t : PushTable) : Prop :=
  t.rows.Pairwise fun a b => ¬ (a.active = true ∧ b.active = true ∧ a.customerId = b.customerId)

section Runs

variable {hash : String → String} {t u : PushTable}

theorem Single.mark (single : Single t) (here : PendingUpdate → Bool)
    {set : PendingUpdate → PendingUpdate} (marks : Marks set) : Single (t.mark here set marks) := by
  unfold Single PushTable.mark updateWhere
  apply List.pairwise_map.mpr
  apply single.imp
  intro a b apart both
  have keys : ∀ row, (if here row then set row else row).customerId = row.customerId ∧
      ((if here row then set row else row).active = true → row.active = true) := by
    intro row
    split
    · exact ⟨marks.customer row, marks.active row⟩
    · exact ⟨rfl, fun same => same⟩
  apply apart
  refine ⟨(keys a).2 both.1, (keys b).2 both.2.1, ?_⟩
  rw [← (keys a).1, ← (keys b).1]
  exact both.2.2

/-- The unique index keeps out a second push of the version that waits. -/
theorem Single.add (single : Single t) {values : PendingUpdate} (stored : t.add values = some u)
    (only : OnlyVersion values.customerId values.targetVersion t) : Single u := by
  unfold Single
  rw [add_rows stored]
  apply List.pairwise_append.mpr
  refine ⟨single, List.pairwise_singleton _ _, ?_⟩
  intro old inside new added both
  obtain rfl := List.mem_singleton.mp added
  have version := only old inside both.2.2 both.1
  exact add_apart stored old inside ⟨both.1, both.2.1, both.2.2, version⟩

theorem OnlyVersion.add {customerId : Nat} {version : String} (only : OnlyVersion customerId version t)
    {values : PendingUpdate} (stored : t.add values = some u)
    (same : values.targetVersion = version) : OnlyVersion customerId version u := by
  intro row inside named active
  rw [add_rows stored] at inside
  rcases List.mem_append.mp inside with old | new
  · exact only row old named active
  · rw [List.mem_singleton.mp new]
    exact same

theorem Single.addAll {row : Nat → PendingUpdate} {version : String}
    (columns : ∀ c, (row c).customerId = c ∧ (row c).targetVersion = version)
    {targets : List Customer} (single : Single t)
    (only : ∀ c ∈ targets, OnlyVersion c.id version t) : Single (addAll row targets t) := by
  unfold Panel.addAll
  induction targets generalizing t with
  | nil => exact single
  | cons c targets ih =>
    rw [List.foldl_cons]
    unfold PushTable.addNew
    cases stored : t.add (row c.id) with
    | none =>
      apply ih single
      intro other later
      exact only other (List.mem_cons_of_mem _ later)
    | some after =>
      have first : OnlyVersion (row c.id).customerId (row c.id).targetVersion t := by
        rw [(columns c.id).1, (columns c.id).2]
        exact only c List.mem_cons_self
      apply ih (single.add stored first)
      intro other later
      exact (only other (List.mem_cons_of_mem _ later)).add stored (columns c.id).2

theorem Single.pushToCustomer (single : Single t) (customers : List Customer)
    (now customerId : Nat) (asset : PushAsset) (opts : PushOptions) (ctx : PushContext)
    (only : OnlyVersion customerId asset.targetVersion t) :
    Single (pushToCustomer customers now customerId asset opts ctx t).1 := by
  rcases pushToCustomer_cases customers now customerId asset opts ctx t with
    same | ⟨-, row, fits, stored⟩
  · rw [same]
    exact single
  · have new := (columns_new fits customerId).2.2.2
    apply single.add stored
    rw [new.1, new.2]
    exact only

theorem Single.pushBulk (single : Single t) (customers : List Customer) (now : Nat)
    (agentMeta : Option AgentPushMeta) (asset : PushAsset) (opts : PushOptions) (ctx : PushContext)
    (allowStaging : Bool)
    (lone : Lone t (.pushBulk customers now agentMeta asset opts ctx allowStaging)) :
    Single (pushBulk customers now agentMeta asset opts ctx allowStaging t).1 := by
  have drawn : Single t.draw := single
  have cancelled := drawn.mark (isSuperseded customers ctx.tenantId) (marks_cancelSet now)
  rcases pushBulk_cases customers now agentMeta asset opts ctx allowStaging t with
    same | ⟨-, same | ⟨row, targets, fits, considered, same⟩⟩
  · rw [same]
    exact single
  · rw [same]
    exact cancelled
  · rw [same]
    apply cancelled.addAll fun c => (columns_new fits c).2.2.2
    intro c chosen other inside named active
    have eligible := considered c chosen
    -- what still waits after the cancellation
    rcases mem_updateWhere.mp inside with ⟨old, -, -, rfl⟩ | ⟨before, kept⟩
    · rw [active_cancelSet] at active
      cases active
    · apply lone c eligible.1 eligible.2 other before named active
      intro mine
      have fleet : isFleet ctx.tenantId c = true := (Bool.and_eq_true_iff.mp eligible.2).1
      have superseded : isSuperseded customers ctx.tenantId other = true := by
        unfold isSuperseded
        simp only [Bool.and_eq_true, beq_iff_eq, List.any_eq_true]
        exact ⟨⟨mine, active⟩, c, eligible.1, named.symm, fleet⟩
      rw [superseded] at kept
      cases kept

theorem Single.autoQueueIfBehind (single : Single t) (now : Nat) (customer : Customer)
    (reportedVersion : String) (agentMeta : Option AgentPushMeta)
    (only : ∀ m ∈ agentMeta, OnlyVersion customer.id m.version t) :
    Single (autoQueueIfBehind now customer reportedVersion agentMeta t).1 := by
  rcases autoQueueIfBehind_cases now customer reportedVersion agentMeta t with
    same | ⟨m, row, after, published, -, -, fits, stored, same⟩
  · rw [same]
    exact single
  · rw [same]
    have new := (columns_new fits customer.id).2.2.2
    apply single.add stored
    rw [new.1, new.2]
    exact only m published

/-- A call of that kind leaves at most one push of each customer waiting. -/
theorem Single.after (single : Single t) {e : Event} (lone : Lone t e) :
    Single (e.after hash t) := by
  cases e with
  | pushToCustomer customers now customerId asset opts ctx =>
    exact single.pushToCustomer customers now customerId asset opts ctx lone
  | pushBulk customers now agentMeta asset opts ctx allowStaging =>
    exact single.pushBulk customers now agentMeta asset opts ctx allowStaging lone
  | autoQueueIfBehind now customer reportedVersion agentMeta =>
    exact single.autoQueueIfBehind now customer reportedVersion agentMeta lone
  | getPendingForAgent customers remoteId token => exact single
  | markApplied customers now pushId remoteId token =>
    simp only [Event.after, markApplied]
    split
    · exact single.mark _ (marks_applySet now)
    · exact single
  | markFailed customers now pushId remoteId token reason =>
    simp only [Event.after, markFailed]
    split
    · exact single.mark _ (marks_failSet now reason)
    · exact single
  | cancelPush now pushId tenantId => exact single.mark _ (marks_cancelSet now)
  | cancelBulk now bulkBatchId tenantId => exact single.mark _ (marks_cancelSet now)

theorem Single.oneWaits (single : Single t) (customers : List Customer) (tenantId : Nat) :
    OneWaits hash customers tenantId t := by
  intro c _ _ _
  have apart : (waiting c t).Pairwise fun _ _ => False := by
    apply (List.Pairwise.and_mem.mp (single.filter (waitsFor c))).imp
    rintro a b ⟨left, right, apart⟩
    have first := Bool.and_eq_true_iff.mp (List.mem_filter.mp left).2
    have second := Bool.and_eq_true_iff.mp (List.mem_filter.mp right).2
    exact apart ⟨first.2, second.2, (beq_iff_eq.mp first.1).trans (beq_iff_eq.mp second.1).symm⟩
  cases pushes : waiting c t with
  | nil => exact Nat.zero_le _
  | cons first rest =>
    rw [pushes] at apart
    cases rest with
    | nil => exact Nat.le_refl _
    | cons second rest => exact ((List.pairwise_cons.mp apart).1 second List.mem_cons_self).elim

end Runs

/-- In every state of the table, whatever order the query gives rows of one time, the listing shows
each device's push exactly where at most one push waits for each customer with a device. From a
table with at most one for each customer, a run keeps it so where every call that inserts leaves
no push of another version waiting. -/
theorem listing_shows_served_iff (hash : String → String) (db : Db) (tenantId : Nat) :
    (∀ t, (∀ rows, QueryResult db.customers tenantId t rows →
          ShowsServed hash db.customers tenantId t (listCustomersWithPending rows)) ↔
        OneWaits hash db.customers tenantId t) ∧
    ∀ s t, Single s → (queue hash).Runs Lone s t →
      ∀ rows, QueryResult db.customers tenantId t rows →
        ShowsServed hash db.customers tenantId t (listCustomersWithPending rows) := by
  constructor
  · intro t
    exact ⟨oneWaits_of_showsServed, fun one rows result => result.showsServed one⟩
  · intro s t single run rows result
    have kept : Single t := by
      apply run.invariant Single ?_ single
      intro before e after single lone next
      obtain rfl := Option.some.inj next
      exact single.after lone
    exact result.showsServed (kept.oneWaits db.customers tenantId)

/-- A database with one store. -/
def storeDb : Db := ⟨⟨[store], [], [], 2⟩, by decide⟩

/-- A person pushes a version to the store. -/
def pushVersion (version : String) (now : Nat) : Event :=
  .pushToCustomer [store] now 1
    ⟨version, "https://host/setup", String.ofList (List.replicate 64 'a'), .finite 5⟩ {} ⟨1, 7⟩

/-- The table after one push. -/
def pushedOnce : PushTable := (pushVersion "1.1.0" 1).after id noPushes

theorem listing_shows_served_pushedOnce :
    ShowsServed id storeDb.customers 1 pushedOnce
      (listCustomersWithPending (joinedRows storeDb.customers 1 pushedOnce)) := by
  have run : (queue id).Runs Lone noPushes pushedOnce :=
    .step (pushVersion "1.1.0" 1) .refl (fun _ inside => absurd inside List.not_mem_nil) rfl
  exact (listing_shows_served_iff id storeDb 1).2 noPushes pushedOnce .nil run _
    ⟨.refl _, by decide +kernel⟩

/-- The table after a push of a newer version on top of it. -/
def pushedTwice : PushTable :=
  (queue id).play Machine.free noPushes [pushVersion "1.1.0" 1, pushVersion "1.2.0" 2]

/-- The row of such a push. -/
def pushRow (id : Nat) (version : String) (now : Nat) : PendingUpdate :=
  { id, tenantId := 1, customerId := 1, targetVersion := version, assetUrl := "https://host/setup"
    assetSha256 := String.ofList (List.replicate 64 'a'), assetSize := 5, windowStartHour := 0
    windowEndHour := 7, randomizeMaxSec := 600, requestedBy := some 7, createdAt := now
    updatedAt := now }

theorem pushedTwice_rows : pushedTwice.rows = [pushRow 0 "1.1.0" 1, pushRow 1 "1.2.0" 2] := by
  decide +kernel

/-- The listing may show the older of two waiting pushes, and the agent gets the newer. -/
theorem listing_hides_served :
    (queue id).Reaches Machine.free pushedTwice ∧
      QueryResult storeDb.customers 1 pushedTwice (joinedRows storeDb.customers 1 pushedTwice) ∧
      (listCustomersWithPending (joinedRows storeDb.customers 1 pushedTwice)).map
          (fun e => e.pendingUpdate.map ListedPush.id) = [some 0] ∧
      (getPendingForAgent storeDb.customers id "100" "token" pushedTwice).map PendingUpdate.id =
        some 1 := by
  have started : Batched noPushes :=
    ⟨fun _ inside => absurd inside List.not_mem_nil, fun _ inside => absurd inside List.not_mem_nil⟩
  refine ⟨⟨noPushes, started, Machine.runs_play _ _ _ _⟩, ⟨.refl _, ?_⟩, ?_, ?_⟩
  · unfold joinedRows
    rw [pushedTwice_rows]
    decide
  · unfold joinedRows
    rw [pushedTwice_rows]
    decide
  · unfold getPendingForAgent
    rw [pushedTwice_rows]
    decide

end ChainRemote.Panel.PendingList
