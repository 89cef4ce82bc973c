import Mathlib.Data.List.Pairwise
import ChainRemote.Lib.Rows
import ChainRemote.Panel.Schema

/-!
# The customer tables and their constraints

The tables `customers`, `user_favorites` and `customer_alerts` with the constraints
`lib/schema.ts` puts on them: primary keys, the two partial unique indexes of
`customers` and the references to a customer row. PostgreSQL checks these at the end of
each statement, so a statement here builds the new tables and `commit`s them; a `Db`
that breaks a constraint cannot be built. The rows of a table are in no particular
order, and `LIMIT 1` takes the first of them.
-/

namespace ChainRemote.Panel

open Lib

/-- The rows of the three tables and the source of new row ids. -/
structure Tables where
  customers : List Customer
  favorites : List Favorite
  alerts : List Alert
  /-- No row has this id or a larger one: the next `gen_random_uuid()`. -/
  nextId : Nat

/-- A value that the partial unique indexes leave out. -/
def unindexed (value : Option String) : Prop := value = none ∨ value = some ""

instance (value : Option String) : Decidable (unindexed value) :=
  inferInstanceAs (Decidable (_ ∨ _))

/-- The constraints of the schema. -/
structure Tables.Valid (t : Tables) : Prop where
  /-- The primary key of `customers`. -/
  customerIds : (t.customers.map Customer.id).Nodup
  /-- Ids not yet drawn are in no row. -/
  customersBelow : ∀ c ∈ t.customers, c.id < t.nextId
  /-- `uq_customers_remote_id`. -/
  remoteIds : (t.customers.map Customer.remoteId).Pairwise fun a b => a = b → unindexed a
  /-- `uq_customers_machine_uuid`. -/
  machineUuids : (t.customers.map fun c => (c.tenantId, c.machineUuid)).Pairwise fun a b =>
    a = b → unindexed a.2
  /-- The primary key of `user_favorites`. -/
  favoriteKeys : (t.favorites.map fun f => (f.userId, f.remoteId)).Nodup
  /-- `user_favorites.customer_id` references a customer. -/
  favoriteLinks : ∀ f ∈ t.favorites, ∀ id ∈ f.customerId, id ∈ t.customers.map Customer.id
  /-- The primary key of `customer_alerts`. -/
  alertIds : (t.alerts.map Alert.id).Nodup
  /-- Ids not yet drawn are in no row. -/
  alertsBelow : ∀ a ∈ t.alerts, a.id < t.nextId
  /-- `customer_alerts.customer_id` references a customer. -/
  alertLinks : ∀ a ∈ t.alerts, ∀ id ∈ a.customerId, id ∈ t.customers.map Customer.id

instance (t : Tables) : Decidable t.Valid :=
  decidable_of_iff
    ((t.customers.map Customer.id).Nodup ∧ (∀ c ∈ t.customers, c.id < t.nextId) ∧
      ((t.customers.map Customer.remoteId).Pairwise fun a b => a = b → unindexed a) ∧
      ((t.customers.map fun c => (c.tenantId, c.machineUuid)).Pairwise fun a b =>
        a = b → unindexed a.2) ∧
      (t.favorites.map fun f => (f.userId, f.remoteId)).Nodup ∧
      (∀ f ∈ t.favorites, ∀ id ∈ f.customerId, id ∈ t.customers.map Customer.id) ∧
      (t.alerts.map Alert.id).Nodup ∧ (∀ a ∈ t.alerts, a.id < t.nextId) ∧
      ∀ a ∈ t.alerts, ∀ id ∈ a.customerId, id ∈ t.customers.map Customer.id)
    ⟨fun ⟨a, b, c, d, e, f, g, h, i⟩ => ⟨a, b, c, d, e, f, g, h, i⟩,
      fun v => ⟨v.customerIds, v.customersBelow, v.remoteIds, v.machineUuids, v.favoriteKeys,
        v.favoriteLinks, v.alertIds, v.alertsBelow, v.alertLinks⟩⟩

/-- A database in which every constraint holds. -/
structure Db extends Tables where
  valid : toTables.Valid

/-- Why a statement failed. -/
inductive DbError
  /-- A constraint of the schema. -/
  | constraint
  /-- The database could not be asked. -/
  | unavailable
  /-- A statement that returns a row returned none, and the code read a column of it. -/
  | noRow
deriving DecidableEq, Repr

/-- The row as stored under an id. -/
def Customer.withId (id : Nat) (row : Customer) : Customer := { row with id := id }

@[simp] theorem Customer.withId_id (id : Nat) (row : Customer) : (row.withId id).id = id := rfl
@[simp] theorem Customer.withId_tenantId (id : Nat) (row : Customer) :
    (row.withId id).tenantId = row.tenantId := rfl
@[simp] theorem Customer.withId_remoteId (id : Nat) (row : Customer) :
    (row.withId id).remoteId = row.remoteId := rfl
@[simp] theorem Customer.withId_heartbeatToken (id : Nat) (row : Customer) :
    (row.withId id).heartbeatToken = row.heartbeatToken := rfl

/-- The alert as stored under an id. -/
def Alert.withId (id : Nat) (alert : Alert) : Alert := { alert with id := id }

/-- The alert about a customer. -/
def Alert.about (customerId : Nat) (alert : Alert) : Alert :=
  { alert with customerId := some customerId }

/-- Accept new tables if they meet the constraints. -/
def commit (t : Tables) : Except DbError Db :=
  if valid : t.Valid then .ok ⟨t, valid⟩ else .error .constraint

theorem commit_ok {t : Tables} {db : Db} (accepted : commit t = .ok db) : db.toTables = t := by
  unfold commit at accepted
  split at accepted
  · cases accepted
    rfl
  · cases accepted

theorem commit_of_valid {t : Tables} (valid : t.Valid) : commit t = .ok ⟨t, valid⟩ := dif_pos valid

/-- An update of customer columns other than the keys is accepted where the device ids stay
unique. -/
theorem Tables.Valid.updateCustomers {t : Tables} (valid : t.Valid) {here : Customer → Bool}
    {set : Customer → Customer} (ids : ∀ c, (set c).id = c.id)
    (machines : ∀ c, (set c).tenantId = c.tenantId ∧ (set c).machineUuid = c.machineUuid)
    (remoteIds : ((updateWhere here set t.customers).map Customer.remoteId).Pairwise
      fun a b => a = b → unindexed a) :
    Tables.Valid { t with customers := updateWhere here set t.customers } := by
  have idColumn : (updateWhere here set t.customers).map Customer.id = t.customers.map Customer.id :=
    map_updateWhere Customer.id ids
  have machineColumn : (updateWhere here set t.customers).map (fun c => (c.tenantId, c.machineUuid)) =
      t.customers.map fun c => (c.tenantId, c.machineUuid) := by
    apply map_updateWhere
    intro c
    rw [(machines c).1, (machines c).2]
  have below : ∀ c ∈ updateWhere here set t.customers, c.id < t.nextId := by
    intro c inside
    rcases mem_updateWhere.mp inside with ⟨a, old, -, rfl⟩ | ⟨old, -⟩
    · rw [ids]
      exact valid.customersBelow a old
    · exact valid.customersBelow c old
  exact
    { customerIds := idColumn.symm ▸ valid.customerIds
      customersBelow := below
      remoteIds := remoteIds
      machineUuids := machineColumn.symm ▸ valid.machineUuids
      favoriteKeys := valid.favoriteKeys
      favoriteLinks := idColumn.symm ▸ valid.favoriteLinks
      alertIds := valid.alertIds
      alertsBelow := valid.alertsBelow
      alertLinks := idColumn.symm ▸ valid.alertLinks }

/-- Device ids are unique where no two rows share an indexed one. -/
theorem remoteIds_of_forall {rows : List Customer} (ids : (rows.map Customer.id).Nodup)
    (apart : ∀ a ∈ rows, ∀ b ∈ rows, a.id ≠ b.id → a.remoteId = b.remoteId →
      unindexed a.remoteId) :
    (rows.map Customer.remoteId).Pairwise fun a b => a = b → unindexed a := by
  apply List.pairwise_map.mpr
  apply (List.Nodup.of_map _ ids).pairwise_of_forall_ne
  intro a left b right differ
  exact apart a left b right fun same => differ (eq_of_key ids left right same)

/-- Two rows of a valid table do not share an indexed device id. -/
theorem Tables.Valid.unindexed_of_shared {t : Tables} (valid : t.Valid) {a b : Customer}
    (left : a ∈ t.customers) (right : b ∈ t.customers) (differ : a.id ≠ b.id)
    (shared : a.remoteId = b.remoteId) : unindexed a.remoteId := by
  let R := fun x y : Customer => x.remoteId = y.remoteId → unindexed x.remoteId
  have symmetric : Std.Symm R := ⟨fun x y clash same => same ▸ clash same.symm⟩
  have pairs : t.customers.Pairwise R := List.pairwise_map.mp valid.remoteIds
  exact pairs.forall left right (fun same => differ (congrArg Customer.id same)) shared

/-- Rows of one id that get one device id: accepted where no other row has it, or where the
index leaves it out. -/
theorem Tables.Valid.setRemoteId {t : Tables} (valid : t.Valid) {here : Customer → Bool}
    {set : Customer → Customer} {id : Nat} {value : Option String}
    (only : ∀ c, here c = true → c.id = id)
    (keys : ∀ c, (set c).id = c.id ∧ (set c).tenantId = c.tenantId ∧
      (set c).machineUuid = c.machineUuid ∧ (set c).remoteId = value)
    (free : unindexed value ∨ ∀ c ∈ t.customers, c.id ≠ id → c.remoteId ≠ value) :
    Tables.Valid { t with customers := updateWhere here set t.customers } := by
  apply valid.updateCustomers (fun c => (keys c).1) fun c => ⟨(keys c).2.1, (keys c).2.2.1⟩
  have ids : ((updateWhere here set t.customers).map Customer.id).Nodup :=
    Eq.mpr (congrArg List.Nodup (map_updateWhere Customer.id fun c => (keys c).1)) valid.customerIds
  apply remoteIds_of_forall ids
  intro a left b right differ shared
  rcases mem_updateWhere.mp left with ⟨x, xOld, xHit, rfl⟩ | ⟨aOld, _⟩
  · rw [(keys x).2.2.2] at shared ⊢
    rw [(keys x).1, only x xHit] at differ
    rcases free with out | apart
    · exact out
    · rcases mem_updateWhere.mp right with ⟨y, _, yHit, rfl⟩ | ⟨bOld, _⟩
      · rw [(keys y).1, only y yHit] at differ
        exact absurd rfl differ
      · exact absurd shared.symm (apart b bOld (Ne.symm differ))
  · rcases mem_updateWhere.mp right with ⟨y, yOld, yHit, rfl⟩ | ⟨bOld, _⟩
    · rw [(keys y).2.2.2] at shared
      rw [(keys y).1, only y yHit] at differ
      rcases free with out | apart
      · exact shared ▸ out
      · exact absurd shared (apart a aOld differ)
    · exact valid.unindexed_of_shared aOld bOld differ shared

/-- A new row whose device id and fingerprint no row has, or the indexes leave out. -/
theorem Tables.Valid.insertCustomer {t : Tables} (valid : t.Valid) {values : Customer}
    (remoteId : unindexed values.remoteId ∨ ∀ c ∈ t.customers, c.remoteId ≠ values.remoteId)
    (machineUuid : unindexed values.machineUuid ∨
      ∀ c ∈ t.customers, (c.tenantId, c.machineUuid) ≠ (values.tenantId, values.machineUuid)) :
    Tables.Valid { t with
      customers := t.customers ++ [values.withId t.nextId], nextId := t.nextId + 1 } := by
  have column : ∀ {κ : Type} (key : Customer → κ),
      (t.customers ++ [values.withId t.nextId]).map key =
        t.customers.map key ++ [key (values.withId t.nextId)] := by
    intro κ key
    rw [List.map_append, List.map_singleton]
  have kept : ∀ id ∈ t.customers.map Customer.id,
      id ∈ (t.customers ++ [values.withId t.nextId]).map Customer.id := by
    intro id old
    rw [column]
    exact List.mem_append_left _ old
  refine { valid with
    customerIds := ?_, customersBelow := ?_, remoteIds := ?_, machineUuids := ?_,
    favoriteLinks := fun f inside id linked => kept id (valid.favoriteLinks f inside id linked)
    alertsBelow := fun a inside => Nat.lt_succ_of_lt (valid.alertsBelow a inside)
    alertLinks := fun a inside id linked => kept id (valid.alertLinks a inside id linked) }
  · show ((t.customers ++ [values.withId t.nextId]).map Customer.id).Nodup
    rw [column]
    apply List.Nodup.append valid.customerIds (List.nodup_singleton _)
    intro id old new
    obtain ⟨c, inside, rfl⟩ := List.mem_map.mp old
    have below := valid.customersBelow c inside
    rw [List.mem_singleton.mp new] at below
    exact Nat.lt_irrefl _ below
  · intro c inside
    rcases List.mem_append.mp inside with old | new
    · exact Nat.lt_succ_of_lt (valid.customersBelow c old)
    · rw [List.mem_singleton.mp new]
      exact Nat.lt_succ_self _
  · show ((t.customers ++ [values.withId t.nextId]).map Customer.remoteId).Pairwise _
    rw [column]
    apply List.pairwise_append.mpr
    refine ⟨valid.remoteIds, List.pairwise_singleton _ _, ?_⟩
    intro a old b new same
    rw [List.mem_singleton.mp new] at same
    obtain ⟨c, inside, rfl⟩ := List.mem_map.mp old
    cases remoteId with
    | inl out => exact same ▸ out
    | inr apart => exact absurd same (apart c inside)
  · show ((t.customers ++ [values.withId t.nextId]).map
      fun c => (c.tenantId, c.machineUuid)).Pairwise _
    rw [column]
    apply List.pairwise_append.mpr
    refine ⟨valid.machineUuids, List.pairwise_singleton _ _, ?_⟩
    intro a old b new same
    rw [List.mem_singleton.mp new] at same
    obtain ⟨c, inside, rfl⟩ := List.mem_map.mp old
    cases machineUuid with
    | inl out =>
      have shared : c.machineUuid = values.machineUuid := congrArg Prod.snd same
      exact shared ▸ out
    | inr apart => exact absurd same (apart c inside)

/-- An update of favourites that keeps the keys and links to rows that are there. -/
theorem Tables.Valid.updateFavorites {t : Tables} (valid : t.Valid) {here : Favorite → Bool}
    {set : Favorite → Favorite}
    (keys : ∀ f, (set f).userId = f.userId ∧ (set f).remoteId = f.remoteId)
    (links : ∀ f ∈ t.favorites, here f = true → ∀ id ∈ (set f).customerId,
      id ∈ t.customers.map Customer.id) :
    Tables.Valid { t with favorites := updateWhere here set t.favorites } := by
  have keyColumn : (updateWhere here set t.favorites).map (fun f => (f.userId, f.remoteId)) =
      t.favorites.map fun f => (f.userId, f.remoteId) := by
    apply map_updateWhere
    intro f
    rw [(keys f).1, (keys f).2]
  refine { valid with favoriteKeys := keyColumn.symm ▸ valid.favoriteKeys, favoriteLinks := ?_ }
  intro f inside id linked
  rcases mem_updateWhere.mp inside with ⟨old, before, hit, rfl⟩ | ⟨before, _⟩
  · exact links old before hit id linked
  · exact valid.favoriteLinks f before id linked

/-- A new alert about a row that is there. -/
theorem Tables.Valid.insertAlert {t : Tables} (valid : t.Valid) {alert : Alert}
    (about : ∀ id ∈ alert.customerId, id ∈ t.customers.map Customer.id) :
    Tables.Valid { t with
      alerts := t.alerts ++ [alert.withId t.nextId], nextId := t.nextId + 1 } := by
  refine { valid with customersBelow := ?_, alertIds := ?_, alertsBelow := ?_, alertLinks := ?_ }
  · exact fun c inside => Nat.lt_succ_of_lt (valid.customersBelow c inside)
  · rw [List.map_append]
    apply List.Nodup.append valid.alertIds (List.nodup_singleton _)
    intro id old new
    obtain ⟨a, inside, rfl⟩ := List.mem_map.mp old
    have below := valid.alertsBelow a inside
    rw [List.mem_singleton.mp new] at below
    exact Nat.lt_irrefl _ below
  · intro a inside
    rcases List.mem_append.mp inside with old | new
    · exact Nat.lt_succ_of_lt (valid.alertsBelow a old)
    · rw [List.mem_singleton.mp new]
      exact Nat.lt_succ_self _
  · intro a inside id linked
    rcases List.mem_append.mp inside with old | new
    · exact valid.alertLinks a old id linked
    · rw [List.mem_singleton.mp new] at linked
      exact about id linked

namespace Db

variable {db after : Db}

/-- Customer rows with one id are one row. -/
theorem eq_of_id (db : Db) {a b : Customer} (left : a ∈ db.customers) (right : b ∈ db.customers)
    (same : a.id = b.id) : a = b :=
  eq_of_key db.valid.customerIds left right same

/-- A device id is in one customer row at most. -/
theorem eq_of_remoteId (db : Db) {a b : Customer} {remoteId : String} (named : remoteId ≠ "")
    (left : a ∈ db.customers) (right : b ∈ db.customers) (leftId : a.remoteId = some remoteId)
    (rightId : b.remoteId = some remoteId) : a = b := by
  by_contra apart
  have differ : a.id ≠ b.id := fun same => apart (db.eq_of_id left right same)
  have clash := db.valid.unindexed_of_shared left right differ (leftId.trans rightId.symm)
  rw [leftId] at clash
  rcases clash with absent | blank
  · cases absent
  · exact named (Option.some.inj blank)

/-- `UPDATE customers`. -/
def updateCustomers (here : Customer → Bool) (set : Customer → Customer) (db : Db) :
    Except DbError Db :=
  commit { db.toTables with customers := updateWhere here set db.customers }

/-- `INSERT INTO customers … RETURNING *`. -/
def insertCustomer (values : Customer) (db : Db) : Except DbError (Customer × Db) := do
  let row := values.withId db.nextId
  let db ← commit { db.toTables with customers := db.customers ++ [row], nextId := db.nextId + 1 }
  return (row, db)

/-- `DELETE FROM customers`: favourites lose the link, alerts go with the row. -/
def deleteCustomers (here : Customer → Bool) (db : Db) : Except DbError Db :=
  let gone := (db.customers.filter here).map Customer.id
  commit { db.toTables with
    customers := db.customers.filter fun c => !here c
    favorites := updateWhere (fun f => f.customerId.any (gone.contains ·))
      (fun f => { f with customerId := none }) db.favorites
    alerts := db.alerts.filter fun a => !a.customerId.any (gone.contains ·) }

/-- `UPDATE user_favorites`. -/
def updateFavorites (here : Favorite → Bool) (set : Favorite → Favorite) (db : Db) :
    Except DbError Db :=
  commit { db.toTables with favorites := updateWhere here set db.favorites }

/-- `INSERT INTO user_favorites … ON CONFLICT (user_id, remote_id) DO UPDATE`. -/
def upsertFavorite (values : Favorite) (set : Favorite → Favorite) (db : Db) :
    Except DbError Db :=
  let key := fun f : Favorite => f.userId == values.userId && f.remoteId == values.remoteId
  if db.favorites.any key then db.updateFavorites key set
  else commit { db.toTables with favorites := db.favorites ++ [values] }

/-- `DELETE FROM user_favorites`. -/
def deleteFavorites (here : Favorite → Bool) (db : Db) : Except DbError Db :=
  commit { db.toTables with favorites := db.favorites.filter fun f => !here f }

/-- `INSERT INTO customer_alerts`. -/
def insertAlert (values : Alert) (db : Db) : Except DbError Db :=
  commit { db.toTables with
    alerts := db.alerts ++ [values.withId db.nextId], nextId := db.nextId + 1 }

/-- An update that gives the rows of one id one device id is accepted where the id is free. -/
theorem updateCustomers_succeeds (db : Db) (here : Customer → Bool) (set : Customer → Customer)
    {id : Nat} {value : Option String} (only : ∀ c, here c = true → c.id = id)
    (keys : ∀ c, (set c).id = c.id ∧ (set c).tenantId = c.tenantId ∧
      (set c).machineUuid = c.machineUuid ∧ (set c).remoteId = value)
    (free : unindexed value ∨ ∀ c ∈ db.customers, c.id ≠ id → c.remoteId ≠ value) :
    ∃ after, db.updateCustomers here set = .ok after :=
  ⟨_, commit_of_valid (db.valid.setRemoteId only keys free)⟩

/-- An update of links to a row that is there is accepted. -/
theorem updateFavorites_succeeds (db : Db) (here : Favorite → Bool) (set : Favorite → Favorite)
    (keys : ∀ f, (set f).userId = f.userId ∧ (set f).remoteId = f.remoteId)
    (links : ∀ f ∈ db.favorites, here f = true → ∀ id ∈ (set f).customerId,
      id ∈ db.customers.map Customer.id) : ∃ after, db.updateFavorites here set = .ok after :=
  ⟨_, commit_of_valid (db.valid.updateFavorites keys links)⟩

/-- An alert about a row that is there is accepted. -/
theorem insertAlert_succeeds (db : Db) (alert : Alert)
    (about : ∀ id ∈ alert.customerId, id ∈ db.customers.map Customer.id) :
    ∃ after, db.insertAlert alert = .ok after :=
  ⟨_, commit_of_valid (db.valid.insertAlert about)⟩

/-- `UPDATE customer_alerts`. -/
def updateAlerts (here : Alert → Bool) (set : Alert → Alert) (db : Db) : Except DbError Db :=
  commit { db.toTables with alerts := updateWhere here set db.alerts }

end Db

end ChainRemote.Panel
