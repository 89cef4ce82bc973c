import ChainRemote.Lib.Statement
import ChainRemote.Panel.Database

/-!
# The statements and transactions of the customer data layer

Every write that `lib/data/customers.ts`, `lib/data/favorites.ts` and `lib/data/alerts.ts`
send to the customer tables, as data: a `Stmt` is one statement or one transaction, and
`act` carries it out. A transaction that breaks a constraint at any of its statements
changes nothing. After `act` come the effects of each transaction, which later modules
use instead of its body.
-/

namespace ChainRemote.Panel

open Lib

/-- `CustomerFields`. The two optional fields keep the stored value where they are absent. -/
structure CustomerFields where
  name : String
  contactName : Option String := none
  phone : Option String := none
  address : Option String := none
  remoteId : Option String := none
  accessPassword : Option String := none
  notes : Option String := none
  assignedUserId : Option (Option Nat) := none
  folderId : Option (Option Nat) := none

/-- The `SET` list of `updateCustomer`. -/
def CustomerFields.set (fields : CustomerFields) (now : Nat) (row : Customer) : Customer :=
  { row with
    name := fields.name
    contactName := fields.contactName
    phone := fields.phone
    address := fields.address
    remoteId := fields.remoteId
    accessPassword := fields.accessPassword
    notes := fields.notes
    assignedUserId := fields.assignedUserId.getD row.assignedUserId
    folderId := fields.folderId.getD row.folderId
    updatedAt := now }

/-- Row and tenant of a `WHERE` clause. -/
def ownRow (id tenantId : Nat) (row : Customer) : Bool := row.id == id && row.tenantId == tenantId

/-- `WHERE id = …`. -/
def isRow (id : Nat) (row : Customer) : Bool := row.id == id

/-- The favourites of a device within a tenant. -/
def ofDevice (remoteId : String) (tenantId : Nat) (f : Favorite) : Bool :=
  f.remoteId == remoteId && f.tenantId == tenantId

/-- Take the device off a row; the source stamps `updated_at` in some transactions only. -/
def detach (stamp : Option Nat) (row : Customer) : Customer :=
  { row with remoteId := none, heartbeatToken := none, updatedAt := stamp.getD row.updatedAt }

/-- Put a device and its token on a row. -/
def attach (remoteId tokenHash : String) (now : Nat) (row : Customer) : Customer :=
  { row with remoteId := some remoteId, heartbeatToken := some tokenHash, updatedAt := now }

/-- Only the token changes. -/
def rotate (tokenHash : String) (row : Customer) : Customer :=
  { row with heartbeatToken := some tokenHash }

/-- Link a favourite to a customer. -/
def linkTo (customerId : Nat) (f : Favorite) : Favorite := { f with customerId := some customerId }

/-- The rewriting of a favourite to another device. -/
def redirect (remoteId : String) (f : Favorite) : Favorite := { f with remoteId := remoteId }

/-- A write of the data layer. -/
inductive Stmt
  /-- `UPDATE customers SET heartbeat_token`. -/
  | rotateToken (id : Nat) (tokenHash : String)
  /-- `INSERT INTO customers`. -/
  | insertCustomer (values : Customer)
  /-- The update of `updateCustomer`. -/
  | updateCustomer (id tenantId : Nat) (fields : CustomerFields) (now : Nat)
  /-- The update of `linkFavoritesToCustomer`. -/
  | linkFavorites (remoteId : String) (customerId tenantId : Nat)
  /-- The upsert of `addFavoriteByRemoteId`; a blank `hostname` and `alias` set nothing. -/
  | upsertFavorite (values : Favorite)
  /-- The claim of an unassigned customer in `addFavoriteByRemoteId`. -/
  | claimCustomer (id userId now : Nat)
  /-- `INSERT INTO customer_alerts`. -/
  | insertAlert (values : Alert)
  /-- The transaction that moves a device to a new customer row; `resolves` is the alert that
  asked for it and the time. -/
  | moveToNew (source : Nat) (stamp : Option Nat) (remoteId : String) (values : Customer)
      (resolves : Option (Nat × Nat)) (alert : Alert)
  /-- The transaction that moves a device to another customer row. -/
  | moveDevice (source target : Nat) (remoteId tokenHash : String) (tenantId now : Nat)
      (alert : Alert)
  /-- The transaction that puts a new device on a customer row. -/
  | replaceDevice (target : Nat) (oldRemoteId : Option String) (remoteId tokenHash : String)
      (tenantId now : Nat) (alert : Alert)
  /-- The transaction of `deleteCustomer`. -/
  | deleteCustomer (id tenantId : Nat)

/-- The alert that a move resolves, given with the time. -/
def resolvedBy (resolves : Option (Nat × Nat)) (alert : Alert) : Bool :=
  resolves.any fun asked => asked.1 == alert.id

/-- Mark an alert as resolved. -/
def resolve (resolves : Option (Nat × Nat)) (alert : Alert) : Alert :=
  { alert with resolvedAt := resolves.map Prod.snd }

/-- The `newSite` transaction of `enrollCustomer` and those of `lib/data/alerts.ts`. A move that
no alert asked for selects none. -/
def moveToNew (source : Nat) (stamp : Option Nat) (remoteId : String) (values : Customer)
    (resolves : Option (Nat × Nat)) (alert : Alert) (db : Db) :
    Except DbError (List Customer × Db) := do
  let db ← db.updateCustomers (isRow source) (detach stamp)
  let (dst, db) ← db.insertCustomer values
  let db ← db.updateFavorites (ofDevice remoteId values.tenantId) (linkTo dst.id)
  let db ← db.updateAlerts (resolvedBy resolves) (resolve resolves)
  let db ← db.insertAlert (alert.about dst.id)
  return ([dst], db)

/-- The move transaction of `enrollCustomer`. -/
def moveDevice (source target : Nat) (remoteId tokenHash : String) (tenantId now : Nat)
    (alert : Alert) (db : Db) : Except DbError (List Customer × Db) := do
  let db ← db.updateCustomers (isRow source) (detach none)
  let db ← db.updateCustomers (isRow target) (attach remoteId tokenHash now)
  let db ← db.updateFavorites (ofDevice remoteId tenantId) (linkTo target)
  let db ← db.insertAlert (alert.about target)
  return ([], db)

/-- The favourites that follow a replaced device: those of the old id, if it is not blank. -/
def followsReplaced (oldRemoteId : Option String) (remoteId : String) (tenantId : Nat)
    (f : Favorite) : Bool :=
  match oldRemoteId with
  | some old => old != "" && old != remoteId && ofDevice old tenantId f
  | none => false

/-- The replace transaction of `enrollCustomer`. Where the source skips the favourites, no row
is selected here. -/
def replaceDevice (target : Nat) (oldRemoteId : Option String) (remoteId tokenHash : String)
    (tenantId now : Nat) (alert : Alert) (db : Db) : Except DbError (List Customer × Db) := do
  let db ← db.updateCustomers (isRow target) (attach remoteId tokenHash now)
  let db ← db.updateFavorites (followsReplaced oldRemoteId remoteId tenantId) (redirect remoteId)
  let db ← db.insertAlert (alert.about target)
  return ([], db)

/-- The favourites that `deleteCustomer` removes with a customer. -/
def fallsWith (target : Customer) (tenantId : Nat) (f : Favorite) : Bool :=
  f.tenantId == tenantId &&
    (f.customerId == some target.id ||
      match target.remoteId with
      | some remoteId => remoteId != "" && f.remoteId == remoteId
      | none => false)

/-- The transaction of `deleteCustomer`; it returns the deleted rows. -/
def deleteRow (id tenantId : Nat) (db : Db) : Except DbError (List Customer × Db) :=
  match db.customers.find? (ownRow id tenantId) with
  | none => .ok ([], db)
  | some target => do
    let db ← db.deleteFavorites (fallsWith target tenantId)
    let rows := db.customers.filter (ownRow id tenantId)
    let db ← db.deleteCustomers (ownRow id tenantId)
    return (rows, db)

/-- Carry out a write: the rows it returns and the database after it. -/
def act : Stmt → Db → Except DbError (List Customer × Db)
  | .rotateToken id tokenHash, db => do
    return ([], ← db.updateCustomers (isRow id) (rotate tokenHash))
  | .insertCustomer values, db => do
    let (row, db) ← db.insertCustomer values
    return ([row], db)
  | .updateCustomer id tenantId fields now, db => do
    let db ← db.updateCustomers (ownRow id tenantId) (fields.set now)
    return (db.customers.filter (ownRow id tenantId), db)
  | .linkFavorites remoteId customerId tenantId, db => do
    return ([], ← db.updateFavorites (fun f => ofDevice remoteId tenantId f && f.customerId.isNone)
      (linkTo customerId))
  | .upsertFavorite values, db => do
    let named := values.hostname.any (· != "") || values.aliasName.any (· != "")
    return ([], ← db.upsertFavorite values fun f =>
      if named then { f with hostname := values.hostname, aliasName := values.aliasName } else f)
  | .claimCustomer id userId now, db => do
    return ([], ← db.updateCustomers (fun c => isRow id c && c.assignedUserId.isNone)
      fun c => { c with assignedUserId := some userId, updatedAt := now })
  | .insertAlert values, db => do
    return ([], ← db.insertAlert values)
  | .moveToNew source stamp remoteId values resolves alert, db =>
    moveToNew source stamp remoteId values resolves alert db
  | .moveDevice source target remoteId tokenHash tenantId now alert, db =>
    moveDevice source target remoteId tokenHash tenantId now alert db
  | .replaceDevice target oldRemoteId remoteId tokenHash tenantId now alert, db =>
    replaceDevice target oldRemoteId remoteId tokenHash tenantId now alert db
  | .deleteCustomer id tenantId, db => deleteRow id tenantId db

section Effects

variable {db after : Db} {out : List Customer}

/-- A sequence succeeds where both of its parts do. -/
theorem bind_ok {α β : Type} {x : Except DbError α} {f : α → Except DbError β} {b : β}
    (succeeds : (x >>= f) = .ok b) : ∃ a, x = .ok a ∧ f a = .ok b := by
  cases x with
  | error e => cases succeeds
  | ok a => exact ⟨a, rfl, succeeds⟩

/-- A sequence whose first part succeeds goes on with its second. -/
theorem bind_of_ok {α β : Type} {x : Except DbError α} {f : α → Except DbError β} {a : α} {b : β}
    (first : x = .ok a) (second : f a = .ok b) : (x >>= f) = .ok b := by
  rw [first]
  exact second

theorem ofDevice_iff {remoteId : String} {tenantId : Nat} {f : Favorite} :
    ofDevice remoteId tenantId f = true ↔ f.remoteId = remoteId ∧ f.tenantId = tenantId := by
  simp only [ofDevice, Bool.and_eq_true, beq_iff_eq]

theorem ownRow_iff {id tenantId : Nat} {row : Customer} :
    ownRow id tenantId row = true ↔ row.id = id ∧ row.tenantId = tenantId := by
  simp only [ownRow, Bool.and_eq_true, beq_iff_eq]

/-- A single statement that returns no rows. -/
theorem single_ok {x : Except DbError Db}
    (done : (do return (([] : List Customer), ← x)) = .ok (out, after)) :
    out = [] ∧ x = .ok after := by
  obtain ⟨result, ran, returned⟩ := bind_ok done
  cases returned
  exact ⟨rfl, ran⟩

theorem rotateToken_ok {id : Nat} {tokenHash : String}
    (done : act (.rotateToken id tokenHash) db = .ok (out, after)) :
    after.toTables = { db.toTables with
      customers := updateWhere (isRow id) (rotate tokenHash) db.customers } :=
  commit_ok (single_ok done).2

theorem insertCustomer_ok {values : Customer}
    (done : act (.insertCustomer values) db = .ok (out, after)) :
    out = [values.withId db.nextId] ∧
      after.toTables = { db.toTables with
        customers := db.customers ++ [values.withId db.nextId]
        nextId := db.nextId + 1 } := by
  obtain ⟨⟨row, inserted⟩, ran, returned⟩ := bind_ok done
  obtain ⟨result, committed, same⟩ := bind_ok ran
  cases same
  cases returned
  exact ⟨rfl, commit_ok committed⟩

/-- The inserted row is in the table. -/
theorem mem_insertCustomer {values : Customer}
    (done : act (.insertCustomer values) db = .ok (out, after)) :
    values.withId db.nextId ∈ after.customers := by
  rw [(insertCustomer_ok done).2]
  exact List.mem_append_right _ List.mem_cons_self

theorem updateCustomer_ok {id tenantId now : Nat} {fields : CustomerFields}
    (done : act (.updateCustomer id tenantId fields now) db = .ok (out, after)) :
    after.toTables = { db.toTables with
      customers := updateWhere (ownRow id tenantId) (fields.set now) db.customers } := by
  obtain ⟨result, ran, returned⟩ := bind_ok done
  cases returned
  exact commit_ok ran

theorem linkFavorites_ok {remoteId : String} {customerId tenantId : Nat}
    (done : act (.linkFavorites remoteId customerId tenantId) db = .ok (out, after)) :
    after.toTables = { db.toTables with
      favorites := updateWhere (fun f => ofDevice remoteId tenantId f && f.customerId.isNone)
        (linkTo customerId) db.favorites } :=
  commit_ok (single_ok done).2

theorem claimCustomer_ok {id userId now : Nat}
    (done : act (.claimCustomer id userId now) db = .ok (out, after)) :
    after.toTables = { db.toTables with
      customers := updateWhere (fun c => isRow id c && c.assignedUserId.isNone)
        (fun c => { c with assignedUserId := some userId, updatedAt := now }) db.customers } :=
  commit_ok (single_ok done).2

theorem insertAlert_ok {values : Alert}
    (done : act (.insertAlert values) db = .ok (out, after)) :
    after.toTables = { db.toTables with
      alerts := db.alerts ++ [values.withId db.nextId], nextId := db.nextId + 1 } :=
  commit_ok (single_ok done).2

/-- What a favourite's conflict with a stored one sets. -/
theorem upsertFavorite_ok {values : Favorite}
    (done : act (.upsertFavorite values) db = .ok (out, after)) :
    after.customers = db.customers ∧
      (after.favorites = db.favorites ++ [values] ∨
        ∃ here set, after.favorites = updateWhere here set db.favorites ∧
          ∀ f, (set f).remoteId = f.remoteId ∧ (set f).tenantId = f.tenantId ∧
            (set f).customerId = f.customerId) := by
  have ran := (single_ok done).2
  unfold Db.upsertFavorite at ran
  dsimp only at ran
  split at ran
  · have stored := commit_ok ran
    refine ⟨by rw [stored], .inr ⟨_, _, by rw [stored], fun f => ?_⟩⟩
    split <;> exact ⟨rfl, rfl, rfl⟩
  · have stored := commit_ok ran
    exact ⟨by rw [stored], .inl (by rw [stored])⟩

/-- The tables after a customer was deleted; where the row is not there, nothing happens. -/
theorem deleteCustomer_ok {id tenantId : Nat}
    (done : act (.deleteCustomer id tenantId) db = .ok (out, after)) :
    (out = [] ∧ after = db) ∨
      ∃ target ∈ db.customers, ownRow id tenantId target = true ∧
        out = db.customers.filter (ownRow id tenantId) ∧
        after.customers = db.customers.filter (fun c => !ownRow id tenantId c) ∧
        after.favorites = updateWhere
          (fun f => f.customerId.any (out.map Customer.id).contains)
          (fun f => { f with customerId := none })
          (db.favorites.filter fun f => !fallsWith target tenantId f) := by
  change deleteRow id tenantId db = _ at done
  unfold deleteRow at done
  cases found : db.customers.find? (ownRow id tenantId) with
  | none =>
    rw [found] at done
    cases done
    exact .inl ⟨rfl, rfl⟩
  | some target =>
    rw [found] at done
    obtain ⟨cleared, first, rest⟩ := bind_ok done
    obtain ⟨result, second, returned⟩ := bind_ok rest
    cases returned
    have favorites := commit_ok first
    have customers := commit_ok second
    have inside := List.mem_of_find?_eq_some found
    have own := List.find?_some found
    refine .inr ⟨target, inside, own, ?_, ?_, ?_⟩
    · rw [favorites]
    · rw [customers, favorites]
    · rw [customers, favorites]

/-- The tables after a device has moved to a new row. -/
theorem moveToNew_ok {source : Nat} {stamp : Option Nat} {remoteId : String} {values : Customer}
    {resolves : Option (Nat × Nat)} {alert : Alert}
    (done : act (.moveToNew source stamp remoteId values resolves alert) db = .ok (out, after)) :
    out = [values.withId db.nextId] ∧
      after.customers = updateWhere (isRow source) (detach stamp) db.customers ++
        [values.withId db.nextId] ∧
      after.favorites = updateWhere (ofDevice remoteId values.tenantId) (linkTo db.nextId)
        db.favorites ∧
      after.alerts = updateWhere (resolvedBy resolves) (resolve resolves) db.alerts ++
        [(alert.about db.nextId).withId (db.nextId + 1)] := by
  obtain ⟨detached, first, done⟩ := bind_ok done
  obtain ⟨⟨dst, inserted⟩, second, done⟩ := bind_ok done
  obtain ⟨linked, third, done⟩ := bind_ok done
  obtain ⟨resolved, fourth, done⟩ := bind_ok done
  obtain ⟨alerted, fifth, returned⟩ := bind_ok done
  cases returned
  obtain ⟨result, committed, same⟩ := bind_ok second
  cases same
  rw [Customer.withId_id] at third fifth
  have t1 := commit_ok first
  have t2 := commit_ok committed
  have t3 := commit_ok third
  have t4 := commit_ok fourth
  have t5 := commit_ok fifth
  have ids : detached.nextId = db.nextId := by rw [t1]
  refine ⟨by rw [ids], ?_, ?_, ?_⟩
  · rw [t5, t4, t3, t2, t1]
  · rw [t5, t4, t3, t2, t1]
  · rw [t5, t4, t3, t2, t1]

/-- The tables after a device has moved to another row. -/
theorem moveDevice_ok {source target tenantId now : Nat} {remoteId tokenHash : String}
    {alert : Alert}
    (done : act (.moveDevice source target remoteId tokenHash tenantId now alert) db =
      .ok (out, after)) :
    after.customers = updateWhere (isRow target) (attach remoteId tokenHash now)
        (updateWhere (isRow source) (detach none) db.customers) ∧
      after.favorites = updateWhere (ofDevice remoteId tenantId) (linkTo target) db.favorites ∧
      after.alerts = db.alerts ++ [(alert.about target).withId db.nextId] := by
  obtain ⟨detached, first, done⟩ := bind_ok done
  obtain ⟨attached, second, done⟩ := bind_ok done
  obtain ⟨linked, third, done⟩ := bind_ok done
  obtain ⟨alerted, fourth, returned⟩ := bind_ok done
  cases returned
  have t1 := commit_ok first
  have t2 := commit_ok second
  have t3 := commit_ok third
  have t4 := commit_ok fourth
  refine ⟨?_, ?_, ?_⟩
  · rw [t4, t3, t2, t1]
  · rw [t4, t3, t2, t1]
  · rw [t4, t3, t2, t1]

/-- The tables after a new device has been put on a row. -/
theorem replaceDevice_ok {target tenantId now : Nat} {oldRemoteId : Option String}
    {remoteId tokenHash : String} {alert : Alert}
    (done : act (.replaceDevice target oldRemoteId remoteId tokenHash tenantId now alert) db =
      .ok (out, after)) :
    after.customers = updateWhere (isRow target) (attach remoteId tokenHash now) db.customers ∧
      after.favorites = updateWhere (followsReplaced oldRemoteId remoteId tenantId)
        (redirect remoteId) db.favorites ∧
      after.alerts = db.alerts ++ [(alert.about target).withId db.nextId] := by
  obtain ⟨attached, first, done⟩ := bind_ok done
  obtain ⟨moved, second, done⟩ := bind_ok done
  obtain ⟨alerted, third, returned⟩ := bind_ok done
  cases returned
  have t1 := commit_ok first
  have t2 := commit_ok second
  have t3 := commit_ok third
  refine ⟨?_, ?_, ?_⟩
  · rw [t3, t2, t1]
  · rw [t3, t2, t1]
  · rw [t3, t2, t1]

end Effects

end ChainRemote.Panel
