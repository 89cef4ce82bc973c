import ChainRemote.Panel.Operations

/-!
# Alerts about reinstalled devices

A known device that is installed under a name that fits no store raises an alert, and the panel
decides later. A click on the alert may come when the device is gone from the row:
`applyAlertMoveToNew` looks at the device first, `applyAlertRename` does not. Every write is listed
with its effect on the alerts.
-/

namespace ChainRemote.Panel.Alerts

open Lib

/-- An open alert of a reinstallation under a new name. -/
def OpenName (alert : Alert) : Prop :=
  alert.type = .reinstalledNewName ∧ alert.resolvedAt = none

instance (alert : Alert) : Decidable (OpenName alert) :=
  inferInstanceAs (Decidable (_ ∧ _))

/-- What a call returns after its transaction. -/
def settle (db : Db) : Except DbError Db → Db × Except DbError Bool
  | .ok after => (after, .ok true)
  | .error e => (db, .error e)

/-- Sets `resolved_at` of an alert. -/
def markResolved (id now : Nat) (db : Db) : Except DbError Db :=
  db.updateAlerts (fun alert => alert.id == id) fun alert => { alert with resolvedAt := some now }

/-- `resolveAlert`. -/
def resolveAlert (id tenantId now : Nat) (db : Db) : Db × Except DbError Bool :=
  match db.alerts.find? (isOpenAlert id tenantId) with
  | none => (db, .ok false)
  | some _ => settle db (markResolved id now db)

/-- The transaction of `applyAlertRename`. -/
def renameRow (customerId tenantId id : Nat) (name : String) (now : Nat) (db : Db) :
    Except DbError Db := do
  let db ← db.updateCustomers (ownRow customerId tenantId)
    fun row => { row with name := name, updatedAt := now }
  markResolved id now db

/-- `applyAlertRename`. -/
def applyAlertRename (id tenantId now : Nat) (db : Db) : Db × Except DbError Bool :=
  match db.alerts.find? (isOpenAlert id tenantId) with
  | none => (db, .ok false)
  | some asked =>
    match asked.type, asked.customerId, asked.detail.newName with
    | .reinstalledNewName, some customerId, some newName =>
      if jsTrim newName = "" then (db, .ok false)
      else settle db (renameRow customerId tenantId id (jsTrim newName) now db)
    | _, _, _ => (db, .ok false)

/-- The row of an alert holds the device of the alert. -/
def HoldsDevice (db : Db) (alert : Alert) : Prop :=
  ∃ row ∈ db.customers, alert.customerId = some row.id ∧ alert.detail.remoteId.isSome = true ∧
    row.remoteId = alert.detail.remoteId

instance (db : Db) (alert : Alert) : Decidable (HoldsDevice db alert) :=
  inferInstanceAs (Decidable (∃ row ∈ _, _ ∧ _ ∧ _))

/-- A click returns false and changes nothing where the device is gone from the row. -/
def SparesStale (db : Db) (alert : Alert) (outcome : Db × Except DbError Bool) : Prop :=
  HoldsDevice db alert ∨ outcome.2 = .ok false ∧ outcome.1 = db

/-- Both clicks on an alert do so. -/
def StaleChangesNothing (db : Db) (alert : Alert) (now : Nat) : Prop :=
  SparesStale db alert (applyAlertRename alert.id alert.tenantId now db) ∧
    SparesStale db alert ((applyAlertMoveToNew alert.id alert.tenantId now).run act db)

/-- The alert has a row and a name that is not blank. -/
def Renames (alert : Alert) : Prop :=
  alert.customerId.isSome = true ∧ ∃ newName ∈ alert.detail.newName, jsTrim newName ≠ ""

instance (alert : Alert) : Decidable (Renames alert) :=
  inferInstanceAs (Decidable (_ ∧ ∃ newName ∈ _, _))

section Clicks

variable {db : Db} {alert : Alert}

/-- An open alert is the one that its id selects. -/
theorem find_open (inside : alert ∈ db.alerts) (waits : alert.resolvedAt = none) :
    db.alerts.find? (isOpenAlert alert.id alert.tenantId) = some alert := by
  have selects : isOpenAlert alert.id alert.tenantId alert = true := by
    simp [isOpenAlert, waits]
  cases found : db.alerts.find? (isOpenAlert alert.id alert.tenantId) with
  | none =>
    have refused := List.find?_eq_none.mp found alert inside
    exact absurd selects refused
  | some other =>
    have hit := List.find?_some found
    have same : other.id = alert.id := by
      simp only [isOpenAlert, Bool.and_eq_true, beq_iff_eq] at hit
      exact hit.1.1
    have equal := eq_of_key db.valid.alertIds (List.mem_of_find?_eq_some found) inside same
    rw [equal]

/-- The move changes nothing where the device is gone from the row. -/
theorem move_spares_stale (inside : alert ∈ db.alerts) (isOpen : OpenName alert) (now : Nat) :
    SparesStale db alert ((applyAlertMoveToNew alert.id alert.tenantId now).run act db) := by
  by_cases holds : HoldsDevice db alert
  · exact .inl holds
  · right
    unfold applyAlertMoveToNew
    simp only [Prog.run, find_open inside isOpen.2, isOpen.1]
    cases customer : alert.customerId with
    | none => exact ⟨rfl, rfl⟩
    | some customerId =>
      cases name : alert.detail.newName with
      | none => exact ⟨rfl, rfl⟩
      | some newName =>
        cases device : given alert.detail.remoteId with
        | none => exact ⟨rfl, rfl⟩
        | some remoteId =>
          simp only
          split
          · exact ⟨rfl, rfl⟩
          · simp only [Prog.run]
            cases found : db.customers.find? (ownRow customerId alert.tenantId) with
            | none => exact ⟨rfl, rfl⟩
            | some src =>
              have held := List.mem_of_find?_eq_some found
              have own := ownRow_iff.mp (List.find?_some found)
              have there := (given_some device).1
              have moved : src.remoteId ≠ some remoteId := by
                intro same
                apply holds
                refine ⟨src, held, ?_, ?_, ?_⟩
                · rw [customer, own.1]
                · rw [there]
                  rfl
                · rw [there, same]
              simp only [if_pos moved]
              exact ⟨rfl, rfl⟩

/-- The rename changes nothing where the device is gone from the row only if it refuses the name. -/
theorem rename_spares_stale_iff (inside : alert ∈ db.alerts) (isOpen : OpenName alert)
    (now : Nat) :
    SparesStale db alert (applyAlertRename alert.id alert.tenantId now db) ↔
      HoldsDevice db alert ∨ ¬ Renames alert := by
  unfold SparesStale
  apply or_congr_right
  unfold applyAlertRename Renames
  rw [find_open inside isOpen.2]
  simp only [isOpen.1]
  cases customer : alert.customerId with
  | none => simp
  | some customerId =>
    cases name : alert.detail.newName with
    | none => simp
    | some newName =>
      simp only [Option.isSome_some, Option.mem_some, exists_eq_left', true_and, not_not]
      split
      · rename_i blank
        simp [blank]
      · rename_i real
        constructor
        · rintro ⟨refused, -⟩
          exfalso
          unfold settle at refused
          split at refused
          · cases refused
          · cases refused
        · intro blank
          exact absurd blank real

end Clicks

/-- The alert that a write inserts. -/
def inserted : Stmt → Option Alert
  | .insertAlert values => some values
  | .moveToNew _ _ _ _ _ alert => some alert
  | .moveDevice _ _ _ _ _ _ alert => some alert
  | .replaceDevice _ _ _ _ _ _ alert => some alert
  | _ => none

/-- A write that neither resolves nor deletes an alert. -/
def Keeps : Stmt → Prop
  | .moveToNew _ _ _ _ resolves _ => resolves = none
  | .deleteCustomer _ _ => False
  | _ => True

section Statements

variable {db after : Db} {out : List Customer} {stmt : Stmt}

/-- An upsert of a favourite leaves the alerts. -/
theorem alerts_upsertFavorite {values : Favorite}
    (done : act (.upsertFavorite values) db = .ok (out, after)) : after.alerts = db.alerts := by
  have ran := (single_ok done).2
  unfold Db.upsertFavorite at ran
  dsimp only at ran
  split at ran
  · rw [commit_ok ran]
  · rw [commit_ok ran]

/-- One alert says what another does, about its own row. -/
def Like (alert values : Alert) : Prop :=
  alert.type = values.type ∧ alert.resolvedAt = values.resolvedAt ∧ alert.detail = values.detail

/-- Everything a write can do to the alerts. -/
inductive Effect (stmt : Stmt) (db after : Db) : Prop
  | same (alerts : after.alerts = db.alerts)
  | added (alert values : Alert) (written : inserted stmt = some values) (like : Like alert values)
      (alerts : after.alerts = db.alerts ++ [alert])
  | moved (resolves : Option (Nat × Nat)) (kept : Keeps stmt → resolves = none)
      (alert values : Alert) (written : inserted stmt = some values) (like : Like alert values)
      (alerts : after.alerts =
        updateWhere (resolvedBy resolves) (resolve resolves) db.alerts ++ [alert])
  | deleted (gone : ¬ Keeps stmt) (alerts : ∀ a ∈ after.alerts, a ∈ db.alerts)

/-- A deletion of a customer adds no alert. -/
theorem alerts_deleteCustomer {id tenantId : Nat}
    (done : act (.deleteCustomer id tenantId) db = .ok (out, after)) :
    ∀ a ∈ after.alerts, a ∈ db.alerts := by
  change deleteRow id tenantId db = _ at done
  unfold deleteRow at done
  split at done
  · cases done
    exact fun a inside => inside
  · obtain ⟨cleared, first, rest⟩ := bind_ok done
    obtain ⟨result, second, returned⟩ := bind_ok rest
    cases returned
    intro a inside
    rw [commit_ok second, commit_ok first] at inside
    exact (List.mem_filter.mp inside).1

theorem effect_of_act (done : act stmt db = .ok (out, after)) : Effect stmt db after := by
  cases stmt with
  | rotateToken id tokenHash =>
    have alerts := congrArg Tables.alerts (rotateToken_ok done)
    exact .same alerts
  | insertCustomer values =>
    have alerts := congrArg Tables.alerts (insertCustomer_ok done).2
    exact .same alerts
  | updateCustomer id tenantId fields now =>
    have alerts := congrArg Tables.alerts (updateCustomer_ok done)
    exact .same alerts
  | linkFavorites remoteId customerId tenantId =>
    have alerts := congrArg Tables.alerts (linkFavorites_ok done)
    exact .same alerts
  | upsertFavorite values => exact .same (alerts_upsertFavorite done)
  | claimCustomer id userId now =>
    have alerts := congrArg Tables.alerts (claimCustomer_ok done)
    exact .same alerts
  | insertAlert values =>
    have alerts := congrArg Tables.alerts (insertAlert_ok done)
    exact .added (values.withId db.nextId) values rfl ⟨rfl, rfl, rfl⟩ alerts
  | moveToNew source stamp remoteId values resolves alert =>
    have alerts := (moveToNew_ok done).2.2.2
    have like : Like ((alert.about db.nextId).withId (db.nextId + 1)) alert := ⟨rfl, rfl, rfl⟩
    exact .moved resolves id _ alert rfl like alerts
  | moveDevice source target remoteId tokenHash tenantId now alert =>
    have alerts := (moveDevice_ok done).2.2
    have like : Like ((alert.about target).withId db.nextId) alert := ⟨rfl, rfl, rfl⟩
    exact .added _ alert rfl like alerts
  | replaceDevice target oldRemoteId remoteId tokenHash tenantId now alert =>
    have alerts := (replaceDevice_ok done).2.2
    have like : Like ((alert.about target).withId db.nextId) alert := ⟨rfl, rfl, rfl⟩
    exact .added _ alert rfl like alerts
  | deleteCustomer id tenantId => exact .deleted nofun (alerts_deleteCustomer done)

/-- An open alert after a write was there before or is the one that was written. -/
theorem open_of_act (done : act stmt db = .ok (out, after)) {a : Alert} (inside : a ∈ after.alerts)
    (isOpen : OpenName a) : a ∈ db.alerts ∨ ∃ values ∈ inserted stmt, Like a values := by
  cases effect_of_act done with
  | same alerts =>
    rw [alerts] at inside
    exact .inl inside
  | added alert values written like alerts =>
    rw [alerts] at inside
    rcases List.mem_append.mp inside with old | new
    · exact .inl old
    · rw [List.mem_singleton.mp new]
      exact .inr ⟨values, written, like⟩
  | moved resolves kept alert values written like alerts =>
    rw [alerts] at inside
    rcases List.mem_append.mp inside with old | new
    · rcases mem_updateWhere.mp old with ⟨before, _, hit, rfl⟩ | ⟨before, _⟩
      · -- a resolved alert is not open
        cases resolves with
        | none => cases hit
        | some asked => cases isOpen.2
      · exact .inl before
    · rw [List.mem_singleton.mp new]
      exact .inr ⟨values, written, like⟩
  | deleted gone alerts => exact .inl (alerts a inside)

/-- An alert that is there stays through a write that keeps the alerts. -/
theorem kept_of_act (done : act stmt db = .ok (out, after)) (keeps : Keeps stmt) {a : Alert}
    (inside : a ∈ db.alerts) : a ∈ after.alerts := by
  cases effect_of_act done with
  | same alerts =>
    rw [alerts]
    exact inside
  | added alert values written like alerts =>
    rw [alerts]
    exact List.mem_append_left _ inside
  | moved resolves kept alert values written like alerts =>
    rw [alerts, kept keeps]
    exact List.mem_append_left _ (mem_updateWhere_of_miss inside rfl)
  | deleted gone alerts => exact absurd keeps gone

end Statements

end ChainRemote.Panel.Alerts
