import ChainRemote.Lib.Machine
import ChainRemote.Panel.Alerts

/-!
# Alerts while a device is installed again

An enrollment raises at most one open alert for a row, and no operation changes the name in it. So
an open alert names the latest installation of its device as long as the device is not installed
under another name.
-/

namespace ChainRemote.Panel.Alerts

open Lib

section Writes

/-- A write inserts an open alert only if it is about a device and a name. -/
def Reports (device name : String) (stmt : Stmt) : Prop :=
  ∀ values ∈ inserted stmt, OpenName values →
    values.detail.remoteId = some device ∧ values.detail.newName = some name ∧ name ≠ ""

/-- A write inserts no open alert. -/
def Quiet (stmt : Stmt) : Prop := ∀ values ∈ inserted stmt, ¬ OpenName values

theorem quiet_of_type {alert : Alert} (other : alert.type ≠ .reinstalledNewName) :
    ¬ OpenName alert := fun isOpen => other isOpen.1

/-- A client that inserts no open alert leaves open alerts that were there. -/
theorem open_of_quiet {α : Type} {client : Client α} (quiet : client.Sends Quiet) (db : Db)
    {a : Alert} (inside : a ∈ (client.run act db).1.alerts) (isOpen : OpenName a) :
    a ∈ db.alerts := by
  refine quiet.run (fun before after => ∀ a ∈ after.alerts, OpenName a → a ∈ before.alerts)
    (fun _ a there _ => there) ?_ ?_ db a inside isOpen
  · exact fun _ _ _ first second a there isOpen => first a (second a there isOpen) isOpen
  · intro stmt before out after silent done a there isOpen
    rcases open_of_act done there isOpen with old | ⟨values, written, like⟩
    · exact old
    · have again : OpenName values := ⟨like.1.symm.trans isOpen.1, like.2.1.symm.trans isOpen.2⟩
      exact absurd again (silent values written)

end Writes

section Enrollment

variable {env : Runtime} {call : EnrollCall}

/-- A write of an enrollment: it keeps the alerts, and one that it inserts names the installation. -/
def Enrolls (call : EnrollCall) (stmt : Stmt) : Prop :=
  Keeps stmt ∧ Reports call.remoteId call.explicitName stmt

theorem enrolls_of_none {stmt : Stmt} (keeps : Keeps stmt) (none : inserted stmt = none) :
    Enrolls call stmt := by
  refine ⟨keeps, ?_⟩
  intro values written
  rw [none] at written
  cases written

theorem enrolls_of_type {stmt : Stmt} {alert : Alert} (keeps : Keeps stmt)
    (written : inserted stmt = some alert) (other : alert.type ≠ .reinstalledNewName) :
    Enrolls call stmt := by
  refine ⟨keeps, ?_⟩
  intro values same isOpen
  obtain rfl := Option.some.inj (written.symm.trans same)
  exact absurd isOpen.1 other

theorem enrolls_settle (error : DbError) : (call.settle env error).Sends (Enrolls call) := by
  intro db
  dsimp only
  split
  · trivial
  · split
    · trivial
    · exact ⟨enrolls_of_none trivial rfl, fun _ => trivial, fun _ => trivial⟩

theorem enrolls_register (count : Nat) : (call.register env count).Sends (Enrolls call) := by
  refine ⟨enrolls_of_none trivial rfl, ?_, fun error => enrolls_settle error⟩
  intro rows
  cases rows with
  | nil => exact enrolls_settle _
  | cons row rows =>
    refine ⟨enrolls_of_none trivial rfl, ?_, fun error => enrolls_settle error⟩
    intro _
    dsimp only
    split
    · exact ⟨enrolls_of_type trivial rfl nofun, fun _ => trivial, fun error => enrolls_settle error⟩
    · trivial

/-- The alert that is left to the panel names the installation. -/
theorem enrolls_leaveToPanel (named : call.explicitName ≠ "") (own : Customer)
    (found : List Customer) : (call.leaveToPanel env own found).Sends (Enrolls call) := by
  refine ⟨enrolls_of_none trivial rfl, ?_, fun _ => trivial⟩
  intro _ db
  dsimp only
  split
  · trivial
  · refine ⟨⟨trivial, ?_⟩, fun _ => trivial, fun _ => trivial⟩
    intro values written _
    obtain rfl := Option.some.inj written
    exact ⟨rfl, rfl, named⟩

/-- Every write of an enrollment is one. -/
theorem enrolls_enrollCustomer (env : Runtime) (call : EnrollCall) :
    (call.enrollCustomer env).Sends (Enrolls call) := by
  have judged : ∀ own found, (call.judge env own found).Sends (Enrolls call) := by
    intro own found
    unfold EnrollCall.judge
    cases own with
    | some own =>
      dsimp only
      split
      · exact ⟨enrolls_of_type rfl rfl nofun, fun _ => trivial, fun _ => trivial⟩
      · split
        · exact ⟨enrolls_of_none trivial rfl, fun _ => trivial, fun _ => trivial⟩
        · rename_i renamed
          have named : call.explicitName ≠ "" := by
            intro blank
            apply renamed
            left
            rw [EnrollCall.nameKey, if_pos blank]
          split
          · split
            · exact enrolls_leaveToPanel named _ _
            · exact ⟨enrolls_of_type trivial rfl nofun, fun _ => trivial, fun _ => trivial⟩
          · exact enrolls_leaveToPanel named _ _
    | none =>
      dsimp only
      split
      · split
        · exact enrolls_register _
        · exact ⟨enrolls_of_type trivial rfl nofun, fun _ => trivial, fun _ => enrolls_register _⟩
      · exact enrolls_register _
  intro db
  dsimp only
  split
  · trivial
  · split
    · exact judged _ _
    · exact fun db => judged _ _

/-- An open alert after an enrollment was there before or names the installation. -/
theorem open_of_enroll (db : Db) {a : Alert}
    (inside : a ∈ ((call.enrollCustomer env).run act db).1.alerts) (isOpen : OpenName a) :
    a ∈ db.alerts ∨ a.detail.remoteId = some call.remoteId ∧
      a.detail.newName = some call.explicitName ∧ call.explicitName ≠ "" := by
  refine (enrolls_enrollCustomer env call).run
    (fun before after => ∀ a ∈ after.alerts, OpenName a → a ∈ before.alerts ∨
      a.detail.remoteId = some call.remoteId ∧ a.detail.newName = some call.explicitName ∧
        call.explicitName ≠ "")
    (fun _ a there _ => .inl there) ?_ ?_ db a inside isOpen
  · intro _ _ _ first second a there isOpen
    rcases second a there isOpen with old | new
    · exact first a old isOpen
    · exact .inr new
  · intro stmt before out after enrolls done a there isOpen
    rcases open_of_act done there isOpen with old | ⟨values, written, like⟩
    · exact .inl old
    · have again : OpenName values := ⟨like.1.symm.trans isOpen.1, like.2.1.symm.trans isOpen.2⟩
      have reported := enrolls.2 values written again
      rw [← like.2.2] at reported
      exact .inr reported

/-- An enrollment leaves every alert. -/
theorem kept_of_enroll (env : Runtime) (call : EnrollCall) (db : Db) {a : Alert} (inside : a ∈ db.alerts) :
    a ∈ ((call.enrollCustomer env).run act db).1.alerts := by
  refine (enrolls_enrollCustomer env call).run
    (fun before after => ∀ a ∈ before.alerts, a ∈ after.alerts)
    (fun _ a there => there) ?_ ?_ db a inside
  · exact fun _ _ _ first second a there => second a (first a there)
  · intro stmt before out after enrolls done a there
    exact kept_of_act done enrolls.1 there

end Enrollment

/-- The tables, and the name that each device was installed under last. -/
structure World where
  db : Db
  installed : String → Option String

/-- What happens to the tables. -/
inductive Event
  /-- A device is installed, and enrolls. -/
  | enroll (call : EnrollCall)
  /-- Another operation of the data layer. -/
  | operation (op : Operation)
  | resolveAlert (id tenantId now : Nat)
  | applyAlertRename (id tenantId now : Nat)
  /-- A write that leaves the alerts. -/
  | other (later : Db)

/-- The names after an installation; one without a name installs none. -/
def install (call : EnrollCall) (installed : String → Option String) : String → Option String :=
  if call.explicitName = "" then installed
  else Function.update installed call.remoteId (some call.explicitName)

/-- The world after an event; none where it cannot happen. -/
def step (env : Runtime) (w : World) : Event → Option World
  | .enroll call =>
    some
      { db := ((call.enrollCustomer env).run act w.db).1
        installed := install call w.installed }
  | .operation (.enrollCustomer _) => none
  | .operation op => some { w with db := op.after env w.db }
  | .resolveAlert id tenantId now => some { w with db := (resolveAlert id tenantId now w.db).1 }
  | .applyAlertRename id tenantId now =>
    some { w with db := (applyAlertRename id tenantId now w.db).1 }
  | .other later => if later.alerts = w.db.alerts then some { w with db := later } else none

/-- The panel, from tables without alerts. -/
def panel (env : Runtime) : Machine World Event where
  start w := w.db.alerts = []
  step := step env

/-- An alert that waits names a device and the name that it was installed under last. -/
def NamesLatest (w : World) : Prop :=
  ∀ alert ∈ w.db.alerts, OpenName alert →
    ∃ device name, alert.detail.remoteId = some device ∧ alert.detail.newName = some name ∧
      w.installed device = some name

/-- A device with an alert that waits is installed under the name of the alert, or under none. -/
def Spares (w : World) : Event → Prop
  | .enroll call => ∀ alert ∈ w.db.alerts, OpenName alert →
      alert.detail.remoteId = some call.remoteId →
        call.explicitName = "" ∨ alert.detail.newName = some call.explicitName
  | _ => True

section Runs

variable {env : Runtime} {w t : World}

theorem quiet_of_none {stmt : Stmt} (none : inserted stmt = none) : Quiet stmt := by
  intro values written
  rw [none] at written
  cases written

theorem quiet_moved {source : Nat} {stamp : Option Nat} {remoteId : String} {values : Customer}
    {resolves : Option (Nat × Nat)} {tenantId now : Nat} {detail : AlertDetail} :
    Quiet (.moveToNew source stamp remoteId values resolves (movedAlert tenantId detail now)) := by
  intro alert written
  obtain rfl := Option.some.inj written
  exact quiet_of_type nofun

theorem quiet_createCustomer (fields : CustomerFields) (tenantId assignedUserId now : Nat) :
    (createCustomer fields tenantId assignedUserId now).Sends Quiet := by
  refine ⟨quiet_of_none rfl, ?_, fun _ => trivial⟩
  intro rows
  cases rows with
  | nil => trivial
  | cons row rows =>
    dsimp only
    split
    · exact ⟨quiet_of_none rfl, fun _ => trivial, fun _ => trivial⟩
    · trivial

theorem quiet_importPeer (input : PeerInput) (tenantId assignedUserId now : Nat) :
    (importPeer input tenantId assignedUserId now).Sends Quiet := by
  have link : ∀ row : Customer, (Prog.write (.linkFavorites input.remoteId row.id tenantId)
      (fun _ => .ret row) .throw : Client Customer).Sends Quiet :=
    fun _ => ⟨quiet_of_none rfl, fun _ => trivial, fun _ => trivial⟩
  refine ⟨quiet_of_none rfl, ?_, ?_⟩
  · intro rows
    cases rows with
    | nil => trivial
    | cons row rows => exact link row
  · intro error db
    dsimp only
    split
    · trivial
    · split
      · trivial
      · exact link _

theorem quiet_addFavoriteByRemoteId (userId : Nat) (remoteId : String) (tenantId : Nat)
    (hostname aliasName : Option String) (now : Nat) :
    (addFavoriteByRemoteId userId remoteId tenantId hostname aliasName now).Sends Quiet := by
  intro db
  refine ⟨quiet_of_none rfl, ?_, fun _ => trivial⟩
  intro _
  dsimp only
  split
  · exact ⟨quiet_of_none rfl, fun _ => trivial, fun _ => trivial⟩
  · trivial

theorem quiet_applyAlertMoveToNew (id tenantId now : Nat) :
    (applyAlertMoveToNew id tenantId now).Sends Quiet := by
  intro db
  dsimp only
  split
  · trivial
  · split
    · split
      · trivial
      · intro db
        dsimp only
        split
        · trivial
        · split
          · trivial
          · exact ⟨quiet_moved, fun _ => trivial, fun _ => trivial⟩
    · trivial

theorem quiet_moveDeviceToNewCustomer (env : Runtime) (customerId : Nat) (newName : String)
    (tenantId now : Nat) :
    (moveDeviceToNewCustomer env customerId newName tenantId now).Sends Quiet := by
  unfold moveDeviceToNewCustomer
  dsimp only
  split
  · trivial
  · intro db
    dsimp only
    split
    · trivial
    · split
      · trivial
      · split
        · trivial
        · refine ⟨quiet_moved, ?_, fun _ => trivial⟩
          intro rows
          cases rows with
          | nil => trivial
          | cons row rows => trivial

/-- The operations but for an enrollment add no open alert. -/
theorem open_of_operation {op : Operation} (other : ∀ call, op ≠ .enrollCustomer call) (db : Db)
    {a : Alert} (inside : a ∈ (op.after env db).alerts) (isOpen : OpenName a) : a ∈ db.alerts := by
  cases op with
  | createCustomer fields tenantId assignedUserId now =>
    exact open_of_quiet (quiet_createCustomer fields tenantId assignedUserId now) db inside isOpen
  | updateCustomer id fields tenantId now =>
    have quiet : (updateCustomer id fields tenantId now).Sends Quiet :=
      ⟨quiet_of_none rfl, fun _ => trivial, fun _ => trivial⟩
    exact open_of_quiet quiet db inside isOpen
  | importPeer input tenantId assignedUserId now =>
    exact open_of_quiet (quiet_importPeer input tenantId assignedUserId now) db inside isOpen
  | deleteCustomer id tenantId =>
    have quiet : (deleteCustomer id tenantId).Sends Quiet :=
      ⟨quiet_of_none rfl, fun _ => trivial, fun _ => trivial⟩
    exact open_of_quiet quiet db inside isOpen
  | addFavoriteByRemoteId userId remoteId tenantId hostname aliasName now =>
    have quiet := quiet_addFavoriteByRemoteId userId remoteId tenantId hostname aliasName now
    exact open_of_quiet quiet db inside isOpen
  | linkFavoritesToCustomer remoteId customerId tenantId =>
    have quiet : (linkFavoritesToCustomer remoteId customerId tenantId).Sends Quiet :=
      ⟨quiet_of_none rfl, fun _ => trivial, fun _ => trivial⟩
    exact open_of_quiet quiet db inside isOpen
  | enrollCustomer call => exact absurd rfl (other call)
  | applyAlertMoveToNew id tenantId now =>
    exact open_of_quiet (quiet_applyAlertMoveToNew id tenantId now) db inside isOpen
  | moveDeviceToNewCustomer customerId newName tenantId now =>
    have quiet := quiet_moveDeviceToNewCustomer env customerId newName tenantId now
    rw [Operation.after] at inside
    exact open_of_quiet quiet db inside isOpen

/-- A resolved alert is not open, and the others stay as they were. -/
theorem open_of_markResolved {db after : Db} {id now : Nat}
    (done : markResolved id now db = .ok after) {a : Alert} (inside : a ∈ after.alerts)
    (isOpen : OpenName a) : a ∈ db.alerts := by
  rw [commit_ok done] at inside
  rcases mem_updateWhere.mp inside with ⟨old, _, _, rfl⟩ | ⟨old, _⟩
  · cases isOpen.2
  · exact old

theorem open_of_resolveAlert {id tenantId now : Nat} (db : Db) {a : Alert}
    (inside : a ∈ (resolveAlert id tenantId now db).1.alerts) (isOpen : OpenName a) :
    a ∈ db.alerts := by
  unfold resolveAlert at inside
  split at inside
  · exact inside
  · unfold settle at inside
    split at inside
    · rename_i after done
      exact open_of_markResolved done inside isOpen
    · exact inside

theorem open_of_applyAlertRename {id tenantId now : Nat} (db : Db) {a : Alert}
    (inside : a ∈ (applyAlertRename id tenantId now db).1.alerts) (isOpen : OpenName a) :
    a ∈ db.alerts := by
  unfold applyAlertRename at inside
  split at inside
  · exact inside
  · split at inside
    · split at inside
      · exact inside
      · unfold settle at inside
        split at inside
        · rename_i after done
          obtain ⟨renamed, first, second⟩ := bind_ok done
          have before := open_of_markResolved second inside isOpen
          rw [commit_ok first] at before
          exact before
        · exact inside
    · exact inside

/-- Where no open alert is new and the names stay, the alerts still name the latest. -/
theorem NamesLatest.of_open (latest : NamesLatest w) {db : Db}
    (old : ∀ a ∈ db.alerts, OpenName a → a ∈ w.db.alerts) : NamesLatest { w with db := db } :=
  fun a inside isOpen => latest a (old a inside isOpen) isOpen

/-- An installation keeps the names exactly where its device has no alert under another name. -/
theorem namesLatest_enroll_iff (latest : NamesLatest w) (call : EnrollCall) :
    NamesLatest
        { db := ((call.enrollCustomer env).run act w.db).1
          installed := install call w.installed } ↔ Spares w (.enroll call) := by
  constructor
  · intro after alert inside isOpen about
    by_cases unnamed : call.explicitName = ""
    · exact .inl unnamed
    · right
      have stays := kept_of_enroll env call w.db inside
      obtain ⟨device, name, same, shown, last⟩ := after alert stays isOpen
      obtain rfl := Option.some.inj (about.symm.trans same)
      have now : install call w.installed call.remoteId = some call.explicitName := by
        rw [install, if_neg unnamed, Function.update_self]
      rw [shown, ← last]
      exact now
  · intro spares a inside isOpen
    have named : ∀ alert ∈ w.db.alerts, OpenName alert → ∃ device name,
        alert.detail.remoteId = some device ∧ alert.detail.newName = some name ∧
          install call w.installed device = some name := by
      intro alert old waits
      obtain ⟨device, name, about, shown, last⟩ := latest alert old waits
      refine ⟨device, name, about, shown, ?_⟩
      by_cases unnamed : call.explicitName = ""
      · rw [install, if_pos unnamed, last]
      · rw [install, if_neg unnamed]
        by_cases same : device = call.remoteId
        · subst same
          rw [Function.update_self]
          have agrees := (spares alert old waits about).resolve_left unnamed
          rw [← agrees, shown]
        · rw [Function.update_of_ne same, last]
    rcases open_of_enroll w.db inside isOpen with old | ⟨about, shown, real⟩
    · exact named a old isOpen
    · refine ⟨call.remoteId, call.explicitName, about, shown, ?_⟩
      show install call w.installed call.remoteId = some call.explicitName
      rw [install, if_neg real, Function.update_self]

/-- A step keeps the names exactly where it is spared. -/
theorem namesLatest_step_iff (latest : NamesLatest w) (e : Event)
    (next : step env w e = some t) : NamesLatest t ↔ Spares w e := by
  have always : ∀ {later : World}, NamesLatest later → (NamesLatest later ↔ True) :=
    fun holds => iff_of_true holds trivial
  cases e with
  | enroll call =>
    obtain rfl := Option.some.inj next
    exact namesLatest_enroll_iff latest call
  | operation op =>
    have others : (∀ call, op ≠ .enrollCustomer call) ∧ t = { w with db := op.after env w.db } := by
      cases op <;> simp only [step, Option.some.injEq, reduceCtorEq] at next <;>
        exact ⟨nofun, next.symm⟩
    rw [others.2]
    exact always (latest.of_open fun a inside isOpen =>
      open_of_operation others.1 w.db inside isOpen)
  | resolveAlert id tenantId now =>
    obtain rfl := Option.some.inj next
    exact always (latest.of_open fun a inside isOpen => open_of_resolveAlert w.db inside isOpen)
  | applyAlertRename id tenantId now =>
    obtain rfl := Option.some.inj next
    exact always (latest.of_open fun a inside isOpen => open_of_applyAlertRename w.db inside isOpen)
  | other later =>
    simp only [step] at next
    split at next
    · rename_i same
      obtain rfl := Option.some.inj next
      exact always (latest.of_open fun a inside _ => same ▸ inside)
    · cases next

end Runs

/-- A click on an open alert spares a store that the device has left exactly where the device has
not left, or the rename refuses the alert. In every run in which no device with an open alert is
installed under another name than the alert's, an open alert names the latest installation; and an
installation under another name ends that at once. -/
theorem stale_alerts (env : Runtime) :
    (∀ (db : Db) (now : Nat), ∀ alert ∈ db.alerts, OpenName alert →
      (StaleChangesNothing db alert now ↔ HoldsDevice db alert ∨ ¬ Renames alert)) ∧
    (∀ w, (panel env).Reaches Spares w → NamesLatest w) ∧
    ∀ w e t, NamesLatest w → step env w e = some t → (NamesLatest t ↔ Spares w e) := by
  refine ⟨?_, ?_, fun w e t latest next => namesLatest_step_iff latest e next⟩
  · intro db now alert inside isOpen
    have renames := rename_spares_stale_iff inside isOpen now
    have moves := move_spares_stale inside isOpen now
    exact ⟨fun both => renames.mp both.1, fun spared => ⟨renames.mpr spared, moves⟩⟩
  · intro w reached
    apply reached.invariant NamesLatest
    · intro s started alert inside
      rw [show s.db.alerts = [] from started] at inside
      cases inside
    · exact fun s e t latest spared next => (namesLatest_step_iff latest e next).mpr spared

theorem noTables_valid :
    ({ customers := [], favorites := [], alerts := [], nextId := 0 } : Tables).Valid := by
  decide

/-- No tables, and no device was installed. -/
def noTables : World where
  db := { customers := [], favorites := [], alerts := [], nextId := 0, valid := noTables_valid }
  installed := fun _ => none

/-- The device `"100"` is installed under a name, in the setup of a new site or not. -/
def installation (name : String) (newSite : Bool) : Event :=
  .enroll
    { input := { remoteId := "100", name := some name, newSite }
      tenantId := 1, plaintext := "t1", now := 0 }

/-- A device raises an alert and then goes to another store. -/
def deviceGone : World :=
  (panel plainRuntime).play Machine.free noTables
    [installation "cafe" false, installation "bar" false, installation "pub" true]

/-- The alert of `deviceGone`. -/
def leftAlert : Alert where
  id := 1
  tenantId := 1
  customerId := some 0
  type := .reinstalledNewName
  detail :=
    { remoteId := some "100", currentName := some "cafe", newName := some "bar"
      reason := some "일치 상호 없음" }

theorem deviceGone_alerts : leftAlert ∈ deviceGone.db.alerts := by
  have first : deviceGone.db.alerts.head? = some leftAlert := by decide +kernel
  exact List.mem_of_head? first

/-- The alert that is left names neither what the device was installed under last nor a store that
holds the device, and a click on it renames the store. -/
theorem stale_click_renames :
    (panel plainRuntime).Reaches Machine.free deviceGone ∧ leftAlert ∈ deviceGone.db.alerts ∧
      OpenName leftAlert ∧ ¬ HoldsDevice deviceGone.db leftAlert ∧
      deviceGone.db.customers.map (fun row => (row.name, row.remoteId)) =
        [("cafe", none), ("pub", some "100")] ∧
      (applyAlertRename 1 1 0 deviceGone.db).2 = .ok true ∧
      (applyAlertRename 1 1 0 deviceGone.db).1.customers.map
        (fun row => (row.name, row.remoteId)) = [("bar", none), ("pub", some "100")] ∧
      ¬ StaleChangesNothing deviceGone.db leftAlert 0 ∧ ¬ NamesLatest deviceGone := by
  have gone : ¬ HoldsDevice deviceGone.db leftAlert := by decide +kernel
  have renamed : (applyAlertRename 1 1 0 deviceGone.db).2 = .ok true := by decide +kernel
  refine ⟨⟨noTables, rfl, Machine.runs_play _ _ _ _⟩, deviceGone_alerts, by decide, gone,
    by decide +kernel, renamed, by decide +kernel, ?_, ?_⟩
  · intro spared
    rcases spared.1 with holds | ⟨refused, -⟩
    · exact gone holds
    · have both := renamed.symm.trans refused
      cases both
  · intro latest
    obtain ⟨device, name, about, shown, last⟩ := latest leftAlert deviceGone_alerts (by decide)
    obtain rfl := Option.some.inj about
    obtain rfl := Option.some.inj shown
    have pub : deviceGone.installed "100" = some "pub" := by decide +kernel
    have both := pub.symm.trans last
    revert both
    decide

end ChainRemote.Panel.Alerts
