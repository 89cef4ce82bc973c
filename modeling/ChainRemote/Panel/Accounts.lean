import ChainRemote.Lib.Checks
import ChainRemote.Lib.Rows
import ChainRemote.Panel.Push
import ChainRemote.Panel.Seats

/-!
# Management of accounts

The panel actions of `lib/actions/users.ts`, which a manager calls for the accounts of the own
company, and of `lib/actions/tenant-users.ts`, which the platform operator calls for those of
any company. An action reads and writes whole tables; where it throws, it has written nothing.

Identifiers arrive as text. PostgreSQL reads several spellings of one `uuid`, but `id === me.id`
compares text with the spelling that PostgreSQL prints.
-/

namespace ChainRemote.Panel.Accounts

open Lib Seats

/-- The columns of a `users` row that the actions read or write. -/
structure Account extends User where
  displayName : String
  updatedAt : Nat
deriving DecidableEq, Repr

/-- Functions outside this model. -/
structure Ambient where
  /-- `lower` of the database. -/
  sqlLower : String → String
  /-- `toLowerCase`. -/
  toLowerCase : String → String
  /-- The `uuid` that PostgreSQL reads in a text. -/
  readUuid : String → Option Nat
  /-- The text that PostgreSQL prints for a `uuid`. -/
  uuidText : Nat → String

/-- The constraints of the tables. -/
structure Valid (amb : Ambient) (users : List Account) (tenants : List Tenant)
    (sessions : List Session) : Prop where
  /-- The primary key of `users`. -/
  ids : (users.map fun row => row.id).Nodup
  /-- The unique index on `lower(email)`. -/
  emails : (users.map fun row => amb.sqlLower row.email).Nodup
  /-- Every account has its company. -/
  homes : ∀ row ∈ users, row.tenantId ∈ tenants.map Tenant.id
  /-- The primary key of `active_login_sessions`. -/
  seats : (sessions.map Session.userId).Nodup
  /-- Every seat has its account. -/
  holders : ∀ row ∈ sessions, row.userId ∈ users.map fun user => user.id

/-- The tables `users`, `tenants` and `active_login_sessions`. -/
structure Tables (amb : Ambient) where
  users : List Account
  tenants : List Tenant
  sessions : List Session
  valid : Valid amb users tenants sessions

/-- Why an action throws. -/
inductive Thrown
  /-- `Error` with its message. -/
  | message (text : String)
  /-- PostgreSQL refused a statement. -/
  | database
deriving DecidableEq, Repr

/-- The columns that an update sets. -/
structure Edit where
  displayName : Option String := none
  role : Option Role := none
  isActive : Option Bool := none
  passwordHash : Option String := none

/-- `.set({ …, updatedAt: new Date() })`. -/
def Edit.set (edit : Edit) (now : Nat) (row : Account) : Account :=
  { row with
    displayName := edit.displayName.getD row.displayName
    role := edit.role.getD row.role
    isActive := edit.isActive.getD row.isActive
    passwordHash := edit.passwordHash.getD row.passwordHash
    updatedAt := now }

variable {amb : Ambient}

/-- An update keeps the constraints. -/
theorem Valid.edit {users : List Account} {tenants : List Tenant} {sessions : List Session}
    (valid : Valid amb users tenants sessions) (here : Account → Bool) (edit : Edit) (now : Nat) :
    Valid amb (updateWhere here (edit.set now) users) tenants sessions := by
  have kept : ∀ {κ : Type} (key : Account → κ), (∀ row, key (edit.set now row) = key row) →
      (updateWhere here (edit.set now) users).map key = users.map key := by
    intro κ key same
    exact map_updateWhere key same
  have ids := kept (fun row => row.id) fun _ => rfl
  have emails := kept (fun row => amb.sqlLower row.email) fun _ => rfl
  have homes := kept (fun row => row.tenantId) fun _ => rfl
  refine ⟨ids ▸ valid.ids, emails ▸ valid.emails, ?_, valid.seats, ids ▸ valid.holders⟩
  intro row inside
  have home : row.tenantId ∈ users.map fun row => row.tenantId :=
    homes ▸ List.mem_map_of_mem inside
  obtain ⟨old, member, same⟩ := List.mem_map.mp home
  exact same ▸ valid.homes old member

/-- `UPDATE users SET … WHERE here`. -/
def Tables.editUsers (db : Tables amb) (here : Account → Bool) (edit : Edit) (now : Nat) :
    Tables amb where
  users := updateWhere here (edit.set now) db.users
  tenants := db.tenants
  sessions := db.sessions
  valid := db.valid.edit here edit now

/-- `DELETE FROM users WHERE here`; the seats of deleted accounts go with them. -/
def Tables.deleteUsers (db : Tables amb) (here : Account → Bool) : Tables amb where
  users := db.users.filter fun row => !here row
  tenants := db.tenants
  sessions := db.sessions.filter fun seat =>
    db.users.any fun row => row.id == seat.userId && !here row
  valid :=
    { ids := db.valid.ids.sublist (List.filter_sublist.map _)
      emails := db.valid.emails.sublist (List.filter_sublist.map _)
      homes := fun row inside => db.valid.homes row (List.mem_of_mem_filter inside)
      seats := db.valid.seats.sublist (List.filter_sublist.map _)
      holders := by
        intro seat inside
        obtain ⟨row, member, kept⟩ := List.any_eq_true.mp (List.mem_filter.mp inside).2
        rw [Bool.and_eq_true, beq_iff_eq] at kept
        exact List.mem_map.mpr ⟨row, List.mem_filter.mpr ⟨member, kept.2⟩, kept.1⟩ }

/-- What `INSERT INTO users` needs. -/
def Tables.Admits (db : Tables amb) (row : Account) : Prop :=
  row.id ∉ db.users.map (fun user => user.id) ∧
    amb.sqlLower row.email ∉ db.users.map (fun user => amb.sqlLower user.email) ∧
    row.tenantId ∈ db.tenants.map Tenant.id ∧
    storable row.email = true ∧ storable row.displayName = true

instance (db : Tables amb) (row : Account) : Decidable (db.Admits row) :=
  inferInstanceAs (Decidable (_ ∧ _))

/-- `INSERT INTO users`. -/
def Tables.insertUser (db : Tables amb) (row : Account) : Except Thrown (Tables amb) :=
  if admitted : db.Admits row then
    .ok
      { users := row :: db.users
        tenants := db.tenants
        sessions := db.sessions
        valid :=
          { ids := List.nodup_cons.mpr ⟨admitted.1, db.valid.ids⟩
            emails := List.nodup_cons.mpr ⟨admitted.2.1, db.valid.emails⟩
            homes := by
              intro user inside
              rcases List.mem_cons.mp inside with rfl | old
              · exact admitted.2.2.1
              · exact db.valid.homes user old
            seats := db.valid.seats
            holders := fun seat inside => List.mem_cons_of_mem _ (db.valid.holders seat inside) } }
  else .error .database

/-- `revokeSeat`. -/
def Tables.revokeSeat (db : Tables amb) (userId : Nat) : Tables amb :=
  { db with
    sessions := Seats.revokeSeat userId db.sessions
    valid :=
      { db.valid with
        seats := db.valid.seats.sublist (List.filter_sublist.map _)
        holders := fun seat inside => db.valid.holders seat (List.mem_of_mem_filter inside) } }

/-- An identifier argument as a statement uses it. -/
def uuid (amb : Ambient) (text : String) : Except Thrown Nat := orThrow (amb.readUuid text) .database

/-- `where(and(eq(users.id, id), eq(users.tenantId, tenantId)))`. -/
def within (id tenantId : Nat) (row : Account) : Bool := row.id == id && row.tenantId == tenantId

/-- `getLiveUser`: the account of the session, if it is active and its company is not suspended. -/
def getLiveUser (db : Tables amb) (caller : Option Nat) : Option Account := do
  let id ← caller
  let me ← db.users.find? fun row => row.id == id
  let tenant ← db.tenants.find? fun tenant => tenant.id == me.tenantId
  if me.isActive ∧ (me.role = .superAdmin ∨ tenant.isActive ∧ tenant.subscribed) then some me
  else none

/-- `requireLiveUserOrThrow`. -/
def requireLiveUserOrThrow (db : Tables amb) (caller : Option Nat) : Except Thrown Account :=
  orThrow (getLiveUser db caller) (.message "로그인 필요")

/-- `canManageAccounts`. -/
def canManageAccounts (role : Role) : Bool :=
  role == .owner || role == .admin || role == .superAdmin

/-- `requireAccountManager`. -/
def requireAccountManager (db : Tables amb) (caller : Option Nat) : Except Thrown Account := do
  let me ← requireLiveUserOrThrow db caller
  require (canManageAccounts me.role) (.message "관리자만 계정을 관리할 수 있습니다")
  return me

/-- `requireSuperAdmin`. -/
def requireSuperAdmin (db : Tables amb) (caller : Option Nat) : Except Thrown Account := do
  let me ← requireLiveUserOrThrow db caller
  require (me.role = .superAdmin)
    (.message "플랫폼 운영자(super_admin) 만 회사별 사용자 관리 가능")
  return me

/-- `assertMayTouchTarget`. -/
def assertMayTouchTarget (db : Tables amb) (me : Account) (targetId : String) (tenantId : Nat) :
    Except Thrown Unit :=
  if me.role = .owner ∨ me.role = .superAdmin then .ok ()
  else do
    let id ← uuid amb targetId
    require ((db.users.find? (within id tenantId)).map (fun row => row.role) ≠ some .owner)
      (.message "관리자 계정은 관리자 본인만 변경할 수 있습니다")

/-- `assertEmailAvailable`. -/
def assertEmailAvailable (db : Tables amb) (email : String) : Except Thrown Unit := do
  let norm := amb.toLowerCase (jsTrim email)
  require (storable norm) .database
  require (¬ db.users.any fun row => amb.sqlLower row.email == norm)
    (.message "이미 사용 중인 아이디입니다. 다른 아이디(email)를 사용하세요.")

/-- The refusal of one more active account. -/
def noSeat (used maxSeats : Nat) : Thrown :=
  .message ("좌석이 부족합니다 (사용 " ++ toString used ++ " / 보유 " ++ toString maxSeats ++
    "석). 좌석을 추가 구매하려면 문의하세요.")

/-- The active accounts of a company, less an excluded one. -/
def Tables.seated (db : Tables amb) (tenantId : Nat) (excluded : Option Nat) : Nat :=
  db.users.countP fun row => row.tenantId == tenantId && row.isActive && excluded != some row.id

/-- The seats of a company, one if it has no row. -/
def Tables.maxSeats (db : Tables amb) (tenantId : Nat) : Nat :=
  ((db.tenants.find? fun tenant => tenant.id == tenantId).map Tenant.maxSeats).getD 1

/-- `assertSeatAvailable`; empty text excludes nothing. -/
def assertSeatAvailable (db : Tables amb) (tenantId : Nat) (excludeUserId : Option String) :
    Except Thrown Unit := do
  let excluded ← match excludeUserId with
    | some text => if text = "" then .ok none else (uuid amb text).map some
    | none => .ok none
  require (db.seated tenantId excluded < db.maxSeats tenantId)
    (noSeat (db.seated tenantId excluded) (db.maxSeats tenantId))

/-- The fields of a form; one that it lacks is `null`. -/
structure FormData where
  email : Option String := none
  displayName : Option String := none
  password : Option String := none
  newPassword : Option String := none
  role : Option String := none
  isActive : Option String := none

/-- `String(formData.get("displayName") ?? "").trim()`. -/
def FormData.name (form : FormData) : String := jsTrim (form.displayName.getD "")

/-- `formData.get("isActive") === "on"`. -/
def FormData.active (form : FormData) : Bool := form.isActive == some "on"

/-- `STORABLE_ROLES`. -/
def storableRole : String → Option Role
  | "owner" => some .owner
  | "admin" => some .admin
  | "operator" => some .operator
  | "viewer" => some .viewer
  | _ => none

/-- The role that the form asks for, `operator` if it has none. -/
def FormData.storedRole (form : FormData) : Except Thrown Role :=
  orThrow (storableRole (form.role.getD "operator")) (.message "잘못된 역할")

/-- What an audit entry tells about its action. -/
inductive AuditMetadata
  /-- The new account. -/
  | created (email : String) (role : Role)
  /-- The role and the state before and after. -/
  | changed (fromRole : Role) (fromActive : Bool) (toRole : Role) (toActive : Bool)
deriving DecidableEq, Repr

/-- The actions on accounts that are audited. -/
inductive AuditAction
  | userCreate
  | userDelete
  | userRoleChange
  | userPasswordReset
deriving DecidableEq, Repr

/-- An entry that `writeAudit` is asked to write. -/
structure AuditEntry where
  action : AuditAction
  tenantId : Nat
  userId : Nat
  targetId : String
  metadata : Option AuditMetadata := none
deriving DecidableEq, Repr

/-- An action that did not throw. -/
structure Done (amb : Ambient) where
  tables : Tables amb
  audit : Option AuditEntry := none

/-- The checks of the form of a new account, in the order of `createUser`. -/
def FormData.newAccount (form : FormData) : Except Thrown Unit := do
  require (jsTrim (form.email.getD "") ≠ "") (.message "아이디 필수")
  require (form.name ≠ "") (.message "이름 필수")
  require (4 ≤ jsLength (form.password.getD "")) (.message "비번 4자 이상")

/-- The row of a new account. -/
def FormData.row (form : FormData) (now id tenantId : Nat) (role : Role) (hash : String) : Account :=
  { id, tenantId, email := jsTrim (form.email.getD ""), passwordHash := hash, role,
    isActive := true, displayName := form.name, updatedAt := now }

/-- An update of one account; PostgreSQL refuses text that it cannot store. -/
def Tables.editUser (db : Tables amb) (id tenantId : Nat) (edit : Edit) (now : Nat) :
    Except Thrown (Tables amb) := do
  require (storable (edit.displayName.getD "")) .database
  return db.editUsers (within id tenantId) edit now

/-- `createUser`; `hash` is what `bcrypt` makes of the password and `newId` the drawn key. -/
def createUser (now : Nat) (db : Tables amb) (caller : Option Nat) (form : FormData)
    (hash : String) (newId : Nat) : Except Thrown (Done amb) := do
  let me ← requireAccountManager db caller
  form.newAccount
  let role ← form.storedRole
  assertEmailAvailable db (jsTrim (form.email.getD ""))
  assertSeatAvailable db me.tenantId none
  let row := form.row now newId me.tenantId role hash
  let tables ← db.insertUser row
  return { tables, audit := some ⟨.userCreate, me.tenantId, me.id, amb.uuidText newId,
    some (.created row.email role)⟩ }

/-- The audit entry of an update, where it changes the role or the state. -/
def roleChange (before : Option Account) (me : Account) (id : String) (role : Role)
    (isActive : Bool) : Option AuditEntry :=
  before.bind fun row =>
    if row.role ≠ role ∨ row.isActive ≠ isActive then
      some ⟨.userRoleChange, me.tenantId, me.id, id,
        some (.changed row.role row.isActive role isActive)⟩
    else none

/-- `updateUser`. -/
def updateUser (now : Nat) (db : Tables amb) (caller : Option Nat) (id : String)
    (form : FormData) : Except Thrown (Done amb) := do
  let me ← requireAccountManager db caller
  assertMayTouchTarget db me id me.tenantId
  require (form.name ≠ "") (.message "이름 필수")
  let role ← form.storedRole
  if id = amb.uuidText me.id then
    -- The own row keeps its role and its state.
    let target ← uuid amb id
    let tables ← db.editUser target me.tenantId { displayName := some form.name } now
    return { tables }
  else
    (if form.active then assertSeatAvailable db me.tenantId (some id) else .ok ())
    let target ← uuid amb id
    let before := db.users.find? (within target me.tenantId)
    let tables ← db.editUser target me.tenantId
      { displayName := some form.name, role := some role, isActive := some form.active } now
    return {
      tables := if form.active then tables else tables.revokeSeat target
      audit := roleChange before me id role form.active }

/-- `resetPassword`; `hash` is what `bcrypt` makes of the new password. -/
def resetPassword (now : Nat) (db : Tables amb) (caller : Option Nat) (id : String)
    (form : FormData) (hash : String) : Except Thrown (Done amb) := do
  let me ← requireAccountManager db caller
  assertMayTouchTarget db me id me.tenantId
  require (4 ≤ jsLength (form.newPassword.getD "")) (.message "새 비번 4자 이상")
  let target ← uuid amb id
  let tables ← db.editUser target me.tenantId { passwordHash := some hash } now
  return {
    tables := tables.revokeSeat target
    audit := some ⟨.userPasswordReset, me.tenantId, me.id, id, none⟩ }

/-- `deleteUser`. -/
def deleteUser (db : Tables amb) (caller : Option Nat) (id : String) :
    Except Thrown (Done amb) := do
  let me ← requireAccountManager db caller
  require (id ≠ amb.uuidText me.id) (.message "본인은 삭제 불가")
  assertMayTouchTarget db me id me.tenantId
  let target ← uuid amb id
  return {
    tables := db.deleteUsers (within target me.tenantId)
    audit := some ⟨.userDelete, me.tenantId, me.id, id, none⟩ }

/-- `adminCreateUser`. -/
def adminCreateUser (now : Nat) (db : Tables amb) (caller : Option Nat) (tenantId : String)
    (form : FormData) (hash : String) (newId : Nat) : Except Thrown (Done amb) := do
  let _ ← requireSuperAdmin db caller
  let role ← form.storedRole
  form.newAccount
  assertEmailAvailable db (jsTrim (form.email.getD ""))
  let tenant ← uuid amb tenantId
  let tables ← db.insertUser (form.row now newId tenant role hash)
  return { tables }

/-- `adminUpdateUser`. -/
def adminUpdateUser (now : Nat) (db : Tables amb) (caller : Option Nat) (tenantId userId : String)
    (form : FormData) : Except Thrown (Done amb) := do
  let _ ← requireSuperAdmin db caller
  let role ← form.storedRole
  require (form.name ≠ "") (.message "이름 필수")
  let tenant ← uuid amb tenantId
  let target ← uuid amb userId
  let tables ← db.editUser target tenant
    { displayName := some form.name, role := some role, isActive := some form.active } now
  return { tables := if form.active then tables else tables.revokeSeat target }

/-- `adminResetUserPassword`. -/
def adminResetUserPassword (now : Nat) (db : Tables amb) (caller : Option Nat)
    (tenantId userId : String) (form : FormData) (hash : String) : Except Thrown (Done amb) := do
  let _ ← requireSuperAdmin db caller
  require (4 ≤ jsLength (form.newPassword.getD "")) (.message "새 비번 4자 이상")
  let tenant ← uuid amb tenantId
  let target ← uuid amb userId
  let tables ← db.editUser target tenant { passwordHash := some hash } now
  return { tables := tables.revokeSeat target }

/-- The owners of a company, active or not. -/
def Tables.owners (db : Tables amb) (tenantId : Nat) : Nat :=
  db.users.countP fun row => row.tenantId == tenantId && row.role == .owner

/-- `adminDeleteUser`. -/
def adminDeleteUser (db : Tables amb) (caller : Option Nat) (tenantId userId : String) :
    Except Thrown (Done amb) := do
  let _ ← requireSuperAdmin db caller
  let tenant ← uuid amb tenantId
  let target ← uuid amb userId
  let row ← orThrow (db.users.find? (within target tenant))
    (.message "해당 회사의 사용자가 아닙니다")
  require (row.role = .owner → 1 < db.owners tenant)
    (.message "회사의 마지막 오너는 삭제할 수 없습니다 (다른 오너 지정 후 삭제)")
  return { tables := db.deleteUsers (within target tenant) }

/-- The actions of a manager. -/
inductive Call
  | createUser (form : FormData) (hash : String) (newId : Nat)
  | updateUser (id : String) (form : FormData)
  | resetPassword (id : String) (form : FormData) (hash : String)
  | deleteUser (id : String)

/-- Run an action of a manager. -/
def Call.run (now : Nat) (db : Tables amb) (caller : Option Nat) : Call → Except Thrown (Done amb)
  | .createUser form hash newId => Accounts.createUser now db caller form hash newId
  | .updateUser id form => Accounts.updateUser now db caller id form
  | .resetPassword id form hash => Accounts.resetPassword now db caller id form hash
  | .deleteUser id => Accounts.deleteUser db caller id

/-- The tables after an action. -/
def settled (db : Tables amb) (result : Except Thrown (Done amb)) : Tables amb :=
  match result with
  | .ok done => done.tables
  | .error _ => db

section Actions

variable {now : Nat} {db tables : Tables amb} {caller : Option Nat} {me : Account}
  {id hash : String} {form : FormData}

theorem uuid_eq_ok {n : Nat} : uuid amb id = .ok n ↔ amb.readUuid id = some n := orThrow_eq_ok

/-- The caller of an action is an active account. -/
theorem requireLiveUser_ok (live : requireLiveUserOrThrow db caller = .ok me) :
    me ∈ db.users ∧ caller = some me.id ∧ me.isActive = true := by
  have found := orThrow_eq_ok.mp live
  unfold getLiveUser at found
  obtain ⟨key, called, found⟩ := Option.bind_eq_some_iff.mp found
  obtain ⟨row, first, found⟩ := Option.bind_eq_some_iff.mp found
  obtain ⟨tenant, -, found⟩ := Option.bind_eq_some_iff.mp found
  split at found
  · rename_i open'
    obtain rfl := Option.some.inj found
    have same : row.id = key := by simpa using List.find?_some first
    exact ⟨List.mem_of_find?_eq_some first, by rw [called, same], open'.1⟩
  · cases found

theorem requireAccountManager_ok (manager : requireAccountManager db caller = .ok me) :
    requireLiveUserOrThrow db caller = .ok me ∧ canManageAccounts me.role = true := by
  obtain ⟨row, live, rest⟩ := returns_bind_iff.mp manager
  rw [require_bind_eq_ok] at rest
  obtain ⟨allowed, same⟩ := rest
  obtain rfl : row = me := Except.ok.inj same
  exact ⟨live, allowed⟩

theorem editUser_eq_ok {target tenantId : Nat} {edit : Edit} :
    db.editUser target tenantId edit now = .ok tables ↔
      storable (edit.displayName.getD "") = true ∧
        db.editUsers (within target tenantId) edit now = tables := by
  unfold Tables.editUser
  rw [require_bind_eq_ok]
  simp [pure, Except.pure]

/-- What the form sets in the row of an account. -/
def FormData.edit (form : FormData) (role : Role) : Edit :=
  { displayName := some form.name, role := some role, isActive := some form.active }

/-- Everything that `updateUser` can do. -/
theorem updateUser_ok_iff :
    (∃ audit, updateUser now db caller id form = .ok ⟨tables, audit⟩) ↔
      ∃ me role target, requireAccountManager db caller = .ok me ∧
        assertMayTouchTarget db me id me.tenantId = .ok () ∧ form.name ≠ "" ∧
        storable form.name = true ∧ form.storedRole = .ok role ∧ amb.readUuid id = some target ∧
        (id = amb.uuidText me.id ∧
            db.editUsers (within target me.tenantId) { displayName := some form.name } now =
              tables ∨
          id ≠ amb.uuidText me.id ∧
            (form.active = true → assertSeatAvailable db me.tenantId (some id) = .ok ()) ∧
            (if form.active then db.editUsers (within target me.tenantId) (form.edit role) now
              else (db.editUsers (within target me.tenantId) (form.edit role) now).revokeSeat
                target) = tables) := by
  unfold updateUser
  simp only [returns_bind_iff, require_eq_ok, exists_const]
  constructor
  · rintro ⟨audit, me, manager, ⟨⟩, touch, named, role, stored, rest⟩
    refine ⟨me, role, ?_⟩
    split at rest
    · rename_i own
      simp only [returns_bind_iff, uuid_eq_ok, editUser_eq_ok] at rest
      obtain ⟨target, read, _, ⟨stores, rfl⟩, same⟩ := rest
      cases same
      exact ⟨target, manager, touch, named, stores, stored, read, .inl ⟨own, rfl⟩⟩
    · rename_i other
      simp only [returns_bind_iff, uuid_eq_ok, editUser_eq_ok] at rest
      obtain ⟨⟨⟩, seat, target, read, _, ⟨stores, rfl⟩, same⟩ := rest
      cases same
      refine ⟨target, manager, touch, named, stores, stored, read, .inr ⟨other, ?_, rfl⟩⟩
      intro active
      rw [if_pos active] at seat
      exact seat
  · rintro ⟨me, role, target, manager, touch, named, stores, stored, read, own | other⟩
    · refine ⟨none, me, manager, (), touch, named, role, stored, ?_⟩
      rw [if_pos own.1]
      simp only [returns_bind_iff, uuid_eq_ok, editUser_eq_ok]
      exact ⟨target, read, _, ⟨stores, own.2⟩, rfl⟩
    · refine ⟨roleChange (db.users.find? (within target me.tenantId)) me id role form.active,
        me, manager, (), touch, named, role, stored, ?_⟩
      rw [if_neg other.1]
      simp only [returns_bind_iff, uuid_eq_ok, editUser_eq_ok]
      refine ⟨(), ?_, target, read, _, ⟨stores, rfl⟩, ?_⟩
      · split
        · rename_i active
          exact other.2.1 active
        · rfl
      · rw [← other.2.2]
        rfl

/-- Everything that `resetPassword` can do. -/
theorem resetPassword_ok_iff :
    (∃ audit, resetPassword now db caller id form hash = .ok ⟨tables, audit⟩) ↔
      ∃ me target, requireAccountManager db caller = .ok me ∧
        assertMayTouchTarget db me id me.tenantId = .ok () ∧
        4 ≤ jsLength (form.newPassword.getD "") ∧ amb.readUuid id = some target ∧
        (db.editUsers (within target me.tenantId) { passwordHash := some hash } now).revokeSeat
          target = tables := by
  unfold resetPassword
  simp only [returns_bind_iff, require_eq_ok, exists_const, uuid_eq_ok, editUser_eq_ok]
  constructor
  · rintro ⟨audit, me, manager, ⟨⟩, touch, long, target, read, _, ⟨-, rfl⟩, same⟩
    cases same
    exact ⟨me, target, manager, touch, long, read, rfl⟩
  · rintro ⟨me, target, manager, touch, long, read, rfl⟩
    exact ⟨_, me, manager, (), touch, long, target, read, _, ⟨by decide, rfl⟩, rfl⟩

/-- Everything that `deleteUser` can do. -/
theorem deleteUser_ok_iff :
    (∃ audit, deleteUser db caller id = .ok ⟨tables, audit⟩) ↔
      ∃ me target, requireAccountManager db caller = .ok me ∧ id ≠ amb.uuidText me.id ∧
        assertMayTouchTarget db me id me.tenantId = .ok () ∧ amb.readUuid id = some target ∧
        db.deleteUsers (within target me.tenantId) = tables := by
  unfold deleteUser
  simp only [returns_bind_iff, require_eq_ok, exists_const, uuid_eq_ok]
  constructor
  · rintro ⟨audit, me, manager, other, ⟨⟩, touch, target, read, same⟩
    cases same
    exact ⟨me, target, manager, other, touch, read, rfl⟩
  · rintro ⟨me, target, manager, other, touch, read, rfl⟩
    exact ⟨_, me, manager, other, (), touch, target, read, rfl⟩

theorem insertUser_ok {row : Account} (inserted : db.insertUser row = .ok tables) :
    tables.users = row :: db.users ∧ tables.sessions = db.sessions := by
  unfold Tables.insertUser at inserted
  split at inserted
  · cases inserted
    exact ⟨rfl, rfl⟩
  · cases inserted

/-- `createUser` adds one account to the company of its caller. -/
theorem createUser_ok {newId : Nat} {done : Done amb}
    (created : createUser now db caller form hash newId = .ok done) :
    ∃ me row, requireAccountManager db caller = .ok me ∧ row.tenantId = me.tenantId ∧
      done.tables.users = row :: db.users ∧ done.tables.sessions = db.sessions := by
  unfold createUser at created
  simp only [returns_bind_iff] at created
  obtain ⟨me, manager, -, -, role, -, -, -, -, -, tables, inserted, same⟩ := created
  cases same
  exact ⟨me, form.row now newId me.tenantId role hash, manager, rfl, insertUser_ok inserted⟩

end Actions

/-- The account belongs to another company. -/
def Tables.elsewhere (db : Tables amb) (tenantId userId : Nat) : Bool :=
  db.users.any fun row => row.id == userId && row.tenantId != tenantId

/-- The accounts of other companies and their seats are the same rows. -/
structure Isolated (tenantId : Nat) (db after : Tables amb) : Prop where
  users : (after.users.filter fun row => row.tenantId != tenantId) =
    db.users.filter fun row => row.tenantId != tenantId
  seats : (after.sessions.filter fun seat => db.elsewhere tenantId seat.userId) =
    db.sessions.filter fun seat => db.elsewhere tenantId seat.userId

section Isolation

variable {now tenantId target : Nat} {db after : Tables amb}

/-- A write of accounts of the company leaves the others. -/
theorem editUsers_isolated (edit : Edit) :
    Isolated tenantId db (db.editUsers (within target tenantId) edit now) where
  users := by
    apply filter_updateWhere
    intro row _ hit
    have home : row.tenantId = tenantId := by
      simp only [within, Bool.and_eq_true, beq_iff_eq] at hit
      exact hit.2
    have kept : (edit.set now row).tenantId = tenantId := home
    simp [home, kept]
  seats := rfl

theorem deleteUsers_isolated : Isolated tenantId db (db.deleteUsers (within target tenantId)) where
  users := by
    unfold Tables.deleteUsers
    rw [List.filter_filter]
    apply List.filter_congr
    intro row _
    by_cases home : row.tenantId = tenantId
    · simp [home]
    · simp [home, within]
  seats := by
    unfold Tables.deleteUsers
    rw [List.filter_filter]
    apply List.filter_congr
    intro seat _
    rw [Bool.and_eq_left_iff_imp]
    intro away
    obtain ⟨row, member, kept⟩ := List.any_eq_true.mp away
    simp only [Bool.and_eq_true, beq_iff_eq, bne_iff_ne] at kept
    refine List.any_eq_true.mpr ⟨row, member, ?_⟩
    simp [kept.1, kept.2, within]

theorem insert_isolated {row : Account} (home : row.tenantId = tenantId)
    (users : after.users = row :: db.users) (sessions : after.sessions = db.sessions) :
    Isolated tenantId db after where
  users := by
    rw [users]
    simp [home]
  seats := by rw [sessions]

/-- A revoked seat is foreign exactly if it is one of the rows that have to stay. -/
theorem revokeSeat_isolated_iff (isolated : Isolated tenantId db after)
    (same : after.sessions = db.sessions) :
    Isolated tenantId db (after.revokeSeat target) ↔
      ¬ (db.elsewhere tenantId target = true ∧ ∃ seat ∈ db.sessions, seat.userId = target) := by
  have swap : ((after.revokeSeat target).sessions.filter fun seat =>
      db.elsewhere tenantId seat.userId) =
      (db.sessions.filter fun seat => db.elsewhere tenantId seat.userId).filter
        fun seat => seat.userId != target := by
    rw [← same, List.filter_comm]
    rfl
  constructor
  · intro whole
    rintro ⟨away, seat, member, rfl⟩
    have kept := whole.seats
    rw [swap, List.filter_eq_self] at kept
    have own := kept seat (List.mem_filter.mpr ⟨member, away⟩)
    simp at own
  · intro none
    refine ⟨isolated.users, ?_⟩
    rw [swap, List.filter_eq_self]
    intro seat inside
    obtain ⟨member, away⟩ := List.mem_filter.mp inside
    rw [bne_iff_ne]
    rintro rfl
    exact none ⟨away, seat, member, rfl⟩

/-- The text names an account of another company that holds a seat. -/
def ForeignSeat (db : Tables amb) (me : Account) (id : String) : Prop :=
  ∃ row ∈ db.users, amb.readUuid id = some row.id ∧ row.tenantId ≠ me.tenantId ∧
    ∃ seat ∈ db.sessions, seat.userId = row.id

/-- The call passes its checks and names an account of another company that holds a seat. -/
def UnseatsForeign (db : Tables amb) (me : Account) : Call → Prop
  | .updateUser id form =>
    id ≠ amb.uuidText me.id ∧ form.active = false ∧ form.name ≠ "" ∧ storable form.name = true ∧
      (storableRole (form.role.getD "operator")).isSome = true ∧ ForeignSeat db me id
  | .resetPassword id form _ => 4 ≤ jsLength (form.newPassword.getD "") ∧ ForeignSeat db me id
  | .createUser .. | .deleteUser _ => False

/-- The target of a foreign account is in no check of the own company. -/
theorem mayTouch_of_elsewhere {me : Account} {id : String} (read : amb.readUuid id = some target)
    (away : db.elsewhere me.tenantId target = true) :
    assertMayTouchTarget db me id me.tenantId = .ok () := by
  obtain ⟨row, member, kept⟩ := List.any_eq_true.mp away
  simp only [Bool.and_eq_true, beq_iff_eq, bne_iff_ne] at kept
  have absent : db.users.find? (within target me.tenantId) = none := by
    rw [List.find?_eq_none]
    intro other inside hit
    simp only [within, Bool.and_eq_true, beq_iff_eq] at hit
    have same := eq_of_key db.valid.ids inside member (hit.1.trans kept.1.symm)
    exact kept.2 (same ▸ hit.2)
  unfold assertMayTouchTarget
  split
  · rfl
  · rw [returns_bind_iff]
    refine ⟨target, uuid_eq_ok.mpr read, require_eq_ok.mpr ?_⟩
    rw [absent]
    nofun

theorem foreignSeat_iff {me : Account} {id : String} (read : amb.readUuid id = some target) :
    ForeignSeat db me id ↔
      db.elsewhere me.tenantId target = true ∧ ∃ seat ∈ db.sessions, seat.userId = target := by
  constructor
  · rintro ⟨row, member, same, away, held⟩
    obtain rfl : target = row.id := Option.some.inj (read.symm.trans same)
    exact ⟨List.any_eq_true.mpr ⟨row, member, by simp [away]⟩, held⟩
  · rintro ⟨away, held⟩
    obtain ⟨row, member, kept⟩ := List.any_eq_true.mp away
    simp only [Bool.and_eq_true, beq_iff_eq, bne_iff_ne] at kept
    obtain ⟨rfl, other⟩ := kept
    exact ⟨row, member, read, other, held⟩

theorem settled_cases (db : Tables amb) (result : Except Thrown (Done amb)) :
    settled db result = db ∨ ∃ audit, result = .ok ⟨settled db result, audit⟩ := by
  cases result with
  | error thrown => exact .inl rfl
  | ok done => exact .inr ⟨done.audit, rfl⟩

theorem settled_ok {result : Except Thrown (Done amb)} {audit : Option AuditEntry}
    (done : result = .ok ⟨after, audit⟩) : settled db result = after := by
  rw [done]
  rfl

theorem isolated_refl (db : Tables amb) : Isolated tenantId db db := ⟨rfl, rfl⟩

/-- A manager that `requireAccountManager` accepts is the account of the session. -/
theorem manager_unique {me row : Account} (member : me ∈ db.users)
    (manager : requireAccountManager db (some me.id) = .ok row) : row = me := by
  have caller := requireLiveUser_ok (requireAccountManager_ok manager).1
  exact eq_of_key db.valid.ids caller.1 member (Option.some.inj caller.2.1).symm

/-- A seat of another company goes where the call passes its checks. -/
theorem not_isolated_of_unseats {me : Account} {call : Call}
    (manager : requireAccountManager db (some me.id) = .ok me)
    (strikes : UnseatsForeign db me call) :
    ¬ Isolated me.tenantId db (settled db (call.run now db (some me.id))) := by
  cases call with
  | createUser form hash newId => exact strikes.elim
  | deleteUser id => exact strikes.elim
  | updateUser id form =>
    obtain ⟨other, inactive, named, stores, known, seat⟩ := strikes
    obtain ⟨row, member, read, away, held⟩ := seat
    have foreign := (foreignSeat_iff read).mp ⟨row, member, read, away, held⟩
    obtain ⟨role, stored⟩ := Option.isSome_iff_exists.mp known
    unfold Call.run
    obtain ⟨audit, done⟩ : ∃ audit, updateUser now db (some me.id) id form = .ok ⟨_, audit⟩ :=
      updateUser_ok_iff.mpr ⟨me, role, row.id, manager, mayTouch_of_elsewhere read foreign.1,
        named, stores, orThrow_eq_ok.mpr stored, read, .inr ⟨other, by simp [inactive], rfl⟩⟩
    rw [settled_ok done, inactive, if_neg Bool.false_ne_true,
      revokeSeat_isolated_iff (editUsers_isolated _) rfl]
    exact not_not_intro foreign
  | resetPassword id form hash =>
    obtain ⟨long, seat⟩ := strikes
    obtain ⟨row, member, read, away, held⟩ := seat
    have foreign := (foreignSeat_iff read).mp ⟨row, member, read, away, held⟩
    unfold Call.run
    obtain ⟨audit, done⟩ :
        ∃ audit, resetPassword now db (some me.id) id form hash = .ok ⟨_, audit⟩ :=
      resetPassword_ok_iff.mpr
        ⟨me, row.id, manager, mayTouch_of_elsewhere read foreign.1, long, read, rfl⟩
    rw [settled_ok done, revokeSeat_isolated_iff (editUsers_isolated _) rfl]
    exact not_not_intro foreign

/-- Every other call keeps the rows of other companies. -/
theorem isolated_of_not_unseats {me : Account} {call : Call} (member : me ∈ db.users)
    (spares : ¬ (requireAccountManager db (some me.id) = .ok me ∧ UnseatsForeign db me call)) :
    Isolated me.tenantId db (settled db (call.run now db (some me.id))) := by
  rcases settled_cases db (call.run now db (some me.id)) with same | ⟨audit, done⟩
  · rw [same]
    exact isolated_refl db
  · generalize settled db (call.run now db (some me.id)) = after at done
    cases call with
    | createUser form hash newId =>
      obtain ⟨row, created, manager, home, users, sessions⟩ := createUser_ok done
      obtain rfl := manager_unique member manager
      exact insert_isolated home users sessions
    | deleteUser id =>
      obtain ⟨row, target, manager, -, -, -, rfl⟩ := deleteUser_ok_iff.mp ⟨audit, done⟩
      obtain rfl := manager_unique member manager
      exact deleteUsers_isolated
    | updateUser id form =>
      obtain ⟨row, role, target, manager, -, named, stores, stored, read, own | other⟩ :=
        updateUser_ok_iff.mp ⟨audit, done⟩
      · obtain rfl := manager_unique member manager
        rw [← own.2]
        exact editUsers_isolated _
      · obtain rfl := manager_unique member manager
        obtain ⟨distinct, -, rfl⟩ := other
        cases active : form.active with
        | true =>
          rw [if_pos rfl]
          exact editUsers_isolated _
        | false =>
          rw [if_neg Bool.false_ne_true, revokeSeat_isolated_iff (editUsers_isolated _) rfl,
            ← foreignSeat_iff read]
          intro foreign
          have known : (storableRole (form.role.getD "operator")).isSome = true := by
            rw [orThrow_eq_ok.mp stored]
            rfl
          exact spares ⟨manager, distinct, active, named, stores, known, foreign⟩
    | resetPassword id form hash =>
      obtain ⟨row, target, manager, -, long, read, rfl⟩ := resetPassword_ok_iff.mp ⟨audit, done⟩
      obtain rfl := manager_unique member manager
      rw [revokeSeat_isolated_iff (editUsers_isolated _) rfl, ← foreignSeat_iff read]
      intro foreign
      exact spares ⟨manager, long, foreign⟩

/-- A call leaves the accounts and seats of the companies other than the caller's exactly if it
does not pass its checks with the name of a foreign account that holds a seat. -/
theorem isolated_iff (amb : Ambient) (now : Nat) (db : Tables amb) (me : Account) (call : Call)
    (member : me ∈ db.users) :
    Isolated me.tenantId db (settled db (call.run now db (some me.id))) ↔
      ¬ (requireAccountManager db (some me.id) = .ok me ∧ UnseatsForeign db me call) := by
  constructor
  · intro isolated strikes
    exact not_isolated_of_unseats strikes.1 strikes.2 isolated
  · intro spares
    exact isolated_of_not_unseats member spares

end Isolation

/-- Keys and their texts, as PostgreSQL prints and reads them. -/
def sampleAmbient : Ambient where
  sqlLower := id
  toLowerCase := id
  readUuid text := [1, 2, 3].find? fun n =>
    text == "00000000-0000-4000-8000-00000000000" ++ toString n
  uuidText n := "00000000-0000-4000-8000-00000000000" ++ toString n

/-- An owner in the first company. -/
def firstOwner : Account :=
  { id := 1, tenantId := 1, email := "kim", passwordHash := "x", role := .owner, isActive := true,
    displayName := "Kim", updatedAt := 0 }

/-- An owner in the second company. -/
def secondOwner : Account :=
  { firstOwner with id := 2, tenantId := 2, email := "lee", displayName := "Lee" }

/-- Two companies with an owner each, of whom the second is logged in. -/
def twoCompanies : Tables sampleAmbient where
  users := [firstOwner, secondOwner]
  tenants := [⟨1, true, true, 5⟩, ⟨2, true, true, 5⟩]
  sessions := [⟨2, 7, "pc", none, none, 0, 0⟩]
  valid := ⟨by decide, by decide, by decide, by decide, by decide⟩

/-- A deletion that names a foreign account changes nothing of the other company. -/
theorem deleteUser_isolated_twoCompanies :
    Isolated 1 twoCompanies (settled twoCompanies
      (Call.run 5 twoCompanies (some 1) (.deleteUser (sampleAmbient.uuidText 2)))) := by
  apply (isolated_iff sampleAmbient 5 twoCompanies firstOwner
    (.deleteUser (sampleAmbient.uuidText 2)) (by decide)).mpr
  intro strikes
  exact strikes.2

/-- A password reset by the owner of one company logs the owner of another one out. -/
theorem resetPassword_unseats_twoCompanies :
    firstOwner ∈ twoCompanies.users ∧ firstOwner.role ≠ .superAdmin ∧
      ¬ Isolated firstOwner.tenantId twoCompanies (settled twoCompanies
        (Call.run 5 twoCompanies (some firstOwner.id)
          (.resetPassword (sampleAmbient.uuidText 2) { newPassword := some "1234" } "y"))) := by
  refine ⟨by decide, by decide, ?_⟩
  intro isolated
  have seats := isolated.seats
  revert seats
  decide +kernel

end ChainRemote.Panel.Accounts
