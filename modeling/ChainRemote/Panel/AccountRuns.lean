import ChainRemote.Lib.Machine
import ChainRemote.Panel.Accounts

/-!
# The managers of a company

Runs of the eight actions on accounts, each as one step. A company is managed while it has an
active owner or admin. An owner or admin who calls an action stays one, but the platform operator
may demote, deactivate or delete the last one, and a caller may do so to the own account by
another spelling of its key.
-/

namespace ChainRemote.Panel.Accounts

open Lib Seats

variable {amb : Ambient}

/-- The actions of the platform operator. -/
inductive AdminCall
  | adminCreateUser (tenantId : String) (form : FormData) (hash : String) (newId : Nat)
  | adminUpdateUser (tenantId userId : String) (form : FormData)
  | adminResetUserPassword (tenantId userId : String) (form : FormData) (hash : String)
  | adminDeleteUser (tenantId userId : String)

/-- Run an action of the platform operator. -/
def AdminCall.run (now : Nat) (db : Tables amb) (caller : Option Nat) :
    AdminCall → Except Thrown (Done amb)
  | .adminCreateUser tenantId form hash newId =>
    Accounts.adminCreateUser now db caller tenantId form hash newId
  | .adminUpdateUser tenantId userId form =>
    Accounts.adminUpdateUser now db caller tenantId userId form
  | .adminResetUserPassword tenantId userId form hash =>
    Accounts.adminResetUserPassword now db caller tenantId userId form hash
  | .adminDeleteUser tenantId userId => Accounts.adminDeleteUser db caller tenantId userId

/-- A request: an action at some time from some session. -/
inductive Request
  | manager (caller : Option Nat) (now : Nat) (call : Call)
  | operator (caller : Option Nat) (now : Nat) (call : AdminCall)

/-- The tables after a request. -/
def Request.apply (db : Tables amb) : Request → Tables amb
  | .manager caller now call => settled db (call.run now db caller)
  | .operator caller now call => settled db (call.run now db caller)

/-- An active owner or admin. -/
def Account.Manages (row : Account) (tenantId : Nat) : Prop :=
  row.tenantId = tenantId ∧ row.isActive = true ∧ (row.role = .owner ∨ row.role = .admin)

instance (row : Account) (tenantId : Nat) : Decidable (row.Manages tenantId) :=
  inferInstanceAs (Decidable (_ ∧ _))

/-- The company has an active owner or admin. -/
def Managed (tenantId : Nat) (db : Tables amb) : Prop := ∃ row ∈ db.users, row.Manages tenantId

/-- The requests, from tables in which the company has an active owner. -/
def accounts (amb : Ambient) (tenantId : Nat) : Machine (Tables amb) Request where
  start db := ∃ row ∈ db.users, row.tenantId = tenantId ∧ row.isActive = true ∧ row.role = .owner
  step db request := some (request.apply db)

/-- The only active owner or admin of the company. -/
def OnlyManager (db : Tables amb) (tenantId : Nat) (last : Account) : Prop :=
  last ∈ db.users ∧ last.Manages tenantId ∧
    ∀ row ∈ db.users, row.Manages tenantId → row = last

/-- The form takes the management from an account, and its texts are accepted. -/
def FormData.Demotes (form : FormData) : Prop :=
  form.name ≠ "" ∧ storable form.name = true ∧
    ∃ role, storableRole (form.role.getD "operator") = some role ∧
      (form.active = false ∨ role ≠ .owner ∧ role ≠ .admin)

/-- The request demotes, deactivates or deletes this account of the company, and no check of the
action refuses it. -/
def Request.Removes (db : Tables amb) (tenantId : Nat) (last : Account) : Request → Prop
  | .manager caller _ (.updateUser id form) =>
    ∃ me, requireAccountManager db caller = .ok me ∧ me.tenantId = tenantId ∧
      amb.readUuid id = some last.id ∧ id ≠ amb.uuidText me.id ∧ form.Demotes ∧
      (form.active = true → assertSeatAvailable db tenantId (some id) = .ok ())
  | .manager caller _ (.deleteUser id) =>
    ∃ me, requireAccountManager db caller = .ok me ∧ me.tenantId = tenantId ∧
      amb.readUuid id = some last.id ∧ id ≠ amb.uuidText me.id
  | .operator caller _ (.adminUpdateUser tenant user form) =>
    (∃ me, requireSuperAdmin db caller = .ok me) ∧ amb.readUuid tenant = some tenantId ∧
      amb.readUuid user = some last.id ∧ form.Demotes
  | .operator caller _ (.adminDeleteUser tenant user) =>
    (∃ me, requireSuperAdmin db caller = .ok me) ∧ amb.readUuid tenant = some tenantId ∧
      amb.readUuid user = some last.id ∧ (last.role = .owner → 1 < db.owners tenantId)
  | _ => False

/-- The request does not remove the last manager of the company. -/
def Spares (tenantId : Nat) (db : Tables amb) (request : Request) : Prop :=
  ∀ last, OnlyManager db tenantId last → ¬ request.Removes db tenantId last

section Managers

variable {now tenantId target home : Nat} {db after : Tables amb}

/-- The key and the company select the account itself. -/
theorem within_iff {row : Account} :
    within target home row = true ↔ row.id = target ∧ row.tenantId = home := by
  simp [within]

theorem eq_of_within {row other : Account} (left : within target home row = true)
    (right : within target home other = true) (first : row ∈ db.users) (second : other ∈ db.users) :
    row = other :=
  eq_of_key db.valid.ids first second ((within_iff.mp left).1.trans (within_iff.mp right).1.symm)

/-- An update leaves the company unmanaged exactly if it takes the management from the only
manager. -/
theorem editUsers_managed_iff (managed : Managed tenantId db) (edit : Edit) :
    ¬ Managed tenantId (db.editUsers (within target home) edit now) ↔
      ∃ last, OnlyManager db tenantId last ∧ within target home last = true ∧
        ¬ (edit.set now last).Manages tenantId := by
  constructor
  · intro lost
    -- A manager that the update does not select would remain one.
    have selected : ∀ row ∈ db.users, row.Manages tenantId →
        within target home row = true ∧ ¬ (edit.set now row).Manages tenantId := by
      intro row member manages
      cases hit : within target home row with
      | true =>
        exact ⟨rfl, fun still => lost ⟨_, mem_updateWhere_of_hit member hit, still⟩⟩
      | false => exact absurd ⟨row, mem_updateWhere_of_miss member hit, manages⟩ lost
    obtain ⟨last, member, manages⟩ := managed
    have own := selected last member manages
    refine ⟨last, ⟨member, manages, ?_⟩, own⟩
    intro row inside others
    exact eq_of_within (selected row inside others).1 own.1 inside member
  · rintro ⟨last, ⟨own, -, only⟩, hit, demoted⟩ ⟨row, inside, manages⟩
    rcases mem_updateWhere.mp inside with ⟨old, member, selected, rfl⟩ | ⟨member, miss⟩
    · have same := eq_of_within hit selected own member
      exact demoted (same ▸ manages)
    · obtain rfl := only row member manages
      rw [hit] at miss
      cases miss

/-- A deletion leaves the company unmanaged exactly if it takes the only manager. -/
theorem deleteUsers_managed_iff (managed : Managed tenantId db) :
    ¬ Managed tenantId (db.deleteUsers (within target home)) ↔
      ∃ last, OnlyManager db tenantId last ∧ within target home last = true := by
  constructor
  · intro lost
    have selected : ∀ row ∈ db.users, row.Manages tenantId → within target home row = true := by
      intro row member manages
      cases hit : within target home row with
      | true => rfl
      | false =>
        have kept : row ∈ (db.deleteUsers (within target home)).users :=
          List.mem_filter.mpr ⟨member, by simp [hit]⟩
        exact absurd ⟨row, kept, manages⟩ lost
    obtain ⟨last, member, manages⟩ := managed
    have own := selected last member manages
    refine ⟨last, ⟨member, manages, ?_⟩, own⟩
    intro row inside others
    exact eq_of_within (selected row inside others) own inside member
  · rintro ⟨last, ⟨-, -, only⟩, hit⟩ ⟨row, inside, manages⟩
    obtain ⟨member, kept⟩ := List.mem_filter.mp inside
    obtain rfl := only row member manages
    rw [hit] at kept
    cases kept

/-- A form that is stored takes the management from a manager exactly if it demotes. -/
theorem demotes_iff {form : FormData} {role : Role} {last : Account}
    (manages : last.Manages tenantId) (named : form.name ≠ "") (stores : storable form.name = true)
    (stored : form.storedRole = .ok role) :
    form.Demotes ↔ ¬ ((form.edit role).set now last).Manages tenantId := by
  have known := orThrow_eq_ok.mp stored
  have still : ((form.edit role).set now last).Manages tenantId ↔
      form.active = true ∧ (role = .owner ∨ role = .admin) := by
    have home := manages.1
    constructor
    · exact fun kept => kept.2
    · exact fun kept => ⟨home, kept⟩
  rw [still]
  constructor
  · rintro ⟨-, -, other, known', lost⟩ ⟨active, kept⟩
    obtain rfl := Option.some.inj (known.symm.trans known')
    rcases lost with inactive | lost
    · rw [active] at inactive
      cases inactive
    · exact kept.elim lost.1 lost.2
  · intro lost
    refine ⟨named, stores, role, known, ?_⟩
    cases active : form.active with
    | false => exact .inl rfl
    | true =>
      refine .inr ⟨?_, ?_⟩
      · exact fun owner => lost ⟨active, .inl owner⟩
      · exact fun admin => lost ⟨active, .inr admin⟩

/-- Nothing protects the only manager from a manager of the company. -/
theorem mayTouch_last {caller : Option Nat} {me last : Account} {id : String}
    (manager : requireAccountManager db caller = .ok me) (home : me.tenantId = tenantId)
    (only : OnlyManager db tenantId last) (read : amb.readUuid id = some last.id) :
    assertMayTouchTarget db me id me.tenantId = .ok () := by
  obtain ⟨live, allowed⟩ := requireAccountManager_ok manager
  obtain ⟨member, -, active⟩ := requireLiveUser_ok live
  unfold assertMayTouchTarget
  split
  · rfl
  · rename_i plain
    -- An admin who calls is the only manager.
    have admin : me.role = .admin := by
      cases role : me.role <;> simp_all [canManageAccounts]
    obtain rfl := only.2.2 me member ⟨home, active, .inr admin⟩
    rw [returns_bind_iff]
    refine ⟨me.id, uuid_eq_ok.mpr read, require_eq_ok.mpr ?_⟩
    intro owner
    obtain ⟨row, found, role⟩ := Option.map_eq_some_iff.mp owner
    have same := eq_of_key db.valid.ids (List.mem_of_find?_eq_some found) member
      (within_iff.mp (List.find?_some found)).1
    rw [same, admin] at role
    cases role

/-- Everything that `adminUpdateUser` can do. -/
theorem adminUpdateUser_ok_iff {caller : Option Nat} {tenant user : String} {form : FormData} :
    (∃ audit, adminUpdateUser now db caller tenant user form = .ok ⟨after, audit⟩) ↔
      ∃ me role company account, requireSuperAdmin db caller = .ok me ∧
        form.storedRole = .ok role ∧ form.name ≠ "" ∧ storable form.name = true ∧
        amb.readUuid tenant = some company ∧ amb.readUuid user = some account ∧
        (if form.active then db.editUsers (within account company) (form.edit role) now
          else (db.editUsers (within account company) (form.edit role) now).revokeSeat
            account) = after := by
  unfold adminUpdateUser
  simp only [returns_bind_iff, require_eq_ok, exists_const, uuid_eq_ok, editUser_eq_ok]
  constructor
  · rintro ⟨audit, me, operator, role, stored, named, company, first, account, second, _,
      ⟨stores, rfl⟩, same⟩
    cases same
    exact ⟨me, role, company, account, operator, stored, named, stores, first, second, rfl⟩
  · rintro ⟨me, role, company, account, operator, stored, named, stores, first, second, rfl⟩
    exact ⟨none, me, operator, role, stored, named, company, first, account, second, _,
      ⟨stores, rfl⟩, rfl⟩

/-- Everything that `adminDeleteUser` can do. -/
theorem adminDeleteUser_ok_iff {caller : Option Nat} {tenant user : String} :
    (∃ audit, adminDeleteUser db caller tenant user = .ok ⟨after, audit⟩) ↔
      ∃ me company account row, requireSuperAdmin db caller = .ok me ∧
        amb.readUuid tenant = some company ∧ amb.readUuid user = some account ∧
        db.users.find? (within account company) = some row ∧
        (row.role = .owner → 1 < db.owners company) ∧
        db.deleteUsers (within account company) = after := by
  unfold adminDeleteUser
  simp only [returns_bind_iff, require_eq_ok, exists_const, uuid_eq_ok, orThrow_eq_ok]
  constructor
  · rintro ⟨audit, me, operator, company, first, account, second, row, found, several, same⟩
    cases same
    exact ⟨me, company, account, row, operator, first, second, found, several, rfl⟩
  · rintro ⟨me, company, account, row, operator, first, second, found, several, rfl⟩
    exact ⟨none, me, operator, company, first, account, second, row, found, several, rfl⟩

/-- `adminCreateUser` adds an account. -/
theorem adminCreateUser_ok {caller : Option Nat} {tenant hash : String} {form : FormData}
    {newId : Nat} {done : Done amb}
    (created : adminCreateUser now db caller tenant form hash newId = .ok done) :
    ∃ row, done.tables.users = row :: db.users := by
  unfold adminCreateUser at created
  simp only [returns_bind_iff] at created
  obtain ⟨me, -, role, -, -, -, -, -, company, -, tables, inserted, same⟩ := created
  cases same
  exact ⟨_, (insertUser_ok inserted).1⟩

/-- `adminResetUserPassword` replaces a password hash. -/
theorem adminResetUserPassword_ok {caller : Option Nat} {tenant user hash : String}
    {form : FormData} {done : Done amb}
    (reset : adminResetUserPassword now db caller tenant user form hash = .ok done) :
    ∃ account company, done.tables.users =
      (db.editUsers (within account company) { passwordHash := some hash } now).users := by
  unfold adminResetUserPassword at reset
  simp only [returns_bind_iff, editUser_eq_ok] at reset
  obtain ⟨me, -, -, -, company, -, account, -, _, ⟨-, rfl⟩, same⟩ := reset
  cases same
  exact ⟨account, company, rfl⟩

/-- An update of neither the role nor the state keeps the company managed. -/
theorem editUsers_managed (managed : Managed tenantId db) {edit : Edit} (role : edit.role = none)
    (state : edit.isActive = none) :
    Managed tenantId (db.editUsers (within target home) edit now) := by
  by_contra lost
  obtain ⟨last, ⟨-, manages, -⟩, -, demoted⟩ := (editUsers_managed_iff managed edit).mp lost
  apply demoted
  have same : (edit.set now last).role = last.role ∧ (edit.set now last).isActive = last.isActive :=
    ⟨by simp [Edit.set, role], by simp [Edit.set, state]⟩
  exact ⟨manages.1, same.2 ▸ manages.2.1, same.1 ▸ manages.2.2⟩

theorem managed_cons {row : Account} (managed : Managed tenantId db)
    (users : after.users = row :: db.users) : Managed tenantId after := by
  obtain ⟨manager, member, manages⟩ := managed
  exact ⟨manager, users ▸ List.mem_cons_of_mem row member, manages⟩

/-- A form that is stored leaves the company unmanaged exactly if it demotes the only manager. -/
theorem formEdit_managed_iff (managed : Managed tenantId db) {form : FormData} {role : Role}
    (named : form.name ≠ "") (stores : storable form.name = true)
    (stored : form.storedRole = .ok role) :
    (¬ Managed tenantId (if form.active then
        db.editUsers (within target home) (form.edit role) now
      else (db.editUsers (within target home) (form.edit role) now).revokeSeat target)) ↔
      ∃ last, OnlyManager db tenantId last ∧ target = last.id ∧ home = tenantId ∧
        form.Demotes := by
  have users : Managed tenantId (if form.active then
        db.editUsers (within target home) (form.edit role) now
      else (db.editUsers (within target home) (form.edit role) now).revokeSeat target) ↔
      Managed tenantId (db.editUsers (within target home) (form.edit role) now) := by
    split
    · rfl
    · rfl
  rw [users, editUsers_managed_iff managed]
  constructor
  · rintro ⟨last, only, hit, demoted⟩
    have own := within_iff.mp hit
    refine ⟨last, only, own.1.symm, own.2.symm.trans only.2.1.1, ?_⟩
    exact (demotes_iff only.2.1 named stores stored).mpr demoted
  · rintro ⟨last, only, rfl, rfl, demotes⟩
    refine ⟨last, only, within_iff.mpr ⟨rfl, only.2.1.1⟩, ?_⟩
    exact (demotes_iff only.2.1 named stores stored).mp demotes

/-- A request that leaves a managed company unmanaged has returned. -/
theorem settled_of_lost {result : Except Thrown (Done amb)} (managed : Managed tenantId db)
    (lost : ¬ Managed tenantId (settled db result)) :
    ∃ audit, result = .ok ⟨settled db result, audit⟩ := by
  rcases settled_cases db result with same | done
  · rw [same] at lost
    exact absurd managed lost
  · exact done

theorem updateUser_managed_iff (managed : Managed tenantId db) (caller : Option Nat) (id : String)
    (form : FormData) :
    ¬ Managed tenantId (settled db (updateUser now db caller id form)) ↔
      ∃ last, OnlyManager db tenantId last ∧
        (Request.manager caller now (.updateUser id form)).Removes db tenantId last := by
  constructor
  · intro lost
    obtain ⟨me, role, target, manager, -, named, stores, stored, read, own | other⟩ :=
      updateUser_ok_iff.mp (settled_of_lost managed lost)
    · rw [← own.2] at lost
      exact absurd (editUsers_managed managed rfl rfl) lost
    · obtain ⟨distinct, seat, same⟩ := other
      rw [← same, formEdit_managed_iff managed named stores stored] at lost
      obtain ⟨last, only, rfl, home, demotes⟩ := lost
      exact ⟨last, only, me, manager, home, read, distinct, demotes, home ▸ seat⟩
  · rintro ⟨last, only, me, manager, home, read, distinct, demotes, seat⟩
    have ⟨named, stores, role, known, _⟩ := demotes
    have stored : form.storedRole = .ok role := orThrow_eq_ok.mpr known
    obtain ⟨audit, done⟩ : ∃ audit, updateUser now db caller id form = .ok ⟨_, audit⟩ :=
      updateUser_ok_iff.mpr ⟨me, role, last.id, manager, mayTouch_last manager home only read,
        named, stores, stored, read, .inr ⟨distinct, home ▸ seat, rfl⟩⟩
    rw [settled_ok done, formEdit_managed_iff managed named stores stored]
    exact ⟨last, only, rfl, home, demotes⟩

theorem deleteUser_managed_iff (managed : Managed tenantId db) (caller : Option Nat)
    (id : String) :
    ¬ Managed tenantId (settled db (deleteUser db caller id)) ↔
      ∃ last, OnlyManager db tenantId last ∧
        (Request.manager caller now (.deleteUser id)).Removes db tenantId last := by
  constructor
  · intro lost
    obtain ⟨me, target, manager, distinct, -, read, same⟩ :=
      deleteUser_ok_iff.mp (settled_of_lost managed lost)
    rw [← same, deleteUsers_managed_iff managed] at lost
    obtain ⟨last, only, hit⟩ := lost
    obtain ⟨rfl, home⟩ := within_iff.mp hit
    exact ⟨last, only, me, manager, home.symm.trans only.2.1.1, read, distinct⟩
  · rintro ⟨last, only, me, manager, home, read, distinct⟩
    obtain ⟨audit, done⟩ : ∃ audit, deleteUser db caller id = .ok ⟨_, audit⟩ :=
      deleteUser_ok_iff.mpr ⟨me, last.id, manager, distinct,
        mayTouch_last manager home only read, read, rfl⟩
    rw [settled_ok done, deleteUsers_managed_iff managed]
    exact ⟨last, only, within_iff.mpr ⟨rfl, only.2.1.1.trans home.symm⟩⟩

theorem adminUpdateUser_managed_iff (managed : Managed tenantId db) (caller : Option Nat)
    (tenant user : String) (form : FormData) :
    ¬ Managed tenantId (settled db (adminUpdateUser now db caller tenant user form)) ↔
      ∃ last, OnlyManager db tenantId last ∧
        (Request.operator caller now (.adminUpdateUser tenant user form)).Removes db tenantId
          last := by
  constructor
  · intro lost
    obtain ⟨me, role, company, account, operator, stored, named, stores, first, second, same⟩ :=
      adminUpdateUser_ok_iff.mp (settled_of_lost managed lost)
    rw [← same, formEdit_managed_iff managed named stores stored] at lost
    obtain ⟨last, only, rfl, rfl, demotes⟩ := lost
    exact ⟨last, only, ⟨me, operator⟩, first, second, demotes⟩
  · rintro ⟨last, only, ⟨me, operator⟩, first, second, demotes⟩
    have ⟨named, stores, role, known, _⟩ := demotes
    have stored : form.storedRole = .ok role := orThrow_eq_ok.mpr known
    obtain ⟨audit, done⟩ :
        ∃ audit, adminUpdateUser now db caller tenant user form = .ok ⟨_, audit⟩ :=
      adminUpdateUser_ok_iff.mpr
        ⟨me, role, tenantId, last.id, operator, stored, named, stores, first, second, rfl⟩
    rw [settled_ok done, formEdit_managed_iff managed named stores stored]
    exact ⟨last, only, rfl, rfl, demotes⟩

theorem adminDeleteUser_managed_iff (managed : Managed tenantId db) (caller : Option Nat)
    (tenant user : String) :
    ¬ Managed tenantId (settled db (adminDeleteUser db caller tenant user)) ↔
      ∃ last, OnlyManager db tenantId last ∧
        (Request.operator caller now (.adminDeleteUser tenant user)).Removes db tenantId last := by
  constructor
  · intro lost
    obtain ⟨me, company, account, row, operator, first, second, found, several, same⟩ :=
      adminDeleteUser_ok_iff.mp (settled_of_lost managed lost)
    rw [← same, deleteUsers_managed_iff managed] at lost
    obtain ⟨last, only, hit⟩ := lost
    obtain rfl := eq_of_within (List.find?_some found) hit (List.mem_of_find?_eq_some found) only.1
    obtain ⟨rfl, rfl⟩ := within_iff.mp hit
    obtain rfl := only.2.1.1
    exact ⟨row, only, ⟨me, operator⟩, first, second, several⟩
  · rintro ⟨last, only, ⟨me, operator⟩, first, second, several⟩
    have hit : within last.id tenantId last = true := within_iff.mpr ⟨rfl, only.2.1.1⟩
    obtain ⟨row, found⟩ : ∃ row, db.users.find? (within last.id tenantId) = some row :=
      Option.isSome_iff_exists.mp (List.find?_isSome.mpr ⟨last, only.1, hit⟩)
    obtain rfl := eq_of_within (List.find?_some found) hit (List.mem_of_find?_eq_some found) only.1
    obtain ⟨audit, done⟩ : ∃ audit, adminDeleteUser db caller tenant user = .ok ⟨_, audit⟩ :=
      adminDeleteUser_ok_iff.mpr
        ⟨me, tenantId, row.id, row, operator, first, second, found, several, rfl⟩
    rw [settled_ok done, deleteUsers_managed_iff managed]
    exact ⟨row, only, hit⟩

/-- A request leaves a managed company unmanaged exactly if it removes the only manager. -/
theorem apply_managed_iff (managed : Managed tenantId db) (request : Request) :
    Managed tenantId (request.apply db) ↔ Spares tenantId db request := by
  rw [← not_iff_not]
  have spares : ¬ Spares tenantId db request ↔
      ∃ last, OnlyManager db tenantId last ∧ request.Removes db tenantId last := by
    simp [Spares]
  rw [spares]
  -- The requests that touch neither roles nor states nor rows keep every manager.
  have kept : Managed tenantId (request.apply db) → (∀ last, ¬ request.Removes db tenantId last) →
      (¬ Managed tenantId (request.apply db) ↔
        ∃ last, OnlyManager db tenantId last ∧ request.Removes db tenantId last) := by
    intro still none
    constructor
    · exact fun lost => absurd still lost
    · rintro ⟨last, -, removes⟩
      exact absurd removes (none last)
  cases request with
  | manager caller now call =>
    cases call with
    | createUser form hash newId =>
      refine kept ?_ fun _ removes => removes
      by_contra lost
      obtain ⟨audit, done⟩ := settled_of_lost managed lost
      obtain ⟨me, row, -, -, users, -⟩ := createUser_ok done
      exact lost (managed_cons managed users)
    | updateUser id form => exact updateUser_managed_iff managed caller id form
    | resetPassword id form hash =>
      refine kept ?_ fun _ removes => removes
      by_contra lost
      obtain ⟨me, target, -, -, -, -, same⟩ :=
        resetPassword_ok_iff.mp (settled_of_lost managed lost)
      have still : Managed tenantId ((db.editUsers (within target me.tenantId)
          { passwordHash := some hash } now).revokeSeat target) :=
        editUsers_managed managed rfl rfl
      rw [same] at still
      exact lost still
    | deleteUser id => exact deleteUser_managed_iff managed caller id
  | operator caller now call =>
    cases call with
    | adminCreateUser tenant form hash newId =>
      refine kept ?_ fun _ removes => removes
      by_contra lost
      obtain ⟨audit, done⟩ := settled_of_lost managed lost
      obtain ⟨row, users⟩ := adminCreateUser_ok done
      exact lost (managed_cons managed users)
    | adminUpdateUser tenant user form =>
      exact adminUpdateUser_managed_iff managed caller tenant user form
    | adminResetUserPassword tenant user form hash =>
      refine kept ?_ fun _ removes => removes
      by_contra lost
      obtain ⟨audit, done⟩ := settled_of_lost managed lost
      obtain ⟨account, company, users⟩ := adminResetUserPassword_ok done
      obtain ⟨row, member, manages⟩ : Managed tenantId (db.editUsers (within account company)
          { passwordHash := some hash } now) := editUsers_managed managed rfl rfl
      exact lost ⟨row, users ▸ member, manages⟩
    | adminDeleteUser tenant user => exact adminDeleteUser_managed_iff managed caller tenant user

end Managers

/-- In every run whose requests spare the last manager, the company stays managed; and a request
that does not spare it leaves the company without a manager. -/
theorem company_managed (amb : Ambient) (tenantId : Nat) :
    (∀ db, (accounts amb tenantId).Reaches (Spares tenantId) db → Managed tenantId db) ∧
      ∀ (db : Tables amb) (request : Request), Managed tenantId db →
        (Managed tenantId (request.apply db) ↔ Spares tenantId db request) := by
  refine ⟨?_, fun db request managed => apply_managed_iff managed request⟩
  intro db reached
  refine reached.invariant (Managed tenantId) ?_ ?_
  · rintro start ⟨row, member, home, active, owner⟩
    exact ⟨row, member, home, active, .inl owner⟩
  · intro before request after managed spared next
    obtain rfl := Option.some.inj next
    exact (apply_managed_iff managed request).mpr spared

/-- The platform operator. -/
def platformOperator : Account :=
  { secondOwner with id := 3, email := "chang", role := .superAdmin, displayName := "Chang" }

/-- A company with one owner, and the platform operator in another one. -/
def oneOwner : Tables sampleAmbient where
  users := [firstOwner, platformOperator]
  tenants := [⟨1, true, true, 5⟩, ⟨2, true, true, 5⟩]
  sessions := []
  valid := ⟨by decide, by decide, by decide, by decide, by decide⟩

/-- The deletion of the only owner by the platform operator. -/
def deletesOwner : Request :=
  .operator (some 3) 5 (.adminDeleteUser (sampleAmbient.uuidText 1) (sampleAmbient.uuidText 1))

/-- The only owner cannot be deleted, and the company stays managed. -/
theorem deletesOwner_spares : Managed 1 (deletesOwner.apply oneOwner) := by
  have spared : Spares 1 oneOwner deletesOwner := by
    intro last only removes
    obtain rfl := only.2.2 firstOwner (by decide) (by decide)
    have several := removes.2.2.2 rfl
    revert several
    decide
  have reached : (accounts sampleAmbient 1).Reaches (Spares 1) (deletesOwner.apply oneOwner) :=
    ⟨oneOwner, ⟨firstOwner, by decide, rfl, rfl, rfl⟩, .step deletesOwner .refl spared rfl⟩
  exact (company_managed sampleAmbient 1).1 _ reached

/-- The platform operator makes the only owner an operator: nobody manages the company. -/
theorem demotedOwner_unmanaged :
    ∃ db, (accounts sampleAmbient 1).Reaches Machine.free db ∧ ¬ Managed 1 db := by
  let request : Request := .operator (some 3) 5
    (.adminUpdateUser (sampleAmbient.uuidText 1) (sampleAmbient.uuidText 1)
      { displayName := some "Kim", role := some "operator", isActive := some "on" })
  refine ⟨request.apply oneOwner, ?_, ?_⟩
  · exact ⟨oneOwner, ⟨firstOwner, by decide, rfl, rfl, rfl⟩, .step request .refl trivial rfl⟩
  · show ¬ ∃ row ∈ (request.apply oneOwner).users, row.Manages 1
    decide +kernel

end ChainRemote.Panel.Accounts
