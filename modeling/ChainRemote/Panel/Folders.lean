import ChainRemote.Lib.Statement
import ChainRemote.Panel.Operations

/-!
# Folders of customers

A company puts its customers into folders of its own. `folders` and `customers` refer to their
company and a customer to its folder; that the folder is one of the customer's own company is no
constraint of the schema, and rests on what the functions write.

The other columns of `customers` have constraints of their own; a write that breaks one of them is
refused, as by a fault.
-/

namespace ChainRemote.Panel.Folders

open Lib

/-- A `folders` row. -/
structure Folder where
  id : Nat
  tenantId : Nat
  name : String
deriving DecidableEq

/-- The rows that folders have to do with. -/
structure Tables where
  tenants : List Nat
  folders : List Folder
  customers : List Customer
  /-- No row has this id or a larger one: the next `gen_random_uuid()`. -/
  nextId : Nat

/-- The constraints of the schema. -/
structure Tables.Valid (t : Tables) : Prop where
  folderIds : (t.folders.map Folder.id).Nodup
  foldersBelow : ∀ f ∈ t.folders, f.id < t.nextId
  /-- `uq_folders_tenant_name`. -/
  folderNames : (t.folders.map fun f => (f.tenantId, f.name)).Nodup
  folderTenants : ∀ f ∈ t.folders, f.tenantId ∈ t.tenants
  customersBelow : ∀ c ∈ t.customers, c.id < t.nextId
  customerTenants : ∀ c ∈ t.customers, c.tenantId ∈ t.tenants
  /-- `customers.folder_id` references a folder. -/
  customerFolders : ∀ c ∈ t.customers, ∀ id ∈ c.folderId, id ∈ t.folders.map Folder.id

instance (t : Tables) : Decidable t.Valid :=
  decidable_of_iff
    ((t.folders.map Folder.id).Nodup ∧ (∀ f ∈ t.folders, f.id < t.nextId) ∧
      (t.folders.map fun f => (f.tenantId, f.name)).Nodup ∧
      (∀ f ∈ t.folders, f.tenantId ∈ t.tenants) ∧ (∀ c ∈ t.customers, c.id < t.nextId) ∧
      (∀ c ∈ t.customers, c.tenantId ∈ t.tenants) ∧
      ∀ c ∈ t.customers, ∀ id ∈ c.folderId, id ∈ t.folders.map Folder.id)
    ⟨fun ⟨a, b, c, d, e, f, g⟩ => ⟨a, b, c, d, e, f, g⟩,
      fun v => ⟨v.folderIds, v.foldersBelow, v.folderNames, v.folderTenants, v.customersBelow,
        v.customerTenants, v.customerFolders⟩⟩

/-- A database in which every constraint holds. -/
structure Db extends Tables where
  valid : toTables.Valid

/-- Why a call failed. -/
inductive FolderError
  | db (error : DbError)
  /-- `폴더 이름이 필요합니다`. -/
  | nameRequired
deriving DecidableEq

/-- Accept new tables if they meet the constraints. -/
def commit (t : Tables) : Except FolderError Db :=
  if valid : t.Valid then .ok ⟨t, valid⟩ else .error (.db .constraint)

theorem commit_ok {t : Tables} {db : Db} (accepted : commit t = .ok db) : db.toTables = t := by
  unfold commit at accepted
  split at accepted
  · cases accepted
    rfl
  · cases accepted

/-- A write of the functions on folders, customers and companies. -/
inductive Stmt
  | insertFolder (tenantId : Nat) (name : String)
  | renameFolder (id tenantId : Nat) (name : String)
  | deleteFolder (id tenantId : Nat)
  /-- The update of `assignFolder`. -/
  | setFolder (customerId tenantId : Nat) (folderId : Option Nat)
  | insertCustomer (values : Customer)
  | updateCustomer (id tenantId : Nat) (fields : CustomerFields) (now : Nat)
  | deleteCustomer (id tenantId : Nat)
  | insertTenant
  | deleteTenant (id : Nat)

/-- The rows that a write returns. -/
structure Rows where
  folders : List Folder := []
  customers : List Customer := []

/-- Row and company of a `WHERE` clause on folders. -/
def ownFolder (id tenantId : Nat) (f : Folder) : Bool := f.id == id && f.tenantId == tenantId

/-- `ON DELETE SET NULL` of `customers.folder_id`. -/
def withoutFolders (gone : List Folder) (c : Customer) : Customer :=
  if c.folderId.any fun id => gone.any fun f => f.id == id then { c with folderId := none } else c

/-- The tables after a write. -/
def Stmt.tables (t : Tables) : Stmt → Tables
  | .insertFolder tenantId name =>
    { t with folders := t.folders ++ [⟨t.nextId, tenantId, name⟩], nextId := t.nextId + 1 }
  | .renameFolder id tenantId name =>
    { t with folders := updateWhere (ownFolder id tenantId) ({ · with name := name }) t.folders }
  | .deleteFolder id tenantId =>
    { t with
      folders := t.folders.filter fun f => !ownFolder id tenantId f
      customers := t.customers.map (withoutFolders (t.folders.filter (ownFolder id tenantId))) }
  | .setFolder customerId tenantId folderId =>
    { t with
      customers := updateWhere (ownRow customerId tenantId) ({ · with folderId := folderId })
        t.customers }
  | .insertCustomer values =>
    { t with customers := t.customers ++ [values.withId t.nextId], nextId := t.nextId + 1 }
  | .updateCustomer id tenantId fields now =>
    { t with customers := updateWhere (ownRow id tenantId) (fields.set now) t.customers }
  | .deleteCustomer id tenantId =>
    { t with customers := t.customers.filter fun c => !ownRow id tenantId c }
  | .insertTenant => { t with tenants := t.tenants ++ [t.nextId], nextId := t.nextId + 1 }
  | .deleteTenant id =>
    { t with
      tenants := t.tenants.filter (· != id)
      folders := t.folders.filter (·.tenantId != id)
      customers := (t.customers.filter (·.tenantId != id)).map
        (withoutFolders (t.folders.filter (·.tenantId == id))) }

/-- The rows that a write returns, of the tables before it and after it. -/
def Stmt.returning (before after : Tables) : Stmt → Rows
  | .insertFolder .. => { folders := after.folders.filter (·.id == before.nextId) }
  | .renameFolder id tenantId _ => { folders := after.folders.filter (ownFolder id tenantId) }
  | .deleteFolder id tenantId => { folders := before.folders.filter (ownFolder id tenantId) }
  | .setFolder id tenantId _ => { customers := after.customers.filter (ownRow id tenantId) }
  | .insertCustomer _ => { customers := after.customers.filter (·.id == before.nextId) }
  | .updateCustomer id tenantId _ _ => { customers := after.customers.filter (ownRow id tenantId) }
  | .deleteCustomer id tenantId => { customers := before.customers.filter (ownRow id tenantId) }
  | .insertTenant => {}
  | .deleteTenant _ => {}

/-- Carry out a write. -/
def act (stmt : Stmt) (db : Db) : Except FolderError (Rows × Db) :=
  (commit (stmt.tables db.toTables)).map fun after =>
    (stmt.returning db.toTables after.toTables, after)

theorem act_ok {stmt : Stmt} {db after : Db} {out : Rows} (done : act stmt db = .ok (out, after)) :
    after.toTables = stmt.tables db.toTables ∧
      out = stmt.returning db.toTables after.toTables := by
  unfold act at done
  cases committed : commit (stmt.tables db.toTables) with
  | error e =>
    rw [committed] at done
    cases done
  | ok committedDb =>
    rw [committed] at done
    cases done
    exact ⟨commit_ok committed, rfl⟩

/-! ## The functions -/

/-- What a call answers. -/
inductive Answer
  | folder (row : Folder)
  | ok
  | notfound
  | dup
  | customer (row : Option Customer)
  | done (found : Bool)

/-- A call as a client of the database. -/
abbrev Client := Prog Db Stmt Rows FolderError Answer

/-- `createFolder`, and what comes after it. -/
def createFolderThen (tenantId : Nat) (name : String) (next : Folder → Client) : Client :=
  let trimmed := jsTrim name
  if trimmed = "" then .throw .nameRequired
  else .read fun db =>
    match db.folders.find? fun f => f.tenantId == tenantId && f.name == trimmed with
    | some existing => next existing
    | none => .write (.insertFolder tenantId trimmed)
      (fun rows =>
        match rows.folders with
        | row :: _ => next row
        | [] => .throw (.db .noRow))
      .throw

/-- `createFolder`. -/
def createFolder (tenantId : Nat) (name : String) : Client :=
  createFolderThen tenantId name fun row => .ret (.folder row)

/-- `renameFolder`. -/
def renameFolder (id : Nat) (name : String) (tenantId : Nat) : Client :=
  let trimmed := jsTrim name
  if trimmed = "" then .throw .nameRequired
  else .read fun db =>
    if (db.folders.find? fun f => f.tenantId == tenantId && f.name == trimmed).any (·.id != id)
    then .ret .dup
    else .write (.renameFolder id tenantId trimmed)
      (fun rows => .ret (if rows.folders.isEmpty then .notfound else .ok)) .throw

/-- `deleteFolder`. -/
def deleteFolder (id tenantId : Nat) : Client :=
  .write (.deleteFolder id tenantId) (fun rows => .ret (.done !rows.folders.isEmpty)) .throw

/-- The update of `assignFolder`. -/
def setFolder (customerId : Nat) (folderId : Option Nat) (tenantId : Nat) : Client :=
  .write (.setFolder customerId tenantId folderId)
    (fun rows => .ret (.done !rows.customers.isEmpty)) .throw

/-- `assignFolder`. -/
def assignFolder (customerId : Nat) (folderId : Option Nat) (tenantId : Nat) : Client :=
  match folderId with
  | some id => .read fun db =>
    if db.folders.any (ownFolder id tenantId) then setFolder customerId (some id) tenantId
    else .ret (.done false)
  | none => setFolder customerId none tenantId

/-- `POST /api/customers/folder`. -/
def moveToFolder (remoteId : String) (folderId : Option Nat) (tenantId : Nat) : Client :=
  .read fun db =>
    match db.customers.find? fun c => c.remoteId == some remoteId && c.tenantId == tenantId with
    | some c => assignFolder c.id folderId tenantId
    | none => .ret .notfound

/-- `resolveFolderId`, and what comes after it. -/
def resolveFolderIdThen (folderName : Option String) (tenantId : Nat)
    (next : Option Nat → Client) : Client :=
  let name := (folderName.map jsTrim).getD ""
  if name = "" then next none else createFolderThen tenantId name fun folder => next (some folder.id)

/-- The insert of a customer and the row it answers. -/
def insertCustomer (values : Customer) : Client :=
  .write (.insertCustomer values) (fun rows => .ret (.customer rows.customers.head?)) .throw

/-- The `updateCustomer` of the data layer. -/
def updateRow (id : Nat) (fields : CustomerFields) (tenantId now : Nat) : Client :=
  .write (.updateCustomer id tenantId fields now)
    (fun rows => .ret (.customer rows.customers.head?)) .throw

/-- `createCustomer` of the panel's actions. -/
def createCustomer (folderName : Option String) (fields : CustomerFields)
    (tenantId userId now : Nat) : Client :=
  resolveFolderIdThen folderName tenantId fun folderId =>
    insertCustomer ({ fields with folderId := some folderId }.row tenantId userId now)

/-- `updateCustomer` of the panel's actions. -/
def updateCustomer (id : Nat) (folderName : Option String) (fields : CustomerFields)
    (tenantId now : Nat) : Client :=
  resolveFolderIdThen folderName tenantId fun folderId =>
    updateRow id { fields with folderId := some folderId } tenantId now

/-- `POST /api/customers`, which gives no folder. -/
def postCustomer (fields : CustomerFields) (tenantId userId now : Nat) : Client :=
  insertCustomer ({ fields with folderId := none }.row tenantId userId now)

/-- `PATCH /api/customers/[id]`, which gives no folder. -/
def patchCustomer (id : Nat) (fields : CustomerFields) (tenantId now : Nat) : Client :=
  updateRow id { fields with folderId := none } tenantId now

/-- The insert of `importPeer`. -/
def importPeer (input : PeerInput) (tenantId userId now : Nat) : Client :=
  insertCustomer (input.row tenantId userId now)

/-- The deletion in `deleteCustomer`. -/
def deleteCustomer (id tenantId : Nat) : Client :=
  .write (.deleteCustomer id tenantId) (fun rows => .ret (.done !rows.customers.isEmpty)) .throw

/-- The insert of `createTenantWithOwner`. -/
def createTenant : Client := .write .insertTenant (fun _ => .ret .ok) .throw

/-- `deleteTenantCascade`; the count it reads first is for its answer only. -/
def deleteTenantCascade (id : Nat) : Client :=
  .read fun _ => .write (.deleteTenant id) (fun _ => .ret .ok) .throw

/-- `listFolders`, in any order. -/
def listFolders (t : Tables) (tenantId : Nat) : List Folder :=
  t.folders.filter (·.tenantId == tenantId)

/-- `folderName` of a customer in `listCustomers` and `listMyFavorites`. -/
def folderName (t : Tables) (c : Customer) : Option String :=
  (t.folders.find? fun f => c.folderId == some f.id).map Folder.name

end ChainRemote.Panel.Folders
