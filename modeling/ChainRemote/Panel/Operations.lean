import ChainRemote.Panel.Enroll

/-!
# The operations on customers, favourites and alerts

The writing operations of `lib/data/customers.ts`, `lib/data/favorites.ts` and
`lib/data/alerts.ts` that touch a device id or the link of a favourite, beside
`enrollCustomer`. An empty string is as good as none wherever the source tests a text for
truth.
-/

namespace ChainRemote.Panel

open Lib

/-- A text that is there and not empty. -/
def given (text : Option String) : Option String := text.filter (· != "")

theorem given_some {text : Option String} {value : String} (there : given text = some value) :
    text = some value ∧ value ≠ "" := by
  simpa [given, Option.filter_eq_some_iff] using there

/-- The values that `createCustomer` inserts. -/
def CustomerFields.row (fields : CustomerFields) (tenantId assignedUserId now : Nat) :
    Customer where
  id := 0
  tenantId := tenantId
  name := fields.name
  contactName := fields.contactName
  phone := fields.phone
  address := fields.address
  remoteId := fields.remoteId
  accessPassword := fields.accessPassword
  notes := fields.notes
  assignedUserId := some (fields.assignedUserId.join.getD assignedUserId)
  folderId := fields.folderId.join
  createdAt := now
  updatedAt := now

/-- `linkFavoritesToCustomer`. -/
def linkFavoritesToCustomer (remoteId : String) (customerId tenantId : Nat) : Client Unit :=
  .write (.linkFavorites remoteId customerId tenantId) (fun _ => .ret ()) .throw

/-- `createCustomer`. -/
def createCustomer (fields : CustomerFields) (tenantId assignedUserId now : Nat) :
    Client Customer :=
  .write (.insertCustomer (fields.row tenantId assignedUserId now))
    (fun rows =>
      match rows with
      | [] => .throw .noRow
      | row :: _ =>
        match given row.remoteId with
        | some remoteId =>
          .write (.linkFavorites remoteId row.id tenantId) (fun _ => .ret row) .throw
        | none => .ret row)
    .throw

/-- `updateCustomer`. -/
def updateCustomer (id : Nat) (fields : CustomerFields) (tenantId now : Nat) :
    Client (Option Customer) :=
  .write (.updateCustomer id tenantId fields now) (fun rows => .ret rows.head?) .throw

/-- `deleteCustomer`. -/
def deleteCustomer (id tenantId : Nat) : Client Bool :=
  .write (.deleteCustomer id tenantId) (fun rows => .ret !rows.isEmpty) .throw

/-- The `input` of `importPeer`. -/
structure PeerInput where
  remoteId : String
  hostname : Option String := none
  username : Option String := none
  platform : Option String := none
  name : Option String := none

/-- The values that `importPeer` inserts. -/
def PeerInput.row (input : PeerInput) (tenantId assignedUserId now : Nat) : Customer where
  id := 0
  tenantId := tenantId
  assignedUserId := some assignedUserId
  name :=
    match given (input.name.map jsTrim), given input.hostname with
    | some name, _ => name
    | none, some hostname => "신규 거래처 (" ++ hostname ++ ")"
    | none, none => "신규 거래처 (ID: " ++ input.remoteId ++ ")"
  remoteId := some input.remoteId
  notes :=
    match given input.platform, given input.username with
    | some platform, some username => some (platform ++ " / 사용자: " ++ username)
    | some platform, none => some platform
    | none, some username => some ("사용자: " ++ username)
    | none, none => none
  createdAt := now
  updatedAt := now

/-- `importPeer`: the insert converges on the tenant's own row of the device. -/
def importPeer (input : PeerInput) (tenantId assignedUserId now : Nat) : Client Customer :=
  let link := fun row : Customer =>
    (.write (.linkFavorites input.remoteId row.id tenantId) (fun _ => .ret row) .throw :
      Client Customer)
  .write (.insertCustomer (input.row tenantId assignedUserId now))
    (fun rows =>
      match rows with
      | [] => .throw .noRow
      | row :: _ => link row)
    (fun error => .read fun db =>
      match db.customers.find? fun c => c.remoteId == some input.remoteId with
      | none => .throw error
      | some existing => if existing.tenantId ≠ tenantId then .throw error else link existing)

/-- `addFavoriteByRemoteId`. -/
def addFavoriteByRemoteId (userId : Nat) (remoteId : String) (tenantId : Nat)
    (hostname aliasName : Option String) (now : Nat) : Client Bool :=
  .read fun db =>
    let customerId := (db.customers.find? fun c =>
      c.remoteId == some remoteId && c.tenantId == tenantId).map Customer.id
    .write
      (.upsertFavorite
        { userId := userId, remoteId := remoteId, customerId := customerId, tenantId := tenantId,
          createdAt := now, hostname := hostname, aliasName := aliasName })
      (fun _ =>
        match customerId with
        | some id => .write (.claimCustomer id userId now) (fun _ => .ret true) .throw
        | none => .ret false)
      .throw

/-- The values of the row that a panel user moves a device to; the token goes along. -/
def movedRow (tenantId : Nat) (name remoteId : String) (token : Option String) (now : Nat) :
    Customer where
  id := 0
  tenantId := tenantId
  name := name
  remoteId := some remoteId
  enrollStatus := .active
  heartbeatToken := token
  createdAt := now
  updatedAt := now

/-- The record of a move. -/
def movedAlert (tenantId : Nat) (detail : AlertDetail) (now : Nat) : Alert where
  id := 0
  tenantId := tenantId
  customerId := none
  type := .deviceMoved
  detail := detail
  createdAt := now
  resolvedAt := some now

/-- The result of `moveDeviceToNewCustomer`. -/
inductive MoveResult
  /-- The new row. -/
  | moved (newCustomerId : Nat)
  /-- The reason shown to the user. -/
  | refused (reason : String)
deriving DecidableEq, Repr

/-- `moveDeviceToNewCustomer`. -/
def moveDeviceToNewCustomer (env : Runtime) (customerId : Nat) (newName : String)
    (tenantId now : Nat) : Client MoveResult :=
  let name := jsTrim newName
  if name = "" then .ret (.refused "새 상호를 입력하세요")
  else .read fun db =>
    match db.customers.find? (ownRow customerId tenantId) with
    | none => .ret (.refused "거래처를 찾을 수 없습니다")
    | some src =>
      match given src.remoteId with
      | none => .ret (.refused "이 거래처에는 연결된 기기가 없습니다")
      | some remoteId =>
        if normalizeCustomerNameKey env src.name = normalizeCustomerNameKey env name then
          .ret (.refused "지금과 같은 상호입니다. 상호만 고치려면 거래처 수정을 쓰세요")
        else
          .write
            (.moveToNew src.id (some now) remoteId
              (movedRow tenantId name remoteId src.heartbeatToken now) none
              (movedAlert tenantId
                { remoteId := some remoteId, source := some src.name, target := some name,
                  manual := true } now))
            (fun rows =>
              match rows with
              | [] => .throw .noRow
              | dst :: _ => .ret (.moved dst.id))
            .throw

/-- An open alert of the tenant, as `getOpenAlert` selects it. -/
def isOpenAlert (id tenantId : Nat) (alert : Alert) : Bool :=
  alert.id == id && alert.tenantId == tenantId && alert.resolvedAt.isNone

/-- `applyAlertMoveToNew`. -/
def applyAlertMoveToNew (id tenantId now : Nat) : Client Bool :=
  .read fun db =>
    match db.alerts.find? (isOpenAlert id tenantId) with
    | none => .ret false
    | some asked =>
      match asked.type, asked.customerId, asked.detail.newName, given asked.detail.remoteId with
      | .reinstalledNewName, some customerId, some newName, some remoteId =>
        if jsTrim newName = "" then .ret false
        else .read fun db =>
          match db.customers.find? (ownRow customerId tenantId) with
          | none => .ret false
          | some src =>
            if src.remoteId ≠ some remoteId then .ret false
            else
              .write
                (.moveToNew src.id none remoteId
                  (movedRow tenantId (jsTrim newName) remoteId src.heartbeatToken now)
                  (some (id, now))
                  (movedAlert tenantId
                    { remoteId := some remoteId, source := some src.name,
                      target := some newName } now))
                (fun _ => .ret true) .throw
      | _, _, _, _ => .ret false

/-- An operation of the data layer with its arguments. -/
inductive Operation
  /-- `createCustomer`. -/
  | createCustomer (fields : CustomerFields) (tenantId assignedUserId now : Nat)
  /-- `updateCustomer`. -/
  | updateCustomer (id : Nat) (fields : CustomerFields) (tenantId now : Nat)
  /-- `importPeer`. -/
  | importPeer (input : PeerInput) (tenantId assignedUserId now : Nat)
  /-- `deleteCustomer`. -/
  | deleteCustomer (id tenantId : Nat)
  /-- `addFavoriteByRemoteId`. -/
  | addFavoriteByRemoteId (userId : Nat) (remoteId : String) (tenantId : Nat)
      (hostname aliasName : Option String) (now : Nat)
  /-- `linkFavoritesToCustomer`. -/
  | linkFavoritesToCustomer (remoteId : String) (customerId tenantId : Nat)
  /-- `enrollCustomer`. -/
  | enrollCustomer (call : EnrollCall)
  /-- `applyAlertMoveToNew`. -/
  | applyAlertMoveToNew (id tenantId now : Nat)
  /-- `moveDeviceToNewCustomer`. -/
  | moveDeviceToNewCustomer (customerId : Nat) (newName : String) (tenantId now : Nat)

/-- The database after an operation, whether it returns or throws. -/
def Operation.after (env : Runtime) : Operation → Db → Db
  | .createCustomer fields tenantId assignedUserId now, db =>
    ((Panel.createCustomer fields tenantId assignedUserId now).run act db).1
  | .updateCustomer id fields tenantId now, db =>
    ((Panel.updateCustomer id fields tenantId now).run act db).1
  | .importPeer input tenantId assignedUserId now, db =>
    ((Panel.importPeer input tenantId assignedUserId now).run act db).1
  | .deleteCustomer id tenantId, db => ((Panel.deleteCustomer id tenantId).run act db).1
  | .addFavoriteByRemoteId userId remoteId tenantId hostname aliasName now, db =>
    ((Panel.addFavoriteByRemoteId userId remoteId tenantId hostname aliasName now).run act db).1
  | .linkFavoritesToCustomer remoteId customerId tenantId, db =>
    ((Panel.linkFavoritesToCustomer remoteId customerId tenantId).run act db).1
  | .enrollCustomer call, db => ((call.enrollCustomer env).run act db).1
  | .applyAlertMoveToNew id tenantId now, db =>
    ((Panel.applyAlertMoveToNew id tenantId now).run act db).1
  | .moveDeviceToNewCustomer customerId newName tenantId now, db =>
    ((Panel.moveDeviceToNewCustomer env customerId newName tenantId now).run act db).1

end ChainRemote.Panel
