import ChainRemote.Panel.Statements
import ChainRemote.Panel.Text

/-!
# Self-enrollment of a device

`enrollCustomer` of `lib/data/customers.ts`, statement by statement. The call looks the
device id and the store name up, chooses one of six branches and sends the branch's
writes. A failed replacement goes on as a registration, and a registration whose
insert, link or alert fails settles on the row that holds the device id by then.
-/

namespace ChainRemote.Panel

open Lib

/-- What the call takes from the JavaScript runtime and the token module. -/
structure Runtime where
  /-- `normalize("NFKC")`. -/
  normalizeNFKC : String → String
  /-- `toLowerCase()`. -/
  toLowerCase : String → String
  /-- `hashHeartbeatToken`. -/
  hashHeartbeatToken : String → String

/-- `normalizeCustomerNameKey`. `\s` of a pattern matches what `trim` removes. -/
def normalizeCustomerNameKey (env : Runtime) (name : String) : String :=
  String.ofList ((env.toLowerCase (env.normalizeNFKC name)).toList.filter fun c => !jsBlank c)

/-- `DEVICE_ALIVE_MS`. -/
def deviceAliveMs : Nat := 15 * 60000

/-- `deviceAlive` at a time. -/
def deviceAlive (now : Nat) (lastHeartbeatAt : Option Nat) : Bool :=
  lastHeartbeatAt.any fun last => now < last + deviceAliveMs

/-- A device that was heard is alive for fifteen minutes. -/
theorem deviceAlive_some (now last : Nat) :
    deviceAlive now (some last) = decide (now < last + deviceAliveMs) := by
  unfold deviceAlive
  -- the kernel must not count up to the numeral while it compares the two sides
  generalize deviceAliveMs = limit
  rw [Option.any_some]

/-- The `input` of `enrollCustomer`. -/
structure EnrollInput where
  remoteId : String
  name : Option String := none
  hostname : Option String := none
  machineUuid : Option String := none
  newSite : Bool := false

/-- One call of `enrollCustomer`: its arguments, the token it draws and the time it runs at. -/
structure EnrollCall where
  input : EnrollInput
  tenantId : Nat
  plaintext : String
  now : Nat

/-- The result of `enrollCustomer`. -/
inductive EnrollResult
  /-- A token, and whether a customer row was created for it. -/
  | token (plaintext : String) (created : Bool)
  /-- The device id belongs to another tenant. -/
  | crossTenant
deriving DecidableEq, Repr

/-- A client of the customer tables. -/
abbrev Client (α : Type) := Prog Db Stmt (List Customer) DbError α

namespace EnrollCall

variable (env : Runtime) (call : EnrollCall)

/-- The trimmed device id. -/
def remoteId : String := jsTrim call.input.remoteId

/-- `tokenHash`. -/
def tokenHash : String := env.hashHeartbeatToken call.plaintext

/-- `explicitName`. -/
def explicitName : String := (call.input.name.map jsTrim).getD ""

/-- `nameKey`. -/
def nameKey : String :=
  if call.explicitName = "" then "" else normalizeCustomerNameKey env call.explicitName

/-- A row carries the name of the call. -/
def named (row : Customer) : Bool :=
  row.name != "" && normalizeCustomerNameKey env row.name == call.nameKey env

/-- The row that holds the device id. -/
def byId (rows : List Customer) : Option Customer :=
  rows.find? fun row => row.remoteId == some call.remoteId

/-- The other rows of the tenant that carry the name of the call. -/
def nameMatches (own : Option Customer) (rows : List Customer) : List Customer :=
  if call.nameKey env = "" then []
  else rows.filter fun row =>
    row.tenantId == call.tenantId && own.all (fun held => row.id != held.id) && call.named env row

/-- The row of a new device without a matching store. -/
def newRow : Customer where
  id := 0
  tenantId := call.tenantId
  name :=
    if call.explicitName ≠ "" then call.explicitName
    else
      let hostname := (call.input.hostname.map jsTrim).getD ""
      if hostname ≠ "" then "신규 거래처 (" ++ hostname ++ ")"
      else "신규 거래처 (ID: " ++ call.remoteId ++ ")"
  remoteId := some call.remoteId
  enrollStatus := .active
  heartbeatToken := some (call.tokenHash env)
  createdAt := call.now
  updatedAt := call.now

/-- The row of a device that the installer takes to another store. -/
def siteRow : Customer where
  id := 0
  tenantId := call.tenantId
  name := call.explicitName
  remoteId := some call.remoteId
  enrollStatus := .pending
  heartbeatToken := some (call.tokenHash env)
  machineUuid := call.input.machineUuid.filter (· != "")
  createdAt := call.now
  updatedAt := call.now

/-- An alert of the call about a row; one that records what was done is resolved at once. -/
def alert (customerId : Nat) (type : AlertType) (detail : AlertDetail) (resolved : Bool) :
    Alert where
  id := 0
  tenantId := call.tenantId
  customerId := some customerId
  type := type
  detail := detail
  createdAt := call.now
  resolvedAt := if resolved then some call.now else none

/-- The result of a call that hands out its token. -/
def handOut (created : Bool) : Client EnrollResult := .ret (.token call.plaintext created)

/-- Reinstallation: only the token rotates. -/
def reinstall (own : Customer) : Client EnrollResult :=
  .write (.rotateToken own.id (call.tokenHash env)) (fun _ => call.handOut false) .throw

/-- The installer says the device is at another store now. -/
def moveToSite (own : Customer) : Client EnrollResult :=
  .write
    (.moveToNew own.id (some call.now) call.remoteId (call.siteRow env) none
      (call.alert 0 .deviceMoved
        { remoteId := some call.remoteId, source := some own.name,
          target := some call.explicitName, bySetup := true } true))
    (fun _ => call.handOut true) .throw

/-- The device moves to a store whose own device is dead. -/
def moveToStore (own target : Customer) : Client EnrollResult :=
  .write
    (.moveDevice own.id target.id call.remoteId (call.tokenHash env) call.tenantId call.now
      (call.alert target.id .deviceMoved
        { remoteId := some call.remoteId, source := some own.name, target := some target.name }
        true))
    (fun _ => call.handOut false) .throw

/-- An open alert of the same kind about a row. -/
def isOpenRename (own : Customer) (alert : Alert) : Bool :=
  alert.tenantId == call.tenantId && alert.customerId == some own.id &&
    alert.type == .reinstalledNewName && alert.resolvedAt.isNone

/-- The name fits no store, a living one or several: the token rotates and the panel decides. -/
def leaveToPanel (own : Customer) (found : List Customer) : Client EnrollResult :=
  .write (.rotateToken own.id (call.tokenHash env))
    (fun _ => .read fun db =>
      if db.alerts.any (call.isOpenRename own) then call.handOut false
      else
        .write
          (.insertAlert (call.alert own.id .reinstalledNewName
            { remoteId := some call.remoteId
              currentName := some own.name
              newName := some call.explicitName
              reason := some (if found.length > 1 then "동명 다수"
                else if found.length = 1 then "대상 기기 사용 중" else "일치 상호 없음") }
            false))
          (fun _ => call.handOut false) .throw)
    .throw

/-- The settlement after a failed registration: rotate the token of the row that holds the
device id now. -/
def settle (error : DbError) : Client EnrollResult :=
  .read fun db =>
    match call.byId db.customers with
    | none => .throw error
    | some row =>
      if row.tenantId ≠ call.tenantId then .ret .crossTenant
      else .write (.rotateToken row.id (call.tokenHash env)) (fun _ => call.handOut false) .throw

/-- A new row for an unknown device. -/
def register (count : Nat) : Client EnrollResult :=
  .write (.insertCustomer (call.newRow env))
    (fun rows =>
      match rows with
      | [] => call.settle env .noRow
      | row :: _ =>
        .write (.linkFavorites call.remoteId row.id call.tenantId)
          (fun _ =>
            if count > 0 then
              .write
                (.insertAlert (call.alert row.id .sameNameNewDevice
                  { remoteId := some call.remoteId, name := some call.explicitName } false))
                (fun _ => call.handOut true) (call.settle env)
            else call.handOut true)
          (call.settle env))
    (call.settle env)

/-- An unknown device takes the place of a store's dead one. -/
def replaceDead (target : Customer) (count : Nat) : Client EnrollResult :=
  .write
    (.replaceDevice target.id target.remoteId call.remoteId (call.tokenHash env) call.tenantId
      call.now
      (call.alert target.id .deviceReplaced
        { source := target.remoteId, target := some call.remoteId, name := some target.name } true))
    (fun _ => call.handOut false) (fun _ => call.register env count)

/-- The judgement over the row of the device and the rows of the name. -/
def judge (own : Option Customer) (found : List Customer) : Client EnrollResult :=
  match own with
  | some own =>
    if call.input.newSite ∧ call.nameKey env ≠ "" ∧ ¬ call.named env own then
      call.moveToSite env own
    else if call.nameKey env = "" ∨ call.named env own then call.reinstall env own
    else
      match found with
      | [target] =>
        if deviceAlive call.now target.lastHeartbeatAt then call.leaveToPanel env own found
        else call.moveToStore env own target
      | _ => call.leaveToPanel env own found
  | none =>
    match found with
    | [target] =>
      if deviceAlive call.now target.lastHeartbeatAt then call.register env found.length
      else call.replaceDead env target found.length
    | _ => call.register env found.length

/-- `enrollCustomer`. -/
def enrollCustomer : Client EnrollResult :=
  .read fun db =>
    let own := call.byId db.customers
    if own.any fun row => row.tenantId != call.tenantId then .ret .crossTenant
    else if call.nameKey env = "" then call.judge env own []
    else .read fun db => call.judge env own (call.nameMatches env own db.customers)

variable {env call}

theorem byId_some {rows : List Customer} {own : Customer} (held : call.byId rows = some own) :
    own ∈ rows ∧ own.remoteId = some call.remoteId :=
  ⟨List.mem_of_find?_eq_some held, by simpa using List.find?_some held⟩

theorem byId_none {rows : List Customer} (free : call.byId rows = none) :
    ∀ row ∈ rows, row.remoteId ≠ some call.remoteId := by
  intro row inside
  simpa using List.find?_eq_none.mp free row inside

theorem mem_nameMatches {own : Option Customer} {rows : List Customer} {row : Customer}
    (found : row ∈ call.nameMatches env own rows) :
    row ∈ rows ∧ row.tenantId = call.tenantId ∧ (∀ held ∈ own, row.id ≠ held.id) ∧
      call.named env row = true := by
  unfold nameMatches at found
  split at found
  · cases found
  · simp only [List.mem_filter, Bool.and_eq_true, beq_iff_eq] at found
    refine ⟨found.1, found.2.1.1, fun held inside => ?_, found.2.2⟩
    have apart := found.2.1.2
    rw [Option.mem_def.mp inside] at apart
    simpa using apart

/-- A row that the call would take over: the only other row of its name, where the device has
no row, or has one of another name and the installer does not ask for a new site. -/
def TakesOver (env : Runtime) (call : EnrollCall) (rows : List Customer) (row : Customer) :
    Prop :=
  call.nameMatches env (call.byId rows) rows = [row] ∧
    ∀ own ∈ call.byId rows, call.input.newSite = false ∧ call.named env own = false

/-- A takeover that `deviceAlive` does not stop. -/
def Displaces (env : Runtime) (call : EnrollCall) (rows : List Customer) (row : Customer) :
    Prop :=
  call.TakesOver env rows row ∧ deviceAlive call.now row.lastHeartbeatAt = false

/-- What holds of every branch under its condition holds of the judgement. -/
theorem judge_cases (P : Client EnrollResult → Prop) (own : Option Customer)
    (found : List Customer)
    (site : ∀ held ∈ own, P (call.moveToSite env held))
    (same : ∀ held ∈ own, P (call.reinstall env held))
    (move : ∀ held ∈ own, ∀ target, found = [target] →
      deviceAlive call.now target.lastHeartbeatAt = false → call.input.newSite = false →
      call.named env held = false → P (call.moveToStore env held target))
    (panel : ∀ held ∈ own, P (call.leaveToPanel env held found))
    (replace : own = none → ∀ target, found = [target] →
      deviceAlive call.now target.lastHeartbeatAt = false →
      P (call.replaceDead env target found.length))
    (fresh : own = none → P (call.register env found.length)) : P (call.judge env own found) := by
  unfold judge
  cases own with
  | some own =>
    dsimp only
    split
    · exact site own rfl
    · rename_i stays
      split
      · exact same own rfl
      · rename_i otherwise
        have named : call.named env own = false := by
          simpa using fun named => otherwise (.inr named)
        have flag : call.input.newSite = false := by
          simpa using fun asked => stays ⟨asked, fun key => otherwise (.inl key),
            fun named => otherwise (.inr named)⟩
        split
        · rename_i target
          split
          · exact panel own rfl
          · rename_i dead
            exact move own rfl target rfl (by simpa using dead) flag named
        · exact panel own rfl
  | none =>
    dsimp only
    split
    · rename_i target
      split
      · exact fresh rfl
      · rename_i dead
        exact replace rfl target rfl (by simpa using dead)
    · exact fresh rfl

end EnrollCall

/-- The runtime on plain lower-case text, with the SHA-256 digests of two tokens. -/
def plainRuntime : Runtime where
  normalizeNFKC := id
  toLowerCase := id
  hashHeartbeatToken token :=
    if token = "t1" then "628b49d96dcde97a430dd4f597705899e09a968f793491e4b704cae33a40dc02"
    else if token = "t2" then "c44474038d459e40e4714afefa7bf8dae9f9834b22f5e8ec1dd434ecb62b512e"
    else token

end ChainRemote.Panel
