import Mathlib.Data.List.Nodup
import Mathlib.Data.Rat.Defs

/-!
# Rows of the panel database

The columns of `lib/schema.ts` that the modelled functions read or write. Row ids are
drawn by the database (`gen_random_uuid()`), so a natural number stands for one;
timestamps are milliseconds. A JSON document the code stores and reads back is kept
as the record it parses to.
-/

namespace ChainRemote.Panel

/-- A JavaScript number. -/
inductive JsNumber
  /-- Not a number. -/
  | nan
  /-- An infinity. -/
  | infinite (negative : Bool)
  /-- A finite value. -/
  | finite (value : Rat)
deriving DecidableEq, Repr

/-- One measured folder of `top_dirs`. -/
structure TopDir where
  /-- Folder name. -/
  name : String
  /-- Its size as reported. -/
  bytes : JsNumber
deriving DecidableEq, Repr

/-- The completion report of a disk cleanup: the JSON object the agent writes. -/
structure CleanupResult where
  /-- Bytes freed. -/
  freedBytes : Nat
  /-- Files deleted. -/
  deleted : Nat
  /-- Files skipped. -/
  skipped : Nat
  /-- Completion time in milliseconds; absent where the text holds no readable time. -/
  finishedAt : Option Nat
  /-- The report of an automatic run. -/
  auto : Bool
deriving DecidableEq, Repr

/-- `enroll_status`. -/
inductive EnrollStatus
  /-- Confirmed. -/
  | active
  /-- Self-enrolled, waiting for the panel. -/
  | pending
deriving DecidableEq, Repr

/-- A `customers` row. Columns with a database default carry it here. -/
structure Customer where
  id : Nat
  tenantId : Nat
  name : String
  contactName : Option String := none
  phone : Option String := none
  address : Option String := none
  remoteId : Option String := none
  accessPassword : Option String := none
  notes : Option String := none
  assignedUserId : Option Nat := none
  lastHeartbeatAt : Option Nat := none
  lastVersion : Option String := none
  heartbeatToken : Option String := none
  machineUuid : Option String := none
  arch : Option String := none
  os : Option String := none
  osBits : Option String := none
  diskTotalBytes : Option Int := none
  diskFreeBytes : Option Int := none
  tempBytes : Option Int := none
  topDirs : Option (List TopDir) := none
  diskReportedAt : Option Nat := none
  cleanupRequestedAt : Option Nat := none
  cleanupResult : Option CleanupResult := none
  schedOpenUntil : Option Int := none
  schedCloseRequestedAt : Option Nat := none
  firewallEnabled : Option Bool := none
  firewallDisarmCount : Nat := 0
  firewallLastDisarmAt : Option Nat := none
  vanWatch : Option String := none
  vanOk : Option Bool := none
  vanRestartCount : Nat := 0
  vanLastRestartAt : Option Nat := none
  vanRecoveredCount : Nat := 0
  vanUnrecoveredCount : Nat := 0
  vanGaveUp : Bool := false
  vanMissing : Bool := false
  natType : Option Int := none
  upnp : Option String := none
  upnpEndpoint : Option String := none
  folderId : Option Nat := none
  isActive : Bool := true
  isInternal : Bool := false
  enrollStatus : EnrollStatus := .active
  createdAt : Nat := 0
  updatedAt : Nat := 0

/-- A `user_favorites` row; its primary key is the pair of user and device. -/
structure Favorite where
  userId : Nat
  remoteId : String
  customerId : Option Nat
  tenantId : Nat
  createdAt : Nat := 0
  hostname : Option String := none
  aliasName : Option String := none
deriving DecidableEq, Repr

/-- `customer_alerts.type`. -/
inductive AlertType
  /-- A known device was reinstalled under a name that fits no store. -/
  | reinstalledNewName
  /-- A new device took a name that a store already has. -/
  | sameNameNewDevice
  /-- A store's dead device was replaced. -/
  | deviceReplaced
  /-- A device moved to another store. -/
  | deviceMoved
deriving DecidableEq, Repr

/-- The JSON object in `customer_alerts.detail`. -/
structure AlertDetail where
  remoteId : Option String := none
  currentName : Option String := none
  newName : Option String := none
  name : Option String := none
  source : Option String := none
  target : Option String := none
  reason : Option String := none
  bySetup : Bool := false
  manual : Bool := false
deriving DecidableEq, Repr

/-- A `customer_alerts` row. -/
structure Alert where
  id : Nat
  tenantId : Nat
  customerId : Option Nat
  type : AlertType
  detail : AlertDetail
  createdAt : Nat := 0
  resolvedAt : Option Nat := none
deriving DecidableEq, Repr

end ChainRemote.Panel
