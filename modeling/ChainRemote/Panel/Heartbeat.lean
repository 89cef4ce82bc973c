import ChainRemote.Lib.Rows
import ChainRemote.Panel.Schema
import ChainRemote.Panel.Text

/-!
# Heartbeats and the command queues of a customer row

`recordHeartbeat` of `lib/data/customers.ts` updates the row that the device id and the
token select; `requestSchedClose` and `requestCleanup` queue a command on it, and
`getSchedCloseRequest` and `getCleanupRequest` read the queues for the response. Every
group of columns the source collects into one `…Set` object is one function of the row
here. The groups touch different columns and each reads only its own ones and
`vanWatch`, so applying them in turn is the single `UPDATE` of the source.
-/

namespace ChainRemote.Panel

open Lib

/-- `HeartbeatExtras`. An absent field is `none`; `vanOk` may also be an explicit null. A
cleanup report whose text is blank counts as absent. -/
structure HeartbeatExtras where
  diskTotal : Option JsNumber := none
  diskFree : Option JsNumber := none
  tempBytes : Option JsNumber := none
  topDirs : Option (List TopDir) := none
  cleanupResult : Option CleanupResult := none
  firewallEnabled : Option Bool := none
  firewallDisarmed : Bool := false
  vanOk : Option (Option Bool) := none
  vanRestarted : Bool := false
  vanGaveUp : Option Bool := none
  vanMissing : Option Bool := none
  natType : Option JsNumber := none
  upnp : Option String := none
  upnpEndpoint : Option String := none
  schedOpenUntil : Option JsNumber := none

/-- The arguments of `recordHeartbeat` after the device id and the token. -/
structure Beat where
  version : String := ""
  arch : Option String := none
  os : Option String := none
  osBits : Option String := none
  extras : HeartbeatExtras := {}

/-- The whitelist of `arch` and `osBits`. -/
def isArch (text : String) : Bool := text == "x86" || text == "x64"

/-- `MAX_DISK`. -/
def maxDisk : Rat := 10 ^ 15

/-- `posNum`: a number the disk columns accept, rounded down. -/
def posNum (allowZero : Bool) : Option JsNumber → Option Int
  | some (.finite v) =>
    if (if allowZero then 0 ≤ v else 0 < v) ∧ v ≤ maxDisk then some v.floor else none
  | _ => none

/-- A folder measurement that `topDirs` keeps. -/
def TopDir.measured (dir : TopDir) : Bool :=
  match dir.bytes with
  | .finite v => decide (0 < v)
  | _ => false

/-- The `topDirs` value of a report: an empty array counts as absent. -/
def keptDirs : Option (List TopDir) → Option (List TopDir)
  | some (dir :: dirs) => some (((dir :: dirs).filter TopDir.measured).take 8)
  | _ => none

/-- `archSet`, `osSet` and `osBitsSet`. -/
def platformSet (beat : Beat) (row : Customer) : Customer :=
  { row with
    arch := if (beat.arch.map isArch).getD false then beat.arch else row.arch
    os :=
      match beat.os with
      | some os => if jsTrim os = "" then row.os else some (jsSlice 64 (jsTrim os))
      | none => row.os
    osBits := if (beat.osBits.map isArch).getD false then beat.osBits else row.osBits }

/-- `diskSet`: both sizes must be valid for any of its columns to change. -/
def diskSet (now : Nat) (extras : HeartbeatExtras) (row : Customer) : Customer :=
  let total := posNum false extras.diskTotal
  let free := posNum true extras.diskFree
  let measured := total.isSome && free.isSome
  { row with
    diskTotalBytes := if measured then total else row.diskTotalBytes
    diskFreeBytes := if measured then free else row.diskFreeBytes
    diskReportedAt := if measured then some now else row.diskReportedAt
    tempBytes :=
      if measured then (posNum true extras.tempBytes).orElse fun _ => row.tempBytes
      else row.tempBytes
    topDirs :=
      if measured then (keptDirs extras.topDirs).orElse fun _ => row.topDirs
      else row.topDirs }

/-- `cleanupSet`: a completion report is stored and clears the requests made up to its
completion time, or up to now where it carries no readable time. -/
def cleanupSet (now : Nat) (extras : HeartbeatExtras) (row : Customer) : Customer :=
  { row with
    cleanupResult := extras.cleanupResult.orElse fun _ => row.cleanupResult
    cleanupRequestedAt :=
      match extras.cleanupResult, row.cleanupRequestedAt with
      | some result, some asked =>
        if asked ≤ result.finishedAt.getD now then none else some asked
      | _, asked => asked }

/-- `firewallSet`. -/
def firewallSet (now : Nat) (extras : HeartbeatExtras) (row : Customer) : Customer :=
  { row with
    firewallEnabled := extras.firewallEnabled.orElse fun _ => row.firewallEnabled
    firewallDisarmCount := row.firewallDisarmCount + if extras.firewallDisarmed then 1 else 0
    firewallLastDisarmAt :=
      if extras.firewallDisarmed then some now else row.firewallLastDisarmAt }

/-- `vanSet`: only a watched row takes the report of a daemon. -/
def vanSet (now : Nat) (extras : HeartbeatExtras) (row : Customer) : Customer :=
  let watched := row.vanWatch.isSome
  let counted := extras.vanRestarted && watched
  { row with
    vanOk :=
      match extras.vanOk with
      | some (some ok) => if watched then some ok else none
      | some none => none
      | none => row.vanOk
    vanGaveUp :=
      match extras.vanGaveUp with
      | some gaveUp => watched && gaveUp
      | none => if extras.vanOk = some none then false else row.vanGaveUp
    vanMissing :=
      match extras.vanMissing with
      | some missing => watched && missing
      | none => row.vanMissing
    vanRestartCount := row.vanRestartCount + if counted then 1 else 0
    vanLastRestartAt := if counted then some now else row.vanLastRestartAt
    vanRecoveredCount :=
      row.vanRecoveredCount + if counted ∧ extras.vanOk = some (some true) then 1 else 0
    vanUnrecoveredCount :=
      row.vanUnrecoveredCount + if counted ∧ extras.vanOk = some (some false) then 1 else 0 }

/-- One to `n` decimal digits. -/
def digits (n : Nat) (text : List Char) : Bool :=
  1 ≤ text.length && text.length ≤ n && text.all fun c => '0' ≤ c && c ≤ '9'

/-- The pattern `^\d{1,3}(\.\d{1,3}){3}:\d{1,5}$`. -/
def isEndpoint (text : String) : Bool :=
  match text.toList.splitOn ':' with
  | [host, port] =>
    let parts := host.splitOn '.'
    parts.length == 4 && parts.all (digits 3) && digits 5 port
  | _ => false

/-- `natSet`, `upnpSet` and `endpointSet`. -/
def networkSet (extras : HeartbeatExtras) (row : Customer) : Customer :=
  { row with
    natType :=
      match extras.natType with
      | some (.finite v) => if v = 0 ∨ v = 1 ∨ v = 2 then some v.floor else row.natType
      | _ => row.natType
    upnp :=
      match extras.upnp with
      | some upnp => if upnp ∈ ["no", "found", "yes"] then some upnp else row.upnp
      | none => row.upnp
    upnpEndpoint :=
      match extras.upnpEndpoint with
      | some endpoint => if isEndpoint endpoint then some endpoint else none
      | none => row.upnpEndpoint }

/-- The two columns `schedSet` writes: zero reports a closed window and empties the queue;
another end within 25 hours of the server clock is stored, and empties the queue when it
differs from the stored one. -/
def schedColumns (now : Nat) (report : Option JsNumber) (openUntil : Option Int)
    (closeRequestedAt : Option Nat) : Option Int × Option Nat :=
  match report with
  | some (.finite v) =>
    if 0 ≤ v then
      if v.floor = 0 then (none, none)
      else if v.floor * 1000 ≤ now + 25 * 3600 * 1000 then
        (some (v.floor * 1000),
          if openUntil = some (v.floor * 1000) then closeRequestedAt else none)
      else (openUntil, closeRequestedAt)
    else (openUntil, closeRequestedAt)
  | _ => (openUntil, closeRequestedAt)

/-- `schedSet`. -/
def schedSet (now : Nat) (extras : HeartbeatExtras) (row : Customer) : Customer :=
  let columns :=
    schedColumns now extras.schedOpenUntil row.schedOpenUntil row.schedCloseRequestedAt
  { row with schedOpenUntil := columns.1, schedCloseRequestedAt := columns.2 }

/-- The `SET` list of `recordHeartbeat`, applied to a row. -/
def beatSet (now : Nat) (beat : Beat) (row : Customer) : Customer :=
  schedSet now beat.extras <| networkSet beat.extras <| vanSet now beat.extras <|
    firewallSet now beat.extras <| cleanupSet now beat.extras <| diskSet now beat.extras <|
    platformSet beat { row with lastHeartbeatAt := some now, lastVersion := some beat.version }

section Columns

variable (now : Nat) (beat : Beat) (row : Customer)

/-- The cleanup request after a heartbeat depends on the request and the report only. -/
@[simp] theorem beatSet_cleanupRequestedAt :
    (beatSet now beat row).cleanupRequestedAt =
      (cleanupSet now beat.extras row).cleanupRequestedAt := by
  simp only [beatSet, schedSet, networkSet, vanSet, firewallSet, cleanupSet, diskSet, platformSet]

/-- The end of the window after a heartbeat depends on the scheduled-window columns only. -/
@[simp] theorem beatSet_schedOpenUntil :
    (beatSet now beat row).schedOpenUntil =
      (schedColumns now beat.extras.schedOpenUntil row.schedOpenUntil
        row.schedCloseRequestedAt).1 := by
  simp only [beatSet, schedSet, networkSet, vanSet, firewallSet, cleanupSet, diskSet, platformSet]

/-- The close request after a heartbeat depends on the scheduled-window columns only. -/
@[simp] theorem beatSet_schedCloseRequestedAt :
    (beatSet now beat row).schedCloseRequestedAt =
      (schedColumns now beat.extras.schedOpenUntil row.schedOpenUntil
        row.schedCloseRequestedAt).2 := by
  simp only [beatSet, schedSet, networkSet, vanSet, firewallSet, cleanupSet, diskSet, platformSet]

/-- The address of the door after a heartbeat depends on the address and the report only. -/
theorem beatSet_upnpEndpoint :
    (beatSet now beat row).upnpEndpoint = (networkSet beat.extras row).upnpEndpoint := by
  simp only [beatSet, schedSet, networkSet, vanSet, firewallSet, cleanupSet, diskSet, platformSet]

/-- A heartbeat leaves the keys of a row and its token. -/
theorem beatSet_keys :
    (beatSet now beat row).id = row.id ∧ (beatSet now beat row).tenantId = row.tenantId ∧
      (beatSet now beat row).remoteId = row.remoteId ∧
      (beatSet now beat row).machineUuid = row.machineUuid ∧
      (beatSet now beat row).heartbeatToken = row.heartbeatToken := by
  simp only [beatSet, schedSet, networkSet, vanSet, firewallSet, cleanupSet, diskSet, platformSet,
    and_self]

/-- A heartbeat is the last one heard. -/
theorem beatSet_lastHeartbeatAt : (beatSet now beat row).lastHeartbeatAt = some now := by
  simp only [beatSet, schedSet, networkSet, vanSet, firewallSet, cleanupSet, diskSet, platformSet]

end Columns

/-- A heartbeat without the window field leaves the scheduled-window columns. -/
@[simp] theorem schedColumns_absent (now : Nat) (openUntil : Option Int) (asked : Option Nat) :
    schedColumns now none openUntil asked = (openUntil, asked) := rfl

/-- What a report of a whole number of seconds does to the scheduled-window columns. -/
theorem schedColumns_seconds (now : Nat) (seconds : Int) (openUntil : Option Int)
    (asked : Option Nat) :
    schedColumns now (some (.finite seconds)) openUntil asked =
      if seconds = 0 then (none, none)
      else if 0 ≤ seconds ∧ seconds * 1000 ≤ now + 25 * 3600 * 1000 then
        (some (seconds * 1000), if openUntil = some (seconds * 1000) then asked else none)
      else (openUntil, asked) := by
  have whole : (seconds : Rat).floor = seconds := Rat.floor_intCast seconds
  have sign : (0 : Rat) ≤ (seconds : Rat) ↔ 0 ≤ seconds := Rat.intCast_nonneg
  simp only [schedColumns, whole, sign]
  by_cases closed : seconds = 0
  · simp [closed]
  · by_cases positive : 0 ≤ seconds
    · simp only [positive, closed, if_true, if_false, true_and]
    · simp only [positive, closed, if_false, false_and]

/-- A report leaves both scheduled-window columns or empties the queue. -/
theorem schedColumns_keeps_or_clears (now : Nat) (seconds : Int) (openUntil : Option Int)
    (asked : Option Nat) :
    schedColumns now (some (.finite seconds)) openUntil asked = (openUntil, asked) ∨
      (schedColumns now (some (.finite seconds)) openUntil asked).2 = none := by
  rw [schedColumns_seconds]
  split
  · exact .inr rfl
  · split
    · by_cases same : openUntil = some (seconds * 1000)
      · exact .inl (by rw [same, if_pos rfl])
      · exact .inr (if_neg same)
    · exact .inl rfl

/-- A report of the end that is stored already changes nothing. -/
theorem schedColumns_same (now : Nat) {seconds : Int} (asked : Option Nat)
    (running : seconds ≠ 0) :
    schedColumns now (some (.finite seconds)) (some (seconds * 1000)) asked =
      (some (seconds * 1000), asked) := by
  rw [schedColumns_seconds, if_neg running, if_pos rfl, ite_self]

/-- A report of another end that the server accepts empties the queue. -/
theorem schedColumns_other (now : Nat) {seconds : Int} {openUntil : Option Int}
    (asked : Option Nat) (positive : 0 ≤ seconds)
    (bounded : seconds * 1000 ≤ now + 25 * 3600 * 1000) (other : openUntil ≠ some (seconds * 1000)) :
    (schedColumns now (some (.finite seconds)) openUntil asked).2 = none := by
  rw [schedColumns_seconds]
  split
  · rfl
  · rw [if_pos ⟨positive, bounded⟩]

/-- A stored end is never zero: a report of zero stores nothing. -/
theorem schedColumns_nonzero (now : Nat) (seconds : Int) {openUntil : Option Int}
    (asked : Option Nat) (nonzero : openUntil ≠ some 0) :
    (schedColumns now (some (.finite seconds)) openUntil asked).1 ≠ some 0 := by
  rw [schedColumns_seconds]
  split
  · exact nofun
  · rename_i running
    split
    · intro stored
      have : seconds * 1000 = 0 := Option.some.inj stored
      omega
    · exact nonzero

section Table

variable (hash : String → String)

/-- The `WHERE` clause of `recordHeartbeat`: the device id and the hash of the token. -/
def selects (remoteId token : String) (row : Customer) : Bool :=
  row.remoteId == some remoteId && row.heartbeatToken == some (hash token)

/-- `recordHeartbeat`: whether a row was selected, and the table afterwards. -/
def recordHeartbeat (now : Nat) (remoteId token : String) (beat : Beat) (rows : List Customer) :
    Bool × List Customer :=
  (rows.any (selects hash remoteId token),
    rows.map fun row => if selects hash remoteId token row then beatSet now beat row else row)

end Table

/-- `getCleanupRequest`: the pending cleanup request of a device. -/
def getCleanupRequest (remoteId : String) (rows : List Customer) : Option Nat :=
  (rows.find? fun row => row.remoteId == some remoteId).bind Customer.cleanupRequestedAt

/-- `getSchedCloseRequest`: the pending close request of a device. -/
def getSchedCloseRequest (remoteId : String) (rows : List Customer) : Option Nat :=
  (rows.find? fun row => row.remoteId == some remoteId).bind Customer.schedCloseRequestedAt

/-- The shape of a command button: set columns of the tenant's row of a device. -/
def updateDevice (remoteId : String) (tenantId : Nat) (set : Customer → Customer)
    (rows : List Customer) : Bool × List Customer :=
  let hit := fun row : Customer => row.remoteId == some remoteId && row.tenantId == tenantId
  (rows.any hit, rows.map fun row => if hit row then set row else row)

/-- The `SET` list of `requestSchedClose`. -/
def closeSet (now : Nat) (row : Customer) : Customer :=
  { row with schedCloseRequestedAt := some now }

/-- The `SET` list of `requestCleanup`. -/
def requestSet (now : Nat) (row : Customer) : Customer :=
  { row with cleanupRequestedAt := some now }

/-- `requestSchedClose`: whether a row was selected, and the table afterwards. -/
def requestSchedClose (now : Nat) (remoteId : String) (tenantId : Nat) :
    List Customer → Bool × List Customer :=
  updateDevice remoteId tenantId (closeSet now)

/-- `requestCleanup`: whether a row was selected, and the table afterwards. -/
def requestCleanup (now : Nat) (remoteId : String) (tenantId : Nat) :
    List Customer → Bool × List Customer :=
  updateDevice remoteId tenantId (requestSet now)

/-- The row of an installed agent: the only one with its device id, with the hash of its token
and the tenant it enrolled with. -/
structure OwnRow (hash : String → String) (device token : String) (tenant : Nat)
    (rows : List Customer) (row : Customer) : Prop where
  inside : row ∈ rows
  remoteId : row.remoteId = some device
  only : ∀ other ∈ rows, other.remoteId = some device → other = row
  heartbeatToken : row.heartbeatToken = some (hash token)
  tenantId : row.tenantId = tenant

namespace OwnRow

variable {hash : String → String} {device token : String} {tenant : Nat} {rows : List Customer}
  {row : Customer}

/-- A lookup by the device id finds the row. -/
theorem find (own : OwnRow hash device token tenant rows row) :
    rows.find? (fun other => other.remoteId == some device) = some row := by
  cases found : rows.find? fun other => other.remoteId == some device with
  | none =>
    have absent := List.find?_eq_none.mp found row own.inside
    simp [own.remoteId] at absent
  | some other =>
    have named : other.remoteId = some device := by simpa using List.find?_some found
    rw [own.only other (List.mem_of_find?_eq_some found) named]

/-- The route reads the row's own queues. -/
theorem reads (own : OwnRow hash device token tenant rows row) :
    getSchedCloseRequest device rows = row.schedCloseRequestedAt ∧
      getCleanupRequest device rows = row.cleanupRequestedAt := by
  unfold getSchedCloseRequest getCleanupRequest
  rw [own.find]
  exact ⟨rfl, rfl⟩

/-- An update that keeps the keys and selects the row leaves the row rewritten. -/
theorem update (own : OwnRow hash device token tenant rows row) {here : Customer → Bool}
    {set : Customer → Customer} (hit : here row = true)
    (keys : ∀ c, (set c).remoteId = c.remoteId ∧ (set c).tenantId = c.tenantId ∧
      (set c).heartbeatToken = c.heartbeatToken) :
    OwnRow hash device token tenant (updateWhere here set rows) (set row) where
  inside := mem_updateWhere_of_hit own.inside hit
  remoteId := (keys row).1.trans own.remoteId
  only other inside named := by
    obtain ⟨old, before, _, rfl⟩ | ⟨before, miss⟩ := mem_updateWhere.mp inside
    · rw [own.only old before ((keys old).1.symm.trans named)]
    · rw [own.only other before named, hit] at miss
      cases miss
  heartbeatToken := (keys row).2.2.trans own.heartbeatToken
  tenantId := (keys row).2.1.trans own.tenantId

/-- An update that keeps the device ids and selects other devices leaves the row. -/
theorem update_other (own : OwnRow hash device token tenant rows row) {here : Customer → Bool}
    {set : Customer → Customer} (apart : ∀ c, here c = true → c.remoteId ≠ some device)
    (keys : ∀ c, (set c).remoteId = c.remoteId) :
    OwnRow hash device token tenant (updateWhere here set rows) row where
  inside := by
    apply mem_updateWhere_of_miss own.inside
    by_contra hit
    exact apart row (by simpa using hit) own.remoteId
  remoteId := own.remoteId
  only other inside named := by
    obtain ⟨old, before, hit, rfl⟩ | ⟨before, _⟩ := mem_updateWhere.mp inside
    · exact absurd ((keys old).symm.trans named) (apart old hit)
    · exact own.only other before named
  heartbeatToken := own.heartbeatToken
  tenantId := own.tenantId

/-- A heartbeat of the agent is accepted and rewrites its row. -/
theorem recordHeartbeat (own : OwnRow hash device token tenant rows row) (now : Nat)
    (beat : Beat) :
    (recordHeartbeat hash now device token beat rows).1 = true ∧
      OwnRow hash device token tenant (recordHeartbeat hash now device token beat rows).2
        (beatSet now beat row) := by
  have hit : selects hash device token row = true := by
    simp [selects, own.remoteId, own.heartbeatToken]
  refine ⟨List.any_eq_true.mpr ⟨row, own.inside, hit⟩, own.update hit fun c => ?_⟩
  have keys := beatSet_keys now beat c
  exact ⟨keys.2.2.1, keys.2.1, keys.2.2.2.2⟩

/-- A button of the agent's tenant rewrites the row. -/
theorem updateDevice (own : OwnRow hash device token tenant rows row) (set : Customer → Customer)
    (keys : ∀ c, (set c).remoteId = c.remoteId ∧ (set c).tenantId = c.tenantId ∧
      (set c).heartbeatToken = c.heartbeatToken) :
    (updateDevice device tenant set rows).1 = true ∧
      OwnRow hash device token tenant (updateDevice device tenant set rows).2 (set row) := by
  have hit : (row.remoteId == some device && row.tenantId == tenant) = true := by
    simp [own.remoteId, own.tenantId]
  exact ⟨List.any_eq_true.mpr ⟨row, own.inside, hit⟩, own.update hit keys⟩

/-- Heartbeats and buttons of another device, with whatever token or tenant, leave the row. -/
theorem others (own : OwnRow hash device token tenant rows row) {sender : String}
    (other : sender ≠ device) :
    (∀ now sent beat, OwnRow hash device token tenant
      (Panel.recordHeartbeat hash now sender sent beat rows).2 row) ∧
    (∀ now by', OwnRow hash device token tenant (requestSchedClose now sender by' rows).2 row) ∧
    ∀ now by', OwnRow hash device token tenant (requestCleanup now sender by' rows).2 row := by
  have button : ∀ by' (c : Customer), (c.remoteId == some sender && c.tenantId == by') = true →
      c.remoteId ≠ some device := by
    intro by' c hit named
    simp only [named, Bool.and_eq_true, beq_iff_eq] at hit
    exact other (Option.some.inj hit.1).symm
  refine ⟨fun now sent beat => ?_, fun now by' => ?_, fun now by' => ?_⟩
  · refine own.update_other (fun c hit named => other ?_) fun c => (beatSet_keys now beat c).2.2.1
    simp only [selects, named, Bool.and_eq_true, beq_iff_eq] at hit
    exact (Option.some.inj hit.1).symm
  · exact own.update_other (button by') fun _ => rfl
  · exact own.update_other (button by') fun _ => rfl

end OwnRow

end ChainRemote.Panel
