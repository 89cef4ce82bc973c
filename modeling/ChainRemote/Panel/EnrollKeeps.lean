import ChainRemote.Lib.Machine
import ChainRemote.Panel.EnrollFrame
import ChainRemote.Panel.Heartbeat

/-!
# How long a device keeps the record it enrolled on

Runs of enrollments of one tenant's devices, each atomic, with the heartbeats of the
devices in between. A device that got a token holds its row; the machine remembers when
that was, when the device was heard last and whether its heartbeats came in time.
`deviceAlive` reads `last_heartbeat_at`, which an enrollment does not set: until its
first heartbeat a device is protected only as far as an older heartbeat of the row goes.
-/

namespace ChainRemote.Panel.Enrolled

open Lib

/-- What a device got from its last enrollment. -/
structure Holding where
  /-- The row the token is for. -/
  row : Nat
  token : String
  /-- When the token was handed out. -/
  since : Nat
  /-- The last heartbeat after that. -/
  heard : Option Nat
  /-- No gap of more than ten minutes since then. -/
  timely : Bool
deriving DecidableEq

/-- The database, the clock and what every device holds. -/
structure World where
  db : Db
  now : Nat
  holding : String → Option Holding

/-- What can happen. -/
inductive Event
  /-- A device calls `enrollCustomer`, which draws a token. -/
  | enroll (input : EnrollInput) (plaintext : String)
  /-- A device sends a heartbeat with the token it holds. -/
  | beat (device : String) (report : Beat)
  /-- Time passes. -/
  | pass (milliseconds : Nat)

/-- The longest time between two heartbeats, and between enrollment and the first one. -/
def beatInterval : Nat := 10 * 60000

/-- The table after `recordHeartbeat`. -/
def heardRows (hash : String → String) (now : Nat) (remoteId token : String) (report : Beat)
    (rows : List Customer) : List Customer :=
  updateWhere (selects hash remoteId token) (beatSet now report) rows

theorem recordHeartbeat_rows (hash : String → String) (now : Nat) (remoteId token : String)
    (report : Beat) (rows : List Customer) :
    (recordHeartbeat hash now remoteId token report rows).2 =
      heardRows hash now remoteId token report rows := rfl

/-- A heartbeat keeps every constraint of the schema. -/
theorem valid_heartbeat (hash : String → String) (now : Nat) (remoteId token : String) (report : Beat)
    (db : Db) :
    Tables.Valid { db.toTables with
      customers := heardRows hash now remoteId token report db.customers } := by
  have keys := beatSet_keys now report
  have remoteIds : (heardRows hash now remoteId token report db.customers).map Customer.remoteId =
      db.customers.map Customer.remoteId :=
    map_updateWhere Customer.remoteId fun c => (keys c).2.2.1
  apply db.valid.updateCustomers
  · exact fun c => (keys c).1
  · exact fun c => ⟨(keys c).2.1, (keys c).2.2.2.1⟩
  · unfold heardRows at remoteIds
    rw [remoteIds]
    exact db.valid.remoteIds

/-- The database after `recordHeartbeat`. -/
def heartbeat (hash : String → String) (now : Nat) (remoteId token : String) (report : Beat)
    (db : Db) : Db where
  customers := heardRows hash now remoteId token report db.customers
  favorites := db.favorites
  alerts := db.alerts
  nextId := db.nextId
  valid := valid_heartbeat hash now remoteId token report db

section System

variable (env : Runtime) (tenantId : Nat)

/-- The call of an enrollment event. -/
def World.call (w : World) (input : EnrollInput) (plaintext : String) : EnrollCall :=
  ⟨input, tenantId, plaintext, w.now⟩

/-- The database and the result of an enrollment event. -/
def World.enrolled (w : World) (input : EnrollInput) (plaintext : String) :
    Db × Except DbError EnrollResult :=
  ((w.call tenantId input plaintext).enrollCustomer env).run act w.db

/-- What a device holds after its call: the row that its token selects. -/
def received (call : EnrollCall) (after : Db × Except DbError EnrollResult) : Option Holding :=
  match after.2 with
  | .ok (.token plaintext _) =>
    (after.1.customers.find? (selects env.hashHeartbeatToken call.remoteId plaintext)).map fun row =>
      ⟨row.id, plaintext, call.now, none, true⟩
  | _ => none

/-- One event. Every call of a device ends what it held before. -/
def step (w : World) : Event → Option World
  | .enroll input plaintext =>
    let call := w.call tenantId input plaintext
    let after := w.enrolled env tenantId input plaintext
    some
      { w with
        db := after.1
        holding := Function.update w.holding call.remoteId (received env call after) }
  | .beat device report =>
    (w.holding device).map fun held =>
      { w with
        db := heartbeat env.hashHeartbeatToken w.now device held.token report w.db
        holding := Function.update w.holding device (some { held with heard := some w.now }) }
  | .pass milliseconds =>
    let now := w.now + milliseconds
    some
      { w with
        now := now
        holding := fun device => (w.holding device).map fun held =>
          { held with timely := held.timely && now ≤ held.heard.getD held.since + beatInterval } }

/-- The enrollments and heartbeats of one tenant, from any database. -/
def system : Machine World Event where
  start w := ∀ device, w.holding device = none
  step := step env tenantId

/-- The row a device holds still carries its device id and its token. -/
def Keeps (db : Db) (device : String) (held : Holding) : Prop :=
  ∃ row ∈ db.customers, row.id = held.row ∧ row.remoteId = some device ∧
    row.heartbeatToken = some (env.hashHeartbeatToken held.token)

instance (db : Db) (device : String) (held : Holding) : Decidable (Keeps env db device held) :=
  inferInstanceAs (Decidable (∃ row ∈ db.customers, _ ∧ _ ∧ _))

/-- No enrollment displaces the row of another device that has enrolled, keeps to the beat and
has not been heard yet. -/
def sparesUnheard (w : World) : Event → Prop
  | .enroll input plaintext =>
    let call := w.call tenantId input plaintext
    ∀ device held, w.holding device = some held → device ≠ call.remoteId → held.timely = true →
      held.heard = none → ∀ row ∈ w.db.customers, row.id = held.row →
        ¬ call.Displaces env w.db.customers row
  | _ => True

/-- An enrollment of one device leaves the rows of the devices that enrolled within fifteen
minutes and keep to the beat. -/
def keepsRecent (w : World) (e : Event) (after : World) : Prop :=
  match e with
  | .enroll input plaintext =>
    ∀ device held, w.holding device = some held →
      device ≠ (w.call tenantId input plaintext).remoteId → held.timely = true →
      w.now < held.since + deviceAliveMs →
      Keeps env w.db device held ∧ Keeps env after.db device held
  | _ => True

/-- What a run keeps about a device that keeps to the beat. -/
structure Held (w : World) (device : String) (held : Holding) : Prop where
  /-- Not more than ten minutes have passed. -/
  recent : w.now ≤ held.heard.getD held.since + beatInterval
  /-- The row is there, and has the last heartbeat of the device. -/
  kept : ∃ row ∈ w.db.customers, row.id = held.row ∧ row.remoteId = some device ∧
    row.heartbeatToken = some (env.hashHeartbeatToken held.token) ∧
    ∀ time ∈ held.heard, row.lastHeartbeatAt = some time

/-- The invariant of the runs. -/
def Inv (w : World) : Prop :=
  ∀ device held, w.holding device = some held → held.timely = true → Held env w device held

variable {env tenantId} {w after : World}

/-- A device heard within ten minutes is alive. -/
theorem alive_of_heard {now time : Nat} (recent : now ≤ time + beatInterval) :
    deviceAlive now (some time) = true := by
  have within : beatInterval < deviceAliveMs := by decide
  rw [deviceAlive_some]
  apply decide_eq_true
  omega

/-- An enrollment event is a run alone. -/
theorem alone (env : Runtime) (tenantId : Nat) (w : World) (input : EnrollInput)
    (plaintext : String) :
    ∃ log, ((w.call tenantId input plaintext).enrollCustomer env).Exec act (fun _ => False) w.db log
      (.done (w.enrolled env tenantId input plaintext).2)
      (w.enrolled env tenantId input plaintext).1 :=
  Prog.exec_run _ w.db

/-- The row of another device is not changed by an admitted enrollment. -/
theorem row_kept {input : EnrollInput} {plaintext device : String} {held : Holding}
    (admitted : sparesUnheard env tenantId w (.enroll input plaintext))
    (holds : w.holding device = some held)
    (other : device ≠ (w.call tenantId input plaintext).remoteId) (timely : held.timely = true)
    {row : Customer} (inside : row ∈ w.db.customers) (id : row.id = held.row)
    (remote : row.remoteId = some device) (recent : w.now ≤ held.heard.getD held.since + beatInterval)
    (last : ∀ time ∈ held.heard, row.lastHeartbeatAt = some time) :
    row ∈ (w.enrolled env tenantId input plaintext).1.customers := by
  have spared : ¬ (w.call tenantId input plaintext).Displaces env w.db.customers row := by
    cases heard : held.heard with
    | none => exact admitted device held holds other timely heard row inside id
    | some time =>
      intro displaced
      have dead := displaced.2
      rw [heard] at recent
      have alive : deviceAlive w.now row.lastHeartbeatAt = true := by
        rw [last time heard]
        exact alive_of_heard recent
      exact Bool.false_ne_true (dead.symm.trans alive)
  obtain ⟨log, exec⟩ := alone env tenantId w input plaintext
  have frame := EnrollCall.spares_exec exec fun r displaced kept =>
    (kept : ¬ (w.call tenantId input plaintext).Displaces env w.db.customers r) displaced
  apply frame.rows row inside _ spared
  rw [remote]
  exact fun same => other (Option.some.inj same)

/-- A fresh holding names the row that its token selects. -/
theorem received_held {call : EnrollCall} {result : Db × Except DbError EnrollResult}
    {held : Holding} (got : received env call result = some held) :
    held.since = call.now ∧ held.heard = none ∧ Keeps env result.1 call.remoteId held := by
  unfold received at got
  split at got
  · obtain ⟨row, found, rfl⟩ := Option.map_eq_some_iff.mp got
    have chosen := List.find?_some found
    simp only [selects, Bool.and_eq_true, beq_iff_eq] at chosen
    exact ⟨rfl, rfl, row, List.mem_of_find?_eq_some found, rfl, chosen.1, chosen.2⟩
  · cases got

theorem inv_enroll {input : EnrollInput} {plaintext : String} (inv : Inv env w)
    (admitted : sparesUnheard env tenantId w (.enroll input plaintext))
    (next : step env tenantId w (.enroll input plaintext) = some after) : Inv env after := by
  cases next
  intro device held holds timely
  dsimp only at holds
  by_cases mine : device = (w.call tenantId input plaintext).remoteId
  · subst mine
    rw [Function.update_self] at holds
    obtain ⟨since, heard, row, inside, id, remote, token⟩ := received_held holds
    refine ⟨?_, row, inside, id, remote, token, ?_⟩
    · rw [heard, since]
      exact Nat.le_add_right _ _
    · rw [heard]
      exact nofun
  · rw [Function.update_of_ne mine] at holds
    obtain ⟨recent, row, inside, id, remote, token, last⟩ := inv device held holds timely
    have still := row_kept admitted holds mine timely inside id remote recent last
    exact ⟨recent, row, still, id, remote, token, last⟩

theorem inv_beat {sender : String} {report : Beat} (inv : Inv env w)
    (next : step env tenantId w (.beat sender report) = some after) : Inv env after := by
  obtain ⟨sent, has, rfl⟩ := Option.map_eq_some_iff.mp next
  intro device held holds timely
  dsimp only at holds
  by_cases mine : device = sender
  · subst mine
    rw [Function.update_self] at holds
    cases holds
    obtain ⟨-, row, inside, id, remote, token, -⟩ := inv device sent has timely
    have chosen : selects env.hashHeartbeatToken device sent.token row = true := by
      simp [selects, remote, token]
    have keys := beatSet_keys w.now report row
    refine ⟨Nat.le_add_right _ _, beatSet w.now report row,
      mem_updateWhere_of_hit inside chosen, ?_, ?_, ?_, ?_⟩
    · rw [keys.1]
      exact id
    · rw [keys.2.2.1]
      exact remote
    · rw [keys.2.2.2.2]
      exact token
    · intro time heard
      rw [beatSet_lastHeartbeatAt]
      exact heard
  · rw [Function.update_of_ne mine] at holds
    obtain ⟨recent, row, inside, id, remote, token, last⟩ := inv device held holds timely
    refine ⟨recent, row, mem_updateWhere_of_miss inside ?_, id, remote, token, last⟩
    simp [selects, remote, mine]

theorem inv_pass {milliseconds : Nat} (inv : Inv env w)
    (next : step env tenantId w (.pass milliseconds) = some after) : Inv env after := by
  cases next
  intro device held holds timely
  obtain ⟨old, has, rfl⟩ := Option.map_eq_some_iff.mp holds
  simp only [Bool.and_eq_true, decide_eq_true_eq] at timely
  obtain ⟨-, kept⟩ := inv device old has timely.1
  exact ⟨timely.2, kept⟩

/-- Every admitted event keeps the invariant. -/
theorem inv_step (w : World) (e : Event) (after : World) (inv : Inv env w)
    (admitted : sparesUnheard env tenantId w e) (next : step env tenantId w e = some after) :
    Inv env after := by
  cases e with
  | enroll input plaintext => exact inv_enroll inv admitted next
  | beat sender report => exact inv_beat inv next
  | pass milliseconds => exact inv_pass inv next

end System

/-- In every run whose enrollments displace no device that has not been heard yet, a device
that enrolled keeps its record. -/
theorem enrolled_keeps_record (env : Runtime) (tenantId : Nat) :
    (system env tenantId).Always (sparesUnheard env tenantId) (keepsRecent env tenantId) := by
  refine Machine.Always.of_invariant (Inv env) ?_ ?_ ?_
  · intro w started device held holds
    rw [started device] at holds
    cases holds
  · exact fun w e after inv admitted next => inv_step w e after inv admitted next
  · intro w e after inv admitted next
    cases e with
    | beat sender report => trivial
    | pass milliseconds => trivial
    | enroll input plaintext =>
      intro device held holds other timely _
      obtain ⟨recent, row, inside, id, remote, token, last⟩ := inv device held holds timely
      have still := row_kept admitted holds other timely inside id remote recent last
      cases next
      exact ⟨⟨row, inside, id, remote, token⟩, row, still, id, remote, token⟩

/-- Nothing is stored and nobody holds a row. -/
def emptyWorld : World where
  db := ⟨⟨[], [], [], 0⟩, by decide⟩
  now := 0
  holding _ := none

/-- The second device of a store enrolls before the first heartbeat of the first one: it takes
the row over. -/
theorem enrolled_loses_record_unheard :
    ¬ ∀ env tenantId, (system env tenantId).Always Machine.free (keepsRecent env tenantId) := by
  intro always
  let first := Event.enroll { remoteId := "100", name := some "cafe" } "t1"
  let middle := (system plainRuntime 1).play Machine.free emptyWorld [first]
  have reached : (system plainRuntime 1).Reaches Machine.free middle :=
    ⟨emptyWorld, fun _ => rfl, Machine.runs_play _ _ _ _⟩
  have kept := always plainRuntime 1 middle
    (.enroll { remoteId := "200", name := some "cafe" } "t2") _ reached trivial rfl
  have both := kept "100" ⟨0, "t1", 0, none, true⟩ (by decide +kernel) (by decide +kernel) rfl
    (by decide +kernel)
  revert both
  decide +kernel

end ChainRemote.Panel.Enrolled
