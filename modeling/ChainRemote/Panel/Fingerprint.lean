import ChainRemote.Lib.Machine
import ChainRemote.Panel.EnrollKeeps
import ChainRemote.Panel.Links

/-!
# The machine fingerprint

Fingerprints are not unique among machines, so the panel stopped storing and matching them:
`recordHeartbeat` drops its argument, and the branches of `enrollCustomer` write rows
without one. The branch for a device at a new site still passes it to the insert. This
module says which calls put a fingerprint into a row and which fail because of one, over
any sequence of calls.
-/

namespace ChainRemote.Panel.Fingerprint

open Lib Enrolled

/-- A call of one of the two functions that take a fingerprint. -/
inductive Call
  | enroll (call : EnrollCall)
  /-- `recordHeartbeat`; the fingerprint is the argument it does not use. -/
  | beat (now : Nat) (remoteId token : String) (machineUuid : Option String) (report : Beat)

/-- The enrollment without its fingerprint. -/
def bareOf (call : EnrollCall) : EnrollCall :=
  { call with input := { call.input with machineUuid := none } }

/-- The call without its fingerprint. -/
def Call.bare : Call → Call
  | .enroll call => .enroll (bareOf call)
  | .beat now remoteId token _ report => .beat now remoteId token none report

variable (env : Runtime)

/-- The database after a call. -/
def Call.after (db : Db) : Call → Db
  | .enroll call => ((call.enrollCustomer env).run act db).1
  | .beat now remoteId token _ report =>
    heartbeat env.hashHeartbeatToken now remoteId token report db

/-- The call throws. -/
def Call.Fails (db : Db) : Call → Prop
  | .enroll call => ∃ error, ((call.enrollCustomer env).run act db).2 = .error error
  | .beat .. => False

/-- Calls in any order, from any database. -/
def calls : Machine Db Call where
  start _ := True
  step db call := some (call.after env db)

/-- Every fingerprint in a row was in that row before. -/
def Carried (s t : Db) : Prop :=
  ∀ row ∈ t.customers, row.machineUuid ≠ none →
    ∃ old ∈ s.customers, old.id = row.id ∧ old.machineUuid = row.machineUuid

/-- The call fills no fingerprint in, and it does not fail because of the one it carries:
where it fails, it also fails without. -/
def Disabled (db : Db) (call : Call) : Prop :=
  Carried db (call.after env db) ∧ (call.Fails env db → call.bare.Fails env db)

/-- The enrollment goes to the branch for a new site: the installer says so, and the tenant
has a row of the device under another name. -/
def TakesSite (db : Db) (call : EnrollCall) : Prop :=
  ∃ own, call.byId db.customers = some own ∧ own.tenantId = call.tenantId ∧
    call.input.newSite = true ∧ call.nameKey env ≠ "" ∧ call.named env own = false

/-- The condition: an enrollment for a new site carries no fingerprint. -/
def Unmarked (db : Db) : Call → Prop
  | .enroll call => TakesSite env db call → unindexed call.input.machineUuid
  | .beat .. => True

section Carried

variable {s t u : Db}

theorem Carried.refl (s : Db) : Carried s s := fun row inside _ => ⟨row, inside, rfl, rfl⟩

theorem Carried.trans (first : Carried s t) (second : Carried t u) : Carried s u := by
  intro row inside marked
  obtain ⟨middle, there, id, same⟩ := second row inside marked
  obtain ⟨old, before, oldId, oldSame⟩ := first middle there (same ▸ marked)
  exact ⟨old, before, oldId.trans id, oldSame.trans same⟩

/-- Updates of other columns and new rows without a fingerprint carry the old ones. -/
theorem Carried.of_rewrite {rewrite : Customer → Customer} {added : List Customer}
    (customers : t.customers = s.customers.map rewrite ++ added)
    (keys : ∀ c, (rewrite c).id = c.id ∧ (rewrite c).machineUuid = c.machineUuid)
    (bare : ∀ c ∈ added, c.machineUuid = none) : Carried s t := by
  intro row inside marked
  rw [customers] at inside
  rcases List.mem_append.mp inside with old | new
  · obtain ⟨c, before, rfl⟩ := List.mem_map.mp old
    exact ⟨c, before, (keys c).1.symm, (keys c).2.symm⟩
  · exact absurd (bare row new) marked

theorem Carried.of_update {here : Customer → Bool} {set : Customer → Customer}
    (customers : t.customers = updateWhere here set s.customers)
    (keys : ∀ c, (set c).id = c.id ∧ (set c).machineUuid = c.machineUuid) : Carried s t := by
  apply Carried.of_rewrite (customers.trans (List.append_nil _).symm)
  · intro c
    split
    · exact keys c
    · exact ⟨rfl, rfl⟩
  · exact List.forall_mem_nil _

theorem Carried.of_customers (same : t.customers = s.customers) : Carried s t := by
  intro row inside _
  exact ⟨row, same ▸ inside, rfl, rfl⟩

end Carried

/-- The writes of an enrollment that put no fingerprint into a row. -/
def Plain : Stmt → Prop
  | .rotateToken _ _ => True
  | .insertCustomer values => values.machineUuid = none
  | .linkFavorites _ _ _ => True
  | .insertAlert _ => True
  | .moveToNew _ _ _ values _ _ => values.machineUuid = none
  | .moveDevice .. => True
  | .replaceDevice .. => True
  | _ => False

/-- A plain write carries the fingerprints. -/
theorem carried_act {stmt : Stmt} {s t : Db} {out : List Customer} (plain : Plain stmt)
    (done : act stmt s = .ok (out, t)) : Carried s t := by
  cases stmt with
  | rotateToken id tokenHash =>
    apply Carried.of_update (congrArg Tables.customers (rotateToken_ok done))
    exact fun _ => ⟨rfl, rfl⟩
  | insertCustomer values =>
    have customers : t.customers = s.customers.map id ++ [values.withId s.nextId] := by
      rw [(insertCustomer_ok done).2, List.map_id]
    apply Carried.of_rewrite customers
    · exact fun _ => ⟨rfl, rfl⟩
    · exact List.forall_mem_singleton.mpr plain
  | linkFavorites remoteId customerId tenantId =>
    exact Carried.of_customers (by rw [linkFavorites_ok done])
  | insertAlert values => exact Carried.of_customers (by rw [insertAlert_ok done])
  | moveToNew source stamp remoteId values resolves alert =>
    apply Carried.of_rewrite (moveToNew_ok done).2.1
    · intro c
      split
      · exact ⟨rfl, rfl⟩
      · exact ⟨rfl, rfl⟩
    · exact List.forall_mem_singleton.mpr plain
  | moveDevice source target remoteId tokenHash tenantId now alert =>
    apply Carried.of_rewrite
    · rw [(moveDevice_ok done).1, List.append_nil]
      exact List.map_map
    · intro c
      simp only [Function.comp_apply]
      split <;> split <;> exact ⟨rfl, rfl⟩
    · exact List.forall_mem_nil _
  | replaceDevice target old remoteId tokenHash tenantId now alert =>
    apply Carried.of_update (replaceDevice_ok done).1
    exact fun _ => ⟨rfl, rfl⟩
  | updateCustomer id tenantId fields now => cases plain
  | upsertFavorite values => cases plain
  | claimCustomer id userId now => cases plain
  | deleteCustomer id tenantId => cases plain

section Branches

variable {env} {call : EnrollCall}

theorem plain_settle (error : DbError) : (call.settle env error).Sends Plain := by
  intro db
  dsimp only
  split
  · trivial
  · split
    · trivial
    · exact ⟨trivial, fun _ => trivial, fun _ => trivial⟩

theorem plain_register (count : Nat) : (call.register env count).Sends Plain := by
  refine ⟨rfl, ?_, fun error => plain_settle error⟩
  intro rows
  cases rows with
  | nil => exact plain_settle _
  | cons row rows =>
    refine ⟨trivial, ?_, fun error => plain_settle error⟩
    intro _
    dsimp only
    split
    · exact ⟨trivial, fun _ => trivial, fun error => plain_settle error⟩
    · trivial

theorem plain_leaveToPanel (own : Customer) (found : List Customer) :
    (call.leaveToPanel env own found).Sends Plain := by
  refine ⟨trivial, ?_, fun _ => trivial⟩
  intro _ db
  dsimp only
  split
  · trivial
  · exact ⟨trivial, fun _ => trivial, fun _ => trivial⟩

theorem plain_moveToSite (bare : unindexed call.input.machineUuid) (own : Customer) :
    (call.moveToSite env own).Sends Plain := by
  refine ⟨?_, fun _ => trivial, fun _ => trivial⟩
  show call.input.machineUuid.filter (· != "") = none
  cases bare with
  | inl absent => rw [absent]; rfl
  | inr blank => rw [blank]; rfl

/-- The judgement does not go to the branch for a new site. -/
def Stays (env : Runtime) (call : EnrollCall) (own : Option Customer) : Prop :=
  ∀ held ∈ own, ¬ (call.input.newSite = true ∧ call.nameKey env ≠ "" ∧ ¬ call.named env held)

theorem plain_judge {own : Option Customer} (stays : Stays env call own) (found : List Customer) :
    (call.judge env own found).Sends Plain := by
  unfold EnrollCall.judge
  cases own with
  | some own =>
    dsimp only
    rw [if_neg (stays own rfl)]
    split
    · exact ⟨trivial, fun _ => trivial, fun _ => trivial⟩
    · split
      · split
        · exact plain_leaveToPanel _ _
        · exact ⟨trivial, fun _ => trivial, fun _ => trivial⟩
      · exact plain_leaveToPanel _ _
  | none =>
    dsimp only
    split
    · split
      · exact plain_register _
      · exact ⟨trivial, fun _ => trivial, fun _ => plain_register _⟩
    · exact plain_register _

/-- Off the new-site branch an enrollment does not look at its fingerprint. -/
theorem judge_bare {own : Option Customer} (stays : Stays env call own) (found : List Customer) :
    (bareOf call).judge env own found = call.judge env own found := by
  unfold EnrollCall.judge
  cases own with
  | some own =>
    dsimp only
    rw [if_neg (stays own rfl)]
    exact if_neg (stays own rfl)
  | none => rfl

end Branches

/-- Nothing refuses the move of a device to a new row, unless its fingerprint is taken. -/
theorem moveToNew_succeeds {db : Db} {own values : Customer} {stamp : Option Nat}
    {remoteId : String} {alert : Alert} (held : own ∈ db.customers)
    (device : own.remoteId = some remoteId) (same : values.remoteId = some remoteId)
    (machineUuid : unindexed values.machineUuid) :
    ∃ out after, act (.moveToNew own.id stamp remoteId values none alert) db = .ok (out, after) := by
  obtain ⟨detached, first⟩ := db.updateCustomers_succeeds (isRow own.id) (detach stamp)
    (fun _ hit => beq_iff_eq.mp hit) (fun _ => ⟨rfl, rfl, rfl, rfl⟩) (.inl (.inl rfl))
  have t1 := congrArg Tables.customers (commit_ok first)
  have free : unindexed values.remoteId ∨
      ∀ c ∈ detached.customers, c.remoteId ≠ values.remoteId := by
    rw [same]
    by_cases blank : remoteId = ""
    · exact .inl (.inr (congrArg some blank))
    · right
      intro c inside shared
      rw [t1] at inside
      rcases mem_updateWhere.mp inside with ⟨old, _, _, rfl⟩ | ⟨before, other⟩
      · cases shared
      · rw [db.eq_of_remoteId blank before held shared device] at other
        simp [isRow] at other
  have valid := detached.valid.insertCustomer free (.inl machineUuid)
  have second : detached.insertCustomer values = .ok (values.withId detached.nextId, ⟨_, valid⟩) :=
    bind_of_ok (commit_of_valid valid) rfl
  have there : detached.nextId ∈
      (detached.customers ++ [values.withId detached.nextId]).map Customer.id := by
    rw [List.map_append]
    exact List.mem_append_right _ List.mem_cons_self
  obtain ⟨linked, third⟩ := Db.updateFavorites_succeeds ⟨_, valid⟩
    (ofDevice remoteId values.tenantId) (linkTo detached.nextId) (fun _ => ⟨rfl, rfl⟩)
    (fun _ _ _ id link => Option.some.inj link ▸ there)
  have t3 : linked.customers = detached.customers ++ [values.withId detached.nextId] := by
    rw [commit_ok third]
  have unresolved : updateWhere (resolvedBy none) (resolve none) linked.alerts = linked.alerts :=
    updateWhere_of_miss fun _ _ => rfl
  have fourth : linked.updateAlerts (resolvedBy none) (resolve none) = .ok linked := by
    unfold Db.updateAlerts
    rw [unresolved]
    exact commit_of_valid linked.valid
  obtain ⟨alerted, fifth⟩ := linked.insertAlert_succeeds (alert.about detached.nextId)
    (fun id link => by rw [t3]; exact Option.some.inj link ▸ there)
  exact ⟨_, _, bind_of_ok first (bind_of_ok second
    (bind_of_ok third (bind_of_ok fourth (bind_of_ok fifth rfl))))⟩

section Steps

variable {env} {db : Db} {call : EnrollCall} {own : Customer}

/-- An enrollment that the installer sends to a new site runs that branch. -/
theorem run_site (call : EnrollCall) (held : call.byId db.customers = some own)
    (mine : own.tenantId = call.tenantId)
    (asked : call.input.newSite = true ∧ call.nameKey env ≠ "" ∧ ¬ call.named env own) :
    (call.enrollCustomer env).run act db = (call.moveToSite env own).run act db := by
  have notForeign : ¬ ((some own).any fun row => row.tenantId != call.tenantId) = true := by
    simp [mine]
  rw [run_enrollCustomer, held, if_neg notForeign]
  unfold EnrollCall.judge
  dsimp only
  rw [if_pos asked]

/-- Off the new-site branch an enrollment carries the fingerprints. -/
theorem carried_judge {own : Option Customer} (stays : Stays env call own)
    (found : List Customer) :
    Carried db ((call.judge env own found).run act db).1 :=
  (plain_judge stays found).run Carried Carried.refl (fun _ _ _ => Carried.trans)
    (fun _ _ _ _ plain done => carried_act plain done) db

/-- Without a fingerprint the new-site branch hands out its token. -/
theorem moveToSite_succeeds (env : Runtime) (call : EnrollCall)
    (held : call.byId db.customers = some own)
    (bare : unindexed call.input.machineUuid) :
    ∃ after, (call.moveToSite env own).run act db = (after, .ok (.token call.plaintext true)) := by
  obtain ⟨inside, device⟩ := EnrollCall.byId_some held
  have unmarked : unindexed (call.siteRow env).machineUuid := by
    left
    show call.input.machineUuid.filter (· != "") = none
    cases bare with
    | inl absent => rw [absent]; rfl
    | inr blank => rw [blank]; rfl
  obtain ⟨out, after, done⟩ :=
    @moveToNew_succeeds db own (call.siteRow env) _ _ _ inside device rfl unmarked
  refine ⟨after, ?_⟩
  unfold EnrollCall.moveToSite Prog.run
  rw [done]
  rfl

/-- With a fingerprint the new-site branch stores it or throws. -/
theorem moveToSite_marks (marked : ¬ unindexed call.input.machineUuid) :
    ¬ Carried db ((call.moveToSite env own).run act db).1 ∨
      ∃ error, ((call.moveToSite env own).run act db).2 = .error error := by
  unfold EnrollCall.moveToSite Prog.run
  split
  · rename_i out after done
    left
    intro carried
    have rows := (moveToNew_ok done).2.1
    have stored : (call.siteRow env).withId db.nextId ∈ after.customers := by
      rw [rows]
      exact List.mem_append_right _ List.mem_cons_self
    have value : (call.siteRow env).machineUuid ≠ none := by
      show call.input.machineUuid.filter (· != "") ≠ none
      cases text : call.input.machineUuid with
      | none => exact absurd (.inl text) marked
      | some uuid =>
        have given : uuid ≠ "" := by
          intro blank
          rw [blank] at text
          exact marked (.inr text)
        simp [Option.filter, given]
    obtain ⟨old, before, id, -⟩ := carried _ stored value
    have below := db.valid.customersBelow old before
    rw [id, Customer.withId_id] at below
    exact Nat.lt_irrefl _ below
  · rename_i error failed
    exact .inr ⟨error, rfl⟩

/-- Where the branch for a new site is not taken, an enrollment keeps the fingerprint
disabled. -/
theorem disabled_off_site (off : ¬ TakesSite env db call) : Disabled env db (.enroll call) := by
  unfold Disabled Call.after Call.Fails Call.bare
  dsimp only
  rw [run_enrollCustomer, run_enrollCustomer]
  by_cases foreign : (call.byId db.customers).any (fun row => row.tenantId != call.tenantId) = true
  · rw [if_pos foreign]
    refine ⟨Carried.refl db, ?_⟩
    rintro ⟨error, failed⟩
    cases failed
  · have stays : Stays env call (call.byId db.customers) := by
      intro own held asked
      rw [Option.mem_def.mp held] at foreign
      exact off ⟨own, held, by simpa using foreign, asked.1, asked.2.1, by simpa using asked.2.2⟩
    rw [if_neg foreign]
    refine ⟨carried_judge stays _, ?_⟩
    rintro ⟨error, failed⟩
    refine ⟨error, ?_⟩
    -- the lookups of the bare call are those of the call
    show (ite _ _ _ : Db × Except DbError EnrollResult).2 = _
    refine (congrArg Prod.snd (if_neg foreign)).trans ?_
    have same := judge_bare stays (call.nameMatches env (call.byId db.customers) db.customers)
    exact (congrArg (fun p => (Prog.run act p db).2) same).trans failed

/-- On it, an enrollment keeps the fingerprint disabled exactly where it carries none. -/
theorem disabled_site_iff (site : TakesSite env db call) :
    Disabled env db (.enroll call) ↔ unindexed call.input.machineUuid := by
  obtain ⟨own, held, mine, asked, keyed, renamed⟩ := site
  have goes : call.input.newSite = true ∧ call.nameKey env ≠ "" ∧ ¬ call.named env own :=
    ⟨asked, keyed, by simp [renamed]⟩
  obtain ⟨bareAfter, bareDone⟩ := moveToSite_succeeds env (bareOf call) held (.inl rfl)
  unfold Disabled Call.after Call.Fails Call.bare
  dsimp only
  rw [run_site call held mine goes, run_site (bareOf call) held mine goes, bareDone]
  constructor
  · rintro ⟨carried, excused⟩
    by_contra marked
    cases moveToSite_marks marked with
    | inl filled => exact filled carried
    | inr failed =>
      obtain ⟨error, impossible⟩ := excused failed
      cases impossible
  · intro bare
    refine ⟨(plain_moveToSite bare own).run Carried Carried.refl (fun _ _ _ => Carried.trans)
      (fun _ _ _ _ plain done => carried_act plain done) db, ?_⟩
    rintro ⟨error, failed⟩
    obtain ⟨after, done⟩ := moveToSite_succeeds env call held bare
    rw [done] at failed
    cases failed

/-- A heartbeat keeps the fingerprint disabled. -/
theorem disabled_beat (now : Nat) (remoteId token : String) (machineUuid : Option String)
    (report : Beat) : Disabled env db (.beat now remoteId token machineUuid report) := by
  refine ⟨?_, fun failed => failed⟩
  have rows : (heartbeat env.hashHeartbeatToken now remoteId token report db).customers =
      updateWhere (selects env.hashHeartbeatToken remoteId token) (beatSet now report)
        db.customers := rfl
  apply Carried.of_update rows
  intro c
  have keys := beatSet_keys now report c
  exact ⟨keys.1, keys.2.2.2.1⟩

/-- A call keeps the fingerprint disabled exactly under the condition. -/
theorem disabled_iff (db : Db) (call : Call) : Disabled env db call ↔ Unmarked env db call := by
  cases call with
  | beat now remoteId token machineUuid report =>
    exact iff_of_true (disabled_beat now remoteId token machineUuid report) trivial
  | enroll call =>
    by_cases site : TakesSite env db call
    · rw [disabled_site_iff site]
      exact ⟨fun bare _ => bare, fun bare => bare site⟩
    · exact iff_of_true (disabled_off_site site) fun taken => absurd taken site

end Steps

/-- A call keeps the fingerprint disabled exactly where it is no enrollment for a new site that
carries one; and in every sequence of such calls no row gains a fingerprint, nor does any
call fail because of one. -/
theorem fingerprint_disabled_iff (env : Runtime) :
    (∀ db call, Disabled env db call ↔ Unmarked env db call) ∧
      (∀ s t, (calls env).Runs (Unmarked env) s t → Carried s t) ∧
      (calls env).Always (Unmarked env) fun db call _ => Disabled env db call := by
  refine ⟨disabled_iff, ?_, ?_⟩
  · intro s t run
    apply run.invariant (Carried s) _ (Carried.refl s)
    intro before call after carried unmarked next
    obtain rfl := Option.some.inj next
    exact carried.trans ((disabled_iff before call).mpr unmarked).1
  · intro db call _ _ unmarked _
    exact (disabled_iff db call).mpr unmarked

/-- Two stores with a device each. -/
def twoStores : Db where
  customers :=
    [{ id := 0, tenantId := 1, name := "cafe", remoteId := some "100" },
     { id := 1, tenantId := 1, name := "bar", remoteId := some "200" }]
  favorites := []
  alerts := []
  nextId := 2
  valid := by decide

/-- The first device moves to a new site; its machine has the fingerprint `fp`. -/
def firstMove : EnrollCall :=
  ⟨{ remoteId := "100", name := some "diner", machineUuid := some "fp", newSite := true }, 1, "t1", 0⟩

/-- The second device moves to another new site; its machine has the same fingerprint. -/
def secondMove : EnrollCall :=
  ⟨{ remoteId := "200", name := some "grill", machineUuid := some "fp", newSite := true }, 1, "t2", 0⟩

/-- The first move stores the fingerprint, and the second one throws because of it. -/
theorem shared_fingerprint_stored_then_fails :
    (∀ row ∈ twoStores.customers, row.machineUuid = none) ∧
      let moved := (Call.enroll firstMove).after plainRuntime twoStores
      (∃ row ∈ moved.customers, row.machineUuid = some "fp") ∧
        ((secondMove.enrollCustomer plainRuntime).run act moved).2 = .error .constraint ∧
        (((bareOf secondMove).enrollCustomer plainRuntime).run act moved).2 =
          .ok (.token "t2" true) := by
  refine ⟨by decide, ?_⟩
  decide +kernel

end ChainRemote.Panel.Fingerprint
