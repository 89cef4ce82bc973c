import ChainRemote.Panel.Enroll
import ChainRemote.Panel.Heartbeat

/-!
# Enrollments of one device at the same time

Several calls of `enrollCustomer` for one device id, of any tenants, interleaved between
their statements. Most branches write a row by an id that an earlier statement returned,
so a call of the same device may have taken the row away in between. Rely/guarantee
contracts say what the calls leave each other (`Tolerates`) and what a call that hands
out its token has achieved at its last write.
-/

namespace ChainRemote.Panel

open Lib

/-- Rows are never deleted and never change their tenant. -/
def Persists (s t : Db) : Prop :=
  ∀ row ∈ s.customers, ∃ same ∈ t.customers, same.id = row.id ∧ same.tenantId = row.tenantId

theorem Persists.trans {s t u : Db} (first : Persists s t) (second : Persists t u) :
    Persists s u := by
  intro row inside
  obtain ⟨middle, there, id, tenant⟩ := first row inside
  obtain ⟨last, present, sameId, sameTenant⟩ := second middle there
  exact ⟨last, present, sameId.trans id, sameTenant.trans tenant⟩

theorem Persists.of_rewrite {s t : Db} {rewrite : Customer → Customer} {added : List Customer}
    (customers : t.customers = s.customers.map rewrite ++ added)
    (keys : ∀ c, (rewrite c).id = c.id ∧ (rewrite c).tenantId = c.tenantId) : Persists s t := by
  intro row inside
  refine ⟨rewrite row, ?_, keys row⟩
  rw [customers]
  exact List.mem_append_left _ (List.mem_map_of_mem inside)

/-- Enrollment deletes no customer. -/
theorem act_persists {stmt : Stmt} {s t : Db} {out : List Customer}
    (done : act stmt s = .ok (out, t)) (kept : ∀ id tenantId, stmt ≠ .deleteCustomer id tenantId) :
    Persists s t := by
  have unchanged : t.customers = s.customers → Persists s t := by
    intro same row inside
    exact ⟨row, same ▸ inside, rfl, rfl⟩
  have update : ∀ here set, t.customers = updateWhere here set s.customers →
      (∀ c, (set c).id = c.id ∧ (set c).tenantId = c.tenantId) → Persists s t := by
    intro here set customers keys
    apply Persists.of_rewrite (customers.trans (List.append_nil _).symm)
    intro c
    split
    · exact keys c
    · exact ⟨rfl, rfl⟩
  cases stmt with
  | rotateToken id tokenHash =>
    apply update _ _ (congrArg Tables.customers (rotateToken_ok done))
    exact fun _ => ⟨rfl, rfl⟩
  | insertCustomer values =>
    have customers : t.customers = s.customers.map id ++ [values.withId s.nextId] := by
      rw [(insertCustomer_ok done).2, List.map_id]
    exact Persists.of_rewrite customers fun _ => ⟨rfl, rfl⟩
  | updateCustomer id tenantId fields now =>
    apply update _ _ (congrArg Tables.customers (updateCustomer_ok done))
    exact fun _ => ⟨rfl, rfl⟩
  | linkFavorites remoteId customerId tenantId => exact unchanged (by rw [linkFavorites_ok done])
  | upsertFavorite values => exact unchanged (upsertFavorite_ok done).1
  | claimCustomer id userId now =>
    apply update _ _ (congrArg Tables.customers (claimCustomer_ok done))
    exact fun _ => ⟨rfl, rfl⟩
  | insertAlert values => exact unchanged (by rw [insertAlert_ok done])
  | moveToNew source stamp remoteId values resolves alert =>
    apply Persists.of_rewrite (moveToNew_ok done).2.1
    intro c
    split <;> exact ⟨rfl, rfl⟩
  | moveDevice source target remoteId tokenHash tenantId now alert =>
    have customers := (moveDevice_ok done).1
    apply Persists.of_rewrite
    · rw [customers, List.append_nil]
      exact List.map_map
    · intro c
      simp only [Function.comp_apply]
      split <;> split <;> exact ⟨rfl, rfl⟩
  | replaceDevice target old remoteId tokenHash tenantId now alert =>
    apply update _ _ (replaceDevice_ok done).1
    exact fun _ => ⟨rfl, rfl⟩
  | deleteCustomer id tenantId => exact absurd rfl (kept id tenantId)

/-- The row of an id, of a tenant. -/
def Present (id tenantId : Nat) (db : Db) : Prop :=
  ∃ row ∈ db.customers, row.id = id ∧ row.tenantId = tenantId

theorem Persists.present {s t : Db} {id tenantId : Nat} (persists : Persists s t)
    (present : Present id tenantId s) : Present id tenantId t := by
  obtain ⟨row, inside, sameId, sameTenant⟩ := present
  obtain ⟨later, there, id, tenant⟩ := persists row inside
  exact ⟨later, there, id.trans sameId, tenant.trans sameTenant⟩

/-- A change that others may make while a call with this token hash runs for a device of a
tenant. -/
structure Tolerates (tenantId : Nat) (remoteId tokenHash : String) (s t : Db) : Prop where
  persists : Persists s t
  /-- The token is nowhere new, and a row with it keeps its device id. -/
  foreign : ∀ row ∈ t.customers, row.heartbeatToken = some tokenHash →
    ∃ old ∈ s.customers, old.id = row.id ∧ old.heartbeatToken = some tokenHash ∧
      old.remoteId = row.remoteId
  /-- The tenant does not lose the device id. -/
  holder : (∃ row ∈ s.customers, row.remoteId = some remoteId ∧ row.tenantId = tenantId) →
    ∃ row ∈ t.customers, row.remoteId = some remoteId ∧ row.tenantId = tenantId

namespace Tolerates

variable {tenantId : Nat} {remoteId tokenHash : String} {s t u : Db} {out : List Customer}

theorem of_customers (same : t.customers = s.customers) :
    Tolerates tenantId remoteId tokenHash s t := by
  refine ⟨?_, ?_, ?_⟩
  · intro row inside
    exact ⟨row, same ▸ inside, rfl, rfl⟩
  · intro row inside token
    exact ⟨row, same ▸ inside, rfl, token, rfl⟩
  · rw [same]
    exact id

theorem refl (s : Db) : Tolerates tenantId remoteId tokenHash s s := of_customers rfl

theorem trans (first : Tolerates tenantId remoteId tokenHash s t)
    (second : Tolerates tenantId remoteId tokenHash t u) :
    Tolerates tenantId remoteId tokenHash s u := by
  refine ⟨first.persists.trans second.persists, ?_, fun held => second.holder (first.holder held)⟩
  intro row inside token
  obtain ⟨middle, there, id, middleToken, middleRemote⟩ := second.foreign row inside token
  obtain ⟨old, before, oldId, oldToken, oldRemote⟩ := first.foreign middle there middleToken
  exact ⟨old, before, oldId.trans id, oldToken, oldRemote.trans middleRemote⟩

/-- A rewriting of customer rows by another call: a row keeps its id and tenant, and gets
another token if it is touched. -/
theorem of_rewrite {rewrite : Customer → Customer} {added : List Customer}
    (customers : t.customers = s.customers.map rewrite ++ added)
    (keys : ∀ c, (rewrite c).id = c.id ∧ (rewrite c).tenantId = c.tenantId)
    (token : ∀ c, rewrite c = c ∨ (rewrite c).heartbeatToken ≠ some tokenHash)
    (addedToken : ∀ c ∈ added, c.heartbeatToken ≠ some tokenHash)
    (holder : ∀ row ∈ s.customers, row.remoteId = some remoteId → row.tenantId = tenantId →
      (rewrite row).remoteId = some remoteId ∨
        ∃ same ∈ t.customers, same.remoteId = some remoteId ∧ same.tenantId = tenantId) :
    Tolerates tenantId remoteId tokenHash s t := by
  have moved : ∀ row ∈ s.customers, rewrite row ∈ t.customers := by
    intro row inside
    rw [customers]
    exact List.mem_append_left _ (List.mem_map_of_mem inside)
  refine ⟨fun row inside => ⟨rewrite row, moved row inside, keys row⟩, ?_, ?_⟩
  · intro row inside carries
    rw [customers] at inside
    rcases List.mem_append.mp inside with updated | new
    · obtain ⟨old, before, rfl⟩ := List.mem_map.mp updated
      rcases token old with same | differs
      · rw [same] at carries ⊢
        exact ⟨old, before, rfl, carries, rfl⟩
      · exact absurd carries differs
    · exact absurd carries (addedToken row new)
  · rintro ⟨row, inside, device, tenant⟩
    rcases holder row inside device tenant with stays | elsewhere
    · exact ⟨rewrite row, moved row inside, stays, (keys row).2.trans tenant⟩
    · exact elsewhere

section Writes

variable {other : String} (differs : other ≠ tokenHash)

include differs

theorem rotateToken {id : Nat} (done : act (.rotateToken id other) s = .ok (out, t)) :
    Tolerates tenantId remoteId tokenHash s t := by
  have customers : t.customers =
      s.customers.map (fun c => if isRow id c then rotate other c else c) ++ [] := by
    rw [rotateToken_ok done, List.append_nil]
    rfl
  apply of_rewrite customers
  · intro c
    split <;> exact ⟨rfl, rfl⟩
  · intro c
    split
    · exact .inr fun same => differs (Option.some.inj same)
    · exact .inl rfl
  · intro c none
    cases none
  · intro row _ device _
    left
    split <;> exact device

theorem insertCustomer {values : Customer} (token : values.heartbeatToken = some other)
    (done : act (.insertCustomer values) s = .ok (out, t)) :
    Tolerates tenantId remoteId tokenHash s t := by
  have customers : t.customers = s.customers.map id ++ [values.withId s.nextId] := by
    rw [(insertCustomer_ok done).2, List.map_id]
  apply of_rewrite customers
  · exact fun _ => ⟨rfl, rfl⟩
  · exact fun _ => .inl rfl
  · intro c new same
    rw [List.mem_singleton.mp new, Customer.withId_heartbeatToken, token] at same
    exact differs (Option.some.inj same)
  · exact fun _ _ device _ => .inl device

/-- The row that loses the device belongs to the tenant of the new row. -/
theorem moveToNew {source ofTenant : Nat} {stamp : Option Nat} {values : Customer}
    {resolves : Option (Nat × Nat)} {alert : Alert} (present : Present source ofTenant s)
    (token : values.heartbeatToken = some other) (device : values.remoteId = some remoteId)
    (tenant : values.tenantId = ofTenant)
    (done : act (.moveToNew source stamp remoteId values resolves alert) s = .ok (out, t)) :
    Tolerates tenantId remoteId tokenHash s t := by
  have customers : t.customers =
      s.customers.map (fun c => if isRow source c then detach stamp c else c) ++
        [values.withId s.nextId] := (moveToNew_ok done).2.1
  apply of_rewrite customers
  · intro c
    split <;> exact ⟨rfl, rfl⟩
  · intro c
    split
    · exact .inr fun same => nomatch same
    · exact .inl rfl
  · intro c new same
    rw [List.mem_singleton.mp new, Customer.withId_heartbeatToken, token] at same
    exact differs (Option.some.inj same)
  · intro row inside holds mine
    by_cases hit : isRow source row = true
    · right
      obtain ⟨held, there, id, owner⟩ := present
      have same : row = held := s.eq_of_id inside there ((beq_iff_eq.mp hit).trans id.symm)
      refine ⟨values.withId s.nextId, ?_, device, ?_⟩
      · rw [customers]
        exact List.mem_append_right _ List.mem_cons_self
      · rw [Customer.withId_tenantId, tenant, ← owner, ← same, mine]
    · left
      rw [if_neg hit]
      exact holds

/-- Both rows of a move belong to one tenant. -/
theorem moveDevice {source target ofTenant now : Nat} {alert : Alert}
    (present : Present source ofTenant s) (found : Present target ofTenant s)
    (done : act (.moveDevice source target remoteId other ofTenant now alert) s = .ok (out, t)) :
    Tolerates tenantId remoteId tokenHash s t := by
  let rewrite := fun c : Customer =>
    let detached := if isRow source c then detach none c else c
    if isRow target detached then attach remoteId other now detached else detached
  have customers : t.customers = s.customers.map rewrite ++ [] := by
    rw [(moveDevice_ok done).1, List.append_nil]
    exact List.map_map
  have attached : ∀ c : Customer, c.id = target → (rewrite c).remoteId = some remoteId := by
    intro c id
    have hit : isRow target (if isRow source c then detach none c else c) = true := by
      split <;> exact beq_iff_eq.mpr id
    show (if isRow target _ then _ else _ : Customer).remoteId = _
    rw [if_pos hit]
    rfl
  apply of_rewrite customers
  · intro c
    dsimp only [rewrite]
    split <;> split <;> exact ⟨rfl, rfl⟩
  · intro c
    dsimp only [rewrite]
    split
    · right
      split
      · exact fun same => differs (Option.some.inj same)
      · exact fun same => nomatch same
    · split
      · exact .inr fun same => differs (Option.some.inj same)
      · exact .inl rfl
  · intro c none
    cases none
  · intro row inside holds mine
    by_cases hit : isRow source row = true
    · right
      obtain ⟨held, there, id, owner⟩ := present
      obtain ⟨goal, goalThere, goalId, goalOwner⟩ := found
      have same : row = held := s.eq_of_id inside there ((beq_iff_eq.mp hit).trans id.symm)
      have tenant : (rewrite goal).tenantId = goal.tenantId := by
        dsimp only [rewrite]
        split <;> split <;> rfl
      refine ⟨rewrite goal, ?_, attached goal goalId, ?_⟩
      · rw [customers]
        exact List.mem_append_left _ (List.mem_map_of_mem goalThere)
      · rw [tenant, goalOwner, ← owner, ← same, mine]
    · left
      dsimp only [rewrite]
      rw [if_neg hit]
      split
      · rfl
      · exact holds

theorem replaceDevice {target ofTenant now : Nat} {old : Option String} {alert : Alert}
    (done : act (.replaceDevice target old remoteId other ofTenant now alert) s = .ok (out, t)) :
    Tolerates tenantId remoteId tokenHash s t := by
  have customers : t.customers =
      s.customers.map (fun c => if isRow target c then attach remoteId other now c else c) ++ [] := by
    rw [(replaceDevice_ok done).1, List.append_nil]
    rfl
  apply of_rewrite customers
  · intro c
    split <;> exact ⟨rfl, rfl⟩
  · intro c
    split
    · exact .inr fun same => differs (Option.some.inj same)
    · exact .inl rfl
  · intro c none
    cases none
  · intro row _ device _
    left
    split
    · rfl
    · exact device

end Writes

end Tolerates

namespace EnrollCall

variable {env : Runtime} {call : EnrollCall} {fault : DbError → Prop}
  {last : Option (Written Db Stmt)} {s : Db}

section Bystander

variable {tenantId : Nat} {tokenHash : String}

/-- What another call for the device guarantees to a call with this token hash, whatever else
runs. -/
def bystander (tenantId : Nat) (remoteId tokenHash : String) :
    Contract Db Stmt DbError EnrollResult where
  rely := Persists
  guar w := Tolerates tenantId remoteId tokenHash w.before w.after
  post _ _ := True
  refl _ row inside := ⟨row, inside, rfl, rfl⟩
  trans := Persists.trans

/-- A write of another call. -/
theorem bystander_write {stmt : Stmt} {next : List Customer → Client EnrollResult}
    {fail : DbError → Client EnrollResult}
    (tolerates : ∀ t, Persists s t → ∀ out u, act stmt t = .ok (out, u) →
      Tolerates tenantId call.remoteId tokenHash t u)
    (onward : ∀ out t last, Meets act fault (bystander tenantId call.remoteId tokenHash) (next out)
      last t)
    (failed : ∀ error t last, Meets act fault (bystander tenantId call.remoteId tokenHash)
      (fail error) last t) :
    Meets act fault (bystander tenantId call.remoteId tokenHash) (.write stmt next fail) last s :=
  fun t change => ⟨fun out u done => ⟨tolerates t change out u done, onward _ _ _⟩,
    fun error _ => failed error t last⟩

variable (differs : call.tokenHash env ≠ tokenHash)

include differs

theorem bystander_settle (error : DbError) :
    Meets act fault (bystander tenantId call.remoteId tokenHash) (call.settle env error) last s := by
  refine ⟨fun t _ => ?_, fun _ _ => trivial⟩
  dsimp only
  split
  · trivial
  · split
    · trivial
    · apply bystander_write
      · exact fun _ _ _ _ done => Tolerates.rotateToken differs done
      · exact fun _ _ _ => trivial
      · exact fun _ _ _ => trivial

theorem bystander_register (count : Nat) :
    Meets act fault (bystander tenantId call.remoteId tokenHash) (call.register env count) last
      s := by
  apply bystander_write
  · exact fun _ _ _ _ done => Tolerates.insertCustomer differs rfl done
  · intro rows t _
    split
    · exact bystander_settle differs _
    · apply bystander_write
      · exact fun _ _ _ _ done => Tolerates.of_customers (by rw [linkFavorites_ok done])
      · intro _ u _
        split
        · apply bystander_write
          · exact fun _ _ _ _ done => Tolerates.of_customers (by rw [insertAlert_ok done])
          · exact fun _ _ _ => trivial
          · exact fun _ _ _ => bystander_settle differs _
        · trivial
      · exact fun _ _ _ => bystander_settle differs _
  · exact fun _ _ _ => bystander_settle differs _

theorem bystander_judge {own : Option Customer} {found : List Customer}
    (held : ∀ row ∈ own, Present row.id call.tenantId s)
    (stores : ∀ row ∈ found, Present row.id call.tenantId s) :
    Meets act fault (bystander tenantId call.remoteId tokenHash) (call.judge env own found) last
      s := by
  apply judge_cases fun p =>
    Meets act fault (bystander tenantId call.remoteId tokenHash) p last s
  · intro row mine
    apply bystander_write
    · exact fun _ change _ _ done =>
        Tolerates.moveToNew differs (change.present (held row mine)) rfl rfl rfl done
    · exact fun _ _ _ => trivial
    · exact fun _ _ _ => trivial
  · intro row mine
    apply bystander_write
    · exact fun _ _ _ _ done => Tolerates.rotateToken differs done
    · exact fun _ _ _ => trivial
    · exact fun _ _ _ => trivial
  · intro row mine target sole _ _ _
    have there := stores target (sole ▸ List.mem_singleton_self target)
    apply bystander_write
    · exact fun _ change _ _ done => Tolerates.moveDevice differs
        (change.present (held row mine)) (change.present there) done
    · exact fun _ _ _ => trivial
    · exact fun _ _ _ => trivial
  · intro row mine
    apply bystander_write
    · exact fun _ _ _ _ done => Tolerates.rotateToken differs done
    · intro _ t _
      refine ⟨fun u _ => ?_, fun _ _ => trivial⟩
      dsimp only
      split
      · trivial
      · apply bystander_write
        · exact fun _ _ _ _ done => Tolerates.of_customers (by rw [insertAlert_ok done])
        · exact fun _ _ _ => trivial
        · exact fun _ _ _ => trivial
    · exact fun _ _ _ => trivial
  · intro _ target _ _
    apply bystander_write
    · exact fun _ _ _ _ done => Tolerates.replaceDevice differs done
    · exact fun _ _ _ => trivial
    · exact fun _ _ _ => bystander_register differs _
  · exact fun _ => bystander_register differs _

end Bystander

/-- The rows that a call reads are the tenant's. -/
theorem present_matches {own : Option Customer} {db : Db} :
    ∀ row ∈ call.nameMatches env own db.customers, Present row.id call.tenantId db := by
  intro row found
  have facts := mem_nameMatches found
  exact ⟨row, facts.1, rfl, facts.2.1⟩

/-- The row of the device is the tenant's, once the call has gone on. -/
theorem present_byId {db : Db}
    (mine : ¬ (call.byId db.customers).any (fun row => row.tenantId != call.tenantId) = true) :
    ∀ row ∈ call.byId db.customers, Present row.id call.tenantId db := by
  intro row held
  rw [Option.mem_def.mp held] at mine
  exact ⟨row, (byId_some held).1, rfl, by simpa using mine⟩

/-- Any call of the device keeps the guarantee. -/
theorem bystander_enrollCustomer {tenantId : Nat} {tokenHash : String}
    (differs : call.tokenHash env ≠ tokenHash) :
    Meets act fault (bystander tenantId call.remoteId tokenHash) (call.enrollCustomer env) last
      s := by
  refine ⟨fun t _ => ?_, fun _ _ => trivial⟩
  dsimp only
  split
  · trivial
  · rename_i mine
    have held := present_byId mine
    split
    · exact bystander_judge differs held fun _ inside => absurd inside List.not_mem_nil
    · refine ⟨fun u change => ?_, fun _ _ => trivial⟩
      exact bystander_judge differs (fun row own => change.present (held row own)) present_matches

section Agreement

variable (env call)

/-- The device id is in exactly one row, which belongs to the tenant and has the token, and
heartbeats with both are accepted as long as the row keeps them. -/
def Agrees (db : Db) : Prop :=
  ∃ row, db.customers.filter (fun c => c.remoteId == some call.remoteId) = [row] ∧
    row.tenantId = call.tenantId ∧ row.heartbeatToken = some (call.tokenHash env) ∧
    ∀ later : List Customer,
      (∃ same ∈ later, same.id = row.id ∧ same.remoteId = row.remoteId ∧
        same.heartbeatToken = row.heartbeatToken) →
      ∀ now beat, (recordHeartbeat env.hashHeartbeatToken now call.remoteId call.plaintext beat
        later).1 = true

/-- A row holds the device id. -/
def HoldsDevice (id : Nat) (db : Db) : Prop :=
  ∃ row ∈ db.customers, row.id = id ∧ row.remoteId = some call.remoteId

/-- A row holds the device id and the token of the call. -/
def Carries (id : Nat) (db : Db) : Prop :=
  ∃ row ∈ db.customers, row.id = id ∧ row.remoteId = some call.remoteId ∧
    row.heartbeatToken = some (call.tokenHash env)

/-- A write finds the row it is about as the call left it: with the device id where it sets the
token, with device id and token where these were set before. A write that sets the device id
itself needs nothing. -/
def Undisturbed (w : Written Db Stmt) : Prop :=
  match w.stmt with
  | .rotateToken id _ => call.HoldsDevice id w.before
  | .linkFavorites _ id _ => call.Carries env id w.before
  | .insertAlert values => ∀ id ∈ values.customerId, call.Carries env id w.before
  | _ => True

/-- Only one row can have both the device id and the token. -/
def Sole (id : Nat) (db : Db) : Prop :=
  ∀ row ∈ db.customers, row.remoteId = some call.remoteId →
    row.heartbeatToken = some (call.tokenHash env) → row.id = id

end Agreement

section Claimant

variable (named : call.remoteId ≠ "")

include named

/-- Rows with the device id are one row. -/
theorem filter_eq_singleton {db : Db} {row : Customer} (inside : row ∈ db.customers)
    (device : row.remoteId = some call.remoteId) :
    db.customers.filter (fun c => c.remoteId == some call.remoteId) = [row] := by
  have there : row ∈ db.customers.filter (fun c => c.remoteId == some call.remoteId) :=
    List.mem_filter.mpr ⟨inside, beq_iff_eq.mpr device⟩
  have equal : ∀ c ∈ db.customers.filter (fun c => c.remoteId == some call.remoteId), c = row := by
    intro c found
    have facts := List.mem_filter.mp found
    exact db.eq_of_remoteId named facts.1 inside (beq_iff_eq.mp facts.2) device
  have unique : (db.customers.filter (fun c => c.remoteId == some call.remoteId)).Nodup :=
    (List.Nodup.of_map _ db.valid.customerIds).filter _
  generalize db.customers.filter (fun c => c.remoteId == some call.remoteId) = rows at *
  match rows with
  | [] => cases there
  | [c] => rw [equal c List.mem_cons_self]
  | c :: d :: rest =>
    have first := equal c List.mem_cons_self
    have second := equal d (List.mem_cons_of_mem _ List.mem_cons_self)
    have apart := (List.nodup_cons.mp unique).1
    rw [first, second] at apart
    exact absurd List.mem_cons_self apart

/-- The agreement is that some row has everything. -/
theorem agrees_iff {db : Db} : call.Agrees env db ↔
    ∃ row ∈ db.customers, row.remoteId = some call.remoteId ∧ row.tenantId = call.tenantId ∧
      row.heartbeatToken = some (call.tokenHash env) := by
  constructor
  · rintro ⟨row, sole, tenant, token, -⟩
    have found : row ∈ db.customers.filter (fun c => c.remoteId == some call.remoteId) :=
      sole ▸ List.mem_singleton_self row
    have facts := List.mem_filter.mp found
    exact ⟨row, facts.1, beq_iff_eq.mp facts.2, tenant, token⟩
  · rintro ⟨row, inside, device, tenant, token⟩
    refine ⟨row, filter_eq_singleton named inside device, tenant, token, ?_⟩
    rintro later ⟨same, there, -, remote, carried⟩ now beat
    apply List.any_eq_true.mpr
    refine ⟨same, there, ?_⟩
    unfold selects
    rw [remote, carried, device, token]
    simp [tokenHash]

theorem agrees_congr {db after : Db} (customers : after.customers = db.customers) :
    call.Agrees env after ↔ call.Agrees env db := by
  rw [agrees_iff named, agrees_iff named, customers]

/-- A row with the device id is the only one that can have both. -/
theorem sole_of_holder {db : Db} {row : Customer} (inside : row ∈ db.customers)
    (device : row.remoteId = some call.remoteId) : call.Sole env row.id db := by
  intro other there remote _
  rw [db.eq_of_remoteId named there inside remote device]

/-- Where one row can have both, the agreement is that it does. -/
theorem agrees_iff_carries {db : Db} {id : Nat} (present : Present id call.tenantId db)
    (sole : call.Sole env id db) : call.Agrees env db ↔ call.Carries env id db := by
  rw [agrees_iff named]
  constructor
  · rintro ⟨row, inside, device, _, token⟩
    exact ⟨row, inside, sole row inside device token, device, token⟩
  · rintro ⟨row, inside, same, device, token⟩
    obtain ⟨held, there, heldId, tenant⟩ := present
    have equal : row = held := db.eq_of_id inside there (same.trans heldId.symm)
    exact ⟨row, inside, device, equal ▸ tenant, token⟩

/-- A rotation of the token by row id achieves the agreement where the row holds the device id. -/
theorem agrees_rotateToken {t u : Db} {id : Nat} {out : List Customer}
    (present : Present id call.tenantId t) (sole : call.Sole env id t)
    (done : act (.rotateToken id (call.tokenHash env)) t = .ok (out, u)) :
    call.Agrees env u ↔ call.HoldsDevice id t := by
  have customers : u.customers =
      updateWhere (isRow id) (rotate (call.tokenHash env)) t.customers := by
    rw [rotateToken_ok done]
  rw [agrees_iff named, customers]
  constructor
  · rintro ⟨row, inside, device, _, token⟩
    rcases mem_updateWhere.mp inside with ⟨old, before, hit, rfl⟩ | ⟨before, _⟩
    · exact ⟨old, before, beq_iff_eq.mp hit, device⟩
    · exact ⟨row, before, sole row before device token, device⟩
  · rintro ⟨row, inside, same, device⟩
    obtain ⟨held, there, heldId, tenant⟩ := present
    have equal : row = held := t.eq_of_id inside there (same.trans heldId.symm)
    have hit : isRow id row = true := beq_iff_eq.mpr same
    exact ⟨rotate (call.tokenHash env) row, mem_updateWhere_of_hit inside hit, device,
      equal ▸ tenant, rfl⟩

end Claimant

section Contract

variable (env call)

/-- What a call achieves for the token it hands out, among calls that tolerate it; `quiet` says
that there are none. -/
def claimant (quiet : Prop) : Contract Db Stmt DbError EnrollResult where
  rely s t := Tolerates call.tenantId call.remoteId (call.tokenHash env) s t ∧ (quiet → t = s)
  guar w := Persists w.before w.after
  post last result :=
    match result with
    | .ok (.token plaintext _) => plaintext = call.plaintext ∧ ∃ w, last = some w ∧
        (call.Agrees env w.after ↔ call.Undisturbed env w) ∧ (quiet → call.Undisturbed env w)
    | .ok .crossTenant => last = none
    | .error _ => True
  refl s := ⟨Tolerates.refl s, fun _ => rfl⟩
  trans first second := ⟨first.1.trans second.1, fun still =>
    (second.2 still).trans (first.2 still)⟩

/-- The row that the call is about, before its token is on it. -/
structure Chosen (quiet : Prop) (id : Nat) (db : Db) : Prop where
  present : Present id call.tenantId db
  sole : call.Sole env id db
  quietly : quiet → call.HoldsDevice id db

/-- The row that the call has put its token on. -/
structure Kept (quiet : Prop) (id : Nat) (db : Db) : Prop where
  present : Present id call.tenantId db
  sole : call.Sole env id db
  quietly : quiet → call.Carries env id db

variable {env call} {quiet : Prop} {t u : Db} {id : Nat} {out : List Customer}

theorem Sole.stable (sole : call.Sole env id s)
    (change : Tolerates call.tenantId call.remoteId (call.tokenHash env) s t) :
    call.Sole env id t := by
  intro row inside device token
  obtain ⟨old, before, same, oldToken, oldRemote⟩ := change.foreign row inside token
  rw [← same]
  exact sole old before (oldRemote.trans device) oldToken

theorem Chosen.stable (chosen : call.Chosen env quiet id s)
    (change : (call.claimant env quiet).rely s t) : call.Chosen env quiet id t where
  present := change.1.persists.present chosen.present
  sole := chosen.sole.stable change.1
  quietly still := change.2 still ▸ chosen.quietly still

theorem Kept.stable (kept : call.Kept env quiet id s)
    (change : (call.claimant env quiet).rely s t) : call.Kept env quiet id t where
  present := change.1.persists.present kept.present
  sole := kept.sole.stable change.1
  quietly still := change.2 still ▸ kept.quietly still

theorem Kept.congr (kept : call.Kept env quiet id s) (customers : t.customers = s.customers) :
    call.Kept env quiet id t := by
  obtain ⟨present, sole, quietly⟩ := kept
  refine ⟨?_, ?_, ?_⟩
  · unfold Present
    rw [customers]
    exact present
  · unfold Sole
    rw [customers]
    exact sole
  · unfold Carries
    rw [customers]
    exact quietly

/-- A write of the call: rows persist, and both outcomes go on. -/
theorem claimant_write {stmt : Stmt} {next : List Customer → Client EnrollResult}
    {fail : DbError → Client EnrollResult}
    (spares : ∀ id tenantId, stmt ≠ .deleteCustomer id tenantId)
    (onward : ∀ t, (call.claimant env quiet).rely s t → ∀ out u, act stmt t = .ok (out, u) →
      Meets act fault (call.claimant env quiet) (next out) (some ⟨stmt, t, u⟩) u)
    (failed : ∀ t, (call.claimant env quiet).rely s t → ∀ error,
      Meets act fault (call.claimant env quiet) (fail error) last t) :
    Meets act fault (call.claimant env quiet) (.write stmt next fail) last s :=
  fun t change => ⟨fun out u done => ⟨act_persists done spares, onward t change out u done⟩,
    fun error _ => failed t change error⟩

theorem claimant_handOut {w : Written Db Stmt} (created : Bool)
    (agrees : call.Agrees env w.after ↔ call.Undisturbed env w)
    (quietly : quiet → call.Undisturbed env w) :
    Meets act fault (call.claimant env quiet) (call.handOut created) (some w) s :=
  ⟨rfl, w, rfl, agrees, quietly⟩

/-- A write that puts the device and the token on a row of the tenant hands the token out. -/
theorem claimant_placed {stmt : Stmt} (created : Bool) (named : call.remoteId ≠ "")
    (placed : ∃ row ∈ u.customers, row.remoteId = some call.remoteId ∧
      row.tenantId = call.tenantId ∧ row.heartbeatToken = some (call.tokenHash env))
    (needsNothing : call.Undisturbed env ⟨stmt, t, u⟩) :
    Meets act fault (call.claimant env quiet) (call.handOut created) (some ⟨stmt, t, u⟩) s :=
  claimant_handOut created (iff_of_true ((agrees_iff named).mpr placed) needsNothing)
    fun _ => needsNothing

/-- After a rotation the row is kept. -/
theorem kept_rotated (chosen : call.Chosen env quiet id t)
    (done : act (.rotateToken id (call.tokenHash env)) t = .ok (out, u)) :
    call.Kept env quiet id u := by
  have customers : u.customers =
      updateWhere (isRow id) (rotate (call.tokenHash env)) t.customers := by
    rw [rotateToken_ok done]
  have persists := act_persists done (fun _ _ same => nomatch same)
  refine ⟨persists.present chosen.present, ?_, ?_⟩
  · intro row inside device token
    rw [customers] at inside
    rcases mem_updateWhere.mp inside with ⟨old, before, hit, rfl⟩ | ⟨before, _⟩
    · exact beq_iff_eq.mp hit
    · exact chosen.sole row before device token
  · intro still
    obtain ⟨row, inside, same, device⟩ := chosen.quietly still
    refine ⟨rotate (call.tokenHash env) row, ?_, same, device, rfl⟩
    rw [customers]
    exact mem_updateWhere_of_hit inside (beq_iff_eq.mpr same)

variable (named : call.remoteId ≠ "")

include named

/-- The last write of a call that only rotates the token. -/
theorem claimant_rotated (created : Bool) (chosen : call.Chosen env quiet id t)
    (done : act (.rotateToken id (call.tokenHash env)) t = .ok (out, u)) :
    Meets act fault (call.claimant env quiet) (call.handOut created)
      (some ⟨.rotateToken id (call.tokenHash env), t, u⟩) s :=
  claimant_handOut created (agrees_rotateToken named chosen.present chosen.sole done)
    chosen.quietly

/-- The last write of a call that has put its token on a row before. -/
theorem claimant_followed {stmt : Stmt} (created : Bool) (kept : call.Kept env quiet id t)
    (customers : u.customers = t.customers)
    (about : call.Undisturbed env ⟨stmt, t, u⟩ ↔ call.Carries env id t) :
    Meets act fault (call.claimant env quiet) (call.handOut created) (some ⟨stmt, t, u⟩) s := by
  apply claimant_handOut
  · rw [about, agrees_congr named customers]
    exact agrees_iff_carries named kept.present kept.sole
  · exact fun still => about.mpr (kept.quietly still)

/-- The settlement hands out the token for the row that holds the device id, and reports a
foreign one only where nothing was written. -/
theorem claimant_settle (error : DbError)
    (start : last = none ∨
      ∃ row ∈ s.customers, row.remoteId = some call.remoteId ∧ row.tenantId = call.tenantId) :
    Meets act fault (call.claimant env quiet) (call.settle env error) last s := by
  refine ⟨fun t change => ?_, fun _ _ => trivial⟩
  dsimp only
  split
  · trivial
  · rename_i row held
    obtain ⟨inside, device⟩ := byId_some held
    split
    · rename_i foreign
      rcases start with nothing | placed
      · exact nothing
      · obtain ⟨mine, there, remote, tenant⟩ := change.1.holder placed
        rw [t.eq_of_remoteId named there inside remote device] at tenant
        exact absurd tenant foreign
    · rename_i mine
      have chosen : call.Chosen env quiet row.id t :=
        ⟨⟨row, inside, rfl, not_not.mp mine⟩, sole_of_holder named inside device,
          fun _ => ⟨row, inside, rfl, device⟩⟩
      apply claimant_write
      · exact fun _ _ same => nomatch same
      · exact fun u later out v done => claimant_rotated named false (chosen.stable later) done
      · exact fun _ _ _ => trivial

theorem claimant_register (count : Nat) (nothing : last = none) :
    Meets act fault (call.claimant env quiet) (call.register env count) last s := by
  apply claimant_write
  · exact fun _ _ same => nomatch same
  · intro t _ out u done
    obtain ⟨returned, after⟩ := insertCustomer_ok done
    have inside : (call.newRow env).withId t.nextId ∈ u.customers := by
      rw [after]
      exact List.mem_append_right _ List.mem_cons_self
    have placed : ∃ row ∈ u.customers, row.remoteId = some call.remoteId ∧
        row.tenantId = call.tenantId := ⟨_, inside, rfl, rfl⟩
    have kept : call.Kept env quiet t.nextId u :=
      ⟨⟨_, inside, rfl, rfl⟩, sole_of_holder named inside rfl, fun _ => ⟨_, inside, rfl, rfl, rfl⟩⟩
    rw [returned]
    dsimp only
    apply claimant_write
    · exact fun _ _ same => nomatch same
    · intro v later _ x linked
      have customers : x.customers = v.customers := by rw [linkFavorites_ok linked]
      have still := kept.stable later
      split
      · have placedHere : ∃ row ∈ x.customers, row.remoteId = some call.remoteId ∧
            row.tenantId = call.tenantId := customers.symm ▸ later.1.holder placed
        apply claimant_write
        · exact fun _ _ same => nomatch same
        · intro y after _ z alerted
          apply claimant_followed named true ((still.congr customers).stable after)
            (by rw [insertAlert_ok alerted])
          simp [Undisturbed, alert]
        · exact fun y after _ => claimant_settle named _ (.inr (after.1.holder placedHere))
      · exact claimant_followed named true still customers Iff.rfl
    · exact fun v later _ => claimant_settle named _ (.inr (later.1.holder placed))
  · exact fun _ _ _ => claimant_settle named _ (.inl nothing)

/-- Every branch of the judgement, for the rows the call has read. -/
theorem claimant_judge {own : Option Customer} {found : List Customer} (nothing : last = none)
    (held : ∀ row ∈ own, call.Chosen env quiet row.id s)
    (stores : ∀ row ∈ found, Present row.id call.tenantId s)
    (apart : ∀ row ∈ own, ∀ target ∈ found, target.id ≠ row.id) :
    Meets act fault (call.claimant env quiet) (call.judge env own found) last s := by
  apply judge_cases fun p => Meets act fault (call.claimant env quiet) p last s
  · intro row mine
    apply claimant_write
    · exact fun _ _ same => nomatch same
    · intro t _ out u done
      refine claimant_placed true named ⟨(call.siteRow env).withId t.nextId, ?_, rfl, rfl, rfl⟩ trivial
      rw [(moveToNew_ok done).2.1]
      exact List.mem_append_right _ List.mem_cons_self
    · exact fun _ _ _ => trivial
  · intro row mine
    apply claimant_write
    · exact fun _ _ same => nomatch same
    · exact fun t change out u done =>
        claimant_rotated named false ((held row mine).stable change) done
    · exact fun _ _ _ => trivial
  · intro row mine target sole _ _ _
    have inFound : target ∈ found := sole ▸ List.mem_singleton_self target
    apply claimant_write
    · exact fun _ _ same => nomatch same
    · intro t change out u done
      obtain ⟨store, there, id, tenant⟩ := change.1.persists.present (stores target inFound)
      have other : isRow row.id store = false := by
        simpa [isRow, id] using apart row mine target inFound
      refine claimant_placed false named
        ⟨attach call.remoteId (call.tokenHash env) call.now store, ?_, rfl, tenant, rfl⟩ trivial
      rw [(moveDevice_ok done).1]
      apply mem_updateWhere_of_hit (mem_updateWhere_of_miss there other)
      exact beq_iff_eq.mpr id
    · exact fun _ _ _ => trivial
  · intro row mine
    apply claimant_write
    · exact fun _ _ same => nomatch same
    · intro t change out u done
      have chosen := (held row mine).stable change
      have kept := kept_rotated chosen done
      refine ⟨fun v later => ?_, fun _ _ => trivial⟩
      dsimp only
      split
      · exact claimant_rotated named false chosen done
      · apply claimant_write
        · exact fun _ _ same => nomatch same
        · intro x after _ y alerted
          apply claimant_followed named false ((kept.stable later).stable after)
            (by rw [insertAlert_ok alerted])
          simp [Undisturbed, alert]
        · exact fun _ _ _ => trivial
    · exact fun _ _ _ => trivial
  · intro _ target sole _
    have inFound : target ∈ found := sole ▸ List.mem_singleton_self target
    apply claimant_write
    · exact fun _ _ same => nomatch same
    · intro t change out u done
      obtain ⟨store, there, id, tenant⟩ := change.1.persists.present (stores target inFound)
      refine claimant_placed false named
        ⟨attach call.remoteId (call.tokenHash env) call.now store, ?_, rfl, tenant, rfl⟩ trivial
      rw [(replaceDevice_ok done).1]
      exact mem_updateWhere_of_hit there (beq_iff_eq.mpr id)
    · exact fun _ _ _ => claimant_register named _ nothing
  · exact fun _ => claimant_register named _ nothing

/-- A call keeps its contract from any database. -/
theorem claimant_enrollCustomer (quiet : Prop) :
    Meets act fault (call.claimant env quiet) (call.enrollCustomer env) none s := by
  refine ⟨fun t _ => ?_, fun _ _ => trivial⟩
  dsimp only
  split
  · rfl
  · rename_i mine
    have held : ∀ row ∈ call.byId t.customers, call.Chosen env quiet row.id t := by
      intro row own
      obtain ⟨inside, device⟩ := byId_some own
      exact ⟨present_byId mine row own, sole_of_holder named inside device,
        fun _ => ⟨row, inside, rfl, device⟩⟩
    split
    · exact claimant_judge named rfl held (fun _ inside => absurd inside List.not_mem_nil)
        fun _ _ _ inside => absurd inside List.not_mem_nil
    · refine ⟨fun u change => ?_, fun _ _ => trivial⟩
      apply claimant_judge named rfl (fun row own => (held row own).stable change) present_matches
      exact fun row own target found => (mem_nameMatches found).2.2.1 row own

end Contract

end EnrollCall

/-- A call of `enrollCustomer` among any calls for the same device, of any tenants, with faults
anywhere. The token it hands out agrees with the row at its last write exactly where that
write found the row undisturbed, which is always so without other calls; a call that reports a
foreign device has written nothing. -/
theorem enroll_agrees_iff_undisturbed {ι : Type} [DecidableEq ι] (env : Runtime)
    (call : EnrollCall) (others : ι → EnrollCall) (s t : Db) (log : List (Written Db Stmt))
    (rest : ι → Client EnrollResult) (result : Except DbError EnrollResult)
    (named : call.remoteId ≠ "") (sameDevice : ∀ i, (others i).remoteId = call.remoteId)
    (distinct : ∀ i, (others i).tokenHash env ≠ call.tokenHash env)
    (par : (call.enrollCustomer env).Par act (fun _ => True)
      (fun i => (others i).enrollCustomer env) s log (.done result) rest t) :
    match result with
    | .ok (.token plaintext _) => plaintext = call.plaintext ∧ ∃ w, log.getLast? = some w ∧
        (call.Agrees env w.after ↔ call.Undisturbed env w) ∧
        (IsEmpty ι → call.Agrees env w.after)
    | .ok .crossTenant => log = []
    | .error _ => True := by
  have theirs : ∀ i, Meets act (fun _ => True)
      (EnrollCall.bystander call.tenantId call.remoteId (call.tokenHash env))
      ((others i).enrollCustomer env) none s := by
    intro i
    rw [← sameDevice i]
    exact EnrollCall.bystander_enrollCustomer (distinct i)
  have met := (par.meets (EnrollCall.claimant_enrollCustomer named (IsEmpty ι)) theirs
    (fun i w within => ⟨within, fun none => none.elim i⟩) (fun _ _ within => within)
    (fun _ _ _ _ within => within.persists)).1.post
  have final : lastWrite none log = log.getLast? := Option.or_none
  rw [final] at met
  cases result with
  | error error => trivial
  | ok value =>
    cases value with
    | crossTenant => exact List.getLast?_eq_none_iff.mp met
    | token plaintext created =>
      obtain ⟨same, w, last, agrees, quietly⟩ := met
      exact ⟨same, w, last, agrees, fun none => agrees.mpr (quietly none)⟩

/-- One store with its device. -/
def oneStore : Db where
  customers := [{ id := 0, tenantId := 1, name := "cafe", remoteId := some "100" }]
  favorites := []
  alerts := []
  nextId := 1
  valid := by decide

/-- A reinstallation at the store. -/
def reinstallCall : EnrollCall := ⟨{ remoteId := "100", name := some "cafe" }, 1, "t1", 0⟩

/-- The installer takes the same device to a new site. -/
def newSiteCall : EnrollCall :=
  ⟨{ remoteId := "100", name := some "bar", newSite := true }, 1, "t2", 0⟩

/-- The reinstallation and the move to a new site, as a schedule runs them. -/
def woven (turns : List (Option Unit)) :
    Client EnrollResult × (Unit → Client EnrollResult) × Db × List (Written Db Stmt) :=
  weave act turns (reinstallCall.enrollCustomer plainRuntime)
    (fun _ => newSiteCall.enrollCustomer plainRuntime) oneStore []

theorem par_woven (turns : List (Option Unit)) :
    (reinstallCall.enrollCustomer plainRuntime).Par act (fun _ => True)
      (fun _ => newSiteCall.enrollCustomer plainRuntime) oneStore (woven turns).2.2.2
      (woven turns).1 (woven turns).2.1 (woven turns).2.2.1 :=
  par_weave act .refl turns

/-- The reinstallation runs first: its token agrees with the row. -/
theorem enroll_agrees_in_turn : ∃ log rest t w,
    (reinstallCall.enrollCustomer plainRuntime).Par act (fun _ => True)
      (fun _ : Unit => newSiteCall.enrollCustomer plainRuntime) oneStore log
      (.done (.ok (.token "t1" false))) rest t ∧
    log.getLast? = some w ∧
    (reinstallCall.Agrees plainRuntime w.after ↔ reinstallCall.Undisturbed plainRuntime w) := by
  have par := par_woven [none, none, none, some (), some (), some ()]
  have finished : (woven [none, none, none, some (), some (), some ()]).1.outcome =
      some (.ok (.token "t1" false)) := by decide +kernel
  rw [Prog.eq_done finished] at par
  obtain ⟨-, w, last, agrees, -⟩ := enroll_agrees_iff_undisturbed plainRuntime reinstallCall
    (fun _ => newSiteCall) _ _ _ _ _ (by decide +kernel) (fun _ => by decide +kernel)
    (fun _ => by decide +kernel) par
  exact ⟨_, _, _, w, par, last, agrees⟩

/-- The move to the new site runs between the reads and the write of the reinstallation: the
token handed out is on a row without the device. -/
theorem enroll_disagrees_after_move : ∃ log rest t w,
    (reinstallCall.enrollCustomer plainRuntime).Par act (fun _ => True)
      (fun _ : Unit => newSiteCall.enrollCustomer plainRuntime) oneStore log
      (.done (.ok (.token "t1" false))) rest t ∧
    log.getLast? = some w ∧ ¬ reinstallCall.Agrees plainRuntime w.after := by
  have par := par_woven [none, none, some (), some (), some (), none]
  have finished : (woven [none, none, some (), some (), some (), none]).1.outcome =
      some (.ok (.token "t1" false)) := by decide +kernel
  rw [Prog.eq_done finished] at par
  have bad : (woven [none, none, some (), some (), some (), none]).2.2.2.getLast?.any (fun w =>
      decide (¬ ∃ row ∈ w.after.customers, row.remoteId = some reinstallCall.remoteId ∧
        row.tenantId = reinstallCall.tenantId ∧
        row.heartbeatToken = some (reinstallCall.tokenHash plainRuntime))) = true := by
    decide +kernel
  obtain ⟨w, last, apart⟩ := (Option.any_eq_true _ _).mp bad
  refine ⟨_, _, _, w, par, last, ?_⟩
  rw [EnrollCall.agrees_iff (by decide +kernel)]
  exact of_decide_eq_true apart

end ChainRemote.Panel
