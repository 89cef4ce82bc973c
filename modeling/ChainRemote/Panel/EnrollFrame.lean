import ChainRemote.Panel.Enroll

/-!
# What an enrollment leaves alone

A call that runs without others between its statements writes to the rows that hold its
device id, to a row it takes over and to rows of its own; `Spares` says so for any set of
rows that no takeover hits. Every statement may fail at any point, so the exception
paths are part of it. The safety pin is the case of the rows with a living device.
-/

namespace ChainRemote.Panel

open Lib

namespace EnrollCall

section Rows

variable {rows : List Customer} {own row : Customer}

/-- An update of one row by its id leaves the other rows. -/
theorem mem_updateRow (unique : (rows.map Customer.id).Nodup) (set : Customer → Customer)
    (held : own ∈ rows) (inside : row ∈ rows) (apart : row ≠ own) :
    row ∈ updateWhere (isRow own.id) set rows := by
  apply mem_updateWhere_of_miss inside
  have ids : row.id ≠ own.id := fun same => apart (eq_of_key unique inside held same)
  simpa [isRow] using ids

/-- An update of one row by its id leaves the other tenants' rows. -/
theorem filter_updateRow (unique : (rows.map Customer.id).Nodup) (set : Customer → Customer)
    (kept : ∀ c, (set c).tenantId = c.tenantId) (held : own ∈ rows) :
    (updateWhere (isRow own.id) set rows).filter (fun c => c.tenantId != own.tenantId) =
      rows.filter fun c => c.tenantId != own.tenantId := by
  apply filter_updateWhere
  intro c inside hit
  have ids : c.id = own.id := by simpa [isRow] using hit
  rw [kept, eq_of_key unique inside held ids]
  simp

end Rows

/-- What a change of the database does not touch: the rows of `spared` that do not hold the
device id, and everything of other tenants. -/
structure Spares (call : EnrollCall) (spared : Customer → Prop) (s t : Db) : Prop where
  rows : ∀ row ∈ s.customers, row.remoteId ≠ some call.remoteId → spared row → row ∈ t.customers
  customers : t.customers.filter (fun c => c.tenantId != call.tenantId) =
    s.customers.filter fun c => c.tenantId != call.tenantId
  favorites : t.favorites.filter (fun f => f.tenantId != call.tenantId) =
    s.favorites.filter fun f => f.tenantId != call.tenantId
  alerts : t.alerts.filter (fun a => a.tenantId != call.tenantId) =
    s.alerts.filter fun a => a.tenantId != call.tenantId

variable {env : Runtime} {call : EnrollCall} {spared : Customer → Prop} {s t u : Db}
  {out : List Customer}

theorem Spares.refl (s : Db) : call.Spares spared s s :=
  ⟨fun _ inside _ _ => inside, rfl, rfl, rfl⟩

theorem Spares.trans (first : call.Spares spared s t) (second : call.Spares spared t u) :
    call.Spares spared s u where
  rows row inside other kept := second.rows row (first.rows row inside other kept) other kept
  customers := second.customers.trans first.customers
  favorites := second.favorites.trans first.favorites
  alerts := second.alerts.trans first.alerts

/-- The favourites of another tenant are never those of a device of this one. -/
theorem filter_ofDevice {favorites : List Favorite} {here : Favorite → Bool}
    {set : Favorite → Favorite} {tenantId : Nat} (mine : ∀ f, here f = true → f.tenantId = tenantId)
    (kept : ∀ f, (set f).tenantId = f.tenantId) :
    (updateWhere here set favorites).filter (fun f => f.tenantId != tenantId) =
      favorites.filter fun f => f.tenantId != tenantId := by
  apply filter_updateWhere
  intro f _ hit
  rw [kept, mine f hit]
  simp

theorem ofDevice_tenant {remoteId : String} {tenantId : Nat} {f : Favorite}
    (hit : ofDevice remoteId tenantId f = true) : f.tenantId = tenantId := by
  simp only [ofDevice, Bool.and_eq_true, beq_iff_eq] at hit
  exact hit.2

/-- A list with one more row of the tenant has the same rows of other tenants. -/
theorem filter_append_own {α : Type} {rows : List α} (tenant : α → Nat) {tenantId : Nat} {row : α}
    (mine : tenant row = tenantId) :
    (rows ++ [row]).filter (fun r => tenant r != tenantId) =
      rows.filter fun r => tenant r != tenantId := by
  rw [List.filter_append, List.filter_singleton, mine]
  simp

/-- A token rotation on a row that holds the device id. -/
theorem spares_rotateToken {own : Customer} {tokenHash : String} (held : own ∈ s.customers)
    (device : own.remoteId = some call.remoteId) (tenant : own.tenantId = call.tenantId)
    (done : act (.rotateToken own.id tokenHash) s = .ok (out, t)) : call.Spares spared s t := by
  have after := rotateToken_ok done
  have customers : t.customers = updateWhere (isRow own.id) (rotate tokenHash) s.customers := by
    rw [after]
  refine ⟨fun row inside other _ => ?_, ?_, by rw [after], by rw [after]⟩
  · rw [customers]
    apply mem_updateRow s.valid.customerIds _ held inside
    intro same
    exact other (same ▸ device)
  · rw [customers, ← tenant]
    exact filter_updateRow s.valid.customerIds _ (fun _ => rfl) held

theorem spares_insertCustomer (done : act (.insertCustomer (call.newRow env)) s = .ok (out, t)) :
    call.Spares spared s t := by
  have after := (insertCustomer_ok done).2
  refine ⟨fun row inside _ _ => ?_, ?_, by rw [after], by rw [after]⟩
  · rw [after]
    exact List.mem_append_left _ inside
  · rw [after]
    exact filter_append_own Customer.tenantId rfl

theorem spares_linkFavorites {customerId : Nat}
    (done : act (.linkFavorites call.remoteId customerId call.tenantId) s = .ok (out, t)) :
    call.Spares spared s t := by
  have after := linkFavorites_ok done
  refine ⟨fun row inside _ _ => by rw [after]; exact inside, by rw [after], ?_, by rw [after]⟩
  rw [after]
  apply filter_ofDevice
  · intro f hit
    exact ofDevice_tenant (Bool.and_eq_true_iff.mp hit).1
  · exact fun _ => rfl

theorem spares_insertAlert {values : Alert} (mine : values.tenantId = call.tenantId)
    (done : act (.insertAlert values) s = .ok (out, t)) : call.Spares spared s t := by
  have after := insertAlert_ok done
  refine ⟨fun row inside _ _ => by rw [after]; exact inside, by rw [after], by rw [after], ?_⟩
  rw [after]
  exact filter_append_own Alert.tenantId mine

/-- The move to a new row detaches the row that holds the device id. -/
theorem spares_moveToNew {own : Customer} {stamp : Option Nat} {values : Customer} {alert : Alert}
    (held : own ∈ s.customers) (device : own.remoteId = some call.remoteId)
    (tenant : own.tenantId = call.tenantId) (site : values.tenantId = call.tenantId)
    (mine : alert.tenantId = call.tenantId)
    (done : act (.moveToNew own.id stamp call.remoteId values none alert) s = .ok (out, t)) :
    call.Spares spared s t := by
  obtain ⟨-, customers, favorites, alerts⟩ := moveToNew_ok done
  refine ⟨fun row inside other _ => ?_, ?_, ?_, ?_⟩
  · rw [customers]
    apply List.mem_append_left
    apply mem_updateRow s.valid.customerIds _ held inside
    intro same
    exact other (same ▸ device)
  · rw [customers]
    refine (filter_append_own Customer.tenantId ?_).trans ?_
    · exact site
    rw [← tenant]
    exact filter_updateRow s.valid.customerIds _ (fun _ => rfl) held
  · rw [favorites, site]
    exact filter_ofDevice (fun _ hit => ofDevice_tenant hit) (fun _ => rfl)
  · rw [alerts]
    refine (filter_append_own Alert.tenantId ?_).trans ?_
    · exact mine
    apply filter_updateWhere
    intro a _ hit
    cases hit

/-- The move to another row detaches the row that holds the device id and rewrites the target. -/
theorem spares_moveDevice {own target : Customer} {tokenHash : String} {now : Nat} {alert : Alert}
    (held : own ∈ s.customers) (device : own.remoteId = some call.remoteId)
    (tenant : own.tenantId = call.tenantId) (found : target ∈ s.customers)
    (apart : target.id ≠ own.id) (targetTenant : target.tenantId = call.tenantId)
    (taken : ¬ spared target) (mine : alert.tenantId = call.tenantId)
    (done : act (.moveDevice own.id target.id call.remoteId tokenHash call.tenantId now alert) s =
      .ok (out, t)) : call.Spares spared s t := by
  obtain ⟨customers, favorites, alerts⟩ := moveDevice_ok done
  have unique := s.valid.customerIds
  have uniqueDetached :
      ((updateWhere (isRow own.id) (detach none) s.customers).map Customer.id).Nodup :=
    Eq.mpr (congrArg List.Nodup (map_updateWhere Customer.id fun _ => rfl)) unique
  have targetLeft : target ∈ updateWhere (isRow own.id) (detach none) s.customers :=
    mem_updateRow unique _ held found fun same => apart (by rw [same])
  refine ⟨fun row inside other kept => ?_, ?_, ?_, ?_⟩
  · rw [customers]
    have detached : row ∈ updateWhere (isRow own.id) (detach none) s.customers :=
      mem_updateRow unique _ held inside fun same => other (same ▸ device)
    exact mem_updateRow uniqueDetached _ targetLeft detached fun same => taken (same ▸ kept)
  · rw [customers]
    have second := filter_updateRow uniqueDetached (attach call.remoteId tokenHash now)
      (fun _ => rfl) targetLeft
    have first := filter_updateRow unique (detach none) (fun _ => rfl) held
    rw [targetTenant] at second
    rw [tenant] at first
    exact second.trans first
  · rw [favorites]
    exact filter_ofDevice (fun _ hit => ofDevice_tenant hit) (fun _ => rfl)
  · rw [alerts]
    exact filter_append_own Alert.tenantId mine

theorem followsReplaced_tenant {old : Option String} {remoteId : String} {tenantId : Nat}
    {f : Favorite} (hit : followsReplaced old remoteId tenantId f = true) :
    f.tenantId = tenantId := by
  unfold followsReplaced at hit
  split at hit
  · exact ofDevice_tenant (Bool.and_eq_true_iff.mp hit).2
  · cases hit

/-- A replacement rewrites the target. -/
theorem spares_replaceDevice {target : Customer} {old : Option String} {tokenHash : String}
    {now : Nat} {alert : Alert} (found : target ∈ s.customers)
    (targetTenant : target.tenantId = call.tenantId) (taken : ¬ spared target)
    (mine : alert.tenantId = call.tenantId)
    (done : act (.replaceDevice target.id old call.remoteId tokenHash call.tenantId now alert) s =
      .ok (out, t)) : call.Spares spared s t := by
  obtain ⟨customers, favorites, alerts⟩ := replaceDevice_ok done
  refine ⟨fun row inside _ kept => ?_, ?_, ?_, ?_⟩
  · rw [customers]
    exact mem_updateRow s.valid.customerIds _ found inside fun same => taken (same ▸ kept)
  · rw [customers, ← targetTenant]
    exact filter_updateRow s.valid.customerIds _ (fun _ => rfl) found
  · rw [favorites]
    exact filter_ofDevice (fun _ hit => followsReplaced_tenant hit) (fun _ => rfl)
  · rw [alerts]
    exact filter_append_own Alert.tenantId mine

/-- The contract of a call that runs alone: each of its writes spares the rows. -/
def frame (call : EnrollCall) (spared : Customer → Prop) : Contract Db Stmt DbError EnrollResult where
  rely := Eq
  guar w := call.Spares spared w.before w.after
  post _ _ := True
  refl _ := rfl
  trans := Eq.trans

/-- A single write under the frame contract. -/
theorem frame_write {fault : DbError → Prop} {stmt : Stmt}
    {next : List Customer → Client EnrollResult} {fail : DbError → Client EnrollResult}
    {last : Option (Written Db Stmt)}
    (spares : ∀ out t, act stmt s = .ok (out, t) → call.Spares spared s t)
    (onward : ∀ out t, act stmt s = .ok (out, t) →
      Meets act fault (call.frame spared) (next out) (some ⟨stmt, s, t⟩) t)
    (failed : ∀ error, Meets act fault (call.frame spared) (fail error) last s) :
    Meets act fault (call.frame spared) (.write stmt next fail) last s := by
  rintro t rfl
  exact ⟨fun out u done => ⟨spares out u done, onward out u done⟩, fun error _ => failed error⟩

variable {fault : DbError → Prop} {last : Option (Written Db Stmt)}

theorem frame_settle (error : DbError) :
    Meets act fault (call.frame spared) (call.settle env error) last s := by
  refine ⟨?_, fun _ _ => trivial⟩
  rintro t rfl
  dsimp only
  split
  · trivial
  · rename_i row held
    split
    · trivial
    · rename_i tenant
      obtain ⟨inside, device⟩ := byId_some held
      apply frame_write
      · exact fun out u done => spares_rotateToken inside device (not_not.mp tenant) done
      · exact fun _ _ _ => trivial
      · exact fun _ => trivial

theorem frame_register (count : Nat) :
    Meets act fault (call.frame spared) (call.register env count) last s := by
  apply frame_write
  · exact fun out t done => spares_insertCustomer done
  · intro rows t _
    split
    · exact frame_settle _
    · apply frame_write
      · exact fun out u done => spares_linkFavorites done
      · intro _ u _
        split
        · apply frame_write
          · exact fun out v done => spares_insertAlert rfl done
          · exact fun _ _ _ => trivial
          · exact fun _ => frame_settle _
        · trivial
      · exact fun _ => frame_settle _
  · exact fun _ => frame_settle _

theorem frame_leaveToPanel {own : Customer} (found : List Customer) (held : own ∈ s.customers)
    (device : own.remoteId = some call.remoteId) (tenant : own.tenantId = call.tenantId) :
    Meets act fault (call.frame spared) (call.leaveToPanel env own found) last s := by
  apply frame_write
  · exact fun out t done => spares_rotateToken held device tenant done
  · intro _ t _
    refine ⟨?_, fun _ _ => trivial⟩
    rintro u rfl
    dsimp only
    split
    · trivial
    · apply frame_write
      · exact fun out v done => spares_insertAlert rfl done
      · exact fun _ _ _ => trivial
      · exact fun _ => trivial
  · exact fun _ => trivial

/-- Every branch of an enrollment spares the rows that it does not displace. -/
theorem frame_enrollCustomer (apart : ∀ row, call.Displaces env s.customers row → ¬ spared row) :
    Meets act fault (call.frame spared) (call.enrollCustomer env) last s := by
  refine ⟨?_, fun _ _ => trivial⟩
  rintro t rfl
  dsimp only
  split
  · trivial
  · rename_i mine
    have tenant : ∀ own ∈ call.byId s.customers, own.tenantId = call.tenantId := by
      intro own held
      rw [Option.mem_def.mp held] at mine
      simpa using mine
    have judged : Meets act fault (call.frame spared) (call.judge env (call.byId s.customers)
        (call.nameMatches env (call.byId s.customers) s.customers)) last s := by
      apply judge_cases fun p => Meets act fault (call.frame spared) p last s
      · intro own held
        obtain ⟨inside, device⟩ := byId_some held
        apply frame_write
        · exact fun out u done =>
            spares_moveToNew inside device (tenant own held) rfl rfl done
        · exact fun _ _ _ => trivial
        · exact fun _ => trivial
      · intro own held
        obtain ⟨inside, device⟩ := byId_some held
        apply frame_write
        · exact fun out u done => spares_rotateToken inside device (tenant own held) done
        · exact fun _ _ _ => trivial
        · exact fun _ => trivial
      · intro own held target sole dead flag otherwise
        obtain ⟨inside, device⟩ := byId_some held
        have found := mem_nameMatches (sole ▸ List.mem_singleton_self target)
        have taken : ¬ spared target := by
          apply apart
          refine ⟨⟨sole, ?_⟩, dead⟩
          intro row same
          rw [Option.mem_unique same held]
          exact ⟨flag, otherwise⟩
        apply frame_write
        · exact fun out u done => spares_moveDevice inside device (tenant own held) found.1
            (found.2.2.1 own held) found.2.1 taken rfl done
        · exact fun _ _ _ => trivial
        · exact fun _ => trivial
      · intro own held
        obtain ⟨inside, device⟩ := byId_some held
        exact frame_leaveToPanel _ inside device (tenant own held)
      · intro free target sole dead
        have found := mem_nameMatches (sole ▸ List.mem_singleton_self target)
        have taken : ¬ spared target := by
          apply apart
          refine ⟨⟨sole, ?_⟩, dead⟩
          intro row same
          rw [free] at same
          cases same
        apply frame_write
        · exact fun out u done => spares_replaceDevice found.1 found.2.1 taken rfl done
        · exact fun _ _ _ => trivial
        · exact fun _ => frame_register _
      · exact fun _ => frame_register _
    split
    · rename_i blank
      unfold nameMatches at judged
      rw [if_pos blank] at judged
      exact judged
    · refine ⟨?_, fun _ _ => trivial⟩
      rintro u rfl
      exact judged

/-- A run alone spares the rows that the call does not displace and whatever belongs to other
tenants, at any point of it and with any faults. -/
theorem spares_exec {log : List (Written Db Stmt)} {p : Client EnrollResult}
    (exec : (call.enrollCustomer env).Exec act fault s log p t)
    (apart : ∀ row, call.Displaces env s.customers row → ¬ spared row) :
    call.Spares spared s t := by
  have kept := (exec.meets (frame_enrollCustomer apart)).1
  exact exec.chain (call.Spares spared) Spares.refl (fun _ _ _ => Spares.trans) kept

end EnrollCall

/-- The safety pin of an enrollment. -/
theorem enroll_spares_living (env : Runtime) (call : EnrollCall) (s t : Db)
    (log : List (Written Db Stmt)) (p : Client EnrollResult)
    (exec : (call.enrollCustomer env).Exec act (fun _ => True) s log p t) :
    (∀ row ∈ s.customers, row.remoteId ≠ some call.remoteId →
        deviceAlive call.now row.lastHeartbeatAt = true →
        ∃ same ∈ t.customers, same.id = row.id ∧ same.remoteId = row.remoteId ∧
          same.heartbeatToken = row.heartbeatToken) ∧
      t.customers.filter (fun c => c.tenantId != call.tenantId) =
        s.customers.filter (fun c => c.tenantId != call.tenantId) ∧
      t.favorites.filter (fun f => f.tenantId != call.tenantId) =
        s.favorites.filter (fun f => f.tenantId != call.tenantId) ∧
      t.alerts.filter (fun a => a.tenantId != call.tenantId) =
        s.alerts.filter (fun a => a.tenantId != call.tenantId) := by
  have kept : call.Spares (fun row => deviceAlive call.now row.lastHeartbeatAt = true) s t := by
    apply EnrollCall.spares_exec exec
    intro row displaced alive
    rw [displaced.2] at alive
    cases alive
  refine ⟨?_, kept.customers, kept.favorites, kept.alerts⟩
  intro row inside other alive
  exact ⟨row, kept.rows row inside other alive, rfl, rfl, rfl⟩

/-- One store, heard a minute ago, and a store of another tenant. -/
def livingStores : Db where
  customers :=
    [{ id := 0, tenantId := 1, name := "cafe", remoteId := some "100",
       heartbeatToken := some "h", lastHeartbeatAt := some 1000000 },
     { id := 1, tenantId := 2, name := "cafe", remoteId := some "300" }]
  favorites := []
  alerts := []
  nextId := 2
  valid := by decide

/-- A second device of the living store enrolls. -/
theorem enroll_spares_living_cafe : ∃ log p t,
    (EnrollCall.enrollCustomer plainRuntime
      ⟨{ remoteId := "200", name := some "cafe" }, 1, "t1", 1060000⟩).Exec act (fun _ => True)
      livingStores log p t ∧
    ∃ same ∈ t.customers, same.id = 0 ∧ same.remoteId = some "100" ∧
      same.heartbeatToken = some "h" := by
  obtain ⟨log, exec⟩ := Prog.exec_run (EnrollCall.enrollCustomer plainRuntime
    ⟨{ remoteId := "200", name := some "cafe" }, 1, "t1", 1060000⟩) livingStores
  refine ⟨log, _, _, exec, ?_⟩
  exact (enroll_spares_living _ _ _ _ _ _ exec).1 _ List.mem_cons_self (by decide +kernel)
    (by decide +kernel)

end ChainRemote.Panel
