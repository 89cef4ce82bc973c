import ChainRemote.Panel.Seats
import Mathlib.Data.Fintype.EquivFin
import Mathlib.Data.List.Perm.Subperm

/-!
# The seat limit of a company

A login counts the live sessions of the other accounts of its company in one statement and
stores its seat in a later one, and a heartbeat stamps its row whether or not the row was
still counted. The limit holds in every state of the runs in which each stored seat still
finds only sessions its count saw, or a free seat, and each heartbeat finds its row live, or
a free seat; and every step that keeps the limit is of that kind.
-/

namespace ChainRemote.Panel.Seats

open Lib

/-- No company has more live sessions than seats, whichever account the count leaves out. -/
def Within (s : State) : Prop :=
  ∀ tenant ∈ s.db.tenants, ∀ excludeUserId,
    countLiveTenantSessions s.db s.now tenant.id excludeUserId ≤ tenant.maxSeats

/-- Accounts and companies stay as they are. -/
def fixedAccounts (_ : State) : Event → Prop
  | .edit _ _ => False
  | _ => True

/-- The company has a seat left beside the live sessions of its other accounts. -/
def State.Spare (s : State) (tenantId userId : Nat) : Prop :=
  ∀ tenant ∈ s.db.tenants, tenant.id = tenantId →
    countLiveTenantSessions s.db s.now tenantId userId < tenant.maxSeats

/-- The live sessions of the other accounts are among those a login counted, or a seat is left. -/
def State.StillCounted (s : State) (user : User) (counted : List Nat) : Prop :=
  (∀ row ∈ s.db.liveOthers s.now user.tenantId user.id, row.userId ∈ counted) ∨
    s.Spare user.tenantId user.id

/-- A stored seat finds only sessions that its login counted, and a heartbeat finds its row
live; or a seat is left. Accounts and companies stay as they are. -/
def countedWhenStored (s : State) : Event → Prop
  | .edit _ _ => False
  | .run i jti =>
    match s.tasks[i]? with
    | some (.claim login user counted _) =>
      (claimSeat s.now (login.session s.now user.id jti) s.db.sessions).1 →
        s.StillCounted user counted
    | some (.seat _ user counted) => s.StillCounted user counted
    | some (.beatTouch claims mine _) =>
      ∀ row ∈ s.db.sessions, row.userId = claims.uid → row.jti = mine →
        row.live s.now ∨ ∀ tenantId, s.db.tenantOf claims.uid = some tenantId →
          s.Spare tenantId claims.uid
    | _ => True
  | _ => True

/-- A live session of a company. -/
def Db.occupies (db : Db) (now tenantId : Nat) (row : Session) : Bool :=
  db.tenantOf row.userId == some tenantId && row.live now

/-- The live sessions of a company. -/
def Db.total (db : Db) (now tenantId : Nat) : Nat := db.sessions.countP (db.occupies now tenantId)

/-- The count leaves out the rows of one account. -/
theorem count_eq_countP (db : Db) (now tenantId userId : Nat) :
    countLiveTenantSessions db now tenantId userId =
      db.sessions.countP fun row => db.occupies now tenantId row && row.userId != userId := by
  rw [countLiveTenantSessions, Db.liveOthers, List.countP_eq_length_filter]
  refine congrArg List.length (List.filter_congr fun row _ => ?_)
  simp only [Db.occupies, Bool.and_assoc, Bool.and_comm]

/-- The count is at most the total. -/
theorem count_le_total (db : Db) (now tenantId userId : Nat) :
    countLiveTenantSessions db now tenantId userId ≤ db.total now tenantId := by
  rw [count_eq_countP]
  refine List.countP_mono_left fun row _ counted => ?_
  exact (Bool.and_eq_true _ _ ▸ counted).1

/-- Leaving out an account without a seat counts all. -/
theorem exists_count_eq_total (db : Db) (now tenantId : Nat) :
    ∃ userId, countLiveTenantSessions db now tenantId userId = db.total now tenantId := by
  obtain ⟨userId, absent⟩ := Infinite.exists_notMem_finset (db.sessions.map Session.userId).toFinset
  refine ⟨userId, ?_⟩
  rw [count_eq_countP]
  refine List.countP_congr fun row stored => ?_
  have other : row.userId ≠ userId := by
    rintro rfl
    exact absent (List.mem_toFinset.mpr (List.mem_map_of_mem stored))
  simp [other]

/-- The limit bounds the total. -/
theorem within_iff_total (s : State) :
    Within s ↔ ∀ tenant ∈ s.db.tenants, s.db.total s.now tenant.id ≤ tenant.maxSeats := by
  constructor
  · intro within tenant known
    obtain ⟨userId, all⟩ := exists_count_eq_total s.db s.now tenant.id
    exact all ▸ within tenant known userId
  · intro total tenant known userId
    exact Nat.le_trans (count_le_total ..) (total tenant known)

/-- The live sessions of one account in a company. -/
def Db.own (db : Db) (now tenantId userId : Nat) : Nat :=
  db.sessions.countP fun row => db.occupies now tenantId row && row.userId == userId

/-- The total is the count without an account and the sessions of that account. -/
theorem total_split (db : Db) (now tenantId userId : Nat) :
    db.total now tenantId =
      countLiveTenantSessions db now tenantId userId + db.own now tenantId userId := by
  rw [count_eq_countP, Db.own, Db.total,
    List.countP_eq_countP_filter_add db.sessions _ fun row => row.userId != userId,
    List.countP_filter, List.countP_filter]
  simp only [bne, Bool.not_not]

/-- The primary key of the seat table. -/
def OneSeat (sessions : List Session) : Prop := (sessions.map Session.userId).Nodup

/-- An account has at most one live session. -/
theorem own_le_one {db : Db} (one : OneSeat db.sessions) (now tenantId userId : Nat) :
    db.own now tenantId userId ≤ 1 := by
  calc
    db.own now tenantId userId ≤ db.sessions.countP fun row => row.userId == userId :=
      List.countP_mono_left fun row _ both => (Bool.and_eq_true _ _ ▸ both).2
    _ = (db.sessions.map Session.userId).count userId := by
      rw [List.count, List.countP_map]
      rfl
    _ ≤ 1 := List.nodup_iff_count_le_one.mp one userId

/-- An account has no session in another company. -/
theorem own_eq_zero {db : Db} {now tenantId userId : Nat}
    (other : db.tenantOf userId ≠ some tenantId) : db.own now tenantId userId = 0 := by
  refine List.countP_eq_zero.mpr fun row _ both => other ?_
  simp only [Db.occupies, Bool.and_eq_true, beq_iff_eq] at both
  rw [← both.2, both.1.1]

/-- An account with a live row has a session. -/
theorem own_pos {db : Db} {now tenantId : Nat} {row : Session} (stored : row ∈ db.sessions)
    (known : db.tenantOf row.userId = some tenantId) (live : row.live now) :
    1 ≤ db.own now tenantId row.userId := by
  refine List.countP_pos_iff.mpr ⟨row, stored, ?_⟩
  simp [Db.occupies, known, live]

/-- Two tables with the same accounts and the same rows of the other accounts. -/
structure SameOthers (before after : Db) (userId : Nat) : Prop where
  /-- The companies of the accounts. -/
  tenantOf : ∀ other, after.tenantOf other = before.tenantOf other
  /-- The rows of the other accounts. -/
  others : (after.sessions.filter fun row => row.userId != userId) =
    before.sessions.filter fun row => row.userId != userId

/-- The count without an account does not depend on its row. -/
theorem SameOthers.count {before after : Db} {userId : Nat} (same : SameOthers before after userId)
    (now tenantId : Nat) :
    countLiveTenantSessions after now tenantId userId =
      countLiveTenantSessions before now tenantId userId := by
  have filtered : ∀ db : Db, countLiveTenantSessions db now tenantId userId =
      (db.sessions.filter fun row => row.userId != userId).countP (db.occupies now tenantId) := by
    intro db
    rw [count_eq_countP, List.countP_filter]
  rw [filtered, filtered, same.others]
  refine List.countP_congr fun row _ => ?_
  rw [Db.occupies, Db.occupies, same.tenantOf]

/-- Writing the row of one account keeps the limit of every company, given that of the company of
the account. -/
theorem SameOthers.total_le {before after : Db} {userId : Nat}
    (same : SameOthers before after userId) {now tenantId bound : Nat}
    (total : before.total now tenantId ≤ bound)
    (mine : before.tenantOf userId = some tenantId → after.total now tenantId ≤ bound) :
    after.total now tenantId ≤ bound := by
  by_cases known : before.tenantOf userId = some tenantId
  · exact mine known
  · rw [total_split after now tenantId userId, own_eq_zero (same.tenantOf userId ▸ known),
      same.count]
    exact Nat.le_trans (count_le_total ..) total

/-- Storing a seat leaves the rows of the other accounts. -/
theorem sameOthers_store (db : Db) (row : Session) :
    SameOthers db { db with sessions := store row db.sessions } row.userId where
  tenantOf _ := rfl
  others := by
    simp [store]

/-- Stamping a row leaves the rows of the other accounts. -/
theorem sameOthers_touch (db : Db) (now userId jti : Nat) :
    SameOthers db { db with sessions := (touchHeartbeat now userId jti db.sessions).2 } userId where
  tenantOf _ := rfl
  others := by
    simp only [touchHeartbeat]
    induction db.sessions with
    | nil => rfl
    | cons row rows ih =>
      by_cases mine : row.userId = userId
      · by_cases same : row.jti = jti <;> simp_all
      · simp_all

/-- Storing a seat keeps the primary key. -/
theorem OneSeat.store {sessions : List Session} (one : OneSeat sessions) (row : Session) :
    OneSeat (store row sessions) := by
  refine List.nodup_cons.mpr ⟨?_, (one.sublist (List.filter_sublist.map _))⟩
  simp

/-- Stamping a row keeps the primary key. -/
theorem OneSeat.touch {sessions : List Session} (one : OneSeat sessions) (now userId jti : Nat) :
    OneSeat (touchHeartbeat now userId jti sessions).2 := by
  have same : (touchHeartbeat now userId jti sessions).2.map Session.userId =
      sessions.map Session.userId := by
    rw [touchHeartbeat, List.map_map]
    refine List.map_congr_left fun row _ => ?_
    simp only [Function.comp_apply]
    split <;> rfl
  rw [OneSeat, same]
  exact one

/-- Replacing password hashes keeps the company of every account. -/
theorem run_tenantOf (amb : Ambient) (now : Nat) (db : Db) (jti : Nat) (task : Task)
    (userId : Nat) : (task.run amb now db jti).db.tenantOf userId = db.tenantOf userId := by
  obtain ⟨-, hash, users⟩ := run_accounts amb now db jti task
  simp only [Db.tenantOf, users, List.find?_map, Option.map_map]
  rfl

/-- It keeps the keys and references of accounts and companies as well. -/
theorem run_keeps_accounts (amb : Ambient) (now : Nat) {db : Db} (jti : Nat) (task : Task)
    (accounts : Accounts db.users db.tenants) :
    Accounts (task.run amb now db jti).db.users (task.run amb now db jti).db.tenants := by
  obtain ⟨tenants, hash, users⟩ := run_accounts amb now db jti task
  obtain ⟨ids, companies, references⟩ := accounts
  rw [tenants, users]
  refine ⟨?_, companies, ?_⟩
  · rw [List.map_map]
    exact ids
  · simpa using references

/-- What a login has learnt holds of the tables: the company of its account and its seats, and
then that its count was below them. -/
def Task.Sound (db : Db) : Task → Prop
  | .count _ _ user maxSeats =>
    db.tenantOf user.id = some user.tenantId ∧
      ∀ tenant ∈ db.tenants, tenant.id = user.tenantId → tenant.maxSeats = maxSeats
  | .prior _ user counted | .claim _ user counted _ | .seat _ user counted =>
    db.tenantOf user.id = some user.tenantId ∧
      ∀ tenant ∈ db.tenants, tenant.id = user.tenantId → counted.length < tenant.maxSeats
  | _ => True

/-- Soundness depends on the companies and the accounts only. -/
theorem Task.Sound.mono {before after : Db} {task : Task} (sound : task.Sound before)
    (tenantOf : ∀ userId, after.tenantOf userId = before.tenantOf userId)
    (tenants : after.tenants = before.tenants) : task.Sound after := by
  cases task <;> simp only [Task.Sound, tenantOf, tenants] at sound ⊢ <;> exact sound

/-- The lookup of a login finds an account and its company. -/
theorem findByName_some {amb : Ambient} {db : Db} {name : String} {user : User} {tenant : Tenant}
    (accounts : Accounts db.users db.tenants)
    (found : findByName amb db name = some (user, tenant)) :
    db.tenantOf user.id = some user.tenantId ∧ tenant ∈ db.tenants ∧
      tenant.id = user.tenantId := by
  obtain ⟨row, known, selected⟩ := List.exists_of_findSome?_eq_some found
  split at selected
  · obtain ⟨company, at', pair⟩ := Option.map_eq_some_iff.mp selected
    obtain ⟨rfl, rfl⟩ := Prod.mk.inj pair
    refine ⟨?_, List.mem_of_find?_eq_some at', by simpa using List.find?_some at'⟩
    cases first : db.users.find? fun other => other.id == row.id with
    | none => exact absurd (List.find?_eq_none.mp first row known) (by simp)
    | some other =>
      have same : other = row :=
        List.inj_on_of_nodup_map accounts.1 (List.mem_of_find?_eq_some first) known
          (by simpa using List.find?_some first)
      simp [Db.tenantOf, first, same]
  · cases selected

/-- Every statement of a login leaves it sound. -/
theorem run_sound {amb : Ambient} {now : Nat} {db : Db} {jti : Nat} {task next : Task}
    (accounts : Accounts db.users db.tenants) (sound : task.Sound db)
    (continues : (task.run amb now db jti).next = .inl next) : next.Sound db := by
  cases task with
  | find route login name others =>
    simp only [Task.run] at continues
    split at continues
    · split at continues
      · cases continues
      · cases continues
        trivial
    · rename_i user tenant found
      split at continues
      · cases continues
      · split at continues
        · cases continues
        · cases continues
          obtain ⟨known, company, same⟩ := findByName_some accounts found
          refine ⟨known, fun other row matched => ?_⟩
          rw [List.inj_on_of_nodup_map accounts.2.1 row company (matched.trans same.symm)]
  | count route login user maxSeats =>
    simp only [Task.run] at continues
    split at continues
    · cases continues
    · rename_i free
      obtain ⟨known, seats⟩ := sound
      have counted : ∀ tenant ∈ db.tenants, tenant.id = user.tenantId →
          ((db.liveOthers now user.tenantId user.id).map Session.userId).length <
            tenant.maxSeats := by
        intro tenant company same
        rw [seats tenant company same, List.length_map]
        exact Nat.lt_of_not_le free
      cases route <;> cases continues <;> exact ⟨known, counted⟩
  | prior login user counted =>
    cases continues
    exact sound
  | _ =>
    simp only [Task.run, afterChecks] at continues
    repeat' split at continues
    all_goals cases continues
    all_goals trivial

/-- What the guarded runs keep. -/
structure Counted (s : State) : Prop where
  accounts : Accounts s.db.users s.db.tenants
  one : OneSeat s.db.sessions
  sound : ∀ task ∈ s.tasks, task.Sound s.db
  within : Within s

/-- Only sessions that a login counted leave it a free seat. -/
theorem State.StillCounted.spare {s : State} (counted : Counted s) {user : User} {seen : List Nat}
    (sound : ∀ tenant ∈ s.db.tenants, tenant.id = user.tenantId → seen.length < tenant.maxSeats)
    (still : s.StillCounted user seen) : s.Spare user.tenantId user.id := by
  obtain seenOnly | spare := still
  · intro tenant known same
    have distinct : ((s.db.liveOthers s.now user.tenantId user.id).map Session.userId).Nodup :=
      counted.one.sublist (List.filter_sublist.map _)
    have fewer : ((s.db.liveOthers s.now user.tenantId user.id).map Session.userId).length ≤
        seen.length := by
      refine (distinct.subperm fun userId counted => ?_).length_le
      obtain ⟨row, live, rfl⟩ := List.mem_map.mp counted
      exact seenOnly row live
    rw [List.length_map] at fewer
    exact Nat.lt_of_le_of_lt fewer (sound tenant known same)
  · exact spare

/-- A row written while its company has a free seat keeps the limit. -/
theorem within_write {s t : State} (within : Within s) {userId : Nat}
    (tenants : t.db.tenants = s.db.tenants) (now : t.now = s.now)
    (same : SameOthers s.db t.db userId) (one : OneSeat t.db.sessions)
    (spare : ∀ tenantId, s.db.tenantOf userId = some tenantId → s.Spare tenantId userId) :
    Within t := by
  rw [within_iff_total] at within ⊢
  rw [tenants, now]
  intro tenant known
  refine same.total_le (within tenant known) fun mine => ?_
  have free := spare tenant.id mine tenant known rfl
  have own := own_le_one one s.now tenant.id userId
  rw [total_split _ _ _ userId, same.count]
  omega

/-- A live row written in a state within the limit had a free seat. -/
theorem spare_of_within {s t : State} (within : Within t) (row : Session)
    (tenants : t.db.tenants = s.db.tenants) (now : t.now = s.now)
    (same : SameOthers s.db t.db row.userId) (stored : row ∈ t.db.sessions)
    (live : row.live s.now) {tenantId : Nat}
    (known : s.db.tenantOf row.userId = some tenantId) : s.Spare tenantId row.userId := by
  rintro tenant company rfl
  have total := (within_iff_total t).mp within tenant (tenants ▸ company)
  rw [now, total_split _ _ _ row.userId, same.count] at total
  have own := own_pos stored ((same.tenantOf row.userId).trans known) live
  omega

/-- Fewer rows, or a later time, keep the limit. -/
theorem within_fewer {s t : State} (within : Within s) (tenants : t.db.tenants = s.db.tenants)
    (tenantOf : ∀ userId, t.db.tenantOf userId = s.db.tenantOf userId) (later : s.now ≤ t.now)
    (fewer : t.db.sessions.Sublist s.db.sessions) : Within t := by
  rw [within_iff_total] at within ⊢
  rw [tenants]
  intro tenant known
  refine Nat.le_trans ?_ (within tenant known)
  refine Nat.le_trans fewer.countP_le (List.countP_mono_left fun row _ live => ?_)
  simp only [Db.occupies, tenantOf, Session.live, Bool.and_eq_true, beq_iff_eq,
    decide_eq_true_eq] at live ⊢
  exact ⟨live.1, Nat.lt_of_le_of_lt later live.2⟩

/-- The tasks after a statement are tasks from before or the rest of the one that ran. -/
theorem mem_advance {tasks : List Task} {i : Nat} {next : Task ⊕ Reply} {task : Task}
    (listed : task ∈ advance tasks i next) : task ∈ tasks ∨ next = .inl task := by
  cases next with
  | inl rest =>
    obtain before | rfl := List.mem_or_eq_of_mem_set listed
    · exact .inl before
    · exact .inr rfl
  | inr reply => exact .inl (List.mem_of_mem_eraseIdx listed)

/-- A statement keeps the invariant where it keeps the primary key and the limit. -/
theorem Counted.run {amb : Ambient} {s : State} (counted : Counted s) {i jti : Nat} {task : Task}
    (listed : s.tasks[i]? = some task)
    (one : OneSeat (task.run amb s.now s.db jti).db.sessions)
    (within : Within (s.after i (task.run amb s.now s.db jti))) :
    Counted (s.after i (task.run amb s.now s.db jti)) := by
  have tenantOf := run_tenantOf amb s.now s.db jti task
  have tenants := (run_accounts amb s.now s.db jti task).1
  refine ⟨run_keeps_accounts amb s.now jti task counted.accounts, one, fun rest left => ?_, within⟩
  obtain before | continues := mem_advance left
  · exact (counted.sound rest before).mono tenantOf tenants
  · exact (run_sound counted.accounts (counted.sound task (List.mem_of_getElem? listed))
      continues).mono tenantOf tenants

/-- The primary key after a statement. -/
theorem run_oneSeat (amb : Ambient) (now : Nat) {db : Db} (jti : Nat) (task : Task)
    (one : OneSeat db.sessions) : OneSeat (task.run amb now db jti).db.sessions := by
  obtain ⟨login, user, _, _, _, _, _, stored⟩ | ⟨-, ⟨claims, mine, _, _, _, stamped⟩ | fewer⟩ :=
    run_sessions amb now db jti task
  · rw [stored]
    exact one.store _
  · rw [stamped]
    exact one.touch ..
  · exact one.sublist (fewer.map _)

/-- A stored seat keeps the limit exactly when it was counted. -/
theorem within_store_iff {s t : State} (counted : Counted s) (login : Login) {user : User}
    {seen : List Nat} (jti : Nat) (known : s.db.tenantOf user.id = some user.tenantId)
    (sound : ∀ tenant ∈ s.db.tenants, tenant.id = user.tenantId → seen.length < tenant.maxSeats)
    (now : t.now = s.now)
    (stored : t.db =
      { s.db with sessions := store (login.session s.now user.id jti) s.db.sessions }) :
    Within t ↔ s.StillCounted user seen := by
  have tenants : t.db.tenants = s.db.tenants := by rw [stored]
  have same : SameOthers s.db t.db user.id := by
    rw [stored]
    exact sameOthers_store s.db (login.session s.now user.id jti)
  constructor
  · intro within
    refine .inr (spare_of_within within (login.session s.now user.id jti) tenants now same ?_ ?_
      known)
    · rw [stored]
      exact .head _
    · simp [Session.live, Login.session, orphanAfter]
  · intro still
    refine within_write counted.within tenants now same ?_ fun tenantId mine => ?_
    · rw [stored]
      exact counted.one.store _
    · obtain rfl : user.tenantId = tenantId := Option.some.inj (known.symm.trans mine)
      exact still.spare counted sound

/-- A heartbeat keeps the limit exactly when its row was live or a seat was left. -/
theorem within_touch_iff {s t : State} (counted : Counted s) {userId jti : Nat} {held : Session}
    (listed : held ∈ s.db.sessions) (mine : held.userId = userId ∧ held.jti = jti)
    (now : t.now = s.now)
    (stamped : t.db =
      { s.db with sessions := (touchHeartbeat s.now userId jti s.db.sessions).2 }) :
    Within t ↔ ∀ row ∈ s.db.sessions, row.userId = userId → row.jti = jti →
      row.live s.now ∨
        ∀ tenantId, s.db.tenantOf userId = some tenantId → s.Spare tenantId userId := by
  have tenants : t.db.tenants = s.db.tenants := by rw [stamped]
  have same : SameOthers s.db t.db userId := by
    rw [stamped]
    exact sameOthers_touch s.db s.now userId jti
  constructor
  · intro within row stored at' identifier
    subst at'
    refine .inr fun tenantId known => ?_
    refine spare_of_within within { row with lastSeenAt := s.now } tenants now same ?_ ?_ known
    · rw [stamped]
      refine List.mem_map.mpr ⟨row, stored, ?_⟩
      simp [identifier]
    · simp [Session.live, orphanAfter]
  · intro spare
    refine within_write counted.within tenants now same ?_ fun tenantId known => ?_
    · rw [stamped]
      exact counted.one.touch ..
    · obtain live | free := spare held listed mine.1 mine.2
      · obtain ⟨rfl, -⟩ := mine
        exact spare_of_within counted.within held rfl rfl ⟨fun _ => rfl, rfl⟩ listed live known
      · exact free tenantId known

/-- Whether the statement of a task keeps the limit is whether it meets the condition. -/
theorem within_run_iff {amb : Ambient} {s : State} (counted : Counted s) {i jti : Nat}
    {task : Task} (listed : s.tasks[i]? = some task) :
    Within (s.after i (task.run amb s.now s.db jti)) ↔ countedWhenStored s (.run i jti) := by
  have sound := counted.sound task (List.mem_of_getElem? listed)
  have effect := run_sessions amb s.now s.db jti task
  have tenants := (run_accounts amb s.now s.db jti task).1
  have tenantOf := run_tenantOf amb s.now s.db jti task
  have kept : (task.run amb s.now s.db jti).db = s.db →
      Within (s.after i (task.run amb s.now s.db jti)) := fun same =>
    within_fewer counted.within (congrArg Db.tenants same)
      (fun userId => congrArg (Db.tenantOf · userId) same) (Nat.le_refl _)
      (by rw [State.after, same])
  simp only [countedWhenStored, listed]
  cases task with
  | claim login user seen prior =>
    obtain ⟨known, seats⟩ := sound
    by_cases claimed : (claimSeat s.now (login.session s.now user.id jti) s.db.sessions).1 = true
    · simp only [claimed, forall_const]
      refine within_store_iff counted login jti known seats rfl ?_
      simp [State.after, Task.run, claimed, claimSeat_stores claimed, hasUser_of_tenantOf known]
    · refine iff_of_true (kept ?_) fun taken => absurd taken claimed
      simp [Task.run, claimed]
  | seat login user seen =>
    obtain ⟨known, seats⟩ := sound
    refine within_store_iff counted login jti known seats rfl ?_
    simp [State.after, Task.run, takeoverSeat, hasUser_of_tenantOf known]
  | beatTouch claims mine refreshed =>
    by_cases alive : (touchHeartbeat s.now claims.uid mine s.db.sessions).1 = true
    · obtain ⟨held, stored, matched⟩ := List.any_eq_true.mp alive
      refine within_touch_iff counted stored (by simpa using matched) rfl ?_
      simp [State.after, Task.run, alive]
    · refine iff_of_true (kept (by simp [Task.run, alive])) fun row stored at' identifier => ?_
      refine absurd (List.any_eq_true.mpr ⟨row, stored, ?_⟩) alive
      simp [at', identifier]
  | _ =>
    refine iff_of_true ?_ trivial
    obtain ⟨_, _, _, wrong, -⟩ | ⟨-, ⟨_, _, _, wrong, -⟩ | fewer⟩ := effect
    · obtain ⟨_, wrong⟩ | wrong := wrong <;> cases wrong
    · cases wrong
    · exact within_fewer counted.within tenants tenantOf (Nat.le_refl _) fewer

/-- The limit holds exactly along the steps that meet the condition. -/
theorem within_step_iff {amb : Ambient} {s t : State} {e : Event} (counted : Counted s)
    (fixed : fixedAccounts s e) (next : step amb s e = some t) :
    Within t ↔ countedWhenStored s e := by
  cases e with
  | spawn task =>
    simp only [step] at next
    split at next
    · obtain rfl := Option.some.inj next
      exact iff_of_true counted.within trivial
    · cases next
  | run i jti =>
    simp only [step] at next
    split at next
    · cases next
    · rename_i task listed
      split at next
      · obtain rfl := Option.some.inj next
        exact within_run_iff counted listed
      · cases next
  | abort i =>
    simp only [step] at next
    split at next
    · obtain rfl := Option.some.inj next
      exact iff_of_true counted.within trivial
    · cases next
  | pass milliseconds =>
    obtain rfl := Option.some.inj next
    refine iff_of_true ?_ trivial
    exact within_fewer counted.within rfl (fun _ => rfl) (Nat.le_add_right ..) (.refl _)
  | edit users tenants => exact fixed.elim

/-- Every admitted step keeps the invariant. -/
theorem Counted.step {amb : Ambient} {s t : State} {e : Event} (counted : Counted s)
    (admitted : countedWhenStored s e) (next : Seats.step amb s e = some t) : Counted t := by
  have fixed : fixedAccounts s e := by
    cases e with
    | edit users tenants => exact admitted
    | _ => trivial
  have within := (within_step_iff counted fixed next).mpr admitted
  cases e with
  | spawn task =>
    simp only [Seats.step] at next
    split at next
    · rename_i starts
      obtain rfl := Option.some.inj next
      refine ⟨counted.accounts, counted.one, fun other listed => ?_, within⟩
      obtain rfl | before := List.mem_cons.mp listed
      · cases other <;> trivial
      · exact counted.sound other before
    · cases next
  | run i jti =>
    simp only [Seats.step] at next
    split at next
    · cases next
    · rename_i task listed
      split at next
      · obtain rfl := Option.some.inj next
        exact counted.run listed (run_oneSeat amb s.now jti task counted.one) within
      · cases next
  | abort i =>
    simp only [Seats.step] at next
    split at next
    · obtain rfl := Option.some.inj next
      exact ⟨counted.accounts, counted.one,
        fun task left => counted.sound task (List.mem_of_mem_eraseIdx left), within⟩
    · cases next
  | pass milliseconds =>
    obtain rfl := Option.some.inj next
    exact ⟨counted.accounts, counted.one, counted.sound, within⟩
  | edit users tenants => exact fixed.elim

/-- The seat limit holds in every state of the runs whose steps meet the condition, and a step
from such a state that keeps the limit meets it. -/
theorem seatLimit_iff_counted (amb : Ambient) :
    (∀ s, (machine amb).Reaches countedWhenStored s → Within s) ∧
      ∀ s e t, (machine amb).Reaches countedWhenStored s → fixedAccounts s e →
        (machine amb).step s e = some t → Within t → countedWhenStored s e := by
  have invariant : ∀ s, (machine amb).Reaches countedWhenStored s → Counted s := by
    intro s reached
    refine reached.invariant Counted ?_ fun _ _ _ counted => counted.step
    rintro _ ⟨now, users, tenants, accounts, rfl⟩
    exact ⟨accounts, List.nodup_nil, List.forall_mem_nil _, fun _ _ _ => Nat.zero_le _⟩
  refine ⟨fun s reached => (invariant s reached).within, fun s e t reached fixed next within => ?_⟩
  exact (within_step_iff (invariant s reached) fixed next).mp within

instance (s : State) (e : Event) : Decidable (fixedAccounts s e) := by
  cases e <;> unfold fixedAccounts <;> infer_instance

/-- Plain text folding and a hash that is the password. -/
def plainAmbient : Ambient where
  sqlLower := id
  toLowerCase := id
  qwertyFromHangul _ := none
  verifyPassword password hash := password == hash

/-- Two accounts of a company with one seat log in; both count before either is stored. -/
def twoLogins : State :=
  (machine plainAmbient).play fixedAccounts
    (empty 0
      [{ id := 1, tenantId := 0, email := "a", passwordHash := "p", role := .owner,
         isActive := true },
        { id := 2, tenantId := 0, email := "b", passwordHash := "p", role := .operator,
          isActive := true }]
      [{ id := 0, isActive := true, subscribed := true, maxSeats := 1 }])
    [.spawn (.find .token ⟨"a", "p", "d1", none, none⟩ "a" []),
      .spawn (.find .token ⟨"b", "p", "d2", none, none⟩ "b" []),
      .run 0 0, .run 1 0, .run 0 0, .run 1 0, .run 0 0, .run 1 0, .run 0 10, .run 1 11]

/-- Without the condition the limit fails: the count and the claim are separate statements. -/
theorem seatLimit_exceeded :
    ¬ ∀ s, (machine plainAmbient).Reaches fixedAccounts s → Within s := by
  intro within
  have reached : (machine plainAmbient).Reaches fixedAccounts twoLogins :=
    ⟨_, ⟨0, _, _, by decide, rfl⟩, (machine plainAmbient).runs_play _ _ _⟩
  have two := within twoLogins reached { id := 0, isActive := true, subscribed := true, maxSeats := 1 }
    (by decide +kernel) 0
  exact absurd two (by decide +kernel)

end ChainRemote.Panel.Seats
