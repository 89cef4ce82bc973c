import ChainRemote.Panel.SeatLimit

/-!
# Tokens and the seat that backs them

`requireApiAuth` accepts a token with an identifier only while the seat of its account
carries that identifier. Identifiers enter the table once, with the login that drew them,
so one that left the table never comes back: at most one identifier of an account is
accepted at a time, and an operation that removes the seat ends every token sent before.
-/

namespace ChainRemote.Panel.Seats

open Lib

/-- The identifier in the seat of an account. -/
def State.seatOf (s : State) (userId : Nat) : Option Nat :=
  (getActiveSession s.db.sessions userId).map Session.jti

/-- `requireApiAuth` accepts a token. -/
def State.accepts (s : State) (token : Token) : Prop :=
  (requireApiAuth s.now s.db token).isOk

/-- Some token sent out for an account with an identifier is accepted. -/
def State.passes (s : State) (userId jti : Nat) : Prop :=
  ∃ token ∈ s.tokens, token.uid = userId ∧ token.jti = some jti ∧ s.accepts token

/-- An accepted token has not expired and carries the identifier in the seat of its account. -/
theorem seatOf_of_accepts {s : State} {token : Token} (accepted : s.accepts token) {jti : Nat}
    (carries : token.jti = some jti) :
    s.now / 1000 < token.exp ∧ s.seatOf token.uid = some jti := by
  simp only [State.accepts, requireApiAuth] at accepted
  split at accepted
  · cases accepted
  · rename_i unexpired
    refine ⟨Nat.lt_of_not_le unexpired, ?_⟩
    split at accepted
    · cases accepted
    · rename_i user found
      have same : user.id = token.uid := by simpa using List.find?_some found
      split at accepted
      · cases accepted
      · split at accepted
        · cases accepted
        · split at accepted
          · cases accepted
          · rename_i matched
            have seat : (getActiveSession s.db.sessions user.id).map Session.jti = token.jti := by
              by_contra other
              exact matched ⟨by rw [carries]; rfl, other⟩
            rw [State.seatOf, ← same, seat, carries]

/-- A seat is a row of the table. -/
theorem mem_of_seatOf {s : State} {userId jti : Nat} (seat : s.seatOf userId = some jti) :
    ∃ row ∈ s.db.sessions, row.userId = userId ∧ row.jti = jti := by
  obtain ⟨row, found, same⟩ := Option.map_eq_some_iff.mp seat
  exact ⟨row, List.mem_of_find?_eq_some found, by simpa using List.find?_some found, same⟩

/-- A row of the table is the seat of its account. -/
theorem seatOf_of_mem {s : State} (one : OneSeat s.db.sessions) {row : Session}
    (stored : row ∈ s.db.sessions) : s.seatOf row.userId = some row.jti := by
  cases first : getActiveSession s.db.sessions row.userId with
  | none => exact absurd (List.find?_eq_none.mp first row stored) (by simp)
  | some other =>
    have same : other = row := List.inj_on_of_nodup_map one (List.mem_of_find?_eq_some first) stored
      (by simpa using List.find?_some first)
    simp [State.seatOf, first, same]

/-- The identifiers a task carries were stored for their account. -/
def Task.Backed (written : List (Nat × Nat)) : Task → Prop
  | .issue user jti => (user.id, jti) ∈ written
  | .beatAuth token => ∀ jti ∈ token.jti, (token.uid, jti) ∈ written
  | .beatTenant claims => ∀ jti ∈ claims.jti, (claims.uid, jti) ∈ written
  | .beatRefresh claims jti => (claims.uid, jti) ∈ written
  | .beatTouch _ _ refreshed =>
    ∀ token ∈ refreshed, ∀ jti ∈ token.jti, (token.uid, jti) ∈ written
  | _ => True

/-- What every run keeps about identifiers. -/
structure Drawn (s : State) : Prop where
  accounts : Accounts s.db.users s.db.tenants
  one : OneSeat s.db.sessions
  /-- Seats belong to accounts. -/
  owned : ∀ row ∈ s.db.sessions, s.db.hasUser row.userId = true
  /-- Every seat was stored by a login. -/
  seats : ∀ row ∈ s.db.sessions, (row.userId, row.jti) ∈ s.written
  /-- No identifier was stored twice. -/
  once : (s.written.map Prod.snd).Nodup
  /-- Every token sent out carries an identifier that was stored for its account. -/
  tokens : ∀ token ∈ s.tokens, ∀ jti ∈ token.jti, (token.uid, jti) ∈ s.written
  /-- So do the requests in progress. -/
  tasks : ∀ task ∈ s.tasks, task.Backed s.written

/-- The claims `requireApiAuth` returns are those of the token, with another role. -/
theorem requireApiAuth_claims {now : Nat} {db : Db} {token claims : Token}
    (accepted : requireApiAuth now db token = .ok claims) :
    claims.uid = token.uid ∧ claims.jti = token.jti := by
  simp only [requireApiAuth] at accepted
  repeat' split at accepted
  all_goals cases accepted
  exact ⟨rfl, rfl⟩

/-- A request stays backed while more identifiers are stored. -/
theorem Task.Backed.mono {written more : List (Nat × Nat)} {task : Task}
    (backed : task.Backed written) (extends' : ∀ pair ∈ written, pair ∈ more) :
    task.Backed more := by
  cases task <;> simp only [Task.Backed] at backed ⊢
  case issue => exact extends' _ backed
  case beatRefresh => exact extends' _ backed
  case beatAuth => exact fun jti carried => extends' _ (backed jti carried)
  case beatTenant => exact fun jti carried => extends' _ (backed jti carried)
  case beatTouch => exact fun token sent jti carried => extends' _ (backed token sent jti carried)

/-- What follows the checks of a heartbeat is backed by its claims. -/
theorem afterChecks_backed {now : Nat} {claims : Token} {written : List (Nat × Nat)} {next : Task}
    (backed : ∀ jti ∈ claims.jti, (claims.uid, jti) ∈ written)
    (continues : afterChecks now claims = .inl next) : next.Backed written := by
  simp only [afterChecks] at continues
  split at continues
  · cases continues
  · rename_i jti carried
    cases continues
    split
    · exact backed jti carried
    · intro token unsent
      cases unsent

/-- Every statement of a request leaves it backed. -/
theorem run_backed {amb : Ambient} {now : Nat} {db : Db} {jti : Nat} {task next : Task}
    {written : List (Nat × Nat)} (backed : task.Backed written)
    (continues : (task.run amb now db jti).next = .inl next) :
    next.Backed ((task.run amb now db jti).wrote.toList ++ written) := by
  cases task with
  | claim login user counted prior =>
    simp only [Task.run] at continues ⊢
    split at continues
    · cases continues
      trivial
    · split at continues
      · cases continues
        simp_all [Task.Backed]
      · cases continues
  | seat login user counted =>
    simp only [Task.run] at continues ⊢
    split at continues
    · cases continues
      simp_all [Task.Backed]
    · cases continues
  | beatAuth token =>
    rw [(run_reads amb now db jti rfl).2]
    simp only [Task.run] at continues
    split at continues
    · cases continues
    · rename_i claims accepted
      obtain ⟨uid, carried⟩ := requireApiAuth_claims accepted
      have same : ∀ jti ∈ claims.jti, (claims.uid, jti) ∈ written := by
        rw [uid, carried]
        exact backed
      split at continues
      · exact afterChecks_backed same continues
      · cases continues
        exact same
  | beatTenant claims =>
    rw [(run_reads amb now db jti rfl).2]
    simp only [Task.run] at continues
    split at continues
    · exact afterChecks_backed backed continues
    · cases continues
  | beatRefresh claims mine =>
    rw [(run_reads amb now db jti rfl).2]
    simp only [Task.run] at continues
    split at continues
    · cases continues
    · split at continues
      · cases continues
        rintro _ ⟨⟩ _ ⟨⟩
        exact backed
      · cases continues
  | _ =>
    simp only [Task.run] at continues
    repeat' split at continues
    all_goals cases continues
    all_goals trivial

/-- Every token a statement sends is backed. -/
theorem run_sent {amb : Ambient} {now : Nat} {db : Db} {jti : Nat} {task : Task} {token : Token}
    {written : List (Nat × Nat)} (backed : task.Backed written)
    (sent : token ∈ (task.run amb now db jti).sent) :
    ∀ carried ∈ token.jti, (token.uid, carried) ∈ written := by
  cases task with
  | issue user mine =>
    obtain rfl := List.mem_singleton.mp sent
    rintro _ ⟨⟩
    exact backed
  | beatTouch claims mine refreshed =>
    simp only [Task.run] at sent
    split at sent
    · exact backed token (by simpa using sent)
    · cases sent
  | _ =>
    simp only [Task.run] at sent
    repeat' split at sent
    all_goals cases sent

/-- A row after a statement was there before, but for its stamp, or a login stored it. -/
theorem run_rows {amb : Ambient} {now : Nat} {db : Db} {jti : Nat} {task : Task} {row : Session}
    (stored : row ∈ (task.run amb now db jti).db.sessions) :
    (∃ old ∈ db.sessions, old.userId = row.userId ∧ old.jti = row.jti) ∨
      (task.run amb now db jti).wrote = some (row.userId, row.jti) ∧
        db.hasUser row.userId = true := by
  obtain ⟨login, user, _, _, wrote, _, known, seats⟩ |
    ⟨-, ⟨claims, mine, _, _, _, stamped⟩ | fewer⟩ := run_sessions amb now db jti task
  · rw [seats] at stored
    obtain rfl | old := List.mem_cons.mp stored
    · exact .inr ⟨wrote, known⟩
    · exact .inl ⟨row, List.mem_of_mem_filter old, rfl, rfl⟩
  · rw [stamped] at stored
    obtain ⟨old, before, rfl⟩ := List.mem_map.mp stored
    refine .inl ⟨old, before, ?_⟩
    split <;> exact ⟨rfl, rfl⟩
  · exact .inl ⟨row, fewer.subset stored, rfl, rfl⟩

/-- Replacing password hashes keeps which accounts exist. -/
theorem run_hasUser (amb : Ambient) (now : Nat) (db : Db) (jti : Nat) (task : Task)
    (userId : Nat) : (task.run amb now db jti).db.hasUser userId = db.hasUser userId := by
  obtain ⟨-, hash, users⟩ := run_accounts amb now db jti task
  simp only [Db.hasUser, users, List.any_map]
  rfl

/-- A statement of a request that draws a new identifier keeps the invariant. -/
theorem Drawn.run {amb : Ambient} {s : State} (drawn : Drawn s) {i jti : Nat} {task : Task}
    (listed : s.tasks[i]? = some task)
    (fresh : ∀ pair ∈ (task.run amb s.now s.db jti).wrote, pair.2 ∉ s.written.map Prod.snd) :
    Drawn (s.after i (task.run amb s.now s.db jti)) := by
  have backed := drawn.tasks task (List.mem_of_getElem? listed)
  have more : ∀ pair ∈ s.written, pair ∈ (task.run amb s.now s.db jti).wrote.toList ++ s.written :=
    fun pair before => List.mem_append_right _ before
  refine ⟨run_keeps_accounts amb s.now jti task drawn.accounts,
    run_oneSeat amb s.now jti task drawn.one, fun row stored => ?_, fun row stored => ?_, ?_,
    fun token sent carried at' => ?_, fun rest left => ?_⟩
  · refine (run_hasUser amb s.now s.db jti task row.userId).trans ?_
    obtain ⟨old, before, same, -⟩ | ⟨-, known⟩ := run_rows stored
    · exact same ▸ drawn.owned old before
    · exact known
  · obtain ⟨old, before, same, identifier⟩ | ⟨wrote, -⟩ := run_rows stored
    · refine more _ ?_
      rw [← same, ← identifier]
      exact drawn.seats old before
    · exact List.mem_append_left _ (by rw [wrote]; exact .head _)
  · simp only [State.after]
    cases wrote : (task.run amb s.now s.db jti).wrote with
    | none => exact drawn.once
    | some pair => exact List.nodup_cons.mpr ⟨fresh pair wrote, drawn.once⟩
  · refine more _ ?_
    obtain now' | before := List.mem_append.mp sent
    · exact run_sent backed now' carried at'
    · exact drawn.tokens token before carried at'
  · obtain before | continues := mem_advance left
    · exact (drawn.tasks rest before).mono more
    · exact run_backed backed continues

/-- Every step keeps the invariant. -/
theorem Drawn.step {amb : Ambient} {s t : State} {e : Event} (drawn : Drawn s)
    (next : Seats.step amb s e = some t) : Drawn t := by
  cases e with
  | spawn task =>
    simp only [Seats.step] at next
    split at next
    · rename_i starts
      obtain rfl := Option.some.inj next
      refine ⟨drawn.accounts, drawn.one, drawn.owned, drawn.seats, drawn.once, drawn.tokens,
        fun other listed => ?_⟩
      obtain rfl | before := List.mem_cons.mp listed
      · cases other <;> first | exact drawn.tokens _ starts | trivial
      · exact drawn.tasks other before
    · cases next
  | run i jti =>
    simp only [Seats.step] at next
    split at next
    · cases next
    · rename_i task listed
      split at next
      · rename_i fresh
        obtain rfl := Option.some.inj next
        exact drawn.run listed fresh
      · cases next
  | abort i =>
    simp only [Seats.step] at next
    split at next
    · obtain rfl := Option.some.inj next
      exact ⟨drawn.accounts, drawn.one, drawn.owned, drawn.seats, drawn.once, drawn.tokens,
        fun task left => drawn.tasks task (List.mem_of_mem_eraseIdx left)⟩
    · cases next
  | pass milliseconds =>
    obtain rfl := Option.some.inj next
    exact ⟨drawn.accounts, drawn.one, drawn.owned, drawn.seats, drawn.once, drawn.tokens,
      drawn.tasks⟩
  | edit users tenants =>
    simp only [Seats.step] at next
    split at next
    · rename_i accounts
      obtain rfl := Option.some.inj next
      exact ⟨accounts, drawn.one.sublist (List.filter_sublist.map _),
        fun row left => (List.mem_filter.mp left).2,
        fun row left => drawn.seats row (List.mem_of_mem_filter left), drawn.once, drawn.tokens,
        drawn.tasks⟩
    · cases next

/-- Every reachable state satisfies the invariant. -/
theorem drawn_of_reaches {amb : Ambient} {s : State}
    (reached : (machine amb).Reaches Machine.free s) : Drawn s := by
  refine reached.invariant Drawn ?_ fun _ _ _ drawn _ => drawn.step
  rintro _ ⟨now, users, tenants, accounts, rfl⟩
  exact ⟨accounts, List.nodup_nil, List.forall_mem_nil _, List.forall_mem_nil _, List.nodup_nil,
    List.forall_mem_nil _, List.forall_mem_nil _⟩

/-- An identifier that was stored for an account and left the table. -/
def State.Gone (s : State) (userId jti : Nat) : Prop :=
  (userId, jti) ∈ s.written ∧ ∀ row ∈ s.db.sessions, row.jti ≠ jti

/-- An identifier that left the table does not come back in one step. -/
theorem State.Gone.step {amb : Ambient} {s t : State} {e : Event} {userId jti : Nat}
    (gone : s.Gone userId jti) (next : Seats.step amb s e = some t) : t.Gone userId jti := by
  obtain ⟨drawn, absent⟩ := gone
  cases e with
  | run i fresh =>
    simp only [Seats.step] at next
    split at next
    · cases next
    · rename_i task listed
      split at next
      · rename_i new
        obtain rfl := Option.some.inj next
        refine ⟨List.mem_append_right _ drawn, fun row stored => ?_⟩
        obtain ⟨old, before, -, same⟩ | ⟨wrote, -⟩ := run_rows stored
        · exact same ▸ absent old before
        · rintro rfl
          exact new _ wrote (List.mem_map.mpr ⟨(userId, row.jti), drawn, rfl⟩)
      · cases next
  | edit users tenants =>
    simp only [Seats.step] at next
    split at next
    · obtain rfl := Option.some.inj next
      exact ⟨drawn, fun row left => absent row (List.mem_of_mem_filter left)⟩
    · cases next
  | pass milliseconds =>
    obtain rfl := Option.some.inj next
    exact ⟨drawn, absent⟩
  | spawn | abort =>
    simp only [Seats.step] at next
    split at next
    · obtain rfl := Option.some.inj next
      exact ⟨drawn, absent⟩
    · cases next

/-- An identifier that left the table never comes back. -/
theorem State.Gone.run {amb : Ambient} {s t : State} {userId jti : Nat}
    (gone : s.Gone userId jti) (run : (machine amb).Runs Machine.free s t) : t.Gone userId jti :=
  run.invariant (·.Gone userId jti) (fun _ _ _ before _ => before.step) gone

/-- A token whose identifier left the table is rejected. -/
theorem State.Gone.rejects {s : State} {token : Token} {jti : Nat} (carries : token.jti = some jti)
    (gone : s.Gone token.uid jti) : ¬ s.accepts token := by
  intro accepted
  obtain ⟨row, stored, -, same⟩ := mem_of_seatOf (seatOf_of_accepts accepted carries).2
  exact gone.2 row stored same

/-- An identifier stored for an account whose seat does not carry it left the table. -/
theorem Drawn.gone {s : State} (drawn : Drawn s) {userId jti : Nat}
    (stored : (userId, jti) ∈ s.written) (other : s.seatOf userId ≠ some jti) :
    s.Gone userId jti := by
  refine ⟨stored, fun row listed same => other ?_⟩
  have pair : ((row.userId, row.jti) : Nat × Nat) = (userId, jti) :=
    List.inj_on_of_nodup_map drawn.once (drawn.seats row listed) stored same
  rw [← (Prod.mk.inj pair).1, ← same]
  exact seatOf_of_mem drawn.one listed

/-- Stored identifiers stay recorded. -/
theorem written_step {amb : Ambient} {s t : State} {e : Event} {pair : Nat × Nat}
    (stored : pair ∈ s.written) (next : Seats.step amb s e = some t) : pair ∈ t.written := by
  cases e with
  | run i jti =>
    simp only [Seats.step] at next
    split at next
    · cases next
    · split at next
      · obtain rfl := Option.some.inj next
        exact List.mem_append_right _ stored
      · cases next
  | pass milliseconds =>
    obtain rfl := Option.some.inj next
    exact stored
  | spawn | abort | edit =>
    simp only [Seats.step] at next
    split at next
    · obtain rfl := Option.some.inj next
      exact stored
    · cases next

/-- The event is the last statement of a password change on accounts and seats. -/
def Completes (s : State) (e : Event) (change : PasswordChange) : Prop :=
  ∃ i jti, e = .run i jti ∧
    (change.revokes = true ∧ s.tasks[i]? = some (.dropSeat change) ∨
      change.revokes = false ∧ ∃ newHash, s.tasks[i]? = some (.setHash change newHash))

/-- In every later state, every token with an identifier that was sent to the account before is
rejected. -/
def LogsOut (amb : Ambient) (s t : State) (userId : Nat) : Prop :=
  ∀ u, (machine amb).Runs Machine.free t u → ∀ token ∈ s.tokens, token.uid = userId →
    token.jti.isSome → ¬ u.accepts token

/-- No token sent to the account that has not expired carries the identifier in its seat. -/
def State.Unseated (s : State) (userId : Nat) : Prop :=
  ∀ token ∈ s.tokens, token.uid = userId → token.jti.isSome → s.now / 1000 < token.exp →
    s.seatOf userId ≠ token.jti

/-- Time does not run backwards. -/
theorem now_le_step {amb : Ambient} {s t : State} {e : Event}
    (next : Seats.step amb s e = some t) : s.now ≤ t.now := by
  cases e with
  | pass milliseconds =>
    obtain rfl := Option.some.inj next
    exact Nat.le_add_right ..
  | run i jti =>
    simp only [Seats.step] at next
    split at next
    · cases next
    · split at next
      · obtain rfl := Option.some.inj next
        exact Nat.le_refl _
      · cases next
  | spawn | abort | edit =>
    simp only [Seats.step] at next
    split at next
    · obtain rfl := Option.some.inj next
      exact Nat.le_refl _
    · cases next

/-- An expired token is rejected from then on. -/
theorem expired_rejects {amb : Ambient} {s t : State} {token : Token} {jti : Nat}
    (carries : token.jti = some jti) (expired : token.exp ≤ s.now / 1000)
    (run : (machine amb).Runs Machine.free s t) : ¬ t.accepts token := by
  intro accepted
  have later : s.now ≤ t.now := run.invariant (s.now ≤ ·.now)
    (fun _ _ _ before _ next => Nat.le_trans before (now_le_step next)) (Nat.le_refl _)
  have unexpired := (seatOf_of_accepts accepted carries).1
  have : s.now / 1000 ≤ t.now / 1000 := Nat.div_le_div_right later
  omega

/-- Revoking a seat ends every token sent to the account before. -/
theorem logsOut_of_revoke {amb : Ambient} {s t : State} (drawn : Drawn s) {userId : Nat}
    (written : ∀ pair ∈ s.written, pair ∈ t.written)
    (revoked : t.db.sessions = revokeSeat userId s.db.sessions) : LogsOut amb s t userId := by
  rintro u run token sent rfl carries
  obtain ⟨jti, carries⟩ := Option.isSome_iff_exists.mp carries
  have stored := drawn.tokens token sent jti carries
  have gone : t.Gone token.uid jti := by
    refine ⟨written _ stored, fun row listed same => ?_⟩
    rw [revoked] at listed
    obtain ⟨before, other⟩ := List.mem_filter.mp listed
    have pair : ((row.userId, row.jti) : Nat × Nat) = (token.uid, jti) :=
      List.inj_on_of_nodup_map drawn.once (drawn.seats row before) stored same
    simp [(Prod.mk.inj pair).1] at other
  exact (gone.run run).rejects carries

/-- An account without an accepted seat has no token to lose. -/
theorem logsOut_of_unseated {amb : Ambient} {s t : State} (drawn : Drawn s) {userId : Nat}
    {e : Event} (next : Seats.step amb s e = some t) (unseated : s.Unseated userId) :
    LogsOut amb s t userId := by
  rintro u run token sent rfl carries
  obtain ⟨jti, carries'⟩ := Option.isSome_iff_exists.mp carries
  have whole : (machine amb).Runs Machine.free s u :=
    (Machine.Runs.step e .refl trivial next).trans run
  by_cases expired : token.exp ≤ s.now / 1000
  · exact expired_rejects carries' expired whole
  · have other := unseated token sent rfl carries (Nat.lt_of_not_le expired)
    rw [carries'] at other
    have gone := drawn.gone (drawn.tokens token sent jti carries') other
    exact (gone.run whole).rejects carries'

/-- A token with the identifier in the seat of its account is accepted where every account and
company is active. -/
theorem accepts_of_seat {s : State} (drawn : Drawn s) {token : Token} {jti : Nat}
    (carries : token.jti = some jti) (unexpired : s.now / 1000 < token.exp)
    (seat : s.seatOf token.uid = some jti) (active : ∀ user ∈ s.db.users, user.isActive = true)
    (companies : ∀ tenant ∈ s.db.tenants, tenant.isActive = true ∧ tenant.subscribed = true) :
    s.accepts token := by
  obtain ⟨row, stored, account, -⟩ := mem_of_seatOf seat
  obtain ⟨owner, known, at'⟩ := List.any_eq_true.mp (drawn.owned row stored)
  cases user : s.db.users.find? fun user => user.id == token.uid with
  | none =>
    rw [account] at at'
    exact absurd at' (List.find?_eq_none.mp user owner known)
  | some found =>
    have same : found.id = token.uid := by simpa using List.find?_some user
    have listed := List.mem_of_find?_eq_some user
    obtain ⟨company, there, matched⟩ := List.mem_map.mp (drawn.accounts.2.2 found listed)
    cases tenant : s.db.tenants.find? fun tenant => tenant.id == found.tenantId with
    | none => exact absurd (List.find?_eq_none.mp tenant company there) (by simp [matched])
    | some home =>
      obtain ⟨open', subscribed⟩ := companies home (List.mem_of_find?_eq_some tenant)
      have seated : (getActiveSession s.db.sessions found.id).map Session.jti = token.jti := by
        rw [same, carries]
        exact seat
      simp [State.accepts, requireApiAuth, Nat.not_le.mpr unexpired, user, tenant,
        active found listed, seated, open', subscribed, Except.isOk, Except.toBool]

/-- Every account and company may be enabled later. -/
theorem exists_enabled (amb : Ambient) {s : State} (drawn : Drawn s) :
    ∃ t, (machine amb).Runs Machine.free s t ∧ Drawn t ∧ t.now = s.now ∧
      t.db.sessions = s.db.sessions ∧ (∀ user ∈ t.db.users, user.isActive = true) ∧
      ∀ tenant ∈ t.db.tenants, tenant.isActive = true ∧ tenant.subscribed = true := by
  let users := s.db.users.map fun user => { user with isActive := true }
  let tenants := s.db.tenants.map fun tenant => { tenant with isActive := true, subscribed := true }
  obtain ⟨ids, companies, references⟩ := drawn.accounts
  have accounts : Accounts users tenants := by
    refine ⟨?_, ?_, ?_⟩
    · rw [List.map_map]
      exact ids
    · rw [List.map_map]
      exact companies
    · simpa [users, tenants] using references
  let after : State :=
    { s with
      db := { users, tenants, sessions := s.db.sessions.filter fun row =>
        Db.hasUser { s.db with users } row.userId } }
  have next : Seats.step amb s (.edit users tenants) = some after := if_pos accounts
  refine ⟨after, .step (.edit users tenants) .refl trivial next, drawn.step next, rfl,
    List.filter_eq_self.mpr fun row stored => ?_, by simp [after, users], by simp [after, tenants]⟩
  have owned := drawn.owned row stored
  simpa [users, Db.hasUser] using owned

/-- A password change logs out every earlier login exactly when it revokes the seat, or when the
seat of the account carries the identifier of no token that could still be used. -/
theorem passwordChange_logsOut_iff (amb : Ambient) {s t : State} {e : Event}
    {change : PasswordChange} (reached : (machine amb).Reaches Machine.free s)
    (next : (machine amb).step s e = some t) (completes : Completes s e change) :
    LogsOut amb s t change.target ↔ change.revokes = true ∨ s.Unseated change.target := by
  have drawn := drawn_of_reaches reached
  have next' : Seats.step amb s e = some t := next
  have after : Drawn t := drawn.step next'
  obtain ⟨i, jti, rfl, ⟨revokes, listed⟩ | ⟨unrevoked, newHash, listed⟩⟩ := completes
  · refine iff_of_true (logsOut_of_revoke drawn (fun pair before => written_step before next') ?_)
      (.inl revokes)
    simp only [Seats.step, listed, Task.run, Option.not_mem_none, false_implies, implies_true,
      if_true] at next'
    obtain rfl := Option.some.inj next'
    rfl
  · constructor
    · intro out
      refine .inr fun token sent same carries unexpired seated => ?_
      obtain ⟨mine, carries'⟩ := Option.isSome_iff_exists.mp carries
      obtain ⟨u, run, enabled, now, sessions, active, companies⟩ := exists_enabled amb after
      have kept : t.now = s.now ∧ t.db.sessions = s.db.sessions := by
        simp only [Seats.step, listed, Task.run, Option.not_mem_none, false_implies, implies_true,
          if_true] at next'
        obtain rfl := Option.some.inj next'
        exact ⟨rfl, rfl⟩
      refine out u run token sent same carries
        (accepts_of_seat enabled carries' ?_ ?_ active companies)
      · rw [now, kept.1]
        exact unexpired
      · rw [State.seatOf, sessions, kept.2, same]
        exact seated.trans carries'
    · rintro (revokes | unseated)
      · rw [unrevoked] at revokes
        cases revokes
      · exact logsOut_of_unseated drawn next' unseated

/-- A company with one account, whose owner has logged in; then a request arrives and runs up to
its last statement. -/
def loggedInBefore (request : Task) (statements : Nat) : State :=
  (machine plainAmbient).play Machine.free
    (empty 0
      [{ id := 1, tenantId := 0, email := "a", passwordHash := "p", role := .owner,
         isActive := true }]
      [{ id := 0, isActive := true, subscribed := true, maxSeats := 1 }])
    ([.spawn (.find .token ⟨"a", "p", "d1", none, none⟩ "a" []),
      .run 0 0, .run 0 0, .run 0 0, .run 0 10, .run 0 0, .spawn request] ++
        List.replicate statements (.run 0 0))

/-- These states are reached. -/
theorem reaches_loggedInBefore (request : Task) (statements : Nat) :
    (machine plainAmbient).Reaches Machine.free (loggedInBefore request statements) :=
  ⟨_, ⟨0, _, _, by decide, rfl⟩, (machine plainAmbient).runs_play _ _ _⟩

/-- A reset by the platform operator logs the account out. -/
theorem passwordChange_logsOut_admin :
    LogsOut plainAmbient (loggedInBefore (.setHash (.adminResetUserPassword 0 1) "q") 1)
      (loggedInBefore (.setHash (.adminResetUserPassword 0 1) "q") 2) 1 :=
  (passwordChange_logsOut_iff plainAmbient
    (reaches_loggedInBefore (.setHash (.adminResetUserPassword 0 1) "q") 1) rfl
    ⟨0, 0, rfl, .inl ⟨rfl, rfl⟩⟩).mpr (.inl rfl)

/-- The reset of an owner does not: it leaves the seat, and the earlier token stays accepted. -/
theorem ownerReset_keeps_login :
    ¬ ∀ s e t change, (machine plainAmbient).Reaches Machine.free s →
      (machine plainAmbient).step s e = some t → Completes s e change →
        LogsOut plainAmbient s t change.target := by
  intro out
  refine out (loggedInBefore (.ownerFind 0 "q") 1) (.run 0 0) (loggedInBefore (.ownerFind 0 "q") 2)
    (.resetTenantOwnerPassword 1) (reaches_loggedInBefore _ _) rfl
    ⟨0, 0, rfl, .inr ⟨rfl, "q", rfl⟩⟩ _ .refl
    { uid := 1, role := .owner, tenantId := 0, jti := some 10, exp := 86400 } ?_ rfl rfl ?_
  · decide +kernel
  · simp only [State.accepts]
    decide +kernel

end ChainRemote.Panel.Seats
