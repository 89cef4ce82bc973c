import ChainRemote.Panel.Tickets
import Mathlib.Logic.Equiv.Basic

/-!
# Tickets are used once

A token is in one place at a time: in the call that will insert its row, in the row, in the call
that took the row, or in the sign-in that came of it. Each statement moves it on or drops it, so a
token signs in at most once. Only the call that takes a row, the clean-up of expired rows and the
deletion of the account remove a row; the pages that peek remove nothing, and a run without them
has the same outcome.
-/

namespace ChainRemote.Panel.Tickets

open Lib Accounts Seats

variable {hash : String → String}

/-- Every sign-in used a ticket of its own, of the same account, that was judged within its
lifetime. -/
structure OneTime (s : State) : Prop where
  once : (s.signIns.map SignIn.token).Nodup
  origin : ∀ signIn ∈ s.signIns, ∃ ticket ∈ s.issued, ticket.token = signIn.token ∧
    ticket.userId = signIn.user.id ∧ ticket.issuedAt ≤ signIn.checkedAt ∧
    signIn.checkedAt ≤ ticket.issuedAt + 180 * 1000

/-- The account is active and, unless it is a platform operator, so is its company. -/
def Db.Admits (db : Db) (userId : Nat) : Prop :=
  ∃ user ∈ db.users, user.id = userId ∧ user.isActive = true ∧
    (user.role ≠ .superAdmin → ∃ tenant ∈ db.tenants, tenant.id = user.tenantId ∧
      tenant.isActive = true ∧ tenant.subscribed = true)

/-- A sign-in that ends with this step is of an account that is active now. -/
def SignsInActive (s : State) (_ : Event) (t : State) : Prop :=
  ∀ signIn, t.signIns = signIn :: s.signIns → s.db.Admits signIn.user.id

/-- A row that has not expired stays, unless it is consumed or its account is deleted. -/
def KeepsTickets (hash : String → String) (s : State) (e : Event) (t : State) : Prop :=
  ∀ row ∈ s.db.tickets, s.now ≤ row.expiresAt → row ∉ t.db.tickets →
    (∃ i token, e = .run i ∧ s.tasks[i]? = some (.take token) ∧ hash token = row.tokenHash) ∨
      ∃ users tenants, e = .edit users tenants ∧ ∀ user ∈ users, user.id ≠ row.userId

/-- No page is opened. -/
def Unseen (_ : State) : Event → Prop
  | .visit .. | .look .. | .leave .. => False
  | _ => True

/-- The state without the pages in progress. -/
def State.unseen (s : State) : State := { s with visits := [] }

/-- The token is in the hands of the call. -/
def Task.holds (token : String) : Task → Bool
  | .insert ticket => ticket.token == token
  | .judge taken row => row.isSome && taken == token
  | .account taken _ _ => taken == token
  | _ => false

/-- In how many places a token is. -/
def State.places (hash : String → String) (s : State) (token : String) : Nat :=
  s.tasks.countP (Task.holds token) +
    s.db.tickets.countP (fun row => row.tokenHash == hash token) +
    s.signIns.countP fun signIn => signIn.token == token

/-- What a call carries came from a ticket that was issued. -/
def Task.Backed (hash : String → String) (issued : List Issued) (now : Nat) : Task → Prop
  | .insert ticket => ticket ∈ issued
  | .clean limit => limit ≤ now
  | .judge token row => ∀ found ∈ row, ∃ ticket ∈ issued, ticket.token = token ∧
      ticket.row hash = found
  | .account token userId checkedAt => ∃ ticket ∈ issued, ticket.token = token ∧
      ticket.userId = userId ∧ ticket.issuedAt ≤ checkedAt ∧
      checkedAt ≤ ticket.issuedAt + 180 * 1000
  | _ => True

/-- What every run keeps. -/
structure Sound (hash : String → String) (s : State) : Prop where
  fresh : (s.issued.map Issued.token).Nodup
  past : ∀ ticket ∈ s.issued, ticket.issuedAt ≤ s.now
  rows : ∀ row ∈ s.db.tickets, ∃ ticket ∈ s.issued, ticket.row hash = row
  tasks : ∀ task ∈ s.tasks, task.Backed hash s.issued s.now
  places : ∀ token, s.places hash token ≤ (s.issued.map Issued.token).count token
  origin : ∀ signIn ∈ s.signIns, ∃ ticket ∈ s.issued, ticket.token = signIn.token ∧
    ticket.userId = signIn.user.id ∧ ticket.issuedAt ≤ signIn.checkedAt ∧
    signIn.checkedAt ≤ ticket.issuedAt + 180 * 1000

/-- A call stays backed while time passes and tickets are issued. -/
theorem Task.Backed.mono {issued more : List Issued} {now later : Nat} {task : Task}
    (backed : task.Backed hash issued now) (extends' : ∀ ticket ∈ issued, ticket ∈ more)
    (passed : now ≤ later) : task.Backed hash more later := by
  cases task with
  | insert ticket => exact extends' ticket backed
  | clean limit =>
    have before : limit ≤ now := backed
    show limit ≤ later
    omega
  | judge token row =>
    intro found carried
    obtain ⟨ticket, old, same⟩ := backed found carried
    exact ⟨ticket, extends' ticket old, same⟩
  | account token userId checkedAt =>
    obtain ⟨ticket, old, same⟩ := backed
    exact ⟨ticket, extends' ticket old, same⟩
  | cutoff => trivial
  | take token => trivial

/-- What the statements return for a row names its account before it expires. -/
theorem holder_eq_some {now userId : Nat} {row : Option Ticket}
    (held : holder now row = some userId) :
    ∃ found ∈ row, found.userId = userId ∧ now ≤ found.expiresAt := by
  cases row with
  | none => cases held
  | some found =>
    simp only [holder] at held
    split at held
    · cases held
    · rename_i live
      have same : found.userId = userId := by simpa using held
      exact ⟨found, rfl, same, by omega⟩

/-- A row found by its hash is stored with it. -/
theorem ticket_eq_some {db : Db} {tokenHash : String} {row : Ticket}
    (found : db.ticket tokenHash = some row) : row ∈ db.tickets ∧ row.tokenHash = tokenHash :=
  ⟨List.mem_of_find?_eq_some found, by simpa using List.find?_some found⟩

/-- The account that `authorize` returns is admitted. -/
theorem authorizeAccount_admits {db : Db} {userId : Nat} {user : SignedIn}
    (returned : authorizeAccount db userId = some user) :
    user.id = userId ∧ db.Admits userId := by
  unfold authorizeAccount at returned
  split at returned
  · cases returned
  · rename_i account tenant found
    split at returned
    · cases returned
    · rename_i open'
      obtain ⟨row, member, joined⟩ := List.exists_of_findSome?_eq_some found
      split at joined
      · rename_i active
        obtain ⟨company, home, same⟩ := Option.map_eq_some_iff.mp joined
        have named : company.id = row.tenantId := by simpa using List.find?_some home
        cases same
        cases returned
        refine ⟨active.1, account, member, active.1, active.2, ?_⟩
        intro ordinary
        have both : tenant.isActive = true ∧ tenant.subscribed = true := by
          by_contra closed
          refine open' ⟨ordinary, ?_⟩
          cases on : tenant.isActive with
          | false => exact .inl rfl
          | true =>
            cases paid : tenant.subscribed with
            | false => exact .inr rfl
            | true => exact absurd ⟨on, paid⟩ closed
        exact ⟨tenant, List.mem_of_find?_eq_some home, named, both⟩
      · cases joined

/-- Taking a call off the calls in progress takes what it holds with it. -/
theorem places_erase {s : State} {i : Nat} {task : Task} (chosen : s.tasks[i]? = some task)
    (token : String) :
    s.places hash token =
      { s with tasks := s.tasks.eraseIdx i }.places hash token +
        if task.holds token then 1 else 0 := by
  have perm := (cons_eraseIdx_perm chosen).countP_eq (Task.holds token)
  rw [List.countP_cons] at perm
  simp only [State.places]
  omega

/-- A call that breaks off leaves the panel sound. -/
theorem Sound.erase {s : State} (sound : Sound hash s) (i : Nat) :
    Sound hash { s with tasks := s.tasks.eraseIdx i } := by
  refine { sound with tasks := ?_, places := ?_ }
  · intro task inside
    exact sound.tasks task (List.mem_of_mem_eraseIdx inside)
  · intro token
    have fewer : (s.tasks.eraseIdx i).countP (Task.holds token) ≤
        s.tasks.countP (Task.holds token) := (List.eraseIdx_sublist s.tasks i).countP_le
    have before := sound.places token
    simp only [State.places] at before ⊢
    omega

/-- A call that holds no token may be added. -/
theorem Sound.push {s : State} (sound : Sound hash s) {task : Task}
    (backed : task.Backed hash s.issued s.now) (idle : ∀ token, task.holds token = false) :
    Sound hash { s with tasks := task :: s.tasks } := by
  refine { sound with tasks := ?_, places := ?_ }
  · intro other inside
    rcases List.mem_cons.mp inside with rfl | old
    · exact backed
    · exact sound.tasks other old
  · intro token
    have before := sound.places token
    simp only [State.places, List.countP_cons, idle, Bool.false_eq_true, if_false] at before ⊢
    omega

/-- A start of `authorize` leaves the panel sound. -/
theorem Sound.authorize {s : State} (sound : Sound hash s) (token : String) :
    Sound hash (s.authorize token) := by
  unfold State.authorize
  split
  · exact { sound with }
  · exact sound.push trivial fun _ => rfl

/-- Fewer rows leave the panel sound. -/
theorem Sound.fewerRows {s : State} (sound : Sound hash s) (db : Db)
    (fewer : db.tickets.Sublist s.db.tickets) : Sound hash { s with db } := by
  refine { sound with rows := ?_, places := ?_ }
  · intro row inside
    exact sound.rows row (fewer.subset inside)
  · intro token
    have count := fewer.countP_le (p := fun row => row.tokenHash == hash token)
    have before := sound.places token
    simp only [State.places] at before ⊢
    omega

/-- The row stands for the token that the call held: no other token has its hash. -/
theorem row_holds (distinct : Function.Injective hash) (ticket : Issued) (token : String) :
    ((ticket.row hash).tokenHash == hash token) = Task.holds token (.insert ticket) := by
  have iff : (ticket.row hash).tokenHash = hash token ↔ ticket.token = token :=
    distinct.eq_iff
  simp [Task.holds, iff]

/-- The insert hands the token on to the row. -/
theorem Sound.runInsert (distinct : Function.Injective hash) {s : State} {ticket : Issued}
    (sound : Sound hash s) (backed : ticket ∈ s.issued)
    (spare : ∀ token, s.places hash token + (if Task.holds token (.insert ticket) then 1 else 0) ≤
      (s.issued.map Issued.token).count token) :
    Sound hash (s.runTask hash (.insert ticket)) := by
  simp only [State.runTask]
  split
  · exact sound
  · rename_i db inserted
    have stored : db = { s.db with tickets := ticket.row hash :: s.db.tickets } := by
      unfold Db.insertTicket at inserted
      split at inserted
      · cases inserted
      · exact (Option.some.inj inserted).symm
    subst stored
    have added : Sound hash
        { s with db := { s.db with tickets := ticket.row hash :: s.db.tickets } } := by
      refine { sound with rows := ?_, places := ?_ }
      · intro row inside
        rcases List.mem_cons.mp inside with rfl | old
        · exact ⟨ticket, backed, rfl⟩
        · exact sound.rows row old
      · intro token
        have before := spare token
        simp only [State.places, List.countP_cons, row_holds distinct] at before ⊢
        omega
    exact added.push trivial fun _ => rfl

/-- The row that the deletion takes out held the token that the call holds from there on. -/
theorem taken_holds (hash : String → String) (db : Db) (token : String) :
    (if Task.holds token (.judge token (db.ticket (hash token))) then 1 else 0) ≤
      db.tickets.countP fun row => row.tokenHash == hash token := by
  cases found : db.ticket (hash token) with
  | none => simp [Task.holds]
  | some row =>
    obtain ⟨stored, hashed⟩ := ticket_eq_some found
    have some' : 0 < db.tickets.countP fun row => row.tokenHash == hash token :=
      List.countP_pos_iff.mpr ⟨row, stored, beq_iff_eq.mpr hashed⟩
    simp only [Task.holds, Option.isSome_some, Bool.true_and, beq_self_eq_true, if_true]
    omega

/-- The deletion hands the token on to the call. -/
theorem Sound.runTake (distinct : Function.Injective hash) {s : State} (sound : Sound hash s)
    (token : String) : Sound hash (s.runTask hash (.take token)) := by
  simp only [State.runTask]
  have rest := sound.fewerRows (s.db.deleteTicket (hash token)) List.filter_sublist
  refine { rest with tasks := ?_, places := ?_ }
  · intro task inside
    rcases List.mem_cons.mp inside with rfl | old
    · intro row taken
      obtain ⟨stored, hashed⟩ := ticket_eq_some taken
      obtain ⟨ticket, issued, same⟩ := sound.rows row stored
      have named : hash ticket.token = hash token := by rw [← hashed, ← same]; rfl
      exact ⟨ticket, issued, distinct named, same⟩
    · exact rest.tasks task old
  · intro other
    by_cases same : token = other
    · subst same
      have gone : (s.db.deleteTicket (hash token)).tickets.countP
          (fun row => row.tokenHash == hash token) = 0 := by
        rw [List.countP_eq_zero]
        intro row inside
        simpa [Db.deleteTicket] using (List.mem_filter.mp inside).2
      have held := taken_holds hash s.db token
      have before := sound.places token
      simp only [State.places, List.countP_cons, gone] at before ⊢
      omega
    · have idle : Task.holds other (.judge token (s.db.ticket (hash token))) = false := by
        simp [Task.holds, same]
      have before := rest.places other
      simp only [State.places, List.countP_cons, idle, Bool.false_eq_true, if_false]
        at before ⊢
      omega

/-- The judgement of the row hands the token on, when its owner is named. -/
theorem Sound.runJudge {s : State} {token : String} {row : Option Ticket} (sound : Sound hash s)
    (backed : Task.Backed hash s.issued s.now (.judge token row))
    (spare : ∀ other, s.places hash other + (if Task.holds other (.judge token row) then 1 else 0) ≤
      (s.issued.map Issued.token).count other) :
    Sound hash (s.runTask hash (.judge token row)) := by
  simp only [State.runTask]
  split
  · exact { sound with }
  · rename_i userId held
    obtain ⟨found, carried, holds, live⟩ := holder_eq_some held
    obtain ⟨ticket, issued, named, same⟩ := backed found carried
    refine { sound with tasks := ?_, places := ?_ }
    · intro task inside
      rcases List.mem_cons.mp inside with rfl | old
      · have expiry : found.expiresAt = ticket.issuedAt + 180 * 1000 := by
          rw [← same, Issued.row, ttlSec]
        have owner : ticket.userId = found.userId := by rw [← same]; rfl
        have past := sound.past ticket issued
        refine ⟨ticket, issued, named, owner.trans holds, past, ?_⟩
        omega
      · exact sound.tasks task old
    · intro other
      have before := spare other
      have same' : Task.holds other (.judge token row) =
          Task.holds other (.account token userId s.now) := by
        cases row with
        | none => cases carried
        | some row => rfl
      simp only [State.places, List.countP_cons, same'] at before ⊢
      omega

/-- The read of the account spends the token on a sign-in, or drops it. -/
theorem Sound.runAccount {s : State} {token : String} {userId checkedAt : Nat}
    (sound : Sound hash s)
    (backed : Task.Backed hash s.issued s.now (.account token userId checkedAt))
    (spare : ∀ other, s.places hash other +
        (if Task.holds other (.account token userId checkedAt) then 1 else 0) ≤
      (s.issued.map Issued.token).count other) :
    Sound hash (s.runTask hash (.account token userId checkedAt)) := by
  simp only [State.runTask]
  split
  · exact sound
  · rename_i user returned
    have same := (authorizeAccount_admits returned).1
    refine { sound with places := ?_, origin := ?_ }
    · intro other
      have before := spare other
      have named : Task.holds other (.account token userId checkedAt) = (token == other) := rfl
      rw [named] at before
      simp only [State.places, List.countP_cons] at before ⊢
      omega
    · intro signIn inside
      rcases List.mem_cons.mp inside with rfl | old
      · obtain ⟨ticket, issued, named, owner, within'⟩ := backed
        exact ⟨ticket, issued, named, owner.trans same.symm, within'⟩
      · exact sound.origin signIn old

/-- A call that goes on hands its token on, or drops it. -/
theorem Sound.runTask (distinct : Function.Injective hash) {s : State} {task : Task}
    (sound : Sound hash s) (backed : task.Backed hash s.issued s.now)
    (spare : ∀ token, s.places hash token + (if task.holds token then 1 else 0) ≤
      (s.issued.map Issued.token).count token) : Sound hash (s.runTask hash task) := by
  cases task with
  | insert ticket => exact sound.runInsert distinct backed spare
  | cutoff => exact sound.push (Nat.le_refl s.now) fun _ => rfl
  | clean limit => exact sound.fewerRows _ List.filter_sublist
  | take token => exact sound.runTake distinct token
  | judge token row => exact sound.runJudge backed spare
  | account token userId checkedAt => exact sound.runAccount backed spare

/-- A step on the pages is nothing or a start of `authorize`, but for the pages in progress. -/
theorem runVisit_cases (hash : String → String) (s : State) (current : Option Nat) (visit : Visit) :
    (s.runVisit hash current visit).unseen = s.unseen ∨
      ∃ token, (s.runVisit hash current visit).unseen = s.unseen.authorize token := by
  cases visit with
  | select page token =>
    simp only [State.runVisit]
    split
    · exact .inl rfl
    · exact .inl rfl
  | judge page token row =>
    simp only [State.runVisit]
    split
    · refine .inr ⟨token, ?_⟩
      unfold State.authorize
      split
      · rfl
      · rfl
    · exact .inl rfl

/-- Soundness does not depend on the pages in progress. -/
theorem sound_unseen {s : State} : Sound hash s.unseen ↔ Sound hash s :=
  ⟨fun sound => { sound with }, fun sound => { sound with }⟩

/-- Every step leaves the panel sound. -/
theorem Sound.step (distinct : Function.Injective hash) {s t : State} {e : Event}
    (sound : Sound hash s) (next : step hash s e = some t) : Sound hash t := by
  cases e with
  | pass milliseconds =>
    cases next
    refine { sound with past := ?_, tasks := ?_ }
    · intro ticket issued
      exact Nat.le_trans (sound.past ticket issued) (Nat.le_add_right _ _)
    · intro task inside
      exact (sound.tasks task inside).mono (fun _ old => old) (Nat.le_add_right _ _)
  | edit users tenants =>
    simp only [Tickets.step] at next
    split at next
    · cases next
      exact sound.fewerRows _ List.filter_sublist
    · cases next
  | issue userId token =>
    simp only [Tickets.step] at next
    split at next
    · cases next
    · rename_i new
      cases next
      refine ⟨List.nodup_cons.mpr ⟨new, sound.fresh⟩, ?_, ?_, ?_, ?_, ?_⟩
      · intro ticket inside
        rcases List.mem_cons.mp inside with rfl | old
        · exact Nat.le_refl _
        · exact sound.past ticket old
      · intro row inside
        obtain ⟨ticket, old, same⟩ := sound.rows row inside
        exact ⟨ticket, List.mem_cons_of_mem _ old, same⟩
      · intro task inside
        rcases List.mem_cons.mp inside with rfl | old
        · exact List.mem_cons_self
        · exact (sound.tasks task old).mono (fun _ => List.mem_cons_of_mem _) (Nat.le_refl _)
      · intro other
        have before := sound.places other
        have named : Task.holds other (.insert { token, userId, issuedAt := s.now }) =
            (token == other) := rfl
        simp only [State.places] at before
        simp only [State.places, List.countP_cons, List.map_cons, List.count_cons, named]
        omega
      · intro signIn inside
        obtain ⟨ticket, old, same⟩ := sound.origin signIn inside
        exact ⟨ticket, List.mem_cons_of_mem _ old, same⟩
  | signIn token =>
    cases next
    exact sound.authorize token
  | run i =>
    simp only [Tickets.step] at next
    obtain ⟨task, chosen, rfl⟩ := Option.map_eq_some_iff.mp next
    have backed := sound.tasks task (List.mem_of_getElem? chosen)
    refine (sound.erase i).runTask distinct backed fun token => ?_
    rw [← places_erase chosen token]
    exact sound.places token
  | abort i =>
    simp only [Tickets.step] at next
    split at next
    · cases next
      exact sound.erase i
    · cases next
  | visit page token =>
    cases next
    exact { sound with }
  | look i current =>
    simp only [Tickets.step] at next
    obtain ⟨visit, -, rfl⟩ := Option.map_eq_some_iff.mp next
    have rest : Sound hash s.unseen := sound_unseen.mpr sound
    apply sound_unseen.mp
    rcases runVisit_cases hash { s with visits := s.visits.eraseIdx i } current visit with
      same | ⟨token, same⟩
    · rw [same]
      exact rest
    · rw [same]
      exact rest.authorize token
  | leave i =>
    simp only [Tickets.step] at next
    split at next
    · cases next
      exact { sound with }
    · cases next

/-- Every state that the panel reaches is sound. -/
theorem sound_of_reaches (distinct : Function.Injective hash) {s : State}
    (reached : (panel hash).Reaches Machine.free s) : Sound hash s := by
  refine reached.invariant (Sound hash) ?_ fun s e t sound _ next => sound.step distinct next
  rintro s ⟨now, users, tenants, -, rfl⟩
  exact ⟨List.nodup_nil, nofun, nofun, nofun, fun _ => Nat.le_refl _, nofun⟩

/-- A sound panel satisfies the property of the sign-ins. -/
theorem Sound.oneTime {s : State} (sound : Sound hash s) : OneTime s := by
  refine ⟨?_, sound.origin⟩
  rw [List.nodup_iff_count_le_one]
  intro token
  have once := List.nodup_iff_count_le_one.mp sound.fresh token
  have places := sound.places token
  have signed : (s.signIns.map SignIn.token).count token =
      s.signIns.countP fun signIn => signIn.token == token := by
    rw [List.count, List.countP_map]
    rfl
  simp only [State.places] at places
  omega

/-- The start of `authorize` writes neither a row nor a sign-in. -/
theorem authorize_frame (s : State) (token : String) :
    (s.authorize token).db = s.db ∧ (s.authorize token).signIns = s.signIns := by
  unfold State.authorize
  split
  · exact ⟨rfl, rfl⟩
  · exact ⟨rfl, rfl⟩

/-- The pages write neither a row nor a sign-in. -/
theorem runVisit_frame (s : State) (current : Option Nat) (visit : Visit) :
    (s.runVisit hash current visit).db = s.db ∧
      (s.runVisit hash current visit).signIns = s.signIns := by
  rcases runVisit_cases hash s current visit with same | ⟨token, same⟩
  · have rows := congrArg State.db same
    have signed := congrArg State.signIns same
    exact ⟨rows, signed⟩
  · have frame := authorize_frame s.unseen token
    rw [← same] at frame
    exact frame

/-- The sign-ins that a step adds are of accounts that are active. -/
theorem step_signsInActive {s t : State} {e : Event} (next : step hash s e = some t) :
    SignsInActive s e t := by
  -- A step that adds no sign-in says nothing.
  have idle : t.signIns = s.signIns → SignsInActive s e t := by
    intro same signIn added
    rw [same] at added
    exact absurd added (List.cons_ne_self _ _).symm
  cases e with
  | run i =>
    simp only [step] at next
    obtain ⟨task, -, rfl⟩ := Option.map_eq_some_iff.mp next
    cases task with
    | account token userId checkedAt =>
      simp only [State.runTask] at idle ⊢
      split at idle
      · exact idle rfl
      · rename_i user returned
        intro signIn added
        obtain ⟨rfl, -⟩ := List.cons.inj added
        have admitted := authorizeAccount_admits returned
        rw [admitted.1]
        exact admitted.2
    | insert ticket =>
      apply idle
      simp only [State.runTask]
      split <;> rfl
    | judge token row =>
      apply idle
      simp only [State.runTask]
      split <;> rfl
    | cutoff => exact idle rfl
    | clean limit => exact idle rfl
    | take token => exact idle rfl
  | look i current =>
    simp only [step] at next
    obtain ⟨visit, -, rfl⟩ := Option.map_eq_some_iff.mp next
    exact idle (runVisit_frame _ _ _).2
  | signIn token =>
    cases next
    exact idle (authorize_frame s token).2
  | pass | visit =>
    cases next
    exact idle rfl
  | edit | issue | abort | leave =>
    simp only [step] at next
    split at next
    all_goals cases next
    exact idle rfl

/-- A row that goes away has expired, was consumed or belonged to an account that is deleted. -/
theorem step_keepsTickets {s t : State} {e : Event} (sound : Sound hash s)
    (next : step hash s e = some t) : KeepsTickets hash s e t := by
  intro row stored live lost
  cases e with
  | run i =>
    simp only [step] at next
    obtain ⟨task, chosen, rfl⟩ := Option.map_eq_some_iff.mp next
    cases task with
    | take token =>
      refine .inl ⟨i, token, rfl, chosen, ?_⟩
      by_contra other
      apply lost
      have differs : (row.tokenHash != hash token) = true := by
        rw [bne_iff_ne]
        exact fun same => other same.symm
      exact List.mem_filter.mpr ⟨stored, differs⟩
    | clean limit =>
      -- The clock of the clean-up was read before.
      have past : limit ≤ s.now := sound.tasks _ (List.mem_of_getElem? chosen)
      have kept : ¬ row.expiresAt < limit := by omega
      refine absurd (List.mem_filter.mpr ⟨stored, ?_⟩) lost
      simpa using kept
    | insert ticket =>
      refine absurd ?_ lost
      simp only [State.runTask]
      split
      · exact stored
      · rename_i db inserted
        unfold Db.insertTicket at inserted
        split at inserted
        · cases inserted
        · cases inserted
          exact List.mem_cons_of_mem _ stored
    | cutoff => exact absurd stored lost
    | judge token found =>
      refine absurd ?_ lost
      simp only [State.runTask]
      split <;> exact stored
    | account token userId checkedAt =>
      refine absurd ?_ lost
      simp only [State.runTask]
      split <;> exact stored
  | edit users tenants =>
    simp only [step] at next
    split at next
    · cases next
      refine .inr ⟨users, tenants, rfl, ?_⟩
      intro user member same
      apply lost
      refine List.mem_filter.mpr ⟨stored, List.any_eq_true.mpr ⟨user, member, ?_⟩⟩
      exact beq_iff_eq.mpr same
    · cases next
  | look i current =>
    simp only [step] at next
    obtain ⟨visit, -, rfl⟩ := Option.map_eq_some_iff.mp next
    rw [(runVisit_frame _ _ _).1] at lost
    exact absurd stored lost
  | signIn token =>
    cases next
    rw [(authorize_frame s token).1] at lost
    exact absurd stored lost
  | pass | visit =>
    cases next
    exact absurd stored lost
  | issue | abort | leave =>
    simp only [step] at next
    split at next
    all_goals cases next
    exact absurd stored lost

/-- A step is, without the pages, the same step, or nothing, or a start of `authorize`. -/
theorem step_unseen {s t : State} {e : Event} (next : step hash s e = some t) :
    (panel hash).Runs Unseen s.unseen t.unseen := by
  have one : ∀ e, Unseen s.unseen e → step hash s.unseen e = some t.unseen →
      (panel hash).Runs Unseen s.unseen t.unseen := fun e quiet there => .step e .refl quiet there
  have started : ∀ token, s.unseen.authorize token = (s.authorize token).unseen := by
    intro token
    unfold State.authorize
    split <;> rfl
  cases e with
  | look i current =>
    simp only [step] at next
    obtain ⟨visit, -, rfl⟩ := Option.map_eq_some_iff.mp next
    rcases runVisit_cases hash { s with visits := s.visits.eraseIdx i } current visit with
      same | ⟨token, same⟩
    · rw [same]
      exact .refl
    · rw [same]
      exact .step (.signIn token) .refl trivial rfl
  | visit page token =>
    cases next
    exact .refl
  | leave i =>
    simp only [step] at next
    split at next
    · cases next
      exact .refl
    · cases next
  | signIn token =>
    cases next
    exact one (.signIn token) trivial (congrArg some (started token))
  | pass milliseconds =>
    cases next
    exact one (.pass milliseconds) trivial rfl
  | run i =>
    simp only [step] at next
    obtain ⟨task, chosen, rfl⟩ := Option.map_eq_some_iff.mp next
    refine one (.run i) trivial ?_
    have there : s.unseen.tasks[i]? = some task := chosen
    simp only [step, there, Option.map_some]
    congr 1
    cases task with
    | insert | judge | account =>
      simp only [State.runTask, State.unseen]
      split <;> rfl
    | cutoff | clean | take => rfl
  | edit users tenants =>
    refine one (.edit users tenants) trivial ?_
    simp only [step] at next ⊢
    split at next
    · rename_i keyed
      cases next
      rw [if_pos keyed]
      rfl
    · cases next
  | issue userId token =>
    refine one (.issue userId token) trivial ?_
    simp only [step] at next ⊢
    split at next
    · cases next
    · rename_i new
      cases next
      have new' : token ∉ s.unseen.issued.map Issued.token := new
      rw [if_neg new']
      rfl
  | abort i =>
    refine one (.abort i) trivial ?_
    simp only [step] at next ⊢
    split at next
    · rename_i inside
      cases next
      have inside' : i < s.unseen.tasks.length := inside
      rw [if_pos inside']
      rfl
    · cases next

/-- In every run each token signs in at most once, for its account, judged within 180 seconds and
while the account is admitted; a row goes away only when it expired, was consumed or belongs to an
account that is deleted; and the run without its pages ends with the same rows, the same answers of
`consumePanelTicket` and the same sign-ins. -/
theorem panelTickets_oneTime (distinct : Function.Injective hash) :
    (∀ s, (panel hash).Reaches Machine.free s → OneTime s) ∧
      (panel hash).Always Machine.free
        (fun s e t => SignsInActive s e t ∧ KeepsTickets hash s e t) ∧
      ∀ s t, (panel hash).Runs Machine.free s t → (panel hash).Runs Unseen s.unseen t.unseen := by
  refine ⟨fun s reached => (sound_of_reaches distinct reached).oneTime, ?_, ?_⟩
  · intro s e t reached _ next
    exact ⟨step_signsInActive next, step_keepsTickets (sound_of_reaches distinct reached) next⟩
  · intro s t run
    exact run.simulates State.unseen fun _ _ _ _ next => step_unseen next

/-- A token of `randomBytes(32)`. -/
def sampleToken : String := "AAECAwQFBgcICQoLDA0ODxAREhMUFRYXGBkaGxwdHh8"

/-- A digest without collisions that is SHA-256 on the token. -/
def sampleHash : String → String :=
  Equiv.swap sampleToken "ea866a757e4c38babfa8127cbe9a409d3e1f93a00ff1488ff735fcf917afffd0"

/-- A company with its owner. -/
def sampleOwner : Account :=
  { id := 1, tenantId := 1, email := "kim", passwordHash := "", role := .owner, isActive := true,
    displayName := "Kim", updatedAt := 0 }

/-- The panel of that company. -/
def samplePanel : State :=
  empty 0 [sampleOwner] [{ id := 1, isActive := true, subscribed := true, maxSeats := 3 }]

theorem samplePanel_starts : (panel sampleHash).start samplePanel :=
  ⟨0, _, _, by decide, rfl⟩

theorem sampleHash_injective : Function.Injective sampleHash :=
  (Equiv.swap sampleToken _).injective

/-- A ticket is issued, peeked at and consumed twice; the second call finds no row. -/
def twice : List Event :=
  [.issue 1 sampleToken, .run 0, .run 0, .run 0, .visit .ticket sampleToken, .look 0 none,
    .look 0 none, .signIn sampleToken, .pass 1000, .run 0, .run 0, .run 0, .run 0, .run 0]

/-- The panel after these steps. -/
def sampleAfter (events : List Event) : State :=
  (panel sampleHash).play Machine.free samplePanel events

theorem sampleAfter_reached (events : List Event) :
    (panel sampleHash).Reaches Machine.free (sampleAfter events) :=
  ⟨samplePanel, samplePanel_starts, Machine.runs_play _ _ _ events⟩

theorem panelTickets_oneTime_twice :
    Function.Injective sampleHash ∧ (sampleAfter twice).signIns.length = 1 ∧
      (sampleAfter twice).consumed.length = 2 ∧ OneTime (sampleAfter twice) :=
  ⟨sampleHash_injective, by decide +kernel, by decide +kernel,
    (panelTickets_oneTime sampleHash_injective).1 _ (sampleAfter_reached twice)⟩

/-- The ticket is judged in its last millisecond, and its account is looked up later. -/
def late : List Event :=
  [.issue 1 sampleToken, .run 0, .run 0, .run 0, .signIn sampleToken, .run 0, .pass 180000, .run 0,
    .pass 5000, .run 0]

/-- A ticket waits. -/
def waiting : List Event := [.issue 1 sampleToken, .run 0, .run 0, .run 0]

/-- A sign-in may end after the 180 seconds, and the deletion of an account removes its ticket,
which has neither expired nor been consumed. -/
theorem panelTickets_late_and_deleted :
    (∃ s, (panel sampleHash).Reaches Machine.free s ∧ ∃ signIn ∈ s.signIns, ∀ ticket ∈ s.issued,
      ticket.issuedAt + 180 * 1000 < signIn.finishedAt) ∧
    ∃ s t, (panel sampleHash).Reaches Machine.free s ∧ step sampleHash s (.edit [] []) = some t ∧
      s.tasks = [] ∧ s.consumed = [] ∧
      ∃ row ∈ s.db.tickets, s.now ≤ row.expiresAt ∧ row ∉ t.db.tickets := by
  refine ⟨⟨sampleAfter late, sampleAfter_reached late, by decide +kernel⟩, ?_⟩
  refine ⟨sampleAfter waiting, { sampleAfter waiting with db := ⟨[], [], []⟩ },
    sampleAfter_reached waiting, ?_, by decide +kernel, by decide +kernel, ?_⟩
  · simp only [step, List.map_nil]
    rw [if_pos (by decide)]
    simp
  · have stored : (sampleAfter waiting).db.tickets.any
        (fun row => decide ((sampleAfter waiting).now ≤ row.expiresAt)) = true := by
      decide +kernel
    obtain ⟨row, member, live⟩ := List.any_eq_true.mp stored
    exact ⟨row, member, of_decide_eq_true live, List.not_mem_nil⟩

end ChainRemote.Panel.Tickets
