import ChainRemote.Panel.Accounts

/-!
# One-time tickets of the panel

`lib/panel-ticket.ts` turns the identity of a desktop session into a browser session: a row of
`panel_tickets` keeps the hash of a random token, the account and the expiry. The calls of
`issuePanelTicket`, of the provider `panel-ticket` and of the two pages that peek are requests in
progress, which interleave statement by statement with the passage of time and with changes to
accounts and companies. The clock is read where the source reads it, between the statements.

`hash` is the digest of a token. `issued` and `signIns` are history; no statement reads them.
-/

namespace ChainRemote.Panel.Tickets

open Lib Accounts Seats

/-- `TTL_SEC`. -/
def ttlSec : Nat := 180

/-- A `panel_tickets` row; the hash is its primary key. -/
structure Ticket where
  tokenHash : String
  userId : Nat
  /-- In milliseconds. -/
  expiresAt : Nat
deriving DecidableEq, Repr

/-- The three tables. -/
structure Db where
  users : List Account
  tenants : List Tenant
  tickets : List Ticket

/-- The insert of `issuePanelTicket`: the hash must be new and the account must exist. -/
def Db.insertTicket (db : Db) (row : Ticket) : Option Db :=
  if (db.tickets.any fun other => other.tokenHash == row.tokenHash) ∨
      ¬ db.users.any fun user => user.id == row.userId then none
  else some { db with tickets := row :: db.tickets }

/-- The clean-up of `issuePanelTicket`. -/
def Db.cleanTickets (db : Db) (cutoff : Nat) : Db :=
  { db with tickets := db.tickets.filter fun row => !decide (row.expiresAt < cutoff) }

/-- The row that a statement finds by its primary key. -/
def Db.ticket (db : Db) (tokenHash : String) : Option Ticket :=
  db.tickets.find? fun row => row.tokenHash == tokenHash

/-- The delete of `consumePanelTicket`, whose `RETURNING` is `Db.ticket`. -/
def Db.deleteTicket (db : Db) (tokenHash : String) : Db :=
  { db with tickets := db.tickets.filter fun row => row.tokenHash != tokenHash }

/-- What `consumePanelTicket` and `peekPanelTicket` return for the row that was found. -/
def holder (now : Nat) : Option Ticket → Option Nat
  | none => none
  | some row => if row.expiresAt < now then none else some row.userId

/-- `!token || token.length < 16`. -/
def malformed (token : String) : Bool := decide (jsLength token < 16)

/-- The account that `authorize` returns. -/
structure SignedIn where
  id : Nat
  email : String
  displayName : String
  role : Role
  tenantId : Nat
deriving DecidableEq, Repr

/-- The active account with its company. -/
def Db.activeUser (db : Db) (userId : Nat) : Option (Account × Tenant) :=
  db.users.findSome? fun user =>
    if user.id = userId ∧ user.isActive then
      (db.tenants.find? fun tenant => tenant.id == user.tenantId).map fun tenant => (user, tenant)
    else none

/-- `authorize` of the provider `panel-ticket`, after the ticket named an account. -/
def authorizeAccount (db : Db) (userId : Nat) : Option SignedIn :=
  match db.activeUser userId with
  | none => none
  | some (user, tenant) =>
    if user.role ≠ .superAdmin ∧ (!tenant.isActive ∨ !tenant.subscribed) then none
    else some
      { id := user.id, email := user.email, displayName := user.displayName, role := user.role,
        tenantId := user.tenantId }

/-- A ticket that was asked for. -/
structure Issued where
  token : String
  userId : Nat
  issuedAt : Nat
deriving DecidableEq, Repr

/-- The row that is stored for it. -/
def Issued.row (hash : String → String) (ticket : Issued) : Ticket :=
  { tokenHash := hash ticket.token, userId := ticket.userId,
    expiresAt := ticket.issuedAt + ttlSec * 1000 }

/-- A sign-in with a ticket. -/
structure SignIn where
  token : String
  user : SignedIn
  /-- When the expiry was judged. -/
  checkedAt : Nat
  /-- When `authorize` returned. -/
  finishedAt : Nat
deriving DecidableEq, Repr

/-- A call of `issuePanelTicket` or `authorize`, by what it does next. -/
inductive Task
  /-- `issuePanelTicket` inserts the row. -/
  | insert (ticket : Issued)
  /-- It reads the clock for the clean-up. -/
  | cutoff
  /-- It deletes the rows that expired. -/
  | clean (cutoff : Nat)
  /-- `consumePanelTicket` deletes the row. -/
  | take (token : String)
  /-- It reads the clock and judges the row. -/
  | judge (token : String) (row : Option Ticket)
  /-- `authorize` looks the account up. -/
  | account (token : String) (userId checkedAt : Nat)
deriving DecidableEq

/-- The pages that call `peekPanelTicket`. -/
inductive Page
  /-- `/auth/ticket`. -/
  | ticket
  /-- `/auth/ticket/confirm`. -/
  | confirm
deriving DecidableEq

/-- A call of a page, by what it does next. -/
inductive Visit
  /-- `peekPanelTicket` selects the row. -/
  | select (page : Page) (token : String)
  /-- It reads the clock and judges the row; the page decides. -/
  | judge (page : Page) (token : String) (row : Option Ticket)
deriving DecidableEq

/-- What a page does once it knows the holder of the ticket and the account of the browser. -/
inductive Decision
  /-- `redirect("/login")`. -/
  | login
  /-- `redirect("/auth/ticket/confirm?t=…")`. -/
  | askFirst
  /-- `redirect("/auth/ticket?t=…")`. -/
  | askAgain
  /-- The confirmation is shown. -/
  | show (current target : Nat)
  /-- `signIn("panel-ticket", …)`. -/
  | signIn
deriving DecidableEq, Repr

/-- The end of a page. -/
def Page.decide (current target : Option Nat) : Page → Decision
  | .ticket =>
    match target, current with
    | none, _ => .login
    | some _, none => .signIn
    | some holder, some account => if account ≠ holder then .askFirst else .signIn
  | .confirm =>
    match target, current with
    | none, _ => .login
    | some _, none => .askAgain
    | some holder, some account => if account = holder then .askAgain else .show account holder

/-- The tables, the clock in milliseconds, the calls in progress and the history. -/
structure State where
  db : Db
  now : Nat
  tasks : List Task
  visits : List Visit
  issued : List Issued
  signIns : List SignIn
  /-- What each `consumePanelTicket` returned. -/
  consumed : List (String × Option Nat)

/-- A step of the server. -/
inductive Event
  /-- Time passes. -/
  | pass (milliseconds : Nat)
  /-- Accounts and companies change; the tickets of deleted accounts go with them. -/
  | edit (users : List Account) (tenants : List Tenant)
  /-- `issuePanelTicket` is called for an account and draws a token. -/
  | issue (userId : Nat) (token : String)
  /-- `authorize` is called with some text. -/
  | signIn (token : String)
  /-- A call goes on. -/
  | run (i : Nat)
  /-- A call breaks off, or its statement fails. -/
  | abort (i : Nat)
  /-- A page is opened. -/
  | visit (page : Page) (token : String)
  /-- A page goes on; `current` is the account of the browser. -/
  | look (i : Nat) (current : Option Nat)
  /-- A page breaks off. -/
  | leave (i : Nat)

/-- `authorize` up to the first statement. -/
def State.authorize (s : State) (token : String) : State :=
  if malformed token then { s with consumed := (token, none) :: s.consumed }
  else { s with tasks := .take token :: s.tasks }

/-- What a call does next, after it was taken off the calls in progress. -/
def State.runTask (hash : String → String) (s : State) : Task → State
  | .insert ticket =>
    match s.db.insertTicket (ticket.row hash) with
    | none => s
    | some db => { s with db, tasks := .cutoff :: s.tasks }
  | .cutoff => { s with tasks := .clean s.now :: s.tasks }
  | .clean cutoff => { s with db := s.db.cleanTickets cutoff }
  | .take token =>
    { s with
      db := s.db.deleteTicket (hash token)
      tasks := .judge token (s.db.ticket (hash token)) :: s.tasks }
  | .judge token row =>
    match holder s.now row with
    | none => { s with consumed := (token, none) :: s.consumed }
    | some userId =>
      { s with
        consumed := (token, some userId) :: s.consumed
        tasks := .account token userId s.now :: s.tasks }
  | .account token userId checkedAt =>
    match authorizeAccount s.db userId with
    | none => s
    | some user =>
      { s with signIns := { token, user, checkedAt, finishedAt := s.now } :: s.signIns }

/-- What a page does next, after it was taken off the pages in progress. -/
def State.runVisit (hash : String → String) (s : State) (current : Option Nat) : Visit → State
  | .select page token =>
    if malformed token then s
    else { s with visits := .judge page token (s.db.ticket (hash token)) :: s.visits }
  | .judge page token row =>
    match page.decide current (holder s.now row) with
    | .signIn => s.authorize token
    | _ => s

/-- One step; `none` where the event cannot happen. A drawn token is a new one. -/
def step (hash : String → String) (s : State) : Event → Option State
  | .pass milliseconds => some { s with now := s.now + milliseconds }
  | .edit users tenants =>
    if Seats.Accounts (users.map Account.toUser) tenants then
      some { s with
        db := { users, tenants, tickets := s.db.tickets.filter fun row =>
          users.any fun user => user.id == row.userId } }
    else none
  | .issue userId token =>
    if token ∈ s.issued.map Issued.token then none
    else
      let ticket : Issued := { token, userId, issuedAt := s.now }
      some { s with tasks := .insert ticket :: s.tasks, issued := ticket :: s.issued }
  | .signIn token => some (s.authorize token)
  | .run i =>
    s.tasks[i]?.map fun task => { s with tasks := s.tasks.eraseIdx i }.runTask hash task
  | .abort i => if i < s.tasks.length then some { s with tasks := s.tasks.eraseIdx i } else none
  | .visit page token => some { s with visits := .select page token :: s.visits }
  | .look i current =>
    s.visits[i]?.map fun visit =>
      { s with visits := s.visits.eraseIdx i }.runVisit hash current visit
  | .leave i => if i < s.visits.length then some { s with visits := s.visits.eraseIdx i } else none

/-- No tickets, at some time, with the accounts and companies. -/
def empty (now : Nat) (users : List Account) (tenants : List Tenant) : State where
  db := { users, tenants, tickets := [] }
  now := now
  tasks := []
  visits := []
  issued := []
  signIns := []
  consumed := []

/-- The panel. -/
def panel (hash : String → String) : Machine State Event where
  start s := ∃ now users tenants, Seats.Accounts (users.map Account.toUser) tenants ∧
    s = empty now users tenants
  step := step hash

end ChainRemote.Panel.Tickets
