import Mathlib.Data.List.Pairwise
import ChainRemote.Panel.SupportSessionRuns

/-!
# Starts of sessions at the same time

Calls of `startSession` interleaved between their statements, with each other and with the other
operations on `support_sessions`, each of which is one statement. The unique index keeps a second
open session of an operator and a customer out. A call whose insert met that index reads once more,
and what it returns then is what the others left.
-/

namespace ChainRemote.Panel.SessionRaces

open Lib SupportSessions

/-- Where a call of `startSession` is. -/
inductive Phase
  /-- It reads the operator's seat. -/
  | seat
  /-- It looks for an open session. -/
  | lookup (seat : Option (Option String × Option String))
  | insert (seat : Option (Option String × Option String))
  /-- Its insert met a conflict, and it looks again. -/
  | raced
  | returned (row : Option SupportSession)
  | thrown
deriving DecidableEq

/-- A call of `startSession`. -/
structure Call where
  input : StartInput
  phase : Phase

/-- The table and the calls so far. -/
structure State where
  table : Table
  calls : List Call

/-- What happens at one moment. -/
inductive Event
  /-- A request starts a session, as the account that it is logged in as. -/
  | call (operatorId customerId : Nat) (remoteId : Option String) (connDirect : Option Bool)
  /-- A call runs its next statement; `seat` is what a read of the seat finds. -/
  | statement (n : Nat) (now : Int) (seat : Option (Option String × Option String))
  /-- The next statement of a call throws. -/
  | fails (n : Nat)
  /-- Another operation. -/
  | op (now : Int) (op : Op)

/-- A call is over. -/
def Phase.over : Phase → Bool
  | .returned _ | .thrown => true
  | _ => false

/-- The next statement of a call; `none` where it is over. -/
def Call.next (call : Call) (table : Table) (now : Int)
    (seat : Option (Option String × Option String)) : Option (Phase × Table) :=
  match call.phase with
  | .seat => some (.lookup seat, table)
  | .lookup seat =>
    match table.rows.find? call.input.selects with
    | some existing => some (.returned (some existing), table)
    | none => some (.insert seat, table)
  | .insert seat =>
    if call.input.remoteId.all storable then
      -- `ON CONFLICT DO NOTHING`
      match table.insert (call.input.row now table.nextId seat) rfl with
      | .ok after => some (.returned (some (call.input.row now table.nextId seat)), after)
      | .error _ => some (.raced, table)
    else some (.thrown, table)
  | .raced => some (.returned (table.rows.find? call.input.selects), table)
  | .returned _ | .thrown => none

/-- A start is run by its statements. -/
def isStart : Op → Bool
  | .startSession _ _ => true
  | _ => false

section Machine

-- the company of an account
variable (tenantOf : Nat → Nat)

/-- The input of `startSession`, for an account. -/
def inputOf (operatorId customerId : Nat) (remoteId : Option String) (connDirect : Option Bool) :
    StartInput where
  tenantId := tenantOf operatorId
  operatorId
  customerId
  remoteId
  connDirect

/-- One moment. -/
def State.step (s : State) : Event → Option State
  | .call operatorId customerId remoteId connDirect =>
    some { s with
      calls := s.calls ++ [⟨inputOf tenantOf operatorId customerId remoteId connDirect, .seat⟩] }
  | .statement n now seat =>
    (s.calls[n]?).bind fun call =>
      (call.next s.table now seat).map fun after =>
        { table := after.2, calls := s.calls.set n { call with phase := after.1 } }
  | .fails n =>
    (s.calls[n]?).bind fun call =>
      if call.phase.over then none
      else some { s with calls := s.calls.set n { call with phase := .thrown } }
  | .op now op =>
    if isStart op then none
    else
      match op.run now s.table with
      | .ok table => some { s with table }
      | .error _ => some s

/-- Every open session is one of its operator's company. -/
def Placed (table : Table) : Prop :=
  ∀ row ∈ table.rows, row.endedAt = none → ∀ operatorId ∈ row.operatorId,
    row.tenantId = tenantOf operatorId

/-- The calls and the other operations, from any table of that kind. -/
def races : Machine State Event where
  start s := Placed tenantOf s.table ∧ s.calls = []
  step := State.step tenantOf

end Machine

/-- An operation ends or deletes a row. -/
def closes (now : Int) : Op → SupportSession → Bool
  | .endReport sessionId tenantId _ => within sessionId tenantId
  | .panelEndSession id tenantId _ => within id tenantId
  | .closeOrphanSessions tenantId seen => orphan now tenantId seen
  | .discardSessionSoft sessionId tenantId => within sessionId tenantId
  | .discardSession sessionId tenantId => within sessionId tenantId
  | _ => fun _ => false

/-- No operation ends or deletes the open session that a call has met. -/
def Spares (s : State) : Event → Prop
  | .op now op => ∀ call ∈ s.calls, call.phase = .raced → ∀ row ∈ s.table.rows,
      call.input.selects row = true → closes now op row = false
  | _ => True

/-- An operator and a customer have at most one open session. -/
def OneOpen (table : Table) : Prop :=
  ∀ a ∈ table.rows, ∀ b ∈ table.rows, a.endedAt = none → b.endedAt = none →
    ∀ operatorId customerId, a.operatorId = some operatorId → b.operatorId = some operatorId →
      a.customerId = some customerId → b.customerId = some customerId → a = b

/-- A call that returns, returns a session that is in the table, of its operator, customer and
company. -/
def ReturnsSession (_ : State) (e : Event) (t : State) : Prop :=
  ∀ n now seat call result, e = .statement n now seat → t.calls[n]? = some call →
    call.phase = .returned result → ∃ row ∈ t.table.rows, result = some row ∧
      row.tenantId = call.input.tenantId ∧ row.operatorId = some call.input.operatorId ∧
        row.customerId = some call.input.customerId

section Steps

variable {tenantOf : Nat → Nat} {s t : State} {e : Event} {table after : Table} {now : Int}

/-- What `startSession` looks for. -/
theorem selects_iff {input : StartInput} {row : SupportSession} :
    input.selects row = true ↔ row.tenantId = input.tenantId ∧
      row.operatorId = some input.operatorId ∧ row.customerId = some input.customerId ∧
        row.endedAt = none := by
  simp only [StartInput.selects, Bool.and_eq_true, beq_iff_eq, Option.isNone_iff_eq_none, and_assoc]

/-- A conflict of the insert is an open session. -/
theorem exists_of_insert_error {input : StartInput} {failure : Failure}
    {seat : Option (Option String × Option String)}
    (conflict : table.insert (input.row now table.nextId seat) rfl = .error failure) :
    ∃ row ∈ table.rows, input.selects row = true := by
  unfold Table.insert at conflict
  split at conflict
  · cases conflict
  · rename_i fits
    by_contra none
    apply fits
    refine ⟨rfl, ?_⟩
    intro other inside clash
    apply none
    refine ⟨other, inside, selects_iff.mpr ?_⟩
    obtain ⟨-, open', tenant, -, operator, -, customer⟩ := clash
    exact ⟨tenant.symm, operator.symm, customer.symm, open'⟩

/-- The keys of a row, and that it is open. -/
structure SameOpen (row later : SupportSession) : Prop where
  tenantId : later.tenantId = row.tenantId
  operatorId : later.operatorId = row.operatorId
  customerId : later.customerId = row.customerId
  open' : row.endedAt = none
  later : later.endedAt = none

/-- What an operation does to the open rows: it opens none, and leaves those that it does not
close. -/
structure Leaves (now : Int) (op : Op) (table after : Table) : Prop where
  old : ∀ later ∈ after.rows, later.endedAt = none → ∃ row ∈ table.rows, SameOpen row later
  kept : ∀ row ∈ table.rows, row.endedAt = none → closes now op row = false →
    ∃ later ∈ after.rows, SameOpen row later

theorem leaves_update {op : Op} {here : SupportSession → Bool}
    {set : SupportSession → SupportSession} (keeps : Keeps set)
    (rows : after.rows = updateWhere here set table.rows)
    (spares : ∀ row, here row = true → row.endedAt = none → closes now op row = false →
      (set row).endedAt = none) : Leaves now op table after where
  old := by
    intro later inside open'
    rw [rows] at inside
    rcases mem_updateWhere.mp inside with ⟨row, old, -, rfl⟩ | ⟨old, -⟩
    · exact ⟨row, old, keeps.tenantId row, keeps.operatorId row, keeps.customerId row,
        keeps.ended row open', open'⟩
    · exact ⟨later, old, rfl, rfl, rfl, open', open'⟩
  kept := by
    intro row inside open' spared
    rw [rows]
    by_cases hit : here row = true
    · exact ⟨set row, mem_updateWhere_of_hit inside hit, keeps.tenantId row, keeps.operatorId row,
        keeps.customerId row, open', spares row hit open' spared⟩
    · exact ⟨row, mem_updateWhere_of_miss inside (Bool.not_eq_true _ ▸ hit), rfl, rfl, rfl, open',
        open'⟩

theorem leaves_run {op : Op} (other : isStart op = false) (done : op.run now table = .ok after) :
    Leaves now op table after := by
  -- what an operation closes is what it selects
  have closed : ∀ {here : SupportSession → Bool} {set : SupportSession → SupportSession} (row),
      here row = true → row.endedAt = none → here row = false → (set row).endedAt = none := by
    intro here set row hit _ miss
    rw [hit] at miss
    cases miss
  cases op with
  | startSession input seat => cases other
  | endReport sessionId tenantId body =>
    exact leaves_update (body.fields.keeps now) (update_ok (body.fields.keeps now) done).1 closed
  | panelEndSession id tenantId form =>
    obtain ⟨issueType, resolution, description, rows, -⟩ := panelEndSession_ok done
    exact leaves_update (endFormSet_keeps now issueType resolution description) rows closed
  | closeOrphanSessions tenantId seen =>
    exact leaves_update (closeSet_keeps now seen) (update_ok (closeSet_keeps now seen) done).1 closed
  | discardSessionSoft sessionId tenantId =>
    exact leaves_update (discardSet_keeps now) (update_ok (discardSet_keeps now) done).1 closed
  | restoreSession sessionId tenantId =>
    exact leaves_update restoreSet_keeps (update_ok restoreSet_keeps done).1
      fun _ _ open' _ => open'
  | updateSessionRecord sessionId tenantId fields =>
    unfold Op.run updateSessionRecord at done
    rw [require_bind_eq_ok] at done
    exact leaves_update fields.keeps (update_ok fields.keeps done.2).1 fun _ _ open' _ => open'
  | createManualSession input =>
    obtain ⟨customer, startedAt, endedAt, -, rows, -⟩ := createManualSession_ok done
    constructor
    · intro later inside open'
      rw [rows] at inside
      rcases List.mem_cons.mp inside with rfl | old
      · cases open'
      · exact ⟨later, old, rfl, rfl, rfl, open', open'⟩
    · intro row inside open' _
      rw [rows]
      exact ⟨row, List.mem_cons_of_mem _ inside, rfl, rfl, rfl, open', open'⟩
  | discardSession sessionId tenantId =>
    cases done
    constructor
    · intro later inside open'
      exact ⟨later, List.mem_of_mem_filter inside, rfl, rfl, rfl, open', open'⟩
    · intro row inside open' spared
      refine ⟨row, List.mem_filter.mpr ⟨inside, ?_⟩, rfl, rfl, rfl, open', open'⟩
      rw [Bool.not_eq_true']
      exact spared

/-- What a statement of a call can do. -/
inductive Outcome (call : Call) (table : Table) : Phase → Table → Prop
  /-- The call goes on, or is refused. -/
  | aside {phase : Phase} (going : phase ≠ .raced) (silent : ∀ row, phase ≠ .returned row) :
      Outcome call table phase table
  /-- It returns an open session that it found. -/
  | found {row : SupportSession} (inside : row ∈ table.rows)
      (selected : call.input.selects row = true) : Outcome call table (.returned (some row)) table
  /-- Its insert met an open session. -/
  | conflict {row : SupportSession} (inside : row ∈ table.rows)
      (selected : call.input.selects row = true) : Outcome call table .raced table
  /-- It returns the session that it inserted. -/
  | inserted {row : SupportSession} {after : Table} (rows : after.rows = row :: table.rows)
      (selected : call.input.selects row = true) : Outcome call table (.returned (some row)) after
  /-- It returns what it found after the conflict. -/
  | reread (raced : call.phase = .raced) :
      Outcome call table (.returned (table.rows.find? call.input.selects)) table

theorem next_outcome {call : Call} {seat : Option (Option String × Option String)} {phase : Phase}
    (next : call.next table now seat = some (phase, after)) : Outcome call table phase after := by
  unfold Call.next at next
  split at next
  · cases next
    exact .aside (by intro same; cases same) (by intro row same; cases same)
  · split at next
    · rename_i existing found
      cases next
      exact .found (List.mem_of_find?_eq_some found) (List.find?_some found)
    · cases next
      exact .aside (by intro same; cases same) (by intro row same; cases same)
  · split at next
    · split at next
      · rename_i stored done
        cases next
        exact .inserted (insert_ok done).1 (selects_iff.mpr ⟨rfl, rfl, rfl, rfl⟩)
      · rename_i failure conflict
        cases next
        obtain ⟨row, inside, selected⟩ := exists_of_insert_error conflict
        exact .conflict inside selected
    · cases next
      exact .aside (by intro same; cases same) (by intro row same; cases same)
  · rename_i raced
    cases next
    exact .reread raced
  · cases next
  · cases next

/-- What one moment can do. -/
theorem step_cases (next : s.step tenantOf e = some t) :
    (∃ call, call.phase = .seat ∧ call.input.tenantId = tenantOf call.input.operatorId ∧
        t = { s with calls := s.calls ++ [call] }) ∨
      (∃ n now seat call phase, e = .statement n now seat ∧ s.calls[n]? = some call ∧
        Outcome call s.table phase t.table ∧ t.calls = s.calls.set n { call with phase }) ∨
      (∃ n call, e = .fails n ∧ s.calls[n]? = some call ∧
        t = { s with calls := s.calls.set n { call with phase := .thrown } }) ∨
      ∃ now op, e = .op now op ∧ t.calls = s.calls ∧
        (t.table = s.table ∨ Leaves now op s.table t.table) := by
  cases e with
  | call operatorId customerId remoteId connDirect =>
    cases next
    exact .inl ⟨_, rfl, rfl, rfl⟩
  | statement n now seat =>
    obtain ⟨call, here, next⟩ := Option.bind_eq_some_iff.mp next
    obtain ⟨⟨phase, after⟩, ran, rfl⟩ := Option.map_eq_some_iff.mp next
    exact .inr (.inl ⟨n, now, seat, call, phase, rfl, here, next_outcome ran, rfl⟩)
  | fails n =>
    obtain ⟨call, here, next⟩ := Option.bind_eq_some_iff.mp next
    split at next
    · cases next
    · cases next
      exact .inr (.inr (.inl ⟨n, call, rfl, here, rfl⟩))
  | op now op =>
    simp only [State.step] at next
    split at next
    · cases next
    · rename_i other
      split at next
      · rename_i table done
        cases next
        exact .inr (.inr (.inr ⟨now, op, rfl, rfl,
          .inr (leaves_run (Bool.not_eq_true _ ▸ other) done)⟩))
      · cases next
        exact .inr (.inr (.inr ⟨now, op, rfl, rfl, .inl rfl⟩))

/-- A statement of a call opens a session only of the caller's company. -/
theorem Outcome.placed {call : Call} {phase : Phase} (ran : Outcome call table phase after)
    (own : call.input.tenantId = tenantOf call.input.operatorId)
    (placed : Placed tenantOf table) : Placed tenantOf after := by
  cases ran with
  | aside => exact placed
  | found => exact placed
  | conflict => exact placed
  | reread => exact placed
  | @inserted row _ rows selected =>
    intro other inside open' operatorId named
    rw [rows] at inside
    rcases List.mem_cons.mp inside with rfl | old
    · obtain ⟨tenant, operator, -, -⟩ := selects_iff.mp selected
      rw [operator] at named
      obtain rfl := Option.some.inj named
      rw [tenant]
      exact own
    · exact placed other old open' operatorId named

/-- A statement of a call takes no row away. -/
theorem Outcome.keeps {call : Call} {phase : Phase} (ran : Outcome call table phase after)
    {row : SupportSession} (inside : row ∈ table.rows) : row ∈ after.rows := by
  cases ran with
  | aside => exact inside
  | found => exact inside
  | conflict => exact inside
  | reread => exact inside
  | inserted rows =>
    rw [rows]
    exact List.mem_cons_of_mem _ inside

/-- What every run keeps: open sessions and calls are of the company of their operator. -/
structure Housed (tenantOf : Nat → Nat) (s : State) : Prop where
  placed : Placed tenantOf s.table
  callers : ∀ call ∈ s.calls, call.input.tenantId = tenantOf call.input.operatorId

/-- Of the calls after a change of one, each has the input of a call before it. -/
theorem mem_set_calls {calls : List Call} {n : Nat} {call : Call} (here : calls[n]? = some call)
    {phase : Phase} {later : Call} (inside : later ∈ calls.set n { call with phase }) :
    later ∈ calls ∨ later = { call with phase } ∧ call ∈ calls := by
  rcases List.mem_or_eq_of_mem_set inside with old | rfl
  · exact .inl old
  · exact .inr ⟨rfl, List.mem_of_getElem? here⟩

theorem Housed.step (housed : Housed tenantOf s) (next : s.step tenantOf e = some t) :
    Housed tenantOf t := by
  -- a call after a change of one has a caller of its company
  have callers : ∀ {n : Nat} {call : Call} {phase : Phase}, s.calls[n]? = some call →
      ∀ later ∈ s.calls.set n { call with phase },
        later.input.tenantId = tenantOf later.input.operatorId := by
    intro n call phase here later inside
    rcases mem_set_calls here inside with old | ⟨rfl, old⟩
    · exact housed.callers later old
    · exact housed.callers call old
  rcases step_cases next with ⟨call, -, own, rfl⟩ | ⟨n, now, seat, call, phase, -, here, ran, calls⟩ |
    ⟨n, call, -, here, rfl⟩ | ⟨now, op, -, calls, table⟩
  · refine ⟨housed.placed, ?_⟩
    intro later inside
    rcases List.mem_append.mp inside with old | new
    · exact housed.callers later old
    · rw [List.mem_singleton.mp new]
      exact own
  · refine ⟨?_, by rw [calls]; exact callers here⟩
    exact ran.placed (housed.callers call (List.mem_of_getElem? here)) housed.placed
  · exact ⟨housed.placed, callers here⟩
  · refine ⟨?_, by rw [calls]; exact housed.callers⟩
    rcases table with same | leaves
    · rw [same]
      exact housed.placed
    · intro later inside open' operatorId named
      obtain ⟨row, old, keys⟩ := leaves.old later inside open'
      rw [keys.tenantId]
      apply housed.placed row old keys.open' operatorId
      rw [← keys.operatorId]
      exact named

/-- The index and the companies leave an operator and a customer one open session. -/
theorem Housed.oneOpen (housed : Housed tenantOf s) : OneOpen s.table := by
  intro a left b right aOpen bOpen operatorId customerId aOperator bOperator aCustomer bCustomer
  by_contra apart
  have tenants : a.tenantId = b.tenantId := by
    rw [housed.placed a left aOpen operatorId aOperator,
      housed.placed b right bOpen operatorId bOperator]
  have clash : a.Clash b := by
    refine ⟨aOpen, bOpen, tenants, ?_, aOperator.trans bOperator.symm, ?_,
      aCustomer.trans bCustomer.symm⟩
    · rw [aOperator]
      rfl
    · rw [aCustomer]
      rfl
  have symmetric : Std.Symm fun a b : SupportSession => ¬ a.Clash b := by
    constructor
    rintro x y free ⟨yOpen, xOpen, tenant, known, operator, given, customer⟩
    exact free ⟨xOpen, yOpen, tenant.symm, operator ▸ known, operator.symm, customer ▸ given,
      customer.symm⟩
  exact s.table.valid.single.forall left right apart clash

/-- A call that met a conflict still has an open session to find. -/
def Held (s : State) : Prop :=
  ∀ call ∈ s.calls, call.phase = .raced → ∃ row ∈ s.table.rows, call.input.selects row = true

theorem Held.step (held : Held s) (spares : Spares s e) (next : s.step tenantOf e = some t) :
    Held t := by
  rcases step_cases next with ⟨call, fresh, -, rfl⟩ |
    ⟨n, now, seat, call, phase, -, here, ran, calls⟩ | ⟨n, call, -, here, rfl⟩ |
    ⟨now, op, rfl, calls, table⟩
  · intro later inside raced
    rcases List.mem_append.mp inside with old | new
    · exact held later old raced
    · rw [List.mem_singleton.mp new, fresh] at raced
      cases raced
  · intro later inside raced
    rw [calls] at inside
    rcases mem_set_calls here inside with old | ⟨rfl, old⟩
    · obtain ⟨row, member, selected⟩ := held later old raced
      exact ⟨row, ran.keeps member, selected⟩
    · -- the call itself has just met an open session
      dsimp only at raced
      subst raced
      generalize t.table = after at ran
      cases ran with
      | aside going => exact absurd rfl going
      | conflict member selected => exact ⟨_, member, selected⟩
  · intro later inside raced
    rcases mem_set_calls here inside with old | ⟨rfl, -⟩
    · exact held later old raced
    · cases raced
  · intro later inside raced
    rw [calls] at inside
    obtain ⟨row, member, selected⟩ := held later inside raced
    rcases table with same | leaves
    · rw [same]
      exact ⟨row, member, selected⟩
    · obtain ⟨tenant, operator, customer, open'⟩ := selects_iff.mp selected
      have spared := spares later inside raced row member selected
      obtain ⟨after, there, keys⟩ := leaves.kept row member open' spared
      refine ⟨after, there, selects_iff.mpr ⟨?_, ?_, ?_, keys.later⟩⟩
      · rw [keys.tenantId]
        exact tenant
      · rw [keys.operatorId]
        exact operator
      · rw [keys.customerId]
        exact customer

/-- A statement returns a session of the caller where the call it belongs to is held. -/
theorem Held.returns (held : Held s) (next : s.step tenantOf e = some t) :
    ReturnsSession s e t := by
  rintro n now seat later result rfl here' answered
  obtain ⟨call, here, next⟩ := Option.bind_eq_some_iff.mp next
  obtain ⟨⟨phase, after⟩, ran, rfl⟩ := Option.map_eq_some_iff.mp next
  have place : n < s.calls.length := by
    by_contra far
    rw [List.getElem?_eq_none (Nat.not_lt.mp far)] at here
    cases here
  dsimp only at here'
  rw [List.getElem?_set_self place] at here'
  obtain rfl := Option.some.inj here'
  have own : ∀ row, call.input.selects row = true →
      row.tenantId = call.input.tenantId ∧ row.operatorId = some call.input.operatorId ∧
        row.customerId = some call.input.customerId := by
    intro row selected
    obtain ⟨tenant, operator, customer, -⟩ := selects_iff.mp selected
    exact ⟨tenant, operator, customer⟩
  dsimp only at answered ⊢
  have outcome := next_outcome ran
  subst answered
  cases outcome with
  | aside _ silent => exact absurd rfl (silent result)
  | found inside selected => exact ⟨_, inside, rfl, own _ selected⟩
  | inserted rows selected =>
    rw [rows]
    exact ⟨_, List.mem_cons_self, rfl, own _ selected⟩
  | reread raced =>
    obtain ⟨row, member, selected⟩ := held call (List.mem_of_getElem? here) raced
    cases found : s.table.rows.find? call.input.selects with
    | none => exact absurd selected (List.find?_eq_none.mp found row member)
    | some existing =>
      exact ⟨existing, List.mem_of_find?_eq_some found, rfl, own _ (List.find?_some found)⟩

end Steps

/-- In every run, an operator and a customer have at most one open session. In every run in which
nothing ends or deletes the open session that a call met between its insert and its second read,
every call that returns, returns a session of the table, of its operator, customer and company. -/
theorem starts_return_sessions (tenantOf : Nat → Nat) :
    (∀ s, (races tenantOf).Reaches Machine.free s → OneOpen s.table) ∧
      (races tenantOf).Always Spares ReturnsSession := by
  constructor
  · intro s reached
    have housed : Housed tenantOf s := by
      apply reached.invariant (Housed tenantOf)
      · rintro start ⟨placed, none⟩
        refine ⟨placed, ?_⟩
        rw [none]
        exact List.forall_mem_nil _
      · exact fun _ _ _ housed _ next => housed.step next
    exact housed.oneOpen
  · refine Machine.Always.of_invariant Held ?_ ?_ ?_
    · rintro start ⟨-, none⟩ call inside
      rw [none] at inside
      cases inside
    · exact fun _ _ _ held spares next => held.step spares next
    · exact fun _ _ _ held _ next => held.returns next

theorem valid_nil : Valid [] 0 := ⟨.nil, List.forall_mem_nil _, .nil⟩

/-- An empty table. -/
def noSessions : State := ⟨⟨[], 0, valid_nil⟩, []⟩

theorem start_noSessions : (races fun _ => 1).start noSessions :=
  ⟨List.forall_mem_nil _, rfl⟩

/-- Two starts of one operator for one customer, up to the conflict of the second. -/
def twoStarts : List Event :=
  [.call 7 5 none none, .call 7 5 none none, .statement 0 100 none, .statement 1 100 none,
    .statement 0 101 none, .statement 1 101 none, .statement 0 102 none, .statement 1 102 none]

instance (s : State) (e : Event) : Decidable (Spares s e) := by
  unfold Spares
  split
  · infer_instance
  · exact isTrue trivial

/-- The state then. -/
def collided : State := (races fun _ => 1).play Spares noSessions twoStarts

/-- The second start finds the session of the first. -/
theorem starts_return_sessions_collided :
    ∃ t, (races fun _ => 1).step collided (.statement 1 103 none) = some t ∧
      ReturnsSession collided (.statement 1 103 none) t := by
  have reached : (races fun _ => 1).Reaches Spares collided :=
    ⟨noSessions, start_noSessions, Machine.runs_play _ _ _ _⟩
  have runs : ((races fun _ => 1).step collided (.statement 1 103 none)).isSome = true := by
    decide +kernel
  obtain ⟨t, next⟩ := Option.isSome_iff_exists.mp runs
  exact ⟨t, next, (starts_return_sessions fun _ => 1).2 _ _ _ reached trivial next⟩

/-- The session of the first start is deleted before the second reads again. -/
def orphaned : State :=
  (races fun _ => 1).play Machine.free noSessions
    (twoStarts ++ [.op 103 (.discardSession 0 1), .statement 1 104 none])

/-- A start returns `undefined`. -/
theorem start_returns_undefined :
    (races fun _ => 1).Reaches Machine.free orphaned ∧
      orphaned.calls.map Call.phase =
        [.returned (some { id := 0, tenantId := 1, customerId := some 5, operatorId := some 7
                           startedAt := 102, resolution := some .inProgress }),
          .returned none] :=
  ⟨⟨noSessions, start_noSessions, Machine.runs_play _ _ _ _⟩, by decide +kernel⟩

end ChainRemote.Panel.SessionRaces
