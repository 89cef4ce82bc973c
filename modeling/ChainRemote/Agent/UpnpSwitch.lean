import ChainRemote.Lib.Machine

/-!
# The switch of the opened port

`set_enabled` of `chainremote_upnp.rs` turns the opening of a port on and off. Turning it on spawns
a thread that finds the router, asks it for a mapping and stores the address, and that then spawns a
loop which renews the mapping before its lease ends. Turning it off clears the address; the threads
look at the switch only when a renew loop wakes up. The statements of the call and of the threads
interleave in any order, and discovery, mapping and renewal may fail at any time.

An open thread and the renew loop that it spawns with its last statement are one thread here. The
thread that stored the address and the answered mappings are history: no step reads them.
-/

namespace ChainRemote.Agent.UpnpSwitch

open Lib

/-- `LEASE_SECS`, in milliseconds. -/
def leaseMs : Nat := 3600 * 1000

/-- `RENEW_SECS`, in milliseconds. -/
def renewMs : Nat := leaseMs / 2

/-- Where a call of `set_enabled` stands. -/
inductive Caller
  | idle
  /-- The switch was turned on; `open_async` comes next. -/
  | opening
  /-- The switch was turned off; `OPENED` is reset next. -/
  | unlatching
  /-- `OPENED` was reset; `ENDPOINT` is cleared next. -/
  | clearing
deriving DecidableEq, Repr

/-- Where a thread stands: in the statements of `open_async`, then in the loop of `spawn_renew`. -/
inductive Phase
  | starting
  /-- In `discover`. -/
  | discovering
  /-- In `control_url`. -/
  | describing
  /-- In `get_external_ip`. -/
  | asking
  /-- In `local_ip_for`. -/
  | locating (ip : String)
  /-- In the first `add_mapping`. -/
  | mapping (address : String)
  | storing (address : String)
  | spawning (address : String)
  | sleeping (address : String)
  /-- In an `add_mapping` of the loop. -/
  | renewing (address : String)
  | ended
deriving DecidableEq, Repr

/-- A thread, with the time at which its last `add_mapping` was answered. -/
structure Thread where
  phase : Phase
  round : Nat := 0
deriving DecidableEq, Repr

/-- The statics of the module, the call of `set_enabled`, and the threads. -/
structure State where
  /-- `ENABLED`. -/
  enabled : Bool := false
  /-- `OPENED`. -/
  opened : Bool := false
  /-- `ENDPOINT`. -/
  endpoint : Option String := none
  caller : Caller := .idle
  threads : List Thread := []
  now : Nat := 0
  /-- The thread that stored the address. -/
  holder : Nat := 0
  /-- The addresses for which `add_mapping` succeeded, with the times. -/
  mapped : List (String × Nat) := []
deriving DecidableEq, Repr

/-- A statement of a thread, with what the router answered. -/
inductive Act
  /-- `OPENED.swap`. -/
  | latch
  /-- The end of a lookup; `port` is `cr_direct_port()`. -/
  | answer (text : Option String) (port : Nat)
  /-- The end of the first `add_mapping`. -/
  | mapped (ok : Bool)
  /-- The write of `ENDPOINT`. -/
  | store
  /-- `spawn_renew`. -/
  | spawn
  /-- The loop wakes up and looks at the switch. -/
  | wake
  /-- The end of an `add_mapping` of the loop. -/
  | renewed (ok : Bool)
deriving DecidableEq, Repr

/-- What happens next; a thread is its place in the list. -/
inductive Op
  | setEnabled (on : Bool)
  /-- The next statement of the call of `set_enabled`. -/
  | proceed
  | thread (place : Nat) (act : Act)
  /-- Only time passes. -/
  | pass
deriving DecidableEq, Repr

/-- An operation and its time. -/
structure Event where
  now : Nat
  op : Op
deriving DecidableEq, Repr

/-- The state with a thread in another phase. -/
def State.put (s : State) (place : Nat) (thread : Thread) : State :=
  { s with threads := s.threads.set place thread }

/-- A thread of `open_async` that gives up. -/
def State.giveUp (s : State) (place : Nat) (thread : Thread) : State :=
  { s.put place { thread with phase := .ended } with opened := false }

/-- The phase after a lookup that found something. -/
def Phase.next (port : Nat) (text : String) : Phase → Option Phase
  | .discovering => some .describing
  | .describing => some .asking
  | .asking => some (.locating text)
  | .locating ip => some (.mapping (ip ++ ":" ++ toString port))
  | _ => none

/-- What a lookup found: `get_external_ip` takes no empty address and not `0.0.0.0`. -/
def Phase.found (phase : Phase) (text : Option String) : Option String :=
  if phase = .asking then text.filter fun ip => ip ≠ "" ∧ ip ≠ "0.0.0.0" else text

/-- The phases of the four lookups. -/
def Phase.looks : Phase → Bool
  | .discovering | .describing | .asking | .locating _ => true
  | _ => false

/-- A thread after the end of a lookup. -/
def State.answered (s : State) (place : Nat) (thread : Thread) (text : Option String) (port : Nat) :
    Option State :=
  if thread.phase.looks then
    match thread.phase.found text with
    | none => some (s.giveUp place thread)
    | some text => (thread.phase.next port text).map fun phase => s.put place { thread with phase }
  else none

/-- The state after a statement of a thread, if it is the thread's next. -/
def State.acted (s : State) (place : Nat) (thread : Thread) (act : Act) : Option State :=
  match thread.phase, act with
  | .starting, .latch =>
    if s.opened then some (s.put place { thread with phase := .ended })
    else some { s.put place { thread with phase := .discovering } with opened := true }
  | .mapping address, .mapped ok =>
    if ok then
      some { s.put place { phase := .storing address, round := s.now } with
        mapped := (address, s.now) :: s.mapped }
    else some (s.giveUp place thread)
  | .storing address, .store =>
    some { s.put place { thread with phase := .spawning address } with
      endpoint := some address
      holder := place }
  | .spawning address, .spawn => some (s.put place { thread with phase := .sleeping address })
  | .sleeping address, .wake =>
    if thread.round + renewMs ≤ s.now then
      some (s.put place
        { thread with phase := if s.enabled then .renewing address else .ended })
    else none
  | .renewing address, .renewed ok =>
    some { s.put place { phase := .sleeping address, round := s.now } with
      mapped := if ok then (address, s.now) :: s.mapped else s.mapped }
  | _, .answer text port => s.answered place thread text port
  | _, _ => none

/-- The next statement of the call of `set_enabled`. -/
def State.proceeded (s : State) : Option State :=
  match s.caller with
  | .idle => none
  | .opening => some { s with caller := .idle, threads := s.threads ++ [{ phase := .starting }] }
  | .unlatching => some { s with caller := .clearing, opened := false }
  | .clearing => some { s with caller := .idle, endpoint := none }

/-- The state after an operation at the present time. -/
def State.after (s : State) : Op → Option State
  | .setEnabled on =>
    if s.caller = .idle then
      if s.enabled = on then some s
      else some { s with enabled := on, caller := if on then .opening else .unlatching }
    else none
  | .proceed => s.proceeded
  | .thread place act => (s.threads[place]?).bind fun thread => s.acted place thread act
  | .pass => some s

/-- The switch and its threads, from the start of the agent. -/
def upnp : Machine State Event where
  start s := s = { now := s.now }
  step s event := if s.now ≤ event.now then { s with now := event.now }.after event.op else none

/-- The address of a renew loop that runs or is about to. -/
def Phase.loopOf : Phase → Option String
  | .spawning address | .sleeping address | .renewing address => some address
  | _ => none

/-- A renew loop runs. -/
def Phase.renews : Phase → Bool
  | .sleeping _ | .renewing _ => true
  | _ => false

/-- A step of `open_async` or of a renewal is under way. -/
def Phase.pending : Phase → Bool
  | .sleeping _ | .ended => false
  | _ => true

/-- The call is turning the switch off, and has not cleared the address yet. -/
def Caller.closing : Caller → Bool
  | .unlatching | .clearing => true
  | _ => false

/-- With the switch off and nothing pending there is no address; the address was mapped within the
lease; with the switch on there is at most one renew loop. -/
structure Follows (s : State) : Prop where
  closed : s.enabled = false → s.caller = .idle → (∀ th ∈ s.threads, th.phase.pending = false) →
    s.endpoint = none
  leased : ∀ address, s.endpoint = some address →
    ∃ time, (address, time) ∈ s.mapped ∧ time ≤ s.now ∧ s.now ≤ time + leaseMs
  single : s.enabled = true → ∀ (i j : Nat) (a b : Thread), s.threads[i]? = some a →
    s.threads[j]? = some b → a.phase.renews = true → b.phase.renews = true → i = j

/-- A thread stores its address while the switch is on, or is just being turned off, while no renew
loop is there, and within the lease of its mapping; the renewals of the stored address succeed. -/
def Allowed (s : State) (now : Nat) : Op → Prop
  | .thread place .store =>
    (s.enabled = true ∨ s.caller.closing = true) ∧ (∀ th ∈ s.threads, th.phase.loopOf = none) ∧
      ∀ th ∈ s.threads[place]?, now ≤ th.round + leaseMs
  | .thread place (.renewed ok) => s.endpoint ≠ none → place = s.holder → ok = true
  | _ => True

/-- An allowed step; while an address is stored, a round of the loop that renews it takes no longer
than the lease. -/
def Orderly (s : State) (event : Event) : Prop :=
  (s.endpoint ≠ none → ∀ th ∈ s.threads[s.holder]?, event.now ≤ th.round + leaseMs) ∧
    Allowed s event.now event.op

instance (s : State) (now : Nat) : (op : Op) → Decidable (Allowed s now op)
  | .thread _ .store => inferInstanceAs (Decidable (_ ∧ _ ∧ _))
  | .thread _ (.renewed _) => inferInstanceAs (Decidable (_ → _ → _))
  | .thread _ .latch | .thread _ (.answer ..) | .thread _ (.mapped _) | .thread _ .spawn
  | .thread _ .wake | .setEnabled _ | .proceed | .pass => isTrue trivial

instance (s : State) (event : Event) : Decidable (Orderly s event) :=
  inferInstanceAs (Decidable (_ ∧ _))

/-- The mapping that a thread with an address got last is on record, and is not older than the
lease. -/
structure Leased (s : State) (address : String) (th : Thread) : Prop where
  recorded : (address, th.round) ∈ s.mapped
  past : th.round ≤ s.now
  fresh : s.now ≤ th.round + leaseMs
  /-- The loop ends only when it found the switch off. -/
  alive : th.phase.loopOf = some address ∨ th.phase = .ended ∧ s.enabled = false

/-- What every orderly step keeps. -/
structure Inv (s : State) : Prop where
  alone : ∀ (i j : Nat) (a b : Thread), s.threads[i]? = some a → s.threads[j]? = some b →
    a.phase.loopOf ≠ none → b.phase.loopOf ≠ none → i = j
  held : ∀ address, s.endpoint = some address →
    ∃ th, s.threads[s.holder]? = some th ∧ Leased s address th
  ready : ∀ (i : Nat) (th : Thread) (address : String), s.threads[i]? = some th →
    th.phase = .storing address → (address, th.round) ∈ s.mapped ∧ th.round ≤ s.now
  off : s.endpoint ≠ none → s.enabled = false → s.caller.closing = true
  turned : s.caller.closing = true → s.enabled = false

variable {s t : State}

theorem loopOf_of_renews {phase : Phase} (renews : phase.renews = true) : phase.loopOf ≠ none := by
  cases phase <;> simp_all [Phase.renews, Phase.loopOf]

/-- No address is stored while the switch is off and nobody is about to close it. -/
theorem Inv.empty (inv : Inv s) (off : s.enabled = false) (idle : s.caller.closing = false) :
    s.endpoint = none := by
  cases stored : s.endpoint with
  | none => rfl
  | some address =>
    have closing := inv.off (by simp [stored]) off
    rw [idle] at closing
    cases closing

/-- The invariant gives the three properties. -/
theorem Inv.follows (inv : Inv s) : Follows s where
  closed off idle _ := inv.empty off (by rw [idle]; rfl)
  leased address stored := by
    obtain ⟨th, _, leased⟩ := inv.held address stored
    exact ⟨th.round, leased.recorded, leased.past, leased.fresh⟩
  single _ i j a b left right first second :=
    inv.alone i j a b left right (loopOf_of_renews first) (loopOf_of_renews second)

/-- Time passes within the lease. -/
theorem Inv.pass (inv : Inv s) {now : Nat} (later : s.now ≤ now)
    (timely : s.endpoint ≠ none → ∀ th, s.threads[s.holder]? = some th → now ≤ th.round + leaseMs) :
    Inv { s with now := now } where
  alone := inv.alone
  held address stored := by
    obtain ⟨th, found, leased⟩ := inv.held address stored
    have inTime := timely (by simp [show s.endpoint = some address from stored]) th found
    exact ⟨th, found, leased.recorded, Nat.le_trans leased.past later, inTime, leased.alive⟩
  ready i th address found storing := by
    have old := inv.ready i th address found storing
    exact ⟨old.1, Nat.le_trans old.2 later⟩
  off := inv.off
  turned := inv.turned

/-- A thread moves on without becoming a loop; where it stored the address, its lease stands. -/
theorem Inv.put (inv : Inv s) {place : Nat} {old th : Thread} {mapped : List (String × Nat)}
    (found : s.threads[place]? = some old) (more : ∀ m ∈ s.mapped, m ∈ mapped)
    (loops : th.phase.loopOf ≠ none → old.phase.loopOf ≠ none)
    (ready : ∀ address, th.phase = .storing address →
      (address, th.round) ∈ mapped ∧ th.round ≤ s.now)
    (holds : ∀ address, s.endpoint = some address → place = s.holder → Leased s address old →
      Leased { s with mapped := mapped } address th) :
    Inv { s.put place th with mapped := mapped } := by
  have inside : place < s.threads.length := (List.getElem?_eq_some_iff.mp found).1
  have look : ∀ {i : Nat} {a : Thread}, (s.threads.set place th)[i]? = some a →
      i = place ∧ a = th ∨ i ≠ place ∧ s.threads[i]? = some a := by
    intro i a seen
    rw [List.getElem?_set] at seen
    by_cases here : place = i
    · rw [if_pos here, if_pos inside] at seen
      exact .inl ⟨here.symm, (Option.some.inj seen).symm⟩
    · rw [if_neg here] at seen
      exact .inr ⟨fun same => here same.symm, seen⟩
  have loopAt : ∀ {i : Nat} {a : Thread}, (s.threads.set place th)[i]? = some a →
      a.phase.loopOf ≠ none → ∃ b, s.threads[i]? = some b ∧ b.phase.loopOf ≠ none := by
    intro i a seen loop
    obtain ⟨rfl, rfl⟩ | ⟨_, kept⟩ := look seen
    · exact ⟨old, found, loops loop⟩
    · exact ⟨a, kept, loop⟩
  refine ⟨?_, ?_, ?_, inv.off, inv.turned⟩
  · intro i j a b left right first second
    obtain ⟨a', left', first'⟩ := loopAt left first
    obtain ⟨b', right', second'⟩ := loopAt right second
    exact inv.alone i j a' b' left' right' first' second'
  · intro address stored
    obtain ⟨holder, at', leased⟩ := inv.held address stored
    by_cases here : place = s.holder
    · refine ⟨th, by simp [State.put, ← here, inside], ?_⟩
      obtain rfl : holder = old := by
        rw [← here, found] at at'
        exact (Option.some.inj at').symm
      have new := holds address stored here leased
      exact ⟨new.recorded, new.past, new.fresh, new.alive⟩
    · refine ⟨holder, ?_, more _ leased.recorded, leased.past, leased.fresh, leased.alive⟩
      simp only [State.put, List.getElem?_set, if_neg here]
      exact at'
  · intro i a address seen storing
    obtain ⟨_, rfl⟩ | ⟨_, kept⟩ := look seen
    · exact ready address storing
    · have before := inv.ready i a address kept storing
      exact ⟨more _ before.1, before.2⟩

/-- The latch is no part of the invariant. -/
theorem Inv.latch (inv : Inv s) (opened : Bool) : Inv { s with opened := opened } where
  alone := inv.alone
  held address stored := by
    obtain ⟨th, found, leased⟩ := inv.held address stored
    exact ⟨th, found, leased.recorded, leased.past, leased.fresh, leased.alive⟩
  ready := inv.ready
  off := inv.off
  turned := inv.turned

/-- A thread moves on with its round, as a loop only if it was one. -/
theorem Inv.move (inv : Inv s) {place : Nat} {old : Thread} {phase : Phase} (opened : Bool)
    (found : s.threads[place]? = some old) (running : old.phase ≠ .ended)
    (same : phase.loopOf = old.phase.loopOf ∨ phase = .ended ∧ s.enabled = false)
    (notStoring : ∀ address, phase ≠ .storing address) :
    Inv { s.put place { old with phase := phase } with opened := opened } := by
  have moved : Inv { s.put place { old with phase := phase } with mapped := s.mapped } := by
    apply inv.put found (fun _ inside => inside)
    · intro loops
      obtain kept | ⟨ended, _⟩ := same
      · rw [← kept]
        exact loops
      · simp [ended, Phase.loopOf] at loops
    · intro address storing
      exact absurd storing (notStoring address)
    · intro address _ _ leased
      refine ⟨leased.recorded, leased.past, leased.fresh, ?_⟩
      obtain alive | ⟨ended, _⟩ := leased.alive
      · obtain kept | ended := same
        · exact .inl (kept.trans alive)
        · exact .inr ended
      · exact absurd ended running
  exact moved.latch opened

/-- A lookup ends. -/
theorem Inv.answered (inv : Inv s) {place port : Nat} {old : Thread} {text : Option String}
    (found : s.threads[place]? = some old) (next : s.answered place old text port = some t) :
    Inv t := by
  unfold State.answered at next
  by_cases looks : old.phase.looks = true
  · rw [if_pos looks] at next
    have running : old.phase ≠ .ended := by
      intro ended
      rw [ended] at looks
      cases looks
    have noLoop : old.phase.loopOf = none := by
      cases phase : old.phase <;> simp_all [Phase.looks, Phase.loopOf]
    cases result : old.phase.found text with
    | none =>
      rw [result] at next
      obtain rfl := Option.some.inj next
      exact inv.move false found running (.inl noLoop.symm) nofun
    | some text =>
      rw [result] at next
      obtain ⟨phase, later, rfl⟩ := Option.map_eq_some_iff.mp next
      have kind : phase.loopOf = none ∧ ∀ address, phase ≠ .storing address := by
        cases was : old.phase <;> simp only [was, Phase.next, Option.some.injEq, reduceCtorEq]
          at later <;> subst later <;> exact ⟨rfl, nofun⟩
      exact inv.move s.opened found running (.inl (kind.1.trans noLoop.symm)) kind.2
  · rw [if_neg looks] at next
    cases next

/-- The first mapping of a thread was answered. -/
theorem Inv.mapped (inv : Inv s) {place : Nat} {old : Thread} {address : String}
    (found : s.threads[place]? = some old) (mapping : old.phase = .mapping address) :
    Inv { s.put place { phase := .storing address, round := s.now } with
      mapped := (address, s.now) :: s.mapped } := by
  apply inv.put found (fun _ inside => List.mem_cons_of_mem _ inside)
  · intro loops
    cases loops rfl
  · rintro _ ⟨⟩
    exact ⟨List.mem_cons_self, Nat.le_refl _⟩
  · intro _ _ _ leased
    obtain alive | ⟨ended, _⟩ := leased.alive
    · rw [mapping] at alive
      cases alive
    · rw [mapping] at ended
      cases ended

/-- A thread stores its address, where no loop is there. -/
theorem Inv.store (inv : Inv s) {place : Nat} {old : Thread} {address : String}
    (found : s.threads[place]? = some old) (storing : old.phase = .storing address)
    (on : s.enabled = true ∨ s.caller.closing = true)
    (noLoop : ∀ th ∈ s.threads, th.phase.loopOf = none) (fresh : s.now ≤ old.round + leaseMs) :
    Inv { s.put place { old with phase := .spawning address } with
      endpoint := some address
      holder := place } := by
  have inside : place < s.threads.length := (List.getElem?_eq_some_iff.mp found).1
  have only : ∀ {i : Nat} {a : Thread},
      (s.threads.set place { old with phase := .spawning address })[i]? = some a →
        i ≠ place → s.threads[i]? = some a := by
    intro i a seen other
    rw [List.getElem?_set, if_neg (fun same => other same.symm)] at seen
    exact seen
  have loopHere : ∀ {i : Nat} {a : Thread},
      (s.threads.set place { old with phase := .spawning address })[i]? = some a →
        a.phase.loopOf ≠ none → i = place := by
    intro i a seen loops
    by_cases here : i = place
    · exact here
    · exact absurd (noLoop a (List.mem_of_getElem? (only seen here))) loops
  have ready := inv.ready place old address found storing
  refine ⟨?_, ?_, ?_, ?_, inv.turned⟩
  · intro i j a b left right first second
    rw [loopHere left first, loopHere right second]
  · rintro _ ⟨⟩
    refine ⟨{ old with phase := .spawning address }, by simp [State.put, inside], ?_⟩
    exact ⟨ready.1, ready.2, fresh, .inl rfl⟩
  · intro i a other seen isStoring
    by_cases here : i = place
    · have here' : a = { old with phase := .spawning address } := by
        subst here
        simpa [State.put, inside] using seen.symm
      rw [here'] at isStoring
      cases isStoring
    · exact inv.ready i a other (only seen here) isStoring
  · intro _ off
    obtain enabled | closing := on
    · exact absurd (enabled.symm.trans off) (by decide)
    · exact closing

/-- A renewal ends; that of the stored address succeeded. -/
theorem Inv.renewed (inv : Inv s) {place : Nat} {old : Thread} {address : String} {ok : Bool}
    (found : s.threads[place]? = some old) (renewing : old.phase = .renewing address)
    (succeeds : s.endpoint ≠ none → place = s.holder → ok = true) :
    Inv { s.put place { phase := .sleeping address, round := s.now } with
      mapped := if ok then (address, s.now) :: s.mapped else s.mapped } := by
  apply inv.put found
  · intro _ inside
    cases ok
    · exact inside
    · exact List.mem_cons_of_mem _ inside
  · intro _
    rw [renewing]
    exact nofun
  · exact nofun
  · intro stored isStored here leased
    have good : ok = true := succeeds (by simp [isStored]) here
    obtain alive | ⟨ended, _⟩ := leased.alive
    · rw [renewing] at alive
      obtain rfl : address = stored := Option.some.inj alive
      refine ⟨?_, Nat.le_refl _, Nat.le_add_right _ _, .inl rfl⟩
      rw [if_pos good]
      exact List.mem_cons_self
    · rw [renewing] at ended
      cases ended

/-- One statement of a thread keeps the invariant. -/
theorem Inv.acted (inv : Inv s) {place : Nat} {old : Thread} {act : Act}
    (found : s.threads[place]? = some old) (orderly : Orderly s ⟨s.now, .thread place act⟩)
    (next : s.acted place old act = some t) : Inv t := by
  unfold State.acted at next
  split at next
  · rename_i starting
    split at next
    · obtain rfl := Option.some.inj next
      exact inv.move s.opened found (by simp [starting]) (by simp [starting, Phase.loopOf])
        nofun
    · obtain rfl := Option.some.inj next
      exact inv.move true found (by simp [starting]) (by simp [starting, Phase.loopOf]) nofun
  · rename_i mapping
    split at next
    · obtain rfl := Option.some.inj next
      exact inv.mapped found mapping
    · obtain rfl := Option.some.inj next
      exact inv.move false found (by simp [mapping]) (by simp [mapping, Phase.loopOf]) nofun
  · rename_i storing
    obtain rfl := Option.some.inj next
    obtain ⟨_, on, noLoop, fresh⟩ := orderly
    exact inv.store found storing on noLoop (fresh old found)
  · rename_i spawning
    obtain rfl := Option.some.inj next
    exact inv.move s.opened found (by simp [spawning]) (by simp [spawning, Phase.loopOf])
      nofun
  · rename_i address sleeping
    split at next
    · obtain rfl := Option.some.inj next
      cases enabled : s.enabled
      · exact inv.move s.opened found (by simp [sleeping]) (.inr ⟨rfl, enabled⟩) nofun
      · exact inv.move s.opened found (by simp [sleeping])
          (by simp [sleeping, Phase.loopOf]) nofun
    · cases next
  · rename_i renewing
    obtain rfl := Option.some.inj next
    exact inv.renewed found renewing orderly.2
  · exact inv.answered found next
  · cases next

/-- One statement of the call keeps the invariant. -/
theorem Inv.proceeded (inv : Inv s) (next : s.proceeded = some t) : Inv t := by
  unfold State.proceeded at next
  split at next
  · cases next
  · rename_i opening
    obtain rfl := Option.some.inj next
    have grown : ∀ {i : Nat} {a : Thread},
        (s.threads ++ [{ phase := .starting }])[i]? = some a →
          s.threads[i]? = some a ∨ a.phase = .starting := by
      intro i a seen
      rw [List.getElem?_append] at seen
      split at seen
      · exact .inl seen
      · exact .inr (by rw [List.mem_singleton.mp (List.mem_of_getElem? seen)])
    have loop : ∀ {i : Nat} {a : Thread},
        (s.threads ++ [{ phase := .starting }])[i]? = some a → a.phase.loopOf ≠ none →
          s.threads[i]? = some a := by
      intro i a seen loops
      obtain kept | starting := grown seen
      · exact kept
      · simp [starting, Phase.loopOf] at loops
    refine ⟨?_, ?_, ?_, ?_, nofun⟩
    · intro i j a b left right first second
      exact inv.alone i j a b (loop left first) (loop right second) first second
    · intro address stored
      obtain ⟨th, found, leased⟩ := inv.held address stored
      refine ⟨th, ?_, leased.recorded, leased.past, leased.fresh, leased.alive⟩
      show (s.threads ++ [_])[s.holder]? = some th
      rw [List.getElem?_append_left (List.getElem?_eq_some_iff.mp found).1]
      exact found
    · intro i a address seen storing
      obtain kept | starting := grown seen
      · exact inv.ready i a address kept storing
      · rw [starting] at storing
        cases storing
    · intro stored off
      have closing := inv.off stored off
      rw [opening] at closing
      cases closing
  · rename_i unlatching
    obtain rfl := Option.some.inj next
    have off := inv.turned (by simp [unlatching, Caller.closing])
    have kept := inv.latch false
    refine ⟨kept.alone, ?_, kept.ready, fun _ _ => rfl, fun _ => off⟩
    intro address stored
    obtain ⟨th, found, leased⟩ := inv.held address stored
    exact ⟨th, found, leased.recorded, leased.past, leased.fresh, leased.alive⟩
  · obtain rfl := Option.some.inj next
    exact ⟨inv.alone, nofun, inv.ready, fun stored => absurd rfl stored, nofun⟩

/-- A call of `set_enabled` keeps the invariant. -/
theorem Inv.setEnabled (inv : Inv s) (on : Bool)
    (next : s.after (.setEnabled on) = some t) : Inv t := by
  simp only [State.after] at next
  split at next
  · rename_i idle
    split at next
    · obtain rfl := Option.some.inj next
      exact inv
    · rename_i changed
      obtain rfl := Option.some.inj next
      cases on with
      | false =>
        refine ⟨inv.alone, ?_, inv.ready, fun _ _ => rfl, fun _ => rfl⟩
        intro address stored
        obtain ⟨th, found, leased⟩ := inv.held address stored
        refine ⟨th, found, leased.recorded, leased.past, leased.fresh, ?_⟩
        exact leased.alive.imp_right fun ended => ⟨ended.1, rfl⟩
      | true =>
        have off : s.enabled = false := by simpa using changed
        have empty : s.endpoint = none := inv.empty off (by rw [idle]; rfl)
        refine ⟨inv.alone, ?_, inv.ready, nofun, nofun⟩
        intro address stored
        exact absurd (empty.symm.trans stored) nofun
  · cases next

/-- Every orderly step keeps the invariant. -/
theorem Inv.step (inv : Inv s) {event : Event} (orderly : Orderly s event)
    (next : upnp.step s event = some t) : Inv t := by
  simp only [upnp] at next
  split at next
  · rename_i later
    have passed := inv.pass later orderly.1
    cases op : event.op with
    | setEnabled on =>
      rw [op] at next
      exact passed.setEnabled on next
    | proceed =>
      rw [op] at next
      exact passed.proceeded next
    | thread place act =>
      rw [op] at next
      obtain ⟨old, found, acted⟩ := Option.bind_eq_some_iff.mp next
      refine passed.acted found ?_ acted
      obtain ⟨timely, rest⟩ := orderly
      rw [op] at rest
      exact ⟨timely, rest⟩
    | pass =>
      rw [op] at next
      obtain rfl := Option.some.inj next
      exact passed
  · cases next

/-- In every orderly run the address follows the switch, its mapping is not older than the lease,
and at most one loop renews it. -/
theorem door_follows (s : State) (reached : upnp.Reaches Orderly s) : Follows s := by
  have inv : Inv s := by
    apply reached.invariant Inv
    · intro start started
      have fresh : start = { now := start.now } := started
      rw [fresh]
      exact ⟨nofun, nofun, nofun, nofun, nofun⟩
    · intro before event after kept admitted next
      exact kept.step admitted next
  exact inv.follows

/-- The steps of an open thread up to its mapping, at one time. -/
def openSteps (now place : Nat) : List Event :=
  [⟨now, .setEnabled true⟩, ⟨now, .proceed⟩, ⟨now, .thread place .latch⟩,
   ⟨now, .thread place (.answer (some "") 21118)⟩, ⟨now, .thread place (.answer (some "") 21118)⟩,
   ⟨now, .thread place (.answer (some "1.2.3.4") 21118)⟩,
   ⟨now, .thread place (.answer (some "") 21118)⟩, ⟨now, .thread place (.mapped true)⟩]

/-- The last steps of an open thread. -/
def storeSteps (now place : Nat) : List Event :=
  [⟨now, .thread place .store⟩, ⟨now, .thread place .spawn⟩]

/-- The switch is turned off. -/
def offSteps (now : Nat) : List Event :=
  [⟨now, .setEnabled false⟩, ⟨now, .proceed⟩, ⟨now, .proceed⟩]

/-- The state after some steps. -/
def played (events : List Event) : State := upnp.play Machine.free {} events

/-- Some steps lead to a state that a run reaches. -/
theorem reaches_played (events : List Event) : upnp.Reaches Machine.free (played events) :=
  ⟨{}, rfl, upnp.runs_play Machine.free {} events⟩

/-- A port is opened and its mapping renewed once. -/
theorem renewed_follows :
    let s := upnp.play Orderly {} (openSteps 5 0 ++ storeSteps 6 0 ++
      [⟨1900000, .thread 0 .wake⟩, ⟨1900001, .thread 0 (.renewed true)⟩, ⟨5000000, .pass⟩])
    upnp.Reaches Orderly s ∧ s.endpoint = some "1.2.3.4:21118" ∧ s.now = 5000000 ∧ Follows s :=
  let reached := ⟨{}, rfl, upnp.runs_play Orderly {} _⟩
  ⟨reached, by decide +kernel, by decide +kernel, door_follows _ reached⟩

/-- The switch is turned off while a thread maps the port. -/
def offWhileOpening : List Event :=
  openSteps 5 0 ++ offSteps 6 ++ storeSteps 7 0 ++ [⟨1900000, .thread 0 .wake⟩]

/-- A renewal fails. -/
def renewalFails : List Event :=
  openSteps 5 0 ++ storeSteps 5 0 ++
    [⟨1900000, .thread 0 .wake⟩, ⟨1900001, .thread 0 (.renewed false)⟩, ⟨3700000, .pass⟩]

/-- The switch is turned off and on again. -/
def offAndOn : List Event :=
  openSteps 5 0 ++ storeSteps 5 0 ++ offSteps 6 ++ openSteps 7 1 ++ storeSteps 8 1

/-- The address stays after every thread has ended with the switch off, it stays beyond the lease,
and two loops run. -/
theorem switch_not_followed :
    (upnp.Reaches Machine.free (played offWhileOpening) ∧
      (∀ th ∈ (played offWhileOpening).threads, th.phase = .ended) ∧
      ¬ Follows (played offWhileOpening)) ∧
    (upnp.Reaches Machine.free (played renewalFails) ∧ ¬ Follows (played renewalFails)) ∧
    (upnp.Reaches Machine.free (played offAndOn) ∧ ¬ Follows (played offAndOn)) := by
  refine ⟨⟨reaches_played _, by decide +kernel, ?_⟩, ⟨reaches_played _, ?_⟩, ⟨reaches_played _, ?_⟩⟩
  · intro follows
    have cleared := follows.closed (by decide +kernel) (by decide +kernel) (by decide +kernel)
    revert cleared
    decide +kernel
  · intro follows
    have mapped : (played renewalFails).mapped = [("1.2.3.4:21118", 5)] := by decide +kernel
    have now : (played renewalFails).now = 3700000 := by decide +kernel
    obtain ⟨time, recorded, _, fresh⟩ := follows.leased "1.2.3.4:21118" (by decide +kernel)
    rw [mapped, List.mem_singleton, Prod.mk.injEq] at recorded
    rw [now, recorded.2] at fresh
    revert fresh
    decide
  · intro follows
    have same := follows.single (by decide +kernel) 0 1
      { phase := .sleeping "1.2.3.4:21118", round := 5 }
      { phase := .sleeping "1.2.3.4:21118", round := 7 } (by decide +kernel) (by decide +kernel)
      rfl rfl
    cases same

end ChainRemote.Agent.UpnpSwitch
