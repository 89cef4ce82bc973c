import ChainRemote.Server.Subscriptions

/-!
# Subscriptions over whole runs

A handler that forgets one of the services its change decides over leaves a connection with what it
must not have, or without what it should. `Rule` says service by service what may be and what must
be; every handler keeps the rules of its own connection and touches no other one's subscriptions.
-/

namespace ChainRemote.Server.Subscriptions

open Lib

variable {α : Type}

/-- The connection is subscribed to the service of this name, new or not. -/
def Subscribed (services : List (Service α)) (name : ServiceName) (id : Int) : Prop :=
  ∃ v ∈ services, v.name = name ∧ v.isSubed id = true

/-- There is a service of this name. -/
def Offered (services : List (Service α)) (name : ServiceName) : Prop :=
  ∃ v ∈ services, v.name = name

/-- No subscriber is both new and not, and where there are no snapshots none is new. -/
structure Tidy (v : Service α) : Prop where
  exclusive : SnapshotService.Exclusive v.state
  settled : v.state.needSnapshot = false → v.state.newSubscribes = []

namespace Service

variable {v : Service α}

theorem isSubed_iff (v : Service α) (id : Int) :
    v.isSubed id = true ↔ id ∈ v.state.subscribes ∨ id ∈ v.state.newSubscribes := by
  unfold isSubed
  rw [Bool.or_eq_true, decide_eq_true_eq, decide_eq_true_eq]

theorem isSubed_new (name : ServiceName) (id : Int) : (new name : Service α).isSubed id = false :=
  rfl

theorem tidy_new (name : ServiceName) : Tidy (new name : Service α) :=
  ⟨fun _ inside => absurd inside List.not_mem_nil, fun _ => rfl⟩

@[simp] theorem onSubscribe_name (v : Service α) (id : Int) : (v.onSubscribe id).name = v.name :=
  rfl

@[simp] theorem onUnsubscribe_name (v : Service α) (id : Int) :
    (v.onUnsubscribe id).name = v.name := rfl

@[simp] theorem resubscribe_name (v : Service α) (id : Int) (sub : Bool) :
    (v.resubscribe id sub).name = v.name := by
  unfold resubscribe
  split
  · rfl
  · cases sub with
    | true => rfl
    | false => rfl

/-- `on_subscribe` subscribes the connection and leaves the others. -/
theorem isSubed_onSubscribe (v : Service α) (id other : Int) :
    (v.onSubscribe id).isSubed other = (decide (other = id) || v.isSubed other) := by
  rw [Bool.eq_iff_iff, Bool.or_eq_true, decide_eq_true_eq, isSubed_iff, isSubed_iff]
  unfold onSubscribe SnapshotService.State.onSubscribe
  dsimp only
  by_cases known : id ∈ v.state.subscribes
  · rw [if_pos known]
    constructor
    · exact fun old => .inr old
    · rintro (rfl | old)
      · exact .inl known
      · exact old
  · rw [if_neg known]
    cases need : v.state.needSnapshot with
    | true =>
      rw [if_pos rfl]
      dsimp only
      rw [List.mem_insert_iff]
      tauto
    | false =>
      rw [if_neg Bool.false_ne_true]
      dsimp only
      rw [List.mem_cons]
      tauto

/-- `on_unsubscribe` ends the subscription of the connection and leaves the others. -/
theorem isSubed_onUnsubscribe (tidy : Tidy v) (id other : Int) :
    (v.onUnsubscribe id).isSubed other = (decide (other ≠ id) && v.isSubed other) := by
  rw [Bool.eq_iff_iff, Bool.and_eq_true, decide_eq_true_eq, isSubed_iff, isSubed_iff]
  unfold onUnsubscribe SnapshotService.State.onUnsubscribe
  dsimp only
  by_cases known : id ∈ v.state.subscribes
  · have notNew := tidy.exclusive id known
    rw [if_pos known]
    simp only [List.mem_filter, bne_iff_ne]
    constructor
    · rintro (⟨old, differs⟩ | new)
      · exact ⟨differs, .inl old⟩
      · exact ⟨fun same => notNew (same ▸ new), .inr new⟩
    · rintro ⟨differs, old | new⟩
      · exact .inl ⟨old, differs⟩
      · exact .inr new
  · rw [if_neg known]
    simp only [List.mem_filter, bne_iff_ne]
    constructor
    · rintro (old | ⟨new, differs⟩)
      · exact ⟨fun same => known (same ▸ old), .inl old⟩
      · exact ⟨differs, .inr new⟩
    · rintro ⟨differs, old | new⟩
      · exact .inl old
      · exact .inr ⟨new, differs⟩

theorem tidy_onSubscribe (tidy : Tidy v) (id : Int) : Tidy (v.onSubscribe id) := by
  obtain ⟨exclusive, settled⟩ := tidy
  unfold onSubscribe SnapshotService.State.onSubscribe
  by_cases known : id ∈ v.state.subscribes
  · rw [if_pos known]
    exact ⟨exclusive, settled⟩
  · rw [if_neg known]
    cases need : v.state.needSnapshot with
    | true =>
      rw [if_pos rfl]
      refine ⟨fun other inside new => ?_, fun without => ?_⟩
      · rcases List.mem_insert_iff.mp new with rfl | old
        · exact known inside
        · exact exclusive other inside old
      · have absent : true = false := without
        cases absent
    | false =>
      have none := settled need
      rw [if_neg Bool.false_ne_true]
      refine ⟨fun other _ new => ?_, fun _ => none⟩
      have inside : other ∈ v.state.newSubscribes := new
      rw [none] at inside
      exact List.not_mem_nil inside

theorem tidy_onUnsubscribe (tidy : Tidy v) (id : Int) : Tidy (v.onUnsubscribe id) := by
  obtain ⟨exclusive, settled⟩ := tidy
  unfold onUnsubscribe SnapshotService.State.onUnsubscribe
  by_cases known : id ∈ v.state.subscribes
  · rw [if_pos known]
    exact ⟨fun other inside => exclusive other (List.mem_of_mem_filter inside), settled⟩
  · rw [if_neg known]
    refine ⟨fun other inside new => exclusive other inside (List.mem_of_mem_filter new),
      fun without => ?_⟩
    dsimp only
    rw [settled without, List.filter_nil]

/-- A service in `Server::subscribe` subscribes the connection as it is told. -/
theorem isSubed_resubscribe (tidy : Tidy v) (id other : Int) (sub : Bool) :
    (v.resubscribe id sub).isSubed other = if other = id then sub else v.isSubed other := by
  unfold resubscribe
  by_cases same : other = id
  · subst same
    rw [if_pos rfl]
    split
    · assumption
    · cases sub with
      | true =>
        rw [if_pos rfl, isSubed_onSubscribe, decide_eq_true rfl, Bool.true_or]
      | false =>
        rw [if_neg Bool.false_ne_true, isSubed_onUnsubscribe tidy]
        simp
  · rw [if_neg same]
    split
    · rfl
    · cases sub with
      | true =>
        rw [if_pos rfl, isSubed_onSubscribe, decide_eq_false same, Bool.false_or]
      | false =>
        rw [if_neg Bool.false_ne_true, isSubed_onUnsubscribe tidy, decide_eq_true same,
          Bool.true_and]

theorem tidy_resubscribe (tidy : Tidy v) (id : Int) (sub : Bool) : Tidy (v.resubscribe id sub) := by
  unfold resubscribe
  split
  · exact tidy
  · cases sub with
    | true => exact tidy_onSubscribe tidy id
    | false => exact tidy_onUnsubscribe tidy id

/-- What a service does by itself leaves its subscribers; those that are new may become others. -/
theorem isSubed_step {e : SnapshotService.Event α} (own : ofService e = true)
    {t : SnapshotService.State α} (next : SnapshotService.step v.state e = some t) (tidy : Tidy v) :
    (∀ id, (⟨v.name, t⟩ : Service α).isSubed id = v.isSubed id) ∧ Tidy ⟨v.name, t⟩ := by
  have same {u : SnapshotService.State α} (subscribes : u.subscribes = v.state.subscribes)
      (newSubscribes : u.newSubscribes = v.state.newSubscribes)
      (need : u.needSnapshot = v.state.needSnapshot) :
      (∀ id, (⟨v.name, u⟩ : Service α).isSubed id = v.isSubed id) ∧ Tidy ⟨v.name, u⟩ := by
    refine ⟨fun id => ?_, fun id inside new => ?_, fun without => ?_⟩
    · unfold isSubed
      rw [subscribes, newSubscribes]
    · dsimp only at inside new
      rw [subscribes] at inside
      rw [newSubscribes] at new
      exact tidy.exclusive id inside new
    · dsimp only at without ⊢
      rw [newSubscribes]
      exact tidy.settled (need.symm.trans without)
  obtain ⟨u, applied, rfl⟩ := Option.map_eq_some_iff.mp next
  cases e with
  | onSubscribe id => exact absurd own Bool.noConfusion
  | onUnsubscribe id => exact absurd own Bool.noConfusion
  | send message audience =>
    obtain rfl := Option.some.inj applied
    exact same rfl rfl rfl
  | start =>
    simp only [SnapshotService.State.apply] at applied
    split at applied
    · obtain rfl := Option.some.inj applied
      exact same rfl rfl rfl
    · obtain rfl := Option.some.inj applied
      exact same rfl rfl rfl
  | swapSend i message =>
    simp only [SnapshotService.State.apply] at applied
    split at applied
    · cases applied
    · split at applied
      · obtain rfl := Option.some.inj applied
        exact same rfl rfl rfl
      · cases applied
  | finish i ok =>
    simp only [SnapshotService.State.apply] at applied
    split at applied
    · cases applied
    · split at applied
      · obtain rfl := Option.some.inj applied
        exact same rfl rfl rfl
      · cases applied
  | drop i =>
    simp only [SnapshotService.State.apply] at applied
    split at applied
    · cases applied
    · split at applied
      · obtain rfl := Option.some.inj applied
        refine ⟨fun id => ?_, fun id _ new => ?_, fun _ => rfl⟩
        · rw [Bool.eq_iff_iff, isSubed_iff, isSubed_iff]
          dsimp only [SnapshotService.State.swapNewSubscribes]
          rw [List.mem_union_iff]
          simp only [List.not_mem_nil, or_false]
          exact or_comm
        · exact absurd new List.not_mem_nil
      · cases applied

end Service

/-! ## What a call on the server does to subscriptions -/

/-- A call sets some subscriptions, of services that there are, and leaves all others alone. -/
structure Changes (services after : List (Service α))
    (change : ServiceName → Int → Option Bool) : Prop where
  subscribed : ∀ name id, Subscribed after name id ↔
    (change name id).elim (Subscribed services name id) fun sub =>
      sub = true ∧ Offered services name
  offered : ∀ name, Offered after name ↔ Offered services name
  tidy : ∀ v ∈ after, Tidy v

section Server

variable {services : List (Service α)}

theorem changes_map (tidy : ∀ v ∈ services, Tidy v) (f : Service α → Service α)
    (change : ServiceName → Int → Option Bool)
    (each : ∀ v, Tidy v → Tidy (f v) ∧ (f v).name = v.name ∧
      ∀ id, (f v).isSubed id = (change v.name id).getD (v.isSubed id)) :
    Changes services (services.map f) change := by
  refine ⟨fun name id => ?_, fun name => ?_, fun v inside => ?_⟩
  · cases changed : change name id with
    | none =>
      constructor
      · rintro ⟨w, inside, named, subed⟩
        obtain ⟨v, there, rfl⟩ := List.mem_map.mp inside
        obtain ⟨-, same, subs⟩ := each v (tidy v there)
        rw [same] at named
        rw [subs, named, changed] at subed
        exact ⟨v, there, named, subed⟩
      · rintro ⟨v, there, named, subed⟩
        obtain ⟨-, same, subs⟩ := each v (tidy v there)
        refine ⟨f v, List.mem_map_of_mem there, same.trans named, ?_⟩
        rw [subs, named, changed]
        exact subed
    | some sub =>
      constructor
      · rintro ⟨w, inside, named, subed⟩
        obtain ⟨v, there, rfl⟩ := List.mem_map.mp inside
        obtain ⟨-, same, subs⟩ := each v (tidy v there)
        rw [same] at named
        rw [subs, named, changed] at subed
        exact ⟨subed, v, there, named⟩
      · rintro ⟨rfl, v, there, named⟩
        obtain ⟨-, same, subs⟩ := each v (tidy v there)
        refine ⟨f v, List.mem_map_of_mem there, same.trans named, ?_⟩
        rw [subs, named, changed]
        rfl
  · constructor
    · rintro ⟨w, inside, named⟩
      obtain ⟨v, there, rfl⟩ := List.mem_map.mp inside
      exact ⟨v, there, (each v (tidy v there)).2.1.symm.trans named⟩
    · rintro ⟨v, there, named⟩
      exact ⟨f v, List.mem_map_of_mem there, (each v (tidy v there)).2.1.trans named⟩
  · obtain ⟨w, there, rfl⟩ := List.mem_map.mp inside
    exact (each w (tidy w there)).1

theorem subscribe_changes (tidy : ∀ v ∈ services, Tidy v) (name : ServiceName) (id : Int)
    (sub : Bool) : Changes services (subscribe services name id sub) fun n j =>
      if n = name ∧ j = id then some sub else none := by
  refine changes_map tidy _ _ fun v neat => ?_
  by_cases named : v.name = name
  · rw [if_pos named]
    refine ⟨Service.tidy_resubscribe neat id sub, Service.resubscribe_name v id sub, fun j => ?_⟩
    rw [Service.isSubed_resubscribe neat]
    by_cases same : j = id
    · rw [if_pos same, if_pos ⟨named, same⟩, Option.getD_some]
    · rw [if_neg same, if_neg fun both => same both.2, Option.getD_none]
  · rw [if_neg named]
    refine ⟨neat, rfl, fun j => ?_⟩
    rw [if_neg fun both => named both.1, Option.getD_none]

theorem addConnection_changes (tidy : ∀ v ∈ services, Tidy v) (primary : Nat) (id : Int)
    (noperms : List ServiceName) :
    Changes services (addConnection primary services id noperms) fun n j =>
      if (n.isVideo = true → n = .video .monitor primary) ∧ n ∉ noperms ∧ j = id then some true
      else none := by
  refine changes_map tidy _ _ fun v neat => ?_
  by_cases other : v.name.isVideo = true ∧ v.name ≠ .video .monitor primary
  · rw [if_pos other]
    refine ⟨neat, rfl, fun j => ?_⟩
    rw [if_neg fun all => other.2 (all.1 other.1), Option.getD_none]
  · rw [if_neg other]
    by_cases allowed : v.name ∉ noperms
    · rw [if_pos allowed]
      refine ⟨Service.tidy_onSubscribe neat id, rfl, fun j => ?_⟩
      rw [Service.isSubed_onSubscribe]
      have primary : v.name.isVideo = true → v.name = .video .monitor primary := by
        intro video
        by_contra differs
        exact other ⟨video, differs⟩
      by_cases same : j = id
      · rw [if_pos ⟨primary, allowed, same⟩, decide_eq_true same, Bool.true_or, Option.getD_some]
      · rw [if_neg fun all => same all.2.2, decide_eq_false same, Bool.false_or, Option.getD_none]
    · rw [if_neg allowed]
      refine ⟨neat, rfl, fun j => ?_⟩
      rw [if_neg fun all => allowed all.2.1, Option.getD_none]

theorem captureDisplays_changes (tidy : ∀ v ∈ services, Tidy v) (id : Int)
    (displays : List ServiceName) (including excluding : Bool) :
    Changes services (captureDisplays services id displays including excluding) fun n j =>
      if n.isVideo = true ∧ j = id then
        if n ∈ displays then if including then some true else none
        else if excluding then some false else none
      else none := by
  refine changes_map tidy _ _ fun v neat => ?_
  have told (sub : Bool) (j : Int) : (v.resubscribe id sub).isSubed j =
      (if j = id then some sub else none).getD (v.isSubed j) := by
    rw [Service.isSubed_resubscribe neat]
    by_cases same : j = id
    · rw [if_pos same, if_pos same, Option.getD_some]
    · rw [if_neg same, if_neg same, Option.getD_none]
  cases video : v.name.isVideo with
  | false =>
    rw [if_neg Bool.false_ne_true]
    exact ⟨neat, rfl, fun j => by simp⟩
  | true =>
    rw [if_pos rfl]
    by_cases listed : v.name ∈ displays
    · simp only [if_pos listed]
      cases including with
      | true =>
        exact ⟨Service.tidy_resubscribe neat id true, Service.resubscribe_name v id true,
          fun j => by simpa using told true j⟩
      | false => exact ⟨neat, rfl, fun j => by simp⟩
    · simp only [if_neg listed]
      cases excluding with
      | true =>
        exact ⟨Service.tidy_resubscribe neat id false, Service.resubscribe_name v id false,
          fun j => by simpa using told false j⟩
      | false => exact ⟨neat, rfl, fun j => by simp⟩

theorem removeConnection_changes (tidy : ∀ v ∈ services, Tidy v) (id : Int) :
    Changes services (removeConnection services id) fun _ j =>
      if j = id then some false else none := by
  refine changes_map tidy _ _ fun v neat => ?_
  refine ⟨Service.tidy_onUnsubscribe neat id, rfl, fun j => ?_⟩
  rw [Service.isSubed_onUnsubscribe neat]
  by_cases same : j = id
  · simp [same]
  · simp [same]

theorem subscribed_addMissing (name other : ServiceName) (id : Int) :
    Subscribed (addMissing services name) other id ↔ Subscribed services other id := by
  unfold addMissing
  split
  · rfl
  · constructor
    · rintro ⟨v, inside, named, subed⟩
      rcases List.mem_append.mp inside with old | new
      · exact ⟨v, old, named, subed⟩
      · obtain rfl := List.mem_singleton.mp new
        exact absurd subed Bool.noConfusion
    · rintro ⟨v, there, named, subed⟩
      exact ⟨v, List.mem_append_left _ there, named, subed⟩

theorem offered_addMissing (name other : ServiceName) :
    Offered (addMissing services name) other ↔ other = name ∨ Offered services other := by
  unfold addMissing
  split
  · rename_i there
    obtain ⟨v, inside, named⟩ := List.any_eq_true.mp there
    constructor
    · exact fun offered => .inr offered
    · rintro (rfl | offered)
      · exact ⟨v, inside, beq_iff_eq.mp named⟩
      · exact offered
  · constructor
    · rintro ⟨v, inside, named⟩
      rcases List.mem_append.mp inside with old | new
      · exact .inr ⟨v, old, named⟩
      · obtain rfl := List.mem_singleton.mp new
        exact .inl named.symm
    · rintro (rfl | ⟨v, there, named⟩)
      · exact ⟨.new other, List.mem_append_right _ (List.mem_singleton.mpr rfl), rfl⟩
      · exact ⟨v, List.mem_append_left _ there, named⟩

theorem tidy_addMissing (tidy : ∀ v ∈ services, Tidy v) (name : ServiceName) :
    ∀ v ∈ addMissing services name, Tidy v := by
  unfold addMissing
  split
  · exact tidy
  · intro v inside
    rcases List.mem_append.mp inside with old | new
    · exact tidy v old
    · obtain rfl := List.mem_singleton.mp new
      exact Service.tidy_new name

end Server

/-! ## Rules -/

/-- `send_logon_response_and_keep_alive` took the keyboard from the connection. -/
def Conn.keyboardTaken (c : Conn) : Bool :=
  c.authorized && !c.portForwardSocket && !c.fileTransfer && (c.terminal || c.viewCamera)

/-- Who may be subscribed to a service and, once the services of the desktop are subscribed, who
is. -/
def Rule (env : Env) (c : Conn) (sub : Prop) : ServiceName → Prop
  | .audio =>
    (sub → c.authorized = true ∧ c.audioEnabled = true) ∧
    (c.connType = some .viewCamera → (sub ↔ c.audioEnabled = true ∧ c.voiceCalling = true)) ∧
    (c.servicesSubed = true → c.audioEnabled = true → sub)
  | .clipboard =>
    (c.keyboardTaken = false → sub → c.canSubClipboardService env = true) ∧
    (c.servicesSubed = true → c.canSubClipboardService env = true → sub)
  | .fileClipboard =>
    sub → env.unixFileCopyPaste = true ∧ c.fileTransferEnabled = true ∧
      env.oneWayFileTransfer = false
  | .cursor =>
    (c.keyboardTaken = false → sub → c.keyboard = true ∨ c.showRemoteCursor = true) ∧
    (c.servicesSubed = true → .cursor ∈ env.names →
      c.peerKeyboardEnabled = true ∨ c.showRemoteCursor = true → sub)
  | .pos =>
    (sub → c.showRemoteCursor = true) ∧
    (c.servicesSubed = true → .pos ∈ env.names → c.showRemoteCursor = true → sub)
  | .windowFocus =>
    (sub → c.followRemoteWindow = true) ∧
    (c.servicesSubed = true → .windowFocus ∈ env.names → c.followRemoteWindow = true →
      c.multiUiSession = false → sub)
  | .display => sub ↔ c.servicesSubed = true
  | .printer => sub ↔ c.servicesSubed = true ∧ .printer ∈ env.names
  | .video .. => sub → c.authorized = true

theorem Rule.congr {env : Env} {c : Conn} {p q : Prop} {name : ServiceName}
    (rule : Rule env c p name) (same : q ↔ p) : Rule env c q name := by
  rw [propext same]
  exact rule

/-- What the kind and the state of a connection have to do with each other. -/
structure Shape (c : Conn) : Prop where
  subed : c.servicesSubed = true → c.authorized = true ∧ c.isRemote = true
  typed : c.connType = if c.authorized then some c.authConnType else none
  requested : c.voiceCallRequest = true → c.authorized = true
  calling : c.voiceCalling = true → c.authorized = true

/-- The services of the server are those it was started with and video services. -/
structure Proper (env : Env) (services : List (Service α)) : Prop where
  tidy : ∀ v ∈ services, Tidy v
  offered : ∀ name, name.isVideo = false → (Offered services name ↔ name ∈ env.names)

/-- All rules hold, but perhaps those of some services. -/
def RuledBut (env : Env) (c : Conn) (services : List (Service α)) (id : Int)
    (pending : List ServiceName) : Prop :=
  ∀ name, name ∉ pending → Rule env c (Subscribed services name id) name

/-- The rules of a connection hold. -/
structure Good (env : Env) (id : Int) (h : Handling α) : Prop where
  proper : Proper env h.services
  shape : Shape h.conn
  ruled : RuledBut env h.conn h.services id []

/-- The subscriptions of all other connections are as before, and so are those of the connection to
services that are not touched. -/
structure Frame (id : Int) (touched : ServiceName → Prop) (services after : List (Service α)) :
    Prop where
  apart : ∀ name other, (other = id → ¬touched name) →
    (Subscribed after name other ↔ Subscribed services name other)
  offers : ∀ name, Offered services name → Offered after name

/-- What a handler of a connection does. -/
structure Handled (env : Env) (id : Int) (touched : ServiceName → Prop) (h after : Handling α) :
    Prop where
  good : Good env id after
  frame : Frame id touched h.services after.services

/-- A handler on its way: the connection is as it will be, and some services are still to be brought
along. -/
structure Partly (env : Env) (id : Int) (touched : ServiceName → Prop)
    (services : List (Service α)) (c : Conn) (h : Handling α) (pending : List ServiceName) :
    Prop where
  conn : h.conn = c
  proper : Proper env h.services
  frame : Frame id touched services h.services
  ruled : RuledBut env c h.services id pending

section Handlers

variable {env : Env} {id : Int} {touched : ServiceName → Prop} {h after last : Handling α}
  {services : List (Service α)} {pending : List ServiceName} {c : Conn}

theorem Frame.refl (services : List (Service α)) : Frame id touched services services :=
  ⟨fun _ _ _ => Iff.rfl, fun _ offered => offered⟩

theorem Frame.trans {first second third : List (Service α)} (one : Frame id touched first second)
    (two : Frame id touched second third) : Frame id touched first third :=
  ⟨fun name other apart => (two.apart name other apart).trans (one.apart name other apart),
    fun name offered => two.offers name (one.offers name offered)⟩

theorem Handled.trans (one : Handled env id touched h after)
    (two : Handled env id touched after last) : Handled env id touched h last :=
  ⟨two.good, one.frame.trans two.frame⟩

theorem Handled.wider {wider : ServiceName → Prop} (handled : Handled env id touched h after)
    (wide : ∀ name, touched name → wider name) : Handled env id wider h after :=
  ⟨handled.good, fun name other apart =>
    handled.frame.apart name other fun same within => apart same (wide name within),
    handled.frame.offers⟩

theorem Partly.handled (partly : Partly env id touched h.services c after []) (shape : Shape c) :
    Handled env id touched h after := by
  refine ⟨⟨partly.proper, ?_, ?_⟩, partly.frame⟩
  · rw [partly.conn]
    exact shape
  · rw [partly.conn]
    exact partly.ruled

/-- A handler changes the connection first; the rules that do not read the change still hold. -/
theorem Good.change (good : Good env id h) (c : Conn) (kept : ∀ name p, name ∉ pending →
    Rule env h.conn p name → Rule env c p name) :
    Partly env id touched h.services c { h with conn := c } pending :=
  ⟨rfl, good.proper, Frame.refl h.services,
    fun name outside => kept name _ outside (good.ruled name List.not_mem_nil)⟩

theorem Proper.changes (proper : Proper env services) {after : List (Service α)}
    {change : ServiceName → Int → Option Bool} (changes : Changes services after change) :
    Proper env after :=
  ⟨changes.tidy, fun name plain => (changes.offered name).trans (proper.offered name plain)⟩

/-- `subscribe` brings one service along. -/
theorem Partly.subscribe {name : ServiceName} {sub : Bool}
    (partly : Partly env id touched services c h (name :: pending)) (may : touched name)
    (rule : Rule env c (sub = true ∧ Offered h.services name) name) :
    Partly env id touched services c (h.subscribe id name sub) pending := by
  have changes := subscribe_changes partly.proper.tidy name id sub
  refine ⟨partly.conn, partly.proper.changes changes,
    partly.frame.trans ⟨fun other j apart => ?_, fun other => (changes.offered other).mpr⟩,
    fun other outside => ?_⟩
  · have aside : ¬(other = name ∧ j = id) := fun both => apart both.2 (both.1 ▸ may)
    refine (changes.subscribed other j).trans ?_
    rw [if_neg aside, Option.elim_none]
  · refine Rule.congr ?_ (changes.subscribed other id)
    by_cases same : other = name
    · subst same
      rw [if_pos ⟨rfl, rfl⟩, Option.elim_some]
      exact rule
    · rw [if_neg fun both => same both.1, Option.elim_none]
      refine partly.ruled other fun listed => ?_
      rcases List.mem_cons.mp listed with is | rest
      · exact same is
      · exact outside rest

theorem offered_iff (proper : Proper env services) (name : ServiceName)
    (plain : name.isVideo = false) : Offered services name ↔ name ∈ env.names :=
  proper.offered name plain

theorem audio_mem (env : Env) : .audio ∈ env.names := by
  simp [Env.names]

theorem clipboard_mem (env : Env) : .clipboard ∈ env.names := by
  simp [Env.names]

theorem display_mem (env : Env) : .display ∈ env.names := by
  simp [Env.names]

theorem fileClipboard_mem (env : Env) :
    .fileClipboard ∈ env.names ↔ env.unixFileCopyPaste = true := by
  cases unix : env.unixFileCopyPaste <;> cases cursor : env.cursorEmbedded <;>
    cases focus : env.hasWindowFocus <;> cases printer : env.hasPrinter <;>
    simp [Env.names, unix, cursor, focus, printer]

theorem subscribed_offered {name : ServiceName} (sub : Subscribed services name id) :
    Offered services name := by
  obtain ⟨v, there, named, -⟩ := sub
  exact ⟨v, there, named⟩

theorem Partly.subClipboard
    (partly : Partly env id touched services c h (.clipboard :: pending))
    (may : touched .clipboard) :
    Partly env id touched services c (h.subClipboard env id) pending := by
  have offered := (offered_iff partly.proper .clipboard rfl).mpr (clipboard_mem env)
  unfold Handling.subClipboard
  rw [partly.conn]
  exact partly.subscribe may ⟨fun _ sub => sub.1, fun _ can => ⟨can, offered⟩⟩

theorem Partly.subFileClipboard
    (partly : Partly env id touched services c h (.fileClipboard :: pending))
    (may : touched .fileClipboard) :
    Partly env id touched services c (h.subFileClipboard env id) pending := by
  unfold Handling.subFileClipboard
  rw [partly.conn]
  cases unix : env.unixFileCopyPaste with
  | true =>
    rw [if_pos rfl]
    refine partly.subscribe may fun sub => ?_
    obtain ⟨both, way⟩ := Bool.and_eq_true_iff.mp sub.1
    have enabled := (Bool.and_eq_true_iff.mp both).2
    exact ⟨unix, enabled, by simpa using way⟩
  | false =>
    rw [if_neg Bool.false_ne_true]
    refine ⟨partly.conn, partly.proper, partly.frame, fun name outside => ?_⟩
    by_cases same : name = .fileClipboard
    · subst same
      intro sub
      have offered := (offered_iff partly.proper .fileClipboard rfl).mp (subscribed_offered sub)
      exact absurd ((fileClipboard_mem env).mp offered) (by simp [unix])
    · exact partly.ruled name fun listed => by
        rcases List.mem_cons.mp listed with is | rest
        · exact same is
        · exact outside rest

/-- The subscription to the cursor, with what the handler computes. -/
theorem Partly.subCursor {sub : Bool}
    (partly : Partly env id touched services c h (.cursor :: pending)) (may : touched .cursor)
    (only : sub = true → c.keyboard = true ∨ c.showRemoteCursor = true)
    (all : c.peerKeyboardEnabled = true ∨ c.showRemoteCursor = true → sub = true) :
    Partly env id touched services c (h.subscribe id .cursor sub) pending := by
  refine partly.subscribe may ⟨fun _ given => only given.1, fun _ there wanted => ?_⟩
  exact ⟨all wanted, (offered_iff partly.proper .cursor rfl).mpr there⟩

theorem Shape.remote {c : Conn} (shape : Shape c) (subed : c.servicesSubed = true) :
    c.connType = some .remote := by
  obtain ⟨authorized, remote⟩ := shape.subed subed
  rw [shape.typed, authorized, if_pos rfl]
  simp only [Conn.isRemote, Bool.and_eq_true, Bool.not_eq_true'] at remote
  simp [Conn.authConnType, remote]

theorem Partly.subAudio (partly : Partly env id touched services c h (.audio :: pending))
    (may : touched .audio) (shape : Shape c) (authorized : c.authorized = true)
    (quiet : c.connType = some .viewCamera → c.voiceCalling = false →
      ¬Subscribed h.services .audio id) :
    Partly env id touched services c (h.subAudio id) pending := by
  have offered := (offered_iff partly.proper .audio rfl).mpr (audio_mem env)
  have notCamera (subed : c.servicesSubed = true) :
      c.connType ≠ some .viewCamera := by
    rw [shape.remote subed]
    decide
  unfold Handling.subAudio
  rw [partly.conn]
  cases camera : c.isAuthedViewCameraConn with
  | true =>
    have isCamera : c.connType = some .viewCamera := beq_iff_eq.mp camera
    rw [if_pos rfl]
    cases calls : c.voiceCalling || !c.audioEnabled with
    | true =>
      rw [if_pos rfl]
      refine partly.subscribe may ⟨fun sub => ⟨authorized, sub.1⟩, fun _ => ?_, fun subed => ?_⟩
      · constructor
        · intro sub
          simpa [sub.1] using calls
        · exact fun both => ⟨both.1, offered⟩
      · exact absurd isCamera (notCamera subed)
    | false =>
      rw [if_neg Bool.false_ne_true]
      obtain ⟨silent, enabled⟩ := Bool.or_eq_false_iff.mp calls
      refine ⟨partly.conn, partly.proper, partly.frame, fun name outside => ?_⟩
      by_cases same : name = .audio
      · subst same
        have none := quiet isCamera silent
        refine ⟨fun sub => absurd sub none, fun _ => ?_, fun subed => ?_⟩
        · rw [silent]
          exact ⟨fun sub => absurd sub none, fun both => by cases both.2⟩
        · exact absurd isCamera (notCamera subed)
      · exact partly.ruled name fun listed => by
          rcases List.mem_cons.mp listed with is | rest
          · exact same is
          · exact outside rest
  | false =>
    have notCamera' : c.connType ≠ some .viewCamera := beq_eq_false_iff_ne.mp camera
    rw [if_neg Bool.false_ne_true]
    exact partly.subscribe may ⟨fun sub => ⟨authorized, sub.1⟩, fun isCamera =>
      absurd isCamera notCamera', fun _ enabled => ⟨enabled, offered⟩⟩

/-! ### Permissions and options -/

/-- Everything but video. -/
def Plain (name : ServiceName) : Prop := name.isVideo = false

/-- Which rules are left alone by a change is decided service by service: they do not read what
changed. -/
theorem switchPermission_handled (good : Good env id h) (name : Permission) (enabled : Bool) :
    Handled env id Plain h (switchPermission env id h name enabled) := by
  obtain ⟨subed, typed, requested, calling⟩ := good.shape
  cases name with
  | keyboard =>
    have changed : Partly env id Plain h.services { h.conn with keyboard := enabled }
        { h with conn := { h.conn with keyboard := enabled } }
        [.clipboard, .fileClipboard, .cursor] :=
      good.change _ fun name p outside rule => by
        cases name <;> first | exact rule | simp at outside
    have clipboard := (changed.subClipboard rfl).subFileClipboard rfl
    refine (clipboard.subCursor rfl (fun given => ?_) fun wanted => ?_).handled
      ⟨subed, typed, requested, calling⟩
    · exact Bool.or_eq_true_iff.mp given
    · rcases wanted with keyboard | shown
      · exact Bool.or_eq_true_iff.mpr (.inl (Bool.and_eq_true_iff.mp keyboard).1)
      · exact Bool.or_eq_true_iff.mpr (.inr shown)
  | clipboard =>
    have changed : Partly env id Plain h.services { h.conn with clipboard := enabled }
        { h with conn := { h.conn with clipboard := enabled } } [.clipboard] :=
      good.change _ fun name p outside rule => by
        cases name <;> first | exact rule | simp at outside
    exact (changed.subClipboard rfl).handled ⟨subed, typed, requested, calling⟩
  | audio =>
    have rule := good.ruled .audio List.not_mem_nil
    have changed : Partly env id Plain h.services { h.conn with audio := enabled }
        { h with conn := { h.conn with audio := enabled } } [.audio] :=
      good.change _ fun name p outside rule => by
        cases name <;> first | exact rule | simp at outside
    change Handled env id Plain h (if h.conn.authorized = true then
      ({ h with conn := { h.conn with audio := enabled } } : Handling α).subAudio id
      else { h with conn := { h.conn with audio := enabled } })
    by_cases authorized : h.conn.authorized = true
    · rw [if_pos authorized]
      refine (changed.subAudio rfl ⟨subed, typed, requested, calling⟩ authorized ?_).handled
        ⟨subed, typed, requested, calling⟩
      intro camera silent sub
      have calls := ((rule.2.1 camera).mp sub).2
      exact Bool.false_ne_true (silent.symm.trans calls)
    · rw [if_neg authorized]
      refine ⟨⟨good.proper, ⟨subed, typed, requested, calling⟩, fun name outside => ?_⟩,
        Frame.refl _⟩
      have ruled := good.ruled name outside
      cases name with
      | audio =>
        -- Nobody is subscribed to audio before it is authorized.
        refine ⟨fun sub => absurd (rule.1 sub).1 authorized, fun camera => ?_,
          fun served => absurd (subed served).1 authorized⟩
        rw [typed, if_neg authorized] at camera
        cases camera
      | _ => exact ruled
  | file =>
    have changed : Partly env id Plain h.services { h.conn with file := enabled }
        { h with conn := { h.conn with file := enabled } } [.fileClipboard] :=
      good.change _ fun name p outside rule => by
        cases name <;> first | exact rule | simp at outside
    exact (changed.subFileClipboard rfl).handled ⟨subed, typed, requested, calling⟩
  | restart =>
    exact ⟨⟨good.proper, ⟨subed, typed, requested, calling⟩, fun name outside => by
      cases name <;> exact good.ruled _ outside⟩, Frame.refl _⟩
  | recording =>
    exact ⟨⟨good.proper, ⟨subed, typed, requested, calling⟩, fun name outside => by
      cases name <;> exact good.ruled _ outside⟩, Frame.refl _⟩
  | blockInput =>
    exact ⟨⟨good.proper, ⟨subed, typed, requested, calling⟩, fun name outside => by
      cases name <;> exact good.ruled _ outside⟩, Frame.refl _⟩

theorem updateShowRemoteCursor_handled (good : Good env id h) (q : Option Bool) :
    Handled env id Plain h (updateShowRemoteCursor id q h) := by
  obtain ⟨subed, typed, requested, calling⟩ := good.shape
  cases q with
  | none => exact ⟨good, Frame.refl _⟩
  | some yes =>
    have changed : Partly env id Plain h.services { h.conn with showRemoteCursor := yes }
        { h with conn := { h.conn with showRemoteCursor := yes } } [.cursor, .pos] :=
      good.change _ fun name p outside rule => by
        cases name <;> first | exact rule | simp at outside
    have cursor : Partly env id Plain h.services { h.conn with showRemoteCursor := yes }
        (Handling.subscribe id { h with conn := { h.conn with showRemoteCursor := yes } } .cursor
          (h.conn.peerKeyboardEnabled || yes)) [.pos] := by
      refine changed.subCursor rfl (fun given => ?_) fun wanted => Bool.or_eq_true_iff.mpr wanted
      rcases Bool.or_eq_true_iff.mp given with keyboard | shown
      · exact .inl (Bool.and_eq_true_iff.mp keyboard).1
      · exact .inr shown
    refine (cursor.subscribe rfl ⟨fun sub => sub.1, fun _ there shown => ?_⟩).handled
      ⟨subed, typed, requested, calling⟩
    exact ⟨shown, (offered_iff cursor.proper .pos rfl).mpr there⟩

theorem updateFollowRemoteWindow_handled (good : Good env id h) (q : Option Bool) :
    Handled env id Plain h (updateFollowRemoteWindow id q h) := by
  obtain ⟨subed, typed, requested, calling⟩ := good.shape
  cases q with
  | none => exact ⟨good, Frame.refl _⟩
  | some yes =>
    have changed : Partly env id Plain h.services { h.conn with followRemoteWindow := yes }
        { h with conn := { h.conn with followRemoteWindow := yes } } [.windowFocus] :=
      good.change _ fun name p outside rule => by
        cases name <;> first | exact rule | simp at outside
    refine (changed.subscribe rfl ⟨fun sub => sub.1, fun _ there follows _ => ?_⟩).handled
      ⟨subed, typed, requested, calling⟩
    exact ⟨follows, (offered_iff changed.proper .windowFocus rfl).mpr there⟩

theorem updateDisableAudio_handled (good : Good env id h) (authorized : h.conn.authorized = true)
    (q : Option Bool) : Handled env id Plain h (updateDisableAudio id q h) := by
  obtain ⟨subed, typed, requested, calling⟩ := good.shape
  cases q with
  | none => exact ⟨good, Frame.refl _⟩
  | some yes =>
    have rule := good.ruled .audio List.not_mem_nil
    have changed : Partly env id Plain h.services { h.conn with disableAudio := yes }
        { h with conn := { h.conn with disableAudio := yes } } [.audio] :=
      good.change _ fun name p outside rule => by
        cases name <;> first | exact rule | simp at outside
    refine (changed.subAudio rfl ⟨subed, typed, requested, calling⟩ authorized ?_).handled
      ⟨subed, typed, requested, calling⟩
    intro camera silent sub
    have calls := ((rule.2.1 camera).mp sub).2
    exact Bool.false_ne_true (silent.symm.trans calls)

theorem updateEnableFileTransfer_handled (good : Good env id h) (q : Option Bool) :
    Handled env id Plain h (updateEnableFileTransfer env id q h) := by
  obtain ⟨subed, typed, requested, calling⟩ := good.shape
  cases q with
  | none => exact ⟨good, Frame.refl _⟩
  | some yes =>
    have changed : Partly env id Plain h.services { h.conn with enableFileTransfer := yes }
        { h with conn := { h.conn with enableFileTransfer := yes } } [.fileClipboard] :=
      good.change _ fun name p outside rule => by
        cases name <;> first | exact rule | simp at outside
    exact (changed.subFileClipboard rfl).handled ⟨subed, typed, requested, calling⟩

theorem updateDisableClipboard_handled (good : Good env id h) (q : Option Bool) :
    Handled env id Plain h (updateDisableClipboard env id q h) := by
  obtain ⟨subed, typed, requested, calling⟩ := good.shape
  cases q with
  | none => exact ⟨good, Frame.refl _⟩
  | some yes =>
    have changed : Partly env id Plain h.services { h.conn with disableClipboard := yes }
        { h with conn := { h.conn with disableClipboard := yes } } [.clipboard] :=
      good.change _ fun name p outside rule => by
        cases name <;> first | exact rule | simp at outside
    exact (changed.subClipboard rfl).handled ⟨subed, typed, requested, calling⟩

theorem updateDisableKeyboard_handled (good : Good env id h) (q : Option Bool) :
    Handled env id Plain h (updateDisableKeyboard env id q h) := by
  obtain ⟨subed, typed, requested, calling⟩ := good.shape
  cases q with
  | none => exact ⟨good, Frame.refl _⟩
  | some yes =>
    have changed : Partly env id Plain h.services { h.conn with disableKeyboard := yes }
        { h with conn := { h.conn with disableKeyboard := yes } }
        [.clipboard, .fileClipboard, .cursor] :=
      good.change _ fun name p outside rule => by
        cases name <;> first | exact rule | simp at outside
    have clipboard := (changed.subClipboard rfl).subFileClipboard rfl
    have conn := clipboard.conn
    unfold updateDisableKeyboard
    dsimp only at conn ⊢
    refine (clipboard.subCursor rfl (fun given => ?_) fun wanted => ?_).handled
      ⟨subed, typed, requested, calling⟩
    · rcases Bool.or_eq_true_iff.mp given with keyboard | shown
      · exact .inl (Bool.and_eq_true_iff.mp keyboard).1
      · exact .inr shown
    · exact Bool.or_eq_true_iff.mpr wanted

@[simp] theorem subFileClipboard_conn (h : Handling α) :
    (h.subFileClipboard env id).conn = h.conn := by
  unfold Handling.subFileClipboard
  split
  · rfl
  · rfl

@[simp] theorem subAudio_conn (h : Handling α) : (h.subAudio id).conn = h.conn := by
  unfold Handling.subAudio
  split
  · split
    · rfl
    · rfl
  · rfl

/-- What options change of a connection: nothing that makes its kind. -/
structure SameKind (c d : Conn) : Prop where
  lastKind : d.lastKind = c.lastKind
  fileTransfer : d.fileTransfer = c.fileTransfer
  portForwardSocket : d.portForwardSocket = c.portForwardSocket
  viewCamera : d.viewCamera = c.viewCamera
  terminal : d.terminal = c.terminal
  authorized : d.authorized = c.authorized
  connType : d.connType = c.connType
  servicesSubed : d.servicesSubed = c.servicesSubed

theorem SameKind.trans {b c d : Conn} (one : SameKind b c) (two : SameKind c d) : SameKind b d :=
  ⟨two.lastKind.trans one.lastKind, two.fileTransfer.trans one.fileTransfer,
    two.portForwardSocket.trans one.portForwardSocket, two.viewCamera.trans one.viewCamera,
    two.terminal.trans one.terminal, two.authorized.trans one.authorized,
    two.connType.trans one.connType, two.servicesSubed.trans one.servicesSubed⟩

theorem SameKind.refl (c : Conn) : SameKind c c := ⟨rfl, rfl, rfl, rfl, rfl, rfl, rfl, rfl⟩

theorem updateShowRemoteCursor_sameKind (q : Option Bool) (h : Handling α) :
    SameKind h.conn (updateShowRemoteCursor id q h).conn := by
  cases q with
  | none => exact SameKind.refl _
  | some yes => exact ⟨rfl, rfl, rfl, rfl, rfl, rfl, rfl, rfl⟩

theorem updateFollowRemoteWindow_sameKind (q : Option Bool) (h : Handling α) :
    SameKind h.conn (updateFollowRemoteWindow id q h).conn := by
  cases q with
  | none => exact SameKind.refl _
  | some yes => exact ⟨rfl, rfl, rfl, rfl, rfl, rfl, rfl, rfl⟩

theorem updateDisableAudio_sameKind (q : Option Bool) (h : Handling α) :
    SameKind h.conn (updateDisableAudio id q h).conn := by
  cases q with
  | none => exact SameKind.refl _
  | some yes =>
    unfold updateDisableAudio
    dsimp only
    rw [subAudio_conn]
    exact ⟨rfl, rfl, rfl, rfl, rfl, rfl, rfl, rfl⟩

theorem updateEnableFileTransfer_sameKind (q : Option Bool) (h : Handling α) :
    SameKind h.conn (updateEnableFileTransfer env id q h).conn := by
  cases q with
  | none => exact SameKind.refl _
  | some yes =>
    unfold updateEnableFileTransfer
    dsimp only
    rw [subFileClipboard_conn]
    exact ⟨rfl, rfl, rfl, rfl, rfl, rfl, rfl, rfl⟩

theorem updateDisableClipboard_sameKind (q : Option Bool) (h : Handling α) :
    SameKind h.conn (updateDisableClipboard env id q h).conn := by
  cases q with
  | none => exact SameKind.refl _
  | some yes => exact ⟨rfl, rfl, rfl, rfl, rfl, rfl, rfl, rfl⟩

theorem updateDisableKeyboard_sameKind (q : Option Bool) (h : Handling α) :
    SameKind h.conn (updateDisableKeyboard env id q h).conn := by
  cases q with
  | none => exact SameKind.refl _
  | some yes =>
    unfold updateDisableKeyboard
    dsimp only [Handling.subscribe]
    rw [subFileClipboard_conn]
    exact ⟨rfl, rfl, rfl, rfl, rfl, rfl, rfl, rfl⟩

/-- Options leave a connection what it is. -/
theorem updateOptions_sameKind (o : OptionMessage) (h : Handling α) :
    SameKind h.conn (updateOptions env id o h).conn := by
  have one : SameKind h.conn (updateShowRemoteCursor id o.showRemoteCursor h).conn :=
    updateShowRemoteCursor_sameKind o.showRemoteCursor h
  have two := one.trans (@updateFollowRemoteWindow_sameKind α id o.followRemoteWindow _)
  have three := two.trans (@updateDisableAudio_sameKind α id o.disableAudio _)
  have four := three.trans (@updateEnableFileTransfer_sameKind α env id o.enableFileTransfer _)
  have five := four.trans (@updateDisableClipboard_sameKind α env id o.disableClipboard _)
  exact five.trans (updateDisableKeyboard_sameKind o.disableKeyboard _)

/-- Options bring along everything that they decide over. -/
theorem updateOptions_handled (good : Good env id h) (authorized : h.conn.authorized = true)
    (o : OptionMessage) : Handled env id Plain h (updateOptions env id o h) := by
  have one := updateShowRemoteCursor_handled good o.showRemoteCursor
  have two := one.trans (updateFollowRemoteWindow_handled one.good o.followRemoteWindow)
  have still : (updateFollowRemoteWindow id o.followRemoteWindow
      (updateShowRemoteCursor id o.showRemoteCursor h)).conn.authorized = true := by
    rw [(updateFollowRemoteWindow_sameKind o.followRemoteWindow _).authorized,
      (updateShowRemoteCursor_sameKind o.showRemoteCursor h).authorized]
    exact authorized
  have three := two.trans (updateDisableAudio_handled two.good still o.disableAudio)
  have four := three.trans (updateEnableFileTransfer_handled three.good o.enableFileTransfer)
  have five := four.trans (updateDisableClipboard_handled four.good o.disableClipboard)
  exact five.trans (updateDisableKeyboard_handled five.good o.disableKeyboard)

end Handlers

end ChainRemote.Server.Subscriptions
