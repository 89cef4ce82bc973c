import ChainRemote.Server.SubscriptionLogin

/-!
# What every connection of a server is subscribed to

All handlers keep the rules of their connection and leave the others alone, so in every run each
connection is subscribed as its rules say and what is gone is subscribed to nothing. Of the displays
more can be said: the messages of the peer alone decide which ones a connection is shown.
-/

namespace ChainRemote.Server.Subscriptions

open Lib

variable {α : Type}

/-! ## Runs of a server -/

/-- The connection that an event is about. -/
def Event.conn : Event α → Option Int
  | .loginRequest id .. | .authorize id _ | .switchPermission id .. | .handleVoiceCall id _
  | .closeVoiceCall id | .selectedSid id _ | .options id _ | .switchDisplay id _
  | .captureDisplays id .. | .voiceCallRequest id _ | .close id => some id
  | .connect _ | .service .. => none

/-- The displays that a connection with services is shown after an event about it. -/
def asked (c : Conn) (e : Event α) (before : Set (VideoSource × Nat)) : Set (VideoSource × Nat) :=
  match e with
  | .switchDisplay _ display =>
    if c.displayIdx ≠ display then
      insert (.monitor, display)
        (if c.multiUi then before else before \ {(.monitor, c.displayIdx)})
    else before
  | .captureDisplays _ add sub set => captured .monitor add sub set before
  | .close _ => ∅
  | _ => before

/-- A handler does what it should for an event. -/
structure Fits (env : Env) (id : Int) (e : Event α) (f : Handling α → Handling α) : Prop where
  handled : ∀ h, Good env id h → Handled env id (fun _ => True) h (f h)
  serves : ∀ h, Good env id h → Serves env id h (f h)
  shows : ∀ h, Good env id h → h.conn.servicesSubed = true →
    Offered h.services (.video .monitor env.primary) →
    shown (f h).services id = asked h.conn e (shown h.services id)

/-- A handler that touches no displays and serves nobody. -/
theorem Fits.of_plain {env : Env} {id : Int} {e : Event α} {f : Handling α → Handling α}
    (plain : ∀ h, Good env id h → Handled env id Plain h (f h))
    (same : ∀ h, (f h).conn.servicesSubed = h.conn.servicesSubed)
    (keeps : ∀ c before, asked c e before = before) : Fits env id e f :=
  ⟨fun h good => (plain h good).wider fun _ _ => trivial, fun h _ => Serves.of_eq (same h),
    fun h good _ _ => ((plain h good).frame.shown (fun _ plain => plain) id).trans
      (keeps _ _).symm⟩

/-- A message that only an authorized peer may send. -/
theorem Fits.authorized {env : Env} {id : Int} {e : Event α} {f : Handling α → Handling α}
    (handled : ∀ h, Good env id h → h.conn.authorized = true →
      Handled env id (fun _ => True) h (f h))
    (serves : ∀ h, Good env id h → h.conn.authorized = true → Serves env id h (f h))
    (shows : ∀ h, Good env id h → h.conn.authorized = true → h.conn.isRemote = true →
      h.conn.servicesSubed = true → Offered h.services (.video .monitor env.primary) →
      shown (f h).services id = asked h.conn e (shown h.services id)) :
    Fits env id e fun h => if h.conn.authorized then f h else h := by
  refine ⟨fun h good => ?_, fun h good => ?_, fun h good served there => ?_⟩
  · split
    · exact handled h good ‹_›
    · exact ⟨good, Frame.refl _⟩
  · split
    · exact serves h good ‹_›
    · exact Serves.of_eq rfl
  · obtain ⟨authorized, remote⟩ := good.shape.subed served
    rw [if_pos authorized]
    exact shows h good authorized remote served there

theorem isRemote_videoSource {c : Conn} (remote : c.isRemote = true) :
    c.videoSource = .monitor := by
  simp only [Conn.isRemote, Bool.and_eq_true, Bool.not_eq_true'] at remote
  unfold Conn.videoSource
  rw [remote.1.2, if_neg Bool.false_ne_true]

section Fits

variable (env : Env) (id : Int)

theorem loginRequest_fits (kind : AuthConnType) (option : Option OptionMessage) (multiUi : Bool) :
    Fits env id (.loginRequest id kind option multiUi : Event α)
      fun h => { h with conn := loginRequest kind option multiUi h.conn } :=
  .of_plain (fun _ good => loginRequest_handled good kind option multiUi)
    (fun h => loginRequest_servicesSubed kind option multiUi h.conn) fun _ _ => rfl

theorem authorize_fits (startup : Startup) :
    Fits env id (.authorize id startup : Event α) (sendLogonResponse env id startup) := by
  refine ⟨fun h good => sendLogonResponse_handled good startup,
    fun h good => sendLogonResponse_serves good startup, fun h good served _ => ?_⟩
  unfold sendLogonResponse
  rw [if_pos (good.shape.subed served).1]
  rfl

theorem switchPermission_fits (name : Permission) (enabled : Bool) :
    Fits env id (.switchPermission id name enabled : Event α)
      fun h => switchPermission env id h name enabled :=
  .of_plain (fun _ good => switchPermission_handled good name enabled)
    (fun h => switchPermission_servicesSubed h name enabled) fun _ _ => rfl

theorem handleVoiceCall_fits (accepted : Bool) :
    Fits env id (.handleVoiceCall id accepted : Event α) (handleVoiceCall id accepted) :=
  .of_plain (fun _ good => handleVoiceCall_handled good accepted)
    (handleVoiceCall_servicesSubed accepted) fun _ _ => rfl

theorem closeVoiceCall_fits :
    Fits env id (.closeVoiceCall id : Event α) (closeVoiceCall id) :=
  .of_plain (fun _ good => closeVoiceCall_handled good) closeVoiceCall_servicesSubed fun _ _ => rfl

theorem selectedSid_fits (camera : Bool) :
    Fits env id (.selectedSid id camera : Event α)
      fun h => if h.conn.authorized then selectedSid env id camera h else h := by
  refine .authorized (fun h good authorized => selectedSid_handled good authorized camera)
    (fun h good _ => selectedSid_serves good camera) fun h _ _ remote served _ => ?_
  have notDue : ¬(h.conn.isRemote && !h.conn.servicesSubed) = true := by simp [served]
  simp only [Conn.isRemote, Bool.and_eq_true, Bool.not_eq_true'] at remote
  obtain ⟨⟨⟨notFiles, -⟩, notCamera⟩, notTerminal⟩ := remote
  unfold selectedSid
  rw [notFiles, notCamera, notTerminal, if_neg Bool.false_ne_true, if_neg Bool.false_ne_true]
  unfold trySubMonitorServices
  rw [if_neg notDue]
  rfl

theorem options_fits (o : OptionMessage) :
    Fits env id (.options id o : Event α)
      fun h => if h.conn.authorized then updateOptions env id o h else h :=
  .authorized
    (fun _ good authorized => (updateOptions_handled good authorized o).wider fun _ _ => trivial)
    (fun h _ _ => Serves.of_eq (updateOptions_sameKind o h).servicesSubed)
    fun _ good authorized _ _ _ =>
      (updateOptions_handled good authorized o).frame.shown (fun _ plain => plain) id

theorem switchDisplay_fits (display : Nat) :
    Fits env id (.switchDisplay id display : Event α)
      fun h => if h.conn.authorized then handleSwitchDisplay env id display h else h := by
  refine .authorized
    (fun _ good authorized =>
      (handleSwitchDisplay_handled good authorized display).wider fun _ _ => trivial)
    (fun h _ _ => Serves.of_eq (handleSwitchDisplay_servicesSubed display h))
    fun h good _ remote _ there => ?_
  have source := isRemote_videoSource remote
  by_cases other : h.conn.displayIdx ≠ display
  · have after : shown (handleSwitchDisplay env id display h).services id = _ :=
      handleSwitchDisplay_shown good.proper.tidy (source ▸ there) display other
    rw [source] at after
    exact after.trans (if_pos other).symm
  · unfold handleSwitchDisplay
    rw [if_neg other]
    exact (if_neg other).symm

theorem captureDisplays_fits (add sub set : List Nat) :
    Fits env id (.captureDisplays id add sub set : Event α)
      fun h => if h.conn.authorized then Handling.captureDisplays id add sub set h else h := by
  refine .authorized
    (fun _ good authorized =>
      (captureDisplays_handled good authorized add sub set).wider fun _ _ => trivial)
    (fun h _ _ => Serves.of_eq (captureDisplays_servicesSubed add sub set h))
    fun h good authorized remote _ _ => ?_
  have after := captureDisplays_shown good authorized add sub set
  rw [isRemote_videoSource remote] at after
  exact after

theorem voiceCallRequest_fits (isConnect : Bool) :
    Fits env id (.voiceCallRequest id isConnect : Event α)
      fun h => if h.conn.authorized then voiceCallRequest id isConnect h else h := by
  have same (h : Handling α) :
      (voiceCallRequest id isConnect h).conn.servicesSubed = h.conn.servicesSubed := by
    cases isConnect with
    | true => rfl
    | false => exact closeVoiceCall_servicesSubed h
  exact .authorized
    (fun _ good authorized =>
      (voiceCallRequest_handled good authorized isConnect).wider fun _ _ => trivial)
    (fun h _ _ => Serves.of_eq (same h))
    fun _ good authorized _ _ _ =>
      (voiceCallRequest_handled good authorized isConnect).frame.shown (fun _ plain => plain) id

end Fits

/-- What an event does to a server: a connection comes or goes, a service does something by itself,
or the handler for the event runs. -/
theorem step_cases {env : Env} {s t : State α} {e : Event α} (next : step env s e = some t) :
    (∃ permission, e.conn = none ∧ t = { s with
      idCount := s.idCount + 1
      conns := Function.update s.conns (s.idCount + 1) (some (.start env permission)) }) ∨
    (∃ id c, e = .close id ∧ s.conns id = some c ∧ t = { s with
      conns := Function.update s.conns id none
      services := removeConnection s.services id }) ∨
    (∃ (i : Nat) (v : Service α) (own : SnapshotService.Event α) (u : SnapshotService.State α),
      e.conn = none ∧ s.services[i]? = some v ∧ ofService own = true ∧
      SnapshotService.step v.state own = some u ∧
      t = { s with services := s.services.set i { v with state := u } }) ∨
    ∃ id f c, e.conn = some id ∧ Fits env id e f ∧ s.conns id = some c ∧ t = { s with
      conns := Function.update s.conns id (some (f ⟨c, s.services⟩).conn)
      services := (f ⟨c, s.services⟩).services } := by
  have handler (id : Int) (f : Handling α → Handling α) (about : e.conn = some id)
      (fits : Fits env id e f) (runs : s.handle id f = some t) :
      ∃ id f c, e.conn = some id ∧ Fits env id e f ∧ s.conns id = some c ∧ t = { s with
        conns := Function.update s.conns id (some (f ⟨c, s.services⟩).conn)
        services := (f ⟨c, s.services⟩).services } := by
    obtain ⟨c, here, rfl⟩ := Option.map_eq_some_iff.mp runs
    exact ⟨id, f, c, about, fits, here, rfl⟩
  cases e with
  | connect permission => exact .inl ⟨permission, rfl, (Option.some.inj next).symm⟩
  | loginRequest id kind option multiUi =>
    exact .inr (.inr (.inr (handler id _ rfl (loginRequest_fits env id kind option multiUi) next)))
  | authorize id startup =>
    exact .inr (.inr (.inr (handler id _ rfl (authorize_fits env id startup) next)))
  | switchPermission id name enabled =>
    exact .inr (.inr (.inr (handler id _ rfl (switchPermission_fits env id name enabled) next)))
  | handleVoiceCall id accepted =>
    exact .inr (.inr (.inr (handler id _ rfl (handleVoiceCall_fits env id accepted) next)))
  | closeVoiceCall id =>
    exact .inr (.inr (.inr (handler id _ rfl (closeVoiceCall_fits env id) next)))
  | selectedSid id camera =>
    exact .inr (.inr (.inr (handler id _ rfl (selectedSid_fits env id camera) next)))
  | options id o => exact .inr (.inr (.inr (handler id _ rfl (options_fits env id o) next)))
  | switchDisplay id display =>
    exact .inr (.inr (.inr (handler id _ rfl (switchDisplay_fits env id display) next)))
  | captureDisplays id add sub set =>
    exact .inr (.inr (.inr (handler id _ rfl (captureDisplays_fits env id add sub set) next)))
  | voiceCallRequest id isConnect =>
    exact .inr (.inr (.inr (handler id _ rfl (voiceCallRequest_fits env id isConnect) next)))
  | close id =>
    obtain ⟨c, here, rfl⟩ := Option.map_eq_some_iff.mp next
    exact .inr (.inl ⟨id, c, rfl, here, rfl⟩)
  | service i own =>
    unfold step at next
    dsimp only at next
    split at next
    · rename_i v there
      split at next
      · rename_i fine
        obtain ⟨u, runs, rfl⟩ := Option.map_eq_some_iff.mp next
        exact .inr (.inr (.inl ⟨i, v, own, u, rfl, there, fine, runs, rfl⟩))
      · cases next
    · cases next

/-- What holds of a server in every state that it reaches. -/
structure Inv (env : Env) (s : State α) : Prop where
  proper : Proper env s.services
  gone : ∀ id, s.conns id = none → ∀ name, ¬Subscribed s.services name id
  shape : ∀ id c, s.conns id = some c → Shape c
  ruled : ∀ id c, s.conns id = some c → ∀ name, Rule env c (Subscribed s.services name id) name
  primary : ∀ id c, s.conns id = some c → c.servicesSubed = true →
    Offered s.services (.video .monitor env.primary)
  fresh : ∀ id, s.idCount < id → s.conns id = none

section Inv

variable {env : Env} {s t : State α}

theorem Inv.good (inv : Inv env s) {id : Int} {c : Conn} (here : s.conns id = some c) :
    Good env id ⟨c, s.services⟩ :=
  ⟨inv.proper, inv.shape id c here, fun name _ => inv.ruled id c here name⟩

/-- What a service does by itself changes nothing here. -/
theorem own_changes {services : List (Service α)} (tidy : ∀ v ∈ services, Tidy v) {i : Nat}
    {v : Service α} (there : services[i]? = some v) {own : SnapshotService.Event α}
    (fine : ofService own = true) {u : SnapshotService.State α}
    (runs : SnapshotService.step v.state own = some u) :
    Changes services (services.set i { v with state := u }) fun _ _ => none := by
  have inside := List.mem_of_getElem? there
  have short := (List.getElem?_eq_some_iff.mp there).1
  obtain ⟨same, neat⟩ := Service.isSubed_step fine runs (tidy v inside)
  have mem (w : Service α) (within : w ∈ services) :
      ∃ x ∈ services.set i { v with state := u }, x.name = w.name ∧
        ∀ id, x.isSubed id = w.isSubed id := by
    obtain ⟨j, found⟩ := List.mem_iff_getElem?.mp within
    by_cases is : i = j
    · subst is
      obtain rfl := Option.some.inj (there.symm.trans found)
      exact ⟨_, List.mem_set short _, rfl, same⟩
    · refine ⟨w, List.mem_iff_getElem?.mpr ⟨j, ?_⟩, rfl, fun _ => rfl⟩
      rw [List.getElem?_set_ne is]
      exact found
  have back (x : Service α) (within : x ∈ services.set i { v with state := u }) :
      ∃ w ∈ services, x.name = w.name ∧ (∀ id, x.isSubed id = w.isSubed id) ∧ Tidy x := by
    rcases List.mem_or_eq_of_mem_set within with old | rfl
    · exact ⟨x, old, rfl, fun _ => rfl, tidy x old⟩
    · exact ⟨v, inside, rfl, same, neat⟩
  refine ⟨fun name id => ?_, fun name => ?_, fun x within => ?_⟩
  · rw [Option.elim_none]
    constructor
    · rintro ⟨x, within, named, subed⟩
      obtain ⟨w, old, alike, subs, -⟩ := back x within
      exact ⟨w, old, alike.symm.trans named, (subs id).symm.trans subed⟩
    · rintro ⟨w, old, named, subed⟩
      obtain ⟨x, within, alike, subs⟩ := mem w old
      exact ⟨x, within, alike.trans named, (subs id).trans subed⟩
  · constructor
    · rintro ⟨x, within, named⟩
      obtain ⟨w, old, alike, -⟩ := back x within
      exact ⟨w, old, alike.symm.trans named⟩
    · rintro ⟨w, old, named⟩
      obtain ⟨x, within, alike, -⟩ := mem w old
      exact ⟨x, within, alike.trans named⟩
  · obtain ⟨-, -, -, -, neat⟩ := back x within
    exact neat

/-- A new connection has nothing yet. -/
theorem start_rule (permission : Permission → Bool) {p : Prop} (nobody : ¬p) (name : ServiceName) :
    Rule env (.start env permission) p name := by
  have never {q : Prop} (sub : p) : q := absurd sub nobody
  have unserved {q : Prop} (served : (Conn.start env permission).servicesSubed = true) : q := by
    cases served
  cases name with
  | audio => exact ⟨never, fun camera => absurd camera (Option.some_ne_none _).symm, unserved⟩
  | clipboard => exact ⟨fun _ => never, unserved⟩
  | fileClipboard => exact never
  | cursor => exact ⟨fun _ => never, unserved⟩
  | pos => exact ⟨never, unserved⟩
  | windowFocus => exact ⟨never, unserved⟩
  | display => exact ⟨never, unserved⟩
  | printer => exact ⟨never, fun both => unserved both.1⟩
  | video source display => exact never

theorem inv_start (started : (server α env).start s) : Inv env s := by
  obtain ⟨none, services⟩ := started
  have nobody (name : ServiceName) (id : Int) : ¬Subscribed s.services name id := by
    rintro ⟨v, inside, -, subed⟩
    rw [services] at inside
    obtain ⟨n, -, rfl⟩ := List.mem_map.mp inside
    exact Bool.false_ne_true ((Service.isSubed_new n id).symm.trans subed)
  refine ⟨⟨fun v inside => ?_, fun name _ => ?_⟩, fun id _ name => nobody name id, ?_, ?_, ?_,
    fun id _ => none id⟩
  · rw [services] at inside
    obtain ⟨n, -, rfl⟩ := List.mem_map.mp inside
    exact Service.tidy_new n
  · rw [services]
    constructor
    · rintro ⟨v, inside, named⟩
      obtain ⟨n, there, rfl⟩ := List.mem_map.mp inside
      exact named ▸ there
    · exact fun there => ⟨.new name, List.mem_map_of_mem there, rfl⟩
  · exact fun id c here => absurd ((none id).symm.trans here) (by simp)
  · exact fun id c here => absurd ((none id).symm.trans here) (by simp)
  · exact fun id c here => absurd ((none id).symm.trans here) (by simp)

theorem inv_connect (inv : Inv env s) (permission : Permission → Bool) :
    Inv env { s with
      idCount := s.idCount + 1
      conns := Function.update s.conns (s.idCount + 1) (some (.start env permission)) } := by
  have new := inv.fresh (s.idCount + 1) (by omega)
  have old {id : Int} {c : Conn}
      (here : Function.update s.conns (s.idCount + 1) (some (.start env permission)) id = some c) :
      id = s.idCount + 1 ∧ c = .start env permission ∨ s.conns id = some c := by
    by_cases same : id = s.idCount + 1
    · rw [same, Function.update_self] at here
      exact .inl ⟨same, (Option.some.inj here).symm⟩
    · rw [Function.update_of_ne same] at here
      exact .inr here
  refine ⟨inv.proper, fun id gone => ?_, fun id c here => ?_, fun id c here name => ?_,
    fun id c here served => ?_, fun id above => ?_⟩
  · have other : id ≠ s.idCount + 1 := by
      rintro rfl
      dsimp only at gone
      rw [Function.update_self] at gone
      cases gone
    dsimp only at gone
    rw [Function.update_of_ne other] at gone
    exact inv.gone id gone
  · rcases old here with ⟨-, rfl⟩ | before
    · have never {p : Prop} (yes : false = true) : p := absurd yes Bool.false_ne_true
      exact ⟨never, rfl, never, never⟩
    · exact inv.shape id c before
  · rcases old here with ⟨rfl, rfl⟩ | before
    · exact start_rule permission (inv.gone _ new name) name
    · exact inv.ruled id c before name
  · rcases old here with ⟨-, rfl⟩ | before
    · cases served
    · exact inv.primary id c before served
  · dsimp only at above ⊢
    rw [Function.update_of_ne (by omega)]
    exact inv.fresh id (by omega)

theorem inv_close (inv : Inv env s) (id : Int) :
    Inv env { s with
      conns := Function.update s.conns id none
      services := removeConnection s.services id } := by
  have changes := removeConnection_changes inv.proper.tidy id
  have left (name : ServiceName) {j : Int} (other : j ≠ id) :
      Subscribed (removeConnection s.services id) name j ↔ Subscribed s.services name j := by
    rw [changes.subscribed, if_neg other, Option.elim_none]
  have old {j : Int} {c : Conn} (here : Function.update s.conns id none j = some c) :
      j ≠ id ∧ s.conns j = some c := by
    by_cases same : j = id
    · rw [same, Function.update_self] at here
      cases here
    · rw [Function.update_of_ne same] at here
      exact ⟨same, here⟩
  refine ⟨inv.proper.changes changes, fun j gone name sub => ?_, fun j c here => ?_,
    fun j c here name => ?_, fun j c here served => ?_, fun j above => ?_⟩
  · by_cases same : j = id
    · have ended := (changes.subscribed name j).mp sub
      rw [if_pos same, Option.elim_some] at ended
      exact Bool.false_ne_true ended.1
    · dsimp only at gone
      rw [Function.update_of_ne same] at gone
      exact inv.gone j gone name ((left name same).mp sub)
  · exact inv.shape j c (old here).2
  · obtain ⟨other, before⟩ := old here
    exact (inv.ruled j c before name).congr (left name other)
  · exact (changes.offered _).mpr (inv.primary j c (old here).2 served)
  · by_cases same : j = id
    · subst same
      exact Function.update_self ..
    · exact (Function.update_of_ne same ..).trans (inv.fresh j above)

theorem inv_own (inv : Inv env s) {services : List (Service α)}
    (changes : Changes s.services services fun _ _ => none) :
    Inv env { s with services := services } := by
  have same (name : ServiceName) (id : Int) :
      Subscribed services name id ↔ Subscribed s.services name id :=
    changes.subscribed name id
  refine ⟨inv.proper.changes changes, fun id gone name sub => ?_, inv.shape,
    fun id c here name => ?_, fun id c here served => ?_, inv.fresh⟩
  · exact inv.gone id gone name ((same name id).mp sub)
  · exact (inv.ruled id c here name).congr (same name id)
  · exact (changes.offered _).mpr (inv.primary id c here served)

theorem inv_handler (inv : Inv env s) {id : Int} {c : Conn} (here : s.conns id = some c)
    {e : Event α} {f : Handling α → Handling α} (fits : Fits env id e f) :
    Inv env { s with
      conns := Function.update s.conns id (some (f ⟨c, s.services⟩).conn)
      services := (f ⟨c, s.services⟩).services } := by
  have handled := fits.handled _ (inv.good here)
  have serves := fits.serves _ (inv.good here)
  have left (name : ServiceName) {j : Int} (other : j ≠ id) :
      Subscribed (f ⟨c, s.services⟩).services name j ↔ Subscribed s.services name j :=
    handled.frame.apart name j fun same => absurd same other
  have old {j : Int} {d : Conn}
      (there : Function.update s.conns id (some (f ⟨c, s.services⟩).conn) j = some d) :
      j = id ∧ d = (f ⟨c, s.services⟩).conn ∨ j ≠ id ∧ s.conns j = some d := by
    by_cases same : j = id
    · rw [same, Function.update_self] at there
      exact .inl ⟨same, (Option.some.inj there).symm⟩
    · rw [Function.update_of_ne same] at there
      exact .inr ⟨same, there⟩
  refine ⟨handled.good.proper, fun j gone name sub => ?_, fun j d there => ?_,
    fun j d there name => ?_, fun j d there served => ?_, fun j above => ?_⟩
  · by_cases same : j = id
    · subst same
      dsimp only at gone
      rw [Function.update_self] at gone
      cases gone
    · dsimp only at gone
      rw [Function.update_of_ne same] at gone
      exact inv.gone j gone name ((left name same).mp sub)
  · rcases old there with ⟨-, rfl⟩ | ⟨-, before⟩
    · exact handled.good.shape
    · exact inv.shape j d before
  · rcases old there with ⟨rfl, rfl⟩ | ⟨other, before⟩
    · exact handled.good.ruled name List.not_mem_nil
    · exact (inv.ruled j d before name).congr (left name other)
  · rcases old there with ⟨rfl, rfl⟩ | ⟨-, before⟩
    · cases already : c.servicesSubed with
      | true => exact handled.frame.offers _ (inv.primary j c here already)
      | false => exact (serves.begins already served).2
    · exact handled.frame.offers _ (inv.primary j d before served)
  · by_cases same : j = id
    · subst same
      exact absurd ((inv.fresh j above).symm.trans here) (Option.some_ne_none c).symm
    · exact (Function.update_of_ne same ..).trans (inv.fresh j above)

/-- Every event keeps the rules of every connection. -/
theorem inv_step {e : Event α} (inv : Inv env s) (next : step env s e = some t) : Inv env t := by
  rcases step_cases next with ⟨permission, -, rfl⟩ | ⟨id, c, -, -, rfl⟩ |
    ⟨i, v, own, u, -, there, fine, runs, rfl⟩ | ⟨id, f, c, -, fits, here, rfl⟩
  · exact inv_connect inv permission
  · exact inv_close inv id
  · exact inv_own inv (own_changes inv.proper.tidy there fine runs)
  · exact inv_handler inv here fits

/-- Whatever the connection manager, the peers and the services do and in whatever order: after each
step every connection has the services that its rules allow and, once it is served, those that they
demand, and a connection that is gone has none. -/
theorem services_follow (α : Type) (env : Env) :
    (server α env).Always Machine.free fun _ _ t =>
      (∀ id, t.conns id = none → ∀ name, ¬Subscribed t.services name id) ∧
      ∀ id c, t.conns id = some c → ∀ name, Rule env c (Subscribed t.services name id) name :=
  Machine.Always.of_invariant (Inv env) (fun _ started => inv_start started)
    (fun _ _ _ inv _ next => inv_step inv next)
    fun _ _ _ inv _ next => ⟨(inv_step inv next).gone, (inv_step inv next).ruled⟩

/-- A connection with services is shown exactly the displays that it asked for, starting with the
primary one: no event about another connection, and none but its own display messages and its end,
ever changes them. -/
theorem displays_follow (α : Type) (env : Env) :
    (server α env).Always Machine.free fun s e t => ∀ id c, s.conns id = some c →
      (c.servicesSubed = true → shown t.services id =
        if e.conn = some id then asked c e (shown s.services id) else shown s.services id) ∧
      (c.servicesSubed = false → ∀ d, t.conns id = some d → d.servicesSubed = true →
        shown t.services id = insert (.monitor, env.primary) (shown s.services id)) := by
  refine Machine.Always.of_invariant (Inv env) (fun _ started => inv_start started)
    (fun _ _ _ inv _ next => inv_step inv next) fun s e t inv _ next id c here => ?_
  -- An event that leaves the connection as it is and what it is shown.
  have aside {u : State α} (other : e.conn ≠ some id) (kept : u.conns id = some c)
      (same : shown u.services id = shown s.services id) :
      (c.servicesSubed = true → shown u.services id =
        if e.conn = some id then asked c e (shown s.services id) else shown s.services id) ∧
      (c.servicesSubed = false → ∀ d, u.conns id = some d → d.servicesSubed = true →
        shown u.services id = insert (.monitor, env.primary) (shown s.services id)) := by
    refine ⟨fun _ => by rw [if_neg other, same], fun unserved d there served => ?_⟩
    obtain rfl := Option.some.inj (kept.symm.trans there)
    exact absurd (unserved.symm.trans served) Bool.false_ne_true
  rcases step_cases next with ⟨permission, about, rfl⟩ | ⟨j, b, rfl, -, rfl⟩ |
    ⟨i, v, own, u, about, there, fine, runs, rfl⟩ | ⟨j, f, b, about, fits, present, rfl⟩
  · have other : id ≠ s.idCount + 1 := by
      rintro rfl
      exact absurd ((inv.fresh _ (by omega)).symm.trans here) (Option.some_ne_none c).symm
    exact aside (by rw [about]; exact (Option.some_ne_none id).symm)
      ((Function.update_of_ne other ..).trans here) rfl
  · have changes := removeConnection_changes inv.proper.tidy j
    by_cases same : id = j
    · subst same
      refine ⟨fun _ => ?_, fun _ d there => ?_⟩
      · rw [if_pos (by rfl)]
        ext ⟨source, display⟩
        refine (changes.subscribed _ id).trans ?_
        rw [if_pos rfl, Option.elim_some]
        exact ⟨fun ended => absurd ended.1 Bool.false_ne_true, fun never => never.elim⟩
      · dsimp only at there
        rw [Function.update_self] at there
        cases there
    · refine aside (fun is => same (Option.some.inj is).symm)
        ((Function.update_of_ne same ..).trans here) ?_
      ext ⟨source, display⟩
      refine (changes.subscribed _ id).trans ?_
      rw [if_neg same, Option.elim_none]
      rfl
  · refine aside (by rw [about]; exact (Option.some_ne_none id).symm) here ?_
    ext ⟨source, display⟩
    exact (own_changes inv.proper.tidy there fine runs).subscribed _ id
  · by_cases same : id = j
    · subst same
      obtain rfl := Option.some.inj (present.symm.trans here)
      refine ⟨fun served => ?_, fun unserved d there served => ?_⟩
      · rw [if_pos about]
        exact fits.shows _ (inv.good here) served (inv.primary id b here served)
      · dsimp only at there
        rw [Function.update_self] at there
        obtain rfl := Option.some.inj there
        exact ((fits.serves _ (inv.good here)).begins unserved served).1
    · refine aside (fun is => same (Option.some.inj (is.symm.trans about)))
        ((Function.update_of_ne same ..).trans here) ?_
      ext ⟨source, display⟩
      exact (fits.handled _ (inv.good present)).frame.apart _ id fun is => absurd is same

end Inv

end ChainRemote.Server.Subscriptions
