import ChainRemote.Server.SubscriptionRuns
import Mathlib.Data.Set.Insert

/-!
# The voice calls and the displays of a connection

Voice calls and display messages keep the rules as well. Which displays a connection is shown is a
set, and the messages are what sets are for: one more, only these, these instead.
-/

namespace ChainRemote.Server.Subscriptions

variable {α : Type}

section Handlers

variable {env : Env} {id : Int} {touched : ServiceName → Prop} {h : Handling α} {c : Conn}

/-- A change of the connection that no rule reads. -/
theorem Good.conn (good : Good env id h) (c : Conn) (shape : Shape c)
    (kept : ∀ name p, Rule env h.conn p name → Rule env c p name) :
    Handled env id touched h { h with conn := c } :=
  ⟨⟨good.proper, shape, fun name outside => kept name _ (good.ruled name outside)⟩, Frame.refl _⟩

/-! ### Voice calls -/

/-- Only the audio of a camera connection follows a voice call. -/
theorem calls_kept (requested calling : Bool) (other : c.isAuthedViewCameraConn = false)
    (name : ServiceName) (p : Prop) (rule : Rule env c p name) :
    Rule env { c with voiceCallRequest := requested, voiceCalling := calling } p name := by
  have notCamera : c.connType ≠ some .viewCamera := beq_eq_false_iff_ne.mp other
  cases name with
  | audio => exact ⟨rule.1, fun isCamera => absurd isCamera notCamera, rule.2.2⟩
  | _ => exact rule

/-- The audio of a camera connection after a voice call began or ended. -/
theorem calls_handled (good : Good env id h) (authorized : h.conn.authorized = true)
    (camera : h.conn.isAuthedViewCameraConn = true) (requested calling : Bool) :
    Handled env id Plain h (Handling.subscribe id
      { h with conn := { h.conn with voiceCallRequest := requested, voiceCalling := calling } }
      .audio (h.conn.audioEnabled && calling)) := by
  obtain ⟨subed, typed, -, -⟩ := good.shape
  have isCamera : h.conn.connType = some .viewCamera := beq_iff_eq.mp camera
  have changed : Partly env id Plain h.services
      { h.conn with voiceCallRequest := requested, voiceCalling := calling }
      { h with conn := { h.conn with voiceCallRequest := requested, voiceCalling := calling } }
      [.audio] :=
    good.change _ fun name p outside rule => by
      cases name <;> first | exact rule | simp at outside
  have offered := (offered_iff good.proper .audio rfl).mpr (audio_mem env)
  refine (changed.subscribe rfl ⟨fun sub => ?_, fun _ => ?_, fun served => ?_⟩).handled
    ⟨subed, typed, fun _ => authorized, fun _ => authorized⟩
  · exact ⟨authorized, (Bool.and_eq_true_iff.mp sub.1).1⟩
  · rw [Bool.and_eq_true_iff]
    exact ⟨fun both => both.1, fun both => ⟨both, offered⟩⟩
  · have remote := good.shape.remote served
    rw [isCamera] at remote
    cases remote

theorem closeVoiceCall_handled (good : Good env id h) :
    Handled env id Plain h (closeVoiceCall id h) := by
  obtain ⟨subed, typed, requested, calling⟩ := good.shape
  have shape : Shape { h.conn with voiceCalling := false } :=
    ⟨subed, typed, requested, fun calls => by cases calls⟩
  change Handled env id Plain h (if h.conn.isAuthedViewCameraConn = true then
    Handling.subscribe id { h with conn := { h.conn with voiceCalling := false } } .audio false
    else { h with conn := { h.conn with voiceCalling := false } })
  cases camera : h.conn.isAuthedViewCameraConn with
  | true =>
    have authorized : h.conn.authorized = true := by
      by_contra not
      have isCamera : h.conn.connType = some .viewCamera := beq_iff_eq.mp camera
      rw [typed, if_neg not] at isCamera
      cases isCamera
    have handled := calls_handled good authorized camera h.conn.voiceCallRequest false
    rw [Bool.and_false] at handled
    rw [if_pos rfl]
    exact handled
  | false =>
    rw [if_neg Bool.false_ne_true]
    exact good.conn _ shape fun name p rule => calls_kept _ _ camera name p rule

theorem handleVoiceCall_handled (good : Good env id h) (accepted : Bool) :
    Handled env id Plain h (handleVoiceCall id accepted h) := by
  obtain ⟨subed, typed, requested, calling⟩ := good.shape
  by_cases request : h.conn.voiceCallRequest = true
  · have authorized := requested request
    have shape : Shape { h.conn with voiceCallRequest := false, voiceCalling := accepted } :=
      ⟨subed, typed, fun _ => authorized, fun _ => authorized⟩
    unfold handleVoiceCall
    rw [if_pos request]
    change Handled env id Plain h (if h.conn.isAuthedViewCameraConn = true then
      Handling.subscribe id
        { h with conn := { h.conn with voiceCallRequest := false, voiceCalling := accepted } }
        .audio (h.conn.audioEnabled && accepted)
      else { h with conn := { h.conn with voiceCallRequest := false, voiceCalling := accepted } })
    cases camera : h.conn.isAuthedViewCameraConn with
    | true =>
      rw [if_pos rfl]
      exact calls_handled good authorized camera false accepted
    | false =>
      rw [if_neg Bool.false_ne_true]
      exact good.conn _ shape fun name p rule => calls_kept _ _ camera name p rule
  · unfold handleVoiceCall
    rw [if_neg request]
    exact ⟨good, Frame.refl _⟩

theorem voiceCallRequest_handled (good : Good env id h) (authorized : h.conn.authorized = true)
    (isConnect : Bool) : Handled env id Plain h (voiceCallRequest id isConnect h) := by
  obtain ⟨subed, typed, requested, calling⟩ := good.shape
  cases isConnect with
  | false => exact closeVoiceCall_handled good
  | true =>
    refine good.conn _ ⟨subed, typed, fun _ => authorized, calling⟩ fun name p rule => ?_
    cases name <;> exact rule

/-! ### Displays -/

/-- The displays that a connection is shown. -/
def shown (services : List (Service α)) (id : Int) : Set (VideoSource × Nat) :=
  {display | Subscribed services (.video display.1 display.2) id}

/-- Only the subscriptions of an authorized connection to displays change. -/
theorem Changes.displays_handled {services : List (Service α)}
    {change : ServiceName → Int → Option Bool} (changes : Changes h.services services change)
    (good : Good env id h) (authorized : h.conn.authorized = true)
    (only : ∀ name j, name.isVideo = false ∨ j ≠ id → change name j = none) :
    Handled env id (·.isVideo = true) h { h with services := services } := by
  have aside (name : ServiceName) (j : Int) (apart : name.isVideo = false ∨ j ≠ id) :
      Subscribed services name j ↔ Subscribed h.services name j := by
    rw [changes.subscribed, only name j apart, Option.elim_none]
  refine ⟨⟨good.proper.changes changes, good.shape, fun name outside => ?_⟩,
    fun name j apart => aside name j ?_, fun name => (changes.offered name).mpr⟩
  · by_cases plain : name.isVideo = false
    · exact (good.ruled name outside).congr (aside name id (.inl plain))
    · cases name with
      | video source display => exact fun _ => authorized
      | _ => exact absurd rfl plain
  · by_cases same : j = id
    · exact .inl (Bool.eq_false_iff.mpr (apart same))
    · exact .inr same

/-- A new video service has no subscribers. -/
theorem addVideo_handled (good : Good env id h) (source : VideoSource) (display : Nat) :
    Handled env id touched h
      { h with services := addMissing h.services (.video source display) } := by
  refine ⟨⟨⟨tidy_addMissing good.proper.tidy _, fun name plain => ?_⟩, good.shape,
    fun name outside => ?_⟩, fun name j _ => subscribed_addMissing _ name j,
    fun name offered => (offered_addMissing _ name).mpr (.inr offered)⟩
  · have other : name ≠ .video source display := by
      rintro rfl
      cases plain
    refine Iff.trans ?_ (good.proper.offered name plain)
    refine (offered_addMissing _ name).trans ⟨fun either => ?_, .inr⟩
    exact either.resolve_left other
  · exact (good.ruled name outside).congr (subscribed_addMissing _ name id)

theorem subscribeVideo_handled (good : Good env id h) (authorized : h.conn.authorized = true)
    (source : VideoSource) (display : Nat) (sub : Bool) :
    Handled env id (·.isVideo = true) h (h.subscribe id (.video source display) sub) := by
  refine (subscribe_changes good.proper.tidy _ id sub).displays_handled good authorized
    fun name j apart => if_neg ?_
  rintro ⟨rfl, rfl⟩
  rcases apart with plain | other
  · cases plain
  · exact other rfl

/-- The connection knows its display; no rule reads which one. -/
theorem displayIdx_handled (good : Good env id h) (display : Nat) :
    Handled env id touched h { h with conn := { h.conn with displayIdx := display } } := by
  obtain ⟨subed, typed, requested, calling⟩ := good.shape
  refine good.conn _ ⟨subed, typed, requested, calling⟩ fun name p rule => ?_
  cases name <;> exact rule

theorem handleSwitchDisplay_handled (good : Good env id h) (authorized : h.conn.authorized = true)
    (display : Nat) :
    Handled env id (·.isVideo = true) h (handleSwitchDisplay env id display h) := by
  unfold handleSwitchDisplay
  split
  · have added : Handled env id (·.isVideo = true) h { h with
        services := if display ≠ env.primary then
            addMissing h.services (.video h.conn.videoSource display)
          else h.services } := by
      split
      · exact addVideo_handled good _ _
      · exact ⟨good, Frame.refl _⟩
    unfold switchDisplayTo
    dsimp only
    split
    · have subed := added.trans
        (subscribeVideo_handled added.good authorized h.conn.videoSource display true)
      exact subed.trans (displayIdx_handled subed.good display)
    · have left := added.trans
        (subscribeVideo_handled added.good authorized h.conn.videoSource h.conn.displayIdx false)
      have subed := left.trans
        (subscribeVideo_handled left.good authorized h.conn.videoSource display true)
      exact subed.trans (displayIdx_handled subed.good display)
  · exact ⟨good, Frame.refl _⟩

/-- A connection's displays after `subscribe`, of a service that there is. -/
theorem shown_subscribe {services : List (Service α)} (tidy : ∀ v ∈ services, Tidy v)
    (source : VideoSource) (display : Nat) (sub : Bool)
    (there : sub = true → Offered services (.video source display)) :
    shown (subscribe services (.video source display) id sub) id =
      if sub then insert (source, display) (shown services id)
      else shown services id \ {(source, display)} := by
  have changes := subscribe_changes tidy (.video source display) id sub
  ext ⟨other, d⟩
  refine (changes.subscribed _ _).trans ?_
  by_cases same : (other, d) = (source, display)
  · obtain ⟨rfl, rfl⟩ := Prod.mk.inj same
    rw [if_pos ⟨rfl, rfl⟩, Option.elim_some]
    cases sub with
    | true =>
      rw [if_pos rfl]
      exact ⟨fun _ => Set.mem_insert _ _, fun _ => ⟨rfl, there rfl⟩⟩
    | false =>
      rw [if_neg Bool.false_ne_true]
      exact ⟨fun given => absurd given.1 Bool.false_ne_true, fun given => absurd rfl given.2⟩
  · have differs : ¬(ServiceName.video other d = .video source display ∧ id = id) := by
      rintro ⟨is, -⟩
      obtain ⟨rfl, rfl⟩ := ServiceName.video.inj is
      exact same rfl
    rw [if_neg differs, Option.elim_none]
    cases sub with
    | true =>
      rw [if_pos rfl]
      exact ⟨fun old => .inr old, fun either => either.resolve_left same⟩
    | false =>
      rw [if_neg Bool.false_ne_true]
      exact ⟨fun old => ⟨old, same⟩, fun both => both.1⟩

theorem shown_addMissing (services : List (Service α)) (name : ServiceName) (j : Int) :
    shown (addMissing services name) j = shown services j := by
  ext ⟨source, display⟩
  exact subscribed_addMissing name _ j

/-- A switch shows the new display, and for a peer with one display at a time ends the old one. -/
theorem handleSwitchDisplay_shown (tidy : ∀ v ∈ h.services, Tidy v)
    (there : Offered h.services (.video h.conn.videoSource env.primary)) (display : Nat)
    (other : h.conn.displayIdx ≠ display) :
    shown (handleSwitchDisplay env id display h).services id =
      insert (h.conn.videoSource, display)
        (if h.conn.multiUi then shown h.services id
          else shown h.services id \ {(h.conn.videoSource, h.conn.displayIdx)}) := by
  unfold handleSwitchDisplay
  rw [if_pos other]
  unfold switchDisplayTo
  dsimp only
  generalize added : (if display ≠ env.primary then
    addMissing h.services (.video h.conn.videoSource display) else h.services) = services
  have known : (∀ v ∈ services, Tidy v) ∧ shown services id = shown h.services id ∧
      Offered services (.video h.conn.videoSource display) := by
    subst added
    split
    · exact ⟨tidy_addMissing tidy _, shown_addMissing _ _ _,
        (offered_addMissing _ _).mpr (.inl rfl)⟩
    · rename_i primary
      obtain rfl := not_not.mp primary
      exact ⟨tidy, rfl, there⟩
  obtain ⟨tidy, same, offered⟩ := known
  cases multi : h.conn.multiUi with
  | true =>
    rw [if_pos rfl, if_pos rfl, ← same]
    exact shown_subscribe tidy _ _ true fun _ => offered
  | false =>
    rw [if_neg Bool.false_ne_true, if_neg Bool.false_ne_true, ← same]
    have left := subscribe_changes tidy (.video h.conn.videoSource h.conn.displayIdx) id false
    have ended : shown (subscribe services (.video h.conn.videoSource h.conn.displayIdx) id false)
        id = shown services id \ {(h.conn.videoSource, h.conn.displayIdx)} :=
      shown_subscribe tidy _ _ false fun sub => absurd sub Bool.false_ne_true
    rw [← ended]
    exact shown_subscribe left.tidy _ _ true fun _ => (left.offered _).mpr offered

theorem addVideos_handled (good : Good env id h) (source : VideoSource) (displays : List Nat) :
    Handled env id touched h
      { h with
        services := (displays.map (ServiceName.video source)).foldl addMissing h.services } := by
  induction displays generalizing h with
  | nil => exact ⟨good, Frame.refl _⟩
  | cons display rest ih =>
    have first : Handled env id touched h _ := addVideo_handled good source display
    exact first.trans (ih first.good)

theorem shown_addVideos (services : List (Service α)) (names : List ServiceName) (j : Int) :
    shown (names.foldl addMissing services) j = shown services j := by
  induction names generalizing services with
  | nil => rfl
  | cons name rest ih => exact (ih _).trans (shown_addMissing services name j)

theorem offered_addVideos (services : List (Service α)) (names : List ServiceName)
    (name : ServiceName) : Offered (names.foldl addMissing services) name ↔
      name ∈ names ∨ Offered services name := by
  induction names generalizing services with
  | nil => simp
  | cons first rest ih =>
    rw [List.foldl_cons, ih, offered_addMissing, List.mem_cons]
    tauto

/-- What the lists of a `CaptureDisplays` ask for: `add` is shown too, or of what is shown only
`sub` remains, or `set` takes its place. -/
def captured (source : VideoSource) (add sub set : List Nat) (before : Set (VideoSource × Nat)) :
    Set (VideoSource × Nat) :=
  if add ≠ [] then before ∪ {display | display.1 = source ∧ display.2 ∈ add}
  else if sub ≠ [] then before ∩ {display | display.1 = source ∧ display.2 ∈ sub}
  else {display | display.1 = source ∧ display.2 ∈ set}

/-- A connection's displays after `Server::capture_displays`. -/
theorem shown_captureDisplays {services : List (Service α)} (tidy : ∀ v ∈ services, Tidy v)
    (source : VideoSource) (displays : List Nat) (including excluding : Bool)
    (there : including = true → ∀ display ∈ displays, Offered services (.video source display)) :
    shown (captureDisplays services id (displays.map (ServiceName.video source)) including
        excluding) id =
      {display | if display.1 = source ∧ display.2 ∈ displays then
        including = true ∨ display ∈ shown services id
        else excluding = false ∧ display ∈ shown services id} := by
  have changes := captureDisplays_changes tidy id (displays.map (ServiceName.video source))
    including excluding
  ext ⟨other, d⟩
  have listed : ServiceName.video other d ∈ displays.map (ServiceName.video source) ↔
      other = source ∧ d ∈ displays := by
    rw [List.mem_map]
    constructor
    · rintro ⟨e, inside, is⟩
      obtain ⟨rfl, rfl⟩ := ServiceName.video.inj is
      exact ⟨rfl, inside⟩
    · rintro ⟨rfl, inside⟩
      exact ⟨d, inside, rfl⟩
  refine (changes.subscribed _ _).trans ?_
  rw [if_pos ⟨rfl, rfl⟩, Set.mem_ofPred_eq]
  by_cases inside : other = source ∧ d ∈ displays
  · rw [if_pos (listed.mpr inside), if_pos inside]
    cases including with
    | true =>
      obtain ⟨rfl, asked⟩ := inside
      exact ⟨fun _ => .inl rfl, fun _ => ⟨rfl, there rfl d asked⟩⟩
    | false => exact ⟨.inr, fun either => either.resolve_left Bool.false_ne_true⟩
  · rw [if_neg fun name => inside (listed.mp name), if_neg inside]
    cases excluding with
    | true => exact ⟨fun given => absurd given.1 Bool.false_ne_true, fun given => by cases given.1⟩
    | false => exact ⟨fun old => ⟨rfl, old⟩, fun given => given.2⟩

/-- The focus follows the number of displays. -/
theorem multiUiSession_handled (good : Good env id h) (multi : Bool) :
    Handled env id (· = .windowFocus) h
      (if h.conn.followRemoteWindow then
        Handling.subscribe id { h with conn := { h.conn with multiUiSession := multi } }
          .windowFocus (!multi)
      else { h with conn := { h.conn with multiUiSession := multi } }) := by
  obtain ⟨subed, typed, requested, calling⟩ := good.shape
  cases follows : h.conn.followRemoteWindow with
  | true =>
    have changed : Partly env id (· = .windowFocus)
        h.services { h.conn with multiUiSession := multi }
        { h with conn := { h.conn with multiUiSession := multi } } [.windowFocus] :=
      good.change _ fun name p outside rule => by
        cases name <;> first | exact rule | simp at outside
    rw [if_pos rfl]
    refine (changed.subscribe rfl ⟨fun _ => follows, fun _ there _ single => ?_⟩).handled
      ⟨subed, typed, requested, calling⟩
    refine ⟨?_, (offered_iff changed.proper .windowFocus rfl).mpr there⟩
    have only : multi = false := single
    rw [only]
    rfl
  | false =>
    rw [if_neg Bool.false_ne_true]
    refine good.conn _ ⟨subed, typed, requested, calling⟩ fun name p rule => ?_
    cases name with
    | windowFocus =>
      exact ⟨rule.1, fun _ _ must => absurd (follows.symm.trans must) Bool.false_ne_true⟩
    | _ => exact rule

/-- What `Connection::capture_displays` does before it counts. -/
def capturing (id : Int) (add sub set : List Nat) (h : Handling α) : List (Service α) :=
  let name := ServiceName.video h.conn.videoSource
  let services := (add.map name).foldl addMissing h.services
  let services := (set.map name).foldl addMissing services
  if add ≠ [] then Subscriptions.captureDisplays services id (add.map name) true false
  else if sub ≠ [] then Subscriptions.captureDisplays services id (sub.map name) false true
  else Subscriptions.captureDisplays services id (set.map name) true true

theorem capturing_handled (good : Good env id h) (authorized : h.conn.authorized = true)
    (add sub set : List Nat) :
    Handled env id (·.isVideo = true) h { h with services := capturing id add sub set h } := by
  have first : Handled env id (·.isVideo = true) h _ :=
    addVideos_handled good h.conn.videoSource add
  have second : Handled env id (·.isVideo = true) h _ :=
    first.trans (addVideos_handled first.good h.conn.videoSource set)
  have last (displays : List ServiceName) (including excluding : Bool) :=
    second.trans ((captureDisplays_changes second.good.proper.tidy id displays including
      excluding).displays_handled second.good authorized fun name j apart => if_neg fun both =>
        apart.elim (fun plain => Bool.false_ne_true (plain.symm.trans both.1)) (· both.2))
  unfold capturing
  dsimp only
  split
  · exact last _ true false
  · split
    · exact last _ false true
    · exact last _ true true

theorem captureDisplays_handled (good : Good env id h) (authorized : h.conn.authorized = true)
    (add sub set : List Nat) :
    Handled env id (fun name => name.isVideo = true ∨ name = .windowFocus) h
      (Handling.captureDisplays id add sub set h) := by
  have taken := capturing_handled good authorized add sub set
  have counted := multiUiSession_handled taken.good
    (decide (getSubbedDisplaysCount (capturing id add sub set h) id > 1))
  exact (taken.wider fun _ => .inl).trans (counted.wider fun _ => .inr)

/-- A handler that touches no displays leaves what every connection is shown. -/
theorem Frame.shown {services after : List (Service α)} (frame : Frame id touched services after)
    (other : ∀ name, touched name → name.isVideo = false) (j : Int) :
    shown after j = shown services j := by
  ext ⟨source, display⟩
  exact frame.apart _ j fun _ touches => Bool.false_ne_true (other _ touches).symm

/-- The displays after a `CaptureDisplays` are what its lists ask for. -/
theorem captureDisplays_shown (good : Good env id h) (authorized : h.conn.authorized = true)
    (add sub set : List Nat) :
    shown (Handling.captureDisplays id add sub set h).services id =
      captured h.conn.videoSource add sub set (shown h.services id) := by
  have taken := capturing_handled good authorized add sub set
  have counted := multiUiSession_handled taken.good
    (decide (getSubbedDisplaysCount (capturing id add sub set h) id > 1))
  have focus : shown (Handling.captureDisplays id add sub set h).services id =
      shown (capturing id add sub set h) id :=
    counted.frame.shown (by rintro _ rfl; rfl) id
  rw [focus]
  -- The services as they are when the displays are captured.
  have first : Handled env id (fun _ => False) h _ :=
    addVideos_handled good h.conn.videoSource add
  have second : Handled env id (fun _ => False) _ _ :=
    addVideos_handled first.good h.conn.videoSource set
  unfold capturing captured
  dsimp only at second ⊢
  generalize made : (set.map (ServiceName.video h.conn.videoSource)).foldl addMissing
    ((add.map (ServiceName.video h.conn.videoSource)).foldl addMissing h.services) = services
  have same : shown services id = shown h.services id := by
    rw [← made, shown_addVideos, shown_addVideos]
  have offered (display : Nat) : display ∈ add ∨ display ∈ set →
      Offered services (.video h.conn.videoSource display) := by
    intro either
    rw [← made, offered_addVideos, offered_addVideos]
    rcases either with inAdd | inSet
    · exact .inr (.inl (List.mem_map_of_mem inAdd))
    · exact .inl (List.mem_map_of_mem inSet)
  have tidy : ∀ v ∈ services, Tidy v := made ▸ second.good.proper.tidy
  split
  · rw [shown_captureDisplays tidy _ add true false fun _ d inside => offered d (.inl inside), same]
    ext display
    by_cases listed : display.1 = h.conn.videoSource ∧ display.2 ∈ add
    · simp only [Set.mem_union, Set.mem_ofPred_eq, if_pos listed]
      tauto
    · simp only [Set.mem_union, Set.mem_ofPred_eq, if_neg listed]
      tauto
  · split
    · rw [shown_captureDisplays tidy _ sub false true fun no => absurd no Bool.false_ne_true, same]
      ext display
      by_cases listed : display.1 = h.conn.videoSource ∧ display.2 ∈ sub
      · simp only [Set.mem_inter_iff, Set.mem_ofPred_eq, if_pos listed]
        tauto
      · simp only [Set.mem_inter_iff, Set.mem_ofPred_eq, if_neg listed]
        tauto
    · rw [shown_captureDisplays tidy _ set true true fun _ d inside => offered d (.inr inside),
        same]
      ext display
      by_cases listed : display.1 = h.conn.videoSource ∧ display.2 ∈ set
      · simp only [Set.mem_ofPred_eq, if_pos listed]
        tauto
      · simp only [Set.mem_ofPred_eq, if_neg listed]
        tauto

end Handlers

end ChainRemote.Server.Subscriptions
