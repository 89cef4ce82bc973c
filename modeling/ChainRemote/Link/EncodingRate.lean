import ChainRemote.Hq.FpsControl
import ChainRemote.Server.FrameRate

/-!
# Encoding no faster than decoding

A viewer asks for frame rates below what its slowest display decodes, or for what its user chooses;
the requests arrive in their order, and the host goes by the last of them whatever its other viewers
and the delays of the network are.
-/

namespace ChainRemote.Link.EncodingRate

open Lib Hq.FpsControl Server.FrameRate

/-- A rate that the viewer has asked for by itself, and what its slowest display decoded then. -/
structure Asked where
  rate : Nat
  slowest : Nat
deriving DecidableEq, Repr

/-- A viewer, its requests on the way, and the host. -/
structure State where
  viewer : Session
  /-- `custom_fps` of the options that are on their way. -/
  onTheWay : List Int
  host : VideoQoS
  /-- What the viewer asked for last, where the user has not chosen a rate since. -/
  last : Option Asked := none

/-- What can happen. -/
inductive Event
  | tick (direct : Bool) (tick : Tick)
  | measure (thread : VideoThread)
  | newVideoThread (display : Nat)
  | dropVideoThread (display : Nat)
  /-- The user chooses a rate. -/
  | setCustomFps (fps : Int)
  | arrive
  /-- Another call on the host. -/
  | host (e : Server.FrameRate.Event)

/-- A thread takes what is measured of it. -/
def Session.measure (thread : VideoThread) (session : Session) : Session :=
  { session with
    videoThreads := session.videoThreads.map fun other =>
      if other.display = thread.display then
        { other with queued := thread.queued, decodeFps := thread.decodeFps }
      else other }

/-- `video_threads.remove`. -/
def Session.dropVideoThread (display : Nat) (session : Session) : Session :=
  { session with videoThreads := session.videoThreads.filter fun thread => thread.display ≠ display }

/-- `new_video_thread`. -/
def Session.newVideoThread (display : Nat) (session : Session) : Session :=
  let others := Session.dropVideoThread display session
  { others with videoThreads := others.videoThreads ++ [{ display }] }

/-- `custom_fps` of the options of a viewer, on the host. -/
def updateCustomFps (id : Int) (customFps : Int) (host : VideoQoS) : VideoQoS :=
  if customFps > 0 then host.userCustomFps id customFps.toNat else host

/-- The slowest decoder that a tick goes by. -/
def slowestActive (session : Session) (tick : Tick) : Option Nat :=
  minDecodeFps (session.videoThreads.map (VideoThread.count tick.realFpsMap))

def step (id : Int) (s : State) : Event → Option State
  | .tick direct tick =>
    let controlled := s.viewer.fpsControl direct tick.realFpsMap tick.now
    match controlled.request, slowestActive s.viewer tick with
    | some rate, some slowest =>
      some { s with
        viewer := controlled.session
        onTheWay := s.onTheWay ++ [(rate : Int)]
        last := some { rate, slowest } }
    | _, _ => some { s with viewer := controlled.session }
  | .measure thread => some { s with viewer := Session.measure thread s.viewer }
  | .newVideoThread display => some { s with viewer := Session.newVideoThread display s.viewer }
  | .dropVideoThread display => some { s with viewer := Session.dropVideoThread display s.viewer }
  | .setCustomFps fps =>
    some { s with
      viewer := { s.viewer with customFps := some (fps % 18446744073709551616).toNat }
      onTheWay := s.onTheWay ++ [fps]
      last := none }
  | .arrive =>
    match s.onTheWay with
    | [] => none
    | fps :: onTheWay => some { s with onTheWay, host := updateCustomFps id fps s.host }
  | .host e => (videoQos.step s.host e).map fun host => { s with host }

/-- A viewer that has just connected, with options that it may have sent already. -/
def viewing (id : Int) : Machine State Event where
  start s := s.last = none ∧ ∃ host now, s.host = VideoQoS.onConnectionOpen host id now
  step := step id

/-- The viewer stays connected, and only its own options set its rate. -/
def Stays (id : Int) (_ : State) : Event → Prop
  | .host (.open other _) => other ≠ id
  | .host (.close other _) => other ≠ id
  | .host (.customFps other _) => other ≠ id
  | _ => True

theorem customLimit_le (customFps : Option Nat) : customLimit customFps ≤ 120 := by
  unfold customLimit
  dsimp only
  split
  · decide
  · rename_i inside
    omega

theorem limitedFps_le (direct : Bool) (slowest : Nat) (customFps : Option Nat) :
    limitedFps direct slowest (customLimit customFps) ≤ 120 ∧
      limitedFps direct slowest (customLimit customFps) ≤ slowest * 9 / 10 := by
  have most := customLimit_le customFps
  unfold limitedFps
  cases direct with
  | true => grind
  | false => grind

/-- A request of a tick is for a rate that the host takes and that is below the slowest decoder. -/
theorem request_bounds {session : Session} {direct : Bool} {tick : Tick} {rate slowest : Nat}
    (asked : (session.fpsControl direct tick.realFpsMap tick.now).request = some rate)
    (known : slowestActive session tick = some slowest) :
    1 ≤ rate ∧ rate ≤ 120 ∧ rate ≤ max 1 (slowest * 9 / 10) := by
  unfold slowestActive at known
  unfold Session.fpsControl at asked
  dsimp only at asked
  rw [known] at asked
  dsimp only at asked
  obtain ⟨most, below⟩ := limitedFps_le direct slowest session.customFps
  split at asked
  · have is := Option.some.inj asked
    have bounds := autoFps_bounds
      (((session.videoThreads.map (VideoThread.count tick.realFpsMap)).map
        (VideoThread.trending (session.lastAutoFps.getD (customLimit session.customFps))
          (limitedFps direct slowest (customLimit session.customFps)))).any
            fun trending => trending.1 = some false)
      (limitedFps direct slowest (customLimit session.customFps))
      (maxQueueLen (session.videoThreads.map (VideoThread.count tick.realFpsMap)))
    rw [is] at bounds
    omega
  · cases asked

/-! ## The host -/

/-- What the host knows of a viewer. -/
structure Entry (id : Int) (customFps : Option Nat) (host : VideoQoS) : Prop where
  present : ∃ user, (id, user) ∈ host.users
  custom : ∀ user, (id, user) ∈ host.users → user.customFps = customFps
  auto : ∀ user, (id, user) ∈ host.users → ∀ autoAdjustFps ∈ user.autoAdjustFps, 1 ≤ autoAdjustFps

/-- What a rate on its way makes of the one before. -/
def heed (customFps : Option Nat) (fps : Int) : Option Nat :=
  if 1 ≤ fps ∧ fps ≤ 120 then some fps.toNat else customFps

section Host

variable {id other : Int} {customFps : Option Nat} {host next : VideoQoS}

theorem mem_modify {change : UserData → UserData} {user : UserData}
    (listed : (id, user) ∈ (host.modify other change).users) :
    ∃ before, (id, before) ∈ host.users ∧ user = if id = other then change before else before := by
  obtain ⟨⟨key, before⟩, there, is⟩ := List.mem_map.mp listed
  dsimp only at is
  split at is
  · rename_i same
    obtain ⟨rfl, rfl⟩ := Prod.mk.inj is
    exact ⟨before, there, (if_pos (beq_iff_eq.mp same)).symm⟩
  · rename_i different
    obtain ⟨rfl, rfl⟩ := Prod.mk.inj is
    refine ⟨before, there, (if_neg ?_).symm⟩
    exact fun same => different (beq_iff_eq.mpr same)

/-- A change of some viewer that says what becomes of this one. -/
theorem Entry.modify (entry : Entry id customFps host) {change : UserData → UserData}
    {changed : Option Nat}
    (custom : ∀ user, user.customFps = customFps →
      (if id = other then change user else user).customFps = changed)
    (auto : ∀ user, (∀ rate ∈ user.autoAdjustFps, 1 ≤ rate) →
      ∀ rate ∈ (change user).autoAdjustFps, 1 ≤ rate) :
    Entry id changed (host.modify other change) where
  present := by
    obtain ⟨user, there⟩ := entry.present
    refine ⟨if id = other then change user else user, List.mem_map.mpr ⟨(id, user), there, ?_⟩⟩
    dsimp only
    split
    · rename_i same
      rw [if_pos (beq_iff_eq.mp same)]
    · rename_i different
      rw [if_neg fun same => different (beq_iff_eq.mpr same)]
  custom := by
    intro user listed
    obtain ⟨before, there, rfl⟩ := mem_modify listed
    exact custom before (entry.custom before there)
  auto := by
    intro user listed rate
    obtain ⟨before, there, rfl⟩ := mem_modify listed
    split
    · exact auto before (entry.auto before there) rate
    · exact entry.auto before there rate

/-- A change that leaves the rates that are asked for. -/
theorem Entry.leave (entry : Entry id customFps host) {change : UserData → UserData}
    (custom : ∀ user, (change user).customFps = user.customFps)
    (auto : ∀ user, (change user).autoAdjustFps = user.autoAdjustFps) :
    Entry id customFps (host.modify other change) := by
  refine entry.modify ?_ ?_
  · intro user is
    split
    · rw [custom, is]
    · exact is
  · intro user low rate asked
    rw [auto] at asked
    exact low rate asked

/-- The rate of the host is no part of what it knows of a viewer. -/
theorem Entry.adjust (entry : Entry id customFps host) (now : Nat) :
    Entry id customFps (host.adjustFps now) :=
  ⟨entry.present, entry.custom, entry.auto⟩

theorem Entry.arrive (entry : Entry id customFps host) (fps : Int) :
    Entry id (heed customFps fps) (updateCustomFps id fps host) := by
  unfold heed updateCustomFps VideoQoS.userCustomFps minFps maxFps
  by_cases taken : 1 ≤ fps ∧ fps ≤ 120
  · rw [if_pos taken, if_pos (by omega), if_neg (by omega)]
    refine entry.modify ?_ fun user low => low
    intro user _
    rw [if_pos rfl]
  · rw [if_neg taken]
    split
    · rw [if_pos (by omega)]
      exact entry
    · exact entry

theorem Entry.step (entry : Entry id customFps host) {s : State} {e : Server.FrameRate.Event}
    (stays : Stays id s (.host e)) (stepped : videoQos.step host e = some next) :
    Entry id customFps next := by
  cases e with
  | «open» other now =>
    obtain rfl := Option.some.inj stepped
    have different : other ≠ id := stays
    have kept : ∀ user, (id, user) ∈ (host.onConnectionOpen other now).users ↔
        (id, user) ∈ host.users := by
      intro user
      simp only [VideoQoS.onConnectionOpen, List.mem_append, List.mem_filter,
        List.mem_singleton, Prod.mk.injEq, decide_eq_true_eq]
      grind
    obtain ⟨user, there⟩ := entry.present
    exact ⟨⟨user, (kept user).mpr there⟩, fun user listed => entry.custom user ((kept user).mp listed),
      fun user listed => entry.auto user ((kept user).mp listed)⟩
  | close other now =>
    obtain rfl := Option.some.inj stepped
    have different : other ≠ id := stays
    obtain ⟨user, there⟩ := entry.present
    have kept : ∀ user, (id, user) ∈ host.users.filter (fun user => user.1 ≠ other) ↔
        (id, user) ∈ host.users := by
      intro user
      simp only [List.mem_filter, decide_eq_true_eq]
      grind
    have some : (host.users.filter fun user => user.1 ≠ other).isEmpty = false := by
      rw [List.isEmpty_eq_false_iff]
      exact List.ne_nil_of_mem ((kept user).mpr there)
    unfold VideoQoS.onConnectionClose
    dsimp only
    rw [some, if_neg Bool.false_ne_true]
    exact ⟨⟨user, (kept user).mpr there⟩,
      fun user listed => entry.custom user ((kept user).mp listed),
      fun user listed => entry.auto user ((kept user).mp listed)⟩
  | customFps other fps =>
    obtain rfl := Option.some.inj stepped
    have different : other ≠ id := stays
    unfold VideoQoS.userCustomFps
    split
    · exact entry
    · refine entry.modify ?_ fun user low => low
      intro user is
      rw [if_neg (Ne.symm different)]
      exact is
  | autoAdjustFps other fps =>
    obtain rfl := Option.some.inj stepped
    unfold VideoQoS.userAutoAdjustFps
    split
    · exact entry
    · rename_i inside
      refine entry.modify ?_ ?_
      · intro user is
        split <;> exact is
      · intro user _ rate asked
        obtain rfl := Option.some.inj asked
        unfold minFps at inside
        omega
  | imageQuality other time imageQuality =>
    obtain rfl := Option.some.inj stepped
    exact entry.leave (fun _ => rfl) fun _ => rfl
  | networkDelay other delay now =>
    obtain rfl := Option.some.inj stepped
    have changed : host.userNetworkDelay other delay now = (host.modify other fun user =>
        user.networkDelay host.highestFps host.qualityFps.1 host.qualityFps.2 host.fps
          delay).adjustFps now := rfl
    show Entry id customFps (host.userNetworkDelay other delay now)
    rw [changed]
    refine Entry.adjust (entry.leave ?_ ?_) now
    · intro user
      unfold UserData.networkDelay
      rfl
    · intro user
      unfold UserData.networkDelay
      rfl
  | responseElapsed other elapsed now =>
    obtain rfl := Option.some.inj stepped
    unfold VideoQoS.userDelayResponseElapsed
    dsimp only
    split
    · refine Entry.adjust (entry.leave ?_ ?_) now
      · exact fun _ => rfl
      · exact fun _ => rfl
    · exact entry.leave (fun _ => rfl) fun _ => rfl
  | displayData now =>
    obtain rfl := Option.some.inj stepped
    exact entry.adjust now
  | order users =>
    unfold videoQos at stepped
    dsimp only at stepped
    split at stepped
    · rename_i same
      obtain rfl := Option.some.inj stepped
      obtain ⟨user, there⟩ := entry.present
      exact ⟨⟨user, same.mem_iff.mpr there⟩,
        fun user listed => entry.custom user (same.mem_iff.mp listed),
        fun user listed => entry.auto user (same.mem_iff.mp listed)⟩
    · cases stepped

end Host

/-! ## Both sides -/

/-- What has been asked for is what the host will go by. -/
def Heeded (id : Int) (s : State) : Prop :=
  ∃ customFps, Entry id customFps s.host ∧ ∀ asked ∈ s.last,
    s.onTheWay.foldl heed customFps = some asked.rate ∧ 1 ≤ asked.rate ∧
      asked.rate ≤ max 1 (asked.slowest * 9 / 10)

section Runs

variable {id : Int} {s t : State}

theorem Heeded.start (started : (viewing id).start s) : Heeded id s := by
  obtain ⟨quiet, host, now, opened⟩ := started
  have listed : ∀ user, (id, user) ∈ s.host.users ↔ user = {} := by
    intro user
    rw [opened]
    simp [VideoQoS.onConnectionOpen]
  refine ⟨none, ⟨⟨{}, (listed _).mpr rfl⟩, ?_, ?_⟩, ?_⟩
  · intro user there
    rw [(listed user).mp there]
  · intro user there
    rw [(listed user).mp there]
    exact nofun
  · rw [quiet]
    exact nofun

theorem Heeded.step {e : Event} (heeded : Heeded id s) (stays : Stays id s e)
    (stepped : step id s e = some t) : Heeded id t := by
  obtain ⟨customFps, entry, last⟩ := heeded
  cases e with
  | tick direct tick =>
    simp only [EncodingRate.step] at stepped
    split at stepped
    · rename_i rate slowest asked known
      obtain rfl := Option.some.inj stepped
      obtain ⟨low, high, slow⟩ := request_bounds asked known
      refine ⟨customFps, entry, ?_⟩
      intro word is
      obtain rfl := Option.some.inj is
      refine ⟨?_, low, slow⟩
      rw [List.foldl_append]
      show heed _ (rate : Int) = some rate
      unfold heed
      rw [if_pos (by omega), Int.toNat_natCast]
    · obtain rfl := Option.some.inj stepped
      exact ⟨customFps, entry, last⟩
  | measure thread =>
    obtain rfl := Option.some.inj stepped
    exact ⟨customFps, entry, last⟩
  | newVideoThread display =>
    obtain rfl := Option.some.inj stepped
    exact ⟨customFps, entry, last⟩
  | dropVideoThread display =>
    obtain rfl := Option.some.inj stepped
    exact ⟨customFps, entry, last⟩
  | setCustomFps fps =>
    obtain rfl := Option.some.inj stepped
    exact ⟨customFps, entry, nofun⟩
  | arrive =>
    simp only [EncodingRate.step] at stepped
    split at stepped
    · cases stepped
    · rename_i fps onTheWay shape
      obtain rfl := Option.some.inj stepped
      refine ⟨heed customFps fps, entry.arrive fps, ?_⟩
      intro asked is
      have before := last asked is
      rw [shape, List.foldl_cons] at before
      exact before
  | host e =>
    obtain ⟨host, moved, rfl⟩ := Option.map_eq_some_iff.mp stepped
    exact ⟨customFps, entry.step stays moved, last⟩

end Runs

end ChainRemote.Link.EncodingRate
