import ChainRemote.Lib.Settling

/-!
# The frame rate that a viewer asks for

Every second a viewer compares how fast its displays are decoded with how full their queues are, and
asks the other side for another rate where that is due. While nothing changes the requests settle:
from any state there are at most two of them.
-/

namespace ChainRemote.Hq.FpsControl

open Lib

/-- `VIDEO_QUEUE_SIZE`. -/
def videoQueueSize : Nat := 120

/-- `inactive_threshold`. -/
def inactiveThreshold : Nat := 15

/-- `FpsControl`; its instant is in milliseconds. -/
structure Control where
  refreshTimes : Nat := 0
  lastRefreshInstant : Option Nat := none
  idleCounter : Nat := 0
  inactiveCounter : Nat := 0
deriving DecidableEq, Repr

/-- `VideoThread`, as far as its frame rate goes. -/
structure VideoThread where
  display : Nat
  /-- The length of `video_queue`. -/
  queued : Nat := 0
  decodeFps : Option Nat := none
  control : Control := {}
deriving DecidableEq, Repr

/-- The video threads of a session, and what it has asked for. -/
structure Session where
  videoThreads : List VideoThread := []
  /-- What the user has chosen. -/
  customFps : Option Nat := none
  lastAutoFps : Option Nat := none
deriving DecidableEq, Repr

/-- `custom_fps` in `fps_control`. -/
def customLimit (customFps : Option Nat) : Nat :=
  let customFps := customFps.getD 30
  if customFps < 5 ∨ customFps > 120 then 30 else customFps

/-- The counter of a thread that shows no frames. -/
def VideoThread.count (realFpsMap : Nat → Int) (thread : VideoThread) : VideoThread :=
  let inactiveCounter :=
    if realFpsMap thread.display = 0 then thread.control.inactiveCounter + 1 else 0
  { thread with control := { thread.control with inactiveCounter } }

/-- The least of two rates; one that is not known is less than all others. -/
def leastFps : Option Nat → Option Nat → Option Nat
  | some a, some b => some (min a b)
  | _, _ => none

/-- `min` and `flatten` of such rates. -/
def least : List (Option Nat) → Option Nat
  | [] => none
  | first :: rest => rest.foldl leastFps first

/-- `min_decode_fps`. -/
def minDecodeFps (threads : List VideoThread) : Option Nat :=
  let active := threads.filter fun thread => thread.control.inactiveCounter < inactiveThreshold
  least (active.map VideoThread.decodeFps)

/-- `limited_fps`. -/
def limitedFps (direct : Bool) (minDecodeFps customFps : Nat) : Nat :=
  let limited := if direct then minDecodeFps * 9 / 10 else minDecodeFps * 4 / 5
  if limited > customFps then customFps else limited

/-- `max_queue_len`. -/
def maxQueueLen (threads : List VideoThread) : Nat :=
  ((threads.map VideoThread.queued).max?).getD 0

/-- `fps_trending`, for the rate that was asked for last. -/
def VideoThread.trending (lastAutoFps limitedFps : Nat) (thread : VideoThread) :
    Option Bool × VideoThread :=
  let idle (idleCounter : Nat) : VideoThread :=
    { thread with control := { thread.control with idleCounter } }
  match thread.decodeFps with
  | none => (none, thread)
  | some decodeFps =>
    if thread.control.inactiveCounter > inactiveThreshold then (none, thread)
    else if thread.queued > 1 ∧ lastAutoFps > limitedFps ∨ thread.queued > max 1 (decodeFps / 2) then
      (some false, idle 0)
    else if thread.queued ≤ 1 then
      let idleCounter := thread.control.idleCounter + 1
      (if idleCounter > 3 ∧ lastAutoFps + 3 ≤ limitedFps then some true else none, idle idleCounter)
    else (none, idle 0)

/-- The rate that is asked for. -/
def autoFps (shouldDecrease : Bool) (limitedFps maxQueueLen : Nat) : Nat :=
  let autoFps := if shouldDecrease ∧ limitedFps < maxQueueLen then limitedFps / 2 else limitedFps
  if autoFps < 1 then 1 else autoFps

/-- A display is refreshed to get rid of its queue. -/
def VideoThread.refreshes (minDecodeFps now : Nat) (thread : VideoThread) : Bool :=
  let tolerable := min minDecodeFps (videoQueueSize / 2)
  let waited := match thread.control.lastRefreshInstant with
    | some instant => decide ((now - instant) / 1000 > 10)
    | none => false
  thread.control.refreshTimes < 20 &&
    (thread.queued > tolerable && (thread.control.refreshTimes = 0 || waited))

def VideoThread.refresh (minDecodeFps now : Nat) (thread : VideoThread) : VideoThread :=
  if thread.refreshes minDecodeFps now then
    { thread with control := { thread.control with
      refreshTimes := thread.control.refreshTimes + 1
      lastRefreshInstant := some now } }
  else thread

/-- What one call of `fps_control` does: the session after it, the rate it asks for, and the
displays it refreshes. -/
structure Controlled where
  session : Session
  request : Option Nat := none
  refreshed : List Nat := []

/-- `fps_control`. -/
def Session.fpsControl (direct : Bool) (realFpsMap : Nat → Int) (now : Nat) (session : Session) :
    Controlled :=
  let threads := session.videoThreads.map (VideoThread.count realFpsMap)
  let customFps := customLimit session.customFps
  match minDecodeFps threads with
  | none => { session := { session with videoThreads := threads } }
  | some minDecodeFps =>
    let limitedFps := limitedFps direct minDecodeFps customFps
    let lastAutoFps := session.lastAutoFps.getD customFps
    let trendings := threads.map (VideoThread.trending lastAutoFps limitedFps)
    let shouldDecrease := trendings.any fun trending => trending.1 = some false
    let shouldIncrease := !shouldDecrease && trendings.any fun trending => trending.1 = some true
    let autoFps := autoFps shouldDecrease limitedFps (maxQueueLen threads)
    let request :=
      if (session.lastAutoFps.isNone || shouldDecrease || shouldIncrease) &&
          session.lastAutoFps != some autoFps then some autoFps
      else none
    let threads := trendings.map Prod.snd
    { session := { session with
        videoThreads := threads.map (VideoThread.refresh minDecodeFps now)
        lastAutoFps := request.or session.lastAutoFps }
      request
      refreshed := (threads.filter (VideoThread.refreshes minDecodeFps now)).map
        VideoThread.display }

/-! ## What a thread goes by -/

/-- What is measured of a thread. -/
def VideoThread.measured (thread : VideoThread) : Nat × Option Nat :=
  (thread.queued, thread.decodeFps)

/-- The queue of a thread holds more than half a second. -/
def VideoThread.overfull (thread : VideoThread) : Bool :=
  match thread.decodeFps with
  | some decodeFps => thread.queued > max 1 (decodeFps / 2)
  | none => false

section Thread

variable {thread : VideoThread} {lastAutoFps limited : Nat}

theorem count_measured (realFpsMap : Nat → Int) (thread : VideoThread) :
    (thread.count realFpsMap).measured = thread.measured := rfl

theorem trending_measured (lastAutoFps limited : Nat) (thread : VideoThread) :
    (thread.trending lastAutoFps limited).2.measured = thread.measured := by
  unfold VideoThread.trending
  split
  · rfl
  · dsimp only
    split
    · rfl
    · split
      · rfl
      · split
        · rfl
        · rfl

theorem refresh_measured (minDecodeFps now : Nat) (thread : VideoThread) :
    (thread.refresh minDecodeFps now).measured = thread.measured := by
  unfold VideoThread.refresh
  split
  · rfl
  · rfl

/-- An overfull queue asks for less. -/
theorem trending_overfull (active : thread.control.inactiveCounter = 0)
    (beyond : thread.overfull = true) : (thread.trending lastAutoFps limited).1 = some false := by
  unfold VideoThread.overfull at beyond
  unfold VideoThread.trending
  split at beyond
  · rename_i decodeFps known
    rw [known]
    dsimp only
    rw [active, if_neg (by decide), if_pos (.inr (of_decide_eq_true beyond))]
  · cases beyond

/-- A queue that is not overfull asks for less only of a rate above the limit. -/
theorem trending_less (calm : thread.overfull = false)
    (less : (thread.trending lastAutoFps limited).1 = some false) : limited < lastAutoFps := by
  unfold VideoThread.overfull at calm
  unfold VideoThread.trending at less
  split at less
  · cases less
  · rename_i decodeFps known
    rw [known] at calm
    split at less
    · cases less
    · split at less
      · rename_i cause
        rcases cause with ⟨-, above⟩ | beyond
        · exact above
        · exact absurd beyond (of_decide_eq_false calm)
      · split at less
        · dsimp only at less
          split at less
          · cases less
          · cases less
        · cases less

/-- A thread asks for more only of a rate well below the limit. -/
theorem trending_more (more : (thread.trending lastAutoFps limited).1 = some true) :
    lastAutoFps + 3 ≤ limited := by
  unfold VideoThread.trending at more
  split at more
  · cases more
  · dsimp only at more
    split at more
    · cases more
    · split at more
      · cases more
      · split at more
        · split at more
          · rename_i well
            exact well.2
          · cases more
        · cases more

end Thread

/-! ## What a call goes by -/

/-- What is measured of the threads of a session. -/
def Session.measured (session : Session) : List (Nat × Option Nat) :=
  session.videoThreads.map VideoThread.measured

/-- The rate of the slowest decoder, where every display shows frames. -/
def Session.slowest (session : Session) : Option Nat :=
  least (session.videoThreads.map VideoThread.decodeFps)

/-- The limit that a call goes by. -/
def Session.limit (direct : Bool) (slowest : Nat) (session : Session) : Nat :=
  limitedFps direct slowest (customLimit session.customFps)

/-- The rate that is asked for after a call that lowers it, and after another. -/
def Session.target (direct : Bool) (slowest : Nat) (lower : Bool) (session : Session) : Nat :=
  autoFps lower (session.limit direct slowest) (maxQueueLen session.videoThreads)

def Session.overfull (session : Session) : Bool := session.videoThreads.any VideoThread.overfull

/-- A call: the frames that the displays have shown, and the time. -/
structure Tick where
  realFpsMap : Nat → Int
  now : Nat

/-- Every display shows frames. -/
def Moving (session : Session) (tick : Tick) : Prop :=
  ∀ thread ∈ session.videoThreads, tick.realFpsMap thread.display ≠ 0

section Call

variable {direct : Bool} {tick : Tick} {session : Session}

theorem maxQueueLen_measured {threads others : List VideoThread}
    (same : threads.map VideoThread.measured = others.map VideoThread.measured) :
    maxQueueLen threads = maxQueueLen others := by
  have queues : threads.map VideoThread.queued = others.map VideoThread.queued := by
    have firsts := congrArg (List.map Prod.fst) same
    rwa [List.map_map, List.map_map] at firsts
  unfold maxQueueLen
  rw [queues]

theorem count_threads (tick : Tick) (threads : List VideoThread) :
    (threads.map (VideoThread.count tick.realFpsMap)).map VideoThread.measured =
      threads.map VideoThread.measured := by
  rw [List.map_map]
  rfl

/-- A display that shows frames is active. -/
theorem Moving.active (moving : Moving session tick) {thread : VideoThread}
    (listed : thread ∈ session.videoThreads.map (VideoThread.count tick.realFpsMap)) :
    thread.control.inactiveCounter = 0 := by
  obtain ⟨before, there, rfl⟩ := List.mem_map.mp listed
  unfold VideoThread.count
  dsimp only
  rw [if_neg (moving before there)]

theorem Moving.minDecodeFps (moving : Moving session tick) :
    minDecodeFps (session.videoThreads.map (VideoThread.count tick.realFpsMap)) = session.slowest := by
  have all : ∀ thread ∈ session.videoThreads.map (VideoThread.count tick.realFpsMap),
      decide (thread.control.inactiveCounter < inactiveThreshold) = true := by
    intro thread listed
    rw [moving.active listed]
    rfl
  unfold FpsControl.minDecodeFps
  dsimp only
  rw [List.filter_eq_self.mpr all, List.map_map]
  rfl

/-- What a call does where every display shows frames. -/
structure Call (direct : Bool) (session next : Session) (request : Option Nat) : Prop where
  measured : next.measured = session.measured
  customFps : next.customFps = session.customFps
  asked : next.lastAutoFps = request.or session.lastAutoFps
  /-- A rate is asked for only if it is another, and by what the threads ask for. -/
  cause : ∀ rate, request = some rate → session.lastAutoFps ≠ some rate ∧
    ∃ slowest, session.slowest = some slowest ∧
      let last := session.lastAutoFps.getD (customLimit session.customFps)
      let limit := session.limit direct slowest
      ∃ lower, rate = session.target direct slowest lower ∧
        (session.overfull = true → lower = true) ∧
        (session.overfull = false → lower = true → limit < last) ∧
        (lower = false → session.lastAutoFps = none ∨ last + 3 ≤ limit)

theorem mem_trendings {last limited : Nat} {verdict : Option Bool} :
    ((session.videoThreads.map (VideoThread.count tick.realFpsMap)).map
        (VideoThread.trending last limited)).any (fun trending => trending.1 = verdict) = true ↔
      ∃ thread ∈ session.videoThreads.map (VideoThread.count tick.realFpsMap),
        (thread.trending last limited).1 = verdict := by
  rw [List.any_eq_true]
  constructor
  · rintro ⟨trending, listed, is⟩
    obtain ⟨thread, there, rfl⟩ := List.mem_map.mp listed
    exact ⟨thread, there, of_decide_eq_true is⟩
  · rintro ⟨thread, there, is⟩
    exact ⟨_, List.mem_map_of_mem there, decide_eq_true is⟩

theorem target_count (direct : Bool) (slowest : Nat) (lower : Bool) :
    autoFps lower (limitedFps direct slowest (customLimit session.customFps))
        (maxQueueLen (session.videoThreads.map (VideoThread.count tick.realFpsMap))) =
      session.target direct slowest lower := by
  rw [maxQueueLen_measured (count_threads tick session.videoThreads)]
  rfl

theorem fpsControl_call (direct : Bool) (moving : Moving session tick) :
    Call direct session (session.fpsControl direct tick.realFpsMap tick.now).session
      (session.fpsControl direct tick.realFpsMap tick.now).request := by
  unfold Session.fpsControl
  dsimp only
  rw [moving.minDecodeFps]
  cases known : session.slowest with
  | none => exact ⟨count_threads tick session.videoThreads, rfl, rfl, nofun⟩
  | some slowest =>
    dsimp only
    refine ⟨?_, rfl, rfl, ?_⟩
    · unfold Session.measured
      dsimp only
      rw [List.map_map, List.map_map, List.map_map, List.map_map]
      refine List.map_congr_left ?_
      intro thread _
      simp only [Function.comp_apply]
      rw [refresh_measured, trending_measured, count_measured]
    · intro rate asks
      split at asks
      · rename_i cause
        rw [Bool.and_eq_true, bne_iff_ne] at cause
        obtain ⟨due, other⟩ := cause
        obtain rfl := Option.some.inj asks
        refine ⟨other, slowest, known, _, target_count direct slowest _, ?_, ?_, ?_⟩
        · intro beyond
          obtain ⟨thread, there, full⟩ := List.any_eq_true.mp beyond
          have listed := List.mem_map_of_mem (f := VideoThread.count tick.realFpsMap) there
          exact mem_trendings.mpr
            ⟨_, listed, trending_overfull (moving.active listed) full⟩
        · intro calm lower
          obtain ⟨thread, listed, less⟩ := mem_trendings.mp lower
          refine trending_less ?_ less
          obtain ⟨before, there, rfl⟩ := List.mem_map.mp listed
          exact Bool.eq_false_iff.mpr fun full =>
            Bool.eq_false_iff.mp calm (List.any_eq_true.mpr ⟨before, there, full⟩)
        · intro kept
          rw [kept, Bool.or_false, Bool.not_false, Bool.true_and, Bool.or_eq_true] at due
          rcases due with first | more
          · exact .inl (Option.isNone_iff_eq_none.mp first)
          · obtain ⟨thread, listed, more⟩ := mem_trendings.mp more
            exact .inr (trending_more more)
      · cases asks

end Call

/-! ## Settling -/

/-- Calls from any session on, while nothing is measured anew. -/
def ticking (direct : Bool) : Machine Session Tick where
  start _ := True
  step session tick := some (session.fpsControl direct tick.realFpsMap tick.now).session

/-- A call that asks for a rate. -/
def asks (direct : Bool) (session : Session) (tick : Tick) (_ : Session) : Nat :=
  (session.fpsControl direct tick.realFpsMap tick.now).request.isSome.toNat

/-- How many requests are still to come, at most. -/
def Session.rank (direct : Bool) (session : Session) : Nat :=
  match session.slowest with
  | none => 0
  | some slowest =>
    if session.overfull then
      if session.lastAutoFps = some (session.target direct slowest true) then 0 else 1
    else if session.lastAutoFps = some (session.target direct slowest false) then 0
    else if session.lastAutoFps = some (session.target direct slowest true) then 1
    else 2

section Settle

variable {direct : Bool} {session next : Session} {request : Option Nat}

theorem autoFps_bounds (lower : Bool) (limited queue : Nat) :
    1 ≤ autoFps lower limited queue ∧ autoFps lower limited queue ≤ max 1 limited := by
  unfold autoFps
  cases lower with
  | false => grind
  | true => grind

theorem autoFps_false (limited queue : Nat) : autoFps false limited queue = max 1 limited := by
  unfold autoFps
  grind

theorem Call.slowest (call : Call direct session next request) :
    next.slowest = session.slowest := by
  have rates := congrArg (List.map Prod.snd) call.measured
  unfold Session.measured at rates
  rw [List.map_map, List.map_map] at rates
  exact congrArg least rates

theorem Call.target (call : Call direct session next request) (slowest : Nat) (lower : Bool) :
    next.target direct slowest lower = session.target direct slowest lower := by
  unfold Session.target Session.limit
  rw [call.customFps, maxQueueLen_measured call.measured]

theorem Call.overfull (call : Call direct session next request) :
    next.overfull = session.overfull := by
  let beyond : Nat × Option Nat → Bool := fun measured =>
    VideoThread.overfull { display := 0, queued := measured.1, decodeFps := measured.2 }
  have same : ∀ s : Session, s.overfull = s.measured.any beyond := by
    intro s
    unfold Session.measured
    rw [List.any_map]
    rfl
  rw [same, same, call.measured]

/-- A request takes one off the rank. -/
theorem Call.pays (call : Call direct session next request) :
    next.rank direct + request.isSome.toNat ≤ session.rank direct := by
  unfold Session.rank
  rw [call.slowest]
  cases known : session.slowest with
  | none =>
    cases request with
    | none => exact Nat.le_refl _
    | some rate =>
      obtain ⟨-, slowest, found, -⟩ := call.cause rate rfl
      rw [known] at found
      cases found
  | some slowest =>
    simp only [call.target, call.overfull]
    have asked := call.asked
    cases request with
    | none =>
      rw [Option.none_or] at asked
      rw [asked]
      exact Nat.le_refl _
    | some rate =>
      rw [Option.some_or] at asked
      obtain ⟨other, same, found, lower, is, beyond, less, more⟩ := call.cause rate rfl
      obtain rfl := Option.some.inj (known.symm.trans found)
      have full : session.target direct slowest false = max 1 (session.limit direct slowest) :=
        autoFps_false _ _
      have lowered : 1 ≤ session.target direct slowest true ∧
          session.target direct slowest true ≤ max 1 (session.limit direct slowest) :=
        autoFps_bounds _ _ _
      rw [asked]
      by_cases crowded : session.overfull = true
      · -- an overfull queue lowers in every call, always to the same rate
        rw [if_pos crowded, if_pos crowded]
        obtain rfl := beyond crowded
        rw [← is, if_pos rfl, if_neg other]
        exact Nat.le_refl _
      · rw [if_neg crowded, if_neg crowded]
        have calm := Bool.eq_false_iff.mpr crowded
        by_cases settled : session.lastAutoFps = some (session.target direct slowest false)
        · -- neither less nor more is due of the whole limit
          exfalso
          rw [settled, Option.getD_some] at less more
          cases lower with
          | true =>
            have above := less calm rfl
            have same : session.target direct slowest false = session.target direct slowest true := by
              omega
            exact other (by rw [settled, is, same])
          | false => exact other (by rw [settled, is])
        · rw [if_neg settled]
          cases lower with
          | false =>
            rw [← is, if_pos rfl]
            split
            · exact Nat.le_refl _
            · exact Nat.le_succ _
          | true =>
            rw [← is, if_neg other, if_pos rfl]
            split
            · exact Nat.le_succ _
            · exact Nat.le_refl _

end Settle

/-- From any session on, while every display shows frames and neither the decoders nor the queues
nor the user's limit change, a viewer asks for another frame rate twice at most. -/
theorem requests_settle (direct : Bool) :
    ((ticking direct).counted (asks direct)).Always
      (fun session tick => Moving session.1 tick) fun _ _ next => next.2 ≤ 2 := by
  refine Machine.counted_le (Session.rank direct) ?_ ?_
  · intro session _
    unfold Session.rank
    split
    · exact Nat.zero_le _
    · split
      · split <;> decide
      · split
        · decide
        · split <;> decide
  · intro session tick next moving stepped
    obtain rfl := Option.some.inj stepped
    exact (fpsControl_call direct moving).pays

end ChainRemote.Hq.FpsControl
