import ChainRemote.Hq.Downloader

/-!
# Downloads that do not meet

A thread finds its entry by the address. As long as an entry is only inserted when no earlier
download of the same address, or to the same file, may still act, the entry that a thread finds is
its own: its data is the part of the body that was received, and nothing of a later download is
touched. An entry that is removed while its thread runs, and then inserted anew, is another's.
-/

namespace ChainRemote.Hq.Downloads

open Lib

variable {body : String → Bytes}

/-- The download may still write to the map or to a file. -/
def Phase.writes : Phase → Bool
  | .report isAllDownloaded => !isAllDownloaded
  | .done => false
  | _ => true

/-- The thread of the download was started. -/
def Phase.threaded : Phase → Bool
  | .stale _ | .spawn => false
  | _ => true

/-- What `get_download_data` returns without an error is nothing or the body of the address. -/
def Exact (body : String → Bytes) (s : State) : Prop :=
  ∀ url found, getDownloadData s url = some found → found.data ≠ [] → found.error = none →
    found.data = body url

/-- No entry counts more than its length. -/
def Sized (s : State) : Prop :=
  ∀ url entry, s.downloaders url = some entry → entry.downloadedSize ≤ entry.totalSize.getD 0

/-- The step of a thread leaves the entries and the files of later downloads alone. -/
def Untouched (s : State) (e : Event) (t : State) : Prop :=
  ∀ number outcome d, e = .download number outcome → s.downloads[number]? = some d →
    d.phase.threaded = true → ∀ m later, number < m → s.downloads[m]? = some later →
      (∀ url entry, s.downloaders url = some entry → entry.number = m →
        t.downloaders url = some entry) ∧ ∀ path ∈ later.path, t.files path = s.files path

/-- An entry is only inserted while no download of the same address, or to the same file, may still
write. -/
def Alone (s : State) (e : Event) : Prop :=
  ∀ i ok call, e = .call i ok → s.calls[i]? = some call → call.phase = .second →
    (∀ entry, s.downloaders call.url = some entry → entry.error.isSome = true) →
      ∀ d ∈ s.downloads, d.phase.writes = true →
        d.url ≠ call.url ∧ ∀ path ∈ call.path, d.path ≠ some path

/-- What an entry holds of the body of its address. -/
structure Stored (body : Bytes) (entry : Downloader) : Prop where
  unknown : entry.totalSize = none → entry.data = [] ∧ entry.downloadedSize = 0
  known : ∀ total ∈ entry.totalSize, total = body.length
  bounded : entry.downloadedSize ≤ body.length
  part : entry.path = none → entry.data <+: body ∧ entry.downloadedSize = entry.data.length

/-- The rest of the body that the thread has still to store. -/
def Phase.rest (body : Bytes) : Phase → Option Bytes
  | .get | .create => some body
  | .body left => some left
  | .store chunk left | .count chunk left => some (chunk ++ left)
  | _ => none

/-- The length is not stored yet. -/
def Phase.early : Phase → Bool
  | .stale _ | .spawn | .head | .total => true
  | _ => false

/-- How far the entry of a thread is. -/
structure Progress (body : Bytes) (phase : Phase) (entry : Downloader) : Prop where
  early : phase.early = true → entry.totalSize = none
  sized : ∀ rest ∈ phase.rest body,
    entry.totalSize = some body.length ∧ entry.downloadedSize + rest.length = body.length ∧
      (entry.path = none → entry.data ++ rest = body)
  counted : ∀ chunk left, phase = .count chunk left → entry.path ≠ none

/-- What every run keeps. -/
structure Sound (body : String → Bytes) (s : State) : Prop where
  stored : ∀ url entry, s.downloaders url = some entry → Stored (body url) entry
  /-- The entry that a download finds is its own. -/
  own : ∀ n d, s.downloads[n]? = some d → d.phase.writes = true →
    ∀ entry, s.downloaders d.url = some entry →
      entry.number = n ∧ entry.path = d.path ∧ Progress (body d.url) d.phase entry
  /-- No later download has the file of one that may still write. -/
  apart : ∀ (n : Nat) (d : Download) (m : Nat) (later : Download), n < m →
    s.downloads[n]? = some d → s.downloads[m]? = some later →
    d.phase.writes = true → ∀ path ∈ later.path, d.path ≠ some path

/-- What a step of a download does. -/
structure Moves (body : String → Bytes) (s : State) (d : Download) (t : State) (phase : Phase) :
    Prop where
  downloads : t.downloads = s.downloads
  /-- It changes no other entry than that of its address. -/
  others : ∀ url, url ≠ d.url → t.downloaders url = s.downloaders url
  /-- What it leaves there is what was there, brought forward. -/
  entry : ∀ after, t.downloaders d.url = some after → ∃ entry, s.downloaders d.url = some entry ∧
    after.number = entry.number ∧ after.path = entry.path ∧
      (Stored (body d.url) entry → Progress (body d.url) d.phase entry → entry.path = d.path →
        Stored (body d.url) after ∧ Progress (body d.url) phase after)
  /-- A thread changes no other file than that of its download or of the entry. -/
  files : d.phase.threaded = true → ∀ path, t.files path ≠ s.files path → d.path = some path ∨
    ∃ entry, s.downloaders d.url = some entry ∧ entry.path = some path
  /-- A download that may no longer write changes nothing. -/
  idle : d.phase.writes = false → t = s ∧ phase.writes = false

/-- A step that only goes on. -/
theorem Moves.goOn {s : State} {d : Download} {phase : Phase}
    (idle : d.phase.writes = false → phase.writes = false)
    (forward : ∀ entry, Stored (body d.url) entry → Progress (body d.url) d.phase entry →
      entry.path = d.path → Progress (body d.url) phase entry) :
    Moves body s d s phase where
  downloads := rfl
  others := fun _ _ => rfl
  entry := fun after found =>
    ⟨after, found, rfl, rfl, fun stored progress path =>
      ⟨stored, forward after stored progress path⟩⟩
  files := fun _ _ changed => absurd rfl changed
  idle := fun quiet => ⟨rfl, idle quiet⟩

/-- A step that changes the entry. -/
theorem Moves.change {s : State} {d : Download} {phase : Phase} {change : Downloader → Downloader}
    (writes : d.phase.writes = true) (number : ∀ entry, (change entry).number = entry.number)
    (path : ∀ entry, (change entry).path = entry.path)
    (forward : ∀ entry, Stored (body d.url) entry → Progress (body d.url) d.phase entry →
      entry.path = d.path →
        Stored (body d.url) (change entry) ∧ Progress (body d.url) phase (change entry)) :
    Moves body s d (s.modify d.url change) phase where
  downloads := rfl
  others := fun _ other => Function.update_of_ne other _ _
  entry := by
    intro after found
    simp only [State.modify, Function.update_self, Option.map_eq_some_iff] at found
    obtain ⟨entry, there, rfl⟩ := found
    exact ⟨entry, there, number entry, path entry, forward entry⟩
  files := fun _ _ changed => absurd rfl changed
  idle := fun quiet => by
    rw [writes] at quiet
    cases quiet

/-- A chunk is stored where the rest of the body begins. -/
theorem Progress.store {rest chunk left : Bytes} {phase : Phase} {source : Bytes}
    {entry : Downloader} (stored : Stored source entry) (progress : Progress source phase entry)
    (pending : phase.rest source = some rest) (whole : rest = chunk ++ left)
    (inside : entry.path = none) :
    Stored source { entry with
        data := entry.data ++ chunk, downloadedSize := entry.downloadedSize + chunk.length } ∧
      Progress source (.body left) { entry with
        data := entry.data ++ chunk, downloadedSize := entry.downloadedSize + chunk.length } := by
  obtain ⟨total, counted, joined⟩ := progress.sized rest pending
  have text : entry.data ++ chunk ++ left = source := by
    rw [List.append_assoc, ← whole]
    exact joined inside
  have sizes : rest.length = chunk.length + left.length := by rw [whole, List.length_append]
  have same := (stored.part inside).2
  refine ⟨⟨?_, stored.known, ?_, ?_⟩, nofun, ?_, nofun⟩
  · intro unknown
    rw [total] at unknown
    cases unknown
  · show entry.downloadedSize + chunk.length ≤ source.length
    omega
  · intro _
    refine ⟨⟨left, text⟩, ?_⟩
    rw [List.length_append, same]
  · rintro _ ⟨⟩
    refine ⟨total, ?_, fun _ => text⟩
    show entry.downloadedSize + chunk.length + left.length = source.length
    omega

/-- A chunk that was written to the file is counted. -/
theorem Progress.count {chunk left source : Bytes} {entry : Downloader}
    (stored : Stored source entry) (progress : Progress source (.count chunk left) entry) :
    Stored source { entry with downloadedSize := entry.downloadedSize + chunk.length } ∧
      Progress source (.body left)
        { entry with downloadedSize := entry.downloadedSize + chunk.length } := by
  obtain ⟨total, counted, -⟩ := progress.sized _ rfl
  have file := progress.counted chunk left rfl
  rw [List.length_append] at counted
  refine ⟨⟨?_, stored.known, ?_, fun inside => absurd inside file⟩, nofun, ?_, nofun⟩
  · intro unknown
    rw [total] at unknown
    cases unknown
  · show entry.downloadedSize + chunk.length ≤ source.length
    omega
  · rintro _ ⟨⟩
    refine ⟨total, ?_, fun inside => absurd inside file⟩
    show entry.downloadedSize + chunk.length + left.length = source.length
    omega

/-- A phase without a rest asks nothing of the entry once the length is known. -/
theorem Progress.of_late {source : Bytes} {phase : Phase} {entry : Downloader}
    (late : phase.early = false) (none' : phase.rest source = none)
    (other : ∀ chunk left, phase ≠ .count chunk left) : Progress source phase entry where
  early := fun early => by
    rw [late] at early
    cases early
  sized := fun rest found => by
    rw [none'] at found
    cases found
  counted := fun chunk left same => absurd same (other chunk left)

/-- A phase before the length is known keeps the entry as it was inserted. -/
theorem Progress.of_early {source : Bytes} {phase : Phase} {entry : Downloader}
    (unknown : entry.totalSize = none) (none' : phase.rest source = none)
    (other : ∀ chunk left, phase ≠ .count chunk left) : Progress source phase entry where
  early := fun _ => unknown
  sized := fun rest found => by
    rw [none'] at found
    cases found
  counted := fun chunk left same => absurd same (other chunk left)

/-- A later phase with the same rest asks the same of the entry. -/
theorem Progress.onward {source : Bytes} {phase later : Phase} {entry : Downloader}
    (progress : Progress source phase entry) (late : later.early = false)
    (same : later.rest source = phase.rest source)
    (other : ∀ chunk left, later = .count chunk left → entry.path ≠ none) :
    Progress source later entry where
  early := fun early => by
    rw [late] at early
    cases early
  sized := fun rest found => progress.sized rest (same ▸ found)
  counted := other

/-- The length is stored before any of the body. -/
theorem Progress.measured {source : Bytes} {entry : Downloader} (stored : Stored source entry)
    (progress : Progress source .total entry) :
    Stored source { entry with totalSize := some source.length } ∧
      Progress source .get { entry with totalSize := some source.length } := by
  obtain ⟨empty, zero⟩ := stored.unknown (progress.early rfl)
  refine ⟨⟨nofun, ?_, stored.bounded, stored.part⟩, nofun, ?_, nofun⟩
  · rintro _ ⟨⟩
    rfl
  · rintro _ ⟨⟩
    refine ⟨rfl, ?_, fun _ => ?_⟩
    · show entry.downloadedSize + source.length = source.length
      omega
    · show entry.data ++ source = source
      rw [empty, List.nil_append]

/-- A step that leaves the entry for a phase that asks nothing of it. -/
theorem Moves.leave {s : State} {d : Download} {phase : Phase} (writes : d.phase.writes = true)
    (late : phase.early = false) (none' : phase.rest (body d.url) = none)
    (other : ∀ chunk left, phase ≠ .count chunk left) : Moves body s d s phase := by
  refine Moves.goOn (fun quiet => ?_) fun _ _ _ _ => .of_late late none' other
  rw [writes] at quiet
  cases quiet

/-- A step that goes on before the length is known. -/
theorem Moves.early {s : State} {d : Download} {phase : Phase} (writes : d.phase.writes = true)
    (early : d.phase.early = true) (none' : phase.rest (body d.url) = none)
    (other : ∀ chunk left, phase ≠ .count chunk left) : Moves body s d s phase := by
  refine Moves.goOn (fun quiet => ?_) fun _ _ progress _ =>
    .of_early (progress.early early) none' other
  rw [writes] at quiet
  cases quiet

/-- A step that also changes the file of its download or of its entry. -/
theorem Moves.touch {s t : State} {d : Download} {phase : Phase} (went : Moves body s d t phase)
    (writes : d.phase.writes = true) {file : String}
    (own : d.path = some file ∨
      ∃ entry, s.downloaders d.url = some entry ∧ entry.path = some file)
    (content : Option Bytes) :
    Moves body s d { t with files := Function.update s.files file content } phase where
  downloads := went.downloads
  others := went.others
  entry := went.entry
  files := by
    intro _ other changed
    by_cases same : other = file
    · rw [same]
      exact own
    · exact absurd (Function.update_of_ne same _ _) changed
  idle := fun quiet => by
    rw [writes] at quiet
    cases quiet

/-- A download that was cancelled takes its entry and the file of the entry away. -/
theorem discard_moves {s t : State} {number : Nat} {url : String} {path : Option String}
    {outcome : Outcome} {phase : Phase}
    (next : Download.step body s number ⟨url, path, .discard⟩ outcome = some (t, phase)) :
    Moves body s ⟨url, path, .discard⟩ t phase := by
  have removed : Moves body s ⟨url, path, .discard⟩ (s.removeEntry url) .done := by
    refine ⟨rfl, fun _ other => Function.update_of_ne other _ _, ?_, ?_, nofun⟩
    · intro after found
      simp only [State.removeEntry, Function.update_self] at found
      cases found
    · exact fun _ _ changed => absurd rfl changed
  cases outcome with
  | closed => cases next
  | ok size =>
    simp only [Download.step] at next
    split at next
    · cases next
      exact Moves.leave rfl rfl rfl nofun
    · rename_i entry there
      cases next
      cases file : entry.path with
      | none => exact removed
      | some file' => exact removed.touch rfl (.inr ⟨entry, there, file⟩) none
  | error text =>
    cases next
    exact removed

/-- A chunk goes into the entry, or into the file of the download. -/
theorem store_moves {s t : State} {number : Nat} {url : String} {path : Option String}
    {chunk left : Bytes} {outcome : Outcome} {phase : Phase}
    (next : Download.step body s number ⟨url, path, .store chunk left⟩ outcome = some (t, phase)) :
    Moves body s ⟨url, path, .store chunk left⟩ t phase := by
  cases outcome with
  | closed => cases next
  | ok size =>
    cases path with
    | none =>
      cases next
      refine Moves.change rfl (fun _ => rfl) (fun _ => rfl) ?_
      intro entry stored progress inside
      exact progress.store stored rfl rfl inside
    | some file =>
      cases next
      have went : Moves body s ⟨url, some file, .store chunk left⟩ s (.count chunk left) := by
        refine Moves.goOn nofun fun entry _ progress inside => progress.onward rfl rfl ?_
        intro _ _ _
        rw [inside]
        exact nofun
      exact went.touch rfl (.inl rfl) _
  | error text =>
    cases path with
    | none => cases next
    | some file =>
      cases next
      exact Moves.leave rfl rfl rfl nofun

/-- The file of a download is created. -/
theorem create_moves {s t : State} {number : Nat} {url : String} {path : Option String}
    {outcome : Outcome} {phase : Phase}
    (next : Download.step body s number ⟨url, path, .create⟩ outcome = some (t, phase)) :
    Moves body s ⟨url, path, .create⟩ t phase := by
  cases outcome with
  | closed => cases next
  | ok size =>
    cases path with
    | none => cases next
    | some file =>
      cases next
      have went : Moves body s ⟨url, some file, .create⟩ s (.body (body url)) :=
        Moves.goOn nofun fun _ _ progress _ => progress.onward rfl rfl nofun
      exact went.touch rfl (.inl rfl) _
  | error text =>
    cases next
    exact Moves.leave rfl rfl rfl nofun

/-- The response is there, and the body begins. -/
theorem get_moves {s t : State} {number : Nat} {url : String} {path : Option String}
    {outcome : Outcome} {phase : Phase}
    (next : Download.step body s number ⟨url, path, .get⟩ outcome = some (t, phase)) :
    Moves body s ⟨url, path, .get⟩ t phase := by
  cases outcome with
  | closed =>
    simp only [Download.step] at next
    split at next
    · cases next
      exact Moves.leave rfl rfl rfl nofun
    · cases next
  | ok size =>
    cases next
    cases path with
    | none => exact Moves.goOn nofun fun _ _ progress _ => progress.onward rfl rfl nofun
    | some file => exact Moves.goOn nofun fun _ _ progress _ => progress.onward rfl rfl nofun
  | error text =>
    cases next
    exact Moves.leave rfl rfl rfl nofun

/-- A chunk of the body arrives, or its end. -/
theorem body_moves {s t : State} {number : Nat} {url : String} {path : Option String}
    {left : Bytes} {outcome : Outcome} {phase : Phase}
    (next : Download.step body s number ⟨url, path, .body left⟩ outcome = some (t, phase)) :
    Moves body s ⟨url, path, .body left⟩ t phase := by
  cases outcome with
  | closed =>
    simp only [Download.step] at next
    split at next
    · cases next
      exact Moves.leave rfl rfl rfl nofun
    · cases next
  | ok size =>
    cases next
    by_cases ended : left = []
    · rw [if_pos ended]
      exact Moves.leave rfl rfl rfl nofun
    · rw [if_neg ended]
      have whole : some (left.take size ++ left.drop size) = some left :=
        congrArg some (List.take_append_drop size left)
      exact Moves.goOn nofun fun _ _ progress _ => progress.onward rfl whole nofun
  | error text =>
    cases next
    exact Moves.leave rfl rfl rfl nofun

/-- A step of a download moves its entry forward. -/
theorem Download.step_moves {s t : State} {number : Nat} {d : Download} {outcome : Outcome}
    {phase : Phase} (next : d.step body s number outcome = some (t, phase)) :
    Moves body s d t phase := by
  obtain ⟨url, path, current⟩ := d
  cases current with
  | get => exact get_moves next
  | create => exact create_moves next
  | body left => exact body_moves next
  | store chunk left => exact store_moves next
  | discard => exact discard_moves next
  | stale stalePath =>
    cases outcome with
    | closed => cases next
    | ok size =>
      cases next
      have went : Moves body s ⟨url, path, .stale stalePath⟩ s .spawn :=
        Moves.early rfl rfl rfl nofun
      cases stalePath with
      | none => exact went
      | some other => exact { went with files := nofun, idle := nofun }
    | error text =>
      cases next
      exact Moves.early rfl rfl rfl nofun
  | spawn =>
    cases outcome with
    | closed => cases next
    | ok size =>
      cases next
      exact Moves.early rfl rfl rfl nofun
    | error text => cases next
  | head =>
    cases outcome with
    | closed =>
      simp only [Download.step] at next
      split at next
      · cases next
        exact Moves.leave rfl rfl rfl nofun
      · cases next
    | ok size =>
      cases next
      exact Moves.early rfl rfl rfl nofun
    | error text =>
      cases next
      exact Moves.leave rfl rfl rfl nofun
  | total =>
    cases outcome with
    | closed => cases next
    | ok size =>
      cases next
      exact Moves.change rfl (fun _ => rfl) (fun _ => rfl) fun _ stored progress _ =>
        progress.measured stored
    | error text => cases next
  | count chunk left =>
    cases outcome with
    | closed => cases next
    | ok size =>
      cases next
      exact Moves.change rfl (fun _ => rfl) (fun _ => rfl) fun entry stored progress _ =>
        progress.count stored
    | error text => cases next
  | finish isAllDownloaded =>
    cases outcome with
    | closed => cases next
    | ok size =>
      cases next
      refine Moves.change rfl (fun _ => rfl) (fun _ => rfl) fun entry stored _ _ => ?_
      exact ⟨{ stored with }, .of_late rfl rfl nofun⟩
    | error text =>
      cases path with
      | none => cases next
      | some file =>
        cases next
        exact Moves.leave rfl rfl rfl nofun
  | report isAllDownloaded =>
    cases outcome with
    | closed => cases next
    | ok size =>
      cases next
      cases isAllDownloaded with
      | true => exact Moves.goOn (fun _ => rfl) fun _ _ _ _ => .of_late rfl rfl nofun
      | false => exact Moves.leave rfl rfl rfl nofun
    | error text => cases next
  | failing error =>
    cases outcome with
    | closed => cases next
    | ok size =>
      cases next
      refine Moves.change rfl (fun _ => rfl) (fun _ => rfl) fun entry stored _ _ => ?_
      exact ⟨{ stored with }, .of_late rfl rfl nofun⟩
    | error text => cases next
  | done =>
    cases outcome with
    | closed => cases next
    | ok size => cases next
    | error text => cases next

/-- The downloads after one of them took a step. -/
theorem getElem?_set_eq_some {downloads : List Download} {number n : Nat} {after d : Download}
    (found : (downloads.set number after)[n]? = some d) :
    (n = number ∧ d = after) ∨ (n ≠ number ∧ downloads[n]? = some d) := by
  by_cases same : n = number
  · subst same
    rw [List.getElem?_set_self'] at found
    obtain ⟨_, _, rfl⟩ := Option.map_eq_some_iff.mp found
    exact .inl ⟨rfl, rfl⟩
  · rw [List.getElem?_set_ne (Ne.symm same)] at found
    exact .inr ⟨same, found⟩

/-- A step of a download leaves the program sound. -/
theorem Sound.download {s t : State} {number : Nat} {d : Download} {phase : Phase}
    (sound : Sound body s) (going : s.downloads[number]? = some d)
    (moves : Moves body s d t phase) :
    Sound body { t with downloads := t.downloads.set number { d with phase } } := by
  cases writes : d.phase.writes with
  | false =>
    -- It changes nothing but its phase.
    obtain ⟨rfl, quiet⟩ := moves.idle writes
    refine ⟨sound.stored, ?_, ?_⟩
    · intro n other found live
      rcases getElem?_set_eq_some found with ⟨-, rfl⟩ | ⟨-, old⟩
      · have live' : phase.writes = true := live
        rw [quiet] at live'
        cases live'
      · exact sound.own n other old live
    · intro n other m later before found found' live
      have later' : ∃ d' : Download, t.downloads[m]? = some d' ∧ d'.path = later.path := by
        rcases getElem?_set_eq_some found' with ⟨rfl, rfl⟩ | ⟨-, old⟩
        · exact ⟨d, going, rfl⟩
        · exact ⟨later, old, rfl⟩
      obtain ⟨d', old', same⟩ := later'
      rcases getElem?_set_eq_some found with ⟨-, rfl⟩ | ⟨-, old⟩
      · have live' : phase.writes = true := live
        rw [quiet] at live'
        cases live'
      · rw [← same]
        exact sound.apart n other m d' before old old' live
  | true =>
    have mine := sound.own number d going writes
    refine ⟨?_, ?_, ?_⟩
    · intro url entry found
      by_cases here : url = d.url
      · subst here
        obtain ⟨before, there, -, -, forward⟩ := moves.entry entry found
        obtain ⟨-, path, progress⟩ := mine before there
        exact (forward (sound.stored d.url before there) progress path).1
      · have same : t.downloaders url = s.downloaders url := moves.others url here
        exact sound.stored url entry (same ▸ found)
    · intro n other found live entry stored
      rcases getElem?_set_eq_some found with ⟨rfl, rfl⟩ | ⟨apart, old⟩
      · obtain ⟨before, there, number', path', forward⟩ := moves.entry entry stored
        obtain ⟨number, path, progress⟩ := mine before there
        refine ⟨number'.trans number, path'.trans path, ?_⟩
        exact (forward (sound.stored d.url before there) progress path).2
      · rw [moves.downloads] at old
        by_cases here : other.url = d.url
        · -- Two downloads that may write never share an entry.
          have stored' : t.downloaders d.url = some entry := here ▸ stored
          obtain ⟨before, there, -, -, -⟩ := moves.entry entry stored'
          have first := (mine before there).1
          have second := (sound.own n other old live before (here.symm ▸ there)).1
          exact absurd (second.symm.trans first) apart
        · have same : t.downloaders other.url = s.downloaders other.url := moves.others _ here
          exact sound.own n other old live entry (same ▸ stored)
    · intro n other m later before found found' live
      rw [moves.downloads] at found found'
      have later' : ∃ d' : Download, s.downloads[m]? = some d' ∧ d'.path = later.path := by
        rcases getElem?_set_eq_some found' with ⟨rfl, rfl⟩ | ⟨-, old⟩
        · exact ⟨d, going, rfl⟩
        · exact ⟨later, old, rfl⟩
      obtain ⟨d', old', same⟩ := later'
      rw [← same]
      rcases getElem?_set_eq_some found with ⟨rfl, rfl⟩ | ⟨-, old⟩
      · exact sound.apart n d m d' before going old' writes
      · exact sound.apart n other m d' before old old' live

/-- A removed entry leaves the program sound. -/
theorem Sound.removeEntry {s : State} (sound : Sound body s) (url : String) :
    Sound body (s.removeEntry url) := by
  have kept : ∀ {other entry}, (s.removeEntry url).downloaders other = some entry →
      s.downloaders other = some entry := by
    intro other entry found
    by_cases same : other = url
    · rw [same] at found
      simp only [State.removeEntry, Function.update_self] at found
      cases found
    · simp only [State.removeEntry, Function.update_of_ne same] at found
      exact found
  refine ⟨?_, ?_, sound.apart⟩
  · exact fun other entry found => sound.stored other entry (kept found)
  · exact fun n d going live entry found => sound.own n d going live entry (kept found)

/-- So does a new entry whose address and file no download may still write to. -/
theorem Sound.insert {s : State} (sound : Sound body s) {url : String} {path : Option String}
    (stale : Option String)
    (alone : ∀ d ∈ s.downloads, d.phase.writes = true →
      d.url ≠ url ∧ ∀ file ∈ path, d.path ≠ some file) :
    Sound body (s.insert url path stale) := by
  have split' : ∀ {n : Nat} {d : Download}, (s.insert url path stale).downloads[n]? = some d →
      s.downloads[n]? = some d ∨
        (n = s.downloads.length ∧ d = { url, path, phase := .stale stale }) := by
    intro n d found
    rcases Nat.lt_or_ge n s.downloads.length with inside | outside
    · refine .inl ?_
      rw [← found]
      exact (List.getElem?_append_left inside).symm
    · have shifted : [({ url, path, phase := .stale stale } : Download)][n - s.downloads.length]? =
          some d := by
        rw [← found]
        exact (List.getElem?_append_right outside).symm
      obtain ⟨bound, same⟩ := List.getElem?_eq_some_iff.mp shifted
      have zero : n - s.downloads.length = 0 := Nat.lt_one_iff.mp bound
      refine .inr ⟨by omega, ?_⟩
      rw [← same]
      simp only [zero, List.getElem_cons_zero]
  refine ⟨?_, ?_, ?_⟩
  · intro other entry found
    by_cases same : other = url
    · subst same
      simp only [State.insert, Function.update_self, Option.some.injEq] at found
      subst found
      refine ⟨fun _ => ⟨rfl, rfl⟩, nofun, Nat.zero_le _, fun _ => ⟨List.nil_prefix, rfl⟩⟩
    · simp only [State.insert, Function.update_of_ne same] at found
      exact sound.stored other entry found
  · intro n d found live entry stored
    rcases split' found with old | ⟨rfl, rfl⟩
    · have other := (alone d (List.mem_of_getElem? old) live).1
      simp only [State.insert, Function.update_of_ne other] at stored
      exact sound.own n d old live entry stored
    · simp only [State.insert, Function.update_self, Option.some.injEq] at stored
      subst stored
      exact ⟨rfl, rfl, .of_early rfl rfl nofun⟩
  · intro n d m later before found found' live
    rcases split' found with old | ⟨rfl, -⟩
    · rcases split' found' with old' | ⟨-, rfl⟩
      · exact sound.apart n d m later before old old' live
      · exact (alone d (List.mem_of_getElem? old) live).2
    · -- Nothing is later than the newest.
      rcases split' found' with old' | ⟨rfl, -⟩
      · have inside := (List.getElem?_eq_some_iff.mp old').1
        omega
      · omega

/-- Soundness does not depend on the files. -/
theorem Sound.removeFile {s : State} (sound : Sound body s) (path : Option String) :
    Sound body (s.removeFile path) := by
  cases path with
  | none => exact sound
  | some path => exact { sound with }

/-- A step of a call leaves the program sound, if it inserts alone. -/
theorem Sound.callStep {s : State} (sound : Sound body s) (call : Call) (ok : Bool)
    (alone : call.phase = .second →
      (∀ entry, s.downloaders call.url = some entry → entry.error.isSome = true) →
        ∀ d ∈ s.downloads, d.phase.writes = true →
          d.url ≠ call.url ∧ ∀ path ∈ call.path, d.path ≠ some path) :
    Sound body (s.callStep call ok) := by
  obtain ⟨url, path, phase⟩ := call
  cases phase with
  | first =>
    simp only [State.callStep]
    split
    · exact { sound with }
    · split
      · exact sound
      · have removed := sound.removeEntry url
        exact { removed with }
  | stale stalePath =>
    simp only [State.callStep]
    cases ok with
    | false => exact { sound with }
    | true =>
      have removed := sound.removeFile stalePath
      exact { removed with }
  | check =>
    simp only [State.callStep]
    split
    · exact sound
    · exact { sound with }
  | second =>
    simp only [State.callStep]
    split
    · rename_i free
      refine sound.insert none (alone rfl ?_)
      intro entry found
      rw [free] at found
      cases found
    · rename_i entry found
      split
      · exact sound
      · rename_i failed
        refine sound.insert _ (alone rfl ?_)
        intro other found'
        rw [found] at found'
        cases found'
        cases error : entry.error with
        | none =>
          rw [error] at failed
          exact absurd rfl failed
        | some text => rfl

/-- Every step leaves the program sound, if entries are inserted alone. -/
theorem Sound.step {s t : State} {e : Event} (sound : Sound body s) (alone : Alone s e)
    (next : Downloads.step body s e = some t) : Sound body t := by
  cases e with
  | downloadFile url path =>
    cases next
    exact { sound with }
  | call i ok =>
    simp only [Downloads.step] at next
    obtain ⟨call, going, rfl⟩ := Option.map_eq_some_iff.mp next
    have rest : Sound body { s with calls := s.calls.eraseIdx i } := { sound with }
    exact rest.callStep call ok (alone i ok call rfl going)
  | download number outcome =>
    simp only [Downloads.step, Option.bind_eq_bind, Option.bind_eq_some_iff] at next
    obtain ⟨d, going, ⟨after, phase⟩, moved, same⟩ := next
    cases same
    exact sound.download going (Download.step_moves moved)
  | cancel url =>
    simp only [Downloads.step] at next
    split at next
    · cases next
      exact sound
    · cases next
      exact { sound with }
  | remove url =>
    cases next
    exact sound.removeEntry url

/-- A sound program returns the bodies. -/
theorem Sound.exact {s : State} (sound : Sound body s) : Exact body s := by
  intro url found returned filled _
  obtain ⟨entry, there, rfl⟩ := Option.map_eq_some_iff.mp returned
  have stored := sound.stored url entry there
  simp only [Downloader.downloadData] at filled ⊢
  split at filled
  · rename_i complete
    obtain ⟨sizes, inside⟩ := complete
    obtain ⟨⟨rest, joined⟩, counted⟩ := stored.part (by simpa using inside)
    cases length : entry.totalSize with
    | none => exact absurd (stored.unknown length).1 filled
    | some total =>
      have known := stored.known total length
      rw [length, Option.getD_some] at sizes
      -- The part that was received is as long as the body.
      have sum := congrArg List.length joined
      rw [List.length_append] at sum
      have nothing : rest = [] := List.eq_nil_of_length_eq_zero (by omega)
      rw [if_pos ⟨sizes, inside⟩, ← joined, nothing, List.append_nil]
  · exact absurd rfl filled

/-- A sound program counts no more than the length. -/
theorem Sound.sized {s : State} (sound : Sound body s) : Sized s := by
  intro url entry there
  have stored := sound.stored url entry there
  cases length : entry.totalSize with
  | none =>
    have zero := (stored.unknown length).2
    omega
  | some total =>
    have known := stored.known total length
    have bounded := stored.bounded
    rw [Option.getD_some]
    omega

/-- In a sound program the threads leave later downloads alone. -/
theorem Sound.untouched {s t : State} {e : Event} (sound : Sound body s)
    (next : Downloads.step body s e = some t) : Untouched s e t := by
  rintro number outcome d rfl going threaded m later before there
  simp only [Downloads.step, Option.bind_eq_bind, Option.bind_eq_some_iff] at next
  obtain ⟨d', going', ⟨after, phase⟩, moved, same⟩ := next
  rw [going] at going'
  cases going'
  cases same
  have moves := Download.step_moves moved
  cases writes : d.phase.writes with
  | false =>
    obtain ⟨rfl, -⟩ := moves.idle writes
    exact ⟨fun _ _ found _ => found, fun _ _ => rfl⟩
  | true =>
    have mine := sound.own number d going writes
    have apart := sound.apart number d m later before going there writes
    constructor
    · intro url entry found numbered
      by_cases here : url = d.url
      · subst here
        have own := (mine entry found).1
        omega
      · exact (moves.others url here).trans found
    · intro path named
      by_contra changed
      rcases moves.files threaded path changed with own | ⟨entry, found, other⟩
      · exact apart path named own
      · exact apart path named ((mine entry found).2.1.symm.trans other)

/-- In every run whose entries are inserted alone, what is returned without an error is the body,
no entry counts more than its length, and no thread touches a later download. -/
theorem downloads_apart (body : String → Bytes) :
    (program body).Always Alone fun s e t => Exact body t ∧ Sized t ∧ Untouched s e t := by
  refine Machine.Always.of_invariant (Sound body) ?_ ?_ ?_
  · rintro s ⟨files, rfl⟩
    have none' : ∀ n, (start files).downloads[n]? = none := fun _ => List.getElem?_nil
    refine ⟨?_, ?_, ?_⟩
    · intro url entry found
      cases found
    · intro n d going
      rw [none' n] at going
      cases going
    · intro n d m later _ going
      rw [none' n] at going
      cases going
  · exact fun s e t sound alone next => sound.step alone next
  · intro s e t sound alone next
    have after := sound.step alone next
    exact ⟨after.exact, after.sized, sound.untouched next⟩

/-- A server with one body of two bytes. -/
def sampleBody (_ : String) : Bytes := [1, 2]

/-- A download is removed while its first byte is on the way, and asked for again; both threads then
store their first byte in the one entry. -/
def removedAndAskedAgain : List Event :=
  [.downloadFile "u" none, .call 0 true, .call 0 true, .call 0 true, .call 0 true,
    .download 0 (.ok 0), .download 0 (.ok 0), .download 0 (.ok 0), .download 0 (.ok 0),
    .download 0 (.ok 0), .download 0 (.ok 1), .remove "u",
    .downloadFile "u" none, .call 0 true, .call 0 true, .call 0 true, .call 0 true,
    .download 1 (.ok 0), .download 1 (.ok 0), .download 1 (.ok 0), .download 1 (.ok 0),
    .download 1 (.ok 0), .download 1 (.ok 1), .download 1 (.ok 0)]

/-- The program after these events. -/
def after (events : List Event) : State :=
  (program sampleBody).play Machine.free (start fun _ => none) events

theorem after_reached (events : List Event) :
    (program sampleBody).Reaches Machine.free (after events) :=
  ⟨start _, ⟨_, rfl⟩, Machine.runs_play _ _ _ events⟩

/-- A thread that stores a byte while the entry of its address is a later one changes that. -/
theorem store_touches {s : State} {d : Download} {entry : Downloader}
    (going : s.downloads[0]? = some { url := "u", path := none, phase := .store [1] [2] })
    (later : s.downloads[1]? = some d) (there : s.downloaders "u" = some entry)
    (number : entry.number = 1) :
    ∃ t, step sampleBody s (.download 0 (.ok 0)) = some t ∧
      ¬ Untouched s (.download 0 (.ok 0)) t := by
  let stored := s.modify "u" fun entry =>
    { entry with data := entry.data ++ [1], downloadedSize := entry.downloadedSize + 1 }
  let advanced : Download := { url := "u", path := none, phase := .body [2] }
  refine ⟨{ stored with downloads := stored.downloads.set 0 advanced }, ?_, ?_⟩
  · simp only [step, going, Option.bind_eq_bind, Option.bind_some]
    rfl
  · intro untouched
    have kept := (untouched 0 _ _ rfl going rfl 1 d Nat.one_pos later).1 "u" entry there number
    simp only [stored, State.modify, there, Function.update_self, Option.map_some,
      Option.some.injEq] at kept
    have sizes := congrArg Downloader.downloadedSize kept
    simp at sizes

/-- The thread of a download that was removed stores into the entry of a later one, which then
returns other data than the body without an error, and then counts more than its length; at last it
removes the entry. -/
theorem downloads_meet :
    (∃ s, (program sampleBody).Reaches Machine.free s ∧ ¬ Exact sampleBody s) ∧
      (∃ s, (program sampleBody).Reaches Machine.free s ∧ ¬ Sized s) ∧
      ∃ s e t, (program sampleBody).Reaches Machine.free s ∧ step sampleBody s e = some t ∧
        ¬ Untouched s e t := by
  have stored : getDownloadData (after (removedAndAskedAgain ++ [.download 0 (.ok 0)])) "u" =
      some { data := [1, 1], path := none, totalSize := some 2, downloadedSize := 2,
             error := none } := by
    decide +kernel
  have counted : getDownloadData (after (removedAndAskedAgain ++
      [.download 0 (.ok 0), .download 1 (.ok 1), .download 1 (.ok 0)])) "u" =
      some { data := [], path := none, totalSize := some 2, downloadedSize := 3,
             error := none } := by
    decide +kernel
  refine ⟨⟨_, after_reached (removedAndAskedAgain ++ [.download 0 (.ok 0)]), ?_⟩,
    ⟨_, after_reached (removedAndAskedAgain ++
      [.download 0 (.ok 0), .download 1 (.ok 1), .download 1 (.ok 0)]), ?_⟩, ?_⟩
  · intro exact
    have same := exact "u" _ stored (List.cons_ne_nil 1 [1]) rfl
    exact absurd same (by decide)
  · intro sized
    obtain ⟨entry, there, same⟩ := Option.map_eq_some_iff.mp counted
    have size := congrArg DownloadData.downloadedSize same
    have total := congrArg DownloadData.totalSize same
    have bounded := sized "u" entry there
    simp only [Downloader.downloadData] at size total
    rw [size, total] at bounded
    exact absurd bounded (by decide)
  · have going : (after removedAndAskedAgain).downloads[0]? =
        some { url := "u", path := none, phase := .store [1] [2] } := by
      decide +kernel
    have later : (after removedAndAskedAgain).downloads[1]? =
        some { url := "u", path := none, phase := .body [2] } := by
      decide +kernel
    have there : (after removedAndAskedAgain).downloaders "u" =
        some { number := 1, data := [1], path := none, totalSize := some 2,
               downloadedSize := 1 } := by
      decide +kernel
    obtain ⟨t, next, touched⟩ := store_touches going later there rfl
    exact ⟨after removedAndAskedAgain, .download 0 (.ok 0), t, after_reached _, next, touched⟩

end ChainRemote.Hq.Downloads
