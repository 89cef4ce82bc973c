import ChainRemote.Lib.Maps
import ChainRemote.Lib.Utf16
import ChainRemote.Lib.Utf8

/-!
# The data of the old program

At its first start the program copies the settings of its predecessor. A file that is there already
is never written, and of several that would arrive under one name the first one does. The prefix of
the old program is replaced at every level and not only at the top, so that a file further down can
arrive under a name at which nobody looks for it.
-/

namespace ChainRemote.Installer.LegacyMigration

open Lib

/-- A file name: the units of a name on Windows, where a surrogate may be alone. -/
abbrev Name := List UInt16

/-- The units of a text. -/
def units (text : String) : Name := encodeUtf16 text.toList

/-- `to_string_lossy`. -/
def toStringLossy (name : Name) : List Char :=
  (codePoints name).map (Sum.elim id fun _ => replacement)

/-- `strip_prefix`. -/
def stripPrefix (start : String) (text : List Char) : Option (List Char) :=
  if start.toList.isPrefixOf text then some (text.drop start.toList.length) else none

/-- `rename_legacy`. -/
def renameLegacy (name : Name) : Name :=
  let s := toStringLossy name
  match stripPrefix "RustDesk" s with
  | some rest => encodeUtf16 ("ChainRemote".toList ++ rest)
  | none =>
    match stripPrefix "rustdesk" s with
    | some rest => encodeUtf16 ("ChainRemote".toList ++ rest)
    | none => name

/-- What a path can be. -/
inductive Item
  | file (contents : List UInt8)
  | dir
deriving DecidableEq, Repr

/-- The entries of a directory of the source, as they are read. Links and devices are others. -/
inductive Entries
  | nil
  | file (name : Name) (contents : List UInt8) (rest : Entries)
  | dir (name : Name) (inside rest : Entries)
  | other (name : Name) (rest : Entries)
deriving Repr

/-- The entries of a directory at all levels with their paths, in the order in which they are
copied. -/
def Entries.listing : Entries → List (List Name × Item)
  | .nil => []
  | .file name contents rest => ([name], .file contents) :: rest.listing
  | .dir name inside rest =>
    ([name], .dir) :: (inside.listing.map fun entry => (name :: entry.1, entry.2)) ++ rest.listing
  | .other _ rest => rest.listing

/-- Which calls of the system succeed for a path. -/
structure Calls (Key : Type) where
  creates : List Key → Bool
  copies : List Key → Bool

section Copying

variable {Key : Type} [DecidableEq Key] (key : Name → Key)

/-- A destination: what is there at a path. Names with one key name one file, as those do that
differ in case only. -/
abbrev Disk (Key : Type) := List Key → Option Item

/-- `create_dir_all` below a directory that is there; `none` is an error. -/
def createDirAll (calls : Calls Key) (path : List Key) (disk : Disk Key) : Option (Disk Key) :=
  match disk path with
  | some .dir => some disk
  | some (.file _) => none
  | none => if calls.creates path then some (Function.update disk path (some .dir)) else none

/-- `fs::copy` of a file, unless its path exists. A failure is only logged. -/
def copyFile (calls : Calls Key) (path : List Key) (contents : List UInt8) (disk : Disk Key) :
    Disk Key :=
  if !(disk path).isSome && calls.copies path then
    Function.update disk path (some (.file contents))
  else disk

/-- The loop of `copy_dir_recursive` over the entries of a directory. -/
def copyEntries (calls : Calls Key) : Entries → List Key → Disk Key → Option (Disk Key)
  | .nil, _, disk => some disk
  | .file name contents rest, dst, disk =>
    let dstPath := dst ++ [key (renameLegacy name)]
    copyEntries calls rest dst (copyFile calls dstPath contents disk)
  | .dir name inside rest, dst, disk =>
    let dstPath := dst ++ [key (renameLegacy name)]
    ((createDirAll calls dstPath disk).bind (copyEntries calls inside dstPath)).bind
      (copyEntries calls rest dst)
  | .other _ rest, dst, disk => copyEntries calls rest dst disk

/-- `copy_dir_recursive`, for a directory that may be missing. -/
def copyDirRecursive (calls : Calls Key) (src : Option Entries) (dst : List Key) (disk : Disk Key) :
    Option (Disk Key) :=
  match src with
  | none => some disk
  | some entries => (createDirAll calls dst disk).bind (copyEntries key calls entries dst)

/-- A directory below another one is copied as one by itself. -/
theorem copyEntries_dir (calls : Calls Key) (name : Name) (inside rest : Entries) (dst : List Key)
    (disk : Disk Key) :
    copyEntries key calls (.dir name inside rest) dst disk =
      (copyDirRecursive key calls (some inside) (dst ++ [key (renameLegacy name)]) disk).bind
        (copyEntries key calls rest dst) := rfl

/-! ## What is there stays -/

/-- What is there on one disk is there on the other. -/
def Stays (before after : Disk Key) : Prop :=
  ∀ path item, before path = some item → after path = some item

omit [DecidableEq Key] in
theorem Stays.trans {first second third : Disk Key} (one : Stays first second)
    (two : Stays second third) : Stays first third :=
  fun path item there => two path item (one path item there)

theorem stays_update {disk : Disk Key} {path : List Key} (free : disk path = none) (item : Item) :
    Stays disk (Function.update disk path (some item)) := by
  intro other found there
  have different : other ≠ path := by
    rintro rfl
    rw [free] at there
    cases there
  rw [Function.update_of_ne different, there]

theorem createDirAll_stays {calls : Calls Key} {path : List Key} {disk after : Disk Key}
    (ran : createDirAll calls path disk = some after) :
    Stays disk after ∧ after path = some .dir := by
  unfold createDirAll at ran
  cases had : disk path with
  | some item =>
    rw [had] at ran
    cases item with
    | file contents => cases ran
    | dir =>
      cases Option.some.inj ran
      exact ⟨fun _ _ there => there, had⟩
  | none =>
    simp only [had] at ran
    by_cases creates : calls.creates path = true
    · rw [if_pos creates] at ran
      cases Option.some.inj ran
      exact ⟨stays_update had _, Function.update_self ..⟩
    · rw [if_neg creates] at ran
      cases ran

theorem copyFile_stays (calls : Calls Key) (path : List Key) (contents : List UInt8)
    (disk : Disk Key) : Stays disk (copyFile calls path contents disk) := by
  unfold copyFile
  by_cases copied : (!(disk path).isSome && calls.copies path) = true
  · rw [if_pos copied]
    have free : disk path = none := by
      rw [Bool.and_eq_true, Bool.not_eq_true', Option.isSome_eq_false_iff,
        Option.isNone_iff_eq_none] at copied
      exact copied.1
    exact stays_update free _
  · rw [if_neg copied]
    exact fun _ _ there => there

/-- Whatever calls fail, what is in the destination stays as it is. -/
theorem copyEntries_stays {calls : Calls Key} {entries : Entries} {dst : List Key}
    {disk after : Disk Key} (ran : copyEntries key calls entries dst disk = some after) :
    Stays disk after := by
  induction entries generalizing dst disk after with
  | nil =>
    cases Option.some.inj ran
    exact fun _ _ there => there
  | file name contents rest ih => exact (copyFile_stays calls _ contents disk).trans (ih ran)
  | dir name inside rest insideIh restIh =>
    obtain ⟨between, first, second⟩ := Option.bind_eq_some_iff.mp ran
    obtain ⟨made, created, filled⟩ := Option.bind_eq_some_iff.mp first
    exact ((createDirAll_stays created).1.trans (insideIh filled)).trans (restIh second)
  | other name rest ih => exact ih ran

/-! ## What arrives -/

/-- The entries of a directory as they arrive below a path. -/
def landings (entries : Entries) (dst : List Key) : List (List Key × Item) :=
  entries.listing.map fun entry => (dst ++ entry.1.map fun name => key (renameLegacy name), entry.2)

omit [DecidableEq Key] in
theorem landings_file (name : Name) (contents : List UInt8) (rest : Entries) (dst : List Key) :
    landings key (.file name contents rest) dst =
      (dst ++ [key (renameLegacy name)], .file contents) :: landings key rest dst := rfl

omit [DecidableEq Key] in
theorem landings_dir (name : Name) (inside rest : Entries) (dst : List Key) :
    landings key (.dir name inside rest) dst =
      (dst ++ [key (renameLegacy name)], .dir) ::
        (landings key inside (dst ++ [key (renameLegacy name)]) ++ landings key rest dst) := by
  unfold landings
  rw [Entries.listing, List.cons_append, List.map_cons, List.map_append, List.map_map]
  congr 2
  refine List.map_congr_left fun entry _ => ?_
  rw [Function.comp_apply, List.map_cons, List.append_assoc, List.singleton_append]

theorem createDirAll_eq {calls : Calls Key} {path : List Key} {disk after : Disk Key}
    (ran : createDirAll calls path disk = some after) : after = addMissing disk (path, .dir) := by
  unfold createDirAll at ran
  unfold addMissing
  cases had : disk path with
  | some item =>
    rw [had] at ran
    cases item with
    | file contents => cases ran
    | dir => exact (Option.some.inj ran).symm
  | none =>
    simp only [had] at ran
    by_cases creates : calls.creates path = true
    · rw [if_pos creates] at ran
      exact (Option.some.inj ran).symm
    · rw [if_neg creates] at ran
      cases ran

theorem copyFile_eq {calls : Calls Key} (copies : ∀ path, calls.copies path = true)
    (path : List Key) (contents : List UInt8) (disk : Disk Key) :
    copyFile calls path contents disk = addMissing disk (path, .file contents) := by
  unfold copyFile addMissing
  cases had : disk path with
  | some item => rfl
  | none => rw [copies path]; rfl

/-- Where no call fails, the copy adds to the destination what is missing there. -/
theorem copyEntries_eq {calls : Calls Key} (copies : ∀ path, calls.copies path = true)
    {entries : Entries} {dst : List Key} {disk after : Disk Key}
    (ran : copyEntries key calls entries dst disk = some after) :
    after = (landings key entries dst).foldl addMissing disk := by
  induction entries generalizing dst disk after with
  | nil => exact (Option.some.inj ran).symm
  | file name contents rest ih =>
    rw [landings_file, List.foldl_cons, ← copyFile_eq copies]
    exact ih ran
  | dir name inside rest insideIh restIh =>
    obtain ⟨between, first, second⟩ := Option.bind_eq_some_iff.mp ran
    obtain ⟨made, created, filled⟩ := Option.bind_eq_some_iff.mp first
    rw [landings_dir, List.foldl_cons, List.foldl_append, ← createDirAll_eq created,
      ← insideIh filled]
    exact restIh second
  | other name rest ih => exact ih ran

/-- Where no call fails, a path of the destination has what it had, or what arrives there first. -/
theorem copyDirRecursive_apply {calls : Calls Key} (copies : ∀ path, calls.copies path = true)
    {src : Entries} {before after : Disk Key}
    (ran : copyDirRecursive key calls (some src) [] before = some after) {path : List Key}
    (below : path ≠ []) :
    after path = (before path).or (firstValue path (landings key src [])) := by
  obtain ⟨made, created, filled⟩ := Option.bind_eq_some_iff.mp ran
  rw [copyEntries_eq key copies filled, foldl_addMissing, createDirAll_eq created, addMissing_apply,
    if_neg (Ne.symm below), Option.or_none]

/-! ## A second run -/

/-- The destination has all that arrives, and its directories as directories. -/
def Settled (disk : Disk Key) (arriving : List (List Key × Item)) : Prop :=
  ∀ entry ∈ arriving, ∃ item, disk entry.1 = some item ∧ (entry.2 = .dir → item = .dir)

omit [DecidableEq Key] in
theorem Settled.mono {before after : Disk Key} {arriving : List (List Key × Item)}
    (settled : Settled before arriving) (stays : Stays before after) : Settled after arriving := by
  intro entry member
  obtain ⟨item, there, kind⟩ := settled entry member
  exact ⟨item, stays _ _ there, kind⟩

theorem copyEntries_settled {calls : Calls Key} (copies : ∀ path, calls.copies path = true)
    {entries : Entries} {dst : List Key} {disk after : Disk Key}
    (ran : copyEntries key calls entries dst disk = some after) :
    Settled after (landings key entries dst) := by
  induction entries generalizing dst disk after with
  | nil =>
    intro entry member
    cases member
  | file name contents rest ih =>
    rw [landings_file]
    intro entry member
    cases List.mem_cons.mp member with
    | inl own =>
      let path := dst ++ [key (renameLegacy name)]
      have copied : copyFile calls path contents disk path =
          (disk path).or (some (.file contents)) := by
        rw [copyFile_eq copies, addMissing_apply, if_pos rfl]
      obtain ⟨item, there⟩ : ∃ item, copyFile calls path contents disk path = some item := by
        rw [copied]
        cases disk path with
        | none => exact ⟨_, rfl⟩
        | some item => exact ⟨item, rfl⟩
      have stays : Stays (copyFile calls path contents disk) after := copyEntries_stays key ran
      rw [own]
      exact ⟨item, stays _ _ there, fun file => nomatch file⟩
    | inr later => exact ih ran entry later
  | dir name inside rest insideIh restIh =>
    obtain ⟨between, first, second⟩ := Option.bind_eq_some_iff.mp ran
    obtain ⟨made, created, filled⟩ := Option.bind_eq_some_iff.mp first
    have later := copyEntries_stays key second
    rw [landings_dir]
    intro entry member
    cases List.mem_cons.mp member with
    | inl own =>
      rw [own]
      exact ⟨.dir, later _ _ (copyEntries_stays key filled _ _ (createDirAll_stays created).2),
        fun _ => rfl⟩
    | inr below =>
      cases List.mem_append.mp below with
      | inl within => exact (insideIh filled).mono later entry within
      | inr beside => exact restIh second entry beside
  | other name rest ih => exact ih ran

/-- Nothing is copied to a destination that has everything, whatever calls would fail. -/
theorem copyEntries_again (calls : Calls Key) {entries : Entries} {dst : List Key} {disk : Disk Key}
    (settled : Settled disk (landings key entries dst)) :
    copyEntries key calls entries dst disk = some disk := by
  induction entries generalizing dst with
  | nil => rfl
  | file name contents rest ih =>
    rw [landings_file] at settled
    obtain ⟨item, there, -⟩ := settled _ List.mem_cons_self
    have same : copyFile calls (dst ++ [key (renameLegacy name)]) contents disk = disk := by
      rw [copyFile, there]
      rfl
    show copyEntries key calls rest dst (copyFile calls _ contents disk) = some disk
    rw [same]
    exact ih fun entry member => settled entry (List.mem_cons_of_mem _ member)
  | dir name inside rest insideIh restIh =>
    rw [landings_dir] at settled
    obtain ⟨item, there, kind⟩ := settled _ List.mem_cons_self
    rw [kind rfl] at there
    have same : createDirAll calls (dst ++ [key (renameLegacy name)]) disk = some disk := by
      rw [createDirAll, there]
    have within := insideIh fun entry member =>
      settled entry (List.mem_cons_of_mem _ (List.mem_append_left _ member))
    have beside := restIh fun entry member =>
      settled entry (List.mem_cons_of_mem _ (List.mem_append_right _ member))
    show ((createDirAll calls _ disk).bind _).bind _ = some disk
    rw [same, Option.bind_some, within, Option.bind_some, beside]
  | other name rest ih => exact ih settled

/-- A second run changes nothing. -/
theorem copyDirRecursive_again {calls : Calls Key} (copies : ∀ path, calls.copies path = true)
    {src : Entries} {before after : Disk Key}
    (ran : copyDirRecursive key calls (some src) [] before = some after) (again : Calls Key) :
    copyDirRecursive key again (some src) [] after = some after := by
  obtain ⟨made, created, filled⟩ := Option.bind_eq_some_iff.mp ran
  have root := copyEntries_stays key filled _ _ (createDirAll_stays created).2
  have same : createDirAll again [] after = some after := by rw [createDirAll, root]
  show (createDirAll again [] after).bind _ = some after
  rw [same, Option.bind_some]
  exact copyEntries_again key again (copyEntries_settled key copies filled)

/-! ## Where a file belongs -/

/-- A name whose leading name of the old program is replaced. -/
def withoutLegacy (name : Name) : Name :=
  if (units "RustDesk").isPrefixOf name then
    units "ChainRemote" ++ name.drop (units "RustDesk").length
  else if (units "rustdesk").isPrefixOf name then
    units "ChainRemote" ++ name.drop (units "rustdesk").length
  else name

/-- The path at which a file belongs: only its first name is replaced. -/
def properPath : List Name → List Key
  | [] => []
  | top :: deeper => key (withoutLegacy top) :: deeper.map key

/-- What the migration is for: the files of the destination are kept, each file of the source is
where it belongs, with its contents unless something was there, and a second run changes nothing. -/
structure MigratedOnce (src : Entries) (before after : Disk Key) : Prop where
  kept : ∀ path contents, before path = some (.file contents) → after path = some (.file contents)
  present : ∀ names contents, (names, .file contents) ∈ src.listing →
    ∃ item, after (properPath key names) = some item ∧
      (before (properPath key names) = none → item = .file contents)
  again : ∀ calls, copyDirRecursive key calls (some src) [] after = some after

/-- For each file of the source whose place is free, the first entry that arrives there is a file
with the same contents. -/
def Arrives (src : Entries) (before : Disk Key) : Prop :=
  ∀ names contents, (names, .file contents) ∈ src.listing → before (properPath key names) = none →
    firstValue (properPath key names) (landings key src []) = some (.file contents)

theorem names_ne_nil {src : Entries} {entry : List Name × Item} (member : entry ∈ src.listing) :
    entry.1 ≠ [] := by
  induction src with
  | nil => cases member
  | file name contents rest ih =>
    cases List.mem_cons.mp member with
    | inl own => rw [own]; exact List.cons_ne_nil _ _
    | inr later => exact ih later
  | dir name inside rest _ ih =>
    cases List.mem_cons.mp member with
    | inl own => rw [own]; exact List.cons_ne_nil _ _
    | inr below =>
      cases List.mem_append.mp below with
      | inl within =>
        obtain ⟨deeper, -, same⟩ := List.mem_map.mp within
        rw [← same]
        exact List.cons_ne_nil _ _
      | inr beside => exact ih beside
  | other name rest ih => exact ih member

omit [DecidableEq Key] in
theorem properPath_ne_nil {names : List Name} (nonempty : names ≠ []) :
    properPath key names ≠ [] := by
  cases names with
  | nil => exact absurd rfl nonempty
  | cons top deeper => exact List.cons_ne_nil _ _

end Copying

/-! ## Plain sources -/

/-- A name begins with that of the old program. -/
def Legacy (name : Name) : Prop := units "RustDesk" <+: name ∨ units "rustdesk" <+: name

instance : DecidablePred Legacy := fun _ => inferInstanceAs (Decidable (_ ∨ _))

/-- Units read as a text without marks of replacement begin with the units of that text. -/
theorem toStringLossy_eq_append {start : List Char} (letters : replacement ∉ start) {name : Name}
    {rest : List Char} (read : toStringLossy name = start ++ rest) :
    ∃ tail, name = encodeUtf16 start ++ tail ∧ rest = toStringLossy tail := by
  induction start generalizing name with
  | nil => exact ⟨name, rfl, read.symm⟩
  | cons c start ih =>
    obtain ⟨point, points, split, first, last⟩ := List.map_eq_cons_iff.mp read
    rcases codePoints_eq_cons split with ⟨d, tail, rfl, rfl, rfl⟩ | ⟨unit, rfl⟩
    · obtain ⟨rest', rfl, same⟩ := ih (fun member => letters (List.mem_cons_of_mem _ member)) last
      obtain rfl : d = c := first
      exact ⟨rest', by rw [encodeUtf16_cons, List.append_assoc], same⟩
    · have lost : replacement = c := first
      exact absurd (lost ▸ List.mem_cons_self) letters

theorem toStringLossy_append (start : List Char) (tail : Name) :
    toStringLossy (encodeUtf16 start ++ tail) = start ++ toStringLossy tail := by
  unfold toStringLossy
  rw [codePoints_encode, List.map_append, List.map_map]
  congr 1
  exact List.map_id _

/-- A prefix is stripped from a name as it is read exactly where its units are stripped. -/
theorem stripPrefix_lossy (start : String) (letters : replacement ∉ start.toList) (name : Name) :
    stripPrefix start (toStringLossy name) =
      if (units start).isPrefixOf name then
        some (toStringLossy (name.drop (units start).length))
      else none := by
  unfold stripPrefix
  by_cases reads : start.toList.isPrefixOf (toStringLossy name) = true
  · obtain ⟨rest, whole⟩ := List.isPrefixOf_iff_prefix.mp reads
    obtain ⟨tail, rfl, same⟩ := toStringLossy_eq_append letters whole.symm
    have begins : (units start).isPrefixOf (units start ++ tail) = true :=
      List.isPrefixOf_iff_prefix.mpr (List.prefix_append _ _)
    rw [if_pos reads, ← whole, List.drop_left, same]
    show _ = if (units start).isPrefixOf (units start ++ tail) then
      some (toStringLossy ((units start ++ tail).drop (units start).length)) else none
    rw [if_pos begins, List.drop_left]
  · rw [if_neg reads, if_neg]
    intro begins
    obtain ⟨tail, rfl⟩ := List.isPrefixOf_iff_prefix.mp begins
    refine reads (List.isPrefixOf_iff_prefix.mpr ?_)
    show start.toList <+: toStringLossy (encodeUtf16 start.toList ++ tail)
    rw [toStringLossy_append]
    exact List.prefix_append _ _

/-- A renamed name: the prefix is replaced by its units, and surrogates that are alone in the rest
are lost. -/
theorem renameLegacy_eq (name : Name) :
    renameLegacy name =
      if (units "RustDesk").isPrefixOf name then
        units "ChainRemote" ++ encodeUtf16 (toStringLossy (name.drop (units "RustDesk").length))
      else if (units "rustdesk").isPrefixOf name then
        units "ChainRemote" ++ encodeUtf16 (toStringLossy (name.drop (units "rustdesk").length))
      else name := by
  have joined : ∀ rest, encodeUtf16 ("ChainRemote".toList ++ rest) =
      units "ChainRemote" ++ encodeUtf16 rest := fun rest => List.flatMap_append
  unfold renameLegacy
  simp only
  rw [stripPrefix_lossy "RustDesk" (by decide), stripPrefix_lossy "rustdesk" (by decide)]
  by_cases upper : (units "RustDesk").isPrefixOf name = true
  · rw [if_pos upper, if_pos upper]
    exact joined _
  · rw [if_neg upper, if_neg upper]
    by_cases lower : (units "rustdesk").isPrefixOf name = true
    · rw [if_pos lower, if_pos lower]
      exact joined _
    · rw [if_neg lower, if_neg lower]

/-- Names without the prefix are kept. -/
theorem renameLegacy_of_not {name : Name} (other : ¬ Legacy name) : renameLegacy name = name := by
  rw [renameLegacy_eq, if_neg, if_neg]
  · exact fun begins => other (.inr (List.isPrefixOf_iff_prefix.mp begins))
  · exact fun begins => other (.inl (List.isPrefixOf_iff_prefix.mp begins))

theorem withoutLegacy_of_not {name : Name} (other : ¬ Legacy name) : withoutLegacy name = name := by
  rw [withoutLegacy, if_neg, if_neg]
  · exact fun begins => other (.inr (List.isPrefixOf_iff_prefix.mp begins))
  · exact fun begins => other (.inl (List.isPrefixOf_iff_prefix.mp begins))

/-- What is behind a text in units that are a text is one too. -/
theorem encodeUtf16_toStringLossy {start : String} {name : Name} {text : List Char}
    (formed : decodeUtf16 name = some text) (begins : (units start).isPrefixOf name = true) :
    encodeUtf16 (toStringLossy (name.drop (units start).length)) =
      name.drop (units start).length := by
  obtain ⟨tail, rfl⟩ := List.isPrefixOf_iff_prefix.mp begins
  rw [List.drop_left]
  obtain ⟨rest, read, -⟩ := Option.map_eq_some_iff.mp ((decodeUtf16_encode _ _).symm.trans formed)
  have same := toStringLossy_append rest []
  rw [List.append_nil, encodeUtf16_decode read] at same
  rw [same]
  exact (congrArg encodeUtf16 (List.append_nil rest)).trans (encodeUtf16_decode read)

/-- In a name without lone surrogates the prefix alone is replaced. -/
theorem renameLegacy_of_text {name : Name} {text : List Char}
    (formed : decodeUtf16 name = some text) : renameLegacy name = withoutLegacy name := by
  rw [renameLegacy_eq, withoutLegacy]
  by_cases upper : (units "RustDesk").isPrefixOf name = true
  · rw [if_pos upper, if_pos upper, encodeUtf16_toStringLossy formed upper]
  · rw [if_neg upper, if_neg upper]
    by_cases lower : (units "rustdesk").isPrefixOf name = true
    · rw [if_pos lower, if_pos lower, encodeUtf16_toStringLossy formed lower]
    · rw [if_neg lower, if_neg lower]

section Plain

variable {Key : Type} [DecidableEq Key] (key : Name → Key)

/-- A source whose names begin with that of the old program at the top only, where they are texts,
and whose entries belong at different places. -/
structure Plain (src : Entries) : Prop where
  formed : ∀ entry ∈ src.listing, ∀ name ∈ entry.1.head?, Legacy name → decodeUtf16 name ≠ none
  topOnly : ∀ entry ∈ src.listing, ∀ name ∈ entry.1.tail, ¬ Legacy name
  apart : (src.listing.map fun entry => properPath key entry.1).Nodup

omit [DecidableEq Key] in
/-- The entries of a plain source arrive where they belong. -/
theorem Plain.landings_eq {src : Entries} (plain : Plain key src) :
    landings key src [] = src.listing.map fun entry => (properPath key entry.1, entry.2) := by
  refine List.map_congr_left fun entry member => ?_
  have top := plain.formed entry member
  have below := plain.topOnly entry member
  have nonempty := names_ne_nil member
  cases entry with
  | mk names item =>
    cases names with
    | nil => exact absurd rfl nonempty
    | cons first deeper =>
      have renamed : renameLegacy first = withoutLegacy first := by
        by_cases legacy : Legacy first
        · obtain ⟨text, formed⟩ := Option.ne_none_iff_exists'.mp (top first rfl legacy)
          exact renameLegacy_of_text formed
        · rw [renameLegacy_of_not legacy, withoutLegacy_of_not legacy]
      have kept : deeper.map (fun name => key (renameLegacy name)) = deeper.map key :=
        List.map_congr_left fun name inside => by rw [renameLegacy_of_not (below name inside)]
      show ([] ++ key (renameLegacy first) :: deeper.map (fun name => key (renameLegacy name)),
          item) = (key (withoutLegacy first) :: deeper.map key, item)
      rw [renamed, kept, List.nil_append]

/-- A plain source arrives in every destination. -/
theorem Plain.arrives {src : Entries} (plain : Plain key src) (before : Disk Key) :
    Arrives key src before := by
  intro names contents member _
  have apart := plain.apart
  have whole : (landings key src []).map Prod.fst =
      src.listing.map fun entry => properPath key entry.1 := by
    rw [plain.landings_eq, List.map_map]
    rfl
  rw [← whole] at apart
  have arrives : (properPath key names, Item.file contents) ∈ landings key src [] := by
    rw [plain.landings_eq]
    exact List.mem_map.mpr ⟨_, member, rfl⟩
  exact firstValue_of_mem apart arrives

/-- A copy without errors does what it is for exactly where each file of the source arrives first at
the place where it belongs. -/
theorem migratedOnce_iff {calls : Calls Key} (copies : ∀ path, calls.copies path = true)
    {src : Entries} {before after : Disk Key}
    (ran : copyDirRecursive key calls (some src) [] before = some after) :
    MigratedOnce key src before after ↔ Arrives key src before := by
  have found : ∀ {names contents}, (names, Item.file contents) ∈ src.listing →
      after (properPath key names) = (before (properPath key names)).or
        (firstValue (properPath key names) (landings key src [])) := fun member =>
    copyDirRecursive_apply key copies ran (properPath_ne_nil key (names_ne_nil member))
  constructor
  · intro migrated names contents member free
    obtain ⟨item, there, own⟩ := migrated.present names contents member
    rw [found member, free, Option.none_or, own free] at there
    exact there
  · intro arrives
    refine ⟨fun path contents there => ?_, fun names contents member => ?_,
      copyDirRecursive_again key copies ran⟩
    · obtain ⟨made, created, filled⟩ := Option.bind_eq_some_iff.mp ran
      exact copyEntries_stays key filled _ _ ((createDirAll_stays created).1 _ _ there)
    · rw [found member]
      cases had : before (properPath key names) with
      | some item => exact ⟨item, rfl, fun free => nomatch free⟩
      | none => exact ⟨_, arrives names contents member had, fun _ => rfl⟩

end Plain

/-- All calls of the system succeed. -/
def allCalls : Calls Name := ⟨fun _ => true, fun _ => true⟩

/-- The settings of the program and of one peer. -/
def oldSettings : Entries :=
  .dir (units "peers") (.file (units "4454.toml") [1] .nil)
    (.file (units "RustDesk2.toml") [2] .nil)

/-- The settings migrate to an empty destination. -/
theorem settings_migrate :
    ∃ after, copyDirRecursive id allCalls (some oldSettings) [] (fun _ => none) = some after ∧
      MigratedOnce id oldSettings (fun _ => none) after := by
  have runs : (copyDirRecursive id allCalls (some oldSettings) [] fun _ => none).isSome = true := by
    decide +kernel
  obtain ⟨after, ran⟩ := Option.isSome_iff_exists.mp runs
  have plain : Plain id oldSettings :=
    ⟨by decide +kernel, by decide +kernel, by decide +kernel⟩
  exact ⟨after, ran, (migratedOnce_iff id (fun _ => rfl) ran).mpr (plain.arrives id _)⟩

/-- The settings of a peer whose name begins with that of the old program. -/
def namedPeer : Entries :=
  .dir (units "peers") (.file (units "rustdesk-1.toml") [1] .nil) .nil

/-- The settings of a peer are not where they belong: the prefix of their name is replaced. -/
theorem peer_renamed :
    ∃ after, copyDirRecursive id allCalls (some namedPeer) [] (fun _ => none) = some after ∧
      ¬ MigratedOnce id namedPeer (fun _ => none) after := by
  let names := [units "peers", units "rustdesk-1.toml"]
  have runs : (copyDirRecursive id allCalls (some namedPeer) [] fun _ => none).isSome = true := by
    decide +kernel
  have member : (names, Item.file [1]) ∈ namedPeer.listing := by decide +kernel
  have nothing : firstValue (properPath id names) (landings id namedPeer []) = none := by
    decide +kernel
  obtain ⟨after, ran⟩ := Option.isSome_iff_exists.mp runs
  refine ⟨after, ran, fun migrated => ?_⟩
  obtain ⟨item, there, -⟩ := migrated.present names [1] member
  rw [copyDirRecursive_apply id (fun _ => rfl) ran
    (properPath_ne_nil id (names_ne_nil member)), nothing] at there
  cases there

end ChainRemote.Installer.LegacyMigration
