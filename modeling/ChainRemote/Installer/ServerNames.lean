import ChainRemote.Agent.PushChecks
import ChainRemote.Lib.Base64
import ChainRemote.Lib.Lowercase
import ChainRemote.Lib.Slice
import ChainRemote.Lib.Split

/-!
# The server in the name of the program

A file name of the program can carry the server it belongs to: as parts behind commas, or as a
licence in base64. The place of the first part is looked up in the lower case of the name and used
in the name itself, so that it is right only where the text in front has as many bytes in lower
case.
-/

namespace ChainRemote.Installer.ServerNames

open Lib

/-- Characters of a name. -/
abbrev Text := List Char

/-- `CustomServer`. -/
structure CustomServer where
  key : Text
  host : Text
  api : Text
  relay : Text
deriving DecidableEq, Repr

/-- `serde_json::from_slice` for a server, and `sign::verify` of a message with a key. -/
structure Crates where
  fromSlice : List UInt8 → Option CustomServer
  verify : List UInt8 → List UInt8 → Option (List UInt8)

/-- What ends a call without a server. -/
inductive Fault
  /-- A slice that does not end at a character. -/
  | panic
  /-- `Failed to parse`. -/
  | failedToParse
deriving DecidableEq, Repr

/-- `PK`. -/
def PK : List UInt8 :=
  [88, 168, 68, 104, 60, 5, 163, 198, 165, 38, 12, 85, 114, 203, 96, 163, 70, 48, 0, 131, 57,
    12, 46, 129, 83, 17, 84, 193, 119, 197, 130, 103]

/-- `get_custom_server_from_config_string`, where none is any error. -/
def getCustomServerFromConfigString (crates : Crates) (s : Text) : Option CustomServer := do
  let data ← decodeBase64 s.reverse
  match crates.fromSlice data with
  | some lic => some lic
  | none =>
    match crates.verify data PK with
    | some data => crates.fromSlice data
    | none => none

/-- `s.trim()`. -/
def trim (s : Text) : Text := stripWhere Agent.rustBlank s

/-- The loop over the parts between hyphens, and over their parts between brackets. -/
def firstLicence (crates : Crates) : List Text → Option CustomServer
  | [] => none
  | s :: rest =>
    match getCustomServerFromConfigString crates (trim s) with
    | some lic => some lic
    | none =>
      if '(' ∈ s then
        let inner := (s.splitOn '(').findSome? fun s =>
          getCustomServerFromConfigString crates (trim s)
        match inner with
        | some lic => some lic
        | none => firstLicence crates rest
      else firstLicence crates rest

section Names

variable (lowercase : Lowercase)

/-- `&s[0..s.len() - n]`. -/
def withoutBytes (s : Text) (n : Nat) : Except Fault Text :=
  match splitAtByte s (String.utf8Len s - n) with
  | some parts => .ok parts.1
  | none => .error .panic

/-- The name without one or two extensions. -/
def withoutExe (s : Text) : Except Fault Text :=
  if ".exe.exe".toList.isSuffixOf (lowercase.toLowercase s) then withoutBytes s 8
  else if ".exe".toList.isSuffixOf (lowercase.toLowercase s) then withoutBytes s 4
  else .ok s

/-- The body of the loop over the parts between commas. -/
def readPart (server : CustomServer) (el : Text) : CustomServer :=
  let elLower := lowercase.toLowercase el
  let server :=
    if "host=".toList.isPrefixOf elLower then { server with host := el.drop 5 } else server
  let server :=
    if "key=".toList.isPrefixOf elLower then { server with key := el.drop 4 } else server
  let server :=
    if "api=".toList.isPrefixOf elLower then { server with api := el.drop 4 } else server
  if "relay=".toList.isPrefixOf elLower then { server with relay := el.drop 6 } else server

/-- `get_custom_server_from_string`. -/
def getCustomServerFromString (crates : Crates) (s : Text) : Except Fault CustomServer :=
  match withoutExe lowercase s with
  | .error fault => .error fault
  | .ok s =>
    if (textBefore "host=".toList (lowercase.toLowercase s)).isSome then
      match splitAtByte s ((findByte "host=".toList (lowercase.toLowercase s)).getD 0) with
      | none => .error .panic
      | some (_, stripped) =>
        .ok ((stripped.splitOn ',').foldl (readPart lowercase) ⟨[], [], [], []⟩)
    else
      let s := replaceText "-licensed---".toList "--".toList s
      let s := replaceText "-licensed--".toList "--".toList s
      let s := replaceText "-licensed-".toList "--".toList s
      match firstLicence crates (splitText "--".toList s) with
      | some lic => .ok lic
      | none => .error .failedToParse

/-! ## Extensions -/

/-- A name without one or two extensions in some case. -/
def stem (s : Text) : Text :=
  if EndsIgnoringCase ".exe.exe".toList s then s.take (s.length - 8)
  else if EndsIgnoringCase ".exe".toList s then s.take (s.length - 4)
  else s

/-- Each letter of a name in ASCII is one byte. -/
theorem utf8Len_ascii {part : Text} (ascii : ∀ c ∈ part, c.toNat < 128) :
    String.utf8Len part = part.length := by
  induction part with
  | nil => rfl
  | cons c part ih =>
    have low : c.val ≤ 127 :=
      UInt32.le_iff_toNat_le.mpr (Nat.lt_succ_iff.mp (ascii c List.mem_cons_self))
    have small : c.utf8Size = 1 := Char.utf8Size_eq_one_iff.mpr low
    rw [String.utf8Len_cons, small, List.length_cons,
      ih fun c inside => ascii c (List.mem_cons_of_mem _ inside)]

/-- An extension is cut off as bytes where it is one in some case. -/
theorem withoutBytes_eq {pattern s : Text} (plain : ∀ d ∈ pattern, PlainLetter d)
    (ends : EndsIgnoringCase pattern s) :
    withoutBytes s pattern.length = .ok (s.take (s.length - pattern.length)) := by
  obtain ⟨front, part, rfl, spelled⟩ := endsIgnoringCase_iff.mp ends
  have ascii : ∀ c ∈ part, c.toNat < 128 := fun c inside =>
    Lowercase.low_of_toLower (plain _ (spelled ▸ List.mem_map_of_mem inside)).1
  have size : pattern.length = part.length := by rw [← spelled, List.length_map]
  have place : String.utf8Len (front ++ part) - pattern.length = String.utf8Len front := by
    rw [String.utf8Len_append, utf8Len_ascii ascii, size]
    omega
  rw [withoutBytes, place, splitAtByte_append, List.length_append, size, Nat.add_sub_cancel,
    List.take_left]

/-- The name without its extensions is cut at characters. -/
theorem withoutExe_eq (s : Text) : withoutExe lowercase s = .ok (stem s) := by
  have two : ∀ d ∈ ".exe.exe".toList, PlainLetter d := plain_of_all (by decide)
  have one : ∀ d ∈ ".exe".toList, PlainLetter d := plain_of_all (by decide)
  have twice : ".exe.exe".toList.isSuffixOf (lowercase.toLowercase s) = true ↔
      EndsIgnoringCase ".exe.exe".toList s :=
    List.isSuffixOf_iff_suffix.trans (lowercase.suffix_iff two [] s [])
  have once : ".exe".toList.isSuffixOf (lowercase.toLowercase s) = true ↔
      EndsIgnoringCase ".exe".toList s :=
    List.isSuffixOf_iff_suffix.trans (lowercase.suffix_iff one [] s [])
  unfold withoutExe stem
  by_cases both : EndsIgnoringCase ".exe.exe".toList s
  · rw [if_pos both, if_pos (twice.mpr both)]
    exact withoutBytes_eq two both
  · rw [if_neg both, if_neg fun found => both (twice.mp found)]
    by_cases single : EndsIgnoringCase ".exe".toList s
    · rw [if_pos single, if_pos (once.mpr single)]
      exact withoutBytes_eq one single
    · rw [if_neg single, if_neg fun found => single (once.mp found)]

/-- A letter that no extension has in any case keeps what is in front of it. -/
theorem stem_append {mark : Char} (other : mark.toLower ∉ ".exe".toList) (front back : Text) :
    stem (front ++ mark :: back) = front ++ mark :: stem back := by
  have ends : ∀ {pattern : Text}, mark.toLower ∉ pattern →
      (EndsIgnoringCase pattern (front ++ mark :: back) ↔ EndsIgnoringCase pattern back) := by
    intro pattern outside
    unfold EndsIgnoringCase
    rw [List.map_append, List.map_cons]
    constructor
    · rintro ⟨start, whole⟩
      rcases List.append_eq_append_iff.mp whole with ⟨rest, -, inner⟩ | ⟨rest, -, inner⟩
      · exact absurd (inner ▸ List.mem_append_right _ List.mem_cons_self) outside
      · cases rest with
        | nil =>
          rw [List.nil_append] at inner
          exact absurd (inner ▸ List.mem_cons_self) outside
        | cons c rest => exact ⟨rest, (List.cons.inj inner).2.symm⟩
    · intro found
      exact (found.trans (List.suffix_cons _ _)).trans (List.suffix_append _ _)
  have cut : ∀ {pattern : Text}, EndsIgnoringCase pattern back →
      (front ++ mark :: back).take ((front ++ mark :: back).length - pattern.length) =
        front ++ mark :: back.take (back.length - pattern.length) := by
    intro pattern found
    have short : pattern.length ≤ back.length := by
      have size := found.length_le
      rwa [List.length_map] at size
    have place : (front ++ mark :: back).length - pattern.length =
        front.length + (back.length - pattern.length + 1) := by
      rw [List.length_append, List.length_cons]
      omega
    rw [place, List.take_length_add_append, List.take_succ_cons]
  have doubled : mark.toLower ∉ ".exe.exe".toList := by
    intro inside
    have letters : ".exe.exe".toList = ".exe".toList ++ ".exe".toList := by decide
    rw [letters, List.mem_append, or_self] at inside
    exact other inside
  unfold stem
  by_cases both : EndsIgnoringCase ".exe.exe".toList back
  · rw [if_pos both, if_pos ((ends doubled).mpr both)]
    exact cut both
  · rw [if_neg both, if_neg fun found => both ((ends doubled).mp found)]
    by_cases single : EndsIgnoringCase ".exe".toList back
    · rw [if_pos single, if_pos ((ends other).mpr single)]
      exact cut single
    · rw [if_neg single, if_neg fun found => single ((ends other).mp found)]

/-! ## Parts -/

/-- The value of the last part with a name. -/
def lastNamed (name : Text) (parts : List Text) : Option Text :=
  (parts.filter fun el => name.isPrefixOf (lowercase.toLowercase el)).getLast?.map
    (List.drop name.length)

theorem lastNamed_append (name : Text) (parts : List Text) (el : Text) :
    lastNamed lowercase name (parts ++ [el]) =
      if name.isPrefixOf (lowercase.toLowercase el) then some (el.drop name.length)
      else lastNamed lowercase name parts := by
  unfold lastNamed
  rw [List.filter_append]
  by_cases named : name.isPrefixOf (lowercase.toLowercase el) = true
  · rw [if_pos named, List.filter_cons_of_pos
      (p := fun el => name.isPrefixOf (lowercase.toLowercase el)) named, List.filter_nil,
      List.getLast?_concat]
    rfl
  · rw [if_neg named, List.filter_cons_of_neg
      (p := fun el => name.isPrefixOf (lowercase.toLowercase el)) named, List.filter_nil,
      List.append_nil]

/-- The server that parts name. -/
def serverOf (parts : List Text) : CustomServer where
  key := (lastNamed lowercase "key=".toList parts).getD []
  host := (lastNamed lowercase "host=".toList parts).getD []
  api := (lastNamed lowercase "api=".toList parts).getD []
  relay := (lastNamed lowercase "relay=".toList parts).getD []

/-- The loop returns the last values. -/
theorem foldl_readPart (parts : List Text) :
    parts.foldl (readPart lowercase) ⟨[], [], [], []⟩ = serverOf lowercase parts := by
  induction parts using List.reverseRecOn with
  | nil => rfl
  | append_singleton parts el ih =>
    have value : ∀ (name : Text), (lastNamed lowercase name (parts ++ [el])).getD [] =
        if name.isPrefixOf (lowercase.toLowercase el) then el.drop name.length
        else (lastNamed lowercase name parts).getD [] := by
      intro name
      rw [lastNamed_append, apply_ite (Option.getD · [])]
      rfl
    rw [List.foldl_append, List.foldl_cons, List.foldl_nil, ih]
    unfold serverOf readPart
    simp only [value]
    split_ifs <;> rfl

theorem lastNamed_cons (name : Text) (el : Text) (parts : List Text) :
    lastNamed lowercase name (el :: parts) =
      if name.isPrefixOf (lowercase.toLowercase el) then
        some ((lastNamed lowercase name parts).getD (el.drop name.length))
      else lastNamed lowercase name parts := by
  unfold lastNamed
  by_cases named : name.isPrefixOf (lowercase.toLowercase el) = true
  · rw [if_pos named, List.filter_cons_of_pos
      (p := fun el => name.isPrefixOf (lowercase.toLowercase el)) named, List.getLast?_cons]
    cases (parts.filter fun el => name.isPrefixOf (lowercase.toLowercase el)).getLast? <;> rfl
  · rw [if_neg named, List.filter_cons_of_neg
      (p := fun el => name.isPrefixOf (lowercase.toLowercase el)) named]

/-! ## Names with a host -/

theorem host_plain : ∀ d ∈ "host=".toList, PlainLetter d := plain_of_all (by decide)

/-- The name of the first part ends with an equals sign. -/
theorem exists_mark {tag : Text} (tagged : tag.map Char.toLower = "host=".toList) :
    ∃ letters mark, tag = letters ++ [mark] ∧ mark.toLower = '=' := by
  have whole : tag.map Char.toLower = "host".toList ++ ['='] := tagged
  obtain ⟨letters, ending, split, -, last⟩ := List.map_eq_append_iff.mp whole
  obtain ⟨mark, rfl, equals⟩ := List.map_eq_singleton_iff.mp last
  exact ⟨letters, mark, split, equals⟩

/-- A name that has `host=` in some case begins with a text without it. -/
theorem exists_host {s : Text} (named : HasIgnoringCase "host=".toList s) :
    ∃ p tag r, s = p ++ tag ++ r ∧ tag.map Char.toLower = "host=".toList ∧
      ¬ HasIgnoringCase "host=".toList p := by
  induction s with
  | nil => exact absurd (List.infix_nil.mp named) (by decide)
  | cons c s ih =>
    by_cases here : "host=".toList <+: (c :: s).map Char.toLower
    · obtain ⟨tail, whole⟩ := here
      obtain ⟨tag, r, split, tagged, -⟩ := List.map_eq_append_iff.mp whole.symm
      exact ⟨[], tag, r, split, tagged, by decide⟩
    · obtain ⟨p, tag, r, rfl, tagged, first⟩ :=
        ih ((List.infix_cons_iff.mp named).resolve_left here)
      refine ⟨c :: p, tag, r, rfl, tagged, fun found => ?_⟩
      rcases List.infix_cons_iff.mp found with begins | later
      · refine here (begins.trans ?_)
        rw [List.append_assoc, ← List.cons_append, List.map_append]
        exact List.prefix_append _ _
      · exact first later

/-- A name with `host=` is read by its parts, where the text in front keeps its length in lower
case. -/
theorem host_server (crates : Crates) {p tag : Text}
    (tagged : tag.map Char.toLower = "host=".toList) (first : ¬ HasIgnoringCase "host=".toList p)
    (sized : String.utf8Len (lowercase.toLowercase p) = String.utf8Len p) (r : Text) :
    getCustomServerFromString lowercase crates (p ++ tag ++ r) =
      .ok (serverOf lowercase ((tag ++ stem r).splitOn ',')) := by
  obtain ⟨letters, mark, split, equals⟩ := exists_mark tagged
  have shorter : stem (p ++ tag ++ r) = p ++ (tag ++ stem r) := by
    have kept := @stem_append mark (by rw [equals]; decide) (p ++ letters) r
    rw [split, List.append_assoc, List.append_assoc, List.append_assoc]
    rwa [List.append_assoc, List.append_assoc] at kept
  let front := lowercase.between [] p (tag ++ stem r)
  let back := lowercase.between (tag.reverse ++ (p.reverse ++ [])) (stem r) []
  have lower : lowercase.toLowercase (p ++ (tag ++ stem r)) =
      front ++ ("host".toList ++ ['='] ++ back) := by
    have parts := lowercase.between_append [] p (tag ++ stem r) []
    rw [lowercase.between_append (p.reverse ++ []) tag (stem r) [],
      lowercase.between_part tagged host_plain, List.append_nil] at parts
    exact parts
  have before : textBefore "host=".toList (lowercase.toLowercase (p ++ (tag ++ stem r))) =
      some front := by
    rw [lower]
    have once : '=' ∉ "host".toList := by decide
    exact textBefore_append once
      (fun inside => first ((lowercase.infix_iff host_plain [] p _).mp inside)) back
  have place : findByte "host=".toList (lowercase.toLowercase (p ++ (tag ++ stem r))) =
      some (String.utf8Len p) := by
    rw [findByte, before, Option.map_some, lowercase.utf8Len_between, sized]
  rw [getCustomServerFromString, withoutExe_eq, shorter]
  simp only
  rw [before, place, if_pos Option.isSome_some, Option.getD_some, splitAtByte_append]
  exact congrArg _ (foldl_readPart lowercase _)

/-- What a name has behind its host: nothing, an extension or further parts. -/
def BehindHost (rest : Text) : Prop :=
  rest = [] ∨ rest.map Char.toLower = ".exe".toList ∨ ∃ more, rest = ',' :: more

/-- An extension behind a host without one is cut off, and so is one behind further parts. -/
theorem stem_host {h rest : Text} (plain : ¬ EndsIgnoringCase ".exe".toList h)
    (continues : BehindHost rest) :
    stem (h ++ rest) = h ++ stem rest ∧ (stem rest = [] ∨ ∃ more, stem rest = ',' :: more) := by
  have single : ∀ {text : Text}, EndsIgnoringCase ".exe.exe".toList text →
      EndsIgnoringCase ".exe".toList text := fun found =>
    (show ".exe".toList <:+ ".exe.exe".toList from ⟨".exe".toList, rfl⟩).trans found
  have short : ¬ EndsIgnoringCase ".exe".toList [] := by decide
  rcases continues with rfl | extension | ⟨more, rfl⟩
  · have none : stem [] = [] := rfl
    rw [none, List.append_nil, stem, if_neg fun found => plain (single found), if_neg plain]
    exact ⟨rfl, .inl rfl⟩
  · have size : rest.length = 4 := by
      have same := congrArg List.length extension
      rwa [List.length_map] at same
    have ends : ∀ {text : Text}, EndsIgnoringCase ".exe".toList (text ++ rest) := by
      intro text
      rw [EndsIgnoringCase, List.map_append, extension]
      exact List.suffix_append _ _
    have twice : ∀ {text : Text}, ¬ EndsIgnoringCase ".exe".toList text →
        ¬ EndsIgnoringCase ".exe.exe".toList (text ++ rest) := by
      rintro text other ⟨front, whole⟩
      rw [List.map_append, extension] at whole
      have inner : (front ++ ".exe".toList) ++ ".exe".toList =
          text.map Char.toLower ++ ".exe".toList := by
        rw [← whole, List.append_assoc]
        rfl
      exact other ⟨front, List.append_cancel_right inner⟩
    have cut : ∀ {text : Text}, ¬ EndsIgnoringCase ".exe".toList text →
        stem (text ++ rest) = text := by
      intro text other
      rw [stem, if_neg (twice other), if_pos ends, List.length_append, size, Nat.add_sub_cancel,
        List.take_left]
    have none : stem rest = [] := cut short
    rw [cut plain, none, List.append_nil]
    exact ⟨rfl, .inl rfl⟩
  · have comma : ','.toLower ∉ ".exe".toList := by decide
    have own : stem (',' :: more) = ',' :: stem more := stem_append comma [] more
    rw [own, stem_append comma h more]
    exact ⟨rfl, .inr ⟨_, rfl⟩⟩

/-- The first part is the host, and the others are behind it. -/
theorem splitOn_host {first rest : Text} (solid : ',' ∉ first)
    (continues : rest = [] ∨ ∃ more, rest = ',' :: more) :
    (first ++ rest).splitOn ',' = first :: (rest.splitOn ',').tail := by
  rcases continues with rfl | ⟨more, rfl⟩
  · rw [List.append_nil]
    exact List.splitOn_eq_singleton solid
  · have behind : (',' :: more).splitOn ',' = [] :: more.splitOn ',' :=
      List.splitOn_append_cons_self [] more
    rw [behind, List.splitOn_append_cons_self, List.splitOn_eq_singleton solid]
    rfl

/-- The host that is named first counts, unless a later part is named so. -/
theorem serverOf_host {tag : Text} (tagged : tag.map Char.toLower = "host=".toList) (h : Text)
    (others : List Text) :
    serverOf lowercase ((tag ++ h) :: others) = {
      key := (lastNamed lowercase "key=".toList others).getD []
      host := (lastNamed lowercase "host=".toList others).getD h
      api := (lastNamed lowercase "api=".toList others).getD []
      relay := (lastNamed lowercase "relay=".toList others).getD [] } := by
  have lower : lowercase.toLowercase (tag ++ h) =
      "host=".toList ++ lowercase.between (tag.reverse ++ []) h [] := by
    rw [Lowercase.toLowercase, lowercase.between_append, lowercase.between_part tagged host_plain]
  have size : tag.length = 5 := by
    have same := congrArg List.length tagged
    rwa [List.length_map] at same
  have named : "host=".toList.isPrefixOf (lowercase.toLowercase (tag ++ h)) = true := by
    rw [lower]
    exact List.isPrefixOf_iff_prefix.mpr (List.prefix_append _ _)
  have unnamed : ∀ name : Text, name.head? ≠ some 'h' → name ≠ [] →
      ¬ name.isPrefixOf (lowercase.toLowercase (tag ++ h)) = true := by
    intro name different nonempty found
    obtain ⟨c, letters, rfl⟩ := List.exists_cons_of_ne_nil nonempty
    rw [lower] at found
    have same := (List.cons_prefix_cons.mp (List.isPrefixOf_iff_prefix.mp found)).1
    exact different (congrArg some same)
  have value : (tag ++ h).drop "host=".toList.length = h := List.drop_left' size
  unfold serverOf
  rw [lastNamed_cons, lastNamed_cons, lastNamed_cons, lastNamed_cons, if_pos named, value,
    if_neg (unnamed _ (by decide) (by decide)), if_neg (unnamed _ (by decide) (by decide)),
    if_neg (unnamed _ (by decide) (by decide))]
  rfl

/-- A name with `host=` is read without a fault, where the text in front of it keeps its length in
lower case. Its values are those of the last parts with their names. -/
theorem host_names_parse (crates : Crates) {p tag : Text}
    (tagged : tag.map Char.toLower = "host=".toList) (first : ¬ HasIgnoringCase "host=".toList p)
    (sized : String.utf8Len (lowercase.toLowercase p) = String.utf8Len p) :
    (∀ r, ∃ server, getCustomServerFromString lowercase crates (p ++ tag ++ r) = .ok server) ∧
    ∀ h rest, ',' ∉ h → ¬ EndsIgnoringCase ".exe".toList h → BehindHost rest →
      let others := ((stem rest).splitOn ',').tail
      getCustomServerFromString lowercase crates (p ++ tag ++ (h ++ rest)) = .ok {
        key := (lastNamed lowercase "key=".toList others).getD []
        host := (lastNamed lowercase "host=".toList others).getD h
        api := (lastNamed lowercase "api=".toList others).getD []
        relay := (lastNamed lowercase "relay=".toList others).getD [] } := by
  refine ⟨fun r => ⟨_, host_server lowercase crates tagged first sized r⟩, ?_⟩
  intro h rest solid plain continues others
  have cut := stem_host plain continues
  have letters : ',' ∉ tag ++ h := by
    intro inside
    cases List.mem_append.mp inside with
    | inl within =>
      have marked : ','.toLower ∈ "host=".toList := tagged ▸ List.mem_map_of_mem within
      exact absurd marked (by decide)
    | inr within => exact solid within
  rw [host_server lowercase crates tagged first sized, cut.1, ← List.append_assoc,
    splitOn_host letters cut.2, serverOf_host lowercase tagged]

end Names

/-- Lower case as far as the names here have it. -/
def someLowercase : Lowercase where
  char c :=
    if c.toNat < 128 then [c.toLower]
    else if c = 'ẞ' then ['ß']
    else if c = 'İ' then ['i', '\u0307']
    else if c = '\u212A' then ['k']
    else [c]
  sigma _ _ := 'σ'
  char_ne_nil c := by split_ifs <;> exact List.cons_ne_nil _ _
  ascii c low := if_pos low
  foreign c high d member low := by
    rw [if_neg (by omega)] at member
    split_ifs at member with sharp dotted kelvin
    · obtain rfl := List.mem_singleton.mp member
      exact absurd low (by decide)
    · rcases List.mem_cons.mp member with i | dot
      · exact .inl i
      · obtain rfl := List.mem_singleton.mp dot
        exact absurd low (by decide)
    · exact .inr (List.mem_singleton.mp member)
    · obtain rfl := List.mem_singleton.mp member
      omega
  small _ _ := .inl rfl

/-- Nothing is called for a name with a host. -/
def noCrates : Crates := ⟨fun _ => none, fun _ _ => none⟩

/-- A host and a key. -/
theorem host_and_key_parse :
    getCustomServerFromString someLowercase noCrates
        ("rustdesk-".toList ++ "Host=".toList ++ ("a.b".toList ++ ",key=k.exe".toList)) =
      .ok ⟨"k".toList, "a.b".toList, [], []⟩ :=
  ((host_names_parse someLowercase noCrates (by decide) (by decide) (by decide)).2 _ _
    (by decide) (by decide) (.inr (.inr ⟨_, rfl⟩))).trans (by decide +kernel)

/-- A character in front that is shorter in lower case, and a second host. -/
theorem host_misplaced :
    getCustomServerFromString someLowercase noCrates "ẞhost=a".toList = .error .panic ∧
    getCustomServerFromString someLowercase noCrates "host=a,host=b".toList =
      .ok ⟨[], "b".toList, [], []⟩ := by
  decide +kernel

end ChainRemote.Installer.ServerNames
