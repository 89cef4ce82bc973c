import ChainRemote.Installer.AgentCustomTxt
import ChainRemote.Installer.ServerNames
import ChainRemote.Lib.Utf8

/-!
# Licences in the name of the program

A licence is the JSON of a server in base64, written backwards. Base64 has hyphens too, but for
ASCII only in every fourth place, and the JSON of a server begins and ends with letters that no
separator has; so a licence is found between the separators, whatever Windows puts behind it.
-/

namespace ChainRemote.Installer.ServerNames

open Lib AgentCustomTxt

/-! ## The text of a licence -/

/-- A string in JSON, of characters. -/
def jsonText (value : Text) : Text :=
  '"' :: (value.flatMap fun c => quoteCodePoint (.inl c)) ++ ['"']

/-- The JSON of a server. -/
def toJson (server : CustomServer) : Text :=
  jsonObject [("key", jsonText server.key), ("host", jsonText server.host),
    ("api", jsonText server.api), ("relay", jsonText server.relay)]

/-- The licence of a server: its JSON in base64, backwards. -/
def licence (server : CustomServer) : Text :=
  (encodeBase64 (encodeUtf8 (toJson server))).reverse

/-- The fields of a server are ASCII. -/
structure CustomServer.Ascii (server : CustomServer) : Prop where
  key : ∀ c ∈ server.key, c.toNat < 128
  host : ∀ c ∈ server.host, c.toNat < 128
  api : ∀ c ∈ server.api, c.toNat < 128
  relay : ∀ c ∈ server.relay, c.toNat < 128

theorem ascii_of_all {text : Text} (checked : (text.all fun c => decide (c.toNat < 128)) = true) :
    ∀ c ∈ text, c.toNat < 128 :=
  fun c inside => of_decide_eq_true (List.all_eq_true.mp checked c inside)

theorem digitChar_ascii {n : ℕ} (small : n < 16) : (Nat.digitChar n).toNat < 128 := by
  have all : ∀ n ∈ List.range 16, (Nat.digitChar n).toNat < 128 := by decide
  exact all n (List.mem_range.mpr small)

/-- An escape is ASCII. -/
theorem unicodeEscape_ascii (n : ℕ) : ∀ c ∈ unicodeEscape n, c.toNat < 128 := by
  intro c inside
  simp only [unicodeEscape, List.mem_cons, List.not_mem_nil, or_false] at inside
  rcases inside with rfl | rfl | rfl | rfl | rfl | rfl
  · decide
  · decide
  · exact digitChar_ascii (Nat.mod_lt _ (by decide))
  · exact digitChar_ascii (Nat.mod_lt _ (by decide))
  · exact digitChar_ascii (Nat.mod_lt _ (by decide))
  · exact digitChar_ascii (Nat.mod_lt _ (by decide))

theorem quoteCodePoint_ascii {c : Char} (low : c.toNat < 128) :
    ∀ d ∈ quoteCodePoint (.inl c), d.toNat < 128 := by
  have pair : ∀ {d : Char}, d.toNat < 128 → ∀ e ∈ ['\\', d], e.toNat < 128 := by
    intro d small e inside
    rcases List.mem_cons.mp inside with rfl | last
    · decide
    · rwa [List.mem_singleton.mp last]
  unfold quoteCodePoint
  simp only
  split_ifs
  · exact pair (by decide)
  · exact pair (by decide)
  · exact pair (by decide)
  · exact pair (by decide)
  · exact pair (by decide)
  · exact pair (by decide)
  · exact pair (by decide)
  · exact unicodeEscape_ascii _
  · intro d inside
    rwa [List.mem_singleton.mp inside]

theorem jsonText_ascii {value : Text} (ascii : ∀ c ∈ value, c.toNat < 128) :
    ∀ c ∈ jsonText value, c.toNat < 128 := by
  intro c inside
  rcases List.mem_append.mp inside with front | last
  · rcases List.mem_cons.mp front with rfl | within
    · decide
    · obtain ⟨d, member, quoted⟩ := List.mem_flatMap.mp within
      exact quoteCodePoint_ascii (ascii d member) c quoted
  · rw [List.mem_singleton.mp last]
    decide

/-- The JSON of a server, letter for letter between its values. -/
theorem toJson_eq (server : CustomServer) :
    toJson server = ['{', '"', 'k', 'e', 'y', '"', ':'] ++ jsonText server.key ++
      [',', '"', 'h', 'o', 's', 't', '"', ':'] ++ jsonText server.host ++
      [',', '"', 'a', 'p', 'i', '"', ':'] ++ jsonText server.api ++
      [',', '"', 'r', 'e', 'l', 'a', 'y', '"', ':'] ++ jsonText server.relay ++ ['}'] := by
  have key : jsonString (units "key") = ['"', 'k', 'e', 'y', '"'] := by decide
  have host : jsonString (units "host") = ['"', 'h', 'o', 's', 't', '"'] := by decide
  have api : jsonString (units "api") = ['"', 'a', 'p', 'i', '"'] := by decide
  have relay : jsonString (units "relay") = ['"', 'r', 'e', 'l', 'a', 'y', '"'] := by decide
  unfold toJson jsonObject
  rw [List.map_cons, List.map_cons, List.map_cons, List.map_cons, List.map_nil,
    List.intercalate_cons_cons, List.intercalate_cons_cons, List.intercalate_cons_cons,
    List.intercalate_singleton, key, host, api, relay]
  simp only [List.append_assoc, List.cons_append, List.nil_append]

theorem toJson_ascii {server : CustomServer} (ascii : server.Ascii) :
    ∀ c ∈ toJson server, c.toNat < 128 := by
  rw [toJson_eq]
  simp only [List.forall_mem_append]
  exact ⟨⟨⟨⟨⟨⟨⟨⟨ascii_of_all rfl, jsonText_ascii ascii.key⟩, ascii_of_all rfl⟩,
    jsonText_ascii ascii.host⟩, ascii_of_all rfl⟩, jsonText_ascii ascii.api⟩, ascii_of_all rfl⟩,
    jsonText_ascii ascii.relay⟩, ascii_of_all rfl⟩

/-- ASCII is one byte a character. -/
theorem encodeUtf8_ascii {text : Text} (ascii : ∀ c ∈ text, c.toNat < 128) :
    encodeUtf8 text = text.map fun c => UInt8.ofNat c.toNat := by
  induction text with
  | nil => rfl
  | cons c text ih =>
    have low := ascii c List.mem_cons_self
    have single : String.utf8EncodeChar c = [UInt8.ofNat c.toNat] := by
      have fits : c.val.toNat ≤ 0x7f := Nat.lt_succ_iff.mp low
      unfold String.utf8EncodeChar
      simp only
      rw [if_pos fits]
      rfl
    rw [encodeUtf8, List.flatMap_cons, single]
    exact congrArg _ (ih fun d inside => ascii d (List.mem_cons_of_mem _ inside))

/-! ## The letters of a licence -/

/-- What the separators meet in a licence: letters of base64, hyphens in every fourth place, and no
hyphen and no letter of a separator at either end. -/
structure Coded (e : Text) : Prop where
  letters : ∀ c ∈ e, (base64Value c).isSome = true
  first : ∃ c rest, e = c :: rest ∧ c ∈ ['9', '0', 'Q']
  ending : ∃ front, e = front ++ ['J', 'y', 'e']
  hyphens : ∀ i j : ℕ, e[i]? = some '-' → e[j]? = some '-' → i % 4 = j % 4

/-- The licence of an ASCII server. -/
theorem coded_licence {server : CustomServer} (ascii : server.Ascii) : Coded (licence server) := by
  have bytes := encodeUtf8_ascii (toJson_ascii ascii)
  have low : ∀ byte ∈ encodeUtf8 (toJson server), byte.toNat < 128 := by
    intro byte inside
    rw [bytes] at inside
    obtain ⟨c, member, rfl⟩ := List.mem_map.mp inside
    have small := toJson_ascii ascii c member
    rwa [UInt8.toNat_ofNat_of_lt' (by show _ < 256; omega)]
  have begins : ∃ rest, encodeUtf8 (toJson server) = 0x7b :: 0x22 :: 0x6b :: rest := by
    rw [bytes, toJson_eq]
    simp only [List.append_assoc, List.cons_append, List.map_cons]
    exact ⟨_, rfl⟩
  have finish : ∃ front, encodeUtf8 (toJson server) = front ++ [0x7d] := by
    rw [bytes, toJson_eq, List.map_append]
    exact ⟨_, rfl⟩
  constructor
  · intro c inside
    exact encodeBase64_letters _ c (List.mem_reverse.mp inside)
  · obtain ⟨front, whole⟩ := finish
    obtain ⟨letters, c, encoded, member⟩ := last_encodeBase64 front 0x7d
    refine ⟨c, letters.reverse, ?_, member⟩
    rw [licence, whole, encoded, List.reverse_append]
    rfl
  · obtain ⟨rest, whole⟩ := begins
    have encoded : encodeBase64 (0x7b :: 0x22 :: 0x6b :: rest) =
        'e' :: 'y' :: 'J' :: 'r' :: encodeBase64 rest := rfl
    refine ⟨(encodeBase64 rest).reverse ++ ['r'], ?_⟩
    rw [licence, whole, encoded]
    simp only [List.reverse_cons, List.append_assoc, List.cons_append, List.nil_append]
  · let encoded := encodeBase64 (encodeUtf8 (toJson server))
    have place : ∀ k : ℕ, (licence server)[k]? = some '-' →
        k < encoded.length ∧ (encoded.length - 1 - k) % 4 = 3 := by
      intro k hyphen
      obtain ⟨bound, -⟩ := List.getElem?_eq_some_iff.mp hyphen
      have inside : k < encoded.length := by rwa [licence, List.length_reverse] at bound
      rw [licence, List.getElem?_reverse inside] at hyphen
      exact ⟨inside, hyphen_place low hyphen⟩
    intro i j one two
    have first := place i one
    have second := place j two
    omega

/-- A letter of base64 is between the hyphen and the letter z. -/
theorem base64_range {c : Char} (letter : (base64Value c).isSome = true) :
    45 ≤ c.toNat ∧ c.toNat ≤ 122 := by
  unfold base64Value at letter
  by_cases upper : 'A' ≤ c ∧ c ≤ 'Z'
  · have low : 65 ≤ c.toNat := upper.1
    have high : c.toNat ≤ 90 := upper.2
    omega
  · by_cases lower : 'a' ≤ c ∧ c ≤ 'z'
    · have low : 97 ≤ c.toNat := lower.1
      have high : c.toNat ≤ 122 := lower.2
      omega
    · by_cases digit : '0' ≤ c ∧ c ≤ '9'
      · have low : 48 ≤ c.toNat := digit.1
        have high : c.toNat ≤ 57 := digit.2
        omega
      · rw [if_neg upper, if_neg lower, if_neg digit] at letter
        by_cases hyphen : c = '-'
        · rw [hyphen]
          decide
        · rw [if_neg hyphen] at letter
          by_cases underscore : c = '_'
          · rw [underscore]
            decide
          · rw [if_neg underscore] at letter
            cases letter

theorem not_blank {c : Char} (letter : (base64Value c).isSome = true) :
    Agent.rustBlank c = false := by
  have range := base64_range letter
  simp only [Agent.rustBlank, Bool.or_eq_false_iff, Bool.and_eq_false_iff,
    decide_eq_false_iff_not, beq_eq_false_iff_ne]
  omega

/-- The separator of a licence, letter for letter. -/
theorem tag_letters : "-licensed-".toList =
    ['-', 'l', 'i', 'c', 'e', 'n', 's', 'e', 'd', '-'] := by decide

namespace Coded

variable {e : Text}

/-- What is left of a licence from some place on is a part of its end, or has its end. -/
theorem tail_cases (coded : Coded e) {before after : Text} (whole : e = before ++ after) :
    after <:+ ['J', 'y', 'e'] ∨ 'J' ∈ after := by
  obtain ⟨front, split⟩ := coded.ending
  have one : after <:+ e := ⟨before, whole.symm⟩
  have two : ['J', 'y', 'e'] <:+ e := ⟨front, split.symm⟩
  by_cases short : after.length ≤ 3
  · exact .inl (List.suffix_of_suffix_length_le one two short)
  · have long : ['J', 'y', 'e'].length ≤ after.length := by
      rw [List.length_cons, List.length_cons, List.length_singleton]
      omega
    have last := List.suffix_of_suffix_length_le two one long
    exact .inr (last.subset List.mem_cons_self)

/-- No separator with the tag begins within a licence. -/
theorem free_tag (coded : Coded e) (back : Text) : Free "-licensed-".toList e back := by
  rintro before after nonempty whole ⟨tail, found⟩
  rw [tag_letters] at found
  obtain ⟨c, rest, rfl⟩ := List.exists_cons_of_ne_nil nonempty
  rcases List.append_eq_append_iff.mp found with ⟨more, inside, -⟩ | ⟨more, inside, -⟩
  · -- the last hyphen is nine places behind the first one
    have one : e[before.length]? = some '-' := by
      rw [whole, inside]
      simp
    have two : e[before.length + 9]? = some '-' := by
      rw [whole, inside]
      simp
    have places := coded.hyphens _ _ one two
    omega
  · -- the end of the licence would be in the separator
    have hyphen : c = '-' := (List.cons.inj inside).1.symm
    cases coded.tail_cases whole with
    | inl ending =>
      have member := ending.subset List.mem_cons_self
      rw [hyphen] at member
      exact absurd member (by decide)
    | inr capital =>
      have member : 'J' ∈ ['-', 'l', 'i', 'c', 'e', 'n', 's', 'e', 'd', '-'] := by
        rw [inside]
        exact List.mem_append_left _ capital
      exact absurd member (by decide)

/-- No two hyphens begin within a licence. -/
theorem free_hyphens (coded : Coded e) (back : Text) : Free "--".toList e back := by
  rintro before after nonempty whole ⟨tail, found⟩
  have letters : "--".toList = ['-', '-'] := by decide
  rw [letters] at found
  obtain ⟨c, rest, rfl⟩ := List.exists_cons_of_ne_nil nonempty
  obtain ⟨hyphen, next⟩ := List.cons.inj found
  cases rest with
  | nil =>
    cases coded.tail_cases whole with
    | inl ending =>
      have member := ending.subset List.mem_cons_self
      rw [← hyphen] at member
      exact absurd member (by decide)
    | inr capital =>
      rw [← hyphen] at capital
      exact absurd capital (by decide)
  | cons d rest =>
    have second : d = '-' := (List.cons.inj next).1.symm
    have one : e[before.length]? = some '-' := by
      rw [whole, ← hyphen]
      simp
    have two : e[before.length + 1]? = some '-' := by
      rw [whole, second]
      simp
    have places := coded.hyphens _ _ one two
    omega

/-- A longer separator than the one in front of a licence is nowhere in it. -/
theorem replace_longer (coded : Coded e) (ext new back : Text) :
    replaceText ("-licensed-".toList ++ '-' :: ext) new
        ("rustdesk".toList ++ ("-licensed-".toList ++ (e ++ back))) =
      "rustdesk".toList ++ ("-licensed-".toList ++
        (e ++ replaceText ("-licensed-".toList ++ '-' :: ext) new back)) := by
  obtain ⟨c, rest, split, letter⟩ := coded.first
  have noHyphen : '-' ≠ c := by
    rintro rfl
    exact absurd letter (by decide)
  have noLetter : 'l' ≠ c := by
    rintro rfl
    exact absurd letter (by decide)
  have tag : "-licensed-".toList = '-' :: ("licensed".toList ++ ['-']) := by decide
  have shape : "-licensed-".toList ++ '-' :: ext =
      '-' :: ("licensed".toList ++ '-' :: '-' :: ext) := by
    rw [tag]
    simp only [List.append_assoc, List.cons_append, List.nil_append]
  have letters : "licensed".toList = 'l' :: "icensed".toList := by decide
  have here : ¬ '-' :: ("licensed".toList ++ '-' :: '-' :: ext) <+:
      '-' :: ("licensed".toList ++ '-' :: (e ++ back)) := by
    intro found
    have later := (List.prefix_append_right_inj _).mp (List.cons_prefix_cons.mp found).2
    rw [split] at later
    exact noHyphen (List.cons_prefix_cons.mp (List.cons_prefix_cons.mp later).2).1
  have behind : ¬ '-' :: ("licensed".toList ++ '-' :: '-' :: ext) <+: '-' :: (e ++ back) := by
    intro found
    have later := (List.cons_prefix_cons.mp found).2
    rw [split, letters] at later
    exact noLetter (List.cons_prefix_cons.mp later).1
  have inside : Free ('-' :: ("licensed".toList ++ '-' :: '-' :: ext)) e back := by
    rw [← shape]
    exact (coded.free_tag back).mono (List.prefix_append _ _)
  have name : '-' ∉ "rustdesk".toList := by decide
  have word : '-' ∉ "licensed".toList := by decide
  rw [shape, tag, replaceText_free (free_of_not_mem name _ _)]
  simp only [List.append_assoc, List.cons_append, List.nil_append]
  rw [replaceText_cons here, replaceText_free (free_of_not_mem word _ _), replaceText_cons behind,
    replaceText_free inside]

/-- The separator in front of a licence is replaced, and the licence is kept. -/
theorem replace_tag (coded : Coded e) (new back : Text) :
    replaceText "-licensed-".toList new
        ("rustdesk".toList ++ ("-licensed-".toList ++ (e ++ back))) =
      "rustdesk".toList ++ (new ++ (e ++ replaceText "-licensed-".toList new back)) := by
  have name : '-' ∉ "rustdesk".toList := by decide
  have free : Free "-licensed-".toList "rustdesk".toList ("-licensed-".toList ++ (e ++ back)) := by
    rw [tag_letters]
    exact free_of_not_mem name _ _
  rw [replaceText_free free, replaceText_separator (by decide),
    replaceText_free (coded.free_tag back)]

end Coded

/-! ## What is behind a licence -/

/-- Nothing, or what begins with a bracket, a blank and a bracket, or two hyphens. -/
inductive Behind : Text → Prop
  | nothing : Behind []
  | bracket (rest : Text) : Behind ('(' :: rest)
  | blank (rest : Text) : Behind (' ' :: '(' :: rest)
  | hyphens (rest : Text) : Behind ('-' :: '-' :: rest)

/-- What is behind a licence begins as before when separators are replaced. -/
theorem Behind.replace {suffix : Text} (behind : Behind suffix) (letters : Text) :
    Behind (replaceText ('-' :: 'l' :: letters) "--".toList suffix) := by
  have new : "--".toList = ['-', '-'] := by decide
  rw [new]
  have other : ∀ {c : Char} {rest : Text}, '-' ≠ c → ¬ '-' :: 'l' :: letters <+: c :: rest :=
    fun different found => different (List.cons_prefix_cons.mp found).1
  cases behind with
  | nothing => exact .nothing
  | bracket rest =>
    rw [replaceText_cons (other (by decide))]
    exact .bracket _
  | blank rest =>
    rw [replaceText_cons (other (by decide)), replaceText_cons (other (by decide))]
    exact .blank _
  | hyphens rest =>
    have second : ¬ '-' :: 'l' :: letters <+: '-' :: '-' :: rest := by
      intro found
      have same := (List.cons_prefix_cons.mp (List.cons_prefix_cons.mp found).2).1
      exact absurd same (by decide)
    rw [replaceText_cons second]
    by_cases here : '-' :: 'l' :: letters <+: '-' :: rest
    · obtain ⟨tail, whole⟩ := here
      rw [← whole, replaceText_separator (List.cons_ne_nil _ _)]
      exact .hyphens _
    · rw [replaceText_cons here]
      exact .hyphens _

/-- The first piece behind a licence is empty or begins with a bracket. -/
theorem Behind.pieces {suffix : Text} (behind : Behind suffix) :
    ∃ piece pieces, splitText "--".toList suffix = piece :: pieces ∧
      (piece = [] ∨ (∃ rest, piece = '(' :: rest) ∨ ∃ rest, piece = ' ' :: '(' :: rest) := by
  have letters : "--".toList = ['-', '-'] := by decide
  have other : ∀ {c : Char} {rest : Text}, '-' ≠ c → ¬ ['-', '-'] <+: c :: rest :=
    fun different found => different (List.cons_prefix_cons.mp found).1
  rw [letters]
  cases behind with
  | nothing => exact ⟨[], [], rfl, .inl rfl⟩
  | bracket rest =>
    obtain ⟨piece, pieces, split⟩ := List.exists_cons_of_ne_nil (splitText_ne_nil ['-', '-'] rest)
    rw [splitText_cons (other (by decide)), split]
    exact ⟨_, pieces, rfl, .inr (.inl ⟨piece, rfl⟩)⟩
  | blank rest =>
    obtain ⟨piece, pieces, split⟩ := List.exists_cons_of_ne_nil (splitText_ne_nil ['-', '-'] rest)
    rw [splitText_cons (other (by decide)), splitText_cons (other (by decide)), split]
    exact ⟨_, pieces, rfl, .inr (.inr ⟨piece, rfl⟩)⟩
  | hyphens rest =>
    have front := splitText_separator (List.cons_ne_nil '-' ['-']) rest
    exact ⟨[], _, front, .inl rfl⟩

/-! ## The name as it is split -/

theorem stem_prefix (s : Text) : stem s <+: s := by
  unfold stem
  split_ifs
  · exact List.take_prefix _ _
  · exact List.take_prefix _ _
  · exact List.prefix_refl s

/-- Cutting the extension off leaves the licence, and behind it what begins as before. -/
theorem Coded.stem_eq {e : Text} (coded : Coded e) (front : Text) {suffix : Text}
    (behind : Behind suffix) :
    ∃ rest, stem (front ++ e ++ (suffix ++ ".exe".toList)) = front ++ e ++ rest ∧ Behind rest := by
  cases behind with
  | nothing =>
    obtain ⟨start, split⟩ := coded.ending
    have kept := @stem_append 'y' (by decide) (front ++ (start ++ ['J'])) ('e' :: ".exe".toList)
    have short : stem ('e' :: ".exe".toList) = ['e'] := by decide
    rw [short] at kept
    refine ⟨[], ?_, .nothing⟩
    rw [split]
    simp only [List.append_assoc, List.cons_append, List.nil_append, List.append_nil] at kept ⊢
    exact kept
  | bracket rest =>
    exact ⟨_, @stem_append '(' (by decide) (front ++ e) (rest ++ ".exe".toList), .bracket _⟩
  | blank rest =>
    have kept := @stem_append '(' (by decide) (front ++ e ++ [' ']) (rest ++ ".exe".toList)
    rw [List.append_assoc (front ++ e), List.append_assoc (front ++ e)] at kept
    exact ⟨_, kept, .blank _⟩
  | hyphens rest =>
    have kept := @stem_append '-' (by decide) (front ++ e ++ ['-']) (rest ++ ".exe".toList)
    rw [List.append_assoc (front ++ e), List.append_assoc (front ++ e)] at kept
    exact ⟨_, kept, .hyphens _⟩

/-- No other character is an equals sign in lower case. -/
theorem eq_of_toLower {c : Char} (lower : c.toLower = '=') : c = '=' := by
  unfold Char.toLower at lower
  split at lower
  · next upper =>
    have value : c.val + 32 = 61 := congrArg Char.val lower
    have same : c.val = 29 := by
      rw [← UInt32.add_left_inj 32, value]
      rfl
    rw [same] at upper
    exact absurd upper (by decide)
  · exact lower

/-- A licensed name has `host=` only where the text behind the licence has it. -/
theorem Coded.noHost {e : Text} (coded : Coded e) {suffix : Text} (behind : Behind suffix)
    (free : ¬ HasIgnoringCase "host=".toList suffix) :
    ¬ HasIgnoringCase "host=".toList
      ("rustdesk-licensed-".toList ++ e ++ (suffix ++ ".exe".toList)) := by
  have shape : "host=".toList = "host".toList ++ ['='] := by decide
  have fixed : '=' ∉ "rustdesk-licensed-".toList.map Char.toLower := by decide
  have extension : '=' ∉ ".exe".toList.map Char.toLower := by decide
  have front : '=' ∉ ("rustdesk-licensed-".toList ++ e).map Char.toLower := by
    rw [List.map_append]
    intro inside
    cases List.mem_append.mp inside with
    | inl name => exact fixed name
    | inr letters =>
      obtain ⟨c, member, lower⟩ := List.mem_map.mp letters
      have value := coded.letters c member
      rw [eq_of_toLower lower] at value
      exact absurd value (by decide)
  have other : ∀ c ∈ (suffix.map Char.toLower).head?, c ∉ "host".toList ++ ['='] := by
    intro c first
    cases behind with
    | nothing => cases first
    | bracket rest =>
      cases first
      decide
    | blank rest =>
      cases first
      decide
    | hyphens rest =>
      cases first
      decide
  unfold HasIgnoringCase at free ⊢
  rw [shape] at free ⊢
  intro found
  rw [← List.append_assoc, List.map_append] at found
  have left := infix_append_left extension found
  rw [List.map_append] at left
  exact free (infix_append_right front other left)

/-- The pieces of a licensed name: that of the program, and the licence with what is behind it. -/
theorem Coded.pieces {e : Text} (coded : Coded e) {rest : Text} (behind : Behind rest) :
    ∃ piece pieces,
      splitText "--".toList
        (replaceText "-licensed-".toList "--".toList
          (replaceText "-licensed--".toList "--".toList
            (replaceText "-licensed---".toList "--".toList
              ("rustdesk-licensed-".toList ++ e ++ rest)))) =
        "rustdesk".toList :: (e ++ piece) :: pieces ∧
      (piece = [] ∨ (∃ rest, piece = '(' :: rest) ∨ ∃ rest, piece = ' ' :: '(' :: rest) := by
  have three : "-licensed---".toList = "-licensed-".toList ++ '-' :: ['-'] := by decide
  have two : "-licensed--".toList = "-licensed-".toList ++ '-' :: [] := by decide
  have new : "--".toList = ['-', '-'] := by decide
  have whole : "rustdesk-licensed-".toList = "rustdesk".toList ++ "-licensed-".toList := by decide
  have longer : ∀ ext : Text, "-licensed-".toList ++ '-' :: ext =
      '-' :: 'l' :: (['i', 'c', 'e', 'n', 's', 'e', 'd', '-'] ++ '-' :: ext) := by
    intro ext
    rw [tag_letters]
    rfl
  have first := behind.replace (['i', 'c', 'e', 'n', 's', 'e', 'd', '-'] ++ '-' :: ['-'])
  rw [← longer] at first
  have second := first.replace (['i', 'c', 'e', 'n', 's', 'e', 'd', '-'] ++ '-' :: [])
  rw [← longer] at second
  have third := second.replace ['i', 'c', 'e', 'n', 's', 'e', 'd', '-']
  rw [← tag_letters] at third
  obtain ⟨piece, pieces, split, shape⟩ := third.pieces
  refine ⟨piece, pieces, ?_, shape⟩
  have name : '-' ∉ "rustdesk".toList := by decide
  have free : ∀ back, Free "--".toList "rustdesk".toList back := by
    intro back
    rw [new]
    exact free_of_not_mem name _ _
  rw [whole, List.append_assoc, List.append_assoc, three, coded.replace_longer, two,
    coded.replace_longer, coded.replace_tag, splitText_free (free _),
    splitText_separator (by decide), splitText_free (coded.free_hyphens _), split]
  rfl

/-! ## The licence is read -/

/-- Bytes with which the JSON of a server can begin: white space and the opening brackets. -/
def jsonStarts : List UInt8 := [0x20, 0x09, 0x0a, 0x0d, 0x7b, 0x5b]

/-- What the crates refuse: text that begins like no JSON, a message shorter than a signature. -/
structure Crates.Documented (crates : Crates) : Prop where
  refuses : ∀ byte rest, byte ∉ jsonStarts → crates.fromSlice (byte :: rest) = none
  short : ∀ data : List UInt8, data.length < 64 → crates.verify data PK = none

/-- A licence is read as its server. -/
theorem config_licence {crates : Crates} {server : CustomServer}
    (faithful : crates.fromSlice (encodeUtf8 (toJson server)) = some server) :
    getCustomServerFromConfigString crates (licence server) = some server := by
  unfold getCustomServerFromConfigString
  rw [licence, List.reverse_reverse, decodeBase64_encode, Option.bind_eq_bind, Option.bind_some,
    faithful]

/-- The name of the program is no licence. -/
theorem config_rustdesk {crates : Crates} (documented : crates.Documented) :
    getCustomServerFromConfigString crates (trim "rustdesk".toList) = none := by
  have decoded : decodeBase64 (trim "rustdesk".toList).reverse =
      some [146, 199, 157, 182, 203, 171] := by decide
  unfold getCustomServerFromConfigString
  rw [decoded, Option.bind_eq_bind, Option.bind_some, documented.refuses _ _ (by decide),
    documented.short _ (by decide)]

/-- A text with a bracket is no licence. -/
theorem config_bracket (crates : Crates) {s : Text} (bracket : '(' ∈ s) :
    getCustomServerFromConfigString crates (trim s) = none := by
  have kept : '(' ∈ trim s := by
    have solid : Agent.rustBlank '(' = false := by decide
    obtain ⟨back, split, blanks⟩ := stripWhere_split Agent.rustBlank s
    have front : '(' ∈ s.dropWhile Agent.rustBlank := by
      have parts : s.takeWhile Agent.rustBlank ++ s.dropWhile Agent.rustBlank = s :=
        List.takeWhile_append_dropWhile
      rw [← parts] at bracket
      cases List.mem_append.mp bracket with
      | inl blank =>
        have wrong := List.mem_takeWhile_imp blank
        rw [solid] at wrong
        cases wrong
      | inr later => exact later
    rw [split] at front
    cases List.mem_append.mp front with
    | inl inside => exact inside
    | inr blank =>
      have wrong := blanks _ blank
      rw [solid] at wrong
      cases wrong
  have undecoded : decodeBase64 (trim s).reverse = none := by
    cases decoded : decodeBase64 (trim s).reverse with
    | none => rfl
    | some bytes =>
      have letter := decodeBase64_letters decoded '(' (List.mem_reverse.mpr kept)
      exact absurd letter (by decide)
  unfold getCustomServerFromConfigString
  rw [undecoded]
  rfl

/-- Nothing is trimmed from a licence, and a blank behind it is. -/
theorem Coded.trim_eq {e : Text} (coded : Coded e) : trim e = e ∧ trim (e ++ [' ']) = e := by
  have solid : ∀ c ∈ e, Agent.rustBlank c = false := fun c inside =>
    not_blank (coded.letters c inside)
  have own : trim e = e := stripWhere_of_forall solid
  refine ⟨own, ?_⟩
  obtain ⟨c, rest, split, -⟩ := coded.first
  have first := solid c (split ▸ List.mem_cons_self)
  have front : (e ++ [' ']).dropWhile Agent.rustBlank = e ++ [' '] := by
    rw [split, List.cons_append, List.dropWhile_cons_of_neg (by rw [first]; decide)]
  obtain ⟨start, ending⟩ := coded.ending
  have back : (' ' :: e.reverse).dropWhile Agent.rustBlank = e.reverse := by
    rw [List.dropWhile_cons_of_pos (by decide), ending, List.reverse_append]
    exact List.dropWhile_cons_of_neg (by decide)
  unfold trim stripWhere
  rw [front, List.reverse_append, List.reverse_singleton, List.singleton_append, back,
    List.reverse_reverse]

/-- The licence is found behind the name of the program. -/
theorem firstLicence_licence {crates : Crates} (documented : crates.Documented)
    {server : CustomServer} (ascii : server.Ascii)
    (faithful : crates.fromSlice (encodeUtf8 (toJson server)) = some server) {piece : Text}
    (shape : piece = [] ∨ (∃ rest, piece = '(' :: rest) ∨ ∃ rest, piece = ' ' :: '(' :: rest)
    (pieces : List Text) :
    firstLicence crates ("rustdesk".toList :: (licence server ++ piece) :: pieces) =
      some server := by
  have coded := coded_licence ascii
  have noBracket : '(' ∉ "rustdesk".toList := by decide
  have solid : '(' ∉ licence server := by
    intro inside
    exact absurd (coded.letters _ inside) (by decide)
  have found := config_licence faithful
  -- what is split off at the first bracket is the licence
  have behind : ∀ {first rest : Text}, '(' ∉ first → trim first = licence server →
      firstLicence crates ((first ++ '(' :: rest) :: pieces) = some server := by
    intro first rest clear trimmed
    have bracket : '(' ∈ first ++ '(' :: rest :=
      List.mem_append_right _ List.mem_cons_self
    have split : (first ++ '(' :: rest).splitOn '(' = first :: rest.splitOn '(' := by
      rw [List.splitOn_append_cons_self, List.splitOn_eq_singleton clear]
      rfl
    have inner : ((first ++ '(' :: rest).splitOn '(').findSome?
        (fun s => getCustomServerFromConfigString crates (trim s)) = some server := by
      rw [split, List.findSome?_cons, trimmed, found]
    rw [firstLicence, config_bracket crates bracket]
    simp only
    rw [if_pos bracket, inner]
  have skip : firstLicence crates ("rustdesk".toList :: (licence server ++ piece) :: pieces) =
      firstLicence crates ((licence server ++ piece) :: pieces) := by
    rw [firstLicence, config_rustdesk documented]
    simp only
    rw [if_neg noBracket]
  rw [skip]
  rcases shape with rfl | ⟨rest, rfl⟩ | ⟨rest, rfl⟩
  · rw [List.append_nil, firstLicence, coded.trim_eq.1, found]
  · exact behind solid coded.trim_eq.1
  · have blank : '(' ∉ licence server ++ [' '] := by
      intro inside
      cases List.mem_append.mp inside with
      | inl within => exact solid within
      | inr last => exact absurd last (by decide)
    have whole : licence server ++ ' ' :: '(' :: rest =
        licence server ++ [' '] ++ '(' :: rest := by
      rw [List.append_assoc]
      rfl
    rw [whole]
    exact behind blank coded.trim_eq.2

/-- A licensed name is read as the server of its licence, whatever is behind the licence. -/
theorem licensed_names_decode (lowercase : Lowercase) {crates : Crates}
    (documented : crates.Documented) {server : CustomServer} (ascii : server.Ascii)
    (faithful : crates.fromSlice (encodeUtf8 (toJson server)) = some server) {suffix : Text}
    (behind : Behind suffix) (free : ¬ HasIgnoringCase "host=".toList suffix) :
    getCustomServerFromString lowercase crates
      ("rustdesk-licensed-".toList ++ licence server ++ suffix ++ ".exe".toList) = .ok server := by
  have coded := coded_licence ascii
  obtain ⟨rest, cut, after⟩ := coded.stem_eq "rustdesk-licensed-".toList behind
  obtain ⟨piece, pieces, split, shape⟩ := coded.pieces after
  have noHost : ¬ (textBefore "host=".toList (lowercase.toLowercase
      ("rustdesk-licensed-".toList ++ licence server ++ rest))).isSome = true := by
    intro found
    have inside := (lowercase.infix_iff host_plain [] _ []).mp ((textBefore_isSome _ _).mp found)
    have short := stem_prefix ("rustdesk-licensed-".toList ++ licence server ++
      (suffix ++ ".exe".toList))
    rw [cut] at short
    exact coded.noHost behind free (inside.trans (short.map Char.toLower).isInfix)
  rw [getCustomServerFromString, withoutExe_eq, List.append_assoc _ suffix, cut]
  simp only
  rw [if_neg noHost, split, firstLicence_licence documented ascii faithful shape]

/-- A server with a key and a host. -/
def sampleServer : CustomServer := ⟨"k".toList, "h".toList, [], []⟩

/-- The crates, as far as the name of this server needs them. -/
def sampleCrates : Crates where
  fromSlice data := if data = encodeUtf8 (toJson sampleServer) then some sampleServer else none
  verify _ _ := none

/-- The name of a second copy. -/
theorem second_copy_decodes :
    getCustomServerFromString someLowercase sampleCrates
      ("rustdesk-licensed-".toList ++ licence sampleServer ++ " (1)".toList ++ ".exe".toList) =
    .ok sampleServer := by
  have head : (encodeUtf8 (toJson sampleServer)).head? = some 0x7b := by decide +kernel
  have documented : sampleCrates.Documented := by
    refine ⟨fun byte rest outside => ?_, fun _ _ => rfl⟩
    have other : byte :: rest ≠ encodeUtf8 (toJson sampleServer) := by
      intro same
      rw [← same] at head
      rw [Option.some.inj head] at outside
      exact outside (by decide)
    show (if byte :: rest = encodeUtf8 (toJson sampleServer) then
      some sampleServer else none) = none
    rw [if_neg other]
  have ascii : sampleServer.Ascii :=
    ⟨ascii_of_all (by decide), ascii_of_all (by decide), ascii_of_all rfl, ascii_of_all rfl⟩
  have faithful : sampleCrates.fromSlice (encodeUtf8 (toJson sampleServer)) =
      some sampleServer := by
    show (if encodeUtf8 (toJson sampleServer) = encodeUtf8 (toJson sampleServer) then
      some sampleServer else none) = some sampleServer
    rw [if_pos rfl]
  have shape : " (1)".toList = ' ' :: '(' :: ['1', ')'] := by decide
  have behind : Behind " (1)".toList := by
    rw [shape]
    exact .blank _
  have free : ¬ HasIgnoringCase "host=".toList " (1)".toList := by decide
  exact licensed_names_decode someLowercase documented ascii faithful behind free

end ChainRemote.Installer.ServerNames
