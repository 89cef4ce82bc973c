import Mathlib.Data.List.Basic

/-!
# Ids typed on the Korean keyboard

`lib/hangul-qwerty.ts` reads an id that was typed in Korean back to the keys that were pressed. The
keys are described here without the tables of the source, by the order of the Unicode blocks and
the rows of the two-set keyboard, and the tables are compared with that.
-/

namespace ChainRemote.Panel.HangulQwerty

/-- `KEY`. -/
def KEY : List (Char × String) :=
  [('ㄱ', "r"), ('ㄲ', "R"), ('ㄳ', "rt"), ('ㄴ', "s"), ('ㄵ', "sw"), ('ㄶ', "sg"), ('ㄷ', "e"),
    ('ㄸ', "E"), ('ㄹ', "f"), ('ㄺ', "fr"), ('ㄻ', "fa"), ('ㄼ', "fq"), ('ㄽ', "ft"), ('ㄾ', "fx"),
    ('ㄿ', "fv"), ('ㅀ', "fg"), ('ㅁ', "a"), ('ㅂ', "q"), ('ㅃ', "Q"), ('ㅄ', "qt"), ('ㅅ', "t"),
    ('ㅆ', "T"), ('ㅇ', "d"), ('ㅈ', "w"), ('ㅉ', "W"), ('ㅊ', "c"), ('ㅋ', "z"), ('ㅌ', "x"),
    ('ㅍ', "v"), ('ㅎ', "g"), ('ㅏ', "k"), ('ㅐ', "o"), ('ㅑ', "i"), ('ㅒ', "O"), ('ㅓ', "j"),
    ('ㅔ', "p"), ('ㅕ', "u"), ('ㅖ', "P"), ('ㅗ', "h"), ('ㅘ', "hk"), ('ㅙ', "ho"), ('ㅚ', "hl"),
    ('ㅛ', "y"), ('ㅜ', "n"), ('ㅝ', "nj"), ('ㅞ', "np"), ('ㅟ', "nl"), ('ㅠ', "b"), ('ㅡ', "m"),
    ('ㅢ', "ml"), ('ㅣ', "l")]

/-- `CHO`. -/
def CHO : List Char := "ㄱㄲㄴㄷㄸㄹㅁㅂㅃㅅㅆㅇㅈㅉㅊㅋㅌㅍㅎ".toList

/-- `JUNG`. -/
def JUNG : List Char := "ㅏㅐㅑㅒㅓㅔㅕㅖㅗㅘㅙㅚㅛㅜㅝㅞㅟㅠㅡㅢㅣ".toList

/-- `JONG`; its first entry is the empty string. -/
def JONG : List (Option Char) := none :: "ㄱㄲㄳㄴㄵㄶㄷㄹㄺㄻㄼㄽㄾㄿㅀㅁㅂㅄㅅㅆㅇㅈㅊㅋㅌㅍㅎ".toList.map some

def SYL_FIRST : Nat := 0xac00
def SYL_LAST : Nat := 0xd7a3

/-- `KEY[jamo] ?? ""`. -/
def keyOf (jamo : Option Char) : String := (jamo.bind fun ch => KEY.lookup ch).getD ""

/-- `found` and `out`. -/
structure Scan where
  found : Bool
  out : String

/-- A round of the loop. -/
def Scan.next (scan : Scan) (ch : Char) : Scan :=
  let code := ch.toNat
  if SYL_FIRST ≤ code ∧ code ≤ SYL_LAST then
    let i := code - SYL_FIRST
    let out := scan.out ++ keyOf CHO[i / 588]? ++ keyOf JUNG[i % 588 / 28]?
    match JONG[i % 28]?.join with
    | some jong => { found := true, out := out ++ keyOf (some jong) }
    | none => { found := true, out := out }
  else if keyOf (some ch) ≠ "" then { found := true, out := scan.out ++ keyOf (some ch) }
  else { scan with out := scan.out.push ch }

/-- `qwertyFromHangul`. -/
def qwertyFromHangul (input : String) : Option String :=
  let scan := input.toList.foldl Scan.next ⟨false, ""⟩
  if scan.found then some scan.out else none

section Keyboard

/-- The modern consonants, in the order of the block of compatibility jamo. -/
def consonants : List Char := (List.range 30).map fun k => Char.ofNat (0x3131 + k)

/-- The modern vowels, in that order. -/
def vowels : List Char := (List.range 21).map fun k => Char.ofNat (0x314f + k)

/-- The jamo that `KEY` lists. -/
def listed : List Char := consonants ++ vowels

/-- The jamo that are typed as two. -/
def compounds : List (Char × List Char) :=
  [('ㄳ', ['ㄱ', 'ㅅ']), ('ㄵ', ['ㄴ', 'ㅈ']), ('ㄶ', ['ㄴ', 'ㅎ']), ('ㄺ', ['ㄹ', 'ㄱ']),
    ('ㄻ', ['ㄹ', 'ㅁ']), ('ㄼ', ['ㄹ', 'ㅂ']), ('ㄽ', ['ㄹ', 'ㅅ']), ('ㄾ', ['ㄹ', 'ㅌ']),
    ('ㄿ', ['ㄹ', 'ㅍ']), ('ㅀ', ['ㄹ', 'ㅎ']), ('ㅄ', ['ㅂ', 'ㅅ']), ('ㅘ', ['ㅗ', 'ㅏ']),
    ('ㅙ', ['ㅗ', 'ㅐ']), ('ㅚ', ['ㅗ', 'ㅣ']), ('ㅝ', ['ㅜ', 'ㅓ']), ('ㅞ', ['ㅜ', 'ㅔ']),
    ('ㅟ', ['ㅜ', 'ㅣ']), ('ㅢ', ['ㅡ', 'ㅣ'])]

/-- The rows of the keyboard, and the upper row with shift. -/
def keyboard : List (Char × Char) :=
  [('ㅂ', 'q'), ('ㅈ', 'w'), ('ㄷ', 'e'), ('ㄱ', 'r'), ('ㅅ', 't'), ('ㅛ', 'y'), ('ㅕ', 'u'), ('ㅑ', 'i'),
    ('ㅐ', 'o'), ('ㅔ', 'p'), ('ㅁ', 'a'), ('ㄴ', 's'), ('ㅇ', 'd'), ('ㄹ', 'f'), ('ㅎ', 'g'), ('ㅗ', 'h'),
    ('ㅓ', 'j'), ('ㅏ', 'k'), ('ㅣ', 'l'), ('ㅋ', 'z'), ('ㅌ', 'x'), ('ㅊ', 'c'), ('ㅍ', 'v'), ('ㅠ', 'b'),
    ('ㅜ', 'n'), ('ㅡ', 'm'), ('ㅃ', 'Q'), ('ㅉ', 'W'), ('ㄸ', 'E'), ('ㄲ', 'R'), ('ㅆ', 'T'), ('ㅒ', 'O'),
    ('ㅖ', 'P')]

/-- The initials of syllables: the consonants that are typed as one. -/
def initials : List Char := consonants.filter fun jamo => (compounds.lookup jamo).isNone

/-- The finals of syllables. -/
def finals : List Char := consonants.filter fun jamo => !(['ㄸ', 'ㅃ', 'ㅉ'].contains jamo)

/-- The single jamo that a jamo is typed as. -/
def simple (jamo : Char) : List Char := (compounds.lookup jamo).getD [jamo]

/-- The key of a single jamo; another character is itself. -/
def press (single : Char) : Char := (keyboard.lookup single).getD single

/-- The keys of a jamo. -/
def pressed (jamo : Char) : List Char := (simple jamo).map press

/-- A precomposed syllable. -/
def Syllable (ch : Char) : Prop := 0xac00 ≤ ch.toNat ∧ ch.toNat ≤ 0xd7a3

instance (ch : Char) : Decidable (Syllable ch) := inferInstanceAs (Decidable (_ ∧ _))

/-- Neither a syllable nor a listed jamo. -/
def Plain (ch : Char) : Prop := ¬ Syllable ch ∧ ch ∉ listed

instance (ch : Char) : Decidable (Plain ch) := inferInstanceAs (Decidable (_ ∧ _))

/-- What a string is made of. -/
inductive Piece
  | syllable (initial : Fin initials.length) (medial : Fin vowels.length)
      (final : Option (Fin finals.length))
  | jamo (ch : Char) (inside : ch ∈ listed)
  | other (ch : Char) (plain : Plain ch)

/-- The code of a syllable in Unicode. -/
def code (initial medial final : Nat) : Nat := 0xac00 + (initial * 21 + medial) * 28 + final

/-- The character that a piece is written as. -/
def Piece.char : Piece → Char
  | .syllable initial medial none => Char.ofNat (code initial medial 0)
  | .syllable initial medial (some final) => Char.ofNat (code initial medial (final + 1))
  | .jamo ch _ => ch
  | .other ch _ => ch

/-- The jamo of a piece; another character is itself. -/
def Piece.jamos : Piece → List Char
  | .syllable initial medial none => [initials.get initial, vowels.get medial]
  | .syllable initial medial (some final) =>
    [initials.get initial, vowels.get medial, finals.get final]
  | .jamo ch _ => [ch]
  | .other ch _ => [ch]

def Piece.hangul : Piece → Bool
  | .other _ _ => false
  | _ => true

/-- The keys of a piece; another character is unchanged. -/
def Piece.strokes : Piece → List Char
  | .other ch _ => [ch]
  | piece => piece.jamos.flatMap pressed

/-- A string made of pieces. -/
def spell (pieces : List Piece) : String := String.ofList (pieces.map Piece.char)

/-- The single jamo of a string made of pieces. -/
def singles (pieces : List Piece) : List Char :=
  pieces.flatMap fun piece => piece.jamos.flatMap simple

end Keyboard

/-- The tables of the source are those of Unicode and of the keyboard. -/
theorem tables :
    KEY = (listed.map fun jamo => (jamo, String.ofList (pressed jamo))) ∧
      (initials.length = 19 ∧ finals.length = 27) ∧
      CHO = initials ∧ JUNG = vowels ∧ JONG = none :: finals.map some := by
  decide +kernel

theorem KEY_eq : KEY = listed.map fun jamo => (jamo, String.ofList (pressed jamo)) := tables.1

theorem initials_length : initials.length = 19 := tables.2.1.1

theorem vowels_length : vowels.length = 21 := by
  rw [vowels, List.length_map, List.length_range]

theorem finals_length : finals.length = 27 := tables.2.1.2

theorem CHO_eq : CHO = initials := tables.2.2.1

theorem JUNG_eq : JUNG = vowels := tables.2.2.2.1

theorem JONG_eq : JONG = none :: finals.map some := tables.2.2.2.2

section Tables

variable {ch : Char}

theorem toNat_ofNat {n : Nat} (small : n < 0xd800) : (Char.ofNat n).toNat = n := by
  rw [Char.ofNat, dif_pos (.inl small)]
  rfl

/-- Listed jamo come after the keys and before the syllables. -/
theorem listed_range (inside : ch ∈ listed) : 128 ≤ ch.toNat ∧ ch.toNat < 0xac00 := by
  unfold listed consonants vowels at inside
  rcases List.mem_append.mp inside with consonant | vowel
  · obtain ⟨k, bound, rfl⟩ := List.mem_map.mp consonant
    have small := List.mem_range.mp bound
    rw [toNat_ofNat (by omega)]
    omega
  · obtain ⟨k, bound, rfl⟩ := List.mem_map.mp vowel
    have small := List.mem_range.mp bound
    rw [toNat_ofNat (by omega)]
    omega

/-- A listed jamo is typed with keys, which are no jamo, as one or two that are listed. -/
theorem listed_keys :
    (listed.all fun jamo => ((pressed jamo).all fun key => key.toNat < 128) &&
      !(pressed jamo).isEmpty && (simple jamo).any fun ch => decide (ch ∈ listed)) = true := by
  decide +kernel

theorem keys_of_listed {jamo : Char} (inside : jamo ∈ listed) :
    (∀ key ∈ pressed jamo, key.toNat < 128) ∧ pressed jamo ≠ [] ∧
      (simple jamo).any (fun ch => decide (ch ∈ listed)) = true := by
  have row := List.all_eq_true.mp listed_keys jamo inside
  rw [Bool.and_eq_true, Bool.and_eq_true, List.all_eq_true] at row
  obtain ⟨⟨low, real⟩, single⟩ := row
  refine ⟨fun key pressed => of_decide_eq_true (low key pressed), ?_, single⟩
  intro none
  rw [none] at real
  cases real

theorem plain_of_pressed {jamo : Char} (inside : jamo ∈ listed) (key : ch ∈ pressed jamo) :
    Plain ch := by
  have small : ch.toNat < 128 := (keys_of_listed inside).1 ch key
  constructor
  · intro syllable
    unfold Syllable at syllable
    omega
  · intro member
    have range := listed_range member
    omega

theorem pressed_ne_nil (inside : ch ∈ listed) : pressed ch ≠ [] := (keys_of_listed inside).2.1

theorem initial_listed (l : Fin initials.length) : initials.get l ∈ listed :=
  List.mem_append_left _ (List.mem_of_mem_filter (List.get_mem initials l))

theorem medial_listed (v : Fin vowels.length) : vowels.get v ∈ listed :=
  List.mem_append_right _ (List.get_mem vowels v)

theorem final_listed (t : Fin finals.length) : finals.get t ∈ listed :=
  List.mem_append_left _ (List.mem_of_mem_filter (List.get_mem finals t))

theorem keyOf_none : keyOf none = "" := rfl

theorem keyOf_listed (inside : ch ∈ listed) : keyOf (some ch) = String.ofList (pressed ch) := by
  have found := List.lookup_graph (fun jamo => String.ofList (pressed jamo)) inside
  unfold keyOf
  rw [KEY_eq, Option.bind_some, found]
  rfl

theorem keyOf_other (outside : ch ∉ listed) : keyOf (some ch) = "" := by
  have missing : KEY.lookup ch = none := by
    rw [KEY_eq, List.lookup_eq_none_iff]
    intro entry inside
    obtain ⟨jamo, member, rfl⟩ := List.mem_map.mp inside
    simp only [bne_iff_ne, ne_eq]
    exact fun same => outside (same ▸ member)
  unfold keyOf
  rw [Option.bind_some, missing]
  rfl

end Tables

section Pieces

variable {pieces more : List Piece}

/-- The index of a syllable splits into those of its jamo. -/
theorem index_code {l v t : Nat} (medial : v < 21) (final : t < 28) :
    (code l v t - SYL_FIRST) / 588 = l ∧ (code l v t - SYL_FIRST) % 588 / 28 = v ∧
      (code l v t - SYL_FIRST) % 28 = t := by
  unfold code SYL_FIRST
  omega

theorem code_range {l v t : Nat} (initial : l < 19) (medial : v < 21) (final : t < 28) :
    SYL_FIRST ≤ code l v t ∧ code l v t ≤ SYL_LAST := by
  unfold code SYL_FIRST SYL_LAST
  omega

/-- A round of the loop at a syllable. -/
theorem next_syllable (scan : Scan) (l : Fin initials.length) (v : Fin vowels.length) {t : Nat}
    (bound : t < 28) :
    scan.next (Char.ofNat (code l v t)) =
      { found := true
        out := scan.out ++ String.ofList (pressed (initials.get l)) ++
          String.ofList (pressed (vowels.get v)) ++ keyOf JONG[t]?.join } := by
  have initial : l.val < 19 := initials_length ▸ l.isLt
  have medial : v.val < 21 := vowels_length ▸ v.isLt
  have range := code_range initial medial bound
  have indices := index_code (l := l.val) medial bound
  have small : code l v t < 0xd800 := Nat.lt_of_le_of_lt range.2 (by decide)
  have cho : keyOf CHO[l.val]? = String.ofList (pressed (initials.get l)) := by
    rw [CHO_eq, List.getElem?_eq_getElem l.isLt]
    exact keyOf_listed (initial_listed l)
  have jung : keyOf JUNG[v.val]? = String.ofList (pressed (vowels.get v)) := by
    rw [JUNG_eq, List.getElem?_eq_getElem v.isLt]
    exact keyOf_listed (medial_listed v)
  unfold Scan.next
  simp only [toNat_ofNat small, if_pos range, indices.1, indices.2.1, indices.2.2, cho, jung]
  cases JONG[t]?.join with
  | some jong => rfl
  | none => simp only [keyOf_none, String.append_empty]

/-- The final of a syllable in `JONG`. -/
theorem jong_final (t : Fin finals.length) : JONG[t.val + 1]?.join = some (finals.get t) := by
  rw [JONG_eq, List.getElem?_cons_succ, List.getElem?_map, List.getElem?_eq_getElem t.isLt]
  rfl

/-- A round of the loop adds the keys of a piece. -/
theorem next_piece (scan : Scan) (piece : Piece) :
    scan.next piece.char =
      ⟨scan.found || piece.hangul, scan.out ++ String.ofList piece.strokes⟩ := by
  cases piece with
  | syllable l v final =>
    cases final with
    | none =>
      have empty : JONG[0]?.join = none := by rw [JONG_eq]; rfl
      simp only [Piece.char, Piece.hangul, Piece.strokes, Piece.jamos]
      rw [next_syllable scan l v (by decide), empty, keyOf_none]
      simp [String.ofList_append, String.append_assoc]
    | some t =>
      have bound : t.val + 1 < 28 := by
        have final := t.isLt
        have count := finals_length
        omega
      simp only [Piece.char, Piece.hangul, Piece.strokes, Piece.jamos]
      rw [next_syllable scan l v bound, jong_final t, keyOf_listed (final_listed t)]
      simp [String.ofList_append, String.append_assoc]
  | jamo ch inside =>
    have keys := keyOf_listed inside
    have real : String.ofList (pressed ch) ≠ "" := by
      intro empty
      exact pressed_ne_nil inside (String.ofList_eq_empty_iff.mp empty)
    have before := (listed_range inside).2
    have apart : ¬ (SYL_FIRST ≤ ch.toNat ∧ ch.toNat ≤ SYL_LAST) := by
      unfold SYL_FIRST
      omega
    simp only [Scan.next, Piece.char, Piece.hangul, Piece.strokes, Piece.jamos, if_neg apart,
      keys, if_pos real, Bool.or_true, List.flatMap_cons, List.flatMap_nil, List.append_nil]
  | other ch plain =>
    have apart : ¬ (SYL_FIRST ≤ ch.toNat ∧ ch.toNat ≤ SYL_LAST) := plain.1
    have none := keyOf_other plain.2
    have pushed : scan.out.push ch = scan.out ++ String.ofList [ch] := by
      rw [← String.toList_inj]
      simp
    simp only [Scan.next, Piece.char, Piece.hangul, Piece.strokes, if_neg apart, none, ne_eq,
      not_true_eq_false, if_false, pushed, Bool.or_false]

/-- The loop over a string made of pieces. -/
theorem scan_pieces (scan : Scan) :
    (pieces.map Piece.char).foldl Scan.next scan =
      ⟨scan.found || pieces.any Piece.hangul,
        scan.out ++ String.ofList (pieces.flatMap Piece.strokes)⟩ := by
  induction pieces generalizing scan with
  | nil => simp
  | cons piece rest ih =>
    rw [List.map_cons, List.foldl_cons, next_piece, ih]
    simp [String.ofList_append, String.append_assoc, Bool.or_assoc]

/-- The result for a string made of pieces. -/
theorem qwertyFromHangul_spell :
    qwertyFromHangul (spell pieces) =
      if pieces.any Piece.hangul then some (String.ofList (pieces.flatMap Piece.strokes))
      else none := by
  unfold qwertyFromHangul spell
  simp only [String.toList_ofList, scan_pieces, Bool.false_or, String.empty_append]

theorem syllable_char {l v t : Nat} (initial : l < 19) (medial : v < 21) (final : t < 28) :
    Syllable (Char.ofNat (code l v t)) := by
  have range := code_range initial medial final
  have small : code l v t < 0xd800 := Nat.lt_of_le_of_lt range.2 (by decide)
  unfold Syllable
  rw [toNat_ofNat small]
  exact range

/-- A piece is Hangul exactly where its character is a syllable or a listed jamo. -/
theorem hangul_iff (piece : Piece) : piece.hangul = true ↔ ¬ Plain piece.char := by
  cases piece with
  | syllable l v final =>
    have initial : l.val < 19 := initials_length ▸ l.isLt
    have medial : v.val < 21 := vowels_length ▸ v.isLt
    refine iff_of_true rfl fun plain => plain.1 ?_
    cases final with
    | none => exact syllable_char initial medial (by decide)
    | some t =>
      have bound := t.isLt
      have count := finals_length
      exact syllable_char initial medial (by omega)
  | jamo ch inside => exact iff_of_true rfl fun plain => plain.2 inside
  | other ch plain => exact iff_of_false Bool.false_ne_true fun real => real plain

/-- Every character is written by a piece. -/
theorem exists_piece (ch : Char) : ∃ piece : Piece, piece.char = ch := by
  by_cases plain : Plain ch
  · exact ⟨.other ch plain, rfl⟩
  · by_cases inside : ch ∈ listed
    · exact ⟨.jamo ch inside, rfl⟩
    · have syllable : Syllable ch := not_not.mp fun other => plain ⟨other, inside⟩
      unfold Syllable at syllable
      have initial : (ch.toNat - 0xac00) / 588 < initials.length := by
        rw [initials_length]
        omega
      have medial : (ch.toNat - 0xac00) % 588 / 28 < vowels.length := by
        rw [vowels_length]
        omega
      by_cases empty : (ch.toNat - 0xac00) % 28 = 0
      · refine ⟨.syllable ⟨_, initial⟩ ⟨_, medial⟩ none, ?_⟩
        have same : code ((ch.toNat - 0xac00) / 588) ((ch.toNat - 0xac00) % 588 / 28) 0 =
            ch.toNat := by
          unfold code
          omega
        rw [Piece.char, same, Char.ofNat_toNat]
      · have final : (ch.toNat - 0xac00) % 28 - 1 < finals.length := by
          rw [finals_length]
          omega
        refine ⟨.syllable ⟨_, initial⟩ ⟨_, medial⟩ (some ⟨_, final⟩), ?_⟩
        have same : code ((ch.toNat - 0xac00) / 588) ((ch.toNat - 0xac00) % 588 / 28)
            ((ch.toNat - 0xac00) % 28 - 1 + 1) = ch.toNat := by
          unfold code
          omega
        rw [Piece.char, same, Char.ofNat_toNat]

/-- Every string is made of pieces. -/
theorem exists_pieces (input : String) : ∃ pieces, spell pieces = input := by
  have all : ∀ chars : List Char, ∃ pieces : List Piece, pieces.map Piece.char = chars := by
    intro chars
    induction chars with
    | nil => exact ⟨[], rfl⟩
    | cons ch rest ih =>
      obtain ⟨piece, own⟩ := exists_piece ch
      obtain ⟨pieces, others⟩ := ih
      exact ⟨piece :: pieces, by rw [List.map_cons, own, others]⟩
  obtain ⟨pieces, chars⟩ := all input.toList
  exact ⟨pieces, by rw [spell, chars, String.ofList_toList]⟩

/-- The result is null exactly for a string without syllables and listed jamo. -/
theorem qwertyFromHangul_eq_none (input : String) :
    qwertyFromHangul input = none ↔ ∀ ch ∈ input.toList, Plain ch := by
  obtain ⟨pieces, rfl⟩ := exists_pieces input
  have chars : (spell pieces).toList = pieces.map Piece.char := String.toList_ofList
  rw [qwertyFromHangul_spell, chars]
  simp only [ite_eq_right_iff, reduceCtorEq, imp_false, List.any_eq_true, not_exists, not_and,
    List.forall_mem_map, hangul_iff, not_not]

theorem jamos_listed {piece : Piece} (real : piece.hangul = true) {ch : Char}
    (inside : ch ∈ piece.jamos) : ch ∈ listed := by
  cases piece with
  | syllable l v final =>
    cases final with
    | none =>
      rcases List.mem_cons.mp inside with rfl | inside
      · exact initial_listed l
      · rw [List.mem_singleton.mp inside]
        exact medial_listed v
    | some t =>
      rcases List.mem_cons.mp inside with rfl | inside
      · exact initial_listed l
      · rcases List.mem_cons.mp inside with rfl | inside
        · exact medial_listed v
        · rw [List.mem_singleton.mp inside]
          exact final_listed t
  | jamo ch listed => exact List.mem_singleton.mp inside ▸ listed
  | other ch plain => cases real

/-- No keystroke is a syllable or a listed jamo. -/
theorem plain_strokes {piece : Piece} {ch : Char} (inside : ch ∈ piece.strokes) : Plain ch := by
  by_cases real : piece.hangul = true
  · have keys : piece.strokes = piece.jamos.flatMap pressed := by
      cases piece with
      | other ch plain => cases real
      | syllable l v final => rfl
      | jamo ch inside => rfl
    rw [keys] at inside
    obtain ⟨jamo, member, key⟩ := List.mem_flatMap.mp inside
    exact plain_of_pressed (jamos_listed real member) key
  · cases piece with
    | other ch plain => exact List.mem_singleton.mp inside ▸ plain
    | syllable l v final => exact absurd rfl real
    | jamo ch inside => exact absurd rfl real

/-- No result has a syllable or a listed jamo. -/
theorem plain_result {input result : String} (done : qwertyFromHangul input = some result) :
    ∀ ch ∈ result.toList, Plain ch := by
  obtain ⟨pieces, rfl⟩ := exists_pieces input
  rw [qwertyFromHangul_spell] at done
  split at done
  · obtain rfl := Option.some.inj done
    intro ch inside
    rw [String.toList_ofList] at inside
    obtain ⟨piece, -, key⟩ := List.mem_flatMap.mp inside
    exact plain_strokes key
  · cases done

theorem simple_listed {jamo : Char} (inside : jamo ∈ listed) :
    (simple jamo).any (fun ch => decide (ch ∈ listed)) = true :=
  (keys_of_listed inside).2.2

theorem compounds_listed :
    (compounds.all fun entry => decide (entry.1 ∈ listed)) = true ∧
      (keyboard.all fun entry => decide (entry.1 ∈ listed)) = true := by
  decide +kernel

/-- What is not listed is neither typed as two nor on the keyboard. -/
theorem simple_other {ch : Char} (outside : ch ∉ listed) : simple ch = [ch] ∧ press ch = ch := by
  obtain ⟨two, one⟩ := compounds_listed
  have single : compounds.lookup ch = none := by
    rw [List.lookup_eq_none_iff]
    intro entry inside
    simp only [bne_iff_ne, ne_eq]
    intro same
    exact outside (same ▸ of_decide_eq_true (List.all_eq_true.mp two entry inside))
  have key : keyboard.lookup ch = none := by
    rw [List.lookup_eq_none_iff]
    intro entry inside
    simp only [bne_iff_ne, ne_eq]
    intro same
    exact outside (same ▸ of_decide_eq_true (List.all_eq_true.mp one entry inside))
  unfold simple press
  rw [single, key]
  exact ⟨rfl, rfl⟩

/-- The keys of a piece are those of its single jamo. -/
theorem strokes_eq (piece : Piece) :
    piece.strokes = (piece.jamos.flatMap simple).map press := by
  cases piece with
  | other ch plain =>
    have alone := simple_other plain.2
    simp [Piece.strokes, Piece.jamos, alone.1, alone.2]
  | syllable l v final =>
    rw [List.map_flatMap]
    rfl
  | jamo ch inside =>
    rw [List.map_flatMap]
    rfl

/-- A piece is Hangul where it has a listed single jamo. -/
theorem hangul_eq (piece : Piece) :
    piece.hangul = (piece.jamos.flatMap simple).any fun ch => decide (ch ∈ listed) := by
  have some : ∀ jamo rest, piece.jamos = jamo :: rest → piece.hangul = true →
      (piece.jamos.flatMap simple).any (fun ch => decide (ch ∈ listed)) = true := by
    intro jamo rest split real
    have first : jamo ∈ piece.jamos := split ▸ List.mem_cons_self
    rw [List.any_flatMap, split, List.any_cons, simple_listed (jamos_listed real first)]
    rfl
  cases piece with
  | other ch plain =>
    have alone := simple_other plain.2
    simp [Piece.hangul, Piece.jamos, alone.1, plain.2]
  | syllable l v final =>
    cases final with
    | none => exact (some _ _ rfl rfl).symm
    | some t => exact (some _ _ rfl rfl).symm
  | jamo ch inside => exact (some _ _ rfl rfl).symm

/-- The result depends on the single jamo only. -/
theorem qwertyFromHangul_singles :
    qwertyFromHangul (spell pieces) =
      if (singles pieces).any (fun ch => decide (ch ∈ listed)) then
        some (String.ofList ((singles pieces).map press))
      else none := by
  have found : pieces.any Piece.hangul = (singles pieces).any fun ch => decide (ch ∈ listed) := by
    unfold singles
    rw [List.any_flatMap]
    exact congrArg pieces.any (funext hangul_eq)
  have keys : pieces.flatMap Piece.strokes = (singles pieces).map press := by
    unfold singles
    rw [List.map_flatMap]
    exact congrArg (pieces.flatMap ·) (funext strokes_eq)
  rw [qwertyFromHangul_spell, found, keys]

/-- What the caller tries: the result, or the input itself. -/
def recovered (input : String) : String := (qwertyFromHangul input).getD input

theorem recovered_spell :
    recovered (spell pieces) = String.ofList (pieces.flatMap Piece.strokes) := by
  unfold recovered
  rw [qwertyFromHangul_spell]
  split
  · rfl
  · rename_i plain
    rw [Option.getD_none, spell]
    congr 1
    rw [List.flatMap_def]
    induction pieces with
    | nil => rfl
    | cons piece rest ih =>
      rw [List.any_cons, Bool.or_eq_true, not_or] at plain
      rw [List.map_cons, List.map_cons, List.flatten_cons, ← ih plain.2]
      cases piece with
      | other ch _ => rfl
      | syllable l v final => exact absurd rfl plain.1
      | jamo ch inside => exact absurd rfl plain.1

/-- A string and what follows it are recovered apart. -/
theorem recovered_append (first second : String) :
    recovered (first ++ second) = recovered first ++ recovered second := by
  obtain ⟨pieces, rfl⟩ := exists_pieces first
  obtain ⟨more, rfl⟩ := exists_pieces second
  have joined : spell pieces ++ spell more = spell (pieces ++ more) := by
    simp [spell, String.ofList_append]
  rw [joined, recovered_spell, recovered_spell, recovered_spell, List.flatMap_append,
    String.ofList_append]

end Pieces

/-- For every string: the result is null exactly without syllables and listed jamo, and otherwise
the keys of the pieces in order; strings are recovered apart; a result has neither syllables nor
listed jamo, and gives null again; and spellings of the same single jamo give the same result. -/
theorem keystroke_recovery :
    (∀ input, qwertyFromHangul input = none ↔ ∀ ch ∈ input.toList, Plain ch) ∧
    (∀ input, ∃ pieces, spell pieces = input) ∧
    (∀ pieces, qwertyFromHangul (spell pieces) =
      if pieces.any Piece.hangul then some (String.ofList (pieces.flatMap Piece.strokes))
      else none) ∧
    (∀ first second, recovered (first ++ second) = recovered first ++ recovered second) ∧
    (∀ input result, qwertyFromHangul input = some result →
      (∀ ch ∈ result.toList, Plain ch) ∧ qwertyFromHangul result = none) ∧
    ∀ pieces more, singles pieces = singles more →
      qwertyFromHangul (spell pieces) = qwertyFromHangul (spell more) := by
  refine ⟨qwertyFromHangul_eq_none, exists_pieces, fun _ => qwertyFromHangul_spell,
    recovered_append, ?_, ?_⟩
  · intro input result done
    have plain := plain_result done
    exact ⟨plain, (qwertyFromHangul_eq_none result).mpr plain⟩
  · intro pieces more same
    rw [qwertyFromHangul_singles, qwertyFromHangul_singles, same]

/-- A compatibility jamo, also an old one. -/
def CompatibilityJamo (ch : Char) : Prop := 0x3131 ≤ ch.toNat ∧ ch.toNat ≤ 0x318e

instance (ch : Char) : Decidable (CompatibilityJamo ch) := inferInstanceAs (Decidable (_ ∧ _))

/-- An old jamo stays in the result. -/
theorem old_jamo_stays :
    qwertyFromHangul "가ㆍ" = some "rkㆍ" ∧ ∃ ch ∈ "rkㆍ".toList, CompatibilityJamo ch :=
  ⟨by decide +kernel, 'ㆍ', by decide, by decide⟩

end ChainRemote.Panel.HangulQwerty
