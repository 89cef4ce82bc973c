import Mathlib.Data.List.Infix
import Mathlib.Data.String.Basic

/-!
# Lower case

The lower case of a text differs in its length from the text, and what a capital sigma becomes is a
matter of its neighbours. An ASCII pattern without i and k is still found in the lower case of a
text exactly where the text has it in some case.
-/

namespace Lib

/-- The tables of Unicode, which grow from version to version: what a character is in lower case,
and which of the small sigmas a capital one is between other characters, those in front in reverse.
No character outside of ASCII is one of ASCII in lower case, except those that have an i or a k. -/
structure Lowercase where
  char : Char → List Char
  sigma : List Char → List Char → Char
  char_ne_nil : ∀ c, char c ≠ []
  ascii : ∀ c, c.toNat < 128 → char c = [c.toLower]
  foreign : ∀ c, 128 ≤ c.toNat → ∀ d ∈ char c, d.toNat < 128 → d = 'i' ∨ d = 'k'
  small : ∀ before after, sigma before after = 'σ' ∨ sigma before after = 'ς'

/-- A letter that only ASCII letters have as their lower case. -/
def PlainLetter (d : Char) : Prop := d.toNat < 128 ∧ d ≠ 'i' ∧ d ≠ 'k'

instance : DecidablePred PlainLetter := fun _ => inferInstanceAs (Decidable (_ ∧ _))

/-- The letters of a pattern are plain, as can be checked one by one. -/
theorem plain_of_all {pattern : List Char}
    (checked : (pattern.all fun d => decide (PlainLetter d)) = true) :
    ∀ d ∈ pattern, PlainLetter d :=
  fun d inside => of_decide_eq_true (List.all_eq_true.mp checked d inside)

/-- A text has a pattern in some case. -/
def HasIgnoringCase (pattern text : List Char) : Prop := pattern <:+: text.map Char.toLower

/-- A text ends with a pattern in some case. -/
def EndsIgnoringCase (pattern text : List Char) : Prop := pattern <:+ text.map Char.toLower

instance : DecidableRel HasIgnoringCase := fun pattern text =>
  inferInstanceAs (Decidable (pattern <:+: text.map Char.toLower))

instance : DecidableRel EndsIgnoringCase := fun pattern text =>
  inferInstanceAs (Decidable (pattern <:+ text.map Char.toLower))

/-- The part of a text that is the pattern in some case. -/
theorem hasIgnoringCase_iff {pattern text : List Char} :
    HasIgnoringCase pattern text ↔
      ∃ front part back, text = front ++ part ++ back ∧ part.map Char.toLower = pattern := by
  constructor
  · rintro ⟨front, back, whole⟩
    obtain ⟨start, finish, split, first, -⟩ := List.map_eq_append_iff.mp whole.symm
    obtain ⟨before, part, inner, -, spelled⟩ := List.map_eq_append_iff.mp first
    exact ⟨before, part, finish, by rw [split, inner], spelled⟩
  · rintro ⟨front, part, back, rfl, rfl⟩
    exact ⟨front.map Char.toLower, back.map Char.toLower, by rw [List.map_append, List.map_append]⟩

theorem endsIgnoringCase_iff {pattern text : List Char} :
    EndsIgnoringCase pattern text ↔
      ∃ front part, text = front ++ part ∧ part.map Char.toLower = pattern := by
  constructor
  · rintro ⟨front, whole⟩
    obtain ⟨start, part, split, -, spelled⟩ := List.map_eq_append_iff.mp whole.symm
    exact ⟨start, part, split, spelled⟩
  · rintro ⟨front, part, rfl, rfl⟩
    exact ⟨front.map Char.toLower, by rw [List.map_append]⟩

namespace Lowercase

variable (lowercase : Lowercase)

/-- A character in lower case, between others. -/
def inside (before : List Char) (c : Char) (after : List Char) : List Char :=
  if c = 'Σ' then [lowercase.sigma before after] else lowercase.char c

/-- A text in lower case, between others. -/
def between (before : List Char) : List Char → List Char → List Char
  | [], _ => []
  | c :: rest, after =>
    lowercase.inside before c (rest ++ after) ++ between (c :: before) rest after

/-- `str::to_lowercase`. -/
def toLowercase (text : List Char) : List Char := lowercase.between [] text []

theorem between_append (before first second after : List Char) :
    lowercase.between before (first ++ second) after =
      lowercase.between before first (second ++ after) ++
        lowercase.between (first.reverse ++ before) second after := by
  induction first generalizing before with
  | nil => rfl
  | cons c first ih =>
    rw [List.cons_append, between, ih, between, List.append_assoc, List.append_assoc,
      List.reverse_cons, List.append_assoc, List.singleton_append]

theorem inside_ne_nil (before : List Char) (c : Char) (after : List Char) :
    lowercase.inside before c after ≠ [] := by
  unfold inside
  split
  · exact List.cons_ne_nil _ _
  · exact lowercase.char_ne_nil c

/-- A capital letter of ASCII is not a sigma. -/
theorem inside_ascii (before : List Char) {c : Char} (low : c.toNat < 128) (after : List Char) :
    lowercase.inside before c after = [c.toLower] := by
  have other : c ≠ 'Σ' := by
    rintro rfl
    exact absurd low (by decide)
  rw [inside, if_neg other, lowercase.ascii c low]

/-- A plain letter comes from a letter of ASCII. -/
theorem inside_plain {before : List Char} {c : Char} {after : List Char} {d : Char}
    (plain : PlainLetter d) (member : d ∈ lowercase.inside before c after) :
    c.toLower = d ∧ lowercase.inside before c after = [d] := by
  by_cases low : c.toNat < 128
  · rw [lowercase.inside_ascii before low after] at member ⊢
    have same := List.mem_singleton.mp member
    exact ⟨same.symm, congrArg (fun d => [d]) same.symm⟩
  · unfold inside at member
    by_cases capital : c = 'Σ'
    · rw [if_pos capital, List.mem_singleton] at member
      have size := plain.1
      rcases lowercase.small before after with sigma | sigma
      · rw [member, sigma] at size
        exact absurd size (by decide)
      · rw [member, sigma] at size
        exact absurd size (by decide)
    · rw [if_neg capital] at member
      cases lowercase.foreign c (by omega) d member plain.1 with
      | inl i => exact absurd i plain.2.1
      | inr k => exact absurd k plain.2.2

/-- Only a letter of ASCII has one of ASCII as its ASCII lower case. -/
theorem low_of_toLower {c : Char} (low : c.toLower.toNat < 128) : c.toNat < 128 := by
  unfold Char.toLower at low
  split at low
  · next upper =>
    have bound : c.val ≤ 'Z'.val := upper.2
    have fits : c.toNat ≤ 90 := UInt32.le_iff_toNat_le.mp bound
    omega
  · exact low

/-- A part that is a plain pattern in some case becomes the pattern. -/
theorem between_part {part pattern : List Char} (spelled : part.map Char.toLower = pattern)
    (plain : ∀ d ∈ pattern, PlainLetter d) (before after : List Char) :
    lowercase.between before part after = pattern := by
  induction part generalizing before pattern with
  | nil => exact spelled
  | cons c part ih =>
    rw [← spelled, List.map_cons] at plain ⊢
    have low := low_of_toLower (plain c.toLower List.mem_cons_self).1
    rw [between, lowercase.inside_ascii before low,
      ih rfl (fun d member => plain d (List.mem_cons_of_mem _ member))]
    rfl

/-- Where the lower case begins with a plain pattern, the text has it in some case. -/
theorem part_of_prefix {pattern text before after : List Char}
    (plain : ∀ d ∈ pattern, PlainLetter d)
    (begins : pattern <+: lowercase.between before text after) :
    ∃ part rest, text = part ++ rest ∧ part.map Char.toLower = pattern := by
  induction pattern generalizing text before with
  | nil => exact ⟨[], text, rfl, rfl⟩
  | cons d pattern ih =>
    cases text with
    | nil => exact absurd (List.prefix_nil.mp begins) (List.cons_ne_nil _ _)
    | cons c text =>
      obtain ⟨e, more, split⟩ :=
        List.exists_cons_of_ne_nil (lowercase.inside_ne_nil before c (text ++ after))
      rw [between, split, List.cons_append, List.cons_prefix_cons] at begins
      have member : d ∈ lowercase.inside before c (text ++ after) := by
        rw [split, begins.1]
        exact List.mem_cons_self
      have own := lowercase.inside_plain (plain d List.mem_cons_self) member
      have none : more = [] := (List.cons.inj (split.symm.trans own.2)).2
      obtain ⟨part, rest, whole, spelled⟩ :=
        ih (fun d inside => plain d (List.mem_cons_of_mem _ inside))
          (by rw [none, List.nil_append] at begins; exact begins.2)
      exact ⟨c :: part, rest, by rw [whole]; rfl, by rw [List.map_cons, own.1, spelled]⟩

/-- A plain pattern that begins in the lower case of one character is the beginning of what follows
that character. -/
theorem infix_inside {d : Char} {pattern block rest : List Char}
    (single : ∀ e ∈ block, e = d → block = [d])
    (found : d :: pattern <:+: block ++ rest) :
    d :: pattern <+: block ++ rest ∨ d :: pattern <:+: rest := by
  obtain ⟨front, back, whole⟩ := found
  rw [List.append_assoc] at whole
  rcases List.append_eq_append_iff.mp whole with ⟨more, inside, tail⟩ | ⟨more, -, tail⟩
  · -- the pattern begins within the block
    cases more with
    | nil => exact .inr ⟨[], back, by rw [List.nil_append]; exact tail⟩
    | cons e more =>
      have same : d = e := (List.cons.inj (by simpa using tail)).1
      have own := single e (by rw [inside]; simp) same.symm
      rw [own] at inside ⊢
      cases front with
      | nil => exact .inl ⟨back, tail.trans (congrArg (· ++ rest) inside.symm)⟩
      | cons g front => exact absurd (congrArg List.length inside) (by simp)
  · exact .inr ⟨more, back, by rw [List.append_assoc]; exact tail.symm⟩

/-- A plain pattern is found in the lower case exactly where the text has it in some case. -/
theorem infix_iff {pattern : List Char} (plain : ∀ d ∈ pattern, PlainLetter d)
    (before text after : List Char) :
    pattern <:+: lowercase.between before text after ↔ HasIgnoringCase pattern text := by
  rw [hasIgnoringCase_iff]
  constructor
  · intro found
    cases pattern with
    | nil => exact ⟨[], [], text, rfl, rfl⟩
    | cons d pattern =>
      induction text generalizing before with
      | nil => exact absurd (List.infix_nil.mp found) (List.cons_ne_nil _ _)
      | cons c text ih =>
        have single : ∀ e ∈ lowercase.inside before c (text ++ after), e = d →
            lowercase.inside before c (text ++ after) = [d] := by
          rintro e member rfl
          exact (lowercase.inside_plain (plain e List.mem_cons_self) member).2
        rcases infix_inside single found with here | later
        · have begins : d :: pattern <+: lowercase.between before (c :: text) after := here
          obtain ⟨part, rest, whole, spelled⟩ := lowercase.part_of_prefix plain begins
          exact ⟨[], part, rest, whole, spelled⟩
        · obtain ⟨front, part, back, whole, spelled⟩ := ih (c :: before) later
          exact ⟨c :: front, part, back, by rw [whole]; rfl, spelled⟩
  · rintro ⟨front, part, back, whole, spelled⟩
    rw [whole, between_append, between_append, lowercase.between_part spelled plain]
    exact ⟨_, _, rfl⟩

/-- The lower case ends with a plain pattern exactly where the text does in some case. -/
theorem suffix_iff {pattern : List Char} (plain : ∀ d ∈ pattern, PlainLetter d)
    (before text after : List Char) :
    pattern <:+ lowercase.between before text after ↔ EndsIgnoringCase pattern text := by
  rw [endsIgnoringCase_iff]
  constructor
  · intro ends
    induction pattern using List.reverseRecOn generalizing text after with
    | nil => exact ⟨text, [], (List.append_nil text).symm, rfl⟩
    | append_singleton pattern d ih =>
      cases text using List.reverseRecOn with
      | nil =>
        exact absurd (List.suffix_nil.mp ends) (List.append_ne_nil_of_right_ne_nil _ (by simp))
      | append_singleton text c =>
        have last : lowercase.between (text.reverse ++ before) [c] after =
            lowercase.inside (text.reverse ++ before) c after := List.append_nil _
        obtain ⟨front, whole⟩ := ends
        rw [between_append, last] at whole
        obtain ⟨block, e, split⟩ := List.eq_nil_or_concat' _ |>.resolve_left
          (lowercase.inside_ne_nil (text.reverse ++ before) c after)
        rw [split, ← List.append_assoc, ← List.append_assoc] at whole
        obtain ⟨rest, same⟩ := List.append_inj' whole rfl
        have member : d ∈ lowercase.inside (text.reverse ++ before) c after := by
          rw [split, ← (List.cons.inj same).1]
          exact List.mem_append_right _ (List.mem_singleton_self d)
        have own := lowercase.inside_plain
          (plain d (List.mem_append_right _ (List.mem_singleton_self d))) member
        have none : block = [] := by
          have size := congrArg List.length (split.symm.trans own.2)
          rw [List.length_append, List.length_singleton, List.length_singleton] at size
          exact List.length_eq_zero_iff.mp (by omega)
        rw [none, List.append_nil] at rest
        obtain ⟨start, part, split, spelled⟩ := ih
          (fun d inside => plain d (List.mem_append_left _ inside)) text ([c] ++ after)
          ⟨front, rest⟩
        refine ⟨start, part ++ [c], by rw [split, List.append_assoc], ?_⟩
        rw [List.map_append, spelled, List.map_singleton, own.1]
  · rintro ⟨front, part, whole, spelled⟩
    rw [whole, between_append, lowercase.between_part spelled plain]
    exact List.suffix_append _ _

/-- The length of a text in lower case does not depend on what is around it. -/
theorem utf8Len_between (text before after : List Char) :
    String.utf8Len (lowercase.between before text after) =
      String.utf8Len (lowercase.toLowercase text) := by
  have sigma : ∀ before after, (lowercase.sigma before after).utf8Size = 2 := by
    intro before after
    rcases lowercase.small before after with same | same
    · rw [same]; rfl
    · rw [same]; rfl
  have size : ∀ before after other later c, String.utf8Len (lowercase.inside before c after) =
      String.utf8Len (lowercase.inside other c later) := by
    intro before after other later c
    unfold inside
    by_cases capital : c = 'Σ'
    · rw [if_pos capital, if_pos capital, String.utf8Len_cons, String.utf8Len_cons, sigma, sigma]
    · rw [if_neg capital, if_neg capital]
  have both : ∀ before after other later, String.utf8Len (lowercase.between before text after) =
      String.utf8Len (lowercase.between other text later) := by
    induction text with
    | nil => exact fun _ _ _ _ => rfl
    | cons c text ih =>
      intro before after other later
      rw [between, between, String.utf8Len_append, String.utf8Len_append,
        size before (text ++ after) other (text ++ later),
        ih (c :: before) after (c :: other) later]
  exact both before after [] []

end Lowercase

end Lib
