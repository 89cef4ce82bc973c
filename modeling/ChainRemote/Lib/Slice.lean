import Mathlib.Data.List.Infix
import Mathlib.Data.String.Basic

/-!
# Places in a text

Where a pattern begins in a text, as the text in front of it and as the number of its bytes, and the
text cut at a byte.
-/

namespace Lib

/-- A text cut at a byte; none within a character or behind the end. -/
def splitAtByte : List Char → ℕ → Option (List Char × List Char)
  | text, 0 => some ([], text)
  | [], _ + 1 => none
  | c :: rest, n + 1 =>
    if c.utf8Size ≤ n + 1 then
      (splitAtByte rest (n + 1 - c.utf8Size)).map fun parts => (c :: parts.1, parts.2)
    else none

/-- A text is cut behind any of its beginnings. -/
theorem splitAtByte_append (front back : List Char) :
    splitAtByte (front ++ back) (String.utf8Len front) = some (front, back) := by
  induction front with
  | nil => cases back <;> rfl
  | cons c front ih =>
    have positive := Char.utf8Size_pos c
    obtain ⟨n, size⟩ := Nat.exists_eq_add_of_le' (show 1 ≤ String.utf8Len (c :: front) by
      rw [String.utf8Len_cons]; omega)
    have rest : n + 1 - c.utf8Size = String.utf8Len front := by
      rw [← size, String.utf8Len_cons]
      omega
    rw [size, List.cons_append, splitAtByte, rest, ih, if_pos (by
      rw [← size, String.utf8Len_cons]
      omega)]
    rfl

section Search

variable {α : Type} [DecidableEq α]

/-- The text in front of the first place where a pattern begins. -/
def textBefore (pattern : List α) : List α → Option (List α)
  | [] => if pattern = [] then some [] else none
  | c :: rest =>
    if pattern.isPrefixOf (c :: rest) then some [] else (textBefore pattern rest).map (c :: ·)

/-- A pattern is found exactly where the text has it. -/
theorem textBefore_isSome (pattern text : List α) :
    (textBefore pattern text).isSome = true ↔ pattern <:+: text := by
  induction text with
  | nil =>
    rw [List.infix_nil, textBefore]
    by_cases empty : pattern = []
    · rw [if_pos empty]
      exact ⟨fun _ => empty, fun _ => rfl⟩
    · rw [if_neg empty]
      exact ⟨(fun found => nomatch found), fun found => absurd found empty⟩
  | cons c rest ih =>
    rw [List.infix_cons_iff, textBefore]
    by_cases begins : pattern.isPrefixOf (c :: rest) = true
    · rw [if_pos begins]
      exact ⟨fun _ => .inl (List.isPrefixOf_iff_prefix.mp begins), fun _ => rfl⟩
    · rw [if_neg begins, Option.isSome_map, ih]
      constructor
      · intro later
        exact .inr later
      · rintro (here | later)
        · exact absurd (List.isPrefixOf_iff_prefix.mpr here) begins
        · exact later

/-- A pattern whose last letter is not inside it does not begin in front of itself, where the text
in front does not have it. -/
theorem textBefore_append {start : List α} {last : α} (once : last ∉ start) {front : List α}
    (free : ¬ start ++ [last] <:+: front) (back : List α) :
    textBefore (start ++ [last]) (front ++ (start ++ [last] ++ back)) = some front := by
  induction front with
  | nil =>
    have begins : (start ++ [last]).isPrefixOf (start ++ [last] ++ back) = true :=
      List.isPrefixOf_iff_prefix.mpr (List.prefix_append _ _)
    cases whole : start ++ [last] ++ back with
    | nil => exact absurd whole (by simp)
    | cons c rest =>
      rw [whole] at begins
      rw [List.nil_append, textBefore, if_pos begins]
  | cons c front ih =>
    have later : ¬ start ++ [last] <:+: front :=
      fun inside => free (inside.trans (List.suffix_cons c front).isInfix)
    have elsewhere : ¬ (start ++ [last]).isPrefixOf
        (c :: (front ++ (start ++ [last] ++ back))) = true := by
      intro begins
      obtain ⟨tail, whole⟩ := List.isPrefixOf_iff_prefix.mp begins
      rw [← List.cons_append] at whole
      rcases List.append_eq_append_iff.mp whole with ⟨more, inside, -⟩ | ⟨more, inside, outside⟩
      · exact free ⟨[], more, inside.symm⟩
      · -- the last letter would be inside the pattern behind
        cases more using List.reverseRecOn with
        | nil =>
          rw [List.append_nil] at inside
          exact free ⟨[], [], by rw [List.append_nil]; exact inside⟩
        | append_singleton more d =>
          rw [← List.append_assoc] at inside
          obtain ⟨begin, same⟩ := List.append_inj' inside rfl
          have shorter : (more ++ [last]).length ≤ start.length := by
            rw [begin, List.length_append, List.length_append, List.length_singleton,
              List.length_cons]
            omega
          obtain rfl : last = d := (List.cons.inj same).1
          have within : more ++ [last] <+: start := by
            refine List.prefix_of_prefix_length_le ⟨tail, outside.symm⟩ ?_ shorter
            rw [List.append_assoc]
            exact List.prefix_append _ _
          exact once (within.subset (List.mem_append_right _ (List.mem_singleton_self last)))
    rw [List.cons_append, textBefore, if_neg elsewhere, ih later]
    rfl

omit [DecidableEq α] in
/-- A pattern is not within a text and another one that has not its last letter, unless it is within
the first. -/
theorem infix_append_left {start : List α} {last : α} {front back : List α} (missing : last ∉ back)
    (found : start ++ [last] <:+: front ++ back) : start ++ [last] <:+: front := by
  obtain ⟨before, after, whole⟩ := found
  rcases List.append_eq_append_iff.mp whole with ⟨rest, inside, -⟩ | ⟨rest, inside, tail⟩
  · exact ⟨before, rest, inside.symm⟩
  · cases rest using List.reverseRecOn with
    | nil =>
      rw [List.append_nil] at inside
      exact ⟨before, [], by rw [List.append_nil]; exact inside⟩
    | append_singleton rest c =>
      rw [← List.append_assoc, ← List.append_assoc] at inside
      obtain ⟨-, same⟩ := List.append_inj' inside rfl
      obtain rfl : last = c := (List.cons.inj same).1
      rw [tail] at missing
      exact absurd (by simp) missing

omit [DecidableEq α] in
/-- A pattern is not within a text that has not its last letter and another one that begins with a
letter it does not have, unless it is within the second. -/
theorem infix_append_right {start : List α} {last : α} {front back : List α}
    (missing : last ∉ front) (other : ∀ c ∈ back.head?, c ∉ start ++ [last])
    (found : start ++ [last] <:+: front ++ back) : start ++ [last] <:+: back := by
  obtain ⟨before, after, whole⟩ := found
  rw [List.append_assoc] at whole
  rcases List.append_eq_append_iff.mp whole with ⟨rest, inside, tail⟩ | ⟨rest, -, tail⟩
  · rcases List.append_eq_append_iff.mp tail with ⟨more, within, -⟩ | ⟨more, within, behind⟩
    · rw [inside, within] at missing
      exact absurd (by simp) missing
    · cases more with
      | nil =>
        rw [inside, ← List.append_nil rest, ← within] at missing
        exact absurd (by simp) missing
      | cons c more =>
        have letter : c ∈ start ++ [last] := by
          rw [within]
          exact List.mem_append_right _ List.mem_cons_self
        exact absurd letter (other c (by rw [behind]; rfl))
  · exact ⟨rest, after, by rw [List.append_assoc]; exact tail.symm⟩

end Search

/-- The byte at which a pattern begins. -/
def findByte (pattern text : List Char) : Option ℕ :=
  (textBefore pattern text).map String.utf8Len

end Lib
