import Mathlib.Data.List.TakeWhile
import Mathlib.Algebra.Group.Int.Defs
import Mathlib.Algebra.Group.Nat.Defs

/-!
# Numerals in text

Decimal and hexadecimal digits of a list of characters, and texts split at a separator.
Lists of characters stand for text here, because that is what the splitting functions of
the standard library work on.
-/

namespace Lib

/-- One or more decimal digits. -/
def isDigits (text : List Char) : Bool := text != [] && text.all Char.isDigit

/-- The value of a list of decimal digits. -/
def digitsValue (text : List Char) : Nat :=
  text.foldl (fun value c => value * 10 + (c.toNat - '0'.toNat)) 0

/-- A hexadecimal digit of either case. -/
def isHexDigit (c : Char) : Bool :=
  c.isDigit || ('a' ≤ c && c ≤ 'f') || ('A' ≤ c && c ≤ 'F')

/-- The text without the characters of a class at either end. -/
def stripWhere (blank : Char → Bool) (text : List Char) : List Char :=
  ((text.dropWhile blank).reverse.dropWhile blank).reverse

variable {text : List Char}

theorem isDigits_all (digits : isDigits text = true) : ∀ c ∈ text, c.isDigit = true := by
  simp only [isDigits, Bool.and_eq_true, List.all_eq_true] at digits
  exact digits.2

/-- Stripping leaves a text without characters of the class alone. -/
theorem stripWhere_of_forall {blank : Char → Bool} (solid : ∀ c ∈ text, blank c = false) :
    stripWhere blank text = text := by
  have front : ∀ {other : List Char}, (∀ c ∈ other, blank c = false) →
      other.dropWhile blank = other := by
    intro other clear
    cases other with
    | nil => rfl
    | cons c rest => simp [clear c List.mem_cons_self]
  have back : ∀ c ∈ text.reverse, blank c = false := by
    intro c inside
    exact solid c (List.mem_reverse.mp inside)
  unfold stripWhere
  rw [front solid, front back, List.reverse_reverse]

/-- The digits at the front of a numeral are the numeral. -/
theorem takeWhile_isDigit (digits : isDigits text = true) : text.takeWhile Char.isDigit = text := by
  apply List.takeWhile_eq_self_iff.mpr
  exact isDigits_all digits

/-- A text is its stripped part between characters of the class. -/
theorem stripWhere_split (blank : Char → Bool) (text : List Char) :
    ∃ back, text.dropWhile blank = stripWhere blank text ++ back ∧
      ∀ c ∈ back, blank c = true := by
  have joined : (text.dropWhile blank).reverse.takeWhile blank ++
      (text.dropWhile blank).reverse.dropWhile blank = (text.dropWhile blank).reverse :=
    List.takeWhile_append_dropWhile
  refine ⟨((text.dropWhile blank).reverse.takeWhile blank).reverse, ?_, ?_⟩
  · unfold stripWhere
    rw [← List.reverse_append, joined, List.reverse_reverse]
  · intro c inside
    exact List.mem_takeWhile_imp (List.mem_reverse.mp inside)

/-- Behind solid text nothing is stripped. -/
theorem stripWhere_append {blank : Char → Bool} {tail : List Char}
    (solid : ∀ c ∈ tail, blank c = false) (given : tail ≠ []) (text : List Char) :
    stripWhere blank (text ++ tail) = text.dropWhile blank ++ tail := by
  have kept : (text ++ tail).dropWhile blank = text.dropWhile blank ++ tail := by
    induction text with
    | nil =>
      cases tail with
      | nil => exact absurd rfl given
      | cons c tail => simp [solid c List.mem_cons_self]
    | cons c text ih =>
      rw [List.cons_append, List.dropWhile_cons, List.dropWhile_cons]
      by_cases hit : blank c = true
      · rw [if_pos hit, if_pos hit, ih]
      · rw [if_neg hit, if_neg hit]
        rfl
  have back : (tail.reverse ++ (text.dropWhile blank).reverse).dropWhile blank =
      tail.reverse ++ (text.dropWhile blank).reverse := by
    cases reversed : tail.reverse with
    | nil => exact absurd (List.reverse_eq_nil_iff.mp reversed) given
    | cons c rest =>
      have inside : c ∈ tail := List.mem_reverse.mp (reversed ▸ List.mem_cons_self)
      simp [solid c inside]
  unfold stripWhere
  rw [kept, List.reverse_append, back, ← List.reverse_append, List.reverse_reverse]

/-- A number is written in digits. -/
theorem isDigits_toDigits (n : Nat) : isDigits (Nat.toDigits 10 n) = true := by
  have some' : Nat.toDigits 10 n ≠ [] := List.ne_nil_of_length_pos Nat.length_toDigits_pos
  simp only [isDigits, Bool.and_eq_true, bne_iff_ne, List.all_eq_true]
  exact ⟨some', fun c inside => Nat.isDigit_of_mem_toDigits (by decide) (by decide) inside⟩

/-- Its digits have its value. -/
theorem digitsValue_toDigits (n : Nat) : digitsValue (Nat.toDigits 10 n) = n := by
  have same := Nat.ofDigitChars_ten_toDigits (n := n)
  rw [Nat.ofDigitChars_eq_foldl] at same
  simpa only [digitsValue, Nat.mul_comm] using same

/-- Text without the separator goes to the last place. -/
theorem splitOn_append_of_not_mem {sep : Char} {tail : List Char} (absent : sep ∉ tail)
    (text : List Char) : ∃ places last, text.splitOn sep = places ++ [last] ∧
      (text ++ tail).splitOn sep = places ++ [last ++ tail] := by
  induction text with
  | nil => exact ⟨[], [], List.splitOn_nil sep, List.splitOn_eq_singleton absent⟩
  | cons c text ih =>
    obtain ⟨places, last, short, long⟩ := ih
    rw [List.cons_append, List.splitOn_cons_eq_if_modifyHead,
      List.splitOn_cons_eq_if_modifyHead, short, long]
    by_cases hit : (c == sep) = true
    · rw [if_pos hit, if_pos hit]
      exact ⟨[] :: places, last, rfl, rfl⟩
    · rw [if_neg hit, if_neg hit]
      cases places with
      | nil => exact ⟨[], c :: last, rfl, rfl⟩
      | cons first places => exact ⟨(c :: first) :: places, last, rfl, rfl⟩

/-- Text without the separator goes to the first place. -/
theorem append_splitOn_of_not_mem {sep : Char} {front : List Char} (absent : sep ∉ front)
    {text first : List Char} {places : List (List Char)}
    (split : text.splitOn sep = first :: places) :
    (front ++ text).splitOn sep = (front ++ first) :: places := by
  induction front with
  | nil => exact split
  | cons c front ih =>
    rw [List.mem_cons, not_or] at absent
    have other : (c == sep) = false := by simpa using Ne.symm absent.1
    rw [List.cons_append, List.splitOn_cons_eq_if_modifyHead, ih absent.2, other]
    rfl

end Lib
