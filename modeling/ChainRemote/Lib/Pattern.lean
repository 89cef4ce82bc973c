import Mathlib.Data.List.Forall2

/-!
# Patterns within a text

A pattern is a row of items, each one letter of a kind or any number of letters of a kind. A text
holds a pattern where some part of it is spelled as the pattern says; a search with backtracking
finds out whether it does. A pattern that allows more letters at each item is found wherever the
stricter one is.
-/

namespace Lib

universe u

variable {α : Type u}

/-- An item of a pattern: one letter of a kind, or any number of them. -/
inductive Item (α : Type u) where
  | one (kind : α → Bool)
  | many (kind : α → Bool)

/-- A pattern. -/
abbrev Pattern (α : Type u) := List (Item α)

/-- Letters one after another, each as the comparison has it. -/
def literal (same : α → α → Bool) (text : List α) : Pattern α :=
  text.map fun letter => .one (same letter)

/-- The pattern spells the text. -/
def Spells : Pattern α → List α → Prop
  | [], text => text = []
  | .one kind :: items, text => ∃ letter rest,
      text = letter :: rest ∧ kind letter = true ∧ Spells items rest
  | .many kind :: items, text => ∃ run rest,
      text = run ++ rest ∧ (∀ letter ∈ run, kind letter = true) ∧ Spells items rest

/-- A part of the text is spelled as the pattern says. -/
def Holds (pattern : Pattern α) (text : List α) : Prop :=
  ∃ before piece after, text = before ++ piece ++ after ∧ Spells pattern piece

/-- The test passes after some letters of a kind. -/
def skipping (kind : α → Bool) (next : List α → Bool) : List α → Bool
  | [] => next []
  | letter :: rest => next (letter :: rest) || (kind letter && skipping kind next rest)

/-- The text starts as the pattern says. -/
def starts : Pattern α → List α → Bool
  | [], _ => true
  | .one _ :: _, [] => false
  | .one kind :: items, letter :: rest => kind letter && starts items rest
  | .many kind :: items, text => skipping kind (starts items) text

/-- The pattern is found in the text. -/
def found (pattern : Pattern α) (text : List α) : Bool :=
  skipping (fun _ => true) (starts pattern) text

/-- The test passes after some letters of a kind exactly when the text is such letters and a rest
that passes it. -/
theorem skipping_iff {kind : α → Bool} {next : List α → Bool} {text : List α} :
    skipping kind next text = true ↔ ∃ run rest,
      text = run ++ rest ∧ (∀ letter ∈ run, kind letter = true) ∧ next rest = true := by
  induction text with
  | nil =>
    constructor
    · intro passes
      exact ⟨[], [], rfl, List.forall_mem_nil _, passes⟩
    · rintro ⟨run, rest, whole, -, passes⟩
      rw [(List.append_eq_nil_iff.mp whole.symm).2] at passes
      exact passes
  | cons letter tail ih =>
    rw [skipping, Bool.or_eq_true, Bool.and_eq_true, ih]
    constructor
    · rintro (passes | ⟨ofKind, run, rest, rfl, all, passes⟩)
      · exact ⟨[], letter :: tail, rfl, List.forall_mem_nil _, passes⟩
      · exact ⟨letter :: run, rest, rfl, List.forall_mem_cons.mpr ⟨ofKind, all⟩, passes⟩
    · rintro ⟨run, rest, whole, all, passes⟩
      cases run with
      | nil =>
        rw [List.nil_append] at whole
        exact .inl (whole ▸ passes)
      | cons first run =>
        rw [List.cons_append, List.cons.injEq] at whole
        have split := List.forall_mem_cons.mp all
        exact .inr ⟨whole.1 ▸ split.1, run, rest, whole.2, split.2, passes⟩

/-- The text starts as the pattern says exactly when its first part is spelled so. -/
theorem starts_iff {pattern : Pattern α} {text : List α} :
    starts pattern text = true ↔ ∃ piece after, text = piece ++ after ∧ Spells pattern piece := by
  induction pattern generalizing text with
  | nil =>
    constructor
    · intro _
      exact ⟨[], text, rfl, rfl⟩
    · intro _
      rw [starts]
  | cons item items ih =>
    cases item with
    | one kind =>
      cases text with
      | nil =>
        constructor
        · intro impossible
          cases impossible
        · rintro ⟨piece, after, whole, letter, rest, rfl, -, -⟩
          cases whole
      | cons letter tail =>
        rw [starts, Bool.and_eq_true, ih]
        constructor
        · rintro ⟨ofKind, piece, after, rfl, spelled⟩
          exact ⟨letter :: piece, after, rfl, letter, piece, rfl, ofKind, spelled⟩
        · rintro ⟨piece, after, whole, first, rest, rfl, ofKind, spelled⟩
          rw [List.cons_append, List.cons.injEq] at whole
          exact ⟨whole.1 ▸ ofKind, rest, after, whole.2, spelled⟩
    | many kind =>
      rw [starts, skipping_iff]
      constructor
      · rintro ⟨run, rest, rfl, all, passes⟩
        obtain ⟨piece, after, rfl, spelled⟩ := ih.mp passes
        exact ⟨run ++ piece, after, (List.append_assoc _ _ _).symm, run, piece, rfl, all, spelled⟩
      · rintro ⟨piece, after, rfl, run, rest, rfl, all, spelled⟩
        exact ⟨run, rest ++ after, List.append_assoc _ _ _, all, ih.mpr ⟨rest, after, rfl, spelled⟩⟩

/-- The search finds a pattern exactly where the text holds it. -/
theorem found_iff {pattern : Pattern α} {text : List α} :
    found pattern text = true ↔ Holds pattern text := by
  rw [found, skipping_iff]
  constructor
  · rintro ⟨before, rest, rfl, -, passes⟩
    obtain ⟨piece, after, rfl, spelled⟩ := starts_iff.mp passes
    exact ⟨before, piece, after, (List.append_assoc _ _ _).symm, spelled⟩
  · rintro ⟨before, piece, after, rfl, spelled⟩
    exact ⟨before, piece ++ after, List.append_assoc _ _ _, fun _ _ => rfl,
      starts_iff.mpr ⟨piece, after, rfl, spelled⟩⟩

instance (pattern : Pattern α) (text : List α) : Decidable (Holds pattern text) :=
  decidable_of_iff _ found_iff

/-- Every letter that the item allows is allowed by the other. -/
def Item.Within : Item α → Item α → Prop
  | .one kind, .one wider => ∀ letter, kind letter = true → wider letter = true
  | .many kind, .many wider => ∀ letter, kind letter = true → wider letter = true
  | _, _ => False

/-- A pattern spells what a stricter one does. -/
theorem Spells.widen {pattern wider : Pattern α} (within : List.Forall₂ Item.Within pattern wider)
    {text : List α} (spelled : Spells pattern text) : Spells wider text := by
  induction within generalizing text with
  | nil => exact spelled
  | @cons item other _ _ allowed _ ih =>
    cases item with
    | one kind =>
      cases other with
      | one _ =>
        obtain ⟨letter, rest, rfl, ofKind, later⟩ := spelled
        exact ⟨letter, rest, rfl, allowed letter ofKind, ih later⟩
      | many _ => exact allowed.elim
    | many kind =>
      cases other with
      | one _ => exact allowed.elim
      | many _ =>
        obtain ⟨run, rest, rfl, all, later⟩ := spelled
        exact ⟨run, rest, rfl, fun letter member => allowed letter (all letter member), ih later⟩

/-- A pattern is held where a stricter one is. -/
theorem Holds.widen {pattern wider : Pattern α} (within : List.Forall₂ Item.Within pattern wider)
    {text : List α} (held : Holds pattern text) : Holds wider text := by
  obtain ⟨before, piece, after, whole, spelled⟩ := held
  exact ⟨before, piece, after, whole, spelled.widen within⟩

/-- A literal with a laxer comparison is wider. -/
theorem literal_within {same lax : α → α → Bool}
    (implies : ∀ letter other, same letter other = true → lax letter other = true)
    (text : List α) : List.Forall₂ Item.Within (literal same text) (literal lax text) := by
  induction text with
  | nil => exact .nil
  | cons letter rest ih => exact .cons (implies letter) ih

/-- An item is within itself. -/
theorem Item.Within.refl (item : Item α) : item.Within item := by
  cases item with
  | one kind => exact fun _ allowed => allowed
  | many kind => exact fun _ allowed => allowed

/-- A literal spells its text. -/
theorem spells_literal [BEq α] [ReflBEq α] (text : List α) :
    Spells (literal BEq.beq text) text := by
  induction text with
  | nil => rfl
  | cons letter rest ih => exact ⟨letter, rest, rfl, BEq.rfl, ih⟩

/-- A letter that cannot start the pattern may be left out in front. -/
theorem holds_cons {kind : α → Bool} {items : Pattern α} {letter : α}
    (other : kind letter = false) (text : List α) :
    Holds (.one kind :: items) (letter :: text) ↔ Holds (.one kind :: items) text := by
  rw [← found_iff, ← found_iff, found, found, skipping, starts, other, Bool.false_and,
    Bool.false_or, Bool.true_and]

end Lib
