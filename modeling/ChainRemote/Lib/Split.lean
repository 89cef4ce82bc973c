import Mathlib.Data.List.Infix

/-!
# Texts between separators

A text is split where a separator begins, from left to right and without overlap, and replacing the
separator joins what is between. In front of the first separator nothing changes.
-/

namespace Lib

variable {α : Type} [DecidableEq α]

/-- What is between separators, after some letters that belong to the last one. -/
def splitFrom (separator : List α) : ℕ → List α → List (List α)
  | _, [] => [[]]
  | skip + 1, _ :: rest => splitFrom separator skip rest
  | 0, c :: rest =>
    if separator.isPrefixOf (c :: rest) then
      [] :: splitFrom separator (separator.length - 1) rest
    else (splitFrom separator 0 rest).modifyHead (c :: ·)

/-- `str::split` for a text. -/
def splitText (separator text : List α) : List (List α) := splitFrom separator 0 text

/-- `str::replace`. -/
def replaceText (separator new text : List α) : List α :=
  new.intercalate (splitText separator text)

theorem splitFrom_ne_nil (separator : List α) (skip : ℕ) (text : List α) :
    splitFrom separator skip text ≠ [] := by
  induction text generalizing skip with
  | nil => cases skip <;> exact List.cons_ne_nil _ _
  | cons c rest ih =>
    cases skip with
    | succ skip => exact ih skip
    | zero =>
      unfold splitFrom
      split
      · exact List.cons_ne_nil _ _
      · intro empty
        exact ih 0 (List.modifyHead_eq_nil_iff.mp empty)

/-- Letters of a separator are skipped. -/
theorem splitFrom_append (separator : List α) (letters text : List α) :
    splitFrom separator letters.length (letters ++ text) = splitFrom separator 0 text := by
  induction letters with
  | nil => rfl
  | cons c letters ih => exact ih

/-- A separator in front. -/
theorem splitText_separator {separator : List α} (nonempty : separator ≠ []) (text : List α) :
    splitText separator (separator ++ text) = [] :: splitText separator text := by
  obtain ⟨c, letters, rfl⟩ := List.exists_cons_of_ne_nil nonempty
  have begins : (c :: letters).isPrefixOf (c :: (letters ++ text)) = true :=
    List.isPrefixOf_iff_prefix.mpr (List.prefix_append (c :: letters) text)
  show splitFrom (c :: letters) 0 (c :: (letters ++ text)) = _
  rw [splitFrom, if_pos begins]
  exact congrArg _ (splitFrom_append _ letters text)

/-- A letter at which no separator begins. -/
theorem splitText_cons {separator : List α} {c : α} {text : List α}
    (elsewhere : ¬ separator <+: c :: text) :
    splitText separator (c :: text) = (splitText separator text).modifyHead (c :: ·) := by
  show splitFrom separator 0 (c :: text) = _
  rw [splitFrom, if_neg fun begins => elsewhere (List.isPrefixOf_iff_prefix.mp begins)]
  rfl

theorem splitText_ne_nil (separator text : List α) : splitText separator text ≠ [] :=
  splitFrom_ne_nil separator 0 text

/-- No separator begins in a text that is in front of another one. -/
def Free (separator front back : List α) : Prop :=
  ∀ before after, after ≠ [] → front = before ++ after → ¬ separator <+: after ++ back

omit [DecidableEq α] in
theorem Free.mono {separator longer front back : List α} (free : Free separator front back)
    (begins : separator <+: longer) : Free longer front back :=
  fun before after nonempty whole found => free before after nonempty whole (begins.trans found)

omit [DecidableEq α] in
/-- A separator does not begin in a text without its first letter. -/
theorem free_of_not_mem {c : α} {front : List α} (missing : c ∉ front) (letters back : List α) :
    Free (c :: letters) front back := by
  intro before after nonempty whole found
  obtain ⟨d, rest, rfl⟩ := List.exists_cons_of_ne_nil nonempty
  rw [List.cons_append, List.cons_prefix_cons] at found
  exact missing (whole ▸ List.mem_append_right _ (found.1 ▸ List.mem_cons_self))

/-- A text in which no separator begins is a part of the first piece. -/
theorem splitText_free {separator front back : List α} (free : Free separator front back) :
    splitText separator (front ++ back) = (splitText separator back).modifyHead (front ++ ·) := by
  induction front with
  | nil => exact (congrFun List.modifyHead_id (splitText separator back)).symm
  | cons c front ih =>
    have later : Free separator front back := fun before after nonempty whole =>
      free (c :: before) after nonempty (by rw [whole]; rfl)
    have here : ¬ separator <+: c :: (front ++ back) :=
      free [] (c :: front) (List.cons_ne_nil _ _) rfl
    rw [List.cons_append, splitText_cons here, ih later, List.modifyHead_modifyHead]
    rfl

omit [DecidableEq α] in
theorem intercalate_modifyHead (new front : List α) {pieces : List (List α)}
    (nonempty : pieces ≠ []) :
    new.intercalate (pieces.modifyHead (front ++ ·)) = front ++ new.intercalate pieces := by
  obtain ⟨piece, pieces, rfl⟩ := List.exists_cons_of_ne_nil nonempty
  cases pieces with
  | nil => rw [List.modifyHead_cons, List.intercalate_singleton, List.intercalate_singleton]
  | cons second pieces =>
    rw [List.modifyHead_cons, List.intercalate_cons_cons, List.intercalate_cons_cons,
      List.append_assoc, List.append_assoc, List.append_assoc]

/-- What is in front of the first separator is kept. -/
theorem replaceText_free {separator front back : List α} (free : Free separator front back)
    (new : List α) :
    replaceText separator new (front ++ back) = front ++ replaceText separator new back := by
  rw [replaceText, splitText_free free, intercalate_modifyHead _ _ (splitText_ne_nil _ _),
    replaceText]

/-- A separator in front is replaced. -/
theorem replaceText_separator {separator : List α} (nonempty : separator ≠ []) (new text : List α) :
    replaceText separator new (separator ++ text) = new ++ replaceText separator new text := by
  obtain ⟨piece, pieces, split⟩ := List.exists_cons_of_ne_nil (splitText_ne_nil separator text)
  rw [replaceText, splitText_separator nonempty, replaceText, split, List.intercalate_cons_cons,
    List.nil_append]

/-- A letter at which no separator begins is kept. -/
theorem replaceText_cons {separator : List α} {c : α} {text : List α}
    (elsewhere : ¬ separator <+: c :: text) (new : List α) :
    replaceText separator new (c :: text) = c :: replaceText separator new text := by
  have free : Free separator [c] text := by
    intro before after nonempty whole
    cases before with
    | nil =>
      have own : [c] = after := whole
      rw [← own]
      exact elsewhere
    | cons d before =>
      obtain ⟨-, empty⟩ := List.cons.inj whole
      exact absurd (List.append_eq_nil_iff.mp empty.symm).2 nonempty
  exact replaceText_free free new

end Lib
