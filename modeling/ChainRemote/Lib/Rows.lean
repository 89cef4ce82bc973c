import Mathlib.Data.List.Nodup
import Mathlib.Data.List.Perm.Basic

/-!
# Tables as lists of rows

An `UPDATE … WHERE …` replaces the selected rows of a list in place. The lemmas say which
rows the result has, which column values survive and which sub-tables stay as they were.
-/

namespace Lib

variable {α κ : Type}

/-- `UPDATE rows SET set WHERE here`. -/
def updateWhere (here : α → Bool) (set : α → α) (rows : List α) : List α :=
  rows.map fun row => if here row then set row else row

/-- A row after an update is a rewritten selected row or an old row that was not selected. -/
theorem mem_updateWhere {here : α → Bool} {set : α → α} {rows : List α} {b : α} :
    b ∈ updateWhere here set rows ↔
      (∃ a ∈ rows, here a = true ∧ set a = b) ∨ (b ∈ rows ∧ here b = false) := by
  unfold updateWhere
  rw [List.mem_map]
  constructor
  · rintro ⟨a, old, same⟩
    by_cases hit : here a = true
    · rw [if_pos hit] at same
      exact .inl ⟨a, old, hit, same⟩
    · rw [if_neg hit] at same
      subst same
      exact .inr ⟨old, by simpa using hit⟩
  · rintro (⟨a, old, hit, same⟩ | ⟨old, miss⟩)
    · exact ⟨a, old, by rw [if_pos hit, same]⟩
    · exact ⟨b, old, by rw [miss]; rfl⟩

/-- A row that is not selected stays. -/
theorem mem_updateWhere_of_miss {here : α → Bool} {set : α → α} {rows : List α} {a : α}
    (old : a ∈ rows) (miss : here a = false) : a ∈ updateWhere here set rows :=
  mem_updateWhere.mpr (.inr ⟨old, miss⟩)

/-- A selected row is there rewritten. -/
theorem mem_updateWhere_of_hit {here : α → Bool} {set : α → α} {rows : List α} {a : α}
    (old : a ∈ rows) (hit : here a = true) : set a ∈ updateWhere here set rows :=
  mem_updateWhere.mpr (.inl ⟨a, old, hit, rfl⟩)

/-- An update that selects nothing changes nothing. -/
theorem updateWhere_of_miss {here : α → Bool} {set : α → α} {rows : List α}
    (miss : ∀ a ∈ rows, here a = false) : updateWhere here set rows = rows := by
  unfold updateWhere
  conv_rhs => rw [← List.map_id rows]
  apply List.map_congr_left
  intro a inside
  rw [miss a inside]
  rfl

/-- A column that the update does not set keeps its values, in order. -/
theorem map_updateWhere (key : α → κ) {here : α → Bool} {set : α → α} {rows : List α}
    (kept : ∀ a, key (set a) = key a) : (updateWhere here set rows).map key = rows.map key := by
  unfold updateWhere
  rw [List.map_map]
  apply List.map_congr_left
  intro a _
  by_cases hit : here a = true
  · simp only [Function.comp_apply, if_pos hit, kept]
  · simp only [Function.comp_apply, if_neg hit]

/-- A sub-table that holds no selected row, before or after, is the same list. -/
theorem filter_updateWhere (keep : α → Bool) {here : α → Bool} {set : α → α} {rows : List α}
    (apart : ∀ a ∈ rows, here a = true → keep a = false ∧ keep (set a) = false) :
    (updateWhere here set rows).filter keep = rows.filter keep := by
  induction rows with
  | nil => rfl
  | cons a rows ih =>
    have rest := ih fun b old => apart b (List.mem_cons_of_mem a old)
    unfold updateWhere at rest ⊢
    rw [List.map_cons, List.filter_cons, List.filter_cons, rest]
    by_cases hit : here a = true
    · have out := apart a List.mem_cons_self hit
      rw [if_pos hit, out.1, out.2]
      rfl
    · rw [if_neg hit]

/-- Rows with one key value are one row where the key is unique. -/
theorem eq_of_key {key : α → κ} {rows : List α} (unique : (rows.map key).Nodup) {a b : α}
    (left : a ∈ rows) (right : b ∈ rows) (same : key a = key b) : a = b :=
  List.inj_on_of_nodup_map unique left right same

/-- What stands in a place after one row is changed. -/
theorem getElem?_modify_eq_some {rows : List α} {set : α → α} {changed place : Nat} {row : α}
    (found : (rows.modify changed set)[place]? = some row) :
    (place = changed ∧ ∃ old, rows[place]? = some old ∧ set old = row) ∨
      (place ≠ changed ∧ rows[place]? = some row) := by
  by_cases same : place = changed
  · subst same
    rw [List.getElem?_modify_eq] at found
    exact .inl ⟨rfl, Option.map_eq_some_iff.mp found⟩
  · rw [List.getElem?_modify_ne _ _ (Ne.symm same)] at found
    exact .inr ⟨same, found⟩

/-- A row that is taken out and the rows that stay are all rows. -/
theorem cons_eraseIdx_perm {rows : List α} {i : Nat} {row : α} (chosen : rows[i]? = some row) :
    (row :: rows.eraseIdx i).Perm rows := by
  obtain ⟨inside, same⟩ := List.getElem?_eq_some_iff.mp chosen
  rw [← same]
  exact List.getElem_cons_eraseIdx_perm inside

end Lib
