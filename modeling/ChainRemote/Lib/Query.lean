import Mathlib.Data.List.Sort
import Mathlib.Logic.Equiv.Basic

/-!
# Queries over lists of rows

A `LEFT JOIN` pairs every row with each row it matches, or with none, and `ORDER BY … DESC` sorts
by a column. The lemmas say which pairs a join has, and that it only reads the rows it matches.
`dedupe` keeps the first row of each key.
-/

namespace Lib

variable {α β κ : Type}

/-- The pairs of one row in a `LEFT JOIN`. -/
def joined (a : α) : List β → List (α × Option β)
  | [] => [(a, none)]
  | b :: found => (b :: found).map fun c => (a, some c)

/-- `LEFT JOIN other ON …`. -/
def leftJoin (on : α → β → Bool) (rows : List α) (other : List β) : List (α × Option β) :=
  rows.flatMap fun a => joined a (other.filter (on a))

/-- The pairs of one row carry that row. -/
theorem fst_of_mem_joined {a : α} {found : List β} {pair : α × Option β}
    (inside : pair ∈ joined a found) : pair.1 = a := by
  cases found with
  | nil => simp_all [joined]
  | cons b found =>
    obtain ⟨c, _, rfl⟩ := List.mem_map.mp inside
    rfl

/-- A row is paired with exactly the rows that were found. -/
theorem mem_joined_some {a : α} {found : List β} {b : β} :
    (a, some b) ∈ joined a found ↔ b ∈ found := by
  cases found <;> simp [joined]

/-- A joined pair starts with a row of the left table. -/
theorem fst_mem_of_mem_leftJoin {on : α → β → Bool} {rows : List α} {other : List β}
    {pair : α × Option β} (inside : pair ∈ leftJoin on rows other) : pair.1 ∈ rows := by
  obtain ⟨a, old, paired⟩ := List.mem_flatMap.mp inside
  rw [fst_of_mem_joined paired]
  exact old

/-- Two rows are joined exactly when they match. -/
theorem mem_leftJoin_some {on : α → β → Bool} {rows : List α} {other : List β} {a : α} {b : β} :
    (a, some b) ∈ leftJoin on rows other ↔ a ∈ rows ∧ b ∈ other ∧ on a b = true := by
  unfold leftJoin
  rw [List.mem_flatMap]
  constructor
  · rintro ⟨c, old, paired⟩
    obtain rfl : a = c := fst_of_mem_joined paired
    exact ⟨old, List.mem_filter.mp (mem_joined_some.mp paired)⟩
  · rintro ⟨old, found, matched⟩
    exact ⟨a, old, mem_joined_some.mpr (List.mem_filter.mpr ⟨found, matched⟩)⟩

/-- A row that is paired with none matches nothing. -/
theorem filter_eq_nil_of_mem_leftJoin {on : α → β → Bool} {rows : List α} {other : List β} {a : α}
    (inside : (a, none) ∈ leftJoin on rows other) : other.filter (on a) = [] := by
  obtain ⟨c, -, paired⟩ := List.mem_flatMap.mp inside
  obtain rfl : a = c := fst_of_mem_joined paired
  cases found : other.filter (on a) with
  | nil => rfl
  | cons b rest =>
    rw [found] at paired
    obtain ⟨d, -, same⟩ := List.mem_map.mp paired
    cases congrArg Prod.snd same

/-- No pair stands twice in the join of tables without repeated rows. -/
theorem nodup_leftJoin {on : α → β → Bool} {rows : List α} {other : List β} (left : rows.Nodup)
    (right : other.Nodup) : (leftJoin on rows other).Nodup := by
  unfold leftJoin
  apply List.nodup_flatMap.mpr
  constructor
  · intro a _
    have matched : (other.filter (on a)).Nodup := right.filter _
    cases found : other.filter (on a) with
    | nil => exact List.nodup_singleton _
    | cons b rest =>
      rw [found] at matched
      apply matched.map
      intro c d same
      exact Option.some.inj (congrArg Prod.snd same)
  · apply left.imp
    intro a c apart pair first second
    apply apart
    rw [← fst_of_mem_joined first, ← fst_of_mem_joined second]

/-- Every row of the left table stands in the join. -/
theorem exists_mem_leftJoin (on : α → β → Bool) {rows : List α} (other : List β) {a : α}
    (old : a ∈ rows) : ∃ partner, (a, partner) ∈ leftJoin on rows other := by
  have pairs : ∀ found : List β, ∃ partner, (a, partner) ∈ joined a found := by
    intro found
    cases found with
    | nil => exact ⟨none, by simp [joined]⟩
    | cons b found => exact ⟨some b, by simp [joined]⟩
  obtain ⟨partner, paired⟩ := pairs (other.filter (on a))
  exact ⟨partner, List.mem_flatMap.mpr ⟨a, old, paired⟩⟩

/-- A condition on the left rows may be checked before the join. -/
theorem filter_leftJoin (on : α → β → Bool) (keep : α → Bool) (rows : List α) (other : List β) :
    (leftJoin on rows other).filter (fun pair => keep pair.1) =
      leftJoin on (rows.filter keep) other := by
  have whole : ∀ (a : α) (found : List β), (joined a found).filter (fun pair => keep pair.1) =
      if keep a then joined a found else [] := by
    intro a found
    by_cases kept : keep a = true
    · rw [if_pos kept, List.filter_eq_self]
      intro pair inside
      rw [fst_of_mem_joined inside]
      exact kept
    · rw [if_neg kept, List.filter_eq_nil_iff]
      intro pair inside
      rw [fst_of_mem_joined inside]
      exact kept
  unfold leftJoin
  induction rows with
  | nil => rfl
  | cons a rows ih =>
    rw [List.flatMap_cons, List.filter_append, ih, whole, List.filter_cons]
    split <;> rfl

/-- A join only reads the rows that match. -/
theorem leftJoin_congr {on : α → β → Bool} {rows : List α} {first second : List β}
    (same : ∀ a ∈ rows, first.filter (on a) = second.filter (on a)) :
    leftJoin on rows first = leftJoin on rows second := by
  unfold leftJoin
  apply List.flatMap_congr
  intro a inside
  rw [same a inside]

/-- `ORDER BY key DESC`. -/
def orderDesc [LE κ] [DecidableLE κ] (key : α → κ) (rows : List α) : List α :=
  rows.insertionSort fun a b => key b ≤ key a

@[simp]
theorem mem_orderDesc [LE κ] [DecidableLE κ] {key : α → κ} {rows : List α} {a : α} :
    a ∈ orderDesc key rows ↔ a ∈ rows :=
  List.mem_insertionSort _

theorem perm_orderDesc [LE κ] [DecidableLE κ] (key : α → κ) (rows : List α) :
    (orderDesc key rows).Perm rows :=
  List.perm_insertionSort _ _

theorem pairwise_orderDesc [LinearOrder κ] (key : α → κ) (rows : List α) :
    (orderDesc key rows).Pairwise fun a b => key b ≤ key a := by
  have total : Std.Total fun a b : α => key b ≤ key a := ⟨fun a b => le_total (key b) (key a)⟩
  have trans : IsTrans α fun a b => key b ≤ key a := ⟨fun _ _ _ first second => second.trans first⟩
  exact List.pairwise_insertionSort _ _

/-- A row that is sorted in stands among the kept rows where it is kept itself. -/
theorem filter_orderedInsert {r : α → α → Prop} [DecidableRel r] [IsTrans α r] (keep : α → Bool)
    (a : α) {rows : List α} (sorted : rows.Pairwise r) :
    (rows.orderedInsert r a).filter keep =
      if keep a then (rows.filter keep).orderedInsert r a else rows.filter keep := by
  induction rows with
  | nil => simp [List.filter_cons]
  | cons b rows ih =>
    have later := List.pairwise_cons.mp sorted
    have rest := ih later.2
    by_cases before : r a b
    · rw [List.orderedInsert_cons, if_pos before, List.filter_cons]
      by_cases kept : keep a = true
      · rw [if_pos kept, if_pos kept]
        -- what is kept of the rest comes after `a` as well
        have after : ∀ c ∈ (b :: rows).filter keep, r a c := by
          intro c inside
          rcases List.mem_cons.mp (List.mem_of_mem_filter inside) with rfl | old
          · exact before
          · exact IsTrans.trans _ _ _ before (later.1 c old)
        cases found : (b :: rows).filter keep with
        | nil => rfl
        | cons c front =>
          rw [found] at after
          rw [List.orderedInsert_cons, if_pos (after c List.mem_cons_self)]
      · rw [if_neg kept, if_neg kept]
    · rw [List.orderedInsert_cons, if_neg before, List.filter_cons, rest, List.filter_cons]
      by_cases kept : keep a = true
      · rw [if_pos kept, if_pos kept]
        by_cases stays : keep b = true
        · rw [if_pos stays, if_pos stays, List.orderedInsert_cons, if_neg before]
        · rw [if_neg stays, if_neg stays]
      · rw [if_neg kept, if_neg kept]

/-- Rows may be left out before they are sorted. -/
theorem filter_orderDesc [LinearOrder κ] (key : α → κ) (keep : α → Bool) (rows : List α) :
    (orderDesc key rows).filter keep = orderDesc key (rows.filter keep) := by
  have trans : IsTrans α fun a b => key b ≤ key a := ⟨fun _ _ _ first second => second.trans first⟩
  induction rows with
  | nil => rfl
  | cons a rows ih =>
    have step := filter_orderedInsert keep a (pairwise_orderDesc key rows)
    have whole : orderDesc key (a :: rows) =
        (orderDesc key rows).orderedInsert (fun a b => key b ≤ key a) a := rfl
    rw [whole, step, ih, List.filter_cons]
    split
    · rfl
    · rfl

/-- Exchanging two rows gives the same rows in another order. -/
theorem perm_map_swap [DecidableEq α] {rows : List α} (nodup : rows.Nodup) {a b : α}
    (first : a ∈ rows) (second : b ∈ rows) : (rows.map (Equiv.swap a b)).Perm rows := by
  apply (List.perm_ext_iff_of_nodup (nodup.map (Equiv.swap a b).injective) nodup).mpr
  have inside : ∀ c ∈ rows, Equiv.swap a b c ∈ rows := by
    intro c old
    rw [Equiv.swap_apply_def]
    split
    · exact second
    · split
      · exact first
      · exact old
  intro c
  rw [List.mem_map]
  constructor
  · rintro ⟨d, old, rfl⟩
    exact inside d old
  · intro old
    exact ⟨Equiv.swap a b c, inside c old, Equiv.swap_apply_self a b c⟩

section Dedupe

variable [DecidableEq κ] (key : α → κ)

/-- Keep the first row of each key that is not among those seen. -/
def dedupe (seen : List κ) : List α → List α
  | [] => []
  | a :: rows => if key a ∈ seen then dedupe seen rows else a :: dedupe (key a :: seen) rows

variable {key} {seen : List κ} {rows : List α}

theorem dedupe_sublist : (dedupe key seen rows).Sublist rows := by
  induction rows generalizing seen with
  | nil => exact .slnil
  | cons a rows ih =>
    simp only [dedupe]
    split
    · exact ih.cons a
    · exact ih.cons_cons a

/-- A kept row has a key that was not seen before. -/
theorem unseen_of_mem_dedupe {a : α} (kept : a ∈ dedupe key seen rows) : key a ∉ seen := by
  induction rows generalizing seen with
  | nil => cases kept
  | cons b rows ih =>
    simp only [dedupe] at kept
    split at kept
    · exact ih kept
    · rename_i unseen
      rcases List.mem_cons.mp kept with rfl | later
      · exact unseen
      · exact fun before => ih later (List.mem_cons_of_mem _ before)

/-- Every key is kept once at most. -/
theorem nodup_dedupe : ((dedupe key seen rows).map key).Nodup := by
  induction rows generalizing seen with
  | nil => exact List.nodup_nil
  | cons a rows ih =>
    simp only [dedupe]
    split
    · exact ih
    · rw [List.map_cons]
      apply List.nodup_cons.mpr
      refine ⟨?_, ih⟩
      intro again
      obtain ⟨b, kept, same⟩ := List.mem_map.mp again
      apply unseen_of_mem_dedupe kept
      rw [same]
      exact List.mem_cons_self

/-- A key that was not seen before is kept. -/
theorem exists_mem_dedupe {a : α} (inside : a ∈ rows) (unseen : key a ∉ seen) :
    ∃ b ∈ dedupe key seen rows, key b = key a := by
  induction rows generalizing seen with
  | nil => cases inside
  | cons c rows ih =>
    simp only [dedupe]
    by_cases same : key c = key a
    · rw [if_neg (same ▸ unseen)]
      exact ⟨c, List.mem_cons_self, same⟩
    · have later : a ∈ rows := by
        rcases List.mem_cons.mp inside with rfl | later
        · exact absurd rfl same
        · exact later
      split
      · exact ih later unseen
      · have unseen' : key a ∉ key c :: seen := by
          intro before
          rcases List.mem_cons.mp before with here | before
          · exact same here.symm
          · exact unseen before
        obtain ⟨b, kept, named⟩ := ih later unseen'
        exact ⟨b, List.mem_cons_of_mem _ kept, named⟩

/-- Rows may be exchanged for others of the same keys first. -/
theorem dedupe_map {f : α → α} (keeps : ∀ a, key (f a) = key a) :
    dedupe key seen (rows.map f) = (dedupe key seen rows).map f := by
  induction rows generalizing seen with
  | nil => rfl
  | cons a rows ih =>
    simp only [List.map_cons, dedupe, keeps]
    split
    · exact ih
    · rw [List.map_cons, ih]

end Dedupe

end Lib
