import Mathlib.Data.List.Induction
import Mathlib.Logic.Function.Basic

/-!
# Maps filled by insertions

A map is a partial function. Inserting a list of pairs leaves at each key the value of the last pair
with that key, and what was there where no pair has it. Adding the pairs whose keys are missing
leaves what was there, and else the value of the first pair.
-/

namespace Lib

section Insertions

variable {κ ν : Type} [DecidableEq κ]

/-- The map after the pairs are inserted in order. -/
def insertAll (pairs : List (κ × ν)) (map : κ → Option ν) : κ → Option ν :=
  pairs.foldl (fun map pair => Function.update map pair.1 (some pair.2)) map

/-- The value of the last pair of a key. -/
def lastValue (key : κ) (pairs : List (κ × ν)) : Option ν :=
  (pairs.filter fun pair => pair.1 = key).getLast?.map Prod.snd

theorem lastValue_append (key : κ) (pairs : List (κ × ν)) (pair : κ × ν) :
    lastValue key (pairs ++ [pair]) =
      if pair.1 = key then some pair.2 else lastValue key pairs := by
  unfold lastValue
  rw [List.filter_append]
  by_cases own : pair.1 = key
  · rw [if_pos own, List.filter_cons_of_pos (by simpa using own), List.filter_nil,
      List.getLast?_concat]
    rfl
  · rw [if_neg own, List.filter_cons_of_neg (by simpa using own), List.filter_nil, List.append_nil]

/-- After insertions a key has the value of its last pair, or what it had. -/
theorem insertAll_apply (pairs : List (κ × ν)) (map : κ → Option ν) (key : κ) :
    insertAll pairs map key = (lastValue key pairs).or (map key) := by
  induction pairs using List.reverseRecOn with
  | nil => rfl
  | append_singleton pairs pair ih =>
    have shape : insertAll (pairs ++ [pair]) map =
        Function.update (insertAll pairs map) pair.1 (some pair.2) := List.foldl_append
    rw [shape, lastValue_append]
    by_cases own : pair.1 = key
    · rw [if_pos own, own, Function.update_self]
      rfl
    · rw [if_neg own, Function.update_of_ne (Ne.symm own), ih]

/-- The last value of a key among the pairs made from rows: the value of the last row that is picked
for the key. -/
theorem lastValue_filterMap {ρ : Type} {key : κ} {pair : ρ → Option (κ × ν)} {picks : ρ → Bool}
    {value : ρ → ν} (picked : ∀ row, picks row = true → pair row = some (key, value row))
    (passed : ∀ row, picks row = false → ∀ found ∈ pair row, found.1 ≠ key) (rows : List ρ) :
    lastValue key (rows.filterMap pair) = (rows.filter picks).getLast?.map value := by
  induction rows using List.reverseRecOn with
  | nil => rfl
  | append_singleton rows row ih =>
    rw [List.filterMap_append, List.filter_append]
    cases pick : picks row with
    | true =>
      rw [List.filterMap_cons_some (picked row pick), List.filterMap_nil, lastValue_append,
        if_pos rfl, List.filter_cons_of_pos pick, List.filter_nil, List.getLast?_concat]
      rfl
    | false =>
      rw [List.filter_cons_of_neg (by rw [pick]; exact Bool.false_ne_true), List.filter_nil,
        List.append_nil]
      cases found : pair row with
      | none => rw [List.filterMap_cons_none found, List.filterMap_nil, List.append_nil, ih]
      | some made =>
        rw [List.filterMap_cons_some found, List.filterMap_nil, lastValue_append,
          if_neg (passed row pick made found), ih]

end Insertions

section Additions

variable {κ ν : Type} [DecidableEq κ]

/-- The map after a pair is added, where its key is missing. -/
def addMissing (map : κ → Option ν) (pair : κ × ν) : κ → Option ν :=
  if (map pair.1).isSome then map else Function.update map pair.1 (some pair.2)

/-- The value of the first pair of a key. -/
def firstValue (key : κ) (pairs : List (κ × ν)) : Option ν :=
  (pairs.find? fun pair => pair.1 = key).map Prod.snd

theorem firstValue_cons (key : κ) (pair : κ × ν) (pairs : List (κ × ν)) :
    firstValue key (pair :: pairs) =
      if pair.1 = key then some pair.2 else firstValue key pairs := by
  unfold firstValue
  by_cases own : pair.1 = key
  · rw [List.find?_cons_of_pos (by simpa using own), if_pos own]
    rfl
  · rw [List.find?_cons_of_neg (by simpa using own), if_neg own]

theorem addMissing_apply (map : κ → Option ν) (pair : κ × ν) (key : κ) :
    addMissing map pair key = (map key).or (if pair.1 = key then some pair.2 else none) := by
  unfold addMissing
  by_cases own : pair.1 = key
  · rw [if_pos own, own]
    cases had : map key with
    | none =>
      rw [if_neg (by simp), Function.update_self]
      rfl
    | some value => rw [if_pos (by simp), had, Option.some_or]
  · rw [if_neg own, Option.or_none]
    by_cases had : (map pair.1).isSome
    · rw [if_pos had]
    · rw [if_neg had, Function.update_of_ne (Ne.symm own)]

/-- After additions a key has what it had, or the value of its first pair. -/
theorem foldl_addMissing (pairs : List (κ × ν)) (map : κ → Option ν) (key : κ) :
    pairs.foldl addMissing map key = (map key).or (firstValue key pairs) := by
  induction pairs generalizing map with
  | nil => exact Option.or_none.symm
  | cons pair pairs ih =>
    rw [List.foldl_cons, ih, addMissing_apply, Option.or_assoc, firstValue_cons]
    by_cases own : pair.1 = key
    · rw [if_pos own, if_pos own, Option.some_or]
    · rw [if_neg own, if_neg own, Option.none_or]

/-- Where the keys differ, each key has the value of its own pair. -/
theorem firstValue_of_mem {pairs : List (κ × ν)} (different : (pairs.map Prod.fst).Nodup)
    {pair : κ × ν} (member : pair ∈ pairs) : firstValue pair.1 pairs = some pair.2 := by
  induction pairs with
  | nil => cases member
  | cons head pairs ih =>
    rw [firstValue_cons]
    rw [List.map_cons, List.nodup_cons] at different
    by_cases own : head.1 = pair.1
    · cases List.mem_cons.mp member with
      | inl first => rw [if_pos own, first]
      | inr later => exact absurd (own ▸ List.mem_map_of_mem later) different.1
    · rw [if_neg own]
      cases List.mem_cons.mp member with
      | inl first => exact absurd (congrArg Prod.fst first.symm) own
      | inr later => exact ih different.2 later

end Additions

section Sequences

variable {σ ε : Type} (step : σ → ε → σ)

/-- Every event of a sequence satisfies a property with the state it finds. -/
def Throughout (property : σ → ε → Prop) : σ → List ε → Prop
  | _, [] => True
  | s, e :: es => property s e ∧ Throughout property (step s e) es

variable {step}

/-- Two properties that agree under an invariant, which the second keeps, agree throughout. -/
theorem throughout_iff {good admitted : σ → ε → Prop} (inv : σ → Prop)
    (agree : ∀ s e, inv s → (good s e ↔ admitted s e))
    (kept : ∀ s e, inv s → admitted s e → inv (step s e)) {s : σ} (base : inv s) (es : List ε) :
    Throughout step good s es ↔ Throughout step admitted s es := by
  induction es generalizing s with
  | nil => exact Iff.rfl
  | cons e es ih =>
    constructor
    · rintro ⟨first, rest⟩
      have allowed := (agree s e base).mp first
      exact ⟨allowed, (ih (kept s e base allowed)).mp rest⟩
    · rintro ⟨allowed, rest⟩
      exact ⟨(agree s e base).mpr allowed, (ih (kept s e base allowed)).mpr rest⟩

end Sequences

end Lib
