import ChainRemote.Lib.Machine

/-!
# Machines that settle

Some steps of a machine are marked. Where a rank never grows and every mark takes one off it, a run
has no more marks than the rank it starts with.
-/

namespace Lib.Machine

variable {σ ε : Type}

/-- A machine that counts its marks. -/
def counted (m : Machine σ ε) (marks : σ → ε → σ → Nat) : Machine (σ × Nat) ε where
  start s := m.start s.1 ∧ s.2 = 0
  step s e := (m.step s.1 e).map fun t => (t, s.2 + marks s.1 e t)

variable {m : Machine σ ε} {marks : σ → ε → σ → Nat} {guard : σ → ε → Prop}

/-- A rank that pays for every mark bounds their number in every run. -/
theorem counted_le (rank : σ → Nat) {bound : Nat} (small : ∀ s, m.start s → rank s ≤ bound)
    (pays : ∀ s e t, guard s e → m.step s e = some t → rank t + marks s e t ≤ rank s) :
    (m.counted marks).Always (fun s e => guard s.1 e) fun _ _ t => t.2 ≤ bound := by
  have step : ∀ s e t, s.2 + rank s.1 ≤ bound → guard s.1 e →
      (m.counted marks).step s e = some t → t.2 + rank t.1 ≤ bound := by
    intro s e t held admitted next
    obtain ⟨u, moved, rfl⟩ := Option.map_eq_some_iff.mp next
    have paid := pays s.1 e u admitted moved
    dsimp only
    omega
  refine Always.of_invariant (fun s => s.2 + rank s.1 ≤ bound) ?_ step ?_
  · rintro s ⟨started, none⟩
    have start := small s.1 started
    omega
  · intro s e t held admitted next
    have after := step s e t held admitted next
    omega

end Lib.Machine
