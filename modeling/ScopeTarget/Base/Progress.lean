import ScopeTarget.Base.Run

/-! What a run must come to. One party brings a measure down with each of its own steps,
whatever the others do in between. -/

namespace Run
variable {State Label : Type*} {step : State → Label → State}

/-- Own steps bring the measure down to zero, and no other step brings it up. -/
theorem reaches_zero (measure : State → Nat) {own : Label → Bool}
    (down : ∀ s a, own a = true → measure s ≠ 0 → measure (step s a) < measure s)
    (others : ∀ s a, own a = false → measure (step s a) ≤ measure s) {s : State} {labels : List Label}
    (enough : measure s ≤ labels.countP own) :
    ∃ before, before <+: labels ∧ measure (exec step s before) = 0 := by
  induction labels generalizing s with
  | nil => exact ⟨[], List.nil_prefix, Nat.le_zero.mp enough⟩
  | cons a as ih =>
      by_cases done : measure s = 0
      · exact ⟨[], List.nil_prefix, done⟩
      · have still : measure (step s a) ≤ as.countP own := by
          rw [List.countP_cons] at enough
          cases mine : own a with
          | true =>
              have less := down s a mine done
              rw [mine, if_pos rfl] at enough
              omega
          | false =>
              have kept := others s a mine
              rw [mine, if_neg (by decide)] at enough
              omega
        obtain ⟨before, inside, zero⟩ := ih still
        exact ⟨a :: before, (List.prefix_cons_inj a).mpr inside, zero⟩

end Run
