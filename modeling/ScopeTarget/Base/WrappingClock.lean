import Mathlib.Data.Nat.Init

/-! Waiting by a clock that starts again from zero. What is compared is the clock
with the sum of the starting time and the wait, both reduced by the period. -/

namespace WrappingClock
variable {period start wait elapsed : Nat}

/-- The clock has caught up with the end of the wait, as far as it can tell. -/
def Reached (period start wait elapsed : Nat) : Prop :=
  (start + wait) % period ≤ (start + elapsed) % period

/-- The end of the wait and the clock are in the same round. -/
def SameRound (period start wait elapsed : Nat) : Prop :=
  period ≤ start + wait ↔ period ≤ start + elapsed

instance (period start wait elapsed : Nat) : Decidable (SameRound period start wait elapsed) :=
  inferInstanceAs (Decidable (_ ↔ _))

theorem reduced {time : Nat} (inside : start < period) (short : time < period) :
    (start + time) % period =
      if period ≤ start + time then start + time - period else start + time := by
  split
  · rename_i wraps
    rw [Nat.mod_eq_sub_mod wraps, Nat.mod_eq_of_lt (by omega)]
  · rename_i stays
    exact Nat.mod_eq_of_lt (Nat.lt_of_not_le stays)

section Rounds
variable (inside : start < period) (waits : wait < period) (runs : elapsed < period)
include inside waits runs

theorem reached_iff_of_sameRound (together : SameRound period start wait elapsed) :
    Reached period start wait elapsed ↔ wait ≤ elapsed := by
  rw [Reached, reduced inside waits, reduced inside runs]
  by_cases wraps : period ≤ start + wait
  · have clockWraps := together.mp wraps
    rw [if_pos wraps, if_pos clockWraps]
    omega
  · have clockStays : ¬ period ≤ start + elapsed := fun both => wraps (together.mpr both)
    rw [if_neg wraps, if_neg clockStays]
    exact Nat.add_le_add_iff_left

/-- The end of the wait has wrapped and looks as if it were long past. -/
theorem early (sumWraps : period ≤ start + wait) (clockStays : ¬ period ≤ start + elapsed) :
    Reached period start wait elapsed ∧ elapsed < wait := by
  rw [Reached, reduced inside waits, reduced inside runs, if_pos sumWraps, if_neg clockStays]
  constructor
  · omega
  · omega

/-- The clock has wrapped and has all of a round to go. -/
theorem late (sumStays : ¬ period ≤ start + wait) (clockWraps : period ≤ start + elapsed) :
    ¬ Reached period start wait elapsed ∧ wait < elapsed := by
  rw [Reached, reduced inside waits, reduced inside runs, if_neg sumStays, if_pos clockWraps]
  constructor
  · omega
  · omega

/-- Comparing reduced times is right exactly within one round. -/
theorem reached_iff_iff : (Reached period start wait elapsed ↔ wait ≤ elapsed) ↔
    SameRound period start wait elapsed := by
  constructor
  · intro agrees
    by_cases sum : period ≤ start + wait
    · by_cases clock : period ≤ start + elapsed
      · exact iff_of_true sum clock
      · obtain ⟨reached, before⟩ := early inside waits runs sum clock
        exact absurd (agrees.mp reached) (Nat.not_le.mpr before)
    · by_cases clock : period ≤ start + elapsed
      · obtain ⟨waiting, expired⟩ := late inside waits runs sum clock
        exact absurd (agrees.mpr (Nat.le_of_lt expired)) waiting
      · exact iff_of_false sum clock
  · exact reached_iff_of_sameRound inside waits runs

end Rounds

end WrappingClock
