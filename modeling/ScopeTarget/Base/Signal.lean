import Mathlib.Order.MinMax
import ScopeTarget.Base.Fifo

/-! A signal, sampled at the times 1, 2, 3 and so on: its latest samples, and where
it steps across a level. -/

namespace Signal

section Window
variable {α : Type*} (x : Nat → α)

/-- The samples up to a time, oldest first. -/
def upTo (j : Nat) : List α := (List.range j).map fun i => x (i + 1)

/-- As many of the latest samples as there is room for. -/
def latest (capacity j : Nat) : List α := (upTo x j).rtake capacity

theorem upTo_succ (j : Nat) : upTo x (j + 1) = upTo x j ++ [x (j + 1)] := by
  rw [upTo, List.range_succ, List.map_append]
  rfl

theorem latest_zero (capacity : Nat) : latest x capacity 0 = [] := List.rtake_nil capacity

theorem length_latest (capacity j : Nat) : (latest x capacity j).length = min j capacity := by
  rw [latest, List.rtake, List.length_drop, upTo, List.length_map, List.length_range]
  omega

/-- A new sample drives out the oldest one. -/
theorem latest_succ (capacity j : Nat) :
    latest x capacity (j + 1) = (latest x capacity j ++ [x (j + 1)]).rtake capacity := by
  have fewer : capacity = min capacity (capacity + 1) := (Nat.min_eq_left (Nat.le_succ _)).symm
  calc latest x capacity (j + 1)
      = (upTo x j ++ [x (j + 1)]).rtake (min capacity (capacity + 1)) := by
        rw [latest, upTo_succ, ← fewer]
    _ = ((upTo x j ++ [x (j + 1)]).rtake (capacity + 1)).rtake capacity :=
        (List.rtake_rtake _ _ _).symm
    _ = (latest x capacity j ++ [x (j + 1)]).rtake capacity := by
        rw [List.rtake_concat_succ, latest]

/-- A full window, by the times of its samples. -/
theorem latest_of_le {capacity j : Nat} (full : capacity ≤ j) :
    latest x capacity j = (List.range capacity).map fun i => x (j + 1 - capacity + i) := by
  apply List.ext_getElem
  · rw [length_latest, List.length_map, List.length_range]
    exact Nat.min_eq_right full
  · intro i here there
    have place : j - capacity + i + 1 = j + 1 - capacity + i := by omega
    simp only [latest, List.rtake, upTo, List.getElem_drop, List.getElem_map, List.getElem_range,
      List.length_map, List.length_range, place]

end Window

section Crossing
variable {α : Type*} [LinearOrder α]

/-- The sample differs from the one before, in the given direction, and the level
lies between the two. -/
structure Crosses (rising : Bool) (level : α) (x : Nat → α) (j : Nat) : Prop where
  differs : x (j - 1) ≠ x j
  direction : x (j - 1) < x j ↔ rising = true
  above : min (x (j - 1)) (x j) ≤ level
  below : level ≤ max (x (j - 1)) (x j)

end Crossing

/-- The first time, from a given one on, at which something happens. -/
structure FirstFrom (start : Nat) (happens : Nat → Prop) (k : Nat) : Prop where
  late : start ≤ k
  here : happens k
  before : ∀ j, start ≤ j → j < k → ¬ happens j

/-- What happens at some time happens for a first time. -/
theorem FirstFrom.exists_of {start j : Nat} {happens : Nat → Prop} (late : start ≤ j)
    (here : happens j) : ∃ k, FirstFrom start happens k := by
  induction j using Nat.strongRecOn with
  | ind j ih =>
      by_cases earlier : ∃ i, start ≤ i ∧ i < j ∧ happens i
      · obtain ⟨i, from_, before, there⟩ := earlier
        exact ih i before from_ there
      · exact ⟨j, late, here, fun i from_ before there => earlier ⟨i, from_, before, there⟩⟩

end Signal
