import Mathlib.Data.UInt
import Mathlib.Logic.Function.Basic

/-! An array that is filled through a counter of 32 bits. Memory does not end where
the array does: what is written behind it has an index too. -/

/-- How many entries have been stored, and what stands at every index. -/
structure CountedArray (ε : Type*) where
  amount : UInt32
  slot : Nat → ε

namespace CountedArray
variable {ε : Type*}

def clear (a : CountedArray ε) : CountedArray ε := { a with amount := 0 }

/-- The next entry goes where the counter says. -/
def store (a : CountedArray ε) (entry : ε) : CountedArray ε :=
  ⟨a.amount + 1, Function.update a.slot a.amount.toNat entry⟩

def storeAll (a : CountedArray ε) (entries : List ε) : CountedArray ε := entries.foldl store a

/-- Where the entries go. -/
def indices : CountedArray ε → List ε → List Nat
  | _, [] => []
  | a, entry :: entries => a.amount.toNat :: indices (a.store entry) entries

theorem toNat_amount_store (a : CountedArray ε) (entry : ε) :
    (a.store entry).amount.toNat = (a.amount.toNat + 1) % 2 ^ 32 :=
  UInt32.toNat_add a.amount 1

theorem toNat_amount_storeAll (a : CountedArray ε) (entries : List ε) :
    (a.storeAll entries).amount.toNat = (a.amount.toNat + entries.length) % 2 ^ 32 := by
  induction entries generalizing a with
  | nil => exact (Nat.mod_eq_of_lt a.amount.toNat_lt).symm
  | cons entry entries ih =>
      change ((a.store entry).storeAll entries).amount.toNat = _
      rw [ih, toNat_amount_store, List.length_cons, Nat.mod_add_mod, Nat.add_assoc,
        Nat.add_comm 1]

theorem mem_indices_iff (a : CountedArray ε) (entries : List ε) (index : Nat) :
    index ∈ a.indices entries ↔
      ∃ i < entries.length, index = (a.amount.toNat + i) % 2 ^ 32 := by
  induction entries generalizing a with
  | nil =>
      constructor
      · intro absent
        cases absent
      · rintro ⟨i, none_, -⟩
        exact absurd none_ (Nat.not_lt_zero i)
  | cons entry entries ih =>
      have first : a.amount.toNat = (a.amount.toNat + 0) % 2 ^ 32 :=
        (Nat.mod_eq_of_lt a.amount.toNat_lt).symm
      have later (i : Nat) : ((a.store entry).amount.toNat + i) % 2 ^ 32 =
          (a.amount.toNat + (i + 1)) % 2 ^ 32 := by
        rw [toNat_amount_store, Nat.mod_add_mod, Nat.add_assoc, Nat.add_comm 1]
      rw [indices, List.mem_cons, ih]
      constructor
      · rintro (rfl | ⟨i, inside, rfl⟩)
        · exact ⟨0, Nat.succ_pos _, first⟩
        · exact ⟨i + 1, Nat.succ_lt_succ inside, later i⟩
      · rintro ⟨i, inside, rfl⟩
        cases i with
        | zero => exact Or.inl first.symm
        | succ i => exact Or.inr ⟨i, Nat.lt_of_succ_lt_succ inside, (later i).symm⟩

/-- The array is left as soon as there are more entries than it has elements,
unless it is so long that the counter wraps first. -/
theorem indices_clear_lt_iff (a : CountedArray ε) (entries : List ε) (capacity : Nat) :
    (∀ index ∈ a.clear.indices entries, index < capacity) ↔
      entries.length ≤ capacity ∨ 2 ^ 32 ≤ capacity := by
  constructor
  · intro inside
    by_contra beyond
    obtain ⟨more, short⟩ := not_or.mp beyond
    have overrun : capacity ∈ a.clear.indices entries := by
      rw [mem_indices_iff]
      exact ⟨capacity, Nat.lt_of_not_le more,
        ((congrArg (· % 2 ^ 32) (Nat.zero_add capacity)).trans
          (Nat.mod_eq_of_lt (Nat.lt_of_not_le short))).symm⟩
    exact Nat.lt_irrefl capacity (inside capacity overrun)
  · intro enough index written
    obtain ⟨i, member, rfl⟩ := (mem_indices_iff _ _ _).mp written
    have wrapped : (a.clear.amount.toNat + i) % 2 ^ 32 < 2 ^ 32 := Nat.mod_lt _ (by decide)
    have low : (a.clear.amount.toNat + i) % 2 ^ 32 ≤ i :=
      (Nat.mod_le _ _).trans (Nat.zero_add i).le
    rcases enough with few | long
    · omega
    · omega

end CountedArray
