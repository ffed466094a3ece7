import Mathlib.Data.Bool.Basic

/-! A lock that two parties ask for without waiting. It is taken exactly while one
of them holds it, and never by both. -/

/-- Whether the lock is taken, and whether each of the parties holds it. -/
structure Mutex (locked first second : Bool) : Prop where
  locked : locked = (first || second)
  apart : (first && second) = false

namespace Mutex
variable {locked first second : Bool}

theorem free : Mutex false false false := ⟨rfl, rfl⟩

theorem second_of_first (mutex : Mutex locked true second) : second = false := mutex.apart

theorem first_of_second (mutex : Mutex locked first true) : first = false := by
  have apart := mutex.apart
  rwa [Bool.and_true] at apart

theorem none_of_free (mutex : Mutex false first second) : first = false ∧ second = false :=
  Bool.or_eq_false_iff.mp mutex.locked.symm

theorem free_of_none (mutex : Mutex locked false false) : locked = false := mutex.locked

theorem take_first (mutex : Mutex false first second) : Mutex true true second := by
  obtain ⟨-, rfl⟩ := mutex.none_of_free
  exact ⟨rfl, rfl⟩

theorem take_second (mutex : Mutex false first second) : Mutex true first true := by
  obtain ⟨rfl, -⟩ := mutex.none_of_free
  exact ⟨rfl, rfl⟩

theorem release_first (mutex : Mutex locked true second) : Mutex false false second := by
  obtain rfl := mutex.second_of_first
  exact free

theorem release_second (mutex : Mutex locked first true) : Mutex false first false := by
  obtain rfl := mutex.first_of_second
  exact free

end Mutex
