import Mathlib.Data.List.DropRight

/-! Fixed-capacity first-in first-out buffers. The bound on the contents is part
of the type, so no operation has to re-establish it for its callers. A write
that does not fit and a read of more than is stored leave the buffer unchanged. -/

/-- Contents are listed oldest first and never exceed the capacity. -/
structure Fifo (capacity : Nat) (α : Type*) where
  contents : List α
  bounded : contents.length ≤ capacity

namespace Fifo
variable {capacity : Nat} {α : Type*}

@[ext] theorem ext {a b : Fifo capacity α} (h : a.contents = b.contents) : a = b := by
  rcases a with ⟨xs, hx⟩
  rcases b with ⟨ys, hy⟩
  cases h
  rfl

instance [DecidableEq α] : DecidableEq (Fifo capacity α) := fun a b =>
  decidable_of_iff (a.contents = b.contents) ⟨ext, congrArg contents⟩

def empty : Fifo capacity α := ⟨[], Nat.zero_le _⟩

def used (b : Fifo capacity α) : Nat := b.contents.length

def free (b : Fifo capacity α) : Nat := capacity - b.used

def Full (b : Fifo capacity α) : Prop := b.used = capacity

instance (b : Fifo capacity α) : Decidable b.Full := inferInstanceAs (Decidable (_ = _))

/-- All of `xs` or nothing is appended. -/
def write (b : Fifo capacity α) (xs : List α) : Fifo capacity α :=
  if h : b.used + xs.length ≤ capacity then
    ⟨b.contents ++ xs, by rw [List.length_append]; exact h⟩
  else b

/-- The oldest `n` entries are taken out, or none when fewer are stored. -/
def read (b : Fifo capacity α) (n : Nat) : List α × Fifo capacity α :=
  if n ≤ b.used then
    (b.contents.take n, ⟨b.contents.drop n, by
      rw [List.length_drop]
      exact Nat.le_trans (Nat.sub_le _ _) b.bounded⟩)
  else ([], b)

/-- A write that makes room by dropping the oldest entry of a full buffer. -/
def push (b : Fifo capacity α) (x : α) : Fifo capacity α :=
  if b.used < capacity then b.write [x] else (b.read 1).2.write [x]

@[simp] theorem contents_empty : (empty : Fifo capacity α).contents = [] := rfl
@[simp] theorem used_empty : (empty : Fifo capacity α).used = 0 := rfl

theorem used_le (b : Fifo capacity α) : b.used ≤ capacity := b.bounded

theorem used_eq_length (b : Fifo capacity α) : b.used = b.contents.length := rfl

theorem contents_eq_nil_iff (b : Fifo capacity α) : b.contents = [] ↔ b.used = 0 := by
  rw [used_eq_length, List.length_eq_zero_iff]

theorem eq_empty_iff (b : Fifo capacity α) : b = empty ↔ b.used = 0 := by
  rw [← contents_eq_nil_iff]
  exact ⟨fun h => congrArg contents h, fun h => ext h⟩

theorem contents_write_of_fits {b : Fifo capacity α} {xs : List α}
    (h : b.used + xs.length ≤ capacity) : (b.write xs).contents = b.contents ++ xs := by
  simp only [write, dif_pos h]

theorem write_of_overflow {b : Fifo capacity α} {xs : List α}
    (h : capacity < b.used + xs.length) : b.write xs = b := by
  simp only [write, dif_neg (Nat.not_le.mpr h)]

theorem used_write_of_fits {b : Fifo capacity α} {xs : List α}
    (h : b.used + xs.length ≤ capacity) : (b.write xs).used = b.used + xs.length := by
  rw [used_eq_length, contents_write_of_fits h, List.length_append, ← used_eq_length]

theorem write_write_of_fits {b : Fifo capacity α} {xs ys : List α}
    (h : b.used + xs.length + ys.length ≤ capacity) : (b.write xs).write ys = b.write (xs ++ ys) := by
  have first : b.used + xs.length ≤ capacity := by omega
  have both : b.used + (xs ++ ys).length ≤ capacity := by
    rw [List.length_append]
    omega
  have second : (b.write xs).used + ys.length ≤ capacity := by
    rw [used_write_of_fits first]
    exact h
  refine ext ?_
  rw [contents_write_of_fits second, contents_write_of_fits first, contents_write_of_fits both,
    List.append_assoc]

@[simp] theorem write_nil (b : Fifo capacity α) : b.write [] = b :=
  ext (by rw [contents_write_of_fits b.used_le, List.append_nil])

theorem take_contents {b : Fifo capacity α} {more : List α} (full : b.used = capacity) :
    (b.contents ++ more).take capacity = b.contents := by
  have length : b.contents.length = capacity := full
  rw [List.take_append_of_le_length (Nat.le_of_eq length.symm)]
  exact List.take_of_length_le (Nat.le_of_eq length)

/-- One entry is kept as long as there is room. -/
theorem contents_write_singleton (b : Fifo capacity α) (x : α) :
    (b.write [x]).contents = (b.contents ++ [x]).take capacity := by
  by_cases room : b.used + 1 ≤ capacity
  · have length : (b.contents ++ [x]).length ≤ capacity := by
      rw [List.length_append]
      exact room
    rw [contents_write_of_fits room, List.take_of_length_le length]
  · have full : b.used = capacity := Nat.le_antisymm b.used_le (by omega)
    rw [write_of_overflow (by simpa using room), take_contents full]

theorem contents_read_of_le {b : Fifo capacity α} {n : Nat} (h : n ≤ b.used) :
    (b.read n).1 = b.contents.take n ∧ (b.read n).2.contents = b.contents.drop n := by
  simp only [read, if_pos h, and_self]

theorem read_of_lt {b : Fifo capacity α} {n : Nat} (h : b.used < n) : b.read n = ([], b) := by
  simp only [read, if_neg (Nat.not_le.mpr h)]

/-- Reading up to `n` entries. -/
theorem read_min (b : Fifo capacity α) (n : Nat) :
    (b.read (min b.used n)).1 = b.contents.take n ∧
      (b.read (min b.used n)).2.contents = b.contents.drop n := by
  obtain ⟨taken, left⟩ := contents_read_of_le (Nat.min_le_left b.used n)
  rw [taken, left]
  rcases Nat.le_total n b.used with low | high
  · rw [Nat.min_eq_right low]
    exact ⟨rfl, rfl⟩
  · rw [Nat.min_eq_left high, List.take_of_length_le high, List.drop_of_length_le high]
    exact ⟨List.take_length, List.drop_length⟩

theorem read_min_append (b : Fifo capacity α) (n : Nat) :
    (b.read (min b.used n)).1 ++ (b.read (min b.used n)).2.contents = b.contents := by
  obtain ⟨taken, left⟩ := read_min b n
  rw [taken, left]
  exact List.take_append_drop n b.contents

theorem length_read_min (b : Fifo capacity α) (n : Nat) :
    (b.read (min b.used n)).1.length = min n b.used := by
  obtain ⟨taken, -⟩ := read_min b n
  rw [taken, List.length_take, ← used_eq_length]

theorem empty_of_drained {b : Fifo capacity α} {n : Nat} (drained : b.used - min b.used n = 0) :
    (b.read (min b.used n)).2 = empty := by
  obtain ⟨-, left⟩ := read_min b n
  refine ext ?_
  rw [left, contents_empty, List.drop_of_length_le]
  rw [← used_eq_length]
  omega

theorem read_of_drained {b : Fifo capacity α} {n : Nat} (drained : b.used - min b.used n = 0) :
    (b.read (min b.used n)).1 = b.contents := by
  have split := read_min_append b n
  rw [empty_of_drained drained, contents_empty, List.append_nil] at split
  exact split

theorem drained_of_fewer {b : Fifo capacity α} {n : Nat}
    (fewer : (b.read (min b.used n)).1.length < n) : b.used - min b.used n = 0 := by
  rw [length_read_min] at fewer
  omega

theorem read_split {b : Fifo capacity α} {xs ys : List α} (h : b.contents = xs ++ ys) :
    (b.read xs.length).1 = xs ∧ (b.read xs.length).2.contents = ys := by
  have hle : xs.length ≤ b.used := by
    rw [used_eq_length, h, List.length_append]
    exact Nat.le_add_right _ _
  obtain ⟨taken, left⟩ := contents_read_of_le hle
  exact ⟨by rw [taken, h, List.take_left], by rw [left, h, List.drop_left]⟩

theorem contents_push_of_room {b : Fifo capacity α} {x : α} (h : b.used < capacity) :
    (b.push x).contents = b.contents ++ [x] := by
  rw [push, if_pos h]
  exact contents_write_of_fits h

theorem contents_push_of_full {b : Fifo capacity α} {x : α} (h : b.Full) (pos : 0 < capacity) :
    (b.push x).contents = b.contents.tail ++ [x] := by
  have hb : 1 ≤ b.used := by rw [h]; exact pos
  obtain ⟨-, left⟩ := contents_read_of_le hb
  have fits : (b.read 1).2.used + [x].length ≤ capacity := by
    rw [used_eq_length, left, List.length_drop, ← used_eq_length, h]
    simp only [List.length_singleton]
    omega
  rw [push, if_neg (by rw [h]; exact Nat.lt_irrefl _), contents_write_of_fits fits, left,
    List.drop_one]

theorem push_of_zero {b : Fifo 0 α} {x : α} : b.push x = b := by
  have hb : b.used = 0 := Nat.le_zero.mp b.used_le
  rw [push, if_neg (by omega), read_of_lt (by omega)]
  exact write_of_overflow (by simp)

theorem contents_push (b : Fifo capacity α) (x : α) :
    (b.push x).contents = (b.contents ++ [x]).rtake capacity := by
  unfold List.rtake
  rw [List.length_append, List.length_singleton, ← used_eq_length]
  by_cases room : b.used < capacity
  · rw [contents_push_of_room room, Nat.sub_eq_zero_of_le room, List.drop_zero]
  · have full : b.Full := Nat.le_antisymm b.used_le (Nat.not_lt.mp room)
    have one : b.used + 1 - capacity = 1 := by
      rw [full]
      exact Nat.add_sub_cancel_left _ _
    rw [one, List.drop_one]
    rcases Nat.eq_zero_or_pos capacity with rfl | pos
    · rw [push_of_zero, (contents_eq_nil_iff b).mpr full]
      rfl
    · rw [contents_push_of_full full pos, List.tail_append_of_ne_nil]
      intro nil
      rw [contents_eq_nil_iff, full] at nil
      exact Nat.ne_of_gt pos nil

theorem used_push (b : Fifo capacity α) (x : α) :
    (b.push x).used = min capacity (b.used + 1) := by
  by_cases room : b.used < capacity
  · rw [used_eq_length, contents_push_of_room room, List.length_append, List.length_singleton,
      ← used_eq_length]
    omega
  · have full : b.Full := Nat.le_antisymm b.used_le (Nat.not_lt.mp room)
    rcases Nat.eq_zero_or_pos capacity with rfl | pos
    · rw [push_of_zero]
      have := b.used_le
      omega
    · rw [used_eq_length, contents_push_of_full full pos, List.length_append, List.length_tail,
        List.length_singleton, ← used_eq_length, full]
      omega

end Fifo

namespace List
variable {α β : Type*}

theorem map_rtake (f : α → β) (xs : List α) (n : Nat) : (xs.rtake n).map f = (xs.map f).rtake n := by
  rw [rtake, rtake, map_drop, length_map]

theorem rtake_rtake (xs : List α) (m n : Nat) : (xs.rtake m).rtake n = xs.rtake (min n m) := by
  rw [rtake_eq_reverse_take_reverse, rtake_eq_reverse_take_reverse, rtake_eq_reverse_take_reverse,
    reverse_reverse, take_take]

theorem IsSuffix.rtake {xs ys : List α} (h : xs <:+ ys) (n : Nat) : xs.rtake n <:+ ys.rtake n := by
  refine suffix_of_suffix_length_le ((drop_suffix _ _).trans h) (drop_suffix _ _) ?_
  have shorter := h.length_le
  rw [List.rtake, List.rtake, length_drop, length_drop]
  omega

end List
