import Mathlib.Data.List.TakeWhile
import Mathlib.Data.UInt

/-! Strings that end with a byte that is zero, and the arrays they are kept in. An
array holds a string only if such a byte lies inside of it. -/

/-- The bytes in front of the one that ends the string. -/
structure CString where
  bytes : List UInt8
  terminated : 0 ∉ bytes
  deriving DecidableEq, Repr

structure CharArray (n : Nat) where
  bytes : List UInt8
  size : bytes.length = n
  deriving DecidableEq, Repr

namespace CString

@[ext] theorem ext {s s' : CString} (h : s.bytes = s'.bytes) : s = s' := by
  rcases s with ⟨bytes, terminated⟩
  cases h
  rfl

def empty : CString := ⟨[], List.not_mem_nil⟩

/-- `strlen` -/
def length (s : CString) : Nat := s.bytes.length

/-- What is a string of any bytes. -/
def upToNul (bytes : List UInt8) : CString where
  bytes := bytes.takeWhile fun byte => byte ≠ 0
  terminated := fun member => absurd (List.mem_takeWhile_imp member) (by decide)

theorem bytes_upToNul (bytes : List UInt8) :
    (upToNul bytes).bytes = bytes.takeWhile fun byte => byte ≠ 0 := rfl

theorem upToNul_append (s : CString) (rest : List UInt8) : upToNul (s.bytes ++ 0 :: rest) = s := by
  have all : ∀ byte ∈ s.bytes, decide (byte ≠ 0) = true := by
    intro byte member
    rw [decide_eq_true_iff]
    rintro rfl
    exact s.terminated member
  have stops : (0 :: rest).takeWhile (fun byte => decide (byte ≠ 0)) = [] := rfl
  refine ext ?_
  rw [bytes_upToNul, List.takeWhile_append_of_pos all, stops, List.append_nil]

theorem upToNul_of_terminated {bytes : List UInt8} (terminated : 0 ∉ bytes) :
    upToNul bytes = ⟨bytes, terminated⟩ := by
  refine ext ?_
  rw [bytes_upToNul, List.takeWhile_eq_self_iff]
  intro byte member
  rw [decide_eq_true_iff]
  rintro rfl
  exact terminated member

theorem length_upToNul_le (bytes : List UInt8) : (upToNul bytes).length ≤ bytes.length :=
  (List.takeWhile_sublist _).length_le

/-- A zero that follows the bytes ends the string if none of them does. -/
theorem upToNul_append_zero (bytes rest : List UInt8) :
    upToNul (bytes ++ 0 :: rest) = upToNul bytes := by
  by_cases ends : 0 ∈ bytes
  · obtain ⟨front, behind, split, first⟩ := List.eq_append_cons_of_mem ends
    rw [split, List.append_assoc, List.cons_append]
    exact (upToNul_append ⟨front, first⟩ _).trans (upToNul_append ⟨front, first⟩ _).symm
  · rw [upToNul_of_terminated ends]
    exact upToNul_append ⟨bytes, ends⟩ rest

end CString

namespace CharArray
variable {n : Nat}

def zero : CharArray n := ⟨List.replicate n 0, List.length_replicate⟩

/-- The string an array holds, if it ends inside of it. -/
def read (a : CharArray n) : Option CString :=
  if 0 ∈ a.bytes then some (CString.upToNul a.bytes) else none

/-- The first bytes are replaced; what is written past the end is not kept. -/
def overwrite (dest : CharArray n) (src : List UInt8) : CharArray n where
  bytes := (src ++ dest.bytes.drop src.length).take n
  size := by
    rw [List.length_take, List.length_append, List.length_drop, dest.size]
    omega

def strcpy (dest : CharArray n) (src : CString) : CharArray n := dest.overwrite (src.bytes ++ [0])

/-- Exactly `num` bytes are written: the first ones of the string, and zeros
behind it if it is shorter. -/
def strncpy (dest : CharArray n) (src : CString) (num : Nat) : CharArray n :=
  dest.overwrite (src.bytes.take num ++ List.replicate (num - src.length) 0)

theorem read_of_zero {a : CharArray n} {bytes rest : List UInt8} (split : a.bytes = bytes ++ 0 :: rest) :
    a.read = some (CString.upToNul bytes) := by
  have ends : 0 ∈ a.bytes := by
    rw [split]
    exact List.mem_append_right _ List.mem_cons_self
  rw [read, if_pos ends, split, CString.upToNul_append_zero]

theorem read_of_split {a : CharArray n} {s : CString} (rest : List UInt8)
    (split : a.bytes = s.bytes ++ 0 :: rest) : a.read = some s := by
  rw [read_of_zero split, CString.upToNul_of_terminated s.terminated]

theorem split_of_read {a : CharArray n} {s : CString} (held : a.read = some s) :
    ∃ rest, a.bytes = s.bytes ++ 0 :: rest := by
  unfold read at held
  split at held
  · rename_i ends
    obtain rfl := Option.some.inj held
    obtain ⟨front, rest, split, first⟩ := List.eq_append_cons_of_mem ends
    refine ⟨rest, ?_⟩
    rw [split]
    exact congrArg (fun s => CString.bytes s ++ 0 :: rest) (CString.upToNul_append ⟨front, first⟩ rest).symm
  · cases held

theorem length_of_read {a : CharArray n} {s : CString} (held : a.read = some s) : s.length < n := by
  obtain ⟨rest, split⟩ := split_of_read held
  have size := a.size
  rw [split, List.length_append, List.length_cons] at size
  unfold CString.length
  omega

theorem bytes_overwrite {dest : CharArray n} {src : List UInt8} (fits : src.length ≤ n) :
    (dest.overwrite src).bytes = src ++ dest.bytes.drop src.length := by
  apply List.take_of_length_le
  rw [List.length_append, List.length_drop, dest.size]
  omega

/-- A string that fits is read back, whatever the array held before. -/
theorem read_strcpy (dest : CharArray n) {src : CString} (fits : src.length < n) :
    (dest.strcpy src).read = some src := by
  have room : (src.bytes ++ [0]).length ≤ n := by
    rw [List.length_append]
    exact fits
  refine read_of_split (dest.bytes.drop (src.bytes ++ [0]).length) ?_
  rw [strcpy, bytes_overwrite room, List.append_assoc]
  rfl

/-- A string of at least `num` characters fills these bytes and does not end in them. -/
theorem bytes_strncpy_of_le {dest : CharArray n} {src : CString} {num : Nat} (fits : num ≤ n)
    (long : num ≤ src.length) :
    (dest.strncpy src num).bytes = src.bytes.take num ++ dest.bytes.drop num := by
  have written : (src.bytes.take num).length = num := List.length_take_of_le long
  rw [strncpy, Nat.sub_eq_zero_of_le long, List.replicate_zero, List.append_nil, bytes_overwrite,
    written]
  rw [written]
  exact fits

theorem read_strncpy_of_lt {dest : CharArray n} {src : CString} {num : Nat} (fits : num ≤ n)
    (short : src.length < num) : (dest.strncpy src num).read = some src := by
  have shorter : src.bytes.length < num := short
  have room : (src.bytes ++ List.replicate (num - src.length) 0).length ≤ n := by
    rw [List.length_append, List.length_replicate, CString.length]
    omega
  have zeros : List.replicate (num - src.length) (0 : UInt8) =
      0 :: List.replicate (num - src.length - 1) 0 := by
    rw [← List.replicate_succ, Nat.sub_add_cancel (Nat.sub_pos_of_lt short)]
  apply read_of_split
  rw [strncpy, List.take_of_length_le (Nat.le_of_lt shorter), bytes_overwrite room, zeros,
    List.append_assoc, List.cons_append]

/-- With all bytes but the last written, a string is read back if it is shorter, or
if it just fits and the last byte happened to be zero. -/
theorem read_strncpy_iff {num : Nat} (dest : CharArray (num + 1)) (src : CString) :
    (dest.strncpy src num).read = some src ↔
      src.length < num ∨ src.length = num ∧ dest.bytes.drop num = [0] := by
  by_cases short : src.length < num
  · exact iff_of_true (read_strncpy_of_lt (Nat.le_succ num) short) (.inl short)
  · have long : num ≤ src.length := Nat.not_lt.mp short
    have bytes : (dest.strncpy src num).bytes = src.bytes.take num ++ dest.bytes.drop num :=
      bytes_strncpy_of_le (Nat.le_succ num) long
    constructor
    · intro held
      have exact_ : src.length = num :=
        Nat.le_antisymm (Nat.le_of_lt_succ (length_of_read held)) long
      obtain ⟨rest, split⟩ := split_of_read held
      rw [bytes, List.take_of_length_le (Nat.le_of_eq exact_)] at split
      have last : dest.bytes.drop num = 0 :: rest := List.append_cancel_left split
      have one : (dest.bytes.drop num).length = 1 := by
        rw [List.length_drop, dest.size, Nat.add_sub_cancel_left]
      rw [last, List.length_cons, Nat.add_eq_right, List.length_eq_zero_iff] at one
      exact .inr ⟨exact_, by rw [last, one]⟩
    · intro condition
      obtain ⟨exact_, last⟩ := condition.resolve_left short
      refine read_of_split [] ?_
      rw [bytes, last, List.take_of_length_le (Nat.le_of_eq exact_)]

end CharArray
