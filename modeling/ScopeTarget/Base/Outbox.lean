import Mathlib.Data.List.Basic

/-! What a sender with room for one message behind the one it is sending is for:
messages are posted one by one, and a reader takes the encoded bytes of the
message in transit in pieces of any length. -/

structure Outbox (μ : Type*) where
  finished : List μ
  /-- The message being read, with the number of its bytes already taken. -/
  current : Option (μ × Nat)
  queued : Option μ

namespace Outbox
variable {μ β : Type*}

def create (queued : Option μ) : Outbox μ := ⟨[], none, queued⟩

/-- Every message ever posted, oldest first. -/
def messages (b : Outbox μ) : List μ :=
  b.finished ++ ((b.current.map Prod.fst).toList ++ b.queued.toList)

/-- A message takes the free place; it would overwrite one that still waits. -/
def post (b : Outbox μ) (m : μ) : Outbox μ := { b with queued := some m }

/-- The waiting message is put in transit once the one before it is read. -/
def start (b : Outbox μ) : Outbox μ :=
  match b.current, b.queued with
  | none, some m => { b with current := some (m, 0), queued := none }
  | _, _ => b

section Bytes
variable (encode : μ → List β)

/-- The bytes of the message in transit that have been read. -/
def partlyRead (b : Outbox μ) : List β :=
  match b.current with
  | none => []
  | some (m, taken) => (encode m).take taken

/-- Every byte ever read. -/
def bytes (b : Outbox μ) : List β := b.finished.flatMap encode ++ b.partlyRead encode

def read (b : Outbox μ) (n : Nat) : List β × Outbox μ :=
  match b.current with
  | none => ([], b)
  | some (m, taken) =>
      (((encode m).drop taken).take n,
        if taken + n < (encode m).length then { b with current := some (m, taken + n) }
        else { b with finished := b.finished ++ [m], current := none })

end Bytes

variable {encode : μ → List β}

theorem mem_messages_post {b : Outbox μ} {m x : μ} (member : x ∈ (b.post m).messages) :
    x = m ∨ x ∈ b.messages := by
  simp only [messages, post, Option.toList_some, List.mem_append, List.mem_singleton] at member ⊢
  rcases member with finished | current | posted
  · exact Or.inr (Or.inl finished)
  · exact Or.inr (Or.inr (Or.inl current))
  · exact Or.inl posted

/-- Only a message that does not count may be overwritten. -/
theorem filter_messages_post {b : Outbox μ} {keep : μ → Bool} (m : μ) (kept : keep m = true)
    (free : ∀ x ∈ b.queued, keep x = false) :
    (b.post m).messages.filter keep = b.messages.filter keep ++ [m] := by
  have nothing : b.queued.toList.filter keep = [] := by
    rw [List.filter_eq_nil_iff]
    intro x member
    rw [free x (Option.mem_toList.mp member)]
    exact Bool.false_ne_true
  have posted : [m].filter keep = [m] := List.filter_cons_of_pos kept
  simp only [messages, post, Option.toList_some, List.filter_append, nothing, posted, List.append_nil,
    List.append_assoc]

theorem bytes_post (b : Outbox μ) (m : μ) : (b.post m).bytes encode = b.bytes encode := rfl

theorem messages_start (b : Outbox μ) : b.start.messages = b.messages := by
  rcases b with ⟨finished, current, queued⟩
  cases current with
  | some _ => rfl
  | none =>
      cases queued with
      | none => rfl
      | some m => rfl

theorem bytes_start (b : Outbox μ) : b.start.bytes encode = b.bytes encode := by
  rcases b with ⟨finished, current, queued⟩
  cases current with
  | some _ => rfl
  | none =>
      cases queued with
      | none => rfl
      | some m => rfl

theorem messages_read (b : Outbox μ) (n : Nat) : (b.read encode n).2.messages = b.messages := by
  rcases b with ⟨finished, current, queued⟩
  cases current with
  | none => rfl
  | some place =>
      rcases place with ⟨m, taken⟩
      dsimp only [read]
      split
      · rfl
      · simp only [messages, Option.map_none, Option.map_some, Option.toList_none,
          Option.toList_some, List.nil_append, List.append_assoc]

theorem queued_read (b : Outbox μ) (n : Nat) : (b.read encode n).2.queued = b.queued := by
  unfold read
  split
  · rfl
  · dsimp only
    split
    · rfl
    · rfl

/-- A read as long as the message in transit is the last one of it. -/
theorem current_read {b : Outbox μ} {n : Nat}
    (whole : ∀ m taken, b.current = some (m, taken) → (encode m).length ≤ n) :
    (b.read encode n).2.current = none := by
  unfold read
  split
  · assumption
  · rename_i m taken here
    dsimp only
    have long := whole m taken here
    rw [if_neg (by omega)]

theorem queued_start {b : Outbox μ} (idle : b.current = none) : b.start.queued = none := by
  unfold start
  rw [idle]
  cases queued : b.queued with
  | none => exact queued
  | some m => rfl

/-- What a read hands out is what it adds to the bytes read. -/
theorem bytes_read (b : Outbox μ) (n : Nat) :
    (b.read encode n).2.bytes encode = b.bytes encode ++ (b.read encode n).1 := by
  rcases b with ⟨finished, current, queued⟩
  cases current with
  | none => exact (List.append_nil _).symm
  | some place =>
      rcases place with ⟨m, taken⟩
      have joined : (encode m).take taken ++ ((encode m).drop taken).take n =
          (encode m).take (taken + n) := List.take_add.symm
      dsimp only [read, bytes, partlyRead]
      rw [List.append_assoc, joined]
      split
      · rfl
      · rename_i past
        rw [List.take_of_length_le (Nat.not_lt.mp past)]
        simp only [List.flatMap_append, List.flatMap_singleton, List.append_nil]

end Outbox
