import Mathlib.Data.List.Basic
import Mathlib.Data.UInt

/-! The protobuf wire format: varints, the fields of a message, and packed lists
of four-byte values. A message is read as the list of its fields; what the fields
mean is left to the reader. -/

namespace Protobuf

/-- Seven bits per byte, least significant first, every byte but the last with its
high bit set. The fuel is never used up (`varint_eq`). -/
def varintGroups : Nat → Nat → List UInt8
  | 0, n => [UInt8.ofNat n]
  | fuel + 1, n =>
      if n < 128 then [UInt8.ofNat n]
      else UInt8.ofNat (n % 128 + 128) :: varintGroups fuel (n / 128)

def varint (n : Nat) : List UInt8 := varintGroups n n

def readVarint : List UInt8 → Option (Nat × List UInt8)
  | [] => none
  | byte :: rest =>
      if byte.toNat < 128 then some (byte.toNat, rest)
      else (readVarint rest).map fun r => (byte.toNat - 128 + 128 * r.1, r.2)

/-- Four bytes, least significant first. -/
def fixed32 (n : UInt32) : List UInt8 :=
  (List.range 4).map fun i => UInt8.ofNat (n.toNat / 256 ^ i)

def packed32 (values : List UInt32) : List UInt8 := values.flatMap fixed32

def word (a b c d : UInt8) : UInt32 :=
  UInt32.ofNat (a.toNat + 256 * (b.toNat + 256 * (c.toNat + 256 * d.toNat)))

def readFixed32 : List UInt8 → Option (UInt32 × List UInt8)
  | a :: b :: c :: d :: rest => some (word a b c d, rest)
  | _ => none

def readPacked32 : List UInt8 → Option (List UInt32)
  | [] => some []
  | a :: b :: c :: d :: rest => (readPacked32 rest).map (word a b c d :: ·)
  | _ => none

/-- What a field holds; a group or an eight-byte value is not read. -/
inductive Value where
  | varint (n : Nat)
  | len (bytes : List UInt8)
  | fixed32 (n : UInt32)
  deriving DecidableEq, Repr

structure Field where
  number : Nat
  value : Value
  deriving DecidableEq, Repr

def Value.wireType : Value → Nat
  | .varint _ => 0
  | .len _ => 2
  | .fixed32 _ => 5

def tag (number wireType : Nat) : List UInt8 := varint (number * 8 + wireType)

def Value.encode : Value → List UInt8
  | .varint n => Protobuf.varint n
  | .len bytes => Protobuf.varint bytes.length ++ bytes
  | .fixed32 n => Protobuf.fixed32 n

def Field.encode (f : Field) : List UInt8 := tag f.number f.value.wireType ++ f.value.encode

def encodeFields (fields : List Field) : List UInt8 := fields.flatMap Field.encode

def readValue (wireType : Nat) (bytes : List UInt8) : Option (Value × List UInt8) :=
  if wireType = 0 then (readVarint bytes).map fun r => (.varint r.1, r.2)
  else if wireType = 2 then
    (readVarint bytes).bind fun r =>
      if r.1 ≤ r.2.length then some (.len (r.2.take r.1), r.2.drop r.1) else none
  else if wireType = 5 then (readFixed32 bytes).map fun r => (.fixed32 r.1, r.2)
  else none

def readField (bytes : List UInt8) : Option (Field × List UInt8) :=
  (readVarint bytes).bind fun key =>
    (readValue (key.1 % 8) key.2).map fun r => (⟨key.1 / 8, r.1⟩, r.2)

/-- The fields of a message; every field takes at least one byte of fuel. -/
def readFieldsGo : Nat → List UInt8 → Option (List Field)
  | _, [] => some []
  | 0, _ :: _ => none
  | fuel + 1, byte :: bytes =>
      (readField (byte :: bytes)).bind fun r => (readFieldsGo fuel r.2).map (r.1 :: ·)

def readFields (bytes : List UInt8) : Option (List Field) := readFieldsGo bytes.length bytes

/-- Reading a message field by field, on top of what is already known of it. -/
def readMessage {μ : Type*} (merge : μ → Field → Option μ) (known : μ) (bytes : List UInt8) : Option μ :=
  (readFields bytes).bind fun fields => fields.foldlM merge known

/-- A scalar that is zero is left out. -/
def scalarFields (number : Nat) (value : UInt32) : List Field :=
  if value = 0 then [] else [⟨number, .varint value.toNat⟩]

/-- A value of four bytes is left out if none of its bits is set. -/
def fixedFields (number : Nat) (value : UInt32) : List Field :=
  if value = 0 then [] else [⟨number, .fixed32 value⟩]

/-- A string that is empty is left out. -/
def stringFields (number : Nat) (bytes : List UInt8) : List Field :=
  if bytes = [] then [] else [⟨number, .len bytes⟩]

theorem varintGroups_fuel {fuel fuel' n : Nat} (enough : n ≤ fuel) (enough' : n ≤ fuel') :
    varintGroups fuel n = varintGroups fuel' n := by
  induction fuel generalizing fuel' n with
  | zero =>
      obtain rfl := Nat.le_zero.mp enough
      cases fuel' with
      | zero => rfl
      | succ fuel' => rfl
  | succ fuel ih =>
      cases fuel' with
      | zero =>
          obtain rfl := Nat.le_zero.mp enough'
          rfl
      | succ fuel' =>
          unfold varintGroups
          split
          · rfl
          · rw [ih (by omega) (by omega : n / 128 ≤ fuel')]

theorem varint_eq (n : Nat) :
    varint n = if n < 128 then [UInt8.ofNat n] else UInt8.ofNat (n % 128 + 128) :: varint (n / 128) := by
  cases n with
  | zero => rfl
  | succ n =>
      rw [varint, varintGroups]
      split
      · rfl
      · rw [varint, varintGroups_fuel (by omega) (Nat.le_refl _)]

theorem readVarint_varint (n : Nat) (rest : List UInt8) :
    readVarint (varint n ++ rest) = some (n, rest) := by
  induction n using Nat.strongRecOn with
  | ind n ih =>
      rw [varint_eq]
      split
      · rename_i small
        have byte : (UInt8.ofNat n).toNat = n := by
          rw [UInt8.toNat_ofNat']
          omega
        rw [List.singleton_append, readVarint, byte, if_pos small]
      · have byte : (UInt8.ofNat (n % 128 + 128)).toNat = n % 128 + 128 := by
          rw [UInt8.toNat_ofNat']
          omega
        rw [List.cons_append, readVarint, byte, if_neg (by omega), ih _ (by omega), Option.map_some]
        dsimp only
        congr 2
        omega

/-- A varint has as many bytes as its value has groups of seven bits. -/
theorem length_varint_le_iff (n k : Nat) : (varint n).length ≤ k + 1 ↔ n < 128 ^ (k + 1) := by
  induction k generalizing n with
  | zero =>
      rw [varint_eq]
      split
      · rename_i small
        exact ⟨fun _ => small, fun _ => Nat.le_refl 1⟩
      · rename_i big
        have some_ : 0 < (varint (n / 128)).length := by
          rw [varint_eq]
          split <;> exact Nat.succ_pos _
        rw [List.length_cons]
        constructor
        · intro short
          omega
        · intro small
          exact absurd small big
  | succ k ih =>
      rw [varint_eq]
      split
      · rename_i small
        have pos : 0 < 128 ^ (k + 1) := Nat.pow_pos (by decide)
        rw [Nat.pow_succ, List.length_singleton]
        constructor
        · intro _
          omega
        · intro _
          omega
      · rw [List.length_cons, Nat.add_le_add_iff_right, ih, Nat.pow_succ _ (k + 1),
          Nat.div_lt_iff_lt_mul (by decide)]

theorem varint_ne_nil (n : Nat) : varint n ≠ [] := by
  rw [varint_eq]
  split
  · exact List.cons_ne_nil _ _
  · exact List.cons_ne_nil _ _

theorem length_fixed32 (n : UInt32) : (fixed32 n).length = 4 := rfl

theorem length_packed32 (values : List UInt32) : (packed32 values).length = values.length * 4 := by
  induction values with
  | nil => rfl
  | cons value values ih =>
      rw [packed32, List.flatMap_cons, List.length_append, ← packed32, ih, length_fixed32,
        List.length_cons]
      omega

theorem readFixed32_fixed32 (n : UInt32) (rest : List UInt8) :
    readFixed32 (fixed32 n ++ rest) = some (n, rest) := by
  have bound := n.toNat_lt
  have bytes : word (UInt8.ofNat (n.toNat / 256 ^ 0)) (UInt8.ofNat (n.toNat / 256 ^ 1))
      (UInt8.ofNat (n.toNat / 256 ^ 2)) (UInt8.ofNat (n.toNat / 256 ^ 3)) = n := by
    apply UInt32.toNat_inj.mp
    simp only [word, UInt32.toNat_ofNat', UInt8.toNat_ofNat', Nat.reducePow, Nat.div_one] at *
    omega
  exact congrArg (fun value => some (value, rest)) bytes

theorem readPacked32_packed32 (values : List UInt32) : readPacked32 (packed32 values) = some values := by
  induction values with
  | nil => rfl
  | cons value values ih =>
      have first := readFixed32_fixed32 value []
      change (readPacked32 (packed32 values)).map _ = _
      rw [ih, Option.map_some]
      exact congrArg (fun v => some (v :: values)) (Prod.mk.inj (Option.some.inj first)).1

theorem readValue_encode (value : Value) (rest : List UInt8) :
    readValue value.wireType (value.encode ++ rest) = some (value, rest) := by
  cases value with
  | varint n =>
      change (readVarint (varint n ++ rest)).map _ = _
      rw [readVarint_varint, Option.map_some]
  | len bytes =>
      change (readVarint (varint bytes.length ++ bytes ++ rest)).bind _ = _
      rw [List.append_assoc, readVarint_varint, Option.bind_some]
      dsimp only
      rw [if_pos (by rw [List.length_append]; omega), List.take_left, List.drop_left]
  | fixed32 n =>
      have kind : (Value.fixed32 n).wireType = 5 := rfl
      rw [kind, readValue, if_neg (by decide), if_neg (by decide), if_pos rfl, Value.encode,
        readFixed32_fixed32, Option.map_some]

theorem readField_encode (f : Field) (rest : List UInt8) :
    readField (f.encode ++ rest) = some (f, rest) := by
  have kind : f.value.wireType < 8 := by
    cases f.value with
    | varint n => exact (by decide : 0 < 8)
    | len bytes => exact (by decide : 2 < 8)
    | fixed32 n => exact (by decide : 5 < 8)
  have low : (f.number * 8 + f.value.wireType) % 8 = f.value.wireType := by omega
  have high : (f.number * 8 + f.value.wireType) / 8 = f.number := by omega
  rw [readField, Field.encode, tag, List.append_assoc, readVarint_varint, Option.bind_some]
  dsimp only
  rw [low, high, readValue_encode, Option.map_some]

theorem readFieldsGo_encodeFields {fields : List Field} {fuel : Nat} (enough : fields.length ≤ fuel) :
    readFieldsGo fuel (encodeFields fields) = some fields := by
  induction fields generalizing fuel with
  | nil =>
      cases fuel with
      | zero => rfl
      | succ fuel => rfl
  | cons f fields ih =>
      obtain ⟨more, rfl⟩ : ∃ more, fuel = more + 1 :=
        ⟨fuel - 1, by rw [List.length_cons] at enough; omega⟩
      have first := readField_encode f (encodeFields fields)
      have split : encodeFields (f :: fields) = f.encode ++ encodeFields fields := rfl
      cases here : f.encode ++ encodeFields fields with
      | nil =>
          have none_ := (List.append_eq_nil_iff.mp (List.append_eq_nil_iff.mp here).1).1
          exact absurd none_ (varint_ne_nil _)
      | cons byte bytes =>
          rw [split, here, readFieldsGo, ← here, first, Option.bind_some]
          dsimp only
          rw [ih (Nat.le_of_succ_le_succ enough), Option.map_some]

/-- A message is read back as the fields it was written from. -/
theorem readFields_encodeFields (fields : List Field) :
    readFields (encodeFields fields) = some fields := by
  apply readFieldsGo_encodeFields
  induction fields with
  | nil => exact Nat.zero_le _
  | cons f fields ih =>
      have some_ : 0 < f.encode.length := by
        rw [Field.encode, List.length_append]
        exact Nat.add_pos_left (List.length_pos_of_ne_nil (varint_ne_nil _)) _
      rw [encodeFields, List.flatMap_cons, List.length_append, List.length_cons, ← encodeFields]
      omega

theorem encodeFields_cons (f : Field) (fields : List Field) :
    encodeFields (f :: fields) = f.encode ++ encodeFields fields := rfl

theorem encodeFields_singleton (f : Field) : encodeFields [f] = f.encode := List.append_nil _

theorem encode_len (number : Nat) (bytes : List UInt8) :
    (⟨number, .len bytes⟩ : Field).encode = tag number 2 ++ varint bytes.length ++ bytes := by
  rw [List.append_assoc]
  rfl

theorem encodeFields_append (fields more : List Field) :
    encodeFields (fields ++ more) = encodeFields fields ++ encodeFields more := List.flatMap_append

theorem length_encodeFields_append (fields more : List Field) :
    (encodeFields (fields ++ more)).length = (encodeFields fields).length + (encodeFields more).length := by
  rw [encodeFields_append, List.length_append]

theorem readMessage_encodeFields {μ : Type*} (merge : μ → Field → Option μ) (known : μ)
    (fields : List Field) :
    readMessage merge known (encodeFields fields) = fields.foldlM merge known := by
  rw [readMessage, readFields_encodeFields, Option.bind_some]

/-- What is read of the first fields is what is known before the others. -/
theorem foldlM_append_of_some {μ : Type*} {merge : μ → Field → Option μ} {known read : μ}
    {fields : List Field} (first : fields.foldlM merge known = some read) (more : List Field) :
    (fields ++ more).foldlM merge known = more.foldlM merge read := by
  rw [List.foldlM_append, first]
  rfl

/-- A scalar takes its value, also when it is left out because it is zero. -/
theorem foldlM_scalarFields {μ : Type*} {merge : μ → Field → Option μ} {known : μ} {number : Nat}
    (set : UInt32 → μ) (value : UInt32) (zero : set 0 = known)
    (read : ∀ n, merge known ⟨number, .varint n⟩ = some (set (UInt32.ofNat n))) :
    (scalarFields number value).foldlM merge known = some (set value) := by
  unfold scalarFields
  split
  · rename_i isZero
    rw [isZero, zero]
    rfl
  · rw [List.foldlM_cons, read, UInt32.ofNat_toNat]
    rfl

theorem foldlM_fixedFields {μ : Type*} {merge : μ → Field → Option μ} {known : μ} {number : Nat}
    (set : UInt32 → μ) (value : UInt32) (zero : set 0 = known)
    (read : ∀ n, merge known ⟨number, .fixed32 n⟩ = some (set n)) :
    (fixedFields number value).foldlM merge known = some (set value) := by
  unfold fixedFields
  split
  · rename_i isZero
    rw [isZero, zero]
    rfl
  · rw [List.foldlM_cons, read]
    rfl

theorem foldlM_stringFields {μ : Type*} {merge : μ → Field → Option μ} {known : μ} {number : Nat}
    (set : List UInt8 → μ) (bytes : List UInt8) (empty : set [] = known)
    (read : ∀ b, merge known ⟨number, .len b⟩ = some (set b)) :
    (stringFields number bytes).foldlM merge known = some (set bytes) := by
  unfold stringFields
  split
  · rename_i isEmpty
    rw [isEmpty, empty]
    rfl
  · rw [List.foldlM_cons, read]
    rfl

/-- A repeated message is collected entry by entry. -/
theorem foldlM_entries {ε : Type*} {merge : List ε → Field → Option (List ε)} {encode : ε → List UInt8}
    {entries : List ε}
    (read : ∀ known, ∀ entry ∈ entries, merge known ⟨1, .len (encode entry)⟩ = some (known ++ [entry]))
    (known : List ε) : (entries.map fun entry => (⟨1, .len (encode entry)⟩ : Field)).foldlM merge known =
      some (known ++ entries) := by
  induction entries generalizing known with
  | nil =>
      rw [List.append_nil]
      rfl
  | cons entry entries ih =>
      have first := read known entry List.mem_cons_self
      have later := ih (fun known other member => read known other (List.mem_cons_of_mem entry member))
        (known ++ [entry])
      rw [List.map_cons, List.foldlM_cons, first, List.append_cons known entry entries]
      exact later

/-! How many bytes the fields take whose numbers are below 16. -/

theorem length_varint_le {n k : Nat} (small : n < 128 ^ (k + 1)) : (varint n).length ≤ k + 1 :=
  (length_varint_le_iff n k).mpr small

theorem length_tag {number wireType : Nat} (small : number * 8 + wireType < 128) :
    (tag number wireType).length = 1 := by
  rw [tag, varint_eq, if_pos small]
  rfl

theorem length_encode_len {number : Nat} (small : number < 15) (bytes : List UInt8) :
    (⟨number, .len bytes⟩ : Field).encode.length =
      1 + (varint bytes.length).length + bytes.length := by
  rw [encode_len, List.length_append, List.length_append, length_tag (by omega)]

theorem length_scalarFields_le {number : Nat} (small : number < 15) {value : UInt32} (k : Nat)
    (bound : value.toNat < 128 ^ (k + 1)) :
    (encodeFields (scalarFields number value)).length ≤ k + 2 := by
  unfold scalarFields
  split
  · exact Nat.zero_le _
  · have tagged : (tag number (Value.varint value.toNat).wireType).length = 1 :=
      length_tag (Nat.lt_of_lt_of_le (by omega : number * 8 + 0 < 120) (by decide))
    have width := length_varint_le bound
    rw [encodeFields_singleton, Field.encode, List.length_append, tagged]
    change 1 + (varint value.toNat).length ≤ k + 2
    omega

/-- No value of 32 bits takes more than five bytes. -/
theorem length_scalarFields_le_six {number : Nat} (small : number < 15) (value : UInt32) :
    (encodeFields (scalarFields number value)).length ≤ 6 := by
  have bound : value.toNat < 128 ^ (4 + 1) := Nat.lt_of_lt_of_le value.toNat_lt (by decide)
  exact length_scalarFields_le small 4 bound

theorem length_fixedFields_le {number : Nat} (small : number < 15) (value : UInt32) :
    (encodeFields (fixedFields number value)).length ≤ 5 := by
  unfold fixedFields
  split
  · exact Nat.zero_le _
  · have tagged : (tag number (Value.fixed32 value).wireType).length = 1 :=
      length_tag (by change number * 8 + 5 < 128; omega)
    rw [encodeFields_singleton, Field.encode, List.length_append, tagged]
    exact Nat.le_refl 5

theorem length_stringFields_le {number n : Nat} (small : number < 15) {bytes : List UInt8}
    (short : bytes.length ≤ n) (bound : n < 128) :
    (encodeFields (stringFields number bytes)).length ≤ n + 2 := by
  unfold stringFields
  split
  · exact Nat.zero_le _
  · have one : (varint bytes.length).length ≤ 0 + 1 :=
      length_varint_le (Nat.lt_of_le_of_lt short bound)
    rw [encodeFields_singleton, length_encode_len small]
    omega

example : varint 300 = [172, 2] := by decide

end Protobuf
