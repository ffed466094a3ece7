import Mathlib.Tactic.IntervalCases
import ScopeTarget.Communication.ByteMachine

/-! Well-formed frames, and the state of the receiver part way through one. The
state keeps what is stored in the input buffer before the frame apart from what
the frame itself has stored, since bytes of an earlier frame may still be there. -/

namespace FramedIO
variable {cap : Nat}

/-- The bytes of a frame that are not its payload. -/
def overhead : Nat := 9

/-- The low `count` bytes of a number, most significant first. -/
def bigEndian (count n : Nat) : List UInt8 :=
  (List.range count).map fun i => UInt8.ofNat (n / 256 ^ (count - i - 1))

def byteSum (data : List UInt8) : Nat := (data.map UInt8.toNat).sum

/-- What a frame says without the contents of its payload. The payload fits the
input buffer and the length field. -/
structure Shape (cap : Nat) where
  type : MessageType
  length : Nat
  fits : length ≤ cap
  representable : length < 2 ^ 32

structure Frame (cap : Nat) where
  type : MessageType
  payload : List UInt8
  fits : payload.length ≤ cap
  representable : payload.length < 2 ^ 32

def Shape.size (f : Shape cap) : Nat := overhead + f.length

theorem Shape.size_pos (f : Shape cap) : 0 < f.size := Nat.add_pos_left (by decide) _

namespace Frame

def bare (type : MessageType) : Frame cap := ⟨type, [], Nat.zero_le _, Nat.two_pow_pos 32⟩

def shape (f : Frame cap) : Shape cap := ⟨f.type, f.payload.length, f.fits, f.representable⟩

def header (f : Frame cap) : List UInt8 :=
  [startByte, f.type.code] ++ bigEndian lengthOfLengthField f.payload.length

def trailer (f : Frame cap) : List UInt8 :=
  bigEndian lengthOfChecksumField (byteSum f.payload % 2 ^ 16) ++ [endByte]

/-- `'['`, type, payload length, payload, sum of the payload modulo `2^16`, `']'`. -/
def encode (f : Frame cap) : List UInt8 := f.header ++ f.payload ++ f.trailer

/-- The frame without its end flag. -/
def butLast (f : Frame cap) : List UInt8 :=
  f.header ++ f.payload ++ bigEndian lengthOfChecksumField (byteSum f.payload % 2 ^ 16)

theorem encode_eq_butLast (f : Frame cap) : f.encode = f.butLast ++ [endByte] := by
  simp only [encode, trailer, butLast, List.append_assoc]

theorem length_header (f : Frame cap) : f.header.length = 6 := rfl
theorem length_trailer (f : Frame cap) : f.trailer.length = 3 := rfl

theorem length_butLast (f : Frame cap) : f.butLast.length = f.payload.length + 8 := by
  have field : (bigEndian lengthOfChecksumField (byteSum f.payload % 2 ^ 16)).length = 2 := rfl
  simp only [butLast, List.length_append, length_header, field]
  omega

theorem length_encode (f : Frame cap) : f.encode.length = f.shape.size := by
  simp only [encode, List.length_append, length_header, length_trailer, Shape.size, shape, overhead]
  omega

end Frame

/-- The bytes of a frame around any payload; the length field holds the low four
bytes of its length. -/
def frameBytes (type : MessageType) (payload : List UInt8) : List UInt8 :=
  [startByte, type.code] ++ bigEndian lengthOfLengthField payload.length ++ payload ++
    (bigEndian lengthOfChecksumField (byteSum payload % 2 ^ 16) ++ [endByte])

theorem length_bigEndian (count n : Nat) : (bigEndian count n).length = count := by
  rw [bigEndian, List.length_map, List.length_range]

theorem length_frameBytes (type : MessageType) (payload : List UInt8) :
    (frameBytes type payload).length = payload.length + overhead := by
  simp only [frameBytes, List.length_append, length_bigEndian, List.length_cons, List.length_nil,
    lengthOfLengthField, lengthOfChecksumField, overhead]
  omega

/-- Between two frames. -/
def waiting (input : Fifo cap UInt8) (ready : Bool) (type : MessageType) : Rx cap :=
  { (createRx : Rx cap) with input, rxDataReady := ready, rxType := type }

/-- The announced length as far as the first `read` bytes of its field tell. -/
def lengthSoFar (f : Frame cap) (read : Nat) : Nat :=
  f.payload.length / 256 ^ (4 - read) * 256 ^ (4 - read)

/-- The payload of `f` read up to some byte, on top of what `before` holds. -/
def inPayload (before : Fifo cap UInt8) (ready : Bool) (type : MessageType) (f : Frame cap)
    (read : Nat) : Rx cap :=
  { waiting (before.write (f.payload.take read)) ready type with
    rxFramedIOState := .data
    rxExpectedLength := f.payload.length
    rxChecksum := byteSum (f.payload.take read) % 2 ^ 16 }

/-- The first `taken` bytes of `f` are read, all but its last at the most. -/
def midway (before : Fifo cap UInt8) (ready : Bool) (type : MessageType) (f : Frame cap)
    (taken : Nat) : Rx cap :=
  if taken = 0 then waiting before ready type
  else if taken = 1 then { waiting before ready type with rxFramedIOState := .type }
  else if taken < 6 then
    { waiting before ready type with
      rxFramedIOState := .length
      rxStateByteCount := taken - 2
      rxExpectedLength := lengthSoFar f (taken - 2) }
  else if taken ≤ 6 + f.payload.length then settle (inPayload before ready type f (taken - 6))
  else if taken = 7 + f.payload.length then
    { inPayload before ready type f f.payload.length with
      rxFramedIOState := .checksum
      rxStateByteCount := 1
      rxChecksumCompare := byteSum f.payload % 2 ^ 16 / 256 * 256 }
  else
    { inPayload before ready type f f.payload.length with
      rxFramedIOState := .endFlag
      rxChecksum := 0 }

theorem encode_payload (f : Frame cap) (i : Nat) :
    f.encode[i + 6]? = (f.payload ++ f.trailer)[i]? := rfl

theorem lengthSoFar_succ (f : Frame cap) {i : Nat} (more : i < 4) :
    (lengthSoFar f i + (UInt8.ofNat (f.payload.length / 256 ^ (4 - i - 1))).toNat *
      2 ^ ((4 - i - 1) * 8)) % 2 ^ 32 = lengthSoFar f (i + 1) := by
  have bound := f.representable
  simp only [lengthSoFar, UInt8.toNat_ofNat']
  interval_cases i
  · simp only [Nat.reduceSub, Nat.reducePow, Nat.reduceMul, Nat.reduceAdd] at *
    omega
  · simp only [Nat.reduceSub, Nat.reducePow, Nat.reduceMul, Nat.reduceAdd] at *
    omega
  · simp only [Nat.reduceSub, Nat.reducePow, Nat.reduceMul, Nat.reduceAdd] at *
    omega
  · simp only [Nat.reduceSub, Nat.reducePow, Nat.reduceMul, Nat.reduceAdd] at *
    omega

theorem lengthSoFar_zero (f : Frame cap) : lengthSoFar f 0 = 0 := by
  have small : f.payload.length / 256 ^ (4 - 0) = 0 := Nat.div_eq_of_lt f.representable
  rw [lengthSoFar, small, Nat.zero_mul]

theorem lengthSoFar_four (f : Frame cap) : lengthSoFar f 4 = f.payload.length := by
  simp only [lengthSoFar, Nat.sub_self, Nat.pow_zero, Nat.div_one, Nat.mul_one]

theorem encode_length (f : Frame cap) {i : Nat} (inLength : i < 4) :
    f.encode[i + 2]? = some (UInt8.ofNat (f.payload.length / 256 ^ (4 - i - 1))) := by
  interval_cases i
  · rfl
  · rfl
  · rfl
  · rfl

theorem midway_length (before : Fifo cap UInt8) (ready : Bool) (type : MessageType) (f : Frame cap)
    {read : Nat} (inLength : read < 4) : midway before ready type f (read + 2) =
      { waiting before ready type with
        rxFramedIOState := .length
        rxStateByteCount := read
        rxExpectedLength := lengthSoFar f read } := by
  rw [midway, if_neg (by omega), if_neg (by omega), if_pos (by omega)]
  rfl

theorem midway_payload (before : Fifo cap UInt8) (ready : Bool) (type : MessageType) (f : Frame cap)
    {read : Nat} (inside : read ≤ f.payload.length) :
    midway before ready type f (read + 6) = settle (inPayload before ready type f read) := by
  rw [midway, if_neg (by omega), if_neg (by omega), if_neg (by omega), if_pos (by omega)]
  rfl

theorem inPayload_zero (before : Fifo cap UInt8) (ready : Bool) (type : MessageType)
    (f : Frame cap) : inPayload before ready type f 0 =
      { waiting before ready type with
        rxFramedIOState := .data
        rxExpectedLength := f.payload.length } := by
  simp only [inPayload, List.take_zero, Fifo.write_nil]
  rfl

/-- The six bytes before the payload read the same whatever the buffer holds. -/
theorem byteStep_header (before : Fifo cap UInt8) (ready : Bool) (type : MessageType)
    (f : Frame cap) {taken : Nat} (inHeader : taken < 6) {byte : UInt8}
    (here : f.encode[taken]? = some byte) :
    byteStep (midway before ready type f taken) byte =
      some (midway before ready (if taken = 1 then f.type else type) f (taken + 1), false) := by
  match taken, inHeader with
  | 0, _ =>
      obtain rfl : startByte = byte := Option.some.inj here
      rfl
  | 1, _ =>
      obtain rfl : f.type.code = byte := Option.some.inj here
      rw [midway_length _ _ _ _ (by omega : 0 < 4), lengthSoFar_zero]
      rfl
  | read + 2, _ =>
      have inLength : read < 4 := by omega
      obtain rfl := Option.some.inj ((encode_length f inLength).symm.trans here)
      have next := lengthSoFar_succ f inLength
      rw [midway_length _ _ _ _ inLength, if_neg (by omega)]
      simp only [byteStep, addLengthByte, lengthOfLengthField, next]
      by_cases last : read + 1 = 4
      · obtain rfl : read = 3 := by omega
        rw [if_pos rfl, midway_payload _ _ _ _ (Nat.zero_le _), inPayload_zero, lengthSoFar_four]
        rfl
      · rw [if_neg last, midway_length _ _ _ _ (by omega : read + 1 < 4)]

theorem byteSum_append (xs ys : List UInt8) : byteSum (xs ++ ys) = byteSum xs + byteSum ys := by
  simp only [byteSum, List.map_append, List.sum_append]

theorem used_inPayload (before : Fifo cap UInt8) (ready : Bool) (type : MessageType)
    {f : Frame cap} {read : Nat} (inside : read ≤ f.payload.length)
    (room : before.used + read ≤ cap) :
    (inPayload before ready type f read).input.used = before.used + read := by
  have taken : (f.payload.take read).length = read := List.length_take_of_le inside
  have fits : before.used + (f.payload.take read).length ≤ cap := by rw [taken]; exact room
  exact (Fifo.used_write_of_fits fits).trans (by rw [taken])

/-- A payload byte that does not yet complete what the buffer is waiting for. -/
theorem byteStep_payload {before : Fifo cap UInt8} {f : Frame cap} {read : Nat}
    (room : before.used + read < f.payload.length) (ready : Bool) (type : MessageType)
    {byte : UInt8} (here : f.encode[read + 6]? = some byte) :
    byteStep (midway before ready type f (read + 6)) byte =
      some (midway before ready type f (read + 7), false) := by
  have inside : read < f.payload.length := by omega
  have fits := f.fits
  have used := used_inPayload before ready type (Nat.le_of_lt inside) (by omega)
  rw [encode_payload, List.getElem?_append_left inside] at here
  have more : f.payload.take (read + 1) = f.payload.take read ++ [byte] := by
    rw [List.take_add_one, here, Option.toList_some]
  have taken : (f.payload.take read).length = read := List.length_take_of_le (Nat.le_of_lt inside)
  have next : addDataByte (inPayload before ready type f read) byte =
      inPayload before ready type f (read + 1) := by
    have sum : (byteSum (f.payload.take read) % 2 ^ 16 + byte.toNat) % 2 ^ 16 =
        byteSum (f.payload.take (read + 1)) % 2 ^ 16 := by
      rw [more, byteSum_append, Nat.mod_add_mod]
      rfl
    have stored : (before.write (f.payload.take read)).write [byte] =
        before.write (f.payload.take (read + 1)) := by
      rw [more]
      exact Fifo.write_write_of_fits (by rw [taken, List.length_singleton]; omega)
    simp only [addDataByte, inPayload, waiting, sum, stored]
  have unsettled : settle (inPayload before ready type f read) = inPayload before ready type f read :=
    settle_of_used_ne (by rw [used]; exact Nat.ne_of_lt room)
  rw [midway_payload _ _ _ _ (Nat.le_of_lt inside), unsettled,
    midway_payload _ _ _ _ (by omega : read + 1 ≤ f.payload.length), ← next]
  have wanted : (inPayload before ready type f read).input.used <
      (inPayload before ready type f read).rxExpectedLength := by
    rw [used]
    exact room
  exact if_pos wanted

theorem encode_trailer (f : Frame cap) (i : Nat) :
    f.encode[f.payload.length + 6 + i]? = f.trailer[i]? := by
  have shift : f.payload.length + 6 + i = f.payload.length + i + 6 := by omega
  rw [shift, encode_payload, List.getElem?_append_right (Nat.le_add_right _ _), Nat.add_sub_cancel_left]

/-- The payload is complete and its checksum is awaited. -/
theorem midway_checksum (ready : Bool) (type : MessageType) (f : Frame cap) :
    midway .empty ready type f (f.payload.length + 6) =
      { inPayload .empty ready type f f.payload.length with rxFramedIOState := .checksum } := by
  have used := used_inPayload .empty ready type (Nat.le_refl f.payload.length)
    (by rw [Fifo.used_empty, Nat.zero_add]; exact f.fits)
  rw [midway_payload _ _ _ _ (Nat.le_refl _), settle, if_pos]
  exact ⟨rfl, by rw [used, Fifo.used_empty, Nat.zero_add]; rfl⟩

theorem byteStep_checksum (ready : Bool) (type : MessageType) (f : Frame cap) {byte : UInt8}
    (here : f.encode[f.payload.length + 6]? = some byte) :
    byteStep (midway .empty ready type f (f.payload.length + 6)) byte =
      some (midway .empty ready type f (f.payload.length + 7), false) := by
  obtain rfl := Option.some.inj ((encode_trailer f 0).symm.trans here)
  have high : (0 + (UInt8.ofNat (byteSum f.payload % 2 ^ 16 / 256 ^ (2 - 0 - 1))).toNat *
      2 ^ ((2 - 0 - 1) * 8)) % 2 ^ 16 = byteSum f.payload % 2 ^ 16 / 256 * 256 := by
    simp only [UInt8.toNat_ofNat', Nat.reduceSub, Nat.reduceMul, Nat.reducePow]
    omega
  rw [midway_checksum, midway, if_neg (by omega), if_neg (by omega), if_neg (by omega),
    if_neg (by omega), if_pos (Nat.add_comm _ _)]
  simp only [byteStep, addChecksumByte, lengthOfChecksumField, inPayload, waiting, createRx, high,
    Nat.reduceAdd, Nat.reduceEqDiff, if_false]

theorem byteStep_checksum_low (ready : Bool) (type : MessageType) (f : Frame cap) {byte : UInt8}
    (here : f.encode[f.payload.length + 7]? = some byte) :
    byteStep (midway .empty ready type f (f.payload.length + 7)) byte =
      some (midway .empty ready type f (f.payload.length + 8), false) := by
  obtain rfl := Option.some.inj ((encode_trailer f 1).symm.trans here)
  have both : (byteSum f.payload % 2 ^ 16 / 256 * 256 +
      (UInt8.ofNat (byteSum f.payload % 2 ^ 16 / 256 ^ (2 - 1 - 1))).toNat *
        2 ^ ((2 - 1 - 1) * 8)) % 2 ^ 16 = byteSum f.payload % 2 ^ 16 := by
    simp only [UInt8.toNat_ofNat', Nat.reduceSub, Nat.reduceMul, Nat.reducePow]
    omega
  rw [midway, if_neg (by omega), if_neg (by omega), if_neg (by omega),
    if_neg (by omega), if_pos (Nat.add_comm _ _), midway, if_neg (by omega), if_neg (by omega),
    if_neg (by omega), if_neg (by omega), if_neg (by omega)]
  simp only [byteStep, addChecksumByte, lengthOfChecksumField, compareChecksum, inPayload, waiting,
    createRx, both, List.take_length, if_true]

/-- The last byte of a frame hands the payload over to the rx runnable. -/
theorem byteStep_endFlag (ready : Bool) (type : MessageType) (f : Frame cap) {byte : UInt8}
    (here : f.encode[f.payload.length + 8]? = some byte) :
    byteStep (midway .empty ready type f (f.payload.length + 8)) byte =
      some (waiting (Fifo.empty.write f.payload) true type, true) := by
  obtain rfl : endByte = byte := Option.some.inj ((encode_trailer f 2).symm.trans here)
  rw [midway, if_neg (by omega), if_neg (by omega), if_neg (by omega),
    if_neg (by omega), if_neg (by omega)]
  simp only [byteStep, inPayload, List.take_length, acceptFrame, if_true]
  rfl

/-- The byte after the first `taken` ones is read as a byte of `f`: it belongs to
the header, or the buffer is still waiting for payload, or nothing else was in
the buffer and the byte is not the last one. -/
def InFrame (before : Fifo cap UInt8) (f : Frame cap) (taken : Nat) : Prop :=
  taken < 6 ∨ before.used + (taken - 6) < f.payload.length ∨
    (before = .empty ∧ taken < f.payload.length + 8)

theorem byteStep_midway {before : Fifo cap UInt8} {f : Frame cap} {taken : Nat}
    (inFrame : InFrame before f taken) (ready : Bool) (type : MessageType) {byte : UInt8}
    (here : f.encode[taken]? = some byte) :
    byteStep (midway before ready type f taken) byte =
      some (midway before ready (if taken = 1 then f.type else type) f (taken + 1), false) := by
  by_cases inHeader : taken < 6
  · exact byteStep_header before ready type f inHeader here
  · obtain ⟨read, rfl⟩ : ∃ read, taken = read + 6 := ⟨taken - 6, by omega⟩
    rw [if_neg (by omega)]
    by_cases room : before.used + read < f.payload.length
    · exact byteStep_payload room ready type here
    · obtain ⟨rfl, bound⟩ : before = .empty ∧ read + 6 < f.payload.length + 8 := by
        rcases inFrame with header | payload | trailer
        · exact absurd header inHeader
        · exact absurd payload room
        · exact trailer
      rw [Fifo.used_empty, Nat.zero_add] at room
      rcases Nat.lt_or_ge f.payload.length read with past | upTo
      · obtain rfl : read = f.payload.length + 1 := by omega
        exact byteStep_checksum_low ready type f here
      · obtain rfl : read = f.payload.length := by omega
        exact byteStep_checksum ready type f here

/-- Reading on within a frame, in as many bytes as one likes. -/
theorem feed_midway {before : Fifo cap UInt8} {f : Frame cap} {taken : Nat} {bytes : List UInt8}
    (inFrame : ∀ i, taken ≤ i → i < taken + bytes.length → InFrame before f i) (ready : Bool)
    (type : MessageType) (valid : Bool) (here : bytes <+: f.encode.drop taken) :
    feed (midway before ready type f taken) valid bytes =
      some (midway before ready (if taken < 2 ∧ 2 ≤ taken + bytes.length then f.type else type) f
        (taken + bytes.length), valid) := by
  induction bytes generalizing taken type with
  | nil =>
      rw [if_neg (by rw [List.length_nil]; omega)]
      rfl
  | cons byte rest ih =>
      obtain ⟨more, split⟩ := here
      have byteHere : f.encode[taken]? = some byte := by
        rw [← List.head?_drop, ← split]
        rfl
      have restHere : rest <+: f.encode.drop (taken + 1) := by
        rw [← List.tail_drop, ← split]
        exact ⟨more, rfl⟩
      have first := byteStep_midway (inFrame taken (Nat.le_refl _)
        (by rw [List.length_cons]; omega)) ready type byteHere
      have later : ∀ i, taken + 1 ≤ i → i < taken + 1 + rest.length → InFrame before f i :=
        fun i low high => inFrame i (by omega) (by rw [List.length_cons]; omega)
      have sum : taken + 1 + rest.length = taken + (byte :: rest).length := by
        rw [List.length_cons]
        omega
      have typed : (if taken + 1 < 2 ∧ 2 ≤ taken + 1 + rest.length then f.type
            else if taken = 1 then f.type else type) =
          if taken < 2 ∧ 2 ≤ taken + (byte :: rest).length then f.type else type := by
        rw [sum]
        by_cases one : taken = 1
        · have crossed : taken < 2 ∧ 2 ≤ taken + (byte :: rest).length := by
            rw [List.length_cons]
            omega
          rw [if_pos one, if_pos crossed, ite_self]
        · rw [if_neg one]
          exact if_congr (by rw [List.length_cons]; omega) rfl rfl
      rw [feed_cons first, Bool.false_or, ih later _ restHere, typed, sum]

/-- Reading a frame to its end. -/
theorem feed_midway_end {f : Frame cap} {taken : Nat} (inside : taken < f.shape.size) (ready : Bool)
    (type : MessageType) (valid : Bool) :
    feed (midway .empty ready type f taken) valid (f.encode.drop taken) =
      some (waiting (Fifo.empty.write f.payload) true (if taken < 2 then f.type else type), true) := by
  have size : f.shape.size = f.payload.length + 9 := Nat.add_comm _ _
  have bound : taken ≤ f.butLast.length := by
    rw [Frame.length_butLast]
    omega
  have rest : (f.butLast.drop taken).length = f.payload.length + 8 - taken := by
    rw [List.length_drop, Frame.length_butLast]
  have split : f.encode.drop taken = f.butLast.drop taken ++ [endByte] := by
    rw [Frame.encode_eq_butLast, List.drop_append_of_le_length bound]
  have inFrame : ∀ i, taken ≤ i → i < taken + (f.butLast.drop taken).length →
      InFrame .empty f i := fun i _ high => Or.inr (Or.inr ⟨rfl, by rw [rest] at high; omega⟩)
  have most := feed_midway inFrame ready type valid ⟨[endByte], split.symm⟩
  have all : taken + (f.payload.length + 8 - taken) = f.payload.length + 8 := by omega
  have last : f.encode[f.payload.length + 8]? = some endByte := encode_trailer f 2
  rw [rest, all] at most
  rw [split, feed_append_of_run most, feed_cons (byteStep_endFlag ready _ f last)]
  simp only [feed, Bool.true_or]
  exact congrArg (fun t => some (waiting _ true t, true)) (if_congr (by omega) rfl rfl)

theorem counted_midway (before : Fifo cap UInt8) (ready : Bool) (type : MessageType) (f : Frame cap)
    (taken : Nat) : Counted (midway before ready type f taken) := by
  unfold midway
  split_ifs
  · rfl
  · rfl
  · simp only [Counted, lengthOfLengthField]
    omega
  · exact counted_settle rfl
  · exact Nat.one_lt_two
  · rfl

theorem settled_midway (before : Fifo cap UInt8) (ready : Bool) (type : MessageType) (f : Frame cap)
    (taken : Nat) : Settled (midway before ready type f taken) := by
  unfold midway
  split_ifs
  · exact settle_of_ne_data (by exact nofun)
  · exact settle_of_ne_data (by exact nofun)
  · exact settle_of_ne_data (by exact nofun)
  · exact settle_settle _
  · exact settle_of_ne_data (by exact nofun)
  · exact settle_of_ne_data (by exact nofun)

theorem type_midway (before : Fifo cap UInt8) (ready : Bool) (type : MessageType) (f : Frame cap)
    (taken : Nat) : (midway before ready type f taken).rxType = type := by
  unfold midway settle
  split_ifs <;> rfl

theorem ready_midway (before : Fifo cap UInt8) (ready : Bool) (type : MessageType) (f : Frame cap)
    (taken : Nat) : (midway before ready type f taken).rxDataReady = ready := by
  unfold midway settle
  split_ifs <;> rfl

example : bigEndian 4 258 = [0, 0, 1, 2] := by decide

end FramedIO
