import ScopeTarget.Communication.FramedIORx

/-! The receiver as a machine that takes one byte per step. `putLoop_eq_feed`
says that the six checks of FramedIO, called in a loop, compute exactly this
machine; every later result about the receiver is proved on it. -/

namespace FramedIO
variable {cap : Nat}

/-- A payload that is complete, also without a further byte, is left behind. -/
def settle (s : Rx cap) : Rx cap :=
  if s.rxFramedIOState = .data ∧ s.input.used = s.rxExpectedLength then
    { s with rxFramedIOState := .checksum }
  else s

/-- One byte in a settled state, and whether it completes a valid frame. `none`
is the call that never returns: more is stored than the frame announces, and
neither the byte nor the state moves on. -/
def byteStep (s : Rx cap) (byte : UInt8) : Option (Rx cap × Bool) :=
  match s.rxFramedIOState with
  | .startFlag =>
      some (if byte = startByte then { s with rxFramedIOState := .type } else s, false)
  | .type => some ({ s with rxType := ⟨byte⟩, rxFramedIOState := .length }, false)
  | .length =>
      let s := addLengthByte s byte
      if s.rxStateByteCount = lengthOfLengthField then
        some (settle { s with rxStateByteCount := 0, rxFramedIOState := .data }, false)
      else some (s, false)
  | .data =>
      if s.input.used < s.rxExpectedLength then some (settle (addDataByte s byte), false)
      else none
  | .checksum =>
      let s := addChecksumByte s byte
      some (if s.rxStateByteCount = lengthOfChecksumField then compareChecksum s else s, false)
  | .endFlag => if byte = endByte then some (acceptFrame s, true) else some (resetRx s, false)

/-- What a byte does, by the field that is being read. -/
inductive Stepped (s : Rx cap) (byte : UInt8) : Rx cap × Bool → Prop
  | starts (state : s.rxFramedIOState = .startFlag) (start : byte = startByte) :
      Stepped s byte ({ s with rxFramedIOState := .type }, false)
  | skips (state : s.rxFramedIOState = .startFlag) (other : byte ≠ startByte) : Stepped s byte (s, false)
  | readsType (state : s.rxFramedIOState = .type) :
      Stepped s byte ({ s with rxType := ⟨byte⟩, rxFramedIOState := .length }, false)
  | endsLength (state : s.rxFramedIOState = .length)
      (last : (addLengthByte s byte).rxStateByteCount = lengthOfLengthField) :
      Stepped s byte (settle { addLengthByte s byte with
        rxStateByteCount := 0, rxFramedIOState := .data }, false)
  | readsLength (state : s.rxFramedIOState = .length)
      (more : (addLengthByte s byte).rxStateByteCount ≠ lengthOfLengthField) :
      Stepped s byte (addLengthByte s byte, false)
  | stores (state : s.rxFramedIOState = .data) (missing : s.input.used < s.rxExpectedLength) :
      Stepped s byte (settle (addDataByte s byte), false)
  | endsChecksum (state : s.rxFramedIOState = .checksum)
      (last : (addChecksumByte s byte).rxStateByteCount = lengthOfChecksumField) :
      Stepped s byte (compareChecksum (addChecksumByte s byte), false)
  | readsChecksum (state : s.rxFramedIOState = .checksum)
      (more : (addChecksumByte s byte).rxStateByteCount ≠ lengthOfChecksumField) :
      Stepped s byte (addChecksumByte s byte, false)
  | accepts (state : s.rxFramedIOState = .endFlag) : Stepped s byte (acceptFrame s, true)
  | refuses (state : s.rxFramedIOState = .endFlag) : Stepped s byte (resetRx s, false)

theorem byteStep_stepped {s : Rx cap} {byte : UInt8} {r : Rx cap × Bool}
    (step : byteStep s byte = some r) : Stepped s byte r := by
  unfold byteStep at step
  split at step
  · rename_i state
    obtain rfl := Option.some.inj step
    split
    · rename_i start
      exact .starts state start
    · rename_i other
      exact .skips state other
  · rename_i state
    obtain rfl := Option.some.inj step
    exact .readsType state
  · rename_i state
    dsimp only at step
    split at step
    · rename_i last
      obtain rfl := Option.some.inj step
      exact .endsLength state last
    · rename_i more
      obtain rfl := Option.some.inj step
      exact .readsLength state more
  · rename_i state
    split at step
    · rename_i missing
      obtain rfl := Option.some.inj step
      exact .stores state missing
    · cases step
  · rename_i state
    obtain rfl := Option.some.inj step
    split
    · rename_i last
      exact .endsChecksum state last
    · rename_i more
      exact .readsChecksum state more
  · rename_i state
    split at step
    · obtain rfl := Option.some.inj step
      exact .accepts state
    · obtain rfl := Option.some.inj step
      exact .refuses state

def feed : Rx cap → Bool → List UInt8 → Option (Rx cap × Bool)
  | s, valid, [] => some (s, valid)
  | s, valid, byte :: rest =>
      (byteStep s byte).bind fun (s', accepted) => feed s' (accepted || valid) rest

theorem feed_cons {s s' : Rx cap} {byte : UInt8} {accepted : Bool}
    (step : byteStep s byte = some (s', accepted)) (valid : Bool) (rest : List UInt8) :
    feed s valid (byte :: rest) = feed s' (accepted || valid) rest := by
  rw [feed, step, Option.bind_some]

/-- Feeding from a state that may have to be settled first. -/
def consume (s : Rx cap) (valid : Bool) (data : List UInt8) : Option (Rx cap × Bool) :=
  feed (settle s) valid data

theorem feed_append (s : Rx cap) (valid : Bool) (xs ys : List UInt8) :
    feed s valid (xs ++ ys) = (feed s valid xs).bind fun (s', valid') => feed s' valid' ys := by
  induction xs generalizing s valid with
  | nil => rfl
  | cons x xs ih =>
      simp only [List.cons_append, feed, Option.bind_assoc]
      exact Option.bind_congr fun _ _ => ih _ _

theorem feed_append_of_run {s s' : Rx cap} {valid valid' : Bool} {xs : List UInt8}
    (run : feed s valid xs = some (s', valid')) (ys : List UInt8) :
    feed s valid (xs ++ ys) = feed s' valid' ys := by
  rw [feed_append, run, Option.bind_some]

/-- The flag only collects what the bytes report. -/
theorem feed_valid (s : Rx cap) (valid : Bool) (data : List UInt8) :
    feed s valid data = (feed s false data).map fun (s', valid') => (s', valid' || valid) := by
  induction data generalizing s valid with
  | nil => simp only [feed, Option.map_some, Bool.false_or]
  | cons byte rest ih =>
      simp only [feed, Option.map_bind]
      refine Option.bind_congr fun r _ => ?_
      rw [ih, Function.comp_apply, ih r.1 (r.2 || false)]
      simp only [Option.map_map, Bool.or_false, Function.comp_def, Bool.or_assoc]

theorem settle_of_ne_data {s : Rx cap} (h : s.rxFramedIOState ≠ .data) : settle s = s :=
  if_neg fun both => h both.1

theorem settle_of_state {s : Rx cap} {state : RxFramedIOState} (here : s.rxFramedIOState = state)
    (other : state ≠ .data) : settle s = s :=
  settle_of_ne_data (here ▸ other)

theorem settle_of_used_ne {s : Rx cap} (h : s.input.used ≠ s.rxExpectedLength) : settle s = s :=
  if_neg fun both => h both.2

@[simp] theorem settle_settle (s : Rx cap) : settle (settle s) = settle s := by
  by_cases h : s.rxFramedIOState = .data ∧ s.input.used = s.rxExpectedLength
  · exact settle_of_ne_data (by simp only [settle, if_pos h]; decide)
  · simp only [settle, if_neg h]

/-- Nothing is left to settle. -/
def Settled (s : Rx cap) : Prop := settle s = s

/-- The byte counter is below the size of the field being read, and zero
wherever no counted field is being read. -/
def Counted (s : Rx cap) : Prop :=
  match s.rxFramedIOState with
  | .length => s.rxStateByteCount < lengthOfLengthField
  | .checksum => s.rxStateByteCount < lengthOfChecksumField
  | _ => s.rxStateByteCount = 0

theorem counted_createRx : Counted (createRx : Rx cap) := rfl

theorem counted_resetRx (s : Rx cap) : Counted (resetRx s) := rfl

theorem counted_settle {s : Rx cap} (counted : Counted s) : Counted (settle s) := by
  by_cases h : s.rxFramedIOState = .data ∧ s.input.used = s.rxExpectedLength
  · simp only [Counted, h.1] at counted
    simp only [settle, if_pos h, Counted, counted, lengthOfChecksumField]
    decide
  · simpa only [settle, if_neg h] using counted

theorem counted_compareChecksum (s : Rx cap) : Counted (compareChecksum s) := by
  unfold compareChecksum
  split
  · rfl
  · rfl

theorem settled_compareChecksum (s : Rx cap) : Settled (compareChecksum s) := by
  refine settle_of_ne_data ?_
  unfold compareChecksum
  split
  · exact nofun
  · exact nofun

theorem counted_byteStep {s : Rx cap} (counted : Counted s) {byte : UInt8} {r : Rx cap × Bool}
    (step : byteStep s byte = some r) : Counted r.1 := by
  cases byteStep_stepped step with
  | starts state =>
      simp only [Counted, state] at counted
      exact counted
  | skips => exact counted
  | readsType state =>
      simp only [Counted, state] at counted
      simp only [Counted, counted]
      decide
  | endsLength => exact counted_settle rfl
  | readsLength state more =>
      simp only [Counted, state] at counted
      simp only [Counted, addLengthByte, state] at more ⊢
      omega
  | stores state =>
      simp only [Counted, state] at counted
      exact counted_settle (by simpa only [Counted, addDataByte, state] using counted)
  | endsChecksum => exact counted_compareChecksum _
  | readsChecksum state more =>
      simp only [Counted, state] at counted
      simp only [Counted, addChecksumByte, state] at more ⊢
      omega
  | accepts state =>
      simp only [Counted, state] at counted
      exact counted
  | refuses => exact counted_resetRx s

/-- What every byte preserves holds after an array. -/
theorem feed_preserves (Inv : Rx cap → Prop)
    (byte : ∀ s b r, Inv s → byteStep s b = some r → Inv r.1) {s : Rx cap} (start : Inv s)
    {valid : Bool} {data : List UInt8} {r : Rx cap × Bool} (run : feed s valid data = some r) :
    Inv r.1 := by
  induction data generalizing s valid with
  | nil =>
      obtain rfl := Option.some.inj run
      exact start
  | cons b rest ih =>
      obtain ⟨next, step, run⟩ := Option.bind_eq_some_iff.mp run
      exact ih (byte s b next start step) run

theorem counted_feed {s : Rx cap} (counted : Counted s) {valid : Bool} {data : List UInt8}
    {r : Rx cap × Bool} (run : feed s valid data = some r) : Counted r.1 :=
  feed_preserves Counted (fun _ _ _ before step => counted_byteStep before step) counted run

/-! Each check does what the machine does with the bytes it takes. -/

theorem consume_checkStartFlag (s : Rx cap) (valid : Bool) (data : List UInt8) :
    consume (checkStartFlag s data).1 valid (checkStartFlag s data).2 = consume s valid data := by
  by_cases state : s.rxFramedIOState = .startFlag
  · have settled : settle s = s := settle_of_state state (by decide)
    induction data with
    | nil => simp only [checkStartFlag, if_pos state, List.dropWhile_nil]
    | cons byte rest ih =>
        by_cases start : byte = startByte
        · simp only [checkStartFlag, List.dropWhile_cons, start, ne_eq, not_true_eq_false,
            decide_false, Bool.false_eq_true, if_false, consume, settled, feed, byteStep, state,
            if_true, Option.bind_some, Bool.false_or]
          rw [settle_of_ne_data (by exact nofun)]
        · have skip : checkStartFlag s (byte :: rest) = checkStartFlag s rest := by
            simp only [checkStartFlag, if_pos state, List.dropWhile_cons, ne_eq, start,
              not_false_eq_true, decide_true, if_true]
          rw [skip, ih]
          simp only [consume, settled, feed, byteStep, state, if_neg start, Option.bind_some,
            Bool.false_or]
  · simp only [checkStartFlag, if_neg state]

theorem consume_checkType (s : Rx cap) (valid : Bool) (data : List UInt8) :
    consume (checkType s data).1 valid (checkType s data).2 = consume s valid data := by
  by_cases state : s.rxFramedIOState = .type
  · cases data with
    | nil => simp only [checkType, if_pos state]
    | cons byte rest =>
        have settled : settle s = s := settle_of_state state (by decide)
        simp only [checkType, if_pos state, consume]
        rw [settled, settle_of_ne_data (by exact nofun)]
        simp only [feed, byteStep, state, Option.bind_some, Bool.false_or]
  · simp only [checkType, if_neg state]

theorem consume_checkLength {s : Rx cap} (counted : Counted s) (valid : Bool)
    (data : List UInt8) :
    consume (checkLength s data).1 valid (checkLength s data).2 = consume s valid data := by
  by_cases state : s.rxFramedIOState = .length
  · have settled : ∀ t : Rx cap, t.rxFramedIOState = .length → settle t = t := fun t ht =>
      settle_of_state ht (by decide)
    induction data generalizing s with
    | nil =>
        have short : s.rxStateByteCount ≠ lengthOfLengthField := by
          simp only [Counted, state] at counted
          exact Nat.ne_of_lt counted
        simp only [checkLength, if_pos state, readLength, short, if_false]
    | cons byte rest ih =>
        simp only [Counted, state] at counted
        have state' : (addLengthByte s byte).rxFramedIOState = .length := state
        have read : checkLength s (byte :: rest) = checkLength (addLengthByte s byte) rest := by
          simp only [checkLength, if_pos state, if_pos state', readLength, if_pos counted]
        have step : consume s valid (byte :: rest) =
            if (addLengthByte s byte).rxStateByteCount = lengthOfLengthField then
              consume { addLengthByte s byte with rxStateByteCount := 0, rxFramedIOState := .data }
                valid rest
            else consume (addLengthByte s byte) valid rest := by
          simp only [consume, settled s state, settled _ state', feed, byteStep, state]
          split
          · simp only [Option.bind_some, Bool.false_or]
          · simp only [Option.bind_some, Bool.false_or]
        rw [read, step]
        by_cases last : (addLengthByte s byte).rxStateByteCount = lengthOfLengthField
        · have stop : readLength (addLengthByte s byte) rest = (addLengthByte s byte, rest) := by
            cases rest with
            | nil => rfl
            | cons b bs => simp only [readLength, if_neg (Nat.not_lt.mpr (Nat.le_of_eq last.symm))]
          simp only [checkLength, if_pos state', stop, if_pos last]
        · rw [if_neg last]
          refine ih ?_ state'
          simp only [Counted, state']
          exact Nat.lt_of_le_of_ne counted last
  · simp only [checkLength, if_neg state]

theorem consume_checkData (s : Rx cap) (valid : Bool) (data : List UInt8) :
    consume (checkData s data).1 valid (checkData s data).2 = consume s valid data := by
  by_cases state : s.rxFramedIOState = .data
  · have leave : ∀ (t : Rx cap) (rest : List UInt8), t.rxFramedIOState = .data →
        readData t rest = (t, rest) → consume (checkData t rest).1 valid (checkData t rest).2 =
          consume t valid rest := by
      intro t rest ht stop
      have same : (checkData t rest).1 = settle t ∧ (checkData t rest).2 = rest := by
        by_cases complete : t.input.used = t.rxExpectedLength
        · simp only [checkData, stop, settle, ht, complete, if_true, and_self]
        · simp only [checkData, stop, settle, ht, complete, if_true, if_false, and_self, and_false]
      rw [same.1, same.2, consume, settle_settle, consume]
    induction data generalizing s with
    | nil => exact leave s [] state rfl
    | cons byte rest ih =>
        by_cases more : s.input.used < s.rxExpectedLength
        · have state' : (addDataByte s byte).rxFramedIOState = .data := state
          have read : checkData s (byte :: rest) = checkData (addDataByte s byte) rest := by
            simp only [checkData, if_pos state, if_pos state', readData, if_pos more]
          rw [read, ih _ state']
          simp only [consume, settle_of_used_ne (Nat.ne_of_lt more), feed, byteStep, state,
            if_pos more, Option.bind_some, Bool.false_or]
        · exact leave s (byte :: rest) state (by simp only [readData, if_neg more])
  · simp only [checkData, if_neg state]

theorem consume_checkChecksum {s : Rx cap} (counted : Counted s) (valid : Bool)
    (data : List UInt8) :
    consume (checkChecksum s data).1 valid (checkChecksum s data).2 = consume s valid data := by
  by_cases state : s.rxFramedIOState = .checksum
  · have settled : ∀ t : Rx cap, t.rxFramedIOState = .checksum → settle t = t := fun t ht =>
      settle_of_state ht (by decide)
    induction data generalizing s with
    | nil =>
        have short : s.rxStateByteCount ≠ lengthOfChecksumField := by
          simp only [Counted, state] at counted
          exact Nat.ne_of_lt counted
        simp only [checkChecksum, if_pos state, readChecksum, short, if_false]
    | cons byte rest ih =>
        simp only [Counted, state] at counted
        have state' : (addChecksumByte s byte).rxFramedIOState = .checksum := state
        have read : checkChecksum s (byte :: rest) =
            checkChecksum (addChecksumByte s byte) rest := by
          simp only [checkChecksum, if_pos state, if_pos state', readChecksum, if_pos counted]
        have step : consume s valid (byte :: rest) =
            if (addChecksumByte s byte).rxStateByteCount = lengthOfChecksumField then
              consume (compareChecksum (addChecksumByte s byte)) valid rest
            else consume (addChecksumByte s byte) valid rest := by
          simp only [consume, settled s state, settled _ state', feed, byteStep, state]
          split
          · rw [settled_compareChecksum]
            simp only [Option.bind_some, Bool.false_or]
          · simp only [Option.bind_some, Bool.false_or]
        rw [read, step]
        by_cases last : (addChecksumByte s byte).rxStateByteCount = lengthOfChecksumField
        · have stop : readChecksum (addChecksumByte s byte) rest =
              (addChecksumByte s byte, rest) := by
            cases rest with
            | nil => rfl
            | cons b bs =>
                simp only [readChecksum, if_neg (Nat.not_lt.mpr (Nat.le_of_eq last.symm))]
          simp only [checkChecksum, if_pos state', stop, if_pos last]
        · rw [if_neg last]
          refine ih ?_ state'
          simp only [Counted, state']
          exact Nat.lt_of_le_of_ne counted last
  · simp only [checkChecksum, if_neg state]

theorem consume_checkEndFlag (s : Rx cap) (valid : Bool) (data : List UInt8) :
    consume (checkEndFlag s data).1 ((checkEndFlag s data).2.2 || valid)
      (checkEndFlag s data).2.1 = consume s valid data := by
  by_cases state : s.rxFramedIOState = .endFlag
  · cases data with
    | nil => simp only [checkEndFlag, if_pos state, Bool.false_or]
    | cons byte rest =>
        have settled : settle s = s := settle_of_state state (by decide)
        by_cases last : byte = endByte
        · simp only [checkEndFlag, last, consume, settled, feed, byteStep, state, if_true,
            Option.bind_some]
          rw [settle_of_ne_data (by exact nofun)]
        · simp only [checkEndFlag, last, consume, settled, feed, byteStep, state, if_true, if_false,
            Option.bind_some]
          rw [settle_of_ne_data (by exact nofun)]
  · simp only [checkEndFlag, if_neg state, Bool.false_or]

/-! The checks keep the counters in range and hand on a shorter rest. -/

theorem readLength_keeps (s : Rx cap) (data : List UInt8) :
    (readLength s data).1.rxFramedIOState = s.rxFramedIOState ∧
      (s.rxStateByteCount ≤ lengthOfLengthField →
        (readLength s data).1.rxStateByteCount ≤ lengthOfLengthField) ∧
      (readLength s data).2.length ≤ data.length := by
  induction data generalizing s with
  | nil => exact ⟨rfl, id, Nat.le_refl _⟩
  | cons byte rest ih =>
      by_cases more : s.rxStateByteCount < lengthOfLengthField
      · obtain ⟨state, count, short⟩ := ih (addLengthByte s byte)
        simp only [readLength, if_pos more]
        exact ⟨state, fun _ => count more, Nat.le_succ_of_le short⟩
      · simp only [readLength, if_neg more]
        exact ⟨trivial, id, Nat.le_refl _⟩

theorem readChecksum_keeps (s : Rx cap) (data : List UInt8) :
    (readChecksum s data).1.rxFramedIOState = s.rxFramedIOState ∧
      (s.rxStateByteCount ≤ lengthOfChecksumField →
        (readChecksum s data).1.rxStateByteCount ≤ lengthOfChecksumField) ∧
      (readChecksum s data).2.length ≤ data.length := by
  induction data generalizing s with
  | nil => exact ⟨rfl, id, Nat.le_refl _⟩
  | cons byte rest ih =>
      by_cases more : s.rxStateByteCount < lengthOfChecksumField
      · obtain ⟨state, count, short⟩ := ih (addChecksumByte s byte)
        simp only [readChecksum, if_pos more]
        exact ⟨state, fun _ => count more, Nat.le_succ_of_le short⟩
      · simp only [readChecksum, if_neg more]
        exact ⟨trivial, id, Nat.le_refl _⟩

theorem readData_keeps (s : Rx cap) (data : List UInt8) :
    (readData s data).1.rxFramedIOState = s.rxFramedIOState ∧
      (readData s data).1.rxStateByteCount = s.rxStateByteCount ∧
      (readData s data).2.length ≤ data.length := by
  induction data generalizing s with
  | nil => exact ⟨rfl, rfl, Nat.le_refl _⟩
  | cons byte rest ih =>
      by_cases more : s.input.used < s.rxExpectedLength
      · obtain ⟨state, count, short⟩ := ih (addDataByte s byte)
        simp only [readData, if_pos more]
        exact ⟨state, count, Nat.le_succ_of_le short⟩
      · simp only [readData, if_neg more]
        exact ⟨trivial, trivial, Nat.le_refl _⟩

theorem counted_checkStartFlag {s : Rx cap} (counted : Counted s) (data : List UInt8) :
    Counted (checkStartFlag s data).1 := by
  by_cases state : s.rxFramedIOState = .startFlag
  · simp only [Counted, state] at counted
    simp only [checkStartFlag, if_pos state]
    split
    · simpa only [Counted, state] using counted
    · exact counted
  · simpa only [checkStartFlag, if_neg state] using counted

theorem counted_checkType {s : Rx cap} (counted : Counted s) (data : List UInt8) :
    Counted (checkType s data).1 := by
  by_cases state : s.rxFramedIOState = .type
  · simp only [Counted, state] at counted
    simp only [checkType, if_pos state]
    split
    · simpa only [Counted, state] using counted
    · simp only [Counted, counted]
      decide
  · simpa only [checkType, if_neg state] using counted

theorem counted_checkLength {s : Rx cap} (counted : Counted s) (data : List UInt8) :
    Counted (checkLength s data).1 := by
  by_cases state : s.rxFramedIOState = .length
  · simp only [Counted, state] at counted
    obtain ⟨state', count, -⟩ := readLength_keeps s data
    simp only [checkLength, if_pos state]
    split
    · rfl
    · simp only [Counted, state', state]
      exact Nat.lt_of_le_of_ne (count (Nat.le_of_lt counted)) (by assumption)
  · simpa only [checkLength, if_neg state] using counted

theorem counted_checkData {s : Rx cap} (counted : Counted s) (data : List UInt8) :
    Counted (checkData s data).1 := by
  by_cases state : s.rxFramedIOState = .data
  · simp only [Counted, state] at counted
    obtain ⟨state', count, -⟩ := readData_keeps s data
    simp only [checkData, if_pos state]
    split
    · simp only [Counted, count, counted]
      decide
    · simp only [Counted, state', state, count, counted]
  · simpa only [checkData, if_neg state] using counted

theorem counted_checkChecksum {s : Rx cap} (counted : Counted s) (data : List UInt8) :
    Counted (checkChecksum s data).1 := by
  by_cases state : s.rxFramedIOState = .checksum
  · simp only [Counted, state] at counted
    obtain ⟨state', count, -⟩ := readChecksum_keeps s data
    simp only [checkChecksum, if_pos state]
    split
    · exact counted_compareChecksum _
    · simp only [Counted, state', state]
      exact Nat.lt_of_le_of_ne (count (Nat.le_of_lt counted)) (by assumption)
  · simpa only [checkChecksum, if_neg state] using counted

theorem counted_checkEndFlag {s : Rx cap} (counted : Counted s) (data : List UInt8) :
    Counted (checkEndFlag s data).1 := by
  by_cases state : s.rxFramedIOState = .endFlag
  · simp only [checkEndFlag, if_pos state]
    split
    · exact counted
    · split
      · simpa only [Counted, state, acceptFrame] using counted
      · rfl
  · simpa only [checkEndFlag, if_neg state] using counted

/-- A check hands on no more bytes than it was given, and fewer in its own state. -/
def Consumes (own : Prop) (data rest : List UInt8) : Prop :=
  rest.length ≤ data.length ∧ (own → data ≠ [] → rest.length < data.length)

theorem consumes_checkStartFlag (s : Rx cap) (data : List UInt8) :
    Consumes (s.rxFramedIOState = .startFlag) data (checkStartFlag s data).2 := by
  by_cases state : s.rxFramedIOState = .startFlag
  · have suffix : data.dropWhile (· ≠ startByte) <:+ data := List.dropWhile_suffix _
    have shorter := suffix.length_le
    simp only [checkStartFlag, if_pos state]
    split
    · exact ⟨Nat.zero_le _, fun _ => List.length_pos_of_ne_nil⟩
    · next found =>
        rw [found, List.length_cons] at shorter
        exact ⟨Nat.le_of_lt shorter, fun _ _ => shorter⟩
  · simp only [checkStartFlag, if_neg state]
    exact ⟨Nat.le_refl _, fun own => absurd own state⟩

theorem consumes_checkType (s : Rx cap) (data : List UInt8) :
    Consumes (s.rxFramedIOState = .type) data (checkType s data).2 := by
  by_cases state : s.rxFramedIOState = .type
  · simp only [checkType, if_pos state]
    split
    · exact ⟨Nat.zero_le _, fun _ => List.length_pos_of_ne_nil⟩
    · exact ⟨Nat.le_succ _, fun _ _ => Nat.lt_succ_self _⟩
  · simp only [checkType, if_neg state]
    exact ⟨Nat.le_refl _, fun own => absurd own state⟩

theorem consumes_checkLength {s : Rx cap} (counted : Counted s) (data : List UInt8) :
    Consumes (s.rxFramedIOState = .length) data (checkLength s data).2 := by
  by_cases state : s.rxFramedIOState = .length
  · have rest : (checkLength s data).2 = (readLength s data).2 := by
      simp only [checkLength, if_pos state]
      split
      · rfl
      · rfl
    rw [rest]
    refine ⟨(readLength_keeps s data).2.2, fun _ some => ?_⟩
    simp only [Counted, state] at counted
    cases data with
    | nil => exact absurd rfl some
    | cons byte bytes =>
        simp only [readLength, if_pos counted]
        exact Nat.lt_succ_of_le (readLength_keeps _ bytes).2.2
  · simp only [checkLength, if_neg state]
    exact ⟨Nat.le_refl _, fun own => absurd own state⟩

theorem consumes_checkData (s : Rx cap) (data : List UInt8) :
    Consumes (s.rxFramedIOState = .data ∧ s.input.used < s.rxExpectedLength) data
      (checkData s data).2 := by
  by_cases state : s.rxFramedIOState = .data
  · have rest : (checkData s data).2 = (readData s data).2 := by
      simp only [checkData, if_pos state]
      split
      · rfl
      · rfl
    rw [rest]
    refine ⟨(readData_keeps s data).2.2, fun own some => ?_⟩
    cases data with
    | nil => exact absurd rfl some
    | cons byte bytes =>
        simp only [readData, if_pos own.2]
        exact Nat.lt_succ_of_le (readData_keeps _ bytes).2.2
  · simp only [checkData, if_neg state]
    exact ⟨Nat.le_refl _, fun own => absurd own.1 state⟩

theorem consumes_checkChecksum {s : Rx cap} (counted : Counted s) (data : List UInt8) :
    Consumes (s.rxFramedIOState = .checksum) data (checkChecksum s data).2 := by
  by_cases state : s.rxFramedIOState = .checksum
  · have rest : (checkChecksum s data).2 = (readChecksum s data).2 := by
      simp only [checkChecksum, if_pos state]
      split
      · rfl
      · rfl
    rw [rest]
    refine ⟨(readChecksum_keeps s data).2.2, fun _ some => ?_⟩
    simp only [Counted, state] at counted
    cases data with
    | nil => exact absurd rfl some
    | cons byte bytes =>
        simp only [readChecksum, if_pos counted]
        exact Nat.lt_succ_of_le (readChecksum_keeps _ bytes).2.2
  · simp only [checkChecksum, if_neg state]
    exact ⟨Nat.le_refl _, fun own => absurd own state⟩

theorem consumes_checkEndFlag (s : Rx cap) (data : List UInt8) :
    Consumes (s.rxFramedIOState = .endFlag) data (checkEndFlag s data).2.1 := by
  by_cases state : s.rxFramedIOState = .endFlag
  · simp only [checkEndFlag, if_pos state]
    split
    · exact ⟨Nat.zero_le _, fun _ => List.length_pos_of_ne_nil⟩
    · split
      · exact ⟨Nat.le_succ _, fun _ _ => Nat.lt_succ_self _⟩
      · exact ⟨Nat.le_succ _, fun _ _ => Nat.lt_succ_self _⟩
  · simp only [checkEndFlag, if_neg state]
    exact ⟨Nat.le_refl _, fun own => absurd own state⟩

theorem consume_checkAll {s : Rx cap} (counted : Counted s) (valid : Bool) (data : List UInt8) :
    consume (checkAll s data).1 ((checkAll s data).2.2 || valid) (checkAll s data).2.1 =
      consume s valid data := by
  have counted₁ := counted_checkStartFlag counted data
  have counted₂ := counted_checkType counted₁ (checkStartFlag s data).2
  simp only [checkAll]
  rw [consume_checkEndFlag, consume_checkChecksum (counted_checkData (counted_checkLength
    counted₂ _) _), consume_checkData, consume_checkLength counted₂, consume_checkType,
    consume_checkStartFlag]

theorem counted_checkAll {s : Rx cap} (counted : Counted s) (data : List UInt8) :
    Counted (checkAll s data).1 := by
  unfold checkAll
  apply counted_checkEndFlag
  apply counted_checkChecksum
  apply counted_checkData
  apply counted_checkLength
  apply counted_checkType
  exact counted_checkStartFlag counted data

/-- More is stored than the frame announces: no check moves on from here. -/
def Stuck (s : Rx cap) : Prop := s.rxFramedIOState = .data ∧ s.rxExpectedLength < s.input.used

theorem checkAll_of_stuck {s : Rx cap} (stuck : Stuck s) {data : List UInt8} (some : data ≠ []) :
    checkAll s data = (s, data, false) := by
  obtain ⟨state, beyond⟩ := stuck
  have stop : readData s data = (s, data) := by
    cases data with
    | nil => exact absurd rfl some
    | cons byte rest => simp only [readData, if_neg (Nat.not_lt.mpr (Nat.le_of_lt beyond))]
  have differs : s.input.used ≠ s.rxExpectedLength := (Nat.ne_of_lt beyond).symm
  simp only [checkAll, checkStartFlag, checkType, checkLength, checkData, checkChecksum,
    checkEndFlag, state, stop, differs, reduceCtorEq, if_true, if_false]

theorem checkAll_length_le {s : Rx cap} (counted : Counted s) (data : List UInt8) :
    (checkAll s data).2.1.length ≤ data.length := by
  have counted₁ := counted_checkStartFlag counted data
  have counted₂ := counted_checkType counted₁ (checkStartFlag s data).2
  simp only [checkAll]
  refine Nat.le_trans (consumes_checkEndFlag _ _).1 ?_
  refine Nat.le_trans (consumes_checkChecksum
    (counted_checkData (counted_checkLength counted₂ _) _) _).1 ?_
  refine Nat.le_trans (consumes_checkData _ _).1 ?_
  refine Nat.le_trans (consumes_checkLength counted₂ _).1 ?_
  exact Nat.le_trans (consumes_checkType _ _).1 (consumes_checkStartFlag s data).1

/-- A pass that takes no byte finds no check to run, which leaves only the stuck state. -/
theorem checkAll_shorter {s : Rx cap} (counted : Counted s) (free : ¬ Stuck s)
    {data : List UInt8} (some : data ≠ []) : (checkAll s data).2.1.length < data.length := by
  rcases h₁ : checkStartFlag s data with ⟨s₁, d₁⟩
  rcases h₂ : checkType s₁ d₁ with ⟨s₂, d₂⟩
  rcases h₃ : checkLength s₂ d₂ with ⟨s₃, d₃⟩
  rcases h₄ : checkData s₃ d₃ with ⟨s₄, d₄⟩
  rcases h₅ : checkChecksum s₄ d₄ with ⟨s₅, d₅⟩
  rcases h₆ : checkEndFlag s₅ d₅ with ⟨s₆, d₆, accepted⟩
  have counted₁ := counted_checkStartFlag counted data
  rw [h₁] at counted₁
  have counted₂ := counted_checkType counted₁ d₁
  rw [h₂] at counted₂
  have counted₃ := counted_checkLength counted₂ d₂
  rw [h₃] at counted₃
  have counted₄ := counted_checkData counted₃ d₃
  rw [h₄] at counted₄
  have start := consumes_checkStartFlag s data
  rw [h₁] at start
  have type := consumes_checkType s₁ d₁
  rw [h₂] at type
  have length := consumes_checkLength counted₂ d₂
  rw [h₃] at length
  have payload := consumes_checkData s₃ d₃
  rw [h₄] at payload
  have checksum := consumes_checkChecksum counted₄ d₄
  rw [h₅] at checksum
  have last := consumes_checkEndFlag s₅ d₅
  rw [h₆] at last
  simp only [checkAll, h₁, h₂, h₃, h₄, h₅, h₆]
  simp only [Consumes] at start type length payload checksum last
  by_contra long
  have notStart : s.rxFramedIOState ≠ .startFlag := fun own => by
    have := start.2 own some
    omega
  obtain ⟨rfl, rfl⟩ := Prod.mk.inj (h₁.symm.trans (if_neg notStart))
  have notType : s₁.rxFramedIOState ≠ .type := fun own => by
    have := type.2 own some
    omega
  obtain ⟨rfl, rfl⟩ := Prod.mk.inj (h₂.symm.trans (if_neg notType))
  have notLength : s₂.rxFramedIOState ≠ .length := fun own => by
    have := length.2 own some
    omega
  obtain ⟨rfl, rfl⟩ := Prod.mk.inj (h₃.symm.trans (if_neg notLength))
  have notData : s₃.rxFramedIOState ≠ .data := fun state => by
    by_cases more : s₃.input.used < s₃.rxExpectedLength
    · have := payload.2 ⟨state, more⟩ some
      omega
    · have complete : s₃.input.used = s₃.rxExpectedLength :=
        Nat.le_antisymm (Nat.not_lt.mp fun beyond => free ⟨state, beyond⟩) (Nat.not_lt.mp more)
      have stop : readData s₃ d₃ = (s₃, d₃) := by
        cases d₃ with
        | nil => rfl
        | cons byte rest => simp only [readData, if_neg more]
      simp only [checkData, if_pos state, stop, if_pos complete] at h₄
      obtain ⟨rfl, rfl⟩ := Prod.mk.inj h₄
      have := checksum.2 rfl some
      omega
  obtain ⟨rfl, rfl⟩ := Prod.mk.inj (h₄.symm.trans (if_neg notData))
  have notChecksum : s₄.rxFramedIOState ≠ .checksum := fun own => by
    have := checksum.2 own some
    omega
  obtain ⟨rfl, rfl⟩ := Prod.mk.inj (h₅.symm.trans (if_neg notChecksum))
  have notEnd : s₅.rxFramedIOState ≠ .endFlag := fun own => by
    have := last.2 own some
    omega
  cases state : s₅.rxFramedIOState with
  | startFlag => exact notStart state
  | type => exact notType state
  | length => exact notLength state
  | data => exact notData state
  | checksum => exact notChecksum state
  | endFlag => exact notEnd state

theorem consume_of_stuck {s : Rx cap} (stuck : Stuck s) (valid : Bool) {data : List UInt8}
    (some : data ≠ []) : consume s valid data = none := by
  obtain ⟨state, beyond⟩ := stuck
  cases data with
  | nil => exact absurd rfl some
  | cons byte rest =>
      simp only [consume, settle_of_used_ne (Nat.ne_of_lt beyond).symm, feed, byteStep, state,
        if_neg (Nat.not_lt.mpr (Nat.le_of_lt beyond)), Option.bind_none]

theorem settled_checkData (s : Rx cap) (data : List UInt8) : Settled (checkData s data).1 := by
  by_cases state : s.rxFramedIOState = .data
  · simp only [checkData, if_pos state]
    split
    · exact settle_of_ne_data (by exact nofun)
    · exact settle_of_used_ne (by assumption)
  · simp only [checkData, if_neg state]
    exact settle_of_ne_data state

theorem settled_checkChecksum {s : Rx cap} (settled : Settled s) (data : List UInt8) :
    Settled (checkChecksum s data).1 := by
  by_cases state : s.rxFramedIOState = .checksum
  · simp only [checkChecksum, if_pos state]
    split
    · exact settled_compareChecksum _
    · exact settle_of_ne_data (by rw [(readChecksum_keeps s data).1, state]; exact nofun)
  · simpa only [checkChecksum, if_neg state] using settled

theorem settled_checkEndFlag {s : Rx cap} (settled : Settled s) (data : List UInt8) :
    Settled (checkEndFlag s data).1 := by
  by_cases state : s.rxFramedIOState = .endFlag
  · simp only [checkEndFlag, if_pos state]
    split
    · exact settled
    · split
      · exact settle_of_ne_data (by exact nofun)
      · exact settle_of_ne_data (by exact nofun)
  · simpa only [checkEndFlag, if_neg state] using settled

/-- What a pass leaves behind needs no settling. -/
theorem settled_checkAll (s : Rx cap) (data : List UInt8) : Settled (checkAll s data).1 :=
  settled_checkEndFlag (settled_checkChecksum (settled_checkData _ _) _) _

theorem putLoop_of_stuck {s : Rx cap} (stuck : Stuck s) {data : List UInt8} (some : data ≠ [])
    (fuel : Nat) (valid : Bool) : putLoop fuel s data valid = none := by
  induction fuel with
  | zero => rfl
  | succ fuel ih =>
      simpa only [putLoop, checkAll_of_stuck stuck some, if_neg some, Bool.false_or] using ih

/-- The do-while loop of `FramedIO_putRxData` is the byte machine. -/
theorem putLoop_eq_feed {s : Rx cap} (counted : Counted s) {fuel : Nat} {data : List UInt8}
    (enough : data.length < fuel) (valid : Bool) :
    putLoop fuel s data valid = consume s valid data := by
  induction fuel generalizing s data valid with
  | zero => exact absurd enough (Nat.not_lt_zero _)
  | succ fuel ih =>
      by_cases stuck : Stuck s ∧ data ≠ []
      · rw [putLoop_of_stuck stuck.1 stuck.2, consume_of_stuck stuck.1 valid stuck.2]
      · have pass := consume_checkAll counted valid data
        have settled := settled_checkAll s data
        simp only [putLoop]
        by_cases done : (checkAll s data).2.1 = []
        · rw [if_pos done, ← pass, done, consume, settled]
          rfl
        · have some : data ≠ [] := by
            rintro rfl
            exact done (List.eq_nil_of_length_eq_zero
              (Nat.le_zero.mp (checkAll_length_le counted [])))
          have shorter := checkAll_shorter counted (fun h => stuck ⟨h, some⟩) some
          have left : (checkAll s data).2.1.length < fuel :=
            Nat.lt_of_lt_of_le shorter (Nat.le_of_lt_succ enough)
          rw [if_neg done, ih (counted_checkAll counted data) left, pass]

/-- `FramedIO_putRxData` while no frame waits for the rx runnable. -/
theorem putRxData_eq_consume {s : Rx cap} (counted : Counted s) (idle : s.rxDataReady = false)
    {data : List UInt8} (short : data.length < 2 ^ 32) : putRxData s data = consume s false data := by
  rw [putRxData, if_neg (by rw [idle]; exact nofun), if_pos short]
  exact putLoop_eq_feed counted (Nat.lt_succ_self _) false

/-- A call that returns was given an array with fewer than `2^32` bytes. -/
theorem short_of_putRxData {s : Rx cap} (idle : s.rxDataReady = false) {data : List UInt8} {r : Rx cap × Bool}
    (returned : putRxData s data = some r) : data.length < 2 ^ 32 := by
  by_contra long
  rw [putRxData, if_neg (by rw [idle]; exact nofun), if_neg long] at returned
  cases returned

end FramedIO
