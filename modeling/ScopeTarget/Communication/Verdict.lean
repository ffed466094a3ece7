import ScopeTarget.Communication.PutLoop
import ScopeTarget.Communication.Recovery

/-! What an array says to the receiver, frame by frame. The byte machine reads
the fields of a frame across calls; here each field is taken from the array in
one piece, and a verdict says how the frame ends and what follows it. -/

namespace FramedIO
variable {cap : Nat}

/-- What the rx runnable would hand over now: the type field and what is stored. -/
structure Held where
  type : MessageType
  contents : List UInt8
  deriving DecidableEq

/-- How the frame ends that the receiver is reading, or reads next. -/
inductive Verdict
  /-- The array ends first. -/
  | unfinished (held : Held)
  /-- The frame announces less than is stored, and there are bytes after its header. -/
  | blocked
  /-- Its checksum or its end flag is wrong. -/
  | refused (rest : List UInt8)
  | accepted (held : Held) (rest : List UInt8)
  deriving DecidableEq

/-- Most significant byte first. -/
def numberOf : List UInt8 → Nat
  | [] => 0
  | byte :: rest => byte.toNat * 256 ^ rest.length + numberOf rest

def readEnd (held : Held) : List UInt8 → Verdict
  | [] => .unfinished held
  | byte :: rest => if byte = endByte then .accepted held rest else .refused rest

/-- `missing` bytes of the checksum are still to come, the others amount to `value`. -/
def readSum (held : Held) (sum value missing : Nat) (data : List UInt8) : Verdict :=
  if data.length < missing then .unfinished held
  else if (value + numberOf (data.take missing)) % 2 ^ 16 = sum then readEnd held (data.drop missing)
  else .refused (data.drop missing)

/-- What is stored already counts as payload. A payload that does not fit is never complete. -/
def readPayload (cap : Nat) (held : Held) (length sum : Nat) (data : List UInt8) : Verdict :=
  if length < held.contents.length ∧ data ≠ [] then .blocked
  else
    let missing := length - held.contents.length
    let stored := { held with contents := (held.contents ++ data.take missing).take cap }
    if data.length < missing ∨ cap < length then .unfinished stored
    else readSum stored ((sum + byteSum (data.take missing)) % 2 ^ 16) 0 lengthOfChecksumField
      (data.drop missing)

/-- `missing` bytes of the length field are still to come, the others amount to `value`. -/
def readAnnounced (cap : Nat) (held : Held) (value missing : Nat) (data : List UInt8) : Verdict :=
  if data.length < missing then .unfinished held
  else readPayload cap held ((value + numberOf (data.take missing)) % 2 ^ 32) 0 (data.drop missing)

def readType (cap : Nat) (held : Held) : List UInt8 → Verdict
  | [] => .unfinished held
  | byte :: rest => readAnnounced cap { held with type := ⟨byte⟩ } 0 lengthOfLengthField rest

def readFrame (cap : Nat) (held : Held) (data : List UInt8) : Verdict :=
  match data.dropWhile (· ≠ startByte) with
  | [] => .unfinished held
  | _ :: rest => readType cap held rest

def held (s : Rx cap) : Held := ⟨s.rxType, s.input.contents⟩

/-- The verdict on an array that continues what the receiver has read. -/
def verdict (s : Rx cap) (data : List UInt8) : Verdict :=
  match s.rxFramedIOState with
  | .startFlag => readFrame cap (held s) data
  | .type => readType cap (held s) data
  | .length =>
      readAnnounced cap (held s) s.rxExpectedLength (lengthOfLengthField - s.rxStateByteCount) data
  | .data => readPayload cap (held s) s.rxExpectedLength s.rxChecksum data
  | .checksum =>
      readSum (held s) s.rxChecksum s.rxChecksumCompare
        (lengthOfChecksumField - s.rxStateByteCount) data
  | .endFlag => readEnd (held s) data

/-- What the fields hold that have not been read yet. -/
def Clean (s : Rx cap) : Prop :=
  match s.rxFramedIOState with
  | .startFlag => s.rxExpectedLength = 0 ∧ s.rxChecksum = 0 ∧ s.rxChecksumCompare = 0
  | .type => s.rxExpectedLength = 0 ∧ s.rxChecksum = 0 ∧ s.rxChecksumCompare = 0
  | .length => s.rxChecksum = 0 ∧ s.rxChecksumCompare = 0
  | .data => s.rxChecksum < 2 ^ 16 ∧ s.rxChecksumCompare = 0
  | .checksum => True
  | .endFlag => s.rxChecksum = 0 ∧ s.rxChecksumCompare = 0

theorem clean_createRx : Clean (createRx : Rx cap) := ⟨rfl, rfl, rfl⟩

theorem clean_settle {s : Rx cap} (clean : Clean s) : Clean (settle s) := by
  by_cases complete : s.rxFramedIOState = .data ∧ s.input.used = s.rxExpectedLength
  · rw [settle, if_pos complete]
    exact True.intro
  · rwa [settle, if_neg complete]

theorem clean_compareChecksum (s : Rx cap) : Clean (compareChecksum s) := by
  unfold compareChecksum
  split
  · exact ⟨rfl, rfl⟩
  · exact clean_createRx

theorem clean_byteStep {s : Rx cap} (clean : Clean s) {byte : UInt8} {r : Rx cap × Bool}
    (step : byteStep s byte = some r) : Clean r.1 := by
  cases byteStep_stepped step with
  | starts state =>
      simp only [Clean, state] at clean
      exact clean
  | skips => exact clean
  | readsType state =>
      simp only [Clean, state] at clean
      exact clean.2
  | endsLength state =>
      simp only [Clean, state] at clean
      refine clean_settle ⟨?_, clean.2⟩
      change s.rxChecksum < 2 ^ 16
      rw [clean.1]
      decide
  | readsLength state =>
      simp only [Clean, state] at clean
      simpa only [Clean, addLengthByte, state] using clean
  | stores state =>
      simp only [Clean, state] at clean
      refine clean_settle ?_
      simp only [Clean, addDataByte, state]
      exact ⟨Nat.mod_lt _ (by decide), clean.2⟩
  | endsChecksum => exact clean_compareChecksum _
  | readsChecksum state => simp only [Clean, addChecksumByte, state]
  | accepts state =>
      simp only [Clean, state] at clean
      exact ⟨rfl, clean⟩
  | refuses => exact clean_createRx

theorem settled_byteStep {s : Rx cap} (settled : Settled s) {byte : UInt8} {r : Rx cap × Bool}
    (step : byteStep s byte = some r) : Settled r.1 := by
  cases byteStep_stepped step with
  | starts => exact settle_of_ne_data (by exact nofun)
  | skips => exact settled
  | readsType => exact settle_of_ne_data (by exact nofun)
  | endsLength => exact settle_settle _
  | readsLength state =>
      have state' : (addLengthByte s byte).rxFramedIOState = .length := state
      exact settle_of_state state' (by decide)
  | stores => exact settle_settle _
  | endsChecksum => exact settled_compareChecksum _
  | readsChecksum state =>
      have state' : (addChecksumByte s byte).rxFramedIOState = .checksum := state
      exact settle_of_state state' (by decide)
  | accepts => exact settle_of_ne_data (by exact nofun)
  | refuses => exact settle_of_ne_data (by exact nofun)

/-! One byte takes the verdict on the bytes from it on to that on the bytes after it. -/

theorem readPayload_nil (input : Fifo cap UInt8) (type : MessageType) (length sum : Nat) :
    readPayload cap ⟨type, input.contents⟩ length sum [] = .unfinished ⟨type, input.contents⟩ := by
  have stored : (input.contents ++ []).take cap = input.contents := by
    rw [List.append_nil, List.take_of_length_le input.bounded]
  simp only [readPayload, ne_eq, not_true_eq_false, and_false, if_false, List.take_nil, stored]
  split
  · rfl
  · rw [readSum, if_pos (by simp only [List.drop_nil, List.length_nil]; decide)]

theorem verdict_nil {s : Rx cap} (counted : Counted s) : verdict s [] = .unfinished (held s) := by
  cases state : s.rxFramedIOState with
  | startFlag => simp only [verdict, state, readFrame, List.dropWhile_nil]
  | type => simp only [verdict, state, readType]
  | length =>
      simp only [Counted, state] at counted
      simp only [verdict, state, readAnnounced, List.length_nil, Nat.sub_pos_of_lt counted, if_true]
  | data =>
      simp only [verdict, state]
      exact readPayload_nil s.input s.rxType s.rxExpectedLength s.rxChecksum
  | checksum =>
      simp only [Counted, state] at counted
      simp only [verdict, state, readSum, List.length_nil, Nat.sub_pos_of_lt counted, if_true]
  | endFlag => simp only [verdict, state, readEnd]

theorem verdict_settle {s : Rx cap} (counted : Counted s) (clean : Clean s) (data : List UInt8) :
    verdict (settle s) data = verdict s data := by
  by_cases complete : s.rxFramedIOState = .data ∧ s.input.used = s.rxExpectedLength
  · obtain ⟨state, used⟩ := complete
    simp only [Counted, state] at counted
    simp only [Clean, state] at clean
    have stored : (s.input.contents ++ []).take cap = s.input.contents := by
      rw [List.append_nil, List.take_of_length_le s.input.bounded]
    have length : (held s).contents.length = s.rxExpectedLength := used
    have fits : ¬ cap < s.rxExpectedLength := by
      rw [← used]
      exact Nat.not_lt.mpr s.input.used_le
    have payload : readPayload cap (held s) s.rxExpectedLength s.rxChecksum data =
        readSum (held s) s.rxChecksum 0 lengthOfChecksumField data := by
      simp only [readPayload, length, Nat.lt_irrefl, false_and, if_false, Nat.sub_self,
        Nat.not_lt_zero, fits, or_self, List.take_zero, List.drop_zero, byteSum, List.map_nil,
        List.sum_nil, Nat.add_zero, Nat.mod_eq_of_lt clean.1]
      simp only [held, stored]
    rw [settle, if_pos ⟨state, used⟩]
    simp only [verdict, state, clean.2, counted, Nat.sub_zero]
    exact payload.symm
  · rw [settle, if_neg complete]

theorem readFrame_skip (held : Held) {byte : UInt8} (other : byte ≠ startByte) (rest : List UInt8) :
    readFrame cap held (byte :: rest) = readFrame cap held rest := by
  rw [readFrame, List.dropWhile_cons_of_pos (by simpa using other)]
  rfl

theorem readFrame_start (held : Held) (rest : List UInt8) :
    readFrame cap held (startByte :: rest) = readType cap held rest := by
  rw [readFrame, List.dropWhile_cons_of_neg (by simp)]

theorem numberOf_cons_take (byte : UInt8) {rest : List UInt8} {missing : Nat}
    (enough : missing ≤ rest.length) :
    numberOf ((byte :: rest).take (missing + 1)) =
      byte.toNat * 256 ^ missing + numberOf (rest.take missing) := by
  rw [List.take_succ_cons, numberOf, List.length_take_of_le enough]

theorem readAnnounced_cons (held : Held) (value missing : Nat) (byte : UInt8) (rest : List UInt8) :
    readAnnounced cap held value (missing + 1) (byte :: rest) =
      readAnnounced cap held ((value + byte.toNat * 256 ^ missing) % 2 ^ 32) missing rest := by
  by_cases short : rest.length < missing
  · rw [readAnnounced, readAnnounced, if_pos short, if_pos (by rw [List.length_cons]; omega)]
  · have number := numberOf_cons_take byte (Nat.not_lt.mp short)
    rw [readAnnounced, readAnnounced, if_neg short, if_neg (by rw [List.length_cons]; omega), number,
      Nat.mod_add_mod, ← Nat.add_assoc, List.drop_succ_cons]

theorem readSum_cons (held : Held) (sum value missing : Nat) (byte : UInt8) (rest : List UInt8) :
    readSum held sum value (missing + 1) (byte :: rest) =
      readSum held sum ((value + byte.toNat * 256 ^ missing) % 2 ^ 16) missing rest := by
  by_cases short : rest.length < missing
  · rw [readSum, readSum, if_pos short, if_pos (by rw [List.length_cons]; omega)]
  · have number := numberOf_cons_take byte (Nat.not_lt.mp short)
    rw [readSum, readSum, if_neg short, if_neg (by rw [List.length_cons]; omega), number,
      Nat.mod_add_mod, ← Nat.add_assoc, List.drop_succ_cons]

theorem pow_field (count : Nat) : 2 ^ (count * 8) = 256 ^ count := by
  rw [Nat.mul_comm, Nat.pow_mul]

theorem readPayload_cons (input : Fifo cap UInt8) (type : MessageType) {length : Nat} (sum : Nat)
    (byte : UInt8) (rest : List UInt8) (missing : input.used < length) :
    readPayload cap ⟨type, input.contents⟩ length sum (byte :: rest) =
      readPayload cap ⟨type, (input.write [byte]).contents⟩ length ((sum + byte.toNat) % 2 ^ 16)
        rest := by
  have free : ∀ data : List UInt8, ¬ (length < input.contents.length ∧ data ≠ []) :=
    fun _ both => Nat.lt_asymm both.1 missing
  by_cases room : input.used + 1 ≤ cap
  · have written : (input.write [byte]).contents = input.contents ++ [byte] :=
      Fifo.contents_write_of_fits room
    have free' : ¬ (length < (input.contents ++ [byte]).length ∧ rest ≠ []) := by
      rw [List.length_append]
      exact fun both => Nat.not_lt.mpr missing both.1
    obtain ⟨more, before⟩ : ∃ more, length - input.contents.length = more + 1 :=
      ⟨length - input.contents.length - 1, by rw [← Fifo.used_eq_length]; omega⟩
    have after : length - (input.contents ++ [byte]).length = more := by
      rw [List.length_append, List.length_singleton]
      omega
    have sums : byteSum (byte :: rest.take more) = byte.toNat + byteSum (rest.take more) := rfl
    simp only [readPayload, written, if_neg (free _), if_neg free', before, after,
      List.take_succ_cons, List.drop_succ_cons, List.length_cons, Nat.add_lt_add_iff_right,
      List.append_assoc, List.singleton_append, sums, Nat.mod_add_mod, ← Nat.add_assoc]
  · have full : input.used = cap := Nat.le_antisymm input.used_le (by omega)
    have written : (input.write [byte]).contents = input.contents := by
      rw [Fifo.write_of_overflow (by simpa using room)]
    have long : cap < length := full ▸ missing
    simp only [readPayload, written, if_neg (free _), long, or_true, if_true,
      Fifo.take_contents full]

/-- What a byte does, and how the verdict changes with it. -/
inductive Tells (s : Rx cap) (byte : UInt8) (rest : List UInt8) : Prop
  | continues (s' : Rx cap) (step : byteStep s byte = some (s', false))
      (ready : s'.rxDataReady = s.rxDataReady) (same : verdict s (byte :: rest) = verdict s' rest)
  | blocks (step : byteStep s byte = none) (now : verdict s (byte :: rest) = .blocked)
  | refuses (step : byteStep s byte = some (createRx, false))
      (now : verdict s (byte :: rest) = .refused rest)
  | accepts (input : Fifo cap UInt8) (type : MessageType)
      (step : byteStep s byte = some (waiting input true type, true))
      (now : verdict s (byte :: rest) = .accepted ⟨type, input.contents⟩ rest)

section Fields
variable {s : Rx cap} (byte : UInt8) (rest : List UInt8)

theorem tells_startFlag (state : s.rxFramedIOState = .startFlag) : Tells s byte rest := by
  by_cases start : byte = startByte
  · subst start
    refine .continues { s with rxFramedIOState := .type } ?_ rfl ?_
    · simp only [byteStep, state, if_true]
    · simp only [verdict, state]
      exact readFrame_start (held s) rest
  · refine .continues s ?_ rfl ?_
    · simp only [byteStep, state, if_neg start]
    · simp only [verdict, state]
      exact readFrame_skip (held s) start rest

theorem tells_type (state : s.rxFramedIOState = .type) (counted : Counted s) (clean : Clean s) :
    Tells s byte rest := by
  simp only [Counted, state] at counted
  simp only [Clean, state] at clean
  refine .continues { s with rxType := ⟨byte⟩, rxFramedIOState := .length } ?_ rfl ?_
  · simp only [byteStep, state]
  · simp only [verdict, state, readType, clean.1, counted, Nat.sub_zero]
    rfl

theorem tells_length (state : s.rxFramedIOState = .length) (counted : Counted s) (clean : Clean s) :
    Tells s byte rest := by
  simp only [Counted, state] at counted
  simp only [Clean, state] at clean
  have missing : lengthOfLengthField - s.rxStateByteCount =
      lengthOfLengthField - s.rxStateByteCount - 1 + 1 := by omega
  have now : verdict s (byte :: rest) =
      readAnnounced cap (held s) (addLengthByte s byte).rxExpectedLength
        (lengthOfLengthField - s.rxStateByteCount - 1) rest := by
    simp only [verdict, state, addLengthByte, pow_field]
    rw [missing, readAnnounced_cons]
    rfl
  by_cases last : (addLengthByte s byte).rxStateByteCount = lengthOfLengthField
  · let t : Rx cap := { addLengthByte s byte with rxStateByteCount := 0, rxFramedIOState := .data }
    have none_ : lengthOfLengthField - s.rxStateByteCount - 1 = 0 := by
      simp only [addLengthByte] at last
      omega
    have bound : (addLengthByte s byte).rxExpectedLength % 2 ^ 32 =
        (addLengthByte s byte).rxExpectedLength := Nat.mod_mod _ _
    have clean' : Clean t := by
      refine ⟨?_, clean.2⟩
      change s.rxChecksum < 2 ^ 16
      rw [clean.1]
      decide
    have counted' : Counted t := rfl
    have payload : verdict t rest =
        readPayload cap (held s) (addLengthByte s byte).rxExpectedLength s.rxChecksum rest := rfl
    refine .continues (settle t) ?_ ?_ ?_
    · simp only [byteStep, state, if_pos last]
      rfl
    · unfold settle
      split
      · rfl
      · rfl
    · rw [now, verdict_settle counted' clean', payload, none_, readAnnounced, if_neg (Nat.not_lt_zero _),
        List.take_zero, List.drop_zero, numberOf, Nat.add_zero, bound, clean.1]
  · refine .continues (addLengthByte s byte) ?_ rfl ?_
    · simp only [byteStep, state, if_neg last]
    · have state' : (addLengthByte s byte).rxFramedIOState = .length := state
      rw [now]
      simp only [verdict, state']
      rfl

theorem tells_data (state : s.rxFramedIOState = .data) (counted : Counted s) (clean : Clean s)
    (settled : Settled s) : Tells s byte rest := by
  by_cases missing : s.input.used < s.rxExpectedLength
  · have counted' : Counted (addDataByte s byte) := by
      simpa only [Counted, addDataByte, state] using counted
    have clean' : Clean (addDataByte s byte) := by
      simp only [Clean, state] at clean
      simp only [Clean, addDataByte, state]
      exact ⟨Nat.mod_lt _ (by decide), clean.2⟩
    have state' : (addDataByte s byte).rxFramedIOState = .data := state
    refine .continues (settle (addDataByte s byte)) ?_ ?_ ?_
    · simp only [byteStep, state, if_pos missing]
    · unfold settle
      split
      · rfl
      · rfl
    · rw [verdict_settle counted' clean']
      simp only [verdict, state, state']
      exact readPayload_cons s.input s.rxType s.rxChecksum byte rest missing
  · have differs : s.input.used ≠ s.rxExpectedLength := by
      intro complete
      have now : settle s = s := settled
      rw [settle, if_pos ⟨state, complete⟩] at now
      rw [← now] at state
      cases state
    have beyond : s.rxExpectedLength < s.input.contents.length := by
      rw [← Fifo.used_eq_length]
      omega
    refine .blocks ?_ ?_
    · simp only [byteStep, state, if_neg missing]
    · simp only [verdict, state, readPayload]
      exact if_pos ⟨beyond, List.cons_ne_nil _ _⟩

theorem tells_checksum (state : s.rxFramedIOState = .checksum) (counted : Counted s) :
    Tells s byte rest := by
  simp only [Counted, state] at counted
  have missing : lengthOfChecksumField - s.rxStateByteCount =
      lengthOfChecksumField - s.rxStateByteCount - 1 + 1 := by omega
  have now : verdict s (byte :: rest) =
      readSum (held s) s.rxChecksum (addChecksumByte s byte).rxChecksumCompare
        (lengthOfChecksumField - s.rxStateByteCount - 1) rest := by
    simp only [verdict, state, addChecksumByte, pow_field]
    rw [missing, readSum_cons]
    rfl
  by_cases last : (addChecksumByte s byte).rxStateByteCount = lengthOfChecksumField
  · have none_ : lengthOfChecksumField - s.rxStateByteCount - 1 = 0 := by
      simp only [addChecksumByte] at last
      omega
    have bound : (addChecksumByte s byte).rxChecksumCompare % 2 ^ 16 =
        (addChecksumByte s byte).rxChecksumCompare := Nat.mod_mod _ _
    have step : byteStep s byte = some (compareChecksum (addChecksumByte s byte), false) := by
      simp only [byteStep, state, if_pos last]
    rw [none_, readSum, if_neg (Nat.not_lt_zero _), List.take_zero, List.drop_zero, numberOf,
      Nat.add_zero, bound] at now
    have sum : (addChecksumByte s byte).rxChecksum = s.rxChecksum := rfl
    by_cases same : (addChecksumByte s byte).rxChecksumCompare = s.rxChecksum
    · rw [compareChecksum, sum, if_pos same] at step
      refine .continues _ step rfl ?_
      rw [now, if_pos same]
      rfl
    · rw [compareChecksum, sum, if_neg same, resetRx_eq_createRx] at step
      exact .refuses step (by rw [now, if_neg same])
  · refine .continues (addChecksumByte s byte) ?_ rfl ?_
    · simp only [byteStep, state, if_neg last]
    · have state' : (addChecksumByte s byte).rxFramedIOState = .checksum := state
      rw [now]
      simp only [verdict, state']
      rfl

theorem tells_endFlag (state : s.rxFramedIOState = .endFlag) (counted : Counted s) (clean : Clean s) :
    Tells s byte rest := by
  simp only [Counted, state] at counted
  simp only [Clean, state] at clean
  by_cases last : byte = endByte
  · have accepted : acceptFrame s = waiting s.input true s.rxType := by
      simp only [acceptFrame, waiting, createRx, counted, clean]
    refine .accepts s.input s.rxType ?_ ?_
    · simp only [byteStep, state, if_pos last, accepted]
    · simp only [verdict, state, readEnd, if_pos last, held]
  · refine .refuses ?_ ?_
    · simp only [byteStep, state, if_neg last, resetRx_eq_createRx]
    · simp only [verdict, state, readEnd, if_neg last]

end Fields

/-- A receiver that the next byte finds ready for it. -/
structure Proper (s : Rx cap) : Prop where
  counted : Counted s
  clean : Clean s
  settled : Settled s

theorem proper_byteStep {s : Rx cap} (proper : Proper s) {byte : UInt8} {r : Rx cap × Bool}
    (step : byteStep s byte = some r) : Proper r.1 where
  counted := counted_byteStep proper.counted step
  clean := clean_byteStep proper.clean step
  settled := settled_byteStep proper.settled step

theorem proper_feed {s : Rx cap} (proper : Proper s) {valid : Bool} {data : List UInt8}
    {r : Rx cap × Bool} (run : feed s valid data = some r) : Proper r.1 :=
  feed_preserves Proper (fun _ _ _ before step => proper_byteStep before step) proper run

theorem proper_waiting (input : Fifo cap UInt8) (ready : Bool) (type : MessageType) :
    Proper (waiting input ready type) where
  counted := rfl
  clean := ⟨rfl, rfl, rfl⟩
  settled := settle_of_ne_data nofun

theorem proper_createRx : Proper (createRx : Rx cap) := proper_waiting .empty false .seNone

theorem tells {s : Rx cap} (proper : Proper s) (byte : UInt8) (rest : List UInt8) :
    Tells s byte rest := by
  obtain ⟨counted, clean, settled⟩ := proper
  cases state : s.rxFramedIOState with
  | startFlag => exact tells_startFlag byte rest state
  | type => exact tells_type byte rest state counted clean
  | length => exact tells_length byte rest state counted clean
  | data => exact tells_data byte rest state counted clean settled
  | checksum => exact tells_checksum byte rest state counted
  | endFlag => exact tells_endFlag byte rest state counted clean

/-- What the machine does with an array on which this is the verdict. -/
inductive Judged (s : Rx cap) (valid : Bool) (data : List UInt8) : Verdict → Prop
  | unfinished {s' : Rx cap} (run : feed s valid data = some (s', valid))
      (ready : s'.rxDataReady = s.rxDataReady) : Judged s valid data (.unfinished (held s'))
  | blocked (run : feed s valid data = none) : Judged s valid data .blocked
  | refused {rest : List UInt8} (shorter : rest.length < data.length)
      (run : feed s valid data = feed createRx valid rest) : Judged s valid data (.refused rest)
  | accepted {input : Fifo cap UInt8} {type : MessageType} {rest : List UInt8}
      (shorter : rest.length < data.length)
      (run : feed s valid data = feed (waiting input true type) true rest) :
      Judged s valid data (.accepted ⟨type, input.contents⟩ rest)

/-- The byte machine does what the verdict says. -/
theorem judged {s : Rx cap} (proper : Proper s) (valid : Bool) (data : List UInt8) :
    Judged s valid data (verdict s data) := by
  induction data generalizing s with
  | nil =>
      rw [verdict_nil proper.counted]
      exact .unfinished rfl rfl
  | cons byte rest ih =>
      cases tells proper byte rest with
      | continues s' step ready same =>
          have fed := feed_cons step valid rest
          have later := ih (proper_byteStep proper step)
          rw [Bool.false_or] at fed
          rw [same]
          generalize verdict _ rest = told at later
          cases later with
          | unfinished run ready' => exact .unfinished (fed.trans run) (ready'.trans ready)
          | blocked run => exact .blocked (fed.trans run)
          | refused shorter run => exact .refused (Nat.lt_succ_of_lt shorter) (fed.trans run)
          | accepted shorter run => exact .accepted (Nat.lt_succ_of_lt shorter) (fed.trans run)
      | blocks step now =>
          rw [now]
          exact .blocked (by rw [feed, step, Option.bind_none])
      | refuses step now =>
          rw [now]
          exact .refused (Nat.lt_succ_self _) (feed_cons step valid rest)
      | accepts input type step now =>
          rw [now]
          exact .accepted (Nat.lt_succ_self _) (by rw [feed_cons step, Bool.true_or])

end FramedIO
