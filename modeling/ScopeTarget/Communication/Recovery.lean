import ScopeTarget.Communication.Observer

/-! Whether FramedIO finds back to whole frames after arbitrary bytes. The buffer
is emptied after every call, but the length a frame announces is never compared
with anything: a receiver that is left inside a header or a payload can wait for
a payload that no call ever completes. -/

namespace FramedIO
variable {cap : Nat}

/-- One call, after which the rx runnable runs and the input buffer is emptied. -/
def call (s : Rx cap) (chunk : List UInt8) : Option (Rx cap × Bool) :=
  (putRxData s chunk).map fun r => ({ (runRx r.1).1 with input := .empty }, r.2)

/-- A sequence of calls, and whether one of them returned true. -/
def calls : Rx cap → List (List UInt8) → Option (Rx cap × Bool)
  | s, [] => some (s, false)
  | s, chunk :: chunks =>
      (call s chunk).bind fun r => (calls r.1 chunks).map fun q => (q.1, r.2 || q.2)

/-- Some number of further copies of `f` makes a call return true. -/
def Recovers (s : Rx cap) (f : Frame cap) : Prop :=
  ∃ k after, calls s (List.replicate k f.encode) = some (after, true)

/-- The claim for one piece of garbage: its calls return, and every frame is
accepted again after some repetitions. -/
def RecoversAfter (cap : Nat) (garbage : List (List UInt8)) : Prop :=
  ∀ f : Frame cap, ∃ s returned, calls (createRx : Rx cap) garbage = some (s, returned) ∧ Recovers s f

/-! The fields a frame starts from. -/

/-- What the fields hold that the next frame relies on. -/
def Tidy (s : Rx cap) : Prop :=
  match s.rxFramedIOState with
  | .startFlag => s.rxExpectedLength = 0 ∧ s.rxChecksum = 0 ∧ s.rxChecksumCompare = 0
  | .type => s.rxExpectedLength = 0
  | .length => 256 ^ (4 - s.rxStateByteCount) ∣ s.rxExpectedLength ∧ s.rxExpectedLength < 2 ^ 32
  | .endFlag => s.rxChecksum = 0 ∧ s.rxChecksumCompare = 0
  | _ => True

theorem tidy_createRx : Tidy (createRx : Rx cap) := ⟨rfl, rfl, rfl⟩

theorem resetRx_eq_createRx (s : Rx cap) : resetRx s = createRx := rfl

theorem tidy_settle_data {s : Rx cap} (state : s.rxFramedIOState = .data) : Tidy (settle s) := by
  by_cases complete : s.rxFramedIOState = .data ∧ s.input.used = s.rxExpectedLength
  · rw [settle, if_pos complete]
    exact True.intro
  · rw [settle, if_neg complete]
    simp only [Tidy, state]

theorem tidy_compareChecksum (s : Rx cap) : Tidy (compareChecksum s) := by
  unfold compareChecksum
  split
  · exact ⟨rfl, rfl⟩
  · exact tidy_createRx

/-- A length byte is added below the bytes that are already there. -/
theorem addLengthByte_expected {s : Rx cap} (byte : UInt8)
    (aligned : 256 ^ (4 - s.rxStateByteCount) ∣ s.rxExpectedLength)
    (bound : s.rxExpectedLength < 2 ^ 32) (more : s.rxStateByteCount < 4) :
    (addLengthByte s byte).rxExpectedLength =
      s.rxExpectedLength + byte.toNat * 256 ^ (3 - s.rxStateByteCount) := by
  have small := byte.toNat_lt
  simp only [addLengthByte, lengthOfLengthField]
  generalize s.rxStateByteCount = count at *
  generalize s.rxExpectedLength = expected at *
  obtain ⟨upper, rfl⟩ := aligned
  interval_cases count
  · simp only [Nat.reduceSub, Nat.reducePow, Nat.reduceMul] at *
    omega
  · simp only [Nat.reduceSub, Nat.reducePow, Nat.reduceMul] at *
    omega
  · simp only [Nat.reduceSub, Nat.reducePow, Nat.reduceMul] at *
    omega
  · simp only [Nat.reduceSub, Nat.reducePow, Nat.reduceMul] at *
    omega

theorem tidy_addLengthByte {s : Rx cap} (state : s.rxFramedIOState = .length) (counted : Counted s)
    (tidy : Tidy s) (byte : UInt8) : Tidy (addLengthByte s byte) := by
  simp only [Counted, state, lengthOfLengthField] at counted
  simp only [Tidy, state] at tidy
  have state' : (addLengthByte s byte).rxFramedIOState = .length := state
  have expected := addLengthByte_expected byte tidy.1 tidy.2 counted
  have count : (addLengthByte s byte).rxStateByteCount = s.rxStateByteCount + 1 := rfl
  simp only [Tidy, state', count]
  constructor
  · rw [expected]
    have place : 4 - (s.rxStateByteCount + 1) = 3 - s.rxStateByteCount := by omega
    have finer : 256 ^ (3 - s.rxStateByteCount) ∣ 256 ^ (4 - s.rxStateByteCount) :=
      Nat.pow_dvd_pow 256 (by omega)
    rw [place]
    exact Nat.dvd_add (Nat.dvd_trans finer tidy.1) (Nat.dvd_mul_left _ _)
  · exact Nat.mod_lt _ (by decide)

theorem tidy_byteStep {s : Rx cap} (counted : Counted s) (tidy : Tidy s) {byte : UInt8}
    {r : Rx cap × Bool} (step : byteStep s byte = some r) : Tidy r.1 := by
  cases byteStep_stepped step with
  | starts state =>
      simp only [Tidy, state] at tidy
      exact tidy.1
  | skips => exact tidy
  | readsType state =>
      simp only [Tidy, state] at tidy
      simp only [Tidy, tidy]
      exact ⟨Nat.dvd_zero _, by decide⟩
  | endsLength => exact tidy_settle_data rfl
  | readsLength state => exact tidy_addLengthByte state counted tidy byte
  | stores state => exact tidy_settle_data state
  | endsChecksum => exact tidy_compareChecksum _
  | readsChecksum state => simp only [Tidy, addChecksumByte, state]
  | accepts state =>
      simp only [Tidy, state] at tidy
      exact ⟨rfl, tidy⟩
  | refuses => exact tidy_createRx

theorem tidy_feed {s : Rx cap} (counted : Counted s) (tidy : Tidy s) {valid : Bool}
    {data : List UInt8} {r : Rx cap × Bool} (run : feed s valid data = some r) : Tidy r.1 :=
  (feed_preserves (fun s => Counted s ∧ Tidy s) (fun _ _ _ before step =>
    ⟨counted_byteStep before.1 step, tidy_byteStep before.1 before.2 step⟩) ⟨counted, tidy⟩ run).2

theorem tidy_settle {s : Rx cap} (tidy : Tidy s) : Tidy (settle s) := by
  by_cases state : s.rxFramedIOState = .data
  · exact tidy_settle_data state
  · rw [settle_of_ne_data state]
    exact tidy

/-- The receiver between two calls. -/
structure Between (s : Rx cap) : Prop where
  idle : Idle s
  tidy : Tidy s
  unstored : s.input = .empty

theorem between_createRx : Between (createRx : Rx cap) := ⟨idle_createRx, tidy_createRx, rfl⟩

/-- What a call leaves behind the bytes it was given. -/
def afterCall (s : Rx cap) : Rx cap := { (runRx s).1 with input := .empty }

theorem call_eq {s : Rx cap} (idle : Idle s) {chunk : List UInt8} (short : chunk.length < 2 ^ 32) :
    call s chunk = (consume s false chunk).map fun r => (afterCall r.1, r.2) := by
  rw [call, putRxData_eq_consume idle.1 idle.2 short]
  rfl

/-- A call that returns was given a chunk that the offset covers. -/
theorem short_of_call {s : Rx cap} (idle : Idle s) {chunk : List UInt8} {r : Rx cap × Bool}
    (run : call s chunk = some r) : chunk.length < 2 ^ 32 := by
  obtain ⟨returned, put, -⟩ := Option.map_eq_some_iff.mp run
  exact short_of_putRxData idle.2 put

theorem afterCall_of_idle {s : Rx cap} (idle : s.rxDataReady = false) :
    afterCall s = { s with input := .empty } := by
  simp only [afterCall, runRx, if_pos idle]

theorem afterCall_of_ready {s : Rx cap} (ready : s.rxDataReady = true) :
    afterCall s = { s with rxDataReady := false, rxType := .seNone, input := .empty } := by
  simp only [afterCall, runRx, ready, Bool.true_eq_false, if_false]

theorem between_afterCall {s : Rx cap} (counted : Counted s) (tidy : Tidy s) :
    Between (afterCall s) := by
  cases ready : s.rxDataReady with
  | false =>
      rw [afterCall_of_idle ready]
      exact ⟨⟨counted, ready⟩, tidy, rfl⟩
  | true =>
      rw [afterCall_of_ready ready]
      exact ⟨⟨counted, rfl⟩, tidy, rfl⟩

theorem between_call {s : Rx cap} (between : Between s) {chunk : List UInt8} {r : Rx cap × Bool}
    (run : call s chunk = some r) : Between r.1 := by
  rw [call_eq between.idle (short_of_call between.idle run)] at run
  obtain ⟨fed, consumed, rfl⟩ := Option.map_eq_some_iff.mp run
  have counted := counted_settle between.idle.1
  exact between_afterCall (counted_feed counted consumed)
    (tidy_feed counted (tidy_settle between.tidy) consumed)

theorem between_calls {s : Rx cap} (between : Between s) {chunks : List (List UInt8)}
    {r : Rx cap × Bool} (run : calls s chunks = some r) : Between r.1 := by
  induction chunks generalizing s r with
  | nil =>
      obtain rfl := Option.some.inj run
      exact between
  | cons chunk chunks ih =>
      obtain ⟨next, first, others⟩ := Option.bind_eq_some_iff.mp run
      obtain ⟨last, rest, rfl⟩ := Option.map_eq_some_iff.mp others
      have between' : Between last.1 := ih (between_call between first) rest
      exact between'

/-! Between two frames the next frame is accepted at once. -/

theorem recovers_of_startFlag {s : Rx cap} (between : Between s)
    (state : s.rxFramedIOState = .startFlag) {f : Frame cap} (short : f.encode.length < 2 ^ 32) :
    Recovers s f := by
  obtain ⟨⟨counted', idle⟩, tidy, unstored⟩ := between
  have counted := counted'
  simp only [Counted, state] at counted
  simp only [Tidy, state] at tidy
  have fresh : s = waiting .empty false s.rxType := by
    rcases s with ⟨input, ready, expected, type, count, sum, compare, st⟩
    dsimp only at counted idle tidy unstored state
    obtain ⟨rfl, rfl, rfl⟩ := tidy
    subst counted idle unstored state
    rfl
  have start : settle s = midway .empty false s.rxType f 0 := by
    rw [settle_of_state state (by decide)]
    exact fresh
  have inside : 0 < f.shape.size := by
    simp only [Shape.size, overhead]
    omega
  have ended := feed_midway_end inside false s.rxType false
  have accepted : call s f.encode =
      some (afterCall (waiting (Fifo.empty.write f.payload) true f.type), true) := by
    rw [call_eq ⟨counted', idle⟩ short, consume, start]
    exact congrArg (Option.map _) ended
  refine ⟨1, afterCall (waiting (Fifo.empty.write f.payload) true f.type), ?_⟩
  rw [List.replicate_one, calls, accepted]
  rfl

/-! A receiver that waits for more than a copy of the frame brings. -/

/-- Whatever the call brings, what is stored stays below the announced length. -/
theorem feed_starved {s : Rx cap} (state : s.rxFramedIOState = .data) {data : List UInt8}
    (short : s.input.used + data.length < s.rxExpectedLength ∨ cap < s.rxExpectedLength)
    (valid : Bool) :
    ∃ s', feed s valid data = some (s', valid) ∧ s'.rxFramedIOState = .data ∧
      s'.rxExpectedLength = s.rxExpectedLength ∧ s'.rxDataReady = s.rxDataReady := by
  induction data generalizing s with
  | nil => exact ⟨s, rfl, state, rfl, rfl⟩
  | cons byte rest ih =>
      rw [List.length_cons] at short
      have stored := used_write_singleton s.input byte
      have full := (s.input.write [byte]).used_le
      have wanted : s.input.used < s.rxExpectedLength := by
        have := s.input.used_le
        omega
      have state' : (addDataByte s byte).rxFramedIOState = .data := state
      have short' : (addDataByte s byte).input.used + rest.length <
          (addDataByte s byte).rxExpectedLength ∨ cap < (addDataByte s byte).rxExpectedLength := by
        simp only [addDataByte]
        omega
      have unsettled : settle (addDataByte s byte) = addDataByte s byte :=
        settle_of_used_ne (by simp only [addDataByte] at short' ⊢; omega)
      have step : byteStep s byte = some (addDataByte s byte, false) := by
        simp only [byteStep, state, if_pos wanted, unsettled]
      obtain ⟨s', run, kept⟩ := ih state' short'
      exact ⟨s', by rw [feed_cons step, Bool.false_or, run], kept⟩

/-- At the beginning of a call: the length that is or will be announced exceeds
what a call of `size` bytes brings, or what the buffer can hold. -/
def Trapped (size : Nat) (s : Rx cap) : Prop :=
  match s.rxFramedIOState with
  | .type => True
  | .length => True
  | .data => size < s.rxExpectedLength ∨ cap < s.rxExpectedLength
  | _ => False

/-- Inside a call, with `left` of its bytes still to come. -/
structure Trapping (size left : Nat) (s : Rx cap) : Prop where
  inside : s.rxFramedIOState = .length ∨ s.rxFramedIOState = .data
  long : size < s.rxExpectedLength
  room : s.input.used + left ≤ size

/-- A length byte after which the length is too long already. -/
theorem byteStep_trapping {size left : Nat} {s : Rx cap} (state : s.rxFramedIOState = .length)
    {byte : UInt8} (long : size < (addLengthByte s byte).rxExpectedLength)
    (room : s.input.used + left ≤ size) :
    ∃ s', byteStep s byte = some (s', false) ∧ Trapping size left s' ∧
      s'.rxDataReady = s.rxDataReady := by
  by_cases last : (addLengthByte s byte).rxStateByteCount = lengthOfLengthField
  · refine ⟨{ addLengthByte s byte with rxStateByteCount := 0, rxFramedIOState := .data }, ?_,
      ⟨Or.inr rfl, long, room⟩, rfl⟩
    simp only [byteStep, state, if_pos last]
    rw [settle_of_used_ne]
    simp only [addLengthByte] at long ⊢
    omega
  · refine ⟨addLengthByte s byte, ?_, ⟨Or.inl state, long, room⟩, rfl⟩
    simp only [byteStep, state, if_neg last]

theorem feed_trapping {size : Nat} {s : Rx cap} {data : List UInt8} (counted : Counted s)
    (tidy : Tidy s) (trapping : Trapping size data.length s) (valid : Bool) :
    ∃ s', feed s valid data = some (s', valid) ∧ Trapped size s' ∧
      s'.rxDataReady = s.rxDataReady := by
  induction data generalizing s with
  | nil =>
      refine ⟨s, rfl, ?_, rfl⟩
      rcases trapping.inside with state | state
      · simp only [Trapped, state]
      · simp only [Trapped, state]
        exact Or.inl trapping.long
  | cons byte rest ih =>
      obtain ⟨state | state, long, room⟩ := trapping
      · have counted' := counted
        have tidy' := tidy
        simp only [Counted, state, lengthOfLengthField] at counted'
        simp only [Tidy, state] at tidy'
        have grown := addLengthByte_expected byte tidy'.1 tidy'.2 counted'
        rw [List.length_cons] at room
        obtain ⟨s', step, trapping, ready⟩ := byteStep_trapping state
          (by rw [grown]; omega : size < (addLengthByte s byte).rxExpectedLength)
          (by omega : s.input.used + rest.length ≤ size)
        obtain ⟨last, run, trapped, ready'⟩ :=
          ih (counted_byteStep counted step) (tidy_byteStep counted tidy step) trapping
        refine ⟨last, ?_, trapped, ready'.trans ready⟩
        rw [feed_cons step, Bool.false_or, run]
      · have short : s.input.used + (byte :: rest).length < s.rxExpectedLength := by omega
        obtain ⟨last, run, state', kept, ready⟩ := feed_starved state (Or.inl short) valid
        refine ⟨last, run, ?_, ready⟩
        simp only [Trapped, state', kept]
        exact Or.inl long

/-- A length byte that announces too much is followed by a trap. -/
theorem feed_into_trap {size : Nat} {s : Rx cap} (counted : Counted s) (tidy : Tidy s)
    (state : s.rxFramedIOState = .length) {byte : UInt8} {rest : List UInt8}
    (long : size < (addLengthByte s byte).rxExpectedLength)
    (room : s.input.used + rest.length ≤ size) (valid : Bool) :
    ∃ s', feed s valid (byte :: rest) = some (s', valid) ∧ Trapped size s' ∧
      s'.rxDataReady = s.rxDataReady := by
  obtain ⟨s', step, trapping, ready⟩ := byteStep_trapping state long room
  obtain ⟨last, run, trapped, ready'⟩ := feed_trapping (counted_byteStep counted step)
    (tidy_byteStep counted tidy step) trapping valid
  refine ⟨last, ?_, trapped, ready'.trans ready⟩
  rw [feed_cons step, Bool.false_or, run]

theorem trapped_afterCall {size : Nat} {s : Rx cap} (trapped : Trapped size s)
    (idle : s.rxDataReady = false) : Trapped size (afterCall s) := by
  rw [afterCall_of_idle idle]
  exact trapped

/-- A short frame of a type other than SE_NONE does not free a trapped receiver. -/
theorem call_trapped {f : Frame cap} (short : f.encode.length < startByte.toNat)
    (typed : f.type.code ≠ 0) {s : Rx cap} (between : Between s)
    (trapped : Trapped f.encode.length s) :
    ∃ s', call s f.encode = some (s', false) ∧ Trapped f.encode.length s' := by
  have empty : s.input.used = 0 := by rw [between.unstored, Fifo.used_empty]
  have settled : settle s = s := by
    by_cases state : s.rxFramedIOState = .data
    · simp only [Trapped, state] at trapped
      exact settle_of_used_ne (by omega)
    · exact settle_of_ne_data state
  suffices fed : ∃ s', feed s false f.encode = some (s', false) ∧ Trapped f.encode.length s' ∧
      s'.rxDataReady = s.rxDataReady by
    obtain ⟨s', run, trapped', ready⟩ := fed
    refine ⟨afterCall s', ?_, trapped_afterCall trapped' (ready.trans between.idle.2)⟩
    have bracket : startByte.toNat = 91 := rfl
    rw [call_eq between.idle (by omega), consume, settled, run]
    rfl
  obtain ⟨more, bytes⟩ : ∃ more, f.encode = startByte :: f.type.code :: more := ⟨_, rfl⟩
  have counted := between.idle.1
  have tidy := between.tidy
  cases state : s.rxFramedIOState with
  | startFlag => simp only [Trapped, state] at trapped
  | type =>
      let s₁ : Rx cap := { s with rxType := ⟨startByte⟩, rxFramedIOState := .length }
      have first : byteStep s startByte = some (s₁, false) := by simp only [byteStep, state, s₁]
      have counted₁ : Counted s₁ := counted_byteStep counted first
      have tidy₁ : Tidy s₁ := tidy_byteStep counted tidy first
      have count : s₁.rxStateByteCount = 0 := by simpa only [Counted, state] using counted
      have grown := addLengthByte_expected f.type.code tidy₁.1 tidy₁.2 counted₁
      have one : 1 ≤ f.type.code.toNat :=
        Nat.one_le_iff_ne_zero.mpr fun zero => typed (UInt8.toNat_inj.mp zero)
      have long : f.encode.length < (addLengthByte s₁ f.type.code).rxExpectedLength := by
        rw [grown, count]
        have bracket : startByte.toNat = 91 := rfl
        simp only [Nat.sub_zero, Nat.reducePow]
        omega
      have room : s₁.input.used + more.length ≤ f.encode.length := by
        rw [empty, Nat.zero_add, bytes, List.length_cons, List.length_cons]
        omega
      obtain ⟨last, run, trapped', ready⟩ := feed_into_trap counted₁ tidy₁ rfl long room false
      refine ⟨last, ?_, trapped', ready⟩
      conv => lhs; rw [bytes]
      rw [feed_cons first, Bool.false_or, run]
  | length =>
      have counted' := counted
      have tidy' := tidy
      simp only [Counted, state, lengthOfLengthField] at counted'
      simp only [Tidy, state] at tidy'
      have grown := addLengthByte_expected startByte tidy'.1 tidy'.2 counted'
      have place : 1 ≤ 256 ^ (3 - s.rxStateByteCount) := Nat.one_le_pow _ _ (by decide)
      have long : f.encode.length < (addLengthByte s startByte).rxExpectedLength := by
        rw [grown]
        calc f.encode.length
          _ < startByte.toNat * 1 := by rwa [Nat.mul_one]
          _ ≤ startByte.toNat * 256 ^ (3 - s.rxStateByteCount) := Nat.mul_le_mul_left _ place
          _ ≤ _ := Nat.le_add_left _ _
      have room : s.input.used + (f.type.code :: more).length ≤ f.encode.length := by
        rw [empty, Nat.zero_add, bytes]
        exact Nat.le_succ _
      obtain ⟨last, run, trapped', ready⟩ := feed_into_trap counted tidy state long room false
      refine ⟨last, ?_, trapped', ready⟩
      conv => lhs; rw [bytes]
      exact run
  | data =>
      simp only [Trapped, state] at trapped
      obtain ⟨s', run, state', kept, ready⟩ := feed_starved state
        (by rw [empty, Nat.zero_add]; exact trapped) false
      refine ⟨s', run, ?_, ready⟩
      simp only [Trapped, state', kept]
      exact trapped
  | checksum => simp only [Trapped, state] at trapped
  | endFlag => simp only [Trapped, state] at trapped

theorem not_recovers_of_trapped {f : Frame cap} (short : f.encode.length < startByte.toNat)
    (typed : f.type.code ≠ 0) {s : Rx cap} (between : Between s)
    (trapped : Trapped f.encode.length s) : ¬ Recovers s f := by
  rintro ⟨k, after, run⟩
  induction k generalizing s after with
  | zero => exact nomatch run
  | succ k ih =>
      obtain ⟨s', step, trapped'⟩ := call_trapped short typed between trapped
      rw [List.replicate_succ, calls, step, Option.bind_some] at run
      obtain ⟨last, rest, same⟩ := Option.map_eq_some_iff.mp run
      have returned : last.2 = true := by
        rw [Bool.false_or] at same
        exact (Prod.mk.inj same).2
      have between' : Between s' := between_call between step
      exact ih between' trapped' last.1 (by rw [rest, ← returned])

theorem not_recovers_of_call {f : Frame cap} {s s' : Rx cap}
    (step : call s f.encode = some (s', false)) (lost : ¬ Recovers s' f) : ¬ Recovers s f := by
  rintro ⟨k, after, run⟩
  cases k with
  | zero => exact nomatch run
  | succ k =>
      rw [List.replicate_succ, calls, step, Option.bind_some] at run
      obtain ⟨last, rest, same⟩ := Option.map_eq_some_iff.mp run
      rw [Bool.false_or] at same
      have returned : last.2 = true := (Prod.mk.inj same).2
      exact lost ⟨k, last.1, by rw [rest, ← returned]⟩

/-! A frame made of start flags leads the other states into the trap as well. -/

/-- Type and payload of this frame consist of start flags. -/
def bracketBytes (size : Nat) : List UInt8 :=
  [startByte, startByte] ++ bigEndian lengthOfLengthField size ++ List.replicate size startByte ++
    bigEndian lengthOfChecksumField (size * startByte.toNat) ++ [endByte]

/-- The length that the first four bytes announce. -/
def announced (data : List UInt8) : Nat :=
  (data.getD 0 0).toNat * 2 ^ 24 + (data.getD 1 0).toNat * 2 ^ 16 +
    (data.getD 2 0).toNat * 2 ^ 8 + (data.getD 3 0).toNat

/-- A reader of frames that starts with these bytes ends inside a header or with
an announced length that is more than `size`. -/
def lands (size : Nat) (data : List UInt8) : Bool :=
  match data.dropWhile (· ≠ startByte) with
  | _ :: _ :: rest => rest.length < 4 ∨ size < announced rest ∧ rest.length ≤ size + 4
  | _ => false

theorem feed_skip (valid : Bool) (data : List UInt8) :
    feed (createRx : Rx cap) valid data = feed createRx valid (data.dropWhile (· ≠ startByte)) := by
  induction data with
  | nil => rfl
  | cons byte rest ih =>
      by_cases start : byte = startByte
      · rw [List.dropWhile_cons_of_neg (by simp only [start]; decide)]
      · have step : byteStep (createRx : Rx cap) byte = some (createRx, false) := by
          simp only [byteStep, createRx, if_neg start]
        rw [feed_cons step, Bool.false_or, ih, List.dropWhile_cons_of_pos (by simpa using start)]

theorem feed_lengthField {s : Rx cap} (state : s.rxFramedIOState = .length)
    (count : s.rxStateByteCount = 0) (expected : s.rxExpectedLength = 0) (valid : Bool)
    {data : List UInt8} (enough : 4 ≤ data.length) :
    feed s valid data =
      feed (settle { s with rxFramedIOState := .data, rxExpectedLength := announced data }) valid
        (data.drop 4) := by
  rcases data with _ | ⟨b₀, _ | ⟨b₁, _ | ⟨b₂, _ | ⟨b₃, more⟩⟩⟩⟩
  · exact absurd enough (by decide)
  · exact absurd enough (by simp)
  · exact absurd enough (by simp)
  · exact absurd enough (by simp)
  · have h₀ := b₀.toNat_lt
    have h₁ := b₁.toNat_lt
    have h₂ := b₂.toNat_lt
    have h₃ := b₃.toNat_lt
    rcases s with ⟨input, ready, length, type, read, sum, compare, st⟩
    dsimp only at state count expected
    subst state count expected
    have total : ((((0 + b₀.toNat * 2 ^ 24) % 2 ^ 32 + b₁.toNat * 2 ^ 16) % 2 ^ 32 +
        b₂.toNat * 2 ^ 8) % 2 ^ 32 + b₃.toNat * 2 ^ 0) % 2 ^ 32 =
          announced (b₀ :: b₁ :: b₂ :: b₃ :: more) := by
      simp only [announced, List.getD_cons_zero, List.getD_cons_succ]
      omega
    simp only [feed, byteStep, addLengthByte, lengthOfLengthField, Nat.reduceAdd, Nat.reduceSub,
      Nat.reduceMul, Nat.reduceEqDiff, if_false, if_true, Option.bind_some, Bool.false_or, total,
      List.drop_succ_cons, List.drop_zero]

theorem feed_lengthField_short {s : Rx cap} (state : s.rxFramedIOState = .length)
    {data : List UInt8} (short : s.rxStateByteCount + data.length < 4) (valid : Bool) :
    ∃ s', feed s valid data = some (s', valid) ∧ s'.rxFramedIOState = .length ∧
      s'.rxDataReady = s.rxDataReady := by
  induction data generalizing s with
  | nil => exact ⟨s, rfl, state, rfl⟩
  | cons byte rest ih =>
      rw [List.length_cons] at short
      have partway : (addLengthByte s byte).rxStateByteCount ≠ lengthOfLengthField := by
        simp only [addLengthByte, lengthOfLengthField]
        omega
      have step : byteStep s byte = some (addLengthByte s byte, false) := by
        simp only [byteStep, state, if_neg partway]
      have state' : (addLengthByte s byte).rxFramedIOState = .length := state
      obtain ⟨s', run, kept⟩ := ih state' (by simp only [addLengthByte]; omega)
      exact ⟨s', by rw [feed_cons step, Bool.false_or, run], kept⟩

theorem feed_lands {size : Nat} {data : List UInt8} (landing : lands size data = true)
    (valid : Bool) :
    ∃ s', feed (createRx : Rx cap) valid data = some (s', valid) ∧ Trapped size s' ∧
      s'.rxDataReady = false := by
  have head := List.head?_dropWhile_not (· ≠ startByte) data
  rw [feed_skip]
  simp only [lands] at landing
  generalize data.dropWhile (· ≠ startByte) = found at head landing
  match found with
  | [] => exact nomatch landing
  | [_] => exact nomatch landing
  | start :: type :: rest =>
      obtain rfl : start = startByte := by simpa using head
      let s : Rx cap := { (createRx : Rx cap) with rxType := ⟨type⟩, rxFramedIOState := .length }
      have header : feed (createRx : Rx cap) valid (startByte :: type :: rest) = feed s valid rest := rfl
      rw [header]
      have state : s.rxFramedIOState = .length := rfl
      by_cases short : rest.length < 4
      · obtain ⟨s', run, state', ready⟩ := feed_lengthField_short state
          (by change 0 + rest.length < 4; omega) valid
        exact ⟨s', run, by simp only [Trapped, state'], ready⟩
      · obtain ⟨long, room⟩ : size < announced rest ∧ rest.length ≤ size + 4 := by
          simpa only [decide_eq_true_eq, short, false_or] using landing
        let s' : Rx cap := { s with rxFramedIOState := .data, rxExpectedLength := announced rest }
        have unsettled : settle s' = s' := settle_of_used_ne (by
          change 0 ≠ announced rest
          omega)
        have starved : s'.input.used + (rest.drop 4).length < s'.rxExpectedLength := by
          change 0 + (rest.drop 4).length < announced rest
          rw [List.length_drop]
          omega
        obtain ⟨last, run, state', kept, ready⟩ := feed_starved rfl (Or.inl starved) valid
        refine ⟨last, ?_, ?_, ready⟩
        · rw [feed_lengthField state rfl rfl valid (Nat.not_lt.mp short)]
          exact (congrArg (fun t => feed t valid (rest.drop 4)) unsettled).trans run
        · simp only [Trapped, state', kept]
          exact Or.inl long

theorem feed_endFlag_wrong {s : Rx cap} (state : s.rxFramedIOState = .endFlag) {byte : UInt8}
    (wrong : byte ≠ endByte) (valid : Bool) (rest : List UInt8) :
    feed s valid (byte :: rest) = feed createRx valid rest := by
  have step : byteStep s byte = some (resetRx s, false) := by
    simp only [byteStep, state, if_neg wrong]
  rw [feed_cons step, Bool.false_or, resetRx_eq_createRx]

/-- The second checksum byte drops the frame or leads to its end flag. -/
theorem feed_checksum_second {s : Rx cap} (state : s.rxFramedIOState = .checksum)
    (count : s.rxStateByteCount = 1) (low : UInt8) (valid : Bool) (rest : List UInt8) :
    feed s valid (low :: rest) = feed createRx valid rest ∨
      ∃ s', s'.rxFramedIOState = .endFlag ∧ feed s valid (low :: rest) = feed s' valid rest := by
  have step : byteStep s low = some (compareChecksum (addChecksumByte s low), false) := by
    simp only [byteStep, state, addChecksumByte, count, lengthOfChecksumField, if_true]
  rw [feed_cons step, Bool.false_or]
  unfold compareChecksum
  split
  · exact Or.inr ⟨_, rfl, rfl⟩
  · exact Or.inl rfl

theorem feed_checksum_first {s : Rx cap} (state : s.rxFramedIOState = .checksum)
    (count : s.rxStateByteCount = 0) (high low : UInt8) (valid : Bool) (rest : List UInt8) :
    feed s valid (high :: low :: rest) = feed createRx valid rest ∨
      ∃ s', s'.rxFramedIOState = .endFlag ∧ feed s valid (high :: low :: rest) = feed s' valid rest := by
  have step : byteStep s high = some (addChecksumByte s high, false) := by
    simp only [byteStep, state, addChecksumByte, count, lengthOfChecksumField, Nat.reduceAdd,
      Nat.reduceEqDiff, if_false]
  have state' : (addChecksumByte s high).rxFramedIOState = .checksum := state
  have count' : (addChecksumByte s high).rxStateByteCount = 1 := by
    simp only [addChecksumByte, count]
  rw [feed_cons step, Bool.false_or]
  exact feed_checksum_second state' count' low valid rest

/-- A frame that is dropped at its checksum or at its end flag: the reader starts
over with the byte after the checksum or with the one after that. -/
theorem restart {s : Rx cap} {valid : Bool} {bytes rest : List UInt8} {byte : UInt8}
    (dropped : feed s valid bytes = feed createRx valid (byte :: rest) ∨
      ∃ s', s'.rxFramedIOState = .endFlag ∧ feed s valid bytes = feed s' valid (byte :: rest))
    (wrong : byte ≠ endByte) :
    feed s valid bytes = feed createRx valid (byte :: rest) ∨
      feed s valid bytes = feed createRx valid rest := by
  rcases dropped with now | ⟨s', state, later⟩
  · exact Or.inl now
  · rw [later]
    exact Or.inr (feed_endFlag_wrong state wrong valid rest)

theorem feed_data_complete {s : Rx cap} (state : s.rxFramedIOState = .data)
    (count : s.rxStateByteCount = 0) {data : List UInt8} (nonempty : data ≠ [])
    (complete : s.input.used + data.length = s.rxExpectedLength) (fits : s.rxExpectedLength ≤ cap)
    (valid : Bool) :
    ∃ s', feed s valid data = some (s', valid) ∧ s'.rxFramedIOState = .checksum ∧
      s'.rxStateByteCount = 0 ∧ s'.rxDataReady = s.rxDataReady := by
  induction data generalizing s with
  | nil => exact absurd rfl nonempty
  | cons byte rest ih =>
      rw [List.length_cons] at complete
      have wanted : s.input.used < s.rxExpectedLength := by omega
      have stored : (addDataByte s byte).input.used = s.input.used + 1 :=
        Fifo.used_write_of_fits (by rw [List.length_singleton]; omega)
      have step : byteStep s byte = some (settle (addDataByte s byte), false) := by
        simp only [byteStep, state, if_pos wanted]
      have expected : (addDataByte s byte).rxExpectedLength = s.rxExpectedLength := rfl
      rw [feed_cons step, Bool.false_or]
      cases rest with
      | nil =>
          have done : (addDataByte s byte).rxFramedIOState = .data ∧
              (addDataByte s byte).input.used = (addDataByte s byte).rxExpectedLength := by
            refine ⟨state, ?_⟩
            rw [stored, expected, ← complete, List.length_nil]
          refine ⟨_, rfl, ?_⟩
          rw [settle, if_pos done]
          exact ⟨rfl, count, rfl⟩
      | cons next rest =>
          rw [List.length_cons] at complete
          rw [settle_of_used_ne (by rw [stored, expected]; omega)]
          have kept : (addDataByte s byte).rxDataReady = s.rxDataReady := rfl
          rw [← kept]
          exact ih state count (List.cons_ne_nil _ _) (by rw [stored, expected, List.length_cons]; omega)
            (by rw [expected]; exact fits)

/-- A frame of start flags, short enough for no announced length to be below its own. -/
def bracketFrame {size : Nat} (fits : size ≤ cap) (small : size < 10) : Frame cap where
  type := ⟨startByte⟩
  payload := List.replicate size startByte
  fits := by
    rw [List.length_replicate]
    exact fits
  representable := by
    rw [List.length_replicate]
    omega

theorem encode_bracketFrame {size : Nat} (fits : size ≤ cap) (small : size < 10) :
    (bracketFrame fits small).encode = bracketBytes size := by
  interval_cases size <;> rfl

/-- Wherever the misread payload of `size` bytes and its checksum end in the
frame, what follows leads into the trap. -/
theorem lands_bracketBytes : ∀ size < 10, 1 ≤ size →
    lands (size + 9) ((bracketBytes size).drop (size + 2)) = true ∧
      lands (size + 9) ((bracketBytes size).drop (size + 3)) = true := by
  decide

theorem drop_bracketBytes {size : Nat} (small : size < 10) :
    ∃ high low byte, (bracketBytes size).drop size =
        high :: low :: byte :: (bracketBytes size).drop (size + 3) ∧
      (bracketBytes size).drop (size + 2) = byte :: (bracketBytes size).drop (size + 3) ∧
        byte ≠ endByte := by
  interval_cases size <;> exact ⟨_, _, _, rfl, rfl, by decide⟩

theorem lands_bracketBytes_one :
    lands 10 ((bracketBytes 1).drop 1) = true ∧ lands 10 ((bracketBytes 1).drop 2) = true ∧
      lands 10 ((bracketBytes 1).drop 3) = true := by
  decide

theorem not_recovers_of_lands {s : Rx cap} (between : Between s) {size skipped : Nat} (fits : size ≤ cap)
    (small : size < 10)
    (restart : consume s false (bracketBytes size) =
      feed createRx false ((bracketBytes size).drop skipped))
    (landing : lands (size + 9) ((bracketBytes size).drop skipped) = true) :
    ¬ Recovers s (bracketFrame fits small) := by
  have length : (bracketFrame fits small).encode.length = size + 9 := by
    rw [Frame.length_encode]
    simp only [Shape.size, Frame.shape, bracketFrame, List.length_replicate, overhead]
    omega
  have bracket : startByte.toNat = 91 := rfl
  obtain ⟨s', run, trapped, ready⟩ : ∃ s' : Rx cap, _ := feed_lands landing false
  have step : call s (bracketFrame fits small).encode = some (afterCall s', false) := by
    rw [call_eq between.idle (by omega), encode_bracketFrame, restart, run]
    rfl
  refine not_recovers_of_call step (not_recovers_of_trapped ?_ ?_ (between_call between step) ?_)
  · rw [length, bracket]
    omega
  · have typed : startByte ≠ 0 := by decide
    exact typed
  · rw [length]
    exact trapped_afterCall trapped ready

/-- A frame without payload. -/
def plainFrame : Frame cap := .bare .seNak

/-- Where the receiver must be for every frame to be accepted again. A buffer
without room only ever leads to frames without payload. -/
def Recoverable (s : Rx cap) : Prop :=
  (settle s).rxFramedIOState = .startFlag ∨
    cap = 0 ∧ ((settle s).rxFramedIOState = .checksum ∨ (settle s).rxFramedIOState = .endFlag)

theorem not_recovers_checksum {s : Rx cap} (between : Between s) (room : 1 ≤ cap)
    (state : (settle s).rxFramedIOState = .checksum) :
    ¬ Recovers s (bracketFrame room (by decide)) := by
  have counted := counted_settle between.idle.1
  simp only [Counted, state, lengthOfChecksumField] at counted
  obtain ⟨rest, bytes⟩ : ∃ rest, bracketBytes 1 = startByte :: startByte :: 0 :: rest := ⟨_, rfl⟩
  obtain ⟨one, two, three⟩ := lands_bracketBytes_one
  obtain first | second :
      (settle s).rxStateByteCount = 0 ∨ (settle s).rxStateByteCount = 1 := by omega
  · rcases restart (feed_checksum_first state first startByte startByte false (0 :: rest))
        (by decide) with run | run
    · refine not_recovers_of_lands between room (by decide) ?_ two
      rw [consume, bytes]
      exact run
    · refine not_recovers_of_lands between room (by decide) ?_ three
      rw [consume, bytes]
      exact run
  · rcases restart (feed_checksum_second state second startByte false (startByte :: 0 :: rest))
        (by decide) with run | run
    · refine not_recovers_of_lands between room (by decide) ?_ one
      rw [consume, bytes]
      exact run
    · refine not_recovers_of_lands between room (by decide) ?_ two
      rw [consume, bytes]
      exact run

theorem not_recovers_endFlag {s : Rx cap} (between : Between s) (room : 1 ≤ cap)
    (state : (settle s).rxFramedIOState = .endFlag) :
    ¬ Recovers s (bracketFrame room (by decide)) := by
  have bytes : bracketBytes 1 = startByte :: (bracketBytes 1).drop 1 := rfl
  refine not_recovers_of_lands between room (by decide) ?_ lands_bracketBytes_one.1
  rw [consume]
  conv => lhs; rw [bytes]
  exact feed_endFlag_wrong state (by decide) false _

theorem not_recovers_data {s : Rx cap} (between : Between s) (state : s.rxFramedIOState = .data)
    {size : Nat} (expected : s.rxExpectedLength = size) (some : 1 ≤ size) (small : size < 10)
    (fits : size ≤ cap) : ¬ Recovers s (bracketFrame fits small) := by
  have counted := between.idle.1
  simp only [Counted, state] at counted
  have empty : s.input.used = 0 := by rw [between.unstored, Fifo.used_empty]
  have unsettled : settle s = s := settle_of_used_ne (by omega)
  obtain ⟨after, later⟩ := lands_bracketBytes size small some
  obtain ⟨high, low, byte, split, next, wrong⟩ := drop_bracketBytes small
  have whole : ((bracketBytes size).take size).length = size := by
    interval_cases size <;> rfl
  obtain ⟨s', run, state', count', ready⟩ := feed_data_complete state counted
    (List.ne_nil_of_length_pos (by rw [whole]; exact some))
    (by rw [empty, whole, Nat.zero_add, expected]) (by rw [expected]; exact fits) false
  have stream : consume s false (bracketBytes size) =
      feed s' false ((bracketBytes size).drop size) := by
    rw [consume, unsettled]
    conv => lhs; rw [← List.take_append_drop size (bracketBytes size)]
    exact feed_append_of_run run _
  rw [split] at stream
  rcases restart (feed_checksum_first state' count' high low false _) wrong with run | run
  · refine not_recovers_of_lands between fits small ?_ after
    rw [stream, run, next]
  · refine not_recovers_of_lands between fits small ?_ later
    rw [stream, run]

theorem exists_not_recovers {s : Rx cap} (between : Between s) (lost : ¬ Recoverable s) :
    ∃ f : Frame cap, ¬ Recovers s f := by
  have short : (plainFrame : Frame cap).encode.length < startByte.toNat :=
    (by decide : 9 < startByte.toNat)
  have typed : (plainFrame : Frame cap).type.code ≠ 0 := (by decide : MessageType.seNak.code ≠ 0)
  have trapped : Trapped 9 s → ∃ f : Frame cap, ¬ Recovers s f := fun trapped =>
    ⟨plainFrame, not_recovers_of_trapped short typed between trapped⟩
  simp only [Recoverable, not_or, not_and] at lost
  obtain ⟨started, trailer⟩ := lost
  have room : cap ≠ 0 → 1 ≤ cap := Nat.one_le_iff_ne_zero.mpr
  cases state : s.rxFramedIOState with
  | startFlag =>
      rw [settle_of_state state (by decide)] at started
      exact absurd state started
  | type => exact trapped (by simp only [Trapped, state])
  | length => exact trapped (by simp only [Trapped, state])
  | data =>
      by_cases long : 9 < s.rxExpectedLength ∨ cap < s.rxExpectedLength
      · exact trapped (by simpa only [Trapped, state] using long)
      · rw [not_or, Nat.not_lt, Nat.not_lt] at long
        rcases Nat.eq_zero_or_pos s.rxExpectedLength with none | some
        · have complete : (settle s).rxFramedIOState = .checksum := by
            have empty : s.input.used = 0 := by rw [between.unstored, Fifo.used_empty]
            rw [settle, if_pos ⟨state, by rw [empty, none]⟩]
          have fits := room fun zero => (trailer zero).1 complete
          exact ⟨_, not_recovers_checksum between fits complete⟩
        · exact ⟨_, not_recovers_data between state rfl some (by omega) long.2⟩
  | checksum =>
      have here : (settle s).rxFramedIOState = .checksum := by
        rw [settle_of_state state (by decide), state]
      exact ⟨_, not_recovers_checksum between (room fun zero => (trailer zero).1 here) here⟩
  | endFlag =>
      have here : (settle s).rxFramedIOState = .endFlag := by
        rw [settle_of_state state (by decide), state]
      exact ⟨_, not_recovers_endFlag between (room fun zero => (trailer zero).2 here) here⟩

/-! A buffer without room: the frames have no payload, and a trailer that is
awaited takes at most its own three bytes from the next frame. -/

theorem feed_startFlag {s : Rx cap} (state : s.rxFramedIOState = .startFlag) {data : List UInt8}
    (none : startByte ∉ data) (valid : Bool) : feed s valid data = some (s, valid) := by
  induction data with
  | nil => rfl
  | cons byte rest ih =>
      rw [List.mem_cons, not_or] at none
      have step : byteStep s byte = some (s, false) := by
        simp only [byteStep, state, if_neg (Ne.symm none.1)]
      rw [feed_cons step, Bool.false_or, ih none.2]

theorem encode_of_no_room (f : Frame 0) :
    f.encode = startByte :: f.type.code :: [0, 0, 0, 0, 0, 0, endByte] := by
  have payload : f.payload = [] := List.eq_nil_of_length_eq_zero (Nat.le_zero.mp f.fits)
  rw [Frame.encode, Frame.header, Frame.trailer, payload]
  rfl

/-- The call either returns true or leaves the receiver between two frames. -/
def Restarts (s : Rx 0) (valid : Bool) (data : List UInt8) : Prop :=
  ∃ s' returned, feed s valid data = some (s', returned) ∧
    (returned = true ∨ s'.rxFramedIOState = .startFlag)

theorem restarts_zeros (s : Rx 0) (state : s.rxFramedIOState = .startFlag) (valid : Bool) (zeros : Nat) :
    Restarts s valid (List.replicate zeros 0 ++ [endByte]) := by
  refine ⟨s, valid, feed_startFlag state ?_ valid, Or.inr state⟩
  rw [List.mem_append, not_or]
  exact ⟨fun member => absurd (List.eq_of_mem_replicate member) (by decide), by decide⟩

/-- Starting over with all but the start flag of the frame, or with less of it. -/
theorem restarts_suffix (type : UInt8) (valid : Bool) :
    Restarts createRx valid (type :: [0, 0, 0, 0, 0, 0, endByte]) := by
  by_cases start : type = startByte
  · subst start
    exact ⟨createRx, valid, rfl, Or.inr rfl⟩
  · have step : byteStep (createRx : Rx 0) type = some (createRx, false) := by
      simp only [byteStep, createRx, if_neg start]
    obtain ⟨s', returned, run, done⟩ := restarts_zeros createRx rfl valid 6
    exact ⟨s', returned, by rw [feed_cons step, Bool.false_or]; exact run, done⟩

theorem restarts_endFlag {s : Rx 0} (state : s.rxFramedIOState = .endFlag) (valid : Bool)
    (type : UInt8) : Restarts s valid (type :: [0, 0, 0, 0, 0, 0, endByte]) := by
  by_cases last : type = endByte
  · have step : byteStep s type = some (acceptFrame s, true) := by
      simp only [byteStep, state, if_pos last]
    obtain ⟨s', returned, run, done⟩ := restarts_zeros (acceptFrame s) rfl true 6
    exact ⟨s', returned, by rw [feed_cons step, Bool.true_or]; exact run, done⟩
  · obtain ⟨s', returned, run, done⟩ := restarts_zeros createRx rfl valid 6
    exact ⟨s', returned, by rw [feed_endFlag_wrong state last]; exact run, done⟩

theorem restarts_trailer {s : Rx 0} (counted : Counted s)
    (trailer : s.rxFramedIOState = .checksum ∨ s.rxFramedIOState = .endFlag) (type : UInt8) :
    Restarts s false (startByte :: type :: [0, 0, 0, 0, 0, 0, endByte]) := by
  rcases trailer with state | state
  · simp only [Counted, state, lengthOfChecksumField] at counted
    obtain first | second : s.rxStateByteCount = 0 ∨ s.rxStateByteCount = 1 := by omega
    · rcases feed_checksum_first state first startByte type false [0, 0, 0, 0, 0, 0, endByte] with
        run | ⟨s', state', run⟩
      · obtain ⟨last, returned, run', done⟩ := restarts_zeros createRx rfl false 6
        exact ⟨last, returned, run.trans run', done⟩
      · obtain ⟨last, returned, run', done⟩ := restarts_zeros createRx rfl false 5
        refine ⟨last, returned, run.trans ?_, done⟩
        rw [feed_endFlag_wrong state' (by decide)]
        exact run'
    · rcases feed_checksum_second state second startByte false
        (type :: [0, 0, 0, 0, 0, 0, endByte]) with run | ⟨s', state', run⟩
      · obtain ⟨last, returned, run', done⟩ := restarts_suffix type false
        exact ⟨last, returned, run.trans run', done⟩
      · obtain ⟨last, returned, run', done⟩ := restarts_endFlag state' false type
        exact ⟨last, returned, run.trans run', done⟩
  · obtain ⟨last, returned, run, done⟩ := restarts_suffix type false
    refine ⟨last, returned, ?_, done⟩
    rw [feed_endFlag_wrong state (by decide)]
    exact run

theorem recovers_succ {f : Frame cap} {s s' : Rx cap} (step : call s f.encode = some (s', false))
    (later : Recovers s' f) : Recovers s f := by
  obtain ⟨k, after, run⟩ := later
  refine ⟨k + 1, after, ?_⟩
  rw [List.replicate_succ, calls, step, Option.bind_some, run]
  rfl

theorem startFlag_of_settle {s : Rx cap} (state : (settle s).rxFramedIOState = .startFlag) :
    s.rxFramedIOState = .startFlag := by
  by_cases complete : s.rxFramedIOState = .data ∧ s.input.used = s.rxExpectedLength
  · rw [settle, if_pos complete] at state
    cases state
  · rwa [settle, if_neg complete] at state

theorem recovers_of_recoverable {s : Rx cap} (between : Between s) (recoverable : Recoverable s)
    {f : Frame cap} (short : f.encode.length < 2 ^ 32) : Recovers s f := by
  rcases recoverable with state | ⟨rfl, trailer⟩
  · exact recovers_of_startFlag between (startFlag_of_settle state) short
  · obtain ⟨s', returned, run, done⟩ :=
      restarts_trailer (counted_settle between.idle.1) trailer f.type.code
    have step : call s f.encode = some (afterCall s', returned) := by
      rw [call_eq between.idle short, consume, encode_of_no_room, run]
      rfl
    cases returned with
    | true =>
        refine ⟨1, afterCall s', ?_⟩
        rw [List.replicate_one, calls, step]
        rfl
    | false =>
        have state : s'.rxFramedIOState = .startFlag := by simpa using done
        have state' : (afterCall s').rxFramedIOState = .startFlag := by
          cases ready : s'.rxDataReady with
          | false => rwa [afterCall_of_idle ready]
          | true => rwa [afterCall_of_ready ready]
        exact recovers_succ step (recovers_of_startFlag (between_call between step) state' short)

/-- The frame whose bytes the offset into a chunk just fails to cover. -/
def longFrame (room : 2 ^ 32 ≤ cap + overhead) : Frame cap where
  type := .seNak
  payload := List.replicate (2 ^ 32 - overhead) 0
  fits := by
    rw [List.length_replicate]
    exact Nat.sub_le_of_le_add room
  representable := by
    rw [List.length_replicate]
    decide

/-- No call with this frame ever returns. -/
theorem not_recovers_longFrame {s : Rx cap} (between : Between s) (room : 2 ^ 32 ≤ cap + overhead) :
    ¬ Recovers s (longFrame room) := by
  rintro ⟨k, after, run⟩
  cases k with
  | zero => exact nomatch run
  | succ k =>
      obtain ⟨next, first, -⟩ := Option.bind_eq_some_iff.mp run
      have short := short_of_call between.idle first
      have long : (longFrame room).shape.length = 2 ^ 32 - overhead := List.length_replicate
      rw [Frame.length_encode, Shape.size, long] at short
      exact absurd short (by decide)

/-- After which garbage every frame is accepted again: its calls return, the
last of them leaves no frame begun, and one call covers the largest frame. -/
theorem recovery (garbage : List (List UInt8)) :
    RecoversAfter cap garbage ↔
      (∃ s returned, calls (createRx : Rx cap) garbage = some (s, returned) ∧ Recoverable s) ∧
        cap + overhead < 2 ^ 32 := by
  constructor
  · intro every
    obtain ⟨s, returned, run, -⟩ := every plainFrame
    have between : Between s := between_calls between_createRx run
    have recovers : ∀ f : Frame cap, Recovers s f := by
      intro f
      obtain ⟨s', returned', run', recovers⟩ := every f
      obtain ⟨rfl, -⟩ := Prod.mk.inj (Option.some.inj (run.symm.trans run'))
      exact recovers
    refine ⟨⟨s, returned, run, ?_⟩, ?_⟩
    · by_contra lost
      obtain ⟨f, never⟩ := exists_not_recovers between lost
      exact never (recovers f)
    · by_contra room
      exact not_recovers_longFrame between (Nat.not_lt.mp room) (recovers _)
  · rintro ⟨⟨s, returned, run, recoverable⟩, room⟩ f
    have between : Between s := between_calls between_createRx run
    have fits := f.fits
    have short : f.encode.length < 2 ^ 32 := by
      rw [Frame.length_encode]
      simp only [Shape.size, Frame.shape]
      omega
    exact ⟨s, returned, run, recovers_of_recoverable between recoverable short⟩

/-- After one stray start flag no copy of a plain frame is ever accepted. -/
theorem recovery_fails : ¬ ∀ garbage : List (List UInt8), RecoversAfter 1 garbage := by
  intro every
  obtain ⟨s, returned, run, recovers⟩ := every [[startByte]] plainFrame
  have stray : calls (createRx : Rx 1) [[startByte]] =
      some ({ (createRx : Rx 1) with rxFramedIOState := .type }, false) := rfl
  obtain ⟨rfl, -⟩ := Prod.mk.inj (Option.some.inj (stray.symm.trans run))
  exact not_recovers_of_trapped (by decide) (by decide) (between_calls between_createRx stray)
    True.intro recovers

end FramedIO
