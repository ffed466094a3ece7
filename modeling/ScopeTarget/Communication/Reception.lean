import ScopeTarget.Communication.Verdict
import ScopeTarget.Communication.Wire

/-! What a call of `FramedIO_putRxData` does, in terms of the frames in its array:
when it returns at all, that it does not matter how the bytes are cut into calls,
and which frames it accepts. The receiver may have been left in any state. -/

namespace FramedIO
variable {cap : Nat}

theorem Reached.clean {s : Rx cap} (reached : Reached s) : Clean s :=
  (reached.invariant Clean clean_createRx (fun _ => clean_settle)
    (fun _ _ _ before step => clean_byteStep before step) (fun _ _ _ _ before => before)).2

/-- No frame that the array goes on with announces less than is stored by then,
unless the array ends with its header. -/
inductive Passes (cap : Nat) : Verdict → Prop
  | unfinished (held : Held) : Passes cap (.unfinished held)
  | refused {rest : List UInt8} (later : Passes cap (readFrame cap ⟨.seNone, []⟩ rest)) :
      Passes cap (.refused rest)
  | accepted {held : Held} {rest : List UInt8} (later : Passes cap (readFrame cap held rest)) :
      Passes cap (.accepted held rest)

theorem feed_returns_iff {s : Rx cap} (proper : Proper s) (valid : Bool) (data : List UInt8) :
    (∃ r, feed s valid data = some r) ↔ Passes cap (verdict s data) := by
  induction size : data.length using Nat.strongRecOn generalizing s valid data with
  | ind n ih =>
      have told := judged proper valid data
      generalize verdict s data = ending at told
      cases told with
      | unfinished run => exact iff_of_true ⟨_, run⟩ (.unfinished _)
      | blocked run =>
          refine iff_of_false ?_ (by exact nofun)
          rintro ⟨r, run'⟩
          rw [run] at run'
          cases run'
      | @refused rest shorter run =>
          have later := ih rest.length (size ▸ shorter) proper_createRx valid rest rfl
          rw [run, later]
          exact ⟨.refused, fun | .refused passes => passes⟩
      | @accepted input type rest shorter run =>
          have later := ih rest.length (size ▸ shorter) (proper_waiting input true type) true rest rfl
          rw [run, later]
          exact ⟨.accepted, fun | .accepted passes => passes⟩

theorem Reached.proper {s : Rx cap} (reached : Reached s) : Proper (settle s) where
  counted := counted_settle reached.counted
  clean := clean_settle reached.clean
  settled := settle_settle s

section Call
variable {s : Rx cap}

/-- A call on a receiver whose last frame has been handed over. -/
theorem returns_eq (reached : Reached s) (idle : s.rxDataReady = false) (data : List UInt8)
    (r : Rx cap × Bool) :
    Returns s data r ↔ data.length < 2 ^ 32 ∧ feed (settle s) false data = some r := by
  rw [returns_iff reached.counted]
  constructor
  · intro returned
    have short := short_of_putRxData idle returned
    rw [putRxData_eq_consume reached.counted idle short] at returned
    exact ⟨short, returned⟩
  · rintro ⟨short, run⟩
    rw [putRxData_eq_consume reached.counted idle short]
    exact run

theorem exists_returns_iff (reached : Reached s) (idle : s.rxDataReady = false) (data : List UInt8) :
    (∃ r, Returns s data r) ↔ data.length < 2 ^ 32 ∧ Passes cap (verdict s data) := by
  simp only [returns_eq reached idle, exists_and_left, feed_returns_iff reached.proper,
    verdict_settle reached.counted reached.clean]

/-- When a call ends: the last frame still waits to be handed over, or the array is
short enough for its offsets and none of its frames blocks the receiver. -/
theorem receiver_terminates (reached : Reached s) (data : List UInt8) :
    Terminates s data ↔
      s.rxDataReady = true ∨ data.length < 2 ^ 32 ∧ Passes cap (verdict s data) := by
  rw [terminates_iff reached.counted]
  cases idle : s.rxDataReady with
  | true =>
      refine iff_of_true ⟨(s, false), ?_⟩ (Or.inl rfl)
      simp only [Returns, idle, if_true]
  | false =>
      simp only [Bool.false_eq_true, false_or]
      exact exists_returns_iff reached idle data

/-- A frame with a payload of two bytes, and behind it one with a payload of one byte. -/
def longThenShort : List UInt8 :=
  frameBytes .evAnnounce [1, 2] ++ frameBytes .evAnnounce [1]

theorem receiver_hangs : ¬ ∀ s : Rx 4, Reached s → ∀ data, Terminates s data := by
  intro every
  have returns := every createRx .create longThenShort
  rw [terminates_iff counted_createRx] at returns
  obtain ⟨r, returned⟩ := returns
  have never : putRxData (createRx : Rx 4) longThenShort = none := by decide
  have run := (returns_iff counted_createRx longThenShort r).mp returned
  rw [never] at run
  cases run

theorem receiver_terminates_two_frames :
    Terminates (createRx : Rx 4) longThenShort ↔ (createRx : Rx 4).rxDataReady = true ∨
      longThenShort.length < 2 ^ 32 ∧ Passes 4 (verdict (createRx : Rx 4) longThenShort) :=
  receiver_terminates .create longThenShort

/-! Two calls and one call with the same bytes. -/

/-- Calls with `a` and then `b` do what one call with both does, where the first of
the two leaves `s₁` behind and returns `r₁`. -/
structure LikeOneCall (s s₁ : Rx cap) (r₁ : Bool) (a b : List UInt8) : Prop where
  returns : (∃ r, Returns s₁ b r) ↔ ∃ r, Returns s (a ++ b) r
  same : ∀ s₂ r₂ s' r', Returns s₁ b (s₂, r₂) → Returns s (a ++ b) (s', r') →
    s' = s₂ ∧ (r' = true ↔ r₁ = true ∨ r₂ = true)

/-- The byte machine in `s₁` goes on as in `s` after `a`. -/
theorem feed_second {s₁ : Rx cap} {r₁ : Bool} {a : List UInt8}
    (first : feed (settle s) false a = some (s₁, r₁)) (b : List UInt8) :
    feed (settle s) false (a ++ b) =
      (feed s₁ false b).map fun r => (r.1, r.2 || r₁) := by
  rw [feed_append_of_run first, feed_valid]

theorem idle_of_returns {s₁ : Rx cap} {r₁ : Bool} {a : List UInt8} (first : Returns s a (s₁, r₁))
    (idle : s₁.rxDataReady = false) : s.rxDataReady = false := by
  by_contra busy
  have ready : s.rxDataReady = true := by simpa using busy
  simp only [Returns, ready, if_true, Prod.mk.injEq] at first
  rw [first.1] at idle
  exact busy idle

/-- Two calls are like one exactly where the one call returns as well, or where
neither does. -/
theorem chunking (reached : Reached s) {s₁ : Rx cap} {r₁ : Bool} {a : List UInt8}
    (first : Returns s a (s₁, r₁)) (idle₁ : s₁.rxDataReady = false) (b : List UInt8) :
    LikeOneCall s s₁ r₁ a b ↔
      (a ++ b).length < 2 ^ 32 ∨ 2 ^ 32 ≤ b.length ∨ ¬ Passes cap (verdict s (a ++ b)) := by
  have idle := idle_of_returns first idle₁
  have reached₁ : Reached s₁ := reached.put first
  have one : ∀ r, Returns s (a ++ b) r ↔ _ := returns_eq reached idle (a ++ b)
  have second : ∀ r, Returns s₁ b r ↔ _ := returns_eq reached₁ idle₁ b
  obtain ⟨-, run⟩ := (returns_eq reached idle a _).mp first
  have settled : settle s₁ = s₁ := (proper_feed reached.proper run).settled
  rw [settled] at second
  have both := feed_second run b
  have passes : (∃ r, feed s₁ false b = some r) ↔ Passes cap (verdict s (a ++ b)) := by
    rw [← verdict_settle reached.counted reached.clean, ← feed_returns_iff reached.proper false, both]
    simp only [Option.map_eq_some_iff, Prod.exists]
    constructor
    · rintro ⟨s₂, r₂, fed⟩
      exact ⟨_, _, s₂, r₂, fed, rfl⟩
    · rintro ⟨_, _, s₂, r₂, fed, -⟩
      exact ⟨s₂, r₂, fed⟩
  have oneReturns := exists_returns_iff reached idle (a ++ b)
  have secondReturns : (∃ r, Returns s₁ b r) ↔
      b.length < 2 ^ 32 ∧ Passes cap (verdict s (a ++ b)) := by
    simp only [second, exists_and_left, passes]
  have longer : b.length ≤ (a ++ b).length := by
    rw [List.length_append]
    exact Nat.le_add_left _ _
  constructor
  · intro alike
    have same := alike.returns
    rw [oneReturns, secondReturns] at same
    by_cases passing : Passes cap (verdict s (a ++ b))
    · by_cases short : b.length < 2 ^ 32
      · exact Or.inl (same.mp ⟨short, passing⟩).1
      · exact Or.inr (Or.inl (Nat.not_lt.mp short))
    · exact Or.inr (Or.inr passing)
  · intro condition
    refine ⟨?_, ?_⟩
    · rw [oneReturns, secondReturns]
      constructor
      · rintro ⟨short, passing⟩
        rcases condition with whole | long | blocked
        · exact ⟨whole, passing⟩
        · exact absurd short (Nat.not_lt.mpr long)
        · exact absurd passing blocked
      · rintro ⟨whole, passing⟩
        exact ⟨Nat.lt_of_le_of_lt longer whole, passing⟩
    · intro s₂ r₂ s' r' returns₂ returns'
      have fed := ((second _).mp returns₂).2
      have fed' := ((one _).mp returns').2
      rw [both, fed, Option.map_some] at fed'
      obtain ⟨rfl, rfl⟩ := Prod.mk.inj (Option.some.inj fed')
      exact ⟨rfl, by rw [Bool.or_eq_true, or_comm]⟩

end Call

/-- The state after the start flag of a frame. -/
def begun : Rx cap := { (createRx : Rx cap) with rxFramedIOState := .type }

theorem returns_begun : Returns (createRx : Rx cap) [startByte] (begun, false) :=
  (returns_iff counted_createRx _ _).mpr rfl

/-- A frame cut behind its start flag. -/
theorem chunking_begun : LikeOneCall (createRx : Rx 4) begun false [startByte] [1, 0, 0] ↔
    ([startByte] ++ [(1 : UInt8), 0, 0]).length < 2 ^ 32 ∨ 2 ^ 32 ≤ [(1 : UInt8), 0, 0].length ∨
      ¬ Passes 4 (verdict (createRx : Rx 4) ([startByte] ++ [1, 0, 0])) :=
  chunking .create returns_begun rfl [1, 0, 0]

theorem feed_zeros (n : Nat) :
    feed (settle createRx) false (List.replicate n 0) = some ((createRx : Rx cap), false) :=
  feed_startFlag rfl (fun member => absurd (List.eq_of_mem_replicate member) (by decide)) false

/-- Two arrays that a call can go through, and that it cannot go through together. -/
theorem chunking_fails : ¬ ∀ s : Rx 4, Reached s → ∀ (s₁ : Rx 4) (r₁ : Bool) (a b : List UInt8),
    Returns s a (s₁, r₁) → s₁.rxDataReady = false → LikeOneCall s s₁ r₁ a b := by
  intro every
  have half : (List.replicate (2 ^ 31) (0 : UInt8)).length < 2 ^ 32 := by
    rw [List.length_replicate]
    decide
  have whole : ¬ (List.replicate (2 ^ 31) (0 : UInt8) ++ List.replicate (2 ^ 31) 0).length < 2 ^ 32 := by
    rw [List.length_append, List.length_replicate]
    decide
  have first : Returns (createRx : Rx 4) (List.replicate (2 ^ 31) 0) (createRx, false) :=
    (returns_eq .create rfl _ _).mpr ⟨half, feed_zeros _⟩
  have alike := every createRx .create createRx false _ (List.replicate (2 ^ 31) 0) first rfl
  obtain ⟨r, returned⟩ := alike.returns.mp ⟨_, first⟩
  exact whole ((returns_eq .create rfl _ r).mp returned).1

/-! One frame, with any bytes in place of its checksum and end flag. -/

theorem numberOf_lengthField {n : Nat} (representable : n < 2 ^ 32) :
    numberOf (bigEndian lengthOfLengthField n) = n := by
  have bytes : bigEndian lengthOfLengthField n = [UInt8.ofNat (n / 256 ^ 3), UInt8.ofNat (n / 256 ^ 2),
      UInt8.ofNat (n / 256 ^ 1), UInt8.ofNat (n / 256 ^ 0)] := rfl
  simp only [bytes, numberOf, List.length_cons, List.length_nil, UInt8.toNat_ofNat', Nat.reduceAdd,
    Nat.reducePow, Nat.div_one] at representable ⊢
  omega

theorem numberOf_pair (c₁ c₂ : UInt8) : numberOf [c₁, c₂] = 256 * c₁.toNat + c₂.toNat := by
  simp only [numberOf, List.length_cons, List.length_nil]
  omega

theorem numberOf_checksum (n : Nat) : numberOf (bigEndian lengthOfChecksumField (n % 2 ^ 16)) = n % 2 ^ 16 := by
  have bytes : bigEndian lengthOfChecksumField (n % 2 ^ 16) =
      [UInt8.ofNat (n % 2 ^ 16 / 256 ^ 1), UInt8.ofNat (n % 2 ^ 16 / 256 ^ 0)] := rfl
  rw [bytes, numberOf_pair]
  simp only [UInt8.toNat_ofNat', Nat.reducePow, Nat.div_one]
  omega

theorem readFrame_skips (held : Held) {garbage : List UInt8} (none : startByte ∉ garbage)
    (rest : List UInt8) : readFrame cap held (garbage ++ rest) = readFrame cap held rest := by
  induction garbage with
  | nil => rfl
  | cons byte garbage ih =>
      rw [List.mem_cons, not_or] at none
      rw [List.cons_append, readFrame_skip held (Ne.symm none.1), ih none.2]

/-- The bytes of a frame up to its payload, then two bytes in place of the checksum. -/
def framed (type : MessageType) (payload : List UInt8) (c₁ c₂ : UInt8) (rest : List UInt8) :
    List UInt8 :=
  startByte :: type.code :: (bigEndian lengthOfLengthField payload.length ++
    (payload ++ c₁ :: c₂ :: rest))

/-- The verdict on a frame at the beginning of an array, if nothing is stored. -/
theorem readFrame_framed (before : MessageType) (type : MessageType) {payload : List UInt8}
    (fits : payload.length ≤ cap) (representable : payload.length < 2 ^ 32) (c₁ c₂ : UInt8)
    (rest : List UInt8) :
    readFrame cap ⟨before, []⟩ (framed type payload c₁ c₂ rest) =
      if 256 * c₁.toNat + c₂.toNat = byteSum payload % 2 ^ 16 then readEnd ⟨type, payload⟩ rest
      else .refused rest := by
  have field : (bigEndian lengthOfLengthField payload.length).length = lengthOfLengthField := rfl
  have announced : (0 + numberOf (bigEndian lengthOfLengthField payload.length)) % 2 ^ 32 =
      payload.length := by
    rw [numberOf_lengthField representable, Nat.zero_add, Nat.mod_eq_of_lt representable]
  have sum : (0 + numberOf [c₁, c₂]) % 2 ^ 16 = 256 * c₁.toNat + c₂.toNat := by
    have h₁ := c₁.toNat_lt
    have h₂ := c₂.toNat_lt
    rw [numberOf_pair]
    omega
  have enough : ¬ (payload ++ c₁ :: c₂ :: rest).length < payload.length := by
    rw [List.length_append]
    omega
  rw [framed, readFrame_start, readType, readAnnounced, List.take_left' field, List.drop_left' field,
    announced, if_neg (by rw [List.length_append, field]; omega)]
  simp only [readPayload, List.length_nil, Nat.not_lt_zero, false_and, if_false, Nat.sub_zero,
    List.nil_append, List.take_left, List.drop_left, enough, Nat.not_lt.mpr fits, or_self,
    List.take_of_length_le fits, Nat.zero_add]
  have two : ¬ (c₁ :: c₂ :: rest).length < lengthOfChecksumField := by
    simp only [List.length_cons, lengthOfChecksumField]
    omega
  have taken : (c₁ :: c₂ :: rest).take lengthOfChecksumField = [c₁, c₂] := rfl
  have dropped : (c₁ :: c₂ :: rest).drop lengthOfChecksumField = rest := rfl
  rw [readSum, if_neg two, taken, dropped, sum]

/-- Whether the last three bytes are right for this payload. -/
def WellFormed (payload : List UInt8) (c₁ c₂ e : UInt8) : Prop :=
  256 * c₁.toNat + c₂.toNat = byteSum payload % 65536 ∧ e = endByte

/-- The call returns true where the frame is well formed, and hands it over then;
if it returns false the receiver is new again. -/
structure AcceptsExactly (s : Rx cap) (garbage : List UInt8) (type : MessageType)
    (payload : List UInt8) (c₁ c₂ e : UInt8) : Prop where
  accepts : (∃ s', Returns s (garbage ++ framed type payload c₁ c₂ [e]) (s', true)) ↔
    WellFormed payload c₁ c₂ e
  hands : ∀ s', Returns s (garbage ++ framed type payload c₁ c₂ [e]) (s', true) →
    s'.rxType = type ∧ s'.input.contents = payload
  resets : ∀ s', Returns s (garbage ++ framed type payload c₁ c₂ [e]) (s', false) →
    e ≠ startByte → s' = createRx

/-- Between two frames, with nothing that waits for the consumer. -/
structure IdleEmpty (s : Rx cap) : Prop where
  state : s.rxFramedIOState = .startFlag
  idle : s.rxDataReady = false
  empty : s.input = .empty

theorem IdleEmpty.eq_waiting {s : Rx cap} (fresh : IdleEmpty s) (reached : Reached s) :
    s = waiting .empty false s.rxType := by
  have counted := reached.counted
  have clean := reached.clean
  obtain ⟨state, idle, empty⟩ := fresh
  simp only [Counted, state] at counted
  simp only [Clean, state] at clean
  rcases s with ⟨input, ready, expected, type, count, sum, compare, st⟩
  dsimp only at counted clean state idle empty
  obtain ⟨rfl, rfl, rfl⟩ := clean
  subst counted state idle empty
  rfl

section Acceptance
variable (before type : MessageType) {garbage payload : List UInt8} (none_ : startByte ∉ garbage)
  (fits : payload.length ≤ cap) (representable : payload.length < 2 ^ 32) (c₁ c₂ e : UInt8)

theorem feed_last (cap : Nat) (e : UInt8) (valid : Bool) :
    ∃ s' : Rx cap, feed createRx valid [e] = some (s', valid) ∧ (e ≠ startByte → s' = createRx) := by
  by_cases start : e = startByte
  · exact ⟨begun, by rw [start]; rfl, fun other => absurd start other⟩
  · exact ⟨createRx, feed_startFlag rfl (by simpa using Ne.symm start) valid, fun _ => rfl⟩

include none_ fits representable in
/-- The three ways a frame can end. -/
theorem feed_framed : ∃ (s' : Rx cap) (returned : Bool),
    feed (waiting .empty false before) false (garbage ++ framed type payload c₁ c₂ [e]) =
      some (s', returned) ∧ (returned = true ↔ WellFormed payload c₁ c₂ e) ∧
      (returned = true → s'.rxType = type ∧ s'.input.contents = payload) ∧
      (returned = false → e ≠ startByte → s' = createRx) := by
  have told := judged (proper_waiting (.empty : Fifo cap UInt8) false before) false
    (garbage ++ framed type payload c₁ c₂ [e])
  have ending : verdict (waiting (.empty : Fifo cap UInt8) false before)
      (garbage ++ framed type payload c₁ c₂ [e]) =
        if 256 * c₁.toNat + c₂.toNat = byteSum payload % 2 ^ 16 then readEnd ⟨type, payload⟩ [e]
        else .refused [e] :=
    (readFrame_skips ⟨before, []⟩ none_ _).trans
      (readFrame_framed before type fits representable c₁ c₂ [e])
  rw [ending] at told
  by_cases sum : 256 * c₁.toNat + c₂.toNat = byteSum payload % 2 ^ 16
  · rw [if_pos sum, readEnd] at told
    by_cases last : e = endByte
    · rw [if_pos last] at told
      generalize held_ : (⟨type, payload⟩ : Held) = handed at told
      cases told with
      | @accepted input type' _ _ run =>
          obtain ⟨rfl, rfl⟩ := Held.mk.inj held_
          exact ⟨_, true, run, iff_of_true rfl ⟨sum, last⟩, fun _ => ⟨rfl, rfl⟩,
            fun wrong => absurd wrong.symm Bool.false_ne_true⟩
    · rw [if_neg last] at told
      cases told with
      | refused _ run =>
          exact ⟨_, false, run, iff_of_false Bool.false_ne_true fun formed => last formed.2,
            fun wrong => absurd wrong Bool.false_ne_true, fun _ _ => rfl⟩
  · rw [if_neg sum] at told
    cases told with
    | refused _ run =>
        obtain ⟨s', after, reset⟩ := feed_last cap e false
        exact ⟨s', false, run.trans after, iff_of_false Bool.false_ne_true fun formed => sum formed.1,
          fun wrong => absurd wrong Bool.false_ne_true, fun _ => reset⟩

end Acceptance

/-- Which arrays with one frame are accepted as they should be: all that are short
enough for their offsets, and those whose frame is not to be accepted. -/
theorem accepts_exactly {s : Rx cap} (reached : Reached s) (fresh : IdleEmpty s)
    {garbage : List UInt8} (none : startByte ∉ garbage) (type : MessageType) {payload : List UInt8}
    (fits : payload.length ≤ cap) (c₁ c₂ e : UInt8) :
    AcceptsExactly s garbage type payload c₁ c₂ e ↔
      (garbage ++ framed type payload c₁ c₂ [e]).length < 2 ^ 32 ∨ ¬ WellFormed payload c₁ c₂ e := by
  have returns : ∀ r, Returns s (garbage ++ framed type payload c₁ c₂ [e]) r ↔ _ :=
    returns_eq reached fresh.idle _
  by_cases short : (garbage ++ framed type payload c₁ c₂ [e]).length < 2 ^ 32
  · have representable : payload.length < 2 ^ 32 := by
      simp only [framed, List.length_append, List.length_cons] at short
      omega
    have same : settle s = waiting .empty false s.rxType := by
      rw [settle_of_state fresh.state (by decide)]
      exact fresh.eq_waiting reached
    obtain ⟨s', returned, run, accepts, hands, resets⟩ := feed_framed s.rxType type none fits
      representable c₁ c₂ e
    have only : ∀ r, Returns s (garbage ++ framed type payload c₁ c₂ [e]) r ↔ r = (s', returned) := by
      intro r
      rw [returns, same, run, Option.some.injEq, eq_comm]
      exact and_iff_right short
    refine iff_of_true ?_ (Or.inl short)
    refine ⟨?_, ?_, ?_⟩
    · rw [← accepts]
      constructor
      · rintro ⟨_, call⟩
        exact (Prod.mk.inj ((only _).mp call)).2.symm
      · rintro rfl
        exact ⟨s', (only _).mpr rfl⟩
    · intro _ call
      obtain ⟨rfl, now⟩ := Prod.mk.inj ((only _).mp call)
      exact hands now.symm
    · intro _ call
      obtain ⟨rfl, now⟩ := Prod.mk.inj ((only _).mp call)
      exact resets now.symm
  · have never : ∀ r, ¬ Returns s (garbage ++ framed type payload c₁ c₂ [e]) r := fun r call =>
      short ((returns r).mp call).1
    constructor
    · intro exact_
      refine Or.inr fun formed => ?_
      obtain ⟨s', call⟩ := exact_.accepts.mpr formed
      exact never _ call
    · rintro (short' | malformed)
      · exact absurd short' short
      · refine ⟨iff_of_false ?_ malformed, fun _ call => absurd call (never _),
          fun _ call => absurd call (never _)⟩
        rintro ⟨s', call⟩
        exact never _ call

theorem idleEmpty_createRx : IdleEmpty (createRx : Rx cap) := ⟨rfl, rfl, rfl⟩

theorem accepts_two_bytes :
    AcceptsExactly (createRx : Rx 4) [0] .evAnnounce [1, 2] 0 3 endByte ↔
      ([0] ++ framed .evAnnounce [1, 2] 0 3 [endByte]).length < 2 ^ 32 ∨
        ¬ WellFormed [1, 2] 0 3 endByte :=
  accepts_exactly .create idleEmpty_createRx (by decide) .evAnnounce (by decide) 0 3 endByte

/-- A frame behind so many other bytes that the call never returns. -/
theorem accepts_fails : ¬ ∀ s : Rx 4, Reached s → IdleEmpty s → ∀ garbage : List UInt8,
    startByte ∉ garbage → ∀ (type : MessageType) (payload : List UInt8), payload.length ≤ 4 →
      ∀ c₁ c₂ e, AcceptsExactly s garbage type payload c₁ c₂ e := by
  intro every
  have none : startByte ∉ List.replicate (2 ^ 32) (0 : UInt8) := fun member =>
    absurd (List.eq_of_mem_replicate member) (by decide)
  have exact_ := every createRx .create idleEmpty_createRx _ none .evAnnounce [] (by decide) 0 0 endByte
  obtain ⟨s', call⟩ := exact_.accepts.mpr ⟨rfl, rfl⟩
  have short := ((returns_eq .create rfl _ _).mp call).1
  rw [List.length_append, List.length_replicate] at short
  omega

/-! What comes behind an accepted frame in the same call. -/

/-- Whatever comes behind the frame, a call that returns leaves the frame pending:
the next rx runnable notifies of its type, and its payload is what is stored first. -/
def Undisturbed (s : Rx cap) (type : MessageType) (payload behind : List UInt8) : Prop :=
  ∀ s' returned, Returns s (frameBytes type payload ++ behind) (s', returned) →
    s'.rxDataReady = true ∧ (runRx s').2 = some type ∧ payload <+: (runRx s').1.input.contents

/-- What follows leaves a frame of this type and with this payload pending, where
`pending` says whether one is at first. Whatever blocks the receiver is no matter. -/
inductive Keeps (cap : Nat) (type : MessageType) (payload : List UInt8) : Bool → Verdict → Prop
  | blocked (pending : Bool) : Keeps cap type payload pending .blocked
  | unfinished {held : Held} (typed : held.type = type) (stored : payload <+: held.contents) :
      Keeps cap type payload true (.unfinished held)
  | refused (pending : Bool) {rest : List UInt8}
      (later : Keeps cap type payload false (readFrame cap ⟨.seNone, []⟩ rest)) :
      Keeps cap type payload pending (.refused rest)
  | accepted (pending : Bool) {held : Held} {rest : List UInt8}
      (later : Keeps cap type payload true (readFrame cap held rest)) :
      Keeps cap type payload pending (.accepted held rest)

/-- The frame is pending. -/
def Pending (type : MessageType) (payload : List UInt8) (s : Rx cap) : Prop :=
  s.rxDataReady = true ∧ s.rxType = type ∧ payload <+: s.input.contents

theorem feed_pending_iff (type : MessageType) (payload : List UInt8) {s : Rx cap} (proper : Proper s)
    (valid : Bool) (data : List UInt8) :
    (∀ r, feed s valid data = some r → Pending type payload r.1) ↔
      Keeps cap type payload s.rxDataReady (verdict s data) := by
  induction size : data.length using Nat.strongRecOn generalizing s valid data with
  | ind n ih =>
      have told := judged proper valid data
      generalize verdict s data = ending at told
      cases told with
      | @unfinished s' run ready =>
          simp only [run, Option.some.injEq, forall_eq', Pending, ready]
          constructor
          · rintro ⟨pending, typed, stored⟩
            rw [pending]
            exact .unfinished typed stored
          · intro keeps
            generalize s.rxDataReady = pending at keeps
            cases keeps with
            | unfinished typed stored => exact ⟨rfl, typed, stored⟩
      | blocked run =>
          refine iff_of_true ?_ (.blocked _)
          intro r run'
          rw [run] at run'
          cases run'
      | @refused rest shorter run =>
          have later := ih rest.length (size ▸ shorter) proper_createRx valid rest rfl
          rw [run, later]
          refine ⟨.refused _, fun keeps => ?_⟩
          generalize s.rxDataReady = pending at keeps
          cases keeps with
          | refused _ keeps => exact keeps
      | @accepted input type' rest shorter run =>
          have later := ih rest.length (size ▸ shorter) (proper_waiting input true type') true rest rfl
          rw [run, later]
          refine ⟨.accepted _, fun keeps => ?_⟩
          generalize s.rxDataReady = pending at keeps
          cases keeps with
          | accepted _ keeps => exact keeps

theorem handed_iff (type : MessageType) (payload : List UInt8) (s : Rx cap) :
    s.rxDataReady = true ∧ (runRx s).2 = some type ∧ payload <+: (runRx s).1.input.contents ↔
      Pending type payload s := by
  cases ready : s.rxDataReady with
  | false => simp only [Pending, ready, Bool.false_eq_true, false_and]
  | true =>
      simp only [Pending, runRx, ready, Bool.true_eq_false, if_false, Option.some.injEq]

/-- A frame leaves its type and payload pending, and the verdict on what comes behind
it is as if those were all there ever was. -/
theorem feed_frameBytes (before type : MessageType) {payload : List UInt8}
    (fits : payload.length ≤ cap) (representable : payload.length < 2 ^ 32) (behind : List UInt8) :
    ∃ input : Fifo cap UInt8, input.contents = payload ∧
      feed (waiting .empty false before) false (frameBytes type payload ++ behind) =
        feed (waiting input true type) true behind := by
  obtain ⟨high, low, checksum⟩ : ∃ high low,
      bigEndian lengthOfChecksumField (byteSum payload % 2 ^ 16) = [high, low] := ⟨_, _, rfl⟩
  have bytes : frameBytes type payload ++ behind = framed type payload high low (endByte :: behind) := by
    simp only [frameBytes, framed, checksum, List.append_assoc, List.cons_append, List.nil_append]
  have sum : 256 * high.toNat + low.toNat = byteSum payload % 2 ^ 16 := by
    rw [← numberOf_pair, ← checksum, numberOf_checksum]
  have ending : verdict (waiting (.empty : Fifo cap UInt8) false before)
      (frameBytes type payload ++ behind) = .accepted ⟨type, payload⟩ behind := by
    rw [bytes]
    refine (readFrame_framed before type fits representable high low (endByte :: behind)).trans ?_
    rw [if_pos sum, readEnd, if_pos rfl]
  have told := judged (proper_waiting (.empty : Fifo cap UInt8) false before) false
    (frameBytes type payload ++ behind)
  rw [ending] at told
  generalize held_ : (⟨type, payload⟩ : Held) = handed at told
  cases told with
  | @accepted input _ _ _ run =>
      obtain ⟨rfl, rfl⟩ := Held.mk.inj held_
      exact ⟨input, rfl, run⟩

/-- What may come behind an accepted frame in the same call. -/
theorem undisturbed_iff {s : Rx cap} (reached : Reached s) (fresh : IdleEmpty s) (type : MessageType)
    {payload : List UInt8} (fits : payload.length ≤ cap) (behind : List UInt8) :
    Undisturbed s type payload behind ↔
      2 ^ 32 ≤ (frameBytes type payload ++ behind).length ∨
        Keeps cap type payload true (readFrame cap ⟨type, payload⟩ behind) := by
  have returns : ∀ r, Returns s (frameBytes type payload ++ behind) r ↔ _ :=
    returns_eq reached fresh.idle _
  by_cases short : (frameBytes type payload ++ behind).length < 2 ^ 32
  · have representable : payload.length < 2 ^ 32 := by
      simp only [frameBytes, List.length_append] at short
      omega
    have same : settle s = waiting .empty false s.rxType := by
      rw [settle_of_state fresh.state (by decide)]
      exact fresh.eq_waiting reached
    obtain ⟨input, rfl, run⟩ := feed_frameBytes s.rxType type fits representable behind
    have pending := feed_pending_iff type input.contents (proper_waiting input true type) true behind
    rw [or_iff_right (Nat.not_le.mpr short)]
    refine Iff.trans ?_ pending
    simp only [Undisturbed, handed_iff, returns, same, run, short, true_and, Prod.forall]
  · refine iff_of_true ?_ (Or.inl (Nat.not_lt.mp short))
    intro s' returned call
    exact absurd ((returns _).mp call).1 short

theorem undisturbed_by_garbage :
    Undisturbed (createRx : Rx 4) .evAnnounce [1, 2] [0] ↔
      2 ^ 32 ≤ (frameBytes .evAnnounce [1, 2] ++ [0]).length ∨
        Keeps 4 .evAnnounce [1, 2] true (readFrame 4 ⟨.evAnnounce, [1, 2]⟩ [0]) :=
  undisturbed_iff .create idleEmpty_createRx .evAnnounce (by decide) [0]

/-- A frame with a payload of two bytes and a wrong checksum. -/
def corrupt : List UInt8 := framed .evAnnounce [1, 2] 0 0 [endByte]

/-- The call returns true for the first frame, and the second one discards it. -/
theorem undisturbed_fails : ¬ ∀ s : Rx 4, Reached s → IdleEmpty s →
    ∀ (type : MessageType) (payload : List UInt8), payload.length ≤ 4 →
      ∀ behind, Undisturbed s type payload behind := by
  intro every
  have undisturbed := every createRx .create idleEmpty_createRx .evAnnounce [1] (by decide) corrupt
  have run : putRxData (createRx : Rx 4) (frameBytes .evAnnounce [1] ++ corrupt) =
      some (createRx, true) := by decide
  have call : Returns (createRx : Rx 4) (frameBytes .evAnnounce [1] ++ corrupt) (createRx, true) :=
    (returns_iff counted_createRx _ _).mpr run
  exact Bool.false_ne_true (undisturbed createRx true call).1

end FramedIO
