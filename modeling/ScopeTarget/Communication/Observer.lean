import ScopeTarget.Communication.Frame

/-! What the observer of FramedIO is told over a sequence of chunks. Every byte
brings the receiver at most one byte closer to a notification, and each
notification uses up the nine framing bytes and the payload it hands over
(`deliver_budget`), so a receiver that wastes a byte never makes up for it. -/

namespace FramedIO
variable {cap : Nat}

/-- The rx runnable, and the observer taking the payload out of the buffer. -/
def handOver (s : Rx cap) (announced : Nat) : Rx cap × Option (MessageType × List UInt8) :=
  match runRx s with
  | (s, none) => (s, none)
  | (s, some type) =>
      ({ s with input := (s.input.read announced).2 }, some (type, (s.input.read announced).1))

/-- What the observer is told over all chunks; it takes the announced lengths
one by one. `none` when some chunk is never done with. -/
def deliver : Rx cap → List Nat → List (List UInt8) → Option (List (MessageType × List UInt8))
  | _, _, [] => some []
  | s, announced, chunk :: chunks =>
      (putRxData s chunk).bind fun r =>
        match handOver r.1 (announced.headD 0) with
        | (s, none) => deliver s announced chunks
        | (s, some notified) => (deliver s announced.tail chunks).map (notified :: ·)

/-- The rest of a delivery from somewhere inside a chunk. -/
def resume (s : Rx cap) (announced : List Nat) (chunk : List UInt8) (chunks : List (List UInt8)) :
    Option (List (MessageType × List UInt8)) :=
  (feed s false chunk).bind fun r =>
    match handOver r.1 (announced.headD 0) with
    | (s, none) => deliver s announced chunks
    | (s, some notified) => (deliver s announced.tail chunks).map (notified :: ·)

theorem handOver_idle {s : Rx cap} (idle : s.rxDataReady = false) (announced : Nat) :
    handOver s announced = (s, none) := by
  simp only [handOver, runRx, if_pos idle]

theorem handOver_ready {s : Rx cap} (ready : s.rxDataReady = true) (announced : Nat) :
    handOver s announced =
      ({ s with rxDataReady := false, rxType := .seNone, input := (s.input.read announced).2 },
        some (s.rxType, (s.input.read announced).1)) := by
  simp only [handOver, runRx, ready, Bool.true_eq_false, if_false]

theorem handOver_keeps (s : Rx cap) (announced : Nat) :
    (handOver s announced).1.rxDataReady = false ∧
      (Counted s → Counted (handOver s announced).1) := by
  cases ready : s.rxDataReady with
  | false =>
      rw [handOver_idle ready]
      exact ⟨ready, id⟩
  | true =>
      rw [handOver_ready ready]
      exact ⟨rfl, id⟩

/-- A receiver as the code between two chunks finds it. -/
def Idle (s : Rx cap) : Prop := Counted s ∧ s.rxDataReady = false

theorem idle_createRx : Idle (createRx : Rx cap) := ⟨counted_createRx, rfl⟩

theorem idle_handOver {s : Rx cap} (counted : Counted s) (announced : Nat) :
    Idle (handOver s announced).1 :=
  ⟨(handOver_keeps s announced).2 counted, (handOver_keeps s announced).1⟩

theorem deliver_cons {s : Rx cap} (idle : Idle s) (announced : List Nat) {chunk : List UInt8}
    (short : chunk.length < 2 ^ 32) (chunks : List (List UInt8)) :
    deliver s announced (chunk :: chunks) = resume (settle s) announced chunk chunks := by
  rw [deliver, putRxData_eq_consume idle.1 idle.2 short]
  rfl

/-- A chunk that the receiver is done with is short enough for the offset. -/
theorem short_of_deliver {s : Rx cap} (idle : Idle s) {announced : List Nat} {chunk : List UInt8}
    {chunks : List (List UInt8)} {notified : List (MessageType × List UInt8)}
    (run : deliver s announced (chunk :: chunks) = some notified) : chunk.length < 2 ^ 32 := by
  obtain ⟨r, returned, -⟩ := Option.bind_eq_some_iff.mp run
  exact short_of_putRxData idle.2 returned

/-- The delivery goes on from the state that some bytes of the chunk lead to. -/
theorem resume_append {s s' : Rx cap} {valid : Bool} {xs : List UInt8}
    (run : feed s false xs = some (s', valid)) (announced : List Nat) (ys : List UInt8)
    (chunks : List (List UInt8)) :
    resume s announced (xs ++ ys) chunks = resume s' announced ys chunks := by
  rw [resume, feed_append_of_run run, feed_valid, Option.bind_map]
  rfl

theorem resume_nil_idle {s : Rx cap} (idle : s.rxDataReady = false) (announced : List Nat)
    (chunks : List (List UInt8)) : resume s announced [] chunks = deliver s announced chunks := by
  simp only [resume, feed, Option.bind_some, handOver_idle idle]

theorem resume_nil_ready {s : Rx cap} (ready : s.rxDataReady = true) (announced : List Nat)
    (chunks : List (List UInt8)) :
    resume s announced [] chunks =
      (deliver (handOver s (announced.headD 0)).1 announced.tail chunks).map
        ((s.rxType, (s.input.read (announced.headD 0)).1) :: ·) := by
  simp only [resume, feed, Option.bind_some, handOver_ready ready]

theorem resume_nil_told {s s' : Rx cap} {size : Nat} {told : MessageType × List UInt8}
    (step : handOver s size = (s', some told)) (announced : List Nat)
    (chunks : List (List UInt8)) :
    resume s (size :: announced) [] chunks = (deliver s' announced chunks).map (told :: ·) := by
  simp only [resume, feed, Option.bind_some, List.headD_cons, step, List.tail_cons]

/-- Bytes of the current frame that were read as such. -/
def progress (s : Rx cap) : Nat :=
  match s.rxFramedIOState with
  | .startFlag => 0
  | .type => 1
  | .length => 2 + s.rxStateByteCount
  | .data => 6
  | .checksum => 6 + s.rxStateByteCount
  | .endFlag => 8

/-- The bytes that still can become part of what the observer is told. -/
def potential (s : Rx cap) : Nat :=
  progress s + s.input.used + if s.rxDataReady then overhead else 0

def cost (notified : List (MessageType × List UInt8)) : Nat :=
  (notified.map fun m => overhead + m.2.length).sum

theorem potential_resetRx (s : Rx cap) : potential (resetRx s) = 0 := rfl

theorem potential_settle {s : Rx cap} (counted : Counted s) :
    potential (settle s) = potential s := by
  by_cases h : s.rxFramedIOState = .data ∧ s.input.used = s.rxExpectedLength
  · simp only [Counted, h.1] at counted
    rw [settle, if_pos h]
    simp only [potential, progress, h.1, counted]
  · simp only [settle, if_neg h]

theorem used_write_singleton (b : Fifo cap UInt8) (byte : UInt8) :
    (b.write [byte]).used ≤ b.used + 1 := by
  by_cases fits : b.used + [byte].length ≤ cap
  · exact Nat.le_of_eq (Fifo.used_write_of_fits fits)
  · rw [Fifo.write_of_overflow (Nat.not_le.mp fits)]
    exact Nat.le_succ _

theorem potential_compareChecksum (s : Rx cap) :
    potential (compareChecksum s) ≤ 8 + s.input.used + if s.rxDataReady then overhead else 0 := by
  unfold compareChecksum
  split
  · exact Nat.le_refl _
  · exact Nat.zero_le _

theorem byteStep_potential {s : Rx cap} (counted : Counted s) {byte : UInt8} {r : Rx cap × Bool}
    (step : byteStep s byte = some r) : potential r.1 ≤ potential s + 1 := by
  cases byteStep_stepped step with
  | starts state =>
      simp only [potential, progress, state]
      omega
  | skips => exact Nat.le_succ _
  | readsType state =>
      simp only [Counted, state] at counted
      simp only [potential, progress, state, counted]
      omega
  | endsLength state last =>
      simp only [addLengthByte, lengthOfLengthField] at last
      rw [potential_settle (by exact rfl)]
      simp only [potential, progress, addLengthByte, state]
      omega
  | readsLength state =>
      simp only [potential, progress, addLengthByte, state]
      omega
  | stores state =>
      simp only [Counted, state] at counted
      have stored := used_write_singleton s.input byte
      rw [potential_settle (by simpa only [Counted, addDataByte, state] using counted)]
      simp only [potential, progress, addDataByte, state]
      omega
  | endsChecksum state last =>
      have compared : potential (compareChecksum (addChecksumByte s byte)) ≤
          8 + s.input.used + if s.rxDataReady then overhead else 0 :=
        potential_compareChecksum (addChecksumByte s byte)
      have before : potential s =
          6 + s.rxStateByteCount + s.input.used + if s.rxDataReady then overhead else 0 := by
        simp only [potential, progress, state]
      simp only [addChecksumByte, lengthOfChecksumField] at last
      dsimp only
      omega
  | readsChecksum state =>
      simp only [potential, progress, addChecksumByte, state]
      omega
  | accepts state =>
      simp only [potential, progress, acceptFrame, state, overhead, if_true]
      omega
  | refuses => exact Nat.zero_le _

theorem feed_potential {s : Rx cap} (counted : Counted s) {valid : Bool} {data : List UInt8}
    {r : Rx cap × Bool} (run : feed s valid data = some r) :
    potential r.1 ≤ potential s + data.length := by
  induction data generalizing s valid with
  | nil =>
      obtain rfl := Option.some.inj run
      exact Nat.le_refl _
  | cons byte rest ih =>
      obtain ⟨next, step, run⟩ := Option.bind_eq_some_iff.mp run
      have first := byteStep_potential counted step
      have later := ih (counted_byteStep counted step) run
      rw [List.length_cons]
      omega

theorem potential_handOver {s : Rx cap} (ready : s.rxDataReady = true) (announced : Nat) :
    potential (handOver s announced).1 + (overhead + (s.input.read announced).1.length) =
      potential s := by
  have split : (s.input.read announced).2.used + (s.input.read announced).1.length =
      s.input.used := by
    rcases Nat.lt_or_ge s.input.used announced with short | enough
    · rw [Fifo.read_of_lt short]
      rfl
    · obtain ⟨taken, left⟩ := Fifo.contents_read_of_le enough
      rw [taken, Fifo.used_eq_length, left, List.length_drop, List.length_take_of_le enough]
      exact Nat.sub_add_cancel enough
  rw [handOver_ready ready]
  simp only [potential, progress, ready, Bool.false_eq_true, if_false, if_true]
  omega

theorem cost_cons (type : MessageType) (payload : List UInt8)
    (notified : List (MessageType × List UInt8)) :
    cost ((type, payload) :: notified) = overhead + payload.length + cost notified := rfl

theorem resume_budget {s : Rx cap} (counted : Counted s) {announced : List Nat}
    {chunk : List UInt8} {chunks : List (List UInt8)}
    (rest : ∀ (s : Rx cap) (announced : List Nat) (notified : List (MessageType × List UInt8)),
      Idle s → deliver s announced chunks = some notified →
        cost notified ≤ potential s + chunks.flatten.length)
    {notified : List (MessageType × List UInt8)}
    (run : resume s announced chunk chunks = some notified) :
    cost notified ≤ potential s + (chunk ++ chunks.flatten).length := by
  obtain ⟨⟨s', valid⟩, fed, others⟩ := Option.bind_eq_some_iff.mp run
  have counted' : Counted s' := counted_feed counted fed
  have bytes : potential s' ≤ potential s + chunk.length := feed_potential counted fed
  rw [List.length_append]
  cases ready : s'.rxDataReady with
  | false =>
      simp only [handOver_idle ready] at others
      have later := rest _ _ _ ⟨counted', ready⟩ others
      omega
  | true =>
      have paid := potential_handOver ready (announced.headD 0)
      have idle' := idle_handOver counted' (announced.headD 0)
      simp only [handOver_ready ready] at others paid idle'
      obtain ⟨tail, run', rfl⟩ := Option.map_eq_some_iff.mp others
      have later := rest _ _ _ idle' run'
      rw [cost_cons]
      omega

/-- A delivery that comes to its end has short chunks only. -/
theorem shorts_of_deliver {s : Rx cap} (idle : Idle s) {announced : List Nat}
    {chunks : List (List UInt8)} {notified : List (MessageType × List UInt8)}
    (run : deliver s announced chunks = some notified) :
    ∀ chunk ∈ chunks, chunk.length < 2 ^ 32 := by
  induction chunks generalizing s announced notified with
  | nil => exact fun _ none => nomatch none
  | cons chunk chunks ih =>
      have short := short_of_deliver idle run
      rw [deliver_cons idle announced short] at run
      obtain ⟨⟨s', valid⟩, fed, others⟩ := Option.bind_eq_some_iff.mp run
      have idle' := idle_handOver (counted_feed (counted_settle idle.1) fed) (announced.headD 0)
      refine List.forall_mem_cons.mpr ⟨short, ?_⟩
      dsimp only at others
      split at others
      next next handed =>
        rw [handed] at idle'
        exact ih idle' others
      next next told handed =>
        rw [handed] at idle'
        obtain ⟨tail, run', -⟩ := Option.map_eq_some_iff.mp others
        exact ih idle' run'

/-- Notifications are paid for with bytes. -/
theorem deliver_budget {s : Rx cap} (idle : Idle s) {announced : List Nat}
    {chunks : List (List UInt8)} {notified : List (MessageType × List UInt8)}
    (run : deliver s announced chunks = some notified) :
    cost notified ≤ potential s + chunks.flatten.length := by
  induction chunks generalizing s announced notified with
  | nil =>
      obtain rfl := Option.some.inj run
      exact Nat.zero_le _
  | cons chunk chunks ih =>
      rw [deliver_cons idle announced (short_of_deliver idle run)] at run
      rw [List.flatten_cons, ← potential_settle idle.1]
      exact resume_budget (counted_settle idle.1) (fun _ _ _ idle run => ih idle run) run

/-- The receiver takes zeros for a checksum, and there are enough of them to
reach the end flag, which is not a zero. -/
def Doomed (zeros : Nat) (s : Rx cap) : Prop :=
  (s.rxFramedIOState = .checksum ∧ s.rxChecksum = 0 ∧ s.rxChecksumCompare = 0 ∧
      s.rxStateByteCount < 2 ∧ 3 ≤ zeros + s.rxStateByteCount) ∨
    (s.rxFramedIOState = .endFlag ∧ 1 ≤ zeros)

theorem replicate_prefix_cons {zeros : Nat} {byte : UInt8} {rest : List UInt8} (some : 1 ≤ zeros)
    (upcoming : List.replicate zeros 0 <+: byte :: rest) :
    byte = 0 ∧ List.replicate (zeros - 1) 0 <+: rest := by
  obtain ⟨fewer, rfl⟩ : ∃ n, zeros = n + 1 := ⟨zeros - 1, by omega⟩
  rw [List.replicate_succ, List.cons_prefix_cons] at upcoming
  exact ⟨upcoming.1.symm, upcoming.2⟩

theorem one_le_of_doomed {zeros : Nat} {s : Rx cap} (doomed : Doomed zeros s) : 1 ≤ zeros := by
  rcases doomed with ⟨-, -, -, low, enough⟩ | ⟨-, enough⟩
  · omega
  · exact enough

/-- One more zero: the receiver stays doomed, or it drops everything it has. -/
theorem byteStep_doomed {zeros : Nat} {s : Rx cap} (doomed : Doomed zeros s) :
    ∃ s', byteStep s 0 = some (s', false) ∧
      (Doomed (zeros - 1) s' ∧ potential s' = potential s + 1 ∨
        potential s' = 0 ∧ 8 ≤ potential s) := by
  rcases doomed with ⟨state, sum, compare, low, enough⟩ | ⟨state, enough⟩
  · have noChange : (s.rxChecksumCompare + (0 : UInt8).toNat *
        2 ^ ((lengthOfChecksumField - s.rxStateByteCount - 1) * 8)) % 2 ^ 16 = 0 := by
      rw [compare, UInt8.toNat_zero, Nat.zero_mul, Nat.zero_add, Nat.zero_mod]
    obtain first | second : s.rxStateByteCount = 0 ∨ s.rxStateByteCount = 1 := by omega
    · refine ⟨addChecksumByte s 0, ?_, Or.inl ⟨Or.inl ⟨state, sum, noChange, ?_, ?_⟩, ?_⟩⟩
      · simp only [byteStep, state, addChecksumByte, first, lengthOfChecksumField,
          Nat.reduceAdd, Nat.reduceEqDiff, if_false]
      · simp only [addChecksumByte, first]
        decide
      · simp only [addChecksumByte]
        omega
      · simp only [potential, progress, addChecksumByte, state]
        omega
    · have equal : (addChecksumByte s 0).rxChecksumCompare = (addChecksumByte s 0).rxChecksum :=
        noChange.trans sum.symm
      refine ⟨compareChecksum (addChecksumByte s 0), ?_, Or.inl ⟨Or.inr ⟨?_, ?_⟩, ?_⟩⟩
      · simp only [byteStep, state, addChecksumByte, second, lengthOfChecksumField, if_true]
      · rw [compareChecksum, if_pos equal]
      · omega
      · rw [compareChecksum, if_pos equal]
        simp only [potential, progress, addChecksumByte, state, second]
        omega
  · refine ⟨resetRx s, ?_, Or.inr ⟨potential_resetRx s, ?_⟩⟩
    · simp only [byteStep, state]
      rfl
    · simp only [potential, progress, state]
      omega

theorem settle_doomed {zeros : Nat} {s : Rx cap} (doomed : Doomed zeros s) : settle s = s := by
  rcases doomed with ⟨state, -⟩ | ⟨state, -⟩
  · exact settle_of_state state (by decide)
  · exact settle_of_state state (by decide)

/-- A doomed receiver loses bytes that no later notification gets back. -/
theorem resume_doomed {zeros : Nat} {s : Rx cap} (counted : Counted s) (doomed : Doomed zeros s)
    {announced : List Nat} {chunk : List UInt8} {chunks : List (List UInt8)}
    (upcoming : List.replicate zeros 0 <+: chunk ++ chunks.flatten)
    {notified : List (MessageType × List UInt8)}
    (run : resume s announced chunk chunks = some notified) :
    cost notified < potential s + (chunk ++ chunks.flatten).length := by
  have more := one_le_of_doomed doomed
  match chunk, chunks with
  | [], [] =>
      have none := upcoming.length_le
      rw [List.length_replicate] at none
      exact absurd more (Nat.not_le.mpr (Nat.lt_succ_of_le none))
  | [], next :: chunks =>
      rw [List.nil_append, List.flatten_cons] at upcoming ⊢
      cases ready : s.rxDataReady with
      | false =>
          have idle : Idle s := ⟨counted, ready⟩
          rw [resume_nil_idle ready] at run
          rw [deliver_cons idle announced (short_of_deliver idle run), settle_doomed doomed] at run
          exact resume_doomed counted doomed upcoming run
      | true =>
          have paid := potential_handOver ready (announced.headD 0)
          have idle' := idle_handOver counted (announced.headD 0)
          have doomed' : Doomed zeros (handOver s (announced.headD 0)).1 := by
            rw [handOver_ready ready]
            exact doomed
          rw [resume_nil_ready ready] at run
          obtain ⟨tail, run', rfl⟩ := Option.map_eq_some_iff.mp run
          rw [deliver_cons idle' announced.tail (short_of_deliver idle' run'),
            settle_doomed doomed'] at run'
          have later := resume_doomed idle'.1 doomed' upcoming run'
          rw [cost_cons]
          omega
  | byte :: rest, chunks =>
      obtain ⟨rfl, later⟩ := replicate_prefix_cons more upcoming
      obtain ⟨s', step, next⟩ := byteStep_doomed doomed
      have counted' : Counted s' := counted_byteStep counted step
      have single : feed s false [0] = some (s', false) := by
        rw [feed_cons step]
        rfl
      rw [← List.singleton_append, resume_append single] at run
      rw [List.cons_append, List.length_cons]
      rcases next with ⟨doomed', closer⟩ | ⟨dropped, had⟩
      · have bound := resume_doomed counted' doomed' later run
        omega
      · have bound := resume_budget counted' (fun _ _ _ idle run => deliver_budget idle run) run
        omega
  termination_by (chunks.length, chunk.length)

end FramedIO
