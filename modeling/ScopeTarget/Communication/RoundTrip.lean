import ScopeTarget.Communication.Streaming
import ScopeTarget.Communication.TxOutbox

/-! From one FramedIO to another: a payload is framed by the sender, read in
pieces of any lengths, cut anew, and put into the receiver chunk by chunk. -/

namespace FramedIO
variable {cap outCap inCap : Nat}

/-- The bytes that a sequence of reads hands out, and the sender behind them. -/
def drain : Tx cap → List Nat → List UInt8 × Tx cap
  | tx, [] => ([], tx)
  | tx, length :: lengths =>
      let read := getTxData tx length
      let rest := drain read.2 lengths
      (read.1 ++ rest.1, rest.2)

/-- What each call returns, and the type and the input buffer that the observer
finds if the rx runnable notifies it behind the call. -/
def receive : Rx cap → List (List UInt8) → Option (List (Bool × Option (MessageType × List UInt8)))
  | _, [] => some []
  | s, chunk :: chunks =>
      (putRxData s chunk).bind fun called =>
        let ran := runRx called.1
        (receive ran.1 chunks).map fun later =>
          (called.2, ran.2.map fun type => (type, ran.1.input.contents)) :: later

/-- An idle sender that finds a payload in its output buffer and is told its type. -/
def framing (ready : Bool) (before type : MessageType) (payload : List UInt8) : Tx cap :=
  runTx (updateTx (idle ready before (Fifo.empty.write payload)) type)

/-- The call returns false, and the observer is not notified. -/
def silent (_ : List UInt8) : Bool × Option (MessageType × List UInt8) := (false, none)

/-- However the frame is read and cut, the call with its last byte alone returns
true, and behind it alone the observer is notified. -/
def RoundTrips (outCap inCap : Nat) (type : MessageType) (payload : List UInt8) : Prop :=
  ∀ (ready : Bool) (before earlier : MessageType) (lengths : List Nat) (chunks : List (List UInt8)),
    let drained := drain (framing ready before type payload : Tx outCap) lengths
    drained.2.txFramedIOState = .none → chunks.flatten = drained.1 →
      (∀ chunk ∈ chunks, chunk.length < 2 ^ 32) → ∃ first last rest,
        chunks = first ++ last :: rest ∧ last ≠ [] ∧ (∀ chunk ∈ rest, chunk = []) ∧
        receive (waiting .empty false earlier : Rx inCap) chunks =
          some (first.map silent ++ (true, some (type, payload)) :: rest.map silent)

theorem drain_idle (ready : Bool) (type : MessageType) (next : Fifo cap UInt8) (lengths : List Nat) :
    drain (idle ready type next) lengths = ([], idle ready type next) := by
  induction lengths with
  | nil => rfl
  | cons length lengths ih => rw [drain, getTxData_idle, ih, List.nil_append]

/-- A sequence of reads hands out the next bytes of the frame, as one read would. -/
theorem drain_sending {f : Frame cap} {ready : Bool} {type : MessageType} {taken : Nat}
    (inside : taken < f.shape.size) (lengths : List Nat) :
    drain (sending f ready type .empty taken) lengths =
      ((f.encode.drop taken).take lengths.sum,
        if taken + lengths.sum < f.shape.size then sending f ready type .empty (taken + lengths.sum)
        else idle ready type .empty) := by
  induction lengths generalizing taken with
  | nil =>
      rw [List.sum_nil, Nat.add_zero, if_pos inside]
      rfl
  | cons length lengths ih =>
      rw [drain, getTxData_sending inside (fun _ => rfl), List.sum_cons, ← Nat.add_assoc]
      by_cases more : taken + length < f.shape.size
      · have bytes : (f.encode.drop taken).take (length + lengths.sum) =
            (f.encode.drop taken).take length ++ (f.encode.drop (taken + length)).take lengths.sum := by
          rw [List.take_add, List.drop_drop]
        rw [if_pos more, ih more, bytes]
      · have finished : ¬ taken + length + lengths.sum < f.shape.size := by omega
        have all : (f.encode.drop taken).length ≤ length := by
          rw [List.length_drop, Frame.length_encode]
          omega
        have every : (f.encode.drop taken).length ≤ length + lengths.sum := by omega
        rw [if_neg more, if_neg finished, drain_idle, List.append_nil, List.take_of_length_le all,
          List.take_of_length_le every]

theorem framing_eq (f : Frame cap) (ready : Bool) (before : MessageType) :
    framing ready before f.type f.payload = sending f false f.type .empty 0 := runTx_idle

/-- A sender that is idle again has handed out the whole frame. -/
theorem drain_whole (f : Frame cap) {lengths : List Nat}
    (finished : (drain (sending f false f.type .empty 0) lengths).2.txFramedIOState = .none) :
    (drain (sending f false f.type .empty 0) lengths).1 = f.encode := by
  rw [drain_sending f.shape.size_pos] at finished ⊢
  rw [Nat.zero_add] at finished
  by_cases more : lengths.sum < f.shape.size
  · rw [if_pos more] at finished
    exact absurd finished sending_busy
  · rw [List.drop_zero]
    apply List.take_of_length_le
    rw [Frame.length_encode]
    exact Nat.not_lt.mp more

theorem putRxData_midway (type : MessageType) (f : Frame cap) (taken : Nat) {chunk : List UInt8}
    (short : chunk.length < 2 ^ 32) :
    putRxData (midway .empty false type f taken) chunk =
      feed (midway .empty false type f taken) false chunk := by
  have settled : settle (midway .empty false type f taken) = midway .empty false type f taken :=
    settled_midway .empty false type f taken
  rw [putRxData_eq_consume (counted_midway _ _ _ _ _) (ready_midway _ _ _ _ _) short, consume,
    settled]

/-- Chunks without bytes change nothing once the frame is complete. -/
theorem receive_nothing (input : Fifo cap UInt8) (type : MessageType) {chunks : List (List UInt8)}
    (empty : ∀ chunk ∈ chunks, chunk = []) :
    receive (waiting input false type) chunks = some (chunks.map silent) := by
  induction chunks with
  | nil => rfl
  | cons chunk chunks ih =>
      obtain rfl := empty chunk List.mem_cons_self
      have called : putRxData (waiting input false type) [] = some (waiting input false type, false) := rfl
      have ran : runRx (waiting input false type) = (waiting input false type, none) := rfl
      rw [receive, called, Option.bind_some]
      dsimp only
      rw [ran, ih fun chunk later => empty chunk (List.mem_cons_of_mem _ later)]
      rfl

/-- One chunk within the frame, without its last byte. -/
theorem receive_within {f : Frame cap} {type : MessageType} {taken : Nat} {chunk : List UInt8}
    (short : chunk.length < 2 ^ 32) (here : chunk <+: f.encode.drop taken)
    (within : taken + chunk.length < f.shape.size) (chunks : List (List UInt8)) :
    receive (midway .empty false type f taken) (chunk :: chunks) =
      (receive (midway .empty false
        (if taken < 2 ∧ 2 ≤ taken + chunk.length then f.type else type) f (taken + chunk.length))
          chunks).map (silent chunk :: ·) := by
  have size : f.shape.size = f.payload.length + 9 := Nat.add_comm _ _
  have inFrame : ∀ i, taken ≤ i → i < taken + chunk.length → InFrame .empty f i :=
    fun i _ high => Or.inr (Or.inr ⟨rfl, by omega⟩)
  rw [receive, putRxData_midway type f taken short, feed_midway inFrame false type false here,
    Option.bind_some]
  generalize (if taken < 2 ∧ 2 ≤ taken + chunk.length then f.type else type) = type'
  have ran : runRx (midway .empty false type' f (taken + chunk.length)) =
      (midway .empty false type' f (taken + chunk.length), none) := if_pos (ready_midway _ _ _ _ _)
  dsimp only
  rw [ran]
  rfl

/-- The chunk that ends the frame. -/
theorem receive_end {f : Frame cap} {type : MessageType} {taken : Nat} (inside : taken < f.shape.size)
    (known : 2 ≤ taken → type = f.type) (short : (f.encode.drop taken).length < 2 ^ 32) (chunks : List (List UInt8)) :
    receive (midway .empty false type f taken) (f.encode.drop taken :: chunks) =
      (receive (waiting (stored f) false .seNone) chunks).map
        ((true, some (f.type, f.payload)) :: ·) := by
  have typed : (if taken < 2 then f.type else type) = f.type := by
    split
    · rfl
    · rename_i past
      exact known (Nat.not_lt.mp past)
  rw [receive, putRxData_midway type f taken short, feed_midway_end inside, typed, Option.bind_some]
  have ran : runRx (waiting (stored f) true f.type) = (waiting (stored f) false .seNone, some f.type) := rfl
  dsimp only
  change (receive (runRx (waiting (stored f) true f.type)).1 chunks).map
    (fun later => (true, (runRx (waiting (stored f) true f.type)).2.map fun type =>
      (type, (runRx (waiting (stored f) true f.type)).1.input.contents)) :: later) = _
  rw [ran]
  change (receive (waiting (stored f) false .seNone) chunks).map
    ((true, some (f.type, (stored f).contents)) :: ·) = _
  rw [contents_stored]

/-- By induction on the chunks, from any byte of the frame on. -/
theorem receive_midway {f : Frame cap} {type : MessageType} {taken : Nat} (inside : taken < f.shape.size)
    (known : 2 ≤ taken → type = f.type) {chunks : List (List UInt8)}
    (cut : chunks.flatten = f.encode.drop taken) (shorts : ∀ chunk ∈ chunks, chunk.length < 2 ^ 32) :
    ∃ first last rest, chunks = first ++ last :: rest ∧ last ≠ [] ∧ (∀ chunk ∈ rest, chunk = []) ∧
      receive (midway .empty false type f taken) chunks =
        some (first.map silent ++ (true, some (f.type, f.payload)) :: rest.map silent) := by
  induction chunks generalizing type taken with
  | nil =>
      have nothing : (f.encode.drop taken).length = 0 := by
        rw [← cut]
        rfl
      rw [List.length_drop, Frame.length_encode] at nothing
      omega
  | cons chunk chunks ih =>
      rw [List.flatten_cons] at cut
      obtain ⟨short, shorts⟩ := List.forall_mem_cons.mp shorts
      have here : chunk <+: f.encode.drop taken := ⟨chunks.flatten, cut⟩
      by_cases within : taken + chunk.length < f.shape.size
      · have later : chunks.flatten = f.encode.drop (taken + chunk.length) := by
          rw [← List.drop_drop, ← cut, List.drop_left]
        have known' : 2 ≤ taken + chunk.length →
            (if taken < 2 ∧ 2 ≤ taken + chunk.length then f.type else type) = f.type := by
          intro past
          by_cases early : taken < 2
          · rw [if_pos ⟨early, past⟩]
          · rw [if_neg fun both => early both.1]
            exact known (Nat.not_lt.mp early)
        obtain ⟨first, last, rest, rfl, some_, nothing, received⟩ := ih within known' later shorts
        refine ⟨chunk :: first, last, rest, rfl, some_, nothing, ?_⟩
        rw [receive_within short here within, received]
        rfl
      · have total : (chunk ++ chunks.flatten).length = f.shape.size - taken := by
          rw [cut, List.length_drop, Frame.length_encode]
        rw [List.length_append] at total
        have nothing : chunks.flatten = [] := List.eq_nil_of_length_eq_zero (by omega)
        rw [nothing, List.append_nil] at cut
        have empty : ∀ chunk ∈ chunks, chunk = [] := List.flatten_eq_nil_iff.mp nothing
        refine ⟨[], chunk, chunks, rfl, ?_, empty, ?_⟩
        · rintro rfl
          rw [List.length_nil] at within
          omega
        · rw [cut] at short ⊢
          rw [receive_end inside known short, receive_nothing _ _ empty]
          rfl

/-- A payload that the length field can announce arrives as it was sent. -/
theorem roundTrips {type : MessageType} {payload : List UInt8} (fitsOutput : payload.length ≤ outCap)
    (fitsInput : payload.length ≤ inCap) (representable : payload.length < 2 ^ 32) :
    RoundTrips outCap inCap type payload := by
  intro ready before earlier lengths chunks drained finished cut shorts
  let sent : Frame outCap := ⟨type, payload, fitsOutput, representable⟩
  let received : Frame inCap := ⟨type, payload, fitsInput, representable⟩
  have framed : framing ready before type payload = sending sent false type .empty 0 :=
    framing_eq sent ready before
  have bytes : drained.1 = received.encode := by
    dsimp only [drained] at finished ⊢
    rw [framed] at finished ⊢
    exact drain_whole sent finished
  exact receive_midway received.shape.size_pos (fun past => absurd past (by decide)) (cut.trans bytes)
    shorts

theorem roundTrips_three_bytes : RoundTrips 4 8 .evAnnounce [1, 2, 3] :=
  roundTrips (by decide) (by decide) (by decide)

/-! A payload that the length field cannot announce. -/

section Stages
variable (type : MessageType) (payload : List UInt8)

/-- The head of any payload, with the length cut to four bytes. -/
def headOf : List UInt8 :=
  [startByte, type.code] ++ bigEndian lengthOfLengthField (payload.length % 2 ^ 32)

def footOf : List UInt8 :=
  bigEndian lengthOfChecksumField (byteSum payload % 2 ^ 16) ++ [endByte]

def beforeHead : Tx cap :=
  { idle false type (Fifo.empty.write payload) with
    frameHead := Fifo.empty.write (headOf type payload)
    txFramedIOState := .head }

def beforeBody : Tx cap := { idle false type (Fifo.empty.write payload) with txFramedIOState := .body }

def beforeFoot : Tx cap :=
  { idle false type .empty with
    frameTail := Fifo.empty.write (footOf payload)
    txFramedIOState := .foot }

variable {type payload}

theorem framing_beforeHead (fits : payload.length ≤ cap) (ready : Bool) (before : MessageType) :
    (framing ready before type payload : Tx cap) = beforeHead type payload := by
  have used : (Fifo.empty.write payload : Fifo cap UInt8).used = payload.length := used_filled fits
  simp only [framing, updateTx, runTx, idle, used]
  rw [writeBytes_empty (Nat.le_refl 6)]
  rfl

theorem getTxData_beforeHead :
    getTxData (beforeHead type payload : Tx cap) 6 = (headOf type payload, beforeBody type payload) := by
  have busy : (beforeHead type payload : Tx cap).txFramedIOState ≠ .none := nofun
  have length : (headOf type payload).length = 6 := rfl
  have fits : (headOf type payload).length ≤ 6 := Nat.le_refl 6
  have split := read_filled fits 6
  have read : readHead (beforeHead type payload : Tx cap) 6 =
      (headOf type payload, beforeBody type payload) := by
    have here : (beforeHead type payload : Tx cap).txFramedIOState = .head := rfl
    rw [readHead, if_pos here]
    simp only [beforeHead, idle, used_filled fits, split]
    rfl
  have enough : 6 ≤ (headOf type payload, (beforeBody type payload : Tx cap)).1.length := Nat.le_refl 6
  rw [getTxData_eq busy, read, if_pos enough]

theorem getTxData_beforeBody (fits : payload.length ≤ cap) (some_ : 0 < payload.length) :
    getTxData (beforeBody type payload : Tx cap) payload.length = (payload, beforeFoot type payload) := by
  have foot : (footOf payload).length ≤ 3 := Nat.le_refl 3
  have split := read_filled fits payload.length
  rw [Nat.min_self, List.take_length, List.drop_length] at split
  have read : readBody (beforeBody type payload : Tx cap) payload.length =
      (payload, beforeFoot type payload) := by
    have here : (beforeBody type payload : Tx cap).txFramedIOState = .body := rfl
    rw [readBody, if_pos here]
    simp only [beforeBody, idle, used_filled fits, split, Nat.min_self, Nat.sub_self, if_true, finishBody,
      Nat.zero_add]
    change (payload, ({ idle false type .empty with
      frameTail := writeBytes .empty (footOf payload)
      txFramedIOState := .foot } : Tx cap)) = _
    rw [writeBytes_empty foot]
    rfl
  rw [getTxData_of_past_head (Or.inl rfl), if_neg (Nat.ne_of_gt some_), getFromBody, read]
  exact if_pos (Nat.le_refl payload.length)

theorem getTxData_beforeFoot :
    getTxData (beforeFoot type payload : Tx cap) 3 = (footOf payload, idle false type .empty) := by
  have fits : (footOf payload).length ≤ 3 := Nat.le_refl 3
  have split := read_filled fits 3
  have passed : readBody (beforeFoot type payload : Tx cap) 3 = ([], beforeFoot type payload) :=
    if_neg nofun
  have read : readFoot (beforeFoot type payload : Tx cap) 3 =
      (footOf payload, idle false type .empty) := by
    have here : (beforeFoot type payload : Tx cap).txFramedIOState = .foot := rfl
    rw [readFoot, if_pos here]
    simp only [beforeFoot, idle, used_filled fits, split]
    rfl
  rw [getTxData_of_past_head (Or.inr rfl), if_neg (by decide), getFromBody, passed]
  dsimp only [List.length_nil, Nat.sub_zero]
  rw [if_neg (by decide), read, List.nil_append]

/-- The three stages of a frame, each read by a call of its own. -/
theorem drain_stages (fits : payload.length ≤ cap) (some_ : 0 < payload.length) (ready : Bool)
    (before : MessageType) :
    drain (framing ready before type payload : Tx cap) [6, payload.length, 3] =
      (headOf type payload ++ (payload ++ footOf payload), idle false type .empty) := by
  rw [framing_beforeHead fits]
  simp only [drain, getTxData_beforeHead, getTxData_beforeBody fits some_, getTxData_beforeFoot,
    List.append_nil]

end Stages

theorem encode_bare (type : MessageType) : (Frame.bare type : Frame cap).encode =
    [startByte, type.code, 0, 0, 0, 0, 0, 0, endByte] := by
  simp only [Frame.encode, Frame.header, Frame.trailer, Frame.bare, List.length_nil, List.append_nil]
  rfl

/-- An empty frame is found in the first bytes of a payload whose length is
announced as zero. -/
theorem not_roundTrips {n : Nat} {rest : List UInt8} (length : rest.length + 3 = n)
    (wraps : n % 2 ^ 32 = 0) (short : rest.length < 2 ^ 32) :
    ¬ RoundTrips n n .scData (0 :: 0 :: endByte :: rest) := by
  intro holds
  let payload : List UInt8 := 0 :: 0 :: endByte :: rest
  let empty : Frame n := .bare .scData
  have size : payload.length = n := length
  have head : headOf .scData payload = [startByte, MessageType.scData.code, 0, 0, 0, 0] := by
    rw [headOf, size, wraps]
    rfl
  have drained : drain (framing true .seNone .scData payload : Tx n) [6, payload.length, 3] =
      (headOf .scData payload ++ (payload ++ footOf payload), idle false .scData .empty) :=
    drain_stages (Nat.le_of_eq size) (by omega) true .seNone
  have cut : [empty.encode, rest, footOf payload].flatten =
      headOf .scData payload ++ (payload ++ footOf payload) := by
    rw [head, encode_bare]
    simp only [List.flatten_cons, List.flatten_nil, List.append_nil]
    rfl
  have called : ∀ chunk ∈ [empty.encode, rest, footOf payload], chunk.length < 2 ^ 32 := by
    rintro chunk (_ | ⟨_, _ | ⟨_, _ | ⟨_, member⟩⟩⟩)
    · exact Nat.lt_of_le_of_lt (Nat.le_refl 9) (by decide)
    · exact short
    · exact Nat.lt_of_le_of_lt (Nat.le_refl 3) (by decide)
    · cases member
  have found : receive (midway .empty false .seNone empty 0) [empty.encode, rest, footOf payload] =
      (receive (waiting (stored empty) false .seNone) [rest, footOf payload]).map
        ((true, some (empty.type, empty.payload)) :: ·) :=
    receive_end empty.shape.size_pos (fun past => absurd past (by decide))
      (called empty.encode List.mem_cons_self) _
  obtain ⟨first, last, later, -, -, -, received⟩ := holds true .seNone .seNone [6, payload.length, 3]
    [empty.encode, rest, footOf payload] (by rw [drained]; rfl) (by rw [drained]; exact cut) called
  obtain ⟨calls, -, same⟩ := Option.map_eq_some_iff.mp (found.symm.trans received)
  cases first with
  | nil => exact absurd same (by simp [empty, Frame.bare])
  | cons chunk first => exact absurd same (by simp [silent])

theorem roundTrips_fails :
    ¬ RoundTrips (2 ^ 32) (2 ^ 32) .scData (0 :: 0 :: endByte :: List.replicate (2 ^ 32 - 3) 0) :=
  not_roundTrips (by rw [List.length_replicate]; rfl) (by decide) (by rw [List.length_replicate]; decide)

end FramedIO
