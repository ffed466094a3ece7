import ScopeTarget.Communication.Frame

/-! The sending half of FramedIO. A frame is read in three stages, and one call
runs through as many of them as its length asks for. The bytes a call hands out
are those it copies to the front of the caller's array. -/

namespace FramedIO

inductive TxFramedIOState where
  | none
  | head
  | body
  | foot
  deriving DecidableEq, Repr

/-- `txChecksum` is a `uint16_t`. -/
structure Tx (cap : Nat) where
  output : Fifo cap UInt8
  frameHead : Fifo 6 UInt8
  frameTail : Fifo 3 UInt8
  txDataFramingReady : Bool
  txType : MessageType
  txChecksum : Nat
  txFramedIOState : TxFramedIOState
  deriving DecidableEq

variable {cap : Nat}

/-- The sender of a new FramedIO: `FramedIO_create` calls `FramedIO_resetTx`. -/
def createTx : Tx cap :=
  { output := .empty
    frameHead := .empty
    frameTail := .empty
    txDataFramingReady := true
    txType := .seNone
    txChecksum := 0
    txFramedIOState := .none }

def writeBytes {size : Nat} (buffer : Fifo size UInt8) (bytes : List UInt8) : Fifo size UInt8 :=
  bytes.foldl (fun buffer byte => buffer.write [byte]) buffer

/-- The tx runnable. -/
def runTx (self : Tx cap) : Tx cap :=
  if self.txFramedIOState ≠ .none then self
  else if self.txDataFramingReady = false then self
  else
    let outputBufferLength := self.output.used % 2 ^ 32
    { self with
      frameHead := writeBytes self.frameHead
        ([startByte, self.txType.code] ++ bigEndian lengthOfLengthField outputBufferLength)
      txDataFramingReady := false
      txFramedIOState := .head }

/-- The observer of the serializer: a message is ready to be framed. -/
def updateTx (self : Tx cap) (state : MessageType) : Tx cap :=
  { self with txDataFramingReady := true, txType := state }

def readHead (self : Tx cap) (length : Nat) : List UInt8 × Tx cap :=
  if self.txFramedIOState = .head then
    let bytesLeft := self.frameHead.used
    let bytesRead := min bytesLeft length
    let read := self.frameHead.read bytesRead
    (read.1, { self with
      frameHead := read.2
      txFramedIOState := if bytesLeft - bytesRead = 0 then .body else .head })
  else ([], self)

/-- What the framer puts behind a payload with the given sum. -/
def finishBody (self : Tx cap) : Tx cap :=
  { self with
    frameTail := writeBytes .empty (bigEndian lengthOfChecksumField self.txChecksum ++ [endByte])
    txChecksum := 0
    txFramedIOState := .foot }

def readBody (self : Tx cap) (length : Nat) : List UInt8 × Tx cap :=
  if self.txFramedIOState = .body then
    let bytesLeft := self.output.used
    let bytesRead := min bytesLeft length
    let read := self.output.read bytesRead
    let summed := { self with
      output := read.2
      txChecksum := (self.txChecksum + byteSum read.1) % 2 ^ 16 }
    (read.1, if bytesLeft - bytesRead = 0 then finishBody summed else summed)
  else ([], self)

def readFoot (self : Tx cap) (length : Nat) : List UInt8 × Tx cap :=
  if self.txFramedIOState = .foot then
    let bytesLeft := self.frameTail.used
    let bytesRead := min bytesLeft length
    let read := self.frameTail.read bytesRead
    (read.1, { self with
      frameTail := read.2
      txFramedIOState := if bytesLeft - bytesRead = 0 then .none else .foot })
  else ([], self)

/-- `FramedIO_getTxData`. -/
def getTxData (self : Tx cap) (length : Nat) : List UInt8 × Tx cap :=
  if self.txFramedIOState = .none then ([], self)
  else
    let head := readHead self length
    if length ≤ head.1.length then head
    else
      let body := readBody head.2 (length - head.1.length)
      if length ≤ head.1.length + body.1.length then (head.1 ++ body.1, body.2)
      else
        let foot := readFoot body.2 (length - (head.1.length + body.1.length))
        (head.1 ++ body.1 ++ foot.1, foot.2)

/-! Where the sender stands, part way through a frame. What waits in the output
buffer behind the frame is only there once the payload is read. -/

section Places
variable (f : Frame cap) (ready : Bool) (type : MessageType)

/-- No frame is being read; `next` waits in the output buffer. -/
def idle (next : Fifo cap UInt8) : Tx cap :=
  { output := next
    frameHead := .empty
    frameTail := .empty
    txDataFramingReady := ready
    txType := type
    txChecksum := 0
    txFramedIOState := .none }

def inHead (taken : Nat) : Tx cap :=
  { idle ready type (Fifo.empty.write f.payload) with
    frameHead := Fifo.empty.write (f.header.drop taken)
    txFramedIOState := .head }

def inBody (taken : Nat) : Tx cap :=
  { idle ready type (Fifo.empty.write (f.payload.drop taken)) with
    txChecksum := byteSum (f.payload.take taken) % 2 ^ 16
    txFramedIOState := .body }

def inFoot (next : Fifo cap UInt8) (taken : Nat) : Tx cap :=
  { idle ready type next with
    frameTail := Fifo.empty.write (f.trailer.drop taken)
    txFramedIOState := .foot }

/-- Between two calls, `taken` bytes of `f` are read, all but its last at the most.
A body without bytes is left by the first call that finds it. -/
def sending (next : Fifo cap UInt8) (taken : Nat) : Tx cap :=
  if taken < 6 then inHead f ready type taken
  else if taken = 6 ∨ taken < 6 + f.payload.length then inBody f ready type (taken - 6)
  else inFoot f ready type next (taken - 6 - f.payload.length)

end Places

theorem createTx_eq_idle : (createTx : Tx cap) = idle true .seNone .empty := rfl

/-- Writing a list of bytes one by one into an empty buffer. -/
theorem writeBytes_empty {size : Nat} {bytes : List UInt8} (fits : bytes.length ≤ size) :
    writeBytes (.empty : Fifo size UInt8) bytes = Fifo.empty.write bytes := by
  induction bytes using List.reverseRecOn with
  | nil => rfl
  | append_singleton bytes byte ih =>
      rw [List.length_append, List.length_singleton] at fits
      rw [writeBytes, List.foldl_append]
      change (writeBytes .empty bytes).write [byte] = _
      rw [ih (by omega)]
      exact Fifo.write_write_of_fits (by rw [Fifo.used_empty, List.length_singleton]; omega)

theorem contents_filled {size : Nat} {bytes : List UInt8} (fits : bytes.length ≤ size) :
    (Fifo.empty.write bytes : Fifo size UInt8).contents = bytes := by
  rw [Fifo.contents_write_of_fits (by rw [Fifo.used_empty, Nat.zero_add]; exact fits)]
  rfl

theorem used_filled {size : Nat} {bytes : List UInt8} (fits : bytes.length ≤ size) :
    (Fifo.empty.write bytes : Fifo size UInt8).used = bytes.length := by
  rw [Fifo.used_eq_length, contents_filled fits]

/-- Reading up to `n` bytes of a buffer filled with `bytes`. -/
theorem read_filled {size : Nat} {bytes : List UInt8} (fits : bytes.length ≤ size) (n : Nat) :
    (Fifo.empty.write bytes : Fifo size UInt8).read (min bytes.length n) =
      (bytes.take n, Fifo.empty.write (bytes.drop n)) := by
  have inside : min bytes.length n ≤ (Fifo.empty.write bytes : Fifo size UInt8).used := by
    rw [used_filled fits]
    exact Nat.min_le_left _ _
  obtain ⟨taken, left⟩ := Fifo.contents_read_of_le inside
  have shorter : (bytes.drop n).length ≤ size := by
    rw [List.length_drop]
    exact Nat.le_trans (Nat.sub_le _ _) fits
  rw [contents_filled fits] at taken left
  refine Prod.ext ?_ (Fifo.ext ?_)
  · rw [taken, List.take_eq_take_iff]
    omega
  · rw [left, contents_filled shorter]
    rcases Nat.le_total n bytes.length with low | high
    · rw [Nat.min_eq_right low]
    · rw [Nat.min_eq_left high, List.drop_length, List.drop_of_length_le high]

section Stages
variable {f : Frame cap} {ready : Bool} {type : MessageType}

theorem readHead_inHead {taken : Nat} (inside : taken < 6) (n : Nat) :
    readHead (inHead f ready type taken) n =
      ((f.header.drop taken).take n,
        if taken + n < 6 then inHead f ready type (taken + n) else inBody f ready type 0) := by
  have length : (f.header.drop taken).length = 6 - taken := by
    rw [List.length_drop, Frame.length_header]
  have fits : (f.header.drop taken).length ≤ 6 := by omega
  have split := read_filled fits n
  have rest : (f.header.drop taken).drop n = f.header.drop (taken + n) := List.drop_drop
  have here : (inHead f ready type taken).txFramedIOState = .head := rfl
  rw [readHead, if_pos here]
  simp only [inHead, idle, used_filled fits, split, rest]
  rw [length]
  refine Prod.ext rfl ?_
  by_cases more : taken + n < 6
  · rw [if_pos more, if_neg (by omega)]
  · have done : f.header.drop (taken + n) = [] :=
      List.drop_eq_nil_of_le (by rw [Frame.length_header]; omega)
    rw [if_neg more, if_pos (by omega), done]
    rfl

theorem finishBody_inBody : finishBody (inBody f ready type f.payload.length) =
    inFoot f ready type .empty 0 := by
  have fits : (bigEndian lengthOfChecksumField (byteSum f.payload % 2 ^ 16) ++ [endByte]).length ≤ 3 :=
    Nat.le_refl 3
  simp only [finishBody, inBody, idle, List.take_length, List.drop_length, writeBytes_empty fits]
  rfl

theorem readBody_inBody {taken : Nat} (inside : taken ≤ f.payload.length) (n : Nat) :
    readBody (inBody f ready type taken) n =
      ((f.payload.drop taken).take n,
        if taken + n < f.payload.length then inBody f ready type (taken + n)
        else inFoot f ready type .empty 0) := by
  have length : (f.payload.drop taken).length = f.payload.length - taken := List.length_drop
  have fits : (f.payload.drop taken).length ≤ cap := by
    have all := f.fits
    omega
  have split := read_filled fits n
  have rest : (f.payload.drop taken).drop n = f.payload.drop (taken + n) := List.drop_drop
  have sum : (byteSum (f.payload.take taken) % 2 ^ 16 +
      byteSum ((f.payload.drop taken).take n)) % 2 ^ 16 =
        byteSum (f.payload.take (taken + n)) % 2 ^ 16 := by
    rw [Nat.mod_add_mod, ← byteSum_append, ← List.take_add]
  have here : (inBody f ready type taken).txFramedIOState = .body := rfl
  rw [readBody, if_pos here]
  simp only [inBody, idle, used_filled fits, split, rest, sum]
  rw [length]
  refine Prod.ext rfl ?_
  by_cases more : taken + n < f.payload.length
  · rw [if_pos more, if_neg (by omega)]
  · rw [if_neg more, if_pos (by omega), ← finishBody_inBody]
    have beyond : f.payload.length ≤ taken + n := Nat.not_lt.mp more
    simp only [inBody, idle, List.take_length, List.drop_length, List.take_of_length_le beyond,
      List.drop_of_length_le beyond]

theorem readFoot_inFoot {next : Fifo cap UInt8} {taken : Nat} (inside : taken < 3) (n : Nat) :
    readFoot (inFoot f ready type next taken) n =
      ((f.trailer.drop taken).take n,
        if taken + n < 3 then inFoot f ready type next (taken + n) else idle ready type next) := by
  have length : (f.trailer.drop taken).length = 3 - taken := by
    rw [List.length_drop, Frame.length_trailer]
  have fits : (f.trailer.drop taken).length ≤ 3 := by omega
  have split := read_filled fits n
  have rest : (f.trailer.drop taken).drop n = f.trailer.drop (taken + n) := List.drop_drop
  have here : (inFoot f ready type next taken).txFramedIOState = .foot := rfl
  rw [readFoot, if_pos here]
  simp only [inFoot, idle, used_filled fits, split, rest]
  rw [length]
  refine Prod.ext rfl ?_
  by_cases more : taken + n < 3
  · rw [if_pos more, if_neg (by omega)]
  · have done : f.trailer.drop (taken + n) = [] :=
      List.drop_eq_nil_of_le (by rw [Frame.length_trailer]; omega)
    rw [if_neg more, if_pos (by omega), done]
    rfl

theorem sending_inHead (next : Fifo cap UInt8) {taken : Nat} (inside : taken < 6) :
    sending f ready type next taken = inHead f ready type taken := if_pos inside

theorem sending_inBody (next : Fifo cap UInt8) {taken : Nat}
    (inside : taken = 0 ∨ taken < f.payload.length) :
    sending f ready type next (6 + taken) = inBody f ready type taken := by
  rw [sending, if_neg (by omega), if_pos (by omega), Nat.add_sub_cancel_left]

theorem sending_inFoot (next : Fifo cap UInt8) {taken : Nat}
    (behind : 0 < f.payload.length ∨ 0 < taken) :
    sending f ready type next (6 + f.payload.length + taken) = inFoot f ready type next taken := by
  rw [sending, if_neg (by omega), if_neg (by omega)]
  congr 1
  omega

end Stages

/-- What a call does once the head is behind it. -/
def getFromBody (self : Tx cap) (length : Nat) : List UInt8 × Tx cap :=
  let body := readBody self length
  if length ≤ body.1.length then body
  else
    let foot := readFoot body.2 (length - body.1.length)
    (body.1 ++ foot.1, foot.2)

theorem getTxData_eq {self : Tx cap} (busy : self.txFramedIOState ≠ .none) (length : Nat) :
    getTxData self length =
      if length ≤ (readHead self length).1.length then readHead self length
      else
        let rest := getFromBody (readHead self length).2 (length - (readHead self length).1.length)
        ((readHead self length).1 ++ rest.1, rest.2) := by
  unfold getTxData getFromBody
  rw [if_neg busy]
  generalize readHead self length = head
  dsimp only
  split
  · rfl
  · generalize readBody head.2 (length - head.1.length) = body
    by_cases all : length ≤ head.1.length + body.1.length
    · rw [if_pos all, if_pos (by omega)]
    · rw [if_neg all, if_neg (by omega), Nat.sub_sub, List.append_assoc]

section Stages
variable {f : Frame cap} {ready : Bool} {type : MessageType}

theorem getFromBody_inFoot {next : Fifo cap UInt8} {taken n : Nat} (inside : taken < 3)
    (some_ : 0 < n) : getFromBody (inFoot f ready type next taken) n =
      ((f.trailer.drop taken).take n,
        if taken + n < 3 then inFoot f ready type next (taken + n) else idle ready type next) := by
  have passed : readBody (inFoot f ready type next taken) n =
      ([], inFoot f ready type next taken) := if_neg nofun
  unfold getFromBody
  rw [passed, if_neg (by rw [List.length_nil]; omega)]
  dsimp only [List.length_nil, Nat.sub_zero]
  rw [readFoot_inFoot inside, List.nil_append]

/-- The rest of a frame from a place in its payload. -/
theorem getFromBody_inBody {taken n : Nat} (inside : taken ≤ f.payload.length) (some_ : 0 < n) :
    getFromBody (inBody f ready type taken) n =
      ((f.payload.drop taken ++ f.trailer).take n,
        if 6 + taken + n < f.shape.size then sending f ready type .empty (6 + taken + n)
        else idle ready type .empty) := by
  have size : f.shape.size = f.payload.length + 9 := Nat.add_comm _ _
  have left : (f.payload.drop taken).length = f.payload.length - taken := List.length_drop
  have got : ((f.payload.drop taken).take n).length = min n (f.payload.length - taken) := by
    rw [List.length_take, left]
  unfold getFromBody
  rw [readBody_inBody inside]
  dsimp only
  by_cases within : n ≤ f.payload.length - taken
  · have enough : n ≤ ((f.payload.drop taken).take n).length := by omega
    have unfinished : 6 + taken + n < f.shape.size := by omega
    have bytes : (f.payload.drop taken ++ f.trailer).take n = (f.payload.drop taken).take n :=
      List.take_append_of_le_length (by omega)
    rw [if_pos enough, if_pos unfinished, bytes]
    refine Prod.ext rfl ?_
    by_cases more : taken + n < f.payload.length
    · rw [if_pos more, Nat.add_assoc, sending_inBody _ (Or.inr more)]
    · have last : 6 + taken + n = 6 + f.payload.length + 0 := by omega
      rw [if_neg more, last, sending_inFoot _ (Or.inl (by omega))]
  · obtain ⟨m, rfl⟩ : ∃ m, n = f.payload.length - taken + m :=
      ⟨n - (f.payload.length - taken), by omega⟩
    have short : ¬ f.payload.length - taken + m ≤
        ((f.payload.drop taken).take (f.payload.length - taken + m)).length := by omega
    have past : ¬ taken + (f.payload.length - taken + m) < f.payload.length := by omega
    have whole : (f.payload.drop taken).take (f.payload.length - taken + m) = f.payload.drop taken :=
      List.take_of_length_le (by omega)
    have bytes : (f.payload.drop taken ++ f.trailer).take (f.payload.length - taken + m) =
        f.payload.drop taken ++ f.trailer.take m := by
      rw [← left, List.take_length_add_append]
    have rest : f.payload.length - taken + m - (f.payload.drop taken).length = m := by omega
    have place : 6 + taken + (f.payload.length - taken + m) = 6 + f.payload.length + m := by omega
    rw [if_neg short, if_neg past, whole, rest, readFoot_inFoot (by decide), bytes, place]
    refine Prod.ext rfl ?_
    rw [Nat.zero_add]
    by_cases more : m < 3
    · have unfinished : 6 + f.payload.length + m < f.shape.size := by omega
      rw [if_pos more, if_pos unfinished, sending_inFoot _ (Or.inr (by omega))]
    · have finished : ¬ 6 + f.payload.length + m < f.shape.size := by omega
      rw [if_neg more, if_neg finished]

/-- The output buffer still belongs to the frame being read. -/
def InPayload (f : Frame cap) (taken : Nat) : Prop := taken ≤ 6 ∨ taken < 6 + f.payload.length

instance (f : Frame cap) (taken : Nat) : Decidable (InPayload f taken) :=
  inferInstanceAs (Decidable (_ ∨ _))

theorem encode_drop_header {taken : Nat} (inside : taken ≤ 6) :
    f.encode.drop taken = f.header.drop taken ++ (f.payload ++ f.trailer) := by
  rw [Frame.encode, List.append_assoc]
  exact List.drop_append_of_le_length inside

theorem encode_drop_payload {taken : Nat} (inside : taken ≤ f.payload.length) :
    f.encode.drop (6 + taken) = f.payload.drop taken ++ f.trailer := by
  rw [← List.drop_drop, encode_drop_header (Nat.le_refl 6)]
  exact List.drop_append_of_le_length inside

theorem encode_drop_trailer (taken : Nat) :
    f.encode.drop (6 + f.payload.length + taken) = f.trailer.drop taken := by
  rw [← List.drop_drop, encode_drop_payload (Nat.le_refl _), List.drop_length, List.nil_append]

/-- Behind its head, a frame is left alone by the first stage. -/
theorem getTxData_of_past_head {self : Tx cap}
    (past : self.txFramedIOState = .body ∨ self.txFramedIOState = .foot) (n : Nat) :
    getTxData self n = if n = 0 then ([], self) else getFromBody self n := by
  have busy : self.txFramedIOState ≠ .none ∧ self.txFramedIOState ≠ .head := by
    rcases past with body | foot
    · rw [body]
      exact ⟨nofun, nofun⟩
    · rw [foot]
      exact ⟨nofun, nofun⟩
  have skipped : readHead self n = ([], self) := if_neg busy.2
  rw [getTxData_eq busy.1, skipped]
  exact if_congr Nat.le_zero rfl rfl

theorem getTxData_inHead {taken : Nat} (inside : taken < 6) (n : Nat) :
    getTxData (inHead f ready type taken) n =
      ((f.encode.drop taken).take n,
        if taken + n < f.shape.size then sending f ready type .empty (taken + n)
        else idle ready type .empty) := by
  have size : f.shape.size = f.payload.length + 9 := Nat.add_comm _ _
  have left : (f.header.drop taken).length = 6 - taken := by
    rw [List.length_drop, Frame.length_header]
  have got : ((f.header.drop taken).take n).length = min n (6 - taken) := by
    rw [List.length_take, left]
  rw [getTxData_eq (by exact nofun), readHead_inHead inside, encode_drop_header (Nat.le_of_lt inside)]
  dsimp only
  by_cases within : n ≤ 6 - taken
  · have enough : n ≤ ((f.header.drop taken).take n).length := by omega
    have unfinished : taken + n < f.shape.size := by omega
    rw [if_pos enough, if_pos unfinished, List.take_append_of_le_length (by omega)]
    refine Prod.ext rfl ?_
    by_cases more : taken + n < 6
    · rw [if_pos more, sending_inHead _ more]
    · have last : taken + n = 6 + 0 := by omega
      rw [if_neg more, last, sending_inBody _ (Or.inl rfl)]
  · obtain ⟨m, rfl⟩ : ∃ m, n = 6 - taken + m := ⟨n - (6 - taken), by omega⟩
    have short : ¬ 6 - taken + m ≤ ((f.header.drop taken).take (6 - taken + m)).length := by omega
    have past : ¬ taken + (6 - taken + m) < 6 := by omega
    have whole : (f.header.drop taken).take (6 - taken + m) = f.header.drop taken :=
      List.take_of_length_le (by omega)
    have bytes : (f.header.drop taken ++ (f.payload ++ f.trailer)).take (6 - taken + m) =
        f.header.drop taken ++ (f.payload ++ f.trailer).take m := by
      rw [← left, List.take_length_add_append]
    have rest : 6 - taken + m - (f.header.drop taken).length = m := by omega
    have place : taken + (6 - taken + m) = 6 + 0 + m := by omega
    rw [if_neg short, if_neg past, whole, rest, getFromBody_inBody (Nat.zero_le _) (by omega), bytes,
      place]
    rfl

/-- A call of any length hands out the next bytes of the frame. -/
theorem getTxData_sending {next : Fifo cap UInt8} {taken : Nat} (inside : taken < f.shape.size)
    (alone : InPayload f taken → next = .empty) (n : Nat) :
    getTxData (sending f ready type next taken) n =
      ((f.encode.drop taken).take n,
        if taken + n < f.shape.size then sending f ready type next (taken + n)
        else idle ready type next) := by
  have size : f.shape.size = f.payload.length + 9 := Nat.add_comm _ _
  by_cases header : taken < 6
  · obtain rfl := alone (Or.inl (Nat.le_of_lt header))
    rw [sending_inHead _ header, getTxData_inHead header]
  · obtain ⟨read, rfl⟩ : ∃ read, taken = 6 + read := ⟨taken - 6, by omega⟩
    rcases Nat.eq_zero_or_pos n with rfl | some_
    · have past : (sending f ready type next (6 + read)).txFramedIOState = .body ∨
          (sending f ready type next (6 + read)).txFramedIOState = .foot := by
        unfold sending
        rw [if_neg header]
        split
        · exact Or.inl rfl
        · exact Or.inr rfl
      rw [getTxData_of_past_head past, if_pos rfl, Nat.add_zero, if_pos inside]
      rfl
    · by_cases payload : InPayload f (6 + read)
      · obtain rfl := alone payload
        have place : read = 0 ∨ read < f.payload.length := by
          unfold InPayload at payload
          omega
        rw [sending_inBody _ place, getTxData_of_past_head (Or.inl rfl), if_neg (Nat.ne_of_gt some_),
          getFromBody_inBody (by omega) some_, encode_drop_payload (by omega)]
      · unfold InPayload at payload
        obtain ⟨i, rfl⟩ : ∃ i, read = f.payload.length + i := ⟨read - f.payload.length, by omega⟩
        have place : 0 < f.payload.length ∨ 0 < i := by omega
        rw [← Nat.add_assoc, sending_inFoot _ place, getTxData_of_past_head (Or.inr rfl),
          if_neg (Nat.ne_of_gt some_), getFromBody_inFoot (by omega) some_, encode_drop_trailer]
        refine Prod.ext rfl ?_
        rw [Nat.add_assoc]
        by_cases more : i + n < 3
        · rw [if_pos more, if_pos (by omega), sending_inFoot _ (by omega)]
        · rw [if_neg more, if_neg (by omega)]

end Stages

theorem getTxData_idle (ready : Bool) (type : MessageType) (next : Fifo cap UInt8) (n : Nat) :
    getTxData (idle ready type next) n = ([], idle ready type next) := if_pos rfl

/-- The tx runnable puts the head in front of what waits in the output buffer. -/
theorem runTx_idle {f : Frame cap} :
    runTx (idle true f.type (Fifo.empty.write f.payload)) = sending f false f.type .empty 0 := by
  have used : (Fifo.empty.write f.payload : Fifo cap UInt8).used % 2 ^ 32 = f.payload.length := by
    rw [used_filled f.fits, Nat.mod_eq_of_lt f.representable]
  simp only [runTx, idle, used]
  rw [writeBytes_empty (Nat.le_refl 6)]
  rfl

theorem runTx_of_busy {self : Tx cap} (busy : self.txFramedIOState ≠ .none) : runTx self = self :=
  if_pos busy

theorem runTx_of_not_ready {self : Tx cap} (none_ : self.txDataFramingReady = false) :
    runTx self = self := by
  unfold runTx
  rw [if_pos none_, ite_self]

end FramedIO
