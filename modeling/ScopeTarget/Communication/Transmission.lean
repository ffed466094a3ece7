import ScopeTarget.Base.Run
import ScopeTarget.Communication.RoundTrip

/-! What a sender still has to hand out, read off its three buffers and its
checksum. A call takes the next bytes of it whatever stage they are in, so that
frames can be read in any pieces; a reset leaves one of the buffers alone. -/

namespace FramedIO
variable {cap : Nat}

def resetTx (self : Tx cap) : Tx cap :=
  { self with
    output := .empty
    txDataFramingReady := true
    txType := .seNone
    txFramedIOState := .none
    txChecksum := 0 }

/-- The capacity of the buffer for the checksum and the end flag is 3. -/
def amountOfTxDataPending (self : Tx cap) : Nat :=
  match self.txFramedIOState with
  | .head => self.frameHead.used + self.output.used + 3
  | .body => self.output.used + 3
  | .foot => self.frameTail.used
  | .none => 0

inductive TxOp
  /-- The packer writes to the output buffer. -/
  | write (bytes : List UInt8)
  | update (type : MessageType)
  | runTx
  | getTxData (length : Nat)
  | resetTx

def txStep (self : Tx cap) : TxOp → Tx cap
  | .write bytes => { self with output := self.output.write bytes }
  | .update type => updateTx self type
  | .runTx => runTx self
  | .getTxData length => (getTxData self length).2
  | .resetTx => resetTx self

/-! The bytes that are still to be handed out. -/

def headerOf (type : MessageType) (payload : List UInt8) : List UInt8 :=
  [startByte, type.code] ++ bigEndian lengthOfLengthField payload.length

/-- What comes behind a body whose bytes amount to `sum`. -/
def trailerOf (sum : Nat) : List UInt8 := bigEndian lengthOfChecksumField sum ++ [endByte]

def remaining (self : Tx cap) : List UInt8 :=
  let body := self.output.contents ++
    trailerOf ((self.txChecksum + byteSum self.output.contents) % 2 ^ 16)
  match self.txFramedIOState with
  | .none => []
  | .head => self.frameHead.contents ++ body
  | .body => body
  | .foot => self.frameTail.contents

theorem length_remaining (self : Tx cap) : (remaining self).length = amountOfTxDataPending self := by
  have trailer : ∀ sum, (trailerOf sum).length = 3 := fun _ => rfl
  cases state : self.txFramedIOState with
  | none => simp only [remaining, amountOfTxDataPending, state, List.length_nil]
  | head =>
      simp only [remaining, amountOfTxDataPending, state, List.length_append, trailer,
        Fifo.used_eq_length, Nat.add_assoc]
  | body =>
      simp only [remaining, amountOfTxDataPending, state, List.length_append, trailer,
        Fifo.used_eq_length]
  | foot => simp only [remaining, amountOfTxDataPending, state, Fifo.used_eq_length]

/-- Up to `n` bytes are handed out, and the stage is over if they are fewer. -/
structure HandsOut (before : Tx cap) (n : Nat) (Ended : TxFramedIOState → Prop)
    (r : List UInt8 × Tx cap) : Prop where
  bytes : r.1 ++ remaining r.2 = remaining before
  most : r.1.length ≤ n
  ended : r.1.length < n → Ended r.2.txFramedIOState

theorem handsOut_readHead (self : Tx cap) (n : Nat) :
    HandsOut self n (· ≠ .head) (readHead self n) := by
  by_cases state : self.txFramedIOState = .head
  · have split := Fifo.read_min_append self.frameHead n
    rw [readHead, if_pos state]
    dsimp only
    refine ⟨?_, ?_, ?_⟩
    · by_cases drained : self.frameHead.used - min self.frameHead.used n = 0
      · rw [if_pos drained, Fifo.read_of_drained drained]
        simp only [remaining, state]
      · rw [if_neg drained]
        simp only [remaining, state, ← List.append_assoc, split]
    · rw [Fifo.length_read_min]
      exact Nat.min_le_left _ _
    · intro fewer
      rw [if_pos (Fifo.drained_of_fewer fewer)]
      have body : TxFramedIOState.body ≠ .head := by decide
      exact body
  · rw [readHead, if_neg state]
    exact ⟨rfl, Nat.zero_le _, fun _ => state⟩

theorem remaining_finishBody (self : Tx cap) : remaining (finishBody self) = trailerOf self.txChecksum := by
  have fits : (trailerOf self.txChecksum).length ≤ 3 := Nat.le_refl 3
  have written : writeBytes (.empty : Fifo 3 UInt8) (trailerOf self.txChecksum) =
      Fifo.empty.write (trailerOf self.txChecksum) := writeBytes_empty fits
  simp only [remaining, finishBody]
  exact (congrArg Fifo.contents written).trans (contents_filled fits)

theorem handsOut_readBody (self : Tx cap) (n : Nat) :
    HandsOut self n (fun after => self.txFramedIOState ≠ .head → after ≠ .head ∧ after ≠ .body)
      (readBody self n) := by
  by_cases state : self.txFramedIOState = .body
  · have split := Fifo.read_min_append self.output n
    rw [readBody, if_pos state]
    dsimp only
    refine ⟨?_, ?_, ?_⟩
    · by_cases drained : self.output.used - min self.output.used n = 0
      · rw [if_pos drained, remaining_finishBody, Fifo.read_of_drained drained]
        simp only [remaining, state]
      · rw [if_neg drained]
        simp only [remaining, state, Nat.mod_add_mod, ← List.append_assoc, split, Nat.add_assoc,
          ← byteSum_append]
    · rw [Fifo.length_read_min]
      exact Nat.min_le_left _ _
    · intro fewer _
      rw [if_pos (Fifo.drained_of_fewer fewer)]
      have foot : TxFramedIOState.foot ≠ .head ∧ TxFramedIOState.foot ≠ .body := by decide
      exact foot
  · rw [readBody, if_neg state]
    exact ⟨rfl, Nat.zero_le _, fun _ past => ⟨past, state⟩⟩

theorem handsOut_readFoot (self : Tx cap) (n : Nat) :
    HandsOut self n (fun after => self.txFramedIOState ≠ .head → self.txFramedIOState ≠ .body →
      after = .none) (readFoot self n) := by
  by_cases state : self.txFramedIOState = .foot
  · have split := Fifo.read_min_append self.frameTail n
    rw [readFoot, if_pos state]
    dsimp only
    refine ⟨?_, ?_, ?_⟩
    · by_cases drained : self.frameTail.used - min self.frameTail.used n = 0
      · rw [if_pos drained, Fifo.read_of_drained drained]
        simp only [remaining, state, List.append_nil]
      · rw [if_neg drained]
        simp only [remaining, state, split]
    · rw [Fifo.length_read_min]
      exact Nat.min_le_left _ _
    · intro fewer _ _
      rw [if_pos (Fifo.drained_of_fewer fewer)]
  · rw [readFoot, if_neg state]
    refine ⟨rfl, Nat.zero_le _, fun _ head body => ?_⟩
    cases here : self.txFramedIOState with
    | none => rfl
    | head => exact absurd here head
    | body => exact absurd here body
    | foot => exact absurd here state

theorem remaining_of_none {self : Tx cap} (none : self.txFramedIOState = .none) :
    remaining self = [] := by
  simp only [remaining, none]

/-- A call hands out what it is asked for, or everything. -/
theorem handsOut_getTxData (self : Tx cap) (n : Nat) :
    HandsOut self n (· = .none) (getTxData self n) := by
  by_cases none_ : self.txFramedIOState = .none
  · rw [getTxData, if_pos none_]
    exact ⟨rfl, Nat.zero_le _, fun _ => none_⟩
  · have head := handsOut_readHead self n
    rw [getTxData, if_neg none_]
    dsimp only
    by_cases enough : n ≤ (readHead self n).1.length
    · rw [if_pos enough]
      exact ⟨head.bytes, head.most, fun fewer => absurd enough (Nat.not_le.mpr fewer)⟩
    · rw [if_neg enough]
      have pastHead := head.ended (Nat.not_le.mp enough)
      generalize readHead self n = first at head enough pastHead
      have body := handsOut_readBody first.2 (n - first.1.length)
      have most := body.most
      by_cases enough' : n ≤ first.1.length + (readBody first.2 (n - first.1.length)).1.length
      · rw [if_pos enough']
        refine ⟨?_, ?_, ?_⟩
        · rw [List.append_assoc, body.bytes, head.bytes]
        · rw [List.length_append]
          omega
        · intro fewer
          rw [List.length_append] at fewer
          omega
      · rw [if_neg enough']
        have pastBody := body.ended (by omega) pastHead
        generalize readBody first.2 (n - first.1.length) = second at body most enough' pastBody
        have foot := handsOut_readFoot second.2 (n - (first.1.length + second.1.length))
        have most' := foot.most
        refine ⟨?_, ?_, ?_⟩
        · rw [List.append_assoc, foot.bytes, List.append_assoc, body.bytes, head.bytes]
        · rw [List.length_append, List.length_append]
          omega
        · intro fewer
          rw [List.length_append, List.length_append] at fewer
          exact foot.ended (by omega) pastBody.1 pastBody.2

/-- A call takes the next bytes of what remains. -/
theorem getTxData_remaining (self : Tx cap) (n : Nat) :
    (getTxData self n).1 = (remaining self).take n ∧
      remaining (getTxData self n).2 = (remaining self).drop n := by
  obtain ⟨bytes, most, ended⟩ := handsOut_getTxData self n
  generalize getTxData self n = r at bytes most ended
  rw [← bytes]
  rcases Nat.lt_or_eq_of_le most with fewer | rfl
  · have nothing := remaining_of_none (ended fewer)
    rw [nothing, List.append_nil, List.take_of_length_le most, List.drop_of_length_le most]
    exact ⟨rfl, rfl⟩
  · rw [List.take_left, List.drop_left]
    exact ⟨rfl, rfl⟩

theorem output_runTx (tx : Tx cap) : (runTx tx).output = tx.output := by
  unfold runTx
  split
  · rfl
  · split
    · rfl
    · rfl

/-! A call leaves an output buffer that is empty so. -/

theorem output_readBody_of_empty {tx : Tx cap} (empty : tx.output = .empty) (length : Nat) :
    (readBody tx length).2.output = .empty := by
  have none_ : ((.empty : Fifo cap UInt8).read (min (.empty : Fifo cap UInt8).used length)).2 = .empty := by
    rw [Fifo.used_empty, Nat.zero_min]
    rfl
  unfold readBody
  split
  · rw [empty]
    dsimp only
    split
    · exact none_
    · exact none_
  · exact empty

theorem output_readHead (tx : Tx cap) (length : Nat) : (readHead tx length).2.output = tx.output := by
  unfold readHead
  split
  · rfl
  · rfl

theorem output_readFoot (tx : Tx cap) (length : Nat) : (readFoot tx length).2.output = tx.output := by
  unfold readFoot
  split
  · rfl
  · rfl

theorem output_getTxData_of_empty {tx : Tx cap} (empty : tx.output = .empty) (length : Nat) :
    (getTxData tx length).2.output = .empty := by
  have head : (readHead tx length).2.output = .empty := (output_readHead tx length).trans empty
  unfold getTxData
  split
  · exact empty
  · dsimp only
    split
    · exact head
    · have body := output_readBody_of_empty head (length - (readHead tx length).1.length)
      split
      · exact body
      · exact (output_readFoot _ _).trans body

/-- The observer does not touch the frame being read. -/
theorem remaining_updateTx (self : Tx cap) (type : MessageType) :
    remaining (updateTx self type) = remaining self := rfl

theorem runTx_of_remaining {self : Tx cap} (some_ : remaining self ≠ []) : runTx self = self :=
  runTx_of_busy fun none => some_ (remaining_of_none none)

/-! A frame that is read in pieces. -/

def Asks : TxOp → Nat
  | .getTxData length => length
  | _ => 0

/-- How many bytes the calls ask for. -/
def asked (ops : List TxOp) : Nat := (ops.map Asks).sum

/-- The bytes that the calls of `FramedIO_getTxData` among these hand out. -/
def transmitted : Tx cap → List TxOp → List UInt8
  | _, [] => []
  | self, .getTxData length :: ops =>
      (getTxData self length).1 ++ transmitted (getTxData self length).2 ops
  | self, op :: ops => transmitted (txStep self op) ops

/-- Nothing but reads, and runs and notifications as long as fewer than `size`
bytes have been asked for. -/
def WhileReading (size : Nat) : Nat → List TxOp → Prop
  | _, [] => True
  | taken, .getTxData length :: ops => WhileReading size (taken + length) ops
  | taken, .update _ :: ops => taken < size ∧ WhileReading size taken ops
  | taken, .runTx :: ops => taken < size ∧ WhileReading size taken ops
  | _, .write _ :: _ => False
  | _, .resetTx :: _ => False

/-- Reads take what remains piece by piece, whatever else is called in between. -/
theorem transmitted_remaining {self : Tx cap} {bytes : List UInt8} {taken : Nat}
    (rest : remaining self = bytes.drop taken) {ops : List TxOp}
    (reading : WhileReading bytes.length taken ops) :
    transmitted self ops = (bytes.drop taken).take (asked ops) ∧
      remaining (Run.exec txStep self ops) = bytes.drop (taken + asked ops) := by
  induction ops generalizing self taken with
  | nil => exact ⟨rfl, rest⟩
  | cons op ops ih =>
      cases op with
      | write => exact absurd reading not_false
      | resetTx => exact absurd reading not_false
      | update type =>
          have none : asked (.update type :: ops) = asked ops := Nat.zero_add _
          rw [none]
          exact ih ((remaining_updateTx self type).trans rest) reading.2
      | runTx =>
          have none : asked (.runTx :: ops) = asked ops := Nat.zero_add _
          have busy : runTx self = self := by
            refine runTx_of_remaining ?_
            rw [rest, ← List.length_pos_iff_ne_nil, List.length_drop]
            exact Nat.sub_pos_of_lt reading.1
          rw [none]
          exact ih (by rw [txStep, busy, rest]) reading.2
      | getTxData length =>
          obtain ⟨got, left⟩ := getTxData_remaining self length
          rw [rest] at got left
          rw [List.drop_drop] at left
          have more : asked (.getTxData length :: ops) = length + asked ops := rfl
          obtain ⟨later, final⟩ := ih left reading
          rw [Run.exec_cons, txStep, more, ← Nat.add_assoc]
          refine ⟨?_, final⟩
          rw [transmitted, later, got, List.take_add, List.drop_drop]

theorem frameBytes_eq (type : MessageType) (payload : List UInt8) :
    frameBytes type payload =
      headerOf type payload ++ (payload ++ trailerOf (byteSum payload % 2 ^ 16)) := by
  simp only [frameBytes, headerOf, trailerOf, List.append_assoc]

/-- The low four bytes are those of the length cut to 32 bits. -/
theorem bigEndian_length (n : Nat) :
    bigEndian lengthOfLengthField (n % 2 ^ 32) = bigEndian lengthOfLengthField n := by
  have byte : ∀ i ∈ List.range 4, UInt8.ofNat (n % 2 ^ 32 / 256 ^ (4 - i - 1)) =
      UInt8.ofNat (n / 256 ^ (4 - i - 1)) := by
    intro i member
    have small : i < 4 := List.mem_range.mp member
    apply UInt8.toNat_inj.mp
    simp only [UInt8.toNat_ofNat']
    interval_cases i
    · simp only [Nat.reduceSub, Nat.reducePow]
      omega
    · simp only [Nat.reduceSub, Nat.reducePow]
      omega
    · simp only [Nat.reduceSub, Nat.reducePow]
      omega
    · simp only [Nat.reduceSub, Nat.reducePow]
      omega
  exact List.map_congr_left byte

/-- Bytes that do not fit behind what is there are dropped. -/
theorem contents_writeBytes {size : Nat} (buffer : Fifo size UInt8) (bytes : List UInt8) :
    (writeBytes buffer bytes).contents = (buffer.contents ++ bytes).take size := by
  induction bytes generalizing buffer with
  | nil => rw [List.append_nil, List.take_of_length_le buffer.bounded]; rfl
  | cons byte bytes ih =>
      have later : writeBytes buffer (byte :: bytes) = writeBytes (buffer.write [byte]) bytes := rfl
      have split : buffer.contents ++ byte :: bytes = buffer.contents ++ [byte] ++ bytes :=
        List.append_cons _ _ _
      rw [later, ih, Fifo.contents_write_singleton, split]
      rcases Nat.le_total (buffer.contents ++ [byte]).length size with short | long
      · rw [List.take_of_length_le short]
      · rw [List.take_append_of_le_length (Nat.le_of_eq (List.length_take_of_le long).symm),
          List.take_append_of_le_length long, List.take_take, Nat.min_self]

/-- Whatever the buffer for the head still holds comes before the new head. -/
theorem remaining_runTx {self : Tx cap} (idle_ : self.txFramedIOState = .none)
    (ready : self.txDataFramingReady = true) :
    remaining (runTx self) =
      (self.frameHead.contents ++ headerOf self.txType self.output.contents).take 6 ++
        (self.output.contents ++ trailerOf ((self.txChecksum + byteSum self.output.contents) % 2 ^ 16)) := by
  have notReady : ¬ self.txDataFramingReady = false := by
    rw [ready]
    exact nofun
  have header : [startByte, self.txType.code] ++
      bigEndian lengthOfLengthField (self.output.used % 2 ^ 32) =
        headerOf self.txType self.output.contents := by
    rw [bigEndian_length, Fifo.used_eq_length, headerOf]
  rw [runTx, if_neg (not_not_intro idle_), if_neg notReady]
  simp only [remaining, header, contents_writeBytes]

/-- What a sender holds that reads its frames to their end: nothing is left in the
buffer for the head behind the head, nor in the checksum outside of the body. -/
structure Unmixed (tx : Tx cap) : Prop where
  head : tx.txFramedIOState ≠ .head → tx.frameHead = .empty
  checksum : tx.txFramedIOState ≠ .body → tx.txChecksum = 0

/-- A reset comes only when no frame is being read. -/
def BetweenFrames (self : Tx cap) : TxOp → Prop
  | .resetTx => self.txFramedIOState = .none
  | _ => True

theorem unmixed_readHead {self : Tx cap} (unmixed : Unmixed self) (n : Nat) :
    Unmixed (readHead self n).2 := by
  by_cases state : self.txFramedIOState = .head
  · have none := unmixed.checksum (by rw [state]; exact nofun)
    rw [readHead, if_pos state]
    dsimp only
    refine ⟨?_, fun _ => none⟩
    dsimp only
    split
    · rename_i drained
      intro _
      exact Fifo.empty_of_drained drained
    · intro notHead
      exact absurd rfl notHead
  · rw [readHead, if_neg state]
    exact unmixed

theorem unmixed_readBody {self : Tx cap} (unmixed : Unmixed self) (n : Nat) :
    Unmixed (readBody self n).2 := by
  by_cases state : self.txFramedIOState = .body
  · have empty := unmixed.head (by rw [state]; exact nofun)
    rw [readBody, if_pos state]
    dsimp only
    split
    · exact ⟨fun _ => empty, fun _ => rfl⟩
    · exact ⟨fun _ => empty, fun notBody => absurd state notBody⟩
  · rw [readBody, if_neg state]
    exact unmixed

theorem unmixed_readFoot {self : Tx cap} (unmixed : Unmixed self) (n : Nat) :
    Unmixed (readFoot self n).2 := by
  by_cases state : self.txFramedIOState = .foot
  · have empty := unmixed.head (by rw [state]; exact nofun)
    have none := unmixed.checksum (by rw [state]; exact nofun)
    rw [readFoot, if_pos state]
    exact ⟨fun _ => empty, fun _ => none⟩
  · rw [readFoot, if_neg state]
    exact unmixed

theorem unmixed_getTxData {self : Tx cap} (unmixed : Unmixed self) (n : Nat) :
    Unmixed (getTxData self n).2 := by
  have head := unmixed_readHead unmixed n
  unfold getTxData
  dsimp only
  split
  · exact unmixed
  · split
    · exact head
    · split
      · exact unmixed_readBody head _
      · exact unmixed_readFoot (unmixed_readBody head _) _

theorem unmixed_step {self : Tx cap} {op : TxOp} (unmixed : Unmixed self)
    (between : BetweenFrames self op) : Unmixed (txStep self op) := by
  cases op with
  | write bytes => exact ⟨unmixed.head, unmixed.checksum⟩
  | update type => exact ⟨unmixed.head, unmixed.checksum⟩
  | runTx =>
      rw [txStep]
      unfold runTx
      split
      · exact unmixed
      · rename_i idle_
        have none := unmixed.checksum (by rw [not_not.mp idle_]; exact nofun)
        split
        · exact unmixed
        · exact ⟨fun notHead => absurd rfl notHead, fun _ => none⟩
  | getTxData length => exact unmixed_getTxData unmixed length
  | resetTx => exact ⟨fun _ => unmixed.head (by rw [between]; exact nofun), fun _ => rfl⟩

theorem unmixed_createTx : Unmixed (createTx : Tx cap) := ⟨fun _ => rfl, fun _ => rfl⟩

/-- A frame that is started behind frames that were read to their end. -/
theorem remaining_started {tx : Tx cap} (unmixed : Unmixed tx) (idle_ : tx.txFramedIOState = .none)
    (type : MessageType) :
    remaining (runTx (updateTx tx type)) = frameBytes type tx.output.contents := by
  have empty := unmixed.head (by rw [idle_]; exact nofun)
  have none := unmixed.checksum (by rw [idle_]; exact nofun)
  have idle' : (updateTx tx type).txFramedIOState = .none := idle_
  have header : (headerOf type tx.output.contents).length ≤ 6 := Nat.le_refl 6
  rw [remaining_runTx idle' rfl]
  simp only [updateTx, empty, none, Fifo.contents_empty, List.nil_append, Nat.zero_add,
    List.take_of_length_le header, frameBytes_eq]

/-- In whatever pieces a frame is read, the bytes are those of the frame, and those
not yet read are announced as pending. -/
theorem chunked_transmission {ops : List TxOp}
    (between : Run.Along txStep BetweenFrames (createTx : Tx cap) ops)
    (read : (Run.exec txStep (createTx : Tx cap) ops).txFramedIOState = .none) (type : MessageType)
    {calls : List TxOp} (reading : WhileReading
      ((Run.exec txStep (createTx : Tx cap) ops).output.contents.length + overhead) 0 calls) :
    let tx := Run.exec txStep (createTx : Tx cap) ops
    let frame := frameBytes type tx.output.contents
    let started := runTx (updateTx tx type)
    transmitted started calls = frame.take (asked calls) ∧
      amountOfTxDataPending (Run.exec txStep started calls) = frame.length - asked calls := by
  have unmixed : Unmixed (Run.exec txStep (createTx : Tx cap) ops) :=
    Run.Along.invariant txStep (fun _ _ => unmixed_step) between unmixed_createTx
  generalize Run.exec txStep (createTx : Tx cap) ops = tx at *
  have rest : remaining (runTx (updateTx tx type)) = (frameBytes type tx.output.contents).drop 0 :=
    remaining_started unmixed read type
  rw [← length_frameBytes type] at reading
  obtain ⟨bytes, left⟩ := transmitted_remaining rest reading
  dsimp only
  refine ⟨bytes, ?_⟩
  rw [← length_remaining, left, List.length_drop, Nat.zero_add]

/-- The second frame of a sender, read in three pieces, with a run and a notification
in between. -/
theorem transmission_of_second_frame :
    let tx := Run.exec txStep (createTx : Tx 4) [.runTx, .getTxData 9, .write [7, 8]]
    let calls : List TxOp := [.getTxData 6, .runTx, .getTxData 2, .update .seNak, .getTxData 9]
    let started := runTx (updateTx tx .evAnnounce)
    transmitted started calls = (frameBytes .evAnnounce tx.output.contents).take (asked calls) ∧
      amountOfTxDataPending (Run.exec txStep started calls) =
        (frameBytes .evAnnounce tx.output.contents).length - asked calls :=
  chunked_transmission (by simp [Run.Along, BetweenFrames]) (by decide) .evAnnounce
    ⟨by decide, by decide, True.intro⟩

/-! What a reset leaves behind. -/

/-- After a reset, a payload and its notification. -/
def restarted (tx : Tx cap) (type : MessageType) (payload : List UInt8) : Tx cap :=
  Run.exec txStep tx [.resetTx, .write payload, .update type, .runTx]

/-- Reading everything that is pending yields the frame. -/
def ResetRecovers (tx : Tx cap) (type : MessageType) (payload : List UInt8) : Prop :=
  ∀ lengths : List Nat, amountOfTxDataPending (restarted tx type payload) ≤ lengths.sum →
    transmitted (restarted tx type payload) (lengths.map .getTxData) = frameBytes type payload

theorem whileReading_reads (size taken : Nat) (lengths : List Nat) :
    WhileReading size taken (lengths.map .getTxData) := by
  induction lengths generalizing taken with
  | nil => exact True.intro
  | cons length lengths ih => exact ih (taken + length)

theorem transmitted_reads (self : Tx cap) (lengths : List Nat) :
    transmitted self (lengths.map .getTxData) = (remaining self).take lengths.sum := by
  have asks : asked (lengths.map .getTxData) = lengths.sum := by
    rw [asked, List.map_map]
    exact congrArg List.sum (List.map_id' lengths)
  have rest : remaining self = (remaining self).drop 0 := List.drop_zero.symm
  obtain ⟨bytes, -⟩ := transmitted_remaining rest (whileReading_reads _ 0 lengths)
  rw [bytes, asks, List.drop_zero]

theorem remaining_restarted (tx : Tx cap) (type : MessageType) {payload : List UInt8}
    (fits : payload.length ≤ cap) :
    remaining (restarted tx type payload) =
      (tx.frameHead.contents ++ headerOf type payload).take 6 ++
        (payload ++ trailerOf (byteSum payload % 2 ^ 16)) := by
  have filled : (Fifo.empty.write payload : Fifo cap UInt8).contents = payload := contents_filled fits
  let reset : Tx cap := updateTx { resetTx tx with output := Fifo.empty.write payload } type
  have idle_ : reset.txFramedIOState = .none := rfl
  have started : restarted tx type payload = runTx reset := rfl
  rw [started, remaining_runTx idle_ rfl]
  simp only [reset, updateTx, resetTx, filled, Nat.zero_add]

/-- Which resets the sender recovers from: those that find the buffer for the head
empty, or with bytes in it that look like the beginning of the next head. -/
theorem resetRecovers_iff (tx : Tx cap) (type : MessageType) {payload : List UInt8}
    (fits : payload.length ≤ cap) :
    ResetRecovers tx type payload ↔
      (tx.frameHead.contents ++ headerOf type payload).take 6 = headerOf type payload := by
  have rest := remaining_restarted tx type fits
  have cut : remaining (restarted tx type payload) = frameBytes type payload ↔
      (tx.frameHead.contents ++ headerOf type payload).take 6 = headerOf type payload := by
    rw [rest, frameBytes_eq, List.append_left_inj]
  rw [← cut]
  constructor
  · intro recovers
    have all := recovers [amountOfTxDataPending (restarted tx type payload)]
      (Nat.le_of_eq List.sum_singleton.symm)
    rwa [transmitted_reads, List.sum_singleton, ← length_remaining, List.take_length] at all
  · intro whole lengths enough
    rw [transmitted_reads, List.take_of_length_le (by rw [length_remaining]; exact enough), whole]

theorem resetRecovers_new :
    ResetRecovers (createTx : Tx 4) .evAnnounce [7] ↔
      ((createTx : Tx 4).frameHead.contents ++ headerOf .evAnnounce [7]).take 6 =
        headerOf .evAnnounce [7] :=
  resetRecovers_iff createTx .evAnnounce (by decide)

/-- A reset of a sender that has started a frame: its head is read again, in front of
the next payload. -/
theorem resetRecovers_fails : ¬ ∀ ops : List TxOp, TxOp.resetTx ∉ ops →
    ∀ (type : MessageType) (payload : List UInt8), payload.length ≤ 4 →
      ResetRecovers (Run.exec txStep (createTx : Tx 4) ops) type payload := by
  intro every
  have recovers := every [.update .evAnnounce, .runTx] (by simp) .seNak [] (by decide)
  have bytes : transmitted (restarted (Run.exec txStep (createTx : Tx 4) [.update .evAnnounce, .runTx])
      .seNak []) ([9].map .getTxData) = frameBytes .evAnnounce [] := by decide
  have other : frameBytes .evAnnounce [] ≠ frameBytes .seNak [] := by decide
  exact other (bytes.symm.trans (recovers [9] (by decide)))

/-! Which frames were asked for. -/

/-- The next tx runnable puts a frame in transit. -/
def Starts (self : Tx cap) : Prop := self.txFramedIOState = .none ∧ self.txDataFramingReady = true

instance (self : Tx cap) : Decidable (Starts self) := inferInstanceAs (Decidable (_ ∧ _))

/-- A frame uses up the ready flag. -/
theorem ready_runTx_of_starts {self : Tx cap} (starts : Starts self) :
    (runTx self).txDataFramingReady = false := by
  obtain ⟨idle_, ready⟩ := starts
  unfold runTx
  rw [if_neg (not_not_intro idle_), if_neg (by rw [ready]; exact nofun)]

theorem runTx_of_not_starts {self : Tx cap} (nothing : ¬ Starts self) : runTx self = self := by
  unfold runTx
  split
  · rfl
  · rename_i idle_
    exact if_pos (Bool.eq_false_of_not_eq_true fun ready => nothing ⟨Decidable.not_not.mp idle_, ready⟩)

theorem ready_readHead (self : Tx cap) (length : Nat) :
    (readHead self length).2.txDataFramingReady = self.txDataFramingReady := by
  unfold readHead
  split <;> rfl

theorem ready_readBody (self : Tx cap) (length : Nat) :
    (readBody self length).2.txDataFramingReady = self.txDataFramingReady := by
  unfold readBody
  split
  · dsimp only
    split <;> rfl
  · rfl

theorem ready_readFoot (self : Tx cap) (length : Nat) :
    (readFoot self length).2.txDataFramingReady = self.txDataFramingReady := by
  unfold readFoot
  split <;> rfl

/-- Reading neither asks for a frame nor uses up what asks for one. -/
theorem ready_getTxData (self : Tx cap) (length : Nat) :
    (getTxData self length).2.txDataFramingReady = self.txDataFramingReady := by
  have head := ready_readHead self length
  unfold getTxData
  split
  · rfl
  · dsimp only
    split
    · exact head
    · have body := ready_readBody (readHead self length).2 (length - (readHead self length).1.length)
      split
      · exact body.trans head
      · exact (ready_readFoot _ _).trans (body.trans head)

/-- A sender, how often it has been notified and how many frames it has started. -/
structure Counting (cap : Nat) where
  tx : Tx cap
  updates : Nat
  frames : Nat

def counting : Counting cap := ⟨createTx, 0, 0⟩

def countStep (c : Counting cap) (op : TxOp) : Counting cap :=
  let after := { c with tx := txStep c.tx op }
  match op with
  | .update _ => { after with updates := c.updates + 1 }
  | .runTx => if Starts c.tx then { after with frames := c.frames + 1 } else after
  | _ => after

/-- Whether no notification has come since creation or the last reset. -/
def unannounced (fresh : Bool) : TxOp → Bool
  | .update _ => false
  | .resetTx => true
  | _ => fresh

def RunsAnnounced (fresh : Bool) : TxOp → Prop
  | .runTx => fresh = false
  | _ => True

instance (fresh : Bool) : (op : TxOp) → Decidable (RunsAnnounced fresh op)
  | .runTx => inferInstanceAs (Decidable (_ = _))
  | .write _ | .update _ | .getTxData _ | .resetTx => inferInstanceAs (Decidable True)

/-- Between creation or a reset and the next run there is a notification. -/
def Announced (ops : List TxOp) : Prop := Run.Along unannounced RunsAnnounced true ops

instance (ops : List TxOp) : Decidable (Announced ops) := inferInstanceAs (Decidable (Run.Along _ _ _ _))

/-- The ready flag stands for a notification without a frame, unless it is still the one that
creation or a reset has set. -/
structure Balanced (fresh : Bool) (c : Counting cap) : Prop where
  fewer : c.frames ≤ c.updates
  owed : fresh = false → c.tx.txDataFramingReady = true → c.frames < c.updates

theorem balanced_step {fresh : Bool} {c : Counting cap} {op : TxOp} (balanced : Balanced fresh c)
    (announced : RunsAnnounced fresh op) : Balanced (unannounced fresh op) (countStep c op) := by
  obtain ⟨fewer, owed⟩ := balanced
  cases op with
  | write bytes => exact ⟨fewer, owed⟩
  | update type => exact ⟨Nat.le_succ_of_le fewer, fun _ _ => Nat.lt_succ_of_le fewer⟩
  | runTx =>
      by_cases starts : Starts c.tx
      · have started : countStep c .runTx = { c with tx := runTx c.tx, frames := c.frames + 1 } := if_pos starts
        rw [started]
        refine ⟨owed announced starts.2, fun _ ready => ?_⟩
        exact absurd ((ready_runTx_of_starts starts).symm.trans ready) Bool.false_ne_true
      · have still : countStep c .runTx = { c with tx := runTx c.tx } := if_neg starts
        rw [still, runTx_of_not_starts starts]
        exact ⟨fewer, owed⟩
  | getTxData length =>
      refine ⟨fewer, fun known ready => owed known ?_⟩
      exact (ready_getTxData c.tx length).symm.trans ready
  | resetTx => exact ⟨fewer, nofun⟩

theorem balanced_exec {fresh : Bool} {c : Counting cap} (balanced : Balanced fresh c) {ops : List TxOp}
    (announced : Run.Along unannounced RunsAnnounced fresh ops) :
    Balanced (Run.exec unannounced fresh ops) (Run.exec countStep c ops) := by
  induction ops generalizing fresh c with
  | nil => exact balanced
  | cons op ops ih => exact ih (balanced_step balanced announced.1) announced.2

/-- In a run in which every creation and every reset is followed by a notification before the
sender runs, there are no more frames than notifications. -/
theorem frames_le_updates {ops : List TxOp} (announced : Announced ops) :
    (Run.exec countStep (counting : Counting cap) ops).frames ≤
      (Run.exec countStep (counting : Counting cap) ops).updates := by
  have start : Balanced true (counting : Counting cap) := ⟨Nat.le_refl 0, nofun⟩
  have balanced := balanced_exec start announced
  exact balanced.fewer

/-- A notification, its frame, and a run that finds nothing to do; a reset in the middle of the
next frame, and a notification after it. -/
theorem frames_le_updates_announced :
    let ops : List TxOp := [.update .seNak, .runTx, .getTxData 9, .runTx, .update .seAck, .runTx, .getTxData 4,
      .resetTx, .update .seNak, .runTx]
    (Run.exec countStep (counting : Counting 4) ops).frames ≤
      (Run.exec countStep (counting : Counting 4) ops).updates :=
  frames_le_updates (by decide)

/-- A new sender starts a frame that nobody has asked for. -/
theorem frames_le_updates_fails : ¬ ∀ ops : List TxOp,
    (Run.exec countStep (counting : Counting 4) ops).frames ≤
      (Run.exec countStep (counting : Counting 4) ops).updates := by
  intro every
  exact absurd (every [.runTx]) (by decide)

end FramedIO
