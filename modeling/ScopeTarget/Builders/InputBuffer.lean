import ScopeTarget.Builders.HandledCommands

/-! The input buffer between two frames. The framer counts what is stored there as
bytes of the current frame and clears it only when a frame is refused; for the
rest it relies on the unpacker having read every payload to its end. -/

namespace FramedIO
variable {cap : Nat}

/-- Between two frames, or in front of the payload of one. -/
def InHeader (s : Rx cap) : Prop :=
  s.rxFramedIOState = .startFlag ∨ s.rxFramedIOState = .type ∨ s.rxFramedIOState = .length

instance (s : Rx cap) : Decidable (InHeader s) := inferInstanceAs (Decidable (_ ∨ _))

/-- Without an accepted frame, there is nothing in front of a payload. -/
def CleanRx (s : Rx cap) : Prop := InHeader s → s.rxDataReady = false → s.input = .empty

theorem cleanRx_createRx : CleanRx (createRx : Rx cap) := fun _ _ => rfl

theorem cleanRx_of_not_inHeader {s : Rx cap} (inside : ¬ InHeader s) : CleanRx s :=
  fun header => absurd header inside

theorem cleanRx_of_same {s s' : Rx cap} (clean : CleanRx s) (header : InHeader s)
    (ready : s'.rxDataReady = s.rxDataReady) (input : s'.input = s.input) : CleanRx s' := by
  intro _ waits
  rw [ready] at waits
  rw [input]
  exact clean header waits

theorem cleanRx_checkStartFlag {s : Rx cap} (clean : CleanRx s) (data : List UInt8) :
    CleanRx (checkStartFlag s data).1 := by
  unfold checkStartFlag
  split
  · rename_i here
    split
    · exact clean
    · exact cleanRx_of_same clean (.inl here) rfl rfl
  · exact clean

theorem cleanRx_checkType {s : Rx cap} (clean : CleanRx s) (data : List UInt8) :
    CleanRx (checkType s data).1 := by
  unfold checkType
  split
  · rename_i here
    split
    · exact clean
    · exact cleanRx_of_same clean (.inr (.inl here)) rfl rfl
  · exact clean

/-- The length bytes go into fields of their own. -/
theorem readLength_same (s : Rx cap) (data : List UInt8) :
    (readLength s data).1.rxFramedIOState = s.rxFramedIOState ∧
      (readLength s data).1.rxDataReady = s.rxDataReady ∧ (readLength s data).1.input = s.input := by
  induction data generalizing s with
  | nil => exact ⟨rfl, rfl, rfl⟩
  | cons byte rest ih =>
      unfold readLength
      split
      · exact ih (addLengthByte s byte)
      · exact ⟨rfl, rfl, rfl⟩

theorem cleanRx_checkLength {s : Rx cap} (clean : CleanRx s) (data : List UInt8) :
    CleanRx (checkLength s data).1 := by
  unfold checkLength
  split
  · rename_i here
    obtain ⟨-, ready, input⟩ := readLength_same s data
    dsimp only
    split
    · exact cleanRx_of_same clean (.inr (.inr here)) ready input
    · exact cleanRx_of_same clean (.inr (.inr here)) ready input
  · exact clean

theorem readData_state (s : Rx cap) (data : List UInt8) :
    (readData s data).1.rxFramedIOState = s.rxFramedIOState := by
  induction data generalizing s with
  | nil => rfl
  | cons byte rest ih =>
      unfold readData
      split
      · exact ih (addDataByte s byte)
      · rfl

theorem cleanRx_checkData {s : Rx cap} (clean : CleanRx s) (data : List UInt8) :
    CleanRx (checkData s data).1 := by
  unfold checkData
  split
  · rename_i here
    have state : (readData s data).1.rxFramedIOState = .data := (readData_state s data).trans here
    dsimp only
    split
    · exact cleanRx_of_not_inHeader (by unfold InHeader; dsimp only; decide)
    · apply cleanRx_of_not_inHeader
      rw [InHeader, state]
      decide
  · exact clean

theorem readChecksum_state (s : Rx cap) (data : List UInt8) :
    (readChecksum s data).1.rxFramedIOState = s.rxFramedIOState := by
  induction data generalizing s with
  | nil => rfl
  | cons byte rest ih =>
      unfold readChecksum
      split
      · exact ih (addChecksumByte s byte)
      · rfl

theorem cleanRx_checkChecksum {s : Rx cap} (clean : CleanRx s) (data : List UInt8) :
    CleanRx (checkChecksum s data).1 := by
  unfold checkChecksum
  split
  · rename_i here
    have state : (readChecksum s data).1.rxFramedIOState = .checksum :=
      (readChecksum_state s data).trans here
    dsimp only
    split
    · unfold compareChecksum
      split
      · exact cleanRx_of_not_inHeader (by unfold InHeader; dsimp only; decide)
      · exact cleanRx_createRx
    · apply cleanRx_of_not_inHeader
      rw [InHeader, state]
      decide
  · exact clean

/-- An accepted frame is announced, a refused one is dropped. -/
theorem cleanRx_checkEndFlag {s : Rx cap} (clean : CleanRx s) (data : List UInt8) :
    CleanRx (checkEndFlag s data).1 := by
  unfold checkEndFlag
  split
  · split
    · exact clean
    · split
      · intro _ waits
        cases waits
      · exact cleanRx_createRx
  · exact clean

theorem cleanRx_checkAll {s : Rx cap} (clean : CleanRx s) (data : List UInt8) :
    CleanRx (checkAll s data).1 := by
  unfold checkAll
  apply cleanRx_checkEndFlag
  apply cleanRx_checkChecksum
  apply cleanRx_checkData
  apply cleanRx_checkLength
  apply cleanRx_checkType
  exact cleanRx_checkStartFlag clean data

theorem cleanRx_putLoop {fuel : Nat} {s : Rx cap} {data : List UInt8} {valid : Bool}
    (clean : CleanRx s) : ∀ r ∈ putLoop fuel s data valid, CleanRx r.1 := by
  induction fuel generalizing s data valid with
  | zero =>
      intro r none_
      cases none_
  | succ fuel ih =>
      have pass := cleanRx_checkAll clean data
      intro r returned
      dsimp only [putLoop] at returned
      -- what the checks do to the state plays no role here
      generalize checkAll s data = checked at pass returned
      split at returned
      · obtain rfl := Option.some.inj returned
        exact pass
      · exact ih pass r returned

/-- Bytes of any kind, in calls of any length, bring nothing in front of a payload. -/
theorem cleanRx_putRxData {s : Rx cap} (clean : CleanRx s) (data : List UInt8) :
    ∀ r ∈ putRxData s data, CleanRx r.1 := by
  intro r returned
  unfold putRxData at returned
  split at returned
  · obtain rfl := Option.some.inj returned
    exact clean
  · split at returned
    · exact cleanRx_putLoop clean r returned
    · cases returned

end FramedIO

namespace Serialisation
open Control
variable {α β : Type*} {capacity : Nat}

/-- The decoder leaves nothing of so many bytes. -/
def Decoded.ReadsAll (length : Nat) : Decoded β → Prop
  | success _ => True
  | failure consumed _ => length ≤ consumed

instance (length : Nat) (decoded : Decoded β) : Decidable (decoded.ReadsAll length) :=
  match decoded with
  | .success _ => inferInstanceAs (Decidable True)
  | .failure _ _ => inferInstanceAs (Decidable (_ ≤ _))

/-- The message has a decoder that reads its payload to the end, or no payload. -/
def PbDecode.ReadsAll (pb : PbDecode α) (type : MessageType) (payload : List UInt8) : Prop :=
  if type = .evPoll then (pb.evPoll payload).ReadsAll payload.length
  else if type = .cfRunning then (pb.cfRunning payload).ReadsAll payload.length
  else if type = .cfTrigger then (pb.cfTrigger payload).ReadsAll payload.length
  else if type = .cfTInc then (pb.cfTInc payload).ReadsAll payload.length
  else if type = .cfAddr then (pb.cfAddr payload).ReadsAll payload.length
  else payload = []

theorem unread_eq_empty_iff (input : Fifo capacity UInt8) (decoded : Decoded β) :
    decoded.unread input = .empty ↔ decoded.ReadsAll input.contents.length := by
  cases decoded with
  | success value => exact iff_of_true rfl trivial
  | failure consumed seen =>
      obtain ⟨-, left⟩ := Fifo.contents_read_of_le (Nat.min_le_left input.used consumed)
      have empty : (input.read (min input.used consumed)).2 = .empty ↔
          (input.read (min input.used consumed)).2.contents = [] :=
        ⟨fun none_ => congrArg Fifo.contents none_, fun none_ => Fifo.ext none_⟩
      dsimp only [Decoded.unread, Decoded.ReadsAll]
      rw [empty, left, List.drop_eq_nil_iff, Nat.le_min, ← Fifo.used_eq_length]
      exact and_iff_right (Nat.le_refl _)

namespace NanopbUnpacker

theorem input_unpack_iff (pb : PbDecode α) (unpacker : Unpacker α) (input : Fifo capacity UInt8)
    (type : MessageType) :
    (unpack pb (unpacker, input) type).2.2 = .empty ↔ pb.ReadsAll type input.contents := by
  rcases plain_cases type with rfl | rfl | rfl | rfl | rfl | plain
  · exact unread_eq_empty_iff input (pb.evPoll input.contents)
  · exact unread_eq_empty_iff input (pb.cfRunning input.contents)
  · exact unread_eq_empty_iff input (pb.cfTrigger input.contents)
  · exact unread_eq_empty_iff input (pb.cfTInc input.contents)
  · exact unread_eq_empty_iff input (pb.cfAddr input.contents)
  · rw [unpack_of_plain pb (unpacker, input) plain]
    obtain ⟨notPoll, notRunning, notTrigger, notTInc, notAddr⟩ := plain
    rw [PbDecode.ReadsAll, if_neg notPoll, if_neg notRunning, if_neg notTrigger, if_neg notTInc,
      if_neg notAddr, Fifo.contents_eq_nil_iff]
    exact Fifo.eq_empty_iff input

end NanopbUnpacker

end Serialisation

namespace Builders
open FramedIO Serialisation Control

/-- The modules that share the input buffer. -/
structure ReceivePath (cap : Nat) (α : Type*) where
  rx : Rx cap
  serializer : Serializer
  unpacker : Unpacker α

inductive ReceiveStep where
  | putRxData (data : List UInt8)
  | runCommunicationRx
  | runSerializerRx

namespace ReceivePath
variable {cap : Nat} {α : Type*} (pb : PbDecode α)

def create (unpacker : Unpacker α) : ReceivePath cap α := ⟨createRx, Serializer.create, unpacker⟩

def putRxData (s : ReceivePath cap α) (data : List UInt8) : ReceivePath cap α :=
  match FramedIO.putRxData s.rx data with
  | none => s
  | some called => { s with rx := called.1 }

def runCommunicationRx (s : ReceivePath cap α) : ReceivePath cap α :=
  let received := runRx s.rx
  { s with
    rx := received.1
    serializer := match received.2 with
      | none => s.serializer
      | some type => s.serializer.updateUnpacker type }

def runSerializerRx (s : ReceivePath cap α) : ReceivePath cap α :=
  let parsed := s.serializer.runRx (NanopbUnpacker.unpack pb) (s.unpacker, s.rx.input)
  { rx := { s.rx with input := parsed.2.2.2 }, serializer := parsed.2.1, unpacker := parsed.2.2.1 }

/-- Nothing is reached behind a call that does not return; here the state stays. -/
def step (s : ReceivePath cap α) : ReceiveStep → ReceivePath cap α
  | .putRxData data => s.putRxData data
  | .runCommunicationRx => s.runCommunicationRx
  | .runSerializerRx => s.runSerializerRx pb

/-- With nothing on its way to the controller, there is nothing in front of a payload. -/
def Clean (s : ReceivePath cap α) : Prop := s.serializer.unpackingPending = .seNone → CleanRx s.rx

/-- No frame of type SE_NONE with a payload is passed on, and a message is read to its
end before the header of the next frame is left. -/
def Consumes (s : ReceivePath cap α) : ReceiveStep → Prop
  | .putRxData _ => True
  | .runCommunicationRx =>
      s.rx.rxDataReady = true → s.rx.rxType = .seNone → InHeader s.rx → s.rx.input = .empty
  | .runSerializerRx =>
      s.serializer.unpackingPending ≠ .seNone → InHeader s.rx → s.rx.rxDataReady = false →
        pb.ReadsAll s.serializer.unpackingPending s.rx.input.contents

theorem clean_putRxData {s : ReceivePath cap α} (clean : s.Clean) (data : List UInt8) :
    (s.putRxData data).Clean := by
  unfold putRxData
  cases called : FramedIO.putRxData s.rx data with
  | none => exact clean
  | some r =>
      intro nothing
      exact cleanRx_putRxData (clean nothing) data r called

theorem clean_runCommunicationRx_iff {s : ReceivePath cap α} (clean : s.Clean) :
    s.runCommunicationRx.Clean ↔ s.Consumes pb .runCommunicationRx := by
  unfold runCommunicationRx Consumes
  by_cases ready : s.rx.rxDataReady = false
  · have ran : runRx s.rx = (s.rx, none) := if_pos ready
    rw [ran]
    refine iff_of_true clean ?_
    intro accepted
    cases ready.symm.trans accepted
  · have ran : runRx s.rx = ({ s.rx with rxDataReady := false, rxType := .seNone }, some s.rx.rxType) :=
      if_neg ready
    have accepted : s.rx.rxDataReady = true := eq_true_of_ne_false ready
    rw [ran]
    constructor
    · intro after _ untyped header
      exact after untyped header rfl
    · intro consumes untyped header _
      exact consumes accepted untyped header

theorem clean_runSerializerRx_iff {s : ReceivePath cap α} (clean : s.Clean) :
    (s.runSerializerRx pb).Clean ↔ s.Consumes pb .runSerializerRx := by
  unfold runSerializerRx Consumes
  by_cases nothing : s.serializer.unpackingPending = .seNone
  · have parsed : s.serializer.runRx (NanopbUnpacker.unpack pb) (s.unpacker, s.rx.input) =
        (none, s.serializer, (s.unpacker, s.rx.input)) := if_pos nothing
    rw [parsed]
    exact iff_of_true clean fun some_ => absurd nothing some_
  · have parsed := runRx_pending pb s.serializer nothing (s.unpacker, s.rx.input)
    rw [parsed]
    constructor
    · intro after _ header waits
      exact (NanopbUnpacker.input_unpack_iff pb s.unpacker s.rx.input _).mp
        (after rfl header waits)
    · intro consumes _ header waits
      exact (NanopbUnpacker.input_unpack_iff pb s.unpacker s.rx.input _).mpr
        (consumes nothing header waits)

theorem clean_step_iff {s : ReceivePath cap α} (clean : s.Clean) (taken : ReceiveStep) :
    (s.step pb taken).Clean ↔ s.Consumes pb taken := by
  cases taken with
  | putRxData data => exact iff_of_true (clean_putRxData clean data) trivial
  | runCommunicationRx => exact clean_runCommunicationRx_iff pb clean
  | runSerializerRx => exact clean_runSerializerRx_iff pb clean

/-- In a run from creation, the input buffer is clean in every state that is reached
exactly when every step consumes what it has to. -/
theorem clean_iff_consumes (unpacker : Unpacker α) (steps : List ReceiveStep) :
    Run.Along (step pb) (fun s taken => (s.step pb taken).Clean)
        (create unpacker : ReceivePath cap α) steps ↔
      Run.Along (step pb) (Consumes pb) (create unpacker : ReceivePath cap α) steps := by
  apply Run.along_preserves_iff
  · exact fun s taken clean => clean_step_iff pb clean taken
  · exact fun _ => cleanRx_createRx

/-- A frame of type EV_ANNOUNCE with a payload, which has no decoder. -/
def announceWithPayload : Frame 8 := ⟨.evAnnounce, [7], by decide, by decide⟩

/-- The payload stays in the buffer for the next frame. -/
theorem clean_fails :
    ¬ Run.Along (step Served.oneField) (fun s taken => (s.step Served.oneField taken).Clean)
        (create Served.decoded : ReceivePath 8 Int)
        [.putRxData announceWithPayload.encode, .runCommunicationRx, .runSerializerRx] := by
  intro along
  have last := along.2.2.1
  exact absurd (last (by decide) (by decide) (by decide)) (by decide)

end ReceivePath

end Builders
