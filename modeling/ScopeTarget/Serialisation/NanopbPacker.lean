import ScopeTarget.Base.Protobuf
import ScopeTarget.Serialisation.Serializer

/-! The bytes of an SC_DATA message, and the message a protobuf reader finds in
them. A sample is the bit pattern of its float. Lengths are those of buffers in
memory, so four bytes per sample do not overflow a `size_t`. -/

namespace Serialisation
open Protobuf

structure ScDataChannelDef where
  id : UInt32
  stream : List UInt32
  deriving DecidableEq, Repr

structure ScDataTriggerDef where
  isTriggered : Bool
  channelId : UInt32
  timestamp : UInt32
  triggerMode : UInt32
  deriving DecidableEq, Repr

/-- What has been added to the packer for the next SC_DATA message. -/
structure NanopbPacker where
  channels : List ScDataChannelDef
  trigger : ScDataTriggerDef
  timeIncrement : UInt32
  timestamp : Option (List UInt32)
  deriving DecidableEq, Repr

namespace NanopbPacker

/-- `PB_WT_STRING` -/
def lengthDelimited : Nat := 2

/-- The first `i` below four for which the value has no bit from `4 * i` on. -/
def getWidthOfVarint (data : UInt32) : Nat :=
  ([1, 2, 3].find? fun i => data.toNat >>> (i * 4) = 0).getD 1

/-- A repeated field of four-byte values. -/
def writeValues (field : Nat) (values : List UInt32) : List UInt8 :=
  tag field lengthDelimited ++ varint (values.length * 4) ++ packed32 values

def writeTimestamp (timestamp : List UInt32) : List UInt8 := writeValues 2 timestamp

def writeChannelData (channel : ScDataChannelDef) : List UInt8 := writeValues 1 channel.stream

/-- How nanopb writes a scalar field. -/
def encodeScalar (field : Nat) (value : UInt32) : List UInt8 :=
  if value = 0 then [] else tag field 0 ++ varint value.toNat

/-- `pb_encode` with `PB_SC_Channel_fields`. -/
def encodeChannel (channel : ScDataChannelDef) : List UInt8 :=
  writeChannelData channel ++ encodeScalar 2 channel.id

/-- The length the packer announces for a channel. -/
def channelLength (channel : ScDataChannelDef) : Nat :=
  let length := channel.stream.length
  let idSize := if channel.id ≠ 0 then 1 + getWidthOfVarint channel.id else 0
  length * 4 + 1 + idSize + getWidthOfVarint (UInt32.ofNat length)

def writeChannel (channels : List ScDataChannelDef) : List UInt8 :=
  channels.flatMap fun channel =>
    tag 1 lengthDelimited ++ varint (channelLength channel) ++ encodeChannel channel

/-- `pb_encode` with `PB_SC_Trigger_fields`. -/
def encodeTrigger (trigger : ScDataTriggerDef) : List UInt8 :=
  encodeScalar 1 trigger.channelId ++ encodeScalar 2 trigger.timestamp ++
    encodeScalar 3 trigger.triggerMode

def packScData (self : NanopbPacker) : List UInt8 :=
  (if self.channels.length > 0 then writeChannel self.channels else []) ++
    (match self.timestamp with
      | none => []
      | some timestamp => writeTimestamp timestamp) ++
    encodeScalar 3 self.timeIncrement ++
    if self.trigger.isTriggered = true then
      tag 4 lengthDelimited ++ varint (encodeTrigger self.trigger).length ++ encodeTrigger self.trigger
    else []

end NanopbPacker

/-! The messages of `se-scope.pb.h`. -/

structure ScChannel where
  data : List UInt32
  id : UInt32
  deriving DecidableEq, Repr

structure ScTrigger where
  clId : UInt32
  clDataInd : UInt32
  mode : UInt32
  deriving DecidableEq, Repr

structure ScData where
  channels : List ScChannel
  timestamps : List UInt32
  tInc : UInt32
  trigger : Option ScTrigger
  deriving DecidableEq, Repr

namespace ScChannel

def zero : ScChannel := ⟨[], 0⟩

/-- `PB_SC_Channel_FIELDLIST` -/
def merge (c : ScChannel) (f : Field) : Option ScChannel :=
  match f.number, f.value with
  | 1, .len bytes => (readPacked32 bytes).map fun data => { c with data := c.data ++ data }
  | 1, .fixed32 n => some { c with data := c.data ++ [n] }
  | 2, .varint n => some { c with id := UInt32.ofNat n }
  | 1, _ => none
  | 2, _ => none
  | _, _ => some c

end ScChannel

namespace ScTrigger

def zero : ScTrigger := ⟨0, 0, 0⟩

/-- `PB_SC_Trigger_FIELDLIST` -/
def merge (t : ScTrigger) (f : Field) : Option ScTrigger :=
  match f.number, f.value with
  | 1, .varint n => some { t with clId := UInt32.ofNat n }
  | 2, .varint n => some { t with clDataInd := UInt32.ofNat n }
  | 3, .varint n => some { t with mode := UInt32.ofNat n }
  | 1, _ => none
  | 2, _ => none
  | 3, _ => none
  | _, _ => some t

end ScTrigger

namespace ScData

def zero : ScData := ⟨[], [], 0, none⟩

/-- `PB_SC_Data_FIELDLIST` -/
def merge (d : ScData) (f : Field) : Option ScData :=
  match f.number, f.value with
  | 1, .len bytes =>
      (readMessage ScChannel.merge ScChannel.zero bytes).map fun c =>
        { d with channels := d.channels ++ [c] }
  | 2, .len bytes => (readPacked32 bytes).map fun ts => { d with timestamps := d.timestamps ++ ts }
  | 2, .fixed32 n => some { d with timestamps := d.timestamps ++ [n] }
  | 3, .varint n => some { d with tInc := UInt32.ofNat n }
  | 4, .len bytes =>
      (readMessage ScTrigger.merge (d.trigger.getD ScTrigger.zero) bytes).map fun t =>
        { d with trigger := some t }
  | 1, _ => none
  | 2, _ => none
  | 3, _ => none
  | 4, _ => none
  | _, _ => some d

def decode (bytes : List UInt8) : Option ScData := readMessage merge zero bytes

end ScData

namespace NanopbPacker

/-- The message the host should find. -/
def message (self : NanopbPacker) : ScData where
  channels := self.channels.map fun channel => ⟨channel.stream, channel.id⟩
  timestamps := self.timestamp.getD []
  tInc := self.timeIncrement
  trigger :=
    if self.trigger.isTriggered = true then
      some ⟨self.trigger.channelId, self.trigger.timestamp, self.trigger.triggerMode⟩
    else none

/-- The message is found again, and every channel is announced with its length. -/
def Decodable (self : NanopbPacker) : Prop :=
  ScData.decode self.packScData = some self.message ∧
    ∀ channel ∈ self.channels, channelLength channel = (encodeChannel channel).length

/-- The fields of a channel. -/
def channelFields (channel : ScDataChannelDef) : List Field :=
  ⟨1, .len (packed32 channel.stream)⟩ :: scalarFields 2 channel.id

def triggerFields (trigger : ScDataTriggerDef) : List Field :=
  scalarFields 1 trigger.channelId ++ scalarFields 2 trigger.timestamp ++
    scalarFields 3 trigger.triggerMode

def dataFields (self : NanopbPacker) : List Field :=
  (self.channels.map fun channel => ⟨1, .len (encodeChannel channel)⟩) ++
    (self.timestamp.map fun timestamp => ⟨2, .len (packed32 timestamp)⟩).toList ++
    scalarFields 3 self.timeIncrement ++
    if self.trigger.isTriggered = true then [⟨4, .len (encodeTrigger self.trigger)⟩] else []

theorem encodeScalar_eq (number : Nat) (value : UInt32) :
    encodeScalar number value = encodeFields (scalarFields number value) := by
  unfold encodeScalar scalarFields
  split
  · rfl
  · exact (encodeFields_singleton ⟨number, .varint value.toNat⟩).symm

theorem writeValues_eq (number : Nat) (values : List UInt32) :
    writeValues number values = (⟨number, .len (packed32 values)⟩ : Field).encode := by
  rw [writeValues, ← length_packed32, encode_len]
  rfl

theorem encodeChannel_eq (channel : ScDataChannelDef) :
    encodeChannel channel = encodeFields (channelFields channel) := by
  rw [encodeChannel, writeChannelData, writeValues_eq, encodeScalar_eq]
  rfl

theorem encodeTrigger_eq (trigger : ScDataTriggerDef) :
    encodeTrigger trigger = encodeFields (triggerFields trigger) := by
  rw [encodeTrigger, triggerFields, encodeFields_append, encodeFields_append, encodeScalar_eq,
    encodeScalar_eq, encodeScalar_eq]

/-- A channel whose length is announced right is a field of the message. -/
theorem writeChannel_eq {channels : List ScDataChannelDef}
    (right : ∀ channel ∈ channels, channelLength channel = (encodeChannel channel).length) :
    writeChannel channels =
      encodeFields (channels.map fun channel => ⟨1, .len (encodeChannel channel)⟩) := by
  induction channels with
  | nil => rfl
  | cons channel channels ih =>
      have first := right channel List.mem_cons_self
      have later := ih fun other member => right other (List.mem_cons_of_mem _ member)
      rw [writeChannel, List.flatMap_cons, ← writeChannel, later, first, List.map_cons,
        encodeFields_cons, encode_len]
      rfl

theorem packScData_eq {self : NanopbPacker}
    (right : ∀ channel ∈ self.channels, channelLength channel = (encodeChannel channel).length) :
    self.packScData = encodeFields self.dataFields := by
  have channels : (if self.channels.length > 0 then writeChannel self.channels else []) =
      encodeFields (self.channels.map fun channel => ⟨1, .len (encodeChannel channel)⟩) := by
    split
    · exact writeChannel_eq right
    · rename_i none_
      rw [List.length_eq_zero_iff.mp (Nat.eq_zero_of_not_pos none_)]
      rfl
  have timestamps : (match self.timestamp with
      | none => []
      | some timestamp => writeTimestamp timestamp) =
        encodeFields (self.timestamp.map fun timestamp => ⟨2, .len (packed32 timestamp)⟩).toList := by
    cases self.timestamp with
    | none => rfl
    | some timestamp => exact (writeValues_eq 2 timestamp).trans (encodeFields_singleton _).symm
  have trigger : (if self.trigger.isTriggered = true then
      tag 4 lengthDelimited ++ varint (encodeTrigger self.trigger).length ++ encodeTrigger self.trigger
      else []) = encodeFields (if self.trigger.isTriggered = true then
        [⟨4, .len (encodeTrigger self.trigger)⟩] else []) := by
    split
    · rw [encodeFields_singleton, encode_len]
      rfl
    · rfl
  rw [packScData, dataFields, encodeFields_append, encodeFields_append, encodeFields_append, channels,
    timestamps, trigger, encodeScalar_eq]

theorem read_encodeChannel (channel : ScDataChannelDef) :
    readMessage ScChannel.merge ScChannel.zero (encodeChannel channel) =
      some ⟨channel.stream, channel.id⟩ := by
  rw [encodeChannel_eq, readMessage_encodeFields, channelFields, List.foldlM_cons]
  have data : ScChannel.merge ScChannel.zero ⟨1, .len (packed32 channel.stream)⟩ =
      some ⟨channel.stream, 0⟩ := by
    change (readPacked32 (packed32 channel.stream)).map _ = _
    rw [readPacked32_packed32]
    rfl
  rw [data]
  exact foldlM_scalarFields (ScChannel.mk channel.stream) channel.id rfl fun n => rfl

theorem read_encodeTrigger (trigger : ScDataTriggerDef) :
    readMessage ScTrigger.merge ScTrigger.zero (encodeTrigger trigger) =
      some ⟨trigger.channelId, trigger.timestamp, trigger.triggerMode⟩ := by
  have clId : (scalarFields 1 trigger.channelId).foldlM ScTrigger.merge ScTrigger.zero =
      some ⟨trigger.channelId, 0, 0⟩ :=
    foldlM_scalarFields (fun v => ScTrigger.mk v 0 0) trigger.channelId rfl fun n => rfl
  have clDataInd : (scalarFields 2 trigger.timestamp).foldlM ScTrigger.merge
      ⟨trigger.channelId, 0, 0⟩ = some ⟨trigger.channelId, trigger.timestamp, 0⟩ :=
    foldlM_scalarFields (fun v => ScTrigger.mk trigger.channelId v 0) trigger.timestamp rfl fun n => rfl
  rw [encodeTrigger_eq, readMessage_encodeFields, triggerFields, List.append_assoc,
    foldlM_append_of_some clId, foldlM_append_of_some clDataInd]
  exact foldlM_scalarFields (ScTrigger.mk trigger.channelId trigger.timestamp) trigger.triggerMode rfl
    fun n => rfl

/-- Every channel of the list is found, behind those already known. -/
theorem read_channels (channels : List ScDataChannelDef) (known : ScData) :
    (channels.map fun channel => (⟨1, .len (encodeChannel channel)⟩ : Field)).foldlM ScData.merge known =
      some { known with
        channels := known.channels ++ channels.map fun channel => ⟨channel.stream, channel.id⟩ } := by
  induction channels generalizing known with
  | nil =>
      simp only [List.map_nil, List.append_nil]
      rfl
  | cons channel channels ih =>
      have first : ScData.merge known ⟨1, .len (encodeChannel channel)⟩ =
          some { known with channels := known.channels ++ [⟨channel.stream, channel.id⟩] } := by
        change (readMessage ScChannel.merge ScChannel.zero (encodeChannel channel)).map _ = _
        rw [read_encodeChannel]
        rfl
      rw [List.map_cons, List.foldlM_cons, first]
      change (channels.map _).foldlM ScData.merge _ = _
      rw [ih, List.append_assoc]
      rfl

theorem read_timestamps (timestamp : Option (List UInt32)) (channels : List ScChannel) :
    ((timestamp.map fun ts => (⟨2, .len (packed32 ts)⟩ : Field)).toList).foldlM ScData.merge
      ⟨channels, [], 0, none⟩ = some ⟨channels, timestamp.getD [], 0, none⟩ := by
  cases timestamp with
  | none => rfl
  | some timestamp =>
      have values : ScData.merge ⟨channels, [], 0, none⟩ ⟨2, .len (packed32 timestamp)⟩ =
          some ⟨channels, timestamp, 0, none⟩ := by
        change (readPacked32 (packed32 timestamp)).map _ = _
        rw [readPacked32_packed32]
        rfl
      rw [Option.map_some, Option.toList_some, List.foldlM_cons, values]
      rfl

theorem read_trigger (trigger : ScDataTriggerDef) (channels : List ScChannel)
    (timestamps : List UInt32) (tInc : UInt32) :
    (if trigger.isTriggered = true then
      [(⟨4, .len (encodeTrigger trigger)⟩ : Field)] else []).foldlM ScData.merge
        ⟨channels, timestamps, tInc, none⟩ =
      some ⟨channels, timestamps, tInc, if trigger.isTriggered = true then
        some ⟨trigger.channelId, trigger.timestamp, trigger.triggerMode⟩ else none⟩ := by
  split
  · have values : ScData.merge ⟨channels, timestamps, tInc, none⟩ ⟨4, .len (encodeTrigger trigger)⟩ =
        some ⟨channels, timestamps, tInc,
          some ⟨trigger.channelId, trigger.timestamp, trigger.triggerMode⟩⟩ := by
      change (readMessage ScTrigger.merge ScTrigger.zero (encodeTrigger trigger)).map _ = _
      rw [read_encodeTrigger]
      rfl
    rw [List.foldlM_cons, values]
    rfl
  · rfl

theorem read_tInc (tInc : UInt32) (channels : List ScChannel) (timestamps : List UInt32) :
    (scalarFields 3 tInc).foldlM ScData.merge ⟨channels, timestamps, 0, none⟩ =
      some ⟨channels, timestamps, tInc, none⟩ :=
  foldlM_scalarFields (fun v => ScData.mk channels timestamps v none) tInc rfl fun _ => rfl

theorem decode_packScData {self : NanopbPacker}
    (right : ∀ channel ∈ self.channels, channelLength channel = (encodeChannel channel).length) :
    ScData.decode self.packScData = some self.message := by
  have channels : (self.channels.map fun channel =>
      (⟨1, .len (encodeChannel channel)⟩ : Field)).foldlM ScData.merge ScData.zero =
        some ⟨self.channels.map fun channel => ⟨channel.stream, channel.id⟩, [], 0, none⟩ :=
    read_channels self.channels ScData.zero
  rw [packScData_eq right, ScData.decode, readMessage_encodeFields, dataFields, List.append_assoc,
    List.append_assoc, foldlM_append_of_some channels,
    foldlM_append_of_some (read_timestamps self.timestamp _),
    foldlM_append_of_some (read_tInc self.timeIncrement _ _)]
  exact read_trigger self.trigger _ _ _

/-- The guessed widths add up for this many samples and this identifier: both are
right, or one is a byte too long and the other a byte too short. -/
def Predicted (samples id : Nat) : Prop :=
  ((samples < 16 ∨ 32 ≤ samples ∧ samples < 256) ∧ (id < 16 ∨ 128 ≤ id ∧ id < 256)) ∨
    ((16 ≤ samples ∧ samples < 32 ∨ 256 ≤ samples ∧ samples < 4096) ∧ 4096 ≤ id ∧ id < 16384)

/-- Four bits per byte, and one byte for all that the loop does not reach. -/
theorem getWidthOfVarint_spec (data : UInt32) :
    (data.toNat < 16 → getWidthOfVarint data = 1) ∧
      (16 ≤ data.toNat → data.toNat < 256 → getWidthOfVarint data = 2) ∧
      (256 ≤ data.toNat → data.toNat < 4096 → getWidthOfVarint data = 3) ∧
      (4096 ≤ data.toNat → getWidthOfVarint data = 1) := by
  have noBits (i : Nat) : data.toNat >>> i = 0 ↔ data.toNat < 2 ^ i := by
    rw [Nat.shiftRight_eq_div_pow, Nat.div_eq_zero_iff_lt (Nat.two_pow_pos i)]
  unfold getWidthOfVarint
  simp only [List.find?_cons, List.find?_nil, noBits, Nat.reducePow, Nat.reduceMul]
  refine ⟨?_, ?_, ?_, ?_⟩
  · intro below
    simp [below]
  · intro above below
    have notOne : ¬ data.toNat < 16 := by omega
    simp [notOne, below]
  · intro above below
    have notOne : ¬ data.toNat < 16 := by omega
    have notTwo : ¬ data.toNat < 256 := by omega
    simp [notOne, notTwo, below]
  · intro above
    have notOne : ¬ data.toNat < 16 := by omega
    have notTwo : ¬ data.toNat < 256 := by omega
    have notThree : ¬ data.toNat < 4096 := by omega
    simp [notOne, notTwo, notThree]

theorem length_encodeScalar (value : UInt32) :
    (encodeScalar 2 value).length = if value.toNat = 0 then 0 else 1 + (varint value.toNat).length := by
  unfold encodeScalar
  by_cases isZero : value = 0
  · rw [if_pos isZero, isZero]
    rfl
  · have positive : value.toNat ≠ 0 := fun zero => isZero (UInt32.toNat_inj.mp zero)
    rw [if_neg isZero, if_neg positive, List.length_append]
    rfl

theorem length_encodeChannel (channel : ScDataChannelDef) :
    (encodeChannel channel).length = 1 + (varint (channel.stream.length * 4)).length +
      channel.stream.length * 4 +
      if channel.id.toNat = 0 then 0 else 1 + (varint channel.id.toNat).length := by
  rw [encodeChannel, List.length_append, length_encodeScalar, writeChannelData, writeValues,
    List.length_append, List.length_append, length_packed32]
  rfl

/-- How far the width guessed for the data length is from the width written. -/
theorem samplesWidth (samples : Nat) :
    let written := (varint (samples * 4)).length
    let guessed := getWidthOfVarint (UInt32.ofNat samples)
    (samples < 16 ∨ 32 ≤ samples ∧ samples < 256 → written = guessed) ∧
      (16 ≤ samples ∧ samples < 32 ∨ 256 ≤ samples ∧ samples < 4096 → written + 1 = guessed) ∧
      (4096 ≤ samples → guessed + 2 ≤ written) := by
  have w0 := length_varint_le_iff (samples * 4) 0
  have w1 := length_varint_le_iff (samples * 4) 1
  have w3 := length_varint_le_iff (samples * 4) 3
  have some_ := List.length_pos_of_ne_nil (varint_ne_nil (samples * 4))
  have width := getWidthOfVarint_spec (UInt32.ofNat samples)
  rw [UInt32.toNat_ofNat'] at width
  dsimp only
  generalize (varint (samples * 4)).length = written at *
  generalize getWidthOfVarint (UInt32.ofNat samples) = guessed at *
  refine ⟨?_, ?_, ?_⟩
  · intro inside
    omega
  · intro inside
    omega
  · intro above
    omega

theorem idWidth (id : UInt32) :
    let written := (varint id.toNat).length
    let guessed := getWidthOfVarint id
    (id.toNat < 16 ∨ 128 ≤ id.toNat ∧ id.toNat < 256 → written = guessed) ∧
      (16 ≤ id.toNat ∧ id.toNat < 128 ∨ 256 ≤ id.toNat ∧ id.toNat < 4096 → written + 1 = guessed) ∧
      (4096 ≤ id.toNat → id.toNat < 16384 → written = guessed + 1) ∧
      (16384 ≤ id.toNat → guessed + 2 ≤ written) := by
  have w0 := length_varint_le_iff id.toNat 0
  have w1 := length_varint_le_iff id.toNat 1
  have some_ := List.length_pos_of_ne_nil (varint_ne_nil id.toNat)
  have width := getWidthOfVarint_spec id
  dsimp only
  generalize (varint id.toNat).length = written at *
  generalize getWidthOfVarint id = guessed at *
  refine ⟨?_, ?_, ?_, ?_⟩
  · intro inside
    omega
  · intro inside
    omega
  · intro above below
    omega
  · intro above
    omega

theorem channelLength_eq_iff (channel : ScDataChannelDef) :
    channelLength channel = (encodeChannel channel).length ↔
      Predicted channel.stream.length channel.id.toNat := by
  have samples := samplesWidth channel.stream.length
  have ids := idWidth channel.id
  rw [length_encodeChannel, channelLength, Predicted]
  dsimp only at *
  generalize (varint (channel.stream.length * 4)).length = writtenSamples at *
  generalize (varint channel.id.toNat).length = writtenId at *
  generalize getWidthOfVarint (UInt32.ofNat channel.stream.length) = guessedSamples at *
  generalize getWidthOfVarint channel.id = guessedId at *
  -- an identifier that is zero is left out, and is not announced either
  by_cases isZero : channel.id.toNat = 0
  · have absent : ¬ channel.id ≠ 0 := not_not.mpr (UInt32.toNat_inj.mp isZero)
    rw [if_neg absent, if_pos isZero]
    omega
  · have present : channel.id ≠ 0 := fun zero => isZero (congrArg UInt32.toNat zero)
    rw [if_pos present, if_neg isZero]
    omega

/-- The message is found again, under the lengths announced for its channels, just
when the guessed widths add up for every channel. -/
theorem decodable_iff (self : NanopbPacker) :
    self.Decodable ↔
      ∀ channel ∈ self.channels, Predicted channel.stream.length channel.id.toNat := by
  constructor
  · intro decodable channel member
    exact (channelLength_eq_iff channel).mp (decodable.2 channel member)
  · intro predicted
    have right : ∀ channel ∈ self.channels,
        channelLength channel = (encodeChannel channel).length := by
      intro channel member
      exact (channelLength_eq_iff channel).mpr (predicted channel member)
    exact ⟨decode_packScData right, right⟩

/-- One sample of the channel 16 is announced as nine bytes, but written in eight. -/
theorem decodable_fails :
    ¬ Decodable ⟨[⟨16, [0x3F800000]⟩], ⟨false, 0, 0, 0⟩, 1, some [5]⟩ := by
  intro decodable
  have found := decodable.1
  revert found
  decide

end NanopbPacker

end Serialisation
