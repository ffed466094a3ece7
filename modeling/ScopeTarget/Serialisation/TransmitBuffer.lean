import Mathlib.Algebra.Order.BigOperators.Group.List
import Mathlib.Algebra.Order.Ring.Nat
import ScopeTarget.Control.CommandPackLog

/-! How long the messages of the packer can get, and the size of the buffer they
are written to. -/

namespace Serialisation
open Protobuf Control

namespace NanopbPacker

/-- Sizes are those of a 64-bit `size_t`: nothing overflows up to `2 ^ 20` each. -/
def calculateBufferSize (maxNumberOfChannels sizeOfChannels maxAddressesToAnnounce : Nat) : Nat :=
  let channelMetaData := 1 + 1 + 1 + (1 + 1 + 1) * 4
  let dataSpace := (sizeOfChannels * 4 + channelMetaData) * maxNumberOfChannels
  let triggerSize := 14
  let tIncSize := 1 * 4 + 1
  let timestampSize := (sizeOfChannels + 1) * 4 + 1
  let scDataSize := dataSpace + triggerSize + tIncSize + timestampSize
  let announceMetaDataSize := 5 * 3
  let scAnnounceSize := configurationSize * maxAddressesToAnnounce + announceMetaDataSize
  if scAnnounceSize > scDataSize then scAnnounceSize else scDataSize

/-- A data set of a scope with `C` channels of `N` samples. -/
structure OfScope (C N : Nat) (packer : NanopbPacker) : Prop where
  amount : packer.channels.length ≤ C
  channel : ∀ channel ∈ packer.channels, channel.id.toNat < C ∧ channel.stream.length ≤ N
  timestamps : ∀ timestamp ∈ packer.timestamp, timestamp.length ≤ N
  trigger : packer.trigger.isTriggered = true →
    packer.trigger.channelId.toNat < C ∧ packer.trigger.triggerMode.toNat ≤ 2

/-- An announcement of a target with `C` channels and places for `A` addresses. -/
structure OfTarget (C A : Nat) (announcement : ScAnnouncementData) : Prop where
  amount : announcement.announceChannels.length ≤ A
  address : ∀ address ∈ announcement.announceChannels, address.id.toNat < A ∧ address.Fits
  maxChannels : announcement.announcMeta.maxChannels = UInt32.ofNat C
  version : announcement.announcMeta.version = seScopeTargetVersion

/-- The payloads the packer can be asked to write. -/
inductive Asked (C N A : Nat) : List UInt8 → Prop
  | data (packer : NanopbPacker) (ofScope : OfScope C N packer) : Asked C N A packer.packScData
  | announce (announcement : ScAnnouncementData) (ofTarget : OfTarget C A announcement) :
      Asked C N A (packScAnnounce announcement)
  | log {capacity : Nat} (memory : CharArray 50) (logStream : Fifo capacity UInt8) :
      Asked C N A (packScLog (CommandPackLog.run memory logStream).1)

theorem length_flatMap_le {β : Type*} {f : β → List UInt8} {xs : List β} {most : Nat}
    (each : ∀ x ∈ xs, (f x).length ≤ most) : (xs.flatMap f).length ≤ xs.length * most := by
  have bounded : ∀ n ∈ xs.map fun x => (f x).length, n ≤ most := by
    intro n member
    obtain ⟨x, here, rfl⟩ := List.mem_map.mp member
    exact each x here
  have sum := List.sum_le_card_nsmul _ most bounded
  rw [List.length_map, nsmul_eq_mul, Nat.cast_id] at sum
  rw [List.length_flatMap]
  exact sum

theorem getWidthOfVarint_le (data : UInt32) : getWidthOfVarint data ≤ 3 := by
  have width := getWidthOfVarint_spec data
  omega

section Data
variable {C N : Nat}

theorem length_encodeChannel_le {channel : ScDataChannelDef} (id : channel.id.toNat < 2 ^ 20)
    (samples : channel.stream.length ≤ 2 ^ 20) :
    (encodeChannel channel).length ≤ channel.stream.length * 4 + 9 := by
  have idWidth : (varint channel.id.toNat).length ≤ 2 + 1 :=
    length_varint_le (Nat.lt_trans id (by decide))
  have samplesWidth : (varint (channel.stream.length * 4)).length ≤ 3 + 1 :=
    length_varint_le (Nat.lt_of_le_of_lt (Nat.mul_le_mul_right 4 samples) (by decide))
  rw [length_encodeChannel]
  split <;> omega

theorem channelLength_le (channel : ScDataChannelDef) :
    channelLength channel ≤ channel.stream.length * 4 + 8 := by
  have id := getWidthOfVarint_le channel.id
  have samples := getWidthOfVarint_le (UInt32.ofNat channel.stream.length)
  unfold channelLength
  dsimp only
  split <;> omega

theorem length_writeChannel_le {channels : List ScDataChannelDef} (id : C ≤ 2 ^ 20) (samples : N ≤ 2 ^ 20)
    (each : ∀ channel ∈ channels, channel.id.toNat < C ∧ channel.stream.length ≤ N) :
    (writeChannel channels).length ≤ channels.length * (N * 4 + 14) := by
  apply length_flatMap_le
  intro channel member
  obtain ⟨inRange, fits⟩ := each channel member
  have body := length_encodeChannel_le (Nat.lt_of_lt_of_le inRange id) (fits.trans samples)
  have announced := channelLength_le channel
  have width : (varint (channelLength channel)).length ≤ 3 + 1 := length_varint_le (by omega)
  have tagged : (tag 1 lengthDelimited).length = 1 := rfl
  rw [List.length_append, List.length_append, tagged]
  omega

theorem length_writeTimestamp_le {timestamp : List UInt32} (fits : timestamp.length ≤ N)
    (samples : N ≤ 2 ^ 20) : (writeTimestamp timestamp).length ≤ N * 4 + 5 := by
  have width : (varint (timestamp.length * 4)).length ≤ 3 + 1 := length_varint_le (by omega)
  have tagged : (tag 2 lengthDelimited).length = 1 := rfl
  rw [writeTimestamp, writeValues, List.length_append, List.length_append, tagged, length_packed32]
  omega

theorem length_encodeTrigger_le {trigger : ScDataTriggerDef} (channelId : trigger.channelId.toNat < 2 ^ 20)
    (mode : trigger.triggerMode.toNat ≤ 2) : (encodeTrigger trigger).length ≤ 12 := by
  have id := length_scalarFields_le (by decide : 1 < 15) 2 (Nat.lt_trans channelId (by decide))
  have time := length_scalarFields_le_six (by decide : 2 < 15) trigger.timestamp
  have kind := length_scalarFields_le (by decide : 3 < 15) 0 (Nat.lt_of_le_of_lt mode (by decide))
  rw [encodeTrigger, encodeScalar_eq, encodeScalar_eq, encodeScalar_eq, List.length_append,
    List.length_append]
  omega

/-- The identifiers and the samples leave a byte of every channel unused. -/
theorem length_packScData_le {packer : NanopbPacker} (ofScope : OfScope C N packer) (channels : C ≤ 2 ^ 20)
    (samples : N ≤ 2 ^ 20) : packer.packScData.length ≤ C * (N * 4 + 14) + N * 4 + 25 := by
  have data : (if packer.channels.length > 0 then writeChannel packer.channels else []).length ≤
      C * (N * 4 + 14) := by
    split
    · exact (length_writeChannel_le channels samples ofScope.channel).trans
        (Nat.mul_le_mul_right _ ofScope.amount)
    · exact Nat.zero_le _
  have increment : (encodeScalar 3 packer.timeIncrement).length ≤ 6 := by
    rw [encodeScalar_eq]
    exact length_scalarFields_le_six (by decide) _
  have trigger : (if packer.trigger.isTriggered = true then
      tag 4 lengthDelimited ++ varint (encodeTrigger packer.trigger).length ++ encodeTrigger packer.trigger
      else []).length ≤ 14 := by
    split
    · rename_i triggered
      obtain ⟨channelId, mode⟩ := ofScope.trigger triggered
      have body := length_encodeTrigger_le (Nat.lt_of_lt_of_le channelId channels) mode
      have width : (varint (encodeTrigger packer.trigger).length).length ≤ 0 + 1 :=
        length_varint_le (by omega)
      have tagged : (tag 4 lengthDelimited).length = 1 := rfl
      rw [List.length_append, List.length_append, tagged]
      omega
    · exact Nat.zero_le _
  have sum : ∀ {a b c d : Nat}, a ≤ C * (N * 4 + 14) → b ≤ N * 4 + 5 → c ≤ 6 → d ≤ 14 →
      a + b + c + d ≤ C * (N * 4 + 14) + N * 4 + 25 := by
    intro a b c d channels times increment trigger
    omega
  rw [packScData, List.length_append, List.length_append, List.length_append]
  refine sum data ?_ increment trigger
  cases given : packer.timestamp with
  | none => exact Nat.zero_le _
  | some timestamp => exact length_writeTimestamp_le (ofScope.timestamps timestamp given) samples

end Data

theorem length_packScAnnounce_le {C A : Nat} {announcement : ScAnnouncementData} (ofTarget : OfTarget C A announcement)
    (channels : C ≤ 2 ^ 20) (addresses : A ≤ 2 ^ 20) :
    (packScAnnounce announcement).length ≤ configurationSize * A + 15 := by
  have fit : ∀ address ∈ announcement.announceChannels, address.Fits :=
    fun address member => (ofTarget.address address member).2
  have version : announcement.announcMeta.version.length = 3 := by
    rw [ofTarget.version]
    rfl
  have each : ∀ f ∈ channelsFields announcement.announceChannels, f.encode.length ≤ configurationSize := by
    intro f member
    obtain ⟨address, here, rfl⟩ := List.mem_map.mp member
    obtain ⟨inRange, fits⟩ := ofTarget.address address here
    have id : address.id.toNat < 128 ^ (2 + 1) :=
      Nat.lt_trans (Nat.lt_of_lt_of_le inRange addresses) (by decide)
    have body : (encodeFields (configurationFields address)).length ≤ 43 :=
      length_configurationFields_le fits (length_scalarFields_le (by decide : 1 < 15) 2 id)
    have width : (varint (encodeFields (configurationFields address)).length).length ≤ 0 + 1 :=
      length_varint_le (by omega)
    rw [length_encode_len (by decide), configurationSize]
    omega
  have entries := length_flatMap_le each
  have count : (channelsFields announcement.announceChannels).length ≤ A := by
    rw [channelsFields, List.length_map]
    exact ofTarget.amount
  have list : (encodeFields (channelsFields announcement.announceChannels)).length ≤ A * configurationSize :=
    entries.trans (Nat.mul_le_mul_right _ count)
  have maxChannels : announcement.announcMeta.maxChannels.toNat < 128 ^ (2 + 1) := by
    rw [ofTarget.maxChannels, UInt32.toNat_ofNat']
    omega
  have maxSize := length_scalarFields_le (by decide : 2 < 15) 2 maxChannels
  have timebase := length_fixedFields_le (by decide : 3 < 15) announcement.announcMeta.timebase
  have versionSize := length_stringFields_le (by decide : 4 < 15) (Nat.le_of_eq version) (by decide)
  rw [packScAnnounce_eq fit (by rw [ScAnnounceMetaData.Fits, version]; decide), announceFields,
    length_encodeFields_append, length_encodeFields_append, length_encodeFields_append, Nat.mul_comm]
  omega

theorem length_packScLog_run_le {capacity : Nat} (memory : CharArray 50) (logStream : Fifo capacity UInt8) :
    (packScLog (CommandPackLog.run memory logStream).1).length ≤ 50 :=
  length_packScLog_le (CommandPackLog.read_run memory logStream)
    (CommandPackLog.length_upToNul_chunk_le logStream) (by decide)

theorem calculateBufferSize_eq_max (C N A : Nat) : calculateBufferSize C N A =
    max (configurationSize * A + 15) ((N * 4 + 15) * C + N * 4 + 24) := by
  have perChannel : N * 4 + (1 + 1 + 1 + (1 + 1 + 1) * 4) = N * 4 + 15 := rfl
  unfold calculateBufferSize
  dsimp only
  rw [perChannel]
  split <;> omega

/-- Forty-eight letters. -/
def longMessage : Fifo 48 UInt8 := ⟨List.replicate 48 65, Nat.le_of_eq List.length_replicate⟩

theorem length_packScLog_longMessage :
    (packScLog (CommandPackLog.run .zero longMessage).1).length = 50 := by
  have letters : CommandPackLog.chunk longMessage = List.replicate 48 65 := rfl
  have noZero : (0 : UInt8) ∉ List.replicate 48 65 := by decide
  have held := CommandPackLog.read_run .zero longMessage
  rw [letters, CString.upToNul_of_terminated noZero] at held
  rw [packScLog_eq held]
  rfl

/-- Only a log message can be too long, and only in the smallest of all buffers. -/
theorem transmitBuffer_iff {C N A : Nat} (someChannel : 1 ≤ C) (someSample : 1 ≤ N)
    (channels : C ≤ 2 ^ 20) (samples : N ≤ 2 ^ 20) (addresses : A ≤ 2 ^ 20) :
    (∀ payload, Asked C N A payload → payload.length ≤ calculateBufferSize C N A) ↔
      ¬ (C = 1 ∧ N = 1 ∧ A = 0) := by
  have bufferSize := calculateBufferSize_eq_max C N A
  constructor
  · rintro all ⟨rfl, rfl, rfl⟩
    have short := all _ (.log .zero longMessage)
    rw [length_packScLog_longMessage] at short
    exact absurd short (by decide)
  · intro notSmallest payload asked
    cases asked with
    | data packer ofScope =>
        have size := length_packScData_le ofScope channels samples
        have spare : (N * 4 + 15) * C = C * (N * 4 + 14) + C := by
          rw [Nat.mul_comm, Nat.mul_succ]
        omega
    | announce announcement ofTarget =>
        have size := length_packScAnnounce_le ofTarget channels addresses
        omega
    | log memory logStream =>
        have size := length_packScLog_run_le memory logStream
        by_cases more : 2 ≤ C
        · have several : (1 * 4 + 15) * 2 ≤ (N * 4 + 15) * C :=
            Nat.mul_le_mul (Nat.add_le_add_right (Nat.mul_le_mul_right 4 someSample) 15) more
          omega
        · obtain rfl : C = 1 := by omega
          rw [configurationSize] at bufferSize
          omega

theorem transmitBuffer_two :
    (packScLog (CommandPackLog.run .zero longMessage).1).length ≤ calculateBufferSize 1 2 0 :=
  (transmitBuffer_iff (by decide) (by decide) (by decide) (by decide) (by decide)).mpr (by decide) _
    (.log .zero longMessage)

/-- One channel of one sample and no address: 47 bytes are taken to be enough. -/
theorem transmitBuffer_fails :
    Asked 1 1 0 (packScLog (CommandPackLog.run .zero longMessage).1) ∧
      calculateBufferSize 1 1 0 < (packScLog (CommandPackLog.run .zero longMessage).1).length := by
  refine ⟨.log .zero longMessage, ?_⟩
  rw [length_packScLog_longMessage]
  decide

end NanopbPacker

end Serialisation
