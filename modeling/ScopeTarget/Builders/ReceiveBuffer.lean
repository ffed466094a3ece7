import Mathlib.Data.List.Perm.Subperm
import ScopeTarget.Communication.Reception
import ScopeTarget.Serialisation.ListWrites
import ScopeTarget.Serialisation.TransmitBuffer

/-! The commands a host sends with a payload, as it encodes them, and the input
buffer the stack is created with. -/

namespace Builders
open Control Serialisation Protobuf FramedIO

/-- The level of a trigger is the bit pattern of a float. -/
inductive HostCommand where
  | address (entries : List CfAddressDef)
  | running (entries : List CfRunningDef)
  | trigger (config : CfTriggerDef UInt32)
  | tInc (increment : UInt32)
  | poll (timestamp : UInt32)

namespace HostCommand

def boolFields (number : Nat) (value : Bool) : List Field :=
  scalarFields number (if value = true then 1 else 0)

/-- `PB_AddressConfig_FIELDLIST` -/
def addressFields (entry : CfAddressDef) : List Field :=
  scalarFields 1 entry.id ++ scalarFields 2 entry.address ++ scalarFields 3 (UInt32.ofNat entry.type)

/-- `PB_RunningConfig_FIELDLIST` -/
def runningFields (entry : CfRunningDef) : List Field :=
  scalarFields 1 entry.id ++ boolFields 2 entry.newState

/-- `PB_CF_Trigger_FIELDLIST` -/
def triggerFields (config : CfTriggerDef UInt32) : List Field :=
  scalarFields 1 config.channelId ++ scalarFields 2 (UInt32.ofNat config.mode) ++
    fixedFields 3 config.level ++ boolFields 4 config.edge

def fields : HostCommand → List Field
  | .address entries => entries.map fun entry => ⟨1, .len (encodeFields (addressFields entry))⟩
  | .running entries => entries.map fun entry => ⟨1, .len (encodeFields (runningFields entry))⟩
  | .trigger config => triggerFields config
  | .tInc increment => scalarFields 1 increment
  | .poll timestamp => scalarFields 1 timestamp

def payload (command : HostCommand) : List UInt8 := encodeFields command.fields

def type : HostCommand → MessageType
  | .address _ => .cfAddr
  | .running _ => .cfRunning
  | .trigger _ => .cfTrigger
  | .tInc _ => .cfTInc
  | .poll _ => .evPoll

/-- One entry per channel at most, a data type, and a trigger mode whose varint is one byte
long; the rest is free. -/
def Legal (amountOfChannels : Nat) : HostCommand → Prop
  | .address entries => (entries.map CfAddressDef.id).Nodup ∧
      ∀ entry ∈ entries, entry.id.toNat < amountOfChannels ∧ entry.type ≤ 6
  | .running entries => (entries.map CfRunningDef.id).Nodup ∧
      ∀ entry ∈ entries, entry.id.toNat < amountOfChannels
  | .trigger config => config.mode < 128
  | .tInc _ => True
  | .poll _ => True

instance (amountOfChannels : Nat) : (command : HostCommand) → Decidable (command.Legal amountOfChannels)
  | .address _ => inferInstanceAs (Decidable (_ ∧ _))
  | .running _ => inferInstanceAs (Decidable (_ ∧ _))
  | .trigger _ => inferInstanceAs (Decidable (_ < _))
  | .tInc _ => inferInstanceAs (Decidable True)
  | .poll _ => inferInstanceAs (Decidable True)

/-- No channel is named twice. -/
theorem length_le_of_distinct {ε : Type*} {entries : List ε} {id : ε → UInt32} {amountOfChannels : Nat}
    (distinct : (entries.map id).Nodup)
    (inRange : ∀ entry ∈ entries, (id entry).toNat < amountOfChannels) :
    entries.length ≤ amountOfChannels := by
  have numbers : ((entries.map id).map UInt32.toNat).Nodup :=
    distinct.map fun id id' same => UInt32.toNat_inj.mp same
  have among : (entries.map id).map UInt32.toNat ⊆ List.range amountOfChannels := by
    intro number member
    rw [List.map_map] at member
    obtain ⟨entry, here, rfl⟩ := List.mem_map.mp member
    exact List.mem_range.mpr (inRange entry here)
  have count := (List.subperm_of_subset numbers among).length_le
  rw [List.length_map, List.length_map, List.length_range] at count
  exact count

theorem length_boolFields_le {number : Nat} (small : number < 15) (value : Bool) :
    (encodeFields (boolFields number value)).length ≤ 2 := by
  apply length_scalarFields_le small 0
  cases value <;> decide

theorem length_addressFields_le {entry : CfAddressDef} (id : entry.id.toNat < 2 ^ 20)
    (type : entry.type ≤ 6) : (encodeFields (addressFields entry)).length ≤ 12 := by
  have typeCode : (UInt32.ofNat entry.type).toNat < 128 ^ (0 + 1) := by
    rw [UInt32.toNat_ofNat']
    omega
  have idSize := length_scalarFields_le (by decide : 1 < 15) 2 (Nat.lt_trans id (by decide))
  have location := length_scalarFields_le_six (by decide : 2 < 15) entry.address
  have typeSize := length_scalarFields_le (by decide : 3 < 15) 0 typeCode
  rw [addressFields, length_encodeFields_append, length_encodeFields_append]
  omega

theorem length_runningFields_le {entry : CfRunningDef} (id : entry.id.toNat < 2 ^ 20) :
    (encodeFields (runningFields entry)).length ≤ 6 := by
  have idSize := length_scalarFields_le (by decide : 1 < 15) 2 (Nat.lt_trans id (by decide))
  have state := length_boolFields_le (by decide : 2 < 15) entry.newState
  rw [runningFields, length_encodeFields_append]
  omega

theorem length_triggerFields_le {config : CfTriggerDef UInt32} (mode : config.mode < 128) :
    (encodeFields (triggerFields config)).length ≤ 15 := by
  have modeCode : (UInt32.ofNat config.mode).toNat < 128 ^ (0 + 1) := by
    rw [UInt32.toNat_ofNat']
    omega
  have id := length_scalarFields_le_six (by decide : 1 < 15) config.channelId
  have modeSize := length_scalarFields_le (by decide : 2 < 15) 0 modeCode
  have level := length_fixedFields_le (by decide : 3 < 15) config.level
  have edge := length_boolFields_le (by decide : 4 < 15) config.edge
  rw [triggerFields, length_encodeFields_append, length_encodeFields_append, length_encodeFields_append]
  omega

/-- An entry has a byte for its tag and one for its length. -/
theorem length_entries_le {ε : Type*} {entries : List ε} {encode : ε → List UInt8} {most : Nat}
    (short : most < 128) (each : ∀ entry ∈ entries, (encode entry).length ≤ most) :
    (encodeFields (entries.map fun entry => ⟨1, .len (encode entry)⟩)).length ≤
      entries.length * (most + 2) := by
  have bounded : ∀ f ∈ entries.map fun entry => (⟨1, .len (encode entry)⟩ : Field),
      f.encode.length ≤ most + 2 := by
    intro f member
    obtain ⟨entry, here, rfl⟩ := List.mem_map.mp member
    have body := each entry here
    have width : (varint (encode entry).length).length ≤ 0 + 1 := length_varint_le (by omega)
    rw [length_encode_len (by decide)]
    omega
  have total := NanopbPacker.length_flatMap_le bounded
  rw [List.length_map] at total
  exact total

theorem length_payload_le {amountOfChannels : Nat} (channels : amountOfChannels ≤ 2 ^ 20)
    {command : HostCommand} (legal : command.Legal amountOfChannels) :
    command.payload.length ≤ NanopbUnpacker.calculateBufferSize amountOfChannels := by
  rw [NanopbUnpacker.calculateBufferSize_eq_max]
  cases command with
  | address entries =>
      obtain ⟨distinct, each⟩ := legal
      have count := length_le_of_distinct distinct fun entry here => (each entry here).1
      have size : (payload (.address entries)).length ≤ entries.length * (12 + 2) := by
        apply length_entries_le (by decide)
        intro entry here
        obtain ⟨inRange, type⟩ := each entry here
        exact length_addressFields_le (Nat.lt_of_lt_of_le inRange channels) type
      omega
  | running entries =>
      obtain ⟨distinct, each⟩ := legal
      have count := length_le_of_distinct distinct each
      have size : (payload (.running entries)).length ≤ entries.length * (6 + 2) := by
        apply length_entries_le (by decide)
        intro entry here
        exact length_runningFields_le (Nat.lt_of_lt_of_le (each entry here) channels)
      omega
  | trigger config => exact (length_triggerFields_le legal).trans (Nat.le_max_left _ _)
  | tInc increment =>
      have size := length_scalarFields_le_six (by decide : 1 < 15) increment
      exact size.trans ((by decide : 6 ≤ 15).trans (Nat.le_max_left _ _))
  | poll timestamp =>
      have size := length_scalarFields_le_six (by decide : 1 < 15) timestamp
      exact size.trans ((by decide : 6 ≤ 15).trans (Nat.le_max_left _ _))

end HostCommand

end Builders
