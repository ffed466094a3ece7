import ScopeTarget.Builders.AnnouncedAddresses

/-! What a host can ask for: the message it sends for it, what is decoded of that
message, and what the command does that is run for it. -/

namespace Serialisation
open Control Protobuf

namespace NanopbUnpacker

/-- `PB_RunningConfig_FIELDLIST` -/
def mergeRunningConfig (config : CfRunningDef) (f : Field) : Option CfRunningDef :=
  match f.number, f.value with
  | 1, .varint n => some { config with id := UInt32.ofNat n }
  | 2, .varint n => some { config with newState := UInt32.ofNat n ≠ 0 }
  | 1, _ => none
  | 2, _ => none
  | _, _ => some config

/-- `PB_CF_Running_FIELDLIST`; an entry that can be read is added by its callback. -/
def mergeRunning (channels : List CfRunningDef) (f : Field) : Option (List CfRunningDef) :=
  match f.number, f.value with
  | 1, .len bytes =>
      (readMessage mergeRunningConfig ⟨0, false⟩ bytes).map fun config => channels ++ [config]
  | 1, _ => none
  | _, _ => some channels

/-- `PB_CF_Trigger_FIELDLIST`, with the bit pattern of the level. -/
def mergeTrigger (config : CfTriggerDef UInt32) (f : Field) : Option (CfTriggerDef UInt32) :=
  match f.number, f.value with
  | 1, .varint n => some { config with channelId := UInt32.ofNat n }
  | 2, .varint n => some { config with mode := (UInt32.ofNat n).toNat }
  | 3, .fixed32 n => some { config with level := n }
  | 4, .varint n => some { config with edge := UInt32.ofNat n ≠ 0 }
  | 1, _ => none
  | 2, _ => none
  | 3, _ => none
  | 4, _ => none
  | _, _ => some config

/-- `PB_CF_TInc_FIELDLIST` and `PB_EV_Poll_FIELDLIST` -/
def mergeNumber (number : UInt32) (f : Field) : Option UInt32 :=
  match f.number, f.value with
  | 1, .varint n => some (UInt32.ofNat n)
  | 1, _ => none
  | _, _ => some number

theorem foldlM_boolFields {μ : Type*} {merge : μ → Field → Option μ} {known : μ} {number : Nat}
    (set : Bool → μ) (value : Bool) (unset : set false = known)
    (read : ∀ n, merge known ⟨number, .varint n⟩ = some (set (UInt32.ofNat n ≠ 0))) :
    (Builders.HostCommand.boolFields number value).foldlM merge known = some (set value) := by
  have scalar := foldlM_scalarFields (fun v => set (v ≠ 0)) (if value = true then 1 else 0) unset read
  refine scalar.trans (congrArg (fun b => some (set b)) ?_)
  cases value with
  | false => rfl
  | true => rfl

theorem read_runningFields (entry : CfRunningDef) :
    readMessage mergeRunningConfig ⟨0, false⟩ (encodeFields (Builders.HostCommand.runningFields entry)) =
      some entry := by
  have id : (scalarFields 1 entry.id).foldlM mergeRunningConfig ⟨0, false⟩ = some ⟨entry.id, false⟩ :=
    foldlM_scalarFields (fun v => CfRunningDef.mk v false) entry.id rfl fun n => rfl
  have state : (Builders.HostCommand.boolFields 2 entry.newState).foldlM mergeRunningConfig
      ⟨entry.id, false⟩ = some entry :=
    foldlM_boolFields (fun v => CfRunningDef.mk entry.id v) entry.newState rfl fun n => rfl
  rw [readMessage_encodeFields, Builders.HostCommand.runningFields, foldlM_append_of_some id, state]

theorem read_running (entries : List CfRunningDef) :
    readMessage mergeRunning [] (Builders.HostCommand.running entries).payload = some entries := by
  have read (known : List CfRunningDef) (entry : CfRunningDef) (_ : entry ∈ entries) :
      mergeRunning known ⟨1, .len (encodeFields (Builders.HostCommand.runningFields entry))⟩ =
        some (known ++ [entry]) := by
    change (readMessage mergeRunningConfig ⟨0, false⟩ _).map _ = _
    rw [read_runningFields]
    rfl
  rw [Builders.HostCommand.payload, readMessage_encodeFields]
  exact foldlM_entries read []

theorem read_trigger {config : CfTriggerDef UInt32} (mode : config.mode < 2 ^ 32) :
    readMessage mergeTrigger ⟨0, false, 0, 0⟩ (Builders.HostCommand.trigger config).payload =
      some config := by
  have id : (scalarFields 1 config.channelId).foldlM mergeTrigger ⟨0, false, 0, 0⟩ =
      some ⟨0, false, 0, config.channelId⟩ :=
    foldlM_scalarFields (fun v => CfTriggerDef.mk 0 false 0 v) config.channelId rfl fun n => rfl
  have kind : (scalarFields 2 (UInt32.ofNat config.mode)).foldlM mergeTrigger
      ⟨0, false, 0, config.channelId⟩ = some ⟨0, false, config.mode, config.channelId⟩ := by
    have whole : (UInt32.ofNat config.mode).toNat = config.mode := by
      rw [UInt32.toNat_ofNat', Nat.mod_eq_of_lt mode]
    have read : (scalarFields 2 (UInt32.ofNat config.mode)).foldlM mergeTrigger
        ⟨0, false, 0, config.channelId⟩ =
          some ⟨0, false, (UInt32.ofNat config.mode).toNat, config.channelId⟩ :=
      foldlM_scalarFields (fun v => CfTriggerDef.mk 0 false v.toNat config.channelId) _ rfl fun n => rfl
    rw [read, whole]
  have level : (fixedFields 3 config.level).foldlM mergeTrigger
      ⟨0, false, config.mode, config.channelId⟩ =
        some ⟨config.level, false, config.mode, config.channelId⟩ :=
    foldlM_fixedFields (fun v => CfTriggerDef.mk v false config.mode config.channelId) config.level rfl
      fun n => rfl
  have edge : (Builders.HostCommand.boolFields 4 config.edge).foldlM mergeTrigger
      ⟨config.level, false, config.mode, config.channelId⟩ = some config :=
    foldlM_boolFields (fun v => CfTriggerDef.mk config.level v config.mode config.channelId) config.edge rfl
      fun n => rfl
  rw [Builders.HostCommand.payload, readMessage_encodeFields, Builders.HostCommand.fields,
    Builders.HostCommand.triggerFields, List.append_assoc, List.append_assoc, foldlM_append_of_some id,
    foldlM_append_of_some kind, foldlM_append_of_some level, edge]

theorem read_tInc (increment : UInt32) :
    readMessage mergeNumber 0 (Builders.HostCommand.tInc increment).payload = some increment := by
  rw [Builders.HostCommand.payload, readMessage_encodeFields]
  exact foldlM_scalarFields (fun v => v) increment rfl fun n => rfl

theorem read_poll (timestamp : UInt32) :
    readMessage mergeNumber 0 (Builders.HostCommand.poll timestamp).payload = some timestamp :=
  read_tInc timestamp

end NanopbUnpacker

/-- Of a message as a host encodes it, the decoder delivers what is read of its fields.
The level of a trigger is given by its bit pattern. -/
structure PbDecode.ReadsHost {α : Type*} (pb : PbDecode α) (level : UInt32 → α) : Prop where
  address : pb.ReadsAddresses
  running : ∀ entries channels,
    readMessage NanopbUnpacker.mergeRunning [] (Builders.HostCommand.running entries).payload =
      some channels →
    pb.cfRunning (Builders.HostCommand.running entries).payload = .success channels
  trigger : ∀ config read,
    readMessage NanopbUnpacker.mergeTrigger ⟨0, false, 0, 0⟩
      (Builders.HostCommand.trigger config).payload = some read →
    pb.cfTrigger (Builders.HostCommand.trigger config).payload =
      .success ⟨level read.level, read.edge, read.mode, read.channelId⟩
  tInc : ∀ increment read,
    readMessage NanopbUnpacker.mergeNumber 0 (Builders.HostCommand.tInc increment).payload = some read →
    pb.cfTInc (Builders.HostCommand.tInc increment).payload = .success read
  poll : ∀ timestamp read,
    readMessage NanopbUnpacker.mergeNumber 0 (Builders.HostCommand.poll timestamp).payload = some read →
    pb.evPoll (Builders.HostCommand.poll timestamp).payload = .success read

end Serialisation

namespace Builders
open Core Control Serialisation FramedIO

namespace HostCommand

/-- The lists are no longer than there are channels, which all exist, no address is a
null pointer, and the numbers of types and modes are such. -/
def Valid (amountOfChannels : Nat) : HostCommand → Prop
  | .address entries => entries.length ≤ amountOfChannels ∧ ∀ entry ∈ entries,
      entry.id.toNat < amountOfChannels ∧ entry.address ≠ 0 ∧ entry.type < 2 ^ 32
  | .running entries => entries.length ≤ amountOfChannels ∧
      ∀ entry ∈ entries, entry.id.toNat < amountOfChannels
  | .trigger config => config.mode < 2 ^ 32
  | .tInc _ => True
  | .poll _ => True

variable {α : Type*}

/-- What the message says once it is decoded. -/
def configuration (level : UInt32 → α) : HostCommand → Configuration α
  | .address entries => .address entries
  | .running entries => .running entries
  | .trigger config => .trigger ⟨level config.level, config.edge, config.mode, config.channelId⟩
  | .tInc increment => .tInc increment
  | .poll timestamp => .poll timestamp

/-- The message is decoded to what the host has encoded. -/
def Decodes (pb : PbDecode α) (level : UInt32 → α) : HostCommand → Prop
  | .address entries => pb.cfAddr (address entries).payload = .success entries
  | .running entries => pb.cfRunning (running entries).payload = .success entries
  | .trigger config => pb.cfTrigger (trigger config).payload =
      .success ⟨level config.level, config.edge, config.mode, config.channelId⟩
  | .tInc increment => pb.cfTInc (tInc increment).payload = .success increment
  | .poll timestamp => pb.evPoll (poll timestamp).payload = .success timestamp

theorem decodes {pb : PbDecode α} {level : UInt32 → α} (reads : pb.ReadsHost level)
    {amountOfChannels : Nat} {command : HostCommand} (valid : command.Valid amountOfChannels) :
    command.Decodes pb level := by
  cases command with
  | address entries =>
      have typed : ∀ entry ∈ entries, entry.type < 2 ^ 32 := fun entry member => (valid.2 entry member).2.2
      exact reads.address entries entries (NanopbUnpacker.read_addresses typed)
  | running entries => exact reads.running entries entries (NanopbUnpacker.read_running entries)
  | trigger config => exact reads.trigger config config (NanopbUnpacker.read_trigger valid)
  | tInc increment => exact reads.tInc increment increment (NanopbUnpacker.read_tInc increment)
  | poll timestamp => exact reads.poll timestamp timestamp (NanopbUnpacker.read_poll timestamp)

/-- What is asked of the scope, and the answer. -/
def effects (level : UInt32 → α) : HostCommand → Effects α
  | .address entries => ⟨Controller.addressCalls entries, [.seAck]⟩
  | .running entries => ⟨Controller.runningCalls entries, [.seAck]⟩
  | .trigger config => ⟨[.configureTrigger
      ⟨level config.level, config.edge, config.mode, config.channelId.toNat⟩], [.seAck]⟩
  | .tInc increment => ⟨[.setTimeIncrement increment], [.seAck]⟩
  | .poll _ => ⟨[.poll], [.seAck]⟩

end HostCommand

/-- A message of the host, with a payload or without one. -/
inductive HostRequest where
  | configure (command : HostCommand)
  | transmit
  | clear
  | announce
  | detect
  | acknowledge
  | refuse

namespace HostRequest
variable {α : Type*}

def type : HostRequest → MessageType
  | .configure command => command.type
  | .transmit => .evTrans
  | .clear => .evClear
  | .announce => .evAnnounce
  | .detect => .evDetect
  | .acknowledge => .seAck
  | .refuse => .seNak

def payload : HostRequest → List UInt8
  | .configure command => command.payload
  | _ => []

def Valid (amountOfChannels : Nat) : HostRequest → Prop
  | .configure command => command.Valid amountOfChannels
  | _ => True

def configuration (level : UInt32 → α) : HostRequest → Configuration α
  | .configure command => command.configuration level
  | _ => .none

/-- A refusal of the host is answered by a refusal. -/
def effects (level : UInt32 → α) : HostRequest → Effects α
  | .configure command => command.effects level
  | .transmit => ⟨[.transmit], []⟩
  | .clear => ⟨[.clear], [.seAck]⟩
  | .announce => ⟨[], [.scAnnounce]⟩
  | .detect => ⟨[], [.scDetect]⟩
  | .acknowledge => ⟨[], []⟩
  | .refuse => ⟨[], [.seNak]⟩

theorem typed (r : HostRequest) : r.type ≠ .seNone := by
  cases r with
  | configure command =>
      cases command with
      | address entries => exact (by decide : MessageType.cfAddr ≠ .seNone)
      | running entries => exact (by decide : MessageType.cfRunning ≠ .seNone)
      | trigger config => exact (by decide : MessageType.cfTrigger ≠ .seNone)
      | tInc increment => exact (by decide : MessageType.cfTInc ≠ .seNone)
      | poll timestamp => exact (by decide : MessageType.evPoll ≠ .seNone)
  | _ => decide

/-- The message says what the host has encoded. -/
theorem message_eq {pb : PbDecode α} {level : UInt32 → α} (reads : pb.ReadsHost level)
    {amountOfChannels : Nat} {r : HostRequest} (valid : r.Valid amountOfChannels) :
    pb.message r.type r.payload = (r.type, r.configuration level) := by
  cases r with
  | configure command =>
      have decoded := HostCommand.decodes reads valid
      cases command with
      | address entries =>
          exact congrArg (fun d => Decoded.outcome d MessageType.cfAddr Configuration.address) decoded
      | running entries =>
          exact congrArg (fun d => Decoded.outcome d MessageType.cfRunning Configuration.running) decoded
      | trigger config =>
          exact congrArg (fun d => Decoded.outcome d MessageType.cfTrigger Configuration.trigger) decoded
      | tInc increment =>
          exact congrArg (fun d => Decoded.outcome d MessageType.cfTInc Configuration.tInc) decoded
      | poll timestamp =>
          exact congrArg (fun d => Decoded.outcome d MessageType.evPoll Configuration.poll) decoded
  | _ => rfl

/-- Decoding reads a message to its end. -/
theorem unread {pb : PbDecode α} {level : UInt32 → α} (reads : pb.ReadsHost level)
    {amountOfChannels inCap : Nat} {r : HostRequest} (valid : r.Valid amountOfChannels)
    {input : Fifo inCap UInt8} (held : input.contents = r.payload) (unpacker : Unpacker α) :
    (NanopbUnpacker.unpack pb (unpacker, input) r.type).2.2 = .empty := by
  have plain (nothing : input.contents = []) : input = .empty := by
    rw [Fifo.eq_empty_iff]
    exact input.contents_eq_nil_iff.mp nothing
  cases r with
  | configure command =>
      have decoded := HostCommand.decodes reads valid
      cases command with
      | address entries =>
          change (pb.cfAddr input.contents).unread input = .empty
          rw [held]
          exact congrArg (Decoded.unread input) decoded
      | running entries =>
          change (pb.cfRunning input.contents).unread input = .empty
          rw [held]
          exact congrArg (Decoded.unread input) decoded
      | trigger config =>
          change (pb.cfTrigger input.contents).unread input = .empty
          rw [held]
          exact congrArg (Decoded.unread input) decoded
      | tInc increment =>
          change (pb.cfTInc input.contents).unread input = .empty
          rw [held]
          exact congrArg (Decoded.unread input) decoded
      | poll timestamp =>
          change (pb.evPoll input.contents).unread input = .empty
          rw [held]
          exact congrArg (Decoded.unread input) decoded
  | _ => exact plain held

/-- The lists of a valid request pass the checks of their commands. -/
theorem accepted {amountOfChannels : Nat} {r : HostRequest} (valid : r.Valid amountOfChannels)
    (level : UInt32 → α) : (r.configuration level).Accepted amountOfChannels := by
  cases r with
  | configure command =>
      cases command with
      | address entries =>
          refine ⟨valid.1, ?_⟩
          rw [CommandAddrParser.conf_of_short valid.1]
          intro e member
          obtain ⟨a, here, rfl⟩ := List.mem_map.mp member
          exact ⟨Nat.le_of_lt (valid.2 a here).1, decide_eq_true (valid.2 a here).2.1⟩
      | running entries =>
          refine ⟨valid.1, ?_⟩
          intro e member
          obtain ⟨r, here, rfl⟩ := List.mem_map.mp member
          refine ⟨Nat.le_of_lt (valid.2 r here), ?_⟩
          cases r.newState <;> rfl
      | _ => trivial
  | _ => trivial

/-- The channels of a valid request exist, so a list is carried out to its end. -/
theorem effects_eq {amountOfChannels : Nat} {r : HostRequest} (valid : r.Valid amountOfChannels)
    (level : UInt32 → α) :
    (r.configuration level).effects amountOfChannels r.type = r.effects level := by
  cases r with
  | configure command =>
      cases command with
      | address entries =>
          have exist : ∀ e ∈ CommandAddrParser.conf amountOfChannels entries,
              e.changedChannel.toNat < amountOfChannels := by
            rw [CommandAddrParser.conf_of_short valid.1]
            intro e member
            obtain ⟨a, here, rfl⟩ := List.mem_map.mp member
            exact (valid.2 a here).1
          change CommandAddr.run amountOfChannels (CommandAddrParser.conf amountOfChannels entries) = _
          rw [CommandAddr.run, runChannelList_of_exist exist, ← Controller.addressCalls_eq valid.1]
          rfl
      | running entries =>
          have exist : ∀ e ∈ CommandRunningParser.conf entries,
              e.changedChannel.toNat < amountOfChannels := by
            intro e member
            obtain ⟨r, here, rfl⟩ := List.mem_map.mp member
            exact valid.2 r here
          change CommandRunning.run amountOfChannels (CommandRunningParser.conf entries) = _
          rw [CommandRunning.run, runChannelList_of_exist exist, ← Controller.runningCalls_eq]
          rfl
      | _ => rfl
  | _ => rfl

/-- The command does what was asked for, whatever the command objects hold from before. -/
theorem effects_runRx {Q : Type*} [AgingPriorityQueue Q] {amountOfChannels : Nat} {r : HostRequest}
    (valid : r.Valid amountOfChannels) {level : UInt32 → α} {unpacker : Unpacker α}
    {self : Controller Q α} (pending : self.commandPending = r.type)
    (held : NanopbUnpacker.configuration unpacker r.type = r.configuration level) :
    (self.runRx amountOfChannels unpacker).2.1 = r.effects level := by
  have accepted := r.accepted valid level
  rw [← held] at accepted
  rw [Controller.effects_runRx pending r.typed accepted, held, r.effects_eq valid level]

end HostRequest

end Builders
