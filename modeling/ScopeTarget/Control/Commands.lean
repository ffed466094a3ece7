import ScopeTarget.Core.ScopeTypes
import ScopeTarget.Core.Trigger

/-! The commands the host can send: what the unpacker has decoded, how a parser
hands it to a command object, and what running the command asks of the scope. -/

namespace Control
open Core

structure CfRunningDef where
  id : UInt32
  newState : Bool
  deriving DecidableEq, Repr

/-- The type is the number the host sent; it may name no data type. -/
structure CfAddressDef where
  id : UInt32
  address : UInt32
  type : Nat
  deriving DecidableEq, Repr

structure CfTriggerDef (α : Type*) where
  level : α
  edge : Bool
  mode : Nat
  channelId : UInt32

/-- The single slots that the last decoded message of each kind has filled. -/
structure Unpacker (α : Type*) where
  evPollTimestamp : UInt32
  running : List CfRunningDef
  address : List CfAddressDef
  triggerConfig : CfTriggerDef α
  tInc : UInt32

/-- The calls a command makes on the scope. -/
inductive ScopeCall (α : Type*) where
  | poll
  | setTimeIncrement (timeIncrement : UInt32)
  | clear
  | setChannelStopped (id : UInt32)
  | setChannelRunning (id : UInt32)
  | configureChannelAddress (address id : UInt32) (type : Nat)
  | configureTrigger (conf : TriggerConfiguration α)
  | transmit

/-- What running a command does: calls on the scope, notifications of the pack observer. -/
structure Effects (α : Type*) where
  calls : List (ScopeCall α)
  notified : List MessageType

section ChannelLists
variable {ε α : Type*} (amountOfChannels : Nat) (id : ε → UInt32)

/-- The whole list replaces the stored one, or nothing does. An identifier is
turned away only when it is greater than the number of channels. -/
def setAttributes (valid : ε → Bool) (stored conf : List ε) : List ε :=
  if amountOfChannels < conf.length then stored
  else if conf.any (fun e => amountOfChannels < (id e).toNat ∨ valid e = false) then stored
  else conf

/-- Entries take effect one after the other, up to the first whose channel does
not exist; the acknowledgement is sent only from behind the last one. -/
def runChannelList (call : ε → Option (ScopeCall α)) : List ε → Effects α
  | [] => ⟨[], [.seAck]⟩
  | e :: es =>
      if amountOfChannels ≤ (id e).toNat then ⟨[], []⟩
      else
        let rest := runChannelList call es
        ⟨(call e).toList ++ rest.calls, rest.notified⟩

end ChannelLists

structure RunningEntry where
  changedChannel : UInt32
  newState : ChannelStates
  deriving DecidableEq, Repr

namespace CommandRunning

def legal (e : RunningEntry) : Bool := e.newState = .stopped ∨ e.newState = .running

def setAttributes (amountOfChannels : Nat) (config conf : List RunningEntry) : List RunningEntry :=
  Control.setAttributes amountOfChannels RunningEntry.changedChannel legal config conf

def call {α : Type*} (e : RunningEntry) : Option (ScopeCall α) :=
  match e.newState with
  | .running => some (.setChannelRunning e.changedChannel)
  | .stopped => some (.setChannelStopped e.changedChannel)
  | .init => none

def run {α : Type*} (amountOfChannels : Nat) (config : List RunningEntry) : Effects α :=
  runChannelList amountOfChannels RunningEntry.changedChannel call config

end CommandRunning

structure AddrEntry where
  changedChannel : UInt32
  newAddress : UInt32
  type : Nat
  deriving DecidableEq, Repr

namespace CommandAddr

def legal (e : AddrEntry) : Bool := e.newAddress ≠ 0

def setAttributes (amountOfChannels : Nat) (config conf : List AddrEntry) : List AddrEntry :=
  Control.setAttributes amountOfChannels AddrEntry.changedChannel legal config conf

def call {α : Type*} (e : AddrEntry) : Option (ScopeCall α) :=
  some (.configureChannelAddress e.newAddress e.changedChannel e.type)

def run {α : Type*} (amountOfChannels : Nat) (config : List AddrEntry) : Effects α :=
  runChannelList amountOfChannels AddrEntry.changedChannel call config

end CommandAddr

/-- The configurations kept in the command objects between messages. -/
structure Commands (α : Type*) where
  running : List RunningEntry
  addr : List AddrEntry
  trigger : Option (TriggerConfiguration α)
  tInc : Option UInt32

def Commands.create {α : Type*} : Commands α := ⟨[], [], none, none⟩

inductive CommandKind where
  | running | poll | addr | tInc | trans | trigger | announce | clear | detect
  deriving DecidableEq, Repr

namespace CommandRunningParser

def conf (running : List CfRunningDef) : List RunningEntry :=
  running.map fun r => ⟨r.id, if r.newState = true then .running else .stopped⟩

def getCommand {α : Type*} (amountOfChannels : Nat) (unpacker : Unpacker α) (c : Commands α) :
    Commands α :=
  { c with running := CommandRunning.setAttributes amountOfChannels c.running (conf unpacker.running) }

end CommandRunningParser

namespace CommandAddrParser

/-- More entries than channels are cut off. -/
def conf (amountOfChannels : Nat) (address : List CfAddressDef) : List AddrEntry :=
  (address.take amountOfChannels).map fun a => ⟨a.id, a.address, a.type⟩

theorem conf_of_short {amountOfChannels : Nat} {address : List CfAddressDef}
    (short : address.length ≤ amountOfChannels) :
    conf amountOfChannels address = address.map fun a => ⟨a.id, a.address, a.type⟩ := by
  rw [conf, List.take_of_length_le short]

theorem length_conf_le (amountOfChannels : Nat) (address : List CfAddressDef) :
    (conf amountOfChannels address).length ≤ amountOfChannels := by
  rw [conf, List.length_map]
  exact List.length_take_le amountOfChannels address

def getCommand {α : Type*} (amountOfChannels : Nat) (unpacker : Unpacker α) (c : Commands α) :
    Commands α :=
  { c with
    addr := CommandAddr.setAttributes amountOfChannels c.addr
      (conf amountOfChannels unpacker.address) }

end CommandAddrParser

namespace CommandTriggerParser

def getCommand {α : Type*} (unpacker : Unpacker α) (c : Commands α) : Commands α :=
  let trigger := unpacker.triggerConfig
  { c with trigger := some ⟨trigger.level, trigger.edge, trigger.mode, trigger.channelId.toNat⟩ }

end CommandTriggerParser

namespace CommandTIncParser

def getCommand {α : Type*} (unpacker : Unpacker α) (c : Commands α) : Commands α :=
  { c with tInc := some unpacker.tInc }

end CommandTIncParser

namespace CommandParserDispatcher

/-- The command a message type selects, after its parser has configured it. -/
def run {α : Type*} (amountOfChannels : Nat) (unpacker : Unpacker α) (c : Commands α)
    (type : MessageType) : Option CommandKind × Commands α :=
  if type = .cfRunning then
    (some .running, CommandRunningParser.getCommand amountOfChannels unpacker c)
  else if type = .evPoll then (some .poll, c)
  else if type = .cfAddr then
    (some .addr, CommandAddrParser.getCommand amountOfChannels unpacker c)
  else if type = .cfTInc then (some .tInc, CommandTIncParser.getCommand unpacker c)
  else if type = .evTrans then (some .trans, c)
  else if type = .cfTrigger then (some .trigger, CommandTriggerParser.getCommand unpacker c)
  else if type = .evAnnounce then (some .announce, c)
  else if type = .evClear then (some .clear, c)
  else if type = .evDetect then (some .detect, c)
  else (none, c)

end CommandParserDispatcher

/-- A trigger or increment command runs right after its parser has set it. -/
def CommandKind.run {α : Type*} (amountOfChannels : Nat) (c : Commands α) : CommandKind → Effects α
  | .running => CommandRunning.run amountOfChannels c.running
  | .addr => CommandAddr.run amountOfChannels c.addr
  | .poll => ⟨[.poll], [.seAck]⟩
  | .tInc => ⟨(c.tInc.map ScopeCall.setTimeIncrement).toList, [.seAck]⟩
  | .trigger => ⟨(c.trigger.map ScopeCall.configureTrigger).toList, [.seAck]⟩
  | .trans => ⟨[.transmit], []⟩
  | .announce => ⟨[], [.scAnnounce]⟩
  | .clear => ⟨[.clear], [.seAck]⟩
  | .detect => ⟨[], [.scDetect]⟩

section ChannelLists
variable {ε α : Type*} {amountOfChannels : Nat} {id : ε → UInt32} {call : ε → Option (ScopeCall α)}
  {valid : ε → Bool} {stored conf : List ε}

theorem runChannelList_of_exist (exist : ∀ e ∈ conf, (id e).toNat < amountOfChannels) :
    runChannelList amountOfChannels id call conf = ⟨conf.filterMap call, [.seAck]⟩ := by
  induction conf with
  | nil => rfl
  | cons e es ih =>
      have here : ¬ amountOfChannels ≤ (id e).toNat := Nat.not_le.mpr (exist e List.mem_cons_self)
      rw [runChannelList, if_neg here, ih fun e' later => exist e' (List.mem_cons_of_mem e later)]
      cases made : call e with
      | none => rw [List.filterMap_cons_none made]; rfl
      | some c => rw [List.filterMap_cons_some made]; rfl

theorem runChannelList_silent {e : ε} (member : e ∈ conf) (missing : amountOfChannels ≤ (id e).toNat) :
    (runChannelList amountOfChannels id call conf).notified = [] := by
  induction conf with
  | nil => cases member
  | cons e' es ih =>
      rw [runChannelList]
      split
      · rfl
      · rename_i exists_
        rcases List.mem_cons.mp member with rfl | later
        · exact absurd missing exists_
        · exact ih later

/-- What a stored list has passed. -/
def Passed (amountOfChannels : Nat) (id : ε → UInt32) (valid : ε → Bool) (conf : List ε) : Prop :=
  ∀ e ∈ conf, (id e).toNat ≤ amountOfChannels ∧ valid e = true

theorem setAttributes_of_passed (short : conf.length ≤ amountOfChannels)
    (passed : Passed amountOfChannels id valid conf) :
    setAttributes amountOfChannels id valid stored conf = conf := by
  rw [setAttributes, if_neg (Nat.not_lt.mpr short), if_neg]
  rw [Bool.not_eq_true, List.any_eq_false]
  intro e member
  have both := passed e member
  rw [decide_eq_true_iff]
  intro bad
  rcases bad with beyond | invalid
  · exact absurd both.1 (Nat.not_le.mpr beyond)
  · rw [both.2] at invalid
    cases invalid

theorem setAttributes_of_bad {e : ε} (member : e ∈ conf)
    (bad : amountOfChannels < (id e).toNat ∨ valid e = false) :
    setAttributes amountOfChannels id valid stored conf = stored := by
  rw [setAttributes]
  split
  · rfl
  · rw [if_pos]
    rw [List.any_eq_true]
    exact ⟨e, member, decide_eq_true bad⟩

theorem passed_setAttributes (passed : Passed amountOfChannels id valid stored) :
    Passed amountOfChannels id valid (setAttributes amountOfChannels id valid stored conf) := by
  by_cases bad : ∃ e ∈ conf, amountOfChannels < (id e).toNat ∨ valid e = false
  · obtain ⟨e, member, why⟩ := bad
    rw [setAttributes_of_bad member why]
    exact passed
  · have good : Passed amountOfChannels id valid conf := by
      intro e member
      constructor
      · exact Nat.not_lt.mp fun beyond => bad ⟨e, member, .inl beyond⟩
      · rw [← Bool.not_eq_false]
        exact fun invalid => bad ⟨e, member, .inr invalid⟩
    unfold setAttributes
    split
    · exact passed
    · split
      · exact passed
      · exact good

end ChannelLists

end Control
