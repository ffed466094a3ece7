import ScopeTarget.Base.Refinement
import ScopeTarget.Builders.AnnouncedAddresses
import ScopeTarget.Builders.LogStream
import ScopeTarget.Control.DataMessages

/-! The whole target, as `ScopeBuilder_build` connects it: what each of its
runnables does, in whatever order a runner calls them. -/

namespace Core

def TriggerMode.code : TriggerMode → UInt32
  | .normal => 0
  | .continuous => 1
  | .oneshot => 2

end Core

namespace Control
open Core

/-- The call as something that happens to the data events of a scope. -/
def ScopeCall.activity {α : Type*} (now : UInt32) (memory : Memory α) (call : ScopeCall α) : DataActivity α :=
  match call.operation now memory with
  | some op => .operation op
  | none => .transmit

namespace DataPacking
variable {capacity n : Nat} {α : Type*}

/-- `CommandPackData`: the packer is told what to pack. -/
def collected (self : DataPacking capacity n α) : DataPacking capacity n α :=
  { self with packer := self.added }

/-- The packer has read the buffers it was told of. -/
def drained (self : DataPacking capacity n α) (toPack : List (Fin (n + 1))) : DataPacking capacity n α where
  scope :=
    { self.scope with trigger :=
      { self.scope.trigger with
        channels := fun i => if i ∈ toPack then (self.scope.channels i).drained else self.scope.channels i
        timestamper := self.readStamps self.packer.timestamp } }
  pollStream := self.pollStream
  packer := self.packer
  queued := self.queued - 1

theorem drained_collected (self : DataPacking capacity n α) :
    self.collected.drained (CommandPackData.channelsToPack self.scope) = self.process := by
  have same : (fun i => if i ∈ CommandPackData.channelsToPack self.scope then (self.scope.channels i).drained
      else self.scope.channels i) = (CommandPackData.drain self.scope).channels := by
    funext i
    refine if_congr ?_ rfl rfl
    rw [CommandPackData.mem_channelsToPack, Scope.channelHasToBePacked_iff]
  unfold drained process
  rw [← same]
  rfl

/-- An event is put into the queue of the controller. -/
def announces [LT α] [DecidableLT α] [BEq α] (overflow : Overflow) (self : DataPacking capacity n α) :
    DataActivity α → Bool
  | .operation op => self.scope.handsOver overflow op
  | .transmit => true

end DataPacking

end Control

namespace Builders
open Core Control Serialisation FramedIO

/-- When a poll is made, and what the memory holds then. -/
structure Moment (α : Type*) where
  now : UInt32
  memory : Memory α

/-- `toPack` are the channels added to the packer since it packed last, `data.queued`
counts the data events that are not processed yet. -/
structure Target (Q α : Type*) (inCap outCap capacity n : Nat) where
  stack : Stack Q α inCap outCap
  data : DataPacking capacity n α
  toPack : List (Fin (n + 1))

/-- Bytes come in and are fetched at any time, the runnables are called by a runner. -/
inductive TargetEvent (α : Type*) (outCap : Nat) where
  | putRxData (bytes : List UInt8)
  | getTxData (length : Nat)
  | runCommunicationRx
  | runUnpacker
  | runCommandParser (moment : Moment α)
  | runScope (moment : Moment α)
  | runDataAggregator (logIsPending : Bool)
  | runPacker (other : Written outCap)
  | runCommunicationTx

/-- What is not in the repository: how a full stream of stamps behaves, how messages
are decoded and encoded, and the bit pattern of a sample. -/
structure Platform (α : Type*) (outCap : Nat) where
  overflow : Overflow
  decode : PbDecode α
  encode : PbEncode outCap
  bits : α → UInt32

namespace Target
variable {Q α : Type*} {inCap outCap capacity n : Nat}

def scope (t : Target Q α inCap outCap capacity n) : Scope capacity n α := t.data.scope

def controller (t : Target Q α inCap outCap capacity n) : Controller Q α := t.stack.sending.controller

def packingPending (t : Target Q α inCap outCap capacity n) : MessageType :=
  t.stack.sending.serializer.packingPending

def withSending (t : Target Q α inCap outCap capacity n) (sending : SendingStack Q α outCap) :
    Target Q α inCap outCap capacity n := { t with stack := { t.stack with sending := sending } }

/-- The packer is given the trigger record as it is. -/
def triggerDef (values : TriggeredValues) : ScDataTriggerDef where
  isTriggered := values.isTriggered
  channelId := UInt32.ofNat values.channelId
  timestamp := values.triggerTimestamp.getD 0
  triggerMode := (values.mode.map TriggerMode.code).getD 0

/-- What the packer holds for a data message, once its fields have been set. -/
def nanopbPacker (bits : α → UInt32) (t : Target Q α inCap outCap capacity n) : Option NanopbPacker :=
  match t.data.packer.trigger, t.data.packer.timestamp, t.data.packer.timeIncrement with
  | some trigger, some stream, some timeIncrement => some {
      channels := t.toPack.map fun i =>
        ⟨UInt32.ofNat i.val, (t.scope.channels i).swapBuffer.contents.map bits⟩
      trigger := triggerDef trigger
      timeIncrement := timeIncrement
      timestamp := some (t.data.stamps (some stream)) }
  | _, _, _ => none

/-- What gets into the output: `other` for a message that is no data message, and for
one whose fields were never set. -/
def written (p : Platform α outCap) (t : Target Q α inCap outCap capacity n) (other : Written outCap) :
    Written outCap :=
  match t.nanopbPacker p.bits with
  | some packer => if t.packingPending = .scData then p.encode.written packer.packScData else other
  | none => other

theorem written_of_ne {p : Platform α outCap} {t : Target Q α inCap outCap capacity n}
    (noData : t.packingPending ≠ .scData) (other : Written outCap) : t.written p other = other := by
  unfold written
  split
  · exact if_neg noData
  · rfl

/-- `addChannel` of the packer, which has a place for every channel of the scope. -/
def addChannel (toPack : List (Fin (n + 1))) (i : Fin (n + 1)) : List (Fin (n + 1)) :=
  if n + 1 ≤ toPack.length then toPack else toPack ++ [i]

theorem foldl_addChannel {toPack channels : List (Fin (n + 1))}
    (places : toPack.length + channels.length ≤ n + 1) :
    channels.foldl addChannel toPack = toPack ++ channels := by
  induction channels generalizing toPack with
  | nil => exact (List.append_nil _).symm
  | cons i channels ih =>
      rw [List.length_cons] at places
      have place : addChannel toPack i = toPack ++ [i] := if_neg (by omega)
      rw [List.foldl_cons, place, ih (by rw [List.length_append, List.length_singleton]; omega),
        List.append_assoc]
      rfl

/-- A packer that holds no channel yet is given all that are to be packed. -/
theorem foldl_addChannel_nil (scope : Scope capacity n α) :
    (CommandPackData.channelsToPack scope).foldl addChannel [] = CommandPackData.channelsToPack scope := by
  apply foldl_addChannel
  rw [List.length_nil, Nat.zero_add]
  exact (List.length_filter_le _ _).trans (Nat.le_of_eq List.length_finRange)

section Steps
variable [AgingPriorityQueue Q]

def create [Zero α] (unpacker : Unpacker α) (queue : Q) (priorities : MessagePriorities) :
    Target Q α inCap outCap capacity n where
  stack := .create unpacker queue priorities
  data := .create
  toPack := []

/-- `commandPackUpdate` -/
def notify (t : Target Q α inCap outCap capacity n) (event : MessageType) :
    Target Q α inCap outCap capacity n :=
  t.withSending { t.stack.sending with
    controller := t.stack.sending.controller.commandPackPushEvent event }

/-- A call that never returns is left out. -/
def putRxData (t : Target Q α inCap outCap capacity n) (bytes : List UInt8) :
    Target Q α inCap outCap capacity n :=
  match FramedIO.putRxData t.stack.rx bytes with
  | none => t
  | some (rx, _) => { t with stack := { t.stack with rx } }

def getTxData (t : Target Q α inCap outCap capacity n) (length : Nat) :
    Target Q α inCap outCap capacity n :=
  let handed := FramedIO.getTxData t.stack.sending.tx length
  t.withSending { t.stack.sending with tx := handed.2 }

section Scope
variable [LT α] [DecidableLT α] [BEq α] (overflow : Overflow)

/-- What the scope does, with the event it sends to its observer. -/
def act (t : Target Q α inCap outCap capacity n) (activity : DataActivity α) :
    Target Q α inCap outCap capacity n :=
  let acted := { t with data := t.data.step overflow activity }
  if t.data.announces overflow activity = true then acted.notify .scData else acted

def call (moment : Moment α) (t : Target Q α inCap outCap capacity n) (call : ScopeCall α) :
    Target Q α inCap outCap capacity n :=
  t.act overflow (call.activity moment.now moment.memory)

/-- A command makes its calls on the scope before it answers. -/
def runCommandParser (moment : Moment α) (t : Target Q α inCap outCap capacity n) :
    Target Q α inCap outCap capacity n :=
  let effects := (t.stack.sending.controller.runRx (n + 1) t.stack.unpacker).2.1
  let called := effects.calls.foldl (call overflow moment) t
  { called with stack := called.stack.runCommandParser (n + 1) }

def runScope (moment : Moment α) (t : Target Q α inCap outCap capacity n) :
    Target Q α inCap outCap capacity n :=
  t.act overflow (.operation (.poll moment.now moment.memory))

end Scope

/-- `CommandPackParserDispatcher_run` with the command it returns, as far as the data goes. -/
def runPackCommand (t : Target Q α inCap outCap capacity n) (event : MessageType) :
    Target Q α inCap outCap capacity n :=
  if event = .scData then
    { t with
      data := t.data.collected
      toPack := (CommandPackData.channelsToPack t.data.scope).foldl addChannel t.toPack }
  else t

/-- `runTx` of the controller -/
def runDataAggregator (logIsPending : Bool) (t : Target Q α inCap outCap capacity n) :
    Target Q α inCap outCap capacity n :=
  let sending := t.stack.sending
  let sent := sending.controller.runTx (sending.serializer.isReady sending.tx.output) logIsPending
  match sent.1 with
  | none => t.withSending { sending with controller := sent.2 }
  | some event => (t.runPackCommand event).withSending { sending with
      controller := sent.2, serializer := sending.serializer.updatePacker event }

/-- `runTx` of the serializer. A packer whose output is not empty returns at once. -/
def runPacker (p : Platform α outCap) (other : Written outCap) (t : Target Q α inCap outCap capacity n) :
    Target Q α inCap outCap capacity n :=
  let sending := t.stack.sending
  let result := sending.serializer.runTx (t.written p other) sending.tx.output
  let output := { sending.tx with output := result.2.2 }
  let packs := t.packingPending ≠ .seNone ∧ sending.tx.output.used = 0
  { stack := { t.stack with sending := { sending with
      serializer := result.2.1
      tx := match result.1 with
        | none => output
        | some type => updateTx output type } }
    data := if packs ∧ t.packingPending = .scData then t.data.drained t.toPack else t.data
    toPack := if packs then [] else t.toPack }

def runCommunicationTx (t : Target Q α inCap outCap capacity n) : Target Q α inCap outCap capacity n :=
  t.withSending { t.stack.sending with tx := runTx t.stack.sending.tx }

def step [LT α] [DecidableLT α] [BEq α] (p : Platform α outCap) (t : Target Q α inCap outCap capacity n) :
    TargetEvent α outCap → Target Q α inCap outCap capacity n
  | .putRxData bytes => t.putRxData bytes
  | .getTxData length => t.getTxData length
  | .runCommunicationRx => { t with stack := t.stack.runCommunicationRx }
  | .runUnpacker => { t with stack := t.stack.runUnpacker p.decode }
  | .runCommandParser moment => t.runCommandParser p.overflow moment
  | .runScope moment => t.runScope p.overflow moment
  | .runDataAggregator logIsPending => t.runDataAggregator logIsPending
  | .runPacker other => t.runPacker p other
  | .runCommunicationTx => t.runCommunicationTx

end Steps

/-- No list of the host is longer than there are channels. What the code does to the memory
behind its arrays is not modelled. -/
def ListsFit (p : Platform α outCap) (t : Target Q α inCap outCap capacity n) : TargetEvent α outCap → Prop
  | .runUnpacker => t.stack.ListsFit p.decode (n + 1)
  | _ => True

instance (p : Platform α outCap) (t : Target Q α inCap outCap capacity n) :
    (event : TargetEvent α outCap) → Decidable (t.ListsFit p event)
  | .runUnpacker => inferInstanceAs (Decidable (t.stack.ListsFit p.decode (n + 1)))
  | .putRxData _ | .getTxData _ | .runCommunicationRx | .runCommandParser _ | .runScope _
  | .runDataAggregator _ | .runPacker _ | .runCommunicationTx => inferInstanceAs (Decidable True)

section Pending

theorem packingPending_runRx {υ : Type*} (unpack : υ → MessageType → Bool × υ) (self : Serializer)
    (unpacker : υ) : (self.runRx unpack unpacker).2.1.packingPending = self.packingPending := by
  unfold Serializer.runRx
  split
  · rfl
  · rfl

theorem packingPending_runCommunicationRx (s : Stack Q α inCap outCap) :
    s.runCommunicationRx.sending.serializer.packingPending = s.sending.serializer.packingPending := by
  unfold Stack.runCommunicationRx
  dsimp only
  split
  · rfl
  · rfl

theorem packingPending_runUnpacker (pb : PbDecode α) (s : Stack Q α inCap outCap) :
    (s.runUnpacker pb).sending.serializer.packingPending =
      s.sending.serializer.packingPending :=
  packingPending_runRx _ _ _

theorem queue_runUnpacker (pb : PbDecode α) (s : Stack Q α inCap outCap) :
    (s.runUnpacker pb).sending.controller.queue = s.sending.controller.queue := by
  unfold Stack.runUnpacker
  dsimp only
  split
  · rfl
  · rfl

theorem packingPending_runPacker (t : Target Q α inCap outCap capacity n) (p : Platform α outCap)
    (other : Written outCap) :
    (t.runPacker p other).packingPending = .seNone := by
  change (Serializer.runTx _ _ _).2.1.packingPending = _
  unfold Serializer.runTx
  split
  · assumption
  · rfl

end Pending

section Scope
variable [AgingPriorityQueue Q] [LT α] [DecidableLT α] [BEq α] {overflow : Overflow}
  {t : Target Q α inCap outCap capacity n}

@[simp] theorem data_act (activity : DataActivity α) :
    (t.act overflow activity).data = t.data.step overflow activity := by
  unfold act
  split <;> rfl

@[simp] theorem packingPending_act (activity : DataActivity α) :
    (t.act overflow activity).packingPending = t.packingPending := by
  unfold act
  split <;> rfl

theorem toPack_act (activity : DataActivity α) : (t.act overflow activity).toPack = t.toPack := by
  unfold act
  split <;> rfl

theorem packingPending_calls (moment : Moment α) (t : Target Q α inCap outCap capacity n)
    (calls : List (ScopeCall α)) : (calls.foldl (call overflow moment) t).packingPending = t.packingPending := by
  induction calls generalizing t with
  | nil => rfl
  | cons c calls ih => exact (ih _).trans (t.packingPending_act _)

/-- Only the two runnables that pack a message take part in it. -/
theorem packingPending_step (p : Platform α outCap) {event : TargetEvent α outCap}
    (aggregates : ∀ logIsPending, event ≠ .runDataAggregator logIsPending)
    (packs : ∀ other, event ≠ .runPacker other) : (t.step p event).packingPending = t.packingPending := by
  cases event with
  | putRxData bytes =>
      change (t.putRxData bytes).packingPending = _
      unfold putRxData
      split <;> rfl
  | getTxData length => rfl
  | runCommunicationRx => exact packingPending_runCommunicationRx t.stack
  | runUnpacker => exact packingPending_runUnpacker p.decode t.stack
  | runCommandParser moment => exact packingPending_calls moment t _
  | runScope moment => exact t.packingPending_act _
  | runDataAggregator logIsPending => exact absurd rfl (aggregates logIsPending)
  | runPacker other => exact absurd rfl (packs other)
  | runCommunicationTx => rfl

end Scope

end Target

/-- `ScopeRunner_run` -/
def runnerEvents {α : Type*} {outCap : Nat} (parsing polling : Moment α) (logIsPending : Bool)
    (other : Written outCap) : List (TargetEvent α outCap) :=
  [.runCommunicationRx, .runUnpacker, .runCommandParser parsing, .runScope polling,
    .runDataAggregator logIsPending, .runPacker other, .runCommunicationTx]

end Builders
