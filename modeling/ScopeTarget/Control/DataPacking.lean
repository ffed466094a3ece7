import ScopeTarget.Core.SwapSide

/-! Data events from the scope to the packer. The packer keeps the handle of the
time stamps, the trigger and the increment from one message to the next, and the
timestamper exchanges its two streams, so a kept handle may name either side. -/

namespace Control
open Core

/-- The fields of the packer that are not reset, unset until they are first added. -/
structure PackerFields where
  trigger : Option TriggeredValues
  timestamp : Option Bool
  timeIncrement : Option UInt32
  deriving DecidableEq, Repr

/-- What is put into an SC_DATA message; a field that was never added has no value. -/
structure ScDataMessage (α : Type*) where
  channels : List (Nat × List α)
  timestamps : List UInt32
  trigger : Option TriggeredValues
  timeIncrement : Option UInt32

/-- `pollStream` tells which of the two streams of the timestamper is polled into. -/
structure DataPacking (capacity n : Nat) (α : Type*) where
  scope : Scope capacity n α
  pollStream : Bool
  packer : PackerFields
  queued : Nat

/-- An operation of the scope, where packing is the processing of a queued data
event, or the host's request for data. -/
inductive DataActivity (α : Type*) where
  | operation (op : Operation α)
  | transmit

namespace DataPacking
variable {capacity n : Nat} {α : Type*}

def create [Zero α] : DataPacking capacity n α where
  scope := Scope.create
  pollStream := true
  packer := ⟨none, none, none⟩
  queued := 0

/-- What `CommandPackData` leaves in the packer: nothing new if no channel is full. -/
def added (self : DataPacking capacity n α) : PackerFields :=
  if CommandPackData.channelsToPack self.scope = [] then self.packer
  else
    { trigger := some self.scope.getTriggerData
      timestamp := some !self.pollStream
      timeIncrement := some self.scope.timestamper.timeIncrement }

/-- The stream behind a handle, as it is found now. -/
def stamps (self : DataPacking capacity n α) : Option Bool → List UInt32
  | none => []
  | some stream =>
      if stream = self.pollStream then self.scope.timestamper.pollBuffer.contents
      else self.scope.timestamper.swapBuffer.contents

/-- The timestamper after the stream behind a handle has been read empty. -/
def readStamps (self : DataPacking capacity n α) : Option Bool → Timestamper capacity
  | none => self.scope.timestamper
  | some stream =>
      if stream = self.pollStream then { self.scope.timestamper with pollBuffer := .empty }
      else self.scope.timestamper.drained

def message (self : DataPacking capacity n α) : ScDataMessage α where
  channels := (CommandPackData.dataSet self.scope).channels
  timestamps := self.stamps self.added.timestamp
  trigger := self.added.trigger
  timeIncrement := self.added.timeIncrement

/-- `CommandPackData`, and then the packer on an empty output that has room. -/
def process (self : DataPacking capacity n α) : DataPacking capacity n α where
  scope :=
    { self.scope with trigger :=
      { self.scope.trigger with
        channels := (CommandPackData.drain self.scope).channels
        timestamper := self.readStamps self.added.timestamp } }
  pollStream := self.pollStream
  packer := self.added
  queued := self.queued - 1

section Step
variable [LT α] [DecidableLT α] [BEq α]

/-- The scope announces the set it hands over as a data event. -/
def operate (overflow : Overflow) (self : DataPacking capacity n α) (op : Operation α) :
    DataPacking capacity n α :=
  let sent := self.scope.handsOver overflow op
  { self with
    scope := self.scope.step overflow op
    pollStream := if sent then !self.pollStream else self.pollStream
    queued := if sent then self.queued + 1 else self.queued }

def step (overflow : Overflow) (self : DataPacking capacity n α) :
    DataActivity α → DataPacking capacity n α
  | .operation .pack => if self.queued = 0 then self else self.process
  | .operation op => self.operate overflow op
  | .transmit => { self with queued := self.queued + 1 }

theorem step_operation {overflow : Overflow} {self : DataPacking capacity n α} {op : Operation α}
    (other : op ≠ .pack) : self.step overflow (.operation op) = self.operate overflow op := by
  cases op with
  | pack => exact absurd rfl other
  | _ => rfl

end Step

/-- Some channel has a set for the packer. -/
def SetWaits (self : DataPacking capacity n α) : Prop :=
  ∃ i, (self.scope.channels i).swapBuffer.Full

instance (self : DataPacking capacity n α) : Decidable self.SetWaits :=
  inferInstanceAs (Decidable (∃ _, _))

theorem channelsToPack_eq_nil_iff {self : DataPacking capacity n α} :
    CommandPackData.channelsToPack self.scope = [] ↔ ¬ self.SetWaits := by
  rw [List.eq_nil_iff_forall_not_mem, SetWaits, not_exists]
  exact forall_congr' fun i => not_congr CommandPackData.mem_channelsToPack

theorem added_of_waits {self : DataPacking capacity n α} (waits : self.SetWaits) :
    self.added = ⟨some self.scope.getTriggerData, some !self.pollStream,
      some self.scope.timestamper.timeIncrement⟩ :=
  if_neg fun none_ => channelsToPack_eq_nil_iff.mp none_ waits

theorem added_of_not_waits {self : DataPacking capacity n α} (nothing : ¬ self.SetWaits) :
    self.added = self.packer := if_pos (channelsToPack_eq_nil_iff.mpr nothing)

/-- With a set to pack, the packer is given the stream of the swap side. -/
theorem stamps_of_waits {self : DataPacking capacity n α} (waits : self.SetWaits) :
    self.stamps self.added.timestamp = self.scope.timestamper.swapBuffer.contents := by
  have other : ¬ (!self.pollStream) = self.pollStream := Bool.not_ne_self _
  rw [added_of_waits waits]
  exact if_neg other

theorem readStamps_of_waits {self : DataPacking capacity n α} (waits : self.SetWaits) :
    self.readStamps self.added.timestamp = self.scope.timestamper.drained := by
  have other : ¬ (!self.pollStream) = self.pollStream := Bool.not_ne_self _
  rw [added_of_waits waits]
  exact if_neg other

/-- A set is packed as `CommandPackData` alone would have it. -/
theorem process_of_waits {self : DataPacking capacity n α} (waits : self.SetWaits) :
    self.process.scope = (CommandPackData.run self.scope).2 := by
  have some_ : ¬ CommandPackData.channelsToPack self.scope = [] :=
    fun none_ => channelsToPack_eq_nil_iff.mp none_ waits
  rw [CommandPackData.run, if_neg some_]
  dsimp only [process]
  rw [readStamps_of_waits waits]
  rfl

theorem swapBuffer_process (self : DataPacking capacity n α) (i : Fin (n + 1)) :
    (self.process.scope.channels i).swapBuffer =
      if (self.scope.channels i).swapBuffer.Full then .empty else (self.scope.channels i).swapBuffer := by
  change (if self.scope.channelHasToBePacked i = true then (self.scope.channels i).drained
    else self.scope.channels i).swapBuffer = _
  rw [apply_ite Channel.swapBuffer]
  exact if_congr (self.scope.channelHasToBePacked_iff i) rfl rfl

theorem pollBuffer_process (self : DataPacking capacity n α) (i : Fin (n + 1)) :
    (self.process.scope.channels i).pollBuffer = (self.scope.channels i).pollBuffer :=
  CommandPackData.pollBuffer_drain self.scope i

end DataPacking

end Control
