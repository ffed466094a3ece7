import ScopeTarget.Control.UnsentSets

/-! Whether a data message is of one piece. A message with a set to send is. An
event that finds none is packed all the same, with what the packer still holds. -/

namespace Control
open Core

namespace DataPacking
variable {capacity n : Nat} {α : Type*}

/-- Processing the next data event reads nothing but the swap side and fields that
were set, and the columns of its message are of one length. -/
structure Consistent (packing : DataPacking capacity n α) : Prop where
  samples : ∀ i, (packing.process.scope.channels i).pollBuffer = (packing.scope.channels i).pollBuffer
  stamps : packing.process.scope.timestamper.pollBuffer = packing.scope.timestamper.pollBuffer
  set : packing.added.timestamp.isSome = true ∧ packing.added.trigger.isSome = true ∧
    packing.added.timeIncrement.isSome = true
  columns : ∀ channel ∈ packing.message.channels,
    channel.2.length = packing.message.timestamps.length
  alone : packing.message.channels = [] → packing.message.timestamps = []

/-- There is a set to send, or the packer was given a stream that is empty now. -/
def Backed (self : DataPacking capacity n α) : Prop :=
  self.SetWaits ∨ ∃ stream, self.packer.timestamp = some stream ∧ self.stamps (some stream) = []

/-- The fields that outlive a message are set together. -/
def AddedTogether (fields : PackerFields) : Prop :=
  fields.timestamp.isSome = fields.trigger.isSome ∧ fields.timestamp.isSome = fields.timeIncrement.isSome

theorem addedTogether_added {self : DataPacking capacity n α} (together : AddedTogether self.packer) :
    AddedTogether self.added := by
  unfold added
  split
  · exact together
  · exact ⟨rfl, rfl⟩

theorem message_channels (self : DataPacking capacity n α) :
    self.message.channels = [] ↔ ¬ self.SetWaits := by
  rw [← channelsToPack_eq_nil_iff]
  exact List.map_eq_nil_iff

/-- Every packed channel is full, and so are the stamps. -/
theorem consistent_of_waits {self : DataPacking capacity n α} (covered : self.Covered)
    (waits : self.SetWaits) : self.Consistent where
  samples := self.pollBuffer_process
  stamps := by
    change (self.readStamps self.added.timestamp).pollBuffer = _
    rw [readStamps_of_waits waits]
    rfl
  set := by
    rw [added_of_waits waits]
    exact ⟨rfl, rfl, rfl⟩
  columns := by
    intro channel packed
    obtain ⟨i, toPack, rfl⟩ := List.mem_map.mp packed
    have full : (self.scope.channels i).swapBuffer.Full := CommandPackData.mem_channelsToPack.mp toPack
    have stamps : self.message.timestamps = self.scope.timestamper.swapBuffer.contents :=
      stamps_of_waits waits
    rw [stamps]
    exact full.trans (covered waits).symm
  alone none_ := absurd waits (self.message_channels.mp none_)

/-- Without a set, the message has the stamps of the stream the packer still holds. -/
theorem consistent_of_nothing {self : DataPacking capacity n α} (together : AddedTogether self.packer)
    (nothing : ¬ self.SetWaits) {stream : Bool} (kept : self.packer.timestamp = some stream)
    (empty : self.stamps (some stream) = []) : self.Consistent where
  samples := self.pollBuffer_process
  stamps := by
    change (self.readStamps self.added.timestamp).pollBuffer = _
    rw [added_of_not_waits nothing, kept]
    dsimp only [stamps] at empty
    dsimp only [readStamps]
    split
    · rename_i polled
      rw [if_pos polled, Fifo.contents_eq_nil_iff, ← Fifo.eq_empty_iff] at empty
      exact empty.symm
    · rfl
  set := by
    obtain ⟨trigger, increment⟩ := together
    rw [added_of_not_waits nothing, ← trigger, ← increment, kept]
    exact ⟨rfl, rfl, rfl⟩
  columns := by
    rw [self.message_channels.mpr nothing]
    intro channel packed
    cases packed
  alone _ := by
    dsimp only [message]
    rw [added_of_not_waits nothing, kept]
    exact empty

theorem backed_of_consistent {self : DataPacking capacity n α} (consistent : self.Consistent) :
    self.Backed := by
  by_cases waits : self.SetWaits
  · exact .inl waits
  · right
    have none_ := consistent.alone (self.message_channels.mpr waits)
    obtain ⟨stream, kept⟩ := Option.isSome_iff_exists.mp consistent.set.1
    dsimp only [message] at none_
    rw [added_of_not_waits waits] at kept none_
    rw [kept] at none_
    exact ⟨stream, kept, none_⟩

theorem consistent_iff {self : DataPacking capacity n α} (covered : self.Covered)
    (together : AddedTogether self.packer) : self.Consistent ↔ self.Backed := by
  constructor
  · exact backed_of_consistent
  · intro backed
    by_cases waits : self.SetWaits
    · exact consistent_of_waits covered waits
    · obtain ⟨stream, kept, empty⟩ := backed.resolve_left waits
      exact consistent_of_nothing together waits kept empty

section Step
variable [LT α] [DecidableLT α] [BEq α] {overflow : Overflow}

theorem addedTogether_step {self : DataPacking capacity n α} (together : AddedTogether self.packer)
    (activity : DataActivity α) : AddedTogether (self.step overflow activity).packer := by
  cases activity with
  | transmit => exact together
  | operation op =>
      by_cases pack : op = .pack
      · subst pack
        dsimp only [step]
        split
        · exact together
        · exact addedTogether_added together
      · rw [step_operation pack]
        exact together

theorem addedTogether_exec [Zero α] (activities : List (DataActivity α)) :
    AddedTogether (Run.exec (step overflow) (create : DataPacking capacity n α) activities).packer := by
  have kept (self : DataPacking capacity n α) (activity : DataActivity α)
      (together : AddedTogether self.packer) : AddedTogether (self.step overflow activity).packer :=
    addedTogether_step together activity
  exact Run.exec_invariant _ kept ⟨rfl, rfl⟩ activities

/-- In every reachable state, processing a data event is consistent exactly when
the event is backed by a set, or by an empty stream from an earlier one. -/
theorem consistent_iff_backed [Zero α] (overflow : Overflow) (activities : List (DataActivity α)) :
    let self := Run.exec (step overflow) (create : DataPacking capacity n α) activities
    self.Consistent ↔ self.Backed :=
  consistent_iff (covered_exec activities) (addedTogether_exec activities)

end Step

section Run
open Operation

/-- One channel with room for a sample, and polls at the given times. -/
def pollsAt (times : List Nat) : List (DataActivity Int) := times.map fun k => .operation (steadyPoll k)

/-- The first set is packed, the second one is cleared. Its event finds the handle
of the first, whose stream is polled into again by now. -/
def clearedRun : List (DataActivity Int) :=
  [.operation (.configureChannel 0 16 .seInt8), .operation (.setChannelRunning 0)] ++
    pollsAt [1, 2, 3] ++ [.operation .pack] ++ pollsAt [4, 5, 6, 7] ++ [.operation .clear] ++ pollsAt [8, 9]

theorem consistent_fails :
    let self := Run.exec (step .reject) (create : DataPacking 1 0 Int) clearedRun
    self.queued ≠ 0 ∧ ¬ self.Consistent := by
  refine ⟨by decide, fun consistent => ?_⟩
  exact absurd (consistent.alone (by decide)) (by decide)

end Run

end DataPacking

end Control
