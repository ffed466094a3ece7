import ScopeTarget.Base.Refinement
import ScopeTarget.Control.DataMessages

/-! The sets of a whole run: of those that the scope hands over, each is sent once, in the
order in which they were handed over, unless a command drops it. -/

namespace Control
open Core

namespace ScDataMessage
variable {α : Type*}

/-- The set in a message. -/
def swapSet (message : ScDataMessage α) : SwapSet α where
  channels := message.channels
  timestamps := message.timestamps
  isTriggered := message.trigger.elim false TriggeredValues.isTriggered
  triggerTimestamp := message.trigger.bind TriggeredValues.triggerTimestamp

/-- A message of an event without a set has none. -/
def HasSamples (message : ScDataMessage α) : Prop := ∃ channel ∈ message.channels, channel.2 ≠ []

instance (message : ScDataMessage α) : Decidable message.HasSamples :=
  decidable_of_iff (∃ channel ∈ message.channels, channel.2.isEmpty = false) (by
    simp only [HasSamples, List.isEmpty_eq_false_iff])

end ScDataMessage

namespace DataPacking
variable {capacity n : Nat} {α : Type*}

/-- The message of the data event that is processed, if one is. -/
def packs (self : DataPacking capacity n α) : DataActivity α → List (ScDataMessage α)
  | .operation .pack => if self.queued = 0 then [] else [self.message]
  | _ => []

/-- Only the processing of a data event makes a message. -/
theorem packs_of_ne {self : DataPacking capacity n α} {activity : DataActivity α}
    (other : activity ≠ .operation .pack) : self.packs activity = [] := by
  unfold packs
  split
  · exact absurd rfl other
  · rfl

def sendsSets (self : DataPacking capacity n α) (activity : DataActivity α) : List (SwapSet α) :=
  ((self.packs activity).filter fun message => message.HasSamples).map ScDataMessage.swapSet

/-- The set that waits for the packer. -/
def heldSets (self : DataPacking capacity n α) : List (SwapSet α) :=
  if self.HoldsSet then [self.unsent] else []

/-- A command that drops the set that waits, if one does. -/
def Drops (self : DataPacking capacity n α) : DataActivity α → Prop
  | .operation .clear => self.HoldsSet
  | .operation (.setChannelRunning _) => self.HoldsSet
  | _ => False

instance (self : DataPacking capacity n α) : (activity : DataActivity α) → Decidable (self.Drops activity)
  | .operation op =>
      match op with
      | .clear | .setChannelRunning _ => inferInstanceAs (Decidable self.HoldsSet)
      | .poll _ _ | .configureChannel _ _ _ | .configureTrigger _ | .configureTimestampIncrement _
      | .setChannelStopped _ | .pack => inferInstanceAs (Decidable False)
  | .transmit => inferInstanceAs (Decidable False)

theorem hasSamples_message (self : DataPacking capacity n α) : self.message.HasSamples ↔ self.HoldsSet := by
  constructor
  · rintro ⟨channel, packed, some_⟩
    obtain ⟨i, toPack, rfl⟩ := List.mem_map.mp packed
    refine ⟨i, CommandPackData.mem_channelsToPack.mp toPack, fun none_ => some_ ?_⟩
    exact List.length_eq_zero_iff.mp none_
  · rintro ⟨i, full, some_⟩
    refine ⟨(i.val, (self.scope.channels i).swapBuffer.contents), ?_, fun none_ => some_ ?_⟩
    · exact List.mem_map.mpr ⟨i, CommandPackData.mem_channelsToPack.mpr full, rfl⟩
    · exact List.length_eq_zero_iff.mpr none_

/-- The set that waits is the one in the message. -/
theorem swapSet_message {self : DataPacking capacity n α} (holds : self.HoldsSet) :
    self.message.swapSet = self.unsent := by
  have stamps : self.message.timestamps = self.scope.timestamper.swapBuffer.contents :=
    stamps_of_waits holds.waits
  have trigger : self.message.trigger = some self.scope.getTriggerData := by
    dsimp only [message]
    rw [added_of_waits holds.waits]
  unfold ScDataMessage.swapSet
  rw [stamps, trigger]
  rfl

theorem heldSets_same {self after : DataPacking capacity n α}
    (same : self.scope.trigger.SameSwap after.scope.trigger) : after.heldSets = self.heldSets := by
  have holds : after.HoldsSet ↔ self.HoldsSet :=
    ⟨fun held => held.same same.symm, fun held => held.same same⟩
  unfold heldSets
  rw [unsent_same same]
  exact if_congr holds rfl rfl

section Step
variable [LT α] [DecidableLT α] [BEq α] {overflow : Overflow}

/-- The set with samples that the scope hands over. -/
def handsSets (overflow : Overflow) (self : DataPacking capacity n α) : DataActivity α → List (SwapSet α)
  | .operation op => if self.scope.handsOver overflow op = true then (self.operate overflow op).heldSets else []
  | .transmit => []

theorem moved_pack (self : DataPacking capacity n α) :
    self.sendsSets (.operation .pack) ++ (self.step overflow (.operation .pack)).heldSets = self.heldSets := by
  by_cases event : self.queued = 0
  · have nothing : self.packs (.operation .pack) = [] := if_pos event
    have same : self.step overflow (.operation .pack) = self := if_pos event
    rw [sendsSets, nothing, same]
    rfl
  · have packed : self.packs (.operation .pack) = [self.message] := if_neg event
    have after : self.step overflow (.operation .pack) = self.process := if_neg event
    have nothing : self.process.heldSets = [] := if_neg self.process_holds_nothing
    have filtered : ([self.message].filter fun message => message.HasSamples) =
        if self.HoldsSet then [self.message] else [] := by
      rw [List.filter_cons]
      exact if_congr (decide_eq_true_iff.trans self.hasSamples_message) rfl rfl
    rw [sendsSets, packed, after, nothing, List.append_nil, filtered]
    unfold heldSets
    split
    · rename_i holds
      rw [List.map_singleton, swapSet_message holds]
    · rfl

/-- A set goes from the scope to the place where it waits, and from there into a message,
unless a command drops it. -/
theorem moved {self : DataPacking capacity n α} (covered : self.Covered) (activity : DataActivity α) :
    self.sendsSets activity ++ (self.step overflow activity).heldSets =
        self.heldSets ++ self.handsSets overflow activity ∨
      self.Drops activity ∧ self.sendsSets activity ++ (self.step overflow activity).heldSets = [] := by
  cases activity with
  | transmit => exact .inl (List.append_nil self.heldSets).symm
  | operation op =>
      by_cases pack : op = .pack
      · subst pack
        have nothing : self.handsSets overflow (.operation .pack) = [] := rfl
        rw [moved_pack, nothing, List.append_nil]
        exact .inl rfl
      · have nothing : self.sendsSets (.operation op) = [] := by
          rw [sendsSets, packs_of_ne fun same => pack (DataActivity.operation.inj same)]
          rfl
        have hands : self.handsSets overflow (.operation op) =
            if self.scope.handsOver overflow op = true then (self.operate overflow op).heldSets else [] := rfl
        rw [nothing, hands, step_operation pack, List.nil_append]
        cases self.scope.step_swapped overflow pack with
        | keeps waits same =>
            have kept : (self.operate overflow op).heldSets = self.heldSets := heldSets_same same
            rw [waits, kept]
            exact .inl (List.append_nil _).symm
        | replaces sent free =>
            have none_ : self.heldSets = [] := if_neg fun holds => holds.stamps covered free
            rw [sent, none_]
            exact .inl rfl
        | drops command waits samples =>
            have empty : (self.operate overflow op).heldSets = [] := if_neg fun ⟨i, _, some_⟩ =>
              some_ (congrArg Fifo.used (samples i))
            rw [waits, empty]
            by_cases holds : self.HoldsSet
            · right
              refine ⟨?_, rfl⟩
              cases op with
              | clear => exact holds
              | setChannelRunning i => exact holds
              | _ => cases command
            · have none_ : self.heldSets = [] := if_neg holds
              rw [none_]
              exact .inl rfl

theorem moved_sublist {self : DataPacking capacity n α} (covered : self.Covered) (activity : DataActivity α) :
    (self.sendsSets activity ++ (self.step overflow activity).heldSets).Sublist
      (self.heldSets ++ self.handsSets overflow activity) := by
  rcases moved covered activity with same | ⟨_, nothing⟩
  · rw [same]
  · rw [nothing]
    exact List.nil_sublist _

/-- Over a run, the sets that are sent and the one that waits are among those handed over,
in their order. -/
theorem sent_sublist [Zero α] (overflow : Overflow) (activities : List (DataActivity α)) :
    let start : DataPacking capacity n α := create
    (Run.trace (step overflow) sendsSets start activities ++
      (Run.exec (step overflow) start activities).heldSets).Sublist
        (Run.trace (step overflow) (handsSets overflow) start activities) := by
  intro start
  have nothing : start.heldSets = [] := if_neg fun ⟨_, _, some_⟩ => some_ rfl
  have covered : start.Covered := covered_of_empty (fun _ => rfl) rfl
  have along := Run.trace_sublist (step overflow) (fun _ activity covered => covered_step covered activity)
    (fun _ activity covered => moved_sublist covered activity) covered activities
  rw [nothing] at along
  exact along

/-- They are all of those, if no command drops one. -/
theorem sent_eq [Zero α] (overflow : Overflow) {activities : List (DataActivity α)}
    (kept : Run.Along (step overflow) (fun self activity => ¬ self.Drops activity)
      (create : DataPacking capacity n α) activities) :
    let start : DataPacking capacity n α := create
    Run.trace (step overflow) sendsSets start activities ++
      (Run.exec (step overflow) start activities).heldSets =
        Run.trace (step overflow) (handsSets overflow) start activities := by
  intro start
  have nothing : start.heldSets = [] := if_neg fun ⟨_, _, some_⟩ => some_ rfl
  have covered : start.Covered := covered_of_empty (fun _ => rfl) rfl
  have along := Run.trace_conserved (step overflow) (fun _ activity covered => covered_step covered activity)
    (fun _ activity covered kept => (moved covered activity).resolve_right
      fun dropped => kept dropped.1) covered kept
  rw [nothing] at along
  exact along

end Step

end DataPacking

end Control
