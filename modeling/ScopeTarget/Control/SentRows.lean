import Mathlib.Data.List.Flatten
import ScopeTarget.Control.SentSets
import ScopeTarget.Core.Alignment

/-! What is sent has been read. The sets in the messages of a run are made of rows that were
polled, each row used once and in the order of the polls. -/

namespace Core

/-- A set that is handed over leaves no stamp behind. -/
theorem Trigger.pollStamps_ran {capacity n : Nat} {α : Type*} {t t' : Trigger capacity n α}
    (ran : Ran t (true, t')) : t'.timestamper.pollBuffer = .empty := by
  cases ran with
  | stops origin stopped =>
      cases stopped with
      | handsOver pending same => exact same.stampsPolled

theorem Scope.pollStamps_poll {capacity n : Nat} {α : Type*} [LT α] [DecidableLT α] [BEq α]
    (s : Scope capacity n α) {overflow : Overflow} {now : UInt32} {memory : Memory α}
    (sent : s.handsOver overflow (.poll now memory) = true) :
    (s.step overflow (.poll now memory)).timestamper.pollBuffer = .empty := by
  have handed : (s.poll overflow now memory).1 = true := sent
  obtain ⟨-, ⟨-, silent, -⟩ | ⟨-, ran⟩⟩ := s.poll_outcome overflow now memory
  · cases silent.symm.trans handed
  · rw [handed] at ran
    exact Trigger.pollStamps_ran ran

end Core

namespace Control
open Core

/-- The set consists of these rows: the times are its stamps, and what a channel of it has
recorded are its samples. -/
structure SwapSet.MadeOf {n : Nat} {α : Type*} (set : SwapSet α) (rows : List (Row n α)) : Prop where
  times : set.timestamps = rows.map Row.time
  values : ∀ channel ∈ set.channels, ∃ i : Fin (n + 1), channel.1 = i.val ∧
    channel.2.map some = rows.map fun r => r.values i

namespace DataPacking
variable {capacity n : Nat} {α : Type*}

/-- The row that a poll takes, of the channels that run. -/
def polledRows (self : DataPacking capacity n α) : DataActivity α → List (Row n α)
  | .operation (.poll now memory) => if self.scope.Sampled now then [self.scope.row now memory] else []
  | _ => []

/-- A channel is not stopped full while another one runs on, and a data event is processed
only if there is something behind it. -/
def Clean (self : DataPacking capacity n α) : DataActivity α → Prop
  | .operation .pack => self.queued = 0 ∨ self.Backed
  | .operation op => (Logged.mk self.scope []).StopsNoFullChannel op
  | .transmit => True

instance (self : DataPacking capacity n α) : Decidable self.Backed :=
  inferInstanceAs (Decidable (_ ∨ ∃ _, _))

instance (l : Logged capacity n α) (id : Nat) : Decidable (l.StopsNoFullChannel (.setChannelStopped id)) :=
  inferInstanceAs (Decidable (∀ _ : Fin (n + 1), _ → _ → _ → _ → ∀ _, _ → _))

instance (self : DataPacking capacity n α) : (activity : DataActivity α) → Decidable (self.Clean activity)
  | .operation .pack => inferInstanceAs (Decidable (_ ∨ _))
  | .operation (.setChannelStopped id) =>
      inferInstanceAs (Decidable ((Logged.mk self.scope []).StopsNoFullChannel (.setChannelStopped id)))
  | .operation (.configureChannel _ _ _) | .operation (.configureTrigger _)
  | .operation (.configureTimestampIncrement _) | .operation (.setChannelRunning _)
  | .operation (.poll _ _) | .operation .clear | .transmit => inferInstanceAs (Decidable True)

/-- What the buffers of the poll side are made of. -/
structure HoldsRows (data : DataPacking capacity n α) (rows : List (Row n α)) : Prop where
  sound : data.scope.Sound
  rows : Holds rows data.scope.trigger

theorem holdsRows_create [Zero α] : (create : DataPacking capacity n α).HoldsRows [] :=
  ⟨Scope.sound_create, Holds.of_empty rfl fun _ => rfl⟩

/-- An event without a set, and with an empty stream behind it, leaves the scope as it is. -/
theorem process_of_nothing {self : DataPacking capacity n α} (nothing : ¬ self.SetWaits) {stream : Bool}
    (kept : self.packer.timestamp = some stream) (empty : self.stamps (some stream) = []) :
    self.process.scope = self.scope := by
  have stamps : self.readStamps self.added.timestamp = self.scope.timestamper := by
    rw [added_of_not_waits nothing, kept]
    unfold stamps at empty
    dsimp only at empty
    dsimp only [readStamps]
    split at empty
    · rename_i polled
      rw [if_pos polled, ← (Fifo.eq_empty_iff _).mpr ((Fifo.contents_eq_nil_iff _).mp empty)]
    · rename_i swapped
      rw [if_neg swapped, Timestamper.drained, ← (Fifo.eq_empty_iff _).mpr ((Fifo.contents_eq_nil_iff _).mp empty)]
  have channels : (CommandPackData.drain self.scope).channels = self.scope.channels := by
    funext i
    have room : ¬ self.scope.channelHasToBePacked i = true := by
      rw [Scope.channelHasToBePacked_iff]
      exact fun full => nothing ⟨i, full⟩
    exact if_neg room
  unfold process
  rw [stamps, channels]
  rfl

theorem madeOf_unsent {self : DataPacking capacity n α} {rows : List (Row n α)}
    (delivers : self.scope.Delivers rows) : self.unsent.MadeOf rows where
  times := delivers.times
  values := by
    intro channel packed
    obtain ⟨i, toPack, rfl⟩ := List.mem_map.mp packed
    have full := CommandPackData.mem_channelsToPack.mp toPack
    exact ⟨i, rfl, delivers.values i ((self.scope.channelHasToBePacked_iff i).mpr full)⟩

/-- A message of one piece that has no samples has no stamps either. -/
theorem madeOf_nothing {self : DataPacking capacity n α} (consistent : self.Consistent)
    (none_ : ¬ self.message.HasSamples) : self.message.swapSet.MadeOf ([] : List (Row n α)) where
  times := by
    change self.message.timestamps = []
    cases channels : self.message.channels with
    | nil => exact consistent.alone channels
    | cons channel rest =>
        have member : channel ∈ self.message.channels := channels ▸ List.mem_cons_self
        have nothing : channel.2 = [] := by
          by_contra some_
          exact none_ ⟨channel, member, some_⟩
        rw [← List.length_eq_zero_iff, ← consistent.columns channel member, nothing]
        rfl
  values := by
    intro channel member
    have nothing : channel.2 = [] := by
      by_contra some_
      exact none_ ⟨channel, member, some_⟩
    obtain ⟨i, -, rfl⟩ := List.mem_map.mp member
    exact ⟨i, rfl, congrArg (List.map some) nothing⟩

section Step
variable [LT α] [DecidableLT α] [BEq α] {self : DataPacking capacity n α} {rows : List (Row n α)}

/-- Behind a clean data event, the poll side is made of the same rows. -/
theorem holdsRows_pack (holds : self.HoldsRows rows) (clean : self.Clean (.operation .pack)) :
    ∃ kept, kept.Sublist rows ∧ (self.step .evict (.operation .pack)).HoldsRows kept := by
  rcases clean with event | backed
  · have same : self.step .evict (.operation .pack) = self := if_pos event
    rw [same]
    exact ⟨rows, List.Sublist.refl rows, holds⟩
  · by_cases event : self.queued = 0
    · have same : self.step .evict (.operation .pack) = self := if_pos event
      rw [same]
      exact ⟨rows, List.Sublist.refl rows, holds⟩
    · have after : self.step .evict (.operation .pack) = self.process := if_neg event
      rw [after]
      by_cases waits : self.SetWaits
      · have packed := process_of_waits waits
        have held : (Logged.mk self.scope rows).HoldsLog := ⟨rows, List.Sublist.refl rows, holds.rows⟩
        obtain ⟨kept, chosen, inside⟩ := Logged.holds_step .pack holds.sound held trivial
        refine ⟨kept, chosen, ?_, ?_⟩
        · rw [packed]
          exact Scope.sound_step .evict .pack holds.sound
        · rw [packed]
          exact inside
      · obtain ⟨stream, kept, empty⟩ := backed.resolve_left waits
        have same := process_of_nothing waits kept empty
        refine ⟨rows, List.Sublist.refl rows, ?_, ?_⟩
        · rw [same]
          exact holds.sound
        · rw [same]
          exact holds.rows

/-- A command hands nothing over, and leaves some of the rows on the poll side. -/
theorem holdsRows_command (holds : self.HoldsRows rows) {op : Operation α} (pack : op ≠ .pack)
    (poll : ∀ now memory, op ≠ .poll now memory) (clean : self.Clean (.operation op)) :
    self.handsSets .evict (.operation op) = [] ∧ self.polledRows (.operation op) = [] ∧
      ∃ kept, kept.Sublist rows ∧ (self.step .evict (.operation op)).HoldsRows kept := by
  have held : (Logged.mk self.scope rows).HoldsLog := ⟨rows, List.Sublist.refl rows, holds.rows⟩
  have keeps : (Logged.mk self.scope rows).StopsNoFullChannel op := by
    cases op with
    | pack => exact absurd rfl pack
    | _ => exact clean
  have log : (Logged.mk self.scope rows).logged op = rows := by
    cases op with
    | poll now memory => exact absurd rfl (poll now memory)
    | _ => rfl
  obtain ⟨kept, chosen, inside⟩ := Logged.holds_step op holds.sound held keeps
  refine ⟨?_, ?_, kept, log ▸ chosen, ?_⟩
  · cases op with
    | poll now memory => exact absurd rfl (poll now memory)
    | _ => rfl
  · cases op with
    | poll now memory => exact absurd rfl (poll now memory)
    | _ => rfl
  · rw [step_operation pack]
    exact ⟨Scope.sound_step .evict op holds.sound, inside⟩

/-- The rows of a set that a poll hands over leave the poll side. -/
theorem holdsRows_poll (holds : self.HoldsRows rows) (now : UInt32) (memory : Memory α) :
    ∃ left kept, List.Forall₂ SwapSet.MadeOf (self.handsSets .evict (.operation (.poll now memory))) left ∧
      (self.step .evict (.operation (.poll now memory))).HoldsRows kept ∧
      (left.flatten ++ kept).Sublist (rows ++ self.polledRows (.operation (.poll now memory))) := by
  have held : (Logged.mk self.scope rows).HoldsLog := ⟨rows, List.Sublist.refl rows, holds.rows⟩
  obtain ⟨⟨kept, chosen, inside⟩, aligned⟩ := Logged.holds_poll holds.sound held now memory
  have log : ((Logged.mk self.scope rows).step (.poll now memory)).log =
      rows ++ self.polledRows (.operation (.poll now memory)) := by
    dsimp only [Logged.step, Logged.logged, polledRows]
    split
    · rfl
    · exact (List.append_nil rows).symm
  have after : (self.step .evict (.operation (.poll now memory))).HoldsRows kept :=
    ⟨Scope.sound_step .evict (.poll now memory) holds.sound, inside⟩
  unfold Logged.HandsOverAligned at aligned
  rw [log] at chosen aligned
  by_cases sent : self.scope.handsOver .evict (.poll now memory) = true
  · obtain ⟨left, taken, delivers⟩ := aligned sent
    have nothing : kept = [] := by
      rw [← List.map_eq_nil_iff, ← inside.times]
      exact congrArg Fifo.contents (self.scope.pollStamps_poll sent)
    subst nothing
    have hands : self.handsSets .evict (.operation (.poll now memory)) =
        (self.operate .evict (.poll now memory)).heldSets := if_pos sent
    by_cases holdsSet : (self.operate .evict (.poll now memory)).HoldsSet
    · refine ⟨[left], [], ?_, after, ?_⟩
      · rw [hands, heldSets, if_pos holdsSet]
        exact .cons (madeOf_unsent delivers) .nil
      · rw [List.flatten_singleton, List.append_nil]
        exact taken
    · refine ⟨[], [], ?_, after, List.nil_sublist _⟩
      rw [hands, heldSets, if_neg holdsSet]
      exact .nil
  · have hands : self.handsSets .evict (.operation (.poll now memory)) = [] := if_neg sent
    rw [hands]
    exact ⟨[], kept, .nil, after, chosen⟩

theorem holdsRows_step {self : DataPacking capacity n α} {rows : List (Row n α)} (activity : DataActivity α)
    (holds : self.HoldsRows rows) (clean : self.Clean activity) :
    ∃ left kept, List.Forall₂ SwapSet.MadeOf (self.handsSets .evict activity) left ∧
      (self.step .evict activity).HoldsRows kept ∧
      (left.flatten ++ kept).Sublist (rows ++ self.polledRows activity) := by
  cases activity with
  | transmit => exact ⟨[], rows, .nil, ⟨holds.sound, holds.rows⟩, List.sublist_append_left _ _⟩
  | operation op =>
      by_cases polls : ∃ now memory, op = .poll now memory
      · obtain ⟨now, memory, rfl⟩ := polls
        exact holdsRows_poll holds now memory
      by_cases pack : op = .pack
      · subst pack
        obtain ⟨kept, chosen, after⟩ := holdsRows_pack holds clean
        exact ⟨[], kept, .nil, after, chosen.trans (List.sublist_append_left _ _)⟩
      · have poll (now : UInt32) (memory : Memory α) (same : op = .poll now memory) : False :=
          polls ⟨now, memory, same⟩
        obtain ⟨hands, polled, kept, chosen, after⟩ := holdsRows_command holds pack poll clean
        rw [hands, polled, List.append_nil]
        exact ⟨[], kept, .nil, after, chosen⟩

/-- In a clean run, sets that are handed over are made of rows that were polled. -/
theorem rows_of_handed [Zero α] {activities : List (DataActivity α)}
    (clean : Run.Along (step .evict) Clean (create : DataPacking capacity n α) activities)
    {sets : List (SwapSet α)} (handed : sets.Sublist
      (Run.trace (step .evict) (handsSets .evict) (create : DataPacking capacity n α) activities)) :
    ∃ left, List.Forall₂ SwapSet.MadeOf sets left ∧
      left.flatten.Sublist (Run.trace (step .evict) polledRows (create : DataPacking capacity n α) activities) := by
  obtain ⟨all, kept, made, -, chosen⟩ := Run.trace_explained (step .evict)
    (fun _ activity _ => holdsRows_step activity) holdsRows_create clean
  obtain ⟨left, some_, fewer⟩ := Run.forall₂_sublist handed made
  exact ⟨left, some_, (fewer.flatten.trans (List.sublist_append_left _ _)).trans chosen⟩

/-- In a clean run, each set that is sent is made of rows that were polled: no two samples of
a message stand in the wrong place, none is sent twice, and later sets are made of later rows. -/
theorem sent_rows [Zero α] {activities : List (DataActivity α)}
    (clean : Run.Along (step .evict) Clean (create : DataPacking capacity n α) activities) :
    ∃ left, List.Forall₂ SwapSet.MadeOf
        (Run.trace (step .evict) sendsSets (create : DataPacking capacity n α) activities) left ∧
      left.flatten.Sublist (Run.trace (step .evict) polledRows (create : DataPacking capacity n α) activities) :=
  rows_of_handed clean ((List.sublist_append_left _ _).trans (sent_sublist .evict activities))

/-- The sets that are sent are those in the messages. -/
theorem trace_sendsSets {overflow : Overflow} (self : DataPacking capacity n α)
    (activities : List (DataActivity α)) :
    Run.trace (step overflow) sendsSets self activities =
      ((Run.trace (step overflow) packs self activities).filter fun message => message.HasSamples).map
        ScDataMessage.swapSet := by
  induction activities generalizing self with
  | nil => rfl
  | cons activity activities ih =>
      rw [Run.trace_cons, Run.trace_cons, ih, List.filter_append, List.map_append]
      rfl

/-- In a clean run, all that a message holds is made of rows that were polled. -/
theorem messages_rows [Zero α] {activities : List (DataActivity α)}
    (clean : Run.Along (step .evict) Clean (create : DataPacking capacity n α) activities) :
    ∃ left, List.Forall₂ (fun message rows => message.swapSet.MadeOf rows)
        (Run.trace (step .evict) packs (create : DataPacking capacity n α) activities) left ∧
      left.flatten.Sublist (Run.trace (step .evict) polledRows (create : DataPacking capacity n α) activities) := by
  obtain ⟨left, made, chosen⟩ :=
    rows_of_handed clean ((List.sublist_append_left _ _).trans (sent_sublist .evict activities))
  rw [trace_sendsSets, List.forall₂_map_left_iff] at made
  have plain : ∀ message ∈ Run.trace (step .evict) packs (create : DataPacking capacity n α) activities,
      ¬ message.HasSamples → message.swapSet.MadeOf ([] : List (Row n α)) := by
    have kept (self : DataPacking capacity n α) (activity : DataActivity α)
        (both : self.Covered ∧ AddedTogether self.packer) (_ : self.Clean activity) :
        (self.step .evict activity).Covered ∧ AddedTogether (self.step .evict activity).packer :=
      ⟨covered_step both.1 activity, addedTogether_step both.2 activity⟩
    have seen (self : DataPacking capacity n α) (activity : DataActivity α)
        (both : self.Covered ∧ AddedTogether self.packer) (clean : self.Clean activity) :
        ∀ message ∈ self.packs activity, ¬ message.HasSamples → message.swapSet.MadeOf ([] : List (Row n α)) := by
      intro message member
      unfold packs at member
      split at member
      · split at member
        · cases member
        · rename_i event
          obtain rfl := List.mem_singleton.mp member
          exact madeOf_nothing ((consistent_iff both.1 both.2).mpr (clean.resolve_left event))
      · cases member
    exact (clean.observe (step .evict) kept seen ⟨covered_of_empty (fun _ => rfl) rfl, rfl, rfl⟩).forall_trace
  obtain ⟨left', all, same⟩ := Run.forall₂_of_filter
    (fun message member none_ => plain message member (of_decide_eq_false none_)) made
  exact ⟨left', all, same ▸ chosen⟩

end Step

section Run
open Operation

/-- An event without a set comes in between, the second channel is stopped half full, and
its sample has gone when the second set is complete. -/
def stoppedHalfFull : List (DataActivity Int) :=
  [.operation (.configureChannel 0 16 .seInt8), .operation (.configureChannel 1 32 .seInt8),
    .operation (.setChannelRunning 0), .operation (.setChannelRunning 1)] ++ pollsAt [1, 2, 3] ++
    [.operation .pack, .transmit, .operation .pack] ++ pollsAt [4, 5] ++
      [.operation (.setChannelStopped 1)] ++ pollsAt [6, 7, 8, 9] ++ [.operation .pack, .operation .clear]

theorem sent_rows_stoppedHalfFull : ∃ left, List.Forall₂ SwapSet.MadeOf
    (Run.trace (step .evict) sendsSets (create : DataPacking 2 1 Int) stoppedHalfFull) left ∧
    left.flatten.Sublist (Run.trace (step .evict) polledRows (create : DataPacking 2 1 Int) stoppedHalfFull) :=
  sent_rows (by decide)

example : (Run.trace (step .evict) sendsSets (create : DataPacking 2 1 Int) stoppedHalfFull).map SwapSet.channels =
    [[(0, [2, 3]), (1, [2, 3])], [(0, [6, 7])]] := by decide

end Run

end DataPacking

end Control
