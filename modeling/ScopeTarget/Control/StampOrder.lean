import Mathlib.Data.List.Flatten
import ScopeTarget.Control.SentSets
import ScopeTarget.Core.Clock

/-! The time stamps of a whole run. They are taken off the clock one after the other, pass
through the buffers and leave in messages; none is put before an earlier one. -/

namespace Core

namespace Timestamper
variable {capacity : Nat}

/-- A full stream drops a stamp, the new one or an old one. -/
theorem contents_stamp_sublist (overflow : Overflow) (ts : Timestamper capacity) (now : UInt32) :
    (ts.stamp overflow now).pollBuffer.contents.Sublist (ts.pollBuffer.contents ++ [now]) := by
  cases state : ts.state with
  | stopped =>
      rw [stamp_of_stopped state]
      exact List.sublist_append_left _ _
  | running =>
      rw [stamp_of_running state]
      cases overflow with
      | evict =>
          change (ts.pollBuffer.push now).contents.Sublist _
          rw [Fifo.contents_push]
          exact List.drop_sublist _ _
      | reject =>
          change (ts.pollBuffer.write [now]).contents.Sublist _
          by_cases fits : ts.pollBuffer.used + [now].length ≤ capacity
          · rw [Fifo.contents_write_of_fits fits]
          · rw [Fifo.write_of_overflow (Nat.not_le.mp fits)]
            exact List.sublist_append_left _ _

end Timestamper

namespace Trigger
variable {capacity n : Nat} {α : Type*} [LT α] [DecidableLT α] [BEq α]

/-- Stamps leave the poll buffer for the swap side, all of them at once. -/
theorem stamps_run (t : Trigger capacity n α) :
    (if t.run.1 = true then t.run.2.timestamper.swapBuffer.contents else []) ++
      t.run.2.timestamper.pollBuffer.contents = t.timestamper.pollBuffer.contents := by
  have does := t.does_run
  generalize t.run = r at does ⊢
  cases does with
  | idles => rfl
  | resumes => rfl
  | staysPaused => rfl
  | decides => rfl
  | gathers => rfl
  | misses => rfl
  | finds => rfl
  | fills => rfl
  | filled => rfl
  | stops => rfl
  | handsOver => exact List.append_nil _

end Trigger

namespace Scope
variable {capacity n : Nat} {α : Type*}

/-- The time a sample is taken at. -/
def stamped (s : Scope capacity n α) : Operation α → List UInt32
  | .poll now _ => if s.Sampled now then [now] else []
  | _ => []

/-- What no stamp is taken for, and nothing but the increment is changed of the timestamper. -/
structure StampsKept (s after : Scope capacity n α) : Prop where
  lastTimestamp : after.timestamper.lastTimestamp = s.timestamper.lastTimestamp
  pollBuffer : after.timestamper.pollBuffer = s.timestamper.pollBuffer ∨
    after.timestamper.pollBuffer = .empty

theorem StampsKept.refl (s : Scope capacity n α) : s.StampsKept s := ⟨rfl, .inl rfl⟩

theorem StampsKept.sublist {s after : Scope capacity n α} (kept : s.StampsKept after) :
    after.timestamper.pollBuffer.contents.Sublist s.timestamper.pollBuffer.contents := by
  rcases kept.pollBuffer with same | empty
  · rw [same]
  · rw [empty]
    exact List.nil_sublist _

section Step
variable [LT α] [DecidableLT α] [BEq α] (overflow : Overflow)

/-- A command takes no stamp. -/
theorem stampsKept_step (s : Scope capacity n α) {op : Operation α} (pack : op ≠ .pack)
    (poll : ∀ now memory, op ≠ .poll now memory) : s.StampsKept (s.step overflow op) := by
  cases op with
  | poll now memory => exact absurd rfl (poll now memory)
  | configureChannel i address type =>
      change s.StampsKept (s.configureChannel i address type)
      exact configureChannel_cases s i address type (fun _ => .refl s) fun _ => ⟨rfl, .inl rfl⟩
  | configureTrigger conf =>
      change s.StampsKept (s.configureTrigger conf)
      unfold configureTrigger Trigger.configure
      split
      · exact .refl s
      · exact ⟨rfl, .inl rfl⟩
  | configureTimestampIncrement increment => exact ⟨rfl, .inl rfl⟩
  | setChannelRunning i =>
      change s.StampsKept (s.setChannelRunning i)
      exact setChannelRunning_cases s i (fun _ => .refl s) (fun _ _ => ⟨rfl, .inl rfl⟩)
        fun _ _ => ⟨rfl, .inr rfl⟩
  | setChannelStopped i =>
      change s.StampsKept (s.setChannelStopped i)
      exact setChannelStopped_cases s i (fun _ => .refl s) (fun _ _ => ⟨rfl, .inl rfl⟩)
        fun _ _ => ⟨rfl, .inl rfl⟩
  | clear => exact ⟨rfl, .inr rfl⟩
  | pack => exact absurd rfl pack

theorem stamps_poll (s : Scope capacity n α) (now : UInt32) (memory : Memory α) :
    ((if (s.poll overflow now memory).1 = true then
        (s.poll overflow now memory).2.timestamper.swapBuffer.contents else []) ++
      (s.poll overflow now memory).2.timestamper.pollBuffer.contents).Sublist
        (s.timestamper.pollBuffer.contents ++ s.stamped (.poll now memory)) := by
  by_cases sampled : s.Sampled now
  · have ran := (s.sample overflow now memory).stamps_run
    rw [← poll_of_sampled overflow sampled memory] at ran
    have taken : s.stamped (.poll now memory) = [now] := if_pos sampled
    rw [taken]
    exact ran ▸ s.timestamper.contents_stamp_sublist overflow now
  · obtain ⟨waits, trigger⟩ := poll_of_not_sampled overflow sampled memory
    have nothing : s.stamped (.poll now memory) = [] := if_neg sampled
    have same : (s.poll overflow now memory).2.timestamper = s.timestamper :=
      congrArg Trigger.timestamper trigger
    rw [nothing, waits, same, List.append_nil]
    exact List.Sublist.refl _

end Step

end Scope

end Core

namespace Control
open Core

namespace DataPacking
variable {capacity n : Nat} {α : Type*}

def stampedTimes (self : DataPacking capacity n α) : DataActivity α → List UInt32
  | .operation op => self.scope.stamped op
  | .transmit => []

def polledStamps (self : DataPacking capacity n α) : List UInt32 :=
  self.scope.timestamper.pollBuffer.contents

/-- The increment is no less than the gap, and the end of the increment that runs is not
past the end of the clock. -/
def Paced (gap : Nat) (self : DataPacking capacity n α) : DataActivity α → Prop
  | .operation (.poll _ _) => gap ≤ self.scope.timestamper.timeIncrement.toNat ∧
      self.scope.timestamper.lastTimestamp.toNat + self.scope.timestamper.timeIncrement.toNat < 2 ^ 32
  | _ => True

instance (gap : Nat) (self : DataPacking capacity n α) :
    (activity : DataActivity α) → Decidable (self.Paced gap activity)
  | .operation (.poll _ _) => inferInstanceAs (Decidable (_ ∧ _))
  | .operation (.configureChannel _ _ _) | .operation (.configureTrigger _)
  | .operation (.configureTimestampIncrement _) | .operation (.setChannelRunning _)
  | .operation (.setChannelStopped _) | .operation .clear | .operation .pack | .transmit =>
      inferInstanceAs (Decidable True)

/-- The second stamp comes after the first by no less than the gap. -/
def After (gap : Nat) (first second : UInt32) : Prop := first.toNat + gap ≤ second.toNat

theorem readStamps_kept (self : DataPacking capacity n α) (stream : Option Bool) :
    (self.readStamps stream).lastTimestamp = self.scope.timestamper.lastTimestamp ∧
      ((self.readStamps stream).pollBuffer = self.scope.timestamper.pollBuffer ∨
        (self.readStamps stream).pollBuffer = .empty) := by
  cases stream with
  | none => exact ⟨rfl, .inl rfl⟩
  | some stream =>
      dsimp only [readStamps]
      split
      · exact ⟨rfl, .inr rfl⟩
      · exact ⟨rfl, .inl rfl⟩

theorem stampsKept_process (self : DataPacking capacity n α) : self.scope.StampsKept self.process.scope := by
  obtain ⟨lastTimestamp, pollBuffer⟩ := self.readStamps_kept self.added.timestamp
  exact ⟨lastTimestamp, pollBuffer⟩

theorem stamps_heldSets (self : DataPacking capacity n α) :
    (self.heldSets.flatMap SwapSet.timestamps).Sublist self.scope.timestamper.swapBuffer.contents := by
  unfold heldSets
  split
  · rw [List.flatMap_singleton]
    exact List.Sublist.refl _
  · exact List.nil_sublist _

section Step
variable [LT α] [DecidableLT α] [BEq α] (overflow : Overflow)

/-- Only a poll takes a stamp and hands stamps over. -/
theorem stamps_step (self : DataPacking capacity n α) {activity : DataActivity α}
    (other : ∀ now memory, activity ≠ .operation (.poll now memory)) :
    self.stampedTimes activity = [] ∧ self.handsSets overflow activity = [] ∧
      self.scope.StampsKept (self.step overflow activity).scope := by
  cases activity with
  | transmit => exact ⟨rfl, rfl, .refl _⟩
  | operation op =>
      have poll (now : UInt32) (memory : Memory α) : op ≠ .poll now memory :=
        fun same => other now memory (congrArg DataActivity.operation same)
      by_cases pack : op = .pack
      · subst pack
        refine ⟨rfl, rfl, ?_⟩
        dsimp only [step]
        split
        · exact .refl _
        · exact self.stampsKept_process
      · have kept := self.scope.stampsKept_step overflow pack poll
        rw [step_operation pack]
        cases op with
        | poll now memory => exact absurd rfl (poll now memory)
        | pack => exact absurd rfl pack
        | _ => exact ⟨rfl, rfl, kept⟩

theorem stamps_handsSets (self : DataPacking capacity n α) (op : Operation α) :
    ((self.handsSets overflow (.operation op)).flatMap SwapSet.timestamps).Sublist
      (if self.scope.handsOver overflow op = true then
        (self.scope.step overflow op).timestamper.swapBuffer.contents else []) := by
  unfold handsSets
  dsimp only
  split
  · exact (self.operate overflow op).stamps_heldSets
  · exact List.nil_sublist _

/-- The stamps of a set that is handed over were the ones in the poll buffer. -/
theorem stamps_moved (self : DataPacking capacity n α) (activity : DataActivity α) :
    ((self.handsSets overflow activity).flatMap SwapSet.timestamps ++
      (self.step overflow activity).polledStamps).Sublist
        (self.polledStamps ++ self.stampedTimes activity) := by
  by_cases polls : ∃ now memory, activity = .operation (.poll now memory)
  · obtain ⟨now, memory, rfl⟩ := polls
    have handed := self.stamps_handsSets overflow (.poll now memory)
    exact (handed.append_right _).trans (self.scope.stamps_poll overflow now memory)
  · obtain ⟨nothing, keeps, kept⟩ := self.stamps_step overflow fun now memory same =>
      polls ⟨now, memory, same⟩
    rw [nothing, keeps, List.append_nil]
    exact kept.sublist

theorem after_of_sampled {gap : Nat} {ts : Timestamper capacity} {now : UInt32}
    (elapsed : ts.updateElapsedTime now = true) (paced : gap ≤ ts.timeIncrement.toNat)
    (room : ts.lastTimestamp.toNat + ts.timeIncrement.toNat < 2 ^ 32) : After gap ts.lastTimestamp now := by
  rw [Timestamper.updateElapsedTime, decide_eq_true_iff, UInt32.lt_iff_toNat_lt, UInt32.toNat_add,
    Nat.mod_eq_of_lt room] at elapsed
  unfold After
  omega

/-- The time of the last sample is that of the last stamp taken. -/
theorem stamped_step {gap : Nat} {self : DataPacking capacity n α} {activity : DataActivity α}
    (paced : self.Paced gap activity) :
    (self.stampedTimes activity = [] ∧
      (self.step overflow activity).scope.timestamper.lastTimestamp =
        self.scope.timestamper.lastTimestamp) ∨
    ∃ now, self.stampedTimes activity = [now] ∧
      (self.step overflow activity).scope.timestamper.lastTimestamp = now ∧
        After gap self.scope.timestamper.lastTimestamp now := by
  by_cases polls : ∃ now memory, activity = .operation (.poll now memory)
  · obtain ⟨now, memory, rfl⟩ := polls
    have last := Clocked.lastTimestamp_poll overflow self.scope now memory
    by_cases sampled : self.scope.Sampled now
    · rw [if_pos sampled] at last
      exact .inr ⟨now, if_pos sampled, last, after_of_sampled sampled.2 paced.1 paced.2⟩
    · rw [if_neg sampled] at last
      exact .inl ⟨if_neg sampled, last⟩
  · obtain ⟨nothing, -, kept⟩ := self.stamps_step overflow fun now memory same =>
      polls ⟨now, memory, same⟩
    exact .inl ⟨nothing, kept.lastTimestamp⟩

variable {overflow}

/-- Stamps are taken in the order of the clock. -/
theorem pairwise_stamped {gap : Nat} {self : DataPacking capacity n α} {activities : List (DataActivity α)}
    (paced : Run.Along (step overflow) (Paced gap) self activities) :
    let times := Run.trace (step overflow) stampedTimes self activities
    times.Pairwise (After gap) ∧ ∀ time ∈ times, After gap self.scope.timestamper.lastTimestamp time := by
  induction activities generalizing self with
  | nil => exact ⟨List.Pairwise.nil, fun time member => absurd member List.not_mem_nil⟩
  | cons activity activities ih =>
      obtain ⟨ordered, later⟩ := ih paced.2
      rw [Run.trace_cons]
      rcases stamped_step overflow paced.1 with ⟨nothing, last⟩ | ⟨now, taken, last, after⟩
      · rw [last] at later
        rw [nothing]
        exact ⟨ordered, later⟩
      · rw [last] at later
        rw [taken]
        refine ⟨List.pairwise_cons.mpr ⟨later, ordered⟩, ?_⟩
        intro time member
        rcases List.mem_cons.mp member with rfl | member
        · exact after
        · have next := later time member
          unfold After at after next ⊢
          omega

/-- The stamps in the messages of a run increase, each by no less than the gap, within a
message and from one message to the next. -/
theorem stamps_increase [Zero α] {gap : Nat} {activities : List (DataActivity α)}
    (paced : Run.Along (step overflow) (Paced gap) (create : DataPacking capacity n α) activities) :
    ((Run.trace (step overflow) sendsSets (create : DataPacking capacity n α) activities).flatMap
      SwapSet.timestamps).Pairwise (After gap) := by
  have covered : (create : DataPacking capacity n α).Covered := covered_of_empty (fun _ => rfl) rfl
  have kept (self : DataPacking capacity n α) (activity : DataActivity α) (covered : self.Covered) :
      (self.step overflow activity).Covered := covered_step covered activity
  have handed := Run.trace_sublist (step overflow) kept
    (fun self activity _ => self.stamps_moved overflow activity) covered activities
  rw [Run.trace_flatMap] at handed
  have sent : (Run.trace (step overflow) sendsSets (create : DataPacking capacity n α) activities).Sublist
      (Run.trace (step overflow) (handsSets overflow) create activities) :=
    (List.sublist_append_left _ _).trans (sent_sublist overflow activities)
  obtain ⟨ordered, -⟩ := pairwise_stamped paced
  exact ordered.sublist ((sent.flatMap _).trans ((List.sublist_append_left _ _).trans handed))

end Step

section Run
open Operation

/-- One channel with room for two samples, no more often than every five ticks. -/
def everyFive : List (DataActivity Int) :=
  [.operation (.configureChannel 0 16 .seInt8), .operation (.configureTimestampIncrement 5),
    .operation (.setChannelRunning 0)] ++ pollsAt [3, 6, 9, 12, 17, 23, 30] ++ [.operation .pack] ++
      pollsAt [36, 40, 41, 50, 57, 63] ++ [.operation .pack]

theorem stamps_increase_everyFive :
    ((Run.trace (step .reject) sendsSets (create : DataPacking 2 0 Int) everyFive).flatMap
      SwapSet.timestamps).Pairwise (After 5) := stamps_increase (by decide)

example : (Run.trace (step .reject) sendsSets (create : DataPacking 2 0 Int) everyFive).flatMap
    SwapSet.timestamps = [6, 12, 30, 36] := by decide

end Run

end DataPacking

end Control
