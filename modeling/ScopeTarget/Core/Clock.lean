import Mathlib.Data.UInt
import ScopeTarget.Base.WrappingClock
import ScopeTarget.Core.Operations

/-! The sampling interval in true time. The timestamper sees the time in 32 bits
only, and compares it with a sum that is taken in 32 bits too. -/

namespace Core

namespace Trigger
variable {capacity n : Nat} {α : Type*}

/-- The time of the last sample and the increment to the next one stay the same. -/
structure SamePace (t t' : Trigger capacity n α) : Prop where
  lastTimestamp : t'.timestamper.lastTimestamp = t.timestamper.lastTimestamp
  timeIncrement : t'.timestamper.timeIncrement = t.timestamper.timeIncrement

/-- Only a stamp moves the time of the last sample. -/
theorem samePace_run [LT α] [DecidableLT α] [BEq α] (t : Trigger capacity n α) : SamePace t t.run.2 := by
  have does := t.does_run
  generalize t.run = r at does ⊢
  cases does with
  | idles => exact ⟨rfl, rfl⟩
  | resumes => exact ⟨rfl, rfl⟩
  | staysPaused => exact ⟨rfl, rfl⟩
  | decides => exact ⟨rfl, rfl⟩
  | gathers => exact ⟨rfl, rfl⟩
  | misses => exact ⟨rfl, rfl⟩
  | finds => exact ⟨rfl, rfl⟩
  | fills => exact ⟨rfl, rfl⟩
  | filled => exact ⟨rfl, rfl⟩
  | stops => exact ⟨rfl, rfl⟩
  | handsOver => exact ⟨rfl, rfl⟩

end Trigger

/-- An active scope and the true times of its last sample and of its last call. -/
structure Clocked (capacity n : Nat) (α : Type*) where
  scope : Scope capacity n α
  lastTime : Nat
  now : Nat
  active : scope.scopeIsReadyToRun = true
  stamped : scope.timestamper.lastTimestamp = UInt32.ofNat lastTime
  past : lastTime ≤ now

/-- A call of `Scope_poll`, some time after the call before. -/
structure PollCall (α : Type*) where
  elapsed : Nat
  memory : Memory α

namespace Clocked
variable {capacity n : Nat} {α : Type*}

def time (s : Clocked capacity n α) (call : PollCall α) : Nat := s.now + call.elapsed

/-- What the timestamper sees of the time of a call. -/
def reference (s : Clocked capacity n α) (call : PollCall α) : UInt32 := UInt32.ofNat (s.time call)

def sinceSample (s : Clocked capacity n α) (call : PollCall α) : Nat := s.time call - s.lastTime

theorem time_eq (s : Clocked capacity n α) (call : PollCall α) :
    s.time call = s.lastTime + s.sinceSample call := by
  have past := s.past
  unfold sinceSample time
  omega

/-- The call takes samples exactly when the increment has passed. -/
def InTime (increment : Nat) (s : Clocked capacity n α) (call : PollCall α) : Prop :=
  s.scope.Sampled (s.reference call) ↔ increment ≤ s.sinceSample call

/-- The sum of the last time stamp and the increment wraps exactly when the clock
has wrapped since the last sample. -/
def WrapTogether (increment : Nat) (s : Clocked capacity n α) (call : PollCall α) : Prop :=
  WrappingClock.SameRound (2 ^ 32) (s.lastTime % 2 ^ 32) increment (s.sinceSample call)

instance (increment : Nat) (s : Clocked capacity n α) (call : PollCall α) :
    Decidable (WrapTogether increment s call) :=
  inferInstanceAs (Decidable (WrappingClock.SameRound _ _ _ _))

theorem sampled_iff (s : Clocked capacity n α) (call : PollCall α) :
    s.scope.Sampled (s.reference call) ↔ WrappingClock.Reached (2 ^ 32) (s.lastTime % 2 ^ 32)
      s.scope.timestamper.timeIncrement.toNat (s.sinceSample call) := by
  have due : (s.scope.timestamper.lastTimestamp + s.scope.timestamper.timeIncrement).toNat =
      (s.lastTime % 2 ^ 32 + s.scope.timestamper.timeIncrement.toNat) % 2 ^ 32 := by
    rw [UInt32.toNat_add, s.stamped, UInt32.toNat_ofNat']
  have clock : (s.reference call).toNat = (s.lastTime % 2 ^ 32 + s.sinceSample call) % 2 ^ 32 := by
    rw [reference, UInt32.toNat_ofNat', time_eq, Nat.mod_add_mod]
  rw [Scope.Sampled, Timestamper.updateElapsedTime, decide_eq_true_iff, UInt32.lt_iff_toNat_lt,
    due, clock, Nat.not_lt]
  exact and_iff_right s.active

theorem inTime_iff {s : Clocked capacity n α} {call : PollCall α} (close : s.sinceSample call < 2 ^ 32) :
    InTime s.scope.timestamper.timeIncrement.toNat s call ↔
      WrapTogether s.scope.timestamper.timeIncrement.toNat s call := by
  rw [InTime, sampled_iff]
  exact WrappingClock.reached_iff_iff (Nat.mod_lt _ (by decide))
    (UInt32.toNat_lt _) close

section Poll
variable [LT α] [DecidableLT α] [BEq α]

theorem lastTimestamp_poll (overflow : Overflow) (s : Scope capacity n α) (now : UInt32)
    (memory : Memory α) : (s.poll overflow now memory).2.timestamper.lastTimestamp =
      if s.Sampled now then now else s.timestamper.lastTimestamp := by
  split
  · rename_i sampled
    have run := congrArg Prod.snd (Scope.poll_of_sampled overflow sampled memory)
    dsimp only at run
    rw [Scope.timestamper, run]
    exact (Trigger.samePace_run _).lastTimestamp
  · rename_i early
    exact congrArg (fun t => t.timestamper.lastTimestamp) (Scope.poll_of_not_sampled overflow early memory).2

theorem timeIncrement_poll (overflow : Overflow) (s : Scope capacity n α) (now : UInt32)
    (memory : Memory α) : (s.poll overflow now memory).2.timestamper.timeIncrement =
      s.timestamper.timeIncrement := by
  by_cases sampled : s.Sampled now
  · have run := congrArg Prod.snd (Scope.poll_of_sampled overflow sampled memory)
    dsimp only at run
    rw [Scope.timestamper, run]
    exact (Trigger.samePace_run _).timeIncrement
  · exact congrArg (fun t => t.timestamper.timeIncrement)
      (Scope.poll_of_not_sampled overflow sampled memory).2

def poll (overflow : Overflow) (s : Clocked capacity n α) (call : PollCall α) :
    Clocked capacity n α where
  scope := (s.scope.poll overflow (s.reference call) call.memory).2
  lastTime := if s.scope.Sampled (s.reference call) then s.time call else s.lastTime
  now := s.time call
  active := (s.scope.poll_outcome overflow (s.reference call) call.memory).1.trans s.active
  stamped := by
    rw [lastTimestamp_poll]
    split
    · rfl
    · exact s.stamped
  past := by
    have past := s.past
    split
    · exact Nat.le_refl _
    · exact past.trans (Nat.le_add_right _ _)

/-- Over any sequence of calls, none of them a round of the clock behind the last
sample, the interval is kept exactly as long as sum and clock wrap together. -/
theorem keepsInterval_iff (overflow : Overflow) (s : Clocked capacity n α) (calls : List (PollCall α))
    (close : Run.Along (poll overflow) (fun s call => s.sinceSample call < 2 ^ 32) s calls) :
    Run.Along (poll overflow) (InTime s.scope.timestamper.timeIncrement.toNat) s calls ↔
      Run.Along (poll overflow) (WrapTogether s.scope.timestamper.timeIncrement.toNat) s calls := by
  generalize paced : s.scope.timestamper.timeIncrement.toNat = increment
  apply close.congr (poll overflow) (fun s => s.scope.timestamper.timeIncrement.toNat = increment)
  · intro s call paced _
    exact (congrArg UInt32.toNat (timeIncrement_poll overflow s.scope _ _)).trans paced
  · intro s call paced near
    rw [← paced]
    exact inTime_iff near
  · exact paced

end Poll

section Run

def zero : Memory Int := fun _ _ => 0

/-- One channel, an increment of 1000, and a first sample 500 before the clock wraps. -/
def nearWrap : Clocked 4 0 Int where
  scope := Run.exec (Scope.step .reject) Scope.create
    [.configureChannel 0 16 .seInt8, .configureTimestampIncrement 1000, .setChannelRunning 0,
      .poll (UInt32.ofNat (2 ^ 32 - 500)) zero]
  lastTime := 2 ^ 32 - 500
  now := 2 ^ 32 - 500
  active := by decide
  stamped := by decide
  past := Nat.le_refl _

/-- The second sample is due, and taken, behind the wrap; the third is not yet due. -/
theorem keepsInterval_behind_wrap :
    Run.Along (poll .reject) (InTime 1000) nearWrap [⟨1000, zero⟩, ⟨400, zero⟩] := by
  refine (keepsInterval_iff .reject nearWrap [⟨1000, zero⟩, ⟨400, zero⟩] ?_).mpr ?_
  · exact ⟨by decide, by decide, trivial⟩
  · exact ⟨by decide, by decide, trivial⟩

/-- The next sample is taken one tick after the last. -/
theorem keepsInterval_fails : nearWrap.sinceSample ⟨1, zero⟩ < 2 ^ 31 ∧
    ¬ Run.Along (poll .reject) (InTime 1000) nearWrap [⟨1, zero⟩] := by
  refine ⟨by decide, fun kept => ?_⟩
  have passed : 1000 ≤ nearWrap.sinceSample ⟨1, zero⟩ := kept.1.mp (by decide)
  exact absurd passed (by decide)

end Run

end Clocked

end Core
