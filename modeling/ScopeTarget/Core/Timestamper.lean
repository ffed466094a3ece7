import ScopeTarget.Base.Fifo

/-! The timestamper stamps every sampled poll and keeps the stamps in a poll and
a swap buffer of the channels' capacity. -/

namespace Core

inductive TimestamperStates where
  | stopped | running
  deriving DecidableEq, Repr

/-- What a write to a full timestamp stream does: the stream is not part of this
repository, so both readings are kept. -/
inductive Overflow where
  | reject | evict
  deriving DecidableEq, Repr

structure Timestamper (capacity : Nat) where
  state : TimestamperStates
  timeIncrement : UInt32
  pollBuffer : Fifo capacity UInt32
  swapBuffer : Fifo capacity UInt32
  lastTimestamp : UInt32

namespace Timestamper
variable {capacity : Nat}

def create : Timestamper capacity where
  state := .stopped
  timeIncrement := 1
  pollBuffer := .empty
  swapBuffer := .empty
  lastTimestamp := 0

/-- The sum is taken in 32 bits, so it wraps around. -/
def updateElapsedTime (ts : Timestamper capacity) (referenceTimestamp : UInt32) : Bool :=
  ¬ referenceTimestamp < ts.lastTimestamp + ts.timeIncrement

def writeData (overflow : Overflow) (stream : Fifo capacity UInt32) (x : UInt32) :
    Fifo capacity UInt32 :=
  match overflow with
  | .reject => stream.write [x]
  | .evict => stream.push x

def stamp (overflow : Overflow) (ts : Timestamper capacity) (referenceTimestamp : UInt32) :
    Timestamper capacity :=
  { ts with
    lastTimestamp := referenceTimestamp
    pollBuffer :=
      if ts.state = .stopped then ts.pollBuffer
      else writeData overflow ts.pollBuffer referenceTimestamp }

def clear (ts : Timestamper capacity) : Timestamper capacity :=
  { ts with pollBuffer := .empty, swapBuffer := .empty }

def setStateRunning (ts : Timestamper capacity) : Timestamper capacity :=
  { ts with state := .running }

def setStateStopped (ts : Timestamper capacity) : Timestamper capacity :=
  { ts with state := .stopped }

def configureTimestampIncrement (ts : Timestamper capacity) (timestampIncrement : UInt32) :
    Timestamper capacity :=
  { ts with timeIncrement := timestampIncrement }

def swapIsPending (ts : Timestamper capacity) : Bool :=
  ts.pollBuffer.used = capacity ∧ ts.swapBuffer.used = 0

def swapBuffers (ts : Timestamper capacity) : Timestamper capacity :=
  { ts with swapBuffer := ts.pollBuffer, pollBuffer := .empty }

/-- The packer has read everything the swap buffer held. -/
def drained (ts : Timestamper capacity) : Timestamper capacity :=
  { ts with swapBuffer := .empty }

theorem swapIsPending_iff (ts : Timestamper capacity) :
    ts.swapIsPending = true ↔ ts.pollBuffer.Full ∧ ts.swapBuffer.used = 0 := decide_eq_true_iff

theorem used_writeData (overflow : Overflow) (stream : Fifo capacity UInt32) (x : UInt32) :
    (writeData overflow stream x).used = min capacity (stream.used + 1) := by
  cases overflow with
  | evict => exact stream.used_push x
  | reject =>
      have bound := stream.used_le
      by_cases room : stream.used < capacity
      · have fits : stream.used + [x].length ≤ capacity := room
        rw [writeData, Fifo.used_write_of_fits fits, List.length_singleton]
        omega
      · have beyond : capacity < stream.used + [x].length := by
          rw [List.length_singleton]
          omega
        rw [writeData, Fifo.write_of_overflow beyond]
        omega

theorem stamp_of_stopped {overflow : Overflow} {ts : Timestamper capacity} {now : UInt32}
    (h : ts.state = .stopped) : (ts.stamp overflow now).pollBuffer = ts.pollBuffer := by
  simp only [stamp, h, if_true]

theorem stamp_of_running {overflow : Overflow} {ts : Timestamper capacity} {now : UInt32}
    (h : ts.state = .running) :
    (ts.stamp overflow now).pollBuffer = writeData overflow ts.pollBuffer now := by
  simp only [stamp, h, reduceCtorEq, if_false]

theorem used_stamp (overflow : Overflow) (ts : Timestamper capacity) (now : UInt32) :
    (ts.stamp overflow now).pollBuffer.used =
      if ts.state = .running then min capacity (ts.pollBuffer.used + 1) else ts.pollBuffer.used := by
  cases h : ts.state with
  | stopped => rw [stamp_of_stopped h, if_neg (by decide)]
  | running => rw [stamp_of_running h, used_writeData, if_pos rfl]

/-- The next time stamp that the timestamper accepts is the end of the increment. -/
theorem updateElapsedTime_next (ts : Timestamper capacity) :
    ts.updateElapsedTime (ts.lastTimestamp + ts.timeIncrement) = true := by
  rw [updateElapsedTime, decide_eq_true_iff]
  exact UInt32.lt_irrefl _

end Timestamper

end Core
