import ScopeTarget.Builders.DataStream
import ScopeTarget.Control.SentRows

/-! From the memory of the target to the host: what is decoded of the frames was sampled. -/

namespace Serialisation
open Core

/-- The host finds these rows: their times as the stamps, and for each channel that is in the
message the values the rows have of it. -/
structure ScData.MadeOf {n : Nat} {α : Type*} (bits : α → UInt32) (data : ScData) (rows : List (Row n α)) :
    Prop where
  times : data.timestamps = rows.map Row.time
  values : ∀ channel ∈ data.channels, ∃ i : Fin (n + 1), channel.id = UInt32.ofNat i.val ∧
    channel.data.map some = rows.map fun r => (r.values i).map bits

end Serialisation

namespace Control
open Core Serialisation

theorem ScDataMessage.madeOf_sent {n : Nat} {α : Type*} {message : ScDataMessage α} {rows : List (Row n α)}
    (made : message.swapSet.MadeOf rows) (bits : α → UInt32) : (message.sent bits).MadeOf bits rows where
  times := made.times
  values := by
    intro channel member
    obtain ⟨recorded, packed, rfl⟩ := List.mem_map.mp member
    obtain ⟨i, id, values⟩ := made.values recorded packed
    refine ⟨i, congrArg UInt32.ofNat id, ?_⟩
    have shown := congrArg (List.map (Option.map bits)) values
    rw [List.map_map, List.map_map] at shown
    change (recorded.2.map bits).map some = _
    rw [List.map_map]
    exact shown

end Control

namespace Builders
open Core Control Serialisation FramedIO

namespace Observed
variable {Q α : Type*} {inCap outCap capacity n : Nat}

/-- What the host decodes of the data frames has been sampled: each message is made of rows
that were polled, none is used twice, and later messages are made of later rows. -/
structure RowsArrive (p : Platform α outCap) (s : Observed Q α inCap outCap capacity n)
    (polled : List (Row n α)) : Prop where
  sends : s.Sends
  rows : ∃ left : List (List (Row n α)),
    List.Forall₂ (fun event rows => ∃ data, ScData.decode event.2 = some data ∧ data.MadeOf p.bits rows)
      (s.packed.filter fun event => event.1 = .scData) left ∧
    left.flatten.Sublist polled

variable [AgingPriorityQueue Q]

/-- No channel is stopped full while another one runs on, and no data event is processed
that has nothing behind it. -/
def Clean [LT α] [DecidableLT α] [BEq α] (p : Platform α outCap)
    (s : Observed Q α inCap outCap capacity n) (event : TargetEvent α outCap) : Prop :=
  Run.Along (DataPacking.step p.overflow) DataPacking.Clean s.target.settled (s.target.activities event)

instance [LT α] [DecidableLT α] [BEq α] (p : Platform α outCap) (s : Observed Q α inCap outCap capacity n)
    (event : TargetEvent α outCap) : Decidable (Clean p s event) :=
  inferInstanceAs (Decidable (Run.Along _ _ _ _))

/-- The rows that are polled. -/
def polledRows [LT α] [DecidableLT α] [BEq α] (p : Platform α outCap)
    (s : Observed Q α inCap outCap capacity n) (event : TargetEvent α outCap) : List (Row n α) :=
  Run.trace (DataPacking.step p.overflow) DataPacking.polledRows s.target.settled (s.target.activities event)

variable [CountedAgingPriorityQueue Q] [LT α] [DecidableLT α] [BEq α] {p : Platform α outCap}

/-- The data side behind the frames. -/
theorem simulates_data (p : Platform α outCap) : Run.Simulates (step p) (DataPacking.step p.overflow)
    (fun s event => Orderly p s event ∧ Clean p s event)
    (fun s : Observed Q α inCap outCap capacity n => s.target.Accounted)
    (fun s => s.target.settled) (fun s event => s.target.activities event) where
  kept s event accounted ok := (Target.simulates_data p).kept s.target event accounted ok.1.1
  follows s event accounted ok := (Target.simulates_data p).follows s.target event accounted ok.1.1

omit [CountedAgingPriorityQueue Q] in
theorem messages_exec (s : Observed Q α inCap outCap capacity n) (events : List (TargetEvent α outCap)) :
    (Run.exec (step p) s events).messages = s.messages ++ Run.trace (step p) (makes p) s events := by
  induction events generalizing s with
  | nil => exact (List.append_nil _).symm
  | cons event events ih => rw [Run.exec_cons, ih, Run.trace_cons, ← List.append_assoc]; rfl

omit [AgingPriorityQueue Q] [CountedAgingPriorityQueue Q] [LT α] [DecidableLT α] [BEq α] in
/-- The messages that have arrived are made of rows if all are that were made. -/
theorem Arrives.rows {s : Observed Q α inCap outCap capacity n} (arrives : s.Arrives p)
    {left : List (List (Row n α))} {polled : List (Row n α)}
    (made : List.Forall₂ (fun message rows => message.swapSet.MadeOf rows) s.messages left)
    (chosen : left.flatten.Sublist polled) : s.RowsArrive p polled := by
  obtain ⟨sends, decoded, -⟩ := arrives
  have meant : List.Forall₂ (fun found rows => ∃ data, found = some data ∧ data.MadeOf p.bits rows)
      (s.messages.map fun message => some (message.sent p.bits)) left := by
    rw [List.forall₂_map_left_iff]
    exact made.imp fun message rows here => ⟨_, rfl, ScDataMessage.madeOf_sent here p.bits⟩
  rw [← decoded] at meant
  obtain ⟨read, arrived, fewer⟩ := Run.forall₂_sublist (List.sublist_append_left _ _) meant
  rw [List.forall₂_map_left_iff] at arrived
  exact ⟨sends, read, arrived, fewer.flatten.trans chosen⟩

/-- Whatever is received, read and run, in a sound build and a clean run the host decodes
nothing but samples of the memory, each row with the time of its poll. -/
theorem rows_arrive [Zero α] (build : SoundBuild outCap capacity n) (evicts : p.overflow = .evict) {queue : Q}
    (empty : CountedAgingPriorityQueue.count queue .scData = 0) {unpacker : Unpacker α}
    {priorities : MessagePriorities} {events : List (TargetEvent α outCap)}
    (clean : Run.Along (step p) (fun s event => Orderly p s event ∧ Clean p s event)
      (create unpacker queue priorities : Observed Q α inCap outCap capacity n) events) :
    let start : Observed Q α inCap outCap capacity n := create unpacker queue priorities
    (Run.exec (step p) start events).RowsArrive p (Run.trace (step p) (polledRows p) start events) := by
  intro start
  have accounted : start.target.Accounted := Target.accounted_create empty unpacker priorities
  have idle : start.target.settled = .create := rfl
  have along := (simulates_data p).along_trace (fun _ _ _ ok => ok.2) clean accounted
  have messages := (messages_exec start events).trans
    ((simulates_data p).trace_view DataPacking.packs clean accounted)
  have polled := (simulates_data p).trace_view DataPacking.polledRows clean accounted
  change Run.trace (step p) (polledRows p) start events = _ at polled
  rw [evicts, idle] at along messages polled
  obtain ⟨left, made, chosen⟩ := DataPacking.messages_rows along
  rw [← messages] at made
  rw [← polled] at chosen
  apply Arrives.rows _ made chosen
  apply arrives_of_inv
  apply clean.invariant
  · intro s event inv ok
    exact inv_step build inv ok.1
  · exact inv_create p unpacker empty priorities

section Run

/-- A full stream of stamps gives up its oldest. -/
def evicting : Platform Int 64 := { Remote.platform with overflow := .evict }

theorem rows_arrive_sampled : (Run.exec (step evicting) before sampled).RowsArrive evicting
    (Run.trace (step evicting) (polledRows evicting) before sampled) :=
  rows_arrive sound rfl rfl (by decide)

example : (Run.trace (step evicting) (polledRows evicting) before sampled).map Row.time = [1, 2, 3] := by decide

end Run

end Observed

end Builders
