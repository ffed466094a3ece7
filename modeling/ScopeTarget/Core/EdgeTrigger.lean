import Mathlib.Data.UInt
import ScopeTarget.Base.Signal
import ScopeTarget.Core.Continuous

/-! The modes that wait for an edge. A cycle detects from the poll on at which the
monitored channel is half full, fills up behind the crossing, takes one more sample
in clean-up and hands over. -/

namespace Core

open Signal

/-- What one sampled poll reads. -/
structure SampledPoll (α : Type*) where
  now : UInt32
  memory : Memory α

/-- The values an address has at the sampled polls. -/
def signal {α : Type*} (polls : Nat → SampledPoll α) (address : Nat × DataTypes) (j : Nat) : α :=
  (polls j).memory address.1 address.2

/-- The polls between a crossing at the `k`-th one and clean-up. -/
def fillUpPolls (capacity k : Nat) : Nat := max (capacity / 2) (capacity - min k capacity)

namespace Channel
variable {capacity : Nat} {α : Type*}

theorem poll_of_address {c : Channel capacity α} {address : Nat × DataTypes} (running : c.state = .running)
    (configured : c.pollAddress = some address) (memory : Memory α) :
    c.poll memory =
      { c.addTriggerData (memory address.1 address.2) with
        pollBuffer := c.pollBuffer.push (memory address.1 address.2) } := by
  have sample : c.castDataToFloat memory = some (memory address.1 address.2) := by
    rw [castDataToFloat, configured, Option.map_some]
  rw [poll, if_pos running, sample]

theorem stream_addTriggerData (c : Channel capacity α) (x : α) :
    (c.addTriggerData x).stream.contents = [c.oldTriggerData, x] := by
  have one : ((Fifo.empty : Fifo 4 α).write [c.oldTriggerData]).contents = [c.oldTriggerData] := rfl
  have room : ((Fifo.empty : Fifo 4 α).write [c.oldTriggerData]).used + [x].length ≤ 4 := by
    rw [Fifo.used_eq_length, one]
    exact (by decide : 1 + 1 ≤ 4)
  rw [addTriggerData, Fifo.contents_write_of_fits room, one]
  rfl

end Channel

namespace Trigger
variable {capacity n : Nat} {α : Type*}

/-- The samples of a poll, before the trigger is run. -/
def sampled (overflow : Overflow) (t : Trigger capacity n α) (p : SampledPoll α) : Trigger capacity n α :=
  { t with
    timestamper := t.timestamper.stamp overflow p.now
    channels := fun i => (t.channels i).poll p.memory }

/-- An acquisition of the given edge on the channel with the given address. -/
structure Watches (edge : Bool) (level : α) (address : Nat × DataTypes) (t : Trigger capacity n α) :
    Prop where
  mode : t.activeStrategy = .normal ∨ t.activeStrategy = .oneshot
  stream : t.stream = some t.activeChannelId
  edge : t.edge = some edge
  level : t.level = some level
  running : t.activeChannel.state = .running
  address : t.activeChannel.pollAddress = some address
  samplesFree : t.activeChannel.swapBuffer.used = 0
  stampsFree : t.timestamper.swapBuffer.used = 0

/-- What `Acquires` depends on. -/
structure SameWatch (t t' : Trigger capacity n α) : Prop where
  activeStrategy : t'.activeStrategy = t.activeStrategy
  activeChannelId : t'.activeChannelId = t.activeChannelId
  stream : t'.stream = t.stream
  edge : t'.edge = t.edge
  level : t'.level = t.level
  state : t'.activeChannel.state = t.activeChannel.state
  pollAddress : t'.activeChannel.pollAddress = t.activeChannel.pollAddress
  oldTriggerData : t'.activeChannel.oldTriggerData = t.activeChannel.oldTriggerData
  pollBuffer : t'.activeChannel.pollBuffer = t.activeChannel.pollBuffer
  swapBuffer : t'.activeChannel.swapBuffer = t.activeChannel.swapBuffer
  stamping : t'.timestamper.state = t.timestamper.state
  stamps : t'.timestamper.pollBuffer = t.timestamper.pollBuffer
  stampsFree : t'.timestamper.swapBuffer = t.timestamper.swapBuffer

/-- `j` polls into a cycle. -/
structure Acquires (edge : Bool) (level : α) (address : Nat × DataTypes) (polls : Nat → SampledPoll α)
    (j : Nat) (t : Trigger capacity n α) : Prop where
  watches : t.Watches edge level address
  samples : t.activeChannel.pollBuffer.contents = latest (signal polls address) capacity j
  last : 0 < j → t.activeChannel.oldTriggerData = signal polls address j
  stamping : t.timestamper.state = .running
  stamps : t.timestamper.pollBuffer.used = min j capacity

/-- No crossing has counted yet. -/
structure Detects (edge : Bool) (level : α) (address : Nat × DataTypes) (polls : Nat → SampledPoll α)
    (j : Nat) (t : Trigger capacity n α) : Prop where
  acquires : t.Acquires edge level address polls j
  state : t.state = .detecting
  counted : t.fillUpPollCount = 0

/-- `i` polls behind a crossing at the `k`-th. -/
structure Found (edge : Bool) (level : α) (address : Nat × DataTypes) (polls : Nat → SampledPoll α)
    (k i : Nat) (t : Trigger capacity n α) : Prop where
  acquires : t.Acquires edge level address polls (k + i)
  counted : t.fillUpPollCount = UInt32.ofNat i
  triggered : t.isTriggeredPoll = true
  triggerIndex : t.triggerIndexPoll = (polls k).now

section Phases
variable {edge : Bool} {level : α} {address : Nat × DataTypes} {polls : Nat → SampledPoll α}
  {j k i : Nat} {t : Trigger capacity n α}

theorem Acquires.same {t' : Trigger capacity n α} (acquires : t.Acquires edge level address polls j)
    (same : SameWatch t t') : t'.Acquires edge level address polls j where
  watches := by
    have before := acquires.watches
    constructor
    · rw [same.activeStrategy]
      exact before.mode
    · rw [same.stream, same.activeChannelId]
      exact before.stream
    · exact same.edge.trans before.edge
    · exact same.level.trans before.level
    · exact same.state.trans before.running
    · exact same.pollAddress.trans before.address
    · rw [same.swapBuffer]
      exact before.samplesFree
    · rw [same.stampsFree]
      exact before.stampsFree
  samples := by
    rw [same.pollBuffer]
    exact acquires.samples
  last begun := same.oldTriggerData.trans (acquires.last begun)
  stamping := same.stamping.trans acquires.stamping
  stamps := by
    rw [same.stamps]
    exact acquires.stamps

theorem Acquires.used (acquires : t.Acquires edge level address polls j) :
    t.activeChannel.getAmountOfUsedPollData = min j capacity := by
  rw [Channel.getAmountOfUsedPollData, Fifo.used_eq_length, acquires.samples, length_latest]

/-- One more sample of the channel, and one more stamp. -/
theorem Acquires.sampled (overflow : Overflow) (acquires : t.Acquires edge level address polls j) :
    (t.sampled overflow (polls (j + 1))).Acquires edge level address polls (j + 1) := by
  have before := acquires.watches
  have channel : (t.sampled overflow (polls (j + 1))).activeChannel =
      { t.activeChannel.addTriggerData (signal polls address (j + 1)) with
        pollBuffer := t.activeChannel.pollBuffer.push (signal polls address (j + 1)) } :=
    Channel.poll_of_address before.running before.address _
  refine ⟨⟨before.mode, before.stream, before.edge, before.level, ?_, ?_, ?_, before.stampsFree⟩, ?_, ?_,
    acquires.stamping, ?_⟩
  · rw [channel]
    exact before.running
  · rw [channel]
    exact before.address
  · rw [channel]
    exact before.samplesFree
  · rw [channel, latest_succ, ← acquires.samples]
    exact Fifo.contents_push _ _
  · intro _
    rw [channel]
    rfl
  · have stamps := Timestamper.used_stamp overflow t.timestamper (polls (j + 1)).now
    rw [if_pos acquires.stamping, acquires.stamps] at stamps
    refine stamps.trans ?_
    omega

/-- From the second poll on, the stream holds the last two samples of the cycle. -/
theorem Acquires.stream_sampled (overflow : Overflow)
    (acquires : t.Acquires edge level address polls j) (begun : 0 < j) :
    (t.sampled overflow (polls (j + 1))).activeChannel.stream.contents =
      [signal polls address j, signal polls address (j + 1)] := by
  have channel : (t.sampled overflow (polls (j + 1))).activeChannel =
      { t.activeChannel.addTriggerData (signal polls address (j + 1)) with
        pollBuffer := t.activeChannel.pollBuffer.push (signal polls address (j + 1)) } :=
    Channel.poll_of_address acquires.watches.running acquires.watches.address _
  rw [channel, ← acquires.last begun]
  exact Channel.stream_addTriggerData _ _

end Phases

theorem activeChannel_readStream (t : Trigger capacity n α) (rest : Fifo 4 α) :
    (t.readStream t.activeChannelId rest).activeChannel = t.activeChannel.withStream rest := if_pos rfl

theorem getTriggerData_of_stream {t : Trigger capacity n α} (stream : t.stream = some t.activeChannelId)
    {a b : α} (two : t.activeChannel.stream.contents = [a, b]) :
    ∃ rest, t.getTriggerData = some ([a, b], t.readStream t.activeChannelId rest) := by
  have used : (t.channels t.activeChannelId).stream.used = 2 := congrArg List.length two
  obtain ⟨taken, -⟩ := Fifo.read_split (two.trans (List.append_nil [a, b]).symm)
  refine ⟨((t.channels t.activeChannelId).stream.read 2).2, ?_⟩
  unfold getTriggerData
  split
  · rename_i missing
    cases stream.symm.trans missing
  · rename_i i configured
    obtain rfl : t.activeChannelId = i := Option.some.inj (stream.symm.trans configured)
    dsimp only
    rw [if_neg (not_not.mpr used)]
    exact congrArg (fun data => some (data, t.readStream t.activeChannelId _)) taken

theorem sameWatch_readStream (t : Trigger capacity n α) (rest : Fifo 4 α) :
    SameWatch t (t.readStream t.activeChannelId rest) := by
  have channel := t.activeChannel_readStream rest
  refine ⟨rfl, rfl, rfl, rfl, rfl, ?_, ?_, ?_, ?_, ?_, rfl, rfl, rfl⟩
  · rw [channel]
    rfl
  · rw [channel]
    rfl
  · rw [channel]
    rfl
  · rw [channel]
    rfl
  · rw [channel]
    rfl

/-- Each poll of filling up is counted in 32 bits. -/
def counted (t : Trigger capacity n α) : Trigger capacity n α :=
  { t with fillUpPollCount := t.fillUpPollCount + 1 }

theorem fillUpIfTriggered_eq (t : Trigger capacity n α) : t.fillUpIfTriggered =
    if t.counted.activeChannel.getAmountOfUsedPollData < capacity then t.counted
    else if t.counted.fillUpPollCount.toNat < capacity / 2 then t.counted
    else { t.counted.safeChannelStates with state := .cleanup } := rfl

section Count
variable {edge : Bool} {level : α} {address : Nat × DataTypes} {polls : Nat → SampledPoll α}
  {k i : Nat} {t : Trigger capacity n α}

theorem Found.counts (found : t.Found edge level address polls k i) (overflow : Overflow) :
    (t.sampled overflow (polls (k + i + 1))).counted.Found edge level address polls k (i + 1) := by
  have next := found.acquires.sampled overflow
  refine ⟨next.same ?_, ?_, found.triggered, found.triggerIndex⟩
  · exact ⟨rfl, rfl, rfl, rfl, rfl, rfl, rfl, rfl, rfl, rfl, rfl, rfl, rfl⟩
  · have count : t.fillUpPollCount + 1 = UInt32.ofNat i + 1 := by rw [found.counted]
    exact count.trans (UInt32.ofNat_add i 1).symm

theorem Found.toNat_fillUpPollCount (found : t.Found edge level address polls k i) :
    t.fillUpPollCount.toNat = i % 2 ^ 32 := by
  rw [found.counted, UInt32.toNat_ofNat']

end Count

section Strategy
variable [LT α] [DecidableLT α] [BEq α] {t : Trigger capacity n α}
  (mode : t.activeStrategy = .normal ∨ t.activeStrategy = .oneshot)
include mode

theorem run_of_detecting (state : t.state = .detecting) : t.run = (false, t.detectNormal) := by
  rcases mode with normal | oneshot
  · simp only [run, detecting, state, normal]
  · simp only [run, detecting, state, oneshot]

theorem run_of_fillup (state : t.state = .fillup) : t.run = (false, t.fillUpIfTriggered) := by
  rcases mode with normal | oneshot
  · simp only [run, fillUp, state, normal]
  · simp only [run, fillUp, state, oneshot]

theorem run_of_cleanup (state : t.state = .cleanup) : ∃ next, t.run = t.stopInto next := by
  rcases mode with normal | oneshot
  · refine ⟨.paused, ?_⟩
    simp only [run, stop, state, normal, stopIntoPause]
  · refine ⟨.idle, ?_⟩
    simp only [run, stop, state, oneshot, stopIntoIdle]

end Strategy

section Detection
variable [LinearOrder α] {edge : Bool} {level : α} {t : Trigger capacity n α}

theorem inDirection_iff (rises : Bool) (lower higher : α) :
    (if rises ≠ edge then false else if level < lower ∨ higher < level then false else true) = true ↔
      rises = edge ∧ lower ≤ level ∧ level ≤ higher := by
  split_ifs with other outside
  · exact iff_of_false not_false fun all => other all.1
  · refine iff_of_false not_false fun all => ?_
    rcases outside with beneath | beyond
    · exact absurd all.2.1 (not_le.mpr beneath)
    · exact absurd all.2.2 (not_le.mpr beyond)
  · exact iff_of_true rfl
      ⟨not_not.mp other, not_lt.mp fun h => outside (.inl h), not_lt.mp fun h => outside (.inr h)⟩

theorem checkCurrentData_pair (configuredEdge : t.edge = some edge)
    (configuredLevel : t.level = some level) (a b : α) : t.checkCurrentData [a, b] = true ↔
      a ≠ b ∧ (a < b ↔ edge = true) ∧ min a b ≤ level ∧ level ≤ max a b := by
  rw [checkCurrentData, configuredEdge, configuredLevel]
  dsimp only
  rcases lt_trichotomy a b with rises | same | falls
  · have differs : ¬ (b == a) = true := fun equal => rises.ne' (eq_of_beq equal)
    rw [if_neg differs, if_pos rises, if_pos rises, decide_eq_true rises, inDirection_iff,
      min_eq_left rises.le, max_eq_right rises.le, iff_true_left rises, eq_comm (a := true)]
    exact (and_iff_right rises.ne).symm
  · rw [if_pos (beq_iff_eq.mpr same.symm)]
    exact iff_of_false Bool.false_ne_true fun all => all.1 same
  · have differs : ¬ (b == a) = true := fun equal => falls.ne (eq_of_beq equal)
    rw [if_neg differs, if_neg falls.not_gt, if_neg falls.not_gt, decide_eq_false falls.not_gt,
      inDirection_iff, min_eq_right falls.le, max_eq_left falls.le, iff_false_left falls.not_gt,
      Bool.not_eq_true, eq_comm (a := false)]
    exact (and_iff_right falls.ne').symm

/-- The comparison of the two samples finds the crossings. -/
theorem checkCurrentData_iff (configuredEdge : t.edge = some edge) (configuredLevel : t.level = some level)
    {x : Nat → α} {j : Nat} :
    t.checkCurrentData [x (j - 1), x j] = true ↔ Crosses edge level x j := by
  rw [checkCurrentData_pair configuredEdge configuredLevel]
  constructor
  · rintro ⟨differs, direction, above, below⟩
    exact ⟨differs, direction, above, below⟩
  · rintro ⟨differs, direction, above, below⟩
    exact ⟨differs, direction, above, below⟩

variable {address : Nat × DataTypes} {polls : Nat → SampledPoll α} {j k i : Nat}

section Steps

/-- With a channel that is half full, the last two samples decide. -/
theorem Acquires.detectNormal (acquires : t.Acquires edge level address polls j)
    (enough : ¬ t.activeChannel.getAmountOfUsedPollData < capacity / 2)
    (two : t.activeChannel.stream.contents = [signal polls address (j - 1), signal polls address j]) :
    ∃ rest,
      (Crosses edge level (signal polls address) j → t.detectNormal =
        { t.readStream t.activeChannelId rest with
          isTriggeredPoll := true
          triggerIndexPoll := t.timestamper.lastTimestamp
          state := .fillup }) ∧
      (¬ Crosses edge level (signal polls address) j → t.detectNormal =
        { t.readStream t.activeChannelId rest with isTriggeredPoll := false }) := by
  have watches := acquires.watches
  obtain ⟨rest, taken⟩ := getTriggerData_of_stream watches.stream two
  have decides : (t.readStream t.activeChannelId rest).checkCurrentData
      [signal polls address (j - 1), signal polls address j] = true ↔
        Crosses edge level (signal polls address) j := checkCurrentData_iff watches.edge watches.level
  refine ⟨rest, fun crosses => ?_, fun quiet => ?_⟩
  · rw [Trigger.detectNormal, if_neg enough, taken]
    exact if_pos (decides.mpr crosses)
  · rw [Trigger.detectNormal, if_neg enough, taken]
    exact if_neg fun found => quiet (decides.mp found)

/-- A poll at which the channel is not yet half full, or that crosses nothing. -/
theorem Detects.quiet (detects : t.Detects edge level address polls j) (overflow : Overflow)
    (four : 4 ≤ capacity)
    (none_ : capacity / 2 ≤ j + 1 → ¬ Crosses edge level (signal polls address) (j + 1)) :
    ((t.sampled overflow (polls (j + 1))).run).1 = false ∧
      ((t.sampled overflow (polls (j + 1))).run).2.Detects edge level address polls (j + 1) := by
  have next := detects.acquires.sampled overflow
  rw [run_of_detecting next.watches.mode detects.state]
  refine ⟨rfl, ?_⟩
  dsimp only
  by_cases few : (t.sampled overflow (polls (j + 1))).activeChannel.getAmountOfUsedPollData < capacity / 2
  · rw [detectNormal, if_pos few]
    exact ⟨next, detects.state, detects.counted⟩
  · have half : capacity / 2 ≤ j + 1 := by
      rw [next.used] at few
      omega
    have two := detects.acquires.stream_sampled overflow (by omega)
    obtain ⟨rest, -, missed⟩ := next.detectNormal few two
    have same := sameWatch_readStream (t.sampled overflow (polls (j + 1))) rest
    rw [missed (none_ half)]
    exact ⟨next.same { same with }, detects.state, detects.counted⟩

/-- The first crossing that counts. -/
theorem Detects.crosses (detects : t.Detects edge level address polls j) (overflow : Overflow)
    (four : 4 ≤ capacity) (half : capacity / 2 ≤ j + 1)
    (crosses : Crosses edge level (signal polls address) (j + 1)) :
    ((t.sampled overflow (polls (j + 1))).run).1 = false ∧
      ((t.sampled overflow (polls (j + 1))).run).2.state = .fillup ∧
      ((t.sampled overflow (polls (j + 1))).run).2.Found edge level address polls (j + 1) 0 := by
  have next := detects.acquires.sampled overflow
  have enough : ¬ (t.sampled overflow (polls (j + 1))).activeChannel.getAmountOfUsedPollData <
      capacity / 2 := by
    rw [next.used]
    omega
  have two := detects.acquires.stream_sampled overflow (by omega)
  obtain ⟨rest, found, -⟩ := next.detectNormal enough two
  have same := sameWatch_readStream (t.sampled overflow (polls (j + 1))) rest
  rw [run_of_detecting next.watches.mode detects.state, found crosses]
  exact ⟨rfl, rfl, ⟨next.same { same with }, detects.counted, rfl, rfl⟩⟩

/-- Filling up goes on until the channel is full and enough polls are counted. -/
theorem Found.fills (found : t.Found edge level address polls k i) (overflow : Overflow)
    (state : t.state = .fillup)
    (more : k + i + 1 < capacity ∨ (i + 1) % 2 ^ 32 < capacity / 2) :
    ((t.sampled overflow (polls (k + i + 1))).run).1 = false ∧
      ((t.sampled overflow (polls (k + i + 1))).run).2.state = .fillup ∧
      ((t.sampled overflow (polls (k + i + 1))).run).2.Found edge level address polls k (i + 1) := by
  have next := found.acquires.sampled overflow
  have counts := found.counts overflow
  have used := counts.acquires.used
  rw [run_of_fillup next.watches.mode state, fillUpIfTriggered_eq]
  refine ⟨rfl, ?_⟩
  dsimp only
  split
  · exact ⟨state, counts⟩
  · rename_i full
    split
    · exact ⟨state, counts⟩
    · rename_i enough
      rw [used] at full
      rw [counts.toNat_fillUpPollCount] at enough
      omega

theorem Found.filled (found : t.Found edge level address polls k i) (overflow : Overflow)
    (state : t.state = .fillup) (full : capacity ≤ k + i + 1)
    (enough : capacity / 2 ≤ (i + 1) % 2 ^ 32) :
    ((t.sampled overflow (polls (k + i + 1))).run).1 = false ∧
      ((t.sampled overflow (polls (k + i + 1))).run).2.state = .cleanup ∧
      ((t.sampled overflow (polls (k + i + 1))).run).2.Found edge level address polls k (i + 1) := by
  have next := found.acquires.sampled overflow
  have counts := found.counts overflow
  have noRoom : ¬ (t.sampled overflow (polls (k + i + 1))).counted.activeChannel.getAmountOfUsedPollData <
      capacity := by
    rw [counts.acquires.used]
    omega
  have notFew : ¬ (t.sampled overflow (polls (k + i + 1))).counted.fillUpPollCount.toNat <
      capacity / 2 := by
    rw [counts.toNat_fillUpPollCount]
    exact Nat.not_lt.mpr enough
  rw [run_of_fillup next.watches.mode state, fillUpIfTriggered_eq, if_neg noRoom,
    if_neg notFew]
  have same : SameWatch (t.sampled overflow (polls (k + i + 1))).counted
      { (t.sampled overflow (polls (k + i + 1))).counted.safeChannelStates with state := .cleanup } :=
    ⟨rfl, rfl, rfl, rfl, rfl, rfl, rfl, rfl, rfl, rfl, counts.acquires.stamping.symm, rfl, rfl⟩
  exact ⟨rfl, rfl, counts.acquires.same same, counts.counted, counts.triggered, counts.triggerIndex⟩

/-- Clean-up takes one more sample, stops the channels and hands over what they have. -/
theorem Found.sends (found : t.Found edge level address polls k i) (overflow : Overflow)
    (state : t.state = .cleanup) (full : capacity ≤ k + i) :
    ((t.sampled overflow (polls (k + i + 1))).run).1 = true ∧
      ((t.sampled overflow (polls (k + i + 1))).run).2.isTriggeredSwap = true ∧
      ((t.sampled overflow (polls (k + i + 1))).run).2.triggerIndexSwap = some (polls k).now ∧
      ((t.sampled overflow (polls (k + i + 1))).run).2.activeChannel.swapBuffer.contents =
        latest (signal polls address) capacity (k + i + 1) := by
  have next := found.acquires.sampled overflow
  have watches := next.watches
  have pending : (t.sampled overflow (polls (k + i + 1))).SwapIsPending := by
    rw [SwapIsPending, Channel.swapIsPending_iff, Timestamper.swapIsPending_iff, Fifo.Full, Fifo.Full]
    have samples := next.used
    have stamps := next.stamps
    refine ⟨⟨?_, watches.samplesFree⟩, ?_, watches.stampsFree⟩
    · exact samples.trans (Nat.min_eq_right (full.trans (Nat.le_succ _)))
    · exact stamps.trans (Nat.min_eq_right (full.trans (Nat.le_succ _)))
  obtain ⟨rest, run⟩ := run_of_cleanup watches.mode state
  rw [run, stopInto, swapBuffers_of_pending ((swapIsPending_stopped _).mpr pending)]
  refine ⟨rfl, found.triggered, congrArg some found.triggerIndex, ?_⟩
  exact (congrArg Fifo.contents (Channel.pollBuffer_setStateStopped _)).trans next.samples

end Steps

end Detection

section Cycle
variable [LT α] [DecidableLT α] [BEq α]

/-- The trigger behind the `j`-th sampled poll, and what its run has returned. -/
def polled (overflow : Overflow) (t : Trigger capacity n α) (polls : Nat → SampledPoll α) :
    Nat → Bool × Trigger capacity n α
  | 0 => (false, t)
  | j + 1 => ((polled overflow t polls j).2.sampled overflow (polls (j + 1))).run

/-- How a cycle is entered: an activation clears the buffers, a resumption has to
find them empty. A one-shot acquisition is not resumed. -/
inductive Begins : Trigger capacity n α → Prop
  | activated (t : Trigger capacity n α) : Begins t.activate
  | resumed (t : Trigger capacity n α) (paused : t.state = .paused)
      (strategy : t.activeStrategy ≠ .oneshot) (samples : ∀ i, (t.channels i).pollBuffer.used = 0)
      (stamps : t.timestamper.pollBuffer.used = 0) : Begins t.run.2

theorem Begins.detects {t : Trigger capacity n α} (begins : t.Begins) {edge : Bool} {level : α}
    {address : Nat × DataTypes} (watches : t.Watches edge level address) (polls : Nat → SampledPoll α) :
    t.Detects edge level address polls 0 := by
  cases begins with
  | activated t =>
      refine ⟨⟨watches, ?_, fun begun => absurd begun (Nat.lt_irrefl 0), rfl, ?_⟩, rfl, rfl⟩
      · exact (latest_zero _ capacity).symm
      · exact (Nat.zero_min _).symm
  | resumed t paused strategy samples stamps =>
      have run : t.run = (false, t.startWhenPaused.clear) := by
        rw [Trigger.run, paused]
        dsimp only [start]
        cases given : t.activeStrategy with
        | oneshot => exact absurd given strategy
        | normal => rfl
        | continuous => rfl
      rw [run] at watches ⊢
      refine ⟨⟨watches, ?_, fun begun => absurd begun (Nat.lt_irrefl 0), rfl, ?_⟩, rfl, rfl⟩
      · rw [latest_zero, Fifo.contents_eq_nil_iff]
        exact (congrArg Fifo.used (t.pollBuffer_restoreChannelStates _)).trans (samples _)
      · exact stamps.trans (Nat.zero_min _).symm

end Cycle

section Search
variable [LinearOrder α] (overflow : Overflow) (edge : Bool) (level : α) (address : Nat × DataTypes)
  (t : Trigger capacity n α) (polls : Nat → SampledPoll α)

/-- The first crossing from the poll on at which the channel is half full. -/
def FirstCrossing (capacity : Nat) (k : Nat) : Prop :=
  FirstFrom (capacity / 2) (Crosses edge level (signal polls address)) k

/-- The first hand-over is that of the crossing at the `k`-th poll, which is among
the samples handed over. -/
structure HandsOverCrossing (k : Nat) : Prop where
  waits : ∀ j ≤ k + fillUpPolls capacity k, (t.polled overflow polls j).1 = false
  handsOver : (t.polled overflow polls (k + fillUpPolls capacity k + 1)).1 = true
  isTriggered :
    (t.polled overflow polls (k + fillUpPolls capacity k + 1)).2.isTriggeredSwap = true
  triggerIndex : (t.polled overflow polls (k + fillUpPolls capacity k + 1)).2.triggerIndexSwap =
    some (polls k).now
  samples :
    (t.polled overflow polls (k + fillUpPolls capacity k + 1)).2.activeChannel.swapBuffer.contents =
      (List.range capacity).map fun i =>
        signal polls address (k + fillUpPolls capacity k + 2 - capacity + i)
  kept : k + fillUpPolls capacity k + 2 - capacity ≤ k

/-- The first crossing is handed over, and nothing as long as there is none. -/
structure FindsCrossing : Prop where
  found : ∀ k, FirstCrossing edge level address polls capacity k →
    t.HandsOverCrossing overflow address polls k
  missed : (¬ ∃ k, FirstCrossing edge level address polls capacity k) →
    ∀ j, (t.polled overflow polls j).1 = false

end Search

section Runs
variable [LinearOrder α] {edge : Bool} {level : α} {address : Nat × DataTypes}
  {t : Trigger capacity n α} {polls : Nat → SampledPoll α} (overflow : Overflow) (four : 4 ≤ capacity)
  (begins : t.Begins) (watches : t.Watches edge level address)
include four begins watches

theorem detects_polled {j : Nat}
    (quiet : ∀ i, capacity / 2 ≤ i → i ≤ j → ¬ Crosses edge level (signal polls address) i) :
    (t.polled overflow polls j).1 = false ∧
      (t.polled overflow polls j).2.Detects edge level address polls j := by
  induction j with
  | zero => exact ⟨rfl, begins.detects watches polls⟩
  | succ j ih =>
      obtain ⟨-, detects⟩ := ih fun i late early => quiet i late (early.trans (Nat.le_succ j))
      exact detects.quiet overflow four fun half => quiet (j + 1) half (Nat.le_refl _)

variable {k : Nat} (first : FirstCrossing edge level address polls capacity k)
include first

theorem found_polled {i : Nat} (within : i < fillUpPolls capacity k) :
    (t.polled overflow polls (k + i)).1 = false ∧
      (t.polled overflow polls (k + i)).2.state = .fillup ∧
      (t.polled overflow polls (k + i)).2.Found edge level address polls k i := by
  induction i with
  | zero =>
      have late := first.late
      obtain ⟨j, rfl⟩ : ∃ j, k = j + 1 := ⟨k - 1, by omega⟩
      obtain ⟨-, detects⟩ := detects_polled (j := j) overflow four begins watches
        fun i half before => first.before i half (Nat.lt_succ_of_le before)
      exact detects.crosses overflow four late first.here
  | succ i ih =>
      obtain ⟨-, state, found⟩ := ih (Nat.lt_of_succ_lt within)
      refine found.fills overflow state ?_
      have counted := Nat.mod_le (i + 1) (2 ^ 32)
      unfold fillUpPolls at within
      omega

theorem filled_polled (short : fillUpPolls capacity k < 2 ^ 32) :
    (t.polled overflow polls (k + fillUpPolls capacity k)).1 = false ∧
      (t.polled overflow polls (k + fillUpPolls capacity k)).2.state = .cleanup ∧
      (t.polled overflow polls (k + fillUpPolls capacity k)).2.Found edge level address polls k
        (fillUpPolls capacity k) := by
  obtain ⟨i, last⟩ : ∃ i, fillUpPolls capacity k = i + 1 :=
    ⟨fillUpPolls capacity k - 1, by unfold fillUpPolls; omega⟩
  obtain ⟨-, state, found⟩ := found_polled (i := i) overflow four begins watches first (by omega)
  have counted : (i + 1) % 2 ^ 32 = i + 1 := Nat.mod_eq_of_lt (by omega)
  rw [last]
  refine found.filled overflow state ?_ ?_
  · unfold fillUpPolls at last
    omega
  · rw [counted]
    unfold fillUpPolls at last
    omega

/-- A count of `2 ^ 32` polls or more is never reached in 32 bits. -/
theorem overflows_polled (long : 2 ^ 32 ≤ fillUpPolls capacity k) :
    (t.polled overflow polls (k + fillUpPolls capacity k + 1)).1 = false := by
  obtain ⟨i, last⟩ : ∃ i, fillUpPolls capacity k = i + 1 := ⟨fillUpPolls capacity k - 1, by omega⟩
  obtain ⟨-, state, found⟩ := found_polled (i := i) overflow four begins watches first (by omega)
  have late := first.late
  have wrapped : (i + 1) % 2 ^ 32 < capacity / 2 := by
    rw [last] at long
    unfold fillUpPolls at last
    omega
  obtain ⟨-, filling, next⟩ := found.fills overflow state (.inr wrapped)
  have run := run_of_fillup (next.acquires.sampled overflow).watches.mode filling
  rw [last]
  exact congrArg Prod.fst run

end Runs

section Outcome
variable [LinearOrder α] {edge : Bool} {level : α} {address : Nat × DataTypes}
  {t : Trigger capacity n α} {polls : Nat → SampledPoll α} (overflow : Overflow) (four : 4 ≤ capacity)
  (begins : t.Begins) (watches : t.Watches edge level address)
include four begins watches

theorem handsOverCrossing {k : Nat} (first : FirstCrossing edge level address polls capacity k)
    (short : fillUpPolls capacity k < 2 ^ 32) : t.HandsOverCrossing overflow address polls k := by
  have late := first.late
  obtain ⟨lastWaits, state, found⟩ := filled_polled overflow four begins watches first short
  have full : capacity ≤ k + fillUpPolls capacity k := by
    unfold fillUpPolls
    omega
  obtain ⟨sent, triggered, index, samples⟩ := found.sends overflow state full
  refine ⟨?_, sent, triggered, index, ?_, ?_⟩
  · intro j inside
    rcases Nat.lt_or_ge j k with before | behind
    · exact (detects_polled overflow four begins watches
        fun i half early => first.before i half (early.trans_lt before)).1
    · obtain ⟨i, rfl⟩ := Nat.exists_eq_add_of_le behind
      rcases Nat.lt_or_ge i (fillUpPolls capacity k) with within | beyond
      · exact (found_polled overflow four begins watches first within).1
      · obtain rfl : i = fillUpPolls capacity k := by omega
        exact lastWaits
  · exact samples.trans (latest_of_le _ (full.trans (Nat.le_succ _)))
  · unfold fillUpPolls
    omega

theorem waits_of_no_crossing (none_ : ¬ ∃ k, FirstCrossing edge level address polls capacity k) (j : Nat) :
    (t.polled overflow polls j).1 = false := by
  have quiet (i : Nat) (half : capacity / 2 ≤ i) (_ : i ≤ j) :
      ¬ Crosses edge level (signal polls address) i := by
    intro crosses
    obtain ⟨k, first⟩ := FirstFrom.exists_of half crosses
    exact none_ ⟨k, first⟩
  exact (detects_polled overflow four begins watches quiet).1

/-- As long as the polls to be counted fit the counter, the first crossing is found. -/
theorem findsCrossing_iff : t.FindsCrossing overflow edge level address polls ↔
    ∀ k, FirstCrossing edge level address polls capacity k → fillUpPolls capacity k < 2 ^ 32 := by
  constructor
  · intro finds k first
    by_contra long
    have waits := overflows_polled overflow four begins watches first (Nat.not_lt.mp long)
    exact Bool.false_ne_true (waits.symm.trans (finds.found k first).handsOver)
  · intro short
    constructor
    · intro k first
      exact handsOverCrossing overflow four begins watches first (short k first)
    · exact waits_of_no_crossing overflow four begins watches

end Outcome

/-- No count up to half of `2 ^ 33 - 2` overflows. -/
theorem fillUpPolls_lt {k : Nat} (half : capacity / 2 ≤ k) (short : capacity ≤ 2 ^ 33 - 2) :
    fillUpPolls capacity k < 2 ^ 32 := by
  unfold fillUpPolls
  omega

/-- An accepted configuration, and a channel that runs once it is activated. -/
theorem watches_activate {t : Trigger capacity n α} {conf : TriggerConfiguration α} {mode : TriggerMode}
    {id : Fin (n + 1)} (accepted : configSanityCheck conf = some (mode, id))
    (waits : mode = .normal ∨ mode = .oneshot) {address : Nat × DataTypes}
    (running : (t.activate.channels id).state = .running)
    (configured : (t.activate.channels id).pollAddress = some address) :
    (t.configure conf).activate.Watches conf.edge conf.level address := by
  have written : t.configure conf = t.writeConfig conf mode id := by rw [configure, accepted]
  rw [written]
  exact ⟨waits, rfl, rfl, rfl, running, configured, rfl, rfl⟩

end Trigger

namespace Scope
variable {capacity n : Nat} {α : Type*}

section Calls
variable [LT α] [DecidableLT α] [BEq α]

def pollStep (overflow : Overflow) (s : Scope capacity n α) (p : SampledPoll α) : Scope capacity n α :=
  (s.poll overflow p.now p.memory).2

/-- The calls of `Scope_poll` that take samples. -/
def taken (overflow : Overflow) : Scope capacity n α → List (SampledPoll α) → List (SampledPoll α)
  | _, [] => []
  | s, p :: ps =>
      if s.Sampled p.now then p :: taken overflow (s.pollStep overflow p) ps
      else taken overflow (s.pollStep overflow p) ps

theorem taken_of_sampled (overflow : Overflow) {s : Scope capacity n α} {calls : List (SampledPoll α)}
    (sampled : Run.Along (pollStep overflow) (fun s p => s.Sampled p.now) s calls) :
    s.taken overflow calls = calls := by
  induction calls generalizing s with
  | nil => rfl
  | cons p calls ih => rw [taken, if_pos sampled.1, ih sampled.2]

/-- The other calls leave the trigger alone. -/
theorem trigger_exec_poll (overflow : Overflow) (s : Scope capacity n α) (calls : List (SampledPoll α)) :
    (Run.exec (pollStep overflow) s calls).trigger =
      (s.taken overflow calls).foldl (fun t p => (t.sampled overflow p).run.2) s.trigger := by
  induction calls generalizing s with
  | nil => rfl
  | cons p calls ih =>
      rw [Run.exec_cons, ih, taken]
      split
      · rename_i sampled
        have run := congrArg Prod.snd (poll_of_sampled overflow sampled p.memory)
        rw [List.foldl_cons]
        exact congrArg (fun t => (taken overflow _ calls).foldl _ t) run
      · rename_i early
        rw [pollStep, (poll_of_not_sampled overflow early p.memory).2]

theorem polled_eq_foldl (overflow : Overflow) (t : Trigger capacity n α) (polls : Nat → SampledPoll α)
    (j : Nat) : (t.polled overflow polls j).2 =
      (upTo polls j).foldl (fun t p => (t.sampled overflow p).run.2) t := by
  induction j with
  | zero => rfl
  | succ j ih =>
      rw [upTo_succ, List.foldl_append, ← ih]
      rfl

/-- When `j` calls have taken samples, the next one that does is the poll number `j + 1`. -/
theorem poll_polled {overflow : Overflow} {s : Scope capacity n α} {calls : List (SampledPoll α)}
    {polls : Nat → SampledPoll α} {j : Nat} (numbered : s.taken overflow calls = upTo polls j)
    (sampled : (Run.exec (pollStep overflow) s calls).Sampled (polls (j + 1)).now) :
    let next := (Run.exec (pollStep overflow) s calls).poll overflow (polls (j + 1)).now
      (polls (j + 1)).memory
    (next.1, next.2.trigger) = s.trigger.polled overflow polls (j + 1) := by
  have before : (Run.exec (pollStep overflow) s calls).trigger =
      (s.trigger.polled overflow polls j).2 := by
    rw [trigger_exec_poll, numbered, polled_eq_foldl]
  dsimp only
  rw [poll_of_sampled overflow sampled]
  exact congrArg (fun t : Trigger capacity n α => (t.sampled overflow (polls (j + 1))).run) before

end Calls

section Crossing
variable [LinearOrder α]

/-- What a call of `Scope_poll` does that takes the sample number `j + 1`, if the first crossing
is at the sample number `k`. -/
structure SendsCrossing (k j : Nat) (polls : Nat → SampledPoll α) (address : Nat × DataTypes)
    (called : Bool × Scope capacity n α) : Prop where
  waits : j < k + fillUpPolls capacity k → called.1 = false
  handsOver : j = k + fillUpPolls capacity k → called.1 = true
  triggered : j = k + fillUpPolls capacity k → called.2.getTriggerData.isTriggered = true ∧
    called.2.getTriggerData.triggerTimestamp = some (polls k).now
  samples : j = k + fillUpPolls capacity k → called.2.trigger.activeChannel.swapBuffer.contents =
    (List.range capacity).map fun i => signal polls address (k + fillUpPolls capacity k + 2 - capacity + i)

/-- However often the scope is polled too early in between, the samples it takes are searched
for the first crossing, which is handed over with the samples around it. -/
theorem poll_findsCrossing {overflow : Overflow} {edge : Bool} {level : α} {address : Nat × DataTypes}
    {s : Scope capacity n α} (four : 4 ≤ capacity) (short : capacity ≤ 2 ^ 33 - 2)
    (begins : s.trigger.Begins) (watches : s.trigger.Watches edge level address)
    {calls : List (SampledPoll α)} {polls : Nat → SampledPoll α} {j : Nat}
    (numbered : s.taken overflow calls = upTo polls j)
    (sampled : (Run.exec (pollStep overflow) s calls).Sampled (polls (j + 1)).now) :
    let called := (Run.exec (pollStep overflow) s calls).poll overflow (polls (j + 1)).now
      (polls (j + 1)).memory
    (∀ k, Trigger.FirstCrossing edge level address polls capacity k → SendsCrossing k j polls address called) ∧
      ((¬ ∃ k, Trigger.FirstCrossing edge level address polls capacity k) → called.1 = false) := by
  intro called
  have ran : (called.1, called.2.trigger) = s.trigger.polled overflow polls (j + 1) :=
    poll_polled numbered sampled
  obtain ⟨sent, after⟩ := Prod.ext_iff.mp ran
  dsimp only at sent after
  refine ⟨fun k first => ?_, fun none_ =>
    sent.trans (Trigger.waits_of_no_crossing overflow four begins watches none_ (j + 1))⟩
  have found := Trigger.handsOverCrossing overflow four begins watches first
    (Trigger.fillUpPolls_lt first.late short)
  refine ⟨fun early => ?_, ?_, ?_, ?_⟩
  · exact sent.trans (found.waits (j + 1) early)
  · rintro rfl
    exact sent.trans found.handsOver
  · rintro rfl
    unfold getTriggerData
    rw [after]
    exact ⟨found.isTriggered, found.triggerIndex⟩
  · rintro rfl
    rw [after]
    exact found.samples

end Crossing

end Scope

namespace Trigger

section Run

/-- One channel with an address, and running. -/
def watched (capacity : Nat) : Trigger capacity 0 Int :=
  (Run.exec (Scope.step .reject) Scope.create
    [.configureChannel 0 16 .seInt8, .setChannelRunning 0]).trigger

/-- Rising from 0 to 1 at one poll. -/
def stepAt (k : Nat) (j : Nat) : SampledPoll Int := ⟨UInt32.ofNat j, fun _ _ => if j < k then 0 else 1⟩

def rising : TriggerConfiguration Int := ⟨1, true, 0, 0⟩

theorem watches_rising (capacity : Nat) :
    ((watched capacity).configure rising).activate.Watches true 1 (16, .seInt8) := by
  have accepted : (configSanityCheck rising : Option (TriggerMode × Fin 1)) = some (.normal, 0) := rfl
  have running : ((watched capacity).activate.channels 0).state = .running := rfl
  have configured : ((watched capacity).activate.channels 0).pollAddress = some (16, .seInt8) := rfl
  exact watches_activate accepted (.inl rfl) running configured

theorem crosses_stepAt {k : Nat} (begun : 0 < k) :
    Crosses true 1 (signal (stepAt k) (16, .seInt8)) k := by
  have before : signal (stepAt k) (16, .seInt8) (k - 1) = 0 := if_pos (by omega)
  have behind : signal (stepAt k) (16, .seInt8) k = 1 := if_neg (Nat.lt_irrefl k)
  constructor
  · rw [before, behind]
    decide
  · rw [before, behind]
    decide
  · rw [before, behind]
    decide
  · rw [before, behind]
    decide

/-- The step comes with the first poll that counts. -/
theorem firstCrossing_stepAt {capacity k : Nat} (begun : 0 < k) (half : capacity / 2 = k) :
    FirstCrossing true 1 (16, .seInt8) (stepAt k) capacity k := by
  refine ⟨Nat.le_of_eq half, crosses_stepAt begun, fun j late early => ?_⟩
  rw [half] at late
  exact absurd early (Nat.not_lt.mpr late)

theorem findsCrossing_five :
    FirstCrossing true 1 (16, .seInt8) (stepAt 2) 5 2 ∧
      ((watched 5).configure rising).activate.FindsCrossing .reject true 1 (16, .seInt8) (stepAt 2) := by
  constructor
  · exact firstCrossing_stepAt (by decide) rfl
  · refine (findsCrossing_iff .reject (by decide) (.activated _) (watches_rising 5)).mpr ?_
    intro k first
    exact fillUpPolls_lt first.late (by decide)

/-- The crossing at the poll number `2 ^ 32` would be handed over `2 ^ 32 + 1` polls
later, but the count of these polls has come back to zero. -/
theorem findsCrossing_fails : ((watched (2 ^ 33)).configure rising).activate.Begins ∧
    ((watched (2 ^ 33)).configure rising).activate.Watches true 1 (16, .seInt8) ∧
    ¬ ((watched (2 ^ 33)).configure rising).activate.FindsCrossing .reject true 1 (16, .seInt8)
      (stepAt (2 ^ 32)) := by
  refine ⟨.activated _, watches_rising _, fun finds => ?_⟩
  have first : FirstCrossing true 1 (16, .seInt8) (stepAt (2 ^ 32)) (2 ^ 33) (2 ^ 32) :=
    firstCrossing_stepAt (by decide) (by decide)
  have waits := overflows_polled .reject (by decide) (.activated _) (watches_rising _) first (by decide)
  exact Bool.false_ne_true (waits.symm.trans (finds.found _ first).handsOver)

/-- The hand-over comes with the sixth call. -/
theorem poll_findsCrossing_five :
    let s : Scope 5 0 Int := ⟨((watched 5).configure rising).activate, true, true⟩
    let called := (Run.exec (Scope.pollStep .reject) s (upTo (stepAt 2) 5)).poll .reject
      (stepAt 2 6).now (stepAt 2 6).memory
    called.1 = true ∧ called.2.getTriggerData.triggerTimestamp = some 2 := by
  intro s called
  have begins : s.trigger.Begins := .activated _
  have watches : s.trigger.Watches true 1 (16, .seInt8) := watches_rising 5
  have numbered : s.taken .reject (upTo (stepAt 2) 5) = upTo (stepAt 2) 5 :=
    Scope.taken_of_sampled .reject (by decide)
  have found := Scope.poll_findsCrossing (by decide) (by decide) begins watches numbered (by decide)
  have sends := found.1 2 (firstCrossing_stepAt (by decide) rfl)
  exact ⟨sends.handsOver (by decide), (sends.triggered (by decide)).2⟩

end Run

end Trigger

end Core
