import ScopeTarget.Core.Invariants
import ScopeTarget.Core.SwapSide

/-! Continuous mode as a cycle: one poll decides, the buffers fill up, one more poll
is taken before the set is handed over, and one is spent on resuming. Everything
goes by the active channel, so it has to be one of those that run. -/

namespace Core

/-- The sampled polls before the active channel is found full; the first of them
only takes the decision. -/
def fillLength (capacity : Nat) : Nat := max capacity 2

/-- The sampled polls from one hand-over to the next. -/
def period (capacity : Nat) : Nat := fillLength capacity + 2

/-- The numbers of the sampled polls at which a set is due, counted from one. -/
def Due (capacity k : Nat) : Prop := ∃ i, k = fillLength capacity + 1 + i * period capacity

theorem due_iff {capacity k : Nat} : Due capacity k ↔ k % period capacity = fillLength capacity + 1 := by
  constructor
  · rintro ⟨i, rfl⟩
    rw [Nat.add_mul_mod_self_right]
    exact Nat.mod_eq_of_lt (Nat.lt_succ_self _)
  · intro last
    refine ⟨k / period capacity, ?_⟩
    rw [← last, Nat.mul_comm]
    exact (Nat.mod_add_div k (period capacity)).symm

namespace Trigger
variable {capacity n : Nat} {α : Type*}

/-- `taken` samples into a cycle. What a channel has polled is listed oldest first;
it may go back to earlier cycles. -/
structure Acquiring (runs : Fin (n + 1) → Prop) (polled : Fin (n + 1) → List α) (taken : Nat)
    (t : Trigger capacity n α) : Prop where
  strategy : t.activeStrategy = .continuous
  running : ∀ i, (t.channels i).state = .running ↔ runs i
  stamping : t.timestamper.state = .running
  recorded : ∀ i, runs i → taken ≤ (polled i).length
  samples : ∀ i, runs i → (t.channels i).pollBuffer.contents = (polled i).rtake (min taken capacity)
  silent : ∀ i, ¬ runs i → (t.channels i).pollBuffer.used = 0
  stamps : t.timestamper.pollBuffer.used = min taken capacity

/-- A set has been handed over and the channels wait to be resumed. -/
structure Resting (runs : Fin (n + 1) → Prop) (t : Trigger capacity n α) : Prop where
  strategy : t.activeStrategy = .continuous
  stopped : ∀ i, (t.channels i).state ≠ .running
  configured : ∀ i, runs i → (t.channels i).Configured
  marked : ∀ i, t.channelIsRunning i = true ↔ runs i
  stamping : t.timestamper.state = .stopped
  empty : ∀ i, (t.channels i).pollBuffer.used = 0
  stamps : t.timestamper.pollBuffer.used = 0

structure SamePoll (t t' : Trigger capacity n α) : Prop where
  strategy : t'.activeStrategy = t.activeStrategy
  state : ∀ i, (t'.channels i).state = (t.channels i).state
  pollBuffer : ∀ i, (t'.channels i).pollBuffer = (t.channels i).pollBuffer
  stamping : t'.timestamper.state = t.timestamper.state
  stamps : t'.timestamper.pollBuffer = t.timestamper.pollBuffer

/-- Nothing waits for the packer. -/
def SwapFree (t : Trigger capacity n α) : Prop :=
  (∀ i, (t.channels i).swapBuffer.used = 0) ∧ t.timestamper.swapBuffer.used = 0

/-- Every running channel has as many samples on the swap side as there is room for,
the last ones it has polled; the others have none. -/
structure Delivered (runs : Fin (n + 1) → Prop) (polled : Fin (n + 1) → List α)
    (t : Trigger capacity n α) : Prop where
  full : ∀ i, runs i → (t.channels i).swapBuffer.Full
  samples : ∀ i, runs i → (t.channels i).swapBuffer.contents = (polled i).rtake capacity
  silent : ∀ i, ¬ runs i → (t.channels i).swapBuffer.used = 0

theorem SwapFree.same {t t' : Trigger capacity n α} (free : t.SwapFree) (same : SameSwap t t') :
    t'.SwapFree := by
  refine ⟨fun i => ?_, ?_⟩
  · rw [same.samples]
    exact free.1 i
  · rw [same.stamps]
    exact free.2

theorem Delivered.same {runs : Fin (n + 1) → Prop} {polled : Fin (n + 1) → List α}
    {t t' : Trigger capacity n α} (delivered : Delivered runs polled t) (same : SameSwap t t') :
    Delivered runs polled t' where
  full i run := by
    rw [same.samples]
    exact delivered.full i run
  samples i run := by
    rw [same.samples]
    exact delivered.samples i run
  silent i still := by
    rw [same.samples]
    exact delivered.silent i still

section Phases
variable {runs : Fin (n + 1) → Prop} {polled : Fin (n + 1) → List α} {taken : Nat}
  {t : Trigger capacity n α}

theorem Acquiring.used (acquiring : Acquiring runs polled taken t) {i : Fin (n + 1)} (run : runs i) :
    (t.channels i).pollBuffer.used = min taken capacity := by
  have recorded := acquiring.recorded i run
  rw [Fifo.used_eq_length, acquiring.samples i run, List.rtake, List.length_drop]
  omega

/-- Whatever leaves the poll side alone leaves the cycle where it is. -/
theorem Acquiring.same {t' : Trigger capacity n α} (acquiring : Acquiring runs polled taken t)
    (same : SamePoll t t') : Acquiring runs polled taken t' where
  strategy := same.strategy.trans acquiring.strategy
  running i := by
    rw [same.state]
    exact acquiring.running i
  stamping := same.stamping.trans acquiring.stamping
  recorded := acquiring.recorded
  samples i run := by
    rw [same.pollBuffer]
    exact acquiring.samples i run
  silent i still := by
    rw [same.pollBuffer]
    exact acquiring.silent i still
  stamps := by
    rw [same.stamps]
    exact acquiring.stamps

theorem Resting.same {t' : Trigger capacity n α} (resting : Resting runs t) (same : SamePoll t t')
    (flags : t'.channelIsRunning = t.channelIsRunning) : Resting runs t' where
  strategy := same.strategy.trans resting.strategy
  stopped i := by
    rw [same.state]
    exact resting.stopped i
  configured i run := by
    rw [Channel.Configured, same.state]
    exact resting.configured i run
  marked i := by
    rw [flags]
    exact resting.marked i
  stamping := same.stamping.trans resting.stamping
  empty i := by
    rw [same.pollBuffer]
    exact resting.empty i
  stamps := by
    rw [same.stamps]
    exact resting.stamps

/-- Stopping and exchanging the buffers delivers the set of a full active channel. -/
theorem Acquiring.handsOver (acquiring : Acquiring runs polled taken t) (full : capacity ≤ taken)
    (active : runs t.activeChannelId) (marked : ∀ i, t.channelIsRunning i = true ↔ runs i)
    (free : t.SwapFree) :
    t.stopIntoPause.1 = true ∧ Resting runs t.stopIntoPause.2 ∧ t.stopIntoPause.2.state = .paused ∧
      Delivered runs polled t.stopIntoPause.2 ∧
      t.stopIntoPause.2.activeChannelId = t.activeChannelId := by
  have pending : t.SwapIsPending := by
    rw [SwapIsPending, Channel.swapIsPending_iff, Timestamper.swapIsPending_iff, Fifo.Full, Fifo.Full]
    have samples := acquiring.used active
    have stamps := acquiring.stamps
    exact ⟨⟨samples.trans (Nat.min_eq_right full), free.1 _⟩, stamps.trans (Nat.min_eq_right full), free.2⟩
  unfold stopIntoPause stopInto
  rw [swapBuffers_of_pending (t.swapIsPending_stopped.mpr pending)]
  have moved (i : Fin (n + 1)) : (t.stopChannelsAndTimestamp.swapAll.channels i).swapBuffer =
      (t.channels i).pollBuffer := (t.channels i).pollBuffer_setStateStopped
  refine ⟨rfl, ⟨acquiring.strategy, ?_, ?_, marked, rfl, fun _ => rfl, rfl⟩, rfl, ⟨?_, ?_, ?_⟩, rfl⟩
  · intro i
    exact (t.channels i).not_running_setStateStopped
  · intro i run
    have before : (t.channels i).Configured := .inr ((acquiring.running i).mpr run)
    exact ((t.channels i).configured_of_setStateStopped).mpr before
  · intro i run
    have samples : (t.channels i).pollBuffer.Full := (acquiring.used run).trans (Nat.min_eq_right full)
    exact (congrArg Fifo.Full (moved i)).mpr samples
  · intro i run
    have samples := acquiring.samples i run
    rw [Nat.min_eq_right full] at samples
    exact (congrArg Fifo.contents (moved i)).trans samples
  · intro i still
    exact (congrArg Fifo.used (moved i)).trans (acquiring.silent i still)

/-- Resuming starts the next cycle. -/
theorem Resting.resumes (resting : Resting runs t) :
    Acquiring runs polled 0 t.startWhenPaused.clear := by
  refine ⟨resting.strategy, ?_, rfl, fun _ _ => Nat.zero_le _, ?_, ?_, ?_⟩
  · intro i
    dsimp only [startWhenPaused, clear, restoreChannelStates]
    by_cases mark : t.channelIsRunning i = true
    · have run := (resting.marked i).mp mark
      rw [if_pos mark]
      exact iff_of_true ((t.channels i).configured_setStateRunning (resting.configured i run)) run
    · rw [if_neg mark]
      exact iff_of_false (resting.stopped i) fun run => mark ((resting.marked i).mpr run)
  · intro i _
    have none_ : ((polled i).rtake (min 0 capacity)) = [] := by
      rw [Nat.zero_min]
      exact List.rtake_zero _
    rw [none_, Fifo.contents_eq_nil_iff]
    exact (congrArg Fifo.used (t.pollBuffer_restoreChannelStates i)).trans (resting.empty i)
  · intro i _
    exact (congrArg Fifo.used (t.pollBuffer_restoreChannelStates i)).trans (resting.empty i)
  · rw [Nat.zero_min]
    exact resting.stamps

end Phases

/-- The place in the cycle, by the number of sampled polls since it began. -/
inductive InCycle (runs : Fin (n + 1) → Prop) (polled : Fin (n + 1) → List α) :
    Nat → Trigger capacity n α → Prop
  | detects {t} (state : t.state = .detecting) (acquiring : Acquiring runs polled 0 t) :
      InCycle runs polled 0 t
  | fillsUp {t taken} (state : t.state = .fillup) (begun : 0 < taken) (more : taken < fillLength capacity)
      (acquiring : Acquiring runs polled taken t) : InCycle runs polled taken t
  | cleansUp {t} (state : t.state = .cleanup)
      (acquiring : Acquiring runs polled (fillLength capacity) t)
      (marked : ∀ i, t.channelIsRunning i = true ↔ runs i) :
      InCycle runs polled (fillLength capacity) t
  | rests {t} (state : t.state = .paused) (resting : Resting runs t) :
      InCycle runs polled (fillLength capacity + 1) t

theorem InCycle.same {runs : Fin (n + 1) → Prop} {polled : Fin (n + 1) → List α} {taken : Nat}
    {t t' : Trigger capacity n α} (cycle : InCycle runs polled taken t) (same : SamePoll t t')
    (state : t'.state = t.state) (flags : t'.channelIsRunning = t.channelIsRunning) :
    InCycle runs polled taken t' := by
  cases cycle with
  | detects origin acquiring => exact .detects (state.trans origin) (acquiring.same same)
  | fillsUp origin begun more acquiring =>
      exact .fillsUp (state.trans origin) begun more (acquiring.same same)
  | cleansUp origin acquiring marked =>
      refine .cleansUp (state.trans origin) (acquiring.same same) fun i => ?_
      rw [flags]
      exact marked i
  | rests origin resting => exact .rests (state.trans origin) (resting.same same flags)

end Trigger

namespace Scope
variable {capacity n : Nat} {α : Type*}

/-- What the channels have polled, with the samples of one more poll. -/
def record (s : Scope capacity n α) (memory : Memory α) (polled : Fin (n + 1) → List α)
    (i : Fin (n + 1)) : List α :=
  if (s.channels i).state = .running then polled i ++ ((s.channels i).castDataToFloat memory).toList
  else polled i

def Runs (s : Scope capacity n α) (i : Fin (n + 1)) : Prop := (s.channels i).state = .running

instance (s : Scope capacity n α) (i : Fin (n + 1)) : Decidable (s.Runs i) :=
  inferInstanceAs (Decidable (_ = _))

/-- Starting the channel leaves some channel running, so the trigger is activated. -/
def Activates (s : Scope capacity n α) (id : Nat) : Prop :=
  ∃ inRange : id < n + 1,
    (s.modifyChannel ⟨id, inRange⟩ Channel.setStateRunning).allChannelsAreStopped = false

theorem trigger_of_activates {s : Scope capacity n α} {id : Nat} (activates : s.Activates id) :
    let started := s.modifyChannel ⟨id, activates.1⟩ Channel.setStateRunning
    (s.setChannelRunning id).trigger = Trigger.activate
      { started.trigger with timestamper := started.timestamper.setStateRunning } := by
  obtain ⟨inRange, someRuns⟩ := activates
  simp only [setChannelRunning, dif_pos inRange, someRuns, Bool.false_eq_true, if_false]

section Sample
variable {runs : Fin (n + 1) → Prop} {polled : Fin (n + 1) → List α} {taken : Nat}
  {s : Scope capacity n α} {overflow : Overflow} {now : UInt32} {memory : Memory α}

theorem acquiring_sample (acquiring : s.trigger.Acquiring runs polled taken) :
    (s.sample overflow now memory).Acquiring runs (s.record memory polled) (taken + 1) := by
  have running (i : Fin (n + 1)) : (s.channels i).state = .running ↔ runs i := acquiring.running i
  refine ⟨acquiring.strategy, ?_, acquiring.stamping, ?_, ?_, ?_, ?_⟩
  · intro i
    dsimp only [sample]
    rw [Channel.state_poll]
    exact running i
  · intro i run
    obtain ⟨x, sample, -⟩ := Channel.poll_of_running memory ((running i).mpr run)
    have before := acquiring.recorded i run
    rw [record, if_pos ((running i).mpr run), sample, Option.toList_some, List.length_append,
      List.length_singleton]
    omega
  · intro i run
    obtain ⟨x, sample, pushed⟩ := Channel.poll_of_running memory ((running i).mpr run)
    have before : (s.channels i).pollBuffer.contents = (polled i).rtake (min taken capacity) :=
      acquiring.samples i run
    have count : min capacity (min taken capacity + 1) = min (taken + 1) capacity := by omega
    dsimp only [Scope.sample]
    rw [pushed, Fifo.contents_push, before, record, if_pos ((running i).mpr run), sample,
      Option.toList_some, ← List.rtake_concat_succ, List.rtake_rtake, count]
  · intro i still
    dsimp only [sample]
    rw [Channel.poll_of_not_running memory fun run => still ((running i).mp run)]
    exact acquiring.silent i still
  · have before : s.timestamper.pollBuffer.used = min taken capacity := acquiring.stamps
    have stamping : s.timestamper.state = .running := acquiring.stamping
    dsimp only [sample]
    rw [Timestamper.used_stamp, if_pos stamping, before]
    omega

theorem resting_sample (resting : s.trigger.Resting runs) :
    (s.sample overflow now memory).Resting runs := by
  have still (i : Fin (n + 1)) : (s.channels i).poll memory = s.channels i :=
    Channel.poll_of_not_running memory (resting.stopped i)
  have channels : (s.sample overflow now memory).channels = s.trigger.channels := funext still
  have stamps : (s.sample overflow now memory).timestamper.pollBuffer = s.timestamper.pollBuffer :=
    Timestamper.stamp_of_stopped resting.stamping
  refine ⟨resting.strategy, ?_, ?_, resting.marked, resting.stamping, ?_, ?_⟩
  · rw [channels]
    exact resting.stopped
  · rw [channels]
    exact resting.configured
  · rw [channels]
    exact resting.empty
  · rw [stamps]
    exact resting.stamps

theorem swapFree_sample (free : s.trigger.SwapFree) : (s.sample overflow now memory).SwapFree := by
  refine ⟨fun i => ?_, free.2⟩
  exact (congrArg Fifo.used (Channel.swapBuffer_poll _ memory)).trans (free.1 i)

end Sample

end Scope

namespace Trigger
variable {capacity n : Nat} {α : Type*} {runs : Fin (n + 1) → Prop} {polled : Fin (n + 1) → List α}
  {taken : Nat} {t : Trigger capacity n α}

/-- The active channel is full from as many polls on as it has room for, and not
before the poll behind the decision. -/
theorem fillUp_inCycle (state : t.state = .fillup) (begun : 1 < taken)
    (more : taken ≤ fillLength capacity) (active : runs t.activeChannelId)
    (acquiring : Acquiring runs polled taken t) :
    InCycle runs polled taken t.fillUpTillChannelFull := by
  have used : t.activeChannel.getAmountOfUsedPollData = min taken capacity := acquiring.used active
  unfold fillUpTillChannelFull
  by_cases room : t.activeChannel.getAmountOfUsedPollData < capacity
  · rw [if_pos room]
    refine .fillsUp state (Nat.lt_of_succ_lt begun) ?_ acquiring
    have inner : taken < capacity := by omega
    exact Nat.lt_of_lt_of_le inner (Nat.le_max_left _ _)
  · obtain rfl : taken = fillLength capacity := by
      have enough : capacity ≤ taken := by omega
      exact Nat.le_antisymm more (Nat.max_le.mpr ⟨enough, begun⟩)
    rw [if_neg room]
    have kept : SamePoll t { t.safeChannelStates with state := .cleanup } :=
      ⟨rfl, fun _ => rfl, fun _ => rfl, acquiring.stamping.symm, rfl⟩
    refine .cleansUp rfl (acquiring.same kept) fun i => ?_
    exact (Channel.isRunning_iff _).trans (acquiring.running i)

section Strategy
variable [LT α] [DecidableLT α] [BEq α] (strategy : t.activeStrategy = .continuous)
include strategy

theorem run_detecting (state : t.state = .detecting) : t.run = (false, t.detectNever) := by
  simp only [run, detecting, state, strategy]

theorem run_fillup (state : t.state = .fillup) : t.run = (false, t.fillUpTillChannelFull) := by
  simp only [run, fillUp, state, strategy]

theorem run_cleanup (state : t.state = .cleanup) : t.run = t.stopIntoPause := by
  simp only [run, stop, state, strategy]

theorem run_paused (state : t.state = .paused) : t.run = (false, t.startWhenPaused.clear) := by
  simp only [run, start, state, strategy]

end Strategy

end Trigger

namespace Scope
variable {capacity n : Nat} {α : Type*} [LT α] [DecidableLT α] [BEq α]
  {runs : Fin (n + 1) → Prop} {polled : Fin (n + 1) → List α} {taken : Nat}

/-- One sampled poll, from any place in the cycle. -/
theorem run_inCycle {s : Scope capacity n α} (overflow : Overflow) (now : UInt32) (memory : Memory α)
    (cycle : s.trigger.InCycle runs polled taken) (active : runs s.trigger.activeChannelId)
    (free : taken = fillLength capacity → s.trigger.SwapFree) :
    let r := (s.sample overflow now memory).run
    r.2.InCycle runs (s.record memory polled) ((taken + 1) % period capacity) ∧
      (r.1 = true ↔ taken = fillLength capacity) ∧
      (taken = fillLength capacity → r.2.Delivered runs (s.record memory polled)) ∧
      r.2.activeChannelId = s.trigger.activeChannelId := by
  have two : 2 ≤ fillLength capacity := Nat.le_max_right _ _
  have inner (k : Nat) (short : k ≤ fillLength capacity) : (k + 1) % period capacity = k + 1 :=
    Nat.mod_eq_of_lt (Nat.succ_lt_succ (Nat.lt_succ_of_le short))
  cases cycle with
  | detects state acquiring =>
      have next : (s.sample overflow now memory).Acquiring runs (s.record memory polled) 1 :=
        acquiring_sample acquiring
      have early : ¬ 0 = fillLength capacity := by omega
      rw [Trigger.run_detecting next.strategy state, inner 0 (Nat.zero_le _)]
      refine ⟨.fillsUp rfl Nat.one_pos two (next.same ⟨rfl, fun _ => rfl, fun _ => rfl, rfl, rfl⟩), ?_, ?_, rfl⟩
      · exact iff_of_false Bool.false_ne_true early
      · exact fun due => absurd due early
  | fillsUp state begun more acquiring =>
      have next : (s.sample overflow now memory).Acquiring runs (s.record memory polled) (taken + 1) :=
        acquiring_sample acquiring
      have early : ¬ taken = fillLength capacity := Nat.ne_of_lt more
      rw [Trigger.run_fillup next.strategy state, inner taken (Nat.le_of_lt more)]
      refine ⟨Trigger.fillUp_inCycle state (Nat.succ_lt_succ begun) more active next, ?_, ?_, ?_⟩
      · exact iff_of_false Bool.false_ne_true early
      · exact fun due => absurd due early
      · dsimp only [Trigger.fillUpTillChannelFull]
        split
        · rfl
        · rfl
  | cleansUp state acquiring marked =>
      have next : (s.sample overflow now memory).Acquiring runs (s.record memory polled)
        (fillLength capacity + 1) := acquiring_sample acquiring
      have full : capacity ≤ fillLength capacity + 1 := Nat.le_succ_of_le (Nat.le_max_left _ _)
      obtain ⟨sent, resting, paused, delivered, channel⟩ :=
        next.handsOver full active marked (swapFree_sample (free rfl))
      rw [Trigger.run_cleanup next.strategy state, inner _ (Nat.le_refl _)]
      exact ⟨.rests paused resting, iff_of_true sent rfl, fun _ => delivered, channel⟩
  | rests state resting =>
      have next : (s.sample overflow now memory).Resting runs := resting_sample resting
      have late : ¬ fillLength capacity + 1 = fillLength capacity := by omega
      have wraps : (fillLength capacity + 1 + 1) % period capacity = 0 := Nat.mod_self _
      rw [Trigger.run_paused next.strategy state, wraps]
      refine ⟨.detects rfl next.resumes, ?_, ?_, rfl⟩
      · exact iff_of_false Bool.false_ne_true late
      · exact fun due => absurd due late

end Scope

/-- An acquisition since its activation: the sampled polls, whether the last set has
been packed, and what each channel has polled. -/
structure Cycle (capacity n : Nat) (α : Type*) where
  scope : Scope capacity n α
  polls : Nat
  drained : Bool
  polled : Fin (n + 1) → List α

namespace Cycle
variable {capacity n : Nat} {α : Type*}

def start (s : Scope capacity n α) : Cycle capacity n α := ⟨s, 0, true, fun _ => []⟩

/-- A set is packed before the next one is due, and nothing else is asked of the scope. -/
def InTime (c : Cycle capacity n α) : Operation α → Prop
  | .poll now _ => c.scope.Sampled now → Due capacity (c.polls + 1) → c.drained = true
  | .pack => True
  | _ => False

theorem due_succ_iff (c : Cycle capacity n α) :
    Due capacity (c.polls + 1) ↔ c.polls % period capacity = fillLength capacity := by
  have below : c.polls % period capacity < fillLength capacity + 2 := Nat.mod_lt _ (Nat.succ_pos _)
  rw [due_iff, ← Nat.mod_add_mod]
  generalize c.polls % period capacity = place at below
  constructor
  · intro last
    by_cases wraps : place = fillLength capacity + 1
    · subst wraps
      have zero : (fillLength capacity + 1 + 1) % period capacity = 0 := Nat.mod_self _
      omega
    · have inner : (place + 1) % period capacity = place + 1 := by
        apply Nat.mod_eq_of_lt
        unfold period
        omega
      omega
  · rintro rfl
    exact Nat.mod_eq_of_lt (Nat.lt_succ_self _)

/-- The place in the cycle, and whether the swap side is free. -/
structure Holds (runs : Fin (n + 1) → Prop) (c : Cycle capacity n α) : Prop where
  cycle : c.scope.trigger.InCycle runs c.polled (c.polls % period capacity)
  active : runs c.scope.trigger.activeChannelId
  swap : (c.drained = true ∧ c.scope.trigger.SwapFree) ∨
    ∃ polled, c.drained = false ∧ c.scope.trigger.Delivered runs polled

/-- Activation begins a cycle, whatever was before. -/
theorem holds_start {s : Scope capacity n α} {id : Nat} (activates : s.Activates id)
    (continuous : s.trigger.activeStrategy = .continuous)
    (monitored : (s.setChannelRunning id).Runs s.trigger.activeChannelId) :
    (start (s.setChannelRunning id)).Holds (s.setChannelRunning id).Runs := by
  have inRange := activates.1
  let started := s.modifyChannel ⟨id, inRange⟩ Channel.setStateRunning
  have activated : (s.setChannelRunning id).trigger = Trigger.activate
      { started.trigger with timestamper := started.timestamper.setStateRunning } :=
    Scope.trigger_of_activates activates
  have acquiring : (s.setChannelRunning id).trigger.Acquiring (s.setChannelRunning id).Runs
      (fun _ => []) 0 := by
    refine ⟨?_, fun _ => Iff.rfl, ?_, fun _ _ => Nat.zero_le _, ?_, ?_, ?_⟩
    · rw [activated]
      exact continuous
    · rw [activated]
      rfl
    · intro i _
      rw [activated, List.rtake_nil]
      rfl
    · intro i _
      rw [activated]
      rfl
    · rw [activated, Nat.zero_min]
      rfl
  have state : (s.setChannelRunning id).trigger.state = .detecting := by
    rw [activated]
    rfl
  have channel : (s.setChannelRunning id).trigger.activeChannelId = s.trigger.activeChannelId := by
    rw [activated]
    rfl
  refine ⟨?_, ?_, .inl ⟨rfl, ?_⟩⟩
  · dsimp only [start]
    rw [Nat.zero_mod]
    exact .detects state acquiring
  · dsimp only [start]
    rw [channel]
    exact monitored
  · dsimp only [start]
    rw [activated]
    exact ⟨fun _ => rfl, rfl⟩

/-- Only what is full is packed, so packing needs no set to leave the swap side free. -/
theorem swapFree_pack {runs : Fin (n + 1) → Prop} {c : Cycle capacity n α} (holds : c.Holds runs) :
    (Control.CommandPackData.run c.scope).2.trigger.SwapFree := by
  have either (i : Fin (n + 1)) : (c.scope.channels i).swapBuffer.Full ∨
      (c.scope.channels i).swapBuffer.used = 0 := by
    rcases holds.swap with ⟨-, free⟩ | ⟨polled, -, delivered⟩
    · exact .inr (free.1 i)
    · by_cases run : runs i
      · exact .inl (delivered.full i run)
      · exact .inr (delivered.silent i run)
  refine Control.CommandPackData.run_cases c.scope (fun nothing => ?_) ⟨fun i => ?_, rfl⟩
  · rcases holds.swap with ⟨-, free⟩ | ⟨polled, -, delivered⟩
    · exact free
    · have full := delivered.full _ holds.active
      have packed := Control.CommandPackData.mem_channelsToPack.mpr full
      rw [nothing] at packed
      cases packed
  · dsimp only [Control.CommandPackData.drain]
    by_cases full : c.scope.channelHasToBePacked i = true
    · rw [if_pos full]
      rfl
    · rw [if_neg full]
      rw [Scope.channelHasToBePacked_iff] at full
      exact (either i).resolve_left full

theorem samePoll_pack (s : Scope capacity n α) :
    s.trigger.SamePoll (Control.CommandPackData.run s).2.trigger := by
  refine Control.CommandPackData.run_cases s (fun _ => ?_) ?_
  · exact ⟨rfl, fun _ => rfl, fun _ => rfl, rfl, rfl⟩
  · exact ⟨rfl, Control.CommandPackData.state_drain s, Control.CommandPackData.pollBuffer_drain s, rfl, rfl⟩

section Step
variable [LT α] [DecidableLT α] [BEq α]

def step (overflow : Overflow) (c : Cycle capacity n α) (op : Operation α) : Cycle capacity n α :=
  let next := c.scope.step overflow op
  match op with
  | .poll now memory =>
      if c.scope.Sampled now then
        { scope := next
          polls := c.polls + 1
          drained := if c.scope.handsOver overflow op then false else c.drained
          polled := c.scope.record memory c.polled }
      else { c with scope := next }
  | .pack => { c with scope := next, drained := true }
  | _ => { c with scope := next }

/-- Data are announced at the sampled polls that are due and at no other step, and then
the swap buffer of every channel that runs holds exactly the last samples. -/
def Delivers (overflow : Overflow) (runs : Fin (n + 1) → Prop) (c : Cycle capacity n α)
    (op : Operation α) : Prop :=
  (c.scope.handsOver overflow op = true ↔
    ∃ now memory, op = .poll now memory ∧ c.scope.Sampled now ∧ Due capacity (c.polls + 1)) ∧
  (c.scope.handsOver overflow op = true → ∀ i, runs i →
    ((c.step overflow op).scope.channels i).swapBuffer.Full ∧
    ((c.step overflow op).scope.channels i).swapBuffer.contents =
      ((c.step overflow op).polled i).rtake capacity)

variable {overflow : Overflow} {runs : Fin (n + 1) → Prop}

theorem holds_pack {c : Cycle capacity n α} (holds : c.Holds runs) :
    (c.step overflow .pack).Holds runs := by
  have unchanged : (Control.CommandPackData.run c.scope).2.trigger.state = c.scope.trigger.state ∧
      (Control.CommandPackData.run c.scope).2.trigger.channelIsRunning =
        c.scope.trigger.channelIsRunning ∧
      (Control.CommandPackData.run c.scope).2.trigger.activeChannelId =
        c.scope.trigger.activeChannelId :=
    Control.CommandPackData.run_cases c.scope (fun _ => ⟨rfl, rfl, rfl⟩) ⟨rfl, rfl, rfl⟩
  refine ⟨holds.cycle.same (samePoll_pack c.scope) unchanged.1 unchanged.2.1, ?_, ?_⟩
  · exact (congrArg runs unchanged.2.2).mpr holds.active
  · exact .inl ⟨rfl, swapFree_pack holds⟩

theorem holds_sampled (overflow : Overflow) {c : Cycle capacity n α} (holds : c.Holds runs)
    {now : UInt32} {memory : Memory α} (inTime : c.InTime (.poll now memory))
    (sampled : c.scope.Sampled now) :
    (c.step overflow (.poll now memory)).Holds runs ∧
      (c.scope.handsOver overflow (.poll now memory) = true ↔ Due capacity (c.polls + 1)) ∧
      (Due capacity (c.polls + 1) → (c.step overflow (.poll now memory)).scope.trigger.Delivered runs
        (c.step overflow (.poll now memory)).polled) := by
  have free : c.polls % period capacity = fillLength capacity → c.scope.trigger.SwapFree := by
    intro last
    rcases holds.swap with ⟨-, free⟩ | ⟨polled, waits, -⟩
    · exact free
    · have drained := inTime sampled (c.due_succ_iff.mpr last)
      cases drained.symm.trans waits
  have run := Scope.poll_of_sampled overflow sampled memory
  obtain ⟨cycle, sent, delivered, channel⟩ :=
    Scope.run_inCycle overflow now memory holds.cycle holds.active free
  rw [← run] at cycle sent delivered channel
  rw [Nat.mod_add_mod] at cycle
  have next : c.step overflow (.poll now memory) =
      { scope := (c.scope.poll overflow now memory).2
        polls := c.polls + 1
        drained := if (c.scope.poll overflow now memory).1 then false else c.drained
        polled := c.scope.record memory c.polled } := if_pos sampled
  rw [next, due_succ_iff]
  refine ⟨⟨cycle, ?_, ?_⟩, sent, delivered⟩
  · exact (congrArg runs channel).mpr holds.active
  · dsimp only
    rcases c.scope.poll_swapped overflow now memory with ⟨waits, same⟩ | ⟨hands, -⟩
    · rw [waits]
      rcases holds.swap with ⟨drained, free⟩ | ⟨polled, waits, before⟩
      · exact .inl ⟨drained, free.same same⟩
      · exact .inr ⟨polled, waits, before.same same⟩
    · rw [hands]
      exact .inr ⟨_, rfl, delivered (sent.mp hands)⟩

theorem holds_poll {c : Cycle capacity n α} (holds : c.Holds runs) {now : UInt32}
    {memory : Memory α} (inTime : c.InTime (.poll now memory)) :
    (c.step overflow (.poll now memory)).Holds runs ∧ c.Delivers overflow runs (.poll now memory) := by
  by_cases sampled : c.scope.Sampled now
  · obtain ⟨after, sent, delivered⟩ := holds_sampled overflow holds inTime sampled
    refine ⟨after, ?_, ?_⟩
    · rw [sent]
      constructor
      · intro due
        exact ⟨now, memory, rfl, sampled, due⟩
      · rintro ⟨_, _, same, _, due⟩
        exact due
    · intro hands i run
      have set := delivered (sent.mp hands)
      exact ⟨set.full i run, set.samples i run⟩
  · obtain ⟨waits, trigger⟩ := Scope.poll_of_not_sampled overflow sampled memory
    have next : c.step overflow (.poll now memory) =
        { c with scope := (c.scope.poll overflow now memory).2 } := if_neg sampled
    have silent : c.scope.handsOver overflow (.poll now memory) = false := waits
    refine ⟨?_, ?_, ?_⟩
    · rw [next]
      refine ⟨?_, ?_, ?_⟩
      · dsimp only
        rw [trigger]
        exact holds.cycle
      · dsimp only
        rw [trigger]
        exact holds.active
      · dsimp only
        rw [trigger]
        exact holds.swap
    · rw [silent]
      refine iff_of_false Bool.false_ne_true ?_
      rintro ⟨_, _, same, there, _⟩
      cases same
      exact sampled there
    · intro hands
      cases silent.symm.trans hands

theorem holds_step {c : Cycle capacity n α} (holds : c.Holds runs) (op : Operation α)
    (inTime : c.InTime op) : (c.step overflow op).Holds runs ∧ c.Delivers overflow runs op := by
  cases op with
  | poll now memory => exact holds_poll holds inTime
  | pack =>
      refine ⟨holds_pack holds, ?_, ?_⟩
      · refine iff_of_false Bool.false_ne_true ?_
        rintro ⟨_, _, same, _⟩
        cases same
      · intro hands
        cases hands
  | _ => cases inTime

/-- With the monitored channel among those that run, the sets come in time: at the
sampled polls that are due, and with the last samples of every channel that runs. -/
theorem delivers_in_time {s : Scope capacity n α} {id : Nat} (activates : s.Activates id)
    (continuous : s.trigger.activeStrategy = .continuous)
    (monitored : (s.setChannelRunning id).Runs s.trigger.activeChannelId) {ops : List (Operation α)}
    (inTime : Run.Along (step overflow) InTime (start (s.setChannelRunning id)) ops) :
    Run.Along (step overflow) (Delivers overflow (s.setChannelRunning id).Runs)
      (start (s.setChannelRunning id)) ops := by
  have preserved (c : Cycle capacity n α) (op : Operation α)
      (holds : c.Holds (s.setChannelRunning id).Runs) (ok : c.InTime op) :
      (c.step overflow op).Holds (s.setChannelRunning id).Runs := (holds_step holds op ok).1
  have seen (c : Cycle capacity n α) (op : Operation α)
      (holds : c.Holds (s.setChannelRunning id).Runs) (ok : c.InTime op) :
      c.Delivers overflow (s.setChannelRunning id).Runs op := (holds_step holds op ok).2
  exact inTime.observe _ preserved seen (holds_start activates continuous monitored)

end Step

section Run
open Operation

/-- Both channels get an address, and the first one runs when the second is started. -/
def firstRuns : Scope 1 1 Int :=
  Run.exec (Scope.step .reject) Scope.create
    [.configureChannel 0 16 .seInt8, .configureChannel 1 32 .seInt8, .setChannelRunning 0]

/-- Two cycles: sets are due at the third and at the seventh poll. -/
theorem delivers_in_time_twice :
    let ops := [steadyPoll 1, steadyPoll 2, steadyPoll 3, .pack, steadyPoll 4, steadyPoll 5, steadyPoll 6,
      steadyPoll 7]
    Due 1 7 ∧ Run.Along (step .reject) (Delivers .reject (firstRuns.setChannelRunning 1).Runs)
      (start (firstRuns.setChannelRunning 1)) ops := by
  refine ⟨⟨1, rfl⟩, delivers_in_time ⟨by decide, by decide⟩ (by decide) (by decide) ?_⟩
  refine ⟨fun _ _ => by decide, fun _ _ => by decide, fun _ _ => by decide, trivial, fun _ _ => by decide,
    fun _ _ => by decide, fun _ _ => by decide, fun _ _ => by decide, trivial⟩

/-- The second channel alone has an address. -/
def secondConfigured : Scope 1 1 Int :=
  Run.exec (Scope.step .reject) Scope.create [.configureChannel 1 32 .seInt8]

/-- It alone is started, and the trigger looks at the first channel: no set comes at
the third poll. -/
theorem delivers_in_time_fails :
    secondConfigured.Activates 1 ∧ secondConfigured.trigger.activeStrategy = .continuous ∧
      Run.Along (step .reject) InTime (start (secondConfigured.setChannelRunning 1))
        [steadyPoll 1, steadyPoll 2, steadyPoll 3] ∧
      ¬ Run.Along (step .reject) (Delivers .reject (secondConfigured.setChannelRunning 1).Runs)
        (start (secondConfigured.setChannelRunning 1)) [steadyPoll 1, steadyPoll 2, steadyPoll 3] := by
  refine ⟨⟨by decide, by decide⟩, by decide, ?_, ?_⟩
  · exact ⟨fun _ _ => by decide, fun _ _ => by decide, fun _ _ => by decide, trivial⟩
  · intro along
    have due : Due 1 3 := ⟨0, rfl⟩
    have sent := along.2.2.1.1.mpr ⟨_, _, rfl, by decide, due⟩
    exact absurd sent (by decide)

end Run

end Cycle

end Core
