import ScopeTarget.Core.Trigger
import Mathlib.Algebra.Ring.Int.Defs
import Mathlib.Data.Fintype.Basic

/-! The scope: the operations the host commands call, and the sampled poll. -/

namespace Core

/-- Channels and timestamper are reached through the trigger that shares them. -/
structure Scope (capacity n : Nat) (α : Type*) where
  trigger : Trigger capacity n α
  scopeIsRunning : Bool
  scopeIsReadyToRun : Bool

structure TriggeredValues where
  isTriggered : Bool
  channelId : Nat
  triggerTimestamp : Option UInt32
  mode : Option TriggerMode
  deriving DecidableEq, Repr

namespace Scope
variable {capacity n : Nat} {α : Type*}

def channels (s : Scope capacity n α) : Fin (n + 1) → Channel capacity α := s.trigger.channels

def timestamper (s : Scope capacity n α) : Timestamper capacity := s.trigger.timestamper

def create [Zero α] : Scope capacity n α where
  trigger := Trigger.create
  scopeIsRunning := false
  scopeIsReadyToRun := false

def allChannelsAreStopped (s : Scope capacity n α) : Bool :=
  ∀ i, (s.channels i).isRunning = false

def modifyChannel (s : Scope capacity n α) (i : Fin (n + 1))
    (f : Channel capacity α → Channel capacity α) : Scope capacity n α :=
  { s with trigger := { s.trigger with
      channels := fun j => if j = i then f (s.channels j) else s.channels j } }

/-- Whether a poll at this reference time takes samples. -/
def Sampled (s : Scope capacity n α) (referenceTimestamp : UInt32) : Prop :=
  s.scopeIsReadyToRun = true ∧ s.timestamper.updateElapsedTime referenceTimestamp = true

instance (s : Scope capacity n α) (now : UInt32) : Decidable (s.Sampled now) :=
  inferInstanceAs (Decidable (_ ∧ _))

def sample (overflow : Overflow) (s : Scope capacity n α) (referenceTimestamp : UInt32)
    (memory : Memory α) : Trigger capacity n α :=
  { s.trigger with
    timestamper := s.timestamper.stamp overflow referenceTimestamp
    channels := fun i => (s.channels i).poll memory }

/-- The flag says that a data set was handed over and announced as `SC_DATA`. -/
def poll [LT α] [DecidableLT α] [BEq α] (overflow : Overflow) (s : Scope capacity n α)
    (referenceTimestamp : UInt32) (memory : Memory α) : Bool × Scope capacity n α :=
  if s.scopeIsReadyToRun = false then (false, s)
  else if s.timestamper.updateElapsedTime referenceTimestamp = false then
    (false, { s with scopeIsRunning := true })
  else
    let pass := (s.sample overflow referenceTimestamp memory).run
    (pass.1, { s with trigger := pass.2, scopeIsRunning := true })

def configureChannel (s : Scope capacity n α) (channelId : Nat) (pollAddress : Nat)
    (type : DataTypes) : Scope capacity n α :=
  if h : channelId < n + 1 then
    s.modifyChannel ⟨channelId, h⟩ fun c => c.setPollAddress pollAddress type
  else s

def configureTrigger (s : Scope capacity n α) (conf : TriggerConfiguration α) :
    Scope capacity n α :=
  { s with trigger := s.trigger.configure conf }

def configureTimestampIncrement (s : Scope capacity n α) (timestampIncrement : UInt32) :
    Scope capacity n α :=
  { s with trigger := { s.trigger with
      timestamper := s.timestamper.configureTimestampIncrement timestampIncrement } }

/-- Starting any channel restarts the acquisition of all of them. -/
def setChannelRunning (s : Scope capacity n α) (channelId : Nat) : Scope capacity n α :=
  if h : channelId < n + 1 then
    let started := s.modifyChannel ⟨channelId, h⟩ Channel.setStateRunning
    if started.allChannelsAreStopped = true then started
    else
      { started with
        trigger := Trigger.activate
          { started.trigger with timestamper := started.timestamper.setStateRunning }
        scopeIsReadyToRun := true }
  else s

def setChannelStopped (s : Scope capacity n α) (channelId : Nat) : Scope capacity n α :=
  if h : channelId < n + 1 then
    let halted := s.modifyChannel ⟨channelId, h⟩ Channel.setStateStopped
    if halted.allChannelsAreStopped = true then
      { trigger := Trigger.deactivate
          { halted.trigger with timestamper := halted.timestamper.setStateStopped }
        scopeIsRunning := false
        scopeIsReadyToRun := false }
    else halted
  else s

def clear (s : Scope capacity n α) : Scope capacity n α :=
  { s with trigger := s.trigger.resetBuffers.clear }

def getTriggerData (s : Scope capacity n α) : TriggeredValues where
  isTriggered := s.trigger.isTriggeredSwap
  channelId := s.trigger.activeChannelId
  triggerTimestamp := s.trigger.triggerIndexSwap
  mode := s.trigger.mode

def channelHasToBePacked (s : Scope capacity n α) (channelId : Nat) : Bool :=
  if h : channelId < n + 1 then
    (s.channels ⟨channelId, h⟩).getAmountOfUsedSwapData = capacity
  else false

theorem channelHasToBePacked_iff (s : Scope capacity n α) (i : Fin (n + 1)) :
    s.channelHasToBePacked i = true ↔ (s.channels i).swapBuffer.Full := by
  rw [channelHasToBePacked, dif_pos i.isLt, decide_eq_true_iff]
  rfl

theorem allChannelsAreStopped_iff (s : Scope capacity n α) :
    s.allChannelsAreStopped = true ↔ ∀ i, (s.channels i).state ≠ .running := by
  rw [allChannelsAreStopped, decide_eq_true_iff]
  refine forall_congr' fun i => ?_
  rw [← Bool.not_eq_true, Channel.isRunning_iff]

theorem modifyChannel_same (s : Scope capacity n α) (i : Fin (n + 1))
    (f : Channel capacity α → Channel capacity α) :
    (s.modifyChannel i f).channels i = f (s.channels i) := if_pos rfl

theorem modifyChannel_other (s : Scope capacity n α) {i j : Fin (n + 1)} (h : j ≠ i)
    (f : Channel capacity α → Channel capacity α) :
    (s.modifyChannel i f).channels j = s.channels j := if_neg h

/-- What a change keeps of every channel, changing one of them keeps as well. -/
theorem modifyChannel_keeps {β : Type*} (s : Scope capacity n α) (i : Fin (n + 1))
    {f : Channel capacity α → Channel capacity α} (look : Channel capacity α → β)
    (keeps : ∀ c, look (f c) = look c) (j : Fin (n + 1)) :
    look ((s.modifyChannel i f).channels j) = look (s.channels j) := by
  by_cases h : j = i
  · cases h
    rw [modifyChannel_same, keeps]
  · rw [modifyChannel_other s h]

/-- As long as another channel runs, a stop only stops its own channel. -/
theorem setChannelStopped_of_other {s : Scope capacity n α} {i j : Fin (n + 1)} (other : j ≠ i)
    (running : (s.channels j).state = .running) :
    s.setChannelStopped i = s.modifyChannel i Channel.setStateStopped := by
  rw [setChannelStopped, dif_pos i.isLt]
  dsimp only
  rw [if_neg]
  rw [allChannelsAreStopped_iff]
  intro allStopped
  refine allStopped j ?_
  rw [modifyChannel_other s other]
  exact running

theorem running_of_stopped {s : Scope capacity n α} {i j : Fin (n + 1)}
    (running : ((s.modifyChannel i Channel.setStateStopped).channels j).state = .running) :
    j ≠ i ∧ (s.channels j).state = .running := by
  have other : j ≠ i := by
    rintro rfl
    rw [modifyChannel_same] at running
    exact Channel.not_running_setStateStopped _ running
  rw [modifyChannel_other s other] at running
  exact ⟨other, running⟩

theorem running_started {s : Scope capacity n α} (i : Fin (n + 1)) {j : Fin (n + 1)}
    (running : (s.channels j).state = .running) :
    ((s.modifyChannel i Channel.setStateRunning).channels j).state = .running := by
  by_cases here : j = i
  · rw [here] at running ⊢
    rw [modifyChannel_same]
    exact Channel.configured_setStateRunning _ (.inr running)
  · rw [modifyChannel_other s here]
    exact running

theorem exists_running_of_not_stopped {s : Scope capacity n α}
    (someRuns : ¬ s.allChannelsAreStopped = true) : ∃ j, (s.channels j).state = .running := by
  rw [allChannelsAreStopped_iff, not_forall] at someRuns
  obtain ⟨j, runs⟩ := someRuns
  exact ⟨j, not_not.mp runs⟩

/-- A start of a channel that does not run then, with no other running, starts nothing else. -/
@[elab_as_elim]
theorem setChannelRunning_cases {motive : Scope capacity n α → Prop} (s : Scope capacity n α) (id : Nat)
    (outOfRange : ¬ id < n + 1 → motive s)
    (stillStopped : ∀ inRange : id < n + 1,
      (∀ j, ((s.modifyChannel ⟨id, inRange⟩ Channel.setStateRunning).channels j).state ≠ .running) →
        motive (s.modifyChannel ⟨id, inRange⟩ Channel.setStateRunning))
    (activates : ∀ inRange : id < n + 1,
      let started := s.modifyChannel ⟨id, inRange⟩ Channel.setStateRunning
      (∃ j, (started.channels j).state = .running) → motive { started with
        trigger := Trigger.activate
          { started.trigger with timestamper := started.timestamper.setStateRunning }
        scopeIsReadyToRun := true }) :
    motive (s.setChannelRunning id) := by
  unfold setChannelRunning
  split
  · rename_i inRange
    dsimp only
    split
    · rename_i allStopped
      exact stillStopped inRange ((allChannelsAreStopped_iff _).mp allStopped)
    · rename_i someRuns
      exact activates inRange (exists_running_of_not_stopped someRuns)
  · rename_i outside
    exact outOfRange outside

/-- The stop of the last running channel ends the acquisition. -/
@[elab_as_elim]
theorem setChannelStopped_cases {motive : Scope capacity n α → Prop} (s : Scope capacity n α) (id : Nat)
    (outOfRange : ¬ id < n + 1 → motive s)
    (deactivates : ∀ inRange : id < n + 1,
      let halted := s.modifyChannel ⟨id, inRange⟩ Channel.setStateStopped
      (∀ j, (halted.channels j).state ≠ .running) → motive
        { trigger := Trigger.deactivate
            { halted.trigger with timestamper := halted.timestamper.setStateStopped }
          scopeIsRunning := false
          scopeIsReadyToRun := false })
    (othersRun : ∀ inRange : id < n + 1,
      (∃ j, ((s.modifyChannel ⟨id, inRange⟩ Channel.setStateStopped).channels j).state = .running) →
        motive (s.modifyChannel ⟨id, inRange⟩ Channel.setStateStopped)) :
    motive (s.setChannelStopped id) := by
  unfold setChannelStopped
  split
  · rename_i inRange
    dsimp only
    split
    · rename_i allStopped
      exact deactivates inRange ((allChannelsAreStopped_iff _).mp allStopped)
    · rename_i someRuns
      exact othersRun inRange (exists_running_of_not_stopped someRuns)
  · rename_i outside
    exact outOfRange outside

@[elab_as_elim]
theorem configureChannel_cases {motive : Scope capacity n α → Prop} (s : Scope capacity n α)
    (id pollAddress : Nat) (type : DataTypes) (outOfRange : ¬ id < n + 1 → motive s)
    (configures : ∀ inRange : id < n + 1,
      motive (s.modifyChannel ⟨id, inRange⟩ fun c => c.setPollAddress pollAddress type)) :
    motive (s.configureChannel id pollAddress type) := by
  unfold configureChannel
  split
  · rename_i inRange
    exact configures inRange
  · rename_i outside
    exact outOfRange outside

end Scope

end Core
