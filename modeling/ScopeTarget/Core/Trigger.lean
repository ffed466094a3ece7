import ScopeTarget.Core.Channel
import ScopeTarget.Core.Timestamper

/-! The trigger decides when the poll buffers hold a data set. It shares the
channels and the timestamper with the scope; here the trigger carries them. -/

namespace Core

inductive TriggerMode where
  | normal | continuous | oneshot
  deriving DecidableEq, Repr

/-- The numbers the host sends for the three modes; it may send any other. -/
def TriggerMode.ofCode : Nat → Option TriggerMode
  | 0 => some .normal
  | 1 => some .continuous
  | 2 => some .oneshot
  | _ => none

inductive TriggerStates where
  | idle | detecting | fillup | cleanup | paused
  deriving DecidableEq, Repr

structure TriggerConfiguration (α : Type*) where
  level : α
  edge : Bool
  mode : Nat
  channelId : Nat

/-- Fields that `create` leaves uninitialised are optional; the strategies are
named by the mode that selects them. -/
structure Trigger (capacity n : Nat) (α : Type*) where
  level : Option α
  edge : Option Bool
  triggerIndexPoll : UInt32
  triggerIndexSwap : Option UInt32
  stream : Option (Fin (n + 1))
  activeStrategy : TriggerMode
  activeChannelId : Fin (n + 1)
  channels : Fin (n + 1) → Channel capacity α
  isTriggeredPoll : Bool
  isTriggeredSwap : Bool
  channelIsRunning : Fin (n + 1) → Bool
  state : TriggerStates
  mode : Option TriggerMode
  fillUpPollCount : UInt32
  timestamper : Timestamper capacity

namespace Trigger
variable {capacity n : Nat} {α : Type*}

def activeChannel (t : Trigger capacity n α) : Channel capacity α := t.channels t.activeChannelId

def safeChannelStates (t : Trigger capacity n α) : Trigger capacity n α :=
  { t with
    channelIsRunning := fun i => (t.channels i).isRunning
    timestamper := t.timestamper.setStateRunning }

def restoreChannelStates (t : Trigger capacity n α) : Trigger capacity n α :=
  { t with
    channels := fun i => if t.channelIsRunning i then (t.channels i).setStateRunning else t.channels i
    timestamper := t.timestamper.setStateRunning }

def stopChannelsAndTimestamp (t : Trigger capacity n α) : Trigger capacity n α :=
  { t with
    channels := fun i => (t.channels i).setStateStopped
    timestamper := t.timestamper.setStateStopped }

def resetBuffers (t : Trigger capacity n α) : Trigger capacity n α :=
  { t with
    channels := fun i => (t.channels i).clear
    timestamper := t.timestamper.clear }

def swapAll (t : Trigger capacity n α) : Trigger capacity n α :=
  { t with
    channels := fun i => (t.channels i).swapBuffers
    timestamper := t.timestamper.swapBuffers }

/-- Only the active channel is asked whether it is full, all of them are swapped. -/
def swapBuffers (t : Trigger capacity n α) : Option (Trigger capacity n α) :=
  if t.activeChannel.swapIsPending = false then none
  else if t.timestamper.swapIsPending = false then none
  else some
    { t.swapAll with
      isTriggeredSwap := t.isTriggeredPoll
      triggerIndexSwap := some t.triggerIndexPoll }

def clear (t : Trigger capacity n α) : Trigger capacity n α :=
  { t with isTriggeredPoll := false, triggerIndexPoll := 0, fillUpPollCount := 0 }

def activate (t : Trigger capacity n α) : Trigger capacity n α :=
  (resetBuffers { t.restoreChannelStates with state := .detecting }).clear

def deactivate (t : Trigger capacity n α) : Trigger capacity n α :=
  { t.safeChannelStates.stopChannelsAndTimestamp with state := .idle, fillUpPollCount := 0 }

def create [Zero α] : Trigger capacity n α :=
  deactivate <| clear
    { level := none, edge := none, triggerIndexPoll := 0, triggerIndexSwap := none, stream := none,
      activeStrategy := .continuous, activeChannelId := 0, channels := fun _ => Channel.create,
      isTriggeredPoll := false, isTriggeredSwap := false, channelIsRunning := fun _ => false,
      state := .idle, mode := none, fillUpPollCount := 0, timestamper := Timestamper.create }

section Strategies

def startNever (t : Trigger capacity n α) : Trigger capacity n α := t

def startWhenPaused (t : Trigger capacity n α) : Trigger capacity n α :=
  { t.restoreChannelStates with state := .detecting }

def detectNever (t : Trigger capacity n α) : Trigger capacity n α :=
  { t with isTriggeredPoll := false, state := .fillup }

/-- Reading takes the two samples out of the stream of the configured channel. -/
def getTriggerData (t : Trigger capacity n α) : Option (List α × Trigger capacity n α) :=
  match t.stream with
  | none => none
  | some i =>
      let stream := (t.channels i).stream
      if stream.used ≠ 2 then none
      else
        let taken := stream.read 2
        some (taken.1,
          { t with channels := fun j =>
              if j = i then (t.channels j).withStream taken.2 else t.channels j })

/-- The two samples arrive oldest first. -/
def checkCurrentData [LT α] [DecidableLT α] [BEq α] (t : Trigger capacity n α) :
    List α → Bool
  | [dataLast, dataCurrent] =>
      match t.level, t.edge with
      | some triggerLevel, some configuredEdge =>
          let edge : Bool := dataLast < dataCurrent
          let levelLower := if dataLast < dataCurrent then dataLast else dataCurrent
          let levelHigher := if dataLast < dataCurrent then dataCurrent else dataLast
          if dataCurrent == dataLast then false
          else if edge ≠ configuredEdge then false
          else if triggerLevel < levelLower ∨ levelHigher < triggerLevel then false
          else true
      | _, _ => false
  | _ => false

/-- The active channel has to be at least half full before an edge counts. -/
def detectNormal [LT α] [DecidableLT α] [BEq α] (t : Trigger capacity n α) :
    Trigger capacity n α :=
  if t.activeChannel.getAmountOfUsedPollData < capacity / 2 then t
  else
    match t.getTriggerData with
    | none => t
    | some taken =>
        if taken.2.checkCurrentData taken.1 then
          { taken.2 with
            isTriggeredPoll := true
            triggerIndexPoll := taken.2.timestamper.lastTimestamp
            state := .fillup }
        else { taken.2 with isTriggeredPoll := false }

def fillUpTillChannelFull (t : Trigger capacity n α) : Trigger capacity n α :=
  if t.activeChannel.getAmountOfUsedPollData < capacity then t
  else { t.safeChannelStates with state := .cleanup }

def fillUpIfTriggered (t : Trigger capacity n α) : Trigger capacity n α :=
  let counted := { t with fillUpPollCount := t.fillUpPollCount + 1 }
  if counted.activeChannel.getAmountOfUsedPollData < capacity then counted
  else if counted.fillUpPollCount.toNat < capacity / 2 then counted
  else { counted.safeChannelStates with state := .cleanup }

/-- What `stopIntoPause` and `stopIntoIdle` share. -/
def stopInto (next : TriggerStates) (t : Trigger capacity n α) : Bool × Trigger capacity n α :=
  match t.stopChannelsAndTimestamp.swapBuffers with
  | none => (false, t.stopChannelsAndTimestamp)
  | some swapped => (true, { swapped with state := next, fillUpPollCount := 0 })

def stopIntoPause (t : Trigger capacity n α) : Bool × Trigger capacity n α := t.stopInto .paused

def stopIntoIdle (t : Trigger capacity n α) : Bool × Trigger capacity n α := t.stopInto .idle

def start (t : Trigger capacity n α) : Trigger capacity n α :=
  match t.activeStrategy with
  | .continuous | .normal => t.startWhenPaused
  | .oneshot => t.startNever

def detecting [LT α] [DecidableLT α] [BEq α] (t : Trigger capacity n α) : Trigger capacity n α :=
  match t.activeStrategy with
  | .continuous => t.detectNever
  | .normal | .oneshot => t.detectNormal

def fillUp (t : Trigger capacity n α) : Trigger capacity n α :=
  match t.activeStrategy with
  | .continuous => t.fillUpTillChannelFull
  | .normal | .oneshot => t.fillUpIfTriggered

def stop (t : Trigger capacity n α) : Bool × Trigger capacity n α :=
  match t.activeStrategy with
  | .continuous | .normal => t.stopIntoPause
  | .oneshot => t.stopIntoIdle

end Strategies

/-- The mode and the channel of a configuration that passes the sanity check. -/
def configSanityCheck (conf : TriggerConfiguration α) : Option (TriggerMode × Fin (n + 1)) :=
  match TriggerMode.ofCode conf.mode with
  | none => none
  | some mode => if h : conf.channelId < n + 1 then some (mode, ⟨conf.channelId, h⟩) else none

def writeConfig (t : Trigger capacity n α) (conf : TriggerConfiguration α) (mode : TriggerMode)
    (channelId : Fin (n + 1)) : Trigger capacity n α :=
  { t with
    level := some conf.level
    edge := some conf.edge
    mode := some mode
    stream := some channelId
    activeStrategy := mode
    activeChannelId := channelId }

def configure (t : Trigger capacity n α) (conf : TriggerConfiguration α) : Trigger capacity n α :=
  match configSanityCheck conf with
  | none => t
  | some (mode, channelId) => t.writeConfig conf mode channelId

/-- True when a data set has been handed over to the swap buffers. -/
def run [LT α] [DecidableLT α] [BEq α] (t : Trigger capacity n α) : Bool × Trigger capacity n α :=
  match t.state with
  | .idle => (false, t)
  | .paused => (false, t.start.clear)
  | .detecting => (false, t.detecting)
  | .fillup => (false, t.fillUp)
  | .cleanup => t.stop

theorem pollBuffer_restoreChannelStates (t : Trigger capacity n α) (i : Fin (n + 1)) :
    (t.restoreChannelStates.channels i).pollBuffer = (t.channels i).pollBuffer := by
  dsimp only [restoreChannelStates]
  split
  · exact Channel.pollBuffer_setStateRunning _
  · rfl

/-- Two triggers that agree on everything a data set depends on: they may differ
in the trigger streams, the trigger flags and the fill-up counter. -/
structure SameData (t t' : Trigger capacity n α) : Prop where
  state : ∀ i, (t'.channels i).state = (t.channels i).state
  pollBuffer : ∀ i, (t'.channels i).pollBuffer = (t.channels i).pollBuffer
  swapBuffer : ∀ i, (t'.channels i).swapBuffer = (t.channels i).swapBuffer
  stamping : t'.timestamper.state = t.timestamper.state
  stampsPolled : t'.timestamper.pollBuffer = t.timestamper.pollBuffer
  stampsSwapped : t'.timestamper.swapBuffer = t.timestamper.swapBuffer
  flags : t'.channelIsRunning = t.channelIsRunning
  activeChannelId : t'.activeChannelId = t.activeChannelId
  activeStrategy : t'.activeStrategy = t.activeStrategy

theorem SameData.of_channels {t t' : Trigger capacity n α} (channels : t'.channels = t.channels)
    (timestamper : t'.timestamper = t.timestamper)
    (flags : t'.channelIsRunning = t.channelIsRunning)
    (activeChannelId : t'.activeChannelId = t.activeChannelId)
    (activeStrategy : t'.activeStrategy = t.activeStrategy) : SameData t t' where
  state i := by rw [channels]
  pollBuffer i := by rw [channels]
  swapBuffer i := by rw [channels]
  stamping := by rw [timestamper]
  stampsPolled := by rw [timestamper]
  stampsSwapped := by rw [timestamper]
  flags := flags
  activeChannelId := activeChannelId
  activeStrategy := activeStrategy

theorem SameData.refl (t : Trigger capacity n α) : SameData t t := .of_channels rfl rfl rfl rfl rfl

theorem sameData_clear (t : Trigger capacity n α) : SameData t t.clear :=
  .of_channels rfl rfl rfl rfl rfl

theorem sameData_getTriggerData {t : Trigger capacity n α}
    {taken : List α × Trigger capacity n α} (h : t.getTriggerData = some taken) :
    SameData t taken.2 ∧ taken.2.state = t.state := by
  unfold getTriggerData at h
  cases configured : t.stream with
  | none => rw [configured] at h; cases h
  | some i =>
      rw [configured] at h
      dsimp only at h
      by_cases two : (t.channels i).stream.used ≠ 2
      · rw [if_pos two] at h
        cases h
      · rw [if_neg two] at h
        cases h
        refine ⟨⟨?_, ?_, ?_, rfl, rfl, rfl, rfl, rfl, rfl⟩, rfl⟩
        · intro j
          dsimp only
          split <;> rfl
        · intro j
          dsimp only
          split <;> rfl
        · intro j
          dsimp only
          split <;> rfl

section Outcomes
variable [LT α] [DecidableLT α] [BEq α]

theorem detectNormal_outcome (t : Trigger capacity n α) :
    SameData t t.detectNormal ∧ (t.detectNormal.state = t.state ∨ t.detectNormal.state = .fillup) := by
  unfold detectNormal
  split
  · exact ⟨SameData.refl t, .inl rfl⟩
  · cases data : t.getTriggerData with
    | none => exact ⟨SameData.refl t, .inl rfl⟩
    | some taken =>
        obtain ⟨same, state⟩ := sameData_getTriggerData data
        dsimp only
        split
        · exact ⟨{ same with }, .inr rfl⟩
        · exact ⟨{ same with }, .inl state⟩

theorem detecting_outcome (t : Trigger capacity n α) :
    SameData t t.detecting ∧ (t.detecting.state = t.state ∨ t.detecting.state = .fillup) := by
  unfold detecting
  cases t.activeStrategy with
  | continuous =>
      exact ⟨.of_channels rfl rfl rfl rfl rfl, .inr rfl⟩
  | normal => exact t.detectNormal_outcome
  | oneshot => exact t.detectNormal_outcome

end Outcomes

/-- Filling up either goes on or ends with a full active channel. -/
inductive FilledUp (t : Trigger capacity n α) : Trigger capacity n α → Prop
  | goesOn {t'} (same : SameData t t') (state : t'.state = t.state) : FilledUp t t'
  | ends {t'} (full : t.activeChannel.pollBuffer.Full) (same : SameData t.safeChannelStates t')
      (state : t'.state = .cleanup) : FilledUp t t'

theorem full_of_not_lt {t : Trigger capacity n α}
    (h : ¬ t.activeChannel.getAmountOfUsedPollData < capacity) : t.activeChannel.pollBuffer.Full :=
  Nat.le_antisymm (Fifo.used_le _) (Nat.not_lt.mp h)

theorem fillUp_outcome (t : Trigger capacity n α) : FilledUp t t.fillUp := by
  have counting : FilledUp t t.fillUpIfTriggered := by
    unfold fillUpIfTriggered
    dsimp only
    split
    · exact .goesOn (.of_channels rfl rfl rfl rfl rfl) rfl
    · rename_i full
      split
      · exact .goesOn (.of_channels rfl rfl rfl rfl rfl) rfl
      · exact .ends (full_of_not_lt full) (.of_channels rfl rfl rfl rfl rfl) rfl
  unfold fillUp
  cases t.activeStrategy with
  | normal => exact counting
  | oneshot => exact counting
  | continuous =>
      change FilledUp t t.fillUpTillChannelFull
      unfold fillUpTillChannelFull
      split
      · exact .goesOn (.of_channels rfl rfl rfl rfl rfl) rfl
      · rename_i full
        exact .ends (full_of_not_lt full) (.of_channels rfl rfl rfl rfl rfl) rfl

/-- The buffers of both the active channel and the timestamper are ready to be swapped. -/
def SwapIsPending (t : Trigger capacity n α) : Prop :=
  t.activeChannel.swapIsPending = true ∧ t.timestamper.swapIsPending = true

instance (t : Trigger capacity n α) : Decidable t.SwapIsPending := inferInstanceAs (Decidable (_ ∧ _))

/-- Stopping always stops the channels; the buffers are swapped when that is pending. -/
inductive Stopped (t : Trigger capacity n α) : Bool × Trigger capacity n α → Prop
  | waits (pending : ¬ t.SwapIsPending) : Stopped t (false, t.stopChannelsAndTimestamp)
  | handsOver {t'} (pending : t.SwapIsPending)
      (same : SameData t.stopChannelsAndTimestamp.swapAll t')
      (into : t'.state = if t.activeStrategy = .oneshot then .idle else .paused) :
      Stopped t (true, t')

theorem swapIsPending_stopped (t : Trigger capacity n α) :
    t.stopChannelsAndTimestamp.SwapIsPending ↔ t.SwapIsPending := by
  unfold SwapIsPending
  rw [Channel.swapIsPending_iff, Channel.swapIsPending_iff, Timestamper.swapIsPending_iff,
    Timestamper.swapIsPending_iff]
  unfold activeChannel stopChannelsAndTimestamp
  simp only [Channel.pollBuffer_setStateStopped, Channel.swapBuffer_setStateStopped]
  exact Iff.rfl

theorem swapBuffers_of_pending {t : Trigger capacity n α} (h : t.SwapIsPending) :
    t.swapBuffers = some
      { t.swapAll with
        isTriggeredSwap := t.isTriggeredPoll
        triggerIndexSwap := some t.triggerIndexPoll } := by
  simp only [swapBuffers, h.1, h.2, Bool.true_eq_false, if_false]

theorem swapBuffers_of_not_pending {t : Trigger capacity n α} (h : ¬ t.SwapIsPending) :
    t.swapBuffers = none := by
  unfold swapBuffers
  split
  · rfl
  · rename_i active
    split
    · rfl
    · rename_i stamps
      exact absurd ⟨Bool.not_eq_false _ ▸ active, Bool.not_eq_false _ ▸ stamps⟩ h

theorem stop_outcome (t : Trigger capacity n α) : Stopped t t.stop := by
  have into (next : TriggerStates)
      (state : next = if t.activeStrategy = .oneshot then .idle else .paused) :
      Stopped t (t.stopInto next) := by
    unfold stopInto
    by_cases pending : t.SwapIsPending
    · rw [swapBuffers_of_pending (t.swapIsPending_stopped.mpr pending)]
      exact .handsOver pending (.of_channels rfl rfl rfl rfl rfl) state
    · rw [swapBuffers_of_not_pending (fun h => pending (t.swapIsPending_stopped.mp h))]
      exact .waits pending
  unfold stop
  cases strategy : t.activeStrategy with
  | continuous => exact into .paused (by rw [strategy]; rfl)
  | normal => exact into .paused (by rw [strategy]; rfl)
  | oneshot => exact into .idle (by rw [strategy]; rfl)

end Trigger

end Core
