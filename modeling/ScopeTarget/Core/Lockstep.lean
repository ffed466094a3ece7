import ScopeTarget.Core.Invariants

/-! A channel that runs has recorded a sample for every stamp that is still there.
The swap buffers, from which the packer reads as much as it likes, do not count. -/

namespace Core

/-- An operation, or a partial read of one of the swap buffers. -/
inductive ScopeEvent (n : Nat) (α : Type*) where
  | operation (op : Operation α)
  | readSwap (i : Fin (n + 1)) (amount : Nat)
  | readStamps (amount : Nat)

namespace Channel
variable {capacity : Nat} {α : Type*}

def readSwap (c : Channel capacity α) (amount : Nat) : Channel capacity α :=
  { c with swapBuffer := (c.swapBuffer.read amount).2 }

end Channel

namespace Trigger
variable {capacity n : Nat} {α : Type*}

/-- While the acquisition is paused nothing is left of the stamps. -/
structure InStep (phase : TriggerStates) (t : Trigger capacity n α) : Prop where
  equal : ∀ i, (t.channels i).state = .running →
    (t.channels i).pollBuffer.used = t.timestamper.pollBuffer.used
  cleared : phase = .paused → t.timestamper.pollBuffer.used = 0

namespace InStep
variable {ready : Bool} {phase : TriggerStates} {t t' : Trigger capacity n α}

theorem same (same : SameData t t') (inStep : InStep phase t) : InStep phase t' where
  equal i running := by
    rw [same.state] at running
    rw [same.pollBuffer, same.stampsPolled]
    exact inStep.equal i running
  cleared paused := by
    rw [same.stampsPolled]
    exact inStep.cleared paused

/-- Where no channel runs, only the stamps have to be looked at. -/
theorem of_still (still : ∀ i, (t.channels i).state ≠ .running)
    (cleared : phase = .paused → t.timestamper.pollBuffer.used = 0) : InStep phase t :=
  ⟨fun i running => absurd running (still i), cleared⟩

theorem of_empty (samples : ∀ i, (t.channels i).pollBuffer.used = 0)
    (stamps : t.timestamper.pollBuffer.used = 0) : InStep phase t :=
  ⟨fun i _ => (samples i).trans stamps.symm, fun _ => stamps⟩

/-- Channels may stop or be given an address at any time. -/
theorem quieter (inStep : InStep phase t) {channels : Fin (n + 1) → Channel capacity α}
    (running : ∀ i, (channels i).state = .running → (t.channels i).state = .running)
    (buffer : ∀ i, (channels i).pollBuffer = (t.channels i).pollBuffer) :
    InStep phase { t with channels := channels } where
  equal i h := (congrArg Fifo.used (buffer i)).trans (inStep.equal i (running i h))
  cleared := inStep.cleared

theorem other {phase' : TriggerStates} (inStep : InStep phase t) (awake : phase' ≠ .paused) :
    InStep phase' t :=
  ⟨inStep.equal, fun paused => absurd paused awake⟩

/-- Whatever is started when everything is empty is in step with the stamps. -/
theorem restore (samples : ∀ i, (t.channels i).pollBuffer.used = 0)
    (stamps : t.timestamper.pollBuffer.used = 0) : InStep phase t.restoreChannelStates := by
  refine of_empty (fun i => ?_) stamps
  rw [pollBuffer_restoreChannelStates]
  exact samples i

theorem still_stopChannelsAndTimestamp (t : Trigger capacity n α) (i : Fin (n + 1)) :
    (t.stopChannelsAndTimestamp.channels i).state ≠ .running :=
  (t.channels i).not_running_setStateStopped

theorem ran {r : Bool × Trigger capacity n α} (sound : Sound ready t.state t)
    (inStep : InStep t.state t) (ran : Ran t r) : InStep r.2.state r.2 := by
  cases ran with
  | idles => exact inStep
  | resumes origin strategy same into =>
      have samples := (sound.resting origin).2
      exact (restore samples (inStep.cleared origin)).same same
  | staysPaused origin same into =>
      rw [origin] at inStep
      rw [into]
      exact inStep.same same
  | detects origin same into =>
      refine (inStep.other ?_).same same
      rcases into with into | into
      · rw [into]
        decide
      · rw [into]
        decide
  | fills origin same into =>
      rw [into]
      exact (inStep.other (by decide)).same same
  | filled origin full same into =>
      have saved : InStep t.state t.safeChannelStates := { inStep with }
      rw [into]
      exact (saved.other (by decide)).same same
  | stops origin stopped =>
      cases stopped with
      | waits =>
          refine of_still (still_stopChannelsAndTimestamp t) fun paused => ?_
          have cleanup : t.state = .paused := paused
          rw [origin] at cleanup
          cases cleanup
      | handsOver pending same into =>
          refine InStep.same same ?_
          exact of_still (still_stopChannelsAndTimestamp t) fun _ => rfl

end InStep

theorem inStep_activate (t : Trigger capacity n α) : InStep .detecting t.activate :=
  .of_empty (fun _ => rfl) rfl

theorem inStep_deactivate (t : Trigger capacity n α) : InStep .idle t.deactivate :=
  .of_still (InStep.still_stopChannelsAndTimestamp t.safeChannelStates) nofun

end Trigger

namespace Scope
variable {capacity n : Nat} {α : Type*}

def readSwap (s : Scope capacity n α) (i : Fin (n + 1)) (amount : Nat) : Scope capacity n α :=
  s.modifyChannel i fun c => c.readSwap amount

def readStamps (s : Scope capacity n α) (amount : Nat) : Scope capacity n α :=
  { s with trigger := { s.trigger with
      timestamper := { s.timestamper with swapBuffer := (s.timestamper.swapBuffer.read amount).2 } } }

def InStep (s : Scope capacity n α) : Prop := s.trigger.InStep s.trigger.state

theorem inStep_create [Zero α] : (create : Scope capacity n α).InStep := Trigger.inStep_deactivate _

theorem inStep_sample (overflow : Overflow) {s : Scope capacity n α} (now : UInt32) (memory : Memory α)
    (sound : s.Sound) (inStep : s.InStep) : (s.sample overflow now memory).InStep s.trigger.state where
  equal i h := by
    have running : (s.channels i).state = .running := (Channel.state_poll _ memory).symm.trans h
    have stamping : s.timestamper.state = .running := sound.stamped i running
    have equal : (s.channels i).pollBuffer.used = s.timestamper.pollBuffer.used := inStep.equal i running
    dsimp only [sample]
    rw [Channel.used_poll_of_running memory running, Timestamper.used_stamp, if_pos stamping, equal]
  cleared paused := by
    have stopped : s.timestamper.state = .stopped := (sound.resting paused).1
    dsimp only [sample]
    rw [Timestamper.stamp_of_stopped stopped]
    exact inStep.cleared paused

theorem InStep.modifyChannel {s : Scope capacity n α} (inStep : s.InStep) (i : Fin (n + 1))
    {f : Channel capacity α → Channel capacity α}
    (running : ((s.modifyChannel i f).channels i).state = .running → (s.channels i).state = .running)
    (buffer : ∀ c, (f c).pollBuffer = c.pollBuffer) : (s.modifyChannel i f).InStep := by
  refine Trigger.InStep.quieter inStep ?_ fun j => s.modifyChannel_keeps i Channel.pollBuffer buffer j
  intro j h
  by_cases eq : j = i
  · cases eq
    exact running h
  · rw [if_neg eq] at h
    exact h

theorem inStep_setChannelRunning {s : Scope capacity n α} (inStep : s.InStep) (id : Nat) :
    (s.setChannelRunning id).InStep := by
  refine setChannelRunning_cases s id (fun _ => inStep) (fun inRange allStopped => ?_) fun _ _ => ?_
  · exact inStep.modifyChannel _ (fun h => absurd h (allStopped _)) fun c => c.pollBuffer_setStateRunning
  · exact Trigger.inStep_activate _

theorem inStep_setChannelStopped {s : Scope capacity n α} (inStep : s.InStep) (id : Nat) :
    (s.setChannelStopped id).InStep := by
  refine setChannelStopped_cases s id (fun _ => inStep) (fun _ _ => ?_) fun inRange _ => ?_
  · exact Trigger.inStep_deactivate _
  · refine inStep.modifyChannel _ ?_ fun c => c.pollBuffer_setStateStopped
    intro h
    exact absurd rfl (running_of_stopped h).1

theorem inStep_configureChannel {s : Scope capacity n α} (inStep : s.InStep) (id address : Nat)
    (type : DataTypes) : (s.configureChannel id address type).InStep := by
  refine configureChannel_cases s id address type (fun _ => inStep) fun inRange => ?_
  refine inStep.modifyChannel _ ?_ fun _ => rfl
  intro h
  rw [modifyChannel_same] at h
  exact (Channel.running_setPollAddress _).mp h

theorem inStep_configureTrigger {s : Scope capacity n α} (inStep : s.InStep)
    (conf : TriggerConfiguration α) : (s.configureTrigger conf).InStep := by
  unfold configureTrigger Trigger.configure
  cases Trigger.configSanityCheck conf with
  | none => exact inStep
  | some checked => exact { inStep with }

theorem inStep_pack {s : Scope capacity n α} (inStep : s.InStep) :
    (Control.CommandPackData.run s).2.InStep := by
  have drained : Trigger.InStep s.trigger.state
      { s.trigger with channels := (Control.CommandPackData.drain s).channels } := by
    refine Trigger.InStep.quieter inStep ?_ fun i => Control.CommandPackData.pollBuffer_drain s i
    intro i h
    rw [Control.CommandPackData.state_drain] at h
    exact h
  exact Control.CommandPackData.run_cases s (fun _ => inStep) { drained with }

section Step
variable [LT α] [DecidableLT α] [BEq α]

theorem inStep_poll {overflow : Overflow} {s : Scope capacity n α} {now : UInt32} {memory : Memory α}
    (sound : s.Sound) (inStep : s.InStep) : (s.poll overflow now memory).2.InStep := by
  obtain ⟨-, ⟨-, -, trigger⟩ | ⟨-, ran⟩⟩ := s.poll_outcome overflow now memory
  · rw [InStep, trigger]
    exact inStep
  · have before := sound_sample overflow now memory sound
    exact Trigger.InStep.ran before (inStep_sample overflow now memory sound inStep) ran

theorem inStep_step (overflow : Overflow) {s : Scope capacity n α} (op : Operation α) (sound : s.Sound)
    (inStep : s.InStep) : (s.step overflow op).InStep := by
  cases op with
  | poll now memory => exact inStep_poll sound inStep
  | configureChannel i address type => exact inStep_configureChannel inStep i address type
  | configureTrigger conf => exact inStep_configureTrigger inStep conf
  | configureTimestampIncrement increment => exact { inStep with }
  | setChannelRunning i => exact inStep_setChannelRunning inStep i
  | setChannelStopped i => exact inStep_setChannelStopped inStep i
  | clear => exact Trigger.InStep.of_empty (fun _ => rfl) rfl
  | pack => exact inStep_pack inStep

def drainStep (overflow : Overflow) (s : Scope capacity n α) : ScopeEvent n α → Scope capacity n α
  | .operation op => s.step overflow op
  | .readSwap i amount => s.readSwap i amount
  | .readStamps amount => s.readStamps amount

theorem sound_drainStep (overflow : Overflow) {s : Scope capacity n α} (event : ScopeEvent n α)
    (sound : s.Sound) : (s.drainStep overflow event).Sound := by
  cases event with
  | operation op => exact sound_step overflow op sound
  | readSwap i amount =>
      refine sound.modifyChannel i (fun h => ?_) (fun _ => rfl) fun _ configured => configured
      rw [modifyChannel_same] at h
      exact h
  | readStamps amount => exact { sound with }

theorem inStep_drainStep (overflow : Overflow) {s : Scope capacity n α} (event : ScopeEvent n α)
    (sound : s.Sound) (inStep : s.InStep) : (s.drainStep overflow event).InStep := by
  cases event with
  | operation op => exact inStep_step overflow op sound inStep
  | readSwap i amount =>
      refine inStep.modifyChannel i (fun h => ?_) fun _ => rfl
      rw [modifyChannel_same] at h
      exact h
  | readStamps amount => exact { inStep with }

theorem inStep_of_run [Zero α] (overflow : Overflow) (events : List (ScopeEvent n α)) :
    (Run.exec (drainStep overflow) (create : Scope capacity n α) events).InStep := by
  have preserved : ∀ (s : Scope capacity n α) (event : ScopeEvent n α), s.Sound ∧ s.InStep →
      (s.drainStep overflow event).Sound ∧ (s.drainStep overflow event).InStep := by
    intro s event both
    exact ⟨sound_drainStep overflow event both.1, inStep_drainStep overflow event both.1 both.2⟩
  exact (Run.exec_invariant _ preserved ⟨sound_create, inStep_create⟩ events).2

/-- Every running channel has as many samples in its poll buffer as there are stamps, so
that a full one that is monitored comes with a full timestamper. -/
theorem lockstep [Zero α] (overflow : Overflow) (events : List (ScopeEvent n α)) :
    let s : Scope capacity n α := Run.exec (drainStep overflow) create events
    (∀ i, (s.channels i).state = .running →
        (s.channels i).pollBuffer.used = s.timestamper.pollBuffer.used) ∧
      (s.trigger.activeChannel.state = .running → s.trigger.activeChannel.pollBuffer.Full →
        s.timestamper.pollBuffer.Full) := by
  intro s
  have inStep : s.InStep := inStep_of_run overflow events
  refine ⟨inStep.equal, fun running full => ?_⟩
  exact (inStep.equal s.trigger.activeChannelId running).symm.trans full

end Step

end Scope

end Core
