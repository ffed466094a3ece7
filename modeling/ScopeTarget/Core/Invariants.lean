import ScopeTarget.Core.Operations

/-! What holds of the scope in every reachable state, whatever the operations. -/

namespace Core

namespace Trigger
variable {capacity n : Nat} {α : Type*}

/-- The invariants speak of the phase the trigger is in or about to enter. -/
structure Sound (ready : Bool) (phase : TriggerStates) (t : Trigger capacity n α) : Prop where
  stamped : ∀ i, (t.channels i).state = .running → t.timestamper.state = .running
  working : phase = .detecting ∨ phase = .fillup → t.timestamper.state = .running
  ready : phase ≠ .idle → ready = true
  resting : phase = .paused →
    t.timestamper.state = .stopped ∧ ∀ i, (t.channels i).pollBuffer.used = 0
  counted : ∀ i, (t.channels i).pollBuffer.used ≤ t.timestamper.pollBuffer.used
  flagged : ∀ i, t.channelIsRunning i = true → (t.channels i).Configured

namespace Sound
variable {ready : Bool} {phase : TriggerStates} {t t' : Trigger capacity n α}

theorem same (same : SameData t t') (sound : Sound ready phase t) : Sound ready phase t' where
  stamped i h := by
    rw [same.stamping]
    rw [same.state] at h
    exact sound.stamped i h
  working h := by
    rw [same.stamping]
    exact sound.working h
  ready := sound.ready
  resting h := by
    obtain ⟨stopped, empty⟩ := sound.resting h
    refine ⟨by rw [same.stamping]; exact stopped, fun i => ?_⟩
    rw [same.pollBuffer]
    exact empty i
  counted i := by
    rw [same.pollBuffer, same.stampsPolled]
    exact sound.counted i
  flagged i h := by
    rw [same.flags] at h
    rw [Channel.Configured, same.state]
    exact sound.flagged i h

/-- Channels may stop, lose samples or be given an address at any time. -/
theorem quieter (sound : Sound ready phase t) {channels : Fin (n + 1) → Channel capacity α}
    (running : ∀ i, (channels i).state = .running → (t.channels i).state = .running)
    (fewer : ∀ i, (channels i).pollBuffer.used ≤ (t.channels i).pollBuffer.used)
    (configured : ∀ i, (t.channels i).Configured → (channels i).Configured) :
    Sound ready phase { t with channels := channels } where
  stamped i h := sound.stamped i (running i h)
  working := sound.working
  ready := sound.ready
  resting h := by
    obtain ⟨stopped, empty⟩ := sound.resting h
    exact ⟨stopped, fun i => Nat.le_zero.mp (Nat.le_trans (fewer i) (Nat.le_of_eq (empty i)))⟩
  counted i := Nat.le_trans (fewer i) (sound.counted i)
  flagged i h := configured i (sound.flagged i h)

/-- A trigger that is filling up keeps what a detecting one does. -/
theorem detects (sound : Sound ready .detecting t) : Sound ready .fillup t where
  stamped := sound.stamped
  working _ := sound.working (.inl rfl)
  ready _ := sound.ready (by decide)
  resting h := by cases h
  counted := sound.counted
  flagged := sound.flagged

theorem restore (awake : ready = true)
    (counted : ∀ i, (t.channels i).pollBuffer.used ≤ t.timestamper.pollBuffer.used)
    (flagged : ∀ i, t.channelIsRunning i = true → (t.channels i).Configured) :
    Sound ready .detecting t.restoreChannelStates where
  stamped _ _ := rfl
  working _ := rfl
  ready _ := awake
  resting h := by cases h
  counted i := by
    refine Nat.le_trans (Nat.le_of_eq ?_) (counted i)
    dsimp only [restoreChannelStates]
    split
    · rw [Channel.pollBuffer_setStateRunning]
    · rfl
  flagged i h := by
    dsimp only [restoreChannelStates] at h ⊢
    rw [if_pos h]
    exact ((t.channels i).configured_of_setStateRunning).mpr (flagged i h)

theorem safe (sound : Sound ready .fillup t) : Sound ready .cleanup t.safeChannelStates where
  stamped _ _ := rfl
  working _ := rfl
  ready _ := sound.ready (by decide)
  resting h := by cases h
  counted := sound.counted
  flagged i h := .inr ((t.channels i).isRunning_iff.mp h)

/-- With every channel stopped, nothing but the buffers is left to speak of. -/
theorem stopped (halted : phase = .idle ∨ phase = .cleanup) (awake : phase ≠ .idle → ready = true)
    (counted : ∀ i, (t.channels i).pollBuffer.used ≤ t.timestamper.pollBuffer.used)
    (flagged : ∀ i, t.channelIsRunning i = true → (t.channels i).Configured) :
    Sound ready phase t.stopChannelsAndTimestamp where
  stamped i h := absurd h (t.channels i).not_running_setStateStopped
  working h := by rcases halted with rfl | rfl <;> rcases h with h | h <;> cases h
  ready := awake
  resting h := by rcases halted with rfl | rfl <;> cases h
  counted i := by
    refine Nat.le_trans (Nat.le_of_eq ?_) (counted i)
    exact congrArg Fifo.used (t.channels i).pollBuffer_setStateStopped
  flagged i h := ((t.channels i).configured_of_setStateStopped).mpr (flagged i h)

theorem handedOver (sound : Sound ready .cleanup t) (next : phase = .idle ∨ phase = .paused) :
    Sound ready phase t.stopChannelsAndTimestamp.swapAll where
  stamped i h := absurd h (t.channels i).not_running_setStateStopped
  working h := by rcases next with rfl | rfl <;> rcases h with h | h <;> cases h
  ready _ := sound.ready (by decide)
  resting _ := ⟨rfl, fun _ => rfl⟩
  counted _ := Nat.le_refl 0
  flagged i h := ((t.channels i).configured_of_setStateStopped).mpr (sound.flagged i h)

theorem resetBuffers (sound : Sound ready phase t) : Sound ready phase t.resetBuffers where
  stamped := sound.stamped
  working := sound.working
  ready := sound.ready
  resting h := ⟨(sound.resting h).1, fun _ => rfl⟩
  counted _ := Nat.le_refl 0
  flagged := sound.flagged

theorem ran {r : Bool × Trigger capacity n α} (sound : Sound ready t.state t) (ran : Ran t r) :
    Sound ready r.2.state r.2 := by
  cases ran with
  | idles => exact sound
  | resumes origin strategy same into =>
      rw [origin] at sound
      rw [into]
      exact (restore (sound.ready (by decide)) sound.counted sound.flagged).same same
  | staysPaused origin same into =>
      rw [origin] at sound
      rw [into]
      exact sound.same same
  | detects origin same into =>
      rw [origin] at sound
      rcases into with into | into
      · rw [into]
        exact sound.same same
      · rw [into]
        exact sound.detects.same same
  | fills origin same into =>
      rw [origin] at sound
      rw [into]
      exact sound.same same
  | filled origin full same into =>
      rw [origin] at sound
      rw [into]
      exact sound.safe.same same
  | stops origin stopped =>
      rw [origin] at sound
      cases stopped with
      | waits =>
          have awake : ready = true := sound.ready (by decide)
          exact origin ▸ Sound.stopped (.inr rfl) (fun _ => awake) sound.counted sound.flagged
      | handsOver pending same into =>
          refine (handedOver sound ?_).same same
          rw [into]
          split
          · exact .inl rfl
          · exact .inr rfl

end Sound

theorem sound_activate {ready : Bool} {t : Trigger capacity n α} (awake : ready = true)
    (counted : ∀ i, (t.channels i).pollBuffer.used ≤ t.timestamper.pollBuffer.used)
    (flagged : ∀ i, t.channelIsRunning i = true → (t.channels i).Configured) :
    Sound ready .detecting t.activate := by
  have reset := (Sound.restore awake counted flagged).resetBuffers
  exact { reset with }

theorem sound_deactivate {ready : Bool} {t : Trigger capacity n α}
    (counted : ∀ i, (t.channels i).pollBuffer.used ≤ t.timestamper.pollBuffer.used) :
    Sound ready .idle t.deactivate := by
  have halted : Sound ready .idle t.safeChannelStates.stopChannelsAndTimestamp :=
    Sound.stopped (.inl rfl) (fun h => absurd rfl h) counted
      fun i h => .inr ((t.channels i).isRunning_iff.mp h)
  exact { halted with }

end Trigger

namespace Scope
variable {capacity n : Nat} {α : Type*}

def Sound (s : Scope capacity n α) : Prop := s.trigger.Sound s.scopeIsReadyToRun s.trigger.state

theorem sound_create [Zero α] : (create : Scope capacity n α).Sound :=
  Trigger.sound_deactivate fun _ => Nat.le_refl 0

theorem sound_sample (overflow : Overflow) {s : Scope capacity n α} (now : UInt32)
    (memory : Memory α) (sound : s.Sound) :
    (s.sample overflow now memory).Sound s.scopeIsReadyToRun s.trigger.state where
  stamped i h := sound.stamped i ((Channel.state_poll _ memory).symm.trans h)
  working := sound.working
  ready := sound.ready
  resting h := by
    obtain ⟨stopped, empty⟩ := sound.resting h
    refine ⟨stopped, fun i => ?_⟩
    have still : (s.channels i).state ≠ .running := by
      intro running
      have := sound.stamped i running
      rw [stopped] at this
      cases this
    dsimp only [sample]
    rw [Channel.poll_of_not_running memory still]
    exact empty i
  counted i := by
    have count := sound.counted i
    have bound := s.timestamper.pollBuffer.used_le
    dsimp only [sample]
    rw [Timestamper.used_stamp]
    by_cases running : (s.channels i).state = .running
    · have stamping : s.timestamper.state = .running := sound.stamped i running
      rw [Channel.used_poll_of_running memory running, if_pos stamping]
      exact min_le_min_left capacity (Nat.succ_le_succ count)
    · rw [Channel.poll_of_not_running memory running]
      refine Nat.le_trans count ?_
      split
      · exact Nat.le_min.mpr ⟨bound, Nat.le_succ _⟩
      · exact Nat.le_refl _
  flagged i h := by
    have configured := sound.flagged i h
    rw [Channel.Configured] at configured ⊢
    dsimp only [sample]
    rw [Channel.state_poll]
    exact configured

theorem Sound.withReady {s s' : Scope capacity n α} (sound : s.Sound)
    (trigger : s'.trigger = s.trigger) (ready : s'.scopeIsReadyToRun = s.scopeIsReadyToRun) :
    s'.Sound := by
  rw [Sound, trigger, ready]
  exact sound

theorem Sound.modifyChannel {s : Scope capacity n α} (sound : s.Sound) (i : Fin (n + 1))
    {f : Channel capacity α → Channel capacity α}
    (running : ((s.modifyChannel i f).channels i).state = .running → (s.channels i).state = .running)
    (buffer : ∀ c, (f c).pollBuffer = c.pollBuffer)
    (configured : ∀ c : Channel capacity α, c.Configured → (f c).Configured) :
    (s.modifyChannel i f).Sound := by
  refine Trigger.Sound.quieter sound ?_ ?_ ?_
  · intro j h
    by_cases eq : j = i
    · cases eq
      exact running h
    · rw [if_neg eq] at h
      exact h
  · intro j
    exact Nat.le_of_eq (congrArg Fifo.used (s.modifyChannel_keeps i Channel.pollBuffer buffer j))
  · intro j h
    split
    · exact configured _ h
    · exact h

theorem sound_setChannelRunning {s : Scope capacity n α} (sound : s.Sound) (id : Nat) :
    (s.setChannelRunning id).Sound := by
  refine setChannelRunning_cases s id (fun _ => sound) (fun inRange allStopped => ?_) fun inRange _ => ?_
  · exact sound.modifyChannel _ (fun h => absurd h (allStopped _))
      (fun c => c.pollBuffer_setStateRunning) fun c => c.configured_of_setStateRunning.mpr
  · refine Trigger.sound_activate rfl ?_ ?_
    · intro i
      refine Nat.le_trans (Nat.le_of_eq ?_) (sound.counted i)
      exact congrArg Fifo.used
        (s.modifyChannel_keeps _ Channel.pollBuffer (fun c => c.pollBuffer_setStateRunning) i)
    · intro i h
      have configured := sound.flagged i h
      dsimp only [modifyChannel]
      split
      · exact (Channel.configured_of_setStateRunning _).mpr configured
      · exact configured

theorem sound_setChannelStopped {s : Scope capacity n α} (sound : s.Sound) (id : Nat) :
    (s.setChannelStopped id).Sound := by
  refine setChannelStopped_cases s id (fun _ => sound) (fun inRange _ => ?_) fun inRange _ => ?_
  · refine Trigger.sound_deactivate fun i => ?_
    refine Nat.le_trans (Nat.le_of_eq ?_) (sound.counted i)
    exact congrArg Fifo.used
      (s.modifyChannel_keeps _ Channel.pollBuffer (fun c => c.pollBuffer_setStateStopped) i)
  · refine sound.modifyChannel _ ?_ (fun c => c.pollBuffer_setStateStopped)
      fun c => c.configured_of_setStateStopped.mpr
    intro h
    exact absurd rfl (running_of_stopped h).1

theorem sound_pack {s : Scope capacity n α} (sound : s.Sound) :
    (Control.CommandPackData.run s).2.Sound := by
  have drained : Trigger.Sound s.scopeIsReadyToRun s.trigger.state
      { s.trigger with channels := (Control.CommandPackData.drain s).channels } := by
    refine Trigger.Sound.quieter sound ?_ ?_ ?_
    · intro i
      rw [Control.CommandPackData.state_drain]
      exact id
    · intro i
      rw [Control.CommandPackData.pollBuffer_drain]
      exact Nat.le_refl _
    · intro i h
      rw [Channel.Configured, Control.CommandPackData.state_drain]
      exact h
  exact Control.CommandPackData.run_cases s (fun _ => sound) { drained with }

theorem sound_configureChannel {s : Scope capacity n α} (sound : s.Sound) (id address : Nat)
    (type : DataTypes) : (s.configureChannel id address type).Sound := by
  refine configureChannel_cases s id address type (fun _ => sound) fun inRange => ?_
  refine sound.modifyChannel _ ?_ (fun _ => rfl) fun c _ => c.configured_setPollAddress address type
  intro h
  rw [modifyChannel_same] at h
  exact (Channel.running_setPollAddress _).mp h

theorem sound_configureTrigger {s : Scope capacity n α} (sound : s.Sound)
    (conf : TriggerConfiguration α) : (s.configureTrigger conf).Sound := by
  unfold configureTrigger Trigger.configure
  cases Trigger.configSanityCheck conf with
  | none => exact sound
  | some checked => exact { sound with }

section Step
variable [LT α] [DecidableLT α] [BEq α]

theorem sound_poll {overflow : Overflow} {s : Scope capacity n α} {now : UInt32}
    {memory : Memory α} (sound : s.Sound) : (s.poll overflow now memory).2.Sound := by
  obtain ⟨ready, ⟨-, -, trigger⟩ | ⟨-, ran⟩⟩ := s.poll_outcome overflow now memory
  · exact sound.withReady trigger ready
  · rw [Sound, ready]
    exact (sound_sample overflow now memory sound).ran ran

theorem sound_step (overflow : Overflow) {s : Scope capacity n α} (op : Operation α)
    (sound : s.Sound) : (s.step overflow op).Sound := by
  cases op with
  | poll now memory => exact sound_poll sound
  | configureChannel i address type => exact sound_configureChannel sound i address type
  | configureTrigger conf => exact sound_configureTrigger sound conf
  | configureTimestampIncrement increment => exact { sound with }
  | setChannelRunning i => exact sound_setChannelRunning sound i
  | setChannelStopped i => exact sound_setChannelStopped sound i
  | clear =>
      have reset := Trigger.Sound.resetBuffers sound
      exact { reset with }
  | pack => exact sound_pack sound

theorem sound_of_reachable [Zero α] {overflow : Overflow} {s : Scope capacity n α}
    (reachable : Run.Reachable (step overflow) create s) : s.Sound :=
  reachable.invariant _ (fun _ op sound => sound_step overflow op sound) sound_create

end Step

end Scope

end Core
