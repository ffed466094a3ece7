import ScopeTarget.Core.Invariants

/-! The state of the trigger, those of the channels and the timestamper, and the
saved flags all say what is running. They agree in every reachable state. -/

namespace Core

namespace Trigger
variable {capacity n : Nat} {α : Type*}

/-- What runs, or is to run again, in the phase the trigger is in or about to enter. -/
structure Resumable (phase : TriggerStates) (t : Trigger capacity n α) : Prop where
  acquiring : phase = .detecting ∨ phase = .fillup → ∃ i, (t.channels i).state = .running
  marked : phase = .cleanup ∨ phase = .paused → ∃ i, t.channelIsRunning i = true
  halted : phase = .idle → t.timestamper.state = .stopped ∧ ∀ i, (t.channels i).state ≠ .running

namespace Resumable
variable {phase : TriggerStates} {t t' : Trigger capacity n α}

theorem states (resumable : Resumable phase t)
    (running : ∀ i, (t'.channels i).state = .running ↔ (t.channels i).state = .running)
    (stamping : t'.timestamper.state = t.timestamper.state)
    (flags : t'.channelIsRunning = t.channelIsRunning) : Resumable phase t' where
  acquiring h := by
    obtain ⟨i, runs⟩ := resumable.acquiring h
    exact ⟨i, (running i).mpr runs⟩
  marked h := by
    rw [flags]
    exact resumable.marked h
  halted h := by
    obtain ⟨stopped, none_⟩ := resumable.halted h
    exact ⟨stamping.trans stopped, fun i runs => none_ i ((running i).mp runs)⟩

theorem same (same : SameData t t') (resumable : Resumable phase t) : Resumable phase t' :=
  resumable.states (fun i => by rw [same.state]) same.stamping same.flags

/-- A marked channel has an address, so it runs again. -/
theorem restore (marked : ∃ i, t.channelIsRunning i = true)
    (flagged : ∀ i, t.channelIsRunning i = true → (t.channels i).Configured) :
    Resumable .detecting t.restoreChannelStates where
  acquiring _ := by
    obtain ⟨i, mark⟩ := marked
    refine ⟨i, ?_⟩
    dsimp only [restoreChannelStates]
    rw [if_pos mark]
    exact (t.channels i).configured_setStateRunning (flagged i mark)
  marked h := by rcases h with h | h <;> cases h
  halted h := by cases h

theorem safe (resumable : Resumable .fillup t) : Resumable .cleanup t.safeChannelStates where
  acquiring h := by rcases h with h | h <;> cases h
  marked _ := by
    obtain ⟨i, runs⟩ := resumable.acquiring (.inr rfl)
    exact ⟨i, (t.channels i).isRunning_iff.mpr runs⟩
  halted h := by cases h

/-- Stopping all channels keeps the marks. -/
theorem stopped (resumable : Resumable .cleanup t) (next : phase ≠ .detecting ∧ phase ≠ .fillup) :
    Resumable phase t.stopChannelsAndTimestamp where
  acquiring h := by
    rcases h with h | h
    · exact absurd h next.1
    · exact absurd h next.2
  marked _ := resumable.marked (.inl rfl)
  halted _ := ⟨rfl, fun i => (t.channels i).not_running_setStateStopped⟩

theorem ran {ready : Bool} {r : Bool × Trigger capacity n α} (sound : Sound ready t.state t)
    (resumable : Resumable t.state t) (ran : Ran t r) : Resumable r.2.state r.2 := by
  cases ran with
  | idles => exact resumable
  | resumes origin strategy same into =>
      rw [into]
      exact (restore (resumable.marked (.inr origin)) sound.flagged).same same
  | staysPaused origin same into =>
      rw [into, ← origin]
      exact resumable.same same
  | detects origin same into =>
      have before := resumable.acquiring (.inl origin)
      have fills : Resumable .fillup t := by
        refine ⟨fun _ => before, ?_, ?_⟩
        · intro h
          rcases h with h | h <;> cases h
        · intro h
          cases h
      rcases into with into | into
      · rw [into, ← origin]
        exact resumable.same same
      · rw [into]
        exact fills.same same
  | fills origin same into =>
      rw [into, ← origin]
      exact resumable.same same
  | filled origin full same into =>
      rw [origin] at resumable
      rw [into]
      exact resumable.safe.same same
  | stops origin stopped =>
      rw [origin] at resumable
      cases stopped with
      | waits => exact resumable.stopped (by rw [stopChannelsAndTimestamp, origin]; decide)
      | handsOver pending same into =>
          refine Resumable.same same ?_
          have halted : Resumable (if t.activeStrategy = .oneshot then .idle else .paused)
              t.stopChannelsAndTimestamp := by
            apply resumable.stopped
            split
            · decide
            · decide
          rw [into]
          exact halted.states (fun _ => Iff.rfl) rfl rfl

theorem activate (running : ∃ i, (t.channels i).state = .running) : Resumable .detecting t.activate where
  acquiring _ := by
    obtain ⟨i, runs⟩ := running
    refine ⟨i, ?_⟩
    dsimp only [Trigger.activate, resetBuffers, restoreChannelStates, clear]
    rw [Channel.state_clear]
    split
    · exact (t.channels i).configured_setStateRunning (.inr runs)
    · exact runs
  marked h := by rcases h with h | h <;> cases h
  halted h := by cases h

theorem deactivate : Resumable .idle t.deactivate where
  acquiring h := by rcases h with h | h <;> cases h
  marked h := by rcases h with h | h <;> cases h
  halted _ := ⟨rfl, fun i => (t.channels i).not_running_setStateStopped⟩

end Resumable

end Trigger

namespace Scope
variable {capacity n : Nat} {α : Type*}

def Resumable (s : Scope capacity n α) : Prop := s.trigger.Resumable s.trigger.state

/-- Some entries are read out of the swap buffers, of each channel and of the stamps. -/
def drainSwap (s : Scope capacity n α) (samples : Fin (n + 1) → Nat) (stamps : Nat) :
    Scope capacity n α :=
  { s with trigger := { s.trigger with
      channels := fun i =>
        { s.channels i with swapBuffer := ((s.channels i).swapBuffer.read (samples i)).2 }
      timestamper := { s.timestamper with swapBuffer := (s.timestamper.swapBuffer.read stamps).2 } } }

theorem resumable_create [Zero α] : (create : Scope capacity n α).Resumable :=
  Trigger.Resumable.deactivate

theorem Resumable.modifyChannel {s : Scope capacity n α} (resumable : s.Resumable) (i : Fin (n + 1))
    {f : Channel capacity α → Channel capacity α}
    (running : ∀ c : Channel capacity α, (f c).state = .running ↔ c.state = .running) :
    (s.modifyChannel i f).Resumable :=
  resumable.states
    (fun j => Iff.of_eq
      (s.modifyChannel_keeps i (fun c => c.state = .running) (fun c => propext (running c)) j)) rfl rfl

theorem resumable_setChannelRunning {s : Scope capacity n α} (resumable : s.Resumable) (id : Nat) :
    (s.setChannelRunning id).Resumable := by
  refine setChannelRunning_cases s id (fun _ => resumable) (fun inRange allStopped => ?_)
    fun inRange someRuns => Trigger.Resumable.activate someRuns
  -- A channel that ran before would run still.
  have none_ : ∀ j, (s.channels j).state ≠ .running := by
    intro j runs
    exact allStopped j (running_started ⟨id, inRange⟩ runs)
  exact resumable.states
    (fun j => ⟨fun runs => absurd runs (allStopped j), fun runs => absurd runs (none_ j)⟩) rfl rfl

theorem resumable_setChannelStopped {s : Scope capacity n α} (resumable : s.Resumable) (id : Nat) :
    (s.setChannelStopped id).Resumable := by
  refine setChannelStopped_cases s id (fun _ => resumable)
    (fun _ _ => Trigger.Resumable.deactivate) fun inRange someRuns => ?_
  refine ⟨fun _ => someRuns, resumable.marked, fun idle => ?_⟩
  obtain ⟨stopped, none_⟩ := resumable.halted idle
  exact ⟨stopped, fun k runs => none_ k (running_of_stopped runs).2⟩

theorem resumable_pack {s : Scope capacity n α} (resumable : s.Resumable) :
    (Control.CommandPackData.run s).2.Resumable := by
  refine Control.CommandPackData.run_cases s (fun _ => resumable) ?_
  exact resumable.states
    (fun i => Iff.of_eq (congrArg (· = _) (Control.CommandPackData.state_drain s i))) rfl rfl

section Step
variable [LT α] [DecidableLT α] [BEq α]

theorem resumable_poll {overflow : Overflow} {s : Scope capacity n α} {now : UInt32}
    {memory : Memory α} (sound : s.Sound) (resumable : s.Resumable) :
    (s.poll overflow now memory).2.Resumable := by
  obtain ⟨-, ⟨-, -, trigger⟩ | ⟨-, ran⟩⟩ := s.poll_outcome overflow now memory
  · rw [Resumable, trigger]
    exact resumable
  · have sampled : (s.sample overflow now memory).Resumable s.trigger.state :=
      resumable.states (fun i => Iff.of_eq (congrArg (· = _) (Channel.state_poll _ memory))) rfl rfl
    exact sampled.ran (sound_sample overflow now memory sound) ran

theorem resumable_step (overflow : Overflow) {s : Scope capacity n α} (op : Operation α)
    (sound : s.Sound) (resumable : s.Resumable) : (s.step overflow op).Resumable := by
  cases op with
  | poll now memory => exact resumable_poll sound resumable
  | configureChannel i address type =>
      dsimp only [step]
      exact configureChannel_cases s i address type (fun _ => resumable)
        fun _ => resumable.modifyChannel _ fun c => c.running_setPollAddress
  | configureTrigger conf =>
      dsimp only [step, configureTrigger, Trigger.configure]
      cases Trigger.configSanityCheck conf with
      | none => exact resumable
      | some checked => exact resumable.states (fun _ => Iff.rfl) rfl rfl
  | configureTimestampIncrement increment => exact resumable.states (fun _ => Iff.rfl) rfl rfl
  | setChannelRunning i => exact resumable_setChannelRunning resumable i
  | setChannelStopped i => exact resumable_setChannelStopped resumable i
  | clear => exact resumable.states (fun _ => Iff.rfl) rfl rfl
  | pack => exact resumable_pack resumable

end Step

theorem sound_drainSwap {s : Scope capacity n α} (sound : s.Sound) (samples : Fin (n + 1) → Nat)
    (stamps : Nat) : (s.drainSwap samples stamps).Sound :=
  { sound with }

/-- What is running is what the trigger, the flags and the addresses say. -/
structure Coherent (s : Scope capacity n α) : Prop where
  acquiring : s.trigger.state = .detecting ∨ s.trigger.state = .fillup →
    s.timestamper.state = .running ∧ ∃ i, (s.channels i).state = .running
  resting : s.trigger.state = .idle ∨ s.trigger.state = .paused →
    s.timestamper.state = .stopped ∧ ∀ i, (s.channels i).state ≠ .running
  ready : s.trigger.state ≠ .idle → s.scopeIsReadyToRun = true
  addressed : ∀ i, (s.channels i).state = .running ∨ s.trigger.channelIsRunning i = true →
    (s.channels i).pollAddress.isSome = true

theorem coherent_of_resumable {s : Scope capacity n α} (sound : s.Sound) (resumable : s.Resumable) :
    s.Coherent where
  acquiring h := ⟨sound.working h, resumable.acquiring h⟩
  resting h := by
    rcases h with idle | paused
    · exact resumable.halted idle
    · obtain ⟨stopped, -⟩ := sound.resting paused
      refine ⟨stopped, fun i runs => ?_⟩
      have stamping : s.timestamper.state = .running := sound.stamped i runs
      cases stopped.symm.trans stamping
  ready := sound.ready
  addressed i h := by
    rcases h with runs | mark
    · exact (s.channels i).configured (.inr runs)
    · exact (s.channels i).configured (sound.flagged i mark)

end Scope

/-- The operations, and a reader that takes entries out of the swap buffers. -/
inductive Activity (n : Nat) (α : Type*) where
  | operation (op : Operation α)
  | drainSwap (samples : Fin (n + 1) → Nat) (stamps : Nat)

namespace Scope
variable {capacity n : Nat} {α : Type*} [LT α] [DecidableLT α] [BEq α]

def act (overflow : Overflow) (s : Scope capacity n α) : Activity n α → Scope capacity n α
  | .operation op => s.step overflow op
  | .drainSwap samples stamps => s.drainSwap samples stamps

theorem resumable_act (overflow : Overflow) {s : Scope capacity n α} (activity : Activity n α)
    (invariant : s.Sound ∧ s.Resumable) :
    (s.act overflow activity).Sound ∧ (s.act overflow activity).Resumable := by
  obtain ⟨sound, resumable⟩ := invariant
  cases activity with
  | operation op => exact ⟨sound_step overflow op sound, resumable_step overflow op sound resumable⟩
  | drainSwap samples stamps =>
      exact ⟨sound_drainSwap sound samples stamps, resumable.states (fun _ => Iff.rfl) rfl rfl⟩

/-- Whatever is asked of the scope and read out of it, its parts agree. -/
theorem coherent [Zero α] (overflow : Overflow) (activities : List (Activity n α)) :
    (Run.exec (act overflow) (create : Scope capacity n α) activities).Coherent := by
  have kept : ∀ (s : Scope capacity n α) activity, s.Sound ∧ s.Resumable →
      (s.act overflow activity).Sound ∧ (s.act overflow activity).Resumable :=
    fun _ activity invariant => resumable_act overflow activity invariant
  obtain ⟨sound, resumable⟩ := Run.exec_invariant _ kept ⟨sound_create, resumable_create⟩ activities
  exact coherent_of_resumable sound resumable

end Scope

end Core
