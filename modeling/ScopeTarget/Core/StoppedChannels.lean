import ScopeTarget.Core.Invariants

/-! The trigger keeps its own copy of the running flags. A stopped channel stays
stopped exactly when that copy does not bring it back. -/

namespace Core

def Operation.Starts {α : Type*} {n : Nat} (i : Fin (n + 1)) : Operation α → Prop
  | .setChannelRunning id => id = i
  | _ => False

namespace Trigger
variable {capacity n : Nat} {α : Type*}

/-- Neither running nor remembered as running. -/
structure Silent (i : Fin (n + 1)) (t : Trigger capacity n α) : Prop where
  still : (t.channels i).state ≠ .running
  forgotten : t.channelIsRunning i = false

namespace Silent
variable {i : Fin (n + 1)} {t t' : Trigger capacity n α}

theorem same (same : SameData t t') (silent : Silent i t) : Silent i t' where
  still := by
    rw [same.state]
    exact silent.still
  forgotten := by
    rw [same.flags]
    exact silent.forgotten

theorem restore (silent : Silent i t) : Silent i t.restoreChannelStates where
  still := by
    dsimp only [restoreChannelStates]
    rw [silent.forgotten]
    exact silent.still
  forgotten := silent.forgotten

theorem safe (still : (t.channels i).state ≠ .running) : Silent i t.safeChannelStates where
  still := still
  forgotten := by
    rw [← Bool.not_eq_true]
    exact fun running => still ((t.channels i).isRunning_iff.mp running)

theorem stopped (forgotten : t.channelIsRunning i = false) :
    Silent i t.stopChannelsAndTimestamp where
  still := Channel.not_running_setStateStopped _
  forgotten := forgotten

theorem activate (silent : Silent i t) : Silent i t.activate :=
  have restored := silent.restore
  ⟨restored.still, restored.forgotten⟩

theorem deactivate (still : (t.channels i).state ≠ .running) : Silent i t.deactivate :=
  have halted := Silent.stopped (Silent.safe still).forgotten
  ⟨halted.still, halted.forgotten⟩

theorem ran {r : Bool × Trigger capacity n α} (silent : Silent i t) (ran : Ran t r) :
    Silent i r.2 := by
  cases ran with
  | idles => exact silent
  | resumes _ _ same => exact silent.restore.same same
  | staysPaused _ same => exact silent.same same
  | detects _ same => exact silent.same same
  | fills _ same => exact silent.same same
  | filled _ _ same => exact (Silent.safe silent.still).same same
  | stops _ stopped =>
      have halted : Silent i t.stopChannelsAndTimestamp := Silent.stopped silent.forgotten
      cases stopped with
      | waits => exact halted
      | handsOver _ same =>
          have swapped : Silent i t.stopChannelsAndTimestamp.swapAll :=
            ⟨halted.still, halted.forgotten⟩
          exact swapped.same same

end Silent

end Trigger

namespace Scope
variable {capacity n : Nat} {α : Type*}

/-- No sample of the channel is recorded as long as nobody starts it again. -/
def StaysStopped [LT α] [DecidableLT α] [BEq α] (overflow : Overflow) (i : Fin (n + 1))
    (s : Scope capacity n α) : Prop :=
  ∀ ops : List (Operation α), (∀ op ∈ ops, ¬ op.Starts i) →
    Run.Along (step overflow) (fun s op => ¬ s.RecordsSample i op) s ops

def Silent (i : Fin (n + 1)) (s : Scope capacity n α) : Prop := s.trigger.Silent i

theorem silent_modifyChannel {s : Scope capacity n α} {i j : Fin (n + 1)} (silent : s.Silent i)
    {f : Channel capacity α → Channel capacity α}
    (running : i = j → (f (s.channels i)).state ≠ .running) : (s.modifyChannel j f).Silent i where
  still := by
    dsimp only [modifyChannel]
    split
    · rename_i here
      exact running here
    · exact silent.still
  forgotten := silent.forgotten

section Step
variable [LT α] [DecidableLT α] [BEq α]

theorem silent_step {overflow : Overflow} {s : Scope capacity n α} {i : Fin (n + 1)}
    (silent : s.Silent i) (op : Operation α) (other : ¬ op.Starts i) :
    (s.step overflow op).Silent i := by
  cases op with
  | poll now memory =>
      dsimp only [step]
      obtain ⟨-, ⟨-, -, trigger⟩ | ⟨-, ran⟩⟩ := s.poll_outcome overflow now memory
      · rw [Silent, trigger]
        exact silent
      · have sampled : (s.sample overflow now memory).Silent i := by
          refine ⟨?_, silent.forgotten⟩
          dsimp only [sample]
          rw [Channel.state_poll]
          exact silent.still
        exact sampled.ran ran
  | configureChannel id address type =>
      dsimp only [step]
      refine configureChannel_cases s id address type (fun _ => silent) fun _ => ?_
      refine silent_modifyChannel silent fun _ => ?_
      rw [Ne, Channel.running_setPollAddress]
      exact silent.still
  | configureTrigger conf =>
      dsimp only [step, configureTrigger, Trigger.configure]
      cases Trigger.configSanityCheck conf with
      | none => exact silent
      | some checked => exact ⟨silent.still, silent.forgotten⟩
  | configureTimestampIncrement increment => exact ⟨silent.still, silent.forgotten⟩
  | setChannelRunning id =>
      have started (inRange : id < n + 1) :
          (s.modifyChannel ⟨id, inRange⟩ Channel.setStateRunning).Silent i := by
        refine silent_modifyChannel silent fun here => ?_
        exact absurd (congrArg Fin.val here).symm other
      dsimp only [step]
      refine setChannelRunning_cases s id (fun _ => silent) (fun inRange _ => started inRange)
        fun inRange _ => ?_
      exact Trigger.Silent.activate ⟨(started inRange).still, (started inRange).forgotten⟩
  | setChannelStopped id =>
      have halted (inRange : id < n + 1) :
          (s.modifyChannel ⟨id, inRange⟩ Channel.setStateStopped).Silent i :=
        silent_modifyChannel silent fun _ => Channel.not_running_setStateStopped _
      dsimp only [step]
      exact setChannelStopped_cases s id (fun _ => silent)
        (fun inRange _ => Trigger.Silent.deactivate (halted inRange).still)
        fun inRange _ => halted inRange
  | clear => exact ⟨silent.still, silent.forgotten⟩
  | pack =>
      dsimp only [step]
      refine Control.CommandPackData.run_cases s (fun _ => silent) ⟨?_, silent.forgotten⟩
      have state := Control.CommandPackData.state_drain s i
      exact fun running => silent.still (state.symm.trans running)

theorem staysStopped_of_silent {overflow : Overflow} {s : Scope capacity n α} {i : Fin (n + 1)}
    (silent : s.Silent i) : s.StaysStopped overflow i := by
  intro ops others
  have preserved (s : Scope capacity n α) (op : Operation α) (silent : s.Silent i)
      (other : ¬ op.Starts i) : (s.step overflow op).Silent i := silent_step silent op other
  have seen (s : Scope capacity n α) (op : Operation α) (silent : s.Silent i)
      (_ : ¬ op.Starts i) : ¬ s.RecordsSample i op := by
    intro records
    cases op with
    | poll now memory => exact silent.still records.2
    | _ => exact records
  have along : Run.Along (step overflow) (fun _ op => ¬ op.Starts i) s ops := .of_forall _ others
  exact along.observe _ preserved seen silent

end Step

/-- Stopping the last running channel makes the trigger forget all of them. -/
theorem silent_setChannelStopped {s : Scope capacity n α} {i : Fin (n + 1)}
    (h : s.trigger.channelIsRunning i = false ∨ ∀ j, j ≠ i → (s.channels j).state ≠ .running) :
    (s.setChannelStopped i).Silent i := by
  have still : ((s.modifyChannel i Channel.setStateStopped).channels i).state ≠ .running := by
    rw [modifyChannel_same]
    exact Channel.not_running_setStateStopped _
  refine setChannelStopped_cases s i (fun outOfRange => absurd i.isLt outOfRange)
    (fun _ _ => Trigger.Silent.deactivate still) fun _ someRuns => ?_
  rcases h with forgotten | alone
  · exact ⟨still, forgotten⟩
  · obtain ⟨j, runs⟩ := someRuns
    obtain ⟨other, before⟩ := running_of_stopped runs
    exact absurd before (alone j other)

theorem setChannelRunning_of_running {s : Scope capacity n α} {j : Fin (n + 1)}
    (running : (s.channels j).state = .running) :
    (s.setChannelRunning j).scopeIsReadyToRun = true ∧ ∀ i,
      s.trigger.channelIsRunning i = true → (s.channels i).Configured →
        ((s.setChannelRunning j).channels i).state = .running := by
  rw [setChannelRunning, dif_pos j.isLt]
  dsimp only
  rw [if_neg]
  · refine ⟨rfl, fun i flagged configured => ?_⟩
    have known : ((s.modifyChannel j Channel.setStateRunning).channels i).Configured := by
      by_cases here : i = j
      · rw [here, modifyChannel_same, Channel.configured_of_setStateRunning, ← here]
        exact configured
      · rw [modifyChannel_other s here]
        exact configured
    dsimp only [channels, Trigger.activate, Trigger.clear, Trigger.resetBuffers,
      Trigger.restoreChannelStates, Channel.state_clear]
    rw [if_pos (show (s.modifyChannel j Channel.setStateRunning).trigger.channelIsRunning i = true
      from flagged)]
    exact Channel.configured_setStateRunning _ known
  · rw [allChannelsAreStopped_iff]
    intro allStopped
    exact allStopped j (running_started j running)

section Step
variable [LT α] [DecidableLT α] [BEq α] [Zero α]

/-- Starting any other running channel again restores the stale flag, and the
next poll whose time has come records a sample of the stopped channel. -/
theorem not_staysStopped {overflow : Overflow} {s : Scope capacity n α} (sound : s.Sound)
    {i j : Fin (n + 1)} (flagged : s.trigger.channelIsRunning i = true) (other : j ≠ i)
    (running : (s.channels j).state = .running) :
    ¬ (s.setChannelStopped i).StaysStopped overflow i := by
  intro stays
  rw [setChannelStopped_of_other other running] at stays
  generalize halted : s.modifyChannel i Channel.setStateStopped = s' at stays
  have configured : (s'.channels i).Configured := by
    rw [← halted, modifyChannel_same, Channel.configured_of_setStateStopped]
    exact sound.flagged i flagged
  have still : (s'.channels j).state = .running := by
    rw [← halted, modifyChannel_other s other]
    exact running
  have stale : s'.trigger.channelIsRunning i = true := by
    rw [← halted]
    exact flagged
  obtain ⟨ready, restored⟩ := setChannelRunning_of_running still
  have along := stays [.setChannelRunning j,
    .poll ((s'.setChannelRunning j).timestamper.lastTimestamp
      + (s'.setChannelRunning j).timestamper.timeIncrement) fun _ _ => 0] ?_
  · refine along.2.1 ⟨⟨ready, Timestamper.updateElapsedTime_next _⟩, restored i stale configured⟩
  · intro op member starts
    rcases List.mem_cons.mp member with rfl | member
    · exact other (Fin.ext starts)
    · rw [List.mem_singleton.mp member] at starts
      exact starts

theorem staysStopped_iff (overflow : Overflow) (ops : List (Operation α)) (i : Fin (n + 1)) :
    let s := Run.exec (step overflow) (create : Scope capacity n α) ops
    (s.setChannelStopped i).StaysStopped overflow i ↔
      s.trigger.channelIsRunning i = false ∨ ∀ j, j ≠ i → (s.channels j).state ≠ .running := by
  intro s
  constructor
  · intro stays
    by_contra neither
    obtain ⟨flagged, someRunning⟩ := not_or.mp neither
    simp only [not_forall, not_not] at someRunning
    obtain ⟨j, other, running⟩ := someRunning
    exact not_staysStopped (sound_of_reachable ⟨ops, rfl⟩) (Bool.not_eq_false _ ▸ flagged) other
      running stays
  · intro h
    exact staysStopped_of_silent (silent_setChannelStopped h)

end Step

section Run
open Operation

/-- The stop arrives in clean-up, after the running flags were saved. The trigger
hands over, resumes, and polls the stopped channel again. -/
theorem staysStopped_fails :
    ¬ ((Run.exec (step .evict) (create : Scope 2 1 Int)
      (twoChannels ++ [steadyPoll 2])).setChannelStopped 1).StaysStopped .evict 1 := by
  intro stays
  have along := stays [steadyPoll 3, steadyPoll 4, steadyPoll 5] ?_
  · exact along.2.2.1 ⟨by decide, by decide⟩
  · intro op member starts
    simp only [List.mem_cons, List.not_mem_nil, or_false] at member
    rcases member with rfl | rfl | rfl <;> exact starts

end Run

end Scope

end Core
