import ScopeTarget.Core.Invariants

/-! Clean-up ends as soon as the swap buffers have been packed, unless an
operation takes the full poll buffer away from the trigger while it waits. -/

namespace Core

namespace Channel
variable {capacity : Nat} {α : Type*}

/-- The next sampled poll leaves the poll buffer full. -/
def FullWhenPolled (c : Channel capacity α) : Prop :=
  c.pollBuffer.Full ∨ c.state = .running ∧ c.pollBuffer.used + 1 = capacity

instance (c : Channel capacity α) : Decidable c.FullWhenPolled :=
  inferInstanceAs (Decidable (_ ∨ _))

theorem FullWhenPolled.full_poll {c : Channel capacity α} (h : c.FullWhenPolled)
    (memory : Memory α) : (c.poll memory).pollBuffer.Full := by
  unfold Fifo.Full
  by_cases running : c.state = .running
  · rw [used_poll_of_running memory running]
    rcases h with full | ⟨-, almost⟩
    · rw [full]
      exact Nat.min_eq_left (Nat.le_succ _)
    · rw [almost, Nat.min_self]
  · rw [poll_of_not_running memory running]
    rcases h with full | ⟨going, -⟩
    · exact full
    · exact absurd going running

theorem FullWhenPolled.of_same {c c' : Channel capacity α} (h : c.FullWhenPolled)
    (state : c.state = .running → c'.state = .running) (buffer : c'.pollBuffer = c.pollBuffer) :
    c'.FullWhenPolled := by
  rw [FullWhenPolled, buffer]
  rcases h with full | ⟨running, almost⟩
  · exact .inl full
  · exact .inr ⟨state running, almost⟩

end Channel

namespace Scope
variable {capacity n : Nat} {α : Type*}

def SwapBuffersEmpty (s : Scope capacity n α) : Prop :=
  (∀ i, (s.channels i).swapBuffer.used = 0) ∧ s.timestamper.swapBuffer.used = 0

instance (s : Scope capacity n α) : Decidable s.SwapBuffersEmpty :=
  inferInstanceAs (Decidable (_ ∧ _))

/-- Once everything is packed, the next poll whose time has come hands over. -/
def CompletesCleanUp [LT α] [DecidableLT α] [BEq α] (overflow : Overflow)
    (s : Scope capacity n α) : Prop :=
  s.trigger.state = .cleanup → s.SwapBuffersEmpty →
    s.scopeIsReadyToRun = true ∧ ∀ now memory,
      s.timestamper.updateElapsedTime now = true → (s.poll overflow now memory).1 = true

/-- No operation during clean-up empties the active channel, selects one that is
not about to be full, or stops the active one just before its last sample. -/
def KeepsActiveFull (s : Scope capacity n α) : Operation α → Prop
  | .clear => s.trigger.state = .cleanup → s.trigger.activeChannel.clear.FullWhenPolled
  | .configureTrigger conf => s.trigger.state = .cleanup →
      (s.trigger.configure conf).activeChannel.FullWhenPolled
  | .setChannelStopped id => s.trigger.state = .cleanup → id = s.trigger.activeChannelId →
      s.trigger.activeChannel.setStateStopped.FullWhenPolled ∨
        ∀ i, i ≠ s.trigger.activeChannelId → (s.channels i).state ≠ .running
  | _ => True

def Closing (s : Scope capacity n α) : Prop :=
  s.trigger.state = .cleanup → s.trigger.activeChannel.FullWhenPolled

theorem closing_sample {overflow : Overflow} {s : Scope capacity n α} {now : UInt32}
    {memory : Memory α} (closing : s.Closing) (cleanup : s.trigger.state = .cleanup) :
    (s.sample overflow now memory).activeChannel.pollBuffer.Full :=
  (closing cleanup).full_poll memory

theorem closing_ran {t : Trigger capacity n α} {r : Bool × Trigger capacity n α}
    (full : t.state = .cleanup → t.activeChannel.pollBuffer.Full) (ran : t.Ran r) :
    r.2.state = .cleanup → r.2.activeChannel.FullWhenPolled := by
  intro cleanup
  cases ran with
  | idles origin => exact absurd (origin.symm.trans cleanup) (by decide)
  | resumes origin strategy same into => exact absurd (into.symm.trans cleanup) (by decide)
  | staysPaused origin same into => exact absurd (into.symm.trans cleanup) (by decide)
  | detects origin same into =>
      rcases into with into | into
      · exact absurd (into.symm.trans cleanup) (by decide)
      · exact absurd (into.symm.trans cleanup) (by decide)
  | fills origin same into => exact absurd (into.symm.trans cleanup) (by decide)
  | filled origin active same into =>
      left
      rw [Trigger.activeChannel, same.pollBuffer, same.activeChannelId]
      exact active
  | stops origin stopped =>
      cases stopped with
      | waits =>
          left
          have buffer := t.activeChannel.pollBuffer_setStateStopped
          exact Eq.trans (congrArg Fifo.used buffer) (full origin)
      | handsOver pending same into =>
          rw [into] at cleanup
          split at cleanup <;> cases cleanup

theorem Closing.of_same {s s' : Scope capacity n α} (closing : s.Closing)
    (phase : s'.trigger.state = s.trigger.state)
    (active : s'.trigger.activeChannelId = s.trigger.activeChannelId)
    (state : (s.channels s.trigger.activeChannelId).state = .running →
      (s'.channels s.trigger.activeChannelId).state = .running)
    (buffer : ∀ i, (s'.channels i).pollBuffer = (s.channels i).pollBuffer) : s'.Closing := by
  intro cleanup
  rw [phase] at cleanup
  have kept := (closing cleanup).of_same state (buffer _)
  rw [Trigger.activeChannel, active]
  exact kept

theorem closing_setChannelRunning {s : Scope capacity n α} (closing : s.Closing) (id : Nat) :
    (s.setChannelRunning id).Closing := by
  refine setChannelRunning_cases s id (fun _ => closing) (fun inRange _ => ?_) fun _ _ => ?_
  · exact closing.of_same rfl rfl (running_started ⟨id, inRange⟩)
      (s.modifyChannel_keeps _ Channel.pollBuffer fun c => c.pollBuffer_setStateRunning)
  · intro cleanup
    cases cleanup

theorem closing_setChannelStopped {s : Scope capacity n α} (closing : s.Closing) (id : Nat)
    (keeps : s.KeepsActiveFull (.setChannelStopped id)) : (s.setChannelStopped id).Closing := by
  refine setChannelStopped_cases s id (fun _ => closing) (fun _ _ => ?_) fun inRange someRuns => ?_
  · intro cleanup
    cases cleanup
  · intro cleanup
    by_cases active : id = s.trigger.activeChannelId
    · have here : s.trigger.activeChannelId = ⟨id, inRange⟩ := Fin.ext active.symm
      rcases keeps cleanup active with full | alone
      · change Channel.FullWhenPolled (Scope.channels _ s.trigger.activeChannelId)
        rw [here, modifyChannel_same, ← here]
        exact full
      · obtain ⟨i, runs⟩ := someRuns
        obtain ⟨other, before⟩ := running_of_stopped runs
        exact absurd before (alone i (here ▸ other))
    · have other : s.trigger.activeChannelId ≠ ⟨id, inRange⟩ := by
        intro here
        exact active (congrArg Fin.val here).symm
      have kept := s.modifyChannel_other other Channel.setStateStopped
      change Channel.FullWhenPolled (Scope.channels _ s.trigger.activeChannelId)
      rw [kept]
      exact closing cleanup

section Step
variable [LT α] [DecidableLT α] [BEq α]

theorem closing_poll {overflow : Overflow} {s : Scope capacity n α} {now : UInt32}
    {memory : Memory α} (closing : s.Closing) : (s.poll overflow now memory).2.Closing := by
  obtain ⟨-, ⟨-, -, trigger⟩ | ⟨-, ran⟩⟩ := s.poll_outcome overflow now memory
  · rw [Closing, trigger]
    exact closing
  · exact closing_ran (closing_sample closing) ran

theorem closing_step (overflow : Overflow) {s : Scope capacity n α} (op : Operation α)
    (closing : s.Closing) (keeps : s.KeepsActiveFull op) : (s.step overflow op).Closing := by
  cases op with
  | poll now memory => exact closing_poll closing
  | configureChannel id address type =>
      dsimp only [step]
      refine configureChannel_cases s id address type (fun _ => closing) fun inRange => ?_
      refine closing.of_same rfl rfl ?_ (s.modifyChannel_keeps _ Channel.pollBuffer fun _ => rfl)
      intro running
      dsimp only [modifyChannel, channels]
      split
      · exact (Channel.running_setPollAddress _).mpr running
      · exact running
  | configureTrigger conf =>
      intro cleanup
      refine keeps ?_
      dsimp only [step, configureTrigger, Trigger.configure] at cleanup
      split at cleanup <;> exact cleanup
  | configureTimestampIncrement increment => exact closing
  | setChannelRunning id => exact closing_setChannelRunning closing id
  | setChannelStopped id => exact closing_setChannelStopped closing id keeps
  | clear => exact keeps
  | pack =>
      dsimp only [step]
      refine Control.CommandPackData.run_cases s (fun _ => closing) ?_
      refine closing.of_same rfl rfl ?_ (Control.CommandPackData.pollBuffer_drain s)
      intro running
      rw [Control.CommandPackData.state_drain]
      exact running

/-- A sampled poll in clean-up finds the active channel and the stamps full. -/
theorem completesCleanUp_of_closing {overflow : Overflow} {s : Scope capacity n α} (sound : s.Sound)
    (closing : s.Closing) : s.CompletesCleanUp overflow := by
  intro cleanup empty
  have ready : s.scopeIsReadyToRun = true := sound.ready (by rw [cleanup]; decide)
  refine ⟨ready, fun now memory elapsed => ?_⟩
  have full : (s.sample overflow now memory).activeChannel.pollBuffer.Full :=
    closing_sample closing cleanup
  obtain ⟨-, ⟨waiting, -⟩ | ⟨-, ran⟩⟩ := s.poll_outcome overflow now memory
  · exact absurd ⟨ready, elapsed⟩ waiting
  · have counted :=
      (sound_sample overflow now memory sound).counted (s.sample overflow now memory).activeChannelId
    have stamps : (s.sample overflow now memory).timestamper.pollBuffer.Full := by
      refine Nat.le_antisymm (Fifo.used_le _) ?_
      exact Nat.le_trans (Nat.le_of_eq full.symm) counted
    have swap : (s.sample overflow now memory).activeChannel.swapBuffer.used = 0 := by
      refine Eq.trans (congrArg Fifo.used (Channel.swapBuffer_poll _ memory)) (empty.1 _)
    have pending : (s.sample overflow now memory).SwapIsPending :=
      ⟨(Channel.swapIsPending_iff _).mpr ⟨full, swap⟩,
        (Timestamper.swapIsPending_iff _).mpr ⟨stamps, empty.2⟩⟩
    have origin : (s.sample overflow now memory).state = .cleanup := cleanup
    generalize (s.poll overflow now memory).2.trigger = t' at ran
    generalize (s.poll overflow now memory).1 = sent at ran ⊢
    cases ran with
    | idles other => exact absurd (other.symm.trans origin) (by decide)
    | resumes other => exact absurd (other.symm.trans origin) (by decide)
    | staysPaused other => exact absurd (other.symm.trans origin) (by decide)
    | detects other => exact absurd (other.symm.trans origin) (by decide)
    | fills other => exact absurd (other.symm.trans origin) (by decide)
    | filled other => exact absurd (other.symm.trans origin) (by decide)
    | stops other stopped =>
        cases stopped with
        | waits notPending => exact absurd pending notPending
        | handsOver => rfl

theorem cleanUp_completes [Zero α] (overflow : Overflow) (ops : List (Operation α))
    (keeps : Run.Along (step overflow) KeepsActiveFull (create : Scope capacity n α) ops) :
    (Run.exec (step overflow) (create : Scope capacity n α) ops).CompletesCleanUp overflow := by
  have preserved (s : Scope capacity n α) (op : Operation α) (inv : s.Sound ∧ s.Closing)
      (ok : s.KeepsActiveFull op) : (s.step overflow op).Sound ∧ (s.step overflow op).Closing :=
    ⟨sound_step overflow op inv.1, closing_step overflow op inv.2 ok⟩
  have start : (create : Scope capacity n α).Sound ∧ (create : Scope capacity n α).Closing :=
    ⟨sound_create, fun cleanup => nomatch cleanup⟩
  obtain ⟨sound, closing⟩ := keeps.invariant _ preserved start
  exact completesCleanUp_of_closing sound closing

end Step

section Run
open Operation

/-- One channel of two samples is filled until the trigger is in clean-up. -/
def untilCleanUp : List (Operation Int) :=
  [.configureChannel 0 16 .seInt8, .setChannelRunning 0, steadyPoll 1, steadyPoll 2]

/-- The same once more, after the first data set was handed over and packed. -/
def untilSecondCleanUp : List (Operation Int) :=
  untilCleanUp ++ [steadyPoll 3, steadyPoll 4, steadyPoll 5, steadyPoll 6, steadyPoll 7, .pack]

theorem cleanUp_completes_twice :
    let s := Run.exec (step .evict) (create : Scope 2 0 Int) untilSecondCleanUp
    s.trigger.state = .cleanup ∧ s.SwapBuffersEmpty ∧ s.CompletesCleanUp .evict :=
  ⟨by decide, by decide, cleanUp_completes .evict untilSecondCleanUp
    ⟨trivial, trivial, trivial, trivial, trivial, trivial, trivial, trivial, trivial, trivial, trivial⟩⟩

/-- A clear during clean-up leaves the trigger waiting for stopped channels to fill. -/
theorem cleanUp_completes_fails :
    ¬ (Run.exec (step .evict) (create : Scope 2 0 Int) (untilCleanUp ++ [.clear])).CompletesCleanUp .evict ∧
      ¬ (Run.exec (step .reject) (create : Scope 2 0 Int) (untilCleanUp ++ [.clear])).CompletesCleanUp
        .reject := by
  constructor
  · intro completes
    have handsOver := (completes (by decide) (by decide)).2 3 (fun _ _ => 3) (by decide)
    exact absurd handsOver (by decide)
  · intro completes
    have handsOver := (completes (by decide) (by decide)).2 3 (fun _ _ => 3) (by decide)
    exact absurd handsOver (by decide)

end Run

end Scope

end Core
