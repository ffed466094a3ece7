import ScopeTarget.Core.Operations

/-! What a set is handed over with: whether it was triggered, and when. The flags
are settled when the trigger leaves detection and go to the swap side with the
samples. A configuration changes the strategy but not the state it goes on in. -/

namespace Core

namespace Trigger
variable {capacity n : Nat} {α : Type*}

/-- A set has been decided on and is not yet handed over. -/
def Completing (t : Trigger capacity n α) : Prop := t.state = .fillup ∨ t.state = .cleanup

instance (t : Trigger capacity n α) : Decidable t.Completing := inferInstanceAs (Decidable (_ ∨ _))

theorem not_completing {t : Trigger capacity n α}
    (state : t.state = .idle ∨ t.state = .detecting ∨ t.state = .paused) : ¬ t.Completing := by
  unfold Completing
  rcases state with idle | detecting | paused
  · rw [idle]
    decide
  · rw [detecting]
    decide
  · rw [paused]
    decide

structure SameConfiguration (t t' : Trigger capacity n α) : Prop where
  mode : t'.mode = t.mode
  activeStrategy : t'.activeStrategy = t.activeStrategy
  activeChannelId : t'.activeChannelId = t.activeChannelId

/-- The flags and the trigger times of both sides. -/
structure SameRecord (t t' : Trigger capacity n α) : Prop where
  isTriggeredPoll : t'.isTriggeredPoll = t.isTriggeredPoll
  triggerIndexPoll : t'.triggerIndexPoll = t.triggerIndexPoll
  isTriggeredSwap : t'.isTriggeredSwap = t.isTriggeredSwap
  triggerIndexSwap : t'.triggerIndexSwap = t.triggerIndexSwap

theorem SameConfiguration.refl (t : Trigger capacity n α) : SameConfiguration t t := ⟨rfl, rfl, rfl⟩

theorem SameConfiguration.trans {t t' t'' : Trigger capacity n α} (first : SameConfiguration t t')
    (second : SameConfiguration t' t'') : SameConfiguration t t'' where
  mode := second.mode.trans first.mode
  activeStrategy := second.activeStrategy.trans first.activeStrategy
  activeChannelId := second.activeChannelId.trans first.activeChannelId

theorem same_activate (t : Trigger capacity n α) : SameConfiguration t t.activate := ⟨rfl, rfl, rfl⟩

theorem same_deactivate (t : Trigger capacity n α) : SameConfiguration t t.deactivate := ⟨rfl, rfl, rfl⟩

/-- What a run of the trigger does to the record of the set being acquired. -/
inductive Recorded (t : Trigger capacity n α) : Bool × Trigger capacity n α → Prop
  | searches {t'} (before : ¬ t.Completing) (after : ¬ t'.Completing)
      (isTriggered : t'.isTriggeredSwap = t.isTriggeredSwap)
      (triggerIndex : t'.triggerIndexSwap = t.triggerIndexSwap) : Recorded t (false, t')
  | decides {t'} (before : ¬ t.Completing) (after : t'.Completing)
      (isTriggered : t'.isTriggeredSwap = t.isTriggeredSwap)
      (triggerIndex : t'.triggerIndexSwap = t.triggerIndexSwap)
      (event : t.activeStrategy ≠ .continuous → t'.isTriggeredPoll = true) : Recorded t (false, t')
  | completes {t'} (before : t.Completing) (after : t'.Completing) (same : SameRecord t t') :
      Recorded t (false, t')
  | handsOver {t'} (before : t.Completing) (after : ¬ t'.Completing)
      (isTriggered : t'.isTriggeredSwap = t.isTriggeredPoll)
      (triggerIndex : t'.triggerIndexSwap = some t.triggerIndexPoll) : Recorded t (true, t')

theorem run_recorded [LT α] [DecidableLT α] [BEq α] (t : Trigger capacity n α) :
    SameConfiguration t t.run.2 ∧ Recorded t t.run := by
  have does := t.does_run
  generalize t.run = r at does ⊢
  cases does with
  | idles origin =>
      have rests : ¬ t.Completing := not_completing (.inl origin)
      exact ⟨.refl t, .searches rests rests rfl rfl⟩
  | resumes origin =>
      have rests : ¬ t.Completing := not_completing (.inr (.inr origin))
      exact ⟨⟨rfl, rfl, rfl⟩, .searches rests (not_completing (.inr (.inl rfl))) rfl rfl⟩
  | staysPaused origin =>
      have rests : ¬ t.Completing := not_completing (.inr (.inr origin))
      exact ⟨⟨rfl, rfl, rfl⟩, .searches rests rests rfl rfl⟩
  | decides origin strategy =>
      refine ⟨⟨rfl, rfl, rfl⟩, .decides (not_completing (.inr (.inl origin))) (.inl rfl) rfl rfl ?_⟩
      intro other
      exact absurd strategy other
  | gathers origin =>
      have searching : ¬ t.Completing := not_completing (.inr (.inl origin))
      exact ⟨.refl t, .searches searching searching rfl rfl⟩
  | misses origin =>
      have searching : ¬ t.Completing := not_completing (.inr (.inl origin))
      exact ⟨⟨rfl, rfl, rfl⟩, .searches searching searching rfl rfl⟩
  | finds origin =>
      have searching : ¬ t.Completing := not_completing (.inr (.inl origin))
      exact ⟨⟨rfl, rfl, rfl⟩, .decides searching (.inl rfl) rfl rfl fun _ => rfl⟩
  | fills origin =>
      exact ⟨⟨rfl, rfl, rfl⟩, .completes (.inl origin) (.inl origin) ⟨rfl, rfl, rfl, rfl⟩⟩
  | filled origin =>
      exact ⟨⟨rfl, rfl, rfl⟩, .completes (.inl origin) (.inr rfl) ⟨rfl, rfl, rfl, rfl⟩⟩
  | stops origin =>
      exact ⟨⟨rfl, rfl, rfl⟩, .completes (.inr origin) (.inr origin) ⟨rfl, rfl, rfl, rfl⟩⟩
  | handsOver origin next rests =>
      have after : next = .idle ∨ next = .detecting ∨ next = .paused := by tauto
      exact ⟨⟨rfl, rfl, rfl⟩, .handsOver (.inr origin) (not_completing after) rfl rfl⟩

/-- The strategy is the one of the configured mode, if there is one. -/
def Selected (t : Trigger capacity n α) : Prop := ∀ mode ∈ t.mode, t.activeStrategy = mode

/-- A set that a strategy with an event waits for has had its event. -/
def Earned (t : Trigger capacity n α) : Prop :=
  t.Completing → t.activeStrategy ≠ .continuous → t.isTriggeredPoll = true

theorem Selected.same {t t' : Trigger capacity n α} (selected : t.Selected)
    (same : SameConfiguration t t') : t'.Selected := by
  intro mode configured
  rw [same.activeStrategy]
  rw [same.mode] at configured
  exact selected mode configured

theorem Earned.recorded {t : Trigger capacity n α} {r : Bool × Trigger capacity n α} (earned : t.Earned)
    (same : SameConfiguration t r.2) (recorded : Recorded t r) : r.2.Earned := by
  intro completing strategy
  rw [same.activeStrategy] at strategy
  cases recorded with
  | searches before after => exact absurd completing after
  | decides before after isTriggered triggerIndex event => exact event strategy
  | completes before after record => exact record.isTriggeredPoll.trans (earned before strategy)
  | handsOver before after => exact absurd completing after

end Trigger

namespace Scope
variable {capacity n : Nat} {α : Type*}

/-- A set that is being completed without a trigger event goes to no strategy that
waits for one, and no event is cleared away from a set that has had it. -/
def KeepsTrigger (s : Scope capacity n α) : Operation α → Prop
  | .configureTrigger conf =>
      ∀ accepted ∈ (Trigger.configSanityCheck conf : Option (TriggerMode × Fin (n + 1))),
        s.trigger.Completing → accepted.1 ≠ .continuous → s.trigger.isTriggeredPoll = true
  | .clear => s.trigger.Completing → s.trigger.activeStrategy = .continuous
  | _ => True

/-- The operation leaves what counts as it is, or the trigger is not completing a set. -/
theorem earned_of_quiet {t t' : Trigger capacity n α} (earned : t.Earned)
    (quiet : ¬ t'.Completing ∨ (t'.state = t.state ∧ t'.activeStrategy = t.activeStrategy ∧
      t'.isTriggeredPoll = t.isTriggeredPoll)) : t'.Earned := by
  intro completing strategy
  rcases quiet with rests | ⟨state, same, flag⟩
  · exact absurd completing rests
  · rw [Trigger.Completing, state] at completing
    rw [same] at strategy
    rw [flag]
    exact earned completing strategy

theorem same_setChannelRunning (s : Scope capacity n α) (id : Nat) :
    s.trigger.SameConfiguration (s.setChannelRunning id).trigger := by
  refine setChannelRunning_cases s id (fun _ => .refl _) (fun _ _ => ?_) fun _ _ => ?_
  · exact ⟨rfl, rfl, rfl⟩
  · refine .trans ?_ (Trigger.same_activate _)
    exact ⟨rfl, rfl, rfl⟩

theorem same_setChannelStopped (s : Scope capacity n α) (id : Nat) :
    s.trigger.SameConfiguration (s.setChannelStopped id).trigger := by
  refine setChannelStopped_cases s id (fun _ => .refl _) (fun _ _ => ?_) fun _ _ => ?_
  · refine .trans ?_ (Trigger.same_deactivate _)
    exact ⟨rfl, rfl, rfl⟩
  · exact ⟨rfl, rfl, rfl⟩

theorem earned_setChannelRunning {s : Scope capacity n α} (earned : s.trigger.Earned) (id : Nat) :
    (s.setChannelRunning id).trigger.Earned := by
  refine setChannelRunning_cases s id (fun _ => earned) (fun _ _ => ?_) fun _ _ => ?_
  · exact earned_of_quiet earned (.inr ⟨rfl, rfl, rfl⟩)
  · exact earned_of_quiet earned (.inl (Trigger.not_completing (.inr (.inl rfl))))

theorem earned_setChannelStopped {s : Scope capacity n α} (earned : s.trigger.Earned) (id : Nat) :
    (s.setChannelStopped id).trigger.Earned := by
  refine setChannelStopped_cases s id (fun _ => earned) (fun _ _ => ?_) fun _ _ => ?_
  · exact earned_of_quiet earned (.inl (Trigger.not_completing (.inl rfl)))
  · exact earned_of_quiet earned (.inr ⟨rfl, rfl, rfl⟩)

theorem earned_configureTrigger_iff {s : Scope capacity n α} (earned : s.trigger.Earned)
    (conf : TriggerConfiguration α) :
    (s.configureTrigger conf).trigger.Earned ↔ s.KeepsTrigger (.configureTrigger conf) := by
  dsimp only [configureTrigger, Trigger.configure, KeepsTrigger]
  cases Trigger.configSanityCheck conf with
  | none =>
      constructor
      · intro _ accepted given
        cases given
      · intro _
        exact earned
  | some checked =>
      constructor
      · intro after accepted given completing mode
        cases given
        exact after completing mode
      · intro keeps completing mode
        exact keeps checked rfl completing mode

/-- Clearing takes the event away from the set. -/
theorem earned_clear_iff {s : Scope capacity n α} :
    s.clear.trigger.Earned ↔ s.KeepsTrigger .clear := by
  constructor
  · intro after completing
    by_contra strategy
    cases after completing strategy
  · intro keeps completing strategy
    exact absurd (keeps completing) strategy

section Step
variable [LT α] [DecidableLT α] [BEq α]

/-- A poll does to the record what the run of the trigger does, or nothing. -/
theorem poll_recorded (overflow : Overflow) (s : Scope capacity n α) (now : UInt32)
    (memory : Memory α) :
    s.trigger.SameConfiguration (s.poll overflow now memory).2.trigger ∧
      s.trigger.Recorded ((s.poll overflow now memory).1, (s.poll overflow now memory).2.trigger) := by
  by_cases sampled : s.Sampled now
  · obtain ⟨same, recorded⟩ := (s.sample overflow now memory).run_recorded
    rw [← poll_of_sampled overflow sampled memory] at same recorded
    refine ⟨⟨same.mode, same.activeStrategy, same.activeChannelId⟩, ?_⟩
    -- Sampling adds to the buffers and leaves the record.
    generalize ((s.poll overflow now memory).1, (s.poll overflow now memory).2.trigger) = r at recorded ⊢
    cases recorded with
    | searches before after isTriggered triggerIndex =>
        exact .searches before after isTriggered triggerIndex
    | decides before after isTriggered triggerIndex event =>
        exact .decides before after isTriggered triggerIndex event
    | completes before after record => exact .completes before after { record with }
    | handsOver before after isTriggered triggerIndex =>
        exact .handsOver before after isTriggered triggerIndex
  · obtain ⟨waits, trigger⟩ := poll_of_not_sampled overflow sampled memory
    rw [waits, trigger]
    refine ⟨.refl _, ?_⟩
    by_cases completing : s.trigger.Completing
    · exact .completes completing completing ⟨rfl, rfl, rfl, rfl⟩
    · exact .searches completing completing rfl rfl

/-- Whether a hand-over under a mode that waits for an event is one of a triggered set. -/
def DeliversTriggered (overflow : Overflow) (s : Scope capacity n α) (op : Operation α) : Prop :=
  s.handsOver overflow op = true →
    (s.step overflow op).trigger.mode = some .normal ∨
      (s.step overflow op).trigger.mode = some .oneshot →
    (s.step overflow op).trigger.isTriggeredSwap = true

theorem earned_poll (overflow : Overflow) {s : Scope capacity n α} (earned : s.trigger.Earned)
    (now : UInt32) (memory : Memory α) : (s.poll overflow now memory).2.trigger.Earned := by
  obtain ⟨same, recorded⟩ := s.poll_recorded overflow now memory
  exact earned.recorded same recorded

/-- The condition is exact: what does not meet it leaves a set without its event. -/
theorem earned_step_iff (overflow : Overflow) {s : Scope capacity n α} (earned : s.trigger.Earned)
    (op : Operation α) : (s.step overflow op).trigger.Earned ↔ s.KeepsTrigger op := by
  cases op with
  | poll now memory => exact iff_of_true (earned_poll overflow earned now memory) trivial
  | configureChannel i address type =>
      refine iff_of_true ?_ trivial
      dsimp only [step]
      exact configureChannel_cases s i address type (fun _ => earned)
        fun _ => earned_of_quiet earned (.inr ⟨rfl, rfl, rfl⟩)
  | configureTrigger conf => exact earned_configureTrigger_iff earned conf
  | configureTimestampIncrement increment =>
      exact iff_of_true (earned_of_quiet earned (.inr ⟨rfl, rfl, rfl⟩)) trivial
  | setChannelRunning i => exact iff_of_true (earned_setChannelRunning earned i) trivial
  | setChannelStopped i => exact iff_of_true (earned_setChannelStopped earned i) trivial
  | clear => exact earned_clear_iff
  | pack =>
      refine iff_of_true ?_ trivial
      dsimp only [step]
      exact Control.CommandPackData.run_cases s (fun _ => earned)
        (earned_of_quiet earned (.inr ⟨rfl, rfl, rfl⟩))

theorem selected_step (overflow : Overflow) {s : Scope capacity n α} (selected : s.trigger.Selected)
    (op : Operation α) : (s.step overflow op).trigger.Selected := by
  cases op with
  | poll now memory =>
      obtain ⟨same, -⟩ := s.poll_recorded overflow now memory
      exact selected.same same
  | configureTrigger conf =>
      dsimp only [step, configureTrigger, Trigger.configure]
      cases Trigger.configSanityCheck conf with
      | none => exact selected
      | some checked =>
          intro mode configured
          exact Option.some.inj configured
  | configureChannel i address type =>
      dsimp only [step]
      exact configureChannel_cases s i address type (fun _ => selected) fun _ => selected
  | configureTimestampIncrement increment => exact selected
  | setChannelRunning i =>
      exact selected.same (s.same_setChannelRunning i)
  | setChannelStopped i =>
      exact selected.same (s.same_setChannelStopped i)
  | clear => exact selected
  | pack =>
      dsimp only [step]
      exact Control.CommandPackData.run_cases s (fun _ => selected) selected

theorem deliversTriggered (overflow : Overflow) {s : Scope capacity n α} (earned : s.trigger.Earned)
    (selected : s.trigger.Selected) (op : Operation α) : s.DeliversTriggered overflow op := by
  intro sent mode
  cases op with
  | poll now memory =>
      have handed : (s.poll overflow now memory).1 = true := sent
      obtain ⟨same, recorded⟩ := s.poll_recorded overflow now memory
      rw [handed] at recorded
      have strategy : s.trigger.activeStrategy ≠ .continuous := by
        rcases mode with normal | oneshot
        · rw [selected _ (same.mode.symm.trans normal)]
          decide
        · rw [selected _ (same.mode.symm.trans oneshot)]
          decide
      cases recorded with
      | handsOver before after isTriggered => exact isTriggered.trans (earned before strategy)
  | _ => cases sent

/-- In a run that keeps the trigger, every set of a mode that waits for an event has had one. -/
theorem deliversTriggered_of_along [Zero α] (overflow : Overflow) (ops : List (Operation α))
    (keeps : Run.Along (step overflow) KeepsTrigger (create : Scope capacity n α) ops) :
    Run.Along (step overflow) (DeliversTriggered overflow) (create : Scope capacity n α) ops := by
  have preserved (s : Scope capacity n α) (op : Operation α)
      (inv : s.trigger.Earned ∧ s.trigger.Selected) (ok : s.KeepsTrigger op) :
      (s.step overflow op).trigger.Earned ∧ (s.step overflow op).trigger.Selected :=
    ⟨(earned_step_iff overflow inv.1 op).mpr ok, selected_step overflow inv.2 op⟩
  have seen (s : Scope capacity n α) (op : Operation α)
      (inv : s.trigger.Earned ∧ s.trigger.Selected) (_ : s.KeepsTrigger op) :
      s.DeliversTriggered overflow op := deliversTriggered overflow inv.1 inv.2 op
  have start : (create : Scope capacity n α).trigger.Earned ∧
      (create : Scope capacity n α).trigger.Selected := by
    constructor
    · intro completing
      exact absurd completing (Trigger.not_completing (.inl rfl))
    · intro mode configured
      cases configured
  exact keeps.observe _ preserved seen start

end Step

section Run
open Operation

/-- A one-shot acquisition of a rising signal, up to the poll that hands it over. -/
def oneshotRun : List (Operation Int) :=
  [.configureChannel 0 16 .seInt8, .configureTrigger ⟨2, true, 2, 0⟩, .setChannelRunning 0,
    steadyPoll 1, steadyPoll 2, steadyPoll 3]

theorem deliversTriggered_oneshot :
    (Run.exec (step .reject) (create : Scope 2 0 Int) oneshotRun).handsOver .reject (steadyPoll 4) = true ∧
      Run.Along (step .reject) (DeliversTriggered .reject) (create : Scope 2 0 Int)
        (oneshotRun ++ [steadyPoll 4]) := by
  refine ⟨by decide, deliversTriggered_of_along .reject _ ?_⟩
  refine ⟨trivial, ?_, trivial, trivial, trivial, trivial, trivial, trivial⟩
  intro accepted _ completing
  exact absurd completing (by decide)

/-- A continuous acquisition is filling up when it is made a one-shot one. The set
is handed over without an event, and the acquisition is over. -/
theorem deliversTriggered_fails :
    ¬ Run.Along (step .reject) (DeliversTriggered .reject) (create : Scope 2 0 Int)
      [.configureChannel 0 16 .seInt8, .setChannelRunning 0, steadyPoll 1,
        .configureTrigger ⟨2, true, 2, 0⟩, steadyPoll 2, steadyPoll 3] := by
  intro along
  have last := along.2.2.2.2.2.1
  exact absurd (last (by decide) (.inr (by decide))) (by decide)

end Run

end Scope

end Core
