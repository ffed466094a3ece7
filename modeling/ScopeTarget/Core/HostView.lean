import ScopeTarget.Core.Invariants

/-! What the host knows of the channels: which of them it has last told to run.
A stop of one channel has to leave the others to the acquisition. -/

namespace Core

/-- The scope with the channels the host gave an address to and those it has
started since and not stopped. -/
structure Watched (capacity n : Nat) (α : Type*) where
  scope : Scope capacity n α
  addressed : Fin (n + 1) → Bool
  wanted : Fin (n + 1) → Bool

namespace Watched
variable {capacity n : Nat} {α : Type*}

def create [Zero α] : Watched capacity n α := ⟨Scope.create, fun _ => false, fun _ => false⟩

def address (w : Watched capacity n α) : Operation α → Fin (n + 1) → Bool
  | .configureChannel id _ _, i => i.val = id ∨ w.addressed i = true
  | _, i => w.addressed i

def want (w : Watched capacity n α) : Operation α → Fin (n + 1) → Bool
  | .setChannelRunning id, i => if i.val = id then w.addressed i else w.wanted i
  | .setChannelStopped id, i => if i.val = id then false else w.wanted i
  | _, i => w.wanted i

def step [LT α] [DecidableLT α] [BEq α] (overflow : Overflow) (w : Watched capacity n α)
    (op : Operation α) : Watched capacity n α :=
  ⟨w.scope.step overflow op, w.address op, w.want op⟩

end Watched

/-- The operation does not put the trigger into the mode that ends after one event. -/
def Operation.KeepsRepeating {α : Type*} (n : Nat) : Operation α → Prop
  | .configureTrigger conf => ∀ channelId : Fin (n + 1),
      Trigger.configSanityCheck conf ≠ some (.oneshot, channelId)
  | _ => True

namespace Trigger
variable {capacity n : Nat} {α : Type*}

/-- Every wanted channel is running, or the trigger remembers to resume it. -/
structure Serves (addressed wanted : Fin (n + 1) → Bool) (ready : Bool) (phase : TriggerStates)
    (t : Trigger capacity n α) : Prop where
  configured : ∀ i, addressed i = true → (t.channels i).Configured
  known : ∀ i, wanted i = true → addressed i = true
  awake : ∀ i, wanted i = true → ready = true ∧ phase ≠ .idle
  running : ∀ i, wanted i = true → phase = .detecting ∨ phase = .fillup →
    (t.channels i).state = .running
  flagged : ∀ i, wanted i = true → phase = .cleanup ∨ phase = .paused →
    t.channelIsRunning i = true
  repeating : t.activeStrategy ≠ .oneshot

namespace Serves
variable {addressed wanted : Fin (n + 1) → Bool} {ready : Bool} {phase : TriggerStates}
  {t t' : Trigger capacity n α}

theorem same (same : SameData t t') (serves : Serves addressed wanted ready phase t) :
    Serves addressed wanted ready phase t' where
  configured i h := by
    rw [Channel.Configured, same.state]
    exact serves.configured i h
  known := serves.known
  awake := serves.awake
  running i h at_ := by
    rw [same.state]
    exact serves.running i h at_
  flagged i h at_ := by
    rw [same.flags]
    exact serves.flagged i h at_
  repeating := by
    rw [same.activeStrategy]
    exact serves.repeating

theorem detects (serves : Serves addressed wanted ready .detecting t) :
    Serves addressed wanted ready .fillup t where
  configured := serves.configured
  known := serves.known
  awake i h := ⟨(serves.awake i h).1, by decide⟩
  running i h _ := serves.running i h (.inl rfl)
  flagged _ _ waiting := by rcases waiting with waiting | waiting <;> cases waiting
  repeating := serves.repeating

/-- Restoring brings every wanted channel back, from wherever it was left. -/
theorem restore (configured : ∀ i, addressed i = true → (t.channels i).Configured)
    (known : ∀ i, wanted i = true → addressed i = true)
    (left : ∀ i, wanted i = true →
      (t.channels i).state = .running ∨ t.channelIsRunning i = true)
    (repeating : t.activeStrategy ≠ .oneshot) :
    Serves addressed wanted true .detecting t.restoreChannelStates where
  configured i h := by
    dsimp only [restoreChannelStates]
    split
    · exact (Channel.configured_of_setStateRunning _).mpr (configured i h)
    · exact configured i h
  known := known
  awake _ _ := ⟨rfl, by decide⟩
  running i h _ := by
    dsimp only [restoreChannelStates]
    split
    · exact Channel.configured_setStateRunning _ (configured i (known i h))
    · rename_i unflagged
      exact (left i h).resolve_right unflagged
  flagged _ _ waiting := by rcases waiting with waiting | waiting <;> cases waiting
  repeating := repeating

theorem activate (configured : ∀ i, addressed i = true → (t.channels i).Configured)
    (known : ∀ i, wanted i = true → addressed i = true)
    (left : ∀ i, wanted i = true →
      (t.channels i).state = .running ∨ t.channelIsRunning i = true)
    (repeating : t.activeStrategy ≠ .oneshot) :
    Serves addressed wanted true .detecting t.activate :=
  { restore configured known left repeating with }

theorem safe (serves : Serves addressed wanted ready .fillup t) :
    Serves addressed wanted ready .cleanup t.safeChannelStates where
  configured := serves.configured
  known := serves.known
  awake i h := ⟨(serves.awake i h).1, by decide⟩
  running _ _ working := by rcases working with working | working <;> cases working
  flagged i h _ := (t.channels i).isRunning_iff.mpr (serves.running i h (.inr rfl))
  repeating := serves.repeating

theorem stopped (serves : Serves addressed wanted ready .cleanup t) :
    Serves addressed wanted ready .cleanup t.stopChannelsAndTimestamp where
  configured i h := (Channel.configured_of_setStateStopped _).mpr (serves.configured i h)
  known := serves.known
  awake := serves.awake
  running _ _ working := by rcases working with working | working <;> cases working
  flagged := serves.flagged
  repeating := serves.repeating

theorem handedOver (serves : Serves addressed wanted ready .cleanup t) :
    Serves addressed wanted ready .paused t.stopChannelsAndTimestamp.swapAll where
  configured i h := (Channel.configured_of_setStateStopped _).mpr (serves.configured i h)
  known := serves.known
  awake i h := ⟨(serves.awake i h).1, by decide⟩
  running _ _ working := by rcases working with working | working <;> cases working
  flagged i h _ := serves.flagged i h (.inl rfl)
  repeating := serves.repeating

/-- A channel is served as soon as it runs or is remembered. -/
theorem left (serves : Serves addressed wanted ready phase t) {i : Fin (n + 1)} (h : wanted i = true) :
    (t.channels i).state = .running ∨ t.channelIsRunning i = true := by
  cases phase with
  | idle => exact absurd rfl (serves.awake i h).2
  | detecting => exact .inl (serves.running i h (.inl rfl))
  | fillup => exact .inl (serves.running i h (.inr rfl))
  | cleanup => exact .inr (serves.flagged i h (.inl rfl))
  | paused => exact .inr (serves.flagged i h (.inr rfl))

theorem ran {r : Bool × Trigger capacity n α} (serves : Serves addressed wanted ready t.state t)
    (ran : Ran t r) : Serves addressed wanted ready r.2.state r.2 := by
  cases ran with
  | idles => exact serves
  | resumes origin strategy same into =>
      rw [into]
      have restored : Serves addressed wanted true .detecting t.restoreChannelStates :=
        restore serves.configured serves.known (fun i h => serves.left h) strategy
      have served : Serves addressed wanted ready .detecting t.restoreChannelStates :=
        { restored with awake := fun i h => ⟨(serves.awake i h).1, by decide⟩ }
      exact served.same same
  | staysPaused origin same into =>
      rw [origin] at serves
      rw [into]
      exact serves.same same
  | detects origin same into =>
      rw [origin] at serves
      rcases into with into | into
      · rw [into]
        exact serves.same same
      · rw [into]
        exact serves.detects.same same
  | fills origin same into =>
      rw [origin] at serves
      rw [into]
      exact serves.same same
  | filled origin full same into =>
      rw [origin] at serves
      rw [into]
      exact serves.safe.same same
  | stops origin stopped =>
      have repeating := serves.repeating
      rw [origin] at serves
      cases stopped with
      | waits => exact origin ▸ serves.stopped
      | handsOver pending same into =>
          rw [into, if_neg repeating]
          exact serves.handedOver.same same

end Serves

end Trigger

namespace Watched
variable {capacity n : Nat} {α : Type*}

/-- Stopping one channel leaves every other wanted channel served. -/
def StopsOnlyIt (w : Watched capacity n α) : Operation α → Prop
  | .setChannelStopped id => id < n + 1 → ∀ d : Fin (n + 1), d.val ≠ id → w.wanted d = true →
      (w.scope.setChannelStopped id).scopeIsReadyToRun = true ∧
      (w.scope.setChannelStopped id).trigger.state ≠ .idle ∧
      (((w.scope.setChannelStopped id).channels d).state = .running ∨
        (w.scope.setChannelStopped id).trigger.channelIsRunning d = true)
  | _ => True

/-- When a channel is stopped and another one is wanted, another one is running. -/
def AnotherRuns (w : Watched capacity n α) : Operation α → Prop
  | .setChannelStopped id => id < n + 1 →
      (∃ d : Fin (n + 1), d.val ≠ id ∧ w.wanted d = true) →
        ∃ e : Fin (n + 1), e.val ≠ id ∧ (w.scope.channels e).state = .running
  | _ => True

def Served (w : Watched capacity n α) : Prop :=
  w.scope.trigger.Serves w.addressed w.wanted w.scope.scopeIsReadyToRun w.scope.trigger.state

theorem served_create [Zero α] : (create : Watched capacity n α).Served where
  configured _ h := by cases h
  known _ h := by cases h
  awake _ h := by cases h
  running _ h := by cases h
  flagged _ h := by cases h
  repeating := by
    intro h
    cases h

/-- A change of one channel that no wanted channel notices. -/
theorem Served.modifyChannel {w : Watched capacity n α} (served : w.Served) (i : Fin (n + 1))
    {f : Channel capacity α → Channel capacity α} {addressed wanted : Fin (n + 1) → Bool}
    (configured : ∀ j, addressed j = true → ((w.scope.modifyChannel i f).channels j).Configured)
    (known : ∀ j, wanted j = true → addressed j = true)
    (fewer : ∀ j, wanted j = true → w.wanted j = true ∧
      ((w.scope.channels j).state = .running →
        ((w.scope.modifyChannel i f).channels j).state = .running)) :
    Served ⟨w.scope.modifyChannel i f, addressed, wanted⟩ where
  configured := configured
  known := known
  awake j h := served.awake j (fewer j h).1
  running j h working := (fewer j h).2 (served.running j (fewer j h).1 working)
  flagged j h waiting := served.flagged j (fewer j h).1 waiting
  repeating := served.repeating

theorem configured_modifyChannel {s : Scope capacity n α} {i j : Fin (n + 1)}
    {f : Channel capacity α → Channel capacity α}
    (keeps : (s.channels j).Configured → (f (s.channels j)).Configured)
    (h : (s.channels j).Configured) : ((s.modifyChannel i f).channels j).Configured := by
  by_cases here : j = i
  · cases here
    rw [Scope.modifyChannel_same]
    exact keeps h
  · rw [Scope.modifyChannel_other s here]
    exact h

section Step
variable [LT α] [DecidableLT α] [BEq α]

theorem served_poll {overflow : Overflow} {w : Watched capacity n α} (served : w.Served)
    (now : UInt32) (memory : Memory α) : (w.step overflow (.poll now memory)).Served := by
  obtain ⟨ready, ⟨-, -, trigger⟩ | ⟨-, ran⟩⟩ := w.scope.poll_outcome overflow now memory
  · have same : (w.step overflow (.poll now memory)).scope.trigger = w.scope.trigger := trigger
    have kept : (w.step overflow (.poll now memory)).scope.scopeIsReadyToRun
      = w.scope.scopeIsReadyToRun := ready
    rw [Served, same, kept]
    exact served
  · have kept : (w.step overflow (.poll now memory)).scope.scopeIsReadyToRun
      = w.scope.scopeIsReadyToRun := ready
    have sampled : (w.scope.sample overflow now memory).Serves w.addressed w.wanted
        w.scope.scopeIsReadyToRun w.scope.trigger.state := by
      have state (i) : ((w.scope.sample overflow now memory).channels i).state
          = (w.scope.trigger.channels i).state := Channel.state_poll _ memory
      refine ⟨fun i h => ?_, served.known, served.awake, fun i h working => ?_, served.flagged,
        served.repeating⟩
      · rw [Channel.Configured, state]
        exact served.configured i h
      · rw [state]
        exact served.running i h working
    rw [Served, kept]
    exact sampled.ran ran

theorem served_setChannelRunning {overflow : Overflow} {w : Watched capacity n α}
    (served : w.Served) (id : Nat) : (w.step overflow (.setChannelRunning id)).Served := by
  have configured (inRange : id < n + 1) (j) (h : w.addressed j = true) :
      ((w.scope.modifyChannel ⟨id, inRange⟩ Channel.setStateRunning).channels j).Configured :=
    configured_modifyChannel (Channel.configured_of_setStateRunning _).mpr (served.configured j h)
  have known (j) (h : w.want (.setChannelRunning id) j = true) : w.addressed j = true := by
    dsimp only [want] at h
    split at h
    · exact h
    · exact served.known j h
  have step : w.step overflow (.setChannelRunning id) =
      ⟨w.scope.setChannelRunning id, w.addressed, w.want (.setChannelRunning id)⟩ := rfl
  rw [step]
  refine Scope.setChannelRunning_cases w.scope id (fun outOfRange => ?_) (fun inRange allStopped => ?_)
    fun inRange _ => ?_
  · have wanted : w.want (.setChannelRunning id) = w.wanted := by
      funext j
      exact if_neg fun here => outOfRange (Nat.lt_of_le_of_lt (Nat.le_of_eq here.symm) j.isLt)
    rw [wanted]
    exact served
  · -- an addressed channel would be running now
    have elsewhere (j) (h : w.addressed j = true) : j ≠ ⟨id, inRange⟩ := by
      intro here
      refine allStopped j ?_
      rw [here, Scope.modifyChannel_same]
      exact Channel.configured_setStateRunning _ (here ▸ served.configured j h)
    refine served.modifyChannel _ (configured inRange) known fun j h => ?_
    have other := elsewhere j (known j h)
    dsimp only [want] at h
    rw [if_neg fun here => other (Fin.ext here)] at h
    exact ⟨h, Scope.running_started ⟨id, inRange⟩⟩
  · refine Trigger.Serves.activate (configured inRange) known (fun j h => ?_) served.repeating
    by_cases here : j = ⟨id, inRange⟩
    · left
      dsimp only [Scope.modifyChannel]
      rw [if_pos here]
      exact Channel.configured_setStateRunning _ (served.configured j (known j h))
    · dsimp only [want] at h
      rw [if_neg fun same => here (Fin.ext same)] at h
      dsimp only [Scope.modifyChannel]
      rw [if_neg here]
      exact served.left h

theorem served_setChannelStopped {overflow : Overflow} {w : Watched capacity n α}
    (served : w.Served) (id : Nat) (another : w.AnotherRuns (.setChannelStopped id)) :
    (w.step overflow (.setChannelStopped id)).Served := by
  have configured (inRange : id < n + 1) (j) (h : w.addressed j = true) :
      ((w.scope.modifyChannel ⟨id, inRange⟩ Channel.setStateStopped).channels j).Configured :=
    configured_modifyChannel (Channel.configured_of_setStateStopped _).mpr (served.configured j h)
  have others (j) (h : w.want (.setChannelStopped id) j = true) :
      j.val ≠ id ∧ w.wanted j = true := by
    dsimp only [want] at h
    split at h
    · cases h
    · rename_i other
      exact ⟨other, h⟩
  have step : w.step overflow (.setChannelStopped id) =
      ⟨w.scope.setChannelStopped id, w.addressed, w.want (.setChannelStopped id)⟩ := rfl
  rw [step]
  refine Scope.setChannelStopped_cases w.scope id (fun outOfRange => ?_) (fun inRange allStopped => ?_)
    fun inRange _ => ?_
  · have wanted : w.want (.setChannelStopped id) = w.wanted := by
      funext j
      exact if_neg fun here => outOfRange (Nat.lt_of_le_of_lt (Nat.le_of_eq here.symm) j.isLt)
    rw [wanted]
    exact served
  · have none (j) (h : w.want (.setChannelStopped id) j = true) : False := by
      obtain ⟨other, wanted⟩ := others j h
      obtain ⟨e, different, running⟩ := another inRange ⟨j, other, wanted⟩
      refine allStopped e ?_
      rw [Scope.modifyChannel_other w.scope fun here => different (congrArg Fin.val here)]
      exact running
    refine ⟨fun j h => ?_, fun j h => (none j h).elim, fun j h => (none j h).elim,
      fun j h => (none j h).elim, fun j h => (none j h).elim, served.repeating⟩
    exact (Channel.configured_of_setStateStopped _).mpr (configured inRange j h)
  · refine served.modifyChannel _ (configured inRange) (fun j h => served.known j (others j h).2)
      fun j h => ⟨(others j h).2, fun running => ?_⟩
    rw [Scope.modifyChannel_other w.scope fun here => (others j h).1 (congrArg Fin.val here)]
    exact running

theorem served_configureChannel {overflow : Overflow} {w : Watched capacity n α}
    (served : w.Served) (id pollAddress : Nat) (type : DataTypes) :
    (w.step overflow (.configureChannel id pollAddress type)).Served := by
  have addressed (j : Fin (n + 1)) (h : w.addressed j = true) :
      w.address (.configureChannel id pollAddress type) j = true :=
    decide_eq_true (.inr h)
  have step : w.step overflow (.configureChannel id pollAddress type) =
      ⟨w.scope.configureChannel id pollAddress type,
        w.address (.configureChannel id pollAddress type), w.wanted⟩ := rfl
  rw [step, Scope.configureChannel]
  split
  · rename_i inRange
    refine served.modifyChannel _ (fun j h => ?_) (fun j h => addressed j (served.known j h))
      fun j h => ⟨h, fun running => ?_⟩
    · rcases of_decide_eq_true h with here | before
      · have same : j = ⟨id, inRange⟩ := Fin.ext here
        rw [same, Scope.modifyChannel_same]
        exact Channel.configured_setPollAddress _ _ _
      · exact configured_modifyChannel (fun _ => Channel.configured_setPollAddress _ _ _)
          (served.configured j before)
    · by_cases here : j = ⟨id, inRange⟩
      · rw [here, Scope.modifyChannel_same]
        exact (Channel.running_setPollAddress _).mpr (here ▸ running)
      · rw [Scope.modifyChannel_other w.scope here]
        exact running
  · rename_i outOfRange
    refine ⟨fun j h => ?_, fun j h => addressed j (served.known j h), served.awake, served.running,
      served.flagged, served.repeating⟩
    rcases of_decide_eq_true h with here | before
    · exact absurd (Nat.lt_of_le_of_lt (Nat.le_of_eq here.symm) j.isLt) outOfRange
    · exact served.configured j before

theorem served_configureTrigger {overflow : Overflow} {w : Watched capacity n α}
    (served : w.Served) (conf : TriggerConfiguration α)
    (repeating : Operation.KeepsRepeating n (.configureTrigger conf)) :
    (w.step overflow (.configureTrigger conf)).Served := by
  dsimp only [step, Scope.step, Scope.configureTrigger, Trigger.configure, Served]
  cases checked : (Trigger.configSanityCheck conf : Option (TriggerMode × Fin (n + 1))) with
  | none => exact served
  | some accepted =>
      have mode : accepted.1 ≠ .oneshot := by
        intro oneshot
        refine repeating accepted.2 ?_
        rw [checked, ← oneshot]
      exact { served with repeating := mode }

theorem served_pack {overflow : Overflow} {w : Watched capacity n α} (served : w.Served) :
    (w.step overflow .pack).Served := by
  have state := Control.CommandPackData.state_drain w.scope
  dsimp only [step, Scope.step, Served]
  refine Control.CommandPackData.run_cases w.scope (fun _ => served) ⟨fun j h => ?_, served.known,
    served.awake, fun j h working => ?_, served.flagged, served.repeating⟩
  · exact (served.configured j h).imp (state j).trans (state j).trans
  · exact (state j).trans (served.running j h working)

theorem served_step {overflow : Overflow} {w : Watched capacity n α} (op : Operation α)
    (served : w.Served) (repeating : op.KeepsRepeating n) (another : w.AnotherRuns op) :
    (w.step overflow op).Served := by
  cases op with
  | poll now memory => exact served_poll served now memory
  | configureChannel id pollAddress type => exact served_configureChannel served id pollAddress type
  | configureTrigger conf => exact served_configureTrigger served conf repeating
  | configureTimestampIncrement increment => exact { served with }
  | setChannelRunning id => exact served_setChannelRunning served id
  | setChannelStopped id => exact served_setChannelStopped served id another
  | clear => exact { served with }
  | pack => exact served_pack served

end Step

theorem stopsOnlyIt_of_served {w : Watched capacity n α} (served : w.Served) {op : Operation α}
    (another : w.AnotherRuns op) : w.StopsOnlyIt op := by
  cases op with
  | setChannelStopped id =>
      intro inRange d other wanted
      obtain ⟨e, different, running⟩ := another inRange ⟨d, other, wanted⟩
      have apart : e ≠ ⟨id, inRange⟩ := fun here => different (congrArg Fin.val here)
      have only : w.scope.setChannelStopped id =
          w.scope.modifyChannel ⟨id, inRange⟩ Channel.setStateStopped :=
        Scope.setChannelStopped_of_other apart running
      rw [only]
      obtain ⟨ready, working⟩ := served.awake d wanted
      refine ⟨ready, working, ?_⟩
      rw [Scope.modifyChannel_other w.scope fun here => other (congrArg Fin.val here)]
      exact served.left wanted
  | _ => trivial

/-- Without another running channel, a stop shuts the whole scope down. -/
theorem anotherRuns_of_stopsOnlyIt {w : Watched capacity n α} {op : Operation α}
    (only : w.StopsOnlyIt op) : w.AnotherRuns op := by
  cases op with
  | setChannelStopped id =>
      intro inRange ⟨d, other, wanted⟩
      by_contra alone
      have allStopped : (w.scope.modifyChannel ⟨id, inRange⟩ Channel.setStateStopped).allChannelsAreStopped
          = true := by
        rw [Scope.allChannelsAreStopped_iff]
        intro e runs
        obtain ⟨other, running⟩ := Scope.running_of_stopped runs
        exact alone ⟨e, fun same => other (Fin.ext same), running⟩
      have ready := (only inRange d other wanted).1
      rw [Scope.setChannelStopped, dif_pos inRange] at ready
      dsimp only at ready
      rw [if_pos allStopped] at ready
      cases ready
  | _ => trivial

section Step
variable [LT α] [DecidableLT α] [BEq α] [Zero α]

theorem stopsOnlyIt_iff (overflow : Overflow) (ops : List (Operation α))
    (repeating : ∀ op ∈ ops, op.KeepsRepeating n) :
    Run.Along (step overflow) StopsOnlyIt (create : Watched capacity n α) ops ↔
      Run.Along (step overflow) AnotherRuns (create : Watched capacity n α) ops := by
  constructor
  · intro only
    exact only.mono _ fun _ _ => anotherRuns_of_stopsOnlyIt
  · intro another
    have preserved (w : Watched capacity n α) (op : Operation α) (served : w.Served)
        (ok : op.KeepsRepeating n ∧ w.AnotherRuns op) : (w.step overflow op).Served :=
      served_step op served ok.1 ok.2
    have seen (w : Watched capacity n α) (op : Operation α) (served : w.Served)
        (ok : op.KeepsRepeating n ∧ w.AnotherRuns op) : w.StopsOnlyIt op :=
      stopsOnlyIt_of_served served ok.2
    have both := (Run.Along.of_forall (step overflow) repeating).and _ another
    exact both.observe _ preserved seen served_create

end Step

section Run
open Operation

/-- While both channels run, either may be stopped without harm to the other. -/
theorem stopsOnlyIt_while_running :
    Run.Along (step .evict) StopsOnlyIt (create : Watched 2 1 Int)
      (twoChannels ++ [.setChannelStopped 1]) := by
  refine (stopsOnlyIt_iff .evict _ ?_).mpr ?_
  · intro op member
    simp only [twoChannels, List.cons_append, List.nil_append, List.mem_cons, List.not_mem_nil,
      or_false] at member
    rcases member with rfl | rfl | rfl | rfl | rfl | rfl <;> trivial
  · exact ⟨trivial, trivial, trivial, trivial, trivial, fun _ _ => ⟨0, by decide, by decide⟩, trivial⟩

/-- After a hand-over the trigger has stopped both channels itself: a stop of one
of them then shuts down the scope although the other is wanted. -/
theorem stopsOnlyIt_fails :
    ¬ Run.Along (step .evict) StopsOnlyIt (create : Watched 2 1 Int)
      (twoChannels ++ [steadyPoll 2, steadyPoll 3, .setChannelStopped 1]) := by
  intro along
  have last := ((Run.along_append _ _ _ (twoChannels ++ [steadyPoll 2, steadyPoll 3])
    [.setChannelStopped 1]).mp along).2.1
  have ready := (last (by decide) 0 (by decide) (by decide)).1
  exact absurd ready (by decide)

end Run

end Watched

end Core
