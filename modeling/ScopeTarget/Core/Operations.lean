import ScopeTarget.Control.CommandPackData
import ScopeTarget.Base.Run

/-! Runs of the scope under the operations that polling, the host commands and
the packer perform on it, and what each of them does to the trigger. -/

namespace Core
open Control

/-- Whatever the host asks for, and the two things the target does by itself. -/
inductive Operation (α : Type*) where
  | poll (referenceTimestamp : UInt32) (memory : Memory α)
  | configureChannel (channelId pollAddress : Nat) (type : DataTypes)
  | configureTrigger (conf : TriggerConfiguration α)
  | configureTimestampIncrement (timestampIncrement : UInt32)
  | setChannelRunning (channelId : Nat)
  | setChannelStopped (channelId : Nat)
  | clear
  | pack

namespace Scope
variable {capacity n : Nat} {α : Type*} [LT α] [DecidableLT α] [BEq α]

def step (overflow : Overflow) (s : Scope capacity n α) : Operation α → Scope capacity n α
  | .poll now memory => (s.poll overflow now memory).2
  | .configureChannel i address type => s.configureChannel i address type
  | .configureTrigger conf => s.configureTrigger conf
  | .configureTimestampIncrement increment => s.configureTimestampIncrement increment
  | .setChannelRunning i => s.setChannelRunning i
  | .setChannelStopped i => s.setChannelStopped i
  | .clear => s.clear
  | .pack => (CommandPackData.run s).2

/-- A data set is handed over in this step. -/
def handsOver (overflow : Overflow) (s : Scope capacity n α) : Operation α → Bool
  | .poll now memory => (s.poll overflow now memory).1
  | _ => false

/-- The step records a sample of the channel. -/
def RecordsSample (s : Scope capacity n α) (i : Fin (n + 1)) : Operation α → Prop
  | .poll now _ => s.Sampled now ∧ (s.channels i).state = .running
  | _ => False

end Scope

namespace Trigger
variable {capacity n : Nat} {α : Type*}

/-- Everything a run of the trigger can do, with the state it starts from. -/
inductive Ran (t : Trigger capacity n α) : Bool × Trigger capacity n α → Prop
  | idles (origin : t.state = .idle) : Ran t (false, t)
  | resumes {t'} (origin : t.state = .paused) (strategy : t.activeStrategy ≠ .oneshot)
      (same : SameData t.restoreChannelStates t') (into : t'.state = .detecting) : Ran t (false, t')
  | staysPaused {t'} (origin : t.state = .paused) (same : SameData t t')
      (into : t'.state = .paused) : Ran t (false, t')
  | detects {t'} (origin : t.state = .detecting) (same : SameData t t')
      (into : t'.state = .detecting ∨ t'.state = .fillup) : Ran t (false, t')
  | fills {t'} (origin : t.state = .fillup) (same : SameData t t')
      (into : t'.state = .fillup) : Ran t (false, t')
  | filled {t'} (origin : t.state = .fillup) (full : t.activeChannel.pollBuffer.Full)
      (same : SameData t.safeChannelStates t') (into : t'.state = .cleanup) : Ran t (false, t')
  | stops {r} (origin : t.state = .cleanup) (stopped : Stopped t r) : Ran t r

theorem run_ran [LT α] [DecidableLT α] [BEq α] (t : Trigger capacity n α) : Ran t t.run := by
  unfold run
  cases state : t.state with
  | idle => exact .idles state
  | paused =>
      unfold start
      cases strategy : t.activeStrategy with
      | continuous =>
          exact .resumes state (by rw [strategy]; decide) (.of_channels rfl rfl rfl rfl rfl) rfl
      | normal =>
          exact .resumes state (by rw [strategy]; decide) (.of_channels rfl rfl rfl rfl rfl) rfl
      | oneshot => exact .staysPaused state t.sameData_clear state
  | detecting =>
      obtain ⟨same, into⟩ := t.detecting_outcome
      rw [state] at into
      exact .detects state same into
  | fillup =>
      have outcome := t.fillUp_outcome
      dsimp only
      generalize t.fillUp = t' at outcome
      cases outcome with
      | goesOn same kept => exact .fills state same (kept.trans state)
      | ends full same into => exact .filled state full same into
  | cleanup => exact .stops state t.stop_outcome

/-- The two samples of a channel have been taken out of its trigger stream. -/
def readStream (t : Trigger capacity n α) (i : Fin (n + 1)) (rest : Fifo 4 α) : Trigger capacity n α :=
  { t with channels := fun j => if j = i then (t.channels j).withStream rest else t.channels j }

/-- Everything a run of the trigger can do, with all of the trigger it leaves. -/
inductive Does (t : Trigger capacity n α) : Bool × Trigger capacity n α → Prop
  | idles (origin : t.state = .idle) : Does t (false, t)
  | resumes (origin : t.state = .paused) (strategy : t.activeStrategy ≠ .oneshot) :
      Does t (false, t.startWhenPaused.clear)
  | staysPaused (origin : t.state = .paused) (strategy : t.activeStrategy = .oneshot) :
      Does t (false, t.clear)
  | decides (origin : t.state = .detecting) (strategy : t.activeStrategy = .continuous) :
      Does t (false, t.detectNever)
  | gathers (origin : t.state = .detecting) (strategy : t.activeStrategy ≠ .continuous) :
      Does t (false, t)
  | misses (origin : t.state = .detecting) (strategy : t.activeStrategy ≠ .continuous)
      (i : Fin (n + 1)) (rest : Fifo 4 α) :
      Does t (false, { t.readStream i rest with isTriggeredPoll := false })
  | finds (origin : t.state = .detecting) (strategy : t.activeStrategy ≠ .continuous)
      (i : Fin (n + 1)) (rest : Fifo 4 α) :
      Does t (false, { t.readStream i rest with
        isTriggeredPoll := true
        triggerIndexPoll := t.timestamper.lastTimestamp
        state := .fillup })
  | fills (origin : t.state = .fillup) (count : UInt32) :
      Does t (false, { t with fillUpPollCount := count })
  | filled (origin : t.state = .fillup) (count : UInt32) :
      Does t (false, { t.safeChannelStates with state := .cleanup, fillUpPollCount := count })
  | stops (origin : t.state = .cleanup) : Does t (false, t.stopChannelsAndTimestamp)
  | handsOver (origin : t.state = .cleanup) (next : TriggerStates)
      (rests : next = .paused ∨ next = .idle) :
      Does t (true, { t.stopChannelsAndTimestamp.swapAll with
        isTriggeredSwap := t.isTriggeredPoll
        triggerIndexSwap := some t.triggerIndexPoll
        state := next
        fillUpPollCount := 0 })

section Does
variable {t : Trigger capacity n α}

theorem readStream_of_getTriggerData {taken : List α × Trigger capacity n α}
    (data : t.getTriggerData = some taken) : ∃ i rest, taken.2 = t.readStream i rest := by
  unfold getTriggerData at data
  split at data
  · cases data
  · rename_i i configured
    dsimp only at data
    split at data
    · cases data
    · cases data
      exact ⟨i, _, rfl⟩

theorem does_fillUp (origin : t.state = .fillup) : t.Does (false, t.fillUp) := by
  have counting : t.Does (false, t.fillUpIfTriggered) := by
    unfold fillUpIfTriggered
    dsimp only
    split
    · exact .fills origin _
    · split
      · exact .fills origin _
      · exact .filled origin _
  unfold fillUp
  cases t.activeStrategy with
  | normal => exact counting
  | oneshot => exact counting
  | continuous =>
      dsimp only [fillUpTillChannelFull]
      split
      · exact .fills origin t.fillUpPollCount
      · exact .filled origin t.fillUpPollCount

theorem does_stop (origin : t.state = .cleanup) : t.Does t.stop := by
  have into (next : TriggerStates) (rests : next = .paused ∨ next = .idle) :
      t.Does (t.stopInto next) := by
    unfold stopInto
    by_cases pending : t.SwapIsPending
    · rw [swapBuffers_of_pending (t.swapIsPending_stopped.mpr pending)]
      exact .handsOver origin next rests
    · rw [swapBuffers_of_not_pending fun h => pending (t.swapIsPending_stopped.mp h)]
      exact .stops origin
  unfold stop
  cases t.activeStrategy with
  | continuous => exact into .paused (.inl rfl)
  | normal => exact into .paused (.inl rfl)
  | oneshot => exact into .idle (.inr rfl)

theorem does_detecting [LT α] [DecidableLT α] [BEq α] (origin : t.state = .detecting) :
    t.Does (false, t.detecting) := by
  have edges (strategy : t.activeStrategy ≠ .continuous) : t.Does (false, t.detectNormal) := by
    unfold detectNormal
    split
    · exact .gathers origin strategy
    · cases data : t.getTriggerData with
      | none => exact .gathers origin strategy
      | some taken =>
          obtain ⟨i, rest, read⟩ := readStream_of_getTriggerData data
          dsimp only
          rw [read]
          split
          · exact .finds origin strategy i rest
          · exact .misses origin strategy i rest
  unfold detecting
  cases strategy : t.activeStrategy with
  | continuous => exact .decides origin strategy
  | normal => exact edges (by rw [strategy]; decide)
  | oneshot => exact edges (by rw [strategy]; decide)

theorem does_run [LT α] [DecidableLT α] [BEq α] (t : Trigger capacity n α) : t.Does t.run := by
  unfold run
  cases origin : t.state with
  | idle => exact .idles origin
  | paused =>
      unfold start
      cases strategy : t.activeStrategy with
      | continuous => exact .resumes origin (by rw [strategy]; decide)
      | normal => exact .resumes origin (by rw [strategy]; decide)
      | oneshot => exact .staysPaused origin strategy
  | detecting => exact does_detecting origin
  | fillup => exact does_fillUp origin
  | cleanup => exact does_stop origin

end Does

end Trigger

namespace Scope
variable {capacity n : Nat} {α : Type*} [LT α] [DecidableLT α] [BEq α]

theorem poll_of_sampled (overflow : Overflow) {s : Scope capacity n α} {now : UInt32}
    (sampled : s.Sampled now) (memory : Memory α) :
    ((s.poll overflow now memory).1, (s.poll overflow now memory).2.trigger) =
      (s.sample overflow now memory).run := by
  obtain ⟨ready, elapsed⟩ := sampled
  simp only [poll, ready, elapsed, Bool.true_eq_false, if_false]

theorem poll_of_not_sampled (overflow : Overflow) {s : Scope capacity n α} {now : UInt32}
    (early : ¬ s.Sampled now) (memory : Memory α) :
    (s.poll overflow now memory).1 = false ∧ (s.poll overflow now memory).2.trigger = s.trigger := by
  unfold poll
  split
  · exact ⟨rfl, rfl⟩
  · rename_i ready
    split
    · exact ⟨rfl, rfl⟩
    · rename_i elapsed
      exact absurd ⟨Bool.not_eq_false _ ▸ ready, Bool.not_eq_false _ ▸ elapsed⟩ early

/-- A poll that takes no sample leaves the trigger alone, the others run it. -/
theorem poll_outcome (overflow : Overflow) (s : Scope capacity n α) (now : UInt32)
    (memory : Memory α) :
    (s.poll overflow now memory).2.scopeIsReadyToRun = s.scopeIsReadyToRun ∧
      ((¬ s.Sampled now ∧ (s.poll overflow now memory).1 = false ∧
          (s.poll overflow now memory).2.trigger = s.trigger) ∨
        (s.Sampled now ∧ (s.sample overflow now memory).Ran
          ((s.poll overflow now memory).1, (s.poll overflow now memory).2.trigger))) := by
  have ready : (s.poll overflow now memory).2.scopeIsReadyToRun = s.scopeIsReadyToRun := by
    unfold poll
    split
    · rfl
    · split
      · rfl
      · rfl
  refine ⟨ready, ?_⟩
  by_cases sampled : s.Sampled now
  · right
    rw [poll_of_sampled overflow sampled memory]
    exact ⟨sampled, Trigger.run_ran _⟩
  · exact .inl ⟨sampled, poll_of_not_sampled overflow sampled memory⟩

end Scope

namespace Operation

/-- At the time `k` every address reads as `k`. -/
def steadyPoll (k : Nat) : Operation Int := .poll (UInt32.ofNat k) fun _ _ => k

/-- Two channels run, and one poll has been taken. -/
def twoChannels : List (Operation Int) :=
  [.configureChannel 0 16 .seInt8, .configureChannel 1 32 .seInt8, .setChannelRunning 0,
    .setChannelRunning 1, steadyPoll 1]

end Operation

end Core
