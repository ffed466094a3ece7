import ScopeTarget.Control.DataMessages
import ScopeTarget.Base.Run

/-! What a one-shot acquisition leaves behind. Once its set has been handed over, the scope
rests until the next start, whatever else it is asked to do. -/

namespace Core

namespace Trigger
variable {capacity n : Nat} {α : Type*}

/-- The trigger is idle, and neither a channel nor the timestamper runs. -/
structure Rests (t : Trigger capacity n α) : Prop where
  idle : t.state = .idle
  still : ∀ i, (t.channels i).state ≠ .running
  unstamped : t.timestamper.state = .stopped

theorem Rests.same {t t' : Trigger capacity n α} (rests : t.Rests) (idle : t'.state = t.state)
    (states : ∀ i, (t'.channels i).state = (t.channels i).state)
    (stamping : t'.timestamper.state = t.timestamper.state) : t'.Rests := by
  refine ⟨idle.trans rests.idle, fun i => ?_, stamping.trans rests.unstamped⟩
  rw [states i]
  exact rests.still i

theorem rests_deactivate (t : Trigger capacity n α) : t.deactivate.Rests :=
  ⟨rfl, fun _ => Channel.not_running_setStateStopped _, rfl⟩

section Run
variable [LT α] [DecidableLT α] [BEq α]

theorem run_of_rests {t : Trigger capacity n α} (rests : t.Rests) : t.run = (false, t) := by
  unfold run
  rw [rests.idle]

/-- In one-shot mode the trigger goes idle with the set it hands over. -/
theorem rests_of_handsOver {t : Trigger capacity n α} (oneShot : t.activeStrategy = .oneshot)
    (sent : t.run.1 = true) : t.run.2.Rests := by
  have ran := t.run_ran
  generalize t.run = r at ran sent
  cases ran with
  | idles => cases sent
  | resumes => cases sent
  | staysPaused => cases sent
  | detects => cases sent
  | fills => cases sent
  | filled => cases sent
  | stops origin stopped =>
      cases stopped with
      | waits => cases sent
      | handsOver pending same into =>
          refine ⟨into.trans (if_pos oneShot), fun i => ?_, same.stamping⟩
          rw [same.state i]
          exact Channel.not_running_setStateStopped _

end Run

end Trigger

namespace Scope
variable {capacity n : Nat} {α : Type*}

/-- The step records a stamp. -/
def RecordsStamp (s : Scope capacity n α) : Operation α → Prop
  | .poll now _ => s.Sampled now ∧ s.timestamper.state = .running
  | _ => False

theorem not_recordsStamp {s : Scope capacity n α} (rests : s.trigger.Rests) (op : Operation α) :
    ¬ s.RecordsStamp op := by
  intro records
  cases op with
  | poll now memory =>
      have running : s.trigger.timestamper.state = .running := records.2
      rw [rests.unstamped] at running
      cases running
  | _ => exact records

theorem rests_modifyChannel {s : Scope capacity n α} (rests : s.trigger.Rests) (i : Fin (n + 1))
    {f : Channel capacity α → Channel capacity α}
    (still : ∀ c : Channel capacity α, c.state ≠ .running → (f c).state ≠ .running) :
    (s.modifyChannel i f).trigger.Rests := by
  refine ⟨rests.idle, fun j => ?_, rests.unstamped⟩
  change ((s.modifyChannel i f).channels j).state ≠ _
  by_cases here : j = i
  · subst here
    rw [modifyChannel_same]
    exact still _ (rests.still j)
  · rw [modifyChannel_other s here]
    exact rests.still j

section Step
variable [LT α] [DecidableLT α] [BEq α] (overflow : Overflow)

theorem poll_of_rests {s : Scope capacity n α} (rests : s.trigger.Rests) (now : UInt32) (memory : Memory α) :
    (s.poll overflow now memory).1 = false ∧ (s.poll overflow now memory).2.trigger.Rests := by
  by_cases sampled : s.Sampled now
  · have ran := poll_of_sampled overflow sampled memory
    have still : (s.sample overflow now memory).Rests :=
      rests.same rfl (fun i => (s.trigger.channels i).state_poll memory) rfl
    rw [Trigger.run_of_rests still] at ran
    obtain ⟨waits, trigger⟩ := Prod.mk.inj ran
    rw [trigger]
    exact ⟨waits, still⟩
  · obtain ⟨waits, trigger⟩ := poll_of_not_sampled overflow sampled memory
    rw [trigger]
    exact ⟨waits, rests⟩

/-- A scope that rests is only woken by a start. -/
theorem rests_step {s : Scope capacity n α} (rests : s.trigger.Rests) {op : Operation α} (pack : op ≠ .pack)
    (start : ∀ id, op ≠ .setChannelRunning id) :
    s.handsOver overflow op = false ∧ (∀ i, ¬ s.RecordsSample i op) ∧
      (s.step overflow op).trigger.Rests := by
  cases op with
  | poll now memory =>
      obtain ⟨waits, still⟩ := poll_of_rests overflow rests now memory
      exact ⟨waits, fun i records => rests.still i records.2, still⟩
  | configureChannel id address type =>
      refine ⟨rfl, fun i records => records, ?_⟩
      change (s.configureChannel id address type).trigger.Rests
      refine configureChannel_cases s id address type (fun _ => rests) fun inRange => ?_
      apply rests_modifyChannel rests
      intro c still
      rw [Ne, Channel.running_setPollAddress]
      exact still
  | configureTrigger conf =>
      refine ⟨rfl, fun i records => records, ?_⟩
      change (s.trigger.configure conf).Rests
      unfold Trigger.configure
      split
      · exact rests
      · exact rests.same rfl (fun _ => rfl) rfl
  | configureTimestampIncrement increment =>
      exact ⟨rfl, fun i records => records, rests.same rfl (fun _ => rfl) rfl⟩
  | setChannelRunning id => exact absurd rfl (start id)
  | setChannelStopped id =>
      refine ⟨rfl, fun i records => records, ?_⟩
      change (s.setChannelStopped id).trigger.Rests
      refine setChannelStopped_cases s id (fun _ => rests) (fun _ _ => Trigger.rests_deactivate _) ?_
      intro inRange _
      exact rests_modifyChannel rests _ fun c _ => c.not_running_setStateStopped
  | clear => exact ⟨rfl, fun i records => records, rests.same rfl (fun _ => rfl) rfl⟩
  | pack => exact absurd rfl pack

theorem rests_of_handsOver {s : Scope capacity n α} {op : Operation α}
    (oneShot : s.trigger.activeStrategy = .oneshot) (sent : s.handsOver overflow op = true) :
    (s.step overflow op).trigger.Rests := by
  cases op with
  | poll now memory =>
      by_cases sampled : s.Sampled now
      · have ran := poll_of_sampled overflow sampled memory
        have handed : (s.sample overflow now memory).run.1 = true := (congrArg Prod.fst ran).symm.trans sent
        have mode : (s.sample overflow now memory).activeStrategy = .oneshot := oneShot
        have rests := Trigger.rests_of_handsOver mode handed
        rw [← ran] at rests
        exact rests
      · have waits := (poll_of_not_sampled overflow sampled memory).1
        cases waits.symm.trans sent
  | _ => cases sent

end Step

end Scope

end Core

namespace Control
open Core

namespace DataPacking
variable {capacity n : Nat} {α : Type*} [LT α] [DecidableLT α] [BEq α]

/-- Nothing is handed over, and neither a sample nor a stamp is recorded. -/
def Quiet (overflow : Overflow) (self : DataPacking capacity n α) : DataActivity α → Prop
  | .operation op => self.scope.handsOver overflow op = false ∧
      (∀ i, ¬ self.scope.RecordsSample i op) ∧ ¬ self.scope.RecordsStamp op
  | .transmit => True

omit [LT α] [DecidableLT α] [BEq α] in
theorem stamping_readStamps (self : DataPacking capacity n α) (stream : Option Bool) :
    (self.readStamps stream).state = self.scope.timestamper.state := by
  unfold readStamps
  split
  · rfl
  · split <;> rfl

variable {overflow : Overflow}

theorem rests_activity {self : DataPacking capacity n α} (rests : self.scope.trigger.Rests)
    {activity : DataActivity α} (start : ∀ id, activity ≠ .operation (.setChannelRunning id)) :
    self.Quiet overflow activity ∧ (self.step overflow activity).scope.trigger.Rests := by
  cases activity with
  | transmit => exact ⟨trivial, rests⟩
  | operation op =>
      have unstamped := Scope.not_recordsStamp rests op
      by_cases pack : op = .pack
      · subst pack
        refine ⟨⟨rfl, fun i records => records, unstamped⟩, ?_⟩
        dsimp only [step]
        split
        · exact rests
        · exact rests.same rfl (CommandPackData.state_drain self.scope) (self.stamping_readStamps _)
      · have starts (id : Nat) : op ≠ .setChannelRunning id :=
          fun same => start id (congrArg DataActivity.operation same)
        obtain ⟨waits, nothing, still⟩ := Scope.rests_step overflow rests pack starts
        rw [step_operation pack]
        exact ⟨⟨waits, nothing, unstamped⟩, still⟩

/-- Once a one-shot set has been handed over, nothing is handed over and nothing is
recorded until a start, whatever the scope is asked in between. -/
theorem oneShot_rests {self : DataPacking capacity n α} {op : Operation α}
    (oneShot : self.scope.trigger.activeStrategy = .oneshot)
    (sent : self.scope.handsOver overflow op = true) {later : List (DataActivity α)}
    (noStart : ∀ id, .operation (.setChannelRunning id) ∉ later) :
    Run.Along (step overflow) (Quiet overflow) (self.step overflow (.operation op)) later := by
  have other : op ≠ .pack := by
    rintro rfl
    cases sent
  have rests : (self.step overflow (.operation op)).scope.trigger.Rests := by
    rw [step_operation other]
    exact Scope.rests_of_handsOver overflow oneShot sent
  generalize self.step overflow (.operation op) = after at rests
  induction later generalizing after with
  | nil => trivial
  | cons activity later ih =>
      have start (id : Nat) : activity ≠ .operation (.setChannelRunning id) := by
        rintro rfl
        exact noStart id List.mem_cons_self
      obtain ⟨quiet, still⟩ := rests_activity rests start
      exact ⟨quiet, ih (fun id member => noStart id (List.mem_cons_of_mem _ member)) _ still⟩

section Run
open Operation

/-- A channel that counts upwards, and a trigger that waits for the five. -/
def armed : DataPacking 2 0 Int :=
  Run.exec (step .reject) create ([.operation (.configureChannel 0 16 .seInt8),
    .operation (.configureTrigger ⟨5, true, 2, 0⟩), .operation (.setChannelRunning 0)] ++
      pollsAt [1, 2, 3, 4, 5, 6])

/-- Not even another mode wakes the scope. -/
def asked : List (DataActivity Int) :=
  [.operation .pack, .operation (.configureTrigger ⟨5, true, 1, 0⟩), .transmit] ++ pollsAt [8, 9, 10] ++
    [.operation .clear, .operation (.setChannelStopped 0)] ++ pollsAt [11, 12]

theorem oneShot_rests_asked :
    Run.Along (step .reject) (Quiet .reject) (armed.step .reject (.operation (steadyPoll 7))) asked :=
  oneShot_rests (by decide) (by decide) fun id => by simp [asked, pollsAt, steadyPoll]

end Run

end DataPacking

end Control
