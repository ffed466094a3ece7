import ScopeTarget.Control.UnsentSets

/-! Whether the trigger record that is sent with a set is that of its trigger
decision. The flag and the time go to the swap side with the samples; channel and
mode are read off the configuration in force when the set is packed. -/

namespace Core

/-- The values in force at the poll side. -/
def Trigger.inForce {capacity n : Nat} {α : Type*} (t : Trigger capacity n α) : TriggeredValues where
  isTriggered := t.isTriggeredPoll
  channelId := t.activeChannelId
  triggerTimestamp := some t.triggerIndexPoll
  mode := t.mode

end Core

namespace Control
open Core

/-- The packing of data, with the values in force when the decision was taken on
the set being acquired, and on the set handed over. -/
structure Decisions (capacity n : Nat) (α : Type*) where
  packing : DataPacking capacity n α
  polled : Option TriggeredValues
  swapped : Option TriggeredValues

namespace Decisions
variable {capacity n : Nat} {α : Type*}

def trigger (d : Decisions capacity n α) : Trigger capacity n α := d.packing.scope.trigger

def create [Zero α] : Decisions capacity n α := ⟨DataPacking.create, none, none⟩

/-- No clearing takes the decision away from a set being completed, and as long as a
set is decided on and not yet packed, a configuration leaves channel and mode. -/
def KeepsRecord (d : Decisions capacity n α) : DataActivity α → Prop
  | .operation (.configureTrigger conf) =>
      ∀ accepted ∈ (Trigger.configSanityCheck conf : Option (TriggerMode × Fin (n + 1))),
        d.trigger.Completing ∨ d.packing.HoldsSet →
          d.trigger.mode = some accepted.1 ∧ d.trigger.activeChannelId = accepted.2
  | .operation .clear => ¬ d.trigger.Completing
  | _ => True

/-- A set that is packed is sent with the values of its own decision. -/
def SendsDecision (d : Decisions capacity n α) : DataActivity α → Prop
  | .operation .pack => d.packing.queued ≠ 0 → d.packing.HoldsSet →
      ∃ values, d.swapped = some values ∧ d.packing.message.trigger = some values
  | _ => True

/-- Each side's values are still those of its decision. -/
structure Kept (d : Decisions capacity n α) : Prop where
  polled : d.trigger.Completing → d.polled = some d.trigger.inForce
  swapped : d.packing.HoldsSet → d.swapped = some d.packing.scope.getTriggerData

theorem sendsDecision_of_kept {d : Decisions capacity n α} (kept : d.Kept) (activity : DataActivity α) :
    d.SendsDecision activity := by
  cases activity with
  | transmit => trivial
  | operation op =>
      cases op with
      | pack =>
          intro _ holds
          refine ⟨_, kept.swapped holds, ?_⟩
          dsimp only [DataPacking.message]
          rw [DataPacking.added_of_waits holds.waits]
      | _ => trivial

/-- The configuration names the same mode and channel. -/
def SameSource (t t' : Trigger capacity n α) : Prop :=
  t'.mode = t.mode ∧ t'.activeChannelId = t.activeChannelId

/-- A set that is being completed afterwards was so before, with the same values. -/
structure LeavesDecision (t t' : Trigger capacity n α) : Prop where
  polled : t'.Completing → t.Completing ∧ t'.inForce = t.inForce
  source : SameSource t t'

theorem LeavesDecision.refl (t : Trigger capacity n α) : LeavesDecision t t :=
  ⟨fun completing => ⟨completing, rfl⟩, rfl, rfl⟩

theorem leavesDecision_configureChannel (s : Scope capacity n α) (id address : Nat)
    (type : DataTypes) : LeavesDecision s.trigger (s.configureChannel id address type).trigger := by
  refine Scope.configureChannel_cases s id address type (fun _ => .refl _) fun _ => ?_
  exact ⟨fun completing => ⟨completing, rfl⟩, rfl, rfl⟩

theorem leavesDecision_setChannelRunning (s : Scope capacity n α) (id : Nat) :
    LeavesDecision s.trigger (s.setChannelRunning id).trigger := by
  have same := s.same_setChannelRunning id
  refine ⟨?_, same.mode, same.activeChannelId⟩
  refine Scope.setChannelRunning_cases s id (fun _ => (LeavesDecision.refl _).polled) (fun _ _ => ?_)
    fun _ _ => ?_
  · exact fun completing => ⟨completing, rfl⟩
  · exact fun completing => absurd completing (Trigger.not_completing (.inr (.inl rfl)))

theorem leavesDecision_setChannelStopped (s : Scope capacity n α) (id : Nat) :
    LeavesDecision s.trigger (s.setChannelStopped id).trigger := by
  have same := s.same_setChannelStopped id
  refine ⟨?_, same.mode, same.activeChannelId⟩
  refine Scope.setChannelStopped_cases s id (fun _ => (LeavesDecision.refl _).polled) (fun _ _ => ?_)
    fun _ _ => ?_
  · exact fun completing => absurd completing (Trigger.not_completing (.inl rfl))
  · exact fun completing => ⟨completing, rfl⟩

section Step
variable [LT α] [DecidableLT α] [BEq α] {overflow : Overflow}

def sends (overflow : Overflow) (d : Decisions capacity n α) : DataActivity α → Bool
  | .operation op => d.packing.scope.handsOver overflow op
  | .transmit => false

/-- The decision is taken when the trigger begins to complete a set. -/
def step (overflow : Overflow) (d : Decisions capacity n α) (activity : DataActivity α) :
    Decisions capacity n α :=
  let next := d.packing.step overflow activity
  { packing := next
    polled :=
      if next.scope.trigger.Completing ∧ ¬ d.trigger.Completing then some next.scope.trigger.inForce
      else d.polled
    swapped := if d.sends overflow activity then d.polled else d.swapped }

theorem swapped_of_silent {d : Decisions capacity n α} {activity : DataActivity α}
    (silent : d.sends overflow activity = false) : (d.step overflow activity).swapped = d.swapped := by
  dsimp only [step]
  rw [silent]
  rfl

theorem swapped_of_sends {d : Decisions capacity n α} {activity : DataActivity α}
    (sent : d.sends overflow activity = true) : (d.step overflow activity).swapped = d.polled := by
  dsimp only [step]
  rw [sent]
  rfl

/-- A step that takes no decision and hands nothing over, by what it leaves of each side. -/
theorem Kept.quiet {d : Decisions capacity n α} (kept : d.Kept) {activity : DataActivity α}
    (silent : d.sends overflow activity = false)
    (polled : (d.step overflow activity).trigger.Completing →
      d.trigger.Completing ∧ (d.step overflow activity).trigger.inForce = d.trigger.inForce)
    (swapped : (d.step overflow activity).packing.HoldsSet → d.packing.HoldsSet ∧
      (d.step overflow activity).packing.scope.getTriggerData = d.packing.scope.getTriggerData) :
    (d.step overflow activity).Kept where
  polled completing := by
    obtain ⟨before, same⟩ := polled completing
    have undecided : (d.step overflow activity).polled = d.polled :=
      if_neg fun both => both.2 before
    rw [undecided, same]
    exact kept.polled before
  swapped holds := by
    obtain ⟨before, same⟩ := swapped holds
    rw [swapped_of_silent silent, same]
    exact kept.swapped before

/-- What an operation other than a hand-over leaves of a set on the swap side. -/
theorem swapped_quiet {d : Decisions capacity n α} {op : Operation α} (other : op ≠ .pack)
    (silent : d.packing.scope.handsOver overflow op = false)
    (configured : d.packing.HoldsSet → SameSource d.trigger (d.packing.operate overflow op).scope.trigger)
    (holds : (d.packing.operate overflow op).HoldsSet) :
    d.packing.HoldsSet ∧
      (d.packing.operate overflow op).scope.getTriggerData = d.packing.scope.getTriggerData := by
  cases d.packing.scope.step_swapped overflow other with
  | keeps waits same =>
      have before : d.packing.HoldsSet := holds.same same.symm
      obtain ⟨mode, channel⟩ := configured before
      refine ⟨before, ?_⟩
      have isTriggered : (d.packing.operate overflow op).scope.trigger.isTriggeredSwap =
        d.packing.scope.trigger.isTriggeredSwap := same.isTriggered
      have triggerIndex : (d.packing.operate overflow op).scope.trigger.triggerIndexSwap =
        d.packing.scope.trigger.triggerIndexSwap := same.triggerIndex
      unfold Scope.getTriggerData
      rw [isTriggered, triggerIndex, mode, channel]
      rfl
  | drops command waits samples stamps =>
      obtain ⟨i, -, some_⟩ := holds
      have empty : ((d.packing.operate overflow op).scope.channels i).swapBuffer = .empty := samples i
      rw [empty] at some_
      exact absurd rfl some_
  | replaces sent => cases silent.symm.trans sent

/-- An operation of the host keeps the decisions if it leaves the configuration of
what is decided, and what is being completed is still the same. -/
theorem Kept.operate {d : Decisions capacity n α} (kept : d.Kept) {op : Operation α}
    (other : op ≠ .pack) (silent : d.packing.scope.handsOver overflow op = false)
    (polled : (d.packing.scope.step overflow op).trigger.Completing → d.trigger.Completing ∧
      (d.packing.scope.step overflow op).trigger.inForce = d.trigger.inForce)
    (configured : d.packing.HoldsSet →
      SameSource d.trigger (d.packing.scope.step overflow op).trigger) :
    (d.step overflow (.operation op)).Kept := by
  have next : (d.step overflow (.operation op)).packing = d.packing.operate overflow op :=
    DataPacking.step_operation other
  have nextTrigger : (d.step overflow (.operation op)).trigger =
      (d.packing.scope.step overflow op).trigger := congrArg (fun p => p.scope.trigger) next
  refine kept.quiet silent ?_ ?_
  · intro after
    rw [nextTrigger] at after ⊢
    exact polled after
  · intro holds
    rw [next] at holds ⊢
    exact swapped_quiet other silent configured holds

/-- By what the run of the trigger does to the record: only in detection is a decision
taken, and only a hand-over moves it. -/
theorem kept_poll {d : Decisions capacity n α} (kept : d.Kept) (now : UInt32) (memory : Memory α) :
    (d.step overflow (.operation (.poll now memory))).Kept := by
  have other : (.poll now memory : Operation α) ≠ .pack := by exact nofun
  obtain ⟨same, recorded⟩ := d.packing.scope.poll_recorded overflow now memory
  have source : SameSource d.trigger (d.packing.scope.poll overflow now memory).2.trigger :=
    ⟨same.mode, same.activeChannelId⟩
  generalize sent : (d.packing.scope.poll overflow now memory).1 = hands at recorded
  cases recorded with
  | searches before after =>
      exact kept.operate other sent (fun completing => absurd completing after) fun _ => source
  | completes before after record =>
      refine kept.operate other sent (fun _ => ⟨before, ?_⟩) fun _ => source
      have triggered : (d.packing.scope.poll overflow now memory).2.trigger.isTriggeredPoll =
        d.trigger.isTriggeredPoll := record.isTriggeredPoll
      have index : (d.packing.scope.poll overflow now memory).2.trigger.triggerIndexPoll =
        d.trigger.triggerIndexPoll := record.triggerIndexPoll
      dsimp only [Scope.step, Trigger.inForce]
      rw [triggered, index, source.1, source.2]
  | decides before after =>
      refine ⟨fun _ => if_pos ⟨after, before⟩, fun holds => ?_⟩
      obtain ⟨held, values⟩ := swapped_quiet other sent (fun _ => source) holds
      have silent : d.sends overflow (.operation (.poll now memory)) = false := sent
      rw [swapped_of_silent silent]
      exact (kept.swapped held).trans (congrArg some values.symm)
  | handsOver before after isTriggered triggerIndex =>
      refine ⟨fun completing => absurd completing after, fun _ => ?_⟩
      have values : (d.packing.scope.poll overflow now memory).2.getTriggerData = d.trigger.inForce := by
        unfold Scope.getTriggerData
        rw [isTriggered, triggerIndex, source.1, source.2]
        rfl
      have moved : d.sends overflow (.operation (.poll now memory)) = true := sent
      rw [swapped_of_sends moved]
      exact (kept.polled before).trans (congrArg some values.symm)

theorem kept_configureTrigger {d : Decisions capacity n α} (kept : d.Kept)
    {conf : TriggerConfiguration α} (keeps : d.KeepsRecord (.operation (.configureTrigger conf))) :
    (d.step overflow (.operation (.configureTrigger conf))).Kept := by
  have source (pending : d.trigger.Completing ∨ d.packing.HoldsSet) :
      SameSource d.trigger (d.trigger.configure conf) := by
    unfold Trigger.configure
    unfold KeepsRecord at keeps
    cases checked : (Trigger.configSanityCheck conf : Option (TriggerMode × Fin (n + 1))) with
    | none => exact ⟨rfl, rfl⟩
    | some accepted =>
        obtain ⟨mode, channel⟩ := keeps accepted checked pending
        exact ⟨mode.symm, channel.symm⟩
  have flags : (d.trigger.configure conf).state = d.trigger.state ∧
      (d.trigger.configure conf).isTriggeredPoll = d.trigger.isTriggeredPoll ∧
      (d.trigger.configure conf).triggerIndexPoll = d.trigger.triggerIndexPoll := by
    unfold Trigger.configure
    split
    · exact ⟨rfl, rfl, rfl⟩
    · exact ⟨rfl, rfl, rfl⟩
  refine kept.operate (by exact nofun) rfl ?_ fun holds => source (.inr holds)
  intro completing
  change (d.trigger.configure conf).Completing at completing
  rw [Trigger.Completing, flags.1] at completing
  refine ⟨completing, ?_⟩
  obtain ⟨mode, channel⟩ := source (.inl completing)
  change (d.trigger.configure conf).inForce = _
  unfold Trigger.inForce
  rw [flags.2.1, flags.2.2, mode, channel]

theorem kept_pack {d : Decisions capacity n α} (kept : d.Kept) :
    (d.step overflow (.operation .pack)).Kept := by
  have leaves : LeavesDecision d.trigger (d.step overflow (.operation .pack)).trigger := by
    dsimp only [step, trigger, DataPacking.step]
    split
    · exact .refl _
    · exact ⟨fun completing => ⟨completing, rfl⟩, rfl, rfl⟩
  refine kept.quiet rfl leaves.polled ?_
  dsimp only [step, DataPacking.step]
  split
  · exact fun holds => ⟨holds, rfl⟩
  · exact fun holds => absurd holds d.packing.process_holds_nothing

theorem kept_step {d : Decisions capacity n α} (kept : d.Kept) (activity : DataActivity α)
    (keeps : d.KeepsRecord activity) : (d.step overflow activity).Kept := by
  cases activity with
  | transmit => exact kept.quiet rfl (fun after => ⟨after, rfl⟩) fun holds => ⟨holds, rfl⟩
  | operation op =>
      cases op with
      | poll now memory => exact kept_poll kept now memory
      | configureChannel i address type =>
          have leaves := leavesDecision_configureChannel d.packing.scope i address type
          exact kept.operate (by exact nofun) rfl leaves.polled fun _ => leaves.source
      | configureTrigger conf => exact kept_configureTrigger kept keeps
      | configureTimestampIncrement increment =>
          exact kept.operate (by exact nofun) rfl (fun completing => ⟨completing, rfl⟩)
            fun _ => ⟨rfl, rfl⟩
      | setChannelRunning i =>
          have leaves := leavesDecision_setChannelRunning d.packing.scope i
          exact kept.operate (by exact nofun) rfl leaves.polled fun _ => leaves.source
      | setChannelStopped i =>
          have leaves := leavesDecision_setChannelStopped d.packing.scope i
          exact kept.operate (by exact nofun) rfl leaves.polled fun _ => leaves.source
      | clear =>
          exact kept.operate (by exact nofun) rfl (fun completing => absurd completing keeps)
            fun _ => ⟨rfl, rfl⟩
      | pack => exact kept_pack kept

/-- In a run that keeps the record, every set is sent with the values of its decision. -/
theorem sendsDecision [Zero α] (overflow : Overflow) (activities : List (DataActivity α))
    (keeps : Run.Along (step overflow) KeepsRecord (create : Decisions capacity n α) activities) :
    Run.Along (step overflow) SendsDecision (create : Decisions capacity n α) activities := by
  have preserved (d : Decisions capacity n α) (activity : DataActivity α) (kept : d.Kept)
      (ok : d.KeepsRecord activity) : (d.step overflow activity).Kept := kept_step kept activity ok
  have seen (d : Decisions capacity n α) (activity : DataActivity α) (kept : d.Kept)
      (_ : d.KeepsRecord activity) : d.SendsDecision activity := sendsDecision_of_kept kept activity
  have start : (create : Decisions capacity n α).Kept := by
    constructor
    · intro completing
      exact absurd completing (Trigger.not_completing (.inl rfl))
    · rintro ⟨i, -, some_⟩
      exact absurd rfl some_
  exact keeps.observe _ preserved seen start

end Step

section Run
open Operation

/-- Two channels, a trigger on the rise of the first one to 2, and the polls that
hand over the set in which it comes. -/
def triggeredRun : List (DataActivity Int) :=
  [.operation (.configureChannel 0 16 .seInt8), .operation (.configureTrigger ⟨2, true, 0, 0⟩),
    .operation (.setChannelRunning 0), .operation (steadyPoll 1), .operation (steadyPoll 2),
    .operation (steadyPoll 3), .operation (steadyPoll 4)]

/-- The trigger is configured before the start, and again when the set is packed. -/
theorem sendsDecision_configured_between_sets :
    let activities := triggeredRun ++ [.operation .pack, .operation (.configureTrigger ⟨2, true, 1, 1⟩)]
    (Run.exec (step .reject) (create : Decisions 2 1 Int) triggeredRun).packing.HoldsSet ∧
      Run.Along (step .reject) SendsDecision (create : Decisions 2 1 Int) activities := by
  refine ⟨by decide, sendsDecision .reject _ ?_⟩
  refine ⟨trivial, ?_, trivial, trivial, trivial, trivial, trivial, trivial, ?_, trivial⟩
  · intro accepted _ pending
    exact absurd pending (by decide)
  · intro accepted _ pending
    exact absurd pending (by decide)

/-- The configuration changes between the hand-over and the packing: the set that was
triggered by the first channel is sent as triggered by the second. -/
theorem sendsDecision_fails :
    ¬ Run.Along (step .reject) SendsDecision (create : Decisions 2 1 Int)
      (triggeredRun ++ [.operation (.configureTrigger ⟨2, true, 1, 1⟩), .operation .pack]) := by
  intro along
  have last := ((Run.along_append _ _ _
    (triggeredRun ++ [.operation (.configureTrigger ⟨2, true, 1, 1⟩)]) [.operation .pack]).mp along).2.1
  obtain ⟨values, decided, sent⟩ := last (by decide) (by decide)
  have same := decided.trans sent.symm
  exact absurd same (by decide)

end Run

end Decisions

end Control
