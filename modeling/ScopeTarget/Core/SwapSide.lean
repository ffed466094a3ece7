import ScopeTarget.Core.TriggeredSets

/-! The swap side holds the set that has been handed over: the swap buffers of
the channels and of the stamps, and the record of the trigger event. Apart from
the packer, only a hand-over and the two commands that drop all data change it. -/

namespace Core

namespace Trigger
variable {capacity n : Nat} {α : Type*}

structure SameSwap (t t' : Trigger capacity n α) : Prop where
  samples : ∀ i, (t'.channels i).swapBuffer = (t.channels i).swapBuffer
  stamps : t'.timestamper.swapBuffer = t.timestamper.swapBuffer
  isTriggered : t'.isTriggeredSwap = t.isTriggeredSwap
  triggerIndex : t'.triggerIndexSwap = t.triggerIndexSwap

theorem SameSwap.refl (t : Trigger capacity n α) : SameSwap t t := ⟨fun _ => rfl, rfl, rfl, rfl⟩

theorem SameSwap.symm {t t' : Trigger capacity n α} (same : SameSwap t t') : SameSwap t' t :=
  ⟨fun i => (same.samples i).symm, same.stamps.symm, same.isTriggered.symm, same.triggerIndex.symm⟩

/-- What a run of the trigger does to the swap side. -/
inductive Swapped (t : Trigger capacity n α) : Bool × Trigger capacity n α → Prop
  | keeps {t'} (same : SameSwap t t') : Swapped t (false, t')
  | replaces {t'} (pending : t.SwapIsPending)
      (samples : ∀ i, (t'.channels i).swapBuffer = (t.channels i).pollBuffer)
      (stamps : t'.timestamper.swapBuffer = t.timestamper.pollBuffer) : Swapped t (true, t')

/-- The buffers of the swap side are those of a trigger with the same data. -/
theorem SameData.swapped {t t₀ t' : Trigger capacity n α} (same : SameData t₀ t')
    (samples : ∀ i, (t₀.channels i).swapBuffer = (t.channels i).swapBuffer)
    (stamps : t₀.timestamper.swapBuffer = t.timestamper.swapBuffer)
    (isTriggered : t'.isTriggeredSwap = t.isTriggeredSwap)
    (triggerIndex : t'.triggerIndexSwap = t.triggerIndexSwap) : SameSwap t t' where
  samples i := (same.swapBuffer i).trans (samples i)
  stamps := same.stampsSwapped.trans stamps
  isTriggered := isTriggered
  triggerIndex := triggerIndex

theorem swapBuffer_restored (t : Trigger capacity n α) (i : Fin (n + 1)) :
    (t.restoreChannelStates.channels i).swapBuffer = (t.channels i).swapBuffer := by
  dsimp only [restoreChannelStates]
  split
  · exact Channel.swapBuffer_setStateRunning _
  · rfl

theorem run_swapped [LT α] [DecidableLT α] [BEq α] (t : Trigger capacity n α) : Swapped t t.run := by
  have ran := t.run_ran
  obtain ⟨-, recorded⟩ := t.run_recorded
  have flags : t.run.1 = false →
      t.run.2.isTriggeredSwap = t.isTriggeredSwap ∧ t.run.2.triggerIndexSwap = t.triggerIndexSwap := by
    intro waits
    generalize t.run = r at recorded waits
    cases recorded with
    | searches before after isTriggered triggerIndex => exact ⟨isTriggered, triggerIndex⟩
    | decides before after isTriggered triggerIndex => exact ⟨isTriggered, triggerIndex⟩
    | completes before after same => exact ⟨same.isTriggeredSwap, same.triggerIndexSwap⟩
    | handsOver => cases waits
  generalize t.run = r at ran flags
  cases ran with
  | idles => exact .keeps (.refl t)
  | resumes origin strategy same =>
      exact .keeps (same.swapped t.swapBuffer_restored rfl (flags rfl).1 (flags rfl).2)
  | staysPaused origin same =>
      exact .keeps (same.swapped (fun _ => rfl) rfl (flags rfl).1 (flags rfl).2)
  | detects origin same => exact .keeps (same.swapped (fun _ => rfl) rfl (flags rfl).1 (flags rfl).2)
  | fills origin same => exact .keeps (same.swapped (fun _ => rfl) rfl (flags rfl).1 (flags rfl).2)
  | filled origin full same =>
      exact .keeps (same.swapped (fun _ => rfl) rfl (flags rfl).1 (flags rfl).2)
  | stops origin stopped =>
      cases stopped with
      | waits =>
          refine .keeps ⟨fun i => ?_, rfl, rfl, rfl⟩
          exact Channel.swapBuffer_setStateStopped _
      | handsOver pending same =>
          refine .replaces pending (fun i => ?_) same.stampsSwapped
          exact (same.swapBuffer i).trans (Channel.pollBuffer_setStateStopped _)

end Trigger

namespace Scope
variable {capacity n : Nat} {α : Type*}

/-- The commands that drop the set on the swap side. -/
def Drops : Operation α → Prop
  | .clear => True
  | .setChannelRunning _ => True
  | _ => False

/-- A start leaves nothing on the swap side, or it starts nothing. -/
theorem dropped_or_same (s : Scope capacity n α) (id : Nat) :
    ((∀ i, ((s.setChannelRunning id).channels i).swapBuffer = .empty) ∧
      (s.setChannelRunning id).timestamper.swapBuffer = .empty) ∨
    s.trigger.SameSwap (s.setChannelRunning id).trigger := by
  refine setChannelRunning_cases s id (fun _ => .inr (.refl _)) (fun inRange _ => ?_)
    fun _ _ => .inl ⟨fun _ => rfl, rfl⟩
  refine .inr ⟨fun i => ?_, rfl, rfl, rfl⟩
  exact s.modifyChannel_keeps ⟨id, inRange⟩ Channel.swapBuffer
    (fun c => c.swapBuffer_setStateRunning) i

theorem sameSwap_setChannelStopped (s : Scope capacity n α) (id : Nat) :
    s.trigger.SameSwap (s.setChannelStopped id).trigger := by
  have kept (inRange : id < n + 1) (i : Fin (n + 1)) :
      ((s.modifyChannel ⟨id, inRange⟩ Channel.setStateStopped).channels i).swapBuffer =
        (s.channels i).swapBuffer :=
    s.modifyChannel_keeps ⟨id, inRange⟩ Channel.swapBuffer (fun c => c.swapBuffer_setStateStopped) i
  refine setChannelStopped_cases s id (fun _ => .refl _) (fun inRange _ => ?_)
    fun inRange _ => ⟨kept inRange, rfl, rfl, rfl⟩
  refine ⟨fun i => ?_, rfl, rfl, rfl⟩
  exact (Channel.swapBuffer_setStateStopped _).trans (kept inRange i)

theorem sameSwap_configureChannel (s : Scope capacity n α) (id address : Nat) (type : DataTypes) :
    s.trigger.SameSwap (s.configureChannel id address type).trigger := by
  refine configureChannel_cases s id address type (fun _ => .refl _) fun inRange => ?_
  refine ⟨fun i => ?_, rfl, rfl, rfl⟩
  exact s.modifyChannel_keeps ⟨id, inRange⟩ Channel.swapBuffer
    (fun c => c.swapBuffer_setPollAddress address type) i

theorem sameSwap_configureTrigger (s : Scope capacity n α) (conf : TriggerConfiguration α) :
    s.trigger.SameSwap (s.configureTrigger conf).trigger := by
  unfold configureTrigger Trigger.configure
  cases Trigger.configSanityCheck conf with
  | none => exact .refl _
  | some checked => exact ⟨fun _ => rfl, rfl, rfl, rfl⟩

section Step
variable [LT α] [DecidableLT α] [BEq α]

theorem poll_swapped (overflow : Overflow) (s : Scope capacity n α) (now : UInt32) (memory : Memory α) :
    ((s.poll overflow now memory).1 = false ∧ s.trigger.SameSwap (s.poll overflow now memory).2.trigger) ∨
      ((s.poll overflow now memory).1 = true ∧ s.timestamper.swapBuffer.used = 0 ∧
        ((s.poll overflow now memory).2.channels s.trigger.activeChannelId).swapBuffer.Full ∧
        (s.poll overflow now memory).2.timestamper.swapBuffer.Full) := by
  by_cases sampled : s.Sampled now
  case neg =>
    obtain ⟨waits, trigger⟩ := poll_of_not_sampled overflow sampled memory
    refine .inl ⟨waits, ?_⟩
    rw [trigger]
    exact .refl _
  case pos =>
    have swapped := (s.sample overflow now memory).run_swapped
    rw [← poll_of_sampled overflow sampled memory] at swapped
    generalize (s.poll overflow now memory) = r at swapped
    obtain ⟨sent, s'⟩ := r
    dsimp only at swapped
    cases swapped with
    | keeps same =>
        refine .inl ⟨rfl, fun i => ?_, same.stamps, same.isTriggered, same.triggerIndex⟩
        exact (same.samples i).trans (Channel.swapBuffer_poll _ memory)
    | replaces pending samples stamps =>
        obtain ⟨channel, stamper⟩ := pending
        rw [Channel.swapIsPending_iff] at channel
        rw [Timestamper.swapIsPending_iff] at stamper
        refine .inr ⟨rfl, stamper.2, ?_, ?_⟩
        · exact (congrArg Fifo.Full (samples _)).mpr channel.1
        · exact (congrArg Fifo.Full stamps).mpr stamper.1

/-- What an operation does to the swap side, packing apart. -/
inductive StepSwapped (overflow : Overflow) (s : Scope capacity n α) (op : Operation α) : Prop
  | keeps (waits : s.handsOver overflow op = false)
      (same : s.trigger.SameSwap (s.step overflow op).trigger)
  | drops (command : Drops op) (waits : s.handsOver overflow op = false)
      (samples : ∀ i, ((s.step overflow op).channels i).swapBuffer = .empty)
      (stamps : (s.step overflow op).timestamper.swapBuffer = .empty)
  | replaces (sent : s.handsOver overflow op = true) (free : s.timestamper.swapBuffer.used = 0)
      (samples : ((s.step overflow op).channels s.trigger.activeChannelId).swapBuffer.Full)
      (stamps : (s.step overflow op).timestamper.swapBuffer.Full)

theorem step_swapped (overflow : Overflow) (s : Scope capacity n α) {op : Operation α}
    (other : op ≠ .pack) : StepSwapped overflow s op := by
  cases op with
  | poll now memory =>
      rcases s.poll_swapped overflow now memory with ⟨waits, same⟩ | ⟨sent, free, samples, stamps⟩
      · exact .keeps waits same
      · exact .replaces sent free samples stamps
  | configureChannel i address type => exact .keeps rfl (s.sameSwap_configureChannel i address type)
  | configureTrigger conf => exact .keeps rfl (s.sameSwap_configureTrigger conf)
  | configureTimestampIncrement increment => exact .keeps rfl ⟨fun _ => rfl, rfl, rfl, rfl⟩
  | setChannelRunning i =>
      rcases s.dropped_or_same i with ⟨samples, stamps⟩ | same
      · exact .drops trivial rfl samples stamps
      · exact .keeps rfl same
  | setChannelStopped i => exact .keeps rfl (s.sameSwap_setChannelStopped i)
  | clear => exact .drops trivial rfl (fun _ => rfl) rfl
  | pack => exact absurd rfl other

end Step

end Scope

end Core
