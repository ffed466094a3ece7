import ScopeTarget.Control.DataPacking
import ScopeTarget.Base.Run

/-! The double buffers as a place for one data set. The exchange asks only the
active channel and the timestamper whether it may go on; that the stamps are full
whenever any channel is makes the answer good for all channels. -/

namespace Control
open Core

/-- What is handed over together and is packed together. -/
structure SwapSet (α : Type*) where
  channels : List (Nat × List α)
  timestamps : List UInt32
  isTriggered : Bool
  triggerTimestamp : Option UInt32

namespace DataPacking
variable {capacity n : Nat} {α : Type*}

def unsent (self : DataPacking capacity n α) : SwapSet α where
  channels := (CommandPackData.dataSet self.scope).channels
  timestamps := (CommandPackData.dataSet self.scope).timestamps
  isTriggered := self.scope.trigger.isTriggeredSwap
  triggerTimestamp := self.scope.trigger.triggerIndexSwap

/-- Some channel has a full swap buffer with samples in it. -/
def HoldsSet (self : DataPacking capacity n α) : Prop :=
  ∃ i, (self.scope.channels i).swapBuffer.Full ∧ (self.scope.channels i).swapBuffer.used ≠ 0

instance (self : DataPacking capacity n α) : Decidable self.HoldsSet :=
  inferInstanceAs (Decidable (∃ _, _))

/-- The set is packed, with its stamps and the record of its trigger event, or a
command drops it. -/
def Releases (self : DataPacking capacity n α) (set : SwapSet α) : DataActivity α → Prop
  | .operation .clear => True
  | .operation (.setChannelRunning _) => True
  | .operation .pack =>
      self.queued ≠ 0 ∧ self.message.channels = set.channels ∧ self.message.timestamps = set.timestamps ∧
        ∃ values, self.message.trigger = some values ∧ values.isTriggered = set.isTriggered ∧
          values.triggerTimestamp = set.triggerTimestamp
  | _ => False

/-- The stamps are full whenever any channel is. -/
def Covered (self : DataPacking capacity n α) : Prop :=
  self.SetWaits → self.scope.timestamper.swapBuffer.Full

theorem Covered.same {self after : DataPacking capacity n α} (covered : self.Covered)
    (same : self.scope.trigger.SameSwap after.scope.trigger) : after.Covered := by
  rintro ⟨i, full⟩
  have before : (self.scope.channels i).swapBuffer.Full := (congrArg Fifo.Full (same.samples i)).mp full
  exact (congrArg Fifo.Full same.stamps).mpr (covered ⟨i, before⟩)

theorem covered_of_empty {self : DataPacking capacity n α}
    (samples : ∀ i, (self.scope.channels i).swapBuffer = .empty)
    (stamps : self.scope.timestamper.swapBuffer = .empty) : self.Covered := by
  rintro ⟨i, full⟩
  rw [samples i] at full
  rw [stamps]
  exact full

theorem covered_process (self : DataPacking capacity n α) : self.process.Covered := by
  rintro ⟨i, full⟩
  rw [swapBuffer_process] at full
  by_cases before : (self.scope.channels i).swapBuffer.Full
  · -- Only a buffer without room is full once it has been read.
    rw [if_pos before] at full
    have stamps : self.process.scope.timestamper.swapBuffer = .empty :=
      congrArg Timestamper.swapBuffer (readStamps_of_waits ⟨i, before⟩)
    rw [stamps]
    exact full
  · rw [if_neg before] at full
    exact absurd full before

section Step
variable [LT α] [DecidableLT α] [BEq α] {overflow : Overflow}

theorem covered_operate {self : DataPacking capacity n α} (covered : self.Covered) {op : Operation α}
    (other : op ≠ .pack) : (self.operate overflow op).Covered := by
  cases self.scope.step_swapped overflow other with
  | keeps waits same => exact covered.same same
  | drops command waits samples stamps => exact covered_of_empty samples stamps
  | replaces sent free samples stamps => exact fun _ => stamps

theorem covered_step {self : DataPacking capacity n α} (covered : self.Covered)
    (activity : DataActivity α) : (self.step overflow activity).Covered := by
  cases activity with
  | transmit => exact covered
  | operation op =>
      by_cases pack : op = .pack
      · subst pack
        dsimp only [step]
        split
        · exact covered
        · exact covered_process self
      · rw [step_operation pack]
        exact covered_operate covered pack

theorem covered_exec [Zero α] (activities : List (DataActivity α)) :
    (Run.exec (step overflow) (create : DataPacking capacity n α) activities).Covered := by
  have kept (self : DataPacking capacity n α) (activity : DataActivity α) (covered : self.Covered) :
      (self.step overflow activity).Covered := covered_step covered activity
  have start : (create : DataPacking capacity n α).Covered := covered_of_empty (fun _ => rfl) rfl
  exact Run.exec_invariant _ kept start activities

/-- A set is where it was, or it was packed or dropped on the way. -/
def KeptUntilReleased (overflow : Overflow) (self : DataPacking capacity n α)
    (later : List (DataActivity α)) : Prop :=
  (Run.exec (step overflow) self later).unsent = self.unsent ∨
    ∃ before activity after, later = before ++ activity :: after ∧
      (Run.exec (step overflow) self before).unsent = self.unsent ∧
      (Run.exec (step overflow) self before).Releases self.unsent activity

end Step

/-- The set is read off the swap side. -/
theorem unsent_same {self after : DataPacking capacity n α}
    (same : self.scope.trigger.SameSwap after.scope.trigger) : after.unsent = self.unsent := by
  have packs (i : Fin (n + 1)) : after.scope.channelHasToBePacked i = self.scope.channelHasToBePacked i := by
    rw [Bool.eq_iff_iff, Scope.channelHasToBePacked_iff, Scope.channelHasToBePacked_iff]
    exact Iff.of_eq (congrArg Fifo.Full (same.samples i))
  have toPack : CommandPackData.channelsToPack after.scope = CommandPackData.channelsToPack self.scope := by
    rw [CommandPackData.channelsToPack, CommandPackData.channelsToPack]
    exact List.filter_congr fun i _ => packs i
  have channels : (CommandPackData.dataSet after.scope).channels =
      (CommandPackData.dataSet self.scope).channels := by
    dsimp only [CommandPackData.dataSet]
    rw [toPack]
    refine List.map_congr_left fun i _ => ?_
    exact congrArg (fun b => (i.val, Fifo.contents b)) (same.samples i)
  have timestamps : (CommandPackData.dataSet after.scope).timestamps =
      (CommandPackData.dataSet self.scope).timestamps := congrArg Fifo.contents same.stamps
  unfold unsent
  rw [channels, timestamps, same.isTriggered, same.triggerIndex]

theorem HoldsSet.same {self after : DataPacking capacity n α} (holds : self.HoldsSet)
    (same : self.scope.trigger.SameSwap after.scope.trigger) : after.HoldsSet := by
  obtain ⟨i, full⟩ := holds
  refine ⟨i, ?_⟩
  have kept : (after.scope.channels i).swapBuffer = (self.scope.channels i).swapBuffer := same.samples i
  rw [kept]
  exact full

theorem HoldsSet.waits {self : DataPacking capacity n α} (holds : self.HoldsSet) : self.SetWaits := by
  obtain ⟨i, full, -⟩ := holds
  exact ⟨i, full⟩

/-- A set that was there has been packed. -/
theorem process_holds_nothing (self : DataPacking capacity n α) : ¬ self.process.HoldsSet := by
  rintro ⟨i, full, some_⟩
  rw [swapBuffer_process] at full some_
  by_cases before : (self.scope.channels i).swapBuffer.Full
  · rw [if_pos before] at some_
    exact some_ rfl
  · rw [if_neg before] at full
    exact before full

/-- The full stamps keep the exchange from going on. -/
theorem HoldsSet.stamps {self : DataPacking capacity n α} (holds : self.HoldsSet)
    (covered : self.Covered) : self.scope.timestamper.swapBuffer.used ≠ 0 := by
  have full := covered holds.waits
  obtain ⟨i, samples, some_⟩ := holds
  rw [Fifo.Full] at full samples
  omega

theorem releases_pack {self : DataPacking capacity n α} (holds : self.HoldsSet)
    (event : self.queued ≠ 0) : self.Releases self.unsent (.operation .pack) := by
  refine ⟨event, rfl, stamps_of_waits holds.waits, self.scope.getTriggerData, ?_, rfl, rfl⟩
  dsimp only [message]
  rw [added_of_waits holds.waits]

section Step
variable [LT α] [DecidableLT α] [BEq α] {overflow : Overflow}

theorem sameSwap_or_releases {self : DataPacking capacity n α} (covered : self.Covered)
    (holds : self.HoldsSet) (activity : DataActivity α) :
    self.scope.trigger.SameSwap (self.step overflow activity).scope.trigger ∨
      self.Releases self.unsent activity := by
  cases activity with
  | transmit => exact .inl (.refl _)
  | operation op =>
      by_cases pack : op = .pack
      · subst pack
        by_cases event : self.queued = 0
        · left
          dsimp only [step]
          rw [if_pos event]
          exact .refl _
        · exact .inr (releases_pack holds event)
      · rw [step_operation pack]
        cases self.scope.step_swapped overflow pack with
        | keeps waits same => exact .inl same
        | replaces sent free => exact absurd free (holds.stamps covered)
        | drops command =>
            cases op with
            | clear => exact .inr trivial
            | setChannelRunning i => exact .inr trivial
            | _ => cases command

theorem keptUntilReleased {self : DataPacking capacity n α} (covered : self.Covered)
    (holds : self.HoldsSet) (later : List (DataActivity α)) : self.KeptUntilReleased overflow later := by
  induction later generalizing self with
  | nil => exact .inl rfl
  | cons activity later ih =>
      rcases sameSwap_or_releases covered holds activity with same | releases
      · have kept : (self.step overflow activity).unsent = self.unsent := unsent_same same
        rcases ih (covered_step covered activity) (holds.same same) with still | released
        · exact .inl (still.trans kept)
        · obtain ⟨before, next, after, rfl, there, releases⟩ := released
          rw [kept] at there releases
          exact .inr ⟨activity :: before, next, after, rfl, there, releases⟩
      · exact .inr ⟨[], activity, later, rfl, rfl, releases⟩

/-- No set is overwritten: full samples have full stamps, an exchange finds the
place free and fills it, and a set stays until it is packed or dropped. -/
theorem unsent_sets_kept [Zero α] (overflow : Overflow) (activities : List (DataActivity α)) :
    let self := Run.exec (step overflow) (create : DataPacking capacity n α) activities
    self.Covered ∧
      (∀ op, self.scope.handsOver overflow op = true → ¬ self.HoldsSet ∧
        (0 < capacity → (self.step overflow (.operation op)).HoldsSet)) ∧
      (self.HoldsSet → ∀ later, self.KeptUntilReleased overflow later) := by
  intro self
  have covered : self.Covered := covered_exec activities
  refine ⟨covered, ?_, fun holds later => keptUntilReleased covered holds later⟩
  intro op sent
  have other : op ≠ .pack := by
    rintro rfl
    cases sent
  rw [step_operation other]
  cases self.scope.step_swapped overflow other with
  | keeps waits same => cases waits.symm.trans sent
  | drops command waits => cases waits.symm.trans sent
  | replaces _ free samples stamps =>
      refine ⟨fun holds => holds.stamps covered free, fun room => ⟨_, samples, ?_⟩⟩
      exact fun none_ => Nat.ne_of_gt room (samples.symm.trans none_)

end Step

end DataPacking

end Control
