import ScopeTarget.Core.Invariants

/-! A data set is a list of rows: in one row stand the time of a sampled poll
and what each channel recorded then. Every poll appends its row to a log that
the code does not keep; a handed-over data set has to be a choice of its rows. -/

namespace Core

structure Row (n : Nat) (α : Type*) where
  time : UInt32
  values : Fin (n + 1) → Option α

/-- Buffers hold these rows when the stamps are their times and the samples of
every channel that counts are the latest of its values. -/
structure Holds {capacity n : Nat} {α : Type*} (rows : List (Row n α))
    (t : Trigger capacity n α) : Prop where
  times : t.timestamper.pollBuffer.contents = rows.map Row.time
  values : ∀ i, (t.channels i).state = .running ∨ (t.channels i).pollBuffer.Full →
    (t.channels i).pollBuffer.contents.map some <:+ rows.map fun r => r.values i
  ongoing : t.timestamper.state = .running → ∀ i, (t.channels i).pollBuffer.Full →
    (t.channels i).pollBuffer.contents ≠ [] → (t.channels i).state = .running

namespace Holds
variable {capacity n : Nat} {α : Type*} {rows : List (Row n α)} {t t' : Trigger capacity n α}

theorem same (same : t.SameData t') (holds : Holds rows t) : Holds rows t' where
  times := by
    rw [same.stampsPolled]
    exact holds.times
  values i := by
    rw [same.state, same.pollBuffer]
    exact holds.values i
  ongoing := by
    intro running i
    rw [same.state, same.pollBuffer]
    rw [same.stamping] at running
    exact holds.ongoing running i

theorem of_empty (stamps : t.timestamper.pollBuffer = .empty)
    (samples : ∀ i, (t.channels i).pollBuffer = .empty) : Holds [] t where
  times := by
    rw [stamps]
    rfl
  values i _ := by
    rw [samples]
    exact List.nil_suffix
  ongoing _ i _ nonempty := absurd (congrArg Fifo.contents (samples i)) nonempty

/-- Channels that stop keep their place; so does one that was not full. -/
theorem rearranged (holds : Holds rows t) {channels : Fin (n + 1) → Channel capacity α}
    (buffer : ∀ i, (channels i).pollBuffer = (t.channels i).pollBuffer)
    (running : ∀ i, (channels i).state = .running → (t.channels i).state = .running)
    (ongoing : t.timestamper.state = .running → ∀ i, (t.channels i).pollBuffer.Full →
      (t.channels i).pollBuffer.contents ≠ [] → (channels i).state = .running) :
    Holds rows { t with channels := channels } where
  times := holds.times
  values i h := by
    rw [buffer] at h ⊢
    exact holds.values i (h.imp (running i) id)
  ongoing h i := by
    rw [buffer]
    exact ongoing h i

/-- With everything stopped, the buffers keep what they hold. -/
theorem halted (holds : Holds rows t)
    (stamps : t'.timestamper.pollBuffer = t.timestamper.pollBuffer)
    (buffer : ∀ i, (t'.channels i).pollBuffer = (t.channels i).pollBuffer)
    (stopped : t'.timestamper.state = .stopped)
    (still : ∀ i, (t'.channels i).state ≠ .running) : Holds rows t' where
  times := by
    rw [stamps]
    exact holds.times
  values i h := by
    rw [buffer] at h ⊢
    exact holds.values i (.inr (h.resolve_left (still i)))
  ongoing running := by
    rw [stopped] at running
    cases running

theorem safe (holds : Holds rows t) (running : t.timestamper.state = .running) :
    Holds rows t.safeChannelStates where
  times := holds.times
  values := holds.values
  ongoing _ := holds.ongoing running

end Holds

namespace Scope
variable {capacity n : Nat} {α : Type*}

def row (s : Scope capacity n α) (now : UInt32) (memory : Memory α) : Row n α where
  time := now
  values i := if (s.channels i).state = .running then (s.channels i).castDataToFloat memory else none

theorem holds_sample_stopped {s : Scope capacity n α} {rows : List (Row n α)} (sound : s.Sound)
    (holds : Holds rows s.trigger) (stopped : s.timestamper.state = .stopped) {now : UInt32}
    {memory : Memory α} : Holds rows (s.sample .evict now memory) := by
  have still (i) : (s.channels i).state ≠ .running := by
    intro running
    have stamped : s.timestamper.state = .running := sound.stamped i running
    rw [stopped] at stamped
    cases stamped
  have channels (i) : (s.sample .evict now memory).channels i = s.channels i :=
    Channel.poll_of_not_running memory (still i)
  refine ⟨?_, fun i => ?_, fun running => ?_⟩
  · exact (congrArg Fifo.contents (Timestamper.stamp_of_stopped stopped)).trans holds.times
  · rw [channels]
    exact holds.values i
  · exact absurd (running.symm.trans stopped) (by decide)

/-- The new row enters all buffers at once and pushes the oldest one out of the full ones. -/
theorem holds_sample_running {s : Scope capacity n α} {rows : List (Row n α)}
    (holds : Holds rows s.trigger) (stamping : s.timestamper.state = .running) {now : UInt32}
    {memory : Memory α} :
    Holds ((rows ++ [s.row now memory]).rtake capacity) (s.sample .evict now memory) where
  times := by
    have stamps : (s.timestamper.stamp .evict now).pollBuffer = s.timestamper.pollBuffer.push now :=
      Timestamper.stamp_of_running stamping
    have times : s.timestamper.pollBuffer.contents = rows.map Row.time := holds.times
    dsimp only [sample]
    rw [stamps, Fifo.contents_push, times, List.map_rtake, List.map_append]
    rfl
  values i h := by
    dsimp only [sample] at h ⊢
    rw [Channel.state_poll] at h
    by_cases running : (s.channels i).state = .running
    · obtain ⟨x, sampled, pushed⟩ := Channel.poll_of_running memory running
      have before : (s.channels i).pollBuffer.contents.map some <:+ rows.map fun r => r.values i :=
        holds.values i (.inl running)
      have recorded : (s.row now memory).values i = some x := by
        dsimp only [row]
        rw [if_pos running, sampled]
      rw [pushed, Fifo.contents_push, List.map_rtake, List.map_rtake, List.map_append,
        List.map_append, List.map_singleton, List.map_singleton, recorded]
      refine List.IsSuffix.rtake ?_ capacity
      obtain ⟨older, split⟩ := before
      exact ⟨older, by rw [← split, List.append_assoc]⟩
    · rw [Channel.poll_of_not_running memory running] at h ⊢
      have full := h.resolve_left running
      by_cases nonempty : (s.channels i).pollBuffer.contents = []
      · rw [nonempty]
        exact List.nil_suffix
      · exact absurd (holds.ongoing stamping i full nonempty) running
  ongoing := by
    intro _ i full nonempty
    dsimp only [sample] at full nonempty ⊢
    rw [Channel.state_poll]
    by_contra still
    rw [Channel.poll_of_not_running memory still] at full nonempty
    exact still (holds.ongoing stamping i full nonempty)

/-- The rows that a handed-over data set consists of. -/
structure Delivers (rows : List (Row n α)) (s : Scope capacity n α) : Prop where
  times : s.timestamper.swapBuffer.contents = rows.map Row.time
  values : ∀ i : Fin (n + 1), s.channelHasToBePacked i = true →
    (s.channels i).swapBuffer.contents.map some = rows.map fun r => r.values i

def Aligned (log : List (Row n α)) (s : Scope capacity n α) : Prop :=
  ∃ rows, rows.Sublist log ∧ Delivers rows s

end Scope

namespace Trigger
variable {capacity n : Nat} {α : Type*} {rows : List (Row n α)} {t : Trigger capacity n α}

theorem holds_ran {ready : Bool} {r : Bool × Trigger capacity n α} (sound : Sound ready t.state t)
    (holds : Holds rows t) (ran : Ran t r) : ∃ kept, kept.Sublist rows ∧ Holds kept r.2 := by
  cases ran with
  | idles => exact ⟨rows, List.Sublist.refl rows, holds⟩
  | resumes origin strategy same into =>
      obtain ⟨-, empty⟩ := sound.resting origin
      have restored : Holds rows t.restoreChannelStates := by
        have buffer (i) : (t.restoreChannelStates.channels i).pollBuffer.contents = [] := by
          refine Eq.trans (congrArg Fifo.contents ?_) ((Fifo.contents_eq_nil_iff _).mpr (empty i))
          dsimp only [restoreChannelStates]
          split
          · exact Channel.pollBuffer_setStateRunning _
          · rfl
        refine ⟨holds.times, fun i _ => ?_, fun _ i _ nonempty => absurd (buffer i) nonempty⟩
        rw [buffer]
        exact List.nil_suffix
      exact ⟨rows, List.Sublist.refl rows, restored.same same⟩
  | staysPaused origin same => exact ⟨rows, List.Sublist.refl rows, holds.same same⟩
  | detects origin same => exact ⟨rows, List.Sublist.refl rows, holds.same same⟩
  | fills origin same => exact ⟨rows, List.Sublist.refl rows, holds.same same⟩
  | filled origin full same =>
      have running := sound.working (.inr origin)
      exact ⟨rows, List.Sublist.refl rows, (holds.safe running).same same⟩
  | stops origin stopped =>
      cases stopped with
      | waits =>
          exact ⟨rows, List.Sublist.refl rows, holds.halted rfl
            (fun i => (t.channels i).pollBuffer_setStateStopped) rfl
            fun i => (t.channels i).not_running_setStateStopped⟩
      | handsOver pending same =>
          have empty : Holds [] t.stopChannelsAndTimestamp.swapAll :=
            Holds.of_empty rfl fun _ => rfl
          exact ⟨[], List.nil_sublist rows, empty.same same⟩

theorem delivers_ran {s : Scope capacity n α} (holds : Holds rows t)
    (ran : Ran t (true, s.trigger)) : s.Delivers rows := by
  generalize after : s.trigger = t' at ran
  cases ran with
  | stops origin stopped =>
      cases stopped with
      | handsOver pending same =>
          have stamps : s.timestamper.swapBuffer = t.timestamper.pollBuffer := by
            rw [Scope.timestamper, after]
            exact same.stampsSwapped
          have samples (i) : (s.channels i).swapBuffer = (t.channels i).pollBuffer := by
            rw [Scope.channels, after, same.swapBuffer]
            exact Channel.pollBuffer_setStateStopped _
          have full := ((Timestamper.swapIsPending_iff _).mp pending.2).1
          refine ⟨by rw [stamps, holds.times], fun i packed => ?_⟩
          rw [Scope.channelHasToBePacked_iff, samples] at packed
          rw [samples]
          -- as many samples as stamps, and the samples are the latest values
          refine (holds.values i (.inr packed)).eq_of_length ?_
          have count : rows.length = capacity := by
            rw [← full, Fifo.used_eq_length, holds.times, List.length_map]
          rw [List.length_map, List.length_map, ← Fifo.used_eq_length, packed, count]

end Trigger

/-- The scope together with the rows of all polls that took samples. -/
structure Logged (capacity n : Nat) (α : Type*) where
  scope : Scope capacity n α
  log : List (Row n α)

namespace Logged
variable {capacity n : Nat} {α : Type*}

def create [Zero α] : Logged capacity n α := ⟨Scope.create, []⟩

def logged (l : Logged capacity n α) : Operation α → List (Row n α)
  | .poll now memory => if l.scope.Sampled now then l.log ++ [l.scope.row now memory] else l.log
  | _ => l.log

def step [LT α] [DecidableLT α] [BEq α] (l : Logged capacity n α) (op : Operation α) :
    Logged capacity n α :=
  ⟨l.scope.step .evict op, l.logged op⟩

/-- What is handed over in this step is aligned. -/
def HandsOverAligned [LT α] [DecidableLT α] [BEq α] (l : Logged capacity n α) (op : Operation α) :
    Prop :=
  l.scope.handsOver .evict op = true → (l.step op).scope.Aligned (l.step op).log

/-- No running channel is stopped with a full poll buffer while another one runs on. -/
def StopsNoFullChannel (l : Logged capacity n α) : Operation α → Prop
  | .setChannelStopped id => ∀ i : Fin (n + 1), i = id → (l.scope.channels i).state = .running →
      (l.scope.channels i).pollBuffer.Full → 0 < capacity →
        ∀ j, j ≠ i → (l.scope.channels j).state ≠ .running
  | _ => True

def HoldsLog (l : Logged capacity n α) : Prop :=
  ∃ rows, rows.Sublist l.log ∧ Holds rows l.scope.trigger

theorem HoldsLog.of_trigger {l l' : Logged capacity n α} (holds : l.HoldsLog)
    (log : l'.log = l.log)
    (trigger : ∀ rows, Holds rows l.scope.trigger → Holds rows l'.scope.trigger) : l'.HoldsLog := by
  obtain ⟨rows, chosen, held⟩ := holds
  exact ⟨rows, log ▸ chosen, trigger rows held⟩

theorem HoldsLog.of_empty {l : Logged capacity n α}
    (stamps : l.scope.timestamper.pollBuffer = .empty)
    (samples : ∀ i, (l.scope.channels i).pollBuffer = .empty) : l.HoldsLog :=
  ⟨[], List.nil_sublist l.log, Holds.of_empty stamps samples⟩

theorem holdsLog_create [Zero α] : (create : Logged capacity n α).HoldsLog :=
  HoldsLog.of_empty rfl fun _ => rfl

theorem holds_setChannelRunning {s : Scope capacity n α} {rows : List (Row n α)}
    (holds : Holds rows s.trigger) (id : Nat) : ∃ kept, kept.Sublist rows ∧
      Holds kept (s.setChannelRunning id).trigger := by
  refine Scope.setChannelRunning_cases s id (fun _ => ?_) (fun inRange allStopped => ?_) fun _ _ => ?_
  · exact ⟨rows, List.Sublist.refl rows, holds⟩
  · refine ⟨rows, List.Sublist.refl rows, holds.rearranged
      (s.modifyChannel_keeps _ Channel.pollBuffer fun c => c.pollBuffer_setStateRunning) ?_ ?_⟩
    · intro i running
      exact absurd running (allStopped i)
    · intro stamping i full nonempty
      exact Scope.running_started ⟨id, inRange⟩ (holds.ongoing stamping i full nonempty)
  · exact ⟨[], List.nil_sublist rows, Holds.of_empty rfl fun _ => rfl⟩

theorem holds_setChannelStopped {l : Logged capacity n α} {rows : List (Row n α)}
    (holds : Holds rows l.scope.trigger) (id : Nat)
    (keeps : l.StopsNoFullChannel (.setChannelStopped id)) :
    Holds rows (l.scope.setChannelStopped id).trigger := by
  have buffer (inRange : id < n + 1) := l.scope.modifyChannel_keeps ⟨id, inRange⟩
    Channel.pollBuffer fun c => c.pollBuffer_setStateStopped
  refine Scope.setChannelStopped_cases l.scope id (fun _ => holds) (fun inRange _ => ?_)
    fun inRange someRuns => ?_
  · exact holds.halted rfl (fun i => (Channel.pollBuffer_setStateStopped _).trans (buffer inRange i))
      rfl fun i => Channel.not_running_setStateStopped _
  · refine holds.rearranged (buffer inRange) (fun i runs => (Scope.running_of_stopped runs).2)
      fun stamping i full nonempty => ?_
    have before : (l.scope.channels i).state = .running := holds.ongoing stamping i full nonempty
    by_cases here : i = ⟨id, inRange⟩
    · -- the stopped channel itself is full: then no other channel runs on
      have room : 0 < capacity := by
        rw [← (show (l.scope.channels i).pollBuffer.used = capacity from full)]
        exact List.length_pos_iff.mpr nonempty
      obtain ⟨j, still⟩ := someRuns
      obtain ⟨other, running⟩ := Scope.running_of_stopped still
      exact absurd running (keeps i (congrArg Fin.val here) before full room j (here ▸ other))
    · rw [if_neg here]
      exact before

section Step
variable [LT α] [DecidableLT α] [BEq α]

/-- One poll: what it hands over was held, and what it keeps is held. -/
theorem holds_poll {l : Logged capacity n α} (sound : l.scope.Sound) (holds : l.HoldsLog)
    (now : UInt32) (memory : Memory α) :
    (l.step (.poll now memory)).HoldsLog ∧ l.HandsOverAligned (.poll now memory) := by
  obtain ⟨rows, chosen, held⟩ := holds
  obtain ⟨-, ⟨waiting, silent, trigger⟩ | ⟨sampled, ran⟩⟩ := l.scope.poll_outcome .evict now memory
  · have log : (l.step (.poll now memory)).log = l.log := if_neg waiting
    refine ⟨⟨rows, log ▸ chosen, trigger.symm ▸ held⟩, fun sent => ?_⟩
    exact absurd (silent.symm.trans sent) (by decide)
  · have log : (l.step (.poll now memory)).log = l.log ++ [l.scope.row now memory] := if_pos sampled
    have polled : ∃ rows', rows'.Sublist (l.log ++ [l.scope.row now memory]) ∧
        Holds rows' (l.scope.sample .evict now memory) := by
      cases stamping : l.scope.timestamper.state with
      | stopped =>
          exact ⟨rows, chosen.trans (List.sublist_append_left _ _),
            Scope.holds_sample_stopped sound held stamping⟩
      | running =>
          refine ⟨_, (List.drop_sublist _ _).trans ?_, Scope.holds_sample_running held stamping⟩
          exact chosen.append (List.Sublist.refl _)
    obtain ⟨rows', chosen', held'⟩ := polled
    obtain ⟨kept, fewer, after⟩ :=
      Trigger.holds_ran (Scope.sound_sample .evict now memory sound) held' ran
    refine ⟨⟨kept, log ▸ fewer.trans chosen', after⟩, fun sent => ?_⟩
    have handed : (l.scope.poll .evict now memory).1 = true := sent
    rw [handed] at ran
    exact ⟨rows', log ▸ chosen', Trigger.delivers_ran held' ran⟩

theorem holds_step {l : Logged capacity n α} (op : Operation α) (sound : l.scope.Sound)
    (holds : l.HoldsLog) (keeps : l.StopsNoFullChannel op) : (l.step op).HoldsLog := by
  cases op with
  | poll now memory => exact (holds_poll sound holds now memory).1
  | configureChannel id address type =>
      refine holds.of_trigger rfl fun rows held => ?_
      dsimp only [step, Scope.step]
      refine Scope.configureChannel_cases l.scope id address type (fun _ => held) fun inRange => ?_
      have state (i) : ((l.scope.modifyChannel ⟨id, inRange⟩ fun c =>
          c.setPollAddress address type).channels i).state = .running ↔
            (l.scope.channels i).state = .running := by
        dsimp only [Scope.modifyChannel, Scope.channels]
        split
        · exact Channel.running_setPollAddress _
        · exact Iff.rfl
      refine held.rearranged (l.scope.modifyChannel_keeps _ Channel.pollBuffer
        fun c => c.pollBuffer_setPollAddress address type) ?_ ?_
      · intro i
        exact (state i).mp
      · intro stamping i full nonempty
        exact (state i).mpr (held.ongoing stamping i full nonempty)
  | configureTrigger conf =>
      refine holds.of_trigger rfl fun rows held => ?_
      dsimp only [step, Scope.step, Scope.configureTrigger, Trigger.configure]
      cases Trigger.configSanityCheck conf with
      | none => exact held
      | some checked => exact { held with }
  | configureTimestampIncrement increment =>
      exact holds.of_trigger rfl fun rows held => { held with }
  | setChannelRunning id =>
      obtain ⟨rows, chosen, held⟩ := holds
      obtain ⟨kept, fewer, after⟩ := holds_setChannelRunning held id
      exact ⟨kept, fewer.trans chosen, after⟩
  | setChannelStopped id =>
      exact holds.of_trigger rfl fun rows held => holds_setChannelStopped held id keeps
  | clear => exact HoldsLog.of_empty rfl fun _ => rfl
  | pack =>
      refine holds.of_trigger rfl fun rows held => ?_
      have state := Control.CommandPackData.state_drain l.scope
      have drained := held.rearranged (Control.CommandPackData.pollBuffer_drain l.scope)
        (fun i running => (state i).symm.trans running)
        (fun stamping i full nonempty => (state i).trans (held.ongoing stamping i full nonempty))
      dsimp only [step, Scope.step]
      exact Control.CommandPackData.run_cases l.scope (fun _ => held) { drained with }

theorem handedOver_aligned [Zero α] (ops : List (Operation α))
    (keeps : Run.Along step StopsNoFullChannel (create : Logged capacity n α) ops) :
    Run.Along step HandsOverAligned (create : Logged capacity n α) ops := by
  have preserved (l : Logged capacity n α) (op : Operation α)
      (inv : l.scope.Sound ∧ l.HoldsLog) (ok : l.StopsNoFullChannel op) :
      (l.step op).scope.Sound ∧ (l.step op).HoldsLog :=
    ⟨Scope.sound_step .evict op inv.1, holds_step op inv.1 inv.2 ok⟩
  have seen (l : Logged capacity n α) (op : Operation α)
      (inv : l.scope.Sound ∧ l.HoldsLog) (_ : l.StopsNoFullChannel op) : l.HandsOverAligned op := by
    cases op with
    | poll now memory => exact (holds_poll inv.1 inv.2 now memory).2
    | _ => exact fun sent => nomatch sent
  exact keeps.observe _ preserved seen ⟨Scope.sound_create, holdsLog_create⟩

end Step

section Run
open Operation

/-- The second channel stops half full, the data set then consists of the first one. -/
theorem handedOver_aligned_half_full :
    let ops := twoChannels ++ [.setChannelStopped 1, steadyPoll 2]
    (Run.exec step (create : Logged 2 1 Int) ops).scope.handsOver .evict (steadyPoll 3) = true ∧
      Run.Along step HandsOverAligned (create : Logged 2 1 Int) (ops ++ [steadyPoll 3]) := by
  refine ⟨by decide, handedOver_aligned _ ?_⟩
  refine ⟨trivial, trivial, trivial, trivial, trivial, ?_, trivial, trivial, trivial⟩
  simp only [StopsNoFullChannel]
  decide

/-- The second channel stops full. Its samples are from the first and second
poll, the stamps they are sent with from the second and third. -/
theorem handedOver_aligned_fails :
    ¬ Run.Along step HandsOverAligned (create : Logged 2 1 Int)
      (twoChannels ++ [steadyPoll 2, .setChannelStopped 1, steadyPoll 3]) := by
  intro along
  have last := ((Run.along_append _ _ _ (twoChannels ++ [steadyPoll 2, .setChannelStopped 1])
    [steadyPoll 3]).mp along).2.1
  obtain ⟨rows, chosen, times, values⟩ := last (by decide)
  have samples := values 1 (by decide)
  have recorded : ∀ r ∈ (Run.exec step (create : Logged 2 1 Int)
      (twoChannels ++ [steadyPoll 2, .setChannelStopped 1, steadyPoll 3])).log,
      r.time = 2 → r.values 1 = some 2 := by
    decide
  cases rows with
  | nil => exact absurd times (by decide)
  | cons r rest =>
      have time : 2 = r.time := (List.cons.inj times).1
      have value : some 1 = r.values 1 := (List.cons.inj samples).1
      rw [recorded r (chosen.subset List.mem_cons_self) time.symm] at value
      cases value

end Run

end Logged

end Core
