import ScopeTarget.Builders.Interleavings
import ScopeTarget.Builders.TargetData
import ScopeTarget.Control.ChannelLists

/-! The addresses that are polled. As long as the lists of the host fit into their arrays, the
target never reads through a null pointer, nor past the end of what a pointer can hold. -/

namespace Core
open Control

namespace Channel
variable {capacity : Nat} {α : Type*} (c : Channel capacity α)

@[simp] theorem pollAddress_setStateRunning : c.setStateRunning.pollAddress = c.pollAddress := by
  unfold setStateRunning
  split <;> rfl

@[simp] theorem pollAddress_setStateStopped : c.setStateStopped.pollAddress = c.pollAddress := by
  unfold setStateStopped
  split <;> rfl

@[simp] theorem pollAddress_poll (memory : Memory α) : (c.poll memory).pollAddress = c.pollAddress := by
  unfold poll
  split
  · split <;> rfl
  · rfl

/-- A poll reads the address of the channel, and nothing else. -/
theorem poll_congr {memory memory' : Memory α}
    (agree : ∀ address type, c.pollAddress = some (address, type) → memory' address type = memory address type) :
    c.poll memory' = c.poll memory := by
  have cast : c.castDataToFloat memory' = c.castDataToFloat memory := by
    unfold castDataToFloat
    cases polled : c.pollAddress with
    | none => rfl
    | some place => exact congrArg some (agree place.1 place.2 polled)
  unfold poll
  rw [cast]

end Channel

namespace Trigger
variable {capacity n : Nat} {α : Type*}

theorem pollAddress_run [LT α] [DecidableLT α] [BEq α] (t : Trigger capacity n α) (i : Fin (n + 1)) :
    (t.run.2.channels i).pollAddress = (t.channels i).pollAddress := by
  have restored : (t.restoreChannelStates.channels i).pollAddress = (t.channels i).pollAddress := by
    dsimp only [restoreChannelStates]
    split
    · exact Channel.pollAddress_setStateRunning _
    · rfl
  have read (j : Fin (n + 1)) (rest : Fifo 4 α) :
      ((t.readStream j rest).channels i).pollAddress = (t.channels i).pollAddress := by
    dsimp only [readStream]
    split
    · rfl
    · rfl
  have does := t.does_run
  generalize t.run = r at does ⊢
  cases does with
  | idles => rfl
  | resumes => exact restored
  | staysPaused => rfl
  | decides => rfl
  | gathers => rfl
  | misses origin strategy j rest => exact read j rest
  | finds origin strategy j rest => exact read j rest
  | fills => rfl
  | filled => rfl
  | stops => exact Channel.pollAddress_setStateStopped _
  | handsOver => exact Channel.pollAddress_setStateStopped _

end Trigger

namespace Scope
variable {capacity n : Nat} {α : Type*}

/-- Every channel that has an address has a good one. -/
def Polls (Good : Nat → Prop) (s : Scope capacity n α) : Prop :=
  ∀ i address type, (s.channels i).pollAddress = some (address, type) → Good address

variable {Good : Nat → Prop} {s after : Scope capacity n α}

theorem Polls.same (polls : s.Polls Good)
    (same : ∀ i, (after.channels i).pollAddress = (s.channels i).pollAddress) : after.Polls Good := by
  intro i address type polled
  rw [same i] at polled
  exact polls i address type polled

theorem polls_create [Zero α] : (create : Scope capacity n α).Polls Good := by
  intro i address type polled
  cases polled

theorem polls_configureChannel (polls : s.Polls Good) {address : Nat} (good : Good address) (id : Nat)
    (type : DataTypes) : (s.configureChannel id address type).Polls Good := by
  refine configureChannel_cases s id address type (fun _ => polls) fun inRange => ?_
  intro i polled polledType member
  by_cases here : i = ⟨id, inRange⟩
  · subst here
    rw [modifyChannel_same] at member
    obtain ⟨rfl, -⟩ := Prod.mk.inj (Option.some.inj member)
    exact good
  · rw [modifyChannel_other s here] at member
    exact polls i polled polledType member

section Step
variable [LT α] [DecidableLT α] [BEq α] {overflow : Overflow}

/-- Only a configuration changes the address of a channel. -/
theorem polls_step (polls : s.Polls Good) {op : Operation α}
    (configured : ∀ id address type, op = .configureChannel id address type → Good address) :
    (s.step overflow op).Polls Good := by
  cases op with
  | poll now memory =>
      apply polls.same
      intro i
      by_cases sampled : s.Sampled now
      · have trigger := congrArg Prod.snd (poll_of_sampled overflow sampled memory)
        have ran := (s.sample overflow now memory).pollAddress_run i
        rw [← trigger] at ran
        exact ran.trans ((s.channels i).pollAddress_poll memory)
      · have trigger := (poll_of_not_sampled overflow sampled memory).2
        exact congrArg (fun t => (t.channels i).pollAddress) trigger
  | configureChannel id address type => exact polls_configureChannel polls (configured id address type rfl) id type
  | configureTrigger conf =>
      apply polls.same
      intro i
      change ((s.trigger.configure conf).channels i).pollAddress = _
      unfold Trigger.configure
      split
      · rfl
      · rfl
  | configureTimestampIncrement increment => exact polls.same fun _ => rfl
  | setChannelRunning id =>
      have started (inRange : id < n + 1) :
          (s.modifyChannel ⟨id, inRange⟩ Channel.setStateRunning).Polls Good :=
        polls.same fun i => s.modifyChannel_keeps _ Channel.pollAddress Channel.pollAddress_setStateRunning i
      change (s.setChannelRunning id).Polls Good
      refine setChannelRunning_cases s id (fun _ => polls) (fun inRange _ => started inRange) ?_
      intro inRange running _
      apply (started inRange).same
      intro i
      change ((Trigger.restoreChannelStates _).channels i).pollAddress = _
      unfold Trigger.restoreChannelStates
      dsimp only
      split
      · exact Channel.pollAddress_setStateRunning _
      · rfl
  | setChannelStopped id =>
      have halted (inRange : id < n + 1) :
          (s.modifyChannel ⟨id, inRange⟩ Channel.setStateStopped).Polls Good :=
        polls.same fun i => s.modifyChannel_keeps _ Channel.pollAddress Channel.pollAddress_setStateStopped i
      change (s.setChannelStopped id).Polls Good
      refine setChannelStopped_cases s id (fun _ => polls) ?_ (fun inRange _ => halted inRange)
      intro inRange stopped _
      apply (halted inRange).same
      intro i
      exact Channel.pollAddress_setStateStopped _
  | clear => exact polls.same fun _ => rfl
  | pack =>
      change (CommandPackData.run s).2.Polls Good
      refine CommandPackData.run_cases s (fun _ => polls) (polls.same fun i => ?_)
      dsimp only [CommandPackData.drain, channels]
      split
      · rfl
      · rfl

/-- A poll reads good addresses only. -/
theorem poll_congr (polls : s.Polls Good) {now : UInt32} {memory memory' : Memory α}
    (agree : ∀ address type, Good address → memory' address type = memory address type) :
    s.poll overflow now memory' = s.poll overflow now memory := by
  have channels : (fun i => (s.channels i).poll memory') = fun i => (s.channels i).poll memory := by
    funext i
    apply (s.channels i).poll_congr
    intro address type polled
    exact agree address type (polls i address type polled)
  unfold poll sample
  rw [channels]

end Step

end Scope

end Core

namespace Control
open Core

/-- What a pointer of the host can be: 32 bits, and not null. -/
def IsPointer (address : Nat) : Prop := address ≠ 0 ∧ address < 2 ^ 32

instance (address : Nat) : Decidable (IsPointer address) := inferInstanceAs (Decidable (_ ∧ _))

namespace ScopeCall
variable {α : Type*}

/-- The call configures no address but a pointer. -/
def Points : ScopeCall α → Prop
  | .configureChannelAddress address _ _ => IsPointer address.toNat
  | _ => True

theorem pointer_of_points {call : ScopeCall α} (points : call.Points) {now : UInt32} {memory : Memory α}
    {op : Operation α} (asked : call.operation now memory = some op) {id address : Nat} {type : DataTypes}
    (configures : op = .configureChannel id address type) : IsPointer address := by
  subst configures
  cases call with
  | configureChannelAddress given id type =>
      have same := Operation.configureChannel.inj (Option.some.inj asked)
      rw [← same.2.1]
      exact points
  | _ => cases asked

end ScopeCall

section ChannelLists
variable {ε α : Type*} {amountOfChannels : Nat} {id : ε → UInt32} {call : ε → Option (ScopeCall α)}

theorem mem_calls_runChannelList {entries : List ε} {c : ScopeCall α}
    (member : c ∈ (runChannelList amountOfChannels id call entries).calls) :
    ∃ e ∈ entries, call e = some c := by
  induction entries with
  | nil => cases member
  | cons e es ih =>
      unfold runChannelList at member
      split at member
      · cases member
      · rcases List.mem_append.mp member with here | later
        · exact ⟨e, List.mem_cons_self, Option.mem_toList.mp here⟩
        · obtain ⟨e', inside, made⟩ := ih later
          exact ⟨e', List.mem_cons_of_mem e inside, made⟩

end ChannelLists

namespace CommandKind
variable {α : Type*} {amountOfChannels : Nat} {c : Commands α}

/-- Lists that have passed their checks ask for pointers only. -/
theorem points_run (kind : CommandKind) (passed : c.Passed amountOfChannels) :
    ∀ call ∈ (kind.run amountOfChannels c).calls, call.Points := by
  intro call member
  cases kind with
  | addr =>
      obtain ⟨e, inside, made⟩ := mem_calls_runChannelList member
      obtain rfl := Option.some.inj made
      have pointer : e.newAddress ≠ 0 := of_decide_eq_true (passed.addr e inside).2
      refine ⟨fun none_ => pointer ?_, e.newAddress.toNat_lt⟩
      exact UInt32.toNat_inj.mp none_
  | running =>
      obtain ⟨e, inside, made⟩ := mem_calls_runChannelList member
      unfold CommandRunning.call at made
      split at made
      · obtain rfl := Option.some.inj made
        trivial
      · obtain rfl := Option.some.inj made
        trivial
      · cases made
  | tInc =>
      obtain ⟨increment, -, rfl⟩ := Option.map_eq_some_iff.mp (Option.mem_toList.mp member)
      trivial
  | trigger =>
      obtain ⟨conf, -, rfl⟩ := Option.map_eq_some_iff.mp (Option.mem_toList.mp member)
      trivial
  | poll =>
      obtain rfl := List.mem_singleton.mp member
      trivial
  | trans =>
      obtain rfl := List.mem_singleton.mp member
      trivial
  | clear =>
      obtain rfl := List.mem_singleton.mp member
      trivial
  | announce => cases member
  | detect => cases member

end CommandKind

namespace Controller
variable {Q α : Type*} [AgingPriorityQueue Q] {self : Controller Q α} {amountOfChannels : Nat}

theorem passed_runRx (passed : self.commands.Passed amountOfChannels) (unpacker : Unpacker α) :
    (self.runRx amountOfChannels unpacker).2.2.commands.Passed amountOfChannels := by
  unfold runRx
  split
  · exact passed
  · split
    · exact (self.commands_push .seNak).symm ▸ passed
    · exact passed.dispatch unpacker self.commandPending

theorem points_runRx (passed : self.commands.Passed amountOfChannels) (unpacker : Unpacker α) :
    ∀ call ∈ (self.runRx amountOfChannels unpacker).2.1.calls, call.Points := by
  intro call member
  unfold runRx at member
  split at member
  · cases member
  · split at member
    · cases member
    · have after := passed.dispatch unpacker self.commandPending
      dsimp only at member
      split at member
      · cases member
      · rename_i kind selected
        exact kind.points_run after call member

theorem commands_runTx (self : Controller Q α) (packerIsReady logIsPending : Bool) :
    (self.runTx packerIsReady logIsPending).2.commands = self.commands := by
  have logged : (if logIsPending = true then self.commandPackPushEvent .scLog else self).commands =
      self.commands := by
    split
    · exact self.commands_push .scLog
    · rfl
  unfold runTx
  split
  · rfl
  · split
    · rfl
    · generalize (if logIsPending = true then self.commandPackPushEvent .scLog else self) = pushed
        at logged
      dsimp only
      split
      · exact logged
      · split
        · exact logged
        · exact logged

end Controller

namespace DataPacking
variable {capacity n : Nat} {α : Type*} [LT α] [DecidableLT α] [BEq α]

theorem poll_congr (overflow : Overflow) {self : DataPacking capacity n α} {Good : Nat → Prop}
    (polls : self.scope.Polls Good) (now : UInt32) {memory memory' : Memory α}
    (agree : ∀ address type, Good address → memory' address type = memory address type) :
    self.step overflow (.operation (.poll now memory')) = self.step overflow (.operation (.poll now memory)) ∧
      self.scope.handsOver overflow (.poll now memory') = self.scope.handsOver overflow (.poll now memory) := by
  have polled : self.scope.poll overflow now memory' = self.scope.poll overflow now memory :=
    Scope.poll_congr polls agree
  let acted (result : Bool × Scope capacity n α) : DataPacking capacity n α :=
    { self with
      scope := result.2
      pollStream := if result.1 then !self.pollStream else self.pollStream
      queued := if result.1 then self.queued + 1 else self.queued }
  exact ⟨congrArg acted polled, congrArg Prod.fst polled⟩

end DataPacking

end Control

namespace Builders
open Core Control Serialisation FramedIO

/-- The memory with something else in all places that a pointer of the host cannot name. -/
def Moment.masked {α : Type*} (junk : Memory α) (moment : Moment α) : Moment α where
  now := moment.now
  memory := fun address type => if IsPointer address then moment.memory address type else junk address type

theorem Moment.agree_masked {α : Type*} (junk : Memory α) (moment : Moment α) (address : Nat) (type : DataTypes)
    (pointer : IsPointer address) : (moment.masked junk).memory address type = moment.memory address type :=
  if_pos pointer

/-- The threads meet another memory. -/
def ThreadsEvent.masked {α : Type*} {outCap : Nat} (junk : Memory α) :
    ThreadsEvent α outCap → ThreadsEvent α outCap
  | .scope moment => .scope (moment.masked junk)
  | .stack moment logIsPending other => .stack (moment.masked junk) logIsPending other
  | .putRxData bytes => .putRxData bytes
  | .getTxData length => .getTxData length

namespace Target
variable {Q α : Type*} {inCap outCap capacity n : Nat}

/-- The lists in the command objects have passed their checks, and no channel has an address
that is no pointer. -/
structure Guarded (t : Target Q α inCap outCap capacity n) : Prop where
  commands : t.stack.sending.controller.commands.Passed (n + 1)
  polls : t.scope.Polls IsPointer

theorem guarded_create [AgingPriorityQueue Q] [Zero α] (unpacker : Unpacker α) (queue : Q) (priorities : MessagePriorities) :
    (create unpacker queue priorities : Target Q α inCap outCap capacity n).Guarded :=
  ⟨Commands.passed_create, Scope.polls_create⟩

variable {t after : Target Q α inCap outCap capacity n}

theorem Guarded.same (guarded : t.Guarded)
    (commands : after.stack.sending.controller.commands = t.stack.sending.controller.commands)
    (polled : ∀ i, (after.scope.channels i).pollAddress = (t.scope.channels i).pollAddress) : after.Guarded :=
  ⟨commands.symm ▸ guarded.commands, guarded.polls.same polled⟩

theorem pollAddress_drained (t : Target Q α inCap outCap capacity n) (toPack : List (Fin (n + 1))) (i : Fin (n + 1)) :
    ((t.data.drained toPack).scope.channels i).pollAddress = (t.scope.channels i).pollAddress := by
  change (if i ∈ toPack then _ else _ : Channel capacity α).pollAddress = _
  split
  · rfl
  · rfl

section Scope
variable [AgingPriorityQueue Q] [LT α] [DecidableLT α] [BEq α] (overflow : Overflow)

theorem guarded_act (guarded : t.Guarded) {activity : DataActivity α}
    (configured : ∀ id address type, activity = .operation (.configureChannel id address type) →
      IsPointer address) (other : activity ≠ .operation .pack) : (t.act overflow activity).Guarded := by
  have commands : (t.act overflow activity).stack.sending.controller.commands =
      t.stack.sending.controller.commands := by
    unfold act
    dsimp only
    split
    · exact t.stack.sending.controller.commands_push .scData
    · rfl
  refine ⟨commands.symm ▸ guarded.commands, ?_⟩
  unfold scope
  rw [data_act]
  cases activity with
  | transmit => exact guarded.polls
  | operation op =>
      rw [DataPacking.step_operation fun pack => other (congrArg DataActivity.operation pack)]
      apply Scope.polls_step guarded.polls
      intro id address type same
      exact configured id address type (congrArg DataActivity.operation same)

theorem act_masked (guarded : t.Guarded) (junk : Memory α) (moment : Moment α) :
    t.act overflow (.operation (.poll moment.now (moment.masked junk).memory)) =
      t.act overflow (.operation (.poll moment.now moment.memory)) := by
  obtain ⟨stepped, handed⟩ := DataPacking.poll_congr overflow guarded.polls moment.now
    (moment.agree_masked junk)
  unfold act
  rw [stepped]
  exact if_congr (Iff.of_eq (congrArg (fun sent : Bool => sent = true) handed)) rfl rfl

theorem guarded_call (guarded : t.Guarded) (moment : Moment α) {call : ScopeCall α} (points : call.Points) :
    (t.call overflow moment call).Guarded := by
  apply guarded_act overflow guarded
  · intro id address type configures
    unfold ScopeCall.activity at configures
    split at configures
    · rename_i op asked
      exact ScopeCall.pointer_of_points points asked (DataActivity.operation.inj configures)
    · cases configures
  · exact call.activity_ne_pack

theorem call_masked (guarded : t.Guarded) (junk : Memory α) (moment : Moment α) (call : ScopeCall α) :
    t.call overflow (moment.masked junk) call = t.call overflow moment call := by
  cases call with
  | poll => exact act_masked overflow guarded junk moment
  | _ => rfl

theorem guarded_calls (guarded : t.Guarded) (moment : Moment α) {calls : List (ScopeCall α)}
    (points : ∀ call ∈ calls, call.Points) : (calls.foldl (call overflow moment) t).Guarded := by
  induction calls generalizing t with
  | nil => exact guarded
  | cons c calls ih =>
      have here := guarded_call overflow guarded moment (points c List.mem_cons_self)
      exact ih here fun call later => points call (List.mem_cons_of_mem c later)

theorem calls_masked (guarded : t.Guarded) (junk : Memory α) (moment : Moment α) {calls : List (ScopeCall α)}
    (points : ∀ call ∈ calls, call.Points) :
    calls.foldl (call overflow (moment.masked junk)) t = calls.foldl (call overflow moment) t := by
  induction calls generalizing t with
  | nil => rfl
  | cons c calls ih =>
      have here := guarded_call overflow guarded moment (points c List.mem_cons_self)
      rw [List.foldl_cons, List.foldl_cons, call_masked overflow guarded junk moment c]
      exact ih here fun call later => points call (List.mem_cons_of_mem c later)

theorem guarded_runCommandParser (guarded : t.Guarded) (moment : Moment α) :
    (t.runCommandParser overflow moment).Guarded := by
  have points := Controller.points_runRx guarded.commands t.stack.unpacker
  have called := guarded_calls overflow guarded moment points
  exact ⟨Controller.passed_runRx called.commands _, called.polls⟩

theorem runCommandParser_masked (guarded : t.Guarded) (junk : Memory α) (moment : Moment α) :
    t.runCommandParser overflow (moment.masked junk) = t.runCommandParser overflow moment := by
  have points := Controller.points_runRx guarded.commands t.stack.unpacker
  have same := calls_masked overflow guarded junk moment points
  unfold runCommandParser
  dsimp only
  rw [same]

end Scope

section Step
variable [AgingPriorityQueue Q] [LT α] [DecidableLT α] [BEq α] (p : Platform α outCap)

theorem guarded_step (guarded : t.Guarded) (event : TargetEvent α outCap) : (t.step p event).Guarded := by
  cases event with
  | putRxData bytes =>
      change (t.putRxData bytes).Guarded
      unfold putRxData
      split
      · exact guarded
      · exact guarded.same rfl fun _ => rfl
  | getTxData length => exact guarded.same rfl fun _ => rfl
  | runCommunicationRx => exact guarded.same rfl fun _ => rfl
  | runUnpacker =>
      refine guarded.same ?_ fun _ => rfl
      change (Stack.runUnpacker p.decode t.stack).sending.controller.commands = _
      unfold Stack.runUnpacker
      dsimp only
      split
      · rfl
      · rfl
  | runCommandParser moment => exact guarded_runCommandParser p.overflow guarded moment
  | runScope moment =>
      apply guarded_act p.overflow guarded
      · intro id address type same
        cases same
      · exact nofun
  | runDataAggregator logIsPending =>
      have commands := t.stack.sending.controller.commands_runTx
        (t.stack.sending.serializer.isReady t.stack.sending.tx.output) logIsPending
      have packed (event : MessageType) : (t.runPackCommand event).data.scope = t.data.scope := by
        unfold runPackCommand
        split
        · rfl
        · rfl
      change (t.runDataAggregator logIsPending).Guarded
      unfold runDataAggregator
      dsimp only
      split
      · exact guarded.same commands fun _ => rfl
      · rename_i event _
        refine guarded.same commands fun i => ?_
        exact congrArg (fun s : Scope capacity n α => (s.channels i).pollAddress) (packed event)
  | runPacker other =>
      refine guarded.same rfl fun i => ?_
      change ((ite _ (t.data.drained t.toPack) t.data).scope.channels i).pollAddress = _
      split
      · exact t.pollAddress_drained t.toPack i
      · rfl
  | runCommunicationTx => exact guarded.same rfl fun _ => rfl

end Step

end Target

namespace Threads
variable {Q α : Type*} {inCap outCap capacity n : Nat} [AgingPriorityQueue Q] [LT α] [DecidableLT α] [BEq α]
  {p : Platform α outCap} {s : Threads Q α inCap outCap capacity n}

theorem guarded_stepScope (guarded : s.target.Guarded) (moment : Moment α) :
    (s.stepScope p moment).target.Guarded := by
  unfold stepScope
  split
  · split <;> exact guarded
  · split <;> exact guarded
  · split <;> exact guarded
  · have polled : (s.target.scope.step p.overflow (.poll moment.now moment.memory)).Polls IsPointer :=
      Scope.polls_step guarded.polls fun id address type same => by cases same
    exact ⟨guarded.commands, polled⟩
  · dsimp only
    split
    · exact guarded.same (s.target.stack.sending.controller.commands_push .scData) fun _ => rfl
    · exact guarded
  · exact guarded
  · exact guarded

theorem guarded_stepStack (guarded : s.target.Guarded) (moment : Moment α) (logIsPending : Bool)
    (other : Written outCap) : (s.stepStack p moment logIsPending other).target.Guarded := by
  unfold stepStack
  split
  · exact Target.guarded_step p guarded .runCommunicationRx
  · exact Target.guarded_step p guarded .runUnpacker
  · split <;> exact guarded
  · split <;> exact guarded
  · exact Target.guarded_step p guarded (.runCommandParser moment)
  · exact guarded
  · split <;> exact guarded
  · exact Target.guarded_step p guarded (.runDataAggregator logIsPending)
  · exact Target.guarded_step p guarded (.runPacker other)
  · exact Target.guarded_step p guarded .runCommunicationTx
  · exact guarded

theorem guarded_step (guarded : s.target.Guarded) (event : ThreadsEvent α outCap) :
    (s.step p event).target.Guarded := by
  cases event with
  | scope moment => exact guarded_stepScope guarded moment
  | stack moment logIsPending other => exact guarded_stepStack guarded moment logIsPending other
  | putRxData bytes => exact Target.guarded_step p guarded (.putRxData bytes)
  | getTxData length => exact Target.guarded_step p guarded (.getTxData length)

/-- Only the poll and the commands read the memory. -/
theorem step_masked (guarded : s.target.Guarded) (junk : Memory α) (event : ThreadsEvent α outCap) :
    s.step p (event.masked junk) = s.step p event := by
  cases event with
  | scope moment =>
      change s.stepScope p (moment.masked junk) = s.stepScope p moment
      obtain ⟨stepped, handed⟩ :=
        DataPacking.poll_congr p.overflow guarded.polls moment.now (moment.agree_masked junk)
      let polled (data : DataPacking capacity n α) (handedOver : Bool) : Threads Q α inCap outCap capacity n :=
        { s with target := { s.target with data := data }, scopePlace := .notifies handedOver }
      unfold stepScope
      split
      · rfl
      · rfl
      · rfl
      · exact congrArg₂ polled stepped handed
      · rfl
      · rfl
      · rfl
  | stack moment logIsPending other =>
      change s.stepStack p (moment.masked junk) logIsPending other = s.stepStack p moment logIsPending other
      have parsed : s.target.step p (.runCommandParser (moment.masked junk)) =
          s.target.step p (.runCommandParser moment) := s.target.runCommandParser_masked p.overflow guarded junk moment
      unfold stepStack
      rw [parsed]
  | putRxData bytes => rfl
  | getTxData length => rfl

section Run

/-- The channel polls the address it was given. -/
example : ((Run.exec (step Remote.platform) listening turns).target.scope.channels 0).pollAddress =
    some (16, .seInt8) := by decide +kernel

end Run

end Threads

end Builders
