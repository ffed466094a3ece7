import ScopeTarget.Builders.Target

/-! The data side of the target. Whatever the runnables do, its scope and its packer
move as they do under operations of the scope and the processing of data events. -/

namespace Control
open Core

namespace CommandKind
variable {α : Type*} {amountOfChannels : Nat} {c : Commands α}

theorem notified_runChannelList {ε : Type*} {id : ε → UInt32} {call : ε → Option (ScopeCall α)}
    {entries : List ε} :
    ∀ e ∈ (runChannelList amountOfChannels id call entries).notified, e = .seAck := by
  induction entries with
  | nil => exact fun e member => List.mem_singleton.mp member
  | cons entry entries ih =>
      unfold runChannelList
      split
      · exact fun e member => absurd member List.not_mem_nil
      · exact ih

/-- A command asks for no data message but through the scope. -/
theorem notified_run (kind : CommandKind) : .scData ∉ (kind.run amountOfChannels c).notified := by
  cases kind with
  | running =>
      intro member
      cases notified_runChannelList _ member
  | addr =>
      intro member
      cases notified_runChannelList _ member
  | poll => exact fun member => absurd (List.mem_singleton.mp member) (by decide)
  | tInc => exact fun member => absurd (List.mem_singleton.mp member) (by decide)
  | trigger => exact fun member => absurd (List.mem_singleton.mp member) (by decide)
  | trans => exact List.not_mem_nil
  | announce => exact fun member => absurd (List.mem_singleton.mp member) (by decide)
  | clear => exact fun member => absurd (List.mem_singleton.mp member) (by decide)
  | detect => exact fun member => absurd (List.mem_singleton.mp member) (by decide)

end CommandKind

namespace ScopeCall
variable {α : Type*} {now : UInt32} {memory : Memory α}

/-- No call reads the swap buffers. -/
theorem activity_ne_pack (call : ScopeCall α) : call.activity now memory ≠ .operation .pack := by
  cases call <;> exact nofun

end ScopeCall

namespace Controller
variable {Q α : Type*} [AgingPriorityQueue Q] [CountedAgingPriorityQueue Q]
open CountedAgingPriorityQueue

theorem count_runRx (self : Controller Q α) (amountOfChannels : Nat) (unpacker : Unpacker α) :
    count (self.runRx amountOfChannels unpacker).2.2.queue .scData ≤ count self.queue .scData := by
  unfold runRx
  split
  · exact Nat.le_refl _
  · split
    · exact self.count_push_other (by decide)
    · apply self.count_notified
      split
      · exact List.not_mem_nil
      · exact CommandKind.notified_run _

end Controller

end Control

namespace Builders
open Core Control Serialisation FramedIO

namespace Target
variable {Q α : Type*} {inCap outCap capacity n : Nat}

/-- The data side as it is once a message that is being packed has been packed. -/
def settled (t : Target Q α inCap outCap capacity n) : DataPacking capacity n α :=
  if t.packingPending = .scData then t.data.drained t.toPack else t.data

theorem settled_of_ne {t : Target Q α inCap outCap capacity n} (other : t.packingPending ≠ .scData) :
    t.settled = t.data := if_neg other

theorem toPack_runPackCommand {t : Target Q α inCap outCap capacity n} (emptied : t.toPack = []) :
    (t.runPackCommand .scData).toPack = CommandPackData.channelsToPack t.data.scope := by
  change (CommandPackData.channelsToPack t.data.scope).foldl addChannel t.toPack = _
  rw [emptied, foldl_addChannel_nil]

theorem settled_runPackCommand {t : Target Q α inCap outCap capacity n} (emptied : t.toPack = [])
    (event : MessageType) {sending : SendingStack Q α outCap}
    (pending : sending.serializer.packingPending = event) :
    ((t.runPackCommand event).withSending sending).settled =
      if event = .scData then t.data.process else t.data := by
  subst pending
  unfold runPackCommand
  rw [emptied, foldl_addChannel_nil]
  split
  · rename_i data
    exact (if_pos data).trans t.data.drained_collected
  · rename_i other
    exact if_neg other

/-- The scope is not touched while a message is being packed. -/
def Orderly (t : Target Q α inCap outCap capacity n) : TargetEvent α outCap → Prop
  | .runCommandParser _ => t.packingPending = .seNone
  | .runScope _ => t.packingPending = .seNone
  | _ => True

section Steps
variable [AgingPriorityQueue Q]

/-- What a runnable does to the data side. -/
def activities (t : Target Q α inCap outCap capacity n) : TargetEvent α outCap → List (DataActivity α)
  | .runCommandParser moment =>
      (t.stack.sending.controller.runRx (n + 1) t.stack.unpacker).2.1.calls.map
        (ScopeCall.activity moment.now moment.memory)
  | .runScope moment => [.operation (.poll moment.now moment.memory)]
  | .runDataAggregator logIsPending =>
      if t.stack.sending.popped logIsPending = some .scData then [.operation .pack] else []
  | _ => []

variable [CountedAgingPriorityQueue Q]
open CountedAgingPriorityQueue

/-- A message is packed into an empty output, its channels do not stay in the packer, and
every data event in the queue is one that was announced and not processed. -/
structure Accounted (t : Target Q α inCap outCap capacity n) : Prop where
  free : t.packingPending ≠ .seNone → t.stack.sending.tx.output = .empty
  emptied : t.packingPending = .seNone → t.toPack = []
  counted : count t.stack.sending.controller.queue .scData ≤ t.settled.queued

theorem accounted_create [Zero α] {queue : Q} (empty : count queue .scData = 0) (unpacker : Unpacker α)
    (priorities : MessagePriorities) :
    (create unpacker queue priorities : Target Q α inCap outCap capacity n).Accounted where
  free pending := absurd rfl pending
  emptied _ := rfl
  counted := Nat.le_of_eq empty

/-- What neither the data side nor the queue takes part in. -/
theorem Accounted.aside {t after : Target Q α inCap outCap capacity n} (accounted : t.Accounted)
    (data : after.data = t.data) (toPack : after.toPack = t.toPack)
    (pending : after.packingPending = t.packingPending)
    (queue : after.stack.sending.controller.queue = t.stack.sending.controller.queue)
    (output : t.stack.sending.tx.output = .empty → after.stack.sending.tx.output = .empty) :
    after.Accounted ∧ after.settled = t.settled := by
  have settled : after.settled = t.settled := by
    unfold Target.settled
    rw [data, toPack, pending]
  refine ⟨⟨fun packs => output (accounted.free (pending ▸ packs)), ?_, ?_⟩, settled⟩
  · exact fun idle => toPack.trans (accounted.emptied (pending.symm.trans idle))
  · rw [queue, settled]
    exact accounted.counted

section Scope
variable [LT α] [DecidableLT α] [BEq α] {overflow : Overflow} {t : Target Q α inCap outCap capacity n}

theorem queued_step (data : DataPacking capacity n α) {activity : DataActivity α}
    (other : activity ≠ .operation .pack) :
    (data.step overflow activity).queued =
      data.queued + if data.announces overflow activity = true then 1 else 0 := by
  cases activity with
  | transmit => rfl
  | operation op =>
      rw [DataPacking.step_operation fun pack => other (congrArg DataActivity.operation pack)]
      unfold DataPacking.operate DataPacking.announces
      dsimp only
      split
      · rfl
      · rfl

/-- The event of an announced set is counted before it is queued. -/
theorem count_act (activity : DataActivity α) :
    count (t.act overflow activity).stack.sending.controller.queue .scData ≤
      count t.stack.sending.controller.queue .scData +
        if t.data.announces overflow activity = true then 1 else 0 := by
  unfold act
  dsimp only
  split
  · exact t.stack.sending.controller.count_commandPackPushEvent .scData .scData
  · exact Nat.le_refl _

variable (overflow)

theorem accounted_act (accounted : t.Accounted) (idle : t.packingPending = .seNone)
    {activity : DataActivity α} (other : activity ≠ .operation .pack) :
    (t.act overflow activity).Accounted ∧
      (t.act overflow activity).settled = t.settled.step overflow activity := by
  have still : (t.act overflow activity).packingPending = .seNone :=
    (t.packingPending_act activity).trans idle
  have before : t.settled = t.data := settled_of_ne (by rw [idle]; decide)
  have after : (t.act overflow activity).settled = t.data.step overflow activity :=
    (settled_of_ne (by rw [still]; decide)).trans (t.data_act activity)
  refine ⟨⟨fun packs => absurd still packs, fun _ => ?_, ?_⟩, by rw [after, before]⟩
  · exact (t.toPack_act activity).trans (accounted.emptied idle)
  have counted := accounted.counted
  rw [before] at counted
  rw [after, queued_step t.data other]
  exact (t.count_act activity).trans (Nat.add_le_add_right counted _)

theorem accounted_calls (accounted : t.Accounted) (idle : t.packingPending = .seNone) (moment : Moment α)
    (calls : List (ScopeCall α)) :
    let called := Run.exec (call overflow moment) t calls
    called.Accounted ∧ called.packingPending = .seNone ∧
      called.settled = Run.exec (DataPacking.step overflow) t.settled
        (calls.map (ScopeCall.activity moment.now moment.memory)) := by
  induction calls generalizing t with
  | nil => exact ⟨accounted, idle, rfl⟩
  | cons c calls ih =>
      have other : c.activity moment.now moment.memory ≠ .operation .pack := c.activity_ne_pack
      obtain ⟨here, settled⟩ := accounted_act overflow accounted idle other
      have next := ih here ((t.packingPending_act _).trans idle)
      rw [settled] at next
      exact next

theorem accounted_runCommandParser (accounted : t.Accounted) (idle : t.packingPending = .seNone)
    (moment : Moment α) :
    (t.runCommandParser overflow moment).Accounted ∧
      (t.runCommandParser overflow moment).settled = Run.exec (DataPacking.step overflow) t.settled
        (activities t (.runCommandParser moment : TargetEvent α outCap)) := by
  obtain ⟨called, still, settled⟩ := accounted_calls overflow accounted idle moment
    (t.stack.sending.controller.runRx (n + 1) t.stack.unpacker).2.1.calls
  refine ⟨⟨fun packs => absurd still packs, fun _ => called.emptied still, ?_⟩, settled⟩
  exact (Controller.count_runRx _ (n + 1) _).trans called.counted

end Scope

section Packing
variable {t : Target Q α inCap outCap capacity n}

omit [CountedAgingPriorityQueue Q] in
/-- An event is only handed out to a packer that has nothing to do. -/
theorem idle_of_popped {sending : SendingStack Q α outCap} {logIsPending : Bool} {event : MessageType}
    (popped : sending.popped logIsPending = some event) :
    sending.serializer.packingPending = .seNone ∧ sending.tx.output = .empty := by
  cases ready : sending.serializer.isReady sending.tx.output with
  | true =>
      obtain ⟨idle, used⟩ := of_decide_eq_true ready
      rw [Fifo.eq_empty_iff]
      exact ⟨idle, used⟩
  | false =>
      rw [SendingStack.popped, ready] at popped
      cases popped

/-- The events left in the queue, and the one that was popped. -/
theorem count_popped (sending : SendingStack Q α outCap) (logIsPending : Bool) :
    count (sending.controller.runTx (sending.serializer.isReady sending.tx.output) logIsPending).2.queue
        .scData + (if sending.popped logIsPending = some .scData then 1 else 0) ≤
      count sending.controller.queue .scData := Controller.count_runTx _ _ _ (by decide)

omit [CountedAgingPriorityQueue Q] in
theorem runDataAggregator_of_popped {logIsPending : Bool} {event : MessageType}
    (popped : t.stack.sending.popped logIsPending = some event) : t.runDataAggregator logIsPending =
      (t.runPackCommand event).withSending { t.stack.sending with
        controller := (t.stack.sending.controller.runTx
          (t.stack.sending.serializer.isReady t.stack.sending.tx.output) logIsPending).2
        serializer := t.stack.sending.serializer.updatePacker event } := by
  have sent : (t.stack.sending.controller.runTx
      (t.stack.sending.serializer.isReady t.stack.sending.tx.output) logIsPending).1 = some event := popped
  unfold runDataAggregator
  simp only [sent]

omit [CountedAgingPriorityQueue Q] in
theorem runDataAggregator_of_none {logIsPending : Bool}
    (none_ : t.stack.sending.popped logIsPending = none) : t.runDataAggregator logIsPending =
      t.withSending { t.stack.sending with
        controller := (t.stack.sending.controller.runTx
          (t.stack.sending.serializer.isReady t.stack.sending.tx.output) logIsPending).2 } := by
  have nothing : (t.stack.sending.controller.runTx
      (t.stack.sending.serializer.isReady t.stack.sending.tx.output) logIsPending).1 = none := none_
  unfold runDataAggregator
  simp only [nothing]

/-- The buffers of a data event that is popped belong to the packer from then on. -/
theorem accounted_pop (accounted : t.Accounted) {logIsPending : Bool} {event : MessageType}
    (popped : t.stack.sending.popped logIsPending = some event) :
    (t.runDataAggregator logIsPending).Accounted ∧ (t.runDataAggregator logIsPending).settled =
      if event = .scData then t.settled.process else t.settled := by
  obtain ⟨idle, empty⟩ := idle_of_popped popped
  have before : t.settled = t.data := settled_of_ne (by rw [packingPending, idle]; decide)
  have counted := (count_popped t.stack.sending logIsPending).trans accounted.counted
  rw [popped, before] at counted
  rw [runDataAggregator_of_popped popped, before]
  have emptied : t.toPack = [] := accounted.emptied idle
  have settled {sending : SendingStack Q α outCap} (pending : sending.serializer.packingPending = event) :=
    settled_runPackCommand emptied event pending
  refine ⟨⟨fun _ => empty, fun none_ => ?_, ?_⟩, settled rfl⟩
  · have other : event ≠ .scData := by
      rw [show event = .seNone from none_]
      decide
    change (t.runPackCommand event).toPack = []
    unfold runPackCommand
    rw [if_neg other, emptied]
  rw [settled rfl]
  by_cases data : event = .scData
  · subst data
    rw [if_pos rfl] at counted ⊢
    exact Nat.le_sub_of_add_le counted
  · rw [if_neg data]
    exact (Nat.le_add_right _ _).trans counted

/-- A data event that is popped was announced. -/
theorem positive_of_popped (accounted : t.Accounted) {logIsPending : Bool}
    (popped : t.stack.sending.popped logIsPending = some .scData) : t.settled.queued ≠ 0 := by
  have counted := (count_popped t.stack.sending logIsPending).trans accounted.counted
  rw [if_pos popped] at counted
  omega

theorem accounted_nothing_popped (accounted : t.Accounted) {logIsPending : Bool}
    (none_ : t.stack.sending.popped logIsPending = none) :
    (t.runDataAggregator logIsPending).Accounted ∧
      (t.runDataAggregator logIsPending).settled = t.settled := by
  have counted := (count_popped t.stack.sending logIsPending).trans accounted.counted
  rw [none_] at counted
  rw [runDataAggregator_of_none none_]
  exact ⟨⟨accounted.free, accounted.emptied, counted⟩, rfl⟩

theorem accounted_putRxData (accounted : t.Accounted) (bytes : List UInt8) :
    (t.putRxData bytes).Accounted ∧ (t.putRxData bytes).settled = t.settled := by
  unfold putRxData
  split
  · exact ⟨accounted, rfl⟩
  · exact accounted.aside rfl rfl rfl rfl fun empty => empty

/-- A message that was handed over is packed, for the output is empty. -/
theorem accounted_runPacker (accounted : t.Accounted) (p : Platform α outCap) (other : Written outCap) :
    (t.runPacker p other).Accounted ∧ (t.runPacker p other).settled = t.settled := by
  have idle := t.packingPending_runPacker p other
  have settled : (t.runPacker p other).settled = t.settled := by
    rw [settled_of_ne (by rw [idle]; decide)]
    change ite _ _ _ = ite _ _ _
    by_cases data : t.packingPending = .scData
    · have packs : t.packingPending ≠ .seNone := by
        rw [data]
        decide
      rw [if_pos ⟨⟨packs, congrArg Fifo.used (accounted.free packs)⟩, data⟩, if_pos data]
    · rw [if_neg fun both => data both.2, if_neg data]
  refine ⟨⟨fun packs => absurd idle packs, fun _ => ?_, ?_⟩, settled⟩
  · change ite _ _ _ = _
    split
    · rfl
    · rename_i kept
      apply accounted.emptied
      by_contra packs
      exact kept ⟨packs, congrArg Fifo.used (accounted.free packs)⟩
  · rw [settled]
    exact accounted.counted

end Packing

section Step
variable [LT α] [DecidableLT α] [BEq α]

theorem accounted_runDataAggregator {overflow : Overflow} {t : Target Q α inCap outCap capacity n}
    (accounted : t.Accounted) (logIsPending : Bool) :
    (t.runDataAggregator logIsPending).Accounted ∧ (t.runDataAggregator logIsPending).settled =
      Run.exec (DataPacking.step overflow) t.settled
        (if t.stack.sending.popped logIsPending = some .scData then [.operation .pack] else []) := by
  cases popped : t.stack.sending.popped logIsPending with
  | none => exact accounted_nothing_popped accounted popped
  | some event =>
      obtain ⟨after, settled⟩ := accounted_pop accounted popped
      refine ⟨after, settled.trans ?_⟩
      by_cases data : event = .scData
      · subst data
        rw [if_pos rfl, if_pos rfl]
        exact (if_neg (positive_of_popped accounted popped)).symm
      · rw [if_neg data, if_neg fun same => data (Option.some.inj same)]
        rfl

/-- Every runnable does to the data side what its activities say. -/
theorem simulates_data (p : Platform α outCap) : Run.Simulates (step p) (DataPacking.step p.overflow) Orderly
    (Accounted : Target Q α inCap outCap capacity n → Prop) settled activities := by
  have both (t : Target Q α inCap outCap capacity n) (event : TargetEvent α outCap)
      (accounted : t.Accounted) (orderly : t.Orderly event) : (t.step p event).Accounted ∧
        (t.step p event).settled = Run.exec (DataPacking.step p.overflow) t.settled (activities t event) := by
    cases event with
    | putRxData bytes => exact accounted_putRxData accounted bytes
    | getTxData length =>
        exact accounted.aside rfl rfl rfl rfl fun empty => output_getTxData_of_empty empty length
    | runCommunicationRx =>
        refine accounted.aside rfl rfl ?_ rfl fun empty => empty
        exact packingPending_runCommunicationRx t.stack
    | runUnpacker =>
        refine accounted.aside rfl rfl ?_ ?_ fun empty => empty
        · exact packingPending_runUnpacker p.decode t.stack
        · exact queue_runUnpacker p.decode t.stack
    | runCommandParser moment => exact accounted_runCommandParser p.overflow accounted orderly moment
    | runScope moment => exact accounted_act p.overflow accounted orderly nofun
    | runDataAggregator logIsPending => exact accounted_runDataAggregator accounted logIsPending
    | runPacker other => exact accounted_runPacker accounted p other
    | runCommunicationTx =>
        exact accounted.aside rfl rfl rfl rfl fun empty => (output_runTx _).trans empty
  exact ⟨fun t event inv ok => (both t event inv ok).1, fun t event inv ok => (both t event inv ok).2⟩

end Step

end Steps

end Target

end Builders
