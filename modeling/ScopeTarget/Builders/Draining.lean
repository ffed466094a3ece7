import ScopeTarget.Builders.SendingStack

/-! Nothing stays in the queue. A host that acknowledges what it gets and reads whole
frames gets one event after the other, until there is none left. -/

namespace FramedIO
variable {cap : Nat} {tx : Tx cap} {box : Outbox (Frame cap)}

/-- The sender is idle as long as no frame is in transit. -/
theorem Carries.idle_iff (carries : Carries tx box) : tx.txFramedIOState = .none ↔ box.current = none := by
  cases carries with
  | idle finished queued type typed => exact ⟨fun _ => rfl, fun _ => rfl⟩
  | sending finished queued type typed f taken inside alone => exact ⟨fun idle => absurd idle sending_busy, nofun⟩

theorem Carries.output (carries : Carries tx box) (idle : box.current = none) :
    tx.output = payloadOf box.queued := by
  cases carries with
  | idle finished queued type typed => rfl
  | sending finished queued type typed f taken inside alone => cases idle

end FramedIO

namespace Control.Controller
variable {Q α : Type*} [AgingPriorityQueue Q] {self : Controller Q α}
open AgingPriorityQueue

theorem runTx_of_empty (unlocked : self.waitForAck = false) (nothing : empty self.queue = true) :
    self.runTx true false = (none, self) := by
  simp [runTx, unlocked, nothing]

theorem runTx_of_popped (unlocked : self.waitForAck = false) (some_ : empty self.queue = false)
    {event : MessageType} (popped : (pop self.queue).1 = some event) :
    self.runTx true false = (some event, { self with
      queue := (pop self.queue).2, waitForAck := messageNeedsToBeAcked event }) := by
  simp [runTx, unlocked, some_, popped]

end Control.Controller

namespace Builders
open Control Serialisation FramedIO

/-- The host acknowledges, an iteration is made, and the host reads all of its frame. -/
structure Round (α : Type*) (cap : Nat) where
  unpacker : Unpacker α
  written : Written cap
  length : Nat
  whole : overhead + cap ≤ length

def Round.events {α : Type*} {cap : Nat} (round : Round α cap) : List (SendingEvent α cap) :=
  [.command .seAck round.unpacker, .iterate round.written false, .read round.length]

namespace Sent
variable {Q α : Type*} {cap : Nat} [AgingPriorityQueue Q] [LawfulAgingPriorityQueue Q]

/-- Every frame begun has been read, and none waits but the one of the start-up. -/
structure Settled (s : Sent Q α cap) : Prop where
  inv : Inv s
  idle : s.stack.tx.txFramedIOState = .none
  free : s.stack.tx.txDataFramingReady = false ∨ s.stack.tx.txType = .seNone

/-- Then the host has read the frames of the events popped, to the last byte. -/
def Received (s : Sent Q α cap) : Prop :=
  ∃ frames : List (Frame cap), frames.map content = s.popped ∧
    ignoringNone cap s.wire.length s.wire = frames.flatMap Frame.encode

variable {s : Sent Q α cap}

theorem Settled.untyped (settled : Settled s) {box : Outbox (Frame cap)} (carries : Carries s.stack.tx box) :
    ∀ f ∈ box.queued, f.typed = false := by
  intro f waiting
  obtain ⟨ready, type⟩ := carries.queued
  rw [typed_eq_false, ← type f waiting]
  rcases settled.free with nothing | startUp
  · rw [nothing, waiting] at ready
    cases ready
  · exact startUp

theorem Settled.received (settled : Settled s) : Received s := by
  obtain ⟨box, carries, accounts⟩ := settled.inv.carried
  have current : box.current = none := carries.idle_iff.mp settled.idle
  have waiting : box.queued.toList.filter Frame.typed = [] := by
    rw [List.filter_eq_nil_iff]
    intro f member
    rw [settled.untyped carries f (Option.mem_toList.mp member)]
    exact Bool.false_ne_true
  have messages : box.messages.filter Frame.typed = box.finished.filter Frame.typed := by
    simp [Outbox.messages, current, waiting]
  have wire : s.wire = box.finished.flatMap Frame.encode := by
    rw [accounts.wire]
    simp [Outbox.bytes, Outbox.partlyRead, current]
  refine ⟨box.finished.filter Frame.typed, ?_, ?_⟩
  · rw [← messages, accounts.popped]
  · have enough : box.finished.length ≤ s.wire.length := by
      rw [wire]
      exact length_le_flatMap box.finished
    have bytes := ignoringNone_frames enough []
    have nothing : ignoringNone cap (s.wire.length - box.finished.length) [] = [] :=
      ignoringNone_of_none rfl _
    rwa [nothing, List.append_nil, List.append_nil, ← wire] at bytes

theorem Settled.noOutput (settled : Settled s) : s.stack.tx.output = .empty := by
  obtain ⟨box, carries, accounts⟩ := settled.inv.carried
  rw [carries.output (carries.idle_iff.mp settled.idle)]
  cases queued : box.queued with
  | none => rfl
  | some f =>
      have member : f ∈ box.messages := by simp [Outbox.messages, queued]
      obtain rfl := accounts.bare f member (settled.untyped carries f queued)
      exact Fifo.write_nil _

theorem Settled.canTake (settled : Settled s) (short : cap < 2 ^ 32) (written : Written cap) (event : MessageType) :
    CanTake s.stack.tx (NanopbPacker.payload written event) := by
  refine ⟨settled.free, fun _ => ?_, (NanopbPacker.payload_length written event).trans_lt short⟩
  rw [settled.idle]
  exact ⟨nofun, nofun⟩

/-- Once a frame is read to its end and none waits behind it, the sender has settled. -/
theorem settled_read (inv : Inv s) (started : s.stack.tx.txDataFramingReady = false)
    (amountOfChannels : Nat) {length : Nat} (whole : overhead + cap ≤ length) :
    Settled (s.step amountOfChannels (.read length)) := by
  have orderly : Orderly s (.read length : SendingEvent α cap) := fun _ => .inr ((Nat.le_add_right _ _).trans whole)
  have after := inv_step inv amountOfChannels orderly
  obtain ⟨box, carries, accounts⟩ := inv.carried
  obtain ⟨bytes, read⟩ := carries_read carries length
  refine ⟨after, ?_, .inl ?_⟩
  · change (getTxData s.stack.tx length).2.txFramedIOState = .none
    rw [read.idle_iff]
    apply Outbox.current_read
    intro f taken here
    have size : f.encode.length = overhead + f.payload.length := Frame.length_encode f
    have fits := f.fits
    omega
  · change (getTxData s.stack.tx length).2.txDataFramingReady = false
    rw [read.queued.1, Outbox.queued_read, ← carries.queued.1, started]

/-- An iteration of a settled sender starts whatever frame there is. -/
theorem Settled.starts (settled : Settled s) (short : cap < 2 ^ 32) (written : Written cap) :
    (s.stack.runTx written false).tx.txDataFramingReady = false := by
  obtain ⟨box, carries, accounts⟩ := settled.inv.carried
  have idle := carries.idle_iff.mp settled.idle
  cases popped : s.stack.popped false with
  | none =>
      obtain ⟨tx, packing⟩ := SendingStack.runTx_of_none written settled.inv.packing popped
      rw [tx, (carries_start carries).queued.1, Outbox.queued_start idle]
      rfl
  | some event =>
      obtain ⟨first, clear, fits⟩ := settled.canTake short written event
      obtain ⟨handedOut, queue⟩ := Controller.runTx_typed settled.inv.typed
        (s.stack.serializer.isReady s.stack.tx.output) false
      obtain ⟨ready, typed⟩ := handedOut event popped
      obtain ⟨tx, packing⟩ := SendingStack.runTx_of_some written typed settled.noOutput popped
      let frame : Frame cap :=
        ⟨event, NanopbPacker.payload written event, NanopbPacker.payload_length written event, fits⟩
      have posted := carries_start (carries_post carries frame settled.noOutput clear)
      rw [tx, posted.queued.1, @Outbox.queued_start _ (box.post frame) idle]
      rfl

/-- A round settles again. -/
theorem Settled.round (settled : Settled s) (short : cap < 2 ^ 32) (amountOfChannels : Nat) (round : Round α cap) :
    Settled (Run.exec (step amountOfChannels) s round.events) := by
  have acknowledged : Settled (s.step amountOfChannels (.command .seAck round.unpacker)) :=
    ⟨inv_step settled.inv amountOfChannels trivial, settled.idle, settled.free⟩
  have orderly : Orderly (s.step amountOfChannels (.command .seAck round.unpacker))
      (.iterate round.written false) := fun event _ => acknowledged.canTake short round.written event
  have iterated := inv_step acknowledged.inv amountOfChannels orderly
  exact settled_read iterated (acknowledged.starts short round.written) amountOfChannels round.whole

section Exact
variable [ExactAgingPriorityQueue Q]
open AgingPriorityQueue ExactAgingPriorityQueue

def queue (s : Sent Q α cap) : Q := s.stack.controller.queue

/-- The events of a round: nothing if nothing was queued, and one of them otherwise. -/
theorem Settled.takes (settled : Settled s) (amountOfChannels : Nat) (round : Round α cap) :
    ∃ taken : List (MessageType × List UInt8),
      (Run.exec (step amountOfChannels) s round.events).popped = s.popped ++ taken ∧
      events s.queue = (taken.map Prod.fst : Multiset MessageType) +
        events (Run.exec (step amountOfChannels) s round.events).queue ∧
      taken.length = min 1 (events s.queue).card := by
  let acknowledged := s.step amountOfChannels (.command .seAck round.unpacker)
  have ready : acknowledged.stack.serializer.isReady acknowledged.stack.tx.output = true :=
    decide_eq_true ⟨settled.inv.packing, (Fifo.eq_empty_iff _).mp settled.noOutput⟩
  have popped : (Run.exec (step amountOfChannels) s round.events).popped = s.popped ++
      (acknowledged.stack.controller.runTx true false).1.toList.map fun event =>
        (event, NanopbPacker.payload round.written event) := by
    rw [← ready]
    rfl
  have left : (Run.exec (step amountOfChannels) s round.events).queue =
      (acknowledged.stack.controller.runTx true false).2.queue := by
    rw [← ready]
    rfl
  have unlocked : acknowledged.stack.controller.waitForAck = false := rfl
  rw [popped, left]
  cases nothing : empty s.queue with
  | true =>
      rw [Controller.runTx_of_empty unlocked nothing]
      refine ⟨[], rfl, ?_, ?_⟩
      · exact (Multiset.zero_add _).symm
      · rw [empty_iff.mp nothing]
        rfl
  | false =>
      obtain ⟨event, came, split⟩ := pop_exact nothing
      rw [Controller.runTx_of_popped unlocked nothing came]
      refine ⟨[(event, NanopbPacker.payload round.written event)], rfl, ?_, ?_⟩
      · exact split
      · rw [split, Multiset.card_cons]
        simp

/-- Each round takes one event off, until none is left. -/
theorem Settled.rounds (settled : Settled s) (short : cap < 2 ^ 32) (amountOfChannels : Nat)
    (rounds : List (Round α cap)) :
    let s' := Run.exec (step amountOfChannels) s (rounds.flatMap Round.events)
    Settled s' ∧ ∃ taken : List (MessageType × List UInt8),
      s'.popped = s.popped ++ taken ∧
      events s.queue = (taken.map Prod.fst : Multiset MessageType) + events s'.queue ∧
      taken.length = min rounds.length (events s.queue).card := by
  induction rounds generalizing s with
  | nil => exact ⟨settled, [], (List.append_nil _).symm, (Multiset.zero_add _).symm, (Nat.zero_min _).symm⟩
  | cons round rounds ih =>
      obtain ⟨first, popped, split, one⟩ := settled.takes amountOfChannels round
      obtain ⟨after, rest, poppedRest, splitRest, most⟩ := ih (settled.round short amountOfChannels round)
      rw [List.flatMap_cons, Run.exec_append]
      refine ⟨after, first ++ rest, ?_, ?_, ?_⟩
      · rw [poppedRest, popped, List.append_assoc]
      · rw [split, splitRest, List.map_append, ← Multiset.coe_add, Multiset.add_assoc]
      · have counted := congrArg Multiset.card split
        rw [Multiset.card_add, Multiset.coe_card, List.length_map] at counted
        rw [List.length_append, List.length_cons, one, most]
        omega

/-- After a run in which events were popped only when the framer could take them and no read
ended inside the frame of the start-up, and once what was begun is read, every round without
a log brings the host one more of the events that are queued, each in a frame of its own,
until there is none left. -/
theorem drains {amountOfChannels : Nat} {queue : Q} {priorities : MessagePriorities}
    {past : List (SendingEvent α cap)} (short : cap < 2 ^ 32)
    (fresh : ∀ e, ¬ LawfulAgingPriorityQueue.Holds queue e)
    (orderly : Run.Along (step amountOfChannels) Orderly (create queue priorities) past)
    (rounds : List (Round α cap)) :
    let s := Run.exec (step amountOfChannels) (create queue priorities) past
    let s' := Run.exec (step amountOfChannels) s (rounds.flatMap Round.events)
    s.stack.tx.txFramedIOState = .none →
    s.stack.tx.txDataFramingReady = false ∨ s.stack.tx.txType = .seNone →
    Received s' ∧ ∃ taken : List (MessageType × List UInt8),
      s'.popped = s.popped ++ taken ∧
      events s.queue = (taken.map Prod.fst : Multiset MessageType) + events s'.queue ∧
      taken.length = min rounds.length (events s.queue).card := by
  intro s s' idle free
  have inv : Inv s := by
    apply orderly.invariant
    · intro s event inv ok
      exact inv_step inv amountOfChannels ok
    · exact inv_create fresh priorities
  have settled : Settled s := ⟨inv, idle, free⟩
  obtain ⟨after, taken, popped, split, most⟩ := settled.rounds short amountOfChannels rounds
  exact ⟨after.received, taken, popped, split, most⟩

/-- Two answers and a data set wait behind the frame of an announcement. -/
def crowded : List (SendingEvent Int 8) :=
  [.command .evPoll unpacked, .command .evAnnounce unpacked, .iterate threeBytes false, .read 9,
    .command .cfTInc unpacked, .notify .scData]

theorem drains_crowded :
    let s := Run.exec (step 1) (create [] priorities : Sent (List MessageType) Int 8) crowded
    let round : Round Int 8 := ⟨unpacked, threeBytes, 20, by decide⟩
    (s.queue = [.scAnnounce, .seAck, .scData]) ∧
      Received (Run.exec (step 1) s ([round, round, round].flatMap Round.events)) := by
  have orderly : Run.Along (step 1) Orderly (create [] priorities : Sent (List MessageType) Int 8) crowded := by
    decide
  refine ⟨by decide, ?_⟩
  exact (drains (by decide) (fun e held => List.not_mem_nil held) orderly _ (by decide) (by decide)).1

end Exact

end Sent

end Builders
