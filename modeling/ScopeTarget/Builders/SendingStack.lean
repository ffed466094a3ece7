import ScopeTarget.Base.Run
import ScopeTarget.Communication.TxOutbox
import ScopeTarget.Communication.Wire
import ScopeTarget.Control.EventQueue
import ScopeTarget.Serialisation.Serializer

/-! The sending side of the stack, in the order of `ScopeRunner_run`: the
controller pops an event, the serializer packs it, the framer starts its frame.
Between two iterations the host sends commands and reads bytes. -/

namespace Builders
open Control Serialisation FramedIO

structure SendingStack (Q α : Type*) (cap : Nat) where
  controller : Controller Q α
  serializer : Serializer
  tx : Tx cap

/-- What happens to the sending side: the pack observer is notified of an event,
a command of the host is run, an iteration is made, or `length` bytes are read. -/
inductive SendingEvent (α : Type*) (cap : Nat) where
  | notify (event : MessageType)
  | command (type : MessageType) (unpacker : Unpacker α)
  | iterate (written : Written cap) (logIsPending : Bool)
  | read (length : Nat)

namespace SendingStack
variable {Q α : Type*} {cap : Nat} [AgingPriorityQueue Q]

def create (queue : Q) (priorities : MessagePriorities) : SendingStack Q α cap where
  controller := Controller.create queue priorities
  serializer := Serializer.create
  tx := createTx

/-- The event the next iteration would pop. -/
def popped (s : SendingStack Q α cap) (logIsPending : Bool) : Option MessageType :=
  (s.controller.runTx (s.serializer.isReady s.tx.output) logIsPending).1

def runTx (written : Written cap) (logIsPending : Bool) (s : SendingStack Q α cap) :
    SendingStack Q α cap :=
  let sent := s.controller.runTx (s.serializer.isReady s.tx.output) logIsPending
  let pending := match sent.1 with
    | none => s.serializer
    | some event => s.serializer.updatePacker event
  let packed := pending.runTx written s.tx.output
  let output := { s.tx with output := packed.2.2 }
  { controller := sent.2
    serializer := packed.2.1
    tx := FramedIO.runTx (match packed.1 with
      | none => output
      | some type => updateTx output type) }

/-- An iteration that pops nothing can only start a frame. -/
theorem runTx_of_none {s : SendingStack Q α cap} {logIsPending : Bool} (written : Written cap)
    (packing : s.serializer.packingPending = .seNone) (none_ : s.popped logIsPending = none) :
    (s.runTx written logIsPending).tx = FramedIO.runTx s.tx ∧
      (s.runTx written logIsPending).serializer.packingPending = .seNone := by
  have nothing : (s.controller.runTx (s.serializer.isReady s.tx.output) logIsPending).1 = none := none_
  have idle : s.serializer.runTx written s.tx.output = (none, s.serializer, s.tx.output) :=
    if_pos packing
  unfold SendingStack.runTx
  simp only [nothing, idle]
  exact ⟨trivial, packing⟩

/-- The payload of a popped event gets into the output buffer, which was empty. -/
theorem runTx_of_some {s : SendingStack Q α cap} {logIsPending : Bool} {event : MessageType}
    (written : Written cap) (typed : event ≠ .seNone) (empty : s.tx.output = .empty)
    (some_ : s.popped logIsPending = some event) :
    (s.runTx written logIsPending).tx = FramedIO.runTx (updateTx { s.tx with
        output := Fifo.empty.write (NanopbPacker.payload written event) } event) ∧
      (s.runTx written logIsPending).serializer.packingPending = .seNone := by
  have sent : (s.controller.runTx (s.serializer.isReady s.tx.output) logIsPending).1 = some event :=
    some_
  have packed : (s.serializer.updatePacker event).runTx written s.tx.output =
      (some event, { s.serializer with packingPending := .seNone },
        Fifo.empty.write (NanopbPacker.payload written event)) := by
    rw [empty, ← NanopbPacker.pack_empty]
    exact if_neg typed
  unfold SendingStack.runTx
  simp only [sent, packed]
  exact ⟨trivial, trivial⟩

end SendingStack

/-- The stack with the bytes the host has read and the events popped so far, each
with the payload packed for it. -/
structure Sent (Q α : Type*) (cap : Nat) where
  stack : SendingStack Q α cap
  wire : List UInt8
  popped : List (MessageType × List UInt8)

namespace Sent
variable {Q α : Type*} {cap : Nat}

section Steps
variable [AgingPriorityQueue Q]

def create (queue : Q) (priorities : MessagePriorities) : Sent Q α cap :=
  ⟨SendingStack.create queue priorities, [], []⟩

def step (amountOfChannels : Nat) (s : Sent Q α cap) : SendingEvent α cap → Sent Q α cap
  | .notify event =>
      { s with stack := { s.stack with
          controller := s.stack.controller.commandPackPushEvent event } }
  | .command type unpacker =>
      { s with stack := { s.stack with
          controller := ((s.stack.controller.commandUpdate type).runRx amountOfChannels unpacker).2.2 } }
  | .iterate written logIsPending =>
      { s with
        stack := s.stack.runTx written logIsPending
        popped := s.popped ++ (s.stack.popped logIsPending).toList.map fun event =>
          (event, NanopbPacker.payload written event) }
  | .read length =>
      let read := getTxData s.stack.tx length
      { s with
        stack := { s.stack with tx := read.2 }
        wire := s.wire ++ read.1 }

end Steps

/-- What a frame says. -/
def content (f : Frame cap) : MessageType × List UInt8 := (f.type, f.payload)

theorem content_injective : Function.Injective (content : Frame cap → _) := by
  rintro ⟨type, payload, _, _⟩ ⟨_, _, _, _⟩ same
  obtain ⟨rfl, rfl⟩ := Prod.mk.inj same
  rfl

/-- Without the frames of type `SE_NONE`, the host has read the frames of the
popped events, one each and in order, up to some byte. -/
def Delivered (s : Sent Q α cap) : Prop :=
  ∃ frames : List (Frame cap), frames.map content = s.popped ∧
    ignoringNone cap s.wire.length s.wire <+: frames.flatMap Frame.encode

/-- The frame a framer sends before its first event. -/
def startUp : Frame cap := .bare .seNone

/-- The framer can take an event: the one before it has been put in transit, no
payload comes in between a frame and its own, and the length field has room. -/
def CanTake (tx : Tx cap) (payload : List UInt8) : Prop :=
  (tx.txDataFramingReady = false ∨ tx.txType = .seNone) ∧
    (payload ≠ [] → tx.txFramedIOState ≠ .head ∧ tx.txFramedIOState ≠ .body) ∧
    payload.length < 2 ^ 32

instance (tx : Tx cap) (payload : List UInt8) : Decidable (CanTake tx payload) :=
  inferInstanceAs (Decidable (_ ∧ _ ∧ _))

/-- An event is popped only when the framer can take it, and no read ends inside
the frame of type `SE_NONE`. -/
def Orderly [AgingPriorityQueue Q] (s : Sent Q α cap) : SendingEvent α cap → Prop
  | .iterate written logIsPending =>
      ∀ event ∈ s.stack.popped logIsPending,
        CanTake s.stack.tx (NanopbPacker.payload written event)
  | .read length =>
      s.stack.tx.frameHead.contents = (startUp : Frame cap).header → length = 0 ∨ overhead ≤ length
  | _ => True

instance [AgingPriorityQueue Q] (s : Sent Q α cap) :
    (event : SendingEvent α cap) → Decidable (Orderly s event)
  | .notify _ => inferInstanceAs (Decidable True)
  | .command _ _ => inferInstanceAs (Decidable True)
  | .iterate _ _ => inferInstanceAs (Decidable (∀ _ ∈ _, _))
  | .read _ => inferInstanceAs (Decidable (_ → _))

/-- The outbox accounts for what was read and for what was popped. -/
structure Accounts (wire : List UInt8) (popped : List (MessageType × List UInt8))
    (box : Outbox (Frame cap)) : Prop where
  wire : wire = box.bytes Frame.encode
  popped : (box.messages.filter Frame.typed).map content = popped
  bare : ∀ f ∈ box.messages, f.typed = false → f = startUp
  whole : ∀ f taken, box.current = some (f, taken) → f.typed = false → taken = 0

section Accounts
variable {wire : List UInt8} {popped : List (MessageType × List UInt8)} {tx : Tx cap}
  {box : Outbox (Frame cap)}

theorem typed_eq_false {f : Frame cap} : f.typed = false ↔ f.type = .seNone := by
  rw [Frame.typed, decide_eq_false_iff_not, ne_eq, Decidable.not_not]

theorem accounts_create : Accounts [] [] (Outbox.create (some (startUp : Frame cap))) := by
  constructor
  · rfl
  · rfl
  · intro f member untyped
    exact List.mem_singleton.mp member
  · exact nofun

theorem accounts_read (accounts : Accounts wire popped box) (carries : Carries tx box) {n : Nat}
    (whole : tx.frameHead.contents = (startUp : Frame cap).header → n = 0 ∨ overhead ≤ n) :
    Accounts (wire ++ (box.read Frame.encode n).1) popped (box.read Frame.encode n).2 := by
  have messages : (box.read Frame.encode n).2.messages = box.messages := Outbox.messages_read box n
  constructor
  · rw [Outbox.bytes_read, ← accounts.wire]
  · rw [messages]
    exact accounts.popped
  · rw [messages]
    exact accounts.bare
  · intro f taken current untyped
    unfold Outbox.read at current
    split at current
    · exact accounts.whole f taken current untyped
    · rename_i g before here
      dsimp only at current
      split at current
      · rename_i more
        obtain ⟨rfl, rfl⟩ := Prod.mk.inj (Option.some.inj current)
        obtain rfl := accounts.whole g before here untyped
        have member : g ∈ box.messages := by
          simp only [Outbox.messages, here, Option.map_some, Option.toList_some, List.mem_append,
            List.mem_singleton, true_or, or_true]
        obtain rfl := accounts.bare g member untyped
        rcases whole (carries.frameHead here) with rfl | all
        · rfl
        · have size : (startUp : Frame cap).encode.length = overhead := rfl
          rw [size] at more
          omega
      · cases current

theorem accounts_start (accounts : Accounts wire popped box) : Accounts wire popped box.start := by
  constructor
  · rw [Outbox.bytes_start]
    exact accounts.wire
  · rw [Outbox.messages_start]
    exact accounts.popped
  · rw [Outbox.messages_start]
    exact accounts.bare
  · intro f taken current untyped
    unfold Outbox.start at current
    split at current
    · exact (Prod.mk.inj (Option.some.inj current)).2.symm
    · exact accounts.whole f taken current untyped

theorem accounts_post (accounts : Accounts wire popped box) {f : Frame cap} (typed : f.typed = true)
    (free : ∀ g ∈ box.queued, g.typed = false) :
    Accounts wire (popped ++ [content f]) (box.post f) := by
  constructor
  · rw [Outbox.bytes_post]
    exact accounts.wire
  · rw [Outbox.filter_messages_post f typed free, List.map_append, accounts.popped]
    rfl
  · intro g member untyped
    rcases Outbox.mem_messages_post member with rfl | before
    · rw [typed] at untyped
      cases untyped
    · exact accounts.bare g before untyped
  · exact accounts.whole

/-- The bytes of the frame in transit are not taken for a frame. -/
theorem firstFrame_partlyRead (carries : Carries tx box) :
    (firstFrame (box.partlyRead Frame.encode) : Option (Frame cap)) = none := by
  unfold Outbox.partlyRead
  split
  · rfl
  · rename_i f taken here
    apply firstFrame_of_partial (List.take_prefix taken f.encode)
    rw [List.length_take]
    exact Nat.lt_of_le_of_lt (Nat.min_le_left _ _) (carries.inside here)

theorem partlyRead_prefix_typed (accounts : Accounts wire popped box) :
    box.partlyRead Frame.encode <+:
      (((box.current.map Prod.fst).toList.filter Frame.typed).flatMap Frame.encode) := by
  unfold Outbox.partlyRead
  split
  · exact List.nil_prefix
  · rename_i f taken here
    rw [here, Option.map_some, Option.toList_some]
    cases typed : f.typed with
    | true =>
        rw [List.filter_cons_of_pos typed, List.filter_nil, List.flatMap_singleton]
        exact List.take_prefix _ _
    | false =>
        rw [accounts.whole f taken here typed, List.take_zero]
        exact List.nil_prefix

theorem accounts_delivered (accounts : Accounts wire popped box) (carries : Carries tx box) :
    ignoringNone cap wire.length wire <+:
      (box.messages.filter Frame.typed).flatMap Frame.encode := by
  have enough : box.finished.length ≤ wire.length := by
    have counted := length_le_flatMap box.finished
    rw [accounts.wire, Outbox.bytes, List.length_append]
    omega
  have bytes : ignoringNone cap wire.length wire =
      (box.finished.filter Frame.typed).flatMap Frame.encode ++ box.partlyRead Frame.encode :=
    calc ignoringNone cap wire.length wire
        = ignoringNone cap wire.length (box.bytes Frame.encode) := congrArg _ accounts.wire
      _ = (box.finished.filter Frame.typed).flatMap Frame.encode ++ box.partlyRead Frame.encode := by
          rw [Outbox.bytes, ignoringNone_frames enough,
            ignoringNone_of_none (firstFrame_partlyRead carries)]
  rw [bytes, Outbox.messages, List.filter_append, List.flatMap_append,
    List.prefix_append_right_inj, List.filter_append, List.flatMap_append]
  exact (partlyRead_prefix_typed accounts).trans (List.prefix_append _ _)

end Accounts

variable [AgingPriorityQueue Q] [LawfulAgingPriorityQueue Q]

structure Inv (s : Sent Q α cap) : Prop where
  packing : s.stack.serializer.packingPending = .seNone
  typed : Controller.Typed s.stack.controller.queue
  carried : ∃ box, Carries s.stack.tx box ∧ Accounts s.wire s.popped box

theorem delivered_of_inv {s : Sent Q α cap} (inv : Inv s) : Delivered s := by
  obtain ⟨box, carries, accounts⟩ := inv.carried
  exact ⟨box.messages.filter Frame.typed, accounts.popped, accounts_delivered accounts carries⟩

theorem inv_create {queue : Q} (fresh : ∀ e, ¬ LawfulAgingPriorityQueue.Holds queue e)
    (priorities : MessagePriorities) : Inv (create queue priorities : Sent Q α cap) := by
  constructor
  · rfl
  · intro e held
    exact absurd held (fresh e)
  · exact ⟨_, carries_create, accounts_create⟩

theorem inv_iterate {s : Sent Q α cap} (inv : Inv s) (amountOfChannels : Nat) {written : Written cap}
    {logIsPending : Bool} (orderly : Orderly s (.iterate written logIsPending)) :
    Inv (step amountOfChannels s (.iterate written logIsPending)) := by
  obtain ⟨box, carries, accounts⟩ := inv.carried
  obtain ⟨handedOut, queue⟩ := Controller.runTx_typed inv.typed
    (s.stack.serializer.isReady s.stack.tx.output) logIsPending
  cases popped : s.stack.popped logIsPending with
  | none =>
      obtain ⟨tx, packing⟩ := SendingStack.runTx_of_none written inv.packing popped
      refine ⟨packing, queue, box.start, ?_, ?_⟩
      · dsimp only [step]
        rw [tx]
        exact carries_start carries
      · dsimp only [step]
        rw [popped, Option.toList_none, List.map_nil, List.append_nil]
        exact accounts_start accounts
  | some event =>
      obtain ⟨ready, typed⟩ := handedOut event popped
      obtain ⟨first, clear, short⟩ := orderly event popped
      have empty : s.stack.tx.output = .empty := by
        rw [Fifo.eq_empty_iff]
        exact (of_decide_eq_true ready).2
      let frame : Frame cap :=
        ⟨event, NanopbPacker.payload written event, NanopbPacker.payload_length written event, short⟩
      have free : ∀ g ∈ box.queued, g.typed = false := by
        intro g waiting
        obtain ⟨isSome, type⟩ := carries.queued
        rw [typed_eq_false, ← type g waiting]
        rcases first with taken | startUp
        · rw [taken, waiting] at isSome
          cases isSome
        · exact startUp
      obtain ⟨tx, packing⟩ := SendingStack.runTx_of_some written typed empty popped
      refine ⟨packing, queue, (box.post frame).start, ?_, ?_⟩
      · dsimp only [step]
        rw [tx]
        exact carries_start (carries_post carries frame empty clear)
      · dsimp only [step]
        rw [popped]
        have posted : Accounts s.wire (s.popped ++ [content frame]) (box.post frame) :=
          accounts_post accounts (decide_eq_true typed) free
        exact accounts_start posted

theorem inv_step {s : Sent Q α cap} (inv : Inv s) (amountOfChannels : Nat)
    {event : SendingEvent α cap} (orderly : Orderly s event) : Inv (step amountOfChannels s event) := by
  cases event with
  | notify event =>
      exact ⟨inv.packing, Controller.typed_commandPackPushEvent inv.typed event, inv.carried⟩
  | command type unpacker =>
      have kept : Controller.Typed (s.stack.controller.commandUpdate type).queue := inv.typed
      exact ⟨inv.packing, Controller.typed_runRx kept amountOfChannels unpacker, inv.carried⟩
  | iterate written logIsPending => exact inv_iterate inv amountOfChannels orderly
  | read length =>
      obtain ⟨box, carries, accounts⟩ := inv.carried
      obtain ⟨bytes, after⟩ := carries_read carries length
      refine ⟨inv.packing, inv.typed, _, after, ?_⟩
      dsimp only [step]
      rw [bytes]
      exact accounts_read accounts carries orderly

/-- As long as events are popped only when the framer can take them, the host
reads one frame for each of them. -/
theorem delivered {amountOfChannels : Nat} {queue : Q} {priorities : MessagePriorities}
    {events : List (SendingEvent α cap)} (fresh : ∀ e, ¬ LawfulAgingPriorityQueue.Holds queue e)
    (orderly : Run.Along (step amountOfChannels) Orderly (create queue priorities) events) :
    Delivered (Run.exec (step amountOfChannels) (create queue priorities) events) := by
  apply delivered_of_inv
  apply orderly.invariant
  · intro s event inv ok
    exact inv_step inv amountOfChannels ok
  · exact inv_create fresh priorities

section Run
open SendingEvent

def priorities : MessagePriorities := ⟨2, 3, 4⟩

def unpacked : Unpacker Int := ⟨0, [], [], ⟨0, false, 0, 0⟩, 0⟩

def threeBytes : Written 8 := ⟨[7, 7, 7], by decide⟩

/-- The start-up frame and the frame of an acknowledgement are drained before the
next event is popped, the frame of a data message is read in two pieces. -/
def drained : List (SendingEvent Int 8) :=
  [iterate threeBytes false, read 9, command .evPoll unpacked, iterate threeBytes false, read 9,
    notify .scData, iterate threeBytes false, read 5, read 7]

theorem delivered_drained :
    Delivered (Run.exec (step 1) (create [] priorities : Sent (List MessageType) Int 8) drained) := by
  refine delivered ?_ ?_
  · exact fun e held => List.not_mem_nil held
  · exact ⟨by decide, by decide, trivial, by decide, by decide, trivial, by decide, by decide, by decide,
      trivial⟩

/-- Only the head of the acknowledgement is read when the data message is popped:
the reader gets the payload of the one behind the head of the other. -/
def interrupted : List (SendingEvent Int 8) :=
  [command .evPoll unpacked, iterate threeBytes false, read 6, notify .scData,
    iterate threeBytes false, read 6]

theorem delivered_fails :
    ¬ Delivered (Run.exec (step 1) (create [] priorities : Sent (List MessageType) Int 8)
      interrupted) := by
  rintro ⟨frames, contents, isPrefix⟩
  let ack : Frame 8 := .bare .seAck
  let data : Frame 8 := ⟨.scData, [7, 7, 7], by decide, by decide⟩
  have same : frames.map content = [ack, data].map content := contents
  obtain rfl := List.map_injective_iff.mpr content_injective same
  exact absurd isPrefix (by decide)

end Run

end Sent

end Builders
