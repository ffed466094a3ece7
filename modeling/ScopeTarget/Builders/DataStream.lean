import ScopeTarget.Builders.Remote
import ScopeTarget.Control.SentSets
import ScopeTarget.Serialisation.TransmitBuffer

/-! The way of the data: from the messages that are made of the data side to the frames
a host reads, and what it decodes of them. -/

namespace Control
open Core Serialisation

/-- What the host is meant to find in a message. -/
def ScDataMessage.sent {α : Type*} (bits : α → UInt32) (message : ScDataMessage α) : ScData where
  channels := message.channels.map fun channel => ⟨channel.2.map bits, UInt32.ofNat channel.1⟩
  timestamps := message.timestamps
  tInc := message.timeIncrement.getD 0
  trigger := message.trigger.bind fun values =>
    if values.isTriggered = true then
      some ⟨UInt32.ofNat values.channelId, values.triggerTimestamp.getD 0,
        (values.mode.map TriggerMode.code).getD 0⟩
    else none

namespace DataPacking
variable {capacity n : Nat} {α : Type*}

/-- What the packer reads once it was told what to pack. -/
def packing (self : DataPacking capacity n α) (toPack : List (Fin (n + 1))) : ScDataMessage α where
  channels := toPack.map fun i => (i.val, (self.scope.channels i).swapBuffer.contents)
  timestamps := self.stamps self.packer.timestamp
  trigger := self.packer.trigger
  timeIncrement := self.packer.timeIncrement

/-- The record of a trigger names a channel. -/
def Named (fields : PackerFields) (n : Nat) : Prop := ∀ values ∈ fields.trigger, values.channelId < n + 1

theorem named_added {self : DataPacking capacity n α} (named : Named self.packer n) : Named self.added n := by
  unfold added
  split
  · exact named
  · intro values member
    obtain rfl := Option.some.inj member
    exact self.scope.trigger.activeChannelId.isLt

theorem length_stamps_le (self : DataPacking capacity n α) (stream : Option Bool) :
    (self.stamps stream).length ≤ capacity := by
  cases stream with
  | none => exact Nat.zero_le capacity
  | some stream =>
      change (if stream = self.pollStream then _ else _ : List UInt32).length ≤ capacity
      split
      · exact self.scope.timestamper.pollBuffer.used_le
      · exact self.scope.timestamper.swapBuffer.used_le

section Step
variable [LT α] [DecidableLT α] [BEq α] {overflow : Overflow}

theorem packer_step {self : DataPacking capacity n α} {activity : DataActivity α}
    (other : activity ≠ .operation .pack) : (self.step overflow activity).packer = self.packer := by
  cases activity with
  | transmit => rfl
  | operation op =>
      rw [step_operation fun pack => other (congrArg DataActivity.operation pack)]
      rfl

theorem trace_calls (self : DataPacking capacity n α) (now : UInt32) (memory : Memory α)
    (calls : List (ScopeCall α)) :
    Run.trace (step overflow) packs self (calls.map (ScopeCall.activity now memory)) = [] := by
  induction calls generalizing self with
  | nil => rfl
  | cons c calls ih =>
      have other : c.activity now memory ≠ .operation .pack := c.activity_ne_pack
      rw [List.map_cons, Run.trace_cons, packs_of_ne other]
      exact ih _

end Step

end DataPacking

end Control

namespace Builders
open Core Control Serialisation FramedIO

/-- A build whose messages can be decoded: the lengths that are guessed for the channels are
right, and the output buffer is as large as `NanopbPacker_calculateBufferSize` says. -/
structure SoundBuild (outCap capacity n : Nat) : Prop where
  predicted : ∀ i : Fin (n + 1), NanopbPacker.Predicted capacity i.val
  channels : n + 1 ≤ 2 ^ 20
  samples : capacity ≤ 2 ^ 20
  room : ∃ addresses, NanopbPacker.calculateBufferSize (n + 1) capacity addresses ≤ outCap

instance (capacity id : Nat) : Decidable (NanopbPacker.Predicted capacity id) :=
  inferInstanceAs (Decidable (_ ∨ _))

/-- The target with the bytes a host has read, the events packed so far, each with its
payload, and the messages that the data side has made. -/
structure Observed (Q α : Type*) (inCap outCap capacity n : Nat) where
  target : Target Q α inCap outCap capacity n
  wire : List UInt8
  packed : List (MessageType × List UInt8)
  messages : List (ScDataMessage α)

namespace Observed
variable {Q α : Type*} {inCap outCap capacity n : Nat}

section Steps
variable [AgingPriorityQueue Q]

def create [Zero α] (unpacker : Unpacker α) (queue : Q) (priorities : MessagePriorities) :
    Observed Q α inCap outCap capacity n := ⟨.create unpacker queue priorities, [], [], []⟩

/-- The bytes that are read. -/
def reads (s : Observed Q α inCap outCap capacity n) : TargetEvent α outCap → List UInt8
  | .getTxData length =>
      let handed := FramedIO.getTxData s.target.stack.sending.tx length
      handed.1
  | _ => []

/-- The event that is packed, with its payload. -/
def packs (p : Platform α outCap) (s : Observed Q α inCap outCap capacity n) :
    TargetEvent α outCap → List (MessageType × List UInt8)
  | .runPacker other =>
      if s.target.packingPending = .seNone then []
      else [(s.target.packingPending,
        NanopbPacker.payload (s.target.written p other) s.target.packingPending)]
  | _ => []

variable [LT α] [DecidableLT α] [BEq α]

/-- The messages that are made of the data side. -/
def makes (p : Platform α outCap) (s : Observed Q α inCap outCap capacity n) (event : TargetEvent α outCap) :
    List (ScDataMessage α) :=
  Run.trace (DataPacking.step p.overflow) DataPacking.packs s.target.settled (s.target.activities event)

def step (p : Platform α outCap) (s : Observed Q α inCap outCap capacity n) (event : TargetEvent α outCap) :
    Observed Q α inCap outCap capacity n where
  target := s.target.step p event
  wire := s.wire ++ s.reads event
  packed := s.packed ++ s.packs p event
  messages := s.messages ++ s.makes p event

end Steps

/-- No list of the host is longer than there are channels, an event is packed only when the
framer can take it, no read ends inside the frame of type `SE_NONE`, no data event is popped
before there ever was a set, and the scope is not touched while a message is being packed. -/
def Orderly [AgingPriorityQueue Q] (p : Platform α outCap) (s : Observed Q α inCap outCap capacity n)
    (event : TargetEvent α outCap) : Prop :=
  s.target.Orderly event ∧
    match event with
    | .runUnpacker => s.target.ListsFit p .runUnpacker
    | .runPacker other => s.target.packingPending ≠ .seNone → Sent.CanTake s.target.stack.sending.tx
        (NanopbPacker.payload (s.target.written p other) s.target.packingPending)
    | .getTxData length =>
        s.target.stack.sending.tx.frameHead.contents = (Sent.startUp : Frame outCap).header →
          length = 0 ∨ overhead ≤ length
    | .runDataAggregator logIsPending => s.target.stack.sending.popped logIsPending = some .scData →
        s.target.data.SetWaits ∨ s.target.data.packer.timestamp.isSome = true
    | _ => True

instance [AgingPriorityQueue Q] (p : Platform α outCap) (s : Observed Q α inCap outCap capacity n) :
    (event : TargetEvent α outCap) → Decidable (Orderly p s event)
  | .putRxData _ | .runCommunicationRx | .runCommunicationTx => inferInstanceAs (Decidable (True ∧ True))
  | .runUnpacker => inferInstanceAs (Decidable (True ∧ s.target.ListsFit p .runUnpacker))
  | .runCommandParser _ | .runScope _ => inferInstanceAs (Decidable (_ = _ ∧ True))
  | .getTxData _ => inferInstanceAs (Decidable (True ∧ (_ → _)))
  | .runDataAggregator _ => inferInstanceAs (Decidable (True ∧ (_ → _ ∨ _)))
  | .runPacker _ => inferInstanceAs (Decidable (True ∧ (_ → _)))

/-- The bytes that were read are the frames of the events that were packed, up to those still
to be read. -/
def Sends (s : Observed Q α inCap outCap capacity n) : Prop :=
  ∃ frames : List (Frame outCap), frames.map Sent.content = s.packed ∧
    ignoringNone outCap s.wire.length s.wire <+: frames.flatMap Frame.encode

end Observed

namespace Target
variable {Q α : Type*} {inCap outCap capacity n : Nat}

/-- A data message is about to be packed: its fields are set, and its channels are full. -/
structure Packs (t : Target Q α inCap outCap capacity n) : Prop where
  set : t.data.packer.timestamp.isSome = true
  amount : t.toPack.length ≤ n + 1
  full : ∀ i ∈ t.toPack, (t.scope.channels i).swapBuffer.Full

/-- What holds of the fields of the packer at any time. -/
structure Filled (t : Target Q α inCap outCap capacity n) : Prop where
  together : DataPacking.AddedTogether t.data.packer
  named : DataPacking.Named t.data.packer n

section Packer
variable {t : Target Q α inCap outCap capacity n} {bits : α → UInt32}

def channelDef (bits : α → UInt32) (t : Target Q α inCap outCap capacity n) (i : Fin (n + 1)) :
    ScDataChannelDef := ⟨UInt32.ofNat i.val, (t.scope.channels i).swapBuffer.contents.map bits⟩

/-- The packer has been given all it needs. -/
theorem nanopbPacker_of_set (bits : α → UInt32) (filled : t.Filled) (packs : t.Packs) :
    ∃ values, t.data.packer.trigger = some values ∧ t.nanopbPacker bits = some {
      channels := t.toPack.map (t.channelDef bits)
      trigger := triggerDef values
      timeIncrement := t.data.packer.timeIncrement.getD 0
      timestamp := some (t.data.stamps t.data.packer.timestamp) } := by
  obtain ⟨sameTrigger, sameIncrement⟩ := filled.together
  obtain ⟨stream, timestamp⟩ := Option.isSome_iff_exists.mp packs.set
  obtain ⟨values, trigger⟩ := Option.isSome_iff_exists.mp (sameTrigger.symm.trans packs.set)
  obtain ⟨increment, timeIncrement⟩ := Option.isSome_iff_exists.mp (sameIncrement.symm.trans packs.set)
  refine ⟨values, trigger, ?_⟩
  unfold nanopbPacker
  rw [trigger, timestamp, timeIncrement]
  rfl

variable {packer : NanopbPacker}

theorem toNat_channelDef (small : n + 1 ≤ 2 ^ 20) (i : Fin (n + 1)) :
    (t.channelDef bits i).id.toNat = i.val := by
  have inRange : i.val < 2 ^ 32 := Nat.lt_trans (Nat.lt_of_lt_of_le i.isLt small) (by decide)
  change (UInt32.ofNat i.val).toNat = i.val
  rw [UInt32.toNat_ofNat', Nat.mod_eq_of_lt inRange]

theorem length_channelDef (i : Fin (n + 1)) :
    (t.channelDef bits i).stream.length = (t.scope.channels i).swapBuffer.used := List.length_map _

/-- The message found in what the packer has been given. -/
theorem message_nanopbPacker (filled : t.Filled) (packs : t.Packs)
    (given : t.nanopbPacker bits = some packer) : packer.message = (t.data.packing t.toPack).sent bits := by
  obtain ⟨values, trigger, set⟩ := nanopbPacker_of_set bits filled packs
  obtain rfl := Option.some.inj (given.symm.trans set)
  unfold NanopbPacker.message ScDataMessage.sent DataPacking.packing
  dsimp only
  rw [trigger, List.map_map, List.map_map]
  rfl

theorem ofScope_nanopbPacker (filled : t.Filled) (packs : t.Packs) (small : n + 1 ≤ 2 ^ 20)
    (given : t.nanopbPacker bits = some packer) : NanopbPacker.OfScope (n + 1) capacity packer := by
  obtain ⟨values, trigger, set⟩ := nanopbPacker_of_set bits filled packs
  obtain rfl := Option.some.inj (given.symm.trans set)
  constructor
  · rw [List.length_map]
    exact packs.amount
  · intro channel member
    obtain ⟨i, -, rfl⟩ := List.mem_map.mp member
    rw [toNat_channelDef small, length_channelDef]
    exact ⟨i.isLt, Fifo.used_le _⟩
  · intro timestamp member
    obtain rfl := Option.some.inj member
    exact t.data.length_stamps_le t.data.packer.timestamp
  · intro _
    have named : values.channelId < n + 1 := filled.named values trigger
    have inRange : values.channelId < 2 ^ 32 := Nat.lt_trans (Nat.lt_of_lt_of_le named small) (by decide)
    refine ⟨?_, ?_⟩
    · change (UInt32.ofNat values.channelId).toNat < n + 1
      rw [UInt32.toNat_ofNat', Nat.mod_eq_of_lt inRange]
      exact named
    · change ((values.mode.map TriggerMode.code).getD 0).toNat ≤ 2
      cases values.mode with
      | none => exact Nat.zero_le 2
      | some mode => cases mode <;> decide

/-- All of the message gets into the output buffer, and is found again. -/
theorem decode_written (build : SoundBuild outCap capacity n) (filled : t.Filled) (packs : t.Packs)
    (p : Platform α outCap) (other : Written outCap) (pending : t.packingPending = .scData) :
    ScData.decode (NanopbPacker.payload (t.written p other) t.packingPending) =
      some ((t.data.packing t.toPack).sent p.bits) := by
  obtain ⟨values, trigger, given⟩ := nanopbPacker_of_set p.bits filled packs
  generalize made : NanopbPacker.mk _ _ _ _ = packer at given
  have written : t.written p other = p.encode.written packer.packScData := by
    unfold Target.written
    rw [given]
    exact if_pos pending
  obtain ⟨addresses, room⟩ := build.room
  have size := NanopbPacker.length_packScData_le (ofScope_nanopbPacker filled packs build.channels given)
    build.channels build.samples
  have buffer := NanopbPacker.calculateBufferSize_eq_max (n + 1) capacity addresses
  have short : packer.packScData.length ≤ outCap := by
    refine size.trans (Nat.le_trans ?_ room)
    rw [buffer]
    refine Nat.le_trans ?_ (Nat.le_max_right _ _)
    rw [Nat.mul_comm (capacity * 4 + 15)]
    have step : (n + 1) * (capacity * 4 + 15) = (n + 1) * (capacity * 4 + 14) + (n + 1) := Nat.mul_succ _ _
    omega
  have right : ∀ channel ∈ packer.channels,
      NanopbPacker.channelLength channel = (NanopbPacker.encodeChannel channel).length := by
    subst made
    intro channel member
    obtain ⟨i, here, rfl⟩ := List.mem_map.mp member
    rw [NanopbPacker.channelLength_eq_iff, toNat_channelDef build.channels, length_channelDef,
      packs.full i here]
    exact build.predicted i
  rw [pending, written]
  change ScData.decode (p.encode.written packer.packScData).bytes = _
  rw [p.encode.whole _ short, NanopbPacker.decode_packScData right, message_nanopbPacker filled packs given]

end Packer

/-- The packer is about to pack what it has just been told of. -/
theorem packing_runPackCommand {t : Target Q α inCap outCap capacity n} (emptied : t.toPack = []) :
    (t.runPackCommand .scData).data.packing (t.runPackCommand .scData).toPack = t.data.message := by
  rw [toPack_runPackCommand emptied]
  rfl

/-- The message that is about to be packed. -/
def waiting (t : Target Q α inCap outCap capacity n) : List (ScDataMessage α) :=
  if t.packingPending = .scData then [t.data.packing t.toPack] else []

section Aside
variable {t after : Target Q α inCap outCap capacity n}

theorem waiting_of_idle (idle : t.packingPending = .seNone) : t.waiting = [] :=
  if_neg (by rw [idle]; decide)

theorem waiting_of_ne (other : t.packingPending ≠ .scData) : t.waiting = [] := if_neg other

theorem waiting_same (data : after.data = t.data) (toPack : after.toPack = t.toPack)
    (pending : after.packingPending = t.packingPending) : after.waiting = t.waiting := by
  unfold waiting
  rw [data, toPack, pending]

theorem Packs.same (packs : t.Packs) (data : after.data = t.data) (toPack : after.toPack = t.toPack) :
    after.Packs := by
  obtain ⟨set, amount, full⟩ := packs
  unfold scope at full
  rw [← data] at set
  rw [← toPack] at amount
  rw [← data, ← toPack] at full
  exact ⟨set, amount, full⟩

theorem Filled.same (filled : t.Filled) (packer : after.data.packer = t.data.packer) : after.Filled := by
  obtain ⟨together, named⟩ := filled
  rw [← packer] at together named
  exact ⟨together, named⟩

end Aside

section Packer
variable {t : Target Q α inCap outCap capacity n}

theorem runPacker_of_idle {p : Platform α outCap} {other : Written outCap}
    (idle : t.packingPending = .seNone) : t.runPacker p other = t := by
  have nothing : t.stack.sending.serializer.runTx (t.written p other) t.stack.sending.tx.output =
      (none, t.stack.sending.serializer, t.stack.sending.tx.output) := if_pos idle
  unfold runPacker
  simp only [nothing, idle]
  rfl

/-- A message that is packed is handed on to the framer. -/
theorem runPacker_of_pending (p : Platform α outCap) (other : Written outCap)
    (pending : t.packingPending ≠ .seNone) (empty : t.stack.sending.tx.output = .empty) :
    (t.runPacker p other).stack.sending.tx = updateTx { t.stack.sending.tx with
        output := Fifo.empty.write (NanopbPacker.payload (t.written p other) t.packingPending) }
          t.packingPending ∧
      (t.runPacker p other).data.packer = t.data.packer := by
  have packed : t.stack.sending.serializer.runTx (t.written p other) t.stack.sending.tx.output =
      (some t.packingPending, { t.stack.sending.serializer with packingPending := .seNone },
        Fifo.empty.write (NanopbPacker.payload (t.written p other) t.packingPending)) := by
    rw [empty, ← NanopbPacker.pack_empty]
    exact if_neg pending
  unfold runPacker
  simp only [packed]
  refine ⟨trivial, ?_⟩
  split <;> rfl

end Packer

section Scope
variable [AgingPriorityQueue Q] [LT α] [DecidableLT α] [BEq α] (overflow : Overflow)

theorem act_keeps (t : Target Q α inCap outCap capacity n) {activity : DataActivity α}
    (other : activity ≠ .operation .pack) :
    (t.act overflow activity).stack.sending.tx = t.stack.sending.tx ∧
      (t.act overflow activity).data.packer = t.data.packer := by
  rw [data_act, DataPacking.packer_step other]
  refine ⟨?_, rfl⟩
  unfold act
  split <;> rfl

theorem calls_keep (moment : Moment α) (t : Target Q α inCap outCap capacity n) (calls : List (ScopeCall α)) :
    (calls.foldl (call overflow moment) t).stack.sending.tx = t.stack.sending.tx ∧
      (calls.foldl (call overflow moment) t).data.packer = t.data.packer := by
  induction calls generalizing t with
  | nil => exact ⟨rfl, rfl⟩
  | cons c calls ih =>
      have other : c.activity moment.now moment.memory ≠ .operation .pack := c.activity_ne_pack
      obtain ⟨tx, packer⟩ := ih (t.call overflow moment c)
      obtain ⟨tx', packer'⟩ := t.act_keeps overflow other
      exact ⟨tx.trans tx', packer.trans packer'⟩

end Scope

end Target

namespace Observed
variable {Q α : Type*} {inCap outCap capacity n : Nat} [AgingPriorityQueue Q] [CountedAgingPriorityQueue Q]

/-- The outbox of the framer accounts for what was read and packed, and what was packed for
the messages that were made. -/
structure Inv (p : Platform α outCap) (s : Observed Q α inCap outCap capacity n) : Prop where
  accounted : s.target.Accounted
  filled : s.target.Filled
  packs : s.target.packingPending = .scData → s.target.Packs
  carried : ∃ box, Carries s.target.stack.sending.tx box ∧ Sent.Accounts s.wire s.packed box
  messages : (s.packed.filter fun event => event.1 = .scData).map (fun event => ScData.decode event.2) ++
    s.target.waiting.map (fun message => some (message.sent p.bits)) =
      s.messages.map fun message => some (message.sent p.bits)

variable {p : Platform α outCap} {s : Observed Q α inCap outCap capacity n}

/-- The data events that were packed decode to the messages that were made, one each and in
order; at most one more is about to be packed. -/
structure Arrives (p : Platform α outCap) (s : Observed Q α inCap outCap capacity n) : Prop where
  sends : s.Sends
  decoded : (s.packed.filter fun event => event.1 = .scData).map (fun event => ScData.decode event.2) ++
    s.target.waiting.map (fun message => some (message.sent p.bits)) =
      s.messages.map fun message => some (message.sent p.bits)
  single : s.target.waiting.length ≤ 1

/-- What the sending side takes no part in. -/
theorem Inv.aside (inv : Inv p s) {after : Target Q α inCap outCap capacity n} (accounted : after.Accounted)
    (tx : after.stack.sending.tx = s.target.stack.sending.tx) (filled : after.Filled)
    (packs : after.packingPending = .scData → after.Packs) (waiting : after.waiting = s.target.waiting) :
    Inv p { s with target := after } := by
  obtain ⟨-, -, -, carried, messages⟩ := inv
  rw [← tx] at carried
  rw [← waiting] at messages
  exact ⟨accounted, filled, packs, carried, messages⟩

theorem inv_read (inv : Inv p s) {length : Nat}
    (whole : s.target.stack.sending.tx.frameHead.contents = (Sent.startUp : Frame outCap).header →
      length = 0 ∨ overhead ≤ length) (accounted : (s.target.getTxData length).Accounted) :
    Inv p { s with
      target := s.target.getTxData length
      wire := s.wire ++ s.reads (.getTxData length) } := by
  obtain ⟨-, filled, packs, ⟨box, carries, accounts⟩, messages⟩ := inv
  obtain ⟨bytes, after⟩ := carries_read carries length
  have read : s.reads (.getTxData length) = (box.read Frame.encode length).1 := bytes
  refine ⟨accounted, filled.same rfl, fun pending => (packs pending).same rfl rfl, ⟨_, after, ?_⟩, messages⟩
  dsimp only
  rw [read]
  exact Sent.accounts_read accounts carries whole

theorem inv_start (inv : Inv p s) (accounted : s.target.runCommunicationTx.Accounted) :
    Inv p { s with target := s.target.runCommunicationTx } := by
  obtain ⟨-, filled, packs, ⟨box, carries, accounts⟩, messages⟩ := inv
  exact ⟨accounted, filled.same rfl, fun pending => (packs pending).same rfl rfl,
    ⟨box.start, carries_start carries, Sent.accounts_start accounts⟩, messages⟩

/-- A data event that is popped makes a message, which waits to be packed. -/
theorem inv_pop (inv : Inv p s) {logIsPending : Bool} {event : MessageType}
    (popped : s.target.stack.sending.popped logIsPending = some event)
    (backed : event = .scData → s.target.data.SetWaits ∨ s.target.data.packer.timestamp.isSome = true)
    (accounted : (s.target.runDataAggregator logIsPending).Accounted) :
    Inv p { s with
      target := s.target.runDataAggregator logIsPending
      messages := s.messages ++ if event = .scData then [s.target.settled.message] else [] } := by
  obtain ⟨idle, -⟩ := Target.idle_of_popped popped
  have nothing : s.target.waiting = [] := Target.waiting_of_idle idle
  have settled : s.target.settled = s.target.data := Target.settled_of_ne (by
    change s.target.stack.sending.serializer.packingPending ≠ _
    rw [idle]
    decide)
  rw [Target.runDataAggregator_of_popped popped] at accounted ⊢
  by_cases data : event = .scData
  · subst data
    have emptied := inv.accounted.emptied idle
    have given := Target.toPack_runPackCommand emptied
    obtain ⟨-, filled, -, carried, messages⟩ := inv
    rw [nothing, List.map_nil, List.append_nil] at messages
    rw [if_pos rfl, settled]
    refine ⟨accounted, ?_, fun _ => ⟨?_, ?_, ?_⟩, carried, ?_⟩
    · exact ⟨DataPacking.addedTogether_added filled.together, DataPacking.named_added filled.named⟩
    · change s.target.data.added.timestamp.isSome = true
      by_cases waits : s.target.data.SetWaits
      · rw [DataPacking.added_of_waits waits]
        rfl
      · rw [DataPacking.added_of_not_waits waits]
        exact (backed rfl).resolve_left waits
    · change (s.target.runPackCommand .scData).toPack.length ≤ n + 1
      rw [given]
      exact (List.length_filter_le _ _).trans (Nat.le_of_eq List.length_finRange)
    · intro i member
      change i ∈ (s.target.runPackCommand .scData).toPack at member
      rw [given] at member
      exact CommandPackData.mem_channelsToPack.mp member
    · rw [List.map_append, ← messages, ← Target.packing_runPackCommand emptied]
      rfl
  · have same : s.target.runPackCommand event = s.target := if_neg data
    rw [same] at accounted ⊢
    rw [if_neg data, List.append_nil]
    have after {sending : SendingStack Q α outCap} (pending : sending.serializer.packingPending = event) :
        (s.target.withSending sending).waiting = [] :=
      Target.waiting_of_ne fun here => data (pending.symm.trans here)
    exact inv.aside accounted rfl (inv.filled.same rfl) (fun pending => absurd pending data)
      ((after rfl).trans nothing.symm)

/-- What is packed is posted to the framer. -/
theorem inv_runPacker (inv : Inv p s) (build : SoundBuild outCap capacity n) {other : Written outCap}
    (take : s.target.packingPending ≠ .seNone → Sent.CanTake s.target.stack.sending.tx
      (NanopbPacker.payload (s.target.written p other) s.target.packingPending))
    (accounted : (s.target.runPacker p other).Accounted) :
    Inv p { s with
      target := s.target.runPacker p other
      packed := s.packed ++ s.packs p (.runPacker other) } := by
  have idle := s.target.packingPending_runPacker p other
  have nothing : (s.target.runPacker p other).waiting = [] := Target.waiting_of_idle idle
  have free : (s.target.runPacker p other).packingPending ≠ .scData := by
    rw [idle]
    decide
  by_cases pending : s.target.packingPending = .seNone
  · have none_ : s.packs p (.runPacker other) = [] := if_pos pending
    have same : s.target.runPacker p other = s.target := Target.runPacker_of_idle pending
    rw [none_, List.append_nil, same]
    exact inv
  · obtain ⟨before, filled, packs, ⟨box, carries, accounts⟩, messages⟩ := inv
    obtain ⟨first, clear, short⟩ := take pending
    have empty := before.free pending
    obtain ⟨tx, packer⟩ := Target.runPacker_of_pending p other pending empty
    let frame : Frame outCap := ⟨s.target.packingPending,
      NanopbPacker.payload (s.target.written p other) s.target.packingPending,
      NanopbPacker.payload_length _ _, short⟩
    have untyped : ∀ g ∈ box.queued, g.typed = false := by
      intro g waiting
      obtain ⟨isSome, type⟩ := carries.queued
      rw [Sent.typed_eq_false, ← type g waiting]
      rcases first with taken | startUp
      · rw [taken, waiting] at isSome
        cases isSome
      · exact startUp
    have posted : s.packs p (.runPacker other) = [Sent.content frame] := if_neg pending
    refine ⟨accounted, filled.same packer, fun data => absurd data free, ⟨box.post frame, ?_, ?_⟩, ?_⟩
    · dsimp only
      rw [tx]
      exact carries_post carries frame empty clear
    · dsimp only
      rw [posted]
      exact Sent.accounts_post accounts (decide_eq_true pending) untyped
    · dsimp only
      rw [nothing, List.map_nil, List.append_nil, posted, List.filter_append, List.map_append, ← messages]
      by_cases data : s.target.packingPending = .scData
      · have decoded := Target.decode_written build filled (packs data) p other data
        have kept : ([Sent.content frame].filter fun event => event.1 = .scData) = [Sent.content frame] :=
          List.filter_cons_of_pos (decide_eq_true data)
        rw [kept, Target.waiting, if_pos data]
        exact congrArg (fun d => _ ++ [d]) decoded
      · have dropped : ([Sent.content frame].filter fun event => event.1 = .scData) = [] :=
          List.filter_cons_of_neg fun kept => data (of_decide_eq_true kept)
        rw [dropped, Target.waiting_of_ne data]
        rfl

section Runs
variable [LT α] [DecidableLT α] [BEq α]

omit [CountedAgingPriorityQueue Q] in
/-- An event that makes no message and takes no part in sending. -/
theorem step_aside {event : TargetEvent α outCap} (reads : s.reads event = []) (packs : s.packs p event = [])
    (makes : s.makes p event = []) : s.step p event = { s with target := s.target.step p event } := by
  unfold step
  rw [reads, packs, makes, List.append_nil, List.append_nil, List.append_nil]

omit [LT α] [DecidableLT α] [BEq α] in
/-- What a command or a poll does to the target while no message is being packed. -/
theorem inv_scope (inv : Inv p s) {after : Target Q α inCap outCap capacity n} (accounted : after.Accounted)
    (idle : s.target.packingPending = .seNone) (still : after.packingPending = .seNone)
    (kept : after.stack.sending.tx = s.target.stack.sending.tx ∧ after.data.packer = s.target.data.packer) :
    Inv p { s with target := after } := by
  apply inv.aside accounted kept.1 (inv.filled.same kept.2)
  · intro data
    rw [still] at data
    cases data
  · rw [Target.waiting_of_idle idle, Target.waiting_of_idle still]

/-- A data event that is popped makes a message of the data side as it is then. -/
theorem makes_runDataAggregator (p : Platform α outCap) (s : Observed Q α inCap outCap capacity n)
    (accounted : s.target.Accounted) (logIsPending : Bool) :
    s.makes p (.runDataAggregator logIsPending) =
      if s.target.stack.sending.popped logIsPending = some .scData then [s.target.settled.message] else [] := by
  change Run.trace (DataPacking.step p.overflow) DataPacking.packs s.target.settled
    (if s.target.stack.sending.popped logIsPending = some .scData then [.operation .pack] else []) = _
  split
  · rename_i popped
    have queued := Target.positive_of_popped accounted popped
    rw [Run.trace_cons, Run.trace_nil, List.append_nil]
    exact if_neg queued
  · rfl

theorem inv_step (build : SoundBuild outCap capacity n) (inv : Inv p s) {event : TargetEvent α outCap}
    (orderly : s.Orderly p event) : Inv p (s.step p event) := by
  obtain ⟨alone, orderly⟩ := orderly
  have before := inv.accounted
  have accounted := (Target.simulates_data p).kept s.target event before alone
  have untouched {after : Target Q α inCap outCap capacity n} (accounted : after.Accounted)
      (tx : after.stack.sending.tx = s.target.stack.sending.tx) (data : after.data = s.target.data)
      (toPack : after.toPack = s.target.toPack) (pending : after.packingPending = s.target.packingPending) :
      Inv p { s with target := after } :=
    inv.aside accounted tx (inv.filled.same (congrArg DataPacking.packer data))
      (fun here => (inv.packs (pending.symm.trans here)).same data toPack)
      (Target.waiting_same data toPack pending)
  cases event with
  | putRxData bytes =>
      rw [step_aside rfl rfl rfl]
      change (s.target.putRxData bytes).Accounted at accounted
      change Inv p { s with target := s.target.putRxData bytes }
      unfold Target.putRxData at accounted ⊢
      split at accounted
      · exact untouched accounted rfl rfl rfl rfl
      · exact untouched accounted rfl rfl rfl rfl
  | getTxData length =>
      have after := inv_read inv orderly accounted
      rw [← s.packed.append_nil, ← s.messages.append_nil] at after
      exact after
  | runCommunicationRx =>
      rw [step_aside rfl rfl rfl]
      exact untouched accounted rfl rfl rfl (Target.packingPending_runCommunicationRx s.target.stack)
  | runUnpacker =>
      rw [step_aside rfl rfl rfl]
      exact untouched accounted rfl rfl rfl (Target.packingPending_runUnpacker p.decode s.target.stack)
  | runCommandParser moment =>
      have nothing : s.makes p (.runCommandParser moment) = [] :=
        DataPacking.trace_calls _ moment.now moment.memory _
      rw [step_aside rfl rfl nothing]
      exact inv_scope inv accounted alone ((Target.packingPending_calls moment s.target _).trans alone)
        (Target.calls_keep p.overflow moment s.target _)
  | runScope moment =>
      rw [step_aside rfl rfl rfl]
      exact inv_scope inv accounted alone ((s.target.packingPending_act _).trans alone)
        (s.target.act_keeps p.overflow nofun)
  | runDataAggregator logIsPending =>
      have made := s.makes_runDataAggregator p before logIsPending
      change (s.target.runDataAggregator logIsPending).Accounted at accounted
      cases popped : s.target.stack.sending.popped logIsPending with
      | none =>
          rw [popped] at made
          rw [step_aside rfl rfl made]
          change Inv p { s with target := s.target.runDataAggregator logIsPending }
          rw [Target.runDataAggregator_of_none popped] at accounted ⊢
          exact untouched accounted rfl rfl rfl rfl
      | some event =>
          have after := inv_pop inv popped (fun data => orderly (popped.trans (congrArg some data))) accounted
          rw [← s.wire.append_nil, ← s.packed.append_nil] at after
          rw [popped] at made
          simp only [Option.some.injEq] at made
          unfold step
          rw [made]
          exact after
  | runPacker other =>
      have after := inv_runPacker inv build orderly accounted
      rw [← s.wire.append_nil, ← s.messages.append_nil] at after
      exact after
  | runCommunicationTx =>
      rw [step_aside rfl rfl rfl]
      exact inv_start inv accounted

omit [LT α] [DecidableLT α] [BEq α] in
theorem inv_create [Zero α] (p : Platform α outCap) (unpacker : Unpacker α) {queue : Q}
    (empty : CountedAgingPriorityQueue.count queue .scData = 0) (priorities : MessagePriorities) :
    Inv p (create unpacker queue priorities : Observed Q α inCap outCap capacity n) where
  accounted := Target.accounted_create empty unpacker priorities
  filled := ⟨⟨rfl, rfl⟩, nofun⟩
  packs pending := by cases pending
  carried := ⟨_, carries_create, Sent.accounts_create⟩
  messages := rfl

omit [LT α] [DecidableLT α] [BEq α] in
theorem sends_of_inv (inv : Inv p s) : s.Sends := by
  obtain ⟨box, carries, accounts⟩ := inv.carried
  have packed := accounts.popped
  have wire := Sent.accounts_delivered accounts carries
  exact ⟨_, packed, wire⟩

omit [LT α] [DecidableLT α] [BEq α] in
theorem arrives_of_inv (inv : Inv p s) : Arrives p s := by
  refine ⟨sends_of_inv inv, inv.messages, ?_⟩
  unfold Target.waiting
  split
  · exact Nat.le_refl 1
  · exact Nat.zero_le 1

/-- In a sound build the host gets every message that is made of the data side: the frames
of the data events decode to them, one for each and in the order in which they were made. -/
theorem data_arrives [Zero α] (build : SoundBuild outCap capacity n) {queue : Q}
    (empty : CountedAgingPriorityQueue.count queue .scData = 0) {unpacker : Unpacker α}
    {priorities : MessagePriorities} {events : List (TargetEvent α outCap)}
    (orderly : Run.Along (step p) (Orderly p)
      (create unpacker queue priorities : Observed Q α inCap outCap capacity n) events) :
    Arrives p (Run.exec (step p)
      (create unpacker queue priorities : Observed Q α inCap outCap capacity n) events) := by
  apply arrives_of_inv
  apply orderly.invariant
  · intro s event inv ok
    exact inv_step build inv ok
  · exact inv_create p unpacker empty priorities

end Runs

section Run

/-- One channel of one sample, in an output buffer of the size that is asked for. -/
theorem sound : SoundBuild 64 1 0 := ⟨by decide, by decide, by decide, 0, by decide⟩

def before : Observed (List MessageType) Int 64 64 1 0 := create ⟨0, [], [], ⟨0, false, 0, 0⟩, 0⟩ [] ⟨2, 3, 4⟩

/-- The frames of a host that configures the channel and starts it. -/
def asks : List (List UInt8) :=
  [[91, 108, 0, 0, 0, 4, 10, 2, 16, 16, 0, 44, 93], [91, 105, 0, 0, 0, 4, 10, 2, 16, 1, 0, 29, 93]]

/-- The host is answered twice before the sample is sent, whose frame is read in two pieces. -/
def sampled : List (TargetEvent Int 64) :=
  let moment (now : UInt32) : Moment Int := ⟨now, fun _ _ => 7⟩
  let receive (bytes : List UInt8) : List (TargetEvent Int 64) :=
    [.putRxData bytes, .runCommunicationRx, .runUnpacker, .runCommandParser (moment 0)]
  let send : List (TargetEvent Int 64) :=
    [.runDataAggregator false, .runPacker Logging.noBytes, .runCommunicationTx]
  asks.flatMap receive ++ [.runScope (moment 1), .runScope (moment 2), .runScope (moment 3)] ++
    send ++ [.getTxData 9] ++ send ++ [.getTxData 9] ++ send ++ [.getTxData 6, .getTxData 19]

theorem data_arrives_sampled :
    Arrives Remote.platform (Run.exec (step Remote.platform) before sampled) :=
  data_arrives sound rfl (by decide)

example : (Run.exec (step Remote.platform) before sampled).messages.map ScDataMessage.channels = [[(0, [7])]] := by
  decide

end Run

end Observed

end Builders
