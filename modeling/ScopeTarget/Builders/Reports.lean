import ScopeTarget.Builders.DataStream
import ScopeTarget.Builders.ScopeFramedStack
import ScopeTarget.Control.AnnouncedPlaces

/-! All that a stack sends is determined by what it was given, and a host reads it. -/

namespace Builders
open Core Control Serialisation FramedIO

namespace Target
variable {Q α : Type*} {inCap outCap capacity n : Nat}
  [AgingPriorityQueue Q] [LT α] [DecidableLT α] [BEq α]

/-- While a message is being packed, nothing else touches what it is made of. -/
theorem step_still (t : Target Q α inCap outCap capacity n) (p : Platform α outCap)
    {event : TargetEvent α outCap} (orderly : t.Orderly event)
    (aggregates : ∀ logIsPending, event ≠ .runDataAggregator logIsPending)
    (packs : ∀ other, event ≠ .runPacker other) (pending : t.packingPending ≠ .seNone) :
    (t.step p event).data = t.data ∧ (t.step p event).toPack = t.toPack := by
  cases event with
  | putRxData bytes =>
      change (t.putRxData bytes).data = _ ∧ (t.putRxData bytes).toPack = _
      unfold putRxData
      split <;> exact ⟨rfl, rfl⟩
  | runCommandParser moment => exact absurd orderly pending
  | runScope moment => exact absurd orderly pending
  | runDataAggregator logIsPending => exact absurd rfl (aggregates logIsPending)
  | runPacker other => exact absurd rfl (packs other)
  | _ => exact ⟨rfl, rfl⟩

end Target

/-- No byte that ends a string is written to the log. -/
def FramedStackEvent.NulFree {α : Type*} {outCap width : Nat} : FramedStackEvent α outCap width → Prop
  | .writeLog bytes => 0 ∉ bytes
  | _ => True

instance {α : Type*} {outCap width : Nat} :
    (event : FramedStackEvent α outCap width) → Decidable event.NulFree
  | .writeLog _ => inferInstanceAs (Decidable (_ ∉ _))
  | .storage _ | .putRxData _ | .getTxData _ | .runCommunicationRx | .runUnpacker | .runCommandParser _
  | .runScope _ | .runDataAggregator _ | .runPacker _ | .runCommunicationTx =>
      inferInstanceAs (Decidable True)

/-- What the messages say. Only three types have more to say than their type. -/
inductive ScopeMessage where
  | data (set : ScData)
  | announce (announcement : ScAnnounce)
  | log (piece : ScLog)
  | bare (type : MessageType)
  deriving DecidableEq

namespace ScopeMessage

/-- How a host reads the payload of a frame. -/
def decode (type : MessageType) (payload : List UInt8) : Option ScopeMessage :=
  if type = .scData then (ScData.decode payload).map .data
  else if type = .scAnnounce then (ScAnnounce.decode payload).map .announce
  else if type = .scLog then (ScLog.decode payload).map .log
  else if payload = [] then some (.bare type)
  else none

/-- The message that is made of an event; none is made of `SE_NONE`. -/
def ofEvent (set : ScData) (announcement : ScAnnounce) (piece : ScLog) (event : MessageType) :
    List ScopeMessage :=
  if event = .seNone then []
  else if event = .scData then [.data set]
  else if event = .scAnnounce then [.announce announcement]
  else if event = .scLog then [.log piece]
  else [.bare event]

/-- The piece of the log in a message. -/
def text : ScopeMessage → List UInt8
  | .log piece => piece.message
  | _ => []

variable {set set' : ScData} {announcement announcement' : ScAnnounce} {piece piece' : ScLog}
  {event : MessageType}

/-- Only what the event is about gets into its message. -/
theorem ofEvent_congr (sets : event = .scData → set = set')
    (announcements : event = .scAnnounce → announcement = announcement')
    (pieces : event = .scLog → piece = piece') :
    ofEvent set announcement piece event = ofEvent set' announcement' piece' event := by
  unfold ofEvent
  split
  · rfl
  · split
    · rename_i data
      rw [sets data]
    · split
      · rename_i announce
        rw [announcements announce]
      · split
        · rename_i log
          rw [pieces log]
        · rfl

theorem length_ofEvent_le (set : ScData) (announcement : ScAnnounce) (piece : ScLog) (event : MessageType) :
    (ofEvent set announcement piece event).length ≤ 1 := by
  unfold ofEvent
  split
  · exact Nat.zero_le 1
  · split
    · exact Nat.le_refl 1
    · split
      · exact Nat.le_refl 1
      · split <;> exact Nat.le_refl 1

theorem text_ofEvent (set : ScData) (announcement : ScAnnounce) (piece : ScLog) (event : MessageType) :
    (ofEvent set announcement piece event).flatMap text = if event = .scLog then piece.message else [] := by
  unfold ofEvent
  by_cases log : event = .scLog
  · subst log
    exact List.flatMap_singleton _ _
  · rw [if_neg log, if_neg log]
    split
    · rfl
    · split
      · rfl
      · split <;> rfl

/-- A payload of which each kind of message is read as it was meant. -/
theorem decode_ofEvent {cap : Nat} {written : Written cap} (typed : event ≠ .seNone)
    (sets : event = .scData → ScData.decode (NanopbPacker.payload written event) = some set)
    (announcements : event = .scAnnounce → ScAnnounce.decode written.bytes = some announcement)
    (pieces : event = .scLog → ScLog.decode written.bytes = some piece) :
    [decode event (NanopbPacker.payload written event)] =
      (ofEvent set announcement piece event).map some := by
  unfold decode ofEvent
  rw [if_neg typed]
  by_cases data : event = .scData
  · rw [if_pos data, if_pos data, sets data]
    rfl
  · rw [if_neg data, if_neg data]
    by_cases announce : event = .scAnnounce
    · have payload : NanopbPacker.payload written event = written.bytes := by
        rw [announce]
        rfl
      rw [if_pos announce, if_pos announce, payload, announcements announce]
      rfl
    · rw [if_neg announce, if_neg announce]
      by_cases log : event = .scLog
      · have payload : NanopbPacker.payload written event = written.bytes := by
          rw [log]
          rfl
        rw [if_pos log, if_pos log, payload, pieces log]
        rfl
      · have payload : NanopbPacker.payload written event = [] := by
          simp [NanopbPacker.payload, NanopbPacker.hasPayload, data, announce, log]
        rw [if_neg log, if_neg log, payload]
        rfl

end ScopeMessage

namespace ScopeFramedStack
variable {Q α : Type*} {inCap outCap capacity n width logCap : Nat}

/-- The message that is about to be packed. -/
def waiting (bits : α → UInt32) (s : ScopeFramedStack Q α inCap outCap capacity n width logCap) :
    List ScopeMessage :=
  ScopeMessage.ofEvent ((s.target.data.packing s.target.toPack).sent bits) s.announcement.message
    ⟨(s.logData.message.read.getD .empty).bytes⟩ s.target.packingPending

end ScopeFramedStack

/-- The stack with the additions the storage holds, what was written to the log, the bytes a
host has read, the events packed, and what the messages were to say. -/
structure Reports (Q α : Type*) (inCap outCap capacity n width logCap : Nat) where
  stack : ScopeFramedStack Q α inCap outCap capacity n width logCap
  added : List (Addition width)
  written : List UInt8
  wire : List UInt8
  packed : List (MessageType × List UInt8)
  messages : List (ScDataMessage α)
  told : List ScopeMessage

namespace Reports
variable {Q α : Type*} {inCap outCap capacity n width logCap : Nat}

def recorded (s : Reports Q α inCap outCap capacity n width logCap) : Recorded width :=
  ⟨s.stack.announceStorage, s.added⟩

def observed (s : Reports Q α inCap outCap capacity n width logCap) :
    Observed Q α inCap outCap capacity n := ⟨s.stack.target, s.wire, s.packed, s.messages⟩

/-- What the message that is made of an event is to say. -/
def meaning (p : Platform α outCap) (s : Reports Q α inCap outCap capacity n width logCap) :
    MessageType → List ScopeMessage :=
  ScopeMessage.ofEvent (s.stack.target.settled.message.sent p.bits) s.recorded.announcement.message
    ⟨(CString.upToNul (CommandPackLog.chunk s.stack.logStream)).bytes⟩

section Steps
variable [AgingPriorityQueue Q]

def create [Zero α] (unpacker : Unpacker α) (queue : Q) (priorities : MessagePriorities) (timebase : UInt32)
    (memory : Allocation width) : Reports Q α inCap outCap capacity n width logCap :=
  ⟨.create unpacker queue priorities timebase memory, [], [], [], [], [], []⟩

/-- The log keeps what there is room for. -/
def keeps (s : Reports Q α inCap outCap capacity n width logCap) :
    FramedStackEvent α outCap width → List UInt8
  | .writeLog bytes => if s.stack.logStream.used + bytes.length ≤ logCap then bytes else []
  | _ => []

def tells (p : Platform α outCap) (s : Reports Q α inCap outCap capacity n width logCap) :
    FramedStackEvent α outCap width → List ScopeMessage
  | .runDataAggregator _ => s.stack.popped.toList.flatMap (s.meaning p)
  | _ => []

variable [LT α] [DecidableLT α] [BEq α]

def step (p : Platform α outCap) (s : Reports Q α inCap outCap capacity n width logCap)
    (event : FramedStackEvent α outCap width) : Reports Q α inCap outCap capacity n width logCap :=
  let observed := Run.exec (Observed.step p) s.observed (s.stack.targetEvents p event)
  { stack := s.stack.step p event
    added := match event with
      | .storage call => (s.recorded.step call).added
      | _ => s.added
    written := s.written ++ s.keeps event
    wire := observed.wire
    packed := observed.packed
    messages := observed.messages
    told := s.told ++ s.tells p event }

end Steps

/-- Besides what is asked of the target: the storage is not touched while a message is being
packed, and the name of an addition ends in its field. -/
def Orderly [AgingPriorityQueue Q] (p : Platform α outCap)
    (s : Reports Q α inCap outCap capacity n width logCap) : FramedStackEvent α outCap width → Prop
  | .storage call => s.stack.target.packingPending = .seNone ∧ s.recorded.NameEnds call
  | event => ∀ e ∈ s.stack.targetEvents p event, s.observed.Orderly p e

instance [AgingPriorityQueue Q] (p : Platform α outCap)
    (s : Reports Q α inCap outCap capacity n width logCap) :
    (event : FramedStackEvent α outCap width) → Decidable (s.Orderly p event)
  | .storage call => inferInstanceAs (Decidable (_ = _ ∧ s.recorded.NameEnds call))
  | .writeLog _ | .putRxData _ | .getTxData _ | .runCommunicationRx | .runUnpacker | .runCommandParser _
  | .runScope _ | .runDataAggregator _ | .runPacker _ | .runCommunicationTx =>
      inferInstanceAs (Decidable (∀ e ∈ s.stack.targetEvents p _, s.observed.Orderly p e))

/-- There is a frame for each message, in which the host finds what the message was to say; at
most one more is about to be packed. -/
structure Arrive (p : Platform α outCap) (s : Reports Q α inCap outCap capacity n width logCap) : Prop where
  sends : s.observed.Sends
  decoded : s.packed.map (fun event => ScopeMessage.decode event.1 event.2) ++
    (s.stack.waiting p.bits).map some = s.told.map some
  single : (s.stack.waiting p.bits).length ≤ 1

/-- The piece of the log in what is packed for an event. -/
def textOf (event : MessageType × List UInt8) : List UInt8 :=
  ((ScopeMessage.decode event.1 event.2).map ScopeMessage.text).getD []

/-- The log as the host reads it is what was written to it, up to what is about to be packed
and what the stream still holds. -/
structure LogArrives (p : Platform α outCap) (s : Reports Q α inCap outCap capacity n width logCap) :
    Prop where
  sends : s.observed.Sends
  pieces : s.packed.flatMap textOf ++ (s.stack.waiting p.bits).flatMap ScopeMessage.text ++
    s.stack.logStream.contents = s.written
  idle : s.stack.target.packingPending = .seNone → s.stack.waiting p.bits = []

section Equations
variable [AgingPriorityQueue Q] {p : Platform α outCap}
  {s : Reports Q α inCap outCap capacity n width logCap}

theorem tells_of_none (none_ : s.stack.popped = none) (memory : CharArray 50) :
    s.tells p (.runDataAggregator memory) = [] := by
  unfold tells
  rw [none_]
  rfl

theorem tells_of_popped {event : MessageType} (popped : s.stack.popped = some event) (memory : CharArray 50) :
    s.tells p (.runDataAggregator memory) = s.meaning p event := by
  unfold tells
  rw [popped, Option.toList_some, List.flatMap_singleton]

variable [LT α] [DecidableLT α] [BEq α]

theorem step_onTarget {event : FramedStackEvent α outCap width} {e : TargetEvent α outCap}
    (steps : s.stack.step p event = s.stack.onTarget p e) (events : s.stack.targetEvents p event = [e])
    (keeps : s.keeps event = []) (tells : s.tells p event = []) (added : (s.step p event).added = s.added) :
    s.step p event = { s with
      stack := s.stack.onTarget p e
      wire := (s.observed.step p e).wire
      packed := (s.observed.step p e).packed
      messages := (s.observed.step p e).messages } := by
  unfold step at added ⊢
  dsimp only at added ⊢
  rw [steps, events, keeps, tells, added, List.append_nil, List.append_nil]
  rfl

theorem observed_step (s : Reports Q α inCap outCap capacity n width logCap)
    (event : FramedStackEvent α outCap width) :
    (s.step p event).observed = Run.exec (Observed.step p) s.observed (s.stack.targetEvents p event) := by
  cases event with
  | storage call => cases call <;> rfl
  | runDataAggregator memory =>
      have target := s.stack.target_runDataAggregator memory
      change Observed.mk (s.stack.runDataAggregator memory).target _ _ _ = _
      rw [target]
      rfl
  | _ => rfl

theorem step_storage (s : Reports Q α inCap outCap capacity n width logCap) (call : StorageCall width) :
    s.step p (.storage call) = { s with
      stack := { s.stack with announceStorage := (s.recorded.step call).storage }
      added := (s.recorded.step call).added } := by
  unfold step
  cases call <;> simp [ScopeFramedStack.targetEvents, keeps, tells, observed] <;> rfl

theorem step_writeLog (s : Reports Q α inCap outCap capacity n width logCap) (bytes : List UInt8) :
    s.step p (.writeLog bytes) = { s with
      stack := { s.stack with logStream := s.stack.logStream.write bytes }
      written := s.written ++ s.keeps (.writeLog bytes) } := by
  unfold step
  simp [ScopeFramedStack.targetEvents, tells, observed]
  rfl

/-- An event that writes nothing to the log and adds no address. -/
theorem step_sending {event : FramedStackEvent α outCap width} {e : TargetEvent α outCap}
    (events : s.stack.targetEvents p event = [e]) (keeps : s.keeps event = [])
    (added : (s.step p event).added = s.added) :
    s.step p event = { s with
      stack := s.stack.step p event
      wire := (s.observed.step p e).wire
      packed := (s.observed.step p e).packed
      messages := (s.observed.step p e).messages
      told := s.told ++ s.tells p event } := by
  unfold step at added ⊢
  dsimp only at added ⊢
  rw [events, keeps, added, List.append_nil]
  rfl

/-- What was said of the log, and what the stream still holds. -/
structure LogKept (s : Reports Q α inCap outCap capacity n width logCap) : Prop where
  sum : s.told.flatMap ScopeMessage.text ++ s.stack.logStream.contents = s.written
  nulFree : 0 ∉ s.written

theorem logKept_writeLog (kept : s.LogKept) {bytes : List UInt8} (nulFree : 0 ∉ bytes) :
    (s.step p (.writeLog bytes)).LogKept := by
  rw [step_writeLog]
  unfold keeps
  dsimp only
  by_cases room : s.stack.logStream.used + bytes.length ≤ logCap
  · rw [if_pos room]
    refine ⟨?_, ?_⟩
    · dsimp only
      rw [Fifo.contents_write_of_fits room, ← kept.sum, List.append_assoc]
    · intro member
      rcases List.mem_append.mp member with before | new
      · exact kept.nulFree before
      · exact nulFree new
  · rw [if_neg room, List.append_nil, Fifo.write_of_overflow (Nat.not_le.mp room)]
    exact kept

/-- The piece that is handed to the packer has left the stream. -/
theorem logKept_popped (kept : s.LogKept) (memory : CharArray 50) {event : MessageType}
    (popped : s.stack.popped = some event) : (s.step p (.runDataAggregator memory)).LogKept := by
  rw [step_sending rfl rfl rfl, ScopeFramedStack.step_of_popped popped, tells_of_popped popped]
  refine ⟨?_, kept.nulFree⟩
  dsimp only
  rw [List.flatMap_append, meaning, ScopeMessage.text_ofEvent]
  by_cases log : event = .scLog
  · subst log
    have nulFree : 0 ∉ CommandPackLog.chunk s.stack.logStream := by
      intro member
      apply kept.nulFree
      rw [← kept.sum, ← CommandPackLog.contents_run memory s.stack.logStream]
      exact List.mem_append_right _ (List.mem_append_left _ member)
    change _ ++ (if _ then _ else _) ++ (CommandPackLog.run memory s.stack.logStream).2.contents = _
    rw [if_pos rfl, CString.upToNul_of_terminated nulFree, List.append_assoc, CommandPackLog.contents_run]
    exact kept.sum
  · rw [if_neg log, List.append_nil]
    unfold ScopeFramedStack.runPackCommand
    rw [if_neg log]
    split <;> exact kept.sum

theorem logKept_step (kept : s.LogKept) {event : FramedStackEvent α outCap width} (nulFree : event.NulFree) :
    (s.step p event).LogKept := by
  cases event with
  | storage call =>
      rw [step_storage]
      exact ⟨kept.sum, kept.nulFree⟩
  | writeLog bytes => exact logKept_writeLog kept nulFree
  | runDataAggregator memory =>
      cases popped : s.stack.popped with
      | none =>
          have ran := ScopeFramedStack.step_of_none (p := p) popped memory
          rw [step_onTarget ran rfl rfl (tells_of_none popped memory) rfl]
          exact ⟨kept.sum, kept.nulFree⟩
      | some event => exact logKept_popped kept memory popped
  | runPacker other =>
      rw [step_sending rfl rfl rfl]
      refine ⟨?_, kept.nulFree⟩
      change (s.told ++ []).flatMap _ ++ s.stack.logStream.contents = _
      rw [List.append_nil]
      exact kept.sum
  | _ =>
      rw [step_onTarget rfl rfl rfl rfl rfl]
      exact ⟨kept.sum, kept.nulFree⟩

theorem logKept_exec (kept : s.LogKept) {events : List (FramedStackEvent α outCap width)}
    (nulFree : ∀ event ∈ events, event.NulFree) : (Run.exec (step p) s events).LogKept := by
  induction events generalizing s with
  | nil => exact kept
  | cons event events ih =>
      exact ih (logKept_step kept (nulFree event List.mem_cons_self))
        fun later member => nulFree later (List.mem_cons_of_mem event member)

end Equations

/-- Every message has room in the output buffer. -/
structure SoundStack (outCap capacity n places : Nat) : Prop where
  predicted : ∀ i : Fin (n + 1), NanopbPacker.Predicted capacity i.val
  channels : n + 1 ≤ 2 ^ 20
  samples : capacity ≤ 2 ^ 20
  few : places ≤ 2 ^ 20
  room : NanopbPacker.calculateBufferSize (n + 1) capacity places ≤ outCap
  log : 50 ≤ outCap

theorem SoundStack.sound {places : Nat} (build : SoundStack outCap capacity n places) :
    SoundBuild outCap capacity n :=
  ⟨build.predicted, build.channels, build.samples, places, build.room⟩

variable [AgingPriorityQueue Q] [CountedAgingPriorityQueue Q]

/-- The target is in order, the storage holds its additions, and what was packed and what
waits makes up what was to be said. -/
structure Inv (p : Platform α outCap) (places : Nat)
    (s : Reports Q α inCap outCap capacity n width logCap) : Prop where
  observed : Observed.Inv p s.observed
  faithful : s.recorded.Faithful places
  free : s.recorded.FreeBehind
  channels : s.stack.announceStorage.maxAmountOfChannels = n + 1
  unused : s.stack.target.packingPending ≠ .scAnnounce → s.stack.announcement.announceChannels = []
  announced : s.stack.target.packingPending = .scAnnounce → s.stack.announcement = s.recorded.announcement
  cut : s.stack.target.packingPending = .scLog →
    ∃ message, s.stack.logData.message.read = some message ∧ message.length ≤ 48
  told : s.packed.map (fun event => ScopeMessage.decode event.1 event.2) ++
    (s.stack.waiting p.bits).map some = s.told.map some

variable {p : Platform α outCap} {places : Nat} {s : Reports Q α inCap outCap capacity n width logCap}

theorem inv_create [Zero α] (p : Platform α outCap) (unpacker : Unpacker α) {queue : Q}
    (empty : CountedAgingPriorityQueue.count queue .scData = 0) (priorities : MessagePriorities)
    (timebase : UInt32) (memory : Allocation width) : Inv p memory.addresses.length
      (create unpacker queue priorities timebase memory :
        Reports Q α inCap outCap capacity n width logCap) where
  observed := Observed.inv_create p unpacker empty priorities
  faithful := Recorded.faithful_create memory.addresses (n + 1) timebase
  free := Recorded.freeBehind_create memory.addresses (n + 1) timebase
  channels := rfl
  unused _ := rfl
  announced pending := by cases pending
  cut pending := by cases pending
  told := rfl

/-- A payload is read as what waited to be packed. -/
theorem decode_waiting (inv : Inv p places s) (build : SoundStack outCap capacity n places)
    (pending : s.stack.target.packingPending ≠ .seNone) (other : Written outCap) :
    [ScopeMessage.decode s.stack.target.packingPending
        (NanopbPacker.payload (s.stack.target.written p (s.stack.written p other))
          s.stack.target.packingPending)] = (s.stack.waiting p.bits).map some := by
  apply ScopeMessage.decode_ofEvent pending
  · intro data
    exact Target.decode_written build.sound inv.observed.filled (inv.observed.packs data) p _ data
  · intro announce
    have noData : s.stack.target.packingPending ≠ .scData := by
      rw [announce]
      decide
    have written : s.stack.written p other =
        p.encode.written (NanopbPacker.packScAnnounce s.stack.announcement) := if_pos announce
    have ofTarget : NanopbPacker.OfTarget (n + 1) places s.stack.announcement := by
      have few : places < 2 ^ 32 := Nat.lt_of_le_of_lt build.few (by decide)
      rw [inv.announced announce]
      exact Recorded.ofTarget_announcement inv.faithful few inv.channels
    have size := NanopbPacker.length_packScAnnounce_le ofTarget build.channels build.few
    have buffer := NanopbPacker.calculateBufferSize_eq_max (n + 1) capacity places
    have room := build.room
    rw [Target.written_of_ne noData, written, p.encode.whole _ (by omega)]
    apply NanopbPacker.decode_packScAnnounce
    · exact fun address member => (ofTarget.address address member).2
    · rw [ScAnnounceMetaData.Fits, ofTarget.version]
      decide
  · intro log
    have noData : s.stack.target.packingPending ≠ .scData := by
      rw [log]
      decide
    have noAnnouncement : s.stack.target.packingPending ≠ .scAnnounce := by
      rw [log]
      decide
    have written : s.stack.written p other =
        p.encode.written (NanopbPacker.packScLog s.stack.logData) :=
      (if_neg noAnnouncement).trans (if_pos log)
    obtain ⟨message, held, short⟩ := inv.cut log
    have size := NanopbPacker.length_packScLog_le held short (by decide)
    rw [Target.written_of_ne noData, written, p.encode.whole _ (size.trans build.log), held, Option.getD_some]
    exact NanopbPacker.decode_packScLog held

section Steps
variable [LT α] [DecidableLT α] [BEq α]

/-- A runnable that leaves alone what is being packed. -/
theorem inv_aside (inv : Inv p places s) {e : TargetEvent α outCap}
    (observed : Observed.Inv p (s.observed.step p e)) (nothing : s.observed.packs p e = [])
    (pending : (s.stack.target.step p e).packingPending = s.stack.target.packingPending)
    (still : s.stack.target.packingPending = .scData →
      (s.stack.target.step p e).data = s.stack.target.data ∧
        (s.stack.target.step p e).toPack = s.stack.target.toPack) :
    Inv p places { s with
      stack := s.stack.onTarget p e
      wire := (s.observed.step p e).wire
      packed := (s.observed.step p e).packed
      messages := (s.observed.step p e).messages } := by
  have waiting : (s.stack.onTarget p e).waiting p.bits = s.stack.waiting p.bits := by
    unfold ScopeFramedStack.waiting ScopeFramedStack.onTarget
    dsimp only
    rw [pending]
    refine ScopeMessage.ofEvent_congr (fun data => ?_) (fun _ => rfl) fun _ => rfl
    obtain ⟨data, toPack⟩ := still data
    rw [data, toPack]
  obtain ⟨-, faithful, free, channels, unused, announced, cut, told⟩ := inv
  refine ⟨observed, faithful, free, channels, ?_, ?_, ?_, ?_⟩
  · exact fun other => unused fun announce => other (pending.trans announce)
  · exact fun announce => announced (pending.symm.trans announce)
  · exact fun log => cut (pending.symm.trans log)
  · change (s.packed ++ s.observed.packs p e).map _ ++ (ScopeFramedStack.waiting p.bits _).map some = _
    rw [nothing, List.append_nil, waiting]
    exact told

/-- A runnable that neither pops nor packs. -/
theorem inv_onTarget (build : SoundStack outCap capacity n places) (inv : Inv p places s)
    {e : TargetEvent α outCap} (orderly : s.observed.Orderly p e)
    (aggregates : ∀ logIsPending, e ≠ .runDataAggregator logIsPending)
    (packs : ∀ other, e ≠ .runPacker other) :
    Inv p places { s with
      stack := s.stack.onTarget p e
      wire := (s.observed.step p e).wire
      packed := (s.observed.step p e).packed
      messages := (s.observed.step p e).messages } := by
  apply inv_aside inv (Observed.inv_step build.sound inv.observed orderly)
  · cases e with
    | runPacker other => exact absurd rfl (packs other)
    | _ => rfl
  · exact s.stack.target.packingPending_step p aggregates packs
  · exact fun data => s.stack.target.step_still p orderly.1 aggregates packs (by rw [data]; decide)

theorem inv_storage (inv : Inv p places s) {call : StorageCall width}
    (idle : s.stack.target.packingPending = .seNone) (ends : s.recorded.NameEnds call) :
    Inv p places (s.step p (.storage call)) := by
  have faithful := (Recorded.faithful_step_iff inv.faithful call).mpr ends
  have free := Recorded.freeBehind_step inv.faithful inv.free call
  rw [step_storage]
  refine ⟨inv.observed, faithful, free, ?_, inv.unused, ?_, ?_, inv.told⟩
  · exact (Recorded.maxAmountOfChannels_step s.recorded call).trans inv.channels
  · intro announce
    rw [idle] at announce
    cases announce
  · intro log
    rw [idle] at log
    cases log

/-- Without an event, nothing is said. -/
theorem inv_popNone (inv : Inv p places s) {memory : CharArray 50} (none_ : s.stack.popped = none)
    (observed : Observed.Inv p (s.observed.step p (.runDataAggregator s.stack.logIsPending))) :
    Inv p places (s.step p (.runDataAggregator memory)) := by
  have target : s.stack.target.step p (.runDataAggregator s.stack.logIsPending) = _ :=
    Target.runDataAggregator_of_none none_
  have ran := ScopeFramedStack.step_of_none (p := p) none_ memory
  rw [step_onTarget ran rfl rfl (tells_of_none none_ memory) rfl]
  apply inv_aside inv observed rfl
  · rw [target]
    rfl
  · intro _
    rw [target]
    exact ⟨rfl, rfl⟩

section Popped
variable {event : MessageType} (popped : s.stack.popped = some event) (memory : CharArray 50)
include popped

omit [CountedAgingPriorityQueue Q] in
theorem packing_popped : (s.stack.step p (.runDataAggregator memory)).target.packingPending = event := by
  have target : (s.stack.step p (.runDataAggregator memory)).target = _ :=
    (s.stack.target_runDataAggregator memory).trans (Target.runDataAggregator_of_popped popped)
  rw [target]
  rfl

omit [CountedAgingPriorityQueue Q] in
theorem storage_popped :
    (s.stack.step p (.runDataAggregator memory)).announceStorage = s.stack.announceStorage := by
  rw [ScopeFramedStack.step_of_popped popped]
  exact ScopeFramedStack.announceStorage_runPackCommand memory _ event

/-- The additions are announced. -/
theorem announcement_popped (build : SoundStack outCap capacity n places) (inv : Inv p places s)
    (announce : event = .scAnnounce) :
    (s.stack.step p (.runDataAggregator memory)).announcement = s.recorded.announcement := by
  subst announce
  obtain ⟨idle, -⟩ := Target.idle_of_popped popped
  have pending : s.stack.target.packingPending = .seNone := idle
  have few : places < 2 ^ 32 := Nat.lt_of_le_of_lt build.few (by decide)
  have unused := inv.unused (by rw [pending]; decide)
  have ran := CommandPackAnnounce.run_eq inv.faithful inv.free few unused
  rw [ScopeFramedStack.step_of_popped popped]
  change (CommandPackAnnounce.run (some s.recorded.storage) s.recorded.storage.getMaxAmountOfAddresses
    s.stack.announcement).getD s.stack.announcement = _
  rw [inv.faithful.places, ran, Option.getD_some]

theorem waiting_popped (build : SoundStack outCap capacity n places) (inv : Inv p places s) :
    (s.stack.step p (.runDataAggregator memory)).waiting p.bits = s.meaning p event := by
  obtain ⟨idle, -⟩ := Target.idle_of_popped popped
  have settled : s.stack.target.settled = s.stack.target.data := Target.settled_of_ne (by
    change s.stack.target.stack.sending.serializer.packingPending ≠ _
    rw [idle]
    decide)
  unfold ScopeFramedStack.waiting meaning
  rw [packing_popped (p := p) popped memory]
  apply ScopeMessage.ofEvent_congr
  · rintro rfl
    have target : (s.stack.step p (.runDataAggregator memory)).target = _ :=
      (s.stack.target_runDataAggregator memory).trans (Target.runDataAggregator_of_popped popped)
    have packing := Target.packing_runPackCommand (inv.observed.accounted.emptied idle)
    rw [target, settled]
    exact congrArg (ScDataMessage.sent p.bits) packing
  · intro announce
    rw [announcement_popped popped memory build inv announce]
  · rintro rfl
    rw [ScopeFramedStack.step_of_popped popped, ScopeFramedStack.logData_runPackCommand,
      CommandPackLog.read_run]
    rfl

/-- An event that is popped waits to be packed, with all that its message is to say. -/
theorem inv_popSome (build : SoundStack outCap capacity n places) (inv : Inv p places s)
    (observed : Observed.Inv p (s.observed.step p (.runDataAggregator s.stack.logIsPending))) :
    Inv p places (s.step p (.runDataAggregator memory)) := by
  obtain ⟨idle, -⟩ := Target.idle_of_popped popped
  have pending : s.stack.target.packingPending = .seNone := idle
  have packing : (s.stack.step p (.runDataAggregator memory)).target.packingPending = event :=
    packing_popped popped memory
  have waiting := waiting_popped popped memory build inv
  have recorded : (s.step p (.runDataAggregator memory)).recorded = s.recorded :=
    congrArg (Recorded.mk · s.added) (storage_popped (p := p) popped memory)
  have told := inv.told
  have before : s.stack.waiting p.bits = [] := if_pos pending
  rw [before, List.map_nil, List.append_nil] at told
  refine ⟨?_, ?_, ?_, ?_, ?_, ?_, ?_, ?_⟩
  · rw [observed_step]
    exact observed
  · rw [recorded]
    exact inv.faithful
  · rw [recorded]
    exact inv.free
  · exact (congrArg (fun r => r.storage.maxAmountOfChannels) recorded).trans inv.channels
  · intro other
    let handed := s.stack.onTarget p (.runDataAggregator s.stack.logIsPending)
    have kept := handed.announcement_runPackCommand_of_ne memory fun announce => other (packing.trans announce)
    change (s.stack.step p (.runDataAggregator memory)).announcement.announceChannels = []
    rw [ScopeFramedStack.step_of_popped popped, kept]
    exact inv.unused (by rw [pending]; decide)
  · intro announce
    rw [recorded]
    exact announcement_popped popped memory build inv (packing.symm.trans announce)
  · intro log
    obtain rfl := packing.symm.trans log
    refine ⟨_, ?_, CommandPackLog.length_upToNul_chunk_le s.stack.logStream⟩
    change (s.stack.step p (.runDataAggregator memory)).logData.message.read = _
    rw [ScopeFramedStack.step_of_popped popped]
    exact CommandPackLog.read_run memory _
  · change (s.packed ++ []).map _ ++
      ((s.stack.step p (.runDataAggregator memory)).waiting p.bits).map some = (s.told ++ _).map some
    rw [List.append_nil, told, waiting, tells_of_popped popped, List.map_append]

end Popped

/-- The packer is asked for nothing. -/
theorem inv_packNone (inv : Inv p places s) {other : Written outCap}
    (idle : s.stack.target.packingPending = .seNone)
    (observed : Observed.Inv p (s.observed.step p (.runPacker (s.stack.written p other)))) :
    Inv p places (s.step p (.runPacker other)) := by
  have ran : s.stack.step p (.runPacker other) =
      s.stack.onTarget p (.runPacker (s.stack.written p other)) := by
    change s.stack.runPacker p other = _
    unfold ScopeFramedStack.runPacker
    dsimp only
    rw [if_neg fun packs => packs.1 idle]
    rfl
  have target : s.stack.target.step p (.runPacker (s.stack.written p other)) = s.stack.target :=
    Target.runPacker_of_idle idle
  rw [step_onTarget ran rfl rfl rfl rfl]
  apply inv_aside inv observed (if_pos idle)
  · rw [target]
  · intro _
    rw [target]
    exact ⟨rfl, rfl⟩

/-- What is packed is read as it was meant, and nothing waits any more. -/
theorem inv_packSome (build : SoundStack outCap capacity n places) (inv : Inv p places s)
    {other : Written outCap} (pending : s.stack.target.packingPending ≠ .seNone)
    (observed : Observed.Inv p (s.observed.step p (.runPacker (s.stack.written p other)))) :
    Inv p places (s.step p (.runPacker other)) := by
  have decoded := decode_waiting inv build pending other
  have empty : s.stack.target.stack.sending.tx.output = .empty := inv.observed.accounted.free pending
  have used : s.stack.target.stack.sending.tx.output.used = 0 := by
    rw [empty]
    rfl
  have ran : s.stack.step p (.runPacker other) =
      { s.stack.onTarget p (.runPacker (s.stack.written p other)) with
        announcement := NanopbPacker.resetSelf s.stack.announcement } := by
    change s.stack.runPacker p other = _
    unfold ScopeFramedStack.runPacker
    dsimp only
    rw [if_pos ⟨pending, used⟩]
    rfl
  have idle : (s.stack.target.step p (.runPacker (s.stack.written p other))).packingPending = .seNone :=
    s.stack.target.packingPending_runPacker p _
  have packed : s.observed.packs p (.runPacker (s.stack.written p other)) = [(s.stack.target.packingPending,
      NanopbPacker.payload (s.stack.target.written p (s.stack.written p other))
        s.stack.target.packingPending)] := if_neg pending
  have after {stack : ScopeFramedStack Q α inCap outCap capacity n width logCap}
      (idle : stack.target.packingPending = .seNone) : stack.waiting p.bits = [] := if_pos idle
  rw [step_sending rfl rfl rfl, ran]
  obtain ⟨-, faithful, free, channels, -, -, -, told⟩ := inv
  refine ⟨observed, faithful, free, channels, fun _ => rfl, ?_, ?_, ?_⟩
  · intro announce
    exact absurd (idle.symm.trans announce) (by decide)
  · intro log
    exact absurd (idle.symm.trans log) (by decide)
  · change (s.packed ++ s.observed.packs p _).map _ ++ (ScopeFramedStack.waiting p.bits _).map some =
      (s.told ++ []).map some
    rw [after idle, packed, List.map_append, List.map_singleton, List.append_nil, ← told, ← decoded,
      List.map_nil, List.append_nil]

theorem inv_step (build : SoundStack outCap capacity n places) (inv : Inv p places s)
    {event : FramedStackEvent α outCap width} (orderly : s.Orderly p event) :
    Inv p places (s.step p event) := by
  cases event with
  | storage call => exact inv_storage inv orderly.1 orderly.2
  | writeLog bytes =>
      rw [step_writeLog]
      exact { inv with observed := inv.observed }
  | runDataAggregator memory =>
      have orderly := orderly _ List.mem_cons_self
      have observed := Observed.inv_step build.sound inv.observed orderly
      cases popped : s.stack.popped with
      | none => exact inv_popNone inv popped observed
      | some event => exact inv_popSome popped memory build inv observed
  | runPacker other =>
      have orderly := orderly _ List.mem_cons_self
      have observed := Observed.inv_step build.sound inv.observed orderly
      by_cases pending : s.stack.target.packingPending = .seNone
      · exact inv_packNone inv pending observed
      · exact inv_packSome build inv pending observed
  | _ =>
      rw [step_onTarget rfl rfl rfl rfl rfl]
      exact inv_onTarget build inv (orderly _ List.mem_cons_self) nofun nofun

end Steps

theorem arrive_of_inv (inv : Inv p places s) : s.Arrive p :=
  ⟨Observed.sends_of_inv inv.observed, inv.told, ScopeMessage.length_ofEvent_le _ _ _ _⟩

/-- The pieces of the log are read where they were meant. -/
theorem logArrives_of_inv (inv : Inv p places s) (kept : s.LogKept) : s.LogArrives p := by
  let said (message : Option ScopeMessage) : List UInt8 := (message.map ScopeMessage.text).getD []
  have told : s.packed.flatMap textOf ++ (s.stack.waiting p.bits).flatMap ScopeMessage.text =
      s.told.flatMap ScopeMessage.text := by
    have all := congrArg (List.flatMap said) inv.told
    rw [List.flatMap_append, List.flatMap_map, List.flatMap_map, List.flatMap_map] at all
    exact all
  refine ⟨Observed.sends_of_inv inv.observed, ?_, fun idle => if_pos idle⟩
  rw [told]
  exact kept.sum

section Runs
variable [LT α] [DecidableLT α] [BEq α] [Zero α] {memory : Allocation width} {queue : Q}
  {unpacker : Unpacker α} {priorities : MessagePriorities} {timebase : UInt32}
  {events : List (FramedStackEvent α outCap width)}

theorem inv_exec (build : SoundStack outCap capacity n memory.addresses.length)
    (empty : CountedAgingPriorityQueue.count queue .scData = 0)
    (orderly : Run.Along (step p) (Orderly p) (create unpacker queue priorities timebase memory :
      Reports Q α inCap outCap capacity n width logCap) events) :
    Inv p memory.addresses.length (Run.exec (step p) (create unpacker queue priorities timebase memory :
      Reports Q α inCap outCap capacity n width logCap) events) := by
  apply orderly.invariant
  · intro s event inv ok
    exact inv_step build inv ok
  · exact inv_create p unpacker empty priorities timebase memory

/-- Each message arrives, and the host reads in it what it was to say: the data sets, the
additions the storage held, and the pieces of the log. -/
theorem messages_arrive (build : SoundStack outCap capacity n memory.addresses.length)
    (empty : CountedAgingPriorityQueue.count queue .scData = 0)
    (orderly : Run.Along (step p) (Orderly p) (create unpacker queue priorities timebase memory :
      Reports Q α inCap outCap capacity n width logCap) events) :
    (Run.exec (step p) (create unpacker queue priorities timebase memory :
      Reports Q α inCap outCap capacity n width logCap) events).Arrive p :=
  arrive_of_inv (inv_exec build empty orderly)

/-- Nothing that is written to the log is lost, sent twice or out of its place. -/
theorem log_arrives (build : SoundStack outCap capacity n memory.addresses.length)
    (empty : CountedAgingPriorityQueue.count queue .scData = 0)
    (orderly : Run.Along (step p) (Orderly p) (create unpacker queue priorities timebase memory :
      Reports Q α inCap outCap capacity n width logCap) events)
    (nulFree : ∀ event ∈ events, event.NulFree) :
    (Run.exec (step p) (create unpacker queue priorities timebase memory :
      Reports Q α inCap outCap capacity n width logCap) events).LogArrives p :=
  logArrives_of_inv (inv_exec build empty orderly) (logKept_exec ⟨rfl, List.not_mem_nil⟩ nulFree)

end Runs

section Run

def onePlace : Allocation 32 := ⟨[⟨.zero, .seFloat, 0⟩], noMeta, ⟨.zero⟩⟩

theorem soundStack : SoundStack 64 1 0 onePlace.addresses.length :=
  ⟨by decide, by decide, by decide, by decide, by decide, by decide⟩

def switchedOn : Reports (List MessageType) Int 64 64 1 0 32 16 :=
  create ⟨0, [], [], ⟨0, false, 0, 0⟩, 0⟩ [] ⟨2, 3, 4⟩ 0 onePlace

/-- The address is announced and acknowledged, and what was logged in between comes after it. -/
def announcedAndLogged : List (FramedStackEvent Int 64 32) :=
  let receive (bytes : List UInt8) : List (FramedStackEvent Int 64 32) :=
    [.putRxData bytes, .runCommunicationRx, .runUnpacker, .runCommandParser ⟨0, fun _ _ => 0⟩]
  let send : List (FramedStackEvent Int 64 32) :=
    [.runDataAggregator .zero, .runPacker Logging.noBytes, .runCommunicationTx]
  [.storage (.addAnnounceAddress ⟨speed, 4096, .seInt8⟩), .runCommunicationTx, .getTxData 9] ++
    receive [91, 100, 0, 0, 0, 0, 0, 0, 93] ++ send ++ [.writeLog [104, 105], .getTxData 40] ++
    receive [91, 2, 0, 0, 0, 0, 0, 0, 93] ++ send ++ [.getTxData 7, .getTxData 40]

theorem messages_arrive_announcedAndLogged :
    (Run.exec (step Remote.platform) switchedOn announcedAndLogged).Arrive Remote.platform :=
  messages_arrive soundStack rfl (by decide)

theorem log_arrives_announcedAndLogged :
    (Run.exec (step Remote.platform) switchedOn announcedAndLogged).LogArrives Remote.platform :=
  log_arrives soundStack rfl (by decide) (by decide)

example : (Run.exec (step Remote.platform) switchedOn announcedAndLogged).told =
    [.announce ⟨[⟨0, [115], 0, 4096⟩], 1, 0, [48, 46, 53]⟩, .log ⟨[104, 105]⟩] := by
  decide

end Run

end Reports

end Builders
