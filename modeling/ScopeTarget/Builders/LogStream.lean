import ScopeTarget.Builders.SendingStack
import ScopeTarget.Communication.Transmission
import ScopeTarget.Control.CommandPackLog

/-! The way of the log: from the stream it is written to, piece by piece, into the messages
that the sending side of the stack packs. -/

namespace Builders
open Control Serialisation FramedIO

/-- nanopb on an output of this capacity: what it gets into it of the bytes of a message,
which is all of them if they fit. -/
structure PbEncode (cap : Nat) where
  written : List UInt8 → Written cap
  whole : ∀ bytes, bytes.length ≤ cap → (written bytes).bytes = bytes

/-- The sending side with the log stream and the string that is handed to the packer; with
the payloads of the log messages packed so far, and all that was written to the stream. -/
structure Logging (Q α : Type*) (cap logCap : Nat) where
  stack : SendingStack Q α cap
  logStream : Fifo logCap UInt8
  logData : ScLogDataDef
  packed : List (List UInt8)
  written : List UInt8

/-- What does not wait for an iteration. -/
inductive Interruption (α : Type*) where
  | writeLog (bytes : List UInt8)
  | notify (event : MessageType)
  | command (type : MessageType) (unpacker : Unpacker α)
  | read (length : Nat)
  | resetTx

/-- An iteration can be interrupted between its two halves. Of a message that is no log
message, `other` is what gets into the output. -/
inductive LogEvent (α : Type*) (cap : Nat) where
  | interruption (i : Interruption α)
  | iterate (memory : CharArray 50) (between : List (Interruption α)) (other : Written cap)

namespace Logging
variable {Q α : Type*} {cap logCap : Nat}

section Steps
variable [AgingPriorityQueue Q]

/-- The string in the packer is what memory holds. -/
def create (queue : Q) (priorities : MessagePriorities) (logData : ScLogDataDef) :
    Logging Q α cap logCap where
  stack := SendingStack.create queue priorities
  logStream := .empty
  logData := logData
  packed := []
  written := []

/-- What the log stream has no room for is not written. -/
def writeLog (s : Logging Q α cap logCap) (bytes : List UInt8) : Logging Q α cap logCap :=
  { s with
    logStream := s.logStream.write bytes
    written := if s.logStream.used + bytes.length ≤ logCap then s.written ++ bytes else s.written }

def withTx (s : Logging Q α cap logCap) (tx : Tx cap) : Logging Q α cap logCap :=
  { s with stack := { s.stack with tx := tx } }

def withController (s : Logging Q α cap logCap) (controller : Controller Q α) : Logging Q α cap logCap :=
  { s with stack := { s.stack with controller := controller } }

def interrupt (amountOfChannels : Nat) (s : Logging Q α cap logCap) :
    Interruption α → Logging Q α cap logCap
  | .writeLog bytes => s.writeLog bytes
  | .notify event => s.withController (s.stack.controller.commandPackPushEvent event)
  | .command type unpacker =>
      s.withController ((s.stack.controller.commandUpdate type).runRx amountOfChannels unpacker).2.2
  | .read length => s.withTx (getTxData s.stack.tx length).2
  | .resetTx => s.withTx (resetTx s.stack.tx)

/-- `CommandPackParserDispatcher_run` with the command it returns, as far as the log goes. -/
def runCommand (memory : CharArray 50) (s : Logging Q α cap logCap) (event : MessageType) :
    Logging Q α cap logCap :=
  if event = .scLog then
    let packed := CommandPackLog.run memory s.logStream
    { s with logData := packed.1, logStream := packed.2 }
  else s

/-- `runTx` of the controller -/
def runController (memory : CharArray 50) (s : Logging Q α cap logCap) : Logging Q α cap logCap :=
  let sent := s.stack.controller.runTx (s.stack.serializer.isReady s.stack.tx.output)
    (decide (s.logStream.used > 0))
  let ran := s.withController sent.2
  match sent.1 with
  | none => ran
  | some event =>
      let handed := ran.runCommand memory event
      { handed with stack := { handed.stack with serializer := handed.stack.serializer.updatePacker event } }

/-- `runTx` of the serializer -/
def runSerializer (pb : PbEncode cap) (other : Written cap) (s : Logging Q α cap logCap) :
    Logging Q α cap logCap :=
  let type := s.stack.serializer.packingPending
  let written := if type = .scLog then pb.written (NanopbPacker.packScLog s.logData) else other
  let result := s.stack.serializer.runTx written s.stack.tx.output
  let output := { s.stack.tx with output := result.2.2 }
  { s with
    stack := { s.stack with
      serializer := result.2.1
      tx := match result.1 with
        | none => output
        | some type => updateTx output type }
    packed := if type = .scLog then s.packed ++ [result.2.2.contents] else s.packed }

def step (pb : PbEncode cap) (amountOfChannels : Nat) (s : Logging Q α cap logCap) :
    LogEvent α cap → Logging Q α cap logCap
  | .interruption i => s.interrupt amountOfChannels i
  | .iterate memory between other =>
      let handed := Run.exec (interrupt amountOfChannels) (s.runController memory) between
      let packed := handed.runSerializer pb other
      packed.withTx (runTx packed.stack.tx)

end Steps

/-- The messages the host finds in the payloads are, one after the other and with what the
stream still holds behind them, what was written to it. -/
def Conserved (s : Logging Q α cap logCap) : Prop :=
  ∃ messages : List ScLog, s.packed.map ScLog.decode = messages.map some ∧
    messages.flatMap ScLog.message ++ s.logStream.contents = s.written

/-- The piece that has left the stream and is not yet in a message. -/
def handedOver (s : Logging Q α cap logCap) : List UInt8 :=
  if s.stack.serializer.packingPending = .scLog then
    (s.logData.message.read.map CString.bytes).getD []
  else []

end Logging

namespace Interruption
variable {α : Type*}

def NulFree : Interruption α → Prop
  | .writeLog bytes => 0 ∉ bytes
  | _ => True

instance : (i : Interruption α) → Decidable i.NulFree
  | .writeLog _ => inferInstanceAs (Decidable (_ ∉ _))
  | .notify _ => inferInstanceAs (Decidable True)
  | .command _ _ => inferInstanceAs (Decidable True)
  | .read _ => inferInstanceAs (Decidable True)
  | .resetTx => inferInstanceAs (Decidable True)

end Interruption

namespace LogEvent
variable {α : Type*} {cap : Nat}

/-- No byte that ends a string is written to the log stream. -/
def NulFree : LogEvent α cap → Prop
  | .interruption i => i.NulFree
  | .iterate _ between _ => ∀ i ∈ between, i.NulFree

instance : (event : LogEvent α cap) → Decidable event.NulFree
  | .interruption i => inferInstanceAs (Decidable i.NulFree)
  | .iterate _ between _ => inferInstanceAs (Decidable (∀ i ∈ between, i.NulFree))

end LogEvent

namespace Logging
variable {Q α : Type*} {cap logCap : Nat} {s : Logging Q α cap logCap}

/-- While a piece is handed over, its string can be read and there is room for its message. -/
structure Inv (s : Logging Q α cap logCap) : Prop where
  free : s.stack.serializer.packingPending = .scLog → s.stack.tx.output = .empty
  string : s.stack.serializer.packingPending = .scLog →
    ∃ message, s.logData.message.read = some message ∧ message.length ≤ 48
  accounted : ∃ messages : List ScLog, s.packed.map ScLog.decode = messages.map some ∧
    messages.flatMap ScLog.message ++ s.handedOver ++ s.logStream.contents = s.written
  nulFree : 0 ∉ s.written

theorem handedOver_of_ne (other : s.stack.serializer.packingPending ≠ .scLog) : s.handedOver = [] :=
  if_neg other

theorem handedOver_of_string (pending : s.stack.serializer.packingPending = .scLog) {message : CString}
    (held : s.logData.message.read = some message) : s.handedOver = message.bytes := by
  rw [handedOver, if_pos pending, held]
  rfl

theorem accounted_of_string (pending : s.stack.serializer.packingPending = .scLog) {message : CString}
    (held : s.logData.message.read = some message) {before : List UInt8}
    (sum : before ++ message.bytes ++ s.logStream.contents = s.written) :
    before ++ s.handedOver ++ s.logStream.contents = s.written := by
  rw [handedOver_of_string pending held]
  exact sum

/-- The piece that is handed over has left the stream. -/
theorem chunk_append_contents_run (inv : Inv s) (memory : CharArray 50) {before : List UInt8}
    (sum : before ++ s.logStream.contents = s.written) :
    before ++ (CString.upToNul (CommandPackLog.chunk s.logStream)).bytes ++
      (CommandPackLog.run memory s.logStream).2.contents = s.written := by
  have nulFree : 0 ∉ CommandPackLog.chunk s.logStream := by
    intro member
    apply inv.nulFree
    rw [← sum, ← CommandPackLog.contents_run memory s.logStream]
    exact List.mem_append_right _ (List.mem_append_left _ member)
  rw [CString.upToNul_of_terminated nulFree, List.append_assoc, CommandPackLog.contents_run, sum]

theorem conserved_of_inv (inv : Inv s) (other : s.stack.serializer.packingPending ≠ .scLog) :
    s.Conserved := by
  obtain ⟨messages, decoded, sum⟩ := inv.accounted
  rw [handedOver_of_ne other, List.append_nil] at sum
  exact ⟨messages, decoded, sum⟩

theorem inv_create (queue : Q) (priorities : MessagePriorities) (logData : ScLogDataDef) :
    Inv (create queue priorities logData : Logging Q α cap logCap) where
  free _ := rfl
  string pending := by cases pending
  accounted := ⟨[], rfl, rfl⟩
  nulFree := List.not_mem_nil

theorem inv_withTx (inv : Inv s) {tx : Tx cap} (empty : s.stack.tx.output = .empty → tx.output = .empty) :
    Inv (s.withTx tx) where
  free pending := empty (inv.free pending)
  string := inv.string
  accounted := inv.accounted
  nulFree := inv.nulFree

theorem inv_withController (inv : Inv s) (controller : Controller Q α) :
    Inv (s.withController controller) := ⟨inv.free, inv.string, inv.accounted, inv.nulFree⟩

theorem inv_writeLog (inv : Inv s) {bytes : List UInt8} (nulFree : 0 ∉ bytes) :
    Inv (s.writeLog bytes) := by
  unfold writeLog
  by_cases room : s.logStream.used + bytes.length ≤ logCap
  · obtain ⟨messages, decoded, sum⟩ := inv.accounted
    refine ⟨inv.free, inv.string, ⟨messages, decoded, ?_⟩, ?_⟩
    · dsimp only
      rw [Fifo.contents_write_of_fits room, if_pos room, ← sum, List.append_assoc _ _ bytes]
      rfl
    · dsimp only
      rw [if_pos room]
      intro member
      rcases List.mem_append.mp member with before | new
      · exact inv.nulFree before
      · exact nulFree new
  · rw [Fifo.write_of_overflow (Nat.not_le.mp room), if_neg room]
    exact inv

/-- The payload of a log message is the whole of it, for the output is empty. -/
theorem packed_whole {pb : PbEncode cap} (room : 50 ≤ cap) {message : CString}
    (held : s.logData.message.read = some message) (short : message.length ≤ 48) :
    (NanopbPacker.pack (pb.written (NanopbPacker.packScLog s.logData)) .empty .scLog).contents =
      NanopbPacker.packScLog s.logData := by
  have fits := (NanopbPacker.length_packScLog_le held short (by decide)).trans room
  have payload : NanopbPacker.payload (pb.written (NanopbPacker.packScLog s.logData)) .scLog =
      NanopbPacker.packScLog s.logData := (if_pos (by decide)).trans (pb.whole _ fits)
  rw [NanopbPacker.pack_empty, payload, Fifo.contents_write_of_fits]
  · rfl
  · rw [Fifo.used_empty, Nat.zero_add]
    exact fits

theorem idle_runSerializer (pb : PbEncode cap) (other : Written cap) (s : Logging Q α cap logCap) :
    (s.runSerializer pb other).stack.serializer.packingPending = .seNone := by
  unfold runSerializer Serializer.runTx
  dsimp only
  split
  · assumption
  · rfl

theorem packed_runSerializer (inv : Inv s) {pb : PbEncode cap} (room : 50 ≤ cap) (other : Written cap)
    (log : s.stack.serializer.packingPending = .scLog) :
    (s.runSerializer pb other).packed = s.packed ++ [NanopbPacker.packScLog s.logData] := by
  obtain ⟨message, held, short⟩ := inv.string log
  unfold runSerializer Serializer.runTx
  dsimp only
  rw [if_pos log, if_pos log, if_neg (by rw [log]; decide), log, inv.free log]
  exact congrArg (fun payload => s.packed ++ [payload]) (packed_whole room held short)

/-- The piece that was handed over is in the message that is packed. -/
theorem inv_runSerializer (inv : Inv s) {pb : PbEncode cap} (room : 50 ≤ cap) (other : Written cap) :
    Inv (s.runSerializer pb other) := by
  have notLog : (s.runSerializer pb other).stack.serializer.packingPending ≠ .scLog := by
    rw [idle_runSerializer]
    decide
  obtain ⟨messages, decoded, sum⟩ := inv.accounted
  refine ⟨fun pending => absurd pending notLog, fun pending => absurd pending notLog, ?_, inv.nulFree⟩
  rw [handedOver_of_ne notLog]
  by_cases log : s.stack.serializer.packingPending = .scLog
  · obtain ⟨message, held, -⟩ := inv.string log
    rw [handedOver_of_string log held] at sum
    refine ⟨messages ++ [⟨message.bytes⟩], ?_, ?_⟩
    · rw [packed_runSerializer inv room other log, List.map_append, List.map_append, decoded,
        List.map_singleton, NanopbPacker.decode_packScLog held]
      rfl
    · rw [List.flatMap_append, List.flatMap_singleton, List.append_nil]
      exact sum
  · rw [handedOver_of_ne log] at sum
    refine ⟨messages, ?_, sum⟩
    rw [← decoded]
    exact congrArg (List.map ScLog.decode) (if_neg log)

/-- The command that was popped runs and is left to the packer. -/
theorem inv_handOver (inv : Inv s) (idle : s.stack.serializer.packingPending = .seNone)
    (empty : s.stack.tx.output = .empty) (memory : CharArray 50) (event : MessageType) :
    Inv { s.runCommand memory event with
      stack := { (s.runCommand memory event).stack with
        serializer := (s.runCommand memory event).stack.serializer.updatePacker event } } := by
  obtain ⟨messages, decoded, sum⟩ := inv.accounted
  have nothing : s.handedOver = [] := handedOver_of_ne (by rw [idle]; decide)
  rw [nothing, List.append_nil] at sum
  unfold runCommand
  split
  · rename_i log
    have string := CommandPackLog.read_run memory s.logStream
    refine ⟨fun _ => empty, fun _ => ⟨_, string, CommandPackLog.length_upToNul_chunk_le s.logStream⟩,
      ⟨messages, decoded, ?_⟩, inv.nulFree⟩
    apply accounted_of_string
    · exact log
    · exact string
    · exact chunk_append_contents_run inv memory sum
  · rename_i other
    refine ⟨fun pending => absurd pending other, fun pending => absurd pending other,
      ⟨messages, decoded, ?_⟩, inv.nulFree⟩
    rw [handedOver_of_ne other, List.append_nil]
    exact sum

section Steps
variable [AgingPriorityQueue Q]

theorem inv_interrupt (inv : Inv s) (amountOfChannels : Nat) {i : Interruption α} (nulFree : i.NulFree) :
    Inv (s.interrupt amountOfChannels i) := by
  cases i with
  | writeLog bytes => exact inv_writeLog inv nulFree
  | notify event => exact inv_withController inv _
  | command type unpacker => exact inv_withController inv _
  | read length => exact inv_withTx inv fun empty => output_getTxData_of_empty empty length
  | resetTx => exact inv_withTx inv fun _ => rfl

theorem inv_interruptions (inv : Inv s) (amountOfChannels : Nat) {between : List (Interruption α)}
    (nulFree : ∀ i ∈ between, i.NulFree) : Inv (Run.exec (interrupt amountOfChannels) s between) := by
  induction between generalizing s with
  | nil => exact inv
  | cons i between ih =>
      exact ih (inv_interrupt inv amountOfChannels (nulFree i List.mem_cons_self))
        fun j later => nulFree j (List.mem_cons_of_mem i later)

theorem ready_of_popped {self : Controller Q α} {packerIsReady logIsPending : Bool} {event : MessageType}
    (popped : (self.runTx packerIsReady logIsPending).1 = some event) : packerIsReady = true := by
  unfold Controller.runTx at popped
  split at popped
  · cases popped
  · rename_i ready
    exact Bool.not_eq_false _ ▸ ready

theorem inv_runController (inv : Inv s) (memory : CharArray 50) : Inv (s.runController memory) := by
  unfold runController
  dsimp only
  split
  · exact inv_withController inv _
  · rename_i event popped
    obtain ⟨idle, used⟩ := of_decide_eq_true (ready_of_popped popped)
    have ran := inv_withController inv (s.stack.controller.runTx
      (s.stack.serializer.isReady s.stack.tx.output) (decide (s.logStream.used > 0))).2
    exact inv_handOver ran idle ((Fifo.eq_empty_iff _).mpr used) memory event

/-- Between two iterations nothing is handed over. -/
structure AtRest (s : Logging Q α cap logCap) : Prop where
  inv : Inv s
  idle : s.stack.serializer.packingPending = .seNone

theorem serializer_interrupt (amountOfChannels : Nat) (s : Logging Q α cap logCap) (i : Interruption α) :
    (s.interrupt amountOfChannels i).stack.serializer = s.stack.serializer := by
  cases i <;> rfl

theorem atRest_step {pb : PbEncode cap} (room : 50 ≤ cap) (amountOfChannels : Nat) (atRest : AtRest s)
    {event : LogEvent α cap} (nulFree : event.NulFree) : AtRest (s.step pb amountOfChannels event) := by
  cases event with
  | interruption i =>
      refine ⟨inv_interrupt atRest.inv amountOfChannels nulFree, ?_⟩
      exact (congrArg Serializer.packingPending (serializer_interrupt amountOfChannels s i)).trans
        atRest.idle
  | iterate memory between other =>
      have handed := inv_interruptions (inv_runController atRest.inv memory) amountOfChannels nulFree
      have packed : Inv ((Run.exec (interrupt amountOfChannels) (s.runController memory)
          between).runSerializer pb other) := inv_runSerializer handed room other
      exact ⟨inv_withTx packed fun empty => (output_runTx _).trans empty, idle_runSerializer pb other _⟩

/-- Whatever the stack does, the messages it has packed and the stream hold the log. -/
theorem log_conserved {pb : PbEncode cap} (room : 50 ≤ cap) (amountOfChannels : Nat) (queue : Q)
    (priorities : MessagePriorities) (logData : ScLogDataDef) {events : List (LogEvent α cap)}
    (nulFree : ∀ event ∈ events, event.NulFree) : Conserved (Run.exec (step pb amountOfChannels)
      (create queue priorities logData : Logging Q α cap logCap) events) := by
  have atRest : ∀ s : Logging Q α cap logCap, AtRest s →
      AtRest (Run.exec (step pb amountOfChannels) s events) := by
    induction events with
    | nil => exact fun s here => here
    | cons event events ih =>
        intro s here
        exact ih (fun later member => nulFree later (List.mem_cons_of_mem event member)) _
          (atRest_step room amountOfChannels here (nulFree event List.mem_cons_self))
  obtain ⟨inv, idle⟩ := atRest _ ⟨inv_create queue priorities logData, rfl⟩
  apply conserved_of_inv inv
  rw [idle]
  decide

end Steps

section Run
open LogEvent

def wholeMessages : PbEncode 64 where
  written bytes := ⟨bytes.take 64, List.length_take_le 64 bytes⟩
  whole _ fits := List.take_of_length_le fits

def noBytes : Written 64 := ⟨[], by decide⟩

/-- Sixty bytes take two messages; four more come in while the first of them is handed over. -/
def sixtyFour : List (LogEvent Int 64) :=
  [interruption (.writeLog (List.replicate 60 97)),
    interruption (.command .evPoll ⟨0, [], [], ⟨0, false, 0, 0⟩, 0⟩), iterate .zero [] noBytes,
    interruption (.read 9), iterate .zero [.writeLog [98, 99, 100, 101]] noBytes, interruption (.read 80),
    interruption (.command .seAck ⟨0, [], [], ⟨0, false, 0, 0⟩, 0⟩), iterate .zero [] noBytes]

theorem log_conserved_sixtyFour : Conserved (Run.exec (step wholeMessages 1)
    (create [] ⟨2, 3, 4⟩ ⟨.zero⟩ : Logging (List MessageType) Int 64 100) sixtyFour) :=
  log_conserved (by decide) 1 [] ⟨2, 3, 4⟩ ⟨.zero⟩ (by decide)

example : (Run.exec (step wholeMessages 1)
    (create [] ⟨2, 3, 4⟩ ⟨.zero⟩ : Logging (List MessageType) Int 64 100) sixtyFour).packed.length = 2 := by
  decide

end Run

end Logging

end Builders
