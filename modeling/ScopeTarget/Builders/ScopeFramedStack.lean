import ScopeTarget.Builders.Target

/-! The target with its log and the storage of its addresses, as `ScopeFramedStack_create`
puts them together. -/

namespace Builders
open Core Control Serialisation FramedIO

/-- `announcement` and `logData` are what the packer holds for these messages. -/
structure ScopeFramedStack (Q α : Type*) (inCap outCap capacity n width logCap : Nat) where
  target : Target Q α inCap outCap capacity n
  announceStorage : AnnounceStorage width
  announcement : ScAnnouncementData
  logStream : Fifo logCap UInt8
  logData : ScLogDataDef

/-- The application adds addresses and writes to the log, bytes come in and are fetched,
and the runnables are called. -/
inductive FramedStackEvent (α : Type*) (outCap width : Nat) where
  | storage (call : StorageCall width)
  | writeLog (bytes : List UInt8)
  | putRxData (bytes : List UInt8)
  | getTxData (length : Nat)
  | runCommunicationRx
  | runUnpacker
  | runCommandParser (moment : Moment α)
  | runScope (moment : Moment α)
  | runDataAggregator (memory : CharArray 50)
  | runPacker (other : Written outCap)
  | runCommunicationTx

/-- What `malloc` has returned for the storage, and what is in the packer before the first
announcement and the first log message. -/
structure Allocation (width : Nat) where
  addresses : List (AddressDefinition width)
  announcMeta : ScAnnounceMetaData
  logData : ScLogDataDef

namespace ScopeFramedStack
variable {Q α : Type*} {inCap outCap capacity n width logCap : Nat}

section Steps
variable [AgingPriorityQueue Q]

def create [Zero α] (unpacker : Unpacker α) (queue : Q) (priorities : MessagePriorities) (timebase : UInt32)
    (memory : Allocation width) : ScopeFramedStack Q α inCap outCap capacity n width logCap where
  target := .create unpacker queue priorities
  announceStorage := .create memory.addresses (n + 1) timebase
  announcement := ⟨memory.announcMeta, []⟩
  logStream := .empty
  logData := memory.logData

def logIsPending (s : ScopeFramedStack Q α inCap outCap capacity n width logCap) : Bool :=
  decide (s.logStream.used > 0)

/-- The event the controller would pop. -/
def popped (s : ScopeFramedStack Q α inCap outCap capacity n width logCap) : Option MessageType :=
  s.target.stack.sending.popped s.logIsPending

/-- `CommandPackParserDispatcher_run` with the command it returns, as far as the announcement
and the log go. An announcement that runs on behind a name is left out. -/
def runPackCommand (memory : CharArray 50) (s : ScopeFramedStack Q α inCap outCap capacity n width logCap)
    (event : MessageType) : ScopeFramedStack Q α inCap outCap capacity n width logCap :=
  if event = .scAnnounce then
    { s with announcement := (CommandPackAnnounce.run (some s.announceStorage)
        s.announceStorage.getMaxAmountOfAddresses s.announcement).getD s.announcement }
  else if event = .scLog then
    let packed := CommandPackLog.run memory s.logStream
    { s with logData := packed.1, logStream := packed.2 }
  else s

def runDataAggregator (memory : CharArray 50)
    (s : ScopeFramedStack Q α inCap outCap capacity n width logCap) :
    ScopeFramedStack Q α inCap outCap capacity n width logCap :=
  let ran := { s with target := s.target.runDataAggregator s.logIsPending }
  match s.popped with
  | none => ran
  | some event => ran.runPackCommand memory event

/-- What the packer writes; `other` for a data message whose fields were never set. -/
def written (p : Platform α outCap) (s : ScopeFramedStack Q α inCap outCap capacity n width logCap)
    (other : Written outCap) : Written outCap :=
  if s.target.packingPending = .scAnnounce then p.encode.written (NanopbPacker.packScAnnounce s.announcement)
  else if s.target.packingPending = .scLog then p.encode.written (NanopbPacker.packScLog s.logData)
  else other

def runPacker (p : Platform α outCap) (other : Written outCap)
    (s : ScopeFramedStack Q α inCap outCap capacity n width logCap) :
    ScopeFramedStack Q α inCap outCap capacity n width logCap :=
  let packs := s.target.packingPending ≠ .seNone ∧ s.target.stack.sending.tx.output.used = 0
  { s with
    target := s.target.runPacker p (s.written p other)
    announcement := if packs then NanopbPacker.resetSelf s.announcement else s.announcement }

variable [LT α] [DecidableLT α] [BEq α] (p : Platform α outCap)

/-- A runnable that has to do with neither the storage nor the log. -/
def onTarget (s : ScopeFramedStack Q α inCap outCap capacity n width logCap)
    (event : TargetEvent α outCap) : ScopeFramedStack Q α inCap outCap capacity n width logCap :=
  { s with target := s.target.step p event }

def step (s : ScopeFramedStack Q α inCap outCap capacity n width logCap) :
    FramedStackEvent α outCap width → ScopeFramedStack Q α inCap outCap capacity n width logCap
  | .storage (.addAnnounceAddress addition) =>
      { s with announceStorage := (s.announceStorage.addAnnounceAddress addition).2 }
  | .storage .clearAddresses => { s with announceStorage := s.announceStorage.clearAddresses }
  | .writeLog bytes => { s with logStream := s.logStream.write bytes }
  | .putRxData bytes => s.onTarget p (.putRxData bytes)
  | .getTxData length => s.onTarget p (.getTxData length)
  | .runCommunicationRx => s.onTarget p .runCommunicationRx
  | .runUnpacker => s.onTarget p .runUnpacker
  | .runCommandParser moment => s.onTarget p (.runCommandParser moment)
  | .runScope moment => s.onTarget p (.runScope moment)
  | .runDataAggregator memory => s.runDataAggregator memory
  | .runPacker other => s.runPacker p other
  | .runCommunicationTx => s.onTarget p .runCommunicationTx

end Steps

/-- What happens to the target. -/
def targetEvents [AgingPriorityQueue Q] (p : Platform α outCap)
    (s : ScopeFramedStack Q α inCap outCap capacity n width logCap) :
    FramedStackEvent α outCap width → List (TargetEvent α outCap)
  | .storage _ | .writeLog _ => []
  | .putRxData bytes => [.putRxData bytes]
  | .getTxData length => [.getTxData length]
  | .runCommunicationRx => [.runCommunicationRx]
  | .runUnpacker => [.runUnpacker]
  | .runCommandParser moment => [.runCommandParser moment]
  | .runScope moment => [.runScope moment]
  | .runDataAggregator _ => [.runDataAggregator s.logIsPending]
  | .runPacker other => [.runPacker (s.written p other)]
  | .runCommunicationTx => [.runCommunicationTx]

section Target

theorem target_runPackCommand (memory : CharArray 50)
    (s : ScopeFramedStack Q α inCap outCap capacity n width logCap) (event : MessageType) :
    (s.runPackCommand memory event).target = s.target := by
  unfold runPackCommand
  split
  · rfl
  · split <;> rfl

theorem announceStorage_runPackCommand (memory : CharArray 50)
    (s : ScopeFramedStack Q α inCap outCap capacity n width logCap) (event : MessageType) :
    (s.runPackCommand memory event).announceStorage = s.announceStorage := by
  unfold runPackCommand
  split
  · rfl
  · split <;> rfl

theorem announcement_runPackCommand_of_ne (memory : CharArray 50)
    (s : ScopeFramedStack Q α inCap outCap capacity n width logCap) {event : MessageType}
    (other : event ≠ .scAnnounce) : (s.runPackCommand memory event).announcement = s.announcement := by
  unfold runPackCommand
  rw [if_neg other]
  split <;> rfl

theorem logData_runPackCommand (memory : CharArray 50)
    (s : ScopeFramedStack Q α inCap outCap capacity n width logCap) :
    (s.runPackCommand memory .scLog).logData = (CommandPackLog.run memory s.logStream).1 := rfl

variable [AgingPriorityQueue Q]

theorem target_runDataAggregator (memory : CharArray 50)
    (s : ScopeFramedStack Q α inCap outCap capacity n width logCap) :
    (s.runDataAggregator memory).target = s.target.runDataAggregator s.logIsPending := by
  unfold runDataAggregator
  dsimp only
  split
  · rfl
  · exact target_runPackCommand memory _ _

variable [LT α] [DecidableLT α] [BEq α]

theorem step_of_none {p : Platform α outCap}
    {s : ScopeFramedStack Q α inCap outCap capacity n width logCap} (none_ : s.popped = none)
    (memory : CharArray 50) :
    s.step p (.runDataAggregator memory) = s.onTarget p (.runDataAggregator s.logIsPending) := by
  change s.runDataAggregator memory = _
  unfold runDataAggregator
  rw [none_]
  rfl

theorem step_of_popped {p : Platform α outCap}
    {s : ScopeFramedStack Q α inCap outCap capacity n width logCap} {event : MessageType}
    (popped : s.popped = some event) (memory : CharArray 50) :
    s.step p (.runDataAggregator memory) =
      (s.onTarget p (.runDataAggregator s.logIsPending)).runPackCommand memory event := by
  change s.runDataAggregator memory = _
  unfold runDataAggregator
  rw [popped]
  rfl

/-- In every run, the target does what a target does. -/
theorem simulates_target (p : Platform α outCap) : Run.Simulates
    (step p : ScopeFramedStack Q α inCap outCap capacity n width logCap → _) (Target.step p)
    (fun _ _ => True) (fun _ => True) target (targetEvents p) where
  kept _ _ _ _ := trivial
  follows s event _ _ := by
    cases event with
    | storage call => cases call <;> rfl
    | runDataAggregator memory => exact s.target_runDataAggregator memory
    | _ => rfl

end Target

end ScopeFramedStack

end Builders
