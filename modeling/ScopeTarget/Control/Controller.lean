import ScopeTarget.Control.Commands

/-! The controller keeps one pending command for the receiving side and a queue
of events to be packed for the sending side. -/

namespace Control
open Core

/-- The queue comes from se-lib-c; a failed pop yields nothing. -/
class AgingPriorityQueue (Q : Type*) where
  empty : Q → Bool
  push : Q → MessageType → Nat → Q
  pop : Q → Option MessageType × Q
  contains : Q → MessageType → Bool

/-- How the queue behaves as long as all events have the same priority. -/
instance : AgingPriorityQueue (List MessageType) where
  empty events := events.isEmpty
  push events event _ := events ++ [event]
  pop events := (events.head?, events.tail)
  contains events event := event ∈ events

structure MessagePriorities where
  data : Nat
  stream : Nat
  log : Nat
  deriving DecidableEq, Repr

structure Controller (Q α : Type*) where
  commands : Commands α
  commandPending : MessageType
  waitForAck : Bool
  queue : Q
  priorities : MessagePriorities

namespace Controller
variable {Q α : Type*}

def create (queue : Q) (priorities : MessagePriorities) : Controller Q α where
  commands := Commands.create
  commandPending := .seNone
  waitForAck := true
  queue := queue
  priorities := priorities

def messageNeedsToBeAcked (message : MessageType) : Bool :=
  message = .scLog ∨ message = .scData ∨ message = .scStream

def messageCanUnlockAckLock (message : MessageType) : Bool :=
  MessageType.evAnnounce.code ≤ message.code ∨ message = .seNak ∨ message = .seAck

def commandUpdate (self : Controller Q α) (state : MessageType) : Controller Q α :=
  { self with commandPending := state }

section Queue
variable [AgingPriorityQueue Q]
open AgingPriorityQueue

/-- Events that cannot be sent are dropped, a log event is queued once. -/
def commandPackPushEvent (self : Controller Q α) (event : MessageType) : Controller Q α :=
  if event = .seNak then { self with queue := push self.queue .seNak 0 }
  else if event = .seAck then { self with queue := push self.queue .seAck 0 }
  else if event = .scData then { self with queue := push self.queue .scData self.priorities.data }
  else if event = .scAnnounce then { self with queue := push self.queue .scAnnounce 1 }
  else if event = .scDetect then { self with queue := push self.queue .scDetect 1 }
  else if event = .scStream then
    { self with queue := push self.queue .scStream self.priorities.stream }
  else if event = .scLog then
    if contains self.queue .scLog = false then
      { self with queue := push self.queue .scLog self.priorities.log }
    else self
  else self

/-- An event with a type is queued, or nothing happens. -/
@[elab_as_elim]
theorem commandPackPushEvent_cases {motive : Controller Q α → Prop} (self : Controller Q α)
    (event : MessageType)
    (queues : ∀ e, e ≠ .seNone → ∀ priority, motive { self with queue := push self.queue e priority })
    (ignores : motive self) : motive (self.commandPackPushEvent event) := by
  unfold commandPackPushEvent
  repeat' split
  · exact queues .seNak (by decide) _
  · exact queues .seAck (by decide) _
  · exact queues .scData (by decide) _
  · exact queues .scAnnounce (by decide) _
  · exact queues .scDetect (by decide) _
  · exact queues .scStream (by decide) _
  · exact queues .scLog (by decide) _
  · exact ignores
  · exact ignores

/-- The effects are those on the scope and on the pack observer, which is the
controller's own queue. -/
def runRx (amountOfChannels : Nat) (unpacker : Unpacker α) (self : Controller Q α) :
    Bool × Effects α × Controller Q α :=
  if self.commandPending = .seNone then (false, ⟨[], []⟩, self)
  else if self.commandPending = .seNak then
    (true, ⟨[], [.seNak]⟩, { self.commandPackPushEvent .seNak with commandPending := .seNone })
  else
    let waitForAck := if messageCanUnlockAckLock self.commandPending then false else self.waitForAck
    let selected :=
      CommandParserDispatcher.run amountOfChannels unpacker self.commands self.commandPending
    let effects := match selected.1 with
      | none => ⟨[], []⟩
      | some command => command.run amountOfChannels selected.2
    (true, effects, { effects.notified.foldl commandPackPushEvent self with
      waitForAck := waitForAck, commands := selected.2, commandPending := .seNone })

/-- The event that is handed to the packer, if there is one. -/
def runTx (packerIsReady logIsPending : Bool) (self : Controller Q α) :
    Option MessageType × Controller Q α :=
  if packerIsReady = false then (none, self)
  else if self.waitForAck = true then (none, self)
  else
    let logged := if logIsPending = true then self.commandPackPushEvent .scLog else self
    if empty logged.queue = true then (none, logged)
    else
      let popped := pop logged.queue
      match popped.1 with
      | none => (none, { logged with queue := popped.2 })
      | some event =>
          (some event, { logged with
            queue := popped.2, waitForAck := messageNeedsToBeAcked event })

theorem commandPending_commandPackPushEvent (self : Controller Q α) (event : MessageType) :
    (self.commandPackPushEvent event).commandPending = self.commandPending :=
  self.commandPackPushEvent_cases event (fun _ _ _ => rfl) rfl

theorem commandPending_runRx (self : Controller Q α) (amountOfChannels : Nat) (unpacker : Unpacker α) :
    (self.runRx amountOfChannels unpacker).2.2.commandPending = .seNone := by
  unfold runRx
  split
  · assumption
  · split
    · rfl
    · rfl

theorem commandPending_runTx (self : Controller Q α) (packerIsReady logIsPending : Bool) :
    (self.runTx packerIsReady logIsPending).2.commandPending = self.commandPending := by
  have logged : (if logIsPending = true then self.commandPackPushEvent .scLog else self).commandPending =
      self.commandPending := by
    split
    · exact self.commandPending_commandPackPushEvent .scLog
    · rfl
  unfold runTx
  split
  · rfl
  · split
    · rfl
    · generalize (if logIsPending = true then self.commandPackPushEvent .scLog else self) = pushed
        at logged
      dsimp only
      split
      · exact logged
      · split
        · exact logged
        · exact logged

end Queue

end Controller

end Control
