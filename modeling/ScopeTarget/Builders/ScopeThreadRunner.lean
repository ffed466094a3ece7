import ScopeTarget.Builders.SendingStack
import ScopeTarget.Communication.Streaming
import ScopeTarget.Serialisation.NanopbUnpacker

/-! The thread that runs the stack while another one runs the scope. What the
host sends is received and decoded in every iteration; a command is run only in
one that gets the lock of the configuration. -/

namespace Serialisation
open Control

namespace Configuration
variable {α : Type*} (amountOfChannels : Nat)

/-- A list that passes `setAttributes` and so replaces the one before it. -/
def Accepted : Configuration α → Prop
  | .running channels => channels.length ≤ amountOfChannels ∧
      Passed amountOfChannels RunningEntry.changedChannel CommandRunning.legal
        (CommandRunningParser.conf channels)
  | .address channels => channels.length ≤ amountOfChannels ∧
      Passed amountOfChannels AddrEntry.changedChannel CommandAddr.legal
        (CommandAddrParser.conf amountOfChannels channels)
  | _ => True

instance (c : Configuration α) : Decidable (c.Accepted amountOfChannels) :=
  match c with
  | .none => inferInstanceAs (Decidable True)
  | .poll _ => inferInstanceAs (Decidable True)
  | .running _ => inferInstanceAs (Decidable (_ ∧ ∀ _ ∈ _, _))
  | .trigger _ => inferInstanceAs (Decidable True)
  | .tInc _ => inferInstanceAs (Decidable True)
  | .address _ => inferInstanceAs (Decidable (_ ∧ ∀ _ ∈ _, _))

/-- What a message of this type asks for by itself: the calls its command makes with
the configuration of the message, and the answers. -/
def effects (type : MessageType) : Configuration α → Effects α
  | .poll _ => ⟨[.poll], [.seAck]⟩
  | .running channels => CommandRunning.run amountOfChannels (CommandRunningParser.conf channels)
  | .trigger config => ⟨[.configureTrigger
      ⟨config.level, config.edge, config.mode, config.channelId.toNat⟩], [.seAck]⟩
  | .tInc increment => ⟨[.setTimeIncrement increment], [.seAck]⟩
  | .address channels =>
      CommandAddr.run amountOfChannels (CommandAddrParser.conf amountOfChannels channels)
  | .none =>
      if type = .evTrans then ⟨[.transmit], []⟩
      else if type = .evClear then ⟨[.clear], [.seAck]⟩
      else if type = .evAnnounce then ⟨[], [.scAnnounce]⟩
      else if type = .evDetect then ⟨[], [.scDetect]⟩
      else if type = .seNak then ⟨[], [.seNak]⟩
      else ⟨[], []⟩

end Configuration

end Serialisation

namespace Control
open Serialisation

namespace Controller
variable {Q α : Type*} [AgingPriorityQueue Q] {amountOfChannels : Nat} {unpacker : Unpacker α}
  {self : Controller Q α}

/-- The command that is selected is run with what its parser has set. -/
theorem runRx_selected {type : MessageType} (pending : self.commandPending = type)
    (typed : type ≠ .seNone) (wanted : type ≠ .seNak) {kind : CommandKind} {c : Commands α}
    (selected : CommandParserDispatcher.run amountOfChannels unpacker self.commands type =
      (some kind, c)) :
    (self.runRx amountOfChannels unpacker).2.1 = kind.run amountOfChannels c := by
  subst pending
  rw [runRx, if_neg typed, if_neg wanted]
  simp only [selected]

theorem runRx_unselected {type : MessageType} (pending : self.commandPending = type)
    (typed : type ≠ .seNone) (wanted : type ≠ .seNak)
    (selected : CommandParserDispatcher.run amountOfChannels unpacker self.commands type =
      (none, self.commands)) :
    (self.runRx amountOfChannels unpacker).2.1 = ⟨[], []⟩ := by
  subst pending
  rw [runRx, if_neg typed, if_neg wanted]
  simp only [selected]

/-- A message without a configuration. -/
theorem effects_runRx_plain {type : MessageType} (pending : self.commandPending = type)
    (typed : type ≠ .seNone) (plain : NanopbUnpacker.Plain type) :
    (self.runRx amountOfChannels unpacker).2.1 =
      (Configuration.none : Configuration α).effects amountOfChannels type := by
  by_cases trans : type = .evTrans
  · subst trans
    exact runRx_selected pending (by decide) (by decide) rfl
  by_cases clear : type = .evClear
  · subst clear
    exact runRx_selected pending (by decide) (by decide) rfl
  by_cases announce : type = .evAnnounce
  · subst announce
    exact runRx_selected pending (by decide) (by decide) rfl
  by_cases detect : type = .evDetect
  · subst detect
    exact runRx_selected pending (by decide) (by decide) rfl
  by_cases nak : type = .seNak
  · subst nak
    rw [runRx, if_neg (by rw [pending]; decide), if_pos pending]
    rfl
  obtain ⟨notPoll, notRunning, notTrigger, notTInc, notAddr⟩ := plain
  have selected : CommandParserDispatcher.run amountOfChannels unpacker self.commands type =
      (none, self.commands) := by
    rw [CommandParserDispatcher.run, if_neg notRunning, if_neg notPoll, if_neg notAddr, if_neg notTInc,
      if_neg trans, if_neg notTrigger, if_neg announce, if_neg clear, if_neg detect]
  rw [runRx_unselected pending typed nak selected, Configuration.effects, if_neg trans, if_neg clear,
    if_neg announce, if_neg detect, if_neg nak]

/-- A command does what its message asks for, whatever the command objects hold from
before, as long as `setAttributes` takes the list of the message. -/
theorem effects_runRx {type : MessageType} (pending : self.commandPending = type)
    (typed : type ≠ .seNone)
    (accepted : (NanopbUnpacker.configuration unpacker type).Accepted amountOfChannels) :
    (self.runRx amountOfChannels unpacker).2.1 =
      (NanopbUnpacker.configuration unpacker type).effects amountOfChannels type := by
  rcases NanopbUnpacker.plain_cases type with rfl | rfl | rfl | rfl | rfl | plain
  · exact runRx_selected pending (by decide) (by decide) rfl
  · obtain ⟨short, passed⟩ := accepted
    have length : (CommandRunningParser.conf unpacker.running).length ≤ amountOfChannels :=
      (List.length_map _).trans_le short
    refine (runRx_selected pending (by decide) (by decide) rfl).trans ?_
    exact congrArg (CommandRunning.run amountOfChannels) (setAttributes_of_passed length passed)
  · exact runRx_selected pending (by decide) (by decide) rfl
  · exact runRx_selected pending (by decide) (by decide) rfl
  · obtain ⟨-, passed⟩ := accepted
    have length := CommandAddrParser.length_conf_le amountOfChannels unpacker.address
    refine (runRx_selected pending (by decide) (by decide) rfl).trans ?_
    exact congrArg (CommandAddr.run amountOfChannels) (setAttributes_of_passed length passed)
  · rw [NanopbUnpacker.configuration_of_plain unpacker plain]
    exact effects_runRx_plain pending typed plain

end Controller

end Control

namespace Builders
open Control Serialisation FramedIO

structure Stack (Q α : Type*) (inCap outCap : Nat) where
  rx : Rx inCap
  unpacker : Unpacker α
  sending : SendingStack Q α outCap

namespace Stack
variable {Q α : Type*} {inCap outCap : Nat}

def create (unpacker : Unpacker α) [AgingPriorityQueue Q] (queue : Q)
    (priorities : MessagePriorities) : Stack Q α inCap outCap where
  rx := createRx
  unpacker := unpacker
  sending := SendingStack.create queue priorities

def unpackingPending (s : Stack Q α inCap outCap) : MessageType := s.sending.serializer.unpackingPending

/-- `Controller_commandPending` -/
def commandPending (s : Stack Q α inCap outCap) : MessageType := s.sending.controller.commandPending

def runCommunicationRx (s : Stack Q α inCap outCap) : Stack Q α inCap outCap :=
  let received := runRx s.rx
  let serializer := match received.2 with
    | none => s.sending.serializer
    | some type => s.sending.serializer.updateUnpacker type
  { s with rx := received.1, sending := { s.sending with serializer := serializer } }

def runUnpacker (pb : PbDecode α) (s : Stack Q α inCap outCap) : Stack Q α inCap outCap :=
  let parsed := s.sending.serializer.runRx (NanopbUnpacker.unpack pb) (s.unpacker, s.rx.input)
  let controller := match parsed.1 with
    | none => s.sending.controller
    | some type => s.sending.controller.commandUpdate type
  { rx := { s.rx with input := parsed.2.2.2 }
    unpacker := parsed.2.2.1
    sending := { s.sending with serializer := parsed.2.1, controller := controller } }

/-- What a step of the stack does before it asks for a lock. -/
def receive (pb : PbDecode α) (s : Stack Q α inCap outCap) : Stack Q α inCap outCap :=
  runUnpacker pb (runCommunicationRx s)

/-- The lists of the message that is to be unpacked stay inside the arrays they are stored
in, which have an element for each channel. Behind them the code writes to other memory. -/
def ListsFit (pb : PbDecode α) (amountOfChannels : Nat) (s : Stack Q α inCap outCap) : Prop :=
  listed pb s.unpackingPending s.rx.input.contents ≤ amountOfChannels

instance (pb : PbDecode α) (amountOfChannels : Nat) (s : Stack Q α inCap outCap) :
    Decidable (s.ListsFit pb amountOfChannels) := inferInstanceAs (Decidable (_ ≤ _))

section Queue
variable [AgingPriorityQueue Q]

def runCommandParser (amountOfChannels : Nat) (s : Stack Q α inCap outCap) : Stack Q α inCap outCap :=
  { s with sending := { s.sending with
      controller := (s.sending.controller.runRx amountOfChannels s.unpacker).2.2 } }

def reconfigure (amountOfChannels : Nat) (configLock : Bool) (s : Stack Q α inCap outCap) :
    Stack Q α inCap outCap :=
  if s.commandPending ≠ .seNone ∧ configLock = true then runCommandParser amountOfChannels s else s

def transmit (dataLock : Bool) (written : Written outCap) (logIsPending : Bool)
    (s : Stack Q α inCap outCap) : Stack Q α inCap outCap :=
  if dataLock = true then { s with sending := s.sending.runTx written logIsPending } else s

/-- `ScopeThreadRunner_runStack`, with the outcomes of the two try-locks. -/
def runStack (pb : PbDecode α) (amountOfChannels : Nat) (configLock dataLock : Bool)
    (written : Written outCap) (logIsPending : Bool) (s : Stack Q α inCap outCap) :
    Stack Q α inCap outCap :=
  transmit dataLock written logIsPending
    (reconfigure amountOfChannels configLock (receive pb s))

/-- What `runRx` of the controller processes when the lock of the configuration is asked
for: the pending type, with the calls on the scope and the answers that are made for it. -/
def processes (amountOfChannels : Nat) (configLock : Bool) (s : Stack Q α inCap outCap) :
    List (MessageType × Effects α) :=
  if s.commandPending ≠ .seNone ∧ configLock = true then
    [(s.commandPending, (s.sending.controller.runRx amountOfChannels s.unpacker).2.1)]
  else []

end Queue

/-- The command the controller would run now, with the configuration it would use. -/
def command (s : Stack Q α inCap outCap) : Option (MessageType × Configuration α) :=
  if s.commandPending = .seNone then none
  else some (s.commandPending, NanopbUnpacker.configuration s.unpacker s.commandPending)

/-- How many of the single slots between the framer and the controller are taken. -/
def occupied (s : Stack Q α inCap outCap) : Nat :=
  (if s.rx.rxDataReady = true then 1 else 0) + (if s.unpackingPending = .seNone then 0 else 1) +
    (if s.commandPending = .seNone then 0 else 1)

end Stack

/-- The unpacker would take a message without a decoder as it is. -/
theorem runRx_pending {α : Type*} {cap : Nat} (pb : PbDecode α)
    (self : Serializer) (typed : self.unpackingPending ≠ .seNone)
    (unpacker : Unpacker α × Fifo cap UInt8) :
    let unpacked := NanopbUnpacker.unpack pb unpacker self.unpackingPending
    self.runRx (NanopbUnpacker.unpack pb) unpacker =
      (some (if unpacked.1 = true then self.unpackingPending else .seNak),
        { self with unpackingPending := .seNone }, unpacked.2) := by
  intro unpacked
  have parsed : (if Serializer.getUnpacker self.unpackingPending then unpacked else (true, unpacker)) =
      unpacked := by
    split
    · rfl
    · rename_i noDecoder
      have plain : NanopbUnpacker.Plain self.unpackingPending := by
        simp only [Serializer.getUnpacker, decide_eq_true_eq, not_or] at noDecoder
        obtain ⟨notPoll, notAddr, notRunning, notTInc, notTrigger⟩ := noDecoder
        exact ⟨notPoll, notRunning, notTrigger, notTInc, notAddr⟩
      exact (NanopbUnpacker.unpack_of_plain pb unpacker plain).symm
  rw [Serializer.runRx, if_neg typed, parsed]

namespace Stack
variable {Q α : Type*} {inCap outCap : Nat} {s : Stack Q α inCap outCap}

theorem receive_idle (pb : PbDecode α) (ready : s.rx.rxDataReady = false)
    (nothing : s.unpackingPending = .seNone) : receive pb s = s := by
  have received : runRx s.rx = (s.rx, none) := if_pos ready
  have parsed : s.sending.serializer.runRx (NanopbUnpacker.unpack pb) (s.unpacker, s.rx.input) =
      (none, s.sending.serializer, (s.unpacker, s.rx.input)) := if_pos nothing
  unfold receive runCommunicationRx
  rw [received]
  unfold runUnpacker
  dsimp only
  rw [parsed]

/-- A frame that waits in the framer becomes the command of the controller. -/
theorem receive_ready (pb : PbDecode α) (ready : s.rx.rxDataReady = true)
    (typed : s.rx.rxType ≠ .seNone) :
    (∃ input, (receive pb s).rx = { clear s.rx with input }) ∧
      (receive pb s).unpackingPending = .seNone ∧
      (receive pb s).command = some (pb.message s.rx.rxType s.rx.input.contents) := by
  have received : runRx s.rx = (clear s.rx, some s.rx.rxType) :=
    if_neg (by rw [ready]; exact Bool.true_eq_false_eq_False)
  have pending := runRx_pending pb (s.sending.serializer.updateUnpacker s.rx.rxType) typed
    (s.unpacker, (clear s.rx).input)
  have said : (_, _) = pb.message s.rx.rxType s.rx.input.contents :=
    NanopbUnpacker.unpack_message pb s.unpacker s.rx.input rfl rfl
  have told := congrArg Prod.fst said
  unfold receive runCommunicationRx
  rw [received]
  unfold runUnpacker
  dsimp only at pending ⊢
  rw [pending]
  refine ⟨⟨_, rfl⟩, rfl, ?_⟩
  unfold command
  rw [if_neg]
  · exact congrArg some said
  · exact fun none_ => NanopbUnpacker.message_typed pb typed _ (told.symm.trans none_)

end Stack

theorem SendingStack.runTx_keeps {Q α : Type*} {cap : Nat} [AgingPriorityQueue Q]
    (s : SendingStack Q α cap) (written : Written cap) (logIsPending : Bool) :
    (s.runTx written logIsPending).controller.commandPending = s.controller.commandPending ∧
      (s.runTx written logIsPending).serializer.unpackingPending = s.serializer.unpackingPending := by
  refine ⟨Controller.commandPending_runTx _ _ _, ?_⟩
  have pending : ∀ self : Serializer,
      (self.runTx written s.tx.output).2.1.unpackingPending = self.unpackingPending := by
    intro self
    unfold Serializer.runTx
    split
    · rfl
    · rfl
  refine (pending _).trans ?_
  split
  · rfl
  · rfl

/-- Two stacks with the same receiving side. -/
structure Stack.Agrees {Q α : Type*} {inCap outCap : Nat} (a b : Stack Q α inCap outCap) : Prop where
  rx : a.rx = b.rx
  unpacker : a.unpacker = b.unpacker
  unpackingPending : a.unpackingPending = b.unpackingPending
  commandPending : a.commandPending = b.commandPending

theorem Stack.Agrees.command {Q α : Type*} {inCap outCap : Nat} {a b : Stack Q α inCap outCap}
    (agrees : Agrees a b) : a.command = b.command := by
  unfold Stack.command
  rw [agrees.commandPending, agrees.unpacker]

theorem Stack.agrees_transmit {Q α : Type*} {inCap outCap : Nat} [AgingPriorityQueue Q]
    (s : Stack Q α inCap outCap) (dataLock : Bool) (written : Written outCap) (logIsPending : Bool) :
    Agrees (s.transmit dataLock written logIsPending) s := by
  unfold transmit
  split
  · obtain ⟨command, unpacking⟩ := s.sending.runTx_keeps written logIsPending
    exact ⟨rfl, rfl, unpacking, command⟩
  · exact ⟨rfl, rfl, rfl, rfl⟩

/-- What happens to the stack: the host puts the next `length` bytes of the frames
it sends in one call, and may have more frames to send; the scope thread notifies
the controller of an event; the stack is run. -/
inductive ThreadEvent (inCap outCap : Nat) where
  | put (frames : List (Frame inCap)) (length : Nat)
  | notify (event : MessageType)
  | runStack (configLock dataLock : Bool) (written : Written outCap) (logIsPending : Bool)

/-- The stack with the frames the host is sending, of the first of which `taken`
bytes are received, the frames accepted so far and what the controller has processed. -/
structure Served (Q α : Type*) (inCap outCap : Nat) where
  stack : Stack Q α inCap outCap
  upcoming : List (Frame inCap)
  taken : Nat
  accepted : List (Frame inCap)
  processed : List (MessageType × Effects α)

/-- The frames that the first `length` bytes of a stream complete, those left, and
how many bytes of the first one left are among them. -/
def completed {cap : Nat} : List (Frame cap) → Nat → List (Frame cap) × List (Frame cap) × Nat
  | [], _ => ([], [], 0)
  | f :: rest, length =>
      if length < f.shape.size then ([], f :: rest, length)
      else
        let later := completed rest (length - f.shape.size)
        (f :: later.1, later.2)

namespace Served
variable {Q α : Type*} {inCap outCap : Nat}

section Steps
variable [AgingPriorityQueue Q] (pb : PbDecode α) (amountOfChannels : Nat)

def create (unpacker : Unpacker α) (queue : Q) (priorities : MessagePriorities) :
    Served Q α inCap outCap :=
  ⟨Stack.create unpacker queue priorities, [], 0, [], []⟩

/-- A call that finds a frame waiting takes nothing, the host puts the same bytes
again later. A call that never returns takes nothing either. -/
def put (s : Served Q α inCap outCap) (upcoming : List (Frame inCap)) (length : Nat) :
    Served Q α inCap outCap :=
  if s.stack.rx.rxDataReady = true then { s with upcoming }
  else
    match putRxData s.stack.rx (((stream upcoming).drop s.taken).take length) with
    | none => { s with upcoming }
    | some (rx, frameValid) =>
        let passed := completed upcoming (s.taken + length)
        { s with
          stack := { s.stack with rx }
          upcoming := passed.2.1
          taken := passed.2.2
          accepted := s.accepted ++ if frameValid = true then passed.1 else [] }

def step (s : Served Q α inCap outCap) : ThreadEvent inCap outCap → Served Q α inCap outCap
  | .put frames length => s.put (s.upcoming ++ frames) length
  | .notify event =>
      { s with stack := { s.stack with sending := { s.stack.sending with
          controller := s.stack.sending.controller.commandPackPushEvent event } } }
  | .runStack configLock dataLock written logIsPending =>
      { s with
        stack := s.stack.runStack pb amountOfChannels configLock dataLock written logIsPending
        processed := s.processed ++ (s.stack.receive pb).processes amountOfChannels configLock }

end Steps

variable (pb : PbDecode α) (amountOfChannels : Nat)

/-- What a frame says by itself. -/
def request (f : Frame inCap) : MessageType × Configuration α := pb.message f.type f.payload

/-- What is to be done for a message. -/
def asks (message : MessageType × Configuration α) : MessageType × Effects α :=
  (message.1, message.2.effects amountOfChannels message.1)

/-- For every accepted frame the controller made the calls and the answers that the
payload of this frame asks for, once and in order, up to those that wait in a slot. -/
def Handled (s : Served Q α inCap outCap) : Prop :=
  ∃ waiting : List (MessageType × Effects α), waiting.length = s.stack.occupied ∧
    s.processed ++ waiting = s.accepted.map fun f => asks amountOfChannels (request pb f)

/-- A frame may be accepted: the command before it has been run, it has a type, its
lists fit the arrays and pass the checks of their command, and the call goes at most one
byte beyond it. -/
def CanAccept (s : Served Q α inCap outCap) (f : Frame inCap) (length : Nat) : Prop :=
  s.stack.commandPending = .seNone ∧ f.type ≠ .seNone ∧
    listed pb f.type f.payload ≤ amountOfChannels ∧ (request pb f).2.Accepted amountOfChannels ∧
      s.taken + length ≤ f.shape.size + 1

instance (s : Served Q α inCap outCap) (f : Frame inCap) (length : Nat) :
    Decidable (s.CanAccept pb amountOfChannels f length) :=
  inferInstanceAs (Decidable (_ ∧ _ ∧ _ ∧ _ ∧ _))

/-- A frame is put only into an empty input buffer, and accepted only when it may be. -/
def Orderly (s : Served Q α inCap outCap) : ThreadEvent inCap outCap → Prop
  | .put frames length => s.stack.rx.rxDataReady = false → ∀ f ∈ (s.upcoming ++ frames).head?,
      (s.taken ≤ 1 → s.stack.rx.input.used = 0) ∧
        (f.shape.size ≤ s.taken + length → s.CanAccept pb amountOfChannels f length)
  | _ => True

instance (s : Served Q α inCap outCap) :
    (event : ThreadEvent inCap outCap) → Decidable (Orderly pb amountOfChannels s event)
  | .put _ _ => inferInstanceAs (Decidable (_ → ∀ _ ∈ _, _))
  | .notify _ => inferInstanceAs (Decidable True)
  | .runStack _ _ _ _ => inferInstanceAs (Decidable True)

end Served

end Builders
