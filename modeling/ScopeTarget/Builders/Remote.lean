import ScopeTarget.Builders.HandledCommands
import ScopeTarget.Builders.HostRequests
import ScopeTarget.Builders.TargetData

/-! A host at the other end of the interface. The target refines a scope next to the host:
one that is handed the requests themselves, and carries them out in their order. -/

namespace Builders
open Core Control Serialisation FramedIO

/-- A request with a payload that fits the input buffer. -/
structure HostFrame (inCap amountOfChannels : Nat) where
  request : HostRequest
  valid : request.Valid amountOfChannels
  fits : request.payload.length ≤ inCap
  representable : request.payload.length < 2 ^ 32

def HostFrame.frame {inCap amountOfChannels : Nat} (f : HostFrame inCap amountOfChannels) : Frame inCap :=
  ⟨f.request.type, f.request.payload, f.fits, f.representable⟩

/-- What the host would like to talk to. -/
structure LocalScope (capacity n : Nat) (α : Type*) where
  data : DataPacking capacity n α
  inbox : List HostRequest
  answers : List MessageType

inductive LocalAction (α : Type*) where
  | accept (request : HostRequest)
  | carryOut (moment : Moment α)
  | proceed (activity : DataActivity α)

namespace LocalScope
variable {capacity n : Nat} {α : Type*}

def create [Zero α] : LocalScope capacity n α := ⟨.create, [], []⟩

/-- The first request is carried out at the given moment, and answered. -/
def step [LT α] [DecidableLT α] [BEq α] (overflow : Overflow) (level : UInt32 → α)
    (s : LocalScope capacity n α) : LocalAction α → LocalScope capacity n α
  | .accept request => { s with inbox := s.inbox ++ [request] }
  | .carryOut moment =>
      match s.inbox with
      | [] => s
      | request :: inbox =>
          let effects := request.effects level
          { data := Run.exec (DataPacking.step overflow) s.data
              (effects.calls.map (ScopeCall.activity moment.now moment.memory))
            inbox := inbox
            answers := s.answers ++ effects.notified }
  | .proceed activity => { s with data := s.data.step overflow activity }

section Step
variable [LT α] [DecidableLT α] [BEq α] {overflow : Overflow} {level : UInt32 → α}

theorem exec_accept (s : LocalScope capacity n α) (requests : List HostRequest) :
    Run.exec (step overflow level) s (requests.map .accept) = { s with inbox := s.inbox ++ requests } := by
  induction requests generalizing s with
  | nil => rw [List.append_nil]; rfl
  | cons request requests ih =>
      rw [List.map_cons, Run.exec_cons, ih, List.append_cons]
      rfl

theorem exec_proceed (s : LocalScope capacity n α) (activities : List (DataActivity α)) :
    Run.exec (step overflow level) s (activities.map .proceed) =
      { s with data := Run.exec (DataPacking.step overflow) s.data activities } := by
  induction activities generalizing s with
  | nil => rfl
  | cons activity activities ih =>
      rw [List.map_cons, Run.exec_cons, ih]
      rfl

end Step

end LocalScope

/-- The driver puts the next bytes that arrive, or something else happens on the target. -/
inductive RemoteEvent (α : Type*) (outCap : Nat) where
  | deliver (length : Nat)
  | run (event : TargetEvent α outCap)

/-- The target with the frames that are still to arrive, `taken` bytes of the first of which
have arrived; the requests whose frames have, how many of them were carried out, and what
was answered. -/
structure Remote (Q α : Type*) (inCap outCap capacity n : Nat) where
  target : Target Q α inCap outCap capacity n
  upcoming : List (HostFrame inCap (n + 1))
  taken : Nat
  accepted : List HostRequest
  carriedOut : Nat
  answers : List MessageType

theorem completed_rest {cap : Nat} (frames : List (Frame cap)) (length : Nat) :
    (completed frames length).2.1 = frames.drop (completed frames length).1.length := by
  induction frames generalizing length with
  | nil => rfl
  | cons f rest ih =>
      unfold completed
      split
      · rfl
      · exact ih (length - f.shape.size)

namespace Remote
variable {Q α : Type*} {inCap outCap capacity n : Nat}

def frames (s : Remote Q α inCap outCap capacity n) : List (Frame inCap) := s.upcoming.map HostFrame.frame

def inbox (s : Remote Q α inCap outCap capacity n) : List HostRequest := s.accepted.drop s.carriedOut

/-- The frames that the next bytes complete. -/
def arriving (s : Remote Q α inCap outCap capacity n) (length : Nat) : List (HostFrame inCap (n + 1)) :=
  s.upcoming.take (completed s.frames (s.taken + length)).1.length

section Steps
variable [AgingPriorityQueue Q]

def create [Zero α] (unpacker : Unpacker α) (queue : Q) (priorities : MessagePriorities)
    (upcoming : List (HostFrame inCap (n + 1))) : Remote Q α inCap outCap capacity n where
  target := .create unpacker queue priorities
  upcoming := upcoming
  taken := 0
  accepted := []
  carriedOut := 0
  answers := []

/-- A call that finds a frame waiting takes nothing, and the bytes are put again later. -/
def deliver (length : Nat) (s : Remote Q α inCap outCap capacity n) :
    Remote Q α inCap outCap capacity n :=
  if s.target.stack.rx.rxDataReady = true then s
  else { s with
    target := s.target.putRxData (((stream s.frames).drop s.taken).take length)
    upcoming := s.upcoming.drop (completed s.frames (s.taken + length)).1.length
    taken := (completed s.frames (s.taken + length)).2.2
    accepted := s.accepted ++ (s.arriving length).map HostFrame.request }

/-- The answer to a command is what is notified while it is run. -/
def answered (s : Remote Q α inCap outCap capacity n) : List MessageType :=
  (s.target.stack.sending.controller.runRx (n + 1) s.target.stack.unpacker).2.1.notified

variable [LT α] [DecidableLT α] [BEq α]

def step (p : Platform α outCap) (s : Remote Q α inCap outCap capacity n) :
    RemoteEvent α outCap → Remote Q α inCap outCap capacity n
  | .deliver length => s.deliver length
  | .run (.runCommandParser moment) => { s with
      target := s.target.step p (.runCommandParser moment)
      carriedOut := if s.target.stack.commandPending = .seNone then s.carriedOut else s.carriedOut + 1
      answers := s.answers ++ s.answered }
  | .run event => { s with target := s.target.step p event }

end Steps

/-- Bytes are put once the frame before them has been decoded, in a call that the offset
covers; a frame is completed once the command before it has been run, and the call goes at
most one byte beyond it. -/
def Orderly (s : Remote Q α inCap outCap capacity n) : RemoteEvent α outCap → Prop
  | .deliver length => s.target.stack.rx.rxDataReady = false →
      length < 2 ^ 32 ∧ s.target.stack.unpackingPending = .seNone ∧
        ∀ f ∈ s.frames.head?, f.shape.size ≤ s.taken + length →
          s.target.stack.commandPending = .seNone ∧ s.taken + length ≤ f.shape.size + 1
  | .run (.putRxData _) => False
  | .run (.runCommandParser _) => s.target.packingPending = .seNone
  | .run (.runScope _) => s.target.packingPending = .seNone
  | .run _ => True

instance (s : Remote Q α inCap outCap capacity n) :
    (event : RemoteEvent α outCap) → Decidable (s.Orderly event)
  | .deliver _ => inferInstanceAs (Decidable (_ → _ ∧ _ ∧ ∀ _ ∈ _, _))
  | .run (.putRxData _) => inferInstanceAs (Decidable False)
  | .run (.runCommandParser _) => inferInstanceAs (Decidable (_ = _))
  | .run (.runScope _) => inferInstanceAs (Decidable (_ = _))
  | .run (.getTxData _) => inferInstanceAs (Decidable True)
  | .run .runCommunicationRx => inferInstanceAs (Decidable True)
  | .run .runUnpacker => inferInstanceAs (Decidable True)
  | .run (.runDataAggregator _) => inferInstanceAs (Decidable True)
  | .run (.runPacker _) => inferInstanceAs (Decidable True)
  | .run .runCommunicationTx => inferInstanceAs (Decidable True)

/-- The scope next to the host. -/
def view (s : Remote Q α inCap outCap capacity n) : LocalScope capacity n α :=
  ⟨s.target.settled, s.inbox, s.answers⟩

def actions [AgingPriorityQueue Q] (s : Remote Q α inCap outCap capacity n) :
    RemoteEvent α outCap → List (LocalAction α)
  | .deliver length =>
      if s.target.stack.rx.rxDataReady = true then []
      else (s.arriving length).map fun f => .accept f.request
  | .run (.runCommandParser moment) =>
      if s.target.stack.commandPending = .seNone then [] else [.carryOut moment]
  | .run event => (s.target.activities event).map .proceed

end Remote

namespace Target
variable {Q α : Type*} {inCap outCap capacity n : Nat} [AgingPriorityQueue Q]

section Scope
variable [LT α] [DecidableLT α] [BEq α]

/-- What the scope does is no business of the receiving side. -/
theorem agrees_act (overflow : Overflow) (t : Target Q α inCap outCap capacity n)
    (activity : DataActivity α) : Stack.Agrees (t.act overflow activity).stack t.stack := by
  unfold act
  dsimp only
  split
  · exact ⟨rfl, rfl, rfl, Controller.commandPending_commandPackPushEvent _ _⟩
  · exact ⟨rfl, rfl, rfl, rfl⟩

theorem agrees_calls (overflow : Overflow) (moment : Moment α) (t : Target Q α inCap outCap capacity n)
    (calls : List (ScopeCall α)) :
    Stack.Agrees (calls.foldl (call overflow moment) t).stack t.stack := by
  induction calls generalizing t with
  | nil => exact ⟨rfl, rfl, rfl, rfl⟩
  | cons c calls ih =>
      have later := ih (t.call overflow moment c)
      have here := t.agrees_act overflow (c.activity moment.now moment.memory)
      exact ⟨later.rx.trans here.rx, later.unpacker.trans here.unpacker,
        later.unpackingPending.trans here.unpackingPending, later.commandPending.trans here.commandPending⟩

end Scope

theorem agrees_runDataAggregator (t : Target Q α inCap outCap capacity n) (logIsPending : Bool) :
    Stack.Agrees (t.runDataAggregator logIsPending).stack t.stack := by
  have kept := Controller.commandPending_runTx t.stack.sending.controller
    (t.stack.sending.serializer.isReady t.stack.sending.tx.output) logIsPending
  unfold runDataAggregator
  dsimp only
  split
  · exact ⟨rfl, rfl, rfl, kept⟩
  · have stack (event : MessageType) : (t.runPackCommand event).stack = t.stack := by
      unfold runPackCommand
      split <;> rfl
    have rx (event : MessageType) : (t.runPackCommand event).stack.rx = t.stack.rx :=
      congrArg Stack.rx (stack event)
    have unpacker (event : MessageType) : (t.runPackCommand event).stack.unpacker = t.stack.unpacker :=
      congrArg Stack.unpacker (stack event)
    exact ⟨rx _, unpacker _, rfl, kept⟩

omit [AgingPriorityQueue Q] in
theorem agrees_runPacker (t : Target Q α inCap outCap capacity n) (p : Platform α outCap)
    (other : Written outCap) : Stack.Agrees (t.runPacker p other).stack t.stack := by
  refine ⟨rfl, rfl, ?_, rfl⟩
  change (Serializer.runTx _ _ _).2.1.unpackingPending = _
  unfold Serializer.runTx
  split <;> rfl

end Target

namespace HostFrame
variable {inCap amountOfChannels : Nat} (f : HostFrame inCap amountOfChannels)

/-- The whole frame is used up by decoding it, into what was asked for. -/
theorem unpack_eq {α : Type*} {pb : PbDecode α} {level : UInt32 → α} (reads : pb.ReadsHost level)
    (unpacker : Unpacker α) :
    let unpacked := NanopbUnpacker.unpack pb (unpacker, stored f.frame) f.request.type
    (if unpacked.1 = true then f.request.type else .seNak) = f.request.type ∧
      NanopbUnpacker.configuration unpacked.2.1 f.request.type = f.request.configuration level ∧
      unpacked.2.2 = .empty := by
  intro unpacked
  have contents : (stored f.frame).contents = f.request.payload := contents_stored f.frame
  have message : pb.message f.request.type (stored f.frame).contents =
      (f.request.type, f.request.configuration level) := by
    rw [contents]
    exact HostRequest.message_eq reads f.valid
  have said : (_, _) = pb.message f.request.type (stored f.frame).contents :=
    NanopbUnpacker.unpack_message pb unpacker (stored f.frame) rfl rfl
  rw [message] at said
  have told : (if unpacked.1 = true then f.request.type else .seNak) = f.request.type :=
    congrArg Prod.fst said
  have configured := congrArg Prod.snd said
  dsimp only at configured
  refine ⟨told, ?_, ?_⟩
  · rw [← configured]
    exact congrArg _ told.symm
  · exact HostRequest.unread reads f.valid contents unpacker

end HostFrame

namespace Remote
variable {Q α : Type*} {inCap outCap capacity n : Nat}

/-- What the controller holds: nothing, or the one request in the inbox. -/
def Held (level : UInt32 → α) (amountOfChannels : Nat) (stack : Stack Q α inCap outCap)
    (inbox : List HostRequest) : Prop :=
  (stack.commandPending = .seNone ∧ inbox = []) ∨
    ∃ r : HostRequest, r.Valid amountOfChannels ∧ stack.commandPending = r.type ∧
      NanopbUnpacker.configuration stack.unpacker r.type = r.configuration level ∧ inbox = [r]

theorem Held.free {level : UInt32 → α} {amountOfChannels : Nat} {stack : Stack Q α inCap outCap}
    {inbox : List HostRequest} (held : Held level amountOfChannels stack inbox)
    (free : stack.commandPending = .seNone) : inbox = [] := by
  rcases held with ⟨-, empty⟩ | ⟨r, -, pending, -, -⟩
  · exact empty
  · exact absurd (pending.symm.trans free) r.typed

section Stages
variable (level : UInt32 → α) (s : Remote Q α inCap outCap capacity n)

/-- No frame waits; the controller may hold the request accepted last. -/
structure Listening : Prop where
  place : ∃ type, s.target.stack.rx = Served.atPlace .empty false type s.frames s.taken ∧
    (2 ≤ s.taken → ∀ f ∈ s.frames.head?, type = f.type)
  unpacking : s.target.stack.unpackingPending = .seNone
  held : Held level (n + 1) s.target.stack s.inbox

/-- The frame accepted last waits in the framer. -/
structure Arrived (last : HostFrame inCap (n + 1)) : Prop where
  place : s.target.stack.rx = Served.atPlace (stored last.frame) true last.request.type s.frames s.taken
  early : s.taken ≤ 1
  unpacking : s.target.stack.unpackingPending = .seNone
  free : s.target.stack.commandPending = .seNone
  held : s.inbox = [last.request]

/-- The frame accepted last is about to be decoded. -/
structure Opened (last : HostFrame inCap (n + 1)) : Prop where
  place : s.target.stack.rx = Served.atPlace (stored last.frame) false .seNone s.frames s.taken
  early : s.taken ≤ 1
  unpacking : s.target.stack.unpackingPending = last.request.type
  free : s.target.stack.commandPending = .seNone
  held : s.inbox = [last.request]

inductive Stage : Prop where
  | listening (listening : Listening level s)
  | arrived (last : HostFrame inCap (n + 1)) (arrived : Arrived s last)
  | opened (last : HostFrame inCap (n + 1)) (opened : Opened s last)

structure Receiving : Prop where
  inside : ∀ f ∈ s.frames.head?, s.taken < f.shape.size
  between : s.frames = [] → s.taken = 0
  stage : Stage level s

/-- What holds between two events. -/
structure Inv [AgingPriorityQueue Q] [CountedAgingPriorityQueue Q] : Prop where
  accounted : s.target.Accounted
  count : s.carriedOut ≤ s.accepted.length
  receiving : Receiving level s

end Stages

section Stage
variable {level : UInt32 → α} {s : Remote Q α inCap outCap capacity n}

/-- What the receiving side takes no part in. -/
theorem Receiving.agrees {after : Remote Q α inCap outCap capacity n} (receiving : Receiving level s)
    (agrees : Stack.Agrees after.target.stack s.target.stack) (upcoming : after.upcoming = s.upcoming)
    (taken : after.taken = s.taken) (inbox : after.inbox = s.inbox) : Receiving level after := by
  have frames : after.frames = s.frames := congrArg (List.map HostFrame.frame) upcoming
  obtain ⟨inside, between, stage⟩ := receiving
  rw [← frames, ← taken] at inside between
  refine ⟨inside, between, ?_⟩
  cases stage with
  | listening listening =>
      obtain ⟨place, unpacking, held⟩ := listening
      unfold Held at held
      rw [← agrees.rx, ← frames, ← taken] at place
      rw [← agrees.unpackingPending] at unpacking
      rw [← agrees.commandPending, ← agrees.unpacker, ← inbox] at held
      exact .listening ⟨place, unpacking, held⟩
  | arrived last arrived =>
      obtain ⟨place, early, unpacking, free, held⟩ := arrived
      rw [← agrees.rx, ← frames, ← taken] at place
      rw [← taken] at early
      exact .arrived last ⟨place, early, agrees.unpackingPending.trans unpacking,
        agrees.commandPending.trans free, inbox.trans held⟩
  | opened last opened =>
      obtain ⟨place, early, unpacking, free, held⟩ := opened
      rw [← agrees.rx, ← frames, ← taken] at place
      rw [← taken] at early
      exact .opened last ⟨place, early, agrees.unpackingPending.trans unpacking,
        agrees.commandPending.trans free, inbox.trans held⟩

theorem Stage.inbox_le_one (stage : Stage level s) : s.inbox.length ≤ 1 := by
  cases stage with
  | listening listening =>
      rcases listening.held with ⟨-, none_⟩ | ⟨r, -, -, -, one⟩
      · rw [none_]
        exact Nat.zero_le 1
      · rw [one]
        exact Nat.le_refl 1
  | arrived last arrived => exact Nat.le_of_eq (congrArg List.length arrived.held)
  | opened last opened => exact Nat.le_of_eq (congrArg List.length opened.held)

end Stage

section Deliver
variable {level : UInt32 → α} {s : Remote Q α inCap outCap capacity n} {length : Nat}

theorem putRxData_of_call {t : Target Q α inCap outCap capacity n} {bytes : List UInt8} {rx : Rx inCap}
    {frameValid : Bool} (called : FramedIO.putRxData t.stack.rx bytes = some (rx, frameValid)) :
    t.putRxData bytes = { t with stack := { t.stack with rx } } := by
  unfold Target.putRxData
  rw [called]

/-- What is left of the frames, and how many bytes of the first one have arrived. -/
theorem deliver_of_call (idle : s.target.stack.rx.rxDataReady = false) {rx : Rx inCap} {frameValid : Bool}
    (called : FramedIO.putRxData s.target.stack.rx (((stream s.frames).drop s.taken).take length) =
      some (rx, frameValid)) :
    (s.deliver length).target.stack = { s.target.stack with rx } ∧
      (s.deliver length).frames = (completed s.frames (s.taken + length)).2.1 ∧
      (s.deliver length).taken = (completed s.frames (s.taken + length)).2.2 := by
  unfold deliver
  rw [if_neg (by rw [idle]; exact Bool.false_ne_true), putRxData_of_call called]
  refine ⟨rfl, ?_, rfl⟩
  rw [completed_rest]
  exact List.map_drop

theorem inbox_deliver (length : Nat) (count : s.carriedOut ≤ s.accepted.length)
    (idle : s.target.stack.rx.rxDataReady = false) :
    (s.deliver length).inbox = s.inbox ++ (s.arriving length).map HostFrame.request := by
  have taken : (s.deliver length).inbox =
      (s.accepted ++ (s.arriving length).map HostFrame.request).drop s.carriedOut := by
    unfold deliver
    rw [if_neg (by rw [idle]; exact Bool.false_ne_true)]
    rfl
  exact taken.trans (List.drop_append_of_le_length count)

/-- A call while the host has nothing to send. -/
theorem receiving_nil (listening : Listening level s)
    (count : s.carriedOut ≤ s.accepted.length) (nil : s.upcoming = []) :
    Receiving level (s.deliver length) := by
  obtain ⟨⟨type, place, -⟩, unpacking, held⟩ := listening
  have idle : s.target.stack.rx.rxDataReady = false := by rw [place, Served.ready_atPlace]
  have none_ : s.frames = [] := congrArg (List.map HostFrame.frame) nil
  have called : FramedIO.putRxData s.target.stack.rx (((stream s.frames).drop s.taken).take length) =
      some (s.target.stack.rx, false) := by
    have bytes : ((stream s.frames).drop s.taken).take length = [] := by
      rw [none_, show stream ([] : List (Frame inCap)) = [] from rfl, List.drop_nil, List.take_nil]
    rw [bytes, place, Served.putRxData_atPlace (by exact Nat.two_pow_pos 32)]
    rfl
  obtain ⟨stack, frames, taken⟩ := deliver_of_call idle called
  have inbox : (s.deliver length).inbox = s.inbox := by
    rw [inbox_deliver length count idle, arriving, nil, List.take_nil, List.map_nil, List.append_nil]
  rw [none_] at frames taken place
  refine ⟨?_, fun _ => taken, .listening ⟨⟨type, ?_, ?_⟩, ?_, ?_⟩⟩
  · rw [frames]
    exact nofun
  · rw [stack, frames]
    exact place
  · rw [frames]
    exact fun _ => nofun
  · rw [Stack.unpackingPending, stack]
    exact unpacking
  · rw [stack, inbox]
    exact held

section Frame
variable {last : HostFrame inCap (n + 1)} {rest : List (HostFrame inCap (n + 1))} {type : MessageType}

/-- The call stays within the first frame. -/
theorem receiving_within (listening : Listening level s) (count : s.carriedOut ≤ s.accepted.length)
    (some_ : s.upcoming = last :: rest)
    (place : s.target.stack.rx = Served.atPlace .empty false type s.frames s.taken)
    (known : 2 ≤ s.taken → type = last.frame.type) (short : length < 2 ^ 32)
    (within : s.taken + length < last.frame.shape.size) :
    Receiving level (s.deliver length) := by
  obtain ⟨-, unpacking, held⟩ := listening
  have idle : s.target.stack.rx.rxDataReady = false := by rw [place, Served.ready_atPlace]
  have framed : s.frames = last.frame :: rest.map HostFrame.frame := congrArg (List.map HostFrame.frame) some_
  have notYet : completed s.frames (s.taken + length) = ([], s.frames, s.taken + length) := by
    rw [framed]
    exact if_pos within
  have called := Served.putRxData_within type (rest.map HostFrame.frame) within
    ((List.length_take_le _ _).trans_lt short)
  rw [← framed, ← place] at called
  obtain ⟨stack, frames, taken⟩ := deliver_of_call idle called
  rw [notYet] at frames taken
  have inbox : (s.deliver length).inbox = s.inbox := by
    rw [inbox_deliver length count idle, arriving, notYet]
    exact List.append_nil _
  refine ⟨?_, ?_, .listening ⟨⟨if s.taken < 2 ∧ 2 ≤ s.taken + length then last.frame.type else type,
    ?_, ?_⟩, ?_, ?_⟩⟩
  · rw [frames, taken, framed]
    intro f member
    obtain rfl := Option.some.inj member
    exact within
  · rw [frames, framed]
    exact nofun
  · rw [stack, frames, taken]
  · rw [frames, taken, framed]
    intro late f member
    obtain rfl := Option.some.inj member
    change 2 ≤ s.taken + length at late
    split
    · rfl
    · rename_i notCrossed
      exact known (by omega)
  · rw [Stack.unpackingPending, stack]
    exact unpacking
  · rw [stack, inbox]
    exact held

/-- The call completes the first frame. -/
theorem receiving_across (receiving : Receiving level s) (listening : Listening level s)
    (count : s.carriedOut ≤ s.accepted.length) (some_ : s.upcoming = last :: rest)
    (place : s.target.stack.rx = Served.atPlace .empty false type s.frames s.taken)
    (known : 2 ≤ s.taken → type = last.frame.type) (short : length < 2 ^ 32)
    (across : last.frame.shape.size ≤ s.taken + length)
    (free : s.target.stack.commandPending = .seNone)
    (barely : s.taken + length ≤ last.frame.shape.size + 1) : Receiving level (s.deliver length) := by
  obtain ⟨-, unpacking, held⟩ := listening
  have idle : s.target.stack.rx.rxDataReady = false := by rw [place, Served.ready_atPlace]
  have framed : s.frames = last.frame :: rest.map HostFrame.frame := congrArg (List.map HostFrame.frame) some_
  have inside : s.taken < last.frame.shape.size := by
    apply receiving.inside
    rw [framed]
    exact rfl
  obtain ⟨called, one, early, room, between⟩ :=
    Served.putRxData_across (rest.map HostFrame.frame) inside known across barely
      ((List.length_take_le _ _).trans_lt short)
  rw [← framed] at called one early room between
  rw [← place] at called
  obtain ⟨stack, frames, taken⟩ := deliver_of_call idle called
  have inbox : (s.deliver length).inbox = [last.request] := by
    rw [inbox_deliver length count idle, held.free free, arriving, one, some_]
    rfl
  refine ⟨?_, ?_, .arrived last ⟨?_, ?_, ?_, ?_, inbox⟩⟩
  · rw [frames, taken]
    exact room
  · rw [frames, taken]
    exact between
  · rw [stack, frames, taken]
    rfl
  · rw [taken]
    exact early
  · rw [Stack.unpackingPending, stack]
    exact unpacking
  · rw [Stack.commandPending, stack]
    exact free

end Frame

theorem receiving_deliver (receiving : Receiving level s) (count : s.carriedOut ≤ s.accepted.length)
    (orderly : s.Orderly (.deliver length : RemoteEvent α outCap)) : Receiving level (s.deliver length) := by
  cases receiving.stage with
  | arrived last arrived =>
      have told : s.target.stack.rx.rxDataReady = true := by rw [arrived.place, Served.ready_atPlace]
      have refused : s.deliver length = s := if_pos told
      rw [refused]
      exact receiving
  | opened last opened =>
      have idle : s.target.stack.rx.rxDataReady = false := by rw [opened.place, Served.ready_atPlace]
      exact absurd (opened.unpacking.symm.trans (orderly idle).2.1) last.request.typed
  | listening listening =>
      obtain ⟨type, place, typed⟩ := listening.place
      have idle : s.target.stack.rx.rxDataReady = false := by rw [place, Served.ready_atPlace]
      obtain ⟨short, -, mayComplete⟩ := orderly idle
      cases here : s.upcoming with
      | nil => exact receiving_nil listening count here
      | cons last rest =>
          have first : last.frame ∈ s.frames.head? := by
            rw [frames, here]
            exact rfl
          have known : 2 ≤ s.taken → type = last.frame.type := fun late => typed late last.frame first
          by_cases within : s.taken + length < last.frame.shape.size
          · exact receiving_within listening count here place known short within
          · have across : last.frame.shape.size ≤ s.taken + length := Nat.not_lt.mp within
            obtain ⟨free, barely⟩ := mayComplete last.frame first across
            exact receiving_across receiving listening count here place known short across free barely

end Deliver

section Receive
variable {level : UInt32 → α} {s : Remote Q α inCap outCap capacity n}

theorem runCommunicationRx_of_idle {stack : Stack Q α inCap outCap} (idle : stack.rx.rxDataReady = false) :
    stack.runCommunicationRx = stack := by
  have nothing : runRx stack.rx = (stack.rx, none) := if_pos idle
  unfold Stack.runCommunicationRx
  rw [nothing]

theorem runUnpacker_of_idle (pb : PbDecode α) {stack : Stack Q α inCap outCap}
    (nothing : stack.unpackingPending = .seNone) : stack.runUnpacker pb = stack := by
  have parsed : stack.sending.serializer.runRx (NanopbUnpacker.unpack pb)
      (stack.unpacker, stack.rx.input) = (none, stack.sending.serializer, (stack.unpacker, stack.rx.input)) :=
    if_pos nothing
  unfold Stack.runUnpacker
  rw [parsed]

/-- A frame that waits is handed on to the serializer. -/
theorem receiving_runCommunicationRx (receiving : Receiving level s) :
    Receiving level { s with target := { s.target with stack := s.target.stack.runCommunicationRx } } := by
  refine ⟨receiving.inside, receiving.between, ?_⟩
  cases receiving.stage with
  | listening listening =>
      obtain ⟨type, place, -⟩ := listening.place
      rw [runCommunicationRx_of_idle (by rw [place, Served.ready_atPlace])]
      exact .listening listening
  | opened last opened =>
      rw [runCommunicationRx_of_idle (by rw [opened.place, Served.ready_atPlace])]
      exact .opened last opened
  | arrived last arrived =>
      obtain ⟨place, early, unpacking, free, held⟩ := arrived
      have told : ¬ s.target.stack.rx.rxDataReady = false := by
        rw [place, Served.ready_atPlace]
        decide
      have received : runRx s.target.stack.rx =
          (clear s.target.stack.rx, some s.target.stack.rx.rxType) := if_neg told
      have stack : s.target.stack.runCommunicationRx = { s.target.stack with
          rx := Served.atPlace (stored last.frame) false .seNone s.frames s.taken
          sending := { s.target.stack.sending with
            serializer := s.target.stack.sending.serializer.updateUnpacker last.request.type } } := by
        unfold Stack.runCommunicationRx
        rw [received, place, Served.clear_atPlace, Served.type_atPlace]
      rw [stack]
      exact .opened last ⟨rfl, early, rfl, free, held⟩

/-- A frame that is decoded is a command of the controller from then on. -/
theorem receiving_runUnpacker {pb : PbDecode α} (reads : pb.ReadsHost level) (receiving : Receiving level s) :
    Receiving level { s with target := { s.target with stack := s.target.stack.runUnpacker pb } } := by
  refine ⟨receiving.inside, receiving.between, ?_⟩
  cases receiving.stage with
  | listening listening =>
      rw [runUnpacker_of_idle pb listening.unpacking]
      exact .listening listening
  | arrived last arrived =>
      rw [runUnpacker_of_idle pb arrived.unpacking]
      exact .arrived last arrived
  | opened last opened =>
      obtain ⟨place, early, unpacking, free, held⟩ := opened
      have input : s.target.stack.rx.input = stored last.frame := by
        rw [place, Served.input_atPlace early]
      obtain ⟨told, configured, unread⟩ := last.unpack_eq reads s.target.stack.unpacker
      have pending : s.target.stack.sending.serializer.unpackingPending = last.request.type := unpacking
      have typed : s.target.stack.sending.serializer.unpackingPending ≠ .seNone := by
        rw [pending]
        exact last.request.typed
      have parsed := runRx_pending pb s.target.stack.sending.serializer typed
        (s.target.stack.unpacker, stored last.frame)
      dsimp only at parsed
      rw [pending, told] at parsed
      unfold Stack.runUnpacker
      dsimp only
      rw [input, parsed]
      dsimp only
      rw [unread]
      refine .listening ⟨⟨.seNone, ?_, fun late => absurd early (Nat.not_le.mpr late)⟩, rfl, ?_⟩
      · change { s.target.stack.rx with input := .empty } = _
        rw [place, Served.atPlace_input early]
        rfl
      · exact .inr ⟨last.request, last.valid, rfl, configured, held⟩

/-- The one request in the inbox is the command that is run. -/
theorem Receiving.pending (receiving : Receiving level s) (busy : s.target.stack.commandPending ≠ .seNone) :
    Listening level s ∧ ∃ r : HostRequest, r.Valid (n + 1) ∧ s.target.stack.commandPending = r.type ∧
      NanopbUnpacker.configuration s.target.stack.unpacker r.type = r.configuration level ∧
        s.inbox = [r] := by
  cases receiving.stage with
  | arrived last arrived => exact absurd arrived.free busy
  | opened last opened => exact absurd opened.free busy
  | listening listening => exact ⟨listening, listening.held.resolve_left fun none_ => busy none_.1⟩

end Receive

section Command
variable [AgingPriorityQueue Q]

/-- Without a command, nothing is run. -/
theorem runRx_of_free {controller : Controller Q α} (free : controller.commandPending = .seNone)
    (amountOfChannels : Nat) (unpacker : Unpacker α) :
    controller.runRx amountOfChannels unpacker = (false, ⟨[], []⟩, controller) := if_pos free

variable [LT α] [DecidableLT α] [BEq α] {level : UInt32 → α} {s : Remote Q α inCap outCap capacity n}
  {p : Platform α outCap} {moment : Moment α}

theorem inbox_carryOut (busy : s.target.stack.commandPending ≠ .seNone) :
    (s.step p (.run (.runCommandParser moment))).inbox = s.inbox.tail := by
  change s.accepted.drop (if _ then _ else _) = _
  rw [if_neg busy, inbox, List.tail_drop]

theorem receiving_runCommandParser (p : Platform α outCap) (moment : Moment α) (receiving : Receiving level s) :
    Receiving level (s.step p (.run (.runCommandParser moment))) := by
  have agrees := s.target.agrees_calls p.overflow moment
    (s.target.stack.sending.controller.runRx (n + 1) s.target.stack.unpacker).2.1.calls
  have free : (s.target.step p (.runCommandParser moment)).stack.commandPending = .seNone :=
    Controller.commandPending_runRx _ _ _
  by_cases busy : s.target.stack.commandPending = .seNone
  · have inbox : (s.step p (.run (.runCommandParser moment))).inbox = s.inbox := by
      change s.accepted.drop (if _ then _ else _) = _
      rw [if_pos busy]
      rfl
    exact receiving.agrees ⟨agrees.rx, agrees.unpacker, agrees.unpackingPending, free.trans busy.symm⟩ rfl rfl
      inbox
  · obtain ⟨⟨⟨type, place, typed⟩, unpacking, -⟩, r, -, -, -, held⟩ := receiving.pending busy
    have empty : (s.step p (.run (.runCommandParser moment))).inbox = [] := by
      rw [inbox_carryOut busy, held]
      rfl
    refine ⟨receiving.inside, receiving.between, .listening ⟨⟨type, ?_, typed⟩, ?_, .inl ⟨free, empty⟩⟩⟩
    · exact agrees.rx.trans place
    · exact agrees.unpackingPending.trans unpacking

end Command

section Refinement
variable {level : UInt32 → α} {s : Remote Q α inCap outCap capacity n}

theorem orderly_target {event : TargetEvent α outCap} (orderly : s.Orderly (.run event)) :
    s.target.Orderly event := by
  cases event with
  | putRxData bytes => exact orderly.elim
  | runCommandParser moment => exact orderly
  | runScope moment => exact orderly
  | _ => trivial

variable [AgingPriorityQueue Q] [CountedAgingPriorityQueue Q] [LT α] [DecidableLT α] [BEq α]
  {p : Platform α outCap}

theorem follows_deliver (inv : Inv level s) {length : Nat}
    (orderly : s.Orderly (.deliver length : RemoteEvent α outCap)) :
    Inv level (s.deliver length) ∧ (s.deliver length).view =
      Run.exec (LocalScope.step p.overflow level) s.view
        (s.actions (.deliver length : RemoteEvent α outCap)) := by
  obtain ⟨accounted, count, receiving⟩ := inv
  have received := receiving_deliver receiving count orderly
  have acted : s.actions (.deliver length : RemoteEvent α outCap) =
    if s.target.stack.rx.rxDataReady = true then []
    else (s.arriving length).map fun f => .accept f.request := rfl
  by_cases ready : s.target.stack.rx.rxDataReady = true
  · have refused : s.deliver length = s := if_pos ready
    rw [refused, acted, if_pos ready]
    exact ⟨⟨accounted, count, receiving⟩, rfl⟩
  · have inbox := inbox_deliver length count (Bool.eq_false_iff.mpr ready)
    obtain ⟨still, settled⟩ :=
      s.target.accounted_putRxData accounted (((stream s.frames).drop s.taken).take length)
    have delivered : (s.deliver length).target.Accounted ∧
        s.carriedOut ≤ (s.deliver length).accepted.length ∧
          (s.deliver length).view = { s.view with inbox := (s.deliver length).inbox } := by
      unfold view deliver
      rw [if_neg ready]
      refine ⟨still, ?_, congrArg (fun data => LocalScope.mk data _ _) settled⟩
      exact count.trans (List.sublist_append_left _ _).length_le
    have requests : (s.arriving length).map (fun f => LocalAction.accept f.request) =
        ((s.arriving length).map HostFrame.request).map (LocalAction.accept (α := α)) := by
      rw [List.map_map]
      rfl
    have counted : (s.deliver length).carriedOut = s.carriedOut := by
      unfold deliver
      rw [if_neg ready]
    refine ⟨⟨delivered.1, counted ▸ delivered.2.1, received⟩, ?_⟩
    rw [delivered.2.2, acted, if_neg ready, requests, LocalScope.exec_accept, inbox]
    rfl

/-- What the host and its requests take no part in. -/
theorem follows_run (inv : Inv level s) {event : TargetEvent α outCap} (orderly : s.Orderly (.run event))
    (ran : s.step p (.run event) = { s with target := s.target.step p event })
    (acted : s.actions (.run event) = (s.target.activities event).map .proceed)
    (receiving : Receiving level { s with target := s.target.step p event }) :
    Inv level (s.step p (.run event)) ∧ (s.step p (.run event)).view =
      Run.exec (LocalScope.step p.overflow level) s.view (s.actions (.run event)) := by
  have accounted := (Target.simulates_data p).kept s.target event inv.accounted (orderly_target orderly)
  have settled := (Target.simulates_data p).follows s.target event inv.accounted (orderly_target orderly)
  rw [ran, acted, LocalScope.exec_proceed]
  exact ⟨⟨accounted, inv.count, receiving⟩, congrArg (fun data => LocalScope.mk data _ _) settled⟩

theorem follows_runCommandParser (inv : Inv level s) {moment : Moment α}
    (orderly : s.Orderly (.run (.runCommandParser moment) : RemoteEvent α outCap)) :
    Inv level (s.step p (.run (.runCommandParser moment))) ∧
      (s.step p (.run (.runCommandParser moment))).view =
        Run.exec (LocalScope.step p.overflow level) s.view
          (s.actions (.run (.runCommandParser moment) : RemoteEvent α outCap)) := by
  obtain ⟨accounted, settled⟩ :=
    Target.accounted_runCommandParser p.overflow inv.accounted orderly moment
  have received := receiving_runCommandParser p moment inv.receiving
  have acted : s.actions (.run (.runCommandParser moment) : RemoteEvent α outCap) =
    if s.target.stack.commandPending = .seNone then [] else [.carryOut moment] := rfl
  have counted : (s.step p (.run (.runCommandParser moment))).carriedOut =
    if s.target.stack.commandPending = .seNone then s.carriedOut else s.carriedOut + 1 := rfl
  have after : (s.step p (.run (.runCommandParser moment))).view =
    ⟨(s.target.runCommandParser p.overflow moment).settled,
      (s.step p (.run (.runCommandParser moment))).inbox, s.answers ++ s.answered⟩ := rfl
  unfold Target.activities at settled
  by_cases free : s.target.stack.commandPending = .seNone
  · have nothing := runRx_of_free free (n + 1) s.target.stack.unpacker
    have inbox : (s.step p (.run (.runCommandParser moment))).inbox = s.inbox := by
      rw [inbox, counted, if_pos free]
      rfl
    rw [nothing] at settled
    refine ⟨⟨accounted, ?_, received⟩, ?_⟩
    · rw [counted, if_pos free]
      exact inv.count
    · rw [after, acted, if_pos free, settled, inbox, answered, nothing, List.append_nil]
      rfl
  · obtain ⟨-, r, valid, pending, configured, held⟩ := inv.receiving.pending free
    have effects := HostRequest.effects_runRx valid pending configured
    rw [effects] at settled
    refine ⟨⟨accounted, ?_, received⟩, ?_⟩
    · rw [counted, if_neg free]
      have waits : 0 < s.inbox.length := by
        rw [held]
        exact Nat.one_pos
      rw [inbox, List.length_drop] at waits
      exact Nat.lt_of_sub_pos waits
    · rw [after, acted, if_neg free, settled, inbox_carryOut free, answered, effects]
      unfold view
      rw [held]
      rfl

/-- One event on the target is a run of the scope next to the host. -/
theorem simulates_local (reads : p.decode.ReadsHost level) : Run.Simulates (step p)
    (LocalScope.step p.overflow level) Orderly (fun s : Remote Q α inCap outCap capacity n => Inv level s)
    view actions := by
  have both (s : Remote Q α inCap outCap capacity n) (event : RemoteEvent α outCap) (inv : Inv level s)
      (orderly : s.Orderly event) : Inv level (s.step p event) ∧
        (s.step p event).view = Run.exec (LocalScope.step p.overflow level) s.view (s.actions event) := by
    cases event with
    | deliver length => exact follows_deliver inv orderly
    | run event =>
        have aside (agrees : Stack.Agrees (s.target.step p event).stack s.target.stack) :
            Receiving level { s with target := s.target.step p event } :=
          inv.receiving.agrees agrees rfl rfl rfl
        cases event with
        | putRxData bytes => exact orderly.elim
        | getTxData length => exact follows_run inv orderly rfl rfl (aside ⟨rfl, rfl, rfl, rfl⟩)
        | runCommunicationRx =>
            exact follows_run inv orderly rfl rfl (receiving_runCommunicationRx inv.receiving)
        | runUnpacker => exact follows_run inv orderly rfl rfl (receiving_runUnpacker reads inv.receiving)
        | runCommandParser moment => exact follows_runCommandParser inv orderly
        | runScope moment => exact follows_run inv orderly rfl rfl (aside (s.target.agrees_act _ _))
        | runDataAggregator logIsPending =>
            exact follows_run inv orderly rfl rfl (aside (s.target.agrees_runDataAggregator logIsPending))
        | runPacker other => exact follows_run inv orderly rfl rfl (aside (s.target.agrees_runPacker p other))
        | runCommunicationTx => exact follows_run inv orderly rfl rfl (aside ⟨rfl, rfl, rfl, rfl⟩)
  exact ⟨fun s event inv ok => (both s event inv ok).1, fun s event inv ok => (both s event inv ok).2⟩

omit [CountedAgingPriorityQueue Q] in
/-- Every request that was sent has been accepted or is still to arrive. -/
theorem requests_step (s : Remote Q α inCap outCap capacity n) (event : RemoteEvent α outCap) :
    (s.step p event).accepted ++ (s.step p event).upcoming.map HostFrame.request =
      s.accepted ++ s.upcoming.map HostFrame.request := by
  cases event with
  | deliver length =>
      change (s.deliver length).accepted ++ (s.deliver length).upcoming.map _ = _
      unfold deliver
      split
      · rfl
      · dsimp only
        rw [List.append_assoc, arriving, ← List.map_append, List.take_append_drop]
  | run event => cases event <;> rfl

omit [LT α] [DecidableLT α] [BEq α] in
theorem inv_create [Zero α] {queue : Q} (empty : CountedAgingPriorityQueue.count queue .scData = 0)
    (unpacker : Unpacker α) (priorities : MessagePriorities) (upcoming : List (HostFrame inCap (n + 1))) :
    Inv level (create unpacker queue priorities upcoming : Remote Q α inCap outCap capacity n) where
  accounted := Target.accounted_create empty unpacker priorities
  count := Nat.le_refl 0
  receiving := by
    have place : (createRx : Rx inCap) = Served.atPlace .empty false .seNone
        (upcoming.map HostFrame.frame) 0 := by
      cases upcoming with
      | nil => rfl
      | cons f rest => rfl
    exact ⟨fun f _ => Shape.size_pos f.shape, fun _ => rfl,
      .listening ⟨⟨.seNone, place, fun late => absurd late (by decide : ¬ 2 ≤ 0)⟩, rfl, .inl ⟨rfl, rfl⟩⟩⟩

end Refinement

section Run

/-- A level is the integer of the same bits. -/
def level (bits : UInt32) : Int := bits.toNat

/-- nanopb for the messages of a host. -/
def hostOnly : PbDecode Int where
  evPoll bytes := match Protobuf.readMessage NanopbUnpacker.mergeNumber 0 bytes with
    | some timestamp => .success timestamp
    | none => .failure bytes.length 0
  cfRunning bytes := match Protobuf.readMessage NanopbUnpacker.mergeRunning [] bytes with
    | some channels => .success channels
    | none => .failure bytes.length []
  cfTrigger bytes := match Protobuf.readMessage NanopbUnpacker.mergeTrigger ⟨0, false, 0, 0⟩ bytes with
    | some config => .success ⟨level config.level, config.edge, config.mode, config.channelId⟩
    | none => .failure bytes.length ⟨0, false, 0, 0⟩
  cfTInc bytes := match Protobuf.readMessage NanopbUnpacker.mergeNumber 0 bytes with
    | some increment => .success increment
    | none => .failure bytes.length 0
  cfAddr bytes := match Protobuf.readMessage NanopbUnpacker.mergeAddresses [] bytes with
    | some channels => .success channels
    | none => .failure bytes.length []

theorem reads_hostOnly : hostOnly.ReadsHost level where
  address entries channels read := by
    unfold hostOnly
    dsimp only
    rw [read]
  running entries channels read := by
    unfold hostOnly
    dsimp only
    rw [read]
  trigger config value read := by
    unfold hostOnly
    dsimp only
    rw [read]
  tInc increment value read := by
    unfold hostOnly
    dsimp only
    rw [read]
  poll timestamp value read := by
    unfold hostOnly
    dsimp only
    rw [read]

def platform : Platform Int 64 := ⟨.reject, hostOnly, Logging.wholeMessages, fun _ => 0⟩

/-- A host sets the increment and clears the scope. -/
def asks : List (HostFrame 64 1) :=
  [⟨.configure (.tInc 5), trivial, by decide, by decide⟩, ⟨.clear, trivial, by decide, by decide⟩]

def before : Remote (List MessageType) Int 64 64 1 0 :=
  create ⟨0, [], [], ⟨0, false, 0, 0⟩, 0⟩ [] ⟨2, 3, 4⟩ asks

/-- The second frame begins in the call that completes the first. -/
def chunks : List (RemoteEvent Int 64) :=
  let moment : Moment Int := ⟨0, fun _ _ => 0⟩
  [.deliver 4, .run (.runScope moment), .deliver 8, .run .runCommunicationRx, .run .runUnpacker,
    .run (.runCommandParser moment), .deliver 9, .run .runCommunicationRx, .run .runUnpacker,
    .run (.runCommandParser moment)]

example : (Run.exec (step platform) before chunks).answers = [.seAck, .seAck] := by decide

end Run

end Remote

end Builders
