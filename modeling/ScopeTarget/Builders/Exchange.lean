import ScopeTarget.Builders.Draining
import ScopeTarget.Builders.Remote
import ScopeTarget.Communication.RoundTrip

/-! Requests and answers. A host that waits for each answer before it asks again gets one
frame for each request, in the iteration in which the request arrives. -/

namespace Control

/-- A queue that was empty takes what is put into it. -/
class AcceptingAgingPriorityQueue (Q : Type*) [AgingPriorityQueue Q]
    [ExactAgingPriorityQueue Q] : Prop where
  events_push : ∀ {q : Q} (event : MessageType) (priority : Nat),
    AgingPriorityQueue.empty q = true →
      ExactAgingPriorityQueue.events (AgingPriorityQueue.push q event priority) = {event}

instance : AcceptingAgingPriorityQueue (List MessageType) where
  events_push {events} event priority empty := by
    obtain rfl : events = [] := List.isEmpty_iff.mp empty
    rfl

namespace Controller
variable {Q α : Type*} [AgingPriorityQueue Q] [ExactAgingPriorityQueue Q]
  [AcceptingAgingPriorityQueue Q]
open AgingPriorityQueue ExactAgingPriorityQueue

/-- An answer that is alone in the queue is the next to come out. -/
theorem pop_answer (self : Controller Q α) (nothing : empty self.queue = true) {answer : MessageType}
    (answers : answer = .seAck ∨ answer = .scAnnounce ∨ answer = .scDetect) :
    let queue := (self.commandPackPushEvent answer).queue
    empty queue = false ∧ (pop queue).1 = some answer ∧ empty (pop queue).2 = true := by
  obtain ⟨priority, pushed⟩ : ∃ priority, (self.commandPackPushEvent answer).queue =
      push self.queue answer priority := by
    rcases answers with rfl | rfl | rfl
    · exact ⟨_, rfl⟩
    · exact ⟨_, rfl⟩
    · exact ⟨_, rfl⟩
  intro queue
  have alone : events queue = {answer} := by
    change events (self.commandPackPushEvent answer).queue = _
    rw [pushed]
    exact AcceptingAgingPriorityQueue.events_push answer priority nothing
  have some_ : empty queue = false := by
    rw [Bool.eq_false_iff]
    intro none_
    rw [empty_iff, alone] at none_
    exact Multiset.singleton_ne_zero answer none_
  obtain ⟨event, popped, split⟩ := pop_exact some_
  rw [alone, Multiset.singleton_eq_cons_iff] at split
  obtain ⟨rfl, rest⟩ := split
  exact ⟨some_, popped, empty_iff.mpr rest⟩

end Controller

end Control

namespace Builders
open Core Control Serialisation FramedIO

namespace HostRequest
variable {Q α : Type*} [AgingPriorityQueue Q]

/-- One message at most is the answer, and it is none with data. -/
theorem notified_cases (r : HostRequest) (wanted : r ≠ .refuse) (level : UInt32 → α) :
    (r.effects level).notified = [] ∨ ∃ answer, (r.effects level).notified = [answer] ∧
      (answer = .seAck ∨ answer = .scAnnounce ∨ answer = .scDetect) := by
  cases r with
  | configure command =>
      right
      cases command with
      | address entries => exact ⟨.seAck, rfl, .inl rfl⟩
      | running entries => exact ⟨.seAck, rfl, .inl rfl⟩
      | trigger config => exact ⟨.seAck, rfl, .inl rfl⟩
      | tInc increment => exact ⟨.seAck, rfl, .inl rfl⟩
      | poll timestamp => exact ⟨.seAck, rfl, .inl rfl⟩
  | transmit => exact .inl rfl
  | clear => exact .inr ⟨.seAck, rfl, .inl rfl⟩
  | announce => exact .inr ⟨.scAnnounce, rfl, .inr (.inl rfl)⟩
  | detect => exact .inr ⟨.scDetect, rfl, .inr (.inr rfl)⟩
  | acknowledge => exact .inl rfl
  | refuse => exact absurd rfl wanted

theorem type_ne_seNak {r : HostRequest} (wanted : r ≠ .refuse) : r.type ≠ .seNak := by
  cases r with
  | configure command =>
      cases command with
      | address entries => exact (by decide : MessageType.cfAddr ≠ .seNak)
      | running entries => exact (by decide : MessageType.cfRunning ≠ .seNak)
      | trigger config => exact (by decide : MessageType.cfTrigger ≠ .seNak)
      | tInc increment => exact (by decide : MessageType.cfTInc ≠ .seNak)
      | poll timestamp => exact (by decide : MessageType.evPoll ≠ .seNak)
  | refuse => exact absurd rfl wanted
  | _ => decide

theorem unlocks (r : HostRequest) : Controller.messageCanUnlockAckLock r.type = true := by
  cases r with
  | configure command =>
      cases command with
      | address entries => rfl
      | running entries => rfl
      | trigger config => rfl
      | tInc increment => rfl
      | poll timestamp => rfl
  | _ => rfl

/-- What the request leaves in the controller. -/
theorem runRx_eq {amountOfChannels : Nat} {r : HostRequest} (valid : r.Valid amountOfChannels)
    (wanted : r ≠ .refuse) {level : UInt32 → α} {unpacker : Unpacker α} {self : Controller Q α}
    (pending : self.commandPending = r.type)
    (held : NanopbUnpacker.configuration unpacker r.type = r.configuration level) :
    ∃ commands, (self.runRx amountOfChannels unpacker).2.2 =
      { (r.effects level).notified.foldl Controller.commandPackPushEvent self with
        waitForAck := false, commands := commands, commandPending := .seNone } := by
  have effects := effects_runRx valid pending held
  have typed : self.commandPending ≠ .seNone := pending ▸ r.typed
  have other : self.commandPending ≠ .seNak := pending ▸ type_ne_seNak wanted
  unfold Controller.runRx at effects ⊢
  rw [if_neg typed, if_neg other] at effects ⊢
  dsimp only at effects ⊢
  rw [effects, pending, r.unlocks]
  exact ⟨_, rfl⟩

end HostRequest

namespace Target
variable {Q α : Type*} {inCap outCap capacity n : Nat}

section Receiving
variable {t : Target Q α inCap outCap capacity n}

/-- A frame that waits keeps the receiver closed. -/
theorem putRxData_of_ready (ready : t.stack.rx.rxDataReady = true) (bytes : List UInt8) :
    t.putRxData bytes = t := by
  have refused : FramedIO.putRxData t.stack.rx bytes = some (t.stack.rx, false) := if_pos ready
  rw [Remote.putRxData_of_call refused]

variable [AgingPriorityQueue Q] [LT α] [DecidableLT α] [BEq α] (p : Platform α outCap)

theorem put_closed (ready : t.stack.rx.rxDataReady = true) (chunks : List (List UInt8)) :
    Run.exec (step p) t (chunks.map .putRxData) = t := by
  induction chunks with
  | nil => rfl
  | cons chunk chunks ih =>
      rw [List.map_cons, Run.exec_cons]
      change Run.exec (step p) (t.putRxData chunk) _ = t
      rw [putRxData_of_ready ready]
      exact ih

/-- However the rest of a frame is cut, it is in the receiver behind the last chunk. -/
theorem put_chunks {f : Frame inCap} {type : MessageType} {taken : Nat} (inside : taken < f.shape.size)
    (known : 2 ≤ taken → type = f.type) (place : t.stack.rx = midway .empty false type f taken)
    {chunks : List (List UInt8)} (whole : chunks.flatten = f.encode.drop taken)
    (shorts : ∀ chunk ∈ chunks, chunk.length < 2 ^ 32) :
    Run.exec (step p) t (chunks.map .putRxData) =
      { t with stack := { t.stack with rx := FramedIO.waiting (stored f) true f.type } } := by
  induction chunks generalizing t type taken with
  | nil =>
      have length := congrArg List.length whole
      rw [List.flatten_nil, List.length_nil, List.length_drop, Frame.length_encode] at length
      omega
  | cons chunk chunks ih =>
      rw [List.flatten_cons] at whole
      rw [List.forall_mem_cons] at shorts
      have here : chunk <+: f.encode.drop taken := ⟨chunks.flatten, whole⟩
      rw [List.map_cons, Run.exec_cons]
      change Run.exec (step p) (t.putRxData chunk) _ = _
      by_cases within : taken + chunk.length < f.shape.size
      · have size : f.shape.size = f.payload.length + 9 := Nat.add_comm _ _
        have inFrame : ∀ i, taken ≤ i → i < taken + chunk.length → InFrame .empty f i :=
          fun i _ high => .inr (.inr ⟨rfl, by omega⟩)
        have called := putRxData_midway type f taken shorts.1
        rw [feed_midway inFrame false type false here, ← place] at called
        rw [Remote.putRxData_of_call called]
        have rest : chunks.flatten = f.encode.drop (taken + chunk.length) := by
          rw [← List.drop_drop, ← whole, List.drop_left]
        refine ih within ?_ rfl rest shorts.2
        intro late
        split
        · rfl
        · rename_i same
          exact known (by omega)
      · have all : chunk = f.encode.drop taken := by
          refine here.eq_of_length_le ?_
          rw [List.length_drop, Frame.length_encode]
          omega
        have called := putRxData_midway type f taken shorts.1
        have same : (if taken < 2 then f.type else type) = f.type := by
          split
          · rfl
          · exact known (by omega)
        rw [all, feed_midway_end inside false type false, same, ← place, ← all] at called
        rw [Remote.putRxData_of_call called]
        exact put_closed p rfl chunks

/-- The frame is taken from the receiver and decoded: the controller has the request. -/
theorem receives {level : UInt32 → α} (reads : p.decode.ReadsHost level) (f : HostFrame inCap (n + 1))
    (unpacking : t.stack.unpackingPending = .seNone)
    (place : t.stack.rx = FramedIO.waiting (stored f.frame) true f.frame.type) :
    ∃ unpacker, NanopbUnpacker.configuration unpacker f.request.type = f.request.configuration level ∧
      Run.exec (step p) t [.runCommunicationRx, .runUnpacker] = { t with stack := {
        rx := FramedIO.waiting .empty false .seNone
        unpacker := unpacker
        sending := { t.stack.sending with
          controller := t.stack.sending.controller.commandUpdate f.request.type } } } := by
  obtain ⟨told, configured, unread⟩ := f.unpack_eq reads t.stack.unpacker
  have received : runRx t.stack.rx =
      let rx : Rx inCap := FramedIO.waiting (stored f.frame) false .seNone
      (rx, some f.request.type) := by
    rw [place]
    rfl
  have handed : t.stack.runCommunicationRx = { t.stack with
      rx := FramedIO.waiting (stored f.frame) false .seNone
      sending := { t.stack.sending with
        serializer := t.stack.sending.serializer.updateUnpacker f.request.type } } := by
    unfold Stack.runCommunicationRx
    rw [received]
  have parsed := runRx_pending p.decode (t.stack.sending.serializer.updateUnpacker f.request.type)
    f.request.typed (t.stack.unpacker, stored f.frame)
  have same : { t.stack.sending.serializer.updateUnpacker f.request.type with unpackingPending := .seNone } =
      t.stack.sending.serializer := by
    rw [← unpacking]
    rfl
  have pending : (t.stack.sending.serializer.updateUnpacker f.request.type).unpackingPending =
      f.request.type := rfl
  dsimp only at parsed
  rw [same, pending, told] at parsed
  refine ⟨_, configured, ?_⟩
  rw [Run.exec_cons, Run.exec_cons, Run.exec_nil]
  dsimp only [step]
  rw [handed]
  unfold Stack.runUnpacker
  unfold FramedIO.waiting
  dsimp only
  rw [parsed]
  dsimp only
  rw [unread]

end Receiving

section Silent
variable [AgingPriorityQueue Q] [LT α] [DecidableLT α] [BEq α] (overflow : Overflow)
  (t : Target Q α inCap outCap capacity n)

/-- Without an event, only the data side changes. -/
theorem act_of_silent {activity : DataActivity α} (silent : t.data.announces overflow activity = false) :
    t.act overflow activity = { t with data := t.data.step overflow activity } := by
  unfold act
  dsimp only
  rw [if_neg (by rw [silent]; exact Bool.false_ne_true)]

theorem calls_of_silent (moment : Moment α) {calls : List (ScopeCall α)}
    (silent : Run.Along (DataPacking.step overflow)
      (fun self activity => self.announces overflow activity = false) t.data
      (calls.map (ScopeCall.activity moment.now moment.memory))) :
    calls.foldl (call overflow moment) t = { t with
      data := Run.exec (DataPacking.step overflow) t.data
        (calls.map (ScopeCall.activity moment.now moment.memory)) } := by
  induction calls generalizing t with
  | nil => rfl
  | cons c calls ih =>
      have first : t.call overflow moment c =
          { t with data := t.data.step overflow (c.activity moment.now moment.memory) } :=
        t.act_of_silent overflow silent.1
      rw [List.foldl_cons, first]
      exact ih _ silent.2

/-- The request is carried out, and its answer is queued. -/
theorem carriesOut (moment : Moment α) {r : HostRequest} (valid : r.Valid (n + 1)) (wanted : r ≠ .refuse)
    {level : UInt32 → α} (pending : t.stack.commandPending = r.type)
    (held : NanopbUnpacker.configuration t.stack.unpacker r.type = r.configuration level)
    (silent : Run.Along (DataPacking.step overflow)
      (fun self activity => self.announces overflow activity = false) t.data
      ((r.effects level).calls.map (ScopeCall.activity moment.now moment.memory))) :
    ∃ commands, t.runCommandParser overflow moment = { t with
      data := Run.exec (DataPacking.step overflow) t.data
        ((r.effects level).calls.map (ScopeCall.activity moment.now moment.memory))
      stack := { t.stack with sending := { t.stack.sending with controller :=
        { (r.effects level).notified.foldl Controller.commandPackPushEvent t.controller with
          waitForAck := false, commands := commands, commandPending := .seNone } } } } := by
  have controller : t.stack.sending.controller.commandPending = r.type := pending
  obtain ⟨commands, after⟩ := HostRequest.runRx_eq valid wanted controller held
  have effects := HostRequest.effects_runRx valid controller held
  refine ⟨commands, ?_⟩
  unfold runCommandParser
  rw [effects]
  dsimp only
  rw [t.calls_of_silent overflow moment silent]
  unfold Stack.runCommandParser
  dsimp only
  rw [after]
  rfl

end Silent

section Sending
variable {t : Target Q α inCap outCap capacity n} {before : MessageType}
open AgingPriorityQueue

theorem isReady_of_idle (packing : t.packingPending = .seNone)
    (tx : t.stack.sending.tx = FramedIO.idle false before .empty) :
    t.stack.sending.serializer.isReady t.stack.sending.tx.output = true := by
  rw [tx]
  exact decide_eq_true ⟨packing, rfl⟩

variable [AgingPriorityQueue Q] [LT α] [DecidableLT α] [BEq α] (p : Platform α outCap)
  (other : Written outCap)

/-- Without an event, an iteration sends nothing. -/
theorem sends_nothing (packing : t.packingPending = .seNone)
    (tx : t.stack.sending.tx = FramedIO.idle false before .empty)
    (unlocked : t.controller.waitForAck = false)
    (nothing : empty t.controller.queue = true) :
    Run.exec (step p) t [.runDataAggregator false, .runPacker other, .runCommunicationTx] = t := by
  have ready := isReady_of_idle packing tx
  have sent : t.stack.sending.controller.runTx true false = (none, t.stack.sending.controller) :=
    Controller.runTx_of_empty unlocked nothing
  have aggregated : t.runDataAggregator false = t := by
    unfold runDataAggregator
    dsimp only
    rw [ready, sent]
    rfl
  have packed : t.runPacker p other = t := by
    have idle : t.stack.sending.serializer.runTx (t.written p other) t.stack.sending.tx.output =
        (none, t.stack.sending.serializer, t.stack.sending.tx.output) := if_pos packing
    unfold runPacker
    dsimp only
    rw [idle]
    simp [packing]
  have framed : t.runCommunicationTx = t := by
    unfold runCommunicationTx
    rw [runTx_of_not_ready (by rw [tx]; rfl)]
    rfl
  rw [Run.exec_cons, Run.exec_cons, Run.exec_cons, Run.exec_nil]
  dsimp only [step]
  rw [aggregated, packed, framed]

/-- The frame that carries an answer. -/
def answerFrame (short : outCap < 2 ^ 32) (other : Written outCap) (answer : MessageType) : Frame outCap :=
  ⟨answer, NanopbPacker.payload other answer, NanopbPacker.payload_length other answer,
    (NanopbPacker.payload_length other answer).trans_lt short⟩

omit [LT α] [DecidableLT α] [BEq α] in
theorem runDataAggregator_answer (packing : t.packingPending = .seNone)
    (tx : t.stack.sending.tx = FramedIO.idle false before .empty)
    (unlocked : t.controller.waitForAck = false)
    {answer : MessageType} (noData : answer ≠ .scData) (some_ : empty t.controller.queue = false)
    (popped : (pop t.controller.queue).1 = some answer) :
    t.runDataAggregator false = t.withSending { t.stack.sending with
      controller := { t.stack.sending.controller with
        queue := (pop t.controller.queue).2
        waitForAck := Controller.messageNeedsToBeAcked answer }
      serializer := t.stack.sending.serializer.updatePacker answer } := by
  have ready := isReady_of_idle packing tx
  have sent := Controller.runTx_of_popped unlocked some_ popped
  change t.stack.sending.controller.runTx true false = _ at sent
  unfold runDataAggregator
  dsimp only
  rw [ready, sent]
  dsimp only
  unfold runPackCommand
  rw [if_neg noData]
  rfl

omit [AgingPriorityQueue Q] [LT α] [DecidableLT α] [BEq α] in
theorem runPacker_answer {answer : MessageType} (pending : t.packingPending = answer)
    (typed : answer ≠ .seNone) (noData : answer ≠ .scData)
    (tx : t.stack.sending.tx = FramedIO.idle false before .empty) :
    t.runPacker p other = { t with
      toPack := []
      stack := { t.stack with sending := { t.stack.sending with
        serializer := { t.stack.sending.serializer with packingPending := .seNone }
        tx := FramedIO.idle true answer (Fifo.empty.write (NanopbPacker.payload other answer)) } } } := by
  have output : t.stack.sending.tx.output = .empty := congrArg Tx.output tx
  have type : t.stack.sending.serializer.packingPending = answer := pending
  have packed : t.stack.sending.serializer.runTx other t.stack.sending.tx.output =
      (some answer, { t.stack.sending.serializer with packingPending := .seNone },
        Fifo.empty.write (NanopbPacker.payload other answer)) := by
    unfold Serializer.runTx
    rw [if_neg (by rw [type]; exact typed), type, output, NanopbPacker.pack_empty]
  have written := written_of_ne (p := p) (by rw [pending]; exact noData) other
  have packs : answer ≠ .seNone ∧ t.stack.sending.tx.output.used = 0 := ⟨typed, by rw [output]; rfl⟩
  unfold runPacker
  rw [written]
  dsimp only
  rw [packed, pending, if_neg fun data => noData data.2, if_pos packs, tx]
  rfl

omit [AgingPriorityQueue Q] [LT α] [DecidableLT α] [BEq α] in
theorem runCommunicationTx_answer (short : outCap < 2 ^ 32) {answer : MessageType}
    (tx : t.stack.sending.tx =
      FramedIO.idle true answer (Fifo.empty.write (NanopbPacker.payload other answer))) :
    t.runCommunicationTx = t.withSending { t.stack.sending with
      tx := sending (answerFrame short other answer) false answer .empty 0 } := by
  have framed := @runTx_idle outCap (answerFrame short other answer)
  unfold runCommunicationTx
  rw [tx]
  exact congrArg (fun tx => t.withSending { t.stack.sending with tx := tx }) framed

/-- An answer is popped, packed and framed in one iteration. -/
theorem sends_answer (packing : t.packingPending = .seNone)
    (tx : t.stack.sending.tx = FramedIO.idle false before .empty)
    (unlocked : t.controller.waitForAck = false)
    (short : outCap < 2 ^ 32) {answer : MessageType}
    (typed : answer ≠ .seNone) (noData : answer ≠ .scData)
    (some_ : empty t.controller.queue = false) (popped : (pop t.controller.queue).1 = some answer) :
    Run.exec (step p) t [.runDataAggregator false, .runPacker other, .runCommunicationTx] = { t with
      toPack := []
      stack := { t.stack with sending :=
        { controller := { t.stack.sending.controller with
            queue := (pop t.controller.queue).2
            waitForAck := Controller.messageNeedsToBeAcked answer }
          serializer := { t.stack.sending.serializer with packingPending := .seNone }
          tx := sending (answerFrame short other answer) false answer .empty 0 } } } := by
  have taken := runDataAggregator_answer packing tx unlocked noData some_ popped
  have pending : (t.runDataAggregator false).packingPending = answer := by
    rw [taken]
    rfl
  have still : (t.runDataAggregator false).stack.sending.tx = FramedIO.idle false before .empty := by
    rw [taken]
    exact tx
  have packed := runPacker_answer p other pending typed noData still
  have framed : ((t.runDataAggregator false).runPacker p other).stack.sending.tx =
      FramedIO.idle true answer (Fifo.empty.write (NanopbPacker.payload other answer)) := by
    rw [packed]
  rw [Run.exec_cons, Run.exec_cons, Run.exec_cons, Run.exec_nil]
  dsimp only [step]
  rw [runCommunicationTx_answer other short framed, packed, taken]
  rfl

end Sending

section Reading
variable [AgingPriorityQueue Q] [LT α] [DecidableLT α] [BEq α] (p : Platform α outCap)

/-- The bytes that are read. -/
def fetches (t : Target Q α inCap outCap capacity n) : TargetEvent α outCap → List UInt8
  | .getTxData length =>
      let handed := FramedIO.getTxData t.stack.sending.tx length
      handed.1
  | _ => []

theorem exec_reads (t : Target Q α inCap outCap capacity n) (lengths : List Nat) :
    Run.exec (step p) t (lengths.map .getTxData) =
        t.withSending { t.stack.sending with tx := (drain t.stack.sending.tx lengths).2 } ∧
      Run.trace (step p) fetches t (lengths.map .getTxData) = (drain t.stack.sending.tx lengths).1 := by
  induction lengths generalizing t with
  | nil => exact ⟨rfl, rfl⟩
  | cons length lengths ih =>
      obtain ⟨after, read⟩ := ih (t.getTxData length)
      refine ⟨after, ?_⟩
      rw [List.map_cons, Run.trace_cons]
      exact congrArg _ read

end Reading

/-- Nothing is under way in either direction. -/
structure Quiet [AgingPriorityQueue Q] (t : Target Q α inCap outCap capacity n) : Prop where
  receives : ∃ type, t.stack.rx = FramedIO.waiting .empty false type
  unpacking : t.stack.unpackingPending = .seNone
  packing : t.packingPending = .seNone
  nothing : AgingPriorityQueue.empty t.controller.queue = true
  sends : ∃ type, t.stack.sending.tx = FramedIO.idle false type .empty

/-- Once the frame of the start-up has been read, the target is quiet. -/
theorem quiet_started [AgingPriorityQueue Q] [LT α] [DecidableLT α] [BEq α] [Zero α]
    (p : Platform α outCap) (unpacker : Unpacker α) {queue : Q}
    (nothing : AgingPriorityQueue.empty queue = true)
    (priorities : MessagePriorities) {length : Nat} (whole : overhead ≤ length) :
    (Run.exec (step p) (create unpacker queue priorities : Target Q α inCap outCap capacity n)
      [.runCommunicationTx, .getTxData length]).Quiet := by
  let startUp : Frame outCap := .bare .seNone
  have started : FramedIO.runTx createTx = sending startUp false .seNone .empty 0 := by
    have framed := @runTx_idle outCap startUp
    have bare : (Fifo.empty.write startUp.payload : Fifo outCap UInt8) = .empty := Fifo.write_nil _
    rwa [bare] at framed
  have read : FramedIO.getTxData (sending startUp false .seNone .empty 0) length = _ :=
    getTxData_sending startUp.shape.size_pos (fun _ => rfl) length
  have behind : ¬ 0 + length < startUp.shape.size := by
    rw [Nat.zero_add]
    exact Nat.not_lt.mpr whole
  refine ⟨⟨.seNone, rfl⟩, rfl, rfl, nothing, .seNone, ?_⟩
  have ended := congrArg Prod.snd read
  rw [if_neg behind, ← started] at ended
  exact ended

end Target

/-- The frame of a request, cut into chunks, an iteration of the runner while no log is
pending, and enough reads for the largest frame. -/
structure Exchange (α : Type*) (inCap outCap n : Nat) where
  asked : HostFrame inCap (n + 1)
  wanted : asked.request ≠ .refuse
  chunks : List (List UInt8)
  whole : chunks.flatten = asked.frame.encode
  shorts : ∀ chunk ∈ chunks, chunk.length < 2 ^ 32
  parsing : Moment α
  polling : Moment α
  other : Written outCap
  lengths : List Nat
  enough : overhead + outCap ≤ lengths.sum

namespace Exchange
variable {Q α : Type*} {inCap outCap capacity n : Nat}

def events (x : Exchange α inCap outCap n) : List (TargetEvent α outCap) :=
  x.chunks.map .putRxData ++ (runnerEvents x.parsing x.polling false x.other ++ x.lengths.map .getTxData)

/-- What the scope is to do: what it is asked for, and one poll. -/
def activities (level : UInt32 → α) (x : Exchange α inCap outCap n) : List (DataActivity α) :=
  (x.asked.request.effects level).calls.map (ScopeCall.activity x.parsing.now x.parsing.memory) ++
    [.operation (.poll x.polling.now x.polling.memory)]

/-- The frame that the host is to read. -/
def answers (short : outCap < 2 ^ 32) (level : UInt32 → α) (x : Exchange α inCap outCap n) :
    List (Frame outCap) :=
  (x.asked.request.effects level).notified.map (Target.answerFrame short x.other)

variable [AgingPriorityQueue Q] [LT α] [DecidableLT α] [BEq α] {p : Platform α outCap}
  {level : UInt32 → α} {t : Target Q α inCap outCap capacity n}

/-- The controller once the request has been carried out. -/
def served (level : UInt32 → α) (x : Exchange α inCap outCap n) (commands : Commands α)
    (controller : Controller Q α) : Controller Q α :=
  { (x.asked.request.effects level).notified.foldl Controller.commandPackPushEvent
      (controller.commandUpdate x.asked.request.type) with
    waitForAck := false, commands := commands, commandPending := .seNone }

/-- The request is carried out before the scope is polled. -/
theorem asks (reads : p.decode.ReadsHost level) (quiet : t.Quiet) (x : Exchange α inCap outCap n)
    (silent : Run.Along (DataPacking.step p.overflow)
      (fun self activity => self.announces p.overflow activity = false) t.data (x.activities level)) :
    ∃ unpacker commands, Run.exec (Target.step p) t (x.chunks.map .putRxData ++
        [.runCommunicationRx, .runUnpacker, .runCommandParser x.parsing, .runScope x.polling]) = { t with
      data := Run.exec (DataPacking.step p.overflow) t.data (x.activities level)
      stack := {
        rx := FramedIO.waiting .empty false .seNone
        unpacker := unpacker
        sending := { t.stack.sending with controller := x.served level commands t.controller } } } := by
  obtain ⟨type, place⟩ := quiet.receives
  obtain ⟨called, polled⟩ := (Run.along_append _ _ _ _ _).mp silent
  have arrived := t.put_chunks p x.asked.frame.shape.size_pos (fun late => absurd late (by decide)) place
    (x.whole.trans List.drop_zero.symm) x.shorts
  generalize first : Run.exec (Target.step p) t (x.chunks.map .putRxData) = t₁ at arrived
  obtain ⟨unpacker, held, decoded⟩ := Target.receives (t := t₁) p reads x.asked
    (by rw [arrived]; exact quiet.unpacking) (by rw [arrived])
  generalize second : Run.exec (Target.step p) t₁ [.runCommunicationRx, .runUnpacker] = t₂ at decoded
  have data : t₂.data = t.data := by rw [decoded, arrived]
  obtain ⟨commands, carried⟩ := t₂.carriesOut p.overflow x.parsing x.asked.valid x.wanted
    (by rw [decoded]; rfl) (by rw [decoded]; exact held) (by rw [data]; exact called)
  have waits : (t₂.runCommandParser p.overflow x.parsing).data.announces p.overflow
      (.operation (.poll x.polling.now x.polling.memory)) = false := by
    rw [carried]
    dsimp only
    rw [data]
    exact polled.1
  have polls := (t₂.runCommandParser p.overflow x.parsing).act_of_silent p.overflow waits
  refine ⟨unpacker, commands, ?_⟩
  rw [Run.exec_append, first]
  change ((Run.exec (Target.step p) t₁ [.runCommunicationRx, .runUnpacker]).runCommandParser p.overflow
    x.parsing).act p.overflow (.operation (.poll x.polling.now x.polling.memory)) = _
  rw [second, polls, carried]
  dsimp only
  rw [data, decoded, arrived, activities, Run.exec_append]
  rfl

variable [ExactAgingPriorityQueue Q] [AcceptingAgingPriorityQueue Q]

/-- What is sent for a request, from the state in which it has been carried out. -/
theorem answered (short : outCap < 2 ^ 32) (x : Exchange α inCap outCap n)
    (packing : t.packingPending = .seNone) {type : MessageType}
    (tx : t.stack.sending.tx = FramedIO.idle false type .empty)
    {before : Controller Q α} {commands : Commands α}
    (controller : t.stack.sending.controller = x.served level commands before)
    (nothing : AgingPriorityQueue.empty before.queue = true) :
    let events := [.runDataAggregator false, .runPacker x.other, .runCommunicationTx] ++
      x.lengths.map .getTxData
    let after := Run.exec (Target.step p) t events
    Run.trace (Target.step p) Target.fetches t events = (x.answers short level).flatMap Frame.encode ∧
      after.stack.rx = t.stack.rx ∧ after.stack.unpackingPending = t.stack.unpackingPending ∧
      after.packingPending = .seNone ∧ AgingPriorityQueue.empty after.controller.queue = true ∧
      (∃ type, after.stack.sending.tx = FramedIO.idle false type .empty) ∧ after.data = t.data := by
  intro events after
  have unlocked : t.controller.waitForAck = false := congrArg Controller.waitForAck controller
  have unread (s : Target Q α inCap outCap capacity n) : Run.trace (Target.step p) Target.fetches s
      [.runDataAggregator false, .runPacker x.other, .runCommunicationTx] = [] := rfl
  have traced : Run.trace (Target.step p) Target.fetches t events =
      Run.trace (Target.step p) Target.fetches (Run.exec (Target.step p) t
        [.runDataAggregator false, .runPacker x.other, .runCommunicationTx]) (x.lengths.map .getTxData) := by
    rw [Run.trace_append, unread, List.nil_append]
  have ended : after = Run.exec (Target.step p) (Run.exec (Target.step p) t
      [.runDataAggregator false, .runPacker x.other, .runCommunicationTx]) (x.lengths.map .getTxData) :=
    Run.exec_append _ _ _ _
  rw [traced, ended]
  rcases x.asked.request.notified_cases x.wanted level with none_ | ⟨answer, one, kind⟩
  · have queue : t.controller.queue = before.queue := by
      change t.stack.sending.controller.queue = _
      rw [controller, served, none_]
      rfl
    have still := Target.sends_nothing p x.other packing tx unlocked (by rw [queue]; exact nothing)
    rw [still]
    obtain ⟨exec, read⟩ := t.exec_reads p x.lengths
    rw [exec, read, tx, drain_idle, answers, none_]
    exact ⟨rfl, rfl, rfl, packing, queue ▸ nothing, ⟨_, rfl⟩, rfl⟩
  · have queue : t.controller.queue =
        ((before.commandUpdate x.asked.request.type).commandPackPushEvent answer).queue := by
      change t.stack.sending.controller.queue = _
      rw [controller, served, one]
      rfl
    obtain ⟨some_, popped, rest⟩ :=
      Controller.pop_answer (before.commandUpdate x.asked.request.type) nothing kind
    rw [← queue] at some_ popped rest
    have typed : answer ≠ .seNone ∧ answer ≠ .scData := by
      rcases kind with rfl | rfl | rfl <;> decide
    have sends := Target.sends_answer p x.other packing tx unlocked short typed.1 typed.2 some_ popped
    obtain ⟨exec, read⟩ := (Run.exec (Target.step p) t
      [.runDataAggregator false, .runPacker x.other, .runCommunicationTx]).exec_reads p x.lengths
    have whole : (Target.answerFrame short x.other answer).shape.size ≤ x.lengths.sum := by
      have fits := (Target.answerFrame short x.other answer).fits
      have enough := x.enough
      change overhead + (Target.answerFrame short x.other answer).payload.length ≤ _
      omega
    have drained : drain (sending (Target.answerFrame short x.other answer) false answer .empty 0) x.lengths =
        ((Target.answerFrame short x.other answer).encode, FramedIO.idle false answer .empty) := by
      rw [drain_sending (Frame.shape _).size_pos, if_neg (by omega), List.drop_zero, List.take_of_length_le]
      rw [Frame.length_encode]
      exact whole
    rw [exec, read, sends]
    dsimp only
    rw [drained, answers, one]
    exact ⟨(List.flatMap_singleton _ _).symm, rfl, rfl, rfl, rest, ⟨_, rfl⟩, rfl⟩

/-- Each exchange brings the answer of its request. -/
theorem exchanged (reads : p.decode.ReadsHost level) (short : outCap < 2 ^ 32) (quiet : t.Quiet)
    (x : Exchange α inCap outCap n)
    (silent : Run.Along (DataPacking.step p.overflow)
      (fun self activity => self.announces p.overflow activity = false) t.data (x.activities level)) :
    let after := Run.exec (Target.step p) t x.events
    after.Quiet ∧ Run.trace (Target.step p) Target.fetches t x.events =
        (x.answers short level).flatMap Frame.encode ∧
      after.data = Run.exec (DataPacking.step p.overflow) t.data (x.activities level) := by
  obtain ⟨type, tx⟩ := quiet.sends
  obtain ⟨unpacker, commands, asked⟩ := asks reads quiet x silent
  let asking : List (TargetEvent α outCap) := x.chunks.map .putRxData ++
    [.runCommunicationRx, .runUnpacker, .runCommandParser x.parsing, .runScope x.polling]
  let sending : List (TargetEvent α outCap) :=
    [.runDataAggregator false, .runPacker x.other, .runCommunicationTx] ++ x.lengths.map .getTxData
  have split : x.events = asking ++ sending := by
    simp [events, runnerEvents, asking, sending]
  have unread : Run.trace (Target.step p) Target.fetches t asking = [] := by
    apply Run.trace_eq_nil
    intro event member s
    rcases List.mem_append.mp member with put | run
    · obtain ⟨chunk, -, rfl⟩ := List.mem_map.mp put
      rfl
    · simp only [List.mem_cons, List.not_mem_nil, or_false] at run
      rcases run with rfl | rfl | rfl | rfl <;> rfl
  obtain ⟨middle, reached⟩ : ∃ middle, Run.exec (Target.step p) t asking = middle := ⟨_, rfl⟩
  change Run.exec (Target.step p) t asking = _ at asked
  rw [reached] at asked
  obtain ⟨read, rx, unpacking, packing, nothing, idle, data⟩ := answered (p := p) (t := middle) short x
    (by rw [asked]; exact quiet.packing) (by rw [asked]; exact tx) (by rw [asked]) quiet.nothing
  rw [split, Run.exec_append, Run.trace_append, unread, reached, List.nil_append]
  refine ⟨⟨⟨.seNone, ?_⟩, ?_, packing, nothing, idle⟩, read, ?_⟩
  · rw [rx, asked]
  · rw [unpacking, asked]
    exact quiet.unpacking
  · rw [data, asked]

section Run

def twoBytes : Written 64 := ⟨[7, 7], by decide⟩

/-- The frame comes in two chunks, and the answer is read in two pieces. -/
def ask (asked : HostFrame 64 1) (wanted : asked.request ≠ .refuse) : Exchange Int 64 64 0 where
  asked := asked
  wanted := wanted
  chunks := [asked.frame.encode.take 4, asked.frame.encode.drop 4]
  whole := by simp
  shorts := by
    intro chunk member
    have short : asked.frame.encode.length < 2 ^ 32 := by
      have fits := asked.frame.fits
      rw [Frame.length_encode]
      change overhead + asked.frame.payload.length < _
      unfold overhead
      omega
    simp only [List.mem_cons, List.not_mem_nil, or_false] at member
    rcases member with rfl | rfl
    · exact (List.take_sublist 4 _).length_le.trans_lt short
    · exact (List.drop_sublist 4 _).length_le.trans_lt short
  parsing := ⟨0, fun _ _ => 0⟩
  polling := ⟨0, fun _ _ => 0⟩
  other := twoBytes
  lengths := [6, 67]
  enough := by decide

/-- The increment is set, the announcement is asked for and acknowledged. -/
def conversation : List (Exchange Int 64 64 0) :=
  [ask ⟨.configure (.tInc 3), trivial, by decide, by decide⟩ nofun,
    ask ⟨.announce, trivial, by decide, by decide⟩ nofun,
    ask ⟨.acknowledge, trivial, by decide, by decide⟩ nofun]

def listening : Target (List MessageType) Int 64 64 1 0 :=
  Run.exec (Target.step Remote.platform) (.create ⟨0, [], [], ⟨0, false, 0, 0⟩, 0⟩ [] ⟨2, 3, 4⟩)
    [.runCommunicationTx, .getTxData 9]

example :
    (conversation.flatMap (answers (by decide) Remote.level)).map Frame.type = [.seAck, .scAnnounce] := by
  decide

end Run

end Exchange

end Builders
