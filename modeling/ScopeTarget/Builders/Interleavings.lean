import ScopeTarget.Builders.DataStream
import ScopeTarget.Builders.Threads
import ScopeTarget.Control.SentSets

/-! What the threads do together. Every order of their steps is an order of whole
runnables, so what runs of the target keep is kept under the threads as well. -/

namespace Builders
open Core Control Serialisation FramedIO

namespace Threads
variable {Q α : Type*} {inCap outCap capacity n : Nat}

section View
variable [AgingPriorityQueue Q]

/-- The target as it is once the observer of a set that is handed over has been notified. -/
def view (s : Threads Q α inCap outCap capacity n) : Target Q α inCap outCap capacity n :=
  if s.scopePlace = .notifies true then s.target.notify .scData else s.target

/-- The runnable that a step runs. -/
def calls (s : Threads Q α inCap outCap capacity n) : ThreadsEvent α outCap → List (TargetEvent α outCap)
  | .scope moment => s.scopePlace.runs moment
  | .stack moment logIsPending other => s.stackPlace.runs moment logIsPending other
  | .putRxData bytes => [.putRxData bytes]
  | .getTxData length => [.getTxData length]

/-- The locks are held where they should be, and a message is packed in one go. -/
structure Safe (s : Threads Q α inCap outCap capacity n) : Prop where
  locked : s.Locked
  packing : s.stackPlace ≠ .packs → s.target.packingPending = .seNone

theorem safe_create [Zero α] (unpacker : Unpacker α) (queue : Q) (priorities : MessagePriorities) :
    (create unpacker queue priorities : Threads Q α inCap outCap capacity n).Safe :=
  ⟨⟨.free, .free⟩, fun _ => rfl⟩

theorem view_of_ne {s : Threads Q α inCap outCap capacity n} (other : s.scopePlace ≠ .notifies true) :
    s.view = s.target := if_neg other

theorem packingPending_view (s : Threads Q α inCap outCap capacity n) :
    s.view.packingPending = s.target.packingPending := by
  unfold view
  split <;> rfl

variable [LT α] [DecidableLT α] [BEq α] {p : Platform α outCap} {s : Threads Q α inCap outCap capacity n}

/-- What the thread of the stack does without a lock, it does to other parts of the
target than the observer. -/
theorem step_notify (t : Target Q α inCap outCap capacity n) {event : TargetEvent α outCap}
    (unlocked : event = .runCommunicationRx ∨ event = .runUnpacker ∨
      (∃ bytes, event = .putRxData bytes) ∨ ∃ length, event = .getTxData length) :
    (t.notify .scData).step p event = (t.step p event).notify .scData := by
  rcases unlocked with rfl | rfl | ⟨bytes, rfl⟩ | ⟨length, rfl⟩
  · rfl
  · unfold Target.step Target.notify Target.withSending Stack.runUnpacker
    dsimp only
    generalize Serializer.runRx _ _ _ = parsed
    obtain ⟨told, rest⟩ := parsed
    cases told with
    | none => rfl
    | some type => rfl
  · change (t.notify .scData).putRxData bytes = (t.putRxData bytes).notify .scData
    have same : (t.notify .scData).stack.rx = t.stack.rx := rfl
    unfold Target.putRxData
    rw [same]
    cases FramedIO.putRxData t.stack.rx bytes with
    | none => rfl
    | some received => rfl
  · rfl

/-- What a step does to the view, and that packing is not interrupted, for a step of the
stack that needs no lock. -/
theorem unlocked_step (safe : s.Safe) {event : TargetEvent α outCap} (after : StackPlace)
    (unlocked : event = .runCommunicationRx ∨ event = .runUnpacker ∨
      (∃ bytes, event = .putRxData bytes) ∨ ∃ length, event = .getTxData length)
    (still : after ≠ .packs → s.stackPlace ≠ .packs) :
    (after ≠ .packs → (s.target.step p event).packingPending = .seNone) ∧
      view { s with target := s.target.step p event, stackPlace := after } = s.view.step p event := by
  have pending : (s.target.step p event).packingPending = s.target.packingPending := by
    apply s.target.packingPending_step p
    · rintro logIsPending rfl
      rcases unlocked with h | h | ⟨_, h⟩ | ⟨_, h⟩ <;> cases h
    · rintro other rfl
      rcases unlocked with h | h | ⟨_, h⟩ | ⟨_, h⟩ <;> cases h
  refine ⟨fun notPacks => pending.trans (safe.packing (still notPacks)), ?_⟩
  unfold view
  split
  · exact (step_notify s.target unlocked).symm
  · rfl

/-- What a step does to the view, and that packing is not interrupted. -/
theorem follows_scope (safe : s.Safe) (moment : Moment α) :
    (s.step p (.scope moment)).Safe ∧ (s.step p (.scope moment)).view =
      Run.exec (Target.step p) s.view (s.calls (.scope moment : ThreadsEvent α outCap)) := by
  have locked := locked_step (p := p) safe.locked (.scope moment)
  obtain ⟨-, packing⟩ := safe
  obtain ⟨target, configMutex, dataMutex, scopePlace, stackPlace⟩ := s
  cases scopePlace with
  | outside =>
      cases configMutex with
      | true => exact ⟨⟨locked, packing⟩, rfl⟩
      | false => exact ⟨⟨locked, packing⟩, rfl⟩
  | asksScope =>
      by_cases asks : target.scope.scopeIsRunning = true ∨ target.scope.scopeIsReadyToRun = true
      · have after : step p ⟨target, configMutex, dataMutex, .asksScope, stackPlace⟩ (.scope moment) =
            ⟨target, configMutex, dataMutex, .asksData, stackPlace⟩ := if_pos asks
        rw [after] at locked ⊢
        exact ⟨⟨locked, packing⟩, rfl⟩
      · have after : step p ⟨target, configMutex, dataMutex, .asksScope, stackPlace⟩ (.scope moment) =
            ⟨target, configMutex, dataMutex, .releasesConfig, stackPlace⟩ := if_neg asks
        rw [after] at locked ⊢
        exact ⟨⟨locked, packing⟩, rfl⟩
  | asksData =>
      cases dataMutex with
      | true => exact ⟨⟨locked, packing⟩, rfl⟩
      | false => exact ⟨⟨locked, packing⟩, rfl⟩
  | polls =>
      refine ⟨⟨locked, packing⟩, ?_⟩
      have sent : ScopePlace.notifies (target.scope.handsOver p.overflow
          (.poll moment.now moment.memory)) = .notifies true ↔
            target.scope.handsOver p.overflow (.poll moment.now moment.memory) = true := by
        rw [ScopePlace.notifies.injEq]
      exact if_congr sent rfl rfl
  | notifies handedOver =>
      cases handedOver with
      | true => exact ⟨⟨locked, packing⟩, rfl⟩
      | false => exact ⟨⟨locked, packing⟩, rfl⟩
  | releasesData => exact ⟨⟨locked, packing⟩, rfl⟩
  | releasesConfig => exact ⟨⟨locked, packing⟩, rfl⟩

theorem follows_locked (safe : s.Safe) {event : TargetEvent α outCap} {after : StackPlace}
    (holds : s.stackPlace.holdsConfig = true ∨ s.stackPlace.holdsData = true) :
    view { s with target := s.target.step p event, stackPlace := after } = s.view.step p event := by
  have quiet := safe.locked.not_notifies holds true
  rw [view_of_ne quiet]
  exact if_neg quiet

theorem follows_stack (safe : s.Safe) (moment : Moment α) (logIsPending : Bool) (other : Written outCap) :
    (s.step p (.stack moment logIsPending other)).Safe ∧ (s.step p (.stack moment logIsPending other)).view =
      Run.exec (Target.step p) s.view (s.calls (.stack moment logIsPending other)) := by
  have locked := locked_step (p := p) safe.locked (.stack moment logIsPending other)
  obtain ⟨target, configMutex, dataMutex, scopePlace, stackPlace⟩ := s
  cases stackPlace with
  | outside =>
      obtain ⟨packing, view⟩ := unlocked_step (p := p) safe .unpacks (.inl rfl) fun _ => nofun
      exact ⟨⟨locked, packing⟩, view⟩
  | unpacks =>
      obtain ⟨packing, view⟩ := unlocked_step (p := p) safe .asksController (.inr (.inl rfl))
        fun _ => nofun
      exact ⟨⟨locked, packing⟩, view⟩
  | asksController =>
      have packing : target.packingPending = .seNone := safe.packing nofun
      by_cases pending : target.stack.commandPending ≠ .seNone
      · have after : step p ⟨target, configMutex, dataMutex, scopePlace, .asksController⟩
            (.stack moment logIsPending other) =
              ⟨target, configMutex, dataMutex, scopePlace, .asksConfig⟩ := if_pos pending
        rw [after] at locked ⊢
        exact ⟨⟨locked, fun _ => packing⟩, rfl⟩
      · have after : step p ⟨target, configMutex, dataMutex, scopePlace, .asksController⟩
            (.stack moment logIsPending other) =
              ⟨target, configMutex, dataMutex, scopePlace, .asksData⟩ := if_neg pending
        rw [after] at locked ⊢
        exact ⟨⟨locked, fun _ => packing⟩, rfl⟩
  | asksConfig =>
      have packing : target.packingPending = .seNone := safe.packing nofun
      cases configMutex with
      | true => exact ⟨⟨locked, fun _ => packing⟩, rfl⟩
      | false => exact ⟨⟨locked, fun _ => packing⟩, rfl⟩
  | parses =>
      have packing : target.packingPending = .seNone := safe.packing nofun
      refine ⟨⟨locked, fun _ => ?_⟩, follows_locked safe (.inl rfl)⟩
      exact (target.packingPending_calls moment _).trans packing
  | releasesConfig => exact ⟨⟨locked, fun _ => safe.packing nofun⟩, rfl⟩
  | asksData =>
      have packing : target.packingPending = .seNone := safe.packing nofun
      cases dataMutex with
      | true => exact ⟨⟨locked, fun _ => packing⟩, rfl⟩
      | false => exact ⟨⟨locked, fun _ => packing⟩, rfl⟩
  | aggregates => exact ⟨⟨locked, fun notPacks => absurd rfl notPacks⟩, follows_locked safe (.inr rfl)⟩
  | packs =>
      exact ⟨⟨locked, fun _ => target.packingPending_runPacker p other⟩, follows_locked safe (.inr rfl)⟩
  | sends => exact ⟨⟨locked, fun _ => safe.packing nofun⟩, follows_locked safe (.inr rfl)⟩
  | releasesData => exact ⟨⟨locked, fun _ => safe.packing nofun⟩, rfl⟩

/-- Every order of the steps of the threads is an order of whole runnables, and no command
and no poll comes in between the halves of packing. -/
theorem simulates_target : Run.Simulates (step p) (Target.step p) (fun _ _ => True)
    (Safe : Threads Q α inCap outCap capacity n → Prop) view calls := by
  have both (s : Threads Q α inCap outCap capacity n) (event : ThreadsEvent α outCap) (safe : s.Safe) :
      (s.step p event).Safe ∧ (s.step p event).view = Run.exec (Target.step p) s.view (s.calls event) := by
    cases event with
    | scope moment => exact follows_scope safe moment
    | stack moment logIsPending other => exact follows_stack safe moment logIsPending other
    | putRxData bytes =>
        obtain ⟨packing, view⟩ := unlocked_step (p := p) safe s.stackPlace
          (.inr (.inr (.inl ⟨bytes, rfl⟩))) id
        exact ⟨⟨locked_step safe.locked _, packing⟩, view⟩
    | getTxData length =>
        obtain ⟨packing, view⟩ := unlocked_step (p := p) safe s.stackPlace
          (.inr (.inr (.inr ⟨length, rfl⟩))) id
        exact ⟨⟨locked_step safe.locked _, packing⟩, view⟩
  exact ⟨fun s event safe _ => (both s event safe).1, fun s event safe _ => (both s event safe).2⟩

theorem orderly_calls (safe : s.Safe) (event : ThreadsEvent α outCap) :
    Run.Along (Target.step p) Target.Orderly s.view (s.calls event) := by
  have alone (e : TargetEvent α outCap) (orderly : s.view.Orderly e) :
      Run.Along (Target.step p) Target.Orderly s.view [e] := ⟨orderly, trivial⟩
  have idle (notPacks : s.stackPlace ≠ .packs) : s.view.packingPending = .seNone :=
    s.packingPending_view.trans (safe.packing notPacks)
  cases event with
  | scope moment =>
      change Run.Along _ _ _ (s.scopePlace.runs moment)
      cases place : s.scopePlace with
      | polls =>
          apply alone
          apply idle
          intro packs
          have data := safe.locked.data
          rw [place, packs] at data
          cases data.apart
      | _ => trivial
  | stack moment logIsPending other =>
      change Run.Along _ _ _ (s.stackPlace.runs moment logIsPending other)
      cases place : s.stackPlace with
      | outside => exact alone _ trivial
      | unpacks => exact alone _ trivial
      | parses => exact alone _ (idle fun packs => StackPlace.noConfusion (place.symm.trans packs))
      | aggregates => exact alone _ trivial
      | packs => exact alone _ trivial
      | sends => exact alone _ trivial
      | _ => trivial
  | putRxData bytes => exact alone _ trivial
  | getTxData length => exact alone _ trivial

/-- What is called in a run leaves the target as the run does. -/
theorem view_exec (safe : s.Safe) (events : List (ThreadsEvent α outCap)) :
    (Run.exec (step p) s events).view =
      Run.exec (Target.step p) s.view (Run.trace (step p) calls s events) :=
  simulates_target.view_exec (.of_forall _ fun _ _ => trivial) safe

theorem orderly_trace (safe : s.Safe) (events : List (ThreadsEvent α outCap)) :
    Run.Along (Target.step p) Target.Orderly s.view (Run.trace (step p) calls s events) :=
  simulates_target.along_trace (fun _ event safe _ => orderly_calls safe event)
    (.of_forall _ fun _ _ => trivial) safe

theorem safe_exec (safe : s.Safe) (events : List (ThreadsEvent α outCap)) :
    (Run.exec (step p) s events).Safe := by
  have kept (s : Threads Q α inCap outCap capacity n) (event : ThreadsEvent α outCap) (safe : s.Safe) :
      (s.step p event).Safe := simulates_target.kept s event safe trivial
  exact Run.exec_invariant _ kept safe events

/-- However the threads are interleaved, they leave the target as runnables do that are
called one after the other, without a poll or a command while a message is being packed. -/
theorem serial [Zero α] (p : Platform α outCap) (unpacker : Unpacker α) (queue : Q)
    (priorities : MessagePriorities) (events : List (ThreadsEvent α outCap)) :
    let start : Threads Q α inCap outCap capacity n := create unpacker queue priorities
    let called := Run.trace (step p) calls start events
    (Run.exec (step p) start events).view = Run.exec (Target.step p) start.target called ∧
      Run.Along (Target.step p) Target.Orderly start.target called := by
  intro start called
  have safe : start.Safe := safe_create unpacker queue priorities
  exact ⟨view_exec safe events, orderly_trace safe events⟩

section Data
variable [CountedAgingPriorityQueue Q]

/-- What the threads do to the data side. -/
def activities (p : Platform α outCap) (s : Threads Q α inCap outCap capacity n)
    (events : List (ThreadsEvent α outCap)) : List (DataActivity α) :=
  Run.trace (Target.step p) Target.activities s.view (Run.trace (step p) calls s events)

/-- Whenever no message is being packed, the data side is as operations of the scope and
the processing of data events leave it, one after the other. -/
theorem data_serial (safe : s.Safe) (accounted : s.view.Accounted) (events : List (ThreadsEvent α outCap))
    (notPacks : (Run.exec (step p) s events).stackPlace ≠ .packs) :
    (Run.exec (step p) s events).target.data =
      Run.exec (DataPacking.step p.overflow) s.view.settled (s.activities p events) := by
  have settled := (Target.simulates_data p).view_exec (orderly_trace safe events) accounted
  rw [← view_exec safe] at settled
  generalize ended : Run.exec (step p) s events = after at notPacks settled ⊢
  have safe : after.Safe := ended ▸ safe_exec safe events
  have idle : after.view.packingPending = .seNone := after.packingPending_view.trans (safe.packing notPacks)
  have data : after.view.data = after.target.data := by
    unfold view
    split <;> rfl
  rw [Target.settled_of_ne (by rw [idle]; decide), data] at settled
  exact settled

end Data

end View

section Run

def platform : Platform Int 64 := ⟨.reject, addressesOnly, Logging.wholeMessages, fun _ => 0⟩

def before : Threads (List MessageType) Int (NanopbUnpacker.calculateBufferSize 1) 64 1 0 :=
  create ⟨0, [], [], ⟨0, false, 0, 0⟩, 0⟩ [] ⟨2, 3, 4⟩

/-- The host asks for data before there are any; the scope has its turns in between. -/
def demanded : List (ThreadsEvent Int 64) :=
  let stack := ThreadsEvent.stack ⟨0, fun _ _ => 0⟩ false Logging.noBytes
  let scope := ThreadsEvent.scope ⟨0, fun _ _ => 0⟩
  [.putRxData (Frame.encode (.bare .evTrans : Frame 8)), stack, stack, stack, stack, scope, stack, stack,
    stack, scope, scope, stack, stack]

def listening : Threads (List MessageType) Int 64 64 1 0 := create ⟨0, [], [], ⟨0, false, 0, 0⟩, 0⟩ [] ⟨2, 3, 4⟩

/-- The threads take turns, step by step, once the channel is configured and started. -/
def turns : List (ThreadsEvent Int 64) :=
  let stack := ThreadsEvent.stack ⟨0, fun _ _ => 7⟩ false Logging.noBytes
  let turn (k : Nat) : List (ThreadsEvent Int 64) := [.scope ⟨UInt32.ofNat k, fun _ _ => 7⟩, stack, .getTxData 9]
  Observed.asks.flatMap (fun bytes => .putRxData bytes :: List.replicate 11 stack) ++
    (List.range' 1 30).flatMap turn

theorem fit_turns : Run.Along (step Remote.platform) (ListsFit Remote.platform) listening turns := by
  decide +kernel

end Run

end Threads

end Builders
