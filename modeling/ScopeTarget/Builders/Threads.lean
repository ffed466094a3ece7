import ScopeTarget.Base.Mutex
import ScopeTarget.Base.Progress
import ScopeTarget.Builders.Target

/-! The two threads of `ScopeThreadRunner`. Each step is one access to a lock or one
runnable, so that any order of steps is an order the threads can run in. Neither
thread waits: a lock that is taken is given up for this call. -/

namespace Builders
open Core Control Serialisation FramedIO

/-- Where a call of `ScopeThreadRunner_runScope` stands. Behind the poll, the trigger
has said whether it handed a set over, and the observer is yet to be notified. -/
inductive ScopePlace where
  | outside
  | asksScope
  | asksData
  | polls
  | notifies (handedOver : Bool)
  | releasesData
  | releasesConfig
  deriving DecidableEq, Repr

/-- Where a call of `ScopeThreadRunner_runStack` stands. -/
inductive StackPlace where
  | outside
  | unpacks
  | asksController
  | asksConfig
  | parses
  | releasesConfig
  | asksData
  | aggregates
  | packs
  | sends
  | releasesData
  deriving DecidableEq, Repr

namespace ScopePlace

def holdsConfig : ScopePlace → Bool
  | .outside => false
  | _ => true

def holdsData : ScopePlace → Bool
  | .polls => true
  | .notifies _ => true
  | .releasesData => true
  | _ => false

/-- The steps left of the call, if both locks are free. -/
def left : ScopePlace → Nat
  | .outside => 0
  | .asksScope => 6
  | .asksData => 5
  | .polls => 4
  | .notifies _ => 3
  | .releasesData => 2
  | .releasesConfig => 1

/-- The scope is polled, or its set is being announced. -/
def touches : ScopePlace → Bool
  | .polls => true
  | .notifies _ => true
  | _ => false

theorem holds_of_touches {place : ScopePlace} (touches : place.touches = true) :
    place.holdsConfig = true ∧ place.holdsData = true := by
  cases place with
  | polls => exact ⟨rfl, rfl⟩
  | notifies handedOver => exact ⟨rfl, rfl⟩
  | _ => cases touches

theorem outside_of_left {place : ScopePlace} (none_ : place.left = 0) : place = .outside := by
  cases place with
  | outside => rfl
  | _ => cases none_

theorem left_le (place : ScopePlace) : place.left ≤ 6 := by
  cases place with
  | notifies handedOver => exact (by decide : 3 ≤ 6)
  | _ => decide

def runs {α : Type*} {outCap : Nat} (moment : Moment α) : ScopePlace → List (TargetEvent α outCap)
  | .polls => [.runScope moment]
  | _ => []

end ScopePlace

namespace StackPlace

def holdsConfig : StackPlace → Bool
  | .parses => true
  | .releasesConfig => true
  | _ => false

def holdsData : StackPlace → Bool
  | .aggregates => true
  | .packs => true
  | .sends => true
  | .releasesData => true
  | _ => false

/-- The steps left of the call, if both locks are free and a command is pending. -/
def left : StackPlace → Nat
  | .outside => 0
  | .unpacks => 10
  | .asksController => 9
  | .asksConfig => 8
  | .parses => 7
  | .releasesConfig => 6
  | .asksData => 5
  | .aggregates => 4
  | .packs => 3
  | .sends => 2
  | .releasesData => 1

/-- A command is run, or a message is popped, packed and framed. -/
def touches : StackPlace → Bool
  | .parses => true
  | .aggregates => true
  | .packs => true
  | .sends => true
  | _ => false

theorem holds_of_touches {place : StackPlace} (touches : place.touches = true) :
    place.holdsConfig = true ∨ place.holdsData = true := by
  cases place with
  | parses => exact .inl rfl
  | aggregates => exact .inr rfl
  | packs => exact .inr rfl
  | sends => exact .inr rfl
  | _ => cases touches

theorem outside_of_left {place : StackPlace} (none_ : place.left = 0) : place = .outside := by
  cases place with
  | outside => rfl
  | _ => cases none_

theorem left_le (place : StackPlace) : place.left ≤ 10 := by
  cases place <;> decide

def runs {α : Type*} {outCap : Nat} (moment : Moment α) (logIsPending : Bool) (other : Written outCap) :
    StackPlace → List (TargetEvent α outCap)
  | .outside => [.runCommunicationRx]
  | .unpacks => [.runUnpacker]
  | .parses => [.runCommandParser moment]
  | .aggregates => [.runDataAggregator logIsPending]
  | .packs => [.runPacker other]
  | .sends => [.runCommunicationTx]
  | _ => []

end StackPlace

structure Threads (Q α : Type*) (inCap outCap capacity n : Nat) where
  target : Target Q α inCap outCap capacity n
  configMutex : Bool
  dataMutex : Bool
  scopePlace : ScopePlace
  stackPlace : StackPlace

/-- The next step of one of the threads, with what it meets there, or the driver of the
interface puts bytes in and fetches them. -/
inductive ThreadsEvent (α : Type*) (outCap : Nat) where
  | scope (moment : Moment α)
  | stack (moment : Moment α) (logIsPending : Bool) (other : Written outCap)
  | putRxData (bytes : List UInt8)
  | getTxData (length : Nat)

namespace Threads
variable {Q α : Type*} {inCap outCap capacity n : Nat}

section Steps
variable [AgingPriorityQueue Q]

def create [Zero α] (unpacker : Unpacker α) (queue : Q) (priorities : MessagePriorities) :
    Threads Q α inCap outCap capacity n where
  target := .create unpacker queue priorities
  configMutex := false
  dataMutex := false
  scopePlace := .outside
  stackPlace := .outside

variable [LT α] [DecidableLT α] [BEq α] (p : Platform α outCap)

/-- `ScopeThreadRunner_runScope` -/
def stepScope (moment : Moment α) (s : Threads Q α inCap outCap capacity n) :
    Threads Q α inCap outCap capacity n :=
  match s.scopePlace with
  | .outside =>
      if s.configMutex = true then s else { s with configMutex := true, scopePlace := .asksScope }
  | .asksScope =>
      if s.target.scope.scopeIsRunning = true ∨ s.target.scope.scopeIsReadyToRun = true then
        { s with scopePlace := .asksData }
      else { s with scopePlace := .releasesConfig }
  | .asksData =>
      if s.dataMutex = true then { s with scopePlace := .releasesConfig }
      else { s with dataMutex := true, scopePlace := .polls }
  | .polls =>
      let op := Operation.poll moment.now moment.memory
      { s with
        target := { s.target with data := s.target.data.step p.overflow (.operation op) }
        scopePlace := .notifies (s.target.scope.handsOver p.overflow op) }
  | .notifies handedOver =>
      { s with
        target := if handedOver = true then s.target.notify .scData else s.target
        scopePlace := .releasesData }
  | .releasesData => { s with dataMutex := false, scopePlace := .releasesConfig }
  | .releasesConfig => { s with configMutex := false, scopePlace := .outside }

/-- `ScopeThreadRunner_runStack` -/
def stepStack (moment : Moment α) (logIsPending : Bool) (other : Written outCap)
    (s : Threads Q α inCap outCap capacity n) : Threads Q α inCap outCap capacity n :=
  match s.stackPlace with
  | .outside => { s with target := s.target.step p .runCommunicationRx, stackPlace := .unpacks }
  | .unpacks => { s with target := s.target.step p .runUnpacker, stackPlace := .asksController }
  | .asksController =>
      if s.target.stack.commandPending ≠ .seNone then { s with stackPlace := .asksConfig }
      else { s with stackPlace := .asksData }
  | .asksConfig =>
      if s.configMutex = true then { s with stackPlace := .asksData }
      else { s with configMutex := true, stackPlace := .parses }
  | .parses =>
      { s with target := s.target.step p (.runCommandParser moment), stackPlace := .releasesConfig }
  | .releasesConfig => { s with configMutex := false, stackPlace := .asksData }
  | .asksData =>
      if s.dataMutex = true then { s with stackPlace := .outside }
      else { s with dataMutex := true, stackPlace := .aggregates }
  | .aggregates =>
      { s with target := s.target.step p (.runDataAggregator logIsPending), stackPlace := .packs }
  | .packs => { s with target := s.target.step p (.runPacker other), stackPlace := .sends }
  | .sends => { s with target := s.target.step p .runCommunicationTx, stackPlace := .releasesData }
  | .releasesData => { s with dataMutex := false, stackPlace := .outside }

def step (s : Threads Q α inCap outCap capacity n) :
    ThreadsEvent α outCap → Threads Q α inCap outCap capacity n
  | .scope moment => s.stepScope p moment
  | .stack moment logIsPending other => s.stepStack p moment logIsPending other
  | .putRxData bytes => { s with target := s.target.step p (.putRxData bytes) }
  | .getTxData length => { s with target := s.target.step p (.getTxData length) }

end Steps

/-- The lists of the host that are unpacked next fit the arrays. -/
def ListsFit (p : Platform α outCap) (s : Threads Q α inCap outCap capacity n) : ThreadsEvent α outCap → Prop
  | .stack _ _ _ => s.stackPlace = .unpacks → s.target.stack.ListsFit p.decode (n + 1)
  | _ => True

instance (p : Platform α outCap) (s : Threads Q α inCap outCap capacity n) :
    (event : ThreadsEvent α outCap) → Decidable (s.ListsFit p event)
  | .stack _ _ _ => inferInstanceAs (Decidable (_ → _))
  | .scope _ => inferInstanceAs (Decidable True)
  | .putRxData _ => inferInstanceAs (Decidable True)
  | .getTxData _ => inferInstanceAs (Decidable True)

/-- Each lock is held by the thread that stands behind it, and by one at most. -/
structure Locked (s : Threads Q α inCap outCap capacity n) : Prop where
  config : Mutex s.configMutex s.scopePlace.holdsConfig s.stackPlace.holdsConfig
  data : Mutex s.dataMutex s.scopePlace.holdsData s.stackPlace.holdsData

/-- While the thread of the stack holds a lock, no set waits to be announced. -/
theorem Locked.not_notifies {s : Threads Q α inCap outCap capacity n} (locked : s.Locked)
    (holds : s.stackPlace.holdsConfig = true ∨ s.stackPlace.holdsData = true) (handedOver : Bool) :
    s.scopePlace ≠ .notifies handedOver := by
  intro here
  obtain ⟨config, data⟩ := locked
  rw [here] at config data
  rcases holds with holds | holds
  · cases config.second_of_first.symm.trans holds
  · cases data.second_of_first.symm.trans holds

/-- What the scope thread does under both locks keeps out what the other one does under one. -/
theorem Locked.apart {s : Threads Q α inCap outCap capacity n} (locked : s.Locked)
    (polling : s.scopePlace.touches = true) (working : s.stackPlace.touches = true) : False := by
  obtain ⟨config, data⟩ := locked
  obtain ⟨pollConfig, pollData⟩ := ScopePlace.holds_of_touches polling
  rw [pollConfig] at config
  rw [pollData] at data
  rcases StackPlace.holds_of_touches working with holds | holds
  · cases config.second_of_first.symm.trans holds
  · cases data.second_of_first.symm.trans holds

section Locked
variable [AgingPriorityQueue Q] [LT α] [DecidableLT α] [BEq α] {p : Platform α outCap}
  {s : Threads Q α inCap outCap capacity n}

theorem locked_stepScope (locked : s.Locked) (moment : Moment α) : (s.stepScope p moment).Locked := by
  obtain ⟨target, configMutex, dataMutex, scopePlace, stackPlace⟩ := s
  obtain ⟨config, data⟩ := locked
  cases scopePlace with
  | outside =>
      cases configMutex with
      | true => exact ⟨config, data⟩
      | false => exact ⟨config.take_first, data⟩
  | asksScope =>
      unfold stepScope
      dsimp only
      split
      · exact ⟨config, data⟩
      · exact ⟨config, data⟩
  | asksData =>
      cases dataMutex with
      | true => exact ⟨config, data⟩
      | false => exact ⟨config, data.take_first⟩
  | polls => exact ⟨config, data⟩
  | notifies handedOver => exact ⟨config, data⟩
  | releasesData => exact ⟨config, data.release_first⟩
  | releasesConfig => exact ⟨config.release_first, data⟩

theorem locked_stepStack (locked : s.Locked) (moment : Moment α) (logIsPending : Bool)
    (other : Written outCap) : (s.stepStack p moment logIsPending other).Locked := by
  obtain ⟨target, configMutex, dataMutex, scopePlace, stackPlace⟩ := s
  obtain ⟨config, data⟩ := locked
  cases stackPlace with
  | outside => exact ⟨config, data⟩
  | unpacks => exact ⟨config, data⟩
  | asksController =>
      unfold stepStack
      dsimp only
      split
      · exact ⟨config, data⟩
      · exact ⟨config, data⟩
  | asksConfig =>
      cases configMutex with
      | true => exact ⟨config, data⟩
      | false => exact ⟨config.take_second, data⟩
  | parses => exact ⟨config, data⟩
  | releasesConfig => exact ⟨config.release_second, data⟩
  | asksData =>
      cases dataMutex with
      | true => exact ⟨config, data⟩
      | false => exact ⟨config, data.take_second⟩
  | aggregates => exact ⟨config, data⟩
  | packs => exact ⟨config, data⟩
  | sends => exact ⟨config, data⟩
  | releasesData => exact ⟨config, data.release_second⟩

theorem locked_step (locked : s.Locked) (event : ThreadsEvent α outCap) : (s.step p event).Locked := by
  cases event with
  | scope moment => exact locked_stepScope locked moment
  | stack moment logIsPending other => exact locked_stepStack locked moment logIsPending other
  | putRxData bytes => exact ⟨locked.config, locked.data⟩
  | getTxData length => exact ⟨locked.config, locked.data⟩

end Locked

section Calls

/-- A call moves only its own thread, and nearer to its end. -/
theorem left_stepScope [AgingPriorityQueue Q] [LT α] [DecidableLT α] [BEq α] {p : Platform α outCap}
    {s : Threads Q α inCap outCap capacity n} (moment : Moment α) (inside : s.scopePlace.left ≠ 0) :
    (s.stepScope p moment).scopePlace.left < s.scopePlace.left := by
  obtain ⟨target, configMutex, dataMutex, scopePlace, stackPlace⟩ := s
  cases scopePlace with
  | outside => exact absurd rfl inside
  | asksScope =>
      unfold stepScope
      dsimp only
      split
      · exact (by decide : 5 < 6)
      · exact (by decide : 1 < 6)
  | asksData =>
      unfold stepScope
      dsimp only
      split
      · exact (by decide : 1 < 5)
      · exact (by decide : 4 < 5)
  | polls => exact Nat.lt_succ_self 3
  | notifies handedOver => exact Nat.lt_succ_self 2
  | releasesData => exact Nat.lt_succ_self 1
  | releasesConfig => exact Nat.lt_succ_self 0

theorem left_stepStack [AgingPriorityQueue Q] [LT α] [DecidableLT α] [BEq α] {p : Platform α outCap}
    {s : Threads Q α inCap outCap capacity n} (moment : Moment α) (logIsPending : Bool)
    (other : Written outCap) (inside : s.stackPlace.left ≠ 0) :
    (s.stepStack p moment logIsPending other).stackPlace.left < s.stackPlace.left := by
  obtain ⟨target, configMutex, dataMutex, scopePlace, stackPlace⟩ := s
  cases stackPlace with
  | outside => exact absurd rfl inside
  | unpacks => exact Nat.lt_succ_self 9
  | asksController =>
      unfold stepStack
      dsimp only
      split
      · exact (by decide : 8 < 9)
      · exact (by decide : 5 < 9)
  | asksConfig =>
      unfold stepStack
      dsimp only
      split
      · exact (by decide : 5 < 8)
      · exact (by decide : 7 < 8)
  | parses => exact Nat.lt_succ_self 6
  | releasesConfig => exact Nat.lt_succ_self 5
  | asksData =>
      unfold stepStack
      dsimp only
      split
      · exact (by decide : 0 < 5)
      · exact (by decide : 4 < 5)
  | aggregates => exact Nat.lt_succ_self 3
  | packs => exact Nat.lt_succ_self 2
  | sends => exact Nat.lt_succ_self 1
  | releasesData => exact Nat.lt_succ_self 0

theorem stackPlace_stepScope [AgingPriorityQueue Q] [LT α] [DecidableLT α] [BEq α] (p : Platform α outCap)
    (s : Threads Q α inCap outCap capacity n) (moment : Moment α) :
    (s.stepScope p moment).stackPlace = s.stackPlace := by
  unfold stepScope
  repeat' split
  all_goals rfl

theorem scopePlace_stepStack [AgingPriorityQueue Q] [LT α] [DecidableLT α] [BEq α] (p : Platform α outCap)
    (s : Threads Q α inCap outCap capacity n) (moment : Moment α) (logIsPending : Bool)
    (other : Written outCap) : (s.stepStack p moment logIsPending other).scopePlace = s.scopePlace := by
  unfold stepStack
  repeat' split
  all_goals rfl

end Calls

section Exclusive
variable [AgingPriorityQueue Q] [LT α] [DecidableLT α] [BEq α] {p : Platform α outCap}
  {s : Threads Q α inCap outCap capacity n}

def ofScope : ThreadsEvent α outCap → Bool
  | .scope _ => true
  | _ => false

def ofStack : ThreadsEvent α outCap → Bool
  | .stack _ _ _ => true
  | _ => false

theorem scope_returns (s : Threads Q α inCap outCap capacity n) (later : List (ThreadsEvent α outCap))
    (enough : s.scopePlace.left ≤ later.countP ofScope) :
    ∃ before, before <+: later ∧ (Run.exec (step p) s before).scopePlace = .outside := by
  have down (s : Threads Q α inCap outCap capacity n) (event : ThreadsEvent α outCap)
      (own : ofScope event = true) (inside : s.scopePlace.left ≠ 0) :
      (s.step p event).scopePlace.left < s.scopePlace.left := by
    cases event with
    | scope moment => exact left_stepScope moment inside
    | _ => cases own
  have others (s : Threads Q α inCap outCap capacity n) (event : ThreadsEvent α outCap)
      (foreign : ofScope event = false) : (s.step p event).scopePlace.left ≤ s.scopePlace.left := by
    cases event with
    | scope moment => cases foreign
    | stack moment logIsPending other =>
        exact Nat.le_of_eq (congrArg _ (s.scopePlace_stepStack p moment logIsPending other))
    | putRxData bytes => exact Nat.le_refl _
    | getTxData length => exact Nat.le_refl _
  obtain ⟨before, inside, zero⟩ := Run.reaches_zero (ScopePlace.left ∘ scopePlace) down others enough
  exact ⟨before, inside, ScopePlace.outside_of_left zero⟩

theorem stack_returns (s : Threads Q α inCap outCap capacity n) (later : List (ThreadsEvent α outCap))
    (enough : s.stackPlace.left ≤ later.countP ofStack) :
    ∃ before, before <+: later ∧ (Run.exec (step p) s before).stackPlace = .outside := by
  have down (s : Threads Q α inCap outCap capacity n) (event : ThreadsEvent α outCap)
      (own : ofStack event = true) (inside : s.stackPlace.left ≠ 0) :
      (s.step p event).stackPlace.left < s.stackPlace.left := by
    cases event with
    | stack moment logIsPending other => exact left_stepStack moment logIsPending other inside
    | _ => cases own
  have others (s : Threads Q α inCap outCap capacity n) (event : ThreadsEvent α outCap)
      (foreign : ofStack event = false) : (s.step p event).stackPlace.left ≤ s.stackPlace.left := by
    cases event with
    | scope moment => exact Nat.le_of_eq (congrArg _ (s.stackPlace_stepScope p moment))
    | stack moment logIsPending other => cases foreign
    | putRxData bytes => exact Nat.le_refl _
    | getTxData length => exact Nat.le_refl _
  obtain ⟨before, inside, zero⟩ := Run.reaches_zero (StackPlace.left ∘ stackPlace) down others enough
  exact ⟨before, inside, StackPlace.outside_of_left zero⟩

theorem locked_exec [Zero α] (p : Platform α outCap) (unpacker : Unpacker α) (queue : Q)
    (priorities : MessagePriorities) (events : List (ThreadsEvent α outCap)) :
    (Run.exec (step p) (create unpacker queue priorities : Threads Q α inCap outCap capacity n)
      events).Locked := by
  have kept (s : Threads Q α inCap outCap capacity n) (event : ThreadsEvent α outCap) (locked : s.Locked) :
      (s.step p event).Locked := locked_step locked event
  exact Run.exec_invariant _ kept ⟨.free, .free⟩ events

/-- However the threads are interleaved: each lock is taken exactly while one of them holds
it, and never held by both; the scope is polled under both locks, a command is run or a
message packed under one, and so never while the scope is polled; no lock stays taken
between two calls; and every call returns after so many steps of its own thread, whatever
the other one does. -/
theorem exclusive [Zero α] (p : Platform α outCap) (unpacker : Unpacker α) (queue : Q)
    (priorities : MessagePriorities) (events : List (ThreadsEvent α outCap)) :
    let s := Run.exec (step p) (create unpacker queue priorities : Threads Q α inCap outCap capacity n) events
    s.Locked ∧
      (s.scopePlace.touches = true → s.scopePlace.holdsConfig = true ∧ s.scopePlace.holdsData = true) ∧
      (s.stackPlace.touches = true → s.stackPlace.holdsConfig = true ∨ s.stackPlace.holdsData = true) ∧
      ¬ (s.scopePlace.touches = true ∧ s.stackPlace.touches = true) ∧
      (s.scopePlace = .outside → s.stackPlace = .outside → s.configMutex = false ∧ s.dataMutex = false) ∧
      ∀ later : List (ThreadsEvent α outCap),
        (6 ≤ later.countP ofScope →
          ∃ before, before <+: later ∧ (Run.exec (step p) s before).scopePlace = .outside) ∧
        (10 ≤ later.countP ofStack →
          ∃ before, before <+: later ∧ (Run.exec (step p) s before).stackPlace = .outside) := by
  intro s
  have locked : s.Locked := locked_exec p unpacker queue priorities events
  refine ⟨locked, ScopePlace.holds_of_touches, StackPlace.holds_of_touches, ?_, ?_,
    fun later => ⟨fun enough => ?_, fun enough => ?_⟩⟩
  · rintro ⟨polling, working⟩
    exact locked.apart polling working
  · intro scopeOut stackOut
    obtain ⟨config, data⟩ := locked
    rw [scopeOut, stackOut] at config data
    exact ⟨config.free_of_none, data.free_of_none⟩
  · exact scope_returns s later (s.scopePlace.left_le.trans enough)
  · exact stack_returns s later (s.stackPlace.left_le.trans enough)

end Exclusive

end Threads

end Builders
