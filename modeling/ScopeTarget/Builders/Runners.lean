import ScopeTarget.Builders.Interleavings

/-! The two runners. What `ScopeRunner_run` does in one thread, the threads of
`ScopeThreadRunner` do under one of their schedules, so it keeps what they keep. -/

namespace Builders
open Core Control Serialisation FramedIO

/-- Bytes come in and are fetched between two iterations. -/
inductive RunnerEvent (α : Type*) (outCap : Nat) where
  | putRxData (bytes : List UInt8)
  | getTxData (length : Nat)
  | run (parsing polling : Moment α) (logIsPending : Bool) (other : Written outCap)

namespace RunnerEvent
variable {α : Type*} {outCap : Nat}

def targetEvents : RunnerEvent α outCap → List (TargetEvent α outCap)
  | .putRxData bytes => [.putRxData bytes]
  | .getTxData length => [.getTxData length]
  | .run parsing polling logIsPending other => runnerEvents parsing polling logIsPending other

end RunnerEvent

namespace Target
variable {Q α : Type*} {inCap outCap capacity n : Nat} [AgingPriorityQueue Q] [LT α] [DecidableLT α] [BEq α]

def runnerStep (p : Platform α outCap) (t : Target Q α inCap outCap capacity n) (event : RunnerEvent α outCap) :
    Target Q α inCap outCap capacity n := Run.exec (step p) t event.targetEvents

variable {t : Target Q α inCap outCap capacity n}

/-- Without a command the parser does nothing. -/
theorem runCommandParser_of_none (overflow : Overflow) (none_ : t.stack.commandPending = .seNone)
    (moment : Moment α) : t.runCommandParser overflow moment = t := by
  have nothing : t.stack.sending.controller.runRx (n + 1) t.stack.unpacker =
      (false, ⟨[], []⟩, t.stack.sending.controller) := if_pos none_
  unfold runCommandParser Stack.runCommandParser
  simp only [nothing, List.foldl_nil]

/-- A scope that is not ready to run is polled in vain. -/
theorem runScope_of_not_ready (overflow : Overflow) (waits : t.scope.scopeIsReadyToRun = false)
    (moment : Moment α) : t.runScope overflow moment = t := by
  have polled : t.data.scope.poll overflow moment.now moment.memory = (false, t.data.scope) := if_pos waits
  unfold runScope act DataPacking.announces DataPacking.step DataPacking.operate Scope.handsOver Scope.step
  simp only [polled, Bool.false_eq_true, if_false]

end Target

namespace Threads
variable {Q α : Type*} {inCap outCap capacity n : Nat} [AgingPriorityQueue Q] [LT α] [DecidableLT α] [BEq α]
  {p : Platform α outCap}

/-- Both threads are between two calls. -/
def between (t : Target Q α inCap outCap capacity n) : Threads Q α inCap outCap capacity n :=
  ⟨t, false, false, .outside, .outside⟩

section Calls
variable (t : Target Q α inCap outCap capacity n)

/-- The thread of the stack gets as far as the lock of the data. -/
theorem receives (parsing : Moment α) (logIsPending : Bool) (other : Written outCap) :
    ∃ schedule : List (ThreadsEvent α outCap), Run.exec (step p) (between t) schedule =
      { between (Run.exec (Target.step p) t [.runCommunicationRx, .runUnpacker, .runCommandParser parsing]) with
        stackPlace := .asksData } := by
  let turn := ThreadsEvent.stack parsing logIsPending other
  by_cases pending : ((t.step p .runCommunicationRx).step p .runUnpacker).stack.commandPending = .seNone
  · have same : ((t.step p .runCommunicationRx).step p .runUnpacker).step p (.runCommandParser parsing) =
        (t.step p .runCommunicationRx).step p .runUnpacker :=
      Target.runCommandParser_of_none p.overflow pending parsing
    refine ⟨[turn, turn, turn], ?_⟩
    simp [turn, step, stepStack, between, pending, same]
  · refine ⟨[turn, turn, turn, turn, turn, turn], ?_⟩
    simp [turn, step, stepStack, between, pending]

/-- The thread of the scope makes one call while the other one waits for the data. -/
theorem polls (polling : Moment α) :
    ∃ schedule : List (ThreadsEvent α outCap),
      Run.exec (step p) { between t with stackPlace := .asksData } schedule =
        { between (t.step p (.runScope polling)) with stackPlace := .asksData } := by
  let turn : ThreadsEvent α outCap := .scope polling
  by_cases active : t.scope.scopeIsRunning = true ∨ t.scope.scopeIsReadyToRun = true
  · refine ⟨[turn, turn, turn, turn, turn, turn, turn], ?_⟩
    simp [turn, step, stepScope, between, active]
    rfl
  · have waits : t.scope.scopeIsReadyToRun = false := by simpa using (not_or.mp active).2
    have same : t.step p (.runScope polling) = t := Target.runScope_of_not_ready p.overflow waits polling
    refine ⟨[turn, turn, turn], ?_⟩
    simp [turn, step, stepScope, between, active, same]

/-- The thread of the stack ends its call. -/
theorem sends (parsing : Moment α) (logIsPending : Bool) (other : Written outCap) :
    ∃ schedule : List (ThreadsEvent α outCap),
      Run.exec (step p) { between t with stackPlace := .asksData } schedule =
        between (Run.exec (Target.step p) t
          [.runDataAggregator logIsPending, .runPacker other, .runCommunicationTx]) := by
  let turn := ThreadsEvent.stack parsing logIsPending other
  refine ⟨[turn, turn, turn, turn, turn], ?_⟩
  simp [turn, step, stepStack, between]

/-- An iteration of the runner is a call of each thread. -/
theorem iterates (parsing polling : Moment α) (logIsPending : Bool) (other : Written outCap) :
    ∃ schedule : List (ThreadsEvent α outCap), Run.exec (step p) (between t) schedule =
      between (Run.exec (Target.step p) t (runnerEvents parsing polling logIsPending other)) := by
  let received := Run.exec (Target.step p) t [.runCommunicationRx, .runUnpacker, .runCommandParser parsing]
  obtain ⟨before, receives⟩ := receives (p := p) t parsing logIsPending other
  obtain ⟨meanwhile, polls⟩ := polls (p := p) received polling
  obtain ⟨behind, sends⟩ := sends (p := p) (received.step p (.runScope polling)) parsing logIsPending other
  refine ⟨before ++ (meanwhile ++ behind), ?_⟩
  calc Run.exec (step p) (between t) (before ++ (meanwhile ++ behind))
      = Run.exec (step p) { between received with stackPlace := .asksData } (meanwhile ++ behind) := by
        rw [Run.exec_append, receives]
    _ = Run.exec (step p) { between (received.step p (.runScope polling)) with stackPlace := .asksData }
          behind := by
        rw [Run.exec_append, polls]
    _ = between (Run.exec (Target.step p) t (runnerEvents parsing polling logIsPending other)) := by
        rw [sends]
        simp only [received, runnerEvents, Run.exec_cons, Run.exec_nil]

end Calls

/-- Whatever comes in, the threads can do what the runner does. -/
theorem run_as_runner (t : Target Q α inCap outCap capacity n) (events : List (RunnerEvent α outCap)) :
    ∃ schedule : List (ThreadsEvent α outCap), Run.exec (step p) (between t) schedule =
      between (Run.exec (Target.runnerStep p) t events) := by
  induction events generalizing t with
  | nil => exact ⟨[], rfl⟩
  | cons event events ih =>
      obtain ⟨first, made⟩ : ∃ schedule : List (ThreadsEvent α outCap),
          Run.exec (step p) (between t) schedule = between (t.runnerStep p event) := by
        cases event with
        | putRxData bytes => exact ⟨[.putRxData bytes], rfl⟩
        | getTxData length => exact ⟨[.getTxData length], rfl⟩
        | run parsing polling logIsPending other => exact iterates t parsing polling logIsPending other
      obtain ⟨rest, done⟩ := ih (t.runnerStep p event)
      refine ⟨first ++ rest, ?_⟩
      rw [Run.exec_append, made]
      exact done

end Threads

end Builders
