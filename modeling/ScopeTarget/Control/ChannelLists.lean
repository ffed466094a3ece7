import ScopeTarget.Control.Controller
import ScopeTarget.Base.Run

/-! Lists of channels in a message: whether a message takes effect as a whole or
not at all, whatever the messages before it have left in the command objects. -/

namespace Control
open Core

/-- Either all the intended calls or none of them, and one answer to the host. -/
def Atomic {α : Type*} (intended : List (ScopeCall α)) (effects : Effects α) : Prop :=
  (effects.calls = intended ∨ effects.calls = []) ∧
    (effects.notified = [.seAck] ∨ effects.notified = [.seNak])

section ChannelLists
variable {ε α : Type*} {amountOfChannels : Nat} {id : ε → UInt32} {call : ε → Option (ScopeCall α)}
  {valid : ε → Bool} {stored conf : List ε}

theorem atomic_of_exist (exist : ∀ e ∈ conf, (id e).toNat < amountOfChannels) :
    Atomic (conf.filterMap call) (runChannelList amountOfChannels id call conf) := by
  rw [runChannelList_of_exist exist]
  exact ⟨.inl rfl, .inl rfl⟩

theorem not_atomic_of_missing {intended : List (ScopeCall α)} {e : ε} (member : e ∈ conf)
    (missing : amountOfChannels ≤ (id e).toNat) :
    ¬ Atomic intended (runChannelList amountOfChannels id call conf) := by
  intro atomic
  have silent : (runChannelList amountOfChannels id call conf).notified = [] :=
    runChannelList_silent member missing
  rcases atomic.2 with answer | answer <;> rw [silent] at answer <;> cases answer

/-- A stored list that runs again is never what a refused message asked for:
the refused entry would have to be among the stored ones. -/
theorem not_atomic_of_replay (passed : Passed amountOfChannels id valid stored)
    (nonempty : stored ≠ []) (called : ∀ e, valid e = true → (call e).isSome = true)
    (distinct : ∀ e e' c, call e = some c → call e' = some c → id e = id e' ∧ valid e = valid e')
    {e : ε} (member : e ∈ conf) (asked : (call e).isSome = true)
    (bad : amountOfChannels < (id e).toNat ∨ valid e = false) :
    ¬ Atomic (conf.filterMap call) (runChannelList amountOfChannels id call stored) := by
  by_cases exist : ∀ e ∈ stored, (id e).toNat < amountOfChannels
  · rw [runChannelList_of_exist exist]
    intro atomic
    rcases atomic.1 with same | none
    · obtain ⟨c, made⟩ := Option.isSome_iff_exists.mp asked
      have again : c ∈ stored.filterMap call := by
        rw [show stored.filterMap call = conf.filterMap call from same]
        exact List.mem_filterMap.mpr ⟨e, member, made⟩
      obtain ⟨e', kept, made'⟩ := List.mem_filterMap.mp again
      obtain ⟨sameId, sameValid⟩ := distinct e e' c made made'
      obtain ⟨within, good⟩ := passed e' kept
      rcases bad with beyond | invalid
      · rw [sameId] at beyond
        exact absurd within (Nat.not_le.mpr beyond)
      · rw [sameValid, good] at invalid
        cases invalid
    · obtain ⟨e', kept⟩ := List.exists_mem_of_ne_nil stored nonempty
      obtain ⟨c, made⟩ := Option.isSome_iff_exists.mp (called e' (passed e' kept).2)
      have here : c ∈ stored.filterMap call := List.mem_filterMap.mpr ⟨e', kept, made⟩
      rw [show stored.filterMap call = [] from none] at here
      cases here
  · simp only [not_forall, Nat.not_lt] at exist
    obtain ⟨e', kept, missing⟩ := exist
    exact not_atomic_of_missing kept missing

theorem atomic_setAttributes_iff (short : conf.length ≤ amountOfChannels)
    (passed : Passed amountOfChannels id valid stored)
    (called : ∀ e, valid e = true → (call e).isSome = true)
    (distinct : ∀ e e' c, call e = some c → call e' = some c → id e = id e' ∧ valid e = valid e')
    (asked : ∀ e ∈ conf, (call e).isSome = true) :
    Atomic (conf.filterMap call) (runChannelList amountOfChannels id call
        (setAttributes amountOfChannels id valid stored conf)) ↔
      (∀ e ∈ conf, (id e).toNat < amountOfChannels ∧ valid e = true) ∨
        ((∃ e ∈ conf, amountOfChannels < (id e).toNat ∨ valid e = false) ∧ stored = []) := by
  by_cases refused : ∃ e ∈ conf, amountOfChannels < (id e).toNat ∨ valid e = false
  · obtain ⟨e, member, bad⟩ := refused
    rw [setAttributes_of_bad member bad]
    constructor
    · intro atomic
      refine .inr ⟨⟨e, member, bad⟩, ?_⟩
      by_contra nonempty
      exact not_atomic_of_replay passed nonempty called distinct member (asked e member) bad atomic
    · intro h
      rcases h with good | ⟨-, empty⟩
      · obtain ⟨within, legal⟩ := good e member
        rcases bad with beyond | invalid
        · exact absurd (Nat.le_of_lt within) (Nat.not_le.mpr beyond)
        · rw [legal] at invalid
          cases invalid
      · rw [empty]
        exact ⟨.inr rfl, .inl rfl⟩
  · have accepted : Passed amountOfChannels id valid conf := by
      intro e member
      constructor
      · exact Nat.not_lt.mp fun beyond => refused ⟨e, member, .inl beyond⟩
      · rw [← Bool.not_eq_false]
        exact fun invalid => refused ⟨e, member, .inr invalid⟩
    rw [setAttributes_of_passed short accepted]
    constructor
    · intro atomic
      refine .inl fun e member => ⟨?_, (accepted e member).2⟩
      by_contra missing
      exact not_atomic_of_missing member (Nat.not_lt.mp missing) atomic
    · intro h
      rcases h with good | ⟨bad, -⟩
      · exact atomic_of_exist fun e member => (good e member).1
      · exact absurd bad refused

end ChannelLists

namespace CommandRunning
variable {α : Type*} {amountOfChannels : Nat} {config conf : List RunningEntry}

theorem call_of_legal {e : RunningEntry} (h : legal e = true) :
    (call e : Option (ScopeCall α)).isSome = true := by
  rcases of_decide_eq_true h with state | state <;> rw [call, state] <;> rfl

theorem call_distinct {e e' : RunningEntry} {c : ScopeCall α} (made : call e = some c)
    (made' : call e' = some c) :
    e.changedChannel = e'.changedChannel ∧ legal e = legal e' := by
  rcases e with ⟨id, state⟩
  rcases e' with ⟨id', state'⟩
  have same : (call ⟨id, state⟩ : Option (ScopeCall α)) = call ⟨id', state'⟩ := made.trans made'.symm
  cases state <;> cases state' <;> cases made <;> cases same <;> exact ⟨rfl, rfl⟩

theorem atomic_iff (short : conf.length ≤ amountOfChannels)
    (passed : Passed amountOfChannels RunningEntry.changedChannel legal config)
    (parsed : ∀ e ∈ conf, legal e = true) :
    Atomic (conf.filterMap call : List (ScopeCall α))
        (run amountOfChannels (setAttributes amountOfChannels config conf)) ↔
      (∀ e ∈ conf, e.changedChannel.toNat < amountOfChannels ∧ legal e = true) ∨
        ((∃ e ∈ conf, amountOfChannels < e.changedChannel.toNat ∨ legal e = false) ∧ config = []) := by
  apply atomic_setAttributes_iff short passed
  · intro e
    exact call_of_legal
  · intro e e' c
    exact call_distinct
  · intro e member
    exact call_of_legal (parsed e member)

end CommandRunning

namespace CommandAddr
variable {α : Type*} {amountOfChannels : Nat} {config conf : List AddrEntry}

theorem call_distinct {e e' : AddrEntry} {c : ScopeCall α} (made : call e = some c)
    (made' : call e' = some c) :
    e.changedChannel = e'.changedChannel ∧ legal e = legal e' := by
  rcases e with ⟨id, address, type⟩
  rcases e' with ⟨id', address', type'⟩
  cases made
  cases made'
  exact ⟨rfl, rfl⟩

theorem atomic_iff (short : conf.length ≤ amountOfChannels)
    (passed : Passed amountOfChannels AddrEntry.changedChannel legal config) :
    Atomic (conf.filterMap call : List (ScopeCall α))
        (run amountOfChannels (setAttributes amountOfChannels config conf)) ↔
      (∀ e ∈ conf, e.changedChannel.toNat < amountOfChannels ∧ legal e = true) ∨
        ((∃ e ∈ conf, amountOfChannels < e.changedChannel.toNat ∨ legal e = false) ∧ config = []) := by
  apply atomic_setAttributes_iff short passed
  · intro e _
    rfl
  · intro e e' c
    exact call_distinct
  · intro e _
    rfl

end CommandAddr

/-- A message as the controller finds it: its type, and what the unpacker holds. -/
structure Received (α : Type*) where
  type : MessageType
  unpacker : Unpacker α

namespace Controller
variable {Q α : Type*} [AgingPriorityQueue Q]

def process (amountOfChannels : Nat) (self : Controller Q α) (message : Received α) :
    Bool × Effects α × Controller Q α :=
  (self.commandUpdate message.type).runRx amountOfChannels message.unpacker

def step (amountOfChannels : Nat) (self : Controller Q α) (message : Received α) : Controller Q α :=
  (self.process amountOfChannels message).2.2

end Controller

/-- The lists in the command objects have passed their checks. -/
structure Commands.Passed {α : Type*} (amountOfChannels : Nat) (c : Commands α) : Prop where
  running : Control.Passed amountOfChannels RunningEntry.changedChannel CommandRunning.legal c.running
  addr : Control.Passed amountOfChannels AddrEntry.changedChannel CommandAddr.legal c.addr

namespace Commands
variable {α : Type*} {amountOfChannels : Nat}

theorem passed_create : (create : Commands α).Passed amountOfChannels where
  running _ member := nomatch member
  addr _ member := nomatch member

theorem Passed.dispatch {c : Commands α} (passed : c.Passed amountOfChannels)
    (unpacker : Unpacker α) (type : MessageType) :
    (CommandParserDispatcher.run amountOfChannels unpacker c type).2.Passed amountOfChannels := by
  unfold CommandParserDispatcher.run
  repeat' split
  · exact ⟨passed_setAttributes passed.running, passed.addr⟩
  · exact passed
  · exact ⟨passed.running, passed_setAttributes passed.addr⟩
  · exact ⟨passed.running, passed.addr⟩
  · exact passed
  · exact ⟨passed.running, passed.addr⟩
  all_goals exact passed

end Commands

namespace Controller
variable {Q α : Type*} [AgingPriorityQueue Q]

theorem commands_push (self : Controller Q α) (event : MessageType) :
    (self.commandPackPushEvent event).commands = self.commands :=
  self.commandPackPushEvent_cases event (fun _ _ _ => rfl) rfl

theorem passed_step {amountOfChannels : Nat} (self : Controller Q α) (message : Received α)
    (passed : self.commands.Passed amountOfChannels) :
    (self.step amountOfChannels message).commands.Passed amountOfChannels := by
  dsimp only [step, process, runRx]
  split
  · exact passed
  · split
    · have kept := (self.commandUpdate message.type).commands_push .seNak
      exact kept.symm ▸ passed
    · exact passed.dispatch message.unpacker message.type

theorem passed_of_history (amountOfChannels : Nat) (queue : Q) (priorities : MessagePriorities)
    (history : List (Received α)) :
    (Run.exec (step amountOfChannels) (create queue priorities) history).commands.Passed
      amountOfChannels := by
  exact Run.exec_invariant _ passed_step Commands.passed_create history

/-- What a list of start and stop requests asks of the scope. -/
def runningCalls (running : List CfRunningDef) : List (ScopeCall α) :=
  running.map fun r => if r.newState = true then .setChannelRunning r.id else .setChannelStopped r.id

/-- What a list of addresses asks of the scope. -/
def addressCalls (address : List CfAddressDef) : List (ScopeCall α) :=
  address.map fun a => .configureChannelAddress a.address a.id a.type

theorem runningCalls_eq (running : List CfRunningDef) :
    (runningCalls running : List (ScopeCall α)) =
      (CommandRunningParser.conf running).filterMap CommandRunning.call := by
  induction running with
  | nil => rfl
  | cons r rs ih =>
      have rest : runningCalls (r :: rs) =
        (if r.newState = true then ScopeCall.setChannelRunning r.id else .setChannelStopped r.id)
          :: (runningCalls rs : List (ScopeCall α)) := rfl
      rw [rest, ih]
      cases state : r.newState <;> simp [CommandRunningParser.conf, CommandRunning.call, state]

theorem addressCalls_eq {amountOfChannels : Nat} {address : List CfAddressDef}
    (short : address.length ≤ amountOfChannels) : (addressCalls address : List (ScopeCall α)) =
      (CommandAddrParser.conf amountOfChannels address).filterMap CommandAddr.call := by
  rw [CommandAddrParser.conf_of_short short, List.filterMap_map, addressCalls, ← List.filterMap_eq_map]
  rfl

theorem running_atomic_iff {amountOfChannels : Nat} {self : Controller Q α} {unpacker : Unpacker α}
    (passed : self.commands.Passed amountOfChannels)
    (short : unpacker.running.length ≤ amountOfChannels) :
    Atomic (runningCalls unpacker.running)
        (self.process amountOfChannels ⟨.cfRunning, unpacker⟩).2.1 ↔
      (∀ r ∈ unpacker.running, r.id.toNat < amountOfChannels) ∨
        ((∃ r ∈ unpacker.running, amountOfChannels < r.id.toNat) ∧ self.commands.running = []) := by
  have effects : (self.process amountOfChannels ⟨.cfRunning, unpacker⟩).2.1 =
      CommandRunning.run amountOfChannels (CommandRunning.setAttributes amountOfChannels
        self.commands.running (CommandRunningParser.conf unpacker.running)) := rfl
  have parsed (r : CfRunningDef) :
      CommandRunning.legal ⟨r.id, if r.newState = true then .running else .stopped⟩ = true := by
    cases r.newState <;> rfl
  have length : (CommandRunningParser.conf unpacker.running).length ≤ amountOfChannels :=
    (List.length_map _).trans_le short
  rw [runningCalls_eq, effects, CommandRunning.atomic_iff length passed.running ?_]
  · simp only [CommandRunningParser.conf, List.mem_map, forall_exists_index, and_imp,
      forall_apply_eq_imp_iff₂, exists_exists_and_eq_and, parsed, Bool.true_eq_false, and_true, or_false]
  · intro e member
    obtain ⟨r, -, rfl⟩ := List.mem_map.mp member
    exact parsed r

theorem address_atomic_iff {amountOfChannels : Nat} {self : Controller Q α} {unpacker : Unpacker α}
    (passed : self.commands.Passed amountOfChannels)
    (short : unpacker.address.length ≤ amountOfChannels) :
    Atomic (addressCalls unpacker.address)
        (self.process amountOfChannels ⟨.cfAddr, unpacker⟩).2.1 ↔
      (∀ a ∈ unpacker.address, a.id.toNat < amountOfChannels ∧ a.address ≠ 0) ∨
        ((∃ a ∈ unpacker.address, amountOfChannels < a.id.toNat ∨ a.address = 0) ∧
          self.commands.addr = []) := by
  have effects : (self.process amountOfChannels ⟨.cfAddr, unpacker⟩).2.1 =
      CommandAddr.run amountOfChannels (CommandAddr.setAttributes amountOfChannels
        self.commands.addr (CommandAddrParser.conf amountOfChannels unpacker.address)) := rfl
  have length := CommandAddrParser.length_conf_le amountOfChannels unpacker.address
  rw [addressCalls_eq short, effects, CommandAddr.atomic_iff length passed.addr,
    CommandAddrParser.conf_of_short short]
  simp only [List.mem_map, forall_exists_index, and_imp, forall_apply_eq_imp_iff₂,
    exists_exists_and_eq_and, CommandAddr.legal, decide_eq_true_eq, decide_eq_false_iff_not, not_not]

section Run

def holding (running : List CfRunningDef) (address : List CfAddressDef) : Unpacker Int :=
  ⟨0, running, address, ⟨0, true, 0, 0⟩, 0⟩

end Run

end Controller

end Control
