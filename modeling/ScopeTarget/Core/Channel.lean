import ScopeTarget.Base.Fifo

/-! One measurement channel: a poll buffer that is being filled, a swap buffer
that is being packed, and a short stream of the last two samples for the trigger. -/

namespace Core

/-- `CHANNEL_NONE` is never assigned. -/
inductive ChannelStates where
  | init | stopped | running
  deriving DecidableEq, Repr

inductive DataTypes where
  | seInt8 | seInt16 | seInt32 | seUint8 | seUint16 | seUint32 | seFloat
  deriving DecidableEq, Repr

/-- The float that reading an address under a data type yields at one moment. -/
abbrev Memory (α : Type*) := Nat → DataTypes → α

/-- A channel leaves the initial state only once it has an address to poll. -/
structure Channel (capacity : Nat) (α : Type*) where
  pollBuffer : Fifo capacity α
  swapBuffer : Fifo capacity α
  stream : Fifo 4 α
  state : ChannelStates
  pollAddress : Option (Nat × DataTypes)
  oldTriggerData : α
  configured : state = .stopped ∨ state = .running → pollAddress.isSome = true

namespace Channel
variable {capacity : Nat} {α : Type*}

def create [Zero α] : Channel capacity α where
  pollBuffer := .empty
  swapBuffer := .empty
  stream := .empty
  state := .init
  pollAddress := none
  oldTriggerData := 0
  configured := by
    intro h
    rcases h with h | h <;> cases h

def isRunning (c : Channel capacity α) : Bool := c.state = .running

def castDataToFloat (c : Channel capacity α) (memory : Memory α) : Option α :=
  c.pollAddress.map fun address => memory address.1 address.2

def addTriggerData (c : Channel capacity α) (triggerData : α) : Channel capacity α :=
  { c with
    stream := ((Fifo.empty).write [c.oldTriggerData]).write [triggerData]
    oldTriggerData := triggerData }

def setPollAddress (c : Channel capacity α) (pollAddress : Nat) (pollDataType : DataTypes) :
    Channel capacity α :=
  { c with
    pollAddress := some (pollAddress, pollDataType)
    state := if c.state = .init then .stopped else c.state
    configured := fun _ => rfl }

def setStateRunning (c : Channel capacity α) : Channel capacity α :=
  if h : c.state = .stopped then
    { c with state := .running, configured := fun _ => c.configured (.inl h) }
  else c

def setStateStopped (c : Channel capacity α) : Channel capacity α :=
  if h : c.state = .running then
    { c with state := .stopped, configured := fun _ => c.configured (.inr h) }
  else c

/-- A full poll buffer gives up its oldest sample for the new one. -/
def poll (c : Channel capacity α) (memory : Memory α) : Channel capacity α :=
  if c.state = .running then
    match c.castDataToFloat memory with
    | none => c
    | some polledData =>
        { c.addTriggerData polledData with pollBuffer := c.pollBuffer.push polledData }
  else c

def clear (c : Channel capacity α) : Channel capacity α :=
  { c with pollBuffer := .empty, swapBuffer := .empty, stream := .empty }

def getAmountOfUsedPollData (c : Channel capacity α) : Nat := c.pollBuffer.used

def getAmountOfUsedSwapData (c : Channel capacity α) : Nat := c.swapBuffer.used

def swapIsPending (c : Channel capacity α) : Bool :=
  c.pollBuffer.free = 0 ∧ c.swapBuffer.used = 0

def swapBuffers (c : Channel capacity α) : Channel capacity α :=
  { c with swapBuffer := c.pollBuffer, pollBuffer := .empty }

/-- The trigger has read `stream` and left `rest` in it. -/
def withStream (c : Channel capacity α) (rest : Fifo 4 α) : Channel capacity α :=
  { c with stream := rest }

/-- The packer has read everything the swap buffer held. -/
def drained (c : Channel capacity α) : Channel capacity α :=
  { c with swapBuffer := .empty }

theorem isRunning_iff (c : Channel capacity α) : c.isRunning = true ↔ c.state = .running :=
  decide_eq_true_iff

theorem swapIsPending_iff (c : Channel capacity α) :
    c.swapIsPending = true ↔ c.pollBuffer.Full ∧ c.swapBuffer.used = 0 := by
  have bound := c.pollBuffer.used_le
  rw [swapIsPending, decide_eq_true_iff, Fifo.free, Fifo.Full]
  omega

section Fields
variable (c : Channel capacity α)

@[simp] theorem state_withStream (rest : Fifo 4 α) : (c.withStream rest).state = c.state := rfl
@[simp] theorem pollBuffer_withStream (rest : Fifo 4 α) :
    (c.withStream rest).pollBuffer = c.pollBuffer := rfl
@[simp] theorem swapBuffer_withStream (rest : Fifo 4 α) :
    (c.withStream rest).swapBuffer = c.swapBuffer := rfl

@[simp] theorem state_drained : c.drained.state = c.state := rfl
@[simp] theorem pollBuffer_drained : c.drained.pollBuffer = c.pollBuffer := rfl
@[simp] theorem swapBuffer_drained : c.drained.swapBuffer = .empty := rfl

@[simp] theorem state_clear : c.clear.state = c.state := rfl
@[simp] theorem pollBuffer_clear : c.clear.pollBuffer = .empty := rfl
@[simp] theorem swapBuffer_clear : c.clear.swapBuffer = .empty := rfl

@[simp] theorem state_swapBuffers : c.swapBuffers.state = c.state := rfl
@[simp] theorem pollBuffer_swapBuffers : c.swapBuffers.pollBuffer = .empty := rfl
@[simp] theorem swapBuffer_swapBuffers : c.swapBuffers.swapBuffer = c.pollBuffer := rfl

@[simp] theorem pollBuffer_setPollAddress (a : Nat) (type : DataTypes) :
    (c.setPollAddress a type).pollBuffer = c.pollBuffer := rfl
@[simp] theorem swapBuffer_setPollAddress (a : Nat) (type : DataTypes) :
    (c.setPollAddress a type).swapBuffer = c.swapBuffer := rfl

@[simp] theorem pollBuffer_setStateRunning : c.setStateRunning.pollBuffer = c.pollBuffer := by
  unfold setStateRunning
  split <;> rfl

@[simp] theorem swapBuffer_setStateRunning : c.setStateRunning.swapBuffer = c.swapBuffer := by
  unfold setStateRunning
  split <;> rfl

@[simp] theorem pollBuffer_setStateStopped : c.setStateStopped.pollBuffer = c.pollBuffer := by
  unfold setStateStopped
  split <;> rfl

@[simp] theorem swapBuffer_setStateStopped : c.setStateStopped.swapBuffer = c.swapBuffer := by
  unfold setStateStopped
  split <;> rfl

end Fields

section States
variable (c : Channel capacity α)

theorem state_setStateRunning :
    c.setStateRunning.state = if c.state = .stopped then .running else c.state := by
  unfold setStateRunning
  split <;> rfl

theorem state_setStateStopped :
    c.setStateStopped.state = if c.state = .running then .stopped else c.state := by
  unfold setStateStopped
  split <;> rfl

theorem state_setPollAddress (a : Nat) (type : DataTypes) :
    (c.setPollAddress a type).state = if c.state = .init then .stopped else c.state := rfl

theorem not_running_setStateStopped : c.setStateStopped.state ≠ .running := by
  rw [state_setStateStopped]
  split
  · intro h
    cases h
  · assumption

theorem running_setPollAddress {a : Nat} {type : DataTypes} :
    (c.setPollAddress a type).state = .running ↔ c.state = .running := by
  rw [state_setPollAddress]
  split
  · rename_i h
    simp only [h, reduceCtorEq]
  · rfl

/-- Whether the host has given the channel something to poll. -/
def Configured (c : Channel capacity α) : Prop := c.state = .stopped ∨ c.state = .running

instance : Decidable c.Configured := inferInstanceAs (Decidable (_ ∨ _))

theorem configured_setStateRunning (h : c.Configured) : c.setStateRunning.state = .running := by
  rw [state_setStateRunning]
  rcases h with h | h <;> simp only [h, if_true, reduceCtorEq, if_false]

theorem configured_of_setStateRunning : c.setStateRunning.Configured ↔ c.Configured := by
  unfold Configured
  rw [state_setStateRunning]
  split <;> simp_all

theorem configured_of_setStateStopped : c.setStateStopped.Configured ↔ c.Configured := by
  unfold Configured
  rw [state_setStateStopped]
  split <;> simp_all

theorem configured_setPollAddress (a : Nat) (type : DataTypes) :
    (c.setPollAddress a type).Configured := by
  unfold Configured
  rw [state_setPollAddress]
  cases c.state with
  | init => exact .inl rfl
  | stopped => exact .inl rfl
  | running => exact .inr rfl

end States

section Poll
variable (c : Channel capacity α) (memory : Memory α)

@[simp] theorem state_poll : (c.poll memory).state = c.state := by
  unfold poll
  split
  · split <;> rfl
  · rfl

@[simp] theorem swapBuffer_poll : (c.poll memory).swapBuffer = c.swapBuffer := by
  unfold poll
  split
  · split <;> rfl
  · rfl

theorem poll_of_not_running {c : Channel capacity α} (h : c.state ≠ .running) :
    c.poll memory = c := by
  unfold poll
  split
  · contradiction
  · rfl

/-- A running channel always has a sample to record. -/
theorem poll_of_running {c : Channel capacity α} (h : c.state = .running) :
    ∃ x, c.castDataToFloat memory = some x ∧ (c.poll memory).pollBuffer = c.pollBuffer.push x := by
  obtain ⟨address, eq⟩ := Option.isSome_iff_exists.mp (c.configured (.inr h))
  have sample : c.castDataToFloat memory = some (memory address.1 address.2) := by
    rw [castDataToFloat, eq]
    rfl
  refine ⟨_, sample, ?_⟩
  unfold poll
  split
  · rw [sample]
  · contradiction

theorem used_poll_of_running {c : Channel capacity α} (h : c.state = .running) :
    (c.poll memory).pollBuffer.used = min capacity (c.pollBuffer.used + 1) := by
  obtain ⟨x, -, eq⟩ := poll_of_running memory h
  rw [eq, Fifo.used_push]

end Poll

end Channel

end Core
