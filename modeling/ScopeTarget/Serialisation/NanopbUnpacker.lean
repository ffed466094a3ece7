import ScopeTarget.Base.Fifo
import ScopeTarget.Control.Commands

/-! Decoding a message of the host into the slots of the unpacker. What
`pb_decode` makes of the bytes of a message is a parameter. -/

namespace Serialisation
open Control

/-- A decoder that succeeds has read the stream to its end. One that fails has
read some bytes, and has filled in what it came across. -/
inductive Decoded (β : Type*) where
  | success (value : β)
  | failure (consumed : Nat) (seen : β)

/-- nanopb, for each of the messages the host can send a payload with. -/
structure PbDecode (α : Type*) where
  evPoll : List UInt8 → Decoded UInt32
  cfRunning : List UInt8 → Decoded (List CfRunningDef)
  cfTrigger : List UInt8 → Decoded (CfTriggerDef α)
  cfTInc : List UInt8 → Decoded UInt32
  cfAddr : List UInt8 → Decoded (List CfAddressDef)

/-- The configuration a message carries. -/
inductive Configuration (α : Type*) where
  | none
  | poll (timestamp : UInt32)
  | running (channels : List CfRunningDef)
  | trigger (config : CfTriggerDef α)
  | tInc (increment : UInt32)
  | address (channels : List CfAddressDef)

namespace Decoded
variable {β γ : Type*} {capacity : Nat}

def status : Decoded β → Bool
  | success _ => true
  | failure _ _ => false

/-- What the input stream still holds after decoding. -/
def unread (input : Fifo capacity UInt8) : Decoded β → Fifo capacity UInt8
  | success _ => .empty
  | failure consumed _ => (input.read (min input.used consumed)).2

/-- A slot that is written only after the message has been decoded. -/
def assign (decoded : Decoded β) (slot : β) : β :=
  match decoded with
  | success value => value
  | failure _ _ => slot

/-- A slot the callback fills while the message is being decoded. -/
def collect : Decoded β → β
  | success value => value
  | failure _ seen => seen

/-- The decoded configuration and the message it belongs to, or a refusal. -/
def outcome (decoded : Decoded β) (type : MessageType) (configuration : β → Configuration γ) :
    MessageType × Configuration γ :=
  match decoded with
  | success value => (type, configuration value)
  | failure _ _ => (.seNak, .none)

end Decoded

namespace NanopbUnpacker
variable {α : Type*} {capacity : Nat}

/-- The callbacks of a list message store every entry and count it; the length of the
array, `maxNumberOfChannels`, is looked at nowhere. -/
def unpack (pb : PbDecode α) (self : Unpacker α × Fifo capacity UInt8) (type : MessageType) :
    Bool × (Unpacker α × Fifo capacity UInt8) :=
  let stream := self.2.contents
  if type = .evPoll then
    let poll := pb.evPoll stream
    (poll.status, { self.1 with evPollTimestamp := poll.assign self.1.evPollTimestamp },
      poll.unread self.2)
  else if type = .cfRunning then
    let running := pb.cfRunning stream
    (running.status, { self.1 with running := running.collect },
      running.unread self.2)
  else if type = .cfTrigger then
    let trigger := pb.cfTrigger stream
    (trigger.status, { self.1 with triggerConfig := trigger.assign self.1.triggerConfig },
      trigger.unread self.2)
  else if type = .cfTInc then
    let tInc := pb.cfTInc stream
    (tInc.status, { self.1 with tInc := tInc.assign self.1.tInc }, tInc.unread self.2)
  else if type = .cfAddr then
    let address := pb.cfAddr stream
    (address.status, { self.1 with address := address.collect },
      address.unread self.2)
  else (true, self)

/-- The slot the parser of a message reads. -/
def configuration (self : Unpacker α) (type : MessageType) : Configuration α :=
  if type = .evPoll then .poll self.evPollTimestamp
  else if type = .cfRunning then .running self.running
  else if type = .cfTrigger then .trigger self.triggerConfig
  else if type = .cfTInc then .tInc self.tInc
  else if type = .cfAddr then .address self.address
  else .none

end NanopbUnpacker

/-- What a message says by itself: its type with the configuration decoded from
its own payload, or a refusal when the payload cannot be decoded. -/
def PbDecode.message {α : Type*} (pb : PbDecode α) (type : MessageType) (payload : List UInt8) :
    MessageType × Configuration α :=
  if type = .evPoll then (pb.evPoll payload).outcome type .poll
  else if type = .cfRunning then (pb.cfRunning payload).outcome type .running
  else if type = .cfTrigger then (pb.cfTrigger payload).outcome type .trigger
  else if type = .cfTInc then (pb.cfTInc payload).outcome type .tInc
  else if type = .cfAddr then (pb.cfAddr payload).outcome type .address
  else (type, .none)

/-- The entries of a list message that nanopb calls back with. -/
def listed {α : Type*} (pb : PbDecode α) (type : MessageType) (bytes : List UInt8) : Nat :=
  if type = .cfRunning then (pb.cfRunning bytes).collect.length
  else if type = .cfAddr then (pb.cfAddr bytes).collect.length
  else 0

namespace NanopbUnpacker
variable {α : Type*} {capacity : Nat}

/-- A message without a decoder of its own. -/
def Plain (type : MessageType) : Prop :=
  type ≠ .evPoll ∧ type ≠ .cfRunning ∧ type ≠ .cfTrigger ∧ type ≠ .cfTInc ∧ type ≠ .cfAddr

instance (type : MessageType) : Decidable (Plain type) := inferInstanceAs (Decidable (_ ∧ _))

theorem plain_cases (type : MessageType) : type = .evPoll ∨ type = .cfRunning ∨ type = .cfTrigger ∨
    type = .cfTInc ∨ type = .cfAddr ∨ Plain type := by
  unfold Plain
  tauto

theorem configuration_of_plain (unpacker : Unpacker α) {type : MessageType} (plain : Plain type) :
    configuration unpacker type = .none := by
  obtain ⟨notPoll, notRunning, notTrigger, notTInc, notAddr⟩ := plain
  rw [configuration, if_neg notPoll, if_neg notRunning, if_neg notTrigger, if_neg notTInc,
    if_neg notAddr]

theorem message_of_plain (pb : PbDecode α) {type : MessageType} (plain : Plain type)
    (payload : List UInt8) : pb.message type payload = (type, .none) := by
  obtain ⟨notPoll, notRunning, notTrigger, notTInc, notAddr⟩ := plain
  rw [PbDecode.message, if_neg notPoll, if_neg notRunning, if_neg notTrigger, if_neg notTInc,
    if_neg notAddr]

theorem outcome_typed {β : Type*} (decoded : Decoded β) {type : MessageType} (typed : type ≠ .seNone)
    (make : β → Configuration α) : (decoded.outcome type make).1 ≠ .seNone := by
  cases decoded with
  | success value => exact typed
  | failure consumed seen => exact (by decide : MessageType.seNak ≠ .seNone)

theorem message_typed (pb : PbDecode α) {type : MessageType} (typed : type ≠ .seNone)
    (payload : List UInt8) : (pb.message type payload).1 ≠ .seNone := by
  unfold PbDecode.message
  split_ifs
  · exact outcome_typed _ typed _
  · exact outcome_typed _ typed _
  · exact outcome_typed _ typed _
  · exact outcome_typed _ typed _
  · exact outcome_typed _ typed _
  · exact typed

theorem unpack_of_plain (pb : PbDecode α)
    (self : Unpacker α × Fifo capacity UInt8) {type : MessageType} (plain : Plain type) :
    unpack pb self type = (true, self) := by
  obtain ⟨notPoll, notRunning, notTrigger, notTInc, notAddr⟩ := plain
  rw [unpack, if_neg notPoll, if_neg notRunning, if_neg notTrigger, if_neg notTInc, if_neg notAddr]

/-- A decoder that fails leads to a refusal, whatever it leaves in the slots. -/
theorem outcome_eq {β : Type*} {decoded : Decoded β} {type told : MessageType}
    {make : β → Configuration α} {unpacker : Unpacker α}
    (reported : told = if decoded.status = true then type else .seNak)
    (kept : ∀ value, decoded = .success value → configuration unpacker type = make value) :
    (told, configuration unpacker told) = decoded.outcome type make := by
  cases decoded with
  | success value =>
      obtain rfl : told = type := reported
      exact congrArg (Prod.mk told) (kept value rfl)
  | failure consumed seen =>
      obtain rfl : told = .seNak := reported
      exact congrArg (Prod.mk MessageType.seNak) (configuration_of_plain unpacker (by decide))

/-- What the unpacker reports, and what it leaves in the slot the command reads,
is what the message says. -/
theorem unpack_message (pb : PbDecode α) (unpacker : Unpacker α) (input : Fifo capacity UInt8)
    {type : MessageType} {unpacked : Bool × (Unpacker α × Fifo capacity UInt8)}
    (result : unpack pb (unpacker, input) type = unpacked) {told : MessageType}
    (reported : told = if unpacked.1 = true then type else .seNak) :
    (told, configuration unpacked.2.1 told) = pb.message type input.contents := by
  subst result
  rcases plain_cases type with rfl | rfl | rfl | rfl | rfl | plain
  · apply outcome_eq reported
    intro value decoded
    exact congrArg (fun d => Configuration.poll (Decoded.assign d _)) decoded
  · apply outcome_eq reported
    intro value decoded
    exact congrArg (fun d => Configuration.running (Decoded.collect d)) decoded
  · apply outcome_eq reported
    intro value decoded
    exact congrArg (fun d => Configuration.trigger (Decoded.assign d _)) decoded
  · apply outcome_eq reported
    intro value decoded
    exact congrArg (fun d => Configuration.tInc (Decoded.assign d _)) decoded
  · apply outcome_eq reported
    intro value decoded
    exact congrArg (fun d => Configuration.address (Decoded.collect d)) decoded
  · rw [unpack_of_plain pb (unpacker, input) plain] at reported ⊢
    obtain rfl : told = type := reported
    rw [message_of_plain pb plain, configuration_of_plain unpacker plain]

theorem status_outcome {β : Type*} (decoded : Decoded β) (type : MessageType)
    (make : β → Configuration α) :
    (if decoded.status = true then type else .seNak) = (decoded.outcome type make).1 := by
  cases decoded with
  | success value => rfl
  | failure consumed seen => rfl

/-- The serializer passes on what the message says by itself. -/
theorem told_unpack (pb : PbDecode α) (unpacker : Unpacker α) (input : Fifo capacity UInt8)
    (type : MessageType) :
    (if (unpack pb (unpacker, input) type).1 = true then type else .seNak) =
      (pb.message type input.contents).1 := by
  rcases plain_cases type with rfl | rfl | rfl | rfl | rfl | plain
  · exact status_outcome (pb.evPoll input.contents) _ _
  · exact status_outcome (pb.cfRunning input.contents) _ _
  · exact status_outcome (pb.cfTrigger input.contents) _ _
  · exact status_outcome (pb.cfTInc input.contents) _ _
  · exact status_outcome (pb.cfAddr input.contents) _ _
  · rw [unpack_of_plain pb (unpacker, input) plain, message_of_plain pb plain]
    rfl

theorem outcome_told {β : Type*} (decoded : Decoded β) (type : MessageType)
    (make : β → Configuration α) :
    (decoded.outcome type make).1 = type ∨ (decoded.outcome type make).1 = .seNak := by
  cases decoded with
  | success value => exact Or.inl rfl
  | failure consumed seen => exact Or.inr rfl

theorem message_told (pb : PbDecode α) (type : MessageType) (payload : List UInt8) :
    (pb.message type payload).1 = type ∨ (pb.message type payload).1 = .seNak := by
  unfold PbDecode.message
  split_ifs
  · exact outcome_told _ type _
  · exact outcome_told _ type _
  · exact outcome_told _ type _
  · exact outcome_told _ type _
  · exact outcome_told _ type _
  · exact Or.inl rfl

end NanopbUnpacker

end Serialisation
