import ScopeTarget.Builders.HandledCommands
import ScopeTarget.Control.AckLock

/-! Which messages of the host open the lock of a controller that waits for an
acknowledgement, once they have passed the serializer and the controller. -/

namespace Builders
open Control Serialisation FramedIO ProductiveAgingPriorityQueue

namespace Stack
variable {Q α : Type*} {inCap outCap : Nat}

/-- The framer has told the serializer of a frame of this type. -/
def arrived (s : Stack Q α inCap outCap) (type : MessageType) : Stack Q α inCap outCap :=
  { s with sending := { s.sending with serializer := s.sending.serializer.updateUnpacker type } }

/-- The payload in the input buffer is not turned into a refusal. -/
def Decodes (pb : PbDecode α) (s : Stack Q α inCap outCap) (type : MessageType) : Prop :=
  (pb.message type s.rx.input.contents).1 = type

instance (pb : PbDecode α) (s : Stack Q α inCap outCap) (type : MessageType) :
    Decidable (s.Decodes pb type) := inferInstanceAs (Decidable (_ = _))

variable [AgingPriorityQueue Q]

/-- The frame passes through the rx runnables of the serializer and the controller. -/
def passed (pb : PbDecode α) (amountOfChannels : Nat) (s : Stack Q α inCap outCap)
    (type : MessageType) : Stack Q α inCap outCap :=
  runCommandParser amountOfChannels (runUnpacker pb (s.arrived type))

/-- However the queue is filled after the frame, an event of it is handed over
as soon as the packer is ready. -/
def UnlockedBy (pb : PbDecode α) (amountOfChannels : Nat) (s : Stack Q α inCap outCap)
    (type : MessageType) : Prop :=
  ∀ (notified : List MessageType) (logIsPending : Bool),
    let controller := notified.foldl Controller.commandPackPushEvent
      (s.passed pb amountOfChannels type).sending.controller
    AgingPriorityQueue.empty controller.queue = false →
      ∃ event, (controller.runTx true logIsPending).1 = some event

/-- What the controller finds when it processes the frame. -/
theorem controller_passed (pb : PbDecode α) (amountOfChannels : Nat) (s : Stack Q α inCap outCap)
    {type : MessageType} (named : type ≠ .seNone) :
    ∃ unpacker, (s.passed pb amountOfChannels type).sending.controller =
      ((s.sending.controller.commandUpdate (pb.message type s.rx.input.contents).1).runRx
        amountOfChannels unpacker).2.2 := by
  have pending := runRx_pending pb (s.sending.serializer.updateUnpacker type) named
    (s.unpacker, s.rx.input)
  have told := NanopbUnpacker.told_unpack pb s.unpacker s.rx.input type
  unfold passed runCommandParser runUnpacker arrived
  dsimp only at pending ⊢
  rw [pending]
  exact ⟨_, congrArg (fun told =>
    ((s.sending.controller.commandUpdate told).runRx amountOfChannels _).2.2) told⟩

variable [ProductiveAgingPriorityQueue Q]

/-- The lock opens for every message that can open it, except `SE_NAK` and those
whose payload is turned into an `SE_NAK`. -/
theorem unlockedBy_iff (pb : PbDecode α) (amountOfChannels : Nat) {s : Stack Q α inCap outCap}
    (blocked : s.sending.controller.waitForAck = true) {type : MessageType}
    (unlocking : Controller.messageCanUnlockAckLock type = true) :
    s.UnlockedBy pb amountOfChannels type ↔ type ≠ .seNak ∧ s.Decodes pb type := by
  have named : type ≠ .seNone := by
    rintro rfl
    cases unlocking
  obtain ⟨unpacker, controller⟩ := s.controller_passed pb amountOfChannels named
  unfold UnlockedBy
  rw [controller]
  constructor
  · intro unlocked
    by_contra refused
    have nak : (pb.message type s.rx.input.contents).1 = .seNak := by
      by_cases decodes : s.Decodes pb type
      · rw [decodes]
        exact not_not.mp fun notNak => refused ⟨notNak, decodes⟩
      · exact (NanopbUnpacker.message_told pb type s.rx.input.contents).resolve_left decodes
    rw [nak, Controller.runRx_of_nak amountOfChannels unpacker rfl] at unlocked
    obtain ⟨event, sent⟩ := unlocked [] false (nonempty_push _ _ _)
    have locked : { (s.sending.controller.commandUpdate .seNak).commandPackPushEvent .seNak with
        commandPending := .seNone }.waitForAck = true := blocked
    rw [List.foldl_nil, Controller.runTx_of_locked locked] at sent
    cases sent
  · rintro ⟨notNak, decodes⟩
    rw [decodes]
    intro notified logIsPending queue some_
    apply Controller.runTx_hands_over _ some_ logIsPending
    rw [Controller.waitForAck_notified]
    exact Controller.waitForAck_runRx_of_unlocking amountOfChannels unpacker named notNak unlocking

section Run
open Served

/-- The data set asked for by an `EV_TRANS` has been notified. -/
def transmitting : Controller (List MessageType) Int :=
  ((create decoded [] ⟨2, 3, 4⟩ : Stack (List MessageType) Int 8 8).passed oneField 2
    .evTrans).sending.controller.commandPackPushEvent .scData

/-- It has been handed over, and the host owes a reply. -/
def unanswered : Stack (List MessageType) Int 8 8 :=
  let new : Stack (List MessageType) Int 8 8 := create decoded [] ⟨2, 3, 4⟩
  { new with sending := { new.sending with controller := (transmitting.runTx true false).2 } }

theorem unlockedBy_ack : unanswered.UnlockedBy oneField 2 .seAck :=
  (unlockedBy_iff oneField 2 (by decide) (by decide)).mpr ⟨by decide, by decide⟩

/-- The host turns the data set down, and is never sent anything again. -/
theorem unlockedBy_fails :
    (transmitting.runTx true false).1 = some .scData ∧
      unanswered.sending.controller.waitForAck = true ∧
      Controller.messageCanUnlockAckLock .seNak = true ∧ ¬ unanswered.UnlockedBy oneField 2 .seNak := by
  refine ⟨by decide, by decide, by decide, ?_⟩
  intro unlocked
  obtain ⟨event, sent⟩ := unlocked [] false (by decide)
  have silent : ((unanswered.passed oneField 2 .seNak).sending.controller.runTx true false).1 = none := by
    decide
  cases silent.symm.trans sent

end Run

end Stack

end Builders
