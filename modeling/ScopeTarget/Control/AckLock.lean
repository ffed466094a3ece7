import ScopeTarget.Base.Run
import ScopeTarget.Control.EventQueue

/-! Who waits for whom. Beside the controller stands what the code does not keep:
whether the host still owes a reply. While it does, the controller is silent. -/

namespace Control

/-- What happens at the controller: the serializer passes on a message of the
host, a command or the scope notifies it of an event, and its two runnables run.
Whether log bytes are waiting and whether the packer is ready may change at will. -/
inductive ControlEvent (α : Type*) where
  | command (type : MessageType)
  | notify (event : MessageType)
  | runRx (unpacker : Unpacker α)
  | runTx (packerIsReady logIsPending : Bool)

/-- The messages of the target that the host has to answer. -/
def AwaitsReply (event : MessageType) : Prop :=
  event = .scData ∨ event = .scLog ∨ event = .scStream

instance (event : MessageType) : Decidable (AwaitsReply event) :=
  inferInstanceAs (Decidable (_ ∨ _ ∨ _))

/-- The messages of the host that are answers. -/
def IsReply (type : MessageType) : Prop :=
  type = .seAck ∨ MessageType.evAnnounce.code ≤ type.code

instance (type : MessageType) : Decidable (IsReply type) := inferInstanceAs (Decidable (_ ∨ _))

structure Conversation (Q α : Type*) where
  controller : Controller Q α
  replyOwed : Bool

namespace Controller
variable {Q α : Type*} [AgingPriorityQueue Q]

theorem waitForAck_commandPackPushEvent (self : Controller Q α) (event : MessageType) :
    (self.commandPackPushEvent event).waitForAck = self.waitForAck :=
  self.commandPackPushEvent_cases event (fun _ _ _ => rfl) rfl

/-- Only a reply opens the lock when a message of the host is processed. -/
theorem waitForAck_runRx (self : Controller Q α) (amountOfChannels : Nat) (unpacker : Unpacker α)
    (noReply : ¬ IsReply self.commandPending) :
    (self.runRx amountOfChannels unpacker).2.2.waitForAck = self.waitForAck := by
  unfold runRx
  split
  · rfl
  · split
    · exact self.waitForAck_commandPackPushEvent .seNak
    · rename_i notNak
      have keepsLock : messageCanUnlockAckLock self.commandPending = false := by
        apply decide_eq_false
        rintro (command | nak | ack)
        · exact noReply (Or.inr command)
        · exact notNak nak
        · exact noReply (Or.inl ack)
      rw [keepsLock]
      rfl

/-- A locked controller hands nothing over, and does not touch its queue. -/
theorem runTx_of_locked {self : Controller Q α} (locked : self.waitForAck = true)
    (packerIsReady logIsPending : Bool) :
    self.runTx packerIsReady logIsPending = (none, self) := by
  unfold runTx
  split
  · rfl
  · rfl

/-- What the queue is asked once the packer is ready and the lock is open. -/
theorem runTx_of_unlocked {self : Controller Q α} (unlocked : self.waitForAck = false)
    (logIsPending : Bool) {logged : Controller Q α}
    (pushed : (if logIsPending = true then self.commandPackPushEvent .scLog else self) = logged) :
    self.runTx true logIsPending =
      if AgingPriorityQueue.empty logged.queue = true then (none, logged)
      else match (AgingPriorityQueue.pop logged.queue).1 with
        | none => (none, { logged with queue := (AgingPriorityQueue.pop logged.queue).2 })
        | some event => (some event, { logged with
            queue := (AgingPriorityQueue.pop logged.queue).2
            waitForAck := messageNeedsToBeAcked event }) := by
  subst pushed
  have isReady : ¬ true = false := Bool.noConfusion
  have isOpen : ¬ self.waitForAck = true := by
    rw [unlocked]
    exact Bool.false_ne_true
  unfold runTx
  exact (if_neg isReady).trans (if_neg isOpen)

/-- An event that is handed over decides alone whether the lock is closed again. -/
theorem waitForAck_runTx {self : Controller Q α} {packerIsReady logIsPending : Bool}
    {event : MessageType} (sent : (self.runTx packerIsReady logIsPending).1 = some event) :
    (self.runTx packerIsReady logIsPending).2.waitForAck = messageNeedsToBeAcked event := by
  cases packerIsReady with
  | false => cases sent
  | true =>
      cases lock : self.waitForAck with
      | true =>
          rw [runTx_of_locked lock] at sent
          cases sent
      | false =>
          rw [runTx_of_unlocked lock logIsPending rfl] at sent ⊢
          generalize (if logIsPending = true then self.commandPackPushEvent .scLog else self) = logged
            at sent ⊢
          by_cases nothing : AgingPriorityQueue.empty logged.queue = true
          · rw [if_pos nothing] at sent
            cases sent
          · rw [if_neg nothing] at sent ⊢
            cases popped : (AgingPriorityQueue.pop logged.queue).1 with
            | none =>
                rw [popped] at sent
                cases sent
            | some first =>
                rw [popped] at sent
                cases sent
                rfl

theorem waitForAck_notified (self : Controller Q α) (events : List MessageType) :
    (events.foldl commandPackPushEvent self).waitForAck = self.waitForAck := by
  induction events generalizing self with
  | nil => rfl
  | cons event events ih =>
      rw [List.foldl_cons, ih]
      exact self.waitForAck_commandPackPushEvent event

/-- Every message that can open the lock opens it, unless it is `SE_NAK`. -/
theorem waitForAck_runRx_of_unlocking {self : Controller Q α} (amountOfChannels : Nat)
    (unpacker : Unpacker α) (named : self.commandPending ≠ .seNone)
    (notNak : self.commandPending ≠ .seNak)
    (unlocking : messageCanUnlockAckLock self.commandPending = true) :
    (self.runRx amountOfChannels unpacker).2.2.waitForAck = false := by
  rw [runRx, if_neg named, if_neg notNak, if_pos unlocking]

theorem runRx_of_nak {self : Controller Q α} (amountOfChannels : Nat) (unpacker : Unpacker α)
    (nak : self.commandPending = .seNak) :
    (self.runRx amountOfChannels unpacker).2.2 =
      { self.commandPackPushEvent .seNak with commandPending := .seNone } := by
  have named : ¬ self.commandPending = .seNone := by
    rw [nak]
    decide
  rw [runRx, if_neg named, if_pos nak]

section Productive
variable [ProductiveAgingPriorityQueue Q]
open AgingPriorityQueue ProductiveAgingPriorityQueue

theorem nonempty_commandPackPushEvent {self : Controller Q α} (some_ : empty self.queue = false)
    (event : MessageType) : empty (self.commandPackPushEvent event).queue = false := by
  refine self.commandPackPushEvent_cases event (fun e _ priority => ?_) some_
  exact nonempty_push self.queue e priority

theorem runTx_hands_over {self : Controller Q α} (unlocked : self.waitForAck = false)
    (some_ : empty self.queue = false) (logIsPending : Bool) :
    ∃ event, (self.runTx true logIsPending).1 = some event := by
  have logged :
      empty (if logIsPending = true then self.commandPackPushEvent .scLog else self).queue = false := by
    split
    · exact nonempty_commandPackPushEvent some_ .scLog
    · exact some_
  rw [runTx_of_unlocked unlocked logIsPending rfl]
  generalize (if logIsPending = true then self.commandPackPushEvent .scLog else self) = pushed
    at logged ⊢
  obtain ⟨event, popped⟩ := pop_of_nonempty logged
  have notEmpty : ¬ empty pushed.queue = true := by
    rw [logged]
    exact Bool.false_ne_true
  rw [if_neg notEmpty, popped]
  exact ⟨event, rfl⟩

end Productive

end Controller

namespace Conversation
variable {Q α : Type*} [AgingPriorityQueue Q]

/-- The first reply is owed before anything has been sent. -/
def create (queue : Q) (priorities : MessagePriorities) : Conversation Q α :=
  ⟨Controller.create queue priorities, true⟩

def step (amountOfChannels : Nat) (c : Conversation Q α) : ControlEvent α → Conversation Q α
  | .command type => { c with controller := c.controller.commandUpdate type }
  | .notify event => { c with controller := c.controller.commandPackPushEvent event }
  | .runRx unpacker =>
      { controller := (c.controller.runRx amountOfChannels unpacker).2.2
        replyOwed := if IsReply c.controller.commandPending then false else c.replyOwed }
  | .runTx packerIsReady logIsPending =>
      let sent := c.controller.runTx packerIsReady logIsPending
      { controller := sent.2
        replyOwed := c.replyOwed || sent.1.any fun event => AwaitsReply event }

/-- Nothing is popped and nothing is handed over as long as a reply is owed. -/
def Silent (c : Conversation Q α) : ControlEvent α → Prop
  | .runTx packerIsReady logIsPending =>
      c.replyOwed = true → c.controller.runTx packerIsReady logIsPending = (none, c.controller)
  | _ => True

/-- A reply that is owed keeps the controller locked. -/
def Locked (c : Conversation Q α) : Prop := c.replyOwed = true → c.controller.waitForAck = true

theorem locked_step (amountOfChannels : Nat) {c : Conversation Q α} (event : ControlEvent α)
    (locked : c.Locked) : (c.step amountOfChannels event).Locked := by
  intro owed
  cases event with
  | command type => exact locked owed
  | notify event =>
      change (c.controller.commandPackPushEvent event).waitForAck = true
      rw [Controller.waitForAck_commandPackPushEvent]
      exact locked owed
  | runRx unpacker =>
      change (if IsReply c.controller.commandPending then false else c.replyOwed) = true at owed
      split at owed
      · cases owed
      · rename_i noReply
        change (c.controller.runRx amountOfChannels unpacker).2.2.waitForAck = true
        rw [Controller.waitForAck_runRx _ _ _ noReply]
        exact locked owed
  | runTx packerIsReady logIsPending =>
      change (c.controller.runTx packerIsReady logIsPending).2.waitForAck = true
      change (c.replyOwed || _) = true at owed
      rcases Bool.or_eq_true_iff.mp owed with before | now
      · rw [Controller.runTx_of_locked (locked before)]
        exact locked before
      · obtain ⟨event, sent, awaits⟩ := (Option.any_eq_true _ _).mp now
        rw [Controller.waitForAck_runTx sent]
        have awaited : AwaitsReply event := of_decide_eq_true awaits
        apply decide_eq_true
        rcases awaited with data | log | stream
        · exact Or.inr (Or.inl data)
        · exact Or.inl log
        · exact Or.inr (Or.inr stream)

theorem silent_of_locked {c : Conversation Q α} (locked : c.Locked) (event : ControlEvent α) :
    c.Silent event := by
  cases event with
  | runTx packerIsReady logIsPending =>
      intro owed
      exact Controller.runTx_of_locked (locked owed) packerIsReady logIsPending
  | command type => trivial
  | notify event => trivial
  | runRx unpacker => trivial

/-- Whatever happens in whatever order, at most one message waits for its reply,
and nothing is sent while it waits. -/
theorem silent_while_owed (amountOfChannels : Nat) (queue : Q) (priorities : MessagePriorities)
    (events : List (ControlEvent α)) :
    Run.Along (step amountOfChannels) Silent (create queue priorities) events := by
  have always : Run.Along (step amountOfChannels) (fun _ _ => True)
      (create queue priorities : Conversation Q α) events :=
    Run.Along.of_forall _ fun _ _ => trivial
  apply always.observe _ (fun c event locked _ => locked_step amountOfChannels event locked)
    (fun c event locked _ => silent_of_locked locked event)
  intro _
  rfl

end Conversation

end Control
