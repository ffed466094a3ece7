import Mathlib.Data.Multiset.ZeroCons
import ScopeTarget.Control.Controller

/-! What the controller may rely on about its queue: an event comes out only if
it was put in, and one comes out as long as there is any. Since only named events
are put in, none without a type comes out. -/

namespace Control
open AgingPriorityQueue

class LawfulAgingPriorityQueue (Q : Type*) [AgingPriorityQueue Q] where
  Holds : Q → MessageType → Prop
  of_push : ∀ {q : Q} {event e : MessageType} {priority : Nat},
    Holds (push q event priority) e → e = event ∨ Holds q e
  of_pop : ∀ {q : Q} {e : MessageType}, (pop q).1 = some e → Holds q e
  of_rest : ∀ {q : Q} {e : MessageType}, Holds (pop q).2 e → Holds q e

open LawfulAgingPriorityQueue

instance : LawfulAgingPriorityQueue (List MessageType) where
  Holds events e := e ∈ events
  of_push member := by
    rcases List.mem_append.mp member with before | last
    · exact Or.inr before
    · exact Or.inl (List.mem_singleton.mp last)
  of_pop popped := List.mem_of_mem_head? popped
  of_rest member := List.mem_of_mem_tail member

/-- A queue that has something to give gives it, and has something after a push. -/
class ProductiveAgingPriorityQueue (Q : Type*) [AgingPriorityQueue Q] : Prop where
  pop_of_nonempty : ∀ {q : Q}, empty q = false → ∃ event, (pop q).1 = some event
  nonempty_push : ∀ (q : Q) (event : MessageType) (priority : Nat), empty (push q event priority) = false

instance : ProductiveAgingPriorityQueue (List MessageType) where
  pop_of_nonempty {events} some_ := by
    cases events with
    | nil => cases some_
    | cons event rest => exact ⟨event, rfl⟩
  nonempty_push events event priority := by
    change (events ++ [event]).isEmpty = false
    cases events with
    | nil => rfl
    | cons first rest => rfl

/-- How often an event is in a queue: a push adds it once at most, and what comes out is gone. -/
class CountedAgingPriorityQueue (Q : Type*) [AgingPriorityQueue Q] where
  count : Q → MessageType → Nat
  count_push : ∀ (q : Q) (event : MessageType) (priority : Nat) (e : MessageType),
    count (push q event priority) e ≤ count q e + if event = e then 1 else 0
  count_pop : ∀ (q : Q) (e : MessageType),
    count (pop q).2 e + (if (pop q).1 = some e then 1 else 0) ≤ count q e

instance : CountedAgingPriorityQueue (List MessageType) where
  count events e := events.count e
  count_push events event priority e := by
    change (events ++ [event]).count e ≤ _
    rw [List.count_append, List.count_singleton]
    simp only [beq_iff_eq, le_refl]
  count_pop events e := by
    cases events with
    | nil => exact Nat.zero_le _
    | cons event rest =>
        change rest.count e + (if some event = some e then 1 else 0) ≤ (event :: rest).count e
        rw [List.count_cons]
        simp only [Option.some.injEq, beq_iff_eq, le_refl]

/-- The events in a queue: it gives them one at a time, until it is empty. -/
class ExactAgingPriorityQueue (Q : Type*) [AgingPriorityQueue Q] where
  events : Q → Multiset MessageType
  empty_iff : ∀ {q : Q}, empty q = true ↔ events q = 0
  pop_exact : ∀ {q : Q}, empty q = false →
    ∃ event, (pop q).1 = some event ∧ events q = event ::ₘ events (pop q).2

instance : ExactAgingPriorityQueue (List MessageType) where
  events events := (events : Multiset MessageType)
  empty_iff {events} := by
    cases events with
    | nil => exact ⟨fun _ => rfl, fun _ => rfl⟩
    | cons event rest => exact ⟨nofun, fun none_ => nomatch (Multiset.coe_eq_zero _).mp none_⟩
  pop_exact {events} some_ := by
    cases events with
    | nil => cases some_
    | cons event rest => exact ⟨event, rfl, rfl⟩

namespace Controller
variable {Q α : Type*} [AgingPriorityQueue Q] [LawfulAgingPriorityQueue Q]

/-- Every event in the queue has a type. -/
def Typed (queue : Q) : Prop := ∀ e, Holds queue e → e ≠ .seNone

theorem typed_push {queue : Q} (typed : Typed queue) {event : MessageType} (named : event ≠ .seNone)
    (priority : Nat) : Typed (push queue event priority) := by
  intro e held
  rcases of_push held with rfl | before
  · exact named
  · exact typed e before

theorem typed_commandPackPushEvent {self : Controller Q α} (typed : Typed self.queue)
    (event : MessageType) : Typed (self.commandPackPushEvent event).queue := by
  refine self.commandPackPushEvent_cases event (fun e named priority => ?_) typed
  exact typed_push typed named priority

theorem typed_notified {self : Controller Q α} (typed : Typed self.queue)
    (events : List MessageType) : Typed (events.foldl commandPackPushEvent self).queue := by
  induction events generalizing self with
  | nil => exact typed
  | cons event events ih => exact ih (typed_commandPackPushEvent typed event)

theorem typed_runRx {self : Controller Q α} (typed : Typed self.queue) (amountOfChannels : Nat)
    (unpacker : Unpacker α) : Typed (self.runRx amountOfChannels unpacker).2.2.queue := by
  unfold runRx
  split
  · exact typed
  · split
    · exact typed_commandPackPushEvent typed _
    · exact typed_notified typed _

/-- What `runTx` does with a typed queue: an event that is handed out has a type,
nothing is handed out unless the packer is ready, and the queue stays typed. -/
theorem runTx_typed {self : Controller Q α} (typed : Typed self.queue)
    (packerIsReady logIsPending : Bool) :
    (∀ event, (self.runTx packerIsReady logIsPending).1 = some event →
      packerIsReady = true ∧ event ≠ .seNone) ∧
    Typed (self.runTx packerIsReady logIsPending).2.queue := by
  unfold runTx
  split
  · exact ⟨nofun, typed⟩
  · rename_i ready
    split
    · exact ⟨nofun, typed⟩
    · have logged : Typed
          (if logIsPending = true then self.commandPackPushEvent .scLog else self).queue := by
        split
        · exact typed_commandPackPushEvent typed _
        · exact typed
      generalize (if logIsPending = true then self.commandPackPushEvent .scLog else self) = pushed
        at logged
      dsimp only
      split
      · exact ⟨nofun, logged⟩
      · split
        · exact ⟨nofun, fun e held => logged e (of_rest held)⟩
        · rename_i popped
          refine ⟨?_, fun e held => logged e (of_rest held)⟩
          intro event same
          obtain rfl := Option.some.inj same
          exact ⟨eq_true_of_ne_false ready, logged _ (of_pop popped)⟩

end Controller

namespace Controller
variable {Q α : Type*} [AgingPriorityQueue Q]

/-- An event is pushed as it is, or not at all. -/
theorem commandPackPushEvent_pushes (self : Controller Q α) (event : MessageType) :
    self.commandPackPushEvent event = self ∨
      ∃ priority, self.commandPackPushEvent event = { self with queue := push self.queue event priority } := by
  unfold commandPackPushEvent
  repeat' split
  · exact .inr ⟨0, by rw [‹event = .seNak›]⟩
  · exact .inr ⟨0, by rw [‹event = .seAck›]⟩
  · exact .inr ⟨self.priorities.data, by rw [‹event = .scData›]⟩
  · exact .inr ⟨1, by rw [‹event = .scAnnounce›]⟩
  · exact .inr ⟨1, by rw [‹event = .scDetect›]⟩
  · exact .inr ⟨self.priorities.stream, by rw [‹event = .scStream›]⟩
  · exact .inr ⟨self.priorities.log, by rw [‹event = .scLog›]⟩
  · exact .inl rfl
  · exact .inl rfl

variable [CountedAgingPriorityQueue Q]
open CountedAgingPriorityQueue

theorem count_commandPackPushEvent (self : Controller Q α) (event e : MessageType) :
    count (self.commandPackPushEvent event).queue e ≤ count self.queue e + if event = e then 1 else 0 := by
  rcases self.commandPackPushEvent_pushes event with same | ⟨priority, pushed⟩
  · rw [same]
    exact Nat.le_add_right _ _
  · rw [pushed]
    exact count_push self.queue event priority e

theorem count_push_other (self : Controller Q α) {event e : MessageType} (other : event ≠ e) :
    count (self.commandPackPushEvent event).queue e ≤ count self.queue e := by
  have counted := self.count_commandPackPushEvent event e
  rwa [if_neg other, Nat.add_zero] at counted

theorem count_notified (self : Controller Q α) {events : List MessageType} {e : MessageType}
    (others : e ∉ events) : count (events.foldl commandPackPushEvent self).queue e ≤ count self.queue e := by
  induction events generalizing self with
  | nil => exact Nat.le_refl _
  | cons event events ih =>
      obtain ⟨first, rest⟩ := not_or.mp fun same => others (List.mem_cons.mpr same)
      exact (ih (self.commandPackPushEvent event) rest).trans (self.count_push_other (Ne.symm first))

/-- An event that is handed out is not in the queue any more. -/
theorem count_runTx (self : Controller Q α) (packerIsReady logIsPending : Bool) {e : MessageType}
    (noLog : e ≠ .scLog) :
    count (self.runTx packerIsReady logIsPending).2.queue e +
        (if (self.runTx packerIsReady logIsPending).1 = some e then 1 else 0) ≤ count self.queue e := by
  have logged : count (if logIsPending = true then self.commandPackPushEvent .scLog else self).queue e ≤
      count self.queue e := by
    split
    · exact self.count_push_other (Ne.symm noLog)
    · exact Nat.le_refl _
  unfold runTx
  split
  · exact Nat.le_refl _
  · split
    · exact Nat.le_refl _
    · generalize (if logIsPending = true then self.commandPackPushEvent .scLog else self) = pushed
        at logged
      dsimp only
      split
      · exact logged
      · have popped := (count_pop pushed.queue e).trans logged
        cases came : (pop pushed.queue).1 with
        | none =>
            rw [came] at popped
            exact popped
        | some event =>
            rw [came] at popped
            exact popped

end Controller

end Control
