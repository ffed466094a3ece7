import Mathlib.Order.Basic

/-! Do-while loops. The body runs at least once, and again as long as a test of
the state it left says so; nothing makes such a loop end. -/

structure DoWhile (State : Type*) where
  body : State → State
  again : State → Bool

namespace DoWhile
variable {State : Type*} (loop : DoWhile State)

/-- Entered in the first state, the loop ends in the second. -/
inductive Ends : State → State → Prop
  | exits {s : State} (done : loop.again (loop.body s) = false) : Ends s (loop.body s)
  | repeats {s last : State} (more : loop.again (loop.body s) = true)
      (later : Ends (loop.body s) last) : Ends s last

/-- A loop entered in the first state enters its body in the second. -/
inductive Enters : State → State → Prop
  | first (s : State) : Enters s s
  | repeats {s t : State} (more : loop.again (loop.body s) = true) (later : Enters (loop.body s) t) :
      Enters s t

/-- Every pass that is not the last one does what `Progress` says. -/
def Progresses (Progress : State → Prop) (s : State) : Prop :=
  ∀ t, loop.Enters s t → loop.again (loop.body t) = true → Progress t

variable {loop}

/-- What a loop that ends goes through, it ends from as well. -/
theorem Ends.of_enters {s t last : State} (ends : loop.Ends s last) (enters : loop.Enters s t) :
    loop.Ends t last := by
  induction enters with
  | first => exact ends
  | repeats more _ ih =>
      cases ends with
      | exits done => rw [done] at more; cases more
      | repeats _ later => exact ih later

/-- A loop does not end where every pass keeps it going. -/
theorem not_ends {Inv : State → Prop}
    (stays : ∀ s, Inv s → loop.again (loop.body s) = true ∧ Inv (loop.body s)) {s last : State}
    (start : Inv s) : ¬ loop.Ends s last := by
  intro ends
  induction ends with
  | @exits s done =>
      rw [(stays s start).1] at done
      cases done
  | @repeats s _ _ _ ih => exact ih (stays s start).2

/-- A loop ends where every pass but the last makes a measure smaller. -/
theorem ends_of_measure {Inv : State → Prop} (measure : State → Nat)
    (shrinks : ∀ s, Inv s → loop.again (loop.body s) = true →
      Inv (loop.body s) ∧ measure (loop.body s) < measure s) {s : State} (start : Inv s) :
    ∃ last, loop.Ends s last := by
  induction size : measure s using Nat.strongRecOn generalizing s with
  | ind n ih =>
      cases more : loop.again (loop.body s) with
      | false => exact ⟨loop.body s, .exits more⟩
      | true =>
          obtain ⟨start', smaller⟩ := shrinks s start more
          obtain ⟨last, later⟩ := ih (measure (loop.body s)) (size ▸ smaller) start' rfl
          exact ⟨last, .repeats more later⟩

theorem Enters.invariant {Inv : State → Prop}
    (preserved : ∀ s, Inv s → Inv (loop.body s)) {s t : State} (enters : loop.Enters s t)
    (start : Inv s) : Inv t := by
  induction enters with
  | first => exact start
  | repeats _ _ ih => exact ih (preserved _ start)

end DoWhile
