import Mathlib.Data.List.Basic

/-! Finite runs of a machine that takes one label per step. Invariants are
proved for one step and used for whole runs; a condition on steps is checked
along the run itself, in the state each step starts from. -/

namespace Run
variable {State Label : Type*} (step : State → Label → State)

def exec (s : State) (labels : List Label) : State := labels.foldl step s

@[simp] theorem exec_nil (s : State) : exec step s [] = s := rfl

@[simp] theorem exec_cons (s : State) (a : Label) (as : List Label) :
    exec step s (a :: as) = exec step (step s a) as := rfl

theorem exec_append (s : State) (as bs : List Label) :
    exec step s (as ++ bs) = exec step (exec step s as) bs := List.foldl_append

def Reachable (init s : State) : Prop := ∃ labels, exec step init labels = s

theorem Reachable.init (s : State) : Reachable step s s := ⟨[], rfl⟩

theorem Reachable.next {init s : State} (h : Reachable step init s) (a : Label) :
    Reachable step init (step s a) := by
  obtain ⟨labels, rfl⟩ := h
  exact ⟨labels ++ [a], exec_append step init labels [a]⟩

/-- The condition holds at every step, in the state that step starts from. -/
def Along (Ok : State → Label → Prop) : State → List Label → Prop
  | _, [] => True
  | s, a :: as => Ok s a ∧ Along Ok (step s a) as

instance Along.decidable (Ok : State → Label → Prop) [∀ s a, Decidable (Ok s a)] :
    (s : State) → (labels : List Label) → Decidable (Along step Ok s labels)
  | _, [] => inferInstanceAs (Decidable True)
  | s, a :: as =>
      have := Along.decidable Ok (step s a) as
      inferInstanceAs (Decidable (Ok s a ∧ Along step Ok (step s a) as))

theorem along_append (Ok : State → Label → Prop) (s : State) (as bs : List Label) :
    Along step Ok s (as ++ bs) ↔ Along step Ok s as ∧ Along step Ok (exec step s as) bs := by
  induction as generalizing s with
  | nil => simp only [List.nil_append, Along, exec_nil, true_and]
  | cons a as ih => simp only [List.cons_append, Along, exec_cons, ih, and_assoc]

theorem Along.of_forall {Ok : Label → Prop} {s : State} {labels : List Label}
    (all : ∀ a ∈ labels, Ok a) : Along step (fun _ a => Ok a) s labels := by
  induction labels generalizing s with
  | nil => trivial
  | cons a as ih =>
      exact ⟨all a List.mem_cons_self, ih fun b later => all b (List.mem_cons_of_mem a later)⟩

theorem Along.and {P Q : State → Label → Prop} {s : State} {labels : List Label}
    (left : Along step P s labels) (right : Along step Q s labels) :
    Along step (fun s a => P s a ∧ Q s a) s labels := by
  induction labels generalizing s with
  | nil => trivial
  | cons a as ih => exact ⟨⟨left.1, right.1⟩, ih left.2 right.2⟩

theorem Along.mono {P Q : State → Label → Prop} (imp : ∀ s a, P s a → Q s a) {s : State}
    {labels : List Label} (along : Along step P s labels) : Along step Q s labels := by
  induction labels generalizing s with
  | nil => trivial
  | cons a as ih => exact ⟨imp s a along.1, ih along.2⟩

/-- A run whose steps all meet the condition keeps what such steps preserve. -/
theorem Along.invariant {Ok : State → Label → Prop} {Inv : State → Prop}
    (preserved : ∀ s a, Inv s → Ok s a → Inv (step s a)) {s : State} {labels : List Label}
    (along : Along step Ok s labels) (start : Inv s) : Inv (exec step s labels) := by
  induction labels generalizing s with
  | nil => exact start
  | cons a as ih => exact ih along.2 (preserved s a start along.1)

/-- What an invariant makes true of every step is true along the whole run. -/
theorem Along.observe {Ok Seen : State → Label → Prop} {Inv : State → Prop}
    (preserved : ∀ s a, Inv s → Ok s a → Inv (step s a)) (seen : ∀ s a, Inv s → Ok s a → Seen s a)
    {s : State} {labels : List Label} (along : Along step Ok s labels) (start : Inv s) :
    Along step Seen s labels := by
  induction labels generalizing s with
  | nil => trivial
  | cons a as ih =>
      exact ⟨seen s a start along.1, ih along.2 (preserved s a start along.1)⟩

/-- Two conditions that an invariant makes the same hold along the same runs. -/
theorem Along.congr {Ok P Q : State → Label → Prop} (Inv : State → Prop)
    (preserved : ∀ s a, Inv s → Ok s a → Inv (step s a))
    (same : ∀ s a, Inv s → Ok s a → (P s a ↔ Q s a)) {s : State} {labels : List Label}
    (along : Along step Ok s labels) (start : Inv s) :
    Along step P s labels ↔ Along step Q s labels := by
  have agree : Along step (fun s a => P s a ↔ Q s a) s labels :=
    along.observe step preserved same start
  constructor
  · intro left
    exact (left.and step agree).mono step fun s a both => both.2.mp both.1
  · intro right
    exact (right.and step agree).mono step fun s a both => both.2.mpr both.1

/-- Where a condition is exactly what a step needs to preserve an invariant, the runs that
keep the invariant are those that meet the condition. -/
theorem along_preserves_iff {Ok : State → Label → Prop} {Inv : State → Prop}
    (exact_ : ∀ s a, Inv s → (Inv (step s a) ↔ Ok s a)) {s : State} (start : Inv s)
    (labels : List Label) :
    Along step (fun s a => Inv (step s a)) s labels ↔ Along step Ok s labels := by
  induction labels generalizing s with
  | nil => exact Iff.rfl
  | cons a as ih =>
      constructor
      · rintro ⟨kept, later⟩
        exact ⟨(exact_ s a start).mp kept, (ih kept).mp later⟩
      · rintro ⟨ok, later⟩
        have kept := (exact_ s a start).mpr ok
        exact ⟨kept, (ih kept).mpr later⟩

/-- What every step preserves holds after every run. -/
theorem exec_invariant {Inv : State → Prop} (preserved : ∀ s a, Inv s → Inv (step s a)) {s : State}
    (start : Inv s) (labels : List Label) : Inv (exec step s labels) := by
  induction labels generalizing s with
  | nil => exact start
  | cons a as ih => exact ih (preserved s a start)

theorem Reachable.invariant {Inv : State → Prop} (preserved : ∀ s a, Inv s → Inv (step s a))
    {init s : State} (reachable : Reachable step init s) (start : Inv init) : Inv s := by
  obtain ⟨labels, rfl⟩ := reachable
  exact exec_invariant step preserved start labels

end Run
