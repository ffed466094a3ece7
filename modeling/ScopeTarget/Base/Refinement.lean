import Mathlib.Data.List.Forall2
import ScopeTarget.Base.Run

/-! One machine seen through another: a step of the first stands for a run of the
second. What is known of one step carries over to whole runs. -/

namespace Run
variable {State Label View Action : Type*}

section Trace
variable (step : State → Label → State) (actions : State → Label → List Action)

/-- What the other machine does during a run. -/
def trace : State → List Label → List Action
  | _, [] => []
  | s, a :: as => actions s a ++ trace (step s a) as

@[simp] theorem trace_nil (s : State) : trace step actions s [] = [] := rfl

@[simp] theorem trace_cons (s : State) (a : Label) (as : List Label) :
    trace step actions s (a :: as) = actions s a ++ trace step actions (step s a) as := rfl

theorem trace_append (s : State) (as bs : List Label) :
    trace step actions s (as ++ bs) = trace step actions s as ++ trace step actions (exec step s as) bs := by
  induction as generalizing s with
  | nil => rfl
  | cons a as ih => rw [List.cons_append, trace_cons, trace_cons, ih, exec_cons, List.append_assoc]

theorem trace_eq_nil {labels : List Label} (nothing : ∀ a ∈ labels, ∀ s, actions s a = []) (s : State) :
    trace step actions s labels = [] := by
  induction labels generalizing s with
  | nil => rfl
  | cons a as ih =>
      have first := nothing a List.mem_cons_self s
      rw [trace_cons, first, List.nil_append]
      exact ih (fun b later => nothing b (List.mem_cons_of_mem a later)) _

theorem trace_flatMap {β : Type*} (f : Action → List β) (s : State) (labels : List Label) :
    trace step (fun s a => (actions s a).flatMap f) s labels = (trace step actions s labels).flatMap f := by
  induction labels generalizing s with
  | nil => rfl
  | cons a as ih => rw [trace_cons, trace_cons, List.flatMap_append, ih]

/-- What holds of all that a step puts out holds of all that a run does. -/
theorem Along.forall_trace {P : Action → Prop} {s : State} {labels : List Label}
    (along : Along step (fun s a => ∀ x ∈ actions s a, P x) s labels) : ∀ x ∈ trace step actions s labels, P x := by
  induction labels generalizing s with
  | nil => exact fun x member => absurd member List.not_mem_nil
  | cons a as ih => exact fun x member => (List.mem_append.mp member).elim (along.1 x) (ih along.2 x)

/-- What comes out and what is held in the end is what was held and what went in, in its
order, but for what was dropped on the way. -/
theorem trace_sublist {held : State → List Action} {out into : State → Label → List Action}
    {Inv : State → Prop} (kept : ∀ s a, Inv s → Inv (step s a))
    (moved : ∀ s a, Inv s → (out s a ++ held (step s a)).Sublist (held s ++ into s a)) {s : State}
    (start : Inv s) (labels : List Label) :
    (trace step out s labels ++ held (exec step s labels)).Sublist (held s ++ trace step into s labels) := by
  induction labels generalizing s with
  | nil => exact (List.append_nil (held s)).symm ▸ List.Sublist.refl _
  | cons a as ih =>
      have here := (moved s a start).append_right (trace step into (step s a) as)
      have later := (ih (kept s a start)).append_left (out s a)
      rw [trace_cons, trace_cons, exec_cons, List.append_assoc]
      rw [List.append_assoc, List.append_assoc] at here
      exact later.trans here

/-- Where nothing is dropped, nothing is lost. -/
theorem trace_conserved {held : State → List Action} {out into : State → Label → List Action}
    {Ok : State → Label → Prop} {Inv : State → Prop} (kept : ∀ s a, Inv s → Inv (step s a))
    (moved : ∀ s a, Inv s → Ok s a → out s a ++ held (step s a) = held s ++ into s a) {s : State}
    (start : Inv s) {labels : List Label} (along : Along step Ok s labels) :
    trace step out s labels ++ held (exec step s labels) = held s ++ trace step into s labels := by
  induction labels generalizing s with
  | nil => exact (List.append_nil (held s)).symm
  | cons a as ih =>
      have here := moved s a start along.1
      have later := ih (kept s a start) along.2
      rw [trace_cons, trace_cons, exec_cons, List.append_assoc, later, ← List.append_assoc, here,
        List.append_assoc]

/-- Where what is held is known by what it was made of, so is all that comes out: it is made
of what went in, in its order, and nothing is used twice. -/
theorem trace_explained {β : Type*} {made : β → List Action → Prop} {out : State → Label → List β}
    {into : State → Label → List Action} {held : State → List Action → Prop} {Ok : State → Label → Prop}
    (moved : ∀ s a inside, held s inside → Ok s a → ∃ left inside', List.Forall₂ made (out s a) left ∧
      held (step s a) inside' ∧ (left.flatten ++ inside').Sublist (inside ++ into s a)) {s : State}
    {inside : List Action} (start : held s inside) {labels : List Label} (along : Along step Ok s labels) :
    ∃ left inside', List.Forall₂ made (trace step out s labels) left ∧ held (exec step s labels) inside' ∧
      (left.flatten ++ inside').Sublist (inside ++ trace step into s labels) := by
  induction labels generalizing s inside with
  | nil =>
      refine ⟨[], inside, .nil, start, ?_⟩
      rw [trace_nil, List.append_nil]
      exact List.Sublist.refl inside
  | cons a as ih =>
      obtain ⟨first, between, outFirst, here, splitFirst⟩ := moved s a inside start along.1
      obtain ⟨rest, inside', outRest, ended, splitRest⟩ := ih here along.2
      refine ⟨first ++ rest, inside', List.rel_append outFirst outRest, ended, ?_⟩
      have before := splitFirst.append_right (trace step into (step s a) as)
      have later := splitRest.append_left first.flatten
      rw [trace_cons, List.flatten_append, List.append_assoc]
      rw [List.append_assoc, List.append_assoc] at before
      exact later.trans before

end Trace

/-- Leaving out some leaves out what they were made of. -/
theorem forall₂_sublist {β γ : Type*} {made : β → γ → Prop} {some_ all : List β} {left : List γ}
    (fewer : some_.Sublist all) (related : List.Forall₂ made all left) :
    ∃ left', List.Forall₂ made some_ left' ∧ left'.Sublist left := by
  induction fewer generalizing left with
  | slnil => exact ⟨[], .nil, List.nil_sublist left⟩
  | cons b _ ih =>
      cases related with
      | cons _ rest =>
          obtain ⟨left', related', chosen⟩ := ih rest
          exact ⟨left', related', chosen.cons _⟩
  | cons_cons b _ ih =>
      cases related with
      | cons first rest =>
          obtain ⟨left', related', chosen⟩ := ih rest
          exact ⟨_ :: left', .cons first related', chosen.cons_cons _⟩

/-- What is made of nothing can be put back. -/
theorem forall₂_of_filter {β γ : Type*} {made : β → List γ → Prop} {keeps : β → Bool} {all : List β}
    {left : List (List γ)} (plain : ∀ b ∈ all, keeps b = false → made b [])
    (related : List.Forall₂ made (all.filter keeps) left) :
    ∃ left', List.Forall₂ made all left' ∧ left'.flatten = left.flatten := by
  induction all generalizing left with
  | nil => exact ⟨left, related, rfl⟩
  | cons b all ih =>
      have later (c : β) (member : c ∈ all) := plain c (List.mem_cons_of_mem b member)
      cases kept : keeps b with
      | false =>
          rw [List.filter_cons_of_neg (by rw [kept]; decide)] at related
          obtain ⟨left', related', same⟩ := ih later related
          exact ⟨[] :: left', .cons (plain b List.mem_cons_self kept) related', same⟩
      | true =>
          rw [List.filter_cons_of_pos kept] at related
          cases related with
          | @cons _ first _ rest here related =>
              obtain ⟨left', related', same⟩ := ih later related
              exact ⟨first :: left', .cons here related', congrArg (first ++ ·) same⟩

/-- What makes no difference to any step makes none to a run. -/
theorem exec_map {step : State → Label → State} {Inv : State → Prop} {relabel : Label → Label}
    (kept : ∀ s a, Inv s → Inv (step s a)) (same : ∀ s a, Inv s → step s (relabel a) = step s a) {s : State}
    (start : Inv s) (labels : List Label) : exec step s (labels.map relabel) = exec step s labels := by
  induction labels generalizing s with
  | nil => rfl
  | cons a as ih =>
      have here := same s a start
      rw [List.map_cons, exec_cons, exec_cons, here]
      exact ih (kept s a start)

variable {step : State → Label → State} {act : View → Action → View} {Ok : State → Label → Prop}
  {Inv : State → Prop} {view : State → View} {actions : State → Label → List Action}

/-- A step that meets the condition keeps the invariant, and its view moves as the
other machine does. -/
structure Simulates (step : State → Label → State) (act : View → Action → View)
    (Ok : State → Label → Prop) (Inv : State → Prop) (view : State → View)
    (actions : State → Label → List Action) : Prop where
  kept : ∀ s a, Inv s → Ok s a → Inv (step s a)
  follows : ∀ s a, Inv s → Ok s a → view (step s a) = exec act (view s) (actions s a)

namespace Simulates

theorem view_exec (simulates : Simulates step act Ok Inv view actions) {s : State}
    {labels : List Label} (along : Along step Ok s labels) (start : Inv s) :
    view (exec step s labels) = exec act (view s) (trace step actions s labels) := by
  induction labels generalizing s with
  | nil => rfl
  | cons a as ih =>
      have here := simulates.follows s a start along.1
      rw [exec_cons, ih along.2 (simulates.kept s a start along.1), trace_cons, exec_append, here]

/-- What the steps of the view put out, they put out along the run it makes. -/
theorem trace_view {β : Type*} (simulates : Simulates step act Ok Inv view actions)
    (out : View → Action → List β) {s : State} {labels : List Label} (along : Along step Ok s labels)
    (start : Inv s) :
    trace step (fun s a => trace act out (view s) (actions s a)) s labels =
      trace act out (view s) (trace step actions s labels) := by
  induction labels generalizing s with
  | nil => rfl
  | cons a as ih =>
      have later := ih along.2 (simulates.kept s a start along.1)
      rw [simulates.follows s a start along.1] at later
      rw [trace_cons, trace_cons, trace_append, later]

/-- What the steps of the view meet, they meet along the run it makes. -/
theorem along_trace (simulates : Simulates step act Ok Inv view actions) {Legal : View → Action → Prop}
    (legal : ∀ s a, Inv s → Ok s a → Along act Legal (view s) (actions s a)) {s : State}
    {labels : List Label} (along : Along step Ok s labels) (start : Inv s) :
    Along act Legal (view s) (trace step actions s labels) := by
  induction labels generalizing s with
  | nil => trivial
  | cons a as ih =>
      have later := ih along.2 (simulates.kept s a start along.1)
      rw [simulates.follows s a start along.1] at later
      rw [trace_cons, along_append]
      exact ⟨legal s a start along.1, later⟩

/-- What every run of the other machine keeps holds of the view. -/
theorem invariant (simulates : Simulates step act Ok Inv view actions) {Kept : View → Prop}
    (preserved : ∀ v b, Kept v → Kept (act v b)) {s : State} {labels : List Label}
    (along : Along step Ok s labels) (start : Inv s) (first : Kept (view s)) :
    Kept (view (exec step s labels)) := by
  rw [simulates.view_exec along start]
  exact exec_invariant act preserved first _

end Simulates

end Run
