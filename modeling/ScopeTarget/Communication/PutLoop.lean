import ScopeTarget.Base.DoWhile
import ScopeTarget.Communication.ByteMachine

/-! `FramedIO_putRxData` on arrays of any length. The checks are passed the
length of the array as a `uint32_t`, and `dataOffSet` is one, while the loop
compares the offset with the length as a `size_t`. -/

namespace FramedIO
variable {cap : Nat}

/-- The variables of the loop: `left` is what the checks see from `dataOffSet` on. -/
structure PutState (cap : Nat) where
  self : Rx cap
  left : List UInt8
  frameValid : Bool

/-- The bytes below the length as a `uint32_t`. -/
def seen (data : List UInt8) : List UInt8 := data.take (data.length % 2 ^ 32)

def dataOffSet (data : List UInt8) (at_ : PutState cap) : Nat := (seen data).length - at_.left.length

/-- The body of the loop. -/
@[irreducible]
def pass (at_ : PutState cap) : PutState cap where
  self := (checkAll at_.self at_.left).1
  left := (checkAll at_.self at_.left).2.1
  frameValid := (checkAll at_.self at_.left).2.2 || at_.frameValid

/-- The do-while loop of `FramedIO_putRxData`. -/
def putRxLoop (data : List UInt8) : DoWhile (PutState cap) where
  body := pass
  again at_ := dataOffSet data at_ < data.length

def enterPut (s : Rx cap) (data : List UInt8) : PutState cap := ⟨s, seen data, false⟩

/-- `FramedIO_putRxData` returns, with the receiver it leaves and what it returns. -/
def Returns (s : Rx cap) (data : List UInt8) (r : Rx cap × Bool) : Prop :=
  if s.rxDataReady then r = (s, false)
  else ∃ last, (putRxLoop data).Ends (enterPut s data) last ∧ r = (last.self, last.frameValid)

/-- The receivers a FramedIO can have between two calls. The consumer takes any
number of bytes out of the input buffer at any time. -/
inductive Reached : Rx cap → Prop
  | create : Reached createRx
  | put {s : Rx cap} (before : Reached s) {data : List UInt8} {r : Rx cap × Bool}
      (returns : Returns s data r) : Reached r.1
  | runRx {s : Rx cap} (before : Reached s) : Reached (runRx s).1
  | resetRx {s : Rx cap} (before : Reached s) : Reached (resetRx s)
  | read {s : Rx cap} (before : Reached s) (n : Nat) : Reached { s with input := (s.input.read n).2 }

theorem seen_of_short {data : List UInt8} (short : data.length < 2 ^ 32) : seen data = data := by
  rw [seen, Nat.mod_eq_of_lt short, List.take_length]

theorem length_seen (data : List UInt8) : (seen data).length = data.length % 2 ^ 32 := by
  rw [seen, List.length_take_of_le (Nat.mod_le _ _)]

/-- The offset never reaches a length that the checks do not see. -/
theorem again_of_long {data : List UInt8} (long : 2 ^ 32 ≤ data.length) (at_ : PutState cap) :
    (putRxLoop data).again at_ = true := by
  have wraps : data.length % 2 ^ 32 < 2 ^ 32 := Nat.mod_lt _ (by decide)
  refine decide_eq_true ?_
  rw [dataOffSet, length_seen]
  omega

theorem never_ends {data : List UInt8} (long : 2 ^ 32 ≤ data.length) (at_ last : PutState cap) :
    ¬ (putRxLoop data).Ends at_ last := by
  have stays : ∀ at_ : PutState cap, True → (putRxLoop data).again ((putRxLoop data).body at_) = true ∧
      True := fun at_ _ => ⟨again_of_long long _, True.intro⟩
  exact DoWhile.not_ends stays True.intro

section Short
variable {data : List UInt8}

theorem again_iff (short : data.length < 2 ^ 32) {at_ : PutState cap}
    (within : at_.left.length ≤ data.length) : (putRxLoop data).again at_ = true ↔ at_.left ≠ [] := by
  have offset : dataOffSet data at_ = data.length - at_.left.length := by
    rw [dataOffSet, seen_of_short short]
  have compare : (putRxLoop data).again at_ = true ↔ dataOffSet data at_ < data.length :=
    decide_eq_true_iff
  rw [compare, offset, ← List.length_pos_iff_ne_nil]
  omega

theorem consume_pass {at_ : PutState cap} (counted : Counted at_.self) :
    consume (pass at_).self (pass at_).frameValid (pass at_).left =
      consume at_.self at_.frameValid at_.left := by
  simp only [pass]
  exact consume_checkAll counted at_.frameValid at_.left

theorem counted_pass {at_ : PutState cap} (counted : Counted at_.self) : Counted (pass at_).self := by
  have checked := counted_checkAll counted at_.left
  simp only [pass]
  -- what the checks do to the state plays no role here
  generalize checkAll at_.self at_.left = result at checked ⊢
  exact checked

/-- A pass leaves no more bytes than it began with. -/
theorem left_pass {at_ : PutState cap} (counted : Counted at_.self) :
    (pass at_).left.length ≤ at_.left.length := by
  simp only [pass]
  exact checkAll_length_le counted at_.left

/-- A pass of a call that returns takes a byte when there is one. -/
theorem left_pass_lt {at_ : PutState cap} (counted : Counted at_.self) {r : Rx cap × Bool}
    (run : consume at_.self at_.frameValid at_.left = some r) (some_ : at_.left ≠ []) :
    (pass at_).left.length < at_.left.length := by
  have free : ¬ Stuck at_.self := by
    intro stuck
    rw [consume_of_stuck stuck _ some_] at run
    cases run
  simp only [pass]
  exact checkAll_shorter counted free some_

theorem consume_of_ends (short : data.length < 2 ^ 32) {at_ last : PutState cap}
    (counted : Counted at_.self) (within : at_.left.length ≤ data.length)
    (ends : (putRxLoop data).Ends at_ last) :
    consume at_.self at_.frameValid at_.left = some (last.self, last.frameValid) := by
  induction ends with
  | @exits at_ done =>
      have within' : (pass at_).left.length ≤ data.length := Nat.le_trans (left_pass counted) within
      have nothing : (pass at_).left = [] := by
        by_contra some_
        have more : (putRxLoop data).again (pass at_) = true := (again_iff short within').mpr some_
        exact Bool.false_ne_true (done.symm.trans more)
      have settled : settle (pass at_).self = (pass at_).self := by
        simp only [pass]
        exact settled_checkAll at_.self at_.left
      rw [← consume_pass counted, nothing, consume, settled]
      rfl
  | @repeats at_ _ _ _ ih =>
      rw [← consume_pass counted]
      exact ih (counted_pass counted) (Nat.le_trans (left_pass counted) within)

/-- Bytes that are still there after a pass were there before it. -/
theorem left_of_again (short : data.length < 2 ^ 32) {at_ : PutState cap} (counted : Counted at_.self)
    (within : at_.left.length ≤ data.length) (more : (putRxLoop data).again (pass at_) = true) :
    at_.left ≠ [] := by
  have fewer := left_pass counted
  have some_ := (again_iff short (Nat.le_trans fewer within)).mp more
  intro none
  rw [none, List.length_nil] at fewer
  exact some_ (List.eq_nil_of_length_eq_zero (Nat.le_zero.mp fewer))

theorem ends_of_consume (short : data.length < 2 ^ 32) {at_ : PutState cap} (counted : Counted at_.self)
    (within : at_.left.length ≤ data.length) {r : Rx cap × Bool}
    (run : consume at_.self at_.frameValid at_.left = some r) :
    ∃ last, (putRxLoop data).Ends at_ last ∧ r = (last.self, last.frameValid) := by
  let Inv (at_ : PutState cap) : Prop := Counted at_.self ∧ at_.left.length ≤ data.length ∧
    consume at_.self at_.frameValid at_.left = some r
  have shrinks : ∀ at_, Inv at_ → (putRxLoop data).again (pass at_) = true →
      Inv (pass at_) ∧ (pass at_).left.length < at_.left.length := by
    rintro at_ ⟨counted, within, run⟩ more
    have some_ := left_of_again short counted within more
    exact ⟨⟨counted_pass counted, Nat.le_trans (left_pass counted) within,
      (consume_pass counted).trans run⟩, left_pass_lt counted run some_⟩
  obtain ⟨last, ends⟩ :=
    DoWhile.ends_of_measure (fun at_ : PutState cap => at_.left.length) shrinks ⟨counted, within, run⟩
  refine ⟨last, ends, ?_⟩
  exact Option.some.inj (run.symm.trans (consume_of_ends short counted within ends))

/-- A pass takes a byte, or the receiver reads another field after it. -/
def Advances (data : List UInt8) (at_ : PutState cap) : Prop :=
  dataOffSet data at_ < dataOffSet data (pass at_) ∨
    (pass at_).self.rxFramedIOState ≠ at_.self.rxFramedIOState

/-- At the beginning of a pass. -/
structure InCall (data : List UInt8) (at_ : PutState cap) : Prop where
  counted : Counted at_.self
  within : at_.left.length ≤ data.length

theorem progresses_of_ends (short : data.length < 2 ^ 32) {at_ last : PutState cap}
    (counted : Counted at_.self) (within : at_.left.length ≤ data.length)
    (ends : (putRxLoop data).Ends at_ last) : (putRxLoop data).Progresses (Advances data) at_ := by
  intro t enters more
  have preserved : ∀ t : PutState cap, InCall data t → InCall data (pass t) := fun t inCall =>
    ⟨counted_pass inCall.counted, Nat.le_trans (left_pass inCall.counted) inCall.within⟩
  obtain ⟨counted', within'⟩ : InCall data t :=
    DoWhile.Enters.invariant preserved enters ⟨counted, within⟩
  have run := consume_of_ends short counted' within' (ends.of_enters enters)
  have fewer := left_pass_lt counted' run (left_of_again short counted' within' more)
  refine Or.inl ?_
  rw [dataOffSet, dataOffSet, seen_of_short short]
  omega

end Short

/-- `FramedIO_putRxData` returns, and every pass of its loop but the last advances. -/
def Terminates (s : Rx cap) (data : List UInt8) : Prop :=
  s.rxDataReady = true ∨ (∃ last, (putRxLoop data).Ends (enterPut s data) last) ∧
    (putRxLoop data).Progresses (Advances data) (enterPut s data)

/-- Which calls return, and what they do then. -/
theorem returns_iff {s : Rx cap} (counted : Counted s) (data : List UInt8) (r : Rx cap × Bool) :
    Returns s data r ↔ putRxData s data = some r := by
  cases ready : s.rxDataReady with
  | true => simp only [Returns, putRxData, ready, if_true, Option.some.injEq, eq_comm]
  | false =>
      simp only [Returns, ready, Bool.false_eq_true, if_false]
      constructor
      · rintro ⟨last, ends, rfl⟩
        have short : data.length < 2 ^ 32 := Nat.not_le.mp fun long => never_ends long _ _ ends
        have within : (enterPut s data).left.length ≤ data.length := by
          rw [enterPut, seen_of_short short]
        have run := consume_of_ends short counted within ends
        rw [enterPut, seen_of_short short] at run
        exact (putRxData_eq_consume counted ready short).trans run
      · intro returned
        have short := short_of_putRxData ready returned
        rw [putRxData_eq_consume counted ready short] at returned
        apply ends_of_consume short counted
        · rw [enterPut, seen_of_short short]
        · rw [enterPut, seen_of_short short]
          exact returned

theorem terminates_iff {s : Rx cap} (counted : Counted s) (data : List UInt8) :
    Terminates s data ↔ ∃ r, Returns s data r := by
  cases ready : s.rxDataReady with
  | true =>
      refine iff_of_true (Or.inl ready) ⟨(s, false), ?_⟩
      simp only [Returns, ready, if_true]
  | false =>
      have returns : ∀ r, Returns s data r ↔
          ∃ last, (putRxLoop data).Ends (enterPut s data) last ∧ r = (last.self, last.frameValid) := by
        simp only [Returns, ready, Bool.false_eq_true, if_false, implies_true]
      simp only [Terminates, ready, Bool.false_eq_true, false_or, returns]
      constructor
      · rintro ⟨⟨last, ends⟩, -⟩
        exact ⟨_, last, ends, rfl⟩
      · rintro ⟨r, last, ends, -⟩
        have short : data.length < 2 ^ 32 := Nat.not_le.mp fun long => never_ends long _ _ ends
        have within : (enterPut s data).left.length ≤ data.length := by
          rw [enterPut, seen_of_short short]
        exact ⟨⟨last, ends⟩, progresses_of_ends short counted within ends⟩

/-- What holds of a new receiver, survives every byte and does not depend on what is
handed over holds of every receiver that is reached. -/
theorem Reached.invariant (Inv : Rx cap → Prop) (create : Inv createRx)
    (settles : ∀ s, Inv s → Inv (settle s)) (byte : ∀ s b r, Inv s → byteStep s b = some r → Inv r.1)
    (handed : ∀ s input ready type, Inv s →
      Inv { s with input := input, rxDataReady := ready, rxType := type })
    {s : Rx cap} (reached : Reached s) : Counted s ∧ Inv s := by
  induction reached with
  | create => exact ⟨counted_createRx, create⟩
  | @put s _ data r returns ih =>
      obtain ⟨counted, inv⟩ := ih
      have returned := (returns_iff counted data r).mp returns
      cases ready : s.rxDataReady with
      | true =>
          simp only [putRxData, ready, if_true, Option.some.injEq] at returned
          subst returned
          exact ⟨counted, inv⟩
      | false =>
          rw [putRxData_eq_consume counted ready (short_of_putRxData ready returned)] at returned
          exact ⟨counted_feed (counted_settle counted) returned,
            feed_preserves Inv byte (settles s inv) returned⟩
  | @runRx s _ ih =>
      unfold FramedIO.runRx
      split
      · exact ih
      · exact ⟨ih.1, handed s s.input false .seNone ih.2⟩
  | resetRx => exact ⟨counted_resetRx _, create⟩
  | @read s _ n ih => exact ⟨ih.1, handed s (s.input.read n).2 s.rxDataReady s.rxType ih.2⟩

theorem Reached.counted {s : Rx cap} (reached : Reached s) : Counted s :=
  (reached.invariant (fun _ => True) True.intro (fun _ _ => True.intro) (fun _ _ _ _ _ => True.intro)
    (fun _ _ _ _ _ => True.intro)).1

end FramedIO
