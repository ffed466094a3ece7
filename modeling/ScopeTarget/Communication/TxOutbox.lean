import ScopeTarget.Base.Outbox
import ScopeTarget.Communication.FramedIOTx

/-! The sending half of FramedIO carries an outbox of frames: one in transit and
one behind it, as long as nothing is posted that it has no place for. -/

namespace FramedIO
variable {cap : Nat}

/-- What the output buffer holds for the frame behind the one in transit. -/
def payloadOf : Option (Frame cap) → Fifo cap UInt8
  | none => .empty
  | some f => Fifo.empty.write f.payload

/-- The payload behind a frame is written only after that frame's own is read. -/
inductive Carries : Tx cap → Outbox (Frame cap) → Prop where
  | idle (finished : List (Frame cap)) (queued : Option (Frame cap)) (type : MessageType)
      (typed : ∀ f ∈ queued, type = f.type) :
      Carries (idle queued.isSome type (payloadOf queued)) ⟨finished, none, queued⟩
  | sending (finished : List (Frame cap)) (queued : Option (Frame cap)) (type : MessageType)
      (typed : ∀ f ∈ queued, type = f.type) (f : Frame cap) (taken : Nat)
      (inside : taken < f.shape.size) (alone : InPayload f taken → payloadOf queued = .empty) :
      Carries (sending f queued.isSome type (payloadOf queued) taken)
        ⟨finished, some (f, taken), queued⟩

section Sending
variable {f : Frame cap} {ready : Bool} {type : MessageType} {next : Fifo cap UInt8} {taken : Nat}

theorem sending_busy : (sending f ready type next taken).txFramedIOState ≠ .none := by
  unfold sending
  split
  · exact nofun
  · split
    · exact nofun
    · exact nofun

theorem state_sending (payload : InPayload f taken) :
    (sending f ready type next taken).txFramedIOState = .head ∨
      (sending f ready type next taken).txFramedIOState = .body := by
  unfold sending
  split
  · exact Or.inl rfl
  · rename_i past
    rw [if_pos (by unfold InPayload at payload; omega)]
    exact Or.inr rfl

theorem sending_of_past (past : ¬ InPayload f taken) :
    sending f ready type next taken =
      inFoot f ready type next (taken - 6 - f.payload.length) := by
  unfold InPayload at past
  rw [sending, if_neg (by omega), if_neg (by omega)]

/-- In the head and in the body nothing waits in the output buffer. -/
theorem sending_next (payload : InPayload f taken) (next' : Fifo cap UInt8) :
    sending f ready type next taken = sending f ready type next' taken := by
  unfold sending
  split
  · rfl
  · rw [if_pos (by unfold InPayload at payload; omega), if_pos (by unfold InPayload at payload; omega)]

theorem updateTx_sending (state : MessageType) : updateTx (sending f ready type next taken) state =
    sending f true state next taken := by
  unfold sending
  split
  · rfl
  · split
    · rfl
    · rfl

end Sending

theorem carries_create : Carries (createTx : Tx cap)
    (Outbox.create (some (.bare .seNone))) := by
  have nothing : payloadOf (some (.bare .seNone : Frame cap)) = .empty :=
    Fifo.write_nil _
  rw [createTx_eq_idle, ← nothing]
  apply Carries.idle
  intro f member
  obtain rfl := Option.some.inj member
  rfl

variable {tx : Tx cap} {box : Outbox (Frame cap)}

theorem carries_read (carries : Carries tx box) (n : Nat) :
    (getTxData tx n).1 = (box.read Frame.encode n).1 ∧
      Carries (getTxData tx n).2 (box.read Frame.encode n).2 := by
  cases carries with
  | idle finished queued type typed => exact ⟨rfl, .idle finished queued type typed⟩
  | sending finished queued type typed f taken inside alone =>
      dsimp only [Outbox.read]
      rw [getTxData_sending inside alone, Frame.length_encode]
      refine ⟨rfl, ?_⟩
      dsimp only
      split
      · rename_i more
        refine .sending finished queued type typed f (taken + n) more ?_
        intro payload
        apply alone
        unfold InPayload at payload ⊢
        omega
      · exact .idle (finished ++ [f]) queued type typed

theorem carries_start (carries : Carries tx box) : Carries (runTx tx) box.start := by
  cases carries with
  | sending finished queued type typed f taken inside alone =>
      rw [runTx_of_busy sending_busy]
      exact .sending finished queued type typed f taken inside alone
  | idle finished queued type typed =>
      cases queued with
      | none =>
          rw [runTx_of_not_ready rfl]
          exact .idle finished none type typed
      | some f =>
          obtain rfl := typed f rfl
          have started : runTx (idle true f.type (payloadOf (some f))) =
            sending f false f.type (payloadOf none) 0 := runTx_idle
          dsimp only [Option.isSome_some]
          rw [started]
          exact .sending finished none f.type nofun f 0 (Nat.lt_add_right _ (by decide)) fun _ => rfl

/-- A frame may be posted when the output buffer is empty, and with a payload only
when that of the frame in transit is behind it. -/
theorem carries_post (carries : Carries tx box) (f : Frame cap) (free : tx.output = .empty)
    (clear : f.payload ≠ [] → tx.txFramedIOState ≠ .head ∧ tx.txFramedIOState ≠ .body) :
    Carries (updateTx { tx with output := Fifo.empty.write f.payload } f.type) (box.post f) := by
  have typed : ∀ g ∈ some f, f.type = g.type := by
    intro g member
    obtain rfl := Option.some.inj member
    rfl
  cases carries with
  | idle finished queued type _ => exact .idle finished (some f) f.type typed
  | sending finished queued type _ g taken inside alone =>
      by_cases payload : InPayload g taken
      · have empty : f.payload = [] := by
          by_contra some_
          obtain ⟨notHead, notBody⟩ := clear some_
          rcases state_sending payload with head | body
          · exact notHead head
          · exact notBody body
        have nothing : payloadOf (some f) = .empty := by
          rw [payloadOf, empty, Fifo.write_nil]
        have unchanged : { sending g queued.isSome type (payloadOf queued) taken with
            output := Fifo.empty.write f.payload } =
              sending g queued.isSome type (payloadOf queued) taken := by
          rw [empty, Fifo.write_nil, ← free]
        rw [unchanged, updateTx_sending, sending_next payload (payloadOf (some f))]
        exact .sending finished (some f) f.type typed g taken inside fun _ => nothing
      · rw [sending_of_past payload]
        have placed : Carries (inFoot g true f.type (payloadOf (some f)) (taken - 6 - g.payload.length))
            ⟨finished, some (g, taken), some f⟩ := by
          rw [← sending_of_past payload]
          exact .sending finished (some f) f.type typed g taken inside fun here => absurd here payload
        exact placed

/-- What is still to be put in transit can be seen in the sender. -/
theorem Carries.queued (carries : Carries tx box) :
    tx.txDataFramingReady = box.queued.isSome ∧ ∀ f ∈ box.queued, tx.txType = f.type := by
  cases carries with
  | idle finished queued type typed => exact ⟨rfl, typed⟩
  | sending finished queued type typed f taken inside alone =>
      unfold FramedIO.sending
      split
      · exact ⟨rfl, typed⟩
      · split
        · exact ⟨rfl, typed⟩
        · exact ⟨rfl, typed⟩

theorem Carries.inside (carries : Carries tx box) {f : Frame cap} {taken : Nat}
    (current : box.current = some (f, taken)) : taken < f.encode.length := by
  rw [Frame.length_encode]
  cases carries with
  | idle finished queued type typed => cases current
  | sending finished queued type typed f taken inside alone =>
      cases current
      exact inside

theorem Carries.frameHead (carries : Carries tx box) {f : Frame cap}
    (current : box.current = some (f, 0)) : tx.frameHead.contents = f.header := by
  cases carries with
  | idle finished queued type typed => cases current
  | sending finished queued type typed f taken inside alone =>
      cases current
      rw [sending_inHead _ (by decide)]
      exact contents_filled (Nat.le_refl 6)

end FramedIO
