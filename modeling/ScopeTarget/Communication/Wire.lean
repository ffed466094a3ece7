import ScopeTarget.Communication.Frame

/-! What a host makes of the bytes it has read: whole frames at the front are
recognised by their length field, checksum and end flag, and the frames without
a type are left out. -/

namespace FramedIO
variable {cap : Nat}

/-- A payload of the announced length, if the frame around it is there as well. -/
def candidate (type : MessageType) (payload bytes : List UInt8) : Option (Frame cap) :=
  if h : payload.length ≤ cap ∧ payload.length < 2 ^ 32 then
    let f : Frame cap := ⟨type, payload, h.1, h.2⟩
    if f.encode.isPrefixOf bytes then some f else none
  else none

def firstFrame (bytes : List UInt8) : Option (Frame cap) :=
  match bytes with
  | _ :: type :: a :: b :: c :: d :: rest =>
      let length := ((a.toNat * 256 + b.toNat) * 256 + c.toNat) * 256 + d.toNat
      candidate ⟨type⟩ (rest.take length) bytes
  | _ => none

/-- A frame that carries an event. -/
def Frame.typed (f : Frame cap) : Bool := f.type ≠ .seNone

/-- The bytes without the complete frames of type `SE_NONE`. What does not begin
with a complete frame is kept as it is. -/
def ignoringNone (cap : Nat) : Nat → List UInt8 → List UInt8
  | 0, bytes => bytes
  | fuel + 1, bytes =>
      match (firstFrame bytes : Option (Frame cap)) with
      | none => bytes
      | some f =>
          (if f.typed then f.encode else []) ++ ignoringNone cap fuel (bytes.drop f.encode.length)

theorem candidate_self (f : Frame cap) {bytes : List UInt8} (here : f.encode <+: bytes) :
    candidate f.type f.payload bytes = some f := by
  unfold candidate
  rw [dif_pos ⟨f.fits, f.representable⟩]
  exact if_pos (List.isPrefixOf_iff_prefix.mpr here)

theorem encode_prefix_of_candidate {type : MessageType} {payload bytes : List UInt8} {f : Frame cap}
    (found : candidate type payload bytes = some f) : f.encode <+: bytes := by
  unfold candidate at found
  split at found
  · dsimp only at found
    split at found
    · rename_i isPrefix
      obtain rfl := Option.some.inj found
      exact List.isPrefixOf_iff_prefix.mp isPrefix
    · cases found
  · cases found

theorem encode_prefix_of_firstFrame {bytes : List UInt8} {f : Frame cap}
    (found : firstFrame bytes = some f) : f.encode <+: bytes := by
  unfold firstFrame at found
  split at found
  · exact encode_prefix_of_candidate found
  · cases found

theorem lengthField (n : Nat) (representable : n < 2 ^ 32) :
    (((UInt8.ofNat (n / 256 ^ 3)).toNat * 256 + (UInt8.ofNat (n / 256 ^ 2)).toNat) * 256 +
      (UInt8.ofNat (n / 256 ^ 1)).toNat) * 256 + (UInt8.ofNat (n / 256 ^ 0)).toNat = n := by
  simp only [UInt8.toNat_ofNat', Nat.reducePow, Nat.div_one] at *
  omega

theorem firstFrame_encode (f : Frame cap) (rest : List UInt8) :
    firstFrame (f.encode ++ rest) = some f := by
  have found := candidate_self f (List.prefix_append f.encode rest)
  have payload : (f.payload ++ (f.trailer ++ rest)).take f.payload.length = f.payload :=
    List.take_left
  have bytes : f.encode ++ rest = f.header ++ (f.payload ++ (f.trailer ++ rest)) := by
    simp only [Frame.encode, List.append_assoc]
  rw [← found]
  conv_lhs => rw [bytes]
  conv_rhs => rw [bytes]
  unfold firstFrame
  simp only [Frame.header, bigEndian, lengthOfLengthField]
  exact congrArg (fun n => candidate f.type ((f.payload ++ (f.trailer ++ rest)).take n) _)
    (lengthField f.payload.length f.representable) |>.trans (by rw [payload])

/-- Frames tell where they end: one that is not complete is not taken for another. -/
theorem firstFrame_of_partial {f : Frame cap} {bytes : List UInt8} (part : bytes <+: f.encode)
    (short : bytes.length < f.encode.length) : (firstFrame bytes : Option (Frame cap)) = none := by
  cases found : (firstFrame bytes : Option (Frame cap)) with
  | none => rfl
  | some g =>
      have front := encode_prefix_of_firstFrame found
      obtain ⟨rest, split⟩ := front.trans part
      have same : some g = some f := by
        rw [← firstFrame_encode g rest, split, ← firstFrame_encode f [], List.append_nil]
      obtain rfl := Option.some.inj same
      exact absurd front.length_le (Nat.not_le.mpr short)

theorem ignoringNone_of_none {bytes : List UInt8} (none_ : (firstFrame bytes : Option (Frame cap)) = none)
    (fuel : Nat) : ignoringNone cap fuel bytes = bytes := by
  cases fuel with
  | zero => rfl
  | succ fuel => rw [ignoringNone, none_]

theorem ignoringNone_frames {frames : List (Frame cap)} {fuel : Nat} (enough : frames.length ≤ fuel)
    (rest : List UInt8) : ignoringNone cap fuel (frames.flatMap Frame.encode ++ rest) =
      (frames.filter Frame.typed).flatMap Frame.encode ++
        ignoringNone cap (fuel - frames.length) rest := by
  induction frames generalizing fuel with
  | nil => rfl
  | cons f frames ih =>
      obtain ⟨more, rfl⟩ : ∃ more, fuel = more + 1 :=
        ⟨fuel - 1, by rw [List.length_cons] at enough; omega⟩
      have later := ih (Nat.le_of_succ_le_succ enough)
      have first := firstFrame_encode f (frames.flatMap Frame.encode ++ rest)
      rw [List.flatMap_cons, List.append_assoc, ignoringNone, first]
      dsimp only
      rw [List.drop_left, later, List.length_cons, Nat.add_sub_add_right]
      cases kept : f.typed with
      | true =>
          rw [List.filter_cons_of_pos kept, List.flatMap_cons, List.append_assoc]
          rfl
      | false =>
          rw [List.filter_cons_of_neg (by rw [kept]; exact Bool.false_ne_true)]
          rfl

theorem length_le_flatMap (frames : List (Frame cap)) :
    frames.length ≤ (frames.flatMap Frame.encode).length := by
  induction frames with
  | nil => exact Nat.le_refl 0
  | cons f frames ih =>
      have size : f.encode.length = 9 + f.payload.length := Frame.length_encode f
      rw [List.flatMap_cons, List.length_append, List.length_cons]
      omega

end FramedIO
