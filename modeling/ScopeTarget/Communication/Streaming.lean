import Mathlib.Data.List.SplitLengths
import ScopeTarget.Communication.Observer

/-! A stream of frames, cut into chunks anywhere, as the observer of FramedIO
sees it. Two frames that share a chunk also share the type field and the input
buffer. `streaming` says for which types, lengths and cuts every stream comes
through nevertheless, whatever its payloads contain. -/

namespace FramedIO
variable {cap : Nat}

def stream (frames : List (Frame cap)) : List UInt8 := (frames.map Frame.encode).flatten

/-- Every frame of the stream, cut into chunks of these lengths, is delivered
once and in order. -/
def Delivered (frames : List (Frame cap)) (cut : List Nat) : Prop :=
  deliver (createRx : Rx cap) (frames.map (·.payload.length)) (cut.splitLengths (stream frames)) =
    some (frames.map fun f => (f.type, f.payload))

/-- How many bytes of a stream are there when each of its frames is complete. -/
def frameEnds : Nat → List (Shape cap) → List Nat
  | _, [] => []
  | start, f :: rest => (start + f.size) :: frameEnds (start + f.size) rest

/-- For each chunk, how many frames have their last byte in it. -/
def endsPerChunk (ends : List Nat) : Nat → List Nat → List Nat
  | _, [] => []
  | start, size :: sizes =>
      ends.countP (fun e => start < e ∧ e ≤ start + size) :: endsPerChunk ends (start + size) sizes

/-- The first `shared` bytes of `next` come in the chunk that completes `f`. Its
length must not be mistaken for complete while the payload of `f` is unread. -/
def PayloadsApart (f : Shape cap) (shared : Nat) (next : Shape cap) : Prop :=
  shared ≤ 5 ∨ f.length = 0 ∨ f.length + (shared - 6) < next.length ∨
    (shared = 6 ∧ next.length < f.length)

/-- The type field still is that of `f` when the observer is told of it. It is
overwritten by the type of `next`, and cleared when the observer is told of the
frame before while the type of `f` is already read. -/
def TypeKept (overhang : Nat) (f : Shape cap) (shared : Nat) (next : Option (Shape cap)) : Prop :=
  if 2 ≤ shared then ∀ g ∈ next, g.type = f.type else 2 ≤ overhang → f.type = .seNone

/-- The cut keeps every two neighbouring frames apart. `overhang` bytes of the
first frame came in the chunk that completed its predecessor, and `taken` bytes
of it came so far. -/
def Separated : Nat → Nat → List (Shape cap) → List Nat → Prop
  | _, _, [], _ => True
  | _, _, _ :: _, [] => True
  | overhang, taken, f :: rest, size :: cut =>
      if taken + size < f.size then Separated overhang (taken + size) (f :: rest) cut
      else
        let shared := taken + size - f.size
        TypeKept overhang f shared rest.head? ∧ (∀ g ∈ rest.head?, PayloadsApart f shared g) ∧
          Separated shared shared rest cut

theorem separated_nil (overhang taken : Nat) (cut : List Nat) :
    Separated overhang taken ([] : List (Shape cap)) cut := by
  unfold Separated
  exact True.intro

/-- The buffer while the payload of `f` waits to be taken out. -/
def stored (f : Frame cap) : Fifo cap UInt8 := Fifo.empty.write f.payload

theorem contents_stored (f : Frame cap) : (stored f).contents = f.payload := by
  have fits : (Fifo.empty : Fifo cap UInt8).used + f.payload.length ≤ cap := by
    rw [Fifo.used_empty, Nat.zero_add]
    exact f.fits
  exact Fifo.contents_write_of_fits fits

theorem used_stored (f : Frame cap) : (stored f).used = f.payload.length :=
  congrArg List.length (contents_stored f)

theorem stored_of_length_zero {f : Frame cap} (none : f.payload.length = 0) : stored f = .empty :=
  (Fifo.eq_empty_iff _).mpr ((used_stored f).trans none)

theorem read_stored (f : Frame cap) (more : List UInt8) (fits : f.payload.length + more.length ≤ cap) :
    ((stored f).write more).read f.payload.length = (f.payload, Fifo.empty.write more) := by
  have room : (stored f).used + more.length ≤ cap := by
    rw [used_stored]
    exact fits
  have contents : ((stored f).write more).contents = f.payload ++ more := by
    rw [Fifo.contents_write_of_fits room, contents_stored]
  obtain ⟨taken, left⟩ := Fifo.read_split contents
  refine Prod.ext taken (Fifo.ext ?_)
  rw [left, Fifo.contents_write_of_fits (by rw [Fifo.used_empty]; omega)]
  rfl

theorem read_stored_whole (f : Frame cap) :
    (stored f).read f.payload.length = (f.payload, .empty) := by
  have whole := read_stored f [] (by rw [List.length_nil]; exact f.fits)
  rwa [Fifo.write_nil, Fifo.write_nil] at whole

/-- The fields the rx runnable clears. -/
def clear (s : Rx cap) : Rx cap := { s with rxDataReady := false, rxType := .seNone }

theorem settle_clear (s : Rx cap) : settle (clear s) = clear (settle s) := by
  by_cases complete : s.rxFramedIOState = .data ∧ s.input.used = s.rxExpectedLength
  · have plain : settle s = { s with rxFramedIOState := .checksum } := if_pos complete
    have cleared : settle (clear s) = { clear s with rxFramedIOState := .checksum } :=
      if_pos complete
    rw [plain, cleared]
    rfl
  · have plain : settle s = s := if_neg complete
    have cleared : settle (clear s) = clear s := if_neg complete
    rw [plain, cleared]

theorem clear_midway (before : Fifo cap UInt8) (ready : Bool) (type : MessageType) (f : Frame cap)
    (taken : Nat) :
    clear (midway before ready type f taken) = midway before false .seNone f taken := by
  unfold midway
  split_ifs
  · rfl
  · rfl
  · rfl
  · rw [← settle_clear]
    rfl
  · rfl
  · rfl

theorem handOver_eq_clear {s : Rx cap} (ready : s.rxDataReady = true) (announced : Nat) :
    handOver s announced =
      (clear { s with input := (s.input.read announced).2 },
        some (s.rxType, (s.input.read announced).1)) := handOver_ready ready announced

/-- Taking the payload of `f` out leaves the receiver where it would be had there
been none, as long as the two payloads were kept apart. -/
theorem handOver_midway {f g : Frame cap} {shared : Nat}
    (apart : PayloadsApart f.shape shared g.shape) (type : MessageType) :
    settle (handOver (midway (stored f) true type g shared) f.payload.length).1 =
        midway .empty false .seNone g shared ∧
      (handOver (midway (stored f) true type g shared) f.payload.length).2 =
        some (type, f.payload) := by
  have ready := ready_midway (stored f) true type g shared
  have whole := read_stored_whole f
  by_cases none : f.payload.length = 0
  · have nothing : ∀ b : Fifo cap UInt8, b.read 0 = ([], b) := fun b => by
      obtain ⟨taken, left⟩ := Fifo.contents_read_of_le (Nat.zero_le b.used)
      exact Prod.ext taken (Fifo.ext left)
    have payload : f.payload = [] := List.eq_nil_of_length_eq_zero none
    rw [handOver_eq_clear ready, none, nothing, payload, stored_of_length_zero none]
    refine ⟨?_, congrArg (fun t => some (t, [])) (type_midway _ _ _ _ _)⟩
    change settle (clear (midway .empty true type g shared)) = _
    rw [clear_midway, settled_midway]
  · by_cases inHeader : shared < 6
    · have moved : { midway (stored f) true type g shared with input := .empty } =
          midway .empty true type g shared := by
        unfold midway
        split_ifs
        · rfl
        · rfl
        · rfl
      have input : (midway (stored f) true type g shared).input = stored f := by
        unfold midway
        split_ifs
        · rfl
        · rfl
        · rfl
      rw [handOver_eq_clear ready, input, whole]
      refine ⟨?_, congrArg (fun t => some (t, f.payload)) (type_midway _ _ _ _ _)⟩
      dsimp only
      rw [moved, clear_midway, settled_midway]
    · obtain ⟨read, rfl⟩ : ∃ read, shared = read + 6 := ⟨shared - 6, by omega⟩
      have room : f.payload.length + read < g.payload.length ∨
          read = 0 ∧ g.payload.length < f.payload.length := by
        rcases apart with header | nothing | later | ⟨atSix, shorter⟩
        · omega
        · exact absurd nothing none
        · exact Or.inl later
        · exact Or.inr ⟨by omega, shorter⟩
      have bounds : read ≤ g.payload.length ∧ f.payload.length + read ≤ cap ∧
          f.payload.length + read ≠ g.payload.length := by
        have := f.fits
        have := g.fits
        omega
      have taken : (g.payload.take read).length = read := List.length_take_of_le bounds.1
      have used := used_inPayload (stored f) true type bounds.1 (by rw [used_stored]; exact bounds.2.1)
      rw [used_stored] at used
      have unsettled : midway (stored f) true type g (read + 6) =
          inPayload (stored f) true type g read := by
        rw [midway_payload _ _ _ _ bounds.1]
        exact settle_of_used_ne (by rw [used]; exact bounds.2.2)
      have split := read_stored f (g.payload.take read) (by rw [taken]; exact bounds.2.1)
      rw [unsettled] at ready ⊢
      have input : (inPayload (stored f) true type g read).input =
          (stored f).write (g.payload.take read) := rfl
      rw [handOver_eq_clear ready, input, split, midway_payload _ _ _ _ bounds.1]
      exact ⟨rfl, rfl⟩

/-- The type field while frame `f` is read, after the last notification. -/
def typeAt (overhang taken : Nat) (f : Frame cap) : MessageType :=
  if overhang < 2 ∧ 2 ≤ taken then f.type else .seNone

/-- The type the observer is told for `f`. -/
def reported (overhang : Nat) (f : Frame cap) (shared : Nat) (g : Frame cap) : MessageType :=
  if 2 ≤ shared then g.type else if overhang < 2 then f.type else .seNone

theorem reported_eq_iff (overhang : Nat) (f : Frame cap) (shared : Nat) (g : Frame cap) :
    reported overhang f shared g = f.type ↔ TypeKept overhang f.shape shared (some g.shape) := by
  by_cases overwritten : 2 ≤ shared
  · simp only [reported, TypeKept, if_pos overwritten, Option.mem_some_iff, forall_eq']
    rfl
  · simp only [reported, TypeKept, if_neg overwritten]
    by_cases fresh : overhang < 2
    · simp only [if_pos fresh, true_iff]
      exact fun late => absurd late (Nat.not_le.mpr fresh)
    · simp only [if_neg fresh, Nat.not_lt.mp fresh, true_implies]
      exact eq_comm

theorem reported_last_eq_iff (overhang : Nat) (f : Frame cap) :
    (if overhang < 2 then f.type else .seNone) = f.type ↔ TypeKept overhang f.shape 0 none := by
  have none : ¬ 2 ≤ 0 := by decide
  simp only [TypeKept, if_neg none]
  by_cases fresh : overhang < 2
  · simp only [if_pos fresh, true_iff]
    exact fun late => absurd late (Nat.not_le.mpr fresh)
  · simp only [if_neg fresh, Nat.not_lt.mp fresh, true_implies]
    exact eq_comm

/-- Where the receiver is before the rest of the stream, once settled. -/
def start (overhang taken : Nat) : List (Frame cap) → Rx cap
  | [] => waiting .empty false .seNone
  | f :: _ => midway .empty false (typeAt overhang taken f) f taken

def At (overhang taken : Nat) (frames : List (Frame cap)) (s : Rx cap) : Prop :=
  Idle s ∧ settle s = start overhang taken frames

theorem at_createRx (frames : List (Frame cap)) : At 0 0 frames createRx := by
  refine ⟨idle_createRx, ?_⟩
  cases frames with
  | nil => rfl
  | cons f rest => rfl

/-- A chunk within one frame. -/
theorem deliver_within {overhang taken size : Nat} {f : Frame cap} {rest : List (Frame cap)}
    {s : Rx cap} (here : At overhang taken (f :: rest) s) (later : overhang ≤ taken)
    (short : size < 2 ^ 32) (within : taken + size < f.shape.size) :
    ∃ s', At overhang (taken + size) (f :: rest) s' ∧ ∀ announced chunks,
      deliver s announced ((f.encode.drop taken).take size :: chunks) =
        deliver s' announced chunks := by
  have length : ((f.encode.drop taken).take size).length = size := by
    rw [List.length_take, List.length_drop, Frame.length_encode]
    omega
  have inFrame : ∀ i, taken ≤ i → i < taken + ((f.encode.drop taken).take size).length →
      InFrame .empty f i := fun i _ high => Or.inr (Or.inr ⟨rfl, by
    rw [length] at high
    simp only [Shape.size, Frame.shape, overhead] at within
    omega⟩)
  have fed := feed_midway inFrame false (typeAt overhang taken f) false (List.take_prefix size _)
  have typed : (if taken < 2 ∧ 2 ≤ taken + size then f.type else typeAt overhang taken f) =
      typeAt overhang (taken + size) f := by
    unfold typeAt
    by_cases fresh : overhang < 2
    · by_cases before : taken < 2
      · exact if_congr (by omega) rfl (if_neg (by omega))
      · rw [if_neg (by omega), if_pos (by omega), if_pos (by omega)]
    · rw [if_neg (by omega), if_neg (by omega), if_neg (by omega)]
  rw [length, typed] at fed
  refine ⟨_, ⟨⟨counted_midway _ _ _ _ _, ready_midway _ _ _ _ _⟩, settled_midway _ _ _ _ _⟩, ?_⟩
  intro announced chunks
  have idle := ready_midway .empty false (typeAt overhang (taken + size) f) f (taken + size)
  rw [deliver_cons here.1 announced (by rw [length]; exact short), here.2, ← resume_nil_idle idle,
    ← resume_append fed, List.append_nil]
  rfl

/-- The beginning of a frame, with the payload of another still in the buffer. -/
theorem feed_prefix {f g : Frame cap} {shared : Nat} (inFrame : ∀ i < shared, InFrame (stored f) g i)
    (inside : shared < g.shape.size) (type : MessageType) (valid : Bool) :
    feed (waiting (stored f) true type) valid (g.encode.take shared) =
      some (midway (stored f) true (if 2 ≤ shared then g.type else type) g shared, valid) := by
  have length : (g.encode.take shared).length = shared := by
    rw [List.length_take, Frame.length_encode]
    exact Nat.min_eq_left (Nat.le_of_lt inside)
  have inFrame' : ∀ i, 0 ≤ i → i < 0 + (g.encode.take shared).length → InFrame (stored f) g i :=
    fun i _ high => inFrame i (by rw [length] at high; omega)
  have fed := feed_midway inFrame' true type valid (List.take_prefix shared g.encode)
  simp only [length, Nat.zero_add, Nat.zero_lt_two, true_and] at fed
  exact fed

theorem inFrame_of_apart {f g : Frame cap} {shared : Nat}
    (apart : PayloadsApart f.shape shared g.shape) (inside : shared < g.shape.size) :
    ∀ i < shared, InFrame (stored f) g i := by
  intro i high
  simp only [Shape.size, Frame.shape, overhead] at inside
  simp only [InFrame, used_stored]
  rcases apart with header | nothing | later | ⟨atSix, -⟩
  · exact Or.inl (by omega)
  · exact Or.inr (Or.inr ⟨stored_of_length_zero nothing, by omega⟩)
  · simp only [Frame.shape] at later
    omega
  · exact Or.inl (by omega)

/-- The end of one frame and the beginning of the next in one chunk. -/
theorem deliver_across {overhang taken shared : Nat} {f g : Frame cap} {rest : List (Frame cap)}
    {s : Rx cap} (here : At overhang taken (f :: g :: rest) s) (later : overhang ≤ taken)
    (first : taken < f.shape.size) (second : shared < g.shape.size)
    (short : f.shape.size - taken + shared < 2 ^ 32)
    (apart : PayloadsApart f.shape shared g.shape) :
    ∃ s', At shared shared (g :: rest) s' ∧ ∀ announced chunks,
      deliver s (f.payload.length :: announced)
          ((f.encode.drop taken ++ g.encode.take shared) :: chunks) =
        (deliver s' announced chunks).map ((reported overhang f shared g, f.payload) :: ·) := by
  have ended := feed_midway_end first false (typeAt overhang taken f) false
  have fed := feed_prefix (inFrame_of_apart apart second) second
    (if taken < 2 then f.type else typeAt overhang taken f) true
  have typed : (if 2 ≤ shared then g.type else if taken < 2 then f.type else typeAt overhang taken f) =
      reported overhang f shared g := by
    unfold reported typeAt
    refine if_congr Iff.rfl rfl ?_
    by_cases before : taken < 2
    · rw [if_pos before, if_pos (by omega)]
    · rw [if_neg before]
      exact if_congr (by omega) rfl rfl
  rw [typed] at fed
  have ready := ready_midway (stored f) true (reported overhang f shared g) g shared
  have counted := counted_midway (stored f) true (reported overhang f shared g) g shared
  obtain ⟨settled, notified⟩ := handOver_midway apart (reported overhang f shared g)
  have untyped : typeAt shared shared g = .seNone := if_neg (by omega)
  refine ⟨_, ⟨idle_handOver counted f.payload.length, by rw [settled, start, untyped]⟩, ?_⟩
  intro announced chunks
  have both : feed (start overhang taken (f :: g :: rest)) false
      (f.encode.drop taken ++ g.encode.take shared) =
        some (midway (stored f) true (reported overhang f shared g) g shared, true) :=
    (feed_append_of_run ended _).trans fed
  have short' : (f.encode.drop taken ++ g.encode.take shared).length < 2 ^ 32 := by
    rwa [List.length_append, List.length_drop, List.length_take, Frame.length_encode,
      Frame.length_encode, Nat.min_eq_left (Nat.le_of_lt second)]
  rw [deliver_cons here.1 _ short', here.2,
    ← List.append_nil (f.encode.drop taken ++ g.encode.take shared), resume_append both]
  exact resume_nil_told (Prod.ext rfl notified) announced chunks

/-- The end of the last frame. -/
theorem deliver_last {overhang taken : Nat} {f : Frame cap} {s : Rx cap}
    (here : At overhang taken [f] s) (later : overhang ≤ taken) (first : taken < f.shape.size)
    (short : f.shape.size - taken < 2 ^ 32) :
    ∃ s' : Rx cap, At 0 0 [] s' ∧ ∀ announced chunks,
      deliver s (f.payload.length :: announced) (f.encode.drop taken :: chunks) =
        (deliver s' announced chunks).map
          ((if overhang < 2 then f.type else .seNone, f.payload) :: ·) := by
  have ended := feed_midway_end first false (typeAt overhang taken f) false
  have typed : (if taken < 2 then f.type else typeAt overhang taken f) =
      if overhang < 2 then f.type else .seNone := by
    unfold typeAt
    by_cases before : taken < 2
    · rw [if_pos before, if_pos (by omega)]
    · rw [if_neg before]
      exact if_congr (by omega) rfl rfl
  rw [typed] at ended
  refine ⟨waiting .empty false .seNone, ⟨⟨rfl, rfl⟩, settle_of_ne_data (by exact nofun)⟩, ?_⟩
  intro announced chunks
  have run : feed (start overhang taken [f]) false (f.encode.drop taken) = _ := ended
  have short' : (f.encode.drop taken).length < 2 ^ 32 := by
    rwa [List.length_drop, Frame.length_encode]
  rw [deliver_cons here.1 _ short', here.2, ← List.append_nil (f.encode.drop taken),
    resume_append run]
  refine resume_nil_told ?_ announced chunks
  rw [handOver_eq_clear rfl]
  have whole := read_stored_whole f
  simp only [stored] at whole
  simp only [waiting, whole]
  rfl

theorem byteSum_of_zeros {data : List UInt8} (zeros : ∀ b ∈ data, b = 0) : byteSum data = 0 := by
  rw [List.eq_replicate_of_mem zeros, byteSum, List.map_replicate, UInt8.toNat_zero,
    List.sum_replicate_nat, Nat.mul_zero]

theorem split_chunk {g : Frame cap} {first shared : Nat} (le : first ≤ shared) :
    g.encode.take shared =
      g.encode.take first ++ (g.encode.drop first).take (shared - first) := by
  rw [← List.take_add, Nat.add_sub_cancel' le]

theorem trailer_of_zeros {g : Frame cap} (zeros : ∀ b ∈ g.payload, b = 0) :
    g.trailer = [0, 0, endByte] := by
  rw [Frame.trailer, byteSum_of_zeros zeros]
  rfl

/-- The rest of a payload of zeros, and its checksum. -/
theorem zeros_upcoming {g : Frame cap} (zeros : ∀ b ∈ g.payload, b = 0) {read : Nat}
    (inside : read ≤ g.payload.length) (more : List UInt8) :
    List.replicate (g.payload.length - read + 2) 0 <+: g.encode.drop (read + 6) ++ more := by
  have payload : g.payload.drop read = List.replicate (g.payload.length - read) 0 := by
    rw [← List.length_drop]
    exact List.eq_replicate_of_mem fun b member => zeros b (List.mem_of_mem_drop member)
  have split : g.encode.drop (read + 6) = g.payload.drop read ++ g.trailer := by
    have shift : read + 6 = g.header.length + read := by
      rw [Frame.length_header]
      exact Nat.add_comm _ _
    rw [Frame.encode, List.append_assoc, shift, List.drop_append, List.drop_eq_nil_of_le (by omega),
      List.nil_append, Nat.add_sub_cancel_left, List.drop_append_of_le_length inside]
  refine ⟨endByte :: more, ?_⟩
  rw [split, payload, trailer_of_zeros zeros, List.replicate_add, List.append_assoc,
    List.append_assoc]
  rfl

/-- Two payloads that are not kept apart are not both delivered, whatever
follows, when the second one is all zeros. -/
theorem resume_mixed {f g : Frame cap} {shared : Nat}
    (mixed : ¬ PayloadsApart f.shape shared g.shape) (zeros : ∀ b ∈ g.payload, b = 0)
    {chunks : List (List UInt8)} {more : List UInt8} (rest : chunks.flatten = g.encode.drop shared ++ more)
    {announced : List Nat} {notified : List (MessageType × List UInt8)}
    (whole : cost notified = f.shape.size + g.shape.size + more.length) (type : MessageType) :
    resume (waiting (stored f) true type) announced (g.encode.take shared) chunks ≠ some notified := by
  intro run
  simp only [PayloadsApart, Frame.shape, not_or, not_and, not_lt] at mixed
  obtain ⟨late, some, complete, same⟩ := mixed
  simp only [Shape.size, Frame.shape, overhead] at whole
  rcases Nat.lt_or_ge g.payload.length f.payload.length with shorter | longer
  -- more is stored than the header just read announces, and the next byte is never consumed
  · have inHeader : ∀ i < 6, InFrame (stored f) g i := fun i high => Or.inl high
    have fed := feed_prefix inHeader
      (by simp only [Shape.size, Frame.shape, overhead]; omega) type false
    have used := used_inPayload (stored f) true g.type (Nat.zero_le g.payload.length)
      (by rw [used_stored]; exact f.fits)
    rw [used_stored, Nat.add_zero] at used
    have stuck : Stuck (midway (stored f) true g.type g 6) := by
      rw [midway_payload _ _ _ _ (Nat.zero_le _),
        settle_of_used_ne (by rw [used]; exact (Nat.ne_of_lt shorter).symm)]
      exact ⟨rfl, by rw [used]; exact shorter⟩
    have left : (g.encode.drop 6).take (shared - 6) ≠ [] := by
      refine List.ne_nil_of_length_pos ?_
      rw [List.length_take, List.length_drop, Frame.length_encode]
      simp only [Shape.size, Frame.shape, overhead]
      omega
    have hang := consume_of_stuck stuck false left
    rw [consume, settled_midway] at hang
    rw [split_chunk (by omega : 6 ≤ shared), resume_append fed] at run
    simp only [Nat.reduceLeDiff, if_true, resume, hang, Option.bind_none, reduceCtorEq] at run
  -- the buffer holds as much as the second header announces before the second payload is there
  · obtain ⟨read, total⟩ := Nat.exists_eq_add_of_le longer
    have inFrame : ∀ i < read + 6, InFrame (stored f) g i := by
      intro i high
      simp only [InFrame, used_stored]
      omega
    have fed := feed_prefix inFrame
      (by simp only [Shape.size, Frame.shape, overhead]; omega) type false
    rw [if_pos (by omega)] at fed
    have inside : read ≤ g.payload.length := by omega
    have used := used_inPayload (stored f) true g.type inside
      (by rw [used_stored, ← total]; exact g.fits)
    rw [used_stored, ← total] at used
    have early : midway (stored f) true g.type g (read + 6) =
        { inPayload (stored f) true g.type g read with rxFramedIOState := .checksum } := by
      rw [midway_payload _ _ _ _ inside]
      exact if_pos ⟨rfl, used⟩
    have sum : byteSum (g.payload.take read) % 2 ^ 16 = 0 := by
      rw [byteSum_of_zeros fun b member => zeros b (List.mem_of_mem_take member), Nat.zero_mod]
    have doomed : Doomed (g.payload.length - read + 2) (midway (stored f) true g.type g (read + 6)) := by
      rw [early]
      refine Or.inl ⟨rfl, sum, rfl, Nat.zero_lt_two, ?_⟩
      dsimp only [inPayload, waiting, createRx]
      omega
    have together : (g.encode.drop (read + 6)).take (shared - (read + 6)) ++ chunks.flatten =
        g.encode.drop (read + 6) ++ more := by
      have left : g.encode.drop shared =
          (g.encode.drop (read + 6)).drop (shared - (read + 6)) := by
        rw [List.drop_drop, Nat.add_sub_cancel' (by omega)]
      rw [rest, left, ← List.append_assoc, List.take_append_drop]
    rw [split_chunk (by omega : read + 6 ≤ shared), resume_append fed] at run
    have lost := resume_doomed (counted_midway _ _ _ _ _) doomed
      (by rw [together]; exact zeros_upcoming zeros inside more) run
    have had : potential (midway (stored f) true g.type g (read + 6)) = 6 + g.payload.length + 9 := by
      rw [early]
      change 6 + 0 + (inPayload (stored f) true g.type g read).input.used + overhead = _
      rw [used]
      rfl
    rw [together, had, List.length_append, List.length_drop, Frame.length_encode] at lost
    simp only [Shape.size, Frame.shape, overhead] at lost
    omega

def lengths (frames : List (Frame cap)) : List Nat := frames.map (·.payload.length)

/-- What the observer should be told. -/
def told (frames : List (Frame cap)) : List (MessageType × List UInt8) :=
  frames.map fun f => (f.type, f.payload)

theorem stream_cons (f : Frame cap) (rest : List (Frame cap)) :
    stream (f :: rest) = f.encode ++ stream rest := rfl

theorem drop_stream {f : Frame cap} {taken : Nat} (first : taken ≤ f.shape.size)
    (rest : List (Frame cap)) : (stream (f :: rest)).drop taken = f.encode.drop taken ++ stream rest := by
  rw [stream_cons, List.drop_append_of_le_length (by rw [Frame.length_encode]; exact first)]

theorem splitLengths_within {f : Frame cap} {taken size : Nat} (within : taken + size < f.shape.size)
    (rest : List (Frame cap)) (cut : List Nat) :
    (size :: cut).splitLengths ((stream (f :: rest)).drop taken) =
      (f.encode.drop taken).take size ::
        cut.splitLengths ((stream (f :: rest)).drop (taken + size)) := by
  have fits : size ≤ (f.encode.drop taken).length := by
    rw [List.length_drop, Frame.length_encode]
    omega
  rw [List.splitLengths_cons, List.drop_drop, drop_stream (by omega),
    List.take_append_of_le_length fits]

theorem splitLengths_across {f : Frame cap} {taken size : Nat} (first : taken ≤ f.shape.size)
    (across : f.shape.size ≤ taken + size) (rest : List (Frame cap)) (cut : List Nat) :
    (size :: cut).splitLengths ((stream (f :: rest)).drop taken) =
      (f.encode.drop taken ++ (stream rest).take (taken + size - f.shape.size)) ::
        cut.splitLengths ((stream rest).drop (taken + size - f.shape.size)) := by
  have length : (f.encode.drop taken).length = f.shape.size - taken := by
    rw [List.length_drop, Frame.length_encode]
  have gone : (f.encode.drop taken).drop size = [] := List.drop_eq_nil_of_le (by rw [length]; omega)
  have shift : size - (f.shape.size - taken) = taken + size - f.shape.size := by omega
  rw [List.splitLengths_cons, drop_stream first, List.take_append, List.drop_append, length, gone,
    List.nil_append, shift, List.take_of_length_le (by rw [length]; omega)]

/-- After the last frame only empty chunks are left. -/
theorem deliver_nothing {overhang taken : Nat} {s : Rx cap} (here : At overhang taken [] s)
    (cut : List Nat) : deliver s [] (cut.splitLengths []) = some [] := by
  induction cut generalizing s with
  | nil => rfl
  | cons size cut ih =>
      have idle : (start overhang taken ([] : List (Frame cap))).rxDataReady = false := rfl
      rw [List.splitLengths_cons, List.take_nil, List.drop_nil,
        deliver_cons here.1 _ (by exact Nat.two_pow_pos 32), here.2, resume_nil_idle idle]
      exact ih ⟨⟨rfl, rfl⟩, settle_of_ne_data (by exact nofun)⟩

/-- A chunk with one frame end stops before the end of the next frame. -/
theorem shared_lt {done : List Nat} {base taken size : Nat} {f g : Shape cap} {rest : List (Shape cap)}
    {cut : List Nat}
    (single : ∀ ends ∈ endsPerChunk (done ++ frameEnds base (f :: g :: rest)) (base + taken) (size :: cut),
      ends ≤ 1)
    (first : taken < f.size) (across : f.size ≤ taken + size) : taken + size - f.size < g.size := by
  by_contra both
  have one := single _ List.mem_cons_self
  have pos : 0 < g.size := by
    simp only [Shape.size, overhead]
    omega
  rw [frameEnds, frameEnds, List.countP_append, List.countP_cons_of_pos (by
      simp only [decide_eq_true_eq]; omega), List.countP_cons_of_pos (by
      simp only [decide_eq_true_eq]; omega)] at one
  omega

theorem length_stream_cons (f : Frame cap) (rest : List (Frame cap)) :
    (stream (f :: rest)).length = f.shape.size + (stream rest).length := by
  rw [stream_cons, List.length_append, Frame.length_encode]

theorem cost_told (frames : List (Frame cap)) : cost (told frames) = (stream frames).length := by
  induction frames with
  | nil => rfl
  | cons f rest ih =>
      rw [length_stream_cons, ← ih]
      rfl

/-- A point between two chunks of a stream whose chunks hold one frame end each. -/
structure Midstream (overhang taken : Nat) (frames : List (Frame cap)) (cut : List Nat)
    (s : Rx cap) : Prop where
  at_ : At overhang taken frames s
  later : overhang ≤ taken
  first : ∀ f ∈ frames.head?, taken < f.shape.size
  whole : cut.sum + taken = (stream frames).length
  shorts : ∀ size ∈ cut, size < 2 ^ 32
  single : ∃ done base, ∀ ends ∈ endsPerChunk (done ++ frameEnds base (frames.map Frame.shape))
    (base + taken) cut, ends ≤ 1

namespace Midstream
variable {overhang taken size : Nat} {f g : Frame cap} {rest : List (Frame cap)} {cut : List Nat}
  {s : Rx cap}

theorem within (m : Midstream overhang taken (f :: rest) (size :: cut) s)
    (within : taken + size < f.shape.size) :
    ∃ s', Midstream overhang (taken + size) (f :: rest) cut s' ∧ ∀ announced,
      deliver s announced ((size :: cut).splitLengths ((stream (f :: rest)).drop taken)) =
        deliver s' announced (cut.splitLengths ((stream (f :: rest)).drop (taken + size))) := by
  obtain ⟨s', here, run⟩ := deliver_within m.at_ m.later (m.shorts size List.mem_cons_self) within
  obtain ⟨done, base, single⟩ := m.single
  refine ⟨s', ⟨here, Nat.le_add_right_of_le m.later, ?_, ?_,
    fun n member => m.shorts n (List.mem_cons_of_mem _ member), done, base, ?_⟩,
    fun announced => ?_⟩
  · rintro _ ⟨⟩
    exact within
  · have := m.whole
    rw [List.sum_cons] at this
    omega
  · rw [← Nat.add_assoc]
    exact fun ends member => single ends (List.mem_cons_of_mem _ member)
  · rw [splitLengths_within within, run]

theorem shared_lt (m : Midstream overhang taken (f :: g :: rest) (size :: cut) s)
    (across : f.shape.size ≤ taken + size) : taken + size - f.shape.size < g.shape.size := by
  obtain ⟨done, base, single⟩ := m.single
  exact FramedIO.shared_lt single (m.first f rfl) across

theorem across (m : Midstream overhang taken (f :: g :: rest) (size :: cut) s)
    (across : f.shape.size ≤ taken + size)
    (apart : PayloadsApart f.shape (taken + size - f.shape.size) g.shape) :
    ∃ s', Midstream (taken + size - f.shape.size) (taken + size - f.shape.size) (g :: rest) cut s' ∧
      deliver s (lengths (f :: g :: rest))
          ((size :: cut).splitLengths ((stream (f :: g :: rest)).drop taken)) =
        (deliver s' (lengths (g :: rest))
          (cut.splitLengths ((stream (g :: rest)).drop (taken + size - f.shape.size)))).map
            ((reported overhang f (taken + size - f.shape.size) g, f.payload) :: ·) := by
  have first := m.first f rfl
  have second := m.shared_lt across
  have short := m.shorts size List.mem_cons_self
  obtain ⟨s', here, run⟩ := deliver_across m.at_ m.later first second (by omega) apart
  obtain ⟨done, base, single⟩ := m.single
  refine ⟨s', ⟨here, Nat.le_refl _, ?_, ?_, fun n member => m.shorts n (List.mem_cons_of_mem _ member),
    done ++ [base + f.shape.size], base + f.shape.size, ?_⟩, ?_⟩
  · rintro _ ⟨⟩
    exact second
  · have := m.whole
    rw [List.sum_cons, length_stream_cons] at this
    omega
  · have next : base + f.shape.size + (taken + size - f.shape.size) = base + taken + size := by omega
    rw [next, List.append_assoc]
    exact fun ends member => single ends (List.mem_cons_of_mem _ member)
  · have begun : (stream (g :: rest)).take (taken + size - f.shape.size) =
        g.encode.take (taken + size - f.shape.size) := by
      rw [stream_cons, List.take_append_of_le_length (by
        rw [Frame.length_encode]
        exact Nat.le_of_lt second)]
    rw [splitLengths_across (Nat.le_of_lt first) across, begun]
    exact run _ _

/-- The chunk that completes the last frame. -/
theorem last (m : Midstream overhang taken [f] (size :: cut) s) (across : f.shape.size ≤ taken + size) :
    deliver s (lengths [f]) ((size :: cut).splitLengths ((stream [f]).drop taken)) =
      some [(if overhang < 2 then f.type else .seNone, f.payload)] := by
  have first := m.first f rfl
  have short := m.shorts size List.mem_cons_self
  obtain ⟨s', here, run⟩ := deliver_last m.at_ m.later first (by omega)
  rw [splitLengths_across (Nat.le_of_lt first) across]
  have none : stream ([] : List (Frame cap)) = [] := rfl
  rw [none, List.take_nil, List.drop_nil, List.append_nil]
  refine (run [] _).trans ?_
  rw [deliver_nothing here]
  rfl

theorem last_shared (m : Midstream overhang taken [f] (size :: cut) s)
    (across : f.shape.size ≤ taken + size) : taken + size - f.shape.size = 0 := by
  have whole := m.whole
  have none : (stream ([] : List (Frame cap))).length = 0 := rfl
  rw [List.sum_cons, length_stream_cons, none] at whole
  omega

theorem apart_of_delivered (m : Midstream overhang taken (f :: g :: rest) (size :: cut) s)
    (across : f.shape.size ≤ taken + size) (zeros : ∀ b ∈ g.payload, b = 0) {announced : List Nat}
    (run : deliver s announced ((size :: cut).splitLengths ((stream (f :: g :: rest)).drop taken)) =
      some (told (f :: g :: rest))) :
    PayloadsApart f.shape (taken + size - f.shape.size) g.shape := by
  by_contra mixed
  have first := m.first f rfl
  have second := m.shared_lt across
  have whole := m.whole
  rw [List.sum_cons, length_stream_cons, length_stream_cons] at whole
  have ended := feed_midway_end first false (typeAt overhang taken f) false
  have run' : feed (start overhang taken (f :: g :: rest)) false (f.encode.drop taken) = _ := ended
  have begun : (stream (g :: rest)).take (taken + size - f.shape.size) =
      g.encode.take (taken + size - f.shape.size) := by
    rw [stream_cons, List.take_append_of_le_length (by
      rw [Frame.length_encode]
      exact Nat.le_of_lt second)]
  have others : (cut.splitLengths ((stream (g :: rest)).drop (taken + size - f.shape.size))).flatten =
      g.encode.drop (taken + size - f.shape.size) ++ stream rest := by
    rw [List.flatten_splitLengths _ _ (by rw [List.length_drop, length_stream_cons]; omega),
      drop_stream (Nat.le_of_lt second)]
  have paid : cost (told (f :: g :: rest)) = f.shape.size + g.shape.size + (stream rest).length := by
    rw [cost_told, length_stream_cons, length_stream_cons, Nat.add_assoc]
  rw [splitLengths_across (Nat.le_of_lt first) across, begun] at run
  rw [deliver_cons m.at_.1 _ (short_of_deliver m.at_.1 run), m.at_.2, resume_append run'] at run
  exact resume_mixed mixed zeros others paid _ run

end Midstream

/-- No chunk is left before the end of the last frame. -/
theorem Midstream.nil {overhang taken : Nat} {frames : List (Frame cap)} {s : Rx cap}
    (m : Midstream overhang taken frames [] s) : frames = [] := by
  cases frames with
  | nil => rfl
  | cons f rest =>
      have whole := m.whole
      have first := m.first f rfl
      rw [List.sum_nil, length_stream_cons] at whole
      omega

theorem deliver_of_separated {overhang taken : Nat} {frames : List (Frame cap)} {cut : List Nat}
    {s : Rx cap} (m : Midstream overhang taken frames cut s)
    (separated : Separated overhang taken (frames.map Frame.shape) cut) :
    deliver s (lengths frames) (cut.splitLengths ((stream frames).drop taken)) =
      some (told frames) := by
  induction cut generalizing overhang taken frames s with
  | nil =>
      obtain rfl := m.nil
      rfl
  | cons size cut ih =>
      cases frames with
      | nil =>
          have none : (stream ([] : List (Frame cap))).drop taken = [] := List.drop_nil
          rw [none]
          exact deliver_nothing m.at_ (size :: cut)
      | cons f rest =>
          simp only [List.map_cons, Separated] at separated
          by_cases within : taken + size < f.shape.size
          · rw [if_pos within] at separated
            obtain ⟨s', m', run⟩ := m.within within
            rw [run]
            exact ih m' separated
          · rw [if_neg within] at separated
            obtain ⟨typeKept, apart, separated⟩ := separated
            have across := Nat.not_lt.mp within
            cases rest with
            | nil =>
                rw [m.last_shared across] at typeKept
                rw [m.last across, (reported_last_eq_iff overhang f).mpr typeKept]
                rfl
            | cons g rest =>
                obtain ⟨s', m', run⟩ := m.across across (apart _ rfl)
                rw [run, ih m' separated, (reported_eq_iff overhang f _ g).mpr typeKept]
                rfl

theorem separated_of_deliver {overhang taken : Nat} {frames : List (Frame cap)} {cut : List Nat}
    {s : Rx cap} (m : Midstream overhang taken frames cut s)
    (zeros : ∀ f ∈ frames, ∀ b ∈ f.payload, b = 0)
    (run : deliver s (lengths frames) (cut.splitLengths ((stream frames).drop taken)) =
      some (told frames)) : Separated overhang taken (frames.map Frame.shape) cut := by
  induction cut generalizing overhang taken frames s with
  | nil =>
      obtain rfl := m.nil
      exact separated_nil _ _ _
  | cons size cut ih =>
      cases frames with
      | nil => exact separated_nil _ _ _
      | cons f rest =>
          simp only [List.map_cons, Separated]
          by_cases within : taken + size < f.shape.size
          · obtain ⟨s', m', step⟩ := m.within within
            rw [if_pos within]
            exact ih m' zeros (by rw [← step]; exact run)
          · have across := Nat.not_lt.mp within
            rw [if_neg within]
            cases rest with
            | nil =>
                rw [m.last across] at run
                have same := (List.cons.inj (Option.some.inj run)).1
                rw [m.last_shared across]
                refine ⟨(reported_last_eq_iff overhang f).mp (Prod.mk.inj same).1, ?_, ?_⟩
                · exact fun _ none => nomatch none
                · exact separated_nil _ _ _
            | cons g rest =>
                have zeros' : ∀ h ∈ g :: rest, ∀ b ∈ h.payload, b = 0 := fun h member =>
                  zeros h (List.mem_cons_of_mem _ member)
                have apart := m.apart_of_delivered across (zeros' g List.mem_cons_self) run
                obtain ⟨s', m', step⟩ := m.across across apart
                rw [step] at run
                obtain ⟨others, run', same⟩ := Option.map_eq_some_iff.mp run
                obtain ⟨first, rfl⟩ := List.cons.inj same
                refine ⟨(reported_eq_iff overhang f _ g).mp (Prod.mk.inj first).1, ?_, ih m' zeros' run'⟩
                rintro _ ⟨⟩
                exact apart

/-- The frame of a shape whose payload is all zeros. -/
def Shape.zeros (f : Shape cap) : Frame cap where
  type := f.type
  payload := List.replicate f.length 0
  fits := by
    rw [List.length_replicate]
    exact f.fits
  representable := by
    rw [List.length_replicate]
    exact f.representable

theorem Shape.shape_zeros (f : Shape cap) : f.zeros.shape = f := by
  simp only [Frame.shape, Shape.zeros, List.length_replicate]

/-- Whether a stream comes through is decided by the types and lengths of its
frames and by the cut: every stream of such frames is delivered, whatever its
payloads contain, exactly when the cut keeps neighbouring frames apart and no
chunk outruns the offset into it. -/
theorem streaming (shapes : List (Shape cap)) (cut : List Nat)
    (whole : cut.sum = (shapes.map Shape.size).sum)
    (single : ∀ ends ∈ endsPerChunk (frameEnds 0 shapes) 0 cut, ends ≤ 1) :
    (∀ frames : List (Frame cap), frames.map Frame.shape = shapes → Delivered frames cut) ↔
      Separated 0 0 shapes cut ∧ ∀ size ∈ cut, size < 2 ^ 32 := by
  have size : ∀ frames : List (Frame cap), (stream frames).length =
      ((frames.map Frame.shape).map Shape.size).sum := by
    intro frames
    induction frames with
    | nil => rfl
    | cons f rest ih => rw [length_stream_cons, ih]; rfl
  have start : ∀ frames : List (Frame cap), frames.map Frame.shape = shapes →
      (∀ size ∈ cut, size < 2 ^ 32) → Midstream 0 0 frames cut createRx := by
    rintro frames rfl shorts
    refine ⟨at_createRx frames, Nat.le_refl _, fun f _ => ?_, ?_, shorts, [], 0, single⟩
    · simp only [Shape.size, overhead]
      omega
    · rw [size, Nat.add_zero, whole]
  constructor
  · intro every
    have same : (shapes.map Shape.zeros).map Frame.shape = shapes := by
      rw [List.map_map]
      exact (List.map_congr_left fun f _ => f.shape_zeros).trans (List.map_id _)
    have zeros : ∀ f ∈ shapes.map Shape.zeros, ∀ b ∈ f.payload, b = 0 := by
      intro f member b inside
      obtain ⟨shape, -, rfl⟩ := List.mem_map.mp member
      exact List.eq_of_mem_replicate inside
    have run := every _ same
    have shorts : ∀ size ∈ cut, size < 2 ^ 32 := by
      have cuts : (cut.splitLengths (stream (shapes.map Shape.zeros))).map List.length = cut :=
        List.map_splitLengths_length _ _ (by rw [size, same, whole])
      rw [← cuts]
      exact List.forall_mem_map.mpr (shorts_of_deliver idle_createRx run)
    have separated := separated_of_deliver (start _ same shorts) zeros run
    rw [same] at separated
    exact ⟨separated, shorts⟩
  · rintro ⟨separated, shorts⟩ frames rfl
    exact deliver_of_separated (start frames rfl shorts) separated

/-- Two requests without payload, the second begun in the chunk that ends the first. -/
theorem streaming_two_requests :
    (∀ frames : List (Frame 1), frames.map Frame.shape =
        [⟨.evAnnounce, 0, by decide, by decide⟩, ⟨.evAnnounce, 0, by decide, by decide⟩] →
      Delivered frames [11, 7]) ↔
        Separated 0 0 [(⟨.evAnnounce, 0, by decide, by decide⟩ : Shape 1),
          ⟨.evAnnounce, 0, by decide, by decide⟩] [11, 7] ∧ ∀ size ∈ [11, 7], size < 2 ^ 32 :=
  streaming _ [11, 7] (by decide) (by decide)

/-- The observer is told the type of the second request for the first one. -/
theorem streaming_fails :
    ¬ ∀ (frames : List (Frame 1)) (cut : List Nat),
      cut.sum = ((frames.map Frame.shape).map Shape.size).sum →
      (∀ ends ∈ endsPerChunk (frameEnds 0 (frames.map Frame.shape)) 0 cut, ends ≤ 1) →
      Delivered frames cut := by
  intro every
  have delivered := every
    [.bare .evAnnounce, .bare .evClear] [11, 7]
    (by decide) (by decide)
  revert delivered
  unfold Delivered
  decide

end FramedIO
