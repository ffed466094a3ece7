import ScopeTarget.Builders.ScopeThreadRunner

/-! No command is lost between the framer and the controller as long as a frame
is accepted only when the command before it has been run. -/

namespace Builders
open Control Serialisation FramedIO

namespace Served
variable {Q α : Type*} {inCap outCap : Nat} (pb : PbDecode α) (amountOfChannels : Nat)

section Placing
variable {cap : Nat}

/-- The receiver between two calls: some bytes of the first upcoming frame are read. -/
def atPlace (input : Fifo cap UInt8) (ready : Bool) (type : MessageType) (upcoming : List (Frame cap))
    (taken : Nat) : Rx cap :=
  match upcoming with
  | [] => waiting input ready type
  | f :: _ => midway input ready type f taken

variable {input : Fifo cap UInt8} {ready : Bool} {type : MessageType} {upcoming : List (Frame cap)}
  {taken : Nat}

theorem atPlace_append (none_ : upcoming = [] → taken = 0) (frames : List (Frame cap)) :
    atPlace input ready type (upcoming ++ frames) taken = atPlace input ready type upcoming taken := by
  cases upcoming with
  | cons f rest => rfl
  | nil =>
      obtain rfl := none_ rfl
      cases frames with
      | nil => rfl
      | cons f rest => rfl

theorem clear_atPlace : clear (atPlace input ready type upcoming taken) =
    atPlace input false .seNone upcoming taken := by
  cases upcoming with
  | nil => rfl
  | cons f rest => exact clear_midway input ready type f taken

/-- Before the length field, the receiver does not look at the input buffer. -/
theorem atPlace_input (early : taken ≤ 1) (other : Fifo cap UInt8) :
    { atPlace input ready type upcoming taken with input := other } =
      atPlace other ready type upcoming taken := by
  cases upcoming with
  | nil => rfl
  | cons f rest =>
      match taken, early with
      | 0, _ => rfl
      | 1, _ => rfl

theorem input_atPlace (early : taken ≤ 1) : (atPlace input ready type upcoming taken).input = input := by
  cases upcoming with
  | nil => rfl
  | cons f rest =>
      match taken, early with
      | 0, _ => rfl
      | 1, _ => rfl

theorem settled_atPlace : settle (atPlace input ready type upcoming taken) =
    atPlace input ready type upcoming taken := by
  cases upcoming with
  | nil => exact settle_of_ne_data (by exact nofun)
  | cons f rest => exact settled_midway input ready type f taken

theorem counted_atPlace : Counted (atPlace input ready type upcoming taken) := by
  cases upcoming with
  | nil => rfl
  | cons f rest => exact counted_midway input ready type f taken

theorem type_atPlace : (atPlace input ready type upcoming taken).rxType = type := by
  cases upcoming with
  | nil => rfl
  | cons f rest => exact type_midway input ready type f taken

theorem ready_atPlace : (atPlace input ready type upcoming taken).rxDataReady = ready := by
  cases upcoming with
  | nil => rfl
  | cons f rest => exact ready_midway input ready type f taken

theorem putRxData_atPlace {data : List UInt8} (short : data.length < 2 ^ 32) :
    putRxData (atPlace input false type upcoming taken) data =
      feed (atPlace input false type upcoming taken) false data := by
  rw [putRxData_eq_consume counted_atPlace ready_atPlace short, consume, settled_atPlace]

/-- The last bytes of a call that completes a frame. -/
theorem feed_first {rest : List (Frame cap)} {shared : Nat} (early : shared ≤ 1) :
    feed (waiting input ready type) true ((stream rest).take shared) =
      some (atPlace input ready type (completed rest shared).2.1 (completed rest shared).2.2, true) := by
  cases rest with
  | nil =>
      rw [show (stream ([] : List (Frame cap))).take shared = [] from List.take_nil]
      rfl
  | cons g rest =>
      have notYet : completed (g :: rest) shared = ([], g :: rest, shared) :=
        if_pos (Nat.lt_of_le_of_lt early (Nat.lt_add_right _ (by decide)))
      rw [notYet]
      match shared, early with
      | 0, _ => rfl
      | 1, _ => rfl

section Call
variable {f : Frame cap} {length : Nat}

theorem putRxData_within (type : MessageType) (rest : List (Frame cap))
    (within : taken + length < f.shape.size)
    (short : (((stream (f :: rest)).drop taken).take length).length < 2 ^ 32) :
    putRxData (atPlace .empty false type (f :: rest) taken)
        (((stream (f :: rest)).drop taken).take length) =
      some (atPlace .empty false (if taken < 2 ∧ 2 ≤ taken + length then f.type else type) (f :: rest)
        (taken + length), false) := by
  have chunk : ((stream (f :: rest)).drop taken).take length = (f.encode.drop taken).take length := by
    have split := splitLengths_within within rest []
    rw [List.splitLengths_cons] at split
    exact (List.cons.inj split).1
  have size : ((f.encode.drop taken).take length).length = length := by
    rw [List.length_take, List.length_drop, Frame.length_encode]
    omega
  have inFrame : ∀ i, taken ≤ i → i < taken + ((f.encode.drop taken).take length).length →
      InFrame .empty f i := by
    intro i low high
    rw [size] at high
    have total : f.shape.size = f.payload.length + 9 := Nat.add_comm _ _
    exact Or.inr (Or.inr ⟨rfl, by omega⟩)
  have fed := feed_midway inFrame false type false (List.take_prefix length _)
  rw [size] at fed
  rw [putRxData_atPlace short, chunk]
  exact fed

theorem putRxData_across (rest : List (Frame cap)) (inside : taken < f.shape.size)
    (typed : 2 ≤ taken → type = f.type) (across : f.shape.size ≤ taken + length)
    (barely : taken + length ≤ f.shape.size + 1)
    (short : (((stream (f :: rest)).drop taken).take length).length < 2 ^ 32) :
    let passed := completed (f :: rest) (taken + length)
    putRxData (atPlace .empty false type (f :: rest) taken)
        (((stream (f :: rest)).drop taken).take length) =
        some (atPlace (stored f) true f.type passed.2.1 passed.2.2, true) ∧
      passed.1 = [f] ∧ passed.2.2 ≤ 1 ∧ (∀ g ∈ passed.2.1.head?, passed.2.2 < g.shape.size) ∧
      (passed.2.1 = [] → passed.2.2 = 0) := by
  have chunk : ((stream (f :: rest)).drop taken).take length =
      f.encode.drop taken ++ (stream rest).take (taken + length - f.shape.size) := by
    have split := splitLengths_across (Nat.le_of_lt inside) across rest []
    rw [List.splitLengths_cons] at split
    exact (List.cons.inj split).1
  have ended := feed_midway_end inside false type false
  have same : (if taken < 2 then f.type else type) = f.type := by
    split
    · rfl
    · exact typed (by omega)
  have early : taken + length - f.shape.size ≤ 1 := by omega
  have split : completed (f :: rest) (taken + length) =
      (f :: (completed rest (taken + length - f.shape.size)).1,
        (completed rest (taken + length - f.shape.size)).2) := if_neg (by omega)
  rw [same] at ended
  intro passed
  refine ⟨?_, ?_⟩
  · rw [putRxData_atPlace short, chunk]
    refine (feed_append_of_run ended _).trans ?_
    dsimp only [passed]
    rw [split]
    exact feed_first early
  · dsimp only [passed]
    rw [split]
    generalize taken + length - f.shape.size = shared at early
    cases rest with
    | nil => exact ⟨rfl, Nat.zero_le 1, nofun, fun _ => rfl⟩
    | cons g rest =>
        have room : shared < g.shape.size := Nat.lt_of_le_of_lt early (Nat.lt_add_right _ (by decide))
        have notYet : completed (g :: rest) shared = ([], g :: rest, shared) := if_pos room
        rw [notYet]
        refine ⟨rfl, early, ?_, nofun⟩
        intro g' member
        obtain rfl := Option.some.inj member
        exact room

end Call

end Placing

/-- No frame waits for the rx runnable. -/
structure Listening (s : Served Q α inCap outCap) : Prop where
  place : ∃ input type, s.stack.rx = atPlace input false type s.upcoming s.taken ∧
    (2 ≤ s.taken → input = .empty ∧ ∀ f ∈ s.upcoming.head?, type = f.type)
  accepted : ∀ message ∈ s.stack.command, message.2.Accepted amountOfChannels
  accounted : s.processed ++ (s.stack.command.map (asks amountOfChannels)).toList =
    s.accepted.map fun f => asks amountOfChannels (request pb f)

/-- The frame accepted last waits for the rx runnable. -/
structure Ready (s : Served Q α inCap outCap) (last : Frame inCap) : Prop where
  place : s.stack.rx = atPlace (stored last) true last.type s.upcoming s.taken
  early : s.taken ≤ 1
  free : s.stack.commandPending = .seNone
  typed : last.type ≠ .seNone
  accepted : (request pb last).2.Accepted amountOfChannels
  accounted : s.processed ++ [asks amountOfChannels (request pb last)] =
    s.accepted.map fun f => asks amountOfChannels (request pb f)

structure Inv (s : Served Q α inCap outCap) : Prop where
  unpacking : s.stack.unpackingPending = .seNone
  inside : ∀ f ∈ s.upcoming.head?, s.taken < f.shape.size
  between : s.upcoming = [] → s.taken = 0
  stage : Listening pb amountOfChannels s ∨ ∃ last, Ready pb amountOfChannels s last

section Invariant
variable {pb amountOfChannels} {s : Served Q α inCap outCap}

theorem command_of_free {stack : Stack Q α inCap outCap} (free : stack.commandPending = .seNone) :
    stack.command = none := if_pos free

theorem handled_of_inv (inv : Inv pb amountOfChannels s) : Handled pb amountOfChannels s := by
  have unpacking := inv.unpacking
  rcases inv.stage with listening | ⟨last, ready⟩
  · obtain ⟨input, type, place, -⟩ := listening.place
    have idle : ¬ s.stack.rx.rxDataReady = true := by
      rw [place, ready_atPlace]
      exact Bool.false_ne_true
    refine ⟨_, ?_, listening.accounted⟩
    unfold Stack.occupied
    rw [if_neg idle, if_pos unpacking]
    by_cases free : s.stack.commandPending = .seNone
    · rw [command_of_free free, if_pos free]
      rfl
    · rw [Stack.command, if_neg free, if_neg free]
      rfl
  · have told : s.stack.rx.rxDataReady = true := by rw [ready.place, ready_atPlace]
    refine ⟨_, ?_, ready.accounted⟩
    unfold Stack.occupied
    rw [if_pos told, if_pos unpacking, if_pos ready.free]
    rfl

theorem inv_more (inv : Inv pb amountOfChannels s) (frames : List (Frame inCap)) :
    Inv pb amountOfChannels { s with upcoming := s.upcoming ++ frames } := by
  have inside : ∀ f ∈ (s.upcoming ++ frames).head?, s.taken < f.shape.size := by
    intro f member
    cases here : s.upcoming with
    | nil =>
        rw [inv.between here]
        exact Nat.lt_add_right _ (by decide)
    | cons g rest =>
        rw [here] at member
        apply inv.inside f
        rw [here]
        exact member
  refine ⟨inv.unpacking, inside, ?_, ?_⟩
  · intro nil
    exact inv.between (List.append_eq_nil_iff.mp nil).1
  · rcases inv.stage with listening | ⟨last, ready⟩
    · obtain ⟨input, type, place, typed⟩ := listening.place
      refine Or.inl ⟨⟨input, type, ?_, ?_⟩, listening.accepted, listening.accounted⟩
      · rw [atPlace_append inv.between]
        exact place
      · intro late
        obtain ⟨empty, same⟩ := typed late
        refine ⟨empty, ?_⟩
        intro f member
        apply same f
        cases here : s.upcoming with
        | nil =>
            rw [inv.between here] at late
            exact absurd late (by decide)
        | cons g rest =>
            rw [here] at member
            exact member
    · refine Or.inr ⟨last, ?_⟩
      have place := ready.place
      rw [← atPlace_append inv.between frames] at place
      exact { ready with place }

/-- A call that never returns changes nothing. -/
theorem put_of_long {upcoming : List (Frame inCap)} {length : Nat}
    (idle : s.stack.rx.rxDataReady = false)
    (long : ¬ (((stream upcoming).drop s.taken).take length).length < 2 ^ 32) :
    s.put upcoming length = { s with upcoming } := by
  have called : putRxData s.stack.rx (((stream upcoming).drop s.taken).take length) = none := by
    rw [putRxData, if_neg (by rw [idle]; exact Bool.false_ne_true), if_neg long]
  unfold put
  rw [if_neg (by rw [idle]; exact Bool.false_ne_true), called]

theorem put_of_call {upcoming : List (Frame inCap)} {length : Nat} {rx : Rx inCap} {frameValid : Bool}
    (idle : s.stack.rx.rxDataReady = false)
    (called : putRxData s.stack.rx (((stream upcoming).drop s.taken).take length) =
      some (rx, frameValid)) :
    s.put upcoming length =
      { s with
        stack := { s.stack with rx }
        upcoming := (completed upcoming (s.taken + length)).2.1
        taken := (completed upcoming (s.taken + length)).2.2
        accepted := s.accepted ++
          if frameValid = true then (completed upcoming (s.taken + length)).1 else [] } := by
  unfold put
  rw [if_neg (by rw [idle]; exact Bool.false_ne_true), called]

/-- A call while the host has nothing to send. -/
theorem inv_put_nil (inv : Inv pb amountOfChannels s) (listening : Listening pb amountOfChannels s) (length : Nat)
    (none_ : s.upcoming = []) : Inv pb amountOfChannels (s.put [] length) := by
  obtain ⟨input, type, place, typed⟩ := listening.place
  have idle : s.stack.rx.rxDataReady = false := by rw [place, ready_atPlace]
  have nothing : ((stream ([] : List (Frame inCap))).drop s.taken).take length = [] := by
    rw [show stream ([] : List (Frame inCap)) = [] from rfl, List.drop_nil, List.take_nil]
  have called : putRxData s.stack.rx (((stream ([] : List (Frame inCap))).drop s.taken).take length) =
      some (s.stack.rx, false) := by
    rw [nothing, place, putRxData_atPlace (by exact Nat.two_pow_pos 32)]
    rfl
  rw [put_of_call idle called]
  rw [none_] at place
  refine ⟨inv.unpacking, nofun, fun _ => rfl,
    Or.inl ⟨⟨input, type, place, nofun⟩, listening.accepted, ?_⟩⟩
  rw [if_neg Bool.false_ne_true, List.append_nil]
  exact listening.accounted

section Frame
variable {f : Frame inCap} {rest : List (Frame inCap)} {length : Nat} {type : MessageType}

theorem inv_put_within (inv : Inv pb amountOfChannels s) (listening : Listening pb amountOfChannels s)
    (place : s.stack.rx = atPlace .empty false type (f :: rest) s.taken)
    (known : 2 ≤ s.taken → type = f.type) (within : s.taken + length < f.shape.size)
    (short : (((stream (f :: rest)).drop s.taken).take length).length < 2 ^ 32) :
    Inv pb amountOfChannels (s.put (f :: rest) length) := by
  have idle : s.stack.rx.rxDataReady = false := by rw [place, ready_atPlace]
  have notYet : completed (f :: rest) (s.taken + length) = ([], f :: rest, s.taken + length) :=
    if_pos within
  have called := putRxData_within type rest within short
  rw [← place] at called
  rw [put_of_call idle called, notYet]
  refine ⟨inv.unpacking, ?_, nofun, Or.inl ⟨⟨.empty, _, rfl, ?_⟩, listening.accepted, ?_⟩⟩
  · intro g member
    obtain rfl := Option.some.inj member
    exact within
  · intro late
    refine ⟨rfl, ?_⟩
    intro g member
    obtain rfl := Option.some.inj member
    split
    · rfl
    · rename_i notCrossed
      exact known (by dsimp only at late; omega)
  · rw [if_neg Bool.false_ne_true, List.append_nil]
    exact listening.accounted

theorem inv_put_across (inv : Inv pb amountOfChannels s) (listening : Listening pb amountOfChannels s)
    (place : s.stack.rx = atPlace .empty false type (f :: rest) s.taken)
    (known : 2 ≤ s.taken → type = f.type) (inside : s.taken < f.shape.size)
    (across : f.shape.size ≤ s.taken + length) (canAccept : s.CanAccept pb amountOfChannels f length)
    (short : (((stream (f :: rest)).drop s.taken).take length).length < 2 ^ 32) :
    Inv pb amountOfChannels (s.put (f :: rest) length) := by
  have idle : s.stack.rx.rxDataReady = false := by rw [place, ready_atPlace]
  obtain ⟨free, typed, -, accepted, barely⟩ := canAccept
  obtain ⟨called, one, early, room, between⟩ := putRxData_across rest inside known across barely short
  have accounted := listening.accounted
  rw [← place] at called
  rw [command_of_free free, Option.map_none, Option.toList_none, List.append_nil] at accounted
  rw [put_of_call idle called, one]
  refine ⟨inv.unpacking, room, between, Or.inr ⟨f, rfl, early, free, typed, accepted, ?_⟩⟩
  rw [if_pos rfl, List.map_append, ← accounted]
  rfl

end Frame

theorem inv_put (inv : Inv pb amountOfChannels s) {length : Nat}
    (orderly : s.stack.rx.rxDataReady = false → ∀ f ∈ s.upcoming.head?,
      (s.taken ≤ 1 → s.stack.rx.input.used = 0) ∧
        (f.shape.size ≤ s.taken + length → s.CanAccept pb amountOfChannels f length)) :
    Inv pb amountOfChannels (s.put s.upcoming length) := by
  rcases inv.stage with listening | ⟨last, ready⟩
  · obtain ⟨input, type, place, typed⟩ := listening.place
    have idle : s.stack.rx.rxDataReady = false := by rw [place, ready_atPlace]
    cases here : s.upcoming with
    | nil => exact inv_put_nil inv listening length here
    | cons f rest =>
        have first : f ∈ s.upcoming.head? := by
          rw [here]
          rfl
        obtain ⟨clean, canAccept⟩ := orderly idle f first
        have empty : input = .empty := by
          by_cases early : s.taken ≤ 1
          · have used := clean early
            rw [place, input_atPlace early] at used
            exact (Fifo.eq_empty_iff input).mpr used
          · exact (typed (by omega)).1
        have known : 2 ≤ s.taken → type = f.type := fun late => (typed late).2 f first
        rw [empty, here] at place
        by_cases short : (((stream (f :: rest)).drop s.taken).take length).length < 2 ^ 32
        swap
        · rw [put_of_long idle short, ← here]
          exact inv
        by_cases within : s.taken + length < f.shape.size
        · exact inv_put_within inv listening place known within short
        · have across : f.shape.size ≤ s.taken + length := Nat.not_lt.mp within
          exact inv_put_across inv listening place known (inv.inside f first) across (canAccept across)
            short
  · have told : s.stack.rx.rxDataReady = true := by rw [ready.place, ready_atPlace]
    have refused : s.put s.upcoming length = s := if_pos told
    rw [refused]
    exact inv

theorem Inv.of_agrees (inv : Inv pb amountOfChannels s) {stack : Stack Q α inCap outCap}
    (agrees : Stack.Agrees stack s.stack) : Inv pb amountOfChannels { s with stack } := by
  refine ⟨agrees.unpackingPending.trans inv.unpacking, inv.inside, inv.between, ?_⟩
  rcases inv.stage with listening | ⟨last, ready⟩
  · refine Or.inl ⟨?_, ?_, ?_⟩
    · rw [agrees.rx]
      exact listening.place
    · rw [agrees.command]
      exact listening.accepted
    · rw [agrees.command]
      exact listening.accounted
  · refine Or.inr ⟨last, ?_⟩
    exact {
      ready with
      place := agrees.rx.trans ready.place
      free := agrees.commandPending.trans ready.free }

/-- After the receiving part of an iteration no frame waits in the framer. -/
theorem listening_receive (inv : Inv pb amountOfChannels s) :
    (s.stack.receive pb).unpackingPending = .seNone ∧
      Listening pb amountOfChannels { s with stack := s.stack.receive pb } := by
  rcases inv.stage with listening | ⟨last, ready⟩
  · obtain ⟨input, type, place, -⟩ := listening.place
    have idle : s.stack.rx.rxDataReady = false := by rw [place, ready_atPlace]
    rw [Stack.receive_idle pb idle inv.unpacking]
    exact ⟨inv.unpacking, listening⟩
  · have told : s.stack.rx.rxDataReady = true := by rw [ready.place, ready_atPlace]
    have type : s.stack.rx.rxType = last.type := by rw [ready.place, type_atPlace]
    have payload : s.stack.rx.input.contents = last.payload := by
      rw [ready.place, input_atPlace ready.early, contents_stored]
    have said : pb.message s.stack.rx.rxType s.stack.rx.input.contents = request pb last := by
      rw [type, payload]
      rfl
    have typed : s.stack.rx.rxType ≠ .seNone := by
      rw [type]
      exact ready.typed
    obtain ⟨⟨input, rx⟩, unpacking, command⟩ := Stack.receive_ready pb told typed
    refine ⟨unpacking, ⟨input, .seNone, ?_, ?_⟩, ?_, ?_⟩
    · dsimp only
      rw [rx, ready.place, clear_atPlace, atPlace_input ready.early]
    · intro late
      exact absurd ready.early (Nat.not_le.mpr late)
    · rintro message here
      dsimp only at here
      rw [command, said] at here
      obtain rfl := Option.some.inj here
      exact ready.accepted
    · dsimp only
      rw [command, said]
      exact ready.accounted

section Queue
variable [AgingPriorityQueue Q]

theorem command_reconfigure (stack : Stack Q α inCap outCap) :
    (stack.reconfigure amountOfChannels true).command = none := by
  apply if_pos
  by_cases free : stack.commandPending = .seNone
  · rw [Stack.reconfigure, if_neg fun both => both.1 free]
    exact free
  · rw [Stack.reconfigure, if_pos ⟨free, rfl⟩]
    exact Controller.commandPending_runRx _ _ _

theorem reconfigure_keeps (amountOfChannels : Nat) (stack : Stack Q α inCap outCap)
    (configLock : Bool) : (stack.reconfigure amountOfChannels configLock).rx = stack.rx ∧
      (stack.reconfigure amountOfChannels configLock).unpackingPending = stack.unpackingPending := by
  unfold Stack.reconfigure
  split
  · exact ⟨rfl, rfl⟩
  · exact ⟨rfl, rfl⟩

/-- The controller makes of a command what its message asks for. -/
theorem processes_of_accepted {stack : Stack Q α inCap outCap}
    (accepted : ∀ message ∈ stack.command, message.2.Accepted amountOfChannels) :
    stack.processes amountOfChannels true = (stack.command.map (asks amountOfChannels)).toList := by
  by_cases free : stack.commandPending = .seNone
  · rw [command_of_free free]
    exact if_neg fun both => both.1 free
  · have pending : stack.command = some (stack.commandPending,
        NanopbUnpacker.configuration stack.unpacker stack.commandPending) := if_neg free
    have effects := Controller.effects_runRx rfl free (accepted _ pending)
    rw [Stack.processes, if_pos ⟨free, rfl⟩, pending, Option.map_some, Option.toList_some]
    exact congrArg (fun effects => [(stack.commandPending, effects)]) effects

theorem inv_runStack (inv : Inv pb amountOfChannels s) (configLock dataLock : Bool)
    (written : Written outCap) (logIsPending : Bool) :
    Inv pb amountOfChannels
      (step pb amountOfChannels s (.runStack configLock dataLock written logIsPending)) := by
  obtain ⟨unpacking, listening⟩ := listening_receive inv
  obtain ⟨rx, unpacking'⟩ :=
    reconfigure_keeps amountOfChannels (s.stack.receive pb) configLock
  obtain ⟨place, accepted, accounted⟩ := listening
  dsimp only at place accepted accounted
  rw [← rx] at place
  have done : (∀ message ∈ ((s.stack.receive pb).reconfigure amountOfChannels configLock).command,
        message.2.Accepted amountOfChannels) ∧
      s.processed ++ (s.stack.receive pb).processes amountOfChannels configLock ++
          ((((s.stack.receive pb).reconfigure amountOfChannels configLock).command.map
            (asks amountOfChannels)).toList) =
        s.accepted.map fun f => asks amountOfChannels (request pb f) := by
    cases configLock with
    | true =>
        rw [command_reconfigure, processes_of_accepted accepted, accounted]
        exact ⟨nofun, List.append_nil _⟩
    | false =>
        have same : (s.stack.receive pb).reconfigure amountOfChannels false = s.stack.receive pb :=
          if_neg fun both => Bool.false_ne_true both.2
        have none_ : (s.stack.receive pb).processes amountOfChannels false = [] :=
          if_neg fun both => Bool.false_ne_true both.2
        rw [none_, List.append_nil, same]
        exact ⟨accepted, accounted⟩
  have configured : Inv pb amountOfChannels { s with
      stack := (s.stack.receive pb).reconfigure amountOfChannels configLock
      processed := s.processed ++ (s.stack.receive pb).processes amountOfChannels configLock } :=
    ⟨unpacking'.trans unpacking, inv.inside, inv.between, Or.inl ⟨place, done.1, done.2⟩⟩
  exact configured.of_agrees (Stack.agrees_transmit _ dataLock written logIsPending)

theorem inv_step (inv : Inv pb amountOfChannels s) {event : ThreadEvent inCap outCap}
    (orderly : Orderly pb amountOfChannels s event) :
    Inv pb amountOfChannels (step pb amountOfChannels s event) := by
  cases event with
  | put frames length => exact inv_put (inv_more inv frames) orderly
  | notify event =>
      apply inv.of_agrees
      exact ⟨rfl, rfl, rfl, Controller.commandPending_commandPackPushEvent _ event⟩
  | runStack configLock dataLock written logIsPending =>
      exact inv_runStack inv configLock dataLock written logIsPending

theorem inv_create (unpacker : Unpacker α) (queue : Q) (priorities : MessagePriorities) :
    Inv pb amountOfChannels (create unpacker queue priorities : Served Q α inCap outCap) := by
  refine ⟨rfl, nofun, fun _ => rfl, Or.inl ⟨⟨.empty, .seNone, rfl, nofun⟩, nofun, ?_⟩⟩
  rfl

/-- As long as frames are accepted only when they may be, whatever the locks do,
no command is lost. -/
theorem handled {unpacker : Unpacker α} {queue : Q} {priorities : MessagePriorities}
    {events : List (ThreadEvent inCap outCap)}
    (orderly : Run.Along (step pb amountOfChannels) (Orderly pb amountOfChannels)
      (create unpacker queue priorities) events) :
    Handled pb amountOfChannels
      (Run.exec (step pb amountOfChannels) (create unpacker queue priorities) events) := by
  have start : Inv pb amountOfChannels (create unpacker queue priorities : Served Q α inCap outCap) :=
    inv_create unpacker queue priorities
  apply handled_of_inv
  apply orderly.invariant
  · intro s event inv ok
    exact inv_step inv ok
  · exact start

end Queue

end Invariant

section Run

/-- nanopb on messages of at most one field of one byte. -/
def oneField : PbDecode Int where
  evPoll bytes := if bytes = [] then .success 0 else .failure bytes.length 0
  cfRunning bytes := if bytes = [] then .success [] else .failure bytes.length []
  cfTrigger bytes :=
    if bytes = [] then .success ⟨0, false, 0, 0⟩ else .failure bytes.length ⟨0, false, 0, 0⟩
  cfTInc bytes := match bytes with
    | [] => .success 0
    | [8, increment] => if increment < 128 then .success increment.toUInt32 else .failure 2 0
    | _ => .failure bytes.length 0
  cfAddr bytes := if bytes = [] then .success [] else .failure bytes.length []

def decoded : Unpacker Int := ⟨0, [], [], ⟨0, false, 0, 0⟩, 0⟩

def start : Served (List MessageType) Int 8 8 := create decoded [] ⟨2, 3, 4⟩

def setIncrement : Frame 8 := ⟨.cfTInc, [8, 5], by decide, by decide⟩
def clearScope : Frame 8 := .bare .evClear
def transmitNow : Frame 8 := .bare .evTrans

def nothing : Written 8 := ⟨[], by decide⟩

/-- The second frame begins in the call that completes the first; it is accepted
only after the lock has been had. -/
theorem handled_in_turn :
    Handled oneField 1 (Run.exec (step oneField 1) start
      [.put [setIncrement, clearScope] 5, .put [] 7, .runStack false true nothing false,
        .runStack true true nothing false, .put [] 8, .runStack true true nothing false]) := by
  apply handled
  decide

/-- Without the lock the first command still waits when the second one is received. -/
theorem handled_fails :
    ¬ Handled oneField 1 (Run.exec (step oneField 1) start
      [.put [clearScope, transmitNow] 9, .runStack false true nothing false, .put [] 9,
        .runStack true true nothing false]) := by
  rintro ⟨waiting, count, same⟩
  have lengths := congrArg List.length same
  rw [List.length_append, count, List.length_map] at lengths
  exact absurd lengths (by decide)

end Run

end Served

end Builders
