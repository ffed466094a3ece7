import ScopeTarget.Base.CountedArray
import ScopeTarget.Base.Protobuf
import ScopeTarget.Serialisation.NanopbUnpacker

/-! Where the lists of the host are stored on their way from the unpacker to the
commands. Every array on the way is allocated for the channels of the scope. -/

namespace Control
variable {ε : Type*}

/-- What `setAttributes` checks before it copies a list. -/
def accepts (amountOfChannels : Nat) (id : ε → UInt32) (valid : ε → Bool) (conf : List ε) : Bool :=
  conf.length ≤ amountOfChannels ∧
    conf.any (fun e => amountOfChannels < (id e).toNat ∨ valid e = false) = false

/-- The arrays of the unpacker, of the two parsers and of their commands. -/
inductive ListArray where
  | running | address
  | runningParserChannelIds | runningParserNewStates
  | addrParserNewAddresses | addrParserChannelIds | addrParserTypes
  | runningChangedChannels | runningNewStates
  | addrChangedChannels | addrNewAddresses | addrTypes
  deriving DecidableEq, Repr

structure ArrayWrite where
  array : ListArray
  index : Nat
  deriving DecidableEq, Repr

/-- A loop that fills several arrays side by side. -/
def loopWrites (arrays : List ListArray) (amount : Nat) : List ArrayWrite :=
  (List.range amount).flatMap fun i => arrays.map fun array => ⟨array, i⟩

def Inside (amountOfChannels : Nat) (writes : List ArrayWrite) : Prop :=
  ∀ write ∈ writes, write.index < amountOfChannels

instance (amountOfChannels : Nat) (writes : List ArrayWrite) :
    Decidable (Inside amountOfChannels writes) :=
  inferInstanceAs (Decidable (∀ write ∈ writes, write.index < amountOfChannels))

namespace CommandRunning

def setAttributesWrites (amountOfChannels : Nat) (conf : List RunningEntry) : List ArrayWrite :=
  if accepts amountOfChannels RunningEntry.changedChannel legal conf = true then
    loopWrites [.runningChangedChannels, .runningNewStates] conf.length
  else []

end CommandRunning

namespace CommandAddr

def setAttributesWrites (amountOfChannels : Nat) (conf : List AddrEntry) : List ArrayWrite :=
  if accepts amountOfChannels AddrEntry.changedChannel legal conf = true then
    loopWrites [.addrChangedChannels, .addrNewAddresses, .addrTypes] conf.length
  else []

end CommandAddr

end Control

namespace Serialisation
open Control

namespace NanopbUnpacker
variable {ε : Type*}

/-- Nothing is compared with `maxNumberOfChannels`. -/
def listCallback (array : ListArray) (s : CountedArray ε × List ArrayWrite) (config : ε) :
    CountedArray ε × List ArrayWrite :=
  (s.1.store config, s.2 ++ [⟨array, s.1.amount.toNat⟩])

def runningConfigCallback (s : CountedArray CfRunningDef × List ArrayWrite) (config : CfRunningDef) :
    CountedArray CfRunningDef × List ArrayWrite :=
  listCallback .running s config

def addressConfigCallback (s : CountedArray CfAddressDef × List ArrayWrite) (config : CfAddressDef) :
    CountedArray CfAddressDef × List ArrayWrite :=
  listCallback .address s config

/-- An index behind the last entry reads the first one. -/
def getChannel (list : CountedArray ε) (index : Nat) : ε :=
  if list.amount.toNat < index then list.slot 0 else list.slot index

def cfRunning_getChannel (running : CountedArray CfRunningDef) (index : Nat) : CfRunningDef :=
  getChannel running index

def cfAddress_getChannel (address : CountedArray CfAddressDef) (index : Nat) : CfAddressDef :=
  getChannel address index

/-- The sizes of a trigger, of an increment, of a poll, and of the entries of an
address and of a running list. -/
def calculateBufferSize (maxNumberOfChannels : Nat) : Nat :=
  [15, 6, 6, 14 * maxNumberOfChannels, 8 * maxNumberOfChannels].foldl
    (fun biggest size => if biggest < size then size else biggest) 0

theorem calculateBufferSize_eq_max (amountOfChannels : Nat) :
    calculateBufferSize amountOfChannels = max 15 (14 * amountOfChannels) := by
  have sizes : calculateBufferSize amountOfChannels =
      [14 * amountOfChannels, 8 * amountOfChannels].foldl
        (fun biggest size => if biggest < size then size else biggest) 15 := rfl
  rw [sizes, List.foldl_cons, List.foldl_cons, List.foldl_nil]
  split_ifs <;> omega

end NanopbUnpacker

end Serialisation

namespace Control
open Serialisation

namespace CommandRunningParser

/-- What the parser reads from the unpacker, as it hands it to the command. -/
def read (amount : Nat) (running : CountedArray CfRunningDef) : List RunningEntry :=
  conf ((List.range amount).map (NanopbUnpacker.cfRunning_getChannel running))

def getCommandWrites (amountOfChannels : Nat) (running : CountedArray CfRunningDef) :
    List ArrayWrite :=
  let amount := running.amount.toNat
  loopWrites [.runningParserChannelIds, .runningParserNewStates] amount ++
    CommandRunning.setAttributesWrites amountOfChannels (read amount running)

end CommandRunningParser

namespace CommandAddrParser

def read (amount : Nat) (address : CountedArray CfAddressDef) : List AddrEntry :=
  ((List.range amount).map (NanopbUnpacker.cfAddress_getChannel address)).map fun a =>
    ⟨a.id, a.address, a.type⟩

/-- The number of channels is kept in 32 bits here. -/
def getCommandWrites (amountOfChannels : Nat) (address : CountedArray CfAddressDef) :
    List ArrayWrite :=
  let amount := min address.amount.toNat (UInt32.ofNat amountOfChannels).toNat
  loopWrites [.addrParserNewAddresses, .addrParserChannelIds, .addrParserTypes] amount ++
    CommandAddr.setAttributesWrites amountOfChannels (read amount address)

end CommandAddrParser

theorem length_of_accepts {ε : Type*} {amountOfChannels : Nat} {id : ε → UInt32} {valid : ε → Bool}
    {conf : List ε} (passes : accepts amountOfChannels id valid conf = true) :
    conf.length ≤ amountOfChannels :=
  (of_decide_eq_true passes).1

theorem inside_nil (amountOfChannels : Nat) : Inside amountOfChannels [] := by
  intro write absent
  cases absent

theorem inside_append {amountOfChannels : Nat} {first second : List ArrayWrite} :
    Inside amountOfChannels (first ++ second) ↔
      Inside amountOfChannels first ∧ Inside amountOfChannels second := by
  unfold Inside
  rw [List.forall_mem_append]

theorem inside_loopWrites (arrays : List ListArray) {amount amountOfChannels : Nat}
    (bounded : amount ≤ amountOfChannels) : Inside amountOfChannels (loopWrites arrays amount) := by
  intro write member
  obtain ⟨i, counted, made⟩ := List.mem_flatMap.mp member
  obtain ⟨array, -, rfl⟩ := List.mem_map.mp made
  exact (List.mem_range.mp counted).trans_le bounded

/-- A command checks its list before it copies it. -/
theorem CommandRunning.inside_setAttributesWrites (amountOfChannels : Nat)
    (conf : List RunningEntry) : Inside amountOfChannels (setAttributesWrites amountOfChannels conf) := by
  unfold setAttributesWrites
  split
  · rename_i passes
    exact inside_loopWrites _ (length_of_accepts passes)
  · exact inside_nil _

theorem CommandAddr.inside_setAttributesWrites (amountOfChannels : Nat)
    (conf : List AddrEntry) : Inside amountOfChannels (setAttributesWrites amountOfChannels conf) := by
  unfold setAttributesWrites
  split
  · rename_i passes
    exact inside_loopWrites _ (length_of_accepts passes)
  · exact inside_nil _

/-- This parser relies on the unpacker for the number of entries. -/
theorem CommandRunningParser.inside_getCommandWrites {amountOfChannels : Nat}
    {running : CountedArray CfRunningDef} (bounded : running.amount.toNat ≤ amountOfChannels) :
    Inside amountOfChannels (getCommandWrites amountOfChannels running) :=
  inside_append.mpr ⟨inside_loopWrites _ bounded,
    CommandRunning.inside_setAttributesWrites amountOfChannels _⟩

/-- This parser limits the number itself. -/
theorem CommandAddrParser.inside_getCommandWrites (amountOfChannels : Nat)
    (address : CountedArray CfAddressDef) :
    Inside amountOfChannels (getCommandWrites amountOfChannels address) := by
  have limited : min address.amount.toNat (UInt32.ofNat amountOfChannels).toNat ≤
      amountOfChannels := by
    rw [UInt32.toNat_ofNat']
    exact (Nat.min_le_right _ _).trans (Nat.mod_le _ _)
  exact inside_append.mpr ⟨inside_loopWrites _ limited,
    CommandAddr.inside_setAttributesWrites amountOfChannels _⟩

end Control

namespace Serialisation
open Control

/-- A payload that fits the input buffer. -/
structure HostPayload (amountOfChannels : Nat) where
  bytes : List UInt8
  fits : bytes.length ≤ NanopbUnpacker.calculateBufferSize amountOfChannels

/-- The arrays of the unpacker, with what earlier messages have left there. -/
structure ListSlots where
  running : CountedArray CfRunningDef
  address : CountedArray CfAddressDef

section Writes
variable {α : Type*} (pb : PbDecode α) (amountOfChannels : Nat)

def unpackRunning (slots : ListSlots) (bytes : List UInt8) :
    CountedArray CfRunningDef × List ArrayWrite :=
  (pb.cfRunning bytes).collect.foldl NanopbUnpacker.runningConfigCallback (slots.running.clear, [])

def unpackAddress (slots : ListSlots) (bytes : List UInt8) :
    CountedArray CfAddressDef × List ArrayWrite :=
  (pb.cfAddr bytes).collect.foldl NanopbUnpacker.addressConfigCallback (slots.address.clear, [])

/-- All that is written to the arrays for one message: while it is unpacked, and,
when that has succeeded, while its command is made. -/
def listWrites (slots : ListSlots) (type : MessageType) (bytes : List UInt8) : List ArrayWrite :=
  if type = .cfRunning then
    let unpacked := unpackRunning pb slots bytes
    unpacked.2 ++ if (pb.cfRunning bytes).status = true then
      CommandRunningParser.getCommandWrites amountOfChannels unpacked.1 else []
  else if type = .cfAddr then
    let unpacked := unpackAddress pb slots bytes
    unpacked.2 ++ if (pb.cfAddr bytes).status = true then
      CommandAddrParser.getCommandWrites amountOfChannels unpacked.1 else []
  else []

end Writes

namespace NanopbUnpacker
variable {ε : Type*}

theorem foldl_listCallback (array : ListArray) (s : CountedArray ε × List ArrayWrite)
    (entries : List ε) : entries.foldl (listCallback array) s =
      (s.1.storeAll entries, s.2 ++ (s.1.indices entries).map (ArrayWrite.mk array)) := by
  induction entries generalizing s with
  | nil => exact congrArg (Prod.mk s.1) (List.append_nil s.2).symm
  | cons entry entries ih =>
      rw [List.foldl_cons, ih]
      apply Prod.ext
      · rfl
      · exact List.append_assoc s.2 _ _

theorem inside_listCallback_iff (array : ListArray) (list : CountedArray ε) (entries : List ε)
    (amountOfChannels : Nat) :
    Inside amountOfChannels (entries.foldl (listCallback array) (list.clear, [])).2 ↔
      entries.length ≤ amountOfChannels ∨ 2 ^ 32 ≤ amountOfChannels := by
  rw [foldl_listCallback, ← list.indices_clear_lt_iff]
  exact List.forall_mem_map

theorem amount_listCallback_le (array : ListArray) (list : CountedArray ε) {entries : List ε}
    {amountOfChannels : Nat}
    (enough : entries.length ≤ amountOfChannels ∨ 2 ^ 32 ≤ amountOfChannels) :
    (entries.foldl (listCallback array) (list.clear, [])).1.amount.toNat ≤ amountOfChannels := by
  rw [foldl_listCallback, CountedArray.toNat_amount_storeAll]
  have counted := (Nat.mod_le (list.clear.amount.toNat + entries.length) (2 ^ 32)).trans
    (Nat.zero_add entries.length).le
  have wrapped := Nat.mod_lt (list.clear.amount.toNat + entries.length) (by decide : 0 < 2 ^ 32)
  rcases enough with few | long
  · exact counted.trans few
  · exact wrapped.le.trans long

/-- The one check that is missing is that of the callbacks: a parser that stays
inside as long as they do adds nothing to the condition. -/
theorem inside_unpacked_iff (array : ListArray) (list : CountedArray ε) (entries : List ε)
    (status : Bool) {amountOfChannels : Nat} {parse : CountedArray ε → List ArrayWrite}
    (inside : ∀ a, a.amount.toNat ≤ amountOfChannels → Inside amountOfChannels (parse a)) :
    let unpacked := entries.foldl (listCallback array) (list.clear, [])
    Inside amountOfChannels (unpacked.2 ++ if status = true then parse unpacked.1 else []) ↔
      entries.length ≤ amountOfChannels ∨ 2 ^ 32 ≤ amountOfChannels := by
  dsimp only
  rw [inside_append, inside_listCallback_iff]
  apply and_iff_left_of_imp
  intro enough
  split
  · exact inside _ (amount_listCallback_le array list enough)
  · exact inside_nil amountOfChannels

end NanopbUnpacker

section Writes
variable {α : Type*} (pb : PbDecode α) (amountOfChannels : Nat) (slots : ListSlots)
  (type : MessageType)

/-- Every write stays inside the arrays exactly when the message lists no more
entries than there are channels. -/
theorem inside_listWrites_iff (payload : HostPayload amountOfChannels) :
    Inside amountOfChannels (listWrites pb amountOfChannels slots type payload.bytes) ↔
      listed pb type payload.bytes ≤ amountOfChannels ∨ 2 ^ 32 ≤ amountOfChannels := by
  unfold listWrites listed
  split
  · apply NanopbUnpacker.inside_unpacked_iff .running
    intro running bounded
    exact CommandRunningParser.inside_getCommandWrites bounded
  · split
    · apply NanopbUnpacker.inside_unpacked_iff .address
      intro address _
      exact CommandAddrParser.inside_getCommandWrites amountOfChannels address
    · exact iff_of_true (inside_nil amountOfChannels) (Or.inl (Nat.zero_le amountOfChannels))

end Writes

section Overrun
open Protobuf

/-- The wire format of one entry of a running list. -/
def mergeRunningConfig (known : CfRunningDef) (f : Field) : Option CfRunningDef :=
  match f.number, f.value with
  | 1, .varint n => some { known with id := UInt32.ofNat n }
  | 2, .varint n => some { known with newState := n ≠ 0 }
  | 1, _ => none
  | 2, _ => none
  | _, _ => some known

/-- The wire format of a running list, whose only field is repeated. -/
def mergeRunning (known : List CfRunningDef) (f : Field) : Option (List CfRunningDef) :=
  match f.number, f.value with
  | 1, .len bytes => (readMessage mergeRunningConfig ⟨0, false⟩ bytes).map fun r => known ++ [r]
  | 1, _ => none
  | _, _ => some known

/-- nanopb, as far as running lists are concerned. -/
def readingRunning {α : Type*} (others : PbDecode α) : PbDecode α :=
  { others with
    cfRunning := fun bytes =>
      match readMessage mergeRunning [] bytes with
      | some channels => .success channels
      | none => .failure bytes.length [] }

/-- nanopb on messages without a field. -/
def noField : PbDecode Int where
  evPoll bytes := if bytes = [] then .success 0 else .failure bytes.length 0
  cfRunning bytes := if bytes = [] then .success [] else .failure bytes.length []
  cfTrigger bytes :=
    if bytes = [] then .success ⟨0, false, 0, 0⟩ else .failure bytes.length ⟨0, false, 0, 0⟩
  cfTInc bytes := if bytes = [] then .success 0 else .failure bytes.length 0
  cfAddr bytes := if bytes = [] then .success [] else .failure bytes.length []

def untouched : ListSlots := ⟨⟨0, fun _ => ⟨0, false⟩⟩, ⟨0, fun _ => ⟨0, 0, 0⟩⟩⟩

/-- Two empty entries for a scope with one channel. -/
def twoEntries : HostPayload 1 := ⟨[10, 0, 10, 0], by decide⟩

theorem inside_listWrites_fails : ¬ Inside 1
    (listWrites (readingRunning noField) 1 untouched .cfRunning twoEntries.bytes) := by
  decide

end Overrun

end Serialisation
