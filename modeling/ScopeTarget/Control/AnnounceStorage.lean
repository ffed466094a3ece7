import ScopeTarget.Base.CString
import ScopeTarget.Base.Run
import ScopeTarget.Core.Channel

/-! The storage of the addresses that are announced to the host, and what it should
be: the list of the additions it has accepted since it was last cleared. -/

namespace Control
open Core

/-- An address has the width of `ADDRESS_DATA_TYPE`, which is that of a pointer. -/
structure AddressDefinition (width : Nat) where
  name : CharArray 30
  type : DataTypes
  address : BitVec width

/-- There is an element for every place; the time base is the bit pattern of a float. -/
structure AnnounceStorage (width : Nat) where
  configuredAmountOfAddresses : Nat
  addresses : List (AddressDefinition width)
  maxAmountOfChannels : Nat
  timeBase : UInt32

structure Addition (width : Nat) where
  name : CString
  address : BitVec width
  type : DataTypes

namespace AnnounceStorage
variable {width : Nat}

/-- `MAX_LENGTH_OF_ANNOUNCE_NAME` -/
def maxLengthOfAnnounceName : Nat := 30

/-- Only the first byte of the name is written. -/
def resetDefinition (definition : AddressDefinition width) : AddressDefinition width where
  name := definition.name.overwrite [0]
  type := .seFloat
  address := 0

/-- `memory` is what `malloc` has returned. -/
def create (memory : List (AddressDefinition width)) (maxAmountOfChannels : Nat) (timeBase : UInt32) :
    AnnounceStorage width where
  configuredAmountOfAddresses := 0
  addresses := memory.map resetDefinition
  maxAmountOfChannels := maxAmountOfChannels
  timeBase := timeBase

def getMaxAmountOfAddresses (self : AnnounceStorage width) : Nat := self.addresses.length

def writeDefinition (addition : Addition width) (definition : AddressDefinition width) :
    AddressDefinition width where
  name := definition.name.strncpy addition.name (maxLengthOfAnnounceName - 1)
  type := addition.type
  address := addition.address

def addAnnounceAddress (self : AnnounceStorage width) (addition : Addition width) :
    Bool × AnnounceStorage width :=
  if addition.address = 0 then (false, self)
  else if self.getMaxAmountOfAddresses ≤ self.configuredAmountOfAddresses then (false, self)
  else if addition.name.length > maxLengthOfAnnounceName then (false, self)
  else
    (true, { self with
      addresses := self.addresses.modify self.configuredAmountOfAddresses (writeDefinition addition)
      configuredAmountOfAddresses := self.configuredAmountOfAddresses + 1 })

def clearAddresses (self : AnnounceStorage width) : AnnounceStorage width :=
  { self with
    addresses := self.addresses.map resetDefinition
    configuredAmountOfAddresses := 0 }

/-- What the storage asks of an addition. -/
def Accepts (self : AnnounceStorage width) (addition : Addition width) : Prop :=
  addition.address ≠ 0 ∧ self.configuredAmountOfAddresses < self.getMaxAmountOfAddresses ∧
    addition.name.length ≤ maxLengthOfAnnounceName

instance (self : AnnounceStorage width) (addition : Addition width) :
    Decidable (self.Accepts addition) := inferInstanceAs (Decidable (_ ∧ _ ∧ _))

theorem addAnnounceAddress_of_refused {self : AnnounceStorage width} {addition : Addition width}
    (refused : ¬ self.Accepts addition) : self.addAnnounceAddress addition = (false, self) := by
  unfold addAnnounceAddress
  split
  · rfl
  · rename_i pointer
    split
    · rfl
    · rename_i room
      split
      · rfl
      · rename_i short
        exact absurd ⟨pointer, Nat.not_le.mp room, Nat.not_lt.mp short⟩ refused

theorem addAnnounceAddress_of_accepted {self : AnnounceStorage width} {addition : Addition width}
    (accepted : self.Accepts addition) : self.addAnnounceAddress addition = (true, { self with
      addresses := self.addresses.modify self.configuredAmountOfAddresses (writeDefinition addition)
      configuredAmountOfAddresses := self.configuredAmountOfAddresses + 1 }) := by
  obtain ⟨pointer, room, short⟩ := accepted
  rw [addAnnounceAddress, if_neg pointer, if_neg (Nat.not_le.mpr room), if_neg (Nat.not_lt.mpr short)]

end AnnounceStorage

inductive StorageCall (width : Nat) where
  | addAnnounceAddress (addition : Addition width)
  | clearAddresses

/-- The storage with the additions that have returned true since it was last cleared. -/
structure Recorded (width : Nat) where
  storage : AnnounceStorage width
  added : List (Addition width)

namespace Recorded
variable {width : Nat}

def create (memory : List (AddressDefinition width)) (maxAmountOfChannels : Nat) (timeBase : UInt32) :
    Recorded width :=
  ⟨AnnounceStorage.create memory maxAmountOfChannels timeBase, []⟩

def step (s : Recorded width) : StorageCall width → Recorded width
  | .addAnnounceAddress addition =>
      let result := s.storage.addAnnounceAddress addition
      ⟨result.2, if result.1 = true then s.added ++ [addition] else s.added⟩
  | .clearAddresses => ⟨s.storage.clearAddresses, []⟩

/-- What is known of every addition and of what is stored at its place. -/
def Entries (known : Addition width → AddressDefinition width → Prop) (s : Recorded width) : Prop :=
  ∀ (i : Nat) (addition : Addition width), s.added[i]? = some addition →
    ∃ definition, s.storage.addresses[i]? = some definition ∧ known addition definition

/-- The entry is that of the addition, its name read as a string in its field. -/
structure Stored (addition : Addition width) (definition : AddressDefinition width) : Prop where
  name : definition.name.read = some addition.name
  type : definition.type = addition.type
  address : definition.address = addition.address

structure Faithful (capacity : Nat) (s : Recorded width) : Prop where
  places : s.storage.getMaxAmountOfAddresses = capacity
  amount : s.storage.configuredAmountOfAddresses = s.added.length
  within : s.storage.configuredAmountOfAddresses ≤ capacity
  entry : s.Entries Stored

/-- An addition that returns false changes nothing. -/
def RefusesQuietly (s : Recorded width) : StorageCall width → Prop
  | .addAnnounceAddress addition => (s.storage.addAnnounceAddress addition).1 = false →
      (s.storage.addAnnounceAddress addition).2 = s.storage
  | .clearAddresses => True

/-- The last byte of the place the next addition goes to is zero. -/
def EndsInZero (s : Recorded width) : Prop :=
  ∃ definition ∈ s.storage.addresses[s.storage.configuredAmountOfAddresses]?,
    definition.name.bytes.drop 29 = [0]

/-- The name of an accepted addition is shorter than what is copied of it, or it is
as long and a zero happens to stand behind it. -/
def NameEnds (s : Recorded width) : StorageCall width → Prop
  | .addAnnounceAddress addition => s.storage.Accepts addition →
      addition.name.length < 29 ∨ addition.name.length = 29 ∧ s.EndsInZero
  | .clearAddresses => True

theorem refusesQuietly (s : Recorded width) (call : StorageCall width) : s.RefusesQuietly call := by
  cases call with
  | clearAddresses => trivial
  | addAnnounceAddress addition =>
      intro refused
      by_cases accepted : s.storage.Accepts addition
      · rw [AnnounceStorage.addAnnounceAddress_of_accepted accepted] at refused
        cases refused
      · rw [AnnounceStorage.addAnnounceAddress_of_refused accepted]

theorem step_of_refused {s : Recorded width} {addition : Addition width}
    (refused : ¬ s.storage.Accepts addition) : s.step (.addAnnounceAddress addition) = s := by
  rw [step, AnnounceStorage.addAnnounceAddress_of_refused refused]
  rfl

theorem step_of_accepted {s : Recorded width} {addition : Addition width}
    (accepted : s.storage.Accepts addition) : s.step (.addAnnounceAddress addition) =
      ⟨{ s.storage with
          addresses := s.storage.addresses.modify s.storage.configuredAmountOfAddresses
            (AnnounceStorage.writeDefinition addition)
          configuredAmountOfAddresses := s.storage.configuredAmountOfAddresses + 1 },
        s.added ++ [addition]⟩ := by
  rw [step, AnnounceStorage.addAnnounceAddress_of_accepted accepted]
  rfl

theorem faithful_create (memory : List (AddressDefinition width)) (maxAmountOfChannels : Nat)
    (timeBase : UInt32) : (create memory maxAmountOfChannels timeBase).Faithful memory.length where
  places := List.length_map _
  amount := rfl
  within := Nat.zero_le _
  entry := nofun

theorem faithful_clear {capacity : Nat} {s : Recorded width} (faithful : s.Faithful capacity) :
    (s.step .clearAddresses).Faithful capacity where
  places := (List.length_map _).trans faithful.places
  amount := rfl
  within := Nat.zero_le _
  entry := nofun

/-- The entries stay what they were, so that it depends on the new one alone. -/
theorem entries_accepted_iff {known : Addition width → AddressDefinition width → Prop}
    {s : Recorded width} (count : s.storage.configuredAmountOfAddresses = s.added.length)
    (entries : s.Entries known) {addition : Addition width} (accepted : s.storage.Accepts addition)
    {definition : AddressDefinition width}
    (place : s.storage.addresses[s.storage.configuredAmountOfAddresses]? = some definition) :
    (s.step (.addAnnounceAddress addition)).Entries known ↔
      known addition (AnnounceStorage.writeDefinition addition definition) := by
  rw [step_of_accepted accepted]
  rw [count] at place
  unfold Entries
  dsimp only
  rw [count]
  constructor
  · intro after
    obtain ⟨written, here, holds⟩ := after s.added.length addition List.getElem?_concat_length
    rw [List.getElem?_modify_eq, place] at here
    obtain rfl := Option.some.inj here
    exact holds
  · intro holds i other added
    by_cases new : i = s.added.length
    · rw [new, List.getElem?_concat_length] at added
      obtain rfl := Option.some.inj added
      rw [new, List.getElem?_modify_eq, place]
      exact ⟨_, rfl, holds⟩
    · have before : i < s.added.length := by
        have bound := (List.getElem?_eq_some_iff.mp added).1
        rw [List.length_append, List.length_singleton] at bound
        omega
      rw [List.getElem?_append_left before] at added
      rw [List.getElem?_modify_ne _ _ (Ne.symm new)]
      exact entries i other added

/-- The new entry is what was added if the name can be read where it was copied to. -/
theorem faithful_accepted_iff {capacity : Nat} {s : Recorded width} (faithful : s.Faithful capacity)
    {addition : Addition width} (accepted : s.storage.Accepts addition)
    {definition : AddressDefinition width}
    (place : s.storage.addresses[s.storage.configuredAmountOfAddresses]? = some definition) :
    (s.step (.addAnnounceAddress addition)).Faithful capacity ↔
      (definition.name.strncpy addition.name 29).read = some addition.name := by
  have entries := entries_accepted_iff faithful.amount faithful.entry accepted place
  have count : (s.added ++ [addition]).length = s.storage.configuredAmountOfAddresses + 1 := by
    rw [List.length_append, faithful.amount]
    rfl
  constructor
  · exact fun after => (entries.mp after.entry).name
  · intro ends
    refine ⟨?_, ?_, ?_, entries.mpr ⟨ends, rfl, rfl⟩⟩
    · rw [step_of_accepted accepted]
      exact (List.length_modify _ _ _).trans faithful.places
    · rw [step_of_accepted accepted]
      exact count.symm
    · rw [step_of_accepted accepted, ← faithful.places]
      exact accepted.2.1

theorem faithful_step_iff {capacity : Nat} {s : Recorded width} (faithful : s.Faithful capacity)
    (call : StorageCall width) : (s.step call).Faithful capacity ↔ s.NameEnds call := by
  cases call with
  | clearAddresses => exact iff_of_true (faithful_clear faithful) trivial
  | addAnnounceAddress addition =>
      by_cases accepted : s.storage.Accepts addition
      · obtain ⟨definition, place⟩ :
            ∃ d, s.storage.addresses[s.storage.configuredAmountOfAddresses]? = some d :=
          ⟨_, List.getElem?_eq_getElem accepted.2.1⟩
        have ends : s.EndsInZero ↔ definition.name.bytes.drop 29 = [0] := by
          unfold EndsInZero
          rw [place]
          exact ⟨fun ⟨_, rfl, zero⟩ => zero, fun zero => ⟨_, rfl, zero⟩⟩
        rw [faithful_accepted_iff faithful accepted place, CharArray.read_strncpy_iff, ← ends]
        exact ⟨fun condition _ => condition, fun condition => condition accepted⟩
      · rw [step_of_refused accepted]
        exact iff_of_true faithful fun here => absurd here accepted

/-- What the storage promises of a call: the list it keeps after it, and that a refused
addition left it alone. -/
def Promised (capacity : Nat) (s : Recorded width) (call : StorageCall width) : Prop :=
  (s.step call).Faithful capacity ∧ s.RefusesQuietly call

/-- The storage is the list of its additions along a run exactly if the name of every
one of them ends within the bytes it is copied to. -/
theorem storesAdditions_iff (memory : List (AddressDefinition width)) (maxAmountOfChannels : Nat)
    (timeBase : UInt32) (calls : List (StorageCall width)) :
    Run.Along step (Promised memory.length) (create memory maxAmountOfChannels timeBase) calls ↔
      Run.Along step NameEnds (create memory maxAmountOfChannels timeBase) calls := by
  have start := faithful_create memory maxAmountOfChannels timeBase
  have kept := Run.along_preserves_iff step
    (fun s call (faithful : s.Faithful memory.length) => faithful_step_iff faithful call) start calls
  rw [← kept]
  constructor
  · exact Run.Along.mono step fun s call promised => promised.1
  · exact Run.Along.mono step fun s call faithful => ⟨faithful, s.refusesQuietly call⟩

/-- A name of thirty characters is accepted, and only 29 of them are copied. -/
theorem storesAdditions_fails : ¬ ∀ (memory : List (AddressDefinition 32)) (maxAmountOfChannels : Nat)
    (timeBase : UInt32) (calls : List (StorageCall 32)),
    Run.Along step (Promised memory.length) (create memory maxAmountOfChannels timeBase) calls := by
  intro all
  have along := all [⟨.zero, .seFloat, 0⟩] 1 0
    [.addAnnounceAddress ⟨⟨List.replicate 30 97, by decide⟩, 4096, .seFloat⟩]
  obtain ⟨definition, here, stored⟩ := along.1.1.entry 0 _ rfl
  obtain rfl := Option.some.inj here
  exact absurd stored.name (by decide)

/-- The addresses are those of the additions, whatever becomes of the names. -/
structure Located (s : Recorded width) : Prop where
  amount : s.storage.configuredAmountOfAddresses = s.added.length
  entry : s.Entries fun addition definition =>
    addition.address ≠ 0 ∧ definition.address = addition.address

theorem located_step {s : Recorded width} (located : s.Located) (call : StorageCall width) :
    (s.step call).Located := by
  cases call with
  | clearAddresses => exact ⟨rfl, nofun⟩
  | addAnnounceAddress addition =>
      by_cases accepted : s.storage.Accepts addition
      · have place := List.getElem?_eq_getElem accepted.2.1
        refine ⟨?_, (entries_accepted_iff located.amount located.entry accepted place).mpr ⟨accepted.1, rfl⟩⟩
        rw [step_of_accepted accepted, List.length_append, ← located.amount]
        rfl
      · rw [step_of_refused accepted]
        exact located

theorem located_run (memory : List (AddressDefinition width)) (maxAmountOfChannels : Nat)
    (timeBase : UInt32) (calls : List (StorageCall width)) :
    (Run.exec step (create memory maxAmountOfChannels timeBase) calls).Located := by
  have start : (create memory maxAmountOfChannels timeBase).Located := ⟨rfl, nofun⟩
  exact Run.exec_invariant step (fun s call (located : s.Located) => located_step located call) start
    calls

end Recorded

end Control
