import ScopeTarget.Control.CommandPackAnnounce
import ScopeTarget.Serialisation.TransmitBuffer

/-! The announcement of a storage: an entry for every addition, and one that says nothing for
every place that is free. -/

namespace Control
open Core Serialisation

namespace AddressDefinition
variable {width : Nat}

/-- A place that holds no address. -/
structure Blank (definition : AddressDefinition width) : Prop where
  name : definition.name.read = some .empty
  type : definition.type = .seFloat
  address : definition.address = 0

theorem blank_resetDefinition (definition : AddressDefinition width) :
    (AnnounceStorage.resetDefinition definition).Blank := by
  refine ⟨?_, rfl, rfl⟩
  apply CharArray.read_of_split (definition.name.bytes.drop 1)
  exact CharArray.bytes_overwrite (by decide)

end AddressDefinition

namespace Recorded
variable {width : Nat} {s : Recorded width}

instance (s : Recorded width) : Decidable s.EndsInZero :=
  inferInstanceAs (Decidable (∃ definition ∈ s.storage.addresses[s.storage.configuredAmountOfAddresses]?,
    definition.name.bytes.drop 29 = [0]))

instance (s : Recorded width) : (call : StorageCall width) → Decidable (s.NameEnds call)
  | .addAnnounceAddress _ => inferInstanceAs (Decidable (_ → _ ∨ _ ∧ _))
  | .clearAddresses => inferInstanceAs (Decidable True)

/-- What is announced of a place. -/
def entryAt (s : Recorded width) (i : Nat) : ScAnnounceChannelDef :=
  match s.added[i]? with
  | some addition => ⟨UInt32.ofNat i, addition.name, addition.type,
      UInt32.ofBitVec (addition.address.setWidth 32)⟩
  | none => ⟨UInt32.ofNat i, .empty, .seFloat, 0⟩

def entries (s : Recorded width) : List ScAnnounceChannelDef :=
  (List.range s.storage.getMaxAmountOfAddresses).map s.entryAt

/-- What the packer holds once the storage has been announced. -/
def announcement (s : Recorded width) : ScAnnouncementData where
  announcMeta := ⟨UInt32.ofNat s.storage.maxAmountOfChannels, s.storage.timeBase, seScopeTargetVersion⟩
  announceChannels := s.entries

/-- The places behind the additions are free. -/
def FreeBehind (s : Recorded width) : Prop :=
  ∀ (i : Nat) (definition : AddressDefinition width), s.added.length ≤ i →
    s.storage.addresses[i]? = some definition → definition.Blank

theorem freeBehind_create (memory : List (AddressDefinition width)) (maxAmountOfChannels : Nat)
    (timeBase : UInt32) : (create memory maxAmountOfChannels timeBase).FreeBehind := by
  intro i definition _ place
  obtain ⟨found, -, rfl⟩ := List.mem_map.mp (List.mem_of_getElem? place)
  exact found.blank_resetDefinition

theorem freeBehind_step {capacity : Nat} (faithful : s.Faithful capacity) (free : s.FreeBehind)
    (call : StorageCall width) : (s.step call).FreeBehind := by
  cases call with
  | clearAddresses =>
      intro i definition _ place
      obtain ⟨found, -, rfl⟩ := List.mem_map.mp (List.mem_of_getElem? place)
      exact found.blank_resetDefinition
  | addAnnounceAddress addition =>
      by_cases accepted : s.storage.Accepts addition
      · rw [step_of_accepted accepted]
        intro i definition behind place
        dsimp only at behind place
        rw [List.length_append, List.length_singleton] at behind
        have other : s.storage.configuredAmountOfAddresses ≠ i := by
          rw [faithful.amount]
          omega
        rw [List.getElem?_modify_ne _ _ other] at place
        exact free i definition (by omega) place
      · rw [step_of_refused accepted]
        exact free

theorem maxAmountOfChannels_step (s : Recorded width) (call : StorageCall width) :
    (s.step call).storage.maxAmountOfChannels = s.storage.maxAmountOfChannels := by
  cases call with
  | clearAddresses => rfl
  | addAnnounceAddress addition =>
      by_cases accepted : s.storage.Accepts addition
      · rw [step_of_accepted accepted]
      · rw [step_of_refused accepted]

/-- Each place is announced as what was added there. -/
theorem announceChannel_place {capacity : Nat} (faithful : s.Faithful capacity) (free : s.FreeBehind)
    {i : Nat} {definition : AddressDefinition width}
    (place : s.storage.addresses[i]? = some definition) :
    CommandPackAnnounce.announceChannel i definition = some (s.entryAt i) := by
  unfold CommandPackAnnounce.announceChannel entryAt
  cases added : s.added[i]? with
  | some addition =>
      obtain ⟨found, here, stored⟩ := faithful.entry i addition added
      obtain rfl := Option.some.inj (here.symm.trans place)
      rw [stored.name, stored.type, stored.address]
      rfl
  | none =>
      have blank := free i definition (List.getElem?_eq_none_iff.mp added) place
      rw [blank.name, blank.type, blank.address]
      simp

end Recorded

namespace CommandPackAnnounce
variable {width : Nat}

/-- As long as there is room in the packer, every place gets its entry. -/
theorem announceChannels_eq {maxAddressesToAnnounce i : Nat} {entry : Nat → ScAnnounceChannelDef}
    {addresses : List (AddressDefinition width)} {packer : ScAnnouncementData}
    (announced : ∀ k definition, addresses[k]? = some definition →
      announceChannel (i + k) definition = some (entry (i + k)))
    (room : packer.announceChannels.length + addresses.length ≤ maxAddressesToAnnounce) :
    announceChannels maxAddressesToAnnounce i addresses packer = some { packer with
      announceChannels := packer.announceChannels ++ (List.range' i addresses.length).map entry } := by
  induction addresses generalizing i packer with
  | nil =>
      rw [announceChannels]
      simp
  | cons first addresses ih =>
      have here := announced 0 first rfl
      rw [List.length_cons] at room
      have added : NanopbPacker.addAddressAnnouncement maxAddressesToAnnounce packer (entry i) =
          { packer with announceChannels := packer.announceChannels ++ [entry i] } :=
        if_neg (by omega)
      have rest : ∀ k definition, addresses[k]? = some definition →
          announceChannel (i + 1 + k) definition = some (entry (i + 1 + k)) := by
        intro k definition place
        have later := announced (k + 1) definition place
        rwa [Nat.add_comm k 1, ← Nat.add_assoc] at later
      rw [Nat.add_zero] at here
      rw [announceChannels, here, Option.bind_some, added, ih rest, List.length_cons, List.range'_succ,
        List.map_cons, List.append_assoc]
      · rfl
      · rw [List.length_append, List.length_singleton]
        omega

/-- The command puts the additions into the packer. -/
theorem run_eq {s : Recorded width} {capacity : Nat} (faithful : s.Faithful capacity) (free : s.FreeBehind)
    (few : capacity < 2 ^ 32) {packer : ScAnnouncementData} (empty : packer.announceChannels = []) :
    run (some s.storage) capacity packer = some s.announcement := by
  have places : s.storage.addresses.length = capacity := faithful.places
  have announced : ∀ k definition, s.storage.addresses[k]? = some definition →
      announceChannel (0 + k) definition = some (s.entryAt (0 + k)) := by
    intro k definition place
    rw [Nat.zero_add]
    exact Recorded.announceChannel_place faithful free place
  have room : packer.announceChannels.length + s.storage.addresses.length ≤ capacity := by
    rw [empty, places, List.length_nil, Nat.zero_add]
  have loop := announceChannels_eq announced room
  have bounded : ¬ 2 ^ 32 ≤ s.storage.getMaxAmountOfAddresses := by
    rw [faithful.places]
    omega
  rw [run, if_neg bounded, loop, Option.map_some, empty, List.nil_append, ← List.range_eq_range']
  rfl

end CommandPackAnnounce

namespace Recorded
variable {width : Nat} {s : Recorded width}

theorem id_entryAt (s : Recorded width) (i : Nat) : (s.entryAt i).id = UInt32.ofNat i := by
  unfold entryAt
  split <;> rfl

/-- A name that was stored fits the field of the message. -/
theorem fits_entryAt {capacity : Nat} (faithful : s.Faithful capacity) (i : Nat) : (s.entryAt i).Fits := by
  unfold entryAt
  split
  · rename_i addition added
    obtain ⟨definition, -, stored⟩ := faithful.entry i addition added
    exact Nat.le_of_lt_succ (CharArray.length_of_read stored.name)
  · exact Nat.zero_le 29

/-- The output buffer is made for the announcement. -/
theorem ofTarget_announcement {capacity : Nat} (faithful : s.Faithful capacity)
    (few : capacity < 2 ^ 32) {amountOfChannels : Nat}
    (channels : s.storage.maxAmountOfChannels = amountOfChannels) :
    NanopbPacker.OfTarget amountOfChannels capacity s.announcement := by
  have places : s.storage.getMaxAmountOfAddresses = capacity := faithful.places
  refine ⟨?_, ?_, congrArg UInt32.ofNat channels, rfl⟩
  · change (List.map _ _).length ≤ capacity
    rw [List.length_map, List.length_range, places]
  · intro address member
    obtain ⟨i, here, rfl⟩ := List.mem_map.mp member
    rw [List.mem_range, places] at here
    refine ⟨?_, fits_entryAt faithful i⟩
    rw [id_entryAt, UInt32.toNat_ofNat', Nat.mod_eq_of_lt (Nat.lt_trans here few)]
    exact here

end Recorded

end Control
