import ScopeTarget.Control.AnnounceStorage
import ScopeTarget.Serialisation.Announcement

/-! The command that puts the whole storage into the announcement of the packer. -/

namespace Control
open Core Serialisation

namespace CommandPackAnnounce
variable {width : Nat}

/-- The address is cut to 32 bits; a name that does not end in its field is no string. -/
def announceChannel (i : Nat) (addr : AddressDefinition width) : Option ScAnnounceChannelDef :=
  addr.name.read.map fun name =>
    ⟨UInt32.ofNat i, name, addr.type, UInt32.ofBitVec (addr.address.setWidth 32)⟩

/-- Every place is announced, also those that hold no address. -/
def announceChannels (maxAddressesToAnnounce : Nat) : Nat → List (AddressDefinition width) →
    ScAnnouncementData → Option ScAnnouncementData
  | _, [], packer => some packer
  | i, addr :: addresses, packer =>
      (announceChannel i addr).bind fun address =>
        announceChannels maxAddressesToAnnounce (i + 1) addresses
          (NanopbPacker.addAddressAnnouncement maxAddressesToAnnounce packer address)

/-- There is no result where a name does not end, and where the loop does not: its
index has 32 bits. -/
def run (announceStorage : Option (AnnounceStorage width)) (maxAddressesToAnnounce : Nat)
    (packer : ScAnnouncementData) : Option ScAnnouncementData :=
  match announceStorage with
  | none => some packer
  | some storage =>
      if 2 ^ 32 ≤ storage.getMaxAmountOfAddresses then none
      else
        (announceChannels maxAddressesToAnnounce 0 storage.addresses packer).map fun packed =>
          NanopbPacker.addAnnouncement packed
            ⟨UInt32.ofNat storage.maxAmountOfChannels, storage.timeBase, seScopeTargetVersion⟩

theorem toNat_address (i : Nat) {addr : AddressDefinition width} {address : ScAnnounceChannelDef}
    (announced : announceChannel i addr = some address) :
    address.address.toNat = addr.address.toNat % 2 ^ 32 := by
  obtain ⟨name, -, rfl⟩ := Option.map_eq_some_iff.mp announced
  exact BitVec.toNat_setWidth 32 addr.address

theorem id_announceChannel {i : Nat} {addr : AddressDefinition width} {address : ScAnnounceChannelDef}
    (announced : announceChannel i addr = some address) : address.id = UInt32.ofNat i := by
  obtain ⟨name, -, rfl⟩ := Option.map_eq_some_iff.mp announced
  rfl

theorem fits_announceChannel {i : Nat} {addr : AddressDefinition width} {address : ScAnnounceChannelDef}
    (announced : announceChannel i addr = some address) : address.Fits := by
  obtain ⟨name, held, rfl⟩ := Option.map_eq_some_iff.mp announced
  exact Nat.le_of_lt_succ (CharArray.length_of_read held)

/-- What is announced was in the packer before or comes from one of the places. -/
theorem mem_announceChannels {maxAddressesToAnnounce i : Nat} {addresses : List (AddressDefinition width)}
    {packer packed : ScAnnouncementData}
    (ran : announceChannels maxAddressesToAnnounce i addresses packer = some packed)
    {address : ScAnnounceChannelDef} (member : address ∈ packed.announceChannels) :
    address ∈ packer.announceChannels ∨
      ∃ k addr, addresses[k]? = some addr ∧ announceChannel (i + k) addr = some address := by
  induction addresses generalizing i packer with
  | nil =>
      obtain rfl := Option.some.inj ran
      exact .inl member
  | cons addr addresses ih =>
      obtain ⟨first, announced, rest⟩ := Option.bind_eq_some_iff.mp ran
      rcases ih rest with before | ⟨k, later, place, found⟩
      · unfold NanopbPacker.addAddressAnnouncement at before
        split at before
        · exact .inl before
        · rcases List.mem_append.mp before with old | new
          · exact .inl old
          · obtain rfl := List.mem_singleton.mp new
            exact .inr ⟨0, addr, rfl, announced⟩
      · refine .inr ⟨k + 1, later, place, ?_⟩
        rw [← found, Nat.add_assoc, Nat.add_comm 1 k]

theorem cases_run {storage : AnnounceStorage width} {maxAddressesToAnnounce : Nat}
    {packer packed : ScAnnouncementData}
    (ran : run (some storage) maxAddressesToAnnounce packer = some packed) :
    storage.getMaxAmountOfAddresses < 2 ^ 32 ∧ packed.announcMeta.version = seScopeTargetVersion ∧
      ∃ filled, announceChannels maxAddressesToAnnounce 0 storage.addresses packer = some filled ∧
        packed.announceChannels = filled.announceChannels := by
  rw [run] at ran
  split at ran
  · cases ran
  · rename_i few
    obtain ⟨filled, loop, rfl⟩ := Option.map_eq_some_iff.mp ran
    exact ⟨Nat.not_le.mp few, rfl, filled, loop, rfl⟩

/-- An entry of the announcement comes from the place its identifier names. -/
theorem mem_run {storage : AnnounceStorage width} {maxAddressesToAnnounce : Nat}
    {previous : ScAnnounceMetaData} {packed : ScAnnouncementData}
    (ran : run (some storage) maxAddressesToAnnounce ⟨previous, []⟩ = some packed)
    {address : ScAnnounceChannelDef} (member : address ∈ packed.announceChannels) :
    ∃ addr, storage.addresses[address.id.toNat]? = some addr ∧
      announceChannel address.id.toNat addr = some address := by
  obtain ⟨few, -, filled, loop, same⟩ := cases_run ran
  rw [same] at member
  rcases mem_announceChannels loop member with none_ | ⟨k, addr, place, announced⟩
  · cases none_
  · rw [Nat.zero_add] at announced
    have bound := (List.getElem?_eq_some_iff.mp place).1
    have number : address.id.toNat = k := by
      rw [id_announceChannel announced, UInt32.toNat_ofNat']
      exact Nat.mod_eq_of_lt (Nat.lt_trans bound few)
    rw [number]
    exact ⟨addr, place, announced⟩

/-- What the host finds in the message is what the command has put into the packer. -/
theorem decode_run {storage : AnnounceStorage width} {maxAddressesToAnnounce : Nat}
    {previous : ScAnnounceMetaData} {packed : ScAnnouncementData}
    (ran : run (some storage) maxAddressesToAnnounce ⟨previous, []⟩ = some packed) :
    ScAnnounce.decode (NanopbPacker.packScAnnounce packed) = some packed.message := by
  have fit : ∀ address ∈ packed.announceChannels, address.Fits := by
    intro address member
    obtain ⟨addr, -, announced⟩ := mem_run ran member
    exact fits_announceChannel announced
  have numbered : packed.announcMeta.Fits := by
    rw [ScAnnounceMetaData.Fits, (cases_run ran).2.1]
    decide
  exact NanopbPacker.decode_packScAnnounce fit numbered

end CommandPackAnnounce

end Control
