import ScopeTarget.Base.CString
import ScopeTarget.Base.Run
import ScopeTarget.Core.Channel
import ScopeTarget.Serialisation.NanopbPacker

/-! The SC_ANNOUNCE message: how the packer writes it, and what a protobuf reader
finds in it. -/

namespace Core

/-- `DATA_TYPES` and `PB_Var_Type` have the same values. -/
def DataTypes.code : DataTypes → UInt32
  | .seInt8 => 0
  | .seInt16 => 1
  | .seInt32 => 2
  | .seUint8 => 3
  | .seUint16 => 4
  | .seUint32 => 5
  | .seFloat => 6

theorem DataTypes.code_lt (type : DataTypes) : type.code.toNat < 128 := by
  cases type <;> decide

end Core

namespace Serialisation
open Protobuf

structure ScAnnounceChannelDef where
  id : UInt32
  name : CString
  type : Core.DataTypes
  address : UInt32
  deriving DecidableEq, Repr

/-- The time base is the bit pattern of a float. -/
structure ScAnnounceMetaData where
  maxChannels : UInt32
  timebase : UInt32
  version : CString
  deriving DecidableEq, Repr

def seScopeTargetVersion : CString := ⟨[48, 46, 53], by decide⟩

structure ScAnnouncementData where
  announcMeta : ScAnnounceMetaData
  announceChannels : List ScAnnounceChannelDef
  deriving DecidableEq, Repr

/-- `PB_SC_Channel_Configuration` -/
structure PbChannelConfiguration where
  id : UInt32
  name : CharArray 30
  type : UInt32
  address : UInt32
  deriving DecidableEq, Repr

namespace PbChannelConfiguration

def zero : PbChannelConfiguration := ⟨0, .zero, 0, 0⟩

/-- The structure is used again for every address. -/
def fill (channel : PbChannelConfiguration) (address : ScAnnounceChannelDef) : PbChannelConfiguration where
  id := address.id
  name := channel.name.strcpy address.name
  type := address.type.code
  address := address.address

end PbChannelConfiguration

namespace NanopbPacker

/-- How nanopb writes a string; an array in which no string ends is an error. -/
def encodeString {n : Nat} (number : Nat) (a : CharArray n) : Option (List UInt8) :=
  a.read.map fun s =>
    if s.bytes = [] then [] else tag number lengthDelimited ++ varint s.length ++ s.bytes

/-- How nanopb writes a float, given by its bits. -/
def encodeFloat (number : Nat) (bits : UInt32) : List UInt8 :=
  if bits = 0 then [] else tag number 5 ++ fixed32 bits

/-- `pb_encode` with `PB_SC_Channel_Configuration_fields`. -/
def encodeConfiguration (channel : PbChannelConfiguration) : Option (List UInt8) :=
  (encodeString 2 channel.name).map fun name =>
    encodeScalar 1 channel.id ++ name ++ encodeScalar 3 channel.type ++ encodeScalar 4 channel.address

/-- `PB_SC_Channel_Configuration_size` -/
def configurationSize : Nat := 45

/-- What gets into the buffer that is there to measure the entry. -/
def tmpStream (channel : PbChannelConfiguration) : Option (List UInt8) :=
  (encodeConfiguration channel).filter fun bytes => bytes.length ≤ configurationSize

/-- The flag says that no entry failed; behind the tag of one that does, nothing is written. -/
def writeAddress (channel : PbChannelConfiguration) : List ScAnnounceChannelDef → List UInt8 × Bool
  | [] => ([], true)
  | address :: addresses =>
      let filled := channel.fill address
      match tmpStream filled with
      | none => (tag 1 lengthDelimited, false)
      | some bytes =>
          let rest := writeAddress filled addresses
          (tag 1 lengthDelimited ++ varint bytes.length ++ bytes ++ rest.1, rest.2)

def packScAnnounce (self : ScAnnouncementData) : List UInt8 :=
  let version := (CharArray.zero : CharArray 5).strcpy self.announcMeta.version
  let channels := writeAddress .zero self.announceChannels
  if channels.2 = false then channels.1
  else channels.1 ++ encodeScalar 2 self.announcMeta.maxChannels ++
    encodeFloat 3 self.announcMeta.timebase ++ (encodeString 4 version).getD []

/-- An address beyond the last place is not added. -/
def addAddressAnnouncement (maxAddressesToAnnounce : Nat) (self : ScAnnouncementData)
    (address : ScAnnounceChannelDef) : ScAnnouncementData :=
  if maxAddressesToAnnounce ≤ self.announceChannels.length then self
  else { self with announceChannels := self.announceChannels ++ [address] }

def addAnnouncement (self : ScAnnouncementData) (announcMeta : ScAnnounceMetaData) : ScAnnouncementData :=
  { self with announcMeta := announcMeta }

def resetSelf (self : ScAnnouncementData) : ScAnnouncementData :=
  { self with announceChannels := [] }

end NanopbPacker

/-! The messages of `se-scope.pb.h`. -/

structure ScChannelConfiguration where
  id : UInt32
  name : List UInt8
  type : UInt32
  address : UInt32
  deriving DecidableEq, Repr

structure ScAnnounce where
  channels : List ScChannelConfiguration
  maxChannels : UInt32
  timebase : UInt32
  version : List UInt8
  deriving DecidableEq, Repr

namespace ScChannelConfiguration

def zero : ScChannelConfiguration := ⟨0, [], 0, 0⟩

/-- `PB_SC_Channel_Configuration_FIELDLIST` -/
def merge (c : ScChannelConfiguration) (f : Field) : Option ScChannelConfiguration :=
  match f.number, f.value with
  | 1, .varint n => some { c with id := UInt32.ofNat n }
  | 2, .len bytes => some { c with name := bytes }
  | 3, .varint n => some { c with type := UInt32.ofNat n }
  | 4, .varint n => some { c with address := UInt32.ofNat n }
  | 1, _ => none
  | 2, _ => none
  | 3, _ => none
  | 4, _ => none
  | _, _ => some c

end ScChannelConfiguration

namespace ScAnnounce

def zero : ScAnnounce := ⟨[], 0, 0, []⟩

/-- `PB_SC_Announce_FIELDLIST` -/
def merge (a : ScAnnounce) (f : Field) : Option ScAnnounce :=
  match f.number, f.value with
  | 1, .len bytes =>
      (readMessage ScChannelConfiguration.merge ScChannelConfiguration.zero bytes).map fun c =>
        { a with channels := a.channels ++ [c] }
  | 2, .varint n => some { a with maxChannels := UInt32.ofNat n }
  | 3, .fixed32 n => some { a with timebase := n }
  | 4, .len bytes => some { a with version := bytes }
  | 1, _ => none
  | 2, _ => none
  | 3, _ => none
  | 4, _ => none
  | _, _ => some a

def decode (bytes : List UInt8) : Option ScAnnounce := readMessage merge zero bytes

end ScAnnounce

namespace ScAnnounceChannelDef

/-- What the host should find of an entry. -/
def announced (address : ScAnnounceChannelDef) : ScChannelConfiguration :=
  ⟨address.id, address.name.bytes, address.type.code, address.address⟩

/-- The name fits the field of the message. -/
def Fits (address : ScAnnounceChannelDef) : Prop := address.name.length ≤ 29

instance (address : ScAnnounceChannelDef) : Decidable address.Fits := inferInstanceAs (Decidable (_ ≤ _))

end ScAnnounceChannelDef

namespace ScAnnounceMetaData

/-- The version fits the field of the message. -/
def Fits (announcMeta : ScAnnounceMetaData) : Prop := announcMeta.version.length ≤ 4

instance (announcMeta : ScAnnounceMetaData) : Decidable announcMeta.Fits :=
  inferInstanceAs (Decidable (_ ≤ _))

end ScAnnounceMetaData

/-- The message the host should find. -/
def ScAnnouncementData.message (self : ScAnnouncementData) : ScAnnounce where
  channels := self.announceChannels.map ScAnnounceChannelDef.announced
  maxChannels := self.announcMeta.maxChannels
  timebase := self.announcMeta.timebase
  version := self.announcMeta.version.bytes

namespace NanopbPacker

def configurationFields (address : ScAnnounceChannelDef) : List Field :=
  scalarFields 1 address.id ++ stringFields 2 address.name.bytes ++ scalarFields 3 address.type.code ++
    scalarFields 4 address.address

def channelsFields (addresses : List ScAnnounceChannelDef) : List Field :=
  addresses.map fun address => ⟨1, .len (encodeFields (configurationFields address))⟩

def announceFields (self : ScAnnouncementData) : List Field :=
  channelsFields self.announceChannels ++ scalarFields 2 self.announcMeta.maxChannels ++
    fixedFields 3 self.announcMeta.timebase ++ stringFields 4 self.announcMeta.version.bytes

theorem encodeString_eq {n : Nat} (number : Nat) {a : CharArray n} {s : CString} (held : a.read = some s) :
    encodeString number a = some (encodeFields (stringFields number s.bytes)) := by
  rw [encodeString, held, Option.map_some, stringFields]
  split
  · rfl
  · rw [encodeFields_singleton, encode_len]
    rfl

theorem encodeFloat_eq (number : Nat) (bits : UInt32) :
    encodeFloat number bits = encodeFields (fixedFields number bits) := by
  unfold encodeFloat fixedFields
  split
  · rfl
  · exact (encodeFields_singleton ⟨number, .fixed32 bits⟩).symm

/-- Nothing is left of the entry for which the structure was used before. -/
theorem encodeConfiguration_fill (channel : PbChannelConfiguration) {address : ScAnnounceChannelDef}
    (fits : address.Fits) :
    encodeConfiguration (channel.fill address) = some (encodeFields (configurationFields address)) := by
  have name := encodeString_eq 2
    (channel.name.read_strcpy (Nat.lt_of_le_of_lt fits (by decide : 29 < 30)))
  rw [encodeConfiguration, PbChannelConfiguration.fill, name, Option.map_some, configurationFields,
    encodeFields_append, encodeFields_append, encodeFields_append, encodeScalar_eq, encodeScalar_eq,
    encodeScalar_eq]

/-- `size` is what the identifier takes. -/
theorem length_configurationFields_le {address : ScAnnounceChannelDef} (fits : address.Fits) {size : Nat}
    (id : (encodeFields (scalarFields 1 address.id)).length ≤ size) :
    (encodeFields (configurationFields address)).length ≤ size + 39 := by
  have name := length_stringFields_le (by decide : 2 < 15) fits (by decide)
  have type := length_scalarFields_le (by decide : 3 < 15) 0 address.type.code_lt
  have location := length_scalarFields_le_six (by decide : 4 < 15) address.address
  rw [configurationFields, length_encodeFields_append, length_encodeFields_append,
    length_encodeFields_append]
  omega

theorem channelsFields_cons (address : ScAnnounceChannelDef) (addresses : List ScAnnounceChannelDef) :
    channelsFields (address :: addresses) =
      ⟨1, .len (encodeFields (configurationFields address))⟩ :: channelsFields addresses := rfl

theorem tmpStream_fill (channel : PbChannelConfiguration) {address : ScAnnounceChannelDef}
    (fits : address.Fits) :
    tmpStream (channel.fill address) = some (encodeFields (configurationFields address)) := by
  have room : (encodeFields (configurationFields address)).length ≤ configurationSize :=
    length_configurationFields_le fits (length_scalarFields_le_six (by decide : 1 < 15) address.id)
  rw [tmpStream, encodeConfiguration_fill channel fits, Option.filter_some,
    if_pos (decide_eq_true room)]

/-- Every entry is a field of the message, whatever was in the structure before. -/
theorem writeAddress_eq (channel : PbChannelConfiguration) {addresses : List ScAnnounceChannelDef}
    (fit : ∀ address ∈ addresses, address.Fits) :
    writeAddress channel addresses = (encodeFields (channelsFields addresses), true) := by
  induction addresses generalizing channel with
  | nil => rfl
  | cons address addresses ih =>
      have first := tmpStream_fill channel (fit address List.mem_cons_self)
      have later := ih (channel.fill address) fun other member => fit other (List.mem_cons_of_mem _ member)
      rw [writeAddress, first]
      dsimp only
      rw [later, channelsFields_cons, encodeFields_cons, encode_len]
      rfl

theorem packScAnnounce_eq {self : ScAnnouncementData}
    (fit : ∀ address ∈ self.announceChannels, address.Fits) (version : self.announcMeta.Fits) :
    packScAnnounce self = encodeFields (announceFields self) := by
  have channels := writeAddress_eq .zero fit
  have copied := encodeString_eq 4
    (CharArray.read_strcpy .zero (Nat.lt_of_le_of_lt version (by decide : 4 < 5)))
  rw [packScAnnounce, channels, copied, if_neg Bool.true_eq_false.mp, announceFields, encodeFields_append,
    encodeFields_append, encodeFields_append, encodeScalar_eq, encodeFloat_eq]
  rfl

theorem read_configuration (address : ScAnnounceChannelDef) :
    readMessage ScChannelConfiguration.merge ScChannelConfiguration.zero
      (encodeFields (configurationFields address)) = some address.announced := by
  have id : (scalarFields 1 address.id).foldlM ScChannelConfiguration.merge .zero =
      some ⟨address.id, [], 0, 0⟩ :=
    foldlM_scalarFields (fun v => ScChannelConfiguration.mk v [] 0 0) address.id rfl fun n => rfl
  have name : (stringFields 2 address.name.bytes).foldlM ScChannelConfiguration.merge
      ⟨address.id, [], 0, 0⟩ = some ⟨address.id, address.name.bytes, 0, 0⟩ :=
    foldlM_stringFields (fun v => ScChannelConfiguration.mk address.id v 0 0) address.name.bytes rfl
      fun n => rfl
  have type : (scalarFields 3 address.type.code).foldlM ScChannelConfiguration.merge
      ⟨address.id, address.name.bytes, 0, 0⟩ =
        some ⟨address.id, address.name.bytes, address.type.code, 0⟩ :=
    foldlM_scalarFields (fun v => ScChannelConfiguration.mk address.id address.name.bytes v 0)
      address.type.code rfl fun n => rfl
  rw [readMessage_encodeFields, configurationFields, List.append_assoc, List.append_assoc,
    foldlM_append_of_some id, foldlM_append_of_some name, foldlM_append_of_some type]
  exact foldlM_scalarFields
    (ScChannelConfiguration.mk address.id address.name.bytes address.type.code) address.address rfl
    fun n => rfl

/-- Every entry of the list is found, behind those already known. -/
theorem read_announceChannels (addresses : List ScAnnounceChannelDef) (known : ScAnnounce) :
    (channelsFields addresses).foldlM ScAnnounce.merge known = some { known with
      channels := known.channels ++ addresses.map ScAnnounceChannelDef.announced } := by
  induction addresses generalizing known with
  | nil =>
      simp only [List.map_nil, List.append_nil]
      rfl
  | cons address addresses ih =>
      have first : ScAnnounce.merge known
          ⟨1, .len (encodeFields (configurationFields address))⟩ =
            some { known with channels := known.channels ++ [address.announced] } := by
        change (readMessage ScChannelConfiguration.merge ScChannelConfiguration.zero _).map _ = _
        rw [read_configuration]
        rfl
      rw [channelsFields_cons, List.foldlM_cons, first]
      change (channelsFields addresses).foldlM ScAnnounce.merge _ = _
      rw [ih, List.append_assoc]
      rfl

theorem decode_packScAnnounce {self : ScAnnouncementData}
    (fit : ∀ address ∈ self.announceChannels, address.Fits) (version : self.announcMeta.Fits) :
    ScAnnounce.decode (packScAnnounce self) = some self.message := by
  have channels : (channelsFields self.announceChannels).foldlM ScAnnounce.merge .zero =
      some ⟨self.message.channels, 0, 0, []⟩ := read_announceChannels self.announceChannels .zero
  have maxChannels : (scalarFields 2 self.announcMeta.maxChannels).foldlM ScAnnounce.merge
      ⟨self.message.channels, 0, 0, []⟩ =
        some ⟨self.message.channels, self.announcMeta.maxChannels, 0, []⟩ :=
    foldlM_scalarFields (fun v => ScAnnounce.mk self.message.channels v 0 []) _ rfl fun n => rfl
  have timebase : (fixedFields 3 self.announcMeta.timebase).foldlM ScAnnounce.merge
      ⟨self.message.channels, self.announcMeta.maxChannels, 0, []⟩ = some ⟨self.message.channels,
        self.announcMeta.maxChannels, self.announcMeta.timebase, []⟩ :=
    foldlM_fixedFields
      (fun v => ScAnnounce.mk self.message.channels self.announcMeta.maxChannels v []) _ rfl fun n => rfl
  rw [packScAnnounce_eq fit version, ScAnnounce.decode, readMessage_encodeFields, announceFields,
    List.append_assoc, List.append_assoc, foldlM_append_of_some channels,
    foldlM_append_of_some maxChannels, foldlM_append_of_some timebase]
  exact foldlM_stringFields (ScAnnounce.mk self.message.channels self.announcMeta.maxChannels
    self.announcMeta.timebase) self.announcMeta.version.bytes rfl fun n => rfl

end NanopbPacker

/-- The calls on the packer that concern its announcement. -/
inductive AnnounceCall where
  | addAddressAnnouncement (address : ScAnnounceChannelDef)
  | addAnnouncement (announcMeta : ScAnnounceMetaData)
  | pack (outputIsEmpty : Bool) (type : MessageType)

/-- What the packer holds for an announcement, and the payloads of those it has packed. -/
structure AnnouncePacker where
  data : ScAnnouncementData
  packed : List (List UInt8)

/-- The entries added since the last message was packed, the metadata, and what
every announcement so far was to say. -/
structure Announced where
  entries : List ScAnnounceChannelDef
  announcMeta : ScAnnounceMetaData
  messages : List ScAnnounce

namespace AnnounceCall

def Fits : AnnounceCall → Prop
  | .addAddressAnnouncement address => address.Fits
  | .addAnnouncement announcMeta => announcMeta.Fits
  | .pack _ _ => True

instance : (call : AnnounceCall) → Decidable call.Fits
  | .addAddressAnnouncement address => inferInstanceAs (Decidable address.Fits)
  | .addAnnouncement announcMeta => inferInstanceAs (Decidable announcMeta.Fits)
  | .pack _ _ => inferInstanceAs (Decidable True)

end AnnounceCall

/-- Packing a message of any type forgets what was added for an announcement. -/
def AnnouncePacker.step (maxAddressesToAnnounce : Nat) (s : AnnouncePacker) :
    AnnounceCall → AnnouncePacker
  | .addAddressAnnouncement address =>
      { s with data := NanopbPacker.addAddressAnnouncement maxAddressesToAnnounce s.data address }
  | .addAnnouncement announcMeta => { s with data := NanopbPacker.addAnnouncement s.data announcMeta }
  | .pack outputIsEmpty type =>
      if outputIsEmpty = false then s
      else
        { data := NanopbPacker.resetSelf s.data
          packed := if type = .scAnnounce then s.packed ++ [NanopbPacker.packScAnnounce s.data]
            else s.packed }

namespace Announced

/-- The announcement of what has been added, or of as much of it as there are places for. -/
def message (maxAddressesToAnnounce : Nat) (a : Announced) : ScAnnounce where
  channels := (a.entries.take maxAddressesToAnnounce).map ScAnnounceChannelDef.announced
  maxChannels := a.announcMeta.maxChannels
  timebase := a.announcMeta.timebase
  version := a.announcMeta.version.bytes

def step (maxAddressesToAnnounce : Nat) (a : Announced) : AnnounceCall → Announced
  | .addAddressAnnouncement address => { a with entries := a.entries ++ [address] }
  | .addAnnouncement announcMeta => { a with announcMeta := announcMeta }
  | .pack outputIsEmpty type =>
      if outputIsEmpty = false then a
      else
        { a with
          entries := []
          messages := if type = .scAnnounce then a.messages ++ [a.message maxAddressesToAnnounce]
            else a.messages }

/-- The packer holds the first entries, and what it has packed can be read. -/
structure Describes (maxAddressesToAnnounce : Nat) (a : Announced) (s : AnnouncePacker) : Prop where
  entries : s.data.announceChannels = a.entries.take maxAddressesToAnnounce
  announcMeta : s.data.announcMeta = a.announcMeta
  read : s.packed.map ScAnnounce.decode = a.messages.map some
  fit : ∀ address ∈ s.data.announceChannels, address.Fits
  version : s.data.announcMeta.Fits

variable {maxAddressesToAnnounce : Nat} {a : Announced} {s : AnnouncePacker}

theorem describes_add (describes : Describes maxAddressesToAnnounce a s) {address : ScAnnounceChannelDef}
    (fits : address.Fits) :
    Describes maxAddressesToAnnounce (a.step maxAddressesToAnnounce (.addAddressAnnouncement address))
      (s.step maxAddressesToAnnounce (.addAddressAnnouncement address)) := by
  have held := describes.entries
  have size : s.data.announceChannels.length = min maxAddressesToAnnounce a.entries.length := by
    rw [held, List.length_take]
  dsimp only [step, AnnouncePacker.step, NanopbPacker.addAddressAnnouncement]
  by_cases full : maxAddressesToAnnounce ≤ s.data.announceChannels.length
  · have enough : maxAddressesToAnnounce ≤ a.entries.length := by omega
    rw [if_pos full]
    exact { describes with
      entries := by rw [held, List.take_append_of_le_length enough] }
  · have all : a.entries.length < maxAddressesToAnnounce := by omega
    have room : (a.entries ++ [address]).length ≤ maxAddressesToAnnounce := by
      rw [List.length_append]
      exact all
    rw [if_neg full]
    refine { describes with entries := ?_, fit := ?_ }
    · rw [held, List.take_of_length_le (Nat.le_of_lt all), List.take_of_length_le room]
    · intro other member
      rcases List.mem_append.mp member with before | last
      · exact describes.fit other before
      · rw [List.mem_singleton.mp last]
        exact fits

theorem describes_pack (describes : Describes maxAddressesToAnnounce a s) (outputIsEmpty : Bool)
    (type : MessageType) :
    Describes maxAddressesToAnnounce (a.step maxAddressesToAnnounce (.pack outputIsEmpty type))
      (s.step maxAddressesToAnnounce (.pack outputIsEmpty type)) := by
  have said : s.data.message = a.message maxAddressesToAnnounce := by
    rw [ScAnnouncementData.message, describes.entries, describes.announcMeta]
    rfl
  have decoded := NanopbPacker.decode_packScAnnounce describes.fit describes.version
  dsimp only [step, AnnouncePacker.step]
  split
  · exact describes
  · refine ⟨List.take_nil.symm, describes.announcMeta, ?_, fun _ none_ => ?_, describes.version⟩
    · dsimp only
      split
      · rw [List.map_append, List.map_append, describes.read, List.map_singleton, decoded, said]
        rfl
      · exact describes.read
    · cases none_

theorem describes_step (describes : Describes maxAddressesToAnnounce a s) {call : AnnounceCall}
    (fits : call.Fits) :
    Describes maxAddressesToAnnounce (a.step maxAddressesToAnnounce call)
      (s.step maxAddressesToAnnounce call) := by
  cases call with
  | addAddressAnnouncement address => exact describes_add describes fits
  | addAnnouncement announcMeta =>
      exact { describes with announcMeta := rfl, version := fits }
  | pack outputIsEmpty type => exact describes_pack describes outputIsEmpty type

theorem describes_run (describes : Describes maxAddressesToAnnounce a s) {calls : List AnnounceCall}
    (fit : ∀ call ∈ calls, call.Fits) :
    Describes maxAddressesToAnnounce (Run.exec (step maxAddressesToAnnounce) a calls)
      (Run.exec (AnnouncePacker.step maxAddressesToAnnounce) s calls) := by
  induction calls generalizing a s with
  | nil => exact describes
  | cons call calls ih =>
      exact ih (describes_step describes (fit call List.mem_cons_self))
        fun other later => fit other (List.mem_cons_of_mem call later)

end Announced

/-- Every announcement of a run is read as the entries added since the message
packed before it, in their order, with the metadata given last. -/
theorem announcements_read (maxAddressesToAnnounce : Nat) {announcMeta : ScAnnounceMetaData}
    (version : announcMeta.Fits) {calls : List AnnounceCall} (fit : ∀ call ∈ calls, call.Fits) :
    (Run.exec (AnnouncePacker.step maxAddressesToAnnounce) ⟨⟨announcMeta, []⟩, []⟩ calls).packed.map
        ScAnnounce.decode =
      (Run.exec (Announced.step maxAddressesToAnnounce) ⟨[], announcMeta, []⟩ calls).messages.map some := by
  have start : Announced.Describes maxAddressesToAnnounce ⟨[], announcMeta, []⟩
      ⟨⟨announcMeta, []⟩, []⟩ := by
    refine ⟨List.take_nil.symm, rfl, rfl, fun _ none_ => ?_, version⟩
    cases none_
  exact (Announced.describes_run start fit).read

section Run
open AnnounceCall

def versionOne : ScAnnounceMetaData := ⟨9, 897988541, ⟨[48, 46, 53], by decide⟩⟩

/-- The second name is shorter than the first; the third entry goes into a message of its own. -/
def twoAnnouncements : List AnnounceCall :=
  [addAddressAnnouncement ⟨0, ⟨[97, 98, 99], by decide⟩, .seFloat, 4096⟩,
    addAddressAnnouncement ⟨1, ⟨[100], by decide⟩, .seInt8, 0⟩, addAnnouncement versionOne,
    pack true .scAnnounce, addAddressAnnouncement ⟨2, .empty, .seUint16, 4100⟩, pack true .scAnnounce]

theorem announcements_read_two :
    (Run.exec (AnnouncePacker.step 2) ⟨⟨versionOne, []⟩, []⟩ twoAnnouncements).packed.map
        ScAnnounce.decode =
      [some ⟨[⟨0, [97, 98, 99], 6, 4096⟩, ⟨1, [100], 0, 0⟩], 9, 897988541, [48, 46, 53]⟩,
        some ⟨[⟨2, [], 4, 4100⟩], 9, 897988541, [48, 46, 53]⟩] :=
  announcements_read 2 (by decide) (by decide)

end Run

end Serialisation
