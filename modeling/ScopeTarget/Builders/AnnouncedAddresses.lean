import ScopeTarget.Builders.ReceiveBuffer
import ScopeTarget.Builders.ScopeThreadRunner
import ScopeTarget.Control.ChannelLists
import ScopeTarget.Control.CommandPackAnnounce
import ScopeTarget.Core.Operations

/-! The way of an address: from the storage into an announcement, from there to the
host and back in a list of addresses, and from that list to a channel. -/

namespace Core

/-- A number that names no type is polled as a float. -/
def DataTypes.ofNumber : Nat → DataTypes
  | 0 => .seInt8
  | 1 => .seInt16
  | 2 => .seInt32
  | 3 => .seUint8
  | 4 => .seUint16
  | 5 => .seUint32
  | _ => .seFloat

end Core

namespace Control
open Core

/-- What a call does to the scope; a poll meets some time and some memory. -/
def ScopeCall.operation {α : Type*} (now : UInt32) (memory : Memory α) : ScopeCall α → Option (Operation α)
  | .poll => some (.poll now memory)
  | .setTimeIncrement timeIncrement => some (.configureTimestampIncrement timeIncrement)
  | .clear => some .clear
  | .setChannelStopped id => some (.setChannelStopped id.toNat)
  | .setChannelRunning id => some (.setChannelRunning id.toNat)
  | .configureChannelAddress address id type =>
      some (.configureChannel id.toNat address.toNat (DataTypes.ofNumber type))
  | .configureTrigger conf => some (.configureTrigger conf)
  | .transmit => none

end Control

namespace Serialisation
open Control Protobuf

namespace NanopbUnpacker

/-- `PB_AddressConfig_FIELDLIST` -/
def mergeAddressConfig (config : CfAddressDef) (f : Field) : Option CfAddressDef :=
  match f.number, f.value with
  | 1, .varint n => some { config with id := UInt32.ofNat n }
  | 2, .varint n => some { config with address := UInt32.ofNat n }
  | 3, .varint n => some { config with type := (UInt32.ofNat n).toNat }
  | 1, _ => none
  | 2, _ => none
  | 3, _ => none
  | _, _ => some config

/-- `PB_CF_Address_FIELDLIST`; an entry that can be read is added by its callback. -/
def mergeAddresses (channels : List CfAddressDef) (f : Field) : Option (List CfAddressDef) :=
  match f.number, f.value with
  | 1, .len bytes =>
      (readMessage mergeAddressConfig ⟨0, 0, 0⟩ bytes).map fun config => channels ++ [config]
  | 1, _ => none
  | _, _ => some channels

theorem read_addressFields {entry : CfAddressDef} (typed : entry.type < 2 ^ 32) :
    readMessage mergeAddressConfig ⟨0, 0, 0⟩ (encodeFields (Builders.HostCommand.addressFields entry)) =
      some entry := by
  have id : (scalarFields 1 entry.id).foldlM mergeAddressConfig ⟨0, 0, 0⟩ = some ⟨entry.id, 0, 0⟩ :=
    foldlM_scalarFields (fun v => CfAddressDef.mk v 0 0) entry.id rfl fun n => rfl
  have address : (scalarFields 2 entry.address).foldlM mergeAddressConfig ⟨entry.id, 0, 0⟩ =
      some ⟨entry.id, entry.address, 0⟩ :=
    foldlM_scalarFields (fun v => CfAddressDef.mk entry.id v 0) entry.address rfl fun n => rfl
  have type : (scalarFields 3 (UInt32.ofNat entry.type)).foldlM mergeAddressConfig
      ⟨entry.id, entry.address, 0⟩ = some ⟨entry.id, entry.address, (UInt32.ofNat entry.type).toNat⟩ :=
    foldlM_scalarFields (fun v => CfAddressDef.mk entry.id entry.address v.toNat) _ rfl fun n => rfl
  rw [readMessage_encodeFields, Builders.HostCommand.addressFields, List.append_assoc,
    foldlM_append_of_some id, foldlM_append_of_some address, type, UInt32.toNat_ofNat',
    Nat.mod_eq_of_lt typed]

theorem read_addresses {entries : List CfAddressDef} (typed : ∀ entry ∈ entries, entry.type < 2 ^ 32) :
    readMessage mergeAddresses [] (Builders.HostCommand.address entries).payload =
      some entries := by
  have collected (known : List CfAddressDef) :
      (Builders.HostCommand.address entries).fields.foldlM mergeAddresses known =
        some (known ++ entries) := by
    induction entries generalizing known with
    | nil =>
        rw [List.append_nil]
        rfl
    | cons entry entries ih =>
        have first : mergeAddresses known
            ⟨1, .len (encodeFields (Builders.HostCommand.addressFields entry))⟩ =
              some (known ++ [entry]) := by
          change (readMessage mergeAddressConfig ⟨0, 0, 0⟩ _).map _ = _
          rw [read_addressFields (typed entry List.mem_cons_self)]
          rfl
        have later := ih (fun other member => typed other (List.mem_cons_of_mem entry member))
          (known ++ [entry])
        rw [Builders.HostCommand.fields, List.map_cons, List.foldlM_cons, first,
          List.append_cons known entry entries]
        exact later
  rw [Builders.HostCommand.payload, readMessage_encodeFields, collected, List.nil_append]

end NanopbUnpacker

/-- Of a list of addresses as a host encodes it, the decoder hands every field to the
callback. -/
def PbDecode.ReadsAddresses {α : Type*} (pb : PbDecode α) : Prop :=
  ∀ (entries channels : List CfAddressDef),
    readMessage NanopbUnpacker.mergeAddresses [] (Builders.HostCommand.address entries).payload =
        some channels →
      pb.cfAddr (Builders.HostCommand.address entries).payload = .success channels

end Serialisation

namespace Builders
open Core Control Serialisation FramedIO

/-- A list in which an address is sent back: all channels exist, the numbers of the types
are such, the other addresses are no null pointers, and no later entry is for the same channel. -/
structure SendsBack (amountOfChannels : Nat) (front : List CfAddressDef) (entry : CfAddressDef)
    (behind : List CfAddressDef) : Prop where
  short : (front ++ entry :: behind).length ≤ amountOfChannels
  exist : ∀ other ∈ front ++ entry :: behind, other.id.toNat < amountOfChannels
  typed : ∀ other ∈ front ++ entry :: behind, other.type < 2 ^ 32
  pointers : ∀ other ∈ front ++ behind, other.address ≠ 0
  last : ∀ other ∈ behind, other.id ≠ entry.id

theorem SendsBack.all_pointers {amountOfChannels : Nat} {front behind : List CfAddressDef}
    {entry : CfAddressDef} (sends : SendsBack amountOfChannels front entry behind)
    (pointer : entry.address ≠ 0) : ∀ other ∈ front ++ entry :: behind, other.address ≠ 0 := by
  intro other member
  rcases List.mem_append.mp member with before | later
  · exact sends.pointers other (List.mem_append_left _ before)
  · rcases List.mem_cons.mp later with rfl | after
    · exact pointer
    · exact sends.pointers other (List.mem_append_right _ after)

/-- A list of nothing else. -/
theorem sendsBack_alone (n : Nat) (announced : UInt32) : SendsBack (n + 1) [] ⟨0, announced, 0⟩ [] where
  short := Nat.le_add_left 1 n
  exist := List.forall_mem_singleton.mpr (Nat.succ_pos n)
  typed := List.forall_mem_singleton.mpr (Nat.two_pow_pos 32)
  pointers := List.forall_mem_nil _
  last := List.forall_mem_nil _

/-- The list waits in the framer as the payload of a frame. -/
structure Waits {inCap : Nat} (rx : Rx inCap) (entries : List CfAddressDef) : Prop where
  ready : rx.rxDataReady = true
  type : rx.rxType = .cfAddr
  payload : rx.input.contents = (HostCommand.address entries).payload

section Received
variable {Q α : Type*} {outCap : Nat}

/-- The command that configures addresses is run for a received list of them. -/
theorem runRx_cfAddr [AgingPriorityQueue Q] (amountOfChannels : Nat) (unpacker : Unpacker α) {self : Controller Q α}
    (pending : self.commandPending = .cfAddr) :
    (self.runRx amountOfChannels unpacker).2.1 = CommandAddr.run amountOfChannels
      (CommandAddr.setAttributes amountOfChannels self.commands.addr
        (CommandAddrParser.conf amountOfChannels unpacker.address)) := by
  rw [Controller.runRx, if_neg (by rw [pending]; decide), if_neg (by rw [pending]; decide), pending]
  rfl

/-- The decoded list is the one the command is configured with. -/
theorem received_addresses {pb : PbDecode α} (reads : pb.ReadsAddresses) {inCap : Nat}
    {entries : List CfAddressDef} (typed : ∀ entry ∈ entries, entry.type < 2 ^ 32)
    {s : Stack Q α inCap outCap} (waits : Waits s.rx entries) :
    let received := Stack.receive pb s
    received.sending.controller.commandPending = .cfAddr ∧ received.unpacker.address = entries := by
  intro received
  have decoded : pb.cfAddr (HostCommand.address entries).payload = .success entries :=
    reads entries entries (NanopbUnpacker.read_addresses typed)
  have said : pb.message s.rx.rxType s.rx.input.contents = (.cfAddr, .address entries) := by
    rw [waits.type, waits.payload]
    exact congrArg (fun d => Decoded.outcome d MessageType.cfAddr Configuration.address) decoded
  have typed_ : s.rx.rxType ≠ .seNone := by
    rw [waits.type]
    decide
  obtain ⟨-, -, command⟩ := Stack.receive_ready pb waits.ready typed_
  rw [said] at command
  unfold Stack.command at command
  split at command
  · cases command
  · have both := Option.some.inj command
    have pending : received.commandPending = .cfAddr := congrArg Prod.fst both
    have configuration := congrArg Prod.snd both
    rw [pending] at configuration
    exact ⟨pending, Configuration.address.inj configuration⟩

end Received

section Return
variable {Q α : Type*} {inCap outCap capacity n : Nat} [AgingPriorityQueue Q] [LT α] [DecidableLT α] [BEq α]
  {overflow : Overflow} {now : UInt32} {memory : Memory α} {pb : PbDecode α}

/-- What the message that waits in the framer does to the scope. -/
def handle (overflow : Overflow) (now : UInt32) (memory : Memory α) (pb : PbDecode α)
    (s : Stack Q α inCap outCap) (scope : Scope capacity n α) : Scope capacity n α :=
  let received := Stack.receive pb s
  let effects := (received.sending.controller.runRx (n + 1) received.unpacker).2.1
  Run.exec (Scope.step overflow) scope (effects.calls.filterMap (ScopeCall.operation now memory))

/-- Whenever the announced value is sent back, the channel it is sent back for polls the address. -/
def ComesBack {width : Nat} (overflow : Overflow) (now : UInt32) (memory : Memory α) (pb : PbDecode α)
    (capacity n : Nat) (s : Stack Q α (NanopbUnpacker.calculateBufferSize (n + 1)) outCap)
    (announced : UInt32) (address : BitVec width) : Prop :=
  ∀ (scope : Scope capacity n α) (front : List CfAddressDef) (entry : CfAddressDef)
    (behind : List CfAddressDef) (rx : Rx (NanopbUnpacker.calculateBufferSize (n + 1))),
    entry.address = announced → SendsBack (n + 1) front entry behind →
      Waits rx (front ++ entry :: behind) → ∀ i : Fin (n + 1), i.val = entry.id.toNat →
        ((handle overflow now memory pb { s with rx } scope).channels i).pollAddress.map Prod.fst =
          some address.toNat

/-- Setting the address of a channel, for an entry of the list. -/
def configures (a : CfAddressDef) : Operation α :=
  .configureChannel a.id.toNat a.address.toNat (DataTypes.ofNumber a.type)

omit [LT α] [DecidableLT α] [BEq α] in
theorem operation_addressCalls (entries : List CfAddressDef) :
    ((Controller.addressCalls entries : List (ScopeCall α)).filterMap (ScopeCall.operation now memory)) =
      entries.map configures := by
  rw [Controller.addressCalls, List.filterMap_map, ← List.filterMap_eq_map]
  rfl

theorem pollAddress_configures (scope : Scope capacity n α) (a : CfAddressDef) (i : Fin (n + 1)) :
    ((scope.step overflow (configures a)).channels i).pollAddress.map Prod.fst =
      if i.val = a.id.toNat then some a.address.toNat
      else (scope.channels i).pollAddress.map Prod.fst := by
  change ((scope.configureChannel _ _ _).channels i).pollAddress.map Prod.fst = _
  unfold Scope.configureChannel
  split
  · rename_i inRange
    by_cases same : i = ⟨a.id.toNat, inRange⟩
    · rw [if_pos (congrArg Fin.val same), same, Scope.modifyChannel_same]
      rfl
    · rw [if_neg fun value => same (Fin.ext value), Scope.modifyChannel_other scope same]
  · rename_i outside
    rw [if_neg]
    exact fun value => outside (value ▸ i.isLt)

theorem pollAddress_others (scope : Scope capacity n α) {entries : List CfAddressDef} {i : Fin (n + 1)}
    (others : ∀ a ∈ entries, i.val ≠ a.id.toNat) :
    ((Run.exec (Scope.step overflow) scope (entries.map configures)).channels i).pollAddress.map Prod.fst =
      (scope.channels i).pollAddress.map Prod.fst := by
  induction entries generalizing scope with
  | nil => rfl
  | cons a entries ih =>
      rw [List.map_cons, Run.exec_cons, ih _ fun b later => others b (List.mem_cons_of_mem a later),
        pollAddress_configures, if_neg (others a List.mem_cons_self)]

/-- The entry is the last for its channel. -/
theorem pollAddress_sentBack (scope : Scope capacity n α) {front behind : List CfAddressDef}
    {entry : CfAddressDef} (last : ∀ other ∈ behind, other.id ≠ entry.id) {i : Fin (n + 1)}
    (place : i.val = entry.id.toNat) :
    ((Run.exec (Scope.step overflow) scope
        ((front ++ entry :: behind).map configures)).channels i).pollAddress.map Prod.fst =
      some entry.address.toNat := by
  have others : ∀ a ∈ behind, i.val ≠ a.id.toNat := by
    intro a member same
    exact last a member (UInt32.toNat_inj.mp (same.symm.trans place))
  rw [List.map_append, List.map_cons, Run.exec_append, Run.exec_cons, pollAddress_others _ others,
    pollAddress_configures, if_pos place]

/-- A list without a null pointer is carried out from the first to the last entry. -/
theorem handle_eq (reads : pb.ReadsAddresses) {entries : List CfAddressDef}
    (short : entries.length ≤ n + 1) (exist : ∀ a ∈ entries, a.id.toNat < n + 1)
    (typed : ∀ a ∈ entries, a.type < 2 ^ 32) (pointers : ∀ a ∈ entries, a.address ≠ 0)
    {s : Stack Q α inCap outCap} (waits : Waits s.rx entries) (scope : Scope capacity n α) :
    handle overflow now memory pb s scope =
      Run.exec (Scope.step overflow) scope (entries.map configures) := by
  obtain ⟨pending, held⟩ := received_addresses reads typed waits
  have length := CommandAddrParser.length_conf_le (n + 1) entries
  have passed : Passed (n + 1) AddrEntry.changedChannel CommandAddr.legal
      (CommandAddrParser.conf (n + 1) entries) := by
    rw [CommandAddrParser.conf_of_short short]
    intro e member
    obtain ⟨a, here, rfl⟩ := List.mem_map.mp member
    exact ⟨Nat.le_of_lt (exist a here), decide_eq_true (pointers a here)⟩
  have all : ∀ e ∈ CommandAddrParser.conf (n + 1) entries, e.changedChannel.toNat < n + 1 := by
    rw [CommandAddrParser.conf_of_short short]
    intro e member
    obtain ⟨a, here, rfl⟩ := List.mem_map.mp member
    exact exist a here
  unfold handle
  dsimp only
  rw [runRx_cfAddr (n + 1) _ pending, held, CommandAddr.setAttributes, setAttributes_of_passed length passed,
    CommandAddr.run, runChannelList_of_exist all, ← Controller.addressCalls_eq short,
    operation_addressCalls]

/-- No channel polls an address of more than 32 bits. -/
def Narrow (scope : Scope capacity n α) : Prop :=
  ∀ (i : Fin (n + 1)) (address : Nat),
    (scope.channels i).pollAddress.map Prod.fst = some address → address < 2 ^ 32

theorem narrow_configures {scope : Scope capacity n α} (narrow : Narrow scope) (a : CfAddressDef) :
    Narrow (scope.step overflow (configures a)) := by
  intro i address polled
  rw [pollAddress_configures] at polled
  split at polled
  · obtain rfl := Option.some.inj polled
    exact a.address.toNat_lt
  · exact narrow i address polled

theorem narrow_run {scope : Scope capacity n α} (narrow : Narrow scope) (amountOfChannels : Nat)
    (config : List AddrEntry) : Narrow (Run.exec (Scope.step overflow) scope
      ((CommandAddr.run amountOfChannels config).calls.filterMap (ScopeCall.operation now memory))) := by
  induction config generalizing scope with
  | nil => exact narrow
  | cons e es ih =>
      unfold CommandAddr.run runChannelList
      split
      · exact narrow
      · exact ih (narrow_configures narrow ⟨e.changedChannel, e.newAddress, e.type⟩)

/-- Whatever the command object still holds from before, no pointer gets wider than what
the host can send. -/
theorem narrow_handle (reads : pb.ReadsAddresses) {entries : List CfAddressDef}
    (typed : ∀ a ∈ entries, a.type < 2 ^ 32)
    {s : Stack Q α inCap outCap} (waits : Waits s.rx entries) {scope : Scope capacity n α}
    (narrow : Narrow scope) : Narrow (handle overflow now memory pb s scope) := by
  obtain ⟨pending, -⟩ := received_addresses reads typed waits
  unfold handle
  dsimp only
  rw [runRx_cfAddr (n + 1) _ pending]
  exact narrow_run narrow (n + 1) _

/-- The payload for a single channel fits the input buffer of the smallest scope. -/
theorem exists_waits (n : Nat) (address : UInt32) :
    ∃ rx : Rx (NanopbUnpacker.calculateBufferSize (n + 1)), Waits rx [⟨0, address, 0⟩] := by
  have size : (HostCommand.address [⟨0, address, 0⟩]).payload.length ≤ 1 * (12 + 2) := by
    apply HostCommand.length_entries_le (by decide)
    intro entry member
    obtain rfl := List.mem_singleton.mp member
    exact HostCommand.length_addressFields_le (Nat.two_pow_pos 20) (Nat.zero_le 6)
  have room := NanopbUnpacker.calculateBufferSize_eq_max (n + 1)
  have fits : (HostCommand.address [⟨0, address, 0⟩]).payload.length ≤
      NanopbUnpacker.calculateBufferSize (n + 1) := by omega
  exact ⟨waiting ⟨_, fits⟩ true .cfAddr, rfl, rfl, rfl⟩

/-- An address comes back whole exactly if what is announced of it is all of it. -/
theorem comesBack_iff [Zero α] {width : Nat} (reads : pb.ReadsAddresses)
    (s : Stack Q α (NanopbUnpacker.calculateBufferSize (n + 1)) outCap) {announced : UInt32}
    {address : BitVec width} (pointer : address ≠ 0)
    (low : announced.toNat = address.toNat % 2 ^ 32) :
    ComesBack overflow now memory pb capacity n s announced address ↔ address.toNat < 2 ^ 32 := by
  constructor
  · intro comesBack
    obtain ⟨rx, waits⟩ := exists_waits n announced
    have sends := sendsBack_alone n announced
    have created : Narrow (Scope.create : Scope capacity n α) := nofun
    have narrow : Narrow (handle overflow now memory pb { s with rx } (.create : Scope capacity n α)) :=
      narrow_handle reads sends.typed waits created
    exact narrow 0 address.toNat (comesBack .create [] _ [] rx rfl sends waits 0 rfl)
  · intro small scope front entry behind rx same sends waits i place
    have whole : entry.address.toNat = address.toNat := by
      rw [same, low, Nat.mod_eq_of_lt small]
    have notNull : entry.address ≠ 0 := by
      intro null
      rw [null] at whole
      exact pointer (BitVec.eq_of_toNat_eq whole.symm)
    rw [handle_eq reads sends.short sends.exist sends.typed (sends.all_pointers notNull) waits,
      pollAddress_sentBack scope sends.last place, whole]

end Return

section Run

/-- nanopb for a target that is only sent lists of addresses. -/
def addressesOnly : PbDecode Int where
  evPoll bytes := .failure bytes.length 0
  cfRunning bytes := .failure bytes.length []
  cfTrigger bytes := .failure bytes.length ⟨0, false, 0, 0⟩
  cfTInc bytes := .failure bytes.length 0
  cfAddr bytes := match Protobuf.readMessage NanopbUnpacker.mergeAddresses [] bytes with
    | some channels => .success channels
    | none => .failure bytes.length []

theorem reads_addressesOnly : addressesOnly.ReadsAddresses := by
  intro entries channels read
  unfold addressesOnly
  dsimp only
  rw [read]

def idle : Stack (List MessageType) Int (NanopbUnpacker.calculateBufferSize (0 + 1)) 8 :=
  .create ⟨0, [], [], ⟨0, false, 0, 0⟩, 0⟩ [] ⟨2, 3, 4⟩

def speed : CString := ⟨[115], by decide⟩

def noMeta : ScAnnounceMetaData := ⟨0, 0, .empty⟩

/-- The announcement of a single address. -/
def single (address : UInt32) : ScAnnouncementData :=
  ⟨⟨1, 0, seScopeTargetVersion⟩, [⟨0, speed, .seFloat, address⟩]⟩

/-- A build for 64 bits stores one address. -/
def stores (address : BitVec 64) : List (StorageCall 64) := [.addAnnounceAddress ⟨speed, address, .seFloat⟩]

end Run

end Builders
