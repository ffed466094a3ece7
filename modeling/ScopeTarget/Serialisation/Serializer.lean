import ScopeTarget.Base.Fifo
import ScopeTarget.Core.ScopeTypes

/-! The serializer between the framer and the controller: one slot for a message
to be unpacked, one for a message to be packed. -/

namespace Serialisation

structure Serializer where
  unpackingPending : MessageType
  packingPending : MessageType
  deriving DecidableEq, Repr

/-- What the encoder of a message got into the output buffer. -/
structure Written (cap : Nat) where
  bytes : List UInt8
  fits : bytes.length ≤ cap

namespace NanopbPacker

/-- The messages that have a payload. -/
def hasPayload (type : MessageType) : Bool :=
  type = .scData ∨ type = .scAnnounce ∨ type = .scLog

def pack {cap : Nat} (written : Written cap) (output : Fifo cap UInt8) (type : MessageType) :
    Fifo cap UInt8 :=
  if output.used ≠ 0 then output
  else if hasPayload type then output.write written.bytes
  else output

/-- The payload the packer makes for a message. -/
def payload {cap : Nat} (written : Written cap) (type : MessageType) : List UInt8 :=
  if hasPayload type then written.bytes else []

theorem pack_empty {cap : Nat} (written : Written cap) (type : MessageType) :
    pack written .empty type = Fifo.empty.write (payload written type) := by
  unfold pack payload
  rw [if_neg (by exact fun used => used rfl)]
  split
  · rfl
  · rw [Fifo.write_nil]

theorem payload_length {cap : Nat} (written : Written cap) (type : MessageType) :
    (payload written type).length ≤ cap := by
  unfold payload
  split
  · exact written.fits
  · exact Nat.zero_le cap

end NanopbPacker

namespace Serializer

def create : Serializer := ⟨.seNone, .seNone⟩

/-- Only these messages are decoded. -/
def getUnpacker (type : MessageType) : Bool :=
  type = .evPoll ∨ type = .cfAddr ∨ type = .cfRunning ∨ type = .cfTInc ∨ type = .cfTrigger

def updateUnpacker (self : Serializer) (state : MessageType) : Serializer :=
  { self with unpackingPending := state }

def updatePacker (self : Serializer) (state : MessageType) : Serializer :=
  { self with packingPending := state }

/-- `υ` is the unpacker with its input; what the controller is told comes first. -/
def runRx {υ : Type*} (unpack : υ → MessageType → Bool × υ) (self : Serializer) (unpacker : υ) :
    Option MessageType × Serializer × υ :=
  if self.unpackingPending = .seNone then (none, self, unpacker)
  else
    let parsed :=
      if getUnpacker self.unpackingPending then unpack unpacker self.unpackingPending
      else (true, unpacker)
    (some (if parsed.1 then self.unpackingPending else .seNak),
      { self with unpackingPending := .seNone }, parsed.2)

/-- What the framer is told comes first. -/
def runTx {cap : Nat} (written : Written cap) (self : Serializer) (output : Fifo cap UInt8) :
    Option MessageType × Serializer × Fifo cap UInt8 :=
  if self.packingPending = .seNone then (none, self, output)
  else (some self.packingPending, { self with packingPending := .seNone },
    NanopbPacker.pack written output self.packingPending)

def isReady {cap : Nat} (self : Serializer) (output : Fifo cap UInt8) : Bool :=
  self.packingPending = .seNone ∧ output.used = 0

end Serializer

end Serialisation
