import Mathlib.Data.List.Basic
import Mathlib.Data.UInt

/-! Shared enumerations and records of the scope. -/

/-- A message type is one byte on the wire. The receiver casts whatever byte it
is sent, so values without a name occur as well. -/
structure MessageType where
  code : UInt8
  deriving DecidableEq, Repr

namespace MessageType

def seNone : MessageType := ⟨0⟩
def seNak : MessageType := ⟨1⟩
def seAck : MessageType := ⟨2⟩
def scData : MessageType := ⟨50⟩
def scAnnounce : MessageType := ⟨51⟩
def scDetect : MessageType := ⟨52⟩
def scStream : MessageType := ⟨53⟩
def scLog : MessageType := ⟨54⟩
def evAnnounce : MessageType := ⟨100⟩
def evClear : MessageType := ⟨101⟩
def evPoll : MessageType := ⟨102⟩
def evTrans : MessageType := ⟨103⟩
def evDetect : MessageType := ⟨104⟩
def cfRunning : MessageType := ⟨105⟩
def cfTrigger : MessageType := ⟨106⟩
def cfTInc : MessageType := ⟨107⟩
def cfAddr : MessageType := ⟨108⟩

end MessageType
