import ScopeTarget.Serialisation.Announcement

/-! The SC_LOG message: a string that is copied into the structure of the message. -/

namespace Serialisation
open Protobuf

structure ScLogDataDef where
  message : CharArray 50
  deriving DecidableEq, Repr

/-- `PB_SC_Log` as a protobuf reader finds it. -/
structure ScLog where
  message : List UInt8
  deriving DecidableEq, Repr

namespace ScLog

def zero : ScLog := ⟨[]⟩

/-- `PB_SC_Log_FIELDLIST` -/
def merge (l : ScLog) (f : Field) : Option ScLog :=
  match f.number, f.value with
  | 1, .len bytes => some ⟨bytes⟩
  | 1, _ => none
  | _, _ => some l

def decode (bytes : List UInt8) : Option ScLog := readMessage merge zero bytes

end ScLog

namespace NanopbPacker

/-- `strcpy` reads on behind an array in which no string ends; nothing is said of what it finds. -/
def packScLog (logData : ScLogDataDef) : List UInt8 :=
  (logData.message.read.bind fun message =>
    encodeString 1 ((CharArray.zero : CharArray 300).strcpy message)).getD []

variable {logData : ScLogDataDef} {message : CString}

theorem packScLog_eq (held : logData.message.read = some message) :
    packScLog logData = encodeFields (stringFields 1 message.bytes) := by
  have short : message.length < 300 :=
    Nat.lt_trans (CharArray.length_of_read held) (by decide)
  have copied := encodeString_eq 1 ((CharArray.zero : CharArray 300).read_strcpy short)
  rw [packScLog, held, Option.bind_some, copied, Option.getD_some]

theorem decode_packScLog (held : logData.message.read = some message) :
    ScLog.decode (packScLog logData) = some ⟨message.bytes⟩ := by
  rw [packScLog_eq held, ScLog.decode, readMessage_encodeFields]
  exact foldlM_stringFields ScLog.mk message.bytes rfl fun n => rfl

theorem length_packScLog_le {n : Nat} (held : logData.message.read = some message)
    (short : message.length ≤ n) (bound : n < 128) : (packScLog logData).length ≤ n + 2 := by
  rw [packScLog_eq held]
  exact length_stringFields_le (by decide) short bound

end NanopbPacker

end Serialisation
