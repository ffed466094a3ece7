import ScopeTarget.Base.Fifo
import ScopeTarget.Serialisation.LogMessage

/-! Packing a log message: a piece of the log stream is cut off and handed to the
packer as a string. -/

namespace Control
open Serialisation

namespace CommandPackLog
variable {capacity : Nat}

def maxMessageLength : Nat := 50

/-- One byte is left for the end of the string, and one is not used. -/
def amount (logStream : Fifo capacity UInt8) : Nat :=
  if logStream.used > maxMessageLength - 2 then maxMessageLength - 2 else logStream.used

/-- `memory` is what the message structure on the stack holds before it is written. -/
def run (memory : CharArray 50) (logStream : Fifo capacity UInt8) :
    ScLogDataDef × Fifo capacity UInt8 :=
  let msg := logStream.read (amount logStream)
  (⟨memory.overwrite (msg.1 ++ [0])⟩, msg.2)

/-- What is cut off. -/
def chunk (logStream : Fifo capacity UInt8) : List UInt8 := logStream.contents.take 48

theorem amount_eq_min (logStream : Fifo capacity UInt8) : amount logStream = min logStream.used 48 := by
  unfold amount maxMessageLength
  split <;> omega

theorem length_chunk_le (logStream : Fifo capacity UInt8) : (chunk logStream).length ≤ 48 := by
  rw [chunk, List.length_take]
  exact Nat.min_le_left _ _

theorem contents_run (memory : CharArray 50) (logStream : Fifo capacity UInt8) :
    chunk logStream ++ (run memory logStream).2.contents = logStream.contents := by
  obtain ⟨-, left⟩ := logStream.read_min 48
  rw [run, amount_eq_min]
  dsimp only
  rw [left]
  exact List.take_append_drop 48 logStream.contents

theorem message_run (memory : CharArray 50) (logStream : Fifo capacity UInt8) :
    (run memory logStream).1.message = memory.overwrite (chunk logStream ++ [0]) := by
  obtain ⟨taken, -⟩ := logStream.read_min 48
  rw [run, amount_eq_min]
  dsimp only
  rw [taken]
  rfl

/-- The packer is given what stands in front of the first zero of the piece. -/
theorem read_run (memory : CharArray 50) (logStream : Fifo capacity UInt8) :
    (run memory logStream).1.message.read = some (CString.upToNul (chunk logStream)) := by
  have short := length_chunk_le logStream
  have room : (chunk logStream ++ [0]).length ≤ 50 := by
    rw [List.length_append]
    exact Nat.le_succ_of_le (Nat.succ_le_succ short)
  have bytes := (congrArg CharArray.bytes (message_run memory logStream)).trans
    (CharArray.bytes_overwrite room)
  rw [List.append_assoc] at bytes
  exact CharArray.read_of_zero bytes

theorem length_upToNul_chunk_le (logStream : Fifo capacity UInt8) :
    (CString.upToNul (chunk logStream)).length ≤ 48 :=
  Nat.le_trans (CString.length_upToNul_le _) (length_chunk_le logStream)

end CommandPackLog

end Control
