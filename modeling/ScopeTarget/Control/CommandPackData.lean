import ScopeTarget.Core.Scope
import Mathlib.Data.List.FinRange

/-! Packing a data set: every channel with a full swap buffer, the stamps, the
time increment and the trigger values. The packer reads the buffers empty. -/

namespace Control
open Core

structure DataSet (α : Type*) where
  channels : List (Nat × List α)
  trigger : TriggeredValues
  timestamps : List UInt32
  timeIncrement : UInt32

namespace CommandPackData
variable {capacity n : Nat} {α : Type*}

def channelsToPack (s : Scope capacity n α) : List (Fin (n + 1)) :=
  (List.finRange (n + 1)).filter fun i => s.channelHasToBePacked i

def dataSet (s : Scope capacity n α) : DataSet α where
  channels := (channelsToPack s).map fun i => (i.val, (s.channels i).swapBuffer.contents)
  trigger := s.getTriggerData
  timestamps := s.timestamper.swapBuffer.contents
  timeIncrement := s.timestamper.timeIncrement

/-- The scope after the packer has read the buffers it was given. -/
def drain (s : Scope capacity n α) : Scope capacity n α :=
  { s with trigger := { s.trigger with
      channels := fun i =>
        if s.channelHasToBePacked i = true then (s.channels i).drained else s.channels i
      timestamper := s.timestamper.drained } }

def run (s : Scope capacity n α) : Option (DataSet α) × Scope capacity n α :=
  if channelsToPack s = [] then (none, s) else (some (dataSet s), drain s)

theorem mem_channelsToPack {s : Scope capacity n α} {i : Fin (n + 1)} :
    i ∈ channelsToPack s ↔ (s.channels i).swapBuffer.Full := by
  rw [channelsToPack, List.mem_filter, s.channelHasToBePacked_iff]
  exact ⟨fun h => h.2, fun h => ⟨List.mem_finRange i, h⟩⟩

theorem state_drain (s : Scope capacity n α) (i : Fin (n + 1)) :
    ((drain s).channels i).state = (s.channels i).state := by
  dsimp only [drain, Scope.channels]
  split <;> rfl

theorem pollBuffer_drain (s : Scope capacity n α) (i : Fin (n + 1)) :
    ((drain s).channels i).pollBuffer = (s.channels i).pollBuffer := by
  dsimp only [drain, Scope.channels]
  split <;> rfl

@[elab_as_elim]
theorem run_cases {motive : Scope capacity n α → Prop} (s : Scope capacity n α)
    (nothing : channelsToPack s = [] → motive s) (drains : motive (drain s)) : motive (run s).2 := by
  unfold run
  split
  · rename_i none_
    exact nothing none_
  · exact drains

end CommandPackData

end Control
