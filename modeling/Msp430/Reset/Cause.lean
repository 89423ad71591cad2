import Msp430.Machine.Run

/-!
Why the device was reset. A register queues every cause: each read takes the most urgent one, and
zero means that none is left. A table of the device family gives the values their meaning.
-/
namespace Msp430

variable {σ : Type}

structure ResetVector where
  value : UInt16
  description : String
  severe : Bool
  deriving DecidableEq, Repr

abbrev ResetTable := List ResetVector

namespace ResetTable

/-- The first row with the value counts. -/
def lookup (table : ResetTable) (value : UInt16) : Option ResetVector :=
  table.find? fun row => row.value = value

def describe (table : ResetTable) (value : UInt16) : String :=
  (table.lookup value).elim "?" ResetVector.description

def isSevere (table : ResetTable) (value : UInt16) : Bool :=
  (table.lookup value).any ResetVector.severe

end ResetTable

structure ResetCause where
  value : UInt16
  brownout : Bool
  description : String
  deriving DecidableEq, Repr

/-- The pending causes, the most urgent first. -/
structure ResetCauses (σ : Type) where
  register : Run σ UInt16
  table : ResetTable
  drained : Bool := false

namespace ResetCauses

/-- Takes the next cause. After the first zero the register is left alone. -/
def next (causes : ResetCauses σ) : Run σ (Option ResetCause × ResetCauses σ) := do
  if causes.drained then
    return (none, causes)
  let value ← causes.register
  if value = 0 then
    return (none, { causes with drained := true })
  return (some ⟨value, causes.table.isSevere value, causes.table.describe value⟩, causes)

def take (causes : ResetCauses σ) : Nat → Run σ (List (Option ResetCause))
  | 0 => return []
  | n + 1 => do
    let (cause, causes) ← causes.next
    return cause :: (← causes.take n)

end ResetCauses

/-- A register that holds the causes still to be read, and zeros behind them. -/
def resetQueue : Run (List UInt16) UInt16 :=
  modifyGet fun pending => (pending.headD 0, pending.tail)

end Msp430
