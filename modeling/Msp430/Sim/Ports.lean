import Msp430.Clock.Registers
import Msp430.Machine.Cell
import Msp430.Sim.Timer

/-!
Simulated hardware as ports of the drivers, wherever in a larger state it is kept. Every access that
could be seen from outside is noted.
-/
namespace Msp430

variable {σ : Type}

inductive ClockAccess where
  | write (register : ClockRegister) (bits : UInt8)
  | clearFault
  deriving DecidableEq, Repr

inductive TimerAccess where
  | control (bits : UInt16)
  | count (count : UInt16)
  | channel (i : Nat) (bits : UInt16)
  | compare (i : Nat) (count : UInt16)
  | vector (vector : UInt16)
  deriving DecidableEq, Repr

namespace ClockModule

def port (here : Cell σ ClockModule) (note : ClockAccess → Run σ Unit) : ClockPort σ where
  read r := return (← here.read).read r
  write r bits := do
    note (.write r bits)
    here.update (·.write r bits)
  faultFlag := return (← here.read).faultFlag
  clearFault := do
    note .clearFault
    here.update ClockModule.clearFault

end ClockModule

namespace SimTimer

/-- Captures look at the clock module for the setting of the DCO. -/
def port {c : Nat} (here : Cell σ (SimTimer c)) (clock : Run σ ClockModule)
    (note : TimerAccess → Run σ Unit) : TimerPort σ where
  channels := c
  readControl := return (← here.read).control
  writeControl bits := do
    note (.control bits)
    here.update (·.writeControl bits)
  readCount := here.change SimTimer.readCount
  writeCount count := do
    note (.count count)
    here.update (·.writeCount count)
  readChannel i := do
    let clock ← clock
    here.change (·.readChannel clock i)
  writeChannel i bits := do
    note (.channel i bits)
    here.update (·.writeChannel i bits)
  readCompare i := return (← here.read).readCompare i
  writeCompare i count := do
    note (.compare i count)
    here.update (·.writeCompare i count)
  readVector := do
    let vector ← here.change SimTimer.readVector
    note (.vector vector)
    return vector

end SimTimer

end Msp430
