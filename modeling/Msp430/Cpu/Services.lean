import Msp430.Cpu.LowPower
import Msp430.Machine.Run

/-!
What the drivers need from the processor while they wait.
-/
namespace Msp430

variable {σ : Type}

/-- `sleep` enters a low power mode with interrupts enabled and returns with interrupts disabled
once something wakes the processor. -/
structure Cpu (σ : Type) where
  feedWatchdog : Run σ Unit
  delayCycles : UInt32 → Run σ Unit
  sleep : LowPowerMode → Run σ Unit

/-- A processor whose waiting leaves no mark on the state: only the watchdog is told. -/
def Cpu.idle (feed : Run σ Unit) : Cpu σ where
  feedWatchdog := feed
  delayCycles _ := return ()
  sleep _ := return ()

/-- One request to the processor. -/
inductive CpuCall where
  | feed
  | delay (cycles : UInt32)
  | sleep (mode : LowPowerMode)
  deriving DecidableEq, Repr

def Cpu.serve (cpu : Cpu σ) : CpuCall → Run σ Unit
  | .feed => cpu.feedWatchdog
  | .delay cycles => cpu.delayCycles cycles
  | .sleep mode => cpu.sleep mode

end Msp430
