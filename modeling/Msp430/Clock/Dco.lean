import Msp430.Clock.System
import Msp430.Cpu.Services

/-!
Running MCLK from the DCO at the known setting that is nearest to a target.
-/
namespace Msp430

variable {σ : Type}

def distance (a b : UInt32) : Nat := (a.toNat - b.toNat) + (b.toNat - a.toNat)

/-- A DCO setting and the rate that it is known to give. -/
structure DcoCandidate where
  setting : DcoSetting
  hz : UInt32
  deriving DecidableEq, Repr

namespace DcoCandidate

/-- A later candidate has to be nearer to the target to be taken. -/
def nearest (target : UInt32) (best : DcoCandidate) : List DcoCandidate → DcoCandidate
  | [] => best
  | candidate :: rest =>
    nearest target
      (if distance candidate.hz target < distance best.hz target then candidate else best) rest

end DcoCandidate

namespace ClockCapabilities

def powerUpCandidate (caps : ClockCapabilities) : DcoCandidate := ⟨.powerUp, caps.powerUpHz⟩

def calibrated (caps : ClockCapabilities) : List DcoCandidate :=
  CalibratedRate.slowestFirst.filterMap fun rate =>
    (caps.calibration rate).map fun setting => ⟨setting, rate.hz⟩

/-- A target of zero stands for the power-up rate. -/
def candidateFor (caps : ClockCapabilities) (target : UInt32) : DcoCandidate :=
  .nearest (if target = 0 then caps.powerUpHz else target) caps.powerUpCandidate caps.calibrated

end ClockCapabilities

namespace ClockSystem

variable (c : ClockSystem σ) (cpu : Cpu σ)

/-- The range changes only while the tap and modulator are zero, so that no mixture of two settings
ever runs. -/
def writeDco (setting : DcoSetting) : Run σ Unit := do
  c.port.write .dcoctl 0
  c.port.write .bcsctl1 setting.bcsctl1
  c.port.write .dcoctl setting.dcoctl

def programDco (target : UInt32) : Run σ Unit := do
  let best := c.caps.candidateFor target
  c.writeDco best.setting
  c.port.change .bcsctl2 (clearBits (ClockField.mclkSelect.mask ||| ClockField.mclkDivider.mask))
  c.configuredHz.write best.hz

/-- Cycles of the fastest possible MCLK in a microsecond. -/
def cyclesPerMicro : UInt32 := 32

/-- The fault flag cannot be cleared while an oscillator settles, so this waits for as long as it
takes. -/
def awaitOscillators : Run σ Unit :=
  Run.poll do
    c.port.clearFault
    cpu.feedWatchdog
    cpu.delayCycles (cyclesPerMicro * c.caps.recheckMicros)
    return !(← c.port.faultFlag)

def configureMclk (target : UInt32) : Run σ UInt32 := do
  c.programDco target
  c.awaitOscillators cpu
  c.configuredHz.read

end ClockSystem

end Msp430
