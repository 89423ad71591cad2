import Msp430.Clock.Capabilities
import Msp430.Clock.Rates
import Msp430.Machine.Cell

/-!
The clock system: which oscillator drives ACLK, SMCLK and MCLK, at what rate, and how ACLK and SMCLK
are chosen. The rate of the DCO cannot be read back from its registers, so the system remembers what
MCLK was last set to.
-/
namespace Msp430

variable {σ : Type}

/-- Oscillators that a clock can be asked to run from or can be found on. -/
inductive ClockSource where
  | off
  | xt1
  | vlo
  | refo
  | dco
  | dcoDivided
  | xt2
  /-- The crystal, or VLO once the crystal is faulted. -/
  | xt1WithFallback
  /-- The crystal if it is running and VLO otherwise. -/
  | xt1OrVlo
  | xt1OrRefo
  | unknown
  deriving DecidableEq, Repr

inductive ClockError where
  | unsupportedSource
  deriving DecidableEq, Repr

structure ClockSystem (σ : Type) where
  port : ClockPort σ
  caps : ClockCapabilities
  /-- The undivided rate of MCLK that was last programmed or reached by tuning. -/
  configuredHz : Cell σ UInt32

namespace ClockSystem

variable (c : ClockSystem σ)

/-- Takes the clock module as power-up leaves it. -/
def assumePowerUp : Run σ Unit := c.configuredHz.write c.caps.powerUpHz

/-! ## Where the clocks come from -/

def aclkSource : Run σ ClockSource := do
  return match ← c.port.lfxt1Mode with
    | .crystal => .xt1
    | .reserved => .unknown
    | .vlo => .vlo
    | .external => .xt2

def smclkSource : Run σ ClockSource :=
  return if anyBits ClockField.smclkSelect (← c.port.read .bcsctl2) then .xt2 else .dco

def mclkSourceOf (bcsctl2 : UInt8) : ClockSource :=
  if ClockField.mclkSelect.extract bcsctl2 < 2 then .dco
  else if ClockField.mclkSelect.extract bcsctl2 = 2 then .xt2
  else .xt1

def mclkSource : Run σ ClockSource := return mclkSourceOf (← c.port.read .bcsctl2)

/-! ## How fast they run -/

def lfxt1Hz : Run σ UInt32 := do
  if (← c.port.lfxt1Mode) = .vlo then
    return c.caps.vloHz
  return if ← c.port.lfxt1Faulted then c.caps.vloHz else c.caps.xt1Hz

/-- Without XT2 its selector falls through to LFXT1. -/
def xt2Hz : Run σ UInt32 :=
  match c.caps.xt2Hz with
  | some hz => pure hz
  | none => c.lfxt1Hz

def aclkHz : Run σ UInt32 := do
  let shift := ClockField.aclkDivider.extract (← c.port.read .bcsctl1)
  return (← c.lfxt1Hz) >>> shift.toUInt32

def smclkHz : Run σ UInt32 := do
  let bcsctl2 ← c.port.read .bcsctl2
  let hz ← if anyBits ClockField.smclkSelect bcsctl2 then c.xt2Hz else c.configuredHz.read
  return hz >>> (ClockField.smclkDivider.extract bcsctl2).toUInt32

def mclkHz : Run σ UInt32 := do
  let bcsctl2 ← c.port.read .bcsctl2
  let hz ← match mclkSourceOf bcsctl2 with
    | .dco => c.configuredHz.read
    | .xt2 => c.xt2Hz
    | _ => c.lfxt1Hz
  return hz >>> (ClockField.mclkDivider.extract bcsctl2).toUInt32

def rates : Rates σ := ⟨c.aclkHz, c.smclkHz, c.mclkHz⟩

/-! ## Choosing ACLK and SMCLK -/

/-- The mode of LFXT1 that serves a source, if ACLK can run from it. A crystal that has fallen back
to VLO stays there. -/
def lfxt1ModeFor (source : ClockSource) : ExceptT ClockError (Run σ) Lfxt1Mode := do
  match source with
  | .xt1 => return .crystal
  | .vlo => return .vlo
  | .xt1WithFallback | .xt1OrVlo =>
    if (← c.port.lfxt1Mode) = .vlo then
      return .vlo
    return if ← c.port.lfxt1Faulted then .vlo else .crystal
  | _ => throw .unsupportedSource

def configureAclk (source : ClockSource) (shift : UInt8) : ExceptT ClockError (Run σ) Unit := do
  let mode ← c.lfxt1ModeFor source
  c.port.change .bcsctl1 (ClockField.aclkDivider.insert shift)
  c.port.change .bcsctl3 fun bits =>
    clearBits ClockField.lfxt1Fault (ClockField.lfxt1Mode.insert mode.code bits)

/-- XT2 serves only where the device has it; every other request chooses the DCO. -/
def configureSmclk (source : ClockSource) (shift : UInt8) : Run σ Unit := do
  let select := if source = .xt2 ∧ c.caps.xt2Hz.isSome then ClockField.smclkSelect else 0
  c.port.change .bcsctl2 <|
    replaceBits (ClockField.smclkSelect ||| ClockField.smclkDivider.mask)
      (select ||| (shift <<< ClockField.smclkDivider.shift))

end ClockSystem

end Msp430
