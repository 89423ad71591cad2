import Msp430.Clock.Dco
import Msp430.Timer.Capture

/-!
Tuning the DCO to a rate that no calibration gives. MCLK is measured against ACLK with a capture
channel, and the DCO is moved one notch at a time until the measurement is exact.
-/
namespace Msp430

variable {σ : Type}

structure TuningChannel (σ : Type) where
  timer : TimerPort σ
  channel : Nat
  input : CaptureInput

inductive TuneError where
  | clock (error : ClockError)
  | outOfRange
  | notConverged
  deriving DecidableEq, Repr

inductive Nudge where
  | slower
  | faster
  deriving DecidableEq, Repr

namespace DcoSetting

def range (s : DcoSetting) : UInt8 := s.bcsctl1 &&& ClockField.dcoRange

/-- The next notch, or none at the end of the scale. The range moves when the other byte wraps. -/
def nudge? (s : DcoSetting) : Nudge → Option DcoSetting
  | .slower =>
    if s.dcoctl ≠ 0 then some { s with dcoctl := s.dcoctl - 1 }
    else if s.range ≠ 0 then
      some ⟨0xFF, replaceBits ClockField.dcoRange (s.range - 1) s.bcsctl1⟩
    else none
  | .faster =>
    if s.dcoctl ≠ 0xFF then some { s with dcoctl := s.dcoctl + 1 }
    else if s.range ≠ ClockField.dcoRange then
      some ⟨0, replaceBits ClockField.dcoRange (s.range + 1) s.bcsctl1⟩
    else none

end DcoSetting

namespace ClockSystem

variable (c : ClockSystem σ)

def tuningPeriods : Nat := 10

/-- More than the notches of the whole scale are never tried. -/
def tuningSteps : Nat := 16 * 256

def readDco : Run σ DcoSetting := return ⟨← c.port.read .dcoctl, ← c.port.read .bcsctl1⟩

def nudgeDco (direction : Nudge) : Run σ Bool := do
  let old ← c.readDco
  match old.nudge? direction with
  | none => return false
  | some new =>
    c.port.write .dcoctl new.dcoctl
    if new.bcsctl1 ≠ old.bcsctl1 then
      c.port.write .bcsctl1 new.bcsctl1
    return true

/-- The timer counts during one measurement at `hz`, where they fit the timer. -/
def expectedCount (hz aclkHz : UInt32) : Option UInt16 :=
  if aclkHz = 0 then none
  else
    let count := tuningPeriods * hz.toNat / aclkHz.toNat
    if count < 0x10000 then some count.toUInt16 else none

/-- Measures and moves at most the given number of times, and ends when a measurement is exact. -/
def seek (via : TuningChannel σ) (hz : UInt32) (expected : UInt16) :
    Nat → ExceptT TuneError (Run σ) Unit
  | 0 => throw .notConverged
  | n + 1 => do
    let measured ← via.timer.captureSpan via.channel .falling via.input tuningPeriods
    if measured = expected then
      c.configuredHz.write hz
    else
      unless ← c.nudgeDco (if measured > expected then .slower else .faster) do
        throw .notConverged
      seek via hz expected n

/-- ACLK becomes the reference at its present divider, and SMCLK is made to follow MCLK. -/
def tuneDco (via : TuningChannel σ) (hz : UInt32) : ExceptT TuneError (Run σ) Unit := do
  let shift := ClockField.aclkDivider.extract (← c.port.read .bcsctl1)
  ExceptT.adapt .clock (c.configureAclk .xt1OrVlo shift)
  match expectedCount hz (← c.aclkHz) with
  | none => throw .outOfRange
  | some expected =>
    via.timer.writeControl ((TimerSource.smclk.code <<< TimerControl.source.shift) |||
      TimerControl.continuous ||| TimerControl.clear)
    c.port.change .bcsctl2 <| clearBits (ClockField.mclkSelect.mask |||
      ClockField.mclkDivider.mask ||| ClockField.smclkSelect ||| ClockField.smclkDivider.mask)
    c.seek via hz expected tuningSteps

/-- Tunes MCLK to a rate. The selectors and dividers return to what they were, the timer is left
stopped, and a failure puts the DCO back too. -/
def tuneMclk (via : TuningChannel σ) (hz : UInt32) : Run σ (Except TuneError Unit) := do
  unless via.channel < via.timer.channels do
    return .error .outOfRange
  let setting ← c.readDco
  let bcsctl2 ← c.port.read .bcsctl2
  let bcsctl3 ← c.port.read .bcsctl3
  let result ← (c.tuneDco via hz).run
  via.timer.writeControl 0
  if result matches .error _ then
    c.writeDco setting
  c.port.write .bcsctl2 bcsctl2
  c.port.write .bcsctl3 bcsctl3
  return result

/-- Starts from the nearest candidate and tunes from there. Where tuning fails MCLK stays at the
candidate; the power-up rate is not tuned. -/
def configureMclkTuned (cpu : Cpu σ) (via : TuningChannel σ) (target : UInt32) :
    Run σ UInt32 := do
  c.programDco target
  unless target = 0 do
    discard (c.tuneMclk via target)
  c.awaitOscillators cpu
  c.configuredHz.read

end ClockSystem

end Msp430
