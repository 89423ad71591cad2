import Msp430.Clock.System
import Msp430.Cpu.Services
import Msp430.Pins.Routing

/-!
Bringing up the crystal of LFXT1: rounds of settling and checking, and the way back to VLO when the
crystal does not start.
-/
namespace Msp430

variable {σ : Type}

/-- How many rounds of settling and checking a crystal gets. -/
inductive RetryBudget where
  | rounds (n : Nat)
  | unlimited
  deriving DecidableEq, Repr

namespace RetryBudget

/-- A negative number of rounds has no end. -/
def ofInt (n : Int) : RetryBudget := if n < 0 then .unlimited else .rounds n.toNat

def toInt : RetryBudget → Int
  | .rounds n => n
  | .unlimited => -1

def most : Nat := 32767

end RetryBudget

namespace ClockSystem

variable (c : ClockSystem σ) (cpu : Cpu σ) (pins : PinRouter σ)

def settle : Run σ Bool := do
  cpu.feedWatchdog
  cpu.delayCycles c.caps.settleCycles
  return !(← c.port.lfxt1Faulted)

def startCrystal (budget : RetryBudget) : Run σ Bool := do
  match ← pins.route ⟨.lfxt1, .primary, true⟩ with
  | .error _ => return false
  | .ok () =>
    c.port.write .bcsctl3 (Lfxt1Mode.crystal.bits ||| c.caps.xt1Load)
    match budget with
    | .rounds n => Run.upTo (c.settle cpu) n
    | .unlimited => Run.poll (c.settle cpu)
    return !(← c.port.lfxt1Faulted)

/-- Tries to bring up the crystal and tells whether it is running. A crystal that is not gives its
pins back and leaves ACLK to VLO; a board that cannot take the pins back is left as it is. -/
def configureCrystal (enable : Bool) (budget : RetryBudget) : Run σ Bool := do
  c.port.clearFault
  let running ←
    if enable ∧ budget ≠ .rounds 0 then c.startCrystal cpu pins budget else pure false
  c.port.clearFault
  unless running do
    discard (pins.route ⟨.lfxt1, .primary, false⟩)
    c.port.write .bcsctl3 Lfxt1Mode.vlo.bits
  return running

end ClockSystem

end Msp430
