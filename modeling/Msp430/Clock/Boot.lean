import Msp430.Clock.Crystal
import Msp430.Clock.Dco

/-!
The usual start of a board: the crystal, then ACLK, MCLK and the divider of SMCLK.
-/
namespace Msp430

variable {σ : Type}

structure BootPlan where
  startCrystal : Bool := true
  /-- Seconds of the power-up MCLK to wait for the crystal; a negative number waits forever. -/
  crystalSeconds : Int := 1
  aclkSource : ClockSource := .xt1OrVlo
  aclkShift : UInt8 := 0
  /-- Zero keeps the power-up rate. -/
  mclkHz : UInt32 := 8000000
  smclkShift : UInt8 := 1
  deriving DecidableEq, Repr

structure BootReport where
  crystalRunning : Bool
  aclkHz : UInt32
  smclkHz : UInt32
  mclkHz : UInt32
  deriving DecidableEq, Repr

namespace BootPlan

/-- The settling rounds that fit into the wait, up to the largest budget. -/
def retryBudget (plan : BootPlan) (powerUpHz settleCycles : UInt32) : RetryBudget :=
  if plan.crystalSeconds < 0 then .unlimited
  else
    .rounds <| min RetryBudget.most <|
      plan.crystalSeconds.toNat * powerUpHz.toNat / max settleCycles.toNat 1

end BootPlan

namespace ClockSystem

variable (c : ClockSystem σ) (cpu : Cpu σ) (pins : PinRouter σ)

def boot (plan : BootPlan) : ExceptT ClockError (Run σ) BootReport := do
  let crystalRunning ←
    if plan.startCrystal then
      c.configureCrystal cpu pins true (plan.retryBudget c.caps.powerUpHz c.caps.settleCycles)
    else
      pure false
  c.configureAclk plan.aclkSource plan.aclkShift
  discard (c.configureMclk cpu plan.mclkHz)
  c.configureSmclk .dco plan.smclkShift
  return ⟨crystalRunning, ← c.aclkHz, ← c.smclkHz, ← c.mclkHz⟩

end ClockSystem

end Msp430
