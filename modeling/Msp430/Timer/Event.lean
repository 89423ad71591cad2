import Msp430.Cpu.LowPower
import Msp430.Machine.Field

/-!
What a timer tells a handler and what the handler wants done when its interrupt returns.
-/
namespace Msp430

inductive TimerEvent where
  | overflow
  | alarm (channel : Nat)
  deriving DecidableEq, Repr

structure IsrResult where
  /-- Leave the low power mode that the interrupt came in. -/
  wake : Bool := false
  /-- Return with interrupts disabled. -/
  maskInterrupts : Bool := false
  /-- A task of higher priority became ready. -/
  yield : Bool := false
  /-- Take the handler that says so out of further dispatch. -/
  unsubscribe : Bool := false
  /-- Skip the handlers behind this one. -/
  breakChain : Bool := false
  deriving DecidableEq, Repr

namespace IsrResult

def none : IsrResult := {}

def union (a b : IsrResult) : IsrResult where
  wake := a.wake || b.wake
  maskInterrupts := a.maskInterrupts || b.maskInterrupts
  yield := a.yield || b.yield
  unsubscribe := a.unsubscribe || b.unsubscribe
  breakChain := a.breakChain || b.breakChain

instance : Union IsrResult := ⟨union⟩

/-- Bits above the lowest five have no meaning. -/
def ofBits (bits : UInt16) : IsrResult where
  wake := anyBits 1 bits
  maskInterrupts := anyBits 2 bits
  yield := anyBits 4 bits
  unsubscribe := anyBits 8 bits
  breakChain := anyBits 16 bits

def toBits (r : IsrResult) : UInt16 :=
  r.wake.toUInt16 ||| (r.maskInterrupts.toUInt16 <<< 1) ||| (r.yield.toUInt16 <<< 2) |||
    (r.unsubscribe.toUInt16 <<< 3) ||| (r.breakChain.toUInt16 <<< 4)

def all : IsrResult := ⟨true, true, true, true, true⟩

/-- The bits to clear in the status register that the interrupt saved. -/
def statusClear (r : IsrResult) : UInt16 :=
  (if r.wake then StatusRegister.lowPower else 0) |||
    (if r.maskInterrupts then StatusRegister.interruptEnable else 0)

theorem ofBits_toBits (r : IsrResult) : ofBits r.toBits = r := by
  obtain ⟨_ | _, _ | _, _ | _, _ | _, _ | _⟩ := r <;> rfl

end IsrResult

end Msp430
