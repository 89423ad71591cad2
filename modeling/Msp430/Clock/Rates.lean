import Msp430.Machine.Run

/-!
The rates of the three system clocks, in Hz. They are asked for anew every time, since the clocks can
change between two questions.
-/
namespace Msp430

structure Rates (σ : Type) where
  aclk : Run σ UInt32
  smclk : Run σ UInt32
  mclk : Run σ UInt32

def Rates.fixed {σ : Type} (aclk smclk mclk : UInt32) : Rates σ where
  aclk := return aclk
  smclk := return smclk
  mclk := return mclk

end Msp430
