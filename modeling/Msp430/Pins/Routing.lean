import Msp430.Machine.Run

/-!
Which peripheral gets which pins. A board routes the pins of a peripheral, or takes them back as
outputs driven low.
-/
namespace Msp430

inductive Peripheral where
  | lfxt1
  | exposedClocks
  | usciA0
  | usciB0
  deriving DecidableEq, Repr

/-- What a peripheral is to do with its pins; `primary` is its only or usual function. -/
inductive PinFunction where
  | primary
  | uart
  | spi3
  | spi4
  | i2c
  deriving DecidableEq, Repr

inductive PinError where
  | unsupported
  deriving DecidableEq, Repr

/-- One request for the pins of a peripheral: to hand them over, or without `enable` to take them
back. -/
structure PinRequest where
  peripheral : Peripheral
  function : PinFunction
  enable : Bool
  deriving DecidableEq, Repr

structure PinRouter (σ : Type) where
  route : PinRequest → Run σ (Except PinError Unit)
  /-- The pin assignment in words, where the board documents one. -/
  help : Peripheral → PinFunction → Option String := fun _ _ => none

end Msp430
