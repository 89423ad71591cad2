import Msp430.Machine.Field
import Msp430.Pins.Routing

/-!
Pins of a LaunchPad board with its 20-pin device. Both ports have four registers per pin: the output
level, the direction and two selectors that together choose the pin's function.
-/
namespace Msp430

variable {σ : Type}

inductive PortNumber where
  | p1
  | p2
  deriving DecidableEq, Repr

inductive PortRegister where
  | out
  | dir
  | sel
  | sel2
  deriving DecidableEq, Repr

structure GpioPort (σ : Type) where
  read : PortNumber → PortRegister → Run σ UInt8
  write : PortNumber → PortRegister → UInt8 → Run σ Unit

/-- The pins of one function on each port, and whether the second selector chooses it too. -/
structure PinMux where
  p1 : UInt8
  p2 : UInt8
  secondary : Bool
  deriving DecidableEq, Repr

namespace PinMux

def pins (mux : PinMux) : PortNumber → UInt8
  | .p1 => mux.p1
  | .p2 => mux.p2

end PinMux

namespace LaunchPad

def pinMask (numbers : List UInt8) : UInt8 := numbers.foldl (fun mask n => mask ||| ((1 : UInt8) <<< n)) 0

def mux : Peripheral → PinFunction → Except PinError PinMux
  | .lfxt1, .primary => .ok ⟨0, pinMask [6, 7], false⟩
  | .exposedClocks, .primary => .ok ⟨pinMask [0, 4], 0, false⟩
  | .usciA0, .primary | .usciA0, .uart => .ok ⟨pinMask [1, 2], 0, true⟩
  | .usciA0, .spi3 => .ok ⟨pinMask [1, 2, 4], 0, true⟩
  | .usciA0, .spi4 => .ok ⟨pinMask [1, 2, 4, 5], 0, true⟩
  | .usciB0, .primary | .usciB0, .i2c => .ok ⟨pinMask [6, 7], 0, true⟩
  | .usciB0, .spi3 => .ok ⟨pinMask [5, 6, 7], 0, true⟩
  | .usciB0, .spi4 => .ok ⟨pinMask [4, 5, 6, 7], 0, true⟩
  | _, _ => .error .unsupported

def help : Peripheral → String
  | .lfxt1 => "XIN=P2.6, XOUT=P2.7"
  | .exposedClocks => "ACLK on P1.0; SMCLK on P1.4"
  | .usciA0 => "MOSI/TXD=P1.2; MISO/RXD=P1.1; CLK=P1.4; STE=P1.5"
  | .usciB0 => "MOSI/SDA=P1.7; MISO/SCL=P1.6; CLK=P1.5; STE=P1.4"

end LaunchPad

namespace GpioPort

def change (g : GpioPort σ) (port : PortNumber) (register : PortRegister) (f : UInt8 → UInt8) :
    Run σ Unit := do
  g.write port register (f (← g.read port register))

def assign (g : GpioPort σ) (port : PortNumber) (pins : UInt8) (secondary : Bool) :
    Run σ Unit := do
  g.change port .sel (setBits pins)
  g.change port .sel2 (if secondary then setBits pins else clearBits pins)

/-- Makes the pins outputs driven low; the level is low before the pin drives it. -/
def withdraw (g : GpioPort σ) (port : PortNumber) (pins : UInt8) : Run σ Unit := do
  g.change port .out (clearBits pins)
  g.change port .dir (setBits pins)
  g.change port .sel (clearBits pins)
  g.change port .sel2 (clearBits pins)

/-- A port without pins of the function is left alone. -/
def apply (g : GpioPort σ) (mux : PinMux) (enable : Bool) (port : PortNumber) : Run σ Unit := do
  let pins := mux.pins port
  if pins ≠ 0 then
    if enable then g.assign port pins mux.secondary else g.withdraw port pins

def route (g : GpioPort σ) (r : PinRequest) : Run σ (Except PinError Unit) := do
  match LaunchPad.mux r.peripheral r.function with
  | .error e => return .error e
  | .ok mux =>
    -- A clock output has to drive its pin.
    if r.peripheral = .exposedClocks ∧ mux.p1 ≠ 0 then
      g.change .p1 .dir (setBits mux.p1)
    g.apply mux r.enable .p1
    g.apply mux r.enable .p2
    return .ok ()

def launchPad (g : GpioPort σ) : PinRouter σ where
  route := g.route
  help peripheral _ := some (LaunchPad.help peripheral)

end GpioPort

end Msp430
