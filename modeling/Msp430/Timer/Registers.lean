import Msp430.Machine.Field
import Msp430.Machine.Run

/-!
Registers of a 16-bit timer with capture/compare channels, and the small steps that every driver
takes on them.
-/
namespace Msp430

variable {σ : Type}

inductive TimerSource where
  | taclk
  | aclk
  | smclk
  | inclk
  deriving DecidableEq, Repr

inductive TimerDivider where
  | by1
  | by2
  | by4
  | by8
  deriving DecidableEq, Repr

inductive CaptureEdge where
  | off
  | rising
  | falling
  | both
  deriving DecidableEq, Repr

inductive CaptureInput where
  | a
  | b
  | ground
  | supply
  deriving DecidableEq, Repr

namespace TimerControl

def source : Field UInt16 := ⟨0x0300, 8⟩
def divider : Field UInt16 := ⟨0x00C0, 6⟩
def mode : UInt16 := 0x0030
def continuous : UInt16 := 0x0020
def clear : UInt16 := 0x0004
def overflowEnable : UInt16 := 0x0002
def overflowFlag : UInt16 := 0x0001

end TimerControl

namespace ChannelControl

def edge : Field UInt16 := ⟨0xC000, 14⟩
def input : Field UInt16 := ⟨0x3000, 12⟩
def synchronous : UInt16 := 0x0800
def capture : UInt16 := 0x0100
def interruptEnable : UInt16 := 0x0010
def interruptFlag : UInt16 := 0x0001

end ChannelControl

/-- Channel `i` has the vector `2 * i`. -/
def overflowVector : UInt16 := 0x000A

namespace TimerSource

def code : TimerSource → UInt16
  | .taclk => 0
  | .aclk => 1
  | .smclk => 2
  | .inclk => 3

def ofCode (code : UInt16) : TimerSource :=
  if code = 0 then .taclk
  else if code = 1 then .aclk
  else if code = 2 then .smclk
  else .inclk

theorem ofCode_code (s : TimerSource) : ofCode s.code = s := by cases s <;> rfl

end TimerSource

namespace TimerDivider

def code : TimerDivider → UInt16
  | .by1 => 0
  | .by2 => 1
  | .by4 => 2
  | .by8 => 3

/-- Shifts past the largest divider stand for it. -/
def ofShift (shift : UInt8) : TimerDivider :=
  if shift = 0 then .by1
  else if shift = 1 then .by2
  else if shift = 2 then .by4
  else .by8

end TimerDivider

def CaptureEdge.code : CaptureEdge → UInt16
  | .off => 0
  | .rising => 1
  | .falling => 2
  | .both => 3

def CaptureInput.code : CaptureInput → UInt16
  | .a => 0
  | .b => 1
  | .ground => 2
  | .supply => 3

/-- Access to one timer. Reading the vector acknowledges the request that it reports. -/
structure TimerPort (σ : Type) where
  channels : Nat
  readControl : Run σ UInt16
  writeControl : UInt16 → Run σ Unit
  readCount : Run σ UInt16
  writeCount : UInt16 → Run σ Unit
  readChannel : Nat → Run σ UInt16
  writeChannel : Nat → UInt16 → Run σ Unit
  readCompare : Nat → Run σ UInt16
  writeCompare : Nat → UInt16 → Run σ Unit
  readVector : Run σ UInt16

namespace TimerPort

variable (p : TimerPort σ)

def changeControl (f : UInt16 → UInt16) : Run σ Unit := do
  p.writeControl (f (← p.readControl))

def changeChannel (i : Nat) (f : UInt16 → UInt16) : Run σ Unit := do
  p.writeChannel i (f (← p.readChannel i))

def reset : Run σ Unit := p.changeControl (setBits TimerControl.clear)

def stop : Run σ Unit := p.changeControl (clearBits TimerControl.mode)

def isStopped : Run σ Bool := return !anyBits TimerControl.mode (← p.readControl)

def runContinuously : Run σ Unit :=
  p.changeControl (replaceBits TimerControl.mode TimerControl.continuous)

/-- Leaves the timer stopped with a cleared count. -/
def selectClock (source : TimerSource) (divider : TimerDivider) : Run σ Unit :=
  p.writeControl ((source.code <<< TimerControl.source.shift) |||
    (divider.code <<< TimerControl.divider.shift) ||| TimerControl.clear)

def source : Run σ TimerSource :=
  return .ofCode (TimerControl.source.extract (← p.readControl))

def dividerShift : Run σ UInt16 := return TimerControl.divider.extract (← p.readControl)

def overflowed : Run σ Bool := return anyBits TimerControl.overflowFlag (← p.readControl)

def clearOverflow : Run σ Unit := p.changeControl (clearBits TimerControl.overflowFlag)

def enableOverflow : Run σ Unit := p.changeControl (setBits TimerControl.overflowEnable)

def flagged (i : Nat) : Run σ Bool := return anyBits ChannelControl.interruptFlag (← p.readChannel i)

def setFlag (i : Nat) : Run σ Unit := p.changeChannel i (setBits ChannelControl.interruptFlag)

def clearFlag (i : Nat) : Run σ Unit := p.changeChannel i (clearBits ChannelControl.interruptFlag)

def enableChannel (i : Nat) : Run σ Unit :=
  p.changeChannel i (setBits ChannelControl.interruptEnable)

def disableChannel (i : Nat) : Run σ Unit :=
  p.changeChannel i (clearBits ChannelControl.interruptEnable)

/-- Captures in step with the timer clock, without interrupts. -/
def captureMode (i : Nat) (edge : CaptureEdge) (input : CaptureInput) : Run σ Unit :=
  p.writeChannel i ((edge.code <<< ChannelControl.edge.shift) |||
    (input.code <<< ChannelControl.input.shift) ||| ChannelControl.synchronous |||
    ChannelControl.capture)

/-- Compares, with the interrupt disabled and the flag clear. -/
def compareMode (i : Nat) : Run σ Unit := p.writeChannel i 0

end TimerPort

end Msp430
