import Msp430.Machine.Field
import Msp430.Machine.Run

/-!
The watchdog timer. Its control register takes a write only with the password in the upper byte and
reads back another upper byte, so every change keeps the lower byte alone.
-/
namespace Msp430

variable {σ : Type}

structure WatchdogPort (σ : Type) where
  read : Run σ UInt16
  write : UInt16 → Run σ Unit

inductive WatchdogInterval where
  | cycles32768
  | cycles8192
  | cycles512
  | cycles64
  deriving DecidableEq, Repr

inductive WatchdogClock where
  | smclk
  | aclk
  deriving DecidableEq, Repr

namespace WatchdogInterval

def code : WatchdogInterval → UInt16
  | .cycles32768 => 0
  | .cycles8192 => 1
  | .cycles512 => 2
  | .cycles64 => 3

def ofCode (code : UInt16) : WatchdogInterval :=
  if code = 0 then .cycles32768
  else if code = 1 then .cycles8192
  else if code = 2 then .cycles512
  else .cycles64

end WatchdogInterval

namespace Watchdog

def password : UInt16 := 0x5A00
def hold : UInt16 := 0x0080
def intervalMode : UInt16 := 0x0010
def clearCount : UInt16 := 0x0008
def aclkSelect : UInt16 := 0x0004
def intervalSelect : Field UInt16 := ⟨0x0003, 0⟩
def control : UInt16 := 0x00FF

end Watchdog

namespace WatchdogPort

open Watchdog

def change (w : WatchdogPort σ) (f : UInt16 → UInt16) : Run σ Unit := do
  w.write (password ||| f ((← w.read) &&& control))

def constrain (w : WatchdogPort σ) : Run σ Unit := w.write (password ||| hold)

/-- Starts a full countdown; earlier settings are dropped. -/
def start (w : WatchdogPort σ) (clock : WatchdogClock) (interval : WatchdogInterval) :
    Run σ Unit :=
  w.change fun _ =>
    (match clock with
      | .smclk => 0
      | .aclk => aclkSelect) ||| clearCount ||| interval.code

def stop (w : WatchdogPort σ) : Run σ Unit := w.change (setBits hold)

def feed (w : WatchdogPort σ) : Run σ Unit := w.change (setBits clearCount)

def isHeld (w : WatchdogPort σ) : Run σ Bool := return anyBits hold (← w.read)

/-- In interval mode the end of a countdown raises an interrupt and does not reset the device. -/
def isIntervalMode (w : WatchdogPort σ) : Run σ Bool := return anyBits intervalMode (← w.read)

def interval (w : WatchdogPort σ) : Run σ WatchdogInterval :=
  return .ofCode (intervalSelect.extract (← w.read))

end WatchdogPort

end Msp430
