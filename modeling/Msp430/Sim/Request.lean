import Msp430.Sim.Reply

/-!
Single steps on a timer's registers as data.
-/
namespace Msp430

variable {σ : Type}

inductive TimerRequest where
  | channels
  | readControl
  | writeControl (bits : UInt16)
  | readCount
  | writeCount (count : UInt16)
  | readChannel (i : Nat)
  | writeChannel (i : Nat) (bits : UInt16)
  | readCompare (i : Nat)
  | writeCompare (i : Nat) (count : UInt16)
  | readVector
  | reset
  | stop
  | isStopped
  | runContinuously
  | selectClock (source : TimerSource) (divider : TimerDivider)
  | source
  | dividerShift
  | overflowed
  | clearOverflow
  | enableOverflow
  | flagged (i : Nat)
  | setFlag (i : Nat)
  | clearFlag (i : Nat)
  | enableChannel (i : Nat)
  | disableChannel (i : Nat)
  | compareMode (i : Nat)
  | captureMode (i : Nat) (edge : CaptureEdge) (input : CaptureInput)
  | captureSpan (i : Nat) (edge : CaptureEdge) (input : CaptureInput) (edges : Nat)
  deriving DecidableEq, Repr

namespace TimerPort

def serve (p : TimerPort σ) : TimerRequest → Run σ Reply
  | .channels => return .number p.channels
  | .readControl => .bits <$> p.readControl
  | .writeControl bits => p.writeControl bits *> pure .done
  | .readCount => .bits <$> p.readCount
  | .writeCount count => p.writeCount count *> pure .done
  | .readChannel i => .bits <$> p.readChannel i
  | .writeChannel i bits => p.writeChannel i bits *> pure .done
  | .readCompare i => .bits <$> p.readCompare i
  | .writeCompare i count => p.writeCompare i count *> pure .done
  | .readVector => .bits <$> p.readVector
  | .reset => p.reset *> pure .done
  | .stop => p.stop *> pure .done
  | .isStopped => .flag <$> p.isStopped
  | .runContinuously => p.runContinuously *> pure .done
  | .selectClock source divider => p.selectClock source divider *> pure .done
  | .source => .timerSource <$> p.source
  | .dividerShift => .bits <$> p.dividerShift
  | .overflowed => .flag <$> p.overflowed
  | .clearOverflow => p.clearOverflow *> pure .done
  | .enableOverflow => p.enableOverflow *> pure .done
  | .flagged i => .flag <$> p.flagged i
  | .setFlag i => p.setFlag i *> pure .done
  | .clearFlag i => p.clearFlag i *> pure .done
  | .enableChannel i => p.enableChannel i *> pure .done
  | .disableChannel i => p.disableChannel i *> pure .done
  | .compareMode i => p.compareMode i *> pure .done
  | .captureMode i edge input => p.captureMode i edge input *> pure .done
  | .captureSpan i edge input edges => .bits <$> p.captureSpan i edge input edges

end TimerPort

end Msp430
