import Msp430.Timer.Registers

/-!
Measuring a signal by capture: how far the timer counts during a number of edges.
-/
namespace Msp430.TimerPort

variable {σ : Type}

def awaitCapture (p : TimerPort σ) (channel : Nat) : Run σ Unit := do
  Run.poll (p.flagged channel)

/-- Counts between a first edge and the `edges`-th edge behind it, on a running timer. The channel
ends in compare mode. -/
def captureSpan (p : TimerPort σ) (channel : Nat) (edge : CaptureEdge) (input : CaptureInput)
    (edges : Nat) : Run σ UInt16 := do
  p.captureMode channel edge input
  p.clearFlag channel
  p.awaitCapture channel
  let first ← p.readCompare channel
  p.clearFlag channel
  Run.times (do p.awaitCapture channel; p.clearFlag channel) edges
  let last ← p.readCompare channel
  p.compareMode channel
  return last - first

end Msp430.TimerPort
