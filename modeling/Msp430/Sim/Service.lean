import Msp430.Sim.Timer
import Msp430.Timer.Dispatch

/-!
Interrupts of a timer served one after another, as they come while the processor sleeps.
-/
namespace Msp430.Timer

variable {σ H : Type} [DecidableEq H]

/-- Serves at most the given number of requests and answers with how many there have been in all. It
ends when there is none, and with the interrupt that wakes the processor. -/
def serveRequests (t : Timer σ H) (prepare : Run σ Unit) (pending : Run σ InterruptRequest)
    (note : IsrResult → Run σ Unit) : Nat → Nat → Run σ Nat
  | 0, served => return served
  | most + 1, served => do
    prepare
    match ← pending with
    | .idle => return served
    | request =>
      let result ← if request = .first then t.dispatchFirst else t.dispatchShared
      note result
      if result.wake then
        return served + 1
      serveRequests t prepare pending note most (served + 1)

end Msp430.Timer
