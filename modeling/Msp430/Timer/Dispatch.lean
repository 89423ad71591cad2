import Msp430.Timer.Alarm
import Msp430.Timer.Chain

/-!
Interrupt service. Channel 0 has a vector of its own; the other channels and the overflow share one
and tell themselves apart by the value of the vector register.
-/
namespace Msp430

variable {σ H : Type}

namespace Timer

variable (t : Timer σ H)

/-- Disarms the alarm of a channel if it is due and answers with its handler and the count that was
read. A disabled or idle channel gets its interrupt switched off. A match of the lower half alone, in
an earlier round of the count, changes nothing. -/
def takeDue (channel : Nat) : Run σ (Option (H × UInt32)) := do
  if bound : channel < maxChannels then
    let i : Fin maxChannels := ⟨channel, bound⟩
    let slot ← t.slot i
    if slot.enabled && slot.armed then
      let now ← t.counter
      if ticksUntil slot.setting now > 0 then
        return none
      else
        t.modifySlot i fun slot => { slot with armed := false }
        t.port.disableChannel channel
        return (← t.slot i).handler.map (·, now)
    else
      t.port.disableChannel channel
      return none
  else
    return none

def serviceAlarm (channel : Nat) : Run σ IsrResult := do
  match ← t.takeDue channel with
  | some (h, _) => return { ← t.notify h (.alarm channel) with unsubscribe := false }
  | none => return .none

variable [DecidableEq H]

/-- Runs the handler at a place in the chain. A handler that unsubscribes leaves its place to the
next one. -/
def overflowStep : Nat × IsrResult → Run σ (Progress (Nat × IsrResult) IsrResult)
  | (i, result) => do
    match (← t.shared.read).chain[i]?.join with
    | none => return .finished result
    | some h =>
      let answer ← t.notify h .overflow
      if answer.unsubscribe then
        discard (t.removeOverflowHandler h)
      let result := result ∪ answer
      return if answer.breakChain then .finished result
        else .again (if answer.unsubscribe then i else i + 1, result)

/-- Counts the overflow before any handler runs. -/
def serviceOverflow : Run σ IsrResult := do
  t.shared.update fun shared => { shared with overflows := shared.overflows + 1 }
  let result ← Run.loop t.overflowStep (0, .none)
  return { result with unsubscribe := false, breakChain := false }

/-- Software dispatch clears the flag that the hardware clears when it takes the vector. -/
def dispatchFirst : Run σ IsrResult := do
  t.port.clearFlag 0
  t.serviceAlarm 0

def dispatchShared : Run σ IsrResult := do
  let vector ← t.port.readVector
  if vector = 0 then
    return .none
  if vector = overflowVector then
    return ← t.serviceOverflow
  t.serviceAlarm (vector >>> 1).toUInt8.toNat

end Timer

end Msp430
