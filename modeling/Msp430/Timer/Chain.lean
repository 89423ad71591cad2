import Msp430.Timer.Basic

/-!
The chain of handlers that run on every overflow, kept in cells that are filled from the front.
-/
namespace Msp430

variable {σ H : Type}

abbrev Chain (H : Type) := Vector (Option H) chainLength

namespace Chain

def empty : Chain H := .replicate _ none

def append? (chain : Chain H) (h : H) : Option (Chain H) := do
  let i ← chain.findFinIdx? (·.isNone)
  return chain.set i (some h)

variable [DecidableEq H]

/-- Takes out the first occurrence of the handler; those behind it move up. -/
def erase? (chain : Chain H) (h : H) : Option (Chain H) := do
  let i ← chain.findFinIdx? (· = some h)
  return .ofFn fun j => if j < i then chain[j] else (chain[j.val + 1]?).join

end Chain

inductive ChainError where
  | full
  deriving DecidableEq, Repr

namespace Timer

variable (t : Timer σ H)

def addOverflowHandler (h : H) : ExceptT ChainError (Run σ) Unit := do
  match Chain.append? (← t.shared.read).chain h with
  | none => throw .full
  | some chain => t.shared.update fun shared => { shared with chain }

/-- Tells whether the handler was in the chain. -/
def removeOverflowHandler [DecidableEq H] (h : H) : Run σ Bool := do
  match Chain.erase? (← t.shared.read).chain h with
  | none => return false
  | some chain =>
    t.shared.update fun shared => { shared with chain }
    return true

end Timer

end Msp430
