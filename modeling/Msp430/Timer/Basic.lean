import Msp430.Machine.Cell
import Msp430.Timer.Event
import Msp430.Timer.Registers

/-!
A timer together with the state that foreground code shares with its interrupts: the upper half of
the 32-bit count, one alarm slot for each channel and the handlers that run on every overflow.
-/
namespace Msp430

variable {σ H : Type}

abbrev maxChannels : Nat := 7

abbrev chainLength : Nat := 4

structure AlarmSlot (H : Type) where
  handler : Option H := none
  enabled : Bool := false
  armed : Bool := false
  setting : UInt32 := 0
  deriving DecidableEq, Repr

/-- The cells of the chain are filled from the front. -/
structure TimerShared (H : Type) where
  overflows : UInt16 := 0
  slots : Vector (AlarmSlot H) maxChannels := .replicate _ {}
  chain : Vector (Option H) chainLength := .replicate _ none
  deriving DecidableEq, Repr

namespace TimerShared

variable (shared : TimerShared H) (i : Fin maxChannels)

def slot : AlarmSlot H := shared.slots[i]

def modifySlot (f : AlarmSlot H → AlarmSlot H) : TimerShared H :=
  { shared with slots := shared.slots.set i (f (shared.slot i)) }

theorem slot_modifySlot (f : AlarmSlot H → AlarmSlot H) (j : Fin maxChannels) :
    (shared.modifySlot i f).slot j = if i = j then f (shared.slot i) else shared.slot j := by
  simp [modifySlot, slot, Vector.getElem_set, Fin.ext_iff]

@[simp] theorem slot_modifySlot_self (f : AlarmSlot H → AlarmSlot H) :
    (shared.modifySlot i f).slot i = f (shared.slot i) :=
  (shared.slot_modifySlot i f i).trans (if_pos rfl)

theorem slot_modifySlot_other (f : AlarmSlot H → AlarmSlot H) {j : Fin maxChannels} (h : i ≠ j) :
    (shared.modifySlot i f).slot j = shared.slot j :=
  (shared.slot_modifySlot i f j).trans (if_neg h)

end TimerShared

/-- How a handler is run in interrupt context. -/
abbrev Notify (σ H : Type) := H → TimerEvent → Run σ IsrResult

namespace Notify

/-- Handlers that dispatch interrupts run handlers in turn, up to the given depth. `code` says what a
handler does, given how those are run. -/
def nested (code : Notify σ H → Notify σ H) : Nat → Notify σ H
  | 0, _, _ => throw .stuck
  | depth + 1, h, event => code (nested code depth) h event

/-- Handlers nest as deeply as the patience of the run allows. -/
def ofCode (code : Notify σ H → Notify σ H) : Notify σ H :=
  fun h event => do nested code (← read) h event

end Notify

structure Timer (σ H : Type) where
  port : TimerPort σ
  shared : Cell σ (TimerShared H)
  notify : Notify σ H

namespace Timer

def slot (t : Timer σ H) (i : Fin maxChannels) : Run σ (AlarmSlot H) :=
  return (← t.shared.read).slot i

def modifySlot (t : Timer σ H) (i : Fin maxChannels) (f : AlarmSlot H → AlarmSlot H) :
    Run σ Unit :=
  t.shared.update fun shared => shared.modifySlot i f

end Timer

end Msp430
