import Msp430.Timer.Counter

/-!
One-shot alarms. An alarm owns a capture/compare channel and fires when the 32-bit count reaches its
setting, however many overflows away that is.
-/
namespace Msp430

variable {σ H : Type}

/-- The right to use a channel's slot. -/
structure Alarm where
  channel : Fin maxChannels
  deriving DecidableEq, Repr

inductive AlarmError where
  | noChannel
  | busy
  | disabled
  | past
  deriving DecidableEq, Repr

namespace Alarm

/-- Claims a free channel. The alarm starts out disabled. -/
def claim (t : Timer σ H) (channel : Nat) (h : H) : ExceptT AlarmError (Run σ) Alarm := do
  unless channel < t.port.channels do
    throw .noChannel
  if bound : channel < maxChannels then
    let alarm : Alarm := ⟨⟨channel, bound⟩⟩
    if (← t.slot alarm.channel).handler.isSome then
      throw .busy
    t.modifySlot alarm.channel fun slot =>
      { slot with handler := some h, enabled := false, armed := false }
    t.port.compareMode channel
    return alarm
  else
    throw .noChannel

variable (a : Alarm) (t : Timer σ H)

def isEnabled : Run σ Bool := return (← t.slot a.channel).enabled

def isArmed : Run σ Bool := return (← t.slot a.channel).armed

/-- Withdraws the alarm and tells whether it was armed. -/
def cancel : Run σ Bool := do
  let armed ← a.isArmed t
  t.modifySlot a.channel fun slot => { slot with armed := false }
  t.port.disableChannel a.channel
  t.port.clearFlag a.channel
  return armed

def setEnabled (on : Bool) : Run σ Unit := do
  unless on do
    discard (a.cancel t)
  t.modifySlot a.channel fun slot => { slot with enabled := on }

/-- Programs the channel. The count may pass the setting meanwhile; the alarm then raises its own
flag. -/
def arm (setting : UInt32) : Run σ Unit := do
  t.modifySlot a.channel fun slot => { slot with setting, armed := true }
  t.port.compareMode a.channel
  t.port.writeCompare a.channel setting.toUInt16
  t.port.enableChannel a.channel
  if ticksUntil setting (← t.counter) ≤ 0 then
    unless ← t.port.flagged a.channel do
      t.port.setFlag a.channel

def set (setting : UInt32) : ExceptT AlarmError (Run σ) Unit := do
  if !(← a.isEnabled t) then
    throw .disabled
  else if ← a.isArmed t then
    throw .busy
  else if ticksUntil setting (← t.counter) ≤ 0 then
    throw .past
  else
    a.arm t setting

def release : Run σ Unit := do
  a.setEnabled t false
  t.modifySlot a.channel fun slot => { slot with handler := none }

end Alarm

end Msp430
