import Msp430.Sim.ClockModule
import Msp430.Timer.Registers

/-!
A simulated timer. Its count moves when time is said to pass and, if it is set up so, by itself after
a read or after a write to a compare register. Time raises the compare and overflow flags; captures
happen when a channel in capture mode is looked at.
-/
namespace Msp430

/-- Where the counts between captures come from: a total for every ten captures behind the first. -/
inductive CaptureSource where
  /-- The total counts from the next first capture on. -/
  | fixed (total : Nat)
  /-- The total counts from now on. -/
  | live (total : Nat)
  /-- The total follows the setting of the DCO, seen behind the divider of SMCLK, at each capture. -/
  | dco (total : Nat → Nat)
  /-- One total for each first capture; the last one stays. -/
  | list (totals : List Nat)

structure SimChannel where
  control : UInt16 := 0
  compare : UInt16 := 0
  captures : Nat := 0
  deriving DecidableEq, Repr

structure SimTimer (c : Nat) where
  control : UInt16 := 0
  count : UInt16 := 0
  channels : Vector SimChannel c := .replicate _ {}
  source : CaptureSource := .fixed 0
  total : Nat := 0
  /-- How far a write to a compare register moves the count. -/
  drift : UInt16 := 0
  /-- How far a read moves the count, and whether such a step raises the overflow flag. -/
  readStep : UInt16 := 0
  readStepOverflows : Bool := true
  /-- Counts to report before the real one; those past 16 bits come with an overflow. -/
  countScript : List Nat := []
  vectorScript : List UInt16 := []

inductive InterruptRequest where
  | first
  | shared
  | idle
  deriving DecidableEq, Repr

namespace SimChannel

def capturing (c : SimChannel) : Bool := anyBits ChannelControl.capture c.control

def enabled (c : SimChannel) : Bool := anyBits ChannelControl.interruptEnable c.control

def flagged (c : SimChannel) : Bool := anyBits ChannelControl.interruptFlag c.control

def requested (c : SimChannel) : Bool := c.enabled && c.flagged

def raise (c : SimChannel) : SimChannel :=
  { c with control := setBits ChannelControl.interruptFlag c.control }

def acknowledge (c : SimChannel) : SimChannel :=
  { c with control := clearBits ChannelControl.interruptFlag c.control }

/-- Ticks until the count next reaches the compare value; a whole round if it is there now. -/
def distance (c : SimChannel) (count : UInt16) : Nat :=
  if c.compare = count then 0x10000 else (c.compare - count).toNat

/-- The count moves on: a channel in compare mode raises its flag if its value is reached. -/
def meet (c : SimChannel) (count : UInt16) (ticks : Nat) : SimChannel :=
  if !c.capturing ∧ c.distance count ≤ ticks then c.raise else c

/-- Entering capture mode begins a new measurement. -/
def write (c : SimChannel) (bits : UInt16) : SimChannel :=
  { c with
    control := bits
    captures := if anyBits ChannelControl.capture bits ∧ !c.capturing then 0 else c.captures }

end SimChannel

namespace CaptureSource

/-- The total of a measurement that starts now, where that is settled now, and what comes next. -/
def begin : CaptureSource → Option Nat × CaptureSource
  | .fixed total => (some total, .fixed total)
  | .list [] => (none, .list [])
  | .list [total] => (some total, .list [total])
  | .list (total :: rest) => (some total, .list rest)
  | source => (none, source)

/-- The DCO's setting scaled by a fraction, with an offset. -/
def scaled (factor divisor offset : Nat) : CaptureSource :=
  .dco fun setting => setting * factor / max divisor 1 + offset

/-- Sets a total that counts from now on; a source that follows the DCO keeps following it. -/
def withTotal (total : Nat) : CaptureSource → CaptureSource
  | .dco follow => .dco follow
  | _ => .live total

/-- The total that holds for a later capture. -/
def current (clock : ClockModule) (total : Nat) : CaptureSource → Nat
  | .live total => total
  | .dco total => total clock.smclkCount
  | _ => total

end CaptureSource

/-- Captures that a total is spread over. -/
def capturesPerTotal : Nat := 10

/-- Counts up to the `n`-th capture behind the first that the one before it did not have. -/
def captureStep (total n : Nat) : Nat :=
  let k := (n - 1) % capturesPerTotal + 1
  total * k / capturesPerTotal - total * (k - 1) / capturesPerTotal

namespace SimTimer

variable {c : Nat} (t : SimTimer c)

def overflowed : Bool := anyBits TimerControl.overflowFlag t.control

def overflowRequested : Bool := anyBits TimerControl.overflowEnable t.control && t.overflowed

def stopped : Bool := !anyBits TimerControl.mode t.control

def raiseOverflow (raised : Bool) : SimTimer c :=
  if raised then { t with control := setBits TimerControl.overflowFlag t.control } else t

/-- Channels that the timer lacks stay away. -/
def modifyChannel (i : Nat) (f : SimChannel → SimChannel) : SimTimer c :=
  if h : i < c then { t with channels := t.channels.set i (f t.channels[i]) } else t

/-- Moves the count without passing compare values. -/
def shift (ticks : UInt16) (overflows : Bool) : SimTimer c :=
  { t with count := t.count + ticks }.raiseOverflow
    (overflows && 0x10000 ≤ t.count.toNat + ticks.toNat)

/-! ## Registers -/

def writeControl (bits : UInt16) : SimTimer c :=
  { t with
    control := clearBits TimerControl.clear bits
    count := if anyBits TimerControl.clear bits then 0 else t.count }

def readCount : UInt16 × SimTimer c :=
  match t.countScript with
  | count :: rest =>
    (count.toUInt16, { t with countScript := rest }.raiseOverflow (0x10000 ≤ count))
  | [] => (t.count, t.shift t.readStep t.readStepOverflows)

def writeCount (count : UInt16) : SimTimer c := { t with count }

def capture (clock : ClockModule) (i captures : Nat) : SimTimer c :=
  if captures = 0 then
    let (total, source) := t.source.begin
    { t with source, total := total.getD t.total }.modifyChannel i fun channel =>
      { channel.raise with compare := t.count, captures := 1 }
  else
    let step := captureStep (t.source.current clock t.total) captures
    t.modifyChannel i fun channel =>
      { channel.raise with compare := channel.compare + step.toUInt16, captures := captures + 1 }

/-- Looking at a channel in capture mode without a capture waits for one. -/
def readChannel (clock : ClockModule) (i : Nat) : UInt16 × SimTimer c :=
  match t.channels[i]? with
  | none => (0, t)
  | some channel =>
    let t := if channel.capturing ∧ !channel.flagged then t.capture clock i channel.captures else t
    ((t.channels[i]?).elim 0 SimChannel.control, t)

def writeChannel (i : Nat) (bits : UInt16) : SimTimer c := t.modifyChannel i (·.write bits)

def readCompare (i : Nat) : UInt16 := (t.channels[i]?).elim 0 SimChannel.compare

def writeCompare (i : Nat) (count : UInt16) : SimTimer c :=
  (t.modifyChannel i ({ · with compare := count })).shift t.drift true

def requested (i : Nat) : Bool := (t.channels[i]?).any SimChannel.requested

/-- The lowest channel but the first that has a request; the first has a vector of its own. -/
def nextRequest : Option Nat := (List.range' 1 (c - 1)).find? t.requested

/-- The lowest channel with a request comes before the overflow. -/
def readVector : UInt16 × SimTimer c :=
  match t.vectorScript with
  | vector :: rest => (vector, { t with vectorScript := rest })
  | [] =>
    match t.nextRequest with
    | some i => (2 * i.toUInt16, t.modifyChannel i SimChannel.acknowledge)
    | none =>
      if t.overflowRequested then
        (overflowVector,
          { t with control := clearBits TimerControl.overflowFlag t.control })
      else (0, t)

/-! ## Time -/

/-- Lets ticks pass, on a stopped timer too. Channels in compare mode whose value the count reaches
and a count that wraps raise their flags. -/
def advance (ticks : Nat) : SimTimer c :=
  if ticks = 0 then t
  else
    let moved : SimTimer c := { t with
      count := (t.count.toNat + ticks).toUInt16
      channels := t.channels.map (·.meet t.count ticks) }
    moved.raiseOverflow (0x10000 ≤ t.count.toNat + ticks)

/-- Lets ticks pass; a stopped timer stands still. -/
def pass (ticks : Nat) : SimTimer c := if t.stopped then t else t.advance ticks

def pending : InterruptRequest :=
  if t.requested 0 then .first
  else if t.nextRequest.isSome || t.overflowRequested then .shared
  else .idle

/-- Ticks until the next wrap or the next match of an enabled channel. -/
def untilEvent : Nat :=
  t.channels.foldl
    (fun ticks channel =>
      if channel.enabled ∧ !channel.capturing then min ticks (channel.distance t.count) else ticks)
    (0x10000 - t.count.toNat)

/-- Runs to the next event, unless a request is pending or the timer is stopped. -/
def advanceToEvent : SimTimer c :=
  if t.pending ≠ .idle ∨ t.stopped then t else t.advance t.untilEvent

end SimTimer

end Msp430
