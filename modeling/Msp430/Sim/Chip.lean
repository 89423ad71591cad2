import Msp430.Clock.System
import Msp430.Cpu.Services
import Msp430.Cpu.Watchdog
import Msp430.Pins.LaunchPad
import Msp430.Uptime.Clock

/-!
A device whose registers are plain memory. Nothing happens by itself: a register keeps what was
written to it, and chosen bits can be made to read as ones whatever is stored.
-/
namespace Msp430

inductive TimerUnit where
  | ta0
  | ta1
  deriving DecidableEq, Repr

inductive TimerRegister where
  | control
  | count
  | vector
  | channel (i : Fin 3)
  | compare (i : Fin 3)
  deriving DecidableEq, Repr

inductive ByteRegister where
  | clock (r : ClockRegister)
  | interruptFlags
  | port (p : PortNumber) (r : PortRegister)
  deriving DecidableEq, Repr

inductive WordRegister where
  | watchdog
  | timer (u : TimerUnit) (r : TimerRegister)
  deriving DecidableEq, Repr

namespace ByteRegister

def index : ByteRegister → Fin 13
  | .clock .dcoctl => 0
  | .clock .bcsctl1 => 1
  | .clock .bcsctl2 => 2
  | .clock .bcsctl3 => 3
  | .interruptFlags => 4
  | .port .p1 .out => 5
  | .port .p1 .dir => 6
  | .port .p1 .sel => 7
  | .port .p1 .sel2 => 8
  | .port .p2 .out => 9
  | .port .p2 .dir => 10
  | .port .p2 .sel => 11
  | .port .p2 .sel2 => 12

end ByteRegister

namespace TimerRegister

def index : TimerRegister → Fin 9
  | .control => 0
  | .count => 1
  | .vector => 2
  | .channel i => ⟨3 + i, by omega⟩
  | .compare i => ⟨6 + i, by omega⟩

end TimerRegister

namespace WordRegister

def index : WordRegister → Fin 19
  | .watchdog => 0
  | .timer .ta0 r => ⟨1 + r.index, by omega⟩
  | .timer .ta1 r => ⟨10 + r.index, by omega⟩

end WordRegister

inductive MemoryWrite where
  | byte (r : ByteRegister) (bits : UInt8)
  | word (r : WordRegister) (bits : UInt16)
  deriving DecidableEq, Repr

/-- Stored values, or masks of bits that read as ones. -/
structure Memory where
  bytes : Vector UInt8 13 := .replicate _ 0
  words : Vector UInt16 19 := .replicate _ 0
  deriving DecidableEq, Repr

namespace Memory

def byte (m : Memory) (r : ByteRegister) : UInt8 := m.bytes[r.index]

def word (m : Memory) (r : WordRegister) : UInt16 := m.words[r.index]

def store (m : Memory) : MemoryWrite → Memory
  | .byte r bits => { m with bytes := m.bytes.set r.index bits }
  | .word r bits => { m with words := m.words.set r.index bits }

end Memory

structure Chip where
  cells : Memory := {}
  stuck : Memory := {}
  caps : ClockCapabilities := {}
  configuredHz : UInt32 := 0
  /-- Shared by both timers. -/
  shared : TimerShared Unit := {}
  fired : Bool := false
  writesLeft : Nat := 0
  trace : List MemoryWrite := []

namespace Chip

def readByte (r : ByteRegister) : Run Chip UInt8 :=
  return (← get).cells.byte r ||| (← get).stuck.byte r

/-- The watchdog's upper byte reads as a constant. -/
def readWord (r : WordRegister) : Run Chip UInt16 := do
  let bits := (← get).cells.word r ||| (← get).stuck.word r
  return if r = .watchdog then 0x6900 ||| (bits &&& Watchdog.control) else bits

/-- A write past the allowance ends the run. -/
def write (w : MemoryWrite) : Run Chip Unit := do
  match (← get).writesLeft with
  | 0 => throw .limit
  | n + 1 =>
    modify fun c => { c with cells := c.cells.store w, trace := w :: c.trace, writesLeft := n }

/-! ## Hardware -/

def oscillatorFault : UInt8 := 0x02

def clockPort : ClockPort Chip where
  read r := readByte (.clock r)
  write r bits := write (.byte (.clock r) bits)
  faultFlag := return anyBits oscillatorFault (← readByte .interruptFlags)
  clearFault := do
    write (.byte .interruptFlags (clearBits oscillatorFault (← readByte .interruptFlags)))

def clockSystem (caps : ClockCapabilities) : ClockSystem Chip :=
  ⟨clockPort, caps, ⟨Chip.configuredHz, fun configuredHz c => { c with configuredHz }⟩⟩

/-- Channels that a timer lacks read as zero and take no writes. -/
def channelAt (i : Nat) : Option (Fin 3) := if h : i < 3 then some ⟨i, h⟩ else none

def timerPort (u : TimerUnit) : TimerPort Chip where
  channels := 3
  readControl := readWord (.timer u .control)
  writeControl bits := write (.word (.timer u .control) bits)
  readCount := readWord (.timer u .count)
  writeCount count := write (.word (.timer u .count) count)
  readChannel i := (channelAt i).elim (pure 0) fun i => readWord (.timer u (.channel i))
  writeChannel i bits :=
    (channelAt i).elim (pure ()) fun i => write (.word (.timer u (.channel i)) bits)
  readCompare i := (channelAt i).elim (pure 0) fun i => readWord (.timer u (.compare i))
  writeCompare i count :=
    (channelAt i).elim (pure ()) fun i => write (.word (.timer u (.compare i)) count)
  readVector := readWord (.timer u .vector)

def watchdog : WatchdogPort Chip where
  read := readWord .watchdog
  write bits := write (.word .watchdog bits)

def ports : GpioPort Chip where
  read p r := readByte (.port p r)
  write p r bits := write (.byte (.port p r) bits)

def cpu : Cpu Chip := .idle watchdog.feed

def firedCell : Cell Chip Bool := ⟨Chip.fired, fun fired c => { c with fired }⟩

/-- The only handler is that of the delay alarm. -/
def timer (u : TimerUnit) : Timer Chip Unit where
  port := timerPort u
  shared := ⟨Chip.shared, fun shared c => { c with shared }⟩
  notify _ _ := raiseFired firedCell

end Chip

end Msp430
