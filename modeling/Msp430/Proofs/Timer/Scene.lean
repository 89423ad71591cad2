import Msp430.Proofs.Machine.Triples
import Msp430.Proofs.Timer.Count
import Msp430.Proofs.Timer.Operations
import Msp430.Sim.Ports

/-!
A timer in the middle of a program. Beside the registers and the state that is shared with
interrupts a scene holds whatever else the program keeps, and a journal: it is written next to the
operations, and none of them reads it.
-/
namespace Msp430

/-- What is worth an entry in the journal. -/
inductive Moment where
  | passed (ticks : Nat)
  | counted (count : UInt32)
  | armed (channel : Nat) (setting : UInt32)
  | withdrawn (channel : Nat)
  /-- The handler of an alarm was called, with the count that was read for it. -/
  | called (channel : Nat) (count : UInt32)
  deriving DecidableEq, Repr

/-- What holds of every entry and those before it. -/
def Throughout (P : Moment → List Moment → Prop) (journal : List Moment) : Prop :=
  ∀ later moment earlier, journal = later ++ moment :: earlier → P moment earlier

namespace Throughout

variable {P : Moment → List Moment → Prop}

theorem nil : Throughout P [] := by
  intro later moment earlier he
  simp at he

theorem cons {moment : Moment} {journal : List Moment} (h : Throughout P journal)
    (hm : P moment journal) : Throughout P (moment :: journal) := by
  intro later m earlier he
  cases later with
  | nil =>
    obtain ⟨rfl, rfl⟩ := List.cons.inj he
    exact hm
  | cons _ later =>
    obtain ⟨-, he⟩ := List.cons.inj he
    exact h later m earlier he

theorem of_append {later earlier : List Moment} (h : Throughout P (later ++ earlier)) :
    Throughout P earlier := by
  intro between moment first he
  exact h (later ++ between) moment first (by rw [he, List.append_assoc])

end Throughout

def elapsed : List Moment → Nat
  | [] => 0
  | .passed ticks :: earlier => elapsed earlier + ticks
  | _ :: earlier => elapsed earlier

structure Scene (R H M : Type) where
  registers : R
  shared : TimerShared H := {}
  memory : M
  journal : List Moment := []

namespace Scene

variable {R H M : Type}

def registersCell : Cell (Scene R H M) R where
  get s := s.registers
  set registers s := { s with registers }

def sharedCell : Cell (Scene R H M) (TimerShared H) where
  get s := s.shared
  set shared s := { s with shared }

def memoryCell : Cell (Scene R H M) M where
  get s := s.memory
  set memory s := { s with memory }

def journalCell : Cell (Scene R H M) (List Moment) where
  get s := s.journal
  set journal s := { s with journal }

def enter (moment : Moment) : Run (Scene R H M) Unit := journalCell.update (moment :: ·)

/-- Restricts the runs in question to those that meet the condition here. -/
def assume (condition : Scene R H M → Bool) : Run (Scene R H M) Unit := do
  unless condition (← get) do
    throw .limit

/-- Sets an alarm and enters it into the journal if that succeeds. -/
def setNoting (t : Timer (Scene R H M) H) (a : Alarm) (setting : UInt32) :
    Run (Scene R H M) (Except AlarmError Unit) := do
  let answer ← (a.set t setting).run
  if answer.isOk then enter (.armed a.channel setting)
  return answer

theorem triple_assume {condition : Scene R H M → Bool} {P E : Scene R H M → Prop}
    (h : ∀ s, P s → E s) :
    (assume condition).Triple P (fun _ s => P s ∧ condition s = true) E := by
  refine Run.Triple.bind (Q := fun a s => P s ∧ a = s) (fun _ s hs => ⟨hs, rfl⟩) fun a => ?_
  cases hc : condition a with
  | true => exact Run.triple_pure _ fun s hs => ⟨hs.1, hs.2 ▸ hc⟩
  | false => exact Run.triple_throw _ fun s hs => h s hs.1

def onPort (port : TimerPort (Scene R H M)) (notify : Notify (Scene R H M) H) :
    Timer (Scene R H M) H := ⟨port, sharedCell, notify⟩

/-! ## The simulated timer -/

variable {c : Nat}

section Simulated

variable (clock : M → ClockModule)

def simPort : TimerPort (Scene (SimTimer c) H M) :=
  SimTimer.port registersCell (return clock (← memoryCell.read)) fun _ => return ()

def timer (notify : Notify (Scene (SimTimer c) H M) H) : Timer (Scene (SimTimer c) H M) H :=
  onPort (simPort clock) notify

/-- The count that the registers and the shared state stand for. -/
def now (s : Scene (SimTimer c) H M) : UInt32 := s.registers.extended s.shared.overflows

variable {clock} (notify : Notify (Scene (SimTimer c) H M) H)

theorem answers_simPort : (simPort clock : TimerPort (Scene (SimTimer c) H M)).Answers where
  readControl _ _ := ⟨_, _, rfl⟩
  readCount _ _ := ⟨_, _, rfl⟩
  readChannel _ _ _ := ⟨_, _, rfl⟩
  writeChannel _ _ _ _ := ⟨_, _, rfl⟩
  writeCompare _ _ _ _ := ⟨_, _, rfl⟩

/-- Register accesses do not reach what lies beside the registers. -/
theorem spares_simPort {τ : Type} {view : Scene (SimTimer c) H M → τ}
    (h : ∀ s registers, view { s with registers } = view s) : (simPort clock).Spares view :=
  SimTimer.spares_port (fun registers s => h s registers) fun _ _ _ hs => hs

theorem start_changeControl (f : UInt16 → UInt16) (patience : Nat) (s : Scene (SimTimer c) H M) :
    ((simPort clock).changeControl f).start patience s =
      .ok () { s with registers := s.registers.writeControl (f s.registers.control) } := rfl

theorem start_readVector (patience : Nat) (s : Scene (SimTimer c) H M) :
    (simPort clock).readVector.start patience s =
      .ok s.registers.readVector.1 { s with registers := s.registers.readVector.2 } := rfl

end Simulated

end Scene

/-- A timer with two channels beside the clock module. -/
abbrev SmallScene := Scene (SimTimer 2) Unit ClockModule

/-- The alarm on its second channel. -/
abbrev secondAlarm : Alarm := ⟨1⟩

end Msp430
