/-!
Scoped interrupt disable. The processor has one interrupt-enable bit. A critical section saves the
bit and clears it on entry; on exit it sets the bit again if the saved one was set. Guards are
critical sections that end in the reverse order of their creation.
-/
namespace Msp430

def enterCritical (enabled : Bool) : Bool × Bool := (enabled, false)

def leaveCritical (saved enabled : Bool) : Bool := saved || enabled

/-- The interrupt-enable bit, what each live guard saved (the newest first), and a counter that
only a holder of a guard may change. -/
structure Guards where
  enabled : Bool
  saved : List Bool := []
  counter : UInt32 := 0
  deriving DecidableEq, Repr

inductive GuardStep where
  | push
  | pop
  | critical (body : List GuardStep)
  | bump
  | enable
  | disable

/-- What a step lets the program see: the bit inside a critical section, the new value of the
guarded counter or the lack of a guard to change it with, and after every step the number of live
guards with the bit. -/
inductive GuardView where
  | inside (enabled : Bool)
  | counted (value : UInt32)
  | unguarded
  | after (guards : Nat) (enabled : Bool)
  deriving DecidableEq, Repr

namespace Guards

def push (g : Guards) : Guards :=
  let (saved, enabled) := enterCritical g.enabled
  { g with enabled, saved := saved :: g.saved }

def pop (g : Guards) : Guards :=
  match g.saved with
  | [] => g
  | saved :: older => { g with enabled := leaveCritical saved g.enabled, saved := older }

mutual

def step (g : Guards) : GuardStep → Guards × List GuardView
  | .push => (g.push, [])
  | .pop => (g.pop, [])
  | .critical body =>
    let (saved, enabled) := enterCritical g.enabled
    let (g, seen) := run { g with enabled } body
    ({ g with enabled := leaveCritical saved g.enabled }, .inside enabled :: seen)
  | .bump =>
    if g.saved.isEmpty then (g, [.unguarded])
    else ({ g with counter := g.counter + 1 }, [.counted (g.counter + 1)])
  | .enable => ({ g with enabled := true }, [])
  | .disable => ({ g with enabled := false }, [])

def run (g : Guards) : List GuardStep → Guards × List GuardView
  | [] => (g, [])
  | s :: rest =>
    let (next, seen) := step g s
    let (last, later) := run next rest
    (last, seen ++ .after next.saved.length next.enabled :: later)

end

def unwind (g : Guards) : Guards := g.saved.foldl (fun g _ => g.pop) g

end Guards

end Msp430
