/-!
Computations on a machine. A `Run` reads and changes the machine's state and may halt before it has
a result, keeping the state it reached. Loops that wait for the hardware poll at most as often as
the patience of the run allows, and handlers nest at most as deeply, so every run ends.
-/
namespace Msp430

inductive Halt where
  | limit
  | stuck
  deriving DecidableEq, Repr

abbrev Run (σ : Type) := ReaderT Nat (EStateM Halt σ)

inductive Progress (α β : Type) where
  | again (next : α)
  | finished (result : β)

namespace Run

variable {σ α β : Type}

def start (run : Run σ α) (patience : Nat) (s : σ) : EStateM.Result Halt σ α :=
  EStateM.run (ReaderT.run run patience) s

@[simp] theorem start_pure (a : α) (patience : Nat) (s : σ) :
    (pure a : Run σ α).start patience s = .ok a s := rfl

@[simp] theorem start_throw (why : Halt) (patience : Nat) (s : σ) :
    (throw why : Run σ α).start patience s = .error why s := rfl

@[simp] theorem start_read (patience : Nat) (s : σ) :
    (read : Run σ Nat).start patience s = .ok patience s := rfl

@[simp] theorem start_get (patience : Nat) (s : σ) :
    (get : Run σ σ).start patience s = .ok s s := rfl

@[simp] theorem start_modify (f : σ → σ) (patience : Nat) (s : σ) :
    (modify f : Run σ PUnit).start patience s = .ok ⟨⟩ (f s) := rfl

/-- What follows runs only from a result. -/
theorem start_bind (run : Run σ α) (next : α → Run σ β) (patience : Nat) (s : σ) :
    (run >>= next).start patience s =
      match run.start patience s with
      | .ok a s => (next a).start patience s
      | .error why s => .error why s := by
  change EStateM.bind (run patience) (fun a => next a patience) s = _
  unfold EStateM.bind start
  cases h : run patience s <;> simp [EStateM.run, ReaderT.run, h]

theorem start_bind_ok {run : Run σ α} {patience : Nat} {s t : σ} {a : α}
    (h : run.start patience s = .ok a t) (next : α → Run σ β) :
    (run >>= next).start patience s = (next a).start patience t := by
  simp only [start_bind, h]

@[simp] theorem start_map (f : α → β) (run : Run σ α) (patience : Nat) (s : σ) :
    (f <$> run).start patience s =
      match run.start patience s with
      | .ok a s => .ok (f a) s
      | .error why s => .error why s := by
  rw [← bind_pure_comp, start_bind]
  rfl

/-- More polls than any wait that comes to an end, and deeper than handlers nest before one does. -/
def ample : Nat := 0x200000000

/-- Takes at most the given number of steps and is stuck when the last one asks for another. -/
def loopWithin (step : α → Run σ (Progress α β)) : Nat → α → Run σ β
  | 0, _ => throw .stuck
  | n + 1, a => do
    match ← step a with
    | .again next => loopWithin step n next
    | .finished result => return result

def loop (step : α → Run σ (Progress α β)) (a : α) : Run σ β := do
  loopWithin step (← read) a

def poll (condition : Run σ Bool) : Run σ Unit :=
  loop (fun _ => do return if ← condition then .finished () else .again ()) ()

def upTo (condition : Run σ Bool) : Nat → Run σ Unit
  | 0 => return ()
  | n + 1 => do
    unless ← condition do
      upTo condition n

def times (action : Run σ Unit) : Nat → Run σ Unit
  | 0 => return ()
  | n + 1 => do
    action
    times action n

end Run

end Msp430
