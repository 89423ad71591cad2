import Msp430.Machine.Run

/-!
A cell is a part of a larger state that can be read and replaced on its own. Drivers keep what they
share with interrupt handlers in cells of the machine's state, so a handler that runs in between
sees and changes the same values.
-/
namespace Msp430

structure Cell (σ τ : Type) where
  get : σ → τ
  set : τ → σ → σ

namespace Cell

variable {σ τ υ : Type}

def read (c : Cell σ τ) : Run σ τ := return c.get (← MonadState.get)

def write (c : Cell σ τ) (value : τ) : Run σ Unit := modify (c.set value)

def update (c : Cell σ τ) (f : τ → τ) : Run σ Unit := modify fun s => c.set (f (c.get s)) s

/-- Replaces the content by the second component and answers with the first. -/
def change (c : Cell σ τ) (f : τ → υ × τ) : Run σ υ :=
  modifyGet fun s => let (a, value) := f (c.get s); (a, c.set value s)

def within (outer : Cell σ τ) (inner : Cell τ υ) : Cell σ υ where
  get s := inner.get (outer.get s)
  set value s := outer.set (inner.set value (outer.get s)) s

def whole : Cell σ σ := ⟨id, fun value _ => value⟩

@[simp] theorem start_read (c : Cell σ τ) (patience : Nat) (s : σ) :
    c.read.start patience s = .ok (c.get s) s := rfl

@[simp] theorem start_write (c : Cell σ τ) (value : τ) (patience : Nat) (s : σ) :
    (c.write value).start patience s = .ok () (c.set value s) := rfl

@[simp] theorem start_update (c : Cell σ τ) (f : τ → τ) (patience : Nat) (s : σ) :
    (c.update f).start patience s = .ok () (c.set (f (c.get s)) s) := rfl

@[simp] theorem start_change (c : Cell σ τ) (f : τ → υ × τ) (patience : Nat) (s : σ) :
    (c.change f).start patience s = .ok (f (c.get s)).1 (c.set (f (c.get s)).2 s) := rfl

/-- What is written is read back, the last write wins, and writing back what was read changes
nothing. -/
structure Lawful (c : Cell σ τ) : Prop where
  get_set : ∀ value s, c.get (c.set value s) = value
  set_set : ∀ a b s, c.set a (c.set b s) = c.set a s
  set_get : ∀ s, c.set (c.get s) s = s

theorem lawful_whole : (whole : Cell σ σ).Lawful :=
  ⟨fun _ _ => rfl, fun _ _ _ => rfl, fun _ => rfl⟩

theorem Lawful.within {outer : Cell σ τ} {inner : Cell τ υ} (ho : outer.Lawful)
    (hi : inner.Lawful) : (outer.within inner).Lawful where
  get_set value s := by simp [Cell.within, ho.get_set, hi.get_set]
  set_set a b s := by simp [Cell.within, ho.get_set, ho.set_set, hi.set_set]
  set_get s := by simp [Cell.within, hi.set_get, ho.set_get]

end Cell

end Msp430
