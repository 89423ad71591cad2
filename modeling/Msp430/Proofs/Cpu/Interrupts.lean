import Msp430.Cpu.Interrupts

/-!
Nested critical sections give the interrupt-enable bit back as they found it. A guard moves the bit
into what it saved and its end moves it back, so at most one of the bit and the saved ones is ever
set, and how many are does not change. If guards end in the section that they were created in, a
machine that saves nothing and only counts what is alive shows the same.
-/
namespace Msp430

/-! ## Counting what is alive -/

/-- The guards that are alive and the sections that are running, with the guarded counter. -/
structure Nesting where
  guards : Nat := 0
  sections : Nat := 0
  counter : UInt32 := 0
  deriving DecidableEq, Repr

namespace Nesting

/-- While a guard or a section is alive the bit is clear, otherwise it is as it was before. -/
def enabled (start : Bool) (n : Nesting) : Bool := n.guards == 0 && n.sections == 0 && start

mutual

def step (start : Bool) (n : Nesting) : GuardStep → Nesting × List GuardView
  | .push => ({ n with guards := n.guards + 1 }, [])
  | .pop => ({ n with guards := n.guards - 1 }, [])
  | .critical body =>
    let entered := { n with sections := n.sections + 1 }
    let (last, seen) := run start entered body
    ({ last with sections := n.sections }, .inside (entered.enabled start) :: seen)
  | .bump =>
    if n.guards = 0 then (n, [.unguarded])
    else ({ n with counter := n.counter + 1 }, [.counted (n.counter + 1)])
  | .enable => (n, [])
  | .disable => (n, [])

/-- The counts behind a program, and what is to be seen on the way. -/
def run (start : Bool) (n : Nesting) : List GuardStep → Nesting × List GuardView
  | [] => (n, [])
  | s :: rest =>
    let (next, seen) := step start n s
    let (last, later) := run start next rest
    (last, seen ++ .after next.guards (next.enabled start) :: later)

end

variable {start : Bool} (n : Nesting)

theorem sections_step (s : GuardStep) : (n.step start s).1.sections = n.sections := by
  cases s with
  | bump =>
    unfold step
    split <;> rfl
  | _ => rfl

/-- Every section that a program starts has ended behind it. -/
theorem sections_run (steps : List GuardStep) : (n.run start steps).1.sections = n.sections := by
  induction steps generalizing n with
  | nil => rfl
  | cons s rest ih => exact (ih (n.step start s).1).trans (n.sections_step s)

end Nesting

namespace Guards

/-! ## Programs -/

/-- Programs that leave the bit to guards and sections. -/
inductive Disciplined : List GuardStep → Prop
  | done : Disciplined []
  | push {rest} (later : Disciplined rest) : Disciplined (.push :: rest)
  | pop {rest} (later : Disciplined rest) : Disciplined (.pop :: rest)
  | bump {rest} (later : Disciplined rest) : Disciplined (.bump :: rest)
  | critical {body rest} (inner : Disciplined body) (later : Disciplined rest) :
      Disciplined (.critical body :: rest)

/-- Programs whose guards end in the section that they were created in, with the number of a
section's own guards before and after. -/
inductive Scoped : Nat → List GuardStep → Nat → Prop
  | done {own} : Scoped own [] own
  | push {own rest left} (later : Scoped (own + 1) rest left) : Scoped own (.push :: rest) left
  | pop {own rest left} (later : Scoped own rest left) : Scoped (own + 1) (.pop :: rest) left
  | bump {own rest left} (later : Scoped own rest left) : Scoped own (.bump :: rest) left
  | critical {own body rest left} (inner : Scoped 0 body 0) (later : Scoped own rest left) :
      Scoped own (.critical body :: rest) left

/-- Where the body of a critical section starts. -/
def entered (g : Guards) : Guards := { g with enabled := (enterCritical g.enabled).2 }

theorem run_cons (g : Guards) (s : GuardStep) (rest : List GuardStep) :
    (g.run (s :: rest)).1 = ((g.step s).1.run rest).1 := rfl

theorem seen_cons (g : Guards) (s : GuardStep) (rest : List GuardStep) :
    (g.run (s :: rest)).2 = (g.step s).2 ++
      .after (g.step s).1.saved.length (g.step s).1.enabled :: ((g.step s).1.run rest).2 := rfl

theorem seen_critical (g : Guards) (body : List GuardStep) :
    (g.step (.critical body)).2 = .inside false :: (g.entered.run body).2 := rfl

theorem saved_pop (g : Guards) : g.pop.saved = g.saved.tail := by
  unfold pop
  split <;> simp [*]

theorem counter_pop (g : Guards) : g.pop.counter = g.counter := by
  unfold pop
  split <;> rfl

theorem step_critical (g : Guards) (body : List GuardStep) :
    (g.step (.critical body)).1 =
      { (g.entered.run body).1 with
        enabled := leaveCritical g.enabled (g.entered.run body).1.enabled } := rfl

/-! ## How many of the bits are set -/

/-- How many of the bit and the saved ones are set. -/
def held (g : Guards) : Nat := g.enabled.toNat + g.saved.count true

variable {g now : Guards} {steps rest : List GuardStep} {s : GuardStep}

theorem count_saved (saved : Bool) (older : List Bool) :
    (saved :: older).count true = saved.toNat + older.count true := by
  cases saved <;> simp [Nat.add_comm]

/-- What is given back is not lost, as long as not both are set. -/
theorem leaveCritical_toNat {saved enabled : Bool} (h : saved.toNat + enabled.toNat ≤ 1) :
    (leaveCritical saved enabled).toNat = saved.toNat + enabled.toNat := by
  cases saved <;> cases enabled <;> simp [leaveCritical] at h ⊢

theorem held_push (g : Guards) : g.push.held = g.held := by
  simp only [held, push, enterCritical, count_saved, Bool.toNat_false, Nat.zero_add]

theorem held_pop (h : g.held ≤ 1) : g.pop.held = g.held := by
  unfold pop
  split
  · rfl
  · rename_i saved older hsaved
    simp only [held, hsaved, count_saved] at h ⊢
    rw [leaveCritical_toNat (by omega)]
    omega

theorem held_bump (g : Guards) : (g.step .bump).1.held = g.held := by
  unfold step
  split <;> rfl

/-- If the bit was set on entry, the body finds nothing set and leaves nothing set. -/
theorem held_critical {body : List GuardStep} (h : g.held ≤ 1)
    (hbody : g.entered.held ≤ 1 → (g.entered.run body).1.held = g.entered.held) :
    (g.step (.critical body)).1.held = g.held := by
  have hentered : g.entered.held = g.saved.count true := Nat.zero_add _
  have hbefore : g.held = g.enabled.toNat + g.saved.count true := rfl
  have hkept := hbody (by omega)
  rw [step_critical]
  generalize (g.entered.run body).1 = ended at hkept ⊢
  have hended : ended.held = ended.enabled.toNat + ended.saved.count true := rfl
  change (leaveCritical g.enabled ended.enabled).toNat + ended.saved.count true = g.held
  rw [leaveCritical_toNat (by omega)]
  omega

theorem held_run_cons (h : g.held ≤ 1) (first : (g.step s).1.held = g.held)
    (later : ∀ {g : Guards}, g.held ≤ 1 → (g.run rest).1.held = g.held) :
    (g.run (s :: rest)).1.held = g.held := by
  rw [run_cons, later (first ▸ h), first]

theorem held_run (hsteps : Disciplined steps) (h : g.held ≤ 1) : (g.run steps).1.held = g.held := by
  induction hsteps generalizing g with
  | done => rfl
  | push _ ih => exact held_run_cons h g.held_push ih
  | pop _ ih => exact held_run_cons h (held_pop h) ih
  | bump _ ih => exact held_run_cons h g.held_bump ih
  | critical _ _ inner ih => exact held_run_cons h (held_critical h inner) ih

theorem unwound (h : g.held ≤ 1) : g.unwind.saved = [] ∧ g.unwind.held = g.held := by
  have all (guards : List Bool) (g : Guards) (hsaved : g.saved = guards) (h : g.held ≤ 1) :
      (guards.foldl (fun g _ => g.pop) g).saved = [] ∧
        (guards.foldl (fun g _ => g.pop) g).held = g.held := by
    induction guards generalizing g with
    | nil => exact ⟨hsaved, rfl⟩
    | cons saved older ih =>
      have hpop := held_pop h
      have holder : g.pop.saved = older := by rw [pop, hsaved]
      obtain ⟨hempty, hheld⟩ := ih g.pop holder (hpop ▸ h)
      exact ⟨hempty, hheld.trans hpop⟩
  exact all g.saved g rfl h

/-- Without a guard the bit is all that can be set. -/
theorem enabled_eq_of_held (hg : g.saved = []) (hnow : now.saved = []) (h : now.held = g.held) :
    now.enabled = g.enabled := by
  simp only [held, hg, hnow, List.count_nil, Nat.add_zero] at h
  cases hn : now.enabled <;> cases he : g.enabled <;> simp [hn, he] at h ⊢

/-! ## Sections and guards that are alive -/

/-- Behind each guard the bit is clear; the first one saved the bit that the section started
with. -/
inductive Stacked (start : Bool) : List Bool → Bool → Prop
  | bottom : Stacked start [] start
  | above {saved enabled} (below : Stacked start saved enabled) :
      Stacked start (enabled :: saved) false

/-- A section that started with the bit given, above the guards given, has so many of its own. -/
def Within (start : Bool) (below : List Bool) (own : Nat) (g : Guards) : Prop :=
  ∃ saved, g.saved = saved ++ below ∧ saved.length = own ∧ Stacked start saved g.enabled

theorem Stacked.enabled_eq {start enabled : Bool} {saved : List Bool}
    (h : Stacked start saved enabled) : enabled = (saved.length == 0 && start) := by
  cases h <;> simp

namespace Within

variable {start : Bool} {below : List Bool} {own : Nat}

theorem push (h : Within start below own g) : Within start below (own + 1) g.push := by
  obtain ⟨saved, hsaved, hown, hstacked⟩ := h
  have hmore : g.enabled :: g.saved = (g.enabled :: saved) ++ below := congrArg _ hsaved
  exact ⟨g.enabled :: saved, hmore, congrArg (· + 1) hown, hstacked.above⟩

theorem pop (h : Within start below (own + 1) g) : Within start below own g.pop := by
  obtain ⟨saved, hsaved, hown, hstacked⟩ := h
  generalize henabled : g.enabled = enabled at hstacked
  cases hstacked with
  | bottom => cases hown
  | @above older restored hbelow =>
    have hpop : g.pop = { g with enabled := restored, saved := older ++ below } := by
      simp [Guards.pop, hsaved, leaveCritical, henabled]
    rw [hpop]
    exact ⟨older, rfl, Nat.succ.inj hown, hbelow⟩

theorem bump (h : Within start below own g) : Within start below own (g.step .bump).1 := by
  unfold Guards.step
  split <;> exact h

/-- A section that is over has given the guards and the bit back. -/
theorem critical {body : List GuardStep} (h : Within start below own g)
    (hbody : Within false g.saved 0 (g.entered.run body).1) :
    Within start below own (g.step (.critical body)).1 := by
  obtain ⟨none, hsaved, hnone, hstacked⟩ := hbody
  obtain rfl := List.length_eq_zero_iff.mp hnone
  have hclear := hstacked.enabled_eq
  rw [Bool.and_false] at hclear
  obtain ⟨saved, hbefore, hown, hbits⟩ := h
  rw [step_critical]
  refine ⟨saved, hsaved.trans hbefore, hown, ?_⟩
  rw [hclear, leaveCritical, Bool.or_false]
  exact hbits

end Within

/-- The counts are those of the guards, in a section above the guards given that has so many of its
own. -/
structure Mirrors (start : Bool) (below : List Bool) (own : Nat) (g : Guards) (n : Nesting) :
    Prop where
  guards : n.guards = g.saved.length
  counter : n.counter = g.counter
  within : Within (below.length == 0 && n.sections == 0 && start) below own g

namespace Mirrors

variable {start : Bool} {below : List Bool} {own : Nat} {n : Nesting}

theorem enabled (h : Mirrors start below own g n) : g.enabled = n.enabled start := by
  obtain ⟨saved, hsaved, -, hstacked⟩ := h.within
  rw [hstacked.enabled_eq, Nesting.enabled, h.guards, hsaved, List.length_append]
  cases saved <;> simp

theorem enter (h : Mirrors start below own g n) :
    Mirrors start g.saved 0 g.entered { n with sections := n.sections + 1 } where
  guards := h.guards
  counter := h.counter
  within := by
    have started : Within false g.saved 0 g.entered := ⟨[], rfl, rfl, .bottom⟩
    simpa using started

end Mirrors

/-- A step or a run shows what the counts show and leaves what they leave. -/
def Follows (start : Bool) (below : List Bool) (own : Nat) (done : Guards × List GuardView)
    (count : Nesting × List GuardView) : Prop :=
  Mirrors start below own done.1 count.1 ∧ done.2 = count.2

namespace Follows

variable {start : Bool} {below : List Bool} {own left next : Nat} {n : Nesting}

theorem push (h : Mirrors start below own g n) :
    Follows start below (own + 1) (g.step .push) (n.step start .push) :=
  ⟨⟨congrArg (· + 1) h.guards, h.counter, h.within.push⟩, rfl⟩

theorem pop (h : Mirrors start below (own + 1) g n) :
    Follows start below own (g.step .pop) (n.step start .pop) := by
  refine ⟨⟨?_, ?_, h.within.pop⟩, rfl⟩
  · change n.guards - 1 = g.pop.saved.length
    rw [saved_pop, List.length_tail, h.guards]
  · exact h.counter.trans (counter_pop g).symm

theorem bump (h : Mirrors start below own g n) :
    Follows start below own (g.step .bump) (n.step start .bump) := by
  have hguards := h.guards
  cases hsaved : g.saved with
  | nil =>
    have hnone : n.guards = 0 := by rw [hguards, hsaved]; rfl
    simp only [Guards.step, Nesting.step, hsaved, hnone, List.isEmpty_nil, if_true]
    exact ⟨h, rfl⟩
  | cons saved older =>
    have hsome : n.guards ≠ 0 := by rw [hguards, hsaved]; exact Nat.succ_ne_zero _
    simp only [Guards.step, Nesting.step, hsaved, if_neg hsome, List.isEmpty_cons, h.counter,
      Bool.false_eq_true, if_false]
    exact ⟨⟨hguards.trans (congrArg List.length hsaved), rfl, hsaved ▸ h.within⟩, rfl⟩

/-- The section ends with the guards that it started with, so the bit is given back as it was. -/
theorem critical {body : List GuardStep} (h : Mirrors start below own g n)
    (inner : Follows start g.saved 0 (g.entered.run body)
      (Nesting.run start { n with sections := n.sections + 1 } body)) :
    Follows start below own (g.step (.critical body)) (n.step start (.critical body)) := by
  obtain ⟨hlast, hseen⟩ := inner
  have hbody : Within false g.saved 0 (g.entered.run body).1 := by
    simpa [Nesting.sections_run] using hlast.within
  refine ⟨⟨hlast.guards, hlast.counter, h.within.critical hbody⟩, ?_⟩
  have hinside : Nesting.enabled start { n with sections := n.sections + 1 } = false := by
    simp [Nesting.enabled]
  rw [seen_critical, hseen, ← hinside]
  rfl

theorem cons (first : Follows start below next (g.step s) (n.step start s))
    (later : Follows start below left ((g.step s).1.run rest)
      ((n.step start s).1.run start rest)) :
    Follows start below left (g.run (s :: rest)) (n.run start (s :: rest)) := by
  obtain ⟨hnext, hseen⟩ := first
  obtain ⟨hlast, hlater⟩ := later
  refine ⟨hlast, ?_⟩
  rw [seen_cons, hseen, hlater, ← hnext.guards, hnext.enabled]
  rfl

theorem run (hsteps : Scoped own steps left) (h : Mirrors start below own g n) :
    Follows start below left (g.run steps) (n.run start steps) := by
  induction hsteps generalizing g n below with
  | done => exact ⟨h, rfl⟩
  | push _ ih => exact (push h).cons (ih (push h).1)
  | pop _ ih => exact (pop h).cons (ih (pop h).1)
  | bump _ ih => exact (bump h).cons (ih (bump h).1)
  | critical _ _ inner ih =>
    -- the body is a program of its own above all guards that are alive
    have hcritical := critical h (inner h.enter)
    exact hcritical.cons (ih hcritical.1)

end Follows

/-- For every program of guards and sections, and so for every beginning of one, from either state
of the bit: if no guard is alive behind it the bit is as it was before, and ending the guards that
are alive, the newest first, makes it so. If guards end in the section that they were created in, all
that is to be seen on the way, at the start of a section, inside and outside, is what the counts
show: the bit is clear as long as a guard or a section is alive, otherwise as it was before. -/
theorem interrupts_restored (hsteps : Disciplined steps) (hg : g.saved = []) :
    ((g.run steps).1.saved = [] → (g.run steps).1.enabled = g.enabled) ∧
    ((g.run steps).1.unwind.saved = [] ∧ (g.run steps).1.unwind.enabled = g.enabled) ∧
    (∀ left, Scoped 0 steps left →
      (g.run steps).2 = (Nesting.run g.enabled { counter := g.counter } steps).2) := by
  have hone : g.held ≤ 1 := by
    rw [held, hg]
    exact Bool.toNat_le g.enabled
  have hheld := held_run hsteps hone
  obtain ⟨hempty, hunwound⟩ := unwound (hheld ▸ hone)
  refine ⟨fun hnone => enabled_eq_of_held hg hnone hheld, ⟨hempty, ?_⟩, fun left hscoped => ?_⟩
  · exact enabled_eq_of_held hg hempty (hunwound.trans hheld)
  · have mirrored : Mirrors g.enabled [] 0 g { counter := g.counter } :=
      ⟨by rw [hg]; rfl, rfl, [], hg, rfl, .bottom⟩
    exact (Follows.run hscoped mirrored).2

/-- A section between two guards has a guard and a section of its own. -/
def nestedSections : List GuardStep :=
  [.push, .critical [.push, .critical [], .bump, .pop], .push]

theorem interrupts_restored_nested :
    Disciplined nestedSections ∧ Scoped 0 nestedSections 2 ∧
      (run { enabled := true } nestedSections).2 =
        [.after 1 false, .inside false, .after 2 false, .inside false, .after 2 false, .counted 1,
          .after 2 false, .after 1 false, .after 1 false, .after 2 false] ∧
      (run { enabled := true } nestedSections).1.saved = [false, true] ∧
      (run { enabled := true } nestedSections).1.unwind.enabled = true := by
  have hsteps : Disciplined nestedSections :=
    .push (.critical (.push (.critical .done (.bump (.pop .done)))) (.push .done))
  have hscoped : Scoped 0 nestedSections 2 :=
    .push (.critical (.push (.critical .done (.bump (.pop .done)))) (.push .done))
  obtain ⟨-, ⟨-, restored⟩, seen⟩ := interrupts_restored (g := { enabled := true }) hsteps rfl
  exact ⟨hsteps, hscoped, seen 2 hscoped, rfl, restored⟩

/-- In a section without a guard the bit is not as it was before. A section that ends a guard from
outside goes on with the bit set, where the counts have it clear. -/
theorem enabled_behind_outer_guard :
    (run { enabled := true } [.critical []]).2 = [.inside false, .after 0 true] ∧
    (run { enabled := true } [.push, .critical [.pop]]).2 =
      [.after 1 false, .inside false, .after 0 true, .after 0 true] ∧
    (Nesting.run true {} [.push, .critical [.pop]]).2 =
      [.after 1 false, .inside false, .after 0 false, .after 0 true] :=
  ⟨rfl, rfl, rfl⟩

end Guards

end Msp430
