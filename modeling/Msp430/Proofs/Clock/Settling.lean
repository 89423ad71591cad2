import Msp430.Proofs.Clock.Retries

/-!
How long a boot waits for its crystal. Every access to the clock module and every request takes a
moment, and with each moment the crystal may start or stop. Whatever it does, the settling rounds fit
into the time that is planned for them; a crystal that never runs is waited for until another round
would not fit.
-/
namespace Msp430

open Run

/-! ## The planned time -/

namespace BootPlan

variable (plan : BootPlan) (caps : ClockCapabilities)

/-- The time that is planned for the crystal, in cycles of the power-up MCLK. -/
def crystalCycles : Nat := plan.crystalSeconds.toNat * caps.powerUpHz.toNat

/-- The rounds that fit into it. A round without a delay counts as one cycle. -/
def crystalRounds : Nat := plan.crystalCycles caps / max caps.settleCycles.toNat 1

variable {plan caps}

theorem retryBudget_eq (hwait : 0 ≤ plan.crystalSeconds) :
    plan.retryBudget caps.powerUpHz caps.settleCycles =
      .rounds (min RetryBudget.most (plan.crystalRounds caps)) :=
  if_neg (Int.not_lt.mpr hwait)

theorem mul_settleCycles_le {rounds : Nat} (h : rounds ≤ plan.crystalRounds caps) :
    rounds * caps.settleCycles.toNat ≤ plan.crystalCycles caps :=
  calc rounds * caps.settleCycles.toNat
    _ ≤ plan.crystalRounds caps * max caps.settleCycles.toNat 1 :=
      Nat.mul_le_mul h (Nat.le_max_left _ _)
    _ ≤ plan.crystalCycles caps := Nat.div_mul_le_self _ _

theorem lt_mul_settleCycles (hsettle : 1 ≤ caps.settleCycles.toNat) :
    plan.crystalCycles caps <
      plan.crystalRounds caps * caps.settleCycles.toNat + caps.settleCycles.toNat := by
  rw [crystalRounds, Nat.max_eq_left hsettle]
  exact Nat.lt_div_mul_add hsettle

end BootPlan

def CpuCall.cycles : CpuCall → Nat
  | .delay cycles => cycles.toNat
  | _ => 0

/-- The cycles that the processor was asked to let pass. -/
def cyclesDelayed : List CpuCall → Nat
  | [] => 0
  | call :: rest => call.cycles + cyclesDelayed rest

theorem cyclesDelayed_waits (cycles : UInt32) (n : Nat) :
    cyclesDelayed (waits cycles n) = n * cycles.toNat := by
  induction n with
  | zero => simp [cyclesDelayed, waits]
  | succ n ih =>
    simp only [waits_succ, cyclesDelayed, CpuCall.cycles, ih]
    rw [Nat.zero_add, Nat.succ_mul, Nat.add_comm]

/-! ## The crystal in the course of a boot -/

namespace ClockSystem

variable {σ : Type} (c : ClockSystem σ) (cpu : Cpu σ) (pins : PinRouter σ) (plan : BootPlan)

/-- The part of a boot that waits for the crystal. -/
def crystalStep : Run σ Bool :=
  if plan.startCrystal then
    c.configureCrystal cpu pins true (plan.retryBudget c.caps.powerUpHz c.caps.settleCycles)
  else pure false

/-- What follows once it is known whether the crystal runs. -/
def clockSteps (running : Bool) : ExceptT ClockError (Run σ) BootReport := do
  c.configureAclk plan.aclkSource plan.aclkShift
  discard (c.configureMclk cpu plan.mclkHz)
  c.configureSmclk .dco plan.smclkShift
  return ⟨running, ← c.aclkHz, ← c.smclkHz, ← c.mclkHz⟩

theorem run_boot : (c.boot cpu pins plan).run =
    c.crystalStep cpu pins plan >>= fun running => (c.clockSteps cpu plan running).run := by
  unfold boot crystalStep
  split
  · exact run_liftM_bind _ _
  · rfl

end ClockSystem

/-! ## A board on which things take time -/

/-- What happens around the clock module: whether the crystal runs at a moment, and what the board
answers to a request for pins then. -/
structure BoardHistory where
  caps : ClockCapabilities
  crystal : Nat → Bool
  pins : Nat → PinRequest → Except PinError Unit

namespace Board

variable (h : BoardHistory)

def elapsed (b : Board Nat) : Board Nat :=
  { b with
    clock := { b.clock with crystalRunning := h.crystal (b.rest + 1) }
    rest := b.rest + 1 }

def requested (call : CpuCall) (b : Board Nat) : Board Nat :=
  { b.elapsed h with calls := b.calls ++ [call] }

def round (b : Board Nat) : Board Nat :=
  ((b.requested h .feed).requested h (.delay h.caps.settleCycles)).elapsed h

end Board

namespace BoardHistory

variable (h : BoardHistory) (load : UInt8)

def elapse : Run (Board Nat) Unit := modify (Board.elapsed h)

def port : ClockPort (Board Nat) where
  read r := do
    h.elapse
    return (← Board.clockCell.read).read r
  write r bits := do
    h.elapse
    Board.clockCell.update (·.write r bits)
  faultFlag := do
    h.elapse
    return (← Board.clockCell.read).faultFlag
  clearFault := do
    h.elapse
    Board.clockCell.update ClockModule.clearFault

def system : ClockSystem (Board Nat) := ⟨h.port, h.caps.withXt1Load load, Board.configuredCell⟩

def cpu : Cpu (Board Nat) where
  feedWatchdog := modify (Board.requested h .feed)
  delayCycles cycles := modify (Board.requested h (.delay cycles))
  sleep mode := modify (Board.requested h (.sleep mode))

def router : PinRouter (Board Nat) where
  route request := modifyGet fun b => (h.pins (b.rest + 1) request, b.elapsed h)

/-- The crystal never runs and the board always gives it its pins. -/
structure Missing : Prop where
  down : ∀ moment, h.crystal moment = false
  granted : ∀ moment, h.pins moment .takeCrystal = .ok ()

/-! ## Rounds -/

/-- At most `n` rounds lead from one board to the other, and all of them if the crystal is
missing. -/
structure Awaited (n rounds : Nat) (b t : Board Nat) : Prop where
  within : rounds ≤ n
  calls : t.calls = b.calls ++ waits h.caps.settleCycles rounds
  all : h.Missing → rounds = n

theorem listening_round {b : Board Nat} (hb : b.clock.Listening) : (b.round h).clock.Listening :=
  ⟨hb.mode, hb.sound⟩

theorem start_settle {b : Board Nat} (hb : b.clock.Listening) (patience : Nat) :
    ((h.system load).settle h.cpu).start patience b =
      .ok (h.crystal (b.rest + 3)) (b.round h) := by
  change EStateM.Result.ok (!(b.round h).clock.faulted) _ = _
  rw [(h.listening_round hb).faulted, Bool.not_not]
  rfl

theorem start_upTo {b : Board Nat} (hb : b.clock.Listening) (n patience : Nat) :
    ∃ rounds t, (Run.upTo ((h.system load).settle h.cpu) n).start patience b = .ok () t ∧
      h.Awaited n rounds b t := by
  induction n generalizing b with
  | zero => exact ⟨0, b, rfl, Nat.le_refl _, by simp [waits], fun _ => rfl⟩
  | succ n ih =>
    have hround := start_settle h load hb patience
    have hcalls : (b.round h).calls = b.calls ++ waits h.caps.settleCycles 1 := by
      simp [Board.round, Board.requested, Board.elapsed, waits]
    rw [Run.upTo, start_bind_ok hround]
    cases hup : h.crystal (b.rest + 3) with
    | true =>
      refine ⟨1, b.round h, rfl, Nat.le_add_left _ _, hcalls, fun hmissing => ?_⟩
      rw [hmissing.down] at hup
      cases hup
    | false =>
      obtain ⟨rounds, t, hrun, ht⟩ := ih (h.listening_round hb)
      refine ⟨rounds + 1, t, hrun, Nat.succ_le_succ ht.within, ?_, fun hmissing => ?_⟩
      · rw [ht.calls, hcalls, List.append_assoc, waits_succ, waits_succ]
        rfl
      · rw [ht.all hmissing]

/-! ## The wait -/

theorem start_startCrystal (n patience : Nat) (b : Board Nat) :
    ∃ running rounds t,
      ((h.system load).startCrystal h.cpu h.router (.rounds n)).start patience b =
        .ok running t ∧ h.Awaited n rounds b t := by
  have hroute : (h.router.route .takeCrystal).start patience b =
      .ok (h.pins (b.rest + 1) .takeCrystal) (b.elapsed h) := rfl
  rw [ClockSystem.startCrystal, start_bind_ok hroute]
  cases hanswer : h.pins (b.rest + 1) .takeCrystal with
  | error why =>
    refine ⟨false, 0, b.elapsed h, rfl, Nat.zero_le _, by simp [waits, Board.elapsed], ?_⟩
    intro hmissing
    rw [hmissing.granted] at hanswer
    cases hanswer
  | ok _ =>
    let selected : Board Nat :=
      { (b.elapsed h).elapsed h with
        clock := ((b.elapsed h).elapsed h).clock.write .bcsctl3 (ClockModule.crystalBits load) }
    have hlistening : selected.clock.Listening := ClockModule.listening_write _ load
    obtain ⟨rounds, t, hrun, ht⟩ := start_upTo h load hlistening n patience
    have hselect : ((h.system load).port.write .bcsctl3 (Lfxt1Mode.crystal.bits |||
        (h.system load).caps.xt1Load)).start patience (b.elapsed h) = .ok () selected := rfl
    have hlook : (h.system load).port.lfxt1Faulted.start patience t =
        .ok (t.elapsed h).clock.faulted (t.elapsed h) := rfl
    refine ⟨!(t.elapsed h).clock.faulted, rounds, t.elapsed h, ?_, ht.within, ht.calls, ht.all⟩
    dsimp only
    rw [start_bind_ok hselect, start_bind_ok hrun, start_bind_ok hlook]
    rfl

theorem start_configureCrystal (n patience : Nat) (b : Board Nat) :
    ∃ running rounds t,
      ((h.system load).configureCrystal h.cpu h.router true (.rounds n)).start patience b =
        .ok running t ∧ h.Awaited n rounds b t := by
  let cleared (b : Board Nat) : Board Nat :=
    { b.elapsed h with clock := (b.elapsed h).clock.clearFault }
  have hclear (b : Board Nat) : (h.system load).port.clearFault.start patience b =
      .ok () (cleared b) := rfl
  -- what is left to do when the search is over makes no more requests to the processor
  have hconclude (running : Bool) (t : Board Nat) : ∃ u, (do
      (h.system load).port.clearFault
      unless running do
        discard (h.router.route .giveCrystalBack)
        (h.system load).port.write .bcsctl3 Lfxt1Mode.vlo.bits
      return running).start patience t = .ok running u ∧ u.calls = t.calls := by
    cases running <;> exact ⟨_, rfl, rfl⟩
  rw [ClockSystem.configureCrystal, start_bind_ok (hclear b)]
  by_cases hn : n = 0
  · subst hn
    obtain ⟨u, hrun, hcalls⟩ := hconclude false (cleared b)
    refine ⟨false, 0, u, hrun, Nat.le_refl _, ?_, fun _ => rfl⟩
    rw [hcalls]
    simp [cleared, Board.elapsed, waits]
  · obtain ⟨running, rounds, t, hsearch, ht⟩ := start_startCrystal h load n patience (cleared b)
    obtain ⟨u, hrun, hcalls⟩ := hconclude running t
    refine ⟨running, rounds, u, ?_, ht.within, hcalls.trans ht.calls, ht.all⟩
    rw [if_pos ⟨rfl, by simpa using hn⟩, start_bind_ok hsearch]
    exact hrun

theorem start_crystalStep {plan : BootPlan} (hwait : 0 ≤ plan.crystalSeconds) (patience : Nat)
    (b : Board Nat) :
    ∃ running rounds t,
      ((h.system load).crystalStep h.cpu h.router plan).start patience b = .ok running t ∧
        rounds ≤ min RetryBudget.most (plan.crystalRounds h.caps) ∧
        t.calls = b.calls ++ waits h.caps.settleCycles rounds ∧
        (plan.startCrystal = true → h.Missing →
          rounds = min RetryBudget.most (plan.crystalRounds h.caps)) := by
  unfold ClockSystem.crystalStep
  split
  case isTrue =>
    have hbudget : plan.retryBudget (h.system load).caps.powerUpHz
        (h.system load).caps.settleCycles =
          .rounds (min RetryBudget.most (plan.crystalRounds h.caps)) :=
      BootPlan.retryBudget_eq hwait
    rw [hbudget]
    obtain ⟨running, rounds, t, hrun, ht⟩ := start_configureCrystal h load _ patience b
    exact ⟨running, rounds, t, hrun, ht.within, ht.calls, fun _ => ht.all⟩
  case isFalse hskipped =>
    refine ⟨false, 0, b, rfl, Nat.zero_le _, by simp [waits], fun hstart => ?_⟩
    exact absurd hstart hskipped

/-- A boot waits for the crystal only in settling rounds, and these take no longer than planned,
whatever becomes of the crystal and its pins. If the crystal never comes up they take all of the
planned time but for what is too short for another round, unless there would be more of them than a
budget can hold. -/
theorem crystal_wait_bounded (h : BoardHistory) (load : UInt8) {plan : BootPlan}
    (hwait : 0 ≤ plan.crystalSeconds) (patience : Nat) (b : Board Nat) :
    ∃ running t rounds,
      ((h.system load).boot h.cpu h.router plan).run.start patience b =
        ((h.system load).clockSteps h.cpu plan running).run.start patience t ∧
      ((h.system load).crystalStep h.cpu h.router plan).start patience b = .ok running t ∧
      t.calls = b.calls ++ waits h.caps.settleCycles rounds ∧
      cyclesDelayed (waits h.caps.settleCycles rounds) ≤
        plan.crystalSeconds.toNat * h.caps.powerUpHz.toNat ∧
      (plan.startCrystal = true → h.Missing → 1 ≤ h.caps.settleCycles.toNat →
        plan.crystalSeconds.toNat * h.caps.powerUpHz.toNat / h.caps.settleCycles.toNat ≤ 32767 →
        plan.crystalSeconds.toNat * h.caps.powerUpHz.toNat <
          cyclesDelayed (waits h.caps.settleCycles rounds) + h.caps.settleCycles.toNat) := by
  obtain ⟨running, rounds, t, hrun, hrounds, hcalls, hall⟩ :=
    start_crystalStep h load hwait patience b
  refine ⟨running, t, rounds, ?_, hrun, hcalls, ?_, ?_⟩
  · rw [ClockSystem.run_boot, start_bind_ok hrun]
  · rw [cyclesDelayed_waits]
    exact BootPlan.mul_settleCycles_le (Nat.le_trans hrounds (Nat.min_le_right _ _))
  · intro hstart hmissing hsettle hfits
    have hbudget : plan.crystalRounds h.caps ≤ RetryBudget.most := by
      rw [BootPlan.crystalRounds, Nat.max_eq_left hsettle]
      exact hfits
    rw [cyclesDelayed_waits, hall hstart hmissing, Nat.min_eq_right hbudget]
    exact BootPlan.lt_mul_settleCycles hsettle

/-! ## One second without a crystal -/

def noCrystal : BoardHistory := ⟨{}, fun _ => false, fun _ _ => .ok ()⟩

/-- A second of the power-up MCLK has room for 55 rounds of 20000 cycles. -/
theorem crystal_wait_bounded_second :
    (0 : Int) ≤ ({} : BootPlan).crystalSeconds ∧ noCrystal.Missing ∧
      ∃ running t,
        ((noCrystal.system 0x04).crystalStep noCrystal.cpu noCrystal.router {}).start 0
          ⟨{}, 0, [], 0⟩ = .ok running t ∧ t.calls = waits 20000 55 := by
  have hmissing : noCrystal.Missing := ⟨fun _ => rfl, fun _ => rfl⟩
  have hwait : (0 : Int) ≤ ({} : BootPlan).crystalSeconds := by decide
  obtain ⟨running, t, rounds, -, hrun, hcalls, hatMost, hatLeast⟩ :=
    crystal_wait_bounded noCrystal 0x04 hwait 0 ⟨{}, 0, [], 0⟩
  have hlong := hatLeast rfl hmissing (by decide) (by decide)
  rw [cyclesDelayed_waits] at hatMost hlong
  change rounds * 20000 ≤ 1 * 1100000 at hatMost
  change 1 * 1100000 < rounds * 20000 + 20000 at hlong
  obtain rfl : rounds = 55 := by omega
  exact ⟨hwait, hmissing, running, t, hrun, hcalls⟩

end BoardHistory

end Msp430
