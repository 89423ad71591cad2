import Msp430.Proofs.Clock.Boot

/-!
Booting a board whose crystal never starts. The wait for the oscillators has no end of its own, so a
boot completes only if the step before it took LFXT1 away from the crystal. Where ACLK may fall back
to VLO it does, whether the crystal was tried, was left out or was refused its pins; the boot then
ends after a number of waits that is known beforehand.
-/
namespace Msp430

open Run

variable {M : Type}

/-! ## A board without a crystal -/

/-- A simulated clock module beside everything that the processor and the pins can change. All
requests to the processor are recorded, the oldest first. -/
structure Board (M : Type) where
  clock : ClockModule
  configuredHz : UInt32
  calls : List CpuCall
  rest : M

/-- How the surroundings of the clock module behave. -/
structure BoardParts (M : Type) where
  caps : ClockCapabilities
  serve : CpuCall → M → M
  route : PinRequest → M → Except PinError Unit × M

namespace Board

def clockCell : Cell (Board M) ClockModule := ⟨clock, fun clock b => { b with clock }⟩

def configuredCell : Cell (Board M) UInt32 :=
  ⟨configuredHz, fun configuredHz b => { b with configuredHz }⟩

def served (parts : BoardParts M) (b : Board M) (call : CpuCall) : Board M :=
  { b with calls := b.calls ++ [call], rest := parts.serve call b.rest }

end Board

namespace BoardParts

variable (parts : BoardParts M)

def system (load : UInt8) : ClockSystem (Board M) where
  port := ClockModule.port Board.clockCell fun _ => return ()
  caps := parts.caps.withXt1Load load
  configuredHz := Board.configuredCell

def cpu : Cpu (Board M) where
  feedWatchdog := modify (Board.served parts · .feed)
  delayCycles cycles := modify (Board.served parts · (.delay cycles))
  sleep mode := modify (Board.served parts · (.sleep mode))

def pins : PinRouter (Board M) where
  route request := modifyGet fun b =>
    ((parts.route request b.rest).1, { b with rest := (parts.route request b.rest).2 })

end BoardParts

/-- Requests of waits of the same length, one after another. -/
def waits (cycles : UInt32) (n : Nat) : List CpuCall :=
  (List.replicate n [.feed, .delay cycles]).flatten

theorem waits_succ (cycles : UInt32) (n : Nat) :
    waits cycles (n + 1) = .feed :: .delay cycles :: waits cycles n := by
  simp [waits, List.replicate_succ]

/-- From one board to another only by waits, and by what the waits change around it. -/
structure Board.Waited (cycles : UInt32) (n : Nat) (b t : Board M) : Prop where
  configuredHz : t.configuredHz = b.configuredHz
  calls : t.calls = b.calls ++ waits cycles n

theorem Board.Waited.after_round (parts : BoardParts M) {cycles : UInt32} {n : Nat}
    {b u t : Board M} (hu : u.calls = ((b.served parts .feed).served parts (.delay cycles)).calls)
    (hhz : u.configuredHz = b.configuredHz) (h : u.Waited cycles n t) :
    b.Waited cycles (n + 1) t where
  configuredHz := h.configuredHz.trans hhz
  calls := by
    rw [h.calls, hu, waits_succ]
    simp [Board.served]

/-! ## LFXT1 -/

namespace ClockModule

def faulted (m : ClockModule) : Bool := anyBits ClockField.lfxt1Fault m.lfxt1Bits

def mode (m : ClockModule) : Lfxt1Mode :=
  .ofCode (ClockField.lfxt1Mode.extract m.bcsctl3)

theorem faulted_of_dead {m : ClockModule} (hdead : m.crystalRunning = false)
    (hmode : m.mode ≠ .vlo) : m.faulted = true := by
  unfold mode at hmode
  rw [faulted, lfxt1Bits, if_pos ⟨hmode, by rw [hdead]; rfl⟩]
  exact anyBits_set_byte (by decide) _

theorem lfxt1Bits_of_vlo {m : ClockModule} (hmode : m.mode = .vlo) : m.lfxt1Bits = m.bcsctl3 := by
  unfold mode at hmode
  rw [lfxt1Bits, if_neg fun h => h.1 hmode]

/-- The load of the crystal lies outside the mode. -/
theorem mode_write_crystal (m : ClockModule) (load : UInt8) :
    (m.write .bcsctl3 (Lfxt1Mode.crystal.bits ||| (load &&& ClockField.loadCapacitance))).mode =
      .crystal := by
  have h : clearBits 0x01 ((0 : UInt8) ||| (load &&& 0x0C)) &&& 0x30 = 0 := by
    rw [UInt8.zero_or, clearBits, UInt8.and_assoc, UInt8.and_assoc,
      show (0x0C &&& (~~~0x01 &&& 0x30) : UInt8) = 0 from rfl, UInt8.and_zero]
  change Lfxt1Mode.ofCode ((clearBits 0x01 ((0 : UInt8) ||| (load &&& 0x0C)) &&& 0x30) >>> 4) = _
  rw [h]
  rfl

/-- LFXT1 runs from VLO and reports no fault. -/
structure OnVlo (m : ClockModule) : Prop where
  mode : m.mode = .vlo
  sound : m.faulted = false

theorem OnVlo.shown {m : ClockModule} (h : m.OnVlo) :
    Lfxt1Mode.ofCode (ClockField.lfxt1Mode.extract m.lfxt1Bits) = .vlo := by
  rw [lfxt1Bits_of_vlo h.mode]
  exact h.mode

theorem onVlo_write (m : ClockModule) (bits : UInt8) :
    (m.write .bcsctl3 (clearBits ClockField.lfxt1Fault
      (ClockField.lfxt1Mode.insert Lfxt1Mode.vlo.code bits))).OnVlo := by
  have hmode : (m.write .bcsctl3 (clearBits ClockField.lfxt1Fault
      (ClockField.lfxt1Mode.insert Lfxt1Mode.vlo.code bits))).mode = .vlo := by
    have h : clearBits 0x01 (clearBits 0x01 (replaceBits 0x30 0x20 bits)) &&& 0x30 = 0x20 := by
      rw [clearBits, clearBits, UInt8.and_assoc, UInt8.and_assoc, replaceBits_and,
        show (~~~0x30 &&& (~~~0x01 &&& (~~~0x01 &&& 0x30)) : UInt8) = 0 from rfl, UInt8.and_zero,
        UInt8.zero_or]
      rfl
    change Lfxt1Mode.ofCode
      ((clearBits 0x01 (clearBits 0x01 (replaceBits 0x30 0x20 bits)) &&& 0x30) >>> 4) = .vlo
    rw [h]
    rfl
  refine ⟨hmode, ?_⟩
  rw [faulted, lfxt1Bits_of_vlo hmode]
  exact anyBits_clear_byte _ _

end ClockModule

/-! ## Boots without a crystal -/

/-- The sources of ACLK that do without the crystal or can fall back from it. -/
def ClockSource.FallsBack (source : ClockSource) : Prop :=
  source = .vlo ∨ source = .xt1WithFallback ∨ source = .xt1OrVlo

instance (source : ClockSource) : Decidable source.FallsBack :=
  inferInstanceAs (Decidable (_ ∨ _ ∨ _))

/-- The waits for the oscillators: one for each fault that outlasts the two clears of the crystal
step, where that is taken, and at least one. -/
def BootPlan.recheckRounds (plan : BootPlan) (b : Board M) : Nat :=
  max 1 (b.clock.faults - if plan.startCrystal then 2 else 0)

/-- A known setting of the DCO whose rate is as near to the target as that of any other. -/
structure ClockCapabilities.Closest (caps : ClockCapabilities) (target : UInt32)
    (best : DcoCandidate) : Prop where
  known : best ∈ caps.powerUpCandidate :: caps.calibrated
  nearest : ∀ other ∈ caps.powerUpCandidate :: caps.calibrated,
    distance best.hz target ≤ distance other.hz target

theorem distance_nearest_le (target : UInt32) (best : DcoCandidate)
    (candidates : List DcoCandidate) : ∀ other ∈ best :: candidates,
      distance (DcoCandidate.nearest target best candidates).hz target ≤
        distance other.hz target := by
  induction candidates generalizing best with
  | nil =>
    intro other hother
    rw [List.mem_singleton.mp hother]
    exact Nat.le_refl _
  | cons candidate rest ih =>
    intro other hother
    rw [DcoCandidate.nearest]
    split
    case isTrue hnearer =>
      have hhead := ih candidate candidate List.mem_cons_self
      rcases List.mem_cons.mp hother with rfl | hother
      · omega
      · exact ih candidate other hother
    case isFalse hfarther =>
      have hhead := ih best best List.mem_cons_self
      rcases List.mem_cons.mp hother with rfl | hother
      · exact hhead
      · rcases List.mem_cons.mp hother with rfl | hother
        · omega
        · exact ih best other (List.mem_cons_of_mem _ hother)

theorem closest_candidateFor (caps : ClockCapabilities) (target : UInt32) :
    caps.Closest (if target = 0 then caps.powerUpHz else target) (caps.candidateFor target) :=
  ⟨caps.candidateFor_mem target, distance_nearest_le _ _ _⟩

/-! ## The crystal step -/

namespace BoardParts

variable (parts : BoardParts M) (load : UInt8)

/-- One settling round of a crystal that is not running finds it faulted. -/
theorem start_settle {b : Board M} (hfault : b.clock.faulted = true) (patience : Nat) :
    ((parts.system load).settle parts.cpu).start patience b =
      .ok false ((b.served parts .feed).served parts (.delay parts.caps.settleCycles)) := by
  change EStateM.Result.ok (!b.clock.faulted) _ = _
  rw [hfault]
  rfl

/-- The faulted crystal uses up its rounds. -/
theorem start_upTo_settle {b : Board M} (hfault : b.clock.faulted = true) (n patience : Nat) :
    ∃ t, (Run.upTo ((parts.system load).settle parts.cpu) n).start patience b = .ok () t ∧
      t.clock = b.clock ∧ b.Waited parts.caps.settleCycles n t := by
  induction n generalizing b with
  | zero => exact ⟨b, rfl, rfl, rfl, by simp [waits]⟩
  | succ n ih =>
    let u := (b.served parts .feed).served parts (.delay parts.caps.settleCycles)
    have hu : u.clock = b.clock := rfl
    obtain ⟨t, hrun, hclock, hwaited⟩ := ih (b := u) (by rw [hu]; exact hfault)
    refine ⟨t, ?_, hclock.trans hu, hwaited.after_round parts rfl rfl⟩
    rw [Run.upTo, start_bind_ok (start_settle parts load hfault patience)]
    exact hrun

theorem start_startCrystal {b : Board M} (hdead : b.clock.crystalRunning = false)
    (n patience : Nat) :
    ∃ t, ((parts.system load).startCrystal parts.cpu parts.pins (.rounds n)).start patience b =
        .ok false t ∧
      t.clock.crystalRunning = false ∧ t.clock.faults = b.clock.faults ∧
      b.Waited parts.caps.settleCycles
        (if (parts.route ⟨.lfxt1, .primary, true⟩ b.rest).1.isOk then n else 0) t := by
  let routed := parts.route ⟨.lfxt1, .primary, true⟩ b.rest
  have hroute : (parts.pins.route ⟨.lfxt1, .primary, true⟩).start patience b =
      .ok routed.1 { b with rest := routed.2 } := rfl
  rw [ClockSystem.startCrystal, start_bind_ok hroute]
  cases hanswer : routed.1 with
  | error why =>
    exact ⟨_, rfl, hdead, rfl, rfl, by simp [waits, Except.isOk, Except.toBool]⟩
  | ok granted =>
    let clock := b.clock.write .bcsctl3
      (Lfxt1Mode.crystal.bits ||| (load &&& ClockField.loadCapacitance))
    have hfault : clock.faulted = true := by
      apply ClockModule.faulted_of_dead (m := clock) hdead
      rw [ClockModule.mode_write_crystal]
      decide
    obtain ⟨t, hrun, hclock, hwaited⟩ := start_upTo_settle parts load
      (b := { b with rest := routed.2, clock := clock }) hfault n patience
    have hcheck : (do return !(← (parts.system load).port.lfxt1Faulted)).start patience t =
        .ok false t := by
      change EStateM.Result.ok (!t.clock.faulted) t = _
      rw [hclock, hfault]
      rfl
    have hwrite : ((parts.system load).port.write .bcsctl3 (Lfxt1Mode.crystal.bits |||
        (parts.system load).caps.xt1Load)).start patience { b with rest := routed.2 } =
          .ok () { b with rest := routed.2, clock := clock } := rfl
    refine ⟨t, ?_, by rw [hclock]; exact hdead, by rw [hclock]; rfl, hwaited.1, hwaited.2⟩
    simp only [start_bind_ok hwrite, start_bind_ok hrun]
    exact hcheck

/-- The rounds that a crystal gets: its budget, if it is tried and its pins are there. -/
def settleRounds (plan : BootPlan) (b : Board M) : Nat :=
  if plan.startCrystal ∧ (parts.route ⟨.lfxt1, .primary, true⟩ b.rest).1.isOk then
    (plan.retryBudget parts.caps.powerUpHz parts.caps.settleCycles).toInt.toNat
  else 0

/-- The fault is cleared before the crystal is tried and after that, whatever comes of it. -/
theorem start_configureCrystal {b : Board M} (hdead : b.clock.crystalRunning = false)
    (n patience : Nat) :
    ∃ t, ((parts.system load).configureCrystal parts.cpu parts.pins true (.rounds n)).start
        patience b = .ok false t ∧
      t.clock.crystalRunning = false ∧ t.clock.faults = b.clock.faults - 2 ∧
      b.Waited parts.caps.settleCycles
        (if (parts.route ⟨.lfxt1, .primary, true⟩ b.rest).1.isOk then n else 0) t := by
  let cleared : Board M := { b with clock := b.clock.clearFault }
  let gaveUp (t : Board M) : Board M :=
    { t with
      clock := t.clock.clearFault.write .bcsctl3 Lfxt1Mode.vlo.bits
      rest := (parts.route ⟨.lfxt1, .primary, false⟩ t.rest).2 }
  have hclear : (parts.system load).port.clearFault.start patience b = .ok () cleared := rfl
  have hfaults : cleared.clock.faults - 1 = b.clock.faults - 2 := Nat.sub_sub _ 1 1
  by_cases hn : n = 0
  · subst hn
    exact ⟨gaveUp cleared, rfl, hdead, hfaults, rfl, by simp [waits, gaveUp, cleared]⟩
  · obtain ⟨t, hrun, hstill, hkept, hhz, hcalls⟩ :=
      start_startCrystal parts load (b := cleared) hdead n patience
    refine ⟨gaveUp t, ?_, hstill, ?_, hhz, hcalls⟩
    · have htried : true = true ∧ RetryBudget.rounds n ≠ .rounds 0 := ⟨rfl, by simpa using hn⟩
      rw [ClockSystem.configureCrystal, start_bind_ok hclear]
      dsimp only
      rw [if_pos htried, start_bind_ok hrun]
      rfl
    · rw [← hfaults, ← hkept]
      rfl

/-! ## ACLK -/

theorem start_lfxt1ModeFor {source : ClockSource} (hsource : source.FallsBack) {b : Board M}
    (hdead : b.clock.crystalRunning = false) (patience : Nat) :
    ((parts.system load).lfxt1ModeFor source).run.start patience b = .ok (.ok .vlo) b := by
  have hcheck : (do
      if (← (parts.system load).port.lfxt1Mode) = .vlo then
        return .vlo
      return if ← (parts.system load).port.lfxt1Faulted then .vlo else .crystal :
        ExceptT ClockError (Run (Board M)) Lfxt1Mode).run.start patience b = .ok (.ok .vlo) b := by
    have hmode : (parts.system load).port.lfxt1Mode.start patience b =
        .ok (.ofCode (ClockField.lfxt1Mode.extract b.clock.lfxt1Bits)) b := rfl
    have hfault : (parts.system load).port.lfxt1Faulted.start patience b =
        .ok b.clock.faulted b := rfl
    rw [run_liftM_bind, start_bind_ok hmode]
    by_cases hv : b.clock.mode = .vlo
    · rw [ClockModule.lfxt1Bits_of_vlo hv]
      unfold ClockModule.mode at hv
      rw [if_pos hv]
      rfl
    · split
      · rfl
      · rw [run_liftM_bind, start_bind_ok hfault, ClockModule.faulted_of_dead hdead hv]
        rfl
  rcases hsource with rfl | rfl | rfl
  · rfl
  · exact hcheck
  · exact hcheck

theorem start_configureAclk {source : ClockSource} (hsource : source.FallsBack) (shift : UInt8)
    {b : Board M} (hdead : b.clock.crystalRunning = false) (patience : Nat) :
    ∃ clock, ((parts.system load).configureAclk source shift).run.start patience b =
        .ok (.ok ()) { b with clock } ∧
      clock.OnVlo ∧ clock.faults = b.clock.faults := by
  let divided := b.clock.write .bcsctl1
    (ClockField.aclkDivider.insert shift (b.clock.read .bcsctl1))
  let clock := divided.write .bcsctl3 (clearBits ClockField.lfxt1Fault
    (ClockField.lfxt1Mode.insert Lfxt1Mode.vlo.code (divided.read .bcsctl3)))
  refine ⟨clock, ?_, ClockModule.onVlo_write divided _, rfl⟩
  rw [ClockSystem.configureAclk, ExceptT.run_bind,
    start_bind_ok (start_lfxt1ModeFor parts load hsource hdead patience)]
  rfl

/-! ## MCLK -/

theorem start_programDco (target : UInt32) (b : Board M) (patience : Nat) :
    ∃ clock, ((parts.system load).programDco target).start patience b =
        .ok () { b with clock, configuredHz := (parts.caps.candidateFor target).hz } ∧
      (b.clock.OnVlo → clock.OnVlo) ∧ clock.faults = b.clock.faults :=
  ⟨_, rfl, fun h => ⟨h.mode, h.sound⟩, rfl⟩

/-- One wait for the oscillators, which tells whether there is no fault any more. -/
def recheck : Run (Board M) Bool := do
  (parts.system load).port.clearFault
  parts.cpu.feedWatchdog
  parts.cpu.delayCycles (ClockSystem.cyclesPerMicro * parts.caps.recheckMicros)
  return !(← (parts.system load).port.faultFlag)

def rechecked (b : Board M) : Board M :=
  ({ b with clock := b.clock.clearFault }.served parts .feed).served parts
    (.delay (ClockSystem.cyclesPerMicro * parts.caps.recheckMicros))

theorem start_recheck {b : Board M} (hvlo : b.clock.OnVlo) (patience : Nat) :
    (parts.recheck load).start patience b =
      .ok (!decide (1 < b.clock.faults)) (parts.rechecked b) := by
  have hvlo' : (parts.rechecked b).clock.OnVlo := ⟨hvlo.mode, hvlo.sound⟩
  have hflag : (parts.rechecked b).clock.faultFlag = decide (1 < b.clock.faults) := by
    have hsound : anyBits ClockField.lfxt1Fault (parts.rechecked b).clock.lfxt1Bits = false :=
      hvlo'.sound
    rw [ClockModule.faultFlag, hsound, Bool.or_false]
    change decide (0 < b.clock.faults - 1) = _
    congr 1
    apply propext
    omega
  rw [← hflag]
  rfl

/-- Every wait clears one fault and there is at least one wait. With LFXT1 on VLO nothing raises
another fault. -/
theorem start_awaitOscillators {b : Board M} (hvlo : b.clock.OnVlo) {patience : Nat}
    (hpatience : max 1 b.clock.faults ≤ patience) :
    ∃ t, ((parts.system load).awaitOscillators parts.cpu).start patience b = .ok () t ∧
      t.clock = { b.clock with faults := 0 } ∧
      b.Waited (ClockSystem.cyclesPerMicro * parts.caps.recheckMicros)
        (max 1 b.clock.faults) t := by
  let step (_ : Unit) : Run (Board M) (Progress Unit Unit) := do
    return if ← parts.recheck load then .finished () else .again ()
  have waiting (n : Nat) (b : Board M) (hvlo : b.clock.OnVlo) (hn : max 1 b.clock.faults ≤ n) :
      ∃ t, (loopWithin step n ()).start patience b = .ok () t ∧
        t.clock = { b.clock with faults := 0 } ∧
        b.Waited (ClockSystem.cyclesPerMicro * parts.caps.recheckMicros)
          (max 1 b.clock.faults) t := by
    induction n generalizing b with
    | zero => omega
    | succ n ih =>
      have hround := start_recheck parts load hvlo patience
      have hfaults : (parts.rechecked b).clock.faults = b.clock.faults - 1 := rfl
      by_cases hmore : 1 < b.clock.faults
      · rw [decide_eq_true hmore] at hround
        have hagain : (step ()).start patience b = .ok (.again ()) (parts.rechecked b) := by
          rw [start_bind_ok hround]
          rfl
        obtain ⟨t, hrun, hclock, hwaited⟩ := ih (parts.rechecked b) ⟨hvlo.mode, hvlo.sound⟩
          (by omega)
        have hcount : max 1 b.clock.faults = max 1 (parts.rechecked b).clock.faults + 1 := by
          omega
        refine ⟨t, (start_loopWithin_again hagain n).trans hrun, hclock, ?_⟩
        rw [hcount]
        exact .after_round parts (u := parts.rechecked b) rfl rfl hwaited
      · rw [decide_eq_false hmore] at hround
        have hdone : (step ()).start patience b = .ok (.finished ()) (parts.rechecked b) := by
          rw [start_bind_ok hround]
          rfl
        have hnone : b.clock.faults - 1 = 0 := by omega
        have hcount : max 1 b.clock.faults = 0 + 1 := by omega
        refine ⟨parts.rechecked b, start_loopWithin_finished hdone n, ?_, ?_⟩
        · rw [← hnone]
          rfl
        · have hstay : (parts.rechecked b).Waited
              (ClockSystem.cyclesPerMicro * parts.caps.recheckMicros) 0 (parts.rechecked b) :=
            ⟨rfl, by simp [waits]⟩
          rw [hcount]
          exact .after_round parts (u := parts.rechecked b) rfl rfl hstay
  exact waiting patience b hvlo hpatience

/-! ## The whole boot -/

/-- What a boot that could not use the crystal reports and leaves behind. -/
structure FellBack (plan : BootPlan) (b : Board M) (report : BootReport) (t : Board M) :
    Prop where
  crystal : report.crystalRunning = false
  aclk : ∀ patience, (parts.system load).aclkSource.start patience t = .ok .vlo t
  aclkHz : report.aclkHz =
    parts.caps.vloHz >>> (ClockField.aclkDivider.extract t.clock.bcsctl1).toUInt32
  closest : parts.caps.Closest (if plan.mclkHz = 0 then parts.caps.powerUpHz else plan.mclkHz)
    (parts.caps.candidateFor plan.mclkHz)
  dcoctl : t.clock.dcoctl = (parts.caps.candidateFor plan.mclkHz).setting.dcoctl
  bcsctl1 : t.clock.bcsctl1 = (parts.caps.candidateFor plan.mclkHz).setting.bcsctl1
  mclkHz : report.mclkHz = (parts.caps.candidateFor plan.mclkHz).hz
  smclkHz : report.smclkHz = report.mclkHz >>> plan.smclkShift.toUInt32
  calls : t.calls = b.calls ++
    (waits parts.caps.settleCycles (parts.settleRounds plan b) ++
      waits (ClockSystem.cyclesPerMicro * parts.caps.recheckMicros) (plan.recheckRounds b))

theorem obeyed : (parts.system load).Obeyed fun b r => b.clock.read r :=
  ClockModule.obeyed _ ⟨fun _ _ => rfl, fun _ _ _ => rfl, fun _ => rfl⟩
    ⟨fun _ _ => rfl, fun _ _ _ => rfl, fun _ => rfl⟩ (fun _ _ => rfl) (fun _ _ => rfl)
    fun _ => leaves_pure _ _

theorem leaves_served (call : CpuCall) :
    (modify (Board.served parts · call) : Run (Board M) Unit).Leaves
      ((parts.system load).settings fun b r => b.clock.read r) :=
  fun _ _ _ hs => hs

/-- The step with the crystal, where it is taken at all. -/
theorem start_crystalStep {plan : BootPlan} (hwait : 0 ≤ plan.crystalSeconds) {b : Board M}
    (hdead : b.clock.crystalRunning = false) (patience : Nat) :
    ∃ t, (if plan.startCrystal then
          (parts.system load).configureCrystal parts.cpu parts.pins true
            (plan.retryBudget parts.caps.powerUpHz parts.caps.settleCycles)
        else pure false).start patience b = .ok false t ∧
      t.clock.crystalRunning = false ∧
      t.clock.faults = b.clock.faults - (if plan.startCrystal then 2 else 0) ∧
      b.Waited parts.caps.settleCycles (parts.settleRounds plan b) t := by
  unfold settleRounds
  by_cases hstart : plan.startCrystal
  · have hbudget : ∃ n, plan.retryBudget parts.caps.powerUpHz parts.caps.settleCycles =
        .rounds n := by
      unfold BootPlan.retryBudget
      rw [if_neg (by omega)]
      exact ⟨_, rfl⟩
    obtain ⟨n, hn⟩ := hbudget
    obtain ⟨t, hrun, hstill, hfaults, hwaited⟩ :=
      start_configureCrystal parts load hdead n patience
    refine ⟨t, ?_, hstill, ?_, ?_⟩
    · rw [if_pos hstart, hn]
      exact hrun
    · rw [if_pos hstart]
      exact hfaults
    · simp only [hstart, hn, true_and]
      exact hwaited
  · refine ⟨b, ?_, hdead, ?_, rfl, ?_⟩
    · rw [if_neg hstart]
      rfl
    · rw [if_neg hstart]
      rfl
    · simp [hstart, waits]

/-- MCLK is reached from any state in which LFXT1 runs from VLO, and LFXT1 stays there. -/
theorem start_configureMclk (target : UInt32) {b : Board M} (hvlo : b.clock.OnVlo) {patience : Nat}
    (hpatience : max 1 b.clock.faults ≤ patience) :
    ∃ hz t, ((parts.system load).configureMclk parts.cpu target).start patience b = .ok hz t ∧
      t.clock.OnVlo ∧
      t.calls = b.calls ++ waits (ClockSystem.cyclesPerMicro * parts.caps.recheckMicros)
        (max 1 b.clock.faults) := by
  obtain ⟨clock, hprogram, hkept, hfaults⟩ := start_programDco parts load target b patience
  let u : Board M := { b with clock, configuredHz := (parts.caps.candidateFor target).hz }
  have hpolls : max 1 u.clock.faults ≤ patience := by
    change max 1 clock.faults ≤ patience
    rw [hfaults]
    exact hpatience
  obtain ⟨t, hawait, hclock, hwaited⟩ :=
    start_awaitOscillators parts load (b := u) (hkept hvlo) hpolls
  refine ⟨t.configuredHz, t, ?_, ?_, ?_⟩
  · rw [ClockSystem.configureMclk, start_bind_ok hprogram, start_bind_ok hawait]
    rfl
  · rw [hclock]
    exact ⟨(hkept hvlo).mode, (hkept hvlo).sound⟩
  · rw [hwaited.calls, show u.clock.faults = b.clock.faults from hfaults]

/-- The report of a boot on VLO: MCLK at the candidate's rate, SMCLK behind its divider and ACLK
behind the divider that is left in BCSCTL1. -/
def vloReport (plan : BootPlan) (t : Board M) : BootReport where
  crystalRunning := false
  aclkHz := parts.caps.vloHz >>> (ClockField.aclkDivider.extract t.clock.bcsctl1).toUInt32
  smclkHz := (parts.caps.candidateFor plan.mclkHz).hz >>> plan.smclkShift.toUInt32
  mclkHz := (parts.caps.candidateFor plan.mclkHz).hz

/-- The choice of the three clocks once the crystal is given up. -/
theorem start_clockSteps {plan : BootPlan} (hsource : plan.aclkSource.FallsBack)
    (hshift : plan.smclkShift ≤ 3) {b : Board M} (hdead : b.clock.crystalRunning = false)
    {patience : Nat} (hpatience : max 1 b.clock.faults ≤ patience) :
    ∃ t, (do
        (parts.system load).configureAclk plan.aclkSource plan.aclkShift
        discard ((parts.system load).configureMclk parts.cpu plan.mclkHz)
        (parts.system load).configureSmclk .dco plan.smclkShift
        return ⟨false, ← (parts.system load).aclkHz, ← (parts.system load).smclkHz,
          ← (parts.system load).mclkHz⟩ :
            ExceptT ClockError (Run (Board M)) BootReport).run.start patience b =
          .ok (.ok (parts.vloReport plan t)) t ∧
      t.clock.OnVlo ∧
      t.clock.dcoctl = (parts.caps.candidateFor plan.mclkHz).setting.dcoctl ∧
      t.clock.bcsctl1 = (parts.caps.candidateFor plan.mclkHz).setting.bcsctl1 ∧
      t.calls = b.calls ++ waits (ClockSystem.cyclesPerMicro * parts.caps.recheckMicros)
        (max 1 b.clock.faults) := by
  have hc := parts.obeyed load
  obtain ⟨clock, haclk, hvlo, hkept⟩ :=
    start_configureAclk parts load hsource plan.aclkShift hdead patience
  have hrounds : max 1 clock.faults ≤ patience := by
    rw [hkept]
    exact hpatience
  obtain ⟨hz, u, hmclk, hvlo_u, hcalls_u⟩ := start_configureMclk parts load plan.mclkHz
    (b := { b with clock }) hvlo hrounds
  obtain ⟨t, hsmclk, hvlo_t, hcalls⟩ : ∃ t,
      ((parts.system load).configureSmclk .dco plan.smclkShift).start patience u = .ok () t ∧
        t.clock.OnVlo ∧ t.calls = u.calls :=
    ⟨_, rfl, ⟨hvlo_u.mode, hvlo_u.sound⟩, rfl⟩
  obtain ⟨v, hv⟩ := (ClockSystem.triple_configureMclk hc (leaves_served parts load .feed)
    (fun cycles => leaves_served parts load (.delay cycles)) plan.mclkHz).of_start trivial hmclk
  have hsettings := (ClockSystem.triple_configureSmclk hc plan.smclkShift).of_start hv hsmclk
  have driven : DcoDriven (t.clock.read .bcsctl2) plan.smclkShift := by
    rw [show t.clock.read .bcsctl2 = _ from congrArg ClockSettings.bcsctl2 hsettings]
    exact dcoDriven_divided_programmed v _ hshift
  have hhz : ((parts.system load).settings (fun b r => b.clock.read r) t).configuredHz =
      (parts.caps.candidateFor plan.mclkHz).hz := by
    rw [hsettings]
    rfl
  have hlfxt1 : (parts.system load).lfxt1Rate (t.clock.read .bcsctl3) = parts.caps.vloHz :=
    if_pos hvlo_t.shown
  refine ⟨t, ?_, hvlo_t, congrArg ClockSettings.dcoctl hsettings,
    congrArg ClockSettings.bcsctl1 hsettings, ?_⟩
  · rw [ExceptT.run_bind, start_bind_ok haclk]
    simp only [run_discard_bind, run_liftM_bind, start_bind_ok hmclk, start_bind_ok hsmclk,
      start_bind_ok (ClockSystem.start_aclkHz hc patience t),
      start_bind_ok (ClockSystem.start_smclkHz hc driven patience),
      start_bind_ok (ClockSystem.start_mclkHz hc driven patience), hhz, hlfxt1]
    rfl
  · rw [hcalls, hcalls_u, hkept]

/-- A boot whose ACLK may run from VLO completes without a crystal. It reports that the crystal is
not running, leaves ACLK on VLO, MCLK at the closest known setting and SMCLK behind its divider, and
asks nothing of the processor but the settling rounds of the crystal and the waits for the
oscillators. -/
theorem boot_falls_back (plan : BootPlan) (hwait : 0 ≤ plan.crystalSeconds)
    (hsource : plan.aclkSource.FallsBack) (hshift : plan.smclkShift ≤ 3) {b : Board M}
    (hdead : b.clock.crystalRunning = false) {patience : Nat}
    (hpatience : plan.recheckRounds b ≤ patience) :
    ∃ report t, ((parts.system load).boot parts.cpu parts.pins plan).run.start patience b =
        .ok (.ok report) t ∧ parts.FellBack load plan b report t := by
  obtain ⟨u, hcrystal, hstill, hfaults, -, hcalls_u⟩ :=
    start_crystalStep parts load hwait hdead patience
  have hrounds : max 1 u.clock.faults = plan.recheckRounds b := by
    rw [hfaults]
    rfl
  have hlimit : max 1 u.clock.faults ≤ patience := by
    rw [hrounds]
    exact hpatience
  obtain ⟨t, hclocks, hvlo, hdcoctl, hbcsctl1, hcalls⟩ :=
    start_clockSteps parts load hsource hshift hstill hlimit
  refine ⟨parts.vloReport plan t, t, ?_, ?_⟩
  · rw [ClockSystem.boot]
    split at hcrystal
    case isTrue hstart =>
      rw [if_pos hstart, run_liftM_bind]
      exact (start_bind_ok hcrystal _).trans hclocks
    case isFalse hstart =>
      rw [if_neg hstart]
      cases hcrystal
      exact hclocks
  · constructor
    case crystal => rfl
    case aclk =>
      intro patience
      have hmode : (parts.system load).port.lfxt1Mode.start patience t =
          .ok (.ofCode (ClockField.lfxt1Mode.extract t.clock.lfxt1Bits)) t := rfl
      rw [hvlo.shown] at hmode
      rw [ClockSystem.aclkSource, start_bind_ok hmode]
      rfl
    case aclkHz => rfl
    case closest => exact closest_candidateFor _ _
    case dcoctl => exact hdcoctl
    case bcsctl1 => exact hbcsctl1
    case mclkHz => rfl
    case smclkHz => rfl
    case calls => rw [hcalls, hrounds, hcalls_u, List.append_assoc]

end BoardParts

/-! ## The usual boot of a board whose crystal is missing -/

/-- A board that always has the pins of the crystal and whose processor leaves no mark. -/
def launchParts : BoardParts Unit := ⟨launchClock.caps, fun _ _ => (), fun _ _ => (.ok (), ())⟩

def crystalMissing : Board Unit := ⟨{ crystalRunning := false, faults := 5 }, 0, [], ()⟩

/-- One second is 55 settling rounds, and three of the five faults are left after them. -/
theorem boot_falls_back_missing :
    launchParts.settleRounds {} crystalMissing = 55 ∧
      BootPlan.recheckRounds {} crystalMissing = 3 ∧
      ∃ report t, ((launchParts.system 0x04).boot launchParts.cpu launchParts.pins {}).run.start 3
          crystalMissing = .ok (.ok report) t ∧
        launchParts.FellBack 0x04 {} crystalMissing report t :=
  ⟨by decide, by decide, launchParts.boot_falls_back 0x04 {} (by decide) (by decide)
    (by decide) (b := crystalMissing) rfl (by decide)⟩

end Msp430
