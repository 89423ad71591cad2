import Msp430.Proofs.Clock.Fallback

/-!
Which setting of the DCO is chosen for MCLK, and how it gets into the registers. It is the known one
nearest to the target: the power-up setting if nothing is nearer, else the slowest of the nearest.
-/
namespace Msp430

open Run

/-! ## Where calibrations come from -/

/-- The two bytes that the factory stores for a rate, the fastest rate first. -/
def CalibratedRate.stored (bytes : Vector UInt8 8) : CalibratedRate → UInt8 × UInt8
  | .mhz16 => (bytes.get 0, bytes.get 1)
  | .mhz12 => (bytes.get 2, bytes.get 3)
  | .mhz8 => (bytes.get 4, bytes.get 5)
  | .mhz1 => (bytes.get 6, bytes.get 7)

theorem CalibratedRate.index_inj {a b : CalibratedRate} : a.index = b.index ↔ a = b := by
  cases a <;> cases b <;> decide

theorem ClockCapabilities.calibration_withCalibration (caps : ClockCapabilities)
    (changed : CalibratedRate) (setting : DcoSetting) (rate : CalibratedRate) :
    (caps.withCalibration changed setting).calibration rate =
      if rate = changed then some setting else caps.calibration rate := by
  simp only [calibration, withCalibration, Fin.getElem_fin, Vector.getElem_set, Fin.val_inj,
    CalibratedRate.index_inj, eq_comm]

/-- How the calibrations of a device became known: from its memory, or rate by rate. -/
inductive Calibrations where
  | missing
  | stored (bytes : Vector UInt8 8)
  | given (earlier : Calibrations) (rate : CalibratedRate) (setting : DcoSetting)

namespace Calibrations

def caps : Calibrations → ClockCapabilities
  | .missing => {}
  | .stored bytes => .ofBytes bytes
  | .given earlier rate setting => earlier.caps.withCalibration rate setting

/-- Erased bytes are no calibration, and one that is given replaces what was there. -/
def setting : Calibrations → CalibratedRate → Option DcoSetting
  | .missing, _ => none
  | .stored bytes, rate =>
    if rate.stored bytes = (0xFF, 0xFF) then none
    else some ⟨(rate.stored bytes).1, (rate.stored bytes).2⟩
  | .given earlier changed new, rate => if rate = changed then some new else earlier.setting rate

theorem calibration_caps (known : Calibrations) (rate : CalibratedRate) :
    known.caps.calibration rate = known.setting rate := by
  induction known with
  | missing => cases rate <;> rfl
  | stored bytes =>
    have pairs (a b : UInt8) : ClockCapabilities.settingOfBytes a b =
        if (a, b) = (0xFF, 0xFF) then none else some ⟨a, b⟩ := by
      simp only [ClockCapabilities.settingOfBytes, Prod.mk.injEq]
    cases rate <;> exact pairs _ _
  | given earlier changed new ih =>
    rw [caps, ClockCapabilities.calibration_withCalibration, ih, setting]

end Calibrations

/-! ## The choice -/

/-- All candidates before the chosen one are farther from the target. -/
theorem nearest_first (target : UInt32) (best : DcoCandidate) (candidates : List DcoCandidate) :
    ∃ before after,
      best :: candidates = before ++ DcoCandidate.nearest target best candidates :: after ∧
        ∀ other ∈ before, distance (DcoCandidate.nearest target best candidates).hz target <
          distance other.hz target := by
  induction candidates generalizing best with
  | nil => exact ⟨[], [], rfl, by simp⟩
  | cons candidate rest ih =>
    have least := distance_nearest_le target best (candidate :: rest)
    rw [DcoCandidate.nearest] at least ⊢
    by_cases hnearer : distance candidate.hz target < distance best.hz target
    · rw [if_pos hnearer] at least ⊢
      obtain ⟨before, after, hsplit, farther⟩ := ih candidate
      have hle := least candidate (by simp)
      refine ⟨best :: before, after, by rw [hsplit]; rfl, ?_⟩
      exact List.forall_mem_cons.mpr ⟨by omega, farther⟩
    · rw [if_neg hnearer] at least ⊢
      obtain ⟨before, after, hsplit, farther⟩ := ih best
      -- the candidate that is passed over goes behind the best one or before a later one
      cases before with
      | nil =>
        obtain ⟨hbest, hrest⟩ := List.cons.inj hsplit
        refine ⟨[], candidate :: after, ?_, by simp⟩
        rw [List.nil_append, ← hbest, ← hrest]
      | cons head before =>
        obtain ⟨rfl, hrest⟩ := List.cons.inj hsplit
        obtain ⟨hhead, hbefore⟩ := List.forall_mem_cons.mp farther
        refine ⟨best :: candidate :: before, after, ?_, ?_⟩
        · exact congrArg (best :: candidate :: ·) hrest
        · exact List.forall_mem_cons.mpr
            ⟨hhead, List.forall_mem_cons.mpr ⟨by omega, hbefore⟩⟩

/-- The candidate to run MCLK at, of the power-up setting and those that are known for some of the
calibrated rates. -/
inductive Optimal (known : CalibratedRate → Option DcoSetting) (powerUpHz target : UInt32) :
    DcoCandidate → Prop
  | powerUp (nearest : ∀ other, (known other).isSome = true →
        distance powerUpHz target ≤ distance other.hz target) :
      Optimal known powerUpHz target ⟨.powerUp, powerUpHz⟩
  | calibrated {rate : CalibratedRate} {setting : DcoSetting} (present : known rate = some setting)
      (nearer : distance rate.hz target < distance powerUpHz target)
      (nearest : ∀ other, (known other).isSome = true →
        distance rate.hz target ≤ distance other.hz target)
      (slowest : ∀ other, (known other).isSome = true → other.hz < rate.hz →
        distance rate.hz target < distance other.hz target) :
      Optimal known powerUpHz target ⟨setting, rate.hz⟩

/-- The power-up rate is reached by the power-up setting alone. -/
theorem Optimal.at_powerUp {known : CalibratedRate → Option DcoSetting} {powerUpHz : UInt32}
    {best : DcoCandidate} (h : Optimal known powerUpHz powerUpHz best) :
    best = ⟨.powerUp, powerUpHz⟩ := by
  cases h with
  | powerUp _ => rfl
  | calibrated _ nearer =>
    rw [show distance powerUpHz powerUpHz = 0 by simp [distance]] at nearer
    exact absurd nearer (Nat.not_lt_zero _)

namespace ClockCapabilities

variable {caps : ClockCapabilities}

theorem mem_calibrated {candidate : DcoCandidate} : candidate ∈ caps.calibrated ↔
    ∃ rate setting, caps.calibration rate = some setting ∧ candidate = ⟨setting, rate.hz⟩ := by
  constructor
  · intro h
    obtain ⟨rate, -, hrate⟩ := List.mem_filterMap.mp h
    obtain ⟨setting, hsetting, rfl⟩ := Option.map_eq_some_iff.mp hrate
    exact ⟨rate, setting, hsetting, rfl⟩
  · rintro ⟨rate, setting, hsetting, rfl⟩
    have listed : rate ∈ CalibratedRate.slowestFirst := by cases rate <;> decide
    exact List.mem_filterMap.mpr ⟨rate, listed, by rw [hsetting]; rfl⟩

theorem exists_candidate {rate : CalibratedRate} (h : (caps.calibration rate).isSome = true) :
    ∃ candidate ∈ caps.calibrated, candidate.hz = rate.hz := by
  obtain ⟨setting, hsetting⟩ := Option.isSome_iff_exists.mp h
  exact ⟨⟨setting, rate.hz⟩, mem_calibrated.mpr ⟨rate, setting, hsetting, rfl⟩, rfl⟩

theorem slowest_first : caps.calibrated.Pairwise fun a b => a.hz < b.hz := by
  have order : CalibratedRate.slowestFirst.Pairwise fun a b => a.hz < b.hz := by decide
  refine order.filterMap _ fun a b hab x hx y hy => ?_
  obtain ⟨_, -, rfl⟩ := Option.map_eq_some_iff.mp hx
  obtain ⟨_, -, rfl⟩ := Option.map_eq_some_iff.mp hy
  exact hab

theorem optimal_candidateFor (target : UInt32) :
    Optimal caps.calibration caps.powerUpHz (if target = 0 then caps.powerUpHz else target)
      (caps.candidateFor target) := by
  have closest := (closest_candidateFor caps target).nearest
  have nearest (other : CalibratedRate) (hother : (caps.calibration other).isSome = true) :
      distance (caps.candidateFor target).hz (if target = 0 then caps.powerUpHz else target) ≤
        distance other.hz (if target = 0 then caps.powerUpHz else target) := by
    obtain ⟨candidate, hm, hhz⟩ := exists_candidate hother
    rw [← hhz]
    exact closest candidate (List.mem_cons_of_mem _ hm)
  obtain ⟨before, after, hsplit, farther⟩ := nearest_first
    (if target = 0 then caps.powerUpHz else target) caps.powerUpCandidate caps.calibrated
  rw [← candidateFor] at hsplit farther
  generalize caps.candidateFor target = best at nearest hsplit farther ⊢
  cases before with
  | nil =>
    obtain ⟨rfl, -⟩ := List.cons.inj hsplit
    exact .powerUp nearest
  | cons head before =>
    obtain ⟨rfl, hcalibrated⟩ := List.cons.inj hsplit
    obtain ⟨hpowerUp, farther⟩ := List.forall_mem_cons.mp farther
    rw [List.append_eq] at hcalibrated
    have hbest : best ∈ caps.calibrated := by simp [hcalibrated]
    have order := caps.slowest_first
    rw [hcalibrated] at order
    have faster := (List.pairwise_cons.mp (List.pairwise_append.mp order).2.1).1
    obtain ⟨rate, setting, present, rfl⟩ := mem_calibrated.mp hbest
    refine .calibrated present hpowerUp nearest fun other hother hslower => ?_
    obtain ⟨candidate, hm, hhz⟩ := exists_candidate hother
    rw [← hhz] at hslower ⊢
    rw [hcalibrated, List.mem_append, List.mem_cons] at hm
    -- a slower candidate can only be before the best one
    rcases hm with hm | rfl | hm
    · exact farther candidate hm
    · exact absurd hslower (UInt32.lt_irrefl _)
    · exact absurd hslower (UInt32.lt_asymm (faster candidate hm))

end ClockCapabilities

/-! ## The registers -/

/-- A clock module all accesses to which are logged, the oldest first, beside everything else. -/
structure LoggedClock (M : Type) where
  clock : ClockModule
  configuredHz : UInt32
  accesses : List ClockAccess
  rest : M

/-- What only drivers change about a logged clock: the settings, and that they were written. The
crystal and the faults come and go. -/
structure ClockTrace where
  settings : ClockSettings
  bcsctl3 : UInt8
  accesses : List ClockAccess
  deriving DecidableEq, Repr

namespace ClockTrace

def cleared (v : ClockTrace) : ClockTrace := { v with accesses := v.accesses ++ [.clearFault] }

/-- The bits of BCSCTL2 that MCLK is chosen with. -/
def mclkBits : UInt8 := ClockField.mclkSelect.mask ||| ClockField.mclkDivider.mask

/-- How programming a candidate and waiting for its oscillators changes the trace. The DCO is at
rest, with neither tap nor modulator, while its range changes. -/
structure Programmed (best : DcoCandidate) (v w : ClockTrace) : Prop where
  dcoctl : w.settings.dcoctl = best.setting.dcoctl
  bcsctl1 : w.settings.bcsctl1 = best.setting.bcsctl1
  configuredHz : w.settings.configuredHz = best.hz
  mclkSelect : ClockField.mclkSelect.extract w.settings.bcsctl2 = 0
  mclkDivider : ClockField.mclkDivider.extract w.settings.bcsctl2 = 0
  otherBits : clearBits mclkBits w.settings.bcsctl2 = clearBits mclkBits v.settings.bcsctl2
  bcsctl3 : w.bcsctl3 = v.bcsctl3
  accesses : ∃ rounds, w.accesses = v.accesses ++
    ([.write .dcoctl 0, .write .bcsctl1 best.setting.bcsctl1,
      .write .dcoctl best.setting.dcoctl, .write .bcsctl2 w.settings.bcsctl2] ++
    List.replicate rounds .clearFault)

theorem Programmed.cleared {best : DcoCandidate} {v w : ClockTrace} (h : Programmed best v w) :
    Programmed best v w.cleared where
  dcoctl := h.dcoctl
  bcsctl1 := h.bcsctl1
  configuredHz := h.configuredHz
  mclkSelect := h.mclkSelect
  mclkDivider := h.mclkDivider
  otherBits := h.otherBits
  bcsctl3 := h.bcsctl3
  accesses := by
    obtain ⟨rounds, haccesses⟩ := h.accesses
    refine ⟨rounds + 1, ?_⟩
    rw [ClockTrace.cleared, haccesses, List.replicate_succ', List.append_assoc, List.append_assoc]

end ClockTrace

namespace LoggedClock

variable {M : Type}

def clockCell : Cell (LoggedClock M) ClockModule := ⟨clock, fun clock s => { s with clock }⟩

def configuredCell : Cell (LoggedClock M) UInt32 :=
  ⟨configuredHz, fun configuredHz s => { s with configuredHz }⟩

def system (caps : ClockCapabilities) : ClockSystem (LoggedClock M) where
  port := ClockModule.port clockCell fun access =>
    modify fun s => { s with accesses := s.accesses ++ [access] }
  caps
  configuredHz := configuredCell

def trace (s : LoggedClock M) : ClockTrace :=
  ⟨s.clock.settings s.configuredHz, s.clock.bcsctl3, s.accesses⟩

variable (caps : ClockCapabilities)

theorem start_programDco (target : UInt32) (patience : Nat) (s : LoggedClock M) :
    ∃ t, ((system caps).programDco target).start patience s = .ok () t ∧
      ClockTrace.Programmed (caps.candidateFor target) s.trace t.trace := by
  let best := caps.candidateFor target
  let bcsctl2 := clearBits ClockTrace.mclkBits s.clock.bcsctl2
  let t : LoggedClock M :=
    { clock := { s.clock with
        dcoctl := best.setting.dcoctl, bcsctl1 := best.setting.bcsctl1, bcsctl2 }
      configuredHz := best.hz
      accesses := s.accesses ++ [.write .dcoctl 0] ++ [.write .bcsctl1 best.setting.bcsctl1] ++
        [.write .dcoctl best.setting.dcoctl] ++ [.write .bcsctl2 bcsctl2]
      rest := s.rest }
  refine ⟨t, rfl, rfl, rfl, rfl, ?_, ?_, clearBits_clearBits _ _, rfl, 0, ?_⟩
  · exact extract_clearBits (f := ClockField.mclkSelect) rfl s.clock.bcsctl2
  · exact extract_clearBits (f := ClockField.mclkDivider) rfl s.clock.bcsctl2
  · change s.accesses ++ _ ++ _ ++ _ ++ _ = _
    simp only [List.append_assoc]
    rfl

section Waiting

variable (cpu : Cpu (LoggedClock M)) (hfeed : cpu.feedWatchdog.Leaves trace)
variable (hdelay : ∀ cycles, (cpu.delayCycles cycles).Leaves trace)

include hfeed hdelay

/-- Each round of waiting logs one attempt to clear the fault, and nothing else of it is seen. -/
theorem keeps_awaitOscillators (best : DcoCandidate) (v : ClockTrace) :
    Keeps (fun s => ClockTrace.Programmed best v s.trace)
      (fun s => ClockTrace.Programmed best v s.trace) ((system caps).awaitOscillators cpu) := by
  have left {α : Type} {run : Run (LoggedClock M) α} (h : run.Leaves trace) :
      Keeps (fun s => ClockTrace.Programmed best v s.trace)
        (fun s => ClockTrace.Programmed best v s.trace) run := h.keeps fun _ hw => hw
  apply ClockSystem.keeps_awaitOscillators (fun _ hs => hs)
  · intro patience s hs
    change ClockTrace.Programmed best v s.trace.cleared
    exact ClockTrace.Programmed.cleared hs
  · exact left hfeed
  · exact fun cycles => left (hdelay cycles)
  · exact fun _ _ hs => hs

/-- If the wait for the oscillators comes to an end, the DCO is left at the known setting that is
nearest to the target, whatever was in the registers before, and the rate of that setting is the
answer. A target of zero takes the power-up setting. The registers of the DCO are written in the
order that keeps mixtures of settings away, MCLK runs from the DCO without its divider, and whatever
else the clock module is set to stays. -/
theorem mclk_programs_optimal (known : Calibrations)
    (hknown : caps.calibrations = known.caps.calibrations) (target : UInt32) (s : LoggedClock M)
    (patience : Nat) (hends : ((system caps).awaitOscillators cpu).answer? patience
      (((system caps).programDco target).finish patience s) = some ()) :
    ∃ best t, ((system caps).configureMclk cpu target).start patience s = .ok best.hz t ∧
      Optimal known.setting caps.powerUpHz (if target = 0 then caps.powerUpHz else target) best ∧
      (target = 0 → best = ⟨.powerUp, caps.powerUpHz⟩) ∧
      ClockTrace.Programmed best s.trace t.trace := by
  have hsettings : caps.calibration = known.setting := by
    funext rate
    rw [← known.calibration_caps, ClockCapabilities.calibration, hknown]
    rfl
  obtain ⟨u, hprogram, hprogrammed⟩ := start_programDco caps target patience s
  rw [finish_of_start hprogram] at hends
  have hawait := start_of_answer hends
  have hkept := keeps_awaitOscillators caps cpu hfeed hdelay (caps.candidateFor target) s.trace
  have hended := hkept.of_start hprogrammed hawait
  refine ⟨caps.candidateFor target, _, ?_, ?_, ?_, hended⟩
  · rw [ClockSystem.configureMclk, start_bind_ok hprogram, start_bind_ok hawait]
    exact congrArg (EStateM.Result.ok · _) hended.configuredHz
  · rw [← hsettings]
    exact ClockCapabilities.optimal_candidateFor target
  · intro hzero
    have optimal := caps.optimal_candidateFor target
    rw [if_pos hzero] at optimal
    exact optimal.at_powerUp

end Waiting

/-! ## A device whose memory has lost a calibration -/

/-- Both bytes of 12 MHz are erased. -/
def patchyBytes : Vector UInt8 8 := #v[0x95, 0x8F, 0xFF, 0xFF, 0x9B, 0x8D, 0xB5, 0x86]

/-- MCLK is to run from the crystal behind its divider, and two faults are pending. -/
def unsettled : LoggedClock Unit := ⟨{ bcsctl2 := 0xFF, bcsctl3 := 0x2C, faults := 2 }, 0, [], ()⟩

/-- The calibrations of 8 MHz and 16 MHz are equally near to 12 MHz, and the slower one wins. -/
theorem mclk_programs_optimal_patchy :
    (ClockCapabilities.ofBytes patchyBytes).candidateFor 12000000 = ⟨⟨0x9B, 0x8D⟩, 8000000⟩ ∧
      ∃ best t, ((system (.ofBytes patchyBytes)).configureMclk (.idle (return ())) 12000000).start 2
          unsettled = .ok best.hz t ∧
        Optimal (Calibrations.stored patchyBytes).setting 1100000 12000000 best ∧
        ClockTrace.Programmed best unsettled.trace t.trace := by
  have idle {α : Type} (a : α) : (return a : Run (LoggedClock Unit) α).Leaves trace :=
    leaves_pure _ a
  obtain ⟨best, t, hrun, optimal, -, programmed⟩ :=
    mclk_programs_optimal (.ofBytes patchyBytes) (.idle (return ())) (idle ())
      (fun _ => idle ()) (.stored patchyBytes) rfl 12000000 unsettled 2 rfl
  exact ⟨by decide, best, t, hrun, optimal, programmed⟩

end LoggedClock

end Msp430
