import Msp430.Proofs.Clock.Tuning

/-!
The steps of a search. Whatever is measured, each measurement either ends the search or moves the DCO
by one place against the error, so that the range is neither taken below the lowest nor above the
highest, and what shares a register with it stays.
-/
namespace Msp430

open Run

/-! ## Searches -/

/-- A captured count and the setting of the DCO at that moment. -/
structure Reading where
  count : UInt16
  setting : DcoSetting
  deriving DecidableEq, Repr

/-- Two readings at one setting. -/
structure Measurement where
  setting : DcoSetting
  first : UInt16
  last : UInt16
  deriving DecidableEq, Repr

namespace Measurement

def count (m : Measurement) : UInt16 := m.last - m.first

def readings (m : Measurement) : List Reading := [⟨m.first, m.setting⟩, ⟨m.last, m.setting⟩]

/-- A measurement that is not exact moves the DCO by one place, down if it shows too much and up if it
shows too little. Where the tap wraps the range moves by one, and without wrapping itself. -/
structure Moves (expected : UInt16) (m : Measurement) (next : DcoSetting) : Prop where
  inexact : m.count ≠ expected
  down : expected < m.count → next.place + 1 = m.setting.place
  up : m.count < expected → next.place = m.setting.place + 1
  onScale : next.place < 4096
  beside : next.beside = m.setting.beside
  range : next.range = m.setting.range ∨
    m.setting.dcoctl = 0 ∧ next.dcoctl = 0xFF ∧
      next.range.toNat + 1 = m.setting.range.toNat ∨
    m.setting.dcoctl = 0xFF ∧ next.dcoctl = 0 ∧
      next.range.toNat = m.setting.range.toNat + 1

/-- The measurement asks for a place beyond an end of the scale. -/
inductive AtEdge (expected : UInt16) (m : Measurement) : Prop
  | lowest : expected < m.count → m.setting.place = 0 → AtEdge expected m
  | highest : m.count < expected → m.setting.place = 4095 → AtEdge expected m

end Measurement

/-- Measurements that take the DCO from one setting to another, each moving it by one place. -/
inductive Walk (expected : UInt16) : DcoSetting → List Measurement → DcoSetting → Prop
  | stay (x : DcoSetting) : Walk expected x [] x
  | move {m : Measurement} {next y : DcoSetting} {ms : List Measurement} :
      m.Moves expected next → Walk expected next ms y → Walk expected m.setting (m :: ms) y

/-- How a search of at most `n` measurements ends. -/
inductive Ended (expected : UInt16) (n : Nat) (x : DcoSetting) :
    List Measurement → Except TuneError Unit → DcoSetting → Prop
  | exact {ms : List Measurement} {m : Measurement} : Walk expected x ms m.setting →
      ms.length < n → m.count = expected → Ended expected n x (ms ++ [m]) (.ok ()) m.setting
  | edge {ms : List Measurement} {m : Measurement} : Walk expected x ms m.setting →
      ms.length < n → m.AtEdge expected →
      Ended expected n x (ms ++ [m]) (.error .notConverged) m.setting
  | spent {ms : List Measurement} {y : DcoSetting} : Walk expected x ms y → ms.length = n →
      Ended expected n x ms (.error .notConverged) y

variable {expected : UInt16} {n : Nat} {x y next : DcoSetting} {m : Measurement}
variable {ms : List Measurement} {answer : Except TuneError Unit}

theorem Ended.length_le (h : Ended expected n x ms answer y) : ms.length ≤ n := by
  cases h with
  | exact _ hlt _ =>
    rw [List.length_append]
    exact hlt
  | edge _ hlt _ =>
    rw [List.length_append]
    exact hlt
  | spent _ hlength => exact Nat.le_of_eq hlength

theorem Ended.move (hmoves : m.Moves expected next) (h : Ended expected n next ms answer y) :
    Ended expected (n + 1) m.setting (m :: ms) answer y := by
  cases h with
  | exact hwalk hlt hexact => exact .exact (.move hmoves hwalk) (Nat.succ_lt_succ hlt) hexact
  | edge hwalk hlt hedge => exact .edge (.move hmoves hwalk) (Nat.succ_lt_succ hlt) hedge
  | spent hwalk hlength => exact .spent (.move hmoves hwalk) (congrArg Nat.succ hlength)

theorem Walk.beside (h : Walk expected x ms y) : y.beside = x.beside := by
  induction h with
  | stay x => rfl
  | move hmoves _ ih => rw [ih, hmoves.beside]

theorem Ended.beside (h : Ended expected n x ms answer y) : y.beside = x.beside := by
  cases h with
  | exact hwalk _ _ => exact hwalk.beside
  | edge hwalk _ _ => exact hwalk.beside
  | spent hwalk _ => exact hwalk.beside

/-- A measurement that is not exact moves the DCO, or the DCO is at the end of its scale. -/
theorem Measurement.moves_or_edge (m : Measurement) (hinexact : m.count ≠ expected) :
    (∃ next, m.setting.nudge? (if m.count > expected then .slower else .faster) = some next ∧
        m.Moves expected next) ∨
      m.setting.nudge? (if m.count > expected then .slower else .faster) = none ∧
        m.AtEdge expected := by
  by_cases habove : m.count > expected
  · rw [if_pos habove]
    have hbelow : ¬ m.count < expected := UInt16.lt_asymm habove
    obtain ⟨hnone, hplace⟩ | ⟨next, hnext, hplace, hbeside⟩ := m.setting.nudge_slower
    · exact .inr ⟨hnone, .lowest habove hplace⟩
    · refine .inl ⟨next, hnext, hinexact, fun _ => hplace, fun hlt => absurd hlt hbelow,
        next.place_lt, hbeside, ?_⟩
      rcases DcoSetting.range_of_next hplace.symm with hsame | ⟨hwrapped, htap, hrange⟩
      · exact .inl hsame.symm
      · exact .inr (.inl ⟨htap, hwrapped, hrange.symm⟩)
  · rw [if_neg habove]
    have hbelow : m.count < expected :=
      UInt16.lt_of_le_of_ne (UInt16.not_lt.mp habove) hinexact
    obtain ⟨hnone, hplace⟩ | ⟨next, hnext, hplace, hbeside⟩ := m.setting.nudge_faster
    · exact .inr ⟨hnone, .highest hbelow hplace⟩
    · refine .inl ⟨next, hnext, hinexact, fun hlt => absurd hlt habove, fun _ => hplace,
        next.place_lt, hbeside, ?_⟩
      rcases DcoSetting.range_of_next hplace with hsame | ⟨htap, hwrapped, hrange⟩
      · exact .inl hsame
      · exact .inr (.inr ⟨htap, hwrapped, hrange⟩)

/-! ## Readings on record -/

/-- All readings of a timer, the oldest first, beside everything else. -/
structure Survey (M : Type) where
  readings : List Reading
  rest : M

namespace Workshop

variable {M : Type}

/-- What a search moves and what it has read. -/
def chart (s : Workshop (Survey M)) : ClockSettings × List Reading := (s.settings, s.rest.readings)

def enter (count : UInt16) : Run (Workshop (Survey M)) Unit :=
  modify fun s =>
    { s with rest := { s.rest with readings := s.rest.readings ++ [⟨count, s.settings.dco⟩] } }

/-- A port whose readings are recorded. -/
def surveying (port : TimerPort (Workshop (Survey M))) : TimerPort (Workshop (Survey M)) :=
  { port with
    readCompare := fun i => do
      let count ← port.readCompare i
      enter count
      return count }

/-- A measurement that was cut short: the DCO has not moved, and at most two readings were made. -/
def CutShort (v : ClockSettings) (l : List Reading) (s : Workshop (Survey M)) : Prop :=
  ∃ extra, extra.length ≤ 2 ∧ s.chart = (v, l ++ extra)

section Ports

variable {port : TimerPort (Workshop (Survey M))} (hport : port.Spares chart)
variable {v : ClockSettings} {l : List Reading}

include hport

theorem triple_readCompare {extra : List Reading} (hextra : extra.length ≤ 2) (i : Nat) :
    Triple (fun s => s.chart = (v, l ++ extra)) ((surveying port).readCompare i)
      (fun count s => s.chart = (v, l ++ (extra ++ [⟨count, v.dco⟩]))) (CutShort v l) := by
  have hread := (hport.readCompare i (v, l ++ extra)).mono (fun _ hs => hs) (fun _ _ hs => hs)
    fun s hs => show CutShort v l s from ⟨extra, hextra, hs⟩
  apply hread.bind
  intro count patience s hs
  obtain ⟨rfl, hl⟩ := Prod.mk.inj hs
  change (s.settings, s.rest.readings ++ [_]) = _
  rw [hl, List.append_assoc]

/-- A measurement makes two readings at the setting that it finds, and leaves that. -/
theorem triple_captureSpan (channel : Nat) (edge : CaptureEdge) (input : CaptureInput)
    (edges : Nat) :
    Triple (fun s => s.chart = (v, l)) ((surveying port).captureSpan channel edge input edges)
      (fun measured s => ∃ m : Measurement, m.setting = v.dco ∧ m.count = measured ∧
        s.chart = (v, l ++ m.readings)) (CutShort v l) := by
  have hnone : ([] : List Reading).length ≤ 2 := Nat.zero_le 2
  have hone (first : Reading) : [first].length ≤ 2 := Nat.le_succ 1
  have htwo (first last : Reading) : [first, last].length ≤ 2 := Nat.le_refl 2
  have hspan := TimerPort.triple_captureSpan (p := surveying port) hport.readChannel
    hport.writeChannel (I := (· = (v, l ++ []))) (J := fun first => (· = (v, l ++ [⟨first, v.dco⟩])))
    (K := fun first last => (· = (v, l ++ [⟨first, v.dco⟩, ⟨last, v.dco⟩])))
    (fun _ hs => ⟨_, hnone, hs⟩) (fun _ _ hs => ⟨_, hone _, hs⟩)
    (fun _ _ _ hs => ⟨_, htwo _ _, hs⟩) (triple_readCompare hport hnone channel)
    (fun _ => triple_readCompare hport (hone _) channel) edge input edges
  rw [List.append_nil] at hspan
  apply hspan.weaken
  rintro measured s ⟨first, last, rfl, hs⟩
  exact ⟨⟨v.dco, first, last⟩, rfl, rfl, hs⟩

variable (caps : ClockCapabilities)

/-- The DCO has the setting `x`, and all that was read is `l`. -/
def Stands (x : DcoSetting) (l : List Reading) (s : Workshop (Survey M)) : Prop :=
  s.settings.dco = x ∧ s.rest.readings = l

/-- Where a search of at most `n` measurements can be cut short: on its way, or in a measurement at
the setting that the way has led to. -/
def CutOff (expected : UInt16) (n : Nat) (x : DcoSetting) (l : List Reading)
    (s : Workshop (Survey M)) : Prop :=
  ∃ ms extra, Walk expected x ms s.settings.dco ∧ ms.length < n ∧ extra.length ≤ 2 ∧
    s.rest.readings = l ++ ms.flatMap Measurement.readings ++ extra

omit hport in
theorem Stands.cutOff {s : Workshop (Survey M)} (h : Stands x l s) (hn : 0 < n) :
    CutOff expected n x l s := by
  obtain ⟨rfl, rfl⟩ := h
  refine ⟨[], [], .stay _, hn, Nat.zero_le 2, ?_⟩
  rw [List.flatMap_nil, List.append_nil, List.append_nil]

omit hport in
theorem CutShort.cutOff {s : Workshop (Survey M)} (h : CutShort v l s) (hn : 0 < n) :
    CutOff expected n v.dco l s := by
  obtain ⟨extra, hextra, hs⟩ := h
  obtain ⟨rfl, hreadings⟩ := Prod.mk.inj hs
  refine ⟨[], extra, .stay _, hn, hextra, ?_⟩
  rw [hreadings, List.flatMap_nil, List.append_nil]

omit hport in
theorem CutOff.move {s : Workshop (Survey M)} (hmoves : m.Moves expected next)
    (h : CutOff expected n next (l ++ m.readings) s) : CutOff expected (n + 1) m.setting l s := by
  obtain ⟨ms, extra, hwalk, hlt, hextra, hreadings⟩ := h
  refine ⟨m :: ms, extra, .move hmoves hwalk, Nat.succ_lt_succ hlt, hextra, ?_⟩
  rw [hreadings, List.flatMap_cons, List.append_assoc l m.readings]

theorem triple_writeControl (bits : UInt16) (hn : 0 < n) :
    Triple (Stands x l) ((surveying port).writeControl bits) (fun _ => Stands x l)
      (CutOff expected n x l) := by
  have hleaves := (hport.writeControl bits).map fun v : ClockSettings × List Reading => (v.1.dco, v.2)
  refine (hleaves (x, l)).mono (fun t ht => ?_) (fun _ t ht => ?_) fun t ht => ?_
  · exact Prod.ext ht.1 ht.2
  · exact Prod.mk.inj ht
  · exact Stands.cutOff (Prod.mk.inj ht) hn

omit hport in
theorem keeps_change_bcsctl2 {E : Workshop (Survey M) → Prop} (f : UInt8 → UInt8) :
    Triple (Stands x l) ((caps.system : ClockSystem (Workshop (Survey M))).port.change .bcsctl2 f)
      (fun _ => Stands x l) E := fun _ _ hs => hs

theorem triple_seek (channel : Nat) (input : CaptureInput) (hz : UInt32) (expected : UInt16)
    (n : Nat) :
    Triple (Stands x l)
      (caps.system.seek ⟨surveying port, channel, input⟩ hz expected n).run
      (fun answer s => ∃ ms, Ended expected n x ms answer s.settings.dco ∧
        s.rest.readings = l ++ ms.flatMap Measurement.readings)
      (CutOff expected n x l) := by
  induction n generalizing x l with
  | zero =>
    rintro patience s ⟨rfl, rfl⟩
    exact ⟨[], .spent (.stay _) rfl, (List.append_nil _).symm⟩
  | succ n ih =>
    rintro patience s ⟨rfl, rfl⟩
    rw [ClockSystem.seek, run_liftM_bind]
    have hspan := triple_captureSpan hport channel .falling input ClockSystem.tuningPeriods
      (v := s.settings) (l := s.rest.readings)
    have hmeasure : Triple _ _ _ (CutOff expected (n + 1) s.settings.dco s.rest.readings) :=
      hspan.mono (fun _ hs => hs) (fun _ _ hs => hs) fun _ ht => ht.cutOff (Nat.succ_pos n)
    refine Triple.bind hmeasure (fun measured => ?_) patience s rfl
    rintro patience t ⟨m, hsetting, rfl, ht⟩
    obtain ⟨hsettings, hreadings⟩ := Prod.mk.inj ht
    have hbegin : s.settings.dco = m.setting := hsetting.symm
    have hfound : t.settings.dco = m.setting := by rw [hsettings, hsetting]
    rw [hbegin]
    by_cases hexact : m.count = expected
    · rw [if_pos hexact]
      refine ⟨[m], ?_, ?_⟩
      · change Ended expected (n + 1) m.setting [m] (.ok ()) t.settings.dco
        rw [hfound]
        exact .exact (.stay _) (Nat.succ_pos n) hexact
      · change t.rest.readings = _
        rw [hreadings, List.flatMap_singleton]
    · rw [if_neg hexact, run_liftM_bind]
      obtain ⟨next, hnext, hmoves⟩ | ⟨hnone, hedge⟩ := m.moves_or_edge hexact
      · let moved : Workshop (Survey M) :=
          { t with clock := { t.clock with dcoctl := next.dcoctl, bcsctl1 := next.bcsctl1 } }
        have hstep : (caps.system.nudgeDco (if m.count > expected then .slower else .faster)).start
            patience t = .ok true moved := by
          rw [start_nudgeDco, hfound, hnext]
        rw [start_bind_ok hstep]
        refine Triple.mono ih (fun _ hs => hs) ?_ (fun _ hu => hu.move hmoves) patience moved
          ⟨rfl, hreadings⟩
        rintro answer u ⟨ms, hended, hu⟩
        refine ⟨m :: ms, hended.move hmoves, ?_⟩
        rw [hu, List.flatMap_cons, List.append_assoc]
      · have hstep : (caps.system.nudgeDco (if m.count > expected then .slower else .faster)).start
            patience t = .ok false t := by
          rw [start_nudgeDco, hfound, hnone]
        rw [start_bind_ok hstep]
        refine ⟨[m], ?_, ?_⟩
        · rw [hfound]
          exact .edge (.stay _) (Nat.succ_pos n) hedge
        · rw [hreadings, List.flatMap_singleton]

/-- A search, wherever it starts and whatever it measures, ends after at most 4096 measurements or is
cut off on its way. Each measurement is made where the one before it has led, and ends the search or
moves the DCO by one place against the error. A rate that cannot be measured is refused without a
measurement. -/
theorem search_stepwise (channel : Nat) (input : CaptureInput) (hz : UInt32)
    (s : Workshop (Survey M)) :
    Triple (fun t => t = s) (caps.system.tuneDco ⟨surveying port, channel, input⟩ hz).run
      (fun answer t =>
        (ClockSystem.expectedCount hz (caps.aclkRate s.clock) = none →
          answer = .error .outOfRange ∧ t.settings.dco = s.settings.dco ∧
            t.rest.readings = s.rest.readings) ∧
        ∀ expected, ClockSystem.expectedCount hz (caps.aclkRate s.clock) = some expected →
          ∃ ms, Ended expected 4096 s.settings.dco ms answer t.settings.dco ∧ ms.length ≤ 4096 ∧
            t.settings.dco.beside = s.settings.dco.beside ∧
            t.rest.readings = s.rest.readings ++ ms.flatMap Measurement.readings)
      (fun t => ∃ expected,
        ClockSystem.expectedCount hz (caps.aclkRate s.clock) = some expected ∧
          CutOff expected 4096 s.settings.dco s.rest.readings t) := by
  rintro patience s rfl
  rw [start_tuneDco]
  cases hexpected : ClockSystem.expectedCount hz (caps.aclkRate s.clock) with
  | none => exact ⟨fun _ => ⟨rfl, rfl, rfl⟩, nofun⟩
  | some expected =>
    let begun : Workshop (Survey M) := { s with clock := s.clock.referenced }
    have hsearch := (triple_writeControl hport countSmclk (by decide)).bind fun _ =>
      (keeps_change_bcsctl2 caps undivide).bind fun _ =>
        triple_seek hport caps channel input hz expected ClockSystem.tuningSteps
          (x := s.settings.dco) (l := s.rest.readings)
    refine hsearch.mono (fun _ ht => ht) ?_ ?_ patience begun ⟨rfl, rfl⟩
    · rintro answer t ⟨ms, hended, hreadings⟩
      refine ⟨nofun, fun _ hsome => ?_⟩
      obtain rfl := Option.some.inj hsome
      exact ⟨ms, hended, hended.length_le, hended.beside, hreadings⟩
    · intro t ht
      exact ⟨expected, rfl, ht⟩

end Ports

/-! ## A timer that contradicts itself -/

def surveyedTimer : TimerPort (Workshop (Survey (SimTimer 2))) :=
  SimTimer.port ⟨fun s => s.rest.rest, fun timer s => { s with rest := { s.rest with rest := timer } }⟩
    (return (← get).clock) fun _ => return ()

theorem spares_surveyedTimer : surveyedTimer.Spares chart :=
  SimTimer.spares_port (fun _ _ => rfl) fun _ _ _ hs => hs

/-- The lowest tap of the second range. The measurements there are too fast at first and exact later,
and one place below they are too slow. -/
def erratic : Workshop (Survey (SimTimer 2)) :=
  ⟨{ dcoctl := 0, bcsctl1 := 0xB1 }, 0, [], [], { source := .list [2000, 100, 250] }⟩

def searchErratic : Run (Workshop (Survey (SimTimer 2))) (Except TuneError Unit) :=
  (launchClock.caps.system.tuneDco ⟨surveying surveyedTimer, 1, .b⟩ 102400).run

/-- The search goes down a place, back up, and is through. ACLK is divided by eight. -/
theorem search_stepwise_erratic :
    ClockSystem.expectedCount 102400 (launchClock.caps.aclkRate erratic.clock) = some 250 ∧
      ∃ t ms, searchErratic.start 1 erratic = .ok (.ok ()) t ∧
        Ended 250 4096 ⟨0, 0xB1⟩ ms (.ok ()) t.settings.dco ∧
        t.rest.readings = ms.flatMap Measurement.readings := by
  have hexpected : ClockSystem.expectedCount 102400 (launchClock.caps.aclkRate erratic.clock) =
      some 250 := by decide +kernel
  have hends : (searchErratic.answer? 1 erratic).map Except.isOk = some true := by decide +kernel
  obtain ⟨answer, hanswer, hfound⟩ := Option.map_eq_some_iff.mp hends
  have hrun := start_of_answer hanswer
  have hsearch := search_stepwise spares_surveyedTimer launchClock.caps 1 .b 102400 erratic
  obtain ⟨-, hended⟩ := hsearch.of_start rfl hrun
  obtain ⟨ms, hms, -, -, hreadings⟩ := hended 250 hexpected
  cases answer with
  | error why => cases hfound
  | ok _ => exact ⟨hexpected, _, ms, hrun, hms, hreadings⟩

end Workshop

end Msp430
