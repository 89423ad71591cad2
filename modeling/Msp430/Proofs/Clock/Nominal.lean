import Msp430.Clock.Boot
import Msp430.Clock.Tuning
import Msp430.Proofs.Clock.Boot
import Msp430.Proofs.Timer.Operations
import Msp430.Sim.Ports

/-!
The rate that is remembered for MCLK. It cannot be read back from the DCO, so it has to change with
the DCO and only with it: to the rate of a known setting when that is programmed, and to the target
of a tuning when the last measurement shows the count that the target has. A tuning that fails puts
the DCO back, and then the rate stays, too.
-/
namespace Msp430

open Run

variable {M : Type}

/-! ## The code of the DCO -/

/-- Tap, modulator and range. The rest of BCSCTL1 has no part in the rate of the DCO. -/
structure DcoCode where
  dcoctl : UInt8
  range : UInt8
  deriving DecidableEq, Repr

def DcoSetting.code (setting : DcoSetting) : DcoCode := ⟨setting.dcoctl, setting.range⟩

def ClockSettings.dco (v : ClockSettings) : DcoSetting := ⟨v.dcoctl, v.bcsctl1⟩

/-- The DCO and the rate that is remembered for it are the same. -/
structure ClockSettings.SameRate (v w : ClockSettings) : Prop where
  code : w.dco.code = v.dco.code
  configuredHz : w.configuredHz = v.configuredHz

theorem ClockSettings.SameRate.refl (v : ClockSettings) : v.SameRate v := ⟨rfl, rfl⟩

/-- The range lies outside the divider of ACLK. -/
theorem range_insert_aclkDivider (shift bits : UInt8) :
    ClockField.aclkDivider.insert shift bits &&& ClockField.dcoRange =
      bits &&& ClockField.dcoRange := by
  change replaceBits (0x30 : UInt8) (shift <<< 4) bits &&& 0x0F = bits &&& 0x0F
  rw [replaceBits_and, show (~~~0x30 &&& 0x0F : UInt8) = 0x0F from rfl,
    show (0x30 &&& 0x0F : UInt8) = 0 from rfl, UInt8.and_zero, UInt8.or_zero]

/-! ## Measurements -/

/-- What is recorded of a tuning, the latest first: the rate of ACLK when the timer is started, and
every captured count that is read, with the code of the DCO at that moment. -/
inductive TuningEvent where
  | started (aclkHz : UInt32)
  | captured (count : UInt16) (code : DcoCode)
  deriving DecidableEq, Repr

/-- The rate of ACLK when the timer was last started. -/
def reference : List TuningEvent → Option UInt32
  | [] => none
  | .started aclkHz :: _ => some aclkHz
  | .captured _ _ :: earlier => reference earlier

/-- The last measurement was of this code and shows the count that the rate has against ACLK. -/
inductive Hit (hz : UInt32) (code : DcoCode) : List TuningEvent → Prop
  | intro {aclkHz : UInt32} {first last : UInt16} {earlier : List TuningEvent} :
      reference earlier = some aclkHz →
      ClockSystem.expectedCount hz aclkHz = some (last - first) →
      Hit hz code (.captured last code :: .captured first code :: earlier)

/-- How the DCO and the remembered rate go on together from the settings `v` when an operation aims
at a rate or at none: both stay, or a known setting is in the registers and its rate is remembered,
or the rate is the one aimed at, which has just been measured. -/
inductive InStep (caps : ClockCapabilities) (aim : Option UInt32) (v w : ClockSettings)
    (log : List TuningEvent) : Prop
  | kept : v.SameRate w → InStep caps aim v w log
  | programmed {best : DcoCandidate} : best ∈ caps.powerUpCandidate :: caps.calibrated →
      w.dco.code = best.setting.code → w.configuredHz = best.hz → InStep caps aim v w log
  | measured : aim = some w.configuredHz → Hit w.configuredHz w.dco.code log →
      InStep caps aim v w log

/-- What goes on from a known setting goes on in step from anywhere. -/
theorem InStep.of_candidate {caps : ClockCapabilities} {aim : Option UInt32} {best : DcoCandidate}
    {u v w : ClockSettings} {log : List TuningEvent}
    (hbest : best ∈ caps.powerUpCandidate :: caps.calibrated)
    (h : InStep caps aim (u.programmed best) w log) : InStep caps aim v w log := by
  cases h with
  | kept hsame => exact .programmed hbest hsame.code hsame.configuredHz
  | programmed hknown hcode hhz => exact .programmed hknown hcode hhz
  | measured haim hhit => exact .measured haim hhit

/-- Where a remembered rate comes from: the DCO has the code of a known setting, or the code that
was once measured to have this rate. -/
inductive Known (caps : ClockCapabilities) (v : ClockSettings) (log : List TuningEvent) : Prop
  | programmed {best : DcoCandidate} : best ∈ caps.powerUpCandidate :: caps.calibrated →
      v.dco.code = best.setting.code → v.configuredHz = best.hz → Known caps v log
  | measured {earlier : List TuningEvent} : earlier <:+ log →
      Hit v.configuredHz v.dco.code earlier → Known caps v log

theorem Known.advance {caps : ClockCapabilities} {aim : Option UInt32} {v w : ClockSettings}
    {l m : List TuningEvent} (h : Known caps v l) (hlog : l <:+ m)
    (hstep : InStep caps aim v w m) : Known caps w m := by
  cases hstep with
  | programmed hknown hcode hhz => exact .programmed hknown hcode hhz
  | measured _ hhit => exact .measured (List.suffix_refl m) hhit
  | kept hsame =>
    cases h with
    | programmed hknown hcode hhz =>
      exact .programmed hknown (hsame.code.trans hcode) (hsame.configuredHz.trans hhz)
    | measured hearlier hhit =>
      apply Known.measured (hearlier.trans hlog)
      rw [hsame.code, hsame.configuredHz]
      exact hhit

/-! ## A clock module whose tunings are recorded -/

/-- A clock module, the rate that is remembered and the record, beside everything else. -/
structure Workshop (M : Type) where
  clock : ClockModule
  configuredHz : UInt32
  log : List TuningEvent
  rest : M

namespace Workshop

def clockCell : Cell (Workshop M) ClockModule := ⟨clock, fun clock s => { s with clock }⟩

def configuredCell : Cell (Workshop M) UInt32 :=
  ⟨configuredHz, fun configuredHz s => { s with configuredHz }⟩

def settings (s : Workshop M) : ClockSettings := s.clock.settings s.configuredHz

/-- What drivers find in the registers, and what is recorded. The crystal is not part of it: it can
start and stop at any time. -/
def ledger (s : Workshop M) : ClockSettings × List TuningEvent := (s.settings, s.log)

def record (event : Workshop M → TuningEvent) : Run (Workshop M) Unit :=
  modify fun s => { s with log := event s :: s.log }

end Workshop

namespace ClockCapabilities

variable (caps : ClockCapabilities)

def system : ClockSystem (Workshop M) where
  port := ClockModule.port Workshop.clockCell fun _ => return ()
  caps := caps
  configuredHz := Workshop.configuredCell

/-- The rate of ACLK as the registers show it. -/
def aclkRate (clock : ClockModule) : UInt32 :=
  (caps.system : ClockSystem (Workshop Unit)).lfxt1Rate (clock.read .bcsctl3) >>>
    (ClockField.aclkDivider.extract clock.bcsctl1).toUInt32

end ClockCapabilities

namespace Workshop

section Steps

variable (caps : ClockCapabilities) {v : ClockSettings} {l : List TuningEvent}

/-! ## Steps of the clock module -/

theorem ensures_write (r : ClockRegister) (bits : UInt8) :
    Ensures (fun s : Workshop M => s.ledger = (v, l)) (caps.system.port.write r bits)
      fun _ s => s.ledger = (v.write r bits, l) := by
  intro patience s hs
  have hv : s.settings = v := congrArg Prod.fst hs
  have hl : s.log = l := congrArg Prod.snd hs
  change ((s.clock.write r bits).settings s.configuredHz, s.log) = _
  rw [ClockModule.settings_write, hl]
  exact congrArg (fun v => (v.write r bits, l)) hv

theorem ensures_remember (hz : UInt32) :
    Ensures (fun s : Workshop M => s.ledger = (v, l)) (caps.system.configuredHz.write hz)
      fun _ s => s.ledger = ({ v with configuredHz := hz }, l) := by
  rintro patience s hs
  obtain ⟨rfl, rfl⟩ := Prod.mk.inj hs
  rfl

theorem ensures_readDco :
    Ensures (fun s : Workshop M => s.ledger = (v, l)) caps.system.readDco
      fun setting s => setting = v.dco ∧ s.ledger = (v, l) := by
  intro patience s hs
  obtain ⟨rfl, rfl⟩ := Prod.mk.inj hs
  exact ⟨rfl, rfl⟩

theorem ensures_writeDco (setting : DcoSetting) :
    Ensures (fun s : Workshop M => s.ledger = (v, l)) (caps.system.writeDco setting)
      fun _ s => s.ledger =
        ({ v with dcoctl := setting.dcoctl, bcsctl1 := setting.bcsctl1 }, l) := by
  apply (ensures_write caps .dcoctl 0).bind
  intro _
  apply (ensures_write caps .bcsctl1 setting.bcsctl1).bind
  intro _
  exact ensures_write caps .dcoctl setting.dcoctl

theorem ensures_change_bcsctl2 (f : UInt8 → UInt8) :
    Ensures (fun s : Workshop M => s.ledger = (v, l)) (caps.system.port.change .bcsctl2 f)
      fun _ s => s.ledger = ({ v with bcsctl2 := f v.bcsctl2 }, l) := by
  intro patience s hs
  obtain ⟨rfl, rfl⟩ := Prod.mk.inj hs
  rfl

theorem ensures_programDco (target : UInt32) :
    Ensures (fun s : Workshop M => s.ledger = (v, l)) (caps.system.programDco target)
      fun _ s => s.ledger = (v.programmed (caps.candidateFor target), l) := by
  apply (ensures_writeDco caps (caps.candidateFor target).setting).bind
  intro _
  apply (ensures_change_bcsctl2 caps _).bind
  intro _
  exact ensures_remember caps _

theorem obeyed : (caps.system : ClockSystem (Workshop M)).Obeyed fun s r => s.clock.read r :=
  ClockModule.obeyed _ ⟨fun _ _ => rfl, fun _ _ _ => rfl, fun _ => rfl⟩
    ⟨fun _ _ => rfl, fun _ _ _ => rfl, fun _ => rfl⟩ (fun _ _ => rfl) (fun _ _ => rfl)
    fun _ => leaves_pure _ _

theorem start_aclkHz (patience : Nat) (s : Workshop M) :
    caps.system.aclkHz.start patience s = .ok (caps.aclkRate s.clock) s :=
  ClockSystem.start_aclkHz (obeyed caps) patience s

/-- The divider of ACLK shares its register with the range. -/
theorem ensures_configureAclk (source : ClockSource) (shift : UInt8) :
    Ensures (fun s : Workshop M => s.ledger = (v, l)) (caps.system.configureAclk source shift).run
      fun _ s => ∃ w, s.ledger = (w, l) ∧ v.SameRate w := by
  intro patience s hs
  obtain ⟨rfl, rfl⟩ := Prod.mk.inj hs
  obtain ⟨answer, hmode, -⟩ := ClockSystem.start_lfxt1ModeFor (obeyed caps) source patience s
  rw [ClockSystem.configureAclk, ExceptT.run_bind, start_bind_ok hmode]
  cases answer with
  | error why => exact ⟨s.settings, rfl, .refl _⟩
  | ok mode =>
    let bits := ClockField.aclkDivider.insert shift s.clock.bcsctl1
    have hrange : bits &&& ClockField.dcoRange = s.clock.bcsctl1 &&& ClockField.dcoRange :=
      range_insert_aclkDivider shift _
    have hcode := congrArg (DcoCode.mk s.clock.dcoctl) hrange
    exact ⟨{ s.settings with bcsctl1 := bits }, rfl, hcode, rfl⟩

theorem ensures_configureSmclk (source : ClockSource) (shift : UInt8) :
    Ensures (fun s : Workshop M => s.ledger = (v, l)) (caps.system.configureSmclk source shift)
      fun _ s => ∃ w, s.ledger = (w, l) ∧ v.SameRate w :=
  (ensures_change_bcsctl2 caps _).weaken fun _ _ hs => ⟨_, hs, rfl, rfl⟩

/-! ## Waiting for oscillators -/

/-- Waiting and asking for pins do not touch the clock module's settings or the record. -/
structure Patient (cpu : Cpu (Workshop M)) (pins : PinRouter (Workshop M)) : Prop where
  feed : cpu.feedWatchdog.Leaves ledger
  delay : ∀ cycles, (cpu.delayCycles cycles).Leaves ledger
  route : ∀ request, (pins.route request).Leaves ledger

theorem leaves_clearFault : (caps.system.port.clearFault : Run (Workshop M) Unit).Leaves ledger :=
  fun _ _ _ hs => hs

theorem leaves_write_bcsctl3 (bits : UInt8) :
    (caps.system.port.write .bcsctl3 bits : Run (Workshop M) Unit).Leaves ledger :=
  fun _ _ _ hs => hs

section Waiting

variable {cpu : Cpu (Workshop M)} {pins : PinRouter (Workshop M)} (hpatient : Patient cpu pins)

include hpatient

theorem leaves_awaitOscillators : (caps.system.awaitOscillators cpu).Leaves ledger := by
  intro v
  apply ClockSystem.keeps_awaitOscillators (fun _ hs => hs)
  · exact leaves_clearFault caps v
  · exact hpatient.feed v
  · exact fun cycles => hpatient.delay cycles v
  · exact fun _ _ hs => hs

theorem leaves_configureCrystal (enable : Bool) (budget : RetryBudget) :
    (caps.system.configureCrystal cpu pins enable budget).Leaves ledger := by
  intro v
  apply ClockSystem.keeps_configureCrystal (fun _ hs => hs)
  · exact leaves_clearFault caps v
  · exact fun _ _ hs => hs
  · exact fun bits => leaves_write_bcsctl3 caps bits v
  · exact hpatient.feed v
  · exact fun cycles => hpatient.delay cycles v
  · exact fun request => hpatient.route request v

end Waiting

/-! ## Tuning -/

/-- A port whose part in tunings is recorded. -/
def recording (port : TimerPort (Workshop M)) : TimerPort (Workshop M) :=
  { port with
    writeControl := fun bits => do
      if anyBits TimerControl.mode bits then
        record fun s => .started (caps.aclkRate s.clock)
      port.writeControl bits
    readCompare := fun i => do
      let count ← port.readCompare i
      record fun s => .captured count s.settings.dco.code
      return count }

/-- Moving the DCO by a notch leaves the rate that is remembered behind. -/
theorem ensures_nudgeDco (direction : Nudge) :
    Ensures (fun s : Workshop M => s.ledger = (v, l)) (caps.system.nudgeDco direction)
      fun _ s => ∃ w, s.ledger = (w, l) ∧ w.configuredHz = v.configuredHz := by
  apply Triple.bind (ensures_readDco caps)
  intro old
  cases old.nudge? direction with
  | none => exact triple_pure _ fun _ hs => ⟨v, hs.2, rfl⟩
  | some new =>
    apply Triple.bind ((ensures_write caps .dcoctl new.dcoctl).of_imp fun _ hs => hs.2)
    intro _
    split
    · apply Triple.bind (ensures_write caps .bcsctl1 new.bcsctl1)
      intro _
      exact triple_pure _ fun _ hs => ⟨_, hs, rfl⟩
    · exact triple_pure _ fun _ hs => ⟨_, hs, rfl⟩

/-- How a search for the rate `hz` ends that begins with the settings `v` and the record `l`. -/
structure Sought (hz : UInt32) (v : ClockSettings) (l : List TuningEvent)
    (answer : Except TuneError Unit) (s : Workshop M) : Prop where
  log : l <:+ s.log
  found : answer = .ok () →
    s.settings.configuredHz = hz ∧ Hit hz s.settings.dco.code s.log
  failed : ∀ why, answer = .error why → s.settings.configuredHz = v.configuredHz

theorem Sought.earlier {hz : UInt32} {w : ClockSettings} {m : List TuningEvent}
    {answer : Except TuneError Unit} {s : Workshop M} (h : Sought hz w m answer s)
    (hhz : w.configuredHz = v.configuredHz) (hlog : l <:+ m) : Sought hz v l answer s where
  log := hlog.trans h.log
  found := h.found
  failed why hwhy := (h.failed why hwhy).trans hhz

section Ports

variable {port : TimerPort (Workshop M)} (hport : port.Spares ledger)

include hport

theorem ensures_readCompare (i : Nat) :
    Ensures (fun s => s.ledger = (v, l)) ((recording caps port).readCompare i)
      fun count s => s.ledger = (v, .captured count v.dco.code :: l) := by
  apply Triple.bind ((hport.readCompare i).ensures (v, l))
  intro count patience s hs
  obtain ⟨rfl, rfl⟩ := Prod.mk.inj hs
  rfl

/-- A measurement records its two ends and changes nothing else. -/
theorem ensures_captureSpan (channel : Nat) (edge : CaptureEdge) (input : CaptureInput)
    (edges : Nat) :
    Ensures (fun s => s.ledger = (v, l))
      ((recording caps port).captureSpan channel edge input edges)
      fun measured s => ∃ first last, measured = last - first ∧
        s.ledger = (v, .captured last v.dco.code :: .captured first v.dco.code :: l) := by
  exact TimerPort.triple_captureSpan (p := recording caps port) hport.readChannel hport.writeChannel
    (I := (· = (v, l))) (J := fun first => (· = (v, .captured first v.dco.code :: l)))
    (K := fun first last =>
      (· = (v, .captured last v.dco.code :: .captured first v.dco.code :: l)))
    (fun _ _ => trivial) (fun _ _ _ => trivial) (fun _ _ _ _ => trivial)
    (ensures_readCompare caps hport channel) (fun _ => ensures_readCompare caps hport channel)
    edge input edges

/-- The rate is remembered right after a measurement that shows its count, and only then. -/
theorem ensures_seek (channel : Nat) (input : CaptureInput) {hz aclkHz : UInt32}
    {expected : UInt16} (hexpected : ClockSystem.expectedCount hz aclkHz = some expected) (n : Nat)
    (href : reference l = some aclkHz) :
    Ensures (fun s => s.ledger = (v, l))
      (caps.system.seek ⟨recording caps port, channel, input⟩ hz expected n).run
      fun answer s => Sought hz v l answer s := by
  induction n generalizing v l with
  | zero =>
    intro patience s hs
    obtain ⟨rfl, rfl⟩ := Prod.mk.inj hs
    exact ⟨List.suffix_refl _, nofun, fun _ _ => rfl⟩
  | succ n ih =>
    rw [ClockSystem.seek, run_liftM_bind]
    apply Triple.bind (ensures_captureSpan caps hport channel .falling input _)
    rintro measured patience s ⟨first, last, rfl, hs⟩
    obtain ⟨rfl, hlog⟩ := Prod.mk.inj hs
    have hsuffix : l <:+ s.log := by
      rw [hlog]
      exact (List.suffix_cons _ _).trans (List.suffix_cons _ _)
    by_cases hexact : last - first = expected
    · rw [if_pos hexact]
      have hhit : Hit hz s.settings.dco.code s.log := by
        rw [hlog]
        exact .intro href (by rw [hexact]; exact hexpected)
      exact ⟨hsuffix, fun _ => ⟨rfl, hhit⟩, nofun⟩
    · rw [if_neg hexact, run_liftM_bind]
      refine Triple.bind (ensures_nudgeDco caps _) (fun moved => ?_) patience s rfl
      rintro patience t ⟨w, ht, hhz⟩
      cases moved with
      | false =>
        obtain ⟨rfl, hlog'⟩ := Prod.mk.inj ht
        exact ⟨hlog' ▸ hsuffix, nofun, fun _ _ => hhz⟩
      | true =>
        have href' : reference s.log = some aclkHz := by
          rw [hlog]
          exact href
        have hmoved := (ih (v := w) href').weaken fun _ _ h => h.earlier hhz hsuffix
        exact hmoved patience t ht

/-- The reference is what ACLK runs at when the timer is started. -/
theorem ensures_startTimer {bits : UInt16} (hbits : anyBits TimerControl.mode bits = true)
    {aclkHz : UInt32} :
    Ensures (fun s => s.ledger = (v, l) ∧ caps.aclkRate s.clock = aclkHz)
      ((recording caps port).writeControl bits)
      fun _ s => s.ledger = (v, .started aclkHz :: l) := by
  change Ensures _ (if anyBits TimerControl.mode bits then
    record (fun s => .started (caps.aclkRate s.clock)) >>= fun _ => port.writeControl bits
    else port.writeControl bits) _
  rw [if_pos hbits]
  apply Triple.bind (Q := fun _ s => s.ledger = (v, .started aclkHz :: l))
  · rintro patience s ⟨hs, rfl⟩
    obtain ⟨rfl, rfl⟩ := Prod.mk.inj hs
    rfl
  · intro _
    exact (hport.writeControl bits).ensures _

theorem ensures_tuneDco (channel : Nat) (input : CaptureInput) (hz : UInt32) :
    Ensures (fun s => s.ledger = (v, l))
      (caps.system.tuneDco ⟨recording caps port, channel, input⟩ hz).run
      fun answer s => Sought hz v l answer s := by
  rintro patience s hs
  have hread : (caps.system.port.read .bcsctl1).start patience s =
      .ok s.clock.bcsctl1 s := rfl
  rw [ClockSystem.tuneDco, run_liftM_bind, start_bind_ok hread, run_adapt_bind]
  refine Triple.bind (ensures_configureAclk caps _ _) (fun answer => ?_) patience s hs
  rintro patience t ⟨w, ht, hsame⟩
  obtain ⟨rfl, rfl⟩ := Prod.mk.inj ht
  cases answer with
  | error why => exact ⟨List.suffix_refl _, nofun, fun _ _ => hsame.configuredHz⟩
  | ok _ =>
    dsimp only
    rw [run_liftM_bind, start_bind_ok (start_aclkHz caps patience t)]
    cases hcount : ClockSystem.expectedCount hz (caps.aclkRate t.clock) with
    | none => exact ⟨List.suffix_refl _, nofun, fun _ _ => hsame.configuredHz⟩
    | some expected =>
      dsimp only
      rw [run_liftM_bind]
      refine Triple.bind (ensures_startTimer caps hport (by decide)) (fun _ => ?_) patience t
        ⟨rfl, rfl⟩
      rw [run_liftM_bind]
      apply Triple.bind (ensures_change_bcsctl2 caps _)
      intro _
      exact (ensures_seek caps hport channel input hcount _ rfl).weaken fun _ _ h =>
        h.earlier hsame.configuredHz (List.suffix_cons _ _)

/-- An operation with this aim goes on from the settings `v` and the record `l`. -/
structure Advanced (aim : Option UInt32) (v : ClockSettings) (l : List TuningEvent)
    (s : Workshop M) : Prop where
  log : l <:+ s.log
  step : InStep caps aim v s.settings s.log

/-- Whatever comes of a tuning, MCLK has its source and its divider back. -/
theorem ensures_tuneMclk (channel : Nat) (input : CaptureInput) (hz : UInt32) :
    Ensures (fun s => s.ledger = (v, l))
      (caps.system.tuneMclk ⟨recording caps port, channel, input⟩ hz)
      fun _ s => Advanced caps (some hz) v l s ∧ s.settings.bcsctl2 = v.bcsctl2 := by
  rintro patience s hs
  obtain ⟨rfl, rfl⟩ := Prod.mk.inj hs
  by_cases hchannel : channel < (recording caps port).channels
  case neg =>
    rw [ClockSystem.tuneMclk, if_neg hchannel]
    exact ⟨⟨List.suffix_refl _, .kept (.refl _)⟩, rfl⟩
  rw [ClockSystem.tuneMclk, if_pos hchannel]
  have hdco : caps.system.readDco.start patience s = .ok s.settings.dco s := rfl
  have hread (r : ClockRegister) :
      (caps.system.port.read r).start patience s = .ok (s.clock.read r) s := rfl
  simp only [start_bind_ok hdco, start_bind_ok (hread _)]
  refine Triple.bind (ensures_tuneDco caps hport channel input hz) (fun answer => ?_) patience s rfl
  rintro patience t hsought
  have hstop : ((recording caps port).writeControl 0).Leaves ledger := hport.writeControl 0
  refine Triple.bind (hstop.ensures t.ledger) (fun _ => ?_) patience t rfl
  cases answer with
  | ok _ =>
    obtain ⟨hhz, hhit⟩ := hsought.found rfl
    rw [← hhz] at hhit
    apply Triple.bind (ensures_write caps .bcsctl2 s.clock.bcsctl2)
    intro _
    apply Triple.bind (ensures_write caps .bcsctl3 _)
    intro _
    apply triple_pure
    intro u hu
    obtain ⟨hv, hl⟩ := Prod.mk.inj hu
    refine ⟨⟨?_, ?_⟩, ?_⟩
    · rw [hl]
      exact hsought.log
    · rw [hv, hl]
      exact .measured (congrArg some hhz.symm) hhit
    · rw [hv]
      rfl
  | error why =>
    have hhz := hsought.failed why rfl
    apply Triple.bind (ensures_writeDco caps s.settings.dco)
    intro _
    apply Triple.bind (ensures_write caps .bcsctl2 s.clock.bcsctl2)
    intro _
    apply Triple.bind (ensures_write caps .bcsctl3 _)
    intro _
    apply triple_pure
    intro u hu
    obtain ⟨hv, hl⟩ := Prod.mk.inj hu
    refine ⟨⟨?_, ?_⟩, ?_⟩
    · rw [hl]
      exact hsought.log
    · rw [hv]
      exact .kept ⟨rfl, hhz⟩
    · rw [hv]
      rfl

end Ports

/-! ## Operations -/

/-- The rate that an operation answers with is the one that is remembered, and MCLK runs at it. -/
structure Answered (hz : UInt32) (s : Workshop M) : Prop where
  configuredHz : hz = s.configuredHz
  mclkHz : ∀ patience, caps.system.mclkHz.start patience s = .ok hz s

/-- MCLK runs from the DCO without a divider. -/
def Undivided (bcsctl2 : UInt8) : Prop :=
  ClockField.mclkSelect.extract bcsctl2 = 0 ∧ ClockField.mclkDivider.extract bcsctl2 = 0

theorem undivided_programmed (v : ClockSettings) (best : DcoCandidate) :
    Undivided (v.programmed best).bcsctl2 := by
  have hmask (mask : UInt8) (h : ~~~0xF0 &&& mask = 0) :
      (v.programmed best).bcsctl2 &&& mask = 0 := by
    change v.bcsctl2 &&& ~~~0xF0 &&& mask = 0
    rw [UInt8.and_assoc, h, UInt8.and_zero]
  constructor
  · change ((v.programmed best).bcsctl2 &&& (0xC0 : UInt8)) >>> 6 = 0
    rw [hmask 0xC0 (by decide)]
    rfl
  · change ((v.programmed best).bcsctl2 &&& (0x30 : UInt8)) >>> 4 = 0
    rw [hmask 0x30 (by decide)]
    rfl

theorem answered_of_undivided {s : Workshop M} (h : Undivided s.settings.bcsctl2) :
    Answered caps s.configuredHz s where
  configuredHz := rfl
  mclkHz patience := ClockSystem.start_mclkHz_undivided (obeyed caps) h.1 h.2 patience

variable {cpu : Cpu (Workshop M)} {pins : PinRouter (Workshop M)} (hpatient : Patient cpu pins)

include hpatient

theorem ensures_configureMclk (target : UInt32) :
    Ensures (fun s => s.ledger = (v, l)) (caps.system.configureMclk cpu target)
      fun hz s => Advanced caps none v l s ∧ Answered caps hz s := by
  apply Triple.bind (ensures_programDco caps target)
  intro _
  apply Triple.bind ((leaves_awaitOscillators caps hpatient).ensures _)
  intro _ patience s hs
  obtain ⟨hv, rfl⟩ := Prod.mk.inj hs
  refine ⟨⟨List.suffix_refl _, ?_⟩, answered_of_undivided caps ?_⟩
  · rw [hv]
    exact .programmed (caps.candidateFor_mem target) rfl rfl
  · rw [hv]
    exact undivided_programmed v _

/-- What follows a tuning waits and answers. -/
theorem ensures_settled (aim : Option UInt32) {best : DcoCandidate}
    (hbest : best ∈ caps.powerUpCandidate :: caps.calibrated) :
    Ensures (fun s => Advanced caps aim (v.programmed best) l s ∧
        s.settings.bcsctl2 = (v.programmed best).bcsctl2)
      (do caps.system.awaitOscillators cpu; caps.system.configuredHz.read)
      fun hz s => Advanced caps aim v l s ∧ Answered caps hz s := by
  rintro patience s ⟨hadvanced, hbits⟩
  have hawait := (leaves_awaitOscillators caps hpatient).ensures s.ledger
  refine Triple.bind hawait (fun _ => ?_) patience s rfl
  rintro patience t ht
  obtain ⟨hv, hl⟩ := Prod.mk.inj ht
  refine ⟨⟨?_, ?_⟩, answered_of_undivided caps ?_⟩
  · rw [hl]
    exact hadvanced.log
  · rw [hv, hl]
    exact .of_candidate hbest hadvanced.step
  · rw [hv, hbits]
    exact undivided_programmed v _

theorem ensures_configureMclkTuned {port : TimerPort (Workshop M)} (hport : port.Spares ledger)
    (channel : Nat) (input : CaptureInput) (target : UInt32) :
    Ensures (fun s => s.ledger = (v, l))
      (caps.system.configureMclkTuned cpu ⟨recording caps port, channel, input⟩ target)
      fun hz s => Advanced caps (some target) v l s ∧ Answered caps hz s := by
  have hsettled (aim : Option UInt32) :=
    ensures_settled caps (v := v) (l := l) hpatient aim (caps.candidateFor_mem target)
  apply Triple.bind (ensures_programDco caps target)
  intro _
  split
  case isTrue =>
    apply (hsettled _).of_imp
    intro s hs
    obtain ⟨hv, rfl⟩ := Prod.mk.inj hs
    rw [hv]
    exact ⟨⟨List.suffix_refl _, hv ▸ .kept (.refl _)⟩, rfl⟩
  case isFalse =>
    have htune := ensures_tuneMclk caps hport channel input target
      (v := v.programmed (caps.candidateFor target)) (l := l)
    refine Triple.bind (htune.map _ fun _ _ hs => ?_) fun _ => hsettled _
    exact hs

omit hpatient

variable (cpu pins) in
/-- What is done with a clock system, and the rate that it aims at: all operations, with any timer
for the tunings, and whatever leaves the DCO and the remembered rate alone. -/
inductive ClockUse : Option UInt32 → ∀ α : Type, Run (Workshop M) α → Prop
  | crystal (enable : Bool) (budget : RetryBudget) :
      ClockUse none Bool (caps.system.configureCrystal cpu pins enable budget)
  | aclk (source : ClockSource) (shift : UInt8) :
      ClockUse none _ (caps.system.configureAclk source shift).run
  | smclk (source : ClockSource) (shift : UInt8) :
      ClockUse none Unit (caps.system.configureSmclk source shift)
  | mclk (target : UInt32) : ClockUse none UInt32 (caps.system.configureMclk cpu target)
  | mclkTuned {port : TimerPort (Workshop M)} (hport : port.Spares ledger) (channel : Nat)
      (input : CaptureInput) (target : UInt32) : ClockUse (some target) UInt32
        (caps.system.configureMclkTuned cpu ⟨recording caps port, channel, input⟩ target)
  | tune {port : TimerPort (Workshop M)} (hport : port.Spares ledger) (channel : Nat)
      (input : CaptureInput) (hz : UInt32) : ClockUse (some hz) _
        (caps.system.tuneMclk ⟨recording caps port, channel, input⟩ hz)
  | other {α : Type} {run : Run (Workshop M) α} : run.Leaves ledger → ClockUse none α run

variable (cpu pins) in
def ClockStep (α : Type) (run : Run (Workshop M) α) : Prop :=
  ∃ aim, ClockUse caps cpu pins aim α run

theorem advanced_of_same {w : ClockSettings} {s : Workshop M} (hsame : v.SameRate w)
    (hs : s.ledger = (w, l)) : Advanced caps none v l s := by
  obtain ⟨rfl, rfl⟩ := Prod.mk.inj hs
  exact ⟨List.suffix_refl _, .kept hsame⟩

include hpatient

/-- Every operation goes on in step. -/
theorem ensures_clockUse {aim : Option UInt32} {α : Type} {run : Run (Workshop M) α}
    (h : ClockUse caps cpu pins aim α run) :
    Ensures (fun s => s.ledger = (v, l)) run fun _ s => Advanced caps aim v l s := by
  cases h with
  | crystal enable budget =>
    exact ((leaves_configureCrystal caps hpatient enable budget).ensures _).weaken
      fun _ _ hs => advanced_of_same caps (.refl v) hs
  | aclk source shift =>
    exact (ensures_configureAclk caps source shift).weaken
      fun _ _ ⟨_, hs, hsame⟩ => advanced_of_same caps hsame hs
  | smclk source shift =>
    exact (ensures_configureSmclk caps source shift).weaken
      fun _ _ ⟨_, hs, hsame⟩ => advanced_of_same caps hsame hs
  | mclk target => exact (ensures_configureMclk caps hpatient target).weaken fun _ _ hs => hs.1
  | mclkTuned hport channel input target =>
    exact (ensures_configureMclkTuned caps hpatient hport channel input target).weaken
      fun _ _ hs => hs.1
  | tune hport channel input hz =>
    exact (ensures_tuneMclk caps hport channel input hz).weaken fun _ _ hs => hs.1
  | other hleaves =>
    exact (hleaves.ensures _).weaken fun _ _ hs => advanced_of_same caps (.refl v) hs

/-- So does every program. -/
theorem known_program {α : Type} {program : Run (Workshop M) α}
    (hprogram : Built (ClockStep caps cpu pins) program) :
    Ensures (fun s => Known caps s.settings s.log) program
      fun _ s => Known caps s.settings s.log := by
  apply keeps_built _ hprogram
  intro α run hstep patience s hknown
  obtain ⟨aim, huse⟩ := hstep
  have hrun := ensures_clockUse caps hpatient huse patience s rfl
  revert hrun
  cases run.start patience s with
  | ok _ t => exact fun hadvanced => hknown.advance hadvanced.log hadvanced.step
  | error _ _ => exact id

/-- From power-up on the rate that is remembered for MCLK never drifts from the DCO. After any
program it is the rate of a known setting that is in the registers, or it was measured for the code
that is in them. Whatever operation comes next, the DCO and the rate stay together, or a known
setting has been programmed, or the rate is the one that was tuned to and the last measurement shows
it. The operations that choose MCLK answer with the remembered rate, and MCLK runs at it. -/
theorem mclk_rate_in_step {α : Type} {program : Run (Workshop M) α}
    (hprogram : Built (ClockStep caps cpu pins) program) {s t : Workshop M}
    (hpowerUp : s.settings.dco = .powerUp) {patience : Nat} {a : α}
    (hrun : (do caps.system.assumePowerUp; program).start patience s = .ok a t) :
    Known caps t.settings t.log ∧
      (∀ aim (β : Type) (run : Run (Workshop M) β), ClockUse caps cpu pins aim β run →
        ∀ patience b u, run.start patience t = .ok b u →
          InStep caps aim t.settings u.settings u.log) ∧
      (∀ target patience hz u,
        (caps.system.configureMclk cpu target).start patience t = .ok hz u →
          Answered caps hz u) ∧
      ∀ port : TimerPort (Workshop M), port.Spares ledger →
        ∀ channel input target patience hz u,
          (caps.system.configureMclkTuned cpu ⟨recording caps port, channel, input⟩ target).start
            patience t = .ok hz u → Answered caps hz u := by
  have hstart : Known caps { s.settings with configuredHz := caps.powerUpHz } s.log := by
    have hcode : s.settings.dco.code = caps.powerUpCandidate.setting.code :=
      congrArg DcoSetting.code hpowerUp
    exact .programmed List.mem_cons_self hcode rfl
  have hrest : program.start patience { s with configuredHz := caps.powerUpHz } = .ok a t := hrun
  refine ⟨?_, ?_, ?_, ?_⟩
  · exact (known_program caps hpatient hprogram).of_start hstart hrest
  · intro aim β run huse patience b u hu
    exact ((ensures_clockUse caps hpatient huse).of_start rfl hu).step
  · intro target patience hz u hu
    exact ((ensures_configureMclk caps hpatient target).of_start rfl hu).2
  · intro port hport channel input target patience hz u hu
    exact ((ensures_configureMclkTuned caps hpatient hport channel input target).of_start rfl hu).2

end Steps

/-! ## A tuning that succeeds at once -/

/-- A module with a setting for 8 MHz, and a timer that counts 2410 of its cycles in ten periods of
the crystal. -/
def tuningStart : Workshop (SimTimer 2) := ⟨{}, 0, [], { source := .fixed 2410 }⟩

def tuningPort : TimerPort (Workshop (SimTimer 2)) :=
  SimTimer.port ⟨rest, fun rest s => { s with rest }⟩ (return (← get).clock) fun _ => return ()

theorem spares_tuningPort : tuningPort.Spares ledger :=
  SimTimer.spares_port (fun _ _ => rfl) fun _ _ _ hs => hs

def idleCpu : Cpu (Workshop (SimTimer 2)) := .idle (return ())

def freePins : PinRouter (Workshop (SimTimer 2)) := ⟨fun _ => return .ok (), fun _ _ => none⟩

theorem patient_idle : Patient idleCpu freePins where
  feed := leaves_pure _ _
  delay _ := leaves_pure _ _
  route _ := leaves_pure _ _

def tuneTo (target : UInt32) : Run (Workshop (SimTimer 2)) UInt32 :=
  launchClock.caps.system.configureMclkTuned idleCpu
    ⟨recording launchClock.caps tuningPort, 1, .b⟩ target

/-- What tuning to 7.9 MHz from power-up ends in. -/
def tuned : Workshop (SimTimer 2) :=
  (do launchClock.caps.system.assumePowerUp; tuneTo 7900000).finish 1 tuningStart

theorem mclk_rate_in_step_tuned :
    tuningStart.settings.dco = .powerUp ∧
      (do launchClock.caps.system.assumePowerUp; tuneTo 7900000).start 1 tuningStart =
        .ok 7900000 tuned ∧
      Known launchClock.caps tuned.settings tuned.log ∧
      ∀ target patience hz u,
        (launchClock.caps.system.configureMclk idleCpu target).start patience tuned = .ok hz u →
          Answered launchClock.caps hz u := by
  have hanswer : (do launchClock.caps.system.assumePowerUp; tuneTo 7900000).answer? 1
      tuningStart = some 7900000 := by decide +kernel
  have hrun := start_of_answer hanswer
  have hprogram : Built (ClockStep launchClock.caps idleCpu freePins) (tuneTo 7900000) :=
    .step ⟨_, .mclkTuned spares_tuningPort 1 .b 7900000⟩
  obtain ⟨hknown, -, hmclk, -⟩ :=
    mclk_rate_in_step launchClock.caps patient_idle hprogram rfl hrun
  exact ⟨rfl, hrun, hknown, hmclk⟩

end Workshop

end Msp430
