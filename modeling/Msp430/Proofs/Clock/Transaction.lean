import Msp430.Proofs.Clock.Tuning

/-!
A tuning as a transaction. However erratic its measurements are, it either succeeds with a
measurement that is exact, or gives back the DCO as it was, and with the timer and all selectors it
is through in both cases.
-/
namespace Msp430

open Run

theorem clearBits_lfxt1Fault {bits : UInt8} (h : anyBits ClockField.lfxt1Fault bits = false) :
    clearBits ClockField.lfxt1Fault bits = bits ∧
      clearBits ClockField.lfxt1Fault (setBits ClockField.lfxt1Fault bits) = bits := by
  obtain ⟨⟨bits⟩⟩ := bits
  revert bits
  decide +kernel

/-- What is read of BCSCTL3 can be written back, also if it shows the fault of a crystal that does not
run. -/
theorem ClockModule.clear_read_bcsctl3 (m : ClockModule)
    (h : anyBits ClockField.lfxt1Fault m.bcsctl3 = false) :
    clearBits ClockField.lfxt1Fault (m.read .bcsctl3) = m.bcsctl3 := by
  obtain ⟨hclear, hset⟩ := clearBits_lfxt1Fault h
  change clearBits _ m.lfxt1Bits = _
  unfold lfxt1Bits
  split
  · exact hset
  · exact hclear

theorem Hit.shows {hz aclkHz : UInt32} {code : DcoCode} {log : List TuningEvent}
    (h : Hit hz code log) (hreference : reference log = some aclkHz) :
    0 < aclkHz ∧ ∃ first last earlier,
      log = .captured last code :: .captured first code :: earlier ∧
      10 * hz.toNat / aclkHz.toNat = (last - first).toNat := by
  cases h with
  | intro hstarted hcount =>
    obtain rfl := Option.some.inj (hstarted.symm.trans hreference)
    obtain ⟨hpositive, hexact⟩ := expectedCount_eq_some_iff.mp hcount
    exact ⟨hpositive, _, _, _, rfl, hexact⟩

namespace Workshop

variable {M : Type} (caps : ClockCapabilities)

/-! ## What a search cannot change -/

/-- What shares a register with the range of the DCO, and the rate of the reference. -/
def bearings (s : Workshop M) : UInt8 × Option UInt32 :=
  (s.settings.dco.beside, reference s.log)

variable {b : UInt8 × Option UInt32} {v : ClockSettings}

theorem ensures_bearings_nudgeDco (direction : Nudge) :
    Ensures (fun s : Workshop M => s.bearings = b) (caps.system.nudgeDco direction)
      fun _ s => s.bearings = b := by
  rintro patience s rfl
  rw [start_nudgeDco]
  cases hnudge : s.settings.dco.nudge? direction with
  | none => rfl
  | some new =>
    have hbeside : new.beside = s.settings.dco.beside := DcoSetting.beside_nudge hnudge
    exact congrArg (·, reference s.log) hbeside

section Ports

variable {port : TimerPort (Workshop M)} (hport : port.Spares ledger)

include hport

theorem ensures_bearings_captureSpan (channel : Nat) (edge : CaptureEdge) (input : CaptureInput)
    (edges : Nat) :
    Ensures (fun s => s.bearings = b) ((recording caps port).captureSpan channel edge input edges)
      fun _ s => s.bearings = b := by
  rintro patience s rfl
  have hspan := ensures_captureSpan caps hport channel edge input edges (v := s.settings)
    (l := s.log)
  refine hspan.weaken ?_ patience s rfl
  rintro measured t ⟨first, last, -, hledger⟩
  obtain ⟨hsettings, hlog⟩ := Prod.mk.inj hledger
  rw [bearings, hsettings, hlog]
  rfl

theorem ensures_bearings_seek (channel : Nat) (input : CaptureInput) (hz : UInt32)
    (expected : UInt16) (n : Nat) :
    Ensures (fun s => s.bearings = b)
      (caps.system.seek ⟨recording caps port, channel, input⟩ hz expected n).run
      fun _ s => s.bearings = b := by
  induction n with
  | zero => exact triple_pure _ fun _ hs => hs
  | succ n ih =>
    rw [ClockSystem.seek, run_liftM_bind]
    apply Triple.bind (ensures_bearings_captureSpan caps hport channel .falling input _)
    intro measured
    by_cases hexact : measured = expected
    · rw [if_pos hexact]
      exact fun patience s hs => hs
    · rw [if_neg hexact, run_liftM_bind]
      apply Triple.bind (ensures_bearings_nudgeDco caps _)
      intro moved
      cases moved with
      | false => exact triple_pure _ fun _ hs => hs
      | true => exact ih

/-- A search begins with the timer started against the rate that ACLK has. -/
theorem ensures_bearings_tuneDco (channel : Nat) (input : CaptureInput) (hz : UInt32)
    (s : Workshop M) :
    Ensures (fun t => t = s)
      (caps.system.tuneDco ⟨recording caps port, channel, input⟩ hz).run
      fun answer t => answer = .ok () →
        t.bearings = (s.settings.dco.beside, some (caps.aclkRate s.clock)) := by
  rintro patience s rfl
  rw [start_tuneDco]
  cases ClockSystem.expectedCount hz (caps.aclkRate s.clock) with
  | none => exact nofun
  | some expected =>
    let begun : Workshop M := { s with clock := s.clock.referenced }
    have hrun : Ensures (fun t => t = begun) (do
        (recording caps port).writeControl countSmclk
        caps.system.port.change .bcsctl2 undivide
        (caps.system.seek ⟨recording caps port, channel, input⟩ hz expected
          ClockSystem.tuningSteps).run)
        fun answer t => answer = .ok () →
          t.bearings = (s.settings.dco.beside, some (caps.aclkRate s.clock)) := by
      apply Triple.bind (ensures_startCounting caps hport s)
      intro _
      apply Triple.bind (ensures_change_bcsctl2 caps undivide)
      intro _
      refine ((ensures_bearings_seek caps hport channel input hz expected _).of_imp ?_).weaken
        fun _ _ ht _ => ht
      intro t ht
      obtain ⟨hsettings, hlog⟩ := Prod.mk.inj ht
      rw [bearings, hsettings, hlog]
      rfl
    exact hrun patience begun rfl

/-! ## The transaction -/

/-- A tuning needs a channel, and without one does nothing but refuse. With one, it stops the timer
and gives back the selectors, the dividers and the mode of LFXT1. If it fails, it gives back the DCO
and the remembered rate, too; if it succeeds, only the DCO's setting has moved, and the last
measurement shows the count that the rate has against ACLK. -/
theorem tuning_transactional {control : M → UInt16}
    (hcontrol : Ensures (fun _ => True) (port.writeControl 0) fun _ s => control s.rest = 0)
    (channel : Nat) (input : CaptureInput) (hz : UInt32) :
    (¬ channel < port.channels →
      caps.system.tuneMclk ⟨recording caps port, channel, input⟩ hz =
        return .error .outOfRange) ∧
    (channel < port.channels → ∀ patience s answer t,
      anyBits ClockField.lfxt1Fault s.clock.bcsctl3 = false →
      (caps.system.tuneMclk ⟨recording caps port, channel, input⟩ hz).start patience s =
        .ok answer t →
      control t.rest = 0 ∧ t.clock.bcsctl2 = s.clock.bcsctl2 ∧
        t.clock.bcsctl3 = s.clock.bcsctl3 ∧
        (∀ why, answer = .error why → t.clock.dcoctl = s.clock.dcoctl ∧
          t.clock.bcsctl1 = s.clock.bcsctl1 ∧ t.configuredHz = s.configuredHz) ∧
        (answer = .ok () → t.configuredHz = hz ∧
          clearBits ClockField.dcoRange t.clock.bcsctl1 =
            clearBits ClockField.dcoRange s.clock.bcsctl1 ∧
          0 < caps.aclkRate s.clock ∧
          ∃ first last earlier, t.log = .captured last t.settings.dco.code ::
              .captured first t.settings.dco.code :: earlier ∧
            10 * hz.toNat / (caps.aclkRate s.clock).toNat = (last - first).toNat)) := by
  refine ⟨fun hchannel => if_neg hchannel, fun hchannel patience s answer t hstored hrun => ?_⟩
  obtain ⟨u, v, htune, hstop, rfl⟩ := tuneMclk_answered caps hchannel hrun
  have hsought := Triple.of_start (ensures_tuneDco caps hport channel input hz) rfl htune
  have hbearings := Triple.of_start (ensures_bearings_tuneDco caps hport channel input hz s) rfl htune
  have hzero := Triple.of_start hcontrol trivial hstop
  have hledger := Triple.of_start ((hport.writeControl 0).ensures u.ledger) rfl hstop
  obtain ⟨hsettings, hlog⟩ := Prod.mk.inj hledger
  have hbits := s.clock.clear_read_bcsctl3 hstored
  cases answer with
  | error why =>
    have hhz := hsought.failed why rfl
    refine ⟨hzero, rfl, hbits, fun _ _ => ⟨rfl, rfl, ?_⟩, nofun⟩
    exact (congrArg ClockSettings.configuredHz hsettings).trans hhz
  | ok _ =>
    refine ⟨hzero, rfl, hbits, nofun, fun _ => ?_⟩
    obtain ⟨hhz, hhit⟩ := hsought.found rfl
    obtain ⟨hbeside, hreference⟩ := Prod.mk.inj (hbearings rfl)
    rw [← hlog] at hhit hreference
    rw [← hsettings] at hhz hhit hbeside
    exact ⟨hhz, hbeside, hhit.shows hreference⟩

end Ports

/-! ## A tuning that fails on the way -/

/-- A DCO one notch below the highest, and a timer that always measures too little. MCLK and SMCLK
have dividers. -/
def sluggish : Workshop (SimTimer 2) :=
  ⟨{ dcoctl := 0xFE, bcsctl1 := 0x8F, bcsctl2 := 0x14 }, 1000000, [], { source := .fixed 0 }⟩

def tuneSluggish : Run (Workshop (SimTimer 2)) (Except TuneError Unit) :=
  launchClock.caps.system.tuneMclk ⟨recording launchClock.caps tuningPort, 1, .b⟩ 7900000

/-- The search goes up one notch before it gives up. -/
theorem tuning_transactional_sluggish :
    anyBits ClockField.lfxt1Fault sluggish.clock.bcsctl3 = false ∧
      (∃ why, tuneSluggish.start 1 sluggish = .ok (.error why) (tuneSluggish.finish 1 sluggish)) ∧
      (tuneSluggish.finish 1 sluggish).rest.control = 0 ∧
      (tuneSluggish.finish 1 sluggish).clock.bcsctl2 = 0x14 ∧
      (tuneSluggish.finish 1 sluggish).clock.dcoctl = 0xFE ∧
      (tuneSluggish.finish 1 sluggish).configuredHz = 1000000 := by
  have hfails : (tuneSluggish.answer? 1 sluggish).map Except.isOk = some false := by
    decide +kernel
  obtain ⟨answer, hanswer, hfailed⟩ := Option.map_eq_some_iff.mp hfails
  have hrun := start_of_answer hanswer
  have hstored : anyBits ClockField.lfxt1Fault sluggish.clock.bcsctl3 = false := by decide +kernel
  have hcontrol : Ensures (fun _ => True) (tuningPort.writeControl 0)
      fun _ s => s.rest.control = 0 := fun _ _ _ => rfl
  obtain ⟨-, hpresent⟩ :=
    tuning_transactional launchClock.caps spares_tuningPort hcontrol 1 .b 7900000
  obtain ⟨hstopped, hbcsctl2, -, hrestored, -⟩ :=
    hpresent (by decide) 1 sluggish _ _ hstored hrun
  cases answer with
  | ok _ => cases hfailed
  | error why =>
    obtain ⟨hdcoctl, -, hhz⟩ := hrestored why rfl
    exact ⟨hstored, ⟨why, hrun⟩, hstopped, hbcsctl2, hdcoctl, hhz⟩

end Workshop

end Msp430
