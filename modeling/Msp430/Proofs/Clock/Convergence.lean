import Msp430.Proofs.Clock.Tuning
import Msp430.Proofs.Timer.Capture

/-!
Where the search for a rate ends. If a faster setting never measures less, every step leads towards
each place that measures what is expected, and the whole scale is no longer than the search.
-/
namespace Msp430.Workshop

open Run

variable {M : Type} (caps : ClockCapabilities)

/-! ## What is measured -/

/-- The counts that have been captured. A measurement takes two. -/
def readings : List TuningEvent → Nat
  | [] => 0
  | .started _ :: earlier => readings earlier
  | .captured _ _ :: earlier => readings earlier + 1

/-- A timer that is wired to the reference. Once it counts SMCLK, and SMCLK is the DCO, a measurement
gives what the place of the DCO has, and that never falls from one place to the next. -/
structure Gauge (via : TuningChannel (Workshop M)) (patience : Nat) (counts : Nat → UInt16)
    (wired counting : M → Prop) : Prop where
  monotone : ∀ low high, low ≤ high → high < 4096 → counts low ≤ counts high
  started : ∀ s, wired s.rest → ∃ t,
    (via.timer.writeControl countSmclk).start patience s = .ok () t ∧ counting t.rest
  measured : ∀ s, counting s.rest → DcoDriven s.clock.bcsctl2 0 → ∃ t,
    (via.timer.captureSpan via.channel .falling via.input ClockSystem.tuningPeriods).start patience
      s = .ok (counts s.settings.dco.place) t ∧ counting t.rest
  stopped : ∀ s, counting s.rest → ∃ t, (via.timer.writeControl 0).start patience s = .ok () t

/-- What measures less lies lower. -/
theorem Gauge.place_lt {via : TuningChannel (Workshop M)} {patience : Nat}
    {counts : Nat → UInt16} {wired counting : M → Prop}
    (h : Gauge via patience counts wired counting) {low high : Nat} (hlow : low < 4096)
    (hless : counts low < counts high) : low < high := by
  apply Nat.lt_of_not_le
  intro hle
  exact absurd hless (UInt16.not_lt.mpr (h.monotone _ _ hle hlow))

theorem dcoDriven_undivide (bits : UInt8) : DcoDriven (undivide bits) 0 := by
  have h : ClockField.mclkSelect.extract (undivide bits) = 0 ∧
      ClockField.mclkDivider.extract (undivide bits) = 0 ∧
      anyBits ClockField.smclkSelect (undivide bits) = false ∧
      ClockField.smclkDivider.extract (undivide bits) = 0 := by
    obtain ⟨⟨bits⟩⟩ := bits
    revert bits
    decide +kernel
  exact ⟨h.1, h.2.1, h.2.2.1, h.2.2.2⟩

/-! ## The search -/

/-- How a search of at most `n` measurements ends that begins in `s`. It finds every place that is
less than `n` places away. -/
structure Searched (counts : Nat → UInt16) (counting : M → Prop) (expected : UInt16) (n : Nat)
    (s : Workshop M) (answer : Except TuneError Unit) (t : Workshop M) : Prop where
  counting : counting t.rest
  ends : answer = .ok () ∨ answer = .error .notConverged
  found : answer = .ok () → counts t.settings.dco.place = expected
  complete : ∀ place, place < 4096 → counts place = expected → s.settings.dco.place < place + n →
    place < s.settings.dco.place + n → answer = .ok ()
  readings : readings t.log ≤ readings s.log + 2 * n

variable {port : TimerPort (Workshop M)} (hport : port.Spares ledger)
variable {channel : Nat} {input : CaptureInput} {patience : Nat} {counts : Nat → UInt16}
variable {wired counting : M → Prop}
variable (hgauge : Gauge ⟨recording caps port, channel, input⟩ patience counts wired counting)

include hport hgauge

/-- A measurement leaves the settings alone. -/
theorem start_measure {s : Workshop M} (hcounting : counting s.rest)
    (hdco : DcoDriven s.clock.bcsctl2 0) :
    ∃ t, ((recording caps port).captureSpan channel .falling input
        ClockSystem.tuningPeriods).start patience s = .ok (counts s.settings.dco.place) t ∧
      counting t.rest ∧ t.settings = s.settings ∧ readings t.log = readings s.log + 2 := by
  obtain ⟨t, hrun, ht⟩ := hgauge.measured s hcounting hdco
  have hspan := ensures_captureSpan caps hport channel .falling input ClockSystem.tuningPeriods
    (v := s.settings) (l := s.log)
  obtain ⟨first, last, -, hledger⟩ := Triple.of_start hspan rfl hrun
  obtain ⟨hsettings, hlog⟩ := Prod.mk.inj hledger
  refine ⟨t, hrun, ht, hsettings, ?_⟩
  rw [hlog]
  rfl

omit hport in
/-- A step leads one place on, or there is no such place. In either case what measures the expected
count lies on that side. -/
theorem start_step {s : Workshop M} {expected : UInt16}
    (hne : counts s.settings.dco.place ≠ expected) :
    ∃ moved t, (caps.system.nudgeDco (if counts s.settings.dco.place > expected then .slower
        else .faster)).start patience s = .ok moved t ∧
      t.rest = s.rest ∧ t.log = s.log ∧ t.clock.bcsctl2 = s.clock.bcsctl2 ∧
      ∀ place, place < 4096 → counts place = expected → moved = true ∧
        (t.settings.dco.place < s.settings.dco.place ∧ place ≤ t.settings.dco.place ∨
          s.settings.dco.place < t.settings.dco.place ∧ t.settings.dco.place ≤ place) := by
  have hlt := s.settings.dco.place_lt
  by_cases habove : counts s.settings.dco.place > expected
  case pos =>
    rw [if_pos habove, start_nudgeDco]
    obtain ⟨hnone, hzero⟩ | ⟨new, hnew, hdown, -⟩ := s.settings.dco.nudge_slower
    · rw [hnone]
      refine ⟨false, s, rfl, rfl, rfl, rfl, fun place hplace hcounts => ?_⟩
      have hbelow := hgauge.place_lt hplace (hcounts ▸ habove)
      omega
    · rw [hnew]
      refine ⟨true, _, rfl, rfl, rfl, rfl, fun place hplace hcounts => ⟨rfl, .inl ?_⟩⟩
      have hbelow := hgauge.place_lt hplace (hcounts ▸ habove)
      change new.place < s.settings.dco.place ∧ place ≤ new.place
      omega
  case neg =>
    rw [if_neg habove, start_nudgeDco]
    have hunder := UInt16.lt_of_le_of_ne (UInt16.not_lt.mp habove) hne
    obtain ⟨hnone, htop⟩ | ⟨new, hnew, hup, -⟩ := s.settings.dco.nudge_faster
    · rw [hnone]
      refine ⟨false, s, rfl, rfl, rfl, rfl, fun place hplace hcounts => ?_⟩
      have habove' := hgauge.place_lt hlt (hcounts ▸ hunder)
      omega
    · rw [hnew]
      refine ⟨true, _, rfl, rfl, rfl, rfl, fun place hplace hcounts => ⟨rfl, .inr ?_⟩⟩
      have habove' := hgauge.place_lt hlt (hcounts ▸ hunder)
      change s.settings.dco.place < new.place ∧ new.place ≤ place
      omega

theorem start_seek (hz : UInt32) (expected : UInt16) (n : Nat) {s : Workshop M}
    (hcounting : counting s.rest) (hdco : DcoDriven s.clock.bcsctl2 0) :
    ∃ answer t, (caps.system.seek ⟨recording caps port, channel, input⟩ hz expected n).run.start
        patience s = .ok answer t ∧ Searched counts counting expected n s answer t := by
  induction n generalizing s with
  | zero =>
    refine ⟨.error .notConverged, s, rfl, hcounting, .inr rfl, nofun, ?_, Nat.le_refl _⟩
    intro place _ _ hlow hhigh
    omega
  | succ n ih =>
    obtain ⟨t, hmeasure, ht, hsettings, hreadings⟩ := start_measure caps hport hgauge hcounting hdco
    rw [ClockSystem.seek, run_liftM_bind, start_bind_ok hmeasure, ← hsettings]
    by_cases hexact : counts t.settings.dco.place = expected
    · rw [if_pos hexact]
      refine ⟨.ok (), _, rfl, ht, .inl rfl, fun _ => hexact, fun _ _ _ _ _ => rfl, ?_⟩
      change readings t.log ≤ _
      omega
    · rw [if_neg hexact, run_liftM_bind]
      obtain ⟨moved, u, hstep, hrest, hlog, hbits, hside⟩ := start_step caps hgauge hexact
      rw [start_bind_ok hstep]
      rw [← hlog] at hreadings
      cases moved with
      | false =>
        refine ⟨.error .notConverged, u, rfl, hrest ▸ ht, .inr rfl, nofun, ?_, ?_⟩
        · intro place hplace hcounts _ _
          cases (hside place hplace hcounts).1
        · omega
      | true =>
        have hdco' : DcoDriven u.clock.bcsctl2 0 := by
          have hsame : t.clock.bcsctl2 = s.clock.bcsctl2 := congrArg ClockSettings.bcsctl2 hsettings
          rw [hbits, hsame]
          exact hdco
        obtain ⟨answer, v, hrest', hv⟩ := ih (hrest ▸ ht) hdco'
        refine ⟨answer, v, hrest', hv.counting, hv.ends, hv.found, ?_, ?_⟩
        · intro place hplace hcounts hlow hhigh
          obtain ⟨-, hnear⟩ := hside place hplace hcounts
          rw [← hsettings] at hlow hhigh
          apply hv.complete place hplace hcounts
          · omega
          · omega
        · have hlater := hv.readings
          omega

/-! ## A tuning -/

/-- A search finds the rate if any setting of the DCO has it. -/
theorem start_tuneDco_gauged {hz : UInt32} {s : Workshop M} (hwired : wired s.rest)
    {expected : UInt16}
    (hexpected : ClockSystem.expectedCount hz (caps.aclkRate s.clock) = some expected) :
    ∃ answer t, (caps.system.tuneDco ⟨recording caps port, channel, input⟩ hz).run.start patience
        s = .ok answer t ∧ counting t.rest ∧
      (answer = .ok () ∨ answer = .error .notConverged) ∧
      (answer = .ok () → counts t.settings.dco.place = expected) ∧
      (∀ place, place < 4096 → counts place = expected → answer = .ok ()) ∧
      readings t.log ≤ readings s.log + 2 * ClockSystem.tuningSteps := by
  let begun : Workshop M := { s with clock := s.clock.referenced }
  obtain ⟨t, hstart, ht⟩ := hgauge.started begun hwired
  have hledger := Triple.of_start (ensures_startCounting caps hport s) rfl hstart
  have hreadings : readings t.log = readings s.log := congrArg (readings ·.2) hledger
  let undivided : Workshop M :=
    { t with clock := t.clock.write .bcsctl2 (undivide t.clock.bcsctl2) }
  have hdco : DcoDriven undivided.clock.bcsctl2 0 := dcoDriven_undivide _
  obtain ⟨answer, u, hseek, hu⟩ := start_seek caps hport hgauge (s := undivided) hz
    expected ClockSystem.tuningSteps ht hdco
  refine ⟨answer, u, ?_, hu.counting, hu.ends, hu.found, ?_, ?_⟩
  · rw [start_tuneDco, hexpected]
    dsimp only
    rw [start_bind_ok hstart]
    exact hseek
  · intro place hplace hcounts
    have hlt := undivided.settings.dco.place_lt
    apply hu.complete place hplace hcounts
    · exact Nat.lt_of_lt_of_le hlt (Nat.le_add_left _ _)
    · exact Nat.lt_of_lt_of_le hplace (Nat.le_add_left _ _)
  · exact hreadings ▸ hu.readings

/-- A tuning succeeds exactly if some setting of the DCO measures what the rate has to, and then the
DCO is left at such a setting. It fails in no other way, and takes no more measurements than there
are settings, wherever it begins. -/
theorem tuning_converges (hchannel : channel < port.channels) (hz : UInt32) {s : Workshop M}
    (hwired : wired s.rest) (haclk : 0 < caps.aclkRate s.clock)
    (hfits : 10 * hz.toNat / (caps.aclkRate s.clock).toNat ≤ 65535) :
    ∃ answer t, (caps.system.tuneMclk ⟨recording caps port, channel, input⟩ hz).start patience s =
        .ok answer t ∧
      (answer = .ok () ↔ ∃ place < 4096,
        (counts place).toNat = 10 * hz.toNat / (caps.aclkRate s.clock).toNat) ∧
      (answer = .ok () → (counts t.settings.dco.place).toNat =
        10 * hz.toNat / (caps.aclkRate s.clock).toNat) ∧
      (answer ≠ .ok () → answer = .error .notConverged) ∧
      readings t.log ≤ readings s.log + 2 * 4096 := by
  let expected := (10 * hz.toNat / (caps.aclkRate s.clock).toNat).toUInt16
  have hcount : 10 * hz.toNat / (caps.aclkRate s.clock).toNat = expected.toNat :=
    (Nat.mod_eq_of_lt (Nat.lt_succ_of_le hfits)).symm
  have hexpected := expectedCount_eq_some_iff.mpr ⟨haclk, hcount⟩
  obtain ⟨answer, t, htune, hcounting, hends, hfound, hcomplete, hreadings⟩ :=
    start_tuneDco_gauged caps hport hgauge hwired hexpected
  obtain ⟨u, hstop⟩ := hgauge.stopped t hcounting
  have hledger := Triple.of_start ((hport.writeControl 0).ensures t.ledger) rfl hstop
  obtain ⟨hsettings, hlog⟩ := Prod.mk.inj hledger
  let final : Workshop M := { u with clock := s.clock.restored u.clock answer }
  have hplace (h : answer = .ok ()) : final.settings.dco.place = t.settings.dco.place := by
    have hkept : final.settings.dco = u.settings.dco := by
      subst h
      rfl
    rw [hkept, hsettings]
  refine ⟨answer, final, ?_, ⟨fun h => ?_, ?_⟩, fun h => ?_, ?_, ?_⟩
  · rw [start_tuneMclk caps hchannel, htune]
    dsimp only
    rw [hstop]
  · exact ⟨_, t.settings.dco.place_lt, by rw [hfound h, hcount]⟩
  · rintro ⟨place, hlt, heq⟩
    exact hcomplete place hlt (UInt16.toNat_inj.mp (heq.trans hcount))
  · rw [hplace h, hfound h, hcount]
  · exact fun hne => hends.resolve_left hne
  · change readings u.log ≤ _
    rw [hlog]
    exact hreadings

omit hport hgauge

/-! ## A timer that captures the DCO -/

theorem simulates_tuningPort (caps : ClockCapabilities) :
    (recording caps tuningPort).Simulates Workshop.rest Workshop.clock where
  readChannel _ _ _ := ⟨_, rfl, rfl, rfl⟩
  writeChannel _ _ _ _ := ⟨_, rfl, rfl, rfl⟩
  readCompare _ _ _ := ⟨_, rfl, rfl, rfl⟩

/-- A simulated timer whose captures follow the DCO gives what its total is. -/
theorem gauge_tuningPort (caps : ClockCapabilities) (total : Nat → Nat) {channel patience : Nat}
    (hchannel : channel < 2) (hpatience : 0 < patience) (input : CaptureInput)
    (hmonotone : ∀ low high, low ≤ high → high < 4096 → total low ≤ total high)
    (hfits : ∀ place, place < 4096 → total place < 65536) :
    Gauge ⟨recording caps tuningPort, channel, input⟩ patience (fun place => (total place).toUInt16)
      (fun timer => timer.source = .dco total) fun timer => timer.source = .dco total where
  monotone low high hle hhigh := by
    have hlow := hfits low (Nat.lt_of_le_of_lt hle hhigh)
    rw [UInt16.le_iff_toNat_le]
    change total low % 65536 ≤ total high % 65536
    rw [Nat.mod_eq_of_lt hlow, Nat.mod_eq_of_lt (hfits high hhigh)]
    exact hmonotone low high hle hhigh
  started s hs := ⟨_, rfl, hs⟩
  stopped s _ := ⟨_, rfl⟩
  measured s hs hdco := by
    have hcount : s.clock.smclkCount = s.settings.dco.place := by
      rw [ClockModule.smclkCount, hdco.smclkDivider]
      rfl
    have hyields : s.rest.Yields s.clock (total s.settings.dco.place) := by
      refine ⟨?_, ?_, ?_⟩
      · rw [hs]
        rfl
      · rw [hs, ← hcount]
        rfl
      · rw [hs, ← hcount]
        rfl
    obtain ⟨n, t, hrun, ht⟩ := (simulates_tuningPort caps).start_captureSpan hyields hchannel
      hpatience .falling input ClockSystem.tuningPeriods
    refine ⟨t, ?_, ht.trans hs⟩
    rw [show n + ClockSystem.tuningPeriods = n + capturesPerTotal from rfl, captureLine_round,
      Nat.add_sub_cancel_left] at hrun
    exact hrun

/-- The lowest setting, and a timer that captures the place of the DCO. -/
def lowest : Workshop (SimTimer 2) :=
  ⟨{ dcoctl := 0, bcsctl1 := 0x80 }, 0, [], { source := .dco id }⟩

/-- Only the highest setting has this rate, and the search goes all the way. -/
theorem tuning_converges_across :
    lowest.settings.dco.place = 0 ∧ 1 < tuningPort.channels ∧ lowest.rest.source = .dco id ∧
      0 < launchClock.caps.aclkRate lowest.clock ∧
      10 * (13418496 : UInt32).toNat / (launchClock.caps.aclkRate lowest.clock).toNat = 4095 ∧
      ∃ t, (launchClock.caps.system.tuneMclk ⟨recording launchClock.caps tuningPort, 1, .b⟩
          13418496).start 1 lowest = .ok (.ok ()) t ∧
        t.settings.dco.place = 4095 ∧ readings t.log ≤ 2 * 4096 := by
  have haclk : 0 < launchClock.caps.aclkRate lowest.clock := by decide +kernel
  have hcount : 10 * (13418496 : UInt32).toNat /
      (launchClock.caps.aclkRate lowest.clock).toNat = 4095 := by decide +kernel
  have hchannel : 1 < 2 := by decide
  have hpatience : 0 < 1 := by decide
  have hgauge := gauge_tuningPort launchClock.caps id hchannel hpatience .b
    (fun _ _ hle _ => hle) fun _ hlt => Nat.lt_trans hlt (by decide)
  obtain ⟨answer, t, hrun, hiff, hfound, -, hreadings⟩ :=
    tuning_converges launchClock.caps spares_tuningPort hgauge (by decide) 13418496 (s := lowest)
      rfl haclk (by rw [hcount]; decide)
  rw [hcount] at hiff hfound
  obtain rfl := hiff.mpr ⟨4095, by decide, rfl⟩
  have hplace : t.settings.dco.place % 65536 = 4095 := hfound rfl
  have hlt := t.settings.dco.place_lt
  refine ⟨by decide, by decide, rfl, haclk, hcount, t, hrun, ?_, ?_⟩
  · omega
  · exact Nat.le_trans hreadings (Nat.le_of_eq (Nat.zero_add _))

end Msp430.Workshop
