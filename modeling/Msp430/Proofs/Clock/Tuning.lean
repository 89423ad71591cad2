import Msp430.Proofs.Clock.Nominal
import Msp430.Proofs.Clock.Notches

/-!
The course of a tuning. ACLK is switched over to the reference, which does not change its rate; the
timer is started, MCLK and SMCLK become the DCO, and the search begins. However the search ends, what
was found in the registers is put back around it.
-/
namespace Msp430

open Run

variable {M : Type}

/-! ## The reference -/

theorem insert_extract_aclkDivider (bits : UInt8) :
    ClockField.aclkDivider.insert (ClockField.aclkDivider.extract bits) bits = bits := by
  obtain ⟨⟨bits⟩⟩ := bits
  revert bits
  decide +kernel

namespace ClockModule

/-- ACLK takes the crystal if it is running and VLO otherwise. -/
def referenceMode (m : ClockModule) : Lfxt1Mode :=
  if Lfxt1Mode.ofCode (ClockField.lfxt1Mode.extract (m.read .bcsctl3)) = .vlo then .vlo
  else if anyBits ClockField.lfxt1Fault (m.read .bcsctl3) then .vlo
  else .crystal

/-- A clock module whose ACLK serves as the reference of a tuning. -/
def referenced (m : ClockModule) : ClockModule :=
  m.write .bcsctl3 (clearBits ClockField.lfxt1Fault
    (ClockField.lfxt1Mode.insert m.referenceMode.code (m.read .bcsctl3)))

theorem mode_written (mode : Lfxt1Mode) (bits : UInt8) :
    Lfxt1Mode.ofCode (ClockField.lfxt1Mode.extract (clearBits ClockField.lfxt1Fault
      (clearBits ClockField.lfxt1Fault (ClockField.lfxt1Mode.insert mode.code bits)))) = mode := by
  obtain ⟨⟨bits⟩⟩ := bits
  revert bits
  cases mode <;> decide +kernel

/-- A crystal that shows no fault is running. -/
theorem crystalRunning_of_sound {m : ClockModule}
    (hmode : Lfxt1Mode.ofCode (ClockField.lfxt1Mode.extract (m.read .bcsctl3)) ≠ .vlo)
    (hfault : anyBits ClockField.lfxt1Fault (m.read .bcsctl3) = false) :
    m.crystalRunning = true := by
  cases hrunning : m.crystalRunning with
  | true => rfl
  | false =>
    change Lfxt1Mode.ofCode (ClockField.lfxt1Mode.extract m.lfxt1Bits) ≠ .vlo at hmode
    change anyBits ClockField.lfxt1Fault m.lfxt1Bits = false at hfault
    unfold lfxt1Bits at hmode hfault
    split at hfault
    · rw [anyBits_set_byte (by decide)] at hfault
      cases hfault
    · rename_i hshown
      rw [if_neg hshown] at hmode
      exact absurd ⟨hmode, by rw [hrunning]; rfl⟩ hshown

/-- The bits that `referenced` writes show up as they are stored, since the crystal is chosen only if
it is running. -/
theorem read_referenced (m : ClockModule) :
    m.referenced.read .bcsctl3 = m.referenced.bcsctl3 := by
  apply if_neg
  rintro ⟨hmode, hstopped⟩
  change Lfxt1Mode.ofCode (ClockField.lfxt1Mode.extract (clearBits _ (clearBits _ _))) ≠ _ at hmode
  rw [mode_written, referenceMode] at hmode
  change (!m.crystalRunning) = true at hstopped
  split at hmode
  · exact hmode rfl
  · split at hmode
    · exact hmode rfl
    · rename_i hvlo hfault
      rw [crystalRunning_of_sound hvlo (Bool.eq_false_iff.mpr hfault)] at hstopped
      cases hstopped

end ClockModule

/-- Switching ACLK over to the reference does not change its rate. -/
theorem ClockCapabilities.aclkRate_referenced (caps : ClockCapabilities) (m : ClockModule) :
    caps.aclkRate m.referenced = caps.aclkRate m := by
  have hmode : Lfxt1Mode.ofCode (ClockField.lfxt1Mode.extract m.referenced.bcsctl3) =
      m.referenceMode := ClockModule.mode_written _ _
  have hfault : anyBits ClockField.lfxt1Fault m.referenced.bcsctl3 = false :=
    anyBits_clear_byte _ _
  rw [aclkRate, aclkRate, m.read_referenced, ClockSystem.lfxt1Rate, ClockSystem.lfxt1Rate, hmode,
    hfault, ClockModule.referenceMode]
  change _ >>> (ClockField.aclkDivider.extract m.bcsctl1).toUInt32 = _
  congr 1
  split
  · rfl
  · split <;> rfl

/-- What the timer is expected to count, if the reference runs and the count fits the timer. -/
theorem expectedCount_eq_some_iff {hz aclkHz : UInt32} {expected : UInt16} :
    ClockSystem.expectedCount hz aclkHz = some expected ↔
      0 < aclkHz ∧ 10 * hz.toNat / aclkHz.toNat = expected.toNat := by
  have hpos : 0 < aclkHz ↔ aclkHz ≠ 0 := by
    rw [UInt32.lt_iff_toNat_lt, ne_eq, ← UInt32.toNat_inj]
    exact Nat.pos_iff_ne_zero
  have hbound := expected.toNat_lt
  rw [ClockSystem.expectedCount, hpos, ClockSystem.tuningPeriods]
  by_cases hzero : aclkHz = 0
  · rw [if_pos hzero]
    exact ⟨nofun, fun h => absurd hzero h.1⟩
  rw [if_neg hzero]
  dsimp only
  by_cases hfits : 10 * hz.toNat / aclkHz.toNat < 0x10000
  · rw [if_pos hfits, Option.some.injEq, ← UInt16.toNat_inj]
    change (10 * hz.toNat / aclkHz.toNat) % 65536 = _ ↔ _
    rw [Nat.mod_eq_of_lt hfits]
    exact ⟨fun h => ⟨hzero, h⟩, fun h => h.2⟩
  · rw [if_neg hfits]
    refine ⟨nofun, fun h => absurd ?_ hfits⟩
    rw [h.2]
    exact hbound

/-! ## What a tuning leaves -/

/-- The clock module behind a tuning: the DCO goes back to where it was if the tuning failed, and
everything else goes back in any case. -/
def ClockModule.restored (before after : ClockModule) (answer : Except TuneError Unit) :
    ClockModule :=
  let tuned : ClockModule := match answer with
    | .ok _ => after
    | .error _ => { after with dcoctl := before.dcoctl, bcsctl1 := before.bcsctl1 }
  (tuned.write .bcsctl2 before.bcsctl2).write .bcsctl3 (before.read .bcsctl3)

namespace Workshop

variable (caps : ClockCapabilities)

/-! ## On the way to the search -/

theorem start_nudgeDco (direction : Nudge) (patience : Nat) (s : Workshop M) :
    (caps.system.nudgeDco direction).start patience s =
      match s.settings.dco.nudge? direction with
      | none => .ok false s
      | some new => .ok true
          { s with clock := { s.clock with dcoctl := new.dcoctl, bcsctl1 := new.bcsctl1 } } := by
  have hread : caps.system.readDco.start patience s = .ok s.settings.dco s := rfl
  rw [ClockSystem.nudgeDco, start_bind_ok hread]
  cases s.settings.dco.nudge? direction with
  | none => rfl
  | some new =>
    by_cases hrange : new.bcsctl1 ≠ s.settings.dco.bcsctl1
    · dsimp only
      rw [if_pos hrange]
      rfl
    · dsimp only
      rw [if_neg hrange, Decidable.not_not.mp hrange]
      rfl

theorem start_configureReference (patience : Nat) (s : Workshop M) :
    (caps.system.configureAclk .xt1OrVlo
        (ClockField.aclkDivider.extract s.clock.bcsctl1)).run.start patience s =
      .ok (.ok ()) { s with clock := s.clock.referenced } := by
  have hmode : (caps.system.lfxt1ModeFor .xt1OrVlo).run.start patience s =
      .ok (.ok s.clock.referenceMode) s := by
    rw [ClockSystem.lfxt1ModeFor, run_liftM_bind,
      start_bind_ok (ClockSystem.start_lfxt1Mode (obeyed caps) patience s), ClockModule.referenceMode]
    split
    · rfl
    · rw [run_liftM_bind, start_bind_ok (ClockSystem.start_lfxt1Faulted (obeyed caps) patience s)]
      rfl
  rw [ClockSystem.configureAclk, ExceptT.run_bind, start_bind_ok hmode]
  let bits := ClockField.aclkDivider.insert
    (ClockField.aclkDivider.extract s.clock.bcsctl1) s.clock.bcsctl1
  have hdivider : { s with clock := s.clock.write .bcsctl1 bits } = s := by
    have hbits : bits = s.clock.bcsctl1 := insert_extract_aclkDivider _
    rw [hbits]
    rfl
  have hwrite : (caps.system.port.change .bcsctl1 (ClockField.aclkDivider.insert
      (ClockField.aclkDivider.extract s.clock.bcsctl1))).start patience s = .ok () s :=
    congrArg (EStateM.Result.ok ()) hdivider
  dsimp only
  rw [run_liftM_bind, start_bind_ok hwrite]
  rfl

/-- What the timer is started with: it counts SMCLK from zero. -/
def countSmclk : UInt16 :=
  (TimerSource.smclk.code <<< TimerControl.source.shift) ||| TimerControl.continuous |||
    TimerControl.clear

/-- The timer is started against the rate that ACLK has had all along. -/
theorem ensures_startCounting {port : TimerPort (Workshop M)} (hport : port.Spares ledger)
    (s : Workshop M) :
    Ensures (fun t => t = { s with clock := s.clock.referenced })
      ((recording caps port).writeControl countSmclk)
      fun _ t => t.ledger = (s.clock.referenced.settings s.configuredHz,
        .started (caps.aclkRate s.clock) :: s.log) := by
  have hmode : anyBits TimerControl.mode countSmclk = true := by decide
  apply (ensures_startTimer caps hport hmode).of_imp
  rintro t rfl
  exact ⟨rfl, caps.aclkRate_referenced s.clock⟩

/-- MCLK and SMCLK become the DCO, undivided. -/
def undivide : UInt8 → UInt8 :=
  clearBits (ClockField.mclkSelect.mask ||| ClockField.mclkDivider.mask |||
    ClockField.smclkSelect ||| ClockField.smclkDivider.mask)

/-- A tuning measures against the rate that ACLK has when it begins. -/
theorem start_tuneDco (via : TuningChannel (Workshop M)) (hz : UInt32) (patience : Nat)
    (s : Workshop M) :
    (caps.system.tuneDco via hz).run.start patience s =
      match ClockSystem.expectedCount hz (caps.aclkRate s.clock) with
      | none => .ok (.error .outOfRange) { s with clock := s.clock.referenced }
      | some expected => (do
          via.timer.writeControl countSmclk
          caps.system.port.change .bcsctl2 undivide
          (caps.system.seek via hz expected ClockSystem.tuningSteps).run).start patience
            { s with clock := s.clock.referenced } := by
  have hread : (caps.system.port.read .bcsctl1).start patience s =
      .ok s.clock.bcsctl1 s := rfl
  rw [ClockSystem.tuneDco, run_liftM_bind, start_bind_ok hread, run_adapt_bind,
    start_bind_ok (start_configureReference caps patience s)]
  dsimp only
  rw [run_liftM_bind, start_bind_ok (start_aclkHz caps patience _), caps.aclkRate_referenced]
  cases ClockSystem.expectedCount hz (caps.aclkRate s.clock) with
  | none => rfl
  | some expected =>
    simp only [run_liftM_bind]
    rfl

/-! ## Around the search -/

theorem start_tuneMclk {via : TuningChannel (Workshop M)}
    (hchannel : via.channel < via.timer.channels) (hz : UInt32) (patience : Nat)
    (s : Workshop M) :
    (caps.system.tuneMclk via hz).start patience s =
      match (caps.system.tuneDco via hz).run.start patience s with
      | .error why t => .error why t
      | .ok answer t =>
        match (via.timer.writeControl 0).start patience t with
        | .error why u => .error why u
        | .ok _ u => .ok answer { u with clock := s.clock.restored u.clock answer } := by
  have hdco : caps.system.readDco.start patience s = .ok s.settings.dco s := rfl
  have hread (r : ClockRegister) :
      (caps.system.port.read r).start patience s = .ok (s.clock.read r) s := rfl
  rw [ClockSystem.tuneMclk, if_pos hchannel]
  simp only [start_bind_ok hdco, start_bind_ok (hread _)]
  rw [start_bind]
  cases (caps.system.tuneDco via hz).run.start patience s with
  | error why t => rfl
  | ok answer t =>
    dsimp only
    rw [start_bind]
    cases (via.timer.writeControl 0).start patience t with
    | error why u => rfl
    | ok _ u =>
      cases answer <;> rfl

/-- What a tuning that answers has gone through. -/
theorem tuneMclk_answered {via : TuningChannel (Workshop M)}
    (hchannel : via.channel < via.timer.channels) {hz : UInt32} {patience : Nat}
    {s t : Workshop M} {answer : Except TuneError Unit}
    (h : (caps.system.tuneMclk via hz).start patience s = .ok answer t) :
    ∃ u v, (caps.system.tuneDco via hz).run.start patience s = .ok answer u ∧
      (via.timer.writeControl 0).start patience u = .ok () v ∧
      t = { v with clock := s.clock.restored v.clock answer } := by
  rw [start_tuneMclk caps hchannel] at h
  cases htune : (caps.system.tuneDco via hz).run.start patience s with
  | error why u =>
    rw [htune] at h
    cases h
  | ok tuned u =>
    rw [htune] at h
    dsimp only at h
    cases hstop : (via.timer.writeControl 0).start patience u with
    | error why v =>
      rw [hstop] at h
      cases h
    | ok _ v =>
      rw [hstop] at h
      obtain ⟨rfl, rfl⟩ := EStateM.Result.ok.inj h
      exact ⟨u, v, rfl, hstop, rfl⟩

end Workshop

end Msp430
