import Msp430.Clock.Boot
import Msp430.Proofs.Machine.Bits
import Msp430.Proofs.Machine.Triples
import Msp430.Sim.Ports

/-!
What a boot leaves behind. MCLK runs at the rate of the DCO setting that was chosen, SMCLK at that rate
behind its divider. Programming the DCO replaces the register that the divider of ACLK is in, so ACLK
always ends up undivided.
-/
namespace Msp430

open Run

variable {σ : Type}

/-- What drivers find in the registers of the clock module, and the rate that they remember. -/
structure ClockSettings where
  dcoctl : UInt8
  bcsctl1 : UInt8
  bcsctl2 : UInt8
  configuredHz : UInt32
  deriving DecidableEq, Repr

def ClockSettings.write (v : ClockSettings) : ClockRegister → UInt8 → ClockSettings
  | .dcoctl, bits => { v with dcoctl := bits }
  | .bcsctl1, bits => { v with bcsctl1 := bits }
  | .bcsctl2, bits => { v with bcsctl2 := bits }
  | .bcsctl3, _ => v

/-- MCLK runs from the DCO, undivided, at the candidate's setting. -/
def ClockSettings.programmed (v : ClockSettings) (best : DcoCandidate) : ClockSettings where
  dcoctl := best.setting.dcoctl
  bcsctl1 := best.setting.bcsctl1
  bcsctl2 := clearBits (ClockField.mclkSelect.mask ||| ClockField.mclkDivider.mask) v.bcsctl2
  configuredHz := best.hz

/-- SMCLK runs from the DCO behind a divider. -/
def ClockSettings.divided (v : ClockSettings) (shift : UInt8) : ClockSettings :=
  { v with
    bcsctl2 := replaceBits (ClockField.smclkSelect ||| ClockField.smclkDivider.mask)
      (0 ||| (shift <<< ClockField.smclkDivider.shift)) v.bcsctl2 }

/-- The DCO drives MCLK undivided and SMCLK behind the divider. -/
structure DcoDriven (bcsctl2 shift : UInt8) : Prop where
  mclkSelect : ClockField.mclkSelect.extract bcsctl2 = 0
  mclkDivider : ClockField.mclkDivider.extract bcsctl2 = 0
  smclkSelect : anyBits ClockField.smclkSelect bcsctl2 = false
  smclkDivider : ClockField.smclkDivider.extract bcsctl2 = shift

theorem dcoDriven_divided_programmed (v : ClockSettings) (best : DcoCandidate) {shift : UInt8}
    (h : shift ≤ 3) : DcoDriven ((v.programmed best).divided shift).bcsctl2 shift := by
  have hshift : shift = 0 ∨ shift = 1 ∨ shift = 2 ∨ shift = 3 := by
    have hn : shift.toNat ≤ 3 := UInt8.le_iff_toNat_le.mp h
    simp only [← UInt8.toNat_inj]
    simp
    omega
  let written : UInt8 := (0 : UInt8) ||| (shift <<< 1)
  let bits := ((v.programmed best).divided shift).bcsctl2
  have field (mask : UInt8) (hm : ~~~0xF0 &&& (~~~0x0E &&& mask) = 0) :
      bits &&& mask = written &&& (0x0E &&& mask) := by
    have hb : bits &&& mask =
        (v.bcsctl2 &&& ~~~0xF0 &&& (~~~0x0E &&& mask)) ||| (written &&& (0x0E &&& mask)) :=
      replaceBits_and 0x0E written (clearBits 0xF0 v.bcsctl2) mask
    rw [hb, UInt8.and_assoc, hm, UInt8.and_zero, UInt8.zero_or]
  have hselect : written &&& (0x0E &&& 0x08) = 0 := by
    rcases hshift with h | h | h | h <;> subst h <;> decide
  have hdivider : (written &&& (0x0E &&& 0x06)) >>> 1 = shift := by
    rcases hshift with h | h | h | h <;> subst h <;> decide
  constructor
  · change (bits &&& 0xC0) >>> 6 = 0
    rw [field 0xC0 (by decide), show (0x0E &&& 0xC0 : UInt8) = 0 from rfl, UInt8.and_zero]
    rfl
  · change (bits &&& 0x30) >>> 4 = 0
    rw [field 0x30 (by decide), show (0x0E &&& 0x30 : UInt8) = 0 from rfl, UInt8.and_zero]
    rfl
  · change decide (bits &&& 0x08 ≠ 0) = false
    rw [field 0x08 (by decide), hselect]
    rfl
  · change (bits &&& 0x06) >>> 1 = shift
    rw [field 0x06 (by decide), hdivider]

namespace ClockCapabilities

/-- The range of every calibration comes with XT2 switched off, LFXT1 in its low frequency mode and
ACLK undivided. -/
def Factory (caps : ClockCapabilities) : Prop :=
  ∀ rate setting, caps.calibration rate = some setting → setting.bcsctl1 &&& 0xF0 = 0x80

variable (caps : ClockCapabilities)

theorem nearest_mem (target : UInt32) (best : DcoCandidate) (candidates : List DcoCandidate) :
    DcoCandidate.nearest target best candidates ∈ best :: candidates := by
  induction candidates generalizing best with
  | nil => exact List.mem_cons_self
  | cons candidate rest ih =>
    rw [DcoCandidate.nearest]
    split
    · exact List.mem_cons_of_mem _ (ih candidate)
    · rcases List.mem_cons.mp (ih best) with h | h
      · exact List.mem_cons.mpr (.inl h)
      · exact List.mem_cons_of_mem _ (List.mem_cons_of_mem _ h)

theorem candidateFor_mem (target : UInt32) :
    caps.candidateFor target ∈ caps.powerUpCandidate :: caps.calibrated :=
  nearest_mem _ _ _

/-- The power-up setting has the factory format, too. -/
theorem Factory.candidateFor {caps : ClockCapabilities} (h : caps.Factory) (target : UInt32) :
    (caps.candidateFor target).setting.bcsctl1 &&& 0xF0 = 0x80 := by
  rcases List.mem_cons.mp (caps.candidateFor_mem target) with hp | hc
  · rw [hp]
    change DcoSetting.powerUp.bcsctl1 &&& 0xF0 = 0x80
    decide
  · obtain ⟨rate, -, hrate⟩ := List.mem_filterMap.mp hc
    obtain ⟨setting, hsetting, he⟩ := Option.map_eq_some_iff.mp hrate
    rw [← he]
    exact h rate setting hsetting

end ClockCapabilities

namespace ClockSource

/-- Whether ACLK can be asked to run from a source. -/
def drivesAclk : ClockSource → Bool
  | .xt1 | .vlo | .xt1WithFallback | .xt1OrVlo => true
  | _ => false

end ClockSource

namespace ClockSystem

section Crystal

variable {I E : σ → Prop} {c : ClockSystem σ} {cpu : Cpu σ} {pins : PinRouter σ}
variable (hie : ∀ s, I s → E s)
variable (hclear : Keeps I E c.port.clearFault) (hread : Keeps I E (c.port.read .bcsctl3))
variable (hwrite : ∀ bits, Keeps I E (c.port.write .bcsctl3 bits))
variable (hfeed : Keeps I E cpu.feedWatchdog)
variable (hdelay : ∀ cycles, Keeps I E (cpu.delayCycles cycles))
variable (hroute : ∀ request, Keeps I E (pins.route request))

include hread hfeed hdelay

theorem keeps_settle : Keeps I E (c.settle cpu) := by
  apply hfeed.bind
  intro _
  apply (hdelay _).bind
  intro _
  exact (hread.bind fun _ => keeps_pure _).bind fun _ => keeps_pure _

include hie hwrite hroute

theorem keeps_startCrystal (budget : RetryBudget) : Keeps I E (c.startCrystal cpu pins budget) := by
  have hsettle := keeps_settle (c := c) hread hfeed hdelay
  have hanswer : Keeps I E (do return !(← c.port.lfxt1Faulted) : Run σ Bool) :=
    (hread.bind fun _ => keeps_pure _).bind fun _ => keeps_pure _
  apply (hroute _).bind
  intro granted
  cases granted with
  | error why => exact keeps_pure _
  | ok _ =>
    apply (hwrite _).bind
    intro _
    cases budget with
    | rounds n => exact (hsettle.upTo n).bind fun _ => hanswer
    | unlimited => exact (hsettle.poll hie).bind fun _ => hanswer

include hclear

/-- Bringing up the crystal keeps what its own steps keep. -/
theorem keeps_configureCrystal (enable : Bool) (budget : RetryBudget) :
    Keeps I E (c.configureCrystal cpu pins enable budget) := by
  have hgiveUp (running : Bool) : Keeps I E (do
      c.port.clearFault
      unless running do
        discard (pins.route ⟨.lfxt1, .primary, false⟩)
        c.port.write .bcsctl3 Lfxt1Mode.vlo.bits
      return running) := by
    apply hclear.bind
    intro _
    cases running with
    | true => exact keeps_pure _
    | false =>
      apply (Keeps.bind (hroute _) fun _ => keeps_pure _).bind
      intro _
      exact (hwrite _).bind fun _ => keeps_pure _
  apply hclear.bind
  intro _
  split
  · exact (keeps_startCrystal hie hread hwrite hfeed hdelay hroute budget).bind hgiveUp
  · exact hgiveUp false

omit hread hwrite hroute in
/-- So does waiting for the oscillators. -/
theorem keeps_awaitOscillators (hcheck : Keeps I E c.port.faultFlag) :
    Keeps I E (c.awaitOscillators cpu) := by
  apply Keeps.poll hie
  apply hclear.bind
  intro _
  apply hfeed.bind
  intro _
  apply (hdelay _).bind
  intro _
  exact hcheck.bind fun _ => keeps_pure _

end Crystal

def settings (c : ClockSystem σ) (shown : σ → ClockRegister → UInt8) (s : σ) : ClockSettings where
  dcoctl := shown s .dcoctl
  bcsctl1 := shown s .bcsctl1
  bcsctl2 := shown s .bcsctl2
  configuredHz := c.configuredHz.get s

/-- Registers show what was written to them, apart from BCSCTL3, where the crystal has its say.
Looking at them changes nothing. -/
structure Obeyed (c : ClockSystem σ) (shown : σ → ClockRegister → UInt8) : Prop where
  read : ∀ r patience s, (c.port.read r).start patience s = .ok (shown s r) s
  write : ∀ r bits v, Ensures (fun s => c.settings shown s = v) (c.port.write r bits)
    fun _ s => c.settings shown s = v.write r bits
  remember : ∀ hz s, c.settings shown (c.configuredHz.set hz s) =
    { c.settings shown s with configuredHz := hz }
  clearFault : c.port.clearFault.Leaves (c.settings shown)
  faultFlag : c.port.faultFlag.Leaves (c.settings shown)

variable {c : ClockSystem σ} {shown : σ → ClockRegister → UInt8} (hc : c.Obeyed shown)
variable {E : σ → Prop} {v : ClockSettings}

include hc

/-! ## The steps of a boot -/

theorem triple_change_bcsctl2 (f : UInt8 → UInt8) :
    Ensures (fun s => c.settings shown s = v) (c.port.change .bcsctl2 f)
      fun _ s => c.settings shown s = { v with bcsctl2 := f v.bcsctl2 } := by
  rintro patience s rfl
  rw [ClockPort.change, start_bind_ok (hc.read .bcsctl2 patience s)]
  exact hc.write .bcsctl2 _ _ patience s rfl

theorem triple_programDco (target : UInt32) :
    Ensures (fun s => c.settings shown s = v) (c.programDco target)
      fun _ s => c.settings shown s = v.programmed (c.caps.candidateFor target) := by
  refine Triple.bind (Q := fun _ s => c.settings shown s = _)
    ((hc.write .dcoctl _ _).bind fun _ => (hc.write .bcsctl1 _ _).bind fun _ =>
      hc.write .dcoctl _ _) fun _ => ?_
  refine (triple_change_bcsctl2 hc _).bind fun _ => ?_
  intro patience s hs
  change c.settings shown (c.configuredHz.set _ s) = _
  rw [hc.remember, hs]
  rfl

theorem leaves_awaitOscillators {cpu : Cpu σ} (hfeed : cpu.feedWatchdog.Leaves (c.settings shown))
    (hdelay : ∀ cycles, (cpu.delayCycles cycles).Leaves (c.settings shown)) :
    (c.awaitOscillators cpu).Leaves (c.settings shown) := fun v =>
  keeps_awaitOscillators (fun _ hs => hs) (hc.clearFault v) (hfeed v) (fun cycles => hdelay cycles v)
    (hc.faultFlag v)

theorem triple_configureSmclk (shift : UInt8) :
    Ensures (fun s => c.settings shown s = v) (c.configureSmclk .dco shift)
      fun _ s => c.settings shown s = v.divided shift :=
  triple_change_bcsctl2 hc _

/-! ## LFXT1 -/

theorem start_lfxt1Mode (patience : Nat) (s : σ) : c.port.lfxt1Mode.start patience s =
    .ok (.ofCode (ClockField.lfxt1Mode.extract (shown s .bcsctl3))) s := by
  rw [ClockPort.lfxt1Mode, start_bind_ok (hc.read .bcsctl3 patience s)]
  rfl

theorem start_lfxt1Faulted (patience : Nat) (s : σ) : c.port.lfxt1Faulted.start patience s =
    .ok (anyBits ClockField.lfxt1Fault (shown s .bcsctl3)) s := by
  rw [ClockPort.lfxt1Faulted, start_bind_ok (hc.read .bcsctl3 patience s)]
  rfl

/-- Only looks at the clocks, and refuses what cannot drive ACLK. -/
theorem start_lfxt1ModeFor (source : ClockSource) (patience : Nat) (s : σ) :
    ∃ answer, (c.lfxt1ModeFor source).run.start patience s = .ok answer s ∧
      answer.isOk = source.drivesAclk := by
  unfold ClockSystem.lfxt1ModeFor
  split
  case h_1 | h_2 => exact ⟨_, rfl, rfl⟩
  case h_3 | h_4 =>
    rw [run_liftM_bind, start_bind_ok (start_lfxt1Mode hc patience s)]
    split
    · exact ⟨_, rfl, rfl⟩
    · rw [run_liftM_bind, start_bind_ok (start_lfxt1Faulted hc patience s)]
      exact ⟨_, rfl, rfl⟩
  case h_5 hxt1 hvlo hfallback horVlo =>
    refine ⟨_, rfl, ?_⟩
    cases source <;> first | rfl | contradiction

/-! ## The rates -/

def lfxt1Rate (c : ClockSystem σ) (bcsctl3 : UInt8) : UInt32 :=
  if Lfxt1Mode.ofCode (ClockField.lfxt1Mode.extract bcsctl3) = .vlo then c.caps.vloHz
  else if anyBits ClockField.lfxt1Fault bcsctl3 then c.caps.vloHz
  else c.caps.xt1Hz

theorem start_lfxt1Hz (patience : Nat) (s : σ) :
    c.lfxt1Hz.start patience s = .ok (c.lfxt1Rate (shown s .bcsctl3)) s := by
  rw [lfxt1Hz, start_bind_ok (start_lfxt1Mode hc patience s), lfxt1Rate]
  split
  · rfl
  · rw [start_bind_ok (start_lfxt1Faulted hc patience s)]
    rfl

theorem start_aclkHz (patience : Nat) (s : σ) :
    c.aclkHz.start patience s = .ok (c.lfxt1Rate (shown s .bcsctl3) >>>
      (ClockField.aclkDivider.extract (shown s .bcsctl1)).toUInt32) s := by
  rw [aclkHz, start_bind_ok (hc.read .bcsctl1 patience s), start_bind_ok (start_lfxt1Hz hc ..)]
  rfl

theorem start_smclkHz {shift : UInt8} {s : σ} (h : DcoDriven (shown s .bcsctl2) shift)
    (patience : Nat) : c.smclkHz.start patience s =
      .ok ((c.settings shown s).configuredHz >>> shift.toUInt32) s := by
  rw [smclkHz, start_bind_ok (hc.read .bcsctl2 patience s)]
  simp only [h.smclkSelect, h.smclkDivider]
  rfl

theorem start_mclkHz_undivided {s : σ}
    (hselect : ClockField.mclkSelect.extract (shown s .bcsctl2) = 0)
    (hdivider : ClockField.mclkDivider.extract (shown s .bcsctl2) = 0) (patience : Nat) :
    c.mclkHz.start patience s = .ok (c.settings shown s).configuredHz s := by
  have hsource : mclkSourceOf (shown s .bcsctl2) = .dco := by
    rw [mclkSourceOf, hselect]
    rfl
  rw [mclkHz, start_bind_ok (hc.read .bcsctl2 patience s)]
  simp only [hsource, hdivider]
  exact congrArg (EStateM.Result.ok · s) UInt32.shiftRight_zero

theorem start_mclkHz {shift : UInt8} {s : σ} (h : DcoDriven (shown s .bcsctl2) shift)
    (patience : Nat) : c.mclkHz.start patience s = .ok (c.settings shown s).configuredHz s :=
  start_mclkHz_undivided hc h.mclkSelect h.mclkDivider patience

/-! ## The whole boot -/

/-- What a report tells of the state that it was made in. -/
structure Reported (c : ClockSystem σ) (shown : σ → ClockRegister → UInt8) (plan : BootPlan)
    (report : BootReport) (s : σ) : Prop where
  settings : ∃ v : ClockSettings, c.settings shown s =
    (v.programmed (c.caps.candidateFor plan.mclkHz)).divided plan.smclkShift
  aclk : report.aclkHz = c.lfxt1Rate (shown s .bcsctl3) >>>
    (ClockField.aclkDivider.extract (shown s .bcsctl1)).toUInt32
  mclk : report.mclkHz = (c.caps.candidateFor plan.mclkHz).hz
  smclk : report.smclkHz = (c.caps.candidateFor plan.mclkHz).hz >>> plan.smclkShift.toUInt32

section Boot

variable {cpu : Cpu σ} (hfeed : cpu.feedWatchdog.Leaves (c.settings shown))
variable (hdelay : ∀ cycles, (cpu.delayCycles cycles).Leaves (c.settings shown))

include hfeed hdelay

/-- What was done before MCLK is chosen does not matter. -/
theorem triple_configureMclk (target : UInt32) :
    Ensures (fun _ => True) (c.configureMclk cpu target)
      fun _ s => ∃ v : ClockSettings,
        c.settings shown s = v.programmed (c.caps.candidateFor target) := by
  have settled (v : ClockSettings) :
      Ensures (fun s => c.settings shown s = v) (c.configureMclk cpu target)
        fun _ s => c.settings shown s = v.programmed (c.caps.candidateFor target) := by
    refine (triple_programDco hc target).bind fun _ => ?_
    refine Triple.bind ((leaves_awaitOscillators hc hfeed hdelay _).mono (fun _ h => h)
      (fun _ _ h => h) fun _ _ => trivial) fun _ => ?_
    exact triple_read fun _ h => h
  intro patience s _
  exact (settled (c.settings shown s)).weaken (fun _ _ h => ⟨_, h⟩) patience s rfl

theorem triple_boot (pins : PinRouter σ) (plan : BootPlan) (hshift : plan.smclkShift ≤ 3) :
    Ensures (fun _ => True) (c.boot cpu pins plan).run fun answer s =>
      ∀ report, answer = .ok report → c.Reported shown plan report s := by
  have rest (crystalRunning : Bool) : Ensures (fun _ => True) (do
      c.configureAclk plan.aclkSource plan.aclkShift
      discard (c.configureMclk cpu plan.mclkHz)
      c.configureSmclk .dco plan.smclkShift
      return ⟨crystalRunning, ← c.aclkHz, ← c.smclkHz, ← c.mclkHz⟩ :
        ExceptT ClockError (Run σ) BootReport).run fun answer s =>
      ∀ report, answer = .ok report → c.Reported shown plan report s := by
    refine Triple.run_bind (Q := fun _ _ => True)
      (triple_of_forall (fun answer s => ?_) fun _ => trivial) fun _ => ?_
    · cases answer with
      | ok _ => trivial
      | error why => rintro report ⟨⟩
    rw [run_discard_bind]
    refine (triple_configureMclk hc hfeed hdelay _).bind fun _ => ?_
    rw [run_liftM_bind]
    rintro patience s ⟨v, hv⟩
    have hs := triple_configureSmclk hc plan.smclkShift patience s hv
    rw [start_bind]
    cases hrun : (c.configureSmclk .dco plan.smclkShift).start patience s with
    | error why t => trivial
    | ok _ t =>
      simp only [hrun] at hs
      have driven : DcoDriven (shown t .bcsctl2) plan.smclkShift := by
        have h := dcoDriven_divided_programmed v (c.caps.candidateFor plan.mclkHz) hshift
        rw [← hs] at h
        exact h
      have hhz : (c.settings shown t).configuredHz = (c.caps.candidateFor plan.mclkHz).hz := by
        rw [hs]
        rfl
      dsimp only
      simp only [run_liftM_bind, start_bind_ok (start_aclkHz hc patience t),
        start_bind_ok (start_smclkHz hc driven patience),
        start_bind_ok (start_mclkHz hc driven patience), hhz]
      rintro report ⟨⟩
      exact ⟨⟨v, hs⟩, rfl, rfl, rfl⟩
  unfold ClockSystem.boot
  split
  · rw [run_liftM_bind]
    exact Triple.bind (triple_of_forall (Q := fun _ _ => True) (fun _ _ => trivial)
      fun _ => trivial) rest
  · exact rest false

variable (hfactory : c.caps.Factory)

include hfactory

/-- A boot that is not refused leaves MCLK at the DCO setting that was chosen and SMCLK behind its
divider, and reports the rates of both. The divider that was asked for ACLK is lost: ACLK runs at the
full rate of LFXT1, and that rate is reported. -/
theorem boot_loses_aclk_divider (pins : PinRouter σ) (plan : BootPlan)
    (hshift : plan.smclkShift ≤ 3) {patience : Nat} {s t : σ} {report : BootReport}
    (hrun : (c.boot cpu pins plan).run.start patience s = .ok (.ok report) t) :
    shown t .dcoctl = (c.caps.candidateFor plan.mclkHz).setting.dcoctl ∧
      shown t .bcsctl1 = (c.caps.candidateFor plan.mclkHz).setting.bcsctl1 ∧
      ClockField.aclkDivider.extract (shown t .bcsctl1) = 0 ∧
      c.lfxt1Hz.start patience t = .ok report.aclkHz t ∧
      report.mclkHz = (c.caps.candidateFor plan.mclkHz).hz ∧
      report.smclkHz = report.mclkHz >>> plan.smclkShift.toUInt32 := by
  have reported : c.Reported shown plan report t := by
    have h := triple_boot hc hfeed hdelay pins plan hshift patience s trivial
    simp only [hrun] at h
    exact h report rfl
  obtain ⟨⟨v, hv⟩, haclk, hmclk, hsmclk⟩ := reported
  have hbits : shown t .bcsctl1 = (c.caps.candidateFor plan.mclkHz).setting.bcsctl1 :=
    congrArg ClockSettings.bcsctl1 hv
  have undivided : ClockField.aclkDivider.extract (shown t .bcsctl1) = 0 := by
    change (shown t .bcsctl1 &&& (0xF0 &&& 0x30)) >>> 4 = 0
    rw [hbits, ← UInt8.and_assoc, hfactory.candidateFor]
    decide
  rw [undivided] at haclk
  refine ⟨congrArg ClockSettings.dcoctl hv, hbits, undivided, ?_, hmclk, hmclk ▸ hsmclk⟩
  rw [start_lfxt1Hz hc, haclk]
  exact congrArg (EStateM.Result.ok · t) UInt32.shiftRight_zero.symm

end Boot

end ClockSystem

/-! ## The simulated clock module -/

section Simulated

variable {here : Cell σ ClockModule} {configuredHz : Cell σ UInt32}

/-- The registers that drivers rule alone, and the rate that they remember. -/
def ClockModule.settings (m : ClockModule) (hz : UInt32) : ClockSettings :=
  ⟨m.dcoctl, m.bcsctl1, m.bcsctl2, hz⟩

theorem ClockModule.settings_write (m : ClockModule) (hz : UInt32) (r : ClockRegister)
    (bits : UInt8) : (m.write r bits).settings hz = (m.settings hz).write r bits := by
  cases r <;> rfl

/-- A clock module anywhere in a larger state, beside the rate. -/
theorem ClockModule.obeyed {note : ClockAccess → Run σ Unit} (caps : ClockCapabilities)
    (hhere : here.Lawful) (hhz : configuredHz.Lawful)
    (apart : ∀ hz s, here.get (configuredHz.set hz s) = here.get s)
    (apart' : ∀ m s, configuredHz.get (here.set m s) = configuredHz.get s)
    (hnote : ∀ access, (note access).Leaves
      fun s => (here.get s).settings (configuredHz.get s)) :
    ClockSystem.Obeyed ⟨ClockModule.port here note, caps, configuredHz⟩
      fun s r => (here.get s).read r where
  read _ _ _ := rfl
  write r bits v := by
    refine Triple.bind ((hnote (.write r bits) v).mono (fun _ h => h) (fun _ _ h => h)
      fun _ _ => trivial) fun _ => triple_update fun s hs => ?_
    change (here.get (here.set _ s)).settings (configuredHz.get (here.set _ s)) = _
    rw [hhere.get_set, apart', ClockModule.settings_write]
    exact congrArg (·.write r bits) hs
  remember hz s := by
    change (here.get (configuredHz.set hz s)).settings (configuredHz.get (configuredHz.set hz s)) = _
    rw [apart, hhz.get_set]
    rfl
  clearFault := by
    refine (hnote .clearFault).bind fun _ v => triple_update fun s hs => ?_
    change (here.get (here.set _ s)).settings (configuredHz.get (here.set _ s)) = v
    rw [hhere.get_set, apart', ← hs]
    rfl
  faultFlag _ _ _ hs := hs

end Simulated

/-! ## A board whose ACLK is to be divided -/

/-- A module with a crystal and a factory setting for 8 MHz. -/
def launchClock : ClockSystem (ClockModule × UInt32) where
  port := ClockModule.port ⟨Prod.fst, fun m s => (m, s.2)⟩ fun _ => return ()
  caps := ({ } : ClockCapabilities).withCalibration .mhz8 ⟨0x92, 0x8D⟩
  configuredHz := ⟨Prod.snd, fun hz s => (s.1, hz)⟩

def launchBoot (plan : BootPlan) :
    Run (ClockModule × UInt32) (Except ClockError BootReport) :=
  (launchClock.boot (.idle (return ())) ⟨fun _ => return .ok (), fun _ _ => none⟩ plan).run

theorem launchClock_factory : launchClock.caps.Factory := by
  intro rate setting h
  have settings : ∀ rate, launchClock.caps.calibration rate =
      if rate = .mhz8 then some ⟨0x92, 0x8D⟩ else none := by
    rintro (_ | _ | _ | _) <;> rfl
  rw [settings] at h
  split at h
  · cases h
    decide
  · cases h

theorem launchClock_obeyed : launchClock.Obeyed fun s r => s.1.read r :=
  ClockModule.obeyed _ ⟨fun _ _ => rfl, fun _ _ _ => rfl, fun _ => rfl⟩
    ⟨fun _ _ => rfl, fun _ _ _ => rfl, fun _ => rfl⟩ (fun _ _ => rfl) (fun _ _ => rfl)
    fun _ => leaves_pure _ _

/-- The start of a module whose registers are the power-up ones. -/
def launched : ClockModule × UInt32 :=
  (⟨0x92, 0x8D, 0x02, 0x04, true, 0⟩, 8000000)

theorem boot_loses_aclk_divider_launch :
    (launchBoot { aclkShift := 2 }).start 1 ({}, 1100000) =
        .ok (.ok ⟨true, 32768, 4000000, 8000000⟩) launched ∧
      ClockField.aclkDivider.extract (launched.1.read .bcsctl1) = 0 ∧
      launchClock.lfxt1Hz.start 1 launched = .ok 32768 launched ∧
      (4000000 : UInt32) = (8000000 : UInt32) >>> 1 := by
  have hrun : (launchBoot { aclkShift := 2 }).start 1 ({}, 1100000) =
      .ok (.ok ⟨true, 32768, 4000000, 8000000⟩) launched := by rfl
  obtain ⟨-, -, undivided, aclk, -, smclk⟩ := ClockSystem.boot_loses_aclk_divider launchClock_obeyed
    (leaves_pure _ _) (fun _ => leaves_pure _ _) launchClock_factory _ { aclkShift := 2 }
    (by decide) hrun
  exact ⟨hrun, undivided, aclk, smclk⟩

/-- ACLK was to run at a quarter of the crystal's rate. -/
theorem boot_divider_of_four_lost :
    ∃ report t, (launchBoot { aclkShift := 2 }).start 1 ({}, 1100000) = .ok (.ok report) t ∧
      ClockField.aclkDivider.extract (t.1.read .bcsctl1) ≠ 2 ∧
      launchClock.lfxt1Hz.start 1 t = .ok 32768 t ∧ report.aclkHz ≠ (32768 : UInt32) >>> 2 :=
  ⟨⟨true, 32768, 4000000, 8000000⟩, launched, rfl, by decide, rfl, by decide⟩

end Msp430
