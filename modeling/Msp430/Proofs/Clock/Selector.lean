import Msp430.Clock.Tuning
import Msp430.Proofs.Clock.Boot

/-!
What SMCLK runs from on a device without XT2. The selector of SMCLK is the bit above its divider,
and the shift that is asked for is written to both: a shift that is wider than the divider can
select XT2, and SMCLK then runs from LFXT1. Nothing else that is done with the clocks reaches the
selector, so it always shows one bit of the last shift that was asked for.
-/
namespace Msp430

open Run

variable {σ : Type}

/-! ## The selector -/

/-- The bit of a shift that does not fit the divider and falls on the selector above it. -/
def ClockField.smclkSpill : UInt8 := 0x04

theorem anyBits_shiftLeft_spill (shift : UInt8) :
    anyBits ClockField.smclkSelect (shift <<< ClockField.smclkDivider.shift) =
      anyBits ClockField.smclkSpill shift := by
  obtain ⟨⟨shift⟩⟩ := shift
  revert shift
  decide +kernel

theorem anyBits_clear_byte_other {mask kept : UInt8} (h : ~~~mask &&& kept = kept) (bits : UInt8) :
    anyBits kept (clearBits mask bits) = anyBits kept bits := by
  simp only [anyBits, clearBits, UInt8.and_assoc, h]

/-- Both the selector and the divider are replaced, and the shift is not confined to the divider. -/
theorem selects_written (shift bits : UInt8) :
    anyBits ClockField.smclkSelect
        (replaceBits (ClockField.smclkSelect ||| ClockField.smclkDivider.mask)
          (0 ||| (shift <<< ClockField.smclkDivider.shift)) bits) =
      anyBits ClockField.smclkSpill shift := by
  rw [← anyBits_shiftLeft_spill, UInt8.zero_or]
  have hkept : ~~~(ClockField.smclkSelect ||| ClockField.smclkDivider.mask) &&&
      ClockField.smclkSelect = 0 := rfl
  have hnew : (ClockField.smclkSelect ||| ClockField.smclkDivider.mask) &&&
      ClockField.smclkSelect = ClockField.smclkSelect := rfl
  simp only [anyBits, replaceBits_and, hkept, hnew, UInt8.and_zero, UInt8.zero_or]

theorem selects_programmed (v : ClockSettings) (best : DcoCandidate) :
    anyBits ClockField.smclkSelect (v.programmed best).bcsctl2 =
      anyBits ClockField.smclkSelect v.bcsctl2 := anyBits_clear_byte_other rfl v.bcsctl2

/-! ## Orders -/

/-- Everything that can be done with the clocks. -/
inductive ClockOrder (σ : Type) where
  | crystal (enable : Bool) (budget : RetryBudget)
  | aclk (source : ClockSource) (shift : UInt8)
  | smclk (source : ClockSource) (shift : UInt8)
  | mclk (target : UInt32)
  | mclkTuned (via : TuningChannel σ) (target : UInt32)
  | tune (via : TuningChannel σ) (hz : UInt32)
  | boot (plan : BootPlan)

namespace ClockOrder

/-- The shift for SMCLK that an order comes to write. A boot whose source for ACLK is refused ends
before it gets there. -/
def smclkShift? : ClockOrder σ → Option UInt8
  | .smclk _ shift => some shift
  | .boot plan => if plan.aclkSource.drivesAclk then some plan.smclkShift else none
  | _ => none

variable (c : ClockSystem σ) (cpu : Cpu σ) (pins : PinRouter σ)

def perform : ClockOrder σ → Run σ Unit
  | .crystal enable budget => discard (c.configureCrystal cpu pins enable budget)
  | .aclk source shift => discard (c.configureAclk source shift).run
  | .smclk source shift => c.configureSmclk source shift
  | .mclk target => discard (c.configureMclk cpu target)
  | .mclkTuned via target => discard (c.configureMclkTuned cpu via target)
  | .tune via hz => discard (c.tuneMclk via hz)
  | .boot plan => discard (c.boot cpu pins plan).run

def performAll : List (ClockOrder σ) → Run σ Unit
  | [] => return ()
  | order :: rest => do
    order.perform c cpu pins
    performAll rest

/-- Whether the last shift that was written spilled into the selector. -/
def spilled (orders : List (ClockOrder σ)) : Bool :=
  ((orders.reverse.findSome? smclkShift?).map (anyBits ClockField.smclkSpill)).getD false

end ClockOrder

namespace ClockSystem

variable {c : ClockSystem σ} {shown : σ → ClockRegister → UInt8} {b : Bool}

/-- Whether SMCLK is switched to XT2. -/
def Selects (shown : σ → ClockRegister → UInt8) (b : Bool) (s : σ) : Prop :=
  anyBits ClockField.smclkSelect (shown s .bcsctl2) = b

theorem selects_of_leaves {α : Type} {run : Run σ α} (h : run.Leaves (c.settings shown)) :
    Ensures (Selects shown b) run fun _ => Selects shown b := by
  apply Triple.mono (h.keeps (I := fun v => anyBits ClockField.smclkSelect v.bcsctl2 = b)
    (E := fun _ => True) fun _ _ => trivial)
  · exact fun _ hs => hs
  · exact fun _ _ hs => hs
  · exact fun _ _ => trivial

theorem selects_of_settings {α : Type} {run : Run σ α} {b' : Bool}
    (h : ∀ v, anyBits ClockField.smclkSelect v.bcsctl2 = b →
      Ensures (fun s => c.settings shown s = v) run fun _ s =>
        anyBits ClockField.smclkSelect (c.settings shown s).bcsctl2 = b') :
    Ensures (Selects shown b) run fun _ => Selects shown b' :=
  fun patience s hs => h (c.settings shown s) hs patience s rfl

variable (hc : c.Obeyed shown)

include hc

/-! ## Reading the clocks -/

theorem leaves_read (r : ClockRegister) : (c.port.read r).Leaves (c.settings shown) := by
  intro v patience s hs
  rw [hc.read r patience s]
  exact hs

theorem leaves_lfxt1Hz : c.lfxt1Hz.Leaves (c.settings shown) := by
  intro v patience s hs
  rw [start_lfxt1Hz hc patience s]
  exact hs

theorem leaves_aclkHz : c.aclkHz.Leaves (c.settings shown) := by
  apply (leaves_read hc .bcsctl1).bind
  intro _
  exact (leaves_lfxt1Hz hc).bind fun _ => leaves_pure _ _

theorem start_smclkSource (patience : Nat) (s : σ) : c.smclkSource.start patience s =
    .ok (if anyBits ClockField.smclkSelect (shown s .bcsctl2) then .xt2 else .dco) s := by
  rw [smclkSource, start_bind_ok (hc.read .bcsctl2 patience s)]
  rfl

section WithoutXt2

variable (hxt2 : c.caps.xt2Hz = none)

include hxt2

omit hc in
theorem xt2Hz_eq_lfxt1Hz : c.xt2Hz = c.lfxt1Hz := by
  rw [xt2Hz, hxt2]

/-- The selector decides between the rate of MCLK and LFXT1. -/
theorem start_smclkHz_selected (patience : Nat) (s : σ) : c.smclkHz.start patience s =
    .ok ((if anyBits ClockField.smclkSelect (shown s .bcsctl2) then c.lfxt1Rate (shown s .bcsctl3)
        else (c.settings shown s).configuredHz) >>>
      (ClockField.smclkDivider.extract (shown s .bcsctl2)).toUInt32) s := by
  rw [smclkHz, start_bind_ok (hc.read .bcsctl2 patience s)]
  by_cases hselect : anyBits ClockField.smclkSelect (shown s .bcsctl2)
  · rw [if_pos hselect, if_pos hselect, xt2Hz_eq_lfxt1Hz hxt2,
      start_bind_ok (start_lfxt1Hz hc patience s)]
    rfl
  · rw [if_neg hselect, if_neg hselect]
    rfl

theorem leaves_smclkHz : c.smclkHz.Leaves (c.settings shown) := by
  intro v patience s hs
  rw [start_smclkHz_selected hc hxt2 patience s]
  exact hs

theorem leaves_mclkHz : c.mclkHz.Leaves (c.settings shown) := by
  have hxt2Hz : c.xt2Hz.Leaves (c.settings shown) := by
    rw [xt2Hz_eq_lfxt1Hz hxt2]
    exact leaves_lfxt1Hz hc
  apply (leaves_read hc .bcsctl2).bind
  intro bcsctl2
  cases mclkSourceOf bcsctl2 with
  | dco => exact Leaves.bind (fun _ _ _ hs => hs) fun _ => leaves_pure _ _
  | xt2 => exact hxt2Hz.bind fun _ => leaves_pure _ _
  | _ => exact (leaves_lfxt1Hz hc).bind fun _ => leaves_pure _ _

end WithoutXt2

/-! ## One order -/

theorem selects_write {r : ClockRegister} (hr : r ≠ .bcsctl2) (bits : UInt8) :
    Ensures (Selects shown b) (c.port.write r bits) fun _ => Selects shown b := by
  apply selects_of_settings
  intro v hv
  apply (hc.write r bits v).weaken
  intro _ s hs
  rw [hs]
  cases r with
  | bcsctl2 => exact absurd rfl hr
  | dcoctl | bcsctl1 | bcsctl3 => exact hv

theorem selects_change {r : ClockRegister} (hr : r ≠ .bcsctl2) (f : UInt8 → UInt8) :
    Ensures (Selects shown b) (c.port.change r f) fun _ => Selects shown b := by
  intro patience s hs
  rw [ClockPort.change, start_bind_ok (hc.read r patience s)]
  exact selects_write hc hr _ patience s hs

theorem selects_configureAclk (source : ClockSource) (shift : UInt8) :
    Ensures (Selects shown b) (c.configureAclk source shift).run fun answer s =>
      answer.isOk = source.drivesAclk ∧ Selects shown b s := by
  intro patience s hs
  obtain ⟨answer, hmode, hanswer⟩ := start_lfxt1ModeFor hc source patience s
  rw [ClockSystem.configureAclk, ExceptT.run_bind, start_bind_ok hmode]
  cases answer with
  | error why => exact ⟨hanswer, hs⟩
  | ok mode =>
    dsimp only
    rw [run_liftM_bind]
    refine Triple.bind (selects_change hc (by decide) _) (fun _ => ?_) patience s hs
    rw [run_liftM]
    exact Triple.map _ (selects_change hc (by decide) _) fun _ _ h => ⟨hanswer, h⟩

/-- Without XT2 every source comes down to the DCO, as far as the selector is left to it. -/
theorem selects_configureSmclk (hxt2 : c.caps.xt2Hz = none) (source : ClockSource) (shift : UInt8) :
    Ensures (fun _ => True) (c.configureSmclk source shift) fun _ =>
      Selects shown (anyBits ClockField.smclkSpill shift) := by
  have hselect :
      (if source = .xt2 ∧ c.caps.xt2Hz.isSome then ClockField.smclkSelect else 0) = 0 := by
    rw [hxt2]
    simp
  intro patience s _
  rw [ClockSystem.configureSmclk, hselect]
  apply Triple.weaken (triple_change_bcsctl2 hc _) _ patience s rfl
  intro _ t ht
  change anyBits ClockField.smclkSelect (c.settings shown t).bcsctl2 = _
  rw [ht]
  exact selects_written shift (shown s .bcsctl2)

theorem selects_programDco (target : UInt32) :
    Ensures (Selects shown b) (c.programDco target) fun _ => Selects shown b := by
  apply selects_of_settings
  intro v hv
  apply (triple_programDco hc target).weaken
  intro _ s hs
  rw [hs, selects_programmed, hv]

theorem start_readDco (patience : Nat) (s : σ) :
    c.readDco.start patience s = .ok ⟨shown s .dcoctl, shown s .bcsctl1⟩ s := by
  rw [ClockSystem.readDco, start_bind_ok (hc.read .dcoctl patience s),
    start_bind_ok (hc.read .bcsctl1 patience s)]
  rfl

/-- A tuning moves the selector, but whatever it does, it puts back what it found. -/
theorem selects_tuneMclk (via : TuningChannel σ) (hz : UInt32) :
    Ensures (Selects shown b) (c.tuneMclk via hz) fun _ => Selects shown b := by
  intro patience s hs
  by_cases hchannel : via.channel < via.timer.channels
  case neg =>
    rw [ClockSystem.tuneMclk, if_neg hchannel]
    exact hs
  have hrestore (found : UInt8) (result : Except TuneError Unit)
      (hfound : anyBits ClockField.smclkSelect found = b) : Ensures (fun _ => True) (do
        c.port.write .bcsctl2 found
        c.port.write .bcsctl3 (shown s .bcsctl3)
        return result) fun _ => Selects shown b := by
    apply Triple.bind (Q := fun _ => Selects shown b)
    · intro patience t _
      apply Triple.weaken (hc.write .bcsctl2 found _) _ patience t rfl
      intro _ u hu
      change anyBits ClockField.smclkSelect (c.settings shown u).bcsctl2 = b
      rw [hu]
      exact hfound
    · intro _
      exact Triple.bind (selects_write hc (by decide) _) fun _ => triple_pure _ fun _ h => h
  have hany {α : Type} {run : Run σ α} : Ensures (fun _ => True) run fun _ _ => True :=
    triple_of_forall (fun _ _ => trivial) fun _ => trivial
  rw [ClockSystem.tuneMclk, if_pos hchannel, start_bind_ok (start_readDco hc patience s),
    start_bind_ok (hc.read .bcsctl2 patience s), start_bind_ok (hc.read .bcsctl3 patience s)]
  refine Triple.bind (P := fun _ => True) hany (fun result => ?_) patience s trivial
  apply Triple.bind hany
  intro _
  cases result with
  | ok _ => exact hrestore _ _ hs
  | error why =>
    apply Triple.bind hany
    intro _
    exact hrestore _ _ hs

section Waiting

variable {cpu : Cpu σ} {pins : PinRouter σ} (hfeed : cpu.feedWatchdog.Leaves (c.settings shown))
variable (hdelay : ∀ cycles, (cpu.delayCycles cycles).Leaves (c.settings shown))

include hfeed hdelay

/-- Waiting for the oscillators and answering with the rate. -/
theorem selects_settled :
    Ensures (Selects shown b) (do c.awaitOscillators cpu; c.configuredHz.read)
      fun _ => Selects shown b := by
  apply Triple.bind (selects_of_leaves (leaves_awaitOscillators hc hfeed hdelay))
  intro _
  exact triple_read fun _ hs => hs

theorem selects_configureMclk (target : UInt32) :
    Ensures (Selects shown b) (c.configureMclk cpu target) fun _ => Selects shown b := by
  apply Triple.bind (selects_programDco hc target)
  intro _
  exact selects_settled hc hfeed hdelay

theorem selects_configureMclkTuned (via : TuningChannel σ) (target : UInt32) :
    Ensures (Selects shown b) (c.configureMclkTuned cpu via target) fun _ => Selects shown b := by
  apply Triple.bind (selects_programDco hc target)
  intro _
  split
  · exact selects_settled hc hfeed hdelay
  · apply Triple.bind (selects_tuneMclk hc via target).discard
    intro _
    exact selects_settled hc hfeed hdelay

variable (hroute : ∀ request, (pins.route request).Leaves (c.settings shown))

include hroute

theorem selects_configureCrystal (enable : Bool) (budget : RetryBudget) :
    Ensures (Selects shown b) (c.configureCrystal cpu pins enable budget)
      fun _ => Selects shown b := by
  apply keeps_configureCrystal fun _ _ => trivial
  · exact selects_of_leaves hc.clearFault
  · exact selects_of_leaves (leaves_read hc .bcsctl3)
  · exact fun bits => selects_write hc (by decide) bits
  · exact selects_of_leaves hfeed
  · exact fun cycles => selects_of_leaves (hdelay cycles)
  · exact fun request => selects_of_leaves (hroute request)

/-- A boot whose source for ACLK is refused leaves SMCLK as it was. -/
theorem selects_boot (hxt2 : c.caps.xt2Hz = none) (plan : BootPlan) :
    Ensures (Selects shown b) (c.boot cpu pins plan).run fun _ =>
      Selects shown (if plan.aclkSource.drivesAclk
        then anyBits ClockField.smclkSpill plan.smclkShift else b) := by
  have hrates {b : Bool} (crystalRunning : Bool) : Ensures (Selects shown b) (do
      return ⟨crystalRunning, ← c.aclkHz, ← c.smclkHz, ← c.mclkHz⟩ :
        ExceptT ClockError (Run σ) BootReport).run fun _ => Selects shown b := by
    rw [run_liftM_bind]
    apply Triple.bind (selects_of_leaves (leaves_aclkHz hc))
    intro _
    rw [run_liftM_bind]
    apply Triple.bind (selects_of_leaves (leaves_smclkHz hc hxt2))
    intro _
    rw [run_liftM_bind]
    apply Triple.bind (selects_of_leaves (leaves_mclkHz hc hxt2))
    intro _
    exact triple_pure _ fun _ hs => hs
  have hrest (crystalRunning : Bool) : Ensures (Selects shown b) (do
      c.configureAclk plan.aclkSource plan.aclkShift
      discard (c.configureMclk cpu plan.mclkHz)
      c.configureSmclk .dco plan.smclkShift
      return ⟨crystalRunning, ← c.aclkHz, ← c.smclkHz, ← c.mclkHz⟩ :
        ExceptT ClockError (Run σ) BootReport).run fun _ =>
      Selects shown (if plan.aclkSource.drivesAclk
        then anyBits ClockField.smclkSpill plan.smclkShift else b) := by
    apply Triple.run_bind (Q := fun _ s => plan.aclkSource.drivesAclk ∧ Selects shown b s)
    · apply (selects_configureAclk hc plan.aclkSource plan.aclkShift).weaken
      rintro answer s ⟨hanswer, hs⟩
      cases answer with
      | ok _ => exact ⟨hanswer.symm, hs⟩
      | error why =>
        have hrefused : plan.aclkSource.drivesAclk = false := hanswer.symm
        rw [hrefused]
        exact hs
    · intro _
      apply triple_of_fact
      intro haccepted
      rw [haccepted, run_discard_bind]
      apply Triple.bind (selects_configureMclk hc hfeed hdelay plan.mclkHz)
      intro _
      rw [run_liftM_bind]
      apply Triple.bind ((selects_configureSmclk hc hxt2 .dco plan.smclkShift).of_imp
        fun _ _ => trivial)
      intro _
      exact hrates crystalRunning
  unfold ClockSystem.boot
  split
  · rw [run_liftM_bind]
    exact Triple.bind (selects_configureCrystal hc hfeed hdelay hroute true _) hrest
  · exact hrest false

/-! ## A run of orders -/

/-- Only the orders that write a shift for SMCLK move its selector. -/
theorem selects_perform (hxt2 : c.caps.xt2Hz = none) (order : ClockOrder σ) :
    Ensures (Selects shown b) (order.perform c cpu pins) fun _ =>
      Selects shown ((order.smclkShift?.map (anyBits ClockField.smclkSpill)).getD b) := by
  cases order with
  | crystal enable budget =>
    exact (selects_configureCrystal hc hfeed hdelay hroute enable budget).discard
  | aclk source shift =>
    exact ((selects_configureAclk hc source shift).weaken fun _ _ hs => hs.2).discard
  | smclk source shift =>
    exact (selects_configureSmclk hc hxt2 source shift).of_imp fun _ _ => trivial
  | mclk target => exact (selects_configureMclk hc hfeed hdelay target).discard
  | mclkTuned via target =>
    exact (selects_configureMclkTuned hc hfeed hdelay via target).discard
  | tune via hz => exact (selects_tuneMclk hc via hz).discard
  | boot plan =>
    apply Triple.discard
    apply (selects_boot hc hfeed hdelay hroute hxt2 plan).weaken
    intro _ s hs
    rw [ClockOrder.smclkShift?]
    by_cases haccepted : plan.aclkSource.drivesAclk
    · rw [if_pos haccepted] at hs ⊢
      exact hs
    · rw [if_neg haccepted] at hs ⊢
      exact hs

theorem selects_performAll (hxt2 : c.caps.xt2Hz = none) (orders : List (ClockOrder σ)) :
    Ensures (Selects shown b) (ClockOrder.performAll c cpu pins orders) fun _ =>
      Selects shown (((orders.reverse.findSome? ClockOrder.smclkShift?).map
        (anyBits ClockField.smclkSpill)).getD b) := by
  induction orders generalizing b with
  | nil => exact triple_pure _ fun _ hs => hs
  | cons order rest ih =>
    apply Triple.bind (selects_perform hc hfeed hdelay hroute hxt2 order)
    intro _
    apply ih.weaken
    intro _ s hs
    rw [List.reverse_cons, List.findSome?_append, List.findSome?_singleton]
    cases hlast : rest.reverse.findSome? ClockOrder.smclkShift? with
    | none =>
      rw [hlast] at hs
      exact hs
    | some shift =>
      rw [hlast] at hs
      exact hs

/-- On a device without XT2, whatever is done with the clocks, SMCLK is on the DCO and runs at the
rate of MCLK behind its divider, unless the last shift that was written for it spilled into its
selector. Then SMCLK is on XT2, and that is LFXT1. -/
theorem smclk_follows_last_shift (hxt2 : c.caps.xt2Hz = none) (orders : List (ClockOrder σ))
    {patience : Nat} {s t : σ} (hstart : anyBits ClockField.smclkSelect (shown s .bcsctl2) = false)
    (hrun : (ClockOrder.performAll c cpu pins orders).start patience s = .ok () t) :
    (∀ patience, c.smclkSource.start patience t =
      .ok (if ClockOrder.spilled orders then .xt2 else .dco) t) ∧
    ∀ patience, c.smclkHz.start patience t =
      .ok ((if ClockOrder.spilled orders then c.lfxt1Rate (shown t .bcsctl3)
          else (c.settings shown t).configuredHz) >>>
        (ClockField.smclkDivider.extract (shown t .bcsctl2)).toUInt32) t := by
  have hselect : anyBits ClockField.smclkSelect (shown t .bcsctl2) = ClockOrder.spilled orders :=
    (selects_performAll hc hfeed hdelay hroute hxt2 orders).of_start hstart hrun
  constructor
  · intro patience
    rw [start_smclkSource hc, hselect]
  · intro patience
    rw [start_smclkHz_selected hc hxt2, hselect]

end Waiting

end ClockSystem

/-! ## A board without XT2 -/

/-- Shifts that fit the divider, and a source that the device lacks. -/
def fittingOrders : List (ClockOrder (ClockModule × UInt32)) :=
  [.crystal true (.rounds 2), .smclk .xt2 3, .mclk 8000000, .aclk .vlo 9, .boot { }]

def performLaunch (orders : List (ClockOrder (ClockModule × UInt32))) :
    Run (ClockModule × UInt32) Unit :=
  ClockOrder.performAll launchClock (.idle (return ())) ⟨fun _ => return .ok (), fun _ _ => none⟩
    orders

theorem smclk_follows_last_shift_fitting :
    launchClock.caps.xt2Hz = none ∧
      (performLaunch fittingOrders).start 1 ({}, 1100000) =
        .ok () ((performLaunch fittingOrders).finish 1 ({}, 1100000)) ∧
      launchClock.smclkSource.start 1 ((performLaunch fittingOrders).finish 1 ({}, 1100000)) =
        .ok .dco ((performLaunch fittingOrders).finish 1 ({}, 1100000)) := by
  have hanswer : (performLaunch fittingOrders).answer? 1 ({}, 1100000) = some () := by
    decide +kernel
  have hrun := start_of_answer hanswer
  have hxt2 : launchClock.caps.xt2Hz = none := rfl
  obtain ⟨hsource, -⟩ := ClockSystem.smclk_follows_last_shift launchClock_obeyed (leaves_pure _ _)
    (fun _ => leaves_pure _ _) (fun _ => leaves_pure _ _) hxt2 fittingOrders rfl hrun
  exact ⟨hxt2, hrun, hsource 1⟩

/-- A shift of four is asked for, with the DCO as the source. -/
theorem smclk_leaves_dco_for_wide_shift :
    launchClock.caps.xt2Hz = none ∧
      anyBits ClockField.smclkSelect (({} : ClockModule).read .bcsctl2) = false ∧
      ∃ t, (launchClock.configureSmclk .dco 4).start 1 ({}, 1100000) = .ok () t ∧
        launchClock.smclkSource.start 1 t = .ok .xt2 t ∧
        launchClock.smclkHz.start 1 t = .ok 32768 t :=
  ⟨rfl, by decide, _, rfl, rfl, rfl⟩

end Msp430
