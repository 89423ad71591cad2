import Msp430.Proofs.Timer.Simulated
import Msp430.Uptime.Clock

/-!
An uptime clock loses and invents no tick. However it is suspended and resumed, its timer's
interrupts are dispatched and its alarms are used, the count is the number of ticks that have passed
while the clock was running.
-/
namespace Msp430.Scene

open Run

variable {H M : Type} {c : Nat} {clock : Uptime × M → ClockModule}
variable {notify : Notify (Scene (SimTimer c) H (Uptime × M)) H}
variable {s s' : Scene (SimTimer c) H (Uptime × M)} {stopped : Bool}

/-! ## Invariant -/

/-- The count is what has passed, modulo its 32 bits, and so was every count that was read. -/
structure Exact (s : Scene (SimTimer c) H (Uptime × M)) : Prop where
  quiet : s.registers.Quiet
  drift : s.registers.drift = 0
  /-- Writing the control register back does not clear the count. -/
  settled : anyBits TimerControl.clear s.registers.control = false
  now : s.now = (elapsed s.journal).toUInt32
  counted : Throughout (fun moment earlier => ∀ count, moment = .counted count →
    count = (elapsed earlier).toUInt32) s.journal

structure Timed (stopped : Bool) (s : Scene (SimTimer c) H (Uptime × M)) : Prop
    extends Exact s where
  stopped : s.registers.stopped = stopped

/-- The timer stands still just while the clock is suspended. -/
def Keeping (s : Scene (SimTimer c) H (Uptime × M)) : Prop :=
  Timed (decide (s.memory.1.state = .suspended)) s

/-- All that the count and what it was depend on. -/
def timekeeping (s : Scene (SimTimer c) H (Uptime × M)) :
    SimTimer c × UInt16 × UptimeState × List Moment :=
  (s.registers.core, s.shared.overflows, s.memory.1.state, s.journal)

theorem Timed.congr (h : Timed stopped s) (hcore : s'.registers.core = s.registers.core)
    (hoverflows : s'.shared.overflows = s.shared.overflows) (hjournal : s'.journal = s.journal) :
    Timed stopped s' where
  quiet := h.quiet.congr hcore
  drift := (SimTimer.eq_of_core hcore SimTimer.drift).trans h.drift
  settled := (SimTimer.eq_of_core hcore fun t =>
    anyBits TimerControl.clear t.control).trans h.settled
  now := by
    rw [hjournal, ← h.now, Scene.now, Scene.now, hoverflows]
    exact SimTimer.extended_congr hcore _
  counted := by rw [hjournal]; exact h.counted
  stopped := (SimTimer.eq_of_core hcore SimTimer.stopped).trans h.stopped

/-- An invariant that holds at all of the core, the overflows, the state of the clock and the
journal there are. -/
def Sound (I : Scene (SimTimer c) H (Uptime × M) → Prop) : Prop :=
  ∀ s s', s'.timekeeping = s.timekeeping → I s → I s'

theorem sound_timed : Sound (H := H) (M := M) (c := c) (Timed stopped) := by
  intro s s' hv h
  exact h.congr (congrArg (·.1) hv) (congrArg (·.2.1) hv) (congrArg (·.2.2.2) hv)

theorem sound_keeping : Sound (H := H) (M := M) (c := c) Keeping := by
  intro s s' hv h
  have hstate : s'.memory.1.state = s.memory.1.state := congrArg (·.2.2.1) hv
  unfold Keeping at h ⊢
  rw [hstate]
  exact sound_timed s s' hv h

/-! ## Channels do not matter -/

variable {I E : Scene (SimTimer c) H (Uptime × M) → Prop}

theorem indifferent (hi : Sound I) (exact : ∀ s, I s → Exact s) :
    (timer clock notify).Indifferent I E where
  modifySlot i f := triple_modifySlot fun s h => hi s _ rfl h
  readChannel i := by
    refine triple_of_start fun patience s h => ⟨_, _, rfl, hi s _ ?_ h⟩
    exact congrArg (·, s.shared.overflows, s.memory.1.state, s.journal)
      (SimTimer.core_readChannel s.registers (clock s.memory) i)
  writeChannel i bits := by
    refine triple_of_start fun patience s h => ⟨_, _, rfl, hi s _ ?_ h⟩
    exact congrArg (·, s.shared.overflows, s.memory.1.state, s.journal)
      (SimTimer.core_writeChannel s.registers i bits)
  writeCompare i count := by
    refine triple_of_start fun patience s h => ⟨_, _, rfl, hi s _ ?_ h⟩
    have hcore : (s.registers.writeCompare i count).core = s.registers.core := by
      rw [SimTimer.core_writeCompare, (exact s h).drift, SimTimer.shift_zero]
    exact congrArg (·, s.shared.overflows, s.memory.1.state, s.journal) hcore
  counter := (triple_counter fun s h => (exact s h).quiet).weaken fun _ _ h => h.1

theorem keeps_leaves (hi : Sound I) (he : ∀ s, I s → E s) {α : Type}
    {run : Run (Scene (SimTimer c) H (Uptime × M)) α} (h : run.Leaves timekeeping) :
    Keeps I E run := h.keeps_of_congr (fun s s' hv hs => hi s s' hv hs) he

/-! ## Stopping and running -/

theorem triple_changeControl {f : UInt16 → UInt16} {after : Bool}
    (hclear : ∀ bits, anyBits TimerControl.clear (f bits) = anyBits TimerControl.clear bits)
    (hflag : ∀ bits,
      anyBits TimerControl.overflowFlag (f bits) = anyBits TimerControl.overflowFlag bits)
    (hmode : ∀ bits, anyBits TimerControl.mode bits = !stopped →
      anyBits TimerControl.mode (f bits) = !after) :
    Triple (Timed stopped) ((timer clock notify).port.changeControl f)
      (fun _ => Timed after) E := by
  refine triple_of_start fun patience s h => ⟨(), _, start_changeControl f patience s, ?_⟩
  have hsettled := (hclear s.registers.control).trans h.settled
  have hrunning : anyBits TimerControl.mode s.registers.control = !stopped := by
    rw [← h.stopped, SimTimer.stopped, Bool.not_not]
  exact {
    quiet := ⟨h.quiet.readStep, h.quiet.countScript, h.quiet.vectorScript⟩
    drift := h.drift
    settled := anyBits_clear_self ..
    now := (SimTimer.extended_writeControl _ hsettled (hflag _) _).trans h.now
    counted := h.counted
    stopped := by
      rw [SimTimer.stopped, show anyBits TimerControl.mode
        (s.registers.writeControl (f s.registers.control)).control = _ from
          anyBits_clear_other (by decide) _, hmode _ hrunning, Bool.not_not] }

theorem triple_stop :
    Triple (Timed stopped) (timer clock notify).port.stop (fun _ => Timed true) E :=
  triple_changeControl (fun _ => anyBits_clear_other (by decide) _)
    (fun _ => anyBits_clear_other (by decide) _) fun _ _ => anyBits_clear_self ..

theorem triple_runContinuously :
    Triple (Timed stopped) (timer clock notify).port.runContinuously (fun _ => Timed false) E :=
  triple_changeControl (fun _ => anyBits_replace_other (by decide) (by decide) ..)
    (fun _ => anyBits_replace_other (by decide) (by decide) ..)
    fun _ _ => anyBits_replace_self (by decide) _

theorem triple_enableOverflow :
    Keeps (Timed stopped) E (timer clock notify).port.enableOverflow :=
  triple_changeControl (fun _ => anyBits_set_other (by decide) _)
    (fun _ => anyBits_set_other (by decide) _)
    fun _ h => (anyBits_set_other (by decide) _).trans h

/-! ## The clock -/

variable {parts : UptimeParts (Scene (SimTimer c) H (Uptime × M)) H}
variable {rates : Rates (Scene (SimTimer c) H (Uptime × M))}

/-- Asking for the rates leaves the timer alone. -/
structure Detached (rates : Rates (Scene (SimTimer c) H (Uptime × M))) : Prop where
  aclk : rates.aclk.Leaves timekeeping
  smclk : rates.smclk.Leaves timekeeping
  mclk : rates.mclk.Leaves timekeeping

theorem keeps_frequency (hr : Detached rates) :
    Keeps (Timed stopped) Exact ((timer clock notify).frequency rates) := by
  have asked {run : Run (Scene (SimTimer c) H (Uptime × M)) UInt32} (h : run.Leaves timekeeping) :
      Keeps (Timed stopped) Exact run := keeps_leaves sound_timed (fun _ h => h.toExact) h
  have divided (rate : UInt32) : Keeps (Timed stopped) Exact (do
      return rate >>> (← (timer clock notify).port.dividerShift).toUInt32) :=
    fun _ _ h => h
  refine Keeps.bind (fun _ _ h => h) fun source => ?_
  cases source with
  | aclk => exact (asked hr.aclk).bind divided
  | smclk => exact (asked hr.smclk).bind divided
  | taclk => exact (keeps_pure 0).bind divided
  | inclk => exact (keeps_pure 0).bind divided

section Parts

variable (ht : parts.timer = timer clock notify)

include ht

theorem keeps_reconcile (d : DelayAlarm) : Keeps (Timed stopped) Exact (d.reconcile parts) := by
  have hd : (timer clock notify).Indifferent (Timed stopped) Exact :=
    indifferent sound_timed fun _ h => h.toExact
  unfold DelayAlarm.reconcile
  rw [ht]
  split
  · exact keeps_pure _
  · exact (hd.setEnabled _ _).bind fun _ => keeps_pure _

theorem keeps_setTimerActive (delay : Option DelayAlarm) (active : Bool) :
    Keeps (Timed stopped) Exact (delay.mapM fun d => d.setTimerActive parts active) := by
  cases delay with
  | none => exact keeps_pure _
  | some d => exact (keeps_reconcile ht _).map _ fun _ _ h => h

theorem triple_resume (hr : Detached rates) (u : Uptime) :
    Triple (Timed stopped) (u.resume parts rates)
      (fun u s => Timed false s ∧ u.state = .running) Exact := by
  unfold Uptime.resume
  rw [ht]
  refine Triple.bind (keeps_frequency hr) fun _ => ?_
  refine Triple.bind (keeps_leaves sound_timed (fun _ h => h.toExact) hr.mclk) fun _ => ?_
  refine Triple.bind (keeps_setTimerActive ht u.delay true) fun delay => ?_
  refine Triple.bind triple_runContinuously fun _ => ?_
  exact triple_pure _ fun _ h => And.intro h rfl

theorem triple_suspend (u : Uptime) :
    Triple (Timed stopped) (u.suspend parts)
      (fun u s => Timed true s ∧ u.state = .suspended) Exact := by
  unfold Uptime.suspend
  rw [ht]
  refine Triple.bind triple_stop fun _ => ?_
  refine Triple.bind (keeps_setTimerActive ht u.delay false) fun delay => ?_
  exact triple_pure _ fun _ h => And.intro h rfl

/-! ### The start -/

/-- Before the start nothing is known of the count. -/
structure Fresh (s : Scene (SimTimer c) H (Uptime × M)) : Prop where
  quiet : s.registers.Quiet
  drift : s.registers.drift = 0
  journal : s.journal = []

omit ht in
theorem Fresh.writeControl (h : Fresh s) (bits : UInt16) :
    Fresh { s with registers := s.registers.writeControl bits } where
  quiet := ⟨h.quiet.readStep, h.quiet.countScript, h.quiet.vectorScript⟩
  drift := h.drift
  journal := h.journal

omit ht in
theorem triple_resetCounter :
    Triple Fresh (timer clock notify).resetCounter
      (fun _ s => Fresh s ∧ s.shared.overflows = 0) E := by
  refine Triple.bind (Q := fun _ s => Fresh s ∧ s.shared.overflows = 0)
    (triple_update fun s h => ⟨⟨h.quiet, h.drift, h.journal⟩, rfl⟩) fun _ => ?_
  refine Triple.bind (Q := fun _ s => Fresh s ∧ s.shared.overflows = 0)
    (triple_of_start fun patience s h => ?_) fun _ => triple_of_start fun patience s h => ?_
  · exact ⟨(), _, start_changeControl _ patience s, h.1.writeControl _, h.2⟩
  · exact ⟨(), _, start_changeControl _ patience s, h.1.writeControl _, h.2⟩

omit ht in
/-- The count starts from zero on a timer that stands still. -/
theorem Fresh.cleared (h : Fresh s) (ho : s.shared.overflows = 0) {bits : UInt16}
    (hclear : anyBits TimerControl.clear bits = true)
    (hflag : anyBits TimerControl.overflowFlag bits = false)
    (hmode : anyBits TimerControl.mode bits = false) :
    Timed true { s with registers := s.registers.writeControl bits } where
  quiet := (h.writeControl bits).quiet
  drift := h.drift
  settled := anyBits_clear_self ..
  now := by
    have hcount : (s.registers.writeControl bits).count = 0 := by
      rw [SimTimer.writeControl, hclear]
      rfl
    have hdown : (s.registers.writeControl bits).overflowed = false :=
      (anyBits_clear_other (by decide) bits).trans hflag
    dsimp only [now]
    rw [h.journal, SimTimer.extended, hcount, hdown, ho]
    decide
  counted := by
    dsimp only
    rw [h.journal]
    exact .nil
  stopped := by
    dsimp only
    rw [SimTimer.stopped, SimTimer.writeControl, anyBits_clear_other (by decide), hmode]
    rfl

omit ht in
theorem triple_selectClock (source : TimerSource) (divider : TimerDivider) :
    Triple (fun s => Fresh s ∧ s.shared.overflows = 0)
      ((timer clock notify).port.selectClock source divider) (fun _ => Timed true) E := by
  refine triple_of_start fun patience s ⟨h, ho⟩ => ⟨(), _, rfl, h.cleared ho ?_ ?_ ?_⟩
  · cases source <;> cases divider <;> decide
  · cases source <;> cases divider <;> decide
  · cases source <;> cases divider <;> decide

theorem keeps_claimDelay (channel : Nat) :
    Keeps (Timed stopped) Exact (DelayAlarm.claim parts channel) := by
  have hd : (timer clock notify).Indifferent (Timed stopped) Exact :=
    indifferent sound_timed fun _ h => h.toExact
  unfold DelayAlarm.claim
  rw [ht]
  refine (hd.claim channel parts.onAlarm).bind fun answer => ?_
  cases answer with
  | error why => exact keeps_pure _
  | ok alarm => exact keeps_pure _

theorem triple_start (hr : Detached rates) (plan : UptimePlan) :
    Triple Fresh (Uptime.start parts plan rates)
      (fun u s => Timed false s ∧ u.state = .running) Exact := by
  unfold Uptime.start
  rw [ht]
  refine Triple.bind (Q := fun _ => Fresh) (triple_of_start fun patience s h =>
    ⟨(), _, rfl, h.writeControl 0⟩) fun _ => ?_
  refine Triple.bind triple_resetCounter fun _ => ?_
  refine Triple.bind (triple_selectClock plan.source plan.divider) fun _ => ?_
  refine Triple.bind triple_enableOverflow fun _ => ?_
  have resumed (delay : Option DelayAlarm) :
      Triple (Timed true) (Uptime.resume ⟨delay, 0, 0, .suspended⟩ parts rates)
        (fun u s => Timed false s ∧ u.state = .running) Exact := triple_resume ht hr _
  dsimp only
  cases plan.delayChannel with
  | none => exact resumed none
  | some channel => exact Triple.bind (keeps_claimDelay ht channel) resumed

end Parts

/-! ## Programs -/

def uptimeCell {R : Type} : Cell (Scene R H (Uptime × M)) Uptime where
  get s := s.memory.1
  set u s := { s with memory := (u, s.memory.2) }

/-- Lets ticks pass, on a timer that runs without losing a wrap. Those that pass while the clock
runs go into the journal. -/
def passTicks (ticks : Nat) : Run (Scene (SimTimer c) H (Uptime × M)) Unit := do
  assume fun s => s.registers.stopped || decide (s.registers.Countable ticks)
  let u ← uptimeCell.read
  registersCell.update (·.pass ticks)
  if u.state = .running then
    enter (.passed ticks)

def nowNoting (parts : UptimeParts (Scene (SimTimer c) H (Uptime × M)) H) :
    Run (Scene (SimTimer c) H (Uptime × M)) UInt32 := do
  let count ← parts.now
  enter (.counted count)
  return count

def startClock {R : Type} (parts : UptimeParts (Scene R H (Uptime × M)) H) (plan : UptimePlan)
    (rates : Rates (Scene R H (Uptime × M))) : Run (Scene R H (Uptime × M)) Unit := do
  uptimeCell.write (← Uptime.start parts plan rates)

def suspendClock {R : Type} (parts : UptimeParts (Scene R H (Uptime × M)) H) :
    Run (Scene R H (Uptime × M)) Unit := do
  uptimeCell.write (← (← uptimeCell.read).suspend parts)

def resumeClock {R : Type} (parts : UptimeParts (Scene R H (Uptime × M)) H)
    (rates : Rates (Scene R H (Uptime × M))) : Run (Scene R H (Uptime × M)) Unit := do
  uptimeCell.write (← (← uptimeCell.read).resume parts rates)

theorem Keeping.exact (h : Keeping s) : Exact s := h.toExact

theorem Keeping.counted (h : Keeping s) :
    Keeping { s with journal := .counted s.now :: s.journal } where
  quiet := h.quiet
  drift := h.drift
  settled := h.settled
  now := h.now
  counted := h.exact.counted.cons fun count he => by
    rw [← Moment.counted.inj he]
    exact h.now
  stopped := h.stopped

theorem Timed.passed (h : Timed false s) {ticks : Nat} (hc : s.registers.Countable ticks) :
    Timed false { s with
      registers := s.registers.advance ticks
      journal := .passed ticks :: s.journal } where
  quiet := SimTimer.advance_quiet _ h.quiet
  drift := (SimTimer.advance_drift ..).trans h.drift
  settled := (s.registers.advance_anyBits (by decide) ticks).trans h.settled
  now := by
    refine (SimTimer.extended_advance_add _ hc).trans ?_
    rw [show s.registers.extended s.shared.overflows = _ from h.now]
    exact (UInt32.ofNat_add ..).symm
  counted := h.counted.cons fun _ he => by cases he
  stopped := by
    have hmode := h.stopped
    unfold SimTimer.stopped at hmode ⊢
    rw [s.registers.advance_anyBits (by decide) ticks]
    exact hmode

theorem keeps_passTicks (ticks : Nat) :
    Keeps Keeping Exact (passTicks ticks : Run (Scene (SimTimer c) H (Uptime × M)) Unit) := by
  refine Triple.bind (triple_assume fun _ h => h.exact) fun _ => ?_
  refine Triple.bind (Q := fun u s => (Keeping s ∧
    (s.registers.stopped || decide (s.registers.Countable ticks)) = true) ∧ u = s.memory.1)
    (triple_read fun s h => ⟨h, rfl⟩) fun u => ?_
  cases hu : u.state with
  | running =>
    refine triple_of_start fun patience s ⟨⟨h, hc⟩, hus⟩ => ⟨(), { s with
      registers := s.registers.pass ticks
      journal := .passed ticks :: s.journal }, rfl, ?_⟩
    unfold Keeping at h ⊢
    rw [← hus, hu] at h ⊢
    have hrunning : s.registers.stopped = false := h.stopped
    rw [hrunning, Bool.false_or] at hc
    rw [SimTimer.pass, if_neg (by rw [hrunning]; decide)]
    exact h.passed (of_decide_eq_true hc)
  | suspended =>
    refine triple_of_start fun patience s ⟨⟨h, _⟩, hus⟩ =>
      ⟨(), { s with registers := s.registers.pass ticks }, rfl, ?_⟩
    unfold Keeping at h ⊢
    rw [← hus, hu] at h ⊢
    have hstands : s.registers.stopped = true := h.stopped
    rw [SimTimer.pass, if_pos hstands]
    exact h

/-- The clock is written when the timer does what it says. -/
theorem triple_writeClock (u : Uptime) :
    Triple (Timed (decide (u.state = .suspended)))
      (uptimeCell.write u : Run (Scene (SimTimer c) H (Uptime × M)) Unit)
      (fun _ => Keeping) E :=
  triple_of_start fun _ _ h => ⟨(), _, rfl, h.congr rfl rfl rfl⟩

theorem triple_of_timed {α : Type} {run : Run (Scene (SimTimer c) H (Uptime × M)) α}
    {Q : α → Scene (SimTimer c) H (Uptime × M) → Prop}
    (h : ∀ stopped, Triple (Timed stopped) run Q E) : Triple Keeping run Q E :=
  fun patience s hs => h _ patience s hs

section Parts

variable {parts : UptimeParts (Scene (SimTimer c) H (Uptime × M)) H}
variable (ht : parts.timer = timer clock notify)

include ht

theorem keeps_nowNoting : Keeps Keeping Exact (nowNoting parts) := by
  unfold nowNoting UptimeParts.now
  rw [ht]
  refine Triple.bind (triple_counter fun s h => h.quiet) fun count => ?_
  refine Triple.bind (Q := fun _ => Keeping) (triple_update fun s h => ?_) fun _ => keeps_pure _
  rw [h.2]
  exact h.1.counted

theorem triple_startClock {rates : Rates (Scene (SimTimer c) H (Uptime × M))}
    (hr : Detached rates) (plan : UptimePlan) :
    Triple Fresh (startClock parts plan rates) (fun _ => Keeping) Exact := by
  refine Triple.bind (triple_start ht hr plan) fun u => ?_
  exact (triple_writeClock u).of_imp fun s h => by rw [h.2]; exact h.1

theorem keeps_suspendClock : Keeps Keeping Exact (suspendClock parts) := by
  refine Triple.bind (Q := fun _ => Keeping) (triple_read fun _ h => h) fun u => ?_
  refine Triple.bind (triple_of_timed fun _ => triple_suspend ht u) fun u => ?_
  exact (triple_writeClock u).of_imp fun s h => by rw [h.2]; exact h.1

theorem keeps_resumeClock {rates : Rates (Scene (SimTimer c) H (Uptime × M))}
    (hr : Detached rates) : Keeps Keeping Exact (resumeClock parts rates) := by
  refine Triple.bind (Q := fun _ => Keeping) (triple_read fun _ h => h) fun u => ?_
  refine Triple.bind (triple_of_timed fun _ => triple_resume ht hr u) fun u => ?_
  exact (triple_writeClock u).of_imp fun s h => by rw [h.2]; exact h.1

end Parts

theorem Timed.acknowledged (h : Timed stopped s) (hf : s.registers.overflowed = true) :
    Timed stopped { s with
      registers := { s.registers with
        control := clearBits TimerControl.overflowFlag s.registers.control }
      shared := { s.shared with overflows := s.shared.overflows + 1 } } where
  quiet := ⟨h.quiet.readStep, h.quiet.countScript, h.quiet.vectorScript⟩
  drift := h.drift
  settled := (anyBits_clear_other (by decide) _).trans h.settled
  now := (SimTimer.extended_acknowledge _ hf).trans h.now
  counted := h.counted
  stopped := by
    have hmode := h.stopped
    unfold SimTimer.stopped at hmode ⊢
    rw [anyBits_clear_other (by decide)]
    exact hmode

section Programs

variable [DecidableEq H]

/-- What foreground code and handlers are made of. -/
inductive ClockStep (parts : UptimeParts (Scene (SimTimer c) H (Uptime × M)) H) :
    ∀ α : Type, Run (Scene (SimTimer c) H (Uptime × M)) α → Prop
  | pass (ticks : Nat) : ClockStep parts _ (passTicks ticks)
  | now : ClockStep parts _ (nowNoting parts)
  | suspend : ClockStep parts _ (suspendClock parts)
  | resume (rates : Rates (Scene (SimTimer c) H (Uptime × M))) : Detached rates →
      ClockStep parts _ (resumeClock parts rates)
  | dispatchFirst : ClockStep parts _ parts.timer.dispatchFirst
  | dispatchShared : ClockStep parts _ parts.timer.dispatchShared
  | claim (channel : Nat) (h : H) : ClockStep parts _ (Alarm.claim parts.timer channel h).run
  | setEnabled (a : Alarm) (on : Bool) : ClockStep parts _ (a.setEnabled parts.timer on)
  | set (a : Alarm) (setting : UInt32) : ClockStep parts _ (a.set parts.timer setting).run
  | cancel (a : Alarm) : ClockStep parts _ (a.cancel parts.timer)
  | release (a : Alarm) : ClockStep parts _ (a.release parts.timer)
  | addOverflowHandler (h : H) : ClockStep parts _ (parts.timer.addOverflowHandler h).run
  | removeOverflowHandler (h : H) : ClockStep parts _ (parts.timer.removeOverflowHandler h)
  | aside {α : Type} (run : Run (Scene (SimTimer c) H (Uptime × M)) α) :
      run.Leaves timekeeping → ClockStep parts α run

theorem keeps_clockStep {parts : UptimeParts (Scene (SimTimer c) H (Uptime × M)) H}
    (ht : parts.timer = timer clock notify) (hc : c ≤ 5)
    (hnotify : ∀ h event, Keeps Keeping Exact (notify h event)) {α : Type}
    {run : Run (Scene (SimTimer c) H (Uptime × M)) α} (hrun : ClockStep parts α run) :
    Keeps Keeping Exact run := by
  have still : (timer clock notify).Indifferent Keeping Exact :=
    indifferent sound_keeping fun _ h => h.exact
  have hd : parts.timer.Indifferent Keeping Exact := ht ▸ still
  have chain (s : Scene (SimTimer c) H (Uptime × M)) (chain : Chain H) (h : Keeping s) :
      Keeping { s with shared := { s.shared with chain } } := sound_keeping s _ rfl h
  have take (i : Nat) : Triple Keeping ((timer clock notify).takeDue i)
      (fun due s => if due.isSome then Keeping s else Keeping s) Exact := by
    simp only [ite_self]
    exact still.takeDue i
  cases hrun with
  | pass ticks => exact keeps_passTicks ticks
  | now => exact keeps_nowNoting ht
  | suspend => exact keeps_suspendClock ht
  | resume rates hr => exact keeps_resumeClock ht hr
  | dispatchFirst =>
    rw [ht]
    refine keeps_dispatchFirst (A := fun _ => Keeping) (J := fun _ => Keeping) (fun s h => ?_)
      (take 0) fun h => hnotify h _
    exact h.congr (SimTimer.core_changeChannel ..) rfl rfl
  | dispatchShared =>
    rw [ht]
    refine keeps_dispatchShared (A := fun _ => Keeping) (J := fun _ => Keeping) hc
      (fun _ h => h.exact) (fun _ h => h.quiet) (fun i s h => ?_) (fun i => take i)
      (fun _ h => hnotify h _) (fun s h hf => ?_) chain fun h => hnotify h _
    · exact h.congr (SimTimer.core_modifyChannel ..) rfl rfl
    · exact h.acknowledged hf
  | claim channel h => exact hd.claim channel h
  | setEnabled a on => exact hd.setEnabled a on
  | set a setting => exact hd.set a setting
  | cancel a => exact hd.cancel a
  | release a => exact hd.release a
  | addOverflowHandler h =>
    rw [ht]
    exact Timer.keeps_addOverflowHandler h fun s longer hs _ => chain s longer hs
  | removeOverflowHandler h =>
    rw [ht]
    exact Timer.keeps_removeOverflowHandler h fun s shorter hs _ => chain s shorter hs
  | aside run hrun => exact keeps_leaves sound_keeping (fun _ h => h.exact) hrun

def uptimeOn (clock : Uptime × M → ClockModule)
    (base : UptimeParts (Scene (SimTimer c) H (Uptime × M)) H)
    (notify : Notify (Scene (SimTimer c) H (Uptime × M)) H) :
    UptimeParts (Scene (SimTimer c) H (Uptime × M)) H :=
  { base with timer := timer clock notify }

/-- Take any timer whose count does not move by itself, start the clock on it and go on in whatever
way. Wherever the program ends, each count that was read, in a handler or not, is the number of
ticks that had passed while the clock ran, modulo 32 bits, and so is the count that is read there.
-/
theorem uptime_counts_elapsed (hc : c ≤ 5)
    {base : UptimeParts (Scene (SimTimer c) H (Uptime × M)) H}
    {code : Notify (Scene (SimTimer c) H (Uptime × M)) H →
      Notify (Scene (SimTimer c) H (Uptime × M)) H}
    (hcode : ∀ notify h event,
      Built (ClockStep (uptimeOn clock base notify)) (code notify h event))
    (plan : UptimePlan) {rates : Rates (Scene (SimTimer c) H (Uptime × M))}
    (hrates : Detached rates) {α : Type} {program : Run (Scene (SimTimer c) H (Uptime × M)) α}
    (hprogram : Built (ClockStep (uptimeOn clock base (.ofCode code))) program) (patience : Nat)
    (hquiet : s.registers.Quiet) (hdrift : s.registers.drift = 0) (hjournal : s.journal = []) :
    let parts := uptimeOn clock base (.ofCode code)
    let final := (startClock parts plan rates >>= fun _ => program).finish patience s
    (∀ later count earlier, final.journal = later ++ .counted count :: earlier →
      count = (elapsed earlier).toUInt32) ∧
    parts.now.start patience final = .ok (elapsed final.journal).toUInt32 final := by
  intro parts final
  have kept : Keeps Keeping Exact program :=
    Notify.keeps_program (fun _ h => h.exact) (fun _ hnotify _ _ => keeps_clockStep rfl hc hnotify)
      hcode hprogram
  have whole : Triple Fresh (startClock parts plan rates >>= fun _ => program)
      (fun _ => Exact) Exact :=
    ((triple_startClock rfl hrates plan).bind fun _ => kept).weaken fun _ _ h => h.exact
  have ended : Exact final := whole.finish (fun _ _ h => h) ⟨hquiet, hdrift, hjournal⟩
  constructor
  · intro later count earlier he
    exact ended.counted later _ earlier he count rfl
  · rw [← ended.now]
    exact start_counter _ _ ended.quiet patience

end Programs

/-! ## A clock over a wrap and a pause -/

abbrev ClockScene := Scene (SimTimer 2) Unit (Uptime × ClockModule)

def bareParts : UptimeParts ClockScene Unit where
  timer := timer Prod.snd fun _ _ => return .none
  cpu := .idle (return ())
  onAlarm := ()
  fired := ⟨fun _ => false, fun _ s => s⟩

/-- The overflow is pending when the count is read for the second time. -/
def ticking (parts : UptimeParts ClockScene Unit) : Run ClockScene Unit := do
  passTicks 65530
  let _ ← nowNoting parts
  passTicks 10
  let _ ← nowNoting parts
  let _ ← parts.timer.dispatchShared
  suspendClock parts
  passTicks 100
  resumeClock parts (.fixed 0 0 0)
  passTicks 3
  let _ ← nowNoting parts

theorem detached_fixed (aclk smclk mclk : UInt32) :
    Detached (.fixed aclk smclk mclk : Rates ClockScene) :=
  ⟨leaves_pure _ _, leaves_pure _ _, leaves_pure _ _⟩

theorem built_ticking (parts : UptimeParts ClockScene Unit) :
    Built (ClockStep parts) (ticking parts) := by
  refine .andThen (.step (.pass 65530)) fun _ => .andThen (.step .now) fun _ => ?_
  refine .andThen (.step (.pass 10)) fun _ => .andThen (.step .now) fun _ => ?_
  refine .andThen (.step .dispatchShared) fun _ => .andThen (.step .suspend) fun _ => ?_
  refine .andThen (.step (.pass 100)) fun _ => ?_
  refine .andThen (.step (.resume _ (detached_fixed 0 0 0))) fun _ => ?_
  exact .andThen (.step (.pass 3)) fun _ => .andThen (.step .now) fun _ => .done ()

def beforeTicking : ClockScene := ⟨{ count := 77 }, {}, (⟨none, 0, 0, .suspended⟩, {}), []⟩

def tickingParts : UptimeParts ClockScene Unit :=
  uptimeOn Prod.snd bareParts (.ofCode fun _ _ _ => return .none)

def afterTicking : ClockScene :=
  (startClock tickingParts ⟨.smclk, .by1, some 1⟩ (.fixed 0 0 0) >>=
    fun _ => ticking tickingParts).finish 9 beforeTicking

theorem uptime_counts_elapsed_ticking :
    afterTicking.journal = [.counted 65543, .passed 3, .counted 65540, .passed 10,
        .counted 65530, .passed 65530] ∧
      (65543 : UInt32) = (elapsed [.passed 3, .counted 65540, .passed 10, .counted 65530,
        .passed 65530]).toUInt32 := by
  have journal : afterTicking.journal = [.counted 65543, .passed 3, .counted 65540, .passed 10,
      .counted 65530, .passed 65530] := by decide +kernel
  have handlers (notify : Notify ClockScene Unit) (h : Unit) (event : TimerEvent) :
      Built (ClockStep (uptimeOn Prod.snd bareParts notify)) (return IsrResult.none) := .done _
  have quiet : beforeTicking.registers.Quiet := ⟨rfl, rfl, rfl⟩
  obtain ⟨counted, -⟩ := uptime_counts_elapsed (by decide) handlers ⟨.smclk, .by1, some 1⟩
    (detached_fixed 0 0 0) (built_ticking tickingParts) 9 quiet rfl rfl
  exact ⟨journal, counted [] _ _ journal⟩

end Msp430.Scene
