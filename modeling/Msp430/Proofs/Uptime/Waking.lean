import Msp430.Proofs.Timer.Routing
import Msp430.Proofs.Uptime.Lateness

/-!
A sleep on a simulated timer tells the truth and leaves the delay alarm at rest, whatever woke the
sleeper. Every move of the count is recorded: only one that loses a wrap, or takes the count half a
round past a target that it has reached, makes a target seem to lie ahead again.
-/
namespace Msp430

/-! ## Moves of the count -/

/-- The move does not take the count half a round past a target that it has reached. -/
def Near (target count : UInt32) (ticks : Nat) : Prop :=
  ticksUntil target count ≤ 0 → (count - target).toNat + ticks < 2147483648

/-- Since the last sleep began no wrap was lost, and the count did not go far past the target. -/
def Steady (target : UInt32) : List SleepEvent → Prop
  | [] => True
  | .slept _ :: _ => True
  | .moved count ticks sound :: earlier =>
    sound = true ∧ Near target count ticks ∧ Steady target earlier
  | _ :: earlier => Steady target earlier

instance (target count : UInt32) (ticks : Nat) : Decidable (Near target count ticks) :=
  inferInstanceAs (Decidable (_ → _))

instance Steady.decidable (target : UInt32) : ∀ events, Decidable (Steady target events)
  | [] | .slept _ :: _ => isTrue trivial
  | .moved _ _ _ :: earlier =>
    have := Steady.decidable target earlier
    inferInstanceAs (Decidable (_ ∧ _ ∧ _))
  | .asked _ :: earlier | .woke :: earlier | .sawCount _ :: earlier | .sawControl _ :: earlier =>
    Steady.decidable target earlier

theorem Near.reached {target now later : UInt32} {ticks : Nat} (h : Near target now ticks)
    (hlater : later.toNat = (now.toNat + ticks) % 4294967296)
    (hnow : ticksUntil target now ≤ 0) : ticksUntil target later ≤ 0 := by
  have hn := now.toNat_lt
  have ht := target.toNat_lt
  have hnear := h hnow
  rw [ticksUntil_nonpos_iff, ticksUntil_pos_iff, UInt32.toNat_sub] at hnow ⊢
  rw [UInt32.toNat_sub] at hnear
  omega

namespace Scene

open Run

variable {H M : Type} {c : Nat}

/-! ## The timer -/

section Timer

variable (clock : Uptime × Bedside M → ClockModule)

def noteMove (ticks : Nat) : Run (Bedroom (SimTimer c) H M) Unit := do
  let s ← get
  record (.moved s.now ticks (decide (s.registers.Countable ticks)))

/-- A write to a compare register may take time, and a channel that has the vector of the overflow
makes the count move on by a round of the lower half. -/
def noting : TimerPort (Bedroom (SimTimer c) H M) :=
  { simPort clock with
    writeCompare := fun i count => do
      noteMove (← registersCell.read).drift.toNat
      (simPort clock).writeCompare i count
    readVector := do
      let s ← get
      if s.registers.nextRequest.any fun i => 2 * i.toUInt16 = overflowVector then
        record (.moved s.now 65536 true)
      (simPort clock).readVector }

end Timer

def elapse (ticks : Nat) : Run (Bedroom (SimTimer c) H M) Unit := do
  noteMove ticks
  registersCell.update (·.advance ticks)

/-- All but what the program keeps for itself. -/
def vigil (s : Bedroom (SimTimer c) H M) :
    SimTimer c × TimerShared H × Uptime × Bool × List SleepEvent :=
  (s.registers, s.shared, s.memory.1, s.memory.2.fired, s.memory.2.events)

/-- Time passes, or something else happens. -/
inductive Passing : ∀ α : Type, Run (Bedroom (SimTimer c) H M) α → Prop
  | elapse (ticks : Nat) : Passing _ (elapse ticks)
  | apart {α : Type} (run : Run (Bedroom (SimTimer c) H M) α) : run.Leaves vigil → Passing α run

/-- Reads are what they seem, a muted channel requests no interrupt, and a target that was reached
stays reached as long as the count is steady. -/
structure Ticking (reached : Option UInt32) (muted : Option (Fin maxChannels))
    (s : Bedroom (SimTimer c) H M) : Prop where
  quiet : s.registers.Quiet
  muted : ∀ i, muted = some i → s.registers.interrupting i = false
  reached : ∀ target, reached = some target → Steady target s.memory.2.events →
    ticksUntil target s.now ≤ 0

variable {clock : Uptime × Bedside M → ClockModule}
variable {reached : Option UInt32} {muted : Option (Fin maxChannels)}
variable {s t : Bedroom (SimTimer c) H M}

/-- The count stays where it is. -/
theorem Ticking.stay (h : Ticking reached muted s) (hquiet : t.registers.Quiet)
    (hmuted : ∀ i, muted = some i → t.registers.interrupting i = false)
    (hevents : t.memory.2.events = s.memory.2.events) (hnow : t.now = s.now) :
    Ticking reached muted t where
  quiet := hquiet
  muted := hmuted
  reached := by
    rw [hevents, hnow]
    exact h.reached

/-- The count moves on, and the move is recorded. -/
theorem Ticking.move (h : Ticking reached muted s) {ticks : Nat} {sound : Bool}
    (hquiet : t.registers.Quiet)
    (hmuted : ∀ i : Fin maxChannels, t.registers.interrupting i = s.registers.interrupting i)
    (hevents : t.memory.2.events = .moved s.now ticks sound :: s.memory.2.events)
    (hnow : sound = true → t.now.toNat = (s.now.toNat + ticks) % 4294967296) :
    Ticking reached muted t where
  quiet := hquiet
  muted i hi := (hmuted i).trans (h.muted i hi)
  reached target htarget hsteady := by
    rw [hevents] at hsteady
    obtain ⟨hsound, hnear, hsteady⟩ := hsteady
    exact hnear.reached (hnow hsound) (h.reached target htarget hsteady)

/-- Only channels change. -/
theorem Ticking.channels (h : Ticking reached muted s) {registers : SimTimer c}
    (hcore : registers.core = s.registers.core)
    (hmuted : ∀ i, muted = some i → registers.interrupting i = false) :
    Ticking reached muted { s with registers } :=
  h.stay (h.quiet.congr hcore) hmuted rfl (SimTimer.extended_congr hcore _)

theorem leaves_noteMove (ticks : Nat) :
    (noteMove ticks : Run (Bedroom (SimTimer c) H M) Unit).Leaves concerns :=
  Leaves.bind (fun _ _ _ h => h) fun _ => leaves_record rfl

theorem spares_noting : (noting clock : TimerPort (Bedroom (SimTimer c) H M)).Spares concerns := by
  have hp : (simPort clock : TimerPort (Bedroom (SimTimer c) H M)).Spares concerns :=
    spares_simPort fun _ _ => rfl
  exact { hp with
    writeCompare := fun i count => Leaves.bind (fun _ _ _ h => h) fun registers =>
      (leaves_noteMove _).bind fun _ => hp.writeCompare i count
    readVector := by
      refine Leaves.bind (fun _ _ _ h => h) fun s => ?_
      split
      · exact (leaves_record rfl).bind fun _ => hp.readVector
      · exact hp.readVector }

theorem answers_noting : (noting clock : TimerPort (Bedroom (SimTimer c) H M)).Answers where
  readControl _ _ := ⟨_, _, rfl⟩
  readCount _ _ := ⟨_, _, rfl⟩
  readChannel _ _ _ := ⟨_, _, rfl⟩
  writeChannel _ _ _ _ := ⟨_, _, rfl⟩
  writeCompare _ _ _ _ := ⟨_, _, rfl⟩

theorem ensures_writeCompare (i : Nat) (count : UInt16) : Ensures (Ticking reached muted)
    ((noting clock : TimerPort (Bedroom (SimTimer c) H M)).writeCompare i count)
    fun _ => Ticking reached muted := by
  intro patience s h
  have hcore := SimTimer.core_writeCompare s.registers i count
  refine h.move ((SimTimer.shift_quiet h.quiet _).congr hcore)
    (fun j => s.registers.interrupting_writeCompare j i count) rfl fun hsound => ?_
  refine (congrArg UInt32.toNat (SimTimer.extended_congr hcore _)).trans ?_
  exact SimTimer.extended_shift _ (of_decide_eq_true hsound)

theorem Ticking.acknowledge (h : Ticking reached muted s) (i : Nat) :
    Ticking reached muted (s.acknowledge i) :=
  h.channels (SimTimer.core_modifyChannel ..) fun j hj =>
    (s.registers.interrupting_modifyChannel (fun channel => channel.enabled_acknowledge) i).trans
      (h.muted j hj)

/-- An overflow is counted that did not happen. -/
theorem Ticking.miscount (h : Ticking reached muted s) :
    Ticking reached muted
      (countOverflow (eventsCell.set (.moved s.now 65536 true :: s.memory.2.events) s)) :=
  h.move h.quiet (fun _ => rfl) rfl fun _ => s.registers.extended_miscounted s.shared.overflows

/-- An overflow that happened is counted. -/
theorem Ticking.countOverflow (h : Ticking reached muted s) (ho : s.registers.overflowed = true) :
    Ticking reached muted s.acknowledgeOverflow.countOverflow :=
  h.stay ⟨h.quiet.readStep, h.quiet.countScript, h.quiet.vectorScript⟩ h.muted rfl
    (SimTimer.extended_acknowledge s.shared.overflows ho)

theorem ensures_readVector : Ensures (Ticking reached muted)
    (noting clock : TimerPort (Bedroom (SimTimer c) H M)).readVector fun vector s =>
      Ticking reached muted (if vector = overflowVector then s.countOverflow else s) := by
  refine Triple.bind (Q := fun seen s => Ticking reached muted s ∧ seen = s)
    (fun _ s h => ⟨h, rfl⟩) fun seen => ?_
  intro patience s ⟨h, he⟩
  subst he
  have hscript := h.quiet.vectorScript
  cases hn : seen.registers.nextRequest with
  | none =>
    rw [if_neg (by simp)]
    cases ho : seen.registers.overflowRequested with
    | true =>
      rw [start_readVector_overflow hscript hn ho]
      exact h.countOverflow (Bool.and_eq_true_iff.mp ho).2
    | false =>
      rw [start_readVector_idle hscript hn ho]
      exact h
  | some i =>
    by_cases hv : 2 * i.toUInt16 = overflowVector
    · let noted := eventsCell.set (.moved seen.now 65536 true :: seen.memory.2.events) seen
      have hnoted : (record (.moved seen.now 65536 true)).start patience seen = .ok () noted := rfl
      have hread : (simPort clock).readVector.start patience noted =
          .ok (2 * i.toUInt16) (noted.acknowledge i) :=
        start_readVector_channel (s := noted) hscript hn patience
      rw [if_pos (by simpa using hv), start_bind_ok hnoted, hread]
      dsimp only
      rw [if_pos hv]
      exact h.miscount.acknowledge i
    · rw [if_neg (by simpa using hv), start_readVector_channel hscript hn]
      dsimp only
      rw [if_neg hv]
      exact h.acknowledge i

theorem ensures_counted {notify : Notify (Bedroom (SimTimer c) H M) H} :
    Ensures (Ticking reached muted) (onPort (noting clock) notify).counter fun now s =>
      Ticking reached muted s ∧ now = s.now ∧
        ∀ target, ticksUntil target now ≤ 0 → Ticking (some target) muted s := by
  have counted : Ensures (Ticking reached muted) (timer clock notify).counter fun now s =>
      Ticking reached muted s ∧ now = s.now := triple_counter fun _ h => h.quiet
  refine counted.weaken fun now s ⟨h, hnow⟩ => ⟨h, hnow, fun target htarget => ?_⟩
  refine ⟨h.quiet, h.muted, fun other he _ => ?_⟩
  rw [← Option.some.inj he, ← hnow]
  exact htarget

theorem hardware_noting : Hardware (noting clock : TimerPort (Bedroom (SimTimer c) H M)) Ticking
    fun count s => count = s.now where
  spares := spares_noting
  unreached _ _ _ h := ⟨h.quiet, h.muted, fun _ he => by cases he⟩
  unmuted _ _ _ h := ⟨h.quiet, fun _ he => (by cases he), h.reached⟩
  readControl _ _ _ _ h := h
  writeControl _ _ _ _ h := ⟨⟨h.quiet.readStep, h.quiet.countScript, h.quiet.vectorScript⟩,
    h.muted, fun _ he => by cases he⟩
  readChannel _ _ i _ s h := h.channels (SimTimer.core_readChannel ..) fun j hj =>
    (s.registers.interrupting_readChannel ..).trans (h.muted j hj)
  writeChannel _ _ i bits hi _ s h := h.channels (SimTimer.core_writeChannel ..) fun j hj =>
    (s.registers.interrupting_writeChannel_other (fun he => hi (by rw [hj, he]; rfl)) bits).trans
      (h.muted j hj)
  mute _ i bits hb _ s h := by
    have hmuted : (s.registers.writeChannel i bits).interrupting i = false :=
      s.registers.interrupting_writeChannel_self hb
    have kept := h.channels (SimTimer.core_writeChannel s.registers i bits) fun _ he => by cases he
    exact ⟨kept.quiet, fun j hj => Option.some.inj hj ▸ hmuted, kept.reached⟩
  clearFlag _ i _ s h := by
    refine h.channels (SimTimer.core_changeChannel s.registers (clock s.memory) i _) fun j hj => ?_
    obtain rfl : i = j := Option.some.inj hj
    exact SimTimer.not_interrupting_clearFlag (h.muted i rfl) (clock s.memory)
  writeCompare _ _ := ensures_writeCompare
  readVector _ _ := ensures_readVector
  counter _ _ _ := ensures_counted
  shared _ _ s shared ho h := by
    refine h.stay h.quiet h.muted rfl ?_
    rw [now, now, ho]
  restart _ _ h := ⟨h.quiet, h.muted, fun _ he => by cases he⟩
  clock _ _ _ _ h := ⟨h.quiet, h.muted, h.reached⟩
  fired _ _ _ _ h := ⟨h.quiet, h.muted, h.reached⟩
  asked _ _ _ _ h := ⟨h.quiet, h.muted, h.reached⟩
  slept _ _ _ h := ⟨h.quiet, h.muted, fun _ he => by cases he⟩
  woke _ _ _ h := ⟨h.quiet, h.muted, h.reached⟩

/-- Time that passes and what others do with their own does not concern the sleeper. -/
theorem harmless_passing {α : Type} {run : Run (Bedroom (SimTimer c) H M) α} (h : Passing α run) :
    Harmless Ticking run := by
  cases h with
  | elapse ticks =>
    refine ⟨(leaves_noteMove ticks).bind fun _ _ _ _ hs => hs, fun reached muted _ s hs => ?_⟩
    exact hs.move (SimTimer.advance_quiet _ hs.quiet)
      (fun i => s.registers.interrupting_advance ticks i) rfl fun hsound =>
        SimTimer.extended_advance _ (of_decide_eq_true hsound)
  | apart run hrun =>
    have same {s t : Bedroom (SimTimer c) H M} (hv : vigil t = vigil s) :
        t.registers = s.registers ∧ t.shared = s.shared ∧ t.memory.1 = s.memory.1 ∧
          t.memory.2.fired = s.memory.2.fired ∧ t.memory.2.events = s.memory.2.events := by
      simpa only [vigil, Prod.mk.injEq] using hv
    refine ⟨fun v => hrun.keeps_of_congr (fun s t hv hs => ?_) fun _ hs => hs, fun reached muted =>
      hrun.keeps_of_congr (fun s t hv hs => ?_) fun _ _ => trivial⟩
    · obtain ⟨-, hshared, hclock, hfired, hevents⟩ := same hv
      unfold concerns sleeperEvents at hs ⊢
      rw [hshared, hclock, hfired, hevents]
      exact hs
    · obtain ⟨hregisters, hshared, -, -, hevents⟩ := same hv
      refine hs.stay ?_ ?_ hevents ?_
      · rw [hregisters]
        exact hs.quiet
      · rw [hregisters]
        exact hs.muted
      · rw [now, now, hregisters, hshared]

/-! ## The end of a sleep -/

/-- What a sleep tells and how it leaves the alarm. -/
structure Truthful (target : UInt32) (mode : LowPowerMode) (answer : Except SleepError Int32)
    (before after : Bedroom (SimTimer c) H M) : Prop where
  /-- It is refused if there is no delay, the delay is disabled or the clock is suspended. -/
  refused : answer = .error .notRegistered ↔ before.memory.1.delay = none ∨
    before.memory.1.flags.enabled = false ∨ before.memory.1.state = .suspended
  /-- Otherwise only a target in the past stands in its way. -/
  past : ∀ why, answer = .error (.arm why) → why = .past ∧ ticksUntil target after.now ≤ 0
  slept : ∀ left, answer = .ok left →
    after.sleeperEvents = .woke :: .slept mode :: before.sleeperEvents
  awake : ∀ why, answer = .error why → after.sleeperEvents = before.sleeperEvents
  idle : ∀ i, before.memory.1.channel = some i →
    (after.shared.slot i).armed = false ∧ after.registers.interrupting i = false
  left : ∀ left, answer = .ok left → left = ticksUntil target after.now
  /-- The alarm does not fire early, and the time that is left does not grow. -/
  fired : ∀ left, answer = .ok left → after.memory.2.fired = true →
    Steady target after.memory.2.events → left ≤ 0

section Waking

variable [DecidableEq H] {onAlarm : H} {cpu : Cpu (Bedroom (SimTimer c) H M)}
variable {code : Notify (Bedroom (SimTimer c) H M) H → Notify (Bedroom (SimTimer c) H M) H}
variable {activity : LowPowerMode → Run (Bedroom (SimTimer c) H M) Unit}

omit [DecidableEq H] in
/-- While nobody waits the alarm is not armed and its channel requests no interrupt. -/
theorem Kept.idle {u : Uptime} {events : List SleepEvent}
    (h : Kept Ticking onAlarm (.between u u.delay events) s) (i : Fin maxChannels)
    (hi : u.channel = some i) :
    (s.shared.slot i).armed = false ∧ s.registers.interrupting i = false := by
  obtain ⟨hentries, hfit⟩ := (kept_iff rfl).mp h
  exact ⟨(hentries.slot i hi).armed, hfit.muted i hi⟩

/-- A sleep ends if what goes on during it does. -/
theorem answers_sleepOnce (target : UInt32) {mode : LowPowerMode}
    (hactivity : (activity mode).Answers) :
    (sleepOnce (bedsideParts (noting clock) cpu onAlarm code activity) target mode).Answers := by
  have asleep : ((bedsideCpu cpu activity).sleep mode).Answers :=
    (answers_update _ _).bind fun _ => hactivity.bind fun _ => answers_update _ _
  exact (answers_read _).bind fun u => u.answers_sleepUntil answers_noting target asleep

omit [DecidableEq H] in
theorem Slept.truthful {target : UInt32} {mode : LowPowerMode} {answer : Except SleepError Int32}
    (hs : s.memory.1.Sound) (h : Slept (fun count s => count = s.now) Ticking onAlarm s.memory.1
      s.sleeperEvents target mode answer t) : Truthful target mode answer s t := by
  have unregistered := hs.unregistered_iff
  have accepted (h : s.memory.1.flags.registered = true) : ¬ (s.memory.1.delay = none ∨
      s.memory.1.flags.enabled = false ∨ s.memory.1.state = .suspended) := fun hn => by
    rw [unregistered.mpr hn] at h
    cases h
  cases answer with
  | ok left =>
    obtain ⟨hregistered, hkept, ⟨now, hleft, hnow⟩, hfired⟩ := h
    have hleft : left = ticksUntil target t.now := hnow ▸ hleft
    exact {
      refused := ⟨fun he => (by cases he), fun h => absurd h (accepted hregistered)⟩
      past := fun _ he => by cases he
      slept := fun _ _ => hkept.entries.events
      awake := fun _ he => by cases he
      idle := hkept.idle
      left := fun _ he => Except.ok.inj he ▸ hleft
      fired := fun _ he hup hsteady => by
        rw [← Except.ok.inj he, hleft]
        exact (hfired hup).reached target rfl hsteady }
  | error why =>
    cases why with
    | notRegistered =>
      obtain ⟨hregistered, hkept⟩ := h
      exact {
        refused := ⟨fun _ => unregistered.mp hregistered, fun _ => rfl⟩
        past := fun _ he => by cases he
        slept := fun _ he => by cases he
        awake := fun _ _ => hkept.entries.events
        idle := hkept.idle
        left := fun _ he => by cases he
        fired := fun _ he => by cases he }
    | arm why =>
      obtain ⟨hregistered, hwhy, hkept, now, hnow, hpast⟩ := h
      exact {
        refused := ⟨fun he => (by cases he), fun h => absurd h (accepted hregistered)⟩
        past := fun other he => by
          obtain rfl : why = other := SleepError.arm.inj (Except.error.inj he)
          exact ⟨hwhy, hnow ▸ hpast⟩
        slept := fun _ he => by cases he
        awake := fun _ _ => hkept.entries.events
        idle := hkept.idle
        left := fun _ he => by cases he
        fired := fun _ he => by cases he }

/-- Take any timer that moves only when time passes or a compare register is written, start a clock
on it, use it in whatever way and then sleep; time passes and others act meanwhile, but only the
clock has the handler and the channel of its alarm. Without an alarm to wait for the sleep is
refused at once, it ends if what goes on during it does, and however it ends, what it tells is true
and the alarm is at rest. -/
theorem sleep_truthful
    (hsurroundings : Surroundings (noting clock) onAlarm Passing code activity)
    (plan : UptimePlan) {rates : Rates (Bedroom (SimTimer c) H M)}
    (hrates : RatesAmong Passing rates) {α : Type} {program : Run (Bedroom (SimTimer c) H M) α}
    (hprogram : Built (ClockUse (bedsideParts (noting clock) cpu onAlarm code activity) Passing)
      program)
    (target : UInt32) (mode : LowPowerMode) (patience : Nat)
    {middle : Bedroom (SimTimer c) H M} {a : α}
    (hquiet : s.registers.Quiet) (hspare : Spare onAlarm s)
    (hreached : (do
      startClock (bedsideParts (noting clock) cpu onAlarm code activity) plan rates
      program).start patience s = .ok a middle) :
    let sleep := sleepOnce (bedsideParts (noting clock) cpu onAlarm code activity) target mode
    (middle.memory.1.delay = none ∨ middle.memory.1.flags.enabled = false ∨
        middle.memory.1.state = .suspended →
      sleep.start patience middle = .ok (.error .notRegistered) middle) ∧
    ((activity mode).Answers → ∃ answer final, sleep.start patience middle = .ok answer final) ∧
    ∀ answer final, sleep.start patience middle = .ok answer final →
      Truthful target mode answer middle final := by
  intro sleep
  have hw : Hardware (noting clock : TimerPort (Bedroom (SimTimer c) H M)) Ticking
      fun count s => count = s.now := hardware_noting
  have harmless : ∀ α (run : Run (Bedroom (SimTimer c) H M) α), Passing α run →
      Harmless Ticking run := fun _ _ => harmless_passing
  have rested := (rested_program hw harmless hsurroundings hrates plan hprogram).of_start
    ⟨hspare, hquiet, fun _ he => (by cases he), fun _ he => by cases he⟩ hreached
  have started : sleep.start patience middle = (middle.memory.1.sleepUntil
      (bedsideParts (noting clock) cpu onAlarm code activity) target mode).run.start patience
        middle := rfl
  refine ⟨fun hn => ?_, fun hanswers => ?_, fun answer final hrun => ?_⟩
  · rw [started, Uptime.run_sleepUntil_unregistered (rested.sound.unregistered_iff.mpr hn)]
    rfl
  · exact answers_sleepOnce target hanswers patience middle
  · exact Slept.truthful rested.sound ((ensures_sleepUntil hw harmless hsurroundings
      middle.memory.1 middle.sleeperEvents target mode).of_start rested.kept (started ▸ hrun))

end Waking

/-! ## A sleep after an early wake -/

/-- Each sleep ends after 60 ticks. -/
def dozing (port : TimerPort NightScene) (_ : LowPowerMode) : Run NightScene Unit := do
  elapse 60
  let _ ← (nightTimer port).dispatchShared

def alarmPort : TimerPort NightScene := noting fun m => m.2.rest

def dozingParts : UptimeParts NightScene Unit :=
  bedsideParts alarmPort (.idle (return ())) () quietCode (dozing alarmPort)

def wokenEarly : Run NightScene Unit := do
  startClock dozingParts ⟨.smclk, .by1, some 1⟩ (.fixed 0 0 0)
  let _ ← sleepOnce dozingParts 100 .lpm0

theorem passing_pure {α : Type} (a : α) :
    Passing α (pure a : Run (Bedroom (SimTimer c) H M) α) := .apart _ (leaves_pure vigil a)

theorem dozing_surroundings :
    Surroundings alarmPort () Passing quietCode (dozing alarmPort) where
  handlers _ _ _ := .done _
  sleeping _ := .andThen (.step (.other _ (.elapse 60))) fun _ =>
    .andThen (.step .dispatchShared) fun _ => .done ()

theorem sleep_truthful_fired :
    let middle := wokenEarly.finish 9 beforeEvening
    let final := (sleepOnce dozingParts 90 .lpm3).finish 9 middle
    final.sleeperEvents = [.woke, .slept .lpm3, .woke, .slept .lpm0] ∧
      final.memory.2.fired = true ∧ Steady 90 final.memory.2.events ∧ ∃ left ≤ 0,
        (sleepOnce dozingParts 90 .lpm3).answer? 9 middle = some (.ok left) ∧
          Truthful 90 .lpm3 (.ok left) middle final := by
  intro middle final
  have woken : wokenEarly.answer? 9 beforeEvening = some () := by decide +kernel
  have slept : ((sleepOnce dozingParts 90 .lpm3).answer? 9 middle).map Except.isOk = some true := by
    decide +kernel
  have fired : final.memory.2.fired = true := by decide +kernel
  have steady : Steady 90 final.memory.2.events := by decide +kernel
  obtain ⟨answer, hanswer, hok⟩ := Option.map_eq_some_iff.mp slept
  obtain ⟨-, -, told⟩ := sleep_truthful dozing_surroundings ⟨.smclk, .by1, some 1⟩
    ⟨passing_pure 0, passing_pure 0, passing_pure 0⟩
    (.andThen (.step (.sleep 100 .lpm0)) fun _ => .done ()) 90 .lpm3 9 ⟨rfl, rfl, rfl⟩
    ⟨by decide, by decide +kernel⟩ (start_of_answer woken)
  have truthful := told answer final (start_of_answer hanswer)
  cases answer with
  | error why => cases hok
  | ok left =>
    exact ⟨by decide +kernel, fired, steady, left, truthful.fired left rfl fired steady, hanswer,
      truthful⟩

end Scene

end Msp430
