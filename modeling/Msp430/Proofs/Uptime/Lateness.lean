import Msp430.Proofs.Uptime.Delays

/-!
No delay ends early, whatever the timer is like. All that is read from its registers is recorded, so
that a count can be told from what the registers showed after the last sleep.
-/
namespace Msp430

/-! ## What the registers showed -/

/-- The lower half of the count that was read last, unless the sleeper did something since. -/
def lastCount : List SleepEvent → Option UInt16
  | .sawCount low :: _ => some low
  | .sawControl _ :: earlier => lastCount earlier
  | _ => none

/-- Since the sleeper did something the overflow flag was seen to be up. -/
def sawOverflow : List SleepEvent → Bool
  | .sawControl bits :: earlier => anyBits TimerControl.overflowFlag bits || sawOverflow earlier
  | .sawCount _ :: earlier => sawOverflow earlier
  | _ => false

/-- The registers showed this count: either the flag was down after the lower half had been read, or
it was up and one more overflow is counted. -/
inductive Shows (overflows : UInt16) : UInt32 → List SleepEvent → Prop
  | settled {low bits : UInt16} {earlier : List SleepEvent} : lastCount earlier = some low →
      anyBits TimerControl.overflowFlag bits = false →
      Shows overflows (joinCount overflows low) (.sawControl bits :: earlier)
  | wrapped {low : UInt16} {events : List SleepEvent} : lastCount events = some low →
      sawOverflow events = true → Shows overflows (joinCount (overflows + 1) low) events

namespace Scene

open Run

variable {R H M : Type}

/-- What lies beside the registers. -/
def aside (s : Bedroom R H M) : TimerShared H × Uptime × Bedside M := (s.shared, s.memory)

/-- The reads that a count is made of are recorded. -/
def watched (port : TimerPort (Bedroom R H M)) : TimerPort (Bedroom R H M) :=
  { port with
    readControl := do
      let bits ← port.readControl
      record (.sawControl bits)
      return bits
    readCount := do
      let count ← port.readCount
      record (.sawCount count)
      return count }

/-- Others do whatever they want to the registers and to what does not concern the sleeper. -/
def Apart : ∀ α : Type, Run (Bedroom R H M) α → Prop := fun _ run => run.Leaves concerns

variable {port : TimerPort (Bedroom R H M)} {notify : Notify (Bedroom R H M) H}
variable {s t : Bedroom R H M}

theorem leaves_concerns {α : Type} {run : Run (Bedroom R H M) α} (h : run.Leaves aside) :
    run.Leaves concerns := fun v => by
  refine h.keeps_of_congr (fun s t hc hs => ?_) fun _ hs => hs
  have hshared : t.shared = s.shared := congrArg Prod.fst hc
  have hmemory : t.memory = s.memory := congrArg Prod.snd hc
  unfold concerns sleeperEvents at hs ⊢
  rw [hshared, hmemory]
  exact hs

section Watched

variable (hp : port.Spares aside)

include hp

theorem spares_watched : (watched port).Spares concerns where
  readControl := (leaves_concerns hp.readControl).bind fun _ =>
    (leaves_record rfl).bind fun _ => leaves_pure _ _
  writeControl bits := leaves_concerns (hp.writeControl bits)
  readCount := (leaves_concerns hp.readCount).bind fun _ =>
    (leaves_record rfl).bind fun _ => leaves_pure _ _
  writeCount count := leaves_concerns (hp.writeCount count)
  readChannel i := leaves_concerns (hp.readChannel i)
  writeChannel i bits := leaves_concerns (hp.writeChannel i bits)
  readCompare i := leaves_concerns (hp.readCompare i)
  writeCompare i count := leaves_concerns (hp.writeCompare i count)
  readVector := leaves_concerns hp.readVector

omit hp in
/-- While a count is read: the overflows do not change, and the flag may have been seen. -/
structure Reading (overflows : UInt16) (flag : Bool) (s : Bedroom R H M) : Prop where
  overflows : s.shared.overflows = overflows
  flag : flag = true → sawOverflow s.memory.2.events = true

omit hp in
/-- The lower half has been read. -/
structure Half (overflows : UInt16) (flag : Bool) (low : UInt16) (s : Bedroom R H M) : Prop
    extends Reading overflows flag s where
  low : lastCount s.memory.2.events = some low

variable {overflows low : UInt16} {flag : Bool}

omit hp in
theorem Reading.congr (h : Reading overflows flag s) (hc : aside t = aside s) :
    Reading overflows flag t where
  overflows := (congrArg (·.1.overflows) hc).trans h.overflows
  flag hf := by
    rw [show t.memory = s.memory from congrArg Prod.snd hc]
    exact h.flag hf

theorem ensures_readCount : Ensures (Reading overflows flag) (watched port).readCount
    fun low => Half overflows flag low := by
  refine Triple.bind (hp.readCount.keeps_of_congr (fun s t hc h => Reading.congr h hc)
    fun _ _ => trivial) fun count => ?_
  exact fun _ s h => ⟨⟨h.overflows, h.flag⟩, rfl⟩

theorem ensures_readControl : Ensures (Half overflows flag low) (watched port).readControl
    fun bits s => Half overflows flag low s ∧ ∃ earlier,
      s.memory.2.events = .sawControl bits :: earlier ∧ lastCount earlier = some low := by
  refine Triple.bind (hp.readControl.keeps_of_congr (fun s t hc h => ?_) fun _ _ => trivial)
    fun bits => fun _ s h => ?_
  · refine ⟨Reading.congr h.toReading hc, ?_⟩
    rw [show t.memory = s.memory from congrArg Prod.snd hc]
    exact h.low
  · refine ⟨⟨⟨h.overflows, fun hf => ?_⟩, h.low⟩, s.memory.2.events, rfl, h.low⟩
    exact Bool.or_eq_true_iff.mpr (.inr (h.flag hf))

theorem ensures_settledCount (n : Nat) : Ensures (Half overflows flag low)
    ((watched port).settledCount low n) fun low => Half overflows flag low := by
  induction n generalizing low with
  | zero => exact triple_pure _ fun _ h => h
  | succ n ih =>
    refine Triple.bind ((ensures_readCount hp).of_imp fun _ h => h.toReading) fun count => ?_
    by_cases hc : count = low
    · rw [if_pos hc]
      exact triple_pure _ fun _ h => hc ▸ h
    · rw [if_neg hc]
      exact ih

theorem ensures_stableCount : Ensures (Reading overflows flag) (watched port).stableCount
    fun low => Half overflows flag low := by
  refine Triple.bind (ensures_readCount hp) fun count => ?_
  refine Triple.bind (Q := fun _ => Half overflows flag count) (Triple.bind (ensures_readControl hp)
    fun bits => triple_pure _ fun _ h => h.1) fun source => ?_
  split
  · exact triple_pure _ fun _ h => h
  · exact ensures_settledCount hp _

/-- A count is what the registers showed while it was read. -/
theorem ensures_shown : Ensures (fun _ => True) (onPort (watched port) notify).counter
    fun now s => Shows s.shared.overflows now s.memory.2.events := by
  refine Triple.bind (Q := fun shared s => Reading shared.overflows false s)
    (fun _ s _ => ⟨rfl, fun hf => by cases hf⟩) fun shared => ?_
  refine Triple.bind (ensures_stableCount hp) fun low => ?_
  refine Triple.bind (Q := fun up s => if up then Reading shared.overflows true s
      else Shows s.shared.overflows (joinCount shared.overflows low) s.memory.2.events)
    (Triple.bind (ensures_readControl hp) fun bits => triple_pure _ fun s h => ?_) fun up => ?_
  · obtain ⟨hhalf, earlier, hevents, hlow⟩ := h
    cases hup : anyBits TimerControl.overflowFlag bits with
    | true =>
      refine ⟨hhalf.overflows, fun _ => ?_⟩
      rw [hevents, sawOverflow, hup, Bool.true_or]
    | false =>
      rw [if_neg (by decide), hevents, hhalf.overflows]
      exact .settled hlow hup
  cases up with
  | true =>
    refine Triple.bind (ensures_stableCount hp) fun low => triple_pure _ fun s h => ?_
    rw [h.overflows]
    exact .wrapped h.low (h.flag rfl)
  | false => exact triple_pure _ fun _ h => h

omit hp in
theorem harmless_apart {α : Type} {run : Run (Bedroom R H M) α} (h : Apart α run) :
    Harmless (fun _ _ _ => True) run :=
  ⟨h, fun _ _ => triple_of_forall (fun _ _ => trivial) fun _ => trivial⟩

/-- Nothing is asked of the timer but that its registers lie apart from the memory. -/
theorem hardware_watched : Hardware (watched port) (fun _ _ _ => True)
    fun now (s : Bedroom R H M) => Shows s.shared.overflows now s.memory.2.events where
  spares := spares_watched hp
  unreached _ _ _ _ := trivial
  unmuted _ _ _ _ := trivial
  readControl _ _ := unconcerned
  writeControl _ _ := unconcerned
  readChannel _ _ _ := unconcerned
  writeChannel _ _ _ _ _ := unconcerned
  mute _ _ _ _ := unconcerned
  clearFlag _ _ := unconcerned
  writeCompare _ _ _ _ := unconcerned
  readVector _ _ := unconcerned
  counter _ _ _ := (ensures_shown hp).weaken fun _ _ h => ⟨trivial, h, fun _ _ => trivial⟩
  shared _ _ _ _ _ _ := trivial
  restart _ _ _ := trivial
  clock _ _ _ _ _ := trivial
  fired _ _ _ _ _ := trivial
  asked _ _ _ _ _ := trivial
  slept _ _ _ _ := trivial
  woke _ _ _ _ := trivial
where
  unconcerned {α : Type} {run : Run (Bedroom R H M) α} :
      Ensures (fun _ => True) run fun _ _ => True :=
    triple_of_forall (fun _ _ => trivial) fun _ => trivial

end Watched

/-! ## The end of a delay -/

section Lateness

variable [DecidableEq H] {onAlarm : H} {cpu : Cpu (Bedroom R H M)}
variable {code : Notify (Bedroom R H M) H → Notify (Bedroom R H M) H}
variable {activity : LowPowerMode → Run (Bedroom R H M) Unit}

/-- Take any timer, start a clock on it, use it in whatever way and then delay; others do what they
want meanwhile, but only the clock has the handler and the channel of its alarm. The exit condition
is asked once before each sleep and nobody sleeps once it held. If the delay succeeds and the
condition did not hold, then the registers showed after the last sleep that the target had been
reached. The delay fails only for want of an alarm, and then without a sleep. -/
theorem delay_never_early (hp : port.Spares aside)
    (hsurroundings : Surroundings (watched port) onAlarm Apart code activity)
    (plan : UptimePlan) {rates : Rates (Bedroom R H M)} (hrates : RatesAmong Apart rates)
    {α : Type} {program : Run (Bedroom R H M) α}
    (hprogram : Built (ClockUse (bedsideParts (watched port) cpu onAlarm code activity) Apart)
      program)
    (target : UInt32) (mode : LowPowerMode) {exit : Run (Bedroom R H M) Bool}
    (hexit : Built
      (Activity (onPort (watched port) (.ofCode (withDelay onAlarm code))) onAlarm Apart) exit)
    (patience : Nat) {middle final : Bedroom R H M} {a : α} {answer : Except SleepError Unit}
    (hspare : Spare onAlarm s)
    (hreached : (do
      startClock (bedsideParts (watched port) cpu onAlarm code activity) plan rates
      program).start patience s = .ok a middle)
    (hrun : (delayAsking (bedsideParts (watched port) cpu onAlarm code activity) target mode
      exit).start patience middle = .ok answer final) :
    DelayEnds mode (∃ now, Shows final.shared.overflows now final.memory.2.events ∧
      ticksUntil target now ≤ 0) middle.sleeperEvents answer final.sleeperEvents := by
  have hw := hardware_watched hp
  have harmless : ∀ α (run : Run (Bedroom R H M) α), Apart α run →
      Harmless (fun _ _ _ => True) run := fun _ _ => harmless_apart
  have rested := (rested_program hw harmless hsurroundings hrates plan hprogram).of_start
    ⟨hspare, trivial⟩ hreached
  have hrun : (middle.memory.1.delayUntil (bedsideParts (watched port) cpu onAlarm code activity)
    target mode (asking exit)).start patience middle = .ok answer final := hrun
  obtain ⟨after, hkept, hends⟩ := (ensures_delayUntil hw harmless hsurroundings middle.memory.1
    middle.sleeperEvents target mode hexit).of_start rested.kept hrun
  rw [show final.sleeperEvents = after from hkept.entries.events]
  exact hends

end Lateness

/-! ## A delay with an early wake -/

/-- A simulated timer with two channels, beside which only the clock has handlers. -/
abbrev NightScene := Bedroom (SimTimer 2) Unit ClockModule

def quietCode (_ : Notify NightScene Unit) : Notify NightScene Unit := fun _ _ => return .none

def nightTimer (port : TimerPort NightScene) : Timer NightScene Unit :=
  onPort port (.ofCode (withDelay () quietCode))

/-- Each sleep ends after 30 ticks, whether the alarm is due or not. -/
def restless (port : TimerPort NightScene) (_ : LowPowerMode) : Run NightScene Unit := do
  registersCell.update (·.advance 30)
  let _ ← (nightTimer port).dispatchShared

def nightPort : TimerPort NightScene := watched (simPort fun m => m.2.rest)

def nightParts : UptimeParts NightScene Unit :=
  bedsideParts nightPort (.idle (return ())) () quietCode (restless nightPort)

def evening : Run NightScene Unit := do
  startClock nightParts ⟨.smclk, .by1, some 1⟩ (.fixed 0 0 0)
  let _ ← sleepOnce nightParts 20 .lpm3

def beforeEvening : NightScene := ⟨{}, {}, (⟨none, 0, 0, .suspended⟩, { rest := {} }), []⟩

def night : Run NightScene (Except SleepError Unit) :=
  delayAsking nightParts 80 .lpm0 (return false)

theorem restless_surroundings :
    Surroundings nightPort () Apart quietCode (restless nightPort) where
  handlers _ _ _ := .done _
  sleeping _ := .andThen (.step (.other _ fun _ _ _ h => h)) fun _ =>
    .andThen (.step .dispatchShared) fun _ => .done ()

theorem rates_fixed (aclk smclk mclk : UInt32) :
    RatesAmong Apart (.fixed aclk smclk mclk : Rates (Bedroom R H M)) where
  aclk := leaves_pure concerns aclk
  smclk := leaves_pure concerns smclk
  mclk := leaves_pure concerns mclk

theorem delay_never_early_restless :
    let midnight := evening.finish 9 beforeEvening
    let morning := night.finish 9 midnight
    midnight.sleeperEvents = [.woke, .slept .lpm3] ∧
      morning.sleeperEvents = rounds .lpm0 2 ++ [.woke, .slept .lpm3] ∧
      ∃ answer, answer.isOk = true ∧ night.answer? 9 midnight = some answer ∧
        DelayEnds .lpm0 (∃ now, Shows morning.shared.overflows now morning.memory.2.events ∧
          ticksUntil 80 now ≤ 0) [.woke, .slept .lpm3] answer morning.sleeperEvents := by
  intro midnight morning
  have slept : evening.answer? 9 beforeEvening = some () := by decide +kernel
  have before : midnight.sleeperEvents = [.woke, .slept .lpm3] := by decide +kernel
  have delayed : (night.answer? 9 midnight).map Except.isOk = some true := by decide +kernel
  obtain ⟨answer, hanswer, hok⟩ := Option.map_eq_some_iff.mp delayed
  refine ⟨before, by decide +kernel, answer, hok, hanswer, ?_⟩
  rw [← before]
  exact delay_never_early (spares_simPort fun _ _ => rfl) restless_surroundings
    ⟨.smclk, .by1, some 1⟩ (rates_fixed 0 0 0)
    (.andThen (.step (.sleep 20 .lpm3)) fun _ => .done ()) 80 .lpm0 (.done false) 9
    ⟨by decide, by decide +kernel⟩ (start_of_answer slept) (start_of_answer hanswer)

end Scene

end Msp430
