import Msp430.Proofs.Uptime.Resting

/-!
Sleeping and delays. A sleep arms the alarm, and however it ends the alarm is at rest again. So
setting it is never refused but for a target in the past. A delay ends when it was asked to or at a
count that has reached the target.
-/
namespace Msp430

open Run

theorem Uptime.run_sleepUntil {σ H : Type} (u : Uptime) (parts : UptimeParts σ H) (target : UInt32)
    (mode : LowPowerMode) :
    (u.sleepUntil parts target mode).run = (do
      match u.delay.filter (·.flags.registered) with
      | none => return .error .notRegistered
      | some d =>
        parts.fired.write false
        match ← (d.alarm.set parts.timer target).run with
        | .error why => return .error (.arm why)
        | .ok () =>
          parts.cpu.sleep mode
          unless ← parts.fired.read do
            let _ ← d.alarm.cancel parts.timer
          return .ok (ticksUntil target (← parts.now))) := by
  unfold Uptime.sleepUntil
  cases u.delay.filter (·.flags.registered) with
  | none => rfl
  | some d =>
    dsimp only
    refine (run_liftM_bind ..).trans (congrArg _ (funext fun _ => ?_))
    refine (run_adapt_bind ..).trans (congrArg _ (funext fun answer => ?_))
    cases answer with
    | error why => rfl
    | ok _ =>
      refine (run_liftM_bind ..).trans (congrArg _ (funext fun _ => ?_))
      refine (run_liftM_bind ..).trans (congrArg _ (funext fun fired => ?_))
      cases fired with
      | true => exact run_liftM_bind ..
      | false => exact (run_discard_bind ..).trans (congrArg _ (funext fun _ => run_liftM_bind ..))

/-- Without a registration nothing happens. -/
theorem Uptime.run_sleepUntil_unregistered {σ H : Type} {u : Uptime}
    (h : u.flags.registered = false) (parts : UptimeParts σ H) (target : UInt32)
    (mode : LowPowerMode) :
    (u.sleepUntil parts target mode).run = return .error .notRegistered := by
  rw [run_sleepUntil]
  unfold Uptime.flags at h
  cases hd : u.delay with
  | none => rfl
  | some d =>
    rw [hd] at h
    rw [show (some d).filter (·.flags.registered) = none by simpa using h]

theorem Uptime.answers_sleepUntil {σ H : Type} (u : Uptime) {parts : UptimeParts σ H}
    (hport : parts.timer.port.Answers) (target : UInt32) {mode : LowPowerMode}
    (hsleep : (parts.cpu.sleep mode).Answers) : (u.sleepUntil parts target mode).run.Answers := by
  rw [run_sleepUntil]
  split
  · exact answers_pure _
  rename_i d _
  refine (answers_write _ _).bind fun _ => (d.alarm.answers_set hport target).bind fun answer => ?_
  cases answer with
  | error why => exact answers_pure _
  | ok _ =>
    refine hsleep.bind fun _ => (answers_read _).bind fun fired => ?_
    have tail : (return .ok (ticksUntil target (← parts.now)) :
        Run σ (Except SleepError Int32)).Answers :=
      (Timer.answers_counter hport).bind fun _ => answers_pure _
    cases fired with
    | true => exact tail
    | false => exact (d.alarm.answers_cancel hport).bind fun _ => tail

namespace Scene

variable {R H M : Type}
variable {port : TimerPort (Bedroom R H M)} {counted : UInt32 → Bedroom R H M → Prop}
variable {fit : Option UInt32 → Option (Fin maxChannels) → Bedroom R H M → Prop}
variable {onAlarm : H} {w : Watch} {s : Bedroom R H M}
variable {notify : Notify (Bedroom R H M) H} {i : Fin maxChannels}
variable (hw : Hardware port fit counted)

include hw

/-! ## Setting the alarm -/

/-- Nobody waits and the flag is down. -/
def Ahead (fit : Option UInt32 → Option (Fin maxChannels) → Bedroom R H M → Prop) (onAlarm : H)
    (w : Watch) (s : Bedroom R H M) : Prop :=
  s.memory.2.fired = false ∧ Kept fit onAlarm w s

/-- The alarm waits from the moment that its slot is armed. -/
theorem ensures_armOwn (hi : w.own = some i) (htarget : w.target = none) (target : UInt32) :
    Ensures (Ahead fit onAlarm w) (Alarm.arm ⟨i⟩ (onPort port notify) target)
      fun _ => Ahead fit onAlarm { w with target := some target } := by
  have beside {α : Type} {run : Run (Bedroom R H M) α} (hl : run.Leaves concerns)
      (hf : Ensures (fit none none) run fun _ => fit none none) :
      Keeps (fun s => (s.memory.2.fired = false ∧
        Entries onAlarm { w with target := some target } false s) ∧ fit none none s)
        (fun _ => True) run :=
    ensures_beside hl (fun s t hc h => ⟨(concerns_fired hc).trans h.1, h.2.congr hc⟩) hf
  have armed : Ensures (Ahead fit onAlarm w)
      ((onPort port notify).modifySlot i fun slot => { slot with setting := target, armed := true })
      fun _ s => (s.memory.2.fired = false ∧
        Entries onAlarm { w with target := some target } false s) ∧ fit none none s := by
    refine triple_modifySlot fun s ⟨hfired, h⟩ => ?_
    obtain ⟨hentries, hfit⟩ := (kept_iff htarget).mp h
    refine ⟨⟨hfired, ?_⟩, hw.shared _ _ _ _ rfl (hw.unmuted _ _ _ hfit)⟩
    refine hentries.modifyOwn { w with target := some target } hi rfl rfl rfl fun slot hslot => ?_
    exact ⟨hslot.handler, hslot.enabled, rfl, fun _ he => Option.some.inj he⟩
  refine (Alarm.triple_arm armed
    (beside (hw.spares.readChannel i) (hw.readChannel none none i))
    (fun bits => beside (hw.spares.writeChannel i bits)
      (hw.writeChannel none none i bits (by rintro ⟨⟩)))
    (fun count => beside (hw.spares.writeCompare i count) (hw.writeCompare none none i count))
    (beside (Timer.counter_leaves hw.spares)
      ((hw.counter notify none none).weaken fun _ _ h => h.1))).weaken ?_
  intro _ s ⟨⟨hfired, hentries⟩, hfit⟩
  refine ⟨hfired, ?_⟩
  unfold Kept
  rw [hfired]
  exact ⟨hentries, hfit⟩

/-- An alarm that is enabled and at rest is refused a target in the past and nothing else. -/
theorem ensures_setOwn (hi : w.own = some i) (hon : w.on = true) (htarget : w.target = none)
    (target : UInt32) :
    Ensures (Ahead fit onAlarm w) (Alarm.set ⟨i⟩ (onPort port notify) target).run
      fun answer s => match answer with
        | .ok _ => Ahead fit onAlarm { w with target := some target } s
        | .error why => why = .past ∧ Kept fit onAlarm w s ∧
            ∃ now, counted now s ∧ ticksUntil target now ≤ 0 := by
  have slot (s : Bedroom R H M) (h : Ahead fit onAlarm w s) :
      (s.shared.slot i).enabled = true ∧ (s.shared.slot i).armed = false := by
    have hslot := h.2.entries.slot i hi
    rw [hslot.enabled, hslot.armed, hon, htarget]
    exact ⟨rfl, rfl⟩
  rw [Alarm.run_set]
  refine Triple.bind (Q := fun enabled s => enabled = true ∧ Ahead fit onAlarm w s)
    (fun _ s h => ⟨(slot s h).1, h⟩) fun enabled => triple_of_fact fun he => ?_
  rw [he, if_neg (by decide)]
  refine Triple.bind (Q := fun armed s => armed = false ∧ Ahead fit onAlarm w s)
    (fun _ s h => ⟨(slot s h).2, h⟩) fun armed => triple_of_fact fun ha => ?_
  rw [ha, if_neg (by decide)]
  have counting : Ensures (Ahead fit onAlarm w) (onPort port notify).counter
      fun now s => Ahead fit onAlarm w s ∧ counted now s :=
    (ensures_beside (C := fun s => s.memory.2.fired = false ∧ Entries onAlarm w s.memory.2.fired s)
      (Timer.counter_leaves hw.spares)
      (fun s t hc h => ⟨(concerns_fired hc).trans h.1, entries_congr hc h.2⟩)
      (hw.counter notify none w.own)).mono
      (fun s h => ⟨⟨h.1, h.2.entries⟩, ((kept_iff htarget).mp h.2).2⟩)
      (fun now s h => ⟨⟨h.1.1, kept_of_entries w htarget ⟨h.1.2, h.2.1⟩⟩, h.2.2.1⟩) fun _ h => h
  refine Triple.bind counting fun now => ?_
  by_cases hp : ticksUntil target now ≤ 0
  · rw [if_pos hp]
    exact triple_pure _ fun s h => ⟨rfl, h.1.2, now, h.2, hp⟩
  · rw [if_neg hp]
    refine Triple.map _ ((ensures_armOwn hw hi htarget target).of_imp fun _ h => h.1) ?_
    exact fun _ _ h => h

/-! ## Waking up -/

/-- Only the handler of the delay raises the flag. -/
theorem keeps_fired (fired : Bool) : (onPort port notify).Indifferent
    (fun s => s.memory.2.fired = fired) fun _ => True where
  modifySlot _ _ := triple_modifySlot fun _ h => h
  readChannel i := spared (hw.spares.readChannel i)
  writeChannel i bits := spared (hw.spares.writeChannel i bits)
  writeCompare i count := spared (hw.spares.writeCompare i count)
  counter := spared (Timer.counter_leaves hw.spares)
where
  spared {α : Type} {run : Run (Bedroom R H M) α} (h : run.Leaves concerns) :
      Keeps (fun s => s.memory.2.fired = fired) (fun _ => True) run :=
    h.keeps_of_congr (fun _ _ hc h => (concerns_fired hc).trans h) fun _ _ => trivial

/-- The alarm is at rest, and if it fired then the count has reached the target. -/
structure Awake (fit : Option UInt32 → Option (Fin maxChannels) → Bedroom R H M → Prop)
    (onAlarm : H) (w : Watch) (target : UInt32) (s : Bedroom R H M) : Prop where
  entries : Entries onAlarm { w with target := none } s.memory.2.fired s
  hardware : fit (if s.memory.2.fired then some target else none) w.own s

theorem Awake.kept {target : UInt32} (h : Awake fit onAlarm w target s) :
    Kept fit onAlarm { w with target := none } s :=
  kept_of_entries { w with target := none } rfl ⟨h.entries, hw.unreached _ _ _ h.hardware⟩

theorem ensures_left (target : UInt32) :
    Ensures (Awake fit onAlarm w target) (onPort port notify).counter
      fun now s => Awake fit onAlarm w target s ∧ counted now s := by
  intro patience s h
  refine (ensures_beside (C := fun t => t.memory.2.fired = s.memory.2.fired ∧
    Entries onAlarm { w with target := none } s.memory.2.fired t) (Timer.counter_leaves hw.spares)
    (fun _ _ hc ht => ⟨(concerns_fired hc).trans ht.1, ht.2.congr hc⟩)
    (hw.counter notify (if s.memory.2.fired then some target else none) w.own)).weaken ?_
    patience s ⟨⟨rfl, h.entries⟩, h.hardware⟩
  intro now t ⟨⟨hfired, hentries⟩, hfit, hcounted, _⟩
  rw [← hfired] at hentries hfit
  exact ⟨⟨hentries, hfit⟩, hcounted⟩

/-- Unless the alarm has fired it is withdrawn. -/
theorem ensures_withdrawn {target : UInt32} (hi : w.own = some i) (htarget : w.target = some target)
    {α : Type} {next : Run (Bedroom R H M) α} {Q : α → Bedroom R H M → Prop}
    (hnext : Ensures (Awake fit onAlarm w target) next Q) :
    Ensures (Kept fit onAlarm w) (do
      unless ← firedCell.read do
        let _ ← Alarm.cancel ⟨i⟩ (onPort port notify)
      next) Q := by
  refine Triple.bind (Q := fun fired s => s.memory.2.fired = fired ∧ Kept fit onAlarm w s)
    (fun _ _ h => ⟨rfl, h⟩) fun fired => ?_
  cases fired with
  | true =>
    refine hnext.of_imp fun s h => ?_
    obtain ⟨hfired, hentries, hfit⟩ := h
    rw [hfired] at hentries hfit
    constructor
    · rw [hfired]
      refine ⟨hentries.clock, hentries.events, hentries.alone, hentries.unchained, fun j hj => ?_⟩
      have hslot := hentries.slot j hj
      exact ⟨hslot.handler, hslot.enabled, by rw [hslot.armed, Bool.not_true, Bool.and_false,
        Bool.and_false], fun _ he => by cases he⟩
    · rw [hfired, if_pos rfl]
      rw [Watch.reached, if_pos rfl, htarget, Watch.muted, Bool.not_true, Bool.and_false,
        if_neg (by decide)] at hfit
      exact hfit
  | false =>
    refine Triple.bind (Triple.and (keeps_fired hw false |>.cancel ⟨i⟩)
      (ensures_withdraw hw hi)) fun _ => ?_
    refine hnext.of_imp fun s h => ?_
    obtain ⟨hfired, hkept⟩ := h
    obtain ⟨hentries, hfit⟩ := (kept_iff rfl).mp hkept
    refine ⟨hentries, ?_⟩
    rw [hfired, if_neg (by decide)]
    exact hfit

/-! ## Sleeping -/

section Sleep

variable [DecidableEq H]
variable {cpu : Cpu (Bedroom R H M)} {other : ∀ α : Type, Run (Bedroom R H M) α → Prop}
variable {code : Notify (Bedroom R H M) H → Notify (Bedroom R H M) H}
variable {activity : LowPowerMode → Run (Bedroom R H M) Unit}
variable (hother : ∀ α run, other α run → Harmless fit run)
variable (hsurroundings : Surroundings port onAlarm other code activity)

omit hw [DecidableEq H] in
theorem Entries.record {fired : Bool} (h : Entries onAlarm w fired s) {event : SleepEvent}
    (he : event.ofSleeper = true) : Entries onAlarm (w.seen event) fired
      (eventsCell.set (event :: s.memory.2.events) s) where
  clock := h.clock
  events := (List.filter_cons_of_pos he).trans (congrArg _ h.events)
  alone := h.alone
  unchained := h.unchained
  slot i hi := ⟨(h.slot i hi).handler, (h.slot i hi).enabled, (h.slot i hi).armed,
    (h.slot i hi).setting⟩

include hother hsurroundings

/-- What goes on beside the sleeper keeps what it knows. -/
theorem keeps_beside (hcoherent : w.Coherent) {α : Type} {run : Run (Bedroom R H M) α}
    (hrun : Built (Activity (onPort port (.ofCode (withDelay onAlarm code))) onAlarm other) run) :
    Ensures (Kept fit onAlarm w) run fun _ => Kept fit onAlarm w :=
  keeps_built (fun _ _ => ensures_activity hw hcoherent hother
    (heeds_withDelay hw hcoherent hother hsurroundings.handlers)) hrun

theorem ensures_slept (hcoherent : w.Coherent) (mode : LowPowerMode) :
    Ensures (Ahead fit onAlarm w) ((bedsideCpu cpu activity).sleep mode)
      fun _ => Kept fit onAlarm ((w.seen (.slept mode)).seen .woke) := by
  refine Triple.bind (Q := fun _ => Kept fit onAlarm (w.seen (.slept mode)))
    (triple_update fun s ⟨hfired, h⟩ => ⟨h.entries.record rfl, ?_⟩) fun _ => ?_
  · change fit (w.reached s.memory.2.fired) (w.muted s.memory.2.fired)
      (eventsCell.set (.slept mode :: s.memory.2.events) s)
    have hfit := h.hardware
    rw [hfired] at hfit ⊢
    exact hw.slept _ s mode hfit
  refine Triple.bind (keeps_beside hw hother hsurroundings (hcoherent.seen _)
    (hsurroundings.sleeping mode)) fun _ => ?_
  exact triple_update fun s h => ⟨h.entries.record rfl, hw.woke _ _ s h.hardware⟩

omit hw hother hsurroundings [DecidableEq H] in
variable (counted fit onAlarm) in
/-- How a sleep may end. -/
def Slept (u : Uptime) (events : List SleepEvent) (target : UInt32) (mode : LowPowerMode)
    (answer : Except SleepError Int32) (s : Bedroom R H M) : Prop :=
  match answer with
  | .ok left => u.flags.registered = true ∧
      Kept fit onAlarm (.between u u.delay (.woke :: .slept mode :: events)) s ∧
      (∃ now, left = ticksUntil target now ∧ counted now s) ∧
      (s.memory.2.fired = true → fit (some target) u.channel s)
  | .error .notRegistered => u.flags.registered = false ∧
      Kept fit onAlarm (.between u u.delay events) s
  | .error (.arm why) => u.flags.registered = true ∧ why = .past ∧
      Kept fit onAlarm (.between u u.delay events) s ∧
      ∃ now, counted now s ∧ ticksUntil target now ≤ 0

omit hother hsurroundings [DecidableEq H] in
theorem Kept.lower (htarget : w.target = none) (h : Kept fit onAlarm w s) :
    Ahead fit onAlarm w (firedCell.set false s) := by
  obtain ⟨hentries, hfit⟩ := (kept_iff htarget).mp h
  refine ⟨rfl, kept_of_entries w htarget ⟨?_, hw.fired _ _ s false hfit⟩⟩
  refine ⟨hentries.clock, hentries.events, hentries.alone, hentries.unchained, fun i hi => ?_⟩
  have hslot := hentries.slot i hi
  refine ⟨hslot.handler, hslot.enabled, ?_, hslot.setting⟩
  rw [show ((firedCell.set false s).shared.slot i).armed = _ from hslot.armed, htarget]
  rfl

theorem ensures_sleepUntil (u : Uptime) (events : List SleepEvent) (target : UInt32)
    (mode : LowPowerMode) :
    Ensures (Kept fit onAlarm (.between u u.delay events))
      (u.sleepUntil (bedsideParts port cpu onAlarm code activity) target mode).run
      (Slept counted fit onAlarm u events target mode) := by
  cases registered : u.flags.registered with
  | false =>
    rw [Uptime.run_sleepUntil_unregistered registered]
    exact triple_pure _ fun s h => ⟨registered, h⟩
  | true =>
    obtain ⟨d, hd, hr⟩ : ∃ d, u.delay = some d ∧ d.flags.registered = true := by
      unfold Uptime.flags at registered
      cases hd : u.delay with
      | none => rw [hd] at registered; cases registered
      | some d => exact ⟨d, rfl, by rw [hd] at registered; exact registered⟩
    have channel : u.channel = some d.alarm.channel := by rw [Uptime.channel, hd]; rfl
    rw [Uptime.run_sleepUntil, hd, show (some d).filter (·.flags.registered) = some d by simp [hr]]
    refine Triple.bind (Q := fun _ => Ahead fit onAlarm (.between u (some d) events))
      (fun _ s h => h.lower hw rfl) fun _ => ?_
    refine Triple.bind (ensures_setOwn hw (i := d.alarm.channel) rfl hr rfl target)
      fun answer => ?_
    cases answer with
    | error why =>
      exact triple_pure _ fun s ⟨hwhy, h, hpast⟩ => ⟨registered, hwhy, by rwa [hd], hpast⟩
    | ok _ =>
      refine Triple.bind (ensures_slept hw hother hsurroundings ⟨channel.symm, fun _ => hr⟩ mode)
        fun _ => ?_
      refine ensures_withdrawn hw (i := d.alarm.channel) rfl rfl ?_
      refine Triple.bind (ensures_left hw target) fun now => triple_pure _ fun s ⟨h, hnow⟩ => ?_
      refine ⟨registered, ?_, ⟨now, rfl, hnow⟩, fun hfired => ?_⟩
      · rw [hd]
        exact h.kept hw
      · have hfit := h.hardware
        rw [hfired, if_pos rfl] at hfit
        rw [channel]
        exact hfit

/-! ## Delays -/

theorem ensures_asking (hcoherent : w.Coherent) {exit : Run (Bedroom R H M) Bool}
    (hexit : Built (Activity (onPort port (.ofCode (withDelay onAlarm code))) onAlarm other) exit) :
    Ensures (Kept fit onAlarm w) (asking exit)
      fun answer => Kept fit onAlarm (w.seen (.asked answer)) := by
  refine Triple.bind (keeps_beside hw hother hsurroundings hcoherent hexit) fun answer => ?_
  refine Triple.bind (Q := fun _ => Kept fit onAlarm (w.seen (.asked answer)))
    (triple_update fun s h => ?_) fun _ => triple_pure _ fun _ h => h
  exact ⟨h.entries.record rfl, hw.asked _ _ s answer h.hardware⟩

theorem ensures_delayUntil (u : Uptime) (events : List SleepEvent) (target : UInt32)
    (mode : LowPowerMode) {exit : Run (Bedroom R H M) Bool}
    (hexit : Built (Activity (onPort port (.ofCode (withDelay onAlarm code))) onAlarm other) exit) :
    Ensures (Kept fit onAlarm (.between u u.delay events))
      (u.delayUntil (bedsideParts port cpu onAlarm code activity) target mode (asking exit))
      fun answer s => ∃ after, Kept fit onAlarm (.between u u.delay after) s ∧
        DelayEnds mode (∃ now, counted now s ∧ ticksUntil target now ≤ 0) events answer after := by
  -- what `n` rounds lead to; a delay that slept once is registered
  refine Triple.of_imp (triple_loop (J := fun _ s => ∃ n, (0 < n → u.flags.registered = true) ∧
    Kept fit onAlarm (.between u u.delay (rounds mode n ++ events)) s) (fun _ _ _ => trivial)
    (fun _ => ?_) ()) fun s h => ⟨0, fun hn => absurd hn (Nat.lt_irrefl 0), h⟩
  intro patience s ⟨n, hn, h⟩
  refine Triple.bind (ensures_asking hw hother hsurroundings ⟨rfl, fun h => by cases h⟩ hexit)
    (fun answer => ?_) patience s h
  cases answer with
  | true => exact triple_pure _ fun s h => ⟨_, h, .exited n⟩
  | false =>
    refine Triple.bind (ensures_sleepUntil hw hother hsurroundings u
      (.asked false :: (rounds mode n ++ events)) target mode) fun answer => ?_
    cases answer with
    | ok left =>
      by_cases hleft : left > 0
      · refine triple_pure _ fun s ⟨hregistered, h, _⟩ => ?_
        rw [if_pos hleft]
        exact ⟨n + 1, fun _ => hregistered, h⟩
      · refine triple_pure _ fun s ⟨_, h, ⟨now, hnow, hcounted⟩, _⟩ => ?_
        rw [if_neg hleft]
        exact ⟨_, h, .awake n ⟨now, hcounted, hnow ▸ Int32.not_lt.mp hleft⟩⟩
    | error why =>
      cases why with
      | notRegistered =>
        refine triple_pure _ fun s ⟨hregistered, h⟩ => ?_
        obtain rfl : n = 0 := by
          rcases Nat.eq_zero_or_pos n with hz | hpos
          · exact hz
          · exact absurd (hn hpos) (by rw [hregistered]; decide)
        exact ⟨_, h, .notRegistered⟩
      | arm why =>
        intro patience s ⟨_, hwhy, h, hpast⟩
        rw [hwhy]
        exact ⟨_, h, .past n hpast⟩

/-! ## Programs -/

omit hw hother hsurroundings [DecidableEq H] in
theorem Slept.rested {u : Uptime} {events : List SleepEvent} {target : UInt32}
    {mode : LowPowerMode} {answer : Except SleepError Int32}
    (h : Slept counted fit onAlarm u events target mode answer s) (hu : u.Sound) :
    Rested fit onAlarm s := by
  cases answer with
  | ok left => exact .of_kept h.2.1 hu
  | error why =>
    cases why with
    | notRegistered => exact .of_kept h.2 hu
    | arm why => exact .of_kept h.2.2.1 hu

theorem rested_clockUse {α : Type} {run : Run (Bedroom R H M) α}
    (hrun : ClockUse (bedsideParts port cpu onAlarm code activity) other α run) :
    Ensures (Rested fit onAlarm) run fun _ => Rested fit onAlarm := by
  cases hrun with
  | suspend => exact rested_suspendClock hw rfl
  | resume rates hr =>
    exact rested_resumeClock hw rfl
      ⟨hother _ _ hr.aclk, hother _ _ hr.smclk, hother _ _ hr.mclk⟩
  | switchDelay on => exact rested_switchDelay hw rfl on
  | sleep target mode =>
    exact fun patience s hs => Triple.weaken (ensures_sleepUntil hw hother hsurroundings
      s.memory.1 s.sleeperEvents target mode) (fun _ _ h => h.rested hs.sound) patience s hs.kept
  | delay target mode exit hexit =>
    exact fun patience s hs => Triple.weaken (ensures_delayUntil hw hother hsurroundings
      s.memory.1 s.sleeperEvents target mode hexit)
      (fun _ _ ⟨_, h, _⟩ => .of_kept h hs.sound) patience s hs.kept
  | beside run hrun =>
    exact fun patience s hs => Triple.weaken (keeps_beside hw hother hsurroundings
      (w := .between s.memory.1 s.memory.1.delay s.sleeperEvents) ⟨rfl, fun h => by cases h⟩
      (.step hrun)) (fun _ _ h => .of_kept h hs.sound) patience s hs.kept

/-- Where a program comes to that starts the clock, the alarm is at rest. -/
theorem rested_program {rates : Rates (Bedroom R H M)} (hr : RatesAmong other rates)
    (plan : UptimePlan) {α : Type} {program : Run (Bedroom R H M) α}
    (hprogram : Built (ClockUse (bedsideParts port cpu onAlarm code activity) other) program) :
    Ensures (fun s => Spare onAlarm s ∧ fit none none s) (do
      startClock (bedsideParts port cpu onAlarm code activity) plan rates
      program) fun _ => Rested fit onAlarm := by
  have handler : (bedsideParts port cpu onAlarm code activity).onAlarm = onAlarm := rfl
  refine Triple.bind (rested_startClock hw rfl handler
    ⟨hother _ _ hr.aclk, hother _ _ hr.smclk, hother _ _ hr.mclk⟩ plan) fun _ => ?_
  exact keeps_built (fun _ _ => rested_clockUse hw hother hsurroundings) hprogram

end Sleep

end Scene

end Msp430
