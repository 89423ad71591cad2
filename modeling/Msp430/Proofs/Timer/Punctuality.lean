import Msp430.Proofs.Timer.Alert

/-!
Alarms fire at their time. If the timer runs from event to event and serves what comes up, an
alarm's handler is called when the count has come to the setting, neither a tick later nor a round
earlier, and once.
-/
namespace Msp430

/-! ## What a journal tells of one alarm -/

/-- An alarm since it was last set. -/
structure Course where
  setting : UInt32
  /-- Ticks from then to the setting. -/
  ahead : Nat
  /-- Ticks that have passed since. -/
  passed : Nat
  calls : Nat

/-- The course of a channel's alarm, if it was ever set, when the count was `first` at the start. -/
def course (first : UInt32) (channel : Nat) : List Moment → Option Course
  | [] => none
  | .armed i setting :: earlier =>
    if i = channel then
      some ⟨setting, (setting - (first + (elapsed earlier).toUInt32)).toNat, 0, 0⟩
    else course first channel earlier
  | .passed ticks :: earlier =>
    (course first channel earlier).map fun k => { k with passed := k.passed + ticks }
  | .called i _ :: earlier =>
    if i = channel then
      (course first channel earlier).map fun k => { k with calls := k.calls + 1 }
    else course first channel earlier
  | .counted _ :: earlier => course first channel earlier
  | .withdrawn _ :: earlier => course first channel earlier

namespace Scene

open Run

variable {H M : Type} {c : Nat} {clock : M → ClockModule}
variable {s s' : Scene (SimTimer c) H M} {i j : Fin maxChannels} {first : UInt32}

/-! ## Invariant -/

/-- What does not depend on the alarm. The count has moved by what has passed. -/
structure Clocked (first : UInt32) (s : Scene (SimTimer c) H M) : Prop where
  quiet : s.registers.Quiet
  drift : s.registers.drift = 0
  enabled : anyBits TimerControl.overflowEnable s.registers.control = true
  now : s.now = first + (elapsed s.journal).toUInt32

/-- An alarm that is armed has the rest of its way before it; one that is not has been called on
arrival. -/
def Under (i : Fin maxChannels) (s : Scene (SimTimer c) H M) : Option Course → Prop
  | none => (s.shared.slot i).armed = false
  | some k =>
    ((s.shared.slot i).armed = true ∧ (s.shared.slot i).setting = k.setting ∧ k.calls = 0 ∧
      k.passed + (k.setting - s.now).toNat = k.ahead ∧ k.ahead < 2147483648) ∨
    ((s.shared.slot i).armed = false ∧ k.calls = 1 ∧ k.ahead ≤ k.passed)

/-- Every call came when the count was at the setting, for the first time since the alarm was set.
-/
abbrev OnTime (first : UInt32) (channel : Nat) : List Moment → Prop :=
  Throughout fun moment earlier => ∀ now, moment = .called channel now →
    ∃ ticks, course first channel earlier = some ⟨now, ticks, ticks, 0⟩

/-- The alarm of the channel, with the flag of its channel left out. -/
structure Tracked (first : UInt32) (i : Fin maxChannels) (s : Scene (SimTimer c) H M) : Prop
    extends Clocked first s where
  claimed : (s.shared.slot i).handler.isSome = true
  onTime : OnTime first i s.journal
  under : Under i s (course first i s.journal)

structure Punctual (first : UInt32) (i : Fin maxChannels) (s : Scene (SimTimer c) H M) : Prop
    extends Tracked first i s where
  alert : Alert i s

structure Firing (first : UInt32) (i : Fin maxChannels) (s : Scene (SimTimer c) H M) : Prop
    extends Clocked first s where
  claimed : (s.shared.slot i).handler.isSome = true
  onTime : OnTime first i s.journal
  idle : (s.shared.slot i).armed = false
  arrived : ∃ ticks, course first i s.journal = some ⟨s.now, ticks, ticks, 0⟩

/-! ## Changes that do not concern the alarm -/

theorem Clocked.onlyAt (h : Clocked first s) (ho : OnlyAt j s s')
    (hjournal : s'.journal = s.journal) : Clocked first s' where
  quiet := ho.quiet h.quiet
  drift := (SimTimer.eq_of_core ho.core SimTimer.drift).trans h.drift
  enabled := (SimTimer.eq_of_core ho.core fun t =>
    anyBits TimerControl.overflowEnable t.control).trans h.enabled
  now := by rw [ho.now, hjournal, h.now]

theorem Tracked.congr (h : Tracked first i s) (hc : Clocked first s')
    (hslot : s'.shared.slot i = s.shared.slot i) (hnow : s'.now = s.now)
    (hjournal : s'.journal = s.journal) : Tracked first i s' where
  toClocked := hc
  claimed := by rw [hslot]; exact h.claimed
  onTime := by rw [hjournal]; exact h.onTime
  under := by
    have hu := h.under
    rw [hjournal]
    unfold Under at hu ⊢
    rw [hslot, hnow]
    exact hu

theorem Tracked.onlyAt (h : Tracked first i s) (ho : OnlyAt j s s')
    (hslot : s'.shared.slot i = s.shared.slot i) (hjournal : s'.journal = s.journal) :
    Tracked first i s' :=
  h.congr (h.toClocked.onlyAt ho hjournal) hslot ho.now hjournal

theorem Punctual.onlyAt_other (h : Punctual first i s) (ho : OnlyAt j s s') (hj : j ≠ i)
    (hjournal : s'.journal = s.journal) : Punctual first i s' where
  toTracked := h.toTracked.onlyAt ho (ho.slots i hj) hjournal
  alert := ho.alert hj h.alert

theorem Punctual.enter (h : Punctual first i s) {moment : Moment}
    (hcourse : course first i (moment :: s.journal) = course first i s.journal)
    (helapsed : elapsed (moment :: s.journal) = elapsed s.journal)
    (hm : ∀ now, moment ≠ .called i now) :
    Punctual first i { s with journal := moment :: s.journal } where
  quiet := h.quiet
  drift := h.drift
  enabled := h.enabled
  now := by rw [helapsed]; exact h.now
  claimed := h.claimed
  onTime := h.onTime.cons fun now he => absurd he (hm now)
  under := by rw [hcourse]; exact h.under
  alert := h.alert

/-! ## Setting an alarm -/

theorem onlyAt_arm_still (clock : M → ClockModule) (hd : s.registers.drift = 0)
    (i : Fin maxChannels) (setting : UInt32) : OnlyAt i s (s.arm clock i setting) := by
  have h := onlyAt_arm clock i setting s
  rw [hd, SimTimer.shift_zero] at h
  exact h

theorem journal_arm (clock : M → ClockModule) (i : Fin maxChannels) (setting : UInt32)
    (s : Scene (SimTimer c) H M) : (s.arm clock i setting).journal = s.journal := by
  unfold arm
  dsimp only
  split <;> rfl

theorem Punctual.set (h : Punctual first i s) (hi : i < c) {setting : UInt32}
    (haccepts : s.Accepts i setting) :
    Punctual first i { s.arm clock i setting with
      journal := .armed i setting :: (s.arm clock i setting).journal } := by
  have ho := onlyAt_arm_still clock h.drift i setting
  have hc := h.toClocked.onlyAt ho (journal_arm ..)
  have hslot := slot_arm clock i setting s
  have hahead := ((ticksUntil_pos_iff ..).mp haccepts.2.2).2
  exact {
    quiet := hc.quiet
    drift := hc.drift
    enabled := hc.enabled
    now := hc.now
    claimed := by dsimp only; rw [hslot]; exact h.claimed
    onTime := by rw [journal_arm]; exact h.onTime.cons fun _ he => by cases he
    under := by
      rw [journal_arm, course, if_pos rfl, ← h.now]
      refine .inl ⟨?_, ?_, rfl, ?_, hahead⟩
      · dsimp only; rw [hslot]
      · dsimp only; rw [hslot]
      · change 0 + (setting - (s.arm clock i setting).now).toNat = _
        rw [ho.now, Nat.zero_add]
    alert := alert_arm clock hi setting haccepts.1 }

/-! ## Firing -/

theorem Tracked.firing (h : Tracked first i s) (ha : (s.shared.slot i).armed = true)
    (hd : ¬ 0 < ticksUntil (s.shared.slot i).setting s.now) (clock : M → ClockModule) :
    Firing first i (s.fire clock i) := by
  have ho := onlyAt_fire clock i s
  have hc := h.toClocked.onlyAt ho rfl
  refine { toClocked := hc, claimed := ?_, onTime := h.onTime, idle := ?_, arrived := ?_ }
  · rw [slot_fire]
    exact h.claimed
  · rw [slot_fire]
  · rw [show (s.fire clock i).journal = s.journal from rfl, ho.now]
    have hu := h.under
    cases hk : course first i s.journal with
    | none =>
      rw [hk] at hu
      exact absurd (hu.symm.trans ha) (by decide)
    | some k =>
      rw [hk] at hu
      rcases hu with ⟨-, hsetting, hcalls, hahead, hhalf⟩ | ⟨hidle, -⟩
      · -- less than half a round was left and none is ahead now, so the count is at the setting
        rw [hsetting, ticksUntil_pos_iff] at hd
        have hzero : (k.setting - s.now).toNat = 0 := by omega
        have hnow : k.setting = s.now := by
          have := UInt32.toNat_inj.mp (hzero.trans UInt32.toNat_zero.symm)
          rw [← UInt32.sub_add_cancel k.setting s.now, this, UInt32.zero_add]
        refine ⟨k.ahead, ?_⟩
        obtain ⟨setting, ahead, passed, calls⟩ := k
        simp only at hcalls hahead hzero hnow
        rw [hcalls, hnow, ← hahead, hzero, Nat.add_zero]
      · exact absurd (hidle.symm.trans ha) (by decide)

theorem Firing.called (h : Firing first i s) :
    Punctual first i { s with journal := .called i s.now :: s.journal } := by
  obtain ⟨ticks, harrived⟩ := h.arrived
  exact {
    quiet := h.quiet
    drift := h.drift
    enabled := h.enabled
    now := h.now
    claimed := h.claimed
    onTime := h.onTime.cons fun now he => by
      cases he
      exact ⟨ticks, harrived⟩
    under := by
      rw [course, if_pos rfl, harrived]
      exact .inr ⟨h.idle, rfl, Nat.le_refl _⟩
    alert := alert_of_idle h.idle }

theorem Punctual.of_clockwork (h : Punctual first i s) (hv : s'.clockwork = s.clockwork)
    (hjournal : s'.journal = s.journal) : Punctual first i s' := by
  have hr := registers_of_clockwork hv
  have hn := now_of_clockwork hv
  refine ⟨h.toTracked.congr ?_ (slot_of_clockwork hv i) hn hjournal, h.alert.of_clockwork hv⟩
  exact ⟨hr ▸ h.quiet, hr ▸ h.drift, hr ▸ h.enabled, by rw [hn, hjournal]; exact h.now⟩

/-! ## Time -/

def runToEvent : Run (Scene (SimTimer c) H M) Unit := do
  enter (.passed (← registersCell.read).ticksToEvent)
  registersCell.update (·.advanceToEvent)

theorem Alert.ticksToEvent_le (h : Alert i s) (ha : (s.shared.slot i).armed = true) :
    s.registers.ticksToEvent ≤ ((s.shared.slot i).setting - s.now).toNat := by
  obtain ⟨-, channel, hi, hw, hflag⟩ := h ha
  rcases s.registers.ticksToEvent_cases with hz | ⟨hidle, hu⟩
  · rw [hz]
    exact Nat.zero_le _
  · have hquiet := (SimTimer.not_requested_of_idle hidle).1 i
    rw [SimTimer.requested_of_channel hi, SimChannel.requested, hw.enabled, Bool.true_and] at hquiet
    have hahead : 0 < ticksUntil (s.shared.slot i).setting s.now := by
      apply Int32.not_le.mp
      intro hr
      rw [hflag hr] at hquiet
      cases hquiet
    rw [hu]
    refine Nat.le_trans (SimTimer.untilEvent_le_distance hi hw.enabled hw.comparing) ?_
    exact hw.distance_le (SimTimer.count_toNat ..) ((ticksUntil_pos_iff ..).mp hahead).1

/-- The timer stops at every setting and at every wrap that is not served. -/
theorem Punctual.runToEvent (h : Punctual first i s) :
    Punctual first i { s with
      registers := s.registers.advanceToEvent
      journal := .passed s.registers.ticksToEvent :: s.journal } := by
  have hc := s.registers.countable_ticksToEvent h.enabled
  have hstop := h.alert.ticksToEvent_le
  have halert := h.alert.advance hc
  rw [SimTimer.advanceToEvent_eq]
  generalize s.registers.ticksToEvent = ticks at hc hstop halert
  have hnow : now { s with
      registers := s.registers.advance ticks
      journal := .passed ticks :: s.journal } = s.now + ticks.toUInt32 :=
    SimTimer.extended_advance_add _ hc
  exact {
    quiet := SimTimer.advance_quiet _ h.quiet
    drift := (SimTimer.advance_drift ..).trans h.drift
    enabled := (s.registers.advance_anyBits (by decide) ticks).trans h.enabled
    now := by
      refine hnow.trans ?_
      rw [h.now, UInt32.add_assoc]
      exact congrArg (first + ·) (UInt32.ofNat_add ..).symm
    claimed := h.claimed
    onTime := h.onTime.cons fun _ he => by cases he
    under := by
      have hu := h.under
      rw [course]
      cases hk : course first i s.journal with
      | none =>
        rw [hk] at hu
        exact hu
      | some k =>
        rw [hk] at hu
        rcases hu with ⟨harmed, hsetting, hcalls, hahead, hhalf⟩ | ⟨hidle, hcalls, hpast⟩
        · refine .inl ⟨harmed, hsetting, hcalls, ?_, hhalf⟩
          have hle := hstop harmed
          rw [hsetting] at hle
          rw [hnow, toNat_sub_passed hle]
          dsimp only
          omega
        · exact .inr ⟨hidle, hcalls, Nat.le_trans hpast (Nat.le_add_right ..)⟩
    alert := halert.of_clockwork rfl }

/-! ## Service -/

/-- All that the alarms and their journal depend on. -/
def timing (s : Scene (SimTimer c) H M) :
    (SimTimer c × Vector (AlarmSlot H) maxChannels × UInt16) × List Moment :=
  (s.clockwork, s.journal)

/-- Before the handler of an alarm runs, the count is read and entered. -/
def witnessed (clock : M → ClockModule) (code : Notify (Scene (SimTimer c) H M) H) :
    Notify (Scene (SimTimer c) H M) H
  | h, .alarm channel => do
    enter (.called channel (← (timer clock code).counter))
    code h (.alarm channel)
  | h, .overflow => code h .overflow

section Service

variable {code : Notify (Scene (SimTimer c) H M) H}

theorem keeps_aside {α : Type} {run : Run (Scene (SimTimer c) H M) α} (h : run.Leaves timing) :
    Keeps (Punctual first i) (Punctual first i) run :=
  h.keeps_of_congr
    (fun _ _ hv hp => hp.of_clockwork (congrArg (·.1) hv) (congrArg (·.2) hv)) fun _ hp => hp

/-- The alarm of channel `j` has been disarmed, which concerns us if it is ours. -/
def Taken (first : UInt32) (i j : Fin maxChannels) (s : Scene (SimTimer c) H M) : Prop :=
  if j = i then Firing first i s else Punctual first i s

/-- The flag of channel `j` has been cleared. -/
def Acknowledged (first : UInt32) (i j : Fin maxChannels) (s : Scene (SimTimer c) H M) : Prop :=
  if j = i then Tracked first i s ∧ Attended i s else Punctual first i s

theorem triple_witnessed (hcode : ∀ h event, (code h event).Leaves timing) (j : Fin maxChannels)
    (h : H) :
    Triple (Taken first i j) (witnessed clock code h (.alarm j)) (fun _ => Punctual first i)
      (Punctual first i) := by
  rw [witnessed]
  refine Triple.bind (triple_counter (P := Taken first i j) fun s hs => ?_) fun now => ?_
  · unfold Taken at hs
    split at hs
    · exact hs.quiet
    · exact hs.quiet
  refine Triple.bind (Q := fun _ => Punctual first i) ?_ fun _ => keeps_aside (hcode h _)
  refine triple_update fun s ⟨hs, hnow⟩ => ?_
  unfold Taken at hs
  split at hs
  · rename_i hj
    rw [hj, hnow]
    exact hs.called
  · rename_i hj
    have hne : ¬ j.val = i.val := fun he => hj (Fin.ext he)
    refine hs.enter (by rw [course, if_neg hne]) rfl fun _ he => ?_
    exact hne (Moment.called.inj he).1

theorem triple_takeDue_punctual (j : Fin maxChannels) :
    Triple (Acknowledged first i j) ((timer clock (witnessed clock code)).takeDue j)
      (fun due s => if due.isSome then Taken first i j s else Punctual first i s)
      (Punctual first i) := by
  apply triple_of_start
  intro patience s hs
  unfold Acknowledged at hs
  by_cases hj : j = i
  · rw [if_pos hj] at hs
    obtain ⟨ht, hattended⟩ := hs
    subst hj
    rw [start_takeDue ht.quiet]
    by_cases he : ((s.shared.slot j).enabled && (s.shared.slot j).armed) = true
    · rw [if_pos he]
      by_cases hd : 0 < ticksUntil (s.shared.slot j).setting s.now
      · rw [if_pos hd]
        exact ⟨_, _, rfl, ht, hattended.alert_of_early hd⟩
      · rw [if_neg hd]
        refine ⟨_, _, rfl, ?_⟩
        rw [Option.isSome_map, if_pos ht.claimed, Taken, if_pos rfl]
        exact ht.firing (Bool.and_eq_true_iff.mp he).2 hd clock
    · rw [if_neg he]
      refine ⟨_, _, rfl, ht.onlyAt (.changeChannel s j _ _) rfl rfl, alert_of_idle ?_⟩
      cases harmed : (s.shared.slot j).armed with
      | false => exact harmed
      | true => exact absurd (Bool.and_eq_true_iff.mpr ⟨(hattended harmed).1, harmed⟩) he
  · rw [if_neg hj] at hs
    have other (s' : Scene (SimTimer c) H M) (ho : OnlyAt j s s')
        (hjournal : s'.journal = s.journal) (due : Option (H × UInt32)) :
        if due.isSome then Taken first i j s' else Punctual first i s' := by
      rw [Taken, if_neg hj, ite_self]
      exact hs.onlyAt_other ho hj hjournal
    rw [start_takeDue hs.quiet]
    split
    · split
      · exact ⟨_, _, rfl, hs⟩
      · exact ⟨_, _, rfl, other _ (onlyAt_fire ..) rfl _⟩
    · exact ⟨_, _, rfl, hs.onlyAt_other (.changeChannel s j _ _) hj rfl⟩

theorem keeps_dispatchFirst_punctual (hcode : ∀ h event, (code h event).Leaves timing) :
    Keeps (Punctual first i) (Punctual first i)
      (timer clock (witnessed clock code)).dispatchFirst := by
  refine keeps_dispatchFirst (A := Acknowledged first i) (J := Taken first i) (fun s h => ?_)
    (triple_takeDue_punctual 0) fun h => triple_witnessed hcode 0 h
  unfold Acknowledged
  by_cases hj : 0 = i
  · rw [if_pos hj]
    subst hj
    exact ⟨h.toTracked.onlyAt (.changeChannel s 0 _ _) rfl rfl, h.alert.attended.clearFlag _⟩
  · rw [if_neg hj]
    exact h.onlyAt_other (.changeChannel s 0 _ _) hj rfl

theorem keeps_dispatchShared_punctual [DecidableEq H] (hc : c ≤ 5)
    (hcode : ∀ h event, (code h event).Leaves timing) :
    Keeps (Punctual first i) (Punctual first i)
      (timer clock (witnessed clock code)).dispatchShared := by
  refine keeps_dispatchShared (A := Acknowledged first i) (J := Taken first i) hc (fun _ h => h)
    (fun _ h => h.quiet) (fun j s h => ?_) triple_takeDue_punctual (triple_witnessed hcode)
    (fun s h hf => ?_) (fun s chain h => h.of_clockwork rfl rfl)
    fun h => keeps_aside (hcode h _)
  · unfold Acknowledged
    by_cases hj : j = i
    · rw [if_pos hj]
      subst hj
      exact ⟨h.toTracked.onlyAt (.modifyChannel s j _) rfl rfl,
        h.alert.attended.modifyChannel fun _ hw => hw.acknowledge⟩
    · rw [if_neg hj]
      exact h.onlyAt_other (.modifyChannel s j _) hj rfl
  · have hnow := now_acknowledge hf
    refine ⟨h.toTracked.congr ?_ rfl hnow rfl, h.alert.congr rfl rfl hnow⟩
    exact {
      quiet := ⟨h.quiet.readStep, h.quiet.countScript, h.quiet.vectorScript⟩
      drift := h.drift
      enabled := (anyBits_clear_other (by decide) _).trans h.enabled
      now := hnow.trans h.now }

theorem keeps_setNoting (a : Alarm) (ha : a.channel < c) (setting : UInt32) :
    Keeps (Punctual first i) (Punctual first i)
      (setNoting (timer clock (witnessed clock code)) a setting) := by
  apply triple_of_start
  intro patience s h
  rcases start_set h.quiet a ha setting patience with ⟨haccepts, hset⟩ | ⟨-, why, hset⟩
  · rw [setNoting, start_bind_ok hset]
    refine ⟨_, _, rfl, ?_⟩
    by_cases hi : a.channel = i
    · subst hi
      exact h.set ha haccepts
    · have ho := onlyAt_arm_still clock h.drift a.channel setting
      have hne : ¬ a.channel.val = i.val := fun he => hi (Fin.ext he)
      refine (h.onlyAt_other ho hi (journal_arm ..)).enter (by rw [course, if_neg hne]) rfl ?_
      exact fun _ he => by cases he
  · rw [setNoting, start_bind_ok hset]
    exact ⟨_, _, rfl, h⟩

variable [DecidableEq H]

/-- Serves requests as they come up, running to the next event before each. -/
def serveEvents (t : Timer (Scene (SimTimer c) H M) H)
    (note : IsrResult → Run (Scene (SimTimer c) H M) Unit) (most : Nat) :
    Run (Scene (SimTimer c) H M) Nat :=
  t.serveRequests runToEvent (return (← registersCell.read).pending) note most 0

/-- Alarms are set, and time passes only from event to event. Alarms exist only for channels that
the timer has. -/
inductive EventStep (t : Timer (Scene (SimTimer c) H M) H) :
    ∀ α : Type, Run (Scene (SimTimer c) H M) α → Prop
  | set (a : Alarm) (setting : UInt32) : a.channel < c → EventStep t _ (setNoting t a setting)
  | serve (note : IsrResult → Run (Scene (SimTimer c) H M) Unit) (most : Nat) :
      (∀ result, (note result).Leaves timing) → EventStep t _ (serveEvents t note most)
  | aside {α : Type} (run : Run (Scene (SimTimer c) H M) α) : run.Leaves timing →
      EventStep t α run

theorem keeps_eventStep (hc : c ≤ 5) (hcode : ∀ h event, (code h event).Leaves timing) {α : Type}
    {run : Run (Scene (SimTimer c) H M) α}
    (hrun : EventStep (timer clock (witnessed clock code)) α run) :
    Keeps (Punctual first i) (Punctual first i) run := by
  cases hrun with
  | set a setting ha => exact keeps_setNoting a ha setting
  | serve note most hnote =>
    refine Timer.keeps_serveRequests (fun _ s h => h.runToEvent) ?_ (fun r => keeps_aside (hnote r))
      (keeps_dispatchFirst_punctual hcode) (keeps_dispatchShared_punctual hc hcode) most 0
    exact fun _ _ h => h
  | aside run hrun => exact keeps_aside hrun

/-- Take a timer whose overflow interrupt is enabled, and handlers that leave timer and alarms
alone. Wherever a program ends that sets alarms and otherwise serves events: each call of an alarm's
handler came with the count at the setting, when just the ticks from setting the alarm to its
setting had passed, for the first time since then; and an alarm that was passed by has been called
once. -/
theorem alarms_punctual (hc : c ≤ 5) (hcode : ∀ h event, (code h event).Leaves timing) {α : Type}
    {program : Run (Scene (SimTimer c) H M) α}
    (hprogram : Built (EventStep (timer clock (witnessed clock code))) program) (patience : Nat)
    (hquiet : s.registers.Quiet) (hdrift : s.registers.drift = 0)
    (henabled : anyBits TimerControl.overflowEnable s.registers.control = true)
    (hjournal : s.journal = []) (i : Fin maxChannels)
    (hclaimed : (s.shared.slot i).handler.isSome = true)
    (hidle : (s.shared.slot i).armed = false) :
    (∀ later now earlier,
      (program.finish patience s).journal = later ++ .called i now :: earlier →
      ∃ ticks, course s.now i earlier = some ⟨now, ticks, ticks, 0⟩) ∧
    ∀ k, course s.now i (program.finish patience s).journal = some k → k.ahead < k.passed →
      k.calls = 1 := by
  have started : Punctual s.now i s := {
    quiet := hquiet
    drift := hdrift
    enabled := henabled
    now := by rw [hjournal]; exact (UInt32.add_zero s.now).symm
    claimed := hclaimed
    onTime := by rw [hjournal]; exact .nil
    under := by rw [hjournal]; exact hidle
    alert := alert_of_idle hidle }
  have kept : Keeps (Punctual s.now i) (Punctual s.now i) program :=
    keeps_built (fun _ _ => keeps_eventStep hc hcode) hprogram
  have ended : Punctual s.now i (program.finish patience s) := kept.finish (fun _ h => h) started
  constructor
  · intro later now earlier he
    exact ended.onTime later _ earlier he now rfl
  · intro k hk hpast
    have hu := ended.under
    rw [hk] at hu
    rcases hu with ⟨-, -, -, hahead, -⟩ | ⟨-, hcalls, -⟩
    · omega
    · exact hcalls

end Service

/-! ## An alarm in the second round of the count -/

def belated : SmallScene where
  registers := { control := TimerControl.continuous ||| TimerControl.overflowEnable }
  shared := { slots := (Vector.replicate _ {}).set 1 { handler := some (), enabled := true } }
  memory := {}

def waiting (t : Timer SmallScene Unit) : Run SmallScene Unit := do
  let _ ← setNoting t secondAlarm 70000
  let _ ← serveEvents t (fun _ => return ()) 2
  let _ ← serveEvents t (fun _ => return ()) 2

theorem built_waiting (t : Timer SmallScene Unit) : Built (EventStep t) (waiting t) := by
  refine .andThen (.step (.set secondAlarm 70000 (by decide))) fun _ => ?_
  refine .andThen (.step (.serve _ 2 fun _ => leaves_pure _ _)) fun _ => ?_
  exact .andThen (.step (.serve _ 2 fun _ => leaves_pure _ _)) fun _ => .done ()

def servingTimer : Timer SmallScene Unit := timer id (witnessed id fun _ _ => return .none)

theorem alarms_punctual_waiting :
    ((waiting servingTimer).finish 9 belated).journal = [.passed 61072, .called 1 70000,
        .passed 4464, .passed 61072, .passed 4464, .armed 1 70000] ∧
      (∃ ticks, course 0 1 [.passed 4464, .passed 61072, .passed 4464, .armed 1 70000] =
        some ⟨70000, ticks, ticks, 0⟩) ∧
      ∀ k, course 0 1 [.passed 61072, .called 1 70000, .passed 4464, .passed 61072, .passed 4464,
        .armed 1 70000] = some k → k.ahead < k.passed → k.calls = 1 := by
  have journal : ((waiting servingTimer).finish 9 belated).journal = [.passed 61072,
      .called 1 70000, .passed 4464, .passed 61072, .passed 4464, .armed 1 70000] := by
    decide +kernel
  have handlers (h : Unit) (event : TimerEvent) :
      Leaves timing (return .none : Run SmallScene IsrResult) := leaves_pure _ _
  have quiet : belated.registers.Quiet := ⟨rfl, rfl, rfl⟩
  obtain ⟨calls, past⟩ := alarms_punctual (by decide) handlers (built_waiting servingTimer) 9
    quiet rfl (by decide) rfl 1 (by decide) (by decide)
  rw [journal] at past
  exact ⟨journal, calls [.passed 61072] 70000 _ journal, past⟩

end Scene

end Msp430
