import Msp430.Proofs.Timer.Alert

/-!
No alarm is lost. Whatever is done with the alarms of a timer, however its interrupts are dispatched
and time passes, an alarm that is due has its interrupt pending.
-/
namespace Msp430.Scene

open Run

variable {H M : Type} {c : Nat} {clock : M → ClockModule}
variable {notify : Notify (Scene (SimTimer c) H M) H}
variable {s s' : Scene (SimTimer c) H M} {i j : Fin maxChannels}

/-! ## Invariant -/

structure Vigilant (s : Scene (SimTimer c) H M) : Prop where
  quiet : s.registers.Quiet
  alert : ∀ i, Alert i s

structure VigilantBut (i : Fin maxChannels) (s : Scene (SimTimer c) H M) : Prop where
  quiet : s.registers.Quiet
  alert : ∀ j, i ≠ j → Alert j s

theorem VigilantBut.vigilant (h : VigilantBut i s) (hi : Alert i s) : Vigilant s where
  quiet := h.quiet
  alert j := by
    by_cases hj : i = j
    · subst hj
      exact hi
    · exact h.alert j hj

theorem VigilantBut.onlyAt (h : VigilantBut i s) (ho : OnlyAt i s s') : VigilantBut i s' where
  quiet := ho.quiet h.quiet
  alert j hj := ho.alert hj (h.alert j hj)

theorem Vigilant.onlyAt (h : Vigilant s) (ho : OnlyAt i s s') : VigilantBut i s' :=
  VigilantBut.onlyAt ⟨h.quiet, fun j _ => h.alert j⟩ ho

/-- All alarms are alert, and the one of the channel because it is not armed. -/
structure Withdrawn (i : Fin maxChannels) (s : Scene (SimTimer c) H M) : Prop
    extends VigilantBut i s where
  idle : (s.shared.slot i).armed = false

theorem Withdrawn.vigilant (h : Withdrawn i s) : Vigilant s :=
  h.toVigilantBut.vigilant (alert_of_idle h.idle)

theorem Withdrawn.onlyAt (h : Withdrawn i s) (ho : OnlyAt i s s')
    (hi : (s'.shared.slot i).armed = true → (s.shared.slot i).armed = true) : Withdrawn i s' where
  toVigilantBut := h.toVigilantBut.onlyAt ho
  idle := by
    cases ha : (s'.shared.slot i).armed with
    | false => rfl
    | true => exact absurd (hi ha) (by rw [h.idle]; decide)

theorem vigilant_empty (hq : s.registers.Quiet) (h : s.shared = {}) : Vigilant s where
  quiet := hq
  alert i := by
    apply alert_of_idle
    rw [h]
    simp [TimerShared.slot]

theorem Vigilant.congr (h : Vigilant s) (hv : s'.clockwork = s.clockwork) : Vigilant s' where
  quiet := registers_of_clockwork hv ▸ h.quiet
  alert i := (h.alert i).of_clockwork hv

/-! ## Steps -/

/-- A write to the compare register moves the count to no setting that lies ahead and past no more
than one wrap. To reach a setting counts as passing it, as it does where alarms are set. -/
def DriftsClear (i : Fin maxChannels) (setting : UInt32) (s : Scene (SimTimer c) H M) : Prop :=
  s.Accepts i setting → s.registers.Countable s.registers.drift.toNat ∧
    ∀ j, i ≠ j → (s.shared.slot j).armed = true →
      0 < ticksUntil (s.shared.slot j).setting s.now →
      s.registers.drift.toNat < ((s.shared.slot j).setting - s.now).toNat

instance (i : Fin maxChannels) (setting : UInt32) (s : Scene (SimTimer c) H M) :
    Decidable (s.DriftsClear i setting) := inferInstanceAs (Decidable (_ → _ ∧ ∀ _, _))

namespace Vigilant

variable {E : Scene (SimTimer c) H M → Prop}

theorem keeps_changeChannel (i : Fin maxChannels) (f : UInt16 → UInt16) :
    Keeps (Withdrawn i) E ((timer clock notify).port.changeChannel i f) :=
  triple_of_start fun _ s h =>
    ⟨(), _, rfl, h.onlyAt (.changeChannel s i (clock s.memory) f) fun ha => ha⟩

theorem keeps_modifySlot (i : Fin maxChannels) {f : AlarmSlot H → AlarmSlot H}
    (hf : ∀ slot, (f slot).armed = true → slot.armed = true) :
    Keeps (Withdrawn i) E ((timer clock notify).modifySlot i f) := by
  refine triple_modifySlot fun s h => h.onlyAt (.modifySlot s i f) fun ha => ?_
  rw [TimerShared.slot_modifySlot_self] at ha
  exact hf _ ha

theorem triple_disarm (i : Fin maxChannels) {f : AlarmSlot H → AlarmSlot H}
    (hf : ∀ slot, (f slot).armed = false) :
    Triple Vigilant ((timer clock notify).modifySlot i f) (fun _ => Withdrawn i) E := by
  refine triple_modifySlot fun s h => ⟨h.onlyAt (.modifySlot s i f), ?_⟩
  rw [TimerShared.slot_modifySlot_self]
  exact hf _

theorem triple_cancel (a : Alarm) :
    Triple Vigilant (a.cancel (timer clock notify)) (fun _ => Withdrawn a.channel) E := by
  refine Triple.bind (Q := fun _ => Vigilant) ?_ fun armed => ?_
  · exact triple_of_start fun _ s h => ⟨(s.shared.slot a.channel).armed, s, rfl, h⟩
  refine (triple_disarm a.channel fun _ => rfl).bind fun _ => ?_
  refine (keeps_changeChannel a.channel _).bind fun _ => ?_
  exact (keeps_changeChannel a.channel _).bind fun _ => keeps_pure _

theorem triple_disable (a : Alarm) :
    Triple Vigilant (a.setEnabled (timer clock notify) false)
      (fun _ => Withdrawn a.channel) E := by
  refine Triple.bind (Q := fun _ => Withdrawn a.channel) ?_ fun _ => ?_
  · exact (triple_cancel a).map _ fun _ _ h => h
  · exact keeps_modifySlot a.channel fun _ ha => ha

theorem triple_release (a : Alarm) :
    Triple Vigilant (a.release (timer clock notify)) (fun _ => Withdrawn a.channel) E := by
  refine (triple_disable a).bind fun _ => ?_
  exact keeps_modifySlot a.channel fun _ ha => ha

theorem keeps_enable (a : Alarm) :
    Keeps Vigilant E (a.setEnabled (timer clock notify) true) := by
  refine triple_modifySlot fun s h => ?_
  refine (h.onlyAt (.modifySlot s a.channel _)).vigilant ?_
  intro ha
  rw [TimerShared.slot_modifySlot_self] at ha ⊢
  exact ⟨rfl, (h.alert a.channel ha).2⟩

theorem keeps_claim (channel : Nat) (h : H) :
    Keeps Vigilant E (Alarm.claim (timer clock notify) channel h).run := by
  rw [Alarm.run_claim]
  split
  · split
    · rename_i bound
      refine Triple.bind (Q := fun _ => Vigilant) (fun _ _ hs => hs) fun slot => ?_
      split
      · exact keeps_pure _
      · refine (triple_disarm ⟨channel, bound⟩ fun _ => rfl).bind fun _ => ?_
        refine Triple.bind (Q := fun _ => Vigilant) ?_ fun _ => keeps_pure _
        refine triple_of_start fun _ s hs => ⟨(), _, rfl, ?_⟩
        refine Withdrawn.vigilant (i := ⟨channel, bound⟩) ?_
        exact hs.onlyAt (.modifyChannel s ⟨channel, bound⟩ (·.write 0)) fun ha => ha
    · exact keeps_pure _
  · exact keeps_pure _

theorem triple_set (a : Alarm) (hi : a.channel < c) (setting : UInt32) :
    Triple (fun s => Vigilant s ∧ s.DriftsClear a.channel setting)
      (a.set (timer clock notify) setting).run (fun _ => Vigilant) E := by
  apply triple_of_start
  rintro patience s ⟨h, hclear⟩
  rcases start_set h.quiet a hi setting patience with ⟨haccepts, hset⟩ | ⟨-, why, hset⟩
  · obtain ⟨hcountable, hshort⟩ := hclear haccepts
    refine ⟨_, _, hset, VigilantBut.vigilant (i := a.channel) ⟨?_, fun j hj => ?_⟩ ?_⟩
    · exact (onlyAt_arm ..).quiet (SimTimer.shift_quiet h.quiet _)
    · exact (onlyAt_arm ..).alert hj ((h.alert j).shift hcountable (hshort j hj))
    · exact alert_arm clock hi setting haccepts.1
  · exact ⟨_, _, hset, h⟩

theorem triple_takeDue (i : Fin maxChannels) :
    Triple (fun s => VigilantBut i s ∧ Attended i s) ((timer clock notify).takeDue i)
      (fun due s => if due.isSome then Vigilant s else Vigilant s) E := by
  simp only [ite_self]
  apply triple_of_start
  rintro patience s ⟨h, ha⟩
  rw [start_takeDue h.quiet]
  by_cases he : ((s.shared.slot i).enabled && (s.shared.slot i).armed) = true
  · rw [if_pos he]
    by_cases hd : 0 < ticksUntil (s.shared.slot i).setting s.now
    · -- an early match: the flag may stay down until the next one
      rw [if_pos hd]
      exact ⟨_, _, rfl, h.vigilant (ha.alert_of_early hd)⟩
    · rw [if_neg hd]
      refine ⟨_, _, rfl, (h.onlyAt (onlyAt_fire ..)).vigilant (alert_of_idle ?_)⟩
      rw [slot_fire]
  · rw [if_neg he]
    refine ⟨_, _, rfl, (h.onlyAt (.changeChannel s i _ _)).vigilant (alert_of_idle ?_)⟩
    cases harmed : (s.shared.slot i).armed with
    | false => rfl
    | true => exact absurd (Bool.and_eq_true_iff.mpr ⟨(ha harmed).1, harmed⟩) he

end Vigilant

section Steps

open Vigilant

variable [DecidableEq H]

def setClear (t : Timer (Scene (SimTimer c) H M) H) (a : Alarm) (setting : UInt32) :
    Run (Scene (SimTimer c) H M) (Except AlarmError Unit) := do
  assume fun s => decide (s.DriftsClear a.channel setting)
  (a.set t setting).run

/-- What foreground code and handlers are made of. Alarms exist only for channels that the timer
has, and time does not wrap the count twice before the first wrap is served. -/
inductive VigilStep (t : Timer (Scene (SimTimer c) H M) H) :
    ∀ α : Type, Run (Scene (SimTimer c) H M) α → Prop
  | claim (channel : Nat) (h : H) : VigilStep t _ (Alarm.claim t channel h).run
  | setEnabled (a : Alarm) (on : Bool) : VigilStep t _ (a.setEnabled t on)
  | set (a : Alarm) (setting : UInt32) : a.channel < c → VigilStep t _ (setClear t a setting)
  | cancel (a : Alarm) : VigilStep t _ (a.cancel t)
  | release (a : Alarm) : VigilStep t _ (a.release t)
  | dispatchFirst : VigilStep t _ t.dispatchFirst
  | dispatchShared : VigilStep t _ t.dispatchShared
  | advance (ticks : Nat) : VigilStep t _ (do
      assume fun s => decide (s.registers.Countable ticks)
      registersCell.update (·.advance ticks))
  | changeDrift (ticks : UInt16) : VigilStep t _ (registersCell.update ({ · with drift := ticks }))
  | aside {α : Type} (run : Run (Scene (SimTimer c) H M) α) : run.Leaves clockwork →
      VigilStep t α run

theorem keeps_vigilStep (hc : c ≤ 5)
    (hnotify : ∀ h event, Keeps Vigilant Vigilant (notify h event)) {α : Type}
    {run : Run (Scene (SimTimer c) H M) α} (hrun : VigilStep (timer clock notify) α run) :
    Keeps Vigilant Vigilant run := by
  cases hrun with
  | claim channel h => exact keeps_claim channel h
  | setEnabled a on =>
    cases on with
    | true => exact keeps_enable a
    | false => exact (triple_disable a).weaken fun _ _ h => h.vigilant
  | set a setting hi =>
    refine Triple.bind (triple_assume fun _ h => h) fun _ => ?_
    exact (triple_set a hi setting).of_imp fun s h => ⟨h.1, of_decide_eq_true h.2⟩
  | cancel a => exact (triple_cancel a).weaken fun _ _ h => h.vigilant
  | release a => exact (triple_release a).weaken fun _ _ h => h.vigilant
  | dispatchFirst =>
    refine keeps_dispatchFirst (A := fun i s => VigilantBut i s ∧ Attended i s)
      (J := fun _ => Vigilant) (fun s h => ⟨?_, ?_⟩) (triple_takeDue 0) fun h => hnotify h _
    · exact h.onlyAt (.changeChannel s 0 _ _)
    · exact (h.alert 0).attended.clearFlag _
  | dispatchShared =>
    refine keeps_dispatchShared (A := fun i s => VigilantBut i s ∧ Attended i s)
      (J := fun _ => Vigilant) hc (fun _ h => h) (fun _ h => h.quiet) (fun i s h => ⟨?_, ?_⟩)
      triple_takeDue (fun _ h => hnotify h _) (fun s h hf => ⟨?_, fun i => ?_⟩)
      (fun s chain h => h.congr rfl) fun h => hnotify h _
    · exact h.onlyAt (.modifyChannel s i _)
    · exact (h.alert i).attended.modifyChannel fun _ hw => hw.acknowledge
    · exact ⟨h.quiet.readStep, h.quiet.countScript, h.quiet.vectorScript⟩
    · exact (h.alert i).congr rfl rfl (now_acknowledge hf)
  | advance ticks =>
    refine Triple.bind (triple_assume fun _ h => h) fun _ => triple_update fun s h => ⟨?_, ?_⟩
    · exact SimTimer.advance_quiet _ h.1.quiet
    · exact fun i => (h.1.alert i).advance (of_decide_eq_true h.2)
  | changeDrift ticks =>
    refine triple_update fun s h => ⟨?_, fun i => (h.alert i).congr rfl rfl rfl⟩
    exact ⟨h.quiet.readStep, h.quiet.countScript, h.quiet.vectorScript⟩
  | aside run hrun => exact hrun.keeps_of_congr (fun _ _ hv h => h.congr hv) fun _ h => h

/-- Wherever a program ends that started with no alarms, in a handler or not: if an alarm is armed
and its setting has been reached by the count as it is read there, then its channel compares with
the lower half of the setting, and its interrupt is enabled and pending. -/
theorem due_alarms_pending (hc : c ≤ 5)
    {code : Notify (Scene (SimTimer c) H M) H → Notify (Scene (SimTimer c) H M) H}
    (hcode : ∀ notify h event, Built (VigilStep (timer clock notify)) (code notify h event))
    {α : Type} {program : Run (Scene (SimTimer c) H M) α}
    (hprogram : Built (VigilStep (timer clock (.ofCode code))) program) (patience : Nat)
    (hquiet : s.registers.Quiet) (hempty : s.shared = {}) :
    ∃ now, (timer clock (.ofCode code)).counter.start patience (program.finish patience s) =
        .ok now (program.finish patience s) ∧
      ∀ i, ((program.finish patience s).shared.slot i).armed = true →
        ticksUntil ((program.finish patience s).shared.slot i).setting now ≤ 0 →
        ∃ channel, (program.finish patience s).registers.channels[i.val]? = some channel ∧
          channel.enabled = true ∧ channel.flagged = true ∧ channel.capturing = false ∧
          channel.compare = ((program.finish patience s).shared.slot i).setting.toUInt16 := by
  have kept : Keeps Vigilant Vigilant program :=
    Notify.keeps_program (fun _ h => h) (fun _ hnotify _ _ => keeps_vigilStep hc hnotify) hcode
      hprogram
  have ended : Vigilant (program.finish patience s) :=
    kept.finish (fun _ h => h) (vigilant_empty hquiet hempty)
  refine ⟨_, start_counter _ _ ended.quiet patience, ?_⟩
  intro i ha hr
  obtain ⟨-, channel, hi, hw, hflag⟩ := ended.alert i ha
  exact ⟨channel, hi, hw.enabled, hflag hr, hw.comparing, hw.compare⟩

end Steps

/-! ## An alarm that is overtaken while it is set -/

def overtaken (t : Timer SmallScene Unit) : Run SmallScene Unit := do
  let _ ← (Alarm.claim t 1 ()).run
  secondAlarm.setEnabled t true
  let _ ← setClear t secondAlarm 3

theorem built_overtaken (t : Timer SmallScene Unit) : Built (VigilStep t) (overtaken t) := by
  refine .andThen (.step (.claim 1 ())) fun _ => ?_
  refine .andThen (.step (.setEnabled secondAlarm true)) fun _ => ?_
  exact .andThen (.step (.set secondAlarm 3 (by decide))) fun _ => .done ()

def beforeOvertaken : SmallScene := ⟨{ drift := 5 }, {}, {}, []⟩

def quietTimer : Timer SmallScene Unit := timer id (.ofCode fun _ _ _ => return .none)

def afterOvertaken : SmallScene := (overtaken quietTimer).finish 9 beforeOvertaken

theorem due_alarms_pending_overtaken :
    (afterOvertaken.shared.slot 1).armed = true ∧ afterOvertaken.now = 5 ∧
      ∃ channel, afterOvertaken.registers.channels[1]? = some channel ∧
        channel.enabled = true ∧ channel.flagged = true ∧ channel.compare = 3 := by
  obtain ⟨armed, setting, now, hr, hc, hv⟩ : (afterOvertaken.shared.slot 1).armed = true ∧
      (afterOvertaken.shared.slot 1).setting = 3 ∧ afterOvertaken.now = 5 ∧
      afterOvertaken.registers.readStep = 0 ∧ afterOvertaken.registers.countScript = [] ∧
      afterOvertaken.registers.vectorScript = [] := by decide +kernel
  have handlers (notify : Notify SmallScene Unit) (h : Unit) (event : TimerEvent) :
      Built (VigilStep (timer id notify)) (return IsrResult.none) := .done _
  have quiet : beforeOvertaken.registers.Quiet := ⟨rfl, rfl, rfl⟩
  obtain ⟨count, hcount, pending⟩ := due_alarms_pending (by decide) handlers
    (built_overtaken quietTimer) 9 quiet rfl
  have hread : quietTimer.counter.start 9 afterOvertaken = .ok afterOvertaken.now afterOvertaken :=
    start_counter _ _ ⟨hr, hc, hv⟩ 9
  have hfive : count = 5 := (EStateM.Result.ok.inj (hcount.symm.trans hread)).1.trans now
  have due : ticksUntil (afterOvertaken.shared.slot 1).setting count ≤ 0 := by
    rw [setting, hfive]
    decide
  obtain ⟨channel, hi, he, hf, -, hcompare⟩ := pending 1 armed due
  exact ⟨armed, now, channel, hi, he, hf, hcompare.trans (congrArg UInt32.toUInt16 setting)⟩

end Msp430.Scene
