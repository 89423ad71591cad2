import Msp430.Proofs.Timer.Books
import Msp430.Proofs.Timer.Operations
import Msp430.Proofs.Timer.Service

/-!
Alarms are one-shot. Whatever the registers do and however interrupts arrive, an alarm's handler is
called at most once for each time that the alarm was set, not before its time and not after the
alarm was withdrawn. Handlers may use the alarms themselves and dispatch interrupts in turn.
-/
namespace Msp430

open Run

/-! ## Calls with a note -/

namespace Timer

variable {σ H : Type} (t : Timer σ H) (note : Nat → UInt32 → Run σ Unit)

/-- Service of an alarm that notes each call and the count that was read for it. -/
def serviceAlarmNoting (channel : Nat) : Run σ IsrResult := do
  match ← t.takeDue channel with
  | some (h, now) =>
    note channel now
    return { ← t.notify h (.alarm channel) with unsubscribe := false }
  | none => return .none

def dispatchFirstNoting : Run σ IsrResult := do
  t.port.clearFlag 0
  t.serviceAlarmNoting note 0

def dispatchSharedNoting [DecidableEq H] : Run σ IsrResult := do
  let vector ← t.port.readVector
  if vector = 0 then
    return .none
  if vector = overflowVector then
    return ← t.serviceOverflow
  t.serviceAlarmNoting note (vector >>> 1).toUInt8.toNat

/-- But for the notes, dispatch is what it was. -/
theorem dispatchNoting_pure [DecidableEq H] :
    t.dispatchFirstNoting (fun _ _ => return ()) = t.dispatchFirst ∧
      t.dispatchSharedNoting (fun _ _ => return ()) = t.dispatchShared := by
  have service : t.serviceAlarmNoting (fun _ _ => return ()) = t.serviceAlarm := by
    funext channel
    unfold serviceAlarmNoting serviceAlarm
    exact congrArg (t.takeDue channel >>= ·) (funext fun due => by cases due <;> rfl)
  simp only [dispatchFirstNoting, dispatchFirst, dispatchSharedNoting, dispatchShared, service,
    and_self]

end Timer

namespace Scene

variable {R H M : Type}

def books (s : Scene R H M) : Books H := ⟨s.shared.slot, s.journal⟩

theorem books_modifySlot (s : Scene R H M) (i : Fin maxChannels)
    (f : AlarmSlot H → AlarmSlot H) :
    books { s with shared := s.shared.modifySlot i f } = s.books.modifySlot i f :=
  congrArg (Books.mk · s.journal) (funext (s.shared.slot_modifySlot i f))

/-! ## What each operation does to the books -/

namespace Faithful

variable {port : TimerPort (Scene R H M)} {notify : Notify (Scene R H M) H}
variable {I J : Books H → Prop} {E : Scene R H M → Prop} {a : Alarm}

theorem triple_slot (i : Fin maxChannels) :
    Triple (fun s => s.books.Faithful) ((onPort port notify).slot i)
      (fun slot s => s.books.Seen i slot) E :=
  fun _ _ h => ⟨h, rfl⟩

theorem keeps_slot (i : Fin maxChannels) :
    Keeps (fun s => I s.books) E ((onPort port notify).slot i) := fun _ _ h => h

theorem triple_modifySlot {i : Fin maxChannels} {f : AlarmSlot H → AlarmSlot H}
    (h : ∀ b, I b → J (b.modifySlot i f)) :
    Triple (fun s => I s.books) ((onPort port notify).modifySlot i f) (fun _ s => J s.books) E :=
  fun _ s hs => (congrArg J (s.books_modifySlot i f)).mpr (h s.books hs)

theorem triple_enter {moment : Moment} (h : ∀ b, I b → J (b.enter moment)) :
    Triple (fun s => I s.books) (enter moment) (fun _ s => J s.books) E :=
  fun _ s hs => h s.books hs

variable (hp : port.Spares books)

include hp

theorem keeps_changeChannel (hi : ∀ b, I b → Orderly b.journal) (i : Nat) (f : UInt16 → UInt16) :
    Keeps (fun s => I s.books) (fun s => Orderly s.journal) (port.changeChannel i f) :=
  (hp.changeChannel i f).keeps (E := fun b => Orderly b.journal) hi

theorem triple_cancel :
    Triple (fun s => s.books.Faithful) (a.cancel (onPort port notify))
      (fun _ s => s.books.Idle a.channel) (fun s => Orderly s.journal) := by
  have orderly (b : Books H) (h : b.Idle a.channel) : Orderly b.journal := h.orderly
  refine Triple.bind (Q := fun _ s => s.books.Faithful) ?_ fun armed => ?_
  · exact (keeps_slot _).bind fun _ => keeps_pure _
  refine Triple.bind (triple_modifySlot fun b h => h.disarm fun _ => rfl) fun _ => ?_
  refine (keeps_changeChannel hp orderly _ _).bind fun _ => ?_
  exact (keeps_changeChannel hp orderly _ _).bind fun _ => keeps_pure _

theorem triple_setEnabled_false :
    Triple (fun s => s.books.Faithful) (a.setEnabled (onPort port notify) false)
      (fun _ s => s.books.Idle a.channel) (fun s => Orderly s.journal) := by
  refine Triple.bind (Q := fun _ s => s.books.Idle a.channel) ?_ fun _ => ?_
  · exact (triple_cancel hp).map _ fun _ _ h => h
  · exact triple_modifySlot fun b h => h.modifySlot fun _ ha => ⟨ha, rfl⟩

theorem triple_release :
    Triple (fun s => s.books.Faithful) (a.release (onPort port notify))
      (fun _ s => s.books.Idle a.channel) (fun s => Orderly s.journal) := by
  refine (triple_setEnabled_false hp).bind fun _ => ?_
  exact triple_modifySlot fun b h => h.modifySlot fun _ ha => ⟨ha, rfl⟩

theorem keeps_claim (channel : Nat) (h : H) :
    Keeps (fun s => s.books.Faithful) (fun s => Orderly s.journal)
      (Alarm.claim (onPort port notify) channel h).run := by
  rw [Alarm.run_claim]
  split
  · split
    · refine (triple_slot _).bind fun slot => ?_
      split
      · exact triple_pure _ fun _ hs => hs.toFaithful
      · refine Triple.bind (Q := fun _ s => s.books.Faithful) ?_ fun _ => ?_
        · refine Triple.of_imp (triple_modifySlot fun b hb => ?_) fun _ hs => hs.toFaithful
          exact (hb.disarm fun _ => rfl).toFaithful
        · refine Keeps.bind ?_ fun _ => keeps_pure _
          exact (hp.writeChannel _ _).keeps (E := fun b => Orderly b.journal) fun _ hb => hb.orderly
    · exact keeps_pure _
  · exact keeps_pure _

theorem triple_set (setting : UInt32) :
    Triple (fun s => s.books.Faithful) (a.set (onPort port notify) setting).run
      (fun answer s => match answer with
        | .ok () => s.books.Arming a.channel setting
        | .error _ => s.books.Faithful) (fun s => Orderly s.journal) := by
  have orderly (b : Books H) (h : b.Arming a.channel setting) : Orderly b.journal := h.orderly
  rw [Alarm.run_set]
  refine Triple.bind (Q := fun _ s => s.books.Faithful) ?_ fun enabled => ?_
  · exact (keeps_slot _).bind fun _ => keeps_pure _
  split
  · exact triple_pure _ fun _ h => h
  refine Triple.bind (Q := fun _ s => s.books.Faithful) ?_ fun armed => ?_
  · exact (keeps_slot _).bind fun _ => keeps_pure _
  split
  · exact triple_pure _ fun _ h => h
  have counter : (onPort port notify).counter.Leaves books := Timer.counter_leaves hp
  refine Triple.bind (Q := fun _ s => s.books.Faithful) ?_ fun now => ?_
  · exact counter.keeps (E := fun b => Orderly b.journal) fun _ h => h.orderly
  split
  · exact triple_pure _ fun _ h => h
  refine Triple.map (Q := fun _ s => s.books.Arming a.channel setting) _ ?_ fun _ _ h => h
  refine Triple.bind (triple_modifySlot fun b h => h.arm setting) fun _ => ?_
  refine Keeps.bind ((hp.writeChannel _ _).keeps orderly) fun _ => ?_
  refine Keeps.bind ((hp.writeCompare _ _).keeps orderly) fun _ => ?_
  refine (keeps_changeChannel hp orderly _ _).bind fun _ => ?_
  refine Keeps.bind (counter.keeps orderly) fun now => ?_
  split
  · refine Keeps.bind ((hp.flagged _).keeps orderly) fun flagged => ?_
    split
    · exact keeps_pure _
    · exact keeps_changeChannel hp orderly _ _
  · exact keeps_pure _

theorem triple_takeDue (channel : Nat) :
    Triple (fun s => s.books.Faithful) ((onPort port notify).takeDue channel)
      (fun due s => match due with
        | some (_, now) => s.books.Due channel now
        | none => s.books.Faithful) (fun s => Orderly s.journal) := by
  unfold Timer.takeDue
  split
  · rename_i bound
    refine (triple_slot _).bind fun slot => ?_
    by_cases hs : (slot.enabled && slot.armed) = true
    · rw [if_pos hs]
      have ha : slot.armed = true := (Bool.and_eq_true_iff.mp hs).2
      have counter : (onPort port notify).counter.Leaves books := Timer.counter_leaves hp
      refine Triple.bind (counter.keeps (E := fun b => Orderly b.journal)
        fun _ (h : Books.Seen _ slot _) => h.orderly) fun now => ?_
      by_cases hd : ticksUntil slot.setting now > 0
      · rw [if_pos hd]
        exact triple_pure _ fun _ h => h.toFaithful
      · rw [if_neg hd]
        refine Triple.bind (triple_modifySlot (J := Books.Due channel now) fun b h => ?_)
          fun _ => ?_
        · exact h.take ha ((ticksUntil_nonpos_iff ..).mpr hd) fun _ => rfl
        refine Triple.bind (keeps_changeChannel hp (fun _ h => h.orderly) _ _) fun _ => ?_
        refine Triple.bind (keeps_slot _) fun slot => triple_pure _ fun s h => ?_
        cases slot.handler with
        | none => exact h.toFaithful
        | some handler => exact h
    · rw [if_neg hs]
      refine Triple.bind (keeps_changeChannel hp (fun _ h => h.orderly) _ _) fun _ => ?_
      exact triple_pure _ fun _ h => h.toFaithful
  · exact triple_pure _ fun _ h => h

theorem keeps_serviceAlarmNoting
    (call : ∀ h event, Keeps (fun s => s.books.Faithful) (fun s => Orderly s.journal)
      (notify h event)) (channel : Nat) :
    Keeps (fun s => s.books.Faithful) (fun s => Orderly s.journal)
      ((onPort port notify).serviceAlarmNoting (fun i now => enter (.called i now)) channel) := by
  refine (triple_takeDue hp channel).bind fun due => ?_
  cases due with
  | none => exact keeps_pure _
  | some due =>
    obtain ⟨h, now⟩ := due
    refine Triple.bind (triple_enter fun b hb => Books.Due.call hb) fun _ => ?_
    exact (call h _).bind fun _ => keeps_pure _

end Faithful

/-! ## Programs -/

section Programs

open Faithful

variable [DecidableEq H]

variable (t : Timer (Scene R H M) H) (a : Alarm)

/-- All that withdraws the alarm goes into the journal. -/
def withdrawNoting {α : Type} (run : Run (Scene R H M) α) : Run (Scene R H M) α := do
  let answer ← run
  enter (.withdrawn a.channel)
  return answer

/-- What foreground code and handlers are made of: calls on alarms, dispatch of interrupts, and
whatever else leaves the alarms alone. That may write the registers of the timer or halt. -/
inductive AlarmCall : ∀ α : Type, Run (Scene R H M) α → Prop
  | claim (channel : Nat) (h : H) : AlarmCall _ (Alarm.claim t channel h).run
  | enable (a : Alarm) : AlarmCall _ (a.setEnabled t true)
  | disable (a : Alarm) : AlarmCall _ (withdrawNoting a (a.setEnabled t false))
  | set (a : Alarm) (setting : UInt32) : AlarmCall _ (setNoting t a setting)
  | cancel (a : Alarm) : AlarmCall _ (withdrawNoting a (a.cancel t))
  | release (a : Alarm) : AlarmCall _ (withdrawNoting a (a.release t))
  | dispatchFirst : AlarmCall _ (t.dispatchFirstNoting fun i now => enter (.called i now))
  | dispatchShared : AlarmCall _ (t.dispatchSharedNoting fun i now => enter (.called i now))
  | other {α : Type} (run : Run (Scene R H M) α) : run.Leaves books → AlarmCall α run

variable {port : TimerPort (Scene R H M)} {notify : Notify (Scene R H M) H}

omit [DecidableEq H] in
theorem keeps_withdrawNoting {a : Alarm} {α : Type} {run : Run (Scene R H M) α}
    (h : Triple (fun s => s.books.Faithful) run (fun _ s => s.books.Idle a.channel)
      (fun s => Orderly s.journal)) :
    Keeps (fun s => s.books.Faithful) (fun s => Orderly s.journal) (withdrawNoting a run) := by
  refine Triple.bind h fun answer => ?_
  refine Triple.bind (triple_enter fun b h => Books.Idle.withdraw h) fun _ => ?_
  exact keeps_pure _

theorem keeps_alarmCall (hp : port.Spares books)
    (hnotify : ∀ h event, Keeps (fun s => s.books.Faithful) (fun s => Orderly s.journal)
      (notify h event)) {α : Type} {run : Run (Scene R H M) α}
    (hrun : AlarmCall (onPort port notify) α run) :
    Keeps (fun s => s.books.Faithful) (fun s => Orderly s.journal) run := by
  have orderly (b : Books H) (h : b.Faithful) : Orderly b.journal := h.orderly
  cases hrun with
  | claim channel h => exact keeps_claim hp channel h
  | enable a => exact triple_modifySlot fun b h => h.modifySlot fun _ ha => ⟨ha, rfl⟩
  | disable a => exact keeps_withdrawNoting (triple_setEnabled_false hp)
  | set a setting =>
    refine (triple_set hp setting).bind fun answer => ?_
    cases answer with
    | error why => exact keeps_pure _
    | ok _ =>
      refine Triple.bind (triple_enter fun b h => Books.Arming.enter h) fun _ => ?_
      exact keeps_pure _
  | cancel a => exact keeps_withdrawNoting (triple_cancel hp)
  | release a => exact keeps_withdrawNoting (triple_release hp)
  | dispatchFirst =>
    refine (keeps_changeChannel hp orderly _ _).bind fun _ => ?_
    exact keeps_serviceAlarmNoting hp hnotify 0
  | dispatchShared =>
    refine Keeps.bind (hp.readVector.keeps orderly) fun vector => ?_
    split
    · exact keeps_pure _
    · split
      · exact Timer.triple_serviceOverflow (fun _ h => h.orderly) (fun _ h => h)
          (fun _ _ h => h) fun h => hnotify h _
      · exact keeps_serviceAlarmNoting hp hnotify _
  | other run hrun => exact hrun.keeps orderly

/-- On any port and for any handlers, wherever a program ends that started without an alarm armed:
at every point of its journal each alarm has been called at most as often as it had been set, and
each call found a setting that was not called or withdrawn since and that the count read for the
call had reached. -/
theorem alarms_one_shot (hp : port.Spares books)
    {code : Notify (Scene R H M) H → Notify (Scene R H M) H}
    (hcode : ∀ notify h event, Built (AlarmCall (onPort port notify)) (code notify h event))
    {α : Type} {program : Run (Scene R H M) α}
    (hprogram : Built (AlarmCall (onPort port (.ofCode code))) program) (patience : Nat)
    (s : Scene R H M) (hjournal : s.journal = [])
    (hidle : ∀ i, (s.shared.slot i).armed = false) :
    (∀ later earlier, (program.finish patience s).journal = later ++ earlier →
      ∀ channel, timesCalled channel earlier ≤ timesSet channel earlier) ∧
    ∀ later channel now earlier,
      (program.finish patience s).journal = later ++ .called channel now :: earlier →
      ∃ setting, standing channel earlier = some setting ∧ ticksUntil setting now ≤ 0 := by
  have started : s.books.Faithful := by
    constructor
    · rw [books, hjournal]
      exact .nil
    · intro i ha
      rw [show (s.books.slot i).armed = false from hidle i] at ha
      cases ha
  have kept : Keeps (fun s => s.books.Faithful) (fun s => Orderly s.journal) program :=
    Notify.keeps_program (fun _ h => h.orderly) (fun _ hnotify _ _ => keeps_alarmCall hp hnotify)
      hcode hprogram
  have ended : Orderly (program.finish patience s).journal :=
    kept.finish (fun _ h => h.orderly) started
  constructor
  · intro later earlier he channel
    have hearlier : Orderly earlier := (he ▸ ended).of_append
    exact Nat.le_of_add_right_le (timesCalled_le hearlier channel)
  · intro later channel now earlier he
    exact ended later _ earlier he channel now rfl

end Programs

/-! ## An alarm that its handler sets once more -/

def ringAgain (notify : Notify SmallScene Unit) : Notify SmallScene Unit := fun _ _ => do
  let _ ← setNoting (timer id notify) secondAlarm 9
  return .none

/-- The interrupt comes twice, the second time too early. -/
def ringing (t : Timer SmallScene Unit) : Run SmallScene Unit := do
  let _ ← (Alarm.claim t 1 ()).run
  secondAlarm.setEnabled t true
  let _ ← setNoting t secondAlarm 5
  registersCell.update (·.advance 5)
  let _ ← t.dispatchSharedNoting fun i now => enter (.called i now)
  registersCell.update fun registers => { registers with vectorScript := [2] }
  let _ ← t.dispatchSharedNoting fun i now => enter (.called i now)

theorem built_ringAgain (notify : Notify SmallScene Unit) (h : Unit) (event : TimerEvent) :
    Built (AlarmCall (timer id notify)) (ringAgain notify h event) :=
  .andThen (.step (.set _ _)) fun _ => .done _

theorem built_ringing (t : Timer SmallScene Unit) : Built (AlarmCall t) (ringing t) := by
  refine .andThen (.step (.claim 1 ())) fun _ => ?_
  refine .andThen (.step (.enable secondAlarm)) fun _ => ?_
  refine .andThen (.step (.set secondAlarm 5)) fun _ => ?_
  refine .andThen (.step (.other _ fun _ _ _ h => h)) fun _ => ?_
  refine .andThen (.step .dispatchShared) fun _ => ?_
  refine .andThen (.step (.other _ fun _ _ _ h => h)) fun _ => ?_
  exact .andThen (.step .dispatchShared) fun _ => .done ()

theorem alarms_one_shot_ringing :
    ((ringing (timer id (.ofCode ringAgain))).finish 9 ⟨{}, {}, {}, []⟩).journal =
        [.armed 1 9, .called 1 5, .armed 1 5] ∧
      timesCalled 1 [.armed 1 9, .called 1 5, .armed 1 5] ≤
        timesSet 1 [.armed 1 9, .called 1 5, .armed 1 5] ∧
      ∃ setting, standing 1 [.armed 1 5] = some setting ∧ ticksUntil setting 5 ≤ 0 := by
  have journal : ((ringing (timer id (.ofCode ringAgain))).finish 9 ⟨{}, {}, {}, []⟩).journal =
      [.armed 1 9, .called 1 5, .armed 1 5] := by decide +kernel
  obtain ⟨often, early⟩ := alarms_one_shot (spares_simPort fun _ _ => rfl) built_ringAgain
    (built_ringing _) 9 ⟨{}, {}, {}, []⟩ rfl (by decide)
  exact ⟨journal, often [] _ journal 1, early [.armed 1 9] 1 5 [.armed 1 5] journal⟩

end Scene

end Msp430
