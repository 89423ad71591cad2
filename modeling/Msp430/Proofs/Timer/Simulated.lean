import Msp430.Proofs.Timer.Channels
import Msp430.Proofs.Timer.Operations
import Msp430.Proofs.Timer.Scene
import Msp430.Proofs.Timer.Service

/-!
The operations of a driver on a simulated timer that is quiet: what each does to the registers and
to the shared state, and what service keeps.
-/
namespace Msp430.Scene

open Run

variable {H M : Type} {c : Nat} {clock : M → ClockModule}
variable {notify : Notify (Scene (SimTimer c) H M) H} {s : Scene (SimTimer c) H M}

/-! ## Counting -/

section Steady

variable (hread : s.registers.readCount = (s.registers.count, s.registers))

include hread

theorem start_readCount (patience : Nat) :
    (simPort clock).readCount.start patience s = .ok s.registers.count s := by
  have h : (simPort clock).readCount.start patience s =
      .ok s.registers.readCount.1 { s with registers := s.registers.readCount.2 } := rfl
  rw [h, hread]

theorem start_stableCount (patience : Nat) :
    (simPort clock).stableCount.start patience s = .ok s.registers.count s := by
  have hcount : (simPort clock).readCount.start patience s = .ok s.registers.count s :=
    start_readCount hread patience
  rw [TimerPort.stableCount, start_bind_ok hcount]
  have hsource : (simPort clock).source.start patience s =
      .ok (.ofCode (TimerControl.source.extract s.registers.control)) s := rfl
  rw [start_bind_ok hsource]
  split
  · rfl
  · rw [countRereads, TimerPort.settledCount, start_bind_ok hcount, if_pos rfl]
    rfl

variable (clock notify) in
theorem start_counter_steady (patience : Nat) :
    (timer clock notify).counter.start patience s = .ok s.now s := by
  have hshared : (timer clock notify).shared.read.start patience s = .ok s.shared s := rfl
  have hflag : (timer clock notify).port.overflowed.start patience s =
      .ok s.registers.overflowed s := rfl
  have hcount : (timer clock notify).port.stableCount.start patience s =
      .ok s.registers.count s := start_stableCount hread patience
  rw [Timer.counter, start_bind_ok hshared]
  dsimp only
  rw [start_bind_ok hcount, start_bind_ok hflag, now, SimTimer.extended]
  split
  · rw [start_bind_ok hcount]
    rfl
  · rfl

end Steady

variable (clock notify) in
theorem start_counter (hq : s.registers.Quiet) (patience : Nat) :
    (timer clock notify).counter.start patience s = .ok s.now s :=
  start_counter_steady clock notify (SimTimer.readCount_quiet hq) patience

theorem triple_counter {P E : Scene (SimTimer c) H M → Prop} (hq : ∀ s, P s → s.registers.Quiet) :
    Triple P (timer clock notify).counter (fun count s => P s ∧ count = s.now) E :=
  triple_of_start fun patience s h =>
    ⟨s.now, s, start_counter clock notify (hq s h) patience, h, rfl⟩

/-! ## Alarms -/

theorem triple_modifySlot {R : Type} {port : TimerPort (Scene R H M)}
    {notify : Notify (Scene R H M) H} {P Q E : Scene R H M → Prop} {i : Fin maxChannels}
    {f : AlarmSlot H → AlarmSlot H}
    (h : ∀ s, P s → Q { s with shared := s.shared.modifySlot i f }) :
    Triple P ((onPort port notify).modifySlot i f) (fun _ => Q) E := fun _ s hs => h s hs

/-- A channel programmed to wait for the setting, with its interrupt enabled. -/
def program (clock : M → ClockModule) (i : Fin maxChannels) (setting : UInt32)
    (s : Scene (SimTimer c) H M) : Scene (SimTimer c) H M :=
  { s with
    shared := s.shared.modifySlot i fun slot => { slot with setting, armed := true }
    registers := ((s.registers.writeChannel i 0).writeCompare i setting.toUInt16).changeChannel
      (clock s.memory) i (setBits ChannelControl.interruptEnable) }

/-- The flag is raised at once if the setting has been reached meanwhile. -/
def arm (clock : M → ClockModule) (i : Fin maxChannels) (setting : UInt32)
    (s : Scene (SimTimer c) H M) : Scene (SimTimer c) H M :=
  let s := s.program clock i setting
  if ticksUntil setting s.now ≤ 0 then
    { s with
      registers := s.registers.changeChannel (clock s.memory) i
        (setBits ChannelControl.interruptFlag) }
  else s

theorem core_program (clock : M → ClockModule) (i : Fin maxChannels) (setting : UInt32)
    (s : Scene (SimTimer c) H M) :
    (s.program clock i setting).registers.core =
      (s.registers.shift s.registers.drift true).core := by
  have hdrift : (s.registers.writeChannel i 0).drift = s.registers.drift :=
    SimTimer.eq_of_core (SimTimer.core_writeChannel ..) SimTimer.drift
  rw [program, SimTimer.core_changeChannel, SimTimer.core_writeCompare, SimTimer.core_shift,
    SimTimer.core_writeChannel, hdrift, SimTimer.core_shift]

theorem quiet_program (clock : M → ClockModule) (hq : s.registers.Quiet) (i : Fin maxChannels)
    (setting : UInt32) : (s.program clock i setting).registers.Quiet :=
  (SimTimer.shift_quiet hq _).congr (core_program ..)

theorem channel_program (clock : M → ClockModule) {i : Fin maxChannels} (hi : i < c)
    (setting : UInt32) (s : Scene (SimTimer c) H M) :
    ∃ channel, (s.program clock i setting).registers.channels[i.val]? = some channel ∧
      channel.Awaits setting ∧ channel.flagged = false := by
  obtain ⟨channel, hchannel⟩ : ∃ channel, s.registers.channels[i.val]? = some channel :=
    ⟨_, Vector.getElem?_eq_getElem hi⟩
  have hwritten :
      ((s.registers.writeChannel i 0).writeCompare i setting.toUInt16).channels[i.val]? =
        some { channel.write 0 with compare := setting.toUInt16 } := by
    rw [SimTimer.channels_writeCompare, if_pos rfl, SimTimer.writeChannel,
      SimTimer.channels_modifyChannel, if_pos rfl, hchannel]
    rfl
  have hcomparing : anyBits ChannelControl.capture 0 = false := by decide
  refine ⟨_, SimTimer.channels_changeChannel_self _ hwritten hcomparing _, ⟨?_, ?_, rfl⟩, ?_⟩
  · change anyBits ChannelControl.interruptEnable (setBits ChannelControl.interruptEnable 0) = true
    decide
  · change anyBits ChannelControl.capture (setBits ChannelControl.interruptEnable 0) = false
    decide
  · change anyBits ChannelControl.interruptFlag (setBits ChannelControl.interruptEnable 0) = false
    decide

theorem start_flagged (i patience : Nat) :
    ((simPort clock).flagged i).start patience s =
      .ok (anyBits ChannelControl.interruptFlag (s.registers.readChannel (clock s.memory) i).1)
        { s with registers := (s.registers.readChannel (clock s.memory) i).2 } := rfl

variable (clock notify) in
theorem start_arm (hq : s.registers.Quiet) (a : Alarm) (hi : a.channel < c) (setting : UInt32)
    (patience : Nat) :
    (a.arm (timer clock notify) setting).start patience s =
      .ok () (s.arm clock a.channel setting) := by
  have hcounter := start_counter clock notify (quiet_program clock hq a.channel setting) patience
  obtain ⟨channel, hchannel, hw, hflag⟩ := channel_program clock hi setting s
  have hflagged : ((timer clock notify).port.flagged a.channel).start patience
      (s.program clock a.channel setting) = .ok false (s.program clock a.channel setting) := by
    rw [timer, onPort, start_flagged, SimTimer.readChannel_comparing _ hchannel hw.comparing]
    exact congrArg (EStateM.Result.ok · _) hflag
  have hslot : ((timer clock notify).modifySlot a.channel fun slot =>
      { slot with setting, armed := true }).start patience s = .ok () { s with
        shared :=
          s.shared.modifySlot a.channel fun slot => { slot with setting, armed := true } } := rfl
  have hcompare (s : Scene (SimTimer c) H M) :
      ((timer clock notify).port.compareMode a.channel).start patience s =
        .ok () { s with registers := s.registers.writeChannel a.channel 0 } := rfl
  have hwrite (s : Scene (SimTimer c) H M) :
      ((timer clock notify).port.writeCompare a.channel setting.toUInt16).start patience s =
        .ok () { s with registers := s.registers.writeCompare a.channel setting.toUInt16 } := rfl
  have henable (s : Scene (SimTimer c) H M) :
      ((timer clock notify).port.enableChannel a.channel).start patience s =
        .ok () { s with
          registers := s.registers.changeChannel (clock s.memory) a.channel
            (setBits ChannelControl.interruptEnable) } := rfl
  rw [Alarm.arm, start_bind_ok hslot, start_bind_ok (hcompare _), start_bind_ok (hwrite _),
    start_bind_ok (henable _)]
  change ((timer clock notify).counter >>= _).start patience (s.program clock a.channel setting) = _
  rw [start_bind_ok hcounter, arm]
  by_cases hr : ticksUntil setting (s.program clock a.channel setting).now ≤ 0
  · rw [if_pos hr, if_pos hr, start_bind_ok hflagged]
    rfl
  · rw [if_neg hr, if_neg hr]
    rfl

def Accepts (i : Fin maxChannels) (setting : UInt32) (s : Scene (SimTimer c) H M) : Prop :=
  (s.shared.slot i).enabled = true ∧ (s.shared.slot i).armed = false ∧
    0 < ticksUntil setting s.now

instance (i : Fin maxChannels) (setting : UInt32) (s : Scene (SimTimer c) H M) :
    Decidable (s.Accepts i setting) := inferInstanceAs (Decidable (_ ∧ _ ∧ _))

/-- Setting an alarm programs its channel or is refused and changes nothing. -/
theorem start_set (hq : s.registers.Quiet) (a : Alarm) (hi : a.channel < c) (setting : UInt32)
    (patience : Nat) :
    (s.Accepts a.channel setting ∧ (a.set (timer clock notify) setting).run.start patience s =
      .ok (.ok ()) (s.arm clock a.channel setting)) ∨
    (¬ s.Accepts a.channel setting ∧ ∃ why,
      (a.set (timer clock notify) setting).run.start patience s = .ok (.error why) s) := by
  have henabled : (a.isEnabled (timer clock notify)).start patience s =
      .ok (s.shared.slot a.channel).enabled s := rfl
  have harmed : (a.isArmed (timer clock notify)).start patience s =
      .ok (s.shared.slot a.channel).armed s := rfl
  have hcounter := start_counter clock notify hq patience
  have harm := start_arm clock notify hq a hi setting patience
  unfold Accepts
  rw [Alarm.run_set, start_bind_ok henabled]
  cases he : (s.shared.slot a.channel).enabled with
  | false => exact .inr ⟨fun h => Bool.noConfusion h.1, .disabled, rfl⟩
  | true =>
    rw [if_neg (by decide), start_bind_ok harmed]
    cases ha : (s.shared.slot a.channel).armed with
    | true => exact .inr ⟨fun h => Bool.noConfusion h.2.1, .busy, rfl⟩
    | false =>
      rw [if_neg (by decide), start_bind_ok hcounter]
      by_cases hp : ticksUntil setting s.now ≤ 0
      · rw [if_pos hp]
        exact .inr ⟨fun h => (ticksUntil_nonpos_iff ..).mp hp h.2.2, .past, rfl⟩
      · rw [if_neg hp, start_map, harm]
        exact .inl ⟨⟨rfl, rfl, Int32.not_le.mp hp⟩, rfl⟩

def fire (clock : M → ClockModule) (i : Fin maxChannels) (s : Scene (SimTimer c) H M) :
    Scene (SimTimer c) H M :=
  { s with
    shared := s.shared.modifySlot i fun slot => { slot with armed := false }
    registers := s.registers.changeChannel (clock s.memory) i
      (clearBits ChannelControl.interruptEnable) }

def mute (clock : M → ClockModule) (i : Fin maxChannels) (s : Scene (SimTimer c) H M) :
    Scene (SimTimer c) H M :=
  { s with
    registers := s.registers.changeChannel (clock s.memory) i
      (clearBits ChannelControl.interruptEnable) }

theorem start_takeDue (hq : s.registers.Quiet) (i : Fin maxChannels) (patience : Nat) :
    ((timer clock notify).takeDue i).start patience s =
      if ((s.shared.slot i).enabled && (s.shared.slot i).armed) = true then
        if 0 < ticksUntil (s.shared.slot i).setting s.now then .ok none s
        else .ok ((s.shared.slot i).handler.map (·, s.now)) (s.fire clock i)
      else .ok none (s.mute clock i) := by
  have hslot : ((timer clock notify).slot i).start patience s = .ok (s.shared.slot i) s := rfl
  have hcounter := start_counter clock notify hq patience
  unfold Timer.takeDue
  rw [dif_pos i.isLt]
  dsimp only
  rw [start_bind_ok hslot]
  by_cases he : ((s.shared.slot i).enabled && (s.shared.slot i).armed) = true
  · rw [if_pos he, if_pos he, start_bind_ok hcounter]
    by_cases hd : ticksUntil (s.shared.slot i).setting s.now > 0
    · rw [if_pos hd, if_pos hd]
      rfl
    · rw [if_neg hd, if_neg hd]
      have hhandler : ((s.fire clock i).shared.slot i).handler = (s.shared.slot i).handler := by
        rw [fire, TimerShared.slot_modifySlot_self]
      rw [← hhandler]
      rfl
  · rw [if_neg he, if_neg he]
    rfl

/-! ## Service -/

variable {I E : Scene (SimTimer c) H M → Prop}
variable {A J : Fin maxChannels → Scene (SimTimer c) H M → Prop}

theorem keeps_dispatchFirst
    (clear : ∀ s, I s → A 0 { s with
      registers := s.registers.changeChannel (clock s.memory) 0
        (clearBits ChannelControl.interruptFlag) })
    (take : Triple (A 0) ((timer clock notify).takeDue 0)
      (fun due s => if due.isSome then J 0 s else I s) E)
    (call : ∀ h, Triple (J 0) (notify h (.alarm 0)) (fun _ => I) E) :
    Keeps I E (timer clock notify).dispatchFirst := by
  refine Triple.bind (Q := fun _ => A 0) (fun _ s h => clear s h) fun _ => ?_
  exact Timer.triple_serviceAlarm take call

theorem keeps_dispatchShared [DecidableEq H] (hc : c ≤ 5) (halt : ∀ s, I s → E s)
    (quiet : ∀ s, I s → s.registers.Quiet)
    (acknowledge : ∀ (i : Fin maxChannels) s, I s → A i { s with
      registers := s.registers.modifyChannel i SimChannel.acknowledge })
    (take : ∀ i : Fin maxChannels, Triple (A i) ((timer clock notify).takeDue i)
      (fun due s => if due.isSome then J i s else I s) E)
    (call : ∀ (i : Fin maxChannels) h, Triple (J i) (notify h (.alarm i)) (fun _ => I) E)
    (count : ∀ s, I s → s.registers.overflowed = true → I { s with
      registers := { s.registers with
        control := clearBits TimerControl.overflowFlag s.registers.control }
      shared := { s.shared with overflows := s.shared.overflows + 1 } })
    (chain : ∀ s chain, I s → I { s with shared := { s.shared with chain } })
    (run : ∀ h, Keeps I E (notify h .overflow)) :
    Keeps I E (timer clock notify).dispatchShared := by
  refine Triple.bind (Q := fun vector s =>
      if vector = 0 then I s
      else if vector = overflowVector then
        I { s with shared := { s.shared with overflows := s.shared.overflows + 1 } }
      else ∃ i : Fin maxChannels, i.val = (vector >>> 1).toUInt8.toNat ∧ A i s)
    (fun patience s h => ?_) fun vector => ?_
  · rw [show (timer clock notify).port.readVector.start patience s =
        .ok s.registers.readVector.1 { s with registers := s.registers.readVector.2 } from
      start_readVector patience s]
    rcases SimTimer.readVector_cases (quiet s h) with ⟨i, hpos, hlt, hv⟩ | ⟨hf, hv⟩ | hv
    · -- five channels at most: none has the vector of the overflow
      obtain ⟨hzero, hother, hback⟩ := SimTimer.vector_channel hpos (by omega) (by omega : i ≠ 5)
      have hslot : i < maxChannels := Nat.lt_of_lt_of_le hlt (Nat.le_trans hc (by decide))
      dsimp only
      rw [hv, if_neg hzero, if_neg hother]
      exact ⟨⟨i, hslot⟩, hback.symm, acknowledge ⟨i, hslot⟩ s h⟩
    · rw [hv]
      exact count s h hf
    · rw [hv]
      exact h
  by_cases hz : vector = 0
  · simp only [if_pos hz]
    exact keeps_pure _
  · simp only [if_neg hz]
    by_cases ho : vector = overflowVector
    · simp only [if_pos ho]
      exact Timer.triple_serviceOverflow halt (fun _ h => h) chain run
    · simp only [if_neg ho]
      intro patience s ⟨i, hi, hs⟩
      rw [← hi]
      exact Timer.triple_serviceAlarm (take i) (call i) patience s hs

end Msp430.Scene
