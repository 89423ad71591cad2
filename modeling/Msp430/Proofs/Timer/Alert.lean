import Msp430.Proofs.Timer.Simulated

/-!
An alarm that is armed keeps its channel waiting for it, and once its setting has been reached its
interrupt is pending. What is done to one channel and its slot does not concern the other alarms;
what lets time pass concerns all of them.
-/
namespace Msp430.Scene

open Run

variable {H M : Type} {c : Nat} {clock : M → ClockModule}
variable {notify : Notify (Scene (SimTimer c) H M) H}
variable {s s' s'' : Scene (SimTimer c) H M} {i j : Fin maxChannels}

/-- The channel of an armed alarm waits for its setting. -/
def Attended (i : Fin maxChannels) (s : Scene (SimTimer c) H M) : Prop :=
  (s.shared.slot i).armed = true → (s.shared.slot i).enabled = true ∧
    ∃ channel, s.registers.channels[i.val]? = some channel ∧
      channel.Awaits (s.shared.slot i).setting

/-- Moreover its interrupt is pending if the setting has been reached. -/
def Alert (i : Fin maxChannels) (s : Scene (SimTimer c) H M) : Prop :=
  (s.shared.slot i).armed = true → (s.shared.slot i).enabled = true ∧
    ∃ channel, s.registers.channels[i.val]? = some channel ∧
      channel.Awaits (s.shared.slot i).setting ∧
      (ticksUntil (s.shared.slot i).setting s.now ≤ 0 → channel.flagged = true)

theorem Alert.attended (h : Alert i s) : Attended i s := by
  intro ha
  obtain ⟨he, channel, hi, hw, -⟩ := h ha
  exact ⟨he, channel, hi, hw⟩

theorem alert_of_idle (h : (s.shared.slot i).armed = false) : Alert i s := by
  intro ha
  rw [h] at ha
  cases ha

theorem Attended.alert_of_early (h : Attended i s)
    (hd : 0 < ticksUntil (s.shared.slot i).setting s.now) : Alert i s := by
  intro ha
  obtain ⟨he, channel, hi, hw⟩ := h ha
  exact ⟨he, channel, hi, hw, fun hr => absurd hd ((ticksUntil_nonpos_iff ..).mp hr)⟩

theorem Alert.congr (h : Alert i s) (hslot : s'.shared.slot i = s.shared.slot i)
    (hchannel : s'.registers.channels[i.val]? = s.registers.channels[i.val]?)
    (hnow : s'.now = s.now) : Alert i s' := by
  intro ha
  rw [hslot] at ha ⊢
  rw [hchannel, hnow]
  exact h ha

/-! ## All that alarms depend on -/

def clockwork (s : Scene (SimTimer c) H M) :
    SimTimer c × Vector (AlarmSlot H) maxChannels × UInt16 :=
  (s.registers, s.shared.slots, s.shared.overflows)

theorem registers_of_clockwork (h : s'.clockwork = s.clockwork) : s'.registers = s.registers :=
  congrArg (·.1) h

theorem slot_of_clockwork (h : s'.clockwork = s.clockwork) (i : Fin maxChannels) :
    s'.shared.slot i = s.shared.slot i :=
  congrArg (·.2.1[i]) h

theorem now_of_clockwork (h : s'.clockwork = s.clockwork) : s'.now = s.now :=
  congrArg (fun v => v.1.extended v.2.2) h

theorem Alert.of_clockwork (ha : Alert i s) (h : s'.clockwork = s.clockwork) : Alert i s' :=
  ha.congr (slot_of_clockwork h i) (by rw [registers_of_clockwork h]) (now_of_clockwork h)

/-! ## One channel and its slot -/

/-- Two scenes differ in nothing but a channel, its slot and what does not belong to the timer. -/
structure OnlyAt (i : Fin maxChannels) (s s' : Scene (SimTimer c) H M) : Prop where
  core : s'.registers.core = s.registers.core
  overflows : s'.shared.overflows = s.shared.overflows
  channels : ∀ j : Fin maxChannels, i ≠ j →
    s'.registers.channels[j.val]? = s.registers.channels[j.val]?
  slots : ∀ j, i ≠ j → s'.shared.slot j = s.shared.slot j

namespace OnlyAt

theorem trans (h : OnlyAt i s s') (h' : OnlyAt i s' s'') : OnlyAt i s s'' where
  core := h'.core.trans h.core
  overflows := h'.overflows.trans h.overflows
  channels j hj := (h'.channels j hj).trans (h.channels j hj)
  slots j hj := (h'.slots j hj).trans (h.slots j hj)

theorem now (h : OnlyAt i s s') : s'.now = s.now := by
  rw [Scene.now, Scene.now, h.overflows]
  exact SimTimer.extended_congr h.core _

theorem quiet (h : OnlyAt i s s') (hq : s.registers.Quiet) : s'.registers.Quiet := hq.congr h.core

theorem alert (h : OnlyAt i s s') (hj : i ≠ j) (ha : Alert j s) : Alert j s' :=
  ha.congr (h.slots j hj) (h.channels j hj) h.now

theorem modifySlot (s : Scene (SimTimer c) H M) (i : Fin maxChannels)
    (f : AlarmSlot H → AlarmSlot H) : OnlyAt i s { s with shared := s.shared.modifySlot i f } where
  core := rfl
  overflows := rfl
  channels _ _ := rfl
  slots _ hj := TimerShared.slot_modifySlot_other _ _ _ hj

theorem changeChannel (s : Scene (SimTimer c) H M) (i : Fin maxChannels)
    (clock : ClockModule) (f : UInt16 → UInt16) :
    OnlyAt i s { s with registers := s.registers.changeChannel clock i f } where
  core := SimTimer.core_changeChannel ..
  overflows := rfl
  channels _ hj := SimTimer.channels_changeChannel_other _ _ (Fin.val_ne_of_ne hj) f
  slots _ _ := rfl

theorem modifyChannel (s : Scene (SimTimer c) H M) (i : Fin maxChannels)
    (f : SimChannel → SimChannel) :
    OnlyAt i s { s with registers := s.registers.modifyChannel i f } where
  core := SimTimer.core_modifyChannel ..
  overflows := rfl
  channels _ hj := (SimTimer.channels_modifyChannel ..).trans (if_neg (Fin.val_ne_of_ne hj))
  slots _ _ := rfl

end OnlyAt

/-! ## The flag of a channel is cleared -/

theorem Attended.modifyChannel {f : SimChannel → SimChannel} (h : Attended i s)
    (hf : ∀ channel : SimChannel, channel.Awaits (s.shared.slot i).setting →
      (f channel).Awaits (s.shared.slot i).setting) :
    Attended i { s with registers := s.registers.modifyChannel i f } := by
  intro ha
  obtain ⟨he, channel, hi, hw⟩ := h ha
  refine ⟨he, f channel, ?_, hf channel hw⟩
  exact (SimTimer.channels_modifyChannel ..).trans (by rw [if_pos rfl, hi]; rfl)

theorem Attended.clearFlag (h : Attended i s) (clock : ClockModule) :
    Attended i { s with registers :=
      s.registers.changeChannel clock i (clearBits ChannelControl.interruptFlag) } := by
  intro ha
  obtain ⟨he, channel, hi, hw⟩ := h ha
  refine ⟨he, _, SimTimer.channels_changeChannel_self clock hi hw.comparing _, ?_⟩
  exact hw.acknowledge.congr rfl rfl

/-! ## Time -/

theorem Alert.advance {ticks : Nat} (h : Alert i s) (hc : s.registers.Countable ticks) :
    Alert i { s with registers := s.registers.advance ticks } := by
  by_cases hz : ticks = 0
  · rw [SimTimer.advance, if_pos hz]
    exact h
  intro ha
  obtain ⟨he, channel, hi, hw, hflag⟩ := h ha
  refine ⟨he, channel.meet s.registers.count ticks, ?_, hw.meet _ _, fun hr => ?_⟩
  · exact (SimTimer.channels_advance ..).trans (by rw [if_neg hz, hi]; rfl)
  by_cases hd : ticksUntil (s.shared.slot i).setting s.now ≤ 0
  · exact SimChannel.flagged_meet (hflag hd) _ _
  · -- the alarm came due on the way, and its channel matches no later
    have hahead : 0 < ticksUntil (s.shared.slot i).setting s.now := Int32.not_le.mp hd
    have hle := le_of_reached (SimTimer.extended_advance _ hc) hahead hr
    refine hw.meet_flagged (Nat.le_trans ?_ hle)
    exact hw.distance_le (SimTimer.count_toNat ..) ((ticksUntil_pos_iff ..).mp hahead).1

theorem now_acknowledge (h : s.registers.overflowed = true) :
    { s with
      registers := { s.registers with
        control := clearBits TimerControl.overflowFlag s.registers.control }
      shared := { s.shared with overflows := s.shared.overflows + 1 } }.now = s.now :=
  SimTimer.extended_acknowledge _ h

/-- A count that drifts raises no flags; it must not come to a setting that lies ahead. -/
theorem Alert.shift {ticks : UInt16} (h : Alert i s) (hc : s.registers.Countable ticks.toNat)
    (hshort : (s.shared.slot i).armed = true → 0 < ticksUntil (s.shared.slot i).setting s.now →
      ticks.toNat < ((s.shared.slot i).setting - s.now).toNat) :
    Alert i { s with registers := s.registers.shift ticks true } := by
  intro ha
  obtain ⟨he, channel, hi, hw, hflag⟩ := h ha
  refine ⟨he, channel, ?_, hw, fun hr => ?_⟩
  · rw [SimTimer.shift_channels]
    exact hi
  by_cases hd : ticksUntil (s.shared.slot i).setting s.now ≤ 0
  · exact hflag hd
  · have hahead : 0 < ticksUntil (s.shared.slot i).setting s.now := Int32.not_le.mp hd
    have hle := le_of_reached (SimTimer.extended_shift _ hc) hahead hr
    exact absurd (hshort ha hahead) (Nat.not_lt.mpr hle)

/-! ## Setting and firing -/

theorem onlyAt_program (clock : M → ClockModule) (i : Fin maxChannels) (setting : UInt32)
    (s : Scene (SimTimer c) H M) :
    OnlyAt i { s with registers := s.registers.shift s.registers.drift true }
      (s.program clock i setting) where
  core := core_program ..
  overflows := rfl
  channels j hj := by
    have hne := Fin.val_ne_of_ne hj
    rw [program, SimTimer.channels_changeChannel_other _ _ hne, SimTimer.channels_writeCompare,
      if_neg hne, SimTimer.writeChannel, SimTimer.channels_modifyChannel, if_neg hne,
      SimTimer.shift_channels]
  slots _ hj := TimerShared.slot_modifySlot_other _ _ _ hj

theorem onlyAt_arm (clock : M → ClockModule) (i : Fin maxChannels) (setting : UInt32)
    (s : Scene (SimTimer c) H M) :
    OnlyAt i { s with registers := s.registers.shift s.registers.drift true }
      (s.arm clock i setting) := by
  have h := onlyAt_program clock i setting s
  unfold arm
  dsimp only
  split
  · exact h.trans (.changeChannel _ i _ _)
  · exact h

theorem slot_arm (clock : M → ClockModule) (i : Fin maxChannels) (setting : UInt32)
    (s : Scene (SimTimer c) H M) :
    (s.arm clock i setting).shared.slot i =
      { s.shared.slot i with setting, armed := true } := by
  have h : (s.program clock i setting).shared.slot i =
      { s.shared.slot i with setting, armed := true } :=
    TimerShared.slot_modifySlot_self ..
  unfold arm
  dsimp only
  split <;> exact h

/-- An alarm that was overtaken while it was set is alert, too. -/
theorem alert_arm (clock : M → ClockModule) {i : Fin maxChannels} (hi : i < c)
    (setting : UInt32) (he : (s.shared.slot i).enabled = true) :
    Alert i (s.arm clock i setting) := by
  obtain ⟨channel, hchannel, hw, -⟩ := channel_program clock hi setting s
  intro _
  rw [slot_arm]
  refine ⟨he, ?_⟩
  by_cases hr : ticksUntil setting (s.program clock i setting).now ≤ 0
  · rw [arm, if_pos hr]
    refine ⟨_, SimTimer.channels_changeChannel_self _ hchannel hw.comparing _,
      hw.raise.congr rfl rfl, fun _ => channel.raise_flagged⟩
  · rw [arm, if_neg hr]
    exact ⟨channel, hchannel, hw, fun h => absurd h hr⟩

theorem onlyAt_fire (clock : M → ClockModule) (i : Fin maxChannels)
    (s : Scene (SimTimer c) H M) : OnlyAt i s (s.fire clock i) :=
  (OnlyAt.modifySlot s i fun slot => { slot with armed := false }).trans (.changeChannel _ i _ _)

theorem slot_fire (clock : M → ClockModule) (i : Fin maxChannels)
    (s : Scene (SimTimer c) H M) :
    (s.fire clock i).shared.slot i = { s.shared.slot i with armed := false } :=
  TimerShared.slot_modifySlot_self ..

end Msp430.Scene
