import Msp430.Proofs.Uptime.Delays

/-!
The slot of the delay alarm and the interrupt of its channel. What others do, dispatches and their
own alarms included, leaves an alarm that is not registered with nothing to wait for and its
channel with the interrupt off.
-/
namespace Msp430

open Run

/-- What the delay was switched to, the latest first, beside everything else. -/
structure Switched (M : Type) where
  switches : List Bool := []
  rest : M

abbrev Registry (c : Nat) (H M : Type) := Bedroom (SimTimer c) H (Switched M)

namespace Scene

variable {c : Nat} {H M : Type}

def switchesCell : Cell (Registry c H M) (List Bool) where
  get s := s.memory.2.rest.switches
  set switches s := { s with
    memory := (s.memory.1, { s.memory.2 with rest := { s.memory.2.rest with switches } }) }

/-! ## What is kept -/

/-- The slot of the delay alarm is taken, enabled just if the alarm is registered, and has nothing
to wait for otherwise. -/
structure Enlisted (registered : Bool) (slot : AlarmSlot H) (interrupting : Bool) : Prop where
  taken : slot.handler.isSome = true
  enabled : slot.enabled = registered
  idle : registered = false → slot.armed = false ∧ interrupting = false

/-- The timer runs or does not, the memory holds a clock and the switches so far, and the alarm of
the clock, which may be about to change, is in its slot. -/
structure Standing (delay : Option DelayAlarm) (running : Bool) (held : Uptime)
    (switches : List Bool) (s : Registry c H M) : Prop where
  stopped : s.registers.stopped = !running
  held : s.memory.1 = held
  switches : s.memory.2.rest.switches = switches
  slot : ∀ d, delay = some d → Enlisted d.flags.registered (s.shared.slot d.alarm.channel)
    (s.registers.interrupting d.alarm.channel)

/-- What the registration has to do with. -/
def regime (s : Registry c H M) :
    Bool × (Nat → Bool) × Vector (AlarmSlot H) maxChannels × Uptime × List Bool :=
  (s.registers.stopped, s.registers.interrupting, s.shared.slots, s.memory.1,
    s.memory.2.rest.switches)

/-- What others do beside alarms and dispatches has nothing to do with the registration. -/
def Aside (α : Type) (run : Run (Registry c H M) α) : Prop := run.Leaves regime

variable {delay : Option DelayAlarm} {running : Bool} {held : Uptime} {switches : List Bool}
variable {s t : Registry c H M}

theorem Standing.congr (h : Standing delay running held switches s) (ht : regime t = regime s) :
    Standing delay running held switches t := by
  simp only [regime, Prod.mk.injEq] at ht
  obtain ⟨hstopped, hinterrupting, hslots, hheld, hswitches⟩ := ht
  constructor
  · exact hstopped.trans h.stopped
  · exact hheld.trans h.held
  · exact hswitches.trans h.switches
  · intro d hd
    have hslot : t.shared.slot d.alarm.channel = s.shared.slot d.alarm.channel :=
      congrArg (·[d.alarm.channel]) hslots
    rw [hslot, hinterrupting]
    exact h.slot d hd

/-- The interrupt of the channel is not switched on while the alarm is not registered. -/
theorem Standing.access (h : Standing delay running held switches s) {registers : SimTimer c}
    (hstopped : registers.stopped = s.registers.stopped)
    (hmuted : ∀ d, delay = some d → d.flags.registered = false →
      s.registers.interrupting d.alarm.channel = false →
      registers.interrupting d.alarm.channel = false) :
    Standing delay running held switches { s with registers } where
  stopped := hstopped.trans h.stopped
  held := h.held
  switches := h.switches
  slot d hd := by
    obtain ⟨htaken, henabled, hidle⟩ := h.slot d hd
    refine ⟨htaken, henabled, fun hoff => ?_⟩
    exact ⟨(hidle hoff).1, hmuted d hd hoff (hidle hoff).2⟩

theorem Standing.modifySlot (h : Standing delay running held switches s) {i : Fin maxChannels}
    {f : AlarmSlot H → AlarmSlot H}
    (hf : ∀ d, delay = some d → d.alarm.channel = i → ∀ interrupting,
      Enlisted d.flags.registered (s.shared.slot i) interrupting →
      Enlisted d.flags.registered (f (s.shared.slot i)) interrupting) :
    Standing delay running held switches { s with shared := s.shared.modifySlot i f } where
  stopped := h.stopped
  held := h.held
  switches := h.switches
  slot d hd := by
    have hslot := h.slot d hd
    by_cases hi : d.alarm.channel = i
    · subst hi
      change Enlisted d.flags.registered ((s.shared.modifySlot d.alarm.channel f).slot _) _
      rw [TimerShared.slot_modifySlot_self]
      exact hf d hd rfl _ hslot
    · change Enlisted d.flags.registered ((s.shared.modifySlot i f).slot _) _
      rw [TimerShared.slot_modifySlot_other _ _ _ fun he => hi he.symm]
      exact hslot

/-! ## Registers -/

variable {clock : Uptime × Bedside (Switched M) → ClockModule} {notify : Notify (Registry c H M) H}

theorem standing_aside {α : Type} {run : Run (Registry c H M) α} (h : Aside α run) :
    Ensures (Standing delay running held switches) run
      fun _ => Standing delay running held switches :=
  h.keeps_of_congr (fun _ _ ht hs => hs.congr ht) fun _ _ => trivial

/-- Time passes. -/
theorem aside_advance (ticks : Nat) :
    Aside Unit (registersCell.update (·.advance ticks) : Run (Registry c H M) Unit) := by
  intro v patience s hs
  have hinterrupting : (s.registers.advance ticks).interrupting = s.registers.interrupting :=
    funext fun i => s.registers.interrupting_advance ticks i
  rw [← hs]
  simp only [regime, Prod.mk.injEq]
  exact ⟨s.registers.stopped_advance ticks, hinterrupting, rfl, rfl, rfl⟩

theorem standing_readChannel (i : Nat) :
    Ensures (Standing delay running held switches)
      ((simPort clock : TimerPort (Registry c H M)).readChannel i)
      fun _ => Standing delay running held switches := by
  intro patience s h
  apply h.access
  · exact SimTimer.eq_of_core (SimTimer.core_readChannel ..) SimTimer.stopped
  · intro d _ _ hmuted
    exact (s.registers.interrupting_readChannel _ _ i).trans hmuted

theorem standing_writeCompare (i : Nat) (count : UInt16) :
    Ensures (Standing delay running held switches)
      ((simPort clock : TimerPort (Registry c H M)).writeCompare i count)
      fun _ => Standing delay running held switches := by
  intro patience s h
  apply h.access
  · exact s.registers.stopped_writeCompare i count
  · intro d _ _ hmuted
    exact (s.registers.interrupting_writeCompare _ i count).trans hmuted

theorem standing_writeChannel (i : Nat) {bits : UInt16}
    (hbits : ∀ d, delay = some d → d.alarm.channel.val = i → d.flags.registered = false →
      anyBits ChannelControl.interruptEnable bits = false) :
    Ensures (Standing delay running held switches)
      ((simPort clock : TimerPort (Registry c H M)).writeChannel i bits)
      fun _ => Standing delay running held switches := by
  intro patience s h
  apply h.access
  · exact SimTimer.eq_of_core (SimTimer.core_writeChannel ..) SimTimer.stopped
  · intro d hd hoff hmuted
    by_cases hi : i = d.alarm.channel.val
    · subst hi
      exact s.registers.interrupting_writeChannel_self (hbits d hd rfl hoff)
    · exact (s.registers.interrupting_writeChannel_other hi bits).trans hmuted

theorem standing_disableChannel (i : Nat) :
    Ensures (Standing delay running held switches)
      ((simPort clock : TimerPort (Registry c H M)).disableChannel i)
      fun _ => Standing delay running held switches := by
  apply Triple.bind (standing_readChannel i)
  intro bits
  exact standing_writeChannel i fun _ _ _ _ => anyBits_clear_self ..

/-- Clearing the flag of a channel does not switch its interrupt on. -/
theorem standing_clearFlag (i : Nat) :
    Ensures (Standing delay running held switches)
      ((simPort clock : TimerPort (Registry c H M)).clearFlag i)
      fun _ => Standing delay running held switches := by
  intro patience s h
  apply h.access
  · exact SimTimer.eq_of_core (s.registers.core_changeChannel (clock s.memory) i _) SimTimer.stopped
  · intro d _ _ hmuted
    by_cases hi : i = d.alarm.channel.val
    · subst hi
      exact SimTimer.not_interrupting_clearFlag hmuted (clock s.memory)
    · exact ((SimTimer.interrupting_writeChannel_other _ hi _).trans
        (s.registers.interrupting_readChannel ..)).trans hmuted

theorem standing_counter : Ensures (Standing delay running held switches)
    (timer clock notify).counter fun _ => Standing delay running held switches := by
  have hcounter : (timer clock notify).counter.Leaves (regime (c := c) (H := H) (M := M)) := by
    apply Timer.leaves_counter
    · intro v patience s hs
      have hinterrupting : s.registers.readCount.2.interrupting = s.registers.interrupting :=
        SimTimer.interrupting_of_channels s.registers.channels_readCount
      rw [← hs]
      simp only [regime, Prod.mk.injEq]
      exact ⟨s.registers.stopped_readCount, hinterrupting, rfl, rfl, rfl⟩
    · exact fun _ _ _ hs => hs
  exact standing_aside hcounter

theorem standing_readVector : Ensures (Standing delay running held switches)
    (simPort clock : TimerPort (Registry c H M)).readVector
    fun _ => Standing delay running held switches := by
  intro patience s h
  apply h.access
  · exact s.registers.stopped_readVector
  · intro d _ _ hmuted
    exact (s.registers.interrupting_readVector _).trans hmuted

/-- The mode bits tell whether the timer runs. -/
theorem standing_changeControl {after : Bool} {f : UInt16 → UInt16}
    (hf : ∀ bits, anyBits TimerControl.mode bits = running →
      anyBits TimerControl.mode (f bits) = after) :
    Ensures (Standing delay running held switches)
      ((simPort clock : TimerPort (Registry c H M)).changeControl f)
      fun _ => Standing delay after held switches := by
  intro patience s h
  have hmode : anyBits TimerControl.mode s.registers.control = running := by
    have hstopped := h.stopped
    rw [SimTimer.stopped] at hstopped
    simpa using hstopped
  exact {
    stopped := by
      rw [← hf _ hmode]
      exact s.registers.stopped_writeControl _
    held := h.held
    switches := h.switches
    slot := h.slot }

/-! ## Other channels -/

/-- The alarm of the clock does not notice what is done with other channels. -/
theorem indifferent_standing {i : Fin maxChannels}
    (hi : ∀ d, delay = some d → d.alarm.channel ≠ i) :
    (timer clock notify : Timer (Registry c H M) H).IndifferentAt i (fun _ => True)
      (Standing delay running held switches) fun _ => True := by
  constructor
  · intro f _ patience s h
    exact h.modifySlot fun d hd he => absurd he (hi d hd)
  · exact standing_readChannel i
  · intro bits
    exact standing_writeChannel i fun d hd he _ => absurd (Fin.ext he) (hi d hd)
  · exact standing_writeCompare i
  · exact standing_counter

/-! ## Dispatch -/

/-- Service only ever disarms and switches interrupts off. -/
theorem standing_takeDue (channel : Nat) : Ensures (Standing delay running held switches)
    ((timer clock notify).takeDue channel) fun _ => Standing delay running held switches := by
  unfold Timer.takeDue
  split
  · apply Triple.bind (Q := fun _ => Standing delay running held switches)
    · exact fun _ _ h => h
    intro slot
    split
    · apply Triple.bind standing_counter
      intro now
      split
      · exact triple_pure _ fun _ h => h
      apply Triple.bind (Q := fun _ => Standing delay running held switches)
      · intro patience s h
        apply h.modifySlot
        intro d _ _ interrupting hslot
        exact ⟨hslot.taken, hslot.enabled, fun hoff => ⟨rfl, (hslot.idle hoff).2⟩⟩
      intro _
      apply Triple.bind (standing_disableChannel channel)
      intro _
      exact fun _ _ h => h
    · apply Triple.bind (standing_disableChannel channel)
      intro _
      exact triple_pure _ fun _ h => h
  · exact triple_pure _ fun _ h => h

section Dispatch

variable (hnotify : ∀ h event, Ensures (Standing delay running held switches) (notify h event)
  fun _ => Standing delay running held switches)

include hnotify

theorem standing_serviceAlarm (channel : Nat) : Ensures (Standing delay running held switches)
    ((timer clock notify).serviceAlarm channel) fun _ => Standing delay running held switches := by
  apply Timer.triple_serviceAlarm (J := Standing delay running held switches)
  · exact (standing_takeDue channel).weaken fun _ _ h => by split <;> exact h
  · exact fun h => hnotify h _

theorem standing_dispatchFirst : Ensures (Standing delay running held switches)
    (timer clock notify).dispatchFirst fun _ => Standing delay running held switches := by
  apply Triple.bind (standing_clearFlag 0)
  intro _
  exact standing_serviceAlarm hnotify 0

theorem standing_dispatchShared [DecidableEq H] : Ensures (Standing delay running held switches)
    (timer clock notify).dispatchShared fun _ => Standing delay running held switches := by
  apply Triple.bind standing_readVector
  intro vector
  split
  · exact triple_pure _ fun _ h => h
  split
  · apply Timer.triple_serviceOverflow fun _ _ => trivial
    · exact fun _ h => h.congr rfl
    · exact fun _ _ h => h.congr rfl
    · exact fun h => hnotify h _
  · exact standing_serviceAlarm hnotify _

end Dispatch

/-! ## Others -/

section Others

variable {onAlarm : H}

/-- The clock in the memory is the one whose alarm others stay away from. -/
theorem standing_onOther (a : Alarm) {α : Type} {run : Run (Registry c H M) α}
    (hrun : (timer clock notify).IndifferentAt a.channel (fun _ => True)
        (Standing held.delay running held switches) (fun _ => True) →
      Ensures (Standing held.delay running held switches) run
        fun _ => Standing held.delay running held switches) :
    Ensures (Standing held.delay running held switches) (onOther a run)
      fun _ => Standing held.delay running held switches := by
  apply Triple.bind (triple_assume fun _ _ => trivial)
  rintro _ patience s ⟨h, hfree⟩
  have hother : ∀ d, held.delay = some d → d.alarm.channel ≠ a.channel := by
    intro d hd he
    have hne := of_decide_eq_true hfree
    rw [h.held, Uptime.channel, hd, ← he] at hne
    exact hne rfl
  exact hrun (indifferent_standing hother) patience s h

/-- The channel of the delay alarm is taken. -/
theorem standing_claim (channel : Nat) (h : H) :
    Ensures (Standing delay running held switches) (Alarm.claim (timer clock notify) channel h).run
      fun _ => Standing delay running held switches := by
  rw [Alarm.run_claim]
  split
  · split
    · rename_i bound
      apply Triple.bind (Q := fun slot s => (slot.handler.isSome = false →
        ∀ d, delay = some d → d.alarm.channel ≠ ⟨channel, bound⟩) ∧
          Standing delay running held switches s)
      · intro patience s hs
        refine ⟨fun hfree d hd he => ?_, hs⟩
        have htaken := (hs.slot d hd).taken
        rw [he] at htaken
        exact Bool.false_ne_true (hfree.symm.trans htaken)
      intro slot
      refine triple_of_fact fun hother => ?_
      split
      · exact triple_pure _ fun _ hs => hs
      rename_i hfree
      have hd : (timer clock notify).IndifferentAt ⟨channel, bound⟩ (fun _ => True)
          (Standing delay running held switches) (fun _ => True) :=
        indifferent_standing (hother (by simpa using hfree))
      apply Triple.bind (hd.modifySlot _ fun _ => .inr trivial)
      intro _
      exact (hd.writeChannel 0).bind fun _ => keeps_pure _
    · exact triple_pure _ fun _ hs => hs
  · exact triple_pure _ fun _ hs => hs

variable [DecidableEq H]

theorem standing_activity (hnotify : ∀ h event,
      Ensures (Standing held.delay running held switches) (notify h event)
        fun _ => Standing held.delay running held switches)
    {α : Type} {run : Run (Registry c H M) α}
    (hrun : Activity (timer clock notify) onAlarm Aside α run) :
    Ensures (Standing held.delay running held switches) run
      fun _ => Standing held.delay running held switches := by
  cases hrun with
  | dispatchFirst => exact standing_dispatchFirst hnotify
  | dispatchShared => exact standing_dispatchShared hnotify
  | claim channel h => exact standing_claim channel h
  | setEnabled a on => exact standing_onOther a fun hi => hi.setEnabled on
  | set a setting => exact standing_onOther a fun hi => hi.set setting
  | cancel a => exact standing_onOther a fun hi => hi.cancel
  | release a => exact standing_onOther a fun hi => hi.release trivial
  | addOverflowHandler h =>
    exact Timer.keeps_addOverflowHandler h fun s longer hs _ => hs.congr rfl
  | removeOverflowHandler h =>
    exact Timer.keeps_removeOverflowHandler h fun s shorter hs _ => hs.congr rfl
  | other run hrun => exact standing_aside hrun

variable {code : Notify (Registry c H M) H → Notify (Registry c H M) H}

/-- The handler of the delay only raises its flag. -/
theorem standing_handlers
    (hcode : ∀ notify h event,
      Built (Activity (timer clock notify) onAlarm Aside) (code notify h event)) (h : H)
    (event : TimerEvent) :
    Ensures (Standing held.delay running held switches)
      (Notify.ofCode (withDelay onAlarm code) h event)
      fun _ => Standing held.delay running held switches := by
  apply Notify.keeps_ofCode fun _ _ => trivial
  intro notify hnotify h event
  unfold withDelay
  split
  · exact fun _ _ hs => hs.congr rfl
  · exact keeps_built (fun _ _ => standing_activity hnotify) (hcode notify h event)

end Others

end Scene

end Msp430
