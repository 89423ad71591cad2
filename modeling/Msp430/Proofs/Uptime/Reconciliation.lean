import Msp430.Proofs.Uptime.Registration

/-!
What the clock does with its own alarm. Every operation brings the registration in line with the
other flags, and the slot and the channel's interrupt with the registration.
-/
namespace Msp430.Scene

open Run

variable {c : Nat} {H M : Type}
variable {clock : Uptime × Bedside (Switched M) → ClockModule} {notify : Notify (Registry c H M) H}
variable {delay : Option DelayAlarm} {running : Bool} {held : Uptime} {switches : List Bool}
variable {s t : Registry c H M}

/-! ## The alarm -/

/-- The slot is changed for an alarm that is new or has new flags. -/
theorem Standing.enlist (h : Standing delay running held switches s) (d : DelayAlarm)
    {registers : SimTimer c} {f : AlarmSlot H → AlarmSlot H}
    (hstopped : registers.stopped = s.registers.stopped)
    (hslot : Enlisted d.flags.registered (f (s.shared.slot d.alarm.channel))
      (registers.interrupting d.alarm.channel)) :
    Standing (some d) running held switches
      { s with registers, shared := s.shared.modifySlot d.alarm.channel f } where
  stopped := hstopped.trans h.stopped
  held := h.held
  switches := h.switches
  slot e he := by
    obtain rfl : d = e := Option.some.inj he
    change Enlisted _ ((s.shared.modifySlot d.alarm.channel f).slot d.alarm.channel) _
    rw [TimerShared.slot_modifySlot_self]
    exact hslot

/-- A slot that is not armed, on a channel whose interrupt is off. -/
def withdrawn (clock : Uptime × Bedside (Switched M) → ClockModule) (i : Fin maxChannels)
    (s : Registry c H M) : Registry c H M :=
  let disabled := s.registers.changeChannel (clock s.memory) i
    (clearBits ChannelControl.interruptEnable)
  { s with
    registers := disabled.changeChannel (clock s.memory) i (clearBits ChannelControl.interruptFlag)
    shared := s.shared.modifySlot i fun slot => { slot with armed := false } }

variable (clock) in
theorem interrupting_withdrawn (i : Fin maxChannels) (s : Registry c H M) :
    (withdrawn clock i s).registers.interrupting i = false := by
  apply SimTimer.not_interrupting_clearFlag
  apply SimTimer.interrupting_writeChannel_self
  exact anyBits_clear_self ..

variable (clock) in
theorem stopped_withdrawn (i : Fin maxChannels) (s : Registry c H M) :
    (withdrawn clock i s).registers.stopped = s.registers.stopped :=
  (SimTimer.eq_of_core (SimTimer.core_changeChannel ..) SimTimer.stopped).trans
    (SimTimer.eq_of_core (SimTimer.core_changeChannel ..) SimTimer.stopped)

theorem Standing.withdrawn {d : DelayAlarm} (h : Standing (some d) running held switches s) :
    Standing (some d) running held switches (withdrawn clock d.alarm.channel s) := by
  obtain ⟨htaken, henabled, -⟩ := h.slot d rfl
  apply h.enlist d (stopped_withdrawn clock d.alarm.channel s)
  exact ⟨htaken, henabled, fun _ => ⟨rfl, interrupting_withdrawn clock d.alarm.channel s⟩⟩

/-- Enabling the alarm registers it; disabling it withdraws it first. -/
theorem standing_setEnabled (d : DelayAlarm) (on : Bool) :
    Ensures (Standing (some d) running held switches) (d.alarm.setEnabled (timer clock notify) on)
      fun _ => Standing (some { d with flags.registered := on }) running held switches := by
  intro patience s h
  have htaken := (h.slot d rfl).taken
  cases on with
  | true =>
    exact h.enlist { d with flags.registered := true } rfl
      ⟨htaken, rfl, fun hoff => (by cases hoff)⟩
  | false =>
    let i := d.alarm.channel
    have hslot : (withdrawn clock i s).shared.slot i = { s.shared.slot i with armed := false } :=
      TimerShared.slot_modifySlot_self ..
    refine h.withdrawn.enlist { d with flags.registered := false } rfl ?_
    change Enlisted false { (withdrawn clock i s).shared.slot i with enabled := false } _
    rw [hslot]
    exact ⟨htaken, rfl, fun _ => ⟨rfl, interrupting_withdrawn clock i s⟩⟩

/-! ## The registration -/

section Parts

variable {parts : UptimeParts (Registry c H M) H} (ht : parts.timer = timer clock notify)

include ht

theorem standing_reconcile (d : DelayAlarm) :
    Ensures (Standing (some d) running held switches) (d.reconcile parts) fun after s =>
      after = d.reconciled ∧ Standing (some after) running held switches s := by
  unfold DelayAlarm.reconcile
  rw [ht]
  split
  · rename_i he
    exact triple_pure _ fun s h => ⟨(DelayAlarm.reconciled_of_eq he).symm, h⟩
  · apply Triple.bind (standing_setEnabled d d.flags.wanted)
    intro _
    exact triple_pure _ fun _ h => ⟨rfl, h⟩

/-- The other flags do not show in the slot until they are reconciled. -/
theorem standing_setFlags {d : DelayAlarm} {flags : DelayFlags}
    (hflags : flags.registered = d.flags.registered) :
    Ensures (Standing (some d) running held switches) ({ d with flags }.reconcile parts)
      fun after s => after = { d with flags }.reconciled ∧
        Standing (some after) running held switches s := by
  refine Triple.of_imp (standing_reconcile ht { d with flags }) fun s h => ?_
  refine ⟨h.stopped, h.held, h.switches, fun e he => ?_⟩
  obtain rfl := Option.some.inj he
  rw [hflags]
  exact h.slot d rfl

theorem standing_setTimerActive (delay : Option DelayAlarm) (active : Bool) :
    Ensures (Standing delay running held switches)
      (delay.mapM fun d => d.setTimerActive parts active) fun after s =>
        after = delay.map (DelayAlarm.activated active) ∧
          Standing after running held switches s := by
  cases delay with
  | none => exact triple_pure _ fun _ h => ⟨rfl, h⟩
  | some d =>
    refine Triple.map some (standing_setFlags ht rfl) fun after s ⟨he, h⟩ => ?_
    exact ⟨congrArg some he, h⟩

/-- Without an alarm nothing is switched. -/
theorem standing_setDelayEnabled (u : Uptime) (on : Bool) :
    Ensures (Standing u.delay running held switches) (u.setDelayEnabled parts on).run
      fun answer s => match answer with
        | .error _ => u.delay = none ∧ Standing u.delay running held switches s
        | .ok after => ∃ d, u.delay = some d ∧
            after = { u with delay := some { d with flags.enabled := on }.reconciled } ∧
            Standing after.delay running held switches s := by
  rw [Uptime.run_setDelayEnabled]
  cases hd : u.delay with
  | none => exact triple_pure _ fun _ h => ⟨rfl, h⟩
  | some d =>
    have switched : Ensures (Standing (some d) running held switches) (d.setEnabled parts on)
        fun after s => after = { d with flags.enabled := on }.reconciled ∧
          Standing (some after) running held switches s := standing_setFlags ht rfl
    apply Triple.bind switched
    intro after
    exact triple_pure _ fun s ⟨he, h⟩ => ⟨d, rfl, by rw [he], h⟩

/-! ## Stopping and running -/

theorem standing_suspend (u : Uptime) :
    Ensures (Standing u.delay running held switches) (u.suspend parts) fun after s =>
      after = { u with delay := u.delay.map (DelayAlarm.activated false), state := .suspended } ∧
        Standing after.delay false held switches s := by
  unfold Uptime.suspend
  have hstop : Ensures (Standing u.delay running held switches)
      (simPort clock : TimerPort (Registry c H M)).stop
      fun _ => Standing u.delay false held switches :=
    standing_changeControl fun _ _ => anyBits_clear_self ..
  rw [ht]
  apply Triple.bind hstop
  intro _
  apply Triple.bind (standing_setTimerActive ht u.delay false)
  intro after
  exact triple_pure _ fun s ⟨he, h⟩ => ⟨by rw [he], h⟩

omit ht in
theorem standing_frequency {rates : Rates (Registry c H M)} (hrates : RatesAmong Aside rates) :
    Ensures (Standing delay running held switches) ((timer clock notify).frequency rates)
      fun _ => Standing delay running held switches := by
  have divided (rate : UInt32) : Ensures (Standing delay running held switches) (do
      return rate >>> (← (timer clock notify).port.dividerShift).toUInt32)
      fun _ => Standing delay running held switches := fun _ _ h => h
  apply Triple.bind (Q := fun _ => Standing delay running held switches)
  · exact fun _ _ h => h
  intro source
  cases source with
  | aclk => exact Triple.bind (standing_aside hrates.aclk) divided
  | smclk => exact Triple.bind (standing_aside hrates.smclk) divided
  | taclk => exact divided 0
  | inclk => exact divided 0

theorem standing_resume {rates : Rates (Registry c H M)} (hrates : RatesAmong Aside rates)
    (u : Uptime) :
    Ensures (Standing u.delay running held switches) (u.resume parts rates) fun after s =>
      after.delay = u.delay.map (DelayAlarm.activated true) ∧ after.state = .running ∧
        Standing after.delay true held switches s := by
  unfold Uptime.resume
  rw [ht]
  apply Triple.bind (standing_frequency hrates)
  intro ticksPerSecond
  apply Triple.bind (standing_aside hrates.mclk)
  intro mclkHz
  apply Triple.bind (standing_setTimerActive ht u.delay true)
  intro after
  refine triple_of_fact fun hafter => ?_
  apply Triple.bind (Q := fun _ => Standing after true held switches)
  · apply standing_changeControl
    exact fun _ _ => anyBits_replace_self (by decide) _
  intro _
  exact triple_pure _ fun _ h => ⟨hafter, rfl, h⟩

/-! ## Starting -/

omit ht in
/-- The channel of that number, if the timer has it and nobody took it. -/
def freeChannel (c : Nat) (slots : Vector (AlarmSlot H) maxChannels) (channel : Nat) :
    Option (Fin maxChannels) :=
  if bound : channel < maxChannels then
    if channel < c ∧ slots[channel].handler.isSome = false then some ⟨channel, bound⟩ else none
  else none

omit ht in
/-- The alarm of a clock that just started. -/
def freshDelay (i : Fin maxChannels) : DelayAlarm := ⟨⟨i⟩, ⟨true, true, false, true⟩⟩

omit ht in
/-- What there is before the clock claims its channel. -/
def premises (s : Registry c H M) : Vector (AlarmSlot H) maxChannels × Uptime × List Bool :=
  (s.shared.slots, s.memory.1, s.memory.2.rest.switches)

omit ht in
theorem standing_premises {slots : Vector (AlarmSlot H) maxChannels}
    (hs : premises s = (slots, held, switches)) :
    Standing none (!s.registers.stopped) held switches s := by
  simp only [premises, Prod.mk.injEq] at hs
  obtain ⟨-, hheld, hswitches⟩ := hs
  exact ⟨(Bool.not_not _).symm, hheld, hswitches, fun _ hd => by cases hd⟩

omit ht in
/-- The claim is granted just for a free channel. -/
theorem standing_claimOwn (slots : Vector (AlarmSlot H) maxChannels) (channel : Nat) (h : H) :
    Ensures (fun s => premises s = (slots, held, switches))
      (Alarm.claim (timer clock notify) channel h).run fun answer s => match answer with
        | .ok a => freeChannel c slots channel = some a.channel ∧
            ∃ running, Standing (some (freshDelay a.channel)) running held switches s
        | .error _ => freeChannel c slots channel = none ∧
            ∃ running, Standing none running held switches s := by
  rw [Alarm.run_claim]
  split
  · rename_i hpresent
    split
    · rename_i bound
      apply Triple.bind (Q := fun slot s => slot = slots[channel] ∧
        premises s = (slots, held, switches))
      · intro patience s hs
        have hslots : s.shared.slots = slots := congrArg Prod.fst hs
        exact ⟨congrArg (·[channel]) hslots, hs⟩
      intro slot
      refine triple_of_fact fun hslot => ?_
      split
      · rename_i htaken
        refine triple_pure _ fun s hs => ⟨?_, _, standing_premises hs⟩
        rw [freeChannel, dif_pos bound, if_neg]
        rintro ⟨-, hfree⟩
        rw [← hslot, htaken] at hfree
        cases hfree
      · rename_i hfree
        intro patience s hs
        refine ⟨?_, !s.registers.stopped, ?_⟩
        · rw [freeChannel, dif_pos bound, if_pos]
          exact ⟨hpresent, by rw [← hslot]; simpa using hfree⟩
        · change Standing _ _ _ _ { s with
            registers := s.registers.writeChannel channel 0
            shared := s.shared.modifySlot ⟨channel, bound⟩ fun slot =>
              { slot with handler := some h, enabled := false, armed := false } }
          apply (standing_premises hs).enlist (freshDelay ⟨channel, bound⟩)
          · exact SimTimer.eq_of_core (SimTimer.core_writeChannel ..) SimTimer.stopped
          · refine ⟨rfl, rfl, fun _ => ⟨rfl, ?_⟩⟩
            exact s.registers.interrupting_writeChannel_self (by decide)
    · rename_i hbound
      exact triple_pure _ fun s hs => ⟨dif_neg hbound, _, standing_premises hs⟩
  · rename_i habsent
    refine triple_pure _ fun s hs => ⟨?_, _, standing_premises hs⟩
    rw [freeChannel]
    split
    · exact if_neg fun hfree => habsent hfree.1
    · rfl

theorem standing_claimDelay (slots : Vector (AlarmSlot H) maxChannels) (channel : Nat) :
    Ensures (fun s => premises s = (slots, held, switches)) (DelayAlarm.claim parts channel)
      fun delay s => delay = (freeChannel c slots channel).map freshDelay ∧
        ∃ running, Standing delay running held switches s := by
  unfold DelayAlarm.claim
  rw [ht]
  apply Triple.bind (standing_claimOwn slots channel parts.onAlarm)
  intro answer
  cases answer with
  | error why => exact triple_pure _ fun s hs => ⟨by rw [hs.1]; rfl, hs.2⟩
  | ok a => exact triple_pure _ fun s hs => ⟨by rw [hs.1]; rfl, hs.2⟩

/-- The clock runs, with an alarm just if its channel was free. -/
theorem standing_start {rates : Rates (Registry c H M)} (hrates : RatesAmong Aside rates)
    (plan : UptimePlan) (slots : Vector (AlarmSlot H) maxChannels) :
    Ensures (fun s => premises s = (slots, held, switches)) (Uptime.start parts plan rates)
      fun u s => u.delay = ((plan.delayChannel.bind (freeChannel c slots)).map freshDelay).map
          (DelayAlarm.activated true) ∧
        u.state = .running ∧ Standing u.delay true held switches s := by
  have hp : (simPort clock : TimerPort (Registry c H M)).Spares premises :=
    spares_simPort fun _ _ => rfl
  have written (bits : UInt16) : Ensures (fun s => premises s = (slots, held, switches))
      ((simPort clock : TimerPort (Registry c H M)).writeControl bits)
      fun _ s => premises s = (slots, held, switches) :=
    (hp.writeControl bits).ensures _
  have changed (f : UInt16 → UInt16) : Ensures (fun s => premises s = (slots, held, switches))
      ((simPort clock : TimerPort (Registry c H M)).changeControl f)
      fun _ s => premises s = (slots, held, switches) :=
    Leaves.ensures (hp.readControl.bind fun _ => hp.writeControl _) _
  unfold Uptime.start
  rw [ht]
  apply Triple.bind (written 0)
  intro _
  apply Triple.bind (Q := fun _ s => premises s = (slots, held, switches))
  · apply Triple.bind (Q := fun _ s => premises s = (slots, held, switches))
    · exact fun _ _ hs => hs
    intro _
    exact (changed _).bind fun _ => changed _
  intro _
  apply Triple.bind (written _)
  intro _
  apply Triple.bind (changed _)
  intro _
  have resumed (delay : Option DelayAlarm) :
      Ensures (fun s => delay = (plan.delayChannel.bind (freeChannel c slots)).map freshDelay ∧
          ∃ running, Standing delay running held switches s)
        (Uptime.resume ⟨delay, 0, 0, .suspended⟩ parts rates) fun u s =>
          u.delay = ((plan.delayChannel.bind (freeChannel c slots)).map freshDelay).map
              (DelayAlarm.activated true) ∧
            u.state = .running ∧ Standing u.delay true held switches s := by
    rintro patience s ⟨rfl, running, hs⟩
    exact standing_resume ht hrates ⟨_, 0, 0, .suspended⟩ patience s hs
  dsimp only
  cases hplan : plan.delayChannel with
  | none =>
    rw [hplan] at resumed
    exact (resumed none).of_imp fun s hs => ⟨rfl, _, standing_premises hs⟩
  | some channel =>
    rw [hplan] at resumed
    exact Triple.bind (standing_claimDelay ht slots channel) resumed

end Parts

/-! ## Sleeping -/

theorem standing_cancel (d : DelayAlarm) :
    Ensures (Standing (some d) running held switches) (d.alarm.cancel (timer clock notify))
      fun _ => Standing (some d) running held switches := by
  intro patience s h
  have hwithdrawn : Standing (some d) running held switches (withdrawn clock d.alarm.channel s) :=
    h.withdrawn
  exact hwithdrawn

/-- A registered alarm may be armed. -/
theorem standing_set {d : DelayAlarm} (hregistered : d.flags.registered = true) (target : UInt32) :
    Ensures (Standing (some d) running held switches) (d.alarm.set (timer clock notify) target).run
      fun _ => Standing (some d) running held switches := by
  have asked (f : AlarmSlot H → Bool) : Ensures (Standing (some d) running held switches)
      (do return f (← (timer clock notify).slot d.alarm.channel))
      fun _ => Standing (some d) running held switches := fun _ _ h => h
  have arm : Ensures (Standing (some d) running held switches)
      (d.alarm.arm (timer clock notify) target)
      fun _ => Standing (some d) running held switches := by
    apply Alarm.triple_arm
    · intro patience s h
      apply h.modifySlot
      intro e he _ interrupting hslot
      obtain rfl : d = e := Option.some.inj he
      exact ⟨hslot.taken, hslot.enabled, fun hoff => (by rw [hregistered] at hoff; cases hoff)⟩
    · exact standing_readChannel _
    · intro bits
      apply standing_writeChannel
      intro e he _ hoff
      obtain rfl : d = e := Option.some.inj he
      rw [hregistered] at hoff
      cases hoff
    · exact standing_writeCompare _
    · exact standing_counter
  rw [Alarm.run_set]
  apply Triple.bind (asked AlarmSlot.enabled)
  intro enabled
  split
  · exact triple_pure _ fun _ h => h
  apply Triple.bind (asked AlarmSlot.armed)
  intro armed
  split
  · exact triple_pure _ fun _ h => h
  apply Triple.bind standing_counter
  intro now
  split
  · exact triple_pure _ fun _ h => h
  · exact arm.map _ fun _ _ h => h

variable [DecidableEq H] {onAlarm : H} {cpu : Cpu (Registry c H M)}
variable {code : Notify (Registry c H M) H → Notify (Registry c H M) H}
variable {activity : LowPowerMode → Run (Registry c H M) Unit}

/-- What the processor does while it waits is what others do, too. -/
structure CpuAmong (t : Timer (Registry c H M) H) (onAlarm : H) (cpu : Cpu (Registry c H M)) :
    Prop where
  feedWatchdog : Built (Activity t onAlarm Aside) cpu.feedWatchdog
  delayCycles : ∀ cycles, Built (Activity t onAlarm Aside) (cpu.delayCycles cycles)

section Sleep

variable (hsurroundings : Surroundings (simPort clock) onAlarm Aside code activity)

include hsurroundings

theorem standing_beside {α : Type} {run : Run (Registry c H M) α}
    (hrun : Built (Activity (timer clock (.ofCode (withDelay onAlarm code))) onAlarm Aside) run) :
    Ensures (Standing held.delay running held switches) run
      fun _ => Standing held.delay running held switches :=
  keeps_built (fun _ _ => standing_activity (standing_handlers hsurroundings.handlers)) hrun

theorem standing_sleep (mode : LowPowerMode) :
    Ensures (Standing held.delay running held switches) ((bedsideCpu cpu activity).sleep mode)
      fun _ => Standing held.delay running held switches := by
  have recorded (event : SleepEvent) : Ensures (Standing held.delay running held switches)
      (record event : Run (Registry c H M) Unit)
      fun _ => Standing held.delay running held switches := fun _ _ h => h.congr rfl
  apply Triple.bind (recorded _)
  intro _
  apply Triple.bind (standing_beside hsurroundings (hsurroundings.sleeping mode))
  intro _
  exact recorded _

/-- However a sleep ends, the registration is as it was. -/
theorem standing_sleepUntil (u : Uptime) (target : UInt32) (mode : LowPowerMode) :
    Ensures (Standing u.delay running u switches)
      (u.sleepUntil (bedsideParts (simPort clock) cpu onAlarm code activity) target mode).run
      fun _ => Standing u.delay running u switches := by
  rw [Uptime.run_sleepUntil]
  split
  · exact triple_pure _ fun _ h => h
  rename_i d hfilter
  obtain ⟨hd, hregistered⟩ := Option.filter_eq_some_iff.mp hfilter
  apply Triple.bind (Q := fun _ => Standing u.delay running u switches)
  · exact fun _ _ h => h.congr rfl
  intro _
  apply Triple.bind (Q := fun _ => Standing u.delay running u switches)
  · rw [hd]
    exact standing_set hregistered target
  intro answer
  cases answer with
  | error why => exact triple_pure _ fun _ h => h
  | ok _ =>
    apply Triple.bind (standing_sleep hsurroundings mode)
    intro _
    apply Triple.bind (Q := fun _ => Standing u.delay running u switches)
    · exact fun _ _ h => h
    intro fired
    have tail : Ensures (Standing u.delay running u switches)
        (do return (.ok (ticksUntil target (← UptimeParts.now
          (bedsideParts (simPort clock) cpu onAlarm code activity))) : Except SleepError Int32))
        fun _ => Standing u.delay running u switches :=
      Triple.bind standing_counter fun _ => keeps_pure _
    cases fired with
    | true => exact tail
    | false =>
      apply Triple.bind (Q := fun _ => Standing u.delay running u switches)
      · rw [hd]
        exact standing_cancel d
      intro _
      exact tail

theorem standing_delayUntil (u : Uptime) (target : UInt32) (mode : LowPowerMode)
    {exit : Run (Registry c H M) Bool}
    (hexit : Ensures (Standing u.delay running u switches) exit
      fun _ => Standing u.delay running u switches) :
    Ensures (Standing u.delay running u switches)
      (u.delayUntil (bedsideParts (simPort clock) cpu onAlarm code activity) target mode exit)
      fun _ => Standing u.delay running u switches := by
  apply triple_loop (J := fun _ => Standing u.delay running u switches) fun _ _ _ => trivial
  intro _
  apply Triple.bind hexit
  intro leave
  cases leave with
  | true => exact triple_pure _ fun _ h => h
  | false =>
    apply Triple.bind (standing_sleepUntil hsurroundings u target mode)
    intro answer
    cases answer with
    | ok left =>
      refine triple_pure _ fun s h => ?_
      by_cases hleft : left > 0
      · rw [if_pos hleft]
        exact h
      · rw [if_neg hleft]
        exact h
    | error why =>
      rcases why with _ | _ | _ | _ | _
      all_goals exact triple_pure _ fun _ h => h

theorem standing_delayNanos
    (hcpu : CpuAmong (timer clock (.ofCode (withDelay onAlarm code))) onAlarm cpu) (u : Uptime)
    (ns : UInt32) :
    Ensures (Standing u.delay running u switches)
      (u.delayNanos (bedsideParts (simPort clock) cpu onAlarm code activity) ns)
      fun _ => Standing u.delay running u switches := by
  have now : Ensures (Standing u.delay running u switches)
      (UptimeParts.now (bedsideParts (simPort clock) cpu onAlarm code activity))
      fun _ => Standing u.delay running u switches := standing_counter
  unfold Uptime.delayNanos
  split
  · exact standing_beside hsurroundings (hcpu.delayCycles _)
  apply Triple.bind now
  intro start
  apply Triple.bind (standing_delayUntil hsurroundings u _ _ (keeps_pure false))
  intro answer
  cases answer with
  | ok _ => exact triple_pure _ fun _ h => h
  | error why =>
    apply triple_loop (J := fun _ => Standing u.delay running u switches) fun _ _ _ => trivial
    intro _
    apply Triple.bind (Q := fun _ => Standing u.delay running u switches)
    · apply Triple.bind now
      intro count
      split
      · apply Triple.bind (standing_beside hsurroundings hcpu.feedWatchdog)
        intro _
        exact keeps_pure _
      · exact keeps_pure _
    intro reached
    refine triple_pure _ fun s h => ?_
    cases reached with
    | true => exact h
    | false => exact h

end Sleep

end Msp430.Scene
