import Msp430.Proofs.Timer.Count
import Msp430.Proofs.Uptime.Conversions
import Msp430.Proofs.Uptime.Delays

/-!
How long a delay takes. Its steps are written down, whatever the timer is like and whoever is awake in
between: a running clock is read a last time when the target has been reached, by a sleeper or by one
who watches the count. On a suspended clock only cycles are counted.
-/
namespace Msp430

open Run

variable {σ H : Type}

/-! ## The steps of a delay -/

inductive WaitEvent where
  | counted (now : UInt32)
  | fed
  | slept (mode : LowPowerMode)
  /-- The slots, a channel or the flag of the alarm were looked at or changed. -/
  | handled
  deriving DecidableEq, Repr

namespace WaitEvent

/-- The count that was read last, in a record with the latest first. -/
def lastRead : List WaitEvent → Option UInt32
  | [] => none
  | .counted now :: _ => some now
  | _ :: earlier => lastRead earlier

/-- The count that was read last has reached the target. -/
def Reached (target : UInt32) (events : List WaitEvent) : Prop :=
  ∃ now, lastRead events = some now ∧ ticksUntil target now ≤ 0

/-- Looks at the count that had not reached the target, and the watchdog was fed behind each. -/
inductive Watched (target : UInt32) : List WaitEvent → Prop
  | begun : Watched target []
  | again {now : UInt32} {earlier : List WaitEvent} : Watched target earlier →
      0 < ticksUntil target now → Watched target (.fed :: .counted now :: earlier)

end WaitEvent

open WaitEvent

namespace UptimeParts

variable (parts : UptimeParts σ H)

/-- What handling the alarm is made of, apart from reading the count. -/
inductive Handles : ∀ α : Type, Run σ α → Prop
  | readSlot (i : Fin maxChannels) : Handles _ (parts.timer.slot i)
  | modifySlot (i : Fin maxChannels) (f : AlarmSlot H → AlarmSlot H) :
      Handles _ (parts.timer.modifySlot i f)
  | readChannel (i : Nat) : Handles _ (parts.timer.port.readChannel i)
  | writeChannel (i : Nat) (bits : UInt16) : Handles _ (parts.timer.port.writeChannel i bits)
  | writeCompare (i : Nat) (count : UInt16) : Handles _ (parts.timer.port.writeCompare i count)
  | readFired : Handles _ parts.fired.read
  | lowerFired : Handles _ (parts.fired.write false)

inductive WaitStep : WaitEvent → σ → σ → Prop
  | counted {patience : Nat} {now : UInt32} {s t : σ} :
      parts.now.start patience s = .ok now t → WaitStep (.counted now) s t
  | fed {patience : Nat} {s t : σ} :
      parts.cpu.feedWatchdog.start patience s = .ok () t → WaitStep .fed s t
  | slept {patience : Nat} {mode : LowPowerMode} {s t : σ} :
      (parts.cpu.sleep mode).start patience s = .ok () t → WaitStep (.slept mode) s t
  | handled {patience : Nat} {α : Type} {run : Run σ α} {a : α} {s t : σ} :
      Handles parts α run → run.start patience s = .ok a t → WaitStep .handled s t

/-- The events lead from one state to the other, the latest first. -/
inductive Waits : List WaitEvent → σ → σ → Prop
  | none (s : σ) : Waits [] s s
  | step {events : List WaitEvent} {event : WaitEvent} {s t u : σ} :
      Waits events s t → WaitStep parts event t u → Waits (event :: events) s u

variable {parts} in
/-- A record that counts, feeds and sleeps are entered into holds what the events say. -/
theorem Waits.recorded {log : σ → List WaitEvent} {events : List WaitEvent} {s t : σ}
    (hlog : ∀ event s t, parts.WaitStep event s t →
      log t = if event = .handled then log s else event :: log s)
    (h : parts.Waits events s t) : log t = events.filter (· ≠ .handled) ++ log s := by
  induction h with
  | none s => rfl
  | @step events event s t u _ hstep ih =>
    rw [hlog event t u hstep, ih]
    by_cases hhandled : event = .handled
    · simp [hhandled]
    · simp [hhandled]

/-- Events with the property lead here. -/
def Trail (s : σ) (P : List WaitEvent → Prop) (t : σ) : Prop :=
  ∃ events, parts.Waits events s t ∧ P events

/-- Events that begin like these lead here. -/
abbrev Behind (s : σ) (base : List WaitEvent) : σ → Prop := parts.Trail s (base <:+ ·)

variable {parts} {s t : σ} {P Q : List WaitEvent → Prop} {base : List WaitEvent}

theorem Trail.imp (h : parts.Trail s P t) (hpq : ∀ events, P events → Q events) :
    parts.Trail s Q t := by
  obtain ⟨events, hwaits, hp⟩ := h
  exact ⟨events, hwaits, hpq events hp⟩

/-- A step adds its event. -/
theorem ensures_step {α : Type} {run : Run σ α} {event : α → WaitEvent}
    (h : ∀ {patience s a t}, run.start patience s = .ok a t → parts.WaitStep (event a) s t) :
    Ensures (parts.Trail s P) run
      fun a => parts.Trail s fun events => ∃ earlier, events = event a :: earlier ∧ P earlier := by
  rintro patience t ⟨events, hwaits, hp⟩
  cases hrun : run.start patience t with
  | error why u => trivial
  | ok a u => exact ⟨event a :: events, hwaits.step (h hrun), events, rfl, hp⟩

theorem ensures_now : Ensures (parts.Trail s P) parts.now
    fun now => parts.Trail s fun events => ∃ earlier, events = .counted now :: earlier ∧ P earlier :=
  ensures_step .counted

/-- Steps come behind what there is already. -/
theorem keeps_behind {α : Type} {run : Run σ α} {event : α → WaitEvent}
    (h : ∀ {patience s a t}, run.start patience s = .ok a t → parts.WaitStep (event a) s t) :
    Ensures (parts.Behind s base) run fun _ => parts.Behind s base := by
  refine (ensures_step h).weaken fun a t ht => ht.imp ?_
  rintro events ⟨earlier, rfl, hbase⟩
  exact hbase.trans (List.suffix_cons _ _)

theorem keeps_handled {α : Type} {run : Run σ α} (h : parts.Handles α run) :
    Ensures (parts.Behind s base) run fun _ => parts.Behind s base :=
  keeps_behind fun hrun => .handled h hrun

theorem indifferent_behind :
    parts.timer.Indifferent (parts.Behind s base) fun _ => True where
  modifySlot i f := keeps_handled (.modifySlot i f)
  readChannel i := keeps_handled (.readChannel i)
  writeChannel i bits := keeps_handled (.writeChannel i bits)
  writeCompare i count := keeps_handled (.writeCompare i count)
  counter := keeps_behind .counted

/-! ## Sleeping -/

theorem keeps_slotField (i : Fin maxChannels) (field : AlarmSlot H → Bool) :
    Ensures (parts.Behind s base) (return field (← parts.timer.slot i))
      fun _ => parts.Behind s base :=
  Triple.bind (keeps_handled (.readSlot i)) fun _ => triple_pure _ fun _ h => h

/-- A target that is refused as past has been reached by the count. -/
theorem ensures_set (a : Alarm) (target : UInt32) :
    Ensures (parts.Behind s base) (a.set parts.timer target).run
      fun answer => parts.Trail s fun events => base <:+ events ∧
        (answer = .error .past → Reached target events) := by
  have refused (why : AlarmError) (hwhy : why ≠ .past) (events : List WaitEvent)
      (hbase : base <:+ events) : base <:+ events ∧
        ((.error why : Except AlarmError Unit) = .error .past → Reached target events) :=
    ⟨hbase, fun he => absurd (Except.error.inj he) hwhy⟩
  rw [Alarm.run_set]
  apply Triple.bind (keeps_slotField a.channel AlarmSlot.enabled)
  intro enabled
  split
  · exact triple_pure _ fun _ h => h.imp (refused .disabled (by decide))
  apply Triple.bind (keeps_slotField a.channel AlarmSlot.armed)
  intro armed
  split
  · exact triple_pure _ fun _ h => h.imp (refused .busy (by decide))
  apply Triple.bind ensures_now
  intro now
  by_cases hpast : ticksUntil target now ≤ 0
  · rw [if_pos hpast]
    refine triple_pure _ fun _ h => h.imp ?_
    rintro events ⟨earlier, rfl, hbase⟩
    exact ⟨hbase.trans (List.suffix_cons _ _), fun _ => ⟨now, rfl, hpast⟩⟩
  · rw [if_neg hpast]
    have hbehind : parts.timer.Indifferent (parts.Behind s base) fun _ => True := indifferent_behind
    have harm := (hbehind.at_channel a.channel).arm target
    refine (harm.of_imp fun _ h => h.imp ?_).map _ fun _ _ h =>
      h.imp fun events hbase => ⟨hbase, nofun⟩
    rintro events ⟨earlier, rfl, hbase⟩
    exact hbase.trans (List.suffix_cons _ _)

/-- A sleep answers with what was left at the last look at the count. -/
structure Told (base : List WaitEvent) (target : UInt32) (answer : Except SleepError Int32)
    (events : List WaitEvent) : Prop where
  behind : base <:+ events
  left : ∀ left, answer = .ok left → ∃ now, lastRead events = some now ∧
    left = ticksUntil target now
  past : answer = .error (.arm .past) → Reached target events

theorem ensures_sleepUntil (u : Uptime) (target : UInt32) (mode : LowPowerMode) :
    Ensures (parts.Behind s base) (u.sleepUntil parts target mode).run
      fun answer => parts.Trail s (Told base target answer) := by
  rw [Uptime.run_sleepUntil]
  cases u.delay.filter (·.flags.registered) with
  | none => exact triple_pure _ fun _ h => h.imp fun _ hbase => ⟨hbase, nofun, nofun⟩
  | some d =>
    apply Triple.bind (keeps_handled .lowerFired)
    intro _
    apply Triple.bind (ensures_set d.alarm target)
    intro answer
    cases answer with
    | error why =>
      refine triple_pure _ fun _ h => h.imp ?_
      rintro events ⟨hbase, hpast⟩
      refine ⟨hbase, nofun, fun he => hpast ?_⟩
      obtain rfl : why = .past := SleepError.arm.inj (Except.error.inj he)
      rfl
    | ok _ =>
      have hlook : Ensures (parts.Behind s base)
          (do return .ok (ticksUntil target (← parts.now)) : Run σ (Except SleepError Int32))
          fun answer => parts.Trail s (Told base target answer) := by
        apply Triple.bind ensures_now
        intro now
        refine triple_pure _ fun _ h => h.imp ?_
        rintro events ⟨earlier, rfl, hbase⟩
        refine ⟨hbase.trans (List.suffix_cons _ _), fun left hleft => ⟨now, rfl, ?_⟩, nofun⟩
        exact (Except.ok.inj hleft).symm
      refine Triple.bind (Triple.of_imp (keeps_behind .slept) fun _ h => h.imp fun _ h => h.1) ?_
      intro _
      apply Triple.bind (keeps_handled .readFired)
      intro fired
      cases fired with
      | true => exact hlook
      | false => exact Triple.bind (indifferent_behind.cancel d.alarm) fun _ => hlook

/-! ## Delays -/

/-- A delay by sleeping is over once the count has reached the target. -/
theorem ensures_delayUntil (u : Uptime) (target : UInt32) (mode : LowPowerMode) :
    Ensures (parts.Behind s base) (u.delayUntil parts target mode (return false))
      fun answer => parts.Trail s fun events => base <:+ events ∧
        (answer.isOk = true → Reached target events) := by
  refine triple_loop (J := fun _ => parts.Behind s base) (fun _ _ _ => trivial) (fun _ => ?_) ()
  rw [pure_bind, if_neg (by decide)]
  apply Triple.bind (ensures_sleepUntil u target mode)
  intro answer
  cases answer with
  | ok left =>
    refine triple_pure _ fun t h => ?_
    by_cases hleft : left > 0
    · rw [if_pos hleft]
      exact h.imp fun events ht => ht.behind
    · rw [if_neg hleft]
      refine h.imp fun events ht => ⟨ht.behind, fun _ => ?_⟩
      obtain ⟨now, hnow, heq⟩ := ht.left left rfl
      exact ⟨now, hnow, heq ▸ Int32.not_lt.mp hleft⟩
  | error why =>
    cases why with
    | notRegistered => exact triple_pure _ fun t h => h.imp fun events ht => ⟨ht.behind, nofun⟩
    | arm why =>
      cases why with
      | past =>
        exact triple_pure _ fun t h => h.imp fun events ht => ⟨ht.behind, fun _ => ht.past rfl⟩
      | noChannel | busy | disabled =>
        exact triple_pure _ fun t h => h.imp fun events ht => ⟨ht.behind, nofun⟩

/-- Only looks that had not shown the target come before. -/
def Watching (target : UInt32) (base events : List WaitEvent) : Prop :=
  ∃ watched, events = watched ++ base ∧ Watched target watched

/-- The last look shows that the target has been reached. -/
def Relieved (target : UInt32) (base events : List WaitEvent) : Prop :=
  ∃ now earlier, events = .counted now :: earlier ∧ Watching target base earlier ∧
    ticksUntil target now ≤ 0

theorem ensures_look (target : UInt32) :
    Ensures (parts.Trail s (Watching target base))
      (do
        if ticksUntil target (← parts.now) > 0 then
          parts.cpu.feedWatchdog
          return false
        return true)
      fun met => parts.Trail s (if met then Relieved target base else Watching target base) := by
  apply Triple.bind ensures_now
  intro now
  by_cases hahead : ticksUntil target now > 0
  · rw [if_pos hahead]
    apply Triple.bind (ensures_step .fed)
    intro _
    refine triple_pure _ fun t h => h.imp ?_
    rintro events ⟨fed, rfl, earlier, rfl, watched, rfl, hwatched⟩
    exact ⟨.fed :: .counted now :: watched, rfl, hwatched.again hahead⟩
  · rw [if_neg hahead]
    refine triple_pure _ fun t h => h.imp ?_
    rintro events ⟨earlier, rfl, hearlier⟩
    exact ⟨now, earlier, rfl, hearlier, Int32.not_lt.mp hahead⟩

/-- Whoever watches the count does so until it has reached the target. -/
theorem ensures_watchUntil (target : UInt32) :
    Ensures (parts.Trail s (· = base)) (parts.watchUntil target)
      fun _ => parts.Trail s (Relieved target base) := by
  refine Triple.of_imp (triple_loop (J := fun _ => parts.Trail s (Watching target base))
    (fun _ _ _ => trivial) (fun _ => ?_) ()) fun _ h => h.imp fun _ he => ⟨[], he, .begun⟩
  apply Triple.bind (ensures_look target)
  intro met
  cases met with
  | true => exact triple_pure _ fun _ h => h
  | false => exact triple_pure _ fun _ h => h

/-- The sleeps of a delay, and the looks behind them if a sleep was not possible. -/
def SleptOrWatched (target : UInt32) (base events : List WaitEvent) : Prop :=
  ∃ naps, base <:+ naps ∧ (events = naps ∧ Reached target naps ∨ Relieved target naps events)

variable (parts) in
/-- What a delay does once it has its target. -/
def waitUntil (u : Uptime) (target : UInt32) : Run σ Unit := do
  if (← u.delayUntil parts target .lpm0 (return false)) matches .error _ then
    parts.watchUntil target

theorem delayNanos_running {u : Uptime} (h : u.state = .running) (ns : UInt32) :
    u.delayNanos parts ns =
      (do waitUntil parts u ((← parts.now) + ticksOfNanos u.ticksPerSecond ns)) :=
  if_neg fun hne => hne h

theorem ensures_waitUntil (u : Uptime) (target : UInt32) :
    Ensures (parts.Trail s (· = base)) (waitUntil parts u target)
      fun _ => parts.Trail s (SleptOrWatched target base) := by
  have hbehind (t : σ) (h : parts.Trail s (· = base) t) : parts.Behind s base t :=
    h.imp fun events he => he ▸ List.suffix_refl _
  refine Triple.bind ((ensures_delayUntil u target .lpm0).of_imp hbehind) fun answer => ?_
  cases answer with
  | ok _ =>
    refine triple_pure _ fun _ h => h.imp ?_
    rintro events ⟨hbase, hreached⟩
    exact ⟨events, hbase, .inl ⟨rfl, hreached rfl⟩⟩
  | error why =>
    rintro patience t ⟨naps, hwaits, hbase, -⟩
    refine ((ensures_watchUntil target).weaken fun _ _ h => h.imp ?_) patience t
      ⟨naps, hwaits, rfl⟩
    intro events hrelieved
    exact ⟨naps, hbase, .inr hrelieved⟩

/-- Without an alarm to sleep on there are only looks. -/
theorem ensures_waitUntil_unregistered {u : Uptime} (h : u.flags.registered = false)
    (target : UInt32) :
    Ensures (parts.Trail s (· = base)) (waitUntil parts u target)
      fun _ => parts.Trail s (Relieved target base) := by
  have hrefused : Ensures (parts.Trail s (· = base)) (u.delayUntil parts target .lpm0 (return false))
      fun answer t => answer.isOk = false ∧ parts.Trail s (· = base) t := by
    refine triple_loop (J := fun _ => parts.Trail s (· = base)) (fun _ _ _ => trivial)
      (fun _ => ?_) ()
    rw [pure_bind, if_neg (by decide), Uptime.run_sleepUntil_unregistered h, pure_bind]
    exact triple_pure _ fun _ ht => ⟨rfl, ht⟩
  refine Triple.bind hrefused fun answer => ?_
  cases answer with
  | ok _ => exact fun _ _ h => absurd h.1.symm Bool.false_ne_true
  | error why => exact (ensures_watchUntil target).of_imp fun _ h => h.2

/-- A delay on a running clock sleeps until the count has reached the target, or it goes over to
watching the count; without an alarm it does so at once. -/
structure Delayed (u : Uptime) (target : UInt32) (first : UInt32)
    (events : List WaitEvent) : Prop where
  slept : SleptOrWatched target [.counted first] events
  watched : u.flags.registered = false → Relieved target [.counted first] events

theorem Delayed.reached {u : Uptime} {target first : UInt32} {events : List WaitEvent}
    (h : Delayed u target first events) : Reached target events := by
  obtain ⟨naps, -, ⟨rfl, hreached⟩ | ⟨now, earlier, rfl, -, hnow⟩⟩ := h.slept
  · exact hreached
  · exact ⟨now, rfl, hnow⟩

theorem ensures_delayNanos {u : Uptime} (hrunning : u.state = .running) (ns : UInt32) (s : σ) :
    Ensures (· = s) (u.delayNanos parts ns) fun _ => parts.Trail s fun events =>
      ∃ first, Delayed u (first + ticksOfNanos u.ticksPerSecond ns) first events := by
  rw [delayNanos_running hrunning]
  have hbegun (t : σ) (h : t = s) : parts.Trail s (· = []) t := by
    subst h
    exact ⟨[], .none t, rfl⟩
  refine Triple.bind (ensures_now.of_imp hbegun) fun first => ?_
  have hfirst (t : σ) (h : parts.Trail s (fun events => ∃ earlier,
      events = .counted first :: earlier ∧ earlier = []) t) :
      parts.Trail s (· = [.counted first]) t := by
    refine h.imp ?_
    rintro events ⟨_, rfl, rfl⟩
    rfl
  let target := first + ticksOfNanos u.ticksPerSecond ns
  cases hregistered : u.flags.registered with
  | false =>
    refine ((ensures_waitUntil_unregistered hregistered target).of_imp hfirst).weaken
      fun _ _ h => h.imp ?_
    intro events hrelieved
    exact ⟨first, ⟨_, List.suffix_refl _, .inr hrelieved⟩, fun _ => hrelieved⟩
  | true =>
    refine ((ensures_waitUntil u target).of_imp hfirst).weaken fun _ _ h => h.imp ?_
    intro events hslept
    exact ⟨first, hslept, fun h => absurd (hregistered.symm.trans h) (by decide)⟩

/-! ## The rate at the last resume -/

variable (parts) in
/-- MCLK ran at this rate when the clock was resumed last. -/
inductive Resumed (hz : UInt32) : Uptime → Prop
  | resumed {u v : Uptime} {rates : Rates σ} {patience : Nat} {s t asked answered : σ}
      {ticksPerSecond : UInt32} :
      (parts.timer.frequency rates).start patience s = .ok ticksPerSecond asked →
      rates.mclk.start patience asked = .ok hz answered →
      (u.resume parts rates).start patience s = .ok v t → Resumed hz v
  | suspended {u v : Uptime} {patience : Nat} {s t : σ} : Resumed hz u →
      (u.suspend parts).start patience s = .ok v t → Resumed hz v
  | switched {u v : Uptime} {on : Bool} {patience : Nat} {s t : σ} : Resumed hz u →
      (u.setDelayEnabled parts on).run.start patience s = .ok (.ok v) t → Resumed hz v
  | converting {u : Uptime} (ticksPerSecond : UInt32) : Resumed hz u →
      Resumed hz (u.withTicksPerSecond ticksPerSecond)

/-- Every clock that was resumed was resumed at some rate. -/
theorem resumed_of_resume {u v : Uptime} {rates : Rates σ} {patience : Nat} {s t : σ}
    (h : (u.resume parts rates).start patience s = .ok v t) : ∃ hz, parts.Resumed hz v := by
  obtain ⟨ticksPerSecond, asked, hfrequency, hrest⟩ := start_ok_of_bind h
  obtain ⟨hz, answered, hmclk, -⟩ := start_ok_of_bind hrest
  exact ⟨hz, .resumed hfrequency hmclk h⟩

/-- Starting a clock resumes it. -/
theorem resumed_of_start {plan : UptimePlan} {rates : Rates σ} {u : Uptime} {patience : Nat}
    {s t : σ} (h : (Uptime.start parts plan rates).start patience s = .ok u t) :
    ∃ hz, parts.Resumed hz u := by
  obtain ⟨_, _, -, hreset⟩ := start_ok_of_bind h
  obtain ⟨_, _, -, hselect⟩ := start_ok_of_bind hreset
  obtain ⟨_, _, -, henable⟩ := start_ok_of_bind hselect
  obtain ⟨_, _, -, hclaim⟩ := start_ok_of_bind henable
  cases hchannel : plan.delayChannel with
  | none =>
    rw [hchannel] at hclaim
    obtain ⟨delay, _, -, hresume⟩ := start_ok_of_bind hclaim
    exact resumed_of_resume hresume
  | some channel =>
    rw [hchannel] at hclaim
    obtain ⟨delay, _, -, hresume⟩ := start_ok_of_bind hclaim
    exact resumed_of_resume hresume

theorem ensures_resume_mclkHz (u : Uptime) (ticksPerSecond hz : UInt32) :
    Ensures (fun _ => True) (do
      let delay ← u.delay.mapM fun d => d.setTimerActive parts true
      parts.timer.port.runContinuously
      return (⟨delay, ticksPerSecond, hz, .running⟩ : Uptime)) fun v _ => v.mclkHz = hz := by
  apply Triple.bind (ensures_anything _)
  intro delay
  exact Triple.bind (ensures_anything _) fun _ => triple_pure _ fun _ _ => rfl

theorem ensures_suspend_mclkHz (u : Uptime) :
    Ensures (fun _ => True) (u.suspend parts) fun v _ => v.mclkHz = u.mclkHz := by
  apply Triple.bind (ensures_anything _)
  intro _
  exact Triple.bind (ensures_anything _) fun _ => triple_pure _ fun _ _ => rfl

theorem ensures_setDelayEnabled_mclkHz (u : Uptime) (on : Bool) :
    Ensures (fun _ => True) (u.setDelayEnabled parts on).run
      fun answer _ => ∀ v, answer = .ok v → v.mclkHz = u.mclkHz := by
  rw [Uptime.run_setDelayEnabled]
  cases u.delay with
  | none => exact triple_pure _ fun _ _ => nofun
  | some d =>
    apply Triple.bind (ensures_anything _)
    intro switched
    refine triple_pure _ fun _ _ v hv => ?_
    obtain rfl := Except.ok.inj hv
    rfl

theorem Resumed.mclkHz {hz : UInt32} {u : Uptime} (h : parts.Resumed hz u) : u.mclkHz = hz := by
  induction h with
  | resumed hfrequency hmclk hresume =>
    rw [Uptime.resume, start_bind_ok hfrequency, start_bind_ok hmclk] at hresume
    have hrate := Triple.of_start (ensures_resume_mclkHz _ _ _) trivial hresume
    exact hrate
  | suspended _ hsuspend ih =>
    have hrate := Triple.of_start (ensures_suspend_mclkHz _) trivial hsuspend
    exact hrate.trans ih
  | switched _ hswitch ih =>
    have hrate := Triple.of_start (ensures_setDelayEnabled_mclkHz _ _) trivial hswitch
    exact (hrate _ rfl).trans ih
  | converting ticksPerSecond _ ih => exact ih

/-! ## The length of a delay -/

/-- A target less than half a round away is reached when that many ticks have passed. -/
theorem le_of_target_reached {first last : UInt32} {ticks : Nat} (hticks : ticks < 2147483648)
    (h : ticksUntil (first + ticks.toUInt32) last ≤ 0) : ticks ≤ (last - first).toNat := by
  have hf := first.toNat_lt
  have hl := last.toNat_lt
  have ht : ticks.toUInt32.toNat = ticks := Nat.mod_eq_of_lt (by omega)
  rw [ticksUntil_nonpos_iff, ticksUntil_pos_iff, UInt32.toNat_sub, UInt32.toNat_add, ht] at h
  rw [UInt32.toNat_sub]
  omega

/-- A delay is never too short. On a running clock it ends with a look at the count that shows the
target, behind sleeps or behind looks with the watchdog fed in between; without an alarm there are
only looks. On a suspended clock it counts as many cycles as the time takes at the rate that MCLK had
when the clock was resumed last, and does nothing else. -/
theorem delay_long_enough (parts : UptimeParts σ H) (u : Uptime) (ns : UInt32) :
    (u.state = .running → ∀ ticks,
      ticks = (ns.toNat * u.ticksPerSecond.toNat + 999999999) / 1000000000 → ticks < 2147483648 →
      ∀ patience s t, (u.delayNanos parts ns).start patience s = .ok () t →
        ∃ events first last, parts.Waits events s t ∧
          Delayed u (first + ticks.toUInt32) first events ∧ lastRead events = some last ∧
          ticksUntil (first + ticks.toUInt32) last ≤ 0 ∧ ticks ≤ (last - first).toNat) ∧
    (u.state = .suspended → ∀ hz, parts.Resumed hz u →
      u.delayNanos parts ns = parts.cpu.delayCycles
        (min ((ns.toNat * hz.toNat + 999999999) / 1000000000) 4294967295).toUInt32) := by
  constructor
  · intro hrunning ticks hticks hshort patience s t hrun
    have hspan : ticksOfNanos u.ticksPerSecond ns = ticks.toUInt32 := by
      rw [ticksOfNanos, ← hticks, saturated, if_pos (Nat.lt_trans hshort (by decide))]
    obtain ⟨events, hwaits, first, hdelayed⟩ :=
      Triple.of_start (ensures_delayNanos hrunning ns s) rfl hrun
    rw [hspan] at hdelayed
    obtain ⟨last, hlast, hreached⟩ := hdelayed.reached
    exact ⟨events, first, last, hwaits, hdelayed, hlast, hreached,
      le_of_target_reached hshort hreached⟩
  · intro hsuspended hz hresumed
    rw [Uptime.delayNanos, if_pos (by rw [hsuspended]; decide), hresumed.mclkHz, ticksOfNanos,
      saturated_eq_min]

/-! ## A delay with early wakes, and one without a count -/

end UptimeParts

namespace Scene

/-- Feeding the watchdog takes 7 ticks, and every sleep ends after 30. -/
def drowsyTimer : Timer (Scene (SimTimer 2) Unit Bool) Unit :=
  timer (fun _ => {}) fun _ _ => raiseFired memoryCell

def drowsyParts : UptimeParts (Scene (SimTimer 2) Unit Bool) Unit where
  timer := drowsyTimer
  cpu := {
    feedWatchdog := registersCell.update (·.pass 7)
    delayCycles := fun _ => return ()
    sleep := fun _ => do
      registersCell.update (·.pass 30)
      let _ ← drowsyTimer.dispatchShared }
  onAlarm := ()
  fired := memoryCell

def drowsyRates : Rates (Scene (SimTimer 2) Unit Bool) := .fixed 32768 1000000 8000000

/-- A clock with an alarm on the second channel. -/
def drowsyClock : Uptime :=
  ⟨some ⟨secondAlarm, ⟨true, true, true, true⟩⟩, 1000000, 8000000, .running⟩

def beforeDrowsing : Scene (SimTimer 2) Unit Bool :=
  (Uptime.start drowsyParts ⟨.smclk, .by1, some 1⟩ drowsyRates).finish 9
    { registers := {}, memory := false }

def drowse : Run (Scene (SimTimer 2) Unit Bool) Unit := drowsyClock.delayNanos drowsyParts 80000

/-- A clock without an alarm, and what becomes of it when it is suspended. -/
def plainClock (state : UptimeState) : Uptime := ⟨none, 1000000, 8000000, state⟩

theorem resumed_plainClock : drowsyParts.Resumed 8000000 (plainClock .suspended) := by
  have hfrequency : (drowsyParts.timer.frequency drowsyRates).answer? 9 beforeDrowsing =
      some 1000000 := by decide +kernel
  have hresume : ((plainClock .suspended).resume drowsyParts drowsyRates).answer? 9 beforeDrowsing =
      some (plainClock .running) := by decide +kernel
  have hsuspend : ((plainClock .running).suspend drowsyParts).answer? 9 beforeDrowsing =
      some (plainClock .suspended) := by decide +kernel
  have hresumed : drowsyParts.Resumed 8000000 (plainClock .running) :=
    .resumed (start_of_answer hfrequency) rfl (start_of_answer hresume)
  exact hresumed.suspended (start_of_answer hsuspend)

theorem delay_long_enough_drowsy :
    drowse.start 9 beforeDrowsing = .ok () (drowse.finish 9 beforeDrowsing) ∧
      (∃ events first last, drowsyParts.Waits events beforeDrowsing (drowse.finish 9 beforeDrowsing) ∧
        WaitEvent.lastRead events = some last ∧ 80 ≤ (last - first).toNat) ∧
      (plainClock .suspended).delayNanos drowsyParts 80000 =
        drowsyParts.cpu.delayCycles 640 := by
  have hanswer : drowse.answer? 9 beforeDrowsing = some () := by decide +kernel
  have hrun := start_of_answer hanswer
  obtain ⟨hrunning, -⟩ := UptimeParts.delay_long_enough drowsyParts drowsyClock 80000
  obtain ⟨-, hsuspended⟩ := UptimeParts.delay_long_enough drowsyParts (plainClock .suspended) 80000
  obtain ⟨events, first, last, hwaits, -, hlast, -, hlong⟩ :=
    hrunning rfl 80 (by decide) (by decide) 9 beforeDrowsing _ hrun
  exact ⟨hrun, ⟨events, first, last, hwaits, hlast, hlong⟩, hsuspended rfl _ resumed_plainClock⟩

end Scene

end Msp430
