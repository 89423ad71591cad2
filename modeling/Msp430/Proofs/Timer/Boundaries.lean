import Msp430.Proofs.Timer.Ownership

/-!
The limits of what is done with alarms. An operation that is refused leaves no trace, and none
reaches beyond the channel it is for. Whatever was done before, and in whichever handlers, the
channels are where their owners left them.
-/
namespace Msp430.Estate

open Run

variable {c : Nat} {H M : Type}
variable {clock : Holdings M → ClockModule} {notify : Notify (Estate c H M) H}
variable {E : Estate c H M → Prop}

/-! ## Refusals -/

/-- What a refusal leaves alone: what is shared with interrupts, the channels, the writes to
registers so far and who is alive. -/
def traces (s : Estate c H M) : TimerShared H × Vector SimChannel c × Holdings M :=
  (s.shared, s.registers.channels, s.memory)

theorem leaves_traces_counter :
    (timer clock notify : Timer (Estate c H M) H).counter.Leaves traces := by
  apply leaves_counter
  intro s registers hchannels
  exact congrArg (fun channels => (s.shared, channels, s.memory)) hchannels

theorem traces_claim (channel : Nat) (h : H)
    (v : TimerShared H × Vector SimChannel c × Holdings M) :
    Triple (fun s => traces s = v) (Alarm.claim (timer clock notify) channel h).run
      (fun answer s => answer.isOk = false → traces s = v) E := by
  rw [Alarm.run_claim]
  split
  · split
    · apply Triple.bind (Q := fun _ s => traces s = v)
      · exact fun _ _ hs => hs
      intro slot
      split
      · exact triple_pure _ fun _ hs _ => hs
      -- from here on the claim is granted
      apply Triple.bind (Q := fun _ _ => True)
      · exact fun _ _ _ => trivial
      intro _
      apply Triple.bind (Q := fun _ _ => True)
      · exact fun _ _ _ => trivial
      intro _
      apply triple_pure
      intro _ _ hrefused
      cases hrefused
    · exact triple_pure _ fun _ hs _ => hs
  · exact triple_pure _ fun _ hs _ => hs

theorem traces_set (a : Alarm) (setting : UInt32)
    (v : TimerShared H × Vector SimChannel c × Holdings M) :
    Triple (fun s => traces s = v) (a.set (timer clock notify) setting).run
      (fun answer s => answer.isOk = false → traces s = v) E := by
  have hcount : Keeps (fun s => traces s = v) E (timer clock notify).counter :=
    leaves_traces_counter.keeps_of_answers (Timer.answers_counter answers_port)
      fun _ _ ht hs => ht.trans hs
  rw [Alarm.run_set]
  apply Triple.bind (Q := fun _ s => traces s = v)
  · exact fun _ _ hs => hs
  intro enabled
  split
  · exact triple_pure _ fun _ hs _ => hs
  apply Triple.bind (Q := fun _ s => traces s = v)
  · exact fun _ _ hs => hs
  intro armed
  split
  · exact triple_pure _ fun _ hs _ => hs
  apply Triple.bind hcount
  intro now
  split
  · exact triple_pure _ fun _ hs _ => hs
  · apply triple_of_start
    intro patience s _
    obtain ⟨answer, t, hrun⟩ := Alarm.answers_arm answers_port a setting patience s
    refine ⟨.ok answer, t, ?_, fun hrefused => ?_⟩
    · rw [start_map, hrun]
    · cases hrefused

theorem answers_claim (channel : Nat) (h : H) :
    (Alarm.claim (timer clock notify) channel h).run.Answers := by
  rw [Alarm.run_claim]
  split
  · split
    · apply (Timer.answers_slot _ _).bind
      intro slot
      split
      · exact answers_pure _
      · apply (answers_update _ _).bind
        intro _
        exact (answers_port.writeChannel _ _).bind fun _ => answers_pure _
    · exact answers_pure _
  · exact answers_pure _

/-- The claim always has an answer. It is granted for a channel that the timer has and nobody owns,
and leaves no trace if it is refused. -/
theorem start_claim {s : Estate c H M} (hs : Owned s) (patience channel : Nat) (h : H) :
    ∃ answer t, (Alarm.claim (timer clock notify) channel h).run.start patience s = .ok answer t ∧
      (answer.isOk = true ↔
        channel < min c maxChannels ∧ ∀ a ∈ s.memory.live, a.channel.val ≠ channel) ∧
      (answer.isOk = false → traces t = traces s) := by
  obtain ⟨answer, t, hrun⟩ := answers_claim channel h patience s
  refine ⟨answer, t, hrun, ?_, (traces_claim (E := fun _ => True) channel h _).of_start rfl hrun⟩
  by_cases bound : channel < maxChannels
  · let i : Fin maxChannels := ⟨channel, bound⟩
    have hfound := (triple_claim (E := fun _ => True) bound h).of_start (hs.focus i) hrun
    have howned : (s.shared.slot i).handler.isSome = true ↔ ⟨i⟩ ∈ s.memory.live :=
      (hs.slots i).handler
    cases answer with
    | ok a =>
      obtain ⟨-, hpresent, hfree, -⟩ := hfound
      refine iff_of_true rfl ⟨Nat.lt_min.mpr ⟨hpresent, bound⟩, ?_⟩
      rintro ⟨j⟩ hj hsame
      obtain rfl : j = i := Fin.ext hsame
      rw [howned.mpr hj] at hfree
      cases hfree
    | error why =>
      refine iff_of_false Bool.false_ne_true ?_
      rintro ⟨hpresent, hfree⟩
      have htaken := hfound.1 (Nat.lt_of_lt_of_le hpresent (Nat.min_le_left ..))
      exact hfree ⟨i⟩ (howned.mp htaken) rfl
  · have hnone : answer = .error .noChannel := by
      rw [Alarm.run_claim, dif_neg bound, ite_self] at hrun
      exact (EStateM.Result.ok.inj hrun).1.symm
    subst hnone
    refine iff_of_false Bool.false_ne_true ?_
    rintro ⟨hpresent, -⟩
    exact bound (Nat.lt_of_lt_of_le hpresent (Nat.min_le_right ..))

theorem start_set (s : Estate c H M) (patience : Nat) (a : Alarm) (setting : UInt32) :
    ∃ answer t, (a.set (timer clock notify) setting).run.start patience s = .ok answer t ∧
      (answer.isOk = false → traces t = traces s) := by
  obtain ⟨answer, t, hrun⟩ := Alarm.answers_set answers_port a setting patience s
  exact ⟨answer, t, hrun, (traces_set (E := fun _ => True) a setting _).of_start rfl hrun⟩

/-! ## Other channels -/

/-- All there is of a channel: its slot and its registers. -/
def site (j : Nat) (s : Estate c H M) : Option (AlarmSlot H) × Option SimChannel :=
  (s.shared.slots[j]?, s.registers.channels[j]?)

variable {i j : Nat}

theorem indifferent_site {i : Fin maxChannels} (hj : i.val ≠ j)
    (v : Option (AlarmSlot H) × Option SimChannel) :
    (timer clock notify : Timer (Estate c H M) H).IndifferentAt i (fun _ => True)
      (fun s => site j s = v) (fun s => site j s = v) := by
  have hsite : ∀ {s t : Estate c H M}, t.shared.slots[j]? = s.shared.slots[j]? →
      t.registers.channels[j]? = s.registers.channels[j]? → site j s = v → site j t = v := by
    intro s t hslots hchannels hs
    rw [site, hslots, hchannels]
    exact hs
  constructor
  · intro f _ patience s hs
    refine hsite (s := s) ?_ rfl hs
    exact Vector.getElem?_set_ne i.isLt hj
  · intro patience s hs
    exact hsite (s := s) rfl (SimTimer.channels_readChannel_other _ _ hj) hs
  · intro bits patience s hs
    refine hsite (s := s) rfl ?_ hs
    exact (SimTimer.channels_modifyChannel ..).trans (if_neg hj)
  · intro count patience s hs
    refine hsite (s := s) rfl ?_ hs
    exact (SimTimer.channels_writeCompare ..).trans (if_neg hj)
  · apply leaves_counter
    intro s registers hchannels
    rw [site, site, hchannels]

/-- No operation on the channel changes what the view shows. -/
structure Confined {τ : Type} (t : Timer (Estate c H M) H) (i : Nat) (view : Estate c H M → τ) :
    Prop where
  claim : ∀ h, (Alarm.claim t i h).run.Leaves view
  setEnabled : ∀ a : Alarm, a.channel.val = i → ∀ on, (a.setEnabled t on).Leaves view
  set : ∀ a : Alarm, a.channel.val = i → ∀ setting, (a.set t setting).run.Leaves view
  cancel : ∀ a : Alarm, a.channel.val = i → (a.cancel t).Leaves view
  release : ∀ a : Alarm, a.channel.val = i → (a.release t).Leaves view
  takeDue : (t.takeDue i).Leaves view

theorem confined_site (hj : i ≠ j) :
    Confined (timer clock notify : Timer (Estate c H M) H) i (site j) := by
  constructor
  · intro h v
    exact Alarm.keeps_claim (fun _ => indifferent_site hj v) trivial
  · rintro ⟨k⟩ rfl on v
    exact (indifferent_site hj v).setEnabled on
  · rintro ⟨k⟩ rfl setting v
    exact (indifferent_site hj v).set setting
  · rintro ⟨k⟩ rfl v
    exact (indifferent_site hj v).cancel
  · rintro ⟨k⟩ rfl v
    exact (indifferent_site hj v).release trivial
  · intro v
    exact (Timer.triple_takeDue fun _ => indifferent_site hj v).weaken fun _ _ h => h.1

/-! ## Dispatch -/

section Dispatch

variable (hnotify : ∀ h event, (notify h event).Leaves (site j))

include hnotify

theorem leaves_site_serviceAlarm (hj : i ≠ j) :
    ((timer clock notify).serviceAlarm i).Leaves (site j) := by
  apply Leaves.bind (confined_site hj).takeDue
  intro due
  cases due with
  | none => exact leaves_pure _ _
  | some found => exact (hnotify found.1 _).bind fun _ => leaves_pure _ _

theorem leaves_site_dispatchFirst (hj : 0 ≠ j) :
    (timer clock notify).dispatchFirst.Leaves (site j) := by
  have hclear : ((timer clock notify).port.clearFlag 0).Leaves (site j) := by
    intro v
    exact (indifferent_site (i := 0) hj v).changeChannel _
  apply hclear.bind
  intro _
  exact leaves_site_serviceAlarm hnotify hj

/-- The channel that the vector register tells of. The overflow has the vector of channel 5. -/
def reported (s : Estate c H M) : Nat := (s.registers.readVector.1 >>> 1).toUInt8.toNat

omit hnotify in
/-- Only the channel that the register tells of is acknowledged. -/
theorem channels_readVector {t : SimTimer c} (hc : c ≤ 256)
    (hj : (t.readVector.1 >>> 1).toUInt8.toNat ≠ j) :
    t.readVector.2.channels[j]? = t.channels[j]? := by
  revert hj
  unfold SimTimer.readVector
  split
  · exact fun _ => rfl
  split
  · rename_i k hk
    intro hj
    have hlt : k < 256 := Nat.lt_of_lt_of_le (SimTimer.nextRequest_some hk).2 hc
    have hkj : k ≠ j := by rwa [SimTimer.channel_of_vector hlt] at hj
    rw [SimTimer.channels_modifyChannel, if_neg hkj]
  split
  · exact fun _ => rfl
  · exact fun _ => rfl

theorem site_dispatchShared [DecidableEq H] (hc : c ≤ 256) (patience : Nat) {s : Estate c H M}
    (hj : reported s ≠ j) :
    site j ((timer clock notify).dispatchShared.finish patience s) = site j s := by
  have hvector : (timer clock notify).port.readVector.start patience s =
      .ok s.registers.readVector.1 { s with
        registers := s.registers.readVector.2
        memory := { s.memory with
          writes := .vector s.registers.readVector.1 :: s.memory.writes } } := rfl
  have hread := channels_readVector hc hj
  rw [Timer.dispatchShared, finish_bind hvector]
  refine Eq.trans (Leaves.finish ?_ _ _) (congrArg (s.shared.slots[j]?, ·) hread)
  split
  · exact leaves_pure _ _
  split
  · intro v
    apply Timer.triple_serviceOverflow fun _ h => h
    · exact fun _ h => h
    · exact fun _ _ h => h
    · exact fun h => hnotify h _ v
  · exact leaves_site_serviceAlarm hnotify hj

end Dispatch

/-! ## Programs -/

/-- Operations on alarms that are alive, dispatches, and whatever else does not bear on alarms. -/
inductive OwnerStep [DecidableEq H] (t : Timer (Estate c H M) H) :
    ∀ α : Type, Run (Estate c H M) α → Prop
  | claim (channel : Nat) (h : H) : OwnerStep t _ (claimNoting t channel h)
  | setEnabled (a : Alarm) (on : Bool) : OwnerStep t _ (withLive a (a.setEnabled t on))
  | set (a : Alarm) (setting : UInt32) : OwnerStep t _ (withLive a (a.set t setting).run)
  | cancel (a : Alarm) : OwnerStep t _ (withLive a (a.cancel t))
  | release (a : Alarm) : OwnerStep t _ (releaseNoting t a)
  | dispatchFirst : OwnerStep t _ t.dispatchFirst
  | dispatchShared : OwnerStep t _ t.dispatchShared
  | other {α : Type} {run : Run (Estate c H M) α} : run.Leaves titles → OwnerStep t α run

variable [DecidableEq H]

theorem keeps_ownerStep (hnotify : ∀ h event, Keeps Owned Owned (notify h event)) (α : Type)
    (run : Run (Estate c H M) α) (h : OwnerStep (timer clock notify) α run) :
    Keeps Owned Owned run := by
  cases h with
  | claim channel h => exact keeps_claimNoting channel h
  | setEnabled a on => exact keeps_withLive (triple_setEnabledLive a on)
  | set a setting => exact keeps_withLive (triple_setLive a setting)
  | cancel a => exact keeps_withLive (triple_cancelLive a)
  | release a => exact keeps_withLive (triple_releaseLive a)
  | dispatchFirst => exact keeps_dispatchFirst hnotify
  | dispatchShared => exact keeps_dispatchShared hnotify
  | other hother => exact hother.keeps_of_congr (fun _ _ ht hs => hs.congr ht) fun _ hs => hs

omit [DecidableEq H] in
/-- Alarms do not notice that time passes. -/
theorem leaves_titles_advance (ticks : Nat) :
    (Scene.registersCell.update (·.advance ticks) : Run (Estate c H M) Unit).Leaves titles := by
  intro v patience s hs
  have hsame : (s.registers.advance ticks).interrupting = s.registers.interrupting :=
    funext fun i => s.registers.interrupting_advance ticks i
  refine Eq.trans ?_ hs
  exact congrArg (fun f => (s.shared.slot, f, s.memory.live)) hsame

/-- The timer may have any number of channels, in any state. From a shared state that is empty,
after any operations on alarms that are alive, any dispatches, and handlers that do the same: every
channel has one owner at most, its slot and its interrupt are as an owner may leave them, and it can
be claimed just if the timer has it and nobody owns it. A refusal leaves no trace. No operation on
one channel reaches another, and a dispatch itself only reaches the channel that it is for. Channels
are counted in a byte. -/
theorem alarms_owned {code : Notify (Estate c H M) H → Notify (Estate c H M) H} {α : Type}
    {program : Run (Estate c H M) α}
    (hcode : ∀ notify h event, Built (OwnerStep (timer clock notify)) (code notify h event))
    (hprogram : Built (OwnerStep (timer clock (.ofCode code))) program)
    {s : Estate c H M} (hshared : s.shared = {}) (hlive : s.memory.live = []) (patience : Nat) :
    let t := timer clock (.ofCode code)
    let u := program.finish patience s
    Owned u ∧
    (∀ patience channel h, ∃ answer v,
      (Alarm.claim t channel h).run.start patience u = .ok answer v ∧
      (answer.isOk = true ↔
        channel < min c maxChannels ∧ ∀ a ∈ u.memory.live, a.channel.val ≠ channel) ∧
      (answer.isOk = false → traces v = traces u)) ∧
    (∀ patience (a : Alarm) setting, ∃ answer v,
      (a.set t setting).run.start patience u = .ok answer v ∧
      (answer.isOk = false → traces v = traces u)) ∧
    (∀ i j, i ≠ j → Confined t i (site j)) ∧
    (∀ j, (∀ h event, (t.notify h event).Leaves (site j)) →
      (0 ≠ j → t.dispatchFirst.Leaves (site j)) ∧
      (c ≤ 256 → ∀ patience v, reported v ≠ j →
        site j (t.dispatchShared.finish patience v) = site j v)) := by
  intro t u
  have kept : Keeps Owned Owned program := by
    apply Notify.keeps_program (fun _ hs => hs) _ hcode hprogram
    intro notify hnotify
    exact keeps_ownerStep hnotify
  have howned : Owned u := kept.finish (fun _ hs => hs) (owned_empty hshared hlive)
  refine ⟨howned, ?_, ?_, ?_, ?_⟩
  · intro patience channel h
    exact start_claim howned patience channel h
  · intro patience a setting
    exact start_set u patience a setting
  · intro i j hj
    exact confined_site hj
  · intro j hnotify
    constructor
    · exact fun hj => leaves_site_dispatchFirst hnotify hj
    · exact fun hc patience v hj => site_dispatchShared hnotify hc patience hj

/-! ## An alarm that gives its channel back -/

/-- A handler that releases the alarm it was called for. -/
def parting (notify : Notify (Estate 2 Unit ClockModule) Unit) :
    Notify (Estate 2 Unit ClockModule) Unit := fun _ _ => do
  releaseNoting (timer Holdings.rest notify) secondAlarm
  return { wake := true }

def partingTimer : Timer (Estate 2 Unit ClockModule) Unit :=
  timer Holdings.rest (.ofCode parting)

/-- Claims the second channel, waits for its alarm and claims it anew. -/
def reclaim : Run (Estate 2 Unit ClockModule) Unit := do
  discard (claimNoting partingTimer 1 ())
  withLive secondAlarm (secondAlarm.setEnabled partingTimer true)
  discard (withLive secondAlarm (secondAlarm.set partingTimer 5).run)
  Scene.registersCell.update (·.advance 5)
  discard partingTimer.dispatchShared
  discard (claimNoting partingTimer 1 ())

def unclaimed : Estate 2 Unit ClockModule := { registers := {}, memory := { rest := {} } }

theorem built_reclaim : Built (OwnerStep partingTimer) reclaim := by
  have discarded {α : Type} {run : Run (Estate 2 Unit ClockModule) α}
      (h : OwnerStep partingTimer α run) : Built (OwnerStep partingTimer) (discard run) :=
    .andThen (.step h) fun _ => .done _
  refine .andThen (discarded (.claim 1 ())) fun _ => ?_
  refine .andThen (.step (.setEnabled secondAlarm true)) fun _ => ?_
  refine .andThen (discarded (.set secondAlarm 5)) fun _ => ?_
  refine .andThen (.step (.other (leaves_titles_advance 5))) fun _ => ?_
  refine .andThen (discarded .dispatchShared) fun _ => ?_
  exact discarded (.claim 1 ())

theorem alarms_owned_reclaimed :
    let u := reclaim.finish 9 unclaimed
    u.memory.live = [secondAlarm] ∧ Owned u ∧ ∃ answer v,
      (Alarm.claim partingTimer 1 ()).run.start 9 u = .ok answer v ∧ answer.isOk = false ∧
        traces v = traces u := by
  intro u
  have hlive : u.memory.live = [secondAlarm] := by decide +kernel
  have handlers : ∀ notify h event, Built (OwnerStep (timer Holdings.rest notify))
      (parting notify h event) :=
    fun _ _ _ => .andThen (.step (.release secondAlarm)) fun _ => .done _
  obtain ⟨howned, claims, -⟩ := alarms_owned handlers built_reclaim (s := unclaimed) rfl rfl 9
  obtain ⟨answer, v, hrun, hgranted, hrefused⟩ := claims 9 1 ()
  have htaken : answer.isOk = false := by
    rw [← Bool.not_eq_true]
    intro hok
    have hfree := (hgranted.mp hok).2 secondAlarm
    exact hfree (hlive ▸ List.mem_cons_self) rfl
  exact ⟨hlive, howned, answer, v, hrun, htaken, hrefused htaken⟩

end Msp430.Estate
