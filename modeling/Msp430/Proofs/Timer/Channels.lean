import Msp430.Proofs.Timer.Count

/-!
The channels of a simulated timer. An access to one channel leaves the others and the count alone,
and a channel that compares is seen as it was written.
-/
namespace Msp430

namespace SimChannel

variable {channel : SimChannel}

/-- The channel waits for the lower half of the setting with its interrupt on. -/
structure Awaits (channel : SimChannel) (setting : UInt32) : Prop where
  enabled : channel.enabled = true
  comparing : channel.capturing = false
  compare : channel.compare = setting.toUInt16

variable (channel) in
theorem enabled_raise : channel.raise.enabled = channel.enabled :=
  anyBits_set_other (by decide) _

variable (channel) in
theorem enabled_acknowledge : channel.acknowledge.enabled = channel.enabled :=
  anyBits_clear_other (by decide) _

variable (channel) in
theorem enabled_meet (count : UInt16) (ticks : Nat) :
    (channel.meet count ticks).enabled = channel.enabled := by
  unfold SimChannel.meet
  split
  · exact enabled_raise _
  · rfl

variable (channel) in
theorem raise_flagged : channel.raise.flagged = true := anyBits_set_self (by decide) _

/-- Captures do not matter to a channel that compares. -/
theorem Awaits.congr {other : SimChannel} {setting : UInt32} (h : channel.Awaits setting)
    (hcontrol : other.control = channel.control) (hcompare : other.compare = channel.compare) :
    other.Awaits setting where
  enabled := by rw [SimChannel.enabled, hcontrol]; exact h.enabled
  comparing := by rw [SimChannel.capturing, hcontrol]; exact h.comparing
  compare := hcompare.trans h.compare

theorem Awaits.raise {setting : UInt32} (h : channel.Awaits setting) :
    channel.raise.Awaits setting where
  enabled := channel.enabled_raise.trans h.enabled
  comparing := (anyBits_set_other (by decide) _).trans h.comparing
  compare := h.compare

theorem Awaits.acknowledge {setting : UInt32} (h : channel.Awaits setting) :
    channel.acknowledge.Awaits setting where
  enabled := channel.enabled_acknowledge.trans h.enabled
  comparing := (anyBits_clear_other (by decide) _).trans h.comparing
  compare := h.compare

theorem Awaits.meet {setting : UInt32} (h : channel.Awaits setting) (count : UInt16)
    (ticks : Nat) : (channel.meet count ticks).Awaits setting := by
  unfold SimChannel.meet; split
  · exact h.raise
  · exact h

theorem flagged_meet (h : channel.flagged = true) (count : UInt16) (ticks : Nat) :
    (channel.meet count ticks).flagged = true := by
  unfold SimChannel.meet; split
  · exact raise_flagged _
  · exact h

theorem Awaits.meet_flagged {setting : UInt32} {count : UInt16} {ticks : Nat}
    (h : channel.Awaits setting) (hd : channel.distance count ≤ ticks) :
    (channel.meet count ticks).flagged = true := by
  rw [SimChannel.meet, if_pos ⟨by rw [h.comparing]; rfl, hd⟩]
  exact raise_flagged _

/-- The lower half matches no later than the whole setting does. -/
theorem Awaits.distance_le {setting now : UInt32} {count : UInt16} (h : channel.Awaits setting)
    (hcount : count.toNat = now.toNat % 65536) (hd : 0 < (setting - now).toNat) :
    channel.distance count ≤ (setting - now).toNat := by
  have hs := setting.toNat_lt
  have hn := now.toNat_lt
  have hcompare : channel.compare.toNat = setting.toNat % 65536 := by
    rw [h.compare]; exact UInt32.toNat_toUInt16 setting
  rw [UInt32.toNat_sub] at hd ⊢
  unfold distance; split
  · rename_i he
    rw [he, hcount] at hcompare
    omega
  · rw [UInt16.toNat_sub]
    omega

end SimChannel

namespace SimTimer

variable {c : Nat} (t : SimTimer c)

/-! ## Access to one channel -/

theorem channels_modifyChannel (i j : Nat) (f : SimChannel → SimChannel) :
    (t.modifyChannel i f).channels[j]? =
      if i = j then t.channels[j]?.map f else t.channels[j]? := by
  unfold modifyChannel
  by_cases hi : i < c
  · rw [dif_pos hi]
    by_cases hij : i = j
    · subst hij
      simp [hi]
    · rw [if_neg hij]
      simp [hij]
  · rw [dif_neg hi]
    by_cases hij : i = j
    · subst hij
      simp [hi]
    · rw [if_neg hij]

theorem core_modifyChannel (i : Nat) (f : SimChannel → SimChannel) :
    (t.modifyChannel i f).core = t.core := by
  unfold modifyChannel; split <;> rfl

theorem core_writeChannel (i : Nat) (bits : UInt16) : (t.writeChannel i bits).core = t.core :=
  core_modifyChannel ..

theorem core_capture (clock : ClockModule) (i captures : Nat) :
    (t.capture clock i captures).core = t.core := by
  unfold capture; split <;> exact core_modifyChannel ..

theorem channels_capture_other (clock : ClockModule) {i j : Nat} (h : i ≠ j) (captures : Nat) :
    (t.capture clock i captures).channels[j]? = t.channels[j]? := by
  unfold capture; split <;> exact (channels_modifyChannel ..).trans (if_neg h)

theorem core_readChannel (clock : ClockModule) (i : Nat) :
    (t.readChannel clock i).2.core = t.core := by
  unfold readChannel; split
  · rfl
  · dsimp only
    split
    · exact core_capture ..
    · rfl

theorem channels_readChannel_other (clock : ClockModule) {i j : Nat} (h : i ≠ j) :
    (t.readChannel clock i).2.channels[j]? = t.channels[j]? := by
  unfold readChannel; split
  · rfl
  · dsimp only
    split
    · exact channels_capture_other _ _ h _
    · rfl

theorem core_changeChannel (clock : ClockModule) (i : Nat) (f : UInt16 → UInt16) :
    (t.changeChannel clock i f).core = t.core :=
  (core_writeChannel ..).trans (core_readChannel ..)

theorem channels_changeChannel_other (clock : ClockModule) {i j : Nat} (h : i ≠ j)
    (f : UInt16 → UInt16) :
    (t.changeChannel clock i f).channels[j]? = t.channels[j]? :=
  (channels_modifyChannel ..).trans ((if_neg h).trans (channels_readChannel_other _ _ h))

variable {t} {i : Nat} {channel : SimChannel}

theorem readChannel_comparing (clock : ClockModule) (hi : t.channels[i]? = some channel)
    (hc : channel.capturing = false) : t.readChannel clock i = (channel.control, t) := by
  simp [readChannel, hi, hc]

theorem channels_changeChannel_self (clock : ClockModule) (hi : t.channels[i]? = some channel)
    (hc : channel.capturing = false) (f : UInt16 → UInt16) :
    (t.changeChannel clock i f).channels[i]? = some (channel.write (f channel.control)) := by
  rw [changeChannel, readChannel_comparing clock hi hc, writeChannel, channels_modifyChannel,
    if_pos rfl, hi]
  rfl

variable (t)

theorem channels_writeCompare (i j : Nat) (count : UInt16) :
    (t.writeCompare i count).channels[j]? =
      if i = j then t.channels[j]?.map ({ · with compare := count }) else t.channels[j]? := by
  rw [writeCompare, shift, raiseOverflow_channels]
  exact channels_modifyChannel ..

theorem core_shift (ticks : UInt16) : (t.shift ticks true).core = t.core.shift ticks true := by
  simp only [shift, raiseOverflow]
  split <;> split <;> first | rfl | contradiction

theorem core_writeCompare (i : Nat) (count : UInt16) :
    (t.writeCompare i count).core = (t.shift t.drift true).core := by
  have hdrift : (t.modifyChannel i ({ · with compare := count })).drift = t.drift :=
    eq_of_core (core_modifyChannel ..) SimTimer.drift
  rw [writeCompare, core_shift, core_shift, core_modifyChannel]

theorem shift_zero : t.shift 0 true = t := by
  have hc := t.count.toNat_lt
  simp [shift, raiseOverflow, Nat.not_le.mpr hc]

/-! ## Enabled interrupts -/

/-- The interrupt of the channel is enabled. -/
def interrupting (i : Nat) : Bool := (t.channels[i]?).any SimChannel.enabled

theorem interrupting_of_channels {t u : SimTimer c} (h : t.channels = u.channels) :
    t.interrupting = u.interrupting := by
  funext i
  rw [interrupting, interrupting, h]

theorem interrupting_modifyChannel {i : Nat} {f : SimChannel → SimChannel}
    (hf : ∀ channel, (f channel).enabled = channel.enabled) (j : Nat) :
    (t.modifyChannel j f).interrupting i = t.interrupting i := by
  unfold interrupting
  rw [channels_modifyChannel]
  split
  · cases t.channels[i]? with
    | none => rfl
    | some channel => exact hf channel
  · rfl

theorem interrupting_writeChannel_other {i j : Nat} (h : j ≠ i) (bits : UInt16) :
    (t.writeChannel j bits).interrupting i = t.interrupting i := by
  unfold interrupting
  rw [writeChannel, channels_modifyChannel, if_neg h]

theorem interrupting_writeChannel (i : Nat) (bits : UInt16) :
    (t.writeChannel i bits).interrupting i =
      (decide (i < c) && anyBits ChannelControl.interruptEnable bits) := by
  unfold interrupting
  rw [writeChannel, channels_modifyChannel, if_pos rfl]
  by_cases hi : i < c
  · rw [Vector.getElem?_eq_getElem hi, decide_eq_true hi]
    rfl
  · rw [Vector.getElem?_eq_none (Nat.not_lt.mp hi), decide_eq_false hi]
    rfl

theorem interrupting_writeChannel_self {i : Nat} {bits : UInt16}
    (hb : anyBits ChannelControl.interruptEnable bits = false) :
    (t.writeChannel i bits).interrupting i = false := by
  rw [interrupting_writeChannel, hb, Bool.and_false]

/-- Only channels that the timer has interrupt. -/
theorem lt_of_interrupting {t : SimTimer c} {i : Nat} (h : t.interrupting i = true) : i < c := by
  apply Nat.lt_of_not_le
  intro hi
  rw [interrupting, Vector.getElem?_eq_none hi] at h
  cases h

theorem interrupting_capture (clock : ClockModule) (i j captures : Nat) :
    (t.capture clock j captures).interrupting i = t.interrupting i := by
  unfold capture
  split
  · exact interrupting_modifyChannel _ (fun channel => by exact channel.enabled_raise) j
  · exact interrupting_modifyChannel _ (fun channel => by exact channel.enabled_raise) j

theorem interrupting_readChannel (clock : ClockModule) (i j : Nat) :
    (t.readChannel clock j).2.interrupting i = t.interrupting i := by
  unfold readChannel
  split
  · rfl
  · dsimp only
    split
    · exact interrupting_capture ..
    · rfl

theorem interrupting_control (i : Nat) : anyBits ChannelControl.interruptEnable
    ((t.channels[i]?).elim 0 SimChannel.control) = t.interrupting i := by
  unfold interrupting
  cases t.channels[i]? with
  | none => decide
  | some channel => rfl

/-- What is read of a channel tells whether its interrupt is enabled. -/
theorem readChannel_interrupting (clock : ClockModule) (i : Nat) :
    anyBits ChannelControl.interruptEnable (t.readChannel clock i).1 = t.interrupting i := by
  cases hi : t.channels[i]? with
  | none =>
    rw [readChannel, hi, interrupting, hi]
    change anyBits ChannelControl.interruptEnable 0 = false
    decide
  | some channel =>
    rw [← interrupting_readChannel t clock i i, ← interrupting_control]
    simp only [readChannel, hi]

/-- Clearing the flag does not enable the interrupt. -/
theorem not_interrupting_clearFlag {t : SimTimer c} {i : Nat} (h : t.interrupting i = false)
    (clock : ClockModule) :
    (t.changeChannel clock i (clearBits ChannelControl.interruptFlag)).interrupting i = false := by
  refine interrupting_writeChannel_self _ ?_
  rw [anyBits_clear_other (by decide), readChannel_interrupting]
  exact h

theorem interrupting_writeCompare (i j : Nat) (count : UInt16) :
    (t.writeCompare j count).interrupting i = t.interrupting i := by
  rw [writeCompare, shift, interrupting, raiseOverflow_channels]
  exact interrupting_modifyChannel t (f := ({ · with compare := count })) (fun _ => rfl) j

/-- Reading the count may move it, and a channel is not part of it. -/
theorem channels_readCount : t.readCount.2.channels = t.channels := by
  unfold readCount
  split
  · exact raiseOverflow_channels ..
  · exact shift_channels ..

/-- Reading the vector register acknowledges a flag at most. -/
theorem interrupting_readVector (i : Nat) : t.readVector.2.interrupting i = t.interrupting i := by
  unfold readVector
  split
  · rfl
  split
  · exact interrupting_modifyChannel t (fun channel => channel.enabled_acknowledge) _
  split
  · rfl
  · rfl

/-! ## Stopping and running -/

theorem stopped_writeControl (bits : UInt16) :
    (t.writeControl bits).stopped = !anyBits TimerControl.mode bits :=
  congrArg not (anyBits_clear_other (by decide) bits)

theorem stopped_raiseOverflow (raised : Bool) : (t.raiseOverflow raised).stopped = t.stopped :=
  congrArg not (t.raiseOverflow_anyBits (by decide) raised)

theorem stopped_readCount : t.readCount.2.stopped = t.stopped := by
  unfold readCount
  split
  · exact stopped_raiseOverflow ..
  · exact stopped_raiseOverflow ..

theorem stopped_writeCompare (i : Nat) (count : UInt16) :
    (t.writeCompare i count).stopped = t.stopped :=
  (eq_of_core (t.core_writeCompare i count) stopped).trans (stopped_raiseOverflow ..)

theorem stopped_readVector : t.readVector.2.stopped = t.stopped := by
  unfold readVector
  split
  · rfl
  split
  · exact eq_of_core (core_modifyChannel ..) stopped
  split
  · exact congrArg not (anyBits_clear_other (by decide) t.control)
  · rfl

theorem stopped_advance (ticks : Nat) : (t.advance ticks).stopped = t.stopped :=
  congrArg not (t.advance_anyBits (by decide) ticks)

/-! ## Requests -/

theorem nextRequest_some {t : SimTimer c} {i : Nat} (h : t.nextRequest = some i) :
    0 < i ∧ i < c := by
  have hm := List.mem_of_find?_eq_some h
  rw [List.mem_range'_1] at hm
  omega

theorem readVector_unscripted {t : SimTimer c} (h : t.vectorScript = []) :
    t.readVector =
      match t.nextRequest with
      | some i => (2 * i.toUInt16, t.modifyChannel i SimChannel.acknowledge)
      | none =>
        if t.overflowRequested then
          (overflowVector, { t with control := clearBits TimerControl.overflowFlag t.control })
        else (0, t) := by
  unfold readVector
  split
  · rename_i hv
    rw [h] at hv
    cases hv
  · rfl

/-- The vector register tells of a channel, of the overflow or of nothing. -/
theorem readVector_cases {t : SimTimer c} (h : t.Quiet) :
    (∃ i, 0 < i ∧ i < c ∧
      t.readVector = (2 * i.toUInt16, t.modifyChannel i SimChannel.acknowledge)) ∨
    (t.overflowed = true ∧ t.readVector = (overflowVector,
      { t with control := clearBits TimerControl.overflowFlag t.control })) ∨
    t.readVector = (0, t) := by
  rw [readVector_unscripted h.vectorScript]
  split
  · rename_i i hi
    obtain ⟨hpos, hlt⟩ := nextRequest_some hi
    exact .inl ⟨i, hpos, hlt, rfl⟩
  · by_cases ho : t.overflowRequested = true
    · rw [if_pos ho]
      exact .inr (.inl ⟨(Bool.and_eq_true_iff.mp ho).2, rfl⟩)
    · rw [if_neg ho]
      exact .inr (.inr rfl)

theorem requested_of_channel {t : SimTimer c} {i : Nat} {channel : SimChannel}
    (hi : t.channels[i]? = some channel) : t.requested i = channel.requested := by
  rw [requested, hi]
  rfl

theorem not_requested_of_idle {t : SimTimer c} (h : t.pending = .idle) :
    (∀ i, t.requested i = false) ∧ t.overflowRequested = false := by
  unfold pending at h
  split at h
  · cases h
  · rename_i hfirst
    split at h
    · cases h
    · rename_i hshared
      rw [Bool.or_eq_true, not_or] at hshared
      constructor
      · intro i
        by_cases hz : i = 0
        · rw [hz]
          exact Bool.not_eq_true _ ▸ hfirst
        by_cases hi : i < c
        · have hnone : t.nextRequest = none := by simpa using hshared.1
          have hall := List.find?_eq_none.mp hnone i (List.mem_range'_1.mpr (by omega))
          exact Bool.not_eq_true _ ▸ hall
        · simp [requested, Nat.not_lt.mp hi]
      · exact Bool.not_eq_true _ ▸ hshared.2

/-- The vector of a channel tells its number. -/
theorem channel_of_vector {i : Nat} (hlt : i < 256) :
    ((2 * i.toUInt16) >>> 1).toUInt8.toNat = i := by
  have hall : ∀ k : Fin 256, ((2 * k.val.toUInt16) >>> 1).toUInt8.toNat = k.val := by
    decide +kernel
  exact hall ⟨i, hlt⟩

/-- Only channel 5 shares the vector of the overflow. -/
theorem vector_channel {i : Nat} (hpos : 0 < i) (hlt : i < 256) (hi : i ≠ 5) :
    2 * i.toUInt16 ≠ 0 ∧ 2 * i.toUInt16 ≠ overflowVector ∧
      ((2 * i.toUInt16) >>> 1).toUInt8.toNat = i := by
  have hall : ∀ k : Fin 256, 0 < k.val → k.val ≠ 5 →
      2 * k.val.toUInt16 ≠ 0 ∧ 2 * k.val.toUInt16 ≠ overflowVector := by
    decide +kernel
  obtain ⟨hzero, hother⟩ := hall ⟨i, hlt⟩ hpos hi
  exact ⟨hzero, hother, channel_of_vector hlt⟩

/-! ## Time -/

theorem channels_advance (ticks j : Nat) :
    (t.advance ticks).channels[j]? =
      if ticks = 0 then t.channels[j]? else t.channels[j]?.map (·.meet t.count ticks) := by
  unfold advance; split
  · rfl
  · rw [raiseOverflow_channels, Vector.getElem?_map]

theorem interrupting_advance (ticks i : Nat) :
    (t.advance ticks).interrupting i = t.interrupting i := by
  unfold interrupting
  rw [channels_advance]
  split
  · rfl
  · cases t.channels[i]? with
    | none => rfl
    | some channel => exact channel.enabled_meet t.count ticks

/-- How far the timer runs to its next event. -/
def ticksToEvent : Nat := if t.pending ≠ .idle ∨ t.stopped then 0 else t.untilEvent

theorem advanceToEvent_eq : t.advanceToEvent = t.advance t.ticksToEvent := by
  unfold advanceToEvent ticksToEvent
  split
  · rw [advance, if_pos rfl]
  · rfl

theorem ticksToEvent_cases :
    t.ticksToEvent = 0 ∨ (t.pending = .idle ∧ t.ticksToEvent = t.untilEvent) := by
  unfold ticksToEvent
  split
  · exact .inl rfl
  · rename_i h
    exact .inr ⟨Decidable.not_not.mp (not_or.mp h).1, rfl⟩

section Shrinking

variable {α : Type} {f : Nat → α → Nat}

theorem foldl_le (h : ∀ n a, f n a ≤ n) (l : List α) (n : Nat) : l.foldl f n ≤ n := by
  induction l generalizing n with
  | nil => exact Nat.le_refl n
  | cons a l ih => exact Nat.le_trans (ih (f n a)) (h n a)

theorem foldl_le_of_mem (h : ∀ n a, f n a ≤ n) {a : α} {bound : Nat} (ha : ∀ n, f n a ≤ bound)
    {l : List α} (hl : a ∈ l) (n : Nat) : l.foldl f n ≤ bound := by
  induction l generalizing n with
  | nil => cases hl
  | cons b l ih =>
    cases hl with
    | head => exact Nat.le_trans (foldl_le h l _) (ha n)
    | tail _ hl => exact ih hl _

end Shrinking

/-- A channel that matches sooner brings the next event forward. -/
def nearer (count : UInt16) (ticks : Nat) (channel : SimChannel) : Nat :=
  if channel.enabled ∧ !channel.capturing then min ticks (channel.distance count) else ticks

theorem nearer_le (count : UInt16) (ticks : Nat) (channel : SimChannel) :
    nearer count ticks channel ≤ ticks := by
  unfold nearer; split
  · exact Nat.min_le_left ..
  · exact Nat.le_refl _

theorem untilEvent_eq : t.untilEvent =
    t.channels.toList.foldl (nearer t.count) (65536 - t.count.toNat) :=
  Vector.foldl_toList _ |>.symm

theorem untilEvent_le_wrap : t.untilEvent ≤ 65536 - t.count.toNat := by
  rw [untilEvent_eq]
  exact foldl_le (nearer_le t.count) ..

theorem untilEvent_le_distance {t : SimTimer c} {i : Nat} {channel : SimChannel}
    (hi : t.channels[i]? = some channel) (he : channel.enabled = true)
    (hc : channel.capturing = false) : t.untilEvent ≤ channel.distance t.count := by
  have hmem : channel ∈ t.channels.toList :=
    Vector.mem_toList_iff.mpr (Vector.mem_of_getElem? hi)
  rw [untilEvent_eq]
  refine foldl_le_of_mem (nearer_le t.count) (fun ticks => ?_) hmem _
  rw [nearer, if_pos ⟨he, by rw [hc]; rfl⟩]
  exact Nat.min_le_right ..

/-- A timer whose overflow interrupt is enabled loses no wrap on its way to an event. -/
theorem countable_ticksToEvent (h : anyBits TimerControl.overflowEnable t.control = true) :
    t.Countable t.ticksToEvent := by
  have hc := t.count.toNat_lt
  unfold Countable
  rcases t.ticksToEvent_cases with hz | ⟨hidle, hu⟩
  · rw [hz]
    split <;> omega
  · have hf : t.overflowed = false := by
      have ho := (not_requested_of_idle hidle).2
      rw [overflowRequested, h, Bool.true_and] at ho
      exact ho
    have hw := t.untilEvent_le_wrap
    rw [hu, hf, if_neg (by decide)]
    omega

end SimTimer

end Msp430
