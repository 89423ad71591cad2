import Msp430.Proofs.Timer.Channels

/-!
Time on a simulated timer. Ticks add up however they are split: a channel that one part does not
reach is nearer by that part for the next. So a run to the next event has no request on its way; it
ends at a request or where the count wraps.
-/
namespace Msp430

namespace SimChannel

variable (channel : SimChannel) (count : UInt16)

theorem raise_raise : channel.raise.raise = channel.raise := by
  simp only [raise, setBits_setBits]

theorem distance_eq :
    channel.distance count = (channel.compare.toNat + 65535 - count.toNat) % 65536 + 1 := by
  have hcompare := channel.compare.toNat_lt
  have hcount := count.toNat_lt
  unfold distance
  split
  · rename_i he
    rw [he]
    omega
  · rename_i hne
    have hne : channel.compare.toNat ≠ count.toNat := fun he => hne (UInt16.toNat_inj.mp he)
    rw [UInt16.toNat_sub]
    omega

theorem distance_pos : 0 < channel.distance count := by
  rw [distance_eq]
  exact Nat.succ_pos _

variable {count} in
/-- A value that has not been reached is nearer by the ticks that passed. -/
theorem distance_later {ticks : Nat} (h : ticks < channel.distance count) :
    channel.distance (count.toNat + ticks).toUInt16 = channel.distance count - ticks := by
  have hcompare := channel.compare.toNat_lt
  have hcount := count.toNat_lt
  have hlater : (count.toNat + ticks).toUInt16.toNat = (count.toNat + ticks) % 65536 :=
    UInt16.toNat_ofNat'
  rw [distance_eq] at h ⊢
  rw [distance_eq, hlater]
  omega

theorem meet_zero : channel.meet count 0 = channel := by
  have hpos := channel.distance_pos count
  exact if_neg fun h => Nat.not_le.mpr hpos h.2

/-- Two parts raise the flag just if they do so together. -/
theorem meet_meet (a b : Nat) :
    (channel.meet count a).meet (count.toNat + a).toUInt16 b = channel.meet count (a + b) := by
  by_cases hc : channel.capturing = true
  · have stays (count : UInt16) (ticks : Nat) : channel.meet count ticks = channel :=
      if_neg fun h => by simp [hc] at h
    rw [stays, stays, stays]
  · by_cases hreached : channel.distance count ≤ a
    · have raised (ticks : Nat) (h : channel.distance count ≤ ticks) :
          channel.meet count ticks = channel.raise := if_pos ⟨by simpa using hc, h⟩
      rw [raised a hreached, raised (a + b) (Nat.le_add_right_of_le hreached)]
      unfold meet
      split
      · exact channel.raise_raise
      · rfl
    · have hlater := channel.distance_later (Nat.not_le.mp hreached)
      have hmet : channel.meet count a = channel := if_neg fun h => hreached h.2
      have hsum : channel.distance count - a ≤ b ↔ channel.distance count ≤ a + b :=
        Nat.sub_le_iff_le_add'
      rw [hmet]
      simp only [meet, hlater, hsum]

end SimChannel

namespace SimTimer

variable {c : Nat} (t : SimTimer c)

/-! ## Ticks add up -/

theorem advance_eq (ticks : Nat) :
    t.advance ticks = { t with
      control := if 65536 ≤ t.count.toNat + ticks then
        setBits TimerControl.overflowFlag t.control else t.control
      count := (t.count.toNat + ticks).toUInt16
      channels := t.channels.map (·.meet t.count ticks) } := by
  unfold advance
  split
  · rename_i hz
    subst hz
    have hcount := t.count.toNat_lt
    have hmeet : (·.meet t.count 0) = (id : SimChannel → SimChannel) :=
      funext fun channel => channel.meet_zero t.count
    rw [hmeet, Vector.map_id, Nat.add_zero, if_neg (Nat.not_le.mpr hcount)]
    simp
  · unfold raiseOverflow
    by_cases hw : 65536 ≤ t.count.toNat + ticks
    · simp only [hw, decide_true, if_true]
    · simp only [hw, decide_false, Bool.false_eq_true, if_false]

theorem advance_advance (a b : Nat) : (t.advance a).advance b = t.advance (a + b) := by
  have hcount := t.count.toNat_lt
  have hlater : (t.count.toNat + a).toUInt16.toNat = (t.count.toNat + a) % 65536 :=
    UInt16.toNat_ofNat'
  have control : (if 65536 ≤ (t.count.toNat + a) % 65536 + b then
        setBits TimerControl.overflowFlag
          (if 65536 ≤ t.count.toNat + a then setBits TimerControl.overflowFlag t.control
            else t.control)
      else if 65536 ≤ t.count.toNat + a then setBits TimerControl.overflowFlag t.control
        else t.control) =
      if 65536 ≤ t.count.toNat + (a + b) then setBits TimerControl.overflowFlag t.control
        else t.control := by
    by_cases ha : 65536 ≤ t.count.toNat + a
    · rw [if_pos ha, setBits_setBits, ite_self, if_pos (by omega)]
    · rw [if_neg ha, Nat.mod_eq_of_lt (Nat.not_le.mp ha), Nat.add_assoc]
  have count : ((t.count.toNat + a) % 65536 + b).toUInt16 = (t.count.toNat + (a + b)).toUInt16 := by
    apply UInt16.toNat_inj.mp
    have htotal (n : Nat) : n.toUInt16.toNat = n % 65536 := UInt16.toNat_ofNat'
    rw [htotal, htotal]
    omega
  have channels : (t.channels.map (·.meet t.count a)).map
      (·.meet (t.count.toNat + a).toUInt16 b) = t.channels.map (·.meet t.count (a + b)) := by
    rw [Vector.map_map]
    exact congrArg (Vector.map · t.channels) (funext fun channel => channel.meet_meet t.count a b)
  simp only [advance_eq, hlater, control, count, channels]

/-! ## No request on the way -/

theorem pending_eq_idle_iff :
    t.pending = .idle ↔ (∀ i, t.requested i = false) ∧ t.overflowRequested = false := by
  refine ⟨not_requested_of_idle, fun ⟨hchannels, hoverflow⟩ => ?_⟩
  have hnone : t.nextRequest = none := by
    apply List.find?_eq_none.mpr
    intro i _
    rw [hchannels i]
    exact Bool.false_ne_true
  rw [pending, hchannels 0, hnone, hoverflow]
  rfl

theorem requested_advance (ticks i : Nat) :
    (t.advance ticks).requested i =
      (t.channels[i]?).any fun channel => (channel.meet t.count ticks).requested := by
  rw [requested, advance_eq, Vector.getElem?_map]
  cases t.channels[i]? <;> rfl

theorem overflowRequested_advance (ticks : Nat) :
    (t.advance ticks).overflowRequested =
      (anyBits TimerControl.overflowEnable t.control &&
        (t.overflowed || decide (65536 ≤ t.count.toNat + ticks))) := by
  rw [overflowRequested, advance_anyBits t (by decide), advance_overflowed]

/-- A channel whose interrupt is enabled raises no flag before the next event is there. -/
theorem not_requested_before {t : SimTimer c} (hidle : t.pending = .idle) {ticks : Nat}
    (h : ticks < t.untilEvent) (i : Nat) : (t.advance ticks).requested i = false := by
  rw [requested_advance]
  cases hi : t.channels[i]? with
  | none => rfl
  | some channel =>
    have hnow : channel.requested = false := by
      rw [← requested_of_channel hi]
      exact (not_requested_of_idle hidle).1 i
    rw [Option.any_some, SimChannel.meet]
    split
    · rename_i hmet
      obtain ⟨hcomparing, hdistance⟩ := hmet
      rw [SimChannel.requested, channel.enabled_raise]
      cases he : channel.enabled with
      | false => rfl
      | true =>
        have hwait := untilEvent_le_distance hi he (by simpa using hcomparing)
        omega
    · exact hnow

theorem not_pending_before {t : SimTimer c} (hidle : t.pending = .idle) {ticks : Nat}
    (h : ticks < t.untilEvent) : (t.advance ticks).pending = .idle := by
  rw [pending_eq_idle_iff]
  refine ⟨not_requested_before hidle h, ?_⟩
  have hwrap := t.untilEvent_le_wrap
  have hnow := (not_requested_of_idle hidle).2
  rw [overflowRequested] at hnow
  rw [overflowRequested_advance, decide_eq_false (by omega), Bool.or_false]
  exact hnow

/-! ## The next event is reached -/

theorem untilEvent_cases :
    t.untilEvent = 65536 - t.count.toNat ∨ ∃ channel ∈ t.channels, channel.enabled = true ∧
      channel.capturing = false ∧ t.untilEvent = channel.distance t.count := by
  have least (l : List SimChannel) (ticks : Nat) : l.foldl (nearer t.count) ticks = ticks ∨
      ∃ channel ∈ l, channel.enabled = true ∧ channel.capturing = false ∧
        l.foldl (nearer t.count) ticks = channel.distance t.count := by
    induction l generalizing ticks with
    | nil => exact .inl rfl
    | cons channel l ih =>
      rw [List.foldl_cons]
      rcases ih (nearer t.count ticks channel) with he | ⟨other, hm, hother⟩
      · rw [he]
        unfold nearer
        split
        · rename_i hwaits
          rcases Nat.le_total ticks (channel.distance t.count) with hle | hle
          · exact .inl (Nat.min_eq_left hle)
          · exact .inr ⟨channel, List.mem_cons_self, hwaits.1, by simpa using hwaits.2,
              Nat.min_eq_right hle⟩
        · exact .inl rfl
      · exact .inr ⟨other, List.mem_cons_of_mem channel hm, hother⟩
  rw [untilEvent_eq]
  simpa only [Vector.mem_toList_iff] using least t.channels.toList _

theorem untilEvent_pos : 0 < t.untilEvent := by
  have hcount := t.count.toNat_lt
  rcases t.untilEvent_cases with hwrap | ⟨channel, -, -, -, hnext⟩
  · omega
  · rw [hnext]
    exact channel.distance_pos t.count

/-- Unless the run ends at the wrap, a request has come. -/
theorem pending_at_event :
    (t.advance t.untilEvent).pending ≠ .idle ∨ t.count.toNat + t.untilEvent = 65536 := by
  have hcount := t.count.toNat_lt
  rcases t.untilEvent_cases with hwrap | ⟨channel, hm, he, hc, hnext⟩
  · right
    omega
  · left
    intro hidle
    obtain ⟨i, hi, hchannel⟩ := Vector.mem_iff_getElem.mp hm
    have hquiet := (not_requested_of_idle hidle).1 i
    have hmet : channel.meet t.count t.untilEvent = channel.raise := by
      rw [SimChannel.meet, if_pos ⟨by rw [hc]; rfl, Nat.le_of_eq hnext.symm⟩]
    rw [requested_advance, Vector.getElem?_eq_getElem hi, hchannel, Option.any_some, hmet,
      SimChannel.requested, channel.enabled_raise, channel.raise_flagged, he] at hquiet
    cases hquiet

/-- On any timer, in any state: it does not matter into which parts the ticks that pass are split.
The run to the next event, if nothing is pending and the timer counts, goes so many ticks that no
enabled request is pending after fewer, and it does not go past the wrap of the count. -/
theorem time_adds_up_to_events :
    (∀ a b, (t.advance a).advance b = t.advance (a + b)) ∧
    (t.pending = .idle → t.stopped = false →
      t.advanceToEvent = t.advance t.untilEvent ∧ 0 < t.untilEvent ∧
      t.count.toNat + t.untilEvent ≤ 65536 ∧
      (∀ ticks, ticks < t.untilEvent → (∀ i, (t.advance ticks).requested i = false) ∧
        (t.advance ticks).overflowRequested = false) ∧
      (t.advanceToEvent.pending ≠ .idle ∨ t.count.toNat + t.untilEvent = 65536)) := by
  refine ⟨t.advance_advance, fun hidle hruns => ?_⟩
  have hcount := t.count.toNat_lt
  have hwrap := t.untilEvent_le_wrap
  have hrun : t.advanceToEvent = t.advance t.untilEvent := by
    rw [advanceToEvent, if_neg (by simp [hidle, hruns])]
  refine ⟨hrun, t.untilEvent_pos, by omega, fun ticks h => ?_, ?_⟩
  · exact not_requested_of_idle (not_pending_before hidle h)
  · rw [hrun]
    exact t.pending_at_event

/-- Three ticks before the wrap, the second channel has two to go and the first one, which does not
interrupt, has one. -/
def nearWrap : SimTimer 2 where
  control := 0x0022
  count := 0xFFFD
  channels := #v[⟨0, 0xFFFE, 0⟩, ⟨0x0010, 0xFFFF, 0⟩]

theorem time_adds_up_to_events_near_wrap :
    nearWrap.pending = .idle ∧ nearWrap.stopped = false ∧
      (nearWrap.advance 2).advance 70000 = nearWrap.advance 70002 ∧
      nearWrap.advanceToEvent = nearWrap.advance 2 ∧
      (nearWrap.advance 1).overflowRequested = false ∧ nearWrap.advanceToEvent.pending ≠ .idle := by
  have hidle : nearWrap.pending = .idle := by decide
  have hruns : nearWrap.stopped = false := by decide
  have huntil : nearWrap.untilEvent = 2 := by decide
  obtain ⟨parts, events⟩ := nearWrap.time_adds_up_to_events
  obtain ⟨hrun, -, -, before, arrived⟩ := events hidle hruns
  rw [huntil] at hrun before arrived
  refine ⟨hidle, hruns, parts 2 70000, hrun, (before 1 (by decide)).2, ?_⟩
  exact arrived.resolve_right (by decide)

end SimTimer

end Msp430
