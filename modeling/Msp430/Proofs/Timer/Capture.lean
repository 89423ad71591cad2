import Msp430.Proofs.Machine.Triples
import Msp430.Proofs.Timer.Channels
import Msp430.Sim.Ports
import Msp430.Timer.Capture

/-!
Measurements on a simulated timer. One look at the channel is spent on getting rid of an old flag, the
next one gives the reference, and the answer is the sum of the spacings behind that, whatever the
channel and the source of the captures have been through before. The spacings add up to one line, so a
measurement over a whole number of totals gives their sum. Apart from the channel the timer is left
alone.
-/
namespace Msp430

open Run

/-! ## Spacings -/

/-- So many counts lie between the first capture and the `n`-th behind it. -/
def captureLine (total n : Nat) : Nat := total * n / capturesPerTotal

theorem captureLine_succ (total n : Nat) :
    captureLine total (n + 1) = captureLine total n + captureStep total (n + 1) := by
  have hround (k : Nat) : total * (k + 10 * (n / 10)) / 10 = total * k / 10 + total * (n / 10) := by
    rw [Nat.mul_add, Nat.mul_left_comm, Nat.add_mul_div_left _ _ (by decide : 0 < 10)]
  have hn : n = n % 10 + 10 * (n / 10) := (Nat.mod_add_div n 10).symm
  have hline : captureLine total n = total * (n % 10) / 10 + total * (n / 10) := by
    rw [← hround, ← hn, captureLine, capturesPerTotal]
  have hnext : captureLine total (n + 1) = total * (n % 10 + 1) / 10 + total * (n / 10) := by
    have hn' : n + 1 = n % 10 + 1 + 10 * (n / 10) := by omega
    rw [← hround, ← hn', captureLine, capturesPerTotal]
  have hstep : captureStep total (n + 1) = total * (n % 10 + 1) / 10 - total * (n % 10) / 10 := rfl
  have hle : total * (n % 10) / 10 ≤ total * (n % 10 + 1) / 10 :=
    Nat.div_le_div_right (Nat.mul_le_mul_left total (Nat.le_succ _))
  rw [hnext, hline, hstep]
  omega

theorem captureLine_round (total n : Nat) :
    captureLine total (n + capturesPerTotal) = captureLine total n + total := by
  rw [captureLine, captureLine, Nat.mul_add, Nat.add_mul_div_right _ _ (by decide)]

/-- The counts over a number of captures from the `n`-th behind the first one on, each counted from the
one before it. -/
def captureSum (total n : Nat) : Nat → Nat
  | 0 => 0
  | edges + 1 => captureStep total n + captureSum total (n + 1) edges

/-- The spacings add up to the line that the captures lie on. -/
theorem captureLine_add_captureSum (total n edges : Nat) :
    captureLine total n + captureSum total (n + 1) edges = captureLine total (n + edges) := by
  induction edges generalizing n with
  | zero => rfl
  | succ edges ih =>
    rw [captureSum, ← Nat.add_assoc, ← captureLine_succ, ih, Nat.add_right_comm, Nat.add_assoc]

/-- Over whole rounds nothing depends on where they begin. -/
theorem captureSum_rounds (total n rounds : Nat) :
    captureSum total (n + 1) (capturesPerTotal * rounds) = rounds * total := by
  induction rounds with
  | zero => exact (Nat.zero_mul total).symm
  | succ rounds ih =>
    have hline := captureLine_add_captureSum total n (capturesPerTotal * rounds)
    have hnext := captureLine_add_captureSum total n (capturesPerTotal * (rounds + 1))
    rw [Nat.mul_succ, ← Nat.add_assoc, captureLine_round] at hnext
    rw [Nat.mul_succ, Nat.succ_mul]
    omega

/-! ## A timer with one channel in view -/

namespace SimTimer

variable {c : Nat}

/-- The source has the same total for every measurement, and for the one that is under way. -/
structure Yields (clock : ClockModule) (total : Nat) (t : SimTimer c) : Prop where
  again : t.source.begin.2 = t.source
  current : t.source.current clock t.total = total
  next : t.source.current clock (t.source.begin.1.getD t.total) = total

theorem source_modifyChannel (t : SimTimer c) (j : Nat) (f : SimChannel → SimChannel) :
    (t.modifyChannel j f).source = t.source := by
  unfold SimTimer.modifyChannel
  split <;> rfl

variable (t : SimTimer c) (clock : ClockModule) (i : Nat)

/-- The timer with another channel in the place of one. -/
def withChannel (channel : SimChannel) : SimTimer c := t.modifyChannel i fun _ => channel

/-- The timer once a channel with so many captures has its next one. A first one sets the total that
holds from then on. -/
def opened (captures : Nat) : SimTimer c :=
  if captures = 0 then
    { t with source := t.source.begin.2, total := t.source.begin.1.getD t.total }
  else t

/-- The captures that a channel has behind it when it is put into capture mode. Only one that was there
already has any. -/
def pastCaptures : Nat :=
  (t.channels[i]?).elim 0 fun channel => if channel.capturing then channel.captures else 0

/-- The total that holds for a measurement that begins now. -/
def spanTotal : Nat :=
  let opened := t.opened (t.pastCaptures i)
  opened.source.current clock opened.total

theorem Yields.source_opened {t : SimTimer c} {clock : ClockModule} {total : Nat}
    (h : t.Yields clock total) (captures : Nat) : (t.opened captures).source = t.source := by
  unfold opened
  split
  · exact h.again
  · rfl

theorem Yields.spanTotal {t : SimTimer c} {clock : ClockModule} {total : Nat}
    (h : t.Yields clock total) (i : Nat) : t.spanTotal clock i = total := by
  rw [SimTimer.spanTotal, h.source_opened]
  unfold opened
  split
  · exact h.next
  · exact h.current

variable {i} {channel : SimChannel}

theorem channels_withChannel (hi : i < c) :
    (t.withChannel i channel).channels[i]? = some channel := by
  rw [withChannel, channels_modifyChannel, if_pos rfl, Vector.getElem?_eq_getElem hi]
  rfl

theorem modifyChannel_eq (hi : i < c) (f : SimChannel → SimChannel) :
    t.modifyChannel i f = t.withChannel i (f t.channels[i]) := by
  rw [withChannel, modifyChannel, modifyChannel, dif_pos hi]

theorem modifyChannel_withChannel (hi : i < c) (f : SimChannel → SimChannel) :
    (t.withChannel i channel).modifyChannel i f = t.withChannel i (f channel) := by
  simp only [withChannel, modifyChannel, dif_pos hi, Vector.getElem_set_self, Vector.set_set]

theorem core_opened (captures : Nat) : (t.opened captures).core = t.core := by
  unfold opened
  split <;> rfl

theorem channels_opened (captures : Nat) : (t.opened captures).channels = t.channels := by
  unfold opened
  split <;> rfl

theorem opened_withChannel (captures : Nat) :
    (t.withChannel i channel).opened captures = (t.opened captures).withChannel i channel := by
  unfold opened withChannel modifyChannel
  split <;> split <;> rfl

theorem core_withChannel : (t.withChannel i channel).core = t.core := core_modifyChannel ..

theorem source_withChannel : (t.withChannel i channel).source = t.source := source_modifyChannel ..

theorem total_withChannel : (t.withChannel i channel).total = t.total := by
  unfold withChannel modifyChannel
  split <;> rfl

theorem count_withChannel : (t.withChannel i channel).count = t.count := by
  unfold withChannel modifyChannel
  split <;> rfl

theorem capture_eq (captures : Nat) : t.capture clock i captures =
    (t.opened captures).modifyChannel i fun channel => { channel.raise with
      compare := if captures = 0 then t.count else
        channel.compare + (captureStep (t.source.current clock t.total) captures).toUInt16
      captures := captures + 1 } := by
  unfold capture opened
  by_cases hfirst : captures = 0
  · subst hfirst
    rfl
  · simp only [if_neg hfirst]

/-- A look at a channel that waits for a capture finds one. -/
theorem readChannel_waiting {channel : SimChannel} (hchannel : t.channels[i]? = some channel)
    (hcapturing : channel.capturing = true) (hflagged : channel.flagged = false) :
    t.readChannel clock i =
      (((t.capture clock i channel.captures).channels[i]?).elim 0 SimChannel.control,
        t.capture clock i channel.captures) := by
  rw [readChannel, hchannel]
  dsimp only
  rw [if_pos ⟨hcapturing, by rw [hflagged]; rfl⟩]

/-- The next capture of a channel. -/
theorem capture_withChannel (hi : i < c) :
    (t.withChannel i channel).capture clock i channel.captures =
      (t.opened channel.captures).withChannel i { channel.raise with
        compare := if channel.captures = 0 then t.count else
          channel.compare + (captureStep (t.source.current clock t.total) channel.captures).toUInt16
        captures := channel.captures + 1 } := by
  rw [capture_eq, opened_withChannel, modifyChannel_withChannel _ hi, source_withChannel,
    total_withChannel, count_withChannel]

end SimTimer

/-! ## A channel that captures -/

/-- What a channel is written with for a measurement. -/
def captureBits (edge : CaptureEdge) (input : CaptureInput) : UInt16 :=
  (edge.code <<< ChannelControl.edge.shift) ||| (input.code <<< ChannelControl.input.shift) |||
    ChannelControl.synchronous ||| ChannelControl.capture

variable (edge : CaptureEdge) (input : CaptureInput)

theorem captureBits_capture : anyBits ChannelControl.capture (captureBits edge input) = true := by
  cases edge <;> cases input <;> decide

theorem captureBits_unflagged :
    anyBits ChannelControl.interruptFlag (captureBits edge input) = false := by
  cases edge <;> cases input <;> decide

theorem captureBits_acknowledged :
    clearBits ChannelControl.interruptFlag
      (setBits ChannelControl.interruptFlag (captureBits edge input)) = captureBits edge input := by
  cases edge <;> cases input <;> decide

namespace SimChannel

/-- A channel in capture mode that waits for its next capture. -/
def waiting (compare : UInt16) (captures : Nat) : SimChannel :=
  ⟨captureBits edge input, compare, captures⟩

/-- A channel in capture mode that has its capture. -/
def holding (compare : UInt16) (captures : Nat) : SimChannel :=
  (waiting edge input compare captures).raise

theorem waiting_capturing (compare : UInt16) (captures : Nat) :
    (waiting edge input compare captures).capturing = true := captureBits_capture edge input

theorem waiting_unflagged (compare : UInt16) (captures : Nat) :
    (waiting edge input compare captures).flagged = false := captureBits_unflagged edge input

theorem holding_flagged (compare : UInt16) (captures : Nat) :
    (holding edge input compare captures).flagged = true := raise_flagged _

theorem holding_capturing (compare : UInt16) (captures : Nat) :
    (holding edge input compare captures).capturing = true :=
  (anyBits_set_other (by decide) _).trans (captureBits_capture edge input)

/-- Entering capture mode begins anew, and staying in it goes on. -/
theorem write_captureBits (channel : SimChannel) :
    channel.write (captureBits edge input) = waiting edge input channel.compare
      (if channel.capturing then channel.captures else 0) := by
  rw [SimChannel.write, waiting, captureBits_capture]
  cases channel.capturing <;> rfl

theorem write_acknowledged (compare : UInt16) (captures : Nat) :
    (holding edge input compare captures).write
      (clearBits ChannelControl.interruptFlag (holding edge input compare captures).control) =
        waiting edge input compare captures := by
  have hbits : clearBits ChannelControl.interruptFlag (holding edge input compare captures).control =
      captureBits edge input := captureBits_acknowledged edge input
  rw [hbits, write_captureBits, holding_capturing]
  rfl

end SimChannel

namespace SimTimer

open SimChannel

variable {c : Nat} (t : SimTimer c) (clock : ClockModule) {i : Nat} (hi : i < c)
variable (compare : UInt16) (captures : Nat)

include hi

/-- A look at a channel that waits finds its next capture. -/
theorem readChannel_waits :
    (t.withChannel i (waiting edge input compare captures)).readChannel clock i =
      (setBits ChannelControl.interruptFlag (captureBits edge input),
        (t.opened captures).withChannel i (holding edge input
          (if captures = 0 then t.count else
            compare + (captureStep (t.source.current clock t.total) captures).toUInt16)
          (captures + 1))) := by
  have hcapture : (t.withChannel i (waiting edge input compare captures)).capture clock i captures =
      (t.opened captures).withChannel i (holding edge input
        (if captures = 0 then t.count else
          compare + (captureStep (t.source.current clock t.total) captures).toUInt16)
        (captures + 1)) := t.capture_withChannel clock hi
  rw [readChannel_waiting _ _ (t.channels_withChannel hi) (waiting_capturing ..)
    (waiting_unflagged ..)]
  change (((t.withChannel i _).capture clock i captures).channels[i]?.elim 0 _,
    (t.withChannel i _).capture clock i captures) = _
  rw [hcapture, channels_withChannel _ hi]
  rfl

/-- A look at a channel that has its capture changes nothing. -/
theorem readChannel_holds :
    (t.withChannel i (holding edge input compare captures)).readChannel clock i =
      (setBits ChannelControl.interruptFlag (captureBits edge input),
        t.withChannel i (holding edge input compare captures)) := by
  simp only [readChannel, channels_withChannel _ hi, holding_flagged, Bool.not_true,
    Bool.false_eq_true, and_false, if_false]
  rfl

end SimTimer

/-! ## Measuring on a port -/

namespace TimerPort

variable {σ : Type} {c : Nat}

/-- Accesses to channels through the port are accesses to a simulated timer, whose captures look at
the clock module. -/
structure Simulates (p : TimerPort σ) (timer : σ → SimTimer c) (clock : σ → ClockModule) :
    Prop where
  readChannel : ∀ i patience s, ∃ t,
    (p.readChannel i).start patience s = .ok ((timer s).readChannel (clock s) i).1 t ∧
      timer t = ((timer s).readChannel (clock s) i).2 ∧ clock t = clock s
  writeChannel : ∀ i bits patience s, ∃ t, (p.writeChannel i bits).start patience s = .ok () t ∧
    timer t = (timer s).writeChannel i bits ∧ clock t = clock s
  readCompare : ∀ i patience s, ∃ t,
    (p.readCompare i).start patience s = .ok ((timer s).readCompare i) t ∧
      timer t = timer s ∧ clock t = clock s

namespace Simulates

open SimChannel

variable {p : TimerPort σ} {timer : σ → SimTimer c} {clock : σ → ClockModule}

/-- The port shows a timer with this channel in view, beside the clock module. -/
structure Shows (timer : σ → SimTimer c) (clock : σ → ClockModule) (module : ClockModule) (i : Nat)
    (t : SimTimer c) (channel : SimChannel) (s : σ) : Prop where
  timer : timer s = t.withChannel i channel
  clock : clock s = module

variable (hp : p.Simulates timer clock) {module : ClockModule} {i : Nat} (hi : i < c)
variable {t : SimTimer c} {s : σ} {compare : UInt16} {captures : Nat}

include hp hi

theorem start_writeChannel {channel : SimChannel}
    (hs : Shows timer clock module i t channel s) (bits : UInt16) (patience : Nat) :
    ∃ u, (p.writeChannel i bits).start patience s = .ok () u ∧
      Shows timer clock module i t (channel.write bits) u := by
  obtain ⟨u, hrun, hu, hclock⟩ := hp.writeChannel i bits patience s
  refine ⟨u, hrun, ?_, hclock.trans hs.clock⟩
  rw [hu, hs.timer, SimTimer.writeChannel, SimTimer.modifyChannel_withChannel _ hi]

theorem start_readCapture {channel : SimChannel}
    (hs : Shows timer clock module i t channel s) (patience : Nat) :
    ∃ u, (p.readCompare i).start patience s = .ok channel.compare u ∧
      Shows timer clock module i t channel u := by
  obtain ⟨u, hrun, hu, hclock⟩ := hp.readCompare i patience s
  rw [SimTimer.readCompare, hs.timer, SimTimer.channels_withChannel _ hi] at hrun
  exact ⟨u, hrun, hu.trans hs.timer, hclock.trans hs.clock⟩

/-- Clearing the flag acknowledges whatever capture the look on the way finds. -/
theorem start_acknowledgeFound {found : SimTimer c} (hclock : clock s = module)
    (hlook : (timer s).readChannel module i =
      (setBits ChannelControl.interruptFlag (captureBits edge input),
        found.withChannel i (holding edge input compare captures))) (patience : Nat) :
    ∃ u, (p.clearFlag i).start patience s = .ok () u ∧
      Shows timer clock module i found (waiting edge input compare captures) u := by
  obtain ⟨v, hread, hv, hkept⟩ := hp.readChannel i patience s
  rw [hclock, hlook] at hread hv
  have hshows : Shows timer clock module i found (holding edge input compare captures) v :=
    ⟨hv, hkept.trans hclock⟩
  obtain ⟨u, hwrite, hu⟩ := hp.start_writeChannel hi hshows
    (clearBits ChannelControl.interruptFlag (holding edge input compare captures).control) patience
  rw [write_acknowledged] at hu
  refine ⟨u, ?_, hu⟩
  rw [clearFlag, changeChannel, start_bind_ok hread]
  exact hwrite

/-- One capture of the span: it is waited for, and acknowledged. -/
theorem start_nextCapture {patience : Nat} (hpatience : 0 < patience)
    (hs : Shows timer clock module i t (waiting edge input compare (captures + 1)) s) :
    ∃ u, (p.awaitCapture i).start patience s = .ok () u ∧
      Shows timer clock module i t (holding edge input (compare +
        (captureStep (t.source.current module t.total) (captures + 1)).toUInt16)
        (captures + 1 + 1)) u := by
  obtain ⟨u, hread, hu, hclock⟩ := hp.readChannel i patience s
  rw [hs.clock, hs.timer, SimTimer.readChannel_waits edge input t module hi] at hread hu
  refine ⟨u, ?_, hu, hclock.trans hs.clock⟩
  have hlook : (p.flagged i).start patience s = .ok true u := by
    rw [flagged, start_bind_ok hread]
    exact congrArg (EStateM.Result.ok · u) (anyBits_set_self (by decide) _)
  exact start_poll_met hlook hpatience

theorem start_acknowledgeCapture
    (hs : Shows timer clock module i t (holding edge input compare captures) s) (patience : Nat) :
    ∃ u, (p.clearFlag i).start patience s = .ok () u ∧
      Shows timer clock module i t (waiting edge input compare captures) u := by
  apply hp.start_acknowledgeFound edge input hi hs.clock
  rw [hs.timer, SimTimer.readChannel_holds edge input t module hi]

/-- The compare register moves on by the spacings of all captures that are counted. -/
theorem start_countCaptures {patience : Nat} (hpatience : 0 < patience)
    (hs : Shows timer clock module i t (waiting edge input compare (captures + 1)) s)
    (edges : Nat) :
    ∃ u, (Run.times (do p.awaitCapture i; p.clearFlag i) edges).start patience s = .ok () u ∧
      Shows timer clock module i t (waiting edge input (compare +
        (captureSum (t.source.current module t.total) (captures + 1) edges).toUInt16)
        (captures + 1 + edges)) u := by
  induction edges generalizing s compare captures with
  | zero =>
    have hsum : compare + (captureSum (t.source.current module t.total) (captures + 1) 0).toUInt16 =
        compare := UInt16.add_zero _
    rw [hsum]
    exact ⟨s, rfl, hs⟩
  | succ edges ih =>
    obtain ⟨u, hawait, hu⟩ := hp.start_nextCapture edge input hi hpatience hs
    obtain ⟨v, hclear, hv⟩ := hp.start_acknowledgeCapture edge input hi hu patience
    obtain ⟨w, hrest, hw⟩ := ih hv
    refine ⟨w, ?_, ?_⟩
    · rw [Run.times, bind_assoc, start_bind_ok hawait, start_bind_ok hclear]
      exact hrest
    · have hsum (step rest : Nat) : compare + step.toUInt16 + rest.toUInt16 =
          compare + (step + rest).toUInt16 := by
        rw [UInt16.add_assoc]
        exact congrArg (compare + ·) (UInt16.ofNat_add _ _).symm
      rw [hsum, Nat.add_right_comm (captures + 1)] at hw
      exact hw

/-- What a measurement answers with, and the timer that it leaves. -/
theorem start_span {patience : Nat} (hpatience : 0 < patience) (edges : Nat) (s : σ) :
    ∃ compare t, (p.captureSpan i edge input edges).start patience s =
        .ok (captureSum ((timer s).spanTotal (clock s) i)
          ((timer s).pastCaptures i + 2) edges).toUInt16 t ∧
      Shows timer clock (clock s) i ((timer s).opened ((timer s).pastCaptures i))
        ⟨0, compare, (timer s).pastCaptures i + 2 + edges⟩ t := by
  let past := (timer s).pastCaptures i
  let total := (timer s).spanTotal (clock s) i
  obtain ⟨t, hwrite, ht, hkept⟩ := hp.writeChannel i (captureBits edge input) patience s
  have hmode : (p.captureMode i edge input).start patience s = .ok () t := hwrite
  have hentered : timer t = (timer s).withChannel i
      (waiting edge input (timer s).channels[i].compare past) := by
    rw [ht, SimTimer.writeChannel, SimTimer.modifyChannel_eq _ hi, write_captureBits]
    simp only [past, SimTimer.pastCaptures, Vector.getElem?_eq_getElem hi, Option.elim_some]
  have hlook := SimTimer.readChannel_waits edge input (timer s) (clock s) hi
    (timer s).channels[i].compare past
  rw [← hentered] at hlook
  obtain ⟨u, hclear, hu⟩ := hp.start_acknowledgeFound edge input hi hkept hlook patience
  -- it does not matter where the first capture was
  generalize (if past = 0 then (timer s).count else _ : UInt16) = base at hu
  obtain ⟨v, hawait, hv⟩ := hp.start_nextCapture edge input hi hpatience hu
  let first := base + (captureStep total (past + 1)).toUInt16
  obtain ⟨w, hfirst, hw⟩ := hp.start_readCapture hi hv patience
  obtain ⟨x, hclear', hx⟩ := hp.start_acknowledgeCapture edge input hi hw patience
  obtain ⟨y, hcount, hy⟩ := hp.start_countCaptures edge input hi hpatience hx edges
  let final := first + (captureSum total (past + 2) edges).toUInt16
  obtain ⟨z, hlast, hz⟩ := hp.start_readCapture hi hy patience
  obtain ⟨last, hcompare, hend⟩ := hp.start_writeChannel hi hz 0 patience
  refine ⟨final, last, ?_, hend⟩
  rw [captureSpan, start_bind_ok hmode, start_bind_ok hclear, start_bind_ok hawait,
    start_bind_ok hfirst, start_bind_ok hclear', start_bind_ok hcount, start_bind_ok hlast,
    compareMode, start_bind_ok hcompare]
  have hspan : final - first = (captureSum total (past + 2) edges).toUInt16 := by
    rw [UInt16.sub_eq_iff_eq_add, UInt16.add_comm]
  exact congrArg (EStateM.Result.ok · last) hspan

/-- A measurement always comes to an end. It answers with the sum of the spacings of as many captures
as it was asked for, behind the second one that it sees: the first one it sees only rids the channel of
an old flag. Over whole rounds that is a multiple of the total, and over no captures it is zero. The
channel is left comparing, with its interrupt disabled and its flag clear, and neither the other
channels nor the control register nor the count nor the clock module have changed. -/
theorem span_sums_spacings {patience : Nat} (hpatience : 0 < patience) (edges : Nat) (s : σ) :
    ∃ measured t, (p.captureSpan i edge input edges).start patience s = .ok measured t ∧
      measured.toNat = captureSum ((timer s).spanTotal (clock s) i)
        ((timer s).pastCaptures i + 2) edges % 65536 ∧
      (∀ rounds, edges = 10 * rounds →
        measured.toNat = rounds * (timer s).spanTotal (clock s) i % 65536) ∧
      (edges = 0 → measured = 0) ∧
      (timer t).channels[i]?.map SimChannel.control = some 0 ∧
      (∀ j, j ≠ i → (timer t).channels[j]? = (timer s).channels[j]?) ∧
      (timer t).control = (timer s).control ∧ (timer t).count = (timer s).count ∧
      clock t = clock s := by
  obtain ⟨compare, t, hrun, ht⟩ := hp.start_span edge input hi hpatience edges s
  have hcore : (timer t).core = (timer s).core := by
    rw [ht.timer, SimTimer.core_withChannel, SimTimer.core_opened]
  refine ⟨_, t, hrun, rfl, ?_, ?_, ?_, ?_, ?_, ?_, ht.clock⟩
  · rintro rounds rfl
    exact congrArg (· % 65536) (captureSum_rounds _ ((timer s).pastCaptures i + 1) rounds)
  · rintro rfl
    rfl
  · rw [ht.timer, SimTimer.channels_withChannel _ hi]
    rfl
  · intro j hj
    rw [ht.timer, SimTimer.withChannel, SimTimer.channels_modifyChannel, if_neg (Ne.symm hj),
      SimTimer.channels_opened]
  · change (timer t).core.control = (timer s).core.control
    rw [hcore]
  · change (timer t).core.count = (timer s).core.count
    rw [hcore]

omit hi in
/-- With a source that has one total, a measurement answers with what lies on the line between its two
ends. -/
theorem start_captureSpan {total : Nat} {patience : Nat}
    (hyields : (timer s).Yields (clock s) total) (hi : i < c) (hpatience : 0 < patience)
    (edge : CaptureEdge) (input : CaptureInput) (edges : Nat) :
    ∃ n t, (p.captureSpan i edge input edges).start patience s =
        .ok (captureLine total (n + edges) - captureLine total n).toUInt16 t ∧
      (timer t).source = (timer s).source := by
  obtain ⟨compare, t, hrun, ht⟩ := hp.start_span edge input hi hpatience edges s
  rw [hyields.spanTotal] at hrun
  have hline := captureLine_add_captureSum total ((timer s).pastCaptures i + 1) edges
  refine ⟨(timer s).pastCaptures i + 1, t, ?_, ?_⟩
  · rw [← hline, Nat.add_sub_cancel_left]
    exact hrun
  · rw [ht.timer, SimTimer.source_withChannel, hyields.source_opened]

end Simulates

end TimerPort

/-! ## A channel that is captured in anew -/

/-- A timer by itself, beside a clock module as power-up leaves it. -/
def barePort : TimerPort (SimTimer 2) := SimTimer.port .whole (return {}) fun _ => return ()

theorem simulates_barePort : barePort.Simulates id fun _ => {} where
  readChannel _ _ _ := ⟨_, rfl, rfl, rfl⟩
  writeChannel _ _ _ _ := ⟨_, rfl, rfl, rfl⟩
  readCompare _ _ _ := ⟨_, rfl, rfl, rfl⟩

/-- The second channel has been captured in seven times, with an old flag and a register that is about
to wrap. -/
def recaptured : SimTimer 2 :=
  { control := 0x0220, count := 99, channels := #v[{}, ⟨0x3911, 65530, 7⟩], source := .live 30007 }

/-- Twenty-five spacings from the ninth on are two and a half totals, rounded, and wrap. -/
theorem span_sums_spacings_recaptured :
    1 < 2 ∧ 0 < 1 ∧ recaptured.pastCaptures 1 = 7 ∧ recaptured.spanTotal {} 1 = 30007 ∧
      ∃ t : SimTimer 2, (barePort.captureSpan 1 .falling .b 25).start 1 recaptured = .ok 9482 t ∧
        t.channels[1]?.map SimChannel.control = some 0 ∧ t.channels[0]? = some ⟨0, 0, 0⟩ ∧
        t.control = 0x0220 ∧ t.count = 99 := by
  have hpast : recaptured.pastCaptures 1 = 7 := by decide +kernel
  have htotal : recaptured.spanTotal {} 1 = 30007 := by decide +kernel
  obtain ⟨measured, t, hrun, hmeasured, -, -, hidle, hothers, hcontrol, hcount, -⟩ :=
    simulates_barePort.span_sums_spacings .falling .b (by decide : 1 < 2) (by decide : 0 < 1) 25
      recaptured
  have hsum : measured.toNat = 9482 := by
    rw [hmeasured]
    change captureSum (recaptured.spanTotal {} 1) (recaptured.pastCaptures 1 + 2) 25 % 65536 = _
    rw [hpast, htotal]
    decide +kernel
  obtain rfl : measured = 9482 := UInt16.toNat_inj.mp hsum
  exact ⟨by decide, by decide, hpast, htotal, t, hrun, hidle, hothers 0 (by decide), hcontrol, hcount⟩

end Msp430
