import Msp430.Proofs.Timer.Simulated

/-!
Where the shared vector leads. The request of a channel is served as its alarm and calls no overflow
handler; the request of the overflow counts one overflow and calls no alarm. Channel 5 is the
exception on timers that have it: its vector is the one of the overflow.
-/
namespace Msp430.Scene

open Run

variable {H M : Type} {c : Nat}

/-! ## Calls of handlers -/

/-- The handlers called so far and what they were told, the latest first. -/
abbrev Calls (H : Type) := List (H × TimerEvent)

def callsCell : Cell (Scene (SimTimer c) H (Calls H × M)) (Calls H) where
  get s := s.memory.1
  set calls s := { s with memory := (calls, s.memory.2) }

/-- Handlers whose calls are entered before they act. -/
def enteringCalls (answer : Notify (Scene (SimTimer c) H (Calls H × M)) H) :
    Notify (Scene (SimTimer c) H (Calls H × M)) H := fun h event => do
  callsCell.update ((h, event) :: ·)
  answer h event

/-- The overflows counted and the calls so far. -/
def tally (s : Scene (SimTimer c) H (Calls H × M)) : UInt16 × Calls H :=
  (s.shared.overflows, s.memory.1)

/-! ## Service of an alarm -/

section Port

variable (clock : M → ClockModule) (notify : Notify (Scene (SimTimer c) H M) H)

theorem answers_takeDue (channel : Nat) : ((timer clock notify).takeDue channel).Answers :=
  Timer.answers_takeDue answers_simPort channel

end Port

variable {clock : Calls H × M → ClockModule}
variable {answer : Notify (Scene (SimTimer c) H (Calls H × M)) H}

theorem leaves_takeDue (channel : Nat) :
    ((timer clock (enteringCalls answer)).takeDue channel).Leaves tally := by
  have hp : (simPort clock).Spares (tally (c := c) (H := H) (M := M)) :=
    spares_simPort fun _ _ => rfl
  intro v
  have indifferent : (timer clock (enteringCalls answer)).Indifferent
      (fun s => tally s = v) (fun s => tally s = v) :=
    ⟨fun _ _ _ _ hs => hs, fun i => hp.readChannel i v, fun i bits => hp.writeChannel i bits v,
      fun i count => hp.writeCompare i count v, Timer.counter_leaves hp v⟩
  exact indifferent.takeDue channel

/-- The alarm that is due calls its handler and no other. -/
theorem tally_serviceAlarm (hanswer : ∀ h event, (answer h event).Leaves tally) (channel : Nat)
    {patience : Nat} {s t : Scene (SimTimer c) H (Calls H × M)} {due : Option (H × UInt32)}
    (hdue : ((timer clock (enteringCalls answer)).takeDue channel).start patience s = .ok due t) :
    tally (((timer clock (enteringCalls answer)).serviceAlarm channel).finish patience s) =
      (s.shared.overflows,
        (due.map fun d => (d.1, TimerEvent.alarm channel)).toList ++ s.memory.1) := by
  have kept : tally t = tally s := by
    rw [← finish_of_start hdue]
    exact (leaves_takeDue channel).finish patience s
  rw [Timer.serviceAlarm, finish_bind hdue]
  cases due with
  | none => exact kept
  | some d =>
    have called : Leaves tally ((answer d.1 (.alarm channel)) >>= fun result =>
        pure { result with unsubscribe := false }) :=
      (hanswer d.1 _).bind fun _ => leaves_pure tally _
    obtain ⟨hover, hcalls⟩ := Prod.mk.inj kept
    refine (called.finish patience { t with
      memory := ((d.1, .alarm channel) :: t.memory.1, t.memory.2) }).trans ?_
    rw [tally, hover, hcalls]
    rfl

/-! ## Service of an overflow -/

/-- One more overflow than before, and since then handlers were only told of an overflow. -/
def Overflowed (before : UInt16 × Calls H) (s : Scene (SimTimer c) H (Calls H × M)) : Prop :=
  s.shared.overflows = before.1 + 1 ∧
    ∃ handlers : List H, s.memory.1 = handlers.map (·, TimerEvent.overflow) ++ before.2

theorem overflowed_serviceOverflow [DecidableEq H] (hanswer : ∀ h event, (answer h event).Leaves tally)
    (patience : Nat) (s : Scene (SimTimer c) H (Calls H × M)) :
    Overflowed (tally s) ((timer clock (enteringCalls answer)).serviceOverflow.finish patience s) := by
  have call (h : H) : Keeps (Overflowed (tally s)) (Overflowed (tally s))
      (enteringCalls answer h .overflow) := by
    refine Triple.bind (Q := fun _ => Overflowed (tally s)) ?_ fun _ =>
      (hanswer h .overflow).keeps_of_congr (fun t u hu ht => ?_) fun _ ht => ht
    · rintro _ t ⟨hover, handlers, hcalls⟩
      exact ⟨hover, h :: handlers, congrArg ((h, TimerEvent.overflow) :: ·) hcalls⟩
    · obtain ⟨hover, hcalls⟩ := Prod.mk.inj hu
      exact ⟨hover.trans ht.1, ht.2.imp fun _ hh => hcalls.trans hh⟩
  have service : Triple (fun t => tally t = tally s)
      (timer clock (enteringCalls answer)).serviceOverflow (fun _ => Overflowed (tally s))
      (Overflowed (tally s)) := by
    refine Timer.triple_serviceOverflow (fun _ h => h) (fun t ht => ?_) (fun _ _ h => h) call
    obtain ⟨hover, hcalls⟩ := Prod.mk.inj ht
    exact ⟨congrArg (· + 1) hover, [], hcalls⟩
  exact service.finish (fun _ _ h => h) rfl

/-! ## The shared vector -/

section Vector

variable {M : Type} {clock : M → ClockModule} {notify : Notify (Scene (SimTimer c) H M) H}
variable {s t : Scene (SimTimer c) H M} {patience : Nat}

def acknowledge (i : Nat) (s : Scene (SimTimer c) H M) : Scene (SimTimer c) H M :=
  { s with registers := s.registers.modifyChannel i SimChannel.acknowledge }

def acknowledgeOverflow (s : Scene (SimTimer c) H M) : Scene (SimTimer c) H M :=
  { s with
    registers := { s.registers with
      control := clearBits TimerControl.overflowFlag s.registers.control } }

theorem start_readVector_channel (hscript : s.registers.vectorScript = []) {i : Nat}
    (hi : s.registers.nextRequest = some i) (patience : Nat) :
    (simPort clock).readVector.start patience s = .ok (2 * i.toUInt16) (s.acknowledge i) := by
  rw [start_readVector, SimTimer.readVector_unscripted hscript, hi]
  rfl

theorem start_readVector_overflow (hscript : s.registers.vectorScript = [])
    (hi : s.registers.nextRequest = none) (ho : s.registers.overflowRequested = true)
    (patience : Nat) :
    (simPort clock).readVector.start patience s = .ok overflowVector s.acknowledgeOverflow := by
  rw [start_readVector, SimTimer.readVector_unscripted hscript, hi]
  simp only [if_pos ho, acknowledgeOverflow]

theorem start_readVector_idle (hscript : s.registers.vectorScript = [])
    (hi : s.registers.nextRequest = none) (ho : s.registers.overflowRequested = false)
    (patience : Nat) : (simPort clock).readVector.start patience s = .ok 0 s := by
  rw [start_readVector, SimTimer.readVector_unscripted hscript, hi]
  simp [ho]

variable (notify) [DecidableEq H]

theorem start_dispatchShared_idle (hv : (simPort clock).readVector.start patience s = .ok 0 t) :
    (timer clock notify).dispatchShared.start patience s = .ok .none t := by
  have hv : (timer clock notify).port.readVector.start patience s = .ok 0 t := hv
  rw [Timer.dispatchShared, start_bind_ok hv]
  rfl

theorem start_dispatchShared_overflow
    (hv : (simPort clock).readVector.start patience s = .ok overflowVector t) :
    (timer clock notify).dispatchShared.start patience s =
      (timer clock notify).serviceOverflow.start patience t := by
  have hv : (timer clock notify).port.readVector.start patience s = .ok overflowVector t := hv
  rw [Timer.dispatchShared, start_bind_ok hv]
  rfl

theorem start_dispatchShared_channel {i : Nat} (hpos : 0 < i) (hlt : i < maxChannels) (hi : i ≠ 5)
    (hv : (simPort clock).readVector.start patience s = .ok (2 * i.toUInt16) t) :
    (timer clock notify).dispatchShared.start patience s =
      ((timer clock notify).serviceAlarm i).start patience t := by
  have hbyte : i < 256 := Nat.lt_trans hlt (by decide)
  obtain ⟨hzero, hother, hback⟩ := SimTimer.vector_channel hpos hbyte hi
  have hv : (timer clock notify).port.readVector.start patience s = .ok (2 * i.toUInt16) t := hv
  rw [Timer.dispatchShared, start_bind_ok hv]
  simp only [if_neg hzero, if_neg hother, hback]

end Vector

variable [DecidableEq H] {clock : Calls H × M → ClockModule}
variable {answer : Notify (Scene (SimTimer c) H (Calls H × M)) H}

/-- On any timer that drivers support, whatever its channels, slots and flags hold: a request of any
channel but 5 is served as that channel's alarm, a request of the overflow as one overflow, and
without a request nothing happens. -/
theorem shared_vector_routed (hc : c ≤ maxChannels)
    (hanswer : ∀ h event, (answer h event).Leaves tally) (patience : Nat)
    (s : Scene (SimTimer c) H (Calls H × M)) (hscript : s.registers.vectorScript = []) :
    let t := timer clock (enteringCalls answer)
    (∀ i, s.registers.nextRequest = some i → i ≠ 5 →
      t.port.readVector.start patience s = .ok (2 * i.toUInt16) (s.acknowledge i) ∧
      t.dispatchShared.start patience s =
        (t.serviceAlarm i).start patience (s.acknowledge i) ∧
      ∃ due u, (t.takeDue i).start patience (s.acknowledge i) = .ok due u ∧
        tally (t.dispatchShared.finish patience s) = (s.shared.overflows,
          (due.map fun d => (d.1, TimerEvent.alarm i)).toList ++ s.memory.1)) ∧
    (s.registers.nextRequest = none → s.registers.overflowRequested = true →
      t.port.readVector.start patience s = .ok overflowVector s.acknowledgeOverflow ∧
      Overflowed (tally s) (t.dispatchShared.finish patience s)) ∧
    (s.registers.nextRequest = none → s.registers.overflowRequested = false →
      t.dispatchShared.start patience s = .ok .none s) := by
  intro t
  refine ⟨fun i hi hother => ?_, fun hi ho => ?_, fun hi ho => ?_⟩
  · obtain ⟨hpos, hlt⟩ := SimTimer.nextRequest_some hi
    have hv : t.port.readVector.start patience s = .ok (2 * i.toUInt16) (s.acknowledge i) :=
      start_readVector_channel hscript hi patience
    have hserved := start_dispatchShared_channel (enteringCalls answer) hpos
      (Nat.lt_of_lt_of_le hlt hc) hother hv
    obtain ⟨due, u, hdue⟩ := answers_takeDue clock (enteringCalls answer) i patience
      (s.acknowledge i)
    refine ⟨hv, hserved, due, u, hdue, ?_⟩
    rw [finish_congr hserved]
    exact tally_serviceAlarm hanswer i hdue
  · have hv : t.port.readVector.start patience s = .ok overflowVector s.acknowledgeOverflow :=
      start_readVector_overflow hscript hi ho patience
    refine ⟨hv, ?_⟩
    rw [finish_congr (start_dispatchShared_overflow (enteringCalls answer) hv)]
    exact overflowed_serviceOverflow hanswer patience s.acknowledgeOverflow
  · exact start_dispatchShared_idle _ (start_readVector_idle hscript hi ho patience)

/-- The request of channel 5 is served as an overflow: its alarm is acknowledged and not looked at. -/
theorem channel_five_overflows (hanswer : ∀ h event, (answer h event).Leaves tally)
    (patience : Nat) (s : Scene (SimTimer c) H (Calls H × M))
    (hscript : s.registers.vectorScript = []) (hfive : s.registers.nextRequest = some 5) :
    Overflowed (tally s)
      ((timer clock (enteringCalls answer)).dispatchShared.finish patience s) := by
  have hv : (simPort clock).readVector.start patience s = .ok overflowVector (s.acknowledge 5) :=
    start_readVector_channel hscript hfive patience
  rw [finish_congr (start_dispatchShared_overflow (enteringCalls answer) hv)]
  exact overflowed_serviceOverflow hanswer patience (s.acknowledge 5)

/-! ## Two alarms that are due -/

/-- A timer with so many channels, of which one has just met the setting of its alarm. -/
def channelDue (c : Nat) (i : Fin maxChannels) :
    Scene (SimTimer c) Unit (Calls Unit × ClockModule) where
  registers := {
    count := 7
    channels := (Vector.replicate c {}).setIfInBounds i ⟨0x0011, 7, 0⟩ }
  shared := {
    slots := (Vector.replicate _ {}).set i ⟨some (), true, true, 7⟩ i.isLt
    chain := #v[some (), none, none, none] }
  memory := ([], {})

/-- Its timer with handlers that do nothing. -/
def idlyServed (c : Nat) : Timer (Scene (SimTimer c) Unit (Calls Unit × ClockModule)) Unit :=
  timer Prod.snd (enteringCalls fun _ _ => return .none)

theorem shared_vector_routed_due :
    (channelDue 7 6).registers.nextRequest = some 6 ∧
      (idlyServed 7).dispatchShared.start 9 (channelDue 7 6) =
        ((idlyServed 7).serviceAlarm 6).start 9 ((channelDue 7 6).acknowledge 6) ∧
      tally ((idlyServed 7).dispatchShared.finish 9 (channelDue 7 6)) =
        (0, [((), .alarm 6)]) := by
  have request : (channelDue 7 6).registers.nextRequest = some 6 := by decide
  obtain ⟨channel, -, -⟩ := shared_vector_routed (by decide)
    (fun _ _ => leaves_pure tally IsrResult.none) 9 (channelDue 7 6) rfl
  obtain ⟨-, served, -⟩ := channel 6 request (by decide)
  exact ⟨request, served, by decide +kernel⟩

/-- On a timer with all seven channels the sixth one's alarm is due and its request is acknowledged,
yet the alarm stays armed, its handler is not called, and an overflow is counted that did not
happen. -/
theorem sixth_channel_misrouted :
    let s := channelDue 7 5
    let t := (idlyServed 7).dispatchShared.finish 9 s
    s.registers.nextRequest = some 5 ∧ s.registers.overflowed = false ∧
      t.registers.requested 5 = false ∧ (t.shared.slot 5).armed = true ∧
      tally s = (0, []) ∧ tally t = (1, [((), .overflow)]) := by
  decide +kernel

end Msp430.Scene
