import Msp430.Proofs.Timer.Scene
import Msp430.Proofs.Timer.Service

/-!
What a dispatch answers. It unites what its handlers answered. The two bits that steer the service
end there, with one exception: an alarm's handler that asks to skip those behind it, of which there
are none, passes that on.
-/
namespace Msp430

/-- What a handler was told and what it answered. -/
structure Response where
  event : TimerEvent
  answer : IsrResult
  deriving DecidableEq, Repr

namespace IsrResult

/-- Without the bits that steer the service of a timer. -/
def outward (result : IsrResult) : IsrResult :=
  { result with unsubscribe := false, breakChain := false }

/-- What the responses ask for together. Only alarms let the request to skip others through. -/
def united (responses : List Response) : IsrResult where
  wake := responses.any (·.answer.wake)
  maskInterrupts := responses.any (·.answer.maskInterrupts)
  yield := responses.any (·.answer.yield)
  breakChain := responses.any fun r => r.event ≠ .overflow && r.answer.breakChain

theorem united_alarm (channel : Nat) (answer : IsrResult) :
    united [⟨.alarm channel, answer⟩] = { answer with unsubscribe := false } := by
  simp [united]

theorem outward_union {result : IsrResult} {responses : List Response}
    (h : result.outward = united responses) (answer : IsrResult) :
    (result ∪ answer).outward = united (⟨.overflow, answer⟩ :: responses) := by
  have parts : united (⟨.overflow, answer⟩ :: responses) =
      ⟨answer.wake || (united responses).wake,
        answer.maskInterrupts || (united responses).maskInterrupts,
        answer.yield || (united responses).yield, false, (united responses).breakChain⟩ := rfl
  rw [parts, ← h, Bool.or_comm, Bool.or_comm answer.maskInterrupts, Bool.or_comm answer.yield]
  rfl

end IsrResult

namespace Scene

open Run

variable {R H M : Type}

/-- A scene with the responses of the handlers called so far, the latest first. -/
abbrev RespondingScene (R H M : Type) := Scene R H (List Response × M)

def responsesCell : Cell (RespondingScene R H M) (List Response) where
  get s := s.memory.1
  set responses s := { s with memory := (responses, s.memory.2) }

/-- Handlers whose answers are recorded. Those that dispatch in turn answer for what they called. -/
def recording (answer : Notify (RespondingScene R H M) H) : Notify (RespondingScene R H M) H :=
  fun h event => do
    let result ← answer h event
    responsesCell.update (⟨event, result⟩ :: ·)
    return result

def answered (s : RespondingScene R H M) : List Response := s.memory.1

/-- Behind what was recorded before, the result unites what the handlers answered. -/
def United (before : List Response) (result : IsrResult) (s : RespondingScene R H M) : Prop :=
  ∃ responses, answered s = responses ++ before ∧ result = IsrResult.united responses

/-- While an overflow is served the result still has the bits that steer it. -/
def Uniting (before : List Response) (result : IsrResult) (s : RespondingScene R H M) : Prop :=
  United before result.outward s

section Port

variable {port : TimerPort (RespondingScene R H M)} {answer : Notify (RespondingScene R H M) H}
variable (hanswer : ∀ h event, (answer h event).Leaves answered) (before : List Response)

include hanswer

theorem recorded_response (h : H) (event : TimerEvent) (v : List Response) :
    Ensures (fun s => answered s = v) (recording answer h event)
      fun result s => answered s = ⟨event, result⟩ :: v := by
  refine Triple.bind ((hanswer h event).ensures v) fun result => ?_
  refine Triple.bind (Q := fun _ s => answered s = ⟨event, result⟩ :: v) ?_ fun _ =>
    triple_pure _ fun _ hs => hs
  refine triple_update fun s hs => ?_
  rw [← hs]
  rfl

variable [DecidableEq H]

/-- What one handler answers to an overflow is added. -/
theorem uniting_overflowStep (place : Nat × IsrResult) :
    Ensures (Uniting before place.2) ((onPort port (recording answer)).overflowStep place)
      fun outcome s =>
        match outcome with
        | .again next => Uniting before next.2 s
        | .finished result => Uniting before result s := by
  obtain ⟨i, result⟩ := place
  refine Triple.bind (Q := fun _ => Uniting before result) (triple_read fun _ hs => hs)
    fun shared => ?_
  split
  · exact triple_pure _ fun _ hs => hs
  · rename_i h _
    have called : Ensures (Uniting before result) (recording answer h .overflow)
        fun answer s => Uniting before (result ∪ answer) s := by
      intro patience s ⟨responses, hanswered, hresult⟩
      have recorded := recorded_response hanswer h .overflow (responses ++ before)
      refine recorded.weaken (fun answer t ht => ?_) patience s hanswered
      exact ⟨⟨.overflow, answer⟩ :: responses, ht, IsrResult.outward_union hresult answer⟩
    refine Triple.bind called fun answer => ?_
    dsimp only
    split
    · refine Triple.bind (Q := fun _ => Uniting before (result ∪ answer)) ?_ fun _ =>
        triple_pure _ fun s hs => by cases answer.breakChain <;> exact hs
      exact Triple.discard (Timer.keeps_removeOverflowHandler h fun _ _ hs _ => hs)
    · exact triple_pure _ fun s hs => by cases answer.breakChain <;> exact hs

theorem united_serviceOverflow :
    Ensures (fun s => answered s = before) (onPort port (recording answer)).serviceOverflow
      (United before) := by
  refine Triple.bind (Q := fun _ => Uniting before .none)
    (triple_update fun s hs => ⟨[], hs, rfl⟩) fun _ => ?_
  refine Triple.bind (Q := Uniting before) ?_ fun result => triple_pure _ fun _ hs => hs
  refine triple_loop (J := fun (place : Nat × IsrResult) => Uniting before place.2)
    (Q := Uniting before) (fun _ _ _ => trivial) (fun place => ?_) (0, IsrResult.none)
  refine (uniting_overflowStep hanswer before place).weaken fun outcome s hs => ?_
  cases outcome <;> exact hs

variable (hp : port.Spares (answered (R := R) (H := H) (M := M)))

include hp

omit [DecidableEq H] in
theorem united_serviceAlarm (channel : Nat) :
    Ensures (fun s => answered s = before) ((onPort port (recording answer)).serviceAlarm channel)
      (United before) := by
  have indifferent : (onPort port (recording answer)).Indifferent (fun s => answered s = before)
      (fun _ => True) :=
    ⟨fun _ _ _ _ hs => hs, fun i => (hp.readChannel i).ensures before,
      fun i bits => (hp.writeChannel i bits).ensures before,
      fun i count => (hp.writeCompare i count).ensures before,
      (Timer.counter_leaves hp).ensures before⟩
  refine Triple.bind (indifferent.takeDue channel) fun due => ?_
  cases due with
  | none => exact triple_pure _ fun _ hs => ⟨[], hs, rfl⟩
  | some found =>
    refine Triple.bind (recorded_response hanswer found.1 (.alarm channel) before) fun result => ?_
    refine triple_pure _ fun s hs => ⟨[⟨.alarm channel, result⟩], hs, ?_⟩
    exact (IsrResult.united_alarm channel result).symm

omit [DecidableEq H] in
theorem united_dispatchFirst :
    Ensures (fun s => answered s = before) (onPort port (recording answer)).dispatchFirst
      (United before) :=
  Triple.bind ((hp.changeChannel 0 _).ensures before) fun _ =>
    united_serviceAlarm hanswer before hp 0

theorem united_dispatchShared :
    Ensures (fun s => answered s = before) (onPort port (recording answer)).dispatchShared
      (United before) := by
  refine Triple.bind (hp.readVector.ensures before) fun vector => ?_
  split
  · exact triple_pure _ fun _ hs => ⟨[], hs, rfl⟩
  · split
    · exact united_serviceOverflow hanswer before
    · exact united_serviceAlarm hanswer before hp _

end Port

/-- On any port, whatever it shows, whatever the slots and the chain hold, and for any handlers: a
dispatch on either vector answers with the union of what the handlers that it called answered. The
request to unsubscribe never comes out of it, the request to skip others only if an alarm's handler
made it. -/
theorem dispatch_unites_answers [DecidableEq H] {port : TimerPort (RespondingScene R H M)}
    (hp : port.Spares (answered (R := R) (H := H) (M := M)))
    {answer : Notify (RespondingScene R H M) H}
    (hanswer : ∀ h event, (answer h event).Leaves answered) (patience : Nat)
    (s : RespondingScene R H M) :
    let t := onPort port (recording answer)
    (∀ result u, t.dispatchFirst.start patience s = .ok result u → United (answered s) result u) ∧
    (∀ result u, t.dispatchShared.start patience s = .ok result u →
      United (answered s) result u) := by
  intro t
  refine ⟨fun result u hrun => ?_, fun result u hrun => ?_⟩
  · exact (united_dispatchFirst hanswer (answered s) hp).of_start rfl hrun
  · exact (united_dispatchShared hanswer (answered s) hp).of_start rfl hrun

/-- The first handler unsubscribes, the second one skips the third, which serves the alarm, too. -/
def threeAnswers : Notify (RespondingScene (SimTimer 2) Nat ClockModule) Nat := fun h _ =>
  return match h with
    | 0 => { yield := true, unsubscribe := true }
    | 1 => { maskInterrupts := true, breakChain := true }
    | _ => { wake := true, breakChain := true }

def threeHandlers : Timer (RespondingScene (SimTimer 2) Nat ClockModule) Nat :=
  timer Prod.snd (recording threeAnswers)

/-- An overflow is pending and the alarm on the first channel is due. -/
def bothDue : RespondingScene (SimTimer 2) Nat ClockModule where
  registers := { control := 0x0023, count := 5, channels := #v[⟨0x0011, 5, 0⟩, {}] }
  shared := {
    overflows := 0xFFFF
    slots := (Vector.replicate _ {}).set 0 ⟨some 2, true, true, 5⟩
    chain := #v[some 0, some 1, some 2, none] }
  memory := ([], {})

theorem dispatch_unites_answers_of_chain :
    threeHandlers.dispatchShared.answer? 9 bothDue =
        some { yield := true, maskInterrupts := true } ∧
      United [] { yield := true, maskInterrupts := true }
        (threeHandlers.dispatchShared.finish 9 bothDue) := by
  have hanswer : threeHandlers.dispatchShared.answer? 9 bothDue =
      some { yield := true, maskInterrupts := true } := by decide +kernel
  obtain ⟨-, shared⟩ := dispatch_unites_answers (spares_simPort fun _ _ => rfl)
    (fun _ _ => leaves_pure answered _) 9 bothDue
  exact ⟨hanswer, shared _ _ (start_of_answer hanswer)⟩

/-- The same request that the service of an overflow keeps to itself comes out of the service of an
alarm. -/
theorem break_chain_passes_alarm :
    threeHandlers.dispatchFirst.answer? 9 bothDue = some { wake := true, breakChain := true } := by
  decide +kernel

end Scene

end Msp430
