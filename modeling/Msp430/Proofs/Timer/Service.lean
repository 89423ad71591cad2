import Msp430.Proofs.Machine.Triples
import Msp430.Sim.Service

/-!
What interrupt service keeps, given what the handlers keep. The handlers are arbitrary; a dispatch
keeps an invariant if they do and if its own changes between their calls do.
-/
namespace Msp430

open Run

variable {σ H : Type} {P I J E : σ → Prop}

/-- Each handler has a state that it goes on from, and one that its answer leaves behind. -/
theorem Notify.triple_ofCode {J : H → σ → Prop} {Q : H → TimerEvent → IsrResult → σ → Prop}
    {code : Notify σ H → Notify σ H} (halt : ∀ h s, J h s → E s)
    (step : ∀ notify : Notify σ H, (∀ h event, Triple (J h) (notify h event) (Q h event) E) →
      ∀ h event, Triple (J h) (code notify h event) (Q h event) E) (handler : H)
    (event : TimerEvent) :
    Triple (J handler) (Notify.ofCode code handler event) (Q handler event) E := by
  have nested (depth : Nat) : ∀ h event,
      Triple (J h) (Notify.nested code depth h event) (Q h event) E := by
    -- a handler runs others only one level down
    induction depth with
    | zero => exact fun h _ => triple_throw _ (halt h)
    | succ depth ih => exact step _ ih
  intro patience s hs
  exact nested patience handler event patience s hs

theorem Notify.keeps_ofCode {code : Notify σ H → Notify σ H} (halt : ∀ s, I s → E s)
    (h : ∀ notify : Notify σ H, (∀ h event, Keeps I E (notify h event)) →
      ∀ h event, Keeps I E (code notify h event)) (handler : H) (event : TimerEvent) :
    Keeps I E (Notify.ofCode code handler event) :=
  Notify.triple_ofCode (J := fun _ => I) (Q := fun _ _ _ => I) (fun _ => halt) h handler event

/-- What every step keeps if the handlers do, programs of such steps keep whose handlers are made of
such steps, too. -/
theorem Notify.keeps_program {allowed : Notify σ H → ∀ α : Type, Run σ α → Prop}
    {code : Notify σ H → Notify σ H} {α : Type} {program : Run σ α} (halt : ∀ s, I s → E s)
    (step : ∀ notify : Notify σ H, (∀ h event, Keeps I E (notify h event)) →
      ∀ α (run : Run σ α), allowed notify α run → Keeps I E run)
    (hcode : ∀ notify h event, Built (allowed notify) (code notify h event))
    (hprogram : Built (allowed (.ofCode code)) program) : Keeps I E program := by
  have handlers : ∀ h event, Keeps I E (Notify.ofCode code h event) := by
    apply Notify.keeps_ofCode halt
    intro notify hnotify h event
    exact keeps_built (step notify hnotify) (hcode notify h event)
  exact keeps_built (step _ handlers) hprogram

/-- A chain that a handler was taken out of has no new entries. -/
theorem Chain.mem_of_mem_erase [DecidableEq H] {chain shorter : Chain H} {h x : H}
    (he : erase? chain h = some shorter) (hx : some x ∈ shorter) : some x ∈ chain := by
  obtain ⟨i, -, hi⟩ := Option.bind_eq_some_iff.mp he
  obtain rfl := Option.some.inj hi
  obtain ⟨j, hlt, hj⟩ := Vector.mem_iff_getElem.mp hx
  rw [Vector.getElem_ofFn] at hj
  split at hj
  · rw [← hj]
    exact Vector.getElem_mem ..
  · exact Vector.mem_of_getElem? (Option.join_eq_some_iff.mp hj)

namespace Timer

variable {t : Timer σ H}

/-- The handler of an alarm that is due runs from where it was found. -/
theorem triple_serviceAlarm_found {J : H → σ → Prop} {channel : Nat}
    (take : Triple P (t.takeDue channel)
      (fun due s => match due with
        | some (h, _) => J h s
        | none => I s) E)
    (call : ∀ h, Triple (J h) (t.notify h (.alarm channel)) (fun _ => I) E) :
    Triple P (t.serviceAlarm channel) (fun _ => I) E := by
  refine take.bind fun due => ?_
  cases due with
  | none => exact triple_pure _ fun s hs => hs
  | some hn => exact Triple.bind (call hn.1) fun _ => triple_pure _ fun _ hs => hs

theorem triple_serviceAlarm {channel : Nat}
    (take : Triple P (t.takeDue channel) (fun due s => if due.isSome then J s else I s) E)
    (call : ∀ h, Triple J (t.notify h (.alarm channel)) (fun _ => I) E) :
    Triple P (t.serviceAlarm channel) (fun _ => I) E := by
  refine triple_serviceAlarm_found (J := fun _ => J) (take.weaken fun due s hs => ?_) call
  cases due <;> simpa using hs

variable [DecidableEq H]

theorem keeps_removeOverflowHandler (h : H)
    (chain : ∀ s chain, I s → (∀ x, some x ∈ chain → some x ∈ (t.shared.get s).chain) →
      I (t.shared.set { t.shared.get s with chain } s)) :
    Keeps I E (t.removeOverflowHandler h) := by
  refine Triple.bind (Q := fun shared s => I s ∧ shared = t.shared.get s)
    (triple_read fun s hs => ⟨hs, rfl⟩) fun shared => ?_
  split
  · exact triple_pure _ fun _ hs => hs.1
  · rename_i shorter hshorter
    refine Triple.bind (Q := fun _ => I) (triple_update fun s ⟨hs, he⟩ => chain s _ hs fun x hx => ?_)
      fun _ => triple_pure _ fun _ hs => hs
    rw [← he]
    exact Chain.mem_of_mem_erase hshorter hx

/-- Only handlers that the chain holds are called. One that unsubscribes need not leave the invariant
behind until it was taken out. -/
theorem keeps_overflowStep_settling {J : H → σ → Prop}
    (call : ∀ h, Triple (fun s => I s ∧ some h ∈ (t.shared.get s).chain) (t.notify h .overflow)
      (fun answer s => if answer.unsubscribe = true then J h s else I s) E)
    (remove : ∀ h, Triple (J h) (t.removeOverflowHandler h) (fun _ => I) E)
    (place : Nat × IsrResult) : Keeps I E (t.overflowStep place) := by
  refine Triple.bind (Q := fun shared s => I s ∧ shared = t.shared.get s)
    (triple_read fun _ hs => ⟨hs, rfl⟩) fun shared => ?_
  split
  · exact triple_pure _ fun _ hs => hs.1
  · rename_i h hplace
    have found : some h ∈ shared.chain :=
      Vector.mem_of_getElem? (Option.join_eq_some_iff.mp hplace)
    refine Triple.bind ((call h).of_imp fun s ⟨hs, he⟩ => ⟨hs, he ▸ found⟩) fun answer => ?_
    dsimp only
    by_cases hu : answer.unsubscribe = true
    · simp only [if_pos hu]
      refine Triple.bind (Q := fun _ => I) ?_ fun _ => triple_pure _ fun _ hs => hs
      exact (remove h).discard
    · simp only [if_neg hu]
      exact keeps_pure _

theorem keeps_overflowStep
    (chain : ∀ s chain, I s → (∀ x, some x ∈ chain → some x ∈ (t.shared.get s).chain) →
      I (t.shared.set { t.shared.get s with chain } s))
    (call : ∀ h, Triple (fun s => I s ∧ some h ∈ (t.shared.get s).chain) (t.notify h .overflow)
      (fun _ => I) E) (place : Nat × IsrResult) :
    Keeps I E (t.overflowStep place) := by
  refine keeps_overflowStep_settling (J := fun _ => I) (fun h => ?_) (fun h => ?_) place
  · simpa only [ite_self] using call h
  · exact keeps_removeOverflowHandler h chain

/-- The overflow is counted before any handler runs. -/
theorem triple_serviceOverflow_steps (halt : ∀ s, I s → E s)
    (count : ∀ s, P s → I (t.shared.set
      { t.shared.get s with overflows := (t.shared.get s).overflows + 1 } s))
    (step : ∀ place, Keeps I E (t.overflowStep place)) :
    Triple P t.serviceOverflow (fun _ => I) E := by
  refine Triple.bind (Q := fun _ => I) (triple_update count) fun _ => ?_
  refine Triple.bind (Q := fun _ => I) ?_ fun _ => triple_pure _ fun _ hs => hs
  refine triple_loop (J := fun _ => I) (fun _ => halt) (fun a => ?_) _
  refine (step a).weaken fun outcome s hs => ?_
  cases outcome <;> exact hs

theorem triple_serviceOverflow_chained (halt : ∀ s, I s → E s)
    (count : ∀ s, P s → I (t.shared.set
      { t.shared.get s with overflows := (t.shared.get s).overflows + 1 } s))
    (chain : ∀ s chain, I s → (∀ x, some x ∈ chain → some x ∈ (t.shared.get s).chain) →
      I (t.shared.set { t.shared.get s with chain } s))
    (call : ∀ h, Triple (fun s => I s ∧ some h ∈ (t.shared.get s).chain) (t.notify h .overflow)
      (fun _ => I) E) :
    Triple P t.serviceOverflow (fun _ => I) E :=
  triple_serviceOverflow_steps halt count (keeps_overflowStep chain call)

theorem triple_serviceOverflow (halt : ∀ s, I s → E s)
    (count : ∀ s, P s → I (t.shared.set
      { t.shared.get s with overflows := (t.shared.get s).overflows + 1 } s))
    (chain : ∀ s chain, I s → I (t.shared.set { t.shared.get s with chain } s))
    (call : ∀ h, Keeps I E (t.notify h .overflow)) :
    Triple P t.serviceOverflow (fun _ => I) E :=
  triple_serviceOverflow_chained halt count (fun s _ hs _ => chain s _ hs)
    fun h => (call h).of_imp fun _ hs => hs.1

theorem keeps_serveRequests {prepare : Run σ Unit} {pending : Run σ InterruptRequest}
    {note : IsrResult → Run σ Unit} (hprepare : Keeps I E prepare) (hpending : Keeps I E pending)
    (hnote : ∀ result, Keeps I E (note result)) (first : Keeps I E t.dispatchFirst)
    (shared : Keeps I E t.dispatchShared) (most served : Nat) :
    Keeps I E (t.serveRequests prepare pending note most served) := by
  induction most generalizing served with
  | zero => exact keeps_pure _
  | succ most ih =>
    refine hprepare.bind fun _ => hpending.bind fun request => ?_
    have rest (result : IsrResult) : Keeps I E (do
        note result
        if result.wake then return served + 1
        t.serveRequests prepare pending note most (served + 1)) := by
      refine (hnote result).bind fun _ => ?_
      split
      · exact keeps_pure _
      · exact ih _
    cases request with
    | idle => exact keeps_pure _
    | first => exact first.bind rest
    | shared => exact shared.bind rest

end Timer

end Msp430
