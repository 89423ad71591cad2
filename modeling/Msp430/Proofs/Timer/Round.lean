import Msp430.Proofs.Timer.Roster

/-!
One overflow dispatch. Each visit of a handler is recorded with the shared state before and after.
If the handlers leave the chain alone, each is called once, in the order of the chain, up to the
first that breaks it, and those that unsubscribe are taken out.
-/
namespace Msp430

open Run

variable {H : Type}

/-- A call of a handler by the dispatch of an overflow. -/
structure Visit (H : Type) where
  handler : H
  /-- The shared state that the handler was called in. -/
  found : TimerShared H
  answer : IsrResult
  /-- The shared state that it returned in. -/
  left : TimerShared H
  deriving DecidableEq

namespace Visit

variable (v : Visit H) (front : List H)

/-- The place that is looked at next. -/
def next (i : Nat) : Nat := if v.answer.unsubscribe then i else i + 1

/-- What stands before that place. -/
def passed : List H := if v.answer.unsubscribe then front else front ++ [v.handler]

theorem length_passed : (v.passed front).length = v.next front.length := by
  unfold passed next
  split
  · rfl
  · rw [List.length_append, List.length_singleton]

theorem mem_passed {h : H} (hm : h ∈ v.passed front) : h ∈ front ∨ h = v.handler := by
  unfold passed at hm
  split at hm
  · exact .inl hm
  · simpa using hm

theorem passed_append (visits : List (Visit H)) (back : List H) :
    v.passed front ++ ((visits.filter fun v => !v.answer.unsubscribe).map handler ++ back) =
      front ++ (((v :: visits).filter fun v => !v.answer.unsubscribe).map handler ++ back) := by
  unfold passed
  cases hu : v.answer.unsubscribe <;> simp [hu]

end Visit

section Rounds

variable [DecidableEq H]

namespace Visit

/-- The shared state once the dispatch has acted on the answer. -/
def settled (v : Visit H) : TimerShared H :=
  { v.left with
    chain := if v.answer.unsubscribe then Chain.without v.left.chain v.handler else v.left.chain }

variable {v : Visit H} {front back : List H}

theorem lists_settled (hl : Chain.Lists v.left.chain (front ++ v.handler :: back))
    (hnew : v.answer.unsubscribe = true → v.handler ∉ front) :
    Chain.Lists v.settled.chain (v.passed front ++ back) := by
  unfold settled passed
  by_cases hu : v.answer.unsubscribe = true
  · rw [if_pos hu, if_pos hu]
    have taken := hl.without (h := v.handler)
    rwa [List.erase_append_right _ (hnew hu), List.erase_cons_head] at taken
  · rw [if_neg hu, if_neg hu, List.append_assoc]
    exact hl

/-- A handler that leaves the chain alone is passed and nothing else moves. -/
theorem settled_steady (here : v.found.chain[front.length]?.join = some v.handler)
    (hl : Chain.Lists v.found.chain (front ++ back)) (hd : (front ++ back).Nodup)
    (steady : v.left.chain = v.found.chain) :
    ∃ rest, back = v.handler :: rest ∧ Chain.Lists v.settled.chain (v.passed front ++ rest) ∧
      (v.passed front ++ rest).Nodup := by
  obtain ⟨rest, rfl⟩ := hl.next_at here
  have hnew : v.handler ∉ front := fun hm =>
    (List.nodup_append.mp hd).2.2 _ hm _ List.mem_cons_self rfl
  refine ⟨rest, rfl, lists_settled (steady ▸ hl) fun _ => hnew, ?_⟩
  unfold passed
  split
  · exact hd.sublist ((List.sublist_cons_self ..).append_left front)
  · rwa [List.append_assoc]

end Visit

/-- The visits of a dispatch from a place in the chain, the shared state it leaves, and whether it
came to its end. -/
inductive Round : Nat → TimerShared H → List (Visit H) → TimerShared H → Bool → Prop
  | cut (i : Nat) (shared : TimerShared H) : Round i shared [] shared false
  | complete {i : Nat} {shared : TimerShared H} (empty : shared.chain[i]?.join = none) :
      Round i shared [] shared true
  | broken {i : Nat} {v : Visit H} (here : v.found.chain[i]?.join = some v.handler)
      (breaks : v.answer.breakChain = true) : Round i v.found [v] v.settled true
  | visit {i : Nat} {v : Visit H} {visits : List (Visit H)} {final : TimerShared H} {ended : Bool}
      (here : v.found.chain[i]?.join = some v.handler) (goesOn : v.answer.breakChain = false)
      (rest : Round (v.next i) v.settled visits final ended) :
      Round i v.found (v :: visits) final ended

def answersOf (visits : List (Visit H)) (result : IsrResult) : IsrResult :=
  visits.foldl (fun result v => result ∪ v.answer) result

namespace Round

variable {i : Nat} {shared final : TimerShared H} {visits : List (Visit H)} {ended : Bool}

/-- Each handler finds what the dispatch made of the answer before. -/
theorem handed_on (h : Round i shared visits final ended) :
    visits.map Visit.found ++ [final] = shared :: visits.map Visit.settled := by
  induction h with
  | cut | complete | broken => rfl
  | visit _ _ _ ih => rw [List.map_cons, List.map_cons, List.cons_append, ih]

theorem unbroken (h : Round i shared visits final ended) :
    ∀ v ∈ visits.dropLast, v.answer.breakChain = false := by
  induction h with
  | cut | complete | broken => simp
  | @visit _ v visits _ _ _ goesOn _ ih =>
    cases visits with
    | nil => simp
    | cons w visits =>
      rw [List.dropLast_cons_of_ne_nil (List.cons_ne_nil w visits)]
      exact List.forall_mem_cons.mpr ⟨goesOn, ih⟩

/-- If the handlers leave the chain alone, it is gone through from front to back. -/
theorem in_order (h : Round i shared visits final ended)
    (steady : ∀ v ∈ visits, v.left.chain = v.found.chain) {front back : List H}
    (hi : i = front.length) (hl : Chain.Lists shared.chain (front ++ back))
    (hd : (front ++ back).Nodup) :
    ∃ uncalled, back = visits.map Visit.handler ++ uncalled ∧
      Chain.Lists final.chain
        (front ++ ((visits.filter fun v => !v.answer.unsubscribe).map Visit.handler ++ uncalled)) ∧
      (ended = true → uncalled = [] ∨
        ∃ v, visits.getLast? = some v ∧ v.answer.breakChain = true) := by
  induction h generalizing front back with
  | cut => exact ⟨back, rfl, hl, by simp⟩
  | complete empty =>
    subst hi
    rw [hl.at_length, List.head?_eq_none_iff] at empty
    exact ⟨back, rfl, hl, fun _ => .inl empty⟩
  | @broken _ v here breaks =>
    subst hi
    obtain ⟨rest, rfl, hsettled, -⟩ :=
      Visit.settled_steady here hl hd (steady v List.mem_cons_self)
    refine ⟨rest, rfl, ?_, fun _ => .inr ⟨v, rfl, breaks⟩⟩
    rw [← Visit.passed_append]
    exact hsettled
  | @visit _ v visits _ _ here _ _ ih =>
    subst hi
    obtain ⟨hsteady, others⟩ := List.forall_mem_cons.mp steady
    obtain ⟨rest, rfl, hsettled, hdistinct⟩ := Visit.settled_steady here hl hd hsteady
    obtain ⟨uncalled, rfl, hfinal, hended⟩ :=
      ih others (v.length_passed front).symm hsettled hdistinct
    refine ⟨uncalled, rfl, by rwa [← Visit.passed_append], fun he => ?_⟩
    rcases hended he with hall | ⟨w, hw, breaks⟩
    · exact .inl hall
    · exact .inr ⟨w, by rw [List.getLast?_cons, hw]; rfl, breaks⟩

end Round

end Rounds

namespace Scene

variable {R H M : Type}

abbrev VisitScene (R H M : Type) := Scene R H (List (Visit H) × M)

def visitsCell : Cell (VisitScene R H M) (List (Visit H)) where
  get s := s.memory.1
  set visits s := { s with memory := (visits, s.memory.2) }

/-- Handlers whose calls are recorded as they return. -/
def visiting (answer : Notify (VisitScene R H M) H) : Notify (VisitScene R H M) H :=
  fun h event => do
    let found ← sharedCell.read
    let result ← answer h event
    let left ← sharedCell.read
    visitsCell.update (⟨h, found, result, left⟩ :: ·)
    return result

variable (port : TimerPort (VisitScene R H M)) {answer : Notify (VisitScene R H M) H}
variable {patience : Nat} {s t : VisitScene R H M}

theorem start_visiting {h : H} {event : TimerEvent} {result : IsrResult}
    (hcall : (answer h event).start patience s = .ok result t) :
    (visiting answer h event).start patience s = .ok result
      { t with memory := (⟨h, s.shared, result, t.shared⟩ :: t.memory.1, t.memory.2) } := by
  rw [visiting, start_bind_ok (Cell.start_read ..), start_bind_ok hcall]
  rfl

variable [DecidableEq H]

section Steps

variable {S : Type} {port : TimerPort (Scene R H S)} {notify : Notify (Scene R H S) H}
variable {s t : Scene R H S} {i : Nat} {result answer : IsrResult}

theorem start_overflowStep_complete (hempty : s.shared.chain[i]?.join = none) :
    ((onPort port notify).overflowStep (i, result)).start patience s =
      .ok (.finished result) s := by
  rw [Timer.overflowStep, start_bind_ok (Cell.start_read ..)]
  simp only [onPort, sharedCell, hempty]
  rfl

/-- The place stays where it is when the handlers behind move up. -/
theorem start_overflowStep_call {h : H} (here : s.shared.chain[i]?.join = some h)
    (hcall : (notify h .overflow).start patience s = .ok answer t) :
    ((onPort port notify).overflowStep (i, result)).start patience s =
      .ok (if answer.breakChain then .finished (result ∪ answer)
          else .again (if answer.unsubscribe then i else i + 1, result ∪ answer))
        { t with
          shared := { t.shared with
            chain := if answer.unsubscribe then Chain.without t.shared.chain h
              else t.shared.chain } } := by
  rw [Timer.overflowStep, start_bind_ok (Cell.start_read ..)]
  simp only [onPort, sharedCell, here]
  rw [start_bind_ok hcall]
  cases hu : answer.unsubscribe with
  | true =>
    have taken : (discard ((onPort port notify).removeOverflowHandler h)).start patience t =
        .ok () { t with shared := { t.shared with chain := Chain.without t.shared.chain h } } := by
      rw [discard_eq_map, start_map, start_removeOverflowHandler]
    simp only [if_true]
    exact start_bind_ok taken _
  | false =>
    simp only [Bool.false_eq_true, if_false]
    rfl

end Steps

/-! ## The visits of a dispatch -/

/-- The visit is a call that the handler returned from. -/
def Genuine (answer : Notify (VisitScene R H M) H) (patience : Nat) (v : Visit H) : Prop :=
  ∃ s t, (answer v.handler .overflow).start patience s = .ok v.answer t ∧
    v.found = s.shared ∧ v.left = t.shared

theorem start_overflowStep_visit {v : Visit H} {i : Nat} (result : IsrResult)
    (here : s.shared.chain[i]?.join = some v.handler) (found : v.found = s.shared)
    (hcall : (answer v.handler .overflow).start patience s = .ok v.answer t)
    (left : v.left = t.shared) :
    ((onPort port (visiting answer)).overflowStep (i, result)).start patience s =
      .ok (if v.answer.breakChain then .finished (result ∪ v.answer)
          else .again (v.next i, result ∪ v.answer))
        { t with shared := v.settled, memory := (v :: t.memory.1, t.memory.2) } := by
  obtain ⟨h, _, reply, _⟩ := v
  obtain rfl := found
  obtain rfl := left
  exact start_overflowStep_call here (start_visiting hcall)

/-- The chain holds no other handlers. -/
def Among (allowed : H → Prop) (s : VisitScene R H M) : Prop :=
  ∀ h, some h ∈ s.shared.chain → allowed h

/-- The handlers return, leave the record alone and add none but handlers like themselves. -/
structure Cooperative (answer : Notify (VisitScene R H M) H) (patience : Nat) (allowed : H → Prop) :
    Prop where
  returns : ∀ h, allowed h → ∀ s, ∃ result t, (answer h .overflow).start patience s = .ok result t
  record : ∀ h, allowed h → (answer h .overflow).Leaves fun s => s.memory.1
  among : ∀ h, allowed h →
    Ensures (Among allowed) (answer h .overflow) fun _ => Among allowed

theorem Among.settled {allowed : H → Prop} {v : Visit H} {t next : VisitScene R H M}
    (ht : Among allowed t) (left : v.left = t.shared) (hnext : next.shared = v.settled) :
    Among allowed next := by
  intro h hm
  rw [hnext, Visit.settled] at hm
  apply ht h
  rw [← left]
  split at hm
  · exact Chain.mem_of_mem_without hm
  · exact hm

variable {allowed : H → Prop} (hanswer : Cooperative answer patience allowed)

include hanswer

/-- The loop goes round as long as it is given steps. -/
theorem start_overflowSteps (n i : Nat) (result : IsrResult) {s : VisitScene R H M}
    (hs : Among allowed s) :
    ∃ visits ended u, Round i s.shared visits u.shared ended ∧
      u.memory.1 = visits.reverse ++ s.memory.1 ∧
      (∀ v ∈ visits, allowed v.handler ∧ Genuine answer patience v) ∧
      if ended = true then
        (loopWithin (onPort port (visiting answer)).overflowStep n (i, result)).start patience s =
          .ok (answersOf visits result) u
      else
        visits.length = n ∧
          (loopWithin (onPort port (visiting answer)).overflowStep n (i, result)).start patience s =
            .error .stuck u := by
  induction n generalizing i result s with
  | zero => exact ⟨[], false, s, .cut i s.shared, rfl, by simp, rfl, rfl⟩
  | succ n ih =>
    cases here : s.shared.chain[i]?.join with
    | none =>
      refine ⟨[], true, s, .complete here, rfl, by simp, ?_⟩
      exact start_loopWithin_finished (start_overflowStep_complete here) n
    | some h =>
      have hallowed : allowed h :=
        hs h (Vector.mem_of_getElem? (Option.join_eq_some_iff.mp here))
      obtain ⟨reply, t, hcall⟩ := hanswer.returns h hallowed s
      let v : Visit H := ⟨h, s.shared, reply, t.shared⟩
      let next : VisitScene R H M :=
        { t with shared := v.settled, memory := (v :: t.memory.1, t.memory.2) }
      have step := start_overflowStep_visit (v := v) port result here rfl hcall rfl
      have kept : v :: t.memory.1 = v :: s.memory.1 :=
        congrArg (v :: ·) ((hanswer.record h hallowed s.memory.1).of_start rfl hcall)
      have genuine : allowed v.handler ∧ Genuine answer patience v :=
        ⟨hallowed, s, t, hcall, rfl, rfl⟩
      cases breaks : v.answer.breakChain with
      | true =>
        rw [if_pos breaks] at step
        refine ⟨[v], true, next, .broken here breaks, kept, by simpa using genuine, ?_⟩
        exact start_loopWithin_finished step n
      | false =>
        rw [if_neg (Bool.eq_false_iff.mp breaks)] at step
        have hnext : Among allowed next :=
          Among.settled ((hanswer.among h hallowed).of_start hs hcall) rfl rfl
        obtain ⟨visits, ended, u, round, record, hgenuine, hrun⟩ :=
          ih (v.next i) (result ∪ reply) hnext
        refine ⟨v :: visits, ended, u, .visit here breaks round, ?_, ?_, ?_⟩
        · rw [record, show next.memory.1 = v :: s.memory.1 from kept, List.reverse_cons,
            List.append_assoc, List.singleton_append]
        · exact List.forall_mem_cons.mpr ⟨genuine, hgenuine⟩
        · rw [start_loopWithin_again step]
          cases ended with
          | true => exact hrun
          | false => exact ⟨congrArg (· + 1) hrun.1, hrun.2⟩

/-- A dispatch counts the overflow and goes through the chain from its first place. -/
theorem start_serviceOverflow {s : VisitScene R H M} (hs : Among allowed s) :
    ∃ visits ended u,
      Round 0 { s.shared with overflows := s.shared.overflows + 1 } visits u.shared ended ∧
      u.memory.1 = visits.reverse ++ s.memory.1 ∧
      (∀ v ∈ visits, allowed v.handler ∧ Genuine answer patience v) ∧
      if ended = true then
        (onPort port (visiting answer)).serviceOverflow.start patience s =
          .ok { answersOf visits .none with unsubscribe := false, breakChain := false } u
      else
        visits.length = patience ∧
          (onPort port (visiting answer)).serviceOverflow.start patience s = .error .stuck u := by
  have counted : Among allowed
      { s with shared := { s.shared with overflows := s.shared.overflows + 1 } } := hs
  obtain ⟨visits, ended, u, round, record, genuine, hrun⟩ :=
    start_overflowSteps port hanswer patience 0 .none counted
  refine ⟨visits, ended, u, round, record, genuine, ?_⟩
  rw [Timer.serviceOverflow, start_bind_ok (Cell.start_update ..)]
  cases ended with
  | true => exact start_bind_ok hrun _
  | false => exact ⟨hrun.1, start_bind_error hrun.2 _⟩

omit hanswer

/-- What a dispatch makes of a list of handlers that leave the chain alone. -/
structure Delivery (answer : Notify (VisitScene R H M) H) (patience : Nat) (l : List H)
    (s u : VisitScene R H M) (result : IsrResult) (visits : List (Visit H)) (uncalled : List H) :
    Prop where
  record : u.memory.1 = visits.reverse ++ s.memory.1
  genuine : ∀ v ∈ visits, Genuine answer patience v
  order : l = visits.map Visit.handler ++ uncalled
  unbroken : ∀ v ∈ visits.dropLast, v.answer.breakChain = false
  complete : uncalled = [] ∨ ∃ v, visits.getLast? = some v ∧ v.answer.breakChain = true
  /-- The first handler finds the overflow counted, and each finds what the one before left. -/
  handed_on : visits.map Visit.found ++ [u.shared] =
    { s.shared with overflows := s.shared.overflows + 1 } :: visits.map Visit.settled
  left : Chain.Lists u.shared.chain
    ((visits.filter fun v => !v.answer.unsubscribe).map Visit.handler ++ uncalled)
  result : result = { answersOf visits .none with unsubscribe := false, breakChain := false }

variable (answer) in
/-- On any port and for any handlers that return and leave the chain alone, whatever they answer and
whatever else they do: a dispatch ends, and it calls each handler of the chain once and in order, up
to the first that breaks the chain. -/
theorem overflow_delivered (hpatience : chainLength < patience) {s : VisitScene R H M} {l : List H}
    (hl : Chain.Lists s.shared.chain l) (hdistinct : l.Nodup)
    (hreturns : ∀ h ∈ l, ∀ s, ∃ result t, (answer h .overflow).start patience s = .ok result t)
    (hrecord : ∀ h ∈ l, (answer h .overflow).Leaves fun s => s.memory.1)
    (hsteady : ∀ h ∈ l, (answer h .overflow).Leaves fun s => s.shared.chain) :
    ∃ result u visits uncalled,
      (onPort port (visiting answer)).serviceOverflow.start patience s = .ok result u ∧
        Delivery answer patience l s u result visits uncalled := by
  have cooperative : Cooperative answer patience (· ∈ l) := by
    refine ⟨hreturns, hrecord, fun h hm => ?_⟩
    exact (hsteady h hm).keeps_of_congr
      (fun s t ht hs x hx => hs x (ht ▸ hx)) fun _ _ => trivial
  obtain ⟨visits, ended, u, round, record, genuine, hrun⟩ :=
    start_serviceOverflow port cooperative fun h hm => hl.mem_iff.mp hm
  have steady : ∀ v ∈ visits, v.left.chain = v.found.chain := by
    intro v hv
    obtain ⟨hm, s, t, hcall, hfound, hleft⟩ := genuine v hv
    rw [hfound, hleft]
    exact (hsteady v.handler hm s.shared.chain).of_start rfl hcall
  obtain ⟨uncalled, horder, hleft, hended⟩ :=
    round.in_order steady (show 0 = ([] : List H).length from rfl) hl hdistinct
  have short : visits.length ≤ chainLength := by
    have := hl.fits
    rw [horder, List.length_append, List.length_map] at this
    omega
  cases ended with
  | false =>
    have : visits.length = patience := hrun.1
    omega
  | true =>
    exact ⟨_, u, visits, uncalled, hrun, record, fun v hv => (genuine v hv).2, horder,
      round.unbroken, hended rfl, round.handed_on, hleft, rfl⟩

/-! ## A chain that the third call breaks -/

abbrev PacedScene := VisitScene (SimTimer 2) Nat Nat

/-- The answers depend on how many calls there have been. -/
def pacing : Notify PacedScene Nat := fun _ _ => do
  memoryCell.update fun memory => (memory.1, memory.2 + 1)
  let calls := (← memoryCell.read).2
  return { wake := calls = 1, unsubscribe := calls ≥ 2, breakChain := calls = 3 }

def paced : PacedScene :=
  ⟨{}, { chain := #v[some 0, some 1, some 2, some 3], overflows := 0xFFFF }, ([], 0), []⟩

theorem paced_lists : Chain.Lists paced.shared.chain [0, 1, 2, 3] :=
  ⟨by decide, by decide⟩

theorem overflow_delivered_paced :
    ∃ result u visits uncalled,
      (timer (fun _ => {}) (visiting pacing)).serviceOverflow.start 5 paced = .ok result u ∧
        Delivery pacing 5 [0, 1, 2, 3] paced u result visits uncalled ∧
        visits.map Visit.handler = [0, 1, 2] ∧ uncalled = [3] := by
  obtain ⟨result, u, visits, uncalled, hrun, delivery⟩ :=
    overflow_delivered (simPort fun _ => {}) pacing (show chainLength < 5 by decide) paced_lists
      (by decide) (fun _ _ _ => ⟨_, _, rfl⟩) (fun _ _ _ _ _ hs => hs) (fun _ _ _ _ _ hs => hs)
  have calls : visits.map Visit.handler = [0, 1, 2] := by
    have record : u.memory.1 = visits.reverse := by rw [delivery.record]; exact List.append_nil _
    rw [← List.reverse_inj, ← List.map_reverse, ← record, ← finish_of_start hrun]
    decide +kernel
  refine ⟨result, u, visits, uncalled, hrun, delivery, calls, ?_⟩
  have order := delivery.order
  rw [calls] at order
  exact (List.append_cancel_left (show [0, 1, 2] ++ [3] = [0, 1, 2] ++ uncalled from order)).symm

end Scene

end Msp430
