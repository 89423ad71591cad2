import Msp430.Proofs.Timer.Operations
import Msp430.Proofs.Timer.Scene
import Msp430.Proofs.Timer.Service

/-!
The chain as a list of at most four handlers. Adding appends to the list, removing takes out the
first occurrence, and so does a handler that unsubscribes when it is called. The cells hold the list
without a gap, whatever handlers do to the chain while it is dispatched.
-/
namespace Msp430

open Run

variable {H : Type}

namespace Chain

/-- The chain holds these handlers in its first cells, and the others are empty. -/
structure Lists (chain : Chain H) (l : List H) : Prop where
  fits : l.length ≤ chainLength
  cell : ∀ (i : Nat) (bound : i < chainLength), chain[i] = l[i]?

/-- The chain once the handler was removed, or as it is if it holds no such handler. -/
def without [DecidableEq H] (chain : Chain H) (h : H) : Chain H := (erase? chain h).getD chain

theorem mem_of_mem_without [DecidableEq H] {chain : Chain H} {h x : H}
    (hx : some x ∈ chain.without h) : some x ∈ chain := by
  unfold without at hx
  cases he : erase? chain h with
  | none => rwa [he] at hx
  | some shorter => exact mem_of_mem_erase he (by rwa [he] at hx)

theorem findFinIdx?_eq_some_iff {α : Type} {n : Nat} {cells : Vector α n} {p : α → Bool}
    {i : Fin n} : cells.findFinIdx? p = some i ↔
      p (cells.get i) = true ∧ ∀ j, j < i → p (cells.get j) = false := by
  obtain ⟨cells, hsize⟩ := cells
  simp only [Vector.findFinIdx?, Option.map_eq_some_iff]
  constructor
  · rintro ⟨k, hk, rfl⟩
    obtain ⟨hp, before⟩ := Array.findFinIdx?_eq_some_iff.mp hk
    exact ⟨hp, fun j hj => (Bool.not_eq_true _).mp (before (j.cast hsize.symm) hj)⟩
  · rintro ⟨hp, before⟩
    refine ⟨i.cast hsize.symm, Array.findFinIdx?_eq_some_iff.mpr ⟨hp, fun j hj => ?_⟩, rfl⟩
    exact (Bool.not_eq_true _).mpr (before (j.cast hsize) hj)

namespace Lists

variable {chain : Chain H} {l : List H} {h : H}

theorem get (hl : chain.Lists l) (i : Fin chainLength) : Vector.get chain i = l[i.val]? :=
  hl.cell i.val i.isLt

theorem unique {k : List H} (hl : chain.Lists l) (hk : chain.Lists k) : l = k := by
  apply List.ext_getElem?
  intro i
  by_cases hi : i < chainLength
  · rw [← hl.cell i hi, hk.cell i hi]
  · rw [List.getElem?_eq_none (Nat.le_trans hl.fits (Nat.le_of_not_lt hi)),
      List.getElem?_eq_none (Nat.le_trans hk.fits (Nat.le_of_not_lt hi))]

theorem join (hl : chain.Lists l) (i : Nat) : chain[i]?.join = l[i]? := by
  by_cases hi : i < chainLength
  · rw [Vector.getElem?_eq_getElem hi, Option.join_some, hl.cell i hi]
  · rw [Vector.getElem?_eq_none (Nat.le_of_not_lt hi), Option.join_none]
    exact (List.getElem?_eq_none (Nat.le_trans hl.fits (Nat.le_of_not_lt hi))).symm

theorem at_length {front back : List H} (hl : chain.Lists (front ++ back)) :
    chain[front.length]?.join = back.head? := by
  rw [hl.join, List.getElem?_append_right (Nat.le_refl _), Nat.sub_self, List.head?_eq_getElem?]

theorem next_at {front back : List H} (hl : chain.Lists (front ++ back))
    (here : chain[front.length]?.join = some h) : ∃ rest, back = h :: rest := by
  rw [hl.at_length] at here
  exact List.head?_eq_some_iff.mp here

theorem mem_iff (hl : chain.Lists l) : some h ∈ chain ↔ h ∈ l := by
  constructor
  · intro hm
    obtain ⟨i, hi, he⟩ := Vector.mem_iff_getElem.mp hm
    rw [hl.cell i hi] at he
    exact List.mem_of_getElem? he
  · intro hm
    obtain ⟨i, he⟩ := List.mem_iff_getElem?.mp hm
    have hi : i < chainLength :=
      Nat.lt_of_lt_of_le (List.getElem?_eq_some_iff.mp he).1 hl.fits
    rw [← he, ← hl.cell i hi]
    exact Vector.getElem_mem hi

theorem nil : (Chain.empty : Chain H).Lists [] :=
  ⟨Nat.zero_le _, fun i hi => by simp [Chain.empty]⟩

theorem append (hl : chain.Lists l) (hroom : l.length < chainLength) :
    ∃ longer, append? chain h = some longer ∧ longer.Lists (l ++ [h]) := by
  have first : chain.findFinIdx? (·.isNone) = some ⟨l.length, hroom⟩ := by
    rw [findFinIdx?_eq_some_iff]
    constructor
    · simp [hl.get]
    · intro j hj
      have hlt : j.val < l.length := hj
      simp [hl.get, hlt]
  refine ⟨chain.set l.length (some h) hroom, by simp [append?, first], ?_, fun i hi => ?_⟩
  · rw [List.length_append]
    exact hroom
  · rw [Vector.getElem_set, hl.cell i hi]
    grind

theorem append_full (hl : chain.Lists l) (hfull : l.length = chainLength) :
    append? chain h = none := by
  have first : chain.findFinIdx? (·.isNone) = none := by
    rw [Vector.findFinIdx?_eq_none_iff]
    intro x hx
    obtain ⟨i, hi, rfl⟩ := Vector.mem_iff_getElem.mp hx
    simp [hl.cell i hi, hfull, hi]
  simp [append?, first]

variable [DecidableEq H]

theorem erase (hl : chain.Lists l) (hm : h ∈ l) :
    ∃ shorter, erase? chain h = some shorter ∧ shorter.Lists (l.erase h) := by
  have hlt : l.idxOf h < l.length := List.idxOf_lt_length_of_mem hm
  have bound : l.idxOf h < chainLength := Nat.lt_of_lt_of_le hlt hl.fits
  have first : chain.findFinIdx? (· = some h) = some ⟨l.idxOf h, bound⟩ := by
    rw [findFinIdx?_eq_some_iff]
    constructor
    · simp [hl.get, hlt]
    · intro j hj
      have before : j.val < l.idxOf h := hj
      have held : j.val < l.length := Nat.lt_trans before hlt
      have other : l[j.val] ≠ h := by simpa using List.not_of_lt_findIdx before
      simp [hl.get, List.getElem?_eq_getElem held, other]
  refine ⟨_, by rw [erase?, first]; rfl, ?_, fun i hi => ?_⟩
  · exact Nat.le_trans List.length_erase_le hl.fits
  · rw [Vector.getElem_ofFn, List.erase_eq_eraseIdx_of_idxOf rfl, List.getElem?_eraseIdx]
    by_cases hp : i < l.idxOf h
    · simp [hp, hl.cell i hi, Fin.lt_def]
    · simp [hp, hl.join, Fin.lt_def]

theorem erase_absent (hl : chain.Lists l) (hm : h ∉ l) : erase? chain h = none := by
  have first : chain.findFinIdx? (· = some h) = none := by
    rw [Vector.findFinIdx?_eq_none_iff]
    intro x hx
    simp only [decide_eq_true_eq]
    rintro rfl
    exact hm (hl.mem_iff.mp hx)
  simp [erase?, first]

theorem erase_isSome (hl : chain.Lists l) : (erase? chain h).isSome = decide (h ∈ l) := by
  by_cases hm : h ∈ l
  · obtain ⟨shorter, herase, -⟩ := hl.erase hm
    rw [herase, decide_eq_true hm]
    rfl
  · rw [hl.erase_absent hm, decide_eq_false hm]
    rfl

theorem without (hl : chain.Lists l) : (chain.without h).Lists (l.erase h) := by
  by_cases hm : h ∈ l
  · obtain ⟨shorter, herase, hshorter⟩ := hl.erase hm
    rwa [Chain.without, herase]
  · rwa [Chain.without, hl.erase_absent hm, List.erase_of_not_mem hm]

end Lists
end Chain

namespace Scene

variable {R H M : Type} (port : TimerPort (Scene R H M)) (notify : Notify (Scene R H M) H)
variable {s : Scene R H M} {l : List H}

/-- Adding appends to the list; a full one is left as it was. -/
theorem start_addOverflowHandler (hl : Chain.Lists s.shared.chain l) (h : H) (patience : Nat) :
    ∃ chain : Chain H, chain.Lists (if l.length < chainLength then l ++ [h] else l) ∧
      ((onPort port notify).addOverflowHandler h).run.start patience s =
        .ok (if l.length < chainLength then .ok () else .error .full)
          { s with shared := { s.shared with chain } } := by
  rw [Timer.run_addOverflowHandler]
  by_cases hroom : l.length < chainLength
  · obtain ⟨chain, happend, hchain⟩ := hl.append hroom (h := h)
    refine ⟨chain, by rwa [if_pos hroom], ?_⟩
    rw [start_bind_ok (Cell.start_read ..), if_pos hroom]
    simp only [onPort, sharedCell, happend]
    rfl
  · have hfull : l.length = chainLength := Nat.le_antisymm hl.fits (Nat.le_of_not_lt hroom)
    refine ⟨s.shared.chain, by rwa [if_neg hroom], ?_⟩
    rw [start_bind_ok (Cell.start_read ..), if_neg hroom]
    simp only [onPort, sharedCell, hl.append_full hfull]
    rfl

theorem start_removeOverflowHandler [DecidableEq H] (h : H) (patience : Nat) (s : Scene R H M) :
    ((onPort port notify).removeOverflowHandler h).start patience s =
      .ok (Chain.erase? s.shared.chain h).isSome
        { s with shared := { s.shared with chain := Chain.without s.shared.chain h } } := by
  rw [Timer.removeOverflowHandler, start_bind_ok (Cell.start_read ..), Chain.without]
  simp only [onPort, sharedCell]
  cases Chain.erase? s.shared.chain h <;> rfl

end Scene

/-! ## The list that a record of calls stands for -/

inductive ChainEvent (H : Type) where
  | added (h : H) (refusal : Option ChainError)
  | removed (h : H) (found : Bool)
  /-- The handler returned from the call that told it of an overflow. -/
  | called (h : H) (unsubscribed : Bool)
  deriving DecidableEq, Repr

structure ChainEntry (H : Type) where
  /-- The chain just before the event changed it. -/
  before : Chain H
  event : ChainEvent H
  deriving DecidableEq

section Roster

variable [DecidableEq H]

def ChainEvent.change (l : List H) : ChainEvent H → List H
  | .added h _ => if l.length < chainLength then l ++ [h] else l
  | .removed h _ => l.erase h
  | .called h unsubscribed => if unsubscribed then l.erase h else l

/-- The operation answered as it would on the list. -/
def ChainEvent.Answered (l : List H) : ChainEvent H → Prop
  | .added _ refusal => refusal = if l.length < chainLength then none else some .full
  | .removed h found => found = decide (h ∈ l)
  | .called _ _ => True

/-- The handlers left after the events of a record, the latest of which comes first. -/
def roster : List (ChainEntry H) → List H
  | [] => []
  | entry :: earlier => entry.event.change (roster earlier)

/-- At each entry the chain held the handlers left by then, and the answer was theirs. -/
def Consistent : List (ChainEntry H) → Prop
  | [] => True
  | entry :: earlier =>
    (entry.before.Lists (roster earlier) ∧ entry.event.Answered (roster earlier)) ∧
      Consistent earlier

theorem Consistent.entry {later earlier : List (ChainEntry H)} {entry : ChainEntry H}
    (h : Consistent (later ++ entry :: earlier)) :
    entry.before.Lists (roster earlier) ∧ entry.event.Answered (roster earlier) := by
  induction later with
  | nil => exact h.1
  | cons _ later ih => exact ih h.2

end Roster

/-! ## Programs that keep a record -/

namespace Scene

variable {R H M : Type} [DecidableEq H]

abbrev RosterScene (R H M : Type) := Scene R H (List (ChainEntry H) × M)

def recordCell : Cell (RosterScene R H M) (List (ChainEntry H)) where
  get s := s.memory.1
  set record s := { s with memory := (record, s.memory.2) }

def refusal? : Except ChainError Unit → Option ChainError
  | .ok () => none
  | .error why => some why

def addNoting (t : Timer (RosterScene R H M) H) (h : H) :
    Run (RosterScene R H M) (Except ChainError Unit) := do
  let before := (← t.shared.read).chain
  let answer ← (t.addOverflowHandler h).run
  recordCell.update (⟨before, .added h (refusal? answer)⟩ :: ·)
  return answer

def removeNoting (t : Timer (RosterScene R H M) H) (h : H) : Run (RosterScene R H M) Bool := do
  let before := (← t.shared.read).chain
  let found ← t.removeOverflowHandler h
  recordCell.update (⟨before, .removed h found⟩ :: ·)
  return found

/-- Handlers whose answers to an overflow are recorded as they return. -/
def answersNoted (code : Notify (RosterScene R H M) H → Notify (RosterScene R H M) H) :
    Notify (RosterScene R H M) H → Notify (RosterScene R H M) H := fun notify h event => do
  let answer ← code notify h event
  if event = .overflow then
    let before := (← sharedCell.read).chain
    recordCell.update (⟨before, .called h answer.unsubscribe⟩ :: ·)
  return answer

/-- The part of a scene that the chain's record is about. -/
def chainAndRecord (s : RosterScene R H M) : Chain H × List (ChainEntry H) :=
  (s.shared.chain, s.memory.1)

/-- What foreground code and handlers are made of: changes of the chain, dispatch of interrupts, and
whatever else leaves the chain alone. -/
inductive ChainCall (t : Timer (RosterScene R H M) H) :
    ∀ α : Type, Run (RosterScene R H M) α → Prop
  | add (h : H) : ChainCall t _ (addNoting t h)
  | remove (h : H) : ChainCall t _ (removeNoting t h)
  | dispatchFirst : ChainCall t _ t.dispatchFirst
  | dispatchShared : ChainCall t _ t.dispatchShared
  | other {α : Type} (run : Run (RosterScene R H M) α) :
      run.Leaves chainAndRecord → ChainCall t α run

/-- The chain holds the handlers left after the recorded events. -/
structure Recorded (s : RosterScene R H M) : Prop where
  lists : Chain.Lists s.shared.chain (roster s.memory.1)
  consistent : Consistent s.memory.1

/-- The record already has it that the handler unsubscribed, but the chain still holds it. -/
structure Unsubscribing (h : H) (s : RosterScene R H M) : Prop where
  lists : ∃ l, Chain.Lists s.shared.chain l ∧ roster s.memory.1 = l.erase h
  consistent : Consistent s.memory.1

section Keeping

variable {port : TimerPort (RosterScene R H M)} {notify : Notify (RosterScene R H M) H}

theorem recorded_addNoting (h : H) :
    Keeps Recorded Recorded (addNoting (onPort port notify) h) := by
  apply triple_of_start
  intro patience s hs
  obtain ⟨chain, hchain, hrun⟩ := start_addOverflowHandler port notify hs.lists h patience
  refine ⟨_, _, by
    rw [addNoting, start_bind_ok (Cell.start_read ..), start_bind_ok hrun]
    rfl, ?_⟩
  exact ⟨hchain, ⟨hs.lists, apply_ite refusal? ..⟩, hs.consistent⟩

theorem recorded_removeNoting (h : H) :
    Keeps Recorded Recorded (removeNoting (onPort port notify) h) := by
  apply triple_of_start
  intro patience s hs
  refine ⟨_, _, by
    rw [removeNoting, start_bind_ok (Cell.start_read ..),
      start_bind_ok (start_removeOverflowHandler port notify h patience s)]
    rfl, ?_⟩
  exact ⟨hs.lists.without, ⟨hs.lists, hs.lists.erase_isSome⟩, hs.consistent⟩

theorem recorded_unsubscribing (h : H) :
    Triple (Unsubscribing h) ((onPort port notify).removeOverflowHandler h) (fun _ => Recorded)
      Recorded := by
  apply triple_of_start
  intro patience s hs
  obtain ⟨l, hl, hroster⟩ := hs.lists
  refine ⟨_, _, start_removeOverflowHandler port notify h patience s, ?_, hs.consistent⟩
  rw [hroster]
  exact hl.without

/-- A handler's answer leaves its removal to the dispatch. -/
def Answering (h : H) (event : TimerEvent) (answer : IsrResult) (s : RosterScene R H M) : Prop :=
  if event = .overflow ∧ answer.unsubscribe = true then Unsubscribing h s else Recorded s

theorem answering_answersNoted {code : Notify (RosterScene R H M) H → Notify (RosterScene R H M) H}
    {h : H} {event : TimerEvent} (hcode : Keeps Recorded Recorded (code notify h event)) :
    Triple Recorded (answersNoted code notify h event) (Answering h event) Recorded := by
  refine Triple.bind hcode fun answer => ?_
  by_cases he : event = .overflow
  · rw [if_pos he]
    apply triple_of_start
    intro patience s hs
    refine ⟨_, _, rfl, ?_⟩
    have entry : Consistent (⟨s.shared.chain, .called h answer.unsubscribe⟩ :: s.memory.1) :=
      ⟨⟨hs.lists, trivial⟩, hs.consistent⟩
    by_cases hu : answer.unsubscribe = true
    · rw [Answering, if_pos ⟨he, hu⟩]
      exact ⟨⟨_, hs.lists, if_pos hu⟩, entry⟩
    · rw [Answering, if_neg fun hboth => hu hboth.2]
      refine ⟨?_, entry⟩
      exact (congrArg (Chain.Lists s.shared.chain) (if_neg hu)).mpr hs.lists
  · rw [if_neg he]
    refine triple_pure _ fun s hs => ?_
    rw [Answering, if_neg fun hboth => he hboth.1]
    exact hs

theorem Recorded.congr {s t : RosterScene R H M} (hs : Recorded s)
    (ht : chainAndRecord t = chainAndRecord s) : Recorded t := by
  obtain ⟨hchain, hrecord⟩ := Prod.mk.inj ht
  constructor
  · rw [hchain, hrecord]
    exact hs.lists
  · rw [hrecord]
    exact hs.consistent

theorem Recorded.kept {α : Type} {run : Run (RosterScene R H M) α}
    (h : run.Leaves chainAndRecord) : Keeps Recorded Recorded run :=
  h.keeps_of_congr (fun _ _ ht hs => hs.congr ht) fun _ hs => hs

variable (hp : port.Spares chainAndRecord)
variable (hnotify : ∀ h event, Triple Recorded (notify h event) (Answering h event) Recorded)

include hp hnotify

theorem recorded_serviceAlarm (channel : Nat) :
    Keeps Recorded Recorded ((onPort port notify).serviceAlarm channel) := by
  have indifferent : (onPort port notify).Indifferent Recorded Recorded :=
    ⟨fun _ _ _ _ hs => ⟨hs.lists, hs.consistent⟩, fun i => Recorded.kept (hp.readChannel i),
      fun i bits => Recorded.kept (hp.writeChannel i bits),
      fun i count => Recorded.kept (hp.writeCompare i count),
      Recorded.kept (Timer.counter_leaves hp)⟩
  refine Timer.triple_serviceAlarm (J := Recorded) ?_ fun h => ?_
  · exact (indifferent.takeDue channel).weaken fun due s hs => by rwa [ite_self]
  · exact hnotify h (.alarm channel)

omit hp in
theorem recorded_serviceOverflow :
    Keeps Recorded Recorded (onPort port notify).serviceOverflow := by
  refine Timer.triple_serviceOverflow_steps (fun _ hs => hs)
    (fun _ hs => ⟨hs.lists, hs.consistent⟩) ?_
  apply Timer.keeps_overflowStep_settling (J := Unsubscribing)
  · intro h
    refine ((hnotify h .overflow).of_imp fun _ hs => hs.1).weaken fun answer s hs => ?_
    simpa only [Answering, true_and] using hs
  · exact recorded_unsubscribing

theorem recorded_chainCall {α : Type} {run : Run (RosterScene R H M) α}
    (hrun : ChainCall (onPort port notify) α run) : Keeps Recorded Recorded run := by
  cases hrun with
  | add h => exact recorded_addNoting h
  | remove h => exact recorded_removeNoting h
  | dispatchFirst =>
    exact (Recorded.kept (hp.changeChannel 0 _)).bind fun _ => recorded_serviceAlarm hp hnotify 0
  | dispatchShared =>
    refine (Recorded.kept hp.readVector).bind fun vector => ?_
    split
    · exact keeps_pure _
    · split
      · exact recorded_serviceOverflow hnotify
      · exact recorded_serviceAlarm hp hnotify _
  | other run hleaves => exact Recorded.kept hleaves

end Keeping

/-- On any port and for any handlers, wherever a program ends that started with an empty chain: the
cells hold, without a gap, what the recorded events make of a list of at most four handlers. They
did so before each event, and the answers were those of the list. -/
theorem chain_refines_list {port : TimerPort (RosterScene R H M)} (hp : port.Spares chainAndRecord)
    {code : Notify (RosterScene R H M) H → Notify (RosterScene R H M) H}
    (hcode : ∀ notify h event, Built (ChainCall (onPort port notify)) (code notify h event))
    {α : Type} {program : Run (RosterScene R H M) α}
    (hprogram : Built (ChainCall (onPort port (.ofCode (answersNoted code)))) program)
    (patience : Nat) (s : RosterScene R H M) (hempty : s.shared.chain = Chain.empty)
    (hrecord : s.memory.1 = []) :
    Chain.Lists (program.finish patience s).shared.chain
        (roster (program.finish patience s).memory.1) ∧
      ∀ later entry earlier, (program.finish patience s).memory.1 = later ++ entry :: earlier →
        entry.before.Lists (roster earlier) ∧ entry.event.Answered (roster earlier) := by
  have started : Recorded s := by
    constructor
    · rw [hempty, hrecord]
      exact Chain.Lists.nil
    · rw [hrecord]
      trivial
  have handlers : ∀ h event, Triple Recorded (Notify.ofCode (answersNoted code) h event)
      (Answering h event) Recorded := by
    apply Notify.triple_ofCode (J := fun _ => Recorded) fun _ _ hs => hs
    intro notify hnotify h event
    exact answering_answersNoted
      (keeps_built (fun _ _ => recorded_chainCall hp hnotify) (hcode notify h event))
  have kept : Keeps Recorded Recorded program :=
    keeps_built (fun _ _ => recorded_chainCall hp handlers) hprogram
  have ended : Recorded (program.finish patience s) := kept.finish (fun _ hs => hs) started
  refine ⟨ended.lists, fun later entry earlier he => ?_⟩
  exact Consistent.entry (he ▸ ended.consistent)

/-! ## A chain that changes while it is dispatched -/

abbrev NumberedScene := RosterScene (SimTimer 2) Nat ClockModule

/-- Handler 0 unsubscribes, handler 1 adds handler 3. -/
def subscribing (notify : Notify NumberedScene Nat) : Notify NumberedScene Nat := fun h _ => do
  if h = 1 then
    let _ ← addNoting (timer Prod.snd notify) 3
  return { unsubscribe := h = 0 }

def subscribers (t : Timer NumberedScene Nat) : Run NumberedScene Unit := do
  let _ ← addNoting t 0
  let _ ← addNoting t 1
  let _ ← addNoting t 2
  let _ ← addNoting t 0
  let _ ← addNoting t 4
  registersCell.update fun registers => { registers with vectorScript := [overflowVector] }
  let _ ← t.dispatchShared
  let _ ← removeNoting t 2
  let _ ← removeNoting t 4

theorem built_subscribing (notify : Notify NumberedScene Nat) (h : Nat) (event : TimerEvent) :
    Built (ChainCall (timer Prod.snd notify)) (subscribing notify h event) := by
  unfold subscribing
  split
  · exact .andThen (.step (.add 3)) fun _ => .done _
  · exact .done _

theorem built_subscribers (t : Timer NumberedScene Nat) : Built (ChainCall t) (subscribers t) := by
  refine .andThen (.step (.add 0)) fun _ => ?_
  refine .andThen (.step (.add 1)) fun _ => ?_
  refine .andThen (.step (.add 2)) fun _ => ?_
  refine .andThen (.step (.add 0)) fun _ => ?_
  refine .andThen (.step (.add 4)) fun _ => ?_
  refine .andThen (.step (.other _ fun _ _ _ h => h)) fun _ => ?_
  refine .andThen (.step .dispatchShared) fun _ => ?_
  refine .andThen (.step (.remove 2)) fun _ => ?_
  exact .andThen (.step (.remove 4)) fun _ => .done ()

theorem chain_refines_list_subscribers :
    (((subscribers (timer Prod.snd (.ofCode (answersNoted subscribing)))).finish 9
        ⟨{}, {}, ([], {}), []⟩).memory.1.map fun entry => entry.event) =
      [.removed 4 false, .removed 2 true, .called 3 false, .called 0 true, .called 2 false,
        .called 1 false, .added 3 none, .called 0 true, .added 4 (some .full), .added 0 none,
        .added 2 none, .added 1 none, .added 0 none] ∧
      Chain.Lists ((subscribers (timer Prod.snd (.ofCode (answersNoted subscribing)))).finish 9
        ⟨{}, {}, ([], {}), []⟩).shared.chain [1, 3] := by
  obtain ⟨lists, -⟩ := chain_refines_list (spares_simPort fun _ _ => rfl) built_subscribing
    (built_subscribers _) 9 ⟨{}, {}, ([], {}), []⟩ rfl rfl
  have left : roster ((subscribers (timer Prod.snd (.ofCode (answersNoted subscribing)))).finish 9
      ⟨{}, {}, ([], {}), []⟩).memory.1 = [1, 3] := by decide +kernel
  exact ⟨by decide +kernel, left ▸ lists⟩

end Scene

end Msp430
