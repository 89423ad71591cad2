import Msp430.Proofs.Timer.Round

/-!
A dispatch of handlers that edit the chain. The dispatch keeps its place by counting, so it copes
with edits behind the handler that makes them: each handler of the chain is called once, unless it
was taken out before its turn or the chain was broken. A handler that takes itself out by hand makes
the dispatch pass over the next one, and one that comes back each time it unsubscribes is called for
ever.
-/
namespace Msp430

open Run

variable {H : Type} [DecidableEq H]

/-- The handler's edits touch only what stands behind it, add none of the listed handlers, and if it
unsubscribes they do not make the rest longer. One that unsubscribes may take itself out, too. -/
def Visit.Considerate (l : List H) (v : Visit H) : Prop :=
  ∀ front back, Chain.Lists v.found.chain (front ++ v.handler :: back) →
    ∃ rest : List H, (∀ h ∈ l, rest.count h ≤ back.count h) ∧
      (v.answer.unsubscribe = true → rest.length ≤ back.length) ∧
      (Chain.Lists v.left.chain (front ++ v.handler :: rest) ∨
        v.answer.unsubscribe = true ∧ v.handler ∉ front ∧ Chain.Lists v.left.chain (front ++ rest))

/-- Among distinct handlers there is only one place to look at. -/
theorem Visit.considerate_of_distinct {l : List H} {v : Visit H} (front back rest : List H)
    (hl : Chain.Lists v.found.chain (front ++ v.handler :: back))
    (hd : (front ++ v.handler :: back).Nodup) (hcount : ∀ h ∈ l, rest.count h ≤ back.count h)
    (hlength : v.answer.unsubscribe = true → rest.length ≤ back.length)
    (hleft : Chain.Lists v.left.chain (front ++ v.handler :: rest) ∨
      v.answer.unsubscribe = true ∧ Chain.Lists v.left.chain (front ++ rest)) :
    v.Considerate l := by
  have new {k m : List H} (hd : (k ++ v.handler :: m).Nodup) : v.handler ∉ k := fun hm =>
    (List.nodup_append.mp hd).2.2 _ hm _ List.mem_cons_self rfl
  intro k m hk
  have he : front ++ v.handler :: back = k ++ v.handler :: m := hl.unique hk
  have place : front.length = k.length := by
    have := congrArg (List.idxOf v.handler) he
    simpa [List.idxOf_append, new hd, new (he ▸ hd)] using this
  obtain ⟨rfl, hm⟩ := List.append_inj he place
  obtain ⟨-, rfl⟩ := List.cons.inj hm
  exact ⟨rest, hcount, hlength, hleft.imp_right fun hboth => ⟨hboth.1, new hd, hboth.2⟩⟩

/-- What a considerate handler leaves: the place that is looked at next has the same handlers before
it as before, and behind it no more of those listed than before. -/
structure Visit.Settling (l front back : List H) (v : Visit H) (front' back' : List H) : Prop where
  lists : Chain.Lists v.settled.chain (front' ++ back')
  place : front'.length = v.next front.length
  before : ∀ h ∈ front', h ∈ front ∨ h = v.handler
  behind : ∀ h ∈ l, back'.count h ≤ back.count h
  kept : ∀ h, h ≠ v.handler → some h ∈ v.left.chain → h ∈ front ∨ h ∈ back'
  shorter : v.answer.unsubscribe = true → back'.length ≤ back.length

theorem Visit.Considerate.settling {l front back : List H} {v : Visit H} (hv : v.Considerate l)
    (hl : Chain.Lists v.found.chain (front ++ v.handler :: back)) :
    ∃ front' back', v.Settling l front back front' back' := by
  obtain ⟨rest, hcount, hlength, hleft | ⟨hu, hnew, hleft⟩⟩ := hv front back hl
  · have kept : ∀ h, h ≠ v.handler → some h ∈ v.left.chain → h ∈ front ∨ h ∈ rest := by
      intro h hne hm
      have := hleft.mem_iff.mp hm
      simpa [hne] using this
    by_cases hm : v.answer.unsubscribe = true ∧ v.handler ∈ front
    · -- an earlier occurrence goes, and all up to the place moves up
      obtain ⟨hu, hm⟩ := hm
      refine ⟨front.erase v.handler ++ [v.handler], rest, ?_, ?_, ?_, hcount, kept, hlength⟩
      · have taken := hleft.without (h := v.handler)
        rw [List.erase_append_left _ hm] at taken
        rwa [List.append_assoc, settled, if_pos hu]
      · rw [List.length_append, List.length_erase_of_mem hm, next, if_pos hu]
        exact Nat.sub_add_cancel (List.length_pos_of_mem hm)
      · intro h hh
        rcases List.mem_append.mp hh with hh | hh
        · exact .inl (List.mem_of_mem_erase hh)
        · exact .inr (List.mem_singleton.mp hh)
    · have hnew : v.answer.unsubscribe = true → v.handler ∉ front := fun hu hm' => hm ⟨hu, hm'⟩
      exact ⟨v.passed front, rest, lists_settled hleft hnew, v.length_passed front,
        fun h => v.mem_passed front, hcount, kept, hlength⟩
  · have taken := hleft.without (h := v.handler)
    rw [List.erase_append_right _ hnew] at taken
    refine ⟨front, rest.erase v.handler, ?_, ?_, fun h hh => .inl hh, ?_, ?_, ?_⟩
    · rwa [settled, if_pos hu]
    · rw [next, if_pos hu]
    · exact fun h hh => Nat.le_trans (List.erase_sublist.count_le h) (hcount h hh)
    · intro h hne hm
      have := hleft.mem_iff.mp hm
      simpa [List.mem_erase_of_ne hne] using this
    · exact fun hu => Nat.le_trans List.length_erase_le (hlength hu)

theorem Visit.Considerate.advance {l front back : List H} {v : Visit H} (hv : v.Considerate l)
    (hl : Chain.Lists v.found.chain (front ++ back))
    (here : v.found.chain[front.length]?.join = some v.handler) :
    ∃ rest front' back', back = v.handler :: rest ∧ v.Settling l front rest front' back' := by
  obtain ⟨rest, rfl⟩ := hl.next_at here
  obtain ⟨front', back', settling⟩ := hv.settling hl
  exact ⟨rest, front', back', rfl, settling⟩

/-- The handler took the other one out of the chain or broke the chain. -/
def Visit.Bars (v : Visit H) (h : H) : Prop :=
  v.answer.breakChain = true ∨ some h ∈ v.found.chain ∧ some h ∉ v.left.chain

namespace Round

variable {i : Nat} {shared final : TimerShared H} {visits : List (Visit H)} {ended : Bool}
variable {l front back : List H} {h : H}

/-- Each call moves the place on or makes the rest shorter. -/
theorem length_le (round : Round i shared visits final ended)
    (hv : ∀ v ∈ visits, v.Considerate l) (hi : i = front.length)
    (hl : Chain.Lists shared.chain (front ++ back)) :
    visits.length ≤ chainLength * (chainLength - i) + back.length := by
  induction round generalizing front back with
  | cut | complete => exact Nat.zero_le _
  | broken here _ =>
    subst hi
    obtain ⟨rest, rfl⟩ := hl.next_at here
    exact Nat.le_trans (Nat.le_add_left 1 rest.length) (Nat.le_add_left _ _)
  | @visit _ v visits _ _ here _ _ ih =>
    subst hi
    obtain ⟨considerate, others⟩ := List.forall_mem_cons.mp hv
    obtain ⟨rest, front', back', rfl, settling⟩ := considerate.advance hl here
    have fewer := ih others settling.place.symm settling.lists
    have fits := settling.lists.fits
    have held := hl.fits
    simp only [List.length_append, List.length_cons, settling.place] at fits held ⊢
    unfold Visit.next at fewer fits
    by_cases hu : v.answer.unsubscribe = true
    · rw [if_pos hu] at fewer
      have := settling.shorter hu
      omega
    · rw [if_neg hu] at fewer fits
      unfold chainLength at fewer fits held ⊢
      omega

theorem not_called (round : Round i shared visits final ended)
    (hv : ∀ v ∈ visits, v.Considerate l) (hi : i = front.length)
    (hl : Chain.Lists shared.chain (front ++ back)) (hm : h ∈ l) (hback : h ∉ back) :
    h ∉ visits.map Visit.handler := by
  induction round generalizing front back with
  | cut | complete => simp
  | broken here _ =>
    subst hi
    obtain ⟨rest, rfl⟩ := hl.next_at here
    simpa using List.ne_of_not_mem_cons hback
  | @visit _ v visits _ _ here _ _ ih =>
    subst hi
    obtain ⟨considerate, others⟩ := List.forall_mem_cons.mp hv
    obtain ⟨rest, front', back', rfl, settling⟩ := considerate.advance hl here
    obtain ⟨hne, hrest⟩ : h ≠ v.handler ∧ h ∉ rest := by simpa using hback
    have gone : h ∉ back' := by
      have := settling.behind h hm
      rw [List.count_eq_zero.mpr hrest] at this
      exact List.count_eq_zero.mp (Nat.le_zero.mp this)
    rw [List.map_cons, List.mem_cons, not_or]
    exact ⟨hne, ih others settling.place.symm settling.lists gone⟩

/-- A handler whose turn is still to come is called once, unless another one sees to it that its
turn does not come. -/
theorem called_once (round : Round i shared visits final ended)
    (hv : ∀ v ∈ visits, v.Considerate l) (hi : i = front.length)
    (hl : Chain.Lists shared.chain (front ++ back)) (hm : h ∈ l) (hfront : h ∉ front)
    (hback : back.count h = 1) :
    (visits.map Visit.handler).count h ≤ 1 ∧
      (ended = true → h ∉ visits.map Visit.handler → ∃ v ∈ visits, v.Bars h) := by
  induction round generalizing front back with
  | cut => simp
  | complete empty =>
    subst hi
    rw [hl.at_length, List.head?_eq_none_iff] at empty
    subst empty
    cases hback
  | @broken _ v here breaks =>
    constructor
    · exact List.count_le_length
    · exact fun _ _ => ⟨v, List.mem_cons_self, .inl breaks⟩
  | @visit _ v visits _ _ here _ round ih =>
    subst hi
    obtain ⟨considerate, others⟩ := List.forall_mem_cons.mp hv
    obtain ⟨rest, front', back', rfl, settling⟩ := considerate.advance hl here
    have fewer := settling.behind h hm
    by_cases hh : v.handler = h
    · -- it is called here, and from now on it does not stand behind the place
      subst hh
      rw [List.count_cons_self] at hback
      have gone : v.handler ∉ back' := List.count_eq_zero.mp (by omega)
      have never := round.not_called others settling.place.symm settling.lists hm gone
      rw [List.map_cons, List.count_cons_self, List.count_eq_zero.mpr never]
      exact ⟨Nat.le_refl 1, fun _ hnever => absurd List.mem_cons_self hnever⟩
    · rw [List.count_cons_of_ne hh] at hback
      rw [List.map_cons, List.count_cons_of_ne hh]
      have before : h ∉ front' := fun hm' =>
        (settling.before h hm').elim hfront fun he => hh he.symm
      by_cases hbehind : h ∈ back'
      · have once : back'.count h = 1 := by
          have := List.count_pos_iff.mpr hbehind
          omega
        obtain ⟨often, barred⟩ := ih others settling.place.symm settling.lists before once
        refine ⟨often, fun he hnever => ?_⟩
        obtain ⟨w, hw, bars⟩ := barred he fun hcalled => hnever (List.mem_cons_of_mem _ hcalled)
        exact ⟨w, List.mem_cons_of_mem v hw, bars⟩
      · have never := round.not_called others settling.place.symm settling.lists hm hbehind
        rw [List.count_eq_zero.mpr never]
        refine ⟨Nat.zero_le 1, fun _ _ => ⟨v, List.mem_cons_self, .inr ⟨?_, fun hleft => ?_⟩⟩⟩
        · have held : h ∈ rest := List.count_pos_iff.mp (by omega)
          exact hl.mem_iff.mpr (List.mem_append_right front (List.mem_cons_of_mem _ held))
        · rcases settling.kept h (fun he => hh he.symm) hleft with hm' | hm'
          · exact hfront hm'
          · exact hbehind hm'

/-- A handler that takes itself out and does not unsubscribe lets the next one move up to its place,
which the dispatch then leaves. -/
theorem passes_over {v : Visit H} (round : Round i shared (v :: visits) final ended)
    (hv : ∀ v ∈ visits, v.Considerate l) (hi : i = front.length)
    (hstays : v.answer.unsubscribe = false)
    (hl : Chain.Lists v.left.chain (front ++ h :: back)) (hm : h ∈ l) (hne : h ≠ v.handler)
    (hback : h ∉ back) : h ∉ (v :: visits).map Visit.handler := by
  have stays : ¬v.answer.unsubscribe = true := by rw [hstays]; exact Bool.false_ne_true
  have settled : Chain.Lists v.settled.chain ((front ++ [h]) ++ back) := by
    rwa [Visit.settled, if_neg stays, List.append_assoc]
  have place : v.next i = (front ++ [h]).length := by
    rw [Visit.next, if_neg stays, hi, List.length_append, List.length_singleton]
  rw [List.map_cons, List.mem_cons, not_or]
  refine ⟨hne, ?_⟩
  cases round with
  | broken _ _ => simp
  | visit _ _ rest => exact rest.not_called hv place settled hm hback

end Round

namespace Scene

variable {R M : Type} (port : TimerPort (VisitScene R H M)) {patience : Nat}

/-- On any port and for any handlers that return and whose edits of the chain are considerate: a
dispatch ends, and it calls each handler of the chain at most once. One that it does not call was
taken out by a handler called instead, or that one broke the chain. -/
theorem overflow_reaches_all {answer : Notify (VisitScene R H M) H} {allowed : H → Prop}
    (hpatience : chainLength * (chainLength + 1) < patience) {s : VisitScene R H M} {l : List H}
    (hl : Chain.Lists s.shared.chain l) (hdistinct : l.Nodup) (hallowed : ∀ h ∈ l, allowed h)
    (hanswer : Cooperative answer patience allowed)
    (hconsiderate : ∀ visits : List (Visit H),
      ((onPort port (visiting answer)).serviceOverflow.finish patience s).memory.1 =
        visits.reverse ++ s.memory.1 → ∀ v ∈ visits, v.Considerate l) :
    ∃ (result : IsrResult) (u : VisitScene R H M) (visits : List (Visit H)),
      (onPort port (visiting answer)).serviceOverflow.start patience s = .ok result u ∧
        u.memory.1 = visits.reverse ++ s.memory.1 ∧ (∀ v ∈ visits, Genuine answer patience v) ∧
        ∀ h ∈ l, (visits.map Visit.handler).count h ≤ 1 ∧
          (h ∉ visits.map Visit.handler → ∃ v ∈ visits, v.Bars h) := by
  obtain ⟨visits, ended, u, round, record, genuine, hrun⟩ :=
    start_serviceOverflow port hanswer fun h hm => hallowed h (hl.mem_iff.mp hm)
  have first : 0 = ([] : List H).length := rfl
  cases ended with
  | false =>
    obtain ⟨hlength, hstuck⟩ := hrun
    have considerate := hconsiderate visits (by rw [Run.finish, hstuck]; exact record)
    have short := round.length_le considerate first hl
    have fits := hl.fits
    rw [Nat.sub_zero] at short
    rw [Nat.mul_succ] at hpatience
    omega
  | true =>
    have considerate := hconsiderate visits (by rw [finish_of_start hrun]; exact record)
    refine ⟨_, u, visits, hrun, record, fun v hv => (genuine v hv).2, fun h hm => ?_⟩
    have once : l.count h = 1 :=
      Nat.le_antisymm (List.nodup_iff_count.mp hdistinct h) (List.count_pos_iff.mpr hm)
    obtain ⟨often, barred⟩ :=
      round.called_once considerate first hl hm List.not_mem_nil once
    exact ⟨often, barred rfl⟩

/-! ## Considerate handlers -/

/-- The timer as handlers use it that change its chain. -/
def chainEditor : Timer PacedScene Nat := timer (fun _ => {}) fun _ _ => return .none

/-- Handler 0 replaces handler 1 by handler 3, and handler 2 takes itself out and unsubscribes. -/
def pruning : Notify PacedScene Nat
  | 0, _ => do
    discard (chainEditor.removeOverflowHandler 1)
    discard (chainEditor.addOverflowHandler 3).run
    return .none
  | 2, _ => do
    discard (chainEditor.removeOverflowHandler 2)
    return { unsubscribe := true }
  | _, _ => return .none

def chained (l : List Nat) : TimerShared Nat :=
  { overflows := 1, chain := .ofFn fun i => l[i.val]? }

theorem lists_chained {l : List Nat} (h : l.length ≤ chainLength) :
    Chain.Lists (chained l).chain l :=
  ⟨h, fun i hi => by simp [chained]⟩

def pruned : List (Visit Nat) :=
  [⟨0, chained [0, 1, 2], .none, chained [0, 2, 3]⟩,
    ⟨2, chained [0, 2, 3], { unsubscribe := true }, chained [0, 3]⟩,
    ⟨3, chained [0, 3], .none, chained [0, 3]⟩]

theorem removing_answers (h : Nat) : (discard (chainEditor.removeOverflowHandler h)).Answers := by
  intro patience s
  rw [discard_eq_map, start_map]
  exact ⟨_, _, by rw [chainEditor, timer, start_removeOverflowHandler]⟩

theorem removing_leaves_record (h : Nat) :
    (discard (chainEditor.removeOverflowHandler h)).Leaves fun s => s.memory.1 :=
  fun _ => Triple.discard (Timer.keeps_removeOverflowHandler h fun _ _ hs _ => hs)

theorem adding_answers (h : Nat) : (discard (chainEditor.addOverflowHandler h).run).Answers := by
  rw [discard_eq_map, Timer.run_addOverflowHandler]
  refine ((answers_read _).bind fun shared => ?_).map _
  split
  · exact answers_pure _
  · exact (answers_update _ _).map _

theorem adding_leaves_record (h : Nat) :
    (discard (chainEditor.addOverflowHandler h).run).Leaves fun s => s.memory.1 :=
  fun _ => Triple.discard (Timer.keeps_addOverflowHandler h fun _ _ hs _ => hs)

theorem cooperative_pruning (patience : Nat) : Cooperative pruning patience fun _ => True where
  returns
    | 0, _ => ((removing_answers 1).bind fun _ => (adding_answers 3).bind fun _ => answers_pure _) _
    | 2, _ => ((removing_answers 2).bind fun _ => answers_pure _) _
    | 1, _ | _ + 3, _ => answers_pure _ _
  record
    | 0, _ => (removing_leaves_record 1).bind fun _ =>
        (adding_leaves_record 3).bind fun _ => leaves_pure _ _
    | 2, _ => (removing_leaves_record 2).bind fun _ => leaves_pure _ _
    | 1, _ | _ + 3, _ => leaves_pure _ _
  among _ _ := triple_of_forall (fun _ _ _ _ => trivial) fun _ => trivial

theorem considerate_pruned : ∀ v ∈ pruned, v.Considerate [0, 1, 2] := by
  simp only [pruned, List.forall_mem_cons]
  refine ⟨?_, ?_, ?_, by simp⟩
  · exact Visit.considerate_of_distinct [] [1, 2] [2, 3] (lists_chained (by decide)) (by decide)
      (by decide) (by decide) (.inl (lists_chained (by decide)))
  · exact Visit.considerate_of_distinct [0] [3] [3] (lists_chained (by decide)) (by decide)
      (by decide) (by decide) (.inr ⟨rfl, lists_chained (by decide)⟩)
  · exact Visit.considerate_of_distinct [0] [] [] (lists_chained (by decide)) (by decide)
      (by decide) (by decide) (.inl (lists_chained (by decide)))

def unpruned : PacedScene := ⟨{}, { chained [0, 1, 2] with overflows := 0 }, ([], 0), []⟩

theorem pruned_of_record {visits : List (Visit Nat)}
    (h : ((timer (fun _ => {}) (visiting pruning)).serviceOverflow.finish 21 unpruned).memory.1 =
      visits.reverse ++ unpruned.memory.1) : visits = pruned := by
  have calls : ((timer (fun _ => {}) (visiting pruning)).serviceOverflow.finish 21
      unpruned).memory.1 = pruned.reverse := by decide +kernel
  rw [calls, show unpruned.memory.1 = [] from rfl, List.append_nil] at h
  exact (List.reverse_inj.mp h).symm

theorem overflow_reaches_all_pruned :
    ∃ (result : IsrResult) (u : PacedScene),
      (timer (fun _ => {}) (visiting pruning)).serviceOverflow.start 21 unpruned = .ok result u ∧
        ∀ h ∈ [0, 1, 2], (pruned.map Visit.handler).count h ≤ 1 ∧
          (h ∉ pruned.map Visit.handler → ∃ v ∈ pruned, v.Bars h) := by
  have enough : chainLength * (chainLength + 1) < 21 := by decide
  have considerate (visits : List (Visit Nat)) (h : ((timer (fun _ => {})
      (visiting pruning)).serviceOverflow.finish 21 unpruned).memory.1 =
      visits.reverse ++ unpruned.memory.1) : ∀ v ∈ visits, v.Considerate [0, 1, 2] := by
    rw [pruned_of_record h]
    exact considerate_pruned
  obtain ⟨result, u, visits, hrun, record, -, once⟩ :=
    overflow_reaches_all (simPort fun _ => {}) enough (lists_chained (by decide)) (by decide)
      (fun _ _ => trivial) (cooperative_pruning 21) considerate
  have calls : visits = pruned := pruned_of_record (by rw [← record, ← finish_of_start hrun]; rfl)
  rw [calls] at once
  exact ⟨result, u, hrun, once⟩

/-! ## Handlers that are not considerate -/

/-- Handler 0 takes itself out and does not unsubscribe. -/
def leaving : Notify PacedScene Nat
  | 0, _ => do
    discard (chainEditor.removeOverflowHandler 0)
    return .none
  | _, _ => return .none

def unleft : PacedScene := ⟨{}, { chained [0, 1] with overflows := 0 }, ([], 0), []⟩

/-- Handler 1 is still in the chain when the dispatch ends, but was not called. -/
theorem leaving_passes_over_next :
    Chain.Lists unleft.shared.chain [0, 1] ∧
      ¬∃ (result : IsrResult) (u : PacedScene) (visits : List (Visit Nat)),
        (timer (fun _ => {}) (visiting leaving)).serviceOverflow.start 21 unleft = .ok result u ∧
          u.memory.1 = visits.reverse ++ unleft.memory.1 ∧
          ∀ h ∈ [0, 1], (visits.map Visit.handler).count h ≤ 1 ∧
            (h ∉ visits.map Visit.handler → ∃ v ∈ visits, v.Bars h) := by
  refine ⟨lists_chained (by decide), ?_⟩
  rintro ⟨result, u, visits, hrun, record, once⟩
  have calls : u.memory.1 = [⟨0, chained [0, 1], .none, chained [1]⟩] := by
    rw [← finish_of_start hrun]
    decide +kernel
  rw [calls, show unleft.memory.1 = [] from rfl, List.append_nil] at record
  obtain rfl : visits = [⟨0, chained [0, 1], .none, chained [1]⟩] :=
    List.reverse_inj.mp record.symm
  obtain ⟨v, hv, bars⟩ := (once 1 (by decide)).2 (by decide)
  obtain rfl := List.mem_singleton.mp hv
  rcases bars with breaks | ⟨-, gone⟩
  · cases breaks
  · exact gone ((lists_chained (by decide)).mem_iff.mpr (by decide))

section Returning

variable {R M : Type} (port : TimerPort (Scene R H M)) {patience : Nat} {h : H}

/-- Handlers that add themselves to the chain before they unsubscribe. -/
def returning : Notify (Scene R H M) H := fun h _ => do
  discard ((onPort port fun _ _ => return .none).addOverflowHandler h).run
  return { unsubscribe := true }

theorem stuck_returning (n : Nat) (result : IsrResult) {s : Scene R H M}
    (hl : Chain.Lists s.shared.chain [h]) :
    ∃ u, (loopWithin (onPort port (returning port)).overflowStep n (0, result)).start patience s =
      .error .stuck u := by
  induction n generalizing result s with
  | zero => exact ⟨s, rfl⟩
  | succ n ih =>
    have here : s.shared.chain[0]?.join = some h := hl.join 0
    obtain ⟨chain, hchain, hadd⟩ :=
      start_addOverflowHandler port (fun _ _ => return .none) hl h patience
    have added : (discard ((onPort port fun _ _ => return .none).addOverflowHandler h).run).start
        patience s = .ok () { s with shared := { s.shared with chain } } := by
      rw [discard_eq_map, start_map, hadd]
    -- its first place in the chain goes, and the one it came back to moves up
    have back : Chain.Lists (chain.without h) [h] := by
      have taken := hchain.without (h := h)
      have room : [h].length < chainLength := (by decide : 1 < chainLength)
      rwa [if_pos room, List.singleton_append, List.erase_cons_head] at taken
    have hcall : (returning port h .overflow).start patience s =
        .ok { unsubscribe := true } { s with shared := { s.shared with chain } } :=
      start_bind_ok added _
    have step : ((onPort port (returning port)).overflowStep (0, result)).start patience s =
        .ok (.again (0, result ∪ { unsubscribe := true }))
          { s with shared := { s.shared with chain := chain.without h } } :=
      start_overflowStep_call here hcall
    rw [start_loopWithin_again step]
    exact ih _ back

/-- However long it is waited for, the dispatch calls such a handler again. -/
theorem returning_called_for_ever {s : Scene R H M} (hl : Chain.Lists s.shared.chain [h]) :
    ∃ u, (onPort port (returning port)).serviceOverflow.start patience s = .error .stuck u := by
  let counted : Scene R H M :=
    { s with shared := { s.shared with overflows := s.shared.overflows + 1 } }
  have hcounted : Chain.Lists counted.shared.chain [h] := hl
  obtain ⟨u, hu⟩ := stuck_returning port patience .none hcounted
  refine ⟨u, ?_⟩
  rw [Timer.serviceOverflow, start_bind_ok (Cell.start_update ..)]
  exact start_bind_error hu _

end Returning

end Scene

end Msp430
