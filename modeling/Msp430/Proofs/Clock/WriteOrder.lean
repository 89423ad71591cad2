import Msp430.Proofs.Clock.Candidate
import Msp430.Proofs.Clock.Tuning

/-!
In which order the DCO is written. While its range changes the DCO is to be at rest, with neither tap
nor modulator, so that the old range never runs with the new tap or the reverse. Programming a setting
and putting one back keep to that, and so does the search of a tuning on its way up. On its way down
into the range below, the highest tap is written first and runs in the old range.
-/
namespace Msp430

open Run

/-! ## Changes of the range -/

namespace DcoSetting

/-- The setting behind an access to the clock module. -/
def after (s : DcoSetting) : ClockAccess → DcoSetting
  | .write .dcoctl bits => { s with dcoctl := bits }
  | .write .bcsctl1 bits => { s with bcsctl1 := bits }
  | _ => s

def afterAll (s : DcoSetting) (accesses : List ClockAccess) : DcoSetting := accesses.foldl after s

theorem afterAll_append (s : DcoSetting) (first second : List ClockAccess) :
    s.afterAll (first ++ second) = (s.afterAll first).afterAll second :=
  List.foldl_append

end DcoSetting

/-- An access that changes the range of the DCO: what it finds and what it leaves. -/
structure RangeChange where
  found : DcoSetting
  left : DcoSetting
  deriving DecidableEq, Repr

namespace RangeChange

/-- The DCO is at rest while its range changes. -/
def AtRest (change : RangeChange) : Prop := change.found.dcoctl = 0

instance (change : RangeChange) : Decidable change.AtRest :=
  inferInstanceAs (Decidable (_ = _))

/-- The highest tap already runs when the range falls by one. -/
structure Borrow (change : RangeChange) : Prop where
  tap : change.found.dcoctl = 0xFF
  range : change.left.range.toNat + 1 = change.found.range.toNat

end RangeChange

/-- The changes of the range among the accesses that follow on a setting. -/
def rangeChanges (s : DcoSetting) : List ClockAccess → List RangeChange
  | [] => []
  | access :: rest =>
    if (s.after access).range ≠ s.range then
      ⟨s, s.after access⟩ :: rangeChanges (s.after access) rest
    else rangeChanges (s.after access) rest

theorem rangeChanges_append (s : DcoSetting) (first second : List ClockAccess) :
    rangeChanges s (first ++ second) =
      rangeChanges s first ++ rangeChanges (s.afterAll first) second := by
  induction first generalizing s with
  | nil => rfl
  | cons access rest ih =>
    rw [List.cons_append, rangeChanges, rangeChanges, ih]
    split <;> rfl

theorem rangeChanges_quiet {s : DcoSetting} {access : ClockAccess}
    (h : (s.after access).range = s.range) (rest : List ClockAccess) :
    rangeChanges s (access :: rest) = rangeChanges (s.after access) rest := by
  rw [rangeChanges, if_neg (not_not_intro h)]

theorem mem_rangeChanges_singleton {s : DcoSetting} {access : ClockAccess} {change : RangeChange} :
    change ∈ rangeChanges s [access] ↔
      change = ⟨s, s.after access⟩ ∧ (s.after access).range ≠ s.range := by
  by_cases h : (s.after access).range = s.range
  · simp [rangeChanges, h]
  · simp [rangeChanges, h]

/-! ## What the drivers write -/

namespace DcoSetting

/-- The accesses that put a setting into the registers. -/
def writes (s : DcoSetting) : List ClockAccess :=
  [.write .dcoctl 0, .write .bcsctl1 s.bcsctl1, .write .dcoctl s.dcoctl]

theorem atRest_writes {s new : DcoSetting} {change : RangeChange}
    (h : change ∈ rangeChanges s new.writes) : change.AtRest := by
  rw [writes, rangeChanges_quiet rfl, ← List.singleton_append, rangeChanges_append,
    List.mem_append, mem_rangeChanges_singleton, mem_rangeChanges_singleton] at h
  rcases h with ⟨rfl, -⟩ | ⟨-, hmoved⟩
  · rfl
  · exact absurd rfl hmoved

/-- The accesses of a step from one setting to another. -/
def stepWrites (old new : DcoSetting) : List ClockAccess :=
  .write .dcoctl new.dcoctl ::
    if new.bcsctl1 ≠ old.bcsctl1 then [.write .bcsctl1 new.bcsctl1] else []

theorem afterAll_stepWrites (old new : DcoSetting) : old.afterAll (old.stepWrites new) = new := by
  unfold stepWrites
  split
  case isTrue => rfl
  case isFalse hsame =>
    change DcoSetting.mk new.dcoctl old.bcsctl1 = new
    rw [← Decidable.not_not.mp hsame]

/-- A step that changes the range does so behind the write of the other byte. -/
theorem mem_rangeChanges_stepWrites {old new : DcoSetting} {change : RangeChange} :
    change ∈ rangeChanges old (old.stepWrites new) ↔
      change = ⟨⟨new.dcoctl, old.bcsctl1⟩, new⟩ ∧ new.range ≠ old.range := by
  rw [stepWrites, rangeChanges_quiet rfl]
  split
  case isTrue => exact mem_rangeChanges_singleton
  case isFalse hsame =>
    have hrange : new.range = old.range :=
      congrArg (· &&& ClockField.dcoRange) (Decidable.not_not.mp hsame)
    simp [rangeChanges, hrange]

theorem atRest_step_up {old new : DcoSetting} (hnew : old.nudge? .faster = some new)
    {change : RangeChange} (h : change ∈ rangeChanges old (old.stepWrites new)) :
    change.AtRest := by
  obtain ⟨rfl, hmoved⟩ := mem_rangeChanges_stepWrites.mp h
  rcases range_of_next (place_nudge_faster hnew) with hsame | ⟨-, htap, -⟩
  · exact absurd hsame hmoved
  · exact htap

theorem borrow_step_down {old new : DcoSetting} (hnew : old.nudge? .slower = some new)
    {change : RangeChange} (h : change ∈ rangeChanges old (old.stepWrites new)) :
    change.Borrow := by
  obtain ⟨rfl, hmoved⟩ := mem_rangeChanges_stepWrites.mp h
  rcases range_of_next (place_nudge_slower hnew).symm with hsame | ⟨htap, -, hrange⟩
  · exact absurd hsame.symm hmoved
  · exact ⟨htap, hrange.symm⟩

/-- The accesses of a step in a direction, where there is a next setting. -/
def nudgeWrites (old : DcoSetting) (direction : Nudge) : List ClockAccess :=
  (old.nudge? direction).elim [] old.stepWrites

theorem rangeChanges_nudge {old : DcoSetting} {direction : Nudge} {change : RangeChange}
    (h : change ∈ rangeChanges old (old.nudgeWrites direction)) :
    change.AtRest ∨ direction = .slower ∧ change.Borrow := by
  unfold nudgeWrites at h
  cases hnew : old.nudge? direction with
  | none =>
    rw [hnew] at h
    exact absurd h List.not_mem_nil
  | some new =>
    rw [hnew] at h
    cases direction with
    | slower => exact .inr ⟨rfl, borrow_step_down hnew h⟩
    | faster => exact .inl (atRest_step_up hnew h)

/-- The lowest tap of a range has its neighbour below in another range. -/
theorem range_below {old new : DcoSetting} (hplace : new.place + 1 = old.place)
    (htap : old.dcoctl = 0) : new.range ≠ old.range := by
  intro hsame
  rw [place, place, htap, hsame] at hplace
  change old.range.toNat * 256 + new.dcoctl.toNat + 1 = old.range.toNat * 256 + 0 at hplace
  omega

/-- Exactly the steps down from the lowest tap of a range change the range of a DCO that is not at
rest. -/
theorem unrested_nudge_iff {old : DcoSetting} {direction : Nudge} :
    (∃ change ∈ rangeChanges old (old.nudgeWrites direction), ¬ change.AtRest) ↔
      direction = .slower ∧ old.dcoctl = 0 ∧ old.range ≠ 0 := by
  constructor
  · rintro ⟨change, hchange, hunrested⟩
    obtain ⟨rfl, -⟩ := (rangeChanges_nudge hchange).resolve_left hunrested
    obtain ⟨hnone, -⟩ | ⟨new, hnew, hplace, -⟩ := old.nudge_slower
    · rw [nudgeWrites, hnone] at hchange
      exact absurd hchange List.not_mem_nil
    rw [nudgeWrites, hnew] at hchange
    obtain ⟨rfl, hmoved⟩ := mem_rangeChanges_stepWrites.mp hchange
    rcases range_of_next hplace.symm with hsame | ⟨-, htap, hrange⟩
    · exact absurd hsame.symm hmoved
    · refine ⟨rfl, htap, fun hzero => ?_⟩
      rw [hzero] at hrange
      exact absurd hrange (Nat.ne_of_lt (Nat.succ_pos _))
  · rintro ⟨rfl, htap, hrange⟩
    obtain ⟨-, hzero⟩ | ⟨new, hnew, hplace, -⟩ := old.nudge_slower
    · rw [place, htap] at hzero
      have hlowest : old.range.toNat = 0 := by
        change old.range.toNat * 256 + 0 = 0 at hzero
        omega
      exact absurd (UInt8.toNat_inj.mp hlowest) hrange
    have hchange := mem_rangeChanges_stepWrites.mpr ⟨rfl, range_below hplace htap⟩
    have hborrow := borrow_step_down hnew hchange
    refine ⟨⟨⟨new.dcoctl, old.bcsctl1⟩, new⟩, ?_, ?_⟩
    · rw [nudgeWrites, hnew]
      exact hchange
    · rw [RangeChange.AtRest, hborrow.tap]
      decide

end DcoSetting

/-! ## The log of a clock module -/

namespace ClockTrace

def dco (v : ClockTrace) : DcoSetting := v.settings.dco

/-- Since a time when the DCO had the setting `start` and the log held `earlier`, the range has only
been changed in allowed ways. -/
def Since (allowed : RangeChange → Prop) (start : DcoSetting) (earlier : List ClockAccess)
    (v : ClockTrace) : Prop :=
  ∃ log, v.accesses = earlier ++ log ∧ v.dco = start.afterAll log ∧
    ∀ change ∈ rangeChanges start log, allowed change

variable {allowed : RangeChange → Prop} {start : DcoSetting} {earlier : List ClockAccess}
variable {v w : ClockTrace}

theorem since_now (v : ClockTrace) : Since allowed v.dco v.accesses v :=
  ⟨[], (List.append_nil _).symm, rfl, by simp [rangeChanges]⟩

theorem Since.extend (h : Since allowed start earlier v) {more : List ClockAccess}
    (haccesses : w.accesses = v.accesses ++ more) (hdco : w.dco = v.dco.afterAll more)
    (hmore : ∀ change ∈ rangeChanges v.dco more, allowed change) : Since allowed start earlier w := by
  obtain ⟨log, hlog, hstart, hallowed⟩ := h
  refine ⟨log ++ more, ?_, ?_, ?_⟩
  · rw [haccesses, hlog, List.append_assoc]
  · rw [hdco, hstart, DcoSetting.afterAll_append]
  · intro change hchange
    rw [rangeChanges_append, ← hstart, List.mem_append] at hchange
    rcases hchange with hchange | hchange
    · exact hallowed change hchange
    · exact hmore change hchange

/-- One more access that leaves the range alone. -/
theorem Since.quiet (h : Since allowed start earlier v) {access : ClockAccess}
    (haccesses : w.accesses = v.accesses ++ [access]) (hdco : w.dco = v.dco.after access)
    (hrange : (v.dco.after access).range = v.dco.range) : Since allowed start earlier w := by
  refine h.extend haccesses hdco ?_
  rw [rangeChanges_quiet hrange]
  exact fun _ hchange => absurd hchange List.not_mem_nil

end ClockTrace

namespace LoggedClock

variable {M : Type} (caps : ClockCapabilities)

theorem obeyed : (system caps : ClockSystem (LoggedClock M)).Obeyed fun s r => s.clock.read r :=
  ClockModule.obeyed _ ⟨fun _ _ => rfl, fun _ _ _ => rfl, fun _ => rfl⟩
    ⟨fun _ _ => rfl, fun _ _ _ => rfl, fun _ => rfl⟩ (fun _ _ => rfl) (fun _ _ => rfl)
    fun _ _ _ _ hs => hs

def Ordered (allowed : RangeChange → Prop) (start : DcoSetting) (earlier : List ClockAccess)
    (s : LoggedClock M) : Prop :=
  s.trace.Since allowed start earlier

variable {allowed : RangeChange → Prop} {start : DcoSetting} {earlier : List ClockAccess}

/-- What the log does not show keeps its order. -/
theorem keeps_of_leaves {α : Type} {run : Run (LoggedClock M) α} (h : run.Leaves trace) :
    Keeps (Ordered allowed start earlier) (Ordered allowed start earlier) run :=
  h.keeps (I := ClockTrace.Since allowed start earlier) fun _ hv => hv

theorem keeps_clearFault : Keeps (Ordered allowed start earlier) (Ordered allowed start earlier)
    (system caps : ClockSystem (LoggedClock M)).port.clearFault := by
  intro patience s hs
  exact ClockTrace.Since.quiet hs rfl rfl rfl

theorem keeps_write_bcsctl2 (bits : UInt8) :
    Keeps (Ordered allowed start earlier) (Ordered allowed start earlier)
      ((system caps : ClockSystem (LoggedClock M)).port.write .bcsctl2 bits) := by
  intro patience s hs
  exact ClockTrace.Since.quiet hs rfl rfl rfl

theorem keeps_change_bcsctl2 (f : UInt8 → UInt8) :
    Keeps (Ordered allowed start earlier) (Ordered allowed start earlier)
      ((system caps : ClockSystem (LoggedClock M)).port.change .bcsctl2 f) :=
  fun patience s hs => keeps_write_bcsctl2 caps _ patience s hs

theorem keeps_write_bcsctl3 (bits : UInt8) :
    Keeps (Ordered allowed start earlier) (Ordered allowed start earlier)
      ((system caps : ClockSystem (LoggedClock M)).port.write .bcsctl3 bits) := by
  intro patience s hs
  exact ClockTrace.Since.quiet hs rfl rfl rfl

theorem keeps_configureAclk (source : ClockSource) (shift : UInt8) :
    Keeps (Ordered allowed start earlier) (Ordered allowed start earlier)
      ((system caps : ClockSystem (LoggedClock M)).configureAclk source shift).run := by
  intro patience s hs
  obtain ⟨answer, hmode, -⟩ := ClockSystem.start_lfxt1ModeFor (obeyed caps) source patience s
  rw [ClockSystem.configureAclk, ExceptT.run_bind, start_bind_ok hmode]
  cases answer with
  | error why => exact hs
  | ok mode =>
    let bits := ClockField.aclkDivider.insert shift s.clock.bcsctl1
    -- the divider of ACLK lies beside the range
    have hrange : (s.trace.dco.after (.write .bcsctl1 bits)).range = s.trace.dco.range :=
      range_insert_aclkDivider shift s.clock.bcsctl1
    let divided : LoggedClock M :=
      { s with
        clock := s.clock.write .bcsctl1 bits
        accesses := s.accesses ++ [.write .bcsctl1 bits] }
    have hdivided : Ordered allowed start earlier divided := ClockTrace.Since.quiet hs rfl rfl hrange
    exact keeps_write_bcsctl3 caps _ patience divided hdivided

theorem start_nudgeDco (direction : Nudge) (patience : Nat) (s : LoggedClock M) :
    ∃ moved t, ((system caps).nudgeDco direction).start patience s = .ok moved t ∧
      t.accesses = s.accesses ++ s.trace.dco.nudgeWrites direction ∧
      t.trace.dco = s.trace.dco.afterAll (s.trace.dco.nudgeWrites direction) := by
  have hread : (system caps).readDco.start patience s = .ok s.trace.dco s := rfl
  rw [ClockSystem.nudgeDco, start_bind_ok hread, DcoSetting.nudgeWrites]
  cases s.trace.dco.nudge? direction with
  | none => exact ⟨false, s, rfl, (List.append_nil _).symm, rfl⟩
  | some new =>
    have hdco := s.trace.dco.afterAll_stepWrites new
    by_cases hrange : new.bcsctl1 ≠ s.trace.dco.bcsctl1
    · dsimp only
      rw [if_pos hrange]
      refine ⟨true, _, rfl, ?_, hdco.symm⟩
      rw [Option.elim, DcoSetting.stepWrites, if_pos hrange]
      exact List.append_assoc ..
    · dsimp only
      rw [if_neg hrange]
      refine ⟨true, _, rfl, ?_, ?_⟩
      · rw [Option.elim, DcoSetting.stepWrites, if_neg hrange]
        rfl
      · rw [Option.elim, hdco]
        exact congrArg (DcoSetting.mk new.dcoctl) (Decidable.not_not.mp hrange).symm

section Allowed

variable (hrest : ∀ change, change.AtRest → allowed change)

include hrest

theorem keeps_writeDco (setting : DcoSetting) :
    Keeps (Ordered allowed start earlier) (Ordered allowed start earlier)
      ((system caps : ClockSystem (LoggedClock M)).writeDco setting) := by
  intro patience s hs
  have hchanges : ∀ change ∈ rangeChanges s.trace.dco setting.writes, allowed change :=
    fun change hchange => hrest change (DcoSetting.atRest_writes hchange)
  refine ClockTrace.Since.extend hs ?_ rfl hchanges
  change s.accesses ++ _ ++ _ ++ _ = _
  rw [List.append_assoc, List.append_assoc]
  rfl

theorem keeps_programDco (target : UInt32) :
    Keeps (Ordered allowed start earlier) (Ordered allowed start earlier)
      ((system caps : ClockSystem (LoggedClock M)).programDco target) := by
  apply (keeps_writeDco caps hrest _).bind
  intro _
  apply Keeps.bind (I := Ordered allowed start earlier)
  · exact keeps_change_bcsctl2 caps _
  · exact fun _ _ _ hs => hs

variable (hborrow : ∀ change, change.Borrow → allowed change)

include hborrow

theorem keeps_nudgeDco (direction : Nudge) :
    Keeps (Ordered allowed start earlier) (Ordered allowed start earlier)
      ((system caps : ClockSystem (LoggedClock M)).nudgeDco direction) := by
  intro patience s hs
  obtain ⟨moved, t, hrun, haccesses, hdco⟩ := start_nudgeDco caps direction patience s
  rw [hrun]
  apply ClockTrace.Since.extend hs haccesses hdco
  intro change hchange
  rcases DcoSetting.rangeChanges_nudge hchange with hat | ⟨-, hborrowed⟩
  · exact hrest change hat
  · exact hborrow change hborrowed

section Ports

variable {via : TuningChannel (LoggedClock M)} (hport : via.timer.Spares trace)

include hport

/-- The invariant of the search: every step so far changed the range at rest or borrowed from it. -/
theorem keeps_seek (hz : UInt32) (expected : UInt16) (n : Nat) :
    Keeps (Ordered allowed start earlier) (Ordered allowed start earlier)
      ((system caps).seek via hz expected n).run := by
  induction n with
  | zero => exact keeps_pure _
  | succ n ih =>
    rw [ClockSystem.seek, run_liftM_bind]
    apply (keeps_of_leaves (hport.captureSpan _ _ _ _)).bind
    intro measured
    by_cases hexact : measured = expected
    · rw [if_pos hexact]
      exact fun _ _ hs => hs
    · rw [if_neg hexact, run_liftM_bind]
      apply (keeps_nudgeDco caps hrest hborrow _).bind
      intro moved
      cases moved with
      | false => exact keeps_pure _
      | true => exact ih

theorem keeps_tuneDco (hz : UInt32) :
    Keeps (Ordered allowed start earlier) (Ordered allowed start earlier)
      ((system caps).tuneDco via hz).run := by
  intro patience s hs
  have hread : ((system caps).port.read .bcsctl1).start patience s = .ok s.clock.bcsctl1 s := rfl
  rw [ClockSystem.tuneDco, run_liftM_bind, start_bind_ok hread, run_adapt_bind]
  refine Keeps.bind (keeps_configureAclk caps _ _) (fun answer => ?_) patience s hs
  cases answer with
  | error why => exact keeps_pure _
  | ok _ =>
    dsimp only
    intro patience t ht
    rw [run_liftM_bind, start_bind_ok (ClockSystem.start_aclkHz (obeyed caps) patience t)]
    cases ClockSystem.expectedCount hz _ with
    | none => exact ht
    | some expected =>
      dsimp only
      rw [run_liftM_bind]
      refine Keeps.bind (keeps_of_leaves (hport.writeControl _)) (fun _ => ?_) patience t ht
      rw [run_liftM_bind]
      apply (keeps_change_bcsctl2 caps _).bind
      intro _
      exact keeps_seek caps hrest hborrow hport hz expected _

theorem keeps_tuneMclk (hz : UInt32) :
    Keeps (Ordered allowed start earlier) (Ordered allowed start earlier)
      ((system caps).tuneMclk via hz) := by
  intro patience s hs
  by_cases hchannel : via.channel < via.timer.channels
  case neg =>
    rw [ClockSystem.tuneMclk, if_neg hchannel]
    exact hs
  rw [ClockSystem.tuneMclk, if_pos hchannel]
  have hdco : (system caps).readDco.start patience s = .ok s.trace.dco s := rfl
  have hread (r : ClockRegister) :
      ((system caps).port.read r).start patience s = .ok (s.clock.read r) s := rfl
  simp only [start_bind_ok hdco, start_bind_ok (hread _)]
  refine Keeps.bind (keeps_tuneDco caps hrest hborrow hport hz) (fun answer => ?_) patience s hs
  apply (keeps_of_leaves (hport.writeControl 0)).bind
  intro _
  have hback : Keeps (Ordered allowed start earlier) (Ordered allowed start earlier) (do
      (system caps : ClockSystem (LoggedClock M)).port.write .bcsctl2 s.clock.bcsctl2
      (system caps : ClockSystem (LoggedClock M)).port.write .bcsctl3 s.clock.lfxt1Bits
      return answer) := by
    apply (keeps_write_bcsctl2 caps _).bind
    intro _
    exact (keeps_write_bcsctl3 caps _).bind fun _ => keeps_pure _
  cases answer with
  | ok _ => exact hback
  | error why => exact (keeps_writeDco caps hrest s.trace.dco).bind fun _ => hback

end Ports

end Allowed

section Waiting

variable {cpu : Cpu (LoggedClock M)} (hfeed : cpu.feedWatchdog.Leaves trace)
variable (hdelay : ∀ cycles, (cpu.delayCycles cycles).Leaves trace)

include hfeed hdelay

theorem ordered_awaitOscillators :
    Keeps (Ordered allowed start earlier) (Ordered allowed start earlier)
      ((system caps).awaitOscillators cpu) := by
  apply ClockSystem.keeps_awaitOscillators (fun _ hs => hs)
  · exact keeps_clearFault caps
  · exact keeps_of_leaves hfeed
  · exact fun cycles => keeps_of_leaves (hdelay cycles)
  · exact fun _ _ hs => hs

/-- Programming MCLK changes the range only while the DCO is at rest. So do the tunings, wherever they
end and however erratic their measurements are, but for steps down into the range below, which borrow
from it with the highest tap running. Those are exactly the steps down from the lowest tap. -/
theorem range_changes_classified {via : TuningChannel (LoggedClock M)}
    (hport : via.timer.Spares trace) (target : UInt32) (patience : Nat) (s : LoggedClock M) :
    (((system caps).configureMclk cpu target).finish patience s).trace.Since RangeChange.AtRest
        s.trace.dco s.accesses ∧
      (((system caps).configureMclkTuned cpu via target).finish patience s).trace.Since
        (fun change => change.AtRest ∨ change.Borrow) s.trace.dco s.accesses ∧
      (((system caps).tuneMclk via target).finish patience s).trace.Since
        (fun change => change.AtRest ∨ change.Borrow) s.trace.dco s.accesses ∧
      ∀ direction, ∃ moved t log,
        ((system caps).nudgeDco direction).start patience s = .ok moved t ∧
          t.accesses = s.accesses ++ log ∧
          ((∃ change ∈ rangeChanges s.trace.dco log, ¬ change.AtRest) ↔
            direction = .slower ∧ s.clock.dcoctl = 0 ∧ s.trace.dco.range ≠ 0) := by
  have hbegin (allowed : RangeChange → Prop) : Ordered allowed s.trace.dco s.accesses s :=
    s.trace.since_now
  have hanswer (allowed : RangeChange → Prop) : Keeps (Ordered allowed s.trace.dco s.accesses)
      (Ordered allowed s.trace.dco s.accesses) (do
        (system caps).awaitOscillators cpu
        (system caps : ClockSystem (LoggedClock M)).configuredHz.read) :=
    (ordered_awaitOscillators caps hfeed hdelay).bind fun _ _ _ hs => hs
  have htune : Keeps (Ordered (fun change => change.AtRest ∨ change.Borrow) s.trace.dco s.accesses)
      (Ordered (fun change => change.AtRest ∨ change.Borrow) s.trace.dco s.accesses)
      ((system caps).tuneMclk via target) :=
    keeps_tuneMclk caps (fun _ => .inl) (fun _ => .inr) hport target
  refine ⟨?_, ?_, ?_, fun direction => ?_⟩
  · have hkeeps := (keeps_programDco caps (fun _ => id) target).bind fun _ => hanswer _
    exact hkeeps.finish (fun _ hs => hs) (hbegin _)
  · refine Keeps.finish (Keeps.bind (keeps_programDco caps (fun _ => .inl) target) fun _ => ?_)
      (fun _ hs => hs) (hbegin _)
    by_cases hzero : target = 0
    · rw [if_pos hzero]
      exact hanswer _
    · rw [if_neg hzero]
      exact htune.discard.bind fun _ => hanswer _
  · exact htune.finish (fun _ hs => hs) (hbegin _)
  · obtain ⟨moved, t, hrun, haccesses, -⟩ := start_nudgeDco caps direction patience s
    exact ⟨moved, t, _, hrun, haccesses, DcoSetting.unrested_nudge_iff⟩

end Waiting

/-! ## A search that steps down into the range below -/

def loggedTimer : TimerPort (LoggedClock (SimTimer 2)) :=
  SimTimer.port ⟨rest, fun rest s => { s with rest }⟩ (return (← get).clock) fun _ => return ()

theorem spares_loggedTimer : loggedTimer.Spares trace :=
  SimTimer.spares_port (fun _ _ => rfl) fun _ _ _ hs => hs

/-- The lowest tap of a range in the middle. The first measurement is too fast by far and the second
one is exact. -/
def aboveBorder : LoggedClock (SimTimer 2) :=
  ⟨{ dcoctl := 0, bcsctl1 := 0x87 }, 0, [], { source := .list [2000, 1000] }⟩

def loggedChannel : TuningChannel (LoggedClock (SimTimer 2)) := ⟨loggedTimer, 1, .b⟩

def quietCpu : Cpu (LoggedClock (SimTimer 2)) := .idle (return ())

def tuneAcross : Run (LoggedClock (SimTimer 2)) (Except TuneError Unit) :=
  (system {}).tuneMclk loggedChannel 3276800

theorem range_changes_classified_across :
    (tuneAcross.finish 1 aboveBorder).trace.Since (fun change => change.AtRest ∨ change.Borrow)
      ⟨0, 0x87⟩ [] := by
  have hfeed : quietCpu.feedWatchdog.Leaves trace := leaves_pure _ _
  have hdelay (cycles : UInt32) : (quietCpu.delayCycles cycles).Leaves trace := leaves_pure _ _
  have hport : loggedChannel.timer.Spares trace := spares_loggedTimer
  obtain ⟨-, -, htuned, -⟩ :=
    range_changes_classified {} hfeed hdelay hport 3276800 1 aboveBorder
  exact htuned

/-- The range falls from 7 to 6 while the highest tap already runs. -/
theorem unrested_range_change :
    rangeChanges aboveBorder.trace.dco (tuneAcross.finish 1 aboveBorder).accesses =
        [⟨⟨0xFF, 0x87⟩, ⟨0xFF, 0x86⟩⟩] ∧
      ¬ ∀ change ∈ rangeChanges aboveBorder.trace.dco (tuneAcross.finish 1 aboveBorder).accesses,
        change.AtRest := by
  decide +kernel

end LoggedClock

end Msp430
