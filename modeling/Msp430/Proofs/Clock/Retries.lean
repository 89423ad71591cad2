import Msp430.Proofs.Clock.Candidate

/-!
How often a crystal is looked for. It may start and stop in every delay, and each round of settling
looks at it once, behind its delay. The search ends with the first round that finds the crystal
running or with the last round of the budget, and that one counts like any other. If no crystal was
found its pins are given back and ACLK is left to VLO, whether or not the board takes the pins.
-/
namespace Msp430

open Run

variable {M : Type}

/-! ## A crystal that comes and goes -/

/-- What is around a logged clock: the delays that are over, the requests to the processor and for
pins, the oldest first, and what both of them remember. -/
structure BenchLog (M : Type) where
  delays : Nat
  calls : List CpuCall
  requests : List PinRequest
  memory : M

abbrev Bench (M : Type) := LoggedClock (BenchLog M)

/-- How everything around the clock behaves. Whether the crystal runs depends on how many delays are
over. -/
structure CrystalParts (M : Type) extends BoardParts M where
  history : Nat → Bool

abbrev PinRequest.takeCrystal : PinRequest := ⟨.lfxt1, .primary, true⟩

abbrev PinRequest.giveCrystalBack : PinRequest := ⟨.lfxt1, .primary, false⟩

namespace Bench

variable (parts : CrystalParts M)

def served (call : CpuCall) (s : Bench M) : Bench M :=
  { s with
    rest := { s.rest with
      calls := s.rest.calls ++ [call], memory := parts.serve call s.rest.memory } }

/-- The only time at which the crystal changes. -/
def delayed (cycles : UInt32) (s : Bench M) : Bench M :=
  { s with
    clock := { s.clock with crystalRunning := parts.history (s.rest.delays + 1) }
    rest := { s.rest with
      delays := s.rest.delays + 1
      calls := s.rest.calls ++ [.delay cycles]
      memory := parts.serve (.delay cycles) s.rest.memory } }

def routed (request : PinRequest) (s : Bench M) : Bench M :=
  { s with
    rest := { s.rest with
      requests := s.rest.requests ++ [request]
      memory := (parts.route request s.rest.memory).2 } }

def cleared (s : Bench M) : Bench M :=
  { s with clock := s.clock.clearFault, accesses := s.accesses ++ [.clearFault] }

def selected (bits : UInt8) (s : Bench M) : Bench M :=
  { s with
    clock := s.clock.write .bcsctl3 bits, accesses := s.accesses ++ [.write .bcsctl3 bits] }

end Bench

namespace CrystalParts

variable (parts : CrystalParts M)

def system (load : UInt8) : ClockSystem (Bench M) := LoggedClock.system (parts.caps.withXt1Load load)

def cpu : Cpu (Bench M) where
  feedWatchdog := modify (Bench.served parts .feed)
  delayCycles cycles := modify (Bench.delayed parts cycles)
  sleep mode := modify (Bench.served parts (.sleep mode))

def pins : PinRouter (Bench M) where
  route request := modifyGet fun s =>
    ((parts.route request s.rest.memory).1, Bench.routed parts request s)

/-- The call with a signed number of rounds. -/
def bringUp (load : UInt8) (enable : Bool) (budget : Int) : Run (Bench M) Bool :=
  (parts.system load).configureCrystal parts.cpu parts.pins enable (.ofInt budget)

end CrystalParts

/-! ## The course of a search -/

/-- The crystal is first found running in round `j` of those that follow `start` delays. -/
structure FirstUp (history : Nat → Bool) (start j : Nat) : Prop where
  counted : 1 ≤ j
  up : history (start + j) = true
  down : ∀ i, 1 ≤ i → i < j → history (start + i) = false

/-- How many rounds a search takes and whether it finds the crystal. A negative budget has no end. -/
inductive SearchCourse (tried : Bool) (budget : Int) (history : Nat → Bool) (start : Nat) :
    Nat → Bool → Prop where
  | up {j : Nat} : tried = true → FirstUp history start j → budget < 0 ∨ j ≤ budget →
      SearchCourse tried budget history start j true
  | spent {b : Nat} : tried = true → budget = b → 0 < b → (∀ j ≤ b, ¬FirstUp history start j) →
      SearchCourse tried budget history start b false
  | skipped : tried = false → SearchCourse tried budget history start 0 false

/-- The crystal is found in none of the next `n` rounds. -/
def DownFor (history : Nat → Bool) (start n : Nat) : Prop :=
  ∀ i, 1 ≤ i → i ≤ n → history (start + i) = false

section History

variable {history : Nat → Bool} {start : Nat}

theorem DownFor.next {n : Nat} (h : DownFor history start (n + 1)) : history (start + 1) = false :=
  h 1 (by omega) (by omega)

theorem DownFor.later {n : Nat} (h : DownFor history start (n + 1)) :
    DownFor history (start + 1) n := by
  intro i hlow hhigh
  rw [Nat.add_assoc]
  exact h (1 + i) (by omega) (by omega)

theorem firstUp_or_down (history : Nat → Bool) (start n : Nat) :
    (∃ j ≤ n, FirstUp history start j) ∨ DownFor history start n := by
  induction n with
  | zero => exact .inr fun i hlow hhigh => absurd hlow (by omega)
  | succ n ih =>
    rcases ih with ⟨j, hj, hup⟩ | hdown
    · exact .inl ⟨j, by omega, hup⟩
    · cases hlast : history (start + (n + 1)) with
      | true =>
        exact .inl ⟨n + 1, Nat.le_refl _, by omega, hlast, fun i hlow hi => hdown i hlow (by omega)⟩
      | false =>
        refine .inr fun i hlow hhigh => ?_
        by_cases hi : i = n + 1
        · rw [hi]
          exact hlast
        · exact hdown i hlow (by omega)

theorem down_of_not_firstUp {n : Nat} (h : ∀ j ≤ n, ¬FirstUp history start j) :
    DownFor history start n := by
  rcases firstUp_or_down history start n with ⟨j, hj, hup⟩ | hdown
  · exact absurd hup (h j hj)
  · exact hdown

/-- A first success is one round more than a number of failures. -/
theorem FirstUp.split {j : Nat} (h : FirstUp history start j) :
    ∃ k, j = k + 1 ∧ DownFor history start k ∧ history (start + k + 1) = true := by
  obtain ⟨k, rfl⟩ := Nat.exists_eq_add_of_le' h.counted
  exact ⟨k, rfl, fun i hlow hi => h.down i hlow (by omega), h.up⟩

/-- A search takes some course unless it goes on forever. -/
theorem searchCourse_or_forever (tried : Bool) {budget : Int} (hbudget : tried = true → budget ≠ 0)
    (history : Nat → Bool) (start : Nat) :
    (∃ rounds running, SearchCourse tried budget history start rounds running) ∨
      (tried = true ∧ budget < 0 ∧ ∀ j, ¬FirstUp history start j) := by
  cases tried with
  | false => exact .inl ⟨0, false, .skipped rfl⟩
  | true =>
    by_cases hnegative : budget < 0
    · by_cases hup : ∃ j, FirstUp history start j
      · obtain ⟨j, hup⟩ := hup
        exact .inl ⟨j, true, .up rfl hup (.inl hnegative)⟩
      · exact .inr ⟨rfl, hnegative, fun j hj => hup ⟨j, hj⟩⟩
    · obtain ⟨b, rfl⟩ := Int.eq_ofNat_of_zero_le (Int.not_lt.mp hnegative)
      have hsome := hbudget rfl
      by_cases hup : ∃ j ≤ b, FirstUp history start j
      · obtain ⟨j, hj, hup⟩ := hup
        exact .inl ⟨j, true, .up rfl hup (.inr (by omega))⟩
      · exact .inl ⟨b, false, .spent rfl rfl (by omega) fun j hj hfirst => hup ⟨j, hj, hfirst⟩⟩

end History

/-! ## LFXT1 while it is looked at -/

namespace ClockModule

/-- What BCSCTL3 holds for a crystal with a load. -/
def crystalBits (load : UInt8) : UInt8 :=
  Lfxt1Mode.crystal.bits ||| (load &&& ClockField.loadCapacitance)

/-- LFXT1 is set to the crystal, and only that can raise its fault. -/
structure Listening (m : ClockModule) : Prop where
  mode : m.mode = .crystal
  sound : anyBits ClockField.lfxt1Fault m.bcsctl3 = false

theorem Listening.faulted {m : ClockModule} (h : m.Listening) : m.faulted = !m.crystalRunning := by
  cases hrunning : m.crystalRunning with
  | true =>
    rw [ClockModule.faulted, lfxt1Bits, if_neg fun hdead => by simp [hrunning] at hdead]
    exact h.sound
  | false => exact faulted_of_dead hrunning (by rw [h.mode]; decide)

theorem listening_write (m : ClockModule) (load : UInt8) :
    (m.write .bcsctl3 (crystalBits load)).Listening :=
  ⟨mode_write_crystal m load, anyBits_clear_byte _ _⟩

/-- The load lies outside the fault, too, so it is kept as it is. -/
theorem bcsctl3_write_crystal (m : ClockModule) (load : UInt8) :
    (m.write .bcsctl3 (crystalBits load)).bcsctl3 = crystalBits load := by
  change clearBits 0x01 ((0 : UInt8) ||| (load &&& 0x0C)) = (0 : UInt8) ||| (load &&& 0x0C)
  rw [UInt8.zero_or, clearBits, UInt8.and_assoc]
  rfl

end ClockModule

/-! ## Rounds of settling -/

namespace Bench

variable (parts : CrystalParts M)

def round (s : Bench M) : Bench M := (s.served parts .feed).delayed parts parts.caps.settleCycles

def afterRounds : Nat → Bench M → Bench M
  | 0, s => s
  | n + 1, s => afterRounds n (s.round parts)

theorem afterRounds_succ (n : Nat) (s : Bench M) :
    s.afterRounds parts (n + 1) = (s.afterRounds parts n).round parts := by
  induction n generalizing s with
  | zero => rfl
  | succ n ih =>
    rw [afterRounds, ih]
    rfl

/-- What a number of rounds leave. -/
structure Settled (n : Nat) (s t : Bench M) : Prop where
  delays : t.rest.delays = s.rest.delays + n
  calls : t.rest.calls = s.rest.calls ++ waits parts.caps.settleCycles n
  requests : t.rest.requests = s.rest.requests
  trace : t.trace = s.trace
  mode : t.clock.mode = s.clock.mode
  crystal : 1 ≤ n → t.clock.crystalRunning = parts.history (s.rest.delays + n)

theorem settled_afterRounds (n : Nat) (s : Bench M) : Settled parts n s (s.afterRounds parts n) := by
  induction n generalizing s with
  | zero => exact ⟨rfl, by simp [waits, afterRounds], rfl, rfl, rfl, fun h => absurd h (by decide)⟩
  | succ n ih =>
    -- the first round comes off the front, so the rest starts one delay later
    have h := ih (s.round parts)
    refine ⟨?_, ?_, h.requests, h.trace, h.mode, fun _ => ?_⟩
    · rw [afterRounds, h.delays, Nat.add_comm n, ← Nat.add_assoc]
      rfl
    · rw [afterRounds, h.calls, waits_succ]
      simp [round, served, delayed]
    · cases n with
      | zero => rfl
      | succ n =>
        rw [afterRounds, h.crystal (by omega)]
        congr 1
        change s.rest.delays + 1 + (n + 1) = _
        omega

variable {parts}

theorem Settled.listening {n : Nat} {s t : Bench M} (h : Settled parts n s t)
    (hs : s.clock.Listening) : t.clock.Listening where
  mode := h.mode.trans hs.mode
  sound := by
    have hbits : t.clock.bcsctl3 = s.clock.bcsctl3 := congrArg ClockTrace.bcsctl3 h.trace
    rw [hbits]
    exact hs.sound

end Bench

theorem ClockModule.Listening.round {parts : CrystalParts M} {s : Bench M} (h : s.clock.Listening) :
    (s.round parts).clock.Listening := ⟨h.mode, h.sound⟩

namespace CrystalParts

variable (parts : CrystalParts M) (load : UInt8) {s : Bench M}

/-- A round tells whether the crystal runs behind its delay. -/
theorem start_settle (hs : s.clock.Listening) (patience : Nat) :
    ((parts.system load).settle parts.cpu).start patience s =
      .ok (parts.history (s.rest.delays + 1)) (s.round parts) := by
  change EStateM.Result.ok (!(s.round parts).clock.faulted) _ = _
  rw [hs.round.faulted, Bool.not_not]
  rfl

variable {k : Nat}

/-- Rounds that do not find the crystal come off the budget. -/
theorem start_upTo_down (hs : s.clock.Listening) (hdown : DownFor parts.history s.rest.delays k)
    (n patience : Nat) :
    (Run.upTo ((parts.system load).settle parts.cpu) (k + n)).start patience s =
      (Run.upTo ((parts.system load).settle parts.cpu) n).start patience (s.afterRounds parts k) := by
  induction k generalizing s with
  | zero => rw [Nat.zero_add, Bench.afterRounds]
  | succ k ih =>
    rw [Nat.succ_add, Run.upTo, start_bind_ok (start_settle parts load hs patience), hdown.next]
    exact ih hs.round hdown.later

/-- The step of a search without end. -/
def look : Run (Bench M) (Progress Unit Unit) :=
  return if ← (parts.system load).settle parts.cpu then .finished () else .again ()

theorem start_look (hs : s.clock.Listening) (patience : Nat) :
    (parts.look load).start patience s =
      .ok (if parts.history (s.rest.delays + 1) then .finished () else .again ()) (s.round parts) := by
  rw [look, start_bind_ok (start_settle parts load hs patience)]
  rfl

/-- They come off the patience in the same way. -/
theorem start_looks_down (hs : s.clock.Listening) (hdown : DownFor parts.history s.rest.delays k)
    (n patience : Nat) :
    (loopWithin (fun _ => parts.look load) (k + n) ()).start patience s =
      (loopWithin (fun _ => parts.look load) n ()).start patience (s.afterRounds parts k) := by
  induction k generalizing s with
  | zero => rw [Nat.zero_add, Bench.afterRounds]
  | succ k ih =>
    have hagain : (parts.look load).start patience s = .ok (.again ()) (s.round parts) := by
      rw [start_look parts load hs, hdown.next]
      rfl
    rw [Nat.succ_add, start_loopWithin_again hagain]
    exact ih hs.round hdown.later

/-! ## Searches -/

variable {j : Nat}

theorem start_upTo_up (hs : s.clock.Listening) (h : FirstUp parts.history s.rest.delays j)
    (n patience : Nat) :
    (Run.upTo ((parts.system load).settle parts.cpu) (j + n)).start patience s =
      .ok () (s.afterRounds parts j) := by
  obtain ⟨k, rfl, hdown, hup⟩ := h.split
  have hsettled := Bench.settled_afterRounds parts k s
  have hround := start_settle parts load (hsettled.listening hs) patience
  rw [hsettled.delays, hup] at hround
  rw [Nat.add_assoc, start_upTo_down parts load hs hdown, Nat.add_comm 1, Run.upTo,
    start_bind_ok hround, Bench.afterRounds_succ]
  rfl

theorem start_looks_up (hs : s.clock.Listening) (h : FirstUp parts.history s.rest.delays j)
    (n patience : Nat) :
    (loopWithin (fun _ => parts.look load) (j + n) ()).start patience s =
      .ok () (s.afterRounds parts j) := by
  obtain ⟨k, rfl, hdown, hup⟩ := h.split
  have hsettled := Bench.settled_afterRounds parts k s
  have hfinished := start_look parts load (hsettled.listening hs) patience
  rw [hsettled.delays, hup, if_pos rfl] at hfinished
  rw [Nat.add_assoc, start_looks_down parts load hs hdown, Nat.add_comm 1,
    start_loopWithin_finished hfinished, Bench.afterRounds_succ]

/-- The wait for the crystal. -/
def awaitCrystal (budget : RetryBudget) : Run (Bench M) Unit :=
  match budget with
  | .rounds n => Run.upTo ((parts.system load).settle parts.cpu) n
  | .unlimited => Run.poll ((parts.system load).settle parts.cpu)

theorem start_await_up (hs : s.clock.Listening) (h : FirstUp parts.history s.rest.delays j)
    {budget : Int} (hbudget : budget < 0 ∨ j ≤ budget) {patience : Nat}
    (hpatience : budget < 0 → j ≤ patience) :
    (parts.awaitCrystal load (.ofInt budget)).start patience s =
      .ok () (s.afterRounds parts j) := by
  by_cases hnegative : budget < 0
  · obtain ⟨n, rfl⟩ := Nat.exists_eq_add_of_le (hpatience hnegative)
    rw [RetryBudget.ofInt, if_pos hnegative]
    exact start_looks_up parts load hs h n _
  · obtain ⟨n, hn⟩ := Nat.exists_eq_add_of_le (show j ≤ budget.toNat by omega)
    rw [RetryBudget.ofInt, if_neg hnegative, hn]
    exact start_upTo_up parts load hs h n patience

theorem start_await_spent (hs : s.clock.Listening) {b : Nat}
    (h : ∀ j ≤ b, ¬FirstUp parts.history s.rest.delays j) (patience : Nat) :
    (parts.awaitCrystal load (.ofInt b)).start patience s = .ok () (s.afterRounds parts b) := by
  rw [RetryBudget.ofInt, if_neg (by omega)]
  exact start_upTo_down parts load hs (down_of_not_firstUp h) 0 patience

theorem start_await_forever (hs : s.clock.Listening)
    (h : ∀ j, ¬FirstUp parts.history s.rest.delays j) {budget : Int} (hbudget : budget < 0)
    (patience : Nat) :
    (parts.awaitCrystal load (.ofInt budget)).start patience s =
      .error .stuck (s.afterRounds parts patience) := by
  have hdown := down_of_not_firstUp (n := patience) fun j _ => h j
  rw [RetryBudget.ofInt, if_pos hbudget]
  exact start_looks_down parts load hs hdown 0 patience

/-! ## Trying the crystal -/

theorem start_startCrystal_refused {why : PinError}
    (h : (parts.route .takeCrystal s.rest.memory).1 = .error why) (budget : RetryBudget)
    (patience : Nat) :
    ((parts.system load).startCrystal parts.cpu parts.pins budget).start patience s =
      .ok false (s.routed parts .takeCrystal) := by
  have hroute : (parts.pins.route .takeCrystal).start patience s =
      .ok (.error why) (s.routed parts .takeCrystal) := by
    rw [← h]
    rfl
  rw [ClockSystem.startCrystal, start_bind_ok hroute]
  rfl

/-- With its pins the crystal is waited for and then looked at once more. -/
theorem start_startCrystal_granted (h : (parts.route .takeCrystal s.rest.memory).1 = .ok ())
    (budget : RetryBudget) (patience : Nat) :
    ((parts.system load).startCrystal parts.cpu parts.pins budget).start patience s =
      (do
        parts.awaitCrystal load budget
        return !(← (parts.system load).port.lfxt1Faulted) : Run (Bench M) Bool).start patience
          ((s.routed parts .takeCrystal).selected (ClockModule.crystalBits load)) := by
  have hroute : (parts.pins.route .takeCrystal).start patience s =
      .ok (.ok ()) (s.routed parts .takeCrystal) := by
    rw [← h]
    rfl
  have hselect : ((parts.system load).port.write .bcsctl3 (Lfxt1Mode.crystal.bits |||
      (parts.system load).caps.xt1Load)).start patience (s.routed parts .takeCrystal) =
        .ok () ((s.routed parts .takeCrystal).selected (ClockModule.crystalBits load)) := rfl
  rw [ClockSystem.startCrystal, start_bind_ok hroute]
  cases budget with
  | rounds n => exact start_bind_ok hselect _
  | unlimited => exact start_bind_ok hselect _

def asked (enable : Bool) (budget : Int) : Bool := enable && budget ≠ 0

/-- The crystal is tried if its pins are asked for and granted. -/
def tried (enable : Bool) (budget : Int) (s : Bench M) : Bool :=
  asked enable budget && (parts.route .takeCrystal s.rest.memory).1.isOk

/-- What the call does between the two times that it clears the fault. -/
def search (enable : Bool) (budget : Int) : Run (Bench M) Bool :=
  if enable ∧ RetryBudget.ofInt budget ≠ .rounds 0 then
    (parts.system load).startCrystal parts.cpu parts.pins (.ofInt budget)
  else pure false

/-- What a search leaves. -/
structure Searched (enable : Bool) (budget : Int) (rounds : Nat) (running : Bool) (s t : Bench M) :
    Prop where
  calls : t.rest.calls = s.rest.calls ++ waits parts.caps.settleCycles rounds
  requests : t.rest.requests =
    s.rest.requests ++ if asked enable budget then [.takeCrystal] else []
  settings : t.trace.settings = s.trace.settings
  bcsctl3 : running = true → t.clock.bcsctl3 = ClockModule.crystalBits load
  accesses : t.accesses = s.accesses ++
    if parts.tried enable budget s then [.write .bcsctl3 (ClockModule.crystalBits load)] else []

variable {parts load} {enable : Bool} {budget : Int}

theorem search_eq_of_asked (h : asked enable budget = true) : parts.search load enable budget =
    (parts.system load).startCrystal parts.cpu parts.pins (.ofInt budget) := by
  simp only [asked, Bool.and_eq_true, decide_eq_true_eq] at h
  refine if_pos ⟨h.1, ?_⟩
  unfold RetryBudget.ofInt
  split
  · simp
  · simp only [ne_eq, RetryBudget.rounds.injEq]
    omega

theorem search_eq_of_not_asked (h : asked enable budget = false) :
    parts.search load enable budget = pure false := by
  refine if_neg ?_
  rintro ⟨rfl, hbudget⟩
  simp only [asked, Bool.true_and, decide_eq_false_iff_not, ne_eq, Decidable.not_not] at h
  exact hbudget (by rw [h]; rfl)

theorem tried_eq_true : parts.tried enable budget s = true ↔
    asked enable budget = true ∧ (parts.route .takeCrystal s.rest.memory).1 = .ok () := by
  rw [tried, Bool.and_eq_true]
  cases (parts.route .takeCrystal s.rest.memory).1 <;> simp [Except.isOk, Except.toBool]

/-- A search that is not skipped starts with the crystal selected. -/
def listening (parts : CrystalParts M) (load : UInt8) (s : Bench M) : Bench M :=
  (s.routed parts .takeCrystal).selected (ClockModule.crystalBits load)

theorem searched_afterRounds (h : parts.tried enable budget s = true) (rounds : Nat) (running : Bool) :
    parts.Searched load enable budget rounds running s
      ((listening parts load s).afterRounds parts rounds) := by
  have hsettled := Bench.settled_afterRounds parts rounds (listening parts load s)
  have hsettings := congrArg ClockTrace.settings hsettled.trace
  have hbits := congrArg ClockTrace.bcsctl3 hsettled.trace
  have haccesses := congrArg ClockTrace.accesses hsettled.trace
  refine ⟨hsettled.calls, ?_, hsettings, fun _ => ?_, ?_⟩
  · rw [hsettled.requests, (tried_eq_true.mp h).1]
    rfl
  · exact hbits.trans (ClockModule.bcsctl3_write_crystal s.clock load)
  · rw [h]
    exact haccesses

theorem start_search (h : parts.tried enable budget s = true) (patience : Nat) :
    (parts.search load enable budget).start patience s =
      (do
        parts.awaitCrystal load (.ofInt budget)
        return !(← (parts.system load).port.lfxt1Faulted) : Run (Bench M) Bool).start patience
          (listening parts load s) := by
  obtain ⟨hasked, hgranted⟩ := tried_eq_true.mp h
  rw [search_eq_of_asked hasked]
  exact start_startCrystal_granted parts load hgranted _ patience

/-- The last look tells the same as the last round. -/
theorem start_search_of_await (h : parts.tried enable budget s = true) {rounds patience : Nat}
    (hrounds : 1 ≤ rounds)
    (hawait : (parts.awaitCrystal load (.ofInt budget)).start patience (listening parts load s) =
      .ok () ((listening parts load s).afterRounds parts rounds)) :
    (parts.search load enable budget).start patience s =
      .ok (parts.history (s.rest.delays + rounds))
        ((listening parts load s).afterRounds parts rounds) := by
  have hsettled := Bench.settled_afterRounds parts rounds (listening parts load s)
  have hlistening : ((listening parts load s).afterRounds parts rounds).clock.Listening :=
    hsettled.listening (ClockModule.listening_write s.clock load)
  have hcrystal : ((listening parts load s).afterRounds parts rounds).clock.crystalRunning =
      parts.history (s.rest.delays + rounds) := hsettled.crystal hrounds
  rw [start_search h, start_bind_ok hawait]
  change EStateM.Result.ok (!((listening parts load s).afterRounds parts rounds).clock.faulted) _ = _
  rw [hlistening.faulted, Bool.not_not, hcrystal]

theorem search_takes_course (load : UInt8) {rounds patience : Nat} {running : Bool}
    (h : SearchCourse (parts.tried enable budget s) budget parts.history s.rest.delays rounds running)
    (hpatience : budget < 0 → rounds ≤ patience) :
    ∃ t, (parts.search load enable budget).start patience s = .ok running t ∧
      parts.Searched load enable budget rounds running s t := by
  have hlistening : (listening parts load s).clock.Listening :=
    ClockModule.listening_write s.clock load
  cases h with
  | up htried hup hbudget =>
    have hawait := start_await_up parts load hlistening hup hbudget hpatience
    refine ⟨_, ?_, searched_afterRounds htried rounds true⟩
    rw [start_search_of_await htried hup.counted hawait, hup.up]
  | spent htried hbudget hsome hdown =>
    subst hbudget
    have hawait := start_await_spent parts load hlistening hdown patience
    refine ⟨_, ?_, searched_afterRounds htried rounds false⟩
    rw [start_search_of_await htried hsome hawait,
      down_of_not_firstUp hdown rounds hsome (Nat.le_refl _)]
  | skipped htried =>
    -- either the call does not ask for the pins or the board refuses them
    cases hasked : asked enable budget with
    | false =>
      rw [search_eq_of_not_asked hasked]
      refine ⟨s, rfl, ?_, ?_, rfl, fun h => absurd h (by decide), ?_⟩
      · simp [waits]
      · simp [hasked]
      · simp [htried]
    | true =>
      cases hroute : (parts.route .takeCrystal s.rest.memory).1 with
      | ok granted =>
        rw [tried_eq_true.mpr ⟨hasked, hroute⟩] at htried
        contradiction
      | error why =>
        rw [search_eq_of_asked hasked, start_startCrystal_refused parts load hroute]
        refine ⟨_, rfl, ?_, ?_, rfl, fun h => absurd h (by decide), ?_⟩
        · simp [waits, Bench.routed]
        · simp [hasked, Bench.routed]
        · simp [htried, Bench.routed]

theorem search_forever (load : UInt8) (htried : parts.tried enable budget s = true)
    (hbudget : budget < 0) (h : ∀ j, ¬FirstUp parts.history s.rest.delays j) (patience : Nat) :
    ∃ t, (parts.search load enable budget).start patience s = .error .stuck t ∧
      parts.Searched load enable budget patience false s t := by
  have hlistening : (listening parts load s).clock.Listening :=
    ClockModule.listening_write s.clock load
  have hawait := start_await_forever parts load hlistening h hbudget patience
  refine ⟨_, ?_, searched_afterRounds htried patience false⟩
  rw [start_search htried, start_bind_error hawait]

/-! ## What a call leaves -/

/-- What the whole call leaves. BCSCTL3 is the only register that it writes to, and the pins are given
back once, after everything else that was asked for. -/
structure Left (parts : CrystalParts M) (load : UInt8) (enable : Bool) (budget : Int) (rounds : Nat)
    (running : Bool) (s t : Bench M) : Prop where
  calls : t.rest.calls = s.rest.calls ++ waits parts.caps.settleCycles rounds
  requests : t.rest.requests = s.rest.requests ++
    ((if asked enable budget then [.takeCrystal] else []) ++
      if running then [] else [.giveCrystalBack])
  settings : t.trace.settings = s.trace.settings
  bcsctl3 : t.clock.bcsctl3 =
    if running then ClockModule.crystalBits load else Lfxt1Mode.vlo.bits
  accesses : t.accesses = s.accesses ++ ([.clearFault] ++
    (if parts.tried enable budget s then [.write .bcsctl3 (ClockModule.crystalBits load)] else []) ++
    [.clearFault] ++ if running then [] else [.write .bcsctl3 Lfxt1Mode.vlo.bits])

/-- What a search is followed by. -/
def conclude (parts : CrystalParts M) (load : UInt8) (running : Bool) : Run (Bench M) Bool := do
  (parts.system load).port.clearFault
  unless running do
    discard (parts.pins.route .giveCrystalBack)
    (parts.system load).port.write .bcsctl3 Lfxt1Mode.vlo.bits
  return running

def concluded (parts : CrystalParts M) (running : Bool) (t : Bench M) : Bench M :=
  if running then t.cleared
  else (t.cleared.routed parts .giveCrystalBack).selected Lfxt1Mode.vlo.bits

theorem start_conclude (running : Bool) (t : Bench M) (patience : Nat) :
    (conclude parts load running).start patience t = .ok running (concluded parts running t) := by
  cases running <;> rfl

theorem start_bringUp (patience : Nat) : (parts.bringUp load enable budget).start patience s =
    (parts.search load enable budget >>= conclude parts load).start patience s.cleared := by
  have hclear : (parts.system load).port.clearFault.start patience s = .ok () s.cleared := rfl
  rw [bringUp, ClockSystem.configureCrystal, start_bind_ok hclear, search]
  dsimp only
  split <;> rfl

theorem left_concluded {rounds : Nat} {running : Bool} {t : Bench M}
    (h : parts.Searched load enable budget rounds running s.cleared t) :
    Left parts load enable budget rounds running s (concluded parts running t) := by
  have htried : parts.tried enable budget s.cleared = parts.tried enable budget s := rfl
  have haccesses := h.accesses
  have hrequests := h.requests
  rw [htried] at haccesses
  cases running with
  | true =>
    refine ⟨h.calls, ?_, h.settings, h.bcsctl3 rfl, ?_⟩
    · simp [concluded, Bench.cleared, hrequests]
    · simp [concluded, Bench.cleared, haccesses]
  | false =>
    refine ⟨h.calls, ?_, h.settings, rfl, ?_⟩
    · simp [concluded, Bench.cleared, Bench.routed, Bench.selected, hrequests]
    · simp [concluded, Bench.cleared, Bench.routed, Bench.selected, haccesses]

/-- Whatever the crystal does in the delays and whatever the pins answer, the call takes the rounds of
its course and tells how that ended. Only a crystal that never runs keeps a call without a limit from
ending: it is still waiting after as many rounds as anyone has the patience for. -/
theorem crystal_retries_budgeted (parts : CrystalParts M) (load : UInt8) (enable : Bool) (budget : Int)
    (s : Bench M) :
    ((∃ rounds running, SearchCourse (parts.tried enable budget s) budget parts.history s.rest.delays
        rounds running) ∨
      parts.tried enable budget s = true ∧ budget < 0 ∧
        ∀ j, ¬FirstUp parts.history s.rest.delays j) ∧
    (∀ rounds running patience,
      SearchCourse (parts.tried enable budget s) budget parts.history s.rest.delays rounds running →
      (budget < 0 → rounds ≤ patience) →
      ∃ t, (parts.bringUp load enable budget).start patience s = .ok running t ∧
        Left parts load enable budget rounds running s t) ∧
    (parts.tried enable budget s = true → budget < 0 →
      (∀ j, ¬FirstUp parts.history s.rest.delays j) → ∀ patience,
      ∃ t, (parts.bringUp load enable budget).start patience s = .error .stuck t ∧
        t.rest.calls = s.rest.calls ++ waits parts.caps.settleCycles patience) := by
  refine ⟨searchCourse_or_forever _ ?_ _ _, ?_, ?_⟩
  · intro htried
    have hasked := (tried_eq_true.mp htried).1
    simp only [asked, Bool.and_eq_true, decide_eq_true_eq] at hasked
    exact hasked.2
  · intro rounds running patience hcourse hpatience
    obtain ⟨t, hrun, hsearched⟩ := search_takes_course load (s := s.cleared) hcourse hpatience
    refine ⟨concluded parts running t, ?_, left_concluded hsearched⟩
    rw [start_bringUp, start_bind_ok hrun, start_conclude]
  · intro htried hbudget hnever patience
    obtain ⟨t, hrun, hsearched⟩ :=
      search_forever load (s := s.cleared) htried hbudget hnever patience
    refine ⟨t, ?_, hsearched.calls⟩
    rw [start_bringUp, start_bind_error hrun]

/-! ## A crystal that runs once -/

/-- The crystal runs behind the third delay alone. The board hands its pins over and does not take
them back. -/
def thirdTime : CrystalParts Unit where
  caps := {}
  serve _ _ := ()
  route request _ := (if request.enable then .ok () else .error .unsupported, ())
  history n := n == 3

def benchAfter (delays : Nat) : Bench Unit := ⟨{}, 1100000, [], ⟨delays, [], [], ()⟩⟩

theorem firstUp_thirdTime : FirstUp thirdTime.history 0 3 := by
  refine ⟨by decide, rfl, fun i hlow hi => ?_⟩
  obtain rfl | rfl : i = 1 ∨ i = 2 := by omega
  · rfl
  · rfl

/-- Three rounds find the crystal with the last one, two rounds do not, and behind the third delay no
number of them would. -/
theorem crystal_retries_budgeted_third_time :
    (∃ t, (thirdTime.bringUp 0xFF true 3).start 0 (benchAfter 0) = .ok true t ∧
      t.rest.calls = waits 20000 3 ∧ t.rest.requests = [.takeCrystal] ∧ t.clock.bcsctl3 = 0x0C) ∧
    (∃ t, (thirdTime.bringUp 0xFF true 2).start 0 (benchAfter 0) = .ok false t ∧
      t.rest.calls = waits 20000 2 ∧ t.rest.requests = [.takeCrystal, .giveCrystalBack] ∧
      t.clock.bcsctl3 = 0x20) ∧
    ∃ t, (thirdTime.bringUp 0xFF true (-1)).start 5 (benchAfter 3) = .error .stuck t ∧
      t.rest.calls = waits 20000 5 := by
  have htoolate : ∀ j ≤ 2, ¬FirstUp thirdTime.history 0 j := by
    intro j hj h
    have hup : 0 + j = 3 := by simpa [thirdTime] using h.up
    omega
  have hnever : ∀ j, ¬FirstUp thirdTime.history 3 j := by
    intro j h
    have hup : 3 + j = 3 := by simpa [thirdTime] using h.up
    have hcounted := h.counted
    omega
  obtain ⟨-, hthree, -⟩ := crystal_retries_budgeted thirdTime 0xFF true 3 (benchAfter 0)
  obtain ⟨-, htwo, -⟩ := crystal_retries_budgeted thirdTime 0xFF true 2 (benchAfter 0)
  obtain ⟨-, -, hforever⟩ := crystal_retries_budgeted thirdTime 0xFF true (-1) (benchAfter 3)
  obtain ⟨t, hrun, hleft⟩ := hthree 3 true 0 (.up rfl firstUp_thirdTime (.inr (by decide))) (by decide)
  obtain ⟨u, hspent, hgiven⟩ := htwo 2 false 0 (.spent rfl rfl (by decide) htoolate) (by decide)
  refine ⟨⟨t, hrun, hleft.calls, hleft.requests, hleft.bcsctl3⟩,
    ⟨u, hspent, hgiven.calls, hgiven.requests, hgiven.bcsctl3⟩, ?_⟩
  exact hforever rfl (by decide) hnever 5

end CrystalParts

end Msp430
