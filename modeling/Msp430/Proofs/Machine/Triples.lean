import Msp430.Machine.Cell

/-!
What holds where a run ends. A triple speaks of runs that answer and of runs that halt. Programs are
put together from allowed steps: what every step keeps, every program keeps, and since a step may
also halt, it holds wherever a program is cut short.
-/
namespace Msp430.Run

variable {σ τ α β : Type}

/-- From a state with `P`, the run answers in a state with `Q` or halts in a state with `E`. -/
def Triple (P : σ → Prop) (run : Run σ α) (Q : α → σ → Prop) (E : σ → Prop) : Prop :=
  ∀ patience s, P s →
    match run.start patience s with
    | .ok a t => Q a t
    | .error _ t => E t

/-- What holds of the answer, if there is one. -/
abbrev Ensures (P : σ → Prop) (run : Run σ α) (Q : α → σ → Prop) : Prop :=
  Triple P run Q fun _ => True

/-- `I` survives the run; a run that halts leaves `E` behind. -/
def Keeps (I E : σ → Prop) (run : Run σ α) : Prop := Triple I run (fun _ => I) E

/-- The run ends with an answer from wherever it starts. -/
def Answers (run : Run σ α) : Prop := ∀ patience s, ∃ a t, run.start patience s = .ok a t

/-- The run changes nothing of what the view shows. -/
def Leaves (view : σ → τ) (run : Run σ α) : Prop :=
  ∀ v, Keeps (fun s => view s = v) (fun s => view s = v) run

def finish (run : Run σ α) (patience : Nat) (s : σ) : σ :=
  match run.start patience s with
  | .ok _ t => t
  | .error _ t => t

def answer? (run : Run σ α) (patience : Nat) (s : σ) : Option α :=
  match run.start patience s with
  | .ok a _ => some a
  | .error _ _ => none

/-- Programs made of allowed steps. Each step may depend on the answers to those before it. -/
inductive Built (allowed : ∀ α : Type, Run σ α → Prop) : ∀ {α : Type}, Run σ α → Prop
  | done {α : Type} (a : α) : Built allowed (pure a)
  | step {α : Type} {run : Run σ α} : allowed α run → Built allowed run
  | andThen {α β : Type} {run : Run σ α} {next : α → Run σ β} :
      Built allowed run → (∀ a, Built allowed (next a)) → Built allowed (run >>= next)

variable {P R I J E : σ → Prop} {run : Run σ α}

theorem triple_of_start {Q : α → σ → Prop}
    (h : ∀ patience s, P s → ∃ a t, run.start patience s = .ok a t ∧ Q a t) :
    Triple P run Q E := by
  intro patience s hs
  obtain ⟨a, t, hrun, hq⟩ := h patience s hs
  simp only [hrun]
  exact hq

theorem Triple.of_start {Q : α → σ → Prop} {patience : Nat} {s t : σ} {a : α}
    (h : Triple P run Q E) (hs : P s) (hrun : run.start patience s = .ok a t) : Q a t := by
  have hr := h patience s hs
  rw [hrun] at hr
  exact hr

/-- A run that is never left to halt answers. -/
theorem Triple.answers {Q : α → σ → Prop} {s : σ} (h : Triple P run Q fun _ => False) (hs : P s)
    (patience : Nat) : ∃ a t, run.start patience s = .ok a t ∧ Q a t := by
  have hr := h patience s hs
  cases hrun : run.start patience s with
  | ok a t =>
    rw [hrun] at hr
    exact ⟨a, t, rfl, hr⟩
  | error why t =>
    rw [hrun] at hr
    exact hr.elim

/-- What follows a run ended with an answer only if the run did. -/
theorem start_ok_of_bind {next : α → Run σ β} {patience : Nat} {s t : σ} {b : β}
    (h : (run >>= next).start patience s = .ok b t) :
    ∃ a u, run.start patience s = .ok a u ∧ (next a).start patience u = .ok b t := by
  rw [start_bind] at h
  cases hrun : run.start patience s with
  | ok a u =>
    rw [hrun] at h
    exact ⟨a, u, rfl, h⟩
  | error why u =>
    rw [hrun] at h
    cases h

/-- A run that halts is not followed by anything. -/
theorem start_bind_error {patience : Nat} {s t : σ} {why : Halt}
    (h : run.start patience s = .error why t) (next : α → Run σ β) :
    (run >>= next).start patience s = .error why t := by
  simp only [start_bind, h]

theorem triple_of_forall {Q : α → σ → Prop} (hq : ∀ a s, Q a s) (he : ∀ s, E s) :
    Triple P run Q E := by
  intro patience s _
  cases run.start patience s with
  | ok a t => exact hq a t
  | error why t => exact he t

theorem ensures_anything (run : Run σ α) : Ensures (fun _ => True) run fun _ _ => True :=
  triple_of_forall (fun _ _ => trivial) fun _ => trivial

/-- What is known of no state in particular need not be carried along. -/
theorem triple_of_fact {fact : Prop} {Q : α → σ → Prop} (h : fact → Triple P run Q E) :
    Triple (fun s => fact ∧ P s) run Q E := fun patience s hs => h hs.1 patience s hs.2

theorem triple_pure {Q : α → σ → Prop} (a : α) (h : ∀ s, P s → Q a s) :
    Triple P (pure a : Run σ α) Q E := fun _ s hs => h s hs

theorem triple_throw {Q : α → σ → Prop} (why : Halt) (h : ∀ s, P s → E s) :
    Triple P (throw why : Run σ α) Q E := fun _ s hs => h s hs

theorem Triple.bind {Q : α → σ → Prop} {S : β → σ → Prop} {next : α → Run σ β}
    (h : Triple P run Q E) (k : ∀ a, Triple (Q a) (next a) S E) :
    Triple P (run >>= next) S E := by
  intro patience s hs
  have hr := h patience s hs
  rw [start_bind]
  cases hrun : run.start patience s with
  | ok a t =>
    simp only [hrun] at hr
    exact k a patience t hr
  | error why t =>
    simp only [hrun] at hr
    exact hr

theorem Triple.map {Q : α → σ → Prop} {S : β → σ → Prop} (f : α → β)
    (h : Triple P run Q E) (k : ∀ a s, Q a s → S (f a) s) : Triple P (f <$> run) S E := by
  rw [← bind_pure_comp]
  exact h.bind fun a => triple_pure _ fun s hq => k a s hq

theorem discard_eq_map (run : Run σ α) : discard run = (fun _ => ()) <$> run := by
  simp only [discard, Functor.discard, LawfulFunctor.map_const, Function.comp_def]

theorem Triple.discard (h : Triple P run (fun _ => R) E) :
    Triple P (discard run) (fun _ => R) E := by
  rw [discard_eq_map]
  exact h.map _ fun _ _ hs => hs

theorem Triple.mono {Q Q' : α → σ → Prop} {E' : σ → Prop} (h : Triple P run Q E)
    (hp : ∀ s, R s → P s) (hq : ∀ a s, Q a s → Q' a s) (he : ∀ s, E s → E' s) :
    Triple R run Q' E' := by
  intro patience s hs
  have hr := h patience s (hp s hs)
  cases hrun : run.start patience s with
  | ok a t =>
    simp only [hrun] at hr ⊢
    exact hq a t hr
  | error why t =>
    simp only [hrun] at hr ⊢
    exact he t hr

theorem Triple.of_imp {Q : α → σ → Prop} (h : Triple P run Q E) (hp : ∀ s, R s → P s) :
    Triple R run Q E := h.mono hp (fun _ _ hq => hq) (fun _ he => he)

theorem Triple.weaken {Q Q' : α → σ → Prop} (h : Triple P run Q E)
    (hq : ∀ a s, Q a s → Q' a s) : Triple P run Q' E :=
  h.mono (fun _ hp => hp) hq (fun _ he => he)

theorem Triple.and {R' : σ → Prop} {Q Q' : α → σ → Prop} (h : Triple P run Q E)
    (h' : Ensures R' run Q') : Triple (fun s => P s ∧ R' s) run (fun a s => Q a s ∧ Q' a s) E := by
  intro patience s hs
  have hr := h patience s hs.1
  have hr' := h' patience s hs.2
  cases hrun : run.start patience s with
  | ok a t =>
    simp only [hrun] at hr hr' ⊢
    exact ⟨hr, hr'⟩
  | error why t =>
    simp only [hrun] at hr ⊢
    exact hr

theorem triple_read {c : Cell σ τ} {Q : τ → σ → Prop} (h : ∀ s, P s → Q (c.get s) s) :
    Triple P c.read Q E := fun _ s hs => h s hs

theorem triple_update {c : Cell σ τ} {f : τ → τ} {Q : Unit → σ → Prop}
    (h : ∀ s, P s → Q () (c.set (f (c.get s)) s)) : Triple P (c.update f) Q E :=
  fun _ s hs => h s hs

/-- A loop keeps its invariant and ends with what a last step establishes. -/
theorem triple_loopWithin {step : α → Run σ (Progress α β)} {J : α → σ → Prop}
    {Q : β → σ → Prop} (stuck : ∀ a s, J a s → E s)
    (h : ∀ a, Triple (J a) (step a) (fun outcome s =>
      match outcome with
      | .again next => J next s
      | .finished result => Q result s) E) (n : Nat) (a : α) :
    Triple (J a) (loopWithin step n a) Q E := by
  induction n generalizing a with
  | zero => exact triple_throw _ (stuck a)
  | succ n ih =>
    refine (h a).bind fun outcome => ?_
    cases outcome with
    | again next => exact ih next
    | finished result => exact triple_pure _ fun _ hq => hq

theorem triple_loop {step : α → Run σ (Progress α β)} {J : α → σ → Prop} {Q : β → σ → Prop}
    (stuck : ∀ a s, J a s → E s)
    (h : ∀ a, Triple (J a) (step a) (fun outcome s =>
      match outcome with
      | .again next => J next s
      | .finished result => Q result s) E) (a : α) : Triple (J a) (loop step a) Q E := by
  intro patience s hs
  exact triple_loopWithin stuck h patience a patience s hs

theorem start_loopWithin_again {step : α → Run σ (Progress α β)} {a next : α} {patience : Nat}
    {s t : σ} (h : (step a).start patience s = .ok (.again next) t) (n : Nat) :
    (loopWithin step (n + 1) a).start patience s = (loopWithin step n next).start patience t := by
  rw [loopWithin, start_bind_ok h]

theorem start_loopWithin_finished {step : α → Run σ (Progress α β)} {a : α} {result : β}
    {patience : Nat} {s t : σ} (h : (step a).start patience s = .ok (.finished result) t)
    (n : Nat) :
    (loopWithin step (n + 1) a).start patience s = .ok result t := by
  rw [loopWithin, start_bind_ok h]
  rfl

/-- A condition that is met at once is not waited for. -/
theorem start_poll_met {condition : Run σ Bool} {patience : Nat} {s t : σ}
    (h : condition.start patience s = .ok true t) (hpatience : 0 < patience) :
    (poll condition).start patience s = .ok () t := by
  obtain ⟨polls, rfl⟩ := Nat.exists_eq_succ_of_ne_zero (Nat.ne_of_gt hpatience)
  have hstep : (do return if ← condition then Progress.finished () else Progress.again () :
      Run σ (Progress Unit Unit)).start (polls + 1) s = .ok (.finished ()) t := by
    rw [start_bind_ok h]
    rfl
  change (loopWithin (fun _ => _) (polls + 1) ()).start (polls + 1) s = _
  exact start_loopWithin_finished hstep polls

theorem answers_pure (a : α) : (pure a : Run σ α).Answers := fun _ s => ⟨a, s, rfl⟩

theorem Answers.bind {next : α → Run σ β} (h : run.Answers) (k : ∀ a, (next a).Answers) :
    (run >>= next).Answers := by
  intro patience s
  obtain ⟨a, t, hrun⟩ := h patience s
  rw [start_bind_ok hrun]
  exact k a patience t

theorem Answers.map (h : run.Answers) (f : α → β) : (f <$> run).Answers := by
  rw [← bind_pure_comp]
  exact h.bind fun a => answers_pure (f a)

theorem answers_read (c : Cell σ τ) : c.read.Answers := fun _ s => ⟨c.get s, s, rfl⟩

theorem answers_write (c : Cell σ τ) (value : τ) : (c.write value).Answers :=
  fun _ s => ⟨(), c.set value s, rfl⟩

theorem answers_update (c : Cell σ τ) (f : τ → τ) : (c.update f).Answers :=
  fun _ s => ⟨(), c.set (f (c.get s)) s, rfl⟩

/-! ## Steps that can be refused -/

section Refusals

variable {ε : Type}

theorem run_liftM_bind (run : Run σ α) (next : α → ExceptT ε (Run σ) β) :
    ((liftM run : ExceptT ε (Run σ) α) >>= next).run = run >>= fun a => (next a).run := by
  simp [ExceptT.run_bind]

theorem run_liftM (run : Run σ α) : (liftM run : ExceptT ε (Run σ) α).run = .ok <$> run := by
  simp

theorem run_discard_bind (run : Run σ α) (next : Unit → ExceptT ε (Run σ) β) :
    (discard (liftM run : ExceptT ε (Run σ) α) >>= next).run = run >>= fun _ => (next ()).run := by
  simp [discard, Functor.discard, ExceptT.run_bind, LawfulFunctor.map_const]

theorem run_adapt_bind {ε' : Type} (f : ε → ε') (steps : ExceptT ε (Run σ) α)
    (next : α → ExceptT ε' (Run σ) β) :
    (ExceptT.adapt f steps >>= next).run = (do
      match ← steps.run with
      | .error why => return .error (f why)
      | .ok a => (next a).run) := by
  rw [ExceptT.run_bind, show (ExceptT.adapt f steps).run = Except.mapError f <$> steps.run from rfl,
    bind_map_left]
  congr 1
  funext answer
  cases answer <;> rfl

/-- What follows a step that can be refused runs only if it is not. -/
theorem Triple.run_bind {steps : ExceptT ε (Run σ) α} {next : α → ExceptT ε (Run σ) β}
    {Q : α → σ → Prop} {S : Except ε β → σ → Prop}
    (h : Triple P steps.run (fun answer s =>
      match answer with
      | .ok a => Q a s
      | .error why => S (.error why) s) E)
    (k : ∀ a, Triple (Q a) (next a).run S E) : Triple P (steps >>= next).run S E := by
  rw [ExceptT.run_bind]
  refine Triple.bind h fun answer => ?_
  cases answer with
  | ok a => exact k a
  | error why => exact triple_pure _ fun _ hs => hs

end Refusals

/-! ## Invariants -/

theorem keeps_pure (a : α) : Keeps I E (pure a : Run σ α) := triple_pure a fun _ h => h

theorem Keeps.bind {next : α → Run σ β} (h : Keeps I E run) (k : ∀ a, Keeps I E (next a)) :
    Keeps I E (run >>= next) := Triple.bind h k

/-- An invariant that the condition keeps survives the wait for it. -/
theorem Keeps.poll {condition : Run σ Bool} (hie : ∀ s, I s → E s) (h : Keeps I E condition) :
    Keeps I E (Run.poll condition) := by
  refine triple_loop (J := fun _ => I) (fun _ => hie) (fun _ => ?_) ()
  refine Triple.bind h fun met => triple_pure _ fun _ hs => ?_
  cases met <;> exact hs

theorem Keeps.upTo {condition : Run σ Bool} (h : Keeps I E condition) (n : Nat) :
    Keeps I E (Run.upTo condition n) := by
  induction n with
  | zero => exact keeps_pure ()
  | succ n ih =>
    apply h.bind
    intro met
    cases met with
    | true => exact keeps_pure ()
    | false => exact ih

/-- What answers and halts leave behind alike holds wherever the run ends. -/
theorem Triple.finish {Q : α → σ → Prop} {patience : Nat} {s : σ} (h : Triple P run Q E)
    (hq : ∀ a s, Q a s → E s) (hs : P s) : E (run.finish patience s) := by
  have hr := h patience s hs
  unfold Run.finish
  cases hrun : run.start patience s with
  | ok a t =>
    simp only [hrun] at hr ⊢
    exact hq a t hr
  | error why t =>
    simp only [hrun] at hr ⊢
    exact hr

theorem Keeps.finish {patience : Nat} {s : σ} (h : Keeps I E run) (hie : ∀ s, I s → E s)
    (hs : I s) : E (run.finish patience s) := Triple.finish h (fun _ => hie) hs

theorem keeps_built {allowed : ∀ α : Type, Run σ α → Prop}
    (h : ∀ α (run : Run σ α), allowed α run → Keeps I E run) (hp : Built allowed run) :
    Keeps I E run := by
  induction hp with
  | done a => exact keeps_pure a
  | step hs => exact h _ _ hs
  | andThen _ _ ih₁ ih₂ => exact ih₁.bind ih₂

theorem finish_of_start {patience : Nat} {s t : σ} {a : α} (h : run.start patience s = .ok a t) :
    run.finish patience s = t := by
  rw [finish, h]

theorem start_of_answer {patience : Nat} {s : σ} {a : α} (h : run.answer? patience s = some a) :
    run.start patience s = .ok a (run.finish patience s) := by
  unfold answer? at h
  unfold finish
  cases hrun : run.start patience s with
  | ok b t =>
    rw [hrun] at h
    rw [Option.some.inj h]
  | error why t =>
    rw [hrun] at h
    cases h

theorem finish_congr {other : Run σ α} {patience : Nat} {s t : σ}
    (h : run.start patience s = other.start patience t) :
    run.finish patience s = other.finish patience t := by
  rw [finish, finish, h]

theorem finish_bind {next : α → Run σ β} {patience : Nat} {s t : σ} {a : α}
    (h : run.start patience s = .ok a t) :
    (run >>= next).finish patience s = (next a).finish patience t :=
  finish_congr (start_bind_ok h next)

/-! ## Views -/

theorem Leaves.keeps_of_congr {view : σ → τ} (h : Leaves view run)
    (hi : ∀ s t, view t = view s → I s → I t) (hie : ∀ s, I s → E s) : Keeps I E run := by
  intro patience s hs
  refine (h (view s)).mono (R := fun t => t = s) (fun t ht => by rw [ht])
    (fun _ t ht => ?_) (fun t ht => ?_) patience s rfl
  · exact hi s t ht hs
  · exact hie t (hi s t ht hs)

/-- A run that always answers need not keep the invariant where it halts. -/
theorem Leaves.keeps_of_answers {view : σ → τ} (h : Leaves view run) (ha : run.Answers)
    (hi : ∀ s t, view t = view s → I s → I t) : Keeps I E run := by
  apply triple_of_start
  intro patience s hs
  obtain ⟨a, t, hrun⟩ := ha patience s
  have ht : view t = view s :=
    Triple.of_start (Q := fun _ t => view t = view s) (h (view s)) rfl hrun
  exact ⟨a, t, hrun, hi s t ht hs⟩

theorem Leaves.keeps {view : σ → τ} (h : Leaves view run) {I E : τ → Prop}
    (hie : ∀ v, I v → E v) : Keeps (fun s => I (view s)) (fun s => E (view s)) run :=
  h.keeps_of_congr (fun _ _ ht hs => by rw [ht]; exact hs) fun _ => hie _

theorem Leaves.finish {view : σ → τ} (h : Leaves view run) (patience : Nat) (s : σ) :
    view (run.finish patience s) = view s := Keeps.finish (h (view s)) (fun _ ht => ht) rfl

theorem leaves_pure (view : σ → τ) (a : α) : Leaves view (pure a : Run σ α) :=
  fun _ => keeps_pure a

/-- What depends on less is left alone, too. -/
theorem Leaves.map {υ : Type} {view : σ → τ} (h : Leaves view run) (f : τ → υ) :
    Leaves (fun s => f (view s)) run :=
  fun v => h.keeps (I := fun w => f w = v) (E := fun w => f w = v) fun _ hw => hw

theorem Leaves.bind {view : σ → τ} {next : α → Run σ β} (h : Leaves view run)
    (k : ∀ a, Leaves view (next a)) : Leaves view (run >>= next) :=
  fun v => (h v).bind fun a => k a v

theorem Leaves.poll {view : σ → τ} {condition : Run σ Bool} (h : Leaves view condition) :
    Leaves view (poll condition) := fun v => (h v).poll fun _ hs => hs

theorem Leaves.times {view : σ → τ} {action : Run σ Unit} (h : Leaves view action) (n : Nat) :
    Leaves view (times action n) := by
  induction n with
  | zero => exact leaves_pure view ()
  | succ n ih => exact h.bind fun _ => ih

theorem Leaves.ensures {view : σ → τ} (h : Leaves view run) (v : τ) :
    Ensures (fun s => view s = v) run fun _ s => view s = v :=
  (h v).mono (fun _ hs => hs) (fun _ _ hs => hs) fun _ _ => trivial

end Msp430.Run
