import Msp430.Cpu.Watchdog
import Msp430.Proofs.Machine.Bits
import Msp430.Proofs.Machine.Triples

/-!
The watchdog over a run. Every order but a start changes some bits of a register that reads back
neither the password nor, for certain, the bit that clears the count. Which clock and which interval
are selected is therefore nowhere kept but in that register, and what an order leaves there depends
on what it reads.
-/
namespace Msp430.Watchdog

variable {σ : Type}

/-! ## The register -/

/-- The lower byte without the bit that clears the count. -/
def settings : UInt16 := 0x00F7

def select : UInt16 := aclkSelect ||| intervalSelect.mask

def upper : UInt16 := 0xFF00

/-- What a read shows of the value that was written: its settings, and nothing of its upper byte.
The bit that clears the count may have fallen back to zero. -/
structure ReadsAs (bits value : UInt16) : Prop where
  settings : bits &&& settings = value &&& settings
  clearCount : anyBits clearCount bits → anyBits clearCount value

/-- A register that shows what was written to it last. The view lists the writes, the last one
first. -/
structure Remembers (w : WatchdogPort σ) (written : σ → List UInt16) : Prop where
  write : ∀ value patience s, ∃ t, (w.write value).start patience s = .ok () t ∧
    written t = value :: written s
  read : ∀ value earlier patience s, written s = value :: earlier →
    ∃ bits t, w.read.start patience s = .ok bits t ∧ written t = written s ∧ ReadsAs bits value

theorem ReadsAs.and_eq {bits value mask : UInt16} (h : ReadsAs bits value)
    (hmask : Watchdog.settings &&& mask = mask) : bits &&& mask = value &&& mask := by
  rw [← hmask, ← UInt16.and_assoc, h.settings, UInt16.and_assoc]

theorem ReadsAs.anyBits_eq {bits value mask : UInt16} (h : ReadsAs bits value)
    (hmask : Watchdog.settings &&& mask = mask) : anyBits mask bits = anyBits mask value := by
  simp only [anyBits, h.and_eq hmask]

/-- The password covers the upper byte and nothing else. -/
theorem password_or_and {mask : UInt16} (hmask : password &&& mask = 0) (value : UInt16) :
    (password ||| value) &&& mask = value &&& mask := by
  rw [and_or_distrib, hmask, UInt16.zero_or]

theorem password_or_upper {value : UInt16} (h : value &&& upper = 0) :
    (password ||| value) &&& upper = password := by
  rw [and_or_distrib, h, UInt16.or_zero]
  rfl

/-! ## Orders -/

inductive Order where
  | start (clock : WatchdogClock) (interval : WatchdogInterval)
  | hold
  | feed
  | askHeld
  | askMode
  | askInterval
  deriving DecidableEq, Repr

def perform (w : WatchdogPort σ) : Order → Run σ Unit
  | .start clock interval => w.start clock interval
  | .hold => w.stop
  | .feed => w.feed
  | .askHeld => discard w.isHeld
  | .askMode => discard w.isIntervalMode
  | .askInterval => discard w.interval

def performAll (w : WatchdogPort σ) : List Order → Run σ Unit
  | [] => return ()
  | order :: rest => do
    perform w order
    performAll w rest

/-- Whether the count stands still after a history, its latest order first. -/
def heldAfter : List Order → Bool
  | [] => true
  | .start _ _ :: _ => false
  | .hold :: _ => true
  | _ :: earlier => heldAfter earlier

/-- The clock and the interval of the latest start. -/
def startedAfter : List Order → WatchdogClock × WatchdogInterval
  | [] => (.smclk, .cycles32768)
  | .start clock interval :: _ => (clock, interval)
  | _ :: earlier => startedAfter earlier

def selection : WatchdogClock × WatchdogInterval → UInt16
  | (.smclk, interval) => interval.code
  | (.aclk, interval) => aclkSelect ||| interval.code

/-- What an order adds to the writes, the last one first. Only a start chooses a clock and an
interval; feeding and holding take over those of the last write. -/
def Wrote (order : Order) (before after : List UInt16) : Prop :=
  match order with
  | .start clock interval =>
    ∃ value, after = value :: before ∧ anyBits clearCount value ∧
      value &&& select = selection (clock, interval)
  | .feed =>
    ∃ value, after = value :: before ∧ anyBits clearCount value ∧
      ∀ last ∈ before.head?, value &&& select = last &&& select
  | .hold =>
    ∃ value, after = value :: before ∧ anyBits hold value ∧
      ∀ last ∈ before.head?, value &&& select = last &&& select
  | .askHeld | .askMode | .askInterval => after = before

/-! ## One order -/

/-- What the last write of a history holds. -/
structure Settled (history : List Order) (value : UInt16) : Prop where
  password : value &&& upper = password
  held : anyBits Watchdog.hold value = heldAfter history
  mode : anyBits intervalMode value = false
  select : value &&& select = selection (startedAfter history)

theorem settled_constrain : Settled [] (password ||| hold) := by
  constructor <;> decide

theorem selection_interval (choice : WatchdogClock × WatchdogInterval) :
    WatchdogInterval.ofCode (intervalSelect.extract (selection choice)) = choice.2 := by
  obtain ⟨clock, interval⟩ := choice
  cases clock <;> cases interval <;> decide

/-- What a start writes does not depend on what was there. -/
theorem settled_start (history : List Order) (clock : WatchdogClock) (interval : WatchdogInterval) :
    Settled (.start clock interval :: history)
      (password ||| ((match clock with
        | .smclk => 0
        | .aclk => aclkSelect) ||| clearCount ||| interval.code)) := by
  cases clock <;> cases interval <;> constructor <;> simp only [heldAfter, startedAfter] <;> decide

section Change

variable {history : List Order} {bits value mask : UInt16}

/-- Bits outside of the mask, the password and the bit that clears the count stay as written. -/
theorem and_change (hread : ReadsAs bits value) {kept : UInt16}
    (hsettings : settings &&& kept = kept) (hmask : mask &&& kept = 0) :
    (password ||| setBits mask (bits &&& control)) &&& kept = value &&& kept := by
  have hcontrol : control &&& kept = kept := by
    rw [← hsettings, ← UInt16.and_assoc]
    rfl
  have hpassword : password &&& kept = 0 := by
    rw [← hsettings, ← UInt16.and_assoc]
    exact UInt16.zero_and
  rw [password_or_and hpassword, setBits_and hmask, UInt16.and_assoc, hcontrol,
    hread.and_eq hsettings]

theorem anyBits_change (hread : ReadsAs bits value) {kept : UInt16}
    (hsettings : settings &&& kept = kept) (hmask : mask &&& kept = 0) :
    anyBits kept (password ||| setBits mask (bits &&& control)) = anyBits kept value := by
  simp only [anyBits, and_change hread hsettings hmask]

theorem anyBits_change_mask (hmask : mask ≠ 0) (hpassword : password &&& mask = 0) :
    anyBits mask (password ||| setBits mask (bits &&& control)) = true := by
  simp only [anyBits, password_or_and hpassword]
  exact anyBits_set_self hmask (bits &&& control)

theorem upper_change (hmask : mask &&& upper = 0) :
    (password ||| setBits mask (bits &&& control)) &&& upper = password := by
  apply password_or_upper
  rw [setBits_and hmask, UInt16.and_assoc]
  exact UInt16.and_zero

theorem settled_feed (h : Settled history value) (hread : ReadsAs bits value) :
    Settled (.feed :: history) (password ||| setBits clearCount (bits &&& control)) := by
  constructor
  · exact upper_change rfl
  · rw [anyBits_change hread rfl rfl]
    exact h.held
  · rw [anyBits_change hread rfl rfl]
    exact h.mode
  · rw [and_change hread rfl rfl]
    exact h.select

theorem settled_hold (h : Settled history value) (hread : ReadsAs bits value) :
    Settled (.hold :: history) (password ||| setBits hold (bits &&& control)) := by
  constructor
  · exact upper_change rfl
  · exact anyBits_change_mask (by decide) rfl
  · rw [anyBits_change hread rfl rfl]
    exact h.mode
  · rw [and_change hread rfl rfl]
    exact h.select

end Change

variable {w : WatchdogPort σ} {written : σ → List UInt16}

/-- The writes since the watchdog was taken over, and what the last of them holds. -/
def Standing (written : σ → List UInt16) (before : List UInt16) (history : List Order) (s : σ) :
    Prop :=
  ∃ value earlier, written s = value :: (earlier ++ before) ∧ Settled history value ∧
    ∀ other ∈ earlier, other &&& upper = password

theorem Standing.write {before : List UInt16} {history : List Order} {order : Order} {s t : σ}
    {value : UInt16} (h : Standing written before history s)
    (hsettled : Settled (order :: history) value) (ht : written t = value :: written s) :
    Standing written before (order :: history) t := by
  obtain ⟨last, earlier, hs, hlast, hearlier⟩ := h
  refine ⟨value, last :: earlier, ?_, hsettled, ?_⟩
  · rw [ht, hs, List.cons_append]
  · intro other hother
    rcases List.mem_cons.mp hother with rfl | hother
    · exact hlast.password
    · exact hearlier other hother

theorem start_change (h : Remembers w written) {s : σ} {value : UInt16} {earlier : List UInt16}
    (hs : written s = value :: earlier) (f : UInt16 → UInt16) (patience : Nat) :
    ∃ bits t, (w.change f).start patience s = .ok () t ∧ ReadsAs bits value ∧
      written t = (password ||| f (bits &&& control)) :: written s := by
  obtain ⟨bits, mid, hread, hmid, hbits⟩ := h.read value earlier patience s hs
  obtain ⟨t, hwrite, ht⟩ := h.write (password ||| f (bits &&& control)) patience mid
  refine ⟨bits, t, ?_, hbits, by rw [ht, hmid]⟩
  rw [WatchdogPort.change, Run.start_bind_ok hread]
  exact hwrite

/-- A question is answered from the last write and adds none. -/
theorem start_ask (h : Remembers w written) {α : Type} {s : σ} {value : UInt16}
    {earlier : List UInt16} (hs : written s = value :: earlier) (f : UInt16 → α) (patience : Nat) :
    ∃ bits t, (do return f (← w.read) : Run σ α).start patience s = .ok (f bits) t ∧
      ReadsAs bits value ∧ written t = written s := by
  obtain ⟨bits, t, hread, ht, hbits⟩ := h.read value earlier patience s hs
  refine ⟨bits, t, ?_, hbits, ht⟩
  rw [Run.start_bind_ok hread]
  rfl

theorem start_discard {α : Type} {run : Run σ α} {patience : Nat} {s t : σ} {a : α}
    (h : run.start patience s = .ok a t) : (discard run).start patience s = .ok () t := by
  simp only [Run.discard_eq_map, Run.start_map, h]

theorem start_perform (h : Remembers w written) {before : List UInt16} {history : List Order}
    {s : σ} (hs : Standing written before history s) (order : Order) (patience : Nat) :
    ∃ t, (perform w order).start patience s = .ok () t ∧ Wrote order (written s) (written t) ∧
      Standing written before (order :: history) t := by
  obtain ⟨value, earlier, hw, hsettled, hearlier⟩ := id hs
  -- A question leaves the writes as they are, so the last one holds what the history asks for.
  have ask {α : Type} (f : UInt16 → α) : ∃ t,
      (discard (do return f (← w.read) : Run σ α)).start patience s = .ok () t ∧
        written t = written s := by
    obtain ⟨bits, t, hrun, -, ht⟩ := start_ask h hw f patience
    exact ⟨t, start_discard hrun, ht⟩
  have unasked {t : σ} {order : Order} (ht : written t = written s)
      (hsame : Settled (order :: history) value) : Standing written before (order :: history) t :=
    ⟨value, earlier, ht.trans hw, hsame, hearlier⟩
  have head {mask bits : UInt16} (hread : ReadsAs bits value) (hmask : mask &&& select = 0) :
      ∀ last ∈ (written s).head?,
        (password ||| setBits mask (bits &&& control)) &&& select = last &&& select := by
    intro last hlast
    rw [hw, List.head?_cons, Option.mem_some_iff] at hlast
    rw [← hlast]
    exact and_change hread rfl hmask
  cases order with
  | start clock interval =>
    obtain ⟨bits, t, hrun, -, ht⟩ := start_change h hw (fun _ => (match clock with
      | .smclk => 0
      | .aclk => aclkSelect) ||| clearCount ||| interval.code) patience
    have hnew := settled_start history clock interval
    refine ⟨t, hrun, ⟨_, ht, ?_, hnew.select⟩, hs.write hnew ht⟩
    cases clock <;> cases interval <;> decide
  | hold =>
    obtain ⟨bits, t, hrun, hread, ht⟩ := start_change h hw (setBits hold) patience
    refine ⟨t, hrun, ⟨_, ht, ?_, head hread rfl⟩, hs.write (settled_hold hsettled hread) ht⟩
    exact anyBits_change_mask (by decide) rfl
  | feed =>
    obtain ⟨bits, t, hrun, hread, ht⟩ := start_change h hw (setBits clearCount) patience
    refine ⟨t, hrun, ⟨_, ht, ?_, head hread rfl⟩, hs.write (settled_feed hsettled hread) ht⟩
    exact anyBits_change_mask (by decide) rfl
  | askHeld =>
    obtain ⟨t, hrun, ht⟩ := ask (anyBits hold)
    exact ⟨t, hrun, ht, unasked ht { hsettled with }⟩
  | askMode =>
    obtain ⟨t, hrun, ht⟩ := ask (anyBits intervalMode)
    exact ⟨t, hrun, ht, unasked ht { hsettled with }⟩
  | askInterval =>
    obtain ⟨t, hrun, ht⟩ := ask fun bits => WatchdogInterval.ofCode (intervalSelect.extract bits)
    exact ⟨t, hrun, ht, unasked ht { hsettled with }⟩

/-! ## A run of orders -/

theorem start_performAll (h : Remembers w written) {before : List UInt16} (orders : List Order)
    (patience : Nat) {history : List Order} {s : σ} (hs : Standing written before history s) :
    ∃ t, (performAll w orders).start patience s = .ok () t ∧
      Standing written before (orders.reverse ++ history) t := by
  induction orders generalizing history s with
  | nil => exact ⟨s, rfl, hs⟩
  | cons order rest ih =>
    obtain ⟨mid, hrun, -, hmid⟩ := start_perform h hs order patience
    obtain ⟨t, hrest, ht⟩ := ih hmid
    refine ⟨t, ?_, ?_⟩
    · rw [performAll, Run.start_bind_ok hrun]
      exact hrest
    · rw [List.reverse_cons, List.append_assoc]
      exact ht

/-- What is seen of the watchdog after a history of orders, the latest first, if `before` had been
written when it was taken over. -/
structure Observed (w : WatchdogPort σ) (written : σ → List UInt16) (before : List UInt16)
    (history : List Order) (s : σ) : Prop where
  passwords : ∃ values, written s = values ++ before ∧ ∀ value ∈ values, value &&& upper = password
  selected : (written s).head?.map (· &&& select) = some (selection (startedAfter history))
  held : ∀ patience, w.isHeld.answer? patience s = some (heldAfter history)
  mode : ∀ patience, w.isIntervalMode.answer? patience s = some false
  interval : ∀ patience, w.interval.answer? patience s = some (startedAfter history).2
  next : ∀ order patience, ∃ t, (perform w order).start patience s = .ok () t ∧
    Wrote order (written s) (written t)

theorem Standing.observed (h : Remembers w written) {before : List UInt16} {history : List Order}
    {s : σ} (hs : Standing written before history s) : Observed w written before history s := by
  obtain ⟨value, earlier, hw, hsettled, hearlier⟩ := id hs
  have answer {α : Type} (f : UInt16 → α) {a : α} (hf : ∀ bits, ReadsAs bits value → f bits = a)
      (patience : Nat) : (do return f (← w.read) : Run σ α).answer? patience s = some a := by
    obtain ⟨bits, t, hrun, hbits, -⟩ := start_ask h hw f patience
    rw [Run.answer?, hrun, hf bits hbits]
  constructor
  case passwords =>
    refine ⟨value :: earlier, by rw [hw, List.cons_append], ?_⟩
    intro other hother
    rcases List.mem_cons.mp hother with rfl | hother
    · exact hsettled.password
    · exact hearlier other hother
  case selected =>
    rw [hw, List.head?_cons, Option.map_some, hsettled.select]
  case held =>
    apply answer (anyBits hold)
    intro bits hbits
    rw [hbits.anyBits_eq rfl, hsettled.held]
  case mode =>
    apply answer (anyBits intervalMode)
    intro bits hbits
    rw [hbits.anyBits_eq rfl, hsettled.mode]
  case interval =>
    apply answer fun bits => WatchdogInterval.ofCode (intervalSelect.extract bits)
    intro bits hbits
    have hmask : bits &&& intervalSelect.mask =
        selection (startedAfter history) &&& intervalSelect.mask := by
      rw [hbits.and_eq rfl, ← hsettled.select, UInt16.and_assoc]
      rfl
    rw [← selection_interval (startedAfter history)]
    simp only [Field.extract, hmask]
  case next =>
    intro order patience
    obtain ⟨t, hrun, hwrote, -⟩ := start_perform h hs order patience
    exact ⟨t, hrun, hwrote⟩

/-- Whatever is ordered after the watchdog has been taken over, every write carries the password,
the clock and the interval are those of the latest start and the count is held unless a start came
after the last hold. -/
theorem watchdog_settings_kept (h : Remembers w written) (orders : List Order) (patience : Nat)
    (s : σ) :
    ∃ t, (do w.constrain; performAll w orders).start patience s = .ok () t ∧
      Observed w written (written s) orders.reverse t := by
  obtain ⟨mid, hconstrain, hmid⟩ := h.write (password ||| hold) patience s
  have hstanding : Standing written (written s) [] mid :=
    ⟨_, [], hmid, settled_constrain, fun _ hother => absurd hother List.not_mem_nil⟩
  obtain ⟨t, hrun, ht⟩ := start_performAll h orders patience hstanding
  rw [List.append_nil] at ht
  refine ⟨t, ?_, ht.observed h⟩
  rw [WatchdogPort.constrain, Run.start_bind_ok hconstrain]
  exact hrun

/-- A register with the upper byte of the device, whose bit that clears the count reads as zero. -/
def memoryPort : WatchdogPort (List UInt16) where
  read := do return 0x6900 ||| ((← get).headD 0 &&& settings)
  write value := modify (value :: ·)

theorem memoryPort_remembers : Remembers memoryPort id where
  write value _ s := ⟨value :: s, rfl, rfl⟩
  read value earlier _ s hs := by
    have hs : s = value :: earlier := hs
    refine ⟨0x6900 ||| (value &&& settings), s, by rw [hs]; rfl, rfl, ?_⟩
    have hupper (mask : UInt16) (hmask : 0x6900 &&& mask = 0) :
        ((0x6900 : UInt16) ||| (value &&& settings)) &&& mask = value &&& settings &&& mask := by
      rw [and_or_distrib, hmask, UInt16.zero_or]
    constructor
    · rw [hupper settings rfl, UInt16.and_assoc, UInt16.and_self]
    · have hclear : settings &&& clearCount = 0 := rfl
      rw [anyBits, hupper clearCount rfl, UInt16.and_assoc, hclear, UInt16.and_zero]
      exact fun hset => absurd hset (by decide)

theorem watchdog_settings_kept_fed : ∃ t,
    (do memoryPort.constrain
        performAll memoryPort [.start .aclk .cycles512, .feed, .askHeld, .hold, .feed]).start 0 [] =
      .ok () t ∧
    Observed memoryPort id [] [.feed, .hold, .askHeld, .feed, .start .aclk .cycles512] t :=
  watchdog_settings_kept memoryPort_remembers
    [.start .aclk .cycles512, .feed, .askHeld, .hold, .feed] 0 []

end Msp430.Watchdog
