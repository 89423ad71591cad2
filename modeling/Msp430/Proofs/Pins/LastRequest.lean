import Msp430.Machine.Cell
import Msp430.Pins.LaunchPad

/-!
Which request a pin obeys. Requests for different peripherals ask for some of the same pins and each
changes whole registers of eight pins. Seen from a single pin, a change either puts one of its four
levels or leaves it alone, so requests can be followed pin by pin, and of all requests that cover a
pin it obeys the last.
-/
namespace Msp430.GpioPort

variable {σ : Type}

/-! ## Pins -/

/-- What both ports hold. -/
abbrev Bank := PortNumber → PortRegister → UInt8

structure Pin where
  port : PortNumber
  number : Fin 8
  deriving DecidableEq, Repr

/-- The bit of a pin in each of the registers. -/
abbrev Levels := PortRegister → Bool

def among (pins : UInt8) (number : Fin 8) : Bool := pins.toBitVec[number]

def levels (bank : Bank) (pin : Pin) : Levels :=
  fun register => among (bank pin.port register) pin.number

def store (bank : Bank) (port : PortNumber) (register : PortRegister) (value : UInt8) : Bank :=
  fun p r => if p = port ∧ r = register then value else bank p r

def put (register : PortRegister) (level : Bool) (l : Levels) : Levels :=
  fun r => if r = register then level else l r

@[simp] theorem among_set (mask bits : UInt8) (number : Fin 8) :
    among (setBits mask bits) number = (among bits number || among mask number) := by
  simp [among, setBits]

@[simp] theorem among_clear (mask bits : UInt8) (number : Fin 8) :
    among (clearBits mask bits) number = (among bits number && !among mask number) := by
  simp [among, clearBits]

@[simp] theorem among_zero (number : Fin 8) : among 0 number = false := by
  simp [among]

theorem levels_store_self {pin : Pin} {port : PortNumber} (hport : pin.port = port)
    (bank : Bank) (register : PortRegister) (value : UInt8) :
    levels (store bank port register value) pin =
      put register (among value pin.number) (levels bank pin) := by
  funext r
  by_cases hr : r = register <;> simp [levels, store, put, hport, hr]

theorem levels_store_other {pin : Pin} {port : PortNumber} (hport : pin.port ≠ port)
    (bank : Bank) (register : PortRegister) (value : UInt8) :
    levels (store bank port register value) pin = levels bank pin := by
  funext r
  simp [levels, store, hport]

theorem put_same {l : Levels} {register : PortRegister} : put register (l register) l = l := by
  funext r
  by_cases hr : r = register <;> simp [put, hr]

/-! ## What a run does to a pin -/

/-- Ports whose registers keep what is written to them, in a part of the state of their own. -/
structure Holds (g : GpioPort σ) (bank : Cell σ Bank) : Prop where
  lawful : bank.Lawful
  read : ∀ port register patience s,
    (g.read port register).start patience s = .ok (bank.get s port register) s
  write : ∀ port register value patience s, (g.write port register value).start patience s =
    .ok () (bank.set (store (bank.get s) port register value) s)

/-- The run answers, changes nothing but the ports and does the same to a pin wherever it starts. -/
def Does (bank : Cell σ Bank) (run : Run σ Unit) (effect : Pin → Levels → Levels) : Prop :=
  ∀ patience s, ∃ after, run.start patience s = .ok () (bank.set after s) ∧
    ∀ pin, levels after pin = effect pin (levels (bank.get s) pin)

variable {g : GpioPort σ} {bank : Cell σ Bank}

theorem does_nothing (hbank : bank.Lawful) : Does bank (pure ()) fun _ l => l := by
  intro patience s
  refine ⟨bank.get s, ?_, fun _ => rfl⟩
  rw [hbank.set_get]
  rfl

theorem Does.bind (hbank : bank.Lawful) {run next : Run σ Unit}
    {effect effect' : Pin → Levels → Levels} (h : Does bank run effect)
    (k : Does bank next effect') :
    Does bank (do run; next) fun pin l => effect' pin (effect pin l) := by
  intro patience s
  obtain ⟨mid, hrun, hmid⟩ := h patience s
  obtain ⟨after, hnext, hafter⟩ := k patience (bank.set mid s)
  refine ⟨after, ?_, ?_⟩
  · rw [Run.start_bind_ok hrun, hnext, hbank.set_set]
  · intro pin
    rw [hafter pin, hbank.get_set, hmid pin]

/-- A change that gives the pins of a mask one level puts that level at those pins of its port. -/
theorem does_change (h : Holds g bank) (port : PortNumber) (register : PortRegister) {mask : UInt8}
    {level : Bool} {f : UInt8 → UInt8}
    (hf : ∀ bits number, among (f bits) number = if among mask number then level
      else among bits number) :
    Does bank (g.change port register f) fun pin l =>
      if pin.port = port ∧ among mask pin.number then put register level l else l := by
  intro patience s
  refine ⟨store (bank.get s) port register (f (bank.get s port register)), ?_, ?_⟩
  · rw [GpioPort.change, Run.start_bind_ok (h.read port register patience s)]
    exact h.write port register _ patience s
  · intro pin
    by_cases hport : pin.port = port
    · rw [levels_store_self hport, hf]
      by_cases hmask : among mask pin.number
      · simp [hport, hmask]
      · have hsame : among (bank.get s port register) pin.number =
            levels (bank.get s) pin register := by
          rw [levels, hport]
        simp [hmask, hsame, put_same]
    · simp [levels_store_other hport, hport]

theorem does_set (h : Holds g bank) (port : PortNumber) (register : PortRegister) (mask : UInt8) :
    Does bank (g.change port register (setBits mask)) fun pin l =>
      if pin.port = port ∧ among mask pin.number then put register true l else l := by
  apply does_change h
  intro bits number
  cases hmask : among mask number <;> simp [hmask]

theorem does_clear (h : Holds g bank) (port : PortNumber) (register : PortRegister) (mask : UInt8) :
    Does bank (g.change port register (clearBits mask)) fun pin l =>
      if pin.port = port ∧ among mask pin.number then put register false l else l := by
  apply does_change h
  intro bits number
  cases hmask : among mask number <;> simp [hmask]

/-! ## What is asked of a pin -/

/-- What an accepted request asks of a pin it covers. -/
inductive Demand where
  | function (secondary : Bool)
  | withdrawn
  deriving DecidableEq, Repr

def Demand.apply : Demand → Levels → Levels
  | .function secondary, l => put .sel2 secondary (put .sel true l)
  | .withdrawn, l => put .sel2 false (put .sel false (put .dir true (put .out false l)))

/-- An assigned pin has the function that its selectors choose; a withdrawn one is driven low. -/
def Demand.Met : Demand → Levels → Prop
  | .function secondary, l => l .sel = true ∧ l .sel2 = secondary
  | .withdrawn, l => l .sel = false ∧ l .sel2 = false ∧ l .dir = true ∧ l .out = false

/-- A request that is refused, and one that does not cover the pin, asks nothing of it. -/
def demand? (r : PinRequest) (pin : Pin) : Option Demand :=
  match LaunchPad.mux r.peripheral r.function with
  | .error _ => none
  | .ok mux =>
    if among (mux.pins pin.port) pin.number then
      some (if r.enable then .function mux.secondary else .withdrawn)
    else none

def accepted (r : PinRequest) : Except PinError Unit :=
  (LaunchPad.mux r.peripheral r.function).map fun _ => ()

theorem Demand.met_apply (d : Demand) (l : Levels) : d.Met (d.apply l) := by
  cases d <;> simp [Demand.Met, Demand.apply, put]

/-! ## One request -/

theorem does_assign (h : Holds g bank) (port : PortNumber) (pins : UInt8) (secondary : Bool) :
    Does bank (g.assign port pins secondary) fun pin l =>
      if pin.port = port ∧ among pins pin.number then Demand.apply (.function secondary) l
      else l := by
  have hsel2 : Does bank
      (g.change port .sel2 (if secondary then setBits pins else clearBits pins)) fun pin l =>
        if pin.port = port ∧ among pins pin.number then put .sel2 secondary l else l := by
    cases secondary with
    | true => exact does_set h port .sel2 pins
    | false => exact does_clear h port .sel2 pins
  intro patience s
  obtain ⟨after, hrun, hafter⟩ := (does_set h port .sel pins).bind h.lawful hsel2 patience s
  refine ⟨after, hrun, fun pin => ?_⟩
  rw [hafter pin]
  by_cases hpin : pin.port = port ∧ among pins pin.number <;> simp [hpin, Demand.apply]

theorem does_withdraw (h : Holds g bank) (port : PortNumber) (pins : UInt8) :
    Does bank (g.withdraw port pins) fun pin l =>
      if pin.port = port ∧ among pins pin.number then Demand.apply .withdrawn l else l := by
  have hsteps := (does_clear h port .out pins).bind h.lawful <|
    (does_set h port .dir pins).bind h.lawful <|
    (does_clear h port .sel pins).bind h.lawful (does_clear h port .sel2 pins)
  intro patience s
  obtain ⟨after, hrun, hafter⟩ := hsteps patience s
  refine ⟨after, hrun, fun pin => ?_⟩
  rw [hafter pin]
  by_cases hpin : pin.port = port ∧ among pins pin.number <;> simp [hpin, Demand.apply]

theorem does_apply (h : Holds g bank) (mux : PinMux) (enable : Bool) (port : PortNumber) :
    Does bank (g.apply mux enable port) fun pin l =>
      if pin.port = port ∧ among (mux.pins port) pin.number then
        Demand.apply (if enable then .function mux.secondary else .withdrawn) l
      else l := by
  unfold GpioPort.apply
  by_cases hpins : mux.pins port = 0
  · simpa [hpins] using does_nothing h.lawful
  · cases enable with
    | true => simpa [hpins] using does_assign h port (mux.pins port) mux.secondary
    | false => simpa [hpins] using does_withdraw h port (mux.pins port)

/-- Each pin that a request covers is on one port, so the change of the other port passes it by. -/
theorem does_apply_both (h : Holds g bank) (mux : PinMux) (enable : Bool) :
    Does bank (do g.apply mux enable .p1; g.apply mux enable .p2) fun pin l =>
      if among (mux.pins pin.port) pin.number then
        Demand.apply (if enable then .function mux.secondary else .withdrawn) l
      else l := by
  intro patience s
  obtain ⟨after, hrun, hafter⟩ :=
    (does_apply h mux enable .p1).bind h.lawful (does_apply h mux enable .p2) patience s
  refine ⟨after, hrun, fun pin => ?_⟩
  rw [hafter pin]
  obtain ⟨port, number⟩ := pin
  cases port <;> simp

theorem start_route_refused (g : GpioPort σ) {r : PinRequest} {why : PinError}
    (h : LaunchPad.mux r.peripheral r.function = .error why) (patience : Nat) (s : σ) :
    (g.route r).start patience s = .ok (.error why) s := by
  rw [GpioPort.route, h]
  rfl

/-- A request meets what it asks of the pins it covers and leaves the others alone. Clock outputs
are made to drive their pins first, which no other pin notices. -/
theorem start_route (h : Holds g bank) (r : PinRequest) (patience : Nat) (s : σ) :
    ∃ after, (g.route r).start patience s = .ok (accepted r) (bank.set after s) ∧
      ∀ pin, match demand? r pin with
        | none => levels after pin = levels (bank.get s) pin
        | some d => d.Met (levels after pin) := by
  cases hmux : LaunchPad.mux r.peripheral r.function with
  | error why =>
    refine ⟨bank.get s, ?_, fun pin => by simp [demand?, hmux]⟩
    rw [start_route_refused g hmux, h.lawful.set_get, accepted, hmux]
    rfl
  | ok mux =>
    have hdrive : Does bank
        (if r.peripheral = .exposedClocks ∧ mux.p1 ≠ 0 then g.change .p1 .dir (setBits mux.p1)
          else pure ()) fun pin l =>
        if r.peripheral = .exposedClocks ∧ pin.port = .p1 ∧ among mux.p1 pin.number then
          put .dir true l
        else l := by
      by_cases hclocks : r.peripheral = .exposedClocks
      · by_cases hpins : mux.p1 = 0
        · simpa [hclocks, hpins] using does_nothing h.lawful
        · simpa [hclocks, hpins] using does_set h .p1 .dir mux.p1
      · simpa [hclocks] using does_nothing h.lawful
    obtain ⟨after, hrun, hafter⟩ := hdrive.bind h.lawful (does_apply_both h mux r.enable) patience s
    have hroute : g.route r = (do
        (do
          (if r.peripheral = .exposedClocks ∧ mux.p1 ≠ 0 then g.change .p1 .dir (setBits mux.p1)
            else pure ())
          (do g.apply mux r.enable .p1; g.apply mux r.enable .p2))
        return .ok ()) := by
      rw [GpioPort.route, hmux]
      by_cases hclocks : r.peripheral = .exposedClocks ∧ mux.p1 ≠ 0 <;> simp [hclocks]
    refine ⟨after, ?_, ?_⟩
    · rw [hroute, Run.start_bind_ok hrun, accepted, hmux]
      rfl
    · intro pin
      rw [demand?, hmux, hafter pin]
      by_cases hpin : among (mux.pins pin.port) pin.number
      · simp only [hpin, if_true]
        exact Demand.met_apply _ _
      · -- The pins that drive a clock are pins of the request.
        have hclock :
            ¬ (r.peripheral = .exposedClocks ∧ pin.port = .p1 ∧ among mux.p1 pin.number) := by
          rintro ⟨-, hport, hamong⟩
          rw [hport] at hpin
          exact hpin hamong
        simp [hpin, hclock]

/-! ## A run of requests -/

def routeAll (g : GpioPort σ) : List PinRequest → Run σ (List (Except PinError Unit))
  | [] => return []
  | r :: rest => do
    let answer ← g.route r
    return answer :: (← routeAll g rest)

/-- A refused request accesses no register. After a run of requests each pin is as the last accepted
request that covers it demands, a pin that none covers is as it was, and nothing but the ports has
changed. -/
theorem pins_obey_last_request (h : Holds g bank) (requests : List PinRequest) (patience : Nat)
    (s : σ) :
    (∀ r why t, LaunchPad.mux r.peripheral r.function = .error why →
      (g.route r).start patience t = .ok (.error why) t) ∧
    ∃ after, (routeAll g requests).start patience s =
        .ok (requests.map accepted) (bank.set after s) ∧
      ∀ pin, match requests.reverse.findSome? (demand? · pin) with
        | none => levels after pin = levels (bank.get s) pin
        | some d => d.Met (levels after pin) := by
  constructor
  · intro r why t hmux
    exact start_route_refused g hmux patience t
  · induction requests generalizing s with
    | nil =>
      refine ⟨bank.get s, ?_, fun _ => rfl⟩
      rw [h.lawful.set_get]
      rfl
    | cons r rest ih =>
      obtain ⟨mid, hroute, hmid⟩ := start_route h r patience s
      obtain ⟨after, hrest, hafter⟩ := ih (bank.set mid s)
      refine ⟨after, ?_, fun pin => ?_⟩
      · rw [routeAll, Run.start_bind_ok hroute, Run.start_bind_ok hrest, h.lawful.set_set]
        rfl
      · have hlater := hafter pin
        have hfirst := hmid pin
        rw [h.lawful.get_set] at hlater
        rw [List.reverse_cons, List.findSome?_append, List.findSome?_singleton]
        cases hlast : rest.reverse.findSome? (demand? · pin) with
        | some d =>
          rw [hlast] at hlater
          exact hlater
        | none =>
          rw [hlast] at hlater
          rw [Option.none_or]
          cases hd : demand? r pin with
          | none =>
            rw [hd] at hfirst
            exact hlater.trans hfirst
          | some d =>
            rw [hd] at hfirst
            simp only [hlater]
            exact hfirst

def memoryPorts : GpioPort Bank where
  read port register := return (← get) port register
  write port register value := modify (store · port register value)

theorem memoryPorts_hold : Holds memoryPorts Cell.whole :=
  ⟨Cell.lawful_whole, fun _ _ _ _ => rfl, fun _ _ _ _ _ => rfl⟩

/-- P1.4 is handed to the clock outputs and then to a serial port, whose other pins are taken back
with it. A request that is refused comes in between. -/
theorem pins_obey_last_request_shared :
    LaunchPad.mux .lfxt1 .uart = .error .unsupported ∧
    ∃ after, (routeAll memoryPorts [⟨.exposedClocks, .primary, true⟩, ⟨.usciA0, .spi3, true⟩,
        ⟨.lfxt1, .uart, true⟩, ⟨.usciA0, .uart, false⟩]).start 0 (fun _ _ => 0xFF) =
        .ok [.ok (), .ok (), .error .unsupported, .ok ()] after ∧
      levels after ⟨.p1, 4⟩ .sel2 = true ∧ levels after ⟨.p1, 1⟩ .out = false ∧
      levels after ⟨.p2, 6⟩ = fun _ => true := by
  obtain ⟨-, after, hrun, hpins⟩ := pins_obey_last_request memoryPorts_hold
    [⟨.exposedClocks, .primary, true⟩, ⟨.usciA0, .spi3, true⟩, ⟨.lfxt1, .uart, true⟩,
      ⟨.usciA0, .uart, false⟩] 0 fun _ _ => 0xFF
  refine ⟨rfl, after, hrun, ?_, ?_, ?_⟩
  · exact (hpins ⟨.p1, 4⟩).2
  · exact (hpins ⟨.p1, 1⟩).2.2.2
  · refine (hpins ⟨.p2, 6⟩).trans ?_
    funext register
    cases register <;> rfl

end Msp430.GpioPort
