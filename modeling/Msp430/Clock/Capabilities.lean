import Msp430.Clock.Registers

/-!
What the clock hardware of a device and its board offers: factory settings of the DCO, crystals and
nominal rates.
-/
namespace Msp430

inductive CalibratedRate where
  | mhz1
  | mhz8
  | mhz12
  | mhz16
  deriving DecidableEq, Repr

namespace CalibratedRate

def hz : CalibratedRate → UInt32
  | .mhz1 => 1000000
  | .mhz8 => 8000000
  | .mhz12 => 12000000
  | .mhz16 => 16000000

def slowestFirst : List CalibratedRate := [.mhz1, .mhz8, .mhz12, .mhz16]

def index : CalibratedRate → Fin 4
  | .mhz1 => 0
  | .mhz8 => 1
  | .mhz12 => 2
  | .mhz16 => 3

end CalibratedRate

/-- A setting of the DCO: tap and modulator in one byte, the range in the lower half of the other. -/
structure DcoSetting where
  dcoctl : UInt8
  bcsctl1 : UInt8
  deriving DecidableEq, Repr

def DcoSetting.powerUp : DcoSetting := ⟨0x60, 0x87⟩

structure ClockCapabilities where
  calibrations : Vector (Option DcoSetting) 4 := .replicate _ none
  /-- The rate of XT2, where the device has it and a crystal is fitted. -/
  xt2Hz : Option UInt32 := none
  vloHz : UInt32 := 12000
  xt1Hz : UInt32 := 32768
  powerUpHz : UInt32 := 1100000
  xt1Load : UInt8 := 0x04
  settleCycles : UInt32 := 20000
  recheckMicros : UInt32 := 100
  deriving DecidableEq, Repr

namespace ClockCapabilities

def calibration (caps : ClockCapabilities) (rate : CalibratedRate) : Option DcoSetting :=
  caps.calibrations[rate.index]

def withCalibration (caps : ClockCapabilities) (rate : CalibratedRate) (setting : DcoSetting) :
    ClockCapabilities :=
  { caps with calibrations := caps.calibrations.set rate.index (some setting) }

def withXt1Load (caps : ClockCapabilities) (load : UInt8) : ClockCapabilities :=
  { caps with xt1Load := load &&& ClockField.loadCapacitance }

/-- Erased memory holds no setting. -/
def settingOfBytes (dcoctl bcsctl1 : UInt8) : Option DcoSetting :=
  if dcoctl = 0xFF ∧ bcsctl1 = 0xFF then none else some ⟨dcoctl, bcsctl1⟩

/-- The factory stores a pair of bytes for each rate, the fastest first. -/
def ofBytes (bytes : Vector UInt8 8) : ClockCapabilities where
  calibrations := #v[settingOfBytes bytes[6] bytes[7], settingOfBytes bytes[4] bytes[5],
    settingOfBytes bytes[2] bytes[3], settingOfBytes bytes[0] bytes[1]]

end ClockCapabilities

end Msp430
