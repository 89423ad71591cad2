import Msp430.Reset.Cause

/-!
Reset vectors of the device families.
-/
namespace Msp430.ResetTable

def f5xx : ResetTable := [
  ⟨0x02, "BOR", true⟩,
  ⟨0x04, "RST/NMI", true⟩,
  ⟨0x06, "Do BOR", true⟩,
  ⟨0x08, "Port LPM5 Wake Up", true⟩,
  ⟨0x0A, "Security violation", true⟩,
  ⟨0x0C, "SVSL", false⟩,
  ⟨0x0E, "SVSH", false⟩,
  ⟨0x10, "SVML_OVP", false⟩,
  ⟨0x12, "SVMH_OVP", false⟩,
  ⟨0x14, "Do POR", false⟩,
  ⟨0x16, "WDT Time out", false⟩,
  ⟨0x18, "WDTKEY violation", false⟩,
  ⟨0x1A, "Flash Key violation", false⟩,
  ⟨0x1C, "PLL unlock", false⟩,
  ⟨0x1E, "peripheral/config area fetch", false⟩,
  ⟨0x20, "PMMKEY violation", false⟩]

def fr2xx : ResetTable := [
  ⟨0x02, "BOR", true⟩,
  ⟨0x04, "RST/NMI", true⟩,
  ⟨0x06, "Do BOR", true⟩,
  ⟨0x08, "Port LPM5 Wake Up", true⟩,
  ⟨0x0A, "Security violation", true⟩,
  ⟨0x0E, "SVSHIFG", false⟩,
  ⟨0x14, "Do POR", false⟩,
  ⟨0x16, "WDT Time out", false⟩,
  ⟨0x18, "WDT Password violation", false⟩,
  ⟨0x1A, "FRAM Key violation", false⟩,
  ⟨0x1C, "FRAM Uncorrectable bit Error", false⟩,
  ⟨0x1E, "peripheral/config area fetch", false⟩,
  ⟨0x20, "PMM Password violation", false⟩,
  ⟨0x24, "FLL unlock", false⟩]

end Msp430.ResetTable
