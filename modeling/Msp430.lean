import Msp430.Clock.Boot
import Msp430.Clock.Tuning
import Msp430.Cpu.Interrupts
import Msp430.Cpu.Services
import Msp430.Cpu.Watchdog
import Msp430.Machine.Cell
import Msp430.Pins.LaunchPad
import Msp430.Reset.Families
import Msp430.Sim.ChipSession
import Msp430.Timer.Capture
import Msp430.Timer.Dispatch
import Msp430.Uptime.Delay
import Msp430.Proofs.Machine.Triples
import Msp430.Proofs.Machine.Bits
import Msp430.Proofs.Clock.Boot
import Msp430.Proofs.Clock.Fallback
import Msp430.Proofs.Clock.Nominal
import Msp430.Proofs.Clock.Notches
import Msp430.Proofs.Clock.Tuning
import Msp430.Proofs.Clock.Convergence
import Msp430.Proofs.Clock.Transaction
import Msp430.Proofs.Clock.Candidate
import Msp430.Proofs.Clock.Retries
import Msp430.Proofs.Clock.Selector
import Msp430.Proofs.Timer.Channels
import Msp430.Proofs.Timer.Scene
import Msp430.Proofs.Timer.Books
import Msp430.Proofs.Timer.OneShot
import Msp430.Proofs.Timer.Service
import Msp430.Proofs.Timer.Operations
import Msp430.Proofs.Timer.Simulated
import Msp430.Proofs.Timer.Capture
import Msp430.Proofs.Timer.Linearization
import Msp430.Proofs.Timer.Alert
import Msp430.Proofs.Timer.Vigilance
import Msp430.Proofs.Timer.Punctuality
import Msp430.Proofs.Timer.Routing
import Msp430.Proofs.Timer.Roster
import Msp430.Proofs.Timer.Round
import Msp430.Proofs.Timer.Editing
import Msp430.Proofs.Uptime.Conversions
import Msp430.Proofs.Uptime.DurationText
import Msp430.Proofs.Uptime.Elapsed
import Msp430.Proofs.Uptime.Bedside
import Msp430.Proofs.Uptime.Slumber
import Msp430.Proofs.Uptime.Resting
import Msp430.Proofs.Uptime.Delays
import Msp430.Proofs.Uptime.Lateness
import Msp430.Proofs.Uptime.Waking
import Msp430.Proofs.Uptime.Waiting
import Msp430.Proofs.Timer.Ownership
import Msp430.Proofs.Timer.Boundaries
import Msp430.Proofs.Uptime.Registration
import Msp430.Proofs.Uptime.Reconciliation
import Msp430.Proofs.Uptime.Flags
import Msp430.Proofs.Uptime.Release
import Msp430.Proofs.Cpu.Watchdog
import Msp430.Proofs.Pins.LastRequest
import Msp430.Proofs.Clock.Settling
import Msp430.Proofs.Clock.WriteOrder
import Msp430.Proofs.Clock.Stepwise
import Msp430.Proofs.Timer.Horizon
import Msp430.Proofs.Timer.Verdicts
import Msp430.Proofs.Cpu.Interrupts
import Msp430.Proofs.Reset.Draining
