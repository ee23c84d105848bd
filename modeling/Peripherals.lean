import Peripherals.Bench.Run
import Peripherals.Main
import Peripherals.Proofs.Wire.Reader
import Peripherals.Proofs.Wire.Frame
import Peripherals.Proofs.Wire.Faults
import Peripherals.Proofs.Wire.ScanResult
import Peripherals.Proofs.Wire.Joining
import Peripherals.Proofs.Wire.Truncation
import Peripherals.Proofs.Wire.BadRecord
import Peripherals.Proofs.Session.Consistency
import Peripherals.Proofs.Call.Desk
import Peripherals.Proofs.Call.Overlap
import Peripherals.Proofs.Pin.Custody
import Peripherals.Proofs.Call.Heard
import Peripherals.Proofs.Call.Loss
import Peripherals.Proofs.Call.Vigil
import Peripherals.Proofs.Hardware.Conduct
import Peripherals.Proofs.Port.Conduct
import Peripherals.Proofs.Port.Making
import Peripherals.Proofs.Port.Tenancy
import Peripherals.Proofs.Pin.Capability
import Peripherals.Proofs.Link.Exchange
import Peripherals.Proofs.Port.Capability
import Peripherals.Proofs.Wire.Arrival
import Peripherals.Proofs.Event.Passage
import Peripherals.Proofs.Event.Turns
import Peripherals.Proofs.Port.Undoing
import Peripherals.Proofs.Bus.Speed
import Peripherals.Proofs.Bus.Traffic
import Peripherals.Proofs.Analog.Edition
import Peripherals.Proofs.Pin.Provenance
import Peripherals.Proofs.Network.Merging
import Peripherals.Proofs.Call.Namesake
import Peripherals.Proofs.Call.Keeping
import Peripherals.Proofs.Call.Refusal
import Peripherals.Proofs.Link.Delivery
import Peripherals.Proofs.Call.Verdict
import Peripherals.Proofs.Call.Office
import Peripherals.Proofs.Call.Parting
import Peripherals.Proofs.Secrecy.Runs
import Peripherals.Proofs.Port.Setting
import Peripherals.Proofs.Config.Guards
import Peripherals.Proofs.Json.Numeral
import Peripherals.Proofs.Json.Spelling
import Peripherals.Proofs.Json.Writing
import Peripherals.Proofs.Json.Record
import Peripherals.Proofs.Config.Excerpt
import Peripherals.Proofs.Config.Saving
import Peripherals.Proofs.Hardware.Faults
import Peripherals.Proofs.Port.Line
import Peripherals.Proofs.Port.Programming
import Peripherals.Proofs.Port.Disarming
import Peripherals.Proofs.Port.Description
import Peripherals.Proofs.Bus.Selecting
import Peripherals.Proofs.Bus.Wiring
import Peripherals.Proofs.Bus.Transfer
import Peripherals.Proofs.Port.Level
import Peripherals.Proofs.Call.Tuning
import Peripherals.Proofs.Call.Abandoned
import Peripherals.Proofs.Pin.Views
import Peripherals.Proofs.Text.HexText
import Peripherals.Proofs.Hardware.Scripts
import Peripherals.Proofs.Log.Throttling
