import Peripherals.Bus.Error
import Peripherals.Coprocessor.Code
import Peripherals.Coprocessor.DecodeError
import Peripherals.Duration

/-!
# `Peripherals.Coprocessor.Error` — why something asked of the coprocessor fails
-/

namespace Peripherals.Coprocessor

/-- How far a wireless interface is connected. -/
inductive State where
  | unknown
  | disconnected
  | connecting
  | connected
  | disconnecting
  | error
  deriving DecidableEq, Repr

/-- The name of a state. -/
def State.name : State → String
  | .unknown => "Unknown"
  | .disconnected => "Disconnected"
  | .connecting => "Connecting"
  | .connected => "Connected"
  | .disconnecting => "Disconnecting"
  | .error => "Error"

/-- A request whose answer is looked at only for success. -/
inductive Operation where
  | eventPoll
  | accessPointScan
  | startInterface
  | stopInterface
  | antennaChange
  deriving DecidableEq, Repr

/-- How messages call a request. -/
def Operation.name : Operation → String
  | .eventPoll => "event poll"
  | .accessPointScan => "access point scan"
  | .startInterface => "start interface"
  | .stopInterface => "stop interface"
  | .antennaChange => "antenna change"

/-- An argument that cannot be right. -/
inductive BadArgument where
  /-- A network without a name. -/
  | ssid
  /-- A time between scans outside its range. -/
  | scanPeriod (value : Duration)
  deriving DecidableEq, Repr

/-- The wording of a bad argument. -/
def BadArgument.message : BadArgument → String
  | .ssid => "invalid SSID"
  | .scanPeriod value => s!"scan period should be between 1s and 60s (inclusive), got {value.text}"

/-- Why an operation fails. -/
inductive Error where
  /-- The state does not allow the operation. -/
  | stateConflict (state : State)
  | invalidArgument (argument : BadArgument)
  /-- The deadline passed; the coprocessor may still be at work. -/
  | timeout (after : Duration)
  | cancelled
  /-- The coprocessor reported that the attempt to connect failed. -/
  | connectionFailed (status : Status)
  /-- The attempt to connect ended neither connected nor in an error. -/
  | notConnected (state : State)
  /-- A request was answered, but not with success. -/
  | refused (operation : Operation) (status : Status)
  /-- An unknown antenna was asked for. -/
  | invalidAntenna
  | transport (cause : Bus.Error)
  | decode (cause : DecodeError)
  /-- Nothing can run tasks in the background. -/
  | noRuntime
  deriving DecidableEq, Repr

/-- The wording of an error. -/
def Error.message : Error → String
  | .stateConflict state => s!"Operation not allowed while the adapter is {state.name}"
  | .invalidArgument argument => s!"Invalid argument: {argument.message}"
  | .timeout after => s!"Timed out after {after.text}"
  | .cancelled => "Operation cancelled"
  | .connectionFailed status => s!"Connection error: {status.name}"
  | .notConnected state => s!"Connection attempt ended in state {state.name}"
  | .refused operation status => s!"{operation.name} failed: {status.name}"
  | .invalidAntenna => "Setting the antenna type NotKnown is not allowed"
  | .transport cause => cause.message
  | .decode cause => cause.message
  | .noRuntime => "No async runtime available to run the coprocessor tasks"

end Peripherals.Coprocessor
