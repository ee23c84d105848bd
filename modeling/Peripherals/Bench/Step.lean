import Peripherals.Coprocessor.Call
import Peripherals.Device

/-!
# `Peripherals.Bench.Step` — what can be done on a bench

A bench is where a board is exercised: things are made and kept in slots, used, and dropped, while the simulated
driver and the scripted coprocessor play the world around them.

* `Cue` — a step that writes a script, or looks at one;
* `Blueprint` — what can be made;
* `Use` — what can be done with a thing at once;
* `Step` — all of these, and what takes time.
-/

namespace Peripherals.Bench

open Coprocessor

/-- The name under which a thing is kept. -/
abbrev Slot := String

/-! ## The world around the board -/

/-- Scripts the world, or looks at it. -/
inductive Cue where
  | addDevice (address : UInt16)
  | queueTwoWire (address : UInt16) (reply : Bytes)
  | queueFourWire (reply : Bytes)
  | queueReadings (key : UInt16) (values : List UInt32)
  | setLevel (key : UInt16) (level : Bool)
  /-- The level and the configuration of a line. -/
  | lookAtLine (key : UInt16)
  | injectFault (opcode : Driver.Opcode) (code : Int32)
  /-- How many calls of an operation are on record. -/
  | countCalls (opcode : Driver.Opcode)
  /-- Makes calls slow in real time, which no clock of the bench shows. -/
  | slowCalls
  /-- A driver call from outside any port or bus. -/
  | callDriver (call : Driver.Call)
  | respond (function : Function) (response : Response)
  | setDelay (function : Function) (delay : Duration)
  | failNext (function : Function) (cause : Bus.Error)
  | pushEvent (event : Event)
  | countEvents
  /-- How many commands of a function came in. -/
  | countCommands (function : Function)
  | cancel (token : String)

/-! ## Things -/

/-- What can be made. Pins are named, other things are given by their slots. -/
inductive Blueprint where
  | twoWire (clock data : String) (requested : Option UInt32)
  | peripheral (bus : Slot) (address : UInt8)
  | fourWire (clock dataOut dataIn : String) (settings : Option ClockSettings)
  | output (pin : String) (initial : Bool) (kind : OutputKind)
  | input (pin : String) (resistor : Resistor)
  | bidirectional (pin : String) (options : BidirectionalOptions)
  | analog (pin : String) (options : Option AnalogOptions)
  | link (bus select : Slot) (mode : ChipSelectMode)
  | adapter (bus : Slot) (select : String)
  /-- An adapter of the bench's own, with a channel of some capacity. -/
  | fake (name : String) (capacity : Nat)

/-- What is sent, and how much is to be received. -/
structure Transfer where
  /-- On a two-wire bus, the address. -/
  address : UInt8 := 0
  /-- On a four-wire bus, the output that selects the peripheral. -/
  select : Option (Slot × ChipSelectMode) := none
  tx : Bytes := []
  room : Nat := 0

/-- What can be done with a thing at once. -/
inductive Use where
  | info
  | read (t : Transfer)
  | write (t : Transfer)
  | exchange (t : Transfer)
  | setFrequency (requested : UInt32)
  | shutdown
  | readRegister (register : UInt8)
  | readRegisters (register : UInt8) (count : Nat)
  | readRegisterPair (register : UInt8)
  | writeRegisters (register : UInt8) (values : Bytes)
  | configure (settings : ClockSettings)
  | transaction (select : Option (Slot × ChipSelectMode)) (parts : List (Bytes × Nat))
  | set (level : Bool)
  | toggle
  | state
  | setDirection (direction : Direction)
  | setFilter (filter : Port.Filter) (value : Duration)
  | interrupts (levels : List Bool)
  | startSampling (interval : Option Duration)
  | send (command : Command)
  | poll
  /-- Events arrive at an adapter that has no pump. -/
  | deliver (event : Event) (count : Nat)
  | setScanPeriod (period : Duration)
  | setRetryCount (count : UInt32)
  | settings
  | register
  /-- An adapter of the bench's own changes its connectivity. -/
  | raise (events : List Network.Event)

/-! ## Steps -/

/-- One step. -/
inductive Step where
  | cue (c : Cue)
  | make (slot : Slot) (what : Blueprint)
  | drop (slot : Slot)
  /-- Reading an analog port takes its time; all else is done at once. -/
  | use (slot : Slot) (u : Use)
  | stopSampling (slot : Slot)
  /-- A request to an adapter; a token can cancel it. -/
  | ask (slot : Slot) (request : Request) (token : Option String)
  | advance (ms : Nat)
  | awaitCancel (token : String) (timeout : Duration)
  | lookUpPin (name : String)
  | lookAtDevice
  | lookUpReservation (pin : String)
  | convert (pin : String)
  | convertVoltage (pin : String) (reference : Voltage)
  | lookAtRegistry (index : Option Nat)

end Peripherals.Bench
