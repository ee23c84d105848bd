/-!
# `Peripherals.Cli.Arguments` — reading a command line

A command line names a command, gives it operands, and sets options. An option is spelt with one hyphen and a
letter or with two hyphens and a name; its value follows in the next word or, after `=`, in the same one. After a
bare `--` every word is an operand.

* `scan` — the words of one command, sorted into options and operands;
* `Request.ofWords` — what a whole command line asks for.
-/

namespace Peripherals.Cli

/-! ## Commands -/

/-- What is to be done. -/
inductive Command where
  /-- List the pins and their channels. -/
  | pins
  /-- Print the settings in effect. -/
  | showConfig
  /-- Read bytes from a two-wire peripheral, after writing a register if there is one. -/
  | readBus (address : UInt8) (length : Nat) (register : Option UInt8)
  /-- Probe the addresses of the two-wire bus. -/
  | scanBus
  /-- Read a digital input. -/
  | readPin (pin : String)
  /-- Drive a digital output. -/
  | writePin (pin : String) (high : Bool)
  /-- Decode the frame of an event. -/
  | decodeEvent (hex : String)
  /-- Decode a list of access points. -/
  | decodeScan (hex : String)
  deriving DecidableEq

/-- What a command line asks for. -/
inductive Request where
  /-- An explanation of the commands. -/
  | help
  /-- A command, under the settings of a file if one is named. -/
  | run (config : Option String) (command : Command)
  deriving DecidableEq

/-- Why a command line is refused. -/
inductive UsageError where
  | unknownOption (word : String)
  /-- An option without the value that it needs. -/
  | missingValue (word : String)
  /-- A value that the option does not take. -/
  | badValue (text : String)
  | repeated (word : String)
  | unknownCommand (word : String)
  | missingCommand
  /-- More or fewer operands than the command takes. -/
  | operandCount
  deriving DecidableEq, Repr

/-! ## Options -/

/-- The options. -/
inductive Setting where
  | config
  | length
  | register
  | high
  deriving DecidableEq, Repr

namespace Setting

/-- The long spelling. -/
def long : Setting → String
  | .config => "config"
  | .length => "length"
  | .register => "register"
  | .high => "high"

/-- The letter of the short spelling. -/
def short? : Setting → Option Char
  | .config => some 'c'
  | .length => some 'l'
  | .register => some 'r'
  | .high => none

/-- Whether the option takes a value. -/
def takesValue (s : Setting) : Bool := s != .high

end Setting

/-- A digit of a number to `base`, ten at least. -/
def digit? (base : Nat) (c : Char) : Option Nat :=
  let value :=
    if c.isDigit then some (c.toNat - '0'.toNat)
    else if c.isLower then some (c.toNat - 'a'.toNat + 10)
    else if c.isUpper then some (c.toNat - 'A'.toNat + 10)
    else none
  value.filter (· < base)

/-- A number below `limit` to `base`; a plus sign may stand before its digits. -/
def number? (base limit : Nat) (text : List Char) : Option Nat :=
  let digits := match text with
    | '+' :: rest => rest
    | _ => text
  if digits.isEmpty then none
  else ((digits.mapM (digit? base)).map fun ds => ds.foldl (fun n d => base * n + d) 0).filter (· < limit)

/-- A byte, in hexadecimal after `0x` and in decimal otherwise. -/
def byte? (text : String) : Option UInt8 :=
  (match text.toList with
    | '0' :: 'x' :: digits => number? 16 256 digits
    | '0' :: 'X' :: digits => number? 16 256 digits
    | digits => number? 10 256 digits).map UInt8.ofNat

/-- Whether an option takes this value. -/
def Setting.accepts (s : Setting) (value : String) : Bool :=
  match s with
  | .config => !value.isEmpty
  | .length => (number? 10 UInt64.size value.toList).isSome
  | .register => (byte? value).isSome
  | .high => false

/-! ## Sorting the words of a command -/

/-- The words of a command, sorted. -/
structure Words where
  settings : List (Setting × String)
  operands : List String

namespace Words

/-- The value given to an option. -/
def value? (w : Words) (s : Setting) : Option String := w.settings.lookup s

/-- Sets an option, once. -/
def set (w : Words) (word : String) (s : Setting) (value : String) : Except UsageError Words :=
  if (w.value? s).isSome then .error (.repeated word)
  else if s.takesValue && !s.accepts value then .error (.badValue value)
  else .ok { w with settings := w.settings ++ [(s, value)] }

/-- Adds an operand. -/
def add (w : Words) (operand : String) : Words := { w with operands := w.operands ++ [operand] }

end Words

/-- Whether a word is an option rather than an operand. A single hyphen is an operand. -/
def isOption (word : String) : Bool := word.startsWith "-" && word != "-"

/-- How one word sets an option. -/
inductive Spelling where
  | help
  /-- The option needs no value or has it in the same word. -/
  | complete (setting : Setting) (value : String)
  /-- The value is the next word. -/
  | awaiting (setting : Setting)

/-- Splits a text at its first equals sign. -/
def splitValue (text : List Char) : List Char × Option (List Char) :=
  match text.dropWhile (· != '=') with
  | [] => (text, none)
  | _ :: value => (text.takeWhile (· != '='), some value)

/-- Reads a word that sets one of the options `known`. -/
def spelling (known : List Setting) (word : String) : Except UsageError Spelling :=
  match word.toList with
  | '-' :: '-' :: text =>
    let (name, value) := splitValue text
    if name = "help".toList then
      if value.isSome then .error (.badValue word) else .ok .help
    else match known.find? (·.long.toList == name), value with
      | none, _ => .error (.unknownOption word)
      | some s, some v => if s.takesValue then .ok (.complete s (String.ofList v)) else .error (.badValue word)
      | some s, none => .ok (if s.takesValue then .awaiting s else .complete s "")
  | '-' :: letter :: text =>
    if letter = 'h' then .ok .help
    else match known.find? (·.short? == some letter), text with
      | none, _ => .error (.unknownOption word)
      | some s, [] => .ok (.awaiting s)
      | some s, '=' :: v => .ok (.complete s (String.ofList v))
      | some s, v => .ok (.complete s (String.ofList v))
  | _ => .error (.unknownOption word)

/-- Where sorting stops. -/
inductive Scanned where
  | help
  /-- All words are sorted. -/
  | finished (words : Words)
  /-- A word that is no option, before any bare `--`. -/
  | operand (words : Words) (operand : String) (rest : List String)

/-- Sorts words up to the first operand. -/
def scanOptions (known : List Setting) (words : Words) : List String → Except UsageError Scanned
  | [] => .ok (.finished words)
  | word :: rest =>
    if word = "--" then .ok (.finished { words with operands := words.operands ++ rest })
    else if !isOption word then .ok (.operand words word rest)
    else match spelling known word, rest with
      | .error e, _ => .error e
      | .ok .help, _ => .ok .help
      | .ok (.complete s value), rest =>
        match words.set word s value with
        | .error e => .error e
        | .ok words => scanOptions known words rest
      | .ok (.awaiting _), [] => .error (.missingValue word)
      | .ok (.awaiting s), value :: rest =>
        if isOption value then .error (.missingValue word)
        else match words.set word s value with
          | .error e => .error e
          | .ok words => scanOptions known words rest

/-- Sorting leaves fewer words than there were. -/
theorem length_of_scanOptions {known : List Setting} {words : Words} {line : List String} {sorted : Words}
    {operand : String} {rest : List String}
    (h : scanOptions known words line = .ok (.operand sorted operand rest)) : rest.length < line.length := by
  fun_induction scanOptions known words line <;> simp_all <;> omega

/-- What is known of a command before its words are read. -/
structure Shape where
  settings : List Setting
  /-- Refuses an operand of the wrong form. -/
  accepts : String → Bool
  /-- The number of operands. -/
  operands : Nat

/-- Sorts all words of a command; `none` is a request for help. -/
def scan (shape : Shape) (words : Words) (line : List String) : Except UsageError (Option Words) :=
  match _h : scanOptions shape.settings words line with
  | .error e => .error e
  | .ok .help => .ok none
  | .ok (.finished words) =>
    if words.operands.length ≠ shape.operands then .error .operandCount
    else match words.operands.find? fun o => !shape.accepts o with
      | some o => .error (.badValue o)
      | none => .ok (some words)
  | .ok (.operand words operand rest) =>
    if shape.operands ≤ words.operands.length then .error .operandCount
    else if !shape.accepts operand then .error (.badValue operand)
    else scan shape (words.add operand) rest
termination_by line.length
decreasing_by exact length_of_scanOptions (by assumption)

/-! ## Requests -/

/-- The shape of a command and how its words are understood. -/
structure Entry where
  name : String
  summary : String
  shape : Shape
  read : Words → Option Command

/-- The shape of a command that takes one operand of any form. -/
def oneOperand (settings : List Setting) : Shape := ⟨.config :: settings, fun _ => true, 1⟩

/-- The shape of a command without operands. -/
def noOperand : Shape := ⟨[.config], fun _ => true, 0⟩

/-- The commands. -/
def commands : List Entry :=
  [⟨"pins", "List the board's pins and their channels", noOperand, fun _ => some .pins⟩,
    ⟨"show-config", "Print the effective configuration", noOperand, fun _ => some .showConfig⟩,
    ⟨"i2c-read", "Read bytes from a two-wire peripheral",
      ⟨[.config, .length, .register], fun text => (byte? text).isSome, 1⟩,
      fun w => do
        let address ← byte? (← w.operands.head?)
        let length ← number? 10 UInt64.size ((w.value? .length).getD "1").toList
        pure (.readBus address length ((w.value? .register).bind byte?))⟩,
    ⟨"i2c-scan", "Probe every 7-bit address on the two-wire bus", noOperand, fun _ => some .scanBus⟩,
    ⟨"gpio-read", "Read a digital input", oneOperand [], fun w => w.operands.head?.map .readPin⟩,
    ⟨"gpio-write", "Drive a digital output", oneOperand [.high],
      fun w => w.operands.head?.map fun pin => .writePin pin (w.value? .high).isSome⟩,
    ⟨"decode-event", "Decode a hex-encoded coprocessor event frame", oneOperand [],
      fun w => w.operands.head?.map .decodeEvent⟩,
    ⟨"decode-scan", "Decode a hex-encoded access point list", oneOperand [],
      fun w => w.operands.head?.map .decodeScan⟩]

/-- The words after the name of a command. A file of settings named there goes before one named earlier. -/
def Request.ofCommand (config : Option String) (name : String) (rest : List String) : Except UsageError Request :=
  match commands.find? (·.name == name) with
  | none =>
    if name = "help" then
      match rest with
      | [] => .ok .help
      | [topic] =>
        if topic = "help" || commands.any (·.name == topic) then .ok .help else .error (.unknownCommand topic)
      | _ => .error .operandCount
    else .error (.unknownCommand name)
  | some command =>
    match scan command.shape ⟨[], []⟩ rest with
    | .error e => .error e
    | .ok none => .ok .help
    | .ok (some words) =>
      match command.read words with
      | none => .error .operandCount
      | some c => .ok (.run ((words.value? .config).orElse fun () => config) c)

/-- **Reads a command line.** -/
def Request.ofWords (line : List String) : Except UsageError Request :=
  match scanOptions [.config] ⟨[], []⟩ line with
  | .error e => .error e
  | .ok .help => .ok .help
  | .ok (.finished words) =>
    match words.operands with
    | [] => .error .missingCommand
    | operand :: _ => .error (.unknownCommand operand)
  | .ok (.operand words name rest) => ofCommand (words.value? .config) name rest

/-- The explanation of the commands. -/
def helpText : String :=
  "CLI tool for board peripherals and coprocessor frames\n\nUsage: periph-cli [OPTIONS] <COMMAND>\n\nCommands:\n" ++
    String.join (commands.map fun c => "  " ++ c.name.pushn ' ' (14 - c.name.length) ++ c.summary ++ "\n") ++
    "  help          Print this message or the help of the given subcommand(s)\n\nOptions:\n" ++
    "  -c, --config <CONFIG>  JSON configuration file\n  -h, --help             Print help\n"

/-- The wording of an error. -/
def UsageError.message : UsageError → String
  | .unknownOption word => s!"error: unexpected argument {word} found"
  | .missingValue word => s!"error: a value is required for {word}"
  | .badValue text => s!"error: invalid value {text}"
  | .repeated word => s!"error: {word} cannot be used multiple times"
  | .unknownCommand word => s!"error: unrecognized subcommand {word}"
  | .missingCommand => "error: a subcommand is required"
  | .operandCount => "error: wrong number of arguments"

end Peripherals.Cli
