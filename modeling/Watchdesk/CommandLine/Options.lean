import Watchdesk.CommandLine.Resemblance
import Watchdesk.Text.Digits

/-!
# Options of the command line

Four options with a value, and two that only ask for a text. A value stands behind an equals sign,
directly behind the letter of an option, or as the next argument. A value that is an argument of
its own is looked at when the next option comes, or at the end.
-/

namespace Watchdesk.CommandLine

/-- An option with a value. -/
inductive OptionName where
  | config
  | backendUrl
  | dashboardPort
  | logLevel
deriving DecidableEq, Repr

/-- What an argument may ask for. -/
inductive Flag where
  | option (name : OptionName)
  | help
  | version
deriving DecidableEq, Repr

/-- The long name of an option. -/
def OptionName.long : OptionName → String
  | .config => "config"
  | .backendUrl => "backend-url"
  | .dashboardPort => "dashboard-port"
  | .logLevel => "log-level"

/-- An option with its value, as usage texts show it. -/
def OptionName.usage : OptionName → String
  | .config => "--config <CONFIG>"
  | .backendUrl => "--backend-url <BACKEND_URL>"
  | .dashboardPort => "--dashboard-port <DASHBOARD_PORT>"
  | .logLevel => "--log-level <LOG_LEVEL>"

/-- The long name of what an argument may ask for. -/
def Flag.long : Flag → String
  | .option name => name.long
  | .help => "help"
  | .version => "version"

/-- All options. -/
def optionNames : List OptionName := [.config, .backendUrl, .dashboardPort, .logLevel]

/-- Everything that an argument may ask for. -/
def flags : List Flag := optionNames.map .option ++ [.help, .version]

/-- What an argument may ask for, as usage texts show it. -/
def Flag.usage : Flag → String
  | .option name => name.usage
  | flag => "--" ++ flag.long

/-- What a letter asks for. -/
def Flag.ofLetter : Char → Option Flag
  | 'c' => some (.option .config)
  | 'l' => some (.option .logLevel)
  | 'h' => some .help
  | 'V' => some .version
  | _ => none

/-- What a long name asks for. -/
def Flag.ofLong (name : String) : Option Flag := flags.find? fun f => f.long == name

/-- Why the arguments cannot be used. -/
inductive UsageFault where
  /-- An argument that nobody knows, what may be meant, and the options to show. -/
  | unexpected (argument : String) (meant : Option String) (shown : List Flag)
  /-- A value of a flag, and whether an option has a value, too. -/
  | unexpectedValue (value : String) (flag : Flag) (withOption : Bool)
  | missingValue (name : OptionName)
  | repeated (name : OptionName)
  | invalidValue (name : OptionName) (value reason : String)
deriving DecidableEq, Repr

/-- Why the arguments lead to no options. -/
inductive Stop where
  | help
  | version
  | fault (f : UsageFault)
deriving DecidableEq, Repr

/-- The values of the options. -/
structure Options where
  config : Option String := none
  backendUrl : Option String := none
  dashboardPort : Option Nat := none
  /-- The level of the log, from 1 for errors only to 5 for everything. -/
  logLevel : Option Nat := none
deriving DecidableEq, Repr, Inhabited

/-! ## Values -/

/-- An integer of 64 bits with an optional sign. Too many digits are a fault before anything that
stands behind them is. -/
def integer (s : String) : Except String Int :=
  let read := fun (negative : Bool) (cs : List Char) =>
    let ds := cs.takeWhile Char.isDigit
    let n := Digits.value ds
    if negative && 2 ^ 63 < n then .error "number too small to fit in target type"
    else if !negative && 2 ^ 63 ≤ n then .error "number too large to fit in target type"
    else if ds.isEmpty || ds.length < cs.length then .error "invalid digit found in string"
    else .ok (if negative then -(n : Int) else n)
  match s.toList with
  | [] => .error "cannot parse integer from empty string"
  | '-' :: ds => read true ds
  | '+' :: ds => read false ds
  | ds => read false ds

/-- A port. -/
def port (s : String) : Except String Nat := do
  let n ← integer s
  if 0 ≤ n ∧ n ≤ 65535 then .ok n.toNat
  else .error (toString n ++ " is not in 0..=65535")

/-- The names of the levels of the log. -/
def levelNames : List (String × Nat) :=
  [("error", 1), ("warn", 2), ("info", 3), ("debug", 4), ("trace", 5)]

/-- A level of the log: a number, or a name in capitals or not. -/
def level (s : String) : Option Nat :=
  let digits := match s.toList with
    | '+' :: ds => ds
    | ds => ds
  if Digits.isNumeral digits then
    let n := Digits.value digits
    if 1 ≤ n ∧ n ≤ 5 then some n else none
  else levelNames.lookup (String.ofList (s.toList.map Char.toLower))

/-- What to say of a level that is none. -/
def levelReason (s : String) : String :=
  "Invalid log level: " ++ s ++ ". Use: trace, debug, info, warn, error"

/-- Give an option a value. -/
def Options.set (o : Options) (name : OptionName) (value : String) :
    Except UsageFault Options :=
  match name with
  | .config =>
    if value = "" then .error (.missingValue name) else .ok { o with config := some value }
  | .backendUrl => .ok { o with backendUrl := some value }
  | .dashboardPort =>
    match port value with
    | .ok n => .ok { o with dashboardPort := some n }
    | .error reason => .error (.invalidValue name value reason)
  | .logLevel =>
    match level value with
    | some n => .ok { o with logLevel := some n }
    | none => .error (.invalidValue name value (levelReason value))

/-! ## Arguments -/

/-- What has been read: the options that have a value, in their order, and an option that waits
for its value or has it as an argument of its own. -/
structure Reading where
  options : Options := {}
  used : List OptionName := []
  pending : Option (OptionName × Option String) := none

namespace Reading

/-- An option has a value. -/
def accept (r : Reading) (name : OptionName) (value : String) : Except UsageFault Reading := do
  if name ∈ r.used then .error (.repeated name)
  else
    let options ← r.options.set name value
    .ok { r with options, used := r.used ++ [name] }

/-- Look at the value that was put off. -/
def resolve (r : Reading) : Except UsageFault Reading :=
  match r.pending with
  | none => .ok r
  | some (name, none) => .error (.missingValue name)
  | some (name, some value) => { r with pending := none }.accept name value

/-- The options that a usage text shows: those that have a value, be it one that makes no sense. An
option that was given twice is not shown. -/
def shown (r : Reading) : List Flag :=
  let names := match r.pending with
    | some (name, some _) => if name ∈ r.used then r.used.erase name else r.used ++ [name]
    | _ => r.used
  names.map .option

/-- An option comes, with a value or without one. -/
def take (r : Reading) (name : OptionName) (value : Option String) :
    Except UsageFault Reading := do
  let r ← r.resolve
  match value with
  | some v => r.accept name v
  | none => .ok { r with pending := some (name, none) }

/-- A fault stops the reading. -/
def stopping {α : Type} : Except UsageFault α → Except Stop α
  | .ok x => .ok x
  | .error f => .error (.fault f)

/-- A flag asks for a text: the value that was put off is looked at first. -/
def ask {α : Type} (r : Reading) (stop : Stop) : Except Stop α := do
  let _ ← stopping r.resolve
  .error stop

/-- A long name, and its value if there is one. -/
def long (r : Reading) (name : String) (value : Option String) : Except Stop Reading :=
  match Flag.ofLong name with
  | some (.option option) => stopping (r.take option value)
  | some flag =>
    match value with
    | some v => .error (.fault (.unexpectedValue v flag (!r.used.isEmpty)))
    | none => r.ask (if flag = .help then .help else .version)
  | none =>
    let meant := Resemblance.closest name (flags.map Flag.long)
    let shown := match meant.bind Flag.ofLong with
      | some flag => if flag ∈ r.shown then r.shown else r.shown ++ [flag]
      | none => r.shown
    .error (.fault (.unexpected ("--" ++ name) meant shown))

/-- A letter, and the characters behind it. -/
def letter (r : Reading) (c : Char) (rest : List Char) : Except Stop Reading :=
  match Flag.ofLetter c with
  | some (.option option) =>
    let value := match rest with
      | [] => none
      | '=' :: v => some (String.ofList v)
      | v => some (String.ofList v)
    stopping (r.take option value)
  | some .help => r.ask .help
  | some .version => r.ask .version
  | none => .error (.fault (.unexpected (String.ofList ['-', c]) none []))

/-- An argument that is no option is the value of the option that waits for one. -/
def plain (r : Reading) (argument : String) : Except Stop Reading :=
  match r.pending with
  | some (name, none) => .ok { r with pending := some (name, some argument) }
  | _ => .error (.fault (.unexpected argument none []))

/-- One argument. -/
def argument (r : Reading) (a : String) : Except Stop Reading :=
  match a.toList with
  | '-' :: '-' :: rest =>
    let (name, value) := rest.span (· ≠ '=')
    r.long (String.ofList name) (match value with
      | [] => none
      | _ :: v => some (String.ofList v))
  | ['-'] => r.plain a
  | '-' :: c :: rest => r.letter c rest
  | _ => r.plain a

/-- All arguments; behind two dashes no argument is known. -/
def arguments : Reading → List String → Except Stop Reading
  | r, [] => .ok r
  | r, "--" :: rest =>
    match rest with
    | [] => .ok r
    | a :: _ => .error (.fault (.unexpected a none []))
  | r, a :: rest => do
    let r ← r.argument a
    r.arguments rest

end Reading

/-- The options of a command line. -/
def Options.ofArguments (arguments : List String) : Except Stop Options := do
  let r ← Reading.arguments {} arguments
  let r ← Reading.stopping r.resolve
  .ok r.options

end Watchdesk.CommandLine
