import Watchdesk.CommandLine.Options
import Watchdesk.CommandLine.Terminal

/-!
# What the command line prints

The help text, the version, and the message of each usage fault. In a message the words that were
given stand out, where a terminal listens.
-/

namespace Watchdesk.CommandLine

/-- The name of the program. -/
def program : String := "fraud-console"

/-- The version. -/
def versionText : String := program ++ " 0.1.0\n"

/-- The usage line; without options to show it only says that there are some. -/
def usage (shown : List Flag) : String :=
  let options := if shown.isEmpty then "[OPTIONS]" else " ".intercalate (shown.map Flag.usage)
  "Usage: " ++ program ++ " " ++ options

/-- The usage line of a flag, which goes with one of the options or with none. -/
def flagUsage (flag : Flag) (withOption : Bool) : String :=
  let options := "|".intercalate (optionNames.map OptionName.usage)
  "Usage: " ++ program ++ " " ++ flag.usage
    ++ if withOption then " <" ++ options ++ ">" else ""

/-- A line of the help text: what is typed, padded to a width, and what it does. -/
def helpLine (typed purpose : String) : String :=
  typed ++ String.ofList (List.replicate (41 - typed.length) ' ') ++ purpose ++ "\n"

/-- The help text. -/
def helpText : String :=
  "Job monitoring, notification and bulk export for the fraud-checker backend\n\n"
    ++ usage [] ++ "\n\nOptions:\n"
    ++ helpLine ("  -c, " ++ OptionName.config.usage) "Path to configuration file"
    ++ helpLine ("      " ++ OptionName.backendUrl.usage) "Backend base URL (overrides config file)"
    ++ helpLine ("      " ++ OptionName.dashboardPort.usage)
      "Dashboard port (overrides config file)"
    ++ helpLine ("  -l, " ++ OptionName.logLevel.usage) "Log level [default: info]"
    ++ helpLine "  -h, --help" "Print help"
    ++ helpLine "  -V, --version" "Print version"

/-- The first lines of the message of a fault. -/
def UsageFault.words : UsageFault → String
  | .unexpected argument meant shown =>
    let tip := match meant with
      | some name => "  tip: a similar argument exists: '--" ++ name ++ "'\n\n"
      | none => ""
    "unexpected argument '" ++ Terminal.wrong argument ++ "' found\n\n" ++ tip ++ usage shown
  | .unexpectedValue value flag withOption =>
    "unexpected value '" ++ Terminal.wrong value ++ "' for '" ++ flag.usage
      ++ "' found; no more were expected\n\n" ++ flagUsage flag withOption
  | .missingValue name => "a value is required for '" ++ name.usage ++ "' but none was supplied"
  | .repeated name =>
    "the argument '" ++ name.usage ++ "' cannot be used multiple times\n\n" ++ usage []
  | .invalidValue name value reason =>
    "invalid value '" ++ Terminal.wrong value ++ "' for '" ++ name.usage ++ "': " ++ reason

/-- The message of a fault for a terminal. -/
def UsageFault.message (f : UsageFault) : String :=
  "error: " ++ f.words ++ "\n\nFor more information, try '" ++ Terminal.literal "--help"
    ++ "'.\n"

/-- The message of a fault where no terminal listens. -/
def UsageFault.text (f : UsageFault) : String := Terminal.plain f.message

end Watchdesk.CommandLine
