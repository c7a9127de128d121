import Watchdesk.CommandLine.Text
import Watchdesk.Desk.Serving
import Watchdesk.Settings.File

/-!
# The program

What the program does with its arguments: it prints something and ends, or it has settings to
serve with. Options of the command line count more than the settings file.
-/

namespace Watchdesk.CommandLine

/-- How the program ends. -/
structure Ending where
  exit : Nat
  out : String := ""
  err : String := ""
deriving DecidableEq, Repr

/-- The ending of a command line without options. -/
def Stop.ending : Stop → Ending
  | .help => { exit := 0, out := helpText }
  | .version => { exit := 0, out := versionText }
  | .fault f => { exit := 2, err := f.text }

/-- The description of a fault that ends the program. -/
def describeFault : Fault → String
  | .settings reason => "Config(" ++ Text.quoted reason ++ ")\n"
  | .transport reason => "Http(" ++ Text.quoted reason ++ ")\n"
  | .refused _ detail => "Api(" ++ Text.quoted detail ++ ")\n"
  | .disk reason => "Io(" ++ Text.quoted reason ++ ")\n"
  | .unreadable => "Json"
  | .export reason => "Export(" ++ Text.quoted reason ++ ")\n"
  | .interface reason => "Dashboard(" ++ Text.quoted reason ++ ")\n"

/-- The ending after a fault. -/
def faultEnding (f : Fault) : Ending := { exit := 1, err := "Error: " ++ describeFault f }

/-- Settings with the options of the command line. -/
def Options.override (o : Options) (s : Settings) : Settings :=
  { s with
    backend := { s.backend with baseUrl := o.backendUrl.getD s.backend.baseUrl }
    interface := { s.interface with port := o.dashboardPort.getD s.interface.port } }

/-- The settings to serve with: those of the file that was read, if one was asked for, and the
options. -/
def Options.settings (o : Options) (read : String → Except String String) :
    Except Fault Settings := do
  let s ← match o.config with
    | some path => Settings.ofFile path (read path)
    | none => .ok {}
  (o.override s).checked

/-- What the program does: it ends, or serves with settings. `read` reads a file, and a port may
be taken by somebody else. -/
def run (arguments : List String) (read : String → Except String String) (taken : Option Nat) :
    Except Ending Settings :=
  match Options.ofArguments arguments with
  | .error stop => .error stop.ending
  | .ok options =>
    match options.settings read with
    | .error fault => .error (faultEnding fault)
    | .ok s =>
      if s.interface.blocked (taken == some ·) then
        .error (faultEnding (Desk.portTaken s.interface.port))
      else .ok s

end Watchdesk.CommandLine
