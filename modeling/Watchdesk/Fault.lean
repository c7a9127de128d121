import Watchdesk.Text.Blank

/-!
# Faults

What can go wrong at the desk, and how it is told. `Fault.text` is the full wording;
`Fault.message` is the wording for an operator, with a fallback for a fault that has nothing to
say.
-/

namespace Watchdesk

/-- Something that went wrong. -/
inductive Fault where
  /-- The settings cannot be used. -/
  | settings (reason : String)
  /-- A request did not get an answer. -/
  | transport (reason : String)
  /-- The backend answered, and refused. -/
  | refused (status : Option Nat) (detail : String)
  /-- The file system refused. -/
  | disk (reason : String)
  /-- A text is not the JSON that it should be. -/
  | unreadable
  /-- An export cannot be done. -/
  | export (reason : String)
  /-- The operator interface cannot be offered. -/
  | interface (reason : String)
deriving DecidableEq, Repr, Inhabited

namespace Fault

/-- The full wording. -/
def text : Fault → String
  | .settings reason => "Configuration error: " ++ reason
  | .transport reason => "HTTP request failed: " ++ reason
  | .refused _ detail => detail
  | .disk reason => "IO error: " ++ reason
  | .unreadable => "JSON parse error"
  | .export reason => "Export error: " ++ reason
  | .interface reason => "Dashboard error: " ++ reason

/-- The status of the backend's answer, if the fault is one. -/
def status : Fault → Option Nat
  | .refused status _ => status
  | _ => none

/-- The wording that an operator gets before the fallback is considered: a refusal, a failed
request and a failed export speak for themselves. -/
def ownWords : Fault → String
  | .refused _ detail => detail
  | .transport reason => reason
  | .export reason => reason
  | f => f.text

/-- The wording for an operator; the fallback takes the place of words that cannot be seen. -/
def message (f : Fault) (fallback : String) : String :=
  if Text.allBlank f.ownWords then fallback else f.ownWords

end Fault

end Watchdesk
