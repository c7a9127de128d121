import Watchdesk.Desk.Basic
import Watchdesk.Json.Printer
import Watchdesk.Text.Quoted

/-!
# Descriptions

One line about each part of a desk, for those who look after it: the name of the part and its
fields, texts between quotes, and what is missing as `None`.
-/

namespace Watchdesk

/-- A part with its fields. -/
def describePart (name : String) (fields : List (String × String)) : String :=
  name ++ " \x7b " ++ ", ".intercalate (fields.map fun f => f.1 ++ ": " ++ f.2) ++ " \x7d"

/-- A truth value. -/
def describeBool (b : Bool) : String := if b then "true" else "false"

namespace Json

mutual

/-- The description of a value. -/
def description : Json → String
  | .null => "Null"
  | .bool b => "Bool(" ++ describeBool b ++ ")"
  | .number n => "Number(" ++ String.ofList n.text ++ ")"
  | .string s => "String(" ++ Text.quoted s ++ ")"
  | .array items => "Array [" ++ ", ".intercalate (itemDescriptions items) ++ "]"
  | .object members => "Object \x7b" ++ ", ".intercalate (memberDescriptions members) ++ "\x7d"

/-- The descriptions of items. -/
def itemDescriptions : List Json → List String
  | [] => []
  | x :: xs => description x :: itemDescriptions xs

/-- The descriptions of members. -/
def memberDescriptions : List (String × Json) → List String
  | [] => []
  | (k, v) :: ms => (Text.quoted k ++ ": " ++ description v) :: memberDescriptions ms

end

end Json

/-- The description of what a job resulted in. -/
def describeResult : Option Members → String
  | none => "None"
  | some ms => "Some(\x7b" ++ ", ".intercalate (Json.memberDescriptions ms) ++ "\x7d)"

/-- The description of a status. -/
def RunnerStatus.description : RunnerStatus → String
  | .idle => "Idle"
  | .running => "Running"
  | .success => "Success"
  | .error => "Error"

/-- The description of a view. -/
def RunnerView.description (v : RunnerView) : String :=
  describePart "RunnerView" [("status", v.status.description), ("message", Text.quoted v.message),
    ("job_id", Text.quotedOption v.jobId), ("result", describeResult v.result),
    ("loading", describeBool v.loading)]

/-- The description of a store. -/
def Store.description {σ ω : Type} (s : Store σ ω) (source : Source σ) : String :=
  describePart "PollingStore" [("source", Text.quoted source.name),
    ("observers", toString s.observers.length)]

/-- The description of a list of notices. -/
def Center.description (c : Center) : String :=
  describePart "NotificationCenter" [("capacity", toString c.capacity),
    ("notices", toString c.notices.length)]

/-- The description of a runner. -/
def Runner.description (r : Runner) : String :=
  describePart "JobRunner" [("view", r.view.description)]

/-- The description of what the backend is asked through. -/
def BackendSettings.description (s : BackendSettings) : String :=
  describePart "HttpBackend" [("base_url", Text.quoted s.base), ("retries", toString s.retries)]

/-- The description of a watch that is held. -/
def Watch.description : String := describePart "Subscription" [("active", describeBool true)]

/-- The description of a desk. -/
def Desk.description (d : Desk) : String :=
  describePart "Console" [("backend", Text.quoted d.settings.backend.baseUrl)]

/-- The descriptions of a desk's parts. -/
def Desk.partDescriptions (d : Desk) : List String :=
  [d.jobs.description (.job d.settings.polling), d.health.description (.health d.settings.polling),
    d.center.description, d.runner.description]

end Watchdesk
