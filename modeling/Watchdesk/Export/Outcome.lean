import Watchdesk.Fault
import Watchdesk.Json.Value
import Watchdesk.Notice.Basic

/-!
# What becomes of an export

An export that ends without a fault found no rows, was cancelled, or made a file. The operators
are told by notices, and the one who asked for it gets a report.
-/

namespace Watchdesk.Export

/-- A file that was made and is not saved yet. -/
structure Artifact where
  fileName : String
  content : String
deriving DecidableEq, Repr, Inhabited

namespace Artifact

/-- A character of a file name that cannot lead out of its folder. -/
def safeChar (c : Char) : Char := if c = '/' ∨ c = '\\' ∨ c = '\x00' then '_' else c

/-- The name under which the file is saved. -/
def safeName (a : Artifact) : String := String.ofList (a.fileName.toList.map safeChar)

end Artifact

/-- What becomes of an export that does not fail. -/
inductive Outcome where
  | empty
  | cancelled
  | written (artifact : Artifact) (rows total : Nat)
deriving DecidableEq, Repr, Inhabited

namespace Outcome

/-- The file lacks rows of the selection. -/
def isTruncated : Outcome → Bool
  | .written _ rows total => rows < total
  | .empty | .cancelled => false

/-- How long operators are told that an export has finished, in milliseconds. -/
def finishedFor : Nat := 8000

/-- The notices of an outcome. -/
def notices : Outcome → List NewNotice
  | .empty =>
    [{ variant := .info, title := "Nothing to export",
       description := some "No rows matched the current filters" }]
  | .cancelled => [{ variant := .info, title := "Export cancelled" }]
  | .written _ rows total =>
    { variant := .success, title := "Export finished",
      description := some ("Exported " ++ toString rows ++ " rows"),
      duration := .milliseconds finishedFor }
    :: if rows < total then
        [{ variant := .warning, title := "Export truncated",
           description :=
             some ("Exported " ++ toString rows ++ " of " ++ toString total ++ " rows") }]
      else []

end Outcome

/-- The notice of an export that failed. -/
def failureNotice (fault : Fault) : NewNotice :=
  { variant := .error, title := "Export failed",
    description := some (fault.message "Export failed"), duration := .persistent }

/-- What the one who asked for an export is told. -/
inductive Report where
  | needsConfirmation (total cap : Nat) (question : String)
  | empty
  | cancelled
  /-- Another export is under way. -/
  | busy
  | written (path : String) (rows total : Nat) (truncated : Bool)
deriving DecidableEq, Repr, Inhabited

/-- The report as a JSON value. -/
def Report.toJson : Report → Json
  | .needsConfirmation total cap question =>
    .ofMembers [("status", .string "needs_confirmation"), ("total", .nat total),
      ("cap", .nat cap), ("message", .string question)]
  | .empty => .ofMembers [("status", .string "empty")]
  | .cancelled => .ofMembers [("status", .string "cancelled")]
  | .busy => .ofMembers [("status", .string "busy")]
  | .written path rows total truncated =>
    .ofMembers [("status", .string "written"), ("path", .string path), ("rows", .nat rows),
      ("total", .nat total), ("truncated", .bool truncated)]

end Watchdesk.Export
