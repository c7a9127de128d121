import Watchdesk.Fault
import Watchdesk.Json.Value
import Watchdesk.Settings.Basic

/-!
# Planning an export

An export fetches rows in batches, up to a cap. Nothing is exported of an empty selection; a
selection above the cap has to be confirmed first, and is then cut at the cap.
-/

namespace Watchdesk.Export

/-- An export that is cleared to run. -/
structure Job where
  /-- How many rows the selection has. -/
  total : Nat
  /-- How many rows are to be exported. -/
  exportTotal : Nat
  /-- How many rows are fetched at a time. -/
  batchSize : Nat
deriving DecidableEq, Repr, Inhabited

/-- How exports are sized. -/
structure Sizing where
  batchSize : Nat
  maxRows : Nat
deriving DecidableEq, Repr, Inhabited

/-- What a plan comes to. -/
inductive Start where
  | empty
  | ready (job : Job)
  /-- There are more rows than the cap allows; the job is the one that a confirmation clears. -/
  | needsConfirmation (cap : Nat) (job : Job)
deriving DecidableEq, Repr

namespace Sizing

/-- A batch has at least one row. -/
def ofNumbers (batchSize maxRows : Nat) : Sizing := ⟨max batchSize 1, maxRows⟩

/-- The sizing of a desk. -/
def ofSettings (s : ExportSettings) : Sizing := ofNumbers s.batchSize s.maxRows

/-- Plan an export of a selection of `total` rows. -/
def start (s : Sizing) (total : Nat) : Start :=
  if total = 0 then .empty
  else if s.maxRows < total then .needsConfirmation s.maxRows ⟨total, s.maxRows, s.batchSize⟩
  else .ready ⟨total, total, s.batchSize⟩

end Sizing

/-- What is asked before an export is cut at the cap. -/
def capQuestion (total cap : Nat) : String :=
  toString total ++ " rows match; only the top " ++ toString cap ++ " will be exported"

/-- What an export is doing. -/
inductive Stage where
  | fetching
  | building
deriving DecidableEq, Repr, Inhabited

/-- The name of a stage. -/
def Stage.name : Stage → String
  | .fetching => "fetching"
  | .building => "building"

/-- How far an export has come. -/
structure Progress where
  current : Nat
  total : Nat
  stage : Stage
deriving DecidableEq, Repr, Inhabited

/-- The progress as a JSON value. -/
def Progress.toJson (p : Progress) : Json :=
  .ofMembers [("current", .nat p.current), ("total", .nat p.total),
    ("stage", .string p.stage.name)]

end Watchdesk.Export
