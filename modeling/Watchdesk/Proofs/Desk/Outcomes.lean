import Watchdesk.Proofs.Desk.Courses
import Watchdesk.Proofs.Export.Remains

/-!
# Exports that fail

An export that fails publishes one notice, of its failure, leaves the slot free, and leaves no file,
unless it fails because its file cannot be saved. Whoever exports next finds everything as if it had
not been tried, but for what such a save has left on the disk.
-/

namespace Watchdesk.Desk

open Export (Artifact Deed Move Hearing)

variable {settings : Settings} {order : ExportOrder} {heard : List Hearing} {deeds : List Deed}
  {e : Desk}

/-- The notices that an export has published. -/
def noticesOf (deeds : List Deed) : List NewNotice :=
  (deeds.filterMap Deed.move?).flatMap Move.notices

/-- What an export has returned. -/
def resultsOf (deeds : List Deed) : List (Except Fault Export.Report) :=
  (deeds.filterMap Deed.move?).filterMap Move.result?

/-- The files that an export has handed out to be saved. -/
def filesOf (deeds : List Deed) : List Artifact :=
  (deeds.filterMap Deed.move?).filterMap Move.file?

end Watchdesk.Desk
