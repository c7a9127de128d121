import Watchdesk.Desk.Basic

/-!
# Exporting

How a desk exports a list of suspects: it learns how many rows there are, plans the export, runs
it batch after batch, has the file saved, and tells the one who asked. One export is under way at
a time; another request is told so, and changes nothing.
-/

namespace Watchdesk.Desk

/-- Tell the caller what became of an export. -/
def tellExported (d : Desk) (caller : Caller) (result : Except Fault Export.Report) : Desk :=
  match caller with
  | .operator _ => d.tell (.exported caller result)
  | .page _ => d.tell (.answered caller (.ofReport result))

/-- An export is over: its progress is no longer shown, a fault is published, and another export
may begin. -/
def endExport (d : Desk) (caller : Caller) (result : Except Fault Export.Report) : Desk :=
  let d := { d with progress := none, exporting := false }
  let d := match result with
    | .ok _ => d
    | .error fault => d.notify (Export.failureNotice fault)
  d.tellExported caller result

/-- Ask for a part of a list. -/
def askRows (d : Desk) (order : ExportOrder) (limit offset : Nat) (task : Task) : Desk :=
  match d.settings.backend.listUrl { selection := order.selection, limit, offset } with
  | .ok url => d.call (.get url) task
  | .error fault => d.endExport order.caller (.error fault)

/-- Begin an export, unless one is under way. -/
def requestExport (d : Desk) (order : ExportOrder) : Desk :=
  if d.exporting then d.tellExported order.caller (.ok .busy)
  else { d with exporting := true }.askRows order 1 0 (.probe order)

/-- An export has come to an outcome. A file is saved before anything is told. -/
def concludeExport (d : Desk) (order : ExportOrder) (outcome : Export.Outcome) : Desk :=
  match outcome with
  | .empty => (d.notifyAll outcome.notices).endExport order.caller (.ok .empty)
  | .cancelled => (d.notifyAll outcome.notices).endExport order.caller (.ok .cancelled)
  | .written artifact rows total =>
    let ticket := d.tickets + 1
    { d with
      tickets := ticket
      savings := d.savings ++ [{ ticket, order, artifact, rows, total }]
      outbox := d.outbox ++ [.save ticket artifact] }

/-- Show how far an export has come. -/
def showProgress (d : Desk) (p : Export.Progress) : Desk := { d with progress := some p }

/-- An export has all rows that it will get. -/
def finishExport (d : Desk) (order : ExportOrder) (run : Export.Run) : Desk :=
  let listing := order.selection.listing
  (run.finishReports.foldl showProgress d).concludeExport order
    (run.finish listing.header order.selection.fileName)

/-- Do what an export wants next. -/
def continueExport (d : Desk) (order : ExportOrder) (run : Export.Run) : Desk :=
  match run.turn d.closed with
  | .stop => d.concludeExport order .cancelled
  | .finish => d.finishExport order run
  | .ask offset limit => d.askRows order limit offset (.batch order run)

/-- Run an export that is cleared to. -/
def runExport (d : Desk) (order : ExportOrder) (job : Export.Job) : Desk :=
  let run : Export.Run := { job }
  (d.showProgress (run.progress .fetching)).continueExport order run

/-- The backend has told how many rows there are. -/
def settleProbe (d : Desk) (order : ExportOrder) (result : Except Fault String) : Desk :=
  match readBody SuspectPage.decoder result with
  | .error fault => d.endExport order.caller (.error fault)
  | .ok page =>
    match (Export.Sizing.ofSettings d.settings.exports).start page.total with
    | .empty => d.concludeExport order .empty
    | .ready job => d.runExport order job
    | .needsConfirmation cap job =>
      if order.confirm then d.runExport order job
      else
        d.endExport order.caller
          (.ok (.needsConfirmation job.total cap (Export.capQuestion job.total cap)))

/-- The backend has sent a batch. -/
def settleBatch (d : Desk) (order : ExportOrder) (run : Export.Run)
    (result : Except Fault String) : Desk :=
  match readBody SuspectPage.decoder result with
  | .error fault => d.endExport order.caller (.error fault)
  | .ok page =>
    match run.receive d.closed (page.data.map order.selection.listing.record) with
    | .dropped => d.concludeExport order .cancelled
    | .exhausted => d.finishExport order run
    | .gathered next => (d.showProgress (next.progress .fetching)).continueExport order next

/-- A file was saved, or could not be. -/
def settleSaving (d : Desk) (ticket : Nat) (saved : Except Fault String) : Desk :=
  match d.savings.find? fun s => s.ticket == ticket with
  | none => d
  | some s =>
    let d := { d with savings := d.savings.filter fun s => s.ticket ≠ ticket }
    let outcome := Export.Outcome.written s.artifact s.rows s.total
    match saved with
    | .error fault => d.endExport s.order.caller (.error fault)
    | .ok path =>
      (d.notifyAll outcome.notices).endExport s.order.caller
        (.ok (.written path s.rows s.total outcome.isTruncated))

end Watchdesk.Desk
