import Watchdesk.Proofs.Desk.Life
import Watchdesk.Proofs.Export.Clerk

/-!
# What a desk does for an export

The functions of a desk that move an export on do what its clerk would do, one thing after another.
-/

namespace Watchdesk

/-- The task belongs to an export. -/
def Task.isExport : Task → Bool
  | .probe _ | .batch _ _ => true
  | .poll _ _ | .start _ _ _ | .question _ => false

/-- How a caller is told what became of an export. -/
def Caller.told (caller : Caller) (result : Except Fault Export.Report) : Report :=
  match caller with
  | .operator _ => .exported caller result
  | .page _ => .answered caller (.ofReport result)

namespace Desk

open Export (Next Move Deed Quest)

/-- A desk at which an export goes on. -/
def goOn (d : Desk) (order : ExportOrder) : Next → Desk
  | .asks url quest => d.call (.get url) (quest.task order)
  | .hands artifact rows total =>
    let ticket := d.tickets + 1
    { d with
      tickets := ticket
      savings := d.savings ++ [{ ticket, order, artifact, rows, total }]
      outbox := d.outbox ++ [.save ticket artifact] }
  | .returns result =>
    { d.notifyAll (Export.farewell result) with progress := none, exporting := false }.tell
      (order.caller.told result)

/-- A desk that does something for an export. -/
def perform (d : Desk) (order : ExportOrder) : Deed → Desk
  | .repeats =>
    match d.calls.find? fun c => c.task.isExport with
    | some call => d.resend call
    | none => d
  | .moves move => (move.shown.foldl showProgress d).goOn order move.next

variable (d : Desk) (order : ExportOrder)

theorem tellExported_eq (caller : Caller) (result : Except Fault Export.Report) :
    d.tellExported caller result = d.tell (caller.told result) := by
  cases caller <;> rfl

theorem foldl_showProgress_closed (d : Desk) (shown : List Export.Progress) :
    (shown.foldl showProgress d).closed = d.closed := by
  induction shown generalizing d with
  | nil => rfl
  | cons p shown ih => exact ih (d.showProgress p)

/-- A move that shows nothing. -/
theorem perform_next (next : Next) : d.perform order (.moves { next }) = d.goOn order next := rfl

theorem perform_showing (move : Move) (p : Export.Progress) :
    d.perform order (.moves (move.showing p)) = (d.showProgress p).perform order (.moves move) :=
  rfl

theorem endExport_of_fault (fault : Fault) :
    d.endExport order.caller (.error fault) = d.goOn order (.returns (.error fault)) := by
  unfold endExport
  rw [tellExported_eq]
  rfl

/-- Notices may come before an export ends without a fault. -/
theorem notifyAll_endExport (report : Export.Report) :
    (d.notifyAll (Export.farewell (.ok report))).endExport order.caller (.ok report) =
      d.goOn order (.returns (.ok report)) := by
  unfold endExport
  rw [tellExported_eq]
  rfl

theorem concludeExport_eq (outcome : Export.Outcome) :
    d.concludeExport order outcome = d.goOn order (.ofOutcome outcome) := by
  cases outcome with
  | empty => exact notifyAll_endExport d order .empty
  | cancelled => exact notifyAll_endExport d order .cancelled
  | written artifact rows total => rfl

theorem askRows_eq (limit offset : Nat) (quest : Quest) :
    d.askRows order limit offset (quest.task order) =
      d.goOn order (.query d.settings order limit offset quest) := by
  unfold askRows Next.query
  cases d.settings.backend.listUrl { selection := order.selection, limit, offset } with
  | ok url => rfl
  | error fault => exact endExport_of_fault d order fault

theorem finishExport_eq (run : Export.Run) :
    d.finishExport order run = d.perform order (.moves (run.lastMove order)) := by
  unfold finishExport
  rw [concludeExport_eq]
  rfl

theorem continueExport_eq (run : Export.Run) :
    d.continueExport order run =
      d.perform order (.moves (run.move d.settings order d.closed)) := by
  unfold continueExport Export.Run.move
  cases run.turn d.closed with
  | stop => exact concludeExport_eq d order .cancelled
  | finish => exact finishExport_eq d order run
  | ask offset limit =>
    dsimp only
    rw [perform_next, ← askRows_eq]
    rfl

theorem runExport_eq (job : Export.Job) :
    d.runExport order job = d.perform order (.moves (job.move d.settings order d.closed)) := by
  unfold runExport
  rw [continueExport_eq]
  rfl

theorem settleProbe_eq (result : Except Fault String) :
    d.settleProbe order result =
      d.perform order (.moves (Export.moveOfTotal d.settings order d.closed result)) := by
  unfold settleProbe Export.moveOfTotal
  cases readBody SuspectPage.decoder result with
  | error fault => exact endExport_of_fault d order fault
  | ok page =>
    dsimp only
    cases (Export.Sizing.ofSettings d.settings.exports).start page.total with
    | empty => exact concludeExport_eq d order .empty
    | ready job => exact runExport_eq d order job
    | needsConfirmation cap job =>
      dsimp only
      split
      · exact runExport_eq d order job
      · rw [perform_next, ← notifyAll_endExport]
        rfl

theorem settleBatch_eq (run : Export.Run) (result : Except Fault String) :
    d.settleBatch order run result =
      d.perform order (.moves (run.moveOfBatch d.settings order d.closed result)) := by
  unfold settleBatch Export.Run.moveOfBatch
  cases readBody SuspectPage.decoder result with
  | error fault => exact endExport_of_fault d order fault
  | ok page =>
    dsimp only
    cases run.receive d.closed (page.data.map order.selection.listing.record) with
    | dropped => exact concludeExport_eq d order .cancelled
    | exhausted => exact finishExport_eq d order run
    | gathered next =>
      dsimp only
      rw [continueExport_eq, perform_showing]
      rfl

/-- Whatever the question, its answer moves the export on. -/
theorem settle_quest (quest : Quest) (result : Except Fault String) :
    d.settle (quest.task order) result =
      d.perform order (.moves (quest.move d.settings order d.closed result)) := by
  cases quest with
  | total => exact settleProbe_eq d order result
  | batch run => exact settleBatch_eq d order run result

theorem settleSaving_eq {ticket : Nat} {s : Saving} (saved : Except Fault String)
    (found : d.savings.find? (fun s => s.ticket == ticket) = some s) :
    d.settleSaving ticket saved =
      { d with savings := d.savings.filter fun s => s.ticket ≠ ticket }.perform s.order
        (.moves (Export.moveOfFile s.rows s.total saved)) := by
  unfold settleSaving
  rw [found]
  dsimp only
  cases saved with
  | error fault => exact endExport_of_fault _ s.order fault
  | ok path => exact notifyAll_endExport _ s.order (.written path s.rows s.total _)

theorem requestExport_eq_tell {d : Desk} {order : ExportOrder} (exporting : d.exporting = true) :
    d.requestExport order = d.tell (order.caller.told (.ok .busy)) := by
  unfold requestExport
  rw [if_pos exporting, tellExported_eq]

theorem requestExport_of_idle (idle : d.exporting = false) :
    d.requestExport order =
      { d with exporting := true }.perform order (Clerk.opening d.settings order) := by
  unfold requestExport
  rw [if_neg (by simp [idle])]
  have asked := askRows_eq { d with exporting := true } order 1 0 .total
  unfold Clerk.opening
  rw [perform_next, ← asked]
  rfl

end Desk

end Watchdesk
