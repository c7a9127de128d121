import Watchdesk.Desk.Task
import Mathlib.Data.List.Induction

/-!
# An export at work

A clerk is an export by itself: what it waits for, and all that it has done. It hears the answers to
its own questions, the ends of its pauses and what became of its file, and at each of them whether
the desk is closed; what it does depends on nothing else. An export of a desk does what its clerk
does (`Desk.Course.tracked`).
-/

namespace Watchdesk

namespace Export

/-- What an export asks the backend for. -/
inductive Quest where
  | total
  | batch (run : Run)
deriving Repr, Inhabited

/-- What a desk does with the answer to a question of an export. -/
def Quest.task (order : ExportOrder) : Quest → Task
  | .total => .probe order
  | .batch run => .batch order run

/-- The notices with which an export returns. -/
def farewell : Except Fault Report → List NewNotice
  | .error fault => [failureNotice fault]
  | .ok .empty => Outcome.empty.notices
  | .ok .cancelled => Outcome.cancelled.notices
  | .ok (.written path rows total _) => (Outcome.written ⟨path, ""⟩ rows total).notices
  | .ok (.needsConfirmation _ _ _) | .ok .busy => []

/-- How an export goes on: it asks, hands out its file, or returns. -/
inductive Next where
  | asks (url : String) (quest : Quest)
  | hands (artifact : Artifact) (rows total : Nat)
  | returns (result : Except Fault Report)
deriving Inhabited

/-- A move of an export: how far it shows itself to have come, and how it goes on. -/
structure Move where
  shown : List Progress := []
  next : Next

/-- What an export does when it hears something. -/
inductive Deed where
  /-- It has its question sent again. -/
  | repeats
  | moves (move : Move)

/-- What an export hears. -/
inductive Word where
  | answered (answer : Except Fault Reply)
  /-- A pause is over. -/
  | rested
  | saved (result : Except Fault String)
deriving DecidableEq

/-- A word that an export hears while the desk is closed or is not. -/
structure Hearing where
  closed : Bool
  word : Word
deriving DecidableEq

/-- What an export waits for: the answer to a question that was sent again `attempts` times, or its
file. -/
inductive Wait where
  | answer (quest : Quest) (attempts : Nat)
  | file (artifact : Artifact) (rows total : Nat)

variable (settings : Settings) (order : ExportOrder)

/-! ## The moves of an export -/

/-- A move that first shows how far the export has come. -/
def Move.showing (m : Move) (p : Progress) : Move := { m with shown := p :: m.shown }

/-- What comes after a run has ended: a file is handed out, or the export returns. -/
def Next.ofOutcome : Outcome → Next
  | .empty => .returns (.ok .empty)
  | .cancelled => .returns (.ok .cancelled)
  | .written artifact rows total => .hands artifact rows total

/-- Ask for a part of the list. -/
def Next.query (limit offset : Nat) (quest : Quest) : Next :=
  match settings.backend.listUrl { selection := order.selection, limit, offset } with
  | .ok url => .asks url quest
  | .error fault => .returns (.error fault)

/-- The move of a run that has all rows that it will get. -/
def Run.lastMove (run : Run) : Move where
  shown := run.finishReports
  next := .ofOutcome (run.finish order.selection.listing.header order.selection.fileName)

/-- The move of a run that wants more. -/
def Run.move (run : Run) (closed : Bool) : Move :=
  match run.turn closed with
  | .stop => { next := .ofOutcome .cancelled }
  | .finish => run.lastMove order
  | .ask offset limit => { next := .query settings order limit offset (.batch run) }

/-- The first move of a run. -/
def Job.move (job : Job) (closed : Bool) : Move :=
  let run : Run := { job }
  (run.move settings order closed).showing (run.progress .fetching)

/-- The move when the number of rows is known. -/
def moveOfTotal (closed : Bool) (result : Except Fault String) : Move :=
  match readBody SuspectPage.decoder result with
  | .error fault => { next := .returns (.error fault) }
  | .ok page =>
    match (Sizing.ofSettings settings.exports).start page.total with
    | .empty => { next := .ofOutcome .empty }
    | .ready job => job.move settings order closed
    | .needsConfirmation cap job =>
      if order.confirm then job.move settings order closed
      else
        { next := .returns
            (.ok (.needsConfirmation job.total cap (capQuestion job.total cap))) }

/-- The move when a batch has come. -/
def Run.moveOfBatch (run : Run) (closed : Bool) (result : Except Fault String) : Move :=
  match readBody SuspectPage.decoder result with
  | .error fault => { next := .returns (.error fault) }
  | .ok page =>
    match run.receive closed (page.data.map order.selection.listing.record) with
    | .dropped => { next := .ofOutcome .cancelled }
    | .exhausted => run.lastMove order
    | .gathered next => (next.move settings order closed).showing (next.progress .fetching)

/-- The move when a question is settled. -/
def Quest.move (closed : Bool) (result : Except Fault String) : Quest → Move
  | .total => moveOfTotal settings order closed result
  | .batch run => run.moveOfBatch settings order closed result

/-- The move when the file was saved, or could not be. -/
def moveOfFile (rows total : Nat) (saved : Except Fault String) : Move where
  next := .returns (saved.map fun path => .written path rows total (rows < total))

/-- The export fetches a batch or hands out its file. -/
def Next.isFurther : Next → Bool
  | .asks _ (.batch _) | .hands _ _ _ => true
  | .asks _ .total | .returns _ => false

theorem Next.isFurther_query_total (limit offset : Nat) :
    (Next.query settings order limit offset .total).isFurther = false := by
  unfold Next.query
  split <;> rfl

/-- At a closed desk a run without records fetches none, and has no file. -/
theorem Run.isFurther_move_closed {run : Run} (bare : run.records = []) :
    (run.move settings order true).next.isFurther = false := by
  unfold Run.move Run.turn
  by_cases more : run.offset < run.job.exportTotal
  · rw [if_pos more]
    rfl
  · rw [if_neg more]
    simp [Run.lastMove, Run.finish, bare, Next.ofOutcome, Next.isFurther]

/-- At a closed desk no answer brings an export further. -/
theorem Quest.isFurther_move_closed (quest : Quest) (result : Except Fault String) :
    (quest.move settings order true result).next.isFurther = false := by
  cases quest with
  | total =>
    show (moveOfTotal settings order true result).next.isFurther = false
    unfold moveOfTotal
    split
    · rfl
    · split
      · rfl
      · exact Run.isFurther_move_closed settings order rfl
      · split
        · exact Run.isFurther_move_closed settings order rfl
        · rfl
  | batch run =>
    show (run.moveOfBatch settings order true result).next.isFurther = false
    unfold Run.moveOfBatch
    split <;> rfl

/-! ## The clerk -/

/-- What an export does about something that it hears. -/
def Wait.deed (wait : Wait) (hearing : Hearing) : Option Deed :=
  match wait, hearing.word with
  | .answer quest attempts, .answered came =>
    match Retry.judge settings.backend attempts came with
    | .settled result => some (.moves (quest.move settings order hearing.closed result))
    | .again span => if span = 0 then some .repeats else none
  | .answer _ _, .rested => some .repeats
  | .file _ rows total, .saved saved => some (.moves (moveOfFile rows total saved))
  | _, _ => none

/-- An answer that settles a question moves the export on. -/
theorem Wait.deed_of_settled (quest : Quest) {attempts : Nat} {came : Except Fault Reply}
    {result : Except Fault String} (closed : Bool)
    (judged : Retry.judge settings.backend attempts came = .settled result) :
    (Wait.answer quest attempts).deed settings order ⟨closed, .answered came⟩ =
      some (.moves (quest.move settings order closed result)) := by
  unfold Wait.deed
  dsimp only
  rw [judged]

/-- After any other answer the question is sent again, at once if there is no pause. -/
theorem Wait.deed_of_again (quest : Quest) {attempts span : Nat} {came : Except Fault Reply}
    (closed : Bool) (judged : Retry.judge settings.backend attempts came = .again span) :
    (Wait.answer quest attempts).deed settings order ⟨closed, .answered came⟩ =
      if span = 0 then some .repeats else none := by
  unfold Wait.deed
  dsimp only
  rw [judged]

/-- What an export waits for then. -/
def Next.wait : Next → Option Wait
  | .asks _ quest => some (.answer quest 0)
  | .hands artifact rows total => some (.file artifact rows total)
  | .returns _ => none

/-- What an export waits for that asks again. -/
def Wait.repeated : Wait → Wait
  | .answer quest attempts => .answer quest (attempts + 1)
  | .file artifact rows total => .file artifact rows total

/-- What an export waits for after what it does. -/
def Deed.wait (before : Option Wait) : Deed → Option Wait
  | .repeats => before.map Wait.repeated
  | .moves move => move.next.wait

/-- An export waits for an answer after the deed. -/
def Deed.asks : Deed → Bool
  | .repeats => true
  | .moves ⟨_, .asks _ _⟩ => true
  | .moves ⟨_, .hands _ _ _⟩ | .moves ⟨_, .returns _⟩ => false

/-- The move of a deed that is not a question asked again. -/
def Deed.move? : Deed → Option Move
  | .repeats => none
  | .moves move => some move

/-- The notices that a move publishes. -/
def Move.notices (m : Move) : List NewNotice :=
  match m.next with
  | .returns result => farewell result
  | .asks _ _ | .hands _ _ _ => []

/-- The file that a move hands out. -/
def Move.file? (m : Move) : Option Artifact :=
  match m.next with
  | .hands artifact _ _ => some artifact
  | .asks _ _ | .returns _ => none

/-- What an export returns with a move. -/
def Move.result? (m : Move) : Option (Except Fault Report) :=
  match m.next with
  | .returns result => some result
  | .asks _ _ | .hands _ _ _ => none

end Export

open Export

/-- An export at work. -/
structure Clerk where
  wait : Option Wait := none
  deeds : List Deed := []

namespace Clerk

variable (settings : Settings) (order : ExportOrder)

/-- A clerk after a deed. -/
def perform (c : Clerk) (deed : Deed) : Clerk := ⟨deed.wait c.wait, c.deeds ++ [deed]⟩

/-- A clerk that has just begun an export: it asks for one row, with which the number of all rows
comes. -/
def opening : Deed := .moves { next := .query settings order 1 0 .total }

/-- A clerk that hears something. -/
def hear (c : Clerk) (hearing : Hearing) : Clerk :=
  match c.wait.bind fun wait => wait.deed settings order hearing with
  | some deed => c.perform deed
  | none => c

/-- A clerk that has heard one thing after another. -/
def attend (heard : List Hearing) : Clerk :=
  heard.foldl (hear settings order) (perform {} (opening settings order))

/-- The moves that a clerk has made. -/
def moves (c : Clerk) : List Move := c.deeds.filterMap Deed.move?

variable {settings : Settings} {order : ExportOrder} {c : Clerk} {wait : Wait} {hearing : Hearing}
  {heard : List Hearing}

theorem attend_append (heard later : List Hearing) :
    attend settings order (heard ++ later) =
      later.foldl (hear settings order) (attend settings order heard) :=
  List.foldl_append

theorem hear_of_deed {deed : Deed} (waits : c.wait = some wait)
    (done : wait.deed settings order hearing = some deed) :
    c.hear settings order hearing = c.perform deed := by
  unfold hear
  rw [waits, Option.bind_some, done]

theorem hear_of_no_deed (waits : c.wait = some wait)
    (idle : wait.deed settings order hearing = none) : c.hear settings order hearing = c := by
  unfold hear
  rw [waits, Option.bind_some, idle]

/-- A clerk that has returned does nothing more. -/
theorem hear_of_returned (returned : c.wait = none) (hearing : Hearing) :
    c.hear settings order hearing = c := by
  unfold hear
  rw [returned, Option.bind_none]

@[simp] theorem moves_perform (c : Clerk) (deed : Deed) :
    (c.perform deed).moves = c.moves ++ deed.move?.toList := by
  unfold moves perform
  rw [List.filterMap_append]
  cases deed <;> rfl

/-! ## How the work of a clerk goes -/

/-- How far the work of a clerk may have come. A file is handed out once, when everything that was
asked is answered; and a clerk returns once, without a file or when it hears what became of it. -/
inductive Stage (heard : List Hearing) : Clerk → Prop where
  | asking {quest : Quest} {attempts : Nat} {deeds : List Deed} (asked : deeds.all Deed.asks) :
      Stage heard ⟨some (.answer quest attempts), deeds⟩
  | filing {artifact : Artifact} {rows total : Nat} {shown : List Progress} {deeds : List Deed}
      (asked : deeds.all Deed.asks) :
      Stage heard ⟨some (.file artifact rows total),
        deeds ++ [.moves ⟨shown, .hands artifact rows total⟩]⟩
  | returned {shown : List Progress} {result : Except Fault Export.Report} {deeds : List Deed}
      (asked : deeds.all Deed.asks) : Stage heard ⟨none, deeds ++ [.moves ⟨shown, .returns result⟩]⟩
  | filed {artifact : Artifact} {rows total : Nat} {shown : List Progress} {deeds : List Deed}
      {closed : Bool} {saved : Except Fault String} (asked : deeds.all Deed.asks)
      (told : ⟨closed, .saved saved⟩ ∈ heard) :
      Stage heard ⟨none, deeds ++ [.moves ⟨shown, .hands artifact rows total⟩,
        .moves (moveOfFile rows total saved)]⟩

/-- Whatever move follows what was only asked so far. -/
theorem Stage.of_move {deeds : List Deed} (asked : deeds.all Deed.asks) (before : Option Wait)
    (move : Move) : Stage heard (perform ⟨before, deeds⟩ (.moves move)) := by
  obtain ⟨shown, next⟩ := move
  cases next with
  | asks url quest =>
    have all : (deeds ++ [Deed.moves ⟨shown, .asks url quest⟩]).all Deed.asks := by
      rw [List.all_append, asked]
      rfl
    exact .asking all
  | hands artifact rows total => exact .filing asked
  | returns result => exact .returned asked

theorem Stage.hear (stage : Stage heard c) (hearing : Hearing) :
    Stage (heard ++ [hearing]) (c.hear settings order hearing) := by
  cases stage with
  | @asking quest attempts deeds asked =>
    cases done : (Wait.answer quest attempts).deed settings order hearing with
    | none =>
      rw [hear_of_no_deed rfl done]
      exact .asking asked
    | some deed =>
      rw [hear_of_deed rfl done]
      cases deed with
      | repeats =>
        have all : (deeds ++ [Deed.repeats]).all Deed.asks := by
          rw [List.all_append, asked]
          rfl
        exact .asking all
      | moves move => exact .of_move asked _ move
  | @filing artifact rows total shown deeds asked =>
    obtain ⟨closed, word⟩ := hearing
    cases word with
    | answered answer =>
      rw [hear_of_no_deed rfl rfl]
      exact .filing asked
    | rested =>
      rw [hear_of_no_deed rfl rfl]
      exact .filing asked
    | saved saved =>
      rw [hear_of_deed rfl rfl]
      unfold perform
      rw [List.append_assoc]
      exact .filed asked (List.mem_append_right heard (List.mem_singleton_self _))
  | returned asked =>
    rw [hear_of_returned rfl]
    exact .returned asked
  | filed asked told =>
    rw [hear_of_returned rfl]
    exact .filed asked (List.mem_append_left _ told)

/-- As long as an export only asks, it publishes nothing, hands out no file and returns nothing;
what it does later is all that can be seen of it. -/
theorem views_of_asked {deeds : List Deed} (asked : deeds.all Deed.asks) (wait : Option Wait)
    (more : List Deed) :
    let c : Clerk := ⟨wait, deeds ++ more⟩
    let others := more.filterMap Deed.move?
    c.moves.flatMap Move.notices = others.flatMap Move.notices ∧
    c.moves.filterMap Move.file? = others.filterMap Move.file? ∧
    c.moves.filterMap Move.result? = others.filterMap Move.result? := by
  induction deeds with
  | nil => exact ⟨rfl, rfl, rfl⟩
  | cons deed deeds ih =>
    rw [List.all_cons, Bool.and_eq_true] at asked
    obtain ⟨first, rest⟩ := asked
    cases deed with
    | repeats => exact ih rest
    | moves move =>
      obtain ⟨shown, next⟩ := move
      cases next with
      | asks url quest => exact ih rest
      | hands artifact rows total => cases first
      | returns result => cases first

/-- An export that fails has published one notice, of its failure, and has returned once. It has
handed out no file, unless it is the file that failed. -/
theorem Stage.failed (stage : Stage heard c) {fault : Fault}
    (failed : .error fault ∈ c.moves.filterMap Move.result?) :
    c.wait = none ∧
    c.moves.flatMap Move.notices = [failureNotice fault] ∧
    c.moves.filterMap Move.result? = [.error fault] ∧
    (c.moves.filterMap Move.file? = [] ∨ ∃ closed file,
      c.moves.filterMap Move.file? = [file] ∧ ⟨closed, .saved (.error fault)⟩ ∈ heard) := by
  cases stage with
  | @asking quest attempts deeds asked =>
    obtain ⟨-, -, results⟩ := views_of_asked asked (some (.answer quest attempts)) []
    rw [List.append_nil] at results
    rw [results] at failed
    cases failed
  | filing asked =>
    obtain ⟨-, -, results⟩ := views_of_asked asked _ _
    rw [results] at failed
    cases failed
  | returned asked =>
    obtain ⟨notices, files, results⟩ := views_of_asked asked _ _
    rw [results] at failed
    cases List.mem_singleton.mp failed
    exact ⟨rfl, notices, results, .inl files⟩
  | @filed artifact rows total shown deeds closed saved asked told =>
    obtain ⟨notices, files, results⟩ := views_of_asked asked _ _
    rw [results] at failed
    have last := List.mem_singleton.mp failed
    cases saved with
    | error other =>
      cases last
      exact ⟨rfl, notices, results, .inr ⟨closed, artifact, files, told⟩⟩
    | ok path => cases last

end Clerk

end Watchdesk
