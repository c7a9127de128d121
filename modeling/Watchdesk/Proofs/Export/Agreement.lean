import Watchdesk.Proofs.Backend.Retrying
import Watchdesk.Proofs.Export.Clerk
import Watchdesk.Proofs.Export.Containment
import Watchdesk.Proofs.Table.RoundTrip

/-!
# What an export tells of its file

An export learns from its first question how many rows there are, and counts the records of its
file itself. Whatever its questions are answered, these two numbers are what it returns, what it
publishes and what a reader of the file finds. Above the cap it asks nothing more until that is
confirmed; below it nobody is asked, and a confirmation changes nothing.
-/

namespace Watchdesk

open Export

/-- The file of some suspects. -/
def Selection.sheet (s : Selection) (suspects : List Suspect) : Artifact :=
  ⟨s.fileName, String.ofList (Csv.document s.listing.header (suspects.map s.listing.record))⟩

/-- Whatever the texts of the suspects, a reader of their file finds the header and one record for
each of them. -/
theorem Selection.readFile_sheet (s : Selection) (suspects : List Suspect) :
    Csv.readFile (s.sheet suspects).content.toUTF8 =
      some (s.listing.header :: suspects.map s.listing.record) := by
  apply Csv.readFile_document
  intro record member
  rcases List.mem_cons.mp member with rfl | later
  · exact s.listing.header_ne_nil
  · obtain ⟨suspect, -, rfl⟩ := List.mem_map.mp later
    exact s.listing.record_ne_nil suspect

namespace Clerk

variable (settings : Settings) (order : ExportOrder)

/-- The first question of an export is answered by a page. -/
def Probed (heard : List Hearing) (page : SuspectPage) : Prop :=
  ∃ before after closed reply attempts,
    heard = before ++ ⟨closed, .answered (.ok reply)⟩ :: after ∧
    (attend settings order before).wait = some (.answer .total attempts) ∧
    reply.isSuccess = true ∧ SuspectPage.decoder.read reply.body = .ok page

/-- A run knows how many rows there are, and has the records of suspects. -/
def Informed (heard : List Hearing) (run : Run) : Prop :=
  ∃ (page : SuspectPage) (suspects : List Suspect), Probed settings order heard page ∧
    run.job.total = page.total ∧ run.records = suspects.map order.selection.listing.record

/-- How an export may go on after an answer: it asks for a batch, hands out the file of the suspects
it has got, or returns without a file. -/
inductive Honest (heard : List Hearing) : Next → Prop where
  | asks {url : String} {run : Run} (informed : Informed settings order heard run) :
      Honest heard (.asks url (.batch run))
  | hands {page : SuspectPage} {suspects : List Suspect}
      (probed : Probed settings order heard page) :
      Honest heard (.hands (order.selection.sheet suspects) suspects.length page.total)
  | returns {result : Except Fault Export.Report}
      (unwritten : ∀ path rows total truncated, result ≠ .ok (.written path rows total truncated)) :
      Honest heard (.returns result)

/-- What an export has done by the time it waits for something, or for nothing more. -/
inductive Account (heard : List Hearing) : Clerk → Prop where
  | probing (attempts : Nat) (unprobed : ∀ page, ¬ Probed settings order heard page)
      (asked : (opening settings order).asks) :
      Account heard ⟨some (.answer .total attempts),
        opening settings order :: List.replicate attempts .repeats⟩
  | fetching {run : Run} {attempts : Nat} {deeds : List Deed}
      (informed : Informed settings order heard run) (asked : deeds.all Deed.asks) :
      Account heard ⟨some (.answer (.batch run) attempts), deeds⟩
  | filing {page : SuspectPage} {suspects : List Suspect} {shown : List Progress}
      {deeds : List Deed} (probed : Probed settings order heard page)
      (asked : deeds.all Deed.asks) :
      Account heard ⟨some (.file (order.selection.sheet suspects) suspects.length page.total),
        deeds ++ [.moves ⟨shown, .hands (order.selection.sheet suspects) suspects.length
          page.total⟩]⟩
  | returned {result : Except Fault Export.Report} {shown : List Progress} {deeds : List Deed}
      (unwritten : ∀ path rows total truncated, result ≠ .ok (.written path rows total truncated))
      (asked : deeds.all Deed.asks) :
      Account heard ⟨none, deeds ++ [.moves ⟨shown, .returns result⟩]⟩
  | filed {page : SuspectPage} {suspects : List Suspect} {shown : List Progress}
      {deeds : List Deed} {closed : Bool} {saved : Except Fault String}
      (probed : Probed settings order heard page) (asked : deeds.all Deed.asks)
      (told : ⟨closed, .saved saved⟩ ∈ heard) :
      Account heard ⟨none, deeds ++ [.moves ⟨shown, .hands (order.selection.sheet suspects)
        suspects.length page.total⟩, .moves (moveOfFile suspects.length page.total saved)]⟩

variable {settings : Settings} {order : ExportOrder} {heard : List Hearing} {page : SuspectPage}

theorem Probed.mono (probed : Probed settings order heard page) (more : List Hearing) :
    Probed settings order (heard ++ more) page := by
  obtain ⟨before, after, closed, reply, attempts, rfl, found⟩ := probed
  exact ⟨before, after ++ more, closed, reply, attempts, by simp, found⟩

theorem Informed.mono {run : Run} (informed : Informed settings order heard run)
    (more : List Hearing) : Informed settings order (heard ++ more) run := by
  obtain ⟨page, suspects, probed, known⟩ := informed
  exact ⟨page, suspects, probed.mono more, known⟩

/-! ## How an export goes on -/

theorem Honest.error (fault : Fault) : Honest settings order heard (.returns (.error fault)) :=
  .returns (by simp)

theorem Honest.query {run : Run} (informed : Informed settings order heard run)
    (limit offset : Nat) :
    Honest settings order heard (.query settings order limit offset (.batch run)) := by
  unfold Next.query
  cases settings.backend.listUrl { selection := order.selection, limit, offset } with
  | error fault => exact .error fault
  | ok url => exact .asks informed

theorem Honest.cancelled : Honest settings order heard (.ofOutcome .cancelled) :=
  .returns (by simp)

theorem Honest.empty : Honest settings order heard (.ofOutcome .empty) := .returns (by simp)

theorem Honest.lastMove {run : Run} (informed : Informed settings order heard run) :
    Honest settings order heard (run.lastMove order).next := by
  obtain ⟨page, suspects, probed, total, records⟩ := informed
  unfold Run.lastMove Run.finish
  dsimp only
  split
  · exact .empty
  · have rows : run.offset = suspects.length := by simp [Run.offset, records]
    rw [rows, total, records]
    exact .hands probed

theorem Honest.move {run : Run} (informed : Informed settings order heard run) (closed : Bool) :
    Honest settings order heard (run.move settings order closed).next := by
  unfold Run.move
  cases run.turn closed with
  | stop => exact .cancelled
  | finish => exact .lastMove informed
  | ask offset limit =>
    dsimp only
    exact .query informed limit offset

/-- What follows from the number of rows: above the cap a question, unless it is confirmed. -/
theorem moveOfTotal_eq {result : Except Fault String} (closed : Bool)
    (read : readBody SuspectPage.decoder result = .ok page) :
    let cap := settings.exports.maxRows
    moveOfTotal settings order closed result =
      if page.total = 0 then { next := .ofOutcome .empty }
      else if cap < page.total ∧ order.confirm = false then
        { next := .returns (.ok (.needsConfirmation page.total cap (capQuestion page.total cap))) }
      else
        Job.move settings order ⟨page.total, min page.total cap, max settings.exports.batchSize 1⟩
          closed := by
  intro cap
  have sizing : Sizing.ofSettings settings.exports = ⟨max settings.exports.batchSize 1, cap⟩ := rfl
  unfold moveOfTotal
  rw [read, sizing]
  dsimp only
  unfold Sizing.start
  by_cases bare : page.total = 0
  · rw [if_pos bare, if_pos bare]
  · rw [if_neg bare, if_neg bare]
    by_cases excess : cap < page.total
    · rw [if_pos excess, Nat.min_eq_right (Nat.le_of_lt excess)]
      cases order.confirm <;> simp [excess]
    · rw [if_neg excess, if_neg (fun both => excess both.1),
        Nat.min_eq_left (Nat.not_lt.mp excess)]

theorem Honest.ofTotal {closed : Bool} {result : Except Fault String}
    (probed : ∀ page, readBody SuspectPage.decoder result = .ok page →
      Probed settings order heard page) :
    Honest settings order heard (moveOfTotal settings order closed result).next := by
  cases read : readBody SuspectPage.decoder result with
  | error fault =>
    unfold moveOfTotal
    rw [read]
    exact .error fault
  | ok page =>
    rw [moveOfTotal_eq closed read]
    split_ifs
    · exact .empty
    · exact .returns (by simp)
    · have informed (job : Job) (own : job.total = page.total) :
          Informed settings order heard { job } := ⟨page, [], probed page read, own, rfl⟩
      exact .move (informed _ rfl) closed

theorem Honest.ofBatch {run : Run} (informed : Informed settings order heard run) {closed : Bool}
    {result : Except Fault String} :
    Honest settings order heard (run.moveOfBatch settings order closed result).next := by
  unfold Run.moveOfBatch
  cases readBody SuspectPage.decoder result with
  | error fault => exact .error fault
  | ok page =>
    dsimp only
    cases received : run.receive closed (page.data.map order.selection.listing.record) with
    | dropped => exact .cancelled
    | exhausted => exact .lastMove informed
    | gathered next =>
      obtain ⟨rfl, -⟩ := Run.eq_gather_of_receive received
      obtain ⟨first, suspects, probed, total, records⟩ := informed
      have more : Informed settings order heard
          (run.gather (page.data.map order.selection.listing.record)) := by
        refine ⟨first, suspects ++ page.data, probed, total, ?_⟩
        rw [List.map_append, ← records]
        rfl
      exact .move more closed

/-! ## The whole work of an export -/

theorem Account.of_move {deeds : List Deed} (asked : deeds.all Deed.asks) (before : Option Wait)
    {move : Move} (honest : Honest settings order heard move.next) :
    Account settings order heard (perform ⟨before, deeds⟩ (.moves move)) := by
  obtain ⟨shown, next⟩ := move
  cases honest with
  | @asks url run informed =>
    have all : (deeds ++ [Deed.moves ⟨shown, .asks url (.batch run)⟩]).all Deed.asks := by
      rw [List.all_append, asked]
      rfl
    exact .fetching informed all
  | hands probed => exact .filing probed asked
  | returns unwritten => exact .returned unwritten asked

/-- An export that asks only makes a move when its question is settled. -/
theorem settled_of_deed {quest : Quest} {attempts : Nat} {hearing : Hearing} {move : Move}
    (done : (Wait.answer quest attempts).deed settings order hearing = some (.moves move)) :
    ∃ came result, hearing.word = .answered came ∧
      Retry.judge settings.backend attempts came = .settled result ∧
      move = quest.move settings order hearing.closed result := by
  obtain ⟨closed, word⟩ := hearing
  cases word with
  | answered came =>
    cases judged : Retry.judge settings.backend attempts came with
    | settled result =>
      rw [Wait.deed_of_settled settings order quest closed judged] at done
      cases done
      exact ⟨came, result, rfl, judged, rfl⟩
    | again span =>
      rw [Wait.deed_of_again settings order quest closed judged] at done
      split_ifs at done
      cases done
  | rested => cases done
  | saved saved => cases done

/-- The page that answers the first question comes with the last word or has come before. -/
theorem Probed.last {hearing : Hearing} (probed : Probed settings order (heard ++ [hearing]) page) :
    Probed settings order heard page ∨ ∃ closed reply attempts,
      hearing = ⟨closed, .answered (.ok reply)⟩ ∧
      (attend settings order heard).wait = some (.answer .total attempts) ∧
      reply.isSuccess = true ∧ SuspectPage.decoder.read reply.body = .ok page := by
  obtain ⟨before, after, closed, reply, attempts, whole, waits, success, read⟩ := probed
  rcases List.eq_nil_or_concat after with rfl | ⟨after, last, rfl⟩
  · obtain ⟨rfl, single⟩ := List.append_inj' whole rfl
    cases single
    exact .inr ⟨closed, reply, attempts, rfl, waits, success, read⟩
  · rw [List.concat_eq_append, ← List.cons_append, ← List.append_assoc] at whole
    obtain ⟨rfl, -⟩ := List.append_inj' whole rfl
    exact .inl ⟨before, after, closed, reply, attempts, rfl, waits, success, read⟩

/-- An answer that settles the first question is its page. -/
theorem probed_of_settled {attempts : Nat} {closed : Bool} {came : Except Fault Reply}
    {result : Except Fault String}
    (waits : (attend settings order heard).wait = some (.answer .total attempts))
    (judged : Retry.judge settings.backend attempts came = .settled result)
    (read : readBody SuspectPage.decoder result = .ok page) :
    Probed settings order (heard ++ [⟨closed, .answered came⟩]) page := by
  cases result with
  | error fault => cases read
  | ok body =>
    obtain ⟨reply, rfl, success, rfl⟩ := Retry.success_of_judge judged
    have value := (Retry.readBody_eq_ok_iff SuspectPage.decoder).mp read
    exact ⟨heard, [], closed, reply, attempts, rfl, waits, success, value⟩

theorem Account.opens (settings : Settings) (order : ExportOrder) :
    Account settings order [] (attend settings order []) := by
  have unprobed (page : SuspectPage) : ¬ Probed settings order [] page := by
    rintro ⟨before, after, closed, reply, attempts, whole, -⟩
    simp at whole
  cases found : settings.backend.listUrl { selection := order.selection, limit := 1, offset := 0 }
    with
  | error fault =>
    have failed : opening settings order = .moves { next := .returns (.error fault) } := by
      unfold opening Next.query
      rw [found]
    have whole : attend settings order [] =
        perform {} (.moves { next := .returns (.error fault) }) := congrArg (perform {}) failed
    rw [whole]
    exact .of_move rfl none (.error fault)
  | ok url =>
    have asks : opening settings order = .moves { next := .asks url .total } := by
      unfold opening Next.query
      rw [found]
    have whole : attend settings order [] =
        ⟨some (.answer .total 0), opening settings order :: List.replicate 0 .repeats⟩ := by
      unfold attend
      rw [asks]
      rfl
    rw [whole]
    refine .probing 0 unprobed ?_
    rw [asks]
    rfl

theorem all_asks (asked : (opening settings order).asks) (attempts : Nat) :
    (opening settings order :: List.replicate attempts .repeats).all Deed.asks := by
  rw [List.all_cons, asked, Bool.true_and]
  simp [Deed.asks]

/-- The answer to the first question. -/
theorem Account.probing_hear {attempts : Nat}
    (unprobed : ∀ page, ¬ Probed settings order heard page) (asked : (opening settings order).asks)
    (shape : attend settings order heard =
      ⟨some (.answer .total attempts), opening settings order :: List.replicate attempts .repeats⟩)
    (hearing : Hearing) : Account settings order (heard ++ [hearing])
      ((attend settings order heard).hear settings order hearing) := by
  have waits : (attend settings order heard).wait = some (.answer .total attempts) := by
    rw [shape]
  -- As long as the export does not move on, the page has not come.
  have still (unmoved : ∀ move, (Wait.answer .total attempts).deed settings order hearing ≠
      some (.moves move)) (page : SuspectPage) :
      ¬ Probed settings order (heard ++ [hearing]) page := by
    intro probed
    rcases probed.last with earlier | ⟨closed, reply, other, rfl, same, success, -⟩
    · exact unprobed page earlier
    · have settled : Retry.judge settings.backend attempts (.ok reply) =
          .settled (.ok reply.body) := Retry.judge_of_success success attempts
      exact unmoved _ (Wait.deed_of_settled settings order .total closed settled)
  cases done : (Wait.answer .total attempts).deed settings order hearing with
  | none =>
    rw [hear_of_no_deed waits done, shape]
    exact .probing attempts (still (by simp [done])) asked
  | some deed =>
    rw [hear_of_deed waits done, shape]
    cases deed with
    | repeats =>
      have more : perform ⟨some (.answer .total attempts),
          opening settings order :: List.replicate attempts .repeats⟩ .repeats =
            ⟨some (.answer .total (attempts + 1)),
              opening settings order :: List.replicate (attempts + 1) .repeats⟩ := by
        rw [List.replicate_succ']
        rfl
      rw [more]
      exact .probing (attempts + 1) (still (by simp [done])) asked
    | moves move =>
      obtain ⟨came, result, word, judged, rfl⟩ := settled_of_deed done
      have own : hearing = ⟨hearing.closed, .answered came⟩ := by
        rw [← word]
      apply Account.of_move (all_asks asked attempts)
      apply Honest.ofTotal
      intro page read
      rw [own]
      exact probed_of_settled waits judged read

/-- The answer to a question for a batch. -/
theorem Account.fetching_hear {run : Run} {attempts : Nat} {deeds : List Deed}
    (informed : Informed settings order heard run) (asked : deeds.all Deed.asks)
    (hearing : Hearing) : Account settings order (heard ++ [hearing])
      (hear settings order ⟨some (.answer (.batch run) attempts), deeds⟩ hearing) := by
  have later := informed.mono [hearing]
  cases done : (Wait.answer (.batch run) attempts).deed settings order hearing with
  | none =>
    rw [hear_of_no_deed rfl done]
    exact .fetching later asked
  | some deed =>
    rw [hear_of_deed rfl done]
    cases deed with
    | repeats =>
      have all : (deeds ++ [Deed.repeats]).all Deed.asks := by
        rw [List.all_append, asked]
        rfl
      exact .fetching later all
    | moves move =>
      obtain ⟨came, result, -, -, rfl⟩ := settled_of_deed done
      exact .of_move asked _ (.ofBatch later)

/-- An export that waits for its file goes on when that was saved, or could not be. -/
theorem Account.filing_hear {suspects : List Suspect} {shown : List Progress} {deeds : List Deed}
    (probed : Probed settings order heard page) (asked : deeds.all Deed.asks)
    (hearing : Hearing) : Account settings order (heard ++ [hearing])
      (hear settings order
        ⟨some (.file (order.selection.sheet suspects) suspects.length page.total),
          deeds ++ [.moves ⟨shown, .hands (order.selection.sheet suspects) suspects.length
            page.total⟩]⟩ hearing) := by
  have later := probed.mono [hearing]
  obtain ⟨closed, word⟩ := hearing
  cases word with
  | answered answer =>
    rw [hear_of_no_deed rfl rfl]
    exact .filing later asked
  | rested =>
    rw [hear_of_no_deed rfl rfl]
    exact .filing later asked
  | saved saved =>
    rw [hear_of_deed rfl rfl]
    unfold perform
    rw [List.append_assoc]
    exact .filed later asked (List.mem_append_right heard (List.mem_singleton_self _))

/-- Whatever an export hears, it has done what its account says. -/
theorem attend_account (settings : Settings) (order : ExportOrder) (heard : List Hearing) :
    Account settings order heard (attend settings order heard) := by
  induction heard using List.reverseRecOn with
  | nil => exact .opens settings order
  | append_singleton heard hearing ih =>
    have step : attend settings order (heard ++ [hearing]) =
        (attend settings order heard).hear settings order hearing := attend_append heard [hearing]
    rw [step]
    generalize shape : attend settings order heard = c at ih
    cases ih with
    | probing attempts unprobed asked =>
      rw [← shape]
      exact .probing_hear unprobed asked shape hearing
    | fetching informed asked => exact .fetching_hear informed asked hearing
    | filing probed asked => exact .filing_hear probed asked hearing
    | returned unwritten asked =>
      rw [hear_of_returned rfl]
      exact .returned unwritten asked
    | filed probed asked told =>
      rw [hear_of_returned rfl]
      exact .filed (probed.mono [hearing]) asked (List.mem_append_left _ told)

/-- An export that has returned a file has handed it out before, with the numbers that it returns,
and has published what they say. -/
theorem Account.of_written {c : Clerk} {path : String} {rows total : Nat} {truncated : Bool}
    (account : Account settings order heard c)
    (written : .ok (.written path rows total truncated) ∈ c.moves.filterMap Move.result?) :
    ∃ page suspects closed, Probed settings order heard page ∧ page.total = total ∧
      suspects.length = rows ∧ truncated = decide (rows < total) ∧
      ⟨closed, .saved (.ok path)⟩ ∈ heard ∧
      c.moves.filterMap Move.result? = [.ok (.written path rows total truncated)] ∧
      c.moves.filterMap Move.file? = [order.selection.sheet suspects] ∧
      c.moves.flatMap Move.notices = farewell (.ok (.written path rows total truncated)) := by
  cases account with
  | probing attempts unprobed asked =>
    obtain ⟨-, -, results⟩ :=
      views_of_asked (all_asks asked attempts) (some (.answer .total attempts)) []
    rw [List.append_nil] at results
    rw [results] at written
    cases written
  | @fetching run attempts deeds informed asked =>
    obtain ⟨-, -, results⟩ := views_of_asked asked (some (.answer (.batch run) attempts)) []
    rw [List.append_nil] at results
    rw [results] at written
    cases written
  | filing probed asked =>
    obtain ⟨-, -, results⟩ := views_of_asked asked _ _
    rw [results] at written
    cases written
  | returned unwritten asked =>
    obtain ⟨-, -, results⟩ := views_of_asked asked _ _
    rw [results] at written
    exact absurd (List.mem_singleton.mp written).symm (unwritten path rows total truncated)
  | @filed page suspects shown deeds closed saved probed asked told =>
    obtain ⟨notices, files, results⟩ := views_of_asked asked _ _
    rw [results] at written
    cases saved with
    | error fault => cases List.mem_singleton.mp written
    | ok saved =>
      cases List.mem_singleton.mp written
      exact ⟨page, suspects, closed, probed, rfl, rfl, rfl, told, results, files,
        notices.trans (List.append_nil _)⟩

/-! ## What the first answer decides -/

/-- Once its page has come, an export does not wait for it any more. -/
theorem Probed.not_waiting (probed : Probed settings order heard page) (attempts : Nat) :
    (attend settings order heard).wait ≠ some (.answer .total attempts) := by
  have account := attend_account settings order heard
  generalize attend settings order heard = c at account
  intro waits
  cases account with
  | probing _ unprobed => exact unprobed page probed
  | _ => cases waits

/-- The first question of an export is answered by one page. -/
theorem Probed.unique {other : SuspectPage} (first : Probed settings order heard page)
    (second : Probed settings order heard other) : page = other := by
  induction heard using List.reverseRecOn with
  | nil =>
    obtain ⟨before, after, closed, reply, attempts, whole, -⟩ := first
    simp at whole
  | append_singleton heard hearing ih =>
    rcases first.last with earlier | ⟨closed, reply, attempts, rfl, waits, -, read⟩
    · rcases second.last with also | ⟨closed, reply, attempts, rfl, waits, -, -⟩
      · exact ih earlier also
      · exact absurd waits (earlier.not_waiting attempts)
    · rcases second.last with also | ⟨_, _, _, same, -, -, again⟩
      · exact absurd waits (also.not_waiting attempts)
      · cases same
        cases read.symm.trans again
        rfl

theorem hears_of_returned {c : Clerk} (returned : c.wait = none) (heard : List Hearing) :
    heard.foldl (hear settings order) c = c := by
  induction heard with
  | nil => rfl
  | cons hearing heard ih => rw [List.foldl_cons, hear_of_returned returned, ih]

/-- Above the cap an export that is not confirmed has asked its first question, maybe several times,
and then it has returned. -/
theorem Probed.attend_of_excess (probed : Probed settings order heard page)
    (excess : settings.exports.maxRows < page.total) (unconfirmed : order.confirm = false) :
    let cap := settings.exports.maxRows
    let question := capQuestion page.total cap
    (opening settings order).asks ∧ ∃ attempts, attend settings order heard =
      ⟨none, opening settings order :: List.replicate attempts .repeats ++
        [.moves { next := .returns (.ok (.needsConfirmation page.total cap question)) }]⟩ := by
  intro cap question
  obtain ⟨before, after, closed, reply, attempts, rfl, waits, success, read⟩ := probed
  have account := attend_account settings order before
  generalize shape : attend settings order before = c at account
  rw [shape] at waits
  cases account with
  | probing count unprobed asked =>
    cases waits
    have value := (Retry.readBody_eq_ok_iff SuspectPage.decoder).mpr read
    have settled : Retry.judge settings.backend attempts (.ok reply) = .settled (.ok reply.body) :=
      Retry.judge_of_success success attempts
    have done := Wait.deed_of_settled settings order .total closed settled
    have move : Quest.move settings order closed (.ok reply.body) .total =
        { next := .returns (.ok (.needsConfirmation page.total cap question)) } := by
      have some : page.total ≠ 0 := by omega
      show moveOfTotal settings order closed (.ok reply.body) = _
      rw [moveOfTotal_eq closed value, if_neg some, if_pos ⟨excess, unconfirmed⟩]
    refine ⟨asked, attempts, ?_⟩
    rw [attend_append, List.foldl_cons, shape, hear_of_deed rfl done, move]
    exact hears_of_returned rfl after
  | _ => cases waits

theorem query_confirm (confirm : Bool) (limit offset : Nat) (quest : Quest) :
    Next.query settings { order with confirm } limit offset quest =
      .query settings order limit offset quest := by
  unfold Next.query
  dsimp only

theorem run_move_confirm (confirm : Bool) (run : Run) (closed : Bool) :
    run.move settings { order with confirm } closed = run.move settings order closed := by
  unfold Run.move Run.lastMove
  simp only [query_confirm]

theorem moveOfBatch_confirm (confirm : Bool) (run : Run) (closed : Bool)
    (result : Except Fault String) :
    run.moveOfBatch settings { order with confirm } closed result =
      run.moveOfBatch settings order closed result := by
  unfold Run.moveOfBatch Run.lastMove
  simp only [run_move_confirm]

theorem moveOfTotal_confirm (confirm closed : Bool) {result : Except Fault String}
    (within : ∀ page, readBody SuspectPage.decoder result = .ok page →
      page.total ≤ settings.exports.maxRows) :
    moveOfTotal settings { order with confirm } closed result =
      moveOfTotal settings order closed result := by
  cases read : readBody SuspectPage.decoder result with
  | error fault =>
    unfold moveOfTotal
    rw [read]
  | ok page =>
    have few := Nat.not_lt.mpr (within page read)
    rw [moveOfTotal_eq closed read, moveOfTotal_eq closed read]
    unfold Job.move
    simp only [few, false_and, if_false, run_move_confirm]

/-- Within the cap it makes no difference whether an export is confirmed. -/
theorem attend_of_within (confirm : Bool)
    (within : ∀ page, Probed settings order heard page → page.total ≤ settings.exports.maxRows) :
    attend settings { order with confirm } heard = attend settings order heard := by
  induction heard using List.reverseRecOn with
  | nil =>
    have opens : opening settings { order with confirm } = opening settings order := by
      unfold opening
      rw [query_confirm]
    exact congrArg (perform {}) opens
  | append_singleton heard hearing ih =>
    have same := ih fun page probed => within page (probed.mono [hearing])
    rw [attend_append, attend_append, same]
    have deed (wait : Wait) (waits : (attend settings order heard).wait = some wait) :
        wait.deed settings { order with confirm } hearing = wait.deed settings order hearing := by
      obtain ⟨closed, word⟩ := hearing
      cases wait with
      | file artifact rows total => cases word <;> rfl
      | answer quest attempts =>
        cases word with
        | rested => rfl
        | saved saved => rfl
        | answered came =>
          cases judged : Retry.judge settings.backend attempts came with
          | again span =>
            rw [Wait.deed_of_again settings _ quest closed judged,
              Wait.deed_of_again settings _ quest closed judged]
          | settled result =>
            rw [Wait.deed_of_settled settings _ quest closed judged,
              Wait.deed_of_settled settings _ quest closed judged]
            cases quest with
            | batch run =>
              unfold Quest.move
              dsimp only
              rw [moveOfBatch_confirm]
            | total =>
              unfold Quest.move
              dsimp only
              rw [moveOfTotal_confirm]
              intro page read
              exact within page (probed_of_settled waits judged read)
    show hear settings { order with confirm } _ hearing = hear settings order _ hearing
    unfold hear
    cases waits : (attend settings order heard).wait with
    | none => rfl
    | some wait =>
      rw [Option.bind_some, Option.bind_some, deed wait waits]

end Clerk

end Watchdesk
