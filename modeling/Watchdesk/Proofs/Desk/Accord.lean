import Watchdesk.Proofs.Desk.Outcomes
import Watchdesk.Proofs.Export.Agreement
import Watchdesk.Proofs.Export.Naming

/-!
# Exports that return a file, and exports above the cap

What an export returns, what it publishes and what is in its file are the same story, in every life
of a desk and whatever the backend answers. An export above the cap that nobody has confirmed does
nothing but ask; within the cap nobody needs to confirm anything.
-/

namespace Watchdesk.Desk

open Export (Artifact Deed Hearing)

variable {settings : Settings} {order : ExportOrder} {heard : List Hearing} {deeds : List Deed}
  {e : Desk} {path : String} {rows total : Nat} {truncated : Bool}

/-- What an export has told that has returned a file of so many rows. -/
structure Accords (settings : Settings) (order : ExportOrder) (heard : List Hearing)
    (deeds : List Deed) (path : String) (rows total : Nat) (truncated : Bool) : Prop where
  returned : resultsOf deeds = [.ok (.written path rows total truncated)]
  /-- The total is the one that came with the answer to its first question. -/
  probed : ∃ page, Clerk.Probed settings order heard page ∧ page.total = total ∧
    ∀ other, Clerk.Probed settings order heard other → other = page
  cut : truncated = true ↔ rows < total
  /-- Operators are told that it has finished and, if rows are missing, that they are. -/
  notices : noticesOf deeds =
    { variant := .success, title := "Export finished",
      description := some ("Exported " ++ toString rows ++ " rows"),
      duration := .milliseconds 8000 } ::
    if truncated then
      [{ variant := .warning, title := "Export truncated",
         description :=
           some ("Exported " ++ toString rows ++ " of " ++ toString total ++ " rows") }]
    else []
  saved : ∃ closed, ⟨closed, .saved (.ok path)⟩ ∈ heard
  /-- It has handed out one file, of its header and so many records; where that is saved, a reader
  finds them under the path that is told. -/
  file : ∃ artifact, filesOf deeds = [artifact] ∧ ∃ suspects : List Suspect,
    suspects.length = rows ∧
    ∀ folder disk after, artifact.save folder disk = (after, .ok path) →
      ∃ bytes, after.read path = .ok bytes ∧ Csv.readFile bytes =
        some (order.selection.listing.header :: suspects.map order.selection.listing.record)

/-- What an export has done that would exceed the cap and was not confirmed. -/
structure Unconfirmed (settings : Settings) (order : ExportOrder) (deeds : List Deed) (e : Desk)
    (total : Nat) : Prop where
  /-- It has asked its first question, maybe several times, and has returned. -/
  asked : ∃ attempts result, deeds = Clerk.opening settings order ::
    List.replicate attempts .repeats ++ [.moves { next := .returns result }]
  returned : let cap := settings.exports.maxRows
    resultsOf deeds = [.ok (.needsConfirmation total cap (Export.capQuestion total cap))]
  notices : noticesOf deeds = []
  files : filesOf deeds = []
  freed : e.slot = .free

theorem Tracked.accords (tracked : Tracked settings order heard deeds e)
    (written : .ok (.written path rows total truncated) ∈ resultsOf deeds) :
    Accords settings order heard deeds path rows total truncated := by
  have account := Clerk.attend_account settings order heard
  rw [← tracked.clerk] at account
  obtain ⟨page, suspects, closed, probed, sum, count, cut, told, returned, files, notices⟩ :=
    account.of_written written
  have published : noticesOf deeds = Export.farewell (.ok (.written path rows total truncated)) :=
    notices
  refine ⟨returned, ⟨page, probed, sum, fun other also => also.unique probed⟩, ?_, ?_,
    ⟨closed, told⟩, ?_⟩
  · simp [cut]
  · rw [published, cut]
    simp only [decide_eq_true_eq]
    rfl
  · refine ⟨order.selection.sheet suspects, files, suspects, count, ?_⟩
    intro folder disk after saved
    have named : (order.selection.sheet suspects).fileName = order.selection.fileName := rfl
    exact ⟨_, Artifact.read_of_save saved (Artifact.safeName_of_selection named),
      order.selection.readFile_sheet suspects⟩

theorem Tracked.unconfirmed (tracked : Tracked settings order heard deeds e) {page : SuspectPage}
    (probed : Clerk.Probed settings order heard page)
    (excess : settings.exports.maxRows < page.total) (unconfirmed : order.confirm = false) :
    Unconfirmed settings order deeds e page.total := by
  obtain ⟨asked, attempts, whole⟩ := probed.attend_of_excess excess unconfirmed
  have clerk := tracked.clerk.trans whole
  rw [Clerk.mk.injEq] at clerk
  obtain ⟨returned, rfl⟩ := clerk
  have asks := Clerk.all_asks asked attempts
  refine ⟨⟨attempts, _, rfl⟩, ?_, ?_, ?_, tracked.slot_of_returned returned⟩
  · exact (Clerk.views_of_asked asks none _).2.2
  · exact (Clerk.views_of_asked asks none _).1
  · exact (Clerk.views_of_asked asks none _).2.1

/-- In every life of a desk, an export that returns a file agrees with it: the number of rows that
it returns and publishes is the number of records in the file, the total is that of the answer to
its first question, and both it and the operators are told of missing rows exactly if there are
fewer rows than that. An export above the cap that is not confirmed sends its first question and
nothing else, publishes nothing and hands out no file. Where the total is within the cap, an
export in any life that is confirmed or not and hears the same does the same. -/
theorem exports_agree (settings : Settings) (hooked : Bool) (before : List Event)
    (order : ExportOrder) :
    let d := (ofSettings settings hooked).live before
    Faithful order d ∧
    ∀ (heard : List Hearing) (deeds : List Deed) (e : Desk), Course order d heard deeds e →
      (∀ path rows total truncated, .ok (.written path rows total truncated) ∈ resultsOf deeds →
        Accords settings order heard deeds path rows total truncated) ∧
      (∀ page, Clerk.Probed settings order heard page →
        settings.exports.maxRows < page.total → order.confirm = false →
          Unconfirmed settings order deeds e page.total) ∧
      ((∀ page, Clerk.Probed settings order heard page →
          page.total ≤ settings.exports.maxRows) →
        ∀ (confirm also : Bool) (others : List Event) (same : List Deed) (f : Desk),
          Course { order with confirm } ((ofSettings settings also).live others) heard same f →
            same = deeds ∧ f.wait = e.wait) := by
  intro d
  refine ⟨faithful settings hooked before order, ?_⟩
  intro heard deeds e course
  have tracked := course.of_life
  refine ⟨?_, ?_, ?_⟩
  · intro path rows total truncated written
    exact tracked.accords written
  · intro page probed excess unconfirmed
    exact tracked.unconfirmed probed excess unconfirmed
  · intro within confirm also others same f other
    have alike := other.of_life.clerk.trans
      ((Clerk.attend_of_within confirm within).trans tracked.clerk.symm)
    rw [Clerk.mk.injEq] at alike
    exact ⟨alike.2, alike.1⟩

/-- An export that is cut at the cap. -/
theorem exports_agree_of_capped :
    let settings : Settings :=
      { backend := { baseUrl := "http://a" }, exports := { maxRows := 1 } }
    let order : ExportOrder := ⟨.operator 0, { listing := .clicks }, true⟩
    ∃ heard deeds e, Course order ((ofSettings settings false).live []) heard deeds e ∧
      resultsOf deeds = [.ok (.written "f.csv" 1 2 true)] ∧
      (noticesOf deeds).map (·.description) =
        [some "Exported 1 rows", some "Exported 1 of 2 rows"] := by
  intro settings order
  let page : Reply :=
    ⟨200, "\x7b\"data\":[\x7b\"ipaddress\":\"\",\"useragent\":\"\"\x7d],\"total\":2\x7d"⟩
  have asked : (Event.requestExport order).exportOrder = some order := rfl
  have begins : Course order ((ofSettings settings false).live []) [] _ _ := .begins asked rfl
  have probed := begins.goesOn (by decide +kernel) (.answer 1 (.ok page))
  have gathered := probed.goesOn (by decide +kernel) (.answer 2 (.ok page))
  have ended := gathered.goesOn (by decide +kernel) (.settleSaving 3 (.ok "f.csv"))
  obtain ⟨-, agree⟩ := exports_agree settings false [] order
  have accords := (agree _ _ _ ended).1 "f.csv" 1 2 true (by decide +kernel)
  refine ⟨_, _, _, ended, accords.returned, ?_⟩
  rw [accords.notices]
  decide

end Watchdesk.Desk
