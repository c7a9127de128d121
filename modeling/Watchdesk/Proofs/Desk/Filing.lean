import Watchdesk.Proofs.Desk.Accord
import Watchdesk.Proofs.Export.Naming

/-!
# Exports side by side

Every export hands out its file under the name of its selection. So what two exports leave in one
folder depends on their selections: under two names there are two files, and under one name the file
of the later export has taken the place of the other one.
-/

namespace Watchdesk

open Export (Artifact Deed Hearing Move)

/-- The file that an export hands out is named for its selection. -/
theorem Clerk.Account.fileName {settings : Settings} {order : ExportOrder} {heard : List Hearing}
    {c : Clerk} (account : Account settings order heard c) {file : Artifact}
    (handed : file ∈ c.moves.filterMap Move.file?) :
    file.fileName = order.selection.fileName := by
  cases account with
  | probing attempts unprobed asked =>
    obtain ⟨-, files, -⟩ :=
      views_of_asked (all_asks asked attempts) (some (.answer .total attempts)) []
    rw [List.append_nil] at files
    rw [files] at handed
    cases handed
  | @fetching run attempts deeds informed asked =>
    obtain ⟨-, files, -⟩ := views_of_asked asked (some (.answer (.batch run) attempts)) []
    rw [List.append_nil] at files
    rw [files] at handed
    cases handed
  | filing probed asked =>
    obtain ⟨-, files, -⟩ := views_of_asked asked _ _
    rw [files] at handed
    cases List.mem_singleton.mp handed
    rfl
  | returned unwritten asked =>
    obtain ⟨-, files, -⟩ := views_of_asked asked _ _
    rw [files] at handed
    cases handed
  | filed probed asked told =>
    obtain ⟨-, files, -⟩ := views_of_asked asked _ _
    rw [files] at handed
    cases List.mem_singleton.mp handed
    rfl

namespace Desk

variable {settings others : Settings} {hooked also : Bool} {before past : List Event}
  {first second : ExportOrder} {heard told : List Hearing} {deeds done : List Deed} {e f : Desk}

theorem Tracked.fileName (tracked : Tracked settings first heard deeds e) {file : Artifact}
    (handed : file ∈ filesOf deeds) : file.fileName = first.selection.fileName := by
  have account := Clerk.attend_account settings first heard
  rw [← tracked.clerk] at account
  exact account.fileName handed

/-- Two exports, in the same life of a desk or in two, hand out their files under one path exactly
if they are of one list and their dates with their search terms read alike in the name of a file. If
their dates have no underscores and nothing that becomes one, they must have the same date, and
search terms that read alike. When both files are saved to one folder, the later one is read under
its path; the one before is still there if its path is another one. -/
theorem exports_side_by_side
    (one : Course first ((ofSettings settings hooked).live before) heard deeds e)
    (other : Course second ((ofSettings others also).live past) told done f) (a b : Artifact)
    (earlier : a ∈ filesOf deeds) (later : b ∈ filesOf done) (folder : String) :
    (a.savePath folder = b.savePath folder ↔ first.selection.SharesName second.selection) ∧
      (first.selection.HasPlainDate → second.selection.HasPlainDate →
        (a.savePath folder = b.savePath folder ↔
          first.selection.listing = second.selection.listing ∧
            Selection.nonEmpty first.selection.date = Selection.nonEmpty second.selection.date ∧
            (Selection.nonEmpty first.selection.search).map (Selection.legible ·.toList) =
              (Selection.nonEmpty second.selection.search).map (Selection.legible ·.toList))) ∧
      ∀ disk after final path last, disk.Rooted → a.save folder disk = (after, .ok path) →
        b.save folder after = (final, .ok last) →
          (path = last ↔ first.selection.SharesName second.selection) ∧
            final.read last = .ok b.content.toUTF8 ∧
            (path ≠ last → final.read path = .ok a.content.toUTF8) := by
  have first := one.of_life.fileName earlier
  have second := other.of_life.fileName later
  have names := Artifact.savePath_eq_iff_sharesName first second folder
  refine ⟨names, ?_, ?_⟩
  · intro plain also
    exact names.trans (Selection.sharesName_iff_of_plain plain also)
  · intro disk after final path last rooted saved again
    obtain ⟨own, -⟩ := Artifact.save_eq_ok saved
    obtain ⟨its, -⟩ := Artifact.save_eq_ok again
    refine ⟨?_, Artifact.read_of_save again (Artifact.safeName_of_selection second), ?_⟩
    · rw [own, its]
      exact names
    · intro apart
      exact Artifact.read_of_later_save rooted saved again apart
        (Artifact.safeName_of_selection first)

/-- An export of the clicks of one day that a search finds. -/
def searching (search : String) : ExportOrder where
  caller := .operator 0
  selection := { listing := .clicks, date := some "2024-05-01", search := some search }
  confirm := false

/-- Where the backend has one row, a search hands out its file. -/
theorem searching_hands_out (search : String) (common : search ∈ ["curl/8", "curl_8", "wget"]) :
    ∃ heard deeds e, Course (searching search)
      ((ofSettings { backend := { baseUrl := "http://a" } } false).live []) heard deeds e ∧
      ∃ file, file ∈ filesOf deeds := by
  let page : Reply :=
    ⟨200, "\x7b\"data\":[\x7b\"ipaddress\":\"\",\"useragent\":\"\"\x7d],\"total\":1\x7d"⟩
  have asked : (Event.requestExport (searching search)).exportOrder = some (searching search) := rfl
  have begins : Course (searching search)
      ((ofSettings { backend := { baseUrl := "http://a" } } false).live []) [] _ _ :=
    .begins asked rfl
  simp only [List.mem_cons, List.not_mem_nil, or_false] at common
  rcases common with rfl | rfl | rfl
  all_goals
    have probed := begins.goesOn (by decide +kernel) (.answer 1 (.ok page))
    have gathered := probed.goesOn (by decide +kernel) (.answer 2 (.ok page))
    refine ⟨_, _, _, gathered, List.exists_mem_of_ne_nil _ ?_⟩
    decide +kernel

/-- Two searches that differ in a slash. -/
theorem exports_meet :
    let settings : Settings := { backend := { baseUrl := "http://a" } }
    let first := searching "curl/8"
    let second := searching "curl_8"
    Selection.nonEmpty first.selection.search ≠ Selection.nonEmpty second.selection.search ∧
      ∃ heard told deeds done e f a b,
        Course first ((ofSettings settings false).live []) heard deeds e ∧
        Course second ((ofSettings settings false).live []) told done f ∧ a ∈ filesOf deeds ∧
        b ∈ filesOf done ∧
        a.savePath settings.exports.outputDir = b.savePath settings.exports.outputDir := by
  intro settings first second
  obtain ⟨heard, deeds, e, one, a, earlier⟩ := searching_hands_out "curl/8" (by simp)
  obtain ⟨told, done, f, other, b, later⟩ := searching_hands_out "curl_8" (by simp)
  have shares : first.selection.SharesName second.selection := ⟨rfl, by decide⟩
  refine ⟨by decide, heard, told, deeds, done, e, f, a, b, one, other, earlier, later, ?_⟩
  exact (Artifact.savePath_eq_iff_sharesName (one.of_life.fileName earlier)
    (other.of_life.fileName later) _).mpr shares

/-- Two searches with different words. -/
theorem exports_side_by_side_of_words :
    let settings : Settings := { backend := { baseUrl := "http://a" } }
    let first := searching "curl/8"
    let second := searching "wget"
    ∃ heard told deeds done e f a b,
      Course first ((ofSettings settings false).live []) heard deeds e ∧
      Course second ((ofSettings settings false).live []) told done f ∧ a ∈ filesOf deeds ∧
      b ∈ filesOf done ∧ first.selection.HasPlainDate ∧ second.selection.HasPlainDate ∧
      a.savePath settings.exports.outputDir ≠ b.savePath settings.exports.outputDir := by
  intro settings first second
  obtain ⟨heard, deeds, e, one, a, earlier⟩ := searching_hands_out "curl/8" (by simp)
  obtain ⟨told, done, f, other, b, later⟩ := searching_hands_out "wget" (by simp)
  have plain (search : String) : (searching search).selection.HasPlainDate := by
    show ∀ c ∈ "2024-05-01".toList, c ≠ '_' ∧ c ≠ '/' ∧ c ≠ '\\' ∧ c ≠ '\x00'
    simp
  let folder := settings.exports.outputDir
  obtain ⟨-, dated, -⟩ := exports_side_by_side one other a b earlier later folder
  refine ⟨heard, told, deeds, done, e, f, a, b, one, other, earlier, later, plain _, plain _, ?_⟩
  rw [Ne, dated (plain _) (plain _)]
  decide

end Desk

end Watchdesk
