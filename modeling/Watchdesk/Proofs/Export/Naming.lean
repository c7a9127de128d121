import Watchdesk.Proofs.Export.Containment
import Watchdesk.Suspect.Sheet

/-!
# The names of exported files

The name of a file is put together from the list, the date and the search term of its selection,
and is saved with an underscore in the place of every character that could lead out of the folder.
So two selections share a name exactly if they are of one list and their dates with their search
terms read alike after that. Files with different names are saved side by side; a file that is saved
under the name of another one takes its place.
-/

namespace Watchdesk

open Export

/-! ## What a name tells of its selection -/

namespace Selection

/-- The part of a file name that tells the filters of a selection. -/
def label (s : Selection) : List Char :=
  (s.date.getD "").toList ++ (nonEmpty s.search).elim [] fun term => '_' :: term.toList

/-- A text as it stands in the name of a file that is saved. -/
def legible (text : List Char) : List Char := text.map Artifact.safeChar

/-- The files of two selections are saved under one name. -/
def SharesName (s t : Selection) : Prop :=
  s.listing = t.listing ∧ legible s.label = legible t.label

/-- The date holds no underscore, and nothing that becomes one in the name of a file. -/
def HasPlainDate (s : Selection) : Prop :=
  ∀ c ∈ (s.date.getD "").toList, c ≠ '_' ∧ c ≠ '/' ∧ c ≠ '\\' ∧ c ≠ '\x00'

variable {s t : Selection}

theorem toList_fileName (s : Selection) :
    s.fileName.toList = s.listing.fileStem.toList ++ '_' :: (s.label ++ ['.', 'c', 's', 'v']) := by
  unfold fileName label
  cases nonEmpty s.search <;> simp

theorem legible_fileName (s : Selection) : legible s.fileName.toList =
    s.listing.fileStem.toList ++ '_' :: (legible s.label ++ ['.', 'c', 's', 'v']) := by
  have stem : legible s.listing.fileStem.toList = s.listing.fileStem.toList := by
    cases s.listing <;> decide
  have suffix : legible ['.', 'c', 's', 'v'] = ['.', 'c', 's', 'v'] := by decide
  have mark : Artifact.safeChar '_' = '_' := by decide
  unfold legible at stem suffix ⊢
  rw [toList_fileName, List.map_append, List.map_cons, List.map_append, stem, suffix, mark]

/-- Names of files from different lists differ in their thirteenth character. -/
theorem listing_of_legible_fileName
    (same : legible s.fileName.toList = legible t.fileName.toList) : s.listing = t.listing := by
  have letter (u : Selection) :
      (legible u.fileName.toList)[12]? = some (if u.listing = .clicks then 'l' else 'o') := by
    rw [legible_fileName]
    cases u.listing <;> rfl
  have letters := (letter s).symm.trans ((congrArg (·[12]?) same).trans (letter t))
  cases first : s.listing <;> cases second : t.listing <;> simp [first, second] at letters ⊢

theorem legible_fileName_iff :
    legible s.fileName.toList = legible t.fileName.toList ↔ s.SharesName t := by
  constructor
  · intro same
    have listing := listing_of_legible_fileName same
    refine ⟨listing, ?_⟩
    rw [legible_fileName, legible_fileName, listing] at same
    have rest := List.cons.inj (List.append_cancel_left same)
    exact List.append_cancel_right rest.2
  · rintro ⟨listing, label⟩
    rw [legible_fileName, legible_fileName, listing, label]

theorem not_mem_legible_date (plain : s.HasPlainDate) :
    '_' ∉ legible (s.date.getD "").toList := by
  unfold legible
  rw [List.mem_map]
  rintro ⟨c, member, mark⟩
  obtain ⟨underscore, slash, back, null⟩ := plain c member
  unfold Artifact.safeChar at mark
  rw [if_neg (by simp [slash, back, null])] at mark
  exact underscore mark

theorem legible_date (plain : s.HasPlainDate) :
    legible (s.date.getD "").toList = (s.date.getD "").toList := by
  have same : ∀ c ∈ (s.date.getD "").toList, Artifact.safeChar c = c := by
    intro c member
    obtain ⟨-, slash, back, null⟩ := plain c member
    unfold Artifact.safeChar
    rw [if_neg (by simp [slash, back, null])]
  exact (List.map_congr_left same).trans (List.map_id' _)

theorem legible_label (s : Selection) : legible s.label = legible (s.date.getD "").toList ++
    ((nonEmpty s.search).map fun term => legible term.toList).elim [] ('_' :: ·) := by
  have mark : Artifact.safeChar '_' = '_' := by decide
  unfold label legible
  cases nonEmpty s.search <;> simp [mark]

/-- Where a text ends at the first underscore, that text and what stands behind it are told
apart. -/
theorem append_marked_inj {first second : List Char} {term other : Option (List Char)}
    (free : '_' ∉ first) (also : '_' ∉ second) :
    first ++ term.elim [] ('_' :: ·) = second ++ other.elim [] ('_' :: ·) ↔
      first = second ∧ term = other := by
  have front {text : List Char} (free : '_' ∉ text) (rest : Option (List Char)) :
      (Text.splitOn '_' (text ++ rest.elim [] ('_' :: ·))).head? = some text := by
    cases rest with
    | none => rw [Option.elim_none, List.append_nil, Text.splitOn_of_free free, List.head?_cons]
    | some rest => rw [Option.elim_some, Text.splitOn_append free, List.head?_cons]
  constructor
  · intro same
    have heads := (front free term).symm.trans
      ((congrArg (fun text => (Text.splitOn '_' text).head?) same).trans (front also other))
    cases Option.some.inj heads
    refine ⟨rfl, ?_⟩
    have rest := List.append_cancel_left same
    cases term <;> cases other <;> simp at rest ⊢
    exact rest
  · rintro ⟨rfl, rfl⟩
    rfl

/-- An empty filter counts as none. -/
theorem nonEmpty_eq_iff (filter other : Option String) :
    nonEmpty filter = nonEmpty other ↔ filter.getD "" = other.getD "" := by
  have known (filter : Option String) : nonEmpty filter =
      if filter.getD "" = "" then none else some (filter.getD "") := by
    cases filter with
    | none => rfl
    | some text => by_cases bare : text = "" <;> simp [nonEmpty, Option.filter, bare]
  rw [known filter, known other]
  constructor
  · intro same
    split_ifs at same with bare void
    · rw [bare, void]
    · exact Option.some.inj same
  · intro same
    rw [same]

/-- Selections with plain dates share a name only if they have one date, and search terms that read
alike. -/
theorem sharesName_iff_of_plain (first : s.HasPlainDate) (second : t.HasPlainDate) :
    s.SharesName t ↔ s.listing = t.listing ∧ nonEmpty s.date = nonEmpty t.date ∧
      (nonEmpty s.search).map (fun term => legible term.toList) =
        (nonEmpty t.search).map (fun term => legible term.toList) := by
  unfold SharesName
  rw [legible_label, legible_label,
    append_marked_inj (not_mem_legible_date first) (not_mem_legible_date second),
    legible_date first, legible_date second, String.toList_inj, nonEmpty_eq_iff s.date]

end Selection

/-! ## Two files in one folder -/

namespace Disk

variable {d r : Disk} {p q : Place}

theorem join_inj {name other : String} (folder : String) (free : '/' ∉ name.toList)
    (also : '/' ∉ other.toList) : join folder name = join folder other ↔ name = other := by
  constructor
  · intro same
    unfold join at same
    rw [startsWith_slash_of_free free, startsWith_slash_of_free also] at same
    split_ifs at same with bare closed
    · exact same
    · exact (String.append_right_inj _).mp same
    · exact (String.append_right_inj _).mp same
  · intro same
    rw [same]

end Disk

namespace Export.Artifact

variable {a b : Artifact} {d after final : Disk} {folder path other : String} {s t : Selection}

theorem savePath_eq_iff (a b : Artifact) (folder : String) :
    a.savePath folder = b.savePath folder ↔ a.safeName = b.safeName :=
  Disk.join_inj folder a.slash_not_mem_safeName b.slash_not_mem_safeName

/-- Files that are named for their selections have one path exactly if the selections share a
name. -/
theorem savePath_eq_iff_sharesName (first : a.fileName = s.fileName)
    (second : b.fileName = t.fileName) (folder : String) :
    a.savePath folder = b.savePath folder ↔ s.SharesName t := by
  rw [savePath_eq_iff, ← Selection.legible_fileName_iff, ← first, ← second]
  exact String.ofList_inj

/-- A file that is named for its selection cannot be mistaken for one that keeps nothing. -/
theorem safeName_of_selection (named : a.fileName = s.fileName) : a.safeName ∉ ["..", "null"] := by
  have letters : a.safeName.toList = Selection.legible s.fileName.toList := by
    rw [← named]
    exact String.toList_ofList
  have long : 4 < a.safeName.toList.length := by
    rw [letters, Selection.legible_fileName]
    simp only [List.length_append, List.length_cons, List.length_nil]
    omega
  simp only [List.mem_cons, List.not_mem_nil, or_false, not_or]
  constructor
  · intro same
    rw [same] at long
    exact absurd long (by decide)
  · intro same
    rw [same] at long
    exact absurd long (by decide)

/-- A file that was saved is still there when another one was saved under another name. -/
theorem read_of_later_save (rooted : d.Rooted) (saved : a.save folder d = (after, .ok path))
    (later : b.save folder after = (final, .ok other)) (apart : path ≠ other)
    (named : a.safeName ∉ ["..", "null"]) : final.read path = .ok a.content.toUTF8 := by
  obtain ⟨rfl, r, place, provided, opens, rfl⟩ := save_eq_ok saved
  obtain ⟨rfl, s, seat, again, free, rfl⟩ := save_eq_ok later
  have names : a.safeName ≠ b.safeName := fun same => apart ((savePath_eq_iff a b folder).mpr same)
  have keeps := Disk.ne_nowhere_of_opens a.slash_not_mem_safeName provided opens named
  obtain ⟨first, p, rfl, placed⟩ := a.placed_of_opens rooted provided opens a.content.toUTF8
  obtain ⟨second, q, rfl, also⟩ :=
    b.placed_of_opens (first.rooted rooted) again free b.content.toUTF8
  have places : p ++ [a.safeName] ≠ q ++ [b.safeName] := by
    intro same
    exact names (List.cons.inj (List.append_inj_right' same rfl)).1
  -- The path still leads to the first file after both have been written.
  exact Disk.read_of_entry placed.closed (second.locate placed.reached)
    ((also.others _ places _).mpr (placed.holds keeps))

end Export.Artifact

end Watchdesk
