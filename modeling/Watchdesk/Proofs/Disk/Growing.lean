import Watchdesk.Proofs.Export.Saving

/-!
# What a disk keeps

Making folders takes nothing away: whatever is there stays as it is, and what is new is a folder.
A file that is written takes one place, where no folder is. So in a disk whose files and folders
all stand in folders, they always do.
-/

namespace Watchdesk.Disk

/-- Files and folders stand in folders, as they do in any file system. -/
def Rooted (d : Disk) : Prop :=
  ∀ p ≠ [], (d.entry? p).isSome → d.entry? p.dropLast = some .folder

/-- A disk with more folders. -/
structure Grows (d r : Disk) : Prop where
  home : r.home = d.home
  medium : r.medium = d.medium
  kept : ∀ p entry, d.entry? p = some entry → r.entry? p = some entry
  fresh : ∀ p, d.entry? p = none → r.entry? p ≠ none → r.entry? p = some .folder
  rooted : d.Rooted → r.Rooted

variable {d r s : Disk} {p q : Place} {absolute : Bool} {parts : List String}

theorem Rooted.dropLast (rooted : d.Rooted) (found : d.entry? p = some .folder) :
    d.entry? p.dropLast = some .folder := by
  by_cases top : p = []
  · subst top
    exact found
  · exact rooted p top (by rw [found]; rfl)

theorem Grows.refl (d : Disk) : d.Grows d where
  home := rfl
  medium := rfl
  kept _ _ found := found
  fresh _ bare found := absurd bare found
  rooted := id

theorem Grows.trans (first : d.Grows r) (second : r.Grows s) : d.Grows s where
  home := second.home.trans first.home
  medium := second.medium.trans first.medium
  kept p entry found := second.kept p entry (first.kept p entry found)
  fresh p bare found := by
    by_cases soon : r.entry? p = none
    · exact second.fresh p soon found
    · exact second.kept p .folder (first.fresh p bare soon)
  rooted := second.rooted ∘ first.rooted

/-- The files of a disk that grows stay the same ones. -/
theorem Grows.files (grows : d.Grows r) (p : Place) (content : ByteArray) :
    r.entry? p = some (.file content) ↔ d.entry? p = some (.file content) := by
  constructor
  · intro found
    cases before : d.entry? p with
    | none =>
      have new := grows.fresh p before (by simp [found])
      rw [found] at new
      cases new
    | some entry =>
      rw [grows.kept p entry before] at found
      exact found
  · exact grows.kept p _

/-- A disk on which every folder is where it was. -/
structure KeepsFolders (d r : Disk) : Prop where
  home : r.home = d.home
  folders : ∀ p, d.entry? p = some .folder → r.entry? p = some .folder
  rooted : d.Rooted → r.Rooted

theorem Grows.keepsFolders (grows : d.Grows r) : d.KeepsFolders r where
  home := grows.home
  folders p := grows.kept p .folder
  rooted := grows.rooted

theorem KeepsFolders.trans (first : d.KeepsFolders r) (second : r.KeepsFolders s) :
    d.KeepsFolders s where
  home := second.home.trans first.home
  folders p found := second.folders p (first.folders p found)
  rooted := second.rooted ∘ first.rooted

theorem KeepsFolders.locate (keeps : d.KeepsFolders r) {named : Except DiskFault Path}
    (reached : named.bind d.locate = .ok p) : named.bind r.locate = .ok p := by
  cases named with
  | error fault => cases reached
  | ok way =>
    have followed : d.followAll (if way.absolute then [] else d.home) way.parts = .ok p := reached
    have still := followAll_mono keeps.folders followed
    rw [← keeps.home] at still
    exact still

/-- Where a part leads from a folder. -/
theorem follow_cases {part : String} (followed : d.follow p part = .ok q) :
    part = "." ∧ q = p ∨ part = ".." ∧ q = p.dropLast ∨
      part ≠ "." ∧ part ≠ ".." ∧ q = p ++ [part] := by
  have folder := entry?_of_follow followed
  unfold follow at followed
  rw [folder] at followed
  dsimp only at followed
  by_cases here : part = "."
  · rw [if_pos here] at followed
    cases followed
    exact .inl ⟨here, rfl⟩
  · rw [if_neg here] at followed
    by_cases up : part = ".."
    · rw [if_pos up] at followed
      cases followed
      exact .inr (.inl ⟨up, rfl⟩)
    · rw [if_neg up] at followed
      split at followed
      · cases followed
      · cases followed
        exact .inr (.inr ⟨here, up, rfl⟩)

/-- Where a path ends at a place with nothing in it, that place is in a folder. -/
theorem Rooted.parent_of_followAll (rooted : d.Rooted) (proper : parts ≠ [])
    (followed : d.followAll p parts = .ok q) (vacant : d.entry? q = none) :
    d.entry? q.dropLast = some .folder := by
  induction parts generalizing p with
  | nil => exact absurd rfl proper
  | cons part parts ih =>
    have step : d.followAll p (part :: parts) = (d.follow p part).bind (d.followAll · parts) := rfl
    rw [step] at followed
    cases first : d.follow p part with
    | error fault =>
      rw [first] at followed
      cases followed
    | ok next =>
      rw [first] at followed
      by_cases last : parts = []
      · subst last
        cases followed
        have folder := entry?_of_follow first
        obtain ⟨-, rfl⟩ | ⟨-, rfl⟩ | ⟨-, -, rfl⟩ := follow_cases first
        · cases vacant.symm.trans folder
        · cases vacant.symm.trans (rooted.dropLast folder)
        · rwa [List.dropLast_concat]
      · exact ih last followed

/-! ## Making folders -/

theorem ne_nil_of_not_folder (other : d.entry? p ≠ some .folder) : p ≠ [] := by
  rintro rfl
  exact other rfl

/-- What is put into a folder, and not in the place of one, stands where it should. -/
theorem Rooted.put (rooted : d.Rooted) (entry : DiskEntry) (other : d.entry? p ≠ some .folder)
    (parent : d.entry? p.dropLast = some .folder) : (d.put p entry).Rooted := by
  have lower := ne_nil_of_not_folder other
  have above : p.dropLast ≠ p := by
    intro same
    rw [same] at parent
    exact other parent
  intro q proper found
  by_cases same : q = p
  · subst same
    rwa [entry?_put_of_ne entry above]
  · rw [entry?_put_of_ne entry same] at found
    have folder := rooted q proper found
    have apart : q.dropLast ≠ p := by
      intro same
      rw [same] at folder
      exact other folder
    rwa [entry?_put_of_ne entry apart]

theorem put_keepsFolders (entry : DiskEntry) (other : d.entry? p ≠ some .folder)
    (parent : d.entry? p.dropLast = some .folder) : d.KeepsFolders (d.put p entry) where
  home := rfl
  folders _ := folders_put entry other
  rooted rooted := rooted.put entry other parent

theorem put_grows (vacant : d.entry? p = none)
    (parent : d.Rooted → d.entry? p.dropLast = some .folder) : d.Grows (d.put p .folder) where
  home := rfl
  medium := rfl
  kept q entry found := by
    have other : q ≠ p := by
      rintro rfl
      cases vacant.symm.trans found
    rwa [entry?_put_of_ne .folder other]
  fresh q bare found := by
    by_cases same : q = p
    · subst same
      have lower : q ≠ [] := ne_nil_of_not_folder (d := d) (by simp [bare])
      exact entry?_put_self .folder lower
    · rw [entry?_put_of_ne .folder same] at found
      exact absurd bare found
  rooted rooted := rooted.put .folder (by simp [vacant]) (parent rooted)

theorem makeFolder_grows (proper : parts ≠ [])
    (made : d.makeFolder ⟨absolute, parts⟩ = .ok r) : d.Grows r := by
  obtain ⟨p, located⟩ := locate_of_makeFolder made
  rw [makeFolder_of_locate located] at made
  cases vacant : d.entry? p with
  | some entry =>
    rw [vacant] at made
    cases made
  | none =>
    rw [vacant] at made
    cases made
    exact put_grows vacant fun rooted => rooted.parent_of_followAll proper located vacant

/-- Folders that are made on the way to one that cannot be made take nothing away either. -/
theorem makeFolders_grows (d : Disk) (absolute : Bool) (parts : List String) :
    d.Grows (d.makeFolders absolute parts).1 := by
  by_cases bare : parts = []
  · unfold makeFolders
    rw [dif_pos bare]
    exact .refl d
  · have proper : parts.reverse ≠ [] := by simpa using bare
    have above := makeFolders_grows d absolute (parent parts)
    unfold makeFolders
    rw [dif_neg bare]
    dsimp only
    split
    · next made => exact makeFolder_grows proper made
    · split
      · next failed => rwa [failed] at above
      · next fine =>
        rw [fine] at above
        split
        · next made => exact above.trans (makeFolder_grows proper made)
        · exact above
    · exact .refl d
termination_by parts.length
decreasing_by exact length_parent_lt bare

theorem provideFolder_grows (d : Disk) (folder : String) :
    d.Grows (d.provideFolder folder).1 := by
  unfold provideFolder
  split
  · exact .refl d
  · split
    · exact .refl d
    · exact makeFolders_grows d _ _

/-! ## Writing files -/

/-- A file can be opened at a place, which its path leads to. -/
structure Opens (d : Disk) (file : String) (p : Place) : Prop where
  reached : (path file).bind d.locate = .ok p
  other : d.entry? p ≠ some .folder

variable {file : String} {content : ByteArray} {fault : DiskFault} {u : Unit}

theorem Opens.overwrite (opens : d.Opens file p) (content : ByteArray) :
    d.overwrite file content = d.fill p content := by
  unfold Disk.overwrite
  rw [opens.reached]
  dsimp only
  cases found : d.entry? p with
  | none => rfl
  | some entry =>
    cases entry with
    | folder => exact absurd found opens.other
    | file old => rfl

theorem located_of_reached (reached : (path file).bind d.locate = .ok p) :
    ∃ way, path file = .ok way ∧ d.locate way = .ok p := by
  cases named : path file with
  | error fault =>
    rw [named] at reached
    cases reached
  | ok way =>
    rw [named] at reached
    exact ⟨way, rfl, reached⟩

/-- A file that cannot be opened is not written, whatever its content. -/
theorem opens_or_fails (d : Disk) (file : String) :
    (∃ p, d.Opens file p) ∨ ∃ fault, ∀ content, d.overwrite file content = (d, .error fault) := by
  cases reached : (path file).bind d.locate with
  | error fault =>
    refine .inr ⟨fault, fun content => ?_⟩
    unfold Disk.overwrite
    rw [reached]
  | ok p =>
    by_cases folder : d.entry? p = some .folder
    · refine .inr ⟨.isFolder, fun content => ?_⟩
      unfold Disk.overwrite
      rw [reached]
      dsimp only
      rw [folder]
    · exact .inl ⟨p, reached, folder⟩

/-- How much of a file its medium takes. -/
theorem fill_cases (d : Disk) (p : Place) (content : ByteArray) :
    d.fill p content = (d.put p (kept p content), .ok ()) ∨
      (∃ fault, d.fill p content = (d, .error fault)) ∨
      ∃ taken fault, d.medium p content = some (.broken taken fault) ∧
        d.fill p content = (d.put p (kept p (content.extract 0 taken)), .error fault) := by
  unfold fill
  cases verdict : d.medium p content with
  | none => exact .inl rfl
  | some stop =>
    cases stop with
    | refused fault => exact .inr (.inl ⟨fault, rfl⟩)
    | broken taken fault => exact .inr (.inr ⟨taken, fault, rfl, rfl⟩)

/-- A file that is written takes the place that its path leads to. -/
theorem overwrite_eq_ok (written : d.overwrite file content = (r, .ok u)) :
    ∃ p, d.Opens file p ∧ r = d.put p (kept p content) := by
  obtain ⟨p, opens⟩ | ⟨fault, failed⟩ := d.opens_or_fails file
  · rw [opens.overwrite] at written
    obtain whole | ⟨fault, refused⟩ | ⟨taken, fault, -, broken⟩ := d.fill_cases p content
    · rw [whole] at written
      cases written
      exact ⟨p, opens, rfl⟩
    · rw [refused] at written
      cases written
    · rw [broken] at written
      cases written
  · rw [failed] at written
    cases written

/-- A file is read where its path leads, unless the path asks for a folder. -/
theorem read_of_entry (proper : file.endsWith "/" = false)
    (reached : (path file).bind d.locate = .ok p) (found : d.entry? p = some (.file content)) :
    d.read file = .ok content := by
  obtain ⟨way, named, located⟩ := located_of_reached reached
  unfold read
  rw [named, proper]
  simp only [bind, Except.bind, located, Bool.false_eq_true, if_false, found]

theorem locate_put {named : Except DiskFault Path} {entry : DiskEntry}
    (other : d.entry? q ≠ some .folder) (reached : named.bind d.locate = .ok p) :
    named.bind (d.put q entry).locate = .ok p := by
  cases named with
  | error fault => cases reached
  | ok way => exact followAll_put entry other reached

theorem kept_of_ne (keeps : p ≠ nowhere) (bytes : ByteArray) : kept p bytes = .file bytes := by
  unfold kept
  rw [if_neg keeps]

/-- What was written is read under the same path, unless that asks for a folder or leads to the
file that keeps nothing. -/
theorem Opens.read (opens : d.Opens file p) (proper : file.endsWith "/" = false)
    (keeps : p ≠ nowhere) : (d.put p (kept p content)).read file = .ok content := by
  refine read_of_entry proper (locate_put opens.other opens.reached) ?_
  rw [entry?_put_self _ (ne_nil_of_not_folder opens.other), kept_of_ne keeps]

end Watchdesk.Disk
