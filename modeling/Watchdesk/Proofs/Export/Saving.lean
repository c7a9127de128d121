import Watchdesk.Export.Save
import Watchdesk.Proofs.Text.Splitting

/-!
# Folders that are made a second time

A save makes the folders on the way to its file. Those that are there are not made again, and where
they could not be made they cannot be made the next time either.
-/

namespace Watchdesk

namespace Disk

variable {d r : Disk} {p q : Place} {absolute : Bool} {parts : List String}

/-- The parts of a path, by the characters of its text. -/
theorem path_eq (text : String) : path text =
    if text.toList.any (· = '\x00') then .error .badName
    else if longestPath < text.utf8ByteSize then .error .nameTooLong
    else if text = "" then .error .notFound
    else .ok ⟨text.startsWith "/",
      ((Text.splitOn '/' text.toList).map String.ofList).filter (· ≠ "")⟩ := by
  have searched : text.any (· = '\x00') = text.toList.any (· = '\x00') :=
    String.contains_bool_eq
  have split : text.splitOn "/" = (Text.splitOn '/' text.toList).map String.ofList := by
    rw [← Text.splitOn_slash, String.ofList_toList]
  unfold path
  rw [searched, split]

theorem entry?_put_self (e : DiskEntry) (lower : p ≠ []) : entry? (d.put p e) p = some e := by
  unfold entry? put
  simp [lower]

theorem entry?_put_of_ne (e : DiskEntry) (other : q ≠ p) : entry? (d.put p e) q = d.entry? q := by
  unfold entry? put
  by_cases top : q.isEmpty
  · rw [if_pos top, if_pos top]
  · rw [if_neg top, if_neg top, List.lookup_cons]
    have different : (q == p) = false := by simpa using other
    rw [different]
    dsimp only
    induction d.entries with
    | nil => rfl
    | cons entry entries ih =>
      obtain ⟨place, found⟩ := entry
      by_cases same : place = p
      · subst same
        rw [List.filter_cons_of_neg (by simp), ih, List.lookup_cons, different]
      · rw [List.filter_cons_of_pos (by simpa using same), List.lookup_cons, List.lookup_cons, ih]

/-- A part is only followed from a folder. -/
theorem entry?_of_follow {part : String} (followed : d.follow p part = .ok q) :
    d.entry? p = some .folder := by
  unfold follow at followed
  cases found : d.entry? p with
  | none =>
    rw [found] at followed
    cases followed
  | some entry =>
    cases entry with
    | folder => rfl
    | file content =>
      rw [found] at followed
      cases followed

theorem followAll_append (d : Disk) (p : Place) (first second : List String) :
    d.followAll p (first ++ second) = (d.followAll p first).bind (d.followAll · second) := by
  induction first generalizing p with
  | nil => rfl
  | cons part first ih =>
    show (d.follow p part).bind (fun q => d.followAll q (first ++ second)) = _
    have step : d.followAll p (part :: first) = (d.follow p part).bind (d.followAll · first) := rfl
    rw [step]
    cases d.follow p part with
    | error fault => rfl
    | ok q => exact ih q

/-- A path leads where it led as long as folders stay. -/
theorem followAll_mono (folders : ∀ p, d.entry? p = some .folder → r.entry? p = some .folder)
    (followed : d.followAll p parts = .ok q) : r.followAll p parts = .ok q := by
  induction parts generalizing p with
  | nil => exact followed
  | cons part parts ih =>
    have step (disk : Disk) :
        disk.followAll p (part :: parts) = (disk.follow p part).bind (disk.followAll · parts) := rfl
    rw [step] at followed ⊢
    cases first : d.follow p part with
    | error fault =>
      rw [first] at followed
      cases followed
    | ok next =>
      rw [first] at followed
      have folder := entry?_of_follow first
      have same : r.follow p part = d.follow p part := by
        unfold follow
        rw [folder, folders p folder]
      rw [same, first]
      exact ih followed

/-- What is put where no folder is takes the place of none. -/
theorem folders_put {place : Place} (entry : DiskEntry) (bare : d.entry? place ≠ some .folder)
    (folder : d.entry? p = some .folder) : entry? (d.put place entry) p = some .folder := by
  have other : p ≠ place := by
    rintro rfl
    exact bare folder
  rwa [entry?_put_of_ne entry other]

theorem followAll_put {place : Place} (entry : DiskEntry) (bare : d.entry? place ≠ some .folder)
    (followed : d.followAll p parts = .ok q) :
    (d.put place entry).followAll p parts = .ok q :=
  followAll_mono (fun _ => folders_put entry bare) followed

theorem isFolder_iff {path : Path} :
    d.isFolder path = true ↔ ∃ p, d.locate path = .ok p ∧ d.entry? p = some .folder := by
  unfold isFolder
  cases d.locate path with
  | error fault => simp
  | ok p =>
    dsimp only
    cases found : d.entry? p with
    | none => simp [found]
    | some entry => cases entry <;> simp [found]

/-- Where a path leads somewhere, each shorter one leads to a folder. -/
theorem isFolder_of_locate {first second : List String}
    (located : d.locate ⟨absolute, first ++ second⟩ = .ok q) (proper : second ≠ []) :
    d.isFolder ⟨absolute, first⟩ = true := by
  unfold locate at located
  dsimp only at located
  rw [followAll_append] at located
  cases reached : d.followAll (if absolute = true then [] else d.home) first with
  | error fault =>
    rw [reached] at located
    cases located
  | ok p =>
    rw [reached] at located
    refine isFolder_iff.mpr ⟨p, reached, ?_⟩
    cases second with
    | nil => exact absurd rfl proper
    | cons part rest =>
      have step : d.followAll p (part :: rest) = (d.follow p part).bind (d.followAll · rest) := rfl
      rw [Except.bind, step] at located
      cases next : d.follow p part with
      | error fault =>
        rw [next] at located
        cases located
      | ok place => exact entry?_of_follow next

theorem makeFolder_of_locate {path : Path} (located : d.locate path = .ok p) :
    d.makeFolder path =
      if (d.entry? p).isSome then .error .exists else .ok (d.put p .folder) := by
  unfold makeFolder
  rw [located]
  dsimp only [bind, Except.bind]
  cases d.entry? p <;> rfl

theorem locate_of_makeFolder {path : Path} (made : d.makeFolder path = .ok r) :
    ∃ p, d.locate path = .ok p := by
  unfold makeFolder at made
  cases located : d.locate path with
  | error fault =>
    rw [located] at made
    cases made
  | ok p => exact ⟨p, rfl⟩

/-- A folder that was made is there. -/
theorem isFolder_of_makeFolder {path : Path} (made : d.makeFolder path = .ok r) :
    r.isFolder path = true := by
  obtain ⟨p, located⟩ := locate_of_makeFolder made
  rw [makeFolder_of_locate located] at made
  cases found : d.entry? p with
  | some entry =>
    rw [found] at made
    cases made
  | none =>
    rw [found] at made
    cases made
    have lower : p ≠ [] := by
      rintro rfl
      cases found
    have vacant : d.entry? p ≠ some .folder := by simp [found]
    have reached := followAll_put .folder vacant located
    exact isFolder_iff.mpr ⟨p, reached, entry?_put_self .folder lower⟩

/-! ## Folders that are made a second time -/

theorem unlessFolder_ok {path : Path} {fault : DiskFault} {u : Unit}
    (fine : d.unlessFolder path fault = .ok u) : d.isFolder path = true := by
  unfold unlessFolder at fine
  split at fine
  · assumption
  · cases fine

theorem isFolder_of_makeFolders {u : Unit} (made : d.makeFolders absolute parts = (r, .ok u))
    (some : parts ≠ []) : r.isFolder ⟨absolute, parts.reverse⟩ = true := by
  unfold makeFolders at made
  rw [dif_neg some] at made
  dsimp only at made
  split at made
  · next first =>
    cases made
    exact isFolder_of_makeFolder first
  · split at made
    · cases made
    · split at made
      · next second =>
        cases made
        exact isFolder_of_makeFolder second
      · next fault second =>
        rw [Prod.mk.injEq] at made
        obtain ⟨rfl, fine⟩ := made
        exact unlessFolder_ok fine
  · rw [Prod.mk.injEq] at made
    obtain ⟨rfl, fine⟩ := made
    exact unlessFolder_ok fine

end Disk

namespace Export.Artifact

variable {folder : String} {d r : Disk}

theorem save_of_fault (a : Artifact) {fault : DiskFault}
    (failed : d.provideFolder folder = (r, .error fault)) :
    a.save folder d = (r, .error (.disk fault.text)) := by
  unfold save
  rw [failed]

/-- What a save does once its folder is there. -/
theorem save_of_folder (a : Artifact) {u : Unit}
    (provided : d.provideFolder folder = (r, .ok u)) :
    let written := r.overwrite (a.savePath folder) a.content.toUTF8
    a.save folder d = (written.1,
      (written.2.map fun _ => a.savePath folder).mapError fun fault => .disk fault.text) := by
  intro written
  unfold save
  rw [provided]
  dsimp only
  cases outcome : r.overwrite (a.savePath folder) a.content.toUTF8 with
  | mk after result =>
    have whole : written = (after, result) := outcome
    rw [whole]
    cases result <;> rfl

end Export.Artifact

end Watchdesk
