import Watchdesk.Proofs.Disk.Growing

/-!
# Files stay in their folder

A file that is saved is a child of the folder that it was saved to. Its name holds no slash, so it
is one part of a path, the last one; and the parts that do not name a child lead to folders, where
no file can be written. The rest of the disk keeps its files, whether the file is saved or not.
-/

namespace Watchdesk

namespace Disk

/-! ## A name behind a folder -/

/-- The parts of a path from its characters. -/
def partsOf (text : List Char) : List String :=
  ((Text.splitOn '/' text).map String.ofList).filter (· ≠ "")

theorem partsOf_append_slash (first rest : List Char) :
    partsOf (first ++ '/' :: rest) = partsOf first ++ partsOf rest := by
  unfold partsOf
  rw [Text.splitOn_append_separator, List.map_append, List.filter_append]

theorem partsOf_of_free {name : String} (free : '/' ∉ name.toList) :
    partsOf name.toList = [name].filter (· ≠ "") := by
  unfold partsOf
  rw [Text.splitOn_of_free free, List.map_singleton, String.ofList_toList]

theorem partsOf_ne_nil {c : Char} (other : c ≠ '/') (rest : List Char) :
    partsOf (c :: rest) ≠ [] := by
  unfold partsOf Text.splitOn
  cases Text.splitOn '/' rest with
  | nil => simp
  | cons piece pieces =>
    dsimp only
    rw [if_neg other]
    simp

theorem endsWith_slash_iff (s : String) : s.endsWith "/" = true ↔ ['/'] <:+ s.toList := by
  rw [String.endsWith_eq_endsWith_toSlice, String.Slice.endsWith_string_iff, String.copy_toSlice]
  rfl

theorem startsWith_slash_of_free {name : String} (free : '/' ∉ name.toList) :
    name.startsWith "/" = false := by
  rw [Bool.eq_false_iff, Ne, String.startsWith_string_iff]
  rintro ⟨rest, whole⟩
  apply free
  rw [← whole]
  simp

theorem join_of_no_folder (name : String) : join "" name = name := by
  unfold join
  rw [if_pos (by simp)]

/-- The characters of the path of a name inside a folder. -/
theorem toList_join {folder name : String} (free : '/' ∉ name.toList) (some : folder ≠ "") :
    (join folder name).toList = folder.toList ++ '/' :: name.toList ∨
      (join folder name).toList = folder.toList ++ name.toList ∧ ['/'] <:+ folder.toList := by
  unfold join
  rw [startsWith_slash_of_free free]
  simp only [some, decide_false, Bool.or_self, Bool.false_eq_true, if_false]
  split_ifs with closed
  · exact .inr ⟨String.toList_append, (endsWith_slash_iff folder).mp closed⟩
  · left
    simp

theorem endsWith_slash_join {folder name : String} (free : '/' ∉ name.toList) (some : name ≠ "") :
    (join folder name).endsWith "/" = false := by
  have last : name.toList <:+ (join folder name).toList := by
    by_cases bare : folder = ""
    · exact ⟨[], by rw [bare, join_of_no_folder, List.nil_append]⟩
    · obtain parted | ⟨closed, -⟩ := toList_join free bare
      · exact ⟨folder.toList ++ ['/'], by simp [parted]⟩
      · exact ⟨folder.toList, closed.symm⟩
  rw [Bool.eq_false_iff, Ne, endsWith_slash_iff]
  intro slash
  rcases List.suffix_or_suffix_of_suffix slash last with inner | whole
  · exact free (inner.subset List.mem_cons_self)
  · rcases List.suffix_cons_iff.mp whole with same | nothing
    · exact free (by simp [same])
    · exact some (String.toList_eq_nil_iff.mp (List.suffix_nil.mp nothing))

theorem partsOf_join {folder name : String} (free : '/' ∉ name.toList) (some : folder ≠ "") :
    partsOf (join folder name).toList = partsOf folder.toList ++ [name].filter (· ≠ "") := by
  rw [← partsOf_of_free free]
  obtain parted | ⟨closed, front, whole⟩ := toList_join free some
  · rw [parted, partsOf_append_slash]
  · have bare : partsOf [] = [] := by decide
    rw [closed, ← whole, List.append_assoc, List.singleton_append, partsOf_append_slash,
      partsOf_append_slash front, bare, List.append_nil]

/-- The path of a folder; an empty text is the folder in which paths start. -/
def folderPath (folder : String) : Except DiskFault Path :=
  if folder = "" then .ok ⟨false, []⟩ else path folder

theorem path_of_text {text : String} {way : Path} (named : path text = .ok way) :
    way = ⟨text.startsWith "/", partsOf text.toList⟩ ∧ text ≠ "" ∧
      text.toList.any (· = '\x00') = false ∧ text.utf8ByteSize ≤ longestPath := by
  rw [path_eq] at named
  split_ifs at named with bad long bare
  cases named
  exact ⟨rfl, bare, Bool.eq_false_iff.mpr bad, Nat.not_lt.mp long⟩

/-- A path without parts is absolute. -/
theorem absolute_of_bare {text : String} {way : Path} (named : path text = .ok way)
    (bare : way.parts = []) : way.absolute = true := by
  obtain ⟨rfl, some, -, -⟩ := path_of_text named
  cases characters : text.toList with
  | nil => exact absurd (String.toList_eq_nil_iff.mp characters) some
  | cons c rest =>
    have slash : c = '/' := by
      by_contra other
      dsimp only at bare
      rw [characters] at bare
      exact partsOf_ne_nil other rest bare
    rw [String.startsWith_string_iff, characters, slash]
    exact ⟨rest, rfl⟩

/-- Where a text is a path, each text that it begins with is one, unless that is empty. -/
theorem path_of_prefix {first text : String} {way : Path} (named : path text = .ok way)
    (begins : first.toList <+: text.toList) (some : first ≠ "") :
    path first = .ok ⟨text.startsWith "/", partsOf first.toList⟩ := by
  obtain ⟨-, -, good, short⟩ := path_of_text named
  obtain ⟨rest, whole⟩ := begins
  have text_eq : first ++ String.ofList rest = text := by
    rw [← String.ofList_toList (s := text), ← whole, String.ofList_append, String.ofList_toList]
  have size : first.utf8ByteSize ≤ longestPath := by
    rw [← text_eq, String.utf8ByteSize_append] at short
    omega
  have clean : first.toList.any (· = '\x00') = false := by
    rw [← whole, List.any_append, Bool.or_eq_false_iff] at good
    exact good.1
  have same : first.startsWith "/" = text.startsWith "/" := by
    rw [Bool.eq_iff_iff, String.startsWith_string_iff, String.startsWith_string_iff, ← whole]
    cases characters : first.toList with
    | nil => exact absurd (String.toList_eq_nil_iff.mp characters) some
    | cons c cs => simp
  rw [path_eq, clean, if_neg (by simp), if_neg (by omega), if_neg some, same]
  rfl

/-- The path of a name inside a folder. -/
theorem path_join {folder name : String} {way : Path} (free : '/' ∉ name.toList)
    (named : path (join folder name) = .ok way) :
    ∃ seat, folderPath folder = .ok seat ∧
      way = ⟨seat.absolute, seat.parts ++ [name].filter (· ≠ "")⟩ := by
  obtain ⟨rfl, -, -, -⟩ := path_of_text named
  unfold folderPath
  by_cases bare : folder = ""
  · subst bare
    have relative : name.startsWith "/" = false := startsWith_slash_of_free free
    rw [join_of_no_folder, relative, partsOf_of_free free, if_pos rfl]
    exact ⟨_, rfl, rfl⟩
  · have begins : folder.toList <+: (join folder name).toList := by
      obtain parted | ⟨closed, -⟩ := toList_join free bare
      · exact ⟨_, parted.symm⟩
      · exact ⟨_, closed.symm⟩
    rw [if_neg bare, path_of_prefix named begins bare, partsOf_join free bare]
    exact ⟨_, rfl, rfl⟩

/-! ## Writing into a folder -/

variable {d r : Disk} {q : Place} {folder name : String}

/-- A folder that was provided is there. -/
theorem isFolder_of_provideFolder {u : Unit} {way : Path} (some : folder ≠ "")
    (named : path folder = .ok way) (provided : d.provideFolder folder = (r, .ok u)) :
    r.isFolder way = true := by
  unfold provideFolder at provided
  rw [if_neg some, named] at provided
  dsimp only at provided
  by_cases bare : way.parts = []
  · have top : way = ⟨true, []⟩ := by
      rw [← absolute_of_bare named bare, ← bare]
    rw [top]
    rfl
  · have made := isFolder_of_makeFolders provided (by simpa using bare)
    rwa [List.reverse_reverse] at made

/-- The place of a folder. -/
structure Seat (d : Disk) (folder : String) (p : Place) : Prop where
  reached : (folderPath folder).bind d.locate = .ok p
  folder : d.entry? p = some .folder

theorem Seat.put {p q : Place} {entry : DiskEntry} (seat : d.Seat folder p)
    (other : d.entry? q ≠ some .folder) : (d.put q entry).Seat folder p := by
  refine ⟨locate_put other seat.reached, ?_⟩
  have apart : p ≠ q := by
    rintro rfl
    exact other seat.folder
  rw [entry?_put_of_ne entry apart]
  exact seat.folder

/-- Without a name no file can be opened in a folder that was provided. -/
theorem ne_empty_of_opens (free : '/' ∉ name.toList) {u : Unit}
    (provided : d.provideFolder folder = (r, .ok u)) (opens : r.Opens (join folder name) q) :
    name ≠ "" := by
  obtain ⟨way, named, located⟩ := located_of_reached opens.reached
  obtain ⟨seat, seated, rfl⟩ := path_join free named
  rintro rfl
  by_cases bare : folder = ""
  · subst bare
    obtain ⟨-, some, -, -⟩ := path_of_text named
    rw [join_of_no_folder] at some
    exact some rfl
  · unfold folderPath at seated
    rw [if_neg bare] at seated
    obtain ⟨p, found, folder⟩ := isFolder_iff.mp (isFolder_of_provideFolder bare seated provided)
    have same : r.locate ⟨seat.absolute, seat.parts ++ [""].filter (· ≠ "")⟩ = r.locate seat := by
      simp
    rw [same, found] at located
    cases located
    exact opens.other folder

/-- A name that holds no slash is followed from its folder. -/
theorem seat_of_opens (free : '/' ∉ name.toList) {u : Unit}
    (provided : d.provideFolder folder = (r, .ok u)) (opens : r.Opens (join folder name) q) :
    name ≠ "" ∧ ∃ p, r.Seat folder p ∧ r.follow p name = .ok q := by
  have audible := ne_empty_of_opens free provided opens
  obtain ⟨way, named, located⟩ := located_of_reached opens.reached
  obtain ⟨seat, seated, rfl⟩ := path_join free named
  have whole : [name].filter (· ≠ "") = [name] := by simp [audible]
  rw [whole] at located
  obtain ⟨p, found, folder⟩ := isFolder_iff.mp (isFolder_of_locate located (by simp))
  refine ⟨audible, p, ⟨?_, folder⟩, ?_⟩
  · rw [seated]
    exact found
  · have split : r.locate ⟨seat.absolute, seat.parts ++ [name]⟩ =
        (r.locate seat).bind (r.followAll · [name]) := followAll_append r _ seat.parts [name]
    rw [split, found] at located
    cases next : r.follow p name with
    | error fault =>
      simp only [Except.bind, followAll, bind, next] at located
      cases located
    | ok place =>
      simp only [Except.bind, followAll, bind, next] at located
      exact located

/-- A file is only opened under a name that names a child of the folder. -/
theorem child_of_opens (free : '/' ∉ name.toList) {u : Unit}
    (provided : d.provideFolder folder = (r, .ok u)) (rooted : r.Rooted)
    (opens : r.Opens (join folder name) q) :
    ∃ p, r.Seat folder p ∧ name ∉ ["", ".", ".."] ∧ q = p ++ [name] := by
  obtain ⟨audible, p, seat, followed⟩ := seat_of_opens free provided opens
  obtain ⟨-, rfl⟩ | ⟨-, rfl⟩ | ⟨here, up, rfl⟩ := follow_cases followed
  · exact absurd seat.folder opens.other
  · exact absurd (rooted.dropLast seat.folder) opens.other
  · exact ⟨p, seat, by simp [audible, here, up], rfl⟩

theorem ne_nowhere (p : Place) (other : name ≠ "null") : p ++ [name] ≠ nowhere := by
  intro same
  have whole : p ++ [name] = ["dev"] ++ ["null"] := same
  exact other (List.cons.inj (List.append_inj_right' whole rfl)).1

/-- Under most names the file that keeps nothing cannot be opened, in whatever folder. -/
theorem ne_nowhere_of_opens (free : '/' ∉ name.toList) {u : Unit}
    (provided : d.provideFolder folder = (r, .ok u)) (opens : r.Opens (join folder name) q)
    (other : name ∉ ["..", "null"]) : q ≠ nowhere := by
  obtain ⟨-, p, seat, followed⟩ := seat_of_opens free provided opens
  simp only [List.mem_cons, List.not_mem_nil, or_false, not_or] at other
  obtain ⟨-, rfl⟩ | ⟨up, -⟩ | ⟨-, -, rfl⟩ := follow_cases followed
  · exact absurd seat.folder opens.other
  · exact absurd up other.1
  · exact ne_nowhere p other.2

end Disk

namespace Export.Artifact

variable {d after : Disk} {folder path : String}

theorem slash_not_mem_safeName (a : Artifact) : '/' ∉ a.safeName.toList := by
  unfold safeName
  rw [String.toList_ofList, List.mem_map]
  rintro ⟨c, -, same⟩
  unfold safeChar at same
  split_ifs at same with bad
  · cases same
  · exact bad (.inl same)

/-- What a save that worked has done: made folders, opened its file and written it. -/
theorem save_eq_ok {a : Artifact} (saved : a.save folder d = (after, .ok path)) :
    path = a.savePath folder ∧ ∃ r p, d.provideFolder folder = (r, .ok ()) ∧ r.Opens path p ∧
      after = r.put p (Disk.kept p a.content.toUTF8) := by
  cases provided : d.provideFolder folder with
  | mk r outcome =>
    cases outcome with
    | error fault =>
      rw [save_of_fault a provided] at saved
      cases saved
    | ok u =>
      rw [save_of_folder a provided] at saved
      cases written : r.overwrite (a.savePath folder) a.content.toUTF8 with
      | mk disk result =>
        rw [written] at saved
        cases result with
        | error fault => cases saved
        | ok v =>
          cases saved
          obtain ⟨p, opens, rfl⟩ := Disk.overwrite_eq_ok written
          exact ⟨rfl, r, p, rfl, opens, rfl⟩

/-- A file that was saved is read under the path that is told. -/
theorem read_of_save {a : Artifact} (saved : a.save folder d = (after, .ok path))
    (other : a.safeName ∉ ["..", "null"]) : after.read path = .ok a.content.toUTF8 := by
  obtain ⟨rfl, r, p, provided, opens, rfl⟩ := save_eq_ok saved
  have free := a.slash_not_mem_safeName
  have audible := Disk.ne_empty_of_opens free provided opens
  exact opens.read (Disk.endsWith_slash_join free audible)
    (Disk.ne_nowhere_of_opens free provided opens other)

/-- A save has changed one file, a child of its folder, where some bytes were written. -/
structure Placed (a : Artifact) (folder : String) (d after : Disk) (p : Place)
    (bytes : ByteArray) : Prop where
  seat : after.Seat folder p
  slashless : '/' ∉ a.safeName.toList
  proper : a.safeName ∉ ["", ".", ".."]
  reached : (Disk.path (a.savePath folder)).bind after.locate = .ok (p ++ [a.safeName])
  found : after.entry? (p ++ [a.safeName]) = some (Disk.kept (p ++ [a.safeName]) bytes)
  others : ∀ q ≠ p ++ [a.safeName], ∀ content,
    after.entry? q = some (.file content) ↔ d.entry? q = some (.file content)

/-- A file that was opened has been put into its folder, and the rest of the disk is as it was. -/
theorem placed_of_opens (a : Artifact) {r : Disk} {q : Place} (rooted : d.Rooted)
    (provided : d.provideFolder folder = (r, .ok ())) (opens : r.Opens (a.savePath folder) q)
    (bytes : ByteArray) :
    let after := r.put q (Disk.kept q bytes)
    d.KeepsFolders after ∧ ∃ p, q = p ++ [a.safeName] ∧ Placed a folder d after p bytes := by
  have grows := d.provideFolder_grows folder
  rw [provided] at grows
  obtain ⟨p, seat, proper, rfl⟩ :=
    Disk.child_of_opens a.slash_not_mem_safeName provided (grows.rooted rooted) opens
  refine ⟨grows.keepsFolders.trans (Disk.put_keepsFolders _ opens.other ?_), p, rfl, ?_⟩
  · rw [List.dropLast_concat]
    exact seat.folder
  · refine ⟨seat.put opens.other, a.slash_not_mem_safeName, proper,
      Disk.locate_put opens.other opens.reached, Disk.entry?_put_self _ (by simp), ?_⟩
    intro q apart content
    rw [Disk.entry?_put_of_ne _ apart]
    exact grows.files q content

namespace Placed

variable {a : Artifact} {p : Place} {bytes : ByteArray}

theorem closed (placed : Placed a folder d after p bytes) :
    (a.savePath folder).endsWith "/" = false :=
  Disk.endsWith_slash_join placed.slashless fun bare => placed.proper (by simp [bare])

theorem holds (placed : Placed a folder d after p bytes)
    (keeps : p ++ [a.safeName] ≠ Disk.nowhere) :
    after.entry? (p ++ [a.safeName]) = some (.file bytes) := by
  rw [placed.found, Disk.kept_of_ne keeps]

theorem read (placed : Placed a folder d after p bytes)
    (keeps : p ++ [a.safeName] ≠ Disk.nowhere) : after.read (a.savePath folder) = .ok bytes :=
  Disk.read_of_entry placed.closed placed.reached (placed.holds keeps)

end Placed

end Export.Artifact

end Watchdesk
