import Watchdesk.Export.Run
import Watchdesk.Suspect.Sheet
import Mathlib.Data.List.Basic

/-!
# Reading a table back

A cell is quoted whenever it holds something that a reader would take for more than a character of
the cell. So what stands behind a written cell decides where the cell ends, and nothing inside it
does: a reader gathers the cells of a record one after another, and the records of a document.
-/

namespace Watchdesk

namespace Csv

/-- What may stand behind a cell: the end of the document, or a separator. -/
def Closing (rest : List Char) : Prop := ∀ c ∈ rest.head?, c = ',' ∨ c = '\n'

theorem closing_cons {c : Char} (separator : c = ',' ∨ c = '\n') (rest : List Char) :
    Closing (c :: rest) := by
  intro other member
  cases member
  exact separator

variable {g : Gathered} {rest : List Char}

/-- Behind a cell it does not matter how the cell was written. -/
theorem readFrom_of_closing {place : Place} (outside : place ≠ .quoted) (closing : Closing rest) :
    readFrom place g rest = readFrom .start g rest := by
  cases place with
  | start => rfl
  | quoted => exact absurd rfl outside
  | bare | afterQuote =>
    cases rest with
    | nil => rfl
    | cons c rest => rcases closing c rfl with rfl | rfl <;> simp [readFrom]

/-! ## Cells -/

theorem readFrom_ordinary {place : Place} (bare : place = .start ∨ place = .bare) {c : Char}
    (ordinary : isSpecial c = false) :
    readFrom place g (c :: rest) = readFrom .bare (g.push c) rest := by
  simp only [isSpecial, Bool.or_eq_false_iff, beq_eq_false_iff_ne] at ordinary
  obtain ⟨⟨⟨comma, quote⟩, feed⟩, -⟩ := ordinary
  rcases bare with rfl | rfl <;> simp [readFrom, quote]

theorem readFrom_bare (s : List Char) (ordinary : ∀ c ∈ s, isSpecial c = false)
    (closing : Closing rest) {place : Place} (bare : place = .start ∨ place = .bare) :
    readFrom place g (s ++ rest) =
      readFrom .start { g with cell := s.reverse ++ g.cell } rest := by
  induction s generalizing place g with
  | nil =>
    have outside : place ≠ .quoted := by
      rintro rfl
      simp at bare
    exact readFrom_of_closing outside closing
  | cons c s ih =>
    rw [List.cons_append, readFrom_ordinary bare (ordinary c List.mem_cons_self),
      ih (fun other member => ordinary other (List.mem_cons_of_mem c member)) (Or.inr rfl)]
    simp [Gathered.push]

theorem readFrom_quoted (s : List Char) (closing : Closing rest) :
    readFrom .quoted g (s.flatMap doubled ++ '"' :: rest) =
      readFrom .start { g with cell := s.reverse ++ g.cell } rest := by
  induction s generalizing g with
  | nil =>
    show readFrom .quoted g ('"' :: rest) = _
    rw [readFrom]
    exact readFrom_of_closing (by simp) closing
  | cons c s ih =>
    have pushed : readFrom .quoted g (doubled c ++ (s.flatMap doubled ++ '"' :: rest)) =
        readFrom .quoted (g.push c) (s.flatMap doubled ++ '"' :: rest) := by
      unfold doubled
      split
      · next quote => simp [readFrom, quote]
      · simp [readFrom]
    rw [List.flatMap_cons, List.append_assoc, pushed, ih]
    simp [Gathered.push]

/-- A reader that stands before a written cell gathers the cell. -/
theorem readFrom_cell (fresh : g.cell = []) (s : List Char) (closing : Closing rest) :
    readFrom .start g (cell s ++ rest) = readFrom .start { g with cell := s.reverse } rest := by
  unfold cell
  split
  · rw [List.append_assoc, List.cons_append]
    show readFrom .start g ('"' :: (s.flatMap doubled ++ '"' :: rest)) = _
    rw [readFrom, readFrom_quoted s closing, fresh, List.append_nil]
  · next plain =>
    have ordinary : ∀ c ∈ s, isSpecial c = false := by simpa using plain
    rw [readFrom_bare s ordinary closing (Or.inl rfl), fresh, List.append_nil]

/-! ## Records and documents -/

/-- A reader that stands before a written record gathers its cells; the record is whole when it
ends. -/
theorem readFrom_line {cells : List String} (present : cells ≠ []) (before : List String)
    (records : List (List String)) (rest : List Char) (ended : ∀ c ∈ rest.head?, c = '\n') :
    ∃ g : Gathered, g.endRecord = { records := (before.reverse ++ cells) :: records } ∧
      readFrom .start { cells := before, records } (line cells ++ rest) =
        readFrom .start g rest := by
  have closing : Closing rest := fun c member => Or.inr (ended c member)
  induction cells generalizing before with
  | nil => exact absurd rfl present
  | cons s cells ih =>
    cases cells with
    | nil =>
      refine ⟨{ cell := s.toList.reverse, cells := before, records }, ?_, ?_⟩
      · simp [Gathered.endRecord, Gathered.endCell]
      · rw [line, List.map_singleton, List.intercalate_singleton, readFrom_cell rfl _ closing]
    | cons next cells =>
      obtain ⟨g, whole, gathered⟩ := ih (List.cons_ne_nil _ _) (s :: before)
      refine ⟨g, ?_, ?_⟩
      · rw [whole, List.reverse_cons, List.append_assoc]
        rfl
      · have split : line (s :: next :: cells) ++ rest =
            cell s.toList ++ ',' :: (line (next :: cells) ++ rest) := by
          simp [line, List.intercalate_cons_cons]
        have ended : readFrom .start { cell := s.toList.reverse, cells := before, records }
            (',' :: (line (next :: cells) ++ rest)) =
              readFrom .start { cells := s :: before, records } (line (next :: cells) ++ rest) := by
          simp [readFrom, Gathered.endCell]
        rw [split, readFrom_cell rfl _ (closing_cons (Or.inl rfl) _), ended, gathered]

/-- A reader that stands before written records gathers them all. -/
theorem readFrom_lines {first : List String} {records : List (List String)}
    (celled : ∀ record ∈ first :: records, record ≠ []) (before : List (List String)) :
    readFrom .start { records := before }
        (line first ++ records.flatMap fun record => '\n' :: line record) =
      some (before.reverse ++ first :: records) := by
  have present := celled first List.mem_cons_self
  induction records generalizing first before with
  | nil =>
    obtain ⟨g, whole, gathered⟩ := readFrom_line present [] before [] (by simp)
    rw [List.flatMap_nil, gathered, readFrom, whole]
    · simp
    · simp
  | cons next records ih =>
    have others : ∀ record ∈ next :: records, record ≠ [] :=
      fun record member => celled record (List.mem_cons_of_mem first member)
    obtain ⟨g, whole, gathered⟩ := readFrom_line present [] before
      ('\n' :: (line next ++ records.flatMap fun record => '\n' :: line record)) (by simp)
    rw [List.flatMap_cons, List.cons_append, gathered]
    have ended : readFrom .start g
        ('\n' :: (line next ++ records.flatMap fun record => '\n' :: line record)) =
          readFrom .start g.endRecord
            (line next ++ records.flatMap fun record => '\n' :: line record) := by
      simp [readFrom]
    rw [ended, whole, ih others _ (others next List.mem_cons_self)]
    simp

theorem read_document {header : List String} {records : List (List String)}
    (celled : ∀ record ∈ header :: records, record ≠ []) :
    read (document header records) = some (header :: records) := by
  have marked : read (document header records) =
      readFrom .start {} (line header ++ records.flatMap fun record => '\n' :: line record) := by
    simp [read, document]
  rw [marked]
  exact readFrom_lines celled []

/-- The records of a file. -/
def readFile (bytes : ByteArray) : Option (List (List String)) :=
  (String.fromUTF8? bytes).bind fun text => read text.toList

theorem readFile_document {header : List String} {records : List (List String)}
    (celled : ∀ record ∈ header :: records, record ≠ []) :
    readFile (String.ofList (document header records)).toUTF8 = some (header :: records) := by
  have decoded (text : String) : String.fromUTF8? text.toUTF8 = some text :=
    dif_pos text.isValidUTF8
  rw [readFile, decoded, Option.bind_some, String.toList_ofList, read_document celled]

end Csv

theorem Listing.header_ne_nil (l : Listing) : l.header ≠ [] := by
  cases l <;> simp [header]

theorem Listing.record_ne_nil (l : Listing) (s : Suspect) : l.record s ≠ [] := by
  rw [← List.length_pos_iff, l.length_record s]
  exact List.length_pos_iff.mpr l.header_ne_nil

/-- A run that has gathered records makes a file of them, and whatever texts are in the cells, a
reader of the file's bytes finds the header and these records and nothing else. So of a list of
suspects it finds one record for each suspect, with as many cells as the header. -/
theorem Export.read_finish (job : Job) (fileName : String) (header : List String)
    (records : List (List String)) (celled : ∀ record ∈ header :: records, record ≠ []) :
    let content := String.ofList (Csv.document header records)
    (records ≠ [] → Run.finish { job, records } header fileName =
      .written ⟨fileName, content⟩ records.length job.total) ∧
    Csv.readFile content.toUTF8 = some (header :: records) ∧
    ∀ (listing : Listing) (suspects : List Suspect),
      let found := suspects.map listing.record
      Csv.readFile (String.ofList (Csv.document listing.header found)).toUTF8 =
        some (listing.header :: found) ∧
      found.length = suspects.length ∧
      ∀ record ∈ found, record.length = listing.header.length := by
  intro content
  refine ⟨?_, Csv.readFile_document celled, ?_⟩
  · intro present
    have filled : records.isEmpty = false := by simpa using present
    simp only [Run.finish, filled, Bool.false_eq_true, if_false]
    rfl
  · intro listing suspects found
    have own : ∀ record ∈ found, ∃ suspect, listing.record suspect = record := by
      intro record member
      obtain ⟨suspect, -, same⟩ := List.mem_map.mp member
      exact ⟨suspect, same⟩
    refine ⟨Csv.readFile_document ?_, List.length_map _, ?_⟩
    · intro record member
      rcases List.mem_cons.mp member with rfl | later
      · exact listing.header_ne_nil
      · obtain ⟨suspect, rfl⟩ := own record later
        exact listing.record_ne_nil suspect
    · intro record member
      obtain ⟨suspect, rfl⟩ := own record member
      exact listing.length_record suspect

/-- Cells with all that is special to a reader, with a byte-order mark, and with nothing. -/
theorem Export.read_finish_of_three :
    let header := ["\uFEFFIP address", "User Agent"]
    let records := [["10.0.0.1", "\"a\", b\r\nc"], ["", ""], ["\n", "\uFEFF,"]]
    (∀ record ∈ header :: records, record ≠ []) ∧
      Run.finish { job := ⟨3, 3, 2⟩, records } header "f.csv" =
        .written ⟨"f.csv", String.ofList (Csv.document header records)⟩ 3 3 ∧
      Csv.readFile (String.ofList (Csv.document header records)).toUTF8 =
        some (header :: records) := by
  intro header records
  have celled : ∀ record ∈ header :: records, record ≠ [] := by decide
  obtain ⟨written, read, -⟩ := read_finish ⟨3, 3, 2⟩ "f.csv" header records celled
  exact ⟨celled, written (by decide), read⟩

end Watchdesk
