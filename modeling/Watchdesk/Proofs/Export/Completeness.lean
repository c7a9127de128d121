import Watchdesk.Export.Run
import Mathlib.Data.List.Basic

/-!
# Complete exports

A source holds rows and hands them out in pages, none longer than was asked for and none empty as
long as there are rows. Whatever the pages, an export of the source gathers the first rows up to
the total, the cap and the source's end, in order, none lost and none repeated. The invariant of a
run is that its records are those of the first rows; the pages show up in nothing else.
-/

namespace Watchdesk

/-- A document is a byte-order mark and lines, with a line feed between any two. -/
theorem Csv.document_eq_intercalate (header : List String) (records : List (List String)) :
    document header records =
      byteOrderMark :: ['\n'].intercalate ((header :: records).map line) := by
  have joined (first : List Char) (rest : List (List String)) :
      ['\n'].intercalate (first :: rest.map line) =
        first ++ rest.flatMap fun r => '\n' :: line r := by
    induction rest generalizing first with
    | nil => simp
    | cons record rest ih =>
      rw [List.map_cons, List.intercalate_cons_cons, ih (line record), List.flatMap_cons]
      simp
  rw [List.map_cons, joined]
  rfl

namespace Export

/-- The job that a plan clears, after a confirmation if one is asked for. -/
def Start.cleared : Start → Option Job
  | .empty => none
  | .ready job | .needsConfirmation _ job => some job

/-- A plan of some rows clears a job for as many as the cap allows. -/
theorem cleared_start (batchSize maxRows : Nat) {total : Nat} (positive : 0 < total) :
    ((Sizing.ofNumbers batchSize maxRows).start total).cleared =
      some ⟨total, min total maxRows, max batchSize 1⟩ := by
  unfold Sizing.start
  have rows : total ≠ 0 := by omega
  rw [if_neg rows]
  split
  · next above =>
    have cap : min total maxRows = maxRows := by
      simp only [Sizing.ofNumbers] at above
      omega
    rw [cap]
    rfl
  · next within =>
    have cap : min total maxRows = total := by
      simp only [Sizing.ofNumbers] at within
      omega
    rw [cap]
    rfl

variable {ρ : Type}

/-- Pages of a source that holds rows: a request gets rows from its offset on, at least one and
not more than it asks for, as long as there are any. Requests are counted, and each may be answered
by a page of another length. -/
def PagesOf (rows : List ρ) (pages : Nat → Nat → Nat → List ρ) : Prop :=
  ∀ number offset limit,
    (offset < rows.length → 0 < limit →
      ∃ count, 1 ≤ count ∧ count ≤ min limit (rows.length - offset) ∧
        pages number offset limit = (rows.drop offset).take count) ∧
    (rows.length ≤ offset → pages number offset limit = [])

/-- An export from pages that never fail, without cancellation. -/
def Conditions.ofPages (record : ρ → List String) (pages : Nat → Nat → Nat → List ρ) :
    Conditions where
  fetch := fun number offset limit => .ok ((pages number offset limit).map record)

/-- A run has gathered the first rows of a source, and not more than its job asks for. -/
structure Run.Gathered (r : Run) (record : ρ → List String) (rows : List ρ) : Prop where
  records : r.records = (rows.take r.offset).map record
  within : r.offset ≤ rows.length
  bounded : r.offset ≤ r.job.exportTotal

/-- What a run asks for while it has not gathered everything. -/
theorem turn_eq_ask {r : Run} {cancelled : Bool} {offset limit : Nat}
    (ask : r.turn cancelled = .ask offset limit) :
    offset = r.offset ∧ limit = r.limit ∧ r.offset < r.job.exportTotal := by
  have more := Run.offset_lt_of_turn ask
  unfold Run.turn at ask
  rw [if_pos more] at ask
  split at ask
  · cases ask
  · cases ask
    exact ⟨rfl, rfl, more⟩

/-- What a run makes of a page, as long as it is not cancelled. -/
theorem receive_page (r : Run) (batch : List (List String)) :
    r.receive false batch = if batch = [] then .exhausted else .gathered (r.gather batch) := by
  cases batch <;> rfl

/-- A request of a run gets no rows if there are none left; otherwise it gets some, and not more
than the run still needs. -/
theorem PagesOf.page {rows : List ρ} {pages : Nat → Nat → Nat → List ρ}
    (paged : PagesOf rows pages) (number : Nat) {r : Run} (positive : 0 < r.job.batchSize)
    (more : r.offset < r.job.exportTotal) :
    rows.length ≤ r.offset ∧ pages number r.offset r.limit = [] ∨
      ∃ count, 1 ≤ count ∧ r.offset + count ≤ rows.length ∧
        r.offset + count ≤ r.job.exportTotal ∧
        pages number r.offset r.limit = (rows.drop r.offset).take count := by
  obtain ⟨left, ended⟩ := paged number r.offset r.limit
  by_cases past : rows.length ≤ r.offset
  · exact Or.inl ⟨past, ended past⟩
  · have limit : 0 < r.limit := by
      unfold Run.limit
      omega
    obtain ⟨count, least, most, page⟩ := left (by omega) limit
    have bounds : count ≤ r.job.exportTotal - r.offset ∧ count ≤ rows.length - r.offset := by
      unfold Run.limit at most
      omega
    exact Or.inr ⟨count, least, by omega, by omega, page⟩

/-- A run that has gathered the first rows gathers a page of the rows behind them. -/
theorem Run.Gathered.gather {r : Run} {record : ρ → List String} {rows : List ρ}
    (gathered : r.Gathered record rows) {count : Nat} (within : r.offset + count ≤ rows.length)
    (bounded : r.offset + count ≤ r.job.exportTotal) :
    (r.gather (((rows.drop r.offset).take count).map record)).Gathered record rows ∧
      (r.gather (((rows.drop r.offset).take count).map record)).offset = r.offset + count := by
  have length : ((rows.drop r.offset).take count).length = count := by
    rw [List.length_take, List.length_drop]
    omega
  have offset : (r.gather (((rows.drop r.offset).take count).map record)).offset =
      r.offset + count := by
    show (r.records ++ _).length = r.records.length + count
    rw [List.length_append, List.length_map, length]
  refine ⟨⟨?_, ?_, ?_⟩, offset⟩
  · rw [offset, List.take_add, List.map_append, ← gathered.records]
    rfl
  · rw [offset]
    exact within
  · rw [offset]
    exact bounded

/-- A run that cannot gather more has gathered all that its job asks for and the source holds. -/
theorem Run.Gathered.complete {r : Run} {record : ρ → List String} {rows : List ρ}
    (gathered : r.Gathered record rows)
    (ended : r.job.exportTotal ≤ r.offset ∨ rows.length ≤ r.offset) :
    { r with records := (rows.take (min r.job.exportTotal rows.length)).map record } = r := by
  have within := gathered.within
  have bounded := gathered.bounded
  have all : min r.job.exportTotal rows.length = r.offset := by omega
  rw [all, ← gathered.records]

/-- A run over the pages of a source ends with the first rows of the source, as many as its job
asks for and the source holds. -/
theorem play_complete {record : ρ → List String} {rows : List ρ}
    {pages : Nat → Nat → Nat → List ρ} (paged : PagesOf rows pages) (header : List String)
    (fileName : String) (r : Run) (cancelled : Bool) (fetches reports : Nat)
    (going : cancelled = false) (gathered : r.Gathered record rows)
    (positive : 0 < r.job.batchSize) :
    (play (.ofPages record pages) header fileName r cancelled fetches reports).result =
      .ok (Run.finish
        { r with records := (rows.take (min r.job.exportTotal rows.length)).map record }
        header fileName) := by
  fun_induction play (.ofPages record pages) header fileName r cancelled fetches reports
  case case1 r cancelled fetches reports stop =>
    subst going
    unfold Run.turn at stop
    split at stop
    · cases stop
    · cases stop
  case case2 r cancelled fetches reports finish =>
    subst going
    have ended : r.job.exportTotal ≤ r.offset := by
      unfold Run.turn at finish
      split at finish
      · cases finish
      · omega
    rw [gathered.complete (Or.inl ended)]
    rfl
  case case3 fault failed => cases failed
  case case4 dropped =>
    have kept := receive_page _ _ ▸ dropped
    split at kept
    · cases kept
    · cases kept
  case case5 r cancelled fetches reports offset limit ask batch fetched exhausted =>
    subst going
    obtain ⟨rfl, rfl, more⟩ := turn_eq_ask ask
    cases fetched
    have emptied := receive_page r _ ▸ exhausted
    split at emptied
    · next empty =>
      rcases paged.page (fetches + 1) positive more with ⟨ended, -⟩ | ⟨count, least, most, -, page⟩
      · rw [gathered.complete (Or.inr ended)]
        rfl
      · rw [page, List.map_eq_nil_iff, ← List.length_eq_zero_iff, List.length_take,
          List.length_drop] at empty
        omega
    · cases emptied
  case case6 r cancelled fetches reports offset limit ask batch fetched next received ih =>
    subst going
    obtain ⟨rfl, rfl, more⟩ := turn_eq_ask ask
    cases fetched
    have filled := receive_page r _ ▸ received
    split at filled
    · cases filled
    · next present =>
      cases filled
      rcases paged.page (fetches + 1) positive more with
        ⟨-, empty⟩ | ⟨count, -, within, bounded, page⟩
      · exact absurd (by rw [empty]; rfl) present
      · have grown := gathered.gather within bounded
        rw [← page] at grown
        exact ih rfl grown.1 positive

/-- Take a source of rows that hands them out in pages, a total, a cap and a batch size. The export
of that total, confirmed if need be and not cancelled, comes to its end with the first rows, as
many as the total, the cap and the source allow: with no file if these are none, and otherwise with
a file of the byte-order mark, the header and the lines of these rows. Neither the batch size nor
the pages have a say in it. -/
theorem execute_complete (record : ρ → List String) (rows : List ρ)
    (pages : Nat → Nat → Nat → List ρ) (paged : PagesOf rows pages)
    (batchSize maxRows total : Nat) (present : 0 < total) (header : List String)
    (fileName : String) :
    ∃ job, ((Sizing.ofNumbers batchSize maxRows).start total).cleared = some job ∧
      let count := min total (min maxRows rows.length)
      let lines := (header :: (rows.take count).map record).map Csv.line
      (execute (.ofPages record pages) job header fileName).result = .ok
        (if count = 0 then .empty
        else .written ⟨fileName, String.ofList (Csv.byteOrderMark :: ['\n'].intercalate lines)⟩
          count total) := by
  refine ⟨_, cleared_start batchSize maxRows present, ?_⟩
  intro count lines
  let r : Run := { job := ⟨total, min total maxRows, max batchSize 1⟩ }
  have gathered : r.Gathered record rows := ⟨rfl, Nat.zero_le _, Nat.zero_le _⟩
  have positive : 0 < r.job.batchSize := Nat.lt_of_lt_of_le Nat.one_pos (Nat.le_max_right _ _)
  have played := play_complete paged header fileName r false 0 1 rfl gathered positive
  have same : min r.job.exportTotal rows.length = count := Nat.min_assoc _ _ _
  have length : ((rows.take count).map record).length = count := by
    rw [List.length_map, List.length_take]
    omega
  rw [same] at played
  refine played.trans (congrArg Except.ok ?_)
  unfold Run.finish
  by_cases nothing : count = 0
  · simp [nothing]
  · have filled : ((rows.take count).map record).isEmpty = false := by
      rw [List.isEmpty_eq_false_iff, ← List.length_pos_iff, length]
      omega
    simp only [filled, Bool.false_eq_true, if_false, nothing, Run.offset, length,
      Csv.document_eq_intercalate]
    rfl

/-- A source of two rows that hands them out one by one, for an export of three rows in batches of
two: the file has two lines behind the header. -/
theorem execute_complete_of_two :
    let rows := ["a", "b"]
    let pages := fun (_ offset limit : Nat) => (rows.drop offset).take (min limit 1)
    PagesOf rows pages ∧ 0 < 3 ∧
      ∃ job, ((Sizing.ofNumbers 2 5).start 3).cleared = some job ∧
        (execute (.ofPages (fun row => [row, row]) pages) job ["x", "y"] "f.csv").result =
          .ok (.written ⟨"f.csv", "\uFEFFx,y\na,a\nb,b"⟩ 2 3) := by
  intro rows pages
  have paged : PagesOf rows pages := by
    intro number offset limit
    refine ⟨?_, ?_⟩
    · intro left wanted
      have one : pages number offset limit = (rows.drop offset).take 1 :=
        congrArg (rows.drop offset).take (Nat.min_eq_right wanted)
      exact ⟨1, Nat.le_refl _, by omega, one⟩
    · intro ended
      have nothing : rows.drop offset = [] := List.drop_eq_nil_of_le ended
      show (rows.drop offset).take _ = []
      rw [nothing, List.take_nil]
  refine ⟨paged, by decide, ?_⟩
  exact execute_complete (fun row => [row, row]) rows pages paged 2 5 3 (by decide)
    ["x", "y"] "f.csv"

end Export

end Watchdesk
