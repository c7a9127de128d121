import Watchdesk.Proofs.Export.Cancellation

/-!
# The requests of an export

An export that nobody cancels asks for the rows behind those that it has, until it has all that its
job asks for, or a request fails or gets no rows. So whatever its source hands out, and however
long the batches are, what it was handed out decides which requests it makes, how far it reports to
have come, and what it comes to.
-/

namespace Watchdesk.Export

/-- How the batches of a run come to their end. -/
inductive Ending where
  /-- The run has as many rows as its job asks for. -/
  | full
  /-- A request gets no rows. -/
  | exhausted
  | failed (fault : Fault)

/-- What a request gets that is the last one and brings nothing. -/
def Ending.answer? : Ending → Option (Except Fault (List (List String)))
  | .full => none
  | .exhausted => some (.ok [])
  | .failed fault => some (.error fault)

/-- What a run is handed out: the batches that bring it further, and how they end. -/
structure Supply where
  batches : List (List (List String)) := []
  ending : Ending

namespace Supply

/-- The answers to the requests of a run. -/
def answers (s : Supply) : List (Except Fault (List (List String))) :=
  s.batches.map .ok ++ s.ending.answer?.toList

/-- The records of all batches. -/
def records (s : Supply) : List (List String) := s.batches.flatten

/-- How many rows the first batches bring. -/
def received (s : Supply) (count : Nat) : Nat := (s.batches.take count).flatten.length

/-- What is reported of a run before its file is made. -/
def finishReports (s : Supply) (r : Run) : List Progress :=
  match s.ending with
  | .failed _ => []
  | .full | .exhausted => (r.gather s.records).finishReports

/-- What a run comes to. -/
def result (s : Supply) (r : Run) (header : List String) (fileName : String) :
    Except Fault Outcome :=
  match s.ending with
  | .failed fault => .error fault
  | .full | .exhausted => .ok ((r.gather s.records).finish header fileName)

/-- A supply with one more batch in front. -/
def after (batch : List (List String)) (s : Supply) : Supply :=
  { s with batches := batch :: s.batches }

variable (s : Supply) (batch : List (List String))

@[simp] theorem received_zero : s.received 0 = 0 := by simp [received]

@[simp] theorem received_after (count : Nat) :
    (s.after batch).received (count + 1) = batch.length + s.received count := by
  simp [received, after]

@[simp] theorem records_after : (s.after batch).records = batch ++ s.records := rfl

@[simp] theorem answers_after : (s.after batch).answers = .ok batch :: s.answers := rfl

theorem gather_after (r : Run) :
    r.gather (s.after batch).records = (r.gather batch).gather s.records := by
  simp [Run.gather]

theorem finishReports_after (r : Run) :
    (s.after batch).finishReports r = s.finishReports (r.gather batch) := by
  unfold finishReports
  rw [gather_after]
  rfl

theorem result_after (r : Run) (header : List String) (fileName : String) :
    (s.after batch).result r header fileName = s.result (r.gather batch) header fileName := by
  unfold result
  rw [gather_after]
  rfl

variable {s}

/-- Where every batch has rows, every batch brings the run further. -/
theorem received_lt (filled : ∀ batch ∈ s.batches, batch ≠ []) {earlier later : Nat}
    (lt : earlier < later) (most : later ≤ s.batches.length) :
    s.received earlier < s.received later := by
  obtain ⟨batches, ending⟩ := s
  induction batches generalizing earlier later with
  | nil =>
    simp only [List.length_nil] at most
    omega
  | cons batch batches ih =>
    have positive : 0 < batch.length := List.length_pos_iff.mpr (filled batch List.mem_cons_self)
    have others : ∀ batch ∈ batches, batch ≠ [] := by
      intro batch member
      exact filled batch (List.mem_cons_of_mem _ member)
    have split (count : Nat) : (⟨batch :: batches, ending⟩ : Supply).received (count + 1) =
        batch.length + (⟨batches, ending⟩ : Supply).received count :=
      received_after ⟨batches, ending⟩ batch count
    obtain ⟨later, rfl⟩ : ∃ n, later = n + 1 := ⟨later - 1, by omega⟩
    cases earlier with
    | zero =>
      rw [received_zero, split]
      omega
    | succ earlier =>
      have shorter : later ≤ batches.length := by simpa using most
      have further := ih (Nat.lt_of_succ_lt_succ lt) others shorter
      rw [split, split]
      omega

end Supply

/-! ## From any point of a run -/

/-- What a run does from here on that is handed out a supply, when it has made so many requests. -/
structure Trace.Supplied (t : Trace) (fetch : Batches) (header : List String) (fileName : String)
    (r : Run) (fetches : Nat) (s : Supply) : Prop where
  filled : ∀ batch ∈ s.batches, batch ≠ []
  requests : t.requests.length = s.answers.length
  asked : ∀ n offset limit, t.requests[n]? = some (offset, limit) →
    offset = r.offset + s.received n ∧
    limit = min r.job.batchSize (r.job.exportTotal - offset) ∧ offset < r.job.exportTotal ∧
    s.answers[n]? = some (fetch (fetches + n + 1) offset limit)
  few : t.requests.length ≤ r.job.exportTotal - r.offset
  full : s.ending = .full ↔ r.job.exportTotal ≤ r.offset + s.records.length
  reports : t.reports = (List.range s.batches.length).map
    (fun n => ⟨r.offset + s.received (n + 1), r.job.exportTotal, .fetching⟩) ++ s.finishReports r
  result : t.result = s.result r header fileName

variable {fetch : Batches} {header : List String} {fileName : String} {r : Run} {fetches : Nat}
  {t : Trace}

/-- The last request of a run that gets nothing from it. -/
theorem Run.asked_last (r : Run) (more : r.offset < r.job.exportTotal) {ending : Ending}
    (answered : ending.answer? = some (fetch (fetches + 1) r.offset r.limit)) (n offset limit : Nat)
    (asked : [(r.offset, r.limit)][n]? = some (offset, limit)) :
    let s : Supply := { ending }
    offset = r.offset + s.received n ∧
      limit = min r.job.batchSize (r.job.exportTotal - offset) ∧ offset < r.job.exportTotal ∧
      s.answers[n]? = some (fetch (fetches + n + 1) offset limit) := by
  cases n with
  | zero =>
    cases asked
    refine ⟨rfl, rfl, more, ?_⟩
    simp [Supply.answers, answered]
  | succ n => cases asked

/-- A batch with rows is one more of the supply. -/
theorem Trace.Supplied.after {batch : List (List String)} {s : Supply}
    (supplied : t.Supplied fetch header fileName (r.gather batch) (fetches + 1) s)
    (filled : batch ≠ []) (more : r.offset < r.job.exportTotal)
    (fetched : fetch (fetches + 1) r.offset r.limit = .ok batch) :
    ((t.reported [(r.gather batch).progress .fetching]).asked r.offset r.limit).Supplied fetch
      header fileName r fetches (s.after batch) := by
  have positive : 0 < batch.length := List.length_pos_iff.mpr filled
  have gained : (r.gather batch).offset = r.offset + batch.length := r.offset_gather batch
  refine ⟨?_, ?_, ?_, ?_, ?_, ?_, ?_⟩
  · intro other member
    rcases List.mem_cons.mp member with rfl | later
    · exact filled
    · exact supplied.filled other later
  · rw [Supply.answers_after, List.length_cons, ← supplied.requests]
    rfl
  · intro n offset limit asked
    cases n with
    | zero =>
      cases asked
      refine ⟨by simp, rfl, more, ?_⟩
      rw [Supply.answers_after, fetched]
      rfl
    | succ n =>
      obtain ⟨place, size, short, answered⟩ := supplied.asked n offset limit asked
      refine ⟨?_, size, short, ?_⟩
      · rw [Supply.received_after, place, gained]
        omega
      · have later : fetches + (n + 1) + 1 = fetches + 1 + n + 1 := by omega
        rw [Supply.answers_after, later]
        exact answered
  · have few : t.requests.length ≤ r.job.exportTotal - (r.gather batch).offset := supplied.few
    show t.requests.length + 1 ≤ _
    omega
  · have full := supplied.full
    rw [gained] at full
    rw [Supply.records_after, List.length_append, ← Nat.add_assoc]
    exact full
  · have first : (⟨r.offset + (s.after batch).received 1, r.job.exportTotal, .fetching⟩ :
        Progress) = (r.gather batch).progress .fetching := by
      rw [Supply.received_after, Supply.received_zero, Nat.add_zero, ← gained]
      rfl
    have others (n : Nat) : r.offset + (s.after batch).received (n + 1 + 1) =
        (r.gather batch).offset + s.received (n + 1) := by
      rw [Supply.received_after, gained, Nat.add_assoc]
    show (r.gather batch).progress .fetching :: t.reports = _
    rw [supplied.reports, Supply.finishReports_after]
    show _ = (List.range (s.batches.length + 1)).map _ ++ _
    rw [List.range_succ_eq_map, List.map_cons, first, List.map_map, List.cons_append]
    simp only [Function.comp_def, others]
    rfl
  · exact supplied.result.trans (s.result_after batch r header fileName).symm

/-- Whatever a source hands out, it is the supply of the run. -/
theorem Undisturbed.supplied (t_of : Undisturbed fetch header fileName r fetches t) :
    ∃ s, t.Supplied fetch header fileName r fetches s := by
  induction t_of with
  | @full r fetches full =>
    refine ⟨{ ending := .full }, ?_, rfl, ?_, ?_, ?_, ?_, ?_⟩
    · simp
    · intro n offset limit asked
      cases asked
    · exact Nat.zero_le _
    · simpa [Supply.records] using full
    · simp [Run.conclude, Supply.finishReports, Run.gather, Supply.records]
    · simp [Run.conclude, Supply.result, Run.gather, Supply.records]
  | @failed r fetches fault more fetched =>
    refine ⟨{ ending := .failed fault }, ?_, rfl, ?_, ?_, ?_, rfl, rfl⟩
    · simp
    · apply r.asked_last more
      rw [fetched]
      rfl
    · show 1 ≤ _
      omega
    · simpa [Supply.records] using more
  | @exhausted r fetches more fetched =>
    refine ⟨{ ending := .exhausted }, ?_, rfl, ?_, ?_, ?_, ?_, ?_⟩
    · simp
    · apply r.asked_last more
      rw [fetched]
      rfl
    · show 1 ≤ _
      omega
    · simpa [Supply.records] using more
    · simp [Run.conclude, Trace.asked, Supply.finishReports, Run.gather, Supply.records]
    · simp [Run.conclude, Trace.asked, Supply.result, Run.gather, Supply.records]
  | @gathered r fetches batch t more fetched filled rest ih =>
    obtain ⟨s, supplied⟩ := ih
    exact ⟨s.after batch, supplied.after filled more fetched⟩

/-! ## Whole runs -/

/-- How far a run reports to have come: first, and after each batch. -/
def Supply.progress (s : Supply) (exportTotal : Nat) : List Progress :=
  (List.range (s.batches.length + 1)).map fun n => ⟨s.received n, exportTotal, .fetching⟩

/-- The account of a whole run that is handed out a supply. -/
structure Trace.Accounted (t : Trace) (fetch : Batches) (job : Job) (header : List String)
    (fileName : String) (s : Supply) : Prop where
  few : t.requests.length ≤ job.exportTotal
  /-- Its requests get batches with rows, one after another; only the last one may get no rows, or
  fail. -/
  answered : (t.requests.mapIdx fun n request => fetch (n + 1) request.1 request.2) =
    s.batches.map .ok ++ s.ending.answer?.toList
  filled : ∀ batch ∈ s.batches, batch ≠ []
  full : s.ending = .full ↔ job.exportTotal ≤ s.records.length
  /-- A request is for the rows behind those that have come, for one at least and for none beyond
  the last. -/
  asked : ∀ n offset limit, t.requests[n]? = some (offset, limit) →
    offset = s.received n ∧ limit = min job.batchSize (job.exportTotal - offset) ∧
    1 ≤ limit ∧ offset + limit ≤ job.exportTotal
  rising : ∀ earlier later, earlier < later → later ≤ s.batches.length →
    s.received earlier < s.received later
  failed : ∀ fault, s.ending = .failed fault → t.result = .error fault
  /-- A run that does not fail makes a file if it has any rows. -/
  ended : (∀ fault, s.ending ≠ .failed fault) → t.result = .ok
    (if s.batches = [] then .empty
    else .written ⟨fileName, String.ofList (Csv.document header s.records)⟩ s.records.length
      job.total)
  /-- One more report comes before a file is made, of as many rows as are in the file. -/
  written : ∀ artifact rows total, t.result = .ok (.written artifact rows total) →
    t.reports = s.progress job.exportTotal ++ [⟨rows, job.exportTotal, .building⟩] ∧
    artifact.content = String.ofList (Csv.document header s.records) ∧ rows = s.records.length
  /-- Where no file is made there is no such report. -/
  unwritten : (∀ artifact rows total, t.result ≠ .ok (.written artifact rows total)) →
    t.reports = s.progress job.exportTotal

theorem Supply.gather_eq (s : Supply) (job : Job) :
    Run.gather { job } s.records = { job, records := s.records } := by
  simp [Run.gather]

/-- Where every batch has rows, there are no records only if there are no batches. -/
theorem Supply.records_eq_nil_iff {s : Supply} (filled : ∀ batch ∈ s.batches, batch ≠ []) :
    s.records = [] ↔ s.batches = [] := by
  obtain ⟨batches, ending⟩ := s
  cases batches with
  | nil => simp [Supply.records]
  | cons batch batches => simp [Supply.records, filled batch List.mem_cons_self]

/-- A run that fails reports nothing more. -/
theorem Supply.fails {s : Supply} {fault : Fault} (failed : s.ending = .failed fault) (r : Run)
    (header : List String) (fileName : String) :
    s.result r header fileName = .error fault ∧ s.finishReports r = [] := by
  unfold Supply.result Supply.finishReports
  rw [failed]
  exact ⟨rfl, rfl⟩

/-- A run that does not fail makes a file of what it has, and reports it before. -/
theorem Supply.ends {s : Supply} (filled : ∀ batch ∈ s.batches, batch ≠ []) (job : Job)
    (header : List String) (fileName : String) (fine : ∀ fault, s.ending ≠ .failed fault) :
    s.result { job } header fileName = .ok
      (if s.batches = [] then .empty
      else .written ⟨fileName, String.ofList (Csv.document header s.records)⟩ s.records.length
        job.total) ∧
    s.finishReports { job } =
      if s.batches = [] then [] else [⟨s.records.length, job.exportTotal, .building⟩] := by
  have none := records_eq_nil_iff filled
  have finished : (Run.gather { job } s.records).finish header fileName =
      if s.batches = [] then .empty
      else .written ⟨fileName, String.ofList (Csv.document header s.records)⟩ s.records.length
        job.total := by
    simp only [gather_eq, Run.finish, List.isEmpty_iff, none]
    rfl
  have reported : (Run.gather { job } s.records).finishReports =
      if s.batches = [] then [] else [⟨s.records.length, job.exportTotal, .building⟩] := by
    simp only [gather_eq, Run.finishReports, List.isEmpty_iff, none]
    rfl
  cases ending : s.ending with
  | failed fault => exact absurd ending (fine fault)
  | full | exhausted =>
    unfold Supply.result Supply.finishReports
    rw [ending]
    exact ⟨congrArg Except.ok finished, reported⟩

/-- Only a supply that brings rows makes a file, and it makes it of its records. -/
theorem Supply.written {s : Supply} (filled : ∀ batch ∈ s.batches, batch ≠ []) {job : Job}
    {header : List String} {fileName : String} {artifact : Artifact} {rows total : Nat}
    (made : s.result { job } header fileName = .ok (.written artifact rows total)) :
    s.finishReports { job } = [⟨rows, job.exportTotal, .building⟩] ∧
      artifact.content = String.ofList (Csv.document header s.records) ∧
      rows = s.records.length := by
  have fine (fault : Fault) : s.ending ≠ .failed fault := by
    intro failed
    rw [(fails failed { job } header fileName).1] at made
    cases made
  obtain ⟨result, last⟩ := ends filled job header fileName fine
  rw [result] at made
  rw [last]
  by_cases bare : s.batches = []
  · rw [if_pos bare] at made
    cases made
  · rw [if_neg bare] at made ⊢
    cases made
    exact ⟨rfl, rfl, rfl⟩

theorem Supply.unwritten {s : Supply} (filled : ∀ batch ∈ s.batches, batch ≠ []) {job : Job}
    {header : List String} {fileName : String}
    (unmade : ∀ artifact rows total,
      s.result { job } header fileName ≠ .ok (.written artifact rows total)) :
    s.finishReports { job } = [] := by
  by_cases fine : ∀ fault, s.ending ≠ .failed fault
  · obtain ⟨result, last⟩ := ends filled job header fileName fine
    have bare : s.batches = [] := by
      by_contra some
      rw [if_neg some] at result
      exact unmade _ _ _ result
    rw [last, if_pos bare]
  · push Not at fine
    obtain ⟨fault, failed⟩ := fine
    exact (fails failed { job } header fileName).2

/-- The reports of a whole run, the first one included. -/
theorem Trace.Supplied.reports_eq {job : Job} {s : Supply}
    (supplied : t.Supplied fetch header fileName { job } 0 s) :
    ⟨0, job.exportTotal, .fetching⟩ :: t.reports =
      s.progress job.exportTotal ++ s.finishReports { job } := by
  have later : t.reports = (List.range s.batches.length).map
      (fun n => ⟨0 + s.received (n + 1), job.exportTotal, .fetching⟩) ++
        s.finishReports { job } := supplied.reports
  simp only [Nat.zero_add] at later
  rw [later, Supply.progress, List.range_succ_eq_map, List.map_cons, List.map_map,
    Supply.received_zero]
  rfl

theorem Trace.Supplied.accounted {job : Job} {s : Supply} (positive : 0 < job.batchSize)
    (supplied : t.Supplied fetch header fileName { job } 0 s) :
    (t.reported [⟨0, job.exportTotal, .fetching⟩]).Accounted fetch job header fileName s := by
  have filled := supplied.filled
  have none : Run.offset { job } = 0 := rfl
  have asked (n offset limit : Nat) (found : t.requests[n]? = some (offset, limit)) :
      offset = s.received n ∧ limit = min job.batchSize (job.exportTotal - offset) ∧
        offset < job.exportTotal ∧ s.answers[n]? = some (fetch (n + 1) offset limit) := by
    have own := supplied.asked n offset limit found
    rw [none, Nat.zero_add, Nat.zero_add] at own
    exact own
  refine ⟨supplied.few, ?_, filled, ?_, ?_, ?_, ?_, ?_, ?_, ?_⟩
  · show t.requests.mapIdx _ = s.answers
    apply List.ext_getElem?
    intro n
    rw [List.getElem?_mapIdx]
    cases found : t.requests[n]? with
    | none =>
      have past := List.getElem?_eq_none_iff.mp found
      rw [supplied.requests] at past
      exact (List.getElem?_eq_none_iff.mpr past).symm
    | some request =>
      obtain ⟨offset, limit⟩ := request
      exact (asked n offset limit found).2.2.2.symm
  · have full := supplied.full
    rw [none, Nat.zero_add] at full
    exact full
  · intro n offset limit found
    obtain ⟨place, size, short, -⟩ := asked n offset limit found
    refine ⟨place, size, ?_, ?_⟩ <;> omega
  · intro earlier later lt most
    exact Supply.received_lt filled lt most
  · intro fault failed
    exact supplied.result.trans (Supply.fails failed { job } header fileName).1
  · intro fine
    exact supplied.result.trans (Supply.ends filled job header fileName fine).1
  · intro artifact rows total made
    obtain ⟨last, content, count⟩ := Supply.written filled (supplied.result.symm.trans made)
    refine ⟨?_, content, count⟩
    rw [← last]
    exact supplied.reports_eq
  · intro unmade
    have last : s.finishReports { job } = [] := by
      apply Supply.unwritten filled
      intro artifact rows total made
      exact unmade artifact rows total (supplied.result.trans made)
    have whole := supplied.reports_eq
    rw [last, List.append_nil] at whole
    exact whole

/-- For every job that a plan clears and every source of batches, of any length, with or without
rows, or failing, a run that nobody cancels comes to its end, and what it is handed out accounts
for all its requests, its reports and its outcome. -/
theorem execute_accounted (fetch : Batches) {batchSize maxRows total : Nat} {job : Job}
    (cleared : ((Sizing.ofNumbers batchSize maxRows).start total).cleared = some job)
    (header : List String) (fileName : String) :
    ∃ s : Supply,
      (execute { fetch } job header fileName).Accounted fetch job header fileName s := by
  have positive : 0 < job.batchSize := by
    rcases Nat.eq_zero_or_pos total with rfl | present
    · cases cleared
    · rw [cleared_start batchSize maxRows present] at cleared
      cases cleared
      exact Nat.lt_of_lt_of_le Nat.one_pos (Nat.le_max_right _ _)
  obtain ⟨t, t_of, whole⟩ := execute_undisturbed fetch job header fileName
  obtain ⟨s, supplied⟩ := t_of.supplied
  rw [whole]
  exact ⟨s, supplied.accounted positive⟩

/-- A source that first hands out fewer rows than it was asked for, and then more. -/
theorem execute_accounted_of_uneven :
    let fetch : Batches := fun number _ _ =>
      .ok (if number = 1 then [["a"]] else [["b"], ["c"], ["d"]])
    let t := execute { fetch } ⟨5, 3, 2⟩ ["n"] "f.csv"
    ((Sizing.ofNumbers 2 3).start 5).cleared = some ⟨5, 3, 2⟩ ∧
      t.requests = [(0, 2), (1, 2)] ∧
      ∃ s : Supply, t.Accounted fetch ⟨5, 3, 2⟩ ["n"] "f.csv" s := by
  intro fetch t
  have cleared : ((Sizing.ofNumbers 2 3).start 5).cleared = some ⟨5, 3, 2⟩ := rfl
  have requests : t.requests = [(0, 2), (1, 2)] := by cbv
  exact ⟨cleared, requests, execute_accounted fetch cleared ["n"] "f.csv"⟩

end Watchdesk.Export
