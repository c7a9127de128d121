import Watchdesk.Proofs.Export.Completeness

/-!
# The cap of an export

A run never asks for rows beyond its cap, but it keeps whatever a batch brings. So the cap holds as
long as the source keeps to the limits of the requests. A batch that is longer than it was asked for
goes into the file as a whole; if it reaches beyond the cap, it is the last one.
-/

namespace Watchdesk.Export

/-- The last batch of a run, after `fetches` earlier ones, was longer than it was asked for, and
brought the run to `rows` rows. -/
def Trace.Overfull (t : Trace) (c : Conditions) (fetches rows : Nat) : Prop :=
  ∃ offset limit batch, t.requests.getLast? = some (offset, limit) ∧
    c.fetch (fetches + t.requests.length) offset limit = .ok batch ∧ limit < batch.length ∧
    rows = offset + batch.length

/-- What a run has to do with its cap. Only some numbers of rows may be beyond it. -/
structure Trace.Capped (t : Trace) (header : List String) (cap : Nat) (beyond : Nat → Prop) :
    Prop where
  /-- No request reaches beyond the cap. -/
  requests : ∀ request ∈ t.requests, request.1 + request.2 ≤ cap
  /-- All reports have the cap for their total. -/
  reports : ∀ report ∈ t.reports,
    report.total = cap ∧ (report.current ≤ cap ∨ beyond report.current)
  /-- A file has as many records as it is said to have. -/
  written : ∀ artifact rows total, t.result = .ok (.written artifact rows total) →
    (∃ records, artifact.content = String.ofList (Csv.document header records) ∧
      records.length = rows) ∧ (rows ≤ cap ∨ beyond rows)

variable {header : List String} {cap : Nat} {beyond : Nat → Prop} {t : Trace}

/-- An overfull batch stays the last one with a request in front. -/
theorem Trace.Overfull.asked {c : Conditions} {fetches rows : Nat}
    (overfull : t.Overfull c (fetches + 1) rows) (offset limit : Nat) :
    (t.asked offset limit).Overfull c fetches rows := by
  obtain ⟨last, most, batch, final, fetched, long, reached⟩ := overfull
  refine ⟨last, most, batch, ?_, ?_, long, reached⟩
  · show ((offset, limit) :: t.requests).getLast? = _
    rw [List.getLast?_cons, final]
    rfl
  · show c.fetch (fetches + (t.requests.length + 1)) last most = _
    rw [← Nat.add_assoc, Nat.add_right_comm]
    exact fetched

/-! ## Small traces -/

theorem Trace.Capped.asked (capped : t.Capped header cap beyond) {offset limit : Nat}
    (within : offset + limit ≤ cap) : (t.asked offset limit).Capped header cap beyond :=
  { capped with
    requests := by
      intro request member
      rcases List.mem_cons.mp member with same | later
      · subst same
        exact within
      · exact capped.requests request later }

theorem Trace.Capped.reported (capped : t.Capped header cap beyond) {report : Progress}
    (total : report.total = cap) (bound : report.current ≤ cap ∨ beyond report.current) :
    (t.reported [report]).Capped header cap beyond :=
  { capped with
    reports := by
      intro other member
      rcases List.mem_cons.mp member with same | later
      · subst same
        exact ⟨total, bound⟩
      · exact capped.reports other later }

theorem Trace.Capped.mono (capped : t.Capped header cap beyond) {further : Nat → Prop}
    (weaker : ∀ rows, beyond rows → further rows) : t.Capped header cap further where
  requests := capped.requests
  reports := by
    intro report member
    obtain ⟨total, bound⟩ := capped.reports report member
    exact ⟨total, bound.imp_right (weaker _)⟩
  written := by
    intro artifact rows total made
    obtain ⟨content, bound⟩ := capped.written artifact rows total made
    exact ⟨content, bound.imp_right (weaker _)⟩

theorem capped_of_unmade {result : Except Fault Outcome}
    (unmade : ∀ artifact rows total, result ≠ .ok (.written artifact rows total)) :
    ({ result } : Trace).Capped header cap beyond where
  requests := fun _ member => absurd member List.not_mem_nil
  reports := fun _ member => absurd member List.not_mem_nil
  written := fun artifact rows total made => absurd made (unmade artifact rows total)

/-- The end of a run reports the records that the run has, and makes a file of them. -/
theorem conclude_capped (r : Run) (header : List String) (fileName : String)
    (bound : r.offset ≤ r.job.exportTotal ∨ beyond r.offset) :
    (r.conclude header fileName).Capped header r.job.exportTotal beyond where
  requests := fun _ member => absurd member List.not_mem_nil
  reports := by
    intro report member
    simp only [Run.conclude, Run.finishReports] at member
    split at member
    · cases member
    · rw [List.mem_singleton] at member
      subst member
      exact ⟨rfl, bound⟩
  written := by
    intro artifact rows total made
    simp only [Run.conclude, Run.finish] at made
    split at made
    · cases made
    · cases made
      exact ⟨⟨r.records, rfl, rfl⟩, bound⟩

/-! ## A whole run -/

/-- A run that has all rows that its job asks for ends without another request. -/
theorem play_of_full (c : Conditions) (header : List String) (fileName : String) {r : Run}
    (full : r.job.exportTotal ≤ r.offset) (cancelled : Bool) (fetches reports : Nat) :
    play c header fileName r cancelled fetches reports = r.conclude header fileName := by
  have finish : r.turn cancelled = .finish := if_neg (Nat.not_lt.mpr full)
  rw [play]
  split
  · next stop =>
    rw [finish] at stop
    cases stop
  · rfl
  · next ask =>
    rw [finish] at ask
    cases ask

/-- What a run asks for is within its cap. -/
theorem offset_add_limit_le {r : Run} (bounded : r.offset ≤ r.job.exportTotal) :
    r.offset + r.limit ≤ r.job.exportTotal := by
  unfold Run.limit
  omega

/-- A run that is stopped or fails after its request makes nothing. -/
theorem capped_of_failed {r : Run} (bounded : r.offset ≤ r.job.exportTotal)
    {result : Except Fault Outcome}
    (unmade : ∀ artifact rows total, result ≠ .ok (.written artifact rows total)) :
    ({ requests := [(r.offset, r.limit)], result } : Trace).Capped header r.job.exportTotal
      beyond :=
  (capped_of_unmade unmade).asked (offset_add_limit_le bounded)

/-- The cap of a run that has kept it so far. -/
theorem play_capped (c : Conditions) (header : List String) (fileName : String) (r : Run)
    (cancelled : Bool) (fetches reports : Nat) (bounded : r.offset ≤ r.job.exportTotal) :
    let t := play c header fileName r cancelled fetches reports
    t.Capped header r.job.exportTotal (t.Overfull c fetches) := by
  fun_induction play c header fileName r cancelled fetches reports
  case case1 => exact capped_of_unmade fun _ _ _ made => by cases made
  case case2 r cancelled fetches reports finish =>
    exact conclude_capped r header fileName (Or.inl bounded)
  case case3 r cancelled fetches reports offset limit ask fault failed =>
    obtain ⟨rfl, rfl, -⟩ := turn_eq_ask ask
    exact capped_of_failed bounded fun _ _ _ made => by cases made
  case case4 r cancelled fetches reports offset limit ask batch fetched dropped =>
    obtain ⟨rfl, rfl, -⟩ := turn_eq_ask ask
    exact capped_of_failed bounded fun _ _ _ made => by cases made
  case case5 r cancelled fetches reports offset limit ask batch fetched exhausted =>
    obtain ⟨rfl, rfl, -⟩ := turn_eq_ask ask
    exact (conclude_capped r header fileName (Or.inl bounded)).asked (offset_add_limit_le bounded)
  case case6 r cancelled fetches reports offset limit ask batch fetched next received ih =>
    obtain ⟨rfl, rfl, -⟩ := turn_eq_ask ask
    have job := Run.job_of_receive received
    have reached : next.offset = r.offset + batch.length := by
      rw [(Run.eq_gather_of_receive received).1, Run.offset_gather]
    rw [← job]
    by_cases kept : next.offset ≤ next.job.exportTotal
    · have rest := (ih kept).mono fun rows overfull => overfull.asked r.offset r.limit
      exact (rest.reported rfl (Or.inl kept)).asked (job ▸ offset_add_limit_le bounded)
    · -- The batch reaches beyond the cap: the run ends with it.
      have full : next.job.exportTotal ≤ next.offset := by omega
      have long : r.limit < batch.length := by
        have within := offset_add_limit_le bounded
        rw [job] at kept
        omega
      rw [play_of_full c header fileName full]
      have overfull : ((next.conclude header fileName).reported
          [next.progress .fetching] |>.asked r.offset r.limit).Overfull c fetches next.offset :=
        ⟨r.offset, r.limit, batch, rfl, fetched, long, reached⟩
      have ended := conclude_capped next header fileName (Or.inr overfull)
      exact (ended.reported rfl (Or.inr overfull)).asked (job ▸ offset_add_limit_le bounded)

/-- Every batch keeps to the limit of its request. -/
def Conditions.Obedient (c : Conditions) : Prop :=
  ∀ number offset limit batch, c.fetch number offset limit = .ok batch → batch.length ≤ limit

/-- For every source of batches, every total, cap and batch size: no request of an export reaches
beyond the cap, and its reports and its file do so only if the last batch was longer than it was
asked for. So an export from a source that keeps to the limits keeps its cap. -/
theorem execute_capped (c : Conditions) (batchSize maxRows : Nat) {total : Nat}
    (present : 0 < total) (header : List String) (fileName : String) :
    ∃ job, ((Sizing.ofNumbers batchSize maxRows).start total).cleared = some job ∧
      let t := execute c job header fileName
      t.Capped header (min total maxRows) (t.Overfull c 0) ∧
        (c.Obedient → t.Capped header (min total maxRows) fun _ => False) := by
  refine ⟨_, cleared_start batchSize maxRows present, ?_⟩
  intro t
  let r : Run := { job := ⟨total, min total maxRows, max batchSize 1⟩ }
  have played := play_capped c header fileName r (c.cancelledBefore || c.cancelledInReport 1) 0 1
    (Nat.zero_le _)
  have capped : t.Capped header (min total maxRows) (t.Overfull c 0) :=
    played.reported rfl (Or.inl (Nat.zero_le _))
  refine ⟨capped, ?_⟩
  intro obedient
  apply capped.mono
  rintro rows ⟨offset, limit, batch, -, fetched, long, -⟩
  have short := obedient _ _ _ _ fetched
  omega

/-- A source of nine rows that keeps to the limits: an export that is capped at two rows has at most
two. -/
theorem execute_capped_of_nine :
    let c : Conditions :=
      { fetch := fun _ offset limit =>
          .ok ((((List.range 9).map fun n => [toString n]).drop offset).take limit) }
    0 < 3 ∧ c.Obedient ∧
      ∃ job, ((Sizing.ofNumbers 2 2).start 3).cleared = some job ∧
        (execute c job ["n"] "f.csv").Capped ["n"] 2 fun _ => False := by
  intro c
  have obedient : c.Obedient := by
    intro number offset limit batch fetched
    cases fetched
    exact List.length_take_le _ _
  have present : 0 < 3 := by decide
  obtain ⟨job, cleared, -, capped⟩ := execute_capped c 2 2 present ["n"] "f.csv"
  exact ⟨present, obedient, job, cleared, capped obedient⟩

/-- A source that hands out five rows at a time, whatever is asked for. An export that is capped at
two rows makes a file of five, and says so. -/
theorem execute_beyond_cap :
    let rows := (List.range 9).map fun n => [toString n, "row " ++ toString n]
    let c : Conditions := { fetch := fun _ offset _ => .ok ((rows.drop offset).take 5) }
    ∃ job, ((Sizing.ofNumbers 2 2).start 3).cleared = some job ∧ min 3 2 = 2 ∧
      let t := execute c job ["n", "label"] "out.csv"
      t.requests = [(0, 2)] ∧
        t.reports = [⟨0, 2, .fetching⟩, ⟨5, 2, .fetching⟩, ⟨5, 2, .building⟩] ∧
        t.result = .ok (.written
          ⟨"out.csv", "\uFEFFn,label\n0,row 0\n1,row 1\n2,row 2\n3,row 3\n4,row 4"⟩ 5 3) := by
  intro rows c
  refine ⟨⟨3, 2, 2⟩, rfl, rfl, ?_⟩
  cbv

end Watchdesk.Export
