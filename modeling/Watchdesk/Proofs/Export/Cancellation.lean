import Watchdesk.Proofs.Export.Cap

/-!
# Cancelled exports

A run looks whether it was cancelled before each request and behind each answer, and nowhere else.
So a run that is cancelled at some moment is the run that nobody cancels up to that moment, and is
then cut short; or the moment comes too late to matter, and nothing is different at all.
-/

namespace Watchdesk.Export

/-- The moment at which a run is cancelled. -/
inductive Moment where
  | before
  /-- While the request is under way that follows so many others. -/
  | inFetch (earlier : Nat)
  /-- While the report is made that follows so many others. -/
  | inReport (earlier : Nat)
deriving DecidableEq, Repr

/-- The batch that each request gets, by its number, offset and limit. -/
abbrev Batches := Nat → Nat → Nat → Except Fault (List (List String))

/-- A run that is cancelled at a moment. -/
def Conditions.cancelledAt (fetch : Batches) : Moment → Conditions
  | .before => { fetch, cancelledBefore := true }
  | .inFetch earlier => { fetch, cancelledInFetch := fun number => number == earlier + 1 }
  | .inReport earlier => { fetch, cancelledInReport := fun number => number == earlier + 1 }

/-- How many requests a run has made up to a moment, if it comes so far. -/
def Moment.requests : Moment → Nat
  | .before => 0
  | .inFetch earlier => earlier + 1
  | .inReport earlier => earlier

/-- How many reports a run has made up to a moment, that of the moment included. The first one
is made even by a run that was cancelled before. -/
def Moment.reports : Moment → Nat
  | .before => 1
  | .inFetch earlier | .inReport earlier => earlier + 1

/-- A moment comes in time to cut a run short: a request would still follow, or the request that is
under way succeeds. -/
def Moment.strikes (fetch : Batches) (t : Trace) : Moment → Bool
  | .before => !t.requests.isEmpty
  | .inReport earlier => earlier < t.requests.length
  | .inFetch earlier =>
    t.requests[earlier]?.any fun request => (fetch (earlier + 1) request.1 request.2).isOk

/-- The start of a trace, as the trace of a cancelled run. -/
def Trace.cut (t : Trace) (requests reports : Nat) : Trace where
  requests := t.requests.take requests
  reports := t.reports.take reports
  result := .ok .cancelled

variable {fetch : Batches} {job : Job} {header : List String} {fileName : String} {t : Trace}

theorem Trace.cut_gathered (t : Trace) (report : Progress) (offset limit requests reports : Nat) :
    ((t.reported [report]).asked offset limit).cut (requests + 1) (reports + 1) =
      ((t.cut requests reports).reported [report]).asked offset limit := rfl

/-! ## One step of a run -/

/-- A run that wants a batch asks for it, and looks again when it has it. -/
theorem play_of_more (c : Conditions) {r : Run} (more : r.offset < r.job.exportTotal)
    (fetches reports : Nat) :
    play c header fileName r false fetches reports =
      match c.fetch (fetches + 1) r.offset r.limit with
      | .error fault => { requests := [(r.offset, r.limit)], result := .error fault }
      | .ok batch =>
        if c.cancelledInFetch (fetches + 1) then
          { requests := [(r.offset, r.limit)], result := .ok .cancelled }
        else if batch = [] then (r.conclude header fileName).asked r.offset r.limit
        else
          ((play c header fileName (r.gather batch) (c.cancelledInReport (reports + 1))
            (fetches + 1) (reports + 1)).reported
              [(r.gather batch).progress .fetching]).asked r.offset r.limit := by
  have ask : r.turn false = .ask r.offset r.limit := if_pos more
  rw [play]
  split
  · next stop =>
    rw [ask] at stop
    cases stop
  · next finish =>
    rw [ask] at finish
    cases finish
  · next asked =>
    rw [ask] at asked
    cases asked
    cases fetched : c.fetch (fetches + 1) r.offset r.limit with
    | error fault => rfl
    | ok batch =>
      dsimp only
      split
      · next dropped =>
        cases cancelled : c.cancelledInFetch (fetches + 1) with
        | true => rfl
        | false =>
          rw [cancelled, receive_page] at dropped
          split at dropped <;> cases dropped
      · next exhausted =>
        cases cancelled : c.cancelledInFetch (fetches + 1) with
        | true =>
          rw [cancelled] at exhausted
          cases exhausted
        | false =>
          rw [cancelled, receive_page] at exhausted
          split at exhausted
          · next empty => simp [empty]
          · cases exhausted
      · next received =>
        cases cancelled : c.cancelledInFetch (fetches + 1) with
        | true =>
          rw [cancelled] at received
          cases received
        | false =>
          obtain ⟨rfl, some⟩ := Run.eq_gather_of_receive received
          simp [some]

/-- A run that was cancelled asks for nothing more. -/
theorem play_of_cancelled (c : Conditions) {r : Run} (more : r.offset < r.job.exportTotal)
    (fetches reports : Nat) :
    play c header fileName r true fetches reports = { result := .ok .cancelled } := by
  have stop : r.turn true = .stop := if_pos more
  rw [play]
  split
  · rfl
  · next finish =>
    rw [stop] at finish
    cases finish
  · next ask =>
    rw [stop] at ask
    cases ask

/-! ## Runs that nobody cancels -/

/-- What a run does that nobody cancels, after so many requests. -/
inductive Undisturbed (fetch : Batches) (header : List String) (fileName : String) :
    Run → Nat → Trace → Prop where
  | full {r : Run} {fetches : Nat} (full : r.job.exportTotal ≤ r.offset) :
      Undisturbed fetch header fileName r fetches (r.conclude header fileName)
  | failed {r : Run} {fetches : Nat} {fault : Fault} (more : r.offset < r.job.exportTotal)
      (fetched : fetch (fetches + 1) r.offset r.limit = .error fault) :
      Undisturbed fetch header fileName r fetches
        { requests := [(r.offset, r.limit)], result := .error fault }
  | exhausted {r : Run} {fetches : Nat} (more : r.offset < r.job.exportTotal)
      (fetched : fetch (fetches + 1) r.offset r.limit = .ok []) :
      Undisturbed fetch header fileName r fetches
        ((r.conclude header fileName).asked r.offset r.limit)
  | gathered {r : Run} {fetches : Nat} {batch : List (List String)} {t : Trace}
      (more : r.offset < r.job.exportTotal)
      (fetched : fetch (fetches + 1) r.offset r.limit = .ok batch) (filled : batch ≠ [])
      (rest : Undisturbed fetch header fileName (r.gather batch) (fetches + 1) t) :
      Undisturbed fetch header fileName r fetches
        ((t.reported [(r.gather batch).progress .fetching]).asked r.offset r.limit)

theorem play_undisturbed (fetch : Batches) (header : List String) (fileName : String) (r : Run)
    (cancelled : Bool) (fetches reports : Nat) (going : cancelled = false) :
    Undisturbed fetch header fileName r fetches
      (play { fetch } header fileName r cancelled fetches reports) := by
  fun_induction play { fetch } header fileName r cancelled fetches reports
  case case1 r cancelled fetches reports stop =>
    subst going
    unfold Run.turn at stop
    split at stop <;> cases stop
  case case2 r cancelled fetches reports finish =>
    subst going
    refine .full ?_
    unfold Run.turn at finish
    split at finish
    · cases finish
    · omega
  case case3 r cancelled fetches reports offset limit ask fault fetched =>
    obtain ⟨rfl, rfl, more⟩ := turn_eq_ask ask
    exact .failed more fetched
  case case4 r cancelled fetches reports offset limit ask batch fetched dropped =>
    have kept := receive_page r batch ▸ dropped
    split at kept <;> cases kept
  case case5 r cancelled fetches reports offset limit ask batch fetched exhausted =>
    obtain ⟨rfl, rfl, more⟩ := turn_eq_ask ask
    have emptied := receive_page r batch ▸ exhausted
    split at emptied
    · next empty => exact .exhausted more (empty ▸ fetched)
    · cases emptied
  case case6 r cancelled fetches reports offset limit ask batch fetched next received ih =>
    obtain ⟨rfl, rfl, more⟩ := turn_eq_ask ask
    obtain ⟨rfl, filled⟩ := Run.eq_gather_of_receive received
    exact .gathered more fetched filled (ih rfl)

variable {r : Run} {fetches : Nat}

theorem Undisturbed.result_ne_cancelled (t_of : Undisturbed fetch header fileName r fetches t) :
    t.result ≠ .ok .cancelled := by
  have concluded (r : Run) : (r.conclude header fileName).result ≠ .ok .cancelled := by
    simp only [Run.conclude, Run.finish]
    split <;> simp
  induction t_of with
  | full full => exact concluded _
  | failed more fetched => simp
  | exhausted more fetched => exact concluded _
  | gathered more fetched filled rest ih => exact ih

/-- A run wants a batch as long as it lacks rows. -/
theorem Undisturbed.requests_eq_nil_iff (t_of : Undisturbed fetch header fileName r fetches t) :
    t.requests = [] ↔ r.job.exportTotal ≤ r.offset := by
  cases t_of with
  | full full => exact ⟨fun _ => full, fun _ => rfl⟩
  | failed more fetched => simp [more]
  | exhausted more fetched => simp [Trace.asked, more]
  | gathered more fetched filled rest => simp [Trace.asked, more]

/-- A request that fails is the last one, and its fault is what the run comes to. -/
theorem Undisturbed.of_failed (t_of : Undisturbed fetch header fileName r fetches t)
    {earlier offset limit : Nat} {fault : Fault}
    (asked : t.requests[earlier]? = some (offset, limit))
    (failed : fetch (fetches + earlier + 1) offset limit = .error fault) :
    t.requests.length = earlier + 1 ∧ t.result = .error fault := by
  induction t_of generalizing earlier with
  | full full => cases asked
  | @failed r fetches other more fetched =>
    cases earlier with
    | zero =>
      cases asked
      rw [fetched] at failed
      cases failed
      exact ⟨rfl, rfl⟩
    | succ earlier => cases asked
  | @exhausted r fetches more fetched =>
    cases earlier with
    | zero =>
      cases asked
      rw [fetched] at failed
      cases failed
    | succ earlier => cases asked
  | @gathered r fetches batch t more fetched filled rest ih =>
    cases earlier with
    | zero =>
      cases asked
      rw [fetched] at failed
      cases failed
    | succ earlier =>
      have later : fetches + 1 + earlier + 1 = fetches + (earlier + 1) + 1 := by omega
      obtain ⟨length, result⟩ := ih asked (later ▸ failed)
      exact ⟨congrArg (· + 1) length, result⟩

/-- What was reported before a request are rows in front of it. -/
theorem Undisturbed.current_le (t_of : Undisturbed fetch header fileName r fetches t)
    {earlier offset limit : Nat} (asked : t.requests[earlier]? = some (offset, limit)) :
    r.offset ≤ offset ∧ ∀ report ∈ t.reports.take earlier, report.current ≤ offset := by
  induction t_of generalizing earlier with
  | full full => cases asked
  | failed more fetched =>
    cases earlier with
    | zero =>
      cases asked
      exact ⟨Nat.le_refl _, fun _ member => absurd member List.not_mem_nil⟩
    | succ earlier => cases asked
  | exhausted more fetched =>
    cases earlier with
    | zero =>
      cases asked
      exact ⟨Nat.le_refl _, fun _ member => absurd member List.not_mem_nil⟩
    | succ earlier => cases asked
  | @gathered r fetches batch t more fetched filled rest ih =>
    cases earlier with
    | zero =>
      cases asked
      exact ⟨Nat.le_refl _, fun _ member => absurd member List.not_mem_nil⟩
    | succ earlier =>
      obtain ⟨least, bound⟩ := ih asked
      have gained := r.offset_gather batch
      refine ⟨by omega, ?_⟩
      intro report member
      rcases List.mem_cons.mp member with rfl | later
      · exact least
      · exact bound report later

/-! ## Runs that are cancelled -/

/-- A run that is cancelled before its next step is cut there, unless it has all rows. -/
theorem Undisturbed.play_cancelled (t_of : Undisturbed fetch header fileName r fetches t)
    (c : Conditions) (reports : Nat) :
    play c header fileName r true fetches reports =
      if 0 < t.requests.length then t.cut 0 0 else t := by
  by_cases full : r.job.exportTotal ≤ r.offset
  · have ended := t_of.requests_eq_nil_iff.mpr full
    rw [play_of_full c header fileName full, ended, if_neg (by simp)]
    cases t_of with
    | full => rfl
    | failed more | exhausted more | gathered more => omega
  · have some : 0 < t.requests.length := by
      rw [List.length_pos_iff]
      exact fun none => full (t_of.requests_eq_nil_iff.mp none)
    rw [play_of_cancelled c (by omega), if_pos some]
    rfl

theorem Undisturbed.cancelledInReport (t_of : Undisturbed fetch header fileName r fetches t)
    {earlier reports : Nat} (later : reports ≤ earlier) :
    play (.cancelledAt fetch (.inReport earlier)) header fileName r false fetches reports =
      if earlier - reports + 1 < t.requests.length then
        t.cut (earlier - reports + 1) (earlier - reports + 1)
      else t := by
  induction t_of generalizing reports with
  | full full => rw [play_of_full _ _ _ full, if_neg (by simp [Run.conclude])]
  | failed more fetched =>
    rw [play_of_more _ more]
    simp [Conditions.cancelledAt, fetched]
  | exhausted more fetched =>
    rw [play_of_more _ more]
    simp [Conditions.cancelledAt, fetched, Trace.asked, Run.conclude]
  | @gathered r fetches batch t more fetched filled rest ih =>
    have goes_on : play (.cancelledAt fetch (.inReport earlier)) header fileName
        (r.gather batch) (reports + 1 == earlier + 1) (fetches + 1) (reports + 1) =
          if earlier - reports < t.requests.length then
            t.cut (earlier - reports) (earlier - reports)
          else t := by
      by_cases now : reports = earlier
      · rw [now, beq_self_eq_true, Nat.sub_self]
        exact rest.play_cancelled _ _
      · have going : (reports + 1 == earlier + 1) = false := by simpa using now
        have left : earlier - (reports + 1) + 1 = earlier - reports := by omega
        rw [going, ih (by omega), left]
    rw [play_of_more _ more]
    simp only [Conditions.cancelledAt] at goes_on ⊢
    simp only [fetched, Bool.false_eq_true, if_false, filled, goes_on]
    have length : ((t.reported [(r.gather batch).progress .fetching]).asked r.offset
        r.limit).requests.length = t.requests.length + 1 := rfl
    rw [length, Trace.cut_gathered]
    by_cases cut : earlier - reports < t.requests.length
    · rw [if_pos cut, if_pos (by omega)]
    · rw [if_neg cut, if_neg (by omega)]

theorem Undisturbed.cancelledInFetch (t_of : Undisturbed fetch header fileName r fetches t)
    {earlier : Nat} (later : fetches ≤ earlier) (reports : Nat) :
    play (.cancelledAt fetch (.inFetch earlier)) header fileName r false fetches reports =
      if t.requests[earlier - fetches]?.any
          fun request => (fetch (earlier + 1) request.1 request.2).isOk then
        t.cut (earlier - fetches + 1) (earlier - fetches)
      else t := by
  induction t_of generalizing reports with
  | full full => rw [play_of_full _ _ _ full, if_neg (by simp [Run.conclude])]
  | @failed r fetches fault more fetched =>
    rw [play_of_more _ more]
    by_cases now : fetches = earlier
    · subst now
      simp [Conditions.cancelledAt, fetched, Except.isOk, Except.toBool]
    · have other : earlier - fetches = earlier - (fetches + 1) + 1 := by omega
      simp [Conditions.cancelledAt, fetched, other]
  | @exhausted r fetches more fetched =>
    rw [play_of_more _ more]
    by_cases now : fetches = earlier
    · subst now
      simp [Conditions.cancelledAt, fetched, Except.isOk, Except.toBool, Trace.asked, Trace.cut]
    · have other : earlier - fetches = earlier - (fetches + 1) + 1 := by omega
      simp [Conditions.cancelledAt, fetched, other, now, Trace.asked, Run.conclude]
  | @gathered r fetches batch t more fetched filled rest ih =>
    rw [play_of_more _ more]
    by_cases now : fetches = earlier
    · subst now
      simp [Conditions.cancelledAt, fetched, Except.isOk, Except.toBool, Trace.asked, Trace.cut]
    · have goes_on := ih (by omega) (reports + 1)
      have going : (fetches + 1 == earlier + 1) = false := by simpa using now
      have other : earlier - fetches = earlier - (fetches + 1) + 1 := by omega
      have same : ((t.reported [(r.gather batch).progress .fetching]).asked r.offset
          r.limit).requests[earlier - (fetches + 1) + 1]? =
            t.requests[earlier - (fetches + 1)]? := rfl
      simp only [Conditions.cancelledAt] at goes_on ⊢
      simp only [fetched, going, Bool.false_eq_true, if_false, filled, goes_on, other]
      rw [same, Trace.cut_gathered]
      split <;> rfl

/-! ## Whole runs -/

theorem execute_undisturbed (fetch : Batches) (job : Job) (header : List String)
    (fileName : String) :
    ∃ t, Undisturbed fetch header fileName { job } 0 t ∧
      execute { fetch } job header fileName = t.reported [⟨0, job.exportTotal, .fetching⟩] :=
  ⟨_, play_undisturbed fetch header fileName { job } false 0 1 rfl, rfl⟩

/-- A run that is cancelled at a moment is the run that nobody cancels, up to the moment if it comes
in time and as a whole if not. -/
theorem execute_cancelledAt (fetch : Batches) (job : Job) (header : List String)
    (fileName : String) (moment : Moment) :
    let plain := execute { fetch } job header fileName
    execute (.cancelledAt fetch moment) job header fileName =
      if moment.strikes fetch plain then plain.cut moment.requests moment.reports else plain := by
  intro plain
  obtain ⟨t, t_of, whole⟩ := execute_undisturbed fetch job header fileName
  have same : plain.requests = t.requests := by
    rw [show plain = _ from whole]
    rfl
  have shorten {strikes : Prop} [Decidable strikes] (requests reports : Nat) :
      (if strikes then t.cut requests reports else t).reported [⟨0, job.exportTotal, .fetching⟩] =
        if strikes then plain.cut requests (reports + 1) else plain := by
    rw [show plain = _ from whole]
    split <;> rfl
  cases moment with
  | before =>
    have cut := t_of.play_cancelled (.cancelledAt fetch .before) 1
    show (play _ header fileName { job } true 0 1).reported _ = _
    rw [cut, Moment.strikes, same]
    simp only [List.length_pos_iff, Bool.not_eq_true', List.isEmpty_eq_false_iff]
    exact shorten 0 0
  | inReport earlier =>
    cases earlier with
    | zero =>
      have cut := t_of.play_cancelled (.cancelledAt fetch (.inReport 0)) 1
      show (play _ header fileName { job } true 0 1).reported _ = _
      rw [cut, Moment.strikes, same]
      simp only [decide_eq_true_eq]
      exact shorten 0 0
    | succ earlier =>
      have cut := t_of.cancelledInReport (Nat.le_add_left 1 earlier)
      show (play _ header fileName { job } false 0 1).reported _ = _
      rw [cut, Moment.strikes, same]
      simp only [decide_eq_true_eq]
      exact shorten (earlier + 1) (earlier + 1)
  | inFetch earlier =>
    have cut := t_of.cancelledInFetch (Nat.zero_le earlier) 1
    show (play _ header fileName { job } false 0 1).reported _ = _
    rw [cut, Moment.strikes, same]
    exact shorten (earlier + 1) earlier

/-- A moment that comes too late comes behind the last request. -/
theorem requests_le_of_late {moment : Moment}
    (late : moment.strikes fetch (execute { fetch } job header fileName) = false) :
    (execute { fetch } job header fileName).requests.length ≤ moment.requests := by
  obtain ⟨t, t_of, whole⟩ := execute_undisturbed fetch job header fileName
  rw [whole] at late ⊢
  show t.requests.length ≤ moment.requests
  cases moment with
  | before =>
    have none : t.requests = [] := by simpa [Moment.strikes, Trace.reported] using late
    rw [none]
    exact Nat.le_refl 0
  | inReport earlier => exact Nat.not_lt.mp (of_decide_eq_false late)
  | inFetch earlier =>
    cases asked : t.requests[earlier]? with
    | none => exact Nat.le_succ_of_le (List.getElem?_eq_none_iff.mp asked)
    | some request =>
      cases fetched : fetch (earlier + 1) request.1 request.2 with
      | error fault =>
        rw [← Nat.zero_add earlier] at fetched
        exact Nat.le_of_eq (t_of.of_failed asked fetched).1
      | ok batch =>
        simp [Moment.strikes, Trace.reported, asked, fetched, Except.isOk, Except.toBool] at late

theorem requests_cancelledAt (moment : Moment) :
    (execute (.cancelledAt fetch moment) job header fileName).requests =
      (execute { fetch } job header fileName).requests.take moment.requests := by
  rw [execute_cancelledAt]
  split
  · rfl
  · next late =>
    have last := requests_le_of_late (Bool.eq_false_iff.mpr late)
    rw [List.take_of_length_le last]

theorem result_cancelledAt (moment : Moment) :
    (execute (.cancelledAt fetch moment) job header fileName).result = .ok .cancelled ↔
      moment.strikes fetch (execute { fetch } job header fileName) = true := by
  obtain ⟨t, t_of, whole⟩ := execute_undisturbed fetch job header fileName
  rw [execute_cancelledAt, whole]
  split
  · next strikes => exact ⟨fun _ => strikes, fun _ => rfl⟩
  · next late => exact ⟨fun cancelled => absurd cancelled t_of.result_ne_cancelled,
      fun strikes => absurd strikes late⟩

/-- A run that is cancelled while a request is under way comes to the fault of that request, or
drops the batch. -/
theorem result_cancelledInFetch {earlier offset limit : Nat}
    (asked : (execute { fetch } job header fileName).requests[earlier]? = some (offset, limit)) :
    let t := execute (.cancelledAt fetch (.inFetch earlier)) job header fileName
    match fetch (earlier + 1) offset limit with
    | .error fault => t.result = .error fault
    | .ok _ => t.result = .ok .cancelled ∧ ∀ report ∈ t.reports, report.current ≤ offset := by
  obtain ⟨t, t_of, whole⟩ := execute_undisturbed fetch job header fileName
  rw [execute_cancelledAt]
  rw [whole] at asked ⊢
  have own : t.requests[earlier]? = some (offset, limit) := asked
  cases fetched : fetch (earlier + 1) offset limit with
  | error fault =>
    have late : Moment.strikes fetch (t.reported [⟨0, job.exportTotal, .fetching⟩])
        (.inFetch earlier) = false := by
      simp [Moment.strikes, asked, fetched, Except.isOk, Except.toBool]
    rw [late]
    rw [← Nat.zero_add earlier] at fetched
    exact (t_of.of_failed own fetched).2
  | ok batch =>
    have strikes : Moment.strikes fetch (t.reported [⟨0, job.exportTotal, .fetching⟩])
        (.inFetch earlier) = true := by
      simp [Moment.strikes, asked, fetched, Except.isOk, Except.toBool]
    rw [strikes]
    refine ⟨rfl, ?_⟩
    intro report member
    rcases List.mem_cons.mp member with rfl | later
    · exact Nat.zero_le _
    · exact (t_of.current_le own).2 report later

theorem before_strikes_iff :
    Moment.before.strikes fetch (execute { fetch } job header fileName) = true ↔
      0 < job.exportTotal := by
  obtain ⟨t, t_of, whole⟩ := execute_undisturbed fetch job header fileName
  have none : t.requests = [] ↔ job.exportTotal ≤ 0 := t_of.requests_eq_nil_iff
  rw [whole]
  show (!t.requests.isEmpty) = true ↔ _
  rw [Bool.not_eq_true', List.isEmpty_eq_false_iff, ne_eq, none]
  omega

end Watchdesk.Export
