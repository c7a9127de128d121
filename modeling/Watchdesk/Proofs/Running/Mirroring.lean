import Watchdesk.Proofs.Running.Following

/-!
# What the view shows of the replies

The view of a run shows the latest state that the run was told: its job, its message, and its
result once the job is over. While the job runs the view shows no result, whatever the state says
of one: a new run takes the result of the one before off the view, and a state of a running job
does not put its own there. A question that fails leaves the job and the result on the view.
-/

namespace Watchdesk

/-- The result that a view shows of a state: none while the job runs. -/
def JobState.shownResult (state : JobState) : Option Members :=
  if state.status = .running then none else state.result

namespace Runner

/-- What an answer says. -/
def saying : Except Fault JobState → String
  | .ok state => state.saying
  | .error _ => "Failed to fetch job status"

theorem answered_message (r : Runner) (settings : RunnerSettings)
    (outcome : Except Fault JobState) :
    (r.answered settings r.epoch outcome).1.view.message = saying outcome := by
  cases outcome with
  | error fault => simp [answered, write, saying]
  | ok state =>
    simp only [answered, ne_eq, not_true_eq_false, if_false]
    by_cases running : state.status = .running
    · have said := wording_saying state
      rw [running] at said
      simp only [running, if_true]
      exact said
    · simp only [running, if_false]
      exact (resolved_shows r.view running).2

/-- A state of a job that is over puts its result on the view; a state of a running job leaves the
view's result as it is. -/
theorem answered_result (r : Runner) (settings : RunnerSettings) (state : JobState) :
    (r.answered settings r.epoch (.ok state)).1.view.result =
      if state.status = .running then r.view.result else state.result := by
  simp only [answered, ne_eq, not_true_eq_false, if_false]
  cases status : state.status <;> simp [resolved, write, arm, status]

/-- A question that fails leaves the job and the result on the view. -/
theorem answered_error (r : Runner) (settings : RunnerSettings) (fault : Fault) :
    (r.answered settings r.epoch (.error fault)).1.view.jobId = r.view.jobId ∧
      (r.answered settings r.epoch (.error fault)).1.view.result = r.view.result := by
  simp [answered, write]

end Runner

namespace Chase

/-- What the current run has been told after one more event: a reset and a run that is accepted
begin anew, and answers to other runs are not told. -/
def hears (c : Chase) (told : List (Except Fault JobState)) :
    Event → List (Except Fault JobState)
  | .reset => []
  | .begin _ _ => if c.runner.view.status = .running then told else []
  | .answered epoch outcome =>
    if c.runner.epoch = epoch ∧ epoch ∈ c.questions then told ++ [outcome] else told
  | .started _ _ | .pass _ | .fire => told

/-- What the current run has been told in the course of events. -/
def heard (settings : RunnerSettings) :
    Chase → List (Except Fault JobState) → List Event → List (Except Fault JobState)
  | _, told, [] => told
  | c, told, event :: events =>
    heard settings (c.step settings event) (c.hears told event) events

/-- The latest state that a run was told. -/
def latest? (told : List (Except Fault JobState)) : Option JobState :=
  (told.filterMap Except.toOption).getLast?

@[simp] theorem latest?_append_ok (told : List (Except Fault JobState)) (state : JobState) :
    latest? (told ++ [.ok state]) = some state := by
  simp [latest?, Except.toOption]

@[simp] theorem latest?_append_error (told : List (Except Fault JobState)) (fault : Fault) :
    latest? (told ++ [.error fault]) = latest? told := by
  simp [latest?, Except.toOption]

/-- A chase shows what its current run was told. -/
structure Mirrors (c : Chase) (told : List (Except Fault JobState)) : Prop where
  /-- As long as the run is under way, it has no result. -/
  bare : c.runner.view.status = .running → c.runner.view.result = none
  /-- A run that was told something has been started. -/
  begun : told ≠ [] → c.runner.epoch ∉ c.starts
  shown : ∀ state, latest? told = some state →
    c.runner.view.jobId = state.jobId ∧ c.runner.view.result = state.shownResult
  said : ∀ outcome, told.getLast? = some outcome →
    c.runner.view.message = Runner.saying outcome

variable {c : Chase} {told : List (Except Fault JobState)}

theorem empty_mirrors : Mirrors {} [] where
  bare _ := rfl
  begun nothing := absurd rfl nothing
  shown state none := by cases none
  said outcome none := by cases none

/-- A run that was told nothing shows nothing that it was told. -/
theorem mirrors_nil (bare : c.runner.view.status = .running → c.runner.view.result = none) :
    c.Mirrors [] where
  bare
  begun nothing := absurd rfl nothing
  shown state none := by cases none
  said outcome none := by cases none

/-- What leaves the view and the epoch, and starts nothing, leaves what is shown. -/
theorem Mirrors.of_same (mirrors : c.Mirrors told) {d : Chase}
    (view : d.runner.view = c.runner.view) (epoch : d.runner.epoch = c.runner.epoch)
    (starts : d.starts ⊆ c.starts) : d.Mirrors told where
  bare := by
    rw [view]
    exact mirrors.bare
  begun some started := by
    rw [epoch] at started
    exact mirrors.begun some (starts started)
  shown := by
    rw [view]
    exact mirrors.shown
  said := by
    rw [view]
    exact mirrors.said

theorem Mirrors.begin (mirrors : c.Mirrors told) (settings : RunnerSettings)
    (jobId message : String) :
    (c.step settings (.begin jobId message)).Mirrors (c.hears told (.begin jobId message)) := by
  by_cases running : c.runner.view.status = .running
  · have refused : c.runner.begin jobId message = none := by simp [Runner.begin, running]
    have same : c.step settings (.begin jobId message) = c := by
      simp only [step, Chase.begin, refused]
    have kept : c.hears told (.begin jobId message) = told := if_pos running
    rw [same, kept]
    exact mirrors
  · have anew : c.hears told (.begin jobId message) = [] := if_neg running
    rw [anew]
    apply mirrors_nil
    intro _
    cases accepted : c.runner.begin jobId message with
    | none => simp [Runner.begin, running] at accepted
    | some change =>
      obtain ⟨-, -, -, view, -⟩ := Runner.begin_eq_some accepted
      simp only [step, Chase.begin, accepted, follow, view]

/-- The start of a run settles before the run is told anything. -/
theorem Mirrors.started (mirrors : c.Mirrors told) (settings : RunnerSettings) (epoch : Nat)
    (result : Except Fault Unit) : (c.step settings (.started epoch result)).Mirrors told := by
  by_cases own : c.runner.epoch = epoch ∧ epoch ∈ c.starts
  · obtain ⟨rfl, waited⟩ := own
    have untold : told = [] := by
      by_contra some
      exact mirrors.begun some waited
    subst untold
    apply mirrors_nil
    intro running
    simp only [step, Chase.started, waited, if_true, follow] at running ⊢
    cases result with
    | ok value =>
      simp only [Runner.started, if_true, Runner.arm] at running ⊢
      exact mirrors.bare running
    | error fault => simp [Runner.started, Runner.write] at running
  · rw [started_foreign own]
    exact mirrors.of_same rfl rfl List.erase_subset

/-- The current run is told one more thing. -/
theorem Mirrors.tell (mirrors : c.Mirrors told) (valid : c.Valid) (settings : RunnerSettings)
    (waited : c.runner.epoch ∈ c.questions) (outcome : Except Fault JobState) :
    (c.step settings (.answered c.runner.epoch outcome)).Mirrors (told ++ [outcome]) := by
  have running := valid.running_of_question waited
  have answers : c.IsAnswered (.answered c.runner.epoch outcome) outcome := ⟨waited, rfl⟩
  have runner := runner_of_isAnswered answers settings
  have epoch := epoch_answered c.runner settings c.runner.epoch outcome
  have unstarted : c.runner.epoch ∉ c.starts := by
    intro pending
    have question := List.count_pos_iff.mpr waited
    have start := List.count_pos_iff.mpr pending
    have one := (valid.running_of_load (by unfold load; omega)).2
    unfold load at one
    omega
  have starts : (c.step settings (.answered c.runner.epoch outcome)).starts = c.starts := by
    simp [step, answered, waited, follow]
  have status := c.runner.answered_status settings outcome
  refine ⟨?_, ?_, ?_, ?_⟩
  · rw [runner, status]
    intro goes
    cases outcome with
    | error fault => cases goes
    | ok state =>
      have still : state.status = .running := by
        cases status : state.status <;> simp [Runner.resolution, JobStatus.resolution, status]
          at goes ⊢
      rw [Runner.answered_result, if_pos still]
      exact mirrors.bare running
  · intro _
    rw [runner, epoch, starts]
    exact unstarted
  · intro state found
    rw [runner]
    cases outcome with
    | error fault =>
      obtain ⟨jobId, result⟩ := c.runner.answered_error settings fault
      rw [latest?_append_error] at found
      rw [jobId, result]
      exact mirrors.shown state found
    | ok reply =>
      rw [latest?_append_ok] at found
      cases found
      refine ⟨c.runner.answered_jobId settings state, ?_⟩
      rw [Runner.answered_result, mirrors.bare running]
      rfl
  · intro last found
    rw [List.getLast?_concat] at found
    cases found
    rw [runner]
    exact c.runner.answered_message settings outcome

theorem Mirrors.fire (mirrors : c.Mirrors told) : c.fire.Mirrors told := by
  unfold Chase.fire
  split
  · exact mirrors
  · split
    · exact mirrors.of_same rfl rfl (List.Subset.refl _)
    · next runner fired =>
      unfold Runner.fire at fired
      split at fired
      · cases fired
        exact mirrors.of_same rfl rfl (List.Subset.refl _)
      · cases fired

/-- After every event the view shows what the current run was told. -/
theorem Mirrors.step (mirrors : c.Mirrors told) (valid : c.Valid) (settings : RunnerSettings)
    (event : Event) : (c.step settings event).Mirrors (c.hears told event) := by
  cases event with
  | begin jobId message => exact mirrors.begin settings jobId message
  | reset =>
    apply mirrors_nil
    intro _
    rfl
  | started epoch result => exact mirrors.started settings epoch result
  | answered epoch outcome =>
    by_cases own : c.runner.epoch = epoch ∧ epoch ∈ c.questions
    · have one : c.hears told (.answered epoch outcome) = told ++ [outcome] := if_pos own
      rw [one]
      obtain ⟨rfl, waited⟩ := own
      exact mirrors.tell valid settings waited outcome
    · have none : c.hears told (.answered epoch outcome) = told := if_neg own
      rw [none, answered_foreign own]
      exact mirrors.of_same rfl rfl (List.Subset.refl _)
  | pass span => exact mirrors.of_same rfl rfl (List.Subset.refl _)
  | fire => exact mirrors.fire

theorem Mirrors.run (mirrors : c.Mirrors told) (valid : c.Valid) (settings : RunnerSettings)
    (events : List Event) : (run settings c events).Mirrors (heard settings c told events) := by
  induction events generalizing c told with
  | nil => exact mirrors
  | cons event events ih =>
    exact ih (mirrors.step valid settings event) (step_valid valid settings event)

/-- For every run of the runner, and every sequence of replies: as soon as the current run was told
a state, the view shows the job of the latest one. It shows the result of that state if the job is
over, and no result while the job runs. Its message is that of the last answer: the message of the
state or the default for its status, or that the state could not be fetched. A question that fails
leaves the job and the result on the view. -/
theorem run_mirrors (settings : RunnerSettings) (history : List Event) :
    let c := run settings {} history
    let told := heard settings {} [] history
    (∀ state, latest? told = some state → c.runner.view.jobId = state.jobId ∧
      c.runner.view.result = if state.status = .running then none else state.result) ∧
      (∀ state, told.getLast? = some (.ok state) → c.runner.view.message = state.saying) ∧
      (∀ fault, told.getLast? = some (.error fault) →
        c.runner.view.message = "Failed to fetch job status") ∧
      ∀ event fault, c.IsAnswered event (.error fault) →
        let after := (c.step settings event).runner.view
        after.jobId = c.runner.view.jobId ∧ after.result = c.runner.view.result := by
  intro c told
  have mirrors : c.Mirrors told := empty_mirrors.run empty_valid settings history
  refine ⟨mirrors.shown, ?_, ?_, ?_⟩
  · intro state last
    exact mirrors.said (.ok state) last
  · intro fault last
    exact mirrors.said (.error fault) last
  · intro event fault answers after
    have runner := runner_of_isAnswered answers settings
    simp only [after, runner]
    exact c.runner.answered_error settings fault

/-- A state of a running job that comes with a result: the view shows the job and the message, but
not the result. -/
theorem result_of_running_job_hidden :
    let state : JobState :=
      { status := .running, jobId := some "own", message := some "half",
        result := some [("done", .nat 1)] }
    let history : List Event :=
      [.begin "own" "", .started 1 (.ok ()), .pass 500, .fire, .answered 1 (.ok state)]
    let view := (run {} {} history).runner.view
    latest? (heard {} {} [] history) = some state ∧ view.jobId = state.jobId ∧
      view.message = state.saying ∧ view.result = none ∧ view.result ≠ state.result := by
  intro state history view
  have hidden : view.result = none := rfl
  refine ⟨rfl, rfl, by decide, hidden, ?_⟩
  rw [hidden]
  exact (Option.some_ne_none _).symm

end Chase

end Watchdesk
