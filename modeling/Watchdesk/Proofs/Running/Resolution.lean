import Watchdesk.Proofs.Running.Loop

/-!
# What resolves a run

A run that is under way ends in success with the first reply to its own question that says
completed, and in an error if its start or a question of its fails or a reply says failed. The
runner takes the job that the backend reports for its own: it does not compare ids, so a reply about
another job, such as the one before it, resolves the run as well, and the view shows that job's id.
-/

namespace Watchdesk

/-- What a state of the backend's job makes of the run that asked for it. -/
def JobStatus.resolution : JobStatus → RunnerStatus
  | .running => .running
  | .completed => .success
  | .failed => .error
  | .idle => .idle

theorem JobStatus.resolution_eq_success {status : JobStatus} :
    status.resolution = .success ↔ status = .completed := by
  cases status <;> simp [resolution]

theorem JobStatus.resolution_eq_error {status : JobStatus} :
    status.resolution = .error ↔ status = .failed := by
  cases status <;> simp [resolution]

namespace Runner

/-- The status that an answer gives to the run that it is for. -/
def resolution : Except Fault JobState → RunnerStatus
  | .ok state => state.status.resolution
  | .error _ => .error

/-- An answer decides about the current run by its status alone. -/
theorem answered_status (r : Runner) (settings : RunnerSettings)
    (outcome : Except Fault JobState) :
    (r.answered settings r.epoch outcome).1.view.status = resolution outcome := by
  cases outcome with
  | error fault => simp [answered, write, resolution]
  | ok state =>
    simp only [answered, ne_eq, not_true_eq_false, if_false]
    cases status : state.status <;>
      simp [resolved, write, arm, resolution, JobStatus.resolution, status]

theorem answered_jobId (r : Runner) (settings : RunnerSettings) (state : JobState) :
    (r.answered settings r.epoch (.ok state)).1.view.jobId = state.jobId := by
  simp only [answered, ne_eq, not_true_eq_false, if_false]
  cases status : state.status <;> simp [resolved, write, arm, status]

end Runner

namespace Chase

variable {c : Chase}

/-- A question of the current run that is waited for belongs to a run that is under way. -/
theorem Valid.running_of_question (valid : c.Valid) (pending : c.runner.epoch ∈ c.questions) :
    c.runner.view.status = .running := by
  have count := List.count_pos_iff.mpr pending
  exact (valid.running_of_load (by unfold load; omega)).1

theorem Valid.running_of_start (valid : c.Valid) (pending : c.runner.epoch ∈ c.starts) :
    c.runner.view.status = .running := by
  have count := List.count_pos_iff.mpr pending
  exact (valid.running_of_load (by unfold load; omega)).1

/-- The start of the current run fails. -/
def StartFails (c : Chase) (event : Event) : Prop :=
  c.runner.epoch ∈ c.starts ∧ ∃ fault, event = .started c.runner.epoch (.error fault)

/-- A question of the current run is answered. -/
def IsAnswered (c : Chase) (event : Event) (outcome : Except Fault JobState) : Prop :=
  c.runner.epoch ∈ c.questions ∧ event = .answered c.runner.epoch outcome

theorem status_of_startFails {event : Event} (fails : c.StartFails event)
    (settings : RunnerSettings) : (c.step settings event).runner.view.status = .error := by
  obtain ⟨pending, fault, rfl⟩ := fails
  simp [step, started, pending, follow, Runner.started, Runner.write]

theorem runner_of_isAnswered {event : Event} {outcome : Except Fault JobState}
    (answers : c.IsAnswered event outcome) (settings : RunnerSettings) :
    (c.step settings event).runner = (c.runner.answered settings c.runner.epoch outcome).1 := by
  obtain ⟨pending, rfl⟩ := answers
  simp [step, answered, pending, follow]

/-- A run that is under way is given up, fails to start, is answered, or goes on. -/
theorem step_status (running : c.runner.view.status = .running) (settings : RunnerSettings)
    (event : Event) :
    (c.step settings event).runner.view.status = .running ∨
      (c.step settings event).runner.view.status = .idle ∨ c.StartFails event ∨
      ∃ outcome, c.IsAnswered event outcome := by
  cases event with
  | begin jobId message =>
    have refused : c.runner.begin jobId message = none := by simp [Runner.begin, running]
    left
    simp only [step, begin, refused]
    exact running
  | reset => exact Or.inr (Or.inl rfl)
  | started epoch result =>
    by_cases waited : epoch ∈ c.starts
    · by_cases current : c.runner.epoch = epoch
      · subst current
        cases result with
        | ok value =>
          left
          simp [step, started, waited, follow, Runner.started, Runner.arm, running]
        | error fault => exact Or.inr (Or.inr (Or.inl ⟨waited, fault, rfl⟩))
      · left
        simp [step, started, waited, follow, Runner.started_stale current, running]
    · left
      simp [step, started, waited, running]
  | answered epoch outcome =>
    by_cases waited : epoch ∈ c.questions
    · by_cases current : c.runner.epoch = epoch
      · subst current
        exact Or.inr (Or.inr (Or.inr ⟨outcome, waited, rfl⟩))
      · left
        simp [step, answered, waited, follow, Runner.answered_stale current, running]
    · left
      simp [step, answered, waited, running]
  | pass span => exact Or.inl running
  | fire =>
    left
    simp only [step, fire]
    split
    · exact running
    · split
      · exact running
      · next runner fired =>
        unfold Runner.fire at fired
        split at fired
        · cases fired
          exact running
        · cases fired

/-- For every run of the runner and every event: a job that is under way succeeds exactly with an
answer to the question of its run that says completed, and ends in an error exactly if its start
fails, the question fails, or the answer says failed. Whatever job the answer is about, the view
shows it. -/
theorem run_resolves (settings : RunnerSettings) (history : List Event) (event : Event) :
    let c := run settings {} history
    let before := c.runner.view
    let after := (c.step settings event).runner.view
    (before.status = .running ∧ after.status = .success ↔
        ∃ state, c.IsAnswered event (.ok state) ∧ state.status = .completed) ∧
      (before.status = .running ∧ after.status = .error ↔
        c.StartFails event ∨ (∃ fault, c.IsAnswered event (.error fault)) ∨
          ∃ state, c.IsAnswered event (.ok state) ∧ state.status = .failed) ∧
      ∀ state, c.IsAnswered event (.ok state) → after.jobId = state.jobId := by
  intro c before after
  have valid : c.Valid := run_valid empty_valid settings history
  have decided {outcome : Except Fault JobState} (answers : c.IsAnswered event outcome) :
      before.status = .running ∧ after.status = Runner.resolution outcome := by
    refine ⟨valid.running_of_question answers.1, ?_⟩
    simp only [after, runner_of_isAnswered answers settings, Runner.answered_status]
  refine ⟨⟨?_, ?_⟩, ⟨?_, ?_⟩, ?_⟩
  · rintro ⟨running, success⟩
    rcases step_status running settings event with still | idle | fails | ⟨outcome, answers⟩
    · cases still.symm.trans success
    · cases idle.symm.trans success
    · cases (status_of_startFails fails settings).symm.trans success
    · have status := (decided answers).2.symm.trans success
      cases outcome with
      | error fault => cases status
      | ok state => exact ⟨state, answers, JobStatus.resolution_eq_success.mp status⟩
  · rintro ⟨state, answers, completed⟩
    obtain ⟨running, status⟩ := decided answers
    exact ⟨running, status.trans (JobStatus.resolution_eq_success.mpr completed)⟩
  · rintro ⟨running, failed⟩
    rcases step_status running settings event with still | idle | fails | ⟨outcome, answers⟩
    · cases still.symm.trans failed
    · cases idle.symm.trans failed
    · exact Or.inl fails
    · have status := (decided answers).2.symm.trans failed
      cases outcome with
      | error fault => exact Or.inr (Or.inl ⟨fault, answers⟩)
      | ok state =>
        exact Or.inr (Or.inr ⟨state, answers, JobStatus.resolution_eq_error.mp status⟩)
  · rintro (fails | ⟨fault, answers⟩ | ⟨state, answers, told⟩)
    · exact ⟨valid.running_of_start fails.1, status_of_startFails fails settings⟩
    · exact decided answers
    · obtain ⟨running, status⟩ := decided answers
      exact ⟨running, status.trans (JobStatus.resolution_eq_error.mpr told)⟩
  · intro state answers
    simp only [after, runner_of_isAnswered answers settings, Runner.answered_jobId]

/-- A run of one job is resolved by a reply about another one, which the backend has still in its
slot when the runner asks. -/
theorem resolved_by_other_job :
    let c := run {} {} [.begin "mine" "", .started 1 (.ok ()), .pass 500, .fire]
    let told := fun status => c.step {} (.answered 1 (.ok { status, jobId := some "previous" }))
    c.runner.view.status = .running ∧ c.runner.view.jobId = some "mine" ∧
      (told .completed).runner.view.status = .success ∧
      (told .completed).runner.view.jobId = some "previous" ∧
      (told .failed).runner.view.status = .error := by
  decide

end Chase

end Watchdesk
