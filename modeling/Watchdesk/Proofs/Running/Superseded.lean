import Watchdesk.Proofs.Running.Loop

/-!
# Superseded runs

A reset and a run that is accepted supersede every run before them. Epochs only grow, so whatever a
superseded run still waits for settles under an epoch that is past, and then does nothing but
settle: it writes no view, touches no timer, asks nothing and tells nothing. Two runs of the system
that differ only in such replies go through the same states.
-/

namespace Watchdesk.Chase

/-- An event that supersedes the runs before it: a reset, or a job that is accepted. -/
def Supersedes (c : Chase) : Event → Prop
  | .reset => True
  | .begin jobId message => (c.runner.begin jobId message).isSome
  | .started _ _ | .answered _ _ | .pass _ | .fire => False

/-- A start that settles keeps the epoch. -/
theorem epoch_started (r : Runner) (settings : RunnerSettings) (epoch : Nat)
    (result : Except Fault Unit) : (r.started settings epoch result).1.epoch = r.epoch := by
  cases result <;> simp only [Runner.started] <;> split <;> rfl

/-- An answer keeps the epoch. -/
theorem epoch_answered (r : Runner) (settings : RunnerSettings) (epoch : Nat)
    (outcome : Except Fault JobState) : (r.answered settings epoch outcome).1.epoch = r.epoch := by
  by_cases current : r.epoch = epoch
  · subst current
    exact (r.answered_goesOn settings outcome).1
  · rw [Runner.answered_stale current settings outcome]

/-- No event goes back to an earlier epoch. -/
theorem epoch_le_step (c : Chase) (settings : RunnerSettings) (event : Event) :
    c.runner.epoch ≤ (c.step settings event).runner.epoch := by
  cases event with
  | begin jobId message =>
    simp only [step, begin]
    split
    · exact Nat.le_refl _
    · next change accepted =>
      obtain ⟨-, epoch, -⟩ := Runner.begin_eq_some accepted
      show c.runner.epoch ≤ change.1.epoch
      omega
  | reset => exact Nat.le_succ _
  | started epoch result =>
    simp only [step, started]
    split
    · exact Nat.le_of_eq (epoch_started c.runner settings epoch result).symm
    · exact Nat.le_refl _
  | answered epoch outcome =>
    simp only [step, answered]
    split
    · exact Nat.le_of_eq (epoch_answered c.runner settings epoch outcome).symm
    · exact Nat.le_refl _
  | pass span => exact Nat.le_refl _
  | fire =>
    simp only [step, fire]
    split
    · exact Nat.le_refl _
    · split
      · exact Nat.le_refl _
      · next runner fired =>
        unfold Runner.fire at fired
        split at fired
        · cases fired
          exact Nat.le_refl _
        · cases fired

theorem epoch_le_run (c : Chase) (settings : RunnerSettings) (events : List Event) :
    c.runner.epoch ≤ (run settings c events).runner.epoch := by
  induction events generalizing c with
  | nil => exact Nat.le_refl _
  | cons event events ih => exact Nat.le_trans (epoch_le_step c settings event) (ih _)

/-- Superseding takes an epoch that no run had before. -/
theorem epoch_lt_of_supersedes {c : Chase} (settings : RunnerSettings) {event : Event}
    (supersedes : c.Supersedes event) : c.runner.epoch < (c.step settings event).runner.epoch := by
  cases event with
  | reset => exact Nat.lt_succ_self _
  | begin jobId message =>
    obtain ⟨change, accepted⟩ := Option.isSome_iff_exists.mp supersedes
    obtain ⟨-, epoch, -⟩ := Runner.begin_eq_some accepted
    simp only [step, begin, accepted, follow]
    omega
  | started epoch result => exact absurd supersedes id
  | answered epoch outcome => exact absurd supersedes id
  | pass span => exact absurd supersedes id
  | fire => exact absurd supersedes id

/-- A start that is not waited for, or not for the current run, settles, and that is all. -/
theorem started_foreign {c : Chase} {epoch : Nat}
    (foreign : ¬ (c.runner.epoch = epoch ∧ epoch ∈ c.starts)) (settings : RunnerSettings)
    (result : Except Fault Unit) :
    c.step settings (.started epoch result) = { c with starts := c.starts.erase epoch } := by
  simp only [step, started]
  split
  · next pending =>
    have stale : c.runner.epoch ≠ epoch := fun current => foreign ⟨current, pending⟩
    rw [Runner.started_stale stale settings result]
    rfl
  · next absent => rw [List.erase_of_not_mem absent]

/-- A question that is not waited for, or not for the current run, settles, and that is all. -/
theorem answered_foreign {c : Chase} {epoch : Nat}
    (foreign : ¬ (c.runner.epoch = epoch ∧ epoch ∈ c.questions)) (settings : RunnerSettings)
    (outcome : Except Fault JobState) :
    c.step settings (.answered epoch outcome) =
      { c with questions := c.questions.erase epoch } := by
  simp only [step, answered]
  split
  · next pending =>
    have stale : c.runner.epoch ≠ epoch := fun current => foreign ⟨current, pending⟩
    rw [Runner.answered_stale stale settings outcome, Runner.succeeds_stale stale outcome]
    simp [follow]
  · next absent => rw [List.erase_of_not_mem absent]

/-- The start of a superseded run settles, and that is all. -/
theorem started_superseded {c : Chase} {epoch : Nat} (past : epoch < c.runner.epoch)
    (settings : RunnerSettings) (result : Except Fault Unit) :
    c.step settings (.started epoch result) = { c with starts := c.starts.erase epoch } :=
  started_foreign (fun own => Nat.ne_of_gt past own.1) settings result

/-- The question of a superseded run settles, and that is all. -/
theorem answered_superseded {c : Chase} {epoch : Nat} (past : epoch < c.runner.epoch)
    (settings : RunnerSettings) (outcome : Except Fault JobState) :
    c.step settings (.answered epoch outcome) =
      { c with questions := c.questions.erase epoch } :=
  answered_foreign (fun own => Nat.ne_of_gt past own.1) settings outcome

/-- Two lists of events, played from one state, that differ only in the replies to requests of runs
that are superseded when the replies come. -/
inductive DifferLate (settings : RunnerSettings) : Chase → List Event → List Event → Prop where
  | nil (c : Chase) : DifferLate settings c [] []
  | same {c : Chase} {left right : List Event} (event : Event) :
      DifferLate settings (c.step settings event) left right →
      DifferLate settings c (event :: left) (event :: right)
  | started {c : Chase} {left right : List Event} {epoch : Nat} (past : epoch < c.runner.epoch)
      (one other : Except Fault Unit) :
      DifferLate settings (c.step settings (.started epoch one)) left right →
      DifferLate settings c (.started epoch one :: left) (.started epoch other :: right)
  | answered {c : Chase} {left right : List Event} {epoch : Nat} (past : epoch < c.runner.epoch)
      (one other : Except Fault JobState) :
      DifferLate settings (c.step settings (.answered epoch one)) left right →
      DifferLate settings c (.answered epoch one :: left) (.answered epoch other :: right)

/-- Lists that differ only in late replies lead through the same states. -/
theorem DifferLate.run_take {settings : RunnerSettings} {c : Chase} {left right : List Event}
    (differ : DifferLate settings c left right) (count : Nat) :
    run settings c (left.take count) = run settings c (right.take count) := by
  induction differ generalizing count with
  | nil c => rfl
  | same event _ ih =>
    cases count with
    | zero => rfl
    | succ count => exact ih count
  | started past one other _ ih =>
    cases count with
    | zero => rfl
    | succ count =>
      have alike := (started_superseded past settings one).trans
        (started_superseded past settings other).symm
      simp only [List.take_succ_cons, run_cons, ← alike]
      exact ih count
  | answered past one other _ ih =>
    cases count with
    | zero => rfl
    | succ count =>
      have alike := (answered_superseded past settings one).trans
        (answered_superseded past settings other).symm
      simp only [List.take_succ_cons, run_cons, ← alike]
      exact ih count

/-- Take any state that a runner comes to. After an event that supersedes the runs so far, and
after whatever follows it, each request of those runs settles without any effect, whatever the
reply: it is no longer waited for, and all else is as it was. And from the state on, two lists of
events that differ only in replies to superseded runs lead through the same states. -/
theorem superseded_inert (settings : RunnerSettings) (history : List Event) :
    let c := run settings {} history
    (∀ epoch, epoch ∈ c.starts ∨ epoch ∈ c.questions → epoch ≤ c.runner.epoch) ∧
      (∀ event later epoch, c.Supersedes event → epoch ≤ c.runner.epoch →
        let d := run settings c (event :: later)
        (∀ result, d.step settings (.started epoch result) =
            { d with starts := d.starts.erase epoch }) ∧
          ∀ outcome, d.step settings (.answered epoch outcome) =
            { d with questions := d.questions.erase epoch }) ∧
      ∀ left right, DifferLate settings c left right →
        ∀ count, run settings c (left.take count) = run settings c (right.take count) := by
  intro c
  have valid : c.Valid := run_valid empty_valid settings history
  refine ⟨?_, ?_, ?_⟩
  · intro epoch pending
    rcases pending with start | question
    · exact valid.begun epoch start
    · exact valid.questioned epoch question
  · intro event later epoch supersedes earlier d
    have past : epoch < d.runner.epoch := by
      have renewed := epoch_lt_of_supersedes settings supersedes
      have grown : (c.step settings event).runner.epoch ≤ d.runner.epoch :=
        epoch_le_run _ settings later
      omega
    exact ⟨started_superseded past settings, answered_superseded past settings⟩
  · intro left right differ
    exact differ.run_take

/-- The first start is still under way when the runner is reset and a second job is accepted, whose
timer is live when the first start fails at last. -/
theorem superseded_inert_of_rerun :
    let c := run {} {} [.begin "first" ""]
    let d := run {} c [.reset, .begin "second" "", .started 3 (.ok ())]
    let late := Event.started 1 (.error .unreadable)
    c.Supersedes .reset ∧ 1 ≤ c.runner.epoch ∧ d.starts = [1] ∧
      d.agenda.alarms = [⟨3, 500⟩] ∧ d.step {} late = { d with starts := d.starts.erase 1 } ∧
      run {} c [.reset, late] = run {} c [.reset, .started 1 (.ok ())] := by
  intro c d late
  obtain ⟨-, inert, alike⟩ := superseded_inert {} [.begin "first" ""]
  have settled := inert .reset [.begin "second" "", .started 3 (.ok ())] 1 trivial (by decide)
  have differ : DifferLate {} c [.reset, late] [.reset, .started 1 (.ok ())] :=
    .same .reset (.started (by decide) _ _ (.nil _))
  exact ⟨trivial, by decide, by decide, by decide, settled.1 _, alike _ _ differ 2⟩

end Watchdesk.Chase
