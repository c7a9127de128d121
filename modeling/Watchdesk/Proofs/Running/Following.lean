import Watchdesk.Proofs.Running.Resolution
import Watchdesk.Proofs.Running.Superseded

/-!
# Following a run to its end

A run that is accepted comes from station to station: its start settles, a question is asked and
settles, and the next one is asked. What is to come after a station, and when, depends on the
station alone (`Station.prospect`); a run that is over has no further station. So however many
questions there are and however long each of them takes, the stations of a run say what has become
of it, and nothing else does.
-/

namespace Watchdesk

/-- What is said of a state that says nothing itself. -/
def JobStatus.saying : JobStatus → String
  | .running => "Job is running"
  | .completed => "Job completed"
  | .failed => "Job failed"
  | .idle => ""

/-- What is said of a state: its message, unless there is none or it is empty. -/
def JobState.saying (state : JobState) : String :=
  (state.message.filter (· ≠ "")).getD state.status.saying

namespace Runner

theorem wording_saying (state : JobState) : wording state state.status.saying = state.saying := by
  unfold wording JobState.saying
  cases message : state.message with
  | none => rfl
  | some text =>
    by_cases empty : text = "" <;> simp [empty, Option.filter]

/-- A state of a job that does not run decides about the view. -/
theorem resolved_shows (v : RunnerView) {state : JobState} (ended : state.status ≠ .running) :
    (resolved v state).status = state.status.resolution ∧
      (resolved v state).message = state.saying := by
  rw [← wording_saying]
  unfold resolved
  cases status : state.status with
  | running => exact absurd status ended
  | completed => exact ⟨rfl, rfl⟩
  | failed => exact ⟨rfl, rfl⟩
  | idle => exact ⟨rfl, rfl⟩

end Runner

namespace Chase

/-- A station of a run. -/
inductive Station where
  /-- The start settles. -/
  | starts (time : Nat) (result : Except Fault Unit)
  /-- A question is asked. -/
  | asks (time : Nat)
  /-- The question settles. -/
  | hears (time : Nat) (outcome : Except Fault JobState)

/-- What is to come in a run. -/
inductive Prospect where
  /-- The start is to settle. -/
  | start
  /-- A question is to be asked at a time. -/
  | pause (due : Nat)
  /-- The question that was asked at a time is to settle. -/
  | reply (since : Nat)
  /-- Nothing; the view says how the run ended. -/
  | ended (status : RunnerStatus) (message : String)
deriving DecidableEq

namespace Station

/-- A question is asked. -/
def isQuestion : Station → Bool
  | .asks _ => true
  | .starts _ _ | .hears _ _ => false

/-- The job is completed. -/
def succeeds : Station → Bool
  | .hears _ (.ok state) => state.status = .completed
  | .hears _ (.error _) | .starts _ _ | .asks _ => false

/-- The view says what an answer says. -/
def Shown (view : RunnerView) : Station → Prop
  | .hears _ (.ok state) => view.message = state.saying
  | .hears _ (.error _) | .starts _ _ | .asks _ => True

/-- What is to come after a station. -/
def prospect (settings : RunnerSettings) : Station → Prospect
  | .starts time (.ok _) => .pause (time + settings.settleDelay)
  | .starts _ (.error fault) => .ended .error (fault.message "Failed to start job")
  | .asks time => .reply time
  | .hears time (.ok state) =>
    if state.status = .running then .pause (time + settings.pollInterval)
    else .ended state.status.resolution state.saying
  | .hears _ (.error _) => .ended .error "Failed to fetch job status"

end Station

/-- A station is the one that is to come. -/
def Prospect.Allows : Prospect → Station → Prop
  | .start, .starts _ _ => True
  | .pause due, .asks time => time = due
  | .reply since, .hears time _ => since ≤ time
  | .start, .asks _ | .start, .hears _ _ | .pause _, .starts _ _ | .pause _, .hears _ _
  | .reply _, .starts _ _ | .reply _, .asks _ | .ended _ _, _ => False

/-- Stations come one after another, each as the one before has it. -/
def Prospect.Leads (settings : RunnerSettings) : Prospect → List Station → Prop
  | _, [] => True
  | prospect, station :: rest =>
    prospect.Allows station ∧ (station.prospect settings).Leads settings rest

/-- What is to come after stations. -/
def Prospect.after (settings : RunnerSettings) : Prospect → List Station → Prospect
  | prospect, [] => prospect
  | _, station :: rest => (station.prospect settings).after settings rest

/-- The station of the current run that an event brings. -/
def station (c : Chase) : Event → Option Station
  | .started epoch result =>
    if c.runner.epoch = epoch ∧ epoch ∈ c.starts then some (.starts c.agenda.now result) else none
  | .answered epoch outcome =>
    if c.runner.epoch = epoch ∧ epoch ∈ c.questions then some (.hears c.agenda.now outcome)
    else none
  | .fire => if c.fire.asked = c.asked then none else some (.asks c.agenda.now)
  | .begin _ _ | .reset | .pass _ => none

/-- The stations of the current run in the course of events. -/
def stations (settings : RunnerSettings) (c : Chase) : List Event → List Station
  | [] => []
  | event :: events => (c.station event).toList ++ (c.step settings event).stations settings events

/-- No timer that is due is kept waiting. -/
def Punctual (c : Chase) : Event → Prop
  | .pass span => ∀ alarm ∈ c.agenda.alarms, c.agenda.now + span ≤ alarm.due
  | .begin _ _ | .reset | .started _ _ | .answered _ _ | .fire => True

/-- A run is left alone on a clock that keeps no timer waiting: nobody has the runner give up, and
no other run is accepted. -/
def Undisturbed (settings : RunnerSettings) (c : Chase) : List Event → Prop
  | [] => True
  | event :: events =>
    ¬ c.Supersedes event ∧ c.Punctual event ∧ (c.step settings event).Undisturbed settings events

instance (c : Chase) (event : Event) : Decidable (c.Supersedes event) :=
  match event with
  | .reset => isTrue trivial
  | .begin jobId message => inferInstanceAs (Decidable ((c.runner.begin jobId message).isSome))
  | .started _ _ | .answered _ _ | .pass _ | .fire => isFalse id

instance (c : Chase) (event : Event) : Decidable (c.Punctual event) :=
  match event with
  | .pass _ => List.decidableBAll _ _
  | .begin _ _ | .reset | .started _ _ | .answered _ _ | .fire => isTrue trivial

instance decidableUndisturbed (settings : RunnerSettings) (c : Chase) (events : List Event) :
    Decidable (c.Undisturbed settings events) :=
  match events with
  | [] => isTrue trivial
  | event :: events =>
    have := decidableUndisturbed settings (c.step settings event) events
    inferInstanceAs (Decidable (_ ∧ _ ∧ _))

/-- The starts, the timers and the questions that the current run waits for. -/
structure Awaits (c : Chase) (starts : Nat) (alarms : List (Alarm Nat)) (questions : Nat) :
    Prop where
  starts : c.starts.count c.runner.epoch = starts
  alarms : c.agenda.alarms = alarms
  questions : c.questions.count c.runner.epoch = questions

/-- Where a chase stands while something is to come in its current run: the run waits for that and
for nothing else, and the view runs. When nothing is to come, the run waits for nothing, and the
view says how it ended. -/
def Stands (c : Chase) : Prospect → Prop
  | .start => c.runner.view.status = .running ∧ c.Awaits 1 [] 0
  | .pause due =>
    c.runner.view.status = .running ∧ c.Awaits 0 [⟨c.runner.epoch, due⟩] 0 ∧ c.agenda.now ≤ due
  | .reply since => c.runner.view.status = .running ∧ c.Awaits 0 [] 1 ∧ since ≤ c.agenda.now
  | .ended status message =>
    c.runner.view.status = status ∧ c.runner.view.message = message ∧
      c.runner.view.loading = false ∧ c.Awaits 0 [] 0

variable {settings : RunnerSettings} {c e : Chase} {prospect : Prospect}

/-! ## What may happen next -/

/-- A start that is waited for is what is to come. -/
theorem Stands.of_start (stands : c.Stands prospect) (pending : c.runner.epoch ∈ c.starts) :
    prospect = .start := by
  have waiting : c.starts.count c.runner.epoch ≠ 0 := by simpa [List.count_eq_zero] using pending
  cases prospect with
  | start => rfl
  | pause due => exact absurd stands.2.1.starts waiting
  | reply since => exact absurd stands.2.1.starts waiting
  | ended status message => exact absurd stands.2.2.2.starts waiting

/-- A question that is waited for is what is to come. -/
theorem Stands.of_question (stands : c.Stands prospect) (pending : c.runner.epoch ∈ c.questions) :
    ∃ since, prospect = .reply since := by
  have waiting : c.questions.count c.runner.epoch ≠ 0 := by
    simpa [List.count_eq_zero] using pending
  cases prospect with
  | start => exact absurd stands.2.questions waiting
  | pause due => exact absurd stands.2.1.questions waiting
  | reply since => exact ⟨since, rfl⟩
  | ended status message => exact absurd stands.2.2.2.questions waiting

/-- A timer that is live is that of the question that is to come. -/
theorem Stands.of_alarm (stands : c.Stands prospect) (armed : c.agenda.alarms ≠ []) :
    ∃ due, prospect = .pause due := by
  cases prospect with
  | start => exact absurd stands.2.alarms armed
  | pause due => exact ⟨due, rfl⟩
  | reply since => exact absurd stands.2.1.alarms armed
  | ended status message => exact absurd stands.2.2.2.alarms armed

/-- What an event does for the current run: nothing, or it brings the station that is to come. -/
inductive Goes (settings : RunnerSettings) (c e : Chase) (prospect : Prospect) :
    Option Station → Prop where
  | rests (runner : e.runner.epoch = c.runner.epoch ∧ e.runner.view = c.runner.view)
      (stands : e.Stands prospect) (asked : e.asked = c.asked) (told : e.told = c.told) :
      Goes settings c e prospect none
  | comes {station : Station} (allows : prospect.Allows station)
      (epoch : e.runner.epoch = c.runner.epoch) (stands : e.Stands (station.prospect settings))
      (shown : station.Shown e.runner.view)
      (asked : e.asked = c.asked ++ if station.isQuestion then [c.runner.epoch] else [])
      (told : e.told = c.told ++ if station.succeeds then [e.runner.view] else []) :
      Goes settings c e prospect (some station)

/-- What the current run waits for stays, and time passes for its timer as it may. -/
theorem Stands.stays (stands : c.Stands prospect) (runner : e.runner = c.runner)
    (starts : e.starts.count c.runner.epoch = c.starts.count c.runner.epoch)
    (questions : e.questions.count c.runner.epoch = c.questions.count c.runner.epoch)
    (alarms : e.agenda.alarms = c.agenda.alarms) (now : c.agenda.now ≤ e.agenda.now)
    (punctual : ∀ alarm ∈ c.agenda.alarms,
      e.agenda.now = c.agenda.now ∨ e.agenda.now ≤ alarm.due) : e.Stands prospect := by
  have awaits {one : Nat} {all : List (Alarm Nat)} {other : Nat} (old : c.Awaits one all other) :
      e.Awaits one all other :=
    { starts := by rw [runner, starts, old.starts]
      alarms := alarms.trans old.alarms
      questions := by rw [runner, questions, old.questions] }
  unfold Stands at stands ⊢
  rw [runner]
  cases prospect with
  | start => exact ⟨stands.1, awaits stands.2⟩
  | pause due =>
    obtain ⟨running, old, early⟩ := stands
    refine ⟨running, awaits old, ?_⟩
    rcases punctual ⟨c.runner.epoch, due⟩ (by simp [old.alarms]) with same | before
    · exact same ▸ early
    · exact before
  | reply since =>
    obtain ⟨running, old, asked⟩ := stands
    exact ⟨running, awaits old, Nat.le_trans asked now⟩
  | ended status message =>
    obtain ⟨ended, said, quiet, old⟩ := stands
    exact ⟨ended, said, quiet, awaits old⟩

/-- The start of the current run settles, and a question is to come, or the run is over. -/
theorem Stands.started (stands : c.Stands prospect) (pending : c.runner.epoch ∈ c.starts)
    (result : Except Fault Unit) :
    Goes settings c (c.step settings (.started c.runner.epoch result)) prospect
      (c.station (.started c.runner.epoch result)) := by
  obtain rfl := stands.of_start pending
  obtain ⟨running, awaits⟩ := stands
  have starts : (c.starts.erase c.runner.epoch).count c.runner.epoch = 0 := by
    rw [List.count_erase_self, awaits.starts]
  have here : c.station (.started c.runner.epoch result) =
      some (.starts c.agenda.now result) := by simp [station, pending]
  rw [here]
  cases result with
  | ok value =>
    have next : c.step settings (.started c.runner.epoch (.ok value)) =
        { c with
          starts := c.starts.erase c.runner.epoch
          runner := { c.runner with timer := some c.runner.epoch }
          agenda := c.agenda.schedule c.runner.epoch settings.settleDelay } := by
      simp [step, Chase.started, pending, follow, Runner.started, Runner.arm, Agenda.obey]
    rw [next]
    refine .comes trivial rfl ⟨running, ?_, Nat.le_add_right _ _⟩ trivial ?_ ?_
    · exact ⟨starts, by simp [Agenda.schedule, awaits.alarms, Agenda.place], awaits.questions⟩
    · simp [Station.isQuestion]
    · simp [Station.succeeds]
  | error fault =>
    have next : c.step settings (.started c.runner.epoch (.error fault)) =
        { c with
          starts := c.starts.erase c.runner.epoch
          runner := { c.runner with timer := none }.write { c.runner.view with
            status := .error
            message := fault.message "Failed to start job"
            loading := false } } := by
      simp [step, Chase.started, pending, follow, Runner.started]
    rw [next]
    refine .comes trivial rfl ⟨rfl, rfl, rfl, ?_⟩ trivial ?_ ?_
    · exact ⟨starts, awaits.alarms, awaits.questions⟩
    · simp [Station.isQuestion]
    · simp [Station.succeeds]

/-- The question of the current run settles, and another one is to come, or the run is over. -/
theorem Stands.answered (stands : c.Stands prospect) (pending : c.runner.epoch ∈ c.questions)
    (outcome : Except Fault JobState) :
    Goes settings c (c.step settings (.answered c.runner.epoch outcome)) prospect
      (c.station (.answered c.runner.epoch outcome)) := by
  obtain ⟨since, rfl⟩ := stands.of_question pending
  obtain ⟨running, awaits, asked⟩ := stands
  have questions : (c.questions.erase c.runner.epoch).count c.runner.epoch = 0 := by
    rw [List.count_erase_self, awaits.questions]
  have here : c.station (.answered c.runner.epoch outcome) =
      some (.hears c.agenda.now outcome) := by simp [station, pending]
  rw [here]
  cases outcome with
  | error fault =>
    have next : c.step settings (.answered c.runner.epoch (.error fault)) =
        { c with
          questions := c.questions.erase c.runner.epoch
          runner := { c.runner with timer := none }.write { c.runner.view with
            status := .error, message := "Failed to fetch job status", loading := false } } := by
      simp [step, Chase.answered, pending, follow, Runner.answered, Runner.succeeds]
    rw [next]
    refine .comes asked rfl ⟨rfl, rfl, rfl, ?_⟩ trivial ?_ ?_
    · exact ⟨awaits.starts, awaits.alarms, questions⟩
    · simp [Station.isQuestion]
    · simp [Station.succeeds]
  | ok state =>
    by_cases goes : state.status = .running
    · have next : c.step settings (.answered c.runner.epoch (.ok state)) =
          { c with
            questions := c.questions.erase c.runner.epoch
            runner := { c.runner.write { c.runner.view with
              status := .running, message := state.saying, jobId := state.jobId } with
                timer := some c.runner.epoch }
            agenda := c.agenda.schedule c.runner.epoch settings.pollInterval } := by
        have said := Runner.wording_saying state
        rw [goes] at said
        simp [step, Chase.answered, pending, follow, Runner.answered, Runner.succeeds, goes,
          Runner.arm, Runner.write, Agenda.obey, ← said, JobStatus.saying]
      rw [next]
      refine .comes asked rfl ?_ rfl ?_ ?_
      · simp only [Station.prospect, goes, if_true]
        refine ⟨rfl, ?_, Nat.le_add_right _ _⟩
        exact ⟨awaits.starts, by simp [Agenda.schedule, awaits.alarms, Agenda.place, Runner.write],
          questions⟩
      · simp [Station.isQuestion]
      · simp [Station.succeeds, goes]
    · have next : c.step settings (.answered c.runner.epoch (.ok state)) =
          { c with
            questions := c.questions.erase c.runner.epoch
            runner := { c.runner with timer := none }.write (Runner.resolved c.runner.view state)
            told := c.told ++ if state.status = .completed then
              [Runner.resolved c.runner.view state] else [] } := by
        simp [step, Chase.answered, pending, follow, Runner.answered, Runner.succeeds, goes,
          Runner.write]
      obtain ⟨decided, said⟩ := Runner.resolved_shows c.runner.view goes
      have quiet := (Runner.resolved_over c.runner.view goes).2
      rw [next]
      refine .comes asked rfl ?_ said ?_ ?_
      · simp only [Station.prospect, goes, if_false]
        refine ⟨decided, said, quiet, ?_⟩
        exact ⟨awaits.starts, awaits.alarms, questions⟩
      · simp [Station.isQuestion]
      · simp [Station.succeeds, Runner.write]

/-- The timer of the current run fires, and a question is asked. -/
theorem Stands.fire (stands : c.Stands prospect) :
    Goes settings c (c.step settings .fire) prospect (c.station .fire) := by
  cases taken : c.agenda.takeDue c.agenda.now with
  | none =>
    have nothing : c.fire = c := by simp [Chase.fire, taken]
    simp only [step, station, nothing, if_true]
    exact .rests ⟨rfl, rfl⟩ stands rfl rfl
  | some due =>
    obtain ⟨alarm, agenda⟩ := due
    obtain ⟨alarms, come, now⟩ := Agenda.takeDue_eq_some taken
    obtain ⟨due, rfl⟩ := stands.of_alarm (by simp [alarms])
    obtain ⟨running, awaits, early⟩ := stands
    obtain ⟨rfl, rest⟩ := List.cons.inj (alarms.symm.trans awaits.alarms)
    have next : c.fire =
        { c with
          runner := { c.runner with timer := none }
          agenda
          questions := c.questions ++ [c.runner.epoch]
          asked := c.asked ++ [c.runner.epoch] } := by
      simp [Chase.fire, taken, Runner.fire]
    have here : c.station .fire = some (.asks c.agenda.now) := by simp [station, next]
    rw [here, step, next]
    refine .comes (Nat.le_antisymm early come) rfl ⟨running, ?_, Nat.le_of_eq now.symm⟩ trivial
      ?_ ?_
    · exact ⟨awaits.starts, rest, by simp [awaits.questions]⟩
    · simp [Station.isQuestion]
    · simp [Station.succeeds]

/-- Erasing another number leaves the count of the current one. -/
theorem count_erase_foreign {current epoch : Nat} {pending : List Nat}
    (foreign : ¬ (current = epoch ∧ epoch ∈ pending)) :
    (pending.erase epoch).count current = pending.count current := by
  by_cases own : current = epoch
  · have absent : epoch ∉ pending := fun waited => foreign ⟨own, waited⟩
    rw [List.erase_of_not_mem absent]
  · exact List.count_erase_of_ne own

/-- When a question is to be asked, its timer fires at the time for it. -/
theorem Stands.station_of_due {due : Nat} (stands : c.Stands (.pause due))
    (now : c.agenda.now = due) : c.station .fire = some (.asks due) := by
  obtain ⟨-, awaits, -⟩ := stands
  have taken : c.agenda.takeDue c.agenda.now =
      some (⟨c.runner.epoch, due⟩, { c.agenda with alarms := [] }) := by
    simp [Agenda.takeDue, awaits.alarms, now]
  have asked : c.fire.asked = c.asked ++ [c.runner.epoch] := by
    simp [Chase.fire, taken, Runner.fire]
  simp [station, asked, now]

/-- As long as nobody interferes, a run goes from station to station. -/
theorem Stands.step (stands : c.Stands prospect) {event : Event} (alone : ¬ c.Supersedes event)
    (punctual : c.Punctual event) :
    Goes settings c (c.step settings event) prospect (c.station event) := by
  cases event with
  | begin jobId message =>
    have refused : c.runner.begin jobId message = none := by simpa [Supersedes] using alone
    have nothing : c.step settings (.begin jobId message) = c := by
      simp [Chase.step, Chase.begin, refused]
    rw [nothing]
    exact .rests ⟨rfl, rfl⟩ stands rfl rfl
  | reset => exact absurd trivial alone
  | started epoch result =>
    by_cases own : c.runner.epoch = epoch ∧ epoch ∈ c.starts
    · obtain ⟨rfl, pending⟩ := own
      exact stands.started pending result
    · have same := count_erase_foreign own
      rw [started_foreign own, station, if_neg own]
      refine .rests ⟨rfl, rfl⟩ ?_ rfl rfl
      exact stands.stays rfl same rfl rfl (Nat.le_refl _) fun _ _ => .inl rfl
  | answered epoch outcome =>
    by_cases own : c.runner.epoch = epoch ∧ epoch ∈ c.questions
    · obtain ⟨rfl, pending⟩ := own
      exact stands.answered pending outcome
    · have same := count_erase_foreign own
      rw [answered_foreign own, station, if_neg own]
      refine .rests ⟨rfl, rfl⟩ ?_ rfl rfl
      exact stands.stays rfl rfl same rfl (Nat.le_refl _) fun _ _ => .inl rfl
  | pass span =>
    refine .rests ⟨rfl, rfl⟩ (stands.stays rfl rfl rfl rfl (Nat.le_add_right _ _) ?_) rfl rfl
    intro alarm member
    exact Or.inr (punctual alarm member)
  | fire => exact stands.fire

/-- A run between two chases goes through stations. -/
structure Way (settings : RunnerSettings) (c e : Chase) (prospect : Prospect)
    (stations : List Station) : Prop where
  leads : prospect.Leads settings stations
  stands : e.Stands (prospect.after settings stations)
  asked : e.asked = c.asked ++
    List.replicate (stations.countP Station.isQuestion) c.runner.epoch
  told : e.told = c.told ++ if stations.any Station.succeeds then [e.runner.view] else []
  shown : ∀ last ∈ stations.getLast?, last.Shown e.runner.view
  view : stations = [] → e.runner.view = c.runner.view

/-- A run whose job is completed has no further station. -/
theorem Prospect.Leads.nil_of_succeeds {station : Station} {rest : List Station}
    (succeeds : station.succeeds) (leads : (station.prospect settings).Leads settings rest) :
    rest = [] := by
  cases rest with
  | nil => rfl
  | cons next rest =>
    obtain ⟨allows, -⟩ := leads
    cases station with
    | starts time result => cases succeeds
    | asks time => cases succeeds
    | hears time outcome =>
      cases outcome with
      | error fault => cases succeeds
      | ok state =>
        have completed : state.status = .completed := by simpa [Station.succeeds] using succeeds
        simp only [Station.prospect, completed] at allows
        exact absurd allows id

variable {d : Chase} {stations : List Station}

/-- An event that brings no station comes before. -/
theorem Way.later (way : Way settings d e prospect stations)
    (runner : d.runner.epoch = c.runner.epoch ∧ d.runner.view = c.runner.view)
    (asked : d.asked = c.asked) (told : d.told = c.told) : Way settings c e prospect stations :=
  { way with
    asked := by rw [way.asked, asked, runner.1]
    told := by rw [way.told, told]
    view := fun none => (way.view none).trans runner.2 }

/-- A station comes before. -/
theorem Way.cons {station : Station} (way : Way settings d e (station.prospect settings) stations)
    (allows : prospect.Allows station) (epoch : d.runner.epoch = c.runner.epoch)
    (shown : station.Shown d.runner.view)
    (asked : d.asked = c.asked ++ if station.isQuestion then [c.runner.epoch] else [])
    (told : d.told = c.told ++ if station.succeeds then [d.runner.view] else []) :
    Way settings c e prospect (station :: stations) where
  leads := ⟨allows, way.leads⟩
  stands := way.stands
  asked := by
    rw [way.asked, asked, epoch, List.countP_cons, List.append_assoc]
    cases station.isQuestion with
    | false => rfl
    | true => simp [List.replicate_succ]
  told := by
    rw [way.told, told, List.any_cons, List.append_assoc]
    cases succeeds : station.succeeds with
    | false => rfl
    | true =>
      obtain rfl := way.leads.nil_of_succeeds succeeds
      simp [way.view rfl]
  shown := by
    intro last final
    cases stations with
    | nil =>
      obtain rfl : station = last := by simpa using final
      exact way.view rfl ▸ shown
    | cons next rest =>
      rw [List.getLast?_cons_cons] at final
      exact way.shown last final
  view := nofun

/-- As long as nobody interferes, what becomes of a run is what its stations say. -/
theorem Stands.run (stands : c.Stands prospect) {events : List Event}
    (undisturbed : c.Undisturbed settings events) :
    Way settings c (run settings c events) prospect (c.stations settings events) := by
  induction events generalizing c prospect with
  | nil =>
    exact
      { leads := trivial
        stands
        asked := by simp [Chase.stations]
        told := by simp [Chase.stations]
        shown := nofun
        view := fun _ => rfl }
  | cons event events ih =>
    obtain ⟨alone, punctual, undisturbed⟩ := undisturbed
    have goes := @Stands.step settings c prospect stands event alone punctual
    rw [run_cons, Chase.stations]
    generalize c.station event = station at goes
    cases goes with
    | rests runner stands asked told => exact (ih stands undisturbed).later runner asked told
    | comes allows epoch stands shown asked told =>
      exact (ih stands undisturbed).cons allows epoch shown asked told

/-! ## Before the first station and after the last -/

/-- A start that is waited for is all that the current run waits for. -/
theorem Valid.awaits_start (valid : c.Valid) (pending : c.runner.epoch ∈ c.starts) :
    c.runner.view.status = .running ∧ c.Awaits 1 [] 0 := by
  have waited := List.count_pos_iff.mpr pending
  obtain ⟨running, one⟩ := valid.running_of_load (by unfold load; omega)
  rw [valid.load_eq] at one
  have none : c.agenda.alarms.length = 0 := by omega
  exact ⟨running, by omega, List.length_eq_zero_iff.mp none, by omega⟩

/-- A runner that does not run waits for nothing. -/
theorem Valid.awaits_nothing (valid : c.Valid) (idle : c.runner.view.status ≠ .running) :
    c.Awaits 0 [] 0 := by
  have nothing := valid.loaded
  rw [if_neg idle, valid.load_eq] at nothing
  have none : c.agenda.alarms.length = 0 := by omega
  exact ⟨by omega, List.length_eq_zero_iff.mp none, by omega⟩

/-- A runner that waits for nothing does not run. -/
theorem Valid.idle_of_awaits (valid : c.Valid) (awaits : c.Awaits 0 [] 0) :
    c.runner.view.status ≠ .running := by
  intro running
  have loaded := valid.loaded
  rw [if_pos running, valid.load_eq, awaits.starts, awaits.alarms, awaits.questions] at loaded
  cases loaded

/-- A run that is accepted is to start, and nothing was asked or told for it. -/
theorem Valid.begin_stands (valid : c.Valid) {jobId message : String}
    (accepted : c.Supersedes (.begin jobId message)) (settings : RunnerSettings) :
    let d := c.step settings (.begin jobId message)
    d.Stands .start ∧ d.asked = c.asked ∧ d.told = c.told := by
  intro d
  have still : d.Valid := step_valid valid settings (.begin jobId message)
  obtain ⟨change, begun⟩ := Option.isSome_iff_exists.mp accepted
  have next : d = { c with starts := c.starts ++ [change.1.epoch] }.follow change := by
    simp only [d, step, begin, begun]
  have pending : d.runner.epoch ∈ d.starts := by
    rw [next]
    simp [follow]
  exact ⟨still.awaits_start pending, by rw [next]; rfl, by rw [next]; rfl⟩

/-- Somebody wants a job run. -/
def Event.begins : Event → Bool
  | .begin _ _ => true
  | .reset | .started _ _ | .answered _ _ | .pass _ | .fire => false

/-- A runner that does not run. -/
structure Idle (c : Chase) : Prop where
  valid : c.Valid
  idle : c.runner.view.status ≠ .running

/-- Unless somebody wants a job run, a runner that does not run asks nothing and tells nothing. -/
theorem Idle.step (idle : c.Idle) (settings : RunnerSettings) {event : Event}
    (quiet : event.begins = false) :
    (c.step settings event).Idle ∧ (c.step settings event).asked = c.asked ∧
      (c.step settings event).told = c.told := by
  have valid := step_valid idle.valid settings event
  have awaits := idle.valid.awaits_nothing idle.idle
  cases event with
  | begin jobId message => cases quiet
  | reset => exact ⟨⟨valid, nofun⟩, rfl, rfl⟩
  | started epoch result =>
    have foreign : ¬ (c.runner.epoch = epoch ∧ epoch ∈ c.starts) := by
      rintro ⟨rfl, pending⟩
      exact List.count_eq_zero.mp awaits.starts pending
    rw [started_foreign foreign] at valid ⊢
    exact ⟨⟨valid, idle.idle⟩, rfl, rfl⟩
  | answered epoch outcome =>
    have foreign : ¬ (c.runner.epoch = epoch ∧ epoch ∈ c.questions) := by
      rintro ⟨rfl, pending⟩
      exact List.count_eq_zero.mp awaits.questions pending
    rw [answered_foreign foreign] at valid ⊢
    exact ⟨⟨valid, idle.idle⟩, rfl, rfl⟩
  | pass span => exact ⟨⟨valid, idle.idle⟩, rfl, rfl⟩
  | fire =>
    have nothing : c.step settings .fire = c := by
      simp [Chase.step, fire, Agenda.takeDue, awaits.alarms]
    rw [nothing]
    exact ⟨idle, rfl, rfl⟩

theorem Idle.run (idle : c.Idle) (settings : RunnerSettings) {events : List Event}
    (quiet : ∀ event ∈ events, event.begins = false) :
    (run settings c events).Idle ∧ (run settings c events).asked = c.asked ∧
      (run settings c events).told = c.told := by
  induction events generalizing c with
  | nil => exact ⟨idle, rfl, rfl⟩
  | cons event events ih =>
    obtain ⟨first, others⟩ := List.forall_mem_cons.mp quiet
    obtain ⟨still, asked, told⟩ := idle.step settings first
    obtain ⟨last, later, said⟩ := ih still others
    exact ⟨last, later.trans asked, said.trans told⟩

/-- Take a run that is accepted in any state that a runner comes to, on a clock that keeps no timer
waiting, and as long as nobody has the runner give up. Its start settles first. If the start
succeeds, the first question is asked when the settling time is over, and each further one exactly a
pause after the question before has settled, however long that takes. This goes on as long as every
answer says that the job is running, and the view has the message of the last answer; with any other
answer, with a question that fails, and with a start that fails, the run is over. While something is
to come, the run waits for that and for nothing else, and at the time for a question its timer
fires. A run that is over waits for nothing, and its view says how it ended. No question is asked
but at the stations of the run. Success is told once, with the final view, if the last answer says
that the job is completed, and otherwise not at all. After the end nothing is asked or told, and no
timer is live, until somebody wants a job run again. -/
theorem run_followed (settings : RunnerSettings) (history stretch : List Event)
    (jobId message : String)
    (accepted : (run settings {} history).Supersedes (.begin jobId message))
    (undisturbed : ((run settings {} history).step settings (.begin jobId message)).Undisturbed
      settings stretch) :
    let c := run settings {} history
    let d := c.step settings (.begin jobId message)
    let e := run settings d stretch
    let stations := d.stations settings stretch
    let prospect := Prospect.start.after settings stations
    Prospect.start.Leads settings stations ∧
      e.Stands prospect ∧
      (∀ due, prospect = .pause due → e.agenda.now = due → e.station .fire = some (.asks due)) ∧
      (∀ time state, stations.getLast? = some (.hears time (.ok state)) →
        e.runner.view.message = state.saying) ∧
      e.asked = c.asked ++
        List.replicate (stations.countP Station.isQuestion) d.runner.epoch ∧
      e.told = c.told ++ (if stations.any Station.succeeds then [e.runner.view] else []) ∧
      ∀ status said, prospect = .ended status said →
        ∀ later : List Event, (∀ event ∈ later, event.begins = false) →
          let f := run settings e later
          f.asked = e.asked ∧ f.told = e.told ∧ f.agenda.alarms = [] := by
  intro c d e stations prospect
  have valid : c.Valid := run_valid empty_valid settings history
  obtain ⟨stands, asked, told⟩ := valid.begin_stands accepted settings
  have way : Way settings d e .start stations := stands.run undisturbed
  refine ⟨way.leads, way.stands, ?_, fun time state => way.shown _, ?_, ?_, ?_⟩
  · intro due coming now
    have waits := way.stands
    rw [show Prospect.start.after settings stations = _ from coming] at waits
    exact waits.station_of_due now
  · rw [way.asked, asked]
  · rw [way.told, told]
  · intro status said ending later quiet f
    have whole : e.Valid := run_valid (step_valid valid settings _) settings stretch
    have ended := way.stands
    rw [show Prospect.start.after settings stations = _ from ending] at ended
    obtain ⟨-, -, -, awaits⟩ := ended
    have idle := whole.idle_of_awaits awaits
    obtain ⟨last, more, further⟩ := Idle.run ⟨whole, idle⟩ settings quiet
    exact ⟨more, further, (last.valid.awaits_nothing last.idle).alarms⟩

/-- A second job is run after the first one failed to start. It is running when it is asked for at
first, and completed when the second question settles; nobody says so, so the runner does. -/
theorem run_followed_of_second :
    let settings : RunnerSettings := { settleDelay := 5, pollInterval := 20 }
    let history : List Event := [.begin "first" "", .started 1 (.error .unreadable)]
    let stretch : List Event := [.started 2 (.ok ()), .pass 5, .fire, .pass 40, .begin "third" "",
      .answered 2 (.ok { status := .running }), .pass 20, .fire, .pass 7,
      .answered 2 (.ok { status := .completed, message := some "" })]
    let c := run settings {} history
    let d := c.step settings (.begin "second" "")
    let e := run settings d stretch
    c.Supersedes (.begin "second" "") ∧ d.Undisturbed settings stretch ∧
      e.runner.view.status = .success ∧ e.runner.view.message = "Job completed" ∧
      e.asked = [2, 2] ∧ e.told = [e.runner.view] ∧
      (run settings e [.pass 100, .fire, .reset]).asked = [2, 2] := by
  intro settings history stretch c d e
  have accepted : c.Supersedes (.begin "second" "") := by decide
  have undisturbed : d.Undisturbed settings stretch := by decide +kernel
  have ended : Prospect.start.after settings (d.stations settings stretch) =
      .ended .success "Job completed" := by decide +kernel
  have questions : (d.stations settings stretch).countP Station.isQuestion = 2 := by decide +kernel
  have success : (d.stations settings stretch).any Station.succeeds := by decide +kernel
  have followed := run_followed settings history stretch "second" "" accepted undisturbed
  subst e d c
  dsimp only at followed
  rw [ended, questions, if_pos success] at followed
  obtain ⟨-, stands, -, -, asked, told, ending⟩ := followed
  have later := (ending _ _ rfl [.pass 100, .fire, .reset] (by simp [Event.begins])).1
  exact ⟨accepted, undisturbed, stands.1, stands.2.1, asked, told, later.trans asked⟩

end Chase

end Watchdesk
