import Watchdesk.Clock.Bench
import Watchdesk.Proofs.Clock.Timers
import Mathlib.Data.List.Perm.Basic

/-!
# What becomes of a timer

A diary of a bench says when which task started and when it finished. A timer starts when it is
due if it has not been cancelled before the time came, and then finishes after the time that its
task takes; otherwise it never does either. What becomes of it is the same as on a bench on which
there is no other timer.
-/

namespace Watchdesk

namespace Agenda

variable {κ : Type} {alarms : List (Alarm κ)}

/-- Among alarms in order, those that are due stand in front. -/
theorem takeWhile_due (ordered : InOrder alarms) (time : Nat) :
    alarms.takeWhile (fun a => a.due ≤ time) = alarms.filter fun a => a.due ≤ time := by
  induction alarms with
  | nil => rfl
  | cons a alarms ih =>
    obtain ⟨first, rest⟩ := List.pairwise_cons.mp ordered
    by_cases due : a.due ≤ time
    · rw [List.takeWhile_cons_of_pos (by simpa using due),
        List.filter_cons_of_pos (by simpa using due), ih rest]
    · rw [List.takeWhile_cons_of_neg (by simpa using due),
        List.filter_cons_of_neg (by simpa using due), eq_comm, List.filter_eq_nil_iff]
      intro later member
      have behind := first later member
      simp only [decide_eq_true_eq]
      omega

theorem dropWhile_due (ordered : InOrder alarms) (time : Nat) :
    alarms.dropWhile (fun a => a.due ≤ time) = alarms.filter fun a => time < a.due := by
  induction alarms with
  | nil => rfl
  | cons a alarms ih =>
    obtain ⟨first, rest⟩ := List.pairwise_cons.mp ordered
    by_cases due : a.due ≤ time
    · rw [List.dropWhile_cons_of_pos (by simpa using due),
        List.filter_cons_of_neg (by simpa using due), ih rest]
    · rw [List.dropWhile_cons_of_neg (by simpa using due), eq_comm, List.filter_eq_self]
      intro later member
      simp only [decide_eq_true_eq]
      rcases List.mem_cons.mp member with rfl | behind
      · omega
      · have bound := first later behind
        omega

end Agenda

namespace Bench

/-- What is done to a bench. -/
inductive Step where
  | schedule (delay takes : Nat)
  | cancel (number : Nat)
  | advance (span : Nat)
deriving DecidableEq, Repr

/-- What is done to one timer, if it stood on a bench for itself. -/
def Step.alone (number : Nat) : Step → Option Step
  | .schedule _ _ => none
  | .cancel other => if other = number then some (.cancel 0) else none
  | .advance span => some (.advance span)

theorem Step.alone_cancel_own (number : Nat) :
    (Step.cancel number).alone number = some (.cancel 0) := if_pos rfl

theorem Step.alone_cancel_other {other number : Nat} (different : other ≠ number) :
    (Step.cancel other).alone number = none := if_neg different

theorem Step.alone_advance (number span : Nat) :
    (Step.advance span).alone number = some (.advance span) := rfl

/-- How long the task of a timer takes. -/
def takes (b : Bench) (number : Nat) : Nat := (b.timers[number]?.map (·.takes)).getD 0

/-- The tasks that start within a span, with the times at which they do. -/
def begins (b : Bench) (span : Nat) : List (Nat × Nat) :=
  (b.agenda.alarms.takeWhile fun a => a.due ≤ b.agenda.now + sleepFor span).map
    fun a => (a.due, a.key)

/-- The tasks that run at some time within a span, with the times at which they finish. -/
def flights (b : Bench) (span : Nat) : List (Nat × Nat) :=
  b.running ++ (b.begins span).map fun r => (r.1 + b.takes r.2, r.2)

/-- What runs within a span either finishes in it or goes on running. -/
theorem advance_eq (b : Bench) (span : Nat) :
    let time := b.agenda.now + sleepFor span
    b.advance span =
      (((b.flights span).filter fun r => r.1 ≤ time).mergeSort before,
        { b with
          agenda := { now := time, alarms := b.agenda.alarms.dropWhile fun a => a.due ≤ time }
          running := (b.flights span).filter fun r => time < r.1 }) := by
  have flights : b.running ++ (b.agenda.alarms.takeWhile
      fun a => a.due ≤ b.agenda.now + sleepFor span).map
        (fun a => (a.due + (b.timers[a.key]?.map (·.takes)).getD 0, a.key)) = b.flights span := by
    rw [Bench.flights, begins, List.map_map]
    rfl
  unfold advance
  dsimp only
  rw [flights]

theorem takes_schedule (b : Bench) (delay takes : Nat) {number : Nat}
    (set : number < b.timers.length) : (b.schedule delay takes).takes number = b.takes number := by
  simp only [Bench.takes, schedule, List.getElem?_append_left set]

theorem takes_cancel (b : Bench) (other number : Nat) :
    (b.cancel other).takes number = b.takes number := by
  simp only [Bench.takes, cancel, List.getElem?_modify]
  cases b.timers[number]? with
  | none => rfl
  | some t => by_cases same : other = number <;> simp [same]

/-- A bench, and what has happened on it: when which tasks started and finished. -/
structure Diary where
  bench : Bench := {}
  starts : List (Nat × Nat) := []
  finishes : List (Nat × Nat) := []
deriving Inhabited

/-- The times that are noted for a number. -/
def timesOf (number : Nat) (events : List (Nat × Nat)) : List Nat :=
  (events.filter fun r => r.2 = number).map Prod.fst

/-- When the alarms of a number are due. -/
def duesOf (number : Nat) (alarms : List (Alarm Nat)) : List Nat :=
  (alarms.filter fun a => a.key = number).map Alarm.due

section Times

variable {number : Nat}

theorem timesOf_append (first second : List (Nat × Nat)) :
    timesOf number (first ++ second) = timesOf number first ++ timesOf number second := by
  rw [timesOf, List.filter_append, List.map_append]
  rfl

theorem timesOf_eq_nil {events : List (Nat × Nat)} (others : ∀ r ∈ events, r.2 ≠ number) :
    timesOf number events = [] := by
  rw [timesOf, List.map_eq_nil_iff, List.filter_eq_nil_iff]
  intro r member
  simpa using others r member

theorem timesOf_filter (chosen : Nat → Bool) (events : List (Nat × Nat)) :
    timesOf number (events.filter fun r => chosen r.1) =
      (timesOf number events).filter chosen := by
  unfold timesOf
  rw [List.filter_map, List.filter_filter, List.filter_filter]
  simp only [Function.comp_def, Bool.and_comm]

theorem timesOf_ends (takes : Nat → Nat) (events : List (Nat × Nat)) :
    timesOf number (events.map fun r => (r.1 + takes r.2, r.2)) =
      (timesOf number events).map (· + takes number) := by
  induction events with
  | nil => rfl
  | cons r events ih =>
    unfold timesOf at ih ⊢
    by_cases own : r.2 = number
    · simp only [List.map_cons, List.filter_cons, own, decide_true, if_true, ih]
    · simpa only [List.map_cons, List.filter_cons, own, decide_false, Bool.false_eq_true,
        if_false] using ih

theorem timesOf_mergeSort (events : List (Nat × Nat)) :
    (timesOf number (events.mergeSort before)).Perm (timesOf number events) :=
  ((List.mergeSort_perm events before).filter _).map _

theorem duesOf_filter (chosen : Nat → Bool) (alarms : List (Alarm Nat)) :
    duesOf number (alarms.filter fun a => chosen a.due) =
      (duesOf number alarms).filter chosen := by
  unfold duesOf
  rw [List.filter_map, List.filter_filter, List.filter_filter]
  simp only [Function.comp_def, Bool.and_comm]

theorem timesOf_alarms (alarms : List (Alarm Nat)) :
    timesOf number (alarms.map fun a => (a.due, a.key)) = duesOf number alarms := by
  unfold timesOf duesOf
  rw [List.filter_map, List.map_map]
  rfl

theorem duesOf_eq_nil {alarms : List (Alarm Nat)} (others : ∀ a ∈ alarms, a.key ≠ number) :
    duesOf number alarms = [] := by
  rw [duesOf, List.map_eq_nil_iff, List.filter_eq_nil_iff]
  intro a member
  simpa using others a member

theorem duesOf_place_own {a : Alarm Nat} {alarms : List (Alarm Nat)} (own : a.key = number)
    (others : duesOf number alarms = []) : duesOf number (Agenda.place a alarms) = [a.due] := by
  have placed : (duesOf number (Agenda.place a alarms)).Perm (duesOf number (a :: alarms)) :=
    ((Agenda.place_perm a alarms).filter _).map _
  have added : duesOf number (a :: alarms) = a.due :: duesOf number alarms := by
    simp [duesOf, own]
  rw [added, others] at placed
  exact List.perm_singleton.mp placed

theorem duesOf_place_other {a : Alarm Nat} (other : a.key ≠ number) (alarms : List (Alarm Nat)) :
    (duesOf number (Agenda.place a alarms)).Perm (duesOf number alarms) := by
  have placed : (duesOf number (Agenda.place a alarms)).Perm (duesOf number (a :: alarms)) :=
    ((Agenda.place_perm a alarms).filter _).map _
  have same : duesOf number (a :: alarms) = duesOf number alarms := by
    simp [duesOf, other]
  exact same ▸ placed

theorem duesOf_filter_own (alarms : List (Alarm Nat)) :
    duesOf number (alarms.filter fun a => a.key ≠ number) = [] :=
  duesOf_eq_nil fun a member => by simpa using List.of_mem_filter member

theorem duesOf_filter_other {other : Nat} (different : other ≠ number)
    (alarms : List (Alarm Nat)) :
    duesOf number (alarms.filter fun a => a.key ≠ other) = duesOf number alarms := by
  rw [duesOf, List.filter_filter, duesOf]
  congr 1
  apply List.filter_congr
  intro a _
  by_cases own : a.key = number
  · simp [own, different.symm]
  · simp [own]

/-- A choice among at most one. -/
theorem eq_choice_of_perm {α : Type} {chosen : Prop} [Decidable chosen] {l : List α} {x : α}
    (same : l.Perm (if chosen then [x] else [])) : l = if chosen then [x] else [] := by
  by_cases own : chosen
  · rw [if_pos own] at same ⊢
    exact List.perm_singleton.mp same
  · rw [if_neg own] at same ⊢
    exact List.perm_nil.mp same

end Times

namespace Diary

/-- The time. -/
def now (d : Diary) : Nat := d.bench.agenda.now

/-- The times at which a timer started. -/
def startsOf (d : Diary) (number : Nat) : List Nat := timesOf number d.starts

/-- The times at which the task of a timer finished. -/
def finishesOf (d : Diary) (number : Nat) : List Nat := timesOf number d.finishes

/-- Do something to a bench, and note what happens. -/
def step (d : Diary) : Step → Diary
  | .schedule delay takes => { d with bench := d.bench.schedule delay takes }
  | .cancel number => { d with bench := d.bench.cancel number }
  | .advance span =>
    { bench := (d.bench.advance span).2
      starts := d.starts ++ d.bench.begins span
      finishes := d.finishes ++ (d.bench.advance span).1 }

/-- What becomes of a diary in the course of steps. -/
def run (d : Diary) (steps : List Step) : Diary := steps.foldl step d

@[simp] theorem run_nil (d : Diary) : d.run [] = d := rfl

@[simp] theorem run_cons (d : Diary) (step : Step) (steps : List Step) :
    d.run (step :: steps) = (d.step step).run steps := rfl

theorem run_append (d : Diary) (first second : List Step) :
    d.run (first ++ second) = (d.run first).run second :=
  List.foldl_append

@[simp] theorem now_advance (d : Diary) (span : Nat) :
    (d.step (.advance span)).now = d.now + sleepFor span := by
  rw [Diary.now, Diary.step, advance_eq]
  rfl

/-- The alarms are in order, and nothing goes by a number that no timer has. -/
structure Valid (d : Diary) : Prop where
  ordered : Agenda.InOrder d.bench.agenda.alarms
  alarms : ∀ a ∈ d.bench.agenda.alarms, a.key < d.bench.timers.length
  running : ∀ r ∈ d.bench.running, r.2 < d.bench.timers.length
  starts : ∀ r ∈ d.starts, r.2 < d.bench.timers.length
  finishes : ∀ r ∈ d.finishes, r.2 < d.bench.timers.length

variable {d : Diary}

/-- A bench without timers, at some time. -/
def empty (now : Nat) : Diary := { bench := { agenda := { now := now } } }

theorem empty_valid (now : Nat) : (empty now).Valid where
  ordered := List.Pairwise.nil
  alarms := fun _ member => absurd member List.not_mem_nil
  running := fun _ member => absurd member List.not_mem_nil
  starts := fun _ member => absurd member List.not_mem_nil
  finishes := fun _ member => absurd member List.not_mem_nil

theorem Valid.begins (valid : d.Valid) (span : Nat) :
    ∀ r ∈ d.bench.begins span, r.2 < d.bench.timers.length := by
  intro r member
  obtain ⟨a, due, rfl⟩ := List.mem_map.mp member
  exact valid.alarms a (List.takeWhile_subset _ due)

theorem Valid.flights (valid : d.Valid) (span : Nat) :
    ∀ r ∈ d.bench.flights span, r.2 < d.bench.timers.length := by
  intro r member
  rcases List.mem_append.mp member with running | begun
  · exact valid.running r running
  · obtain ⟨first, begins, rfl⟩ := List.mem_map.mp begun
    exact valid.begins span first begins

theorem step_valid (valid : d.Valid) (step : Step) : (d.step step).Valid := by
  cases step with
  | schedule delay takes =>
    have more (number : Nat) (known : number < d.bench.timers.length) :
        number < (d.step (.schedule delay takes)).bench.timers.length := by
      simp only [Diary.step, schedule, List.length_append]
      exact Nat.lt_add_right _ known
    refine ⟨Agenda.place_inOrder _ valid.ordered, ?_,
      fun r member => more _ (valid.running r member),
      fun r member => more _ (valid.starts r member),
      fun r member => more _ (valid.finishes r member)⟩
    intro a member
    rcases List.mem_cons.mp ((Agenda.place_perm _ _).mem_iff.mp member) with rfl | earlier
    · simp [Diary.step, schedule]
    · exact more _ (valid.alarms a earlier)
  | cancel number =>
    have timers : (d.step (.cancel number)).bench.timers.length = d.bench.timers.length :=
      List.length_modify _ _ _
    constructor
    · exact valid.ordered.filter _
    · rw [timers]
      exact fun a member => valid.alarms a (List.mem_of_mem_filter member)
    · rw [timers]
      exact valid.running
    · rw [timers]
      exact valid.starts
    · rw [timers]
      exact valid.finishes
  | advance span =>
    constructor
    · rw [Diary.step, advance_eq]
      exact valid.ordered.sublist (List.dropWhile_sublist _)
    · rw [Diary.step, advance_eq]
      exact fun a member => valid.alarms a ((List.dropWhile_sublist _).subset member)
    · rw [Diary.step, advance_eq]
      exact fun r member => valid.flights span r (List.mem_of_mem_filter member)
    · rw [Diary.step, advance_eq]
      intro r member
      rcases List.mem_append.mp member with earlier | begun
      · exact valid.starts r earlier
      · exact valid.begins span r begun
    · rw [Diary.step, advance_eq]
      intro r member
      rcases List.mem_append.mp member with earlier | finished
      · exact valid.finishes r earlier
      · have flown := (List.mergeSort_perm _ _).mem_iff.mp finished
        exact valid.flights span r (List.mem_of_mem_filter flown)

theorem run_valid (valid : d.Valid) (steps : List Step) : (d.run steps).Valid := by
  induction steps generalizing d with
  | nil => exact valid
  | cons step steps ih => exact ih (step_valid valid step)

/-! ## One timer -/

/-- How far a timer has come. -/
inductive Fate where
  | waiting
  | struck
  | started
deriving DecidableEq, Repr

/-- A timer that is due at a time, with a task that takes some time, has come so far. -/
structure Fares (d : Diary) (number due takes : Nat) (fate : Fate) : Prop where
  set : number < d.bench.timers.length
  lasts : d.bench.takes number = takes
  waits : duesOf number d.bench.agenda.alarms = if fate = .waiting then [due] else []
  starts : d.startsOf number = if fate = .started then [due] else []
  runs : timesOf number d.bench.running =
    if fate = .started ∧ d.now < due + takes then [due + takes] else []
  finishes : d.finishesOf number =
    if fate = .started ∧ due + takes ≤ d.now then [due + takes] else []

/-- What a step makes of a timer, at the time that it leaves. -/
def Fate.next (number due : Nat) (fate : Fate) (step : Step) (now : Nat) : Fate :=
  match fate, step with
  | .waiting, .cancel other => if other = number then .struck else .waiting
  | .waiting, .advance _ => if due ≤ now then .started else .waiting
  | fate, _ => fate

variable {number due takes : Nat} {fate : Fate}

theorem Valid.fares_of_schedule (valid : d.Valid) (delay takes : Nat) :
    (d.step (.schedule delay takes)).Fares d.bench.timers.length (d.now + sleepFor delay)
      (sleepFor takes) .waiting where
  set := by simp [Diary.step, schedule]
  lasts := by simp [Diary.step, schedule, Bench.takes]
  waits := by
    have none : duesOf d.bench.timers.length d.bench.agenda.alarms = [] :=
      duesOf_eq_nil fun a member => Nat.ne_of_lt (valid.alarms a member)
    exact duesOf_place_own (a := ⟨d.bench.timers.length, d.now + sleepFor delay⟩) rfl none
  starts := timesOf_eq_nil fun r member => Nat.ne_of_lt (valid.starts r member)
  runs := timesOf_eq_nil fun r member => Nat.ne_of_lt (valid.running r member)
  finishes := timesOf_eq_nil fun r member => Nat.ne_of_lt (valid.finishes r member)

theorem Fares.begins (fares : d.Fares number due takes fate) (valid : d.Valid) (span : Nat) :
    timesOf number (d.bench.begins span) =
      if fate = .waiting ∧ due ≤ d.now + sleepFor span then [due] else [] := by
  rw [Bench.begins, Agenda.takeWhile_due valid.ordered, timesOf_alarms, duesOf_filter (· ≤ _),
    fares.waits]
  by_cases waiting : fate = .waiting
  · simp [waiting, List.filter_singleton, Diary.now]
  · simp [waiting]

theorem Fares.flights (fares : d.Fares number due takes fate) (valid : d.Valid) (span : Nat) :
    timesOf number (d.bench.flights span) =
      if (fate = .started ∧ d.now < due + takes) ∨
          (fate = .waiting ∧ due ≤ d.now + sleepFor span)
        then [due + takes] else [] := by
  rw [Bench.flights, timesOf_append, timesOf_ends, fares.begins valid, fares.runs, fares.lasts]
  cases fate with
  | waiting => by_cases due : due ≤ d.now + sleepFor span <;> simp [due]
  | struck => simp
  | started => simp

/-- A timer starts in the span in which it is due, and its task finishes in the span in which its
time is over. -/
theorem Fares.advance (fares : d.Fares number due takes fate) (valid : d.Valid) (span : Nat) :
    (d.step (.advance span)).Fares number due takes
      (fate.next number due (.advance span) (d.now + sleepFor span)) := by
  have waits : duesOf number (d.step (.advance span)).bench.agenda.alarms =
      (duesOf number d.bench.agenda.alarms).filter fun t => d.now + sleepFor span < t := by
    rw [Diary.step, advance_eq]
    show duesOf number (d.bench.agenda.alarms.dropWhile _) = _
    rw [Agenda.dropWhile_due valid.ordered]
    exact duesOf_filter (fun t => d.now + sleepFor span < t) _
  have starts : (d.step (.advance span)).startsOf number =
      d.startsOf number ++ timesOf number (d.bench.begins span) := timesOf_append _ _
  have runs : timesOf number (d.step (.advance span)).bench.running =
      (timesOf number (d.bench.flights span)).filter fun t => d.now + sleepFor span < t := by
    rw [Diary.step, advance_eq]
    exact timesOf_filter (fun t => d.now + sleepFor span < t) _
  have finishes : ((d.step (.advance span)).finishesOf number).Perm
      (d.finishesOf number ++
        (timesOf number (d.bench.flights span)).filter fun t => t ≤ d.now + sleepFor span) := by
    rw [Diary.step, advance_eq, ← timesOf_filter (fun t => t ≤ d.now + sleepFor span)]
    show (timesOf number (d.finishes ++ _)).Perm _
    rw [timesOf_append]
    exact (timesOf_mergeSort _).append_left _
  have now := d.now_advance span
  have set : number < (d.step (.advance span)).bench.timers.length := by
    rw [Diary.step, advance_eq]
    exact fares.set
  have lasts : (d.step (.advance span)).bench.takes number = takes := by
    rw [Diary.step, advance_eq]
    exact fares.lasts
  rw [fares.waits] at waits
  rw [fares.starts, fares.begins valid] at starts
  rw [fares.flights valid] at runs finishes
  rw [fares.finishes] at finishes
  refine ⟨set, lasts, waits.trans ?_, starts.trans ?_, runs.trans ?_, ?_⟩
  · cases fate with
    | waiting =>
      by_cases come : due ≤ d.now + sleepFor span
      · simp [Fate.next, come]
      · simp [Fate.next, come, Nat.lt_of_not_ge come]
    | struck => rfl
    | started => rfl
  · cases fate with
    | waiting => by_cases come : due ≤ d.now + sleepFor span <;> simp [Fate.next, come]
    | struck => rfl
    | started => rfl
  · cases fate with
    | waiting =>
      by_cases come : due ≤ d.now + sleepFor span
      · simp [Fate.next, come, List.filter_singleton, now]
      · simp [Fate.next, come]
    | struck => rfl
    | started =>
      by_cases runs : d.now < due + takes
      · simp [Fate.next, runs, List.filter_singleton, now]
      · have late : ¬ d.now + sleepFor span < due + takes := by omega
        simp [Fate.next, runs, late, now]
  · apply eq_choice_of_perm
    refine finishes.trans (List.Perm.of_eq ?_)
    cases fate with
    | waiting =>
      by_cases come : due ≤ d.now + sleepFor span
      · simp [Fate.next, come, List.filter_singleton, now]
      · simp [Fate.next, come]
    | struck => rfl
    | started =>
      by_cases runs : d.now < due + takes
      · have early : ¬ due + takes ≤ d.now := by omega
        simp [Fate.next, runs, early, List.filter_singleton, now]
      · have early : due + takes ≤ d.now := by omega
        have late : due + takes ≤ d.now + sleepFor span := by omega
        simp [Fate.next, runs, early, late, now]

theorem Fares.step (fares : d.Fares number due takes fate) (valid : d.Valid) (step : Step) :
    (d.step step).Fares number due takes (fate.next number due step (d.step step).now) := by
  cases step with
  | schedule delay takes =>
    have other : d.bench.timers.length ≠ number := Nat.ne_of_gt fares.set
    refine ⟨?_, (d.bench.takes_schedule delay takes fares.set).trans fares.lasts, ?_, ?_, ?_, ?_⟩
    · exact Nat.lt_of_lt_of_le fares.set (by simp [Diary.step, schedule])
    · have placed := duesOf_place_other (a := ⟨d.bench.timers.length, d.now + sleepFor delay⟩)
        other d.bench.agenda.alarms
      rw [fares.waits] at placed
      cases fate <;> exact eq_choice_of_perm placed
    · cases fate <;> exact fares.starts
    · cases fate <;> exact fares.runs
    · cases fate <;> exact fares.finishes
  | cancel other =>
    have length : (d.bench.cancel other).timers.length = d.bench.timers.length :=
      List.length_modify _ _ _
    have started : fate.next number due (.cancel other) (d.step (.cancel other)).now = .started ↔
        fate = .started := by
      cases fate with
      | waiting => by_cases own : other = number <;> simp [Fate.next, own]
      | struck => simp [Fate.next]
      | started => simp [Fate.next]
    refine ⟨length ▸ fares.set, (d.bench.takes_cancel other number).trans fares.lasts, ?_, ?_, ?_,
      ?_⟩
    · show duesOf number (d.bench.agenda.alarms.filter fun a => a.key ≠ other) = _
      by_cases own : other = number
      · rw [own, duesOf_filter_own]
        cases fate <;> simp [Fate.next]
      · rw [duesOf_filter_other own, fares.waits]
        cases fate <;> simp [Fate.next, own]
    · simp only [started]
      exact fares.starts
    · simp only [started]
      exact fares.runs
    · simp only [started]
      exact fares.finishes
  | advance span =>
    rw [now_advance]
    exact fares.advance valid span

/-- What has become of a timer that waits no longer stays. -/
theorem Fares.run_settled (fares : d.Fares number due takes fate) (valid : d.Valid)
    (settled : fate ≠ .waiting) (steps : List Step) :
    (d.run steps).Fares number due takes fate := by
  induction steps generalizing d with
  | nil => exact fares
  | cons step steps ih =>
    have same (now : Nat) : fate.next number due step now = fate := by
      cases fate with
      | waiting => exact absurd rfl settled
      | struck => rfl
      | started => rfl
    have next := fares.step valid step
    rw [same] at next
    exact ih next (step_valid valid step)

/-! ## When a timer starts -/

/-- An advance brings the time to which a timer is due, and the timer is not cancelled before. -/
def Reached (d : Diary) (number due : Nat) (steps : List Step) : Prop :=
  ∃ earlier span later, steps = earlier ++ .advance span :: later ∧
    .cancel number ∉ earlier ∧ due ≤ (d.run (earlier ++ [.advance span])).now

theorem not_reached_nil (d : Diary) (number due : Nat) : ¬ d.Reached number due [] := by
  rintro ⟨earlier, span, later, split, -⟩
  cases earlier <;> cases split

theorem reached_cons {step : Step} {steps : List Step} :
    d.Reached number due (step :: steps) ↔
      (∃ span, step = .advance span ∧ due ≤ (d.step step).now) ∨
        (step ≠ .cancel number ∧ (d.step step).Reached number due steps) := by
  constructor
  · rintro ⟨earlier, span, later, split, kept, come⟩
    cases earlier with
    | nil =>
      obtain ⟨rfl, rfl⟩ := List.cons.inj split
      exact .inl ⟨span, rfl, come⟩
    | cons first earlier =>
      obtain ⟨rfl, rfl⟩ := List.cons.inj split
      have other : step ≠ .cancel number := fun same => kept (same ▸ List.mem_cons_self)
      exact .inr ⟨other, earlier, span, later, rfl,
        fun member => kept (List.mem_cons_of_mem _ member), come⟩
  · rintro (⟨span, rfl, come⟩ | ⟨other, earlier, span, later, rfl, kept, come⟩)
    · exact ⟨[], span, steps, rfl, List.not_mem_nil, come⟩
    · refine ⟨step :: earlier, span, later, rfl, ?_, come⟩
      intro member
      rcases List.mem_cons.mp member with same | behind
      · exact other same.symm
      · exact kept behind

/-- What comes after a timer is cancelled does not make it start. -/
theorem Reached.of_cancel {earlier later : List Step}
    (reached : d.Reached number due (earlier ++ .cancel number :: later)) :
    d.Reached number due earlier := by
  induction earlier generalizing d with
  | nil =>
    rcases reached_cons.mp reached with ⟨span, cancel, -⟩ | ⟨other, -⟩
    · cases cancel
    · exact absurd rfl other
  | cons step earlier ih =>
    rcases reached_cons.mp reached with first | ⟨other, reached⟩
    · exact reached_cons.mpr (.inl first)
    · exact reached_cons.mpr (.inr ⟨other, ih reached⟩)

/-- A timer that waits has started after some steps if its time was reached by them. -/
theorem Fares.run (fares : d.Fares number due takes .waiting) (valid : d.Valid)
    (steps : List Step) :
    ∃ fate, (fate = .started ↔ d.Reached number due steps) ∧
      (d.run steps).Fares number due takes fate := by
  induction steps generalizing d with
  | nil => exact ⟨.waiting, by simp [not_reached_nil], fares⟩
  | cons step steps ih =>
    have next := fares.step valid step
    have nextValid := step_valid valid step
    cases step with
    | schedule delay takes =>
      obtain ⟨fate, started, later⟩ := ih next nextValid
      exact ⟨fate, by simp [started, reached_cons], later⟩
    | cancel other =>
      by_cases own : other = number
      · subst own
        rw [Fate.next, if_pos rfl] at next
        exact ⟨.struck, by simp [reached_cons], next.run_settled nextValid (by decide) steps⟩
      · rw [Fate.next, if_neg own] at next
        obtain ⟨fate, started, later⟩ := ih next nextValid
        exact ⟨fate, by simp [started, reached_cons, own], later⟩
    | advance span =>
      rw [now_advance] at next
      by_cases come : due ≤ d.now + sleepFor span
      · rw [Fate.next, if_pos come] at next
        exact ⟨.started, by simp [reached_cons, come],
          next.run_settled nextValid (by decide) steps⟩
      · rw [Fate.next, if_neg come] at next
        obtain ⟨fate, started, later⟩ := ih next nextValid
        exact ⟨fate, by simp [started, reached_cons, come], later⟩

/-! ## A timer by itself -/

/-- Time passes on a bench with one timer as on a bench with many. -/
theorem run_alone_now {e : Diary} (same : d.now = e.now) (steps : List Step) :
    (d.run steps).now = (e.run (steps.filterMap (Step.alone number))).now := by
  induction steps generalizing d e with
  | nil => exact same
  | cons step steps ih =>
    cases step with
    | schedule delay takes => exact ih same
    | cancel other =>
      by_cases own : other = number
      · subst own
        rw [List.filterMap_cons_some (Step.alone_cancel_own other)]
        exact ih same
      · rw [List.filterMap_cons_none (Step.alone_cancel_other own)]
        exact ih same
    | advance span =>
      rw [List.filterMap_cons_some (Step.alone_advance number span)]
      exact ih (by simp [same])

theorem reached_alone {e : Diary} (same : d.now = e.now) (steps : List Step) :
    d.Reached number due steps ↔ e.Reached 0 due (steps.filterMap (Step.alone number)) := by
  induction steps generalizing d e with
  | nil => simp [not_reached_nil]
  | cons step steps ih =>
    rw [reached_cons]
    cases step with
    | schedule delay takes =>
      rw [List.filterMap_cons_none rfl, ← ih (d := d.step (.schedule delay takes)) same]
      simp
    | cancel other =>
      by_cases own : other = number
      · subst own
        rw [List.filterMap_cons_some (Step.alone_cancel_own other), reached_cons]
        simp
      · rw [List.filterMap_cons_none (Step.alone_cancel_other own),
          ← ih (d := d.step (.cancel other)) same]
        simp [own]
    | advance span =>
      rw [List.filterMap_cons_some (Step.alone_advance number span), reached_cons,
        ih (e := e.step (.advance span)) (by simp [same])]
      simp [same]

/-! ## Every timer -/

/-- What a diary says of a timer, told by whether it has started. -/
theorem Fares.times (fares : d.Fares number due takes fate) :
    (fate = .started → d.startsOf number = [due] ∧
      d.finishesOf number = if due + takes ≤ d.now then [due + takes] else []) ∧
    (fate ≠ .started → d.startsOf number = [] ∧ d.finishesOf number = []) := by
  constructor
  · rintro rfl
    exact ⟨fares.starts, by simpa using fares.finishes⟩
  · intro idle
    exact ⟨by simpa [idle] using fares.starts, by simpa [idle] using fares.finishes⟩

/-- Two timers that are due at one time, of which both have started or neither has, have done the
same. -/
theorem Fares.same_times {e : Diary} {other : Nat} {fate' : Fate}
    (fares : d.Fares number due takes fate) (like : e.Fares other due takes fate')
    (started : fate = .started ↔ fate' = .started) (now : d.now = e.now) :
    d.startsOf number = e.startsOf other ∧ d.finishesOf number = e.finishesOf other := by
  rw [fares.starts, like.starts, fares.finishes, like.finishes, now]
  simp only [started, and_self]

/-- A timer starts once, when it is due, if an advance brings that time before the timer is
cancelled, and its task finishes when its time is over, whatever comes between; otherwise it never
starts. What becomes of it is what would become of it if it were the only timer. -/
theorem run_fates (before after : List Step) (delay takes : Nat) :
    let set := (empty 0).run before
    let number := set.bench.timers.length
    let due := set.now + sleepFor delay
    let finish := due + sleepFor takes
    let armed := set.step (.schedule delay takes)
    let d := armed.run after
    let alone := (empty set.now).run
      (.schedule delay takes :: after.filterMap (Step.alone number))
    (armed.Reached number due after →
        d.startsOf number = [due] ∧
          d.finishesOf number = if finish ≤ d.now then [finish] else []) ∧
      (¬ armed.Reached number due after → d.startsOf number = [] ∧ d.finishesOf number = []) ∧
      (∀ earlier later, after = earlier ++ .cancel number :: later →
        ¬ armed.Reached number due earlier → d.startsOf number = [] ∧ d.finishesOf number = []) ∧
      d.startsOf number = alone.startsOf 0 ∧ d.finishesOf number = alone.finishesOf 0 := by
  intro set number due finish armed d alone
  have valid : set.Valid := run_valid (empty_valid 0) before
  have waiting : armed.Fares number due (sleepFor takes) .waiting :=
    valid.fares_of_schedule delay takes
  obtain ⟨fate, started, fares⟩ := waiting.run (step_valid valid _) after
  obtain ⟨starts, idle⟩ := fares.times
  refine ⟨fun reached => starts (started.mpr reached),
    fun missed => idle (mt started.mp missed), ?_, ?_⟩
  · rintro earlier later rfl missed
    exact idle fun early => missed (Reached.of_cancel (started.mp early))
  · let single := (empty set.now).step (.schedule delay takes)
    let steps := after.filterMap (Step.alone number)
    have waits : single.Fares 0 due (sleepFor takes) .waiting :=
      (empty_valid set.now).fares_of_schedule delay takes
    obtain ⟨fate', started', like⟩ := waits.run (step_valid (empty_valid set.now) _) steps
    have now : armed.now = single.now := rfl
    have reached : armed.Reached number due after ↔ single.Reached 0 due steps :=
      reached_alone now after
    exact fares.same_times like (started.trans (reached.trans started'.symm))
      (run_alone_now now after)

/-- A delay longer than the longest sleep: the timer starts and its task finishes before the delay
is over, when no advance has brought the time yet. -/
theorem run_starts_early :
    let delay := 946080000001
    let armed := (empty 0).step (.schedule delay 0)
    let steps : List Step := [.advance 946080000000]
    ¬ armed.Reached 0 (0 + delay) steps ∧ (armed.run steps).now < 0 + delay ∧
      (armed.run steps).startsOf 0 = [946080000000] ∧
      (armed.run steps).finishesOf 0 = [946080000000] := by
  intro delay armed steps
  refine ⟨?_, by decide +kernel, by decide +kernel, by decide +kernel⟩
  rw [reached_cons]
  rintro (⟨span, step, come⟩ | ⟨-, later⟩)
  · have early : (armed.step (.advance 946080000000)).now < 0 + delay := by decide +kernel
    exact Nat.not_le_of_lt early come
  · exact not_reached_nil _ _ _ later

end Diary

end Bench

end Watchdesk
