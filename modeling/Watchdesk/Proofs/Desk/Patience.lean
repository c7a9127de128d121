import Mathlib.Algebra.Order.BigOperators.Group.List
import Mathlib.Algebra.Order.Group.Nat
import Watchdesk.Proofs.Desk.Courses
import Watchdesk.Proofs.Export.Delays

/-!
# Exports that are kept waiting

An export whose questions fail for a while, but not more often than they are asked again, hears all
the same replies in the end, and makes the moves that it makes without the failures.
-/

namespace Watchdesk

open Export (Quest Wait Deed Hearing Word Delayed passing)

/-- What a clerk hears is what it waits for. -/
def Clerk.Awaits (c : Clerk) : Word → Prop
  | .answered _ | .rested => ∃ quest attempts, c.wait = some (.answer quest attempts)
  | .saved _ => ∃ artifact rows total, c.wait = some (.file artifact rows total)

/-- Whatever a clerk hears, one thing after another, is what it waits for then. -/
def Clerk.Heeds (settings : Settings) (order : ExportOrder) : Clerk → List Hearing → Prop
  | _, [] => True
  | c, hearing :: later =>
    c.Awaits hearing.word ∧ (c.hear settings order hearing).Heeds settings order later

theorem Clerk.Heeds.append_singleton {settings : Settings} {order : ExportOrder} {c : Clerk}
    {heard : List Hearing} {hearing : Hearing} (heeds : c.Heeds settings order heard)
    (awaits : (heard.foldl (hear settings order) c).Awaits hearing.word) :
    c.Heeds settings order (heard ++ [hearing]) := by
  induction heard generalizing c with
  | nil => exact ⟨awaits, trivial⟩
  | cons first heard ih => exact ⟨heeds.1, ih heeds.2 awaits⟩

namespace Desk

variable {settings : Settings} {cap : Nat} {order : ExportOrder} {hooked shut : Bool}
  {before : List Event} {heard : List Hearing} {deeds : List Deed} {quest : Quest} {attempts : Nat}
  {d e : Desk}

/-! ## What a desk hears for an export is what the export waits for -/

theorem awaits_of_hears (held : d.slot.Held cap order) {event : Event} {hearing : Hearing}
    (hears : d.hears event = some hearing) (deeds : List Deed) :
    (⟨d.wait, deeds⟩ : Clerk).Awaits hearing.word := by
  have answers {ticket : Nat} (asking : d.asking ticket) :
      ∃ quest attempts, d.wait = some (.answer quest attempts) := by
    obtain ⟨call, -, quest, progress, -, -, -, -, waits⟩ := asked_call held asking
    exact ⟨quest, call.attempts, waits⟩
  cases reaches_of_hears hears with
  | answered asking => exact answers asking
  | rested first due asking => exact answers asking
  | saved own =>
    obtain ⟨s, -, -, -, -, waits⟩ := awaited_saving held own
    exact ⟨s.artifact, s.rows, s.total, waits⟩

theorem Course.heeds
    (course : Course order ((ofSettings settings hooked).live before) heard deeds e) :
    (Clerk.attend settings order []).Heeds settings order heard := by
  induction course with
  | begins asked idle => trivial
  | @goesOn heard deeds e course busy event ih =>
    cases hears : e.hears event with
    | none =>
      rw [Option.toList_none, List.append_nil]
      exact ih
    | some hearing =>
      have tracked := course.of_life
      refine ih.append_singleton ?_
      have now : heard.foldl (Clerk.hear settings order) (Clerk.attend settings order []) =
          ⟨e.wait, deeds⟩ := tracked.clerk.symm
      rw [now]
      exact awaits_of_hears (tracked.held busy) hears deeds

/-! ## Nothing that an export hears closes a desk -/

theorem notifyAll_closed (d : Desk) (notices : List NewNotice) :
    (d.notifyAll notices).closed = d.closed := by
  unfold notifyAll
  induction notices generalizing d with
  | nil => rfl
  | cons notice notices ih => exact ih (d.notify notice)

theorem perform_closed (d : Desk) (order : ExportOrder) (deed : Deed) :
    (d.perform order deed).closed = d.closed := by
  cases deed with
  | repeats =>
    unfold perform
    dsimp only
    split <;> rfl
  | moves move =>
    have shown := foldl_showProgress_closed d move.shown
    unfold perform goOn
    dsimp only
    split
    · exact shown
    · exact shown
    · exact (notifyAll_closed _ _).trans shown

theorem Answers.closed {hearing : Hearing} (answers : Answers order d hearing e) :
    e.closed = d.closed := by
  obtain ⟨calls, pauses, savings, rfl⟩ := answers.serves
  cases d.wait.bind (·.deed d.settings order hearing) with
  | none => rfl
  | some deed => exact perform_closed _ order deed

/-! ## What an export can hear -/

/-- An export of a desk may have heard this, and the desk is closed by then or is not. -/
def Hearable (order : ExportOrder) (d : Desk) (shut : Bool) (heard : List Hearing) : Prop :=
  ∃ deeds e, Course order d heard deeds e ∧ e.closed = shut

theorem Course.hearable_of_hears
    (course : Course order ((ofSettings settings hooked).live before) heard deeds e)
    (busy : e.exporting = true) {event : Event} {hearing : Hearing}
    (hears : e.hears event = some hearing) :
    Hearable order ((ofSettings settings hooked).live before) e.closed (heard ++ [hearing]) := by
  have tracked := course.of_life
  have later := course.goesOn busy event
  rw [hears] at later
  exact ⟨_, _, later,
    (tracked.orderly.step_answers tracked.fair (tracked.held busy) hears).closed⟩

/-- A course goes on while the export hears nothing. -/
theorem Course.of_deaf (course : Course order d heard deeds e) (busy : e.exporting = true)
    {event : Event} (deaf : e.hears event = none) : Course order d heard deeds (e.step event) := by
  have later := course.goesOn busy event
  unfold Desk.deed at later
  rw [deaf] at later
  simpa using later

theorem asking_of_wait (waits : d.wait = some (.answer quest attempts)) :
    ∃ call ∈ d.calls, call.task.isExport = true ∧ call.attempts = attempts := by
  unfold Desk.wait at waits
  cases own : d.calls.filter fun c => c.task.isExport with
  | nil =>
    rw [own] at waits
    obtain ⟨s, -, other⟩ := Option.map_eq_some_iff.mp waits
    cases other
  | cons call calls =>
    rw [own] at waits
    obtain ⟨asked, -, same⟩ := Option.map_eq_some_iff.mp waits
    cases same
    have member : call ∈ d.calls.filter fun c => c.task.isExport := by
      rw [own]
      exact List.mem_cons_self
    exact ⟨call, (List.mem_filter.mp member).1, (List.mem_filter.mp member).2, rfl⟩

theorem Tracked.busy_of_wait (tracked : Tracked settings order heard deeds e) {wait : Wait}
    (waits : (Clerk.attend settings order heard).wait = some wait) :
    e.exporting = true ∧ e.wait = some wait := by
  have same : e.wait = some wait := by
    rw [← waits, ← tracked.clerk]
  rw [tracked.exporting_eq, same]
  exact ⟨rfl, rfl⟩

theorem saving_of_wait {artifact : Export.Artifact} {rows total : Nat}
    (waits : d.wait = some (.file artifact rows total)) : ∃ s, s ∈ d.savings := by
  unfold Desk.wait at waits
  cases own : d.calls.filter fun c => c.task.isExport with
  | nil =>
    rw [own] at waits
    obtain ⟨s, first, -⟩ := Option.map_eq_some_iff.mp waits
    exact ⟨s, List.mem_of_head? first⟩
  | cons call calls =>
    rw [own] at waits
    obtain ⟨asked, -, other⟩ := Option.map_eq_some_iff.mp waits
    cases other

/-- An export that waits for an answer can hear any. -/
theorem Hearable.answered
    (hearable : Hearable order ((ofSettings settings hooked).live before) shut heard)
    (waits : (Clerk.attend settings order heard).wait = some (.answer quest attempts))
    (answer : Except Fault Reply) :
    Hearable order ((ofSettings settings hooked).live before) shut
      (heard ++ [⟨shut, .answered answer⟩]) := by
  obtain ⟨deeds, e, course, rfl⟩ := hearable
  obtain ⟨busy, waiting⟩ := course.of_life.busy_of_wait waits
  obtain ⟨call, pending, isExport, -⟩ := asking_of_wait waiting
  have hears : e.hears (.answer call.ticket answer) = some ⟨e.closed, .answered answer⟩ :=
    if_pos (asking_of_call pending isExport)
  exact course.hearable_of_hears busy hears

/-- An export that waits for its file can hear that it was saved, or was not. -/
theorem Hearable.saved {artifact : Export.Artifact} {rows total : Nat}
    (hearable : Hearable order ((ofSettings settings hooked).live before) shut heard)
    (waits : (Clerk.attend settings order heard).wait = some (.file artifact rows total))
    (saved : Except Fault String) :
    Hearable order ((ofSettings settings hooked).live before) shut
      (heard ++ [⟨shut, .saved saved⟩]) := by
  obtain ⟨deeds, e, course, rfl⟩ := hearable
  obtain ⟨busy, waiting⟩ := course.of_life.busy_of_wait waits
  obtain ⟨s, pending⟩ := saving_of_wait waiting
  have hears : e.hears (.settleSaving s.ticket saved) = some ⟨e.closed, .saved saved⟩ :=
    if_pos (List.any_eq_true.mpr ⟨s, pending, by simp⟩)
  exact course.hearable_of_hears busy hears

/-! ## Pauses -/

/-- A failure that passes makes a call pause. -/
theorem Orderly.answer_passing (orderly : Orderly settings d) (fair : d.Fair) {call : Call}
    (pending : call ∈ d.calls) (isExport : call.task.isExport = true)
    (few : call.attempts < settings.backend.retries) (slow : settings.backend.retryDelay ≠ 0)
    {failure : Except Fault Reply} (passes : Retry.passes failure) : ∃ due,
    d.step (.answer call.ticket failure) =
      { d with pauses := Agenda.place ⟨call.ticket, due⟩ d.pauses } := by
  let span := sleepFor (settings.backend.retryDelay * (call.attempts + 1))
  have judged : Retry.judge d.settings.backend call.attempts failure = .again span := by
    rw [orderly.settings]
    exact Retry.judge_of_passes passes few
  obtain ⟨-, again⟩ := orderly.answer_question fair pending isExport failure
  have paused : d.step (.answer call.ticket failure) = d.pause call span := again span judged
  rw [paused]
  exact ⟨_, if_neg (Retry.sleepFor_ne_zero slow call.attempts)⟩

theorem resumeNext_pauses {pause : Alarm Nat} {pauses : List (Alarm Nat)}
    (first : d.pauses = pause :: pauses) (due : pause.due ≤ d.now) :
    d.resumeNext.pauses = pauses ∧ d.resumeNext.now = d.now ∧
      d.resumeNext.closed = d.closed := by
  unfold resumeNext
  rw [first]
  dsimp only
  rw [if_pos due]
  unfold Desk.resume
  split <;> exact ⟨rfl, rfl, rfl⟩

/-- When all pauses are over, that of the export ends after those before it. -/
theorem Course.rested
    (course : Course order ((ofSettings settings hooked).live before) heard deeds e)
    (busy : e.exporting = true) (due : ∀ pause ∈ e.pauses, pause.due ≤ e.now)
    (pausing : ∃ pause ∈ e.pauses, e.asking pause.key = true) :
    Hearable order ((ofSettings settings hooked).live before) e.closed
      (heard ++ [⟨e.closed, .rested⟩]) := by
  -- The pauses end in their order. One that is not the export's own ends unheard, and the export's
  -- call and its pause are still there.
  generalize all : e.pauses = pauses at due pausing
  induction pauses generalizing e deeds with
  | nil =>
    obtain ⟨pause, member, -⟩ := pausing
    cases member
  | cons first pauses ih =>
    have due_first : first.due ≤ e.now := due first List.mem_cons_self
    by_cases asking : e.asking first.key = true
    · have hears : e.hears .resume = some ⟨e.closed, .rested⟩ := by
        unfold hears
        rw [all]
        exact if_pos ⟨due_first, asking⟩
      exact course.hearable_of_hears busy hears
    · have deaf : e.hears .resume = none := by
        unfold hears
        rw [all]
        exact if_neg fun rested => asking rested.2
      have tracked := course.of_life
      obtain ⟨kept, now, closed⟩ := resumeNext_pauses all due_first
      have later := course.of_deaf busy deaf
      have still : (e.step .resume).exporting = true :=
        (congrArg Slot.exporting (tracked.orderly.step_slot_of_deaf busy deaf)).trans busy
      rw [← closed]
      refine ih later still kept ?_ ?_
      · intro pause member
        exact Nat.le_trans (due pause (List.mem_cons_of_mem _ member)) (Nat.le_of_eq now.symm)
      · obtain ⟨pause, member, own⟩ := pausing
        rcases List.mem_cons.mp member with rfl | among
        · exact absurd own asking
        · obtain ⟨call, pending, shape⟩ := List.any_eq_true.mp own
          rw [Bool.and_eq_true, beq_iff_eq] at shape
          have lasting :=
            tracked.orderly.step_calls pending (touched_of_deaf deaf pending shape.2)
          exact ⟨pause, among, shape.1 ▸ asking_of_call lasting shape.2⟩

/-- An export can hear of a failure that passes, and of the end of the pause after it. -/
theorem Hearable.passing
    (hearable : Hearable order ((ofSettings settings hooked).live before) shut heard)
    (waits : (Clerk.attend settings order heard).wait = some (.answer quest attempts))
    (few : attempts < settings.backend.retries) {failure : Except Fault Reply}
    (passes : Retry.passes failure) :
    Hearable order ((ofSettings settings hooked).live before) shut
      (heard ++ Export.passing settings.backend shut failure) := by
  unfold Export.passing
  split
  · exact hearable.answered waits failure
  · next slow =>
    obtain ⟨deeds, e, course, rfl⟩ := hearable
    have tracked := course.of_life
    obtain ⟨busy, waiting⟩ := tracked.busy_of_wait waits
    obtain ⟨call, pending, isExport, rfl⟩ := asking_of_wait waiting
    obtain ⟨due, paused⟩ :=
      tracked.orderly.answer_passing tracked.fair pending isExport few slow passes
    have asking := asking_of_call pending isExport
    have hears : e.hears (.answer call.ticket failure) = some ⟨e.closed, .answered failure⟩ :=
      if_pos asking
    have told := course.goesOn busy (.answer call.ticket failure)
    rw [hears, paused] at told
    let pauses := Agenda.place ⟨call.ticket, due⟩ e.pauses
    -- After this time every pause is over, whichever end first.
    let span := (pauses.map Alarm.due).sum
    have slept : Course order _ _ _ ({ e with pauses }.step (.pass span)) := told.of_deaf busy rfl
    have past : ∀ pause ∈ pauses, pause.due ≤ e.now + span := by
      intro pause member
      have part : pause.due ≤ span := List.le_sum_of_mem (List.mem_map_of_mem member)
      omega
    have placed : ⟨call.ticket, due⟩ ∈ pauses :=
      (Agenda.place_perm _ _).mem_iff.mpr List.mem_cons_self
    have ended := slept.rested busy past ⟨_, placed, asking⟩
    rw [List.append_assoc] at ended
    exact ended

/-- An export can hear of failures that pass as often as its question is sent again. -/
theorem Hearable.failures {failures : List (Except Fault Reply)}
    (hearable : Hearable order ((ofSettings settings hooked).live before) shut heard)
    (waits : (Clerk.attend settings order heard).wait = some (.answer quest attempts))
    (few : attempts + failures.length ≤ settings.backend.retries)
    (pass : ∀ failure ∈ failures, Retry.passes failure) :
    Hearable order ((ofSettings settings hooked).live before) shut
      (heard ++ failures.flatMap (Export.passing settings.backend shut)) := by
  induction failures generalizing heard attempts with
  | nil =>
    rw [List.flatMap_nil, List.append_nil]
    exact hearable
  | cons failure failures ih =>
    rw [List.length_cons] at few
    obtain ⟨first, others⟩ := List.forall_mem_cons.mp pass
    have told := hearable.passing waits (by omega) first
    have waiting := (Clerk.hear_passing settings order waits (by omega) first shut).1
    rw [← Clerk.attend_append] at waiting
    rw [List.flatMap_cons, ← List.append_assoc]
    exact ih told waiting (by omega) others

/-- Whatever an export can hear at one desk, it can hear with delays at another one. -/
theorem Hearable.delayed {past left right : List Hearing}
    (delayed : Delayed settings.backend left right)
    (abreast : Clerk.Abreast (Clerk.attend settings order past) (Clerk.attend settings order heard))
    (heeds : (Clerk.attend settings order past).Heeds settings order left)
    (steady : ∀ hearing ∈ left, hearing.closed = shut)
    (hearable : Hearable order ((ofSettings settings hooked).live before) shut heard) :
    Hearable order ((ofSettings settings hooked).live before) shut (heard ++ right) := by
  induction delayed generalizing past heard with
  | nil =>
    rw [List.append_nil]
    exact hearable
  | @reply left right failures reply closed final few pass later ih =>
    obtain ⟨same, others⟩ := List.forall_mem_cons.mp steady
    obtain ⟨⟨quest, attempts, waits⟩, rest⟩ := heeds
    dsimp only at same
    subst same
    have first := abreast.fresh quest attempts waits
    subst first
    have waiting := abreast.wait.trans waits
    have failed := hearable.failures waiting (by omega) pass
    have patient := (Clerk.hear_failures settings order waiting (by omega) pass closed).1
    have still := @Clerk.Abreast.reply settings order _ _ _ abreast reply final few pass closed
    rw [← Clerk.attend_append] at patient
    have told := failed.answered patient (.ok reply)
    have ended := @ih _ (past ++ [⟨closed, .answered (.ok reply)⟩]) ?_ ?_ others told
    · rw [List.append_assoc, List.append_assoc] at ended
      exact ended
    · rw [Clerk.attend_append past, Clerk.attend_append _ [_], Clerk.attend_append heard]
      exact still
    · rw [Clerk.attend_append]
      exact rest
  | @saved left right closed saved later ih =>
    obtain ⟨same, others⟩ := List.forall_mem_cons.mp steady
    obtain ⟨⟨artifact, rows, total, waits⟩, rest⟩ := heeds
    dsimp only at same
    subst same
    have told := hearable.saved (abreast.wait.trans waits) saved
    have ended := @ih _ (past ++ [⟨closed, .saved saved⟩]) ?_ ?_ others told
    · rw [List.append_assoc] at ended
      exact ended
    · rw [Clerk.attend_append, Clerk.attend_append]
      exact abreast.saved closed saved
    · rw [Clerk.attend_append]
      exact rest

/-- A desk without an export can begin one. -/
theorem hearable_nil (settings : Settings) (hooked : Bool) (before : List Event)
    (order : ExportOrder) :
    let d := (ofSettings settings hooked).live before
    d.exporting = false → Hearable order d d.closed [] := by
  intro d idle
  have asked : (Event.requestExport order).exportOrder = some order := rfl
  refine ⟨_, _, .begins asked idle, ?_⟩
  rw [step_opens asked idle]
  exact perform_closed _ order _

/-- Take any export of a desk, and its replies with failures that pass in between, before each reply
no more than a question is asked again. Another export for the same order, on a desk with the same
settings, makes the same moves when it hears all these, whatever happened at that desk before or
happens meanwhile: it shows the same progress, hands out the same file, returns the same and
publishes the same notices, and is at work as long. And it does hear them all, as its questions are
asked again after each failure. -/
theorem passing_failures_unseen (settings : Settings) (hooked also : Bool)
    (before others : List Event) (order : ExportOrder) :
    let d := (ofSettings settings hooked).live before
    let other := (ofSettings settings also).live others
    Faithful order d ∧ Faithful order other ∧
    ∀ (left : List Hearing) (deeds : List Deed) (e : Desk), Course order d left deeds e →
      ∀ right, Delayed settings.backend left right →
        (∀ (later : List Deed) (f : Desk), Course order other right later f →
          later.filterMap Deed.move? = deeds.filterMap Deed.move? ∧
          f.wait = e.wait ∧ f.exporting = e.exporting) ∧
        (other.exporting = false → (∀ hearing ∈ left, hearing.closed = other.closed) →
          Hearable order other other.closed right) := by
  intro d other
  refine ⟨faithful settings hooked before order, faithful settings also others order, ?_⟩
  intro left deeds e course right delayed
  have tracked := course.of_life
  refine ⟨?_, ?_⟩
  · intro later f delays
    have still := delays.of_life
    have abreast := @Clerk.attend_delayed settings order left right delayed
    rw [← tracked.clerk, ← still.clerk] at abreast
    have waits : f.wait = e.wait := abreast.wait
    refine ⟨abreast.moves, waits, ?_⟩
    rw [still.exporting_eq, tracked.exporting_eq, waits]
  · intro idle steady
    have begun := hearable_nil settings also others order idle
    have abreast := @Clerk.attend_delayed settings order [] [] .nil
    exact begun.delayed delayed abreast course.heeds steady

end Desk

end Watchdesk
