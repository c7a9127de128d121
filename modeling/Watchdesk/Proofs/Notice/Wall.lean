import Watchdesk.Proofs.Notice.Board

/-!
# Notices on a wall

A wall keeps no alarms: each notice has the time at which it goes written on it, and goes when that
time has come. A board with nothing left that is due shows what a wall shows.
-/

namespace Watchdesk

/-- A notice with the time at which it goes, if it ever does. -/
structure Pin where
  notice : Notice
  deadline : Option Nat
deriving DecidableEq, Repr

/-- A notice that has its time written on it. -/
def Notice.pin (n : Notice) : Pin := ⟨n, n.deadline⟩

/-- The time of a notice has not come. -/
def Notice.stays (time : Nat) (n : Notice) : Bool := n.deadline.all (time < ·)

/-- A list of notices that go when their time has come. -/
structure Wall where
  capacity : Nat
  /-- How long a notice stays up that does not say so. -/
  usual : Nat
  now : Nat := 0
  issued : Nat := 0
  /-- The notices, newest first. -/
  pins : List Pin := []

namespace Wall

/-- A wall with nothing on it. -/
def ofSettings (s : NoticeSettings) : Wall :=
  { capacity := s.capacity, usual := s.defaultDuration }

/-- How long a notice stays up; zero is for ever. -/
def span (w : Wall) : NoticeDuration → Nat
  | .usual => w.usual
  | .persistent => 0
  | .milliseconds n => n

/-- Publish a notice. -/
def notify (w : Wall) (n : NewNotice) : Wall :=
  let span := w.span n.duration
  let notice : Notice :=
    { id := Center.noticeId (w.issued + 1), title := n.title, description := n.description
      variant := n.variant, duration := if span = 0 then none else some span, createdAt := w.now }
  let pin : Pin := ⟨notice, if span = 0 then none else some (w.now + span)⟩
  { w with pins := (pin :: w.pins).take (max w.capacity 1), issued := w.issued + 1 }

/-- Remove a notice: whether it was there. -/
def dismiss (w : Wall) (id : String) : Bool × Wall :=
  (w.pins.any fun p => p.notice.id = id,
    { w with pins := w.pins.filter fun p => p.notice.id ≠ id })

/-- Time passes. -/
def pass (w : Wall) (span : Nat) : Wall :=
  { w with
    now := w.now + span
    pins := w.pins.filter fun p => p.deadline.all (w.now + span < ·) }

/-- What becomes of a wall. It has no work to be done. -/
def step (w : Wall) : Board.Event → Wall
  | .notify n => w.notify n
  | .dismiss id => (w.dismiss id).2
  | .pass span => w.pass span
  | .ring => w

/-- What becomes of a wall in the course of events. -/
def run (w : Wall) (events : List Board.Event) : Wall := events.foldl step w

/-- Whether each notice that is dismissed was there. -/
def answers (w : Wall) : List Board.Event → List Bool
  | [] => []
  | .dismiss id :: events => (w.dismiss id).1 :: (w.dismiss id).2.answers events
  | event :: events => (w.step event).answers events

end Wall

namespace Board

/-- Nothing on the agenda is due. -/
def Rested (b : Board) : Prop := ∀ alarm ∈ b.agenda.alarms, b.agenda.now < alarm.due

instance (b : Board) : Decidable b.Rested := List.decidableBAll _ _

/-- Whether each notice that is dismissed was there. -/
def answers (b : Board) : List Event → List Bool
  | [] => []
  | .dismiss id :: events => (b.dismiss id).1 :: (b.dismiss id).2.answers events
  | event :: events => (b.step event).answers events

/-- Somebody publishes or dismisses a notice. -/
def Event.isRequest : Event → Bool
  | .notify _ | .dismiss _ => true
  | .pass _ | .ring => false

/-- What is due is done before anybody publishes or dismisses a notice. -/
def Prompt (b : Board) : List Event → Prop
  | [] => True
  | event :: events => (event.isRequest = true → b.Rested) ∧ (b.step event).Prompt events

instance decidablePrompt (b : Board) (events : List Event) : Decidable (b.Prompt events) :=
  match events with
  | [] => isTrue trivial
  | event :: events =>
    have := decidablePrompt (b.step event) events
    inferInstanceAs (Decidable (_ ∧ _))

/-- A wall shows the notices of a board whose time has not come. -/
structure Shown (w : Wall) (b : Board) : Prop where
  capacity : max w.capacity 1 = b.center.capacity
  usual : w.usual = b.center.defaultDuration
  now : w.now = b.agenda.now
  issued : w.issued = b.center.issued
  pins : w.pins = (b.notices.filter (·.stays b.agenda.now)).map Notice.pin

variable {w : Wall} {b : Board}

theorem ofSettings_shown (s : NoticeSettings) : Shown (.ofSettings s) (.ofSettings s) :=
  ⟨rfl, rfl, rfl, rfl, rfl⟩

/-! ## A board at rest -/

theorem Valid.stays_of_rested (valid : b.Valid) (rested : b.Rested) :
    ∀ n ∈ b.notices, n.stays b.agenda.now = true := by
  intro n member
  unfold Notice.stays
  cases deadline : n.deadline with
  | none => rfl
  | some due =>
    have own : n.alarm = some ⟨n.id, due⟩ := by rw [Notice.alarm, deadline, Option.map_some]
    have alarm : ⟨n.id, due⟩ ∈ b.agenda.alarms :=
      valid.alarms.mem_iff.mpr (List.mem_filterMap.mpr ⟨n, member, own⟩)
    simpa using rested _ alarm

theorem Shown.pins_of_rested (shown : Shown w b) (valid : b.Valid) (rested : b.Rested) :
    w.pins = b.notices.map Notice.pin := by
  rw [shown.pins, List.filter_eq_self.mpr (valid.stays_of_rested rested)]

theorem takeDue_of_rested (rested : b.Rested) : b.agenda.takeDue b.agenda.now = none := by
  unfold Agenda.takeDue
  split
  · rfl
  · next first rest alarms =>
    have later := rested first (alarms ▸ List.mem_cons_self)
    exact if_neg (Nat.not_le.mpr later)

theorem Valid.rested_iff (valid : b.Valid) :
    b.Rested ↔ b.agenda.takeDue b.agenda.now = none :=
  ⟨takeDue_of_rested, Agenda.lt_due_of_takeDue valid.ordered⟩

theorem ring_of_rested (rested : b.Rested) : b.ring = b := by
  unfold ring
  rw [takeDue_of_rested rested]

theorem rings_of_rested (rested : b.Rested) (count : Nat) :
    b.run (.replicate count .ring) = b := by
  induction count with
  | zero => rfl
  | succ count ih =>
    show b.ring.run (.replicate count .ring) = b
    rw [ring_of_rested rested, ih]

/-- Once every alarm had its turn, nothing is due any more. -/
theorem Valid.rested_of_rings (valid : b.Valid) {count : Nat}
    (enough : b.agenda.alarms.length ≤ count) : (b.run (.replicate count .ring)).Rested := by
  induction count generalizing b with
  | zero =>
    have empty : b.agenda.alarms = [] := List.eq_nil_of_length_eq_zero (Nat.le_zero.mp enough)
    intro alarm member
    rw [List.replicate_zero, run_nil, empty] at member
    cases member
  | succ count ih =>
    cases taken : b.agenda.takeDue b.agenda.now with
    | none =>
      have rested := valid.rested_iff.mpr taken
      rw [rings_of_rested rested]
      exact rested
    | some first =>
      obtain ⟨alarm, rest⟩ := first
      obtain ⟨alarms, -, -⟩ := Agenda.takeDue_eq_some taken
      show (b.ring.run (.replicate count .ring)).Rested
      refine ih (ring_valid valid) ?_
      have fewer : (b.agenda.cancel alarm.key).alarms.length ≤ rest.alarms.length := by
        simpa [Agenda.cancel, alarms] using List.length_filter_le _ rest.alarms
      rw [alarms, List.length_cons] at enough
      rw [(valid.ring_of_due taken).1, valid.dismiss_agenda]
      omega

/-! ## What each event does to what is shown -/

theorem Shown.fresh_pin (shown : Shown w b) (n : NewNotice) :
    (w.notify n).pins =
      ((b.center.fresh b.agenda.now n).pin :: w.pins).take b.center.capacity := by
  have lifetime : b.center.lifetime n.duration =
      if w.span n.duration = 0 then none else some (w.span n.duration) := by
    cases n.duration with
    | usual => simp [Center.lifetime, Wall.span, shown.usual]
    | persistent => rfl
    | milliseconds span => rfl
  unfold Wall.notify Notice.pin Notice.deadline Center.fresh
  rw [lifetime, ← shown.capacity, shown.now, shown.issued]
  dsimp only
  split <;> rfl

theorem fresh_stays (c : Center) (now : Nat) (n : NewNotice) :
    (c.fresh now n).stays now = true := by
  have positive : ∀ delay ∈ c.lifetime n.duration, 0 < delay := by
    unfold Center.lifetime
    intro delay own
    split at own
    · split at own
      · cases own
      · cases own
        omega
    · cases own
    · split at own
      · cases own
      · cases own
        omega
  unfold Notice.stays Notice.deadline Center.fresh
  cases lifetime : c.lifetime n.duration with
  | none => rfl
  | some delay =>
    have later := positive delay lifetime
    simpa using later

theorem Shown.notify (shown : Shown w b) (valid : b.Valid) (rested : b.Rested) (n : NewNotice) :
    Shown (w.notify n) (b.notify n) := by
  have center := b.notify_center n
  have agenda := valid.notify_agenda n
  refine ⟨?_, ?_, ?_, ?_, ?_⟩
  · rw [center]
    exact shown.capacity
  · rw [center]
    exact shown.usual
  · rw [agenda]
    exact shown.now
  · rw [center]
    exact congrArg (· + 1) shown.issued
  · have notices : (b.notify n).notices =
        (b.center.fresh b.agenda.now n :: b.notices).take b.center.capacity :=
      congrArg Center.notices center
    have all : ∀ other ∈ (b.notify n).notices, other.stays b.agenda.now = true := by
      rw [notices]
      intro other member
      rcases List.mem_cons.mp (List.mem_of_mem_take member) with rfl | earlier
      · exact fresh_stays b.center b.agenda.now n
      · exact valid.stays_of_rested rested other earlier
    rw [agenda, List.filter_eq_self.mpr all, notices, List.map_take, List.map_cons,
      shown.fresh_pin, shown.pins_of_rested valid rested]

theorem Shown.dismiss (shown : Shown w b) (valid : b.Valid) (id : String) :
    Shown (w.dismiss id).2 (b.dismiss id).2 := by
  have center := b.dismiss_center id
  have agenda := valid.dismiss_agenda id
  refine ⟨?_, ?_, ?_, ?_, ?_⟩
  · rw [center]
    exact shown.capacity
  · rw [center]
    exact shown.usual
  · rw [agenda]
    exact shown.now
  · rw [center]
    exact shown.issued
  · show w.pins.filter _ = _
    rw [dismiss_notices, agenda, shown.pins, List.filter_map, List.filter_filter,
      List.filter_filter]
    congr 1
    apply List.filter_congr
    intro n _
    exact Bool.and_comm _ _

theorem Shown.pass (shown : Shown w b) (span : Nat) :
    Shown (w.pass span) (b.step (.pass span)) := by
  refine ⟨shown.capacity, shown.usual, congrArg (· + span) shown.now, shown.issued, ?_⟩
  show w.pins.filter _ = (b.notices.filter (·.stays (b.agenda.now + span))).map Notice.pin
  rw [shown.pins, shown.now, List.filter_map, List.filter_filter]
  congr 1
  apply List.filter_congr
  intro n _
  -- What stays until later stays now.
  show (n.stays (b.agenda.now + span) && n.stays b.agenda.now) = n.stays (b.agenda.now + span)
  unfold Notice.stays
  cases n.deadline with
  | none => rfl
  | some due =>
    simp only [Option.all_some, Bool.and_eq_left_iff_imp, decide_eq_true_eq]
    intro later
    omega

/-- Work that is done removes a notice that the wall does not show any more. -/
theorem Shown.ring (shown : Shown w b) (valid : b.Valid) : Shown w b.ring := by
  cases taken : b.agenda.takeDue b.agenda.now with
  | none =>
    rw [ring_of_rested (valid.rested_iff.mpr taken)]
    exact shown
  | some first =>
    obtain ⟨alarm, rest⟩ := first
    obtain ⟨dismissed, n, listed, own, due, deadline, past⟩ := valid.ring_of_due taken
    rw [dismissed]
    have gone : (w.dismiss alarm.key).2 = w := by
      have others : w.pins.filter (fun p => p.notice.id ≠ alarm.key) = w.pins := by
        rw [List.filter_eq_self, shown.pins]
        intro p member
        obtain ⟨other, kept, rfl⟩ := List.mem_map.mp member
        obtain ⟨there, stays⟩ := List.mem_filter.mp kept
        have different : other.id ≠ alarm.key := by
          intro same
          have equal : other = n :=
            List.inj_on_of_nodup_map valid.distinct there listed (same.trans own.symm)
          rw [equal, Notice.stays, deadline] at stays
          have later : b.agenda.now < due := by simpa using stays
          omega
        exact decide_eq_true different
      unfold Wall.dismiss
      rw [others]
    exact gone ▸ shown.dismiss valid alarm.key

theorem Shown.step (shown : Shown w b) (valid : b.Valid) {event : Event}
    (prompt : event.isRequest = true → b.Rested) : Shown (w.step event) (b.step event) := by
  cases event with
  | notify n => exact shown.notify valid (prompt rfl) n
  | dismiss id => exact shown.dismiss valid id
  | pass span => exact shown.pass span
  | ring => exact shown.ring valid

theorem Shown.run (shown : Shown w b) (valid : b.Valid) {events : List Event}
    (prompt : b.Prompt events) : Shown (w.run events) (b.run events) := by
  induction events generalizing w b with
  | nil => exact shown
  | cons event events ih =>
    obtain ⟨now, later⟩ := prompt
    exact ih (shown.step valid now) (step_valid valid event) later

theorem Shown.rings (shown : Shown w b) (valid : b.Valid) (count : Nat) :
    Shown w (b.run (.replicate count .ring)) := by
  induction count generalizing b with
  | zero => exact shown
  | succ count ih => exact ih (shown.ring valid) (ring_valid valid)

/-- A board at rest tells whether a notice was there as the wall does. -/
theorem Shown.dismiss_answer (shown : Shown w b) (valid : b.Valid) (rested : b.Rested)
    (id : String) : (b.dismiss id).1 = (w.dismiss id).1 := by
  have answer : (b.dismiss id).1 =
      ((b.notices.filter fun n => n.id ≠ id).length != b.notices.length) :=
    congrArg Prod.fst (b.center.dismiss_eq id)
  have found : (w.dismiss id).1 = b.notices.any fun n => n.id = id := by
    show w.pins.any _ = _
    rw [shown.pins_of_rested valid rested, List.any_map]
    rfl
  rw [answer, found, Bool.eq_iff_iff, bne_iff_ne, ne_eq, List.length_filter_eq_length_iff]
  simp

theorem Shown.answers (shown : Shown w b) (valid : b.Valid) {events : List Event}
    (prompt : b.Prompt events) : b.answers events = w.answers events := by
  induction events generalizing w b with
  | nil => rfl
  | cons event events ih =>
    obtain ⟨now, later⟩ := prompt
    have others := ih (shown.step valid now) (step_valid valid event) later
    cases event with
    | dismiss id =>
      have first := shown.dismiss_answer valid (now rfl) id
      exact congrArg₂ List.cons first others
    | notify n => exact others
    | pass span => exact others
    | ring => exact others

/-- A notice goes because it is dismissed, because it is among the last ones when another is
published, or because its time has come. -/
theorem Valid.gone (valid : b.Valid) (event : Event) {n : Notice} (there : n ∈ b.notices)
    (gone : n ∉ (b.step event).notices) :
    event = .dismiss n.id ∨
      (∃ new, event = .notify new ∧ n ∈ b.notices.drop (b.center.capacity - 1)) ∨
      event = .ring ∧ ∃ due, n.deadline = some due ∧ due ≤ b.agenda.now := by
  have dismissed {id : String} (gone : n ∉ (b.dismiss id).2.notices) : n.id = id := by
    rw [dismiss_notices, List.mem_filter] at gone
    by_contra other
    exact gone ⟨there, by simpa using other⟩
  cases event with
  | notify new =>
    refine .inr (.inl ⟨new, rfl, ?_⟩)
    have notices := notify_notices valid.room new
    have beyond : n ∉ b.notices.take (b.center.capacity - 1) := by
      intro kept
      refine gone ?_
      show n ∈ (b.notify new).notices
      rw [notices]
      exact List.mem_cons_of_mem _ kept
    rw [← List.take_append_drop (b.center.capacity - 1) b.notices, List.mem_append] at there
    exact there.resolve_left beyond
  | dismiss id => exact .inl (congrArg Event.dismiss (dismissed gone).symm)
  | pass span => exact absurd there gone
  | ring =>
    refine .inr (.inr ⟨rfl, ?_⟩)
    cases taken : b.agenda.takeDue b.agenda.now with
    | none =>
      have still : b.step .ring = b := ring_of_rested (valid.rested_iff.mpr taken)
      rw [still] at gone
      exact absurd there gone
    | some first =>
      obtain ⟨alarm, rest⟩ := first
      obtain ⟨rings, other, listed, own, due, deadline, past⟩ := valid.ring_of_due taken
      have same : n.id = alarm.key := dismissed (rings ▸ gone)
      have equal : n = other :=
        List.inj_on_of_nodup_map valid.distinct there listed (same.trans own.symm)
      exact ⟨due, equal ▸ deadline, past⟩

/-- In every run in which what is due is done before anybody publishes or dismisses a notice, each
dismissal finds what it finds on a wall; and when all that is due is done, be it at once or after as
many rings as there are alarms, the board shows what the wall shows, and no notice whose time has
come. In every run, a notice goes for no other reason than a dismissal, newer notices, or its
time. -/
theorem run_shown (s : NoticeSettings) (events : List Event)
    (prompt : (ofSettings s).Prompt events) :
    let b := (ofSettings s).run events
    let w := (Wall.ofSettings s).run events
    let rung := b.run (.replicate b.agenda.alarms.length .ring)
    (ofSettings s).answers events = (Wall.ofSettings s).answers events ∧
    (b.Rested → b.notices = w.pins.map Pin.notice) ∧
    rung.Rested ∧ rung.notices = w.pins.map Pin.notice ∧
    (∀ n ∈ rung.notices, ∀ due, n.deadline = some due → b.agenda.now < due) ∧
    ∀ (earlier : List Event) (event : Event) (n : Notice),
      let b := (ofSettings s).run earlier
      n ∈ b.notices → n ∉ (b.step event).notices →
        event = .dismiss n.id ∨
        (∃ new, event = .notify new ∧ n ∈ b.notices.drop (max s.capacity 1 - 1)) ∨
        event = .ring ∧ ∃ due, n.deadline = some due ∧ due ≤ b.agenda.now := by
  intro b w rung
  have valid : b.Valid := run_valid (ofSettings_valid s) events
  have shown : Shown w b := (ofSettings_shown s).run (ofSettings_valid s) prompt
  have rungValid : rung.Valid := run_valid valid _
  have rungShown : Shown w rung := shown.rings valid _
  have rested : rung.Rested := valid.rested_of_rings (Nat.le_refl _)
  have notices {b : Board} (shown : Shown w b) (valid : b.Valid) (rested : b.Rested) :
      b.notices = w.pins.map Pin.notice := by
    rw [shown.pins_of_rested valid rested, List.map_map]
    exact (List.map_id _).symm
  refine ⟨(ofSettings_shown s).answers (ofSettings_valid s) prompt, notices shown valid, rested,
    notices rungShown rungValid rested, ?_, ?_⟩
  · intro n member due deadline
    have stays := rungValid.stays_of_rested rested n member
    rw [Notice.stays, deadline, ← rungShown.now, shown.now] at stays
    simpa using stays
  · intro earlier event n b there gone
    have valid : b.Valid := run_valid (ofSettings_valid s) earlier
    have capacity : b.center.capacity = max s.capacity 1 := run_capacity (ofSettings s) earlier
    rw [← capacity]
    exact valid.gone event there gone

/-- Two notices are pushed out, one of them with an alarm; one is dismissed twice, and one goes. -/
theorem run_shown_of_five :
    let s : NoticeSettings := { defaultDuration := 6000, capacity := 2 }
    let keep : NewNotice := { variant := .error, title := "keep", duration := .persistent }
    let short : NewNotice := { variant := .info, title := "short", duration := .milliseconds 100 }
    let usual : NewNotice := { variant := .info, title := "usual" }
    let events : List Event := [.notify short, .notify keep, .pass 50, .notify short,
      .pass 100, .ring, .notify keep, .dismiss (Center.noticeId 4), .dismiss (Center.noticeId 4),
      .notify usual, .pass 6000]
    let b := (ofSettings s).run events
    let w := (Wall.ofSettings s).run events
    (ofSettings s).Prompt events ∧
      (ofSettings s).answers events = (Wall.ofSettings s).answers events ∧
      (Wall.ofSettings s).answers events = [true, false] ∧
      b.notices.length = 2 ∧ w.pins.length = 1 ∧
      (b.run (.replicate b.agenda.alarms.length .ring)).notices = w.pins.map Pin.notice := by
  intro s keep short usual events b w
  have prompt : (ofSettings s).Prompt events := by decide +kernel
  obtain ⟨answers, -, -, rung, -⟩ := run_shown s events prompt
  exact ⟨prompt, answers, by decide +kernel, by decide +kernel, by decide +kernel, rung⟩

end Board

end Watchdesk
