import Watchdesk.Notice.Center
import Watchdesk.Proofs.Clock.Timers
import Watchdesk.Proofs.Text.Numerals
import Mathlib.Data.List.Perm.Basic
import Mathlib.Data.List.Nodup

/-!
# Notices on a board

A board is a list of notices with an agenda of its own: notices are published and dismissed, time
passes, and what is due on the agenda is done. In every run the alarms on the agenda are those of
the notices on the list, and no two notices have the same id.
-/

namespace Watchdesk

/-- No two notices get the same id. -/
theorem Center.noticeId_injective : Function.Injective Center.noticeId := by
  intro m n same
  have texts := String.ofList_injective same
  have digits := List.append_cancel_left texts
  rw [← Text.hexValue_hex 12 m, digits, Text.hexValue_hex]

/-- When a notice is to be removed. -/
def Notice.deadline (n : Notice) : Option Nat := n.duration.map (n.createdAt.toNat + ·)

/-- The alarm that removes a notice. -/
def Notice.alarm (n : Notice) : Option (Alarm String) := n.deadline.map (⟨n.id, ·⟩)

theorem Notice.key_of_alarm {n : Notice} {a : Alarm String} (own : n.alarm = some a) :
    a.key = n.id := by
  obtain ⟨due, -, rfl⟩ := Option.map_eq_some_iff.mp own
  rfl

namespace Center

variable {c : Center} {g : Agenda String} {notices : List Notice}

/-! ## What the orders of a list come to -/

theorem disarm_center (c : Center) (id : String) :
    (c.disarm id).1 = { c with timers := c.timers.filter (· ≠ id) } := by
  unfold disarm
  split
  · rfl
  · next absent =>
    have kept : c.timers.filter (· ≠ id) = c.timers := by
      rw [List.filter_eq_self]
      intro other member
      have different : other ≠ id := fun same => absent (same ▸ member)
      simpa using different
    rw [kept]

/-- Whatever the list knows to be there is struck off. -/
theorem obeyAll_disarm (tied : ∀ key ∈ g.keys, key ∈ c.timers) (id : String) :
    g.obeyAll (c.disarm id).2 = g.cancel id := by
  unfold disarm
  split
  · rfl
  · next absent =>
    have kept : g.alarms.filter (fun a => a.key ≠ id) = g.alarms := by
      rw [List.filter_eq_self]
      intro a member
      have different : a.key ≠ id := fun same =>
        absent (same ▸ tied a.key (List.mem_map_of_mem member))
      simpa using different
    rw [Agenda.cancel, kept]
    rfl

theorem evict_center (c : Center) (evicted : List Notice) :
    (c.evict evicted).1 =
      { c with timers := c.timers.filter fun id => id ∉ evicted.map Notice.id } := by
  induction evicted with
  | nil => simp [evict]
  | cons n evicted ih =>
    show ((c.evict evicted).1.disarm n.id).1 = _
    rw [disarm_center, ih]
    simp [List.filter_filter]

theorem obeyAll_evict (tied : ∀ key ∈ g.keys, key ∈ c.timers) (evicted : List Notice) :
    g.obeyAll (c.evict evicted).2 =
      { g with alarms := g.alarms.filter fun a => a.key ∉ evicted.map Notice.id } := by
  induction evicted with
  | nil => simp [evict]
  | cons n evicted ih =>
    show g.obeyAll ((c.evict evicted).2 ++ ((c.evict evicted).1.disarm n.id).2) = _
    rw [Agenda.obeyAll_append, ih, obeyAll_disarm]
    · simp [Agenda.cancel, List.filter_filter]
    · intro key member
      rw [evict_center]
      obtain ⟨a, left, rfl⟩ := List.mem_map.mp member
      obtain ⟨there, own⟩ := List.mem_filter.mp left
      exact List.mem_filter.mpr ⟨tied a.key (List.mem_map_of_mem there), own⟩

/-- The notice that is published. -/
def fresh (c : Center) (now : Nat) (n : NewNotice) : Notice where
  id := noticeId (c.issued + 1)
  title := n.title
  description := n.description
  variant := n.variant
  duration := c.lifetime n.duration
  createdAt := now

theorem fresh_alarm (c : Center) (now : Nat) (n : NewNotice) :
    (c.fresh now n).alarm =
      (c.lifetime n.duration).map fun delay => ⟨noticeId (c.issued + 1), now + delay⟩ := by
  unfold Notice.alarm Notice.deadline fresh
  cases c.lifetime n.duration <;> rfl

/-- The ids of the notices that a new one pushes out. -/
def pushedOut (c : Center) (now : Nat) (n : NewNotice) : List String :=
  ((c.fresh now n :: c.notices).drop c.capacity).map Notice.id

/-- The list with a new notice, before anything is struck off. -/
def listed (c : Center) (now : Nat) (n : NewNotice) : Center :=
  { c with notices := (c.fresh now n :: c.notices).take c.capacity, issued := c.issued + 1 }

/-- A list publishes in two steps: it pushes notices out, and sets up the removal of the new one. -/
theorem publish_eq (c : Center) (now : Nat) (n : NewNotice) :
    (c.publish now n).2 =
      let left := (c.listed now n).evict ((c.fresh now n :: c.notices).drop c.capacity)
      match c.lifetime n.duration with
      | none => left
      | some delay =>
        ({ left.1 with timers := left.1.timers ++ [noticeId (c.issued + 1)] },
          left.2 ++ [Order.schedule (noticeId (c.issued + 1)) delay]) := by
  have folded : (c.publish now n).2 = (match c.lifetime n.duration with
      | none => (noticeId (c.issued + 1),
        (c.listed now n).evict ((c.fresh now n :: c.notices).drop c.capacity))
      | some delay =>
        let left := (c.listed now n).evict ((c.fresh now n :: c.notices).drop c.capacity)
        (noticeId (c.issued + 1),
          { left.1 with timers := left.1.timers ++ [noticeId (c.issued + 1)] },
          left.2 ++ [Order.schedule (noticeId (c.issued + 1)) delay])).2 := rfl
  rw [folded]
  cases c.lifetime n.duration with
  | none => rfl
  | some delay => rfl

theorem publish_center (c : Center) (now : Nat) (n : NewNotice) :
    (c.publish now n).2.1 =
      { c with
        notices := (c.fresh now n :: c.notices).take c.capacity
        issued := c.issued + 1
        timers := c.timers.filter (· ∉ c.pushedOut now n) ++
          ((c.fresh now n).alarm.map Alarm.key).toList } := by
  rw [publish_eq, fresh_alarm]
  cases c.lifetime n.duration with
  | none =>
    dsimp only
    rw [evict_center, Option.map_none, Option.map_none, Option.toList_none, List.append_nil]
    rfl
  | some delay =>
    dsimp only
    rw [evict_center]
    rfl

theorem obeyAll_publish (tied : ∀ key ∈ g.keys, key ∈ c.timers) (n : NewNotice) :
    g.obeyAll (c.publish g.now n).2.2 =
      { g with
        alarms := ((c.fresh g.now n).alarm.toList).foldr Agenda.place
          (g.alarms.filter fun a => a.key ∉ c.pushedOut g.now n) } := by
  have struck : g.obeyAll ((c.listed g.now n).evict
      ((c.fresh g.now n :: c.notices).drop c.capacity)).2 =
        { g with alarms := g.alarms.filter fun a => a.key ∉ c.pushedOut g.now n } :=
    obeyAll_evict (c := c.listed g.now n) tied _
  rw [publish_eq, fresh_alarm]
  cases c.lifetime n.duration with
  | none => exact struck
  | some delay =>
    dsimp only
    rw [Agenda.obeyAll_append, struck]
    rfl

theorem dismiss_eq (c : Center) (id : String) :
    c.dismiss id =
      ((c.notices.filter fun n => n.id ≠ id).length != c.notices.length,
        { c with
          notices := c.notices.filter fun n => n.id ≠ id
          timers := c.timers.filter (· ≠ id) }, (c.disarm id).2) := by
  unfold dismiss
  dsimp only
  rw [disarm_center]

end Center

/-- A list of notices, and an agenda that it has for itself. -/
structure Board where
  center : Center
  agenda : Agenda String := {}

namespace Board

/-- A board on which nothing has been published. -/
def ofSettings (s : NoticeSettings) : Board := { center := .ofSettings s }

/-- The notices, newest first. -/
def notices (b : Board) : List Notice := b.center.notices

/-- Publish a notice. -/
def notify (b : Board) (n : NewNotice) : Board :=
  let (_, center, orders) := b.center.publish b.agenda.now n
  { center, agenda := b.agenda.obeyAll orders }

/-- Remove a notice: whether it was there. -/
def dismiss (b : Board) (id : String) : Bool × Board :=
  let (found, center, orders) := b.center.dismiss id
  (found, { center, agenda := b.agenda.obeyAll orders })

/-- Do the first work on the agenda if it is due. -/
def ring (b : Board) : Board :=
  match b.agenda.takeDue b.agenda.now with
  | none => b
  | some (alarm, agenda) => ({ b with agenda }.dismiss alarm.key).2

/-- What may happen to a board. -/
inductive Event where
  | notify (n : NewNotice)
  | dismiss (id : String)
  /-- Time passes. -/
  | pass (span : Nat)
  /-- The first work on the agenda is done if it is due. -/
  | ring
deriving DecidableEq, Repr

/-- What becomes of a board. -/
def step (b : Board) : Event → Board
  | .notify n => b.notify n
  | .dismiss id => (b.dismiss id).2
  | .pass span => { b with agenda := { b.agenda with now := b.agenda.now + span } }
  | .ring => b.ring

/-- What becomes of a board in the course of events. -/
def run (b : Board) (events : List Event) : Board := events.foldl step b

@[simp] theorem run_nil (b : Board) : b.run [] = b := rfl

@[simp] theorem run_cons (b : Board) (event : Event) (events : List Event) :
    b.run (event :: events) = (b.step event).run events := rfl

theorem run_append (b : Board) (first second : List Event) :
    b.run (first ++ second) = (b.run first).run second :=
  List.foldl_append

/-- The alarms of a board are those of its notices, no two of which have the same id. -/
structure Valid (b : Board) : Prop where
  room : 0 < b.center.capacity
  few : b.notices.length ≤ b.center.capacity
  numbered : ∀ n ∈ b.notices, ∃ number ≤ b.center.issued, n.id = Center.noticeId number
  distinct : (b.notices.map Notice.id).Nodup
  timers : b.center.timers.Perm b.agenda.keys
  alarms : b.agenda.alarms.Perm (b.notices.filterMap Notice.alarm)
  ordered : Agenda.InOrder b.agenda.alarms

variable {b : Board}

theorem ofSettings_valid (s : NoticeSettings) : (ofSettings s).Valid where
  room := Nat.le_max_right _ _
  few := Nat.zero_le _
  numbered := fun _ member => absurd member List.not_mem_nil
  distinct := List.nodup_nil
  timers := List.Perm.refl _
  alarms := List.Perm.refl _
  ordered := List.Pairwise.nil

theorem Valid.tied (valid : b.Valid) : ∀ key ∈ b.agenda.keys, key ∈ b.center.timers :=
  fun _ member => valid.timers.mem_iff.mpr member

/-- A choice among the ids chooses the same notices and alarms. -/
theorem filter_alarms (chosen : String → Bool) (notices : List Notice) :
    (notices.filterMap Notice.alarm).filter (fun a => chosen a.key) =
      (notices.filter fun n => chosen n.id).filterMap Notice.alarm := by
  rw [List.filter_filterMap, List.filterMap_filter]
  apply List.filterMap_congr
  intro n _
  cases own : n.alarm with
  | none => simp
  | some a => simp [Option.filter, Notice.key_of_alarm own]

/-- What is left beside the last notices are the first ones. -/
theorem filter_drop {notices : List Notice} (distinct : (notices.map Notice.id).Nodup)
    (count : Nat) :
    notices.filter (fun n => n.id ∉ (notices.drop count).map Notice.id) = notices.take count := by
  have parts : (notices.take count).map Notice.id ++ (notices.drop count).map Notice.id =
      notices.map Notice.id := by
    rw [← List.map_append, List.take_append_drop]
  rw [← parts, List.nodup_append] at distinct
  obtain ⟨-, -, apart⟩ := distinct
  calc notices.filter (fun n => n.id ∉ (notices.drop count).map Notice.id)
    _ = (notices.take count ++ notices.drop count).filter
          fun n => n.id ∉ (notices.drop count).map Notice.id := by rw [List.take_append_drop]
    _ = notices.take count ++ [] := by
      rw [List.filter_append]
      congr 1
      · rw [List.filter_eq_self]
        intro n member
        have other : n.id ∉ (notices.drop count).map Notice.id := fun later =>
          apart n.id (List.mem_map_of_mem member) n.id later rfl
        simpa using other
      · rw [List.filter_eq_nil_iff]
        intro n member
        have own : n.id ∈ (notices.drop count).map Notice.id := List.mem_map_of_mem member
        simpa using own
    _ = notices.take count := List.append_nil _

theorem Valid.dismiss_agenda (valid : b.Valid) (id : String) :
    (b.dismiss id).2.agenda = b.agenda.cancel id := by
  show b.agenda.obeyAll (b.center.dismiss id).2.2 = _
  rw [Center.dismiss_eq]
  exact Center.obeyAll_disarm valid.tied id

theorem dismiss_center (b : Board) (id : String) :
    (b.dismiss id).2.center =
      { b.center with
        notices := b.notices.filter fun n => n.id ≠ id
        timers := b.center.timers.filter (· ≠ id) } := by
  show (b.center.dismiss id).2.1 = _
  rw [Center.dismiss_eq]
  rfl

theorem dismiss_notices (b : Board) (id : String) :
    (b.dismiss id).2.notices = b.notices.filter fun n => n.id ≠ id :=
  congrArg Center.notices (b.dismiss_center id)

theorem dismiss_valid (valid : b.Valid) (id : String) : (b.dismiss id).2.Valid where
  room := by
    rw [dismiss_center]
    exact valid.room
  few := by
    rw [dismiss_notices, dismiss_center]
    exact Nat.le_trans (List.length_filter_le _ _) valid.few
  numbered := by
    rw [dismiss_notices, dismiss_center]
    intro n member
    exact valid.numbered n (List.mem_of_mem_filter member)
  distinct := by
    rw [dismiss_notices]
    exact valid.distinct.sublist (List.filter_sublist.map _)
  timers := by
    rw [dismiss_center, valid.dismiss_agenda, Agenda.keys_cancel]
    exact valid.timers.filter _
  alarms := by
    have chosen := filter_alarms (· ≠ id) b.notices
    rw [dismiss_notices, valid.dismiss_agenda]
    exact chosen ▸ valid.alarms.filter _
  ordered := by
    rw [valid.dismiss_agenda]
    exact valid.ordered.filter _

theorem notify_center (b : Board) (n : NewNotice) :
    (b.notify n).center =
      { b.center with
        notices := (b.center.fresh b.agenda.now n :: b.notices).take b.center.capacity
        issued := b.center.issued + 1
        timers := b.center.timers.filter (· ∉ b.center.pushedOut b.agenda.now n) ++
          ((b.center.fresh b.agenda.now n).alarm.map Alarm.key).toList } :=
  b.center.publish_center b.agenda.now n

theorem Valid.notify_agenda (valid : b.Valid) (n : NewNotice) :
    (b.notify n).agenda =
      { b.agenda with
        alarms := (b.center.fresh b.agenda.now n).alarm.toList.foldr Agenda.place
          (b.agenda.alarms.filter fun a => a.key ∉ b.center.pushedOut b.agenda.now n) } :=
  Center.obeyAll_publish valid.tied n

/-- There is room for the new notice, in front of all that stay. -/
theorem notify_notices (room : 0 < b.center.capacity) (n : NewNotice) :
    (b.notify n).notices =
      b.center.fresh b.agenda.now n :: b.notices.take (b.center.capacity - 1) := by
  rw [notices, notify_center]
  exact List.take_cons room

theorem pushedOut_eq (room : 0 < b.center.capacity) (n : NewNotice) :
    b.center.pushedOut b.agenda.now n = (b.notices.drop (b.center.capacity - 1)).map Notice.id := by
  unfold Center.pushedOut
  rw [List.drop_cons room]
  rfl

/-- The alarms that a new notice leaves are those of the notices that stay, and its own. -/
theorem Valid.notify_alarms (valid : b.Valid) (n : NewNotice) :
    (b.notify n).agenda.alarms.Perm ((b.notify n).notices.filterMap Notice.alarm) := by
  have alarms (first : Notice) (others : List Notice) :
      (first :: others).filterMap Notice.alarm =
        first.alarm.toList ++ others.filterMap Notice.alarm := by
    rw [List.filterMap_cons]
    cases first.alarm <;> rfl
  have chosen := filter_alarms (· ∉ (b.notices.drop (b.center.capacity - 1)).map Notice.id)
    b.notices
  rw [filter_drop valid.distinct, ← pushedOut_eq valid.room] at chosen
  have kept := valid.alarms.filter fun a => a.key ∉ b.center.pushedOut b.agenda.now n
  rw [chosen] at kept
  rw [notify_notices valid.room, valid.notify_agenda, alarms]
  exact (Agenda.places_perm _ _).trans (kept.append_left _)

theorem Valid.notify_timers (valid : b.Valid) (n : NewNotice) :
    (b.notify n).center.timers.Perm (b.notify n).agenda.keys := by
  let out := b.center.pushedOut b.agenda.now n
  have keys : (b.agenda.alarms.filter fun a => a.key ∉ out).map Alarm.key =
      b.agenda.keys.filter (· ∉ out) := by
    rw [Agenda.keys, List.filter_map]
    rfl
  have placed := (Agenda.places_perm (b.center.fresh b.agenda.now n).alarm.toList
    (b.agenda.alarms.filter fun a => a.key ∉ out)).map Alarm.key
  rw [List.map_append, keys, ← Option.toList_map] at placed
  have kept := valid.timers.filter (· ∉ out)
  rw [notify_center, valid.notify_agenda]
  exact ((kept.append_right _).trans List.perm_append_comm).trans placed.symm

/-- The new notice has a number that no other one has. -/
theorem Valid.fresh_id (valid : b.Valid) (n : NewNotice) :
    (b.center.fresh b.agenda.now n).id ∉ b.notices.map Notice.id := by
  intro member
  obtain ⟨other, earlier, same⟩ := List.mem_map.mp member
  obtain ⟨number, issued, own⟩ := valid.numbered other earlier
  have equal : number = b.center.issued + 1 := Center.noticeId_injective (own.symm.trans same)
  omega

theorem notify_valid (valid : b.Valid) (n : NewNotice) : (b.notify n).Valid where
  room := by
    rw [notify_center]
    exact valid.room
  few := by
    rw [notices, notify_center]
    exact List.length_take_le _ _
  numbered := by
    rw [notify_notices valid.room, notify_center]
    intro other member
    rcases List.mem_cons.mp member with rfl | earlier
    · exact ⟨_, Nat.le_refl _, rfl⟩
    · obtain ⟨number, issued, own⟩ := valid.numbered other (List.mem_of_mem_take earlier)
      exact ⟨number, Nat.le_succ_of_le issued, own⟩
  distinct := by
    have stay : ((b.notices.take (b.center.capacity - 1)).map Notice.id).Sublist
        (b.notices.map Notice.id) := (List.take_sublist _ _).map _
    rw [notify_notices valid.room, List.map_cons, List.nodup_cons]
    exact ⟨fun member => valid.fresh_id n (stay.subset member), valid.distinct.sublist stay⟩
  timers := valid.notify_timers n
  alarms := valid.notify_alarms n
  ordered := by
    rw [valid.notify_agenda]
    exact Agenda.places_inOrder _ (valid.ordered.filter _)

/-- What is due on the agenda of a valid board is the removal of a notice on the list, and a
removal is a dismissal. -/
theorem Valid.ring_of_due (valid : b.Valid) {alarm : Alarm String} {rest : Agenda String}
    (taken : b.agenda.takeDue b.agenda.now = some (alarm, rest)) :
    b.ring = (b.dismiss alarm.key).2 ∧
      ∃ n ∈ b.notices, n.id = alarm.key ∧ ∃ due, n.deadline = some due ∧ due ≤ b.agenda.now := by
  obtain ⟨alarms, due, now⟩ := Agenda.takeDue_eq_some taken
  have member : alarm ∈ b.notices.filterMap Notice.alarm :=
    valid.alarms.mem_iff.mp (alarms ▸ List.mem_cons_self)
  obtain ⟨n, listed, own⟩ := List.mem_filterMap.mp member
  obtain ⟨time, deadline, same⟩ := Option.map_eq_some_iff.mp own
  refine ⟨?_, n, listed, (Notice.key_of_alarm own).symm, time, deadline, ?_⟩
  · have tied : ∀ key ∈ rest.keys, key ∈ b.center.timers := by
      intro key left
      refine valid.tied key ?_
      rw [Agenda.keys_of_takeDue taken]
      exact List.mem_cons_of_mem _ left
    have struck : rest.cancel alarm.key = b.agenda.cancel alarm.key := by
      simp [Agenda.cancel, alarms, now]
    have agenda : ({ b with agenda := rest }.dismiss alarm.key).2.agenda =
        (b.dismiss alarm.key).2.agenda := by
      rw [valid.dismiss_agenda, ← struck]
      show rest.obeyAll (b.center.dismiss alarm.key).2.2 = _
      rw [Center.dismiss_eq]
      exact Center.obeyAll_disarm tied alarm.key
    unfold ring
    rw [taken]
    show Board.mk _ _ = Board.mk _ _
    exact congrArg (Board.mk _) agenda
  · rw [← same] at due
    exact due

theorem ring_valid (valid : b.Valid) : b.ring.Valid := by
  cases taken : b.agenda.takeDue b.agenda.now with
  | none =>
    unfold ring
    rw [taken]
    exact valid
  | some first =>
    obtain ⟨alarm, rest⟩ := first
    rw [(valid.ring_of_due taken).1]
    exact dismiss_valid valid alarm.key

theorem step_valid (valid : b.Valid) (event : Event) : (b.step event).Valid := by
  cases event with
  | notify n => exact notify_valid valid n
  | dismiss id => exact dismiss_valid valid id
  | pass span => exact { valid with }
  | ring => exact ring_valid valid

theorem step_capacity (b : Board) (event : Event) :
    (b.step event).center.capacity = b.center.capacity := by
  have dismissed (b : Board) (id : String) :
      (b.dismiss id).2.center.capacity = b.center.capacity := by
    rw [dismiss_center]
  cases event with
  | notify n =>
    show (b.notify n).center.capacity = _
    rw [notify_center]
  | dismiss id => exact dismissed b id
  | pass span => rfl
  | ring =>
    show b.ring.center.capacity = _
    unfold ring
    split
    · rfl
    · exact dismissed _ _

theorem run_capacity (b : Board) (events : List Event) :
    (b.run events).center.capacity = b.center.capacity := by
  induction events generalizing b with
  | nil => rfl
  | cons event events ih => exact (ih (b.step event)).trans (step_capacity b event)

theorem run_valid (valid : b.Valid) (events : List Event) : (b.run events).Valid := by
  induction events generalizing b with
  | nil => exact valid
  | cons event events ih => exact ih (step_valid valid event)

end Board

end Watchdesk
