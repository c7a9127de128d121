import Watchdesk.Proofs.Notice.Board

/-!
# Timers of notices

The list of notices keeps the ids of the notices whose removal is on the agenda. However notices
are published, dismissed, pushed out and run out, these are the ids of the notices on the list that
have a duration, and there is one alarm for each of them. So no alarm is left for a notice that is
gone, and to dismiss a notice that is not on the list changes nothing.
-/

namespace Watchdesk

/-- The notice goes by itself, after a while. -/
def Notice.expires (n : Notice) : Bool := n.duration.isSome

theorem Notice.key_alarm (n : Notice) :
    n.alarm.map Alarm.key = if n.expires then some n.id else none := by
  unfold Notice.alarm Notice.deadline Notice.expires
  cases n.duration <;> rfl

/-- The alarms of notices have the ids of those that go by themselves. -/
theorem Notice.keys_alarms (notices : List Notice) :
    (notices.filterMap Notice.alarm).map Alarm.key =
      (notices.filter Notice.expires).map Notice.id := by
  induction notices with
  | nil => rfl
  | cons n notices ih =>
    have own := n.key_alarm
    rw [List.filterMap_cons, List.filter_cons]
    cases alarm : n.alarm with
    | none =>
      rw [alarm] at own
      by_cases expires : n.expires = true
      · simp [expires] at own
      · simpa [expires] using ih
    | some a =>
      rw [alarm] at own
      by_cases expires : n.expires = true
      · simp only [expires, if_true, Option.map_some, Option.some.injEq] at own
        simp [expires, own, ih]
      · simp [expires] at own

namespace Board

variable {b : Board}

/-! ## A valid board -/

theorem Valid.keys (valid : b.Valid) :
    b.agenda.keys.Perm ((b.notices.filter Notice.expires).map Notice.id) := by
  have keys := valid.alarms.map Alarm.key
  rw [Notice.keys_alarms] at keys
  exact keys

theorem Valid.timers_perm (valid : b.Valid) :
    b.center.timers.Perm ((b.notices.filter Notice.expires).map Notice.id) :=
  valid.timers.trans valid.keys

theorem Valid.timers_nodup (valid : b.Valid) : b.center.timers.Nodup := by
  have chosen : ((b.notices.filter Notice.expires).map Notice.id).Sublist
      (b.notices.map Notice.id) := List.filter_sublist.map _
  exact valid.timers_perm.nodup_iff.mpr (valid.distinct.sublist chosen)

theorem Valid.mem_timers (valid : b.Valid) (id : String) :
    id ∈ b.center.timers ↔ ∃ n ∈ b.notices, n.id = id ∧ n.expires = true := by
  rw [valid.timers_perm.mem_iff, List.mem_map]
  constructor
  · rintro ⟨n, chosen, own⟩
    obtain ⟨listed, expires⟩ := List.mem_filter.mp chosen
    exact ⟨n, listed, own, expires⟩
  · rintro ⟨n, listed, own, expires⟩
    exact ⟨n, List.mem_filter.mpr ⟨listed, expires⟩, own⟩

/-- Each alarm rings when the notice is to go whose removal it is. -/
theorem Valid.alarm_listed (valid : b.Valid) :
    ∀ alarm ∈ b.agenda.alarms, ∃ n ∈ b.notices, n.id = alarm.key ∧ n.deadline = some alarm.due := by
  intro alarm member
  obtain ⟨n, listed, own⟩ := List.mem_filterMap.mp (valid.alarms.mem_iff.mp member)
  obtain ⟨due, deadline, rfl⟩ := Option.map_eq_some_iff.mp own
  exact ⟨n, listed, rfl, deadline⟩

/-- What is not on the list has no alarm either, so there is nothing to dismiss. -/
theorem Valid.dismiss_absent (valid : b.Valid) {id : String}
    (absent : id ∉ b.notices.map Notice.id) : b.dismiss id = (false, b) := by
  have notices : b.center.notices.filter (fun n => n.id ≠ id) = b.center.notices := by
    rw [List.filter_eq_self]
    intro n listed
    have different : n.id ≠ id := fun same => absent (same ▸ List.mem_map_of_mem listed)
    simpa using different
  have untimed : id ∉ b.center.timers := by
    intro member
    obtain ⟨n, listed, rfl, -⟩ := (valid.mem_timers id).mp member
    exact absent (List.mem_map_of_mem listed)
  have struck : (b.center.disarm id) = (b.center, []) := if_neg untimed
  unfold dismiss Center.dismiss
  rw [struck]
  dsimp only
  rw [notices, bne_self_eq_false, Agenda.obeyAll_nil]

/-! ## Every run -/

/-- In every run the timers are those of the notices on the list that have a duration, each with
one alarm, at the time at which its notice is to go. The list is never longer than it may be, its
ids are distinct, and to dismiss what is not on it does nothing. What rings is the removal of a
notice that is there and whose time has come. -/
theorem run_timers (s : NoticeSettings) (events : List Event) :
    let b := (ofSettings s).run events
    (∀ id, id ∈ b.center.timers ↔ ∃ n ∈ b.notices, n.id = id ∧ n.duration.isSome = true) ∧
      b.center.timers.Nodup ∧
      b.center.timers.length = (b.notices.filter fun n => n.duration.isSome).length ∧
      b.agenda.keys.Perm b.center.timers ∧
      (∀ alarm ∈ b.agenda.alarms,
        ∃ n ∈ b.notices, n.id = alarm.key ∧ n.deadline = some alarm.due) ∧
      b.notices.length ≤ max s.capacity 1 ∧
      (b.notices.map Notice.id).Nodup ∧
      (∀ id ∉ b.notices.map Notice.id, b.dismiss id = (false, b)) ∧
      ∀ alarm rest, b.agenda.takeDue b.agenda.now = some (alarm, rest) →
        b.ring = (b.dismiss alarm.key).2 ∧
          ∃ n ∈ b.notices, n.id = alarm.key ∧
            ∃ due, n.deadline = some due ∧ due ≤ b.agenda.now := by
  intro b
  have valid : b.Valid := run_valid (ofSettings_valid s) events
  have capacity : b.center.capacity = max s.capacity 1 := run_capacity (ofSettings s) events
  refine ⟨valid.mem_timers, valid.timers_nodup, ?_, valid.timers.symm, valid.alarm_listed, ?_,
    valid.distinct, fun id => valid.dismiss_absent, fun alarm rest => valid.ring_of_due⟩
  · rw [valid.timers_perm.length_eq, List.length_map]
    rfl
  · rw [← capacity]
    exact valid.few

end Board

end Watchdesk
