import Watchdesk.Clock.Agenda
import Mathlib.Data.List.Perm.Basic

/-!
# Live timers

The keys of an agenda are its live timers: what was put on it, has not become due and was not
struck off. Each part of the desk keeps at most one timer at a time and remembers its key; the
lemmas here say what orders do to an agenda whose only key is a remembered one.
-/

namespace Watchdesk.Agenda

variable {κ : Type}

/-- The live timers, in the order in which they become due. -/
def keys (g : Agenda κ) : List κ := g.alarms.map Alarm.key

@[simp] theorem keys_empty : ({} : Agenda κ).keys = [] := rfl

/-- An agenda has as many live timers as alarms. -/
theorem length_keys (g : Agenda κ) : g.keys.length = g.alarms.length := by
  simp [keys]

theorem keys_eq_nil {g : Agenda κ} : g.keys = [] ↔ g.alarms = [] := by
  simp [keys]

/-- An agenda whose only live timer is a remembered one has at most one alarm. -/
theorem length_alarms_le_one {g : Agenda κ} {timer : Option κ} (held : g.keys = timer.toList) :
    g.alarms.length ≤ 1 := by
  rw [← length_keys, held]
  cases timer with
  | none => exact Nat.zero_le 1
  | some key => exact Nat.le_refl 1

/-- Placing an alarm adds it and keeps the others. -/
theorem place_perm (a : Alarm κ) (alarms : List (Alarm κ)) :
    (place a alarms).Perm (a :: alarms) := by
  induction alarms with
  | nil => exact List.Perm.refl _
  | cons b bs ih =>
    unfold place
    split
    · exact List.Perm.refl _
    · exact (ih.cons b).trans (List.Perm.swap a b bs)

/-- An alarm that does not stay leaves the others where they were. -/
theorem filter_place_of_neg {a : Alarm κ} {p : Alarm κ → Bool} (gone : p a = false)
    (alarms : List (Alarm κ)) : (place a alarms).filter p = alarms.filter p := by
  induction alarms with
  | nil => simp [place, gone]
  | cons b bs ih =>
    unfold place
    split
    · simp [gone]
    · rw [List.filter_cons, List.filter_cons, ih]

/-- Alarms stand in the order of their times. -/
def InOrder (alarms : List (Alarm κ)) : Prop :=
  alarms.Pairwise fun one later => one.due ≤ later.due

theorem place_inOrder (a : Alarm κ) {alarms : List (Alarm κ)} (ordered : InOrder alarms) :
    InOrder (place a alarms) := by
  induction alarms with
  | nil => exact List.pairwise_singleton _ a
  | cons b bs ih =>
    obtain ⟨first, rest⟩ := List.pairwise_cons.mp ordered
    unfold place
    split
    · next sooner =>
      refine List.pairwise_cons.mpr ⟨?_, ordered⟩
      intro later member
      rcases List.mem_cons.mp member with rfl | behind
      · exact Nat.le_of_lt sooner
      · exact Nat.le_trans (Nat.le_of_lt sooner) (first later behind)
    · next notSooner =>
      refine List.pairwise_cons.mpr ⟨?_, ih rest⟩
      intro later member
      rcases List.mem_cons.mp ((place_perm a bs).mem_iff.mp member) with rfl | behind
      · exact Nat.not_lt.mp notSooner
      · exact first later behind

theorem places_perm (placed alarms : List (Alarm κ)) :
    (placed.foldr place alarms).Perm (placed ++ alarms) := by
  induction placed with
  | nil => exact List.Perm.refl _
  | cons a placed ih => exact (place_perm a _).trans (ih.cons a)

theorem places_inOrder (placed : List (Alarm κ)) {alarms : List (Alarm κ)}
    (ordered : InOrder alarms) : InOrder (placed.foldr place alarms) := by
  induction placed with
  | nil => exact ordered
  | cons a placed ih => exact place_inOrder a ih

/-- Scheduling adds one live timer. -/
theorem keys_schedule_perm (g : Agenda κ) (key : κ) (delay : Nat) :
    (g.schedule key delay).keys.Perm (key :: g.keys) :=
  (place_perm ⟨key, g.now + delay⟩ g.alarms).map Alarm.key

/-- On an agenda without work, a new timer is the only one. -/
theorem keys_schedule_of_nil {g : Agenda κ} (empty : g.keys = []) (key : κ) (delay : Nat) :
    (g.schedule key delay).keys = [key] := by
  have added := g.keys_schedule_perm key delay
  rw [empty] at added
  exact List.perm_singleton.mp added

/-- The only work that is due is taken off, and leaves an agenda without work. -/
theorem takeDue_eq_some {g rest : Agenda κ} {time : Nat} {a : Alarm κ}
    (taken : g.takeDue time = some (a, rest)) :
    g.alarms = a :: rest.alarms ∧ a.due ≤ time ∧ rest.now = g.now := by
  unfold takeDue at taken
  split at taken
  · cases taken
  · next alarms =>
    split at taken
    · next due =>
      cases taken
      exact ⟨alarms, due, rfl⟩
    · cases taken

/-- If nothing can be taken off, nothing that stands there is due. -/
theorem lt_due_of_takeDue {g : Agenda κ} {time : Nat} (ordered : InOrder g.alarms)
    (resting : g.takeDue time = none) : ∀ a ∈ g.alarms, time < a.due := by
  unfold takeDue at resting
  split at resting
  · next empty =>
    rw [empty]
    exact fun a member => absurd member List.not_mem_nil
  · next first rest alarms =>
    rw [alarms] at ordered ⊢
    split at resting
    · cases resting
    · next notDue =>
      intro a member
      rcases List.mem_cons.mp member with rfl | behind
      · exact Nat.not_le.mp notDue
      · have later := (List.pairwise_cons.mp ordered).1 a behind
        omega

theorem keys_of_takeDue {g rest : Agenda κ} {time : Nat} {a : Alarm κ}
    (taken : g.takeDue time = some (a, rest)) : g.keys = a.key :: rest.keys := by
  simp [keys, (takeDue_eq_some taken).1]

variable [DecidableEq κ]

@[simp] theorem obeyAll_nil (g : Agenda κ) : g.obeyAll [] = g := rfl

@[simp] theorem obeyAll_cons (g : Agenda κ) (order : Order κ) (orders : List (Order κ)) :
    g.obeyAll (order :: orders) = (g.obey order).obeyAll orders := rfl

theorem obeyAll_append (g : Agenda κ) (first second : List (Order κ)) :
    g.obeyAll (first ++ second) = (g.obeyAll first).obeyAll second :=
  List.foldl_append

theorem obeyAll_inOrder {g : Agenda κ} (ordered : InOrder g.alarms) (orders : List (Order κ)) :
    InOrder (g.obeyAll orders).alarms := by
  induction orders generalizing g with
  | nil => exact ordered
  | cons order orders ih =>
    refine ih ?_
    cases order with
    | schedule key delay => exact place_inOrder _ ordered
    | cancel key => exact ordered.filter _

/-- Orders take no time. -/
theorem obeyAll_now (g : Agenda κ) (orders : List (Order κ)) : (g.obeyAll orders).now = g.now := by
  induction orders generalizing g with
  | nil => rfl
  | cons order orders ih =>
    rw [obeyAll_cons, ih]
    cases order <;> rfl

@[simp] theorem keys_cancel (g : Agenda κ) (key : κ) :
    (g.cancel key).keys = g.keys.filter (· ≠ key) := by
  simp [keys, cancel, List.filter_map, Function.comp_def]

/-- Striking off the remembered timer leaves none. -/
theorem keys_release {g : Agenda κ} {timer : Option κ} (held : g.keys = timer.toList) :
    (g.obeyAll (timer.toList.map Order.cancel)).keys = [] := by
  cases timer with
  | none => simpa using held
  | some key => simp [obey, held]

/-- A new alarm in place of the remembered one is the only one left. -/
theorem alarms_replace {g : Agenda κ} {timer : Option κ} {key : κ} (delay : Nat)
    (held : g.keys = timer.toList) (fresh : ∀ old ∈ timer, old ≠ key) :
    (g.obeyAll (.schedule key delay :: timer.toList.map Order.cancel)).alarms =
      [⟨key, g.now + delay⟩] := by
  cases timer with
  | none =>
    have empty : g.alarms = [] := keys_eq_nil.mp held
    simp [obey, schedule, empty, place]
  | some old =>
    obtain ⟨a, alarms, own⟩ := List.map_eq_singleton_iff.mp held
    have different : key ≠ old := (fresh old rfl).symm
    have placed := (place_perm ⟨key, g.now + delay⟩ g.alarms).filter fun a => a.key ≠ old
    rw [alarms] at placed
    have left : ([⟨key, g.now + delay⟩, a].filter fun a : Alarm κ => a.key ≠ old) =
        [⟨key, g.now + delay⟩] := by
      simp [different, own]
    rw [left] at placed
    have single := List.perm_singleton.mp placed
    simpa [obey, schedule, cancel, alarms] using single

/-! ## Timers that are struck off again -/

theorem obeyAll_cancel (g : Agenda κ) (keys : List κ) :
    g.obeyAll (keys.map .cancel) =
      { g with alarms := g.alarms.filter fun a => decide (a.key ∉ keys) } := by
  induction keys generalizing g with
  | nil => simp
  | cons key keys ih =>
    rw [List.map_cons, obeyAll_cons, ih]
    simp only [obey, cancel, List.filter_filter, Agenda.mk.injEq, true_and]
    apply List.filter_congr
    intro a member
    simp [Bool.and_comm]

theorem filter_obeyAll_schedule (g : Agenda κ) (delay : Nat) {more keys : List κ}
    (among : ∀ key ∈ more, key ∈ keys) :
    (g.obeyAll (more.map (.schedule · delay))).alarms.filter (fun a => decide (a.key ∉ keys)) =
      g.alarms.filter fun a => decide (a.key ∉ keys) := by
  induction more generalizing g with
  | nil => rfl
  | cons key more ih =>
    have later := ih (g.obey (.schedule key delay)) fun key member =>
      among key (List.mem_cons_of_mem _ member)
    rw [List.map_cons, obeyAll_cons, later]
    apply filter_place_of_neg
    simp [among key List.mem_cons_self]

/-- Timers that are struck off as soon as they are there leave nothing behind. -/
theorem obeyAll_withdraw (g : Agenda κ) (delay : Nat) {keys : List κ}
    (fresh : ∀ key ∈ keys, key ∉ g.keys) :
    (g.obeyAll (keys.map (.schedule · delay))).obeyAll (keys.map .cancel) = g := by
  have left : g.alarms.filter (fun a => decide (a.key ∉ keys)) = g.alarms := by
    apply List.filter_eq_self.mpr
    intro a member
    have other : a.key ∉ keys := fun own => fresh a.key own (List.mem_map_of_mem member)
    simp [other]
  rw [obeyAll_cancel, obeyAll_now, filter_obeyAll_schedule g delay fun key member => member, left]

end Watchdesk.Agenda
