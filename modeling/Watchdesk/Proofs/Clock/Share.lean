import Watchdesk.Proofs.Clock.Timers
import Mathlib.Logic.Function.Basic

/-!
# Shares of an agenda

The parts of a desk share one agenda, each under keys of its own kind. An order that a part gives
changes the part's share as it would change an agenda that the part has for itself, and changes no
other share.
-/

namespace Watchdesk.Agenda

variable {κ ι : Type} {part : κ → Option ι}

/-- What stands among alarms under the keys that a part takes for its own. -/
def share (part : κ → Option ι) (alarms : List (Alarm κ)) : List (Alarm ι) :=
  alarms.filterMap fun a => (part a.key).map fun key => ⟨key, a.due⟩

/-- An agenda of a part's own shows the part's share of a whole one, and the time. -/
structure Mirrors (part : κ → Option ι) (own : Agenda ι) (whole : Agenda κ) : Prop where
  now : own.now = whole.now
  alarms : own.alarms.Perm (share part whole.alarms)

theorem share_cons_own {a : Alarm κ} {key : ι} (reads : part a.key = some key)
    (alarms : List (Alarm κ)) :
    share part (a :: alarms) = ⟨key, a.due⟩ :: share part alarms := by
  simp [share, reads]

theorem share_cons_foreign {a : Alarm κ} (foreign : part a.key = none)
    (alarms : List (Alarm κ)) : share part (a :: alarms) = share part alarms := by
  simp [share, foreign]

theorem share_place (part : κ → Option ι) (a : Alarm κ) (alarms : List (Alarm κ)) :
    (share part (place a alarms)).Perm (share part (a :: alarms)) :=
  (place_perm a alarms).filterMap _

/-- Time passes for all parts. -/
theorem Mirrors.pass {own : Agenda ι} {whole : Agenda κ} (mirrors : Mirrors part own whole)
    (span : Nat) :
    Mirrors part { own with now := own.now + span } { whole with now := whole.now + span } :=
  ⟨congrArg (· + span) mirrors.now, mirrors.alarms⟩

/-- Work of another part is taken off. -/
theorem Mirrors.takeDue_foreign {own : Agenda ι} {whole rest : Agenda κ} {time : Nat}
    {a : Alarm κ} (mirrors : Mirrors part own whole)
    (taken : whole.takeDue time = some (a, rest)) (foreign : part a.key = none) :
    Mirrors part own rest := by
  obtain ⟨alarms, -, now⟩ := takeDue_eq_some taken
  refine ⟨mirrors.now.trans now.symm, ?_⟩
  have same := mirrors.alarms
  rwa [alarms, share_cons_foreign foreign] at same

/-- The only work of a part is taken off. -/
theorem Mirrors.takeDue_own {own : Agenda ι} {whole rest : Agenda κ} {time : Nat} {a : Alarm κ}
    {key : ι} (mirrors : Mirrors part own whole) (few : own.alarms.length ≤ 1)
    (taken : whole.takeDue time = some (a, rest)) (reads : part a.key = some key) :
    ∃ left, own.takeDue time = some (⟨key, a.due⟩, left) ∧ Mirrors part left rest := by
  obtain ⟨alarms, due, now⟩ := takeDue_eq_some taken
  have same := mirrors.alarms
  rw [alarms, share_cons_own reads] at same
  have length := same.length_eq
  rw [List.length_cons] at length
  have nothing : share part rest.alarms = [] := List.length_eq_zero_iff.mp (by omega)
  rw [nothing, List.perm_singleton] at same
  refine ⟨{ own with alarms := [] }, ?_, ?_⟩
  · simp [takeDue, same, due]
  · refine ⟨mirrors.now.trans now.symm, ?_⟩
    rw [nothing]

/-! ## Shares of an agenda in order -/

theorem share_place_foreign {a : Alarm κ} (foreign : part a.key = none)
    (alarms : List (Alarm κ)) : share part (place a alarms) = share part alarms := by
  induction alarms with
  | nil => exact share_cons_foreign foreign []
  | cons b bs ih =>
    unfold place
    split
    · exact share_cons_foreign foreign _
    · cases reads : part b.key with
      | none => rw [share_cons_foreign reads, share_cons_foreign reads, ih]
      | some key => rw [share_cons_own reads, share_cons_own reads, ih]

theorem place_of_lt {a : Alarm κ} {alarms : List (Alarm κ)}
    (sooner : ∀ b ∈ alarms, a.due < b.due) : place a alarms = a :: alarms := by
  cases alarms with
  | nil => rfl
  | cons b bs => exact if_pos (sooner b List.mem_cons_self)

/-- Among alarms in order, an alarm comes to stand in the share where it would stand if the share
were all. -/
theorem share_place_own {a : Alarm κ} {key : ι} (reads : part a.key = some key)
    {alarms : List (Alarm κ)} (ordered : InOrder alarms) :
    share part (place a alarms) = place ⟨key, a.due⟩ (share part alarms) := by
  induction alarms with
  | nil => exact share_cons_own reads []
  | cons b bs ih =>
    obtain ⟨first, rest⟩ := List.pairwise_cons.mp ordered
    rw [place]
    by_cases sooner : a.due < b.due
    · have behind : ∀ other ∈ share part (b :: bs), a.due < other.due := by
        intro other member
        obtain ⟨whole, listed, found⟩ := List.mem_filterMap.mp member
        obtain ⟨name, -, rfl⟩ := Option.map_eq_some_iff.mp found
        rcases List.mem_cons.mp listed with rfl | later
        · exact sooner
        · exact Nat.lt_of_lt_of_le sooner (first whole later)
      rw [if_pos sooner, share_cons_own reads]
      exact (place_of_lt (a := ⟨key, a.due⟩) behind).symm
    · rw [if_neg sooner]
      cases own : part b.key with
      | none => rw [share_cons_foreign own, share_cons_foreign own, ih rest]
      | some name =>
        rw [share_cons_own own, share_cons_own own, ih rest]
        exact (if_neg sooner).symm

/-- The agenda that a part would have if it had one for itself. -/
def shareOf (part : κ → Option ι) (g : Agenda κ) : Agenda ι := ⟨g.now, share part g.alarms⟩

theorem shareOf_takeDue_own {g rest : Agenda κ} {time : Nat} {a : Alarm κ} {key : ι}
    (taken : g.takeDue time = some (a, rest)) (reads : part a.key = some key) :
    (g.shareOf part).takeDue time = some (⟨key, a.due⟩, rest.shareOf part) := by
  obtain ⟨alarms, due, now⟩ := takeDue_eq_some taken
  have first : share part g.alarms = ⟨key, a.due⟩ :: share part rest.alarms := by
    rw [alarms, share_cons_own reads]
  simp [takeDue, shareOf, first, due, now]

theorem shareOf_takeDue_foreign {g rest : Agenda κ} {time : Nat} {a : Alarm κ}
    (taken : g.takeDue time = some (a, rest)) (foreign : part a.key = none) :
    rest.shareOf part = g.shareOf part := by
  obtain ⟨alarms, -, now⟩ := takeDue_eq_some taken
  rw [shareOf, shareOf, alarms, share_cons_foreign foreign, now]

variable [DecidableEq κ]

section Own

variable [DecidableEq ι] {duty : ι → κ}

theorem share_cancel_own (own : Function.IsPartialInv duty part) (key : ι)
    (alarms : List (Alarm κ)) :
    share part (alarms.filter fun a => a.key ≠ duty key) =
      (share part alarms).filter fun a => a.key ≠ key := by
  induction alarms with
  | nil => rfl
  | cons a alarms ih =>
    cases reads : part a.key with
    | none =>
      have other : a.key ≠ duty key := by
        intro same
        rw [same, (own key (duty key)).mpr rfl] at reads
        cases reads
      rw [share_cons_foreign reads, List.filter_cons_of_pos (by simpa using other),
        share_cons_foreign reads, ih]
    | some found =>
      have named : duty found = a.key := (own found a.key).mp reads
      rw [share_cons_own reads]
      by_cases same : found = key
      · subst same
        rw [List.filter_cons_of_neg (by simp [named]), List.filter_cons_of_neg (by simp), ih]
      · have other : a.key ≠ duty key := by
          intro also
          rw [also, (own key (duty key)).mpr rfl] at reads
          exact same (Option.some.inj reads).symm
        rw [List.filter_cons_of_pos (by simpa using other), share_cons_own reads,
          List.filter_cons_of_pos (by simpa using same), ih]

/-- A part's order is carried out on the whole as on an agenda of the part's own. -/
theorem Mirrors.obey_own {own : Agenda ι} {whole : Agenda κ} (mirrors : Mirrors part own whole)
    (reads : Function.IsPartialInv duty part) (order : Order ι) :
    Mirrors part (own.obey order) (whole.obey (order.map duty)) := by
  cases order with
  | schedule key delay =>
    refine ⟨mirrors.now, ?_⟩
    have key_read : part (duty key) = some key := (reads key (duty key)).mpr rfl
    have placed := share_place part ⟨duty key, whole.now + delay⟩ whole.alarms
    rw [share_cons_own key_read] at placed
    show (place ⟨key, own.now + delay⟩ own.alarms).Perm _
    rw [mirrors.now]
    exact (place_perm _ _).trans ((mirrors.alarms.cons _).trans placed.symm)
  | cancel key =>
    refine ⟨mirrors.now, ?_⟩
    show (own.alarms.filter _).Perm (share part (whole.alarms.filter _))
    rw [share_cancel_own reads]
    exact mirrors.alarms.filter _

theorem Mirrors.obeyAll_own {own : Agenda ι} {whole : Agenda κ}
    (mirrors : Mirrors part own whole) (reads : Function.IsPartialInv duty part)
    (orders : List (Order ι)) :
    Mirrors part (own.obeyAll orders) (whole.obeyAll (orders.map (Order.map duty))) := by
  induction orders generalizing own whole with
  | nil => exact mirrors
  | cons order orders ih => exact ih (mirrors.obey_own reads order)

theorem shareOf_obeyAll_own (own : Function.IsPartialInv duty part) {g : Agenda κ}
    (ordered : InOrder g.alarms) (orders : List (Order ι)) :
    (g.obeyAll (orders.map (Order.map duty))).shareOf part =
      (g.shareOf part).obeyAll orders := by
  induction orders generalizing g with
  | nil => rfl
  | cons order orders ih =>
    have next : (g.obey (order.map duty)).shareOf part = (g.shareOf part).obey order := by
      cases order with
      | schedule key delay =>
        have reads : part (duty key) = some key := (own key (duty key)).mpr rfl
        exact congrArg (Agenda.mk g.now) (share_place_own reads ordered)
      | cancel key => exact congrArg (Agenda.mk g.now) (share_cancel_own own key g.alarms)
    have still : InOrder (g.obey (order.map duty)).alarms :=
      obeyAll_inOrder ordered [order.map duty]
    rw [List.map_cons, obeyAll_cons, obeyAll_cons, ← next, ih still]

end Own

section Foreign

variable {ο : Type} {duty : ο → κ}

theorem share_cancel_foreign (foreign : ∀ key, part (duty key) = none) (key : ο)
    (alarms : List (Alarm κ)) :
    share part (alarms.filter fun a => a.key ≠ duty key) = share part alarms := by
  induction alarms with
  | nil => rfl
  | cons a alarms ih =>
    by_cases struck : a.key = duty key
    · rw [List.filter_cons_of_neg (by simpa using struck), ih,
        share_cons_foreign (struck ▸ foreign key)]
    · rw [List.filter_cons_of_pos (by simpa using struck)]
      cases reads : part a.key with
      | none => rw [share_cons_foreign reads, share_cons_foreign reads, ih]
      | some found => rw [share_cons_own reads, share_cons_own reads, ih]

/-- An order of another part is carried out without any effect on a part's share. -/
theorem Mirrors.obey_foreign {own : Agenda ι} {whole : Agenda κ}
    (mirrors : Mirrors part own whole) (foreign : ∀ key, part (duty key) = none)
    (order : Order ο) : Mirrors part own (whole.obey (order.map duty)) := by
  cases order with
  | schedule key delay =>
    refine ⟨mirrors.now, ?_⟩
    have placed := share_place part ⟨duty key, whole.now + delay⟩ whole.alarms
    rw [share_cons_foreign (foreign key)] at placed
    exact mirrors.alarms.trans placed.symm
  | cancel key =>
    refine ⟨mirrors.now, ?_⟩
    show own.alarms.Perm (share part (whole.alarms.filter _))
    rw [share_cancel_foreign foreign]
    exact mirrors.alarms

theorem Mirrors.obeyAll_foreign {own : Agenda ι} {whole : Agenda κ}
    (mirrors : Mirrors part own whole) (foreign : ∀ key, part (duty key) = none)
    (orders : List (Order ο)) :
    Mirrors part own (whole.obeyAll (orders.map (Order.map duty))) := by
  induction orders generalizing whole with
  | nil => exact mirrors
  | cons order orders ih => exact ih (mirrors.obey_foreign foreign order)

theorem shareOf_obeyAll_foreign (foreign : ∀ key, part (duty key) = none) (g : Agenda κ)
    (orders : List (Order ο)) :
    (g.obeyAll (orders.map (Order.map duty))).shareOf part = g.shareOf part := by
  induction orders generalizing g with
  | nil => rfl
  | cons order orders ih =>
    refine (ih _).trans ?_
    cases order with
    | schedule key delay =>
      exact congrArg (Agenda.mk g.now) (share_place_foreign (foreign key) g.alarms)
    | cancel key => exact congrArg (Agenda.mk g.now) (share_cancel_foreign foreign key g.alarms)

end Foreign

end Watchdesk.Agenda
