import Watchdesk.Proofs.Clock.Share
import Watchdesk.Proofs.Desk.Life
import Watchdesk.Proofs.Notice.Board

/-!
# The board of a desk

The notices of a desk with the removals on its agenda are a board. What the desk does about notices
the board alone could have done, and other work on the agenda is no concern of the board's.
-/

namespace Watchdesk

/-- The notice that work on the agenda removes. -/
def Duty.removalOf : Duty → Option String
  | .removal notice => some notice
  | .poll _ _ | .question _ => none

theorem removalOf_inv : Function.IsPartialInv Duty.removal Duty.removalOf := by
  intro notice duty
  cases duty <;> simp [Duty.removalOf, eq_comm]

namespace Desk

/-- The notices of a desk, with an agenda for their removals. -/
def board (d : Desk) : Board := ⟨d.center, d.agenda.shareOf Duty.removalOf⟩

/-- A change in which the board of a desk goes through a run. -/
structure Posts (d e : Desk) : Prop where
  ordered : Agenda.InOrder d.agenda.alarms → Agenda.InOrder e.agenda.alarms
  part : Agenda.InOrder d.agenda.alarms → ∃ part, e.board = d.board.run part

variable {d e f : Desk}

theorem Posts.of_same (center : e.center = d.center) (agenda : e.agenda = d.agenda) :
    Posts d e where
  ordered := by
    intro ordered
    rw [agenda]
    exact ordered
  part := by
    intro _
    refine ⟨[], ?_⟩
    rw [board, center, agenda]
    rfl

theorem Posts.trans (first : Posts d e) (second : Posts e f) : Posts d f where
  ordered := fun ordered => second.ordered (first.ordered ordered)
  part := by
    intro ordered
    obtain ⟨before, early⟩ := first.part ordered
    obtain ⟨after, late⟩ := second.part (first.ordered ordered)
    refine ⟨before ++ after, ?_⟩
    rw [Board.run_append, ← early, late]

/-- Work of other kinds is no concern of the board's. -/
theorem order_posts {κ : Type} {duty : κ → Duty} (foreign : ∀ key, (duty key).removalOf = none)
    (d : Desk) (orders : List (Order κ)) : Posts d (d.order duty orders) where
  ordered := fun ordered => Agenda.obeyAll_inOrder ordered _
  part := by
    intro _
    refine ⟨[], ?_⟩
    exact congrArg (Board.mk d.center) (Agenda.shareOf_obeyAll_foreign foreign d.agenda orders)

theorem notify_posts (d : Desk) (n : NewNotice) : Posts d (d.notify n) where
  ordered := fun ordered => Agenda.obeyAll_inOrder ordered _
  part := by
    intro ordered
    refine ⟨[.notify n], ?_⟩
    exact congrArg (Board.mk _) (Agenda.shareOf_obeyAll_own removalOf_inv ordered _)

theorem dismiss_posts (d : Desk) (id : String) : Posts d (d.dismiss id).2 where
  ordered := fun ordered => Agenda.obeyAll_inOrder ordered _
  part := by
    intro ordered
    refine ⟨[.dismiss id], ?_⟩
    exact congrArg (Board.mk _) (Agenda.shareOf_obeyAll_own removalOf_inv ordered _)

theorem pass_posts (d : Desk) (span : Nat) :
    Posts d { d with agenda := { d.agenda with now := d.agenda.now + span } } where
  ordered := id
  part := fun _ => ⟨[.pass span], rfl⟩

theorem inOrder_of_takeDue {agenda : Agenda Duty} {alarm : Alarm Duty} {time : Nat}
    (taken : d.agenda.takeDue time = some (alarm, agenda))
    (ordered : Agenda.InOrder d.agenda.alarms) : Agenda.InOrder agenda.alarms := by
  obtain ⟨alarms, -, -⟩ := Agenda.takeDue_eq_some taken
  rw [alarms] at ordered
  exact (List.pairwise_cons.mp ordered).2

/-- Other work is taken off the agenda. -/
theorem takeDue_posts {agenda : Agenda Duty} {alarm : Alarm Duty} {time : Nat}
    (taken : d.agenda.takeDue time = some (alarm, agenda)) (foreign : alarm.key.removalOf = none) :
    Posts d { d with agenda } where
  ordered := inOrder_of_takeDue taken
  part := by
    intro _
    refine ⟨[], ?_⟩
    exact congrArg (Board.mk d.center) (Agenda.shareOf_takeDue_foreign taken foreign)

/-- A removal is due, and is done. -/
theorem removal_posts {agenda : Agenda Duty} {alarm : Alarm Duty} {notice : String}
    (taken : d.agenda.takeDue d.now = some (alarm, agenda))
    (own : alarm.key = .removal notice) : Posts d ({ d with agenda }.dismiss notice).2 where
  ordered := fun ordered => Agenda.obeyAll_inOrder (inOrder_of_takeDue taken ordered) _
  part := by
    intro ordered
    have reads : alarm.key.removalOf = some notice := by rw [own, Duty.removalOf]
    have first := Agenda.shareOf_takeDue_own taken reads
    have rung : d.board.ring = ({ d with agenda }.board.dismiss notice).2 := by
      unfold Board.ring
      rw [show d.board.agenda.takeDue d.board.agenda.now = _ from first]
      rfl
    have left := inOrder_of_takeDue taken ordered
    refine ⟨[.ring], ?_⟩
    show _ = d.board.ring
    rw [rung]
    exact congrArg (Board.mk _) (Agenda.shareOf_obeyAll_own removalOf_inv left _)

end Desk

end Watchdesk
