/-!
# Pieces between separators

A list is taken apart at every separator.
-/

namespace Watchdesk.Text

/-- The pieces of a list between separators; always at least one. -/
def splitOn {α : Type} [DecidableEq α] (separator : α) : List α → List (List α)
  | [] => [[]]
  | x :: s =>
    match splitOn separator s with
    | [] => [[x]]
    | piece :: pieces => if x = separator then [] :: piece :: pieces else (x :: piece) :: pieces

theorem splitOn_ne_nil {α : Type} [DecidableEq α] (separator : α) (s : List α) :
    splitOn separator s ≠ [] := by
  induction s with
  | nil => simp [splitOn]
  | cons x s ih =>
    unfold splitOn
    split
    · simp
    · split <;> simp

end Watchdesk.Text
