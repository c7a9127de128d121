/-!
# Charts of code points

What is known of the characters of all scripts stands in charts: ranges of code points, ranges with
a value for all of their code points, and rows with a value for each of theirs. A chart is
ascending, and no code point stands in it twice.
-/

namespace Watchdesk.Text

/-- Ranges of code points, both ends included. -/
abbrev Spans := List (Nat × Nat)

/-- A code point lies in one of the ranges. -/
def Spans.contains (s : Spans) (n : Nat) : Bool := s.any fun r => r.1 ≤ n && n ≤ r.2

/-- Ranges of code points, both ends included, with a value each. -/
abbrev Bands (α : Type) := List (Nat × Nat × α)

/-- The value of a code point. -/
def Bands.get? {α : Type} (b : Bands α) (n : Nat) : Option α :=
  (b.find? fun r => r.1 ≤ n && n ≤ r.2.1).map (·.2.2)

/-- Rows of consecutive code points: the first one, and the values of all of them. -/
abbrev Rows (α : Type) := List (Nat × List α)

/-- The value of a code point. -/
def Rows.get? {α : Type} (rows : Rows α) (n : Nat) : Option α :=
  rows.findSome? fun r => if r.1 ≤ n then r.2[n - r.1]? else none

/-- The code point of a value. -/
def Rows.find? {α : Type} [BEq α] (rows : Rows α) (x : α) : Option Nat :=
  rows.findSome? fun r => (r.2.findIdx? (· == x)).map (r.1 + ·)

end Watchdesk.Text
