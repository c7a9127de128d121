import Watchdesk.Text.Digits

/-!
# Labels in ASCII

A label that has characters beyond ASCII is written as its ASCII characters and a run of digits that
say where the other characters belong. The digits are differences between places, in base 36, with
thresholds that adapt to the differences before. Labels are lists of code points.
-/

namespace Watchdesk.Domain.Punycode

/-- A digit of base 36, the letters first. -/
def digit (d : Nat) : Nat := if d < 26 then 97 + d else 22 + d

/-- The value of a digit. -/
def digitValue (n : Nat) : Option Nat :=
  if 97 ≤ n && n < 123 then some (n - 97)
  else if 48 ≤ n && n < 58 then some (n - 22)
  else none

/-- The threshold of a digit's place. -/
def threshold (k bias : Nat) : Nat :=
  if k ≤ bias then 1 else if bias + 26 ≤ k then 26 else k - bias

/-- Scale a difference down until it is small: how often, and what is left. -/
def scale (delta : Nat) : Nat × Nat :=
  if 455 < delta then
    let (steps, left) := scale (delta / 35)
    (steps + 1, left)
  else (0, delta)

/-- The bias after a difference. -/
def adapt (delta count : Nat) (first : Bool) : Nat :=
  let scaled := if first then delta / 700 else delta / 2
  let (steps, left) := scale (scaled + scaled / count)
  36 * steps + 36 * left / (left + 38)

theorem threshold_pos (k bias : Nat) : 1 ≤ threshold k bias := by
  unfold threshold
  split
  · omega
  · split <;> omega

/-! ## Writing -/

/-- The digits of a difference. -/
def difference (bias k q : Nat) : List Nat :=
  let t := threshold k bias
  if q < t then [digit q]
  else digit (t + (q - t) % (36 - t)) :: difference bias (k + 36) ((q - t) / (36 - t))
termination_by q
decreasing_by
  have positive := threshold_pos k bias
  have smaller := Nat.div_le_self (q - threshold k bias) (36 - threshold k bias)
  omega

/-- What has been written of a label. -/
structure Writer where
  output : List Nat
  delta : Nat
  bias : Nat
  /-- How many characters have been placed. -/
  placed : Nat

/-- Look at one character `m` of the label while the character `n` is placed. -/
def Writer.step (basic n : Nat) (w : Writer) (m : Nat) : Writer :=
  if m < n then { w with delta := w.delta + 1 }
  else if m = n then
    { output := w.output ++ difference w.bias 36 w.delta, delta := 0,
      bias := adapt w.delta (w.placed + 1) (w.placed = basic), placed := w.placed + 1 }
  else w

/-- Place the code points of a list, each greater than the one before it; `n` is the first one
that may still be placed. -/
def place (label : List Nat) (basic : Nat) : Nat → List Nat → Writer → Writer
  | _, [], w => w
  | n, m :: rest, w =>
    let start := { w with delta := w.delta + (m - n) * (w.placed + 1) }
    let done := label.foldl (Writer.step basic m) start
    place label basic (m + 1) rest { done with delta := done.delta + 1 }

/-- The ASCII form of a label. -/
def encode (label : List Nat) : List Nat :=
  let basic := label.filter (· < 128)
  let points := ((label.filter (128 ≤ ·)).mergeSort (· ≤ ·)).eraseReps
  let lead := if basic.isEmpty then [] else basic ++ [45]
  (place label basic.length 128 points
    { output := lead, delta := 0, bias := 72, placed := basic.length }).output

/-! ## Reading -/

/-- What does not fit into 32 bits has no meaning. -/
def bounded (n : Nat) : Option Nat := if n < 2 ^ 32 then some n else none

/-- The sum of a start and the difference that some digits begin with, and the digits behind it;
`k` and `weight` belong to the place of the first digit. -/
def sum? (bias : Nat) : Nat → Nat → Nat → List Nat → Option (Nat × List Nat)
  | _, _, _, [] => none
  | k, weight, start, d :: rest => do
    let value ← digitValue d
    let sum ← bounded (start + value * weight)
    let t := threshold k bias
    if value < t then some (sum, rest)
    else
      let weight ← bounded (weight * (36 - t))
      sum? bias (k + 36) weight sum rest

theorem length_lt_of_sum? {bias : Nat} {digits : List Nat} {k weight start sum : Nat}
    {rest : List Nat} (h : sum? bias k weight start digits = some (sum, rest)) :
    rest.length < digits.length := by
  induction digits generalizing k weight start with
  | nil => simp [sum?] at h
  | cons d digits ih =>
    simp only [sum?, Option.bind_eq_bind, Option.bind_eq_some_iff] at h
    obtain ⟨value, -, next, -, h⟩ := h
    split at h
    · simp only [Option.some.injEq, Prod.mk.injEq] at h
      simp [h.2]
    · obtain ⟨wider, -, h⟩ := Option.bind_eq_some_iff.mp h
      exact Nat.lt_succ_of_lt (ih h)

/-- Put characters into a label where some digits say; `n` is the last character that was put there,
and `place` the place behind it. -/
def insert (bias n place : Nat) (label digits : List Nat) : Option (List Nat) :=
  if digits.isEmpty then some label
  else
    match _h : sum? bias 36 1 place digits with
    | none => none
    | some (sum, rest) =>
      let count := label.length + 1
      let m := n + sum / count
      if !Nat.isValidChar m then none
      else
        insert (adapt (sum - place) count (place = 0)) m (sum % count + 1)
          (label.insertIdx (sum % count) m) rest
termination_by digits.length
decreasing_by exact length_lt_of_sum? (by assumption)

/-- The label that an ASCII form stands for. -/
def decode (s : List Nat) : Option (List Nat) :=
  let digits := (s.reverse.takeWhile (· ≠ 45)).reverse
  let basic := s.take (s.length - digits.length - 1)
  if basic.isEmpty then insert 72 128 0 [] s else insert 72 128 0 basic digits

end Watchdesk.Domain.Punycode
