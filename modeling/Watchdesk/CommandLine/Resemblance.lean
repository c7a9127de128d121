import Watchdesk.Decimal.Double

/-!
# Resemblance of words

How much two words resemble each other, after Jaro: characters match if they are equal and not far
apart, and matching characters in another order count less. The measure is the mean of three
fractions, worked out in double precision.
-/

namespace Watchdesk

namespace Resemblance

/-- Match a character against the characters of a word whose places are from `low` to below
`high`, and that were not matched before: the word with the first such character marked. -/
def mark (c : Char) (low high : Nat) : Nat → List (Char × Bool) → Option (List (Char × Bool))
  | _, [] => none
  | place, (d, taken) :: rest =>
    if high ≤ place then none
    else if low ≤ place && c == d && !taken then some ((d, true) :: rest)
    else (mark c low high (place + 1) rest).map ((d, taken) :: ·)

/-- Match the characters of a word from a place on against another word: the characters that
found a match, and the other word with its matches marked. -/
def matching (range : Nat) : Nat → List Char → List (Char × Bool) → List Char × List (Char × Bool)
  | _, [], marked => ([], marked)
  | place, c :: rest, marked =>
    match mark c (place - range) (place + range + 1) 0 marked with
    | none => matching range (place + 1) rest marked
    | some marked =>
      let (found, marked) := matching range (place + 1) rest marked
      (c :: found, marked)

/-- The number nearest to a fraction. -/
def fraction (n d : Nat) : Double := (Double.ofRatio n d).getD (.zero false)

/-- The mean of three numbers that are not large. -/
def mean (x y z : Double) : Double :=
  let sum := do
    let s ← (← x.add y).add z
    s.div (fraction 3 1)
  sum.getD (.zero false)

/-- How much two words resemble each other. -/
def measure (a b : String) : Double :=
  let xs := a.toList
  let ys := b.toList
  let range := max xs.length ys.length / 2 - 1
  let (found, marked) := matching range 0 xs (ys.map fun c => (c, false))
  let counterpart := (marked.filter (·.2)).map (·.1)
  let moved := ((found.zip counterpart).filter fun (c, d) => c != d).length / 2
  let m := found.length
  if m = 0 then fraction (if xs.isEmpty && ys.isEmpty then 1 else 0) 1
  else mean (fraction m xs.length) (fraction m ys.length) (fraction (m - moved) m)

/-- A word is taken for another one if it resembles that one more than this. -/
def threshold : Double := fraction 7 10

/-- The word that resembles a word most, if one resembles it enough; of two that resemble it alike
the later one. -/
def closest (word : String) (words : List String) : Option String :=
  (words.foldl (fun best w =>
    let m := measure word w
    match best with
    | none => if m.exceeds threshold then some (w, m) else none
    | some (_, record) => if record.exceeds m then best else some (w, m)) none).map (·.1)

end Resemblance

end Watchdesk
