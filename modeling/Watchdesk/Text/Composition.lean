import Watchdesk.Text.Composition.Order
import Watchdesk.Text.Composition.Pairs
import Watchdesk.Text.Composition.Repeats

/-!
# The composed form of a text

One character with marks can often be written in more than one way. In the composed form, texts
that are the same to a reader are the same: everything is taken apart, marks are put in order, and
what has a character of its own is put together again. Texts are lists of code points.
-/

namespace Watchdesk.Text

/-! ## Syllables

A Hangul syllable has two or three parts; the syllables stand in the order of their parts. -/

/-- The first syllable. -/
def firstSyllable : Nat := 0xAC00

/-- A syllable. -/
def isSyllable (n : Nat) : Bool := firstSyllable ≤ n && n < firstSyllable + 19 * 21 * 28

/-- The parts of a syllable. -/
def syllableParts (n : Nat) : List Nat :=
  let i := n - firstSyllable
  [0x1100 + i / (21 * 28), 0x1161 + i / 28 % 21] ++ if i % 28 = 0 then [] else [0x11A7 + i % 28]

/-- The syllable of a syllable, or the start of one, and one more part. -/
def syllable? (a b : Nat) : Option Nat :=
  if 0x1100 ≤ a && a < 0x1113 && 0x1161 ≤ b && b < 0x1176 then
    some (firstSyllable + ((a - 0x1100) * 21 + (b - 0x1161)) * 28)
  else if isSyllable a && (a - firstSyllable) % 28 == 0 && 0x11A8 ≤ b && b < 0x11C3 then
    some (a + (b - 0x11A7))
  else none

/-! ## Parts -/

/-- The parts of a character, which may have parts in turn. -/
def parts (n : Nat) : List Nat :=
  if n < 0xC0 then [n]
  else if isSyllable n then syllableParts n
  else
    match (if n < 0x1000 then pairsLow else pairsHigh).get? n with
    | some (a, b) => [a, b]
    | none =>
      match splits.get? n with
      | some pieces => pieces
      | none => [((if n < 0x10000 then repeatsLow else repeatsHigh).get? n).getD n]

/-- A text taken apart. No character has parts whose parts have parts that have parts. -/
def apart (s : List Nat) : List Nat := ((s.flatMap parts).flatMap parts).flatMap parts

/-- The character of two parts. -/
def together? (a b : Nat) : Option Nat :=
  match syllable? a b with
  | some n => some n
  | none => (pairsLow.find? (a, b)).or (pairsHigh.find? (a, b))

/-! ## Order -/

/-- Put a mark in front of a text whose marks are in order: behind the marks at its start that have
lower classes. -/
def settle (mark : Nat) : List Nat → List Nat
  | [] => [mark]
  | n :: rest =>
    if 0 < markClass n && markClass n < markClass mark then n :: settle mark rest
    else mark :: n :: rest

/-- A text with its marks in order. -/
def ordered (s : List Nat) : List Nat := s.foldr settle []

/-! ## The composed form -/

/-- Put a character together with what comes behind it. `kept` are the marks between, in reverse;
`top` is the class of the last of them. A mark is put to the character unless one of the marks
between has the same class or a higher one. -/
def gather (character : Nat) (kept : List Nat) (top : Nat) : List Nat → List Nat
  | [] => character :: kept.reverse
  | n :: rest =>
    let free := kept.isEmpty || top < markClass n
    match if free then together? character n else none with
    | some composed => gather composed kept top rest
    | none =>
      if markClass n = 0 then character :: kept.reverse ++ gather n [] 0 rest
      else gather character (n :: kept) (markClass n) rest

/-- Put together what was taken apart. -/
def united : List Nat → List Nat
  | [] => []
  | n :: rest => if markClass n = 0 then gather n [] 0 rest else n :: united rest

/-- The composed form of a text. -/
def composed (s : List Nat) : List Nat := united (ordered (apart s))

end Watchdesk.Text
