import Watchdesk.Domain.Letter
import Watchdesk.Domain.Shift
import Watchdesk.Domain.Spelling
import Watchdesk.Text.Composition
import Watchdesk.Text.Unassigned

/-!
# Folding

Names that look the same to a reader are one name. Folding takes away what does not count: capital
letters become small ones, variants of a letter become the letter, and characters that are not seen
go. What is left is put into its composed form. Some characters no name may have. Texts are lists of
code points.
-/

namespace Watchdesk.Domain

open Text

/-- Characters that do not count. -/
def ignored : Spans := [
  (0xAD, 0xAD), (0x34F, 0x34F), (0x115F, 0x1160), (0x17B4, 0x17B5), (0x180B, 0x180F),
  (0x200B, 0x200B), (0x2060, 0x2064), (0x206A, 0x206F), (0x3164, 0x3164), (0xFE00, 0xFE0F),
  (0xFEFF, 0xFEFF), (0xFFA0, 0xFFA0), (0x1BCA0, 0x1BCA3), (0x1D173, 0x1D17A), (0xE0100, 0xE01EF)]

/-- Characters that have a meaning of their own, and that no name may have. -/
def refused : Spans := [
  (0x80, 0x9F), (0x600, 0x605), (0x61C, 0x61C), (0x6DD, 0x6DD), (0x70F, 0x70F), (0x890, 0x891),
  (0x8E2, 0x8E2), (0x1680, 0x1680), (0x200E, 0x200F), (0x2024, 0x2026), (0x2028, 0x202E),
  (0x2066, 0x2069), (0x2488, 0x249B), (0x2FF0, 0x2FFF), (0x31EF, 0x31EF), (0x33C2, 0x33C2),
  (0x33C7, 0x33C7), (0x33D8, 0x33D8), (0xFE12, 0xFE12), (0xFE19, 0xFE19), (0xFE30, 0xFE30),
  (0xFE52, 0xFE52), (0xFFF9, 0xFFFD), (0x110BD, 0x110BD), (0x110CD, 0x110CD), (0x13430, 0x1343F),
  (0x1F100, 0x1F100), (0xE0001, 0xE0001), (0xE0020, 0xE007F)]

/-- A code point that no name may have. -/
def isRefused (n : Nat) : Bool := refused.contains n || (0x378 ≤ n && isUnassigned n)

/-- The letter that a letter folds to. -/
def letter? (n : Nat) : Option Nat :=
  match shifts.find? (·.covers n) with
  | some shift => some (shift.apply n)
  | none => (if n < 0x3000 then lettersLow else lettersHigh).get? n

/-- The spelling that a character folds to. -/
def spelling? (n : Nat) : Option (List Nat) :=
  (if n < 0x3300 then spellingsLow else if n < 0xFC00 then spellingsMiddle
    else spellingsHigh).get? n

/-- What a character folds to. -/
def fold? (n : Nat) : Option (List Nat) :=
  if n < 0x80 then some [if 0x41 ≤ n && n ≤ 0x5A then n + 0x20 else n]
  else if isRefused n then none
  else if ignored.contains n then some []
  else
    match letter? n with
    | some m => some [m]
    | none => some ((spelling? n).getD [n])

/-- The common form of a text. -/
def canonical? (s : List Nat) : Option (List Nat) := do
  let folded ← s.mapM fold?
  some (composed folded.flatten)

end Watchdesk.Domain
