/-!
# Decimal digits

Numbers written as decimal digits and read back, over lists of characters. Writing is
`Nat.toDigits 10`; this module adds leading zeros up to a width, the split of a text after its
digits, and the value of a run of digits.

It also settles what a power is. Where Mathlib is imported, `2 ^ 16` would be a power in a monoid.
-/

-- `n ^ k` is the power that computes, `Nat.pow`, in every module of this library.
attribute [default_instance high, instance (high)] instPowNat

namespace Watchdesk.Digits

/-- The decimal digits of a number, without leading zeros. -/
def ofNat (n : Nat) : List Char := Nat.toDigits 10 n

/-- The value of a run of decimal digits; an empty run is zero. -/
def value (ds : List Char) : Nat := Nat.ofDigitChars 10 ds 0

@[simp] theorem value_ofNat (n : Nat) : value (ofNat n) = n := Nat.ofDigitChars_ten_toDigits

/-- The decimal digits of a number with leading zeros up to `width` digits. -/
def padded (width n : Nat) : List Char :=
  let ds := ofNat n
  List.replicate (width - ds.length) '0' ++ ds

/-- The digits at the start of a text, and the text after them. -/
def split (s : List Char) : List Char × List Char := s.span Char.isDigit

/-- The first `most` digits at the start of a text, and the text after those. -/
def splitAtMost : Nat → List Char → List Char × List Char
  | 0, s => ([], s)
  | _ + 1, [] => ([], [])
  | most + 1, c :: s =>
    if c.isDigit then
      let (ds, rest) := splitAtMost most s
      (c :: ds, rest)
    else ([], c :: s)

/-- A text that is one or more decimal digits. -/
def isNumeral (s : List Char) : Bool := !s.isEmpty && s.all Char.isDigit

end Watchdesk.Digits
