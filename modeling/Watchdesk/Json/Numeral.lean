import Watchdesk.Json.Outline
import Watchdesk.Json.Value

/-!
# What a written number means

An integer of 64 bits keeps its value. Any other number becomes a double: its digits are gathered
into a significand below `2 ^ 64`, digits that do not fit are only counted, and the significand is
then scaled by a power of ten. A number too large for a double has no meaning.
-/

namespace Watchdesk.Numeral

/-- The bound of a significand. -/
def bound : Nat := 2 ^ 64

/-- Append digits to a significand as long as it stays below the bound: the significand, and the
digits that were left. -/
def gather : Nat → List Char → Nat × List Char
  | sig, [] => (sig, [])
  | sig, c :: ds =>
    let next := sig * 10 + Digits.value [c]
    if next < bound then gather next ds else (sig, c :: ds)

/-- The greatest exponent that is taken at its value. -/
def greatestExponent : Nat := 2 ^ 31 - 1

/-- The magnitude of a number as a double. -/
def magnitude (n : Numeral) : Option Double :=
  let (sig, dropped) := gather 0 n.whole
  let (sig, scale) :=
    match n.fraction with
    | none => (sig, (dropped.length : Int))
    | some ds =>
      let (sig', left) := gather sig ds
      (sig', (dropped.length : Int) - (ds.length - left.length : Nat))
  match n.exponent with
  | none => Double.ofDecimal sig scale
  | some (negative, ds) =>
    let e := Digits.value ds
    if greatestExponent < e then
      if sig ≠ 0 ∧ !negative then none else some (Double.zero false)
    else Double.ofDecimal sig (if negative then scale - e else scale + e)

/-- The number as a double, with its sign. -/
def double (n : Numeral) : Option Double := n.magnitude.map (Double.withSign n.negative)

/-- The number: an integer if it is written as one and has 64 bits, otherwise a double. Minus zero
is a double, which keeps its sign. -/
def number (n : Numeral) : Option Number :=
  match n.fraction, n.exponent with
  | none, none =>
    let v := Digits.value n.whole
    if !n.negative && v < bound then some (.natural v)
    else if n.negative && 0 < v && v ≤ 2 ^ 63 then some (.negative v)
    else n.double.map .fraction
  | _, _ => n.double.map .fraction

end Watchdesk.Numeral
