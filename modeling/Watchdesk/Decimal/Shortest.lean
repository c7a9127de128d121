import Watchdesk.Decimal.Double

/-!
# The fewest digits that read back

The real numbers that round to a given double form an interval around it. `Double.shortest` finds
the decimal with the fewest digits inside that interval, and of those with equally few digits the
one nearest to the number. All comparisons are between natural numbers.
-/

namespace Watchdesk

/-- The decimal `digits * 10 ^ scale`. -/
structure Decimal where
  digits : Nat
  scale : Int
deriving DecidableEq, Repr, Inhabited

/-- Which of two equally near decimals is taken. -/
inductive Tie where
  | even
  | up
deriving DecidableEq, Repr

namespace Decimal

/-- Compare `digits * 10 ^ scale` with `n * 2 ^ q`. -/
def compareTo (d : Decimal) (n : Nat) (q : Int) : Ordering :=
  compare (d.digits * 10 ^ d.scale.toNat * 2 ^ (-q).toNat)
    (n * 2 ^ q.toNat * 10 ^ (-d.scale).toNat)

/-- The decimal without trailing zeros among its digits; `fuel` bounds how many are dropped. -/
def strip : Nat → Decimal → Decimal
  | 0, d => d
  | fuel + 1, d =>
    if d.digits % 10 = 0 ∧ d.digits ≠ 0 then strip fuel ⟨d.digits / 10, d.scale + 1⟩ else d

end Decimal

namespace Double

/-- The gap to the number below is half the gap to the number above: so at a power of two, except
where the numbers are evenly spaced. -/
def narrowBelow (x : Double) : Bool := x.mantissa == 2 ^ 52 && leastExponent < x.exponent

/-- The decimal lies among the reals that round to the number; the ends belong to the interval
exactly when the mantissa is even. -/
def readsBack (x : Double) (d : Decimal) : Bool :=
  let lower := if x.narrowBelow then 4 * x.mantissa - 1 else 4 * x.mantissa - 2
  let upper := 4 * x.mantissa + 2
  let ends := x.mantissa % 2 == 0
  let low := d.compareTo lower (x.exponent - 2)
  let high := d.compareTo upper (x.exponent - 2)
  (low == .gt || (ends && low == .eq)) && (high == .lt || (ends && high == .eq))

/-- The least power of ten above a positive number. -/
def magnitude (x : Double) : Int :=
  let guess := ((x.mantissa.log2 : Int) + x.exponent) * 30103 / 100000
  let above (k : Int) := Decimal.compareTo ⟨1, k⟩ x.mantissa x.exponent == .gt
  (([guess - 1, guess, guess + 1, guess + 2]).find? above).getD (guess + 3)

/-- The multiple of `10 ^ scale` just below the number, in units of `10 ^ scale`. -/
def floorAt (x : Double) (scale : Int) : Nat :=
  (x.mantissa * 2 ^ x.exponent.toNat * 10 ^ (-scale).toNat) /
    (2 ^ (-x.exponent).toNat * 10 ^ scale.toNat)

/-- The decimal on the grid `10 ^ scale` that reads back, if there is one: of the number's two
neighbours on the grid the nearer, of two equally near ones the one that `tie` prefers. -/
def onGrid (x : Double) (tie : Tie) (scale : Int) : Option Decimal :=
  let low := x.floorAt scale
  let below : Decimal := ⟨low, scale⟩
  let above : Decimal := ⟨low + 1, scale⟩
  match x.readsBack below, x.readsBack above with
  | false, false => none
  | true, false => some below
  | false, true => some above
  | true, true =>
    match Decimal.compareTo ⟨2 * low + 1, scale⟩ x.mantissa (x.exponent + 1) with
    | .gt => some below
    | .lt => some above
    | .eq => if tie == .up || low % 2 == 1 then some above else some below

/-- The exact value of the number as a decimal. -/
def exact (x : Double) : Decimal :=
  if 0 ≤ x.exponent then ⟨x.mantissa * 2 ^ x.exponent.toNat, 0⟩
  else ⟨x.mantissa * 5 ^ (-x.exponent).toNat, x.exponent⟩

/-- The decimal with the fewest digits that reads back to a positive number, without trailing
zeros. -/
def shortest (x : Double) (tie : Tie) : Decimal :=
  let top := x.magnitude
  let tries := (List.range 17).map fun (n : Nat) => top - 1 - (n : Int)
  ((tries.findSome? (x.onGrid tie)).getD x.exact).strip 400

end Double

end Watchdesk
