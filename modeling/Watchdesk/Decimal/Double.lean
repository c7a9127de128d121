import Watchdesk.Text.Digits

/-!
# Double-precision numbers, exactly

A finite double-precision number as a sign, a mantissa and a power of two. Every operation first
forms the exact quotient of two natural numbers and then rounds once, to the nearest number that
has a representation, a tie going to the even mantissa; nothing here depends on the machine's
arithmetic.
-/

namespace Watchdesk

/-- The number `mantissa * 2 ^ exponent`, with a sign. A zero keeps its sign. -/
structure Double where
  negative : Bool
  mantissa : Nat
  exponent : Int
deriving DecidableEq, Repr, Inhabited

namespace Double

/-- The least exponent: that of zero and of the numbers below the normal range. -/
def leastExponent : Int := -1074

/-- The greatest exponent of a finite number. -/
def greatestExponent : Int := 971

/-- Zero with the given sign. -/
def zero (negative : Bool) : Double := ⟨negative, 0, leastExponent⟩

/-- Both zeros are zero. -/
def isZero (x : Double) : Bool := x.mantissa == 0

/-- The same magnitude with the given sign. -/
def withSign (negative : Bool) (x : Double) : Double := { x with negative }

/-- The multiple of `2 ^ e` nearest to `n / d`, counted in units of `2 ^ e`; of two equally near
ones the even one. -/
def roundTo (n d : Nat) (e : Int) : Nat :=
  let num := n * 2 ^ (-e).toNat
  let den := d * 2 ^ e.toNat
  let q := num / den
  let r := num % den
  if den < 2 * r || (2 * r == den && q % 2 == 1) then q + 1 else q

/-- The exponent at which `n / d` has a mantissa of 53 bits, or the least exponent. -/
def exponentOf (n d : Nat) : Int :=
  let l : Int := (n.log2 : Int) - (d.log2 : Int)
  let reaches := d * 2 ^ l.toNat ≤ n * 2 ^ (-l).toNat
  max leastExponent (if reaches then l - 52 else l - 53)

/-- The number nearest to `n / d`; none if it is too large to be finite. -/
def ofRatio (n d : Nat) : Option Double :=
  if n = 0 then some (zero false) else
  let e := exponentOf n d
  let m := roundTo n d e
  let (m, e) := if m = 2 ^ 53 then (2 ^ 52, e + 1) else (m, e)
  if greatestExponent < e then none else some ⟨false, m, e⟩

/-- The number nearest to a natural number. -/
def ofNat (n : Nat) : Option Double := ofRatio n 1

/-- The product of two magnitudes. -/
def mul (x y : Double) : Option Double :=
  let e := x.exponent + y.exponent
  ofRatio (x.mantissa * y.mantissa * 2 ^ e.toNat) (2 ^ (-e).toNat)

/-- The quotient of two magnitudes, the second of which is not zero. -/
def div (x y : Double) : Option Double :=
  let e := x.exponent - y.exponent
  ofRatio (x.mantissa * 2 ^ e.toNat) (y.mantissa * 2 ^ (-e).toNat)

/-- The sum of two magnitudes. -/
def add (x y : Double) : Option Double :=
  let e := min x.exponent y.exponent
  let n := x.mantissa * 2 ^ (x.exponent - e).toNat + y.mantissa * 2 ^ (y.exponent - e).toNat
  ofRatio (n * 2 ^ e.toNat) (2 ^ (-e).toNat)

/-- One magnitude is greater than another one. -/
def exceeds (x y : Double) : Bool :=
  let e := min x.exponent y.exponent
  y.mantissa * 2 ^ (y.exponent - e).toNat < x.mantissa * 2 ^ (x.exponent - e).toNat

/-- The greatest power of ten that is finite. -/
def greatestPower : Nat := 308

/-- The number nearest to a power of ten. -/
def powerOfTen (k : Nat) : Double := (ofNat (10 ^ k)).getD (zero false)

/-- A magnitude divided by a power of ten, in steps of at most `10 ^ 308`, rounded after each. -/
def divPower (x : Double) (k : Nat) : Double :=
  if k ≤ greatestPower then (x.div (powerOfTen k)).getD (zero false)
  else if x.isZero then x
  else ((x.div (powerOfTen greatestPower)).getD (zero false)).divPower (k - greatestPower)
termination_by k
decreasing_by simp only [greatestPower] at *; omega

/-- The number that `significand * 10 ^ exponent` is read as: the significand is rounded first and
the scaled value again. None if it is too large. -/
def ofDecimal (significand : Nat) (exponent : Int) : Option Double := do
  let x ← ofNat significand
  if exponent < 0 then
    some (x.divPower exponent.natAbs)
  else if exponent.toNat ≤ greatestPower then
    x.mul (powerOfTen exponent.toNat)
  else if x.isZero then some x
  else none

end Double

end Watchdesk
