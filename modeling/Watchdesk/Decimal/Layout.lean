import Watchdesk.Decimal.Shortest
import Watchdesk.Text.Digits

/-!
# How numbers are laid out

Two layouts of the shortest digits. `Double.plain` never uses an exponent and writes a whole
number without a point: durations in exported files are written so. `Double.scientific` keeps a
point in whole numbers, is positional for numbers from `1e-5` up to below `1e16`, and uses an
exponent with a sign otherwise: numbers inside JSON texts are written so.
-/

namespace Watchdesk.Double

/-- A text with a sign in front of it if the value is negative. -/
private def signed (x : Double) (text : List Char) : List Char :=
  if x.negative then '-' :: text else text

/-- So many zeros. -/
private def zeros (n : Nat) : List Char := List.replicate n '0'

/-- Positional digits: `point` is how many of them stand before the point. -/
private def positional (digits : List Char) (point : Int) (whole : List Char) : List Char :=
  if point ≤ 0 then '0' :: '.' :: zeros (-point).toNat ++ digits
  else if digits.length ≤ point.toNat then
    digits ++ zeros (point.toNat - digits.length) ++ whole
  else digits.take point.toNat ++ '.' :: digits.drop point.toNat

/-- The number without an exponent; a whole number has no point. -/
def plain (x : Double) : String :=
  String.ofList <| x.signed <|
    if x.isZero then ['0']
    else
      let d := x.shortest .up
      let digits := Digits.ofNat d.digits
      positional digits (digits.length + d.scale) []

/-- The number as JSON texts write it. -/
def scientific (x : Double) : List Char :=
  x.signed <|
    if x.isZero then ['0', '.', '0']
    else
      let d := x.shortest .even
      let digits := Digits.ofNat d.digits
      let point : Int := digits.length + d.scale
      if -5 < point ∧ point ≤ 16 then positional digits point ['.', '0']
      else
        let exponent := point - 1
        let sign := if exponent < 0 then '-' else '+'
        let tail := 'e' :: sign :: Digits.ofNat exponent.natAbs
        match digits with
        | [] => tail
        | [c] => c :: tail
        | c :: more => c :: '.' :: more ++ tail

private theorem positional_ne_nil (digits : List Char) (point : Int) {whole : List Char}
    (some : whole ≠ []) : positional digits point whole ≠ [] := by
  unfold positional
  split
  · simp
  · split <;> simp [some]

/-- Every number is written with some character. -/
theorem scientific_ne_nil (x : Double) : x.scientific ≠ [] := by
  have kept (text : List Char) (some : text ≠ []) : x.signed text ≠ [] := by
    unfold signed
    split <;> simp [some]
  unfold scientific
  apply kept
  split
  · simp
  · dsimp only
    split
    · exact positional_ne_nil _ _ (by simp)
    · split <;> simp

end Watchdesk.Double
