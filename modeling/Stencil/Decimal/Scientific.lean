/-
Scientific notation with one place behind the point.

The two digits come from the exact value of the double, a half going to the even
digit.  The power of ten has neither a plus sign nor leading zeros.
-/
import Stencil.Decimal.Shortest

namespace Stencil.Decimal

/-- Two leading digits, rounded, and the power of ten of the first. -/
def twoDigits (num den : Nat) : Nat × Int :=
  let power := leadingPower num den
  let (num, den) := scaleTen num den (power - 1)
  let digits := divRoundEven num den
  if digits == 100 then (10, power + 1) else (digits, power)

/-- The text of a double in scientific notation. -/
def Binary64.scientific : Binary64 → String
  | .nan => "NaN"
  | .infinite negative => if negative then "-inf" else "inf"
  | .finite negative m e =>
    let (digits, power) : Nat × Int :=
      if m == 0 then (0, 0)
      else
        let (num, den) := Binary64.quotient m e
        twoDigits num den
    let text := toString (digits / 10) ++ "." ++ toString (digits % 10) ++ "E" ++ toString power
    if negative then "-" ++ text else text

end Stencil.Decimal
