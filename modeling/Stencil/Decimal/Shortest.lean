/-
The shortest decimal text that reads back as the same number.

A double stands for the interval of reals that round to it, the ends included
exactly when its mantissa is even.  For one digit, two digits and so on, the
decimal numbers next to the value are tried, and the first that falls into the
interval is taken; of two the nearer.  Seventeen digits always suffice.

The text is positional, whatever the size, and has a point only in front of a
fraction.
-/
import Stencil.Decimal.Binary64

namespace Stencil.Decimal

/-- The power of ten of the leading digit of a positive quotient. -/
def leadingPower (num den : Nat) : Int :=
  if den ≤ num then ((Nat.toDigits 10 (num / den)).length : Int) - 1
  else -((Nat.toDigits 10 ((den - 1) / num)).length : Int)

/-- `num / den / 10 ^ k` as a quotient. -/
def scaleTen (num den : Nat) (k : Int) : Nat × Nat :=
  match k with
  | .ofNat n => (num, den * Nat.pow 10 n)
  | .negSucc n => (num * Nat.pow 10 (n + 1), den)

/-- Whether `digits * 10 ^ k` rounds to the finite number `mantissa * 2 ^ exponent`. -/
def readsBack (mantissa : Nat) (exponent : Int) (digits : Nat) (k : Int) : Bool :=
  Binary64.ofDecimal false digits k == .finite false mantissa exponent

/-- The decimal number with the last place `10 ^ k` that reads back, the nearer one if two do. -/
def neighbour? (mantissa : Nat) (exponent : Int) (k : Int) : Option Nat :=
  let (num, den) := Binary64.quotient mantissa exponent
  let (num, den) := scaleTen num den k
  let below := num / den
  let fits := readsBack mantissa exponent
  match fits below k, fits (below + 1) k with
  | true, true => some (divRoundEven num den)
  | true, false => some below
  | false, true => some (below + 1)
  | false, false => none

/-- The shortest digits, tried from place `10 ^ k` downwards `tries` times. -/
def shortestFrom (mantissa : Nat) (exponent : Int) (k : Int) : Nat → Nat × Int
  | 0 => (0, 0)
  | tries + 1 =>
    match neighbour? mantissa exponent k with
    | some digits => (digits, k)
    | none => shortestFrom mantissa exponent (k - 1) tries

/-- Digits and last place of the shortest decimal number for a positive double. -/
def shortest (mantissa : Nat) (exponent : Int) : Nat × Int :=
  let (num, den) := Binary64.quotient mantissa exponent
  shortestFrom mantissa exponent (leadingPower num den) 18

/-- A decimal number without a power of ten. -/
def positional (digits : Nat) (k : Int) : String :=
  match k with
  | .ofNat n => String.ofList (Nat.toDigits 10 digits ++ List.replicate n '0')
  | .negSucc n =>
    let places := n + 1
    let text := Nat.toDigits 10 digits
    let text := List.replicate (places + 1 - text.length) '0' ++ text
    let cut := text.length - places
    let fraction := ((text.drop cut).reverse.dropWhile (· == '0')).reverse
    let whole := text.take cut
    String.ofList (if fraction.isEmpty then whole else whole ++ '.' :: fraction)

/-- The text of a double: shortest, positional, with the sign of a zero kept. -/
def Binary64.text : Binary64 → String
  | .nan => "NaN"
  | .infinite negative => if negative then "-inf" else "inf"
  | .finite negative m e =>
    let magnitude :=
      if m == 0 then "0"
      else
        let (digits, k) := shortest m e
        positional digits k
    if negative then "-" ++ magnitude else magnitude

end Stencil.Decimal
