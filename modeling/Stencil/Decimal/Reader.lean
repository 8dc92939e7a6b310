/-
Reading a number from its text.

The text is an optional sign and then either a name (`inf`, `infinity` or `nan`
in any case) or digits with an optional point and an optional power of ten.  At
least one digit stands before or after the point, and nothing else may stand
before or behind the number.
-/
import Stencil.Decimal.Binary64

namespace Stencil.Decimal

/-- The value of a row of decimal digits. -/
def digitsValue (cs : List Char) : Nat :=
  cs.foldl (fun n c => n * 10 + (c.toNat - '0'.toNat)) 0

/-- A sign, if there is one: whether it is a minus, and the rest. -/
def readSign : List Char → Bool × List Char
  | '-' :: rest => (true, rest)
  | '+' :: rest => (false, rest)
  | cs => (false, cs)

/-- The power of ten behind the digits; no text is the power zero. -/
def readPower : List Char → Option Int
  | [] => some 0
  | c :: rest =>
    if c == 'e' || c == 'E' then
      let (negative, digits) := readSign rest
      if digits.isEmpty || !digits.all Char.isDigit then none
      else
        let n : Int := digitsValue digits
        some (if negative then -n else n)
    else none

/-- Digits, point and power of ten as an unrounded decimal number. -/
def readDecimal (cs : List Char) : Option (Nat × Int) :=
  let whole := cs.takeWhile Char.isDigit
  let rest := cs.dropWhile Char.isDigit
  let (fraction, rest) :=
    match rest with
    | '.' :: tail => (tail.takeWhile Char.isDigit, tail.dropWhile Char.isDigit)
    | _ => ([], rest)
  if whole.isEmpty && fraction.isEmpty then none
  else
    (readPower rest).map fun power =>
      (digitsValue (whole ++ fraction), power - fraction.length)

/-- The number a text stands for, if it is the text of a number. -/
def Binary64.read? (s : String) : Option Binary64 :=
  let (negative, rest) := readSign s.toList
  let name := String.ofList (rest.map Char.toLower)
  if name == "inf" || name == "infinity" then some (.infinite negative)
  else if name == "nan" then some .nan
  else (readDecimal rest).map fun (digits, power) => .ofDecimal negative digits power

end Stencil.Decimal
