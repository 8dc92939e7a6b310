/-
Reading a natural number below a bound.

The text is a row of decimal digits, with a plus in front if one likes.
-/
import Stencil.Decimal.Reader

namespace Stencil.Decimal

/-- The digits of a text that may begin with a plus. -/
def unsignedDigits : List Char → List Char
  | '+' :: digits => digits
  | digits => digits

/-- The natural number a text stands for, if it is below the bound. -/
def readNatural? (bound : Nat) (text : List Char) : Option Nat :=
  let digits := unsignedDigits text
  if digits.isEmpty || !digits.all Char.isDigit then none
  else if digitsValue digits < bound then some (digitsValue digits)
  else none

end Stencil.Decimal
