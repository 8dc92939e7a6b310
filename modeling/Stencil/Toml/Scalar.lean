/-
Numbers, dates and truth values of TOML.

Digits may be grouped by underscores, each between two digits.  A decimal number
does not begin with a superfluous zero, and a whole number fits into 64 bits.  A
date is one of the calendar, and a fraction of a second keeps nine digits.
-/
import Stencil.Decimal.Reader
import Stencil.Reader
import Stencil.Text.Hex
import Stencil.Toml.Value

namespace Stencil.Toml

open Reader (one run char text many exactly)

/-! ### Numbers -/

/-- Digits of a class, grouped by underscores. -/
def grouped (isDigit : Char → Bool) : Reader (List Char) := do
  let first ← one isDigit
  return first :: (← many (one isDigit <|> (char '_' *> one isDigit)))

/-- A sign, if there is one: whether it is a minus. -/
def sign : Reader Bool := fun cs => some (Decimal.readSign cs)

/-- The digits of a decimal number: a zero alone, or digits that do not begin with one. -/
def wholeDigits : Reader (List Char) := do
  match ← Reader.optional (char '0') with
  | some _ => return ['0']
  | none => grouped Char.isDigit

/-- The digits behind a point. -/
def fraction : Reader (List Char) := char '.' *> grouped Char.isDigit

/-- A power of ten. -/
def power : Reader Int := do
  let _ ← one fun c => c == 'e' || c == 'E'
  let negative ← sign
  let n : Int := Decimal.digitsValue (← grouped Char.isDigit)
  return if negative then -n else n

/-- A number with a point or a power of ten, which must not exceed the largest double. -/
def decimalFloat : Reader Toml := do
  let negative ← sign
  let whole ← wholeDigits
  let behind ← Reader.optional fraction
  let exponent ← Reader.optional power
  if behind.isNone && exponent.isNone then failure
  let digits := behind.getD []
  let value := Decimal.Binary64.ofDecimal negative (Decimal.digitsValue (whole ++ digits))
    (exponent.getD 0 - digits.length)
  if value = .infinite false then failure
  return double value

/-- Infinity, or the value that is no number. -/
def namedFloat : Reader Toml := do
  let negative ← sign
  (text ['i', 'n', 'f'] *> pure (double (.infinite negative)))
    <|> (text ['n', 'a', 'n'] *> pure (double .nan))

/-- A whole number, if 64 bits hold it. -/
def integerOf (n : Int) : Reader Toml :=
  if -(Nat.pow 2 63 : Int) ≤ n ∧ n < Nat.pow 2 63 then pure (integer n) else failure

/-- A whole number in a base that is named by a letter behind a zero. -/
def inBase (letter : Char) (base : Nat) : Reader Toml := do
  text ['0', letter]
  let isDigit (c : Char) : Bool := (Text.hexValue? c).any (· < base)
  integerOf (Text.valueInBase base (← grouped isDigit))

/-- A whole number in base ten. -/
def decimalInteger : Reader Toml := do
  let negative ← sign
  let n : Int := Decimal.digitsValue (← wholeDigits)
  integerOf (if negative then -n else n)

/-! ### Dates and times -/

/-- A number of a fixed count of digits, within bounds. -/
def field (count low high : Nat) : Reader (List Char) := do
  let digits ← exactly (one Char.isDigit) count
  let n := Decimal.digitsValue digits
  if low ≤ n ∧ n ≤ high then return digits else failure

/-- How many days a month has. -/
def daysOf (year month : Nat) : Nat :=
  match month with
  | 2 => if year % 4 = 0 ∧ (year % 100 ≠ 0 ∨ year % 400 = 0) then 29 else 28
  | 4 | 6 | 9 | 11 => 30
  | _ => 31

/-- A date of the calendar. -/
def date : Reader (List Char) := do
  let year ← field 4 0 9999
  char '-'
  let month ← field 2 1 12
  char '-'
  let day ← field 2 1 (daysOf (Decimal.digitsValue year) (Decimal.digitsValue month))
  return year ++ ['-'] ++ month ++ ['-'] ++ day

/-- The digits that a fraction of a second keeps. -/
def kept (digits : List Char) : List Char :=
  ((digits.take 9).reverse.dropWhile (· == '0')).reverse

/-- A fraction of a second; one that is zero is left out. -/
def subsecond : Reader (List Char) := do
  char '.'
  let first ← one Char.isDigit
  match kept (first :: (← run Char.isDigit)) with
  | [] => return []
  | digits => return '.' :: digits

/-- A time of the day. -/
def time : Reader (List Char) := do
  let hour ← field 2 0 23
  char ':'
  let minute ← field 2 0 59
  char ':'
  let second ← field 2 0 60
  let rest ← Reader.optional subsecond
  return hour ++ [':'] ++ minute ++ [':'] ++ second ++ rest.getD []

/-- A distance from universal time; none at all has a plus. -/
def offset : Reader (List Char) := do
  match ← one fun c => c == 'Z' || c == 'z' || c == '+' || c == '-' with
  | 'Z' | 'z' => return ['Z']
  | mark =>
    let hour ← field 2 0 23
    char ':'
    let minute ← field 2 0 59
    let distance := hour ++ [':'] ++ minute
    return (if distance = ['0', '0', ':', '0', '0'] then '+' else mark) :: distance

/-- A time behind a date, with or without an offset. -/
def timeOfDate : Reader (List Char) := do
  let _ ← one fun c => c == 'T' || c == 't' || c == ' '
  let clock ← time
  return 'T' :: clock ++ (← Reader.optional offset).getD []

/-- A date, a time, or both. -/
def anyMoment : Reader Toml := do
  let cs ← (do return (← date) ++ (← Reader.optional timeOfDate).getD []) <|> time
  return moment (String.ofList cs)

/-! ### Any of them -/

/-- A truth value. -/
def truth : Reader Toml :=
  (text "true".toList *> pure (bool true)) <|> (text "false".toList *> pure (bool false))

/-- A value that is neither a string nor made of other values. -/
def plainValue : Reader Toml :=
  truth <|> anyMoment <|> decimalFloat <|> namedFloat <|> inBase 'x' 16 <|> inBase 'o' 8
    <|> inBase 'b' 2 <|> decimalInteger

end Stencil.Toml
