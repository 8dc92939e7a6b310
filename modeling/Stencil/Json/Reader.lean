/-
Reading JSON.

The reader takes the whole text or nothing: blanks may stand around a document,
but no other text.  Arrays and objects may be nested `maxDepth` deep.  A number
without point and power of ten is an integer if 64 bits hold it; every other
number is a double, and one beyond the largest double is refused.
-/
import Stencil.Decimal.Reader
import Stencil.Json.Value
import Stencil.Reader
import Stencil.Text.Hex

namespace Stencil.Json

/-- How deep arrays and objects may be nested. -/
def maxDepth : Nat := 127

/-- The blanks of JSON. -/
def isSpace (c : Char) : Bool := c == ' ' || c == '\n' || c == '\t' || c == '\r'

/-- The text behind blanks. -/
def skipSpaces (cs : List Char) : List Char := cs.dropWhile isSpace

/-- Four hexadecimal digits. -/
def readUnit : Reader Nat
  | a :: b :: c :: d :: rest => do
    let a ← Text.hexValue? a
    let b ← Text.hexValue? b
    let c ← Text.hexValue? c
    let d ← Text.hexValue? d
    some (a * 4096 + b * 256 + c * 16 + d, rest)
  | _ => none

/-- A character given by one unit of sixteen bits, or by a pair of surrogates. -/
def readEscapedUnits : Reader Char := fun cs => do
  let (high, rest) ← readUnit cs
  if 0xDC00 ≤ high && high ≤ 0xDFFF then none
  else if 0xD800 ≤ high && high ≤ 0xDBFF then
    match rest with
    | '\\' :: 'u' :: rest => do
      let (low, rest) ← readUnit rest
      if 0xDC00 ≤ low && low ≤ 0xDFFF then
        some (Char.ofNat (0x10000 + (high - 0xD800) * 0x400 + (low - 0xDC00)), rest)
      else none
    | _ => none
  else some (Char.ofNat high, rest)

/-- What stands behind a backslash. -/
def readEscape : Reader Char
  | '\x22' :: rest => some ('\x22', rest)
  | '\\' :: rest => some ('\\', rest)
  | '/' :: rest => some ('/', rest)
  | 'b' :: rest => some ('\x08', rest)
  | 'f' :: rest => some ('\x0c', rest)
  | 'n' :: rest => some ('\n', rest)
  | 'r' :: rest => some ('\r', rest)
  | 't' :: rest => some ('\t', rest)
  | 'u' :: rest => readEscapedUnits rest
  | _ => none

/-- The rest of a string behind its opening quote; `fuel` bounds its characters. -/
def readStringFrom (done : List Char) : Nat → Reader String
  | 0, _ => none
  | _ + 1, [] => none
  | fuel + 1, c :: rest =>
    if c == '\x22' then some (String.ofList done.reverse, rest)
    else if c == '\\' then
      match readEscape rest with
      | some (e, rest) => readStringFrom (e :: done) fuel rest
      | none => none
    else if c.toNat < 0x20 then none
    else readStringFrom (c :: done) fuel rest

/-- The rest of a string behind its opening quote. -/
def readString : Reader String := fun cs => readStringFrom [] (cs.length + 1) cs

/-- The digits of a whole number: a zero alone, or digits that do not start with one. -/
def readWhole : Reader (List Char)
  | '0' :: rest =>
    match rest with
    | c :: _ => if c.isDigit then none else some (['0'], rest)
    | [] => some (['0'], [])
  | cs =>
    let digits := cs.takeWhile Char.isDigit
    if digits.isEmpty then none else some (digits, cs.dropWhile Char.isDigit)

/-- The digits behind a point, if there is one. -/
def readFraction : Reader (Option (List Char))
  | '.' :: rest =>
    let digits := rest.takeWhile Char.isDigit
    if digits.isEmpty then none else some (some digits, rest.dropWhile Char.isDigit)
  | cs => some (none, cs)

/-- The power of ten, if there is one. -/
def readExponent : Reader (Option Int)
  | [] => some (none, [])
  | c :: rest =>
    if c == 'e' || c == 'E' then
      let (negative, rest) := Decimal.readSign rest
      let digits := rest.takeWhile Char.isDigit
      if digits.isEmpty then none
      else
        let n : Int := Decimal.digitsValue digits
        some (some (if negative then -n else n), rest.dropWhile Char.isDigit)
    else some (none, c :: rest)

/-- The number of given sign, digits and power: an integer if it is written as one and fits. -/
def numberOf (negative : Bool) (whole : List Char) (fraction : Option (List Char))
    (power : Option Int) : Option Json :=
  let n := Decimal.digitsValue whole
  match fraction, power with
  | none, none =>
    if !negative && n < Nat.pow 2 64 then some (integer n)
    else if negative && 0 < n && n ≤ Nat.pow 2 63 then some (integer (-(n : Int)))
    else finite (Decimal.Binary64.ofDecimal negative n 0)
  | _, _ =>
    let places := fraction.getD []
    let digits := Decimal.digitsValue (whole ++ places)
    finite (Decimal.Binary64.ofDecimal negative digits (power.getD 0 - places.length))
where
  /-- A double, if the number is not beyond all of them. -/
  finite : Decimal.Binary64 → Option Json
    | .finite s m e => some (double (.finite s m e))
    | _ => none

/-- A number. -/
def readNumber : Reader Json := fun cs => do
  let (negative, rest) :=
    match cs with
    | '-' :: rest => (true, rest)
    | _ => (false, cs)
  let (whole, rest) ← readWhole rest
  let (fraction, rest) ← readFraction rest
  let (power, rest) ← readExponent rest
  let value ← numberOf negative whole fraction power
  some (value, rest)

/-- Items up to the closing bracket, read with `item`; `fuel` bounds their number. -/
def readItems (item : Reader Json) (done : List Json) : Nat → Reader Json
  | 0, _ => none
  | fuel + 1, cs => do
    let (value, rest) ← item (skipSpaces cs)
    match skipSpaces rest with
    | ',' :: rest => readItems item (value :: done) fuel rest
    | ']' :: rest => some (array (value :: done).reverse, rest)
    | _ => none

/-- Members up to the closing brace, their values read with `item`. -/
def readMembers (item : Reader Json) (done : List (String × Json)) : Nat → Reader Json
  | 0, _ => none
  | fuel + 1, cs =>
    match skipSpaces cs with
    | '\x22' :: rest => do
      let (name, rest) ← readString rest
      match skipSpaces rest with
      | ':' :: rest => do
        let (value, rest) ← item (skipSpaces rest)
        match skipSpaces rest with
        | ',' :: rest => readMembers item ((name, value) :: done) fuel rest
        | '\x7d' :: rest => some (object ((name, value) :: done).reverse, rest)
        | _ => none
      | _ => none
    | _ => none

/-- A document that is neither an array nor an object. -/
def readScalar : Reader Json
  | 'n' :: 'u' :: 'l' :: 'l' :: rest => some (null, rest)
  | 't' :: 'r' :: 'u' :: 'e' :: rest => some (bool true, rest)
  | 'f' :: 'a' :: 'l' :: 's' :: 'e' :: rest => some (bool false, rest)
  | '\x22' :: rest => (readString rest).map fun (s, rest) => (string s, rest)
  | cs => readNumber cs

/-- A document whose arrays and objects are nested at most `depth` deep. -/
def readValue : Nat → Reader Json
  | 0 => readScalar
  | depth + 1 => fun cs =>
    match cs with
    | '[' :: rest =>
      match skipSpaces rest with
      | ']' :: rest => some (array [], rest)
      | rest => readItems (readValue depth) [] (rest.length + 1) rest
    | '\x7b' :: rest =>
      match skipSpaces rest with
      | '\x7d' :: rest => some (object [], rest)
      | rest => readMembers (readValue depth) [] (rest.length + 1) rest
    | cs => readScalar cs

/-- The document a text holds, its members as written. -/
def read? (s : String) : Option Json := do
  let (value, rest) ← readValue maxDepth (skipSpaces s.toList)
  if (skipSpaces rest).isEmpty then some value else none

end Stencil.Json
