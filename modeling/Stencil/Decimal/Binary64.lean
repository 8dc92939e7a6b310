/-
Binary floating point with 53 bits, as exact data.

A finite number is a sign, a mantissa and a power of two.  Every operation takes
the exact result, a quotient of natural numbers, and rounds it once: to the
nearest number of the format, and to the even mantissa if two are equally near.
Numbers below the smallest normal one lose bits, and numbers beyond the largest
one become infinite.
-/
namespace Stencil.Decimal

/-- A number of the format: `mantissa * 2 ^ exponent`, an infinity, or no number. -/
inductive Binary64 where
  | nan
  | infinite (negative : Bool)
  | finite (negative : Bool) (mantissa : Nat) (exponent : Int)
deriving DecidableEq, Repr

/-- The quotient rounded to the nearest integer, a half to the even one. -/
def divRoundEven (num den : Nat) : Nat :=
  let q := num / den
  let r := num % den
  if 2 * r < den || (2 * r == den && q % 2 == 0) then q else q + 1

namespace Binary64

/-- The lowest power of two of a mantissa. -/
def leastExponent : Int := -1074

/-- The highest power of two of a mantissa. -/
def greatestExponent : Int := 971

def zero : Binary64 := finite false 0 leastExponent

/-- The quotient `num / den / 2 ^ e` rounded to the nearest integer. -/
def mantissaAt (num den : Nat) (e : Int) : Nat :=
  match e with
  | .ofNat k => divRoundEven num (den * Nat.pow 2 k)
  | .negSucc k => divRoundEven (num * Nat.pow 2 (k + 1)) den

/-- The whole part of `num / den / 2 ^ e`. -/
def wholeAt (num den : Nat) (e : Int) : Nat :=
  match e with
  | .ofNat k => num / (den * Nat.pow 2 k)
  | .negSucc k => num * Nat.pow 2 (k + 1) / den

/-- The power of two at which a quotient has 53 bits before the point. -/
def exponentOf (num den : Nat) : Int :=
  let guess : Int := (Nat.log2 num : Int) - Nat.log2 den - 52
  let whole := wholeAt num den guess
  let e :=
    if whole < Nat.pow 2 52 then guess - 1
    else if whole < Nat.pow 2 53 then guess
    else guess + 1
  max e leastExponent

/-- The number nearest to a quotient. -/
def round (negative : Bool) (num den : Nat) : Binary64 :=
  if num == 0 then finite negative 0 leastExponent
  else
    let e := exponentOf num den
    let m := mantissaAt num den e
    let (m, e) := if m == Nat.pow 2 53 then (Nat.pow 2 52, e + 1) else (m, e)
    if greatestExponent < e then infinite negative else finite negative m e

/-- The magnitude of a finite number as a quotient. -/
def quotient (mantissa : Nat) (exponent : Int) : Nat × Nat :=
  match exponent with
  | .ofNat k => (mantissa * Nat.pow 2 k, 1)
  | .negSucc k => (mantissa, Nat.pow 2 (k + 1))

def ofNat (n : Nat) : Binary64 := round false n 1

/-- `digits * 10 ^ power`, rounded once; powers far outside the range are cut off first. -/
def ofDecimal (negative : Bool) (digits : Nat) (power : Int) : Binary64 :=
  let width : Int := (Nat.toDigits 10 digits).length
  if digits == 0 || width + power < -400 then finite negative 0 leastExponent
  else if 400 < width + power then infinite negative
  else
    match power with
    | .ofNat k => round negative (digits * Nat.pow 10 k) 1
    | .negSucc k => round negative digits (Nat.pow 10 (k + 1))

def mul : Binary64 → Binary64 → Binary64
  | nan, _ => nan
  | _, nan => nan
  | infinite s, infinite t => infinite (s != t)
  | infinite s, finite t m _ => if m == 0 then nan else infinite (s != t)
  | finite s m _, infinite t => if m == 0 then nan else infinite (s != t)
  | finite s m e, finite t n f =>
    let (a, b) := quotient (m * n) (e + f)
    round (s != t) a b

/-- The sum, brought to the lower of the two powers of two. -/
def add : Binary64 → Binary64 → Binary64
  | nan, _ => nan
  | _, nan => nan
  | infinite s, infinite t => if s == t then infinite s else nan
  | infinite s, finite .. => infinite s
  | finite .., infinite t => infinite t
  | finite s m e, finite t n f =>
    let low := min e f
    let a := m * Nat.pow 2 (e - low).toNat
    let b := n * Nat.pow 2 (f - low).toNat
    if s == t then
      let (num, den) := quotient (a + b) low
      round s num den
    else if a == b then finite false 0 leastExponent
    else if b < a then
      let (num, den) := quotient (a - b) low
      round s num den
    else
      let (num, den) := quotient (b - a) low
      round t num den

/-- The strict order; zeros of both signs are equal, and nothing is below or above `nan`. -/
def lt : Binary64 → Binary64 → Bool
  | nan, _ => false
  | _, nan => false
  | infinite s, infinite t => s && !t
  | infinite s, finite .. => s
  | finite .., infinite t => !t
  | finite s m e, finite t n f =>
    let low := min e f
    let a := m * Nat.pow 2 (e - low).toNat
    let b := n * Nat.pow 2 (f - low).toNat
    match s, t with
    | false, false => a < b
    | true, true => b < a
    | true, false => a != 0 || b != 0
    | false, true => false

/-- The smaller of two numbers; `nan` counts as absent. -/
def smaller : Binary64 → Binary64 → Binary64
  | nan, b => b
  | a, nan => a
  | a, b => if b.lt a then b else a

/-- The larger of two numbers; `nan` counts as absent. -/
def larger : Binary64 → Binary64 → Binary64
  | nan, b => b
  | a, nan => a
  | a, b => if a.lt b then b else a

end Binary64
end Stencil.Decimal
