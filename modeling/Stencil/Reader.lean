/-
Readers: taking values from the front of a text.

A reader hands back a value and the text behind it, or nothing.  Where one reader
fails another one may be tried on the same text.  Repetition is bounded by the
length of the text, which is enough for readers that take a character or more.
-/
import Stencil.Text.Search

namespace Stencil

/-- A reader takes a value from the front of a text. -/
abbrev Reader (α : Type) := StateT (List Char) Option α

namespace Reader

variable {α : Type}

/-- The next character, which has to be in a class. -/
def one (p : Char → Bool) : Reader Char := fun cs =>
  match cs with
  | c :: rest => if p c then some (c, rest) else none
  | [] => none

/-- The longest run of characters of a class, which may be empty. -/
def run (p : Char → Bool) : Reader (List Char) := fun cs =>
  some (cs.takeWhile p, cs.dropWhile p)

/-- A certain text. -/
def text (mark : List Char) : Reader Unit := fun cs =>
  (Text.after? mark cs).map fun rest => ((), rest)

/-- A certain character. -/
def char (c : Char) : Reader Unit := text [c]

/-- Nothing, at the end of the text. -/
def atEnd : Reader Unit := fun cs => if cs.isEmpty then some ((), []) else none

/-- A value, or nothing if there is none. -/
def optional (r : Reader α) : Reader (Option α) := fun cs =>
  match r cs with
  | some (a, rest) => some (some a, rest)
  | none => some (none, cs)

/-- Values one after the other, at most as many as the bound says. -/
def atMost (r : Reader α) : Nat → Reader (List α)
  | 0, cs => some ([], cs)
  | bound + 1, cs =>
    match r cs with
    | some (a, rest) => (atMost r bound rest).map fun (as, rest) => (a :: as, rest)
    | none => some ([], cs)

/-- As many values as there are. -/
def many (r : Reader α) : Reader (List α) := fun cs => atMost r cs.length cs

/-- A certain number of values. -/
def exactly (r : Reader α) : Nat → Reader (List α)
  | 0 => pure []
  | count + 1 => do
    let a ← r
    return a :: (← exactly r count)

/-- One value or more, with a mark in between. -/
def separated (mark : Reader Unit) (r : Reader α) : Reader (List α) := do
  let a ← r
  return a :: (← many (mark *> r))

/-- The value that a text holds from beginning to end. -/
def whole? (r : Reader α) (cs : List Char) : Option α :=
  match r cs with
  | some (a, []) => some a
  | _ => none

end Reader
end Stencil
