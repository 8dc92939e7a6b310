/-
A class of characters as the code points where membership changes.

The classes of the Unicode standard are long runs of members and of non-members.
Writing down only where a run starts makes the table short and the question
"is this character in the class?" a count: a code point belongs to the class
exactly when an odd number of switches lies at or below it.
-/
namespace Stencil.Text

/-- The code points at which a class of characters starts or stops, ascending. -/
structure CharClass where
  switches : List Nat

namespace CharClass

/-- Membership: an odd number of switches at or below the character. -/
def contains (k : CharClass) (c : Char) : Bool :=
  (k.switches.takeWhile (· ≤ c.toNat)).length % 2 == 1

end CharClass
end Stencil.Text
