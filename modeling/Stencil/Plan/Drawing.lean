/-
Drawings of plans.

A plan is drawn with one line per operator, its inputs below it.  The last input
hangs on `+- ` and every other one on `:- `; a colon runs down to the next.
-/
import Stencil.Plan.Description

namespace Stencil.Plan

mutual

/-- The lines of a plan: `first` stands in front of its own line, `margin` in front of those
below. -/
def lines (describe : Plan → String) (first margin : String) : Plan → List String
  | ⟨op, inputs, fields⟩ =>
    (first ++ describe ⟨op, inputs, fields⟩) :: linesOfInputs describe margin inputs

/-- The lines of the inputs of an operator. -/
def linesOfInputs (describe : Plan → String) (margin : String) : List Plan → List String
  | [] => []
  | p :: rest =>
    lines describe (margin ++ (if rest.isEmpty then "+- " else ":- "))
        (margin ++ (if rest.isEmpty then "   " else ":  ")) p
      ++ linesOfInputs describe margin rest

end

/-- The drawing of a plan, each line ended. -/
def draw (describe : Plan → String) (p : Plan) : String :=
  String.join ((lines describe "" "" p).map (· ++ "\n"))

/-- What a plan computes. -/
def drawLogical (p : Plan) : String := draw (fun q => q.logical.written) p

/-- How a plan computes it, with the details asked for. -/
def drawPhysical (details : List Detail) (p : Plan) : String := draw (detailed details) p

end Stencil.Plan
