/-
Transformations: the operators of plans in the order in which they run.

A plan is flattened with the inputs of an operator in front of the operator.
Each transformation has the number of its place, counted from one over all plans
that are translated together.
-/
import Stencil.Plan.Description

namespace Stencil

namespace Transformation

/-- What a transformation is for the job. -/
inductive Role where
  | source
  | operator
  | sink
deriving DecidableEq, Repr

/-- An edge into a transformation, from the transformation of the number. -/
structure Input where
  id : Nat
  strategy : Plan.Distribution
deriving DecidableEq, Repr

end Transformation

/-- An operator of a plan as it runs. -/
structure Transformation where
  id : Nat
  name : String
  role : Transformation.Role
  parallelism : Nat
  inputs : List Transformation.Input
deriving DecidableEq, Repr

namespace Plan

open Transformation

/-- What an operator is for the job: it writes, it has no inputs, or neither. -/
def Operator.role (op : Operator) (isLeaf : Bool) : Role :=
  match op with
  | sink .. => .sink
  | _ => if isLeaf then .source else .operator

/-- How many instances of an operator run at once; a global one runs alone. -/
def Operator.instances (parallelism : Nat) (op : Operator) : Nat :=
  if op.distribution = .global then 1 else parallelism

mutual

/-- The transformations of a plan, the root's last; `last` is the number given out before. -/
def transformations (parallelism last : Nat) : Plan → List Transformation
  | ⟨op, inputs, fields⟩ =>
    let below := inputTransformations parallelism last inputs
    below.1 ++ [{
      id := last + below.1.length + 1
      name := (op.physical (fields.map (·.name))).written
      role := op.role inputs.isEmpty
      parallelism := op.instances parallelism
      inputs := below.2.map fun id => ⟨id, op.distribution⟩ }]

/-- The transformations of the inputs of an operator, and the numbers of their roots. -/
def inputTransformations (parallelism last : Nat) :
    List Plan → List Transformation × List Nat
  | [] => ([], [])
  | p :: rest =>
    let first := transformations parallelism last p
    let root := last + first.length
    let others := inputTransformations parallelism root rest
    (first ++ others.1, root :: others.2)

end

/-- The transformations of plans one after the other. -/
def translate (parallelism : Nat) (plans : List Plan) : List Transformation :=
  (inputTransformations parallelism 0 plans).1

end Plan
end Stencil
