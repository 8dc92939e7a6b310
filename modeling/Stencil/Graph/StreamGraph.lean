/-
Stream graphs: transformations as a document.

The document names each node with what it is for the job, and lists the nodes it
draws from.  A node without predecessors leaves their list out.
-/
import Stencil.Graph.Transformation
import Stencil.Json.Printer
import Stencil.Json.Reader
import Stencil.Json.Record

namespace Stencil

/-- A node that another one draws from. -/
structure Predecessor where
  id : Nat
  strategy : Plan.Distribution
  side : String
deriving DecidableEq, Repr

/-- A node of a graph. -/
structure StreamNode where
  id : Nat
  type : String
  pact : String
  contents : String
  parallelism : Nat
  predecessors : List Predecessor
deriving DecidableEq, Repr

/-- The nodes of a job. -/
structure StreamGraph where
  nodes : List StreamNode
deriving DecidableEq, Repr

namespace StreamGraph

/-! ### From transformations -/

/-- What a node is for the job. -/
def pact : Transformation.Role → String
  | .source => "Data Source"
  | .operator => "Operator"
  | .sink => "Data Sink"

/-- What stands in front of the name of a node. -/
def mark : Transformation.Role → String
  | .source => "Source: "
  | .operator => ""
  | .sink => "Sink: "

/-- The node of a transformation. -/
def node (t : Transformation) : StreamNode :=
  let type := mark t.role ++ t.name
  { id := t.id
    type
    pact := pact t.role
    contents := "[" ++ toString t.id ++ "]:" ++ type
    parallelism := t.parallelism
    predecessors := t.inputs.map fun i => ⟨i.id, i.strategy, "second"⟩ }

/-- The graph of transformations. -/
def ofTransformations (ts : List Transformation) : StreamGraph := ⟨ts.map node⟩

/-! ### Writing -/

/-- The name of a way in which rows are shipped. -/
def strategyName : Plan.Distribution → String
  | .forward => "FORWARD"
  | .hash => "HASH"
  | .global => "GLOBAL"

def Predecessor.json (p : Predecessor) : Json :=
  .object [("id", .integer p.id), ("ship_strategy", .string (strategyName p.strategy)),
    ("side", .string p.side)]

def StreamNode.json (n : StreamNode) : Json :=
  .object ([("id", .integer n.id), ("type", .string n.type), ("pact", .string n.pact),
    ("contents", .string n.contents), ("parallelism", .integer n.parallelism)]
    ++ (if n.predecessors.isEmpty then []
      else [("predecessors", .array (n.predecessors.map Predecessor.json))]))

/-- The document of a graph. -/
def json (g : StreamGraph) : Json := .object [("nodes", .array (g.nodes.map StreamNode.json))]

/-- The document of a graph in writing. -/
def written (g : StreamGraph) : String := g.json.pretty

/-! ### Reading -/

/-- The way of shipping that has the name. -/
def strategyOf? : String → Option Plan.Distribution
  | "FORWARD" => some .forward
  | "HASH" => some .hash
  | "GLOBAL" => some .global
  | _ => none

def Predecessor.ofJson? (j : Json) : Option Predecessor := do
  match ← j.fields? ["id", "ship_strategy", "side"] with
  | [some id, some strategy, some side] =>
    let id ← id.natBelow? (Nat.pow 2 64)
    let strategy ← strategyOf? (← strategy.alternative?)
    let side ← side.string?
    return ⟨id, strategy, side⟩
  | _ => none

/-- The predecessors of a node, none if the list is left out. -/
def predecessors? : Option Json → Option (List Predecessor)
  | none => some []
  | some list => do (← list.array?).mapM Predecessor.ofJson?

def StreamNode.ofJson? (j : Json) : Option StreamNode := do
  match ← j.fields? ["id", "type", "pact", "contents", "parallelism", "predecessors"] with
  | [some id, some type, some pact, some contents, some parallelism, list] =>
    let id ← id.natBelow? (Nat.pow 2 64)
    let type ← type.string?
    let pact ← pact.string?
    let contents ← contents.string?
    let parallelism ← parallelism.natBelow? (Nat.pow 2 32)
    let predecessors ← predecessors? list
    return { id, type, pact, contents, parallelism, predecessors }
  | _ => none

/-- The graph that a document holds. -/
def ofJson? (j : Json) : Option StreamGraph := do
  match ← j.fields? ["nodes"] with
  | [some list] => return ⟨← (← list.array?).mapM StreamNode.ofJson?⟩
  | _ => none

/-- The graph that a text holds. -/
def read? (text : String) : Option StreamGraph := (Json.read? text).bind ofJson?

end StreamGraph
end Stencil
