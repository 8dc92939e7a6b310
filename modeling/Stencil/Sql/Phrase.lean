/-
Phrases: constructs that are kept as the pieces they are written in.
-/
import Stencil.Sql.Written

namespace Stencil.Sql

/-- Several phrases with `mark` in between. -/
def separated (mark : String) : List (List Piece) → List Piece
  | [] => []
  | [p] => p
  | p :: q :: rest => p ++ .words mark :: separated mark (q :: rest)

/-- Expressions with commas in between. -/
def listed (es : List Expr) : List Piece := separated ", " (es.map fun e => [.expr e])

/-- A phrase between parentheses. -/
def parenthesized (p : List Piece) : List Piece := .words "(" :: (p ++ [.words ")"])

/-- A phrase with words in front, unless nothing is there to introduce. -/
def introduced (lead : String) (p : List Piece) : List Piece :=
  if p.isEmpty then [] else .words lead :: p

/-- An expression with words in front, if it is there. -/
def introducedExpr (lead : String) : Option Expr → List Piece
  | some e => [.words lead, .expr e]
  | none => []

/-- The pieces of an ordering key. -/
def OrderKey.pieces (k : OrderKey) : List Piece :=
  .expr k.key :: .words (writtenDirection k.ascending) :: k.tail

/-- Ordering keys with commas in between. -/
def orderPieces (keys : List OrderKey) : List Piece := separated ", " (keys.map OrderKey.pieces)

end Stencil.Sql
