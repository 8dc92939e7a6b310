/-
Queries and expressions.

The tree keeps apart what planning looks at: names, literals, operators, calls,
casts, and every clause of a query that decides about rows and columns.  All
other constructs are phrases, sequences of words with the expressions and
queries that stand between them, so that nothing inside them is lost.  A tree is
always written out in one form, whatever the spelling it was read from.
-/
import Stencil.Sql.Name

namespace Stencil.Sql

/-- A constant.  Strings in other than plain notation are kept as they are written out. -/
inductive Literal where
  | number (text : String) (long : Bool)
  | text (value : String)
  | boolean (value : Bool)
  | null
  | verbatim (written : String)
deriving DecidableEq, Repr

/-- The operators with one operand; the factorial stands behind it. -/
inductive UnaryOperator where
  | not
  | minus
  | plus
  | factorial
deriving DecidableEq, Repr

/-- The ways to write a cast. -/
inductive CastForm where
  | cast
  | tryCast
  | safeCast
  | colons
deriving DecidableEq, Repr

/-- A name given to a relation, with names for its columns. -/
structure Alias where
  name : Name
  columns : List Name
deriving DecidableEq, Repr

inductive SetOperator where
  | union
  | except
  | intersect
deriving DecidableEq, Repr

inductive SetQuantifier where
  | all
  | distinct
  | byName
  | allByName
  | distinctByName
  | none
deriving DecidableEq, Repr

/-- The kinds of joins; an as-of join carries its condition in `Join.matching`. -/
inductive JoinKind where
  | inner
  | left
  | right
  | full
  | cross
  | leftSemi
  | rightSemi
  | leftAnti
  | rightAnti
  | crossApply
  | outerApply
  | asOf
deriving DecidableEq, Repr

mutual

/-- An expression. -/
inductive Expr where
  | name (n : Name)
  | qualified (parts : QualifiedName)
  | literal (value : Literal)
  | nested (inner : Expr)
  | unary (op : UnaryOperator) (operand : Expr)
  | infixed (left : Expr) (op : String) (right : Expr)
  | isNull (operand : Expr)
  | isNotNull (operand : Expr)
  | call (function : QualifiedName) (rest : List Piece) (windowed : Bool)
  | cast (form : CastForm) (operand : Expr) (target : String)
  | phrase (pieces : List Piece)

/-- A part of a phrase. -/
inductive Piece where
  | words (text : String)
  | expr (e : Expr)
  | query (q : Query)

/-- A query: its body, and the clauses that order and limit the rows. -/
structure Query where
  recursive : Bool
  ctes : List Cte
  body : Body
  order : List OrderKey
  interpolation : List Piece
  limit : Option Expr
  offset : Option Expr
  offsetUnit : String
  limitTail : List Piece
  fetch : Option Fetch
  tail : List Piece

/-- A query named in front of another. -/
structure Cte where
  label : Alias
  query : Query
  source : Option Name

/-- A key to order by. -/
structure OrderKey where
  key : Expr
  ascending : Option Bool
  tail : List Piece

/-- The clause that fetches the first rows. -/
structure Fetch where
  quantity : Option Expr
  percent : Bool
  withTies : Bool

/-- What a query draws its rows from. -/
inductive Body where
  | select (s : Select)
  | query (q : Query)
  | setOperation (op : SetOperator) (quantifier : SetQuantifier) (left right : Body)
  | values (explicitRow : Bool) (rows : List (List Expr))
  | other (pieces : List Piece)

/-- A selection of rows and columns. -/
structure Select where
  distinct : Bool
  distinctOn : List Piece
  top : List Piece
  projection : List SelectItem
  into : String
  sources : List From
  views : List Piece
  selection : Option Expr
  grouping : Grouping
  clustering : List Piece
  having : Option Expr
  tail : List Piece

/-- The clause that groups rows: by everything that is not aggregated, or by keys. -/
inductive Grouping where
  | all (modifiers : String)
  | keys (keys : List Expr) (modifiers : String)

/-- An item of a select list. -/
inductive SelectItem where
  | expr (e : Expr)
  | aliased (e : Expr) (label : Name)
  | wildcard (options : List Piece)
  | qualifiedWildcard (qualifier : QualifiedName) (options : List Piece)

/-- An item of a FROM clause: a factor and what is joined to it. -/
structure From where
  factor : Factor
  joins : List Join

/-- What rows are drawn from. -/
inductive Factor where
  | table (name : QualifiedName) (arguments : List Piece) (label : Option Alias)
      (hints : List Piece)
  | derived (lateral : Bool) (query : Query) (label : Option Alias)
  | nested (inner : From) (label : Option Alias)
  | other (pieces : List Piece) (label : Option Alias) (tail : List Piece)

/-- A factor joined to what stands before it. -/
structure Join where
  global : Bool
  kind : JoinKind
  factor : Factor
  matching : List Piece
  constraint : Constraint

/-- The condition of a join. -/
inductive Constraint where
  | on (condition : Expr)
  | using (columns : List Name)
  | natural
  | none

end

end Stencil.Sql
