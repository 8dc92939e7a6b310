/-
The written form of queries and expressions.

Keywords are in upper case, one blank stands between tokens and a comma and a
blank between the items of a list.  Names and numbers are written as they were
read, parentheses are kept and none is added, and every alias has its AS.
-/
import Stencil.Sql.Tree

namespace Stencil.Sql

/-- A string between single quotes. -/
def inSingleQuotes (s : String) : String := inQuotes '\x27' s

def Literal.written : Literal → String
  | number digits long => if long then digits ++ "L" else digits
  | text value => inSingleQuotes value
  | boolean value => if value then "true" else "false"
  | null => "NULL"
  | verbatim written => written

/-- An operator with the written form of its operand. -/
def UnaryOperator.apply : UnaryOperator → String → String
  | not, operand => "NOT " ++ operand
  | minus, operand => "-" ++ operand
  | plus, operand => "+" ++ operand
  | factorial, operand => operand ++ "!"

/-- The column names behind an alias, if there are any. -/
def writtenColumns (columns : List Name) : String :=
  if columns.isEmpty then "" else " (" ++ writtenNames columns ++ ")"

def Alias.written (a : Alias) : String := a.name.written ++ writtenColumns a.columns

/-- An alias with its keyword, if there is one. -/
def writtenAlias : Option Alias → String
  | some a => " AS " ++ a.written
  | none => ""

def SetOperator.written : SetOperator → String
  | union => "UNION"
  | except => "EXCEPT"
  | intersect => "INTERSECT"

def SetQuantifier.written : SetQuantifier → String
  | all => " ALL"
  | distinct => " DISTINCT"
  | byName => " BY NAME"
  | allByName => " ALL BY NAME"
  | distinctByName => " DISTINCT BY NAME"
  | none => ""

def JoinKind.written : JoinKind → String
  | inner => "JOIN"
  | left => "LEFT JOIN"
  | right => "RIGHT JOIN"
  | full => "FULL JOIN"
  | cross => "CROSS JOIN"
  | leftSemi => "LEFT SEMI JOIN"
  | rightSemi => "RIGHT SEMI JOIN"
  | leftAnti => "LEFT ANTI JOIN"
  | rightAnti => "RIGHT ANTI JOIN"
  | crossApply => "CROSS APPLY"
  | outerApply => "OUTER APPLY"
  | asOf => "ASOF JOIN"

/-- The word in front of a natural join. -/
def Constraint.writtenBefore : Constraint → String
  | natural => "NATURAL "
  | _ => ""

/-- The direction of an ordering, if it is given. -/
def writtenDirection : Option Bool → String
  | some true => " ASC"
  | some false => " DESC"
  | none => ""

mutual

def Expr.written : Expr → String
  | .name n => n.written
  | .qualified parts => QualifiedName.written parts
  | .literal value => value.written
  | .nested inner => "(" ++ inner.written ++ ")"
  | .unary op operand => op.apply operand.written
  | .infixed left op right => left.written ++ " " ++ op ++ " " ++ right.written
  | .isNull operand => operand.written ++ " IS NULL"
  | .isNotNull operand => operand.written ++ " IS NOT NULL"
  | .call function rest _ => QualifiedName.written function ++ writtenPieces rest
  | .cast .cast operand target => "CAST(" ++ operand.written ++ " AS " ++ target ++ ")"
  | .cast .tryCast operand target => "TRY_CAST(" ++ operand.written ++ " AS " ++ target ++ ")"
  | .cast .safeCast operand target => "SAFE_CAST(" ++ operand.written ++ " AS " ++ target ++ ")"
  | .cast .colons operand target => operand.written ++ "::" ++ target
  | .phrase pieces => writtenPieces pieces

def Piece.written : Piece → String
  | .words text => text
  | .expr e => e.written
  | .query q => q.written

/-- The pieces of a phrase, one right after the other. -/
def writtenPieces : List Piece → String
  | [] => ""
  | p :: rest => p.written ++ writtenPieces rest

/-- Expressions with commas in between. -/
def writtenExprs : List Expr → String
  | [] => ""
  | e :: rest => e.written ++ writtenMoreExprs rest

/-- Expressions with a comma in front of each. -/
def writtenMoreExprs : List Expr → String
  | [] => ""
  | e :: rest => ", " ++ e.written ++ writtenMoreExprs rest

/-- An expression behind the words that introduce it, if there is one. -/
def writtenOption (lead : String) : Option Expr → String
  | some e => lead ++ e.written
  | none => ""

def Query.written : Query → String
  | ⟨recursive, ctes, body, order, interpolation, limit, offset, offsetUnit, limitTail, fetch,
      tail⟩ =>
    writtenCtes recursive ctes ++ body.written ++ writtenOrder " ORDER BY " order
      ++ writtenPieces interpolation ++ writtenOption " LIMIT " limit
      ++ writtenOption " OFFSET " offset ++ offsetUnit ++ writtenPieces limitTail
      ++ writtenFetch fetch ++ writtenPieces tail

/-- The clause that names queries in front of another. -/
def writtenCtes (recursive : Bool) : List Cte → String
  | [] => ""
  | c :: rest =>
    (if recursive then "WITH RECURSIVE " else "WITH ") ++ c.written ++ writtenMoreCtes rest ++ " "

/-- Named queries with a comma in front of each. -/
def writtenMoreCtes : List Cte → String
  | [] => ""
  | c :: rest => ", " ++ c.written ++ writtenMoreCtes rest

def Cte.written : Cte → String
  | ⟨label, query, source⟩ =>
    label.written ++ " AS (" ++ query.written ++ ")"
      ++ (match source with
        | some n => " FROM " ++ n.written
        | none => "")

/-- Ordering keys behind the words that introduce them, or between commas. -/
def writtenOrder (lead : String) : List OrderKey → String
  | [] => ""
  | k :: rest => lead ++ k.written ++ writtenOrder ", " rest

def OrderKey.written : OrderKey → String
  | ⟨key, ascending, tail⟩ => key.written ++ writtenDirection ascending ++ writtenPieces tail

def writtenFetch : Option Fetch → String
  | some f => f.written
  | none => ""

def Fetch.written : Fetch → String
  | ⟨quantity, percent, withTies⟩ =>
    writtenOption " " quantity |> fun q =>
      " FETCH FIRST" ++ q ++ (if percent then " PERCENT" else "") ++ " ROWS "
        ++ (if withTies then "WITH TIES" else "ONLY")

def Body.written : Body → String
  | .select s => s.written
  | .query q => "(" ++ q.written ++ ")"
  | .setOperation op quantifier left right =>
    left.written ++ " " ++ op.written ++ quantifier.written ++ " " ++ right.written
  | .values explicitRow rows => "VALUES " ++ writtenRows explicitRow "" rows
  | .other pieces => writtenPieces pieces

/-- Rows of values, each behind the mark that separates it from the one before. -/
def writtenRows (explicitRow : Bool) (mark : String) : List (List Expr) → String
  | [] => ""
  | row :: rest =>
    mark ++ (if explicitRow then "ROW(" else "(") ++ writtenExprs row ++ ")"
      ++ writtenRows explicitRow ", " rest

def Select.written : Select → String
  | ⟨distinct, distinctOn, top, projection, into, sources, views, selection, grouping, clustering,
      having, tail⟩ =>
    "SELECT" ++ (if distinct then " DISTINCT" else "") ++ writtenPieces distinctOn
      ++ writtenPieces top ++ writtenItems " " projection ++ into ++ writtenSources " FROM " sources
      ++ writtenPieces views ++ writtenOption " WHERE " selection ++ grouping.written
      ++ writtenPieces clustering ++ writtenOption " HAVING " having ++ writtenPieces tail

def Grouping.written : Grouping → String
  | .all modifiers => " GROUP BY ALL" ++ modifiers
  | .keys [] _ => ""
  | .keys (k :: rest) modifiers =>
    " GROUP BY " ++ k.written ++ writtenMoreExprs rest ++ modifiers

/-- Select items behind a blank, or between commas. -/
def writtenItems (lead : String) : List SelectItem → String
  | [] => ""
  | item :: rest => lead ++ item.written ++ writtenItems ", " rest

def SelectItem.written : SelectItem → String
  | .expr e => e.written
  | .aliased e label => e.written ++ " AS " ++ label.written
  | .wildcard options => "*" ++ writtenPieces options
  | .qualifiedWildcard qualifier options =>
    QualifiedName.written qualifier ++ ".*" ++ writtenPieces options

/-- The items of a FROM clause behind its keyword, or between commas. -/
def writtenSources (lead : String) : List From → String
  | [] => ""
  | f :: rest => lead ++ f.written ++ writtenSources ", " rest

def From.written : From → String
  | ⟨factor, joins⟩ => factor.written ++ writtenJoins joins

def writtenJoins : List Join → String
  | [] => ""
  | j :: rest => j.written ++ writtenJoins rest

def Factor.written : Factor → String
  | .table name arguments label hints =>
    QualifiedName.written name ++ writtenPieces arguments ++ writtenAlias label
      ++ writtenPieces hints
  | .derived lateral query label =>
    (if lateral then "LATERAL (" else "(") ++ query.written ++ ")" ++ writtenAlias label
  | .nested inner label => "(" ++ inner.written ++ ")" ++ writtenAlias label
  | .other pieces label tail => writtenPieces pieces ++ writtenAlias label ++ writtenPieces tail

def Join.written : Join → String
  | ⟨global, kind, factor, matching, constraint⟩ =>
    (if global then " GLOBAL " else " ") ++ constraint.writtenBefore ++ kind.written ++ " "
      ++ factor.written ++ writtenPieces matching ++ constraint.written

def Constraint.written : Constraint → String
  | .on condition => " ON " ++ condition.written
  | .using columns => " USING(" ++ writtenNames columns ++ ")"
  | .natural => ""
  | .none => ""

end

end Stencil.Sql
