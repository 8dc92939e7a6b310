/-
Completion: what the word under the cursor may go on to.

The word is the longest run of letters, digits and underscores that ends at the
cursor.  Behind a word that asks for a table only tables and views are offered,
elsewhere keywords and functions as well.
-/
import Stencil.Catalog
import Stencil.Text.Bytes
import Stencil.Text.Letter

namespace Stencil.Completion

/-- The keywords that are offered. -/
def keywords : List String :=
  ["ALL", "AND", "AS", "ASC", "BETWEEN", "BY", "CASE", "CAST", "COUNT", "CREATE", "DELETE",
   "DESC", "DISTINCT", "DROP", "ELSE", "END", "EXCEPT", "EXISTS", "EXPLAIN", "FROM", "FULL",
   "GROUP", "HAVING", "IF", "IN", "INNER", "INSERT", "INTERSECT", "INTO", "IS", "JOIN", "LEFT",
   "LIKE", "LIMIT", "NOT", "NULL", "ON", "OR", "ORDER", "OUTER", "RIGHT", "SELECT", "SET",
   "SHOW", "TABLE", "TABLES", "THEN", "UNION", "UPDATE", "VALUES", "VIEW", "WHEN", "WHERE",
   "WITH"]

/-- The words behind which a table or a view is expected. -/
def tableContext : List String := ["FROM", "JOIN", "INTO", "TABLE", "UPDATE", "VIEW"]

/-- A character of a word. -/
def isWordChar (c : Char) : Bool := Text.isAlphanumeric c || c == '_'

/-- The text before the cursor, cut in front of the word that ends there. -/
def wordBefore (text : List Char) : List Char × List Char :=
  let word := (text.reverse.takeWhile isWordChar).reverse
  (text.take (text.length - word.length), word)

/-- The word before the last one asks for a table or a view. -/
def asksForTable (before : List Char) : Bool :=
  match (Text.words (String.ofList before)).getLast? with
  | some word => tableContext.contains (Text.upper word)
  | none => false

/-- What may stand at the cursor. -/
def candidates (c : Catalog) (before : List Char) : List String :=
  if asksForTable before then c.objectNames
  else keywords ++ c.objectNames ++ c.functionNames

/-- The texts in ascending order, each once. -/
def ascending (texts : List String) : List String :=
  (texts.foldl (fun done text => Keyed.put text () done) []).keys

/-- The candidate begins with the word, in any case. -/
def begins (word : List Char) (candidate : String) : Bool :=
  (Text.lower (String.ofList word)).toList.isPrefixOf (Text.lower candidate).toList

/-- What the word that ends at a position may go on to. -/
def hints (c : Catalog) (text : String) (position : Nat) : List String :=
  let (before, word) := wordBefore (Text.takeBytes position text.toList)
  ascending ((candidates c before).filter (begins word))

end Stencil.Completion
