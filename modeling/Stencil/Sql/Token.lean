/-
The tokens of SQL.

A word carries the form in which keywords are compared, its upper case; a word
between quotes is never a keyword.  Strings come in several notations, which
differ in what may stand inside and in how the string is written out.
-/
namespace Stencil.Sql

/-- How a string is written. -/
inductive StringNotation where
  | plain
  | national
  | hex
  | escaped
  | unicode
  | bytes (mark : Char)
  | raw (mark : Char)
  | dollar (tag : String)
deriving DecidableEq, Repr

/-- A token of SQL. -/
inductive Token where
  | word (text : String) (quote : Option Char) (key : String)
  | number (text : String) (long : Bool)
  | string (kind : StringNotation) (value : String)
  | placeholder (text : String)
  | symbol (text : String)
  | stray (c : Char)
deriving DecidableEq, Repr

namespace Token

/-- The word in upper case, if it is not quoted. -/
def key? : Token → Option String
  | word _ none key => some key
  | _ => none

/-- Whether the token is the keyword, in any case. -/
def isKey (t : Token) (key : String) : Bool := t.key? == some key

/-- Whether the token is one of the keywords. -/
def isAnyKey (t : Token) (keys : List String) : Bool :=
  match t.key? with
  | some key => keys.contains key
  | none => false

/-- Whether the token is the symbol. -/
def isSymbol (t : Token) (text : String) : Bool := t == symbol text

end Token
end Stencil.Sql
