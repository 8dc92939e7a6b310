/-
Names of data types.

A type is read for its written form: upper case for the types of the language,
the spelling of the reader for any other.  Lengths, precisions and element types
stand in parentheses or angle brackets behind it, and `[]` makes an array of it.
The two closing brackets of nested element types may stand together as `>>`, so
reading a type also tells whether it has taken a bracket too many.
-/
import Stencil.Sql.Grammar.Level

namespace Stencil.Sql

/-- Whether the language knows a type by itself. -/
inductive TypeOrigin where
  | language
  | interval
  | custom
deriving DecidableEq, Repr

/-- A data type, in its written form. -/
structure DataType where
  written : String
  origin : TypeOrigin
deriving DecidableEq, Repr

namespace Grammar

open Sql.Parser

/-- A type of the language. -/
def languageType (written : String) : DataType := ⟨written, .language⟩

/-- A number in parentheses, if a parenthesis opens. -/
def optionalLength : Parser String := do
  if ← symbol? "(" then
    let n ← wholeNumber
    symbol ")"
    return "(" ++ toString n ++ ")"
  else return ""

/-- One or two numbers in parentheses, if a parenthesis opens. -/
def optionalPrecision : Parser String := do
  if ← symbol? "(" then
    let p ← wholeNumber
    let scale ← if ← symbol? "," then do
        let s ← wholeNumber
        pure ("," ++ toString s)
      else pure ""
    symbol ")"
    return "(" ++ toString p ++ scale ++ ")"
  else return ""

/-- The length of a character type, with its unit. -/
def optionalCharacters : Parser String := do
  if ← symbol? "(" then
    if ← key? "MAX" then
      symbol ")"
      return "(MAX)"
    let n ← wholeNumber
    let unit ← anyKey? ["CHARACTERS", "OCTETS"]
    symbol ")"
    return "(" ++ toString n ++ (match unit with | some u => " " ++ u | none => "") ++ ")"
  else return ""

/-- An integer type with its length and sign. -/
def integerType (text : String) : Parser DataType := do
  let length ← optionalLength
  let unsigned ← key? "UNSIGNED"
  return languageType (text ++ length ++ (if unsigned then " UNSIGNED" else ""))

/-- The time zone of a type of times. -/
def timeZone : Parser String := do
  if ← key? "WITH" then
    keys ["TIME", "ZONE"]
    return " WITH TIME ZONE"
  else if ← key? "WITHOUT" then
    keys ["TIME", "ZONE"]
    return " WITHOUT TIME ZONE"
  else return ""

/-- A string in plain notation. -/
def plainString : Parser String := do
  match ← next with
  | .string .plain s => pure s
  | _ => failure

/-- The values of an enumeration. -/
def stringValues : Parser String := do
  let values ← inParens (commaList plainString)
  return "(" ++ Text.join ", " (values.map inSingleQuotes) ++ ")"

/-- A modifier of a type that the language does not know. -/
def modifier : Parser String := do
  match ← next with
  | .word text none _ => pure text
  | .word text (some q) _ => pure (String.singleton q ++ text ++ String.singleton q)
  | .number text _ => pure text
  | .string .plain s => pure s
  | _ => failure

/-- The modifiers up to the closing parenthesis; commas between them may be left out. -/
def modifiersFrom : Nat → Parser (List String)
  | 0 => failure
  | n + 1 => do
    if ← symbol? ")" then return []
    if ← symbol? "," then modifiersFrom n
    else
      let m ← modifier
      let rest ← modifiersFrom n
      return m :: rest

/-- A type that the language does not know. -/
def customType : Parser DataType := do
  let n ← qualifiedName
  if ← symbol? "(" then
    let modifiers ← modifiersFrom (← rounds)
    let list := if modifiers.isEmpty then "" else "(" ++ Text.join ", " modifiers ++ ")"
    return ⟨QualifiedName.written n ++ list, .custom⟩
  else return ⟨QualifiedName.written n, .custom⟩

/-- The bracket that closes element types; `true` if it closed two levels. -/
def closingBracket (taken : Bool) : Parser Bool := do
  if taken then return false
  if ← symbol? ">" then return false
  symbol ">>"
  return true

/-- Types of the language whose name says everything. -/
def simpleTypes : List (String × String) :=
  [("BOOLEAN", "BOOLEAN"), ("BOOL", "BOOL"), ("REAL", "REAL"), ("FLOAT4", "FLOAT4"),
   ("FLOAT8", "FLOAT8"), ("FLOAT32", "Float32"), ("FLOAT64", "FLOAT64"), ("INT16", "Int16"),
   ("INT32", "Int32"), ("INT64", "INT64"), ("INT128", "Int128"), ("INT256", "Int256"),
   ("UINT8", "UInt8"), ("UINT16", "UInt16"), ("UINT32", "UInt32"), ("UINT64", "UInt64"),
   ("UINT128", "UInt128"), ("UINT256", "UInt256"), ("UUID", "UUID"), ("DATE", "DATE"),
   ("DATE32", "Date32"), ("JSON", "JSON"), ("JSONB", "JSONB"), ("REGCLASS", "REGCLASS"),
   ("TEXT", "TEXT"), ("BYTEA", "BYTEA"), ("TRIGGER", "TRIGGER")]

/-- Types that may have a length. -/
def sizedTypes : List String :=
  ["FLOAT", "CLOB", "BINARY", "VARBINARY", "BLOB", "BYTES", "DATETIME", "STRING"]

/-- Integer types that may have a length and be unsigned. -/
def integerTypes : List String :=
  ["TINYINT", "INT2", "SMALLINT", "MEDIUMINT", "INT", "INT4", "INT8", "INTEGER", "BIGINT"]

/-- Types that may have a precision and a scale. -/
def exactTypes : List String := ["NUMERIC", "DECIMAL", "DEC", "BIGNUMERIC", "BIGDECIMAL"]

/-- A character type behind its first word. -/
def characterType (text : String) : Parser DataType := do
  if ← key? "VARYING" then return languageType (text ++ " VARYING" ++ (← optionalCharacters))
  if ← keys? ["LARGE", "OBJECT"] then
    return languageType (text ++ " LARGE OBJECT" ++ (← optionalLength))
  return languageType (text ++ (← optionalCharacters))

/-- A field of a record type: a type, with a name in front if two words follow each other. -/
def recordField (element : Parser (DataType × Bool)) : Parser (String × Bool) := do
  match ← peekAt? 0, ← peekAt? 1 with
  | some (.word ..), some (.word ..) =>
    let n ← name
    let (t, taken) ← element
    return (n.written ++ " " ++ t.written, taken)
  | _, _ =>
    let (t, taken) ← element
    return (t.written, taken)

/-- The fields between angle brackets; only the last may have taken a bracket too many. -/
def recordFields (element : Parser (DataType × Bool)) : Nat → Parser (List String × Bool)
  | 0 => failure
  | n + 1 => do
    let (field, taken) ← recordField element
    if ← symbol? "," then
      if taken then failure
      let (rest, taken) ← recordFields element n
      return (field :: rest, taken)
    else return ([field], taken)

/-- The fields of a record type, if angle brackets follow. -/
def recordType (element : Parser (DataType × Bool)) : Parser (List String × Bool) := do
  if ← symbol? "<" then
    let (fields, taken) ← recordFields element (← rounds)
    return (fields, ← closingBracket taken)
  else return ([], false)

/-- The written form of a record type. -/
def writtenRecord (fields : List String) : String :=
  if fields.isEmpty then "STRUCT" else "STRUCT<" ++ Text.join ", " fields ++ ">"

/-- Fields between parentheses, each a name with its type. -/
def namedFields (element : Parser (DataType × Bool)) : Parser String := do
  let fields ← inParens (commaList do
    let n ← name
    let (t, taken) ← element
    if taken then failure
    pure (n.written ++ " " ++ t.written))
  return "(" ++ Text.join ", " fields ++ ")"

/-- The precision of a point in time, and its zone if one is given. -/
def zonedPrecision : Parser String := inParens do
  let n ← wholeNumber
  let zone ← if ← symbol? "," then do pure (", '" ++ (← freeText) ++ "'") else pure ""
  return "(" ++ toString n ++ zone ++ ")"

/-- A type in parentheses. -/
def elementInParens (element : Parser (DataType × Bool)) : Parser String := do
  let (t, taken) ← inParens element
  if taken then failure
  return t.written

/-- A type without the brackets of an array behind it. -/
def bareType (element : Parser (DataType × Bool)) (k : String) : Parser (DataType × Bool) := do
  if let some written := simpleTypes.lookup k then return (languageType written, false)
  if sizedTypes.contains k then return (languageType (k ++ (← optionalLength)), false)
  if integerTypes.contains k then return (← integerType k, false)
  if exactTypes.contains k then return (languageType (k ++ (← optionalPrecision)), false)
  match k with
  | "DOUBLE" =>
    let precise ← key? "PRECISION"
    return (languageType (if precise then "DOUBLE PRECISION" else "DOUBLE"), false)
  | "VARCHAR" | "NVARCHAR" => return (languageType (k ++ (← optionalCharacters)), false)
  | "CHARACTER" | "CHAR" => return (← characterType k, false)
  | "TIMESTAMP" | "TIME" =>
    let length ← optionalLength
    return (languageType (k ++ length ++ (← timeZone)), false)
  | "TIMESTAMPTZ" | "TIMETZ" => return (languageType (k ++ (← optionalLength)), false)
  | "INTERVAL" => return (⟨"INTERVAL", .interval⟩, false)
  | "ENUM" | "SET" => return (languageType (k ++ (← stringValues)), false)
  | "FIXEDSTRING" =>
    let n ← inParens wholeNumber
    return (languageType ("FixedString(" ++ toString n ++ ")"), false)
  | "ARRAY" =>
    symbol "<"
    let (t, taken) ← element
    let taken ← closingBracket taken
    return (languageType ("ARRAY<" ++ t.written ++ ">"), taken)
  | "STRUCT" =>
    let (fields, taken) ← recordType element
    return (languageType (writtenRecord fields), taken)
  | "NULLABLE" => return (languageType ("Nullable(" ++ (← elementInParens element) ++ ")"), false)
  | "LOWCARDINALITY" =>
    return (languageType ("LowCardinality(" ++ (← elementInParens element) ++ ")"), false)
  | "MAP" =>
    symbol "("
    let (a, _) ← element
    symbol ","
    let (b, _) ← element
    symbol ")"
    return (languageType ("Map(" ++ a.written ++ ", " ++ b.written ++ ")"), false)
  | "TUPLE" =>
    let fields ← inParens (commaList (recordField element))
    return (languageType ("Tuple(" ++ Text.join ", " (fields.map (·.1)) ++ ")"), false)
  | "NESTED" => return (languageType ("Nested" ++ (← namedFields element)), false)
  | "UNION" => return (languageType ("UNION" ++ (← namedFields element)), false)
  | "DATETIME64" => return (languageType ("DateTime64" ++ (← zonedPrecision)), false)
  | _ => failure

/-- The first words that only a type of the language can have. -/
def typeWords : List String :=
  simpleTypes.map (·.1) ++ sizedTypes ++ integerTypes ++ exactTypes
    ++ ["DOUBLE", "VARCHAR", "NVARCHAR", "CHARACTER", "CHAR", "TIMESTAMP", "TIME", "TIMESTAMPTZ",
        "TIMETZ", "INTERVAL", "ENUM", "SET", "FIXEDSTRING", "ARRAY", "STRUCT", "NULLABLE",
        "LOWCARDINALITY", "MAP", "TUPLE", "NESTED", "UNION", "DATETIME64"]

/-- The brackets of arrays behind a type, each with an optional size. -/
def arrayOf (t : DataType) : Nat → Parser DataType
  | 0 => failure
  | n + 1 => do
    if ← symbol? "[" then
      let size ← attempt wholeNumber
      symbol "]"
      let length := match size with
        | some k => toString k
        | none => ""
      arrayOf (languageType (t.written ++ "[" ++ length ++ "]")) n
    else return t

/-- A type whose element types are nested less than `depth` deep. -/
def dataTypeAt : Nat → Parser (DataType × Bool)
  | 0 => failure
  | depth + 1 => do
    match ← peek? with
    | some (.word _ none k) =>
      let (t, taken) ← if typeWords.contains k then do
          let _ ← next
          bareType (dataTypeAt depth) k
        else do pure (← customType, false)
      return (← arrayOf t (← rounds), taken)
    | some (.word ..) => return (← arrayOf (← customType) (← rounds), false)
    | _ => failure

/-- A data type. -/
def dataType : Parser DataType := do
  let (t, taken) ← dataTypeAt (← rounds)
  if taken then failure else return t

end Grammar
end Stencil.Sql
