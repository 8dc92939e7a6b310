/-
The names of dialects.

A dialect is named in any case.  There is a grammar for the generic one only, by which
all texts are read; a name that stands for no dialect is refused before that.
-/
import Stencil.Text.Case

namespace Stencil.Sql.Dialect

/-- The dialects that can be named. -/
def names : List String :=
  ["generic", "mysql", "postgresql", "postgres", "hive", "sqlite", "snowflake", "redshift",
   "mssql", "clickhouse", "bigquery", "ansi", "duckdb"]

/-- A text that names a dialect. -/
def isKnown (name : String) : Bool := names.contains (Text.lower name)

end Stencil.Sql.Dialect
