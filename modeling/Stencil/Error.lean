/-
Everything that can go wrong, as causes.

Each cause names the rule that was broken and carries what the message needs.
`category` says which part of the library reports it and `detail` is the wording;
the full message puts a label of the category in front of the detail.
-/
import Stencil.Text.Search

namespace Stencil

/-- Which part of the library an error belongs to. -/
inductive Category where
  | parse
  | unsupported
  | fragment
  | catalog
  | validation
  | config
  | io
  | serialization
  | internal
deriving DecidableEq, Repr

namespace Category

/-- The name of the category, as shown in reports. -/
def name : Category → String
  | parse => "Parse Error"
  | unsupported => "Unsupported Statement"
  | fragment => "Fragment Error"
  | catalog => "Catalog Error"
  | validation => "Validation Error"
  | config => "Configuration Error"
  | io => "I/O Error"
  | serialization => "Serialization Error"
  | internal => "Internal Error"

/-- What stands in front of the detail of a message. -/
def label : Category → String
  | parse => "Parse error"
  | unsupported => "Unsupported"
  | fragment => "Fragment error"
  | catalog => "Catalog error"
  | validation => "Validation error"
  | config => "Configuration error"
  | io => "I/O error"
  | serialization => "Serialization error"
  | internal => "Internal error"

end Category

/-- The entry points that take one statement each. -/
inductive EntryPoint where
  | explain
  | query
  | execute
  | update
deriving DecidableEq, Repr

/-- The name an entry point has in messages. -/
def EntryPoint.name : EntryPoint → String
  | explain => "explainSql()"
  | query => "sqlQuery()"
  | execute => "executeSql()"
  | update => "sqlUpdate()"

/-- Tables and views are told apart by what may be done with them. -/
inductive ObjectKind where
  | table
  | view
deriving DecidableEq, Repr

/-- The kind as it starts a sentence. -/
def ObjectKind.title : ObjectKind → String
  | table => "Table"
  | view => "View"

/-- The kind inside a sentence. -/
def ObjectKind.noun : ObjectKind → String
  | table => "table"
  | view => "view"

/-- A cause of failure. -/
inductive Error where
  /-- The text is not SQL. -/
  | badSql
  /-- A reference to a fragment reached an engine that knows none. -/
  | unresolvedReference (text : String)
  /-- An entry point was given no statement or several. -/
  | notSingle (entry : EntryPoint)
  /-- A record or a graph was asked of no statement or of several. -/
  | notSingleQuery
  /-- An entry point for queries was given something else. -/
  | notAQuery
  /-- An entry point for changes was given a query or an explanation. -/
  | notAnUpdate
  /-- A definition cannot be explained as text. -/
  | notExplainable (statement : String)
  /-- A statement that is accepted but never planned. -/
  | noPlan (statement : String)
  /-- Only statements that write have a graph. -/
  | notTranslatable (statement : String)
  /-- A graph was asked of a statement that does not write. -/
  | noGraph (statement : String)
  /-- The engine cannot build graphs. -/
  | graphsUnavailable
  /-- The listing of fragments is no statement of the engine. -/
  | listingNotExplainable
  | unsupportedBody (text : String)
  | unsupportedTableReference (text : String)
  | unsupportedDrop (what : String)
  /-- A table needs its columns written out. -/
  | noColumns
  | illegalFragmentName
  | illegalFragmentDefinition
  | unknownFragment (name : String)
  /-- A graph was asked of a submission that only defines fragments. -/
  | fragmentHasNoGraph
  /-- A query was asked of a submission that only defines fragments. -/
  | fragmentIsNoQuery
  /-- A change was asked of a submission that only defines fragments. -/
  | fragmentIsNoUpdate
  | alreadyExists (kind : ObjectKind) (path : String)
  | wrongKind (path : String) (found wanted : ObjectKind)
  | doesNotExist (kind : ObjectKind) (path : String)
  | emptyFunctionName
  | invalidIdentifier (parts : List String)
  | unknownObject (name : String)
  | insertIntoView (path : String)
  | insertWithoutSource
  | unknownTargetColumn (column path : String)
  | columnCountMismatch (path : String) (given wanted : Nat)
  | setColumnCounts (left right : Nat)
  | valuesWithoutRows
  | unknownQualifier (qualifier : String)
  | unknownColumn (reference : String)
  | ambiguousColumn (reference : String)
  | unknownDialect (name : String)
  | zeroParallelism
  | blankSeparator
  | badParallelism (value : String)
  | badSwitch (value : String)
  | unreadableSettings (reason : String)
  | malformedSettings (path : String)
  /-- A plan of a statement that writes does not start with a sink. -/
  | sinkMissing
  /-- A failure reported from outside, with its own wording. -/
  | reported (category : Category) (text : String)
deriving DecidableEq, Repr

namespace Error

/-- The part of the library that reports the error. -/
def category : Error → Category
  | badSql | unresolvedReference _ => .parse
  | notSingle _ | notSingleQuery | notAQuery | notAnUpdate | notExplainable _ | noPlan _
  | notTranslatable _ | noGraph _ | graphsUnavailable | listingNotExplainable
  | unsupportedBody _ | unsupportedTableReference _ | unsupportedDrop _ | noColumns =>
    .unsupported
  | illegalFragmentName | illegalFragmentDefinition | unknownFragment _ | fragmentHasNoGraph
  | fragmentIsNoQuery | fragmentIsNoUpdate => .fragment
  | alreadyExists .. | wrongKind .. | doesNotExist .. | emptyFunctionName => .catalog
  | invalidIdentifier _ | unknownObject _ | insertIntoView _ | insertWithoutSource
  | unknownTargetColumn .. | columnCountMismatch .. | setColumnCounts .. | valuesWithoutRows
  | unknownQualifier _ | unknownColumn _ | ambiguousColumn _ => .validation
  | unknownDialect _ | zeroParallelism | blankSeparator | badParallelism _ | badSwitch _
  | unreadableSettings _ | malformedSettings _ => .config
  | sinkMissing => .internal
  | reported category _ => category

/-- What the message says behind its label. -/
def detail : Error → String
  | badSql => "sql parser error"
  | unresolvedReference text => "Unresolved placeholder in: " ++ text
  | notSingle entry =>
    "Unsupported SQL query! " ++ entry.name ++ " only accepts a single SQL statement."
  | notSingleQuery =>
    "Unsupported SQL query! explainSql() only accepts a single SQL query."
  | notAQuery =>
    "Unsupported SQL query! sqlQuery() only accepts SQL queries of type "
      ++ "SELECT, UNION, INTERSECT, EXCEPT, VALUES, and ORDER_BY."
  | notAnUpdate =>
    "Unsupported SQL query! sqlUpdate() only accepts a single SQL statement of type "
      ++ "INSERT, CREATE TABLE, DROP TABLE, CREATE VIEW, DROP VIEW."
  | notExplainable statement => "Unsupported operation for explain: " ++ statement
  | noPlan statement => "Statement has no executable plan: " ++ statement
  | notTranslatable statement => "Only modify operations can be translated: " ++ statement
  | noGraph statement =>
    "Unsupported SQL query! Only modify statements have an execution graph: " ++ statement
  | graphsUnavailable => "Unsupported SQL query! explainSql() need a single SQL to query."
  | listingNotExplainable => "'SHOW FRAGMENTS' can't be explained."
  | unsupportedBody text => "Unsupported query body: " ++ text
  | unsupportedTableReference text => "Unsupported table reference: " ++ text
  | unsupportedDrop what => "DROP " ++ what ++ " is not supported"
  | noColumns => "CREATE TABLE requires an explicit column list"
  | illegalFragmentName => "Illegal variable name."
  | illegalFragmentDefinition => "Illegal variable definition."
  | unknownFragment name => "The fragment of sql " ++ name ++ " does not exist."
  | fragmentHasNoGraph => "This is a sql fragment."
  | fragmentIsNoQuery =>
    "Unsupported SQL query! The SQL query parsed is null. "
      ++ "If it's a sql fragment, please use execute_sql()."
  | fragmentIsNoUpdate =>
    "Unsupported SQL update! The SQL update parsed is null. "
      ++ "If it's a sql fragment, please use execute_sql()."
  | alreadyExists kind path => kind.title ++ " '" ++ path ++ "' already exists"
  | wrongKind path found wanted =>
    "'" ++ path ++ "' is a " ++ found.noun ++ ", not a " ++ wanted.noun
  | doesNotExist kind path => kind.title ++ " '" ++ path ++ "' does not exist"
  | emptyFunctionName => "Function name must not be empty"
  | invalidIdentifier parts => "Invalid object identifier '" ++ Text.join "." parts ++ "'"
  | unknownObject name => "Object '" ++ name ++ "' not found"
  | insertIntoView path => "'" ++ path ++ "' is a view; INSERT requires a table"
  | insertWithoutSource => "INSERT requires a source query"
  | unknownTargetColumn column path =>
    "Unknown target column '" ++ column ++ "' in sink '" ++ path ++ "'"
  | columnCountMismatch path given wanted =>
    "Column types of query result and sink for '" ++ path ++ "' do not match. Query has "
      ++ toString given ++ " columns, sink has " ++ toString wanted ++ "."
  | setColumnCounts left right =>
    "Set operation inputs have different column counts: " ++ toString left ++ " and "
      ++ toString right
  | valuesWithoutRows => "VALUES requires at least one row"
  | unknownQualifier qualifier =>
    "Unknown table '" ++ qualifier ++ "' in '" ++ qualifier ++ ".*'"
  | unknownColumn reference => "Column '" ++ reference ++ "' not found in any table"
  | ambiguousColumn reference => "Column '" ++ reference ++ "' is ambiguous"
  | unknownDialect name => "Unknown SQL dialect '" ++ name ++ "'"
  | zeroParallelism => "parallelism must be at least 1"
  | blankSeparator => "statement_separator must not be blank"
  | badParallelism value =>
    "FRAGSQL_PARALLELISM must be a positive integer, got '" ++ value ++ "'"
  | badSwitch value => "FRAGSQL_USE_SQL_FRAGMENT must be a boolean, got '" ++ value ++ "'"
  | unreadableSettings reason => "Failed to read config file: " ++ reason
  | malformedSettings path => "Configuration error in " ++ path ++ ":"
  | sinkMissing => "modify plan without a sink"
  | reported _ text => text

/-- The message in full. -/
def message (e : Error) : String := e.category.label ++ ": " ++ e.detail

end Error
end Stencil
