import SqlLineage.Dialect

/-!
# Grammar rules of the dialects

Which constructs each dialect knows, how tightly its operators bind, and which key words cannot
serve as the name of a column or a relation.
-/

namespace SqlLineage.Dialect

/-- Whether a comma may stand after the last item of any list. -/
def allowsTrailingCommas (dialect : Dialect) : Bool :=
  dialect matches duckdb

/-- Whether a comma may stand after the last item of a projection. -/
def allowsTrailingProjectionComma (dialect : Dialect) : Bool :=
  dialect matches duckdb | bigquery | snowflake

/-- Whether a comma may stand after the last relation. -/
def allowsTrailingRelationComma (dialect : Dialect) : Bool :=
  dialect matches snowflake

/-- Whether a comma may stand after the last column definition. -/
def allowsTrailingColumnComma (dialect : Dialect) : Bool :=
  dialect matches duckdb | bigquery

/-- Whether a table name may hold hyphens, and dots inside its quotes. -/
def hasHyphenatedNames (dialect : Dialect) : Bool :=
  dialect matches bigquery

/-- Whether the schema of a name may be left out between two dots. -/
def allowsDoubleDots (dialect : Dialect) : Bool :=
  dialect matches mssql | snowflake

/-- Whether `IDENTIFIER('name')` stands for a name. -/
def hasIdentifierCalls (dialect : Dialect) : Bool :=
  dialect matches snowflake

/-- Whether a query may start with its relations. -/
def hasFromFirst (dialect : Dialect) : Bool :=
  dialect matches clickhouse | duckdb | generic

/-- Whether a projection may be empty. -/
def allowsEmptyProjection (dialect : Dialect) : Bool :=
  dialect matches generic | postgres

/-- Whether `TOP` stands before `DISTINCT`. -/
def hasTopFirst (dialect : Dialect) : Bool :=
  dialect matches redshift

/-- Whether `TRUE` and `FALSE` are values. -/
def hasBooleans (dialect : Dialect) : Bool :=
  !(dialect matches mssql)

/-- Whether `*` may be followed by columns to leave out after EXCLUDE. -/
def hasWildcardExclude (dialect : Dialect) : Bool :=
  dialect matches generic | duckdb | snowflake | redshift

/-- Whether a whole projection may be followed by columns to leave out. -/
def hasProjectionExclude (dialect : Dialect) : Bool :=
  dialect matches redshift

/-- Whether `*` may be followed by columns to leave out after EXCEPT. -/
def hasWildcardExcept (dialect : Dialect) : Bool :=
  dialect matches bigquery | clickhouse | databricks | generic

/-- Whether `*` may be followed by replacements. -/
def hasWildcardReplace (dialect : Dialect) : Bool :=
  dialect matches generic | bigquery | clickhouse | duckdb | snowflake

/-- Whether `*` may be followed by a pattern or by new names. -/
def hasWildcardRename (dialect : Dialect) : Bool :=
  dialect matches generic | snowflake

/-- Whether `expr.*` may stand in a projection. -/
def hasExprWildcards (dialect : Dialect) : Bool :=
  dialect matches bigquery | snowflake

/-- Whether `name = expr` in a projection names the expression. -/
def hasEqualsAlias (dialect : Dialect) : Bool :=
  dialect matches mssql

/-- Whether brackets and dots go down into nested values. -/
def hasPathNavigation (dialect : Dialect) : Bool :=
  dialect matches redshift

/-- Whether `name -> expr` is a function. -/
def hasLambdas (dialect : Dialect) : Bool :=
  dialect matches clickhouse | databricks | duckdb

/-- Whether a CROSS JOIN may have a condition. -/
def hasCrossJoinConstraints (dialect : Dialect) : Bool :=
  dialect matches mysql

/-- Whether a join without a condition takes the joins behind it as its right side. -/
def nestsJoins (dialect : Dialect) : Bool :=
  dialect matches snowflake

/-- Whether a table may be followed by index hints. -/
def hasIndexHints (dialect : Dialect) : Bool :=
  dialect matches mysql

/-- Whether a table may be followed by partitions. -/
def hasTablePartitions (dialect : Dialect) : Bool :=
  dialect matches mysql | generic

/-- Whether a sample clause stands before the alias. -/
def samplesBeforeAlias (dialect : Dialect) : Bool :=
  dialect matches hive

/-- Whether a table may be read as of an earlier time. -/
def hasTableVersions (dialect : Dialect) : Bool :=
  dialect matches bigquery | mssql | snowflake

/-- Whether rows may be matched against a pattern. -/
def hasMatchRecognize (dialect : Dialect) : Bool :=
  dialect matches snowflake | generic

/-- Whether queries may follow a hierarchy. -/
def hasConnectBy (dialect : Dialect) : Bool :=
  dialect matches generic | mssql | redshift | snowflake

/-- Whether `FUNCTION` may stand for the table of an INSERT, and a format after it. -/
def hasInsertFormats (dialect : Dialect) : Bool :=
  dialect matches clickhouse

/-- Whether an INSERT may assign columns. -/
def hasInsertSet (dialect : Dialect) : Bool :=
  dialect matches mysql

/-- Whether `LIMIT a, b` is known. -/
def hasLimitComma (dialect : Dialect) : Bool :=
  dialect matches clickhouse | generic | mysql | sqlite

/-- Whether a CREATE TABLE may end in a query without AS. -/
def hasCreateTableSelect (dialect : Dialect) : Bool :=
  dialect matches mysql

/-- Whether the table that a new one is like may stand in parentheses. -/
def hasLikeInParentheses (dialect : Dialect) : Bool :=
  dialect matches generic | redshift

/-- Whether brackets behind a data type make it an array. -/
def hasBracketArrays (dialect : Dialect) : Bool :=
  dialect matches duckdb | generic | postgres | redshift

/-- Whether TRY_CONVERT is known. -/
def hasTryConvert (dialect : Dialect) : Bool :=
  dialect matches generic | mssql

/-- Whether CONVERT takes the type before the value. -/
def convertsTypeFirst (dialect : Dialect) : Bool :=
  dialect matches mssql | redshift

/-- Whether MATCH … AGAINST is known. -/
def hasMatchAgainst (dialect : Dialect) : Bool :=
  dialect matches generic | mysql

/-- Whether STRUCT makes a value. -/
def hasStructs (dialect : Dialect) : Bool :=
  dialect matches bigquery | databricks | generic

/-- Whether braces make a value. -/
def hasDictionaries (dialect : Dialect) : Bool :=
  dialect matches clickhouse | duckdb | generic | snowflake

/-- Whether MAP with braces makes a value. -/
def hasMaps (dialect : Dialect) : Bool :=
  dialect matches duckdb | generic

/-- Whether NOTNULL is an operator. -/
def hasNotNullOperator (dialect : Dialect) : Bool :=
  dialect matches duckdb | postgres | sqlite

/-- Whether an aggregate may have a FILTER. -/
def hasAggregateFilters (dialect : Dialect) : Bool :=
  dialect matches databricks | duckdb | generic | hive | postgres | sqlite

/-- Whether GROUP BY may hold grouping sets. -/
def hasGroupingSets (dialect : Dialect) : Bool :=
  dialect matches bigquery | clickhouse | databricks | duckdb | generic | postgres | snowflake

/-- Whether GROUP BY may end in modifiers. -/
def hasGroupModifiers (dialect : Dialect) : Bool :=
  dialect matches clickhouse | generic | hive | mysql

/-- Whether an interval needs a unit. -/
def needsIntervalUnit (dialect : Dialect) : Bool :=
  dialect matches ansi | bigquery | clickhouse | databricks | hive | mysql

/-- Whether a query may stand as the only argument of a function. -/
def hasQueryArguments (dialect : Dialect) : Bool :=
  dialect matches snowflake

/-- Whether an argument may be named by an expression. -/
def hasExprNamedArguments (dialect : Dialect) : Bool :=
  dialect matches postgres | mssql

/-- Whether `name = value` names an argument. -/
def namesArgumentsWithEquals (dialect : Dialect) : Bool :=
  dialect matches duckdb | generic

/-- Whether `name := value` names an argument. -/
def namesArgumentsWithAssignment (dialect : Dialect) : Bool :=
  dialect matches duckdb | generic | postgres

/-- Whether `name : value` names an argument. -/
def namesArgumentsWithColon (dialect : Dialect) : Bool :=
  dialect matches mssql

/-- Whether `name => value` names an argument. -/
def namesArgumentsWithArrow (dialect : Dialect) : Bool :=
  !(dialect matches mssql)

/-- Whether the treatment of nulls may stand among the arguments. -/
def hasNullTreatmentArgument (dialect : Dialect) : Bool :=
  dialect matches bigquery | generic | snowflake

/-- Whether `!` negates. -/
def hasBangNot (dialect : Dialect) : Bool :=
  dialect matches hive

/-- Whether `expr !` is the factorial. -/
def hasFactorial (dialect : Dialect) : Bool :=
  dialect matches postgres

/-- Whether `(+)` marks an outer join. -/
def hasOuterJoinMarks (dialect : Dialect) : Bool :=
  dialect matches mssql | snowflake

/-- Whether `IN ()` is known. -/
def allowsEmptyIn (dialect : Dialect) : Bool :=
  dialect matches sqlite

/-- Whether EXTRACT takes any unit. -/
def extractsAnyUnit (dialect : Dialect) : Bool :=
  dialect matches generic | postgres | snowflake

/-- Whether EXTRACT takes a unit in quotes. -/
def extractsQuotedUnit (dialect : Dialect) : Bool :=
  dialect matches generic | postgres | redshift | snowflake

/-- Whether `ORDER BY ALL` is known. -/
def hasOrderByAll (dialect : Dialect) : Bool :=
  dialect matches clickhouse | duckdb

/-- Whether `&&` means AND. -/
def hasDoubleAmpersand (dialect : Dialect) : Bool :=
  dialect matches mysql

/-- Whether BINARY before an expression casts it. -/
def castsWithBinary (dialect : Dialect) : Bool :=
  dialect matches mysql

/-- Whether LISTEN and NOTIFY are known. -/
def hasNotifications (dialect : Dialect) : Bool :=
  dialect matches postgres

/-- Whether COMMENT ON is known. -/
def hasCommentOn (dialect : Dialect) : Bool :=
  dialect matches generic | postgres | snowflake

/-- Whether LOAD names an extension. -/
def loadsExtensions (dialect : Dialect) : Bool :=
  dialect matches duckdb | generic | postgres

/-- Whether BEGIN takes a modifier. -/
def hasTransactionModifiers (dialect : Dialect) : Bool :=
  dialect matches generic | mssql | sqlite

/-- Whether several variables may be set at once. -/
def setsSeveralVariables (dialect : Dialect) : Bool :=
  dialect matches bigquery | generic | mysql

/-- Whether a list of variables in parentheses may be set. -/
def setsTupleVariables (dialect : Dialect) : Bool :=
  dialect matches bigquery | generic | snowflake

/-- Whether the options of EXPLAIN may stand in parentheses. -/
def hasExplainOptions (dialect : Dialect) : Bool :=
  dialect matches duckdb | generic | postgres

/-- Whether DESCRIBE needs TABLE before the name. -/
def describesWithTable (dialect : Dialect) : Bool :=
  dialect matches clickhouse | snowflake

/-- Whether a column definition may say ASC or DESC. -/
def ordersInColumnDefinitions (dialect : Dialect) : Bool :=
  dialect matches generic | sqlite

/-- The operators by how tightly they bind. -/
inductive Precedence where
  | period
  | doubleColon
  | atTimeZone
  | multiplication
  | addition
  | xor
  | ampersand
  | caret
  | pipe
  | between
  | eq
  | like
  | is
  | other
  | not
  | and
  | or
  deriving DecidableEq, Repr

/-- How tightly operators bind; a higher number binds more tightly. -/
def binding (dialect : Dialect) (precedence : Precedence) : Nat :=
  if dialect == .postgres then
    match precedence with
    | .period => 200
    | .doubleColon => 140
    | .atTimeZone => 110
    | .multiplication => 90
    | .addition => 80
    | .xor => 75
    | .ampersand => 70
    | .caret => 100
    | .pipe => 70
    | .between => 60
    | .eq => 50
    | .like => 60
    | .is => 40
    | .other => 70
    | .not => 30
    | .and => 20
    | .or => 10
  else
    match precedence with
    | .period => 100
    | .doubleColon => 50
    | .atTimeZone => 41
    | .multiplication => 40
    | .addition => 30
    | .xor => 24
    | .ampersand => 23
    | .caret => 22
    | .pipe => 21
    | .between => 20
    | .eq => 20
    | .like => 19
    | .is => 17
    | .other => 16
    | .not => 15
    | .and => 10
    | .or => 5

/-- The key words that can name no column of a projection. -/
def reservedForColumns : List String :=
  ["WITH", "EXPLAIN", "ANALYZE", "SELECT", "WHERE", "GROUP", "SORT", "HAVING", "ORDER", "TOP",
    "LATERAL", "VIEW", "LIMIT", "OFFSET", "FETCH", "UNION", "EXCEPT", "INTERSECT", "MINUS",
    "CLUSTER", "DISTRIBUTE", "RETURNING", "VALUES", "FROM", "INTO", "END"]

/-- The key words that can name no relation. -/
def reservedForTables : List String :=
  ["WITH", "EXPLAIN", "ANALYZE", "SELECT", "WHERE", "GROUP", "SORT", "HAVING", "ORDER", "PIVOT",
    "UNPIVOT", "TOP", "LATERAL", "VIEW", "LIMIT", "OFFSET", "FETCH", "UNION", "EXCEPT", "INTERSECT",
    "MINUS", "ON", "JOIN", "INNER", "CROSS", "FULL", "LEFT", "RIGHT", "NATURAL", "USING", "CLUSTER",
    "DISTRIBUTE", "GLOBAL", "ANTI", "SEMI", "RETURNING", "ASOF", "MATCH_CONDITION", "OUTER", "SET",
    "QUALIFY", "WINDOW", "END", "FOR", "PARTITION", "PREWHERE", "SETTINGS", "FORMAT", "START",
    "CONNECT", "MATCH_RECOGNIZE", "SAMPLE", "TABLESAMPLE", "FROM", "OPEN"]

/-- The key words that can be no name in an expression. -/
def reservedForNames (dialect : Dialect) : List String :=
  if dialect == .snowflake then ["EXISTS", "STRUCT", "TRIM"]
  else ["EXISTS", "INTERVAL", "STRUCT", "TRIM"]

end SqlLineage.Dialect
