import SqlLineage.Dialect
import SqlLineage.Text.Alphabetic

/-!
# Spelling rules of the dialects

Which characters make up a name, which quotes delimit one, and how texts and comments are written
in each dialect.
-/

namespace SqlLineage.Dialect

/-- Whether a name may start with the character. -/
def startsName (dialect : Dialect) (c : Char) : Bool :=
  match dialect with
  | generic | mssql => Text.isAlphabetic c || c == '_' || c == '#' || c == '@'
  | ansi => c.isAlpha
  | bigquery => c.isAlpha || c == '_' || c == '@'
  | clickhouse | databricks | snowflake => c.isAlpha || c == '_'
  | duckdb => Text.isAlphabetic c || c == '_'
  | hive => c.isAlphanum || c == '$'
  | mysql => c.isAlpha || c == '_' || c == '$' || c == '@' || 128 ≤ c.toNat
  | postgres => c.isAlpha || c == '_' || 128 ≤ c.toNat
  | redshift => c.isAlpha || c == '_' || 128 ≤ c.toNat || c == '#'
  | sqlite => c.isAlpha || c == '_' || (127 ≤ c.toNat && c.toNat ≤ 0xffff)

/-- Whether a name may go on with the character. -/
def continuesName (dialect : Dialect) (c : Char) : Bool :=
  c.isDigit || c == '_' ||
  match dialect with
  | generic | mssql => Text.isAlphabetic c || c == '@' || c == '$' || c == '#'
  | ansi | bigquery | clickhouse | databricks => c.isAlpha
  | duckdb => Text.isAlphabetic c || c == '$'
  | hive => c.isAlpha || c == '$' || c == '\x7b' || c == '\x7d'
  | mysql => dialect.startsName c
  | postgres => c.isAlpha || c == '$' || 128 ≤ c.toNat
  | redshift => c.isAlpha || c == '$' || 128 ≤ c.toNat || c == '#'
  | snowflake => c.isAlpha || c == '$'
  | sqlite => dialect.startsName c

/-- Whether the character opens a quoted name. -/
def delimitsName (dialect : Dialect) (c : Char) : Bool :=
  match dialect with
  | bigquery | databricks | mysql => c == '`'
  | postgres => c == '"'
  | mssql => c == '"' || c == '['
  | sqlite => c == '`' || c == '"' || c == '['
  | _ => c == '"' || c == '`'

/-- Whether names between brackets may hold a quoted name. -/
def nestsBrackets (dialect : Dialect) : Bool :=
  dialect matches redshift

/-- Whether a name may start with digits. -/
def hasNumericNames (dialect : Dialect) : Bool :=
  dialect matches mysql | hive

/-- Whether a backslash escapes a character inside a quoted text. -/
def escapesWithBackslash (dialect : Dialect) : Bool :=
  dialect matches bigquery | clickhouse | databricks | mysql | redshift | snowflake

/-- Whether a backslash before a wildcard of LIKE is kept. -/
def keepsWildcardEscapes (dialect : Dialect) : Bool :=
  dialect matches mysql | snowflake

/-- Whether a text may stand between three quotes. -/
def hasTripleQuotes (dialect : Dialect) : Bool :=
  dialect matches bigquery

/-- Whether `B` before a quote starts a byte text. -/
def hasByteTexts (dialect : Dialect) : Bool :=
  dialect matches bigquery | postgres | mysql | generic

/-- Whether `R` before a quote starts a raw text. -/
def hasRawTexts (dialect : Dialect) : Bool :=
  dialect matches bigquery | generic

/-- Whether `E` before a quote starts a text with escapes. -/
def hasEscapedTexts (dialect : Dialect) : Bool :=
  dialect matches generic | postgres | redshift

/-- Whether `U&` before a quote starts a text with character numbers. -/
def hasUnicodeTexts (dialect : Dialect) : Bool :=
  dialect matches generic | postgres

/-- Whether an underscore may separate the digits of a number. -/
def separatesDigits (dialect : Dialect) : Bool :=
  dialect matches clickhouse | postgres

/-- Whether comments between `/*` and `*/` may lie inside each other. -/
def nestsComments (dialect : Dialect) : Bool :=
  dialect matches generic | ansi | clickhouse | databricks | mssql | postgres | redshift

/-- Whether `#` starts a comment. -/
def commentsWithHash (dialect : Dialect) : Bool :=
  dialect matches snowflake | bigquery | mysql | hive

/-- Whether `--` starts a comment only before a blank. -/
def commentNeedsBlank (dialect : Dialect) : Bool :=
  dialect matches mysql

/-- Whether a dollar sign may stand inside the name of a placeholder. -/
def hasDollarPlaceholders (dialect : Dialect) : Bool :=
  dialect matches sqlite

/-- Whether the operators on geometric values are known. -/
def hasGeometricOperators (dialect : Dialect) : Bool :=
  dialect matches postgres | redshift

/-- Whether operators may be made of any operator characters. -/
def hasCustomOperators (dialect : Dialect) : Bool :=
  dialect matches postgres

/-- Whether `|>` pipes rows into a further step. -/
def hasPipes (dialect : Dialect) : Bool :=
  dialect matches bigquery | generic

end SqlLineage.Dialect
