/-!
# Dialects

The SQL dialects a script may be written in, with the word that names each in requests and on the
command line and the name shown to readers.
-/

namespace SqlLineage

/-- A dialect of SQL. -/
inductive Dialect where
  | generic
  | ansi
  | bigquery
  | clickhouse
  | databricks
  | duckdb
  | hive
  | mssql
  | mysql
  | postgres
  | redshift
  | snowflake
  | sqlite
  deriving DecidableEq, Repr, Inhabited

namespace Dialect

/-- Every dialect, in display order. -/
def all : List Dialect :=
  [generic, ansi, bigquery, clickhouse, databricks, duckdb, hive, mssql, mysql, postgres, redshift,
    snowflake, sqlite]

/-- The word that names a dialect. -/
def name : Dialect → String
  | generic => "generic"
  | ansi => "ansi"
  | bigquery => "bigquery"
  | clickhouse => "clickhouse"
  | databricks => "databricks"
  | duckdb => "duckdb"
  | hive => "hive"
  | mssql => "mssql"
  | mysql => "mysql"
  | postgres => "postgres"
  | redshift => "redshift"
  | snowflake => "snowflake"
  | sqlite => "sqlite"

/-- The name shown to readers. -/
def label : Dialect → String
  | generic => "Generic SQL"
  | ansi => "ANSI SQL"
  | bigquery => "Google BigQuery"
  | clickhouse => "ClickHouse"
  | databricks => "Databricks"
  | duckdb => "DuckDB"
  | hive => "Apache Hive"
  | mssql => "Microsoft SQL Server"
  | mysql => "MySQL / MariaDB"
  | postgres => "PostgreSQL"
  | redshift => "Amazon Redshift"
  | snowflake => "Snowflake"
  | sqlite => "SQLite"

/-- The words a dialect may be named by; two dialects have a second word. -/
def choices : List (String × Dialect) :=
  [("generic", generic), ("ansi", ansi), ("bigquery", bigquery), ("clickhouse", clickhouse),
    ("databricks", databricks), ("duckdb", duckdb), ("hive", hive), ("mssql", mssql),
    ("mariadb", mysql), ("mysql", mysql), ("postgres", postgres), ("postgresql", postgres),
    ("redshift", redshift), ("snowflake", snowflake), ("sqlite", sqlite)]

/-- The place of a dialect in display order. -/
def position (dialect : Dialect) : Nat :=
  all.findIdx (· == dialect)

end Dialect

end SqlLineage
