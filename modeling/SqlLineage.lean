import SqlLineage.Analysis
import SqlLineage.CommandLine.Arguments
import SqlLineage.CommandLine.Directory
import SqlLineage.CommandLine.Output
import SqlLineage.CommandLine.Run
import SqlLineage.CommandLine.Stage
import SqlLineage.CommandLine.Usage
import SqlLineage.Decimal.Shortest
import SqlLineage.Decode.Basic
import SqlLineage.Decode.Text
import SqlLineage.Dialect
import SqlLineage.Error
import SqlLineage.Graph.Basic
import SqlLineage.Graph.Build
import SqlLineage.Graph.Codec
import SqlLineage.Json.Printer
import SqlLineage.Json.Reading
import SqlLineage.Json.Value
import SqlLineage.Main
import SqlLineage.Proofs.Registry.Steps
import SqlLineage.Registry
import SqlLineage.Report
import SqlLineage.Report.Box
import SqlLineage.Report.Mermaid
import SqlLineage.Report.Overview
import SqlLineage.Request.Basic
import SqlLineage.Request.Codec
import SqlLineage.Schema
import SqlLineage.Schema.Basic
import SqlLineage.Schema.Request
import SqlLineage.Schema.Result
import SqlLineage.Schema.Statement
import SqlLineage.Scope
import SqlLineage.Settings
import SqlLineage.Source
import SqlLineage.Sql.Grammar.Basic
import SqlLineage.Sql.Grammar.Blocks
import SqlLineage.Sql.Grammar.Changes
import SqlLineage.Sql.Grammar.DataTypes
import SqlLineage.Sql.Grammar.Expressions
import SqlLineage.Sql.Grammar.Features
import SqlLineage.Sql.Grammar.Files
import SqlLineage.Sql.Grammar.Maintenance
import SqlLineage.Sql.Grammar.Names
import SqlLineage.Sql.Grammar.Objects
import SqlLineage.Sql.Grammar.Patterns
import SqlLineage.Sql.Grammar.Privileges
import SqlLineage.Sql.Grammar.Projections
import SqlLineage.Sql.Grammar.Queries
import SqlLineage.Sql.Grammar.Relations
import SqlLineage.Sql.Grammar.Sessions
import SqlLineage.Sql.Grammar.Statements
import SqlLineage.Sql.Grammar.TableChanges
import SqlLineage.Sql.Grammar.Tables
import SqlLineage.Sql.Grammar.Values
import SqlLineage.Sql.Keyword
import SqlLineage.Sql.Lexer
import SqlLineage.Sql.Render
import SqlLineage.Sql.Script
import SqlLineage.Sql.Spelling
import SqlLineage.Sql.Syntax
import SqlLineage.Sql.Token
import SqlLineage.Statement.Basic
import SqlLineage.Statement.Codec
import SqlLineage.Statement.Document
import SqlLineage.Statement.OfSyntax
import SqlLineage.Text.Alphabetic
import SqlLineage.Text.Blank
import SqlLineage.Text.Cursor
import SqlLineage.Text.Lines
import SqlLineage.Text.Numeric
import SqlLineage.Text.Ranges
import SqlLineage.Text.Search
import SqlLineage.Text.UpperCase
import SqlLineage.Text.Width
import SqlLineage.Toml.Excerpt
import SqlLineage.Toml.Reader
import SqlLineage.Toml.Scalar
import SqlLineage.Toml.Value
import SqlLineage.Proofs.Registry.WellFormed
import SqlLineage.Proofs.Analysis.Growth
import SqlLineage.Proofs.Graph.WellFormed
import SqlLineage.Proofs.Graph.Relationships
import SqlLineage.Proofs.Analysis.Blocks
import SqlLineage.Proofs.Lowering.Factors
import SqlLineage.Proofs.Lowering.Sites
import SqlLineage.Proofs.Lowering.CommonTables
import SqlLineage.Proofs.Lowering.Places
import SqlLineage.Proofs.Lowering.PlainOperands
import SqlLineage.Proofs.Lowering.Qualifiers
import SqlLineage.Proofs.Lowering.PhantomTables
import SqlLineage.Proofs.Registry.Extension
import SqlLineage.Proofs.Registry.Outline
import SqlLineage.Proofs.Graph.Extension
import SqlLineage.Proofs.Analysis.Statements
import SqlLineage.Proofs.Analysis.BlockScopes
import SqlLineage.Proofs.Lowering.Mentions
import SqlLineage.Proofs.Analysis.Events
import SqlLineage.Proofs.Graph.Outline
import SqlLineage.Proofs.Analysis.UnresolvedReferences
import SqlLineage.Proofs.Lowering.RecursiveTables
import SqlLineage.Proofs.Analysis.Recording
import SqlLineage.Proofs.Analysis.Scripts
import SqlLineage.Proofs.Analysis.Composition
import SqlLineage.Proofs.Analysis.RecursedConditions
import SqlLineage.Proofs.Analysis.SourceLinking
import SqlLineage.Proofs.Json.Fields
import SqlLineage.Proofs.Json.Regular
import SqlLineage.Proofs.Json.Spelling
import SqlLineage.Proofs.Json.Scanning
import SqlLineage.Proofs.Json.Reading
import SqlLineage.Proofs.Decode.Records
import SqlLineage.Proofs.Decode.Texts
import SqlLineage.Proofs.Statement.Regular
import SqlLineage.Proofs.Statement.RoundTrip
import SqlLineage.Proofs.Statement.Documents
import SqlLineage.Proofs.Source.Collection
import SqlLineage.Proofs.Graph.RoundTrip
import SqlLineage.Proofs.Graph.Shallow
import SqlLineage.Proofs.Request.RoundTrip
import SqlLineage.Proofs.Analysis.UnsupportedStatements
import SqlLineage.Proofs.CommandLine.Directories
import SqlLineage.Proofs.CommandLine.Outputs
import SqlLineage.Proofs.Source.SingleSource
import SqlLineage.Proofs.CommandLine.Runs
import SqlLineage.Proofs.CommandLine.Stages
import SqlLineage.Proofs.Schema.Shapes
import SqlLineage.Proofs.Schema.Encoding
import SqlLineage.Proofs.Schema.Decoding
import SqlLineage.Proofs.Schema.Validation
import SqlLineage.Proofs.Analysis.PredicateLeaves
import SqlLineage.Proofs.Analysis.LinkedReads
import SqlLineage.Proofs.Analysis.Bindings
import SqlLineage.Proofs.Analysis.OwnTables
import SqlLineage.Proofs.Analysis.Renaming
import SqlLineage.Proofs.Lowering.SetOperations
import SqlLineage.Proofs.Lowering.Leaves
import SqlLineage.Proofs.Lowering.JoinConditions
import SqlLineage.Proofs.Analysis.ColumnRoles
import SqlLineage.Proofs.Lowering.Assignments
import SqlLineage.Proofs.Text.Spans
import SqlLineage.Proofs.Error.Places
import SqlLineage.Proofs.Report.Flowcharts
import SqlLineage.Proofs.Analysis.TableKinds
import SqlLineage.Proofs.Lowering.ForeignKeys
import SqlLineage.Proofs.Lowering.DeleteTargets
import SqlLineage.Proofs.Registry.Registrations
import SqlLineage.Proofs.Graph.Lookups
import SqlLineage.Proofs.Statement.Sources
