import WikiDump.Archive.Crc
import WikiDump.Archive.Gzip
import WikiDump.Archive.Inflate
import WikiDump.Archive.Lzma
import WikiDump.Archive.Xz
import WikiDump.Cli.Flag
import WikiDump.Cli.Help
import WikiDump.Cli.Parse
import WikiDump.Cli.Spec
import WikiDump.Command.Arguments
import WikiDump.Command.Console
import WikiDump.Command.Dumps
import WikiDump.Command.Export
import WikiDump.Command.Prompt
import WikiDump.Command.Queries
import WikiDump.Command.Redirects
import WikiDump.Command.Run
import WikiDump.Command.Tree
import WikiDump.Disk.Open
import WikiDump.Disk.Tree
import WikiDump.Dump.Bytes
import WikiDump.Dump.Error
import WikiDump.Dump.Literal
import WikiDump.Dump.Scan
import WikiDump.Dump.Source
import WikiDump.Dump.Split
import WikiDump.Dump.Statement
import WikiDump.Dump.Stats
import WikiDump.Dump.Tuple
import WikiDump.Dump.Value
import WikiDump.Engine.Aggregate
import WikiDump.Engine.Catalog
import WikiDump.Engine.Execute
import WikiDump.Engine.Iterator
import WikiDump.Engine.Plan
import WikiDump.Engine.Row
import WikiDump.Engine.Session
import WikiDump.Export.Encode
import WikiDump.Export.RowWriter
import WikiDump.Export.Sqlite
import WikiDump.Export.SqliteFile
import WikiDump.Field.Converter
import WikiDump.Field.Datum
import WikiDump.Field.Instant
import WikiDump.Hash.Blake3
import WikiDump.Hash.Sha256
import WikiDump.Json.Reader
import WikiDump.Json.Value
import WikiDump.Log.Event
import WikiDump.Main
import WikiDump.Number.Binary64
import WikiDump.Number.Notation
import WikiDump.Number.Reading
import WikiDump.Number.Shortest
import WikiDump.Proofs.ComparisonSplit
import WikiDump.Proofs.ConditionForms
import WikiDump.Proofs.ExposedValues
import WikiDump.Proofs.GrammarFrame
import WikiDump.Proofs.Grouping
import WikiDump.Proofs.HeaderLocality
import WikiDump.Proofs.HexLiterals
import WikiDump.Proofs.InsertText
import WikiDump.Proofs.InstantFields
import WikiDump.Proofs.IntegerRange
import WikiDump.Proofs.KnownBytes
import WikiDump.Proofs.LiteralText
import WikiDump.Proofs.Locality
import WikiDump.Proofs.NumberGrammar
import WikiDump.Proofs.ParallelCount
import WikiDump.Proofs.PathExtraction
import WikiDump.Proofs.AggregateValues
import WikiDump.Proofs.ExpressionScan
import WikiDump.Proofs.ExpressionGrammar
import WikiDump.Proofs.QueryRows
import WikiDump.Proofs.PullIterators
import WikiDump.Proofs.QuotedTokens
import WikiDump.Proofs.ReadErrors
import WikiDump.Proofs.RegionScan
import WikiDump.Proofs.Regions
import WikiDump.Proofs.Relocation
import WikiDump.Proofs.ScanBounds
import WikiDump.Proofs.ScanErrors
import WikiDump.Proofs.ScanRows
import WikiDump.Proofs.ScanRun
import WikiDump.Proofs.Script
import WikiDump.Proofs.ScriptRows
import WikiDump.Proofs.SelectCondition
import WikiDump.Proofs.SplitPartition
import WikiDump.Proofs.StatementChain
import WikiDump.Proofs.TimestampColumns
import WikiDump.Proofs.Truncation
import WikiDump.Proofs.TupleGrammar
import WikiDump.Proofs.TupleLocality
import WikiDump.Proofs.ValueTyping
import WikiDump.Proofs.WrittenCondition
import WikiDump.Proofs.OrderFilters
import WikiDump.Proofs.RowViews
import WikiDump.Proofs.BatchedLoad
import WikiDump.Proofs.RedirectReport
import WikiDump.Query.Comparison
import WikiDump.Query.Filter
import WikiDump.Query.Grammar
import WikiDump.Query.Select
import WikiDump.Query.Syntax
import WikiDump.Query.TextExpression
import WikiDump.Query.Token
import WikiDump.Schema.Table
import WikiDump.Schema.Tables
import WikiDump.Settings.Basic
import WikiDump.Settings.Layers
import WikiDump.Site.Namespaces
import WikiDump.Site.Redirects
import WikiDump.Text.CaseMap
import WikiDump.Text.EditDistance
import WikiDump.Text.Hex
import WikiDump.Text.Printable
import WikiDump.Text.Quoted
import WikiDump.Text.Space
import WikiDump.Text.Utf8
import WikiDump.Variant
import WikiDump.Yaml.Compose
import WikiDump.Yaml.Decode
import WikiDump.Yaml.Input
import WikiDump.Yaml.Parser
import WikiDump.Yaml.Resolve
import WikiDump.Yaml.Scanner
import WikiDump.Yaml.Timestamp
import WikiDump.Yaml.Value
