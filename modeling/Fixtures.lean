import Fixtures.Bisection
import Fixtures.Catalog
import Fixtures.Command
import Fixtures.Command.Arguments
import Fixtures.Command.Error
import Fixtures.Command.Settings
import Fixtures.Config
import Fixtures.Constants
import Fixtures.Creation
import Fixtures.Decimal
import Fixtures.Description
import Fixtures.Description.Json
import Fixtures.Description.Reading
import Fixtures.Document
import Fixtures.Document.Content
import Fixtures.Double
import Fixtures.Engine
import Fixtures.Error
import Fixtures.FileTree
import Fixtures.Fixture
import Fixtures.Fixture.Json
import Fixtures.Json.Basic
import Fixtures.Json.Printer
import Fixtures.Json.Reader
import Fixtures.Json.Record
import Fixtures.Library
import Fixtures.Main
import Fixtures.Metadata
import Fixtures.Model
import Fixtures.NameMap
import Fixtures.Naming
import Fixtures.Path
import Fixtures.Pipeline
import Fixtures.Proofs.Command
import Fixtures.Proofs.Consistency
import Fixtures.Proofs.Constants.Collected
import Fixtures.Proofs.Constants.Dependencies
import Fixtures.Proofs.Constants.Drafts
import Fixtures.Proofs.Constants.Draws
import Fixtures.Proofs.Constants.Places
import Fixtures.Proofs.Constants.Reads
import Fixtures.Proofs.Constants.Values
import Fixtures.Proofs.Creation
import Fixtures.Proofs.Description
import Fixtures.Proofs.Description.RoundTrip
import Fixtures.Proofs.Endless
import Fixtures.Proofs.Engine.Again
import Fixtures.Proofs.Engine.Calls
import Fixtures.Proofs.Engine.Comparison
import Fixtures.Proofs.Engine.Decided
import Fixtures.Proofs.Engine.Declared
import Fixtures.Proofs.Engine.Fresh
import Fixtures.Proofs.Engine.Interleaving
import Fixtures.Proofs.Engine.Outcomes
import Fixtures.Proofs.Engine.Pass
import Fixtures.Proofs.Engine.Paths
import Fixtures.Proofs.Engine.Pruned
import Fixtures.Proofs.Engine.References
import Fixtures.Proofs.Engine.Requests
import Fixtures.Proofs.Engine.Returns
import Fixtures.Proofs.Engine.Run
import Fixtures.Proofs.Engine.Seeds
import Fixtures.Proofs.Engine.Slots
import Fixtures.Proofs.Engine.Sources
import Fixtures.Proofs.Engine.Upstream
import Fixtures.Proofs.Expansion
import Fixtures.Proofs.Failing
import Fixtures.Proofs.Failures
import Fixtures.Proofs.FileTree
import Fixtures.Proofs.Metadata
import Fixtures.Proofs.Model
import Fixtures.Proofs.NameMap
import Fixtures.Proofs.Naming
import Fixtures.Proofs.Naming.Breaks
import Fixtures.Proofs.Naming.Cut
import Fixtures.Proofs.Naming.WordCase
import Fixtures.Proofs.Path
import Fixtures.Proofs.Pipeline
import Fixtures.Proofs.Provider.Complete
import Fixtures.Proofs.Provider.Counted
import Fixtures.Proofs.Provider.Draws
import Fixtures.Proofs.Provider.Exact
import Fixtures.Proofs.Provider.Grammar
import Fixtures.Proofs.Provider.Keys
import Fixtures.Proofs.Provider.Lexeme
import Fixtures.Proofs.Provider.Lexer
import Fixtures.Proofs.Provider.Places
import Fixtures.Proofs.Provider.Quoted
import Fixtures.Proofs.Provider.Range
import Fixtures.Proofs.Provider.Renaming
import Fixtures.Proofs.Provider.Sound
import Fixtures.Proofs.Provider.Statement
import Fixtures.Proofs.Provider.Supplied
import Fixtures.Proofs.Provider.Table
import Fixtures.Proofs.Provider.Text
import Fixtures.Proofs.Pruned
import Fixtures.Proofs.Reading
import Fixtures.Proofs.Registry
import Fixtures.Proofs.Render
import Fixtures.Proofs.Resolution
import Fixtures.Proofs.Schedule.Components
import Fixtures.Proofs.Schedule.Dependency
import Fixtures.Proofs.Schedule.Levels
import Fixtures.Proofs.Schedule.Named
import Fixtures.Proofs.Schedule.Rejected
import Fixtures.Proofs.Schedule.Search
import Fixtures.Proofs.Schedule.Settled
import Fixtures.Proofs.Schedule.ShortestPath
import Fixtures.Proofs.Summary
import Fixtures.Proofs.TypeRef.Grammar
import Fixtures.Proofs.TypeRef.Parameters
import Fixtures.Proofs.TypeRef.Parser
import Fixtures.Proofs.TypeRef.Text
import Fixtures.Provider.Basic
import Fixtures.Provider.CompileFault
import Fixtures.Provider.Eval
import Fixtures.Provider.EvalFault
import Fixtures.Provider.Expr
import Fixtures.Provider.Lexer
import Fixtures.Provider.Parser
import Fixtures.Provider.Table
import Fixtures.Provider.Token
import Fixtures.Provider.Value
import Fixtures.Registry
import Fixtures.Render
import Fixtures.Report
import Fixtures.Report.Overview
import Fixtures.Schedule
import Fixtures.Schedule.Graph
import Fixtures.Setting
import Fixtures.Setting.Environment
import Fixtures.Setting.Path
import Fixtures.Setting.Toml
import Fixtures.Setting.Toml.Moment
import Fixtures.Setting.Toml.Number
import Fixtures.Setting.Toml.Table
import Fixtures.Setting.Toml.Text
import Fixtures.Setting.Toml.Value
import Fixtures.Source
import Fixtures.Text.Bands
import Fixtures.Text.Blank
import Fixtures.Text.Cluster
import Fixtures.Text.Cluster.Tables
import Fixtures.Text.Hex
import Fixtures.Text.Ident
import Fixtures.Text.LetterCase
import Fixtures.Text.LetterCase.Tables
import Fixtures.Text.Lines
import Fixtures.Text.Literal
import Fixtures.Text.Reading
import Fixtures.Text.Search
import Fixtures.Text.Visible
import Fixtures.Text.Visible.Tables
import Fixtures.TypeRef.Basic
import Fixtures.TypeRef.Parser
import Fixtures.Uuid.Basic
import Fixtures.Uuid.Blake3
import Fixtures.Uuid.Keystream
import Fixtures.Uuid.Source
import Fixtures.Uuid.Words
import Fixtures.ValueShape
import Fixtures.Yaml.Char
import Fixtures.Yaml.Cursor
import Fixtures.Yaml.Node
import Fixtures.Yaml.Node.Anchor
import Fixtures.Yaml.Node.Grammar
import Fixtures.Yaml.Printer
import Fixtures.Yaml.Scalar.Block
import Fixtures.Yaml.Scalar.Fold
import Fixtures.Yaml.Scalar.Plain
import Fixtures.Yaml.Scalar.Quoted
import Fixtures.Yaml.Scalar.Word
import Fixtures.Yaml.Scalar.Written
import Fixtures.Yaml.Token
import Fixtures.Yaml.Token.Lexer
import Fixtures.Yaml.Token.Name
import Fixtures.Yaml.Value
