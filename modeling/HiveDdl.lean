import HiveDdl.Text.Blank
import HiveDdl.Text.Digit
import HiveDdl.Text.Case
import HiveDdl.Text.PrintableTable
import HiveDdl.Text.Quote
import HiveDdl.Text.Surrogate
import HiveDdl.Text.Utf8
import HiveDdl.Numeral
import HiveDdl.CallDepth
import HiveDdl.Value
import HiveDdl.Json.Reader
import HiveDdl.Schema.Identifier
import HiveDdl.Schema.Type
import HiveDdl.Schema.Table
import HiveDdl.Schema.View
import HiveDdl.Xml.Scalar
import HiveDdl.Document
import HiveDdl.Path.TypePath
import HiveDdl.Path.Resolve
import HiveDdl.Projection
import HiveDdl.Generation
import HiveDdl.Xml.NameTable
import HiveDdl.Xml.Markup
import HiveDdl.Xml.Prolog
import HiveDdl.Xml.Tree
import HiveDdl.Xml.Declaration
import HiveDdl.Xml.Reader
import HiveDdl.Yaml.Mark
import HiveDdl.Yaml.Token
import HiveDdl.Yaml.Scanner
import HiveDdl.Yaml.Parser
import HiveDdl.Yaml.Resolver
import HiveDdl.Yaml.Node
import HiveDdl.Binary64.Basic
import HiveDdl.Binary64.Shortest
import HiveDdl.Text.Base64
import HiveDdl.Calendar
import HiveDdl.Yaml.Number
import HiveDdl.Yaml.Datum
import HiveDdl.Yaml.Construct
import HiveDdl.Workspace
import HiveDdl.Configuration
import HiveDdl.Text.Similarity
import HiveDdl.Run
import HiveDdl.Cli.Help
import HiveDdl.Cli.Arguments
import HiveDdl.Cli.Session
import HiveDdl.Main
import HiveDdl.Proofs.Sequencing
import HiveDdl.Proofs.Sorting
import HiveDdl.Proofs.ColumnWrites
import HiveDdl.Proofs.Stages
import HiveDdl.Proofs.FailureOrder
import HiveDdl.Proofs.ViewColumns
import HiveDdl.Proofs.XPathProperties
import HiveDdl.Proofs.PathOrder
import HiveDdl.Proofs.TypeFailures
import HiveDdl.Proofs.NumberTypes
import HiveDdl.Proofs.Sessions
import HiveDdl.Proofs.FilteredPaths
import HiveDdl.Proofs.ScalarTexts
import HiveDdl.Proofs.Identifiers
import HiveDdl.Proofs.FieldNames
import HiveDdl.Proofs.PathText
import HiveDdl.Proofs.DenseDocuments
import HiveDdl.Proofs.ConfigurationChecks
