import FieldRules.Check
import FieldRules.Command.Arguments
import FieldRules.Command.Basic
import FieldRules.Command.Failure
import FieldRules.Command.Invocation
import FieldRules.Data.Basic
import FieldRules.Data.Shape
import FieldRules.Files.Path
import FieldRules.Files.Store
import FieldRules.Generator.Basic
import FieldRules.Generator.Config
import FieldRules.Generator.Identifier
import FieldRules.Generator.Statement
import FieldRules.Json.Printer
import FieldRules.Json.Reader
import FieldRules.Mail.Mailbox
import FieldRules.Main
import FieldRules.Manifest
import FieldRules.Net.DomainName
import FieldRules.Net.Host
import FieldRules.Net.HostMapping
import FieldRules.Net.IpAddress
import FieldRules.Net.Punycode
import FieldRules.Net.Url
import FieldRules.Number.Binary64
import FieldRules.Pattern.Basic
import FieldRules.Pattern.Cache
import FieldRules.Pattern.CharSet
import FieldRules.Pattern.Expression
import FieldRules.Pattern.Meaning
import FieldRules.Pattern.Reader
import FieldRules.Pattern.Regex
import FieldRules.Pattern.Room
import FieldRules.Pattern.Store
import FieldRules.Plan.Basic
import FieldRules.Plan.CompileError
import FieldRules.Plan.Compiler
import FieldRules.Plan.Execution
import FieldRules.Proofs.Command.Acceptance
import FieldRules.Proofs.Command.Failure
import FieldRules.Proofs.Command.Writing
import FieldRules.Proofs.Data.Member
import FieldRules.Proofs.Files.Store
import FieldRules.Proofs.Generator.Agreement
import FieldRules.Proofs.Generator.Banner
import FieldRules.Proofs.Generator.Call
import FieldRules.Proofs.Generator.Derived
import FieldRules.Proofs.Generator.Grouping
import FieldRules.Proofs.Generator.Identifier
import FieldRules.Proofs.Generator.Instance
import FieldRules.Proofs.Generator.Layout
import FieldRules.Proofs.Generator.Linkage
import FieldRules.Proofs.Generator.Naming
import FieldRules.Proofs.Generator.Partition
import FieldRules.Proofs.Generator.Spelling
import FieldRules.Proofs.Json.Numeral
import FieldRules.Proofs.Json.RoundTrip
import FieldRules.Proofs.Mail.Mailbox
import FieldRules.Proofs.Pattern.Cache
import FieldRules.Proofs.Pattern.Language
import FieldRules.Proofs.Pattern.Matching
import FieldRules.Proofs.Pattern.Room
import FieldRules.Proofs.Pattern.Store
import FieldRules.Proofs.Pattern.Transparency
import FieldRules.Proofs.Plan.Adequacy
import FieldRules.Proofs.Plan.Attribution
import FieldRules.Proofs.Plan.Closure
import FieldRules.Proofs.Plan.Deferral
import FieldRules.Proofs.Plan.Dependence
import FieldRules.Proofs.Plan.Depth
import FieldRules.Proofs.Plan.Direct
import FieldRules.Proofs.Plan.Execution
import FieldRules.Proofs.Plan.FirstFault
import FieldRules.Proofs.Plan.Listing
import FieldRules.Proofs.Plan.Loop
import FieldRules.Proofs.Plan.Magnitude
import FieldRules.Proofs.Plan.Meaning
import FieldRules.Proofs.Plan.Nesting
import FieldRules.Proofs.Plan.Outside
import FieldRules.Proofs.Plan.Search
import FieldRules.Proofs.Plan.Shrinking
import FieldRules.Proofs.Plan.Simulation
import FieldRules.Proofs.Plan.Steps
import FieldRules.Proofs.Plan.Table
import FieldRules.Proofs.Plan.Typing
import FieldRules.Proofs.Plan.Whole
import FieldRules.Proofs.Record.Codec
import FieldRules.Proofs.Registry.History
import FieldRules.Proofs.Registry.IntegerType
import FieldRules.Proofs.Registry.Refusal
import FieldRules.Proofs.Registry.Removal
import FieldRules.Proofs.Registry.RuleTable
import FieldRules.Proofs.Registry.Table
import FieldRules.Proofs.Report.Append
import FieldRules.Proofs.Report.Log
import FieldRules.Proofs.Source.Bound
import FieldRules.Proofs.Source.IntegerType
import FieldRules.Proofs.Source.JoinedTag
import FieldRules.Proofs.Source.Literal
import FieldRules.Proofs.Source.Token
import FieldRules.Proofs.Tag.Canonical
import FieldRules.Proofs.Tag.Diagnosis
import FieldRules.Proofs.Tag.Grammar
import FieldRules.Proofs.Text.Cut
import FieldRules.Proofs.Text.Numeral
import FieldRules.Record.Basic
import FieldRules.Record.Codec
import FieldRules.Registry.Basic
import FieldRules.Registry.Builtin
import FieldRules.Registry.FieldCheck
import FieldRules.Registry.Keyword
import FieldRules.Registry.RuleError
import FieldRules.Report
import FieldRules.Report.Codec
import FieldRules.Settings.Basic
import FieldRules.Settings.Variable
import FieldRules.Source.Attribute
import FieldRules.Source.Derive
import FieldRules.Source.Item
import FieldRules.Source.Literal
import FieldRules.Source.Reader
import FieldRules.Source.Token
import FieldRules.Source.Type
import FieldRules.Tag.Reader
import FieldRules.Tag.Rule
import FieldRules.Text.Ascii
import FieldRules.Text.Blank
import FieldRules.Text.Hexadecimal
import FieldRules.Text.Lines
import FieldRules.Text.Numeral
import FieldRules.Text.Pieces
import FieldRules.Text.Quoted
import FieldRules.Text.Utf8
import FieldRules.Toml.Reader
import FieldRules.Toml.Scalar
import FieldRules.Toml.Table
import FieldRules.Toml.Text
import FieldRules.Unicode.BidiClass
import FieldRules.Unicode.CaseFolding
import FieldRules.Unicode.Character
import FieldRules.Unicode.CodePointSet
import FieldRules.Unicode.Composition
import FieldRules.Unicode.Edges
import FieldRules.Unicode.GeneralCategory
import FieldRules.Unicode.Joining
import FieldRules.Unicode.Property
import FieldRules.Unicode.PropertyValue
import FieldRules.Unicode.Script
import FieldRules.Yaml.Place
import FieldRules.Yaml.Reader
import FieldRules.Yaml.Scalar
import FieldRules.Yaml.Token
