import AttributeSchema.Binary64.Basic
import AttributeSchema.Binary64.Decimal
import AttributeSchema.Binary64.Shortest
import AttributeSchema.Body
import AttributeSchema.Caller
import AttributeSchema.Check.Leaf
import AttributeSchema.Check.Network
import AttributeSchema.Check.Number
import AttributeSchema.Check.Text
import AttributeSchema.Command.Arguments
import AttributeSchema.Command.Run
import AttributeSchema.Command.Setting
import AttributeSchema.Command.Settings
import AttributeSchema.Command.Variable
import AttributeSchema.Config
import AttributeSchema.ConfigError
import AttributeSchema.Conversion
import AttributeSchema.Converter.Address
import AttributeSchema.Converter.Basic
import AttributeSchema.Converter.Error
import AttributeSchema.Converter.Scalar
import AttributeSchema.Converter.Sequence
import AttributeSchema.Diagnostic
import AttributeSchema.Dict
import AttributeSchema.Document.Basic
import AttributeSchema.Document.Caller
import AttributeSchema.Document.Config
import AttributeSchema.Document.Entry
import AttributeSchema.Document.Format
import AttributeSchema.Document.Resolve
import AttributeSchema.Document.Source
import AttributeSchema.Json.Basic
import AttributeSchema.Json.Members
import AttributeSchema.Json.Parser
import AttributeSchema.Json.Printer
import AttributeSchema.Json.Token
import AttributeSchema.Json.Written
import AttributeSchema.Main
import AttributeSchema.Net.Address
import AttributeSchema.Net.DomainName
import AttributeSchema.Net.Mac
import AttributeSchema.Net.Subnet
import AttributeSchema.Net.Words
import AttributeSchema.Population
import AttributeSchema.Proofs.Check.Canonical
import AttributeSchema.Proofs.Check.Distinct
import AttributeSchema.Proofs.Check.DomainName
import AttributeSchema.Proofs.Check.Extensional
import AttributeSchema.Proofs.Check.Integer
import AttributeSchema.Proofs.Check.Mac
import AttributeSchema.Proofs.Check.Subnet
import AttributeSchema.Proofs.Converter.Canonical
import AttributeSchema.Proofs.Converter.Idempotence
import AttributeSchema.Proofs.Converter.Pairs
import AttributeSchema.Proofs.Document.Extension
import AttributeSchema.Proofs.Document.Resolution
import AttributeSchema.Proofs.Json.Alike
import AttributeSchema.Proofs.Json.Equality
import AttributeSchema.Proofs.Json.Members
import AttributeSchema.Proofs.Json.Quoted
import AttributeSchema.Proofs.Net.RoundTrip
import AttributeSchema.Proofs.Registry.Binding
import AttributeSchema.Proofs.Request.Attribute
import AttributeSchema.Proofs.Request.Completion
import AttributeSchema.Proofs.Request.Congruence
import AttributeSchema.Proofs.Request.Creation
import AttributeSchema.Proofs.Request.Filling
import AttributeSchema.Proofs.Request.FirstFailure
import AttributeSchema.Proofs.Request.Locality
import AttributeSchema.Proofs.Request.Marks
import AttributeSchema.Proofs.Request.Null
import AttributeSchema.Proofs.Request.ObjectView
import AttributeSchema.Proofs.Request.Omission
import AttributeSchema.Proofs.Request.OwnerDecision
import AttributeSchema.Proofs.Request.OwnerSafety
import AttributeSchema.Proofs.Request.Projection
import AttributeSchema.Proofs.Request.Segments
import AttributeSchema.Proofs.Request.Settlement
import AttributeSchema.Proofs.Request.Stages
import AttributeSchema.Proofs.Request.Update
import AttributeSchema.Proofs.Spec.Conversion
import AttributeSchema.Proofs.Spec.Defaults
import AttributeSchema.Proofs.Spec.Frame
import AttributeSchema.Proofs.Spec.KeyOrder
import AttributeSchema.Proofs.Spec.Nesting
import AttributeSchema.Proofs.Spec.Population
import AttributeSchema.Proofs.Spec.Repopulation
import AttributeSchema.Proofs.Spec.SelfSufficiency
import AttributeSchema.Proofs.Text.Reading
import AttributeSchema.Proofs.Uuid
import AttributeSchema.Regex.Automaton.Backward
import AttributeSchema.Regex.Automaton.Draft
import AttributeSchema.Regex.Automaton.Forward
import AttributeSchema.Regex.Automaton.Size
import AttributeSchema.Regex.Automaton.Words
import AttributeSchema.Regex.Basic
import AttributeSchema.Regex.Compile
import AttributeSchema.Regex.Match
import AttributeSchema.Regex.Meaning
import AttributeSchema.Regex.Pattern.Basic
import AttributeSchema.Regex.Pattern.Bracket
import AttributeSchema.Regex.Pattern.Escape
import AttributeSchema.Regex.Pattern.Group
import AttributeSchema.Regex.Pattern.Reader
import AttributeSchema.Regex.Pattern.Space
import AttributeSchema.Regex.Property
import AttributeSchema.Registry.Bundled
import AttributeSchema.Registry.Converters
import AttributeSchema.Registry.Validators
import AttributeSchema.Request.Basic
import AttributeSchema.Request.Error
import AttributeSchema.Request.Outcome
import AttributeSchema.Request.Ownership
import AttributeSchema.Rule
import AttributeSchema.Schema
import AttributeSchema.Segment
import AttributeSchema.Slot
import AttributeSchema.Text.Base64
import AttributeSchema.Text.Blank
import AttributeSchema.Text.CharSet
import AttributeSchema.Text.EncodedSpan
import AttributeSchema.Text.Numeral
import AttributeSchema.Text.Pieces
import AttributeSchema.Text.Unicode.Age
import AttributeSchema.Text.Unicode.CaseFolding
import AttributeSchema.Text.Unicode.Category
import AttributeSchema.Text.Unicode.Classes
import AttributeSchema.Text.Unicode.Property
import AttributeSchema.Text.Unicode.Runs
import AttributeSchema.Text.Unicode.Script
import AttributeSchema.Text.Unicode.Segmentation
import AttributeSchema.Uuid
import AttributeSchema.Yaml.BlockHeader
import AttributeSchema.Yaml.Classic.Block
import AttributeSchema.Yaml.Classic.Document
import AttributeSchema.Yaml.Classic.Plain
import AttributeSchema.Yaml.Classic.Quoted
import AttributeSchema.Yaml.Classic.Scanner
import AttributeSchema.Yaml.Classic.Space
import AttributeSchema.Yaml.Classic.Spelling
import AttributeSchema.Yaml.Cursor
import AttributeSchema.Yaml.Escape
import AttributeSchema.Yaml.Folding
import AttributeSchema.Yaml.KeyPlace
import AttributeSchema.Yaml.Modern.Block
import AttributeSchema.Yaml.Modern.Document
import AttributeSchema.Yaml.Modern.Entries
import AttributeSchema.Yaml.Modern.Plain
import AttributeSchema.Yaml.Modern.Quoted
import AttributeSchema.Yaml.Modern.Scalar
import AttributeSchema.Yaml.Modern.Scanner
import AttributeSchema.Yaml.Modern.Space
import AttributeSchema.Yaml.Modern.Value
import AttributeSchema.Yaml.Node
import AttributeSchema.Yaml.Tag
import AttributeSchema.Yaml.Token
import AttributeSchema.Yaml.Tree
