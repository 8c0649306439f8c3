import YangDesign.Assoc
import YangDesign.Audit.Issue
import YangDesign.Audit.Rule
import YangDesign.Command.Arguments
import YangDesign.Command.Convert
import YangDesign.Command.Failure
import YangDesign.Command.Files
import YangDesign.Command.Inspect
import YangDesign.Command.Load
import YangDesign.Command.Path
import YangDesign.Command.Session
import YangDesign.Command.Validate
import YangDesign.Console.Contents
import YangDesign.Console.Emoji
import YangDesign.Console.Faults
import YangDesign.Console.Grid
import YangDesign.Console.Handler
import YangDesign.Console.Lexeme
import YangDesign.Console.Marked
import YangDesign.Console.Markup
import YangDesign.Console.Outline
import YangDesign.Console.Panel
import YangDesign.Console.Paragraph
import YangDesign.Console.Pictures
import YangDesign.Console.Style
import YangDesign.Console.Verdict
import YangDesign.Design.Definition
import YangDesign.Design.Document
import YangDesign.Design.Markup
import YangDesign.Design.Name
import YangDesign.Design.Reader
import YangDesign.Design.Summary
import YangDesign.Design.TypeReference
import YangDesign.Input.Checked
import YangDesign.Input.Fault
import YangDesign.Input.Report
import YangDesign.Instance.Decode
import YangDesign.Instance.Failure
import YangDesign.Instance.Leaf
import YangDesign.Instance.Tree
import YangDesign.Journal
import YangDesign.Main
import YangDesign.Number.Binary64
import YangDesign.Number.Decimal
import YangDesign.Number.Literal
import YangDesign.Number.Shortest
import YangDesign.Number.Whole
import YangDesign.Proofs.Answers
import YangDesign.Proofs.Audit.Agreement
import YangDesign.Proofs.Audit.Relocation
import YangDesign.Proofs.Command.Convert
import YangDesign.Proofs.Command.Files
import YangDesign.Proofs.Design.NameTexts
import YangDesign.Proofs.Design.Parts
import YangDesign.Proofs.Design.Positions
import YangDesign.Proofs.Design.ReadBack
import YangDesign.Proofs.Design.Regular
import YangDesign.Proofs.Design.Relocation
import YangDesign.Proofs.Design.Writable
import YangDesign.Proofs.Design.Written
import YangDesign.Proofs.Input.Accepted
import YangDesign.Proofs.Instance.LeafValues
import YangDesign.Proofs.Instance.Lookup
import YangDesign.Proofs.Instance.NamesApart
import YangDesign.Proofs.Instance.Representation
import YangDesign.Proofs.Instance.ValueTexts
import YangDesign.Proofs.Number.Numerals
import YangDesign.Proofs.Number.Special
import YangDesign.Proofs.Schema.Counts
import YangDesign.Proofs.Schema.Cycles
import YangDesign.Proofs.Schema.Denotation
import YangDesign.Proofs.Schema.Enumerations
import YangDesign.Proofs.Schema.Lexical
import YangDesign.Proofs.Schema.Nodes
import YangDesign.Proofs.Schema.Prefixes
import YangDesign.Proofs.Schema.Remembering
import YangDesign.Proofs.Schema.Reordering
import YangDesign.Proofs.Schema.Resolution
import YangDesign.Proofs.Schema.Siblings
import YangDesign.Proofs.Schema.Spelling
import YangDesign.Proofs.Schema.StaticScope
import YangDesign.Proofs.Schema.Strays
import YangDesign.Proofs.Schema.TopOrder
import YangDesign.Proofs.Schema.Walk
import YangDesign.Proofs.Schema.WellFormed
import YangDesign.Proofs.Text.Plain
import YangDesign.Proofs.Translate.AnyOrder
import YangDesign.Proofs.Translate.Asking
import YangDesign.Proofs.Translate.Attachment
import YangDesign.Proofs.Translate.Blueprint
import YangDesign.Proofs.Translate.Build
import YangDesign.Proofs.Translate.Chains
import YangDesign.Proofs.Translate.Composition
import YangDesign.Proofs.Translate.Conformance
import YangDesign.Proofs.Translate.Contexts
import YangDesign.Proofs.Translate.Correspondence
import YangDesign.Proofs.Translate.Coverage
import YangDesign.Proofs.Translate.Derivation
import YangDesign.Proofs.Translate.Faithful
import YangDesign.Proofs.Translate.Foundation
import YangDesign.Proofs.Translate.FurtherModule
import YangDesign.Proofs.Translate.Identities
import YangDesign.Proofs.Translate.Members
import YangDesign.Proofs.Translate.NameRequests
import YangDesign.Proofs.Translate.Names
import YangDesign.Proofs.Translate.Nests
import YangDesign.Proofs.Translate.Numbering
import YangDesign.Proofs.Translate.Outcome
import YangDesign.Proofs.Translate.Qualified
import YangDesign.Proofs.Translate.ReadBack
import YangDesign.Proofs.Translate.Recording
import YangDesign.Proofs.Translate.References
import YangDesign.Proofs.Translate.Refusals
import YangDesign.Proofs.Translate.Registration
import YangDesign.Proofs.Translate.Regular
import YangDesign.Proofs.Translate.RegularDesign
import YangDesign.Proofs.Translate.Relocation
import YangDesign.Proofs.Translate.Resting
import YangDesign.Proofs.Translate.Runs
import YangDesign.Proofs.Translate.Shapes
import YangDesign.Proofs.Translate.Soundness
import YangDesign.Proofs.Translate.Sources
import YangDesign.Proofs.Translate.Steps
import YangDesign.Proofs.Translate.TopData
import YangDesign.Proofs.Translate.Tracing
import YangDesign.Proofs.Translate.Types
import YangDesign.Proofs.Translate.Values
import YangDesign.Proofs.Translate.WithoutData
import YangDesign.Proofs.Translate.Writable
import YangDesign.Proofs.Xml.Heads
import YangDesign.Proofs.Xml.Lexing
import YangDesign.Proofs.Xml.RoundTrip
import YangDesign.Schema.Check
import YangDesign.Schema.Document
import YangDesign.Schema.Dump
import YangDesign.Schema.Resolve
import YangDesign.Schema.Scope
import YangDesign.Schema.Tree
import YangDesign.Text.Blank
import YangDesign.Text.Coded
import YangDesign.Text.Form
import YangDesign.Text.Letter
import YangDesign.Text.Lines
import YangDesign.Text.Lower
import YangDesign.Text.Numeral
import YangDesign.Text.Plain
import YangDesign.Text.Printable
import YangDesign.Text.Quoted
import YangDesign.Text.Upper
import YangDesign.Text.Width
import YangDesign.Time.Calendar
import YangDesign.Time.Written
import YangDesign.Translate.DataType
import YangDesign.Translate.Failure
import YangDesign.Translate.Naming
import YangDesign.Translate.Progress
import YangDesign.Translate.Registry
import YangDesign.Translate.Request
import YangDesign.Translate.Schema
import YangDesign.Translate.Settings
import YangDesign.Translate.Shape
import YangDesign.Value
import YangDesign.Xml.Char
import YangDesign.Xml.Content
import YangDesign.Xml.Declaration
import YangDesign.Xml.Declared
import YangDesign.Xml.Doctype
import YangDesign.Xml.Encoding
import YangDesign.Xml.Namespaces
import YangDesign.Xml.Parser
import YangDesign.Xml.Piece
import YangDesign.Xml.Printer
import YangDesign.Xml.Reading
import YangDesign.Xml.Token
import YangDesign.Xml.Uri
import YangDesign.Yaml.Cursor
import YangDesign.Yaml.Document
import YangDesign.Yaml.Fault
import YangDesign.Yaml.Lexer
import YangDesign.Yaml.Merge
import YangDesign.Yaml.Node
import YangDesign.Yaml.Property
import YangDesign.Yaml.Reading
import YangDesign.Yaml.Scalar
import YangDesign.Yaml.ScalarText
import YangDesign.Yaml.Token
import YangDesign.Yaml.Typing
