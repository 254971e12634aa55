import TreeSchema.Assembly
import TreeSchema.Command
import TreeSchema.Config
import TreeSchema.Config.Reader
import TreeSchema.Declaration
import TreeSchema.Encoder
import TreeSchema.Encoder.Build
import TreeSchema.Entries
import TreeSchema.Error
import TreeSchema.Files
import TreeSchema.Json.Skip
import TreeSchema.Json.StringValue
import TreeSchema.Json.Token
import TreeSchema.Json.Value
import TreeSchema.Line
import TreeSchema.Main
import TreeSchema.Module
import TreeSchema.Override
import TreeSchema.Path
import TreeSchema.Proofs.Dispatch
import TreeSchema.Proofs.Entries
import TreeSchema.Proofs.Faults
import TreeSchema.Proofs.Grammar
import TreeSchema.Proofs.PrintedLine
import TreeSchema.Proofs.Reading
import TreeSchema.Proofs.RoundTrip
import TreeSchema.Proofs.Text
import TreeSchema.Schema
import TreeSchema.Schema.Dump
import TreeSchema.Text.Alphanumeric
import TreeSchema.Text.Blank
import TreeSchema.Text.CamelCase
import TreeSchema.Text.Cut
import TreeSchema.Text.Escaped
import TreeSchema.Text.LetterCase
import TreeSchema.Text.Lines
import TreeSchema.Text.Quoted
import TreeSchema.Text.Span
import TreeSchema.Trace
import TreeSchema.TypeClass
import TreeSchema.Proofs.Locality
import TreeSchema.Proofs.Layout
import TreeSchema.Proofs.OutputName
import TreeSchema.Proofs.Openings
import TreeSchema.Proofs.Records
import TreeSchema.Proofs.Sites
import TreeSchema.Proofs.Completion
import TreeSchema.Proofs.Concatenation
import TreeSchema.Proofs.Runs
import TreeSchema.Proofs.Dump
import TreeSchema.Proofs.JsonGrammar
import TreeSchema.Proofs.Settings
import TreeSchema.Proofs.Decoding
import TreeSchema.Proofs.FlatShape
import TreeSchema.Proofs.QuotedTags
import TreeSchema.Proofs.Overrides
import TreeSchema.Proofs.FieldLines
import TreeSchema.Proofs.Templates
import TreeSchema.Proofs.Scoping
import TreeSchema.Proofs.NodeNames
import TreeSchema.Proofs.Redeclarations
import TreeSchema.Proofs.Classification
import TreeSchema.Proofs.SelfDelimiting
import TreeSchema.Proofs.SnakeCase
