import Rehearsal.Code.Basic
import Rehearsal.Code.Build
import Rehearsal.Code.Render
import Rehearsal.Command.Options
import Rehearsal.Command.Run
import Rehearsal.Feature.Basic
import Rehearsal.Feature.Collect
import Rehearsal.Feature.Fault
import Rehearsal.Feature.Fence
import Rehearsal.Feature.Line
import Rehearsal.Feature.Reader
import Rehearsal.Feature.Row
import Rehearsal.Files.Path
import Rehearsal.Files.Tree
import Rehearsal.Framework
import Rehearsal.Framework.Draft
import Rehearsal.Identifier
import Rehearsal.Log.Basic
import Rehearsal.Log.Format
import Rehearsal.Main
import Rehearsal.Numeral
import Rehearsal.Outline.Placeholder
import Rehearsal.Outline.Variant
import Rehearsal.Platform
import Rehearsal.Retry.Directive
import Rehearsal.Retry.Loop
import Rehearsal.Runner
import Rehearsal.Settings.Basic
import Rehearsal.Settings.Data
import Rehearsal.Settings.Merge
import Rehearsal.Settings.Store
import Rehearsal.Shell.Arguments
import Rehearsal.Shell.Run
import Rehearsal.Shell.Terminal
import Rehearsal.StepCall
import Rehearsal.TagName
import Rehearsal.TagPolicy
import Rehearsal.TestClass.Body
import Rehearsal.TestClass.Fault
import Rehearsal.TestClass.Generate
import Rehearsal.TestClass.Lifecycle
import Rehearsal.TestClass.Portion
import Rehearsal.Text.Blank
import Rehearsal.Text.Case
import Rehearsal.Text.CaseTable
import Rehearsal.Text.Digit
import Rehearsal.Text.Escape
import Rehearsal.Text.Lines
import Rehearsal.Text.Printable
import Rehearsal.Text.Quoted
import Rehearsal.Text.Range
import Rehearsal.Text.Replace
import Rehearsal.Text.Word
import Rehearsal.Value
import Rehearsal.Yaml.Content
import Rehearsal.Yaml.Fold
import Rehearsal.Yaml.Graph
import Rehearsal.Yaml.Node
import Rehearsal.Yaml.Scalar
import Rehearsal.Yaml.Token
import Rehearsal.Proofs.Assoc
import Rehearsal.Proofs.Code.Blocks
import Rehearsal.Proofs.Code.DocLiteral
import Rehearsal.Proofs.Code.Execution
import Rehearsal.Proofs.Code.ExprText
import Rehearsal.Proofs.Code.Nesting
import Rehearsal.Proofs.Code.Operation
import Rehearsal.Proofs.Code.Playing
import Rehearsal.Proofs.Code.Rendering
import Rehearsal.Proofs.Code.TextLiteral
import Rehearsal.Proofs.Command.Aftermath
import Rehearsal.Proofs.Command.Configuration
import Rehearsal.Proofs.Command.Emission
import Rehearsal.Proofs.Command.Modules
import Rehearsal.Proofs.Command.Preparation
import Rehearsal.Proofs.Feature.Attachment
import Rehearsal.Proofs.Feature.Cells
import Rehearsal.Proofs.Feature.Document
import Rehearsal.Proofs.Feature.Effect
import Rehearsal.Proofs.Feature.Fence
import Rehearsal.Proofs.Feature.Fenced
import Rehearsal.Proofs.Feature.Parsed
import Rehearsal.Proofs.Feature.Parts
import Rehearsal.Proofs.Feature.Print
import Rehearsal.Proofs.Feature.PrintedLine
import Rehearsal.Proofs.Feature.Reading
import Rehearsal.Proofs.Feature.Relayout
import Rehearsal.Proofs.Feature.RoundTrip
import Rehearsal.Proofs.Feature.Row
import Rehearsal.Proofs.Feature.StepReading
import Rehearsal.Proofs.Feature.Unnumbered
import Rehearsal.Proofs.Feature.WellFormed
import Rehearsal.Proofs.Files.Tree
import Rehearsal.Proofs.Identifier
import Rehearsal.Proofs.Log.Result
import Rehearsal.Proofs.Numeral
import Rehearsal.Proofs.Outline.Formatting
import Rehearsal.Proofs.Outline.Replacement
import Rehearsal.Proofs.Retry.Attempts
import Rehearsal.Proofs.Retry.Count
import Rehearsal.Proofs.Retry.Resolution
import Rehearsal.Proofs.Retry.Result
import Rehearsal.Proofs.Settings.Expansion
import Rehearsal.Proofs.Settings.Fields
import Rehearsal.Proofs.Settings.Merging
import Rehearsal.Proofs.Settings.Overriding
import Rehearsal.Proofs.Settings.Precedence
import Rehearsal.Proofs.Settings.Sections
import Rehearsal.Proofs.Settings.Sources
import Rehearsal.Proofs.Settings.Writing
import Rehearsal.Proofs.Shell.Terminal
import Rehearsal.Proofs.StepCall
import Rehearsal.Proofs.TagName
import Rehearsal.Proofs.TestClass.Anatomy
import Rehearsal.Proofs.TestClass.Assembly
import Rehearsal.Proofs.TestClass.Callees
import Rehearsal.Proofs.TestClass.Categories
import Rehearsal.Proofs.TestClass.Columns
import Rehearsal.Proofs.TestClass.Decoration
import Rehearsal.Proofs.TestClass.Expansion
import Rehearsal.Proofs.TestClass.Outcome
import Rehearsal.Proofs.TestClass.Publication
import Rehearsal.Proofs.TestClass.Requests
import Rehearsal.Proofs.TestClass.Revision
import Rehearsal.Proofs.TestClass.RowCalls
import Rehearsal.Proofs.TestClass.RowNames
import Rehearsal.Proofs.TestClass.RowTests
import Rehearsal.Proofs.TestClass.Source
import Rehearsal.Proofs.TestClass.Steps
import Rehearsal.Proofs.Text.Ascii
import Rehearsal.Proofs.Text.Blank
import Rehearsal.Proofs.Text.Case
import Rehearsal.Proofs.Text.Lines
import Rehearsal.Proofs.Text.Replace
