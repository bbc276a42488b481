import Scriptorium.Arguments
import Scriptorium.Calendar
import Scriptorium.Call
import Scriptorium.Category
import Scriptorium.Category.Definition
import Scriptorium.Collection
import Scriptorium.Collection.Document
import Scriptorium.Command
import Scriptorium.Command.Option
import Scriptorium.Command.Path
import Scriptorium.Command.Request
import Scriptorium.Decimal.Division
import Scriptorium.Decimal.Layout
import Scriptorium.Decimal.Rounded
import Scriptorium.Decimal.Shortest
import Scriptorium.Definition.Model
import Scriptorium.Definition.Shape
import Scriptorium.Dialect
import Scriptorium.Documentation
import Scriptorium.Draft
import Scriptorium.Error
import Scriptorium.Expansion
import Scriptorium.Fault
import Scriptorium.Function
import Scriptorium.Generation
import Scriptorium.Log
import Scriptorium.Main
import Scriptorium.PowerShell
import Scriptorium.Proofs.CallExpansion
import Scriptorium.Registry
import Scriptorium.Registry.Definition
import Scriptorium.Repetition
import Scriptorium.Script
import Scriptorium.Script.Definition
import Scriptorium.Scripting
import Scriptorium.Template.Arithmetic
import Scriptorium.Template.Check
import Scriptorium.Template.Constant
import Scriptorium.Template.Conversion
import Scriptorium.Template.Expand
import Scriptorium.Template.Fault
import Scriptorium.Template.Field
import Scriptorium.Template.Filter
import Scriptorium.Template.Format
import Scriptorium.Template.Frame
import Scriptorium.Template.Grammar
import Scriptorium.Template.Item
import Scriptorium.Template.Literal
import Scriptorium.Template.Member
import Scriptorium.Template.Memory
import Scriptorium.Template.Method
import Scriptorium.Template.Method.Argument
import Scriptorium.Template.Method.Collection
import Scriptorium.Template.Method.Text
import Scriptorium.Template.Nesting
import Scriptorium.Template.Opening
import Scriptorium.Template.Operation
import Scriptorium.Template.Relation
import Scriptorium.Template.Render
import Scriptorium.Template.Token
import Scriptorium.Template.Tree
import Scriptorium.Text.Alphanumeric
import Scriptorium.Text.Blank
import Scriptorium.Text.Case
import Scriptorium.Text.CharacterName
import Scriptorium.Text.CharacterName.Letter
import Scriptorium.Text.CharacterName.Symbol
import Scriptorium.Text.Compatibility
import Scriptorium.Text.ControlSequence
import Scriptorium.Text.Digit
import Scriptorium.Text.Encoding
import Scriptorium.Text.Identifier
import Scriptorium.Text.Line
import Scriptorium.Text.Lowercase
import Scriptorium.Text.Number
import Scriptorium.Text.Printable
import Scriptorium.Text.Quoted
import Scriptorium.Text.Range
import Scriptorium.Text.Search
import Scriptorium.Text.Substitute
import Scriptorium.Text.Surrogate
import Scriptorium.Text.Uppercase
import Scriptorium.Text.Word
import Scriptorium.Value
import Scriptorium.Yaml.Base64
import Scriptorium.Yaml.Cursor
import Scriptorium.Yaml.Document
import Scriptorium.Yaml.Node
import Scriptorium.Yaml.Number
import Scriptorium.Yaml.Scalar.Block
import Scriptorium.Yaml.Scalar.Plain
import Scriptorium.Yaml.Scalar.Quoted
import Scriptorium.Yaml.Tag
import Scriptorium.Yaml.Timestamp
import Scriptorium.Yaml.Token
import Scriptorium.Yaml.Token.Stream
import Scriptorium.Proofs.CallGraph
import Scriptorium.Proofs.CallInlining
import Scriptorium.Proofs.Placeholder
import Scriptorium.Proofs.Placeholder.Scan
import Scriptorium.Proofs.Placeholder.Read
import Scriptorium.Proofs.Placeholder.Check
import Scriptorium.Proofs.Placeholder.Render
import Scriptorium.Proofs.Placeholder.Fill
import Scriptorium.Proofs.Placeholder.Outline
import Scriptorium.Proofs.CallOutline
import Scriptorium.Proofs.ScriptLayout
import Scriptorium.Proofs.Passage
import Scriptorium.Proofs.Passage.Scan
import Scriptorium.Proofs.Passage.Read
import Scriptorium.Proofs.Passage.Check
import Scriptorium.Proofs.Passage.Render
import Scriptorium.Proofs.Passage.Fill
import Scriptorium.Proofs.PhysicalLines
import Scriptorium.Proofs.AbsentName
import Scriptorium.Proofs.SuppliedArguments
import Scriptorium.Proofs.ValidCollection
import Scriptorium.Proofs.SafeGeneration
import Scriptorium.Proofs.SectionCode
import Scriptorium.Proofs.SafeTemplate
import Scriptorium.Proofs.SafeTemplate.Eval
import Scriptorium.Proofs.SafeTemplate.Render
import Scriptorium.Proofs.SafeTemplate.Fold
import Scriptorium.Proofs.SafeTemplate.Check
import Scriptorium.Proofs.SafeTemplate.Fill
import Scriptorium.Proofs.CallSequence
import Scriptorium.Proofs.FunctionDefinitions
import Scriptorium.Proofs.DefinitionOrder
import Scriptorium.Proofs.WrittenScript
import Scriptorium.Proofs.ListedScripts
import Scriptorium.Proofs.CommandOutcome
import Scriptorium.Proofs.DumpedDefinition
import Scriptorium.Proofs.RepeatedSelection
import Scriptorium.Proofs.DeclaredParameter
import Scriptorium.Proofs.KeptPieces
import Scriptorium.Proofs.ExecutableLines
import Scriptorium.Proofs.ValidCode
import Scriptorium.Proofs.DistinctCommands
import Scriptorium.Proofs.PlainText
import Scriptorium.Proofs.PlainText.Fill
import Scriptorium.Proofs.OptionalArgument
import Scriptorium.Proofs.ReturnOrder
import Scriptorium.Proofs.CyclicCall
import Scriptorium.Proofs.AcceptedFunctions
import Scriptorium.Proofs.CategoryTree
import Scriptorium.Proofs.CodeSides
import Scriptorium.Proofs.RevertedCode
import Scriptorium.Proofs.SameArguments
import Scriptorium.Proofs.EchoedText
import Scriptorium.Proofs.EchoedLine
import Scriptorium.Proofs.FlatSnippet
import Scriptorium.Proofs.InlinedSnippet
import Scriptorium.Proofs.HeadingWidth
import Scriptorium.Proofs.NameLookup
import Scriptorium.Proofs.EscapedQuote
