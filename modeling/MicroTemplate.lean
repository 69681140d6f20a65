import MicroTemplate.Bindings
import MicroTemplate.Calendar.Date
import MicroTemplate.Calendar.DateTime
import MicroTemplate.Calendar.Duration
import MicroTemplate.Calendar.DurationText
import MicroTemplate.CommandLine
import MicroTemplate.Encoding.Html
import MicroTemplate.Encoding.Url
import MicroTemplate.Engine
import MicroTemplate.Environment
import MicroTemplate.Error
import MicroTemplate.Expression.Machine
import MicroTemplate.Expression.Name
import MicroTemplate.Expression.Operator
import MicroTemplate.Expression.Phrase
import MicroTemplate.Expression.Token
import MicroTemplate.Function.Builtin
import MicroTemplate.Function.Registry
import MicroTemplate.Main
import MicroTemplate.Member.Method
import MicroTemplate.Member.Property
import MicroTemplate.Member.Registry
import MicroTemplate.Number.Binary64
import MicroTemplate.Number.FloatReader
import MicroTemplate.Number.Grouped
import MicroTemplate.Number.Integer
import MicroTemplate.Number.Shortest
import MicroTemplate.Program.Disk
import MicroTemplate.Program.FileFault
import MicroTemplate.Program.Platform
import MicroTemplate.Program.Run
import MicroTemplate.Proofs.Expression.Tree
import MicroTemplate.Regex.Automaton
import MicroTemplate.Regex.Class
import MicroTemplate.Regex.Parser
import MicroTemplate.Regex.Property
import MicroTemplate.Regex.Replacement
import MicroTemplate.Regex.Search
import MicroTemplate.Regex.Syntax
import MicroTemplate.Template.Directive
import MicroTemplate.Template.Render
import MicroTemplate.Template.Segment
import MicroTemplate.Text.Case
import MicroTemplate.Text.CharClass
import MicroTemplate.Text.Lines
import MicroTemplate.Text.Quoted
import MicroTemplate.Text.Search
import MicroTemplate.Text.Trim
import MicroTemplate.Text.Utf8
import MicroTemplate.Unicode.CaseMap
import MicroTemplate.Unicode.CaseRuns
import MicroTemplate.Unicode.CodeRanges
import MicroTemplate.Unicode.GeneralCategory
import MicroTemplate.Unicode.Property
import MicroTemplate.Unicode.Script
import MicroTemplate.Value.Arithmetic
import MicroTemplate.Value.Basic
import MicroTemplate.Value.Coercion
import MicroTemplate.Value.Equality
import MicroTemplate.Value.Host
import MicroTemplate.Value.Order
import MicroTemplate.Value.Text
import MicroTemplate.VariablesFile
import MicroTemplate.Proofs.Expression.Stacks
import MicroTemplate.Proofs.Expression.Completion
import MicroTemplate.Proofs.Expression.Reading
import MicroTemplate.Proofs.Template.Step
import MicroTemplate.Proofs.Template.Nesting
import MicroTemplate.Proofs.Template.Parts
import MicroTemplate.Proofs.Template.Suppression
import MicroTemplate.Proofs.Template.Meaning
import MicroTemplate.Proofs.Template.Interpretation
import MicroTemplate.Proofs.Text.CharClass
import MicroTemplate.Proofs.Expression.Spelling
import MicroTemplate.Proofs.Expression.Arguments
import MicroTemplate.Proofs.Expression.Operands
import MicroTemplate.Proofs.Expression.Call
import MicroTemplate.Proofs.Template.Segments
import MicroTemplate.Proofs.Template.Embedding
import MicroTemplate.Proofs.Template.Joining
import MicroTemplate.Proofs.Template.Composition
import MicroTemplate.Proofs.Expression.Literal
import MicroTemplate.Proofs.Template.Termination
import MicroTemplate.Proofs.Template.Delegation
import MicroTemplate.Proofs.Template.Session
import MicroTemplate.Proofs.Template.Offsets
import MicroTemplate.Proofs.Expression.Words
import MicroTemplate.Proofs.Template.BindingOrder
import MicroTemplate.Proofs.Program.CommandLine
import MicroTemplate.Proofs.Program.Definitions
import MicroTemplate.Proofs.Expression.Failure
import MicroTemplate.Proofs.Template.Failure
import MicroTemplate.Proofs.Program.VariablesFile
import MicroTemplate.Proofs.Program.Disk
import MicroTemplate.Proofs.Program.Delivery
import MicroTemplate.Proofs.Program.LoneOption
import MicroTemplate.Proofs.Expression.Entry
import MicroTemplate.Proofs.Program.ReadBack
import MicroTemplate.Proofs.Template.InPlace
import MicroTemplate.Proofs.Number.FloatOrder
import MicroTemplate.Proofs.Value.Equality
import MicroTemplate.Proofs.Value.Order
import MicroTemplate.Proofs.Function.Extreme
import MicroTemplate.Proofs.Value.Arithmetic
import MicroTemplate.Proofs.Expression.Calculation
import MicroTemplate.Proofs.Environment.Bindings
import MicroTemplate.Proofs.Environment.History
import MicroTemplate.Proofs.Function.Registry
import MicroTemplate.Proofs.Member.Registry
import MicroTemplate.Proofs.Text.Substring
import MicroTemplate.Proofs.Number.Decimal
import MicroTemplate.Proofs.Calendar.Duration
import MicroTemplate.Proofs.Calendar.Date
import MicroTemplate.Proofs.Calendar.Ticks
import MicroTemplate.Proofs.Function.Date
import MicroTemplate.Proofs.Template.Verbatim
import MicroTemplate.Proofs.Number.Grouped
import MicroTemplate.Proofs.Encoding.Decoding
import MicroTemplate.Proofs.Expression.Numeral
import MicroTemplate.Proofs.Text.Bytes
import MicroTemplate.Proofs.Template.ClosingBracket
