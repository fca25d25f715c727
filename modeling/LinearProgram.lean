import LinearProgram.Assistant
import LinearProgram.Bound
import LinearProgram.Coefficients
import LinearProgram.CommandLine
import LinearProgram.ConstraintLine
import LinearProgram.Decimal.Digits
import LinearProgram.Decimal.Layout
import LinearProgram.Decimal.Literal
import LinearProgram.Decimal.Shortest
import LinearProgram.Direction
import LinearProgram.Document.Constraints
import LinearProgram.Document.Declarations
import LinearProgram.Document.Draft
import LinearProgram.Document.Objectives
import LinearProgram.Document.Session
import LinearProgram.Event
import LinearProgram.Expression.Addend
import LinearProgram.Expression.Term
import LinearProgram.Expression.Token
import LinearProgram.Failure
import LinearProgram.Fault
import LinearProgram.Inspection
import LinearProgram.Json
import LinearProgram.Keyword
import LinearProgram.Log
import LinearProgram.Log.Numeral
import LinearProgram.Log.Setup
import LinearProgram.Log.Template
import LinearProgram.Main
import LinearProgram.Markup.Block
import LinearProgram.Markup.Defect
import LinearProgram.Markup.Front
import LinearProgram.Markup.Node
import LinearProgram.Markup.Number
import LinearProgram.Markup.Place
import LinearProgram.Markup.Plain
import LinearProgram.Markup.Quoted
import LinearProgram.Markup.Stored
import LinearProgram.Markup.Token
import LinearProgram.Markup.Value
import LinearProgram.Model
import LinearProgram.Name
import LinearProgram.Payload
import LinearProgram.Proofs.Binary64.Difference
import LinearProgram.Proofs.Binary64.Order
import LinearProgram.Proofs.Binary64.Sum
import LinearProgram.Proofs.Bound
import LinearProgram.Proofs.Bound.Effect
import LinearProgram.Proofs.Bound.Mirror
import LinearProgram.Proofs.Bound.Orientation
import LinearProgram.Proofs.Bound.Shape
import LinearProgram.Proofs.Coefficients
import LinearProgram.Proofs.CommandLine
import LinearProgram.Proofs.ConstraintLine
import LinearProgram.Proofs.Document.Assembly
import LinearProgram.Proofs.Document.Body
import LinearProgram.Proofs.Document.Breaking
import LinearProgram.Proofs.Document.Calls
import LinearProgram.Proofs.Document.Coherence
import LinearProgram.Proofs.Document.Consumed
import LinearProgram.Proofs.Document.Course
import LinearProgram.Proofs.Document.Declared
import LinearProgram.Proofs.Document.Grouping
import LinearProgram.Proofs.Document.Located
import LinearProgram.Proofs.Document.Mentions
import LinearProgram.Proofs.Document.MovedDown
import LinearProgram.Proofs.Document.Numbering
import LinearProgram.Proofs.Document.Place
import LinearProgram.Proofs.Document.Progress
import LinearProgram.Proofs.Document.Renumbering
import LinearProgram.Proofs.Document.Replay
import LinearProgram.Proofs.Document.Restyled
import LinearProgram.Proofs.Document.Step
import LinearProgram.Proofs.Document.Successive
import LinearProgram.Proofs.Document.WellFormed
import LinearProgram.Proofs.Expression.Meaning
import LinearProgram.Proofs.Expression.Refusal
import LinearProgram.Proofs.Expression.Respaced
import LinearProgram.Proofs.Expression.Scan
import LinearProgram.Proofs.Feed
import LinearProgram.Proofs.Handing
import LinearProgram.Proofs.Inspection
import LinearProgram.Proofs.Json.Grammar
import LinearProgram.Proofs.Json.Number
import LinearProgram.Proofs.Mention
import LinearProgram.Proofs.Payload
import LinearProgram.Proofs.Reading
import LinearProgram.Proofs.Server
import LinearProgram.Proofs.Store.Document
import LinearProgram.Proofs.Store.Tree
import LinearProgram.Proofs.Store.Utf8
import LinearProgram.Proofs.Text.Content
import LinearProgram.Proofs.Text.Cut
import LinearProgram.Proofs.Text.Lower
import LinearProgram.Proofs.Text.Spelling
import LinearProgram.Proofs.Text.Trim
import LinearProgram.Proofs.Written.Addend
import LinearProgram.Proofs.Written.Constraint
import LinearProgram.Proofs.Written.Declaration
import LinearProgram.Proofs.Written.Document
import LinearProgram.Proofs.Written.Expression
import LinearProgram.Proofs.Written.Laid
import LinearProgram.Proofs.Written.Layout
import LinearProgram.Proofs.Written.Line
import LinearProgram.Proofs.Written.Meaning
import LinearProgram.Proofs.Written.Numeral
import LinearProgram.Proofs.Written.Parse
import LinearProgram.Proofs.Written.Scan
import LinearProgram.Proofs.Written.Spread.Basic
import LinearProgram.Proofs.Written.Spread.Constraint
import LinearProgram.Proofs.Written.Spread.Document
import LinearProgram.Proofs.Written.Spread.Objective
import LinearProgram.Proofs.Written.Value
import LinearProgram.Quantity
import LinearProgram.Reading
import LinearProgram.Relation
import LinearProgram.Report
import LinearProgram.Section
import LinearProgram.Server
import LinearProgram.Settings.Basic
import LinearProgram.Settings.Load
import LinearProgram.Source
import LinearProgram.Store.Basic
import LinearProgram.Store.Document
import LinearProgram.Store.Home
import LinearProgram.Store.Path
import LinearProgram.Store.Tree
import LinearProgram.Store.Utf8
import LinearProgram.Text.Alphanumeric
import LinearProgram.Text.Basic
import LinearProgram.Text.Case
import LinearProgram.Text.Digit
import LinearProgram.Text.Hex
import LinearProgram.Text.Printable
import LinearProgram.Text.Quoted
import LinearProgram.Text.Range
import LinearProgram.Variable
