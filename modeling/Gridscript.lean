import Gridscript.Command.Failure
import Gridscript.Command.Grid
import Gridscript.Command.Script
import Gridscript.CommandLine.Arguments
import Gridscript.CommandLine.Completion
import Gridscript.CommandLine.Invocation
import Gridscript.Csv.Record
import Gridscript.Csv.Shape
import Gridscript.Csv.Table
import Gridscript.Element.Basic
import Gridscript.Element.Decimal
import Gridscript.Folder.Basic
import Gridscript.Folder.Fault
import Gridscript.Folder.Path
import Gridscript.Folder.Store
import Gridscript.Grid.Algebra
import Gridscript.Grid.Assembly
import Gridscript.Grid.Basic
import Gridscript.Grid.Display
import Gridscript.Grid.Fault
import Gridscript.Grid.Room
import Gridscript.Grid.Row
import Gridscript.Json.Token
import Gridscript.Json.Value
import Gridscript.Log.Basic
import Gridscript.Log.Filter
import Gridscript.Main
import Gridscript.Pattern.Basic
import Gridscript.Pattern.Bracket
import Gridscript.Pattern.CharSet
import Gridscript.Pattern.Compose
import Gridscript.Pattern.Cursor
import Gridscript.Pattern.Encoded
import Gridscript.Pattern.Escape
import Gridscript.Pattern.Fault
import Gridscript.Pattern.Meaning
import Gridscript.Pattern.Reader
import Gridscript.Pattern.Tree
import Gridscript.Pattern.Weight
import Gridscript.Script.Eval
import Gridscript.Script.Expr
import Gridscript.Script.Fault
import Gridscript.Script.Lexeme
import Gridscript.Script.Program
import Gridscript.Script.Session
import Gridscript.Script.Token
import Gridscript.Script.Value
import Gridscript.Settings.Basic
import Gridscript.Settings.Json
import Gridscript.Text.Blank
import Gridscript.Text.Letter
import Gridscript.Text.Lines
import Gridscript.Text.Numeral
import Gridscript.Text.Quoted
import Gridscript.Text.Ranges
import Gridscript.Text.Utf8
import Gridscript.Proofs.Csv.Format
import Gridscript.Proofs.Csv.Acceptance
import Gridscript.Proofs.Csv.RoundTrip
import Gridscript.Proofs.Folder.Rewrite
import Gridscript.Proofs.Script.Execution
import Gridscript.Proofs.Script.FailedRun
import Gridscript.Proofs.Script.Reading
import Gridscript.Proofs.Script.Nesting
import Gridscript.Proofs.Script.Grammar
import Gridscript.Proofs.Script.Recognition
import Gridscript.Proofs.Script.Kinds
import Gridscript.Proofs.Text.Utf8
import Gridscript.Proofs.Grid.WellFormed
import Gridscript.Proofs.Grid.Access
import Gridscript.Proofs.Folder.GridFile
import Gridscript.Proofs.Folder.GridPath
import Gridscript.Proofs.Script.Words
import Gridscript.Proofs.Script.Bench
import Gridscript.Proofs.Script.Persistence
import Gridscript.Proofs.Script.Layout
import Gridscript.Proofs.Script.LineByLine
import Gridscript.Proofs.Script.Composition
import Gridscript.Proofs.Folder.Writing
import Gridscript.Proofs.Script.Bookkeeping
import Gridscript.Proofs.Script.Flags
import Gridscript.Proofs.Command.OneShot
import Gridscript.Proofs.Command.ScriptAgreement
import Gridscript.Proofs.Csv.FaultLine
import Gridscript.Proofs.Csv.Verdict
import Gridscript.Proofs.Element.Ring
import Gridscript.Proofs.Grid.Matrix
import Gridscript.Proofs.Grid.Laws
import Gridscript.Proofs.Element.Division
import Gridscript.Proofs.Script.Dependence
import Gridscript.Proofs.Script.Positions
import Gridscript.Proofs.Script.Arithmetic
import Gridscript.Proofs.Text.Pieces
import Gridscript.Proofs.Csv.Bytes
import Gridscript.Proofs.Grid.Assembly
import Gridscript.Proofs.Script.Independence
import Gridscript.Proofs.Grid.Division
import Gridscript.Proofs.Command.RowOutput
import Gridscript.Proofs.Csv.Pieces
import Gridscript.Proofs.Grid.Accessors
import Gridscript.Proofs.Script.Cursor
import Gridscript.Proofs.Script.Following
import Gridscript.Proofs.Json.Grammar
import Gridscript.Proofs.Json.Reading
import Gridscript.Proofs.Settings.Loading
