import Reckoner.Binary64.Basic
import Reckoner.Binary64.Shortest
import Reckoner.Decimal.Arithmetic
import Reckoner.Decimal.Basic
import Reckoner.Decimal.Text
import Reckoner.Editor.Action
import Reckoner.Editor.Draft
import Reckoner.Editor.Note
import Reckoner.Editor.Request
import Reckoner.Editor.Script
import Reckoner.Editor.Session
import Reckoner.Editor.State
import Reckoner.Expression.Calculate
import Reckoner.Expression.Chain
import Reckoner.Expression.Error
import Reckoner.Expression.Lexer
import Reckoner.Expression.Operator
import Reckoner.Expression.Places
import Reckoner.Expression.Token
import Reckoner.Expression.Tree
import Reckoner.Files
import Reckoner.Journal.Clock
import Reckoner.Journal.Log
import Reckoner.Journal.Record
import Reckoner.Json.Inspect
import Reckoner.Json.Lexeme
import Reckoner.Json.Reader
import Reckoner.Json.Value
import Reckoner.Json.Writer
import Reckoner.Launch.Options
import Reckoner.Launch.Program
import Reckoner.Launch.Usage
import Reckoner.Main
import Reckoner.Numeral
import Reckoner.Proofs.Decimal.Exact
import Reckoner.Proofs.Decimal.Fit
import Reckoner.Proofs.Decimal.Nearest
import Reckoner.Proofs.Decimal.Opposite
import Reckoner.Proofs.Decimal.Places
import Reckoner.Proofs.Decimal.Positional
import Reckoner.Proofs.Decimal.Shown
import Reckoner.Proofs.Decimal.Value
import Reckoner.Proofs.Editor.Containment
import Reckoner.Proofs.Editor.Equals
import Reckoner.Proofs.Editor.Invariant
import Reckoner.Proofs.Editor.LateReset
import Reckoner.Proofs.Editor.Reachable
import Reckoner.Proofs.Editor.Repetition
import Reckoner.Proofs.Editor.Reporting
import Reckoner.Proofs.Editor.Seed
import Reckoner.Proofs.Editor.Shape
import Reckoner.Proofs.Editor.TakingBack
import Reckoner.Proofs.Editor.Typing
import Reckoner.Proofs.Editor.Working
import Reckoner.Proofs.Expression.Canonical
import Reckoner.Proofs.Expression.Descent
import Reckoner.Proofs.Expression.Evaluation
import Reckoner.Proofs.Expression.Exact
import Reckoner.Proofs.Expression.Failure
import Reckoner.Proofs.Expression.Grammar
import Reckoner.Proofs.Expression.Guard
import Reckoner.Proofs.Expression.Lexemes
import Reckoner.Proofs.Expression.Lexing
import Reckoner.Proofs.Expression.MinusSign
import Reckoner.Proofs.Expression.OnePass
import Reckoner.Proofs.Expression.Reading
import Reckoner.Proofs.Expression.Reports
import Reckoner.Proofs.Expression.RoundTrip
import Reckoner.Proofs.Expression.Spacing
import Reckoner.Proofs.Expression.ZeroDivisor
import Reckoner.Proofs.Journal.Delivery
import Reckoner.Proofs.Json.Document
import Reckoner.Proofs.Json.Fields
import Reckoner.Proofs.Json.Joined
import Reckoner.Proofs.Json.Lexing
import Reckoner.Proofs.Json.Reading
import Reckoner.Proofs.Json.Writing
import Reckoner.Proofs.Launch.FirstExpression
import Reckoner.Proofs.Numeral
import Reckoner.Proofs.Settings.Fallback
import Reckoner.Proofs.Settings.Merge
import Reckoner.Proofs.Settings.Reload
import Reckoner.Proofs.Text.Utf8
import Reckoner.Proofs.Window.Delay
import Reckoner.Proofs.Window.Hold
import Reckoner.Proofs.Window.React
import Reckoner.Proofs.Window.Reset
import Reckoner.Proofs.Window.Theme
import Reckoner.Settings.Basic
import Reckoner.Settings.Merge
import Reckoner.Settings.Store
import Reckoner.Text.Digit
import Reckoner.Text.Quoted
import Reckoner.Text.Utf8
import Reckoner.Window.Basic
import Reckoner.Window.Look
import Reckoner.Window.Timer
