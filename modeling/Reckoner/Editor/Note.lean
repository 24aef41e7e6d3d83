import Reckoner.Editor.Action
import Reckoner.Expression.Calculate
import Reckoner.Journal.Record

/-!
# Notes

What the editor tells the journal: how far an expression was understood, what failed, which action
gave which display, and what of the input was unusable. Each note has a level, a source and a
wording.
-/

namespace Reckoner.Editor

/-- What the editor tells the journal. -/
inductive Note where
  | tokens (tokens : List Token)
  | tree (tree : Tree)
  | failed (report : Report)
  | applied (kind : ActionKind) (text : List Char) (display : Option String)
  | seeded (text : List Char) (display : Option String)
  /-- A first expression is not safe to evaluate. -/
  | unsafeSeed (text : List Char)
  | unmapped (label : List Char)

namespace Note

/-- How much a note matters. -/
def level : Note → Journal.Level
  | .tokens _ | .tree _ | .applied .. => .debug
  | .seeded .. => .info
  | .unmapped _ => .warning
  | .failed _ | .unsafeSeed _ => .error

/-- The part of the program that a note comes from. -/
def part : Note → String
  | .tokens _ | .tree _ => "MathEngine"
  | .failed _ | .applied .. | .seeded .. => "ExpressionEngine"
  | .unsafeSeed _ | .unmapped _ => "UI"

/-- A text between quotes, or the word for a missing one. -/
def quotedOrNone : Option (List Char) → List Char
  | none => "None".toList
  | some cs => Text.quoted cs

/-- A token in the list of tokens. -/
def tokenText : Token → List Char
  | .number x => "Decimal('".toList ++ x.scientific ++ "')".toList
  | .operator op => Text.quoted [op.symbol]

/-- The wording of a note. -/
def message : Note → List Char
  | .tokens ts =>
    "Tokens: [".toList ++ Json.commaSeparated (ts.map tokenText) ++ [']']
  | .tree t => "Final AST: ".toList ++ t.shown
  | .failed report =>
    ("Calculation error " ++ report.code ++ ": " ++ codeDetail report.code ++ " | Details: " ++
      report.message ++ " | Equation: ").toList ++ quotedOrNone report.equation
  | .applied kind text display =>
    kind.name.toList ++ ' ' :: text ++ " -> ".toList ++ quotedOrNone (display.map String.toList)
  | .seeded text display =>
    "Initial calculation ".toList ++ Text.quoted text ++ " -> ".toList ++
      quotedOrNone (display.map String.toList)
  | .unsafeSeed text =>
    "Initial calculation contained disallowed characters: ".toList ++ Text.quoted text
  | .unmapped label => "Button ".toList ++ Text.quoted label ++ " has no action".toList

/-- The record that a note makes in the journal. -/
def record (note : Note) : Journal.Record :=
  { level := note.level
    source := Journal.program ++ "." ++ note.part
    message := String.ofList note.message }

end Note

/-- What is noted of an expression before its value: its tokens and its tree, as far as it has
them. Nothing is noted of a text with a literal zero divisor. -/
def readingNotes (cs : List Char) : List Note :=
  if dividesByLiteralZero cs then []
  else
    match tokens cs with
    | .error _ => []
    | .ok tokens =>
      match Tree.ofTokens .standard tokens with
      | .error _ => [.tokens tokens]
      | .ok tree => [.tokens tokens, .tree tree]

end Reckoner.Editor
