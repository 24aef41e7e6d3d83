/-!
# The look of the window

The buttons stand in rows of four. Digits and the button that takes back repeat while they are held
down. A dark window is drawn by rules, one mark or property to a line; a light one has none.
-/

namespace Reckoner.Window

/-! ## Buttons -/

/-- The button that copies the display. -/
def copyLabel : Char := '📋'

/-- The button that changes between dark and light. -/
def themeLabel : Char := '◐'

/-- The labels of the buttons, row by row. -/
def rows : List (List Char) :=
  [['C', '⌫', copyLabel, '÷'],
    ['7', '8', '9', '×'],
    ['4', '5', '6', '−'],
    ['1', '2', '3', '+'],
    [themeLabel, '0', '.', '=']]

/-- The buttons with their rows and columns. -/
def grid : List (Char × Nat × Nat) :=
  rows.zipIdx.flatMap fun (row, i) => row.zipIdx.map fun (label, j) => (label, i, j)

/-- What a button does. -/
inductive Role where
  /-- It copies the display. -/
  | copy
  /-- It changes between dark and light. -/
  | theme
  /-- It acts when it is released, and again and again while it is held down. -/
  | held
  /-- It acts when it is released. -/
  | plain
deriving DecidableEq, Repr

/-- What the button with a label does; `none` where there is no such button. -/
def role? (label : Char) : Option Role :=
  if label = copyLabel then some .copy
  else if label = themeLabel then some .theme
  else if label = '⌫' || ('0' ≤ label && label ≤ '9') then some .held
  else if rows.any (·.contains label) then some .plain
  else none

/-! ## The dark style -/

/-- How a kind of widget is drawn. -/
structure StyleRule where
  selector : String
  properties : List (String × String)

/-- The rules of the dark style. -/
def darkRules : List StyleRule :=
  [{ selector := "QWidget"
     properties := [("background-color", "#121212"), ("color", "white")] },
    { selector := "QLineEdit"
      properties :=
        [("background-color", "#1e1e1e"), ("color", "white"), ("border", "1px solid #444")] },
    { selector := "QPushButton"
      properties :=
        [("background-color", "#2c2c2c"), ("color", "white"), ("border", "1px solid #555")] },
    { selector := "QPushButton:pressed", properties := [("background-color", "#555")] }]

/-- The lines of a rule. -/
def StyleRule.lines (rule : StyleRule) : List String :=
  (rule.selector ++ " \x7b") ::
    rule.properties.map (fun (name, value) => name ++ ": " ++ value ++ ";") ++ ["\x7d"]

/-- The lines of the window's style; the dark one starts and ends with an empty line. -/
def styleLines (dark : Bool) : List String :=
  if dark then "" :: darkRules.flatMap StyleRule.lines ++ [""] else [""]

end Reckoner.Window
