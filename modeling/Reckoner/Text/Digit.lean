/-!
# White space, digits and whole numbers

Two sets of blank characters: a text is trimmed of all Unicode white space where a decimal number is
read; a whole number also tolerates blanks at its ends, but not the four ASCII separators. Decimal
digits are the characters of the general category Nd of Unicode 14. They come in runs of ten
consecutive code points, from zero to nine, so a script is named by its zero. A text writes a whole
number where it has a sign that may be left out, then decimal digits of any script in groups that
single underscores divide, with blanks around it all.
-/

namespace Reckoner.Text

/-! ## White space -/

/-- White space of Unicode: the ASCII blanks and separators, the next-line and no-break marks, and
the typographic spaces. -/
def isBlank (c : Char) : Bool :=
  let n := c.toNat
  (0x09 ≤ n && n ≤ 0x0D) || (0x1C ≤ n && n ≤ 0x20) || n == 0x85 || n == 0xA0 || n == 0x1680 ||
    (0x2000 ≤ n && n ≤ 0x200A) || n == 0x2028 || n == 0x2029 || n == 0x202F || n == 0x205F ||
    n == 0x3000

/-- The blanks that may surround a whole number: all white space but the ASCII separators. -/
def isMargin (c : Char) : Bool := isBlank c && !(0x1C ≤ c.toNat && c.toNat ≤ 0x1F)

/-- Drops the characters of a class from both ends. -/
def trim (drops : Char → Bool) (cs : List Char) : List Char :=
  ((cs.dropWhile drops).reverse.dropWhile drops).reverse

/-! ## Digits -/

/-- The code points of the digits zero, one for each script, in increasing order. -/
def digitZeros : List Nat :=
  [0x0030, 0x0660, 0x06F0, 0x07C0, 0x0966, 0x09E6, 0x0A66, 0x0AE6, 0x0B66, 0x0BE6, 0x0C66, 0x0CE6,
   0x0D66, 0x0DE6, 0x0E50, 0x0ED0, 0x0F20, 0x1040, 0x1090, 0x17E0, 0x1810, 0x1946, 0x19D0, 0x1A80,
   0x1A90, 0x1B50, 0x1BB0, 0x1C40, 0x1C50, 0xA620, 0xA8D0, 0xA900, 0xA9D0, 0xA9F0, 0xAA50, 0xABF0,
   0xFF10, 0x104A0, 0x10D30, 0x11066, 0x110F0, 0x11136, 0x111D0, 0x112F0, 0x11450, 0x114D0,
   0x11650, 0x116C0, 0x11730, 0x118E0, 0x11950, 0x11C50, 0x11D50, 0x11DA0, 0x16A60, 0x16AC0,
   0x16B50, 0x1D7CE, 0x1D7D8, 0x1D7E2, 0x1D7EC, 0x1D7F6, 0x1E140, 0x1E2F0, 0x1E950, 0x1FBF0]

/-- The value of a decimal digit of any script; `none` for every other character. -/
def digitValue? (c : Char) : Option Nat :=
  (digitZeros.find? fun first => first ≤ c.toNat && c.toNat < first + 10).map (c.toNat - ·)

/-- Whether a character is a decimal digit of some script. -/
def isDigit (c : Char) : Bool := (digitValue? c).isSome

/-- Whether a character is one of the ten digits of the first script. -/
def isPlainDigit (c : Char) : Bool := '0' ≤ c && c ≤ '9'

/-! ## Whole numbers -/

/-- Whether digits and underscores stand so that each underscore has a digit on both sides. -/
def isGrouped (afterDigit : Bool) : List Char → Bool
  | [] => afterDigit
  | c :: cs => if isDigit c then isGrouped true cs else c == '_' && afterDigit && isGrouped false cs

/-- Drops a sign at the start. -/
def dropSign : List Char → List Char
  | '+' :: cs => cs
  | '-' :: cs => cs
  | cs => cs

/-- The most digits that a whole number may have. -/
def wholeDigitLimit : Nat := 4300

/-- Whether a text writes a whole number. -/
def isWhole (cs : List Char) : Bool :=
  let body := dropSign (trim isMargin cs)
  isGrouped false body && body.countP isDigit ≤ wholeDigitLimit

end Reckoner.Text
