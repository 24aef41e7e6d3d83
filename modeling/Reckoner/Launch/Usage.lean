import Reckoner.Launch.Options

/-!
# Usage

What the program says about its command line. The usage names every option on lines of at most 78
characters; each further line starts below the first option.
-/

namespace Reckoner.Launch

/-- The most characters of a line. -/
def lineWidth : Nat := 78

/-- The options, as the usage names them. -/
def usageParts : List (List Char) :=
  ["[-h]".toList, "[--initial-calc INITIAL_CALC]".toList, "[--log-file LOG_FILE]".toList]

/-- Puts words on lines. A line holds as many words as fit, with a blank between them, and every
line after the first starts with `margin`. -/
def wrapWords (width : Nat) (margin line : List Char) : List (List Char) → List (List Char)
  | [] => [line]
  | word :: words =>
    if line.length + 1 + word.length ≤ width then
      wrapWords width margin (line ++ ' ' :: word) words
    else line :: wrapWords width margin (margin ++ ' ' :: word) words

/-- Ends each line with a line feed. -/
def unlines (lines : List (List Char)) : List Char := lines.flatMap (· ++ ['\n'])

/-- The usage of a program with the given name. -/
def usage (name : List Char) : List Char :=
  let start := "usage: ".toList ++ name
  unlines (wrapWords lineWidth (List.replicate start.length ' ') start usageParts)

/-- The help: the usage, and what each option is for. -/
def help (name : List Char) : List Char :=
  usage name ++ unlines
    (["",
      "Interactive arithmetic expression editor.",
      "",
      "options:",
      "  -h, --help            show this help message and exit",
      "  --initial-calc INITIAL_CALC",
      "                        expression evaluated once at startup, e.g. '12*3+4'",
      "                        (digits, '.', '+ - * /' only)",
      "  --log-file LOG_FILE   also write the log to this file"].map String.toList)

/-- What is wrong with a command line, after the usage. -/
def complaint (name : List Char) (e : UsageError) : List Char :=
  usage name ++ name ++ ": error: ".toList ++ e.message ++ ['\n']

end Reckoner.Launch
