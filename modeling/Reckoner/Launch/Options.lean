import Reckoner.Text.Digit
import Reckoner.Text.Quoted

/-!
# Launch options

The words of a command line: `-h` and `--help` ask for help, `--initial-calc` and `--log-file` take
a value, as the next word or after an equals sign. A long name may be shortened as long as it
belongs to one option only. Words after `--` are no options, and neither are negative numbers and
words with a blank in them; as a value after an equals sign `--` is passed over.

Words are made of characters. One whose bytes are not UTF-8 is left out.
-/

namespace Reckoner.Launch

/-- The mark after which there are no options. -/
def optionsEnd : List Char := ['-', '-']

/-- What an option was given. -/
inductive Argument where
  | text (cs : List Char)
  /-- The value was passed over. -/
  | nothing
deriving DecidableEq, Repr

namespace Argument

/-- What an option with a value was given. -/
def ofValue (value : List Char) : Argument := if value = optionsEnd then .nothing else .text value

/-- The text that an option was given, if it was given one. -/
def text? : Argument → Option (List Char)
  | .text cs => some cs
  | .nothing => none

end Argument

/-- What the command line says. -/
structure Options where
  initialCalc : Option Argument := none
  /-- The path of the file to log to. -/
  logFile : Option Argument := none
deriving DecidableEq, Repr

/-- The options that take a value. -/
inductive Setting where
  | initialCalc
  | logFile
deriving DecidableEq, Repr

/-- The name of an option, as it is written. -/
def Setting.name : Setting → List Char
  | .initialCalc => "--initial-calc".toList
  | .logFile => "--log-file".toList

/-- Gives an option a value. -/
def Options.put (options : Options) (value : List Char) : Setting → Options
  | .initialCalc => { options with initialCalc := some (.ofValue value) }
  | .logFile => { options with logFile := some (.ofValue value) }

/-- What a word of the command line is. -/
inductive Word where
  /-- A value, or a word too many. -/
  | plain
  | help
  /-- A request for help with an argument that it does not take. -/
  | helpWith (argument : List Char)
  /-- An option, and the value after its equals sign. -/
  | setting (setting : Setting) (value : Option (List Char))
  /-- An option that does not exist, or the mark after which there are no options. -/
  | foreign
deriving DecidableEq, Repr

/-- What is wrong with a command line. -/
inductive UsageError where
  /-- A shortened name belongs to several options. -/
  | ambiguous (word : List Char)
  /-- A request for help has an argument. -/
  | helpArgument (argument : List Char)
  | missingValue (setting : Setting)
  | unrecognized (words : List (List Char))
deriving DecidableEq, Repr

/-- The long name of the request for help. -/
def helpName : List Char := "--help".toList

/-- Joins words with a separator between them. -/
def joinWords (separator : List Char) (words : List (List Char)) : List Char :=
  (words.intersperse separator).flatten

/-- What is said of a command line that is not understood. -/
def UsageError.message : UsageError → List Char
  | .ambiguous word =>
    "ambiguous option: ".toList ++ word ++ " could match ".toList ++
      joinWords [',', ' '] [helpName, Setting.initialCalc.name, Setting.logFile.name]
  | .helpArgument argument =>
    "argument -h/--help: ignored explicit argument ".toList ++ Text.quoted argument
  | .missingValue setting => "argument ".toList ++ setting.name ++ ": expected one argument".toList
  | .unrecognized words => "unrecognized arguments: ".toList ++ joinWords [' '] words

/-- Whether a word is a negative number, with or without a line end after it. -/
def isNegativeNumber : List Char → Bool
  | '-' :: cs =>
    let cs := if cs.getLast? = some '\n' then cs.dropLast else cs
    match cs.dropWhile Text.isDigit with
    | [] => !cs.isEmpty
    | '.' :: fraction => !fraction.isEmpty && fraction.all Text.isDigit
    | _ => false
  | _ => false

/-- What the characters after a request for help are. Each `h` asks again, and any other character
begins an argument. -/
def readHelp : List Char → Word
  | [] => .help
  | 'h' :: cs => readHelp cs
  | cs => .helpWith cs

/-- A word that is not an option by its beginning. -/
def unnamed (word : List Char) : Word :=
  if isNegativeNumber word || word.contains ' ' then .plain else .foreign

/-- What a word with two hyphens in front is, by its name and the value after its equals sign. -/
def readLong (word name : List Char) (value : Option (List Char)) : Except UsageError Word :=
  let settings := [Setting.initialCalc, .logFile].filter fun setting => name.isPrefixOf setting.name
  match name.isPrefixOf helpName, settings with
  | true, [] => .ok (value.elim .help .helpWith)
  | false, [setting] => .ok (.setting setting value)
  | false, [] => .ok (unnamed word)
  | _, _ => .error (.ambiguous word)

/-- What a word is, before it is known what stands around it. -/
def readWord (word : List Char) : Except UsageError Word :=
  match word with
  | '-' :: '-' :: _ =>
    match word.dropWhile (· ≠ '=') with
    | [] => readLong word word none
    | _ :: value => readLong word (word.takeWhile (· ≠ '=')) (some value)
  | ['-', 'h', '='] => .ok (.helpWith [])
  | '-' :: 'h' :: '=' :: cs => .ok (readHelp cs)
  | '-' :: 'h' :: cs => .ok (readHelp cs)
  | '-' :: _ :: _ => .ok (unnamed word)
  | _ => .ok .plain

/-- What each word is. After the mark `--` all words are plain. -/
def readWords : List (List Char) → Except UsageError (List (List Char × Word))
  | [] => .ok []
  | word :: words =>
    if word = optionsEnd then .ok ((word, .foreign) :: words.map (·, .plain))
    else
      match readWord word with
      | .error e => .error e
      | .ok read => (readWords words).map ((word, read) :: ·)

/-- What a command line asks for. -/
inductive Wish where
  | help
  | start (options : Options)
deriving DecidableEq, Repr

/-- Collects options from left to right. `extra` holds the words too many, last first. -/
def collect (options : Options) (extra : List (List Char)) :
    List (List Char × Word) → Except UsageError Wish
  | [] => if extra = [] then .ok (.start options) else .error (.unrecognized extra.reverse)
  | (_, .help) :: _ => .ok .help
  | (_, .helpWith argument) :: _ => .error (.helpArgument argument)
  | (_, .setting setting (some value)) :: rest => collect (options.put value setting) extra rest
  | (_, .setting setting none) :: (value, .plain) :: rest =>
    collect (options.put value setting) extra rest
  | (_, .setting setting none) :: _ => .error (.missingValue setting)
  | (word, _) :: rest => collect options (word :: extra) rest

/-- What the words of a command line ask for. -/
def readCommandLine (words : List (List Char)) : Except UsageError Wish :=
  match readWords words with
  | .error e => .error e
  | .ok read => collect {} [] read

end Reckoner.Launch
