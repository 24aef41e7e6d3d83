import Reckoner.Files
import Reckoner.Journal.Clock
import Reckoner.Journal.Record
import Reckoner.Text.Utf8

/-!
# The log

Records that matter enough are written as lines, to the console and to the file that the latest
setup names. A setup decides which records matter, how their lines look and where they go; before
the first one nothing is written, and neither is a line whose time cannot be told. Changing a file
leaves the texts of all others.
-/

namespace Reckoner.Journal

/-- How records are written. -/
structure Setup where
  /-- All records matter, and lines tell where they come from. -/
  debug : Bool := false
  /-- The file that lines are also written to. -/
  file : Option (List Char) := none

namespace Setup

/-- The least level that matters. -/
def level (setup : Setup) : Level := if setup.debug then .debug else .info

/-- Whether a record is written: the program made it, and it matters enough. -/
def writes (setup : Setup) (record : Record) : Bool :=
  isOwn record.source && decide (setup.level.rank ≤ record.level.rank)

/-- Where a line comes from, which only lines for debugging tell. -/
def place? (setup : Setup) (clock : Clock) (record : Record) : Option (List Char) :=
  if setup.debug then
    clock.thousandths?.map fun millis =>
      -- a record does not know its line in the text of the source, for which 0 stands
      '.' :: millis ++ (" - " ++ record.source ++ ":0").toList
  else some []

/-- The line of a record, where the time can be told. -/
def line? (setup : Setup) (clock : Clock) (record : Record) : Option (List Char) :=
  match clock.timeOfDay?, setup.place? clock record with
  | some time, some place =>
    some (time ++ place ++ (" - " ++ record.level.name ++ " - " ++ record.message ++ "\n").toList)
  | _, _ => none

/-- What lines are made of, with a mark for each part. -/
def pattern (setup : Setup) : String :=
  if setup.debug then
    "%(asctime)s.%(msecs)03d - %(name)s:%(lineno)d - %(levelname)s - %(message)s"
  else "%(asctime)s - %(levelname)s - %(message)s"

/-- What the time of day is made of, with a mark for each part. -/
def timePattern : String := "%H:%M:%S"

end Setup

/-- Files by their names, with their texts. -/
abbrev Files := List (List Char × List Char)

/-- Changes the text of a file; one that does not exist is made from an empty one. -/
def Files.update (files : Files) (name : List Char) (change : List Char → List Char) : Files :=
  match files with
  | [] => [(name, change [])]
  | (other, text) :: rest =>
    if other = name then (other, change text) :: rest
    else (other, text) :: Files.update rest name change

/-- The text of a file, if it exists. -/
def Files.text? (files : Files) (name : List Char) : Option (List Char) :=
  (files.find? fun file => file.1 = name).map Prod.snd

/-- The files of the working folder as they are read, the settings file left out. -/
def Files.listing (files : Files) : Files :=
  (files.filter fun file => !file.1.contains '/' && file.1 ≠ settingsFile).map fun file =>
    (file.1, Text.unifyLineEnds file.2)

/-- Only the file that was changed has another text. -/
theorem Files.text?_update (files : Files) (name other : List Char)
    (change : List Char → List Char) :
    (files.update name change).text? other =
      if name = other then some (change ((files.text? name).getD [])) else files.text? other := by
  induction files with
  | nil => by_cases h : name = other <;> simp [Files.update, Files.text?, h]
  | cons file rest ih =>
    obtain ⟨first, text⟩ := file
    by_cases hfirst : first = name <;> by_cases hother : name = other <;>
      grind [Files.update, Files.text?]

/-- Where the log stands: the latest setup, the time and what the files hold. -/
structure Log where
  setup : Option Setup := none
  clock : Clock := {}
  files : Files := []
  /-- The names of the other files in the working folder. -/
  others : List (List Char) := []
  console : List Char := []

namespace Log

/-- Writes a record, where it matters and its time can be told. -/
def put (log : Log) (record : Record) : Log :=
  match log.setup with
  | none => log
  | some setup =>
    if setup.writes record then
      match setup.line? log.clock record with
      | none => log
      | some line =>
        { log with
          console := log.console ++ line
          files := match setup.file with
            | none => log.files
            | some name => log.files.update name (· ++ line) }
    else log

/-- Writes records in order. -/
def putAll (log : Log) (records : List Record) : Log := records.foldl put log

/-- The record that tells of a setup for debugging. -/
def debugEnabled : Record :=
  { level := .debug, source := program, message := "Debug logging enabled." }

/-- Goes on by another setup, which empties its file. -/
def follow (log : Log) (setup : Setup) : Log :=
  let files := match setup.file with
    | none => log.files
    | some name => log.files.update name fun _ => []
  { log with setup := some setup, files }.put debugEnabled

/-- Whether there is a file with a name. -/
def isFile (log : Log) (name : List Char) : Bool :=
  log.others.contains name || (log.files.text? name).isSome

/-- Goes on by a setup whose file is given by a path. An empty path names no file. -/
def start (log : Log) (debug : Bool) (path : Option (List Char)) : Except FileFault Log :=
  match path with
  | none | some [] => .ok (log.follow { debug })
  | some path =>
    match fileName log.isFile path with
    | .error fault => .error fault
    | .ok name => .ok (log.follow { debug, file := some name })

/-- Goes on by a setup that two values describe: whether it is for debugging, and the path of its
file. A value that is not set names no file. -/
def startBy (log : Log) (debug path : Json.Value) : Except FileFault Log :=
  match path with
  | .text points =>
    match points.chars? with
    | some path => log.start debug.isSet (some path)
    | none => .error .unencodable
  | path =>
    if path.isSet then .error (.notPath path.kindName) else log.start debug.isSet none

end Log

end Reckoner.Journal
