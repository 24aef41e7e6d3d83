import Reckoner.Files
import Reckoner.Json.Reader
import Reckoner.Json.Writer
import Reckoner.Settings.Merge
import Reckoner.Text.Utf8

/-!
# The settings file

Settings are kept as a JSON record in one file. Where there is no file, or one that is not JSON, the
standard settings hold; other faults of the file are told. Saving answers what was saved.
-/

namespace Reckoner.Settings

open Json (CodePoints Value)

/-- What is at the place of the settings file. -/
inductive Store where
  | absent
  | file (bytes : List UInt8)
  /-- A folder is in the place of the file. -/
  | folder
  /-- The folder that should hold the file does not exist. -/
  | unreachable

/-- Why settings are not loaded. -/
inductive LoadError where
  /-- A folder is in the place of the file. -/
  | folder
  | encoding (e : Text.Utf8Error)
  /-- A whole number in the file has so many digits that it is not read. -/
  | longInteger (digits : Nat)
  /-- The file is JSON, but has no entries. -/
  | merge (fault : MergeFault)

/-- What is said of settings that are not loaded. -/
def LoadError.message : LoadError → String
  | .folder => "Is a directory"
  | .encoding e => e.message
  | .longInteger digits =>
    "Exceeds the limit (" ++ String.ofList (Numeral.digits Json.digitLimit) ++
      " digits) for integer string conversion: value has " ++
      String.ofList (Numeral.digits digits) ++
      " digits; use sys.set_int_max_str_digits() to increase the limit"
  | .merge fault => fault.message

/-- The settings that a text holds, over the standard ones. A text that is not JSON holds none. -/
def ofText (cs : List Char) : Except LoadError Settings :=
  match Json.read cs with
  | .error .malformed => .ok standard
  | .error (.longInteger digits) => .error (.longInteger digits)
  | .ok value => (standard.merge value).mapError .merge

/-- The name of a key in the file. -/
def keyText : Value → CodePoints
  | .text points => points
  | value => .ofChars (value.write (fun _ => []) 0)

/-- The text that settings are saved as: a record of their entries. -/
def toText (settings : Settings) : List Char :=
  (Value.record (settings.entries.map fun (key, value) => (keyText key, value))).pretty

namespace Store

/-- The text of the file, with a line feed for each line end. To JSON they are the same. -/
def text? : Store → Except Text.Utf8Error (Option (List Char))
  | .file bytes => (Text.decodeUtf8 bytes).map fun cs => some (Text.unifyLineEnds cs)
  | _ => .ok none

/-- The settings that are loaded. -/
def load : Store → Except LoadError Settings
  | .absent | .unreachable => .ok standard
  | .folder => .error .folder
  | .file bytes =>
    match Text.decodeUtf8 bytes with
    | .error e => .error (.encoding e)
    | .ok cs => ofText cs

/-- The names of the files that there are. -/
def names : Store → List (List Char)
  | .file _ => [settingsFile]
  | _ => []

/-- The file of a text. -/
def ofText (cs : List Char) : Store := .file (String.ofList cs).toUTF8.toList

/-- What is left when settings are saved, and the settings that were: no entries where the file
cannot be written. -/
def save (settings : Settings) : Store → Store × Settings
  | .absent | .file _ => (ofText settings.toText, settings)
  | store => (store, ⟨[]⟩)

/-- Writes bytes as the file. -/
def write (bytes : List UInt8) : Store → Except FileFault Store
  | .absent | .file _ => .ok (.file bytes)
  | .folder => .error .folder
  | .unreachable => .error .missing

/-- Removes the file. -/
def remove : Store → Except FileFault Store
  | .file _ => .ok .absent
  | .folder => .error .folder
  | .absent | .unreachable => .error .missing

/-- Makes a folder where there is no file. -/
def makeFolder : Store → Except FileFault Store
  | .absent => .ok .folder
  | .file _ | .folder => .error .taken
  | .unreachable => .error .missing

end Store

end Reckoner.Settings
