/-!
# Files

Names of files, as seen from the working folder. A path is read textually: empty parts and lone
points mean nothing, and two points take back the part before them.

Folders in the working folder are left out, so no file is in one; of what lies around it only the
folders that two points and a first slash lead to are known. Whether a file may be read or written
is left out too.
-/

namespace Reckoner

/-- Why there is no file to use. -/
inductive FileFault where
  /-- The file or the folder that should hold it does not exist. -/
  | missing
  | folder
  /-- A file is in the place of the folder that should hold it. -/
  | notFolder
  /-- The place of a new folder is taken. -/
  | taken
  /-- A name is longer than names can be. -/
  | nameLength
  /-- A name holds the character that no name can hold. -/
  | nulInName
  /-- A name holds half of a surrogate pair, which no encoding has. -/
  | unencodable
  /-- A value of this kind is no path. -/
  | notPath (kindName : String)
deriving DecidableEq, Repr

namespace FileFault

/-- What is said where there is no file to use. -/
def message : FileFault → String
  | .missing => "No such file or directory"
  | .folder => "Is a directory"
  | .notFolder => "Not a directory"
  | .taken => "File exists"
  | .nameLength => "File name too long"
  | .nulInName => "embedded null byte"
  | .unencodable => "surrogates not allowed"
  | .notPath kindName => "expected str, bytes or os.PathLike object, not " ++ kindName

end FileFault

/-- The name of the settings file. -/
def settingsFile : List Char := "config.json".toList

/-- How many bytes a name has at most. -/
def nameLimit : Nat := 255

/-- The part of a path that leads out of a folder. -/
def upward : List Char := ['.', '.']

/-- The parts of a path between its slashes. -/
def pathParts : List Char → List (List Char)
  | [] => [[]]
  | '/' :: cs => [] :: pathParts cs
  | c :: cs =>
    match pathParts cs with
    | [] => [[c]]
    | part :: parts => (c :: part) :: parts

/-- Follows one part of a path from the parts already followed, last first. An empty part stands for
the folder that holds all others, out of which no part leads. -/
def followPart (followed : List (List Char)) (part : List Char) : List (List Char) :=
  if part = [] || part = ['.'] then followed
  else if part = upward then
    match followed with
    | [] => [upward]
    | last :: rest =>
      if last = [] then followed else if last = upward then upward :: followed else rest
  else part :: followed

/-- The parts of a path that count. -/
def resolvePath (path : List Char) : List (List Char) :=
  ((pathParts path).foldl followPart (if path.head? = some '/' then [[]] else [])).reverse

/-- Whether a part of a resolved path stands for a folder around the working folder. -/
def isOuter (part : List Char) : Bool := part = [] || part = upward

/-- The name of the file that a path leads to, where `isFile` tells which files there are. A file of
the working folder has a name without slashes. -/
def fileName (isFile : List Char → Bool) (path : List Char) : Except FileFault (List Char) :=
  let parts := resolvePath path
  if parts.any (·.contains '\x00') then .error .nulInName
  else
    match parts.dropWhile isOuter with
    | [] => .error .folder
    | part :: inner =>
      let name := List.intercalate ['/'] (parts.takeWhile isOuter ++ [part])
      if nameLimit < (String.ofList part).utf8ByteSize then .error .nameLength
      else if inner = [] then .ok name
      else if isFile name then .error .notFolder
      else .error .missing

end Reckoner
