import Reckoner.Launch.Program

/-!
# The command line

Starts the program with the settings file in the working folder, writes what it says and logs, and
shows the display of the window that it opens.

Left out of the model, and named again where they would stand, are limits on recursion, texts
outside the settings that hold half of a surrogate pair, files in folders of the working folder and
rights to read or write them, levels of the log without a name, lines of source, real time, and how
a window is drawn.
-/

namespace Reckoner.Launch

/-- What is at the place of the settings file. -/
def readStore : IO Settings.Store := do
  try
    let bytes ← IO.FS.readBinFile (String.ofList settingsFile)
    return .file bytes.toList
  catch
    | .noFileOrDirectory .. => return .absent
    | .inappropriateType .. => return .folder
    | _ => return .unreachable

/-- Why the program stopped without an answer, in words. -/
def Failure.message : Failure → String
  | .settings e => e.message
  | .log fault => fault.message

end Reckoner.Launch

open Reckoner Launch

/-- Runs the program with the words of its command line. -/
def main (words : List String) : IO UInt32 := do
  match run (words.map String.toList) (← readStore) with
  | .error failure =>
    IO.eprintln failure.message
    return 1
  | .ok launched =>
    for (name, text) in launched.files do
      IO.FS.writeFile (String.ofList name) (String.ofList text)
    IO.print (String.ofList launched.stdout)
    IO.eprint (String.ofList launched.stderr)
    if let some display := launched.window.bind (·.display) then IO.println display
    return UInt32.ofNat launched.code
