import Reckoner.Journal.Log
import Reckoner.Launch.Usage
import Reckoner.Window.Basic

/-!
# The program

The program reads its command line, loads the settings, starts the log and opens the window, where
it evaluates the first expression. It can be started by its own name, or from a folder whose files
it checks first.

Real time is left out: the clock of the log stands still at its beginning.
-/

namespace Reckoner.Launch

open Settings (LoadError Store)

/-! ## Installation -/

/-- The files that must be in place: their folders and their names. -/
def requiredFiles : List (String × String) :=
  [("expression_editor/", "UI.py"), ("expression_editor/", "MathEngine.py"),
    ("expression_editor/", "ExpressionEngine.py"), ("expression_editor/", "input_map.py"),
    ("expression_editor/", "config_manager.py"), ("", "config.json")]

/-- Whether a path exists where only the files `present` exist: it is one of them, or a folder
above one of them. -/
def existsAmong (present : List String) (path : String) : Bool :=
  present.any fun file => file = path || (path ++ "/").toList.isPrefixOf file.toList

/-- The names of the files that are missing where only the files `present` exist. -/
def missingFiles (present : List String) : List String :=
  (requiredFiles.filter fun (folder, name) => !existsAmong present (folder ++ name)).map Prod.snd

/-- What is said of missing files. -/
def missingReport (names : List String) : List Char :=
  unlines (("Error: The following files are missing or in the wrong location:" ::
    names.map ("- " ++ ·)).map String.toList)

/-! ## Starting -/

/-- How the program ended, and what it wrote. -/
structure Launched where
  code : Nat
  stdout : List Char := []
  stderr : List Char := []
  window : Option Window := none
  files : Journal.Files := []

/-- Why the program stopped without an answer. -/
inductive Failure where
  | settings (e : LoadError)
  /-- The file for the log cannot be used. -/
  | log (fault : FileFault)

/-- The name of the program where it is installed. -/
def programName : List Char := "expression-editor".toList

/-- The name of the program where it is started from its folder. -/
def scriptName : List Char := "main.py".toList

/-- The record that tells which settings are used. -/
def settingsRecord (settings : Settings) : Journal.Record :=
  let entries := settings.entries.map fun (key, value) =>
    key.inspect ++ ':' :: ' ' :: value.inspect
  { level := .debug
    source := Journal.program
    message := String.ofList
      ("Config loaded: \x7b".toList ++ Json.commaSeparated entries ++ ['\x7d']) }

/-- The window as it is opened, and what is noted. An empty first expression is none. -/
def openWindow (window : Window) : Option (List Char) → Window.Reaction
  | none | some [] => { window }
  | some text => window.seed text

/-- What is at the place of the settings file once a log is started, which may be in that file. -/
def storeBeside (log : Journal.Log) (store : Store) : Store :=
  match log.files.text? settingsFile with
  | some text => .ofText text
  | none => store

/-- Starts the log and opens the window, which loads the settings for itself. -/
def start (options : Options) (store : Store) : Except Failure Launched :=
  match store.load with
  | .error e => .error (.settings e)
  | .ok settings =>
    match Journal.Log.start { others := store.names } (settings.get Settings.debugKey).isSet
        (options.logFile.bind Argument.text?) with
    | .error fault => .error (.log fault)
    | .ok log =>
      let log := log.put (settingsRecord settings)
      match Window.openFrom (storeBeside log store) with
      | .error e => .error (.settings e)
      | .ok window =>
        let reaction := openWindow window (options.initialCalc.bind Argument.text?)
        let log := log.putAll (reaction.notes.map (·.record))
        .ok { code := 0, stdout := log.console, window := reaction.window, files := log.files }

/-- Runs the program under a name with the words of a command line. -/
def runAs (name : List Char) (words : List (List Char)) (store : Store) : Except Failure Launched :=
  match readCommandLine words with
  | .error e => .ok { code := 2, stderr := complaint name e }
  | .ok .help => .ok { code := 0, stdout := help name }
  | .ok (.start options) => start options store

/-- Runs the program with the words of its command line. -/
def run (words : List (List Char)) (store : Store) : Except Failure Launched :=
  runAs programName words store

/-- How the program is installed. -/
inductive Install where
  /-- It is one file that holds all others. -/
  | bundled
  /-- It lies in a folder with the files `present`. -/
  | folder (present : List String)

/-- What is said first. -/
def Install.greeting : Install → List Char
  | .bundled => "Production mode (.exe) is starting...\n".toList
  | .folder _ => "Developer Mode: Checking file paths...\n".toList

/-- The files that the program needs and does not find. -/
def Install.missing : Install → List String
  | .bundled => []
  | .folder present => missingFiles present

/-- Runs the program from where it is installed, unless files are missing. -/
def runInstalled (install : Install) (words : List (List Char)) (store : Store) :
    Except Failure Launched :=
  match install.missing with
  | [] =>
    (runAs scriptName words store).map fun launched =>
      { launched with stdout := install.greeting ++ launched.stdout }
  | names => .ok { code := 1, stdout := install.greeting ++ missingReport names }

end Reckoner.Launch
