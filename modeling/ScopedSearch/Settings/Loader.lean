import ScopedSearch.Event
import ScopedSearch.Json.Reader
import ScopedSearch.Settings
import ScopedSearch.Settings.FileTree

/-!
# Loading settings

A setting comes from its environment variable if that is set and not empty, else from the settings
file, else it has its default. A loader reads the file once; what it found then is what it goes on
with. A relative path in the file starts where the file is.
-/

namespace ScopedSearch

/-- The files and the environment variables that settings are read from. -/
structure Surroundings where
  files : FileTree
  environment : Entries String String

/-- The value of an environment variable, unless it is empty. -/
def Surroundings.fromEnvironment? (surroundings : Surroundings) (name : String) : Option String :=
  match surroundings.environment.get? name with
  | none | some "" => none
  | some value => some value

/-- A settings file that was read. -/
structure SettingsFile where
  path : Path
  entries : Entries String Value

/-- What a loader has found: nothing before it loads, and nothing where there is no file to take. -/
structure Loader where
  loaded : Bool := false
  file : Option SettingsFile := none

namespace Loader

def fileName : String := "lux_query.json"

/-- The environment variable for the directory of the settings file. -/
def directoryVariable : String := "LUX_QUERY_PROJECT_ROOT"

/-- The directory of the settings file: the given one, else the one in the environment, else the
working directory. -/
def directory (surroundings : Surroundings) (given : Option Path) : Path :=
  match given with
  | some path => path
  | none =>
    match surroundings.fromEnvironment? directoryVariable with
    | some text => .parse text
    | none => surroundings.files.workingDirectory

def readEntries : FileEntry → Except SettingsFault (Entries String Value)
  | .directory => .error .directory
  | .text content =>
    match Json.read content with
    | .error .malformed => .error .malformed
    | .error .numeralTooLong => .error .numeralTooLong
    | .ok (.map entries) => .ok entries
    | .ok _ => .error .notObject

/-- The settings file of a directory, if there is one that can be taken. A directory whose path is
no path has none, but one whose path is too long is an error. -/
def loadFile (surroundings : Surroundings) (directory : Path) : Traced (Option SettingsFile) :=
  let path := directory.child fileName
  match surroundings.files.find path with
  | .error .tooLong => Traced.fail (.misuse .pathTooLong)
  | .error _ => pure none
  | .ok entry =>
    match readEntries entry with
    | .ok entries => do
      Traced.tell (.settingsLoaded path.text)
      return some ⟨path, entries⟩
    | .error fault => do
      Traced.tell (.settingsRefused path.text fault)
      return none

/-- Loads the settings file, unless the loader has loaded before. -/
def load (loader : Loader) (surroundings : Surroundings) (given : Option Path) :
    Traced Loader :=
  if loader.loaded then pure loader
  else do
    let file ← loadFile surroundings (directory surroundings given)
    return ⟨true, file⟩

/-- The value is as good as nothing: zero, no, or empty. -/
def isVoid : Value → Bool
  | .null => true
  | .bool b => !b
  | .int n => n = 0
  | .float x => x.isZero
  | .string text => text = ""
  | .list items => items.isEmpty
  | .map entries => entries.isEmpty
  | .query _ => false

/-- A path in the settings file: a relative one starts where the file is. -/
def anchor (file : SettingsFile) (value : Value) : Except Error Value :=
  if isVoid value then .ok value
  else
    match value with
    | .string text => .ok (.string (file.path.parent.join (.parse text)).text)
    | _ => .error (.misuse .pathNotText)

/-- What the settings file says about a setting. -/
def fileValue (loader : Loader) (setting : Setting) : Except Error (Option Value) :=
  match loader.file with
  | none => .ok none
  | some file =>
    match file.entries.get? setting.key with
    | none | some .null => .ok none
    | some value => if setting.isPath then (anchor file value).map some else .ok (some value)

/-- What is said about a setting: in the environment, else in the file. -/
def resolve (loader : Loader) (surroundings : Surroundings) (setting : Setting) :
    Except Error (Option Value) :=
  match surroundings.fromEnvironment? setting.variableName with
  | some text => .ok (some (.string text))
  | none => loader.fileValue setting

/-- What is said about several settings. -/
def resolveAll (loader : Loader) (surroundings : Surroundings) :
    List Setting → Except Error (Entries String Value)
  | [] => .ok []
  | setting :: rest => do
    let value ← loader.resolve surroundings setting
    let others ← resolveAll loader surroundings rest
    return (value.map fun value => (setting.key, value)).toList ++ others

/-- Where settings come from, in messages. -/
def source (loader : Loader) : String :=
  match loader.file with
  | some file => file.path.text
  | none => "environment"

def settings (loader : Loader) (surroundings : Surroundings) : Except Error Settings := do
  let entries ← loader.resolveAll surroundings Setting.all
  match Settings.ofEntries entries with
  | .ok settings => return settings
  | .faulty faults => .error (.settings loader.source faults)

end Loader

end ScopedSearch
