import ScopedSearch.Compiler
import ScopedSearch.Label
import ScopedSearch.Log
import ScopedSearch.Registry.Config
import ScopedSearch.Site

/-!
# Services

What a search needs, put together from settings: the registry, the compiler, the labels, the
templates and the links. Settings that say something about the log open it first; from then on
events go to the trace file if there is one.
-/

namespace ScopedSearch

/-- What a search needs. -/
structure Services where
  settings : Settings
  compiler : Compiler
  labels : LabelTable := .published
  site : Site

namespace Services

/-- The entries of a written registry in a file. -/
def readRegistry (files : FileTree) (path : Path) : Except Error Value :=
  match files.find path with
  | .ok (.text content) =>
    match Json.read content with
    | .ok (.map tables) => .ok (.map tables)
    | .ok _ => .error (.registry (.notKeyed path.text))
    | .error .malformed => .error (.registry (.unreadable path.text))
    | .error .numeralTooLong => .error (.misuse .numeralTooLong)
  | .error .zeroCharacter => .error (.misuse .zeroInPath)
  | .error .loneSurrogate => .error (.misuse .surrogateInPath)
  | _ => .error (.registry (.unreadable path.text))

/-- The settings: the given ones, else those that a loader finds. -/
def chooseSettings (surroundings : Surroundings) (given : Option Settings) (root : Option Path) :
    Traced Settings :=
  match given with
  | some settings => pure settings
  | none => do
    let loader ← ({} : Loader).load surroundings root
    let settings ← loader.settings surroundings
    return settings

def opensLog (settings : Settings) : Bool :=
  settings.logDirectory.isSome || settings.logLevel.any (· ≠ "")

def ofSettings (files : FileTree) (settings : Settings) : Traced Services := do
  let registry ← Registry.load settings.includeGenerated
    (settings.extraTerms.map (readRegistry files))
  let site : Site := { library := .packaged, host := settings.searchHost }
  Traced.tell (.servicesReady site.library.size site.host)
  return { settings, compiler := ⟨registry, settings.clampLevels⟩, site }

/-- The log for settings, opened if they say something about it. -/
def log (surroundings : Surroundings) (settings : Settings) : Log :=
  if opensLog settings then Log.start surroundings settings.logLevel settings.logDirectory
  else { files := surroundings.files, handlers := .ok [] }

/-- The services for settings once the log for them is open. -/
def start (log : Log) (settings : Settings) : Traced Services := do
  let _ ← log.handlers
  ofSettings log.files settings

end Services

end ScopedSearch
