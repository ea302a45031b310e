import ScopedSearch.Settings.Loader
import ScopedSearch.Text.Lines
import ScopedSearch.Text.Upper

/-!
# Where events go

Events go to the standard error stream from a level on and, if there is a directory for it, all of
them to a trace file, after what it held before. Level and directory are given or come from the
environment. A level is a number or the name of one; a text that is neither counts as *warning*.
-/

namespace ScopedSearch

open ScopedSearch.Text

namespace Log

def namedLevels : Entries String Nat :=
  [("CRITICAL", 50), ("FATAL", 50), ("ERROR", 40), ("WARN", 30), ("WARNING", 30), ("INFO", 20),
   ("DEBUG", 10), ("NOTSET", 0)]

def defaultLevel : Nat := 30

def fileLevel : Nat := 10

def isDigits (text : String) : Bool := text ≠ "" && text.toList.all isDigit

/-- The level that a text names. A text of digits that are no number is no level at all. -/
def readLevel (text : String) : Except Error Nat :=
  let word := trim text
  if isDigits word then
    match Numeral.readPlain? word with
    | some level => .ok level
    | none => .error (.misuse .levelNotNumber)
  else .ok ((namedLevels.get? (upper word)).getD defaultLevel)

/-- The level for a given text or, if that is absent or empty, for the one in the environment. -/
def level (surroundings : Surroundings) (given : Option String) : Except Error Nat :=
  let set := (surroundings.environment.get? Setting.logLevel.variableName).getD "WARNING"
  match given with
  | none | some "" => readLevel set
  | some text => readLevel text

def fileName : String := "compile_trace.log"

/-- The directory of the trace file: the given one, else the one in the environment. -/
def directory? (surroundings : Surroundings) (given : Option Path) : Option Path :=
  match given with
  | some path => some path
  | none => (surroundings.fromEnvironment? Setting.logDirectory.variableName).map Path.parse

/-- Opens the trace file, if there is a directory for it: the files then, and the text that the
trace file has before anything is written to it. -/
def openFile (surroundings : Surroundings) (given : Option Path) :
    Except Error (FileTree × Option String) :=
  match directory? surroundings given with
  | none => .ok (surroundings.files, none)
  | some path =>
    match surroundings.files.openIn path fileName with
    | .ok opened => .ok opened
    | .error .loneSurrogate => .error (.misuse .surrogateInPath)
    | .error _ => .error (.misuse .zeroInPath)

/-- Where events go. -/
inductive Handler where
  | file (level : Nat)
  | stream (level : Nat)
  deriving DecidableEq, Repr

end Log

/-- A log that was opened, or what is left of the attempt. -/
structure Log where
  files : FileTree
  /-- The text that the trace file had, if there is one. -/
  trace : Option String := none
  handlers : Except Error (List Log.Handler)

namespace Log

/-- Opens the log for a level and a directory that may be given: the trace file first. -/
def start (surroundings : Surroundings) (givenLevel : Option String) (given : Option Path) : Log :=
  match openFile surroundings given with
  | .error error => { files := surroundings.files, handlers := .error error }
  | .ok (files, trace) =>
    { files, trace,
      handlers := (level surroundings givenLevel).map fun level =>
        if trace.isSome then [.file fileLevel, .stream level] else [.stream level] }

/-- What stands between the parts of a line in the trace file. -/
def mark : List Char := " - ".toList

/-- The text of the trace file after events. The time in front of a line is not kept here: it is
nothing but the mark that ends it. -/
def textAfter (trace : String) (events : List Event) : String :=
  trace ++ String.join ((events.filterMap Event.traceLine?).map fun line =>
    String.ofList mark ++ line ++ "\n")

/-- What comes after the first mark. -/
def afterMark? : List Char → Option (List Char)
  | [] => none
  | c :: rest =>
    if mark.isPrefixOf (c :: rest) then some ((c :: rest).drop mark.length) else afterMark? rest

/-- A line without the time in front of it. -/
def dropTime (line : String) : String :=
  match afterMark? line.toList with
  | some rest => String.ofList rest
  | none => line

/-- The lines of the trace file after events, without their times. -/
def traceLines (trace : String) (events : List Event) : List String :=
  (lines (textAfter trace events)).map dropTime

end Log

end ScopedSearch
