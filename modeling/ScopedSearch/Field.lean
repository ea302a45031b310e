import ScopedSearch.Entries
import ScopedSearch.Number.Numeral
import ScopedSearch.Query.Display
import ScopedSearch.Text.Surrogate

/-!
# Reading the fields of a mapping

Entries of a registry and settings are mappings whose fields have types. A field is read leniently:
a whole number may be written as text, a truth value as a word. Reading goes over all fields and
collects every fault, in the order in which the fields are declared; a result is given only when
there is none (`Checked.ap`).
-/

namespace ScopedSearch

open ScopedSearch.Text

/-- What is wrong with a field's value. -/
inductive FieldProblem where
  | missing
  | notText
  | brokenText
  | notSequence
  | notOneOf (choices : List String)
  | belowOne
  | notInteger
  | unreadableInteger
  | fractional
  | integerTooLarge
  | notFinite
  | unreadableTruth
  | notTruth
  | notPath
  | notRecord (kind : String)
  | rule (message : String)
  deriving DecidableEq, Repr

namespace FieldProblem

def code : FieldProblem → String
  | missing => "missing"
  | notText => "string_type"
  | brokenText => "string_unicode"
  | notSequence => "tuple_type"
  | notOneOf _ => "enum"
  | belowOne => "greater_than_equal"
  | notInteger => "int_type"
  | unreadableInteger => "int_parsing"
  | fractional => "int_from_float"
  | integerTooLarge => "int_parsing_size"
  | notFinite => "finite_number"
  | unreadableTruth => "bool_parsing"
  | notTruth => "bool_type"
  | notPath => "path_type"
  | notRecord _ => "model_type"
  | rule _ => "value_error"

/-- The alternatives of an enumeration: commas between them and *or* before the last. -/
def alternatives : List String → String
  | [] => ""
  | [last] => quoted last
  | [first, last] => quoted first ++ " or " ++ quoted last
  | first :: rest => quoted first ++ ", " ++ alternatives rest

def message : FieldProblem → String
  | missing => "Field required"
  | notText => "Input should be a valid string"
  | brokenText =>
    "Input should be a valid string, unable to parse raw data as a unicode string"
  | notSequence => "Input should be a valid tuple"
  | notOneOf choices => "Input should be " ++ alternatives choices
  | belowOne => "Input should be greater than or equal to 1"
  | notInteger => "Input should be a valid integer"
  | unreadableInteger => "Input should be a valid integer, unable to parse string as an integer"
  | fractional => "Input should be a valid integer, got a number with a fractional part"
  | integerTooLarge => "Unable to parse input string as an integer, exceeded maximum size"
  | notFinite => "Input should be a finite number"
  | unreadableTruth => "Input should be a valid boolean, unable to interpret input"
  | notTruth => "Input should be a valid boolean"
  | notPath => "Input is not a valid path for <class 'pathlib.Path'>"
  | notRecord kind => "Input should be a valid dictionary or instance of " ++ kind
  | rule message => "Value error, " ++ message

end FieldProblem

/-- A step on the way to a value at fault: a field, under the name it was given, or a position. -/
inductive PathStep where
  | field (name : String)
  | position (index : Nat)
  deriving DecidableEq, Repr

/-- A problem and where it lies. -/
structure FieldFault where
  problem : FieldProblem
  path : List PathStep
  deriving DecidableEq, Repr

/-- A result, or all faults that stand in its way. -/
inductive Checked (α : Type) where
  | ok (value : α)
  | faulty (faults : List FieldFault)

namespace Checked

variable {α β : Type}

/-- Applies a function to the result. -/
def map (f : α → β) : Checked α → Checked β
  | ok value => ok (f value)
  | faulty faults => faulty faults

/-- Applies a checked function to a checked argument: the faults of both are kept, in order. -/
def ap : Checked (α → β) → Checked α → Checked β
  | ok f, ok value => ok (f value)
  | ok _, faulty faults => faulty faults
  | faulty faults, ok _ => faulty faults
  | faulty faults, faulty more => faulty (faults ++ more)

def fault (problem : FieldProblem) (path : List PathStep) : Checked α := faulty [⟨problem, path⟩]

theorem ap_eq_ok_iff {f : Checked (α → β)} {x : Checked α} {y : β} :
    f.ap x = ok y ↔ ∃ g a, f = ok g ∧ x = ok a ∧ g a = y := by
  cases f <;> cases x <;> simp [ap]

end Checked

namespace Field

/-- The first of these names under which the mapping has a value, and the value. -/
def find? (entries : Entries String Value) : List String → Option (String × Value)
  | [] => none
  | name :: rest =>
    match entries.get? name with
    | some value => some (name, value)
    | none => find? entries rest

/-- A field that has to be there, read by `read`; a missing one is reported under its first name. -/
def required {α : Type} (entries : Entries String Value) (names : List String)
    (read : List PathStep → Value → Checked α) : Checked α :=
  match find? entries names with
  | some (name, value) => read [.field name] value
  | none => .fault .missing [.field (names.headD "")]

/-- A field that may be left out. -/
def optional {α : Type} (entries : Entries String Value) (names : List String) (default : α)
    (read : List PathStep → Value → Checked α) : Checked α :=
  match find? entries names with
  | some (name, value) => read [.field name] value
  | none => .ok default

/-- A value that may be null. -/
def nullable {α : Type} (read : List PathStep → Value → Checked α) :
    List PathStep → Value → Checked (Option α)
  | _, .null => .ok none
  | path, value => (read path value).map some

def text : List PathStep → Value → Checked String
  | _, .string s => .ok s
  | path, _ => .fault .notText path

/-- A member of an enumeration, written with its name. -/
def member {α : Type} (choices : List String) (ofName? : String → Option α) :
    List PathStep → Value → Checked α
  | path, .string s =>
    if hasLoneSurrogate s then .fault .brokenText path
    else
      match ofName? s with
      | some found => .ok found
      | none => .fault (.notOneOf choices) path
  | path, _ => .fault (.notOneOf choices) path

/-- The items of a sequence from position `index` on. -/
def items {α : Type} (read : List PathStep → Value → Checked α) (path : List PathStep) :
    Nat → List Value → Checked (List α)
  | _, [] => .ok []
  | index, value :: rest =>
    ((read (path ++ [.position index]) value).map List.cons).ap (items read path (index + 1) rest)

def sequence {α : Type} (read : List PathStep → Value → Checked α) :
    List PathStep → Value → Checked (List α)
  | path, .list values => items read path 0 values
  | path, _ => .fault .notSequence path

/-- The number is one of the 64-bit whole numbers. -/
def fitsWord (n : Int) : Bool := -Binary64.pow2 63 ≤ n && n < Binary64.pow2 63

/-- The whole number that a value stands for. -/
def wholeNumber : Value → Except FieldProblem Int
  | .bool b => .ok (if b then 1 else 0)
  | .int n => .ok n
  | .float x =>
    if !x.isFinite then .error .notFinite
    else
      match x.whole? with
      | none => .error .fractional
      | some n => if n.natAbs < Binary64.pow2 63 then .ok n else .error .integerTooLarge
  | .string s =>
    if hasLoneSurrogate s then .error .brokenText
    else
      match Numeral.readLevel s with
      | .ok n => .ok n
      | .error .malformed => .error .unreadableInteger
      | .error .tooLong => .error .integerTooLarge
  | _ => .error .notInteger

/-- A whole number of at least one. -/
def level (path : List PathStep) (value : Value) : Checked Nat :=
  match wholeNumber value with
  | .error problem => .fault problem path
  | .ok n => if n < 1 then .fault .belowOne path else .ok n.toNat

def noWords : List String := ["0", "off", "f", "false", "n", "no"]

def yesWords : List String := ["1", "on", "t", "true", "y", "yes"]

/-- The truth value that a value stands for. -/
def truthValue : Value → Except FieldProblem Bool
  | .bool b => .ok b
  | .int n =>
    if n = 0 then .ok false
    else if n = 1 then .ok true
    else if fitsWord n then .error .unreadableTruth
    else .error .notTruth
  | .float x =>
    match x.whole? with
    | none => .error .notTruth
    | some n =>
      if n = 0 then .ok false
      else if n = 1 then .ok true
      else if n.natAbs < Binary64.pow2 63 then .error .unreadableTruth
      else .error .notTruth
  | .string s =>
    let word := String.ofList (s.toList.map Char.toLower)
    if hasLoneSurrogate s then .error .brokenText
    else if noWords.contains word then .ok false
    else if yesWords.contains word then .ok true
    else .error .unreadableTruth
  | _ => .error .notTruth

def truth (path : List PathStep) (value : Value) : Checked Bool :=
  match truthValue value with
  | .ok b => .ok b
  | .error problem => .fault problem path

end Field

end ScopedSearch
