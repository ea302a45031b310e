import ScopedSearch.Query.Display
import ScopedSearch.Text.Blank

/-!
# Relation predicates

A hop term names the relation it travels by a vocabulary and a local name, written
`vocabulary("localName")`. The expression is a name, an opening bracket, a quoted text and a closing
bracket, with gaps allowed between them. `Predicate.parse` reads an expression and points at the
column of the first piece that does not fit.
-/

namespace ScopedSearch

open ScopedSearch.Text

/-- The vocabularies that relations come from. -/
inductive Vocabulary where
  | lux
  | crm
  | la
  | skos
  deriving DecidableEq, Repr

namespace Vocabulary

def all : List Vocabulary := [lux, crm, la, skos]

def name : Vocabulary → String
  | lux => "lux"
  | crm => "crm"
  | la => "la"
  | skos => "skos"

/-- What the full names of a vocabulary begin with. -/
def base : Vocabulary → String
  | lux => "https://lux.collections.yale.edu/ns/"
  | crm => "http://www.cidoc-crm.org/cidoc-crm/"
  | la => "https://linked.art/ns/terms/"
  | skos => "http://www.w3.org/2004/02/skos/core#"

def ofName? (text : String) : Option Vocabulary :=
  all.find? fun vocabulary => vocabulary.name = text

theorem ofName?_name (vocabulary : Vocabulary) : ofName? vocabulary.name = some vocabulary := by
  cases vocabulary <;> decide

theorem name_of_ofName? {text : String} {vocabulary : Vocabulary}
    (h : ofName? text = some vocabulary) : vocabulary.name = text := by
  simpa using List.find?_some h

end Vocabulary

/-- A relation of the knowledge graph. -/
structure Predicate where
  vocabulary : Vocabulary
  localName : String
  deriving DecidableEq, Repr

/-- Why an expression names no relation. -/
inductive PredicateFault where
  /-- There are only blanks. -/
  | empty (expression : String)
  /-- The expression breaks the grammar at this column. -/
  | malformed (expression : String) (column : Nat)
  /-- The vocabulary is not known. -/
  | unknownVocabulary (name expression : String)

def PredicateFault.message : PredicateFault → String
  | empty expression => "Empty predicate expression: " ++ quoted expression
  | malformed expression column =>
    "Malformed predicate expression " ++ quoted expression ++ " at column " ++ toString column
  | unknownVocabulary name expression =>
    "Unknown predicate namespace " ++ quoted name ++ " in " ++ quoted expression
      ++ "; expected one of: crm, la, lux, skos"

namespace Predicate

def curie (predicate : Predicate) : String :=
  predicate.vocabulary.name ++ ":" ++ predicate.localName

def iri (predicate : Predicate) : String := predicate.vocabulary.base ++ predicate.localName

/-- A blank that may stand between the pieces of an expression. -/
def isGap (c : Char) : Bool :=
  c = ' ' || c = '\t' || c = '\n' || c = '\r' || c.toNat = 0x0c

/-- The text from its first character that is no gap. -/
def skipGap (cs : List Char) : List Char := cs.dropWhile isGap

/-- A character that a name may begin with. -/
def isNameStart (c : Char) : Bool := c.isAlpha || c = '_'

/-- A character that a name may go on with. -/
def isNameChar (c : Char) : Bool := c.isAlphanum || c = '_'

/-- A name at the front of the text, and the rest. -/
def name? : List Char → Option (List Char × List Char)
  | [] => none
  | c :: rest =>
    if isNameStart c then some (c :: rest.takeWhile isNameChar, rest.dropWhile isNameChar) else none

/-- A character that a text between these marks may hold. -/
def isInside (mark c : Char) : Bool := c ≠ mark && c ≠ '\n'

/-- A quoted text at the front, without its marks, and the rest. The text is on one line and not
empty. -/
def quotedText? : List Char → Option (List Char × List Char)
  | [] => none
  | mark :: rest =>
    if mark = apostrophe || mark = doubleQuote then
      let inside := rest.takeWhile (isInside mark)
      match rest.dropWhile (isInside mark) with
      | [] => none
      | c :: tail => if c = mark && inside ≠ [] then some (inside, tail) else none
    else none

/-- This bracket at the front of the text, and the rest. -/
def bracket? (bracket : Char) : List Char → Option (List Char)
  | [] => none
  | c :: rest => if c = bracket then some rest else none

/-- The column within its line, counted from 1, at which the end `rest` of the text `all` starts. -/
def column (all rest : List Char) : Nat :=
  let before := (all.take (all.length - rest.length)).reverse.takeWhile (· ≠ '\n')
  (codePoints before.reverse).length + 1

/-- The column at fault when the piece expected at `rest` is not there: where `rest` starts, or the
piece before it when the text has ended. -/
def faultColumn (all before rest : List Char) : Nat :=
  column all (if rest = [] then before else rest)

/-- The name and the quoted text of an expression, or the column at fault. -/
def pieces (all : List Char) : Except Nat (List Char × List Char) := do
  let start := skipGap all
  let some (vocabulary, rest) := name? start | .error (faultColumn all start start)
  let opening := skipGap rest
  let some rest := bracket? '(' opening | .error (faultColumn all start opening)
  let text := skipGap rest
  let some (localName, rest) := quotedText? text | .error (faultColumn all opening text)
  let closing := skipGap rest
  let some rest := bracket? ')' closing | .error (faultColumn all text closing)
  let tail := skipGap rest
  if tail = [] then return (vocabulary, localName) else .error (faultColumn all closing tail)

def parse (expression : String) : Except PredicateFault Predicate :=
  if allBlank expression then .error (.empty expression)
  else
    match pieces expression.toList with
    | .error column => .error (.malformed expression column)
    | .ok (name, localName) =>
      match Vocabulary.ofName? (String.ofList name) with
      | some vocabulary => .ok ⟨vocabulary, String.ofList localName⟩
      | none => .error (.unknownVocabulary (String.ofList name) expression)

end Predicate

end ScopedSearch
