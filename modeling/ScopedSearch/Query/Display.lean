import ScopedSearch.Query
import ScopedSearch.Number.Numeral
import ScopedSearch.Number.Shortest
import ScopedSearch.Text.Quoted

/-!
# Values in messages

How a value that is at fault is shown in a message. Query trees are shown with the names and fields
of their nodes. A value with a whole number of too many digits in it cannot be shown.
-/

namespace ScopedSearch

open ScopedSearch.Text

/-- Numbers in messages are positional from `10 ^ (-4)` up to `10 ^ 16`. -/
def messageFloats : FloatLayout := ⟨-4, 15, 2, "nan", "inf"⟩

def showBool (b : Bool) : String := if b then "True" else "False"

def showOptional : Option String → String
  | none => "None"
  | some s => quoted s

/-- The name under which a comparison is shown. -/
def Comparator.label : Comparator → String
  | .eq => "EQ"
  | .ne => "NE"
  | .lt => "LT"
  | .le => "LE"
  | .gt => "GT"
  | .ge => "GE"

/-- An absent comparison, or its name and sign. -/
def showComparator : Option Comparator → String
  | none => "None"
  | some comparator =>
    "<Comparator." ++ comparator.label ++ ": " ++ quoted comparator.sign ++ ">"

def showConnective (connective : Connective) : String :=
  "<BoolOp." ++ connective.key ++ ": " ++ quoted connective.key ++ ">"

mutual

def Value.display? : Value → Option String
  | .null => some "None"
  | .bool b => some (showBool b)
  | .int n => Numeral.text? n
  | .float x => some (messageFloats.text x)
  | .string s => some (quoted s)
  | .list items => (displayItems? items).map fun texts => "[" ++ ", ".intercalate texts ++ "]"
  | .map entries =>
    (displayEntries? entries).map fun texts => "\x7b" ++ ", ".intercalate texts ++ "\x7d"
  | .query tree => tree.display?

/-- The texts of the items of a list. -/
def displayItems? : List Value → Option (List String)
  | [] => some []
  | value :: rest => do
    let text ← value.display?
    let texts ← displayItems? rest
    return text :: texts

/-- The texts of the entries of a mapping. -/
def displayEntries? : List (String × Value) → Option (List String)
  | [] => some []
  | (key, value) :: rest => do
    let text ← value.display?
    let texts ← displayEntries? rest
    return (quoted key ++ ": " ++ text) :: texts

def Query.display? : Query → Option String
  | .record id => some ("Identifier(id=" ++ quoted id.text ++ ")")
  | .leaf term value scope field fullText comparator =>
    value.display?.map fun text =>
      "Leaf(term=" ++ quoted term ++ ", value=" ++ text ++ ", scope=" ++ showOptional scope
        ++ ", field=" ++ showOptional field ++ ", full_text=" ++ showBool fullText
        ++ ", comparator=" ++ showComparator comparator ++ ")"
  | .hop term target scope field targetScope =>
    target.display?.map fun text =>
      "Hop(term=" ++ quoted term ++ ", target=" ++ text ++ ", scope=" ++ showOptional scope
        ++ ", field=" ++ showOptional field ++ ", target_scope=" ++ showOptional targetScope ++ ")"
  | .group connective children scope =>
    (displayTrees? children).map fun texts =>
      "BooleanNode(op=" ++ showConnective connective ++ ", children=("
        ++ ", ".intercalate texts
        ++ (if children.length = 1 then ",)" else ")") ++ ", scope=" ++ showOptional scope ++ ")"

def displayTrees? : List Query → Option (List String)
  | [] => some []
  | tree :: rest => do
    let text ← tree.display?
    let texts ← displayTrees? rest
    return text :: texts

end

def Query.kind : Query → String
  | .record _ => "Identifier"
  | .leaf .. => "Leaf"
  | .hop .. => "Hop"
  | .group .. => "BooleanNode"

def Value.kind : Value → String
  | .null => "NoneType"
  | .bool _ => "bool"
  | .int _ => "int"
  | .float _ => "float"
  | .string _ => "str"
  | .list _ => "list"
  | .map _ => "dict"
  | .query tree => tree.kind

/-- The bare text of a value: a string as it is, all else as in messages. -/
def Value.plain? : Value → Option String
  | .string s => some s
  | value => value.display?

end ScopedSearch
