import ScopedSearch.Number.Binary64
import ScopedSearch.Entries

/-!
# Query trees and the values in them

A query tree is made of four kinds of node: a record named by its identifier, a leaf that matches a
field, a hop along a relation to a target tree, and a group of trees under *all* or *any*. Values
are the data that criteria, documents and registry entries consist of; a value may also be a query
tree, so that hand-built trees can be given where criteria are expected.
-/

namespace ScopedSearch

/-- How the children of a group are combined. -/
inductive Connective where
  | all
  | any
  deriving DecidableEq, Repr

namespace Connective

/-- The key of a group in written queries. -/
def key : Connective → String
  | all => "AND"
  | any => "OR"

def ofKey? (key : String) : Option Connective :=
  if key = "AND" then some all else if key = "OR" then some any else none

theorem ofKey?_key (connective : Connective) : ofKey? connective.key = some connective := by
  cases connective <;> decide

theorem key_of_ofKey? {text : String} {connective : Connective}
    (h : ofKey? text = some connective) : connective.key = text := by
  grind [ofKey?, key]

end Connective

/-- A comparison that a numeric leaf may make. -/
inductive Comparator where
  | eq
  | ne
  | lt
  | le
  | gt
  | ge
  deriving DecidableEq, Repr

namespace Comparator

def all : List Comparator := [eq, ne, lt, le, gt, ge]

def sign : Comparator → String
  | eq => "="
  | ne => "!="
  | lt => "<"
  | le => "<="
  | gt => ">"
  | ge => ">="

def ofSign? (text : String) : Option Comparator :=
  all.find? fun comparator => comparator.sign = text

theorem ofSign?_sign (comparator : Comparator) : ofSign? comparator.sign = some comparator := by
  cases comparator <;> decide

theorem sign_of_ofSign? {text : String} {comparator : Comparator}
    (h : ofSign? text = some comparator) : comparator.sign = text := by
  simpa using List.find?_some h

end Comparator

/-- The identifier of a record, a text that is not empty. -/
structure RecordId where
  text : String
  nonempty : text ≠ ""
  deriving DecidableEq, Repr

namespace RecordId

/-- The record with this identifier, if the text is one. -/
def ofString? (text : String) : Option RecordId :=
  if h : text ≠ "" then some ⟨text, h⟩ else none

@[ext] theorem ext {a b : RecordId} (h : a.text = b.text) : a = b := by
  cases a; cases b; simpa using h

theorem ofString?_text (record : RecordId) : ofString? record.text = some record := by
  simp [ofString?, record.nonempty]

theorem text_of_ofString? {text : String} {record : RecordId}
    (h : ofString? text = some record) : record.text = text := by
  grind [ofString?]

theorem ofString?_eq_none_iff {text : String} : ofString? text = none ↔ text = "" := by
  simp [ofString?]

end RecordId

mutual

/-- A piece of data, possibly with query trees in it. The keys of a mapping are in the order in
which they were given, and no key occurs twice. -/
inductive Value where
  | null
  | bool (value : Bool)
  | int (value : Int)
  | float (value : Binary64)
  | string (value : String)
  | list (items : List Value)
  | map (entries : List (String × Value))
  | query (tree : Query)

/-- A query tree. Scopes are names, as a tree may be built by hand with any of them. -/
inductive Query where
  /-- The record with this identifier. -/
  | record (id : RecordId)
  /-- The records of which a field matches a value. -/
  | leaf (term : String) (value : Value) (scope field : Option String) (fullText : Bool)
    (comparator : Option Comparator)
  /-- The records from which a relation leads to a record of the target. -/
  | hop (term : String) (target : Query) (scope field targetScope : Option String)
  /-- The records that satisfy all, or any, of the children. -/
  | group (connective : Connective) (children : List Query) (scope : Option String)

end

instance : Inhabited Value := ⟨.null⟩

/-- A text, or null when it is absent. -/
def Value.ofText? : Option String → Value
  | none => .null
  | some text => .string text

def Value.isString (value : Value) (text : String) : Bool :=
  match value with
  | .string s => s = text
  | _ => false

namespace Query

/-- The scope a tree declares at its root. -/
def scope : Query → Option String
  | record _ => none
  | leaf _ _ scope _ _ _ => scope
  | hop _ _ scope _ _ => scope
  | group _ _ scope => scope

/-- The tree with another scope at its root; a record declares none. -/
def withScope : Query → Option String → Query
  | record id, _ => record id
  | leaf term value _ field fullText comparator, scope =>
    leaf term value scope field fullText comparator
  | hop term target _ field targetScope, scope => hop term target scope field targetScope
  | group connective children _, scope => group connective children scope

/-- A tree that is no record. -/
def isRecord : Query → Bool
  | record _ => true
  | _ => false

mutual

/-- The nodes of a tree, a node before those beneath it. -/
def nodes : Query → List Query
  | record id => [record id]
  | leaf term value scope field fullText comparator =>
    [leaf term value scope field fullText comparator]
  | hop term target scope field targetScope =>
    hop term target scope field targetScope :: nodes target
  | group connective children scope => group connective children scope :: nodesList children

/-- The nodes of several trees, one tree after the other. -/
def nodesList : List Query → List Query
  | [] => []
  | tree :: rest => nodes tree ++ nodesList rest

end

theorem scope_withScope {tree : Query} (h : tree.isRecord = false) (scope : Option String) :
    (tree.withScope scope).scope = scope := by
  cases tree <;> simp_all [isRecord, withScope, Query.scope]

end Query

end ScopedSearch
