import ScopedSearch.Error

/-!
# Building by hand

Trees that are not compiled are built from values that may not fit: an identifier has to be a text
that is not empty, a sign has to be one of those that there are, and a record cannot be given a
scope. A single relation is looked up by its expression, which has to be fit for a key.
-/

namespace ScopedSearch

def Query.recordNamed : Value → Except Error Query
  | .string text =>
    match RecordId.ofString? text with
    | some id => .ok (.record id)
    | none => .error (.invalid (.emptyRecordId (.string text)))
  | value => .error (Error.invalid (.emptyRecordId value)).raised

def Comparator.named (sign : String) : Except Error Comparator :=
  match ofSign? sign with
  | some comparator => .ok comparator
  | none => .error (.misuse .unknownSign)

def Connective.named (key : String) : Except Error Connective :=
  match ofKey? key with
  | some connective => .ok connective
  | none => .error (.misuse .unknownSign)

mutual

/-- The value can be looked up as a key: no list and no mapping is in it. -/
def Value.isKey : Value → Bool
  | .list _ | .map _ => false
  | .query tree => tree.isKey
  | _ => true

/-- The tree can be looked up as a key. -/
def Query.isKey : Query → Bool
  | .record _ => true
  | .leaf _ value _ _ _ _ => value.isKey
  | .hop _ target _ _ _ => target.isKey
  | .group _ children _ => areKeys children

/-- The trees can be looked up as keys. -/
def areKeys : List Query → Bool
  | [] => true
  | tree :: rest => tree.isKey && areKeys rest

end

/-- The relation that a value is the expression of: anything but a text is as good as empty. -/
def Predicate.named (value : Value) : Except Error Predicate :=
  if value.isKey then
    match value with
    | .string expression =>
      match Predicate.parse expression with
      | .ok predicate => .ok predicate
      | .error fault => .error (.registry (.predicate fault))
    | value => .error (Error.registry (.notExpression value)).raised
  else .error (.misuse .notKey)

/-- The value is the identifier of a record. -/
def Value.isRecordId : Value → Bool
  | .string text => text ≠ ""
  | _ => false

/-- The tree with another scope, or none, at its root. -/
def Query.rescoped (tree : Query) (scope : Option String) : Except Error Query :=
  if tree.isRecord then .error (.misuse .scopeOfRecord) else .ok (tree.withScope scope)

/-- The scope of a tree that a value stands for: no scope for null, the bare text for all else. -/
def Value.scopeName : Value → Except Error (Option String)
  | .null => .ok none
  | value => value.text.map some

theorem Query.rescoped_eq_ok {tree result : Query} {scope : Option String}
    (h : tree.rescoped scope = .ok result) : result.scope = scope := by
  unfold rescoped at h
  split at h
  · cases h
  · next hrecord =>
    cases h
    exact scope_withScope (by simpa using hrecord) scope

end ScopedSearch
