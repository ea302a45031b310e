import ScopedSearch.Predicate
import ScopedSearch.Scope

/-!
# Search terms

A term is declared in one scope under a name, with a pattern that says what it searches. A
declaration becomes a `Term` when its predicates parse and it says all that its pattern needs; the
term then knows its `Role`, so that a hop always has its relation and its target, and a related list
its target and its bound.
-/

namespace ScopedSearch

open ScopedSearch.Text

/-- What a term searches. -/
inductive Pattern where
  /-- The identifier of a record. -/
  | documentId
  /-- A field indexed by words. -/
  | indexedWord
  /-- A field indexed by its exact value. -/
  | indexedValue
  /-- The full text. -/
  | text
  /-- One hop along a relation. -/
  | hopWithField
  /-- Every bounded chain of hops. -/
  | relatedList
  /-- Likeness to a record. -/
  | similar
  deriving DecidableEq, Repr

namespace Pattern

def all : List Pattern :=
  [documentId, indexedWord, indexedValue, text, hopWithField, relatedList, similar]

def name : Pattern → String
  | documentId => "documentId"
  | indexedWord => "indexedWord"
  | indexedValue => "indexedValue"
  | text => "text"
  | hopWithField => "hopWithField"
  | relatedList => "relatedList"
  | similar => "similar"

def ofName? (text : String) : Option Pattern := all.find? fun pattern => pattern.name = text

/-- A field with an index is searched, by words or by value. -/
def isIndexed : Pattern → Bool
  | indexedWord | indexedValue => true
  | _ => false

theorem ofName?_name (pattern : Pattern) : ofName? pattern.name = some pattern := by
  cases pattern <;> decide

end Pattern

/-- The type of the values of an indexed field. -/
inductive ScalarType where
  | string
  | number
  deriving DecidableEq, Repr

namespace ScalarType

def all : List ScalarType := [string, number]

def name : ScalarType → String
  | string => "string"
  | number => "number"

def ofName? (text : String) : Option ScalarType := all.find? fun type => type.name = text

theorem ofName?_name (type : ScalarType) : ofName? type.name = some type := by
  cases type <;> decide

end ScalarType

/-- What a registry says of a term. -/
structure Declaration where
  scope : Scope
  name : String
  pattern : Pattern
  predicates : List String := []
  targetScope : Option Scope := none
  inverseName : Option String := none
  indexReferences : List String := []
  idIndexReferences : List String := []
  scalarType : Option ScalarType := none
  inBetweenScopes : List Scope := []
  maxLevel : Option Nat := none
  deriving DecidableEq, Repr

/-- What a term does, with everything that it needs for it. -/
inductive Role where
  | documentId
  | indexed (field : String)
  | text (field : String)
  | hop (predicate : Predicate) (target : Scope)
  | related (target : Scope) (maxLevel : Nat)
  | similar
  deriving DecidableEq, Repr

/-- The role is one that terms of the pattern have. -/
def Role.fits : Role → Pattern → Bool
  | documentId, .documentId | indexed _, .indexedWord | indexed _, .indexedValue | text _, .text
  | hop _ _, .hopWithField | related _ _, .relatedList | similar, .similar => true
  | _, _ => false

theorem Role.eq_indexed_of_fits {role : Role} {pattern : Pattern} (h : role.fits pattern = true)
    (hindexed : pattern.isIndexed = true) : ∃ field, role = .indexed field := by
  cases pattern with
  | indexedWord | indexedValue =>
    cases role with
    | indexed field => exact ⟨field, rfl⟩
    | _ => cases h
  | _ => cases hindexed

/-- Why a declaration makes no term. -/
inductive DeclarationFault where
  | predicate (fault : PredicateFault)
  | noPredicates (name : String)
  | noTarget (pattern : Pattern) (name : String)
  | noLevel (name : String)
  | noIndex (pattern : Pattern) (name : String)
  | levelBelowOne

def DeclarationFault.message : DeclarationFault → String
  | predicate fault => fault.message
  | noPredicates name => "hopWithField term " ++ quoted name ++ " declares no predicates"
  | noTarget pattern name => pattern.name ++ " term " ++ quoted name ++ " declares no targetScope"
  | noLevel name => "relatedList term " ++ quoted name ++ " declares no maxLevel"
  | noIndex pattern name =>
    pattern.name ++ " term " ++ quoted name ++ " declares no indexReferences"
  | levelBelowOne => "maxLevel is below one"

namespace Declaration

/-- The relations that a list of expressions names, or the fault of the first that names none. -/
def relations : List String → Except PredicateFault (List Predicate)
  | [] => .ok []
  | expression :: rest =>
    match Predicate.parse expression with
    | .error fault => .error fault
    | .ok predicate => (relations rest).map (predicate :: ·)

/-- The first index reference, which an indexed or text term needs. -/
def firstIndex (declaration : Declaration) : Except DeclarationFault String :=
  match declaration.indexReferences with
  | field :: _ => .ok field
  | [] => .error (.noIndex declaration.pattern declaration.name)

/-- The role that a declaration with these relations describes. -/
def role (declaration : Declaration) (predicates : List Predicate) :
    Except DeclarationFault Role :=
  match declaration.pattern with
  | .documentId => .ok .documentId
  | .similar => .ok .similar
  | .indexedWord => declaration.firstIndex.map .indexed
  | .indexedValue => declaration.firstIndex.map .indexed
  | .text => declaration.firstIndex.map .text
  | .hopWithField =>
    match predicates, declaration.targetScope with
    | [], _ => .error (.noPredicates declaration.name)
    | _, none => .error (.noTarget .hopWithField declaration.name)
    | predicate :: _, some target => .ok (.hop predicate target)
  | .relatedList =>
    match declaration.targetScope, declaration.maxLevel with
    | none, _ => .error (.noTarget .relatedList declaration.name)
    | _, none => .error (.noLevel declaration.name)
    | some target, some level => .ok (.related target level)

/-- The relations and the role that a declaration describes. A bound is at least one, whatever the
pattern. -/
def check (declaration : Declaration) : Except DeclarationFault (List Predicate × Role) :=
  match relations declaration.predicates with
  | .error fault => .error (.predicate fault)
  | .ok predicates =>
    if declaration.maxLevel = some 0 then .error .levelBelowOne
    else (declaration.role predicates).map fun role => (predicates, role)

theorem fits_of_role {declaration : Declaration} {predicates : List Predicate} {role : Role}
    (h : declaration.role predicates = .ok role) : role.fits declaration.pattern = true := by
  unfold Declaration.role at h
  cases hpattern : declaration.pattern <;> simp only [hpattern] at h
  case documentId | similar => cases h; rfl
  case indexedWord | indexedValue | text =>
    cases hfield : declaration.firstIndex with
    | error fault => simp [hfield, Except.map] at h
    | ok field =>
      simp only [hfield, Except.map, Except.ok.injEq] at h
      exact h ▸ rfl
  case hopWithField | relatedList =>
    split at h
    all_goals cases h
    rfl

theorem fits_of_check {declaration : Declaration} {predicates : List Predicate} {role : Role}
    (h : declaration.check = .ok (predicates, role)) : role.fits declaration.pattern = true := by
  unfold check at h
  cases hrelations : relations declaration.predicates with
  | error fault => simp [hrelations] at h
  | ok found =>
    simp only [hrelations] at h
    split at h
    · cases h
    · cases hrole : declaration.role found with
      | error fault => simp [hrole, Except.map] at h
      | ok other =>
        simp only [hrole, Except.map, Except.ok.injEq, Prod.mk.injEq] at h
        exact h.2 ▸ fits_of_role hrole

end Declaration

/-- A declaration that passes its checks, with what the checks found. -/
structure Term where
  declaration : Declaration
  predicates : List Predicate
  role : Role
  checked : declaration.check = .ok (predicates, role)

namespace Term

def ofDeclaration (declaration : Declaration) : Except DeclarationFault Term :=
  match h : declaration.check with
  | .error fault => .error fault
  | .ok (predicates, role) => .ok ⟨declaration, predicates, role, h⟩

/-- A term is determined by its declaration. -/
@[ext] theorem ext {a b : Term} (h : a.declaration = b.declaration) : a = b := by
  obtain ⟨da, pa, ra, ha⟩ := a
  obtain ⟨db, pb, rb, hb⟩ := b
  obtain rfl : da = db := h
  rw [ha] at hb
  simpa using hb

instance : DecidableEq Term := fun a b =>
  decidable_of_iff (a.declaration = b.declaration) ⟨Term.ext, fun h => h ▸ rfl⟩

def name (term : Term) : String := term.declaration.name

def scope (term : Term) : Scope := term.declaration.scope

def pattern (term : Term) : Pattern := term.declaration.pattern

/-- The scope and the name of a term, as messages give them. -/
def title (term : Term) : String := term.scope.name ++ "." ++ term.name

def isHop (term : Term) : Bool := term.pattern = .hopWithField

def isNumeric (term : Term) : Bool := term.declaration.scalarType = some .number

/-- The scopes a term refers to, its target before the scopes in between. -/
def references (term : Term) : List Scope :=
  term.declaration.targetScope.toList ++ term.declaration.inBetweenScopes

/-- The role of a term is one of its pattern. -/
theorem role_fits (term : Term) : term.role.fits term.pattern = true :=
  Declaration.fits_of_check term.checked

theorem ofDeclaration_declaration (term : Term) :
    ofDeclaration term.declaration = .ok term := by
  unfold ofDeclaration
  split
  · next h => rw [term.checked] at h; cases h
  · next h => exact congrArg _ (Term.ext rfl)

theorem declaration_of_ofDeclaration {declaration : Declaration} {term : Term}
    (h : ofDeclaration declaration = .ok term) : term.declaration = declaration := by
  unfold ofDeclaration at h
  split at h
  · cases h
  · cases h; rfl

end Term

/-- A term that travels a relation, with the relation and the scope it leads to. -/
structure Hop where
  term : Term
  predicate : Predicate
  target : Scope
  role : term.role = .hop predicate target

namespace Hop

/-- The hop that a term makes, if it makes one. -/
def ofTerm? (term : Term) : Option Hop :=
  match h : term.role with
  | .hop predicate target => some ⟨term, predicate, target, h⟩
  | _ => none

/-- A hop is determined by its term. -/
@[ext] theorem ext {a b : Hop} (h : a.term = b.term) : a = b := by
  obtain ⟨ta, pa, sa, ha⟩ := a
  obtain ⟨tb, pb, sb, hb⟩ := b
  obtain rfl : ta = tb := h
  rw [ha] at hb
  cases hb
  rfl

instance : DecidableEq Hop := fun a b =>
  decidable_of_iff (a.term = b.term) ⟨Hop.ext, fun h => h ▸ rfl⟩

def name (hop : Hop) : String := hop.term.name

def source (hop : Hop) : Scope := hop.term.scope

theorem ofTerm?_term (hop : Hop) : ofTerm? hop.term = some hop := by
  unfold ofTerm?
  split
  · exact congrArg _ (Hop.ext rfl)
  · next h => exact absurd hop.role (h _ _)

theorem term_of_ofTerm? {term : Term} {hop : Hop} (h : ofTerm? term = some hop) :
    hop.term = term := by
  unfold ofTerm? at h
  split at h
  · cases h; rfl
  · cases h

end Hop

end ScopedSearch
