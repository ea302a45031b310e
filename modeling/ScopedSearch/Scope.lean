/-!
# Scopes

The entity kinds of the knowledge graph. Every search term belongs to one of them, and every query
is evaluated in one of them, except a query over several kinds, whose root carries the name
`Scope.multi` and whose branches each name their own.
-/

namespace ScopedSearch

/-- An entity kind of the knowledge graph. -/
inductive Scope where
  | agent
  | concept
  | event
  | item
  | place
  | set
  | work
  | reference
  deriving DecidableEq, Repr

namespace Scope

def all : List Scope := [agent, concept, event, item, place, set, work, reference]

def name : Scope → String
  | agent => "agent"
  | concept => "concept"
  | event => "event"
  | item => "item"
  | place => "place"
  | set => "set"
  | work => "work"
  | reference => "reference"

def ofName? (text : String) : Option Scope := all.find? fun scope => scope.name = text

/-- The root name of a query whose branches are in different scopes. -/
def multi : String := "multi"

theorem mem_all (scope : Scope) : scope ∈ all := by cases scope <;> decide

theorem ofName?_name (scope : Scope) : ofName? scope.name = some scope := by
  cases scope <;> decide

theorem name_of_ofName? {text : String} {scope : Scope} (h : ofName? text = some scope) :
    scope.name = text := by
  simpa using List.find?_some h

theorem name_injective {a b : Scope} (h : a.name = b.name) : a = b := by
  have hb := ofName?_name b
  rw [← h, ofName?_name] at hb
  exact Option.some.inj hb

theorem name_ne_multi (scope : Scope) : scope.name ≠ multi := by cases scope <;> decide

end Scope

end ScopedSearch
