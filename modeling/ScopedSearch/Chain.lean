import ScopedSearch.Registry

/-!
# Bounded chains of hops

Scopes are the nodes of a graph whose edges are hops. A route asks for the chains from an origin to
a target: every scope that a chain passes before its last hop is one of the scopes in between and is
not the origin. The graph has cycles, so the chains are enumerated by length up to a bound
(`Registry.chains`): the partial chains of one length are extended by every hop that leaves where
they end, until the bound is met or no partial chain is left. Chains of one length are ordered by
the positions of the scopes they pass, then by the positions of their hops.
-/

namespace ScopedSearch

/-- Hops one after the other. -/
abbrev Chain := List Hop

namespace Chain

/-- Where a chain ends that starts in the origin. -/
def destination (origin : Scope) (chain : Chain) : Scope :=
  match chain.getLast? with
  | some hop => hop.target
  | none => origin

/-- The origin and the scope that each hop lands on. -/
def scopes (origin : Scope) (chain : Chain) : List Scope := origin :: chain.map Hop.target

/-- The scopes passed before the last hop. -/
def passed (chain : Chain) : List Scope := (chain.map Hop.target).dropLast

def names (chain : Chain) : List String := chain.map Hop.name

/-- The names of the hops with hyphens between them. -/
def key (chain : Chain) : String := "-".intercalate chain.names

end Chain

/-- The last position of a scope in a list. -/
def lastPosition? : List Scope → Scope → Option Nat
  | [], _ => none
  | first :: rest, scope =>
    match lastPosition? rest scope with
    | some position => some (position + 1)
    | none => if first = scope then some 0 else none

/-- The lexicographic order of ranks: the first position that differs decides, and a rank comes
before those that it begins. -/
def rankLE : List Nat → List Nat → Bool
  | [], _ => true
  | _ :: _, [] => false
  | a :: as, b :: bs => a < b || (a = b && rankLE as bs)

/-- Where chains start, where they lead, and what they may pass. -/
structure Route where
  origin : Scope
  target : Scope
  between : List Scope
  deriving DecidableEq, Repr

namespace Route

/-- A chain may pass the scope on its way. -/
def allows (route : Route) (scope : Scope) : Bool :=
  scope ≠ route.origin && route.between.contains scope

/-- The position of a scope that chains may pass; a repeated scope counts at its last position. -/
def position (route : Route) (scope : Scope) : Nat := (lastPosition? route.between scope).getD 0

end Route

namespace Registry

variable (registry : Registry) (route : Route)

/-- The position of a hop among those that leave the same scope. -/
def hopPosition (hop : Hop) : Nat :=
  (registry.hopsFrom hop.source).findIdx fun other => other.name = hop.name

/-- What orders chains of one length: the positions of the scopes passed, then of the hops. -/
def rank (chain : Chain) : List Nat :=
  chain.passed.map route.position ++ chain.map registry.hopPosition

/-- Chains in the order of their ranks. -/
def sortChains (chains : List Chain) : List Chain :=
  let ranked := chains.map fun chain => (registry.rank route chain, chain)
  (ranked.mergeSort fun a b => rankLE a.1 b.1).map Prod.snd

/-- The chains with one more hop. -/
def extend (chains : List Chain) : List Chain :=
  chains.flatMap fun chain =>
    (registry.hopsFrom (chain.destination route.origin)).map fun hop => chain ++ [hop]

/-- The chains that lead to the target, one list for each of the next `count` lengths, that go on from
partial chains. At the last length no partial chain is kept, and without any the search stops. -/
def search : Nat → List Chain → List (List Chain)
  | 0, _ => []
  | count + 1, partials =>
    let longer := registry.extend route partials
    let ends := fun chain : Chain => chain.destination route.origin
    let complete := registry.sortChains route (longer.filter fun chain => ends chain = route.target)
    let kept := if count = 0 then [] else longer.filter fun chain => route.allows (ends chain)
    if kept.isEmpty then [complete] else complete :: search count kept

/-- The chains of a route with 1, 2, … up to `maxLevel` hops; a length that the search did not come to
has none. -/
def chains (maxLevel : Nat) : List (List Chain) :=
  let found := registry.search route maxLevel [[]]
  found ++ List.replicate (maxLevel - found.length) []

end Registry

end ScopedSearch
