import ScopedSearch.Error

/-!
# Events

What happens on the way to a result and is worth a line in the log. An operation returns its events
beside its outcome (`Traced`); an outcome that is an error keeps the events before it.
-/

namespace ScopedSearch

open ScopedSearch.Text

/-- How much an event matters. -/
inductive Level where
  | debug
  | info
  | warning
  deriving DecidableEq, Repr

def Level.name : Level → String
  | debug => "DEBUG"
  | info => "INFO"
  | warning => "WARNING"

/-- Why a file was not taken as settings. -/
inductive SettingsFault where
  | malformed
  | numeralTooLong
  | notObject
  | directory
  deriving DecidableEq, Repr

/-- The name of a fault in the log. -/
def SettingsFault.name : SettingsFault → String
  | malformed => "JSONDecodeError"
  | numeralTooLong => "ValueError"
  | notObject => "ValueError"
  | directory => "IsADirectoryError"

/-- Something that happened. -/
inductive Event where
  | registryLoaded (scopes terms : Nat)
  | supplementIgnored (term : Term)
  | compiled (term : Term)
  | levelClamped (term : Term) (requested : Int) (allowed : Nat)
  | nothingReached (term : Term) (target : Scope) (level : Nat)
  | labelDerived (key label : String)
  | templateReplaced (name : String)
  | noEstimates (type : Value)
  | settingsLoaded (path : String)
  | settingsRefused (path : String) (fault : SettingsFault)
  | servicesReady (templates : Nat) (host : String)

namespace Event

def level : Event → Level
  | registryLoaded .. | compiled .. | labelDerived .. | templateReplaced .. | noEstimates .. =>
    .debug
  | levelClamped .. | settingsLoaded .. | servicesReady .. => .info
  | supplementIgnored .. | nothingReached .. | settingsRefused .. => .warning

/-- The name of the log that an event goes to. -/
def source : Event → String
  | registryLoaded .. | supplementIgnored .. => "lux_query.schema.scope_schema"
  | compiled .. | levelClamped .. | nothingReached .. => "lux_query.query.compiler"
  | labelDerived .. => "lux_query.relations.resolver"
  | templateReplaced .. => "lux_query.templates.registry"
  | noEstimates .. => "lux_query.templates.estimates"
  | settingsLoaded .. | settingsRefused .. => "lux_query.services.config_loader"
  | servicesReady .. => "lux_query.bootstrap"

/-- The text of an event, unless a number in it has too many digits. Other than the text of an error, it
is put together when the event is logged, and one that cannot be is not logged. -/
def message? : Event → Option String
  | registryLoaded scopes terms =>
    some ("Loaded registry: " ++ toString scopes ++ " scopes, " ++ toString terms ++ " terms")
  | supplementIgnored term =>
    some ("Ignoring supplementary definition of " ++ term.title ++ "; declared entry wins")
  | compiled term => some ("Compiled " ++ term.title ++ " (" ++ term.pattern.name ++ ")")
  | levelClamped term requested allowed => do
    return "Clamping " ++ term.title ++ " from " ++ (← Numeral.text? requested)
      ++ " to declared maxLevel " ++ (← Numeral.text? allowed)
  | nothingReached term target level =>
    some ("Related list " ++ term.title ++ " reaches no " ++ quoted target.name
      ++ " record within " ++ toString level ++ " level(s)")
  | labelDerived key label =>
    some ("No curated label for " ++ quoted key ++ "; derived " ++ quoted label)
  | templateReplaced name => some ("Replacing template " ++ quoted name)
  | noEstimates type => do return "No estimates for record type " ++ (← type.display?)
  | settingsLoaded path => some ("Loaded config from: " ++ path)
  | settingsRefused path .malformed =>
    some ("Invalid JSON in " ++ path ++ ": " ++ SettingsFault.malformed.name)
  | settingsRefused path fault => some ("Error loading " ++ path ++ ": " ++ fault.name)
  | servicesReady templates host =>
    some ("Query services ready: " ++ toString templates ++ " templates, search host " ++ host)

/-- The line of an event in a trace. -/
def traceLine? (event : Event) : Option String :=
  event.message?.map fun text => event.source ++ " - " ++ event.level.name ++ " - " ++ text

/-- The line of an event in a log that leaves out what is only for debugging. -/
def logLine? (event : Event) : Option String :=
  if event.level = .debug then none
  else event.message?.map fun text => event.level.name ++ " " ++ text

end Event

/-- The events of an operation, in order, and its outcome. -/
structure Traced (α : Type) where
  events : List Event
  outcome : Except Error α

namespace Traced

variable {α β : Type}

/-- A result without events. -/
protected def pure (value : α) : Traced α := ⟨[], .ok value⟩

/-- Goes on with the result; after an error nothing more happens. -/
protected def bind (first : Traced α) (next : α → Traced β) : Traced β :=
  match first.outcome with
  | .error error => ⟨first.events, .error error⟩
  | .ok value =>
    let second := next value
    ⟨first.events ++ second.events, second.outcome⟩

instance : Monad Traced where
  pure := Traced.pure
  bind := Traced.bind

def tell (event : Event) : Traced Unit := ⟨[event], .ok ()⟩

def fail (error : Error) : Traced α := ⟨[], .error error⟩

/-- A value that does not fit. -/
def refuse (cause : Invalid) : Traced α := fail (Error.invalid cause).raised

def ofExcept (outcome : Except Error α) : Traced α := ⟨[], outcome⟩

instance : MonadLift (Except Error) Traced := ⟨ofExcept⟩

@[simp] theorem pure_outcome (value : α) : (pure value : Traced α).outcome = .ok value := rfl

@[simp] theorem fail_outcome (error : Error) : (fail error : Traced α).outcome = .error error := rfl

@[simp] theorem refuse_outcome (cause : Invalid) :
    (refuse cause : Traced α).outcome = .error (Error.invalid cause).raised := rfl

@[simp] theorem tell_outcome (event : Event) : (tell event).outcome = .ok () := rfl

@[simp] theorem lift_outcome (outcome : Except Error α) :
    (liftM outcome : Traced α).outcome = outcome := rfl

@[simp] theorem bind_outcome (first : Traced α) (next : α → Traced β) :
    (first >>= next).outcome = first.outcome >>= fun value => (next value).outcome := by
  change (Traced.bind first next).outcome = _
  cases h : first.outcome <;> simp [Traced.bind, h, bind, Except.bind]

/-- After a success comes the next step. -/
theorem ok_bind (value : α) (next : α → Except Error β) : (.ok value >>= next) = next value := rfl

theorem error_bind (error : Error) (next : α → Except Error β) :
    (.error error >>= next) = .error error := rfl

/-- A sequence of two steps succeeds when both do. -/
theorem bind_outcome_eq_ok {first : Traced α} {next : α → Traced β} {value : β} :
    (first >>= next).outcome = .ok value
      ↔ ∃ a, first.outcome = .ok a ∧ (next a).outcome = .ok value := by
  rw [bind_outcome, bind_eq_ok_iff]

/-- A sequence of two steps fails when the first does, or when the second does after it. -/
theorem bind_outcome_eq_error {first : Traced α} {next : α → Traced β} {error : Error} :
    (first >>= next).outcome = .error error
      ↔ first.outcome = .error error ∨
        ∃ a, first.outcome = .ok a ∧ (next a).outcome = .error error := by
  rw [bind_outcome]
  cases first.outcome <;> simp [bind, Except.bind]

end Traced

end ScopedSearch
