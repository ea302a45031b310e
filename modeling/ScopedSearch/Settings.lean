import ScopedSearch.Field
import ScopedSearch.Link.Address
import ScopedSearch.Settings.Path

/-!
# Settings

What can be configured: whether the generated terms are part of the registry, a file with further
terms, whether levels above a declared bound are lowered to it, the host of the search service, and
what is logged where.
-/

namespace ScopedSearch

/-- The settings of the search. -/
structure Settings where
  includeGenerated : Bool := true
  extraTerms : Option Path := none
  clampLevels : Bool := true
  searchHost : String := defaultHost
  logLevel : Option String := none
  logDirectory : Option Path := none
  deriving DecidableEq, Repr

/-- What a setting is about. -/
inductive Setting where
  | includeGenerated
  | extraTerms
  | clampLevels
  | searchHost
  | logLevel
  | logDirectory
  deriving DecidableEq, Repr

namespace Setting

def all : List Setting :=
  [includeGenerated, extraTerms, clampLevels, searchHost, logLevel, logDirectory]

def key : Setting → String
  | includeGenerated => "include_generated_terms"
  | extraTerms => "extra_terms_path"
  | clampLevels => "clamp_related_levels"
  | searchHost => "search_uri_host"
  | logLevel => "log_level"
  | logDirectory => "log_dir"

def variableName : Setting → String
  | includeGenerated => "LUX_QUERY_INCLUDE_GENERATED"
  | extraTerms => "LUX_QUERY_EXTRA_TERMS"
  | clampLevels => "LUX_QUERY_CLAMP_LEVELS"
  | searchHost => "SEARCH_URI_HOST"
  | logLevel => "LUX_QUERY_LOG_LEVEL"
  | logDirectory => "LUX_QUERY_LOG_DIR"

def isPath : Setting → Bool
  | extraTerms | logDirectory => true
  | _ => false

end Setting

def Field.path : List PathStep → Value → Checked Path
  | _, .string text => .ok (.parse text)
  | path, _ => .fault .notPath path

namespace Settings

/-- A field of the settings, or its default. -/
def field {α : Type} (entries : Entries String Value) (setting : Setting) (default : α)
    (read : List PathStep → Value → Checked α) : Checked α :=
  Field.optional entries [setting.key] default read

def ofEntries (entries : Entries String Value) : Checked Settings :=
  let defaults : Settings := {}
  (((((((Checked.ok Settings.mk).ap
    (field entries .includeGenerated defaults.includeGenerated Field.truth)).ap
    (field entries .extraTerms defaults.extraTerms (Field.nullable Field.path))).ap
    (field entries .clampLevels defaults.clampLevels Field.truth)).ap
    (field entries .searchHost defaults.searchHost Field.text)).ap
    (field entries .logLevel defaults.logLevel (Field.nullable Field.text))).ap
    (field entries .logDirectory defaults.logDirectory (Field.nullable Field.path)))

def ofValue : Value → Checked Settings
  | .map entries => ofEntries entries
  | _ => .fault (.notRecord "QuerySettings") []

end Settings

end ScopedSearch
