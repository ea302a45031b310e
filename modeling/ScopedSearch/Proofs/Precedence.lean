import ScopedSearch.Proofs.JsonText
import ScopedSearch.Settings.Loader

/-!
# Where settings come from

A loader reads the settings file in its first call that returns; every later call returns what that call
returned and changes nothing (`Loader.calls_of_loaded`). Each setting is taken from the first of three
sources that says something about it (`Settings.Takes`): its environment variable, the file, its
default. The settings are exactly what the six of them take (`Loader.settings_eq_ok_iff`), so that what
the file says about a setting is never looked at when the environment decides it
(`Loader.settings_congr`). A file that holds no object is as good as none. A call fails where the path
of the file is too long for the system, and leaves a loader that the next call may still load
(`Loader.later_call_loads`).
-/

namespace ScopedSearch

open ScopedSearch.Text

/-- How a name in a directory of the working directory is written. -/
theorem Path.text_child (name other : String) :
    ((⟨.relative, [name]⟩ : Path).child other).text = name ++ ("/" ++ other) := by
  simp [Path.text, Path.child, PathRoot.text, String.intercalate_cons_cons, String.append_assoc]

/-- A first name that is too long makes a path too long. -/
theorem FileTree.find_eq_tooLong {tree : FileTree} {path : Path} {name : String} {rest : List String}
    (hparts : path.parts = name :: rest) (hpath : path.fault? = none)
    (hstart : tree.entryAt (tree.start path) = some .directory) (hname : nameTooLong name = true) :
    tree.find path = .error .tooLong := by
  rw [find, hpath, hparts]
  simp only [follow, hstart, ne_eq, not_true_eq_false, if_false, hname, if_true]
  rfl

/-! ### Calls -/

namespace Loader

/-- A call of a loader: what is around it, and the directory that it is given. -/
structure Call where
  surroundings : Surroundings
  given : Option Path := none

/-- The path of the settings file that a call looks for. -/
def Call.path (call : Call) : Path := (directory call.surroundings call.given).child fileName

/-- The entries of the settings file that a call finds. -/
def Call.Finds (call : Call) (entries : Entries String Value) : Prop :=
  ∃ content, call.surroundings.files.find call.path = .ok (.text content) ∧
    Json.read content = .ok (.map entries)

/-- The loader after a call, and what the call returns: whether there is a settings file. A call that
fails leaves the loader as it was. -/
def call (loader : Loader) (call : Call) : Loader × Except Error Bool :=
  match (loader.load call.surroundings call.given).outcome with
  | .ok next => (next, .ok next.file.isSome)
  | .error error => (loader, .error error)

/-- The loader after several calls, and what each of them returns. -/
def calls (loader : Loader) : List Call → Loader × List (Except Error Bool)
  | [] => (loader, [])
  | first :: rest =>
    let next := loader.call first
    let last := next.1.calls rest
    (last.1, next.2 :: last.2)

variable {loader : Loader} {first : Call}

/-- A loader that has loaded does nothing more. -/
theorem call_of_loaded (h : loader.loaded = true) (call : Call) :
    loader.call call = (loader, .ok loader.file.isSome) := by
  rw [Loader.call, load, if_pos h]
  rfl

theorem calls_of_loaded (h : loader.loaded = true) (rest : List Call) :
    loader.calls rest = (loader, rest.map fun _ => .ok loader.file.isSome) := by
  induction rest with
  | nil => rfl
  | cons next rest ih => rw [calls, call_of_loaded h, ih, List.map_cons]

/-- A new loader looks for the file. -/
theorem call_new (call : Call) :
    ({} : Loader).call call =
      match (loadFile call.surroundings (directory call.surroundings call.given)).outcome with
      | .ok file => (⟨true, file⟩, .ok file.isSome)
      | .error error => ({}, .error error) := by
  rw [Loader.call, load, if_neg Bool.false_ne_true, Traced.bind_outcome]
  cases (loadFile call.surroundings (directory call.surroundings call.given)).outcome <;> rfl

theorem loaded_of_call {next : Loader} {found : Bool}
    (h : ({} : Loader).call first = (next, .ok found)) :
    next.loaded = true ∧ next.file.isSome = found := by
  rw [call_new] at h
  split at h
  · cases h
    exact ⟨rfl, rfl⟩
  · cases h

/-- Once the first call has returned, the others return the same and change nothing. -/
theorem calls_of_call {next : Loader} {found : Bool}
    (h : ({} : Loader).call first = (next, .ok found)) (rest : List Call) :
    ({} : Loader).calls (first :: rest) = (next, (first :: rest).map fun _ => .ok found) := by
  obtain ⟨hloaded, hfound⟩ := loaded_of_call h
  rw [calls, h, calls_of_loaded hloaded rest, hfound, List.map_cons]

/-! ### What a call finds -/

theorem readEntries_eq_ok_iff {entry : FileEntry} {entries : Entries String Value} :
    readEntries entry = .ok entries ↔
      ∃ content, entry = .text content ∧ Json.read content = .ok (.map entries) := by
  constructor
  · intro h
    unfold readEntries at h
    split at h
    · cases h
    · next content =>
      split at h <;> cases h
      next hread => exact ⟨content, rfl, hread⟩
  · rintro ⟨content, rfl, hread⟩
    simp only [readEntries, hread]

/-- A file that holds what is written for an object has the object in it. -/
theorem finds_of_written {entries : Entries String Value} {content : String}
    (hjson : (Value.map entries).IsJson (some Numeral.digitLimit))
    (hwritten : Json.write (.map entries) = .ok content)
    (hfind : first.surroundings.files.find first.path = .ok (.text content)) :
    first.Finds entries := by
  obtain ⟨text, htext, hread⟩ := Json.readWithin_write (le_refl _) hjson
  rw [hwritten, Except.ok.injEq] at htext
  rw [← htext] at hread
  exact ⟨content, hfind, hread⟩

/-- A file with an object in it is taken. -/
theorem call_of_finds {entries : Entries String Value} (h : first.Finds entries) :
    ({} : Loader).call first = (⟨true, some ⟨first.path, entries⟩⟩, .ok true) := by
  obtain ⟨content, hfind, hread⟩ := h
  have hentries := readEntries_eq_ok_iff.2 ⟨content, rfl, hread⟩
  rw [Call.path] at hfind
  rw [call_new]
  simp only [loadFile, hfind, hentries]
  rfl

/-- Without an object to take there is no file, as long as the path of it is not too long. -/
theorem call_of_not_finds (hnot : ∀ entries, ¬ first.Finds entries)
    (hpath : first.surroundings.files.find first.path ≠ .error .tooLong) :
    ({} : Loader).call first = (⟨true, none⟩, .ok false) := by
  rw [call_new]
  cases hfind : first.surroundings.files.find first.path with
  | error fault =>
    rw [hfind] at hpath
    rw [Call.path] at hfind
    cases fault with
    | tooLong => exact absurd rfl hpath
    | missing | zeroCharacter | loneSurrogate =>
      simp only [loadFile, hfind]
      rfl
  | ok entry =>
    cases hentries : readEntries entry with
    | ok entries =>
      obtain ⟨content, rfl, hread⟩ := readEntries_eq_ok_iff.1 hentries
      exact absurd ⟨content, hfind, hread⟩ (hnot entries)
    | error fault =>
      rw [Call.path] at hfind
      simp only [loadFile, hfind, hentries]
      rfl

/-- Where the path of the file is too long the call fails, and the loader has not loaded. -/
theorem call_of_tooLong (h : first.surroundings.files.find first.path = .error .tooLong) :
    ({} : Loader).call first = ({}, .error (.misuse .pathTooLong)) := by
  rw [Call.path] at h
  rw [call_new]
  simp only [loadFile, h]
  rfl

end Loader

/-! ### Three sources -/

/-- The environment decides a setting: its variable is set, and not to the empty text. -/
def Surroundings.Decides (surroundings : Surroundings) (setting : Setting) (text : String) : Prop :=
  surroundings.environment.get? setting.variableName = some text ∧ text ≠ ""

/-- The file says something about a setting: its key is there with a value other than null, which is
taken from where the file is if the setting is a path. -/
def SettingsFile.Says (file : SettingsFile) (setting : Setting) (value : Value) : Prop :=
  ∃ written, file.entries.get? setting.key = some written ∧ written ≠ .null ∧
    if setting.isPath then Loader.anchor file written = .ok value else written = value

namespace Settings

variable {α : Type} {read : List PathStep → Value → Checked α} {default result : α}
  {surroundings : Surroundings} {file : Option SettingsFile} {setting : Setting}

/-- What a setting comes to: what its environment variable is read as, else what the file says is read
as, else its default. -/
inductive Takes (surroundings : Surroundings) (file : Option SettingsFile) (setting : Setting)
    (read : List PathStep → Value → Checked α) (default : α) : α → Prop
  | environment {text : String} {result : α} : surroundings.Decides setting text →
    read [.field setting.key] (.string text) = .ok result →
      Takes surroundings file setting read default result
  | file {source : SettingsFile} {value : Value} {result : α} :
    (∀ text, ¬ surroundings.Decides setting text) → file = some source → source.Says setting value →
      read [.field setting.key] value = .ok result →
        Takes surroundings file setting read default result
  | default : (∀ text, ¬ surroundings.Decides setting text) →
    (∀ source ∈ file, ∀ written, source.entries.get? setting.key = some written → written = .null) →
      Takes surroundings file setting read default default

/-- The settings are what the six of them come to. -/
structure TakenFrom (surroundings : Surroundings) (file : Option SettingsFile)
    (settings : Settings) : Prop where
  includeGenerated :
    Takes surroundings file .includeGenerated Field.truth true settings.includeGenerated
  extraTerms :
    Takes surroundings file .extraTerms (Field.nullable Field.path) none settings.extraTerms
  clampLevels : Takes surroundings file .clampLevels Field.truth true settings.clampLevels
  searchHost : Takes surroundings file .searchHost Field.text defaultHost settings.searchHost
  logLevel : Takes surroundings file .logLevel (Field.nullable Field.text) none settings.logLevel
  logDirectory :
    Takes surroundings file .logDirectory (Field.nullable Field.path) none settings.logDirectory

end Settings

namespace Surroundings

variable {surroundings : Surroundings} {setting : Setting}

theorem fromEnvironment?_eq_some_iff {text : String} :
    surroundings.fromEnvironment? setting.variableName = some text ↔
      surroundings.Decides setting text := by
  unfold fromEnvironment? Decides
  split
  · next h => simp [h]
  · next h => grind
  · next value hne h =>
    have hempty : value ≠ "" := fun heq => hne (heq ▸ rfl)
    grind

theorem fromEnvironment?_eq_none_iff :
    surroundings.fromEnvironment? setting.variableName = none ↔
      ∀ text, ¬ surroundings.Decides setting text := by
  rw [Option.eq_none_iff_forall_ne_some]
  exact forall_congr' fun text => not_congr fromEnvironment?_eq_some_iff

end Surroundings

namespace Loader

variable {α : Type} {read : List PathStep → Value → Checked α} {default result : α}
  {surroundings : Surroundings} {loader : Loader} {setting : Setting}

/-- The value of a file for a setting is what the file says. -/
theorem fileValue_eq_some_iff {value : Value} :
    loader.fileValue setting = .ok (some value) ↔
      ∃ source, loader.file = some source ∧ source.Says setting value := by
  unfold fileValue SettingsFile.Says
  cases hfile : loader.file with
  | none => simp
  | some source =>
    simp only [Option.some.injEq, exists_eq_left']
    cases hwritten : source.entries.get? setting.key with
    | none => simp
    | some written =>
      cases written with
      | null => simp
      | _ =>
        simp only [Option.some.injEq, exists_eq_left', ne_eq, reduceCtorEq, not_false_eq_true,
          true_and]
        cases setting.isPath
        · simp
        · simp [map_eq_ok_iff]

theorem fileValue_eq_none_iff :
    loader.fileValue setting = .ok none ↔
      ∀ source ∈ loader.file, ∀ written, source.entries.get? setting.key = some written →
        written = .null := by
  unfold fileValue
  cases hfile : loader.file with
  | none => simp
  | some source =>
    simp only [Option.mem_some_iff, forall_eq']
    cases hwritten : source.entries.get? setting.key with
    | none => simp
    | some written =>
      cases written with
      | null => simp
      | _ =>
        cases setting.isPath
        · simp
        · simp [map_eq_ok_iff]

/-- What is read of a setting, or its default where nothing is said about it. -/
def readOr (setting : Setting) (default : α) (read : List PathStep → Value → Checked α) :
    Option Value → Checked α
  | some value => read [.field setting.key] value
  | none => .ok default

/-- A setting comes to what is read of what is said about it. -/
theorem takes_iff :
    Settings.Takes surroundings loader.file setting read default result ↔
      ∃ found, loader.resolve surroundings setting = .ok found ∧
        readOr setting default read found = .ok result := by
  unfold resolve
  constructor
  · intro h
    cases h with
    | environment hdecides hread =>
      rw [Surroundings.fromEnvironment?_eq_some_iff.2 hdecides]
      exact ⟨_, rfl, hread⟩
    | file hnot hfile hsays hread =>
      rw [Surroundings.fromEnvironment?_eq_none_iff.2 hnot]
      exact ⟨_, fileValue_eq_some_iff.2 ⟨_, hfile, hsays⟩, hread⟩
    | default hnot hsilent =>
      rw [Surroundings.fromEnvironment?_eq_none_iff.2 hnot]
      exact ⟨_, fileValue_eq_none_iff.2 hsilent, rfl⟩
  · rintro ⟨found, hfound, hread⟩
    split at hfound
    · next text hdecides =>
      cases hfound
      exact .environment (Surroundings.fromEnvironment?_eq_some_iff.1 hdecides) hread
    · next hnot =>
      rw [Surroundings.fromEnvironment?_eq_none_iff] at hnot
      cases found with
      | some value =>
        obtain ⟨source, hfile, hsays⟩ := fileValue_eq_some_iff.1 hfound
        exact .file hnot hfile hsays hread
      | none =>
        cases hread
        exact .default hnot (fileValue_eq_none_iff.1 hfound)

/-! ### All settings -/

/-- What is said about a setting, nothing where that is an error. -/
def said (loader : Loader) (surroundings : Surroundings) (setting : Setting) : Option Value :=
  (loader.resolve surroundings setting).toOption.join

theorem said_eq {found : Option Value} (h : loader.resolve surroundings setting = .ok found) :
    loader.said surroundings setting = found := by
  rw [said, h]
  rfl

/-- The settings that something is said about, with what is said. -/
def entriesOf (said : Setting → Option Value) (settings : List Setting) : Entries String Value :=
  settings.flatMap fun setting => ((said setting).map fun value => (setting.key, value)).toList

theorem entriesOf_cons (said : Setting → Option Value) (first : Setting) (rest : List Setting) :
    entriesOf said (first :: rest) =
      ((said first).map fun value => (first.key, value)).toList ++ entriesOf said rest := rfl

theorem get?_entriesOf (said : Setting → Option Value) (setting : Setting) :
    (entriesOf said Setting.all).get? setting.key = said setting := by
  have hentry (name key : String) (found : Option Value) :
      Entries.get? (found.map fun value => (name, value)).toList key =
        if name = key then found else none := by
    cases found <;> simp [Entries.get?_cons]
  cases setting <;> simp [entriesOf, Setting.all, hentry, Setting.key]

theorem resolveAll_eq_ok_iff {settings : List Setting} {entries : Entries String Value} :
    loader.resolveAll surroundings settings = .ok entries ↔
      (∀ setting ∈ settings, ∃ found, loader.resolve surroundings setting = .ok found) ∧
        entriesOf (loader.said surroundings) settings = entries := by
  induction settings generalizing entries with
  | nil => simp [resolveAll, entriesOf]
  | cons first rest ih =>
    rw [resolveAll, List.forall_mem_cons]
    constructor
    · intro h
      obtain ⟨found, hfound, h⟩ := bind_eq_ok_iff.1 h
      obtain ⟨others, hothers, h⟩ := bind_eq_ok_iff.1 h
      cases h
      obtain ⟨hrest, hentries⟩ := ih.1 hothers
      refine ⟨⟨⟨found, hfound⟩, hrest⟩, ?_⟩
      rw [entriesOf_cons, said_eq hfound, hentries]
    · rintro ⟨⟨⟨found, hfound⟩, hrest⟩, rfl⟩
      have hothers := ih.2 ⟨hrest, rfl⟩
      rw [hfound, hothers, entriesOf_cons, said_eq hfound]
      rfl

theorem field_eq (entries : Entries String Value) (setting : Setting) (default : α)
    (read : List PathStep → Value → Checked α) :
    Settings.field entries setting default read =
      readOr setting default read (entries.get? setting.key) := by
  rw [Settings.field, Field.optional, Field.find?]
  cases entries.get? setting.key <;> rfl

/-- Settings are read field by field. -/
theorem ofEntries_eq_ok_iff {entries : Entries String Value} {settings : Settings} :
    Settings.ofEntries entries = .ok settings ↔
      Settings.field entries .includeGenerated true Field.truth = .ok settings.includeGenerated ∧
      Settings.field entries .extraTerms none (Field.nullable Field.path) =
        .ok settings.extraTerms ∧
      Settings.field entries .clampLevels true Field.truth = .ok settings.clampLevels ∧
      Settings.field entries .searchHost defaultHost Field.text = .ok settings.searchHost ∧
      Settings.field entries .logLevel none (Field.nullable Field.text) = .ok settings.logLevel ∧
      Settings.field entries .logDirectory none (Field.nullable Field.path) =
        .ok settings.logDirectory := by
  unfold Settings.ofEntries
  constructor
  · intro h
    simp only [Checked.ap_eq_ok_iff] at h
    obtain ⟨_, _, ⟨_, _, ⟨_, _, ⟨_, _, ⟨_, _, ⟨_, _, hmk, h1, rfl⟩, h2, rfl⟩, h3, rfl⟩, h4, rfl⟩, h5,
      rfl⟩, h6, rfl⟩ := h
    cases hmk
    exact ⟨h1, h2, h3, h4, h5, h6⟩
  · rintro ⟨h1, h2, h3, h4, h5, h6⟩
    simp only [h1, h2, h3, h4, h5, h6]
    rfl

/-- The value of a field that is read from what is said. -/
theorem field_entriesOf (default : α) (read : List PathStep → Value → Checked α) :
    Settings.field (entriesOf (loader.said surroundings) Setting.all) setting default read =
      readOr setting default read (loader.said surroundings setting) := by
  rw [field_eq, get?_entriesOf]

theorem takes_iff_said :
    Settings.Takes surroundings loader.file setting read default result ↔
      (∃ found, loader.resolve surroundings setting = .ok found) ∧
        readOr setting default read (loader.said surroundings setting) = .ok result := by
  rw [takes_iff]
  constructor
  · rintro ⟨found, hfound, hread⟩
    exact ⟨⟨found, hfound⟩, by rw [said_eq hfound]; exact hread⟩
  · rintro ⟨⟨found, hfound⟩, hread⟩
    rw [said_eq hfound] at hread
    exact ⟨found, hfound, hread⟩

/-- Settings are read of what is said about each of them, which may not be an error. -/
theorem settings_eq_ok_iff_said {settings : Settings} :
    loader.settings surroundings = .ok settings ↔
      (∀ setting ∈ Setting.all, ∃ found, loader.resolve surroundings setting = .ok found) ∧
        Settings.ofEntries (entriesOf (loader.said surroundings) Setting.all) = .ok settings := by
  rw [Loader.settings, bind_eq_ok_iff]
  simp only [resolveAll_eq_ok_iff]
  constructor
  · rintro ⟨_, ⟨hresolved, rfl⟩, h⟩
    split at h
    · next hentries =>
      cases h
      exact ⟨hresolved, hentries⟩
    · cases h
  · rintro ⟨hresolved, hentries⟩
    exact ⟨_, ⟨hresolved, rfl⟩, by rw [hentries]; rfl⟩

/-- There are settings exactly if each of the six comes to one. -/
theorem settings_eq_ok_iff {settings : Settings} :
    loader.settings surroundings = .ok settings ↔ settings.TakenFrom surroundings loader.file := by
  rw [settings_eq_ok_iff_said, ofEntries_eq_ok_iff]
  simp only [field_entriesOf]
  constructor
  · rintro ⟨hresolved, h1, h2, h3, h4, h5, h6⟩
    have hfound (setting : Setting) : ∃ found, loader.resolve surroundings setting = .ok found :=
      hresolved setting (by cases setting <;> decide)
    exact ⟨takes_iff_said.2 ⟨hfound _, h1⟩, takes_iff_said.2 ⟨hfound _, h2⟩,
      takes_iff_said.2 ⟨hfound _, h3⟩, takes_iff_said.2 ⟨hfound _, h4⟩,
      takes_iff_said.2 ⟨hfound _, h5⟩, takes_iff_said.2 ⟨hfound _, h6⟩⟩
  · intro h
    obtain ⟨hfound1, h1⟩ := takes_iff_said.1 h.includeGenerated
    obtain ⟨hfound2, h2⟩ := takes_iff_said.1 h.extraTerms
    obtain ⟨hfound3, h3⟩ := takes_iff_said.1 h.clampLevels
    obtain ⟨hfound4, h4⟩ := takes_iff_said.1 h.searchHost
    obtain ⟨hfound5, h5⟩ := takes_iff_said.1 h.logLevel
    obtain ⟨hfound6, h6⟩ := takes_iff_said.1 h.logDirectory
    refine ⟨fun setting _ => ?_, h1, h2, h3, h4, h5, h6⟩
    cases setting with
    | includeGenerated => exact hfound1
    | extraTerms => exact hfound2
    | clampLevels => exact hfound3
    | searchHost => exact hfound4
    | logLevel => exact hfound5
    | logDirectory => exact hfound6

/-! ### What the environment decides -/

theorem resolveAll_congr {other : Loader}
    (h : ∀ setting, loader.resolve surroundings setting = other.resolve surroundings setting)
    (settings : List Setting) :
    loader.resolveAll surroundings settings = other.resolveAll surroundings settings := by
  induction settings with
  | nil => rfl
  | cons first rest ih => rw [resolveAll, resolveAll, h, ih]

/-- What a file says about a setting that the environment decides plays no part, whether there are
settings or an error. -/
theorem settings_congr {path : Path} {entries other : Entries String Value}
    (h : ∀ setting, (∀ text, ¬ surroundings.Decides setting text) →
      entries.get? setting.key = other.get? setting.key) (loaded : Bool) :
    settings ⟨loaded, some ⟨path, entries⟩⟩ surroundings =
      settings ⟨loaded, some ⟨path, other⟩⟩ surroundings := by
  have hresolve : ∀ setting, resolve ⟨loaded, some ⟨path, entries⟩⟩ surroundings setting =
      resolve ⟨loaded, some ⟨path, other⟩⟩ surroundings setting := by
    intro setting
    unfold resolve
    cases hset : surroundings.fromEnvironment? setting.variableName with
    | some text => rfl
    | none =>
      have hkey := h setting (Surroundings.fromEnvironment?_eq_none_iff.1 hset)
      simp only [fileValue, hkey]
      rfl
  rw [settings, settings, resolveAll_congr hresolve]
  rfl

/-- Without a file, settings come from the environment alone. -/
theorem settings_of_no_file (h : loader.file = none) :
    loader.settings surroundings = ({} : Loader).settings surroundings := by
  have hresolve : ∀ setting, loader.resolve surroundings setting =
      ({} : Loader).resolve surroundings setting := by
    intro setting
    simp only [resolve, fileValue, h]
  rw [settings, settings, resolveAll_congr hresolve, source, source, h]

/-! ### Loading once, and the order of the sources -/

/-- How the first call of a loader ends: it takes the file, or finds none that can be taken, or fails for
the path of the file. -/
inductive Begins (first : Call) : Loader × Except Error Bool → Prop
  | file {entries : Entries String Value} : first.Finds entries →
    Begins first (⟨true, some ⟨first.path, entries⟩⟩, .ok true)
  | noFile : (∀ entries, ¬ first.Finds entries) →
    first.surroundings.files.find first.path ≠ .error .tooLong →
      Begins first (⟨true, none⟩, .ok false)
  | tooLong : first.surroundings.files.find first.path = .error .tooLong →
    Begins first ({}, .error (.misuse .pathTooLong))

theorem begins_call (first : Call) : Begins first (({} : Loader).call first) := by
  by_cases hpath : first.surroundings.files.find first.path = .error .tooLong
  · rw [call_of_tooLong hpath]
    exact .tooLong hpath
  · by_cases hfinds : ∃ entries, first.Finds entries
    · obtain ⟨entries, hfinds⟩ := hfinds
      rw [call_of_finds hfinds]
      exact .file hfinds
    · rw [not_exists] at hfinds
      rw [call_of_not_finds hfinds hpath]
      exact .noFile hfinds hpath

/-- Where no file is taken the loader is left without one, even if the call fails. -/
theorem file_of_not_finds {first : Call} (h : ∀ entries, ¬ first.Finds entries) :
    (({} : Loader).call first).1.file = none := by
  have hbegins := begins_call first
  generalize ({} : Loader).call first = ended at hbegins ⊢
  cases hbegins with
  | file hfinds => exact absurd hfinds (h _)
  | noFile _ _ => rfl
  | tooLong _ => rfl

/-- What a loader does once its first call returns, and what settings it then gives. The first call took
the file with an object in it or found none, and every later call returns the same and changes nothing.
The settings are what the six of them come to, each by the environment, else by the file, else by its
default; what the file says about a setting that the environment decides plays no part in the outcome;
and a file that holds no object leaves the settings of no file. -/
theorem loads_once_and_takes_in_order {first : Call} {next : Loader} {found : Bool}
    (h : ({} : Loader).call first = (next, .ok found)) :
    Begins first (next, .ok found) ∧
    (∀ rest : List Call,
      ({} : Loader).calls (first :: rest) = (next, (first :: rest).map fun _ => .ok found)) ∧
    (∀ (loader : Loader) (surroundings : Surroundings) (settings : Settings),
      loader.settings surroundings = .ok settings ↔
        settings.TakenFrom surroundings loader.file) ∧
    (∀ (surroundings : Surroundings) (path : Path) (entries other : Entries String Value),
      (∀ setting, (∀ text, ¬ surroundings.Decides setting text) →
        entries.get? setting.key = other.get? setting.key) →
      ∀ loaded, settings ⟨loaded, some ⟨path, entries⟩⟩ surroundings =
        settings ⟨loaded, some ⟨path, other⟩⟩ surroundings) ∧
    ((∀ entries, ¬ first.Finds entries) → ∀ surroundings,
      next.settings surroundings = ({} : Loader).settings surroundings) := by
  refine ⟨h ▸ begins_call first, calls_of_call h, fun loader surroundings settings =>
    settings_eq_ok_iff, fun surroundings path entries other hagree => settings_congr hagree,
    fun hnot surroundings => settings_of_no_file ?_⟩
  have hfile := file_of_not_finds hnot
  rw [h] at hfile
  exact hfile

/-! ### A file and a name that is too long -/

/-- What a settings file says about the log. -/
def loggedEntries : Entries String Value :=
  [("log_level", .string "INFO"), ("log_dir", .string "logs")]

def loggedContent : String := "\x7b\"log_level\":\"INFO\",\"log_dir\":\"logs\"\x7d"

/-- That file, and the level of the log in the environment. -/
def loggedSurroundings : Surroundings where
  files :=
    { base := ["srv"]
      entries := [(Path.place ["srv", fileName], .text loggedContent)] }
  environment := [("LUX_QUERY_LOG_LEVEL", "DEBUG")]

/-- The level is that of the environment, and the directory that of the file, which it is beside. -/
def loggedSettings : Settings where
  logLevel := some "DEBUG"
  logDirectory := some ⟨.slash, ["srv", "logs"]⟩

theorem loggedSettings_taken :
    Loader.settings ⟨true, some ⟨⟨.slash, ["srv", fileName]⟩, loggedEntries⟩⟩ loggedSurroundings =
      .ok loggedSettings := by
  rfl

theorem loggedEntries_isJson : (Value.map loggedEntries).IsJson (some Numeral.digitLimit) := by
  have hkeys : ∀ entry ∈ loggedEntries, ∃ key, entry.1 = keep key := by
    simp only [loggedEntries, List.forall_mem_cons]
    exact ⟨⟨"log_level", rfl⟩, ⟨"log_dir", rfl⟩, List.forall_mem_nil _⟩
  have hvalues : ∀ entry ∈ loggedEntries, entry.2.IsJson (some Numeral.digitLimit) := by
    simp only [loggedEntries, List.forall_mem_cons]
    exact ⟨.string "INFO", .string "logs", List.forall_mem_nil _⟩
  exact .map (by decide) hkeys hvalues

/-- The file holds what is written for its entries. -/
theorem loggedSurroundings_finds : Call.Finds ⟨loggedSurroundings, none⟩ loggedEntries :=
  finds_of_written loggedEntries_isJson (rfl : _ = Except.ok loggedContent) rfl

theorem loggedSurroundings_etc :
    loggedSurroundings.files.find (Call.path ⟨loggedSurroundings, some ⟨.slash, ["etc"]⟩⟩) =
      .error .missing := by
  rfl

/-- The file is taken and a later call with another directory changes nothing. The environment decides
the level, so that a level in the file that is no text does no harm; the directory is the one that the
file names, beside it. A directory without a file leaves the settings of no file. -/
theorem loggedSurroundings_settings :
    let here : Call := ⟨loggedSurroundings, none⟩
    let elsewhere : Call := ⟨loggedSurroundings, some ⟨.slash, ["etc"]⟩⟩
    let file : SettingsFile := ⟨here.path, loggedEntries⟩
    ({} : Loader).call here = (⟨true, some file⟩, .ok true) ∧
      ({} : Loader).calls [here, elsewhere] = (⟨true, some file⟩, [.ok true, .ok true]) ∧
      Loader.settings ⟨true, some file⟩ loggedSurroundings = .ok loggedSettings ∧
      loggedSettings.TakenFrom loggedSurroundings (some file) ∧
      Loader.settings ⟨true, some ⟨here.path, [("log_level", .int 10), ("log_dir", .string "logs")]⟩⟩
        loggedSurroundings = .ok loggedSettings ∧
      (∀ entries, ¬ elsewhere.Finds entries) ∧
      ({} : Loader).call elsewhere = (⟨true, none⟩, .ok false) ∧
      Loader.settings ⟨true, none⟩ loggedSurroundings =
        ({} : Loader).settings loggedSurroundings := by
  intro here elsewhere file
  have hcall := call_of_finds loggedSurroundings_finds
  obtain ⟨-, honce, htaken, hcongr, -⟩ := loads_once_and_takes_in_order hcall
  have hsettings : Loader.settings ⟨true, some file⟩ loggedSurroundings = .ok loggedSettings :=
    loggedSettings_taken
  have hagree : ∀ setting, (∀ text, ¬ loggedSurroundings.Decides setting text) →
      file.entries.get? setting.key =
        Entries.get? [("log_level", .int 10), ("log_dir", .string "logs")] setting.key := by
    intro setting hnot
    cases setting with
    | logLevel => exact absurd ⟨rfl, by decide⟩ (hnot "DEBUG")
    | _ => rfl
  have hmissing : ∀ entries, ¬ elsewhere.Finds entries := by
    rintro entries ⟨content, hfound, -⟩
    cases loggedSurroundings_etc.symm.trans hfound
  have helsewhere : ({} : Loader).call elsewhere = (⟨true, none⟩, .ok false) := by
    refine call_of_not_finds hmissing fun htooLong => ?_
    cases loggedSurroundings_etc.symm.trans htooLong
  obtain ⟨-, -, -, -, hnone⟩ := loads_once_and_takes_in_order helsewhere
  exact ⟨hcall, honce [elsewhere], hsettings, (htaken _ _ _).1 hsettings,
    (hcongr _ _ _ _ hagree true).symm.trans hsettings, hmissing, helsewhere,
    hnone hmissing loggedSurroundings⟩

/-- A name of one byte more than the system takes. -/
def longName : String := String.ofList (List.replicate 256 'n')

theorem longName_tooLong : FileTree.nameTooLong longName = true := by
  unfold FileTree.nameTooLong Path.bytes longName
  simp only [String.toList_ofList]
  decide +kernel

/-- A path with that name in it is not too long as a whole. -/
theorem longName_path_fault : ((⟨.relative, [longName]⟩ : Path).child fileName).fault? = none := by
  unfold Path.fault? Path.bytes longName
  simp only [Path.text_child, String.toList_append, String.toList_ofList]
  decide +kernel

/-- After a call that fails for the name of its directory, the next one still loads the file. -/
theorem later_call_loads :
    let first : Call := ⟨loggedSurroundings, some ⟨.relative, [longName]⟩⟩
    let second : Call := ⟨loggedSurroundings, none⟩
    (({} : Loader).calls [first, second]).1 ≠ (({} : Loader).call first).1 ∧
      (({} : Loader).calls [first, second]).2 = [.error (.misuse .pathTooLong), .ok true] := by
  intro first second
  have hpath : first.surroundings.files.find first.path = .error .tooLong :=
    FileTree.find_eq_tooLong rfl longName_path_fault (by decide +kernel) longName_tooLong
  have hcalls : ({} : Loader).calls [first, second] =
      (⟨true, some ⟨second.path, loggedEntries⟩⟩, [.error (.misuse .pathTooLong), .ok true]) := by
    rw [calls, call_of_tooLong hpath, calls, call_of_finds loggedSurroundings_finds]
    rfl
  rw [hcalls, call_of_tooLong hpath]
  exact ⟨by simp, rfl⟩

end Loader

end ScopedSearch
