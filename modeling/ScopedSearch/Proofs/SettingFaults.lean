import ScopedSearch.Proofs.Precedence

/-!
# How settings fail

Asking for the settings ends in one of three ways (`Loader.Ends`). They are what the sources come to; or
some of what is said cannot be read, and the error has a fault for each such setting, under its key; or a
path setting that the environment leaves open has a value in the file that is neither a text nor as good
as nothing. The error of the last is about no setting, since a path is put together with that of the file
before anything is read (`Loader.anchor`); what is as good as nothing is left as it is, and is read and
refused like any other value. No other error occurs, whatever the file and the environment hold
(`Loader.settings_or_faults_unless_misplaced`).
-/

namespace ScopedSearch

open ScopedSearch.Text

/-! ### Faults of what is checked -/

namespace Checked

variable {α β : Type}

/-- The faults that stand in the way of a result. -/
def faults : Checked α → List FieldFault
  | ok _ => []
  | faulty faults => faults

/-- Without a fault there is a result. -/
def Accounted (checked : Checked α) : Prop :=
  checked.faults = [] → ∃ result, checked = .ok result

theorem accounted_ok (value : α) : (ok value).Accounted := fun _ => ⟨value, rfl⟩

theorem accounted_fault (problem : FieldProblem) (path : List PathStep) :
    (fault problem path : Checked α).Accounted := by
  intro h
  cases h

theorem faults_ap (f : Checked (α → β)) (x : Checked α) :
    (f.ap x).faults = f.faults ++ x.faults := by
  cases f <;> cases x <;> simp [ap, faults]

theorem Accounted.ap {f : Checked (α → β)} {x : Checked α} (hf : f.Accounted) (hx : x.Accounted) :
    (f.ap x).Accounted := by
  intro h
  rw [faults_ap, List.append_eq_nil_iff] at h
  obtain ⟨g, rfl⟩ := hf h.1
  obtain ⟨a, rfl⟩ := hx h.2
  exact ⟨g a, rfl⟩

end Checked

/-! ### Values that a setting refuses -/

namespace Setting

/-- Why a value cannot be read for a setting. -/
inductive Refuses : Setting → Value → FieldProblem → Prop
  | truth {setting : Setting} {value : Value} {problem : FieldProblem} :
    setting = .includeGenerated ∨ setting = .clampLevels →
      Field.truthValue value = .error problem → Refuses setting value problem
  | host {value : Value} : (∀ text, value ≠ .string text) → Refuses .searchHost value .notText
  | level {value : Value} : (∀ text, value ≠ .string text) → value ≠ .null →
    Refuses .logLevel value .notText
  | path {setting : Setting} {value : Value} : setting.isPath = true →
    (∀ text, value ≠ .string text) → value ≠ .null → Refuses setting value .notPath

/-- A reading for a setting: its faults are why the setting refuses the value, and without any there is
a result. -/
structure ReadBy {α : Type} (setting : Setting) (read : List PathStep → Value → Checked α) :
    Prop where
  accounted : ∀ path value, (read path value).Accounted
  mem_faults : ∀ path value fault, fault ∈ (read path value).faults ↔
    ∃ problem, setting.Refuses value problem ∧ fault = ⟨problem, path⟩

variable {setting : Setting} {value : Value} {problem : FieldProblem}

theorem refuses_truth_iff (h : setting = .includeGenerated ∨ setting = .clampLevels) :
    setting.Refuses value problem ↔ Field.truthValue value = .error problem := by
  refine ⟨fun hrefuses => ?_, .truth h⟩
  cases hrefuses with
  | truth _ hvalue => exact hvalue
  | host => simp at h
  | level => simp at h
  | path hpath => rcases h with rfl | rfl <;> cases hpath

theorem refuses_host_iff :
    Setting.Refuses .searchHost value problem ↔
      (∀ text, value ≠ .string text) ∧ problem = .notText := by
  constructor
  · rintro (⟨h, -⟩ | hvalue | _ | hpath)
    · simp at h
    · exact ⟨hvalue, rfl⟩
    · cases hpath
  · rintro ⟨hvalue, rfl⟩
    exact .host hvalue

theorem refuses_level_iff :
    Setting.Refuses .logLevel value problem ↔
      (∀ text, value ≠ .string text) ∧ value ≠ .null ∧ problem = .notText := by
  constructor
  · rintro (⟨h, -⟩ | _ | ⟨hvalue, hnull⟩ | hpath)
    · simp at h
    · exact ⟨hvalue, hnull, rfl⟩
    · cases hpath
  · rintro ⟨hvalue, hnull, rfl⟩
    exact .level hvalue hnull

theorem refuses_path_iff (h : setting.isPath = true) :
    setting.Refuses value problem ↔
      (∀ text, value ≠ .string text) ∧ value ≠ .null ∧ problem = .notPath := by
  constructor
  · rintro (⟨rfl | rfl, -⟩ | _ | _ | ⟨-, hvalue, hnull⟩)
    · cases h
    · cases h
    · cases h
    · cases h
    · exact ⟨hvalue, hnull, rfl⟩
  · rintro ⟨hvalue, hnull, rfl⟩
    exact .path h hvalue hnull

theorem readBy_truth (h : setting = .includeGenerated ∨ setting = .clampLevels) :
    setting.ReadBy Field.truth where
  accounted path value := by
    unfold Field.truth
    cases Field.truthValue value with
    | ok b => exact Checked.accounted_ok b
    | error problem => exact Checked.accounted_fault problem path
  mem_faults path value fault := by
    simp only [refuses_truth_iff h, Field.truth]
    cases Field.truthValue value <;> simp [Checked.faults, Checked.fault]

theorem readBy_host : Setting.ReadBy .searchHost Field.text where
  accounted path value := by
    cases value with
    | string text => exact Checked.accounted_ok text
    | _ => exact Checked.accounted_fault .notText path
  mem_faults path value fault := by
    simp only [refuses_host_iff]
    cases value <;> simp [Field.text, Checked.faults, Checked.fault]

theorem readBy_level : Setting.ReadBy .logLevel (Field.nullable Field.text) where
  accounted path value := by
    cases value with
    | null => exact Checked.accounted_ok none
    | string text => exact Checked.accounted_ok (some text)
    | _ => exact Checked.accounted_fault .notText path
  mem_faults path value fault := by
    simp only [refuses_level_iff]
    cases value <;> simp [Field.nullable, Field.text, Checked.map, Checked.faults, Checked.fault]

theorem readBy_path (h : setting.isPath = true) :
    setting.ReadBy (Field.nullable Field.path) where
  accounted path value := by
    cases value with
    | null => exact Checked.accounted_ok none
    | string text => exact Checked.accounted_ok (some (Path.parse text))
    | _ => exact Checked.accounted_fault .notPath path
  mem_faults path value fault := by
    simp only [refuses_path_iff h]
    cases value <;> simp [Field.nullable, Field.path, Checked.map, Checked.faults, Checked.fault]

end Setting

namespace Settings

variable {α : Type} {read : List PathStep → Value → Checked α} {setting : Setting}
  {entries : Entries String Value} {fault : FieldFault}

/-- The fault tells why a setting refuses what stands under its key. -/
def Faulty (entries : Entries String Value) (setting : Setting) (fault : FieldFault) : Prop :=
  ∃ value problem, entries.get? setting.key = some value ∧ setting.Refuses value problem ∧
    fault = ⟨problem, [.field setting.key]⟩

theorem accounted_field (h : setting.ReadBy read) (default : α) :
    (field entries setting default read).Accounted := by
  rw [Loader.field_eq]
  cases entries.get? setting.key with
  | none => exact Checked.accounted_ok default
  | some value => exact h.accounted _ value

theorem mem_faults_field (h : setting.ReadBy read) (default : α) :
    fault ∈ (field entries setting default read).faults ↔ Faulty entries setting fault := by
  rw [Loader.field_eq, Faulty]
  cases entries.get? setting.key with
  | none => simp [Loader.readOr, Checked.faults]
  | some value => simp [Loader.readOr, h.mem_faults]

theorem accounted_ofEntries (entries : Entries String Value) : (ofEntries entries).Accounted :=
  ((((((Checked.accounted_ok Settings.mk).ap
    (accounted_field (Setting.readBy_truth (.inl rfl)) true)).ap
    (accounted_field (Setting.readBy_path rfl) none)).ap
    (accounted_field (Setting.readBy_truth (.inr rfl)) true)).ap
    (accounted_field Setting.readBy_host defaultHost)).ap
    (accounted_field Setting.readBy_level none)).ap
    (accounted_field (Setting.readBy_path rfl) none)

/-- The faults of all settings. -/
theorem mem_faults_ofEntries :
    fault ∈ (ofEntries entries).faults ↔ ∃ setting, Faulty entries setting fault := by
  unfold ofEntries
  simp only [Checked.faults_ap, List.mem_append,
    mem_faults_field (Setting.readBy_truth (.inl rfl)),
    mem_faults_field (Setting.readBy_truth (.inr rfl)), mem_faults_field Setting.readBy_host,
    mem_faults_field Setting.readBy_level,
    mem_faults_field (Setting.readBy_path (rfl : Setting.isPath .extraTerms = true)),
    mem_faults_field (Setting.readBy_path (rfl : Setting.isPath .logDirectory = true))]
  constructor
  · rintro ((((((h | h) | h) | h) | h) | h) | h)
    · cases h
    all_goals exact ⟨_, h⟩
  · rintro ⟨setting, h⟩
    cases setting <;> simp [h]

end Settings

/-! ### What is said, and what is misplaced -/

namespace Settings

/-- What is said about a setting: by the environment, else by the file. -/
inductive Said (surroundings : Surroundings) (file : Option SettingsFile) (setting : Setting) :
    Value → Prop
  | environment {text : String} : surroundings.Decides setting text →
    Said surroundings file setting (.string text)
  | file {source : SettingsFile} {value : Value} :
    (∀ text, ¬ surroundings.Decides setting text) → file = some source → source.Says setting value →
      Said surroundings file setting value

/-- A path setting that the environment leaves open has a value in the file that is neither a text nor as
good as nothing. -/
structure Misplaced (surroundings : Surroundings) (file : Option SettingsFile) (setting : Setting) :
    Prop where
  isPath : setting.isPath = true
  undecided : ∀ text, ¬ surroundings.Decides setting text
  written : ∃ source ∈ file, ∃ value, source.entries.get? setting.key = some value ∧
    Loader.isVoid value = false ∧ ∀ text, value ≠ .string text

end Settings

namespace Loader

variable {loader : Loader} {surroundings : Surroundings} {setting : Setting} {error : Error}

theorem anchor_eq_error_iff {file : SettingsFile} {value : Value} :
    anchor file value = .error error ↔
      error = .misuse .pathNotText ∧ isVoid value = false ∧ ∀ text, value ≠ .string text := by
  unfold anchor
  cases hvoid : isVoid value with
  | true => simp
  | false => cases value <;> simp [eq_comm]

theorem fileValue_eq_error_iff :
    loader.fileValue setting = .error error ↔
      error = .misuse .pathNotText ∧ setting.isPath = true ∧
        ∃ source ∈ loader.file, ∃ value, source.entries.get? setting.key = some value ∧
          isVoid value = false ∧ ∀ text, value ≠ .string text := by
  unfold fileValue
  cases hfile : loader.file with
  | none => simp
  | some source =>
    simp only [Option.mem_some_iff, exists_eq_left']
    cases hwritten : source.entries.get? setting.key with
    | none => simp
    | some written =>
      cases written with
      | null => simp [isVoid]
      | _ =>
        cases setting.isPath
        · simp
        · simp [map_eq_error_iff, anchor_eq_error_iff]

theorem resolve_eq_error_iff :
    loader.resolve surroundings setting = .error error ↔
      error = .misuse .pathNotText ∧ Settings.Misplaced surroundings loader.file setting := by
  unfold resolve
  cases hset : surroundings.fromEnvironment? setting.variableName with
  | some text =>
    have hdecides := Surroundings.fromEnvironment?_eq_some_iff.1 hset
    refine iff_of_false (by simp) fun h => h.2.undecided text hdecides
  | none =>
    rw [Surroundings.fromEnvironment?_eq_none_iff] at hset
    rw [fileValue_eq_error_iff]
    constructor
    · rintro ⟨rfl, hpath, hwritten⟩
      exact ⟨rfl, hpath, hset, hwritten⟩
    · rintro ⟨rfl, hpath, -, hwritten⟩
      exact ⟨rfl, hpath, hwritten⟩

theorem resolve_eq_some_iff {value : Value} :
    loader.resolve surroundings setting = .ok (some value) ↔
      Settings.Said surroundings loader.file setting value := by
  unfold resolve
  constructor
  · intro h
    split at h
    · next text hset =>
      cases h
      exact .environment (Surroundings.fromEnvironment?_eq_some_iff.1 hset)
    · next hset =>
      obtain ⟨source, hfile, hsays⟩ := fileValue_eq_some_iff.1 h
      exact .file (Surroundings.fromEnvironment?_eq_none_iff.1 hset) hfile hsays
  · intro h
    cases h with
    | environment hdecides => rw [Surroundings.fromEnvironment?_eq_some_iff.2 hdecides]
    | file hnot hfile hsays =>
      rw [Surroundings.fromEnvironment?_eq_none_iff.2 hnot]
      exact fileValue_eq_some_iff.2 ⟨_, hfile, hsays⟩

theorem said_eq_some_iff {value : Value} :
    loader.said surroundings setting = some value ↔
      Settings.Said surroundings loader.file setting value := by
  rw [← resolve_eq_some_iff, said]
  cases loader.resolve surroundings setting <;> simp [Except.toOption]

/-- What is said about several settings is an error if one of them is misplaced. -/
theorem resolveAll_eq_error_iff {settings : List Setting} :
    loader.resolveAll surroundings settings = .error error ↔
      error = .misuse .pathNotText ∧
        ∃ setting ∈ settings, Settings.Misplaced surroundings loader.file setting := by
  induction settings with
  | nil => simp [resolveAll]
  | cons first rest ih =>
    rw [resolveAll, bind_eq_error_iff]
    simp only [bind_eq_error_iff, ih, List.mem_cons, exists_eq_or_imp]
    constructor
    · rintro (hfirst | ⟨found, -, ⟨rfl, hrest⟩ | ⟨others, -, hreturn⟩⟩)
      · obtain ⟨rfl, hmisplaced⟩ := resolve_eq_error_iff.1 hfirst
        exact ⟨rfl, .inl hmisplaced⟩
      · exact ⟨rfl, .inr hrest⟩
      · cases hreturn
    · rintro ⟨rfl, hmisplaced⟩
      -- There is one error only, so it does not matter which of the misplaced settings is the first.
      cases hfirst : loader.resolve surroundings first with
      | error error => exact .inl (by rw [(resolve_eq_error_iff.1 hfirst).1])
      | ok found =>
        refine .inr ⟨found, rfl, .inl ⟨rfl, hmisplaced.resolve_left fun h => ?_⟩⟩
        cases hfirst.symm.trans (resolve_eq_error_iff.2 ⟨rfl, h⟩)

/-- How asking for the settings ends: with what the sources come to, with the faults of what they say,
or, where a path is misplaced, with an error about no setting. -/
inductive Ends (surroundings : Surroundings) (loader : Loader) : Except Error Settings → Prop
  | settings {settings : Settings} : settings.TakenFrom surroundings loader.file →
    Ends surroundings loader (.ok settings)
  | faults {faults : List FieldFault} :
    (∀ setting, ¬ Settings.Misplaced surroundings loader.file setting) → faults ≠ [] →
    (∀ fault, fault ∈ faults ↔ ∃ setting value problem,
      Settings.Said surroundings loader.file setting value ∧ setting.Refuses value problem ∧
        fault = ⟨problem, [.field setting.key]⟩) →
      Ends surroundings loader (.error (.settings loader.source faults))
  | misplaced {setting : Setting} : Settings.Misplaced surroundings loader.file setting →
    Ends surroundings loader (.error (.misuse .pathNotText))

theorem mem_faults_said (loader : Loader) (surroundings : Surroundings) (fault : FieldFault) :
    fault ∈ (Settings.ofEntries (entriesOf (loader.said surroundings) Setting.all)).faults ↔
      ∃ setting value problem, Settings.Said surroundings loader.file setting value ∧
        setting.Refuses value problem ∧ fault = ⟨problem, [.field setting.key]⟩ := by
  rw [Settings.mem_faults_ofEntries]
  simp only [Settings.Faulty, get?_entriesOf, said_eq_some_iff]

theorem resolveAll_of_misplaced
    (h : Settings.Misplaced surroundings loader.file setting) :
    loader.resolveAll surroundings Setting.all = .error (.misuse .pathNotText) :=
  resolveAll_eq_error_iff.2 ⟨rfl, setting, by cases setting <;> decide, h⟩

theorem settings_of_misplaced (h : Settings.Misplaced surroundings loader.file setting) :
    loader.settings surroundings = .error (.misuse .pathNotText) := by
  rw [Loader.settings, resolveAll_of_misplaced h]
  rfl

theorem ends_settings (loader : Loader) (surroundings : Surroundings) :
    Ends surroundings loader (loader.settings surroundings) := by
  cases hended : loader.settings surroundings with
  | ok settings => exact .settings (settings_eq_ok_iff.1 hended)
  | error error =>
    rw [Loader.settings, bind_eq_error_iff] at hended
    rcases hended with hresolved | ⟨entries, hresolved, hread⟩
    · obtain ⟨rfl, setting, -, hmisplaced⟩ := resolveAll_eq_error_iff.1 hresolved
      exact .misplaced hmisplaced
    · have hnone : ∀ setting, ¬ Settings.Misplaced surroundings loader.file setting := by
        intro setting hmisplaced
        cases hresolved.symm.trans (resolveAll_of_misplaced hmisplaced)
      obtain ⟨-, rfl⟩ := resolveAll_eq_ok_iff.1 hresolved
      split at hread
      · cases hread
      · next faults hfaulty =>
        cases hread
        have haccounted :=
          Settings.accounted_ofEntries (entriesOf (loader.said surroundings) Setting.all)
        have hmem := mem_faults_said loader surroundings
        rw [hfaulty] at haccounted
        simp only [hfaulty, Checked.faults] at hmem
        refine .faults hnone (fun hnil => ?_) hmem
        obtain ⟨settings, hsettings⟩ := haccounted hnil
        cases hsettings

/-- Asking for the settings gives them or an error about settings, which has the faults of what is said,
unless a path is misplaced: then, and only then, the error is another. -/
theorem settings_or_faults_unless_misplaced (loader : Loader) (surroundings : Surroundings) :
    Ends surroundings loader (loader.settings surroundings) ∧
      (((∃ settings, loader.settings surroundings = .ok settings) ∨
          ∃ faults, loader.settings surroundings = .error (.settings loader.source faults)) ↔
        ∀ setting, ¬ Settings.Misplaced surroundings loader.file setting) := by
  refine ⟨ends_settings loader surroundings, fun hended setting hmisplaced => ?_, fun hnone => ?_⟩
  · rw [settings_of_misplaced hmisplaced] at hended
    rcases hended with ⟨settings, hsettings⟩ | ⟨faults, hfaults⟩
    · cases hsettings
    · cases hfaults
  · have hends := ends_settings loader surroundings
    generalize loader.settings surroundings = ended at hends ⊢
    cases hends with
    | settings _ => exact .inl ⟨_, rfl⟩
    | faults _ _ _ => exact .inr ⟨_, rfl⟩
    | misplaced hmisplaced => exact absurd hmisplaced (hnone _)

/-! ### A number in the place of a directory -/

/-- A settings file with a number for the directory of the log. -/
def numberedEntries (n : Int) : Entries String Value := [("log_dir", .int n)]

def numberedSurroundings : Surroundings where
  files :=
    { base := ["srv"]
      entries := [(Path.place ["srv", fileName], .text "\x7b\"log_dir\":5\x7d")] }
  environment := []

theorem numberedEntries_isJson :
    (Value.map (numberedEntries 5)).IsJson (some Numeral.digitLimit) := by
  have hkeys : ∀ entry ∈ numberedEntries 5, ∃ key, entry.1 = keep key := by
    simp only [numberedEntries, List.forall_mem_cons]
    exact ⟨⟨"log_dir", rfl⟩, List.forall_mem_nil _⟩
  have hvalues : ∀ entry ∈ numberedEntries 5, entry.2.IsJson (some Numeral.digitLimit) := by
    simp only [numberedEntries, List.forall_mem_cons]
    exact ⟨.int (by decide), List.forall_mem_nil _⟩
  exact .map (by decide) hkeys hvalues

theorem numberedSurroundings_finds :
    Call.Finds ⟨numberedSurroundings, none⟩ (numberedEntries 5) :=
  finds_of_written numberedEntries_isJson (rfl : _ = Except.ok "\x7b\"log_dir\":5\x7d") rfl

/-- A file that gives five for the directory of the log is loaded, and then there are no settings and no
error about them, although there is one for zero. -/
theorem number_misplaced :
    let call : Call := ⟨numberedSurroundings, none⟩
    ({} : Loader).call call = (⟨true, some ⟨call.path, numberedEntries 5⟩⟩, .ok true) ∧
      Loader.settings ⟨true, some ⟨call.path, numberedEntries 5⟩⟩ numberedSurroundings =
        .error (.misuse .pathNotText) ∧
      Loader.settings ⟨true, some ⟨call.path, numberedEntries 0⟩⟩ numberedSurroundings =
        .error (.settings call.path.text [⟨.notPath, [.field "log_dir"]⟩]) := by
  intro call
  exact ⟨call_of_finds numberedSurroundings_finds, rfl, rfl⟩

end Loader

end ScopedSearch
