import ScopedSearch.Proofs.JsonText
import ScopedSearch.Proofs.Staging

/-!
# How registry entries fail

Entries are read one after the other and the first defect ends the reading. There are four: a key names
no scope, what stands under a scope is no mapping, what stands under a term is no mapping, or a mapping
declares no term (`Registry.TableDefect`, `Registry.EntryDefect`). The first and the last are faults of
the registry. The other two are met where a mapping is taken for granted, so they are misuses: such
entries are misplaced, and in a file a number of too many digits is a misuse too. Whatever else is
written, reading, merging and loading it make a registry without open references or fail with a fault of
the registry (`Registry.made_or_refused_unless_misplaced`).
-/

namespace ScopedSearch

open ScopedSearch.Text

namespace Registry

variable {scope : Scope} {content : String} {error : Error} {kind : Misuse}
  {written : List (String × Value)}

/-! ### The first defect -/

/-- The error is that of the first element with a defect. -/
inductive FirstDefect {α : Type} (Defect : α → Error → Prop) : List α → Error → Prop
  | here {first : α} {rest : List α} {error : Error} : Defect first error →
    FirstDefect Defect (first :: rest) error
  | later {first : α} {rest : List α} {error : Error} : (∀ other, ¬ Defect first other) →
    FirstDefect Defect rest error → FirstDefect Defect (first :: rest) error

section FirstDefect

variable {α β γ : Type} {Defect : α → Error → Prop} {first : α} {rest items : List α}
  {head : Except Error β} {next : β → Except Error γ}

/-- What deals with the first element and then with the rest fails with the first defect if both parts
do. -/
theorem bind_eq_error_iff_firstDefect
    (hhead : ∀ error, head = .error error ↔ Defect first error)
    (hrest : ∀ result, next result = .error error ↔ FirstDefect Defect rest error) :
    head >>= next = .error error ↔ FirstDefect Defect (first :: rest) error := by
  rw [bind_eq_error_iff]
  constructor
  · intro h
    rcases h with hfirst | ⟨result, hfirst, hnext⟩
    · exact .here ((hhead error).1 hfirst)
    · refine .later (fun other hother => ?_) ((hrest result).1 hnext)
      cases hfirst.symm.trans ((hhead other).2 hother)
  · intro h
    cases h with
    | here hdefect => exact .inl ((hhead error).2 hdefect)
    | later hnone hdefect =>
      cases hfirst : head with
      | error other => exact absurd ((hhead other).1 hfirst) (hnone other)
      | ok result => exact .inr ⟨result, rfl, (hrest result).2 hdefect⟩

/-- The first defect is one of an element. -/
theorem FirstDefect.exists_defect (h : FirstDefect Defect items error) :
    ∃ item ∈ items, Defect item error := by
  induction h with
  | here hdefect => exact ⟨_, List.mem_cons_self, hdefect⟩
  | later _ _ ih =>
    obtain ⟨item, hitem, hdefect⟩ := ih
    exact ⟨item, List.mem_cons_of_mem _ hitem, hdefect⟩

end FirstDefect

/-! ### Defects of entries -/

/-- The term that one entry of a scope declares. -/
def termOf (scope : Scope) : String × Value → Except Error Term
  | (name, .map fields) =>
    match Term.read ((Entries.put fields "name" (.string name)).put "scope" (.string scope.name)) with
    | .faulty faults => .error (.registry (.invalidTerm scope name faults))
    | .ok term => .ok term
  | _ => .error (.misuse .entryNotMapping)

theorem termOf_map (scope : Scope) (name : String) (fields : Entries String Value) :
    termOf scope (name, .map fields) =
      match Term.read ((fields.put "name" (.string name)).put "scope" (.string scope.name)) with
      | .faulty faults => .error (.registry (.invalidTerm scope name faults))
      | .ok term => .ok term := (rfl)

/-- What is wrong with one entry of a scope. -/
inductive EntryDefect (scope : Scope) : String × Value → Error → Prop
  | misplaced {name : String} {entry : Value} : (∀ fields, entry ≠ .map fields) →
    EntryDefect scope (name, entry) (.misuse .entryNotMapping)
  | invalid {name : String} {fields : Entries String Value} {faults : List FieldFault} :
    Term.read ((fields.put "name" (.string name)).put "scope" (.string scope.name)) =
      .faulty faults →
    EntryDefect scope (name, .map fields) (.registry (.invalidTerm scope name faults))

theorem termOf_eq_error_iff {written : String × Value} :
    termOf scope written = .error error ↔ EntryDefect scope written error := by
  obtain ⟨name, entry⟩ := written
  constructor
  · intro h
    cases entry with
    | map fields =>
      rw [termOf_map] at h
      split at h
      · next faults hread =>
        cases h
        exact .invalid hread
      · cases h
    | _ =>
      cases h
      exact .misplaced nofun
  · intro h
    cases h with
    | misplaced hnot =>
      cases entry with
      | map fields => exact absurd rfl (hnot fields)
      | _ => rfl
    | invalid hread => rw [termOf_map, hread]

theorem termsOfTable_cons_eq_bind (first : String × Value) (rest : List (String × Value)) :
    termsOfTable scope (first :: rest) =
      termOf scope first >>= fun term => (termsOfTable scope rest).map (term :: ·) := by
  obtain ⟨name, entry⟩ := first
  cases entry with
  | map fields =>
    rw [termsOfTable_cons, termOf_map]
    cases Term.read _ <;> rfl
  | _ => rfl

theorem termsOfTable_eq_error_iff {entries : List (String × Value)} :
    termsOfTable scope entries = .error error ↔ FirstDefect (EntryDefect scope) entries error := by
  induction entries with
  | nil => exact ⟨nofun, nofun⟩
  | cons first rest ih =>
    rw [termsOfTable_cons_eq_bind]
    exact bind_eq_error_iff_firstDefect (fun _ => termOf_eq_error_iff) fun _ =>
      map_eq_error_iff.trans ih

/-! ### Defects of tables -/

/-- The terms that one table of a written registry declares. -/
def termsOfKey : String × Value → Except Error (List Term)
  | (key, table) =>
    match Scope.ofName? key with
    | none => .error (.registry (.unknownScope key))
    | some scope =>
      match table with
      | .map entries => termsOfTable scope entries
      | _ => .error (.misuse .tableNotMapping)

/-- What is wrong with one table of a written registry. -/
inductive TableDefect : String × Value → Error → Prop
  | unknownScope {key : String} {table : Value} : Scope.ofName? key = none →
    TableDefect (key, table) (.registry (.unknownScope key))
  | misplaced {key : String} {table : Value} {scope : Scope} : Scope.ofName? key = some scope →
    (∀ entries, table ≠ .map entries) → TableDefect (key, table) (.misuse .tableNotMapping)
  | entry {key : String} {scope : Scope} {entries : List (String × Value)} {error : Error} :
    Scope.ofName? key = some scope → FirstDefect (EntryDefect scope) entries error →
    TableDefect (key, .map entries) error

theorem termsOfKey_eq_error_iff {written : String × Value} :
    termsOfKey written = .error error ↔ TableDefect written error := by
  obtain ⟨key, table⟩ := written
  constructor
  · intro h
    rw [termsOfKey] at h
    split at h
    · next hscope =>
      cases h
      exact .unknownScope hscope
    · next scope hscope =>
      cases table with
      | map entries => exact .entry hscope (termsOfTable_eq_error_iff.1 h)
      | _ =>
        cases h
        exact .misplaced hscope nofun
  · intro h
    cases h with
    | unknownScope hscope => rw [termsOfKey, hscope]
    | misplaced hscope hnot =>
      rw [termsOfKey, hscope]
      cases table with
      | map entries => exact absurd rfl (hnot entries)
      | _ => rfl
    | entry hscope hentries =>
      rw [termsOfKey, hscope]
      exact termsOfTable_eq_error_iff.2 hentries

theorem termsOfTables_cons_eq_bind (first : String × Value) (rest : List (String × Value)) :
    termsOfTables (first :: rest) =
      termsOfKey first >>= fun terms => (termsOfTables rest).map (terms ++ ·) := by
  obtain ⟨key, table⟩ := first
  rw [termsOfTables, termsOfKey]
  cases Scope.ofName? key with
  | none => rfl
  | some scope => cases table <;> rfl

/-- Reading written tables fails exactly with the first defect. -/
theorem termsOfTables_eq_error_iff :
    termsOfTables written = .error error ↔ FirstDefect TableDefect written error := by
  induction written with
  | nil => exact ⟨nofun, nofun⟩
  | cons first rest ih =>
    rw [termsOfTables_cons_eq_bind]
    exact bind_eq_error_iff_firstDefect (fun _ => termsOfKey_eq_error_iff) fun _ =>
      map_eq_error_iff.trans ih

/-! ### Misplaced entries -/

/-- The first defect is that a table or an entry is no mapping. -/
def Misplaced (written : List (String × Value)) (kind : Misuse) : Prop :=
  FirstDefect TableDefect written (.misuse kind)

/-- The file has a number of too many digits, or its entries are misplaced. -/
inductive MisplacedIn (content : String) : Misuse → Prop
  | numeral : Json.read content = .error .numeralTooLong → MisplacedIn content .numeralTooLong
  | entries {written : List (String × Value)} {kind : Misuse} :
    Json.read content = .ok (.map written) → Misplaced written kind → MisplacedIn content kind

/-- A defect is a fault of the registry, or a table or an entry is no mapping. -/
theorem TableDefect.fault_or_misuse {written : String × Value} (h : TableDefect written error) :
    (∃ fault, error = .registry fault) ∨
      (error = .misuse .tableNotMapping ∧ ∀ entries, written.2 ≠ .map entries) ∨
        error = .misuse .entryNotMapping ∧ ∃ entries, written.2 = .map entries ∧
          ∃ entry ∈ entries, ∀ fields, entry.2 ≠ .map fields := by
  cases h with
  | unknownScope _ => exact .inl ⟨_, rfl⟩
  | misplaced _ hnot => exact .inr (.inl ⟨rfl, hnot⟩)
  | entry _ hentries =>
    obtain ⟨⟨name, entry⟩, hmem, hdefect⟩ := hentries.exists_defect
    cases hdefect with
    | misplaced hnot => exact .inr (.inr ⟨rfl, _, rfl, _, hmem, hnot⟩)
    | invalid _ => exact .inl ⟨_, rfl⟩

theorem fault_or_misplaced (h : FirstDefect TableDefect written error) :
    (∃ fault, error = .registry fault) ∨ ∃ kind, error = .misuse kind ∧ Misplaced written kind := by
  obtain ⟨_, -, hdefect⟩ := h.exists_defect
  rcases hdefect.fault_or_misuse with hfault | ⟨rfl, -⟩ | ⟨rfl, -⟩
  · exact .inl hfault
  · exact .inr ⟨_, rfl, h⟩
  · exact .inr ⟨_, rfl, h⟩

/-- Mappings of mappings of mappings are not misplaced. -/
theorem not_misplaced_of_nested
    (h : ∀ table ∈ written, ∃ entries, table.2 = .map entries ∧
      ∀ entry ∈ entries, ∃ fields, entry.2 = .map fields) : ¬ Misplaced written kind := by
  intro hmisplaced
  obtain ⟨table, hmem, hdefect⟩ := hmisplaced.exists_defect
  obtain ⟨entries, htable, hentries⟩ := h table hmem
  rcases hdefect.fault_or_misuse with ⟨fault, hfault⟩ | ⟨-, hnot⟩ | ⟨-, _, hagain, entry, hentry, hnot⟩
  · cases hfault
  · exact hnot entries htable
  · cases htable.symm.trans hagain
    obtain ⟨fields, hfields⟩ := hentries entry hentry
    exact hnot fields hfields

/-! ### How making a registry ends -/

/-- How making a registry of what is written ends: with a registry in which every reference leads to a
scope with terms, with a fault of the registry, or, where a misuse escapes, with the misuse. -/
inductive Ends (escapes : Misuse → Prop) : Except Error Registry → Prop
  | made {registry : Registry} : (∀ kind, ¬ escapes kind) →
    (∀ term ∈ registry.terms, ∀ scope ∈ term.references, scope ∈ registry.scopes) →
    Ends escapes (.ok registry)
  | refused {fault : RegistryFault} : (∀ kind, ¬ escapes kind) →
    Ends escapes (.error (.registry fault))
  | escaped {kind : Misuse} : escapes kind → Ends escapes (.error (.misuse kind))

variable {escapes other : Misuse → Prop} {outcome : Except Error Registry}

theorem Ends.congr (h : Ends escapes outcome) (hiff : ∀ kind, escapes kind ↔ other kind) :
    Ends other outcome := by
  have : escapes = other := funext fun kind => propext (hiff kind)
  rwa [← this]

theorem references_closed (registry : Registry) :
    ∀ term ∈ registry.terms, ∀ scope ∈ term.references, scope ∈ registry.scopes := by
  intro term hterm scope href
  obtain ⟨other, hother, hscope⟩ := registry.closed term hterm scope href
  exact mem_scopes.2 (List.ne_nil_of_mem (mem_table.2 ⟨hother, hscope⟩))

theorem ends_ofTerms (hnone : ∀ kind, ¬ escapes kind) (terms : List Term) :
    Ends escapes (ofTerms terms) := by
  rw [ofTerms]
  split
  · exact .made hnone (references_closed _)
  · exact .refused hnone

/-- What makes a registry of the terms that are read ends as the reading does. -/
theorem ends_of_read (written : List (String × Value)) (next : List Term → List Term) :
    Ends (Misplaced written) (termsOfTables written >>= fun further => ofTerms (next further)) := by
  cases hread : termsOfTables written with
  | ok further =>
    refine ends_ofTerms (fun kind hmisplaced => ?_) (next further)
    cases hread.symm.trans (termsOfTables_eq_error_iff.2 hmisplaced)
  | error error =>
    have hfirst := termsOfTables_eq_error_iff.1 hread
    rcases fault_or_misplaced hfirst with ⟨fault, rfl⟩ | ⟨kind, rfl, hmisplaced⟩
    · refine .refused fun kind hmisplaced => ?_
      cases hread.symm.trans (termsOfTables_eq_error_iff.2 hmisplaced)
    · exact .escaped hmisplaced

theorem ends_ofConfig (written : List (String × Value)) :
    Ends (Misplaced written) (ofConfig (.map written)) := ends_of_read written id

theorem ends_merge (registry : Registry) (written : List (String × Value)) :
    Ends (Misplaced written) (registry.merge (.map written)).outcome := by
  rw [merge, Traced.bind_outcome, Traced.lift_outcome]
  exact ends_of_read written fun further => registry.terms ++ additions registry.terms further

/-- Nothing is loaded if the further entries cannot be read. -/
theorem load_error (includeGenerated : Bool) (error : Error) :
    (load includeGenerated (some (.error error))).outcome = .error error := by
  obtain ⟨declared, hdeclared, -⟩ := exists_termsOf_declared
  obtain ⟨generated, hgenerated⟩ := exists_termsOf_generated
  cases includeGenerated with
  | false => simp [load, hdeclared, Traced.ok_bind, Traced.error_bind]
  | true => simp [load, hdeclared, hgenerated, Traced.ok_bind, Traced.error_bind, supplement_outcome]

theorem readRegistry_of_text {files : FileTree} {path : Path}
    (h : files.find path = .ok (.text content)) :
    Services.readRegistry files path =
      match Json.read content with
      | .ok (.map tables) => .ok (.map tables)
      | .ok _ => .error (.registry (.notKeyed path.text))
      | .error .malformed => .error (.registry (.unreadable path.text))
      | .error .numeralTooLong => .error (.misuse .numeralTooLong) := by
  cases hread : Json.read content with
  | error fault => cases fault <;> simp only [Services.readRegistry, h, hread]
  | ok value => cases value <;> simp only [Services.readRegistry, h, hread]

theorem misplacedIn_of_map (h : Json.read content = .ok (.map written)) :
    MisplacedIn content kind ↔ Misplaced written kind := by
  refine ⟨fun hmisplaced => ?_, .entries h⟩
  cases hmisplaced with
  | numeral hread => cases h.symm.trans hread
  | entries hread hmisplaced =>
    cases h.symm.trans hread
    exact hmisplaced

/-- What is no mapping is refused as such and never misplaced. -/
theorem not_misplacedIn (hnumeral : Json.read content ≠ .error .numeralTooLong)
    (hmap : ∀ written, Json.read content ≠ .ok (.map written)) : ¬ MisplacedIn content kind := by
  intro hmisplaced
  cases hmisplaced with
  | numeral hread => exact hnumeral hread
  | entries hread _ => exact hmap _ hread

theorem ends_load (includeGenerated : Bool) {files : FileTree} {path : Path}
    (h : files.find path = .ok (.text content)) :
    Ends (MisplacedIn content)
      (load includeGenerated (some (Services.readRegistry files path))).outcome := by
  rw [readRegistry_of_text h]
  cases hread : Json.read content with
  | error fault =>
    cases fault with
    | malformed =>
      rw [load_error]
      exact .refused fun _ => not_misplacedIn (by simp [hread]) (by simp [hread])
    | numeralTooLong =>
      rw [load_error]
      exact .escaped (.numeral hread)
  | ok value =>
    by_cases hmap : ∃ written, value = .map written
    · obtain ⟨written, rfl⟩ := hmap
      obtain ⟨packaged, -, -, hsome⟩ := load_outcome includeGenerated
      rw [hsome]
      have hends := ends_of_read written fun further => packaged ++ additions packaged further
      exact hends.congr fun _ => (misplacedIn_of_map hread).symm
    · have hnot : ∀ kind, ¬ MisplacedIn content kind := fun kind =>
        not_misplacedIn (by simp [hread]) fun written h => hmap ⟨written, by simpa [hread] using h⟩
      cases value with
      | map written => exact absurd ⟨written, rfl⟩ hmap
      | _ =>
        rw [load_error]
        exact .refused hnot

/-- Whatever is written for a registry, making it alone, merging it into a registry and loading it from a
file end in a registry without open references or in a fault of the registry, unless the first defect is
that a table or an entry is no mapping or, in a file, there is a number of too many digits: these escape
as the misuse that they are. Mappings of mappings of mappings have no such defect. -/
theorem made_or_refused_unless_misplaced (registry : Registry) (written : List (String × Value))
    (includeGenerated : Bool) (files : FileTree) (path : Path) (content : String) :
    Ends (Misplaced written) (ofConfig (.map written)) ∧
      Ends (Misplaced written) (registry.merge (.map written)).outcome ∧
      (files.find path = .ok (.text content) →
        Ends (MisplacedIn content)
          (load includeGenerated (some (Services.readRegistry files path))).outcome) ∧
      ((∀ table ∈ written, ∃ entries, table.2 = .map entries ∧
        ∀ entry ∈ entries, ∃ fields, entry.2 = .map fields) →
          ∀ kind, ¬ Misplaced written kind) :=
  ⟨ends_ofConfig written, ends_merge registry written, ends_load includeGenerated,
    fun hnested _ => not_misplaced_of_nested hnested⟩

/-! ### A number in the place of an entry -/

/-- A written registry with one entry. -/
def oneEntry (scope name : String) (entry : Value) : List (String × Value) :=
  [(scope, .map [(name, entry)])]

/-- A file of further entries. -/
def extraFile (content : String) : FileTree where
  base := ["srv"]
  entries := [(Path.place ["srv", "extra.json"], .text content)]

theorem find_extraFile (content : String) :
    (extraFile content).find (.parse "extra.json") = .ok (.text content) := rfl

theorem read_of_written (hjson : (Value.map written).IsJson (some Numeral.digitLimit))
    (hwritten : Json.write (.map written) = .ok content) :
    Json.read content = .ok (.map written) := by
  obtain ⟨text, htext, hread⟩ := Json.readWithin_write (le_refl _) hjson
  rw [hwritten, Except.ok.injEq] at htext
  rwa [← htext] at hread

theorem isJson_pair {key : String} {value : Value} (hkey : ∃ given, key = keep given)
    (h : value.IsJson (some Numeral.digitLimit)) :
    (Value.map [(key, value)]).IsJson (some Numeral.digitLimit) := by
  refine .map (List.nodup_singleton _) ?_ ?_
  · simpa only [List.mem_singleton, forall_eq] using hkey
  · simpa only [List.mem_singleton, forall_eq] using h

theorem readRegistry_extraFile (h : Json.read content = .ok (.map written)) :
    Services.readRegistry (extraFile content) (.parse "extra.json") = .ok (.map written) := by
  rw [readRegistry_of_text (find_extraFile content), h]

/-- A file with a term that is like the packaged ones is not misplaced, so loading it ends in a registry or
in a fault of the registry. -/
theorem likeness_ends :
    let content := "\x7b\"agent\":\x7b\"resembles\":\x7b\"pattern\":\"similar\"\x7d\x7d\x7d"
    let written := oneEntry "agent" "resembles" (.map [("pattern", .string "similar")])
    (extraFile content).find (.parse "extra.json") = .ok (.text content) ∧
      Json.read content = .ok (.map written) ∧ (∀ kind, ¬ Misplaced written kind) ∧
      Ends (fun _ => False)
        (load true (some (Services.readRegistry (extraFile content) (.parse "extra.json")))).outcome := by
  intro content written
  have hread : Json.read content = .ok (.map written) :=
    read_of_written (isJson_pair ⟨"agent", rfl⟩ (isJson_pair ⟨"resembles", rfl⟩
      (isJson_pair ⟨"pattern", rfl⟩ (.string "similar")))) rfl
  obtain ⟨-, -, hload, hnested⟩ := made_or_refused_unless_misplaced ⟨[], rfl, by simp⟩ written true
    (extraFile content) (.parse "extra.json") content
  have hnone : ∀ kind, ¬ Misplaced written kind := by
    apply hnested
    simp [written, oneEntry]
  refine ⟨find_extraFile content, hread, hnone, (hload (find_extraFile content)).congr fun kind => ?_⟩
  rw [misplacedIn_of_map hread, iff_false]
  exact hnone kind

/-- Five in the place of an entry, or of the entries of a scope, ends with a misuse, in a file as well. -/
theorem number_escapes :
    ofConfig (.map (oneEntry "item" "x" (.int 5))) = .error (.misuse .entryNotMapping) ∧
      ofConfig (.map [("item", .int 5)]) = .error (.misuse .tableNotMapping) ∧
      (load true (some (Services.readRegistry
        (extraFile "\x7b\"item\":\x7b\"x\":5\x7d\x7d") (.parse "extra.json")))).outcome =
          .error (.misuse .entryNotMapping) := by
  refine ⟨rfl, rfl, ?_⟩
  have hread : Json.read "\x7b\"item\":\x7b\"x\":5\x7d\x7d" =
      .ok (.map (oneEntry "item" "x" (.int 5))) :=
    read_of_written (isJson_pair ⟨"item", rfl⟩ (isJson_pair ⟨"x", rfl⟩ (.int rfl))) rfl
  obtain ⟨packaged, -, -, hsome⟩ := load_outcome true
  rw [readRegistry_extraFile hread, hsome]
  rfl

end Registry

end ScopedSearch
