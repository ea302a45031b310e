import ScopedSearch.Proofs.Precedence

/-!
# Paths in the settings file

A path is read back as it is written (`Path.parse_text`), so that a path which goes through its text once
more on the way to the settings arrives unchanged. A path setting of the file is therefore the path that
the file gives, taken from the directory of the file, whatever working directory the settings are asked
for in (`Loader.file_paths_anchored`). The empty text is the exception: it counts as nothing to be taken
from the directory, and is then read as the working directory (`Loader.empty_path_not_anchored`).
-/

namespace ScopedSearch

open ScopedSearch.Text

/-! ### Paths as they are written -/

namespace Text

theorem notMem_of_mem_consFirst {mark c : Char} (hc : c ≠ mark) {parts : List (List Char)}
    (h : ∀ part ∈ parts, mark ∉ part) : ∀ part ∈ consFirst c parts, mark ∉ part := by
  cases parts with
  | nil => simpa [consFirst] using Ne.symm hc
  | cons first rest =>
    rw [List.forall_mem_cons] at h
    rw [consFirst, List.forall_mem_cons, List.mem_cons, not_or]
    exact ⟨⟨Ne.symm hc, h.1⟩, h.2⟩

/-- The mark belongs to no part. -/
theorem notMem_of_mem_splitAtMark (mark : Char) (cs : List Char) :
    ∀ part ∈ splitAtMark mark cs, mark ∉ part := by
  induction cs with
  | nil => simp [splitAtMark]
  | cons c rest ih =>
    unfold splitAtMark
    split
    · exact List.forall_mem_cons.2 ⟨List.not_mem_nil, ih⟩
    · next hc => exact notMem_of_mem_consFirst hc ih

end Text

namespace Path

variable {path first second : Path}

/-- Every name on the way says something, and none has a slash in it. -/
def Normal (path : Path) : Prop :=
  ∀ part ∈ path.parts, (part ≠ "" ∧ part ≠ ".") ∧ '/' ∉ part.toList

theorem parse_normal (text : String) : (parse text).Normal := by
  intro part hpart
  obtain ⟨hsplit, hsays⟩ := List.mem_filter.1 hpart
  obtain ⟨cs, hcs, rfl⟩ := List.mem_map.1 hsplit
  rw [String.toList_ofList]
  exact ⟨by simpa using hsays, notMem_of_mem_splitAtMark '/' _ cs hcs⟩

theorem Normal.join (hfirst : first.Normal) (hsecond : second.Normal) :
    (first.join second).Normal := by
  unfold Path.join
  split
  · exact hsecond
  · intro part hpart
    exact (List.mem_append.1 hpart).elim (hfirst part) (hsecond part)

theorem isAbsolute_join (h : first.isAbsolute = true) : (first.join second).isAbsolute = true := by
  unfold Path.join
  split
  · next hsecond => exact hsecond
  · exact h

/-- The names on the way, with slashes between them. -/
def trail (path : Path) : String := "/".intercalate path.parts

/-- What is left of a trail where it is cut at slashes are its names. -/
theorem Normal.filter_splitText_trail (h : path.Normal) :
    ((splitText '/' path.trail).filter fun part => part ≠ "" && part ≠ ".") = path.parts := by
  unfold trail
  cases hparts : path.parts with
  | nil => rfl
  | cons first rest =>
    rw [← hparts, splitText_intercalate rfl (by simp [hparts]) fun part hpart => (h part hpart).2,
      List.filter_eq_self]
    intro part hpart
    simpa using (h part hpart).1

/-- A trail does not begin with a slash. -/
theorem Normal.head?_trail (h : path.Normal) : path.trail.toList.head? ≠ some '/' := by
  unfold trail
  cases hparts : path.parts with
  | nil => simp
  | cons first rest =>
    have hfirst := h first (by simp [hparts])
    obtain ⟨c, cs, hcs⟩ := List.exists_cons_of_ne_nil (mt String.toList_eq_nil_iff.1 hfirst.1.1)
    have hc : c ≠ '/' := fun heq => hfirst.2 (by simp [hcs, heq])
    cases rest <;> simp [String.toList_intercalate, hcs, hc]

theorem rootOf_append (root : PathRoot) {cs : List Char} (h : cs.head? ≠ some '/') :
    rootOf (root.text.toList ++ cs) = root := by
  cases cs with
  | nil => cases root <;> rfl
  | cons c cs =>
    have hc : c ≠ '/' := fun heq => h (congrArg some heq)
    cases root <;> simp [PathRoot.text, rootOf, hc]

/-- The slashes of a root are cut off with nothing before them. -/
theorem parts_append (root : PathRoot) (text : String) :
    (parse (root.text ++ text)).parts = (parse text).parts := by
  cases root <;> simp [parse, PathRoot.text, splitText, splitAtMark]

/-- A path is read as it is written. -/
theorem parse_text (h : path.Normal) : parse path.text = path := by
  have htrail : parse (path.root.text ++ path.trail) = path := by
    have hroot : (parse (path.root.text ++ path.trail)).root = path.root := by
      rw [parse, String.toList_append, rootOf_append _ h.head?_trail]
    have hparts : (parse (path.root.text ++ path.trail)).parts = path.parts := by
      rw [parts_append, parse, h.filter_splitText_trail]
    calc
      parse (path.root.text ++ path.trail)
        = ⟨(parse (path.root.text ++ path.trail)).root,
            (parse (path.root.text ++ path.trail)).parts⟩ := rfl
      _ = path := by rw [hroot, hparts]
  unfold text
  split
  · next hroot hparts =>
    obtain ⟨root, parts⟩ := path
    cases hroot
    cases hparts
    rfl
  · exact htrail

end Path

/-! ### Path settings of a file -/

/-- What a path setting came to; the other settings are no paths. -/
def Settings.path? (settings : Settings) : Setting → Option Path
  | .extraTerms => settings.extraTerms
  | .logDirectory => settings.logDirectory
  | _ => none

namespace Loader

variable {loader : Loader} {surroundings : Surroundings} {setting : Setting} {file : SettingsFile}
  {text : String}

theorem takes_of_takenFrom {settings : Settings}
    (h : settings.TakenFrom surroundings loader.file) (hpath : setting.isPath = true) :
    Settings.Takes surroundings loader.file setting (Field.nullable Field.path) none
      (settings.path? setting) := by
  cases setting with
  | extraTerms => exact h.extraTerms
  | logDirectory => exact h.logDirectory
  | _ => cases hpath

/-- A text under a path setting that the environment leaves open is read after it was taken from the
directory of the file. -/
theorem takes_of_written {read : List PathStep → Value → Checked (Option Path)}
    {default result : Option Path} {anchored : Value} (hfile : loader.file = some file)
    (hpath : setting.isPath = true) (hwritten : file.entries.get? setting.key = some (.string text))
    (hopen : ∀ other, ¬ surroundings.Decides setting other)
    (hanchor : anchor file (.string text) = .ok anchored) :
    Settings.Takes surroundings loader.file setting read default result ↔
      read [.field setting.key] anchored = .ok result := by
  have hresolve : loader.resolve surroundings setting = .ok (some anchored) := by
    rw [resolve, Surroundings.fromEnvironment?_eq_none_iff.2 hopen, fileValue_eq_some_iff]
    exact ⟨file, hfile, _, hwritten, by simp, by rw [if_pos hpath, hanchor]⟩
  rw [takes_iff, hresolve]
  simp [readOr]

theorem nullable_path (path : List PathStep) (text : String) :
    Field.nullable Field.path path (.string text) = .ok (some (.parse text)) := rfl

theorem anchor_of_ne_empty (htext : text ≠ "") :
    anchor file (.string text) =
      .ok (.string (file.path.parent.join (.parse text)).text) := by
  simp [anchor, isVoid, htext]

/-- A path setting that the environment leaves open is the path that the file gives, taken from the
directory of the file: it is absolute, and nothing else that surrounds the loader plays a part. -/
theorem file_paths_anchored {first : Call} {entries : Entries String Value} {directory : Path}
    (hfinds : first.Finds entries)
    (hdirectory : Loader.directory first.surroundings first.given = directory)
    (hnormal : directory.Normal) (habsolute : directory.isAbsolute = true)
    (hpath : setting.isPath = true) (hwritten : entries.get? setting.key = some (.string text))
    (htext : text ≠ "") :
    let given := Path.parse text
    let place := if given.isAbsolute then given else ⟨directory.root, directory.parts ++ given.parts⟩
    let loader := (({} : Loader).call first).1
    place.isAbsolute = true ∧ (∀ files : FileTree, files.start place = []) ∧
      ∀ surroundings : Surroundings, (∀ other, ¬ surroundings.Decides setting other) →
        (∀ result, Settings.Takes surroundings loader.file setting (Field.nullable Field.path) none
          result ↔ result = some place) ∧
        ∀ settings, loader.settings surroundings = .ok settings →
          settings.path? setting = some place := by
  intro given place loader
  have hplace : place.isAbsolute = true := @Path.isAbsolute_join directory given habsolute
  have hloader : loader.file = some ⟨first.path, entries⟩ := by
    simp only [loader, call_of_finds hfinds]
  have hparent : first.path.parent = directory := by
    rw [Call.path, Path.parent_child, hdirectory]
  have hread : Path.parse (first.path.parent.join given).text = place := by
    rw [hparent, Path.parse_text (hnormal.join (Path.parse_normal text))]
    rfl
  refine ⟨hplace, fun files => if_pos hplace, fun surroundings hopen => ?_⟩
  have htakes (result : Option Path) : Settings.Takes surroundings loader.file setting
      (Field.nullable Field.path) none result ↔ result = some place := by
    rw [takes_of_written hloader hpath hwritten hopen (anchor_of_ne_empty htext), nullable_path, hread]
    exact ⟨fun h => (Checked.ok.inj h).symm, fun h => h ▸ rfl⟩
  refine ⟨htakes, fun settings hsettings => (htakes _).1 ?_⟩
  exact takes_of_takenFrom (settings_eq_ok_iff.1 hsettings) hpath

/-! ### A file outside the working directory -/

/-- A settings file with a relative path in it, and with an empty one. -/
def pathEntries : Entries String Value :=
  [("extra_terms_path", .string "terms//./local.json"), ("log_dir", .string "")]

def pathContent : String :=
  "\x7b\"extra_terms_path\":\"terms//./local.json\",\"log_dir\":\"\"\x7d"

/-- That file in another directory than the working directory, and a variable that is set to nothing. -/
def elsewhere : Surroundings where
  files :=
    { base := ["srv"]
      entries := [(Path.place ["etc", "lux", fileName], .text pathContent)] }
  environment := [("LUX_QUERY_EXTRA_TERMS", "")]

theorem pathEntries_isJson : (Value.map pathEntries).IsJson (some Numeral.digitLimit) := by
  have hkeys : ∀ entry ∈ pathEntries, ∃ key, entry.1 = keep key := by
    simp only [pathEntries, List.forall_mem_cons]
    exact ⟨⟨"extra_terms_path", rfl⟩, ⟨"log_dir", rfl⟩, List.forall_mem_nil _⟩
  have hvalues : ∀ entry ∈ pathEntries, entry.2.IsJson (some Numeral.digitLimit) := by
    simp only [pathEntries, List.forall_mem_cons]
    exact ⟨.string "terms//./local.json", .string "", List.forall_mem_nil _⟩
  exact .map (by decide) hkeys hvalues

/-- The call that loads it. -/
def loadElsewhere : Call := ⟨elsewhere, some ⟨.slash, ["etc", "lux"]⟩⟩

theorem loadElsewhere_finds : loadElsewhere.Finds pathEntries :=
  finds_of_written pathEntries_isJson (rfl : _ = Except.ok pathContent) rfl

theorem loadElsewhere_settings :
    ∃ settings, (({} : Loader).call loadElsewhere).1.settings elsewhere = .ok settings ∧
      settings.logDirectory = some ⟨.relative, []⟩ := by
  rw [call_of_finds loadElsewhere_finds]
  exact ⟨_, rfl, rfl⟩

/-- The relative path starts in the directory of the file. -/
theorem loadElsewhere_anchored :
    (∀ other, ¬ elsewhere.Decides .extraTerms other) ∧
      ∃ settings, (({} : Loader).call loadElsewhere).1.settings elsewhere = .ok settings ∧
        settings.extraTerms = some ⟨.slash, ["etc", "lux", "terms", "local.json"]⟩ := by
  have hopen : ∀ other, ¬ elsewhere.Decides .extraTerms other := by
    rintro other ⟨hset, hother⟩
    exact hother (Option.some.inj hset).symm
  have hnormal : (⟨.slash, ["etc", "lux"]⟩ : Path).Normal := by simp [Path.Normal]
  obtain ⟨settings, hsettings, -⟩ := loadElsewhere_settings
  obtain ⟨-, -, hanchored⟩ := file_paths_anchored loadElsewhere_finds rfl hnormal rfl
    (rfl : Setting.extraTerms.isPath = true) rfl (by decide)
  obtain ⟨-, hplace⟩ := hanchored elsewhere hopen
  exact ⟨hopen, settings, hsettings, hplace settings hsettings⟩

/-- The empty path does not: it is read as the working directory. -/
theorem empty_path_not_anchored :
    loadElsewhere.Finds pathEntries ∧ pathEntries.get? Setting.logDirectory.key = some (.string "") ∧
      (∀ other, ¬ elsewhere.Decides .logDirectory other) ∧
      ∃ settings, (({} : Loader).call loadElsewhere).1.settings elsewhere = .ok settings ∧
        settings.logDirectory = some ⟨.relative, []⟩ ∧
        elsewhere.files.start ⟨.relative, []⟩ = Path.place ["srv"] := by
  obtain ⟨settings, hsettings, hdirectory⟩ := loadElsewhere_settings
  refine ⟨loadElsewhere_finds, rfl, ?_, settings, hsettings, hdirectory, rfl⟩
  rintro other ⟨hset, -⟩
  cases hset

end Loader

end ScopedSearch
