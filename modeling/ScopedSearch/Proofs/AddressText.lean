import ScopedSearch.Link.Address
import ScopedSearch.Proofs.JsonText

/-!
# Queries in addresses

The query in an address is the mapping without the scope at its root, as JSON and percent encoded.
Percent decoding inverts percent encoding character by character (`Text.percentDecode?_percentChar`) and
reading inverts writing (`Json.readWithin_write`), so that nothing else of the mapping is lost. A mapping
with a number in it that is too long to be written has no query (`addressQuery_of_isLong`). A tree is
addressed as its wire form, which has the scope of the tree at its root unless a term there takes the
place of it (`Query.get?_wireEntries_scopeKey`).
-/

namespace ScopedSearch

open ScopedSearch.Text

/-! ### Percent encoding -/

namespace Text

/-- The digits of an escape. -/
def upperHexDigits : List Char := "0123456789ABCDEF".toList

/-- ASCII letters, digits and marks, and escapes with two digits in upper case. -/
inductive Encoded : List Char → Prop
  | nil : Encoded []
  | plain {c : Char} {rest : List Char} : c.isAlphanum = true ∨ c ∈ unreservedMarks →
    Encoded rest → Encoded (c :: rest)
  | byte {high low : Char} {rest : List Char} : high ∈ upperHexDigits → low ∈ upperHexDigits →
    Encoded rest → Encoded ('%' :: high :: low :: rest)

/-- The bytes of a component: those of its characters, and those that its escapes stand for. -/
def percentDecode? : List Char → Option (List UInt8)
  | [] => some []
  | '%' :: high :: low :: rest => do
    let high ← Json.hexValue? high
    let low ← Json.hexValue? low
    let bytes ← percentDecode? rest
    return UInt8.ofNat (high * 16 + low) :: bytes
  | c :: rest =>
    if c = '%' then none else (percentDecode? rest).map (String.utf8EncodeChar c ++ ·)

/-- The text that a component stands for. -/
def decodeComponent? (component : String) : Option String := do
  let bytes ← percentDecode? component.toList
  String.fromUTF8? bytes.toByteArray

theorem Encoded.append {cs ds : List Char} (hcs : Encoded cs) (hds : Encoded ds) :
    Encoded (cs ++ ds) := by
  induction hcs with
  | nil => exact hds
  | plain hc _ ih => exact .plain hc ih
  | byte hhigh hlow _ ih => exact .byte hhigh hlow ih

theorem upperHexDigit_mem {n : Nat} (h : n < 16) : upperHexDigit n ∈ upperHexDigits := by
  interval_cases n <;> decide

theorem hexValue?_upperHexDigit {n : Nat} (h : n < 16) :
    Json.hexValue? (upperHexDigit n) = some n := by
  interval_cases n <;> rfl

theorem encoded_percentByte (byte : UInt8) : Encoded (percentByte byte) := by
  have hbyte := byte.toNat_lt
  exact .byte (upperHexDigit_mem (by omega)) (upperHexDigit_mem (by omega)) .nil

theorem encoded_flatMap_percentByte (bytes : List UInt8) :
    Encoded (bytes.flatMap percentByte) := by
  induction bytes with
  | nil => exact .nil
  | cons byte bytes ih =>
    rw [List.flatMap_cons]
    exact (encoded_percentByte byte).append ih

theorem encoded_percentChar (c : Char) : Encoded (percentChar c) := by
  unfold percentChar
  split
  · next h =>
    rw [isUnreserved, Bool.or_eq_true, List.contains_iff_mem] at h
    exact .plain h .nil
  · exact encoded_flatMap_percentByte _

/-- A component consists of characters that stand for themselves and escapes. -/
theorem encoded_percentEncode (s : String) : Encoded (percentEncode s).toList := by
  rw [percentEncode, String.toList_ofList]
  induction s.toList with
  | nil => exact .nil
  | cons c cs ih =>
    rw [List.flatMap_cons]
    exact (encoded_percentChar c).append ih

theorem percentDecode?_percentByte (byte : UInt8) (rest : List Char) :
    percentDecode? (percentByte byte ++ rest) = (percentDecode? rest).map (byte :: ·) := by
  have hbyte := byte.toNat_lt
  have hhigh : Json.hexValue? (upperHexDigit (byte.toNat / 16)) = some (byte.toNat / 16) :=
    hexValue?_upperHexDigit (by omega)
  have hlow : Json.hexValue? (upperHexDigit (byte.toNat % 16)) = some (byte.toNat % 16) :=
    hexValue?_upperHexDigit (by omega)
  have hvalue : UInt8.ofNat (byte.toNat / 16 * 16 + byte.toNat % 16) = byte := by
    rw [Nat.div_add_mod', UInt8.ofNat_toNat]
  rw [percentByte, List.cons_append, List.cons_append, List.cons_append, List.nil_append,
    percentDecode?, hhigh, hlow]
  dsimp only [bind, Option.bind]
  rw [hvalue]
  cases percentDecode? rest <;> rfl

theorem percentDecode?_flatMap_percentByte (bytes : List UInt8) (rest : List Char) :
    percentDecode? (bytes.flatMap percentByte ++ rest) = (percentDecode? rest).map (bytes ++ ·) := by
  induction bytes with
  | nil => simp
  | cons byte bytes ih =>
    rw [List.flatMap_cons, List.append_assoc, percentDecode?_percentByte, ih, Option.map_map]
    rfl

/-- The bytes of a character are those that it was encoded by. -/
theorem percentDecode?_percentChar (c : Char) (rest : List Char) :
    percentDecode? (percentChar c ++ rest) =
      (percentDecode? rest).map (String.utf8EncodeChar c ++ ·) := by
  unfold percentChar
  split
  · next h =>
    have hc : c ≠ '%' := by
      rintro rfl
      exact absurd h (by decide)
    rw [List.singleton_append, percentDecode?, if_neg hc]
    exact fun _ _ _ heq => absurd heq hc
  · exact percentDecode?_flatMap_percentByte _ _

/-- Decoding gives back the text that was encoded. -/
theorem decodeComponent?_percentEncode (s : String) : decodeComponent? (percentEncode s) = some s := by
  have hbytes (cs : List Char) :
      percentDecode? (cs.flatMap percentChar) = some (cs.flatMap String.utf8EncodeChar) := by
    induction cs with
    | nil => rfl
    | cons c cs ih =>
      rw [List.flatMap_cons, percentDecode?_percentChar, ih]
      rfl
  have htext : (s.toList.flatMap String.utf8EncodeChar).toByteArray = s.toByteArray :=
    String.utf8Encode_toList
  rw [decodeComponent?, percentEncode, String.toList_ofList, hbytes]
  dsimp only [bind, Option.bind]
  rw [htext, String.fromUTF8?, dif_pos s.isValidUTF8]
  rfl

end Text

/-! ### Mappings -/

/-- What is written of the data of a mapping without the scope at its root. -/
theorem isJson_erase {limit : Option Nat} {entries : Entries String Value}
    (h : (Value.map entries).IsJson limit) (key : String) :
    (Value.map (entries.erase key)).IsJson limit := by
  have hkept : entries.erase key ⊆ entries := fun _ hentry => (List.mem_filter.1 hentry).1
  cases h with
  | map hnodup hkeys hvalues =>
    refine .map ?_ (fun entry hentry => hkeys entry (hkept hentry)) fun entry hentry =>
      hvalues entry (hkept hentry)
    exact (List.filter_sublist.map Prod.fst).nodup hnodup

theorem component_keep (text : String) : component (keep text) = .ok (percentEncode text) := by
  rw [component, component?, release?_keep, Option.map_some]

/-- The query is what is written of the entries without the scope at the root. -/
theorem addressQuery_of_written {value : Value} {entries : Entries String Value} {text : String}
    (hentries : wireEntriesOf value = .ok entries)
    (hwritten : Json.write (.map (entries.erase scopeKey)) = .ok (keep text)) :
    addressQuery value = .ok (percentEncode text) := by
  rw [addressQuery, hentries]
  dsimp only [bind, Except.bind]
  rw [hwritten]
  exact component_keep text

section

variable {entries first second : Entries String Value}

/-- The query of a mapping stands for the mapping without the scope at its root. -/
theorem addressQuery_map (h : (Value.map entries).IsJson none)
    (hshort : ¬ (Value.map (entries.erase scopeKey)).IsLong) :
    ∃ query text, addressQuery (.map entries) = .ok query ∧ Encoded query.toList ∧
      decodeComponent? query = some text ∧
      Json.read (keep text) = .ok (.map (entries.erase scopeKey)) := by
  obtain ⟨text, hwritten, hread⟩ :=
    Json.readWithin_write (le_refl _) ((isJson_erase h scopeKey).limited hshort)
  exact ⟨percentEncode text, text, addressQuery_of_written rfl hwritten, encoded_percentEncode text,
    decodeComponent?_percentEncode text, hread⟩

/-- A number that is too long cannot be written. -/
theorem addressQuery_of_isLong (h : (Value.map entries).IsJson none)
    (hlong : (Value.map (entries.erase scopeKey)).IsLong) :
    addressQuery (.map entries) = .error (.misuse .numeralTooLong) := by
  have hrefused : Json.write (.map (entries.erase scopeKey)) = .error .numeralTooLong :=
    map_eq_error_iff.2 ((Json.chars_eq_error_iff (isJson_erase h scopeKey) _).2 ⟨rfl, hlong⟩)
  rw [addressQuery, wireEntriesOf]
  dsimp only [bind, Except.bind]
  rw [hrefused]

/-- Mappings that differ elsewhere than in the scope at the root have different queries. -/
theorem erase_eq_of_addressQuery_eq {query : String} (hfirst : (Value.map first).IsJson none)
    (hsecond : (Value.map second).IsJson none) (hquery : addressQuery (.map first) = .ok query)
    (h : addressQuery (.map second) = .ok query) : first.erase scopeKey = second.erase scopeKey := by
  have hshort {entries : Entries String Value} (hdata : (Value.map entries).IsJson none)
      (h : addressQuery (.map entries) = .ok query) :
      ¬ (Value.map (entries.erase scopeKey)).IsLong := by
    intro hlong
    rw [addressQuery_of_isLong hdata hlong] at h
    cases h
  obtain ⟨_, text, hfound, -, hdecode, hread⟩ := addressQuery_map hfirst (hshort hfirst hquery)
  obtain ⟨_, more, hother, -, hdecodeOther, hreadOther⟩ :=
    addressQuery_map hsecond (hshort hsecond h)
  rw [hquery] at hfound
  rw [h] at hother
  cases hfound
  cases hother
  rw [hdecode] at hdecodeOther
  cases hdecodeOther
  exact Value.map.inj (Except.ok.inj (hread.symm.trans hreadOther))

end

/-! ### Trees -/

namespace Query

/-- The term of a leaf or a hop. -/
def term? : Query → Option String
  | leaf term _ _ _ _ _ | hop term _ _ _ _ => some term
  | _ => none

/-- The wire form has the scope of a tree at its root, unless a term there is named like its key. -/
theorem get?_wireEntries_scopeKey {tree : Query} (h : tree.term? ≠ some scopeKey) :
    (tree.wireEntries none).get? scopeKey = tree.scope.map .string := by
  have hscope (scope : Option String) :
      (scopeEntries none scope).get? scopeKey = scope.map .string := by
    cases scope <;> rfl
  cases tree with
  | record id => rfl
  | leaf term value scope field fullText comparator =>
    have hterm : term ≠ scopeKey := fun heq => h (congrArg some heq)
    have hentries : Entries.get? ((scopeEntries none scope).put term value) scopeKey =
        scope.map .string := by
      rw [Entries.get?_put, if_neg hterm]
      exact hscope scope
    unfold wireEntries
    cases comparator with
    | none => exact hentries
    | some comparator =>
      rw [Entries.get?_put, if_neg (by decide)]
      exact hentries
  | hop term target scope field targetScope =>
    have hterm : term ≠ scopeKey := fun heq => h (congrArg some heq)
    rw [wireEntries, Entries.get?_put, if_neg hterm]
    exact hscope scope
  | group connective children scope =>
    have hkey : connective.key ≠ scopeKey := by cases connective <;> decide
    rw [wireEntries, Entries.get?_put, if_neg hkey]
    exact hscope scope

end Query

/-- A tree is addressed as its wire form. -/
theorem searchAddress_wire {tree : Query} (h : tree.term? ≠ some scopeKey) (host : String)
    (options : SearchOptions) :
    searchAddress host (.query tree) options = searchAddress host tree.wire options := by
  have hscope : rootScope? tree.wire = rootScope? (.query tree) := by
    have hwire : tree.wire = .map (tree.wireEntries none) := rfl
    rw [hwire, rootScope?, Query.get?_wireEntries_scopeKey h, rootScope?]
    cases tree.scope <;> rfl
  have hquery : addressQuery tree.wire = addressQuery (.query tree) := rfl
  rw [searchAddress, searchAddress, hscope, hquery]

/-! ### Nothing else is lost -/

/-- The query of a mapping consists of letters, digits, marks and escapes, and stands for a text that is
read as the mapping without the scope at its root, so that mappings which differ elsewhere have
different queries; only with a number that is too long is there no query. A tree is addressed as its
wire form: of its terms, only one at the root could take the place of the scope. -/
theorem addresses_stand_for_queries :
    (∀ entries : Entries String Value, (Value.map entries).IsJson none →
      (¬ (Value.map (entries.erase scopeKey)).IsLong →
        ∃ query text, addressQuery (.map entries) = .ok query ∧ Encoded query.toList ∧
          decodeComponent? query = some text ∧
          Json.read (keep text) = .ok (.map (entries.erase scopeKey))) ∧
      ((Value.map (entries.erase scopeKey)).IsLong →
        addressQuery (.map entries) = .error (.misuse .numeralTooLong))) ∧
    (∀ (first second : Entries String Value) (query : String), (Value.map first).IsJson none →
      (Value.map second).IsJson none → first.erase scopeKey ≠ second.erase scopeKey →
        addressQuery (.map first) = .ok query → addressQuery (.map second) ≠ .ok query) ∧
    ∀ tree : Query, tree.term? ≠ some scopeKey →
      addressQuery (.query tree) = addressQuery tree.wire ∧
        ∀ (host : String) (options : SearchOptions),
          searchAddress host (.query tree) options = searchAddress host tree.wire options :=
  ⟨fun _ h => ⟨addressQuery_map h, addressQuery_of_isLong h⟩,
    fun _ _ _ hfirst hsecond hne hquery h =>
      hne (erase_eq_of_addressQuery_eq hfirst hsecond hquery h),
    fun _ h => ⟨rfl, searchAddress_wire h⟩⟩

/-- The items of a year with a quotation in their name. -/
def quotedItems : Entries String Value :=
  [(scopeKey, .string (keep "item")), ("name", .string (keep "caf\u00e9 \"x\"\n")), ("year", .int (-12))]

/-- The items of that year. -/
def yearItems : Entries String Value := [("year", .int (-12))]

/-- The members of a set. -/
def setMembers : Query := .hop "memberOf" (.record ⟨"set:1", by decide⟩) (some "item") none none

/-- The items of a year whose number has one digit too many. -/
def farItems : Entries String Value := [("year", .int Numeral.leastLong)]

theorem quotedItems_isJson : (Value.map quotedItems).IsJson none := by
  have hkeys : ∀ entry ∈ quotedItems, ∃ key, entry.1 = keep key := by
    simp only [quotedItems, List.forall_mem_cons]
    exact ⟨⟨scopeKey, rfl⟩, ⟨"name", rfl⟩, ⟨"year", rfl⟩, List.forall_mem_nil _⟩
  have hvalues : ∀ entry ∈ quotedItems, entry.2.IsJson none := by
    simp only [quotedItems, List.forall_mem_cons]
    exact ⟨.string _, .string _, .int rfl, List.forall_mem_nil _⟩
  exact .map (by decide) hkeys hvalues

/-- The items of a year are data. -/
theorem isJson_year (n : Int) : (Value.map [("year", .int n)]).IsJson none := by
  have hkeys : ∀ entry ∈ [("year", Value.int n)], ∃ key, entry.1 = keep key := by
    rw [List.forall_mem_singleton]
    exact ⟨"year", rfl⟩
  have hvalues : ∀ entry ∈ [("year", Value.int n)], entry.2.IsJson none := by
    rw [List.forall_mem_singleton]
    exact .int rfl
  exact .map (List.pairwise_singleton _ _) hkeys hvalues

theorem quotedItems_not_isLong : ¬ (Value.map (quotedItems.erase scopeKey)).IsLong := by
  have herased : quotedItems.erase scopeKey =
      [("name", .string (keep "caf\u00e9 \"x\"\n")), ("year", .int (-12))] := rfl
  rw [herased, Value.isLong_map_iff]
  rintro ⟨entry, hentry, hlong⟩
  simp only [List.mem_cons, List.not_mem_nil, or_false] at hentry
  rcases hentry with rfl | rfl
  · cases hlong
  · exact Value.not_isLong_int_iff.2 (by decide) hlong

theorem farItems_isLong : (Value.map (farItems.erase scopeKey)).IsLong :=
  .map (List.mem_singleton.2 rfl) Value.isLong_leastLong

/-- The query of the items is read as them without their scope, which differs from that of another
mapping, and the members of the set are addressed as their wire form. The items of a year that is too
long to be written have no query. -/
theorem quotedItems_addressed :
    (Value.map quotedItems).IsJson none ∧ ¬ (Value.map (quotedItems.erase scopeKey)).IsLong ∧
      (Value.map yearItems).IsJson none ∧ quotedItems.erase scopeKey ≠ yearItems.erase scopeKey ∧
      (Value.map farItems).IsJson none ∧ (Value.map (farItems.erase scopeKey)).IsLong ∧
      setMembers.term? ≠ some scopeKey ∧
      (∃ text, addressQuery (.map quotedItems) =
          .ok "%7B%22name%22%3A%22caf%C3%A9%20%5C%22x%5C%22%5Cn%22%2C%22year%22%3A-12%7D" ∧
        Json.read (keep text) = .ok (.map (quotedItems.erase scopeKey))) ∧
      (∀ query, addressQuery (.map quotedItems) = .ok query →
        addressQuery (.map yearItems) ≠ .ok query) ∧
      addressQuery (.map farItems) = .error (.misuse .numeralTooLong) ∧
      searchAddress "" (.query setMembers) = searchAddress "" setMembers.wire := by
  obtain ⟨hmapping, hdiffer, htree⟩ := addresses_stand_for_queries
  have hyear : (Value.map yearItems).IsJson none := isJson_year (-12)
  have hfar : (Value.map farItems).IsJson none := isJson_year _
  have herased : quotedItems.erase scopeKey ≠ yearItems.erase scopeKey :=
    fun h => absurd (congrArg List.length h) (by decide)
  have hterm : setMembers.term? ≠ some scopeKey := by decide
  obtain ⟨query, text, hquery, -, -, hread⟩ :=
    (hmapping _ quotedItems_isJson).1 quotedItems_not_isLong
  exact ⟨quotedItems_isJson, quotedItems_not_isLong, hyear, herased, hfar, farItems_isLong, hterm,
    ⟨text, rfl, hread⟩, fun query => hdiffer _ _ query quotedItems_isJson hyear herased,
    (hmapping _ hfar).2 farItems_isLong, (htree _ hterm).2 "" {}⟩

/-- Data with a number that is too long to be written have no query. -/
theorem farItems_not_addressed :
    (Value.map farItems).IsJson none ∧ ¬ ∃ query, addressQuery (.map farItems) = .ok query := by
  have hfar : (Value.map farItems).IsJson none := isJson_year _
  refine ⟨hfar, ?_⟩
  rintro ⟨query, h⟩
  rw [addressQuery_of_isLong hfar farItems_isLong] at h
  cases h

end ScopedSearch
