import ScopedSearch.Proofs.AddressText
import ScopedSearch.Proofs.FloatText
import ScopedSearch.Proofs.Nesting
import ScopedSearch.Site
import ScopedSearch.Text.Split

/-!
# The parameters of a search address

A search address ends in a query string, which is taken apart as a form: into parameters at every `&`,
and each of them into a name and a value at its first `=` (`Text.formParameters?`). The query and the
name of a facet are percent encoded, so that no mark of a form comes up in them
(`Text.formText?_percentEncode`). The order of the hits is put in as it is: it is read back if it holds
none of the marks that mean something in an address (`Text.formText?_keep`), and the address then
carries its three parameters and no other (`search_carries_parameters`). An order with such a mark
changes the parameters (`sort_adds_parameter`).
-/

namespace ScopedSearch

open ScopedSearch.Text

/-! ### Forms -/

namespace Text

/-- What comes after the first question mark of an address, up to a fragment. -/
def queryString (address : String) : String :=
  String.ofList (((address.toList.takeWhile (· ≠ '#')).dropWhile (· ≠ '?')).drop 1)

/-- A text of a form: a plus sign stands for a blank, and an escape for a byte. -/
def formText? (cs : List Char) : Option String := do
  let text ← release? (String.ofList (cs.map fun c => if c = '+' then ' ' else c))
  decodeComponent? text

/-- The name and the value of a parameter. -/
def formParameter? (cs : List Char) : Option (String × String) := do
  let name ← formText? (cs.takeWhile (· ≠ '='))
  let value ← formText? ((cs.dropWhile (· ≠ '=')).drop 1)
  return (name, value)

/-- The parameters of a query string. -/
def formParameters? (query : String) : Option (List (String × String)) :=
  (splitAtMark '&' query.toList).mapM formParameter?

/-- The marks that mean something in an address, or in a text of a form. -/
def formMarks : List Char := ['&', '%', '+', '#']

theorem mem_keep {c : Char} {text : String} : c ∈ (keep text).toList ↔ c ∈ text.toList := by
  rw [keep, String.toList_ofList, List.mem_flatMap]
  constructor
  · rintro ⟨d, hd, hc⟩
    rw [CodePoint.kept] at hc
    split at hc
    · next hmark =>
      obtain rfl : c = surrogateMark := by simpa using hc
      exact hmark ▸ hd
    · exact List.mem_singleton.1 hc ▸ hd
  · intro hc
    refine ⟨c, hc, ?_⟩
    rw [CodePoint.kept]
    split
    · next hmark => simp [hmark]
    · exact List.mem_singleton_self c

theorem keep_eq_self {text : String} (h : surrogateMark ∉ text.toList) : keep text = text := by
  have hkept : ∀ cs : List Char, surrogateMark ∉ cs →
      (cs.flatMap fun c => (CodePoint.char c).kept) = cs := by
    intro cs hcs
    induction cs with
    | nil => rfl
    | cons c cs ih =>
      rw [List.mem_cons, not_or] at hcs
      rw [List.flatMap_cons, ih hcs.2, CodePoint.kept, if_neg (Ne.symm hcs.1)]
      rfl
  rw [keep, hkept _ h, String.ofList_toList]

theorem keep_ne_empty {text : String} (h : text ≠ "") : keep text ≠ "" := by
  intro hempty
  have hrelease := release?_keep text
  rw [hempty] at hrelease
  exact h (Option.some.inj hrelease).symm

/-- Without a percent sign every character stands for itself. -/
theorem decodeComponent?_of_notMem {text : String} (h : '%' ∉ text.toList) :
    decodeComponent? text = some text := by
  have hbytes : ∀ cs : List Char, '%' ∉ cs →
      percentDecode? cs = some (cs.flatMap String.utf8EncodeChar) := by
    intro cs hcs
    induction cs with
    | nil => rfl
    | cons c cs ih =>
      rw [List.mem_cons, not_or] at hcs
      rw [percentDecode?, if_neg (Ne.symm hcs.1), ih hcs.2]
      · rfl
      · exact fun _ _ _ heq => absurd heq.symm hcs.1
  have htext : (text.toList.flatMap String.utf8EncodeChar).toByteArray = text.toByteArray :=
    String.utf8Encode_toList
  rw [decodeComponent?, hbytes _ h]
  dsimp only [bind, Option.bind]
  rw [htext, String.fromUTF8?, dif_pos text.isValidUTF8]
  rfl

/-- Without a plus sign a kept text of a form is that of a component. -/
theorem formText?_of_notMem {text : String} (h : '+' ∉ text.toList) :
    formText? (keep text).toList = decodeComponent? text := by
  have hmap : (keep text).toList.map (fun c => if c = '+' then ' ' else c) = (keep text).toList := by
    conv_rhs => rw [← List.map_id (keep text).toList]
    apply List.map_congr_left
    intro c hc
    rw [if_neg]
    · rfl
    · rintro rfl
      exact h (mem_keep.1 hc)
  rw [formText?, hmap, String.ofList_toList, release?_keep]
  rfl

/-- A text without marks of a form is read as it stands. -/
theorem formText?_keep {text : String} (h : ∀ c ∈ formMarks, c ∉ text.toList) :
    formText? (keep text).toList = some text := by
  rw [formText?_of_notMem (h '+' (by decide)), decodeComponent?_of_notMem (h '%' (by decide))]

/-- No mark of an address or a form comes up in a component, but the percent signs of its escapes. -/
theorem Encoded.notMem {cs : List Char} (h : Encoded cs) {mark : Char}
    (hplain : mark.isAlphanum = false) (hmarks : mark ∉ '%' :: unreservedMarks)
    (hdigits : mark ∉ upperHexDigits) : mark ∉ cs := by
  rw [List.mem_cons, not_or] at hmarks
  induction h with
  | nil => exact List.not_mem_nil
  | @plain c rest hc _ ih =>
    rw [List.mem_cons, not_or]
    refine ⟨?_, ih⟩
    rintro rfl
    rcases hc with hc | hc
    · cases hplain.symm.trans hc
    · exact hmarks.2 hc
  | @byte high low rest hhigh hlow _ ih =>
    rw [List.mem_cons, List.mem_cons, List.mem_cons, not_or, not_or, not_or]
    refine ⟨hmarks.1, ?_, ?_, ih⟩
    · rintro rfl
      exact hdigits hhigh
    · rintro rfl
      exact hdigits hlow

theorem keep_percentEncode (text : String) : keep (percentEncode text) = percentEncode text :=
  keep_eq_self ((encoded_percentEncode text).notMem (by decide) (by decide) (by decide))

theorem formText?_percentEncode (text : String) :
    formText? (percentEncode text).toList = some text := by
  have hplus : '+' ∉ (percentEncode text).toList :=
    (encoded_percentEncode text).notMem (by decide) (by decide) (by decide)
  rw [← keep_percentEncode, formText?_of_notMem hplus]
  exact decodeComponent?_percentEncode text

theorem percentEncode_ne_empty {text : String} (h : text ≠ "") : percentEncode text ≠ "" := by
  intro hempty
  have hdecode := decodeComponent?_percentEncode text
  rw [hempty] at hdecode
  exact h (Option.some.inj hdecode).symm

/-- A text is split at the first mark that comes up in it. -/
theorem takeWhile_dropWhile_mark {mark : Char} {front : List Char} (h : mark ∉ front)
    (rest : List Char) :
    (front ++ mark :: rest).takeWhile (· ≠ mark) = front ∧
      (front ++ mark :: rest).dropWhile (· ≠ mark) = mark :: rest := by
  have hne : ∀ c ∈ front, decide (c ≠ mark) = true := by
    intro c hc
    apply decide_eq_true
    rintro rfl
    exact h hc
  constructor
  · rw [List.takeWhile_append_of_pos hne]
    simp
  · rw [List.dropWhile_append_of_pos hne]
    simp

/-- A name and a value, neither with a mark that ends it, are read as one parameter. -/
theorem formParameter?_eq {name value : List Char} {nameText valueText : String} (h : '=' ∉ name)
    (hname : formText? name = some nameText) (hvalue : formText? value = some valueText) :
    formParameter? (name ++ '=' :: value) = some (nameText, valueText) := by
  obtain ⟨htake, hdrop⟩ := takeWhile_dropWhile_mark h value
  rw [formParameter?, htake, hdrop, hname, List.drop_one, List.tail_cons, hvalue]
  rfl

/-- The query string of an address whose path has no mark of an address. -/
theorem queryString_append {path query : String} (hpath : '?' ∉ path.toList ∧ '#' ∉ path.toList)
    (hquery : '#' ∉ query.toList) : queryString (path ++ "?" ++ query) = query := by
  have haddress : (path ++ "?" ++ query).toList = path.toList ++ '?' :: query.toList := by
    simp
  have hfragment : (path ++ "?" ++ query).toList.takeWhile (· ≠ '#') =
      path.toList ++ '?' :: query.toList := by
    rw [haddress, List.takeWhile_eq_self_iff]
    intro c hc
    apply decide_eq_true
    rintro rfl
    rcases List.mem_append.1 hc with hc | hc
    · exact hpath.2 hc
    · rcases List.mem_cons.1 hc with hc | hc
      · exact absurd hc (by decide)
      · exact hquery hc
  obtain ⟨-, hdrop⟩ := takeWhile_dropWhile_mark hpath.1 query.toList
  rw [queryString, hfragment, hdrop, List.drop_one, List.tail_cons, String.ofList_toList]

end Text

/-! ### Data of trees -/

/-- The text has no lone surrogate. -/
def IsKept (text : String) : Prop := ∃ plain, text = keep plain

namespace Value

variable {limit : Option Nat}

theorem isData_map_iff {entries : Entries String Value} :
    (Value.map entries).IsData limit ↔ entries.keys.Nodup ∧
      (∀ entry ∈ entries, IsKept entry.1) ∧ ∀ entry ∈ entries, entry.2.IsData limit := by
  constructor
  · intro h
    cases h with
    | json h =>
      cases h with
      | map hnodup hkeys hvalues =>
        exact ⟨hnodup, hkeys, fun entry hentry => .json (hvalues entry hentry)⟩
    | map hnodup hkeys hvalues => exact ⟨hnodup, hkeys, hvalues⟩
  · rintro ⟨hnodup, hkeys, hvalues⟩
    exact .map hnodup hkeys hvalues

theorem isData_erase {entries : Entries String Value} (h : (Value.map entries).IsData limit)
    (key : String) : (Value.map (entries.erase key)).IsData limit := by
  obtain ⟨hnodup, hkeys, hvalues⟩ := isData_map_iff.1 h
  have hkept : entries.erase key ⊆ entries := fun _ hentry => (List.mem_filter.1 hentry).1
  refine isData_map_iff.2 ⟨(List.filter_sublist.map Prod.fst).nodup hnodup, ?_, ?_⟩
  · intro entry hentry
    exact hkeys entry (hkept hentry)
  · intro entry hentry
    exact hvalues entry (hkept hentry)

theorem isData_put {entries : Entries String Value} (h : (Value.map entries).IsData limit)
    {key : String} (hkey : IsKept key) {value : Value} (hvalue : value.IsData limit) :
    (Value.map (entries.put key value)).IsData limit := by
  obtain ⟨hnodup, hkeys, hvalues⟩ := isData_map_iff.1 h
  refine isData_map_iff.2 ⟨?_, ?_, ?_⟩
  · rw [Entries.keys_put]
    split
    · exact hnodup
    · next hnew => exact List.nodup_append.2 ⟨hnodup, List.nodup_singleton key, by
        rintro k hk _ hother rfl
        exact hnew (List.mem_singleton.1 hother ▸ hk)⟩
  · intro entry hentry
    rcases Entries.mem_of_mem_put hentry with rfl | hold
    · exact hkey
    · exact hkeys entry hold
  · intro entry hentry
    rcases Entries.mem_of_mem_put hentry with rfl | hold
    · exact hvalue
    · exact hvalues entry hold

theorem isData_string {text : String} (h : IsKept text) : (Value.string text).IsData limit := by
  obtain ⟨plain, rfl⟩ := h
  exact .json (.string plain)

/-- No number is too long in data that are read within the limit. -/
theorem IsData.not_isLong {limit : Nat} (hlimit : limit ≤ Numeral.digitLimit) {value : Value}
    (h : value.IsData (some limit)) : ¬ value.IsLong := by
  induction h with
  | json h => exact h.not_isLong hlimit
  | float _ => exact not_isLong_float _
  | list _ ih =>
    rw [isLong_list_iff]
    rintro ⟨item, hitem, hlong⟩
    exact ih item hitem hlong
  | map _ _ _ ih =>
    rw [isLong_map_iff]
    rintro ⟨entry, hentry, hlong⟩
    exact ih entry hentry hlong

/-- Data have a text as a scope in an address. -/
theorem IsData.exists_scopeText {limit : Nat} (hlimit : limit ≤ Numeral.digitLimit) {value : Value}
    (h : value.IsData (some limit)) : ∃ text, scopeText value = .ok text := by
  obtain ⟨text, htext⟩ := exists_text (h.not_isLong hlimit)
  cases value with
  | query tree =>
    cases h with
    | json h => cases h
  | _ => exact ⟨text, htext⟩

end Value

namespace Query

variable {limit : Option Nat}

/-- What a node writes is data. -/
def NodeIsData (limit : Option Nat) : Query → Prop
  | record id => IsKept id.text
  | leaf term value scope _ _ _ =>
    IsKept term ∧ value.IsData limit ∧ ∀ name ∈ scope, IsKept name
  | hop term _ scope _ _ => IsKept term ∧ ∀ name ∈ scope, IsKept name
  | group _ _ scope => ∀ name ∈ scope, IsKept name

/-- The texts of a tree have no lone surrogate, and the values of its leaves are data. -/
def IsData (limit : Option Nat) (tree : Query) : Prop := ∀ node ∈ tree.nodes, node.NodeIsData limit

theorem isData_scopeEntries {scope : Option String} (h : ∀ name ∈ scope, IsKept name)
    (context : Option String) : (Value.map (scopeEntries context scope)).IsData limit := by
  have hnone : (Value.map []).IsData limit :=
    Value.isData_map_iff.2 ⟨List.nodup_nil, nofun, nofun⟩
  cases scope with
  | none => exact hnone
  | some name =>
    rcases scopeEntries_cases context name with heq | heq
    · rw [heq]
      exact hnone
    · rw [heq]
      exact Value.isData_put hnone ⟨scopeKey, rfl⟩ (Value.isData_string (h name rfl))

/-- The wire form of such a tree is data. -/
theorem isData_wire {tree : Query} (h : tree.IsData limit) (context : Option String) :
    (tree.wire context).IsData limit := by
  induction tree generalizing context with
  | record id =>
    have hid : IsKept id.text := h _ List.mem_cons_self
    exact Value.isData_map_iff.2 ⟨List.nodup_singleton _,
      List.forall_mem_singleton.2 ⟨"id", rfl⟩, List.forall_mem_singleton.2 (Value.isData_string hid)⟩
  | leaf term value scope field fullText comparator =>
    obtain ⟨hterm, hvalue, hscope⟩ : IsKept term ∧ value.IsData limit ∧ ∀ name ∈ scope, IsKept name :=
      h _ List.mem_cons_self
    have hentries := Value.isData_put (isData_scopeEntries hscope context) hterm hvalue
    unfold wire wireEntries
    cases comparator with
    | none => exact hentries
    | some comparator =>
      have hsign : IsKept comparator.sign := ⟨comparator.sign, by cases comparator <;> rfl⟩
      exact Value.isData_put hentries ⟨comparatorKey, rfl⟩ (Value.isData_string hsign)
  | hop term target scope field targetScope ih =>
    obtain ⟨hterm, hscope⟩ : IsKept term ∧ ∀ name ∈ scope, IsKept name := h _ List.mem_cons_self
    have htarget : target.IsData limit := fun node hnode => h node (List.mem_cons_of_mem _ hnode)
    rw [wire, wireEntries]
    exact Value.isData_put (isData_scopeEntries hscope context) hterm (ih htarget targetScope)
  | group connective children scope ih =>
    have hscope : ∀ name ∈ scope, IsKept name := h _ List.mem_cons_self
    have hkey : IsKept connective.key := ⟨connective.key, by cases connective <;> rfl⟩
    have hchildren : (Value.list (wireList (scope.or context) children)).IsData limit := by
      rw [wireList_eq_map]
      refine .list ?_
      rw [List.forall_mem_map]
      intro child hchild
      refine ih child hchild ?_ _
      intro node hnode
      apply h node
      rw [nodes, nodesList_eq_flatMap]
      exact List.mem_cons_of_mem _ (List.mem_flatMap.2 ⟨child, hchild, hnode⟩)
    rw [wire, wireEntries]
    exact Value.isData_put (isData_scopeEntries hscope context) hkey hchildren

end Query

/-! ### Addresses -/

/-- Nothing in the text ends the path of an address. -/
def IsPath (text : String) : Prop := '?' ∉ text.toList ∧ '#' ∉ text.toList

/-- The parameters of the address are a query, a facet and an order of the hits, each of them once, and
nothing else, and the query is read as the entries without the scope at the root. -/
def Carries (limit : Option Nat) (address : String) (entries : Entries String Value)
    (facetName sort : String) : Prop :=
  ∃ text, formParameters? (queryString address) =
      some [("q", text), ("name", facetName), ("sort", sort)] ∧
    Json.readWithin limit (keep text) = .ok (.map (entries.erase scopeKey))

theorem IsPath.append {text more : String} (htext : IsPath text) (hmore : IsPath more) :
    IsPath (text ++ more) := by
  rw [IsPath, String.toList_append, List.mem_append, List.mem_append, not_or, not_or]
  exact ⟨⟨htext.1, hmore.1⟩, ⟨htext.2, hmore.2⟩⟩

/-- The parameters of a search address. -/
def parameters (text facetName sort : String) : List (List Char) :=
  ["q".toList ++ '=' :: (percentEncode text).toList,
    "name".toList ++ '=' :: (percentEncode facetName).toList,
    "sort".toList ++ '=' :: (keep sort).toList]

/-- What ends a parameter or an address does not come up in a parameter. -/
theorem notMem_parameters {mark : Char} (hmark : mark = '&' ∨ mark = '#') (text facetName : String)
    {sort : String} (h : mark ∉ sort.toList) :
    ∀ part ∈ parameters text facetName sort, mark ∉ part := by
  have hplain (text : String) : mark ∉ (percentEncode text).toList := by
    rcases hmark with rfl | rfl
    · exact (encoded_percentEncode text).notMem (by decide) (by decide) (by decide)
    · exact (encoded_percentEncode text).notMem (by decide) (by decide) (by decide)
  have hpart {name value : List Char} (hname : mark ∉ '=' :: name) (hvalue : mark ∉ value) :
      mark ∉ name ++ '=' :: value := by
    rw [List.mem_cons, not_or] at hname
    rw [List.mem_append, List.mem_cons, not_or, not_or]
    exact ⟨hname.2, hname.1, hvalue⟩
  have hnames : mark ∉ '=' :: "q".toList ∧ mark ∉ '=' :: "name".toList ∧
      mark ∉ '=' :: "sort".toList := by
    rcases hmark with rfl | rfl <;> decide
  rw [parameters, List.forall_mem_cons, List.forall_mem_cons, List.forall_mem_singleton]
  exact ⟨hpart hnames.1 (hplain text), hpart hnames.2.1 (hplain facetName),
    hpart hnames.2.2 (mt mem_keep.1 h)⟩

theorem formParameters?_parameters (text facetName : String) {sort : String}
    (h : ∀ c ∈ formMarks, c ∉ sort.toList) :
    formParameters? (String.ofList (['&'].intercalate (parameters text facetName sort))) =
      some [("q", text), ("name", facetName), ("sort", sort)] := by
  have hparts := notMem_parameters (.inl rfl) text facetName (h '&' (by decide))
  have hquery : formParameter? ("q".toList ++ '=' :: (percentEncode text).toList) = some ("q", text) :=
    formParameter?_eq (by decide) rfl (formText?_percentEncode text)
  have hname : formParameter? ("name".toList ++ '=' :: (percentEncode facetName).toList) =
      some ("name", facetName) :=
    formParameter?_eq (by decide) rfl (formText?_percentEncode facetName)
  have horder : formParameter? ("sort".toList ++ '=' :: (keep sort).toList) = some ("sort", sort) :=
    formParameter?_eq (by decide) rfl (formText?_keep h)
  have hne : parameters text facetName sort ≠ [] := List.cons_ne_nil _ _
  rw [formParameters?, String.toList_ofList, splitAtMark_intercalate hne hparts, parameters,
    List.mapM_cons, List.mapM_cons, List.mapM_cons, hquery, hname, horder]
  rfl

theorem parameter_of_ne_empty (name : String) {value : String} (h : value ≠ "") :
    parameter name (some value) = "&" ++ name ++ "=" ++ value := by
  unfold parameter
  split
  · next heq => cases heq
  · next heq => exact absurd (Option.some.inj heq) h
  · next heq =>
    cases heq
    rfl

/-- An address is a path and the parameters after it. -/
theorem searchAddress_eq {value scope : Value} {entries : Entries String Value}
    {host endpoint place text facetName sort : String} (hentries : wireEntriesOf value = .ok entries)
    (hscope : rootScope? value = some scope) (hplace : scopeText scope = .ok place)
    (hwritten : Json.write (.map (entries.erase scopeKey)) = .ok (keep text))
    (hfacetName : facetName ≠ "") (hsort : sort ≠ "") :
    searchAddress host value
        { endpoint := endpoint, facetName := some (keep facetName), sort := some (keep sort) } =
      .ok (hostOrDefault host ++ "/api/" ++ endpoint ++ "/" ++ place ++ "?" ++
        String.ofList (['&'].intercalate (parameters text facetName sort))) := by
  have hquery := addressQuery_of_written hentries hwritten
  have hname : (some (keep facetName)).mapM component = .ok (some (percentEncode facetName)) := by
    rw [Option.mapM_some, component_keep]
    rfl
  rw [searchAddress, hscope]
  dsimp only
  rw [hplace, hquery, hname]
  dsimp only [bind, Except.bind]
  rw [parameter_of_ne_empty "name" (percentEncode_ne_empty hfacetName),
    parameter_of_ne_empty "sort" (keep_ne_empty hsort)]
  refine congrArg Except.ok (String.toList_injective ?_)
  simp [parameters]

theorem isPath_hostOrDefault {host : String} (h : IsPath host) : IsPath (hostOrDefault host) := by
  unfold hostOrDefault
  split
  · exact ⟨by decide, by decide⟩
  · exact h

/-- The scope at the root of data is data. -/
theorem isData_rootScope {limit : Option Nat} {entries : Entries String Value} {scope : Value}
    (hdata : (Value.map entries).IsData limit) (hscope : rootScope? (.map entries) = some scope) :
    scope.IsData limit := by
  rw [rootScope?] at hscope
  split at hscope
  · cases hscope
  · cases hscope
  · next hget =>
    cases hscope
    exact (Value.isData_map_iff.1 hdata).2.2 _ (Entries.mem_of_get? hget)

/-- An address with an order that holds no mark of a form carries what it was made of. -/
theorem carries_searchAddress {limit : Nat} (hlimit : limit ≤ Numeral.digitLimit)
    {value scope : Value} {entries : Entries String Value}
    {host endpoint place facetName sort : String}
    (hentries : wireEntriesOf value = .ok entries) (hscope : rootScope? value = some scope)
    (hdata : (Value.map entries).IsData (some limit)) (hhost : IsPath host)
    (hplace : scopeText scope = .ok place) (hpath : IsPath place)
    (hendpoint : endpoint = "search" ∨ endpoint = "facets")
    (hfacetName : facetName ≠ "") (hsort : sort ≠ "")
    (hmarks : ∀ c ∈ formMarks, c ∉ sort.toList) :
    ∃ address, searchAddress host value
        { endpoint := endpoint, facetName := some (keep facetName), sort := some (keep sort) } =
          .ok address ∧ Carries (some limit) address entries facetName sort := by
  obtain ⟨text, hwritten, hread⟩ :=
    Json.readWithin_of_isData hlimit (Value.isData_erase hdata scopeKey)
  have haddress : IsPath (hostOrDefault host ++ "/api/" ++ endpoint ++ "/" ++ place) := by
    have hslash : IsPath "/api/" ∧ IsPath "/" := ⟨⟨by decide, by decide⟩, ⟨by decide, by decide⟩⟩
    have hendpoint : IsPath endpoint := by
      rcases hendpoint with rfl | rfl
      · exact ⟨by decide, by decide⟩
      · exact ⟨by decide, by decide⟩
    exact ((((isPath_hostOrDefault hhost).append hslash.1).append hendpoint).append
      hslash.2).append hpath
  have hfragment : '#' ∉
      (String.ofList (['&'].intercalate (parameters text facetName sort))).toList := by
    have hparts := notMem_parameters (.inr rfl) text facetName (hmarks '#' (by decide))
    rw [parameters, List.forall_mem_cons, List.forall_mem_cons, List.forall_mem_singleton] at hparts
    rw [String.toList_ofList, parameters, List.intercalate_cons_cons, List.intercalate_cons_cons,
      List.intercalate_singleton]
    simp only [List.mem_append, not_or] at hparts ⊢
    exact ⟨⟨hparts.1, by decide⟩, ⟨hparts.2.1, by decide⟩, hparts.2.2⟩
  refine ⟨_, searchAddress_eq hentries hscope hplace hwritten hfacetName hsort, text, ?_, hread⟩
  rw [queryString_append haddress hfragment]
  exact formParameters?_parameters text facetName hmarks

/-- An address for a tree, or for a mapping as it is, carries the query, the facet and the order of the
hits that it was made of and nothing else, whatever the host, if the order holds no mark of a form and
the path none that ends it. -/
theorem search_carries_parameters {limit : Nat} (hlimit : limit ≤ Numeral.digitLimit)
    {host endpoint facetName sort : String}
    (hhost : IsPath host) (hendpoint : endpoint = "search" ∨ endpoint = "facets")
    (hfacetName : facetName ≠ "") (hsort : sort ≠ "") (hmarks : ∀ c ∈ formMarks, c ∉ sort.toList) :
    (∀ (tree : Query) (scope : String), tree.IsData (some limit) → tree.scope = some scope →
      IsPath scope →
      ∃ address, searchAddress host (.query tree)
          { endpoint := endpoint, facetName := some (keep facetName), sort := some (keep sort) } =
            .ok address ∧ Carries (some limit) address (tree.wireEntries none) facetName sort) ∧
    ∀ (entries : Entries String Value) (scope : Value), (Value.map entries).IsData (some limit) →
      rootScope? (.map entries) = some scope →
      (∀ place, scopeText scope = .ok place → IsPath place) →
      ∃ address, searchAddress host (.map entries)
          { endpoint := endpoint, facetName := some (keep facetName), sort := some (keep sort) } =
            .ok address ∧ Carries (some limit) address entries facetName sort := by
  constructor
  · intro tree scope hdata hscope hpath
    have hroot : rootScope? (.query tree) = some (.string scope) := by
      rw [rootScope?, hscope]
      rfl
    have hwire : (Value.map (tree.wireEntries none)).IsData (some limit) :=
      Query.isData_wire hdata none
    exact carries_searchAddress hlimit rfl hroot hwire hhost rfl hpath hendpoint hfacetName hsort hmarks
  · intro entries scope hdata hscope hpath
    have hscopeData : scope.IsData (some limit) := isData_rootScope hdata hscope
    obtain ⟨place, hplace⟩ := hscopeData.exists_scopeText hlimit
    exact carries_searchAddress hlimit rfl hscope hdata hhost hplace (hpath place hplace) hendpoint
      hfacetName hsort hmarks

/-- The items lower than a tenth. -/
def lowItems : Query :=
  .leaf "height" (.float (.finite false 7205759403792794 (-56))) (some "item") none false (some .lt)

/-- The items with a name. -/
def namedItems : Query := .leaf "name" (.string "sea") (some "item") none false none

theorem lowItems_isData {limit : Option Nat} : lowItems.IsData limit := by
  intro node hnode
  obtain rfl := List.mem_singleton.1 hnode
  refine ⟨⟨"height", rfl⟩, .float (.nonzero false ⟨by decide, by decide, ?_, by decide, by decide⟩), ?_⟩
  · intro _
    decide
  · rintro name hname
    cases hname
    exact ⟨"item", rfl⟩

/-- A facet with every mark of a form in its name is carried beside the query and the order. -/
theorem lowItems_carried :
    lowItems.IsData (some Numeral.digitLimit) ∧ lowItems.scope = some "item" ∧
      (Value.map (lowItems.wireEntries none)).IsData (some Numeral.digitLimit) ∧
      rootScope? (.map (lowItems.wireEntries none)) = some (.string "item") ∧
      IsPath "" ∧ IsPath "item" ∧ (∀ c ∈ formMarks, c ∉ "height:asc".toList) ∧
      (∃ address, searchAddress "" (.query lowItems)
          { endpoint := "facets", facetName := some (keep "a&b=c+%#"), sort := some (keep "height:asc") } =
            .ok address ∧
        Carries (some Numeral.digitLimit) address (lowItems.wireEntries none) "a&b=c+%#"
          "height:asc") ∧
      ∃ address, searchAddress "" (.map (lowItems.wireEntries none))
          { endpoint := "facets", facetName := some (keep "a&b=c+%#"), sort := some (keep "height:asc") } =
            .ok address ∧
        Carries (some Numeral.digitLimit) address (lowItems.wireEntries none) "a&b=c+%#"
          "height:asc" := by
  have hwire : (Value.map (lowItems.wireEntries none)).IsData (some Numeral.digitLimit) :=
    Query.isData_wire lowItems_isData none
  have hroot : rootScope? (.map (lowItems.wireEntries none)) = some (.string "item") := by rfl
  have hhost : IsPath "" := ⟨by decide, by decide⟩
  have hscope : IsPath "item" := ⟨by decide, by decide⟩
  have hsort : ∀ c ∈ formMarks, c ∉ "height:asc".toList := by simp [formMarks]
  have hendpoint : "facets" = "search" ∨ "facets" = "facets" := .inr rfl
  have hfacetName : "a&b=c+%#" ≠ "" := by decide
  have hplace : ∀ place, scopeText (.string "item") = .ok place → IsPath place := by
    rintro place ⟨⟩
    exact hscope
  obtain ⟨htree, hmapping⟩ := search_carries_parameters (le_refl Numeral.digitLimit) hhost hendpoint
    hfacetName (by decide) hsort
  exact ⟨lowItems_isData, rfl, hwire, hroot, hhost, hscope, hsort,
    htree _ _ lowItems_isData rfl hscope, hmapping _ _ hwire hroot hplace⟩

/-- An order with a mark of a form adds a parameter and loses what comes after the mark. -/
theorem sort_adds_parameter :
    ∃ address, searchAddress "" (.query namedItems)
        { facetName := some "itemTypeId", sort := some "a&b=c" } = .ok address ∧
      formParameters? (queryString address) =
        some [("q", "\x7b\"name\":\"sea\"\x7d"), ("name", "itemTypeId"), ("sort", "a"), ("b", "c")] ∧
      ∀ limit, ¬ Carries limit address (namedItems.wireEntries none) "itemTypeId" "a&b=c" := by
  have haddress : searchAddress "" (.query namedItems)
      { facetName := some "itemTypeId", sort := some "a&b=c" } =
        .ok ("https://lux.collections.yale.edu/api/search/item?q=%7B%22name%22%3A%22sea%22%7D" ++
          "&name=itemTypeId&sort=a&b=c") := by rfl
  have hparameters : formParameters? (queryString
      ("https://lux.collections.yale.edu/api/search/item?q=%7B%22name%22%3A%22sea%22%7D" ++
        "&name=itemTypeId&sort=a&b=c")) =
          some [("q", "\x7b\"name\":\"sea\"\x7d"), ("name", "itemTypeId"), ("sort", "a"), ("b", "c")] := by
    decide +kernel
  refine ⟨_, haddress, hparameters, ?_⟩
  rintro limit ⟨text, hcarried, -⟩
  rw [hparameters] at hcarried
  simp at hcarried

end ScopedSearch
