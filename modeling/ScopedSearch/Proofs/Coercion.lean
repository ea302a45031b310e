import ScopedSearch.Compiler

/-!
# What terms make of values

A term that matches a field coerces the values it is given (`Term.coerce?`): identifiers may stand in
a mapping, numbers may be written as text. Coercion leaves alone what it gives
(`Term.coerce?_coerced`), so that a value which was read once is read the same way again.
-/

namespace ScopedSearch

/-- The field on which a role matches a value, and whether as full text. Hops and related lists
match none. -/
def Role.field? : Role → Option (String × Bool)
  | documentId => some ("id", false)
  | similar => some ("similar", false)
  | indexed field => some (field, false)
  | text field => some (field, true)
  | hop .. | related .. => none

/-- The value that a leaf of the term holds for a given one: an identifier without its mapping, a
number for a numeric term, a text as it is. -/
def Term.coerce? (term : Term) (value : Value) : Option Value :=
  match term.role with
  | .documentId | .similar => (term.recordOf value).toOption.map fun id => .string id.text
  | .indexed _ =>
    (if term.isNumeric then term.numberOf value else term.textOf value).toOption
  | .text _ => (term.textOf value).toOption
  | .hop .. | .related .. => none

theorem toOption_eq_some_iff {ε α : Type} {checked : Except ε α} {value : α} :
    checked.toOption = some value ↔ checked = .ok value := by
  cases checked <;> simp [Except.toOption]

namespace Term

variable {term : Term}

theorem recordNamed_eq_ok_iff {text : String} {id : RecordId} :
    term.recordNamed text = .ok id ↔ id.text = text := by
  unfold recordNamed
  cases h : RecordId.ofString? text with
  | none =>
    have hne : id.text ≠ text := fun heq => id.nonempty (heq ▸ RecordId.ofString?_eq_none_iff.1 h)
    simp [hne]
  | some other =>
    rw [← RecordId.text_of_ofString? h, Except.ok.injEq, RecordId.ext_iff, eq_comm]

/-- A record is named by itself, by its identifier or by a mapping that holds nothing else. -/
theorem recordOf_eq_ok_iff {value : Value} {id : RecordId} :
    term.recordOf value = .ok id ↔ value = .query (.record id) ∨ value = .string id.text ∨
      value = .map [("id", .string id.text)] := by
  constructor
  · intro h
    unfold recordOf at h
    split at h
    · cases h
      exact .inl rfl
    · obtain rfl := recordNamed_eq_ok_iff.1 h
      exact .inr (.inl rfl)
    · obtain rfl := recordNamed_eq_ok_iff.1 h
      exact .inr (.inr rfl)
    · cases h
    · cases h
  · rintro (rfl | rfl | rfl)
    · rfl
    · exact recordNamed_eq_ok_iff.2 rfl
    · exact recordNamed_eq_ok_iff.2 rfl

theorem textOf_eq_ok_iff {value text : Value} :
    term.textOf value = .ok text ↔
      ∃ s, Text.allBlank s = false ∧ value = .string s ∧ text = .string s := by
  unfold textOf
  split
  · next s =>
    split
    · next hblank =>
      simp only [reduceCtorEq, false_iff]
      rintro ⟨other, hother, hvalue, -⟩
      rw [Value.string.inj hvalue, hother] at hblank
      cases hblank
    · next hblank =>
      constructor
      · intro h
        exact ⟨s, by simpa using hblank, rfl, (Except.ok.inj h).symm⟩
      · rintro ⟨_, -, hvalue, rfl⟩
        exact congrArg _ hvalue
  · next hne =>
    simp only [reduceCtorEq, false_iff]
    rintro ⟨s, -, hvalue, -⟩
    exact hne s hvalue

theorem number_of_typedNumber? {text : String} {number : Value}
    (h : typedNumber? text = some number) :
    (∃ n, number = .int n) ∨ ∃ x, x.isFinite = true ∧ number = .float x := by
  unfold typedNumber? at h
  split at h
  · exact .inl ⟨_, (Option.some.inj h).symm⟩
  · split at h
    · split at h
      · next hfinite => exact .inr ⟨_, hfinite, (Option.some.inj h).symm⟩
      · cases h
    · cases h

/-- What stands for a number is a whole or a finite number. -/
theorem number_of_numberOf {value number : Value} (h : term.numberOf value = .ok number) :
    (∃ n, number = .int n) ∨ ∃ x, x.isFinite = true ∧ number = .float x := by
  unfold numberOf at h
  split at h
  · exact .inl ⟨_, (Except.ok.inj h).symm⟩
  · exact .inl ⟨_, (Except.ok.inj h).symm⟩
  · split at h
    · next hfinite => exact .inr ⟨_, hfinite, (Except.ok.inj h).symm⟩
    · cases h
  · split at h
    · next text found htyped =>
      obtain rfl := Except.ok.inj h
      exact number_of_typedNumber? htyped
    · cases h
  · cases h

theorem numberOf_number {value number : Value} (h : term.numberOf value = .ok number) :
    term.numberOf number = .ok number := by
  obtain ⟨n, rfl⟩ | ⟨x, hx, rfl⟩ := number_of_numberOf h
  · rfl
  · rw [numberOf, if_pos hx]

theorem textOf_text {value text : Value} (h : term.textOf value = .ok text) :
    term.textOf text = .ok text := by
  obtain ⟨s, hblank, -, rfl⟩ := textOf_eq_ok_iff.1 h
  exact textOf_eq_ok_iff.2 ⟨s, hblank, rfl, rfl⟩

/-- Coercion leaves what it gives as it is. -/
theorem coerce?_coerced {value coerced : Value} (h : term.coerce? value = some coerced) :
    term.coerce? coerced = some coerced := by
  unfold coerce? at h ⊢
  cases hrole : term.role with
  | documentId | similar =>
    simp only [hrole, Option.map_eq_some_iff] at h ⊢
    obtain ⟨id, -, rfl⟩ := h
    exact ⟨id, by rw [recordOf_eq_ok_iff.2 (.inr (.inl rfl))]; rfl, rfl⟩
  | indexed =>
    simp only [hrole, toOption_eq_some_iff] at h ⊢
    by_cases hnumeric : term.isNumeric = true
    · rw [if_pos hnumeric] at h ⊢
      exact numberOf_number h
    · rw [if_neg hnumeric] at h ⊢
      exact textOf_text h
  | text =>
    simp only [hrole, toOption_eq_some_iff] at h ⊢
    exact textOf_text h
  | hop | related => simp [hrole] at h

/-- The comparison that a value names is named by its sign, and only numbers are compared. -/
theorem comparatorOf_eq_ok_iff {comparator : Option Value} {sign : Option Comparator} :
    term.comparatorOf comparator = .ok sign ↔
      comparator = sign.map (fun c => .string c.sign) ∧ (sign.isSome → term.isNumeric) := by
  constructor
  · intro h
    unfold comparatorOf at h
    split at h
    · cases h
      exact ⟨rfl, by simp⟩
    · split at h
      · cases h
      · next hnumeric =>
        split at h
        · split at h
          · next hsign =>
            cases h
            rw [Option.map_some, Comparator.sign_of_ofSign? hsign]
            exact ⟨rfl, fun _ => by simpa using hnumeric⟩
          · cases h
        · cases h
  · rintro ⟨rfl, hnumeric⟩
    cases sign with
    | none => rfl
    | some c => simp [comparatorOf, hnumeric rfl, Comparator.ofSign?_sign]

/-! ### Roles and patterns -/

/-- Only an indexed term takes a comparison. -/
theorem comparator_eq_none {comparator : Option Value}
    (hrole : ∀ field, term.role ≠ .indexed field)
    (h : comparator.isSome → term.pattern.isIndexed) : comparator = none := by
  cases comparator with
  | none => rfl
  | some value =>
    obtain ⟨field, hfield⟩ := Role.eq_indexed_of_fits term.role_fits (h rfl)
    exact absurd hfield (hrole field)

theorem role_of_documentId (h : term.pattern = .documentId) : term.role = .documentId := by
  have hfits := term.role_fits
  rw [h] at hfits
  cases hrole : term.role with
  | documentId => rfl
  | _ => simp [hrole, Role.fits] at hfits

end Term

end ScopedSearch
