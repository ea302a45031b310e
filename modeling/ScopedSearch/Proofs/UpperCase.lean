import ScopedSearch.Text.Upper
import Mathlib.Data.List.Nodup
import Mathlib.Data.List.Pairwise

/-!
# Upper case of a character

ASCII characters have the upper case that they have everywhere. Elsewhere Unicode names the letters whose
upper case is a sequence and the runs of letters whose upper case is as far away as the run says; all other
characters are their own (`Text.IsUpperOf`). No letter is named twice, so that each character has one upper
case and it does not matter in which order the tables are searched (`Text.isUpperOf_iff`).
-/

namespace ScopedSearch.Text

/-- The characters are the upper case of a character. -/
inductive IsUpperOf (c : Char) : List Char → Prop
  | ascii : c.toNat < 0x80 → IsUpperOf c [c.toUpper]
  | sequence {codes : List Nat} : (c.toNat, codes) ∈ upperSequences →
    IsUpperOf c (codes.map Char.ofNat)
  | letter {run : CaseRun} {place : Nat} : 0x80 ≤ c.toNat → run ∈ upperRuns →
    c.toNat = run.first + place * run.step → c.toNat ≤ run.last →
      IsUpperOf c [Char.ofNat (c.toNat + run.shift).toNat]
  | caseless : 0x80 ≤ c.toNat → (∀ codes, (c.toNat, codes) ∉ upperSequences) →
    (∀ run ∈ upperRuns, ∀ place, c.toNat = run.first + place * run.step → run.last < c.toNat) →
      IsUpperOf c [c]

variable {c : Char} {cs : List Char} {run other : CaseRun} {code : Nat}

theorem CaseRun.covers_iff :
    run.covers code = true ↔ ∃ place, code = run.first + place * run.step ∧ code ≤ run.last := by
  simp only [covers, Bool.and_eq_true, decide_eq_true_eq, and_assoc]
  constructor
  · rintro ⟨hfirst, hlast, hstep⟩
    obtain ⟨place, hplace⟩ := Nat.dvd_of_mod_eq_zero hstep
    exact ⟨place, by rw [Nat.mul_comm, ← hplace]; omega, hlast⟩
  · rintro ⟨place, rfl, hlast⟩
    exact ⟨Nat.le_add_right _ _, hlast, by rw [Nat.add_sub_cancel_left, Nat.mul_mod_left]⟩

/-! ### No letter is named twice -/

theorem upperSequences_nodup : (upperSequences.map Prod.fst).Nodup := by decide +kernel

theorem upperRuns_pairwise : upperRuns.Pairwise fun run other => run.last < other.first := by
  decide +kernel

theorem not_covers_of_mem_upperSequences :
    ∀ entry ∈ upperSequences, ∀ run ∈ upperRuns, run.covers entry.1 = false := by decide +kernel

theorem CaseRun.bounds_of_covers (h : run.covers code = true) :
    run.first ≤ code ∧ code ≤ run.last := by
  obtain ⟨place, rfl, hlast⟩ := covers_iff.1 h
  exact ⟨Nat.le_add_right _ _, hlast⟩

/-- A letter is in one run. -/
theorem eq_of_covers (hrun : run ∈ upperRuns) (hother : other ∈ upperRuns)
    (h : run.covers code = true) (h' : other.covers code = true) : run = other := by
  have : Std.Symm fun run other : CaseRun => run.last < other.first ∨ other.last < run.first :=
    ⟨fun _ _ => Or.symm⟩
  have hapart : upperRuns.Pairwise fun run other =>
      run.last < other.first ∨ other.last < run.first := upperRuns_pairwise.imp .inl
  have hbounds := CaseRun.bounds_of_covers h
  have hbounds' := CaseRun.bounds_of_covers h'
  by_contra hne
  rcases hapart.forall hrun hother hne with hlt | hlt <;> omega

/-! ### The upper case that is found -/

theorem find?_eq_some_of_unique {α : Type} {p : α → Bool} {entries : List α} {entry : α}
    (hmem : entry ∈ entries) (hentry : p entry = true)
    (hunique : ∀ other ∈ entries, p other = true → other = entry) : entries.find? p = some entry := by
  obtain ⟨found, hfound⟩ := Option.isSome_iff_exists.1 (List.find?_isSome.2 ⟨entry, hmem, hentry⟩)
  rw [hfound, hunique found (List.mem_of_find?_eq_some hfound) (List.find?_some hfound)]

theorem upperChar_of_ascii (h : c.toNat < 0x80) : upperChar c = [c.toUpper] := by
  have hall : ∀ code < 0x80, upperChar (Char.ofNat code) = [(Char.ofNat code).toUpper] := by
    decide +kernel
  simpa only [Char.ofNat_toNat] using hall c.toNat h

theorem upperChar_of_sequence {codes : List Nat} (h : (c.toNat, codes) ∈ upperSequences) :
    upperChar c = codes.map Char.ofNat := by
  have hfind : upperSequences.find? (·.1 = c.toNat) = some (c.toNat, codes) :=
    find?_eq_some_of_unique h (by simp) fun other hother hcode =>
      List.inj_on_of_nodup_map upperSequences_nodup hother h (of_decide_eq_true hcode)
  rw [upperChar, hfind]

theorem find?_upperSequences_eq_none (h : ∀ codes, (c.toNat, codes) ∉ upperSequences) :
    upperSequences.find? (·.1 = c.toNat) = none := by
  refine List.find?_eq_none.2 fun entry hentry hcode => h entry.2 ?_
  rwa [← of_decide_eq_true hcode]

theorem upperChar_of_letter (hrun : run ∈ upperRuns) (hcovers : run.covers c.toNat = true) :
    upperChar c = [Char.ofNat (c.toNat + run.shift).toNat] := by
  have hsequence : upperSequences.find? (·.1 = c.toNat) = none :=
    find?_upperSequences_eq_none fun codes hmem => by
      have hapart := not_covers_of_mem_upperSequences _ hmem run hrun
      rw [hcovers] at hapart
      cases hapart
  have hletter : upperRuns.find? (·.covers c.toNat) = some run :=
    find?_eq_some_of_unique hrun hcovers fun other hother h => eq_of_covers hother hrun h hcovers
  rw [upperChar, hsequence]
  simp only [hletter]

theorem upperChar_of_caseless (hsequence : ∀ codes, (c.toNat, codes) ∉ upperSequences)
    (hletter : ∀ run ∈ upperRuns, run.covers c.toNat = false) : upperChar c = [c] := by
  have hnone : upperRuns.find? (·.covers c.toNat) = none :=
    List.find?_eq_none.2 fun run hrun => by simp [hletter run hrun]
  rw [upperChar, find?_upperSequences_eq_none hsequence]
  simp only [hnone]

/-- Every character has an upper case, and only one. -/
theorem isUpperOf_iff : IsUpperOf c cs ↔ upperChar c = cs := by
  constructor
  · intro h
    cases h with
    | ascii hascii => exact upperChar_of_ascii hascii
    | sequence hmem => exact upperChar_of_sequence hmem
    | letter _ hrun hplace hlast =>
      exact upperChar_of_letter hrun (CaseRun.covers_iff.2 ⟨_, hplace, hlast⟩)
    | caseless _ hsequence hletter =>
      refine upperChar_of_caseless hsequence fun run hrun => Bool.not_eq_true _ ▸ fun hcovers => ?_
      obtain ⟨place, hplace, hlast⟩ := CaseRun.covers_iff.1 hcovers
      exact absurd hlast (Nat.not_le.2 (hletter run hrun place hplace))
  · rintro rfl
    by_cases hascii : c.toNat < 0x80
    · rw [upperChar_of_ascii hascii]
      exact .ascii hascii
    by_cases hsequence : ∃ codes, (c.toNat, codes) ∈ upperSequences
    · obtain ⟨codes, hmem⟩ := hsequence
      rw [upperChar_of_sequence hmem]
      exact .sequence hmem
    by_cases hletter : ∃ run ∈ upperRuns, run.covers c.toNat = true
    · obtain ⟨run, hrun, hcovers⟩ := hletter
      obtain ⟨place, hplace, hlast⟩ := CaseRun.covers_iff.1 hcovers
      rw [upperChar_of_letter hrun hcovers]
      exact .letter (Nat.not_lt.1 hascii) hrun hplace hlast
    simp only [not_exists, not_and, Bool.not_eq_true] at hsequence hletter
    rw [upperChar_of_caseless hsequence hletter]
    refine .caseless (Nat.not_lt.1 hascii) hsequence fun run hrun place hplace => ?_
    by_contra hlast
    have hcovers := CaseRun.covers_iff.2 ⟨place, hplace, Nat.not_lt.1 hlast⟩
    rw [hletter run hrun] at hcovers
    cases hcovers

end ScopedSearch.Text
