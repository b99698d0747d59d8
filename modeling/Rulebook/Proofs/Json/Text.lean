import Rulebook.Json.Tree
import Rulebook.Proofs.Text.CodeUnit

/-!
The texts that strings spell. However a string is spelled, its pieces give UTF-16 code units, and
the string spells the text with these units. A string whose units are no text spells none: that is
one with a surrogate that has no partner.
-/

namespace Rulebook.Json

open Rulebook.Text

def Piece.units : Piece → List CodeUnit
  | .char c => CodeUnit.ofChar c
  | .unit u => [u]

/-- A string spells the text with its code units. -/
def SpellsText (pieces : List Piece) (s : String) : Prop :=
  pieces.flatMap Piece.units = CodeUnit.ofChars s.toList

section

variable {before found : List Char} {pieces : List Piece} {cs : List Char}

/-- A unit that is no high surrogate stands by itself. -/
theorem spelled?_unit {u : CodeUnit} (hu : ¬u.isHighSurrogate = true) (before : List Char)
    (rest : List Piece) :
    spelled? before (.unit u :: rest) =
      if u.isLowSurrogate then none else spelled? (u.toChar :: before) rest := by
  rw [spelled?.eq_def]
  dsimp only
  rw [if_neg hu]

theorem units_of_spelled? (h : spelled? before pieces = some found) :
    ∃ cs, found = before.reverse ++ cs ∧ pieces.flatMap Piece.units = CodeUnit.ofChars cs := by
  -- One character, and those behind it.
  have hcons {before found : List Char} {c : Char} {units : List CodeUnit} {rest : List Piece}
      (hunits : units = CodeUnit.ofChar c)
      (h : ∃ cs, found = (c :: before).reverse ++ cs ∧
        rest.flatMap Piece.units = CodeUnit.ofChars cs) :
      ∃ cs, found = before.reverse ++ cs ∧
        units ++ rest.flatMap Piece.units = CodeUnit.ofChars cs := by
    obtain ⟨cs, rfl, hrest⟩ := h
    refine ⟨c :: cs, ?_, ?_⟩
    · rw [List.reverse_cons, List.append_assoc, List.singleton_append]
    · rw [hunits, hrest, CodeUnit.ofChars_cons]
  induction before, pieces using spelled?.induct with
  | case1 before =>
    rw [spelled?] at h
    cases h
    exact ⟨[], (List.append_nil _).symm, rfl⟩
  | case2 before c rest ih =>
    rw [spelled?] at h
    exact hcons rfl (ih h)
  | case3 before u hu v rest hv ih =>
    rw [spelled?, if_pos hu, if_pos hv] at h
    obtain ⟨cs, hfound, hunits⟩ := hcons (CodeUnit.ofChar_pairToChar hu hv).symm (ih h)
    exact ⟨cs, hfound, hunits⟩
  | case4 before u hu v rest hv =>
    rw [spelled?, if_pos hu, if_neg hv] at h
    cases h
  | case5 before u rest hu hrest =>
    rw [spelled?, if_pos hu] at h
    · cases h
    · exact hrest
  | case6 before u rest hu hv =>
    rw [spelled?_unit hu, if_pos hv] at h
    cases h
  | case7 before u rest hu hv ih =>
    rw [spelled?_unit hu, if_neg hv] at h
    exact hcons (CodeUnit.ofChar_toChar hu hv).symm (ih h)

/-- The first unit of a text is the only one of its character, or a high surrogate before a low
one. -/
theorem first_of_units {u : CodeUnit} {us : List CodeUnit} (h : u :: us = CodeUnit.ofChars cs) :
    (¬u.isHighSurrogate = true ∧ ¬u.isLowSurrogate = true) ∨
      u.isHighSurrogate = true ∧ ∃ v vs, us = v :: vs ∧ v.isLowSurrogate = true := by
  cases cs with
  | nil => cases h
  | cons c cs =>
    rw [CodeUnit.ofChars_cons] at h
    obtain ⟨w, hc, hw⟩ | ⟨w, v, hc, hw, hv⟩ := CodeUnit.ofChar_cases c
    · rw [hc] at h
      cases h
      exact Or.inl hw
    · rw [hc] at h
      cases h
      exact Or.inr ⟨hw, v, _, rfl, hv⟩

/-- Behind a high surrogate stands a piece that is a low one: characters do not begin with one. -/
theorem low_of_units {u : CodeUnit} (hu : u.isHighSurrogate = true)
    (h : u :: pieces.flatMap Piece.units = CodeUnit.ofChars cs) :
    ∃ v rest, pieces = .unit v :: rest ∧ v.isLowSurrogate = true := by
  obtain ⟨hne, -⟩ | ⟨-, v, vs, hvs, hv⟩ := first_of_units h
  · exact absurd hu hne
  · cases pieces with
    | nil => cases hvs
    | cons piece rest =>
      cases piece with
      | unit w =>
        cases hvs
        exact ⟨v, rest, rfl, hv⟩
      | char c =>
        rw [List.flatMap_cons, Piece.units] at hvs
        obtain ⟨w, hc, -, hw⟩ | ⟨w, w', hc, hw, -⟩ := CodeUnit.ofChar_cases c
        · rw [hc] at hvs
          cases hvs
          exact absurd hv hw
        · rw [hc] at hvs
          cases hvs
          exact absurd hv (CodeUnit.not_isLowSurrogate hw)

theorem spelled?_of_units (h : pieces.flatMap Piece.units = CodeUnit.ofChars cs) :
    spelled? before pieces = some (before.reverse ++ cs) := by
  -- The units of one character are those of the first one of the text.
  have hcons {before cs : List Char} {c : Char} {rest : List Piece}
      (hunits : CodeUnit.ofChar c ++ rest.flatMap Piece.units = CodeUnit.ofChars cs)
      (ih : ∀ {cs}, rest.flatMap Piece.units = CodeUnit.ofChars cs →
        spelled? (c :: before) rest = some ((c :: before).reverse ++ cs)) :
      spelled? (c :: before) rest = some (before.reverse ++ cs) := by
    cases cs with
    | nil => exact absurd (List.append_eq_nil_iff.1 hunits).1 (CodeUnit.ofChar_ne_nil c)
    | cons d cs =>
      rw [CodeUnit.ofChars_cons] at hunits
      obtain ⟨rfl, hrest⟩ := CodeUnit.ofChar_append_inj hunits
      rw [ih hrest, List.reverse_cons, List.append_assoc, List.singleton_append]
  induction before, pieces using spelled?.induct generalizing cs with
  | case1 before =>
    cases cs with
    | nil => rw [spelled?, List.append_nil]
    | cons c cs => exact absurd (List.append_eq_nil_iff.1 h.symm).1 (CodeUnit.ofChar_ne_nil c)
  | case2 before c rest ih =>
    rw [spelled?]
    exact hcons h ih
  | case3 before u hu v rest hv ih =>
    rw [spelled?, if_pos hu, if_pos hv]
    refine hcons ?_ ih
    rw [CodeUnit.ofChar_pairToChar hu hv]
    exact h
  | case4 before u hu v rest hv =>
    obtain ⟨w, others, heq, hw⟩ := low_of_units hu h
    cases heq
    exact absurd hw hv
  | case5 before u rest hu hrest =>
    obtain ⟨v, others, heq, -⟩ := low_of_units hu h
    exact absurd heq (hrest v others)
  | case6 before u rest hu hv =>
    obtain ⟨-, hne⟩ | ⟨hhigh, -⟩ := first_of_units h
    · exact absurd hv hne
    · exact absurd hhigh hu
  | case7 before u rest hu hv ih =>
    rw [spelled?_unit hu, if_neg hv]
    refine hcons ?_ ih
    rw [CodeUnit.ofChar_toChar hu hv]
    exact h

end

/-- A string is read as the text that it spells. -/
theorem text?_eq_some_iff {pieces : List Piece} {s : String} :
    text? pieces = some s ↔ SpellsText pieces s := by
  rw [text?, Option.map_eq_some_iff]
  constructor
  · rintro ⟨found, h, rfl⟩
    obtain ⟨cs, rfl, hunits⟩ := units_of_spelled? h
    rw [SpellsText, String.toList_ofList]
    exact hunits
  · intro h
    exact ⟨s.toList, spelled?_of_units h, String.ofList_toList⟩

end Rulebook.Json
