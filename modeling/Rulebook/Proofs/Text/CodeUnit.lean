import Mathlib.Tactic.SplitIfs
import Rulebook.Text.CodeUnit

/-!
Characters and their UTF-16 code units. A character has one unit that is no surrogate or a pair of
surrogates, and from either it is found again; texts with the same units are the same.
-/

namespace Rulebook.Text.CodeUnit

@[simp]
theorem ofChars_cons (c : Char) (s : List Char) : ofChars (c :: s) = ofChar c ++ ofChars s :=
  List.flatMap_cons

theorem ofChar_of_lt {c : Char} (h : c.toNat < 0x10000) : ofChar c = [UInt16.ofNat c.toNat] := by
  rw [ofChar, if_pos h]

theorem ofNat_inj_of_lt {m n : Nat} (hm : m < 0x10000) (hn : n < 0x10000)
    (h : UInt16.ofNat m = UInt16.ofNat n) : m = n := by
  have hnat := congrArg UInt16.toNat h
  rw [UInt16.toNat_ofNat', UInt16.toNat_ofNat'] at hnat
  omega

/-- Units say where a character ends: surrogates are no characters, and the pairs of different
characters differ. -/
theorem ofChar_append_inj {c d : Char} {us vs : List CodeUnit}
    (h : ofChar c ++ us = ofChar d ++ vs) : c = d ∧ us = vs := by
  have hc : c.toNat < 0xD800 ∨ 0xDFFF < c.toNat ∧ c.toNat < 0x110000 := c.valid
  have hd : d.toNat < 0xD800 ∨ 0xDFFF < d.toNat ∧ d.toNat < 0x110000 := d.valid
  rw [← Char.toNat_inj]
  unfold ofChar at h
  split_ifs at h with hshort hshort' hshort'
  · obtain ⟨hunit, hrest⟩ := List.cons.inj h
    exact ⟨ofNat_inj_of_lt hshort hshort' hunit, hrest⟩
  · have hunit := ofNat_inj_of_lt hshort (by omega) (List.cons.inj h).1
    omega
  · have hunit := ofNat_inj_of_lt (by omega) hshort' (List.cons.inj h).1
    omega
  · obtain ⟨hhigh, htail⟩ := List.cons.inj h
    obtain ⟨hlow, hrest⟩ := List.cons.inj htail
    have hhigh := ofNat_inj_of_lt (by omega) (by omega) hhigh
    have hlow := ofNat_inj_of_lt (by omega) (by omega) hlow
    exact ⟨by omega, hrest⟩

@[simp] theorem ofChar_ne_nil (c : Char) : ofChar c ≠ [] := by
  unfold ofChar
  split <;> exact List.cons_ne_nil _ _

theorem ofChars_injective : Function.Injective ofChars := by
  intro s t h
  induction s generalizing t with
  | nil =>
    cases t with
    | nil => rfl
    | cons d t => simp [ofChars] at h
  | cons c s ih =>
    cases t with
    | nil => simp [ofChars] at h
    | cons d t =>
      rw [ofChars_cons, ofChars_cons] at h
      obtain ⟨rfl, hrest⟩ := ofChar_append_inj h
      rw [ih hrest]

/-! ## From units to characters -/

theorem isHighSurrogate_iff {u : CodeUnit} :
    u.isHighSurrogate = true ↔ 0xD800 ≤ u.toNat ∧ u.toNat < 0xDC00 := by
  rw [isHighSurrogate, Bool.and_eq_true, decide_eq_true_iff, decide_eq_true_iff,
    UInt16.le_iff_toNat_le, UInt16.lt_iff_toNat_lt]
  rfl

theorem isLowSurrogate_iff {u : CodeUnit} :
    u.isLowSurrogate = true ↔ 0xDC00 ≤ u.toNat ∧ u.toNat < 0xE000 := by
  rw [isLowSurrogate, Bool.and_eq_true, decide_eq_true_iff, decide_eq_true_iff,
    UInt16.le_iff_toNat_le, UInt16.lt_iff_toNat_lt]
  rfl

theorem toNat_charOfNat {n : Nat} (h : n < 0xD800 ∨ 0xDFFF < n ∧ n < 0x110000) :
    (Char.ofNat n).toNat = n := by
  have hn : n.isValidChar := h
  rw [Char.ofNat, dif_pos hn]
  rfl

/-- A unit that is no surrogate is the unit of a character. -/
theorem ofChar_toChar {u : CodeUnit} (hhigh : ¬u.isHighSurrogate = true)
    (hlow : ¬u.isLowSurrogate = true) : ofChar u.toChar = [u] := by
  have hu : u.toNat < 0x10000 := u.toNat_lt
  have hchar : u.toChar.toNat = u.toNat := by
    refine toNat_charOfNat ?_
    rw [isHighSurrogate_iff] at hhigh
    rw [isLowSurrogate_iff] at hlow
    omega
  rw [ofChar_of_lt (by omega), hchar, UInt16.ofNat_toNat]

/-- A pair of surrogates are the units of a character. -/
theorem ofChar_pairToChar {u v : CodeUnit} (hu : u.isHighSurrogate = true)
    (hv : v.isLowSurrogate = true) : ofChar (pairToChar u v) = [u, v] := by
  rw [isHighSurrogate_iff] at hu
  rw [isLowSurrogate_iff] at hv
  have hchar : (pairToChar u v).toNat =
      0x10000 + (u.toNat - 0xD800) * 0x400 + (v.toNat - 0xDC00) := toNat_charOfNat (by omega)
  have hhigh : 0xD800 + ((pairToChar u v).toNat - 0x10000) / 0x400 = u.toNat := by omega
  have hlow : 0xDC00 + ((pairToChar u v).toNat - 0x10000) % 0x400 = v.toNat := by omega
  rw [ofChar, if_neg (by omega)]
  dsimp only
  rw [hhigh, hlow, UInt16.ofNat_toNat, UInt16.ofNat_toNat]

/-- What the units of a character look like. -/
theorem ofChar_cases (c : Char) :
    (∃ u, ofChar c = [u] ∧ ¬u.isHighSurrogate = true ∧ ¬u.isLowSurrogate = true) ∨
      ∃ u v, ofChar c = [u, v] ∧ u.isHighSurrogate = true ∧ v.isLowSurrogate = true := by
  have hc : c.toNat < 0xD800 ∨ 0xDFFF < c.toNat ∧ c.toNat < 0x110000 := c.valid
  have hunit {n : Nat} (h : n < 0x10000) : (UInt16.ofNat n).toNat = n := by
    rw [UInt16.toNat_ofNat']
    exact Nat.mod_eq_of_lt h
  unfold ofChar
  split_ifs with hshort
  · refine Or.inl ⟨_, rfl, ?_, ?_⟩
    · rw [isHighSurrogate_iff, hunit hshort]
      omega
    · rw [isLowSurrogate_iff, hunit hshort]
      omega
  · refine Or.inr ⟨_, _, rfl, ?_, ?_⟩
    · rw [isHighSurrogate_iff, hunit (by omega)]
      omega
    · rw [isLowSurrogate_iff, hunit (by omega)]
      omega

/-- No unit is both a high and a low surrogate. -/
theorem not_isLowSurrogate {u : CodeUnit} (h : u.isHighSurrogate = true) :
    ¬u.isLowSurrogate = true := by
  rw [isHighSurrogate_iff] at h
  rw [isLowSurrogate_iff]
  omega

end Rulebook.Text.CodeUnit
