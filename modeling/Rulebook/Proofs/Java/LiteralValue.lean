import Mathlib.Tactic.SplitIfs
import Rulebook.Java.Literal
import Rulebook.Proofs.Java.Lexer
import Rulebook.Proofs.Text.CodeUnit
import Rulebook.Proofs.Text.Hex

/-!
Literals denote exactly their texts: whatever stands behind the literal of a text, reading gives the
units of the text and ends at the quote that closes the literal.
-/

namespace Rulebook.Java

open Rulebook.Text

/-! ## Translation -/

theorem unitsAfter_cons_of_ne {c : Char} (h : c ≠ '\\') (odd : Bool) (rest : List Char) :
    unitsAfter odd (c :: rest) = CodeUnit.ofChar c ++ unitsAfter false rest := by
  rw [unitsAfter, if_neg h]

theorem escapedUnit?_cons_of_ne {c : Char} (h : c ≠ 'u') (rest : List Char) :
    escapedUnit? (c :: rest) = none := by
  rw [escapedUnit?]
  rintro a b d e rest' heq
  exact h (List.cons.inj heq).1

/-- A backslash and a letter stay as they are, and the next backslash counts anew. -/
theorem unitsAfter_pair {letter : Char} (h : letter ≠ 'u') (rest : List Char) :
    unitsAfter false ('\\' :: letter :: rest) =
      backslash :: (CodeUnit.ofChar letter ++ unitsAfter false rest) := by
  rw [unitsAfter, if_pos rfl, if_neg Bool.false_ne_true, escapedUnit?_cons_of_ne h]
  by_cases hb : letter = '\\'
  · -- The second backslash stands behind an odd number of them, so no escape starts with it.
    subst hb
    simp only [Bool.not_false]
    rw [unitsAfter, if_pos rfl, if_pos rfl]
    rfl
  · simp only [Bool.not_false]
    rw [unitsAfter_cons_of_ne hb]

@[simp] theorem unitsAfter_unitEscape (u : CodeUnit) (rest : List Char) :
    unitsAfter false (unitEscape u ++ rest) = u :: unitsAfter false rest := by
  have hu : u.toNat < 65536 := UInt16.toNat_lt u
  have hvalue : escapedUnit? ('u' :: Hex.four Hex.upper u.toNat ++ rest) = some u := by
    simp only [Hex.four, List.cons_append, escapedUnit?, Hex.four?_digits Hex.value?_upper hu,
      Option.map_some, UInt16.ofNat_toNat]
  rw [unitEscape, List.cons_append, unitsAfter, if_pos rfl, if_neg Bool.false_ne_true]
  rw [hvalue]
  rfl

@[simp] theorem unitsAfter_unitEscapes (us : List CodeUnit) (rest : List Char) :
    unitsAfter false (us.flatMap unitEscape ++ rest) = us ++ unitsAfter false rest := by
  induction us with
  | nil => rfl
  | cons u us ih => simp [ih]

/-! ## Characters inside a literal -/

theorem shortEscape?_cases {c letter : Char} (h : shortEscape? c = some letter) :
    (c = '"' ∧ letter = '"') ∨ (c = '\\' ∧ letter = '\\') ∨ (c = '\x08' ∧ letter = 'b') ∨
      (c = '\t' ∧ letter = 't') ∨ (c = '\n' ∧ letter = 'n') ∨ (c = '\x0c' ∧ letter = 'f') ∨
      (c = '\r' ∧ letter = 'r') := by
  unfold shortEscape? at h
  split_ifs at h <;> cases h <;> simp_all

/-- The units that a character becomes by the translation of what is written for it. -/
def translated (c : Char) : List CodeUnit :=
  match shortEscape? c with
  | some letter => backslash :: CodeUnit.ofChar letter
  | none => CodeUnit.ofChar c

@[simp] theorem unitsAfter_escapeChar (c : Char) (rest : List Char) :
    unitsAfter false (escapeChar c ++ rest) = translated c ++ unitsAfter false rest := by
  unfold escapeChar translated
  cases hshort : shortEscape? c with
  | some letter =>
    have hletter : letter ≠ 'u' := by
      rintro rfl
      simpa using shortEscape?_cases hshort
    exact unitsAfter_pair hletter rest
  | none =>
    by_cases hprintable : isPrintable c
    · -- A backslash is printable, but has a short escape.
      have hc : c ≠ '\\' := by
        rintro rfl
        simp [shortEscape?] at hshort
      simp only [if_pos hprintable]
      exact unitsAfter_cons_of_ne hc false rest
    · simp only [if_neg hprintable]
      exact unitsAfter_unitEscapes _ rest

@[simp] theorem unitsAfter_escapeChars (s rest : List Char) :
    unitsAfter false (escapeChars s ++ rest) = s.flatMap translated ++ unitsAfter false rest := by
  induction s with
  | nil => rfl
  | cons c s ih => simp [ih]

/-- What stands behind a literal is translated as if it stood alone. -/
@[simp] theorem unitsAfter_literalChars (s rest : List Char) :
    unitsAfter false (literalChars s ++ rest) =
      quote :: (s.flatMap translated ++ quote :: unitsAfter false rest) := by
  have hquote (t : List Char) : unitsAfter false ('"' :: t) = quote :: unitsAfter false t :=
    unitsAfter_cons_of_ne (by decide) false t
  simp [literalChars, hquote]

theorem unitsAfter_literalChars_append (s rest : List Char) :
    unitsAfter false (literalChars s ++ rest) =
      unitsAfter false (literalChars s) ++ unitsAfter false rest := by
  have halone := unitsAfter_literalChars s []
  rw [List.append_nil, unitsAfter] at halone
  simp [halone]

/-! ## The value -/

def IsPlain (u : CodeUnit) : Prop := u ≠ quote ∧ u ≠ backslash ∧ isLineEnd u = false

theorem OpenLiteral.close_plain {u : CodeUnit} (h : IsPlain u) (value rest : List CodeUnit) :
    close ⟨value, false⟩ (u :: rest) = close ⟨value ++ [u], false⟩ rest := by
  obtain ⟨hquote, hbackslash, hend⟩ := h
  rw [close]
  simp only [next, Bool.false_eq_true, if_false, hquote, hbackslash, hend]

theorem OpenLiteral.close_plains {us : List CodeUnit} (h : ∀ u ∈ us, IsPlain u)
    (value rest : List CodeUnit) :
    close ⟨value, false⟩ (us ++ rest) = close ⟨value ++ us, false⟩ rest := by
  induction us generalizing value with
  | nil => rw [List.nil_append, List.append_nil]
  | cons u us ih =>
    rw [List.cons_append, close_plain (h u List.mem_cons_self),
      ih (fun v hv => h v (List.mem_cons_of_mem u hv)), List.append_assoc, List.singleton_append]

theorem isPlain_of_toNat {u : CodeUnit} (hquote : u.toNat ≠ 0x22) (hbackslash : u.toNat ≠ 0x5C)
    (hfeed : u.toNat ≠ 0x0A) (hreturn : u.toNat ≠ 0x0D) : IsPlain u := by
  refine ⟨?_, ?_, ?_⟩
  · rintro rfl
    exact hquote rfl
  · rintro rfl
    exact hbackslash rfl
  · rw [isLineEnd, Bool.or_eq_false_iff, beq_eq_false_iff_ne, beq_eq_false_iff_ne]
    constructor <;> rintro rfl
    · exact hfeed rfl
    · exact hreturn rfl

theorem isPlain_ofChar {c : Char} (h : shortEscape? c = none) :
    ∀ u ∈ CodeUnit.ofChar c, IsPlain u := by
  intro u hu
  unfold CodeUnit.ofChar at hu
  by_cases hlt : c.toNat < 0x10000
  · rw [if_pos hlt, List.mem_singleton] at hu
    have hn : u.toNat = c.toNat := by
      rw [hu, UInt16.toNat_ofNat', Nat.mod_eq_of_lt hlt]
    -- Quotes, backslashes and line ends have short escapes, and `c` has none.
    have hne {d : Char} (hd : (shortEscape? d).isSome) : c.toNat ≠ d.toNat := by
      intro heq
      rw [← Char.toNat_inj.1 heq, h] at hd
      exact absurd hd (by decide)
    apply isPlain_of_toNat <;> rw [hn]
    · exact hne (d := '"') rfl
    · exact hne (d := '\\') rfl
    · exact hne (d := '\n') rfl
    · exact hne (d := '\r') rfl
  · rw [if_neg hlt] at hu
    have hbound : c.toNat < 0x110000 := by
      rcases c.valid with hc | hc
      · exact Nat.lt_trans hc (by decide)
      · exact hc.2
    -- Both surrogates are beyond the four special units.
    have hn : 0xD800 ≤ u.toNat := by
      simp only [List.mem_cons, List.not_mem_nil, or_false] at hu
      rcases hu with rfl | rfl <;> rw [UInt16.toNat_ofNat'] <;> omega
    apply isPlain_of_toNat <;> omega

theorem OpenLiteral.close_translated (c : Char) (value rest : List CodeUnit) :
    close ⟨value, false⟩ (translated c ++ rest) =
      close ⟨value ++ CodeUnit.ofChar c, false⟩ rest := by
  unfold translated
  split
  · next letter hshort =>
    rcases shortEscape?_cases hshort with h | h | h | h | h | h | h <;>
      obtain ⟨rfl, rfl⟩ := h <;> rfl
  · next hshort => exact close_plains (isPlain_ofChar hshort) value rest

theorem OpenLiteral.close_flatMap_translated (s : List Char) (value rest : List CodeUnit) :
    close ⟨value, false⟩ (s.flatMap translated ++ quote :: rest) =
      .ok (value ++ CodeUnit.ofChars s, rest) := by
  induction s generalizing value with
  | nil =>
    rw [CodeUnit.ofChars, List.flatMap_nil, List.flatMap_nil, List.append_nil]
    rfl
  | cons c s ih =>
    rw [List.flatMap_cons, List.append_assoc, close_translated, ih, List.append_assoc,
      ← CodeUnit.ofChars_cons]

theorem readLiteral_literalChars (s rest : List Char) :
    readLiteral (unitsAfter false (literalChars s ++ rest)) =
      .ok (CodeUnit.ofChars s, unitsAfter false rest) := by
  rw [unitsAfter_literalChars, readLiteral, if_pos rfl, OpenLiteral.empty,
    OpenLiteral.close_flatMap_translated, List.nil_append]

theorem literal_injective : Function.Injective literal := by
  intro s t h
  have hchars : literalChars s.toList = literalChars t.toList := by
    rw [← toList_literal, ← toList_literal, h]
  have hread := readLiteral_literalChars s.toList []
  rw [hchars, readLiteral_literalChars t.toList [], Except.ok.injEq, Prod.mk.injEq] at hread
  exact String.toList_inj.1 (CodeUnit.ofChars_injective hread.1.symm)

/-! ## What is written -/

theorem isPrintable_upper : ∀ n < 16, isPrintable (Hex.upper n) := by decide

theorem isPrintable_of_mem_unitEscape {u : CodeUnit} {c : Char} (h : c ∈ unitEscape u) :
    isPrintable c := by
  have hdigit (k : Nat) : isPrintable (Hex.upper (k % 16)) :=
    isPrintable_upper _ (Nat.mod_lt _ (by decide))
  simp only [unitEscape, Hex.four, List.mem_cons, List.not_mem_nil, or_false] at h
  rcases h with rfl | rfl | rfl | rfl | rfl | rfl
  · rfl
  · rfl
  all_goals exact hdigit _

theorem isPrintable_of_mem_escapeChar {c d : Char} (h : d ∈ escapeChar c) : isPrintable d := by
  unfold escapeChar at h
  cases hshort : shortEscape? c with
  | some letter =>
    simp only [hshort, List.mem_cons, List.not_mem_nil, or_false] at h
    rcases h with rfl | rfl
    · rfl
    · rcases shortEscape?_cases hshort with h | h | h | h | h | h | h <;> rw [h.2] <;> rfl
  | none =>
    simp only [hshort] at h
    by_cases hprintable : isPrintable c
    · rw [if_pos hprintable, List.mem_singleton] at h
      rwa [h]
    · rw [if_neg hprintable, List.mem_flatMap] at h
      obtain ⟨u, -, hu⟩ := h
      exact isPrintable_of_mem_unitEscape hu

theorem isPrintable_of_mem_escapeChars {s : List Char} {c : Char} (h : c ∈ escapeChars s) :
    isPrintable c := by
  obtain ⟨d, -, hd⟩ := List.mem_flatMap.1 h
  exact isPrintable_of_mem_escapeChar hd

/-- Whatever stands behind the literal of a text, the literal is read from the first character to
its own last quote, its value is the text, and what follows is left as it is. It is written in
printable ASCII, character by character. -/
theorem literal_denotes (v w t : String) :
    units (literal v ++ t) = units (literal v) ++ units t ∧
      readLiteral (units (literal v ++ t)) = .ok (CodeUnit.ofChars v.toList, units t) ∧
      (∀ c ∈ (escape v).toList, ' ' ≤ c ∧ c ≤ '~') ∧
      escape (v ++ w) = escape v ++ escape w := by
  have htoList : (literal v ++ t).toList = literalChars v.toList ++ t.toList := by
    rw [String.toList_append, toList_literal]
  refine ⟨?_, ?_, ?_, escape_append v w⟩
  · rw [units, units, units, htoList, toList_literal, unitsAfter_literalChars_append]
  · rw [units, htoList, readLiteral_literalChars]
    rfl
  · intro c hc
    rw [toList_escape] at hc
    have hprintable := isPrintable_of_mem_escapeChars hc
    rw [isPrintable, Bool.and_eq_true] at hprintable
    exact ⟨of_decide_eq_true hprintable.1, of_decide_eq_true hprintable.2⟩

end Rulebook.Java
