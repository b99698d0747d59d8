import Rulebook.Java.Source
import Rulebook.Proofs.Java.LiteralValue
import Rulebook.Proofs.Outcome

/-!
Texts that spell tokens: read where a token may start, such a text gives its tokens and ends where
the next token may start, whatever stands behind it. Texts that spell tokens can be put together,
and so can their tokens.
-/

namespace Rulebook.Java

open Rulebook.Text

/-! ## Runs of the reader -/

namespace Mode

theorem run_cons_eq_ok {mode last : Mode} {u : CodeUnit} {us : List CodeUnit} {ts : List Token} :
    mode.run (u :: us) = .ok (ts, last) ↔ ∃ ended middle others,
      mode.next u = .ok (ended, middle) ∧ middle.run us = .ok (others, last) ∧
        ts = ended ++ others := by
  rw [run]
  constructor
  · intro h
    obtain ⟨⟨ended, middle⟩, hnext, h⟩ := bind_eq_ok.1 h
    obtain ⟨⟨others, final⟩, hrun, h⟩ := bind_eq_ok.1 h
    cases h
    exact ⟨ended, middle, others, hnext, hrun, rfl⟩
  · rintro ⟨ended, middle, others, hnext, hrun, rfl⟩
    exact bind_eq_ok.2 ⟨(ended, middle), hnext, bind_eq_ok.2 ⟨(others, last), hrun, rfl⟩⟩

theorem run_append {mode middle last : Mode} {us vs : List CodeUnit} {ts others : List Token}
    (h : mode.run us = .ok (ts, middle)) (h' : middle.run vs = .ok (others, last)) :
    mode.run (us ++ vs) = .ok (ts ++ others, last) := by
  induction us generalizing mode ts with
  | nil =>
    cases h
    exact h'
  | cons u us ih =>
    obtain ⟨ended, m, rest, hnext, hrun, rfl⟩ := run_cons_eq_ok.1 h
    rw [List.append_assoc]
    exact run_cons_eq_ok.2 ⟨ended, m, rest ++ others, hnext, ih hrun, rfl⟩

/-- A literal that closes is a token, and what stands behind it is read from there. -/
theorem run_literal {l : OpenLiteral} {us rest value : List CodeUnit} {ts : List Token}
    {last : Mode} (h : l.close us = .ok (value, rest))
    (h' : Mode.between.run rest = .ok (ts, last)) :
    (Mode.literal l).run us = .ok (.text value :: ts, last) := by
  induction us generalizing l with
  | nil => cases h
  | cons u us ih =>
    rw [OpenLiteral.close] at h
    cases hnext : l.next u with
    | error e => simp only [hnext, reduceCtorEq] at h
    | ok next =>
      cases next with
      | none =>
        simp only [hnext] at h
        cases h
        refine run_cons_eq_ok.2 ⟨[.text l.value], .between, ts, ?_, h', rfl⟩
        simp only [next, hnext]
      | some l' =>
        simp only [hnext] at h
        refine run_cons_eq_ok.2 ⟨[], .literal l', .text value :: ts, ?_, ih h, rfl⟩
        simp only [next, hnext]

theorem run_readLiteral {us rest value : List CodeUnit} {ts : List Token} {last : Mode}
    (h : readLiteral us = .ok (value, rest)) (h' : Mode.between.run rest = .ok (ts, last)) :
    Mode.between.run us = .ok (.text value :: ts, last) := by
  cases us with
  | nil => cases h
  | cons u us =>
    rw [readLiteral] at h
    by_cases hquote : u = quote
    · subst hquote
      rw [if_pos rfl] at h
      exact run_cons_eq_ok.2 ⟨[], .literal .empty, _, rfl, run_literal h h', rfl⟩
    · rw [if_neg hquote] at h
      cases h

theorem run_word {us : List CodeUnit} (h : ∀ u ∈ us, continuesWord u) (w : List CodeUnit) :
    (Mode.word w).run us = .ok ([], .word (w ++ us)) := by
  induction us generalizing w with
  | nil => rw [run, List.append_nil]
  | cons u us ih =>
    have hnext : (Mode.word w).next u = .ok ([], .word (w ++ [u])) := by
      rw [next, if_pos (h u List.mem_cons_self)]
    refine run_cons_eq_ok.2 ⟨[], .word (w ++ [u]), [], hnext, ?_, rfl⟩
    rw [ih fun v hv => h v (List.mem_cons_of_mem u hv), List.append_assoc, List.singleton_append]

theorem run_word_of_break {u : CodeUnit} {us : List CodeUnit} {ts : List Token} {last : Mode}
    (hu : continuesWord u = false) (h : Mode.between.run (u :: us) = .ok (ts, last))
    (w : List CodeUnit) : (Mode.word w).run (u :: us) = .ok (.word w :: ts, last) := by
  obtain ⟨ended, middle, others, hnext, hrun, rfl⟩ := run_cons_eq_ok.1 h
  -- The unit ends the word and does what it does between two tokens.
  refine run_cons_eq_ok.2 ⟨.word w :: ended, middle, others, ?_, hrun, rfl⟩
  rw [next] at hnext
  rw [next, if_neg (by rw [hu]; exact Bool.false_ne_true), hnext]
  rfl

end Mode

/-! ## Identifiers -/

def startsIdentifier (c : Char) : Bool :=
  ('a' ≤ c && c ≤ 'z') || ('A' ≤ c && c ≤ 'Z') || c == '_' || c == '$'

def continuesIdentifier (c : Char) : Bool := startsIdentifier c || ('0' ≤ c && c ≤ '9')

def isIdentifier : List Char → Bool
  | [] => false
  | c :: rest => startsIdentifier c && rest.all continuesIdentifier

/-- Whether a text starts with a character that no word goes on with. -/
def endsWord : List Char → Bool
  | [] => false
  | c :: _ => c.toNat < 128 && c != '\\' && !continuesIdentifier c

theorem startsWord_ofNat {c : Char} (h : c.toNat < 128) :
    startsWord (UInt16.ofNat c.toNat) = startsIdentifier c := by
  have hall : ∀ n < 128, startsWord (UInt16.ofNat n) = startsIdentifier (Char.ofNat n) := by decide
  rw [hall _ h, Char.ofNat_toNat]

theorem continuesWord_ofNat {c : Char} (h : c.toNat < 128) :
    continuesWord (UInt16.ofNat c.toNat) = continuesIdentifier c := by
  have hall : ∀ n < 128, continuesWord (UInt16.ofNat n) = continuesIdentifier (Char.ofNat n) := by
    decide
  rw [hall _ h, Char.ofNat_toNat]

theorem start_of_startsWord {n : Nat} (hn : n < 128) (h : startsWord (UInt16.ofNat n)) :
    Mode.start (UInt16.ofNat n) = .ok ([], .word [UInt16.ofNat n]) := by
  -- What starts a word is neither a blank nor a quote, so the first two tests fail.
  have hall : ∀ n < 128, startsWord (UInt16.ofNat n) →
      isBlank (UInt16.ofNat n) = false ∧ UInt16.ofNat n ≠ quote := by decide
  obtain ⟨hblank, hquote⟩ := hall n hn h
  rw [Mode.start, if_neg (by rw [hblank]; exact Bool.false_ne_true), if_neg hquote, if_pos h]

theorem lt_of_continuesIdentifier {c : Char} (h : continuesIdentifier c) : c.toNat < 128 := by
  simp only [continuesIdentifier, startsIdentifier, Bool.or_eq_true, Bool.and_eq_true,
    decide_eq_true_eq, beq_iff_eq, Char.le_def, UInt32.le_iff_toNat_le] at h
  rcases h with (((h | h) | rfl) | rfl) | h
  · exact Nat.lt_of_le_of_lt h.2 (by decide)
  · exact Nat.lt_of_le_of_lt h.2 (by decide)
  · decide
  · decide
  · exact Nat.lt_of_le_of_lt h.2 (by decide)

theorem continuesIdentifier_of_mem {w : List Char} (h : isIdentifier w) {c : Char} (hc : c ∈ w) :
    continuesIdentifier c := by
  cases w with
  | nil => exact absurd hc List.not_mem_nil
  | cons d rest =>
    rw [isIdentifier, Bool.and_eq_true, List.all_eq_true] at h
    rcases List.mem_cons.1 hc with rfl | hc
    · rw [continuesIdentifier, h.1, Bool.true_or]
    · exact h.2 c hc

theorem continuesWord_of_mem_ofChars {w : List Char} (h : ∀ c ∈ w, continuesIdentifier c) :
    ∀ u ∈ CodeUnit.ofChars w, continuesWord u := by
  intro u hu
  obtain ⟨c, hc, hu⟩ := List.mem_flatMap.1 hu
  have hlt := lt_of_continuesIdentifier (h c hc)
  rw [CodeUnit.ofChar_of_lt (Nat.lt_trans hlt (by decide)), List.mem_singleton] at hu
  rw [hu, continuesWord_ofNat hlt]
  exact h c hc

theorem run_identifier {w : List Char} (h : isIdentifier w) :
    Mode.between.run (CodeUnit.ofChars w) = .ok ([], .word (CodeUnit.ofChars w)) := by
  cases w with
  | nil => cases h
  | cons c rest =>
    have hall := fun d hd => continuesIdentifier_of_mem h (List.mem_cons_of_mem c (a := d) hd)
    have hlt := lt_of_continuesIdentifier (continuesIdentifier_of_mem h List.mem_cons_self)
    rw [isIdentifier, Bool.and_eq_true, ← startsWord_ofNat hlt] at h
    rw [CodeUnit.ofChars_cons, CodeUnit.ofChar_of_lt (Nat.lt_trans hlt (by decide)),
      List.singleton_append]
    exact Mode.run_cons_eq_ok.2 ⟨[], _, [], start_of_startsWord hlt h.1,
      Mode.run_word (continuesWord_of_mem_ofChars hall) _, rfl⟩

/-! ## Code -/

/-- Code as it is written: ASCII without backslashes. -/
def isCode (s : List Char) : Bool := s.all fun c => c.toNat < 128 && c != '\\'

theorem isCode_of_isIdentifier {w : List Char} (h : isIdentifier w) : isCode w := by
  rw [isCode, List.all_eq_true]
  intro c hc
  have hcontinues := continuesIdentifier_of_mem h hc
  rw [Bool.and_eq_true, decide_eq_true_eq, bne_iff_ne]
  refine ⟨lt_of_continuesIdentifier hcontinues, ?_⟩
  rintro rfl
  exact absurd hcontinues (by decide)

theorem unitsAfter_of_isCode {s : List Char} (h : isCode s) (rest : List Char) :
    unitsAfter false (s ++ rest) = CodeUnit.ofChars s ++ unitsAfter false rest := by
  induction s with
  | nil => rfl
  | cons c s ih =>
    rw [isCode, List.all_cons, Bool.and_eq_true, Bool.and_eq_true, bne_iff_ne] at h
    rw [List.cons_append, unitsAfter_cons_of_ne h.1.2, ih h.2, CodeUnit.ofChars_cons,
      List.append_assoc]

/-! ## Spelling -/

/-- The text is ASCII, is translated apart from what stands behind it, and gives these tokens where
a token may start. -/
structure Spells (s : List Char) (ts : List Token) : Prop where
  ascii : ∀ c ∈ s, c.toNat < 128
  split : ∀ rest, unitsAfter false (s ++ rest) = unitsAfter false s ++ unitsAfter false rest
  run : Mode.between.run (unitsAfter false s) = .ok (ts, .between)

namespace Spells

variable {s t : List Char} {ts us : List Token}

theorem nil : Spells [] [] := by
  refine ⟨fun c hc => absurd hc List.not_mem_nil, fun rest => ?_, ?_⟩
  · rw [List.nil_append, unitsAfter, List.nil_append]
  · rw [unitsAfter]
    rfl

theorem append (h : Spells s ts) (h' : Spells t us) : Spells (s ++ t) (ts ++ us) := by
  refine ⟨fun c hc => ?_, fun rest => ?_, ?_⟩
  · rcases List.mem_append.1 hc with hc | hc
    · exact h.ascii c hc
    · exact h'.ascii c hc
  · rw [List.append_assoc, h.split, h'.split, h.split, List.append_assoc]
  · rw [h.split]
    exact Mode.run_append h.run h'.run

theorem flatMap {α : Type} {xs : List α} {f : α → List Char} {g : α → List Token}
    (h : ∀ x ∈ xs, Spells (f x) (g x)) : Spells (xs.flatMap f) (xs.flatMap g) := by
  induction xs with
  | nil => exact nil
  | cons x xs ih =>
    rw [List.flatMap_cons, List.flatMap_cons]
    exact (h x List.mem_cons_self).append (ih fun y hy => h y (List.mem_cons_of_mem x hy))

/-! ### Literals -/

theorem ascii_of_isPrintable {c : Char} (h : isPrintable c) : c.toNat < 128 := by
  rw [isPrintable, Bool.and_eq_true, decide_eq_true_eq, decide_eq_true_eq] at h
  exact Nat.lt_of_le_of_lt (UInt32.le_iff_toNat_le.1 h.2) (by decide)

theorem literalChars (v : List Char) :
    Spells (literalChars v) [.text (CodeUnit.ofChars v)] := by
  refine ⟨fun c hc => ?_, fun rest => ?_, ?_⟩
  · rw [Java.literalChars, List.mem_cons, List.mem_append, List.mem_singleton] at hc
    rcases hc with rfl | hc | rfl
    · decide
    · exact ascii_of_isPrintable (isPrintable_of_mem_escapeChars hc)
    · decide
  · exact unitsAfter_literalChars_append v rest
  · have hread := readLiteral_literalChars v []
    rw [List.append_nil] at hread
    exact Mode.run_readLiteral hread nil.run

/-! ### Code -/

theorem ofCode (h : isCode s)
    (hrun : Mode.between.run (CodeUnit.ofChars s) = .ok (ts, .between)) : Spells s ts := by
  have halone : unitsAfter false s = CodeUnit.ofChars s := by
    have h' := unitsAfter_of_isCode h []
    rw [List.append_nil, unitsAfter, List.append_nil] at h'
    exact h'
  refine ⟨fun c hc => ?_, fun rest => ?_, ?_⟩
  · have hall := List.all_eq_true.1 h c hc
    rw [Bool.and_eq_true, decide_eq_true_eq] at hall
    exact hall.1
  · rw [halone, unitsAfter_of_isCode h]
  · rw [halone]
    exact hrun

/-! ### Words -/

theorem word_append {w : List Char} (hw : isIdentifier w) (hend : endsWord s) (hs : Spells s ts) :
    Spells (w ++ s) (.word (CodeUnit.ofChars w) :: ts) := by
  have hcode := isCode_of_isIdentifier hw
  refine ⟨fun c hc => ?_, fun rest => ?_, ?_⟩
  · rcases List.mem_append.1 hc with hc | hc
    · exact lt_of_continuesIdentifier (continuesIdentifier_of_mem hw hc)
    · exact hs.ascii c hc
  · rw [List.append_assoc, unitsAfter_of_isCode hcode, unitsAfter_of_isCode hcode, hs.split,
      List.append_assoc]
  · rw [unitsAfter_of_isCode hcode]
    refine Mode.run_append (run_identifier hw) ?_
    cases s with
    | nil => cases hend
    | cons c s =>
      rw [endsWord, Bool.and_eq_true, Bool.and_eq_true, decide_eq_true_eq, bne_iff_ne] at hend
      obtain ⟨⟨hlt, hbackslash⟩, hcontinues⟩ := hend
      rw [← continuesWord_ofNat hlt, Bool.not_eq_true'] at hcontinues
      have hrun := hs.run
      rw [unitsAfter_cons_of_ne hbackslash,
        CodeUnit.ofChar_of_lt (Nat.lt_trans hlt (by decide)), List.singleton_append] at hrun ⊢
      exact Mode.run_word_of_break hcontinues hrun _

/-! ### Names with points -/

theorem parts_append {parts : List (List Char)} (hparts : parts ≠ [])
    (hall : ∀ part ∈ parts, isIdentifier part) (hend : endsWord s) (hs : Spells s ts) :
    Spells (['.'].intercalate parts ++ s)
      ((parts.map fun part => .word (CodeUnit.ofChars part)).intersperse (.mark 0x2E) ++ ts) := by
  induction parts with
  | nil => exact absurd rfl hparts
  | cons part rest ih =>
    have hpart := hall part List.mem_cons_self
    cases rest with
    | nil =>
      rw [List.intercalate_singleton]
      exact word_append hpart hend hs
    | cons other rest =>
      -- The point ends the word before it, and the other parts are read behind the point.
      have hpoint : Spells ['.'] [.mark 0x2E] := ofCode rfl rfl
      have hothers := ih (by simp) fun p hp => hall p (List.mem_cons_of_mem part hp)
      rw [List.intercalate_cons_cons, List.append_assoc, List.append_assoc]
      exact word_append hpart rfl (hpoint.append hothers)

end Spells

def isQualifiedName (s : List Char) : Bool := (s.splitOn '.').all isIdentifier

namespace Token

def ofWord (s : String) : Token := .word (CodeUnit.ofChars s.toList)

def ofText (s : String) : Token := .text (CodeUnit.ofChars s.toList)

def qualified (s : String) : List Token :=
  ((s.toList.splitOn '.').map fun part => .word (CodeUnit.ofChars part)).intersperse (.mark 0x2E)

end Token

theorem Spells.qualified_append {name : String} {s : List Char} {ts : List Token}
    (hname : isQualifiedName name.toList) (hend : endsWord s) (hs : Spells s ts) :
    Spells (name.toList ++ s) (Token.qualified name ++ ts) := by
  have hparts := parts_append (List.splitOn_ne_nil '.' name.toList)
    (List.all_eq_true.1 hname) hend hs
  rw [List.intercalate_splitOn] at hparts
  exact hparts

/-! ### Words and marks with blanks between them -/

namespace Token

def ofPart : List Char → Token
  | [] => .word []
  | c :: rest =>
    if startsIdentifier c then .word (CodeUnit.ofChars (c :: rest))
    else .mark (UInt16.ofNat c.toNat)

def ofParts (s : List Char) : List Token := (s.splitOn ' ').map ofPart

def spaced (s : String) : List Token := ofParts s.toList

end Token

namespace Spells

/-- Whether code spells the words and marks that a second text gives with blanks between them. -/
def checksParts (s parts : List Char) : Bool :=
  isCode s
    && (Mode.between.run (CodeUnit.ofChars s)).toOption == some (Token.ofParts parts, Mode.between)

/-- Fixed code is read by evaluation, on the characters of both strings. -/
theorem ofParts {cs parts : List Char} (h : checksParts cs parts) :
    Spells (String.ofList cs).toList (Token.spaced (String.ofList parts)) := by
  rw [Token.spaced, String.toList_ofList, String.toList_ofList]
  rw [checksParts, Bool.and_eq_true, beq_iff_eq] at h
  refine ofCode h.1 ?_
  cases hrun : Mode.between.run (CodeUnit.ofChars cs) with
  | error e =>
    rw [hrun] at h
    cases h.2
  | ok result =>
    rw [hrun] at h
    exact congrArg Except.ok (Option.some.inj h.2)

theorem ofLastParts {cs parts : List Char} (h : checksParts (cs ++ ['\n']) parts) :
    Spells ((String.ofList cs).toList ++ ['\n']) (Token.spaced (String.ofList parts)) := by
  have hline := ofParts h
  rw [String.toList_ofList] at hline ⊢
  exact hline

end Spells

end Rulebook.Java
