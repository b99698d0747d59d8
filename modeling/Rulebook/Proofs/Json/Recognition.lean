import Rulebook.Proofs.Json.Reading

/-!
The reader of JSON texts against the grammar: what is read from a text is spelled by what is taken
from it. With the law of the reader this says which texts are read, and as which tree. Strings and
the parts of numbers come first; then the steps into arrays and objects, along the fuel.
-/

namespace Rulebook.Json

open Rulebook.Text

/-! ## Words and strings -/

theorem eq_of_afterWord? {word cs rest : List Char} (h : afterWord? word cs = some rest) :
    cs = word ++ rest := by
  induction word generalizing cs with
  | nil =>
    cases h
    rfl
  | cons w word ih =>
    cases cs with
    | nil => cases h
    | cons c cs =>
      rw [afterWord?] at h
      split at h
      · next hc => rw [hc, ih h, List.cons_append]
      · cases h

/-- One piece of a string, and those behind it. -/
theorem exists_piecesSpelled {before pieces : List Piece} {piece : Piece}
    {spelling cs rest : List Char} (hpiece : piece.Spelled spelling)
    (h : ∃ read taken, pieces = (piece :: before).reverse ++ read ∧ PiecesSpelled read taken ∧
      cs = taken ++ '"' :: rest) :
    ∃ read taken, pieces = before.reverse ++ read ∧ PiecesSpelled read taken ∧
      spelling ++ cs = taken ++ '"' :: rest := by
  obtain ⟨read, taken, hpieces, htaken, rfl⟩ := h
  refine ⟨piece :: read, spelling ++ taken, ?_, .cons hpiece htaken,
    (List.append_assoc _ _ _).symm⟩
  rw [hpieces, List.reverse_cons, List.append_assoc, List.singleton_append]

theorem exists_of_readString {before pieces : List Piece} {cs rest : List Char}
    (h : readString before cs = some (pieces, rest)) :
    ∃ read taken, pieces = before.reverse ++ read ∧ PiecesSpelled read taken ∧
      cs = taken ++ '"' :: rest := by
  induction before, cs using readString.induct with
  | case1 before => cases h
  | case2 before tail =>
    rw [readString] at h
    cases h
    exact ⟨[], [], (List.append_nil _).symm, .nil, rfl⟩
  -- A `\u` escape with its four digits.
  | case3 before a b c d tail n hfour ih =>
    rw [readString, hfour] at h
    exact exists_piecesSpelled (.unit hfour) (ih h)
  | case4 before a b c d tail hfour =>
    rw [readString, hfour] at h
    cases h
  -- A short escape.
  | case5 before letter tail hne c hletter ih =>
    rw [readString, hletter] at h
    · exact exists_piecesSpelled (.short hletter) (ih h)
    · exact hne
  | case6 before letter tail hne hletter =>
    rw [readString, hletter] at h
    · cases h
    · exact hne
  | case7 before c tail hquote hunit hletter hc =>
    rw [readString, if_pos hc] at h
    · cases h
    · exact hquote
    · exact hunit
    · exact hletter
  -- Any other character, which is neither a control character nor a backslash.
  | case8 before c tail hquote hunit hletter hc ih =>
    obtain ⟨hcontrol, hbackslash⟩ := not_or.1 hc
    rw [readString, if_neg hc] at h
    · exact exists_piecesSpelled (.plain (Nat.not_lt.1 hcontrol) hquote hbackslash) (ih h)
    · exact hquote
    · exact hunit
    · exact hletter

/-! ## Numbers -/

theorem exists_of_readDigits? {cs rest : List Char} {digits : List Nat}
    (h : readDigits? cs = some (digits, rest)) :
    ∃ taken, digits = taken.map digitValue ∧ AreDigits taken ∧ cs = taken ++ rest := by
  rw [readDigits?, readDigits] at h
  split at h
  · cases h
  · next hne =>
    cases h
    have hdigits : cs.takeWhile isDigit ≠ [] := by
      intro hnil
      rw [hnil] at hne
      exact hne _ rfl
    exact ⟨cs.takeWhile isDigit, rfl, ⟨hdigits, fun c hc => List.mem_takeWhile_imp hc⟩,
      List.takeWhile_append_dropWhile.symm⟩

theorem exists_of_readWhole {cs rest : List Char} {whole : List Nat}
    (h : readWhole cs = some (whole, rest)) :
    ∃ taken, WholeSpelled whole taken ∧ cs = taken ++ rest := by
  unfold readWhole at h
  split at h
  · cases h
  · split at h
    · cases h
    · cases h
      exact ⟨['0'], .zero, rfl⟩
  · next c tail hzero =>
    split at h
    · next hc =>
      cases h
      have hcons : (c :: tail).takeWhile isDigit = c :: tail.takeWhile isDigit :=
        List.takeWhile_cons_of_pos hc
      refine ⟨(c :: tail).takeWhile isDigit, ?_, List.takeWhile_append_dropWhile.symm⟩
      have hdigits : AreDigits ((c :: tail).takeWhile isDigit) :=
        ⟨by rw [hcons]; exact List.cons_ne_nil _ _, fun d hd => List.mem_takeWhile_imp hd⟩
      rw [hcons] at hdigits ⊢
      exact .digits (fun heq => hzero heq) hdigits
    · cases h

theorem exists_of_readFraction {cs rest : List Char} {fraction : List Nat}
    (h : readFraction cs = some (fraction, rest)) :
    ∃ taken, FractionSpelled fraction taken ∧ cs = taken ++ rest := by
  unfold readFraction at h
  split at h
  · obtain ⟨taken, rfl, hdigits, rfl⟩ := exists_of_readDigits? h
    exact ⟨'.' :: taken, .digits hdigits, rfl⟩
  · cases h
    exact ⟨[], .absent, rfl⟩

theorem exists_of_readSign {cs rest : List Char} {negative : Bool}
    (h : readSign cs = (negative, rest)) :
    ∃ taken, SignSpelled negative taken ∧ cs = taken ++ rest := by
  unfold readSign at h
  split at h
  · cases h
    exact ⟨['+'], .plus, rfl⟩
  · cases h
    exact ⟨['-'], .minus, rfl⟩
  · cases h
    exact ⟨[], .absent, rfl⟩

theorem exists_of_readExponent {cs rest : List Char} {exponent : Option Exponent}
    (h : readExponent cs = some (exponent, rest)) :
    ∃ taken, ExponentSpelled exponent taken ∧ cs = taken ++ rest := by
  unfold readExponent at h
  split at h
  · cases h
    exact ⟨[], .absent, rfl⟩
  · next e tail =>
    split at h
    · next he =>
      rcases hsplit : readSign tail with ⟨negative, left⟩
      rw [hsplit] at h
      obtain ⟨⟨digits, last⟩, hdigits, hlast⟩ := Option.bind_eq_some_iff.1 h
      cases hlast
      obtain ⟨sign, hsign, rfl⟩ := exists_of_readSign hsplit
      obtain ⟨taken, rfl, htaken, rfl⟩ := exists_of_readDigits? hdigits
      refine ⟨e :: (sign ++ taken), .digits he hsign htaken, ?_⟩
      rw [List.cons_append, List.append_assoc]
    · cases h
      exact ⟨[], .absent, rfl⟩

/-- Behind the sign there are the three parts of a number, one after the other. -/
theorem exists_of_readParts (negative : Bool) {whole fraction : List Nat}
    {exponent : Option Exponent} {cs cs₁ cs₂ cs₃ : List Char}
    (hwhole : readWhole cs = some (whole, cs₁))
    (hfraction : readFraction cs₁ = some (fraction, cs₂))
    (hexponent : readExponent cs₂ = some (exponent, cs₃)) :
    ∃ taken, Numeral.Spelled ⟨negative, whole, fraction, exponent⟩
      ((if negative then ['-'] else []) ++ taken) ∧ cs = taken ++ cs₃ := by
  obtain ⟨taken, hspelled, rfl⟩ := exists_of_readWhole hwhole
  obtain ⟨taken', hspelled', rfl⟩ := exists_of_readFraction hfraction
  obtain ⟨taken'', hspelled'', rfl⟩ := exists_of_readExponent hexponent
  refine ⟨taken ++ (taken' ++ taken''), .mk hspelled hspelled' hspelled'', ?_⟩
  rw [List.append_assoc, List.append_assoc]

theorem exists_of_readNumeral {cs rest : List Char} {n : Numeral}
    (h : readNumeral cs = some (n, rest)) : ∃ taken, n.Spelled taken ∧ cs = taken ++ rest := by
  unfold readNumeral at h
  split at h
  next negative left hsign =>
    obtain ⟨⟨whole, cs₁⟩, hwhole, h⟩ := Option.bind_eq_some_iff.1 h
    obtain ⟨⟨fraction, cs₂⟩, hfraction, h⟩ := Option.bind_eq_some_iff.1 h
    obtain ⟨⟨exponent, cs₃⟩, hexponent, h⟩ := Option.bind_eq_some_iff.1 h
    cases h
    obtain ⟨taken, hspelled, rfl⟩ := exists_of_readParts negative hwhole hfraction hexponent
    split at hsign
    · cases hsign
      exact ⟨'-' :: taken, hspelled, rfl⟩
    · cases hsign
      exact ⟨taken, hspelled, rfl⟩

/-! ## Values -/

/-- Blanks that are passed over. -/
theorem exists_skipBlanks (cs : List Char) :
    ∃ blanks, AreBlanks blanks ∧ cs = blanks ++ skipBlanks cs :=
  ⟨cs.takeWhile isBlank, fun _ hc => List.mem_takeWhile_imp hc,
    List.takeWhile_append_dropWhile.symm⟩

mutual

theorem exists_of_readTree {fuel : Nat} {cs rest : List Char} {tree : Tree}
    (h : readTree fuel cs = some (tree, rest)) :
    ∃ before taken, AreBlanks before ∧ tree.Spelled taken ∧ cs = before ++ (taken ++ rest) := by
  cases fuel with
  | zero => cases h
  | succ fuel =>
    obtain ⟨before, hbefore, hcs⟩ := exists_skipBlanks cs
    -- The first character behind the blanks tells which kind of value was read.
    have hpadded {taken : List Char} (htaken : tree.Spelled taken)
        (hskip : skipBlanks cs = taken ++ rest) :
        ∃ before taken, AreBlanks before ∧ tree.Spelled taken ∧ cs = before ++ (taken ++ rest) :=
      ⟨before, taken, hbefore, htaken, hskip ▸ hcs⟩
    rw [readTree] at h
    split at h
    · cases h
    · next tail hskip =>
      obtain ⟨⟨pieces, left⟩, hread, h⟩ := Option.map_eq_some_iff.1 h
      cases h
      obtain ⟨read, taken, rfl, htaken, rfl⟩ := exists_of_readString hread
      refine hpadded (.string htaken) ?_
      rw [hskip, List.cons_append, List.append_assoc, List.singleton_append]
    · next tail hskip =>
      obtain ⟨blanks, hblanks, htail⟩ := exists_skipBlanks tail
      split at h
      · next left hclose =>
        cases h
        refine hpadded (.emptyArray hblanks) ?_
        rw [hskip, htail, hclose, List.cons_append, List.append_assoc, List.singleton_append]
      · rw [readItems_skipBlanks] at h
        obtain ⟨items, taken, rfl, htaken, rfl⟩ := exists_of_readItems h
        refine hpadded (.array htaken) ?_
        rw [hskip, List.cons_append, List.append_assoc, List.singleton_append]
    · next tail hskip =>
      obtain ⟨blanks, hblanks, htail⟩ := exists_skipBlanks tail
      split at h
      · next left hclose =>
        cases h
        refine hpadded (.emptyObject hblanks) ?_
        rw [hskip, htail, hclose, List.cons_append, List.append_assoc, List.singleton_append]
      · rw [readMembers_skipBlanks] at h
        obtain ⟨members, taken, rfl, htaken, rfl⟩ := exists_of_readMembers h
        refine hpadded (.object htaken) ?_
        rw [hskip, List.cons_append, List.append_assoc, List.singleton_append]
    · next tail hskip =>
      obtain ⟨left, hread, h⟩ := Option.map_eq_some_iff.1 h
      cases h
      exact hpadded .nullWord (hskip.trans (congrArg ('n' :: ·) (eq_of_afterWord? hread)))
    · next tail hskip =>
      obtain ⟨left, hread, h⟩ := Option.map_eq_some_iff.1 h
      cases h
      exact hpadded .trueWord (hskip.trans (congrArg ('t' :: ·) (eq_of_afterWord? hread)))
    · next tail hskip =>
      obtain ⟨left, hread, h⟩ := Option.map_eq_some_iff.1 h
      cases h
      exact hpadded .falseWord (hskip.trans (congrArg ('f' :: ·) (eq_of_afterWord? hread)))
    · obtain ⟨⟨n, left⟩, hread, h⟩ := Option.map_eq_some_iff.1 h
      cases h
      obtain ⟨taken, htaken, hskip⟩ := exists_of_readNumeral hread
      exact hpadded (.number htaken) hskip

theorem exists_of_readItems {fuel : Nat} {held : List Tree} {cs rest : List Char} {tree : Tree}
    (h : readItems fuel held cs = some (tree, rest)) :
    ∃ items taken, tree = .array (held.reverse ++ items) ∧ ItemsSpelled items taken ∧
      cs = taken ++ ']' :: rest := by
  cases fuel with
  | zero => cases h
  | succ fuel =>
    rw [readItems] at h
    split at h
    · cases h
    · next item left hread =>
      obtain ⟨before, taken, hbefore, htaken, rfl⟩ := exists_of_readTree hread
      obtain ⟨after, hafter, hleft⟩ := exists_skipBlanks left
      split at h
      · next others hcomma =>
        obtain ⟨items, taken', rfl, hothers, rfl⟩ := exists_of_readItems h
        refine ⟨item :: items, _, ?_, .more hbefore htaken hafter hothers, ?_⟩
        · rw [List.reverse_cons, List.append_assoc, List.singleton_append]
        · rw [hleft, hcomma]
          simp only [List.append_assoc, List.cons_append]
      · next others hclose =>
        cases h
        refine ⟨[item], _, by rw [List.reverse_cons], .one hbefore htaken hafter, ?_⟩
        rw [hleft, hclose]
        simp only [List.append_assoc]
      · cases h

theorem exists_of_readMembers {fuel : Nat} {held : List (List Piece × Tree)} {cs rest : List Char}
    {tree : Tree} (h : readMembers fuel held cs = some (tree, rest)) :
    ∃ members taken, tree = .object (held.reverse ++ members) ∧ MembersSpelled members taken ∧
      cs = taken ++ '}' :: rest := by
  cases fuel with
  | zero => cases h
  | succ fuel =>
    rw [readMembers] at h
    split at h
    · next tail hquote =>
      split at h
      · cases h
      · next name behind hname =>
        split at h
        · next value hcolon =>
          split at h
          · cases h
          · next item left hread =>
            -- Blanks, a name, blanks, a colon, blanks, a value, blanks.
            obtain ⟨before, hbefore, hcs⟩ := exists_skipBlanks cs
            obtain ⟨read, ns, rfl, hns, htail⟩ := exists_of_readString hname
            obtain ⟨middle, hmiddle, hbehind⟩ := exists_skipBlanks behind
            obtain ⟨between, taken, hbetween, htaken, rfl⟩ := exists_of_readTree hread
            obtain ⟨after, hafter, hleft⟩ := exists_skipBlanks left
            split at h
            · next others hcomma =>
              obtain ⟨members, taken', rfl, hothers, rfl⟩ := exists_of_readMembers h
              refine ⟨(name, item) :: members, _, ?_,
                .more hbefore hns hmiddle hbetween htaken hafter hothers, ?_⟩
              · simp only [List.reverse_cons, List.append_assoc, List.singleton_append]
              · rw [hcs, hquote, htail, hbehind, hcolon, hleft, hcomma]
                simp only [List.append_assoc, List.cons_append]
            · next others hclose =>
              cases h
              refine ⟨[(name, item)], _, ?_,
                .one hbefore hns hmiddle hbetween htaken hafter, ?_⟩
              · rw [List.reverse_cons]
              · rw [hcs, hquote, htail, hbehind, hcolon, hleft, hclose]
                simp only [List.append_assoc, List.cons_append]
            · cases h
        · cases h
    · cases h

end

/-! ## Texts -/

/-- A text spells a tree, with blanks around it or without. -/
def Tree.IsSpelledBy (tree : Tree) (text : String) : Prop :=
  ∃ before cs after, AreBlanks before ∧ tree.Spelled cs ∧ AreBlanks after ∧
    text.toList = before ++ (cs ++ after)

/-- The reader reads exactly what the grammar spells. -/
theorem Tree.ofText?_eq_some_iff {tree : Tree} {text : String} :
    Tree.ofText? text = some tree ↔ tree.IsSpelledBy text := by
  constructor
  · intro h
    rw [ofText?, ofChars?] at h
    split at h
    · next read left hread =>
      obtain ⟨before, cs, hbefore, hcs, htext⟩ := exists_of_readTree hread
      obtain ⟨after, hafter, hleft⟩ := exists_skipBlanks left
      split at h
      · next hend =>
        cases h
        rw [List.isEmpty_iff.1 hend, List.append_nil] at hleft
        exact ⟨before, cs, after, hbefore, hcs, hafter, hleft ▸ htext⟩
      · cases h
    · cases h
  · rintro ⟨before, cs, after, hbefore, hcs, hafter, htext⟩
    rw [ofText?, htext]
    exact ofChars?_of_spelled hbefore hcs hafter

end Rulebook.Json
