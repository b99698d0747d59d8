import Mathlib.Data.List.DropRight
import Rulebook.Proofs.Json.Grammar

/-!
The law of the reader of JSON texts: from a text that starts with a spelling of a tree it reads that
tree and leaves the rest.
-/

namespace Rulebook.Json

/-! ## Strings -/

theorem readString_spelled {piece : Piece} {cs : List Char} (h : piece.Spelled cs)
    (before : List Piece) (rest : List Char) :
    readString before (cs ++ rest) = readString (piece :: before) rest := by
  cases h with
  | plain hcontrol hquote hbackslash =>
    rw [List.singleton_append, readString]
    · rw [if_neg (not_or.2 ⟨Nat.not_lt.2 hcontrol, hbackslash⟩)]
    · exact hquote
    · exact fun _ _ _ _ _ heq => absurd heq hbackslash
    · exact fun _ _ heq => absurd heq hbackslash
  | @short letter c hletter =>
    -- The letter u stands for no character by itself.
    have hu : letter ≠ 'u' := by
      rintro rfl
      simp [shortEscape?] at hletter
    rw [List.cons_append, List.singleton_append, readString, hletter]
    exact fun _ _ _ _ _ heq => absurd heq hu
  | unit hfour =>
    show readString before ('\\' :: 'u' :: _ :: _ :: _ :: _ :: rest) = _
    rw [readString, hfour]

theorem readString_of_spelled {pieces : List Piece} {cs : List Char} (h : PiecesSpelled pieces cs)
    (before : List Piece) (rest : List Char) :
    readString before (cs ++ '"' :: rest) = some (before.reverse ++ pieces, rest) := by
  induction h generalizing before with
  | nil => rw [List.nil_append, List.append_nil, readString]
  | cons hpiece _ ih =>
    rw [List.append_assoc, readString_spelled hpiece, ih, List.reverse_cons, List.append_assoc,
      List.singleton_append]

/-! ## Numbers -/

/-- The text does not start with a character of a kind. -/
def Lacks (kind : Char → Bool) (cs : List Char) : Prop := cs.head?.any kind = false

def continuesNumber (c : Char) : Bool := isDigit c || c == '.' || c == 'e' || c == 'E'

section Numbers

variable {cs rest : List Char}

theorem Lacks.of_imp {kind other : Char → Bool} (h : Lacks kind cs)
    (himp : ∀ c, other c = true → kind c = true) : Lacks other cs := by
  cases cs with
  | nil => rfl
  | cons c cs =>
    simp only [Lacks, List.head?_cons, Option.any_some, Bool.eq_false_iff] at h ⊢
    exact fun hc => h (himp c hc)

theorem readDigits_append (h : ∀ c ∈ cs, isDigit c = true) (hrest : Lacks isDigit rest) :
    readDigits (cs ++ rest) = (cs.map digitValue, rest) := by
  have hstop : rest.takeWhile isDigit = [] ∧ rest.dropWhile isDigit = rest := by
    cases rest with
    | nil => exact ⟨rfl, rfl⟩
    | cons c rest =>
      simp only [Lacks, List.head?_cons, Option.any_some] at hrest
      simp only [List.takeWhile_cons, List.dropWhile_cons, hrest, Bool.false_eq_true, if_false,
        and_self]
  rw [readDigits, List.takeWhile_append_of_pos h, List.dropWhile_append_of_pos h, hstop.1, hstop.2,
    List.append_nil]

theorem readDigits?_append (h : AreDigits cs) (hrest : Lacks isDigit rest) :
    readDigits? (cs ++ rest) = some (cs.map digitValue, rest) := by
  rw [readDigits?, readDigits_append h.2 hrest]
  cases cs with
  | nil => exact absurd rfl h.1
  | cons c cs => rfl

theorem readWhole_append {whole : List Nat} (h : WholeSpelled whole cs)
    (hrest : Lacks isDigit rest) : readWhole (cs ++ rest) = some (whole, rest) := by
  cases h with
  | zero =>
    rw [List.singleton_append, readWhole, hrest]
    rfl
  | @digits c cs hzero hdigits =>
    rw [List.cons_append, readWhole]
    · rw [if_pos (hdigits.2 c List.mem_cons_self), ← List.cons_append,
        readDigits_append hdigits.2 hrest]
    · exact hzero

theorem readFraction_append {fraction : List Nat} (h : FractionSpelled fraction cs)
    (hrest : Lacks (fun c => isDigit c || c == '.') rest) :
    readFraction (cs ++ rest) = some (fraction, rest) := by
  cases h with
  | absent =>
    rw [List.nil_append, readFraction.eq_def]
    split
    · simp [Lacks] at hrest
    · rfl
  | digits hdigits =>
    have hstop : Lacks isDigit rest := hrest.of_imp fun c hc => by rw [hc, Bool.true_or]
    rw [List.cons_append, readFraction, readDigits?_append hdigits hstop]

theorem readSign_append {negative : Bool} (h : SignSpelled negative cs)
    (hrest : Lacks (fun c => c == '+' || c == '-') rest) :
    readSign (cs ++ rest) = (negative, rest) := by
  cases h with
  | absent =>
    rw [List.nil_append, readSign.eq_def]
    split
    · simp [Lacks] at hrest
    · simp [Lacks] at hrest
    · rfl
  | plus => rfl
  | minus => rfl

theorem lacks_sign_of_areDigits (h : AreDigits cs) (rest : List Char) :
    Lacks (fun c => c == '+' || c == '-') (cs ++ rest) := by
  obtain ⟨hne, hdigits⟩ := h
  cases cs with
  | nil => exact absurd rfl hne
  | cons c cs =>
    have hc := hdigits c List.mem_cons_self
    simp only [Lacks, List.cons_append, List.head?_cons, Option.any_some, Bool.or_eq_false_iff,
      beq_eq_false_iff_ne]
    constructor
    · rintro rfl
      simp [isDigit] at hc
    · rintro rfl
      simp [isDigit] at hc

theorem readExponent_append {exponent : Option Exponent} (h : ExponentSpelled exponent cs)
    (hrest : Lacks continuesNumber rest) :
    readExponent (cs ++ rest) = some (exponent, rest) := by
  cases h with
  | absent =>
    cases rest with
    | nil => rfl
    | cons c rest =>
      have hc : ¬ (c = 'e' ∨ c = 'E') := by
        rintro (rfl | rfl) <;> simp [Lacks, continuesNumber] at hrest
      rw [List.nil_append, readExponent, if_neg hc]
  | digits he hsign hdigits =>
    have hstop : Lacks isDigit rest :=
      hrest.of_imp fun c hc => by rw [continuesNumber, hc]; rfl
    rw [List.cons_append, readExponent, if_pos he, List.append_assoc,
      readSign_append hsign (lacks_sign_of_areDigits hdigits rest)]
    simp only [readDigits?_append hdigits hstop, bind, Option.bind, pure]

theorem lacks_point_of_exponent {exponent : Option Exponent} (h : ExponentSpelled exponent cs)
    (hrest : Lacks continuesNumber rest) : Lacks (fun c => isDigit c || c == '.') (cs ++ rest) := by
  cases h with
  | absent => exact hrest.of_imp fun c hc => by rw [continuesNumber, hc]; rfl
  | digits he =>
    rcases he with rfl | rfl <;> rfl

theorem lacks_digit_of_fraction {fraction : List Nat} (h : FractionSpelled fraction cs)
    (hrest : Lacks (fun c => isDigit c || c == '.') rest) : Lacks isDigit (cs ++ rest) := by
  cases h with
  | absent => exact hrest.of_imp fun c hc => by rw [hc, Bool.true_or]
  | digits => rfl

theorem ne_minus_of_whole {whole : List Nat} (h : WholeSpelled whole cs) (rest tail : List Char) :
    cs ++ rest ≠ '-' :: tail := by
  cases h with
  | zero => simp
  | @digits c cs hzero hdigits =>
    intro heq
    obtain rfl := (List.cons.inj heq).1
    have hc := hdigits.2 '-' List.mem_cons_self
    simp [isDigit] at hc

theorem readNumeral_append {n : Numeral} (h : n.Spelled cs) (hrest : Lacks continuesNumber rest) :
    readNumeral (cs ++ rest) = some (n, rest) := by
  cases h with
  | @mk negative whole fraction exponent cs ds es hwhole hfraction hexponent =>
    have hpoint := lacks_point_of_exponent hexponent hrest
    have hdigit := lacks_digit_of_fraction hfraction hpoint
    have hparts : readWhole (cs ++ (ds ++ (es ++ rest))) = some (whole, ds ++ (es ++ rest)) :=
      readWhole_append hwhole hdigit
    unfold readNumeral
    cases negative with
    | true =>
      simp only [if_true, List.cons_append, List.nil_append, List.append_assoc, hparts,
        readFraction_append hfraction hpoint, readExponent_append hexponent hrest, bind,
        Option.bind, pure]
    | false =>
      -- Without a minus the whole part comes first, and that is digits.
      simp only [Bool.false_eq_true, if_false, List.nil_append, List.append_assoc]
      split
      · next heq => exact absurd heq (ne_minus_of_whole hwhole _ _)
      · simp only [hparts, readFraction_append hfraction hpoint,
          readExponent_append hexponent hrest, bind, Option.bind, pure]

end Numbers

/-! ## Values -/

def startsValue (c : Char) : Bool :=
  c == 'n' || c == 't' || c == 'f' || c == '"' || c == '[' || c == '{' || c == '-' || isDigit c

theorem Numeral.Spelled.exists_cons {n : Numeral} {cs : List Char} (h : n.Spelled cs) :
    ∃ c rest, cs = c :: rest ∧ (c = '-' ∨ isDigit c = true) := by
  cases h with
  | @mk negative _ _ _ _ _ _ hwhole =>
    cases negative with
    | true => exact ⟨'-', _, rfl, Or.inl rfl⟩
    | false =>
      cases hwhole with
      | zero => exact ⟨'0', _, rfl, Or.inr rfl⟩
      | digits _ hdigits => exact ⟨_, _, rfl, Or.inr (hdigits.2 _ List.mem_cons_self)⟩

theorem Tree.Spelled.exists_cons {tree : Tree} {cs : List Char} (h : tree.Spelled cs) :
    ∃ c rest, cs = c :: rest ∧ startsValue c = true := by
  cases h with
  | nullWord => exact ⟨_, _, rfl, rfl⟩
  | trueWord => exact ⟨_, _, rfl, rfl⟩
  | falseWord => exact ⟨_, _, rfl, rfl⟩
  | number hn =>
    obtain ⟨c, rest, rfl, hc⟩ := hn.exists_cons
    refine ⟨c, rest, rfl, ?_⟩
    rcases hc with rfl | hc
    · rfl
    · rw [startsValue, hc, Bool.or_true]
  | string => exact ⟨_, _, rfl, rfl⟩
  | emptyArray => exact ⟨_, _, rfl, rfl⟩
  | array => exact ⟨_, _, rfl, rfl⟩
  | emptyObject => exact ⟨_, _, rfl, rfl⟩
  | object => exact ⟨_, _, rfl, rfl⟩

theorem isBlank_of_startsValue {c : Char} (h : startsValue c = true) : isBlank c = false := by
  rw [Bool.eq_false_iff]
  intro hblank
  simp only [isBlank, Bool.or_eq_true, beq_iff_eq] at hblank
  rcases hblank with ((rfl | rfl) | rfl) | rfl <;> exact absurd h (by decide)

theorem skipBlanks_append {ws rest : List Char} (h : AreBlanks ws) :
    skipBlanks (ws ++ rest) = skipBlanks rest :=
  List.dropWhile_append_of_pos h

theorem skipBlanks_cons {c : Char} (h : isBlank c = false) (rest : List Char) :
    skipBlanks (c :: rest) = c :: rest := by
  rw [skipBlanks, List.dropWhile_cons, h, if_neg Bool.false_ne_true]

@[simp]
theorem skipBlanks_skipBlanks (cs : List Char) : skipBlanks (skipBlanks cs) = skipBlanks cs :=
  List.dropWhile_idempotent isBlank cs

@[simp] theorem readTree_skipBlanks (fuel : Nat) (cs : List Char) :
    readTree fuel (skipBlanks cs) = readTree fuel cs := by
  cases fuel with
  | zero => rfl
  | succ fuel => rw [readTree, readTree, skipBlanks_skipBlanks]

@[simp] theorem readItems_skipBlanks (fuel : Nat) (before : List Tree) (cs : List Char) :
    readItems fuel before (skipBlanks cs) = readItems fuel before cs := by
  cases fuel with
  | zero => rfl
  | succ fuel => rw [readItems, readItems, readTree_skipBlanks]

@[simp]
theorem readMembers_skipBlanks (fuel : Nat) (before : List (List Piece × Tree)) (cs : List Char) :
    readMembers fuel before (skipBlanks cs) = readMembers fuel before cs := by
  cases fuel with
  | zero => rfl
  | succ fuel => rw [readMembers, readMembers, skipBlanks_skipBlanks]

theorem skipBlanks_spelled {tree : Tree} {before cs : List Char} (hbefore : AreBlanks before)
    (h : tree.Spelled cs) (rest : List Char) :
    skipBlanks (before ++ (cs ++ rest)) = cs ++ rest := by
  obtain ⟨c, tail, rfl, hc⟩ := h.exists_cons
  rw [skipBlanks_append hbefore]
  exact skipBlanks_cons (isBlank_of_startsValue hc) _

/-- What is left of the text of some items without the blanks before it starts like a value. -/
theorem ItemsSpelled.exists_cons {items : List Tree} {cs : List Char} (h : ItemsSpelled items cs)
    (rest : List Char) :
    ∃ c tail, skipBlanks (cs ++ rest) = c :: tail ∧ startsValue c = true := by
  cases h with
  | one hbefore hitem =>
    obtain ⟨c, tail, heq, hc⟩ := hitem.exists_cons
    rw [List.append_assoc, List.append_assoc, skipBlanks_spelled hbefore hitem, heq]
    exact ⟨c, _, rfl, hc⟩
  | more hbefore hitem =>
    obtain ⟨c, tail, heq, hc⟩ := hitem.exists_cons
    rw [List.append_assoc, List.append_assoc, skipBlanks_spelled hbefore hitem, heq]
    exact ⟨c, _, rfl, hc⟩

theorem MembersSpelled.exists_cons {members : List (List Piece × Tree)} {cs : List Char}
    (h : MembersSpelled members cs) (rest : List Char) :
    ∃ tail, skipBlanks (cs ++ rest) = '"' :: tail := by
  cases h with
  | one hbefore =>
    rw [List.append_assoc, skipBlanks_append hbefore]
    exact ⟨_, skipBlanks_cons rfl _⟩
  | more hbefore =>
    rw [List.append_assoc, skipBlanks_append hbefore]
    exact ⟨_, skipBlanks_cons rfl _⟩

/-- Digits and a minus are left for numbers. -/
theorem readTree_number {c : Char} (h : c = '-' ∨ isDigit c = true) (fuel : Nat)
    (rest : List Char) :
    readTree (fuel + 1) (c :: rest) =
      (readNumeral (c :: rest)).map fun (n, rest) => (.number n, rest) := by
  have hstart : startsValue c = true := by
    rcases h with rfl | h
    · rfl
    · rw [startsValue, h, Bool.or_true]
  have hne (d : Char) (hd : d ≠ '-' ∧ isDigit d = false) : c ≠ d := by
    rintro rfl
    rcases h with h | h
    · exact hd.1 h
    · rw [hd.2] at h
      cases h
  rw [readTree, skipBlanks_cons (isBlank_of_startsValue hstart)]
  split
  -- Only the last branch reads numbers.
  case h_1 heq => cases heq
  case h_8 => rfl
  all_goals next heq => exact absurd (List.cons.inj heq).1 (hne _ (by decide))

theorem lacks_of_areBlanks {ws rest : List Char} (h : AreBlanks ws)
    (hrest : Lacks continuesNumber rest) : Lacks continuesNumber (ws ++ rest) := by
  cases ws with
  | nil => exact hrest
  | cons c ws =>
    have hc := h c List.mem_cons_self
    simp only [isBlank, Bool.or_eq_true, beq_iff_eq] at hc
    rcases hc with ((rfl | rfl) | rfl) | rfl <;> rfl

/-- Blanks around a value are passed over. -/
theorem readTree_padded {tree : Tree} {before cs after rest : List Char} {fuel : Nat}
    (hbefore : AreBlanks before) (h : tree.Spelled cs)
    (hread : readTree fuel (cs ++ (after ++ rest)) = some (tree, after ++ rest)) :
    readTree fuel (before ++ (cs ++ (after ++ rest))) = some (tree, after ++ rest) := by
  rw [← readTree_skipBlanks, skipBlanks_spelled hbefore h, hread]

/-- One step into an object: a name, a colon and a value, with another member or the end behind. -/
theorem readMembers_step {name : List Piece} {tree : Tree}
    {before ns middle left rest others : List Char} {fuel : Nat} (hbefore : AreBlanks before)
    (hname : PiecesSpelled name ns) (hmiddle : AreBlanks middle)
    (hread : readTree fuel left = some (tree, rest)) (held : List (List Piece × Tree)) :
    (skipBlanks rest = ',' :: others →
      readMembers (fuel + 1) held (before ++ '"' :: (ns ++ '"' :: (middle ++ ':' :: left))) =
        readMembers fuel ((name, tree) :: held) others) ∧
    (skipBlanks rest = '}' :: others →
      readMembers (fuel + 1) held (before ++ '"' :: (ns ++ '"' :: (middle ++ ':' :: left))) =
        some (.object ((name, tree) :: held).reverse, others)) := by
  have hquote := skipBlanks_cons (c := '"') rfl (ns ++ '"' :: (middle ++ ':' :: left))
  have hcolon := skipBlanks_cons (c := ':') rfl left
  rw [readMembers, skipBlanks_append hbefore, hquote]
  simp only [readString_of_spelled hname, List.reverse_nil, List.nil_append]
  rw [skipBlanks_append hmiddle, hcolon]
  constructor <;> intro hrest <;> simp only [hread, hrest]

mutual

/-- What a value is spelled by is read as that value, and what is behind it is left. -/
theorem readTree_spelled {tree : Tree} {cs : List Char} (h : tree.Spelled cs) (fuel : Nat)
    (rest : List Char) (hfuel : 2 * cs.length ≤ fuel) (hrest : Lacks continuesNumber rest) :
    readTree fuel (cs ++ rest) = some (tree, rest) := by
  -- Every character pays for two steps, and no value is spelled by none: so there is one step for
  -- the value itself, and each level of nesting leaves enough for its items.
  obtain ⟨fuel, rfl⟩ : ∃ n, fuel = n + 1 := by
    obtain ⟨c, tail, rfl, -⟩ := h.exists_cons
    exact ⟨fuel - 1, by rw [List.length_cons] at hfuel; omega⟩
  cases h with
  | nullWord => rfl
  | trueWord => rfl
  | falseWord => rfl
  | number hn =>
    have hread := readNumeral_append hn hrest
    obtain ⟨c, tail, rfl, hc⟩ := hn.exists_cons
    rw [List.cons_append] at hread ⊢
    rw [readTree_number hc, hread]
    rfl
  | string hpieces =>
    rw [List.cons_append, List.append_assoc, List.singleton_append, readTree,
      skipBlanks_cons rfl]
    simp only [readString_of_spelled hpieces]
    rfl
  | emptyArray hws =>
    rw [List.cons_append, List.append_assoc, List.singleton_append, readTree,
      skipBlanks_cons rfl]
    simp only [skipBlanks_append hws, skipBlanks_cons (c := ']') rfl]
  | @array items cs hitems =>
    -- The reader takes a bracket for the end of an empty array, but no value starts with one.
    obtain ⟨c, tail, hskip, hc⟩ := hitems.exists_cons (']' :: rest)
    have hbracket : c ≠ ']' := by
      rintro rfl
      exact absurd hc (by decide)
    have hread := readItems_spelled hitems fuel [] rest
      (by simp only [List.length_cons, List.length_append, List.length_nil] at hfuel; omega)
    rw [← readItems_skipBlanks, hskip] at hread
    rw [List.cons_append, List.append_assoc, List.singleton_append, readTree,
      skipBlanks_cons rfl]
    simp only [hskip]
    split
    · next heq => exact absurd (List.cons.inj heq).1 hbracket
    · exact hread
  | emptyObject hws =>
    rw [List.cons_append, List.append_assoc, List.singleton_append, readTree,
      skipBlanks_cons rfl]
    simp only [skipBlanks_append hws, skipBlanks_cons (c := '}') rfl]
  | @object members cs hmembers =>
    obtain ⟨tail, hskip⟩ := hmembers.exists_cons ('}' :: rest)
    have hread := readMembers_spelled hmembers fuel [] rest
      (by simp only [List.length_cons, List.length_append, List.length_nil] at hfuel; omega)
    rw [← readMembers_skipBlanks, hskip] at hread
    rw [List.cons_append, List.append_assoc, List.singleton_append, readTree,
      skipBlanks_cons rfl]
    simp only [hskip]
    exact hread

theorem readItems_spelled {items : List Tree} {cs : List Char} (h : ItemsSpelled items cs)
    (fuel : Nat) (held : List Tree) (rest : List Char) (hfuel : 2 * cs.length + 1 ≤ fuel) :
    readItems fuel held (cs ++ ']' :: rest) = some (.array (held.reverse ++ items), rest) := by
  obtain ⟨fuel, rfl⟩ : ∃ n, fuel = n + 1 := ⟨fuel - 1, by omega⟩
  cases h with
  | @one item before cs after hbefore hitem hafter =>
    simp only [List.length_append] at hfuel
    have hread := readTree_spelled hitem fuel (after ++ ']' :: rest) (by omega)
      (lacks_of_areBlanks hafter rfl)
    rw [List.append_assoc, List.append_assoc, readItems, readTree_padded hbefore hitem hread]
    simp only [skipBlanks_append hafter, skipBlanks_cons (c := ']') rfl, List.reverse_cons]
  | @more item items before cs after others hbefore hitem hafter hothers =>
    simp only [List.length_append, List.length_cons] at hfuel
    have hread := readTree_spelled hitem fuel (after ++ ',' :: (others ++ ']' :: rest)) (by omega)
      (lacks_of_areBlanks hafter rfl)
    have htail := readItems_spelled hothers fuel (item :: held) rest (by omega)
    rw [List.append_assoc, List.append_assoc, List.append_assoc, List.cons_append, readItems,
      readTree_padded hbefore hitem hread]
    simp only [skipBlanks_append hafter, skipBlanks_cons (c := ',') rfl]
    rw [htail, List.reverse_cons, List.append_assoc, List.singleton_append]

theorem readMembers_spelled {members : List (List Piece × Tree)} {cs : List Char}
    (h : MembersSpelled members cs) (fuel : Nat) (held : List (List Piece × Tree))
    (rest : List Char) (hfuel : 2 * cs.length + 1 ≤ fuel) :
    readMembers fuel held (cs ++ '}' :: rest) =
      some (.object (held.reverse ++ members), rest) := by
  obtain ⟨fuel, rfl⟩ : ∃ n, fuel = n + 1 := ⟨fuel - 1, by omega⟩
  cases h with
  | @one name tree before ns middle between cs after hbefore hname hmiddle hbetween htree hafter =>
    simp only [List.length_append, List.length_cons] at hfuel
    have hread := readTree_spelled htree fuel (after ++ '}' :: rest) (by omega)
      (lacks_of_areBlanks hafter rfl)
    have hstep := (readMembers_step hbefore hname hmiddle
      (readTree_padded hbetween htree hread) held).2 (skipBlanks_append hafter)
    simp only [List.append_assoc, List.cons_append, hstep, List.reverse_cons]
  | @more name tree members before ns middle between cs after others hbefore hname hmiddle
      hbetween htree hafter hothers =>
    simp only [List.length_append, List.length_cons] at hfuel
    have hread := readTree_spelled htree fuel (after ++ ',' :: (others ++ '}' :: rest)) (by omega)
      (lacks_of_areBlanks hafter rfl)
    have htail := readMembers_spelled hothers fuel ((name, tree) :: held) rest (by omega)
    have hstep := (readMembers_step hbefore hname hmiddle
      (readTree_padded hbetween htree hread) held).1 (skipBlanks_append hafter)
    simp only [List.append_assoc, List.cons_append, hstep, htail, List.reverse_cons,
      List.nil_append]

end

/-- A text that spells a tree is read as that tree, blanks around it included. -/
theorem Tree.ofChars?_of_spelled {tree : Tree} {before cs after : List Char}
    (hbefore : AreBlanks before) (h : tree.Spelled cs) (hafter : AreBlanks after) :
    Tree.ofChars? (before ++ (cs ++ after)) = some tree := by
  have hread := readTree_spelled h (2 * (before ++ (cs ++ (after ++ []))).length + 2) (after ++ [])
    (by simp only [List.length_append]; omega) (lacks_of_areBlanks hafter rfl)
  have hpadded := readTree_padded hbefore h hread
  simp only [List.append_nil] at hpadded
  rw [Tree.ofChars?, hpadded]
  have hend : skipBlanks (after ++ []) = [] := skipBlanks_append hafter
  simp only [List.append_nil] at hend
  simp only [hend, List.isEmpty_nil, if_true]

end Rulebook.Json
