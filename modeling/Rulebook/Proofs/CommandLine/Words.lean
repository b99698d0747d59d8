import Rulebook.CommandLine.Arguments
import Rulebook.Proofs.Outcome

/-!
Command lines that are read. The words of a command line that is read are options one after the
other, with the name of a command among them. So words that are about one part of what is given can
be left out of it: what is left is read as before, less that part.
-/

namespace Rulebook.CommandLine

/-! ## Kinds of words -/

def Word.awaitsValue : Word → Bool
  | .long name none => (ValueOption.allowed (some .registrars)).any (·.name == name)
  | _ => false

def hasWord (kind : Word → Bool) (words : List String) : Bool :=
  words.any fun word => kind (.ofText word)

/-- A command line without the options whose words are of a kind, and without their values. -/
def without (kind : Word → Bool) : List String → List String
  | [] => []
  | [word] => if kind (.ofText word) then [] else [word]
  | word :: next :: rest =>
    if kind (.ofText word) then
      if (Word.ofText word).awaitsValue then without kind rest else without kind (next :: rest)
    else word :: without kind (next :: rest)

section Without

variable {kind : Word → Bool} {word : String}

theorem without_cons_of_not (h : ¬kind (.ofText word) = true) (rest : List String) :
    without kind (word :: rest) = word :: without kind rest := by
  cases rest with
  | nil => exact if_neg h
  | cons next rest => exact if_neg h

theorem without_cons (h : kind (.ofText word) = true)
    (hword : ¬(Word.ofText word).awaitsValue = true) (rest : List String) :
    without kind (word :: rest) = without kind rest := by
  cases rest with
  | nil => exact if_pos h
  | cons next rest => exact (if_pos h).trans (if_neg hword)

theorem without_cons_cons (h : kind (.ofText word) = true)
    (hword : (Word.ofText word).awaitsValue = true) (value : String) (rest : List String) :
    without kind (word :: value :: rest) = without kind rest :=
  (if_pos h).trans (if_pos hword)

end Without

/-! ## Options that are taken -/

/-- An option is taken from a word, and from a second one if its value is a word of its own. -/
inductive Takes (scope : Scope) (given : Given) : String → List String → Given → Prop
  | letters {word : String} {letters : List Char} {given' : Given}
      (hword : Word.ofText word = .letters letters)
      (htake : given.takeLetters scope letters = .ok given') : Takes scope given word [] given'
  | attached {word name value : String} {option : ValueOption} {given' : Given}
      (hword : Word.ofText word = .long name (some value))
      (hname : ValueOption.ofName? scope name = some option)
      (htake : given.take option value = .ok given') : Takes scope given word [] given'
  | named {word name : String} {switch : Switch} {given' : Given}
      (hword : Word.ofText word = .long name none)
      (hname : ValueOption.ofName? scope name = none)
      (hswitch : Switch.ofName? scope name = some switch)
      (htake : given.takeSwitch switch = .ok given') : Takes scope given word [] given'
  | valued {word name value : String} {option : ValueOption} {given' : Given}
      (hword : Word.ofText word = .long name none)
      (hname : ValueOption.ofName? scope name = some option)
      (hvalue : Word.ofText value = .plain)
      (htake : given.take option value = .ok given') : Takes scope given word [value] given'

inductive TakesAll (scope : Scope) : Given → List String → Given → Prop
  | nothing {given : Given} : TakesAll scope given [] given
  | option {given given' given'' : Given} {word : String} {values words : List String}
      (h : Takes scope given word values given') (hrest : TakesAll scope given' words given'') :
      TakesAll scope given (word :: values ++ words) given''

def EndsOptions (words : List String) : Prop :=
  ∀ word ∈ words.head?, Word.ofText word = .plain ∨ Word.ofText word = .separator

theorem takeAttached_eq_ok {scope : Scope} {given given' : Given} {name value : String} :
    takeAttached scope given name value = .ok given' ↔
      ∃ option, ValueOption.ofName? scope name = some option ∧
        given.take option value = .ok given' := by
  unfold takeAttached
  cases ValueOption.ofName? scope name with
  | some option =>
    constructor
    · intro h
      exact ⟨option, rfl, h⟩
    · rintro ⟨_, ⟨⟩, h⟩
      exact h
  | none =>
    constructor
    · intro h
      cases hswitch : Switch.ofName? scope name <;> rw [hswitch] at h <;> cases h
    · rintro ⟨_, ⟨⟩, -⟩

theorem takeNamed_eq_ok {scope : Scope} {given given' : Given} {name : String} :
    takeNamed scope given name = .ok given' ↔
      ∃ switch, Switch.ofName? scope name = some switch ∧ given.takeSwitch switch = .ok given' := by
  unfold takeNamed
  cases Switch.ofName? scope name with
  | some switch =>
    constructor
    · intro h
      exact ⟨switch, rfl, h⟩
    · rintro ⟨_, ⟨⟩, h⟩
      exact h
  | none =>
    constructor
    · intro h
      cases h
    · rintro ⟨_, ⟨⟩, -⟩

/-- One option, and those behind it. -/
theorem Takes.exists_takesAll {scope : Scope} {given given' given'' : Given} {word : String}
    {values words rest : List String} (h : Takes scope given word values given')
    (hrest : ∃ taken, words = taken ++ rest ∧ TakesAll scope given' taken given'' ∧
      EndsOptions rest) :
    ∃ taken, word :: values ++ words = taken ++ rest ∧ TakesAll scope given taken given'' ∧
      EndsOptions rest := by
  obtain ⟨taken, rfl, htakes, hends⟩ := hrest
  exact ⟨word :: values ++ taken, (List.append_assoc _ _ _).symm, .option h htakes, hends⟩

theorem takesAll_of_takeOptions {scope : Scope} {given given' : Given} {words rest : List String}
    (h : takeOptions scope given words = .ok (given', rest)) :
    ∃ taken, words = taken ++ rest ∧ TakesAll scope given taken given' ∧ EndsOptions rest := by
  -- The reader stops where no word is left, at a word that is no option and at two dashes; every
  -- other step takes one option, of one of the four forms.
  induction given, words using takeOptions.induct scope with
  | case1 given =>
    cases h
    exact ⟨[], rfl, .nothing, fun word hword => by cases hword⟩
  | case2 given word words hword =>
    rw [takeOptions, hword] at h
    cases h
    refine ⟨[], rfl, .nothing, fun other hother => ?_⟩
    cases hother
    exact Or.inl hword
  | case3 given word words hword =>
    rw [takeOptions, hword] at h
    cases h
    refine ⟨[], rfl, .nothing, fun other hother => ?_⟩
    cases hother
    exact Or.inr hword
  | case4 given word words letters hword ih =>
    rw [takeOptions, hword] at h
    obtain ⟨given₁, htake, h⟩ := bind_eq_ok.1 h
    exact Takes.exists_takesAll (.letters hword htake) (ih given₁ h)
  | case5 given word words name value hword ih =>
    rw [takeOptions, hword] at h
    obtain ⟨given₁, htake, h⟩ := bind_eq_ok.1 h
    obtain ⟨option, hname, htake⟩ := takeAttached_eq_ok.1 htake
    exact Takes.exists_takesAll (.attached hword hname htake) (ih given₁ h)
  | case6 given word words name hword hname ih =>
    rw [takeOptions, hword] at h
    dsimp only at h
    rw [hname] at h
    obtain ⟨given₁, htake, h⟩ := bind_eq_ok.1 h
    obtain ⟨switch, hswitch, htake⟩ := takeNamed_eq_ok.1 htake
    exact Takes.exists_takesAll (.named hword hname hswitch htake) (ih given₁ h)
  | case7 given word name hword option hname =>
    rw [takeOptions, hword] at h
    dsimp only at h
    rw [hname] at h
    cases h
  | case8 given word name hword option hname value words hvalue ih =>
    rw [takeOptions, hword] at h
    dsimp only at h
    rw [hname] at h
    dsimp only at h
    rw [if_pos hvalue] at h
    obtain ⟨given₁, htake, h⟩ := bind_eq_ok.1 h
    exact Takes.exists_takesAll (.valued hword hname hvalue htake) (ih given₁ h)
  | case9 given word name hword option hname value words hvalue =>
    rw [takeOptions, hword] at h
    dsimp only at h
    rw [hname] at h
    dsimp only at h
    rw [if_neg hvalue] at h
    cases h

theorem takeOptions_of_takesAll {scope : Scope} {given given' : Given} {taken rest : List String}
    (h : TakesAll scope given taken given') (hrest : EndsOptions rest) :
    takeOptions scope given (taken ++ rest) = .ok (given', rest) := by
  induction h with
  | nothing =>
    -- What is left does not begin with an option, so the reader leaves it.
    cases rest with
    | nil => rfl
    | cons word rest =>
      rw [List.nil_append, takeOptions]
      rcases hrest word rfl with hword | hword <;> rw [hword]
  | option htake _ ih =>
    cases htake with
    | letters hword htake =>
      rw [List.singleton_append, List.cons_append, takeOptions, hword]
      exact bind_eq_ok.2 ⟨_, htake, ih⟩
    | attached hword hname htake =>
      rw [List.singleton_append, List.cons_append, takeOptions, hword]
      exact bind_eq_ok.2 ⟨_, takeAttached_eq_ok.2 ⟨_, hname, htake⟩, ih⟩
    | named hword hname hswitch htake =>
      rw [List.singleton_append, List.cons_append, takeOptions, hword]
      dsimp only
      rw [hname]
      exact bind_eq_ok.2 ⟨_, takeNamed_eq_ok.2 ⟨_, hswitch, htake⟩, ih⟩
    | valued hword hname hvalue htake =>
      rw [List.cons_append, List.cons_append, List.singleton_append, List.cons_append, takeOptions,
        hword]
      dsimp only
      rw [hname]
      dsimp only
      rw [if_pos hvalue]
      exact bind_eq_ok.2 ⟨_, htake, ih⟩

/-! ## Values in words of their own -/

/-- No switch is named as an option with a value. -/
theorem name_switch_ne (switch : Switch) :
    (ValueOption.allowed (some .registrars)).any (·.name == switch.name) = false := by
  cases switch <;> decide

theorem mem_allowed_registrars {scope : Scope} {option : ValueOption}
    (h : option ∈ ValueOption.allowed scope) :
    option ∈ ValueOption.allowed (some .registrars) := by
  cases option <;> decide

theorem ValueOption.name_of_ofName? {scope : Scope} {name : String} {option : ValueOption}
    (h : ValueOption.ofName? scope name = some option) : option.name = name := by
  have hname := List.find?_some h
  exact eq_of_beq hname

theorem Switch.name_of_ofName? {scope : Scope} {name : String} {switch : Switch}
    (h : Switch.ofName? scope name = some switch) : switch.name = name := by
  have hname := List.find?_some h
  exact eq_of_beq hname

/-- A word of its own is the value of exactly the options that await one. -/
theorem Takes.values {scope : Scope} {given given' : Given} {word : String} {values : List String}
    (h : Takes scope given word values given') :
    (values = [] ∧ ¬(Word.ofText word).awaitsValue = true) ∨
      ∃ value, values = [value] ∧ Word.ofText value = .plain ∧
        (Word.ofText word).awaitsValue = true := by
  cases h with
  | letters hword htake =>
    rw [hword]
    exact Or.inl ⟨rfl, Bool.false_ne_true⟩
  | attached hword hname htake =>
    rw [hword]
    exact Or.inl ⟨rfl, Bool.false_ne_true⟩
  | named hword hname hswitch htake =>
    refine Or.inl ⟨rfl, ?_⟩
    rw [hword, ← Switch.name_of_ofName? hswitch, Word.awaitsValue, name_switch_ne]
    exact Bool.false_ne_true
  | valued hword hname hvalue htake =>
    refine Or.inr ⟨_, rfl, hvalue, ?_⟩
    rw [hword]
    exact List.any_eq_true.2 ⟨_, mem_allowed_registrars (List.mem_of_find?_eq_some hname),
      beq_iff_eq.2 (ValueOption.name_of_ofName? hname)⟩

/-! ## Leaving words out -/

/-- Words of a kind are about a part of what is given: they are what gives it, and nothing else
depends on it. -/
structure IsAbout (kind : Word → Bool) (has : Given → Prop) (forget : Given → Given) : Prop where
  plain : ¬kind .plain = true
  separator : ¬kind .separator = true
  not_has : ¬has {}
  forget_empty : forget {} = {}
  takes : ∀ {scope given word values given'}, Takes scope given word values given' →
    (kind (.ofText word) = true ∧ has given' ∧ forget given' = forget given) ∨
      (¬kind (.ofText word) = true ∧ (has given' ↔ has given) ∧
        Takes scope (forget given) word values (forget given'))

namespace IsAbout

variable {kind : Word → Bool} {has : Given → Prop} {forget : Given → Given}
  (h : IsAbout kind has forget) {scope : Scope}

include h

theorem not_hasWord_values {given given' : Given} {word : String} {values : List String}
    (htake : Takes scope given word values given') : ¬hasWord kind values = true := by
  obtain ⟨rfl, -⟩ | ⟨value, rfl, hvalue, -⟩ := htake.values
  · exact Bool.false_ne_true
  · rw [hasWord, List.any_cons, List.any_nil, Bool.or_false, hvalue]
    exact h.plain

theorem without_of_takes {given given' : Given} {word : String} {values : List String}
    (htake : Takes scope given word values given') (rest : List String) :
    without kind (word :: values ++ rest) =
      if kind (.ofText word) = true then without kind rest
      else word :: values ++ without kind rest := by
  obtain ⟨rfl, hword⟩ | ⟨value, rfl, hvalue, hword⟩ := htake.values
  · split_ifs with hkind
    · exact without_cons hkind hword rest
    · exact without_cons_of_not hkind rest
  · split_ifs with hkind
    · exact without_cons_cons hkind hword value rest
    · have hplain : ¬kind (.ofText value) = true := hvalue ▸ h.plain
      exact (without_cons_of_not hkind _).trans
        (congrArg (word :: ·) (without_cons_of_not hplain rest))

theorem has_iff_hasWord {given given' : Given} {words : List String}
    (htakes : TakesAll scope given words given') :
    has given' ↔ has given ∨ hasWord kind words = true := by
  induction htakes with
  | nothing => rw [hasWord, List.any_nil, or_iff_left Bool.false_ne_true]
  | @option given given' _ word values words htake _ ih =>
    have hvalues : hasWord kind (word :: values ++ words) = true ↔
        kind (.ofText word) = true ∨ hasWord kind words = true := by
      unfold hasWord
      rw [List.cons_append, List.any_cons, List.any_append, Bool.or_eq_true, Bool.or_eq_true]
      exact or_congr_right (or_iff_right (h.not_hasWord_values htake))
    rw [ih, hvalues]
    -- An option of the kind gives what it is about; any other leaves that as it was.
    obtain ⟨hkind, hhas, -⟩ | ⟨hkind, hhas, -⟩ := h.takes htake
    · exact iff_of_true (Or.inl hhas) (Or.inr (Or.inl hkind))
    · rw [hhas, or_iff_right hkind]

/-- Options that are left are taken as before. -/
theorem exists_takesAll {given given' : Given} {words : List String}
    (htakes : TakesAll scope given words given') :
    ∃ left, (∀ rest, without kind (words ++ rest) = left ++ without kind rest) ∧
      TakesAll scope (forget given) left (forget given') := by
  induction htakes with
  | nothing => exact ⟨[], fun rest => rfl, .nothing⟩
  | @option given given' _ word values words htake _ ih =>
    obtain ⟨left, hleft, htakes⟩ := ih
    -- An option of the kind is left out with its value, and any other is taken as it stands.
    obtain ⟨hkind, -, hforget⟩ | ⟨hkind, -, hforget⟩ := h.takes htake
    · refine ⟨left, fun rest => ?_, hforget ▸ htakes⟩
      rw [List.append_assoc, h.without_of_takes htake, if_pos hkind, hleft]
    · refine ⟨word :: values ++ left, fun rest => ?_, .option hforget htakes⟩
      rw [List.append_assoc, h.without_of_takes htake, if_neg hkind, hleft, ← List.append_assoc]

end IsAbout

/-! ## Whole command lines -/

/-- A command line that is read: a command, what is given before it, and what is given after it. -/
structure IsRead (words : List String) (before : Given) (command : Command) (after : Given) :
    Prop where
  intro ::
  exists_words : ∃ start name middle last, words = start ++ name :: (middle ++ last) ∧
    TakesAll none {} start before ∧ Command.ofName? name = some command ∧
    TakesAll (some command) {} middle after ∧ (last = [] ∨ last = ["--"])

/-- The name of a command is no option. -/
theorem Command.ofText_of_ofName? {name : String} {command : Command}
    (h : Command.ofName? name = some command) : Word.ofText name = .plain := by
  have hname := List.find?_some h
  rw [← eq_of_beq hname]
  cases command <;> decide

theorem checkEnd_eq_ok_iff {words : List String} :
    Arguments.checkEnd words = .ok () ↔ words = [] ∨ words = ["--"] := by
  unfold Arguments.checkEnd
  split
  · exact iff_of_true rfl (Or.inl rfl)
  · exact iff_of_true rfl (Or.inr rfl)
  · next word rest hne =>
    refine iff_of_false (by exact nofun) ?_
    rintro (h | h)
    · cases h
    · cases h
      exact hne rfl rfl

theorem ofWords_eq_ok_iff {words : List String} {arguments : Arguments} :
    Arguments.ofWords words = .ok arguments ↔
      ∃ before command after, IsRead words before command after ∧
        Arguments.ofGiven before command after = .ok arguments := by
  unfold Arguments.ofWords
  rw [bind_eq_ok]
  constructor
  · rintro ⟨⟨before, rest⟩, hbefore, h⟩
    -- Options are taken twice, before the name of the command and behind it.
    obtain ⟨start, rfl, hstart, -⟩ := takesAll_of_takeOptions hbefore
    dsimp only at h
    split at h
    · cases h
    · next _ name words =>
      split_ifs at h
      · cases h
      · split at h
        · cases h
        · next command hname =>
          obtain ⟨⟨after, last⟩, hafter, hrest⟩ := bind_eq_ok.1 h
          obtain ⟨middle, rfl, hmiddle, -⟩ := takesAll_of_takeOptions hafter
          obtain ⟨u, hlast, hgiven⟩ := bind_eq_ok.1 hrest
          exact ⟨before, command, after,
            ⟨start, name, middle, last, rfl, hstart, hname, hmiddle, checkEnd_eq_ok_iff.1 hlast⟩,
            hgiven⟩
  · rintro ⟨before, command, after,
      ⟨start, name, middle, last, rfl, hstart, hname, hmiddle, hlast⟩, h⟩
    -- The name of the command is no option, and neither is what may end the line: both readers stop
    -- where they should.
    have hplain : EndsOptions (name :: (middle ++ last)) := by
      rintro _ ⟨⟩
      exact Or.inl (Command.ofText_of_ofName? hname)
    have hends : EndsOptions last := by
      obtain rfl | rfl := hlast
      · rintro _ ⟨⟩
      · rintro _ ⟨⟩
        exact Or.inr rfl
    refine ⟨(before, name :: (middle ++ last)), takeOptions_of_takesAll hstart hplain, ?_⟩
    dsimp only
    split_ifs with hhelp
    · rw [hhelp] at hname
      cases hname
    · rw [hname]
      exact bind_eq_ok.2 ⟨(after, last), takeOptions_of_takesAll hmiddle hends,
        bind_eq_ok.2 ⟨(), checkEnd_eq_ok_iff.2 hlast, h⟩⟩

namespace IsAbout

variable {kind : Word → Bool} {has : Given → Prop} {forget : Given → Given}
  (h : IsAbout kind has forget) {words : List String} {before after : Given} {command : Command}

include h

theorem isRead (hread : IsRead words before command after) :
    IsRead (without kind words) (forget before) command (forget after) := by
  obtain ⟨start, name, middle, last, rfl, hstart, hname, hmiddle, hlast⟩ := hread.exists_words
  obtain ⟨start', hstart', hbefore⟩ := h.exists_takesAll hstart
  obtain ⟨middle', hmiddle', hafter⟩ := h.exists_takesAll hmiddle
  rw [h.forget_empty] at hbefore hafter
  have hkind : ¬kind (.ofText name) = true := Command.ofText_of_ofName? hname ▸ h.plain
  have hend : without kind last = last := by
    obtain rfl | rfl := hlast
    · rfl
    · exact if_neg h.separator
  refine ⟨start', name, middle', last, ?_, hbefore, hname, hafter, hlast⟩
  rw [hstart', without_cons_of_not hkind, hmiddle', hend]

theorem hasWord_iff (hread : IsRead words before command after) :
    hasWord kind words = true ↔ has before ∨ has after := by
  obtain ⟨start, name, middle, last, rfl, hstart, hname, hmiddle, hlast⟩ := hread.exists_words
  have hkind : ¬kind (.ofText name) = true := Command.ofText_of_ofName? hname ▸ h.plain
  have hend : ¬hasWord kind last = true := by
    obtain rfl | rfl := hlast
    · exact Bool.false_ne_true
    · rw [hasWord, List.any_cons, List.any_nil, Bool.or_false]
      exact h.separator
  rw [h.has_iff_hasWord hstart, h.has_iff_hasWord hmiddle, or_iff_right h.not_has,
    or_iff_right h.not_has]
  unfold hasWord at hend ⊢
  rw [List.any_append, List.any_cons, List.any_append, Bool.or_eq_true, Bool.or_eq_true,
    Bool.or_eq_true, or_iff_right hkind, or_iff_left hend]

end IsAbout

end Rulebook.CommandLine
