import Rulebook.Proofs.CommandLine.Words

/-!
What command lines say about verbosity. A level that is named decides, whatever else asks for more
or less; with either, the environment is not asked. Nothing but the verbosity comes from the words
about it: without them, a command line asks for the same and leaves the verbosity open.
-/

namespace Rulebook.CommandLine

/-! ## Words about verbosity -/

namespace Word

def isCount : Word → Bool
  | .long name none => name == "verbose" || name == "quiet"
  | .letters cs => cs.any fun c => c == 'v' || c == 'q'
  | _ => false

/-- Whether a word names a level, with the level behind an equals sign or in the next word. -/
def isLevel : Word → Bool
  | .long name _ => name == "log-level"
  | _ => false

/-- A word that begins with one dash has letters. -/
theorem ne_nil_of_ofText {word : String} {cs : List Char} (h : Word.ofText word = .letters cs) :
    cs ≠ [] := by
  unfold ofText at h
  split at h
  · cases h
  · unfold ofLong at h
    dsimp only at h
    split at h <;> cases h
  · cases h
    exact List.cons_ne_nil _ _
  · cases h

end Word

/-- A command line without all that is about verbosity. -/
def withoutVerbosity (words : List String) : List String :=
  without Word.isLevel (without Word.isCount words)

def hasVerbosity (words : List String) : Bool :=
  hasWord Word.isLevel words || hasWord Word.isCount words

/-! ## More and less -/

namespace Given

variable {scope : Scope} {given given' : Given} {option : ValueOption} {text : String}

def HasCount (given : Given) : Prop := given.verbose ≠ 0 ∨ given.quiet ≠ 0

def withoutCounts (given : Given) : Given := { given with verbose := 0, quiet := 0 }

@[simp] theorem take_withoutCounts (given : Given) (option : ValueOption) (text : String) :
    given.withoutCounts.take option text = (given.take option text).map withoutCounts := by
  have honce {α : Type} (x : Except Stop α) (f g : α → Given)
      (h : ∀ a, g a = (f a).withoutCounts) :
      (x >>= fun a => pure (g a)) = (x >>= fun a => pure (f a)).map withoutCounts := by
    cases x with
    | error e => rfl
    | ok a => exact congrArg Except.ok (h a)
  cases option with
  | language => rfl
  | _ => exact honce _ _ _ fun _ => rfl

theorem counts_of_take (h : given.take option text = .ok given') :
    given'.verbose = given.verbose ∧ given'.quiet = given.quiet := by
  cases option with
  | language =>
    cases h
    exact ⟨rfl, rfl⟩
  | _ =>
    obtain ⟨value, -, hgiven⟩ := bind_eq_ok.1 h
    cases hgiven
    exact ⟨rfl, rfl⟩

theorem hasCount_take (h : given.take option text = .ok given') :
    given'.HasCount ↔ given.HasCount := by
  unfold HasCount
  rw [(counts_of_take h).1, (counts_of_take h).2]

theorem min_countLimit_ne_zero (n : Nat) : min countLimit (n + 1) ≠ 0 := by
  unfold countLimit
  omega

/-- A switch asks for more or less verbosity, or has nothing to do with it. -/
theorem takeSwitch_cases {switch : Switch} (h : given.takeSwitch switch = .ok given') :
    ((switch = .verbose ∨ switch = .quiet) ∧ given'.HasCount ∧
      given'.withoutCounts = given.withoutCounts) ∨
    (switch = .dryRun ∧ (given'.HasCount ↔ given.HasCount) ∧
      given.withoutCounts.takeSwitch .dryRun = .ok given'.withoutCounts) := by
  cases switch with
  | verbose =>
    cases h
    exact Or.inl ⟨Or.inl rfl, Or.inl (min_countLimit_ne_zero _), rfl⟩
  | quiet =>
    cases h
    exact Or.inl ⟨Or.inr rfl, Or.inr (min_countLimit_ne_zero _), rfl⟩
  | dryRun =>
    rw [takeSwitch] at h
    split_ifs at h with hdry
    cases h
    exact Or.inr ⟨rfl, Iff.rfl, if_neg hdry⟩
  | help => cases h
  | version => cases h

theorem letter_of_ofLetter? {letter : Char} {switch : Switch}
    (h : Switch.ofLetter? scope letter = some switch) : switch.letter? = some letter := by
  have hletter := List.find?_some h
  exact eq_of_beq hletter

/-- Letters that are taken ask for more or less verbosity, and for nothing else. -/
theorem takeLetters_cases {cs : List Char} (h : given.takeLetters scope cs = .ok given') :
    (cs = [] ∧ given' = given) ∨
      ((cs.any fun c => c == 'v' || c == 'q') = true ∧ given'.HasCount ∧
        given'.withoutCounts = given.withoutCounts) := by
  induction cs generalizing given with
  | nil =>
    cases h
    exact Or.inl ⟨rfl, rfl⟩
  | cons c rest ih =>
    rw [takeLetters] at h
    split at h
    · cases h
    · next switch hswitch =>
      have hletter := letter_of_ofLetter? hswitch
      obtain ⟨given₁, htake, h⟩ := bind_eq_ok.1 h
      -- The switch of a dry run has no letter, so only the two that count are left.
      obtain ⟨hswitch, hhas, hforget⟩ | ⟨rfl, -⟩ := takeSwitch_cases htake
      · have hc : (c == 'v' || c == 'q') = true := by
          obtain rfl | rfl := hswitch <;> cases hletter <;> rfl
        refine Or.inr ⟨List.any_eq_true.2 ⟨c, List.mem_cons_self, hc⟩, ?_⟩
        obtain ⟨-, rfl⟩ | ⟨-, hhas', hforget'⟩ := ih h
        · exact ⟨hhas, hforget⟩
        · exact ⟨hhas', hforget'.trans hforget⟩
      · cases hletter

end Given

/-- No option with a value is named as a switch that counts. -/
theorem name_ne_count (option : ValueOption) :
    ¬Word.isCount (.long option.name none) = true := by
  cases option <;> decide

/-- A word that asks for more or less verbosity does nothing else. -/
theorem isAbout_counts : IsAbout Word.isCount Given.HasCount Given.withoutCounts where
  plain := Bool.false_ne_true
  separator := Bool.false_ne_true
  not_has := by
    rintro (h | h) <;> exact h rfl
  forget_empty := rfl
  takes h := by
    cases h with
    | letters hword htake =>
      rw [hword]
      -- Letters are counts only, and a word of letters has one of them at least.
      obtain ⟨rfl, -⟩ | hcounts := Given.takeLetters_cases htake
      · exact absurd rfl (Word.ne_nil_of_ofText hword)
      · exact Or.inl hcounts
    | attached hword hname htake =>
      rw [hword]
      refine Or.inr ⟨Bool.false_ne_true, Given.hasCount_take htake, .attached hword hname ?_⟩
      rw [Given.take_withoutCounts, htake]
      rfl
    | named hword hname hswitch htake =>
      rw [hword, ← Switch.name_of_ofName? hswitch]
      obtain ⟨rfl | rfl, hcounts⟩ | ⟨rfl, hhas, hforget⟩ := Given.takeSwitch_cases htake
      · exact Or.inl ⟨by decide, hcounts⟩
      · exact Or.inl ⟨by decide, hcounts⟩
      · exact Or.inr ⟨by decide, hhas, .named hword hname hswitch hforget⟩
    | valued hword hname hvalue htake =>
      rw [hword, ← ValueOption.name_of_ofName? hname]
      refine Or.inr ⟨name_ne_count _, Given.hasCount_take htake, .valued hword hname hvalue ?_⟩
      rw [Given.take_withoutCounts, htake]
      rfl

/-! ## Levels -/

namespace Given

variable {scope : Scope} {given given' : Given} {option : ValueOption} {text : String}

def HasLevel (given : Given) : Prop := given.logLevel ≠ none

def withoutLevel (given : Given) : Given := { given with logLevel := none }

/-- An option with a value names a level, or has nothing to do with it. -/
theorem take_cases (h : given.take option text = .ok given') :
    (option = .logLevel ∧ given'.HasLevel ∧ given'.withoutLevel = given.withoutLevel) ∨
    (option ≠ .logLevel ∧ (given'.HasLevel ↔ given.HasLevel) ∧
      given.withoutLevel.take option text = .ok given'.withoutLevel) := by
  cases option with
  | logLevel =>
    obtain ⟨level, honce, hgiven⟩ := bind_eq_ok.1 h
    cases hgiven
    refine Or.inl ⟨rfl, ?_, rfl⟩
    -- An option that is taken has a value.
    unfold once at honce
    split at honce <;> cases honce
    exact Option.some_ne_none _
  | language =>
    cases h
    exact Or.inr ⟨nofun, Iff.rfl, rfl⟩
  | _ =>
    obtain ⟨value, honce, hgiven⟩ := bind_eq_ok.1 h
    cases hgiven
    exact Or.inr ⟨nofun, Iff.rfl, bind_eq_ok.2 ⟨value, honce, rfl⟩⟩

theorem takeSwitch_level {switch : Switch} (h : given.takeSwitch switch = .ok given') :
    (given'.HasLevel ↔ given.HasLevel) ∧
      given.withoutLevel.takeSwitch switch = .ok given'.withoutLevel := by
  cases switch with
  | dryRun =>
    rw [takeSwitch] at h
    split_ifs at h with hdry
    cases h
    exact ⟨Iff.rfl, if_neg hdry⟩
  | help | version => cases h
  | verbose | quiet =>
    cases h
    exact ⟨Iff.rfl, rfl⟩

theorem takeLetters_level {cs : List Char} (h : given.takeLetters scope cs = .ok given') :
    (given'.HasLevel ↔ given.HasLevel) ∧
      given.withoutLevel.takeLetters scope cs = .ok given'.withoutLevel := by
  induction cs generalizing given with
  | nil =>
    cases h
    exact ⟨Iff.rfl, rfl⟩
  | cons c rest ih =>
    rw [takeLetters] at h ⊢
    split at h
    · cases h
    · next switch hswitch =>
      obtain ⟨given₁, htake, h⟩ := bind_eq_ok.1 h
      obtain ⟨hhas, hforget⟩ := takeSwitch_level htake
      obtain ⟨hrest, hforgets⟩ := ih h
      exact ⟨hrest.trans hhas, bind_eq_ok.2 ⟨_, hforget, hforgets⟩⟩

end Given

theorem name_ne_level {option : ValueOption} (h : option ≠ .logLevel) (value : Option String) :
    ¬Word.isLevel (.long option.name value) = true := by
  cases option with
  | logLevel => exact absurd rfl h
  | _ => exact ne_true_of_eq_false rfl

theorem switch_name_ne_level (switch : Switch) (value : Option String) :
    ¬Word.isLevel (.long switch.name value) = true := by
  cases switch <;> exact ne_true_of_eq_false rfl

/-- A word that names a level does nothing else. -/
theorem isAbout_level : IsAbout Word.isLevel Given.HasLevel Given.withoutLevel where
  plain := Bool.false_ne_true
  separator := Bool.false_ne_true
  not_has h := h rfl
  forget_empty := rfl
  takes h := by
    cases h with
    | letters hword htake =>
      obtain ⟨hhas, hforget⟩ := Given.takeLetters_level htake
      rw [hword]
      exact Or.inr ⟨Bool.false_ne_true, hhas, .letters hword hforget⟩
    | attached hword hname htake =>
      rw [hword, ← ValueOption.name_of_ofName? hname]
      obtain ⟨rfl, hlevel⟩ | ⟨hne, hhas, hforget⟩ := Given.take_cases htake
      · exact Or.inl ⟨rfl, hlevel⟩
      · exact Or.inr ⟨name_ne_level hne _, hhas, .attached hword hname hforget⟩
    | named hword hname hswitch htake =>
      obtain ⟨hhas, hforget⟩ := Given.takeSwitch_level htake
      rw [hword, ← Switch.name_of_ofName? hswitch]
      exact Or.inr ⟨switch_name_ne_level _ none, hhas, .named hword hname hswitch hforget⟩
    | valued hword hname hvalue htake =>
      rw [hword, ← ValueOption.name_of_ofName? hname]
      obtain ⟨rfl, hlevel⟩ | ⟨hne, hhas, hforget⟩ := Given.take_cases htake
      · exact Or.inl ⟨rfl, hlevel⟩
      · exact Or.inr ⟨name_ne_level hne _, hhas, .valued hword hname hvalue hforget⟩

/-! ## Arguments -/

section Arguments

variable {before after : Given} {command : Command} {arguments : Arguments} {words : List String}

theorem ofGiven_eq_ok_iff :
    Arguments.ofGiven before command after = .ok arguments ↔
      (checkVerbosity before = .ok () ∧ checkVerbosity after = .ok ()) ∧ after.languages ≠ [] ∧
      ∃ mode rules target, modeOf command after = .ok mode ∧
        required .rulesDirectory after.rulesDirectory = .ok rules ∧
        required .targetDirectory after.targetDirectory = .ok target ∧
        arguments = {
          log := logSettings before after
          rules
          dryRun := after.dryRun
          request := { mode, target, languages := after.languages } } := by
  unfold Arguments.ofGiven
  constructor
  · intro h
    obtain ⟨⟨⟩, hbefore, h⟩ := bind_eq_ok.1 h
    obtain ⟨⟨⟩, hafter, h⟩ := bind_eq_ok.1 h
    split_ifs at h with hlanguages
    · cases h
    · obtain ⟨mode, hmode, h⟩ := bind_eq_ok.1 h
      obtain ⟨rules, hrules, h⟩ := bind_eq_ok.1 h
      obtain ⟨target, htarget, h⟩ := bind_eq_ok.1 h
      cases h
      exact ⟨⟨hbefore, hafter⟩, hlanguages, mode, rules, target, hmode, hrules, htarget, rfl⟩
  · rintro ⟨⟨hbefore, hafter⟩, hlanguages, mode, rules, target, hmode, hrules, htarget, rfl⟩
    refine bind_eq_ok.2 ⟨(), hbefore, bind_eq_ok.2 ⟨(), hafter, ?_⟩⟩
    rw [if_neg hlanguages]
    exact bind_eq_ok.2 ⟨mode, hmode, bind_eq_ok.2 ⟨rules, hrules, bind_eq_ok.2
      ⟨target, htarget, rfl⟩⟩⟩

@[simp] theorem checkVerbosity_withoutCounts (given : Given) :
    checkVerbosity given.withoutCounts = .ok () := if_neg fun h => h.1 rfl

@[simp] theorem modeOf_withoutCounts (command : Command) (given : Given) :
    modeOf command given.withoutCounts = modeOf command given := by
  cases command <;> rfl

@[simp] theorem modeOf_withoutLevel (command : Command) (given : Given) :
    modeOf command given.withoutLevel = modeOf command given := by
  cases command <;> rfl

theorem ofGiven_withoutCounts (h : Arguments.ofGiven before command after = .ok arguments) :
    Arguments.ofGiven before.withoutCounts command after.withoutCounts =
      .ok { arguments with log := logSettings before.withoutCounts after.withoutCounts } := by
  obtain ⟨-, hlanguages, mode, rules, target, hmode, hrules, htarget, rfl⟩ :=
    ofGiven_eq_ok_iff.1 h
  exact ofGiven_eq_ok_iff.2 ⟨⟨checkVerbosity_withoutCounts _, checkVerbosity_withoutCounts _⟩,
    hlanguages, mode, rules, target, (modeOf_withoutCounts _ _).trans hmode, hrules, htarget, rfl⟩

theorem ofGiven_withoutLevel (h : Arguments.ofGiven before command after = .ok arguments) :
    Arguments.ofGiven before.withoutLevel command after.withoutLevel =
      .ok { arguments with log := logSettings before.withoutLevel after.withoutLevel } := by
  obtain ⟨hcheck, hlanguages, mode, rules, target, hmode, hrules, htarget, rfl⟩ :=
    ofGiven_eq_ok_iff.1 h
  exact ofGiven_eq_ok_iff.2
    ⟨hcheck, hlanguages, mode, rules, target, (modeOf_withoutLevel _ _).trans hmode, hrules,
      htarget, rfl⟩

theorem log_of_ofGiven (h : Arguments.ofGiven before command after = .ok arguments) :
    arguments.log = logSettings before after := by
  obtain ⟨-, -, mode, rules, target, -, -, -, rfl⟩ := ofGiven_eq_ok_iff.1 h
  rfl

def openVerbosity (settings : Log.Settings) : Log.Settings :=
  { settings with verbosity := .info, useEnvironment := true }

/-- Without all that is about verbosity, a command line asks for the same and leaves it open. -/
theorem ofWords_withoutVerbosity (h : Arguments.ofWords words = .ok arguments) :
    Arguments.ofWords (withoutVerbosity words) =
      .ok { arguments with log := openVerbosity arguments.log } := by
  obtain ⟨before, command, after, hread, hgiven⟩ := ofWords_eq_ok_iff.1 h
  have hleft := isAbout_level.isRead (isAbout_counts.isRead hread)
  have hopen := ofGiven_withoutLevel (ofGiven_withoutCounts hgiven)
  rw [log_of_ofGiven hgiven]
  exact ofWords_eq_ok_iff.2 ⟨_, command, _, hleft, hopen⟩

theorem laterCount_eq_zero_iff (earlier later : Nat) :
    laterCount earlier later = 0 ↔ earlier = 0 ∧ later = 0 := by
  unfold laterCount
  split_ifs <;> omega

theorem counts_eq_zero_iff :
    (laterCount before.verbose after.verbose = 0 ∧ laterCount before.quiet after.quiet = 0) ↔
      ¬(before.HasCount ∨ after.HasCount) := by
  rw [laterCount_eq_zero_iff, laterCount_eq_zero_iff]
  unfold Given.HasCount
  tauto

theorem level_eq_none_iff :
    after.logLevel.or before.logLevel = none ↔ ¬(before.HasLevel ∨ after.HasLevel) := by
  rw [Option.or_eq_none_iff]
  unfold Given.HasLevel
  tauto

/-- The environment is asked unless a command line says how much is logged. -/
theorem useEnvironment_eq (h : Arguments.ofWords words = .ok arguments) :
    arguments.log.useEnvironment = !hasVerbosity words := by
  obtain ⟨before, command, after, hread, hgiven⟩ := ofWords_eq_ok_iff.1 h
  have hasked : arguments.log.useEnvironment = true ↔
      ¬(before.HasCount ∨ after.HasCount) ∧ ¬(before.HasLevel ∨ after.HasLevel) := by
    rw [log_of_ofGiven hgiven, logSettings, decide_eq_true_iff, ← and_assoc, counts_eq_zero_iff,
      level_eq_none_iff]
  rw [Bool.eq_iff_iff, hasked, ← isAbout_counts.hasWord_iff hread,
    ← isAbout_level.hasWord_iff hread, hasVerbosity]
  cases hasWord Word.isCount words <;> cases hasWord Word.isLevel words <;> decide

/-- A level that is named decides, whatever asks for more or less. -/
theorem ofWords_withoutCounts (h : Arguments.ofWords words = .ok arguments)
    (hlevel : hasWord Word.isLevel words = true) :
    Arguments.ofWords (without Word.isCount words) = .ok arguments := by
  obtain ⟨before, command, after, hread, hgiven⟩ := ofWords_eq_ok_iff.1 h
  have hnamed : after.logLevel.or before.logLevel ≠ none :=
    fun hnone => level_eq_none_iff.1 hnone ((isAbout_level.hasWord_iff hread).1 hlevel)
  have hsame : logSettings before.withoutCounts after.withoutCounts = arguments.log := by
    obtain ⟨level, hlevel⟩ := Option.ne_none_iff_exists'.1 hnamed
    rw [log_of_ofGiven hgiven]
    unfold logSettings Given.withoutCounts
    dsimp only
    rw [hlevel]
    simp
  have hleft := ofGiven_withoutCounts hgiven
  rw [hsame] at hleft
  exact ofWords_eq_ok_iff.2 ⟨_, command, _, isAbout_counts.isRead hread, hleft⟩

end Arguments

end Rulebook.CommandLine
