import Rulebook.CommandLine.Options

/-!
Command lines, read word by word: options, the name of a command, and more options. The value of an
option follows it as a word of its own or behind an equals sign; a word of its own may not begin
with a dash, unless it is nothing else. What stands after the command takes the place of what stands
before it.
-/

namespace Rulebook.CommandLine

/-! ## Words -/

inductive Word where
  /-- An option by its name, with what is behind an equals sign. -/
  | long (name : String) (value : Option String)
  /-- Switches by their letters. -/
  | letters (letters : List Char)
  /-- Two dashes, after which no option can stand. -/
  | separator
  | plain
deriving DecidableEq, Repr, Inhabited

namespace Word

def ofLong (cs : List Char) : Word :=
  let name := String.ofList (cs.takeWhile (· ≠ '='))
  match cs.dropWhile (· ≠ '=') with
  | [] => .long name none
  | _ :: value => .long name (some (String.ofList value))

def ofText (word : String) : Word :=
  match word.toList with
  | ['-', '-'] => .separator
  | '-' :: '-' :: cs => ofLong cs
  | '-' :: c :: cs => .letters (c :: cs)
  | _ => .plain

end Word

/-! ## Options -/

def takeAttached (scope : Scope) (given : Given) (name value : String) : Except Stop Given :=
  match ValueOption.ofName? scope name, Switch.ofName? scope name with
  | some option, _ => given.take option value
  | none, some switch => .error (.usage (.unexpectedValue switch))
  | none, none => .error (.usage (.unknownOption ("--" ++ name)))

def takeNamed (scope : Scope) (given : Given) (name : String) : Except Stop Given :=
  match Switch.ofName? scope name with
  | some switch => given.takeSwitch switch
  | none => .error (.usage (.unknownOption ("--" ++ name)))

/-- Takes options up to the first word that is none, and leaves that word and those after it. -/
def takeOptions (scope : Scope) (given : Given) : List String → Except Stop (Given × List String)
  | [] => .ok (given, [])
  | word :: rest =>
    match Word.ofText word with
    | .plain => .ok (given, word :: rest)
    | .separator => .ok (given, word :: rest)
    | .letters letters => do takeOptions scope (← given.takeLetters scope letters) rest
    | .long name (some value) => do takeOptions scope (← takeAttached scope given name value) rest
    | .long name none =>
      match ValueOption.ofName? scope name with
      | none => do takeOptions scope (← takeNamed scope given name) rest
      | some option =>
        match rest with
        | [] => .error (.usage (.missingValue option))
        | value :: rest' =>
          -- What looks like an option is one, and never the value of the option before it.
          if Word.ofText value = .plain then do
            takeOptions scope (← given.take option value) rest'
          else .error (.usage (.missingValue option))

/-! ## Arguments -/

structure Arguments where
  log : Log.Settings
  rules : Path
  request : Run.Request
  dryRun : Bool
deriving DecidableEq, Repr, Inhabited

/-- A count, where the later place of two takes the place of the earlier one if it counts at all. -/
def laterCount (earlier later : Nat) : Nat := if later = 0 then earlier else later

def logSettings (before after : Given) : Log.Settings :=
  let verbose := laterCount before.verbose after.verbose
  let quiet := laterCount before.quiet after.quiet
  let level := after.logLevel.or before.logLevel
  -- A level that is named wins over the counts, which stop at both ends of the scale.
  { verbosity := level.getD (Log.Verbosity.ofRank (Log.Verbosity.info.rank + verbose - quiet))
    useEnvironment := verbose = 0 ∧ quiet = 0 ∧ level = none
    format := (after.logFormat.or before.logFormat).getD .pretty
    file := after.logFile.or before.logFile
    colors := after.color.or before.color = some .always }

def required {α : Type} (option : ValueOption) (value : Option α) : Except Stop α :=
  match value with
  | some value => .ok value
  | none => .error (.usage (.missingOption option))

/-- Refuses more and less verbosity in one place. -/
def checkVerbosity (given : Given) : Except Stop Unit :=
  if given.verbose ≠ 0 ∧ given.quiet ≠ 0 then .error (.usage .verboseAndQuiet) else .ok ()

def modeOf (command : Command) (given : Given) : Except Stop Run.Mode :=
  match command with
  | .registrars => do
    return .registrars {
      packageName := ← required .packageName given.packageName
      repositoryKey := given.repositoryKey
      compatibleLanguage := given.compatibleLanguage
      profileName := given.profileName.getD Registrar.defaultProfileName
      repositoryName := given.repositoryName.getD Registrar.defaultRepositoryName }
  | .ruleData => .ok .ruleData

namespace Arguments

def ofGiven (before : Given) (command : Command) (after : Given) : Except Stop Arguments := do
  checkVerbosity before
  checkVerbosity after
  if after.languages = [] then throw (.usage (.missingOption .language))
  let mode ← modeOf command after
  let rules ← required .rulesDirectory after.rulesDirectory
  let target ← required .targetDirectory after.targetDirectory
  return {
    log := logSettings before after
    rules, dryRun := after.dryRun
    request := { mode, target, languages := after.languages } }

/-- Refuses words after the options of a command; two dashes alone are none. -/
def checkEnd : List String → Except Stop Unit
  | [] => .ok ()
  | ["--"] => .ok ()
  | word :: _ => .error (.usage (.unexpectedWord word))

def ofWords (words : List String) : Except Stop Arguments := do
  let (before, rest) ← takeOptions none {} words
  match rest with
  | [] => throw (.usage .missingCommand)
  | word :: rest =>
    -- A command in its own right, which stands beside `--help`.
    if word = "help" then throw .help
    match Command.ofName? word with
    | none => throw (.usage (.unknownCommand word))
    | some command =>
      let (after, rest) ← takeOptions (some command) {} rest
      checkEnd rest
      ofGiven before command after

end Arguments

end Rulebook.CommandLine
